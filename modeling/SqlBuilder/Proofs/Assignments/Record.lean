import Mathlib.Data.List.Induction
import Mathlib.Logic.Function.Basic
import SqlBuilder.Proofs.Conditions.Documented

/-!
# What has been assigned

Assignments are accepted call by call: literal SQL as it is given, and a column with the text of its
value. `Session.assigned` keeps the record of each query, in the order of the calls. It says nothing
of lists with positions in them. Of fields that are assigned together those before the first refused
one are accepted. A value is written with the number that comes next, as in a condition.

The record is laid out from its beginning to its end (`Assignment.laidOut`). An assignment to a
column that has one takes its place, and everything else is appended. What is laid out then has
every column once (`nodup_laidOut`), with the right side it was given last
(`assign_mem_laidOut`), and all of the literal SQL in its order (`raws_laidOut`).
-/

namespace SqlBuilder

/-- An assignment that was accepted. -/
inductive Assignment where
  | raw (statement : String)
  | assign (column right : String)
deriving DecidableEq

namespace Assignment

def text : Assignment → String
  | raw statement => statement
  | assign column right => column ++ " = " ++ right

/-- The column, if the assignment names one. -/
@[simp] def column? : Assignment → Option String
  | raw _ => none
  | assign column _ => some column

/-- The statement, if the assignment is literal SQL. -/
@[simp] def raw? : Assignment → Option String
  | raw statement => some statement
  | assign _ _ => none

/-- The right side, if the assignment is to this column. -/
@[simp] def right? (column : String) : Assignment → Option String
  | raw _ => none
  | assign other right => if other = column then some right else none

/-! ## Laying out -/

/-- The list with an assignment in the place of one to the same column, or at the end. -/
def place (a : Assignment) : List Assignment → List Assignment
  | [] => [a]
  | e :: es => if e.column?.isSome ∧ e.column? = a.column? then a :: es else e :: place a es

/-- The list with assignments placed one after the other. -/
def lay (es h : List Assignment) : List Assignment := h.foldl (fun es a => place a es) es

/-- The list of the assignments on record. -/
def laidOut (h : List Assignment) : List Assignment := lay [] h

/-- The right side that a column was given last. -/
def latest (column : String) (h : List Assignment) : Option String :=
  (h.filterMap (right? column)).getLast?

theorem laidOut_append (h more : List Assignment) :
    laidOut (h ++ more) = lay (laidOut h) more :=
  List.foldl_append

theorem laidOut_snoc (h : List Assignment) (a : Assignment) :
    laidOut (h ++ [a]) = place a (laidOut h) :=
  laidOut_append h [a]

section Place

variable (column right old : String) (es : List Assignment)

@[simp] theorem place_raw (statement : String) :
    place (raw statement) es = es ++ [raw statement] := by
  induction es with
  | nil => rfl
  | cons e es ih => cases e <;> simp [place, ih]

@[simp] theorem place_assign_raw (statement : String) :
    place (assign column right) (raw statement :: es) =
      raw statement :: place (assign column right) es := by
  simp [place]

@[simp] theorem place_assign_self :
    place (assign column right) (assign column old :: es) = assign column right :: es := by
  simp [place]

theorem place_assign_of_ne {other : String} (h : other ≠ column) :
    place (assign column right) (assign other old :: es) =
      assign other old :: place (assign column right) es := by
  simp [place, h]

/-- An assignment to a column replaces one that is there, or goes to the end. -/
theorem place_assign_cases :
    (∃ i old, es[i]? = some (assign column old) ∧
      place (assign column right) es = es.set i (assign column right)) ∨
    ((∀ old, assign column old ∉ es) ∧
      place (assign column right) es = es ++ [assign column right]) := by
  induction es with
  | nil => exact .inr ⟨fun _ => List.not_mem_nil, rfl⟩
  | cons e es ih =>
    by_cases he : ∃ old, e = assign column old
    · obtain ⟨old, rfl⟩ := he
      exact .inl ⟨0, old, rfl, place_assign_self column right old es⟩
    · have hskip : place (assign column right) (e :: es) =
          e :: place (assign column right) es := by
        cases e with
        | raw statement => exact place_assign_raw column right es statement
        | assign other old =>
          refine place_assign_of_ne column right old es fun heq => he ⟨old, ?_⟩
          rw [heq]
      rw [hskip]
      rcases ih with ⟨i, old, hi, hplace⟩ | ⟨hnone, hplace⟩
      · exact .inl ⟨i + 1, old, by simpa using hi, by rw [hplace, List.set_cons_succ]⟩
      · refine .inr ⟨fun old hmem => ?_, by rw [hplace, List.cons_append]⟩
        rcases List.mem_cons.1 hmem with rfl | hmem
        · exact he ⟨old, rfl⟩
        · exact hnone old hmem

end Place

theorem mem_place {a e : Assignment} {es : List Assignment} (h : e ∈ place a es) :
    e = a ∨ e ∈ es := by
  cases a with
  | raw statement => simpa [place_raw, or_comm] using h
  | assign column right =>
    rcases place_assign_cases column right es with ⟨i, old, -, hplace⟩ | ⟨-, hplace⟩
    · rw [hplace] at h
      exact (List.mem_or_eq_of_mem_set h).symm
    · rw [hplace] at h
      simpa [or_comm] using h

/-- Nothing is laid out that is not on record. -/
theorem mem_of_mem_laidOut {h : List Assignment} {e : Assignment} (he : e ∈ laidOut h) : e ∈ h := by
  induction h using List.reverseRecOn with
  | nil => exact he
  | append_singleton h a ih =>
    rw [laidOut_snoc] at he
    rcases mem_place he with rfl | he
    · exact List.mem_append_right _ (List.mem_singleton_self e)
    · exact List.mem_append_left _ (ih he)

/-! ## Columns -/

theorem columns_place_assign (column right : String) (es : List Assignment) :
    (place (assign column right) es).filterMap column? =
      if column ∈ es.filterMap column? then es.filterMap column?
      else es.filterMap column? ++ [column] := by
  induction es with
  | nil => rfl
  | cons e es ih =>
    cases e with
    | raw statement =>
      rw [place_assign_raw, List.filterMap_cons_none rfl, List.filterMap_cons_none rfl]
      exact ih
    | assign other old =>
      by_cases hother : other = column
      · subst hother
        simp
      · rw [place_assign_of_ne column right old es hother]
        simp only [List.filterMap_cons, column?, ih, List.mem_cons, Ne.symm hother, false_or]
        split_ifs <;> rfl

/-- Every column has one place. -/
theorem nodup_laidOut (h : List Assignment) : ((laidOut h).filterMap column?).Nodup := by
  induction h using List.reverseRecOn with
  | nil => exact List.nodup_nil
  | append_singleton h a ih =>
    rw [laidOut_snoc]
    cases a with
    | raw statement => simpa [List.filterMap_cons] using ih
    | assign column right =>
      rw [columns_place_assign]
      by_cases hmem : column ∈ (laidOut h).filterMap column?
      · rwa [if_pos hmem]
      · rw [if_neg hmem]
        exact List.nodup_append_comm.2 (List.nodup_cons.2 ⟨hmem, ih⟩)

theorem mem_columns {column right : String} {es : List Assignment} (h : assign column right ∈ es) :
    column ∈ es.filterMap column? :=
  List.mem_filterMap.2 ⟨_, h, rfl⟩

theorem assign_mem_place {es : List Assignment} (hes : (es.filterMap column?).Nodup)
    (column right other old : String) :
    assign other old ∈ place (assign column right) es ↔
      if other = column then old = right else assign other old ∈ es := by
  induction es with
  | nil => by_cases hother : other = column <;> simp [place, hother]
  | cons e es ih =>
    cases e with
    | raw statement => simpa using ih (by simpa [List.filterMap_cons] using hes)
    | assign third last =>
      obtain ⟨hthird, hnodup⟩ := List.nodup_cons.1 (show (third :: _).Nodup from hes)
      have hrest := ih hnodup
      by_cases heq : third = column
      · subst heq
        by_cases hother : other = third
        · subst hother
          have hnot : assign other old ∉ es := fun h => hthird (mem_columns h)
          simp [hnot]
        · simp [hother]
      · rw [place_assign_of_ne column right last es heq, List.mem_cons, hrest]
        by_cases hother : other = column
        · subst hother
          simp [Ne.symm heq]
        · simp [hother]

/-! ## The right side given last -/

theorem latest_append (column : String) (h more : List Assignment) :
    latest column (h ++ more) = (latest column more).or (latest column h) := by
  rw [latest, List.filterMap_append, List.getLast?_append]
  rfl

theorem assign_mem_of_latest {column right : String} {h : List Assignment}
    (hlatest : latest column h = some right) : assign column right ∈ h := by
  obtain ⟨a, ha, hright⟩ := List.mem_filterMap.1 (List.mem_of_getLast? hlatest)
  cases a with
  | raw statement => cases hright
  | assign other old =>
    by_cases hother : other = column
    · rw [right?, if_pos hother] at hright
      cases hright
      exact hother ▸ ha
    · rw [right?, if_neg hother] at hright
      cases hright

theorem exists_latest {column right : String} {h : List Assignment}
    (hmem : assign column right ∈ h) : ∃ last, latest column h = some last := by
  have hright : right ∈ h.filterMap (right? column) :=
    List.mem_filterMap.2 ⟨_, hmem, if_pos rfl⟩
  exact ⟨_, List.getLast?_eq_some_getLast (List.ne_nil_of_mem hright)⟩

/-- A column stands with the right side it was given last. -/
theorem assign_mem_laidOut {column right : String} {h : List Assignment} :
    assign column right ∈ laidOut h ↔ latest column h = some right := by
  induction h using List.reverseRecOn generalizing column right with
  | nil => simp [laidOut, lay, latest]
  | append_singleton h a ih =>
    rw [laidOut_snoc, latest_append]
    cases a with
    | raw statement => simpa [place_raw, latest, right?] using ih
    | assign other last =>
      rw [assign_mem_place (nodup_laidOut h)]
      by_cases hother : column = other
      · simp [hother, latest, right?, eq_comm]
      · simpa [hother, latest, right?, Ne.symm hother] using ih

/-- An assignment that is followed by another one to its column does not stand, unless it was made
again. -/
theorem not_mem_laidOut {before after : List Assignment} {column right next : String}
    (hnext : assign column next ∈ after) (hnot : assign column right ∉ after) :
    assign column right ∉ laidOut (before ++ assign column right :: after) := by
  intro hmem
  obtain ⟨last, hlast⟩ := exists_latest hnext
  have hlatest := assign_mem_laidOut.1 hmem
  rw [List.append_cons, latest_append, hlast] at hlatest
  exact hnot (assign_mem_of_latest (hlast.trans hlatest))

/-! ## Literal SQL -/

theorem raws_place_assign (column right : String) (es : List Assignment) :
    (place (assign column right) es).filterMap raw? = es.filterMap raw? := by
  induction es with
  | nil => rfl
  | cons e es ih =>
    cases e with
    | raw statement => simp [ih]
    | assign other old =>
      by_cases hother : other = column
      · subst hother
        simp [List.filterMap_cons]
      · simpa [place_assign_of_ne column right old es hother, List.filterMap_cons] using ih

/-- Literal SQL stays in its order. -/
theorem raws_laidOut (h : List Assignment) : (laidOut h).filterMap raw? = h.filterMap raw? := by
  induction h using List.reverseRecOn with
  | nil => rfl
  | append_singleton h a ih =>
    rw [laidOut_snoc, List.filterMap_append, ← ih]
    cases a with
    | raw statement => simp
    | assign column right => simp [raws_place_assign]

/-! ## Assigning -/

/-- The right side of an assignment, if the operand can be assigned. -/
def rightSide (v : Operand) (modifier : Option String) : Numbering String :=
  match v with
  | .raw sql => return sql
  | v => Numbering.operand v modifier

/-- The assignments of fields that are accepted, with the numbers behind `lastId`. -/
def accepted (modifier : Option String) : List (String × Operand) → Nat → List Assignment
  | [], _ => []
  | (column, v) :: rest, lastId =>
    match rightSide v modifier lastId with
    | none => []
    | some (right, n) => assign column right :: accepted modifier rest n

end Assignment

/-- The assignments of a call that are accepted, with the numbers behind `lastId`. -/
def Call.assigned {Q : Type} (lastId : Nat) : Call Q → List Assignment
  | setRaw statement => [.raw statement]
  | set column v modifier => Assignment.accepted modifier [(column, v)] lastId
  | setFields f modifier => Assignment.accepted modifier f.entries lastId
  | insertFields _ f => Assignment.accepted none f.entries lastId
  | _ => []

namespace Session

/-- What has been assigned in each query. -/
abbrev Assigned := String → List Assignment

/-- The record after a command. -/
def assignedStep (s : Session) (r : Assigned) : Command → Assigned
  | .create name how => s.recordCreation r [] name how
  | .call name c =>
    if (s.queries.get? name).isSome then
      Function.update r name (r name ++ c.assigned s.lastId)
    else r
  | _ => r

/-- The record after a script. -/
def assigned (s : Session) (r : Assigned) : List Command → Assigned
  | [] => r
  | c :: cs => (s.step c).2.assigned (s.assignedStep r c) cs

end Session
end SqlBuilder
