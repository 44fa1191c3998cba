import SqlBuilder.Proofs.Assignments.Record
import SqlBuilder.Proofs.Conditions.Follows
import SqlBuilder.Proofs.Frame

/-!
# Columns are assigned in their places

A query keeps its assignments as texts and, apart from them, the position at which each column is
assigned. Literal SQL takes up positions that no column has, and a batch of fields can be refused
when some of it has been assigned. Still the two agree after every call (`Query.LaysOut`): the
texts are those of one list of assignments, and the position of a column is where that list has it.

The position decides where the next text for the column goes. So the step that keeps this up is that
a text goes where its assignment is placed in the list (`LaysOut.put`); whether there is a next text
is told by the numbering (`Edit.set_cases`). A call then places the assignments that are accepted of
it one after the other (`Call.laysOut_run`), and the queries of a session lay out all that is on
record (`Session.laysOut_run`).
-/

namespace SqlBuilder

open Assignment

/-- The position is that of a column. -/
def Query.isPlace (q : Query) (i : Nat) : Bool :=
  q.assignedAt.keys.any fun column => q.assignedAt.get? column = some i

/-- The assignments at positions that no column has. -/
def Query.unplaced (q : Query) : List String :=
  (q.assignments.zipIdx.filter fun e => !q.isPlace e.2).map Prod.fst

/-- The texts are those of the list, and the position of a column is its place in the list. -/
structure Query.LaysOut (es : List Assignment) (q : Query) : Prop where
  texts : q.assignments = es.map Assignment.text
  places : ∀ column i, q.assignedAt.get? column = some i ↔
    ∃ right, es[i]? = some (.assign column right)

namespace Query.LaysOut

variable {q : Query} {es : List Assignment}

theorem nil (htexts : q.assignments = []) (hplaces : q.assignedAt = .empty) : q.LaysOut [] where
  texts := htexts
  places column i := by simp [hplaces]

theorem withBindings (h : q.LaysOut es) (b : Bindings) :
    Query.LaysOut es { q with bindings := b } := ⟨h.texts, h.places⟩

/-- Two columns have different places. -/
theorem place_injective (h : q.LaysOut es) {column other : String} {i : Nat}
    (hcolumn : q.assignedAt.get? column = some i) (hother : q.assignedAt.get? other = some i) :
    column = other := by
  obtain ⟨right, hright⟩ := (h.places column i).1 hcolumn
  obtain ⟨right', hright'⟩ := (h.places other i).1 hother
  cases hright.symm.trans hright'
  rfl

theorem place_lt (h : q.LaysOut es) {column : String} {i : Nat}
    (hcolumn : q.assignedAt.get? column = some i) : i < q.assignments.length := by
  obtain ⟨right, hright⟩ := (h.places column i).1 hcolumn
  rw [h.texts, List.length_map]
  exact (List.getElem?_eq_some_iff.1 hright).1

theorem isPlace_iff (q : Query) (i : Nat) :
    q.isPlace i = true ↔ ∃ column, q.assignedAt.get? column = some i := by
  simp only [Query.isPlace, List.any_eq_true, decide_eq_true_eq]
  exact ⟨fun ⟨column, _, h⟩ => ⟨column, h⟩,
    fun ⟨column, h⟩ => ⟨column, Entries.mem_keys_of_get? h, h⟩⟩

/-- Among texts from position `n` on, those at other positions are the literal SQL. -/
theorem filter_zipIdx_eq (q : Query) (es : List Assignment) (n : Nat)
    (h : ∀ i, q.isPlace (n + i) = true ↔ ∃ column right, es[i]? = some (.assign column right)) :
    (((es.map Assignment.text).zipIdx n).filter fun e => !q.isPlace e.2).map Prod.fst =
      es.filterMap raw? := by
  induction es generalizing n with
  | nil => rfl
  | cons a es ih =>
    have hrest := ih (n + 1) fun i => by
      rw [Nat.add_right_comm]
      exact h (i + 1)
    have hfirst := h 0
    cases a with
    | raw statement =>
      have hnot : q.isPlace n = false := by simpa using hfirst
      simp [hnot, hrest, Assignment.text]
    | assign column right =>
      have hplace : q.isPlace n = true := by simpa using hfirst
      simp [hplace, hrest, List.filterMap_cons]

/-- The assignments at other positions are the literal SQL, in its order. -/
theorem unplaced_eq (h : q.LaysOut es) : q.unplaced = es.filterMap raw? := by
  rw [Query.unplaced, h.texts]
  refine filter_zipIdx_eq q es 0 fun i => ?_
  rw [Nat.zero_add, isPlace_iff]
  exact exists_congr fun column => h.places column i

theorem getElem?_snoc_eq_some {a b : Assignment} {i : Nat} :
    (es ++ [a])[i]? = some b ↔ es[i]? = some b ∨ i = es.length ∧ a = b := by
  rcases Nat.lt_trichotomy i es.length with hi | rfl | hi
  · have hne : i ≠ es.length := by omega
    simp [List.getElem?_append_left hi, hne]
  · simp
  · have hne : i ≠ es.length := by omega
    have hnone : es[i]? = none := List.getElem?_eq_none (by omega)
    have hlong : (es ++ [a])[i]? = none := List.getElem?_eq_none (by simp; omega)
    simp [hlong, hnone, hne]

theorem push (h : q.LaysOut es) (statement : String) :
    Query.LaysOut (place (.raw statement) es)
      { q with assignments := q.assignments ++ [statement] } where
  texts := by simp [h.texts, Assignment.text]
  places column i := by simp [h.places, getElem?_snoc_eq_some]

/-- **One assignment.** A text goes where its assignment is placed. -/
theorem put (h : q.LaysOut es) (column right : String) :
    Query.LaysOut (place (.assign column right) es)
      (Edit.putAssignment column (column ++ " = " ++ right) q) := by
  rcases place_assign_cases column right es with ⟨i, old, hi, hplace⟩ | ⟨hnone, hplace⟩
  · have hat : q.assignedAt.get? column = some i := (h.places column i).2 ⟨old, hi⟩
    have hput : Edit.putAssignment column (column ++ " = " ++ right) q =
        { q with assignments := q.assignments.set i (column ++ " = " ++ right) } := by
      simp [Edit.putAssignment, hat, Option.filter, h.place_lt hat]
    have hlt : i < es.length := (List.getElem?_eq_some_iff.1 hi).1
    rw [hput, hplace]
    refine ⟨by simp [h.texts, Assignment.text], fun other j => ?_⟩
    rw [h.places other j, List.getElem?_set]
    by_cases hj : i = j
    · subst hj
      rw [if_pos rfl, if_pos hlt, hi]
      simp
    · rw [if_neg hj]
  · have hat : q.assignedAt.get? column = none := by
      cases hget : q.assignedAt.get? column with
      | none => rfl
      | some i =>
        obtain ⟨old, hold⟩ := (h.places column i).1 hget
        exact absurd (List.mem_of_getElem? hold) (hnone old)
    have hput : Edit.putAssignment column (column ++ " = " ++ right) q =
        { q with
          assignments := q.assignments ++ [column ++ " = " ++ right]
          assignedAt := q.assignedAt.insert column q.assignments.length } := by
      simp [Edit.putAssignment, hat]
    have hlength : q.assignments.length = es.length := by rw [h.texts, List.length_map]
    rw [hput, hplace]
    refine ⟨by simp [h.texts, Assignment.text], fun other i => ?_⟩
    rw [Dict.get?_insert, hlength]
    by_cases hother : column = other
    · subst hother
      have hnot : ∀ old, es[i]? ≠ some (.assign column old) :=
        fun old hold => hnone old (List.mem_of_getElem? hold)
      simp only [if_pos, getElem?_snoc_eq_some, hnot, false_or]
      simp [eq_comm]
    · simp [getElem?_snoc_eq_some, h.places, hother]

end Query.LaysOut

/-! ## Calls -/

theorem Edit.assignedText_follows (v : Operand) (modifier : Option String) :
    Follows (Edit.assignedText v modifier) (rightSide v modifier) Eq := by
  cases v with
  | raw sql => exact .pure rfl
  | value v => exact operand_follows (.value v) modifier
  | data v own => exact operand_follows (.data v own) modifier
  | list _ | object _ => exact .throw _

namespace Edit

variable {d : Draft} {es : List Assignment}

/-- An assignment is accepted if its right side has a text, which is put in place then. -/
theorem set_cases (column : String) (v : Operand) (modifier : Option String) (d : Draft) :
    (rightSide v modifier d.lastId = none ∧ ∃ f e b,
      set column v modifier d = (.error f, e) ∧ e.query = { d.query with bindings := b }) ∨
    ∃ right e b, rightSide v modifier d.lastId = some (right, e.lastId) ∧
      set column v modifier d = (.ok (), e) ∧
        e.query = putAssignment column (column ++ " = " ++ right)
          { d.query with bindings := b } := by
  have hb := assignedText_follows v modifier d.binder
  change Agrees _ _ (rightSide v modifier d.lastId) at hb
  rw [set, write_bind]
  rcases hr : assignedText v modifier d.binder with ⟨f | text, b⟩ <;>
    rcases hm : rightSide v modifier d.lastId with _ | ⟨right, n⟩ <;> rw [hr, hm] at hb
  · exact .inl ⟨rfl, f, d.withBinder b, b.bindings, rfl, rfl⟩
  · exact hb.elim
  · exact hb.elim
  · obtain ⟨rfl, rfl⟩ := hb
    exact .inr ⟨_, _, b.bindings, rfl, rfl, rfl⟩

theorem setEach_singleton (column : String) (v : Operand) (modifier : Option String) :
    setEach modifier [(column, v)] = set column v modifier :=
  bind_pure_unit

/-- Fields are assigned as far as they are accepted. -/
theorem setEach_laysOut (modifier : Option String) (fs : List (String × Operand))
    (h : d.query.LaysOut es) :
    (setEach modifier fs d).2.query.LaysOut (lay es (accepted modifier fs d.lastId)) := by
  induction fs generalizing d es with
  | nil => exact h
  | cons e fs ih =>
    obtain ⟨column, v⟩ := e
    rw [setEach, accepted]
    rcases set_cases column v modifier d with
      ⟨hnone, f, e, b, hset, he⟩ | ⟨right, e, b, hright, hset, he⟩
    · rw [bind_of_error hset, hnone]
      exact he.symm ▸ h.withBindings b
    · rw [bind_of_ok hset, hright]
      exact ih (he.symm ▸ (h.withBindings b).put column right)

end Edit

namespace Call

/-- The call is about assignments. -/
def assigns {Q : Type} : Call Q → Bool
  | setRaw _ | set .. | setFields .. | insertFields .. => true
  | _ => false

theorem assigned_of_not_assigns {Q : Type} {c : Call Q} (h : c.assigns = false) (lastId : Nat) :
    c.assigned lastId = [] := by
  cases c with
  | setRaw _ | set _ _ _ | setFields _ _ | insertFields _ _ => cases h
  | _ => rfl

/-- A call assigns the same whatever its names of queries stand for. -/
theorem assigned_resolve {Q R : Type} {find? : Q → Option R} {c : Call Q} {e : Call R}
    (h : c.resolve find? = some e) (lastId : Nat) : e.assigned lastId = c.assigned lastId := by
  cases c with
  | addCondition _ _ _ _ | fromSubquery _ _ | columns _ | selectColumns _ | addColumn _ _
  | join _ _ =>
    obtain ⟨_, -, rfl⟩ := Option.map_eq_some_iff.1 h
    rfl
  | _ =>
    cases h
    rfl

/-- A call that names a query which does not exist assigns nothing. -/
theorem assigned_of_unknown {Q R : Type} {find? : Q → Option R} {c : Call Q}
    (h : c.resolve find? = none) (lastId : Nat) : c.assigned lastId = [] := by
  refine assigned_of_not_assigns ?_ lastId
  cases c with
  | setRaw _ | set _ _ _ | setFields _ _ | insertFields _ _ => cases h
  | _ => rfl

/-- A call lays out what is accepted of it, and nothing else. -/
theorem laysOut_run {c : Call Query} {d : Draft} {es : List Assignment} (h : d.query.LaysOut es) :
    (c.run d).2.query.LaysOut (lay es (c.assigned d.lastId)) := by
  rw [run_snd]
  cases hc : c.assigns with
  | true =>
    cases c with
    | setRaw statement => exact h.push statement
    | set column v modifier =>
      have hset := Edit.setEach_laysOut modifier [(column, v)] h
      rwa [Edit.setEach_singleton] at hset
    | setFields f modifier => exact Edit.setEach_laysOut modifier f.entries h
    | insertFields mode f =>
      exact Edit.setEach_laysOut (d := (Edit.insertInto mode d).2) none f.entries
        ⟨h.texts, h.places⟩
    | _ => cases hc
  | false =>
    have hleaves : c.run.Leaves fun q => (q.assignments, q.assignedAt) := by
      refine leaves_run fun q => ?_
      cases c with
      | setRaw _ | set _ _ _ | setFields _ _ | insertFields _ _ => cases hc
      | _ => rfl
    obtain ⟨hassignments, hplaces⟩ := Prod.mk.inj (hleaves d)
    rw [assigned_of_not_assigns hc, ← run_snd]
    exact ⟨hassignments ▸ h.texts, hplaces ▸ h.places⟩

end Call

/-! ## Sessions -/

namespace Session

/-- The queries lay out what is on record. -/
def LaysOut (s : Session) (r : Assigned) : Prop :=
  ∀ name q, s.queries.get? name = some q → q.LaysOut (laidOut (r name))

theorem laysOut_step {s : Session} {r : Assigned} (h : s.LaysOut r) {c : Command}
    (hc : c.readsState = false) : (s.step c).2.LaysOut (s.assignedStep r c) := by
  have hblank (how : Creation) (q : Query) (hq : how.Begins q) : q.LaysOut (laidOut []) := by
    rw [hq]
    exact .nil rfl rfl
  cases c with
  | create name how =>
    exact fun _ _ =>
      recorded_creation (P := fun q h => q.LaysOut (laidOut h)) h hc (hblank how) name
  | call name c =>
    simp only [step, assignedStep]
    cases hq : s.queries.get? name with
    | none => exact h
    | some q =>
      cases he : c.resolve s.queries.get? with
      | none =>
        rw [Call.assigned_of_unknown he, List.append_nil, Function.update_eq_self, ite_self]
        exact h
      | some e =>
        refine fun _ _ => forall_update (P := fun q h => q.LaysOut (laidOut h)) h ?_ name
        rw [laidOut_append, ← Call.assigned_resolve he]
        exact Call.laysOut_run (d := ⟨q, s.lastId, []⟩) (h name q hq)
  | setDefaultBound _ | compile _ | literalText _ | state _ | equals _ _ | exec _ _ => exact h

/-- **Every run lays out its record.** -/
theorem laysOut_run {s : Session} (hs : s.queries = .empty) {cs : List Command}
    (hcs : ∀ c ∈ cs, c.readsState = false) (r : Assigned) :
    (s.run cs).2.LaysOut (s.assigned r cs) := by
  have hnone : s.LaysOut r := fun name q hq => by
    rw [hs] at hq
    cases hq
  clear hs
  induction cs generalizing s r with
  | nil => exact hnone
  | cons c cs ih =>
    obtain ⟨hc, hcs⟩ := List.forall_mem_cons.1 hcs
    exact ih hcs _ (laysOut_step hnone hc)

end Session
end SqlBuilder
