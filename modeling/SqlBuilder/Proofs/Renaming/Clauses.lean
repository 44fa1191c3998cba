import SqlBuilder.Proofs.Frame
import SqlBuilder.Proofs.Renaming.Fragments
import SqlBuilder.Proofs.Supply.Edit

/-!
# Calls on one clause

Some calls are about one clause of the query each: its columns, joins, conditions or assignments,
its ordering or grouping, or which of its rows are wanted (`Call.clause?`). Such a call changes
nothing but its clause and the bindings (`Call.leaves_rest`), and what it does to its clause
depends on that clause alone: made on two queries whose texts there are aligned, it leaves them
aligned, wherever the counter stands (`Call.run_shifts`).
-/

namespace SqlBuilder

open Binder (tokenOf)

/-! ## Clauses -/

/-- A clause of a query. -/
inductive Clause where
  | columns
  | joins
  | conditions
  | assignments
  | ordering
  | grouping
  /-- Whether rows are repeated, and how many of them are wanted. -/
  | paging
deriving DecidableEq

namespace Clause

/-- The texts of the clause. -/
def texts (q : Query) : Clause → List String
  | columns => q.columns
  | joins => q.joins
  | conditions => q.conditions
  | assignments => q.assignments
  | ordering => q.orderBy
  | grouping => q.groupBy
  | paging => q.limit.toList

/-- The clauses say the same in what is no text. -/
def Agrees (q r : Query) : Clause → Prop
  | assignments => q.assignedAt = r.assignedAt
  | paging => q.distinct = r.distinct
  | columns | joins | conditions | ordering | grouping => True

/-- The query without the clause and its bindings. -/
def rest (κ : Clause) (q : Query) : Query :=
  match κ with
  | columns => { q with columns := [], bindings := .empty }
  | joins => { q with joins := [], bindings := .empty }
  | conditions => { q with conditions := [], bindings := .empty }
  | assignments => { q with assignments := [], assignedAt := .empty, bindings := .empty }
  | ordering => { q with orderBy := [], bindings := .empty }
  | grouping => { q with groupBy := [], bindings := .empty }
  | paging => { q with distinct := false, limit := none, bindings := .empty }

/-- The texts of the clause are aligned, and for the rest it says the same. -/
def Aligned (κ : Clause) (N : String → String → Prop) (q r : Query) : Prop :=
  List.Forall₂ (SqlBuilder.Aligned N) (κ.texts q) (κ.texts r) ∧ κ.Agrees q r

variable {κ : Clause} {M N : String → String → Prop} {q r : Query}

theorem mem_texts {s : String} (h : s ∈ κ.texts q) : s ∈ q.texts := by
  unfold texts at h
  simp only [Query.texts, List.mem_append]
  cases κ <;> grind

theorem Aligned.mono (h : κ.Aligned M q r)
    (hMN : ∀ s ∈ κ.texts q, ∀ k ∈ placeholders s, ∀ l, M k l → N k l) : κ.Aligned N q r := by
  refine ⟨?_, h.2⟩
  have htexts := h.1
  generalize κ.texts q = ss at htexts hMN ⊢
  generalize κ.texts r = ts at htexts ⊢
  induction htexts with
  | nil => exact .nil
  | cons hs _ ih =>
    obtain ⟨hhead, htail⟩ := List.forall_mem_cons.1 hMN
    exact .cons (hs.mono hhead) (ih htail)

theorem Aligned.flip (h : κ.Aligned N q r) : κ.Aligned (fun k l => N l k) r q := by
  refine ⟨List.Forall₂.flip (h.1.imp fun _ _ => SqlBuilder.Aligned.flip), ?_⟩
  have hagrees := h.2
  cases κ <;> first | exact Eq.symm hagrees | trivial

theorem aligned_refl (h : ∀ s ∈ κ.texts q, ∀ k ∈ placeholders s, N k k) : κ.Aligned N q q := by
  refine ⟨List.forall₂_same.2 fun s hs => .refl (h s hs), ?_⟩
  cases κ <;> first | rfl | trivial

/-- The same choice on both sides. -/
theorem aligned_ite {p p' : Prop} [Decidable p] [Decidable p'] (hp : p ↔ p') {q' r' : Query}
    (h : κ.Aligned N q r) (h' : κ.Aligned N q' r') :
    κ.Aligned N (if p then q else q') (if p' then r else r') := by
  by_cases hp' : p'
  · rwa [if_pos (hp.2 hp'), if_pos hp']
  · rwa [if_neg (mt hp.1 hp'), if_neg hp']

theorem aligned_bindings {b c : Bindings} :
    κ.Aligned N { q with bindings := b } { r with bindings := c } ↔ κ.Aligned N q r := by
  cases κ <;> exact Iff.rfl

/-- Only what is left of the query without another clause counts. -/
theorem Aligned.congr_left {κ' : Clause} (hne : κ ≠ κ') {q' : Query}
    (hq : κ'.rest q' = κ'.rest q) (h : κ.Aligned N q r) : κ.Aligned N q' r := by
  have hrest (p : Query) : κ.Aligned N (κ'.rest p) r ↔ κ.Aligned N p r := by
    cases κ <;> cases κ' <;> first | exact Iff.rfl | exact absurd rfl hne
  rwa [← hrest, hq, hrest]

theorem Aligned.congr_right {κ' : Clause} (hne : κ ≠ κ') {r' : Query}
    (hr : κ'.rest r' = κ'.rest r) (h : κ.Aligned N q r) : κ.Aligned N q r' :=
  (h.flip.congr_left hne hr).flip

end Clause

/-! ## Edits made twice -/

/-- Up to the bound a placeholder is the same in both runs; what is generated is counted from `m`
in the one run and from `n` in the other. -/
inductive Shift (bound m n : Nat) (k l : String) : Prop
  | kept (heq : k = l) (h : ∀ i, bound < i → k ≠ tokenOf i)
  | fresh (h : Fresh m n k l)

/-- The drafts differ in the counter and in the placeholders of the clause. -/
structure Draft.Shifted (κ : Clause) (bound m n : Nat) (d e : Draft) : Prop where
  binder : Binder.Shifted m n d.binder e.binder
  clause : κ.Aligned (Shift bound m n) d.query e.query

/-- The edits do the same to drafts that differ in the counter. -/
abbrev Edit.Shifts (κ : Clause) (bound m n : Nat) (e e' : Edit Unit) : Prop :=
  Abreast (Draft.Shifted κ bound m n) (fun _ _ => True) e e'

theorem Aligned.shift {bound m n : Nat} {s t : String} (h : Aligned (Fresh m n) s t) :
    Aligned (Shift bound m n) s t := h.mono fun _ _ _ => .fresh

theorem Plain.shift {bound m n : Nat} {texts : List String} (h : Plain texts) :
    List.Forall₂ (Aligned (Shift bound m n)) texts texts := Plain.forall₂ h

namespace Edit

variable {κ : Clause} {bound m n : Nat}

theorem write_shifts {α : Type} {R : α → α → Prop} {r r' : Render α}
    (h : Abreast (Binder.Shifted m n) R r r') :
    Abreast (Draft.Shifted κ bound m n) R (write r) (write r') := by
  intro d e hde
  obtain ⟨hresult, hbinder⟩ := h hde.binder
  exact ⟨hresult, hbinder, Clause.aligned_bindings.2 hde.clause⟩

theorem change_shifts {f g : Query → Query} (hf : ∀ q, (f q).bindings = q.bindings)
    (hg : ∀ q, (g q).bindings = q.bindings)
    (h : ∀ q r, κ.Aligned (Shift bound m n) q r → κ.Aligned (Shift bound m n) (f q) (g r)) :
    Shifts κ bound m n (change f) (change g) := by
  intro d e hde
  refine ⟨.ok trivial, ?_, h _ _ hde.clause⟩
  change Binder.Shifted m n ⟨(f d.query).bindings, d.lastId, d.notes⟩
    ⟨(g e.query).bindings, e.lastId, e.notes⟩
  rw [hf, hg]
  exact hde.binder

/-! ### Columns -/

theorem leaveAllColumns_shifts : Shifts .columns bound m n leaveAllColumns leaveAllColumns := by
  have hbindings (q : Query) :
      (if q.hasAllColumns then { q with columns := [] } else q).bindings = q.bindings := by
    split <;> rfl
  refine change_shifts hbindings hbindings fun q r h => Clause.aligned_ite ?_ ⟨.nil, trivial⟩ h
  have hstar : q.columns = allColumns ↔ r.columns = allColumns :=
    Aligned.list_eq_iff (by decide) h.1
  simpa [Query.hasAllColumns] using hstar

theorem addColumn_shifts {c : Column Query} (hc : Plain c.sqlTexts) (hqueries : c.queries = [])
    (unique : Bool) : Shifts .columns bound m n (addColumn c unique) (addColumn c unique) := by
  have hbindings (s : String) (q : Query) :
      (if unique && c.isName && s ∈ q.columns then q
        else { q with columns := q.columns ++ [s] }).bindings = q.bindings := by
    split <;> rfl
  refine leaveAllColumns_shifts.bind fun _ _ _ =>
    (write_shifts (Column.text_renders hc hqueries)).bind fun s t hst =>
      change_shifts (hbindings s) (hbindings t) fun q r h => ?_
  have hadded : Clause.columns.Aligned (Shift bound m n) { q with columns := q.columns ++ [s] }
      { r with columns := r.columns ++ [t] } :=
    ⟨List.rel_append h.1 (.cons hst.1.shift .nil), trivial⟩
  cases hname : c.isName with
  | false => simpa using hadded
  | true =>
    obtain ⟨rfl, hs⟩ := hst.2 hname
    refine Clause.aligned_ite ?_ h hadded
    have hmem : s ∈ q.columns ↔ s ∈ r.columns := Aligned.mem_iff hs h.1
    simp only [hmem]

theorem columns_shifts {cs : List (Column Query)} (hcs : Plain (cs.flatMap Column.sqlTexts))
    (hqueries : cs.flatMap Column.queries = []) :
    Shifts .columns bound m n (columns cs) (columns cs) := by
  have hadd : Shifts .columns bound m n (addColumns cs) (addColumns cs) := by
    induction cs with
    | nil => exact .pure trivial
    | cons c cs ih =>
      obtain ⟨hc, hcs⟩ := Bindings.covers_append.1 hcs
      obtain ⟨hcqueries, hqueries⟩ := List.append_eq_nil_iff.1 hqueries
      exact (addColumn_shifts hc hcqueries false).bind fun _ _ _ => ih hcs hqueries
  have hbindings (q : Query) :
      (if q.columns = [] then { q with columns := allColumns } else q).bindings = q.bindings := by
    split <;> rfl
  refine Abreast.bind (R := fun _ _ => True)
    (change_shifts (fun _ => rfl) (fun _ => rfl) fun _ _ _ => ⟨.nil, trivial⟩) fun _ _ _ =>
      hadd.bind fun _ _ _ => change_shifts hbindings hbindings fun q r h => ?_
  have hstar : Plain allColumns := by decide
  refine Clause.aligned_ite ?_ ⟨hstar.shift, trivial⟩ h
  exact Aligned.list_eq_iff (List.forall_mem_nil _) h.1

/-! ### Assignments -/

theorem setRaw_shifts {statement : String} (h : Plain [statement]) :
    Shifts .assignments bound m n (setRaw statement) (setRaw statement) :=
  change_shifts (fun _ => rfl) (fun _ => rfl) fun _ _ hqr =>
    ⟨List.rel_append hqr.1 h.shift, hqr.2⟩

/-- The place of an assignment is found by its column alone. -/
theorem putAssignment_aligned {N : String → String → Prop} {column s t : String}
    (hst : Aligned N s t) {q r : Query} (h : Clause.assignments.Aligned N q r) :
    Clause.assignments.Aligned N (putAssignment column s q) (putAssignment column t r) := by
  obtain ⟨htexts, hplaces⟩ := h
  change List.Forall₂ (Aligned N) q.assignments r.assignments at htexts
  change q.assignedAt = r.assignedAt at hplaces
  unfold putAssignment
  rw [hplaces, htexts.length_eq]
  cases (r.assignedAt.get? column).filter (· < r.assignments.length) with
  | some i => exact ⟨Aligned.set hst htexts i, rfl⟩
  | none => exact ⟨List.rel_append htexts (.cons hst .nil), rfl⟩

theorem set_shifts {column : String} (hcolumn : Plain [column]) {v : Operand}
    {modifier : Option String} (h : Plain (v.sqlTexts ++ modifier.toList)) :
    Shifts .assignments bound m n (set column v modifier) (set column v modifier) := by
  have hbindings (s : String) (q : Query) : (putAssignment column s q).bindings = q.bindings := by
    unfold putAssignment
    split <;> rfl
  refine (write_shifts (assignedText_renders h)).bind fun s t hst =>
    change_shifts (hbindings _) (hbindings _) fun q r hqr => putAssignment_aligned ?_ hqr
  exact .glue (by decide) hcolumn.single hst.shift

theorem setFields_shifts {f : Fields} (hf : Plain f.sqlTexts) {modifier : Option String}
    (hmodifier : Plain modifier.toList) :
    Shifts .assignments bound m n (setFields f modifier) (setFields f modifier) := by
  unfold Fields.sqlTexts at hf
  unfold setFields
  generalize f.entries = es at hf ⊢
  induction es with
  | nil => exact .pure trivial
  | cons e es ih =>
    obtain ⟨hcolumn, hrest⟩ := Bindings.covers_cons.1 hf
    obtain ⟨hv, hes⟩ := Bindings.covers_append.1 hrest
    exact (set_shifts (by simp [hcolumn]) (Bindings.covers_append.2 ⟨hv, hmodifier⟩)).bind
      fun _ _ _ => ih hes

/-! ### Conditions -/

/-- A condition that is written to aligned texts is added. -/
theorem addCondition_shifts {c c' : Condition Query} {v : Option Operand}
    {operator modifier : Option String}
    (h : RendersOption m n (c.text v operator modifier) (c'.text v operator modifier)) :
    Shifts .conditions bound m n (addCondition c v operator modifier)
      (addCondition c' v operator modifier) :=
  (write_shifts h).bind fun _ _ hst => change_shifts (fun _ => rfl) (fun _ => rfl) fun _ _ hqr =>
    ⟨List.rel_append hqr.1 (hst.imp fun _ _ => Aligned.shift), trivial⟩

theorem between_shifts {field : String} (hfield : Plain [field]) (low high : Value)
    {modifier : Option String} (hmodifier : Plain modifier.toList) :
    Shifts .conditions bound m n (between field low high modifier)
      (between field low high modifier) := by
  refine (write_shifts (Binder.bind_renders low hmodifier)).bind fun _ _ hlow =>
    (write_shifts (Binder.bind_renders high hmodifier)).bind fun _ _ hhigh =>
      addCondition_shifts (Condition.textOfRaw_renders ?_)
  exact .glue (by decide) (.glue (by decide) hfield.single hlow) hhigh

theorem inRange_shifts {field : String} (hfield : Plain [field]) (low high : Value) :
    Shifts .conditions bound m n (inRange field low high) (inRange field low high) := by
  have hone (v : Value) {operator : String} (hoperator : Plain [operator]) :
      Shifts .conditions bound m n
        (addCondition (.raw field) (some (.value v)) (some operator) none)
        (addCondition (.raw field) (some (.value v)) (some operator) none) :=
    addCondition_shifts (Condition.text_renders hfield rfl (by simp [Operand.sqlTexts]) hoperator
      (Bindings.covers_nil _))
  unfold inRange
  split
  · exact .pure trivial
  · exact hone _ (by decide)
  · exact hone _ (by decide)
  · exact between_shifts hfield _ _ (Bindings.covers_nil _)

end Edit

/-! ## Calls -/

namespace Call

/-- The clause that a call is about, if it is about one and nothing else. -/
def clause? {Q : Type} : Call Q → Option Clause
  | columns _ | addColumn _ _ => some .columns
  | join _ _ => some .joins
  | clearConditions | addCondition _ _ _ _ | between _ _ _ _ | inRange _ _ _ => some .conditions
  | setRaw _ | set _ _ _ | setFields _ _ => some .assignments
  | orderBy _ => some .ordering
  | groupBy _ => some .grouping
  | distinct _ | limit _ _ => some .paging
  | _ => none

variable {c : Call Query} {κ : Clause}

theorem run_of_clause (h : c.clause? = some κ) : c.run = (do c.edit; return none) := by
  cases c with
  | createBinding _ _ => cases h
  | _ => rfl

/-- A call about a clause leaves everything else of the query but its bindings. -/
theorem leaves_rest (h : c.clause? = some κ) : c.run.Leaves κ.rest := by
  refine leaves_run fun q => ?_
  cases c with
  | columns _ | addColumn _ _ | join _ _ | clearConditions | addCondition _ _ _ _
  | between _ _ _ _ | inRange _ _ _ | setRaw _ | set _ _ _ | setFields _ _ | orderBy _ | groupBy _
  | distinct _ | limit _ _ =>
    cases h
    rfl
  | _ => cases h

/-- A call about a clause does the same to it wherever the counter stands. -/
theorem run_shifts {bound m n : Nat} (h : c.clause? = some κ) (hqueries : c.queries = [])
    (hplain : Plain c.sqlTexts) :
    Abreast (Draft.Shifted κ bound m n) (fun _ _ => True) c.run c.run := by
  rw [run_of_clause h]
  refine Abreast.bind (R := fun _ _ => True) ?_ fun _ _ _ => .pure trivial
  cases c with
  | columns cs =>
    cases h
    exact Edit.columns_shifts hplain hqueries
  | addColumn column unique =>
    cases h
    exact Edit.addColumn_shifts hplain hqueries unique
  | join kind j =>
    cases h
    exact (Edit.write_shifts (Join.text_renders hplain hqueries)).bind fun _ _ hst =>
      Edit.change_shifts (fun _ => rfl) (fun _ => rfl) fun _ _ hqr =>
        ⟨List.rel_append hqr.1 (.cons hst.shift .nil), trivial⟩
  | addCondition condition v operator modifier =>
    cases h
    simp only [Plain, sqlTexts, Bindings.covers_append] at hplain
    obtain ⟨⟨⟨hcondition, hv⟩, hoperator⟩, hmodifier⟩ := hplain
    exact Edit.addCondition_shifts
      (Condition.text_renders hcondition hqueries hv hoperator hmodifier)
  | between field low high modifier =>
    cases h
    obtain ⟨hfield, hmodifier⟩ := Bindings.covers_cons.1 hplain
    exact Edit.between_shifts (by simp [hfield]) low high hmodifier
  | inRange field low high =>
    cases h
    exact Edit.inRange_shifts hplain low high
  | setRaw statement =>
    cases h
    exact Edit.setRaw_shifts hplain
  | set column v modifier =>
    cases h
    rw [sqlTexts, List.cons_append] at hplain
    obtain ⟨hcolumn, hrest⟩ := Bindings.covers_cons.1 hplain
    exact Edit.set_shifts (by simp [hcolumn]) hrest
  | setFields f modifier =>
    cases h
    obtain ⟨hf, hmodifier⟩ := Bindings.covers_append.1 hplain
    exact Edit.setFields_shifts hf hmodifier
  | clearConditions =>
    cases h
    exact Edit.change_shifts (fun _ => rfl) (fun _ => rfl) fun _ _ _ => ⟨.nil, trivial⟩
  | orderBy _ | groupBy _ =>
    cases h
    exact Edit.change_shifts (fun _ => rfl) (fun _ => rfl) fun _ _ _ => ⟨hplain.shift, trivial⟩
  | distinct enable =>
    cases h
    exact Edit.change_shifts (fun _ => rfl) (fun _ => rfl) fun _ _ hqr => ⟨hqr.1, rfl⟩
  | limit most offset =>
    cases h
    exact Edit.change_shifts (fun _ => rfl) (fun _ => rfl) fun _ _ hqr =>
      ⟨Plain.shift (Edit.covers_limitText most offset), hqr.2⟩
  | _ => cases h

end Call
end SqlBuilder
