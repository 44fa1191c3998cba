import SqlBuilder.Proofs.Frame
import SqlBuilder.Proofs.Substitution.Edit

/-!
# Queries that differ in their conditions

No call looks at the conditions a query has: they are added to, or removed all together. So for two
queries that are the same but for conditions they had before, a call has the same answer, adds the
same conditions and does the same to every other part (`Call.run_beside`). By induction that is true
of any number of calls (`Call.runAll_beside`).
-/

namespace SqlBuilder

variable {old old' : List String}

/-- The query with other conditions. -/
def Query.withConditions (q : Query) (cs : List String) : Query := { q with conditions := cs }

/-- The draft with other conditions. -/
def Draft.withConditions (d : Draft) (cs : List String) : Draft :=
  { d with query := d.query.withConditions cs }

/-- The same drafts, but for the conditions they had before, if these are still there. -/
inductive Draft.Beside (old old' : List String) : Draft → Draft → Prop
  | added (d : Draft) (new : List String) :
    Beside old old' (d.withConditions (old ++ new)) (d.withConditions (old' ++ new))
  | cleared (d : Draft) : Beside old old' d d

/-! ## Edits -/

namespace Edit

/-- The edit does the same to drafts that differ in their conditions. -/
abbrev Blind {α : Type} (old old' : List String) (e : Edit α) : Prop :=
  Lockstep (Draft.Beside old old') e e

/-- The change does not look at the conditions and does not touch them. -/
def Spares (f : Query → Query) : Prop := ∀ q cs, f (q.withConditions cs) = (f q).withConditions cs

theorem spares_ite {p : Query → Bool} {f g : Query → Query}
    (hp : ∀ q cs, p (q.withConditions cs) = p q) (hf : Spares f) (hg : Spares g) :
    Spares fun q => if p q then f q else g q := by
  intro q cs
  simp only [hp]
  by_cases h : p q = true
  · rw [if_pos h, if_pos h]
    exact hf q cs
  · rw [if_neg h, if_neg h]
    exact hg q cs

theorem blind_write {α : Type} (r : Render α) : Blind old old' (write r) := by
  rintro _ _ (⟨d, new⟩ | d)
  · exact ⟨rfl, .added (d.withBinder (r d.binder).2) new⟩
  · exact ⟨rfl, .cleared _⟩

theorem blind_change {f : Query → Query} (hf : Spares f) : Blind old old' (change f) := by
  have hchange (d : Draft) (cs : List String) : (change f (d.withConditions cs)).2 =
      { d with query := f d.query : Draft }.withConditions cs := by
    rw [change_apply, Draft.withConditions, hf]
    rfl
  rintro _ _ (⟨d, new⟩ | d)
  · refine ⟨rfl, ?_⟩
    rw [hchange, hchange]
    exact .added _ new
  · exact ⟨rfl, .cleared _⟩

/-! ### Columns and rows -/

theorem blind_leaveAllColumns : Blind old old' leaveAllColumns :=
  blind_change (spares_ite (fun _ _ => rfl) (fun _ _ => rfl) fun _ _ => rfl)

theorem blind_addColumn (c : Column Query) (unique : Bool) :
    Blind old old' (addColumn c unique) :=
  .bind blind_leaveAllColumns fun _ => .bind (blind_write _) fun _ =>
    blind_change (spares_ite (fun _ _ => rfl) (fun _ _ => rfl) fun _ _ => rfl)

theorem blind_columns (cs : List (Column Query)) : Blind old old' (columns cs) := by
  have hadd : Blind old old' (addColumns cs) := by
    induction cs with
    | nil => exact .pure ()
    | cons c cs ih => exact .bind (blind_addColumn c false) fun _ => ih
  refine .bind (blind_change fun _ _ => rfl) fun _ => .bind hadd fun _ => blind_change ?_
  intro q cs
  by_cases hnone : q.columns = []
  · simp only [Query.withConditions, hnone, if_true]
  · simp only [Query.withConditions, hnone, if_false]

theorem blind_deleteFromTables (names : List String) (aliasName : Option String) :
    Blind old old' (deleteFromTables names aliasName) := by
  refine .bind (blind_change fun _ _ => rfl) fun _ => ?_
  cases names with
  | nil => exact .throw _
  | cons first rest =>
    cases aliasName with
    | none => exact blind_columns _
    | some a => exact .bind (blind_change fun _ _ => rfl) fun _ => blind_columns _

theorem blind_addRow (f : Fields) : Blind old old' (addRow f) := by
  unfold addRow
  cases badCell? f.entries with
  | some column => exact .throw _
  | none => exact .bind blind_leaveAllColumns fun _ => blind_change fun _ _ => rfl

theorem blind_addRowValues (vs : List Operand) : Blind old old' (addRowValues vs) := by
  -- The row is made for the columns of the draft, which are the same on both sides.
  have hrow (d : Draft) : Blind old old' (do
      require (!d.query.hasAllColumns && !d.query.columns.isEmpty) (.missing .rowColumns)
      addRow (.ofPairs (d.query.columns.zip vs))) :=
    .bind (.ite (.pure ()) (.throw _)) fun _ => blind_addRow _
  rintro _ _ (⟨d, new⟩ | d)
  · rw [addRowValues_apply, addRowValues_apply]
    exact hrow d (.added d new)
  · exact ⟨rfl, .cleared _⟩

/-! ### Assignments -/

theorem blind_set (column : String) (v : Operand) (modifier : Option String) :
    Blind old old' (set column v modifier) := by
  refine .bind (blind_write _) fun text => blind_change fun q cs => ?_
  have hplace : ((q.withConditions cs).assignedAt.get? column).filter
        (· < (q.withConditions cs).assignments.length) =
      (q.assignedAt.get? column).filter (· < q.assignments.length) := rfl
  rw [putAssignment, putAssignment, hplace]
  cases (q.assignedAt.get? column).filter (· < q.assignments.length) with
  | none => rfl
  | some i => rfl

theorem blind_setFields (f : Fields) (modifier : Option String) :
    Blind old old' (setFields f modifier) := by
  unfold setFields
  induction f.entries with
  | nil => exact .pure ()
  | cons e es ih => exact .bind (blind_set e.1 e.2 modifier) fun _ => ih

/-! ### Conditions -/

theorem blind_clearConditions : Blind old old' clearConditions := by
  rintro _ _ (⟨d, new⟩ | d)
  · exact ⟨rfl, .cleared _⟩
  · exact ⟨rfl, .cleared _⟩

theorem blind_addCondition (c : Condition Query) (v : Option Operand)
    (operator modifier : Option String) : Blind old old' (addCondition c v operator modifier) := by
  refine .bind (blind_write _) fun text => ?_
  rintro _ _ (⟨d, new⟩ | d)
  · refine ⟨rfl, ?_⟩
    have hadded : Draft.Beside old old' _ _ := .added d (new ++ text.toList)
    rwa [← List.append_assoc, ← List.append_assoc] at hadded
  · exact ⟨rfl, .cleared _⟩

theorem blind_between (field : String) (low high : Value) (modifier : Option String) :
    Blind old old' (between field low high modifier) :=
  .bind (blind_write _) fun _ => .bind (blind_write _) fun _ => blind_addCondition _ _ _ _

theorem blind_inRange (field : String) (low high : Value) :
    Blind old old' (inRange field low high) := by
  unfold inRange
  split
  · exact .pure ()
  · exact blind_addCondition _ _ _ _
  · exact blind_addCondition _ _ _ _
  · exact blind_between _ _ _ _

end Edit

/-! ## Calls -/

namespace Call

open Edit in
theorem edit_beside (c : Call Query) : c.edit.Blind old old' := by
  cases c with
  | insertFields mode f =>
    exact .bind (blind_change fun _ _ => rfl) fun _ => blind_setFields f none
  | tableOf _ _ _ | actOn _ _ _ =>
    exact .bind (blind_change fun _ _ => rfl) fun _ => blind_change fun _ _ => rfl
  | deleteFromTables names aliasName => exact blind_deleteFromTables names aliasName
  | fromSubquery _ _ | join _ _ =>
    exact .bind (blind_write _) fun _ => blind_change fun _ _ => rfl
  | columns cs => exact blind_columns cs
  | selectColumns cs => exact .bind (blind_change fun _ _ => rfl) fun _ => blind_columns cs
  | addColumn column unique => exact blind_addColumn column unique
  | set column v modifier => exact blind_set column v modifier
  | setFields f modifier => exact blind_setFields f modifier
  | addRow f => exact blind_addRow f
  | addRowValues vs => exact blind_addRowValues vs
  | clearConditions => exact blind_clearConditions
  | addCondition condition v operator modifier =>
    exact blind_addCondition condition v operator modifier
  | between field low high modifier => exact blind_between field low high modifier
  | inRange field low high => exact blind_inRange field low high
  | createBinding v modifier => exact .bind (blind_write _) fun _ => .pure ()
  | connective _ | comparisonMethod _ =>
    have hconnective (c : Option Connective) : (Edit.connective c).Blind old old' :=
      blind_change fun _ _ => rfl
    exact hconnective _
  | _ => exact blind_change fun _ _ => rfl

/-- A call does the same to drafts that differ in their conditions, with the same answer. -/
theorem run_beside (c : Call Query) : c.run.Blind old old' := by
  have hedit : c.edit.Blind old old' := c.edit_beside
  cases c with
  | createBinding v modifier => exact .bind (Edit.blind_write _) fun text => .pure (some text)
  | _ => exact .bind hedit fun _ => .pure none

/-- The answers to calls made in turn, and the draft they leave behind. -/
def runAll : List (Call Query) → Draft → List (Except Failure (Option String)) × Draft
  | [], d => ([], d)
  | c :: cs, d =>
    let (answer, e) := c.run d
    let (answers, e) := runAll cs e
    (answer :: answers, e)

/-- Any number of calls do the same to drafts that differ in their conditions. -/
theorem runAll_beside (cs : List (Call Query)) {d e : Draft} (h : d.Beside old old' e) :
    (runAll cs d).1 = (runAll cs e).1 ∧ (runAll cs d).2.Beside old old' (runAll cs e).2 := by
  induction cs generalizing d e with
  | nil => exact ⟨rfl, h⟩
  | cons c cs ih =>
    obtain ⟨hanswer, hdraft⟩ := c.run_beside h
    obtain ⟨hanswers, hlast⟩ := ih hdraft
    exact ⟨congrArg₂ List.cons hanswer hanswers, hlast⟩

end Call
end SqlBuilder
