import Mathlib.Control.Monad.Basic
import Mathlib.Tactic.SplitIfs
import SqlBuilder.Query.Compile

/-!
# Statements that can be written

Compiling writes the text of a statement first (`written`) and looks at its placeholders
afterwards (`finish`). The first stage reads no stored value and no setting of the query. If it
succeeds, there are two ways in which it can have done so:

* `Complete`: the query has all that its statement needs, and the text is `statementText`;
* `WritesRows`: the query is an insert with rows, and nothing is left to resolve.

Each way comes with what compiling is then (`Complete.compile_eq`, `WritesRows.compile_eq`), and
`written_eq_ok` says that there is no third.
-/

namespace SqlBuilder.Query

/-- The text of a statement, with its placeholders. -/
def statementText (q : Query) : Action → String
  | .select => q.selectText
  | .insert => spaced q.insertParts
  | .update => spaced q.updateParts
  | .delete => spaced q.deleteParts

/-- The query has the clauses that a statement of the kind cannot do without. -/
def HasClauses (q : Query) : Action → Prop
  | .select => True
  | .insert => q.rows = [] ∧ q.assignments ≠ []
  | .update => q.assignments ≠ [] ∧ q.conditions ≠ []
  | .delete => q.conditions ≠ []

/-- The query has all that a statement of the kind needs, and is no insert with rows. -/
structure Complete (q : Query) (a : Action) : Prop where
  action : q.action = some a
  source : q.hasSource = true
  clauses : q.HasClauses a

/-- The query is an insert that is written from its rows. -/
structure WritesRows (q : Query) : Prop where
  action : q.action = some .insert
  source : q.hasSource = true
  rows : q.rows ≠ []

/-- The first stage of compiling. -/
def written (q : Query) : Except Failure Written :=
  match q.action with
  | none => .error (.missing .action)
  | some a => if q.hasSource then q.write a else .error (.missing .table)

/-- The second stage of compiling. -/
def finish (q : Query) : Written → Except Failure Compiled
  | .template sql => q.resolve sql
  | .final compiled => .ok compiled

theorem compile_eq (q : Query) : q.compile = q.written.bind q.finish := by
  unfold compile written
  cases q.action with
  | none => rfl
  | some a =>
    by_cases hs : q.hasSource
    · simp only [hs, require, if_true]
      cases hw : q.write a with
      | error f => rfl
      | ok w => cases w <;> rfl
    · simp only [hs, require]
      rfl

/-! ## The ends of the first stage -/

theorem require_bind {α : Type} (holds : Bool) (what : Requirement) (r : Except Failure α) :
    (require holds what).bind (fun _ => r) = if holds then r else .error (.missing what) := by
  cases holds <;> rfl

theorem write_insert (q : Query) : q.write .insert =
    if q.rows.isEmpty then
      if !q.assignments.isEmpty then .ok (.template (q.statementText .insert))
      else .error (.missing .insertedValues)
    else .ok (.final q.insertRows) := by
  rw [write]
  split
  · exact require_bind _ _ _
  · rfl

theorem write_update (q : Query) : q.write .update =
    if !q.assignments.isEmpty then
      if !q.conditions.isEmpty then .ok (.template (q.statementText .update))
      else .error (.missing .updateConditions)
    else .error (.missing .updatedValues) := by
  rw [← require_bind, ← require_bind]
  rfl

theorem write_delete (q : Query) : q.write .delete =
    if !q.conditions.isEmpty then .ok (.template (q.statementText .delete))
    else .error (.missing .deleteConditions) := by
  rw [← require_bind]
  rfl

theorem written_of_complete {q : Query} {a : Action} (h : q.Complete a) :
    q.written = .ok (.template (q.statementText a)) := by
  obtain ⟨ha, hs, hc⟩ := h
  simp only [written, ha, hs, if_true]
  cases a with
  | select => rfl
  | insert =>
    obtain ⟨hrows, hset⟩ := hc
    simp [write_insert, hrows, hset]
  | update =>
    obtain ⟨hset, hwhere⟩ := hc
    simp [write_update, hset, hwhere]
  | delete => simp [write_delete, show q.conditions ≠ [] from hc]

theorem written_of_writesRows {q : Query} (h : q.WritesRows) :
    q.written = .ok (.final q.insertRows) := by
  obtain ⟨ha, hs, hrows⟩ := h
  simp [written, ha, hs, write_insert, hrows]

/-- What is written without a failure comes from a complete query or from rows. -/
theorem written_eq_ok {q : Query} {w : Written} (h : q.written = .ok w) :
    (∃ a, q.Complete a ∧ w = .template (q.statementText a)) ∨
      (q.WritesRows ∧ w = .final q.insertRows) := by
  unfold written at h
  split at h
  · cases h
  · rename_i a ha
    split at h
    · rename_i hs
      cases a with
      | select =>
        cases h
        exact .inl ⟨.select, ⟨ha, hs, trivial⟩, rfl⟩
      | insert =>
        rw [write_insert] at h
        split_ifs at h with hrows hset
        · cases h
          exact .inl ⟨.insert, ⟨ha, hs, by simpa using hrows, by simpa using hset⟩, rfl⟩
        · cases h
          exact .inr ⟨⟨ha, hs, by simpa using hrows⟩, rfl⟩
      | update =>
        rw [write_update] at h
        split_ifs at h with hset hwhere
        cases h
        exact .inl ⟨.update, ⟨ha, hs, by simpa using hset, by simpa using hwhere⟩, rfl⟩
      | delete =>
        rw [write_delete] at h
        split_ifs at h with hwhere
        cases h
        exact .inl ⟨.delete, ⟨ha, hs, by simpa [HasClauses] using hwhere⟩, rfl⟩
    · cases h

theorem Complete.compile_eq {q : Query} {a : Action} (h : q.Complete a) :
    q.compile = q.resolve (q.statementText a) := by
  rw [Query.compile_eq, written_of_complete h]
  rfl

theorem WritesRows.compile_eq {q : Query} (h : q.WritesRows) : q.compile = .ok q.insertRows := by
  rw [Query.compile_eq, written_of_writesRows h]
  rfl

end SqlBuilder.Query
