/-!
# Failures

Why a call can fail. A statement may lack something it needs, an argument may have a shape that
the call has no use for, a placeholder may have no value, and whoever runs the statement may
report a failure of its own. The wording of every failure is `Failure.message`.

A computation with a state that can fail goes on from the state that its first part left behind,
or fails there (`bind_of_ok`, `bind_of_error`).
-/

namespace SqlBuilder

/-- Something a statement needs. -/
inductive Requirement where
  | action
  | table
  | subqueryTable
  | deletedTable
  /-- A sub-query that stands for a column has exactly one column. -/
  | singleColumn
  | updatedValues
  | updateConditions
  | insertedValues
  | deleteConditions
  | joinedTable
  | joinOptions
  | rowColumns
  | other (text : String)
deriving DecidableEq, Repr

/-- Something in a shape that cannot be used. -/
inductive Misfit where
  /-- An operand that does not stand for a single value. -/
  | operand
  | column (kind : String)
  | assigned
  | cell (column : String)
  | condition (kind : String)
  | joinedTable
  | joinCondition (field : String)
  | other (text : String)
deriving DecidableEq, Repr

/-- Why a call failed. -/
inductive Failure where
  | missing (what : Requirement)
  | misfit (what : Misfit)
  /-- No value is stored for the placeholder. -/
  | unbound (token : String)
  /-- Whoever ran the statement reports a failure. -/
  | execution (reason : String)
deriving DecidableEq, Repr

def Requirement.message : Requirement → String
  | action =>
    "Query operation undefined, must identify if performing a " ++
      "select/update/insert/delete query."
  | table => "No table name has been defined"
  | subqueryTable => "No table name has been defined for a sub-query."
  | deletedTable => "You must define at least one table to delete from."
  | singleColumn => "Column level subqueries can only return a single column."
  | updatedValues => "No values to update have been defined"
  | updateConditions => "No where clauses have been defined for the update query."
  | insertedValues => "No values to insert have been defined"
  | deleteConditions => "No where clauses have been defined for the delete query."
  | joinedTable => "You must define a table to join against."
  | joinOptions => "You must define join options when joining against a subquery."
  | rowColumns => "Columns must be defined before adding rows as value lists."
  | other text => text

def Misfit.message : Misfit → String
  | operand => "Received unparsable object as field value."
  | column kind => "Unknown column type: " ++ kind
  | assigned => "Unknown data type in set clause"
  | cell name => "Unknown data type in row for column " ++ name
  | condition kind => "Where clause could not be processed. Found " ++ kind ++ " instead."
  | joinedTable => "You must define a table to join against"
  | joinCondition field =>
    "Encountered unexpected value while parsing a JOIN ON condition for " ++ field
  | other text => text

def Failure.message : Failure → String
  | missing what => "Precondition failed: " ++ what.message
  | misfit what => "Type error: " ++ what.message
  | unbound token => "The data binding " ++ token ++ " could not be found."
  | execution reason => "Execution error: " ++ reason

/-- The report of whoever ran the statement, if that is where the failure comes from. -/
def Failure.source? : Failure → Option String
  | execution reason => some reason
  | _ => none

/-! ## One step after the other -/

section Sequence

variable {σ α β : Type} {r : ExceptT Failure (StateM σ) α} {k : α → ExceptT Failure (StateM σ) β}
  {s t u : σ}

theorem bind_of_ok {a : α} (h : r s = (.ok a, t)) : (r >>= k) s = k a t := by
  simp only [bind, ExceptT.bind, StateT.bind, ExceptT.mk, h]
  rfl

theorem bind_of_error {f : Failure} (h : r s = (.error f, t)) : (r >>= k) s = (.error f, t) := by
  simp only [bind, ExceptT.bind, StateT.bind, ExceptT.mk, h]
  rfl

/-- What succeeds has first parts that succeed. -/
theorem bind_eq_ok {b : β} (h : (r >>= k) s = (.ok b, u)) :
    ∃ a t, r s = (.ok a, t) ∧ k a t = (.ok b, u) := by
  rcases hr : r s with ⟨_ | a, t⟩
  · rw [bind_of_error hr] at h
    cases h
  · exact ⟨a, t, rfl, (bind_of_ok hr).symm.trans h⟩

end Sequence

end SqlBuilder
