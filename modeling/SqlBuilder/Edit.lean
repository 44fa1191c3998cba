import SqlBuilder.Column
import SqlBuilder.Condition
import SqlBuilder.Join

/-!
# Editing a query

Each edit writes the fragments it needs and then puts them into their clauses. Writing can fail,
and then the clauses stay as they were; what was bound for a fragment that came to nothing stays
bound, and its generated names stay used. Edits of several steps keep the steps done before one
fails.

`Edit` is a computation on a `Draft`: the query, the counter behind generated names, and the notes
left so far. `Edit.write` runs the writing of a fragment, which sees of the query only its
bindings.
-/

namespace SqlBuilder

/-- A query being edited. -/
structure Draft where
  query : Query
  /-- The number of names generated so far, for this query or any other. -/
  lastId : Nat
  notes : List Note

/-- A change to a query, which may fail. -/
abbrev Edit := ExceptT Failure (StateM Draft)

/-- The part of a draft that writing a fragment touches. -/
def Draft.binder (d : Draft) : Binder := ⟨d.query.bindings, d.lastId, d.notes⟩

/-- The draft after a fragment was written. -/
def Draft.withBinder (d : Draft) (b : Binder) : Draft :=
  ⟨{ d.query with bindings := b.bindings }, b.lastId, b.notes⟩

namespace Edit

/-- Write a fragment. -/
def write {α : Type} (r : Render α) : Edit α := fun d =>
  let (result, b) := r d.binder
  (result, d.withBinder b)

/-- Change the clauses of the query. -/
def change (f : Query → Query) : Edit Unit := modify fun d => { d with query := f d.query }

/-- Fail unless the condition holds. -/
def require (holds : Bool) (f : Failure) : Edit Unit := unless holds do throw f

theorem change_apply (f : Query → Query) (d : Draft) :
    change f d = (.ok (), { d with query := f d.query }) := rfl

/-- What comes after the writing of a fragment is done only if the fragment was written. -/
theorem write_bind {α β : Type} (r : Render α) (next : α → Edit β) (d : Draft) :
    (write r >>= next) d =
      match r d.binder with
      | (.ok a, b) => next a (d.withBinder b)
      | (.error f, b) => (.error f, d.withBinder b) := by
  rcases h : r d.binder with ⟨f | a, b⟩
  · exact bind_of_error (by rw [write, h])
  · exact bind_of_ok (by rw [write, h])

/-! ## Kind and source of the statement -/

def act (a : Action) : Edit Unit := change ({ · with action := a })

def insertInto (mode : InsertMode) : Edit Unit :=
  change ({ · with action := some .insert, insertMode := mode })

/-- Name the table, and the alias too if one is given. -/
def table (name : String) (aliasName : Option String) : Edit Unit :=
  change fun q => { q with tableName := name, aliasName := aliasName.or q.aliasName }

def database (name : String) : Edit Unit := change ({ · with database := name })

/-- Name the query, for where it becomes a sub-query. -/
def asName (name : String) : Edit Unit := change ({ · with asName := name })

/-- Read from a query, under the alias if one is given. -/
def fromSubquery (q : Query) (aliasName : Option String) : Edit Unit := do
  let text ← write { q with asName := aliasName.or q.asName }.embed
  change ({ · with subquery := text })

/-! ## Columns -/

/-- A list that stands for all columns gives way to the first column that is added. -/
def leaveAllColumns : Edit Unit :=
  change fun q => if q.hasAllColumns then { q with columns := [] } else q

/-- Add a column. A name may be kept from being added twice. -/
def addColumn (c : Column Query) (unique : Bool) : Edit Unit := do
  leaveAllColumns
  let text ← write c.text
  change fun q =>
    if unique && c.isName && text ∈ q.columns then q else { q with columns := q.columns ++ [text] }

def addColumns : List (Column Query) → Edit Unit
  | [] => return
  | c :: cs => do
    addColumn c false
    addColumns cs

/-- Replace the column list. An empty list stands for all columns. -/
def columns (cs : List (Column Query)) : Edit Unit := do
  change ({ · with columns := [] })
  addColumns cs
  change fun q => if q.columns = [] then { q with columns := allColumns } else q

def selectColumns (cs : List (Column Query)) : Edit Unit := do
  act .select
  columns cs

/-- Delete from several tables. With an alias the first table is the source under that alias, and
the alias stands for it in the list of tables. -/
def deleteFromTables (names : List String) (aliasName : Option String) : Edit Unit := do
  act .delete
  match names, aliasName with
  | [], _ => throw (.missing .deletedTable)
  | first :: rest, some a =>
    table first a
    columns ((a :: rest).map .name)
  | names, none => columns (names.map .name)

/-! ## Assignments -/

/-- The right-hand side of an assignment. -/
def assignedText (v : Operand) (modifier : Option String) : Render String :=
  match v with
  | .raw sql => return sql
  | .value _ | .data _ _ => Binder.bindOperand v modifier
  | .list _ | .object _ => throw (.misfit .assigned)

/-- Put an assignment in the place of an earlier one to the same column, or at the end. -/
def putAssignment (column clause : String) (q : Query) : Query :=
  match (q.assignedAt.get? column).filter (· < q.assignments.length) with
  | some i => { q with assignments := q.assignments.set i clause }
  | none =>
    { q with
      assignments := q.assignments ++ [clause]
      assignedAt := q.assignedAt.insert column q.assignments.length }

/-- Append an assignment that is already written. -/
def setRaw (statement : String) : Edit Unit :=
  change fun q => { q with assignments := q.assignments ++ [statement] }

/-- Assign an operand to a column. -/
def set (column : String) (v : Operand) (modifier : Option String) : Edit Unit := do
  let text ← write (assignedText v modifier)
  change (putAssignment column (column ++ " = " ++ text))

/-- Assign every field in order. -/
def setEach (modifier : Option String) : List (String × Operand) → Edit Unit
  | [] => return
  | (column, v) :: rest => do
    set column v modifier
    setEach modifier rest

def setFields (f : Fields) (modifier : Option String) : Edit Unit := setEach modifier f.entries

def insertFields (mode : InsertMode) (f : Fields) : Edit Unit := do
  insertInto mode
  setFields f none

/-! ## Rows -/

/-- The first field that cannot stand in a cell. -/
def badCell? : List (String × Operand) → Option String
  | [] => none
  | (column, .list _) :: _ | (column, .object _) :: _ => some column
  | _ :: rest => badCell? rest

/-- A column list with the names that it does not have yet at its end. -/
def withNames (columns : List String) : List String → List String
  | [] => columns
  | name :: names =>
    if name ∈ columns then withNames columns names else withNames (columns ++ [name]) names

/-- Add a row. Its fields become columns if they are not. -/
def addRow (f : Fields) : Edit Unit := do
  match badCell? f.entries with
  | some column => throw (.misfit (.cell column))
  | none =>
    leaveAllColumns
    change fun q => { q with columns := withNames q.columns f.keys, rows := q.rows ++ [f] }

/-- Add a row given cell by cell, in the order of the columns. -/
def addRowValues (vs : List Operand) : Edit Unit := do
  let q := (← get).query
  require (!q.hasAllColumns && !q.columns.isEmpty) (.missing .rowColumns)
  addRow (.ofPairs (q.columns.zip vs))

/-! ## Conditions -/

def clearConditions : Edit Unit := change ({ · with conditions := [] })

/-- Add a condition, or none if it comes to nothing. -/
def addCondition (c : Condition Query) (v : Option Operand)
    (operator modifier : Option String) : Edit Unit := do
  let text ← write (c.text v operator modifier)
  change fun q => { q with conditions := q.conditions ++ text.toList }

/-- Compare a field with both ends of a range. -/
def between (field : String) (low high : Value) (modifier : Option String) : Edit Unit := do
  let low ← write (Binder.bind low modifier)
  let high ← write (Binder.bind high modifier)
  addCondition (.raw (field ++ " BETWEEN " ++ low ++ " AND " ++ high)) none none none

/-- Compare a field with those ends of a range that are given. -/
def inRange (field : String) : Value → Value → Edit Unit
  | .null, .null => return
  | low, .null => addCondition (.raw field) (some (.value low)) (some ">=") none
  | .null, high => addCondition (.raw field) (some (.value high)) (some "<=") none
  | low, high => between field low high none

/-- The connective that a word asks for, if it does. -/
def connectiveOf? (word : String) : Option Connective :=
  let w := Text.trim word
  if w = "and" ∨ w = "AND" ∨ w = "yes" then some .and
  else if w = "or" ∨ w = "OR" ∨ w = "no" then some .or
  else none

def connective (c : Option Connective) : Edit Unit :=
  change fun q => { q with connective := c.or q.connective }

/-! ## The other clauses -/

def join (kind : Option JoinKind) (j : Join Query) : Edit Unit := do
  let text ← write (j.text kind)
  change fun q => { q with joins := q.joins ++ [text] }

def orderBy (columns : List String) : Edit Unit := change ({ · with orderBy := columns })

def groupBy (columns : List String) : Edit Unit := change ({ · with groupBy := columns })

def distinct (enable : Bool) : Edit Unit := change ({ · with distinct := enable })

/-- The clause for at most `most` rows after `offset` others. No rows at most means no limit. -/
def limitText (most offset : Nat) : Option String :=
  if most = 0 then none
  else if offset = 0 then some ("LIMIT " ++ most.repr)
  else some ("LIMIT " ++ offset.repr ++ ", " ++ most.repr)

def limit (most offset : Nat) : Edit Unit := change ({ · with limit := limitText most offset })

def boundParameters (enable : Bool) : Edit Unit := change ({ · with boundParameters := enable })

def debug (enable : Bool) : Edit Unit := change ({ · with debug := enable })

/-! ## Bindings -/

/-- Store a value under a name of the caller's. -/
def insertBinding (name : String) (v : Value) : Edit Unit :=
  change fun q => { q with bindings := Bindings.put q.bindings name v }

/-- Bind a value and hand out the text that stands for it. -/
def createBinding (v : Value) (modifier : Option String) : Edit String :=
  write (Binder.bind v modifier)

end Edit
end SqlBuilder
