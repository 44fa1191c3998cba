import SqlBuilder.Bindings
import SqlBuilder.Operand

/-!
# The state of a query

A query holds, clause by clause, the fragments of SQL it will be written from. Fragments are
finished text, except that placeholders in them still stand for the values in `bindings`. What
order the clauses are written in, and which of them a statement needs, is decided only when the
query is compiled.

**Assignments.** `assignedAt` tells for a column where in `assignments` it is assigned, so that a
later assignment to it can take the same place.

**Rows.** An insert with rows is written from `columns` and `rows` alone; the values in its cells
are not bound to placeholders.
-/

namespace SqlBuilder

/-- The kind of a statement. -/
inductive Action where
  | select
  | insert
  | update
  | delete
deriving DecidableEq, Repr

/-- The kind of an insert. -/
inductive InsertMode where
  | insert
  | replace
  | insertIgnore
deriving DecidableEq, Repr

def InsertMode.keyword : InsertMode → String
  | insert => "INSERT"
  | replace => "REPLACE"
  | insertIgnore => "INSERT IGNORE"

/-- What stands between conditions. -/
inductive Connective where
  | and
  | or
deriving DecidableEq, Repr

def Connective.keyword : Connective → String
  | and => "AND"
  | or => "OR"

/-- The column list that stands for all columns. -/
def allColumns : List String := ["*"]

/-- A query in progress. -/
structure Query where
  action : Option Action := none
  insertMode : InsertMode := .insert
  database : Option String := none
  tableName : Option String := none
  aliasName : Option String := none
  /-- A sub-query, written out and named, that stands in for the table. -/
  subquery : Option String := none
  /-- The name of this query where it is a sub-query. -/
  asName : Option String := none
  columns : List String := allColumns
  conditions : List String := []
  /-- Without one, conditions are joined by AND. -/
  connective : Option Connective := none
  assignments : List String := []
  assignedAt : Dict Nat := .empty
  joins : List String := []
  orderBy : List String := []
  groupBy : List String := []
  distinct : Bool := false
  limit : Option String := none
  rows : List Fields := []
  bindings : Bindings := .empty
  /-- Compile to marks and values rather than to literals. -/
  boundParameters : Bool := true
  debug : Bool := false
deriving Inhabited

namespace Query

/-- The column list was never chosen. -/
def hasAllColumns (q : Query) : Bool := q.columns = allColumns

/-- A table with a name or a sub-query to read from. -/
def hasSource (q : Query) : Bool :=
  (q.tableName.any fun t => t ≠ "") || q.subquery.isSome

/-- The same rows in the same order. -/
def equalRows : List Fields → List Fields → Bool
  | [], [] => true
  | f :: fs, g :: gs => f.equals g && equalRows fs gs
  | _, _ => false

/-- Equality as queries: numbers in rows and bindings are compared as numbers. -/
def equals (a b : Query) : Bool :=
  a.action = b.action && a.insertMode = b.insertMode && a.database = b.database &&
  a.tableName = b.tableName && a.aliasName = b.aliasName && a.subquery = b.subquery &&
  a.asName = b.asName && a.columns = b.columns && a.conditions = b.conditions &&
  a.connective = b.connective && a.assignments = b.assignments &&
  a.assignedAt.equals (fun m n => m = n) b.assignedAt && a.joins = b.joins &&
  a.orderBy = b.orderBy && a.groupBy = b.groupBy && a.distinct = b.distinct &&
  a.limit = b.limit && equalRows a.rows b.rows && a.bindings.equals Value.equals b.bindings &&
  a.boundParameters = b.boundParameters && a.debug = b.debug

end Query
end SqlBuilder
