import SqlBuilder.Failure
import SqlBuilder.Literal
import SqlBuilder.Query.Statement

/-!
# Compiling a query

A compiled query is a text with a mark `?` for every bound value and the values in the order of
their marks. Compiling has two stages: the text of the statement is written, which fails if the
statement lacks something, and then its placeholders are resolved, which fails at the first one
without a stored value.

**Rows.** An insert with rows skips the second stage. Its marks stand for the cells of its rows,
row by row, and whatever looks like a placeholder in its text stays as it is.

**Literals.** Without bound parameters every placeholder is replaced by the literal of its value,
and no values are handed out.
-/

namespace SqlBuilder

/-- A text with marks and the values for them, in order. -/
structure Compiled where
  query : String
  data : List Value
deriving DecidableEq, Inhabited

namespace Query

/-! ## Rows -/

/-- A value in the cell of a row, with the values to bind for it. -/
def cellOfValue : Value → String × List Value
  | .null => ("NULL", [])
  | .bool true => ("TRUE", [])
  | .bool false => ("FALSE", [])
  | .time t => ("\x27" ++ t.sqlText ++ "\x27", [])
  | v => ("?", [v])

/-- The cell of a row. What is not given, or is no single value, is null. -/
def cell : Option Operand → String × List Value
  | some (.raw sql) => (sql, [])
  | some (.value v) | some (.data v _) => cellOfValue v
  | some (.list _) | some (.object _) | none => ("NULL", [])

/-- The cells of a row, one for every column. -/
def cells (columns : List String) (row : Fields) : List (String × List Value) :=
  columns.map fun c => cell (row.get? c)

/-- A row between parentheses. -/
def rowText (cells : List (String × List Value)) : String :=
  "(" ++ listed (cells.map Prod.fst) ++ ")"

/-- An insert with rows. -/
def insertRows (q : Query) : Compiled :=
  let rows := q.rows.map (cells q.columns)
  { query := spaced ([q.insertMode.keyword ++ " INTO", q.source, "("] ++ q.chosenColumns ++
      [") VALUES", listed (rows.map rowText)])
    data := rows.flatMap fun r => r.flatMap Prod.snd }

/-! ## Placeholders -/

/-- Replace the placeholders of a text. -/
def resolve (q : Query) (sql : String) : Except Failure Compiled :=
  let t := Placeholder.template sql
  let tokens := Placeholder.tokens t
  match tokens.find? fun k => (q.bindings.get? k).isNone with
  | some k => .error (.unbound k)
  | none =>
    if q.boundParameters then
      .ok ⟨Placeholder.fill (fun _ => "?") t, tokens.filterMap q.bindings.get?⟩
    else
      .ok ⟨Placeholder.fill (fun k => (q.bindings.get? k).elim k Value.literal) t, []⟩

/-! ## Statements -/

/-- A statement as far as it is written before placeholders are resolved. -/
inductive Written where
  | template (sql : String)
  | final (compiled : Compiled)
deriving DecidableEq

/-- Fail unless the condition holds. -/
def require (holds : Bool) (what : Requirement) : Except Failure Unit :=
  if holds then .ok () else .error (.missing what)

/-- Write the statement of the given kind. -/
def write (q : Query) : Action → Except Failure Written
  | .select => .ok (.template q.selectText)
  | .insert =>
    if q.rows.isEmpty then do
      require (!q.assignments.isEmpty) .insertedValues
      return .template (spaced q.insertParts)
    else .ok (.final q.insertRows)
  | .update => do
    require (!q.assignments.isEmpty) .updatedValues
    require (!q.conditions.isEmpty) .updateConditions
    return .template (spaced q.updateParts)
  | .delete => do
    require (!q.conditions.isEmpty) .deleteConditions
    return .template (spaced q.deleteParts)

/-- Compile the query. -/
def compile (q : Query) : Except Failure Compiled := do
  let some action := q.action | throw (.missing .action)
  require q.hasSource .table
  match ← q.write action with
  | .template sql => q.resolve sql
  | .final compiled => return compiled

/-- The query with every value written as a literal. -/
def withLiterals (q : Query) : Query := { q with boundParameters := false }

/-- The text of the query with every value written as a literal. -/
def literalText (q : Query) : Except Failure String := q.withLiterals.compile.map (·.query)

end Query
end SqlBuilder
