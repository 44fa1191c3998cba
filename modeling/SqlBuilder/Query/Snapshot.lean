import SqlBuilder.Query
import SqlBuilder.Timestamp.Reader

/-!
# Snapshots

The state of a query as plain JSON, so that it can be kept and taken up again. A value or an
operand is an object with one member, which names its kind; fields are a list of pairs, since two
of them may have the same name.

**Reading** is a little wider than writing. A member that is missing leaves its part of the query
as it is in a new query, members of other names are passed over, and a group of parts may be given
as a list in their order instead of an object. A kind without content may be written as an object
with a null. Floats may be given as whole numbers, and timestamps in any form that
`Timestamp.ofText?` takes.

**Floats.** An infinity, or what is not a number, is written as null and cannot be read back.
-/

namespace SqlBuilder.Snapshot

/-- An object with one member. -/
def tagged (tag : String) (j : Json) : Json := .obj [(tag, j)]

/-! ## Writing -/

def ofValue : Value → Json
  | .null => .str "Null"
  | .bool b => tagged "Bool" (.bool b)
  | .int n => tagged "Int" (.int n.toInt)
  | .float x => tagged "Float" (.ofFloat x)
  | .text s => tagged "Text" (.str s)
  | .time t => tagged "DateTime" (.str t.text)

mutual

def ofOperand : Operand → Json
  | .value v => tagged "Value" (ofValue v)
  | .list items => tagged "List" (.arr (ofOperands items))
  | .data v modifier =>
    tagged "Data" (.obj [("data", ofValue v), ("modifier", .ofString? modifier)])
  | .raw sql => tagged "Raw" (.str sql)
  | .object fields => tagged "Object" (.arr (ofEntries fields))

def ofOperands : List Operand → List Json
  | [] => []
  | v :: vs => ofOperand v :: ofOperands vs

def ofEntries : List (String × Operand) → List Json
  | [] => []
  | (key, v) :: rest => .arr [.str key, ofOperand v] :: ofEntries rest

end

def ofFields (f : Fields) : Json := .arr (ofEntries f.entries)

def ofBindings (b : Bindings) : Json :=
  tagged "values" (.obj (b.entries.map fun e => (e.1, ofValue e.2)))

def actionWord : Action → String
  | .select => "select"
  | .insert => "insert"
  | .update => "update"
  | .delete => "delete"

def insertModeWord : InsertMode → String
  | .insert => "insert"
  | .replace => "replace"
  | .insertIgnore => "insert_ignore"

def ofTexts (ss : List String) : Json := .arr (ss.map .str)

/-- The parts of a query by their names. -/
def parts (q : Query) : List (String × Json) :=
  [("action", .ofString? (q.action.map actionWord)),
    ("insert_mode", .str (insertModeWord q.insertMode)),
    ("database", .ofString? q.database),
    ("table_name", .ofString? q.tableName),
    ("alias", .ofString? q.aliasName),
    ("from_subquery", .ofString? q.subquery),
    ("as_name", .ofString? q.asName),
    ("columns", ofTexts q.columns),
    ("where", ofTexts q.conditions),
    ("where_boolean", .ofString? (q.connective.map Connective.keyword)),
    ("set", ofTexts q.assignments),
    ("set_keys", .obj (q.assignedAt.entries.map fun e => (e.1, .int e.2))),
    ("joins", ofTexts q.joins),
    ("order_by", ofTexts q.orderBy),
    ("group_by", ofTexts q.groupBy),
    ("distinct", .bool q.distinct),
    ("limit", .ofString? q.limit),
    ("rows", .arr (q.rows.map ofFields)),
    ("data_bindings", ofBindings q.bindings),
    ("use_bound_parameters", .bool q.boundParameters),
    ("debug", .bool q.debug)]

def ofQuery (q : Query) : Json := .obj (parts q)

/-- The parts in which the second query differs from the first, as they are in the second. -/
def changes (before after : Query) : List (String × Json) :=
  ((parts before).zip (parts after)).filterMap fun (b, a) =>
    if b.2.same a.2 then none else some a

/-! ## Reading -/

/-- The word of a kind without content. -/
def word? : Json → Option String
  | .str s | .obj [(s, .null)] => some s
  | _ => none

def text? : Json → Option String
  | .str s => some s
  | _ => none

def flag? : Json → Option Bool
  | .bool b => some b
  | _ => none

/-- Null, or something that can be read. -/
def optional? {α : Type} (read? : Json → Option α) : Json → Option (Option α)
  | .null => some none
  | j => (read? j).map some

def list? {α : Type} (read? : Json → Option α) : Json → Option (List α)
  | .arr items => items.mapM read?
  | _ => none

/-- A whole number of 64 bits, with or without a sign. -/
def int? : Json → Option Int64
  | .int n =>
    if -9223372036854775808 ≤ n ∧ n < 9223372036854775808 then some (.ofInt n) else none
  | _ => none

def nat? : Json → Option Nat
  | .int n => if 0 ≤ n ∧ n < 18446744073709551616 then some n.toNat else none
  | _ => none

def float? : Json → Option Float
  | .int n => some (.ofInt n)
  | .float x => some x
  | _ => none

def value? : Json → Option Value
  | .obj [("Bool", j)] => (flag? j).map .bool
  | .obj [("Int", j)] => (int? j).map .int
  | .obj [("Float", j)] => (float? j).map .float
  | .obj [("Text", j)] => (text? j).map .text
  | .obj [("DateTime", j)] => (text? j).bind fun s => (Timestamp.ofText? s).map .time
  | j => if word? j = some "Null" then some .null else none

/-- A tagged value; its modifier may be missing. -/
def data? (members : List (String × Json)) : Option Operand := do
  let v ← value? (← Entries.get? "data" members)
  return .data v (← optional? text? ((Entries.get? "modifier" members).getD .null))

mutual

def operand? : Json → Option Operand
  | .obj [(tag, .arr items)] =>
    if tag = "List" then (operands? items).map .list
    else if tag = "Object" then (entries? items).map .object
    else none
  | .obj [(tag, j)] =>
    match tag, j with
    | "Value", j => (value? j).map .value
    | "Data", .obj members => data? members
    | "Raw", .str sql => some (.raw sql)
    | _, _ => none
  | _ => none

def operands? : List Json → Option (List Operand)
  | [] => some []
  | j :: js => do return (← operand? j) :: (← operands? js)

def entries? : List Json → Option (List (String × Operand))
  | [] => some []
  | .arr [.str key, j] :: js => do return (key, ← operand? j) :: (← entries? js)
  | _ => none

end

def fields? : Json → Option Fields
  | .arr items => (entries? items).map Fields.mk
  | _ => none

/-- A group of named parts: an object, or a list of the first of them in their order. -/
def members? (names : List String) : Json → Option (List (String × Json))
  | .obj members => some members
  | .arr items => if items.length ≤ names.length then some (names.zip items) else none
  | _ => none

/-- A map from the members of an object. -/
def dict? {α : Type} (read? : Json → Option α) : Json → Option (Dict α)
  | .obj members => do
    return .ofPairs (← members.mapM fun m => do return (m.1, ← read? m.2))
  | _ => none

def bindings? (j : Json) : Option Bindings := do
  dict? value? (← Entries.get? "values" (← members? ["values"] j))

def action? (j : Json) : Option Action :=
  (word? j).bind fun s => [.select, .insert, .update, .delete].find? (actionWord · = s)

def insertMode? (j : Json) : Option InsertMode :=
  (word? j).bind fun s => [.insert, .replace, .insertIgnore].find? (insertModeWord · = s)

def connective? (j : Json) : Option Connective :=
  (word? j).bind fun s => [.and, .or].find? (Connective.keyword · = s)

/-- A query from its snapshot. What the snapshot does not say is as in the given query. -/
def query? (start : Query) (j : Json) : Option Query := do
  let members ← members? ((parts start).map Prod.fst) j
  let part {α : Type} (name : String) (missing : α) (read? : Json → Option α) : Option α :=
    match Entries.get? name members with
    | some j => read? j
    | none => some missing
  return {
    action := ← part "action" start.action (optional? action?)
    insertMode := ← part "insert_mode" start.insertMode insertMode?
    database := ← part "database" start.database (optional? text?)
    tableName := ← part "table_name" start.tableName (optional? text?)
    aliasName := ← part "alias" start.aliasName (optional? text?)
    subquery := ← part "from_subquery" start.subquery (optional? text?)
    asName := ← part "as_name" start.asName (optional? text?)
    columns := ← part "columns" start.columns (list? text?)
    conditions := ← part "where" start.conditions (list? text?)
    connective := ← part "where_boolean" start.connective (optional? connective?)
    assignments := ← part "set" start.assignments (list? text?)
    assignedAt := ← part "set_keys" start.assignedAt (dict? nat?)
    joins := ← part "joins" start.joins (list? text?)
    orderBy := ← part "order_by" start.orderBy (list? text?)
    groupBy := ← part "group_by" start.groupBy (list? text?)
    distinct := ← part "distinct" start.distinct flag?
    limit := ← part "limit" start.limit (optional? text?)
    rows := ← part "rows" start.rows (list? fields?)
    bindings := ← part "data_bindings" start.bindings bindings?
    boundParameters := ← part "use_bound_parameters" start.boundParameters flag?
    debug := ← part "debug" start.debug flag? }

end SqlBuilder.Snapshot
