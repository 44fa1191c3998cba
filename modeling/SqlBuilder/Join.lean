import SqlBuilder.Join.Keywords
import SqlBuilder.Subquery

/-!
# Joins

A join is given as a string, or by a target with options. A string keeps its own keywords unless
a kind is asked for, which takes their place; a string without keywords gets them.

**Conditions of a join.** The entries of a list at the top are joined by the connective of the
options, which is AND unless they say otherwise; deeper lists are always joined by AND. Nothing is
put between parentheses. Entries without text are left out. In an object of fields a text is the
name of another column and is not bound.
-/

namespace SqlBuilder

/-- The conditions of a join. -/
inductive JoinOn where
  | raw (sql : String)
  | list (items : List JoinOn)
  | fields (f : Fields)
deriving Inhabited

/-- What is joined: a table by its name, or a query. -/
inductive JoinTarget (Q : Type) where
  | table (name : String)
  | query (q : Q)

/-- A join given part by part. -/
structure JoinOptions (Q : Type) where
  target : Option (JoinTarget Q) := none
  aliasName : Option String := none
  on : Option JoinOn := none
  /-- What stands between the entries at the top of `on`; AND if nothing is said. -/
  onConnective : Option String := none
  /-- Columns that both sides share. They go before `on`. -/
  usingColumns : List String := []
  kind : Option String := none

/-- A join. -/
inductive Join (Q : Type) where
  | raw (sql : String)
  | options (o : JoinOptions Q)
  /-- A query without options, which is no join. -/
  | query (q : Q)

/-- The kinds of join a call can ask for. -/
inductive JoinKind where
  | inner
  | left
  | right
deriving DecidableEq, Repr

def JoinKind.keyword : JoinKind → String
  | inner => "INNER"
  | left => "LEFT"
  | right => "RIGHT"

namespace JoinOn

/-- The right-hand side of a comparison in a join; a text is the name of a column. -/
def rightSide (field : String) : Operand → Render String
  | .value (.text column) => return column
  | .raw sql => return sql
  | .value v => Binder.bindOperand (.value v) none
  | .data v modifier => Binder.bindOperand (.data v modifier) none
  | .list _ | .object _ => throw (.misfit (.joinCondition field))

/-- The comparison of a column with an operand, negated or not. -/
def compare (negated : Bool) (field : String) : Operand → Render String
  | .list items => do
    let texts ← items.mapM fun v => Binder.bindOperand v none
    return field ++ (if negated then " NOT IN ( " else " IN ( ") ++ listed texts ++ " )"
  | v => do
    return field ++ (if negated then " != " else " = ") ++ (← rightSide field v)

/-- The comparisons of the fields of an object, in order. -/
def compareFields (negated : Bool) : List (String × Operand) → Render (List String)
  | [] => return []
  | (field, v) :: rest =>
    if field = Fields.negationKey && v.isTrue then compareFields true rest
    else do
      let first ← compare negated field v
      return first :: (← compareFields negated rest)

/-- The parts that have text, with a connective between them. -/
def joined (connective : String) (parts : List String) : String :=
  (" " ++ connective ++ " ").intercalate (parts.filter (· ≠ ""))

mutual

/-- The text of the conditions of a join. -/
def text (connective : String) : JoinOn → Render String
  | raw sql => return sql
  | list items => do return joined connective (← texts items)
  | fields f => do return joined connective (← compareFields false f.entries)

def texts : List JoinOn → Render (List String)
  | [] => return []
  | on :: ons => do
    let first ← text Connective.and.keyword on
    return first :: (← texts ons)

end

end JoinOn

namespace Join

/-- A join string under a kind. The kind takes the place of keywords the string begins with;
without a kind the string has to begin with keywords, or gets them. -/
def rawText (kind : Option JoinKind) (sql : String) : String :=
  match kind, dropKeywords? sql with
  | none, some _ => sql
  | none, none => "JOIN " ++ sql
  | some k, rest => k.keyword ++ " JOIN " ++ rest.getD sql

/-- The target of a join with its name. -/
def targetParts (aliasName : Option String) : Option (JoinTarget Query) → Render (List String)
  | some (.table name) =>
    if name = "" then throw (.misfit .joinedTable) else return name :: aliasName.toList
  | some (.query q) => do return [← { q with asName := aliasName.or q.asName }.embed]
  | none => throw (.misfit .joinedTable)

/-- What the two sides are joined on. -/
def linkParts (o : JoinOptions Query) : Render (List String) :=
  if o.usingColumns = [] then
    match o.on with
    | some on => do
      let text ← on.text (o.onConnective.getD Connective.and.keyword)
      return ["ON (" ++ text ++ ")"]
    | none => return []
  else return ["USING (" ++ listed o.usingColumns ++ ")"]

/-- The text of a join given part by part. -/
def optionsText (o : JoinOptions Query) : Render String := do
  let target ← targetParts o.aliasName o.target
  let link ← linkParts o
  return spaced (o.kind.toList ++ ["JOIN"] ++ target ++ link)

/-- The text of a join. A kind that is asked for goes before one in the options. -/
def text (kind : Option JoinKind) : Join Query → Render String
  | raw sql =>
    if Text.isBlankText sql then throw (.missing .joinedTable) else return rawText kind sql
  | query _ => throw (.missing .joinOptions)
  | options o => optionsText { o with kind := (kind.map JoinKind.keyword).or o.kind }

end Join
end SqlBuilder
