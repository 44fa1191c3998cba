import SqlBuilder.Binder
import SqlBuilder.Query.Statement

/-!
# Queries inside queries

A query can stand inside another one, as a selection in parentheses under a name or as a group of
conditions. Its fragments go over with their placeholders unresolved, and of its bindings exactly
those go along that its text refers to. A placeholder without a value is left as it is: the
receiving query may hold one.
-/

namespace SqlBuilder.Query

/-- The name of the query where it is a sub-query: its own, or a new one. -/
def nameInside (q : Query) : StateM Binder String :=
  match q.asName with
  | some name => return name
  | none => return Binder.nameOf "subquery" (← Binder.nextId)

/-- The query as a selection in parentheses under its name. -/
def embed (q : Query) : Render String := do
  unless q.hasSource do throw (.missing .subqueryTable)
  let name ← q.nameInside
  Binder.absorb (q.bindings.referenced q.selectText) .subquery
  return "(" ++ q.selectText ++ ") as " ++ Identifier.quote name

/-- The word that leads a list of conditions to be joined by AND. -/
def leadingAnd : String := "AND"

/-- The conditions of the query. The word AND leads them only if that connective was chosen. -/
def group (q : Query) : List String :=
  if q.connective = some .and then leadingAnd :: q.conditions else q.conditions

/-- The conditions of the query as the members of a group. -/
def embedGroup (q : Query) : StateM Binder (List String) := do
  Binder.absorb (q.bindings.referenced (spaced q.group)) .conditions
  return q.group

end SqlBuilder.Query
