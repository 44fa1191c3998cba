import SqlBuilder.Subquery

/-!
# Columns

What a statement can select: a name or expression, which is taken as it is, a value, which is
bound, or a query with a single column.
-/

namespace SqlBuilder

/-- A column of a selection. -/
inductive Column (Q : Type) where
  | name (s : String)
  | value (v : Value)
  /-- A value under the name of an SQL function to be applied to it, if any. -/
  | data (v : Value) (modifier : Option String)
  | query (q : Q)
deriving Inhabited

namespace Column

/-- A query that stands for a column has exactly one, and has chosen it. -/
def isSingle (q : Query) : Bool := q.columns.length = 1 && q.columns ≠ allColumns

/-- The text of a column. -/
def text : Column Query → Render String
  | name s | value (.text s) => return s
  | value (.int n) => Binder.bind (.int n) none
  | value (.float x) => Binder.bind (.float x) none
  | value (.time t) => Binder.bind (.time t) none
  | value v => throw (.misfit (.column v.kind))
  | data v modifier => Binder.bind v modifier
  | query q => do
    unless isSingle q do throw (.missing .singleColumn)
    q.embed

/-- The column is a name, of which a list may hold only one. -/
def isName : Column Query → Bool
  | name _ | value (.text _) => true
  | _ => false

end Column
end SqlBuilder
