import SqlBuilder.Identifier
import SqlBuilder.Query

/-!
# The text of a statement

Every statement is a list of words and fragments in the order its clauses have in SQL, with one
blank between them. An empty fragment still takes its blanks. Placeholders stay in the text.
-/

namespace SqlBuilder

/-- Fragments with one blank between them. -/
def spaced (parts : List String) : String := " ".intercalate parts

/-- Fragments with a comma and a blank between them. -/
def listed (parts : List String) : String := ", ".intercalate parts

namespace Query

/-- What a statement reads or writes: the sub-query if there is one, else the table. -/
def source (q : Query) : String :=
  match q.subquery with
  | some s => s
  | none => Identifier.table q.database (q.tableName.getD "") q.aliasName

/-- The conditions under their connective. -/
def conditionText (q : Query) : String :=
  (" " ++ (q.connective.getD .and).keyword ++ " ").intercalate q.conditions

/-- The columns, unless they are all columns or none. -/
def chosenColumns (q : Query) : List String :=
  let text := listed q.columns
  if text = "" ∨ text = "*" then [] else [text]

/-- A keyword and a list behind it; nothing for an empty list. -/
def listClause (keyword : String) (parts : List String) : List String :=
  if parts = [] then [] else [keyword, listed parts]

/-- The conditions behind their keyword, if there are any. -/
def conditionClause (q : Query) : List String :=
  if q.conditions = [] then [] else ["WHERE", q.conditionText]

/-- The columns of a selection behind their keyword. -/
def selection (q : Query) : String :=
  if q.distinct then "DISTINCT " ++ listed q.columns else listed q.columns

def selectParts (q : Query) : List String :=
  ["SELECT", q.selection, "FROM", q.source] ++ q.joins ++ q.conditionClause ++
    listClause "GROUP BY" q.groupBy ++ listClause "ORDER BY" q.orderBy ++ q.limit.toList

def updateParts (q : Query) : List String :=
  ["UPDATE", q.source] ++ q.joins ++ ["SET", listed q.assignments, "WHERE", q.conditionText]

def insertParts (q : Query) : List String :=
  [q.insertMode.keyword, "INTO", q.source, "SET", listed q.assignments]

def deleteParts (q : Query) : List String :=
  ["DELETE"] ++ q.chosenColumns ++ ["FROM", q.source] ++ q.joins ++ ["WHERE", q.conditionText]

/-- The text of the query as a selection. -/
def selectText (q : Query) : String := spaced q.selectParts

end Query
end SqlBuilder
