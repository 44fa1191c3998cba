/-!
# Quoted identifiers

The names of tables, databases and sub-queries are put between backticks, with every backtick of
the name doubled, so that a name may hold any character. Column names and expressions are never
quoted: they routinely carry SQL.
-/

namespace SqlBuilder.Identifier

/-- The character around a quoted name. -/
def mark : Char := '\x60'

/-- One character inside a quoted name. -/
def escape (c : Char) : List Char := if c = mark then [mark, mark] else [c]

/-- A quoted name. -/
def quoteChars (cs : List Char) : List Char := mark :: cs.flatMap escape ++ [mark]

def quote (name : String) : String := .ofList (quoteChars name.toList)

/-- A table with an optional database before it and an optional alias behind it. -/
def table (database : Option String) (name : String) (aliasName : Option String) : String :=
  (match database with | some d => quote d ++ "." | none => "") ++ quote name ++
    match aliasName with | some a => " " ++ a | none => ""

end SqlBuilder.Identifier
