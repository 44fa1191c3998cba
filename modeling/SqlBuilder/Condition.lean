import SqlBuilder.Subquery

/-!
# Conditions

What a WHERE clause is made of, and how it becomes text. A condition without a value is a fragment,
a list of alternatives, an object of fields, or the conditions of another query. With a value, the
condition names the fields that are compared with it.

**Groups.** Members of a group stand in parentheses with one connective between them; a single
member stands alone and an empty group is nothing. A list is a group of alternatives unless the
word AND leads it; an object is a group under AND.

**Lists of values.** Under `=` and `!=` a list of values becomes one membership test. Under any
other operator every value is compared on its own.

**Negation.** Behind a negation mark in an object every field is compared under the opposite
operator.

`Condition Q` leaves open what stands for another query: its name where calls are written down,
the query itself where they are carried out.
-/

namespace SqlBuilder

/-- A condition. -/
inductive Condition (Q : Type) where
  | raw (sql : String)
  | list (items : List (Condition Q))
  | fields (f : Fields)
  | query (q : Q)
  /-- A plain value, which is no condition. -/
  | value (v : Value)
deriving Inhabited

namespace Condition

variable {Q : Type}

/-- The word for the kind of a condition in messages. -/
def kind : Condition Q → String
  | raw _ => "string"
  | list _ => "array"
  | fields _ => "object"
  | query _ => "query"
  | value v => v.kind

mutual

/-- A JSON value as a condition. -/
def ofJson : Json → Condition Q
  | .str s => raw s
  | .arr items => list (ofItems items)
  | .obj members => fields (.ofMembers members)
  | .null => value .null
  | .bool b => value (.bool b)
  | .int n => value (.ofInt n)
  | .float x => value (.float x)

def ofItems : List Json → List (Condition Q)
  | [] => []
  | j :: js => ofJson j :: ofItems js

end

/-! ## Groups -/

/-- Parts with a connective between them: none at all, one alone, more in parentheses. -/
def joined (connective : Connective) : List String → Option String
  | [] => none
  | [part] => some part
  | parts => some ("(" ++ (" " ++ connective.keyword ++ " ").intercalate parts ++ ")")

/-- The parts of a list as one condition: alternatives, unless the word AND leads them. -/
def combined (parts : List String) : Option String :=
  if parts.head? = some Query.leadingAnd then joined .and parts.tail else joined .or parts

/-! ## Comparisons -/

/-- The operator behind a negation mark. -/
def negated (operator : String) : String :=
  if operator = "=" then "!="
  else if operator.toList.map Char.toUpper = ['L', 'I', 'K', 'E'] then "NOT LIKE"
  else operator

/-- The keyword of a membership test, for the operators that have one. -/
def membership? (operator : String) : Option String :=
  if operator = "=" then some "IN"
  else if operator = "!=" then some "NOT IN"
  else none

mutual

/-- The comparisons of a field with an operand. -/
def compare (operator : String) (modifier : Option String) (field : String) :
    Operand → Render (List String)
  | .list items =>
    match membership? operator with
    | some keyword => do
      let texts ← items.mapM fun v => Binder.bindOperand v modifier
      return [field ++ " " ++ keyword ++ " (" ++ ",".intercalate texts ++ ")"]
    | none => compareEach operator modifier field items
  | v => do
    let text ← Binder.bindOperand v modifier
    return [field ++ " " ++ operator ++ " " ++ text]

def compareEach (operator : String) (modifier : Option String) (field : String) :
    List Operand → Render (List String)
  | [] => return []
  | v :: vs => do
    let first ← compare operator modifier field v
    return first ++ (← compareEach operator modifier field vs)

end

/-- The comparisons of the fields of an object, in order. -/
def compareFields (operator : String) (modifier : Option String) :
    List (String × Operand) → Render (List String)
  | [] => return []
  | (field, v) :: rest =>
    if field = Fields.negationKey && v.isTrue then
      compareFields (negated operator) modifier rest
    else do
      let first ← compare operator modifier field v
      return first ++ (← compareFields operator modifier rest)

/-- An object as one condition. -/
def objectText (operator : String) (modifier : Option String) (f : Fields) :
    Render (Option String) := do
  return joined .and (← compareFields operator modifier f.entries)

/-! ## Conditions as text -/

mutual

/-- The names of the fields, where a condition says what to compare. -/
def fieldNames : Condition Q → Except Failure (List String)
  | raw name => .ok [name]
  | list items => fieldNamesOfItems items
  | c => .error (.misfit (.condition c.kind))

def fieldNamesOfItems : List (Condition Q) → Except Failure (List String)
  | [] => .ok []
  | c :: cs => do
    let first ← fieldNames c
    return first ++ (← fieldNamesOfItems cs)

end

mutual

/-- What an element adds to the list it stands in: a list within a list adds its own elements. -/
def parts (operator : String) (modifier : Option String) :
    Condition Query → Render (List String)
  | raw sql => return [sql]
  | list items => partsOfItems operator modifier items
  | fields f => do return (← objectText operator modifier f).toList
  | query q => do return (combined (← q.embedGroup)).toList
  | value v => throw (.misfit (.condition v.kind))

def partsOfItems (operator : String) (modifier : Option String) :
    List (Condition Query) → Render (List String)
  | [] => return []
  | c :: cs => do
    let first ← parts operator modifier c
    return first ++ (← partsOfItems operator modifier cs)

end

/-- Compare each of the fields with the operand. -/
def compareAll (operator : String) (modifier : Option String) (v : Operand) :
    List String → Render (List String)
  | [] => return []
  | name :: names => do
    let first ← compare operator modifier name v
    return first ++ (← compareAll operator modifier v names)

/-- The parts of a condition, compared with the operand if there is one. -/
def partsWith (operator : String) (modifier : Option String) :
    Condition Query → Option Operand → Render (List String)
  | c@(raw _), some v | c@(list _), some v => do
    compareAll operator modifier v (← (fieldNames c : Except Failure _))
  | raw sql, none => return [sql]
  | list items, none => partsOfItems operator modifier items
  | fields f, none => do return (← objectText operator modifier f).toList
  | query q, none => q.embedGroup
  | c, _ => throw (.misfit (.condition c.kind))

/-- A condition as the text of one entry of the WHERE clause, or nothing. -/
def text (c : Condition Query) (v : Option Operand) (operator modifier : Option String) :
    Render (Option String) := do
  return combined (← partsWith (operator.getD "=") modifier c v)

end Condition
end SqlBuilder
