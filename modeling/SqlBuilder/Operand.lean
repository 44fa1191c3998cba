import SqlBuilder.Json
import SqlBuilder.Value

/-!
# Operands and fields

An operand is the right-hand side of a comparison or an assignment, or a cell of a row. `Fields`
are named operands in order: the pairs of a condition, the assignments of a statement, the cells
of a row.

**Plain JSON as operands.** Scalars are values and arrays are lists. An object is read as literal
SQL or as a tagged value if it has the shape of one (`Operand.ofTagged?`), and otherwise as fields,
member by member.
-/

namespace SqlBuilder

/-- What a name can be compared with or set to. -/
inductive Operand where
  /-- A plain value, to be bound. -/
  | value (v : Value)
  /-- Several operands for one name. -/
  | list (items : List Operand)
  /-- A value under the name of an SQL function to be applied to it, if any. -/
  | data (v : Value) (modifier : Option String)
  /-- Literal SQL. -/
  | raw (sql : String)
  /-- Named operands, which nothing accepts as a value. -/
  | object (fields : List (String × Operand))
deriving Inhabited

/-- Named operands in order of first insertion. -/
@[ext] structure Fields where
  entries : List (String × Operand)
deriving Inhabited

namespace Fields

def empty : Fields := ⟨[]⟩

/-- Add a field, or replace its operand in place. -/
def insert (f : Fields) (key : String) (v : Operand) : Fields := ⟨Entries.put key v f.entries⟩

/-- The operand of the first field of that name. -/
def get? (f : Fields) (key : String) : Option Operand := Entries.get? key f.entries

def keys (f : Fields) : List String := Entries.keys f.entries

def size (f : Fields) : Nat := f.entries.length

/-- The fields that come from inserting pairs one after the other. -/
def ofPairs (ps : List (String × Operand)) : Fields := ⟨Entries.ofPairs ps⟩

/-- The name that marks a negation when its operand is plain truth. -/
def negationKey : String := "not"

/-- Negate the comparisons of all fields added after this. -/
def negate (f : Fields) : Fields := f.insert negationKey (.value (.bool true))

end Fields

namespace Operand

/-- The operand is plain truth, as the operand of a negation mark is. -/
def isTrue : Operand → Bool
  | value (.bool true) => true
  | _ => false

mutual

/-- Equality as operands: numbers are compared as numbers. -/
def equals : Operand → Operand → Bool
  | value a, value b => a.equals b
  | list as, list bs => equalItems as bs
  | data a m, data b n => a.equals b && m = n
  | raw a, raw b => a = b
  | object as, object bs => equalFields as bs
  | _, _ => false

def equalItems : List Operand → List Operand → Bool
  | [], [] => true
  | a :: as, b :: bs => equals a b && equalItems as bs
  | _, _ => false

def equalFields : List (String × Operand) → List (String × Operand) → Bool
  | [], [] => true
  | (k, a) :: as, (l, b) :: bs => k = l && equals a b && equalFields as bs
  | _, _ => false

end

end Operand

/-- Equality as fields, in order. -/
def Fields.equals (f g : Fields) : Bool := Operand.equalFields f.entries g.entries

/-! ## Plain JSON -/

/-- A JSON scalar as a value. -/
def Value.ofJson? : Json → Option Value
  | .null => some .null
  | .bool b => some (.bool b)
  | .int n => some (.ofInt n)
  | .float x => some (.float x)
  | .str s => some (.text s)
  | .arr _ | .obj _ => none

namespace Operand

/-- The members of an object as literal SQL (a text `raw` and nothing else) or as a tagged value
(a scalar `data`, with a text or nothing as `modifier`). -/
def ofTagged? (members : List (String × Json)) : Option Operand :=
  match members.length, Entries.get? "raw" members with
  | 1, some (.str sql) => some (raw sql)
  | _, _ =>
    match (Entries.get? "data" members).bind Value.ofJson?, Entries.get? "modifier" members with
    | some v, none | some v, some .null => some (data v none)
    | some v, some (.str m) => some (data v (some m))
    | _, _ => none

mutual

/-- A JSON value as an operand. -/
def ofJson : Json → Operand
  | .null => value .null
  | .bool b => value (.bool b)
  | .int n => value (.ofInt n)
  | .float x => value (.float x)
  | .str s => value (.text s)
  | .arr items => list (ofItems items)
  | .obj members =>
    match ofTagged? members with
    | some v => v
    | none => object (Entries.ofPairs (ofMembers members))

def ofItems : List Json → List Operand
  | [] => []
  | j :: js => ofJson j :: ofItems js

def ofMembers : List (String × Json) → List (String × Operand)
  | [] => []
  | (k, j) :: js => (k, ofJson j) :: ofMembers js

end

theorem ofItems_eq_map (items : List Json) : ofItems items = items.map ofJson := by
  induction items with
  | nil => rfl
  | cons j js ih => simp [ofItems, ih]

theorem ofMembers_eq_map (members : List (String × Json)) :
    ofMembers members = members.map fun m => (m.1, ofJson m.2) := by
  induction members with
  | nil => rfl
  | cons m ms ih => simp [ofMembers, ih]

end Operand

/-- The members of a JSON object as fields. -/
def Fields.ofMembers (members : List (String × Json)) : Fields :=
  .ofPairs (Operand.ofMembers members)

end SqlBuilder
