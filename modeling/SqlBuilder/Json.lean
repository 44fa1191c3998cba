import SqlBuilder.Entries

/-!
# JSON values

Plain JSON, as operands, conditions and exported state are given in it. Whole numbers are kept
apart from numbers written with a point or an exponent, and members of an object keep their order.
-/

namespace SqlBuilder

/-- A JSON value. -/
inductive Json where
  | null
  | bool (b : Bool)
  | int (n : Int)
  | float (x : Float)
  | str (s : String)
  | arr (items : List Json)
  | obj (members : List (String × Json))
deriving Inhabited

namespace Json

/-- An object from its members in order. A repeated key keeps its first place and its last value. -/
def ofMembers (members : List (String × Json)) : Json := .obj (Entries.ofPairs members)

/-- A number, if it is one: infinities and what is not a number have no JSON form. -/
def ofFloat (x : Float) : Json := if x.isFinite then .float x else .null

/-- A text, or null where there is none. -/
def ofString? : Option String → Json
  | none => .null
  | some s => .str s

/-- The member of an object with the given key. -/
def member? (key : String) : Json → Option Json
  | .obj members => Entries.get? key members
  | _ => none

mutual

/-- The same value, with the order of members counting and floats compared by their bits. -/
def same : Json → Json → Bool
  | .null, .null => true
  | .bool a, .bool b => a = b
  | .int a, .int b => a = b
  | .float a, .float b => a.toBits = b.toBits
  | .str a, .str b => a = b
  | .arr as, .arr bs => sameItems as bs
  | .obj as, .obj bs => sameMembers as bs
  | _, _ => false

def sameItems : List Json → List Json → Bool
  | [], [] => true
  | a :: as, b :: bs => same a b && sameItems as bs
  | _, _ => false

def sameMembers : List (String × Json) → List (String × Json) → Bool
  | [], [] => true
  | (k, a) :: as, (l, b) :: bs => k = l && same a b && sameMembers as bs
  | _, _ => false

end

end Json
end SqlBuilder
