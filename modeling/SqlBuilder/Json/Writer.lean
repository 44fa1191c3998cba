import SqlBuilder.Decimal.Shortest
import SqlBuilder.Json

/-!
# Writing JSON text

JSON on one line, without blanks. Inside a text only the quote, the backslash and the control
characters are escaped. A float keeps a point, so that it is read back as a float.
-/

namespace SqlBuilder.Json

/-- Four hexadecimal digits. -/
def unitText (n : Nat) : List Char :=
  let ds := Nat.toDigits 16 n
  List.replicate (4 - ds.length) '0' ++ ds

/-- One character between quotes. -/
def escaped (c : Char) : List Char :=
  if c = '"' ∨ c = '\\' then ['\\', c]
  else if c.toNat < 0x20 then '\\' :: 'u' :: unitText c.toNat
  else [c]

def quoted (s : String) : String := .ofList ('"' :: s.toList.flatMap escaped ++ ['"'])

/-- A float with a point, or null if it is not a number or infinite. -/
def numberText (x : Float) : String :=
  if x.isFinite then
    let s := floatText x
    if '.' ∈ s.toList then s else s ++ ".0"
  else "null"

mutual

/-- The text of a JSON value. -/
def text : Json → String
  | .null => "null"
  | .bool true => "true"
  | .bool false => "false"
  | .int n => n.repr
  | .float x => numberText x
  | .str s => quoted s
  | .arr items => "[" ++ ",".intercalate (itemTexts items) ++ "]"
  | .obj members => "\x7b" ++ ",".intercalate (memberTexts members) ++ "\x7d"

def itemTexts : List Json → List String
  | [] => []
  | j :: js => text j :: itemTexts js

def memberTexts : List (String × Json) → List String
  | [] => []
  | (key, j) :: js => (quoted key ++ ":" ++ text j) :: memberTexts js

end

end SqlBuilder.Json
