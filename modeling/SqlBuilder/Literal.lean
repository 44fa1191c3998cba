import SqlBuilder.Decimal.Shortest
import SqlBuilder.Value

/-!
# Literals

How a value is written into a statement when it is not bound. Text is put between single quotes,
and every character that could end the quotation or start an escape is written with a backslash.

Main statement: `escape_eq_self` tells which characters stand for themselves.
-/

namespace SqlBuilder

namespace Literal

/-- One character inside single quotes. -/
def escape : Char → List Char
  | '\x00' => ['\\', '0']
  | '\n' => ['\\', 'n']
  | '\r' => ['\\', 'r']
  | '\x08' => ['\\', 'b']
  | '\t' => ['\\', 't']
  | '\x1a' => ['\\', 'Z']
  | '\\' => ['\\', '\\']
  | '\x27' => ['\\', '\x27']
  | '"' => ['\\', '"']
  | c => [c]

/-- The characters between two single quotes, each escaped. -/
def quoteChars (cs : List Char) : List Char := '\x27' :: cs.flatMap escape ++ ['\x27']

/-- A text as a quoted literal. -/
def quote (s : String) : String := .ofList (quoteChars s.toList)

/-- The characters that cannot stand for themselves between quotes. -/
def special : List Char := ['\x00', '\n', '\r', '\x08', '\t', '\x1a', '\\', '\x27', '"']

theorem escape_eq_self {c : Char} (h : c ∉ special) : escape c = [c] := by
  unfold escape
  split <;> simp_all [special]

end Literal

/-- A value as a literal. -/
def Value.literal : Value → String
  | null => "NULL"
  | bool true => "true"
  | bool false => "false"
  | int n => n.toInt.repr
  | float x => floatText x
  | text s => Literal.quote s
  | time t => Literal.quote t.sqlText

end SqlBuilder
