import SqlBuilder.Timestamp

/-!
# Scalar values

A value is the one thing that can be bound to a parameter. Timestamps are values as well, but
once a value is stored only the SQL text of its timestamp is left (`Value.stored`), so a stored
value never is a timestamp.
-/

namespace SqlBuilder

/-- A scalar value of SQL. -/
inductive Value where
  | null
  | bool (b : Bool)
  | int (n : Int64)
  | float (x : Float)
  | text (s : String)
  | time (t : Timestamp)
deriving DecidableEq, Inhabited

namespace Value

def isNull : Value → Bool
  | null => true
  | _ => false

/-- The word for the kind of a value in messages. -/
def kind : Value → String
  | null => "null"
  | bool _ => "boolean"
  | int _ | float _ => "number"
  | text _ => "string"
  | time _ => "date"

/-- The form in which a value is stored: a timestamp becomes its SQL text. -/
def stored : Value → Value
  | time t => text t.sqlText
  | v => v

/-- Equality as values: numbers are compared as numbers, so the two zeros are equal and what is
not a number differs from everything. -/
def equals : Value → Value → Bool
  | null, null => true
  | bool a, bool b => a = b
  | int a, int b => a = b
  | float a, float b => a == b
  | text a, text b => a = b
  | time a, time b => a = b
  | _, _ => false

/-- An integer as a value; one that needs more than 64 bits becomes the nearest float. -/
def ofInt (n : Int) : Value :=
  if -9223372036854775808 ≤ n ∧ n < 9223372036854775808 then int (.ofInt n)
  else float (.ofInt n)

end Value
end SqlBuilder
