import SqlBuilder.Json

/-!
# Reading JSON text

A whole number in the range of 64 bits, signed or not, is read exactly; every other number is a
float. Of a float's digits only as many count as fit into 64 bits, and the number they make is
then scaled by powers of ten in floating-point arithmetic. Of members with the same key the last
one counts.

Every reader takes the characters still to be read and returns what is left of them. Nesting is
followed with a bound on its depth, for which the length of the text is enough.
-/

namespace SqlBuilder.Json

/-! ## Blanks and texts -/

def isSpace (c : Char) : Bool := c = ' ' || c = '\t' || c = '\n' || c = '\r'

def skipSpace (cs : List Char) : List Char := cs.dropWhile isSpace

def hexDigit? (c : Char) : Option Nat :=
  if c.isDigit then some (c.toNat - '0'.toNat)
  else if 'a' ≤ c ∧ c ≤ 'f' then some (c.toNat - 'a'.toNat + 10)
  else if 'A' ≤ c ∧ c ≤ 'F' then some (c.toNat - 'A'.toNat + 10)
  else none

/-- Four hexadecimal digits. -/
def unit? (a b c d : Char) : Option Nat := do
  return (((← hexDigit? a) * 16 + (← hexDigit? b)) * 16 + (← hexDigit? c)) * 16 + (← hexDigit? d)

/-- The character of a pair of surrogates. -/
def pair? (high low : Nat) : Option Char :=
  if 0xD800 ≤ high ∧ high < 0xDC00 ∧ 0xDC00 ≤ low ∧ low < 0xE000 then
    some (.ofNat (0x10000 + (high - 0xD800) * 0x400 + (low - 0xDC00)))
  else none

/-- The character of an escape of one letter. -/
def escape? : Char → Option Char
  | '"' => some '"'
  | '\\' => some '\\'
  | '/' => some '/'
  | 'b' => some '\x08'
  | 'f' => some '\x0c'
  | 'n' => some '\n'
  | 'r' => some '\r'
  | 't' => some '\t'
  | _ => none

/-- The characters up to the closing quote. -/
def text? : List Char → Option (List Char × List Char)
  | [] => none
  | '"' :: rest => some ([], rest)
  | '\\' :: 'u' :: a :: b :: c :: d :: '\\' :: 'u' :: e :: f :: g :: h :: rest =>
    match unit? a b c d, unit? e f g h with
    | some high, some low =>
      match pair? high low with
      | some ch => do
        let (cs, rest) ← text? rest
        return (ch :: cs, rest)
      | none =>
        if high.isValidChar then do
          let (cs, rest) ← text? ('\\' :: 'u' :: e :: f :: g :: h :: rest)
          return (.ofNat high :: cs, rest)
        else none
    | _, _ => none
  | '\\' :: 'u' :: a :: b :: c :: d :: rest => do
    let n ← unit? a b c d
    guard n.isValidChar
    let (cs, rest) ← text? rest
    return (.ofNat n :: cs, rest)
  | '\\' :: c :: rest => do
    let e ← escape? c
    let (cs, rest) ← text? rest
    return (e :: cs, rest)
  | c :: rest => do
    guard (c.toNat ≥ 0x20)
    let (cs, rest) ← text? rest
    return (c :: cs, rest)

/-! ## Numbers -/

/-- As many of the digits as still fit into 64 bits behind a number, and how many did not. -/
def significand : Nat → List Char → Nat × Nat
  | n, [] => (n, 0)
  | n, d :: ds =>
    let m := n * 10 + (d.toNat - '0'.toNat)
    if m < 18446744073709551616 then significand m ds else (n, ds.length + 1)

/-- A power of ten as a float. -/
def tenPower (n : Nat) : Float := .ofScientific 1 false n

/-- A float scaled by a power of ten, if the result is in range. A scale below the smallest power
is applied in steps. -/
def scaled? : (steps : Nat) → Float → Int → Option Float
  | _, x, .ofNat e =>
    if e ≤ 308 then
      let y := x * tenPower e
      if y.isInf then none else some y
    else if x == 0 then some x
    else none
  | 0, x, .negSucc _ => some (x / tenPower 308)
  | steps + 1, x, .negSucc e =>
    if e < 308 then some (x / tenPower (e + 1))
    else if x == 0 then some x
    else scaled? steps (x / tenPower 308) (.negSucc e + 308)

/-- The number with the given parts. -/
def number? (negative : Bool) (whole : List Char) (fraction : Option (List Char))
    (exponent : Option Int) : Option Json :=
  let (n, dropped) := significand 0 whole
  match fraction, exponent with
  | none, none =>
    if dropped = 0 ∧ !negative then some (.int n)
    else if dropped = 0 ∧ 0 < n ∧ n ≤ 9223372036854775808 then some (.int (-n))
    else sign (scaled? 4 n.toUInt64.toFloat dropped)
  | fraction, exponent =>
    let digits := fraction.getD []
    let (m, surplus) := significand n digits
    let e : Int := exponent.getD 0 + dropped - (digits.length - surplus : Nat)
    sign (scaled? 4 m.toUInt64.toFloat e)
where
  sign (x : Option Float) : Option Json := x.map fun x => .float (if negative then -x else x)

/-- The digits that lead a text, of which there has to be one. -/
def digits? (cs : List Char) : Option (List Char × List Char) :=
  match cs.takeWhile Char.isDigit with
  | [] => none
  | ds => some (ds, cs.dropWhile Char.isDigit)

/-- The digits behind the point, if there is one. -/
def fraction? : List Char → Option (Option (List Char) × List Char)
  | '.' :: cs => (digits? cs).map fun (ds, rest) => (some ds, rest)
  | cs => some (none, cs)

/-- A whole number behind an optional sign. -/
def signed? : List Char → Option (Int × List Char)
  | '-' :: cs => (digits? cs).map fun (ds, rest) => (-(Nat.ofDigitChars 10 ds 0 : Int), rest)
  | '+' :: cs | cs => (digits? cs).map fun (ds, rest) => ((Nat.ofDigitChars 10 ds 0 : Int), rest)

/-- The exponent, if there is one. -/
def exponent? : List Char → Option (Option Int × List Char)
  | 'e' :: cs | 'E' :: cs => (signed? cs).map fun (e, rest) => (some e, rest)
  | cs => some (none, cs)

/-- A number without its sign. A whole part of several digits has no leading zero. -/
def unsigned? (negative : Bool) (cs : List Char) : Option (Json × List Char) := do
  let (whole, cs) ← digits? cs
  guard (whole.length = 1 || whole.head? ≠ some '0')
  let (fraction, cs) ← fraction? cs
  let (exponent, cs) ← exponent? cs
  return (← number? negative whole fraction exponent, cs)

/-! ## Values -/

/-- The text behind a word. -/
def word? : (word : List Char) → List Char → Option (List Char)
  | [], cs => some cs
  | w :: ws, c :: cs => if c = w then word? ws cs else none
  | _ :: _, [] => none

mutual

def value? : (depth : Nat) → List Char → Option (Json × List Char)
  | 0, _ => none
  | depth + 1, cs =>
    match skipSpace cs with
    | '"' :: cs => (text? cs).map fun (s, rest) => (.str (.ofList s), rest)
    | '[' :: cs =>
      match skipSpace cs with
      | ']' :: rest => some (.arr [], rest)
      | cs => (items? depth cs).map fun (items, rest) => (.arr items, rest)
    | '\x7b' :: cs =>
      match skipSpace cs with
      | '\x7d' :: rest => some (.obj [], rest)
      | cs => (members? depth cs).map fun (members, rest) => (ofMembers members, rest)
    | '-' :: cs => unsigned? true cs
    | 'n' :: cs => (word? ['u', 'l', 'l'] cs).map fun rest => (.null, rest)
    | 't' :: cs => (word? ['r', 'u', 'e'] cs).map fun rest => (.bool true, rest)
    | 'f' :: cs => (word? ['a', 'l', 's', 'e'] cs).map fun rest => (.bool false, rest)
    | cs => unsigned? false cs

/-- The items of a list and its closing bracket. -/
def items? : (depth : Nat) → List Char → Option (List Json × List Char)
  | 0, _ => none
  | depth + 1, cs => do
    let (item, cs) ← value? depth cs
    match skipSpace cs with
    | ']' :: rest => return ([item], rest)
    | ',' :: cs =>
      let (items, rest) ← items? depth cs
      return (item :: items, rest)
    | _ => none

/-- The members of an object and its closing brace. -/
def members? : (depth : Nat) → List Char → Option (List (String × Json) × List Char)
  | 0, _ => none
  | depth + 1, cs =>
    match skipSpace cs with
    | '"' :: cs => do
      let (key, cs) ← text? cs
      let cs ← word? [':'] (skipSpace cs)
      let (value, cs) ← value? depth cs
      match skipSpace cs with
      | '\x7d' :: rest => return ([(.ofList key, value)], rest)
      | ',' :: cs =>
        let (members, rest) ← members? depth cs
        return ((.ofList key, value) :: members, rest)
      | _ => none
    | _ => none

end

/-- Read a text that holds one JSON value and nothing else. -/
def ofText? (s : String) : Option Json :=
  let cs := s.toList
  match value? (cs.length + 1) cs with
  | some (j, rest) => if rest.all isSpace then some j else none
  | none => none

end SqlBuilder.Json
