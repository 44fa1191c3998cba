import SqlBuilder.Text.Blank
import SqlBuilder.Timestamp

/-!
# Reading a timestamp

The reader takes the exact text of a timestamp and its relatives: blanks before every number and
every separator, a small or large `t` or a blank between date and time, one or two digits for
each part, any number of digits below the second (nine count), and an offset from UTC in place of
`Z`. What it returns is the same instant in UTC.

Every step takes the characters still to be read and returns what is left of them.
-/

namespace SqlBuilder.Timestamp

open Text

/-- The number that leads the text, of at most `most` digits and at least one. -/
def number? (most : Nat) (cs : List Char) : Option (Nat × List Char) :=
  let ds := (cs.take most).takeWhile Char.isDigit
  if ds = [] then none else some (Nat.ofDigitChars 10 ds 0, cs.drop ds.length)

/-- The character that has to come next. -/
def expect? (c : Char) : List Char → Option (List Char)
  | [] => none
  | d :: cs => if d = c then some cs else none

/-- A year: with a sign it may have any number of digits, without one it has at most four. -/
def year? (cs : List Char) : Option (Int × List Char) :=
  match skipBlanks cs with
  | '-' :: cs => (number? cs.length cs).map fun (n, rest) => (-(n : Int), rest)
  | '+' :: cs => (number? cs.length cs).map fun (n, rest) => ((n : Int), rest)
  | cs => (number? 4 cs).map fun (n, rest) => ((n : Int), rest)

/-- Two digits, or one, after blanks. -/
def twoDigits? (cs : List Char) : Option (Nat × List Char) := number? 2 (skipBlanks cs)

/-- A separator after blanks, then two digits. -/
def separated? (c : Char) (cs : List Char) : Option (Nat × List Char) := do
  twoDigits? (← expect? c (skipBlanks cs))

/-- A number with as many zeros behind it. -/
def scaled : (zeros : Nat) → Nat → Nat
  | 0, n => n
  | zeros + 1, n => scaled zeros (n * 10)

/-- The billionths behind a point: nine digits count, and more are passed over. -/
def fraction? : List Char → Option (Nat × List Char)
  | '.' :: cs => do
    let (n, rest) ← number? 9 cs
    return (scaled (9 - (cs.length - rest.length)) n, rest.dropWhile Char.isDigit)
  | cs => some (0, cs)

/-- Hours and minutes of an offset, always two digits each, with colons and blanks between. -/
def offsetSize? : List Char → Option (Nat × List Char)
  | h :: k :: cs => do
    guard (h.isDigit && k.isDigit)
    match cs.dropWhile fun c => c = ':' || isBlank c with
    | m :: n :: rest =>
      guard (m.isDigit && n.isDigit && m.toNat < '6'.toNat)
      return (Nat.ofDigitChars 10 [h, k] 0 * 3600 + Nat.ofDigitChars 10 [m, n] 0 * 60, rest)
    | _ => none
  | _ => none

/-- Seconds east of UTC, after which only blanks may follow. -/
def offset? (cs : List Char) : Option Int := do
  let (seconds, rest) ← match cs with
    | 'Z' :: rest | 'z' :: rest => some (0, rest)
    | '+' :: rest => (offsetSize? rest).map fun (n, rest) => ((n : Int), rest)
    | '-' :: rest | '\u2212' :: rest =>
      (offsetSize? rest).map fun (n, rest) => (-(n : Int), rest)
    | u :: t :: c :: rest =>
      if [u, t, c].map Char.toUpper = ['U', 'T', 'C'] then some (0, rest) else none
    | _ => none
  guard (rest.all isBlank && seconds.natAbs < 86400)
  return seconds

/-- The timestamp that the parts name. A 60th second is a leap second. -/
def ofParts? (date : Date) (hour minute second nanos : Nat) (offset : Int) :
    Option Timestamp := do
  guard (date.Exists ∧ -262143 ≤ date.year ∧ date.year ≤ 262142)
  guard (hour < 24 ∧ minute < 60 ∧ second ≤ 60)
  let whole := min second 59
  ofEpoch?
    (date.dayNumber * 86400 + ((hour * 3600 + minute * 60 + whole : Nat) : Int) - offset)
    (nanos + (second - whole) * 1000000000)

/-- Read a timestamp. -/
def ofText? (s : String) : Option Timestamp := do
  let (year, cs) ← year? s.toList
  let (month, cs) ← separated? '-' cs
  let (day, cs) ← separated? '-' cs
  let cs ← match cs with
    | 'T' :: cs | 't' :: cs | ' ' :: cs => some cs
    | _ => none
  let (hour, cs) ← twoDigits? cs
  let (minute, cs) ← separated? ':' cs
  let (second, cs) ← separated? ':' cs
  let (nanos, cs) ← fraction? cs
  ofParts? ⟨year, month, day⟩ hour minute second nanos (← offset? (skipBlanks cs))

end SqlBuilder.Timestamp
