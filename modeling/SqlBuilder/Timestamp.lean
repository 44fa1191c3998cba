import SqlBuilder.Calendar

/-!
# Points in time

A timestamp counts seconds from 1970-01-01 00:00:00 UTC and billionths within the second. A leap
second is written as more than a whole second of billionths in the last second of its minute, so
that it falls between that second and the next. The dates of all timestamps lie in the years
-262143 to 262142.

`Timestamp.sqlText` is the text of a timestamp wherever it enters SQL: what is bound, what is
quoted, and what a row holds. It drops the part below a second.
-/

namespace SqlBuilder

/-- A point in time, always in UTC. -/
structure Timestamp where
  seconds : Int
  nanos : Nat
  inYears : -8334601228800 ≤ seconds ∧ seconds < 8210266876800
  nanos_lt : nanos < 2000000000
  /-- Only the last second of a minute can be followed by a leap second. -/
  leap : 1000000000 ≤ nanos → seconds % 60 = 59
deriving DecidableEq

namespace Timestamp

/-- The timestamp with the given counts, if there is one. -/
def ofEpoch? (seconds : Int) (nanos : Nat) : Option Timestamp :=
  if h : (-8334601228800 ≤ seconds ∧ seconds < 8210266876800) ∧ nanos < 2000000000 ∧
      (1000000000 ≤ nanos → seconds % 60 = 59) then
    some ⟨seconds, nanos, h.1, h.2.1, h.2.2⟩
  else none

theorem ofEpoch?_self (t : Timestamp) : ofEpoch? t.seconds t.nanos = some t :=
  dif_pos ⟨t.inYears, t.nanos_lt, t.leap⟩

/-- The date on which the timestamp falls. -/
def date (t : Timestamp) : Date := Date.ofDayNumber (t.seconds / 86400)

/-- Seconds since the start of the day. -/
def secondOfDay (t : Timestamp) : Nat := (t.seconds % 86400).toNat

def hour (t : Timestamp) : Nat := t.secondOfDay / 3600

def minute (t : Timestamp) : Nat := t.secondOfDay / 60 % 60

/-- The second within the minute; a leap second is the 60th. -/
def second (t : Timestamp) : Nat := t.secondOfDay % 60 + t.nanos / 1000000000

/-- The part below a second, in billionths. -/
def fraction (t : Timestamp) : Nat := t.nanos % 1000000000

/-! ## Text -/

/-- Decimal digits, filled up with zeros on the left. -/
def padded (width n : Nat) : List Char :=
  let ds := Nat.toDigits 10 n
  List.replicate (width - ds.length) '0' ++ ds

/-- A year has at least four digits. One outside 0 to 9999 carries its sign. -/
def yearText (y : Int) : List Char :=
  if 0 ≤ y ∧ y ≤ 9999 then padded 4 y.toNat
  else (if y < 0 then '-' else '+') :: padded 4 y.natAbs

/-- Year, month and day, joined by `-`. -/
def dateText (t : Timestamp) : List Char :=
  yearText t.date.year ++ '-' :: padded 2 t.date.month ++ '-' :: padded 2 t.date.day

/-- Hour, minute and second, joined by `:`. -/
def timeText (t : Timestamp) : List Char :=
  padded 2 t.hour ++ ':' :: padded 2 t.minute ++ ':' :: padded 2 t.second

/-- The text of a timestamp in SQL, without the part below a second. -/
def sqlText (t : Timestamp) : String := .ofList (t.dateText ++ ' ' :: t.timeText)

/-- The part below a second in three, six or nine digits: the fewest that are exact, and none at
all for a whole second. -/
def fractionText (n : Nat) : List Char :=
  if n = 0 then []
  else if n % 1000000 = 0 then '.' :: padded 3 (n / 1000000)
  else if n % 1000 = 0 then '.' :: padded 6 (n / 1000)
  else '.' :: padded 9 n

/-- The exact text of a timestamp, in which exported state keeps it. -/
def text (t : Timestamp) : String :=
  .ofList (t.dateText ++ 'T' :: t.timeText ++ fractionText t.fraction ++ ['Z'])

end Timestamp
end SqlBuilder
