import SqlBuilder.Decimal

/-!
# The shortest decimal that reads back

A binary floating-point number stands for every real that rounds to it. Of the decimals in that
interval the text of a number uses one on the coarsest grid `10^e` that meets the interval, and
there the one nearer to the number itself; of two equally near ones, the larger. All of this is
exact arithmetic on natural numbers: the interval is given by three numerators over one
denominator, and each grid is tried with the two points on either side of the number.

Searching from coarse to fine is what makes the result shortest: a point of a grid lies in the
interval only if one of the two neighbours of the number on that grid does.
-/

namespace SqlBuilder

/-- The leading bit of a normal number, which its bits leave out. -/
def hiddenBit : Nat := 1 <<< 52

/-- The reals that round to a positive binary number, as `low`, `value` and `high` over `scale`.
The ends belong to the interval exactly when `closed`. -/
structure RoundingInterval where
  low : Nat
  value : Nat
  high : Nat
  scale : Nat
  closed : Bool
deriving DecidableEq, Repr

namespace RoundingInterval

/-- The interval of `m · 2^q`. Below a power of two the neighbouring number is only half as far
away; the ends round to even. -/
def ofBinary (m : Nat) (q : Int) : RoundingInterval :=
  let (up, scale) := match q - 2 with
    | .ofNat k => (1 <<< k, 1)
    | .negSucc k => (1, 1 <<< (k + 1))
  { low := (4 * m - if m = hiddenBit then 1 else 2) * up
    value := 4 * m * up
    high := (4 * m + 2) * up
    scale
    closed := m % 2 = 0 }

/-- The point `s · n / d` lies in the interval. -/
def contains (i : RoundingInterval) (s n d : Nat) : Bool :=
  let p := s * n * i.scale
  if i.closed then i.low * d ≤ p && p ≤ i.high * d else i.low * d < p && p < i.high * d

/-- The multiple of `n / d` in the interval that is nearest to the value, the larger of two. -/
def onGrid? (i : RoundingInterval) (n d : Nat) : Option Nat :=
  let unit := n * i.scale
  let s := i.value * d / unit
  let rest := i.value * d % unit
  match i.contains s n d, i.contains (s + 1) n d with
  | true, true => some (if 2 * rest < unit then s else s + 1)
  | true, false => some s
  | false, true => some (s + 1)
  | false, false => none

/-- The power of ten `10^e` as a fraction. -/
def tenPower : Int → Nat × Nat
  | .ofNat e => (Decimal.tenPow e, 1)
  | .negSucc e => (1, Decimal.tenPow (e + 1))

/-- Search the grids `10^e`, `10^(e-1)`, … for the first that meets the interval. -/
def search (i : RoundingInterval) : Nat → Int → Decimal
  | 0, e => ⟨0, e⟩
  | steps + 1, e =>
    let (n, d) := tenPower e
    match i.onGrid? n d with
    | some s => ⟨s, e⟩
    | none => i.search steps (e - 1)

/-- The shortest decimal in the interval. No number has a point above `10^309`, and every interval
is wider than the grid `10^(-324)`, so these are all the grids there are to try. -/
def shortest (i : RoundingInterval) : Decimal := i.search 634 309

end RoundingInterval

/-- What the bits of a 64-bit floating-point number stand for. -/
inductive BinaryNumber where
  | notANumber
  | infinite (negative : Bool)
  /-- The number `m · 2^q` with a sign, which zero has too. -/
  | finite (negative : Bool) (m : Nat) (q : Int)
deriving DecidableEq, Repr

namespace BinaryNumber

/-- Sign, eleven bits of exponent, fifty-two bits of fraction. -/
def ofBits (bits : Nat) : BinaryNumber :=
  let negative : Bool := (bits >>> 63) % 2 = 1
  let exponent : Nat := (bits >>> 52) % 2048
  let fraction : Nat := bits % hiddenBit
  if exponent = 2047 then
    if fraction = 0 then .infinite negative else .notANumber
  else if exponent = 0 then .finite negative fraction (-1074)
  else .finite negative (fraction + hiddenBit) ((exponent : Int) - 1075)

/-- The sign is written for every negative number, also for zero and infinity. -/
def signed (negative : Bool) (text : List Char) : List Char :=
  if negative then '-' :: text else text

/-- The text of a number in SQL. -/
def text : BinaryNumber → List Char
  | .notANumber => ['N', 'a', 'N']
  | .infinite negative => signed negative ['i', 'n', 'f']
  | .finite negative 0 _ => signed negative ['0']
  | .finite negative m q => signed negative (RoundingInterval.ofBinary m q).shortest.positional

end BinaryNumber

/-- The text of a 64-bit floating-point number in SQL. -/
def floatText (x : Float) : String := .ofList (BinaryNumber.ofBits x.toBits.toNat).text

end SqlBuilder
