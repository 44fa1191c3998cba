/-!
# Decimal numbers in positional notation

A non-negative decimal `digits · 10^exponent` and its positional text: every digit is written out,
a point appears only before a non-zero fraction, and no exponent is ever used.
-/

namespace SqlBuilder

/-- The number `digits · 10^exponent`. -/
structure Decimal where
  digits : Nat
  exponent : Int
deriving DecidableEq, Repr

namespace Decimal

/-- A power of ten. -/
def tenPow (e : Nat) : Nat := Nat.pow 10 e

/-- The list without the zeros at its end. -/
def dropFinalZeros (ds : List Char) : List Char := (ds.reverse.dropWhile (· = '0')).reverse

/-- A whole part and the digits behind the point; the point goes with an empty fraction. -/
def withFraction (whole fraction : List Char) : List Char :=
  match dropFinalZeros fraction with
  | [] => whole
  | ds => whole ++ '.' :: ds

/-- The positional text of a decimal. -/
def positional (d : Decimal) : List Char :=
  match d.exponent with
  | .ofNat e => Nat.toDigits 10 (d.digits * tenPow e)
  | .negSucc e =>
    let unit := tenPow (e + 1)
    let fraction := Nat.toDigits 10 (d.digits % unit)
    withFraction (Nat.toDigits 10 (d.digits / unit))
      (List.replicate (e + 1 - fraction.length) '0' ++ fraction)

example : positional ⟨15, -1⟩ = ['1', '.', '5'] := by decide
example : positional ⟨3, 2⟩ = ['3', '0', '0'] := by decide
example : positional ⟨10, -1⟩ = ['1'] := by decide
example : positional ⟨5, -3⟩ = ['0', '.', '0', '0', '5'] := by decide

end Decimal
end SqlBuilder
