import GridScript.Text.Numeral

/-!
Decimals with a significand of 64 bits, and whether they overflow as doubles.

The digits of a number are gathered for as long as the significand holds them. The double is the
product of the significand and the power of ten, each rounded before they are multiplied, so that
close to the limit the digits that were left out decide nothing.
-/

namespace GridScript.Text

/-- Adds digits to a significand until one does not fit; gives also the digits that are left. -/
def gather : Nat → List Char → Nat × List Char
  | s, [] => (s, [])
  | s, c :: cs =>
    let next := 10 * s + digitValue c
    if next < UInt64.size then gather next cs else (s, c :: cs)

/-- A significand times a power of ten. -/
structure Decimal where
  significand : Nat
  scale : Int

namespace Decimal

/-- The decimal of the digits before and after the point. A digit before it that is left out is one
more power of ten; one after it does not count. -/
def ofDigits (whole fraction : List Char) (exponent : Int) : Decimal :=
  let (s, excess) := gather 0 whole
  let (s, rest) := gather s fraction
  ⟨s, exponent + excess.length + rest.length - fraction.length⟩

/-- The nearest number of 53 significant bits; a half goes to the even one. -/
def round53 (n : Nat) : Nat :=
  let unit := Nat.pow 2 (Nat.log2 n - 52)
  let down := n / unit
  let part := n % unit
  if 2 * part < unit || (2 * part == unit && down % 2 == 0) then down * unit else (down + 1) * unit

/-- From here on a number rounds to no finite double. -/
def limit : Nat := Nat.pow 2 1024 - Nat.pow 2 970

/-- The decimal does not overflow as a double. A negative power of ten divides. -/
def isFinite (d : Decimal) : Bool :=
  d.significand == 0 || d.scale < 0 ||
    (d.scale ≤ 308 && round53 d.significand * round53 (Nat.pow 10 d.scale.toNat) < limit)

end Decimal

end GridScript.Text
