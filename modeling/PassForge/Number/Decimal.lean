/-!
# Decimal numerals

A `Decimal` is what a numeral with a point or an exponent writes: a sign, an integer and a power of
ten. It is exact, so rounding to a binary format is left to `PassForge.Number.Binary`.

A number `m * b ^ e` with an integer exponent is the fraction `m * scaling b e` over
`scaling b (-e)`, of which at most one factor is not one.
-/

namespace PassForge

/-- The power `base ^ exponent`, and one for a negative exponent. -/
def scaling (base : Nat) (exponent : Int) : Nat := Nat.pow base exponent.toNat

/-- The number `digits * 10 ^ exponent`, negated if `negative`. The sign of zero is kept. -/
structure Decimal where
  /-- Whether a minus sign stands in front. -/
  negative : Bool := false
  /-- The digits, read as one integer. -/
  digits : Nat
  /-- The power of ten that the digits are scaled by. -/
  exponent : Int := 0
  deriving DecidableEq, Inhabited

namespace Decimal

/-- An integer as a decimal. -/
def ofInt (i : Int) : Decimal := { negative := decide (i < 0), digits := i.natAbs }

/-- Numerator of the magnitude as a fraction of natural numbers. -/
def numerator (d : Decimal) : Nat := d.digits * scaling 10 d.exponent

/-- Denominator of the magnitude as a fraction of natural numbers. It is never zero. -/
def denominator (d : Decimal) : Nat := scaling 10 (-d.exponent)

end Decimal

end PassForge
