import PassForge.Number.Binary

/-!
# The shortest decimal text of a float

`BinaryFormat.shortest` finds the fewest digits that read back as the same float and, of those, the
ones nearest to it; of two that are equally near, the larger. It tests, for one digit, two digits and
so on, the two neighbours of the exact value on the grid of decimals with that many digits.

`FloatText` fixes how the digits are written; `Binary64.text` and `Binary32.text` write a float
positionally from `10⁻⁴` up to below `10¹⁶`, with at least one digit after the point, and with a
power of ten outside of that range.
-/

namespace PassForge

namespace BinaryFormat

/-- The reals that round to a positive float, as fractions over `den`: the value itself and the two
ends of the interval, which belong to it iff `closed`. -/
structure Neighbourhood where
  /-- Numerator of the float's value. -/
  value : Nat
  /-- Numerator of the lower end. -/
  lower : Nat
  /-- Numerator of the upper end. -/
  upper : Nat
  /-- Common denominator. -/
  den : Nat
  /-- Whether the ends round to the float. -/
  closed : Bool

/-- The neighbourhood of `significand * 2 ^ exponent`. Below a power of two the floats are twice as
dense, so the lower end is nearer there. -/
def neighbourhood (f : BinaryFormat) (significand : Nat) (exponent : Int) : Neighbourhood :=
  let scale := scaling 2 exponent
  let dense := significand = f.exponentUnit ∧ f.leastExponent < exponent
  { value := 4 * significand * scale
    lower := (4 * significand - if dense then 1 else 2) * scale
    upper := (4 * significand + 2) * scale
    den := 4 * scaling 2 (-exponent)
    closed := significand % 2 = 0 }

/-- The integer nearest to `num / den`; halfway between two integers, the larger. -/
def nearestUp (num den : Nat) : Nat := (2 * num + den) / (2 * den)

namespace Neighbourhood

/-- Whether the decimal `digits * 10 ^ power` rounds to the float. -/
def holds (n : Neighbourhood) (digits : Nat) (power : Int) : Bool :=
  let num := digits * scaling 10 power * n.den
  let den := scaling 10 (-power)
  if n.closed then decide (n.lower * den ≤ num ∧ num ≤ n.upper * den)
  else decide (n.lower * den < num ∧ num < n.upper * den)

/-- The decimal with unit `10 ^ power` that rounds to the float and is nearest to it, if any. Halfway
between two of them it is the larger. -/
def onGrid (n : Neighbourhood) (power : Int) : Option Nat :=
  let num := n.value * scaling 10 (-power)
  let den := n.den * scaling 10 power
  let below := num / den
  let nearest := nearestUp num den
  let other := if nearest = below then below + 1 else below
  if n.holds nearest power then some nearest
  else if n.holds other power then some other
  else none

/-- The power of ten just above the value, which its leading digit stands one place below. -/
def magnitude (n : Neighbourhood) : Int :=
  if n.den ≤ n.value then ((n.value / n.den).repr.length : Int)
  else 1 - ((n.den / n.value).repr.length : Int)

/-- Tries grids with more and more digits, the coarsest first. -/
def search (n : Neighbourhood) (top : Int) : Nat → Nat → Nat × Int
  | _, 0 => (0, 0)
  | count, fuel + 1 =>
    let power := top - count
    match n.onGrid power with
    | some digits => (digits, power)
    | none => search n top (count + 1) fuel

end Neighbourhood

/-- The fewest digits that read back as `significand * 2 ^ exponent`, and their power of ten. -/
def shortest (f : BinaryFormat) (significand : Nat) (exponent : Int) : Nat × Int :=
  let n := f.neighbourhood significand exponent
  n.search n.magnitude 1 20

end BinaryFormat

/-- How the digits of a float are written. -/
structure FloatText where
  /-- The least magnitude, as a power of ten, that is written positionally. -/
  leastPositional : Int
  /-- The power of ten from which on the text has an exponent. -/
  firstExponential : Int
  /-- Digits that stand after the point at least, in positional text. -/
  fractionDigits : Nat

namespace FloatText

/-- Drops the zeros at the end of the digits and scales the power of ten instead. -/
def stripZeros : Nat → Nat → Int → Nat × Int
  | 0, digits, power => (digits, power)
  | fuel + 1, digits, power =>
    if digits % 10 = 0 ∧ digits ≠ 0 then stripZeros fuel (digits / 10) (power + 1)
    else (digits, power)

/-- Digits with a point, at least `fractionDigits` of them behind it. -/
def positional (style : FloatText) (digits : Nat) (power : Int) : String :=
  let text := digits.repr
  let text := if 0 ≤ power then text ++ "".pushn '0' power.toNat else text
  let fraction := (-power).toNat
  let text := "".pushn '0' (fraction + 1 - text.length) ++ text
  let whole := (text.take (text.length - fraction)).toString
  let rest := (text.drop (text.length - fraction)).toString
  let rest := rest.pushn '0' (style.fractionDigits - rest.length)
  whole ++ "." ++ rest

/-- One digit before the point, the others behind it, and the power of ten. -/
def exponential (digits : Nat) (power : Int) : String :=
  let text := digits.repr
  let leading := (text.take 1).toString
  let rest := (text.drop 1).toString
  let mantissa := if rest.isEmpty then leading else leading ++ "." ++ rest
  mantissa ++ "e" ++ toString (power + (text.length - 1))

/-- The text of the float with the given bit pattern. -/
def write (style : FloatText) (f : BinaryFormat) (pattern : Nat) : String :=
  match f.decode pattern with
  | .notANumber => "NaN"
  | .infinite negative => if negative then "-inf" else "inf"
  | .finite negative significand exponent =>
    let sign := if negative then "-" else ""
    if significand = 0 then sign ++ "0." ++ "".pushn '0' style.fractionDigits
    else
      let (digits, power) := f.shortest significand exponent
      let (digits, power) := stripZeros 20 digits power
      let magnitude := pattern % f.signBit
      let boundary (p : Int) : Nat := f.round false (scaling 10 p) (scaling 10 (-p))
      if magnitude < boundary style.leastPositional ∨ boundary style.firstExponential ≤ magnitude
      then sign ++ exponential digits power
      else sign ++ style.positional digits power

/-- Positional from `10⁻⁴` up to below `10¹⁶`, always with a digit after the point. -/
def plain : FloatText := ⟨-4, 16, 1⟩

end FloatText

/-- The text of a 64-bit float. -/
def Binary64.text (x : Binary64) : String := FloatText.plain.write .double x.bits.toNat

/-- The text of a 32-bit float. -/
def Binary32.text (x : Binary32) : String := FloatText.plain.write .single x.bits.toNat

end PassForge
