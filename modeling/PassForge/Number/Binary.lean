import PassForge.Number.Decimal

/-!
# Binary floating point by bit patterns

A `BinaryFormat` is an interchange format with a sign bit, an exponent field and a significand.
A float is its bit pattern, so that equal floats are equal values and nothing depends on machine
arithmetic.

* `BinaryFormat.round` gives the pattern nearest to an exact fraction; of two equally near patterns
  the one with the even significand, and infinity beyond the largest finite value.
* `BinaryFormat.decode` reads a pattern as a sign, a significand and a power of two.
* `Binary64.ofDecimal` rounds a numeral once; `Binary32.ofDecimal` rounds it to 64 bits first and
  that value to 32 bits, as a program does that reads a double and stores a single.
* `bytesOfWords` and `bytesOfSingles` give words and floats of 32 bits as they stand in buffers: four
  bytes each, the least significant one first.
-/

namespace PassForge

/-- A binary interchange format. -/
structure BinaryFormat where
  /-- Bits of the significand, the implicit leading one included. -/
  precision : Nat
  /-- Bits of the exponent field. -/
  exponentBits : Nat
  deriving DecidableEq

namespace BinaryFormat

/-- The 64-bit format. -/
def double : BinaryFormat := ⟨53, 11⟩

/-- The 32-bit format. -/
def single : BinaryFormat := ⟨24, 8⟩

/-- The power of two that one unit of the smallest significand stands for. -/
def leastExponent (f : BinaryFormat) : Int :=
  3 - ((1 <<< (f.exponentBits - 1) : Nat) : Int) - f.precision

/-- Pattern of the weight of the exponent field's lowest bit. -/
def exponentUnit (f : BinaryFormat) : Nat := 1 <<< (f.precision - 1)

/-- Pattern of positive infinity: all exponent bits set. -/
def infinity (f : BinaryFormat) : Nat := (1 <<< f.exponentBits - 1) * f.exponentUnit

/-- Pattern of the sign bit. -/
def signBit (f : BinaryFormat) : Nat := 1 <<< (f.exponentBits + f.precision - 1)

/-- The integer nearest to `num / den`; halfway between two integers, the even one. -/
def nearestEven (num den : Nat) : Nat :=
  let quotient := num / den
  let remainder := num % den
  if 2 * remainder < den then quotient
  else if den < 2 * remainder then quotient + 1
  else quotient + quotient % 2

/-- The exponent of the largest power of two that is at most the positive fraction `num / den`. -/
def log2Fraction (num den : Nat) : Int :=
  let estimate : Int := (num.log2 : Int) - den.log2
  if num * scaling 2 (-estimate) < den * scaling 2 estimate then estimate - 1 else estimate

/-- Pattern of the float nearest to `num / den`, negated if `negative`. -/
def round (f : BinaryFormat) (negative : Bool) (num den : Nat) : Nat :=
  let sign := if negative then f.signBit else 0
  if num = 0 then sign
  else
    let exponent := max (log2Fraction num den - (f.precision - 1)) f.leastExponent
    let significand := nearestEven (num * scaling 2 (-exponent)) (den * scaling 2 exponent)
    let pattern :=
      if significand < f.exponentUnit then significand
      else (exponent - f.leastExponent).toNat * f.exponentUnit + significand
    sign + min pattern f.infinity

/-- What a bit pattern stands for. -/
inductive Value where
  /-- The number `significand * 2 ^ exponent`, negated if `negative`. -/
  | finite (negative : Bool) (significand : Nat) (exponent : Int)
  /-- An infinity. -/
  | infinite (negative : Bool)
  /-- No number. -/
  | notANumber
  deriving DecidableEq

/-- Reads a bit pattern. -/
def decode (f : BinaryFormat) (pattern : Nat) : Value :=
  let negative := decide (f.signBit ≤ pattern)
  let magnitude := pattern % f.signBit
  if f.infinity < magnitude then .notANumber
  else if magnitude = f.infinity then .infinite negative
  else
    let field := magnitude / f.exponentUnit
    let fraction := magnitude % f.exponentUnit
    if field = 0 then .finite negative fraction f.leastExponent
    else .finite negative (f.exponentUnit + fraction) (f.leastExponent + field - 1)

/-- Pattern in the format `g` of the float nearest to the one with this pattern in `f`. -/
def convert (f g : BinaryFormat) (pattern : Nat) : Nat :=
  match f.decode pattern with
  | .finite negative significand exponent =>
    g.round negative (significand * scaling 2 exponent) (scaling 2 (-exponent))
  | .infinite negative => (if negative then g.signBit else 0) + g.infinity
  | .notANumber => g.infinity + g.exponentUnit / 2

end BinaryFormat

/-- A 64-bit float. -/
structure Binary64 where
  /-- The bit pattern. -/
  bits : UInt64
  deriving DecidableEq, Inhabited

/-- A 32-bit float. -/
structure Binary32 where
  /-- The bit pattern. -/
  bits : UInt32
  deriving DecidableEq, Inhabited

namespace Binary64

/-- A numeral with the same float and an exponent of moderate size. From `10 ^ 400` on every number
rounds to infinity, and below `10 ^ (-400)` to zero, so exponents that lead further are cut off. -/
def cutExponent (d : Decimal) : Decimal :=
  { d with exponent := max (-(401 + d.digits.log2 : Nat)) (min 400 d.exponent) }

/-- The float nearest to a numeral. -/
def ofDecimal (d : Decimal) : Binary64 :=
  let d := cutExponent d
  ⟨.ofNat (BinaryFormat.double.round d.negative d.numerator d.denominator)⟩

/-- The 32-bit float nearest to a 64-bit one. -/
def toBinary32 (x : Binary64) : Binary32 :=
  ⟨.ofNat (BinaryFormat.double.convert .single x.bits.toNat)⟩

/-- The float nearest to a natural number. -/
def ofNat (n : Nat) : Binary64 := ofDecimal { digits := n }

end Binary64

namespace Binary32

/-- The float nearest to the 64-bit float nearest to a numeral. -/
def ofDecimal (d : Decimal) : Binary32 := (Binary64.ofDecimal d).toBinary32

/-- The float nearest to a natural number. -/
def ofNat (n : Nat) : Binary32 := ofDecimal { digits := n }

end Binary32

/-! ## Bytes -/

/-- The four bytes of a word, the least significant one first. -/
def wordBytes (w : UInt32) : List UInt8 :=
  [w.toUInt8, (w >>> 8).toUInt8, (w >>> 16).toUInt8, (w >>> 24).toUInt8]

/-- The bytes of words that follow each other. -/
def bytesOfWords (ws : List UInt32) : Array UInt8 := (ws.flatMap wordBytes).toArray

/-- The bytes of floats that follow each other. -/
def bytesOfSingles (xs : List Binary32) : Array UInt8 := bytesOfWords (xs.map Binary32.bits)

end PassForge
