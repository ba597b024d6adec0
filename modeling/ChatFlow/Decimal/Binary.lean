/-!
# Binary floating point as bit patterns

A floating-point number is kept as its bit pattern, so that equality is decidable and every
operation is exact arithmetic on natural numbers.  The one primitive is `BinaryFormat.round`,
which takes a ratio of natural numbers to the nearest representable magnitude, a tie going to
the even pattern.
-/

namespace ChatFlow

/-- Divides and rounds to the nearest natural number; a half goes to the even neighbour. -/
def roundHalfEven (numerator denominator : Nat) : Nat :=
  let quotient := numerator / denominator
  let twice := 2 * (numerator % denominator)
  if twice < denominator then quotient
  else if denominator < twice then quotient + 1
  else quotient + quotient % 2

/-- A binary interchange format: the significand's width and the exponent range. -/
structure BinaryFormat where
  /-- The number of bits of a significand, the hidden one included. -/
  precision : Nat
  /-- Minus the exponent of the lowest bit of a subnormal number. -/
  lowest : Nat
  /-- The pattern of infinity. -/
  infinity : Nat

/-- Sixty-four bits, fifty-three of precision. -/
def binary64 : BinaryFormat := ⟨53, 1074, 0x7FF0000000000000⟩

/-- Thirty-two bits, twenty-four of precision. -/
def binary32 : BinaryFormat := ⟨24, 149, 0x7F800000⟩

namespace BinaryFormat

/-- The pattern of the representable magnitude nearest to a ratio, a tie going to the even
pattern and what lies beyond the largest number to infinity.  A pattern is the scaled significand
plus the scaled exponent, so a carry out of the significand moves to the next exponent by itself.
-/
def round (format : BinaryFormat) (numerator denominator : Nat) : Nat :=
  if numerator = 0 then 0
  else
    let guess : Int := (Nat.log2 numerator : Int) - Nat.log2 denominator
    let below :=
      if guess ≥ 0 then numerator < denominator <<< guess.toNat
      else numerator <<< (-guess).toNat < denominator
    let top := if below then guess - 1 else guess
    let step : Int := max (top - (format.precision - 1 : Nat)) (-(format.lowest : Int))
    let significand :=
      if step ≥ 0 then roundHalfEven numerator (denominator <<< step.toNat)
      else roundHalfEven (numerator <<< (-step).toNat) denominator
    let pattern := (step + format.lowest).toNat <<< (format.precision - 1) + significand
    min pattern format.infinity

end BinaryFormat

/-- A double-precision number, kept as its bit pattern. -/
structure Double where
  /-- The bit pattern. -/
  bits : UInt64
deriving DecidableEq, Inhabited, Repr

namespace Double

/-- The bit of the sign. -/
def signBit : Nat := 0x8000000000000000

/-- Gives a magnitude's pattern a sign. -/
def ofPattern (negative : Bool) (pattern : Nat) : Double :=
  ⟨(if negative then pattern + signBit else pattern).toUInt64⟩

/-- The double nearest to a signed ratio. -/
def ofRatio (negative : Bool) (numerator denominator : Nat) : Double :=
  ofPattern negative (binary64.round numerator denominator)

/-- Infinity of either sign. -/
def infinity (negative : Bool) : Double :=
  ofPattern negative binary64.infinity

/-- The number that is not a number. -/
def nan : Double := ⟨0x7FF8000000000000⟩

/-- Whether the sign bit is set. -/
def isNegative (number : Double) : Bool :=
  signBit ≤ number.bits.toNat

/-- The pattern without its sign bit. -/
def magnitude (number : Double) : Nat :=
  number.bits.toNat % signBit

/-- Neither infinite nor a NaN. -/
def isFinite (number : Double) : Bool :=
  number.magnitude < binary64.infinity

/-- Infinite, of either sign. -/
def isInfinite (number : Double) : Bool :=
  number.magnitude == binary64.infinity

/-- Not a number. -/
def isNaN (number : Double) : Bool :=
  binary64.infinity < number.magnitude

/-- Zero of either sign. -/
def isZero (number : Double) : Bool :=
  number.magnitude == 0

/-- The bit of a significand that a normal number does not write. -/
def hiddenBit : Nat := 0x10000000000000

/-- The significand and the exponent of a finite number: its magnitude is
`significand * 2 ^ exponent`. -/
def parts (number : Double) : Nat × Int :=
  let exponent : Nat := number.magnitude / hiddenBit
  let fraction : Nat := number.magnitude % hiddenBit
  if exponent = 0 then (fraction, -1074) else (fraction + hiddenBit, (exponent : Int) - 1075)

/-- The magnitude of a finite number as a ratio of natural numbers. -/
def ratio (number : Double) : Nat × Nat :=
  let (significand, exponent) := number.parts
  if exponent ≥ 0 then (significand <<< exponent.toNat, 1)
  else (significand, 1 <<< (-exponent).toNat)

/-- The double nearest to a natural number. -/
def ofNat (n : Nat) : Double :=
  ofRatio false n 1

/-- The double nearest to an integer. -/
def ofInt (n : Int) : Double :=
  ofRatio (n < 0) n.natAbs 1

/-- The number with the other sign. -/
def negate (number : Double) : Double :=
  ofPattern (!number.isNegative) number.magnitude

/-- The product of two finite numbers, rounded to the nearest double. -/
def multiply (left right : Double) : Double :=
  let (leftNumerator, leftDenominator) := left.ratio
  let (rightNumerator, rightDenominator) := right.ratio
  ofRatio (left.isNegative != right.isNegative) (leftNumerator * rightNumerator)
    (leftDenominator * rightDenominator)

/-- The quotient of two finite numbers, the second not zero, rounded to the nearest double. -/
def divide (left right : Double) : Double :=
  let (leftNumerator, leftDenominator) := left.ratio
  let (rightNumerator, rightDenominator) := right.ratio
  ofRatio (left.isNegative != right.isNegative) (leftNumerator * rightDenominator)
    (leftDenominator * rightNumerator)

end Double

/-- A single-precision number, kept as its bit pattern. -/
structure Single where
  /-- The bit pattern. -/
  bits : UInt32
deriving DecidableEq, Inhabited, Repr

namespace Single

/-- The bit of the sign. -/
def signBit : Nat := 0x80000000

/-- Gives a magnitude's pattern a sign. -/
def ofPattern (negative : Bool) (pattern : Nat) : Single :=
  ⟨(if negative then pattern + signBit else pattern).toUInt32⟩

/-- The single nearest to a double; a NaN stays one and what is too large becomes infinite. -/
def ofDouble (number : Double) : Single :=
  if number.isNaN then ofPattern number.isNegative 0x7FC00000
  else if number.isInfinite then ofPattern number.isNegative binary32.infinity
  else
    let (numerator, denominator) := number.ratio
    ofPattern number.isNegative (binary32.round numerator denominator)

/-- The single nearest to an integer. -/
def ofInt (n : Int) : Single :=
  ofPattern (n < 0) (binary32.round n.natAbs 1)

/-- Whether the sign bit is set. -/
def isNegative (number : Single) : Bool :=
  signBit ≤ number.bits.toNat

/-- The pattern without its sign bit. -/
def magnitude (number : Single) : Nat :=
  number.bits.toNat % signBit

/-- The bit of a significand that a normal number does not write. -/
def hiddenBit : Nat := 0x800000

/-- The significand and the exponent of a finite number: its magnitude is
`significand * 2 ^ exponent`. -/
def parts (number : Single) : Nat × Int :=
  let exponent : Nat := number.magnitude / hiddenBit
  let fraction : Nat := number.magnitude % hiddenBit
  if exponent = 0 then (fraction, -149) else (fraction + hiddenBit, (exponent : Int) - 150)

/-- The double with the same value. -/
def toDouble (number : Single) : Double :=
  if number.magnitude = binary32.infinity then Double.infinity number.isNegative
  else if binary32.infinity < number.magnitude then
    Double.ofPattern number.isNegative 0x7FF8000000000000
  else
    let (significand, exponent) := number.parts
    if exponent ≥ 0 then Double.ofRatio number.isNegative (significand <<< exponent.toNat) 1
    else Double.ofRatio number.isNegative significand (1 <<< (-exponent).toNat)

end Single

/-- A ratio that is a natural number rounds to that number. -/
theorem roundHalfEven_mul_self (n denominator : Nat) (positive : 0 < denominator) :
    roundHalfEven (n * denominator) denominator = n := by
  simp [roundHalfEven, positive]

end ChatFlow
