import ChatFlow.Decimal.Reading
import ChatFlow.Json.Value
import ChatFlow.Word

/-!
# The numbers of a JSON text

The value of a JSON number is found from its digits.  A number without point and exponent that
fits into sixty-four bits is that integer, except that a negative zero is the double `-0.0`.
Every other number is a double: its leading digits that fit into sixty-four bits are rounded to
a double and then multiplied or divided by a power of ten, itself a double; the digits beyond are
dropped.  A result beyond the largest double is an error.
-/

namespace ChatFlow
namespace Json

/-- A JSON number as it is written. -/
structure NumberText where
  /-- Whether it starts with a minus. -/
  negative : Bool
  /-- The digits before the point. -/
  whole : List Char
  /-- The digits after the point, if there is one. -/
  fraction : Option (List Char)
  /-- Whether the exponent is negative, and its digits, if there is one. -/
  exponent : Option (Bool × List Char)
deriving Repr

namespace NumberText

/-- Appends digits to a number as long as it fits into sixty-four bits; returns the number and
the digits that are left. -/
def absorb (significand : Nat) : List Char → Nat × List Char
  | [] => (significand, [])
  | digit :: rest =>
    let next := significand * 10 + Text.digitValue digit
    if Word.count ≤ next then (significand, digit :: rest) else absorb next rest

/-- The double nearest to a power of ten. -/
def powerOfTen (exponent : Nat) : Double :=
  Double.ofNat (Nat.pow 10 exponent)

/-- The double for `significand * 10 ^ exponent`, in two roundings or three. -/
def scale? (significand : Nat) (exponent : Int) : Option Double :=
  let start := Double.ofNat significand
  if 308 < exponent then
    if significand = 0 then some start else none
  else if 0 ≤ exponent then
    let product := start.multiply (powerOfTen exponent.toNat)
    if product.isInfinite then none else some product
  else if -308 ≤ exponent then some (start.divide (powerOfTen (-exponent).toNat))
  else if -616 ≤ exponent then
    some ((start.divide (powerOfTen 308)).divide (powerOfTen (-exponent - 308).toNat))
  else some (Double.ofNat 0)

/-- The largest exponent that is read as a number. -/
def largestExponent : Nat := 0x7FFFFFFF

/-- The magnitude of a number that has a point or an exponent or does not fit into sixty-four
bits. -/
def magnitude? (text : NumberText) : Option Double :=
  let (head, dropped) := absorb 0 text.whole
  let fraction := text.fraction.getD []
  let (significand, ignored) := absorb head fraction
  let place : Int := (dropped.length : Int) - (fraction.length - ignored.length : Nat)
  match text.exponent with
  | none => scale? significand place
  | some (negative, digits) =>
    let size := Decimal.digitsValue digits
    if largestExponent < size then
      if significand ≠ 0 ∧ !negative then none else some (Double.ofNat 0)
    else scale? significand (if negative then place - size else place + size)

/-- The value of a number, unless it is too large. -/
def number? (text : NumberText) : Option Number :=
  let whole := Decimal.digitsValue text.whole
  if text.fraction.isNone && text.exponent.isNone && whole < Word.count then
    if !text.negative then some (.integer whole)
    else if whole ≠ 0 ∧ whole ≤ Word.signedCount then some (.integer (-(whole : Int)))
    else some (.real (Double.ofNat whole).negate)
  else
    text.magnitude?.map fun magnitude =>
      .real (if text.negative then magnitude.negate else magnitude)

end NumberText

end Json
end ChatFlow
