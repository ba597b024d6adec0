import ChatFlow.Decimal.Binary
import ChatFlow.Text.Ascii

/-!
# Reading decimal numbers

A decimal text is a sign, digits with an optional point, and an optional power of ten; the names
of infinity and of the NaN are read in any case.  The value is the double nearest to the decimal,
however many digits it has.
-/

namespace ChatFlow
namespace Decimal

/-- The number written by a list of decimal digits. -/
def digitsValue (digits : List Char) : Nat :=
  digits.foldl (fun value digit => value * 10 + Text.digitValue digit) 0

/-- The double nearest to `digits * 10 ^ exponent`.  An exponent that is far out of range is
decided by the number of digits alone, so that no huge power is ever computed. -/
def scaled (negative : Bool) (digits : Nat) (exponent : Int) : Double :=
  let reach : Int := (Nat.toDigits 10 digits).length + exponent
  if digits = 0 ∨ reach < -330 then Double.ofPattern negative 0
  else if reach > 320 then Double.infinity negative
  else if exponent ≥ 0 then Double.ofRatio negative (digits * Nat.pow 10 exponent.toNat) 1
  else Double.ofRatio negative digits (Nat.pow 10 (-exponent).toNat)

/-- Splits off a leading sign; the flag says whether it was a minus. -/
def splitSign : List Char → Bool × List Char
  | '-' :: rest => (true, rest)
  | '+' :: rest => (false, rest)
  | rest => (false, rest)

/-- Reads the power of ten after the digits: nothing, or `e` with an optional sign and at least
one digit. -/
def exponent? : List Char → Option Int
  | [] => some 0
  | mark :: rest =>
    if mark = 'e' ∨ mark = 'E' then
      let (negative, digits) := splitSign rest
      if digits.isEmpty || !digits.all Text.isDigit then none
      else
        let size : Int := digitsValue digits
        some (if negative then -size else size)
    else none

/-- Reads an unsigned decimal number: digits around an optional point, at least one of them, and
an optional power of ten. -/
def unsigned? (negative : Bool) (characters : List Char) : Option Double :=
  let whole := characters.takeWhile Text.isDigit
  let afterWhole := characters.dropWhile Text.isDigit
  let (fraction, afterFraction) :=
    match afterWhole with
    | '.' :: rest => (rest.takeWhile Text.isDigit, rest.dropWhile Text.isDigit)
    | rest => ([], rest)
  if whole.isEmpty && fraction.isEmpty then none
  else
    (exponent? afterFraction).map fun exponent =>
      scaled negative (digitsValue (whole ++ fraction)) (exponent - fraction.length)

/-- Reads a decimal number, infinity or a NaN, each with an optional sign. -/
def double? (text : String) : Option Double :=
  let (negative, rest) := splitSign text.toList
  let name := Text.lowerAscii (String.ofList rest)
  if name = "inf" ∨ name = "infinity" then some (Double.infinity negative)
  else if name = "nan" then some (if negative then Double.nan.negate else Double.nan)
  else unsigned? negative rest

end Decimal
end ChatFlow
