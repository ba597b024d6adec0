import ChatFlow.Decimal.Shortest
import ChatFlow.Json.Value

/-!
# Writing JSON texts

The compact form of a JSON value: no blanks, and an object's fields in their stored order.  A
double is written with the fewest digits that read back, positionally when its point falls
within or near its digits and with an exponent otherwise.
-/

namespace ChatFlow
namespace Json

/-- A lower-case hexadecimal digit. -/
def hexDigit (value : Nat) : Char :=
  if value < 10 then Char.ofNat ('0'.toNat + value) else Char.ofNat ('a'.toNat + value - 10)

/-- How one character of a string is written. -/
def encodeChar (c : Char) : List Char :=
  if c = '"' then ['\\', '"']
  else if c = '\\' then ['\\', '\\']
  else if c = '\x08' then ['\\', 'b']
  else if c = '\x0c' then ['\\', 'f']
  else if c = '\n' then ['\\', 'n']
  else if c = '\r' then ['\\', 'r']
  else if c = '\t' then ['\\', 't']
  else if c.toNat < 32 then
    ['\\', 'u', '0', '0', hexDigit (c.toNat / 16), hexDigit (c.toNat % 16)]
  else [c]

/-- A string with its quotes. -/
def encodeString (text : String) : List Char :=
  '"' :: (text.toList.flatMap encodeChar ++ ['"'])

/-- The decimal digits of a natural number. -/
def encodeNat (n : Nat) : List Char :=
  Nat.toDigits 10 n

/-- An integer. -/
def encodeInt (n : Int) : List Char :=
  if n < 0 then '-' :: encodeNat n.natAbs else encodeNat n.natAbs

/-- The digits of a positive number whose decimal exponent is `exponent`: positional when the
point lies at most sixteen places after the first digit or at most five before it, scientific
otherwise, and always with a point or an exponent. -/
def placePoint (digits : List Char) (exponent : Int) : List Char :=
  let point : Int := digits.length + exponent
  if 0 ≤ exponent ∧ point ≤ 16 then
    digits ++ List.replicate exponent.toNat '0' ++ ['.', '0']
  else if 0 < point ∧ point ≤ 16 then
    digits.take point.toNat ++ '.' :: digits.drop point.toNat
  else if -5 < point ∧ point ≤ 0 then
    '0' :: '.' :: (List.replicate (-point).toNat '0' ++ digits)
  else
    let tail := digits.drop 1
    digits.take 1 ++ (if tail.isEmpty then [] else '.' :: tail) ++ 'e' :: encodeInt (point - 1)

/-- A double; one that is not finite has no JSON form and is written as null. -/
def encodeDouble (number : Double) : List Char :=
  if !number.isFinite then "null".toList
  else
    let sign := if number.isNegative then ['-'] else []
    if number.isZero then sign ++ ['0', '.', '0']
    else
      let (digits, exponent) := Decimal.shortest number
      sign ++ placePoint (encodeNat digits) exponent

/-- A number. -/
def encodeNumber : Number → List Char
  | .integer value => encodeInt value
  | .real value => encodeDouble value

mutual

/-- The compact form of a value. -/
def encode : Value → List Char
  | .null => ['n', 'u', 'l', 'l']
  | .bool true => ['t', 'r', 'u', 'e']
  | .bool false => ['f', 'a', 'l', 's', 'e']
  | .number value => encodeNumber value
  | .string value => encodeString value
  | .array [] => ['[', ']']
  | .array (item :: rest) => '[' :: (encode item ++ encodeItems rest)
  | .object [] => ['\x7b', '\x7d']
  | .object ((key, value) :: rest) =>
    '\x7b' :: (encodeString key ++ ':' :: (encode value ++ encodeFields rest))

/-- The items of an array after the first, each after a comma, and the closing bracket. -/
def encodeItems : List Value → List Char
  | [] => [']']
  | item :: rest => ',' :: (encode item ++ encodeItems rest)

/-- The fields of an object after the first, each after a comma, and the closing brace. -/
def encodeFields : List (String × Value) → List Char
  | [] => ['\x7d']
  | (key, value) :: rest =>
    ',' :: (encodeString key ++ ':' :: (encode value ++ encodeFields rest))

end

/-- The compact text of a value. -/
def compact (value : Value) : String :=
  String.ofList (encode value)

end Json
end ChatFlow
