import ChatFlow.Decimal.Reading
import ChatFlow.Text.Search
import ChatFlow.Toml.Value
import ChatFlow.Word

/-!
# Numbers, dates and truth values of TOML

The values that are written without quotes or brackets.  Each is one word, except that a blank
may stand between a date and a time.
-/

namespace ChatFlow
namespace Toml

/-! ## Numbers -/

/-- Drops the underscores between the digits of a run; none when the run is empty, holds anything
else or has an underscore that does not stand between two digits. -/
def digits? (isDigit : Char → Bool) (run : List Char) : Option (List Char) :=
  let parts := Text.splitOnChar '_' run
  if parts.all fun part => !part.isEmpty && part.all isDigit then some parts.flatten else none

/-- The digits of a whole number that has no superfluous zero at the front. -/
def whole? (run : List Char) : Option (List Char) :=
  match digits? Text.isDigit run with
  | some ('0' :: _ :: _) => none
  | digits => digits

/-- The number that digits write in a base. -/
def valueIn (base : Nat) (digits : List Char) : Nat :=
  digits.foldl (fun value digit => value * base + Text.hexDigitValue digit) 0

/-- An integer, if it fits into sixty-four signed bits. -/
def integer? (number : Int) : Option Value :=
  if -(Word.signedCount : Int) ≤ number ∧ number < Word.signedCount then some (.integer number)
  else none

/-- Reads an integer in another base, given what stands behind the name of the base. -/
def based? (base : Nat) (isDigit : Char → Bool) (run : List Char) : Option Value :=
  (digits? isDigit run).bind fun digits => integer? (valueIn base digits)

/-- Reads an integer. -/
def integerText? (word : List Char) : Option Value :=
  match word with
  | '0' :: 'x' :: run => based? 16 Text.isHexDigit run
  | '0' :: 'o' :: run => based? 8 (fun c => '0' ≤ c && c ≤ '7') run
  | '0' :: 'b' :: run => based? 2 (fun c => c == '0' || c == '1') run
  | _ =>
    let (negative, run) := Decimal.splitSign word
    (whole? run).bind fun digits =>
      let size : Int := Decimal.digitsValue digits
      integer? (if negative then -size else size)

/-- Reads the digits of an exponent with their sign. -/
def exponentText? (word : List Char) : Option (List Char) :=
  match word with
  | '-' :: run => (digits? Text.isDigit run).map ('-' :: ·)
  | '+' :: run => digits? Text.isDigit run
  | run => digits? Text.isDigit run

/-- Drops the underscores of an unsigned number with a point or an exponent; none when it has
neither or is not written as it should be. -/
def plainFloat? (word : List Char) : Option (List Char) := do
  let isMark (c : Char) : Bool := c == 'e' || c == 'E'
  let mantissa := word.takeWhile fun c => !isMark c
  let exponent := word.dropWhile fun c => !isMark c
  let whole ← whole? (mantissa.takeWhile (· != '.'))
  let fraction ←
    match mantissa.dropWhile (· != '.') with
    | [] => if exponent.isEmpty then none else some []
    | _ :: run => (digits? Text.isDigit run).map ('.' :: ·)
  let power ←
    match exponent with
    | [] => some []
    | _ :: run => (exponentText? run).map ('e' :: ·)
  return whole ++ fraction ++ power

/-- Reads a floating-point number; one that is too large is not read. -/
def float? (word : List Char) : Option Value :=
  let (negative, run) := Decimal.splitSign word
  if run = "inf".toList then some (.float (Double.infinity negative))
  else if run = "nan".toList then
    some (.float (if negative then Double.nan.negate else Double.nan))
  else
    ((plainFloat? run).bind (Decimal.unsigned? negative)).bind fun number =>
      if number = Double.infinity false then none else some (.float number)

/-! ## Dates and times -/

/-- Reads two digits whose number is in a range. -/
def twoDigits? (low high : Nat) : List Char → Option (Nat × List Char)
  | a :: b :: rest =>
    let number := Text.digitValue a * 10 + Text.digitValue b
    if Text.isDigit a && Text.isDigit b && low ≤ number && number ≤ high then some (number, rest)
    else none
  | _ => none

/-- Drops a character that has to stand here. -/
def dropMark? (mark : Char) : List Char → Option (List Char)
  | c :: rest => if c = mark then some rest else none
  | [] => none

/-- The days of a month. -/
def daysOfMonth (year month : Nat) : Nat :=
  if month = 2 then
    if year % 4 = 0 ∧ (year % 100 ≠ 0 ∨ year % 400 = 0) then 29 else 28
  else if month = 4 ∨ month = 6 ∨ month = 9 ∨ month = 11 then 30
  else 31

/-- Reads a date; returns what stands behind it. -/
def date? (word : List Char) : Option (List Char) := do
  let (century, rest) ← twoDigits? 0 99 word
  let (year, rest) ← twoDigits? 0 99 rest
  let rest ← dropMark? '-' rest
  let (month, rest) ← twoDigits? 1 12 rest
  let rest ← dropMark? '-' rest
  let (_, rest) ← twoDigits? 1 (daysOfMonth (century * 100 + year) month) rest
  return rest

/-- Reads a time of day; returns what stands behind it. -/
def timeOfDay? (word : List Char) : Option (List Char) := do
  let (_, rest) ← twoDigits? 0 23 word
  let rest ← dropMark? ':' rest
  let (_, rest) ← twoDigits? 0 59 rest
  let rest ← dropMark? ':' rest
  let (_, rest) ← twoDigits? 0 60 rest
  match rest with
  | '.' :: fraction =>
    if (fraction.takeWhile Text.isDigit).isEmpty then none
    else some (fraction.dropWhile Text.isDigit)
  | rest => some rest

/-- Reads the distance from universal time; returns what stands behind it. -/
def offset? (word : List Char) : Option (List Char) :=
  match word with
  | 'Z' :: rest | 'z' :: rest => some rest
  | '+' :: rest | '-' :: rest => do
    let (_, rest) ← twoDigits? 0 23 rest
    let rest ← dropMark? ':' rest
    let (_, rest) ← twoDigits? 0 59 rest
    return rest
  | rest => some rest

/-- Whether a word is a date, a time, or a date with a time, the distance from universal time
being known or not. -/
def isMoment (word : List Char) : Bool :=
  match date? word with
  | some [] => true
  | some (mark :: time) =>
    (mark == 'T' || mark == 't' || mark == ' ') && (timeOfDay? time).bind offset? == some []
  | none => timeOfDay? word == some []

/-! ## Words -/

/-- The characters of a word. -/
def isWordChar (c : Char) : Bool :=
  c.isAlphanum || c == '_' || c == '+' || c == '-' || c == '.' || c == ':'

/-- The value of a word. -/
def scalar? (word : List Char) : Option Value :=
  if word = "true".toList then some (.bool true)
  else if word = "false".toList then some (.bool false)
  else if isMoment word then some (.moment (String.ofList word))
  else (float? word).or (integerText? word)

/-- Whether a time follows a date: a blank, an hour and a colon. -/
def timeFollows : List Char → Bool
  | ' ' :: a :: b :: ':' :: _ => Text.isDigit a && Text.isDigit b
  | _ => false

/-- Reads a word and, if it is a date, the time behind it. -/
def readScalar (characters : List Char) : Option (Value × List Char) :=
  let word := characters.takeWhile isWordChar
  let rest := characters.dropWhile isWordChar
  if date? word = some [] ∧ timeFollows rest then
    let time := (rest.drop 1).takeWhile isWordChar
    (scalar? (word ++ ' ' :: time)).map fun value =>
      (value, (rest.drop 1).dropWhile isWordChar)
  else (scalar? word).map fun value => (value, rest)

end Toml
end ChatFlow
