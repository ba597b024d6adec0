import ChatFlow.Decimal.Reading
import ChatFlow.Time.Calendar
import ChatFlow.Time.Span

/-!
# Timestamps

The text form in which instants are stored and shown: date, time of day, as many digits of the
second's fraction as are needed in groups of three, and the offset of UTC.  Of instants within
the years 0 to 9999 the earlier one has the smaller text.
-/

namespace ChatFlow
namespace Timestamp

/-- The decimal digits of a number, filled up with zeros to a width. -/
def padded (width n : Nat) : List Char :=
  let digits := Nat.toDigits 10 n
  List.replicate (width - digits.length) '0' ++ digits

/-- A year: four digits, and a sign where four digits are not enough. -/
def year (value : Int) : List Char :=
  if 0 ≤ value ∧ value ≤ 9999 then padded 4 value.toNat
  else (if value < 0 then '-' else '+') :: padded 4 value.natAbs

/-- The fraction of a second: nothing, or three, six or nine digits after a point. -/
def fraction (nanos : Nat) : List Char :=
  if nanos = 0 then []
  else if nanos % 1000000 = 0 then '.' :: padded 3 (nanos / 1000000)
  else if nanos % 1000 = 0 then '.' :: padded 6 (nanos / 1000)
  else '.' :: padded 9 nanos

/-- Date and time of day, without an offset. -/
def dateTime (instant : Instant) : List Char :=
  let seconds := instant.nanos.fdiv nanosPerSecond
  let nanos := (instant.nanos.fmod nanosPerSecond).toNat
  let date := Date.ofDays (seconds.fdiv 86400)
  let second := (seconds.fmod 86400).toNat
  year date.year ++ '-' :: padded 2 date.month ++ '-' :: padded 2 date.day ++
    'T' :: padded 2 (second / 3600) ++ ':' :: padded 2 (second / 60 % 60) ++
    ':' :: padded 2 (second % 60) ++ fraction nanos

/-- The stored form of an instant, with the offset `+00:00`. -/
def print (instant : Instant) : String :=
  String.ofList (dateTime instant ++ "+00:00".toList)

/-- The form of an instant in answers to requests, with the offset `Z`. -/
def printZ (instant : Instant) : String :=
  String.ofList (dateTime instant ++ ['Z'])

/-- Reads digits, exactly as many as given. -/
def digits? (width : Nat) (characters : List Char) : Option (Nat × List Char) :=
  let front := characters.take width
  if front.length = width ∧ front.all Text.isDigit then
    some (Decimal.digitsValue front, characters.drop width)
  else none

/-- Reads one given character. -/
def mark? (c : Char) : List Char → Option (List Char)
  | [] => none
  | head :: rest => if head = c then some rest else none

/-- Reads the fraction of a second, at most nine digits, as nanoseconds. -/
def fraction? : List Char → Option (Nat × List Char)
  | '.' :: rest =>
    let digits := rest.takeWhile Text.isDigit
    if digits.isEmpty ∨ 9 < digits.length then none
    else
      some (Decimal.digitsValue digits * Nat.pow 10 (9 - digits.length), rest.dropWhile Text.isDigit)
  | rest => some (0, rest)

/-- Reads the stored form of an instant. -/
def instant? (text : String) : Option Instant := do
  let (year, rest) ← digits? 4 text.toList
  let (month, rest) ← digits? 2 (← mark? '-' rest)
  let (day, rest) ← digits? 2 (← mark? '-' rest)
  let (hour, rest) ← digits? 2 (← mark? 'T' rest)
  let (minute, rest) ← digits? 2 (← mark? ':' rest)
  let (second, rest) ← digits? 2 (← mark? ':' rest)
  let (nanos, rest) ← fraction? rest
  if rest ≠ "+00:00".toList then none
  let days := Date.toDays { year, month, day }
  let seconds := days * 86400 + hour * 3600 + minute * 60 + second
  return ⟨seconds * nanosPerSecond + nanos⟩

/-- The instant of a stored form; a text that is none stands for the beginning of 1970. -/
def parse (text : String) : Instant :=
  (instant? text).getD ⟨0⟩

end Timestamp
end ChatFlow
