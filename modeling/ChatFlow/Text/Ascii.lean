/-!
# Case folding of ASCII letters

Names typed by people (kinds of nodes, units of time, triggers, handles, stages) are compared
after folding the letters `A` to `Z`; every other character stands for itself.
-/

namespace ChatFlow
namespace Text

/-- Maps the letters `A` to `Z` to `a` to `z` and keeps every other character. -/
def lowerAsciiChar (c : Char) : Char :=
  if 'A' ≤ c ∧ c ≤ 'Z' then Char.ofNat (c.toNat + 32) else c

/-- Maps the letters `A` to `Z` of a text to `a` to `z`. -/
def lowerAscii (text : String) : String :=
  String.ofList (text.toList.map lowerAsciiChar)

/-- Two texts are equal when the case of the letters `A` to `Z` is ignored. -/
def equalIgnoringAsciiCase (left right : String) : Bool :=
  lowerAscii left == lowerAscii right

/-- The decimal digits. -/
def isDigit (c : Char) : Bool :=
  '0' ≤ c && c ≤ '9'

/-- The value of a decimal digit. -/
def digitValue (c : Char) : Nat :=
  c.toNat - '0'.toNat

/-- The decimal digits and the letters `A` to `F` of either case. -/
def isHexDigit (c : Char) : Bool :=
  isDigit c || ('a' ≤ c && c ≤ 'f') || ('A' ≤ c && c ≤ 'F')

/-- The value of a hexadecimal digit. -/
def hexDigitValue (c : Char) : Nat :=
  if isDigit c then digitValue c
  else if 'a' ≤ c then c.toNat - 'a'.toNat + 10
  else c.toNat - 'A'.toNat + 10

/-- An upper-case hexadecimal digit. -/
def upperHexDigit (value : Nat) : Char :=
  if value < 10 then Char.ofNat ('0'.toNat + value) else Char.ofNat ('A'.toNat + value - 10)

/-- Equality up to the case of ASCII letters is reflexive. -/
theorem equalIgnoringAsciiCase_refl (text : String) :
    equalIgnoringAsciiCase text text = true := by
  simp [equalIgnoringAsciiCase]

/-- Equality up to the case of ASCII letters is symmetric. -/
theorem equalIgnoringAsciiCase_comm (left right : String) :
    equalIgnoringAsciiCase left right = equalIgnoringAsciiCase right left := by
  simp [equalIgnoringAsciiCase, Bool.beq_comm]

end Text
end ChatFlow
