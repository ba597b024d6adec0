import ChatFlow.Decimal.Shortest
import ChatFlow.Json.Writing
import ChatFlow.Text.Ascii

/-!
# Writing TOML documents

A document is written as sections, each a header and fields, with an empty line between two
sections.  A text is written in the first of four forms that shows it as it is; if none does,
characters are escaped.
-/

namespace ChatFlow
namespace Toml

/-- What a field of a section says. -/
inductive Entry where
  /-- A text. -/
  | text (text : String)
  /-- A natural number. -/
  | natural (number : Nat)
  /-- A floating-point number. -/
  | float (number : Double)
  /-- A truth value. -/
  | flag (value : Bool)
  /-- An array without items. -/
  | nothing
deriving DecidableEq, Inhabited, Repr

/-- A section of a document. -/
structure Section where
  /-- The names of the header. -/
  header : List String
  /-- Whether the section is one of several with the same header. -/
  isRepeated : Bool := false
  /-- The fields. -/
  fields : List (String × Entry)
deriving DecidableEq, Inhabited, Repr

/-- The length of the longest run of a character. -/
def longestRun (mark : Char) : (current : Nat) → List Char → Nat
  | current, [] => current
  | current, c :: rest =>
    if c = mark then longestRun mark (current + 1) rest
    else max current (longestRun mark 0 rest)

/-- The control characters that no form shows as they are. -/
def isControl (c : Char) : Bool :=
  (c.toNat < 0x20 && c != '\t' && c != '\n') || c.toNat == 0x7F

/-- A character as its four hexadecimal digits. -/
def escapeByNumber (c : Char) : List Char :=
  ['\\', 'u', '0', '0', Text.upperHexDigit (c.toNat / 16), Text.upperHexDigit (c.toNat % 16)]

/-- How a character between quotes is written. -/
def escapeChar (keepsLines : Bool) (c : Char) : List Char :=
  if c = '\x08' then ['\\', 'b']
  else if c = '\t' then ['\\', 't']
  else if c = '\n' then (if keepsLines then ['\n'] else ['\\', 'n'])
  else if c = '\x0c' then ['\\', 'f']
  else if c = '\r' then ['\\', 'r']
  else if c = '\\' then ['\\', '\\']
  else if c.toNat < 0x20 ∨ c.toNat = 0x7F then escapeByNumber c
  else [c]

/-- How the characters between quotes are written: of each run of quotes the ones that would be
one too many are escaped. -/
def escape (keepsLines : Bool) (allowed : Nat) : (left : Nat) → List Char → List Char
  | _, [] => []
  | 0, '"' :: rest => '\\' :: '"' :: escape keepsLines allowed allowed rest
  | left + 1, '"' :: rest => '"' :: escape keepsLines allowed left rest
  | _, c :: rest => escapeChar keepsLines c ++ escape keepsLines allowed allowed rest

/-- A text between quotes on one line. -/
def quoted (characters : List Char) : List Char :=
  '"' :: escape false 0 0 characters ++ ['"']

/-- What stands in front of a text in a form for several lines. -/
def opening (characters : List Char) : List Char :=
  if characters.contains '\n' then ['\n'] else []

/-- A text between triple quotes. -/
def quotedLines (characters : List Char) : List Char :=
  let quotes := ['"', '"', '"']
  quotes ++ opening characters ++ escape true 2 2 characters ++ quotes

/-- A text in the first form that shows it as it is: between quotes, between apostrophes, between
triple quotes or between triple apostrophes. -/
def encodeText (text : String) : List Char :=
  let characters := text.toList
  let hasControls := characters.any isControl
  let hasLines := characters.contains '\n'
  let hasBackslash := characters.contains '\\'
  if !hasControls && !hasBackslash && !characters.contains '"' && !hasLines then
    quoted characters
  else if !hasControls && !characters.contains '\'' && !hasLines then
    '\'' :: characters ++ ['\'']
  else if !hasControls && !hasBackslash && longestRun '"' 0 characters ≤ 2 then
    quotedLines characters
  else if !hasControls && longestRun '\'' 0 characters ≤ 2 then
    let apostrophes := ['\'', '\'', '\'']
    apostrophes ++ opening characters ++ characters ++ apostrophes
  else if hasLines then quotedLines characters
  else quoted characters

/-- The digits of a positive number whose decimal exponent is `exponent`, with a point and without
an exponent. -/
def placePoint (digits : List Char) (exponent : Int) : List Char :=
  let point : Int := digits.length + exponent
  if 0 ≤ exponent then digits ++ List.replicate exponent.toNat '0' ++ ['.', '0']
  else if 0 < point then digits.take point.toNat ++ '.' :: digits.drop point.toNat
  else '0' :: '.' :: (List.replicate (-point).toNat '0' ++ digits)

/-- A floating-point number, with the fewest digits that read back. -/
def encodeFloat (number : Double) : List Char :=
  if number.isNaN then "nan".toList
  else
    let sign := if number.isNegative then ['-'] else []
    if number.isZero then sign ++ "0.0".toList
    else if number.isInfinite then sign ++ "inf".toList
    else
      let (digits, exponent) := Decimal.shortest number
      sign ++ placePoint (Json.encodeNat digits) exponent

/-- What a field says. -/
def Entry.encode : Entry → List Char
  | .text value => encodeText value
  | .natural number => Json.encodeNat number
  | .float number => encodeFloat number
  | .flag true => "true".toList
  | .flag false => "false".toList
  | .nothing => "[]".toList

/-- A field on its line. -/
def encodeField (field : String × Entry) : List Char :=
  field.1.toList ++ " = ".toList ++ field.2.encode ++ ['\n']

/-- A section with its header. -/
def Section.encode (part : Section) : List Char :=
  let names := (String.intercalate "." part.header).toList
  let header := if part.isRepeated then "[[".toList ++ names ++ "]]\n".toList
    else '[' :: names ++ "]\n".toList
  header ++ part.fields.flatMap encodeField

/-- The text of a document. -/
def document (parts : List Section) : String :=
  String.ofList (List.intercalate ['\n'] (parts.map Section.encode))

/-- A text without controls, backslashes, quotes and ends of lines stands between quotes. -/
theorem encodeText_of_plain
    {text : String}
    (plain : ∀ c ∈ text.toList, isControl c = false ∧ c ≠ '\\' ∧ c ≠ '"' ∧ c ≠ '\n') :
    encodeText text = quoted text.toList := by
  have noControls : text.toList.any isControl = false := by
    simp only [List.any_eq_false, Bool.not_eq_true]
    exact fun c found => (plain c found).1
  have noBackslash : text.toList.contains '\\' = false := by
    simp only [List.contains_eq_mem, decide_eq_false_iff_not]
    exact fun found => (plain _ found).2.1 rfl
  have noQuote : text.toList.contains '"' = false := by
    simp only [List.contains_eq_mem, decide_eq_false_iff_not]
    exact fun found => (plain _ found).2.2.1 rfl
  have noLines : text.toList.contains '\n' = false := by
    simp only [List.contains_eq_mem, decide_eq_false_iff_not]
    exact fun found => (plain _ found).2.2.2 rfl
  simp only [encodeText, noControls, noBackslash, noQuote, noLines, Bool.not_false,
    Bool.and_self, if_true]

end Toml
end ChatFlow
