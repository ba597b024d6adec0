import ChatFlow.Json.NumberText
import ChatFlow.Json.Tree

/-!
# Reading JSON texts

A strict reader of JSON: nothing but one value and blanks around it, no comments, no comma before
a closing bracket, no control character inside a string, no superfluous leading zero.  Each
function reads a part off the front of a list of characters and returns the rest.  `tree?` reads
a whole text as a tree, and `value?` as a value.
-/

namespace ChatFlow
namespace Json

/-- The blanks that may stand between the tokens of a JSON text. -/
def isSpace (c : Char) : Bool :=
  c == ' ' || c == '\n' || c == '\t' || c == '\r'

/-- Drops blanks at the front. -/
def skipSpace (characters : List Char) : List Char :=
  characters.dropWhile isSpace

/-- A part of a string as it is written: a character, or an escaped unit of UTF-16. -/
inductive Piece where
  /-- A character that stands for itself or is named by a short escape. -/
  | char (value : Char)
  /-- A unit written as four hexadecimal digits. -/
  | unit (value : Nat)
deriving DecidableEq, Repr

/-- The character named by a short escape. -/
def shortEscape? : Char → Option Char
  | '"' => some '"'
  | '\\' => some '\\'
  | '/' => some '/'
  | 'b' => some '\x08'
  | 'f' => some '\x0c'
  | 'n' => some '\n'
  | 'r' => some '\r'
  | 't' => some '\t'
  | _ => none

/-- The unit written by four hexadecimal digits. -/
def unit? (a b c d : Char) : Option Nat :=
  if [a, b, c, d].all Text.isHexDigit then
    some (((Text.hexDigitValue a * 16 + Text.hexDigitValue b) * 16 + Text.hexDigitValue c) * 16 +
      Text.hexDigitValue d)
  else none

/-- Reads the inside of a string up to its closing quote. -/
def readPieces : List Char → Option (List Piece × List Char)
  | [] => none
  | '"' :: rest => some ([], rest)
  | '\\' :: 'u' :: a :: b :: c :: d :: rest => do
    let unit ← unit? a b c d
    let (pieces, rest) ← readPieces rest
    return (.unit unit :: pieces, rest)
  | '\\' :: mark :: rest => do
    let value ← shortEscape? mark
    let (pieces, rest) ← readPieces rest
    return (.char value :: pieces, rest)
  | c :: rest =>
    if c.toNat < 32 ∨ c = '\\' then none
    else do
      let (pieces, rest) ← readPieces rest
      return (.char c :: pieces, rest)

/-- The first half of a surrogate pair. -/
def isHighHalf (unit : Nat) : Bool :=
  0xD800 ≤ unit && unit ≤ 0xDBFF

/-- The second half of a surrogate pair. -/
def isLowHalf (unit : Nat) : Bool :=
  0xDC00 ≤ unit && unit ≤ 0xDFFF

/-- The characters of the pieces of a string, unless half a surrogate pair stands alone. -/
def assemble : List Piece → Option (List Char)
  | [] => some []
  | .char c :: rest => (assemble rest).map (c :: ·)
  | .unit high :: .unit low :: rest =>
    if isHighHalf high then
      if isLowHalf low then
        (assemble rest).map
          (Char.ofNat (0x10000 + (high - 0xD800) * 0x400 + (low - 0xDC00)) :: ·)
      else none
    else if isLowHalf high then none
    else (assemble (.unit low :: rest)).map (Char.ofNat high :: ·)
  | .unit unit :: rest =>
    if isHighHalf unit || isLowHalf unit then none
    else (assemble rest).map (Char.ofNat unit :: ·)

/-- Reads a string after its opening quote. -/
def readString (characters : List Char) : Option (Option String × List Char) :=
  (readPieces characters).map fun (pieces, rest) => ((assemble pieces).map String.ofList, rest)

/-- Reads a run of digits, at least one. -/
def readDigits (characters : List Char) : Option (List Char × List Char) :=
  let digits := characters.takeWhile Text.isDigit
  if digits.isEmpty then none else some (digits, characters.dropWhile Text.isDigit)

/-- Reads the point and the digits after it, if there is a point. -/
def readFraction : List Char → Option (Option (List Char) × List Char)
  | '.' :: rest => (readDigits rest).map fun (digits, rest) => (some digits, rest)
  | rest => some (none, rest)

/-- Reads the exponent, if there is one. -/
def readExponent : List Char → Option (Option (Bool × List Char) × List Char)
  | [] => some (none, [])
  | mark :: rest =>
    if mark = 'e' ∨ mark = 'E' then
      let (negative, digits) := Decimal.splitSign rest
      (readDigits digits).map fun (digits, rest) => (some (negative, digits), rest)
    else some (none, mark :: rest)

/-- Reads the digits before the point: a zero alone, or digits that do not start with a zero. -/
def readWhole (characters : List Char) : Option (List Char × List Char) := do
  let (digits, rest) ← readDigits characters
  if digits.head? = some '0' ∧ digits.length ≠ 1 then none
  else return (digits, rest)

/-- Reads a number as it is written. -/
def readNumberText (characters : List Char) : Option (NumberText × List Char) := do
  let (negative, start) :=
    match characters with
    | '-' :: rest => (true, rest)
    | rest => (false, rest)
  let (whole, rest) ← readWhole start
  let (fraction, rest) ← readFraction rest
  let (exponent, rest) ← readExponent rest
  return ({ negative, whole, fraction, exponent }, rest)

/-- Reads a fixed word. -/
def readWord (word : List Char) (meaning : Tree) (characters : List Char) :
    Option (Tree × List Char) :=
  if word.isPrefixOf characters then some (meaning, characters.drop word.length) else none

mutual

/-- Reads one value; the blanks before it are skipped. -/
def readTree (fuel : Nat) (characters : List Char) : Option (Tree × List Char) :=
  match fuel with
  | 0 => none
  | fuel + 1 =>
    match skipSpace characters with
    | [] => none
    | '"' :: rest => (readString rest).map fun (value, rest) => (.string value, rest)
    | '[' :: rest =>
      match skipSpace rest with
      | ']' :: rest => some (.array [], rest)
      | rest => (readItems fuel rest).map fun (items, rest) => (.array items, rest)
    | '\x7b' :: rest =>
      match skipSpace rest with
      | '\x7d' :: rest => some (.object [], rest)
      | rest => (readFields fuel rest).map fun (fields, rest) => (.object fields, rest)
    | 'n' :: rest => readWord ['u', 'l', 'l'] .null rest
    | 't' :: rest => readWord ['r', 'u', 'e'] (.bool true) rest
    | 'f' :: rest => readWord ['a', 'l', 's', 'e'] (.bool false) rest
    | rest => (readNumberText rest).map fun (text, rest) => (.number text.number?, rest)

/-- Reads the items of an array, at least one, and the closing bracket. -/
def readItems (fuel : Nat) (characters : List Char) : Option (List Tree × List Char) :=
  match fuel with
  | 0 => none
  | fuel + 1 => do
    let (item, rest) ← readTree fuel characters
    match skipSpace rest with
    | ']' :: rest => return ([item], rest)
    | ',' :: rest => do
      let (items, rest) ← readItems fuel rest
      return (item :: items, rest)
    | _ => none

/-- Reads the fields of an object, at least one, and the closing brace. -/
def readFields (fuel : Nat) (characters : List Char) :
    Option (List (Option String × Tree) × List Char) :=
  match fuel with
  | 0 => none
  | fuel + 1 => do
    let (key, rest) ←
      match skipSpace characters with
      | '"' :: rest => readString rest
      | _ => none
    let (item, rest) ←
      match skipSpace rest with
      | ':' :: rest => readTree fuel rest
      | _ => none
    match skipSpace rest with
    | '\x7d' :: rest => return ([(key, item)], rest)
    | ',' :: rest => do
      let (fields, rest) ← readFields fuel rest
      return ((key, item) :: fields, rest)
    | _ => none

end

/-- Reads a list of characters as one JSON value with blanks around it. -/
def treeOfChars? (characters : List Char) : Option Tree := do
  let (tree, rest) ← readTree (2 * characters.length + 2) characters
  if (skipSpace rest).isEmpty then return tree else none

/-- Reads a text as one JSON value with blanks around it. -/
def tree? (text : String) : Option Tree :=
  treeOfChars? text.toList

/-- The value that a text writes. -/
def value? (text : String) : Option Value :=
  (tree? text).bind Tree.value?

end Json
end ChatFlow
