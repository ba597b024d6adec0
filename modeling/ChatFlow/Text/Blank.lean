/-!
# Blank characters

The characters of the Unicode property `White_Space`, the texts made of them alone, and the
removal of them at both ends of a text.  Everything that trims a text anywhere in this library
goes through `trim`, and everything that asks whether a text is blank goes through `isBlank`.
-/

namespace ChatFlow
namespace Text

/-- The characters of the Unicode property `White_Space`. -/
def isBlankChar (c : Char) : Bool :=
  let code := c.toNat
  (9 ≤ code && code ≤ 13) || code == 32 || code == 0x85 || code == 0xA0 || code == 0x1680 ||
    (0x2000 ≤ code && code ≤ 0x200A) || code == 0x2028 || code == 0x2029 || code == 0x202F ||
    code == 0x205F || code == 0x3000

/-- Drops the blank characters at the end of a list of characters. -/
def trimRight (characters : List Char) : List Char :=
  (characters.reverse.dropWhile isBlankChar).reverse

/-- Drops the blank characters at both ends of a list of characters. -/
def trimChars (characters : List Char) : List Char :=
  trimRight (characters.dropWhile isBlankChar)

/-- Drops the blank characters at both ends of a text. -/
def trim (text : String) : String :=
  String.ofList (trimChars text.toList)

/-- A text is blank when it holds blank characters only; the empty text is blank. -/
def isBlank (text : String) : Bool :=
  text.toList.all isBlankChar

/-- The characters that core calls whitespace are blank. -/
theorem isBlankChar_of_isWhitespace (c : Char) (white : c.isWhitespace = true) :
    isBlankChar c = true := by
  simp only [Char.isWhitespace, Bool.or_eq_true, decide_eq_true_eq] at white
  rcases white with ((rfl | rfl) | rfl) | rfl <;> decide

/-- A list that starts with a character that is not blank keeps its head when trimmed. -/
theorem dropWhile_isBlankChar_of_not_blank
    (c : Char) (rest : List Char) (dark : isBlankChar c = false) :
    (c :: rest).dropWhile isBlankChar = c :: rest := by
  simp [dark]

end Text
end ChatFlow
