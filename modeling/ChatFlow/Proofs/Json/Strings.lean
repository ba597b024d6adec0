import ChatFlow.Json.Reading
import ChatFlow.Json.Writing

/-!
# Strings in JSON texts

Every string is read back from its written form, whatever follows it.  A character is written as a
single piece: as itself, by a short escape, or as a unit when it is a control character without
one.
-/

namespace ChatFlow
namespace Json

/-- The control characters that have a short escape. -/
def escapedControls : List Char := ['\x08', '\x0c', '\n', '\r', '\t']

/-- The piece as which a character is written. -/
def pieceOf (c : Char) : Piece :=
  if c.toNat < 32 ∧ c ∉ escapedControls then .unit c.toNat else .char c

/-- A control character is read back from its two last digits. -/
theorem unit?_hexDigit : ∀ n < 32,
    unit? '0' '0' (hexDigit (n / 16)) (hexDigit (n % 16)) = some n := by
  decide

/-- A character is read back as its piece. -/
theorem readPieces_encodeChar (c : Char) (rest : List Char) :
    readPieces (encodeChar c ++ rest) =
      (readPieces rest).map fun (pieces, left) => (pieceOf c :: pieces, left) := by
  have escaped {mark : Char} (short : shortEscape? mark = some c) (notUnit : mark ≠ 'u')
      (plain : pieceOf c = .char c) :
      readPieces ('\\' :: mark :: rest) =
        (readPieces rest).map fun (pieces, left) => (pieceOf c :: pieces, left) := by
    rw [readPieces, short, plain]
    · cases readPieces rest <;> rfl
    · rintro _ _ _ _ _ rfl
      exact (notUnit rfl).elim
  unfold encodeChar
  iterate 7
    split
    · subst c
      exact escaped rfl (by decide) (by decide)
  split
  · rename_i noBackspace noFeed noNewline noReturn noTab control
    have written : pieceOf c = .unit c.toNat :=
      if_pos ⟨control, by simp [escapedControls, *]⟩
    simp only [List.cons_append, List.nil_append, readPieces, unit?_hexDigit _ control, written]
    cases readPieces rest <;> rfl
  · rename_i notQuote notBackslash _ _ _ _ _ plain
    have written : pieceOf c = .char c := if_neg fun control => plain control.1
    rw [List.singleton_append, readPieces, if_neg (by simp [plain, notBackslash]), written]
    · cases readPieces rest <;> rfl
    · exact notQuote
    · rintro _ _ _ _ _ rfl
      exact (notBackslash rfl).elim
    · rintro _ _ rfl
      exact (notBackslash rfl).elim

/-- The pieces of a string are read back up to its closing quote. -/
theorem readPieces_encode (characters rest : List Char) :
    readPieces (characters.flatMap encodeChar ++ '"' :: rest) =
      some (characters.map pieceOf, rest) := by
  induction characters with
  | nil => rfl
  | cons c characters inductionHypothesis =>
      rw [List.flatMap_cons, List.append_assoc, readPieces_encodeChar, inductionHypothesis]
      rfl

/-- Without a quote, no string ends. -/
theorem readPieces_eq_none {characters : List Char} (unquoted : '"' ∉ characters) :
    readPieces characters = none := by
  fun_induction readPieces characters with
  | case1 => rfl
  | case2 rest => exact absurd List.mem_cons_self unquoted
  | case3 a b c d rest inductionHypothesis =>
      simp only [List.mem_cons, not_or] at unquoted
      simp [inductionHypothesis unquoted.2.2.2.2.2.2]
  | case4 mark rest short inductionHypothesis =>
      simp only [List.mem_cons, not_or] at unquoted
      simp [inductionHypothesis unquoted.2.2]
  | case5 => rfl
  | case6 c rest _ _ _ _ inductionHypothesis =>
      rw [List.mem_cons, not_or] at unquoted
      simp [inductionHypothesis unquoted.2]

/-- A unit that is no half of a pair stands for itself. -/
theorem assemble_unit
    {unit : Nat}
    {pieces : List Piece}
    (small : unit < 0xD800) :
    assemble (.unit unit :: pieces) = (assemble pieces).map (Char.ofNat unit :: ·) := by
  have notHigh : isHighHalf unit = false := by
    simp [isHighHalf]
    omega
  have notLow : isLowHalf unit = false := by
    simp [isLowHalf]
    omega
  cases pieces with
  | nil => simp [assemble, notHigh, notLow]
  | cons piece pieces =>
      cases piece with
      | char c => simp [assemble, notHigh, notLow]
      | unit other => simp [assemble, notHigh, notLow]

/-- Pieces stand for the characters that were written. -/
theorem assemble_pieceOf (characters : List Char) :
    assemble (characters.map pieceOf) = some characters := by
  induction characters with
  | nil => rfl
  | cons c characters inductionHypothesis =>
      rw [List.map_cons, pieceOf]
      split
      · rename_i control
        rw [assemble_unit (by omega), inductionHypothesis, Char.ofNat_toNat]
        rfl
      · rw [assemble, inductionHypothesis]
        rfl

/-- A string is read back from its written form. -/
theorem readString_encode (text : String) (rest : List Char) :
    readString (text.toList.flatMap encodeChar ++ '"' :: rest) = some (some text, rest) := by
  simp only [readString, readPieces_encode, Option.map_some, assemble_pieceOf,
    String.ofList_toList]

/-- What is no blank is not skipped. -/
theorem skipSpace_cons {c : Char} {rest : List Char} (notBlank : isSpace c = false) :
    skipSpace (c :: rest) = c :: rest := by
  rw [skipSpace, List.dropWhile_cons_of_neg (Bool.not_eq_true _ ▸ notBlank)]

/-- The quote that opens a string stays in front. -/
theorem encodeString_append (text : String) (rest : List Char) :
    encodeString text ++ rest = '"' :: (text.toList.flatMap encodeChar ++ '"' :: rest) := by
  simp [encodeString]

/-- A string is read back as a value. -/
theorem readTree_encodeString (fuel : Nat) (text : String) (rest : List Char) :
    readTree (fuel + 1) (encodeString text ++ rest) = some (.string (some text), rest) := by
  rw [encodeString_append, readTree]
  simp (disch := decide) only [skipSpace_cons, readString_encode, Option.map_some]

end Json
end ChatFlow
