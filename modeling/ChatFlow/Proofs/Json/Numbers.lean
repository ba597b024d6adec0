import ChatFlow.Proofs.Decimal
import ChatFlow.Proofs.Json.Locality

/-!
# Numbers in JSON texts

A number that is read back where it stands alone in a text is read back wherever something follows
that cannot go on with it.  Every integer that can be read is read back; whether another number is,
depends on how it is rounded.
-/

namespace ChatFlow
namespace Json

variable {characters left more : List Char} {text : NumberText} {number : Number} {fuel : Nat}
  {c : Char}

/-! ## Reading a number -/

/-- A number begins with a minus or a digit. -/
theorem exists_of_readNumberText (read : readNumberText characters = some (text, left)) :
    ∃ c rest, characters = c :: rest ∧ (c = '-' ∨ Text.isDigit c = true) := by
  cases characters with
  | nil => cases read
  | cons c rest =>
      refine ⟨c, rest, rfl, ?_⟩
      by_cases minus : c = '-'
      · exact .inl minus
      · right
        cases digit : Text.isDigit c with
        | true => rfl
        | false => simp [readNumberText, minus, readWhole, readDigits, digit] at read

/-- Where a number begins, a number is read. -/
theorem readTree_of_readNumberText
    (read : readNumberText characters = some (text, left))
    (fuel : Nat) :
    readTree (fuel + 1) characters = some (.number text.number?, left) := by
  obtain ⟨c, rest, rfl, opens⟩ := exists_of_readNumberText read
  have other {d : Char} (notOpening : ¬ (d = '-' ∨ Text.isDigit d = true)) : c ≠ d :=
    fun same => notOpening (same ▸ opens)
  have solid : isSpace c = false := by
    simp only [isSpace, Bool.or_eq_false_iff, beq_eq_false_iff_ne]
    exact ⟨⟨⟨other (by decide), other (by decide)⟩, other (by decide)⟩, other (by decide)⟩
  have noQuote : c ≠ '"' := other (by decide)
  have noBracket : c ≠ '[' := other (by decide)
  have noBrace : c ≠ '\x7b' := other (by decide)
  have noNull : c ≠ 'n' := other (by decide)
  have noTrue : c ≠ 't' := other (by decide)
  have noFalse : c ≠ 'f' := other (by decide)
  simp [readTree, skipSpace_cons solid, noQuote, noBracket, noBrace, noNull, noTrue, noFalse, read]

theorem eq_of_readWord
    {word : List Char}
    {meaning tree : Tree}
    (read : readWord word meaning characters = some (tree, left)) :
    tree = meaning := by
  rw [readWord] at read
  split at read
  · cases read
    rfl
  · cases read

/-- Where a number is read, its text is. -/
theorem exists_of_readTree_number
    {value : Option Number}
    (read : readTree fuel characters = some (.number value, left)) :
    ∃ text, readNumberText (skipSpace characters) = some (text, left) ∧ text.number? = value := by
  cases fuel with
  | zero => cases read
  | succ fuel =>
      rw [readTree] at read
      split at read
      · cases read
      · simp at read
      · split at read
        · cases read
        · simp at read
      · split at read
        · cases read
        · simp at read
      · cases eq_of_readWord read
      · cases eq_of_readWord read
      · cases eq_of_readWord read
      · simp only [Option.map_eq_some_iff, Prod.exists] at read
        obtain ⟨text, stop, numberRead, same⟩ := read
        cases same
        exact ⟨text, numberRead, rfl⟩

/-! ## What is left behind a number -/

theorem suffix_of_readDigits
    {digits : List Char}
    (read : readDigits characters = some (digits, left)) :
    left <:+ characters := by
  rw [readDigits] at read
  split at read
  · cases read
  · cases read
    exact List.dropWhile_suffix _

theorem suffix_of_readFraction
    {fraction : Option (List Char)}
    (read : readFraction characters = some (fraction, left)) :
    left <:+ characters := by
  rw [readFraction.eq_def] at read
  split at read
  · simp only [Option.map_eq_some_iff, Prod.exists] at read
    obtain ⟨digits, stop, digitsRead, same⟩ := read
    cases same
    exact (suffix_of_readDigits digitsRead).trans (List.suffix_cons _ _)
  · cases read
    exact List.suffix_rfl

theorem suffix_splitSign (characters : List Char) :
    (Decimal.splitSign characters).2 <:+ characters := by
  unfold Decimal.splitSign
  split
  · exact List.suffix_cons _ _
  · exact List.suffix_cons _ _
  · exact List.suffix_rfl

theorem suffix_of_readExponent
    {exponent : Option (Bool × List Char)}
    (read : readExponent characters = some (exponent, left)) :
    left <:+ characters := by
  rw [readExponent.eq_def] at read
  split at read
  · cases read
    exact List.suffix_rfl
  · split at read
    · simp only [Option.map_eq_some_iff, Prod.exists] at read
      obtain ⟨digits, stop, digitsRead, same⟩ := read
      cases same
      exact ((suffix_of_readDigits digitsRead).trans (suffix_splitSign _)).trans
        (List.suffix_cons _ _)
    · cases read
      exact List.suffix_rfl

theorem suffix_of_readWhole
    {digits : List Char}
    (read : readWhole characters = some (digits, left)) :
    left <:+ characters := by
  simp only [readWhole, Option.bind_eq_bind, Option.bind_eq_some_iff, Prod.exists] at read
  obtain ⟨whole, stop, digitsRead, unpadded⟩ := read
  split at unpadded
  · cases unpadded
  · cases unpadded
    exact suffix_of_readDigits digitsRead

/-- What is left behind a number stands at the end of the text. -/
theorem suffix_of_readNumberText (read : readNumberText characters = some (text, left)) :
    left <:+ characters := by
  simp only [readNumberText, Option.bind_eq_bind, Option.bind_eq_some_iff, Prod.exists] at read
  obtain ⟨whole, afterWhole, wholeRead, fraction, afterFraction, fractionRead, exponent,
    stop, exponentRead, same⟩ := read
  cases same
  have rest := ((suffix_of_readExponent exponentRead).trans
    (suffix_of_readFraction fractionRead)).trans (suffix_of_readWhole wholeRead)
  split at rest
  · exact rest.trans (List.suffix_cons _ _)
  · exact rest

/-! ## Integers -/

theorem encodeNat_ne_nil (n : Nat) : encodeNat n ≠ [] :=
  Nat.toDigits_ne_nil

theorem isDigit_of_mem_encodeNat {n : Nat} (member : c ∈ encodeNat n) : Text.isDigit c = true :=
  Decimal.isDigit_of_mem_toDigits member

theorem readDigits_encodeNat (n : Nat) : readDigits (encodeNat n) = some (encodeNat n, []) := by
  have taken : (encodeNat n ++ []).takeWhile Text.isDigit = encodeNat n ++ [] :=
    List.takeWhile_append_of_pos fun _ => isDigit_of_mem_encodeNat
  have dropped : (encodeNat n ++ []).dropWhile Text.isDigit = [] :=
    List.dropWhile_append_of_pos fun _ => isDigit_of_mem_encodeNat
  rw [List.append_nil] at taken dropped
  rw [readDigits, taken, dropped, if_neg (mt List.isEmpty_iff.mp (encodeNat_ne_nil n))]

theorem readWhole_encodeNat (n : Nat) : readWhole (encodeNat n) = some (encodeNat n, []) := by
  have unpadded : ¬ ((encodeNat n).head? = some '0' ∧ (encodeNat n).length ≠ 1) := by
    rintro ⟨zero, long⟩
    rcases Nat.eq_zero_or_pos n with rfl | positive
    · exact long rfl
    · exact Decimal.head?_toDigits positive zero
  simp only [readWhole, readDigits_encodeNat, Option.bind_eq_bind, Option.bind_some,
    if_neg unpadded]
  rfl

/-- An integer is read from its text, to the end. -/
theorem readNumberText_encodeInt (value : Int) :
    readNumberText (encodeInt value) =
      some (⟨decide (value < 0), encodeNat value.natAbs, none, none⟩, []) := by
  unfold encodeInt
  split
  · rename_i negative
    simp [readNumberText, readWhole_encodeNat, readFraction, readExponent, negative]
  · rename_i positive
    obtain ⟨c, rest, opens⟩ := List.exists_cons_of_ne_nil (encodeNat_ne_nil value.natAbs)
    have digit : Text.isDigit c = true :=
      isDigit_of_mem_encodeNat (opens ▸ List.mem_cons_self : c ∈ encodeNat value.natAbs)
    have noMinus : c ≠ '-' := by
      rintro rfl
      cases digit
    have read := readWhole_encodeNat value.natAbs
    rw [opens] at read ⊢
    simp [readNumberText, noMinus, read, readFraction, readExponent, positive]

/-- An integer lies in the range of the numbers that are read as integers. -/
def Number.InRange : Number → Prop
  | .integer value => -(Word.signedCount : Int) ≤ value ∧ value < Word.count
  | .real _ => True

/-- A number that is read lies in the range. -/
theorem inRange_of_number? (valued : text.number? = some number) : number.InRange := by
  unfold NumberText.number? at valued
  dsimp only at valued
  split at valued
  · rename_i plain
    simp only [Bool.and_eq_true, decide_eq_true_eq] at plain
    have small := plain.2
    split at valued
    · cases valued
      simp only [Number.InRange, Word.signedCount]
      omega
    · split at valued
      · rename_i negative fits
        cases valued
        have fits := fits.2
        simp only [Number.InRange, Word.signedCount, Word.count] at fits ⊢
        omega
      · cases valued
        trivial
  · obtain ⟨magnitude, -, rfl⟩ := Option.map_eq_some_iff.mp valued
    trivial

/-- A number is read back from its text, to the end. -/
def Number.ReadsBack (number : Number) : Prop :=
  ∃ text, readNumberText (encodeNumber number) = some (text, []) ∧ text.number? = some number

/-- An integer in the range is read back. -/
theorem readsBack_integer
    {value : Int}
    (inRange : (Number.integer value).InRange) :
    (Number.integer value).ReadsBack := by
  refine ⟨_, readNumberText_encodeInt value, ?_⟩
  obtain ⟨low, high⟩ := inRange
  have worth : Decimal.digitsValue (encodeNat value.natAbs) = value.natAbs :=
    Decimal.digitsValue_toDigits _
  have small : value.natAbs < Word.count := by
    simp only [Word.signedCount, Word.count] at low high ⊢
    omega
  by_cases negative : value < 0
  · have fits : value.natAbs ≠ 0 ∧ value.natAbs ≤ Word.signedCount := by
      simp only [Word.signedCount] at low ⊢
      omega
    have same : -(value.natAbs : Int) = value := by omega
    have valued : NumberText.number? ⟨true, encodeNat value.natAbs, none, none⟩ =
        some (.integer (-(value.natAbs : Int))) := by
      simp [NumberText.number?, worth, small, fits]
    rw [decide_eq_true negative, valued, same]
  · have same : (value.natAbs : Int) = value := by omega
    have valued : NumberText.number? ⟨false, encodeNat value.natAbs, none, none⟩ =
        some (.integer (value.natAbs : Int)) := by
      simp [NumberText.number?, worth, small]
    rw [decide_eq_false negative, valued, same]

/-! ## Numbers that are whole texts -/

/-- No blank occurs. -/
def Solid (characters : List Char) : Prop :=
  ∀ c ∈ characters, isSpace c = false

theorem solid_nil : Solid [] :=
  nofun

theorem Solid.append
    (first : Solid characters)
    (second : Solid more) :
    Solid (characters ++ more) :=
  List.forall_mem_append.mpr ⟨first, second⟩

theorem Solid.cons
    (head : isSpace c = false)
    (rest : Solid characters) :
    Solid (c :: characters) :=
  List.forall_mem_cons.mpr ⟨head, rest⟩

theorem Solid.subset
    (solid : Solid characters)
    (subset : more ⊆ characters) :
    Solid more :=
  fun c member => solid c (subset member)

/-- Where there are no blanks, none are skipped. -/
theorem Solid.skipSpace_eq (solid : Solid characters) : skipSpace characters = characters := by
  cases characters with
  | nil => rfl
  | cons c rest => exact skipSpace_cons (solid c List.mem_cons_self)

theorem solid_encodeNat (n : Nat) : Solid (encodeNat n) := by
  intro c member
  have digit := isDigit_of_mem_encodeNat member
  have other {d : Char} (notDigit : Text.isDigit d = false) : c ≠ d := by
    rintro rfl
    rw [notDigit] at digit
    cases digit
  simp only [isSpace, Bool.or_eq_false_iff, beq_eq_false_iff_ne]
  exact ⟨⟨⟨other (by decide), other (by decide)⟩, other (by decide)⟩, other (by decide)⟩

theorem solid_encodeInt (value : Int) : Solid (encodeInt value) := by
  unfold encodeInt
  split
  · exact .cons rfl (solid_encodeNat _)
  · exact solid_encodeNat _

theorem solid_placePoint
    {digits : List Char}
    (solid : Solid digits)
    (exponent : Int) :
    Solid (placePoint digits exponent) := by
  have zeros (n : Nat) : Solid (List.replicate n '0') := by
    intro c member
    rw [List.eq_of_mem_replicate member]
    rfl
  have front (n : Nat) : Solid (digits.take n) := solid.subset (List.take_subset n digits)
  have back (n : Nat) : Solid (digits.drop n) := solid.subset (List.drop_subset n digits)
  unfold placePoint
  dsimp only
  split
  · exact (solid.append (zeros _)).append (.cons rfl (.cons rfl solid_nil))
  · split
    · exact (front _).append (.cons rfl (back _))
    · split
      · exact .cons rfl (.cons rfl ((zeros _).append solid))
      · refine ((front 1).append ?_).append (.cons rfl (solid_encodeInt _))
        split
        · exact solid_nil
        · exact .cons rfl (back 1)

/-- A number is written without blanks. -/
theorem solid_encodeNumber (number : Number) : Solid (encodeNumber number) := by
  cases number with
  | integer value => exact solid_encodeInt value
  | real value =>
      have sign : Solid (if value.isNegative then ['-'] else []) := by
        split
        · exact .cons rfl solid_nil
        · exact solid_nil
      have null : Solid "null".toList :=
        .cons rfl (.cons rfl (.cons rfl (.cons rfl solid_nil)))
      rw [encodeNumber, encodeDouble]
      split
      · exact null
      · dsimp only
        split
        · exact sign.append (.cons rfl (.cons rfl (.cons rfl solid_nil)))
        · exact sign.append (solid_placePoint (solid_encodeNat _) _)

/-- The value of a tree is a number only if the tree is. -/
theorem eq_number_of_valueWithin?
    {depth : Nat}
    {tree : Tree}
    (valued : tree.valueWithin? depth = some (.number number)) :
    tree = .number (some number) := by
  cases tree with
  | number value => simpa [Tree.valueWithin?] using valued
  | null | bool value => cases valued
  | string value => cases value <;> cases valued
  | array items =>
      rw [Tree.valueWithin?] at valued
      split at valued <;> simp at valued
  | object fields =>
      rw [Tree.valueWithin?] at valued
      split at valued <;> simp at valued

/-- A number that is a text by itself is read back to its end. -/
theorem readsBack_of_value?
    (read : value? (compact (.number number)) = some (.number number)) :
    number.ReadsBack := by
  obtain ⟨tree, treeRead, valued⟩ := Option.bind_eq_some_iff.mp read
  obtain rfl := eq_number_of_valueWithin? valued
  rw [tree?, compact, String.toList_ofList, encode, treeOfChars?] at treeRead
  obtain ⟨⟨whole, left⟩, wholeRead, ended⟩ := Option.bind_eq_some_iff.mp treeRead
  dsimp only at ended
  split at ended
  · rename_i blank
    cases ended
    obtain ⟨text, numberRead, valued⟩ := exists_of_readTree_number wholeRead
    have solid := solid_encodeNumber number
    rw [solid.skipSpace_eq] at numberRead
    have rest := solid.subset (suffix_of_readNumberText numberRead).subset
    rw [rest.skipSpace_eq, List.isEmpty_iff] at blank
    subst blank
    exact ⟨text, numberRead, valued⟩
  · cases ended

end Json
end ChatFlow
