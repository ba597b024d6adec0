import ChatFlow.Decimal.Reading
import Mathlib.Algebra.Group.Nat.Defs

/-!
# Decimal digits

A number is written in digits that have its value.  They begin with a zero only when the number is
zero.  As many digits are ordered by their value.
-/

namespace ChatFlow
namespace Decimal

/-- The value of digits, as the library counts it. -/
theorem digitsValue_eq (digits : List Char) :
    digitsValue digits = Nat.ofDigitChars 10 digits 0 := by
  unfold digitsValue Nat.ofDigitChars
  congr 1
  funext value c
  rw [Nat.mul_comm, Text.digitValue]

/-- The digits of a number have its value. -/
theorem digitsValue_toDigits (n : Nat) : digitsValue (Nat.toDigits 10 n) = n := by
  rw [digitsValue_eq, Nat.ofDigitChars_toDigits (by decide) (by decide)]

/-- A number is written in digits. -/
theorem isDigit_of_mem_toDigits
    {n : Nat}
    {c : Char}
    (member : c ∈ Nat.toDigits 10 n) :
    Text.isDigit c = true := by
  have digit := Nat.isDigit_of_mem_toDigits (by decide) (by decide) member
  simpa [Char.isDigit, Text.isDigit, Char.le_def] using digit

/-- A positive number does not begin with a zero. -/
theorem head?_toDigits {n : Nat} (positive : 0 < n) : (Nat.toDigits 10 n).head? ≠ some '0' := by
  induction n using Nat.strongRecOn with
  | ind n inductionHypothesis =>
      rw [Nat.toDigits_eq_if (by decide)]
      split
      · rename_i small
        have nonzero : ∀ digit < 10, 0 < digit → digit.digitChar ≠ '0' := by decide
        simpa using nonzero n small positive
      · rename_i large
        have fewer := inductionHypothesis (n / 10) (by omega) (by omega)
        obtain ⟨first, rest, digits⟩ :=
          List.exists_cons_of_ne_nil (Nat.toDigits_ne_nil : Nat.toDigits 10 (n / 10) ≠ [])
        rw [digits] at fewer ⊢
        exact fewer

/-! ## The order of digits -/

/-- The first digit counts as often as the digits behind it have values. -/
theorem digitsValue_cons (digit : Char) (digits : List Char) :
    digitsValue (digit :: digits) =
      10 ^ digits.length * Text.digitValue digit + digitsValue digits := by
  rw [digitsValue_eq, digitsValue_eq, Nat.ofDigitChars_cons, Nat.ofDigitChars_eq_ofDigitChars_zero,
    Nat.mul_zero, Nat.zero_add]
  rfl

/-- Zeros behind digits make their value that many times ten times as large. -/
theorem digitsValue_append_replicate (digits : List Char) (zeros : Nat) :
    digitsValue (digits ++ List.replicate zeros '0') = 10 ^ zeros * digitsValue digits := by
  rw [digitsValue_eq, digitsValue_eq, Nat.ofDigitChars_append, Nat.ofDigitChars_replicate_zero]

/-- A digit has its place among the digits by its value. -/
theorem digitValue_spec
    {digit : Char}
    (isDigit : Text.isDigit digit = true) :
    Text.digitValue digit < 10 ∧ digit.toNat = '0'.toNat + Text.digitValue digit := by
  simp only [Text.isDigit, Bool.and_eq_true, decide_eq_true_eq, Char.le_def, UInt32.le_iff_toNat_le]
    at isDigit
  have bounds : '0'.toNat ≤ digit.toNat ∧ digit.toNat ≤ '9'.toNat := isDigit
  have low : '0'.toNat = 48 := rfl
  have high : '9'.toNat = 57 := rfl
  unfold Text.digitValue
  omega

/-- Digits are ordered by their values. -/
theorem digit_lt_iff
    {digit later : Char}
    (isDigit : Text.isDigit digit = true)
    (laterIsDigit : Text.isDigit later = true) :
    digit < later ↔ Text.digitValue digit < Text.digitValue later := by
  have place := (digitValue_spec isDigit).2
  have laterPlace := (digitValue_spec laterIsDigit).2
  rw [Char.lt_def, UInt32.lt_iff_toNat_lt]
  change digit.toNat < later.toNat ↔ _
  omega

/-- Digits have a value below the power of ten that is their number. -/
theorem digitsValue_lt
    {digits : List Char}
    (areDigits : ∀ c ∈ digits, Text.isDigit c = true) :
    digitsValue digits < 10 ^ digits.length := by
  induction digits with
  | nil => decide
  | cons digit rest inductionHypothesis =>
      have first := (digitValue_spec (areDigits digit List.mem_cons_self)).1
      have below := inductionHypothesis fun c member => areDigits c (List.mem_cons_of_mem _ member)
      have product := Nat.mul_le_mul_left (10 ^ rest.length) (Nat.le_of_lt_succ first)
      rw [digitsValue_cons, List.length_cons, Nat.pow_succ]
      omega

/-- Of as many digits, those with the smaller value are the smaller text. -/
theorem lt_of_digitsValue_lt
    {digits later : List Char}
    (areDigits : ∀ c ∈ digits, Text.isDigit c = true)
    (laterAreDigits : ∀ c ∈ later, Text.isDigit c = true)
    (length_eq : digits.length = later.length)
    (less : digitsValue digits < digitsValue later) :
    digits < later := by
  induction digits generalizing later with
  | nil =>
      obtain rfl := List.length_eq_zero_iff.mp length_eq.symm
      exact absurd less (Nat.lt_irrefl _)
  | cons digit rest inductionHypothesis =>
      obtain ⟨laterDigit, laterRest, rfl⟩ := List.exists_cons_of_length_eq_add_one length_eq.symm
      obtain ⟨isDigit, restAreDigits⟩ := List.forall_mem_cons.mp areDigits
      obtain ⟨laterIsDigit, laterRestAreDigits⟩ := List.forall_mem_cons.mp laterAreDigits
      have lengths : rest.length = laterRest.length := Nat.succ.inj length_eq
      have below := digitsValue_lt laterRestAreDigits
      rw [digitsValue_cons, digitsValue_cons, lengths] at less
      rw [List.cons_lt_cons_iff, digit_lt_iff isDigit laterIsDigit]
      rcases Nat.lt_trichotomy (Text.digitValue digit) (Text.digitValue laterDigit) with
        smaller | same | larger
      · exact .inl smaller
      · rw [same] at less
        refine .inr ⟨?_, inductionHypothesis restAreDigits laterRestAreDigits lengths (by omega)⟩
        apply Char.toNat_inj.mp
        rw [(digitValue_spec isDigit).2, (digitValue_spec laterIsDigit).2, same]
      · have product := Nat.mul_le_mul_left (10 ^ laterRest.length) (Nat.succ_le_of_lt larger)
        rw [Nat.mul_succ] at product
        omega

end Decimal
end ChatFlow
