import ChatFlow.Proofs.Decimal
import ChatFlow.Proofs.Time.Calendar
import ChatFlow.Time.Timestamp
import Mathlib.Algebra.Group.Nat.Defs

/-!
# Stored instants are read back

An instant of the years 0 to 9999 is read back from its stored form, because every field of the
form is.  Other years are stored with a sign, and are not read back.  The stored forms have the
order of the instants: the fields come with the greater ones first and in one width each, and a
fraction that ends sooner is followed by the sign of the offset, which comes before the point and
before every digit.  The instants of the years 0 to
9999 make up one stretch of time, from the first instant of the year 0 to the last one of the year
9999.
-/

namespace ChatFlow

/-- The instant lies in the years 0 to 9999. -/
def Instant.IsStored (instant : Instant) : Prop :=
  0 ≤ (Date.ofDays ((instant.nanos.fdiv nanosPerSecond).fdiv 86400)).year ∧
    (Date.ofDays ((instant.nanos.fdiv nanosPerSecond).fdiv 86400)).year ≤ 9999

instance (instant : Instant) : Decidable instant.IsStored :=
  inferInstanceAs (Decidable (_ ∧ _))

namespace Timestamp

/-- A padded number has as many digits as asked for. -/
theorem length_padded
    {width n : Nat}
    (positive : 0 < width)
    (small : n < 10 ^ width) :
    (padded width n).length = width := by
  have fits := (Nat.length_toDigits_le_iff (by decide) positive).mpr small
  simp only [padded, List.length_append, List.length_replicate]
  omega

/-- A padded number consists of digits. -/
theorem isDigit_of_mem_padded
    {width n : Nat}
    {c : Char}
    (member : c ∈ padded width n) :
    Text.isDigit c = true := by
  simp only [padded, List.mem_append, List.mem_replicate] at member
  rcases member with ⟨_, rfl⟩ | member
  · decide
  · exact Decimal.isDigit_of_mem_toDigits member

/-- A padded number has its own value. -/
theorem digitsValue_padded (width n : Nat) : Decimal.digitsValue (padded width n) = n := by
  simp [Decimal.digitsValue_eq, padded, Nat.ofDigitChars_append]

/-- A padded number is read back. -/
theorem digits?_padded
    {width n : Nat}
    (positive : 0 < width)
    (small : n < 10 ^ width)
    (rest : List Char) :
    digits? width (padded width n ++ rest) = some (n, rest) := by
  have length := length_padded positive small
  have all : (padded width n).all Text.isDigit = true :=
    List.all_eq_true.mpr fun c member => isDigit_of_mem_padded member
  simp only [digits?, List.take_left' length, List.drop_left' length, length, all, and_self,
    if_true, digitsValue_padded]

/-- The digits behind a point are read back, up to the offset. -/
theorem fraction?_padded
    {width n : Nat}
    (positive : 0 < width)
    (short : width ≤ 9)
    (small : n < 10 ^ width) :
    fraction? ('.' :: (padded width n ++ "+00:00".toList)) =
      some (n * Nat.pow 10 (9 - width), "+00:00".toList) := by
  have length := length_padded positive small
  have digits : (padded width n ++ "+00:00".toList).takeWhile Text.isDigit = padded width n := by
    rw [List.takeWhile_append_of_pos fun c member => isDigit_of_mem_padded member]
    have stops : "+00:00".toList.takeWhile Text.isDigit = [] := by decide
    rw [stops, List.append_nil]
  have offset : (padded width n ++ "+00:00".toList).dropWhile Text.isDigit = "+00:00".toList := by
    rw [List.dropWhile_append_of_pos fun c member => isDigit_of_mem_padded member]
    decide
  have notEmpty : (padded width n).isEmpty = false := by
    rw [← Bool.not_eq_true, List.isEmpty_iff]
    rintro empty
    rw [empty, List.length_nil] at length
    omega
  simp only [fraction?, digits, offset, notEmpty, length, digitsValue_padded]
  rw [if_neg]
  simp only [Bool.false_eq_true, false_or]
  omega

/-- The fraction of a second is read back. -/
theorem fraction?_fraction
    {nanos : Nat}
    (small : nanos < 1000000000) :
    fraction? (fraction nanos ++ "+00:00".toList) = some (nanos, "+00:00".toList) := by
  unfold fraction
  split
  · rename_i none
    subst none
    decide
  · split
    · rename_i millis
      rw [List.cons_append, fraction?_padded (by decide) (by decide) (by omega)]
      have whole : nanos / 1000000 * Nat.pow 10 (9 - 3) = nanos := by
        rw [show Nat.pow 10 (9 - 3) = 1000000 from rfl]
        omega
      rw [whole]
    · split
      · rename_i micros
        rw [List.cons_append, fraction?_padded (by decide) (by decide) (by omega)]
        have whole : nanos / 1000 * Nat.pow 10 (9 - 6) = nanos := by
          rw [show Nat.pow 10 (9 - 6) = 1000 from rfl]
          omega
        rw [whole]
      · rw [List.cons_append, fraction?_padded (by decide) (by decide) (by omega)]
        rw [show Nat.pow 10 (9 - 9) = 1 from rfl, Nat.mul_one]

/-- The characters of a stored form, by its fields. -/
def fields (year month day hour minute second nanos : Nat) : List Char :=
  padded 4 year ++ '-' :: (padded 2 month ++ '-' :: (padded 2 day ++ 'T' :: (padded 2 hour ++
    ':' :: (padded 2 minute ++ ':' :: (padded 2 second ++
      (fraction nanos ++ "+00:00".toList))))))

/-- A stored form is read field by field. -/
theorem instant?_fields
    {year month day hour minute second nanos : Nat}
    (yearSmall : year < 10 ^ 4)
    (monthSmall : month < 10 ^ 2)
    (daySmall : day < 10 ^ 2)
    (hourSmall : hour < 10 ^ 2)
    (minuteSmall : minute < 10 ^ 2)
    (secondSmall : second < 10 ^ 2)
    (nanosSmall : nanos < 1000000000) :
    instant? (String.ofList (fields year month day hour minute second nanos)) =
      some ⟨(Date.toDays { year, month, day } * 86400 + hour * 3600 + minute * 60 + second) *
        nanosPerSecond + nanos⟩ := by
  have two : 0 < 2 := by decide
  simp only [instant?, fields, String.toList_ofList, digits?_padded (by decide : 0 < 4) yearSmall,
    digits?_padded two monthSmall, digits?_padded two daySmall, digits?_padded two hourSmall,
    digits?_padded two minuteSmall, digits?_padded two secondSmall, mark?,
    fraction?_fraction nanosSmall, Option.bind_eq_bind, Option.bind_some, if_true, ne_eq,
    not_true_eq_false, if_false]
  rfl

/-- An instant is stored by the fields of its date and its time of day. -/
theorem print_eq
    {instant : Instant}
    {year : Nat}
    (same : (Date.ofDays ((instant.nanos.fdiv nanosPerSecond).fdiv 86400)).year = year)
    (stored : instant.IsStored) :
    print instant =
      let seconds := instant.nanos.fdiv nanosPerSecond
      let date := Date.ofDays (seconds.fdiv 86400)
      let second := (seconds.fmod 86400).toNat
      String.ofList (fields year date.month date.day (second / 3600) (second / 60 % 60)
        (second % 60) (instant.nanos.fmod nanosPerSecond).toNat) := by
  have inRange : 0 ≤ (year : Int) ∧ (year : Int) ≤ 9999 := by
    rw [← same]
    exact stored
  simp only [print, dateTime, fields, Timestamp.year, same, inRange, and_self, if_true,
    Int.toNat_natCast, List.append_assoc, List.cons_append]

/-- A stored form has the fields of the day, of the second of the day and of its nanoseconds. -/
theorem exists_print_eq
    {instant : Instant}
    (stored : instant.IsStored) :
    ∃ (days : Int) (year second nanos : Nat), (Date.ofDays days).year = year ∧ year < 10 ^ 4 ∧
      second < 86400 ∧ nanos < 1000000000 ∧
      instant = ⟨(days * 86400 + second) * nanosPerSecond + nanos⟩ ∧
      print instant = String.ofList (fields year (Date.ofDays days).month (Date.ofDays days).day
        (second / 3600) (second / 60 % 60) (second % 60) nanos) := by
  obtain ⟨total⟩ := instant
  obtain ⟨year, same⟩ := Int.eq_ofNat_of_zero_le stored.1
  have bound := stored.2
  rw [same] at bound
  have printed := print_eq same stored
  dsimp only at same printed
  have positive : (0 : Int) < nanosPerSecond := by decide
  obtain ⟨nanos, nanos_eq⟩ := Int.eq_ofNat_of_zero_le (Int.fmod_nonneg_of_pos total positive)
  have nanosSmall := Int.fmod_lt_of_pos total positive
  have whole := Int.mul_fdiv_add_fmod total nanosPerSecond
  rw [nanos_eq] at printed nanosSmall whole
  generalize total.fdiv nanosPerSecond = seconds at same printed whole
  obtain ⟨second, second_eq⟩ :=
    Int.eq_ofNat_of_zero_le (Int.fmod_nonneg_of_pos seconds (show (0 : Int) < 86400 by decide))
  have secondSmall := Int.fmod_lt_of_pos seconds (show (0 : Int) < 86400 by decide)
  have day := Int.mul_fdiv_add_fmod seconds 86400
  rw [second_eq] at printed secondSmall day
  refine ⟨seconds.fdiv 86400, year, second, nanos, same, by omega, by omega,
    Int.ofNat_lt.mp nanosSmall, ?_, printed⟩
  rw [Int.mul_comm _ 86400, day, Int.mul_comm seconds, whole]

/-- An instant of the years 0 to 9999 is read back from its stored form. -/
theorem parse_print
    {instant : Instant}
    (stored : instant.IsStored) :
    parse (print instant) = instant := by
  obtain ⟨days, year, second, nanos, same, yearSmall, secondSmall, nanosSmall, rfl, printed⟩ :=
    exists_print_eq stored
  obtain ⟨monthSmall, daySmall⟩ := Date.ofDays_lt days
  have date_eq : (⟨year, (Date.ofDays days).month, (Date.ofDays days).day⟩ : Date) =
      Date.ofDays days := by
    rw [← same]
  rw [printed, parse, instant?_fields yearSmall monthSmall daySmall (by omega) (by omega)
    (by omega) nanosSmall, date_eq, Date.toDays_ofDays, Option.getD_some]
  congr 1
  unfold nanosPerSecond
  omega

/-! ## The order of stored forms -/

/-- Fronts of the same length decide the order, whatever is behind them. -/
theorem append_lt_append
    {front laterFront : List Char}
    (length_eq : front.length = laterFront.length)
    (less : front < laterFront)
    (rest laterRest : List Char) :
    front ++ rest < laterFront ++ laterRest := by
  induction front generalizing laterFront with
  | nil =>
      obtain rfl := List.length_eq_zero_iff.mp length_eq.symm
      exact absurd less (List.lt_irrefl [])
  | cons c front inductionHypothesis =>
      obtain ⟨later, laterFront, rfl⟩ := List.exists_cons_of_length_eq_add_one length_eq.symm
      rw [List.cons_append, List.cons_append, List.cons_lt_cons_iff]
      rcases List.cons_lt_cons_iff.mp less with smaller | ⟨same, behind⟩
      · exact .inl smaller
      · exact .inr ⟨same, inductionHypothesis (Nat.succ.inj length_eq) behind⟩

/-- A field comes first by its number, and by what is behind it when the numbers are the same. -/
theorem padded_append_lt
    {width n later : Nat}
    {rest laterRest : List Char}
    (positive : 0 < width)
    (small : n < 10 ^ width)
    (laterSmall : later < 10 ^ width)
    (before : n < later ∨ n = later ∧ rest < laterRest) :
    padded width n ++ rest < padded width later ++ laterRest := by
  have length := length_padded positive small
  have laterLength := length_padded positive laterSmall
  rcases before with less | ⟨rfl, behind⟩
  · apply append_lt_append (length.trans laterLength.symm)
    apply Decimal.lt_of_digitsValue_lt (fun _ => isDigit_of_mem_padded)
      (fun _ => isDigit_of_mem_padded) (length.trans laterLength.symm)
    rwa [digitsValue_padded, digitsValue_padded]
  · exact List.append_left_lt behind

/-- The digits are what is left of the nine digits of a fraction when some zeros at the end are
dropped. -/
structure Trimmed (nanos zeros : Nat) (digits : List Char) : Prop where
  length_eq : digits.length + zeros = 9
  areDigits : ∀ c ∈ digits, Text.isDigit c = true
  value_eq : Decimal.digitsValue (digits ++ List.replicate zeros '0') = nanos

theorem trimmed_padded
    (width : Nat)
    {n nanos : Nat}
    (positive : 0 < width)
    (short : width ≤ 9)
    (small : n < 10 ^ width)
    (whole : 10 ^ (9 - width) * n = nanos) :
    Trimmed nanos (9 - width) (padded width n) where
  length_eq := by
    rw [length_padded positive small]
    omega
  areDigits _ := isDigit_of_mem_padded
  value_eq := by rw [Decimal.digitsValue_append_replicate, digitsValue_padded, whole]

/-- A fraction that is not zero is a point and the digits that are left of nine. -/
theorem exists_fraction
    {nanos : Nat}
    (small : nanos < 1000000000)
    (nonzero : nanos ≠ 0) :
    ∃ digits zeros, fraction nanos = '.' :: digits ∧ Trimmed nanos zeros digits := by
  unfold fraction
  rw [if_neg nonzero]
  split
  · exact ⟨_, _, rfl, trimmed_padded 3 (by decide) (by decide) (by omega) (by omega)⟩
  · split
    · exact ⟨_, _, rfl, trimmed_padded 6 (by decide) (by decide) (by omega) (by omega)⟩
    · exact ⟨_, _, rfl, trimmed_padded 9 (by decide) (by decide) (by omega) (by omega)⟩

/-- Digits that are filled up with zeros are still digits. -/
theorem isDigit_of_mem_filled
    {digits : List Char}
    (areDigits : ∀ c ∈ digits, Text.isDigit c = true)
    (zeros : Nat)
    (c : Char)
    (member : c ∈ digits ++ List.replicate zeros '0') :
    Text.isDigit c = true := by
  rcases List.mem_append.mp member with member | member
  · exact areDigits c member
  · rw [List.eq_of_mem_replicate member]
    decide

/-- No digits are smaller than as many zeros. -/
theorem not_lt_replicate
    {digits : List Char}
    (areDigits : ∀ c ∈ digits, Text.isDigit c = true) :
    ¬ digits < List.replicate digits.length '0' := by
  induction digits with
  | nil => exact List.lt_irrefl []
  | cons digit rest inductionHypothesis =>
      obtain ⟨isDigit, restAreDigits⟩ := List.forall_mem_cons.mp areDigits
      rw [List.length_cons, List.replicate_succ, List.cons_lt_cons_iff]
      rintro (smaller | ⟨_, behind⟩)
      · exact absurd ((Decimal.digit_lt_iff isDigit (by decide)).mp smaller) (Nat.not_lt_zero _)
      · exact inductionHypothesis restAreDigits behind

/-- The sign of the offset comes before every digit. -/
theorem plus_lt_of_isDigit
    {digit : Char}
    (isDigit : Text.isDigit digit = true) :
    '+' < digit := by
  have place := (Decimal.digitValue_spec isDigit).2
  have zero : '0'.toNat = 48 := rfl
  rw [Char.lt_def, UInt32.lt_iff_toNat_lt]
  change 43 < digit.toNat
  omega

/-- Zeros at the end may be dropped, since the offset behind the digits comes before every digit. -/
theorem lt_of_append_replicate_lt
    {digits later : List Char}
    {zeros laterZeros : Nat}
    (areDigits : ∀ c ∈ digits, Text.isDigit c = true)
    (laterAreDigits : ∀ c ∈ later, Text.isDigit c = true)
    (length_eq : digits.length + zeros = later.length + laterZeros)
    (less : digits ++ List.replicate zeros '0' < later ++ List.replicate laterZeros '0') :
    digits ++ "+00:00".toList < later ++ "+00:00".toList := by
  -- Down both lists of digits: the offset of the shorter one meets a digit of the longer one.
  induction digits generalizing later with
  | nil =>
      cases later with
      | nil =>
          obtain rfl : zeros = laterZeros := by simpa using length_eq
          exact absurd less (List.lt_irrefl _)
      | cons digit rest =>
          exact List.Lex.rel (plus_lt_of_isDigit (laterAreDigits digit List.mem_cons_self))
  | cons digit rest inductionHypothesis =>
      cases later with
      | nil =>
          refine absurd ?_ (not_lt_replicate (isDigit_of_mem_filled areDigits zeros))
          rw [List.length_append, List.length_replicate, length_eq]
          simpa using less
      | cons laterDigit laterRest =>
          rw [List.cons_append, List.cons_append, List.cons_lt_cons_iff] at less ⊢
          obtain ⟨_, restAreDigits⟩ := List.forall_mem_cons.mp areDigits
          obtain ⟨_, laterRestAreDigits⟩ := List.forall_mem_cons.mp laterAreDigits
          rcases less with smaller | ⟨same, behind⟩
          · exact .inl smaller
          · refine .inr ⟨same, inductionHypothesis restAreDigits laterRestAreDigits ?_ behind⟩
            simp only [List.length_cons] at length_eq
            omega

/-- Fractions of a second are ordered by their nanoseconds, however many digits they have. -/
theorem fraction_append_lt
    {nanos later : Nat}
    (small : later < 1000000000)
    (less : nanos < later) :
    fraction nanos ++ "+00:00".toList < fraction later ++ "+00:00".toList := by
  obtain ⟨laterDigits, laterZeros, later_eq, laterTrimmed⟩ := exists_fraction small (by omega)
  rw [later_eq]
  by_cases none : nanos = 0
  · -- No fraction at all: the sign of the offset comes before the point.
    subst none
    exact List.Lex.rel (by decide)
  · obtain ⟨digits, zeros, nanos_eq, trimmed⟩ := exists_fraction (Nat.lt_trans less small) none
    have lengths := trimmed.length_eq.trans laterTrimmed.length_eq.symm
    rw [nanos_eq, List.cons_append, List.cons_append]
    refine List.Lex.cons
      (lt_of_append_replicate_lt trimmed.areDigits laterTrimmed.areDigits lengths ?_)
    apply Decimal.lt_of_digitsValue_lt (isDigit_of_mem_filled trimmed.areDigits zeros)
      (isDigit_of_mem_filled laterTrimmed.areDigits laterZeros)
    · simpa only [List.length_append, List.length_replicate] using lengths
    · rwa [trimmed.value_eq, laterTrimmed.value_eq]

/-- A field with a mark behind it comes first by its number, and by what is behind the mark when
the numbers are the same. -/
theorem field_lt_field
    {width n later : Nat}
    {mark : Char}
    {rest laterRest : List Char}
    (positive : 0 < width)
    (small : n < 10 ^ width)
    (laterSmall : later < 10 ^ width)
    (before : n < later ∨ n = later ∧ rest < laterRest) :
    padded width n ++ mark :: rest < padded width later ++ mark :: laterRest :=
  padded_append_lt positive small laterSmall
    (before.imp_right fun ⟨same, behind⟩ => ⟨same, List.Lex.cons behind⟩)

/-- The characters of a stored form from the time of day on. -/
def clock (second nanos : Nat) : List Char :=
  padded 2 (second / 3600) ++ ':' :: (padded 2 (second / 60 % 60) ++ ':' ::
    (padded 2 (second % 60) ++ (fraction nanos ++ "+00:00".toList)))

/-- On a day the earlier time has the smaller form. -/
theorem clock_lt_clock
    {second laterSecond nanos laterNanos : Nat}
    (secondSmall : second < 86400)
    (laterSecondSmall : laterSecond < 86400)
    (laterNanosSmall : laterNanos < 1000000000)
    (before : second < laterSecond ∨ second = laterSecond ∧ nanos < laterNanos) :
    clock second nanos < clock laterSecond laterNanos := by
  have two : 0 < 2 := by decide
  have parts : second / 3600 < laterSecond / 3600 ∨ second / 3600 = laterSecond / 3600 ∧
      (second / 60 % 60 < laterSecond / 60 % 60 ∨ second / 60 % 60 = laterSecond / 60 % 60 ∧
        (second % 60 < laterSecond % 60 ∨
          second % 60 = laterSecond % 60 ∧ nanos < laterNanos)) := by
    omega
  refine field_lt_field two (by omega) (by omega)
    (parts.imp_right fun ⟨sameHour, parts⟩ => ⟨sameHour, ?_⟩)
  refine field_lt_field two (by omega) (by omega)
    (parts.imp_right fun ⟨sameMinute, parts⟩ => ⟨sameMinute, ?_⟩)
  exact padded_append_lt two (by omega) (by omega)
    (parts.imp_right fun ⟨sameSecond, less⟩ =>
      ⟨sameSecond, fraction_append_lt laterNanosSmall less⟩)

/-- Of the instants of the years 0 to 9999 the earlier one has the smaller stored form. -/
theorem print_lt_print
    {earlier later : Instant}
    (stored : earlier.IsStored)
    (laterStored : later.IsStored)
    (less : earlier < later) :
    print earlier < print later := by
  obtain ⟨days, year, second, nanos, year_eq, yearSmall, secondSmall, nanosSmall, rfl, printed⟩ :=
    exists_print_eq stored
  obtain ⟨laterDays, laterYear, laterSecond, laterNanos, laterYear_eq, laterYearSmall,
    laterSecondSmall, laterNanosSmall, rfl, laterPrinted⟩ := exists_print_eq laterStored
  obtain ⟨monthSmall, daySmall⟩ := Date.ofDays_lt days
  obtain ⟨laterMonthSmall, laterDaySmall⟩ := Date.ofDays_lt laterDays
  have order : days < laterDays ∨ days = laterDays ∧
      (second < laterSecond ∨ second = laterSecond ∧ nanos < laterNanos) := by
    change (days * 86400 + second) * 1000000000 + nanos <
      (laterDays * 86400 + laterSecond) * (1000000000 : Int) + laterNanos at less
    omega
  rw [printed, laterPrinted, String.lt_iff, String.toList_ofList, String.toList_ofList]
  have two : 0 < 2 := by decide
  rcases order with earlierDay | ⟨rfl, inDay⟩
  · have dates := Date.earlier_ofDays earlierDay
    rw [Date.Earlier, year_eq, laterYear_eq] at dates
    refine field_lt_field (by decide) yearSmall laterYearSmall
      (dates.imp Int.ofNat_lt.mp fun ⟨sameYear, dates⟩ => ⟨Int.ofNat.inj sameYear, ?_⟩)
    refine field_lt_field two monthSmall laterMonthSmall
      (dates.imp_right fun ⟨sameMonth, dayLess⟩ => ⟨sameMonth, ?_⟩)
    exact field_lt_field two daySmall laterDaySmall (.inl dayLess)
  · obtain rfl : year = laterYear := Int.ofNat.inj (year_eq.symm.trans laterYear_eq)
    refine field_lt_field (by decide) yearSmall yearSmall (.inr ⟨rfl, ?_⟩)
    refine field_lt_field two monthSmall monthSmall (.inr ⟨rfl, ?_⟩)
    refine field_lt_field two daySmall daySmall (.inr ⟨rfl, ?_⟩)
    exact clock_lt_clock secondSmall laterSecondSmall laterNanosSmall inDay

/-- The stored forms of the instants of the years 0 to 9999 have the order of the instants. -/
theorem print_lt_print_iff
    {earlier later : Instant}
    (stored : earlier.IsStored)
    (laterStored : later.IsStored) :
    print earlier < print later ↔ earlier < later := by
  constructor
  · intro less
    rcases Int.lt_trichotomy earlier.nanos later.nanos with before | same | after
    · exact before
    · obtain rfl : earlier = later := congrArg Instant.mk same
      exact absurd less (String.lt_irrefl _)
    · exact absurd less (String.lt_asymm (print_lt_print laterStored stored after))
  · exact print_lt_print stored laterStored

end Timestamp

/-! ## The years 0 to 9999 -/

/-- Dates from the first of January of the year 0 on are in years that are not negative. -/
theorem Date.year_ofDays_nonneg_iff (days : Int) : 0 ≤ (ofDays days).year ↔ -719528 ≤ days := by
  obtain ⟨cycle, year, month, day, inCycle, inYear, inMonth, number, date⟩ := exists_ofDays days
  rw [date]
  simp only [cycleDays, epochDays, daysBeforeYear, daysBeforeMonth] at number
  dsimp only
  split <;> omega

/-- Dates up to the last of December of the year 9999 are in years of four digits at most. -/
theorem Date.year_ofDays_le_iff (days : Int) : (ofDays days).year ≤ 9999 ↔ days ≤ 2932896 := by
  obtain ⟨cycle, year, month, day, inCycle, inYear, inMonth, number, date⟩ := exists_ofDays days
  rw [date]
  simp only [cycleDays, epochDays, daysBeforeYear, daysBeforeMonth] at number
  dsimp only
  split <;> omega

namespace Instant

/-- The beginning of the year 0. -/
def yearZero : Instant := ⟨-62167219200000000000⟩

/-- The end of the year 9999. -/
def endOfYears : Instant := ⟨253402300799999999999⟩

/-- The instants that are read back from their stored form are those between the beginning of the
year 0 and the end of the year 9999. -/
theorem isStored_iff {instant : Instant} :
    instant.IsStored ↔ yearZero ≤ instant ∧ instant ≤ endOfYears := by
  obtain ⟨nanos⟩ := instant
  have seconds : nanos.fdiv nanosPerSecond = nanos / 1000000000 :=
    Int.fdiv_eq_ediv_of_nonneg _ (by decide)
  have days : (nanos / 1000000000).fdiv 86400 = nanos / 1000000000 / 86400 :=
    Int.fdiv_eq_ediv_of_nonneg _ (by decide)
  rw [IsStored, seconds, days, Date.year_ofDays_nonneg_iff, Date.year_ofDays_le_iff]
  change _ ↔ -62167219200000000000 ≤ nanos ∧ nanos ≤ 253402300799999999999
  omega

end Instant
end ChatFlow
