import ChatFlow.Time.Calendar
import Mathlib.Order.Monotone.Basic

/-!
# Dates and day numbers

A day of the cycle of four hundred years is found from its century, its place among the leap
years and its place in the four years up to the next one.  From there the year of the cycle comes
out right, and a date has the day number that it was made from.  Later days have later dates.
-/

namespace ChatFlow
namespace Date

/-- The year of the cycle in which a day of the cycle lies. -/
def yearOfDay (day : Nat) : Nat :=
  (day - day / 1460 + day / 36524 - day / 146096) / 365

/-- Every day of the cycle but the last one lies in a century, and there in a group of four
years. -/
theorem exists_parts {day : Nat} (within : day < 146096) :
    ∃ century quad rest, century ≤ 3 ∧ quad ≤ 24 ∧ rest ≤ 1460 ∧ 1461 * quad + rest < 36524 ∧
      day = 36524 * century + 1461 * quad + rest :=
  ⟨day / 36524, day % 36524 / 1461, day % 36524 % 1461, by omega, by omega, by omega, by omega,
    by omega⟩

/-- The year of a day, by the parts of the day. -/
theorem yearOfDay_parts
    {century quad rest : Nat}
    (centuryBound : century ≤ 3)
    (quadBound : quad ≤ 24)
    (restBound : rest ≤ 1460)
    (inCentury : 1461 * quad + rest < 36524) :
    ∃ year ≤ 3, yearOfDay (36524 * century + 1461 * quad + rest) =
      100 * century + 4 * quad + year ∧ 365 * year ≤ rest ∧ rest ≤ 365 * year + 365 := by
  obtain ⟨leap, leap_eq⟩ : ∃ leap, leap = (24 * century + quad + rest) / 1460 := ⟨_, rfl⟩
  have quads : (36524 * century + 1461 * quad + rest) / 1460 = 25 * century + quad + leap := by
    omega
  have centuries : (36524 * century + 1461 * quad + rest) / 36524 = century := by omega
  have cycles : (36524 * century + 1461 * quad + rest) / 146096 = 0 := by omega
  have leapBound : leap ≤ 1 := by omega
  have leapless : rest - leap ≤ 1459 := by omega
  refine ⟨(rest - leap) / 365, by omega, ?_, ?_, ?_⟩
  · unfold yearOfDay
    rw [quads, centuries, cycles]
    have shifted : 36524 * century + 1461 * quad + rest - (25 * century + quad + leap) +
        century - 0 = 365 * (100 * century + 4 * quad) + (rest - leap) := by
      omega
    rw [shifted]
    omega
  · omega
  · omega

/-- A day of the cycle lies in the year that is found for it. -/
theorem yearOfDay_spec {day : Nat} (within : day < cycleDays) :
    yearOfDay day < 400 ∧ daysBeforeYear (yearOfDay day) ≤ day ∧
      day - daysBeforeYear (yearOfDay day) ≤ 365 := by
  unfold cycleDays at within
  by_cases last : day = 146096
  · subst last
    decide
  · obtain ⟨century, quad, rest, centuryBound, quadBound, restBound, inCentury, rfl⟩ :=
      exists_parts (show day < 146096 by omega)
    obtain ⟨year, yearBound, year_eq, begins, ends⟩ :=
      yearOfDay_parts centuryBound quadBound restBound inCentury
    have days_eq : daysBeforeYear (100 * century + 4 * quad + year) =
        36524 * century + 1461 * quad + 365 * year := by
      have quads : (100 * century + 4 * quad + year) / 4 = 25 * century + quad := by omega
      have centuries : (100 * century + 4 * quad + year) / 100 = century := by omega
      unfold daysBeforeYear
      rw [quads, centuries]
      omega
    rw [year_eq, days_eq]
    omega

/-- The day of the year lies in the month that is found for it. -/
theorem monthOfDay_spec {day : Nat} (within : day ≤ 365) :
    (5 * day + 2) / 153 ≤ 11 ∧ daysBeforeMonth ((5 * day + 2) / 153) ≤ day ∧
      day - daysBeforeMonth ((5 * day + 2) / 153) ≤ 30 := by
  unfold daysBeforeMonth
  omega

/-- The date in a year that begins in March, its months counted from zero. -/
def ofMarch (year : Int) (month day : Nat) : Date :=
  { year := if month < 10 then year else year + 1
    month := if month < 10 then month + 3 else month - 9
    day }

/-- A day is found in its cycle, there in its year from March, and there in its month. -/
theorem exists_ofDays_eq_ofMarch (days : Int) :
    ∃ (cycle : Int) (day : Nat), day < cycleDays ∧ days + epochDays = cycle * cycleDays + day ∧
      ofDays days =
        let dayOfYear := day - daysBeforeYear (yearOfDay day)
        let month := (5 * dayOfYear + 2) / 153
        ofMarch (cycle * 400 + yearOfDay day) month (dayOfYear - daysBeforeMonth month + 1) := by
  have positive : (0 : Int) < cycleDays := by decide
  have split := Int.mul_fdiv_add_fmod (days + epochDays) cycleDays
  obtain ⟨day, same⟩ := Int.eq_ofNat_of_zero_le (Int.fmod_nonneg_of_pos (days + epochDays) positive)
  have bounded := Int.fmod_lt_of_pos (days + epochDays) positive
  rw [same] at split bounded
  refine ⟨(days + epochDays).fdiv cycleDays, day, Int.ofNat_lt.mp bounded, ?_, ?_⟩
  · rw [Int.mul_comm]
    exact split.symm
  · simp only [ofDays, same, Int.toNat_natCast]
    rfl

/-- A date is that of a day of some year of some cycle. -/
theorem exists_ofDays (days : Int) :
    ∃ (cycle : Int) (year month day : Nat), year < 400 ∧ month ≤ 11 ∧ day ≤ 30 ∧
      days + epochDays = cycle * cycleDays + (daysBeforeYear year + daysBeforeMonth month + day) ∧
      ofDays days =
        { year := if month < 10 then cycle * 400 + year else cycle * 400 + year + 1
          month := if month < 10 then month + 3 else month - 9
          day := day + 1 } := by
  obtain ⟨cycle, dayOfCycle, within, number, date⟩ := exists_ofDays_eq_ofMarch days
  obtain ⟨inCycle, begins, ends⟩ := yearOfDay_spec within
  obtain ⟨inYear, monthBegins, monthEnds⟩ := monthOfDay_spec ends
  exact ⟨cycle, yearOfDay dayOfCycle, _, _, inCycle, inYear, monthEnds, by omega, date⟩

/-- The date of a day has the number of the day. -/
theorem toDays_ofDays (days : Int) : (ofDays days).toDays = days := by
  obtain ⟨cycle, year, month, day, inCycle, inYear, _, number, date⟩ := exists_ofDays days
  rw [date]
  have early : month < 10 ∨ 10 ≤ month := by omega
  have cycles : (cycle * 400 + year).fdiv 400 = cycle := by
    rw [Int.fdiv_eq_ediv_of_nonneg _ (by decide)]
    omega
  have years : ((cycle * 400 + year).fmod 400).toNat = year := by
    rw [Int.fmod_eq_emod_of_nonneg _ (by decide)]
    omega
  rcases early with before | after
  · have notFirst : ¬ month + 3 ≤ 2 := by omega
    have sameMonth : month + 3 - 3 = month := by omega
    simp only [toDays, before, if_true, notFirst, if_false, cycles, years, sameMonth]
    omega
  · have late : ¬ month < 10 := by omega
    have first : month - 9 ≤ 2 := by omega
    have sameMonth : month - 9 + 9 = month := by omega
    have sameYear : cycle * 400 + (year : Int) + 1 - 1 = cycle * 400 + year := by omega
    simp only [toDays, late, if_false, first, if_true, sameYear, cycles, years, sameMonth]
    omega

/-- Months and days of dates have two digits at most. -/
theorem ofDays_lt (days : Int) : (ofDays days).month < 100 ∧ (ofDays days).day < 100 := by
  obtain ⟨_, _, month, day, _, inYear, inMonth, _, date⟩ := exists_ofDays days
  rw [date]
  refine ⟨?_, by dsimp only; omega⟩
  dsimp only
  split <;> omega

/-! ## The order of dates -/

/-- A date comes before another one: by its year, then its month, then its day. -/
def Earlier (date later : Date) : Prop :=
  date.year < later.year ∨ date.year = later.year ∧
    (date.month < later.month ∨ date.month = later.month ∧ date.day < later.day)

/-- Dates have the order of their years from March, of their months there and of their days. -/
theorem earlier_ofMarch
    {year laterYear : Int}
    {month laterMonth day laterDay : Nat}
    (inYear : month ≤ 11)
    (laterInYear : laterMonth ≤ 11)
    (before : year < laterYear ∨ year = laterYear ∧
      (month < laterMonth ∨ month = laterMonth ∧ day < laterDay)) :
    (ofMarch year month day).Earlier (ofMarch laterYear laterMonth laterDay) := by
  unfold Earlier ofMarch
  dsimp only
  split <;> split <;> omega

/-- A later day of the cycle is not in an earlier year. -/
theorem yearOfDay_monotone : Monotone yearOfDay := by
  refine monotone_nat_of_le_succ fun day => ?_
  unfold yearOfDay
  omega

/-- Within a year from March, a later day is in a later month or on a later day of its month. -/
theorem before_of_lt
    {day later : Nat}
    (less : day < later) :
    (5 * day + 2) / 153 < (5 * later + 2) / 153 ∨
      (5 * day + 2) / 153 = (5 * later + 2) / 153 ∧
        day - daysBeforeMonth ((5 * day + 2) / 153) <
          later - daysBeforeMonth ((5 * later + 2) / 153) := by
  unfold daysBeforeMonth
  omega

/-- A later day has a later date. -/
theorem earlier_ofDays
    {days laterDays : Int}
    (less : days < laterDays) :
    (ofDays days).Earlier (ofDays laterDays) := by
  obtain ⟨cycle, day, within, number, date⟩ := exists_ofDays_eq_ofMarch days
  obtain ⟨laterCycle, later, laterWithin, laterNumber, laterDate⟩ :=
    exists_ofDays_eq_ofMarch laterDays
  obtain ⟨inCycle, begins, ends⟩ := yearOfDay_spec within
  obtain ⟨laterInCycle, laterBegins, laterEnds⟩ := yearOfDay_spec laterWithin
  rw [date, laterDate]
  apply earlier_ofMarch (monthOfDay_spec ends).1 (monthOfDay_spec laterEnds).1
  have cycles : cycle < laterCycle ∨ cycle = laterCycle ∧ day < later := by
    unfold cycleDays at *
    omega
  rcases cycles with cycles | ⟨rfl, dayLess⟩
  · exact .inl (by omega)
  rcases Nat.lt_or_eq_of_le (yearOfDay_monotone dayLess.le) with years | sameYear
  · exact .inl (by omega)
  refine .inr ⟨by rw [sameYear], ?_⟩
  rw [sameYear] at begins ⊢
  have inYear := before_of_lt
    (show day - daysBeforeYear (yearOfDay later) < later - daysBeforeYear (yearOfDay later) by
      omega)
  omega

end Date
end ChatFlow
