import DocumentQuery.Calendar.Moment
import DocumentQuery.Proofs.Text.Order
import Mathlib.Order.Monotone.Basic

namespace DocumentQuery
namespace Calendar

/-!
# Days counted

A date is the first day of its year, moved on by the months before its month and the days before
its day.  Years of a cycle start one after the other without a gap, as do the months of a year, so a
number of days falls into exactly one of them.  It follows that the number of a date grows with its
year, month and day, in this order, and that counting days and finding the date of a number of days
are inverse to each other.
-/

def yearLength (year : Int) : Nat :=
  if isLeapYear year then 366 else 365

/-- Days from the start of the year one to the start of a year. -/
def yearStart (year : Int) : Int :=
  365 * (year - 1) + (year - 1) / 4 - (year - 1) / 100 + (year - 1) / 400

/-- Days of the first months of a year. -/
def monthStart (year : Int) (months : Nat) : Nat :=
  (List.range months).foldl (fun days i => days + daysInMonth year (i + 1)) 0

/-! ## Years -/

theorem isLeapYear_iff (year : Int) :
    isLeapYear year = true ↔ year % 4 = 0 ∧ (year % 100 ≠ 0 ∨ year % 400 = 0) := by
  simp only [isLeapYear, Bool.and_eq_true, Bool.or_eq_true, beq_iff_eq, bne_iff_ne]

/-- A year starts after the end of every earlier one. -/
theorem yearStart_le {year later : Int} (before : year < later) :
    yearStart year + yearLength year ≤ yearStart later := by
  unfold yearStart yearLength
  split
  · rename_i leap
    rw [isLeapYear_iff] at leap
    omega
  · rename_i common
    omega

theorem year_unique {year year' : Int} {day day' : Nat} (inYear : day < yearLength year)
    (inYear' : day' < yearLength year') (same : yearStart year + day = yearStart year' + day') :
    year = year' ∧ day = day' := by
  have order := Text.compare_places yearStart_le (Int.ofNat_lt.mpr inYear) (Int.ofNat_lt.mpr inYear')
  rw [Int.compare_eq_eq.mpr same] at order
  rcases Ordering.then_eq_eq.mp order.symm with ⟨sameYear, sameDay⟩
  exact ⟨Int.compare_eq_eq.mp sameYear, Nat.compare_eq_eq.mp sameDay⟩

/-- The start of the year after a number of whole cycles, centuries, groups of four and years. -/
theorem yearStart_parts (cycle : Int) {century four single : Nat} (centuries : century ≤ 3)
    (fours : four ≤ 24) (singles : single ≤ 3) :
    yearStart (400 * cycle + (100 * century + 4 * four + single + 1 : Nat)) =
      146097 * cycle + (36524 * century + 1461 * four + 365 * single : Nat) := by
  unfold yearStart
  omega

theorem yearLength_parts (cycle : Int) {century four single : Nat} (centuries : century ≤ 3)
    (fours : four ≤ 24) (singles : single ≤ 3) :
    yearLength (400 * cycle + (100 * century + 4 * four + single + 1 : Nat)) =
      if single = 3 ∧ (four ≠ 24 ∨ century = 3) then 366 else 365 := by
  unfold yearLength
  refine if_congr ?_ rfl rfl
  rw [isLeapYear_iff]
  omega

/-- The year and the day that a number of days falls into. -/
theorem yearAndDay_eq (days : Int) :
    yearStart (Date.yearAndDay days).1 + (Date.yearAndDay days).2 = days ∧
      (Date.yearAndDay days).2 < yearLength (Date.yearAndDay days).1 := by
  let inCycle := (days % 146097).toNat
  let century := min (inCycle / 36524) 3
  let inCentury := inCycle - century * 36524
  let four := inCentury / 1461
  let inFour := inCentury % 1461
  let single := min (inFour / 365) 3
  have cycles : days = 146097 * (days / 146097) + inCycle ∧ inCycle < 146097 := by omega
  have centuries : century ≤ 3 ∧ inCycle = 36524 * century + inCentury ∧
      (century < 3 → inCentury < 36524) ∧ inCentury < 36525 := by omega
  have fours : inCentury = 1461 * four + inFour ∧ inFour < 1461 := by omega
  have singles : single ≤ 3 ∧ inFour = 365 * single + (inFour - single * 365) ∧
      (single < 3 → inFour - single * 365 < 365) := by omega
  change yearStart (400 * (days / 146097) + (100 * century + 4 * four + single + 1 : Nat)) +
      (inFour - single * 365 : Nat) = days ∧ inFour - single * 365 <
    yearLength (400 * (days / 146097) + (100 * century + 4 * four + single + 1 : Nat))
  clear_value inCycle century inCentury four inFour single
  have fewFours : four ≤ 24 := by omega
  rw [yearStart_parts _ centuries.1 fewFours singles.1,
    yearLength_parts _ centuries.1 fewFours singles.1]
  refine ⟨by omega, ?_⟩
  split <;> omega

/-! ## Months -/

theorem monthStart_succ (year : Int) (months : Nat) :
    monthStart year (months + 1) = monthStart year months + daysInMonth year (months + 1) := by
  rw [monthStart, List.range_succ, List.foldl_append]
  rfl

/-- The twelve months are the year. -/
theorem monthStart_twelve (year : Int) : monthStart year 12 = yearLength year := by
  by_cases leap : isLeapYear year = true <;>
    simp [monthStart, yearLength, daysInMonth, leap, List.range_succ]

/-- A month starts after the end of every earlier one. -/
theorem monthStart_le (year : Int) {months later : Nat} (before : months < later) :
    monthStart year months + daysInMonth year (months + 1) ≤ monthStart year later := by
  have grows : Monotone (monthStart year) := monotone_nat_of_le_succ fun k => by
    rw [monthStart_succ]
    exact Nat.le_add_right _ _
  rw [← monthStart_succ]
  exact grows before

theorem compare_months (year : Int) {months months' day day' : Nat}
    (inMonth : day < daysInMonth year (months + 1))
    (inMonth' : day' < daysInMonth year (months' + 1)) :
    compare (monthStart year months + day) (monthStart year months' + day') =
      (compare months months').then (compare day day') := by
  have apart : ∀ {a b : Nat}, a < b →
      (monthStart year a : Int) + daysInMonth year (a + 1) ≤ monthStart year b :=
    fun before => by exact_mod_cast monthStart_le year before
  have order := Text.compare_places apart (Int.ofNat_lt.mpr inMonth) (Int.ofNat_lt.mpr inMonth')
  rw [← Text.compare_natCast]
  exact order

theorem month_unique {year : Int} {months months' day day' : Nat}
    (inMonth : day < daysInMonth year (months + 1))
    (inMonth' : day' < daysInMonth year (months' + 1))
    (same : monthStart year months + day = monthStart year months' + day') :
    months = months' ∧ day = day' := by
  have order := compare_months year inMonth inMonth'
  rw [Nat.compare_eq_eq.mpr same] at order
  rcases Ordering.then_eq_eq.mp order.symm with ⟨sameMonth, sameDay⟩
  exact ⟨Nat.compare_eq_eq.mp sameMonth, Nat.compare_eq_eq.mp sameDay⟩

theorem inYear_of_inMonth {year : Int} {months day : Nat} (inYear : months < 12)
    (inMonth : day < daysInMonth year (months + 1)) :
    monthStart year months + day < yearLength year := by
  have within := monthStart_le year inYear
  rw [monthStart_twelve] at within
  omega

/-- Going through the months from one on, a day within them falls into one of them. -/
theorem monthAndDay_eq (year : Int) (count : Nat) {months day : Nat}
    (inMonths : monthStart year months + day < monthStart year (months + count)) :
    ∃ m d, Date.monthAndDay year day (List.range' (months + 1) count) = some (m + 1, d + 1) ∧
      m < months + count ∧ d < daysInMonth year (m + 1) ∧
      monthStart year m + d = monthStart year months + day := by
  induction count generalizing months day with
  | zero => exact absurd inMonths (Nat.not_lt.mpr (Nat.le_add_right _ _))
  | succ count inductionHypothesis =>
      rw [List.range'_succ, Date.monthAndDay]
      by_cases here : day < daysInMonth year (months + 1)
      · rw [if_pos here]
        exact ⟨months, day, rfl, by omega, here, rfl⟩
      · have next := monthStart_succ year months
        have onward : monthStart year (months + 1) + (day - daysInMonth year (months + 1)) =
            monthStart year months + day := by omega
        have later : monthStart year (months + 1) + (day - daysInMonth year (months + 1)) <
            monthStart year (months + 1 + count) := by
          rw [onward, Nat.add_assoc, Nat.add_comm 1 count]
          exact inMonths
        rcases inductionHypothesis later with ⟨m, d, found, inYear, inMonth, same⟩
        rw [if_neg here]
        exact ⟨m, d, found, by omega, inMonth, same.trans onward⟩

/-! ## Dates -/

theorem compare_pred {m n : Nat} (positive : 1 ≤ m) (positive' : 1 ≤ n) :
    compare (m - 1) (n - 1) = compare m n := by
  have before : m - 1 < n - 1 ↔ m < n := by omega
  have behind : n - 1 < m - 1 ↔ n < m := by omega
  simp only [Nat.compare_eq_ite_lt, before, behind]

namespace Date

/-- The days of the year before a date. -/
def dayOfYear (d : Date) : Nat :=
  monthStart d.year (d.month - 1) + (d.day - 1)

theorem dayNumber_eq (d : Date) : d.dayNumber = yearStart d.year - 719162 + d.dayOfYear := by
  have day := d.day_mem
  change yearStart d.year + (monthStart d.year (d.month - 1) + d.day : Nat) - 719163 = _
  rw [dayOfYear]
  omega

theorem day_lt (d : Date) : d.day - 1 < daysInMonth d.year (d.month - 1 + 1) := by
  have month := d.month_mem
  have day := d.day_mem
  rw [Nat.sub_add_cancel month.1]
  omega

theorem dayOfYear_lt (d : Date) : d.dayOfYear < yearLength d.year := by
  have month := d.month_mem
  exact inYear_of_inMonth (by omega) d.day_lt

/-- A date is before a year exactly if it is before the first day of that year. -/
theorem year_lt_iff (d : Date) (year : Int) :
    d.year < year ↔ d.dayNumber < yearStart year - 719162 := by
  have inYear := d.dayOfYear_lt
  rw [dayNumber_eq]
  constructor
  · intro before
    have gap := yearStart_le before
    omega
  · intro before
    by_contra notBefore
    rcases eq_or_lt_of_le (Int.not_lt.mp notBefore) with rfl | behind
    · omega
    · have gap := yearStart_le behind
      omega

/-- Dates are compared by their years, then by their months, then by their days. -/
theorem compare_dayNumber (a b : Date) :
    compare a.dayNumber b.dayNumber =
      (compare a.year b.year).then ((compare a.month b.month).then (compare a.day b.day)) := by
  have apart : ∀ {year later : Int}, year < later →
      yearStart year - 719162 + yearLength year ≤ yearStart later - 719162 := by
    intro year later before
    have gap := yearStart_le before
    omega
  rw [dayNumber_eq, dayNumber_eq, Text.compare_places apart (Int.ofNat_lt.mpr a.dayOfYear_lt)
    (Int.ofNat_lt.mpr b.dayOfYear_lt)]
  by_cases same : a.year = b.year
  · have day := b.day_lt
    rw [← same] at day
    rw [dayOfYear, dayOfYear, ← same, compare_months a.year a.day_lt day,
      compare_pred a.month_mem.1 b.month_mem.1, compare_pred a.day_mem.1 b.day_mem.1]
  · have differ : compare a.year b.year ≠ .eq := fun equal => same (Int.compare_eq_eq.mp equal)
    rw [Text.then_of_ne differ, Text.then_of_ne differ]

theorem ofNumbers?_self (d : Date) : ofNumbers? d.year d.month d.day = some d :=
  dif_pos ⟨d.year_mem, d.month_mem, d.day_mem⟩

theorem of_ofNumbers? {year : Int} {month day : Nat} {d : Date}
    (found : ofNumbers? year month day = some d) :
    d.year = year ∧ d.month = month ∧ d.day = day := by
  unfold ofNumbers? at found
  split at found
  · cases found
    exact ⟨rfl, rfl, rfl⟩
  · cases found

/-- The numbers that are found for a number of days. -/
theorem ofDayNumber?_eq (days : Int) : ∃ year month day,
    ofDayNumber? days = ofNumbers? year (month + 1) (day + 1) ∧ month < 12 ∧
      day < daysInMonth year (month + 1) ∧
      yearStart year + (monthStart year month + day : Nat) = days + 719162 := by
  rcases split : yearAndDay (days + 719162) with ⟨year, rest⟩
  have parts := yearAndDay_eq (days + 719162)
  rw [split] at parts
  rcases parts with ⟨same, inYear⟩
  have inMonths : monthStart year 0 + rest < monthStart year (0 + 12) := by
    rw [Nat.zero_add, monthStart_twelve]
    exact Nat.lt_of_le_of_lt (Nat.zero_add rest).le inYear
  rcases monthAndDay_eq year 12 inMonths with ⟨month, day, found, inYear', inMonth, same'⟩
  refine ⟨year, month, day, ?_, by omega, inMonth, ?_⟩
  · unfold ofDayNumber?
    rw [split]
    change (monthAndDay year rest (List.range' (0 + 1) 12)).bind _ = _
    rw [found]
    rfl
  · rw [same']
    exact (Nat.zero_add rest).symm ▸ same

/-- Counting the days up to a date and finding the date of a number of days are inverse. -/
theorem ofDayNumber?_eq_some_iff {days : Int} {d : Date} :
    ofDayNumber? days = some d ↔ d.dayNumber = days := by
  rcases ofDayNumber?_eq days with ⟨year, month, day, numbers, inYear, inMonth, total⟩
  rw [numbers]
  constructor
  · intro found
    rcases of_ofNumbers? found with ⟨sameYear, sameMonth, sameDay⟩
    rw [dayNumber_eq, dayOfYear, sameYear, sameMonth, sameDay, Nat.add_sub_cancel,
      Nat.add_sub_cancel]
    omega
  · intro number
    rw [dayNumber_eq] at number
    have sameTotal : yearStart d.year + d.dayOfYear =
        yearStart year + (monthStart year month + day : Nat) := by omega
    rcases year_unique d.dayOfYear_lt (inYear_of_inMonth inYear inMonth) sameTotal with
      ⟨rfl, sameDays⟩
    rcases month_unique d.day_lt inMonth sameDays with ⟨sameMonth, sameDay⟩
    rw [← sameMonth, ← sameDay, Nat.sub_add_cancel d.month_mem.1, Nat.sub_add_cancel d.day_mem.1]
    exact ofNumbers?_self d

theorem eq_of_dayNumber {a b : Date} (same : a.dayNumber = b.dayNumber) : a = b :=
  Option.some.inj ((ofDayNumber?_eq_some_iff.mpr same).symm.trans (ofDayNumber?_eq_some_iff.mpr rfl))

end Date
end Calendar
end DocumentQuery
