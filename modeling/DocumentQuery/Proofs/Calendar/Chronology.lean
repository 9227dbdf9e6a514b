import DocumentQuery.Proofs.Calendar.DayNumbers
import DocumentQuery.Proofs.Decimal.Padded
import DocumentQuery.Value.Basic

namespace DocumentQuery
namespace Calendar

open Decimal

/-!
# Written order and the order of time

Dates, times of day and moments have an order of their own, that of time.  The store compares their
texts instead, character by character.  All fields but the fraction of a second have a fixed width,
so up to the second the two orders agree as long as the years are written without a sign.

A fraction has as many groups of digits as it needs.  Where it is the last part of the text, as in a
time of day, a fraction that ends is before one that goes on, as it should be.  In a moment the
letter Z follows, which is behind the point and all digits: there a fraction that ends is after
every fraction that goes on from it.

A leap second at the end of a minute is written as second 60, behind all others.  A stray one, after
any other second, is written as the second behind it, among the times that are in that second.
Fractions that end and stray leap seconds account for all moments whose texts are in the wrong
order.
-/

instance : Ord Date :=
  ⟨fun a b => compare a.dayNumber b.dayNumber⟩

/-- Seconds of the day before a time.  A leap second belongs to the second before it. -/
def TimeOfDay.secondOfDay (t : TimeOfDay) : Nat :=
  (t.hour * 60 + t.minute) * 60 + t.second

instance : Ord TimeOfDay :=
  ⟨fun a b => (compare a.secondOfDay b.secondOfDay).then (compare a.nanosecond b.nanosecond)⟩

instance : Ord Moment :=
  ⟨fun a b => (compare a.date b.date).then (compare a.time b.time)⟩

/-- The year is written with four digits and no sign. -/
def Date.HasPlainYear (d : Date) : Prop :=
  0 ≤ d.year ∧ d.year ≤ 9999

instance (d : Date) : Decidable d.HasPlainYear :=
  inferInstanceAs (Decidable (_ ∧ _))

/-- A leap second that is not at the end of a minute. -/
def TimeOfDay.IsStray (t : TimeOfDay) : Prop :=
  1000000000 ≤ t.nanosecond ∧ t.second ≠ 59

instance (t : TimeOfDay) : Decidable t.IsStray :=
  inferInstanceAs (Decidable (_ ∧ _))

/-- A stray leap second is written as the second of another time. -/
def TimeOfDay.LeapsInto (a b : TimeOfDay) : Prop :=
  a.IsStray ∧ b.secondOfDay = a.secondOfDay + 1 ∧ b.nanosecond < 1000000000

instance (a b : TimeOfDay) : Decidable (a.LeapsInto b) :=
  inferInstanceAs (Decidable (_ ∧ _))

/-- A number of nanoseconds is another one with its last three, six or nine digits set to zero. -/
def Cut (short long : Nat) : Prop :=
  short < long ∧ ∃ unit ∈ [1000, 1000000, 1000000000], short = long / unit * unit

instance (short long : Nat) : Decidable (Cut short long) :=
  inferInstanceAs (Decidable (_ ∧ _))

/-- The moments are in one second, and the fraction of one of them is cut off from that of the
other. -/
def Moment.Misordered (a b : Moment) : Prop :=
  a.date = b.date ∧ a.time.secondOfDay = b.time.secondOfDay ∧
    (Cut a.time.nanosecond b.time.nanosecond ∨ Cut b.time.nanosecond a.time.nanosecond)

instance (a b : Moment) : Decidable (a.Misordered b) :=
  inferInstanceAs (Decidable (_ ∧ _))

/-- A stray leap second is written as the second of another time, and its fraction is not in front
of the fraction there.  In front of the letter a fraction that is cut off is behind the other
one. -/
def TimeOfDay.Overtakes (a b : TimeOfDay) : Prop :=
  a.LeapsInto b ∧ (Cut (a.nanosecond - 1000000000) b.nanosecond ∨
    ¬ Cut b.nanosecond (a.nanosecond - 1000000000) ∧ b.nanosecond ≤ a.nanosecond - 1000000000)

instance (a b : TimeOfDay) : Decidable (a.Overtakes b) :=
  inferInstanceAs (Decidable (_ ∧ _))

/-- The moments are on one date, and the time of the first overtakes that of the second. -/
def Moment.Overtakes (a b : Moment) : Prop :=
  a.date = b.date ∧ a.time.Overtakes b.time

instance (a b : Moment) : Decidable (a.Overtakes b) :=
  inferInstanceAs (Decidable (_ ∧ _))

/-! ## Dates -/

theorem writeYear_plain {year : Int} (plain : 0 ≤ year ∧ year ≤ 9999) :
    Date.writeYear year = padded 4 year.natAbs :=
  if_pos plain

theorem Date.write_eq (d : Date) : d.write =
    Date.writeYear d.year ++ ('-' :: (padded 2 d.month ++ ('-' :: padded 2 d.day))) :=
  List.append_assoc ..

theorem Date.day_lt_hundred (d : Date) : d.day < 10 ^ 2 := by
  have day := d.day_mem.2
  have longest : daysInMonth d.year d.month ≤ 31 := by
    unfold daysInMonth
    split
    · split <;> decide
    · split <;> decide
  omega

theorem Date.month_lt_hundred (d : Date) : d.month < 10 ^ 2 := by
  have month := d.month_mem
  omega

theorem compare_writeYear_append {year year' : Int} (plain : 0 ≤ year ∧ year ≤ 9999)
    (plain' : 0 ≤ year' ∧ year' ≤ 9999) (s t : List Char) :
    compare (Date.writeYear year ++ s) (Date.writeYear year' ++ t) =
      (compare year year').then (compare s t) := by
  rw [writeYear_plain plain, writeYear_plain plain',
    compare_padded_append (by decide) (by omega) (by omega), ← Text.compare_natCast,
    Int.natAbs_of_nonneg plain.1, Int.natAbs_of_nonneg plain'.1]

theorem Date.compare_self (d : Date) : compare d d = .eq :=
  Int.compare_eq_eq.mpr rfl

/-- Texts of dates are compared before what follows them. -/
theorem Date.compare_write_append {a b : Date} (plain : a.HasPlainYear) (plain' : b.HasPlainYear)
    (s t : List Char) : compare (a.write ++ s) (b.write ++ t) = (compare a b).then (compare s t) := by
  change _ = (compare a.dayNumber b.dayNumber).then _
  simp only [write_eq, List.append_assoc, List.cons_append]
  rw [compare_writeYear_append plain plain', Text.compare_cons,
    compare_padded_append (by decide) a.month_lt_hundred b.month_lt_hundred, Text.compare_cons,
    compare_padded_append (by decide) a.day_lt_hundred b.day_lt_hundred, compare_dayNumber,
    Ordering.then_assoc, Ordering.then_assoc]

/-- The texts of dates have the order of the dates. -/
theorem Date.compare_write {a b : Date} (plain : a.HasPlainYear) (plain' : b.HasPlainYear) :
    compare a.write b.write = compare a b := by
  have order := compare_write_append plain plain' [] []
  rw [List.append_nil, List.append_nil] at order
  exact order.trans Ordering.then_eq

/-! ## Fractions -/

/-- The number of digits that a fraction needs, in groups of three. -/
def places (nanosecond : Nat) : Nat :=
  if nanosecond = 0 then 0
  else if nanosecond % 1000000 = 0 then 3
  else if nanosecond % 1000 = 0 then 6
  else 9

theorem places_cases (n : Nat) :
    places n = 0 ∧ n = 0 ∨ places n = 3 ∧ n ≠ 0 ∧ n % 1000000 = 0 ∨
      places n = 6 ∧ n % 1000000 ≠ 0 ∧ n % 1000 = 0 ∨ places n = 9 ∧ n % 1000 ≠ 0 := by
  unfold places
  split
  · omega
  · split
    · omega
    · split <;> omega

theorem writeFraction_eq (n : Nat) : TimeOfDay.writeFraction n =
    if n = 0 then [] else '.' :: padded (places n) (n / 10 ^ (9 - places n)) := by
  unfold TimeOfDay.writeFraction places
  split
  · rfl
  · split
    · rfl
    · split
      · rfl
      · rw [Nat.sub_self, Nat.pow_zero, Nat.div_one]

theorem cut_cases (short long : Nat) : Cut short long ↔ short < long ∧
    (short = long / 1000 * 1000 ∨ short = long / 1000000 * 1000000 ∨
      short = long / 1000000000 * 1000000000) := by
  simp only [Cut, List.mem_cons, List.not_mem_nil, or_false, exists_eq_or_imp, exists_eq_left]

/-- A fraction is cut off from another one if it ends earlier and has the same digits until then. -/
theorem cut_iff {short long : Nat} (fits : long < 1000000000) :
    Cut short long ↔ places short < places long ∧
      short / 10 ^ (9 - places short) = long / 10 ^ (9 - places short) := by
  rw [cut_cases]
  rcases places_cases short with ⟨few, form⟩ | ⟨few, form⟩ | ⟨few, form⟩ | ⟨few, form⟩ <;>
    rcases places_cases long with ⟨many, form'⟩ | ⟨many, form'⟩ | ⟨many, form'⟩ | ⟨many, form'⟩ <;>
    rw [few, many] <;> omega

/-- A fraction has as many digits as are written. -/
theorem div_lt_places {n : Nat} (fits : n < 1000000000) : n / 10 ^ (9 - places n) < 10 ^ places n := by
  rcases places_cases n with ⟨few, form⟩ | ⟨few, form⟩ | ⟨few, form⟩ | ⟨few, form⟩ <;> rw [few] <;>
    omega

theorem mul_div_places (n : Nat) : n / 10 ^ (9 - places n) * 10 ^ (9 - places n) = n := by
  rcases places_cases n with ⟨few, form⟩ | ⟨few, form⟩ | ⟨few, form⟩ | ⟨few, form⟩ <;> rw [few] <;>
    omega

theorem places_le (n : Nat) : places n ≤ 9 := by
  rcases places_cases n with ⟨few, form⟩ | ⟨few, form⟩ | ⟨few, form⟩ | ⟨few, form⟩ <;> omega

theorem places_pos {n : Nat} (some : n ≠ 0) : 0 < places n := by
  rcases places_cases n with ⟨few, form⟩ | ⟨few, form⟩ | ⟨few, form⟩ | ⟨few, form⟩ <;> omega

/-- A field is compared with a wider one as far as it goes. -/
theorem compare_padded_longer {width more m n : Nat} (places : 0 < width) (goesOn : 0 < more)
    (fits : m < 10 ^ width) (fits' : n < 10 ^ (width + more)) (s t : List Char) :
    compare (padded width m ++ s) (padded (width + more) n ++ t) =
      (compare m (n / 10 ^ more)).then (compare s (padded more (n % 10 ^ more) ++ t)) := by
  have high : n / 10 ^ more < 10 ^ width := by
    rw [Nat.div_lt_iff_lt_mul (Nat.pow_pos (by decide)), ← Nat.pow_add]
    exact fits'
  rw [padded_add places goesOn fits', List.append_assoc, compare_padded_append places fits high]

theorem compare_of_div_ne {unit m n : Nat} (differ : m / unit ≠ n / unit) :
    compare (m / unit) (n / unit) = compare m n := by
  rcases lt_or_gt_of_ne differ with less | greater
  · rw [Nat.compare_eq_lt.mpr less, Nat.compare_eq_lt.mpr (Nat.lt_of_div_lt_div less)]
  · rw [Nat.compare_eq_gt.mpr greater, Nat.compare_eq_gt.mpr (Nat.lt_of_div_lt_div greater)]

section Fractions

variable {s : List Char} {e : Ordering}
  (short : ∀ c rest, c = '.' ∨ Text.isDigit c = true → compare s (c :: rest) = e)

include short

/-- A fraction that ends earlier than another one. -/
theorem compare_writeFraction_of_lt {m n : Nat} (fits : m < 1000000000) (fits' : n < 1000000000)
    (fewer : places m < places n) :
    compare (TimeOfDay.writeFraction m ++ s) (TimeOfDay.writeFraction n ++ s) =
      if Cut m n then e else compare m n := by
  have notZero : n ≠ 0 := by
    rintro rfl
    exact absurd fewer (Nat.not_lt_zero _)
  rw [writeFraction_eq n, if_neg notZero]
  by_cases zero : m = 0
  · have cut : Cut m n := by
      rw [cut_iff fits']
      refine ⟨fewer, ?_⟩
      subst zero
      exact (Nat.div_eq_of_lt fits').symm
    rw [if_pos cut, writeFraction_eq m, if_pos zero]
    exact short '.' _ (.inl rfl)
  · have longer := compare_padded_longer (places_pos zero) (Nat.sub_pos_of_lt fewer)
      (div_lt_places fits) (Nat.add_sub_of_le fewer.le ▸ div_lt_places fits') s s
    have unit : n / 10 ^ (9 - places n) / 10 ^ (places n - places m) = n / 10 ^ (9 - places m) := by
      have most := places_le n
      rw [Nat.div_div_eq_div_mul, ← Nat.pow_add]
      congr 2
      omega
    have ended (k r : Nat) : compare s (padded k r ++ s) = e := by
      rcases List.exists_cons_of_ne_nil (padded_ne_nil k r) with ⟨c, rest, text⟩
      have digit : c ∈ padded k r := text ▸ List.mem_cons_self
      rw [text, List.cons_append]
      exact short c _ (.inr (isDigit_of_mem_padded digit))
    rw [Nat.add_sub_of_le fewer.le, unit, ended] at longer
    rw [writeFraction_eq m, if_neg zero, List.cons_append, List.cons_append, Text.compare_cons, longer]
    by_cases same : m / 10 ^ (9 - places m) = n / 10 ^ (9 - places m)
    · rw [if_pos ((cut_iff fits').mpr ⟨fewer, same⟩), Nat.compare_eq_eq.mpr same, Ordering.eq_then]
    · rw [if_neg fun cut => same ((cut_iff fits').mp cut).2, compare_of_div_ne same]
      exact Text.then_of_ne (fun equal => same (congrArg (· / _) (Nat.compare_eq_eq.mp equal))) e

omit short in
/-- Fractions of the same length before the same text. -/
theorem compare_writeFraction_of_eq {m n : Nat} (fits : m < 1000000000) (fits' : n < 1000000000)
    (same : places m = places n) :
    compare (TimeOfDay.writeFraction m ++ s) (TimeOfDay.writeFraction n ++ s) = compare m n := by
  have nothing : compare s s = .eq := Std.ReflCmp.compare_self
  by_cases zero : m = 0
  · have zero' : n = 0 := by
      by_contra notZero
      have positive := places_pos notZero
      subst zero
      exact absurd same (Nat.ne_of_lt positive)
    rw [zero, zero', Nat.compare_eq_eq.mpr rfl]
    exact nothing
  · have notZero : n ≠ 0 := by
      rintro rfl
      exact absurd same.symm (Nat.ne_of_lt (places_pos zero))
    have first := div_lt_places fits
    have second := div_lt_places fits'
    rw [← same] at second
    rw [writeFraction_eq, if_neg zero, writeFraction_eq, if_neg notZero, ← same, List.cons_append,
      List.cons_append, Text.compare_cons, compare_padded_append (places_pos zero) first second,
      nothing, Ordering.then_eq]
    by_cases equal : m / 10 ^ (9 - places m) = n / 10 ^ (9 - places m)
    · have whole := mul_div_places m
      rw [equal, same, mul_div_places n] at whole
      rw [whole]
      exact (Nat.compare_eq_eq.mpr rfl).trans (Nat.compare_eq_eq.mpr rfl).symm
    · exact compare_of_div_ne equal

/-- Fractions before the same text have the order of the numbers, except where one of them ends
and the other goes on: then that text decides. -/
theorem compare_writeFraction {m n : Nat} (fits : m < 1000000000) (fits' : n < 1000000000) :
    compare (TimeOfDay.writeFraction m ++ s) (TimeOfDay.writeFraction n ++ s) =
      if Cut m n then e else if Cut n m then e.swap else compare m n := by
  rcases lt_trichotomy (places m) (places n) with fewer | same | more
  · have notCut : ¬ Cut n m := fun cut => absurd ((cut_iff fits).mp cut).1 fewer.asymm
    rw [compare_writeFraction_of_lt short fits fits' fewer, if_neg notCut]
  · have notCut : ¬ Cut m n := fun cut => absurd ((cut_iff fits').mp cut).1 (same ▸ lt_irrefl _)
    have notCut' : ¬ Cut n m := fun cut => absurd ((cut_iff fits).mp cut).1 (same ▸ lt_irrefl _)
    rw [compare_writeFraction_of_eq fits fits' same, if_neg notCut, if_neg notCut']
  · have notCut : ¬ Cut m n := fun cut => absurd ((cut_iff fits').mp cut).1 more.asymm
    rw [Std.OrientedOrd.eq_swap, compare_writeFraction_of_lt short fits' fits more, if_neg notCut]
    split
    · rfl
    · exact Std.OrientedOrd.eq_swap.symm

end Fractions

/-! ## Times of day -/

/-- Whether a fraction is cut off from another one is a matter of what is left of one second. -/
theorem cut_mod {m n : Nat} (same : m / 1000000000 = n / 1000000000) :
    Cut (m % 1000000000) (n % 1000000000) ↔ Cut m n := by
  rw [cut_cases, cut_cases]
  omega

theorem div_eq_of_cut {m n : Nat} (cut : Cut m n) : m / 1000000000 = n / 1000000000 := by
  rw [cut_cases] at cut
  omega

namespace TimeOfDay

theorem write_eq (t : TimeOfDay) : t.write =
    padded 2 t.hour ++ (':' :: (padded 2 t.minute ++
      (':' :: (padded 2 (t.second + t.nanosecond / 1000000000) ++
        writeFraction (t.nanosecond % 1000000000))))) := by
  simp only [write, List.append_assoc, List.cons_append]

theorem shown_lt (t : TimeOfDay) : t.second + t.nanosecond / 1000000000 < 10 ^ 2 := by
  have second := t.second_lt
  have nanosecond := t.nanosecond_lt
  omega

/-- The time that is written.  A stray leap second is written as the second behind it. -/
def asWritten (t : TimeOfDay) : TimeOfDay :=
  if stray : t.IsStray then
    { t with
      second := t.second + 1, nanosecond := t.nanosecond - 1000000000
      second_lt := Nat.lt_of_le_of_ne t.second_lt fun last => stray.2 (Nat.succ.inj last)
      nanosecond_lt := Nat.lt_of_le_of_lt (Nat.sub_le t.nanosecond 1000000000) t.nanosecond_lt }
  else t

theorem asWritten_of_not_isStray {t : TimeOfDay} (notStray : ¬ t.IsStray) : t.asWritten = t :=
  dif_neg notStray

theorem secondOfDay_asWritten {t : TimeOfDay} (stray : t.IsStray) :
    t.asWritten.secondOfDay = t.secondOfDay + 1 := by
  rw [asWritten, dif_pos stray]
  rfl

theorem nanosecond_asWritten {t : TimeOfDay} (stray : t.IsStray) :
    t.asWritten.nanosecond = t.nanosecond - 1000000000 := by
  rw [asWritten, dif_pos stray]

theorem write_asWritten (t : TimeOfDay) : t.asWritten.write = t.write := by
  by_cases stray : t.IsStray
  · have late := stray.1
    have nanosecond := t.nanosecond_lt
    have shown : t.second + 1 + (t.nanosecond - 1000000000) / 1000000000 =
        t.second + t.nanosecond / 1000000000 := by omega
    have fraction : (t.nanosecond - 1000000000) % 1000000000 = t.nanosecond % 1000000000 := by omega
    rw [asWritten, dif_pos stray, write_eq, write_eq, shown, fraction]
  · rw [asWritten_of_not_isStray stray]

/-- The seconds that are shown have the order of the seconds, except where they are the same. -/
theorem compare_shown {a b : TimeOfDay} (differ : a.second ≠ b.second)
    (differ' : a.second + a.nanosecond / 1000000000 ≠ b.second + b.nanosecond / 1000000000) :
    compare (a.second + a.nanosecond / 1000000000) (b.second + b.nanosecond / 1000000000) =
      compare a.second b.second := by
  have nanosecond := a.nanosecond_lt
  have nanosecond' := b.nanosecond_lt
  rcases lt_or_gt_of_ne differ with before | behind
  · rw [Nat.compare_eq_lt.mpr before, Nat.compare_eq_lt]
    omega
  · rw [Nat.compare_eq_gt.mpr behind, Nat.compare_eq_gt]
    omega

/-- Times are compared by hour, minute and the second that is shown before their fractions. -/
theorem compare_write_fields (a b : TimeOfDay) (s : List Char) :
    compare (a.write ++ s) (b.write ++ s) =
      (compare a.hour b.hour).then ((compare a.minute b.minute).then
        ((compare (a.second + a.nanosecond / 1000000000) (b.second + b.nanosecond / 1000000000)).then
          (compare (writeFraction (a.nanosecond % 1000000000) ++ s)
            (writeFraction (b.nanosecond % 1000000000) ++ s)))) := by
  have hour (t : TimeOfDay) : t.hour < 10 ^ 2 := t.hour_lt.trans (by decide)
  have minute (t : TimeOfDay) : t.minute < 10 ^ 2 := t.minute_lt.trans (by decide)
  simp only [write_eq, List.append_assoc, List.cons_append]
  rw [compare_padded_append (by decide) (hour a) (hour b), Text.compare_cons,
    compare_padded_append (by decide) (minute a) (minute b), Text.compare_cons,
    compare_padded_append (by decide) a.shown_lt b.shown_lt]

theorem compare_secondOfDay (a b : TimeOfDay) :
    compare a.secondOfDay b.secondOfDay =
      (compare a.hour b.hour).then ((compare a.minute b.minute).then (compare a.second b.second)) := by
  rw [secondOfDay, secondOfDay, compare_units _ _ a.second_lt b.second_lt,
    compare_units _ _ a.minute_lt b.minute_lt, Ordering.then_assoc]

theorem compare_of_secondOfDay {a b : TimeOfDay} (same : a.secondOfDay = b.secondOfDay) :
    compare a b = compare a.nanosecond b.nanosecond := by
  change (compare a.secondOfDay b.secondOfDay).then _ = _
  rw [Nat.compare_eq_eq.mpr same, Ordering.eq_then]

theorem compare_ne_of_cut {a b : TimeOfDay} (same : a.secondOfDay = b.secondOfDay)
    (cut : Cut a.nanosecond b.nanosecond ∨ Cut b.nanosecond a.nanosecond) : compare a b ≠ .eq := by
  rw [compare_of_secondOfDay same]
  intro equal
  rcases cut with cut | cut
  · exact absurd (Nat.compare_eq_eq.mp equal) (Nat.ne_of_lt cut.1)
  · exact absurd (Nat.compare_eq_eq.mp equal) (Nat.ne_of_gt cut.1)

/-- Different seconds of one minute are shown as the same one where a stray leap second leaps into
the other second. -/
theorem leapsInto_of_shown {a b : TimeOfDay} (hour : a.hour = b.hour) (minute : a.minute = b.minute)
    (differ : a.second ≠ b.second)
    (shown : a.second + a.nanosecond / 1000000000 = b.second + b.nanosecond / 1000000000) :
    a.LeapsInto b ∨ b.LeapsInto a := by
  have nanosecond := a.nanosecond_lt
  have nanosecond' := b.nanosecond_lt
  have second := a.second_lt
  have second' := b.second_lt
  unfold LeapsInto IsStray secondOfDay
  rw [hour, minute]
  omega

/-- Times in different seconds have the order of the seconds, whatever follows them, unless a stray
leap second is written as the other second. -/
theorem compare_write_of_ne {a b : TimeOfDay} (differ : a.secondOfDay ≠ b.secondOfDay)
    (apart : ¬ a.LeapsInto b) (apart' : ¬ b.LeapsInto a) (s : List Char) :
    compare (a.write ++ s) (b.write ++ s) = compare a b := by
  have decided : compare a.secondOfDay b.secondOfDay ≠ .eq :=
    fun equal => differ (Nat.compare_eq_eq.mp equal)
  change _ = (compare a.secondOfDay b.secondOfDay).then _
  rw [Text.then_of_ne decided, compare_write_fields, compare_secondOfDay, ← Ordering.then_assoc,
    ← Ordering.then_assoc (compare a.hour b.hour)]
  rw [compare_secondOfDay, ← Ordering.then_assoc] at decided
  by_cases sameMinute : (compare a.hour b.hour).then (compare a.minute b.minute) = .eq
  · rcases Ordering.then_eq_eq.mp sameMinute with ⟨hour, minute⟩
    rw [sameMinute, Ordering.eq_then] at decided ⊢
    have second : a.second ≠ b.second := fun same => decided (Nat.compare_eq_eq.mpr same)
    have shown : a.second + a.nanosecond / 1000000000 ≠ b.second + b.nanosecond / 1000000000 :=
      fun same => (leapsInto_of_shown (Nat.compare_eq_eq.mp hour) (Nat.compare_eq_eq.mp minute)
        second same).elim apart apart'
    rw [compare_shown second shown, Text.then_of_ne decided, Ordering.eq_then]
  · rw [Text.then_of_ne sameMinute, Text.then_of_ne sameMinute]

/-- Times in one second, before a text that is behind all fractions or before all of them. -/
theorem compare_write_of_eq {a b : TimeOfDay} (same : a.secondOfDay = b.secondOfDay)
    {s : List Char} {e : Ordering}
    (short : ∀ c rest, c = '.' ∨ Text.isDigit c = true → compare s (c :: rest) = e) :
    compare (a.write ++ s) (b.write ++ s) =
      if Cut a.nanosecond b.nanosecond then e
      else if Cut b.nanosecond a.nanosecond then e.swap
      else compare a b := by
  have parts := compare_secondOfDay a b
  rw [Nat.compare_eq_eq.mpr same] at parts
  rcases Ordering.then_eq_eq.mp parts.symm with ⟨hour, rest⟩
  rcases Ordering.then_eq_eq.mp rest with ⟨minute, second⟩
  have restSmall (n : Nat) : n % 1000000000 < 1000000000 := Nat.mod_lt n (by decide)
  rw [compare_write_fields, hour, minute, Ordering.eq_then, Ordering.eq_then,
    Nat.compare_eq_eq.mp second, compare_of_secondOfDay same]
  by_cases leaps : a.nanosecond / 1000000000 = b.nanosecond / 1000000000
  · have whole : compare a.nanosecond b.nanosecond =
        compare (a.nanosecond % 1000000000) (b.nanosecond % 1000000000) := by
      have units := compare_units (a.nanosecond / 1000000000) (b.nanosecond / 1000000000)
        (restSmall a.nanosecond) (restSmall b.nanosecond)
      rw [Nat.div_add_mod', Nat.div_add_mod', Nat.compare_eq_eq.mpr leaps, Ordering.eq_then] at units
      exact units
    rw [leaps, Nat.compare_eq_eq.mpr rfl, Ordering.eq_then,
      compare_writeFraction short (restSmall _) (restSmall _), whole]
    simp only [cut_mod leaps, cut_mod leaps.symm]
  · -- One of the two is a leap second, and it is the later one.
    have shown : compare (b.second + a.nanosecond / 1000000000)
        (b.second + b.nanosecond / 1000000000) = compare a.nanosecond b.nanosecond := by
      rw [← compare_of_div_ne leaps]
      simp only [Nat.compare_eq_ite_lt, Nat.add_lt_add_iff_left]
    have decided : compare a.nanosecond b.nanosecond ≠ .eq :=
      fun equal => leaps (congrArg (· / 1000000000) (Nat.compare_eq_eq.mp equal))
    rw [shown, Text.then_of_ne decided, if_neg fun cut => leaps (div_eq_of_cut cut),
      if_neg fun cut => leaps (div_eq_of_cut cut).symm]

/-- A stray leap second and a time in the second that it is written as, before a text that is behind
all fractions or before all of them. -/
theorem LeapsInto.compare_write {a b : TimeOfDay} (leaps : a.LeapsInto b)
    {s : List Char} {e : Ordering}
    (short : ∀ c rest, c = '.' ∨ Text.isDigit c = true → compare s (c :: rest) = e) :
    compare (a.write ++ s) (b.write ++ s) =
      if Cut (a.nanosecond - 1000000000) b.nanosecond then e
      else if Cut b.nanosecond (a.nanosecond - 1000000000) then e.swap
      else compare (a.nanosecond - 1000000000) b.nanosecond := by
  rcases leaps with ⟨stray, next, _⟩
  have same : a.asWritten.secondOfDay = b.secondOfDay :=
    (secondOfDay_asWritten stray).trans next.symm
  rw [← a.write_asWritten, compare_write_of_eq same short, compare_of_secondOfDay same,
    nanosecond_asWritten stray]

theorem LeapsInto.secondOfDay_ne {a b : TimeOfDay} (leaps : a.LeapsInto b) :
    a.secondOfDay ≠ b.secondOfDay :=
  fun same => Nat.succ_ne_self _ (leaps.2.1.symm.trans same.symm)

theorem LeapsInto.asymm {a b : TimeOfDay} (leaps : a.LeapsInto b) : ¬ b.LeapsInto a := by
  intro back
  have next := leaps.2.1
  have next' := back.2.1
  omega

theorem LeapsInto.compare_lt {a b : TimeOfDay} (leaps : a.LeapsInto b) : compare a b = .lt := by
  have before : a.secondOfDay < b.secondOfDay := leaps.2.1 ▸ Nat.lt_succ_self _
  change (compare a.secondOfDay b.secondOfDay).then _ = _
  rw [Nat.compare_eq_lt.mpr before]
  rfl

theorem LeapsInto.compare_gt {a b : TimeOfDay} (leaps : a.LeapsInto b) : compare b a = .gt := by
  have before : a.secondOfDay < b.secondOfDay := leaps.2.1 ▸ Nat.lt_succ_self _
  change (compare b.secondOfDay a.secondOfDay).then _ = _
  rw [Nat.compare_eq_gt.mpr before]
  rfl

/-- Texts of times have the order of the times, if leap seconds are written as second 60. -/
theorem compare_write {a b : TimeOfDay} (notStray : ¬ a.IsStray) (notStray' : ¬ b.IsStray) :
    compare a.write b.write = compare a b := by
  rw [← a.write.append_nil, ← b.write.append_nil]
  by_cases same : a.secondOfDay = b.secondOfDay
  · have ended (c : Char) (rest : List Char) : compare [] (c :: rest) = .lt := rfl
    rw [compare_write_of_eq same fun c rest _ => ended c rest, compare_of_secondOfDay same]
    split
    · rename_i cut
      exact (Nat.compare_eq_lt.mpr cut.1).symm
    · split
      · rename_i cut
        exact (Nat.compare_eq_gt.mpr cut.1).symm
      · rfl
  · have apart : ¬ a.LeapsInto b := fun leaps => notStray leaps.1
    have apart' : ¬ b.LeapsInto a := fun leaps => notStray' leaps.1
    exact compare_write_of_ne same apart apart' []

end TimeOfDay

/-! ## Moments -/

namespace Moment

/-- The letter behind a time is behind the point and all digits. -/
theorem compare_letter (c : Char) (rest : List Char) (before : c = '.' ∨ Text.isDigit c = true) :
    compare ['Z'] (c :: rest) = .gt := by
  have less : c < 'Z' := by
    rcases before with rfl | digit
    · decide
    · simp only [Text.isDigit, Bool.and_eq_true, decide_eq_true_eq] at digit
      exact lt_of_le_of_lt digit.2 (by decide)
  rw [List.compare_cons_cons, compare_gt_iff_gt.mpr less, Ordering.gt_then]

/-- In front of the letter the order of the times in one second is reversed where a fraction is cut
off. -/
theorem compare_write_second {a b : TimeOfDay} (same : a.secondOfDay = b.secondOfDay) :
    compare (a.write ++ ['Z']) (b.write ++ ['Z']) =
      if Cut a.nanosecond b.nanosecond ∨ Cut b.nanosecond a.nanosecond
      then (compare a b).swap else compare a b := by
  rw [TimeOfDay.compare_write_of_eq same compare_letter, TimeOfDay.compare_of_secondOfDay same]
  by_cases cut : Cut a.nanosecond b.nanosecond
  · rw [if_pos cut, if_pos (.inl cut), Nat.compare_eq_lt.mpr cut.1]
    rfl
  · by_cases cut' : Cut b.nanosecond a.nanosecond
    · rw [if_neg cut, if_pos cut', if_pos (.inr cut'), Nat.compare_eq_gt.mpr cut'.1]
    · rw [if_neg cut, if_neg cut', if_neg fun either => either.elim cut cut']

/-- In front of the letter a stray leap second is before the times in the second behind it, except
where it overtakes them. -/
theorem compare_write_leap {a b : TimeOfDay} (leaps : a.LeapsInto b) :
    compare (a.write ++ ['Z']) (b.write ++ ['Z']) = .lt ↔ ¬ a.Overtakes b := by
  rw [leaps.compare_write compare_letter, TimeOfDay.Overtakes]
  by_cases cut : Cut (a.nanosecond - 1000000000) b.nanosecond
  · rw [if_pos cut]
    exact iff_of_false nofun fun stays => stays ⟨leaps, .inl cut⟩
  · by_cases cut' : Cut b.nanosecond (a.nanosecond - 1000000000)
    · rw [if_neg cut, if_pos cut']
      exact iff_of_true rfl fun overtakes => overtakes.2.elim cut fun behind => behind.1 cut'
    · rw [if_neg cut, if_neg cut', Nat.compare_eq_lt, ← Nat.not_le]
      exact not_congr ⟨fun behind => ⟨leaps, .inr ⟨cut', behind⟩⟩,
        fun overtakes => (overtakes.2.resolve_left cut).2⟩

theorem swap_ne {o : Ordering} (decided : o ≠ .eq) : o.swap ≠ o := by
  cases o with
  | lt => exact nofun
  | eq => exact absurd rfl decided
  | gt => exact nofun

/-- In front of the letter times have their order, except where a fraction is cut off from one in
the same second and where a stray leap second overtakes the second behind it. -/
theorem compare_write_letter (a b : TimeOfDay) :
    compare (a.write ++ ['Z']) (b.write ++ ['Z']) = compare a b ↔
      ¬ (a.secondOfDay = b.secondOfDay ∧
          (Cut a.nanosecond b.nanosecond ∨ Cut b.nanosecond a.nanosecond) ∨
        a.Overtakes b ∨ b.Overtakes a) := by
  by_cases same : a.secondOfDay = b.secondOfDay
  · have stays : ¬ a.Overtakes b := fun overtakes => overtakes.1.secondOfDay_ne same
    have stays' : ¬ b.Overtakes a := fun overtakes => overtakes.1.secondOfDay_ne same.symm
    simp only [same, stays, stays', true_and, or_false]
    rw [compare_write_second same]
    by_cases cut : Cut a.nanosecond b.nanosecond ∨ Cut b.nanosecond a.nanosecond
    · rw [if_pos cut]
      exact iff_of_false (swap_ne (TimeOfDay.compare_ne_of_cut same cut)) fun notCut => notCut cut
    · rw [if_neg cut]
      exact iff_of_true rfl cut
  · by_cases leaps : a.LeapsInto b
    · rw [leaps.compare_lt, compare_write_leap leaps]
      refine not_congr ⟨fun overtakes => .inr (.inl overtakes), ?_⟩
      rintro (cut | overtakes | overtakes)
      · exact absurd cut.1 same
      · exact overtakes
      · exact absurd overtakes.1 leaps.asymm
    · by_cases leaps' : b.LeapsInto a
      · rw [leaps'.compare_gt, Std.OrientedOrd.eq_swap, Ordering.swap_eq_gt,
          compare_write_leap leaps']
        refine not_congr ⟨fun overtakes => .inr (.inr overtakes), ?_⟩
        rintro (cut | overtakes | overtakes)
        · exact absurd cut.1 same
        · exact absurd overtakes.1 leaps
        · exact overtakes
      · refine iff_of_true (TimeOfDay.compare_write_of_ne same leaps leaps' _) ?_
        rintro (cut | overtakes | overtakes)
        · exact same cut.1
        · exact leaps overtakes.1
        · exact leaps' overtakes.1

/-- Texts of moments are compared by their dates before their times. -/
theorem compare_write_dates {a b : Moment} (plain : a.date.HasPlainYear)
    (plain' : b.date.HasPlainYear) :
    compare a.write b.write =
      (compare a.date b.date).then (compare (a.time.write ++ ['Z']) (b.time.write ++ ['Z'])) := by
  simp only [write, List.append_assoc, List.cons_append]
  rw [Date.compare_write_append plain plain', Text.compare_cons]

theorem compare_of_date {a b : Moment} (same : a.date = b.date) :
    compare a b = compare a.time b.time := by
  change (compare a.date b.date).then _ = _
  rw [same, Date.compare_self, Ordering.eq_then]

/-- Where a fraction is cut off from one in the same second, the order is reversed. -/
theorem Misordered.compare_write {a b : Moment} (misordered : a.Misordered b)
    (plain : a.date.HasPlainYear) : compare a.write b.write = (compare a b).swap := by
  rcases misordered with ⟨sameDate, sameSecond, cut⟩
  rw [compare_write_dates plain (sameDate ▸ plain), compare_of_date sameDate, sameDate,
    Date.compare_self, Ordering.eq_then, compare_write_second sameSecond, if_pos cut]

/-- Texts of moments have the order of the moments, except where a fraction is cut off from one in
the same second and where a stray leap second overtakes the second behind it. -/
theorem compare_write {a b : Moment} (plain : a.date.HasPlainYear) (plain' : b.date.HasPlainYear) :
    compare a.write b.write = compare a b ↔
      ¬ (a.Misordered b ∨ a.Overtakes b ∨ b.Overtakes a) := by
  rw [compare_write_dates plain plain']
  by_cases same : a.date = b.date
  · rw [compare_of_date same, same, Date.compare_self, Ordering.eq_then, compare_write_letter]
    simp only [Misordered, Overtakes, same, true_and]
  · have decided : compare a.date b.date ≠ .eq :=
      fun equal => same (Date.eq_of_dayNumber (Int.compare_eq_eq.mp equal))
    refine iff_of_true ?_ ?_
    · change _ = (compare a.date b.date).then _
      rw [Text.then_of_ne decided, Text.then_of_ne decided]
    · rintro (misordered | overtakes | overtakes)
      · exact same misordered.1
      · exact same overtakes.1
      · exact same overtakes.1.symm

end Moment
end Calendar

namespace Value

open Calendar

/-- Dates compare with the texts of dates as time goes on, and so do times with the texts of times
if leap seconds are written as second 60. -/
theorem compareScalar_dates_times :
    (∀ a b : Date, a.HasPlainYear → b.HasPlainYear →
      (Value.date a).compareScalar (Value.date b).toScalar = some (compare a b)) ∧
    ∀ a b : TimeOfDay, ¬ a.IsStray → ¬ b.IsStray →
      (Value.time a).compareScalar (Value.time b).toScalar = some (compare a b) := by
  constructor
  · intro a b plain plain'
    change some (compare (String.ofList a.write) (String.ofList b.write)) = _
    rw [Text.compare_ofList, Date.compare_write plain plain']
  · intro a b notStray notStray'
    change some (compare (String.ofList a.write) (String.ofList b.write)) = _
    rw [Text.compare_ofList, TimeOfDay.compare_write notStray notStray']

theorem compareScalar_dates_times_leap :
    let a : Date := ⟨999, 12, 31, by decide, by decide, by decide⟩
    let b : Date := ⟨1000, 1, 1, by decide, by decide, by decide⟩
    let s : TimeOfDay := ⟨23, 59, 59, 999999999, by decide, by decide, by decide, by decide⟩
    let t : TimeOfDay := ⟨23, 59, 59, 1000000000, by decide, by decide, by decide, by decide⟩
    a.HasPlainYear ∧ b.HasPlainYear ∧
      (Value.date a).compareScalar (Value.date b).toScalar = some .lt ∧
      ¬ s.IsStray ∧ ¬ t.IsStray ∧
      (Value.time s).compareScalar (Value.time t).toScalar = some .lt := by
  intro a b s t
  have plain : a.HasPlainYear ∧ b.HasPlainYear := by decide
  have notStray : ¬ s.IsStray ∧ ¬ t.IsStray := by decide
  refine ⟨plain.1, plain.2, ?_, notStray.1, notStray.2, ?_⟩
  · rw [compareScalar_dates_times.1 a b plain.1 plain.2]
    decide
  · rw [compareScalar_dates_times.2 s t notStray.1 notStray.2]
    decide

/-- A moment compares with the text of a moment as their texts do, and this is the order of time
exactly if the fraction of neither is cut off from that of the other within one second and neither
has a stray leap second that overtakes the other one.  Where a fraction is cut off, the order is
reversed. -/
theorem compareScalar_moments {a b : Moment} (plain : a.date.HasPlainYear)
    (plain' : b.date.HasPlainYear) :
    (Value.moment a).compareScalar (Value.moment b).toScalar = some (compare a.text b.text) ∧
      (compare a.text b.text = compare a b ↔
        ¬ (a.Misordered b ∨ a.Overtakes b ∨ b.Overtakes a)) ∧
      (a.Misordered b → compare a.text b.text = (compare a b).swap) := by
  have texts : compare a.text b.text = compare a.write b.write := by
    rw [Moment.text, Moment.text, Text.compare_ofList]
  refine ⟨rfl, ?_, ?_⟩
  · rw [texts, Moment.compare_write plain plain']
  · intro misordered
    rw [texts, misordered.compare_write plain]

/-- Half a second after midnight comes before midnight. -/
theorem compareScalar_moments_half :
    let date : Date := ⟨2020, 1, 1, by decide, by decide, by decide⟩
    let a : Moment := ⟨date, .midnight⟩
    let b : Moment := ⟨date, ⟨0, 0, 0, 500000000, by decide, by decide, by decide, by decide⟩⟩
    date.HasPlainYear ∧ a.Misordered b ∧ compare a b = .lt ∧
      (Value.moment a).compareScalar (Value.moment b).toScalar = some .gt := by
  intro date a b
  have plain : date.HasPlainYear := by decide
  have misordered : a.Misordered b := by decide
  have order : compare a b = .lt := by decide
  rcases compareScalar_moments (a := a) (b := b) plain plain with ⟨texts, _, reversed⟩
  refine ⟨plain, misordered, order, ?_⟩
  rw [texts, reversed misordered, order]
  rfl

end Value
end DocumentQuery
