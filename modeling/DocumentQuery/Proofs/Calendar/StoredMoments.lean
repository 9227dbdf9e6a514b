import DocumentQuery.Proofs.Calendar.ReadBack

namespace DocumentQuery
namespace Calendar

open Decimal

/-!
# Stored moments

A column of moments holds texts or milliseconds.  A moment is read back from its text if its year is
written without a sign.  The internet form has four digits for the year, and the other forms leave
nothing for the letter Z at the end, so no form takes the text of a moment with a sign before its
year: such a moment is not read back, although the calendar goes on far beyond these years and
milliseconds reach them.

A stray leap second is written as the second behind it, as in a time of day.  No column holds a
moment with one, as neither texts nor milliseconds are read as such a moment.
-/

namespace Moment

theorem write_eq (m : Moment) :
    m.write = m.date.write ++ ('T' :: (m.time.write ++ ['Z'])) := by
  simp only [write, List.append_assoc, List.cons_append]

theorem notBlank_write (m : Moment) {c : Char} (member : c ∈ m.write) : Text.isBlank c = false := by
  rw [write_eq, List.mem_append, List.mem_cons, List.mem_append, List.mem_singleton] at member
  rcases member with date | rfl | time | rfl
  · exact m.date.notBlank_write date
  · decide
  · exact m.time.notBlank_write time
  · decide

/-- The moment that is written. -/
def asWritten (m : Moment) : Moment :=
  { m with time := m.time.asWritten }

theorem write_asWritten (m : Moment) : m.asWritten.write = m.write := by
  rw [write, asWritten, m.time.write_asWritten]
  rfl

theorem asWritten_eq_self_iff {m : Moment} : m.asWritten = m ↔ ¬ m.time.IsStray := by
  rw [← TimeOfDay.asWritten_eq_self_iff]
  constructor
  · exact congrArg time
  · intro same
    rw [asWritten, same]

theorem moment?_shown {m : Moment} (notStray : ¬ m.time.IsStray) (n : Numbers) :
    (m.time.shown { n with year := m.date.year, month := m.date.month, day := m.date.day }).moment? =
      some m := by
  rw [Numbers.moment?, time?_shown notStray]
  dsimp only [TimeOfDay.shown, Numbers.date?]
  rw [m.date.ofNumbers?_self]

theorem atMinute_self {t : TimeOfDay} {minute : Nat} (same : minute = 60 * t.hour + t.minute)
    (inDay : minute < 1440) : t.atMinute minute inDay = t := by
  have fits := t.minute_lt
  have hours : minute / 60 = t.hour := by omega
  have rest : minute % 60 = t.minute := by omega
  simp only [TimeOfDay.atMinute, hours, rest]

/-- A time at universal time is not moved. -/
theorem minusMinutes?_zero (m : Moment) : m.minusMinutes? 0 = some m := by
  have minute := m.time.minute_lt
  have hour := m.time.hour_lt
  have sameDay : m.date.dayNumber = m.date.dayNumber +
      (60 * m.time.hour + m.time.minute - 0 : Int) / 1440 := by omega
  rw [minusMinutes?, Date.ofDayNumber?_eq_some_iff.mpr sameDay, Option.map_some,
    atMinute_self (by omega)]

theorem bind_of_eq_some {α β : Type} {x : Option α} {a : α} (found : x = some a)
    (f : α → Option β) : (x >>= f) = f a := by
  rw [found]
  rfl

theorem separator?_cons (c : Char) (rest : List Char) : separator? c (c :: rest) = some rest :=
  if_pos rfl

/-- The internet form reads the numbers in its fields, at universal time. -/
theorem internetMoment?_fields {year month day hour minute second nanosecond : Nat}
    (fits : year < 10 ^ 4 ∧ month < 10 ^ 2 ∧ day < 10 ^ 2 ∧ hour < 10 ^ 2 ∧ minute < 10 ^ 2 ∧
      second < 10 ^ 2 ∧ nanosecond < 1000000000) :
    internetMoment? (padded 4 year ++ '-' :: (padded 2 month ++ '-' :: (padded 2 day ++
      'T' :: (padded 2 hour ++ ':' :: (padded 2 minute ++ ':' :: (padded 2 second ++
        (TimeOfDay.writeFraction nanosecond ++ ['Z']))))))) =
      (Numbers.moment? ⟨year, month, day, hour, minute, second, nanosecond⟩).bind
        (minusMinutes? · 0) := by
  rcases fits with ⟨yearFits, monthFits, dayFits, hourFits, minuteFits, secondFits, fractionFits⟩
  rw [internetMoment?]
  refine (bind_of_eq_some (fixed?_padded (by decide) yearFits _) _).trans ?_
  refine (bind_of_eq_some (separator?_cons _ _) _).trans ?_
  refine (bind_of_eq_some (fixed?_padded (by decide) monthFits _) _).trans ?_
  refine (bind_of_eq_some (separator?_cons _ _) _).trans ?_
  refine (bind_of_eq_some (fixed?_padded (by decide) dayFits _) _).trans ?_
  -- The letter between date and time may be written in several ways.
  dsimp only
  rw [if_pos (by decide)]
  refine (bind_of_eq_some rfl _).trans ?_
  refine (bind_of_eq_some (fixed?_padded (by decide) hourFits _) _).trans ?_
  refine (bind_of_eq_some (separator?_cons _ _) _).trans ?_
  refine (bind_of_eq_some (fixed?_padded (by decide) minuteFits _) _).trans ?_
  refine (bind_of_eq_some (separator?_cons _ _) _).trans ?_
  refine (bind_of_eq_some (fixed?_padded (by decide) secondFits _) _).trans ?_
  dsimp only
  rw [writeFraction_eq]
  by_cases zero : nanosecond = 0
  · rw [if_pos zero, zero]
    rfl
  · have fraction := fraction?_padded (places_le nanosecond)
      (length_padded_of_lt (places_pos zero) (div_lt_places fractionFits))
      (stops_cons [] (by rfl : Text.isDigit 'Z' = false))
    rw [mul_div_places] at fraction
    rw [if_neg zero, List.cons_append]
    exact bind_of_eq_some fraction _

/-- The internet form takes the text of a moment whose year has four digits and no sign. -/
theorem internetMoment?_write {m : Moment} (plain : m.date.HasPlainYear)
    (notStray : ¬ m.time.IsStray) : internetMoment? m.write = some m := by
  have fits := plain
  unfold Date.HasPlainYear at fits
  have read := internetMoment?_fields ⟨(by omega : m.date.year.natAbs < 10 ^ 4),
    m.date.month_lt_hundred, m.date.day_lt_hundred, m.time.hour_lt.trans (by decide),
    m.time.minute_lt.trans (by decide), m.time.shown_lt,
    Nat.mod_lt m.time.nanosecond (by decide : 0 < 1000000000)⟩
  have shown := moment?_shown notStray {}
  unfold TimeOfDay.shown at shown
  simp only [write_eq, Date.write_eq, writeYear_plain plain, TimeOfDay.write_eq, List.append_assoc,
    List.cons_append]
  rw [read, Int.natAbs_of_nonneg plain.1, shown, Option.bind_some, m.minusMinutes?_zero]

/-- The internet form begins with a digit. -/
theorem internetMoment?_sign {m : Moment} (signed : ¬ m.date.HasPlainYear) :
    internetMoment? m.write = none := by
  have sign : Text.isDigit (if m.date.year < 0 then '-' else '+') = false := by split <;> rfl
  have year : Date.writeYear m.date.year =
      (if m.date.year < 0 then '-' else '+') :: padded 4 m.date.year.natAbs := if_neg signed
  rw [write_eq, Date.write_eq, year, internetMoment?, List.cons_append, List.cons_append, fixed?,
    splitDigits, sign]
  rfl

/-- A form with blanks after the date does not take the letter there. -/
theorem blanks_write (m : Moment) (items : List Item) :
    readItems? (dateForm ++ .blanks :: .hour :: items) {} m.write = none := by
  rw [write_eq, readItems?_date]
  rfl

/-- No form of a moment takes the letter at the end of the text of a moment. -/
theorem forms_write (m : Moment) {form : List Item} (member : form ∈ momentForms) :
    readItems? form {} m.write = none := by
  simp only [momentForms, List.mem_cons, List.not_mem_nil, or_false] at member
  rcases member with rfl | rfl | rfl
  · exact m.blanks_write _
  · have stops : StopsTime ['Z'] := by
      intro c first
      rw [List.head?_cons, Option.mem_some_iff] at first
      subst first
      decide
    have read := readItems?_time m.time []
      (n := { year := m.date.year, month := m.date.month, day := m.date.day }) rfl stops
    rw [List.append_nil] at read
    rw [write_eq, readItems?_date, readItems?_literal, read]
    rfl
  · exact m.blanks_write _

theorem dateForm_write (m : Moment) : readItems? dateForm {} m.write = none := by
  have read := readItems?_date m.date [] {} ('T' :: (m.time.write ++ ['Z']))
  rw [List.append_nil] at read
  rw [write_eq, read]
  rfl

/-- A text of a moment is read as a moment exactly if its year is written without a sign. -/
theorem readMoment?_write (m : Moment) :
    readMoment? m.write = if m.date.HasPlainYear then some m.asWritten else none := by
  have noForm : (momentForms.findSome? fun form =>
      (readItems? form {} m.write).bind Numbers.moment?) = none := by
    rw [List.findSome?_eq_none_iff]
    intro form member
    rw [m.forms_write member]
    rfl
  rw [readMoment?, trim_of_notBlank fun _ => m.notBlank_write, noForm, m.dateForm_write]
  by_cases plain : m.date.HasPlainYear
  · have internet : internetMoment? m.asWritten.write = some m.asWritten :=
      internetMoment?_write plain m.time.not_isStray_asWritten
    rw [if_pos plain, ← m.write_asWritten, internet]
    rfl
  · rw [if_neg plain, internetMoment?_sign plain]
    rfl

/-! ## What is read as a moment -/

/-- What holds of all that the last step of a reading gives holds of what the reading gives. -/
theorem forall_mem_bind {α β : Type} {x : Option α} {f : α → Option β} {holds : β → Prop}
    (last : ∀ a, ∀ b ∈ f a, holds b) : ∀ b ∈ x >>= f, holds b := by
  cases x with
  | none => exact nofun
  | some a => exact last a

theorem not_isStray_of_time? {n : Numbers} {t : TimeOfDay} (read : n.time? = some t) :
    ¬ t.IsStray := by
  rw [Numbers.time?] at read
  split at read
  · exact TimeOfDay.not_isStray_of_ofNumbers? read
  · exact TimeOfDay.not_isStray_of_ofNumbers? read

theorem not_isStray_of_moment? {n : Numbers} {m : Moment} (read : n.moment? = some m) :
    ¬ m.time.IsStray := by
  rw [Numbers.moment?] at read
  split at read
  · rename_i times
    cases read
    exact not_isStray_of_time? times
  · cases read

/-- Minutes move no second. -/
theorem not_isStray_of_minusMinutes? {m m' : Moment} {minutes : Int} (notStray : ¬ m.time.IsStray)
    (found : m.minusMinutes? minutes = some m') : ¬ m'.time.IsStray := by
  rw [minusMinutes?, Option.map_eq_some_iff] at found
  rcases found with ⟨date, _, rfl⟩
  exact notStray

theorem not_isStray_of_numbers (n : Numbers) (minutes : Int) :
    ∀ m ∈ n.moment? >>= (minusMinutes? · minutes), ¬ m.time.IsStray := by
  intro m found
  rcases Option.bind_eq_some_iff.mp found with ⟨shown, read, moved⟩
  exact not_isStray_of_minusMinutes? (not_isStray_of_moment? read) moved

theorem not_isStray_of_internetMoment? (s : List Char) :
    ∀ m ∈ internetMoment? s, ¬ m.time.IsStray := by
  unfold internetMoment?
  -- However the letter and the fraction are written, the moment is made in the last two steps.
  repeat' first
    | exact not_isStray_of_numbers _ _
    | refine forall_mem_bind fun _ => ?_
    | split

/-- No stray leap second is read from a text. -/
theorem not_isStray_of_readMoment? {s : List Char} {m : Moment} (read : readMoment? s = some m) :
    ¬ m.time.IsStray := by
  rw [readMoment?, Option.or_eq_some_iff, Option.or_eq_some_iff] at read
  rcases read with internet | ⟨_, form | ⟨_, date⟩⟩
  · exact not_isStray_of_internetMoment? _ m internet
  · rcases List.exists_of_findSome?_eq_some form with ⟨form, _, found⟩
    rcases Option.bind_eq_some_iff.mp found with ⟨n, _, made⟩
    exact not_isStray_of_moment? made
  · rcases Option.map_eq_some_iff.mp date with ⟨d, _, rfl⟩
    exact (by decide : ¬ TimeOfDay.midnight.IsStray)

/-! ## Milliseconds -/

theorem of_ofSeconds? {day : Int} {second nanosecond : Nat} {m : Moment}
    (found : ofSeconds? day second nanosecond = some m) : m.date.dayNumber = day := by
  rw [← Date.ofDayNumber?_eq_some_iff]
  rw [ofSeconds?] at found
  -- Both are made variables, so that nothing is computed from numbers that are not known.
  generalize Date.ofDayNumber? day = date at found ⊢
  generalize TimeOfDay.ofNumbers? _ _ _ _ = time at found
  split at found
  · cases found
    rfl
  · cases found

/-- No stray leap second is read from milliseconds. -/
theorem not_isStray_of_ofMilliseconds? {n : Int} {m : Moment} (found : ofMilliseconds? n = some m) :
    ¬ m.time.IsStray := by
  rw [ofMilliseconds?, ofSeconds?] at found
  generalize Date.ofDayNumber? _ = date at found
  generalize made : TimeOfDay.ofNumbers? _ _ _ _ = time at found
  split at found
  · cases found
    exact TimeOfDay.not_isStray_of_ofNumbers? made
  · cases found

/-- The years without a sign begin and end with these milliseconds. -/
theorem hasPlainYear_iff {n : Int} {m : Moment} (found : ofMilliseconds? n = some m) :
    m.date.HasPlainYear ↔ -62167219200000 ≤ n ∧ n ≤ 253402300799999 := by
  have number := of_ofSeconds? found
  have first : m.date.year < 0 ↔ m.date.dayNumber < -719528 := m.date.year_lt_iff 0
  have last : m.date.year < 10000 ↔ m.date.dayNumber < 2932897 := m.date.year_lt_iff 10000
  rw [number] at first last
  unfold Date.HasPlainYear
  omega

end Moment
end Calendar

namespace ColumnType

open Calendar

theorem toMoment?_stored (m : Moment) : toMoment? (.ofScalar (Value.moment m).toScalar) =
    if m.date.HasPlainYear then some m.asWritten else none := by
  rw [Value.toScalar, Value.ofScalar, toMoment?, Moment.text, String.toList_ofList,
    Moment.readMoment?_write]

theorem toMoment?_of_cast {value : Value} {m : Moment}
    (read : ColumnType.moment.cast value = .ok (.moment m)) : toMoment? value = some m := by
  rw [cast] at read
  split at read
  · cases read
  · rw [convert?] at read
    cases found : toMoment? value with
    | none =>
        rw [found] at read
        cases read
    | some m' =>
        rw [found] at read
        cases read
        rfl

/-- No stray leap second is read from what the store holds. -/
theorem not_isStray_of_cast {stored : Scalar} {m : Moment}
    (read : ColumnType.moment.cast (.ofScalar stored) = .ok (.moment m)) : ¬ m.time.IsStray := by
  have found := toMoment?_of_cast read
  cases stored with
  | text s => exact Moment.not_isStray_of_readMoment? found
  | integer n => exact Moment.not_isStray_of_ofMilliseconds? found
  | null => cases found
  | real x => cases found
  | bool b => cases found
  | blob bytes => cases found

/-- A moment comes back from the text that is stored for it exactly if its year is written without a
sign; any other moment comes back as its text.  What comes back is the moment that is written: the
moment itself, unless it is a stray leap second, which no stored value is read as.  Moments that are
read from milliseconds have a year without a sign between the start of the year 0 and the end of the
year 9999. -/
theorem cast_stored_moments (m : Moment) :
    (ColumnType.moment.cast (.ofScalar (Value.moment m).toScalar) =
        if m.date.HasPlainYear then .ok (.moment m.asWritten) else .error (.text m.text)) ∧
      (m.asWritten = m ↔ ¬ m.time.IsStray) ∧
      (∀ stored : Scalar, ColumnType.moment.cast (.ofScalar stored) = .ok (.moment m) →
        ¬ m.time.IsStray) ∧
      ∀ n : Int64, ColumnType.moment.cast (.integer n) = .ok (.moment m) →
        (m.date.HasPlainYear ↔ -62167219200000 ≤ n.toInt ∧ n.toInt ≤ 253402300799999) := by
  refine ⟨?_, Moment.asWritten_eq_self_iff, fun _ => not_isStray_of_cast, ?_⟩
  · by_cases plain : m.date.HasPlainYear
    · rw [if_pos plain]
      apply cast_of_convert? rfl
      rw [convert?, toMoment?_stored, if_pos plain, Option.map_some]
    · rw [if_neg plain, cast, convert?, toMoment?_stored, if_neg plain]
      rfl
  · intro n read
    exact Moment.hasPlainYear_iff (toMoment?_of_cast read)

/-- The first millisecond of the year 10000 is a moment, but its text is not. -/
theorem cast_stored_moments_signed :
    let n : Int64 := 253402300800000
    let m : Moment := ⟨⟨10000, 1, 1, by decide, by decide, by decide⟩, .midnight⟩
    ColumnType.moment.cast (.integer n) = .ok (.moment m) ∧
      ColumnType.moment.cast (.ofScalar (Value.moment m).toScalar) =
        .error (.text "+10000-01-01T00:00:00Z") := by
  intro n m
  have found : Moment.ofMilliseconds? n.toInt = some m := by decide
  have read : ColumnType.moment.cast (.integer n) = .ok (.moment m) := by
    apply cast_of_convert? rfl
    rw [convert?, toMoment?, found, Option.map_some]
  have text : m.text = "+10000-01-01T00:00:00Z" := by decide
  rcases cast_stored_moments m with ⟨stored, _, _, range⟩
  have signed : ¬ m.date.HasPlainYear := fun plain => absurd ((range n read).mp plain) (by decide)
  rw [if_neg signed, text] at stored
  exact ⟨read, stored⟩

end ColumnType
end DocumentQuery
