import DocumentQuery.Proofs.Calendar.Chronology
import DocumentQuery.Value.Cast

namespace DocumentQuery
namespace Calendar

open Decimal

/-!
# Stored dates and times are read back

Columns of dates and times hold texts.  Every date is read back from its text as it was, with years
of any number of digits.  So is every time of day, with leap seconds at the end of any minute.  A
stray leap second is written as the second behind it, and that is what is read.

The digits of a number end where its field does, or at something that is no digit.  The numbers of a
date and a time are therefore read in front of any text that begins with neither a digit nor a point,
which is what the forms of moments need as well.
-/

/-- No digit comes first. -/
def Stops (s : List Char) : Prop :=
  ∀ c ∈ s.head?, Text.isDigit c = false

theorem stops_cons {c : Char} (rest : List Char) (notDigit : Text.isDigit c = false) :
    Stops (c :: rest) := by
  intro d first
  rw [List.head?_cons, Option.mem_some_iff] at first
  exact first ▸ notDigit

/-! ## Numbers -/

/-- Digits are split off up to the limit or up to something else. -/
theorem splitDigits_append {limit : Nat} {digits rest : List Char}
    (every : ∀ c ∈ digits, Text.isDigit c = true) (fits : digits.length ≤ limit)
    (ends : digits.length = limit ∨ Stops rest) :
    splitDigits limit (digits ++ rest) = (digits, rest) := by
  induction digits generalizing limit with
  | nil =>
      rcases limit with _ | limit
      · rfl
      have stops : Stops rest := ends.resolve_left (Nat.succ_ne_zero limit).symm
      rcases rest with _ | ⟨c, rest⟩
      · rfl
      rw [List.nil_append, splitDigits, stops c rfl]
      rfl
  | cons c digits inductionHypothesis =>
      rcases limit with _ | limit
      · exact absurd fits (Nat.not_succ_le_zero _)
      have later := inductionHypothesis (fun d member => every d (List.mem_cons_of_mem c member))
        (Nat.le_of_succ_le_succ fits) (ends.imp_left Nat.succ.inj)
      rw [List.cons_append, splitDigits, every c List.mem_cons_self, later]
      rfl

theorem splitDigits_padded {limit width n : Nat} {rest : List Char}
    (fits : (padded width n).length ≤ limit)
    (ends : (padded width n).length = limit ∨ Stops rest) :
    splitDigits limit (padded width n ++ rest) = (padded width n, rest) :=
  splitDigits_append (fun _ member => isDigit_of_mem_padded member) fits ends

theorem number?_padded {limit width n : Nat} {rest : List Char}
    (fits : (padded width n).length ≤ limit)
    (ends : (padded width n).length = limit ∨ Stops rest) :
    number? limit (padded width n ++ rest) = some (n, rest) := by
  rw [number?, splitDigits_padded fits ends]
  exact congrArg (Option.map _) (natural?_padded width n)

/-- A number that fills its field is read from it, whatever follows. -/
theorem fixed?_padded {width n : Nat} (places : 0 < width) (fits : n < 10 ^ width)
    (rest : List Char) : fixed? width (padded width n ++ rest) = some (n, rest) := by
  have length_eq := length_padded_of_lt places fits
  rw [fixed?, splitDigits_padded length_eq.le (.inl length_eq)]
  exact (if_pos length_eq).trans (congrArg (Option.map _) (natural?_padded width n))

/-- The ranges of blanks leave the digits out. -/
theorem not_isBlank_of_isDigit {c : Char} (digit : Text.isDigit c = true) :
    Text.isBlank c = false := by
  rw [Text.isDigit, Bool.and_eq_true, decide_eq_true_eq, decide_eq_true_eq] at digit
  have lower : 48 ≤ c.toNat := digit.1
  have upper : c.toNat ≤ 57 := digit.2
  simp only [Text.isBlank, Text.inRanges, Text.blankRanges, List.any_cons, List.any_nil,
    Bool.or_false, Bool.or_eq_false_iff, Bool.and_eq_false_imp, decide_eq_true_eq,
    decide_eq_false_iff_not, not_le]
  omega

theorem not_isBlank_of_mem_padded {width n : Nat} {c : Char} (member : c ∈ padded width n) :
    Text.isBlank c = false :=
  not_isBlank_of_isDigit (isDigit_of_mem_padded member)

theorem trimStart_cons {c : Char} (rest : List Char) (notBlank : Text.isBlank c = false) :
    Text.trimStart (c :: rest) = c :: rest := by
  rw [Text.trimStart, List.dropWhile_cons, notBlank]
  rfl

theorem trimStart_padded (width n : Nat) (rest : List Char) :
    Text.trimStart (padded width n ++ rest) = padded width n ++ rest := by
  rcases List.exists_cons_of_ne_nil (padded_ne_nil width n) with ⟨c, digits, text⟩
  have first : c ∈ padded width n := text ▸ List.mem_cons_self
  rw [text, List.cons_append, trimStart_cons _ (not_isBlank_of_mem_padded first)]

theorem twoDigits?_padded {n : Nat} (fits : n < 10 ^ 2) (rest : List Char) :
    twoDigits? (padded 2 n ++ rest) = some (n, rest) := by
  have length_eq := length_padded_of_lt (by decide) fits
  rw [twoDigits?, trimStart_padded, number?_padded length_eq.le (.inl length_eq)]

/-- A year with four digits is read without a sign. -/
theorem year?_padded {n : Nat} (fits : n < 10 ^ 4) (rest : List Char) :
    year? (padded 4 n ++ rest) = some ((n : Int), rest) := by
  have length_eq := length_padded_of_lt (by decide) fits
  have read : number? 4 (padded 4 n ++ rest) = some (n, rest) :=
    number?_padded length_eq.le (.inl length_eq)
  have unsigned (c : Char) (s : List Char) (sign : Text.isDigit c = false) :
      padded 4 n ++ rest ≠ c :: s := by
    rcases List.exists_cons_of_ne_nil (padded_ne_nil 4 n) with ⟨d, digits, text⟩
    have digit : Text.isDigit d = true := isDigit_of_mem_padded (text ▸ List.mem_cons_self)
    rw [text, List.cons_append]
    intro same
    rw [(List.cons.inj same).1, sign] at digit
    exact Bool.false_ne_true digit
  rw [year?, read]
  · rfl
  · exact fun s => unsigned '-' s rfl
  · exact fun s => unsigned '+' s rfl

/-- The digits behind a sign are read up to something else. -/
theorem number?_signed (n : Nat) {rest : List Char} (stops : Stops rest) :
    number? (padded 4 n ++ rest).length (padded 4 n ++ rest) = some (n, rest) :=
  number?_padded (by rw [List.length_append]; omega) (.inr stops)

/-- A year is read with its sign, if it has one. -/
theorem year?_writeYear (year : Int) {rest : List Char} (stops : Stops rest) :
    year? (Text.trimStart (Date.writeYear year ++ rest)) = some (year, rest) := by
  rw [Date.writeYear]
  by_cases plain : 0 ≤ year ∧ year ≤ 9999
  · rw [if_pos plain, trimStart_padded, year?_padded (by omega), Int.natAbs_of_nonneg plain.1]
  · rw [if_neg plain, List.cons_append]
    by_cases negative : year < 0
    · have value : -(year.natAbs : Int) = year := by omega
      rw [if_pos negative, trimStart_cons _ (by decide), year?, number?_signed _ stops]
      exact congrArg (fun y => some (y, rest)) value
    · have value : (year.natAbs : Int) = year := by omega
      rw [if_neg negative, trimStart_cons _ (by decide), year?, number?_signed _ stops]
      exact congrArg (fun y => some (y, rest)) value

/-- The digits of a fraction stand for nanoseconds. -/
theorem fraction?_padded {width n : Nat} (short : width ≤ 9)
    (length_eq : (padded width n).length = width) {rest : List Char} (stops : Stops rest) :
    fraction? (padded width n ++ rest) = some (n * 10 ^ (9 - width), rest) := by
  have digitsEnd : rest.dropWhile Text.isDigit = rest := by
    rcases rest with _ | ⟨c, rest⟩
    · rfl
    · rw [List.dropWhile_cons, stops c rfl]
      rfl
  rw [fraction?, splitDigits_padded (length_eq.symm ▸ short) (.inr stops)]
  change (natural? (padded width n)).map _ = _
  rw [natural?_padded, Option.map_some, digitsEnd, length_eq]
  rfl

/-! ## Items -/

/-- What a time is followed by: the end of the text, or something that is no part of a fraction. -/
def StopsTime (s : List Char) : Prop :=
  ∀ c ∈ s.head?, Text.isDigit c = false ∧ c ≠ '.'

/-- A fraction is read from its text, and nothing where none is written. -/
theorem read?_fraction {f : Nat} (fits : f < 1000000000) {n : Numbers} (new : n.nanosecond = 0)
    {rest : List Char} (stops : StopsTime rest) :
    Item.fraction.read? n (TimeOfDay.writeFraction f ++ rest) =
      some ({ n with nanosecond := f }, rest) := by
  rw [writeFraction_eq]
  by_cases zero : f = 0
  · rw [if_pos zero, List.nil_append, Item.read?]
    · rw [zero, ← new]
    · intro digits point
      subst point
      exact (stops '.' rfl).2 rfl
  · have width := length_padded_of_lt (places_pos zero) (div_lt_places fits)
    rw [if_neg zero, List.cons_append, Item.read?,
      fraction?_padded (places_le f) width fun c first => (stops c first).1, Option.map_some,
      mul_div_places]

theorem readItems?_cons {item : Item} {items : List Item} {n n' : Numbers} {s rest : List Char}
    (read : item.read? n s = some (n', rest)) :
    readItems? (item :: items) n s = readItems? items n' rest := by
  rw [readItems?, read]
  rfl

theorem readItems?_nil (n : Numbers) : readItems? [] n [] = some n :=
  rfl

theorem readItems?_literal (c : Char) (items : List Item) (n : Numbers) (rest : List Char) :
    readItems? (.literal c :: items) n (c :: rest) = readItems? items n rest := by
  apply readItems?_cons
  rw [Item.read?, if_pos rfl]

/-- A form that begins with a date takes the text of a date. -/
theorem readItems?_date (d : Date) (items : List Item) (n : Numbers) (rest : List Char) :
    readItems? (dateForm ++ items) n (d.write ++ rest) =
      readItems? items { n with year := d.year, month := d.month, day := d.day } rest := by
  have month := twoDigits?_padded d.month_lt_hundred
  have day := twoDigits?_padded d.day_lt_hundred
  simp only [Date.write_eq, dateForm, List.append_assoc, List.cons_append, List.nil_append]
  rw [readItems?_cons (by rw [Item.read?, year?_writeYear _ (stops_cons _ rfl)]; rfl),
    readItems?_literal, readItems?_cons (by rw [Item.read?, month]; rfl), readItems?_literal,
    readItems?_cons (by rw [Item.read?, day]; rfl)]

/-- The numbers that are read from the text of a time. -/
def TimeOfDay.shown (t : TimeOfDay) (n : Numbers) : Numbers :=
  { n with
    hour := t.hour, minute := t.minute, second := t.second + t.nanosecond / 1000000000,
    nanosecond := t.nanosecond % 1000000000 }

/-- A form that begins with a time with seconds takes the text of a time. -/
theorem readItems?_time (t : TimeOfDay) (items : List Item) {n : Numbers} (new : n.nanosecond = 0)
    {rest : List Char} (stops : StopsTime rest) :
    readItems? (secondForm ++ items) n (t.write ++ rest) = readItems? items (t.shown n) rest := by
  have hour := twoDigits?_padded (t.hour_lt.trans (by decide : 24 < 10 ^ 2))
  have minute := twoDigits?_padded (t.minute_lt.trans (by decide : 60 < 10 ^ 2))
  have second := twoDigits?_padded t.shown_lt
  simp only [TimeOfDay.write_eq, secondForm, minuteForm, List.append_assoc, List.cons_append,
    List.nil_append]
  rw [readItems?_cons (by rw [Item.read?, hour]; rfl), readItems?_literal,
    readItems?_cons (by rw [Item.read?, minute]; rfl), readItems?_literal,
    readItems?_cons (by rw [Item.read?, second]; rfl)]
  exact readItems?_cons (read?_fraction (Nat.mod_lt _ (by decide)) (by exact new) stops)

namespace TimeOfDay

theorem second_of_not_isStray {t : TimeOfDay} (notStray : ¬ t.IsStray)
    (leap : 1000000000 ≤ t.nanosecond) : t.second = 59 :=
  of_not_not fun notLast => notStray ⟨leap, notLast⟩

theorem ofNumbers?_self {t : TimeOfDay} (notStray : ¬ t.IsStray) :
    ofNumbers? t.hour t.minute t.second t.nanosecond = some t :=
  dif_pos ⟨⟨t.hour_lt, t.minute_lt, t.second_lt, t.nanosecond_lt⟩, second_of_not_isStray notStray⟩

/-- No stray leap second is made from numbers. -/
theorem not_isStray_of_ofNumbers? {hour minute second nanosecond : Nat} {t : TimeOfDay}
    (made : ofNumbers? hour minute second nanosecond = some t) : ¬ t.IsStray := by
  rw [ofNumbers?] at made
  split at made
  · rename_i valid
    cases made
    exact fun stray => stray.2 (valid.2 stray.1)
  · cases made

theorem not_isStray_asWritten (t : TimeOfDay) : ¬ t.asWritten.IsStray := by
  by_cases stray : t.IsStray
  · intro stray'
    have late := stray'.1
    have nanosecond := t.nanosecond_lt
    rw [nanosecond_asWritten stray] at late
    omega
  · rw [asWritten_of_not_isStray stray]
    exact stray

/-- A time is written as another one exactly if it is a stray leap second. -/
theorem asWritten_eq_self_iff {t : TimeOfDay} : t.asWritten = t ↔ ¬ t.IsStray := by
  constructor
  · intro same stray
    have later := secondOfDay_asWritten stray
    rw [same] at later
    exact Nat.succ_ne_self _ later.symm
  · exact asWritten_of_not_isStray

end TimeOfDay

/-- The numbers in the text of a time are those of the time; second 60 is the leap second. -/
theorem time?_shown {t : TimeOfDay} (notStray : ¬ t.IsStray) (n : Numbers) :
    (t.shown n).time? = some t := by
  have second := t.second_lt
  have nanosecond := t.nanosecond_lt
  change (if t.second + t.nanosecond / 1000000000 = 60 then
    TimeOfDay.ofNumbers? t.hour t.minute 59 (t.nanosecond % 1000000000 + 1000000000)
    else TimeOfDay.ofNumbers? t.hour t.minute (t.second + t.nanosecond / 1000000000)
      (t.nanosecond % 1000000000)) = some t
  by_cases leap : 1000000000 ≤ t.nanosecond
  · have last := TimeOfDay.second_of_not_isStray notStray leap
    have all : t.nanosecond % 1000000000 + 1000000000 = t.nanosecond := by omega
    rw [if_pos (by omega), all, ← last]
    exact TimeOfDay.ofNumbers?_self notStray
  · have plain : t.second + t.nanosecond / 1000000000 = t.second := by omega
    have all : t.nanosecond % 1000000000 = t.nanosecond := by omega
    rw [if_neg (by omega), plain, all]
    exact TimeOfDay.ofNumbers?_self notStray

/-! ## Blanks -/

/-- A text without blanks is not trimmed. -/
theorem trim_of_notBlank {s : List Char} (notBlank : ∀ c ∈ s, Text.isBlank c = false) :
    Text.trim s = s := by
  have kept {t : List Char} (all : ∀ c ∈ t, Text.isBlank c = false) :
      t.dropWhile Text.isBlank = t := by
    rcases t with _ | ⟨c, t⟩
    · rfl
    · exact trimStart_cons t (all c List.mem_cons_self)
  rw [Text.trim, kept notBlank, kept fun c member => notBlank c (List.mem_reverse.mp member),
    List.reverse_reverse]

theorem Date.notBlank_write (d : Date) {c : Char} (member : c ∈ d.write) :
    Text.isBlank c = false := by
  rw [write_eq, List.mem_append, List.mem_cons, List.mem_append, List.mem_cons] at member
  rcases member with year | rfl | month | rfl | day
  · rw [writeYear] at year
    split at year
    · exact not_isBlank_of_mem_padded year
    · rcases List.mem_cons.mp year with sign | digit
      · rw [sign]
        split <;> decide
      · exact not_isBlank_of_mem_padded digit
  · decide
  · exact not_isBlank_of_mem_padded month
  · decide
  · exact not_isBlank_of_mem_padded day

theorem TimeOfDay.notBlank_write (t : TimeOfDay) {c : Char} (member : c ∈ t.write) :
    Text.isBlank c = false := by
  rw [write_eq, List.mem_append, List.mem_cons, List.mem_append, List.mem_cons, List.mem_append]
    at member
  rcases member with hour | rfl | minute | rfl | second | fraction
  · exact not_isBlank_of_mem_padded hour
  · decide
  · exact not_isBlank_of_mem_padded minute
  · decide
  · exact not_isBlank_of_mem_padded second
  · rw [writeFraction_eq] at fraction
    split at fraction
    · exact nomatch fraction
    · rcases List.mem_cons.mp fraction with rfl | digit
      · decide
      · exact not_isBlank_of_mem_padded digit

/-! ## Dates and times -/

theorem stopsTime_nil : StopsTime [] :=
  fun _ first => nomatch first

theorem readDate?_write (d : Date) : readDate? d.write = some d := by
  have read := readItems?_date d [] {} []
  rw [List.append_nil, List.append_nil, readItems?_nil] at read
  rw [readDate?, trim_of_notBlank fun _ => d.notBlank_write, read, Option.bind_some, Numbers.date?,
    d.ofNumbers?_self, Option.some_or]

theorem readTime?_write (t : TimeOfDay) : readTime? t.write = some t.asWritten := by
  have read := readItems?_time t.asWritten [] (n := {}) rfl stopsTime_nil
  rw [List.append_nil, List.append_nil, readItems?_nil, t.write_asWritten] at read
  rw [readTime?, trim_of_notBlank fun _ => t.notBlank_write, timeForms, List.findSome?_cons, read,
    Option.bind_some, time?_shown t.not_isStray_asWritten, Option.some_or]

end Calendar

namespace ColumnType

open Calendar

variable {type : ColumnType} {value : Value}

theorem cast_of_convert? {converted : Value} (notNull : value.isNull = false)
    (found : type.convert? value = some converted) : type.cast value = .ok converted := by
  rw [cast, notNull, found]
  rfl

theorem toDate?_stored (d : Date) : toDate? (.ofScalar (Value.date d).toScalar) = some d := by
  rw [Value.toScalar, Value.ofScalar, toDate?, Date.text, String.toList_ofList, readDate?_write]

theorem toTime?_stored (t : TimeOfDay) :
    toTime? (.ofScalar (Value.time t).toScalar) = some t.asWritten := by
  rw [Value.toScalar, Value.ofScalar, toTime?, TimeOfDay.text, String.toList_ofList,
    readTime?_write]

theorem cast_stored_time (t : TimeOfDay) :
    ColumnType.time.cast (.ofScalar (Value.time t).toScalar) = .ok (.time t.asWritten) := by
  apply cast_of_convert? rfl
  rw [convert?, toTime?_stored, Option.map_some]

/-- A date is read back from the text that is stored for it.  From the text of a time the time that
is written is read: the time itself, unless it is a stray leap second. -/
theorem cast_stored_dates_times (d : Date) (t : TimeOfDay) :
    ColumnType.date.cast (.ofScalar (Value.date d).toScalar) = .ok (.date d) ∧
      ColumnType.time.cast (.ofScalar (Value.time t).toScalar) = .ok (.time t.asWritten) ∧
      (ColumnType.time.cast (.ofScalar (Value.time t).toScalar) = .ok (.time t) ↔ ¬ t.IsStray) := by
  refine ⟨?_, cast_stored_time t, ?_⟩
  · apply cast_of_convert? rfl
    rw [convert?, toDate?_stored, Option.map_some]
  · rw [cast_stored_time, Except.ok.injEq, Value.time.injEq, TimeOfDay.asWritten_eq_self_iff]

/-- A leap second after second 4 comes back in second 5. -/
theorem cast_stored_times_stray :
    let t : TimeOfDay := ⟨23, 56, 4, 1333333333, by decide, by decide, by decide, by decide⟩
    let later : TimeOfDay := ⟨23, 56, 5, 333333333, by decide, by decide, by decide, by decide⟩
    ColumnType.time.cast (.ofScalar (Value.time t).toScalar) = .ok (.time later) ∧
      ColumnType.time.cast (.ofScalar (Value.time t).toScalar) ≠ .ok (.time t) := by
  intro t later
  have written : t.asWritten = later := by decide
  have other : later ≠ t := by decide
  rw [cast_stored_time, written]
  exact ⟨rfl, fun same => other (Value.time.inj (Except.ok.inj same))⟩

end ColumnType
end DocumentQuery
