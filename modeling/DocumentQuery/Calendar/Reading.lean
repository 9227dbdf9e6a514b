import DocumentQuery.Calendar.Moment
import DocumentQuery.Decimal.Reading
import DocumentQuery.Text.Blank

namespace DocumentQuery
namespace Calendar

/-!
# Dates and times read from text

A form is a list of items, read one after the other.  A number may have blanks before it
and fewer digits than it usually has, and the fraction of a second may be missing; nothing
may follow the last item.  Moments are also read in the internet form, with fields of
fixed width and a distance from universal time.
-/

inductive Item where
  | year
  | month
  | day
  | hour
  | minute
  | second
  | literal (c : Char)
  | blanks
  | fraction
deriving Repr, DecidableEq

structure Numbers where
  year : Int := 0
  month : Nat := 0
  day : Nat := 0
  hour : Nat := 0
  minute : Nat := 0
  second : Nat := 0
  nanosecond : Nat := 0
deriving Repr, DecidableEq

/-- Split off the digits at the start of a text, at most `limit` of them. -/
def splitDigits : Nat → List Char → List Char × List Char
  | 0, s => ([], s)
  | _ + 1, [] => ([], [])
  | limit + 1, c :: rest =>
    if Text.isDigit c then
      let (digits, after) := splitDigits limit rest
      (c :: digits, after)
    else ([], c :: rest)

/-- A number of at least one and at most `limit` digits. -/
def number? (limit : Nat) (s : List Char) : Option (Nat × List Char) :=
  let (digits, rest) := splitDigits limit s
  (Decimal.natural? digits).map fun n => (n, rest)

/-- A year: up to four digits, or any number of digits after a sign. -/
def year? : List Char → Option (Int × List Char)
  | '-' :: s => (number? s.length s).map fun (n, rest) => (-(n : Int), rest)
  | '+' :: s => (number? s.length s).map fun (n, rest) => ((n : Int), rest)
  | s => (number? 4 s).map fun (n, rest) => ((n : Int), rest)

/-- A number of one or two digits after any blanks. -/
def twoDigits? (s : List Char) : Option (Nat × List Char) :=
  number? 2 (Text.trimStart s)

/-- The nanoseconds that the digits of a fraction stand for; only nine of them count. -/
def fraction? (s : List Char) : Option (Nat × List Char) :=
  let (digits, rest) := splitDigits 9 s
  (Decimal.natural? digits).map fun n =>
    (n * Nat.pow 10 (9 - digits.length), rest.dropWhile Text.isDigit)

def Item.read? (item : Item) (n : Numbers) (s : List Char) : Option (Numbers × List Char) :=
  match item with
  | .year => (year? (Text.trimStart s)).map fun (v, rest) => ({ n with year := v }, rest)
  | .month => (twoDigits? s).map fun (v, rest) => ({ n with month := v }, rest)
  | .day => (twoDigits? s).map fun (v, rest) => ({ n with day := v }, rest)
  | .hour => (twoDigits? s).map fun (v, rest) => ({ n with hour := v }, rest)
  | .minute => (twoDigits? s).map fun (v, rest) => ({ n with minute := v }, rest)
  | .second => (twoDigits? s).map fun (v, rest) => ({ n with second := v }, rest)
  | .literal c =>
    match s with
    | d :: rest => if d = c then some (n, rest) else none
    | [] => none
  | .blanks => some (n, Text.trimStart s)
  | .fraction =>
    match s with
    | '.' :: digits => (fraction? digits).map fun (v, rest) => ({ n with nanosecond := v }, rest)
    | _ => some (n, s)

/-- Read the items of a form, to the end of the text. -/
def readItems? : List Item → Numbers → List Char → Option Numbers
  | [], n, s => if s.isEmpty then some n else none
  | item :: items, n, s => (item.read? n s).bind fun (n, rest) => readItems? items n rest

def Numbers.date? (n : Numbers) : Option Date :=
  Date.ofNumbers? n.year n.month n.day

/-- The time with these numbers; second 60 is the leap second. -/
def Numbers.time? (n : Numbers) : Option TimeOfDay :=
  if n.second = 60 then TimeOfDay.ofNumbers? n.hour n.minute 59 (n.nanosecond + 1000000000)
  else TimeOfDay.ofNumbers? n.hour n.minute n.second n.nanosecond

def Numbers.moment? (n : Numbers) : Option Moment :=
  match n.date?, n.time? with
  | some date, some time => some ⟨date, time⟩
  | _, _ => none

/-- Year, month and day. -/
def dateForm : List Item :=
  [.year, .literal '-', .month, .literal '-', .day]

/-- Hour and minute. -/
def minuteForm : List Item :=
  [.hour, .literal ':', .minute]

/-- Hour, minute and second with an optional fraction. -/
def secondForm : List Item :=
  minuteForm ++ [.literal ':', .second, .fraction]

/-- The forms of a moment, in the order in which they are tried. -/
def momentForms : List (List Item) :=
  [dateForm ++ .blanks :: secondForm, dateForm ++ .literal 'T' :: secondForm,
   dateForm ++ .blanks :: minuteForm]

/-- The forms of a time of day, in the order in which they are tried. -/
def timeForms : List (List Item) :=
  [secondForm, minuteForm]

/-! ## The internet form -/

/-- A number of exactly `width` digits. -/
def fixed? (width : Nat) (s : List Char) : Option (Nat × List Char) :=
  let (digits, rest) := splitDigits width s
  if digits.length = width then (Decimal.natural? digits).map fun n => (n, rest) else none

def separator? (c : Char) : List Char → Option (List Char)
  | d :: rest => if d = c then some rest else none
  | [] => none

/-- The distance from universal time in minutes, at the end of the text: the letter Z, or a
sign with hours and minutes.  The sign may be a hyphen or a minus sign. -/
def offset? (s : List Char) : Option Int :=
  match s with
  | [] => none
  | sign :: rest =>
    if sign = 'Z' || sign = 'z' then if rest.isEmpty then some 0 else none
    else do
      let direction : Int ←
        if sign = '+' then some 1 else if sign = '-' || sign = '\u2212' then some (-1) else none
      let (hours, rest) ← fixed? 2 rest
      let rest ← separator? ':' rest
      let (minutes, rest) ← fixed? 2 rest
      if rest.isEmpty && hours < 24 && minutes < 60 then
        some (direction * (60 * hours + minutes))
      else none

def internetMoment? (s : List Char) : Option Moment := do
  let (year, s) ← fixed? 4 s
  let s ← separator? '-' s
  let (month, s) ← fixed? 2 s
  let s ← separator? '-' s
  let (day, s) ← fixed? 2 s
  let s ← match s with
    | c :: rest => if c = 'T' || c = 't' || c = ' ' then some rest else none
    | [] => none
  let (hour, s) ← fixed? 2 s
  let s ← separator? ':' s
  let (minute, s) ← fixed? 2 s
  let s ← separator? ':' s
  let (second, s) ← fixed? 2 s
  let (nanosecond, s) ← match s with
    | '.' :: digits => fraction? digits
    | _ => some (0, s)
  let offset ← offset? s
  let shown ← Numbers.moment?
    ⟨year, month, day, hour, minute, second, nanosecond⟩
  shown.minusMinutes? offset

/-! ## Texts of columns -/

/-- The moment that a text gives: the internet form, then the forms of a moment, then a
date, which stands for its midnight. -/
def readMoment? (s : List Char) : Option Moment :=
  let s := Text.trim s
  (internetMoment? s).or <|
    (momentForms.findSome? fun form => (readItems? form {} s).bind Numbers.moment?).or <|
      ((readItems? dateForm {} s).bind Numbers.date?).map fun date => ⟨date, .midnight⟩

/-- The date that a text gives, alone or as the date of a moment. -/
def readDate? (s : List Char) : Option Date :=
  ((readItems? dateForm {} (Text.trim s)).bind Numbers.date?).or
    ((readMoment? s).map Moment.date)

/-- The time of day that a text gives, alone or as the time of a moment. -/
def readTime? (s : List Char) : Option TimeOfDay :=
  (timeForms.findSome? fun form => (readItems? form {} (Text.trim s)).bind Numbers.time?).or
    ((readMoment? s).map Moment.time)

end Calendar
end DocumentQuery
