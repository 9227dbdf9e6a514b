import DocumentQuery.Decimal.Layout

namespace DocumentQuery
namespace Calendar

/-!
# Dates

Dates of the Gregorian calendar, continued without end before its introduction and with a
year zero.  Dates are counted from the first of January 1970, and written as year, month
and day; a year that does not have four digits is written with a sign.
-/

def firstYear : Int := -262143

def lastYear : Int := 262142

/-- Every fourth year is a leap year, except every hundredth, except every four
hundredth. -/
def isLeapYear (year : Int) : Bool :=
  year % 4 == 0 && (year % 100 != 0 || year % 400 == 0)

def daysInMonth (year : Int) (month : Nat) : Nat :=
  if month = 2 then if isLeapYear year then 29 else 28
  else if month = 4 || month = 6 || month = 9 || month = 11 then 30
  else 31

structure Date where
  year : Int
  month : Nat
  day : Nat
  year_mem : firstYear ≤ year ∧ year ≤ lastYear
  month_mem : 1 ≤ month ∧ month ≤ 12
  day_mem : 1 ≤ day ∧ day ≤ daysInMonth year month
deriving Repr, DecidableEq

namespace Date

/-- The date with these numbers, if there is one. -/
def ofNumbers? (year : Int) (month day : Nat) : Option Date :=
  if valid : (firstYear ≤ year ∧ year ≤ lastYear) ∧ (1 ≤ month ∧ month ≤ 12) ∧
      1 ≤ day ∧ day ≤ daysInMonth year month then
    some ⟨year, month, day, valid.1, valid.2.1, valid.2.2⟩
  else none

/-- The month and the day of the month, `days` days after the first day of a month and
counting on through the months in the list. -/
def monthAndDay (year : Int) (days : Nat) : List Nat → Option (Nat × Nat)
  | [] => none
  | month :: later =>
    if days < daysInMonth year month then some (month, days + 1)
    else monthAndDay year (days - daysInMonth year month) later

/-- The year and the number of days before in that year, for a date that is a number of
days after the first of January of the year one.  The 400 years of a cycle have 146097
days, and the last century of a cycle and the last year of a group of four may be one day
longer than the others. -/
def yearAndDay (days : Int) : Int × Nat :=
  let cycle := days / 146097
  let inCycle := (days % 146097).toNat
  let century := min (inCycle / 36524) 3
  let inCentury := inCycle - century * 36524
  let four := inCentury / 1461
  let inFour := inCentury % 1461
  let single := min (inFour / 365) 3
  (400 * cycle + (100 * century + 4 * four + single + 1 : Nat), inFour - single * 365)

/-- The date a number of days after the first of January 1970. -/
def ofDayNumber? (days : Int) : Option Date :=
  let (year, day) := yearAndDay (days + 719162)
  (monthAndDay year day [1, 2, 3, 4, 5, 6, 7, 8, 9, 10, 11, 12]).bind fun (month, day) =>
    ofNumbers? year month day

/-- Days from the first of January 1970 to a date. -/
def dayNumber (d : Date) : Int :=
  let before := d.year - 1
  let months := (List.range (d.month - 1)).foldl (fun days i => days + daysInMonth d.year (i + 1)) 0
  365 * before + before / 4 - before / 100 + before / 400 + (months + d.day : Nat) - 719163

/-- A year: four digits, or a sign and at least four digits. -/
def writeYear (year : Int) : List Char :=
  if 0 ≤ year ∧ year ≤ 9999 then Decimal.padded 4 year.natAbs
  else (if year < 0 then '-' else '+') :: Decimal.padded 4 year.natAbs

/-- Year, month and day with hyphens between them. -/
def write (d : Date) : List Char :=
  writeYear d.year ++ '-' :: Decimal.padded 2 d.month ++ '-' :: Decimal.padded 2 d.day

def text (d : Date) : String :=
  String.ofList d.write

end Date
end Calendar
end DocumentQuery
