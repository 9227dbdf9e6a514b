import DocumentQuery.Calendar.Date
import DocumentQuery.Calendar.TimeOfDay

namespace DocumentQuery
namespace Calendar

/-!
# Moments

A moment is a time of day on a date, in universal time.  Stored integers count
milliseconds from the start of the year 1970.
-/

/-- A date and a time of day in universal time. -/
structure Moment where
  date : Date
  time : TimeOfDay
deriving Repr, DecidableEq

namespace Moment

/-- The moment at a second of a day, if the day is in the calendar. -/
def ofSeconds? (day : Int) (second nanosecond : Nat) : Option Moment :=
  match Date.ofDayNumber? day,
    TimeOfDay.ofNumbers? (second / 3600) (second / 60 % 60) (second % 60) nanosecond with
  | some date, some time => some ⟨date, time⟩
  | _, _ => none

/-- The moment a number of milliseconds after the start of the year 1970. -/
def ofMilliseconds? (n : Int) : Option Moment :=
  let seconds := n / 1000
  ofSeconds? (seconds / 86400) (seconds % 86400).toNat ((n % 1000).toNat * 1000000)

/-- The moment a number of minutes earlier.  Minutes leave a leap second what it is. -/
def minusMinutes? (m : Moment) (minutes : Int) : Option Moment :=
  let total : Int := 60 * m.time.hour + m.time.minute - minutes
  have inDay : (total % 1440).toNat < 1440 := by omega
  (Date.ofDayNumber? (m.date.dayNumber + total / 1440)).map fun date =>
    ⟨date, m.time.atMinute (total % 1440).toNat inDay⟩

/-- Date and time with the letter T between them and the letter Z at the end. -/
def write (m : Moment) : List Char :=
  m.date.write ++ 'T' :: m.time.write ++ ['Z']

def text (m : Moment) : String :=
  String.ofList m.write

end Moment
end Calendar
end DocumentQuery
