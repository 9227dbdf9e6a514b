import DocumentQuery.Decimal.Layout

namespace DocumentQuery
namespace Calendar

/-!
# Times of day

A time of day has nanoseconds.  A leap second is held as the second before it with a second or more
of nanoseconds, and is written as the second behind that one.  It belongs at the end of a minute,
where it is second 60, and no other one is made from numbers; but a time may be given a second or
more of nanoseconds in any second.
-/

structure TimeOfDay where
  hour : Nat
  minute : Nat
  second : Nat
  nanosecond : Nat
  hour_lt : hour < 24
  minute_lt : minute < 60
  second_lt : second < 60
  nanosecond_lt : nanosecond < 2000000000
deriving Repr, DecidableEq

namespace TimeOfDay

/-- The time with these numbers, if there is one.  A leap second is only made after second 59. -/
def ofNumbers? (hour minute second nanosecond : Nat) : Option TimeOfDay :=
  if valid : (hour < 24 ∧ minute < 60 ∧ second < 60 ∧ nanosecond < 2000000000) ∧
      (1000000000 ≤ nanosecond → second = 59) then
    some ⟨hour, minute, second, nanosecond, valid.1.1, valid.1.2.1, valid.1.2.2.1, valid.1.2.2.2⟩
  else none

def midnight : TimeOfDay :=
  ⟨0, 0, 0, 0, by decide, by decide, by decide, by decide⟩

/-- The same second in another minute of the day. -/
def atMinute (t : TimeOfDay) (minute : Nat) (inDay : minute < 1440) : TimeOfDay :=
  { t with
    hour := minute / 60, minute := minute % 60
    hour_lt := by omega
    minute_lt := by omega }

/-- The fraction of a second in as many groups of three digits as it needs. -/
def writeFraction (nanosecond : Nat) : List Char :=
  if nanosecond = 0 then []
  else if nanosecond % 1000000 = 0 then '.' :: Decimal.padded 3 (nanosecond / 1000000)
  else if nanosecond % 1000 = 0 then '.' :: Decimal.padded 6 (nanosecond / 1000)
  else '.' :: Decimal.padded 9 nanosecond

/-- Hour, minute and second with colons between them, and the fraction. -/
def write (t : TimeOfDay) : List Char :=
  let leaps := t.nanosecond / 1000000000
  Decimal.padded 2 t.hour ++ ':' :: Decimal.padded 2 t.minute ++
    ':' :: Decimal.padded 2 (t.second + leaps) ++ writeFraction (t.nanosecond % 1000000000)

def text (t : TimeOfDay) : String :=
  String.ofList t.write

end TimeOfDay
end Calendar
end DocumentQuery
