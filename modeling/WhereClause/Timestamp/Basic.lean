/-!
# Timestamps

Dates with a time of day, without a time zone.

The calendar is the Gregorian one, continued in both directions past the
years it was in force. A time of day goes down to nanoseconds. A second may
be a leap second: it is kept as a longer second 59, whose nanoseconds run on
past a whole second, so the fields need no case of their own for it and the
order of the fields is the order of time.

That the fields name a date that exists and a time of day is part of the
type.

## Main definitions

* `Timestamp.isLeap`, `Timestamp.daysIn`: The calendar.
* `Timestamp.Valid`: Which fields name a date and a time.
* `Timestamp`: A date with a time of day.
* `Timestamp.ofFields?`: The timestamp with given fields, if they name one.
* `Timestamp.clock`: The second and the nanoseconds a clock would show.
-/

namespace WhereClause

namespace Timestamp

/-- Whether a year has a 29th of February. -/
def isLeap (year : Int) : Bool :=
  year % 4 = 0 && (year % 100 ≠ 0 || year % 400 = 0)

/-- The number of days of a month. -/
def daysIn (year : Int) (month : Nat) : Nat :=
  if month = 2 then if isLeap year then 29 else 28
  else if month = 4 || month = 6 || month = 9 || month = 11 then 30
  else 31

/-- The first year there are timestamps of. -/
def firstYear : Int := -262143

/-- The last year there are timestamps of. -/
def lastYear : Int := 262142

/-- The nanoseconds of a second. -/
def second : Nat := 1000000000

/-- Whether fields name a date of the calendar and a time of day. Only the
    last second of a minute may be a leap second. -/
def Valid (year : Int) (month day hour minute sec nano : Nat) : Prop :=
  (firstYear ≤ year ∧ year ≤ lastYear) ∧ (1 ≤ month ∧ month ≤ 12) ∧
    (1 ≤ day ∧ day ≤ daysIn year month) ∧ hour < 24 ∧ minute < 60 ∧ sec < 60 ∧
    (nano < second ∨ (sec = 59 ∧ nano < 2 * second))

instance (year : Int) (month day hour minute sec nano : Nat) :
    Decidable (Valid year month day hour minute sec nano) :=
  inferInstanceAs (Decidable (_ ∧ _))

end Timestamp

/-- A date of the calendar with a time of day. -/
structure Timestamp where
  year : Int
  month : Nat
  day : Nat
  hour : Nat
  minute : Nat
  sec : Nat
  nano : Nat
  valid : Timestamp.Valid year month day hour minute sec nano
deriving DecidableEq, Repr

namespace Timestamp

/-- The timestamp with these fields, if there is one. -/
def ofFields? (year : Int) (month day hour minute sec nano : Nat) : Option Timestamp :=
  if h : Valid year month day hour minute sec nano then
    some ⟨year, month, day, hour, minute, sec, nano, h⟩
  else none

/-- The second and the nanoseconds that a clock shows, which counts a leap
    second as second 60. -/
def clock (t : Timestamp) : Nat × Nat :=
  if t.nano < second then (t.sec, t.nano) else (t.sec + 1, t.nano - second)

/-- The fields of a timestamp give it back. -/
theorem ofFields?_self (t : Timestamp) :
    ofFields? t.year t.month t.day t.hour t.minute t.sec t.nano = some t := by
  simp only [ofFields?, t.valid, dif_pos]

end Timestamp

end WhereClause
