import Depot.Calendar.Date
import Depot.Text.Decimal

/-!
# Moments

A `Moment` is a point in time with nanoseconds, counted from the first of January 1970, UTC. A `Stamp` is
a moment read off a clock that is ahead of UTC by a whole number of minutes. `Stamp.common` and
`Stamp.rfc3339` are the two forms in which access lines show it.
-/

namespace Depot

/-- The number of seconds of a day. -/
def secondsPerDay : Nat := 86400

/-- A point in time: whole seconds since 1970, rounded down, and the nanoseconds on top. -/
structure Moment where
  secs : Int
  nanos : Nat := 0
deriving DecidableEq, Repr

/-- The hours, minutes and seconds of a second of a day. -/
structure TimeOfDay where
  hour : Nat
  minute : Nat
  second : Nat
deriving DecidableEq, Repr

namespace TimeOfDay

/-- The clock reading at a second of a day. -/
def ofSecond (n : Nat) : TimeOfDay :=
  ⟨n / 3600, n / 60 % 60, n % 60⟩

/-- The second of the day at a clock reading. -/
def toSecond (t : TimeOfDay) : Nat :=
  3600 * t.hour + 60 * t.minute + t.second

/-- The reading appears on a clock. -/
def Exists (t : TimeOfDay) : Prop :=
  t.hour < 24 ∧ t.minute < 60 ∧ t.second < 60

instance (t : TimeOfDay) : Decidable t.Exists :=
  inferInstanceAs (Decidable (_ ∧ _ ∧ _))

theorem toSecond_ofSecond (n : Nat) : (ofSecond n).toSecond = n := by
  simp only [ofSecond, toSecond]
  omega

/-- The reading as `hh:mm:ss`. -/
def text (t : TimeOfDay) : String :=
  padded 2 t.hour ++ ":" ++ padded 2 t.minute ++ ":" ++ padded 2 t.second

end TimeOfDay

/-- A moment and the number of seconds by which the local clock is ahead of UTC. -/
structure Stamp where
  moment : Moment
  offset : Int := 0
deriving DecidableEq, Repr

namespace Stamp

/-- The number of seconds since 1970 that the local clock shows. -/
def localSecs (s : Stamp) : Int :=
  s.moment.secs + s.offset

/-- The date that the local clock shows. -/
def date (s : Stamp) : Date :=
  Date.ofDay (s.localSecs / secondsPerDay)

/-- The time of day that the local clock shows. -/
def timeOfDay (s : Stamp) : TimeOfDay :=
  TimeOfDay.ofSecond (s.localSecs % secondsPerDay).toNat

/-- A year in four digits; outside `0..9999` a sign and at least four digits. -/
def yearText (year : Int) : String :=
  if year < 0 then "-" ++ padded 4 year.natAbs
  else if year ≤ 9999 then padded 4 year.toNat
  else "+" ++ padded 4 year.toNat

/-- The offset from UTC as sign, hours and minutes, with `between` in the middle. -/
def offsetText (between : String) (s : Stamp) : String :=
  let minutes := s.offset.natAbs / 60
  (if s.offset < 0 then "-" else "+") ++ padded 2 (minutes / 60) ++ between ++ padded 2 (minutes % 60)

/-- The fraction of a second in 0, 3, 6 or 9 digits, the fewest that are exact. -/
def fractionText (nanos : Nat) : String :=
  if nanos = 0 then ""
  else if nanos % 1000000 = 0 then "." ++ padded 3 (nanos / 1000000)
  else if nanos % 1000 = 0 then "." ++ padded 6 (nanos / 1000)
  else "." ++ padded 9 nanos

/-- The form `14/Nov/2023:22:13:20 +0000`. -/
def common (s : Stamp) : String :=
  padded 2 s.date.day ++ "/" ++ monthNames.getD (s.date.month - 1) "" ++ "/" ++ yearText s.date.year
    ++ ":" ++ s.timeOfDay.text ++ " " ++ s.offsetText ""

/-- The form `2023-11-14T22:13:20.5+00:00`. -/
def rfc3339 (s : Stamp) : String :=
  yearText s.date.year ++ "-" ++ padded 2 s.date.month ++ "-" ++ padded 2 s.date.day ++ "T"
    ++ s.timeOfDay.text ++ fractionText s.moment.nanos ++ s.offsetText ":"

end Stamp

end Depot
