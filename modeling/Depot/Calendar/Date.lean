import Depot.Number.Power

/-!
# Calendar dates

Dates of the Gregorian calendar, extended without end in both directions, counted in days from the first
of January 1970. `Date.ofDay` finds the date of a day and `Date.day` the day of a date. Years are found
inside one cycle of 400 years, after which the calendar repeats.
-/

namespace Depot

/-- The year has a twenty-ninth of February. -/
def isLeapYear (year : Int) : Bool :=
  year % 4 = 0 && (year % 100 ≠ 0 || year % 400 = 0)

/-- The number of days of a year. -/
def yearLength (year : Int) : Nat :=
  if isLeapYear year then 366 else 365

/-- The lengths of the twelve months of a year. -/
def monthLengths (year : Int) : List Nat :=
  [31, if isLeapYear year then 29 else 28, 31, 30, 31, 30, 31, 31, 30, 31, 30, 31]

/-- The number of days from the first of January of year 0 to that of the given year. -/
def daysBeforeYear (year : Int) : Int :=
  365 * year + (year + 3) / 4 - (year + 99) / 100 + (year + 399) / 400

/-- The number of days from the first of January of year 0 to that of 1970. -/
def epochDay : Int := 719528

/-- The number of days after which the calendar repeats. -/
def cycleLength : Int := 146097

theorem yearLength_pos (year : Int) : 0 < yearLength year := by
  unfold yearLength
  split <;> decide

/-- One year leads to the next. -/
theorem daysBeforeYear_succ (year : Int) :
    daysBeforeYear (year + 1) = daysBeforeYear year + yearLength year := by
  unfold daysBeforeYear yearLength isLeapYear
  split <;> rename_i leap <;> simp at leap <;> omega

theorem daysBeforeYear_cycle (cycle : Int) : daysBeforeYear (400 * cycle) = cycleLength * cycle := by
  unfold daysBeforeYear cycleLength
  omega

/-- A day of the calendar; months and days count from 1. -/
structure Date where
  year : Int
  month : Nat
  day : Nat
deriving DecidableEq, Repr

namespace Date

/-- The year and the day of the year that lie `rest` days after the first of January of `year`. -/
def splitYears (year : Int) (rest : Nat) : Int × Nat :=
  if rest < yearLength year then (year, rest)
  else splitYears (year + 1) (rest - yearLength year)
termination_by rest
decreasing_by
  have := yearLength_pos year
  omega

/-- The month and the day of the month that lie `rest` days after the first of month `month`. -/
def splitMonths (month rest : Nat) : List Nat → Nat × Nat
  | [] => (month, rest)
  | length :: later =>
    if rest < length then (month, rest) else splitMonths (month + 1) (rest - length) later

/-- The date of the day that lies `n` days after the first of January 1970. -/
def ofDay (n : Int) : Date :=
  let cycle := (n + epochDay) / cycleLength
  let (year, rest) := splitYears (400 * cycle) ((n + epochDay) % cycleLength).toNat
  let (month, offset) := splitMonths 1 rest (monthLengths year)
  ⟨year, month, offset + 1⟩

/-- The number of days from the first of January 1970 to the date. -/
def dayNumber (d : Date) : Int :=
  daysBeforeYear d.year + ((monthLengths d.year).take (d.month - 1)).sum + (d.day - 1 : Nat) - epochDay

/-- The month and the day exist in the year. -/
def Exists (d : Date) : Prop :=
  1 ≤ d.month ∧ 1 ≤ d.day ∧ ∃ length ∈ (monthLengths d.year)[d.month - 1]?, d.day ≤ length

instance (d : Date) : Decidable d.Exists :=
  inferInstanceAs (Decidable (_ ∧ _ ∧ _))

/-- The day of the week, from 0 for Sunday to 6 for Saturday. -/
def weekday (n : Int) : Nat :=
  ((n + 4) % 7).toNat

end Date

/-- The short names of the months, in order. -/
def monthNames : List String :=
  ["Jan", "Feb", "Mar", "Apr", "May", "Jun", "Jul", "Aug", "Sep", "Oct", "Nov", "Dec"]

/-- The short names of the days of the week, from Sunday on. -/
def weekdayNames : List String :=
  ["Sun", "Mon", "Tue", "Wed", "Thu", "Fri", "Sat"]

/-- The full names of the days of the week, from Sunday on. -/
def weekdayLongNames : List String :=
  ["Sunday", "Monday", "Tuesday", "Wednesday", "Thursday", "Friday", "Saturday"]

end Depot
