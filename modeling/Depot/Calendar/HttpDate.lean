import Depot.Calendar.Moment

/-!
# HTTP dates

The dates of HTTP have whole seconds and lie in the years 1970 to 9999. `HttpDate.render?` writes the
preferred form, `HttpDate.read?` accepts that form and the two older ones, with ASCII blanks around it.
A reading is taken only if its date exists and falls on the weekday that it names.
-/

namespace Depot

namespace HttpDate

/-- The second at which the year 10000 begins. -/
def limit : Nat := 253402300800

/-- The text of a second since 1970 in the preferred form, if its year has four digits. -/
def render? (secs : Int) : Option String :=
  if 0 ≤ secs ∧ secs < limit then
    let day := secs / secondsPerDay
    let date := Date.ofDay day
    let time := TimeOfDay.ofSecond (secs % secondsPerDay).toNat
    some (weekdayNames.getD (Date.weekday day) "" ++ ", " ++ padded 2 date.day ++ " "
      ++ monthNames.getD (date.month - 1) "" ++ " " ++ padded 4 date.year.toNat ++ " "
      ++ time.text ++ " GMT")
  else none

/-- What the characters of a date say, before anything is checked against the calendar. -/
structure Reading where
  weekday : Nat
  date : Date
  time : TimeOfDay
deriving DecidableEq, Repr

/-- The position of a name in a list of names. -/
def indexOf? (names : List String) (name : List Char) : Option Nat :=
  names.findIdx? fun known => known.toList = name

/-- Reads `Sun, 06 Nov 1994 08:49:37 GMT`. -/
def readFixed? : List Char → Option Reading
  | [w₁, w₂, w₃, ',', ' ', d₁, d₂, ' ', m₁, m₂, m₃, ' ', y₁, y₂, y₃, y₄, ' ',
      h₁, h₂, ':', n₁, n₂, ':', s₁, s₂, ' ', 'G', 'M', 'T'] => do
    let weekday ← indexOf? weekdayNames [w₁, w₂, w₃]
    let day ← Decimal.read? [d₁, d₂]
    let month ← indexOf? monthNames [m₁, m₂, m₃]
    let year ← Decimal.read? [y₁, y₂, y₃, y₄]
    let hour ← Decimal.read? [h₁, h₂]
    let minute ← Decimal.read? [n₁, n₂]
    let second ← Decimal.read? [s₁, s₂]
    some ⟨weekday, ⟨year, month + 1, day⟩, ⟨hour, minute, second⟩⟩
  | _ => none

/-- Two digits name the nearer century: from 70 on the twentieth, else the twenty-first. -/
def fullYear (short : Nat) : Nat :=
  if short < 70 then short + 2000 else short + 1900

/-- Reads what follows the weekday in `Sunday, 06-Nov-94 08:49:37 GMT`. -/
def readAfterWeekday? (weekday : Nat) : List Char → Option Reading
  | [',', ' ', d₁, d₂, '-', m₁, m₂, m₃, '-', y₁, y₂, ' ',
      h₁, h₂, ':', n₁, n₂, ':', s₁, s₂, ' ', 'G', 'M', 'T'] => do
    let day ← Decimal.read? [d₁, d₂]
    let month ← indexOf? monthNames [m₁, m₂, m₃]
    let year ← Decimal.read? [y₁, y₂]
    let hour ← Decimal.read? [h₁, h₂]
    let minute ← Decimal.read? [n₁, n₂]
    let second ← Decimal.read? [s₁, s₂]
    some ⟨weekday, ⟨fullYear year, month + 1, day⟩, ⟨hour, minute, second⟩⟩
  | _ => none

/-- Reads `Sunday, 06-Nov-94 08:49:37 GMT`. -/
def readLong? (text : List Char) : Option Reading := do
  let weekday ← indexOf? weekdayLongNames (text.takeWhile (· ≠ ','))
  readAfterWeekday? weekday (text.dropWhile (· ≠ ','))

/-- Reads a day in two columns, the first of which may be blank. -/
def readColumns? (tens ones : Char) : Option Nat :=
  if tens = ' ' then Decimal.read? [ones] else Decimal.read? [tens, ones]

/-- Reads `Sun Nov  6 08:49:37 1994`. -/
def readColumnar? : List Char → Option Reading
  | [w₁, w₂, w₃, ' ', m₁, m₂, m₃, ' ', d₁, d₂, ' ',
      h₁, h₂, ':', n₁, n₂, ':', s₁, s₂, ' ', y₁, y₂, y₃, y₄] => do
    let weekday ← indexOf? weekdayNames [w₁, w₂, w₃]
    let month ← indexOf? monthNames [m₁, m₂, m₃]
    let day ← readColumns? d₁ d₂
    let hour ← Decimal.read? [h₁, h₂]
    let minute ← Decimal.read? [n₁, n₂]
    let second ← Decimal.read? [s₁, s₂]
    let year ← Decimal.read? [y₁, y₂, y₃, y₄]
    some ⟨weekday, ⟨year, month + 1, day⟩, ⟨hour, minute, second⟩⟩
  | _ => none

namespace Reading

/-- The reading is a second of the years 1970 to 9999, on the right weekday. -/
def Exists (r : Reading) : Prop :=
  r.date.Exists ∧ r.time.Exists ∧ 1970 ≤ r.date.year ∧ r.date.year ≤ 9999
    ∧ r.weekday = Date.weekday r.date.dayNumber

instance (r : Reading) : Decidable r.Exists :=
  inferInstanceAs (Decidable (_ ∧ _ ∧ _ ∧ _ ∧ _))

/-- The second since 1970 that the reading denotes. -/
def secs (r : Reading) : Int :=
  r.date.dayNumber * secondsPerDay + r.time.toSecond

end Reading

/-- The characters that may surround a date: space, tab, line feed, vertical tab, form feed, return. -/
def isBlank (c : Char) : Bool :=
  c.toNat = 32 || (9 ≤ c.toNat && c.toNat ≤ 13)

/-- The text without the blanks at its two ends. -/
def trim (text : List Char) : List Char :=
  ((text.dropWhile isBlank).reverse.dropWhile isBlank).reverse

/-- The second since 1970 that a text denotes in one of the three forms. -/
def read? (text : String) : Option Int :=
  if text.toList.all fun c => c.toNat < 128 then
    let body := trim text.toList
    let reading? := (readFixed? body).or ((readLong? body).or (readColumnar? body))
    reading?.bind fun reading => if reading.Exists then some reading.secs else none
  else none

end HttpDate

end Depot
