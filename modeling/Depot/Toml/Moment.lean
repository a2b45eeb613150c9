import Depot.Calendar.Date
import Depot.Text.Decimal
import Depot.Toml.Basic

/-!
# TOML dates and times

A date, a time of day, or both, the latter with or without an offset. They are kept as text in one spelling:
`T` between date and time, `Z` or a signed offset that is never minus zero, and a fraction of at most nine
digits that does not end in zero. How large hours and minutes may be depends on where a moment stands.
-/

namespace Depot

namespace Toml

/-- The largest numbers that a moment may have in a place. -/
structure MomentLimits where
  hour : Nat
  offsetHour : Nat
  offsetMinute : Nat
deriving DecidableEq, Repr

/-- The largest numbers of a moment that is written as itself. -/
def plainLimits : MomentLimits := ⟨23, 23, 59⟩

/-- The most minutes by which an offset may differ from UTC. -/
def maxOffset : Nat := 1440

/-- Reads `count` digits and the number that they stand for. -/
def readFixed? (count : Nat) (text : List Char) : Option (Nat × List Char) :=
  if (text.take count).length = count then
    (Decimal.read? (text.take count)).map fun n => (n, text.drop count)
  else none

/-- Reads two digits of a number that is at most `most`. -/
def readPair? (most : Nat) (text : List Char) : Option (Nat × List Char) :=
  (readFixed? 2 text).filter fun found => found.1 ≤ most

/-- Reads a known character. -/
def readMark? (c : Char) : List Char → Option (List Char)
  | d :: rest => if c = d then some rest else none
  | [] => none

/-- Reads a date that exists. -/
def readDate? (text : List Char) : Option (String × List Char) := do
  let (year, text) ← readFixed? 4 text
  let text ← readMark? '-' text
  let (month, text) ← readFixed? 2 text
  let text ← readMark? '-' text
  let (day, text) ← readFixed? 2 text
  if Date.Exists ⟨year, month, day⟩ then
    some (padded 4 year ++ "-" ++ padded 2 month ++ "-" ++ padded 2 day, text)
  else none

/-- The fraction of a second as it is kept. -/
def fractionText (digits : List Char) : String :=
  let kept := ((digits.take 9).reverse.dropWhile (· = '0')).reverse
  if kept = [] then "" else String.ofList ('.' :: kept)

/-- Reads the fraction of a second, if there is one. -/
def readSecondFraction (text : List Char) : String × List Char :=
  match text with
  | '.' :: rest =>
    if rest.takeWhile Char.isDigit = [] then ("", text)
    else (fractionText (rest.takeWhile Char.isDigit), rest.dropWhile Char.isDigit)
  | _ => ("", text)

/-- Reads a time of day. -/
def readTime? (limits : MomentLimits) (text : List Char) : Option (String × List Char) := do
  let (hour, text) ← readPair? limits.hour text
  let text ← readMark? ':' text
  let (minute, text) ← readPair? 59 text
  let text ← readMark? ':' text
  let (second, text) ← readPair? 60 text
  let (fraction, text) := readSecondFraction text
  some (padded 2 hour ++ ":" ++ padded 2 minute ++ ":" ++ padded 2 second ++ fraction, text)

/-- Reads hours and minutes of an offset behind its sign; too many minutes are kept as hours. -/
def readOffset? (limits : MomentLimits) (negative : Bool) (text : List Char) :
    Option (String × List Char) := do
  let (hour, text) ← readPair? limits.offsetHour text
  let text ← readMark? ':' text
  let (minute, text) ← readPair? limits.offsetMinute text
  let offset := 60 * hour + minute
  let sign := if negative ∧ 0 < offset then "-" else "+"
  if offset ≤ maxOffset then some (sign ++ padded 2 (offset / 60) ++ ":" ++ padded 2 (offset % 60), text)
  else none

/-- Reads an offset, if there is one. -/
def readZone (limits : MomentLimits) (text : List Char) : String × List Char :=
  match text with
  | 'Z' :: rest | 'z' :: rest => ("Z", rest)
  | '+' :: rest => (readOffset? limits false rest).getD ("", text)
  | '-' :: rest => (readOffset? limits true rest).getD ("", text)
  | _ => ("", text)

/-- A character that may stand between a date and a time. -/
def isSeparator (c : Char) : Bool :=
  c = 'T' || c = 't' || c = ' '

/-- Reads the time that follows a date, if there is one. -/
def readTimeAfterDate (limits : MomentLimits) (text : List Char) : String × List Char :=
  match text with
  | [] => ("", [])
  | c :: rest =>
    match if isSeparator c then readTime? limits rest else none with
    | none => ("", text)
    | some (time, rest) =>
      let (zone, rest) := readZone limits rest
      ("T" ++ time ++ zone, rest)

/-- Reads a date, a time, or both. -/
def readMoment? (limits : MomentLimits) (text : List Char) : Option (Toml × List Char) :=
  match readDate? text with
  | some (date, rest) =>
    let (time, rest) := readTimeAfterDate limits rest
    some (.moment (date ++ time), rest)
  | none => (readTime? limits text).map fun (time, rest) => (.moment time, rest)

end Toml

end Depot
