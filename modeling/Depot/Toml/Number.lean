import Depot.Number.Power
import Depot.Text.Hexadecimal
import Depot.Toml.Basic

/-!
# TOML numbers

Integers of 64 bits in four bases, and doubles. One underline may stand between two digits.
-/

namespace Depot

namespace Toml

/-- Reads further digits of a number. -/
def moreDigits? (radix : Nat) : List Char → Option (List Char × List Char)
  | [] => some ([], [])
  | '_' :: c :: rest =>
    if (digitIn? radix c).isSome then
      (moreDigits? radix rest).map fun (digits, rest) => (c :: digits, rest)
    else none
  | c :: rest =>
    if (digitIn? radix c).isSome then
      (moreDigits? radix rest).map fun (digits, rest) => (c :: digits, rest)
    else if c = '_' then none
    else some ([], c :: rest)

/-- Reads the digits of a number. -/
def readDigits? (radix : Nat) : List Char → Option (List Char × List Char)
  | c :: rest =>
    if (digitIn? radix c).isSome then
      (moreDigits? radix rest).map fun (digits, rest) => (c :: digits, rest)
    else none
  | [] => none

/-- Reads the digits before the point; only a zero that stands alone comes first. -/
def readWhole? : List Char → Option (List Char × List Char)
  | '0' :: rest => some (['0'], rest)
  | text => readDigits? 10 text

/-- Reads the digits behind a point, if there is a point. -/
def readFraction? : List Char → Option (List Char × List Char)
  | '.' :: rest => readDigits? 10 rest
  | text => some ([], text)

/-- Reads a sign; the flag says whether it is a minus. -/
def readSign : List Char → Bool × List Char
  | '-' :: rest => (true, rest)
  | '+' :: rest => (false, rest)
  | text => (false, text)

/-- A number with its sign. -/
def signed (negative : Bool) (n : Nat) : Int :=
  if negative then -n else n

/-- Reads the power of ten that follows, if there is one. -/
def readExponent? (text : List Char) : Option (Option Int × List Char) :=
  match text with
  | c :: rest =>
    if c = 'e' ∨ c = 'E' then
      let (negative, rest) := readSign rest
      (readDigits? 10 rest).map fun (digits, rest) => (some (signed negative (valueIn 10 digits)), rest)
    else some (none, text)
  | [] => some (none, [])

/-- The integer, if it has 64 bits. -/
def integer? (n : Int) : Option Toml :=
  if -(signedBound : Int) ≤ n ∧ n < signedBound then some (.integer n) else none

/-- The double nearest to a decimal, unless it is too large. -/
def float? (negative : Bool) (digits : List Char) (exponent : Int) : Option Toml :=
  match SignedDouble.ofDecimal negative (valueIn 10 digits) exponent with
  | .infinite false => none
  | d => some (.float d)

/-- Reads a decimal number behind its sign. -/
def readDecimal? (negative : Bool) (text : List Char) : Option (Toml × List Char) := do
  let (whole, text) ← readWhole? text
  let (fraction, text) ← readFraction? text
  let (exponent, text) ← readExponent? text
  let value ←
    if fraction = [] ∧ exponent = none then integer? (signed negative (valueIn 10 whole))
    else float? negative (whole ++ fraction) (exponent.getD 0 - fraction.length)
  some (value, text)

/-- Reads an integer of another base. -/
def readInteger? (radix : Nat) (text : List Char) : Option (Toml × List Char) := do
  let (digits, text) ← readDigits? radix text
  let value ← integer? (valueIn radix digits)
  some (value, text)

/-- Reads a number. -/
def readNumber? (text : List Char) : Option (Toml × List Char) :=
  match text with
  | '0' :: 'x' :: rest => readInteger? 16 rest
  | '0' :: 'o' :: rest => readInteger? 8 rest
  | '0' :: 'b' :: rest => readInteger? 2 rest
  | _ =>
    let (negative, rest) := readSign text
    match rest with
    | 'i' :: 'n' :: 'f' :: rest => some (.float (.infinite negative), rest)
    | 'n' :: 'a' :: 'n' :: rest => some (.float .notANumber, rest)
    | _ => readDecimal? negative rest

end Toml

end Depot
