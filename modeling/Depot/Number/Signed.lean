import Depot.Number.Shortest

/-!
# Signed doubles

Doubles with a sign, the two infinities and what is no number. `SignedDouble.ofDecimal` gives the double
nearest to a decimal, `SignedDouble.text` writes a double with the fewest digits, and
`SignedDouble.toNatural` rounds it to a natural number within bounds.
-/

namespace Depot

/-- A double with a sign, an infinity, or no number. -/
inductive SignedDouble
  | finite (negative : Bool) (magnitude : Double)
  | infinite (negative : Bool)
  | notANumber
deriving DecidableEq, Repr

namespace SignedDouble

/-- A magnitude with its sign, or an infinity if it is too large. -/
def ofMagnitude (negative : Bool) (d : Double) : SignedDouble :=
  if d.Overflows then infinite negative else finite negative d

/-- The double nearest to `digits * 10 ^ exponent`. Exponents far out are settled at once. -/
def ofDecimal (negative : Bool) (digits : Nat) (exponent : Int) : SignedDouble :=
  let size : Int := (Nat.toDigits 10 digits).length
  if digits = 0 ∨ exponent + size < -330 then finite negative (Double.ofNat 0)
  else if 310 < exponent + size then infinite negative
  else
    ofMagnitude negative
      (Double.nearest (digits * tenTo exponent.toNat) (tenTo (-exponent).toNat))

/-- The sign of a text. -/
def signText (negative : Bool) : String :=
  if negative then "-" else ""

/-- The fewest digits that stand for the number, without an exponent. -/
def text : SignedDouble → String
  | finite negative d => signText negative ++ d.positional
  | infinite negative => signText negative ++ "inf"
  | notANumber => "NaN"

/-- The number rounded to the nearest natural number below `bound`; a half goes up. -/
def toNatural (bound : Nat) : SignedDouble → Nat
  | finite true _ | infinite true | notANumber => 0
  | finite false d => min ((2 * d.ratio.1 + d.ratio.2) / (2 * d.ratio.2)) (bound - 1)
  | infinite false => bound - 1

/-- The number is zero. -/
def isZero : SignedDouble → Bool
  | finite _ d => d.significand = 0
  | infinite _ | notANumber => false

end SignedDouble

end Depot
