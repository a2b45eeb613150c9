import Depot.Number.Power
import Depot.Number.Rounding
import Depot.Text.Decimal

/-!
# Doubles

Non-negative binary numbers with 53 significant bits and an exponent of at least -1074, in exact
arithmetic. `Double.nearest` rounds a quotient to such a number, `Double.fixed` prints one with a fixed
number of places; both give an exact half to the even neighbour.
-/

namespace Depot

/-- The number `significand * 2 ^ exponent`. -/
structure Double where
  significand : Nat
  exponent : Int
deriving DecidableEq, Repr

namespace Double

/-- The number of significant bits. -/
def precision : Nat := 53

/-- The least exponent. -/
def minExponent : Int := -1074

/-- The numerator of `num / den / 2 ^ exponent`. -/
def scaledNum (num : Nat) (exponent : Int) : Nat :=
  num * twoTo (-exponent).toNat

/-- The denominator of `num / den / 2 ^ exponent`. -/
def scaledDen (den : Nat) (exponent : Int) : Nat :=
  den * twoTo exponent.toNat

/-- The exponent at which `num / den` has the significant bits that there are, or the least exponent. -/
def exponentFor (num den : Nat) : Int :=
  let guess : Int := num.log2 - den.log2 - (precision - 1 : Nat)
  let exact := if scaledNum num guess < twoTo (precision - 1) * scaledDen den guess then guess - 1 else guess
  max exact minExponent

/-- The double nearest to `num / den`, whatever its size; of two the one with the even significand. -/
def nearest (num den : Nat) : Double :=
  if num = 0 then ⟨0, minExponent⟩
  else
    let exponent := exponentFor num den
    let significand := roundEven (scaledNum num exponent) (scaledDen den exponent)
    if significand = twoTo precision then ⟨twoTo (precision - 1), exponent + 1⟩ else ⟨significand, exponent⟩

/-- The double nearest to a natural number. -/
def ofNat (n : Nat) : Double :=
  nearest n 1

/-- The number as a numerator and a denominator. -/
def ratio (d : Double) : Nat × Nat :=
  (scaledDen d.significand d.exponent, scaledNum 1 d.exponent)

/-- The double nearest to a product. -/
def mul (a b : Double) : Double :=
  nearest (a.ratio.1 * b.ratio.1) (a.ratio.2 * b.ratio.2)

/-- The double nearest to a quotient. -/
def div (a b : Double) : Double :=
  nearest (a.ratio.1 * b.ratio.2) (a.ratio.2 * b.ratio.1)

/-- The number has no place among the doubles because it is too large. -/
def Overflows (d : Double) : Prop :=
  twoTo 1024 * d.ratio.2 ≤ d.ratio.1

instance (d : Double) : Decidable d.Overflows :=
  inferInstanceAs (Decidable (_ ≤ _))

/-- The number with `places` digits after the point. -/
def fixed (places : Nat) (d : Double) : String :=
  let scaled := roundEven (d.ratio.1 * tenTo places) d.ratio.2
  decimal (scaled / tenTo places) ++ "." ++ padded places (scaled % tenTo places)

end Double

end Depot
