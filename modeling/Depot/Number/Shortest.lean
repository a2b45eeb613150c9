import Depot.Number.Double

/-!
# Shortest decimals

`Double.shortest` gives the fewest decimal digits that lie nearer to a double than to any other, and among
those the nearest to it. `Double.positional` writes them without an exponent.
-/

namespace Depot

namespace Double

/-- `c * 10 ^ p` compared with `k` quarters of a unit in the last place. -/
def compareDecimal (d : Double) (c : Nat) (p : Int) (k : Nat) : Ordering :=
  compare (c * tenTo p.toNat * twoTo (2 - d.exponent).toNat)
    (k * twoTo (d.exponent - 2).toNat * tenTo (-p).toNat)

/-- The quarters of a unit between which decimals are nearer to the number than to any other. Below a power
of two the next number is only half as far. -/
def bounds (d : Double) : Nat × Nat :=
  let lower := if d.significand = twoTo (precision - 1) ∧ minExponent < d.exponent then 1 else 2
  (4 * d.significand - lower, 4 * d.significand + 2)

/-- A decimal is nearer to the number than to any other; a decimal in the middle goes to the even number. -/
def accepts (d : Double) (c : Nat) (p : Int) : Bool :=
  let (low, high) := d.bounds
  let above := d.compareDecimal c p low
  let below := d.compareDecimal c p high
  if d.significand % 2 = 0 then above ≠ .lt && below ≠ .gt else above = .gt && below = .lt

/-- The greatest power of ten, from `power` downwards, that is not greater than the number. -/
def magnitudeFrom (d : Double) : Nat → Int → Int
  | 0, power => power
  | fuel + 1, power =>
    if d.compareDecimal 1 power (4 * d.significand) ≠ .gt then power else d.magnitudeFrom fuel (power - 1)

/-- The power of ten of the first digit of a number other than 0. -/
def magnitude (d : Double) : Int :=
  d.magnitudeFrom 640 309

/-- The multiple of `10 ^ p` just below the number. -/
def floorAt (d : Double) (p : Int) : Nat :=
  (4 * d.significand * twoTo (d.exponent - 2).toNat * tenTo (-p).toNat)
    / (tenTo p.toNat * twoTo (2 - d.exponent).toNat)

/-- Of the two multiples of `10 ^ p` around the number, the nearer that is acceptable. -/
def nearestAt? (d : Double) (p : Int) : Option Nat :=
  let c := d.floorAt p
  let candidates :=
    if d.compareDecimal (2 * c + 1) p (8 * d.significand) = .lt then [c + 1, c] else [c, c + 1]
  candidates.find? fun c => d.accepts c p

/-- Tries more and more digits; 17 are always enough. The first decimal found ends in a zero only if it was
rounded up to a power of ten. -/
def shortestFrom (d : Double) : Nat → Int → Nat × Int
  | 0, p => (d.floorAt p, p)
  | fuel + 1, p =>
    match d.nearestAt? p with
    | some c => if c % 10 = 0 then (c / 10, p + 1) else (c, p)
    | none => d.shortestFrom fuel (p - 1)

/-- The digits of the shortest decimal and the power of ten of the last of them. -/
def shortest (d : Double) : Nat × Int :=
  if d.significand = 0 then (0, 0) else d.shortestFrom 17 d.magnitude

/-- The shortest decimal without an exponent. -/
def positional (d : Double) : String :=
  let (digits, power) := d.shortest
  if 0 ≤ power then decimal (digits * tenTo power.toNat)
  else
    let places := (-power).toNat
    decimal (digits / tenTo places) ++ "." ++ padded places (digits % tenTo places)

end Double

end Depot
