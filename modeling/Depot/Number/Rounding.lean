/-!
# Rounding quotients

`roundEven` rounds a quotient of natural numbers to the nearest whole number; a half goes to the even
neighbour. `roundEven_error` says that the result is never further off than a half.
-/

namespace Depot

/-- The whole number nearest to `num / den`; of two the even one. -/
def roundEven (num den : Nat) : Nat :=
  if 2 * (num % den) < den then num / den
  else if den < 2 * (num % den) then num / den + 1
  else num / den + num / den % 2

/-- The rounded quotient is at most a half away from the exact one. -/
theorem roundEven_error (num : Nat) {den : Nat} (pos : 0 < den) :
    2 * (roundEven num den * den) ≤ 2 * num + den ∧ 2 * num ≤ 2 * (roundEven num den * den) + den := by
  have division := Nat.div_add_mod num den
  have small := Nat.mod_lt num pos
  have exact : den * (num / den) = num / den * den := Nat.mul_comm _ _
  unfold roundEven
  split
  · omega
  · split
    · rw [Nat.add_mul]
      omega
    · rcases Nat.mod_two_eq_zero_or_one (num / den) with even | odd
      · rw [even, Nat.add_zero]
        omega
      · rw [odd, Nat.add_mul]
        omega

/-- A quotient without remainder is not changed. -/
theorem roundEven_mul (n : Nat) {den : Nat} (pos : 0 < den) : roundEven (n * den) den = n := by
  simp [roundEven, pos]

end Depot
