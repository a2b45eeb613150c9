/-!
# Digits of a base up to 16

Numbers below 16 as digits, which are written in lower case and read in either case, and runs of digits in a
base of at most 16.
-/

namespace Depot

/-- The digit for a number below 16, in lower case. -/
def hexDigit (n : Nat) : Char :=
  Nat.digitChar n

/-- The number that a digit of either case stands for. -/
def hexValue? (c : Char) : Option Nat :=
  if '0' ≤ c ∧ c ≤ '9' then some (c.toNat - '0'.toNat)
  else if 'a' ≤ c ∧ c ≤ 'f' then some (c.toNat - 'a'.toNat + 10)
  else if 'A' ≤ c ∧ c ≤ 'F' then some (c.toNat - 'A'.toNat + 10)
  else none

/-- Reading a written digit gives the number back. -/
theorem hexValue?_hexDigit : ∀ n < 16, hexValue? (hexDigit n) = some n := by
  decide

theorem hexValue?_lt {c : Char} {n : Nat} (value : hexValue? c = some n) : n < 16 := by
  unfold hexValue? at value
  split at value
  · rename_i range
    obtain rfl := Option.some.inj value
    have : c.toNat ≤ '9'.toNat := range.2
    have : '9'.toNat = 57 := rfl
    have : '0'.toNat = 48 := rfl
    omega
  · split at value
    · rename_i range
      obtain rfl := Option.some.inj value
      have : c.toNat ≤ 'f'.toNat := range.2
      have : 'f'.toNat = 102 := rfl
      have : 'a'.toNat = 97 := rfl
      omega
    · split at value
      · rename_i range
        obtain rfl := Option.some.inj value
        have : c.toNat ≤ 'F'.toNat := range.2
        have : 'F'.toNat = 70 := rfl
        have : 'A'.toNat = 65 := rfl
        omega
      · simp at value

/-- The value of a digit in base `radix`. -/
def digitIn? (radix : Nat) (c : Char) : Option Nat :=
  (hexValue? c).filter (· < radix)

/-- The number that a run of digits stands for. -/
def valueIn (radix : Nat) (digits : List Char) : Nat :=
  digits.foldl (fun n c => radix * n + (digitIn? radix c).getD 0) 0

end Depot
