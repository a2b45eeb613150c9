/-!
# Decimal numerals

Natural numbers as ASCII digits. `decimal` writes without leading zeros, `padded` fills up to a width
with zeros, and `Decimal.read?` takes any non-empty run of digits, so that leading zeros are allowed.
`Decimal.read?_decimal` says that reading undoes writing.
-/

namespace Depot

/-- The decimal digits of a number, without leading zeros. -/
def decimal (n : Nat) : String :=
  n.repr

/-- The decimal digits of a number, filled up with zeros on the left to at least `width` characters. -/
def padded (width n : Nat) : String :=
  String.ofList (List.replicate (width - (Nat.toDigits 10 n).length) '0' ++ Nat.toDigits 10 n)

namespace Decimal

/-- The number that a non-empty run of ASCII digits denotes. -/
def read? (digits : List Char) : Option Nat :=
  if digits ≠ [] ∧ digits.all Char.isDigit then some (Nat.ofDigitChars 10 digits 0) else none

theorem toList_decimal (n : Nat) : (decimal n).toList = Nat.toDigits 10 n :=
  Nat.toList_repr

theorem isDigit_of_mem_decimal {n : Nat} {c : Char} (member : c ∈ (decimal n).toList) :
    c.isDigit = true := by
  rw [toList_decimal] at member
  exact Nat.isDigit_of_mem_toDigits (by decide) (by decide) member

theorem decimal_ne_nil (n : Nat) : (decimal n).toList ≠ [] := by
  rw [toList_decimal]
  exact Nat.toDigits_ne_nil

/-- Reading the digits of a number gives the number back. -/
theorem read?_decimal (n : Nat) : read? (decimal n).toList = some n := by
  have digits : (decimal n).toList.all Char.isDigit = true :=
    List.all_eq_true.2 fun _ member => isDigit_of_mem_decimal member
  rw [read?, if_pos ⟨decimal_ne_nil n, digits⟩, toList_decimal,
    Nat.ofDigitChars_toDigits (by decide) (by decide)]

end Decimal

end Depot
