import Depot.Number.Power
import Depot.Proofs.Text.Plain
import Depot.Text.Decimal

/-!
# Written numbers

Numbers are told apart by their digits (`decimal_injective`). A number that is filled up with zeros on the left
is read back (`Decimal.read?_padded`), and it has exactly the width asked for if it is small enough
(`length_padded`).
-/

namespace Depot

theorem decimal_injective {m n : Nat} (same : decimal m = decimal n) : m = n := by
  have read := Decimal.read?_decimal m
  rw [same, Decimal.read?_decimal] at read
  exact (Option.some.inj read).symm

/-- No positive number begins with a zero. -/
theorem Decimal.head?_decimal {n : Nat} (pos : 0 < n) : (decimal n).toList.head? ≠ some '0' := by
  rw [toList_decimal]
  induction n using Nat.strongRecOn with
  | ind n ih =>
    by_cases small : n < 10
    · have digits : ∀ d < 10, 0 < d → (Nat.toDigits 10 d).head? ≠ some '0' := by decide
      exact digits n small pos
    · have front := ih (n / 10) (by omega) (by omega)
      rw [Nat.toDigits_of_base_le (by decide) (Nat.le_of_not_lt small), List.head?_append]
      cases first : (Nat.toDigits 10 (n / 10)).head? with
      | none => exact absurd (List.head?_eq_none_iff.1 first) Nat.toDigits_ne_nil
      | some d => rwa [first] at front

theorem isDigit_of_mem_padded {width n : Nat} {c : Char} (member : c ∈ (padded width n).toList) :
    c.isDigit = true := by
  rw [padded, String.toList_ofList, List.mem_append] at member
  rcases member with zero | digit
  · rw [List.eq_of_mem_replicate zero]
    rfl
  · exact Nat.isDigit_of_mem_toDigits (by decide) (by decide) digit

theorem length_padded {width n : Nat} (pos : 0 < width) (small : n < tenTo width) :
    (padded width n).toList.length = width := by
  have fits := (Nat.length_toDigits_le_iff (by decide) pos).2 small
  rw [padded, String.toList_ofList, List.length_append, List.length_replicate]
  omega

/-- Zeros on the left do not change the number that is read. -/
theorem Decimal.read?_padded (width n : Nat) : Decimal.read? (padded width n).toList = some n := by
  have digits : (padded width n).toList.all Char.isDigit = true :=
    List.all_eq_true.2 fun _ member => isDigit_of_mem_padded member
  have nonempty : (padded width n).toList ≠ [] := by
    rw [padded, String.toList_ofList]
    exact List.append_ne_nil_of_right_ne_nil _ Nat.toDigits_ne_nil
  rw [Decimal.read?, if_pos ⟨nonempty, digits⟩, padded, String.toList_ofList, Nat.ofDigitChars_append,
    Nat.ofDigitChars_replicate_zero, Nat.mul_zero, Nat.ofDigitChars_ten_toDigits]

theorem isPlainText_padded (width n : Nat) : IsPlainText (padded width n) :=
  fun _ member => .of_isDigit (isDigit_of_mem_padded member)

theorem isPlain_digitChar (n : Nat) : IsPlain n.digitChar := by
  by_cases digit : n < 16
  · have digits : ∀ d < 16, IsPlain d.digitChar := by decide
    exact digits n digit
  · rw [Nat.digitChar_eq_star.2 (Nat.le_of_not_lt digit)]
    decide

theorem isPlainText_decimal (n : Nat) : IsPlainText (decimal n) :=
  fun _ member => .of_isDigit (Decimal.isDigit_of_mem_decimal member)

end Depot
