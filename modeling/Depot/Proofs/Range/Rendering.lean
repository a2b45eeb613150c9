import Depot.Proofs.Range.Meaning

/-!
# Windows written as a header

`Window.spec` and `RangeHeader.text` write windows as a header, with numbers that have no leading zeros. Reading
undoes this (`RangeHeader.windows_text`): from the windows of a set, written in any order, a header that yields the
same set. Nothing but the bound on positions is needed, since the windows of a set do not meet.
-/

namespace Depot

theorem ofDigitChars_decimal (n : Nat) : Nat.ofDigitChars 10 (decimal n).toList 0 = n := by
  rw [Decimal.toList_decimal, Nat.ofDigitChars_toDigits (by decide) (by decide)]

theorem isNumeral_decimal {n : Nat} (small : n < positionBound) : IsNumeral (decimal n).toList :=
  ⟨Decimal.decimal_ne_nil n, fun _ => Decimal.isDigit_of_mem_decimal, (ofDigitChars_decimal n).symm ▸ small⟩

namespace Window

theorem written_spec (w : Window) (small : w.total ≤ positionBound) :
    Spec.Written w.spec.text.toList w.spec := by
  have lastSmall := Nat.lt_of_lt_of_le w.last_lt_total small
  have firstSmall := Nat.lt_of_le_of_lt w.first_le_last lastSmall
  have written := Spec.Written.between (isNumeral_decimal firstSmall) (isNumeral_decimal lastSmall)
  rw [ofDigitChars_decimal, ofDigitChars_decimal] at written
  have text : w.spec.text.toList = (decimal w.first).toList ++ '-' :: (decimal w.last).toList := by
    simp [spec, Spec.text]
  rw [text]
  exact written

/-- The item that is written for a window is resolved to that window. -/
theorem resolve_spec (w : Window) : w.spec.resolve w.total = .ok w := by
  have inside := w.last_lt_total
  have ends : w.spec.ends w.total = (w.first, w.last) := by
    simp only [spec, Spec.ends, Prod.mk.injEq, true_and]
    omega
  simp only [Spec.resolve, ends, dif_neg (Nat.ne_zero_of_lt inside), dif_pos w.first_le_last]

end Window

namespace RangeHeader

theorem names_text {specs : List Spec} (nonempty : specs ≠ [])
    (written : ∀ spec ∈ specs, Spec.Written spec.text.toList spec) : Names (text specs) specs := by
  have items : List.Forall₂ Spec.Written (specs.map fun spec => spec.text.toList) specs := by
    rw [List.forall₂_map_left_iff, List.forall₂_same]
    exact written
  have filled : (specs.map fun spec => spec.text.toList) ≠ [] := mt List.map_eq_nil_iff.1 nonempty
  refine ⟨_, ?_, lists_intercalate items filled⟩
  rw [text, String.toList_append, String.toList_intercalate, List.map_map]
  rfl

theorem resolveAll_map_spec {total : Nat} {windows : List Window} (inside : ∀ w ∈ windows, w.total = total) :
    resolveAll total (windows.map Window.spec) = .ok windows := by
  rw [resolveAll_eq_ok_iff, List.forall₂_map_left_iff, List.forall₂_same]
  intro w member
  rw [← inside w member]
  exact w.resolve_spec

/-- A set is assembled from its own windows. -/
theorem assemble_windows (set : WindowSet) : assemble set.windows = .ok set := by
  have sorted : set.windows.Pairwise fun v w => decide (v.first ≤ w.first) = true := by
    refine set.pairwise.imp ?_
    intro v w before
    have := v.first_le_last
    exact decide_eq_true (by omega)
  exact assemble_eq_ok_iff.2 ⟨set.nonempty, set.pairwise.imp Window.apart_of_last_lt,
    (List.mergeSort_of_pairwise sorted).symm⟩

/-- Windows that are written in any order are read as their set. -/
theorem windows_text {set : WindowSet} {total : Nat} (inside : ∀ w ∈ set.windows, w.total = total)
    (small : total ≤ positionBound) {order : List Window} (perm : order.Perm set.windows) :
    windows (text (order.map Window.spec)) total = .ok set := by
  have insideOrder : ∀ w ∈ order, w.total = total := fun w member => inside w (perm.mem_iff.1 member)
  have filled : order ≠ [] := fun empty => set.nonempty (List.nil_perm.1 (empty ▸ perm))
  have names : Names (text (order.map Window.spec)) (order.map Window.spec) := by
    refine names_text (mt List.map_eq_nil_iff.1 filled) (List.forall_mem_map.2 fun w member => ?_)
    exact w.written_spec (insideOrder w member ▸ small)
  exact (windows_eq_ok_iff_of_names names).2
    ⟨order, resolveAll_map_spec insideOrder, assemble_of_perm perm (assemble_windows set)⟩

example : text [.between 20 29, .between 0 9] = "bytes=20-29,0-9" := by
  decide

end RangeHeader

end Depot
