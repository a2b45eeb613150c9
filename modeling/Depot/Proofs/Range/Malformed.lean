import Depot.Proofs.Range.Meaning

/-!
# Malformed headers

Whether a `Range` header is malformed is settled by its text alone. `RangeHeader.malformed_iff` says that the
malformed headers are exactly those that the grammar does not write, for an artifact of any length, and that
one item that is not written as a range spec spoils a header whatever its other items ask for.

`Spec.IsItem` states the form of an item without saying which positions it asks for.
-/

namespace Depot

namespace Spec

/-- The text is made of digits, one dash and digits, with a number on one side at least. -/
def IsItem (item : List Char) : Prop :=
  ∃ front back, item = front ++ '-' :: back ∧ (front = [] ∨ IsNumeral front) ∧
    (back = [] ∨ IsNumeral back) ∧ (front ≠ [] ∨ back ≠ [])

/-- The texts of this form are those that are written as some range spec. -/
theorem exists_written_iff {item : List Char} : (∃ spec, Written item spec) ↔ IsItem item := by
  constructor
  · rintro ⟨spec, written⟩
    cases written with
    | @between first last left right =>
      exact ⟨first, last, rfl, .inr left, .inr right, .inl left.1⟩
    | @since first left => exact ⟨first, [], rfl, .inr left, .inl rfl, .inl left.1⟩
    | @final count right => exact ⟨[], count, rfl, .inl rfl, .inr right, .inr right.1⟩
  · rintro ⟨front, back, rfl, rfl | left, rfl | right, filled⟩
    · exact absurd filled (by simp)
    · exact ⟨_, .final right⟩
    · exact ⟨_, .since left⟩
    · exact ⟨_, .between left right⟩

end Spec

namespace RangeHeader

/-- The header is refused because of how it is written, for an artifact of `total` bytes. -/
def Malformed (header : String) (total : Nat) : Prop :=
  ∃ e, windows header total = .error e ∧ e.isMalformed = true

/-! ## Lists of items -/

/-- Items that cannot all be read make a header malformed. -/
theorem isMalformed_of_readSpecs {items : List (List Char)} {e : RangeError}
    (failed : readSpecs items = .error e) : e.isMalformed = true := by
  induction items with
  | nil => cases failed
  | cons item rest ih =>
    rw [readSpecs] at failed
    split at failed
    · cases failed
      rfl
    · split at failed
      · cases failed
      · rename_i others
        cases failed
        exact ih others

/-- All items can be read if each of them has the form of an item. -/
theorem exists_forall₂_written_iff {items : List (List Char)} :
    (∃ specs, List.Forall₂ Spec.Written items specs) ↔ ∀ item ∈ items, Spec.IsItem item := by
  induction items with
  | nil => simp
  | cons item rest ih =>
    rw [List.forall_mem_cons, ← ih, ← Spec.exists_written_iff]
    constructor
    · rintro ⟨_, _ | ⟨first, others⟩⟩
      exact ⟨⟨_, first⟩, ⟨_, others⟩⟩
    · rintro ⟨⟨spec, first⟩, specs, others⟩
      exact ⟨spec :: specs, .cons first others⟩

/-- Items without commas, joined by commas, list some specs exactly if there are items and each of them has the
form of one. -/
theorem exists_lists_intercalate_iff {items : List (List Char)} (nonempty : items ≠ [])
    (noComma : ∀ item ∈ items, ',' ∉ item) :
    (∃ specs, Lists ([','].intercalate items) specs) ↔ ∀ item ∈ items, Spec.IsItem item := by
  simp only [lists_iff_forall₂, List.splitOn_intercalate ',' noComma nonempty,
    exists_forall₂_written_iff]

/-! ## Whole headers -/

theorem windows_unit (total : Nat) : windows unit total = .error .emptyList := by
  have stripped : stripPrefix? unit.toList unit.toList = some [] :=
    stripPrefix?_eq_some_iff.2 (List.append_nil _).symm
  rw [windows, stripped]

/-- The malformed headers are those that the grammar does not write. -/
theorem malformed_iff_not_isWellFormed {header : String} {total : Nat} :
    Malformed header total ↔ ¬ IsWellFormed header := by
  constructor
  · rintro ⟨e, failed, malformed⟩ ⟨list, text, rfl | ⟨specs, lists⟩⟩
    · obtain rfl : header = unit := String.toList_inj.1 (text.trans (List.append_nil _))
      rw [windows_unit] at failed
      cases failed
      cases malformed
    · rw [isMalformed_of_names ⟨list, text, lists⟩ failed] at malformed
      cases malformed
  · intro unwritten
    unfold Malformed windows
    split
    · exact ⟨_, rfl, rfl⟩
    · rename_i stripped
      exact absurd ⟨[], stripPrefix?_eq_some_iff.1 stripped, .inl rfl⟩ unwritten
    · rename_i list _ stripped
      rcases read : readSpecs (list.splitOn ',') with e | specs
      · exact ⟨e, rfl, isMalformed_of_readSpecs read⟩
      · have lists := readSpecs_splitOn_eq_ok_iff.1 read
        exact absurd ⟨list, stripPrefix?_eq_some_iff.1 stripped, .inr ⟨specs, lists⟩⟩ unwritten

/-- Whether a header that joins some items is well formed depends on each of them alone. -/
theorem isWellFormed_intercalate_iff {header : String} {items : List (List Char)}
    (text : header.toList = "bytes=".toList ++ [','].intercalate items) (several : items ≠ [[]])
    (noComma : ∀ item ∈ items, ',' ∉ item) :
    IsWellFormed header ↔ ∀ item ∈ items, Spec.IsItem item := by
  have same {list : List Char} :
      header.toList = "bytes=".toList ++ list ↔ [','].intercalate items = list := by
    rw [text, List.append_cancel_left_eq]
  unfold IsWellFormed
  simp only [same, exists_eq_left']
  by_cases empty : items = []
  · subst empty
    simp
  · have filled : [','].intercalate items ≠ [] := by
      intro nothing
      have split := List.splitOn_intercalate ',' noComma empty
      rw [nothing, List.splitOn_nil] at split
      exact several split.symm
    simp only [filled, false_or]
    exact exists_lists_intercalate_iff empty noComma

/-- A header is malformed exactly if it is neither the unit alone nor the unit with a list of items; how long
the artifact is does not matter. Of a header that joins some items, one that is no range spec is enough, and it
takes one. The unit alone is well formed but cannot be satisfied. -/
theorem malformed_iff (header : String) (total : Nat) :
    (Malformed header total ↔ ¬ IsWellFormed header) ∧
      (∀ other, Malformed header other ↔ Malformed header total) ∧
      (∀ items : List (List Char), header.toList = "bytes=".toList ++ [','].intercalate items →
        items ≠ [[]] → (∀ item ∈ items, ',' ∉ item) →
          (Malformed header total ↔ ∃ item ∈ items, ¬ Spec.IsItem item)) ∧
      windows "bytes=" total = .error .emptyList ∧ RangeError.emptyList.isMalformed = false := by
  refine ⟨malformed_iff_not_isWellFormed, fun other => ?_, fun items text several noComma => ?_,
    windows_unit total, rfl⟩
  · rw [malformed_iff_not_isWellFormed, malformed_iff_not_isWellFormed]
  · rw [malformed_iff_not_isWellFormed, isWellFormed_intercalate_iff text several noComma]
    simp only [not_forall, exists_prop]

/-- One bad item stands between two that lie behind the end of ten bytes and overlap. -/
theorem malformed_iff_one_bad_item : Malformed "bytes=50-,5x,50-60" 10 := by
  obtain ⟨-, -, joined, -⟩ := malformed_iff "bytes=50-,5x,50-60" 10
  have bad : ¬ Spec.IsItem ['5', 'x'] := by
    rintro ⟨front, back, same, -⟩
    have dash : '-' ∈ ['5', 'x'] := same ▸ List.mem_append_right front List.mem_cons_self
    exact absurd dash (by decide)
  exact (joined [['5', '0', '-'], ['5', 'x'], ['5', '0', '-', '6', '0']] (by decide) (by decide)
    (by decide)).2 ⟨['5', 'x'], by decide, bad⟩

end RangeHeader

end Depot
