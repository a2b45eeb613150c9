import Depot.Range.Grammar
import Mathlib.Data.List.Forall2
import Mathlib.Data.List.TakeWhile

/-!
# Items and lists are read as they are written

`Spec.read?_eq_some_iff` and `RangeHeader.readSpecs_splitOn_eq_ok_iff` say that a text is read as an item,
or as a list of items, exactly if the grammar writes it so. A dash occurs in no numeral, so an item falls
apart at its first dash; a comma occurs in no item, so a list falls apart at all its commas.
-/

namespace Depot

/-! ## Sides of an item -/

theorem IsNumeral.not_mem {digits : List Char} (numeral : IsNumeral digits) {c : Char}
    (noDigit : c.isDigit = false) : c ∉ digits := by
  intro member
  rw [numeral.2.1 c member] at noDigit
  cases noDigit

namespace Spec

theorem readSide?_eq_some_none_iff {side : List Char} : readSide? side = some none ↔ side = [] := by
  unfold readSide?
  split
  · rename_i empty
    simp [empty]
  · rename_i nonempty
    split
    · split <;> simp [nonempty]
    · simp [nonempty]

theorem readSide?_eq_some_some_iff {side : List Char} {n : Nat} :
    readSide? side = some (some n) ↔ IsNumeral side ∧ n = Nat.ofDigitChars 10 side 0 := by
  unfold readSide? Decimal.read? IsNumeral
  by_cases empty : side = []
  · simp [empty]
  by_cases digits : ∀ c ∈ side, c.isDigit = true
  · rw [if_neg empty, if_pos ⟨empty, List.all_eq_true.2 digits⟩]
    by_cases small : Nat.ofDigitChars 10 side 0 < positionBound
    · simp only [if_pos small, Option.some.injEq]
      exact ⟨fun same => ⟨⟨empty, digits, small⟩, same.symm⟩, fun same => same.2.symm⟩
    · simp only [if_neg small, reduceCtorEq, false_iff]
      exact fun numeral => small numeral.1.2.2
  · have reads : ¬ (side ≠ [] ∧ side.all Char.isDigit = true) := fun both =>
      digits (List.all_eq_true.1 both.2)
    rw [if_neg empty, if_neg reads]
    simp only [reduceCtorEq, false_iff]
    exact fun numeral => digits numeral.1.2.1

/-! ## Items -/

/-- An item is divided at its first dash. -/
theorem read?_divided {front after : List Char} (noDash : '-' ∉ front) :
    read? (front ++ '-' :: after) =
      match readSide? front, readSide? after with
      | some (some first), some (some last) => some (between first last)
      | some (some first), some none => some (since first)
      | some none, some (some count) => some (final count)
      | _, _ => none := by
  have plain : ∀ c ∈ front, decide (c ≠ '-') = true := by
    intro c member
    exact decide_eq_true fun same => noDash (same ▸ member)
  have reached : ('-' :: after).dropWhile (fun c => decide (c ≠ '-')) = '-' :: after :=
    List.dropWhile_cons_of_neg (by simp)
  have ended : ('-' :: after).takeWhile (fun c => decide (c ≠ '-')) = [] :=
    List.takeWhile_cons_of_neg (by simp)
  unfold read?
  rewrite [List.dropWhile_append_of_pos plain, List.takeWhile_append_of_pos plain, reached, ended,
    List.append_nil]
  rfl

theorem read?_of_written {item : List Char} {spec : Spec} (written : Written item spec) :
    read? item = some spec := by
  cases written with
  | @between first last left right =>
    rw [read?_divided (left.not_mem (by decide)),
      readSide?_eq_some_some_iff.2 ⟨left, rfl⟩, readSide?_eq_some_some_iff.2 ⟨right, rfl⟩]
  | @since first left =>
    rw [read?_divided (left.not_mem (by decide)),
      readSide?_eq_some_some_iff.2 ⟨left, rfl⟩, readSide?_eq_some_none_iff.2 rfl]
  | @final count right =>
    rw [← List.nil_append ('-' :: count), read?_divided List.not_mem_nil,
      readSide?_eq_some_none_iff.2 rfl, readSide?_eq_some_some_iff.2 ⟨right, rfl⟩]

/-- A text with a dash is what precedes the first one, the dash, and the rest. -/
theorem exists_divided_of_read? {item : List Char} {spec : Spec} (reads : read? item = some spec) :
    ∃ front after, '-' ∉ front ∧ item = front ++ '-' :: after := by
  rcases rest : item.dropWhile (· ≠ '-') with _ | ⟨c, after⟩
  · unfold read? at reads
    rw [rest] at reads
    cases reads
  · have stop := List.head?_dropWhile_not (fun c : Char => decide (c ≠ '-')) item
    rw [rest] at stop
    obtain rfl : c = '-' := by simpa using stop
    refine ⟨item.takeWhile (· ≠ '-'), after, ?_, ?_⟩
    · intro member
      simpa using List.mem_takeWhile_imp member
    · rw [← rest, List.takeWhile_append_dropWhile]

theorem written_of_read? {item : List Char} {spec : Spec} (reads : read? item = some spec) :
    Written item spec := by
  obtain ⟨front, after, noDash, rfl⟩ := exists_divided_of_read? reads
  rw [read?_divided noDash] at reads
  split at reads
  · rename_i first last
    obtain ⟨left, rfl⟩ := readSide?_eq_some_some_iff.1 first
    obtain ⟨right, rfl⟩ := readSide?_eq_some_some_iff.1 last
    cases reads
    exact .between left right
  · rename_i first nothing
    obtain ⟨left, rfl⟩ := readSide?_eq_some_some_iff.1 first
    obtain rfl := readSide?_eq_some_none_iff.1 nothing
    cases reads
    exact .since left
  · rename_i nothing count
    obtain rfl := readSide?_eq_some_none_iff.1 nothing
    obtain ⟨right, rfl⟩ := readSide?_eq_some_some_iff.1 count
    cases reads
    exact .final right
  · cases reads

/-- A text is read as an item exactly if it is written as that item. -/
theorem read?_eq_some_iff {item : List Char} {spec : Spec} :
    read? item = some spec ↔ Written item spec :=
  ⟨written_of_read?, read?_of_written⟩

/-- No item holds a character that is neither a digit nor a dash. -/
theorem Written.not_mem {item : List Char} {spec : Spec} (written : Written item spec) {c : Char}
    (noDigit : c.isDigit = false) (noDash : c ≠ '-') : c ∉ item := by
  cases written with
  | between left right => simp [left.not_mem noDigit, right.not_mem noDigit, noDash]
  | since left => simp [left.not_mem noDigit, noDash]
  | final right => simp [right.not_mem noDigit, noDash]

theorem Written.ne_nil {item : List Char} {spec : Spec} (written : Written item spec) : item ≠ [] := by
  cases written <;> simp

end Spec

/-! ## Lists -/

namespace RangeHeader

theorem readSpecs_eq_ok_iff {items : List (List Char)} {specs : List Spec} :
    readSpecs items = .ok specs ↔ List.Forall₂ Spec.Written items specs := by
  induction items generalizing specs with
  | nil =>
    rw [readSpecs, List.forall₂_nil_left_iff]
    exact ⟨fun same => (Except.ok.inj same).symm, fun same => congrArg _ same.symm⟩
  | cons item rest ih =>
    rw [readSpecs, List.forall₂_cons_left_iff]
    simp only [← ih, ← Spec.read?_eq_some_iff]
    rcases Spec.read? item with _ | spec
    · simp
    · rcases readSpecs rest with e | found
      · simp
      · simp [eq_comm]

/-- Items that are joined by commas list what they are written as. -/
theorem lists_intercalate {items : List (List Char)} {specs : List Spec}
    (written : List.Forall₂ Spec.Written items specs) (nonempty : items ≠ []) :
    Lists ([','].intercalate items) specs := by
  induction written with
  | nil => exact absurd rfl nonempty
  | @cons item spec rest specs first others ih =>
    cases others with
    | nil =>
      rw [List.intercalate_singleton]
      exact .last first
    | cons second more =>
      rw [List.intercalate_cons_cons, List.append_assoc, List.singleton_append]
      exact .more first (ih (List.cons_ne_nil _ _))

theorem lists_iff_forall₂ {list : List Char} {specs : List Spec} :
    Lists list specs ↔ List.Forall₂ Spec.Written (list.splitOn ',') specs := by
  constructor
  · intro lists
    have noComma {item : List Char} {spec : Spec} (written : Spec.Written item spec) : ',' ∉ item :=
      written.not_mem (by decide) (by decide)
    induction lists with
    | last written =>
      rw [List.splitOn_eq_singleton (noComma written)]
      exact .cons written .nil
    | more written _ ih =>
      rw [List.splitOn_append_cons_self_of_not_mem (noComma written)]
      exact .cons written ih
  · intro written
    have lists := lists_intercalate written (List.splitOn_ne_nil ',' list)
    rwa [List.intercalate_splitOn] at lists

/-- A text is read as a list of items exactly if it lists them. -/
theorem readSpecs_splitOn_eq_ok_iff {list : List Char} {specs : List Spec} :
    readSpecs (list.splitOn ',') = .ok specs ↔ Lists list specs :=
  readSpecs_eq_ok_iff.trans lists_iff_forall₂.symm

theorem Lists.ne_nil {list : List Char} {specs : List Spec} (lists : Lists list specs) : list ≠ [] := by
  cases lists with
  | last written => exact written.ne_nil
  | more => simp

end RangeHeader

end Depot
