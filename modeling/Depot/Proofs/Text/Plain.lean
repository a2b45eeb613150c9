import Depot.Fields

/-!
# Plain text

A text of blanks and visible ASCII characters is sent with one byte for each character, and those bytes are
read as the same text again (`readText?_utf8`). So two plain texts with the same bytes are equal.
-/

namespace Depot

/-- The character is a blank or a visible ASCII character. -/
def IsPlain (c : Char) : Prop :=
  32 ≤ c.toNat ∧ c.toNat ≤ 126

instance (c : Char) : Decidable (IsPlain c) :=
  inferInstanceAs (Decidable (_ ∧ _))

namespace IsPlain

variable {c : Char}

theorem utf8EncodeChar (plain : IsPlain c) : String.utf8EncodeChar c = [UInt8.ofNat c.toNat] := by
  have small : c.val ≤ 127 := UInt32.le_iff_toNat_le.2 (Nat.le_succ_of_le plain.2)
  rw [String.utf8EncodeChar_eq_singleton (Char.utf8Size_eq_one_iff.2 small)]
  rfl

theorem toNat_byte (plain : IsPlain c) : (UInt8.ofNat c.toNat).toNat = c.toNat := by
  have := plain.2
  rw [UInt8.toNat_ofNat']
  omega

theorem isTextByte (plain : IsPlain c) : isTextByte (UInt8.ofNat c.toNat) = true := by
  have low : 32 ≤ UInt8.ofNat c.toNat := UInt8.le_iff_toNat_le.2 (plain.toNat_byte.symm ▸ plain.1)
  have high : UInt8.ofNat c.toNat ≤ 126 := UInt8.le_iff_toNat_le.2 (plain.toNat_byte.symm ▸ plain.2)
  unfold Depot.isTextByte
  rw [decide_eq_true low, decide_eq_true high]
  exact Bool.or_true _

theorem of_isDigit (digit : c.isDigit = true) : IsPlain c := by
  simp only [Char.isDigit, Bool.and_eq_true, decide_eq_true_eq, UInt32.le_iff_toNat_le] at digit
  have low : 48 ≤ c.toNat := digit.1
  have high : c.toNat ≤ 57 := digit.2
  exact ⟨by omega, by omega⟩

end IsPlain

/-- The text consists of blanks and visible ASCII characters. -/
def IsPlainText (text : String) : Prop :=
  ∀ c ∈ text.toList, IsPlain c

instance (text : String) : Decidable (IsPlainText text) :=
  List.decidableBAll IsPlain text.toList

theorem isPlainText_append {front back : String} :
    IsPlainText (front ++ back) ↔ IsPlainText front ∧ IsPlainText back := by
  unfold IsPlainText
  rw [String.toList_append, List.forall_mem_append]

/-- A plain text has one byte for each character. -/
theorem utf8_of_plain {text : String} (plain : IsPlainText text) :
    utf8 text = text.toList.map fun c => UInt8.ofNat c.toNat := by
  unfold IsPlainText at plain
  unfold utf8
  generalize text.toList = chars at plain
  induction chars with
  | nil => rfl
  | cons c rest ih =>
    obtain ⟨here, later⟩ := List.forall_mem_cons.1 plain
    rw [List.flatMap_cons, here.utf8EncodeChar, ih later]
    rfl

/-- A plain text has no control byte. -/
theorem IsPlainText.not_mem_utf8 {text : String} (plain : IsPlainText text) {b : UInt8}
    (control : b.toNat < 32) : b ∉ utf8 text := by
  rw [utf8_of_plain plain, List.mem_map]
  rintro ⟨c, member, rfl⟩
  have := (plain c member).1
  rw [(plain c member).toNat_byte] at control
  omega

/-- A plain text is read from its bytes. -/
theorem readText?_utf8 {text : String} (plain : IsPlainText text) :
    readText? (utf8 text) = some text := by
  have readable : (utf8 text).all isTextByte = true := by
    rw [utf8_of_plain plain, List.all_map, List.all_eq_true]
    exact fun c member => (plain c member).isTextByte
  have back : (utf8 text).map (fun b => Char.ofNat b.toNat) = text.toList := by
    rw [utf8_of_plain plain, List.map_map, List.map_congr_left (g := id), List.map_id]
    intro c member
    rw [Function.comp_apply, (plain c member).toNat_byte, Char.ofNat_toNat]
    rfl
  rw [readText?, if_pos readable, back, String.ofList_toList]

/-- Plain texts with the same bytes are equal. -/
theorem eq_of_utf8_eq {text other : String} (plain : IsPlainText text) (otherPlain : IsPlainText other)
    (same : utf8 text = utf8 other) : text = other := by
  have read := readText?_utf8 plain
  rw [same, readText?_utf8 otherPlain] at read
  exact (Option.some.inj read).symm

end Depot
