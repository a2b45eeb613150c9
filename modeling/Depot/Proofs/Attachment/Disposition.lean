import Depot.Attachment
import Depot.Head
import Depot.Proofs.Text.Plain

/-!
# Which attachment names may be sent

What is put around a name and into it to make it an attachment name may always be sent. So the attachment name
of a download may be sent exactly if the part of its name may be sent that is not cut off
(`Attachment.isSendable_disposition`). A text may be sent if it is free of control bytes other than the tab
(`Head.isSendable_iff`).
-/

namespace Depot

/-- What can be read as text may be sent. -/
theorem isValueByte_of_isTextByte {b : UInt8} (text : isTextByte b = true) : isValueByte b = true := by
  unfold isTextByte at text
  unfold isValueByte
  simp only [Bool.or_eq_true, Bool.and_eq_true, decide_eq_true_eq] at text ⊢
  rcases text with tab | ⟨low, high⟩
  · exact .inl tab
  · refine .inr ⟨low, fun delete => ?_⟩
    rw [delete] at high
    exact absurd high (by decide)

/-- A byte may be sent if it is not a control byte; of these only the tab may. -/
theorem isValueByte_iff (b : UInt8) : isValueByte b = true ↔ (b < 32 → b = 9) ∧ b ≠ 127 := by
  have noTab : (9 : UInt8) ≠ 127 := by decide
  simp only [isValueByte, Bool.or_eq_true, Bool.and_eq_true, decide_eq_true_eq, ← UInt8.not_lt]
  constructor
  · rintro (rfl | ⟨high, visible⟩)
    · exact ⟨fun _ => rfl, noTab⟩
    · exact ⟨fun low => absurd low high, visible⟩
  · rintro ⟨tab, visible⟩
    by_cases low : b < 32
    · exact .inl (tab low)
    · exact .inr ⟨low, visible⟩

/-- No byte of the text is a control byte other than the tab. -/
def IsControlFree (text : String) : Prop :=
  ∀ b ∈ utf8 text, (b < 32 → b = 9) ∧ b ≠ 127

namespace Head

theorem isSendable_iff {text : String} : isSendable text = true ↔ IsControlFree text := by
  rw [isSendable, List.all_eq_true]
  exact forall₂_congr fun b _ => isValueByte_iff b

theorem isSendable_append (front back : String) :
    isSendable (front ++ back) = (isSendable front && isSendable back) := by
  rw [isSendable, utf8_append, List.all_append]
  rfl

/-- A text may be sent exactly if each of its characters may. -/
theorem isSendable_ofList (chars : List Char) :
    isSendable (String.ofList chars) = chars.all fun c => (String.utf8EncodeChar c).all isValueByte := by
  rw [isSendable, utf8, String.toList_ofList, List.all_flatMap]

theorem isSendable_of_plain {text : String} (plain : IsPlainText text) : isSendable text = true := by
  rw [isSendable, utf8_of_plain plain, List.all_map, List.all_eq_true]
  intro c member
  exact isValueByte_of_isTextByte (plain c member).isTextByte

end Head

namespace Attachment

/-- Escaping puts in backslashes only. -/
theorem all_escape {p : Char → Bool} (backslash : p '\\' = true) (chars : List Char) :
    (escape chars).all p = chars.all p := by
  induction chars with
  | nil => rfl
  | cons c rest ih =>
    unfold escape
    split
    · rw [List.all_cons, List.all_cons, List.all_cons, backslash, ih, Bool.true_and]
    · rw [List.all_cons, List.all_cons, ih]

theorem isSendable_encode (name : String) :
    Head.isSendable (encode name) = Head.isSendable (String.ofList (shorten name)) := by
  unfold encode
  split
  · rw [Head.isSendable_ofList, Head.isSendable_ofList, List.all_append, List.all_cons, all_escape (by decide)]
    exact Bool.and_true _
  · rfl

theorem isSendable_disposition (name : String) :
    Head.isSendable (disposition name) = Head.isSendable (String.ofList (shorten name)) := by
  have plain : IsPlainText "attachment;filename=" := by decide
  calc Head.isSendable (disposition name)
    _ = (Head.isSendable "attachment;filename=" && Head.isSendable (encode name)) :=
      Head.isSendable_append _ _
    _ = Head.isSendable (encode name) := by rw [Head.isSendable_of_plain plain, Bool.true_and]
    _ = Head.isSendable (String.ofList (shorten name)) := isSendable_encode name

end Attachment

end Depot
