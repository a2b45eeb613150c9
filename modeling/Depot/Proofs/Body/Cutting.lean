import Depot.Proofs.Body.Framing
import Mathlib.Data.List.Infix

/-!
# Texts cut at a mark

`Multipart.cutAt?` finds the first occurrence of a mark. A mark that is written behind a text is found there if
it does not occur in the text, provided that its first byte does not come again in it
(`Multipart.cutAt?_of_not_infix`): two occurrences of such a mark cannot overlap.

The header lines of a part are separated from its content by the first empty line, and from each other by their
ends. So a part whose lines are neither empty nor broken is read from its text (`Multipart.Part.read?_text`).
-/

namespace Depot

namespace Multipart

/-! ## Cuts -/

section Cuts

variable {mark text front after : Bytes}

theorem cutAt?_of_stripPrefix? (here : stripPrefix? mark text = some after) :
    cutAt? mark text = some ([], after) := by
  cases text with
  | nil => rw [cutAt?, here, Option.map_some]
  | cons b rest => simp only [cutAt?, here]

theorem cutAt?_cons {b : UInt8} {rest : Bytes} (notHere : stripPrefix? mark (b :: rest) = none)
    (later : cutAt? mark rest = some (front, after)) :
    cutAt? mark (b :: rest) = some (b :: front, after) := by
  simp only [cutAt?, notHere, later, Option.map_some]

theorem eq_append_of_cutAt? (cut : cutAt? mark text = some (front, after)) :
    text = front ++ (mark ++ after) := by
  induction text generalizing front with
  | nil =>
    obtain ⟨found, here, ⟨⟩⟩ := Option.map_eq_some_iff.1 cut
    rw [List.nil_append]
    exact stripPrefix?_eq_some_iff.1 here
  | cons b rest ih =>
    unfold cutAt? at cut
    rcases here : stripPrefix? mark (b :: rest) with _ | found
    · rw [here] at cut
      obtain ⟨⟨kept, found⟩, later, ⟨⟩⟩ := Option.map_eq_some_iff.1 cut
      rw [ih later, List.cons_append]
    · rw [here] at cut
      obtain ⟨⟩ := cut
      rw [List.nil_append]
      exact stripPrefix?_eq_some_iff.1 here

/-- A text is cut exactly if the mark occurs in it. -/
theorem exists_cutAt?_iff : (∃ front after, cutAt? mark text = some (front, after)) ↔ mark <:+: text := by
  constructor
  · rintro ⟨front, after, cut⟩
    rw [eq_append_of_cutAt? cut]
    exact ⟨front, after, List.append_assoc front mark after⟩
  · intro occurs
    have begins {text : Bytes} (isFront : mark <+: text) :
        ∃ front after, cutAt? mark text = some (front, after) := by
      obtain ⟨after, rfl⟩ := isFront
      exact ⟨[], after, cutAt?_of_stripPrefix? (stripPrefix?_eq_some_iff.2 rfl)⟩
    induction text with
    | nil => exact begins (List.infix_nil.1 occurs ▸ List.prefix_rfl)
    | cons b rest ih =>
      rcases List.infix_cons_iff.1 occurs with isFront | inRest
      · exact begins isFront
      · rcases here : stripPrefix? mark (b :: rest) with _ | after
        · obtain ⟨front, after, later⟩ := ih inRest
          exact ⟨b :: front, after, cutAt?_cons here later⟩
        · exact ⟨[], after, cutAt?_of_stripPrefix? here⟩

/-- Where a mark was found, it is found whatever comes behind. -/
theorem cutAt?_append (cut : cutAt? mark text = some (front, after)) (more : Bytes) :
    cutAt? mark (text ++ more) = some (front, after ++ more) := by
  induction text generalizing front with
  | nil =>
    have empty := eq_append_of_cutAt? cut
    obtain ⟨rfl, rfl, rfl⟩ : front = [] ∧ mark = [] ∧ after = [] := by simpa using empty.symm
    exact cutAt?_of_stripPrefix? rfl
  | cons b rest ih =>
    unfold cutAt? at cut
    rcases here : stripPrefix? mark (b :: rest) with _ | found
    · rw [here] at cut
      obtain ⟨⟨kept, found⟩, later, ⟨⟩⟩ := Option.map_eq_some_iff.1 cut
      refine cutAt?_cons (Option.eq_none_iff_forall_ne_some.2 fun found same => ?_) (ih later)
      -- The rest holds the mark, so that an occurrence one byte earlier would end before `more`.
      have fits : mark.length ≤ rest.length := (exists_cutAt?_iff.1 ⟨_, _, later⟩).length_le
      have isFront : mark <+: b :: rest :=
        List.prefix_of_prefix_length_le ⟨found, (stripPrefix?_eq_some_iff.1 same).symm⟩
          (List.prefix_append (b :: rest) more) (Nat.le_succ_of_le fits)
      obtain ⟨found, joined⟩ := isFront
      rw [stripPrefix?_eq_some_iff.2 joined.symm] at here
      cases here
    · rw [here] at cut
      obtain ⟨⟩ := cut
      refine cutAt?_of_stripPrefix? (stripPrefix?_eq_some_iff.2 ?_)
      rw [stripPrefix?_eq_some_iff.1 here, List.append_assoc]

end Cuts

/-! ## Marks whose first byte comes once -/

section Once

variable {c : UInt8} {tail front text after : Bytes}

/-- No mark begins before its first byte comes. -/
theorem stripPrefix?_of_ne {b : UInt8} (ne : c ≠ b) : stripPrefix? (c :: tail) (b :: text) = none :=
  if_neg ne

theorem cutAt?_of_not_mem {pre : Bytes} (none : c ∉ pre)
    (cut : cutAt? (c :: tail) text = some (front, after)) :
    cutAt? (c :: tail) (pre ++ text) = some (pre ++ front, after) := by
  induction pre with
  | nil => exact cut
  | cons b rest ih =>
    rw [List.mem_cons, not_or] at none
    exact cutAt?_cons (stripPrefix?_of_ne none.1) (ih none.2)

theorem infix_append_iff_of_not_mem {pre : Bytes} (none : c ∉ pre) :
    c :: tail <:+: pre ++ text ↔ c :: tail <:+: text := by
  induction pre with
  | nil => rfl
  | cons b rest ih =>
    rw [List.mem_cons, not_or] at none
    rw [List.cons_append, List.infix_cons_iff, ih none.2, List.cons_prefix_cons]
    simp only [none.1, false_and, false_or]

/-- A mark that does not occur in a text is found behind it. -/
theorem cutAt?_of_not_infix (once : c ∉ tail) (clear : ¬ c :: tail <:+: front) :
    cutAt? (c :: tail) (front ++ (c :: tail ++ after)) = some (front, after) := by
  induction front with
  | nil => exact cutAt?_of_stripPrefix? (stripPrefix?_eq_some_iff.2 rfl)
  | cons b rest ih =>
    have clearRest : ¬ c :: tail <:+: rest := fun occurs => clear (List.infix_cons occurs)
    refine cutAt?_cons (Option.eq_none_iff_forall_ne_some.2 fun found same => ?_) (ih clearRest)
    have overlap : b :: rest ++ (c :: tail ++ after) = c :: tail ++ found :=
      stripPrefix?_eq_some_iff.1 same
    rcases List.append_eq_append_iff.1 overlap with ⟨later, mark, behind⟩ | ⟨more, inFront, -⟩
    · -- The occurrence would reach into the mark, and the first byte of the mark into its tail.
      rcases later with _ | ⟨d, later⟩
      · rw [List.append_nil] at mark
        exact clear (mark ▸ List.infix_rfl)
      · obtain ⟨-, inTail⟩ := List.cons.inj mark
        obtain ⟨rfl, -⟩ := List.cons.inj behind
        exact once (inTail ▸ List.mem_append_right rest List.mem_cons_self)
    · exact clear (inFront ▸ (List.prefix_append (c :: tail) more).isInfix)

end Once

/-! ## Header lines -/

theorem utf8_lineEnd : utf8 "\r\n" = [13, 10] :=
  rfl

/-- The line is neither empty nor broken, and it does not begin as a boundary line does. -/
def IsHeaderLine (line : Bytes) : Prop :=
  13 ∉ line ∧ ∃ b rest, line = b :: rest ∧ b ≠ 45

theorem Part.text_cons (line : Bytes) (header : List Bytes) (content : Bytes) :
    (Part.mk (line :: header) content).text = line ++ 13 :: 10 :: (Part.mk header content).text := by
  simp only [Part.text, List.flatMap_cons, utf8_lineEnd, List.append_assoc, List.cons_append, List.nil_append]

theorem Part.text_nil (content : Bytes) : (Part.mk [] content).text = 13 :: 10 :: content :=
  rfl

theorem cutAt?_text {line : Bytes} {header : List Bytes} (tidy : ∀ l ∈ line :: header, IsHeaderLine l)
    (content : Bytes) :
    cutAt? (13 :: [10, 13, 10]) (Part.mk (line :: header) content).text =
      some ((utf8 "\r\n").intercalate (line :: header), content) := by
  induction header generalizing line with
  | nil =>
    have empty : cutAt? (13 :: [10, 13, 10]) (13 :: 10 :: 13 :: 10 :: content) = some ([], content) :=
      cutAt?_of_stripPrefix? rfl
    have cut := cutAt?_of_not_mem (tidy line List.mem_cons_self).1 empty
    rw [List.append_nil] at cut
    rw [Part.text_cons, Part.text_nil, List.intercalate_singleton]
    exact cut
  | cons next header ih =>
    obtain ⟨first, others⟩ := List.forall_mem_cons.1 tidy
    obtain ⟨unbroken, b, rest, rfl, -⟩ := others next List.mem_cons_self
    have notEmpty : stripPrefix? (13 :: [10, 13, 10])
        (13 :: 10 :: (Part.mk ((b :: rest) :: header) content).text) = none := by
      rw [List.mem_cons, not_or] at unbroken
      simp [Part.text_cons, stripPrefix?, unbroken.1]
    have inLine := cutAt?_cons (stripPrefix?_of_ne (show (13 : UInt8) ≠ 10 by decide)) (ih others)
    rw [Part.text_cons, List.intercalate_cons_cons, List.append_assoc]
    exact cutAt?_of_not_mem first.1 (cutAt?_cons notEmpty inLine)

theorem lines_cons_of_ne {b : UInt8} {rest line : Bytes} {more : List Bytes} (ne : 13 ≠ b)
    (later : lines rest = line :: more) : lines (b :: rest) = (b :: line) :: more := by
  rw [lines, later]
  intro _ same
  exact absurd same.symm ne

theorem lines_of_not_mem {line : Bytes} (unbroken : 13 ∉ line) : lines line = [line] := by
  induction line with
  | nil => rfl
  | cons b rest ih =>
    rw [List.mem_cons, not_or] at unbroken
    exact lines_cons_of_ne unbroken.1 (ih unbroken.2)

theorem lines_append_cons {line : Bytes} (unbroken : 13 ∉ line) (rest : Bytes) :
    lines (line ++ 13 :: 10 :: rest) = line :: lines rest := by
  induction line with
  | nil => rw [List.nil_append, lines]
  | cons b line ih =>
    rw [List.mem_cons, not_or] at unbroken
    exact lines_cons_of_ne unbroken.1 (ih unbroken.2)

theorem lines_intercalate {line : Bytes} {header : List Bytes} (unbroken : ∀ l ∈ line :: header, 13 ∉ l) :
    lines ((utf8 "\r\n").intercalate (line :: header)) = line :: header := by
  induction header generalizing line with
  | nil =>
    rw [List.intercalate_singleton]
    exact lines_of_not_mem (unbroken line List.mem_cons_self)
  | cons next header ih =>
    obtain ⟨first, others⟩ := List.forall_mem_cons.1 unbroken
    rw [List.intercalate_cons_cons, utf8_lineEnd, List.append_assoc]
    exact (lines_append_cons first _).trans (congrArg (line :: ·) (ih others))

namespace Part

/-- There are header lines, and all of them can be told from what stands around them. -/
structure Tidy (p : Part) : Prop where
  nonempty : p.header ≠ []
  isHeaderLine : ∀ line ∈ p.header, IsHeaderLine line

theorem read?_text {p : Part} (tidy : p.Tidy) : read? p.text = some p := by
  obtain ⟨header, content⟩ := p
  obtain ⟨line, header, rfl⟩ := List.exists_cons_of_ne_nil tidy.nonempty
  have cut : cutAt? (utf8 "\r\n\r\n") (Part.mk (line :: header) content).text = _ :=
    cutAt?_text tidy.isHeaderLine content
  have divided := lines_intercalate fun l member => (tidy.isHeaderLine l member).1
  rw [read?, cut]
  exact congrArg (fun found => some (Part.mk found content)) divided

/-- What stands behind the text of a part is read as more content. -/
theorem read?_append {text : Bytes} {p : Part} (read : read? text = some p) (more : Bytes) :
    read? (text ++ more) = some ⟨p.header, p.content ++ more⟩ := by
  obtain ⟨⟨front, after⟩, cut, rfl⟩ := Option.map_eq_some_iff.1 read
  rw [read?, cutAt?_append cut more, Option.map_some]

/-- A boundary line does not begin among the header lines, but it may begin with the empty line. -/
theorem infix_text_iff {p : Part} (tidy : ∀ line ∈ p.header, IsHeaderLine line) (tail : Bytes) :
    13 :: 10 :: 45 :: tail <:+: p.text ↔ 13 :: 10 :: 45 :: tail <:+: utf8 "\r\n" ++ p.content := by
  obtain ⟨header, content⟩ := p
  induction header with
  | nil => rfl
  | cons line header ih =>
    obtain ⟨first, others⟩ := List.forall_mem_cons.1 tidy
    have notHere : ¬ 13 :: 10 :: 45 :: tail <+: 13 :: 10 :: (Part.mk header content).text := by
      rw [List.cons_prefix_cons, List.cons_prefix_cons]
      rintro ⟨-, -, begins⟩
      cases header with
      | nil =>
        rw [text_nil, List.cons_prefix_cons] at begins
        exact absurd begins.1 (by decide)
      | cons next header =>
        obtain ⟨-, b, rest, rfl, ne⟩ := others next List.mem_cons_self
        rw [text_cons, List.cons_append, List.cons_prefix_cons] at begins
        exact ne begins.1.symm
    have notNext : ¬ 13 :: 10 :: 45 :: tail <+: 10 :: (Part.mk header content).text := by
      rw [List.cons_prefix_cons]
      exact fun both => absurd both.1 (by decide)
    rw [text_cons, infix_append_iff_of_not_mem first.1, List.infix_cons_iff, List.infix_cons_iff, ih others]
    simp only [notHere, notNext, false_or]

/-- The header lines of a window are plain and begin with a letter. -/
theorem tidy_ofWindow (content : Bytes) (w : Window) : (ofWindow content w).Tidy where
  nonempty := List.cons_ne_nil _ _
  isHeaderLine := by
    have label : IsPlainText ("Content-Range: " ++ w.contentRange) :=
      isPlainText_append.2 ⟨by decide, isPlainText_contentRangeText w.first w.last w.total⟩
    have type : IsPlainText ("Content-Type: " ++ partContentType) := by decide
    refine List.forall_mem_cons.2 ⟨⟨type.not_mem_utf8 (by decide), ?_⟩,
      List.forall_mem_singleton.2 ⟨label.not_mem_utf8 (by decide), ?_⟩⟩
    · exact ⟨67, _, rfl, by decide⟩
    · rw [utf8_append]
      exact ⟨67, _, rfl, by decide⟩

end Part

end Multipart

end Depot
