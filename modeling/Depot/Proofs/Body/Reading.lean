import Depot.Proofs.Body.Cutting

/-!
# Parts read at their boundaries

A receiver that knows nothing but the boundary of framed parts takes every delimiter for the end of a part, also
one that stands in the content. So it gets the contents back exactly if no delimiter occurs in them
(`Multipart.exists_read?_framed_iff`), and then it gets back the parts as they are (`Multipart.read?_framed`). The
end of the empty line before a content counts: together with it, a content that begins with a boundary line
begins with a delimiter.
-/

namespace Depot

namespace Multipart

/-- No delimiter begins in the content or with the line end before it. -/
def Part.Clear (boundary : String) (p : Part) : Prop :=
  ¬ utf8 ("\r\n--" ++ boundary) <:+: utf8 "\r\n" ++ p.content

/-- What framed parts are behind their first boundary. -/
def afterBoundary (boundary : String) : List Part → Bytes
  | [] => utf8 "--"
  | part :: rest =>
    utf8 "\r\n" ++ (part.text ++ (utf8 ("\r\n--" ++ boundary) ++ afterBoundary boundary rest))

theorem framed_eq (boundary : String) (parts : List Part) :
    framed boundary parts = utf8 ("--" ++ boundary) ++ afterBoundary boundary parts := by
  induction parts with
  | nil =>
    rw [afterBoundary, ← utf8_append, framed, List.map_nil, List.nil_append, List.intercalate_singleton]
  | cons part rest ih =>
    have delimiter : "\r\n--" = "\r\n" ++ "--" := by decide
    rw [framed_cons, ih, afterBoundary, delimiter]
    simp only [utf8_append, List.append_assoc]

theorem length_le_afterBoundary (boundary : String) (parts : List Part) :
    parts.length ≤ (afterBoundary boundary parts).length := by
  induction parts with
  | nil => exact Nat.zero_le _
  | cons part rest ih =>
    simp only [afterBoundary, List.length_append, List.length_cons, utf8_lineEnd]
    omega

/-! ## One part -/

section Turn

variable {boundary : String} {fuel : Nat} {part : Part} {rest found : List Part}

theorem utf8_delimiter (boundary : String) :
    utf8 ("\r\n--" ++ boundary) = 13 :: 10 :: 45 :: 45 :: utf8 boundary := by
  rw [utf8_append]
  rfl

theorem Part.Tidy.infix_text_iff (tidy : part.Tidy) (boundary : String) :
    utf8 ("\r\n--" ++ boundary) <:+: part.text ↔ ¬ part.Clear boundary := by
  rw [Clear, not_not, utf8_delimiter]
  exact Part.infix_text_iff tidy.isHeaderLine _

theorem readParts?_nil (boundary : String) (fuel : Nat) :
    readParts? boundary (fuel + 1) (afterBoundary boundary []) = some [] :=
  rfl

theorem readParts?_cons_of_cut {front after : Bytes}
    (cut : cutAt? (utf8 ("\r\n--" ++ boundary))
      (part.text ++ (utf8 ("\r\n--" ++ boundary) ++ afterBoundary boundary rest)) = some (front, after)) :
    readParts? boundary (fuel + 1) (afterBoundary boundary (part :: rest)) =
      (Part.read? front).bind fun first => (readParts? boundary fuel after).map (first :: ·) := by
  have opened : stripPrefix? (utf8 "\r\n") (afterBoundary boundary (part :: rest)) = some _ :=
    stripPrefix?_eq_some_iff.2 rfl
  have notClosed : stripPrefix? (utf8 "--") (afterBoundary boundary (part :: rest)) = none := rfl
  simp only [readParts?, notClosed, opened, cut, Option.bind_eq_bind, Option.bind_some]
  rcases Part.read? front with _ | first
  · rfl
  · rcases readParts? boundary fuel after with _ | others <;> rfl

/-- A part without a delimiter is read up to its end. -/
theorem readParts?_cons_of_clear (unbroken : 13 ∉ utf8 boundary) (tidy : part.Tidy)
    (clear : part.Clear boundary) :
    readParts? boundary (fuel + 1) (afterBoundary boundary (part :: rest)) =
      (readParts? boundary fuel (afterBoundary boundary rest)).map (part :: ·) := by
  have once : 13 ∉ 10 :: 45 :: 45 :: utf8 boundary := by
    simp only [List.mem_cons, unbroken, or_false]
    decide
  have notInside : ¬ utf8 ("\r\n--" ++ boundary) <:+: part.text := by
    rw [tidy.infix_text_iff, not_not]
    exact clear
  have cut : cutAt? (utf8 ("\r\n--" ++ boundary))
      (part.text ++ (utf8 ("\r\n--" ++ boundary) ++ afterBoundary boundary rest)) =
        some (part.text, afterBoundary boundary rest) := by
    rw [utf8_delimiter] at notInside ⊢
    exact cutAt?_of_not_infix once notInside
  rw [readParts?_cons_of_cut cut, Part.read?_text tidy, Option.bind_some]

/-- A part with a delimiter is read only up to it, and its content is cut short. -/
theorem clear_of_readParts?_cons (tidy : part.Tidy)
    (read : readParts? boundary (fuel + 1) (afterBoundary boundary (part :: rest)) = some found)
    (same : found.head?.map Part.content = some part.content) : part.Clear boundary := by
  by_contra occurs
  obtain ⟨front, after, cut⟩ := exists_cutAt?_iff.2 ((tidy.infix_text_iff boundary).2 occurs)
  rw [readParts?_cons_of_cut (cutAt?_append cut _)] at read
  obtain ⟨first, readFront, more⟩ := Option.bind_eq_some_iff.1 read
  obtain ⟨others, -, rfl⟩ := Option.map_eq_some_iff.1 more
  -- What was read is the beginning of what the whole text is read as.
  have whole := Part.read?_append readFront (utf8 ("\r\n--" ++ boundary) ++ after)
  rw [← eq_append_of_cutAt? cut, Part.read?_text tidy] at whole
  have longer := congrArg Part.content (Option.some.inj whole)
  have shorter : first.content = part.content := Option.some.inj same
  have nothing := List.self_eq_append_right.1 (shorter.trans longer)
  rw [utf8_delimiter] at nothing
  cases nothing

end Turn

/-! ## All parts -/

section Parts

variable {boundary : String} {parts found : List Part}

/-- A reader that takes one part after the other reads all of them. -/
theorem reads_afterBoundary {reader : Nat → Bytes → Option (List Part)}
    (closed : ∀ fuel, reader (fuel + 1) (afterBoundary boundary []) = some [])
    (turn : ∀ part ∈ parts, ∀ fuel rest, reader (fuel + 1) (afterBoundary boundary (part :: rest)) =
      (reader fuel (afterBoundary boundary rest)).map (part :: ·))
    {fuel : Nat} (enough : parts.length < fuel) : reader fuel (afterBoundary boundary parts) = some parts := by
  induction parts generalizing fuel with
  | nil =>
    obtain ⟨fuel, rfl⟩ := Nat.exists_eq_add_one.2 enough
    exact closed fuel
  | cons part rest ih =>
    obtain ⟨fuel, rfl⟩ := Nat.exists_eq_add_one.2 (Nat.zero_lt_of_lt enough)
    obtain ⟨first, others⟩ := List.forall_mem_cons.1 turn
    have later := ih others (Nat.lt_of_succ_lt_succ enough)
    rw [first, later, Option.map_some]

theorem clear_of_readParts? (unbroken : 13 ∉ utf8 boundary) (tidy : ∀ p ∈ parts, p.Tidy) {fuel : Nat}
    (read : readParts? boundary fuel (afterBoundary boundary parts) = some found)
    (same : found.map Part.content = parts.map Part.content) : ∀ p ∈ parts, p.Clear boundary := by
  induction parts generalizing fuel found with
  | nil => exact List.forall_mem_nil _
  | cons part rest ih =>
    obtain ⟨tidyPart, tidyRest⟩ := List.forall_mem_cons.1 tidy
    rcases fuel with _ | fuel
    · cases read
    have clear : part.Clear boundary := by
      refine clear_of_readParts?_cons tidyPart read ?_
      rw [← List.head?_map, same, List.map_cons, List.head?_cons]
    rw [readParts?_cons_of_clear unbroken tidyPart clear] at read
    obtain ⟨others, later, rfl⟩ := Option.map_eq_some_iff.1 read
    exact List.forall_mem_cons.2 ⟨clear, ih tidyRest later (List.cons.inj same).2⟩

theorem read?_framed_eq (boundary : String) (parts : List Part) :
    read? boundary (framed boundary parts) =
      readParts? boundary ((afterBoundary boundary parts).length + 1) (afterBoundary boundary parts) := by
  have opened := stripPrefix?_eq_some_iff.2 (framed_eq boundary parts)
  rw [read?, opened, Option.bind_eq_bind, Option.bind_some]

/-- Parts without a delimiter in their contents are read as they were written. -/
theorem read?_framed (unbroken : 13 ∉ utf8 boundary) (tidy : ∀ p ∈ parts, p.Tidy)
    (clear : ∀ p ∈ parts, p.Clear boundary) : read? boundary (framed boundary parts) = some parts := by
  rw [read?_framed_eq]
  refine reads_afterBoundary (readParts?_nil boundary) (fun part member fuel rest => ?_)
    (Nat.lt_succ_of_le (length_le_afterBoundary boundary parts))
  exact readParts?_cons_of_clear unbroken (tidy part member) (clear part member)

/-- The contents of framed parts are recovered exactly if no delimiter occurs in them. -/
theorem exists_read?_framed_iff (unbroken : 13 ∉ utf8 boundary) (tidy : ∀ p ∈ parts, p.Tidy) :
    (∃ found, read? boundary (framed boundary parts) = some found ∧
        found.map Part.content = parts.map Part.content) ↔
      ∀ p ∈ parts, p.Clear boundary := by
  constructor
  · rintro ⟨found, read, same⟩
    rw [read?_framed_eq] at read
    exact clear_of_readParts? unbroken tidy read same
  · exact fun clear => ⟨parts, read?_framed unbroken tidy clear, rfl⟩

end Parts

end Multipart

end Depot
