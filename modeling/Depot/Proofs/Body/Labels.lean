import Depot.Proofs.Body.Reading

/-!
# Parts read by their labels

A receiver that trusts the label of a part knows how many bytes belong to it, and looks for a delimiter only behind
these. Whatever the contents are, it gets back the parts as they were written
(`Multipart.readLabelled?_framed`), in particular those of the windows of a content
(`Multipart.readLabelled?_body`).
-/

namespace Depot

namespace Multipart

/-! ## Labels -/

/-- The numbers of a label: first position, last position, and the number of all positions. -/
def readLabel? (label : Bytes) : Option (Nat × Nat × Nat) := do
  let text ← readText? label
  let places ← stripPrefix? "bytes ".toList text.toList
  match places.splitOn '-' with
  | [first, more] =>
    match more.splitOn '/' with
    | [last, total] => do
      let first ← Decimal.read? first
      let last ← Decimal.read? last
      let total ← Decimal.read? total
      some (first, last, total)
    | _ => none
  | _ => none

theorem readLabel?_contentRangeText (first last total : Nat) :
    readLabel? (utf8 (contentRangeText first last total)) = some (first, last, total) := by
  have dash (n : Nat) : '-' ∉ (decimal n).toList := not_mem_decimal rfl n
  have slash (n : Nat) : '/' ∉ (decimal n).toList := not_mem_decimal rfl n
  have places : stripPrefix? "bytes ".toList (contentRangeText first last total).toList =
      some ((decimal first).toList ++ '-' :: ((decimal last).toList ++ '/' :: (decimal total).toList)) := by
    rw [stripPrefix?_eq_some_iff]
    simp [contentRangeText]
  have noDash : '-' ∉ (decimal last).toList ++ '/' :: (decimal total).toList := by
    simp [dash]
  have atDash := List.splitOn_append_cons_self_of_not_mem (dash first)
    ((decimal last).toList ++ '/' :: (decimal total).toList)
  rw [List.splitOn_eq_singleton noDash] at atDash
  have atSlash := List.splitOn_append_cons_self_of_not_mem (slash last) (decimal total).toList
  rw [List.splitOn_eq_singleton (slash total)] at atSlash
  simp only [readLabel?, readText?_utf8 (isPlainText_contentRangeText first last total), places, atDash, atSlash,
    Decimal.read?_decimal, Option.bind_eq_bind, Option.bind_some]

/-- The number of bytes that the label of a part announces. -/
def Part.announced? (p : Part) : Option Nat :=
  ((p.value? "Content-Range").bind readLabel?).map fun (first, last, _) => last + 1 - first

theorem announced?_ofWindow {content : Bytes} {w : Window} (inside : w.last < content.length) :
    (Part.ofWindow content w).announced? = some (Part.ofWindow content w).content.length := by
  have length : (Part.ofWindow content w).content.length = w.last + 1 - w.first := Bytes.length_slice content inside
  rw [Part.announced?, value?_ofWindow, Option.bind_some, readLabel?_contentRangeText, length]
  rfl

/-! ## Reading -/

/-- Reads the parts that follow a boundary, each with as many bytes as its label announces. -/
def readLabelledParts? (boundary : String) : Nat → Bytes → Option (List Part)
  | 0, _ => none
  | fuel + 1, text =>
    match stripPrefix? (utf8 "--") text with
    | some _ => some []
    | none => do
      let text ← stripPrefix? (utf8 "\r\n") text
      let part ← Part.read? text
      let length ← part.announced?
      let after ← stripPrefix? (utf8 ("\r\n--" ++ boundary)) (part.content.drop length)
      let parts ← readLabelledParts? boundary fuel after
      some (⟨part.header, part.content.take length⟩ :: parts)

/-- The parts of a body with the given boundary, each with as many bytes as its label announces. -/
def readLabelled? (boundary : String) (body : Bytes) : Option (List Part) := do
  let text ← stripPrefix? (utf8 ("--" ++ boundary)) body
  readLabelledParts? boundary (text.length + 1) text

section Framed

variable {boundary : String} {parts : List Part}

theorem readLabelledParts?_cons {part : Part} {rest : List Part} (tidy : part.Tidy)
    (labelled : part.announced? = some part.content.length) (fuel : Nat) :
    readLabelledParts? boundary (fuel + 1) (afterBoundary boundary (part :: rest)) =
      (readLabelledParts? boundary fuel (afterBoundary boundary rest)).map (part :: ·) := by
  have opened : stripPrefix? (utf8 "\r\n") (afterBoundary boundary (part :: rest)) = some _ :=
    stripPrefix?_eq_some_iff.2 rfl
  have notClosed : stripPrefix? (utf8 "--") (afterBoundary boundary (part :: rest)) = none := rfl
  have read := Part.read?_append (Part.read?_text tidy)
    (utf8 ("\r\n--" ++ boundary) ++ afterBoundary boundary rest)
  have delimited : stripPrefix? (utf8 ("\r\n--" ++ boundary))
      (utf8 ("\r\n--" ++ boundary) ++ afterBoundary boundary rest) = some (afterBoundary boundary rest) :=
    stripPrefix?_eq_some_iff.2 rfl
  have announced (content : Bytes) : Part.announced? ⟨part.header, content⟩ = some part.content.length := labelled
  simp only [readLabelledParts?, notClosed, opened, read, announced, List.drop_left, List.take_left, delimited,
    Option.bind_eq_bind, Option.bind_some]
  rcases readLabelledParts? boundary fuel (afterBoundary boundary rest) with _ | others <;> rfl

/-- Parts whose labels tell their lengths are read as they were written, whatever they hold. -/
theorem readLabelled?_framed (tidy : ∀ p ∈ parts, p.Tidy)
    (labelled : ∀ p ∈ parts, p.announced? = some p.content.length) :
    readLabelled? boundary (framed boundary parts) = some parts := by
  have opened := stripPrefix?_eq_some_iff.2 (framed_eq boundary parts)
  rw [readLabelled?, opened, Option.bind_eq_bind, Option.bind_some]
  refine reads_afterBoundary (fun _ => rfl) (fun part member fuel rest => ?_)
    (Nat.lt_succ_of_le (length_le_afterBoundary boundary parts))
  exact readLabelledParts?_cons (tidy part member) (labelled part member) fuel

end Framed

theorem readLabelled?_body {content : Bytes} {windows : List Window} (nonempty : windows ≠ [])
    (inside : ∀ w ∈ windows, w.total = content.length) :
    readLabelled? boundary (body content windows) = some (windows.map (Part.ofWindow content)) := by
  rw [body_eq_framed content nonempty]
  refine readLabelled?_framed ?_ ?_
  · exact List.forall_mem_map.2 fun w _ => Part.tidy_ofWindow content w
  · refine List.forall_mem_map.2 fun w member => announced?_ofWindow ?_
    exact inside w member ▸ w.last_lt_total

end Multipart

end Depot
