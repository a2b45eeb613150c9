import Depot.Body.Reader
import Depot.Proofs.Text.Numeral
import Mathlib.Data.List.Basic

/-!
# Framed parts

`Multipart.framed` writes parts the way a receiver looks at them: every part has header lines of its own and
stands behind a line with the boundary, and a last line closes the body. The body of some windows is their
parts in this frame (`Multipart.body_eq_framed`), and the label of each part says where its bytes lie
(`Multipart.value?_ofWindow`). A label tells its three numbers (`contentRangeText_inj`).
-/

namespace Depot

/-! ## Labels -/

/-- The label of the positions `first..last` of `total` bytes. -/
def contentRangeText (first last total : Nat) : String :=
  "bytes " ++ decimal first ++ "-" ++ decimal last ++ "/" ++ decimal total

theorem isPlainText_contentRangeText (first last total : Nat) :
    IsPlainText (contentRangeText first last total) := by
  simp only [contentRangeText, isPlainText_append, isPlainText_decimal, and_true]
  decide

theorem not_mem_decimal {c : Char} (noDigit : c.isDigit = false) (n : Nat) : c ∉ (decimal n).toList := by
  intro member
  rw [Decimal.isDigit_of_mem_decimal member] at noDigit
  cases noDigit

/-- The numbers of a label are told apart by its dash and its slash. -/
theorem contentRangeText_inj {first last total first' last' total' : Nat} :
    contentRangeText first last total = contentRangeText first' last' total' ↔
      first = first' ∧ last = last' ∧ total = total' := by
  refine ⟨fun same => ?_, by rintro ⟨rfl, rfl, rfl⟩; rfl⟩
  have dash (n : Nat) : '-' ∉ (decimal n).toList := not_mem_decimal rfl n
  have slash (n : Nat) : '/' ∉ (decimal n).toList := not_mem_decimal rfl n
  have laid (a b c : Nat) : (contentRangeText a b c).toList = "bytes ".toList ++
      ((decimal a).toList ++ '-' :: ((decimal b).toList ++ '/' :: (decimal c).toList)) := by
    simp [contentRangeText]
  have chars := congrArg String.toList same
  have noDash : '-' ∉ (decimal last).toList ++ '/' :: (decimal total).toList := by
    simp [dash]
  rw [laid, laid, List.append_cancel_left_eq,
    List.append_cons_inj_of_notMem (dash first) noDash,
    List.append_cons_inj_of_notMem (slash last) (slash total)] at chars
  obtain ⟨one, -, two, -, three⟩ := chars
  exact ⟨decimal_injective (String.toList_inj.1 one), decimal_injective (String.toList_inj.1 two),
    decimal_injective (String.toList_inj.1 three)⟩

namespace Multipart

/-! ## Parts in their frame -/

/-- The bytes of a part: its header lines, an empty line, and what it holds. -/
def Part.text (p : Part) : Bytes :=
  p.header.flatMap (fun line => line ++ utf8 "\r\n") ++ utf8 "\r\n" ++ p.content

/-- Parts with a boundary line before each, and the line that closes them. -/
def framed (boundary : String) (parts : List Part) : Bytes :=
  (utf8 "\r\n").intercalate
    (parts.map (fun p => utf8 ("--" ++ boundary ++ "\r\n") ++ p.text) ++ [utf8 ("--" ++ boundary ++ "--")])

/-- The part in which a window of a content is sent. -/
def Part.ofWindow (content : Bytes) (w : Window) : Part :=
  ⟨[utf8 "Content-Type: application/octet-stream",
      utf8 ("Content-Range: " ++ contentRangeText w.first w.last w.total)],
    Bytes.slice content w.first w.last⟩

theorem value?_ofWindow (content : Bytes) (w : Window) :
    (Part.ofWindow content w).value? "Content-Range" =
      some (utf8 (contentRangeText w.first w.last w.total)) := by
  have other : stripPrefix? (utf8 ("Content-Range" ++ ": ")) (utf8 "Content-Type: application/octet-stream") =
      none := by
    decide +kernel
  have own : stripPrefix? (utf8 ("Content-Range" ++ ": "))
      (utf8 ("Content-Range: " ++ contentRangeText w.first w.last w.total)) =
        some (utf8 (contentRangeText w.first w.last w.total)) := by
    rw [stripPrefix?_eq_some_iff, utf8_append]
    rfl
  unfold Part.value? Part.ofWindow
  rw [List.findSome?_cons, other, List.findSome?_cons, own]

theorem framed_cons (boundary : String) (part : Part) (rest : List Part) :
    framed boundary (part :: rest) =
      utf8 ("--" ++ boundary ++ "\r\n") ++ part.text ++ (utf8 "\r\n" ++ framed boundary rest) := by
  unfold framed
  rw [List.map_cons, List.cons_append, List.intercalate_cons_of_ne_nil (List.append_ne_nil_of_right_ne_nil _
    (List.cons_ne_nil _ _)), List.append_assoc]

/-- The text of a part is its boundary line and what the part of its window holds. -/
theorem partText_eq (content : Bytes) (w : Window) :
    partText content w = utf8 ("--" ++ boundary ++ "\r\n") ++ (Part.ofWindow content w).text := by
  have labelled :
      "--THIS_STRING_SEPARATES_MULTIPART\r\nContent-Type: application/octet-stream\r\nContent-Range: bytes " =
        "--" ++ boundary ++ "\r\n" ++ ("Content-Type: application/octet-stream" ++
          ("\r\n" ++ ("Content-Range: " ++ "bytes "))) := by
    decide
  have emptyLine : "\r\n\r\n" = "\r\n" ++ "\r\n" := by decide
  simp only [partText, opening, labelled, emptyLine, Part.text, Part.ofWindow, contentRangeText, List.flatMap_cons,
    List.flatMap_nil, utf8_append, List.append_assoc, List.append_nil]

/-- The body of some windows is the frame of their parts. -/
theorem body_eq_framed (content : Bytes) {windows : List Window} (nonempty : windows ≠ []) :
    body content windows = framed boundary (windows.map (Part.ofWindow content)) := by
  obtain ⟨w, rest, rfl⟩ := List.exists_cons_of_ne_nil nonempty
  clear nonempty
  induction rest generalizing w with
  | nil =>
    rw [body, List.map_singleton, List.intercalate_singleton, partText_eq, List.map_singleton, framed_cons]
    simp only [List.append_assoc]
    rfl
  | cons next rest ih =>
    rw [List.map_cons, framed_cons, ← ih, ← partText_eq, body, body, List.map_cons, List.map_cons,
      List.intercalate_cons_cons, ← List.map_cons]
    simp only [List.append_assoc]

end Multipart

end Depot
