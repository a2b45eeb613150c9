import Depot.Body.Shape
import Depot.Proofs.Stream.Copy
import Mathlib.Data.List.Infix

/-!
# What is written of a body

`Shape.needed` is the number of bytes of an artifact that a body of some shape depends on.
`Shape.write_outcome` says of every source and every sink that writing a body succeeds exactly if the sink
took all of it and was then flushed without a failure, and that otherwise the sink took a prefix of the body,
whatever bytes the source might still have brought.

A body of several parts is written in one pass: `Shape.writeParts_writes` keeps track of the position that the
source has reached, from which each window lies ahead because the windows ascend. The pieces written one after
the other make the body as it is laid out (`Multipart.parts_closing`).
-/

namespace Depot

/-! ## Slices -/

namespace Bytes

theorem isPrefix_slice {content data : Bytes} (front : content <+: data) (first last : Nat) :
    slice content first last <+: slice data first last := by
  unfold slice
  exact (front.drop first).take (last + 1 - first)

/-- A slice that lies in the content does not change when the content goes on. -/
theorem slice_eq_of_prefix {content data : Bytes} (front : content <+: data) {first last : Nat}
    (inside : last < content.length) : slice data first last = slice content first last := by
  symm
  apply (isPrefix_slice front first last).eq_of_length_le
  have := front.length_le
  rw [length_slice content inside, length_slice data (by omega)]

theorem slice_take {content : Bytes} {first last count : Nat} (inside : last < count) :
    slice (content.take count) first last = slice content first last := by
  unfold slice
  rw [List.drop_take, List.take_take]
  congr 1
  omega

end Bytes

namespace Window

/-- What is read of a window from a position before it is a prefix of its slice. -/
theorem drop_prefix_slice {w : Window} {position : Nat} {content passed left : Bytes}
    (le : position ≤ w.first) (rest : content.drop position = passed ++ left)
    (short : passed.length ≤ w.first - position + w.length) :
    passed.drop (w.first - position) <+: Bytes.slice content w.first w.last := by
  have ahead : content.drop w.first = (passed ++ left).drop (w.first - position) := by
    rw [← rest, List.drop_drop]
    congr 1
    omega
  have := w.first_add_length
  unfold Bytes.slice
  rw [ahead, List.prefix_take_iff, List.length_drop]
  exact ⟨(List.prefix_append passed left).drop _, by omega⟩

/-- If all of the window was read, that is its slice, and the source stands behind the window. -/
theorem drop_eq_slice {w : Window} {position : Nat} {content passed left : Bytes}
    (le : position ≤ w.first) (rest : content.drop position = passed ++ left)
    (full : passed.length = w.first - position + w.length) :
    passed.drop (w.first - position) = Bytes.slice content w.first w.last ∧
      w.last < content.length ∧ left = content.drop (w.last + 1) := by
  have := w.first_add_length
  have := w.length_pos
  have lengths := congrArg List.length rest
  rw [List.length_drop, List.length_append] at lengths
  refine ⟨?_, by omega, ?_⟩
  · apply (drop_prefix_slice le rest (Nat.le_of_eq full)).eq_of_length_le
    rw [List.length_drop, Bytes.length_slice _ (by omega)]
    omega
  · have behind : w.last + 1 = position + passed.length := by omega
    rw [behind, ← List.drop_drop, rest, List.drop_left]

end Window

/-! ## Parts one after the other -/

namespace Multipart

/-- What is written of some windows before the closing delimiter, one part after the other. -/
def parts (content : Bytes) : Bool → List Window → Bytes
  | _, [] => []
  | isFirst, w :: rest =>
    partHeader isFirst w ++ Bytes.slice content w.first w.last ++ parts content false rest

theorem partHeader_true (w : Window) : partHeader true w = opening w := by
  have labelled :
      "--THIS_STRING_SEPARATES_MULTIPART\r\nContent-Type: application/octet-stream\r\nContent-Range: bytes " =
        dashBoundary ++ lineEnd ++ "Content-Type: " ++ partContentType ++ lineEnd ++ "Content-Range: " ++ "bytes " := by
    decide
  have emptyLine : "\r\n\r\n" = lineEnd ++ lineEnd := by decide
  unfold partHeader opening headerLines Window.contentRange
  rw [if_pos rfl, labelled, emptyLine]
  simp only [utf8_append, List.append_assoc]

/-- Every part but the first opens with the end of the line before it. -/
theorem partHeader_false (w : Window) : partHeader false w = utf8 "\r\n" ++ opening w := by
  have onNewLine : delimiter ++ lineEnd ++ headerLines w ++ lineEnd =
      lineEnd ++ (dashBoundary ++ lineEnd ++ headerLines w ++ lineEnd) := by
    simp only [delimiter, String.append_assoc]
  rw [← partHeader_true]
  unfold partHeader
  rw [if_neg Bool.false_ne_true, if_pos rfl, onNewLine, utf8_append]
  rfl

/-- Parts one after the other and the closing delimiter are the body. -/
theorem parts_closing (content : Bytes) (w : Window) (rest : List Window) :
    parts content true (w :: rest) ++ closing = body content (w :: rest) := by
  induction rest generalizing w with
  | nil =>
    rw [parts, parts, List.append_nil, partHeader_true, body, List.map_singleton, List.intercalate_singleton]
    rfl
  | cons next rest ih =>
    have onNewLine : parts content false (next :: rest) = utf8 "\r\n" ++ parts content true (next :: rest) := by
      rw [parts, parts, partHeader_false, partHeader_true]
      simp only [List.append_assoc]
    rw [parts, partHeader_true, onNewLine, ← partText, List.append_assoc, List.append_assoc, ih, body, body,
      List.map_cons, List.map_cons, List.map_cons, List.intercalate_cons_cons]
    simp only [List.append_assoc]

end Multipart

/-! ## Needed bytes -/

namespace Shape

/-- The number of bytes of an artifact, from its start, that a body of the shape depends on. -/
def needed : Shape → Nat
  | whole length => length
  | single window => window.last + 1
  | parts windows => windows.windows.foldr (fun w most => max (w.last + 1) most) 0
  | unsatisfiable => 0

theorem forall_last_lt_iff {windows : List Window} {count : Nat} :
    (∀ w ∈ windows, w.last < count) ↔
      windows.foldr (fun w most => max (w.last + 1) most) 0 ≤ count := by
  induction windows with
  | nil => simp
  | cons w rest ih =>
    rw [List.forall_mem_cons, ih, List.foldr_cons]
    omega

/-- A body of several parts does not depend on bytes behind the last window. -/
theorem multipart_take {content : Bytes} {count : Nat} {windows : List Window}
    (inside : ∀ w ∈ windows, w.last < count) :
    Multipart.body (content.take count) windows = Multipart.body content windows := by
  have same : windows.map (Multipart.partText (content.take count)) = windows.map (Multipart.partText content) := by
    refine List.map_congr_left fun w member => ?_
    rw [Multipart.partText, Multipart.partText, Bytes.slice_take (inside w member)]
  rw [Multipart.body, Multipart.body, same]

/-! ## Parts -/

/-- How the writing of a body may end when the source brings `content`: the sink took a prefix of the body,
whatever might still have come; success means that there was `enough` and that the sink took all; and on
`patient` streams enough is enough. -/
structure WriteEnd (content : Bytes) (patient enough : Prop) (count : Nat) (body : Bytes → Bytes)
    (taken : Bytes) (outcome : Except StreamError Nat) : Prop where
  isPrefix : ∀ data, content <+: data → taken <+: body data
  of_ok : ∀ n, outcome = .ok n → n = count ∧ enough ∧ taken = body content
  of_patient : patient → enough → ∃ n, outcome = .ok n

namespace WriteEnd

variable {content taken : Bytes} {patient enough : Prop} {count : Nat} {body : Bytes → Bytes}
  {outcome : Except StreamError Nat}

theorem of_error {e : StreamError} (isPrefix : ∀ data, content <+: data → taken <+: body data)
    (impatient : patient → ¬ enough) :
    WriteEnd content patient enough count body taken (.error e) :=
  ⟨isPrefix, fun _ same => (by cases same), fun holds isEnough => absurd isEnough (impatient holds)⟩

/-- Where a body begins with a text that could not be written, the sink took a part of that text. -/
theorem of_writeAll_error {text : Bytes} {sink sink' : Sink} {e : IoError}
    (written : sink.writeAll text = (.error e, sink')) (begins : ∀ data, text <+: body data) :
    ∃ taken, sink.Took taken sink' ∧
      WriteEnd content (patient ∧ sink.conduct.Patient) enough count body taken (.error (.io e)) := by
  obtain ⟨taken, left, same, -, takes, impatient⟩ := Sink.writeAll_error written
  refine ⟨taken, takes, .of_error (fun data _ => ?_) fun holds => absurd holds.2 impatient⟩
  have front : taken <+: text := same ▸ List.prefix_append taken left
  exact front.trans (begins data)

theorem imp {other : Prop} (weaker : other → patient)
    (ends : WriteEnd content patient enough count body taken outcome) :
    WriteEnd content other enough count body taken outcome :=
  ⟨ends.isPrefix, ends.of_ok, fun holds => ends.of_patient (weaker holds)⟩

/-- What was written before stands in front. -/
theorem after (front : Bytes) (ends : WriteEnd content patient enough count body taken outcome) :
    WriteEnd content patient enough count (fun data => front ++ body data) (front ++ taken)
      outcome where
  isPrefix := fun data goesOn => (List.prefix_append_right_inj front).2 (ends.isPrefix data goesOn)
  of_ok := by
    intro n same
    obtain ⟨counted, isEnough, all⟩ := ends.of_ok n same
    exact ⟨counted, isEnough, congrArg _ all⟩
  of_patient := ends.of_patient

/-- A failure leaves out what would have followed. -/
theorem stop {e : StreamError} (ends : WriteEnd content patient enough count body taken (.error e))
    (later : Prop) (more : Nat) (back : Bytes → Bytes) :
    WriteEnd content patient (enough ∧ later) more (fun data => body data ++ back data) taken
      (.error e) := by
  apply of_error
  · exact fun data goesOn => (ends.isPrefix data goesOn).trans (List.prefix_append _ _)
  · intro holds isEnough
    obtain ⟨n, complete⟩ := ends.of_patient holds isEnough.1
    cases complete

/-- What was written of bytes that were there does not depend on more of them. -/
theorem append {here : Prop} {front : Bytes → Bytes}
    (ends : WriteEnd content patient enough count body taken outcome) (present : here)
    (fixed : ∀ data, content <+: data → front data = front content) :
    WriteEnd content patient (here ∧ enough) count (fun data => front data ++ body data)
      (front content ++ taken) outcome where
  isPrefix := by
    intro data goesOn
    rw [fixed data goesOn]
    exact (ends.after (front content)).isPrefix data goesOn
  of_ok := by
    intro n same
    obtain ⟨counted, isEnough, all⟩ := ends.of_ok n same
    exact ⟨counted, ⟨present, isEnough⟩, congrArg _ all⟩
  of_patient := fun holds isEnough => ends.of_patient holds isEnough.2

end WriteEnd

/-- The copy of a window writes its slice, from a source of `content` that has been read up to `position`. -/
theorem writeEnd_of_windowEnd {w : Window} {position : Nat} {content passed left taken : Bytes}
    {patient : Prop} {outcome : Except StreamError Nat} (le : position ≤ w.first)
    (rest : content.drop position = passed ++ left)
    (ends : WindowEnd (w.first - position) w.length patient passed left taken outcome) :
    WriteEnd content patient (w.last < content.length) w.length
      (fun data => Bytes.slice data w.first w.last) taken outcome where
  isPrefix := by
    intro data goesOn
    exact ends.isPrefix.trans ((Window.drop_prefix_slice le rest ends.length_le).trans
      (Bytes.isPrefix_slice goesOn _ _))
  of_ok := by
    intro n same
    subst same
    obtain ⟨counted, full, rfl⟩ := ends.of_ok
    obtain ⟨slice, inside, -⟩ := Window.drop_eq_slice le rest full
    exact ⟨counted, inside, slice⟩
  of_patient := by
    intro holds inside
    have lengths := congrArg List.length rest
    rw [List.length_drop, List.length_append] at lengths
    have := w.first_add_length
    exact ⟨w.length, ends.ok_of_patient holds (by omega)⟩

/-- What the writing of parts comes to, from a source of `content` that has been read up to `position`. -/
theorem writeParts_writes {content : Bytes} (windows : List Window) (isFirst : Bool)
    {position : Nat} (shipped : Nat) (events : List Progress.Event) {source : Source} (sink : Sink)
    (ascending : AscendingFrom position windows) (rest : content.drop position = source.rest) :
    ∃ taken, sink.Took taken (writeParts isFirst position shipped events source sink windows).outlet ∧
      WriteEnd content (source.conduct.Patient ∧ sink.conduct.Patient)
        (∀ w ∈ windows, w.last < content.length) (shipped + (windows.map Window.length).sum)
        (fun data => Multipart.parts data isFirst windows ++ Multipart.closing) taken
        (writeParts isFirst position shipped events source sink windows).outcome := by
  induction windows generalizing isFirst position shipped events source sink with
  | nil =>
    unfold writeParts
    split
    · rename_i e k written
      exact WriteEnd.of_writeAll_error written fun _ => List.prefix_rfl
    · rename_i k written
      refine ⟨Multipart.closing, Sink.writeAll_ok written, fun data _ => List.prefix_rfl, ?_, ?_⟩
      · intro n same
        cases same
        exact ⟨rfl, by simp, rfl⟩
      · exact fun _ _ => ⟨shipped, rfl⟩
  | cons w later ih =>
    obtain ⟨le, ascending⟩ := ascending
    have enough_iff : (∀ v ∈ w :: later, v.last < content.length) ↔
        w.last < content.length ∧ ∀ v ∈ later, v.last < content.length := List.forall_mem_cons
    unfold writeParts
    simp only [enough_iff, Multipart.parts, List.append_assoc]
    split
    · rename_i e k written
      exact WriteEnd.of_writeAll_error written fun _ => List.prefix_append _ _
    · rename_i k written
      have header := Sink.writeAll_ok written
      obtain ⟨passed, taken, copied⟩ := copyWindow_copied (w.first - position) w.length source k
      have reads := rest.trans copied.passes.rest
      have slice := writeEnd_of_windowEnd le reads copied.ends
      split
      · rename_i e outcome
        rw [outcome] at slice
        refine ⟨_, header.trans copied.takes, ?_⟩
        exact ((slice.stop _ _ _).after _).imp (And.imp_right header.patient)
      · rename_i count outcome
        obtain ⟨rfl, inside, rfl⟩ := slice.of_ok count outcome
        obtain ⟨-, full, -⟩ := (outcome ▸ copied.ends).of_ok
        obtain ⟨-, -, behind⟩ := Window.drop_eq_slice le reads full
        obtain ⟨more, takes, others⟩ := ih false (shipped + w.length) _ _ ascending behind.symm
        have sum : shipped + w.length + (later.map Window.length).sum =
            shipped + ((w :: later).map Window.length).sum := by
          rw [List.map_cons, List.sum_cons, Nat.add_assoc]
        have fixed (data : Bytes) (goesOn : content <+: data) :
            Bytes.slice data w.first w.last = Bytes.slice content w.first w.last :=
          Bytes.slice_eq_of_prefix goesOn inside
        refine ⟨_, header.trans (copied.takes.trans takes), ?_⟩
        rw [← sum]
        exact ((others.append inside fixed).after _).imp
          (And.imp copied.passes.patient (copied.takes.patient ∘ header.patient))

/-! ## Bodies -/

/-- What the writing of a body comes to before it is flushed. -/
theorem writeContent_writes (shape : Shape) (source : Source) (sink : Sink) :
    ∃ taken, sink.Took taken (shape.writeContent source sink).outlet ∧
      WriteEnd source.rest (source.conduct.Patient ∧ sink.conduct.Patient)
        (shape.needed ≤ source.rest.length) shape.requested
        (fun data => shape.body (data.take shape.needed)) taken
        (shape.writeContent source sink).outcome := by
  cases shape with
  | whole length =>
    obtain ⟨passed, taken, passes, takes, ends⟩ := copyWindow_copied 0 length source sink
    have le := ends.length_le
    have lengths := passes.length_add
    refine ⟨taken, takes, fun data goesOn => ?_, ?_, fun patient enough => ?_⟩
    · have read : passed <+: data := (passes.rest ▸ List.prefix_append passed _).trans goesOn
      refine List.prefix_take_iff.2 ⟨ends.isPrefix.trans read, ?_⟩
      have := ends.isPrefix.length_le
      rw [List.drop_zero] at this
      rw [needed]
      omega
    · intro n outcome
      obtain ⟨rfl, full, same⟩ := (outcome ▸ ends).of_ok
      refine ⟨rfl, by rw [needed]; omega, ?_⟩
      rw [same, passes.rest, List.drop_zero, body, needed, List.take_left' (by omega)]
    · rw [needed] at enough
      exact ⟨length, ends.ok_of_patient patient (by omega)⟩
  | single window =>
    obtain ⟨passed, taken, passes, takes, ends⟩ :=
      copyWindow_copied window.first window.length source sink
    refine ⟨taken, takes, ?_⟩
    simp only [needed, body, Bytes.slice_take (Nat.lt_succ_self _)]
    exact writeEnd_of_windowEnd (Nat.zero_le _) passes.rest ends
  | parts windows =>
    obtain ⟨taken, takes, ends⟩ := writeParts_writes windows.windows true 0 [] sink windows.ascending
      (List.drop_zero (l := source.rest))
    obtain ⟨w, rest, same⟩ := List.exists_cons_of_ne_nil windows.nonempty
    have laidOut (data : Bytes) : Multipart.parts data true windows.windows ++ Multipart.closing =
        Multipart.body data windows.windows := by
      rw [same, Multipart.parts_closing]
    refine ⟨taken, takes, ?_⟩
    simp only [body, multipart_take (forall_last_lt_iff.2 (Nat.le_refl _)), needed, ← forall_last_lt_iff]
    simp only [laidOut, Nat.zero_add] at ends
    exact ends
  | unsatisfiable =>
    refine ⟨[], .refl sink, fun _ _ => List.prefix_rfl, ?_, fun _ _ => ⟨0, rfl⟩⟩
    intro n same
    cases same
    exact ⟨rfl, Nat.zero_le _, rfl⟩

/-- A body that could not be written is not flushed. -/
theorem write_of_error {σ : Type} [Outlet σ] {shape : Shape} {source : Source} {outlet : σ}
    {e : StreamError} (failed : (shape.writeContent source outlet).outcome = .error e) :
    shape.write source outlet = shape.writeContent source outlet := by
  simp only [write, failed]

/-- A body that was written is flushed once, and that decides. -/
theorem write_of_ok {shape : Shape} {source : Source} {sink : Sink} {n : Nat}
    (written : (shape.writeContent source sink).outcome = .ok n) :
    (shape.write source sink).outlet.toList = (shape.writeContent source sink).outlet.toList ∧
      (shape.write source sink).outlet.flushes =
        (shape.writeContent source sink).outlet.flushes + 1 ∧
      (shape.write source sink).outcome =
        match (shape.writeContent source sink).outlet.flushError with
        | none => .ok n
        | some e => .error (.io e) := by
  simp only [write, written, Outlet.flush, Sink.flush]
  rcases (shape.writeContent source sink).outlet.flushError with _ | e
  · exact ⟨rfl, rfl, rfl⟩
  · exact ⟨rfl, rfl, rfl⟩

/-- Whatever a source brings and however a sink takes it, a body is written without an error exactly if the
sink took all of it and was then flushed once without a failure. Otherwise the sink took a prefix of what the
body would be if the source went on; it is flushed at most once, and not after the writing has failed. -/
theorem write_outcome (shape : Shape) (source : Source) (sink : Sink) :
    ∃ taken, (shape.write source sink).outlet.toList = sink.toList ++ taken ∧
      ((∃ n, (shape.write source sink).outcome = .ok n) ↔
        (shape.needed ≤ source.rest.length ∧
            taken = shape.body (source.rest.take shape.needed)) ∧
          (shape.write source sink).outlet.flushes = sink.flushes + 1 ∧ sink.flushError = none) ∧
      (∀ data, source.rest <+: data → taken <+: shape.body (data.take shape.needed)) ∧
      (∀ n, (shape.write source sink).outcome = .ok n → n = shape.requested) ∧
      (shape.write source sink).outlet.flushes ≤ sink.flushes + 1 ∧
      ∀ e, (shape.writeContent source sink).outcome = .error e →
        (shape.write source sink).outcome = .error e ∧
          (shape.write source sink).outlet.flushes = sink.flushes := by
  obtain ⟨taken, takes, ends⟩ := writeContent_writes shape source sink
  refine ⟨taken, ?_⟩
  rcases content : (shape.writeContent source sink).outcome with e | n
  · rw [write_of_error content, content]
    refine ⟨takes.toList, ?_, ends.isPrefix, fun n same => (by cases same), ?_, fun e same => ?_⟩
    · constructor
      · rintro ⟨n, same⟩
        cases same
      · rintro ⟨-, flushed, -⟩
        rw [takes.flushes] at flushed
        omega
    · rw [takes.flushes]
      exact Nat.le_succ _
    · exact ⟨same, takes.flushes⟩
  · obtain ⟨bytes, flushes, outcome⟩ := write_of_ok content
    obtain ⟨rfl, enough, all⟩ := ends.of_ok n content
    rw [takes.flushError] at outcome
    rw [bytes, flushes, takes.flushes, outcome]
    refine ⟨takes.toList, ?_, ends.isPrefix, ?_, Nat.le_refl _, fun e same => (by cases same)⟩
    · rcases sink.flushError with _ | e
      · exact ⟨fun _ => ⟨⟨enough, all⟩, rfl, rfl⟩, fun _ => ⟨_, rfl⟩⟩
      · simp
    · intro n
      rcases sink.flushError with _ | e
      · rintro ⟨⟩
        rfl
      · rintro ⟨⟩

end Shape

end Depot
