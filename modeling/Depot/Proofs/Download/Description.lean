import Depot.Proofs.Body.Framing
import Depot.Proofs.Download.Complete
import Depot.Proofs.Download.Head

/-!
# What a head says of the body

Head and body of a download are made from one shape, the head before the first byte is read and the body much
later. `Head.Describes` states what a client may conclude about the body from status and fields alone, without
regard to the shape: which bytes it holds, where they lie in the artifact, how many there are, and how parts are
told apart. `Download.head_describes_body` says that whatever is asked for, every body that is written from the
whole artifact fits its head.
-/

namespace Depot

/-! ## Written bodies -/

namespace Shape

variable {shape : Shape} {source : Source} {sink : Sink} {content : Bytes}

/-- A body that was written without an error from all of an artifact is the body of that artifact. -/
theorem toList_of_write_ok {n : Nat} (fits : shape.Fits content.length) (brings : source.rest = content)
    (done : (shape.write source sink).outcome = .ok n) :
    (shape.write source sink).outlet.toList = sink.toList ++ shape.body content := by
  obtain ⟨taken, takes, ends⟩ := shape.writeContent_writes source sink
  rcases written : (shape.writeContent source sink).outcome with e | count
  · rw [write_of_error written, written] at done
    cases done
  · obtain ⟨bytes, -, -⟩ := write_of_ok written
    obtain ⟨-, -, all⟩ := ends.of_ok count written
    rw [bytes, takes.toList, all, brings, fits.body_take]

theorem write_ok_of_patient (enough : shape.needed ≤ source.rest.length) (reads : source.conduct.Patient)
    (takes : sink.conduct.Patient) (flushes : sink.flushError = none) :
    ∃ n, (shape.write source sink).outcome = .ok n := by
  obtain ⟨taken, moved, ends⟩ := shape.writeContent_writes source sink
  obtain ⟨n, written⟩ := ends.of_patient ⟨reads, takes⟩ enough
  obtain ⟨-, -, outcome⟩ := write_of_ok written
  rw [moved.flushError, flushes] at outcome
  exact ⟨n, outcome⟩

/-- A refused request leaves the source alone. -/
theorem source_of_refused (refused : shape.status = 416) (source : Source) (sink : Sink) :
    (shape.write source sink).source = source := by
  cases shape with
  | whole | single | parts => cases refused
  | unsatisfiable =>
    simp only [write, writeContent]
    split <;> rfl

end Shape

theorem Window.length_slice {content : Bytes} (w : Window) (inside : w.last < content.length) :
    (Bytes.slice content w.first w.last).length = w.length := by
  have := w.first_le_last
  rw [Bytes.length_slice content inside, Window.length]
  omega

/-! ## Descriptions -/

/-- The part is labelled as the positions `first..last` of a content and holds exactly these. -/
structure Multipart.Part.LiesAt (part : Part) (content : Bytes) (first last : Nat) : Prop where
  label : part.value? "Content-Range" = some (utf8 (contentRangeText first last content.length))
  first_le_last : first ≤ last
  last_lt_length : last < content.length
  content : part.content = Bytes.slice content first last

theorem Multipart.liesAt_ofWindow {content : Bytes} {w : Window} (inside : w.total = content.length) :
    (Part.ofWindow content w).LiesAt content w.first w.last where
  label := inside ▸ value?_ofWindow content w
  first_le_last := w.first_le_last
  last_lt_length := inside ▸ w.last_lt_total
  content := rfl

namespace Head

/-- What the head of a download says of the body is true of `body`, for an artifact with the given content. -/
structure Describes (head : Head) (content body : Bytes) : Prop where
  status : head.status = 200 ∨ head.status = 206 ∨ head.status = 416
  whole : head.status = 200 → body = content ∧ head.fields.get? "content-range" = none ∧
    head.fields.get? "content-length" = some (utf8 (decimal body.length))
  place : ∀ value, head.status = 206 → head.fields.get? "content-range" = some value →
    ∃ first last total, value = utf8 (contentRangeText first last total)
  window : ∀ first last total, head.status = 206 →
    head.fields.get? "content-range" = some (utf8 (contentRangeText first last total)) →
      total = content.length ∧ first ≤ last ∧ last < total ∧ body = Bytes.slice content first last ∧
        head.fields.get? "content-length" = some (utf8 (decimal body.length))
  parts : head.status = 206 → head.fields.get? "content-range" = none →
    head.fields.get? "content-length" = none ∧
      ∃ boundary parts, head.fields.get? "content-type" =
          some (utf8 ("multipart/byteranges; boundary=" ++ boundary)) ∧
        body = Multipart.framed boundary parts ∧ 2 ≤ parts.length ∧
        ∃ places : List (Nat × Nat), places.Pairwise (fun p q => p.2 < q.1) ∧
          List.Forall₂ (fun part place => part.LiesAt content place.1 place.2) parts places
  refused : head.status = 416 → body = [] ∧ head.fields.get? "content-length" = none ∧
    head.fields.get? "content-range" = some (utf8 ("bytes */" ++ decimal content.length))

/-! ## The four shapes -/

theorem get?_artifactFields_length (name : String) (date : Option String) (artifact : Artifact) :
    (artifactFields name date artifact).get? "content-length" = none := by
  simp [artifactFields, get?_withTag, get?_withDate]

theorem get?_artifactFields_range (name : String) (date : Option String) (artifact : Artifact) :
    (artifactFields name date artifact).get? "content-range" = none := by
  simp [artifactFields, get?_withTag, get?_withDate]

variable {artifact : Artifact} {fields : Fields} {content : Bytes}

theorem describes_whole (noRange : fields.get? "content-range" = none) :
    Describes ⟨200, withShape artifact (.whole content.length) fields⟩ content content where
  status := .inl rfl
  whole := fun _ => ⟨rfl, by simp [withShape, noRange], by simp [withShape]⟩
  place := by simp
  window := by simp
  parts := by simp
  refused := by simp

/-- The label of a window names its ends and no others. -/
theorem describes_single {w : Window} (inside : w.total = content.length) :
    Describes ⟨206, withShape artifact (.single w) fields⟩ content
      (Bytes.slice content w.first w.last) where
  status := .inr (.inl rfl)
  whole := by simp
  place := by
    intro value _ found
    have label : utf8 w.contentRange = value := by simpa [withShape] using found
    exact ⟨w.first, w.last, w.total, label.symm⟩
  window := by
    intro first last total _ found
    have label : utf8 w.contentRange = utf8 (contentRangeText first last total) := by
      simpa [withShape] using found
    have plain := isPlainText_contentRangeText
    obtain ⟨rfl, rfl, rfl⟩ := contentRangeText_inj.1 (eq_of_utf8_eq (plain _ _ _) (plain _ _ _) label)
    have shown : (withShape artifact (.single w) fields).get? "content-length" =
        some (utf8 (decimal w.length)) := by
      simp [withShape]
    rw [w.length_slice (inside ▸ w.last_lt_total)]
    exact ⟨inside, w.first_le_last, w.last_lt_total, rfl, shown⟩
  parts := by simp [withShape]
  refused := by simp

theorem describes_parts {set : WindowSet} (inside : ∀ w ∈ set.windows, w.total = content.length)
    (several : 2 ≤ set.windows.length) (noRange : fields.get? "content-range" = none)
    (noLength : fields.get? "content-length" = none) :
    Describes ⟨206, withShape artifact (.parts set) fields⟩ content
      (Multipart.body content set.windows) where
  status := .inr (.inl rfl)
  whole := by simp
  place := by simp [withShape, noRange]
  window := by simp [withShape, noRange]
  parts := by
    intro _ _
    have typed : (withShape artifact (.parts set) fields).get? "content-type" =
        some (utf8 Multipart.contentType) := by
      simp [withShape]
    refine ⟨by simp [withShape, noLength], Multipart.boundary, set.windows.map (.ofWindow content), typed,
      Multipart.body_eq_framed content set.nonempty, by rwa [List.length_map],
      set.windows.map fun w => (w.first, w.last), ?_, ?_⟩
    · exact List.pairwise_map.2 set.pairwise
    · rw [List.forall₂_map_left_iff, List.forall₂_map_right_iff, List.forall₂_same]
      intro w member
      exact Multipart.liesAt_ofWindow (inside w member)
  refused := by simp

theorem describes_unsatisfiable (size : artifact.size = content.length)
    (noLength : fields.get? "content-length" = none) :
    Describes ⟨416, withShape artifact .unsatisfiable fields⟩ content [] where
  status := .inr (.inr rfl)
  whole := by simp
  place := by simp
  window := by simp
  parts := by simp
  refused := fun _ => ⟨rfl, by simp [withShape, noLength], by simp [withShape, size, unsatisfiedContentRange]⟩

end Head

/-! ## Downloads -/

/-- A body has parts only if there are two windows at least. -/
theorem Choice.two_le_of_parts {artifact : Artifact} {choice : Choice} {set : WindowSet}
    (divided : choice.shape artifact = .parts set) : 2 ≤ set.windows.length := by
  have several {set : WindowSet} (notOne : set.single? = none) : 2 ≤ set.windows.length := by
    obtain ⟨windows, nonempty, ascending⟩ := set
    rcases windows with _ | ⟨v, _ | ⟨w, rest⟩⟩
    · exact absurd rfl nonempty
    · cases notOne
    · exact Nat.le_add_left 2 rest.length
  cases choice with
  | plain | changed | refused => cases divided
  | ranged range windows =>
    simp only [shape] at divided
    split at divided
    · cases divided
    · rename_i notOne
      cases divided
      exact several notOne

namespace Download

variable {name : String} {artifact : Artifact} {ask : Ask} {download : Download} {content : Bytes}

theorem describes_of_frame? (framed : frame? name artifact ask = some download)
    (size : artifact.size = content.length) :
    download.head.Describes content (download.shape.body content) := by
  have fits : download.shape.Fits content.length := size ▸ fits_of_frame? framed
  obtain ⟨date, -, shaped, head⟩ := frame?_eq_some_iff.1 framed
  have noRange := Head.get?_artifactFields_range name date artifact
  have noLength := Head.get?_artifactFields_length name date artifact
  rw [head]
  cases shape : download.shape with
  | whole length =>
    rw [shape] at fits
    cases fits
    exact Head.describes_whole noRange
  | single w =>
    rw [shape] at fits
    exact Head.describes_single fits
  | parts set =>
    rw [shape] at fits shaped
    exact Head.describes_parts fits (Choice.two_le_of_parts shaped.symm) noRange noLength
  | unsatisfiable => exact Head.describes_unsatisfiable size noLength

/-- Whatever is asked for, the head names the artifact and tells the truth about the body: every body that is
written without an error from all of the artifact is the one described, and on patient streams it is written
without an error. If no window can be served, the source is left alone. -/
theorem head_describes_body {artifact : Artifact} {content : Bytes} (size : artifact.size = content.length)
    (free : IsControlFree artifact.hash) (dated : artifact.Dated) (name : String) (ask : Ask) :
    ∃ download body, frame? name artifact ask = some download ∧
      download.head.Describes content body ∧ download.head.Identifies name artifact ∧
      download.head.fields.get? "etag" = some (utf8 ("\"" ++ artifact.hash ++ "\"")) ∧
      (∀ (source : Source) (sink : Sink), source.rest = content →
        (∀ n, (download.shape.write source sink).outcome = .ok n →
          (download.shape.write source sink).outlet.toList = sink.toList ++ body) ∧
        (source.conduct.Patient → sink.conduct.Patient → sink.flushError = none →
          ∃ n, (download.shape.write source sink).outcome = .ok n)) ∧
      (download.head.status = 416 → ∀ (source : Source) (sink : Sink),
        (download.shape.write source sink).source = source) := by
  obtain ⟨download, framed⟩ := exists_frame? dated name ask
  have fits : download.shape.Fits content.length := size ▸ fits_of_frame? framed
  have identifies := identifies_of_frame? framed
  refine ⟨download, download.shape.body content, framed, describes_of_frame? framed size, identifies,
    identifies.tagged free, ?_, ?_⟩
  · intro source sink brings
    refine ⟨fun n done => Shape.toList_of_write_ok fits brings done, fun reads takes flushes => ?_⟩
    exact Shape.write_ok_of_patient (brings ▸ fits.needed_le) reads takes flushes
  · intro refused source sink
    obtain ⟨date, -, -, head⟩ := frame?_eq_some_iff.1 framed
    rw [head] at refused
    exact Shape.source_of_refused refused source sink

/-- The last and the first of three bytes are asked for. -/
theorem head_describes_body_divided :
    (3 = [7, 8, (9 : UInt8)].length ∧ IsControlFree "v1" ∧
        (Artifact.mk 3 "v1" (some ⟨1700000000, 0⟩)).Dated) ∧
      ∃ download body,
        frame? "a.bin" ⟨3, "v1", some ⟨1700000000, 0⟩⟩ ⟨.get, some "bytes=-1,0-0", none⟩ = some download ∧
        download.head.Describes [7, 8, 9] body ∧
        download.head.Identifies "a.bin" ⟨3, "v1", some ⟨1700000000, 0⟩⟩ ∧
        download.head.fields.get? "etag" = some (utf8 "\"v1\"") := by
  have dated : (Artifact.mk 3 "v1" (some ⟨1700000000, 0⟩)).Dated := by
    rintro moment ⟨⟩
    decide
  have free : IsControlFree "v1" := Head.isSendable_iff.1 (by decide)
  have size : (Artifact.mk 3 "v1" (some ⟨1700000000, 0⟩)).size = [7, 8, (9 : UInt8)].length := rfl
  obtain ⟨download, body, framed, describes, identifies, tagged, -⟩ :=
    head_describes_body size free dated "a.bin" ⟨.get, some "bytes=-1,0-0", none⟩
  have quoted : "\"" ++ "v1" ++ "\"" = "\"v1\"" := by decide
  exact ⟨⟨rfl, free, dated⟩, download, body, framed, describes, identifies, quoted ▸ tagged⟩

end Download

end Depot
