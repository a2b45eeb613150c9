import Depot.Proofs.Body.Reading
import Depot.Proofs.Download.Description
import Depot.Proofs.Range.Rendering

/-!
# Parts that are received

The boundary of a body of several parts never changes, so an artifact may well hold it.
`Download.parts_received_iff` says when that matters: a receiver who knows nothing but the boundary from the head
finds one part for each window, with its label and its bytes, exactly if no window holds a delimiter, where the
line end that the receiver sees before the bytes of a window belongs to it.
-/

namespace Depot

/-- The boundary that a head announces. -/
def Head.boundary? (head : Head) : Option String :=
  ((head.fields.get? "content-type").bind readText?).bind Multipart.boundaryOf?

/-- The parts that a receiver finds in a body who knows its boundary from the head. -/
def Multipart.receive? (head : Head) (body : Bytes) : Option (List Part) :=
  head.boundary?.bind fun boundary => read? boundary body

/-- The part has the label and the bytes of a window. -/
def Multipart.Part.Carries (content : Bytes) (w : Window) (part : Part) : Prop :=
  part.value? "Content-Range" = some (utf8 (contentRangeText w.first w.last w.total)) ∧
    part.content = Bytes.slice content w.first w.last

namespace Multipart

variable {content : Bytes} {windows : List Window}

theorem carries_ofWindow (content : Bytes) (w : Window) : (Part.ofWindow content w).Carries content w :=
  ⟨value?_ofWindow content w, rfl⟩

theorem contents_of_carries {parts : List Part} (carries : List.Forall₂ (Part.Carries content) windows parts) :
    parts.map Part.content = (windows.map (Part.ofWindow content)).map Part.content := by
  induction carries with
  | nil => rfl
  | cons first _ ih => rw [List.map_cons, List.map_cons, List.map_cons, ih, first.2]; rfl

/-- The windows of a body are read as they are exactly if none holds a delimiter. -/
theorem exists_read?_body_iff (content : Bytes) (nonempty : windows ≠ []) :
    (∃ parts, read? boundary (body content windows) = some parts ∧
        List.Forall₂ (Part.Carries content) windows parts) ↔
      ∀ w ∈ windows, ¬ utf8 delimiter <:+: utf8 lineEnd ++ Bytes.slice content w.first w.last := by
  have unbroken : 13 ∉ utf8 boundary := IsPlainText.not_mem_utf8 (by decide) (by decide)
  have tidy : ∀ p ∈ windows.map (Part.ofWindow content), p.Tidy :=
    List.forall_mem_map.2 fun w _ => Part.tidy_ofWindow content w
  have clear : (∀ p ∈ windows.map (Part.ofWindow content), p.Clear boundary) ↔
      ∀ w ∈ windows, ¬ utf8 delimiter <:+: utf8 lineEnd ++ Bytes.slice content w.first w.last := by
    rw [List.forall_mem_map]
    rfl
  rw [← clear, body_eq_framed content nonempty]
  constructor
  · rintro ⟨parts, read, carries⟩
    exact (exists_read?_framed_iff unbroken tidy).1 ⟨parts, read, contents_of_carries carries⟩
  · intro clear
    refine ⟨_, read?_framed unbroken tidy clear, ?_⟩
    rw [List.forall₂_map_right_iff, List.forall₂_same]
    exact fun w _ => carries_ofWindow content w

end Multipart

namespace Download

variable {name : String} {artifact : Artifact} {ask : Ask} {download : Download} {content : Bytes}

/-- Every body that is written without an error from all of the artifact is `body`, and on patient streams it is
written without an error. -/
def Yields (download : Download) (content body : Bytes) : Prop :=
  ∀ (source : Source) (sink : Sink), source.rest = content →
    (∀ n, (download.shape.write source sink).outcome = .ok n →
      (download.shape.write source sink).outlet.toList = sink.toList ++ body) ∧
    (source.conduct.Patient → sink.conduct.Patient → sink.flushError = none →
      ∃ n, (download.shape.write source sink).outcome = .ok n)

theorem yields_of_frame? (framed : frame? name artifact ask = some download)
    (size : artifact.size = content.length) : download.Yields content (download.shape.body content) := by
  have fits : download.shape.Fits content.length := size ▸ fits_of_frame? framed
  intro source sink brings
  refine ⟨fun n done => Shape.toList_of_write_ok fits brings done, fun reads takes flushes => ?_⟩
  exact Shape.write_ok_of_patient (brings ▸ fits.needed_le) reads takes flushes

/-- The head of a body of several parts announces the boundary between them. -/
theorem boundary?_of_frame? (framed : frame? name artifact ask = some download) {set : WindowSet}
    (divided : download.shape = .parts set) : download.head.boundary? = some Multipart.boundary := by
  obtain ⟨date, -, -, head⟩ := frame?_eq_some_iff.1 framed
  have type : download.head.fields.get? "content-type" = some (utf8 Multipart.contentType) := by
    simp [head, divided, Head.withShape]
  have plain : IsPlainText Multipart.contentType := by decide
  rw [Head.boundary?, type, Option.bind_some, readText?_utf8 plain, Option.bind_some]
  rfl

/-- Parts that are read at the boundary which the head names are the windows that were asked for, in order and
byte for byte, exactly if no window holds a delimiter. -/
theorem parts_received_iff (framed : frame? name artifact ask = some download)
    (size : artifact.size = content.length) {set : WindowSet} (divided : download.shape = .parts set) :
    ∃ body, download.Yields content body ∧
      ((∃ parts, Multipart.receive? download.head body = some parts ∧
          List.Forall₂ (Multipart.Part.Carries content) set.windows parts) ↔
        ∀ w ∈ set.windows, ¬ utf8 Multipart.delimiter <:+:
          utf8 Multipart.lineEnd ++ Bytes.slice content w.first w.last) := by
  refine ⟨_, yields_of_frame? framed size, ?_⟩
  rw [Multipart.receive?, boundary?_of_frame? framed divided, Option.bind_some, divided]
  exact Multipart.exists_read?_body_iff content set.nonempty

/-- The last and the first of three bytes are received in order. -/
theorem parts_received_reversed : ∃ download set body,
    frame? "a.bin" ⟨3, "v1", none⟩ ⟨.get, some "bytes=-1,0-0", none⟩ = some download ∧
      download.shape = .parts set ∧ download.Yields [7, 8, 9] body ∧
      ∃ parts, Multipart.receive? download.head body = some parts ∧
        List.Forall₂ (Multipart.Part.Carries [7, 8, 9]) set.windows parts := by
  obtain ⟨download, framed⟩ : ∃ download,
      frame? "a.bin" ⟨3, "v1", none⟩ ⟨.get, some "bytes=-1,0-0", none⟩ = some download := ⟨_, rfl⟩
  let set : WindowSet := ⟨[⟨0, 0, 3, by decide, by decide⟩, ⟨2, 2, 3, by decide, by decide⟩],
    by decide, by decide⟩
  have read : RangeHeader.windows "bytes=-1,0-0" 3 = RangeHeader.assemble set.windows.reverse := by rfl
  have served := read.trans (RangeHeader.assemble_of_perm (List.reverse_perm _) (RangeHeader.assemble_windows set))
  have divided : download.shape = .parts set := by
    have chosen : Choice.of ⟨3, "v1", none⟩ ⟨.get, some "bytes=-1,0-0", none⟩ = .ranged _ set :=
      Choice.of_windows served
    rw [shape_of_frame? framed, chosen]
    rfl
  have size : (Artifact.mk 3 "v1" none).size = [7, 8, (9 : UInt8)].length := rfl
  obtain ⟨body, yields, received⟩ := parts_received_iff framed size divided
  exact ⟨download, _, body, framed, divided, yields, received.2 (by decide)⟩

/-- An artifact that begins with the delimiter is not received: the part that holds it ends before it. -/
theorem parts_not_received_delimiter : ∃ download set body,
    frame? "a.bin" ⟨36, "v1", none⟩ ⟨.get, some "bytes=0-34,35-35", none⟩ = some download ∧
      download.shape = .parts set ∧ download.Yields (utf8 Multipart.delimiter ++ [33]) body ∧
      ¬ ∃ parts, Multipart.receive? download.head body = some parts ∧
        List.Forall₂ (Multipart.Part.Carries (utf8 Multipart.delimiter ++ [33])) set.windows parts := by
  obtain ⟨download, framed⟩ : ∃ download,
      frame? "a.bin" ⟨36, "v1", none⟩ ⟨.get, some "bytes=0-34,35-35", none⟩ = some download := ⟨_, rfl⟩
  let set : WindowSet := ⟨[⟨0, 34, 36, by decide, by decide⟩, ⟨35, 35, 36, by decide, by decide⟩],
    by decide, by decide⟩
  have read : RangeHeader.windows "bytes=0-34,35-35" 36 = RangeHeader.assemble set.windows := by rfl
  have served := read.trans (RangeHeader.assemble_windows set)
  have divided : download.shape = .parts set := by
    have chosen : Choice.of ⟨36, "v1", none⟩ ⟨.get, some "bytes=0-34,35-35", none⟩ = .ranged _ set :=
      Choice.of_windows served
    rw [shape_of_frame? framed, chosen]
    rfl
  have size : (Artifact.mk 36 "v1" none).size = (utf8 Multipart.delimiter ++ [33]).length := by decide
  refine ⟨download, _, _, framed, divided, yields_of_frame? framed size, ?_⟩
  rw [Multipart.receive?, boundary?_of_frame? framed divided, Option.bind_some, divided]
  intro received
  have clear := (Multipart.exists_read?_body_iff _ (List.cons_ne_nil _ _)).1 received
  exact clear _ List.mem_cons_self (by decide)

end Download

end Depot
