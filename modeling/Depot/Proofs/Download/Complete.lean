import Depot.Download.Head
import Depot.Proofs.Body.Written
import Depot.Proofs.Range.Rendering

/-!
# Complete downloads

A download that is framed for an artifact needs no byte behind the end of that artifact
(`Download.fits_of_frame?`). From a source that brings the whole artifact, patient streams therefore carry the
whole body (`Download.write_complete`): neither the sizes of reads and writes nor interruptions can be seen in
what the sink gets.
-/

namespace Depot

namespace Shape

/-- The shape is one for an artifact of `size` bytes. -/
def Fits (size : Nat) : Shape → Prop
  | whole length => length = size
  | single window => window.total = size
  | parts windows => ∀ w ∈ windows.windows, w.total = size
  | unsatisfiable => True

theorem Fits.needed_le {size : Nat} {shape : Shape} (fits : shape.Fits size) :
    shape.needed ≤ size := by
  cases shape with
  | whole length => exact Nat.le_of_eq fits
  | single window => exact fits ▸ window.last_lt_total
  | parts windows =>
    apply forall_last_lt_iff.1
    intro w member
    exact fits w member ▸ w.last_lt_total
  | unsatisfiable => exact Nat.zero_le _

/-- The bytes that a body needs of an artifact it is made for decide what it is. -/
theorem Fits.body_take {content : Bytes} {shape : Shape} (fits : shape.Fits content.length) :
    shape.body (content.take shape.needed) = shape.body content := by
  cases shape with
  | whole length =>
    have whole : length = content.length := fits
    rw [body, needed, whole, List.take_length]
    rfl
  | single window => exact Bytes.slice_take (Nat.lt_succ_self window.last)
  | parts windows =>
    have inside := forall_last_lt_iff.2 (Nat.le_refl (needed (parts windows)))
    exact multipart_take inside
  | unsatisfiable => rfl

end Shape

theorem WindowSet.mem_of_single? {set : WindowSet} {w : Window} (only : set.single? = some w) :
    w ∈ set.windows := by
  unfold single? at only
  split at only
  · rename_i v same
    cases only
    rw [same]
    exact List.mem_singleton_self w
  · cases only

/-- Windows come from a header that was read against the size of the artifact. -/
theorem Choice.windows_of_ranged {artifact : Artifact} {ask : Ask} {range : String}
    {set : WindowSet} (chosen : Choice.of artifact ask = .ranged range set) :
    RangeHeader.windows range artifact.size = .ok set := by
  simp only [Choice.of] at chosen
  split at chosen
  · cases chosen
  · split at chosen
    · split at chosen
      · rename_i served
        cases chosen
        exact served
      · cases chosen
    · cases chosen

/-- Windows that are asked for without a condition are served. -/
theorem Choice.of_windows {artifact : Artifact} {range : String} {set : WindowSet}
    (served : RangeHeader.windows range artifact.size = .ok set) :
    Choice.of artifact ⟨.get, some range, none⟩ = .ranged range set := by
  simp only [of, considered, IfRange.judge, IfRange.Verdict.holds, served, if_true]

theorem Choice.fits_shape (artifact : Artifact) (ask : Ask) :
    ((Choice.of artifact ask).shape artifact).Fits artifact.size := by
  cases chosen : Choice.of artifact ask with
  | plain | changed => rfl
  | refused => trivial
  | ranged range set =>
    have inside := RangeHeader.total_of_windows (windows_of_ranged chosen)
    simp only [shape]
    split
    · rename_i w only
      exact inside w (WindowSet.mem_of_single? only)
    · exact inside

namespace Download

variable {name : String} {artifact : Artifact} {ask : Ask} {download : Download}

theorem shape_of_frame? (framed : frame? name artifact ask = some download) :
    download.shape = (Choice.of artifact ask).shape artifact := by
  obtain ⟨head, -, rfl⟩ := Option.map_eq_some_iff.1 framed
  rfl

theorem fits_of_frame? (framed : frame? name artifact ask = some download) :
    download.shape.Fits artifact.size :=
  shape_of_frame? framed ▸ Choice.fits_shape artifact ask

/-- Whatever was asked for, a download is complete if the source brings all of the artifact: on patient streams
the body is written without an error and counted in full, and the sink has taken exactly its bytes. -/
theorem write_complete {content : Bytes} {source : Source} {sink : Sink}
    (framed : frame? name artifact ask = some download) (size : artifact.size = content.length)
    (brings : source.rest = content) (reads : source.conduct.Patient) (takes : sink.conduct.Patient)
    (flushes : sink.flushError = none) :
    (download.shape.write source sink).outcome = .ok download.shape.requested ∧
      (download.shape.write source sink).outlet.toList =
        sink.toList ++ download.shape.body content := by
  have fits : download.shape.Fits content.length := size ▸ fits_of_frame? framed
  have enough : download.shape.needed ≤ source.rest.length := brings ▸ fits.needed_le
  obtain ⟨taken, moved, ends⟩ := download.shape.writeContent_writes source sink
  obtain ⟨n, content_ok⟩ := ends.of_patient ⟨reads, takes⟩ enough
  obtain ⟨rfl, -, all⟩ := ends.of_ok n content_ok
  obtain ⟨bytes, -, outcome⟩ := Shape.write_of_ok content_ok
  rw [moved.flushError, flushes] at outcome
  rw [brings, fits.body_take] at all
  exact ⟨outcome, by rw [bytes, moved.toList, all]⟩

/-- Two windows out of order, of ten bytes that come in threes after an interruption and go two by two. -/
theorem write_complete_windows : ∃ (download : Download) (source : Source) (sink : Sink),
    frame? "a.bin" ⟨10, "c0ffee", none⟩ ⟨.get, some "bytes=-2,0-3", none⟩ = some download ∧
      source = .ofBytes [0, 1, 2, 3, 4, 5, 6, 7, 8, 9]
        ⟨fun _ => some 3, [⟨3, some ⟨.interrupted, "again"⟩, 2⟩]⟩ ∧
      sink = { conduct := .steady 2 } ∧
      (download.shape.write source sink).outcome = .ok 6 ∧
      (download.shape.write source sink).outlet.toList =
        Multipart.body [0, 1, 2, 3, 4, 5, 6, 7, 8, 9]
          [⟨0, 3, 10, by decide, by decide⟩, ⟨8, 9, 10, by decide, by decide⟩] := by
  have paced (most : Nat) (pos : 0 < most) (faults : List Fault)
      (interrupts : ∀ f ∈ faults, 0 < f.times → ∃ e, f.error = some e ∧ e.isInterrupted = true) :
      Conduct.Patient ⟨fun _ => some most, faults⟩ :=
    ⟨fun _ _ same => Option.some.inj same ▸ pos, interrupts⟩
  have reads := paced 3 (by decide) [⟨3, some ⟨.interrupted, "again"⟩, 2⟩]
    (by simp [IoError.isInterrupted])
  have takes := paced 2 (by decide) [] (by simp)
  obtain ⟨download, framed⟩ : ∃ download, frame? "a.bin" ⟨10, "c0ffee", none⟩
      ⟨.get, some "bytes=-2,0-3", none⟩ = some download := ⟨_, rfl⟩
  let pair : List Window := [⟨0, 3, 10, by decide, by decide⟩, ⟨8, 9, 10, by decide, by decide⟩]
  obtain ⟨set, windows⟩ : ∃ set : WindowSet, set.windows = pair :=
    ⟨⟨pair, List.cons_ne_nil _ _, by decide⟩, rfl⟩
  have read : RangeHeader.windows "bytes=-2,0-3" 10 = RangeHeader.assemble set.windows.reverse := by
    rw [windows]
    rfl
  have served := read.trans (RangeHeader.assemble_of_perm (List.reverse_perm _) (RangeHeader.assemble_windows set))
  have divided : download.shape = .parts set := by
    have chosen : Choice.of ⟨10, "c0ffee", none⟩ ⟨.get, some "bytes=-2,0-3", none⟩ = .ranged _ set :=
      Choice.of_windows served
    have several : set.single? = none := by rw [WindowSet.single?, windows]
    rw [shape_of_frame? framed, chosen, Choice.shape, several]
  have count : download.shape.requested = 6 := by
    rw [divided, Shape.requested, WindowSet.length, windows]
    rfl
  have laidOut (content : Bytes) : download.shape.body content = Multipart.body content pair := by
    rw [divided, Shape.body, windows]
  have brings : (Source.ofBytes [0, 1, 2, 3, 4, 5, 6, 7, 8, 9]
      ⟨fun _ => some 3, [⟨3, some ⟨.interrupted, "again"⟩, 2⟩]⟩).rest = [0, 1, 2, 3, 4, 5, 6, 7, 8, 9] := rfl
  have flushes : Sink.flushError { conduct := .steady 2 } = none := rfl
  obtain ⟨outcome, taken⟩ := write_complete framed rfl brings reads takes flushes
  exact ⟨download, _, _, framed, rfl, rfl, outcome.trans (congrArg Except.ok count), taken.trans (laidOut _)⟩

end Download

end Depot
