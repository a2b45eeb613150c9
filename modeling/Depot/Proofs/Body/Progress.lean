import Depot.Proofs.Body.Arithmetic
import Depot.Proofs.Stream.Shipment

/-!
# Progress of a body

The reports on a body are those of its windows one after another, and each window begins to count anew, while
what the whole body is to carry is added up from the lengths of the windows. `Shape.write_progress` says that
the running sum of the reports fits this: it is on track after every report, wherever the writing stops, and a
body that was written is reported to the last byte.
-/

namespace Depot

/-- The running sum of the first `k` reports of a run that is to carry `requested` bytes. -/
def CopyRun.progress {σ : Type} (run : CopyRun σ) (requested k : Nat) : Shipment :=
  ({ requested := requested } : Shipment).noteAll (run.events.take k)

namespace Shape

variable {σ : Type} [Outlet σ]

/-- Parts that were all written carry the bytes of their windows, and these are what was reported. -/
theorem writeParts_ok (windows : List Window) (isFirst : Bool) (position shipped : Nat)
    (events : List Progress.Event) (source : Source) (outlet : σ) {n : Nat}
    (ok : (writeParts isFirst position shipped events source outlet windows).outcome = .ok n) :
    n = shipped + (windows.map Window.length).sum ∧
      Progress.reported (writeParts isFirst position shipped events source outlet windows).events =
        Progress.reported events + (windows.map Window.length).sum := by
  induction windows generalizing isFirst position shipped events source outlet with
  | nil =>
    unfold writeParts at ok ⊢
    split at ok
    · cases ok
    · cases ok
      exact ⟨rfl, rfl⟩
  | cons w rest ih =>
    unfold writeParts at ok ⊢
    split at ok
    · cases ok
    · rename_i k written
      dsimp only at ok ⊢
      have reports := copyWindow_reports (w.first - position) w.length source k
      split at ok
      · cases ok
      · rename_i count copied
        obtain rfl := reports.of_ok count copied
        obtain ⟨counted, reported⟩ := ih _ _ _ _ _ _ ok
        rw [Progress.reported_append, reports.reported_of_ok _ copied] at reported
        rw [List.map_cons, List.sum_cons, ← Nat.add_assoc, ← Nat.add_assoc]
        exact ⟨counted, reported⟩

theorem writeContent_of_write_ok {shape : Shape} {source : Source} {outlet : σ} {n : Nat}
    (ok : (shape.write source outlet).outcome = .ok n) : (shape.writeContent source outlet).outcome = .ok n := by
  unfold write at ok
  dsimp only at ok
  split at ok
  · exact ok
  · rename_i count copied
    split at ok
    · cases ok
    · rw [copied]
      exact ok

/-- A body that was written carries what it was to carry, and this is what was reported. -/
theorem write_ok (shape : Shape) (source : Source) (outlet : σ) {n : Nat}
    (ok : (shape.write source outlet).outcome = .ok n) :
    n = shape.requested ∧ Progress.reported (shape.write source outlet).events = shape.requested := by
  have content := writeContent_of_write_ok ok
  rw [events_write]
  cases shape with
  | whole length =>
    have reports := copyWindow_reports 0 length source outlet
    exact ⟨reports.of_ok n content, reports.reported_of_ok n content⟩
  | single window =>
    have reports := copyWindow_reports window.first window.length source outlet
    exact ⟨reports.of_ok n content, reports.reported_of_ok n content⟩
  | parts windows =>
    have parts := writeParts_ok windows.windows true 0 0 [] source outlet content
    rw [show Progress.reported [] = 0 from rfl, Nat.zero_add] at parts
    exact parts
  | unsatisfiable =>
    cases content
    exact ⟨rfl, rfl⟩

/-- Whatever the source brings and however the outlet takes it: after every report the sum of the reports is
within what the body is to carry, its percentage never falls, is at most 100, and is 100 exactly if the sum is
complete, which it is exactly if it is all that was requested; and if the body was written, the count that is
returned, the sum and what was requested are one number. -/
theorem write_progress (shape : Shape) (source : Source) (outlet : σ) :
    (∀ k, ((shape.write source outlet).progress shape.requested k).OnTrack) ∧
      (∀ j k, j ≤ k → ((shape.write source outlet).progress shape.requested j).percent ≤
        ((shape.write source outlet).progress shape.requested k).percent) ∧
      ∀ n, (shape.write source outlet).outcome = .ok n →
        let whole := ({ requested := shape.requested } : Shipment).noteAll (shape.write source outlet).events
        n = whole.shipped ∧ n = whole.requested ∧ whole.isComplete = true := by
  obtain ⟨reported, -⟩ := shape.write_reports source outlet
  have room : 0 + Progress.reported (shape.write source outlet).events ≤ shape.requested := by
    rw [Nat.zero_add]
    exact reported
  have onTrack (k : Nat) := Shipment.onTrack_noteAll_take (s := { requested := shape.requested }) room k
  refine ⟨onTrack, fun j k le => Shipment.percent_noteAll_take_mono _ _ le, fun n ok => ?_⟩
  obtain ⟨count, all⟩ := shape.write_ok source outlet ok
  intro whole
  have shipped : whole.shipped = shape.requested := by
    rw [Shipment.noteAll_shipped, all]
    exact Nat.zero_add _
  have requested : whole.requested = shape.requested := Shipment.noteAll_requested _ _
  have last := onTrack (shape.write source outlet).events.length
  rw [List.take_length] at last
  refine ⟨count.trans shipped.symm, count.trans requested.symm, last.isComplete_iff.2 ?_⟩
  exact shipped.trans requested.symm

end Shape

end Depot
