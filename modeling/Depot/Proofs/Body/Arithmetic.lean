import Depot.Proofs.Body.Alike
import Depot.Proofs.Download.Complete
import Depot.Proofs.Stream.Arithmetic

/-!
# Bodies in 64 bits

`Shape.write?` writes a body as `Shape.write` does, with all positions, lengths and counts as numbers of 64
bits, and comes to nothing if one of them leaves its range. `Shape.within_word` says that this never happens to
an answer about an artifact whose size has 64 bits: not to the windows of its header, not to the body, whatever
source it is read from and whatever outlet it is written to, and not to the sum of its reports. What keeps the
way from one window to the next from falling below zero is that windows ascend.
-/

namespace Depot

namespace Shape

section Write

variable {σ : Type} [Outlet σ]

/-- The number of artifact bytes in the body. -/
def requested? : Shape → Option Nat
  | whole length => some length
  | single window => window.length?
  | parts windows => windows.length?
  | unsatisfiable => some 0

/-- Writes the parts of some windows and the closing delimiter. -/
def writeParts? (isFirst : Bool) (position shipped : Nat) (events : List Progress.Event)
    (source : Source) (outlet : σ) : List Window → Option (CopyRun σ)
  | [] =>
    match Outlet.writeAll Multipart.closing outlet with
    | (.error e, outlet') => some ⟨.error (.io e), source, outlet', events⟩
    | (.ok (), outlet') => some ⟨.ok shipped, source, outlet', events⟩
  | w :: rest =>
    match Outlet.writeAll (Multipart.partHeader isFirst w) outlet with
    | (.error e, outlet') => some ⟨.error (.io e), source, outlet', events⟩
    | (.ok (), outlet') =>
      match Word.sub? w.first position, w.length? with
      | some skip, some length =>
        match copyWindow? skip length source outlet' with
        | none => none
        | some run =>
          match run.outcome with
          | .error e => some ⟨.error e, run.source, run.outlet, events ++ run.events⟩
          | .ok count =>
            match Word.add? w.last 1, Word.add? shipped count with
            | some behind, some counted =>
              writeParts? false behind counted (events ++ run.events) run.source run.outlet rest
            | _, _ => none
      | _, _ => none

/-- Writes the body without passing on what the outlet holds back. -/
def writeContent? (shape : Shape) (source : Source) (outlet : σ) : Option (CopyRun σ) :=
  match shape with
  | whole length => copyWindow? 0 length source outlet
  | single window =>
    match window.length? with
    | none => none
    | some length => copyWindow? window.first length source outlet
  | parts windows => writeParts? true 0 0 [] source outlet windows.windows
  | unsatisfiable => some ⟨.ok 0, source, outlet, []⟩

/-- Writes the body and, if all of it was written, flushes the outlet once. -/
def write? (shape : Shape) (source : Source) (outlet : σ) : Option (CopyRun σ) :=
  match shape.writeContent? source outlet with
  | none => none
  | some run =>
    match run.outcome with
    | .error _ => some run
    | .ok count =>
      match Outlet.flush run.outlet with
      | (.error e, outlet') => some { run with outcome := .error (.io e), outlet := outlet' }
      | (.ok (), outlet') => some { run with outcome := .ok count, outlet := outlet' }

/-! ## Parts -/

variable {size : Nat}

/-- The parts of windows that ascend from the position reached are written alike in 64 bits. -/
theorem writeParts?_eq (small : size < wordBound) (windows : List Window) (isFirst : Bool) {position : Nat}
    (shipped : Nat) (events : List Progress.Event) (source : Source) (outlet : σ)
    (ascending : AscendingFrom position windows) (inside : ∀ w ∈ windows, w.total = size)
    (fits : shipped + (windows.map Window.length).sum ≤ size) :
    writeParts? isFirst position shipped events source outlet windows =
      some (writeParts isFirst position shipped events source outlet windows) := by
  induction windows generalizing isFirst position shipped events source outlet with
  | nil =>
    unfold writeParts? writeParts
    rcases Outlet.writeAll Multipart.closing outlet with ⟨e | written, k⟩ <;> rfl
  | cons w rest ih =>
    obtain ⟨here, later⟩ := List.forall_mem_cons.1 inside
    obtain ⟨reached, ascends⟩ := ascending
    rw [List.map_cons, List.sum_cons, ← Nat.add_assoc] at fits
    have smallWindow : w.total < wordBound := here ▸ small
    have behind : w.last + 1 < wordBound := Nat.lt_of_le_of_lt w.last_lt_total smallWindow
    have counted : shipped + w.length < wordBound := by omega
    have length : w.length < wordBound := by omega
    unfold writeParts? writeParts
    rcases Outlet.writeAll (Multipart.partHeader isFirst w) outlet with ⟨e | written, k⟩
    · rfl
    · dsimp only
      rw [Word.sub?_eq_some reached, Window.length?_eq smallWindow]
      dsimp only
      rw [copyWindow?_eq _ length]
      dsimp only
      have reports := copyWindow_reports (w.first - position) w.length source k
      rcases outcome : (copyWindow (w.first - position) w.length source k).outcome with e | count
      · rfl
      · obtain rfl := reports.of_ok count outcome
        dsimp only
        rw [Word.add?_eq_some behind, Word.add?_eq_some counted]
        exact ih false _ _ _ _ ascends later fits

/-- The reports on the parts of some windows stay within the windows. -/
theorem writeParts_reports (windows : List Window) (isFirst : Bool) (position shipped : Nat)
    (events : List Progress.Event) (source : Source) (outlet : σ) :
    Progress.reported (writeParts isFirst position shipped events source outlet windows).events ≤
        Progress.reported events + (windows.map Window.length).sum ∧
      (writeParts isFirst position shipped events source outlet windows).events.length ≤
        events.length + (windows.map Window.length).sum := by
  induction windows generalizing isFirst position shipped events source outlet with
  | nil =>
    unfold writeParts
    split <;> exact ⟨Nat.le_add_right _ _, Nat.le_add_right _ _⟩
  | cons w rest ih =>
    rw [List.map_cons, List.sum_cons]
    unfold writeParts
    split
    · exact ⟨Nat.le_add_right _ _, Nat.le_add_right _ _⟩
    · rename_i k written
      have reports := copyWindow_reports (w.first - position) w.length source k
      have reported := reports.reported_le
      have lengths := reports.length_le
      have := w.length_pos
      dsimp only
      split
      · rw [Progress.reported_append, List.length_append]
        omega
      · rename_i count outcome
        obtain ⟨sum, several⟩ := ih false (w.last + 1) (shipped + count)
          (events ++ (copyWindow (w.first - position) w.length source k).events)
          (copyWindow (w.first - position) w.length source k).source
          (copyWindow (w.first - position) w.length source k).outlet
        rw [Progress.reported_append] at sum
        rw [List.length_append] at several
        omega

/-! ## Bodies -/

theorem Fits.requested_le {shape : Shape} (fits : shape.Fits size) : shape.requested ≤ size := by
  cases shape with
  | whole length => exact Nat.le_of_eq fits
  | single window =>
    have inside : window.total = size := fits
    have := window.first_add_length_le_total
    rw [requested]
    omega
  | parts windows => exact WindowSet.length_le fits
  | unsatisfiable => exact Nat.zero_le _

theorem Fits.requested?_eq {shape : Shape} (fits : shape.Fits size) (small : size < wordBound) :
    shape.requested? = some shape.requested := by
  cases shape with
  | whole => rfl
  | single window =>
    have inside : window.total = size := fits
    exact Window.length?_eq (inside ▸ small)
  | parts windows => exact WindowSet.length?_eq fits small
  | unsatisfiable => rfl

theorem Fits.writeContent?_eq {shape : Shape} (fits : shape.Fits size) (small : size < wordBound)
    (source : Source) (outlet : σ) :
    shape.writeContent? source outlet = some (shape.writeContent source outlet) := by
  have requested := Nat.lt_of_le_of_lt fits.requested_le small
  cases shape with
  | whole length => exact copyWindow?_eq 0 requested source outlet
  | single window =>
    have inside : window.total = size := fits
    rw [writeContent?, Window.length?_eq (inside ▸ small)]
    exact copyWindow?_eq window.first requested source outlet
  | parts windows =>
    have le := WindowSet.length_le fits
    rw [← Nat.zero_add windows.length] at le
    exact writeParts?_eq small windows.windows true 0 [] source outlet windows.ascending fits le
  | unsatisfiable => rfl

theorem Fits.write?_eq {shape : Shape} (fits : shape.Fits size) (small : size < wordBound)
    (source : Source) (outlet : σ) : shape.write? source outlet = some (shape.write source outlet) := by
  unfold write? write
  rw [fits.writeContent?_eq small]
  dsimp only
  rcases (shape.writeContent source outlet).outcome with e | count
  · rfl
  · rcases Outlet.flush (shape.writeContent source outlet).outlet with ⟨e | flushed, k⟩ <;> rfl

theorem events_write (shape : Shape) (source : Source) (outlet : σ) :
    (shape.write source outlet).events = (shape.writeContent source outlet).events := by
  unfold write
  dsimp only
  split
  · rfl
  · split <;> rfl

/-- The reports on a body stay within what it was to carry. -/
theorem write_reports (shape : Shape) (source : Source) (outlet : σ) :
    Progress.reported (shape.write source outlet).events ≤ shape.requested ∧
      (shape.write source outlet).events.length ≤ max 1 shape.requested := by
  rw [events_write]
  cases shape with
  | whole length =>
    have reports := copyWindow_reports 0 length source outlet
    exact ⟨reports.reported_le, reports.length_le⟩
  | single window =>
    have reports := copyWindow_reports window.first window.length source outlet
    exact ⟨reports.reported_le, reports.length_le⟩
  | parts windows =>
    obtain ⟨sum, several⟩ := writeParts_reports windows.windows true 0 0 [] source outlet
    have none : Progress.reported [] = 0 := rfl
    rw [none, Nat.zero_add] at sum
    rw [List.length_nil, Nat.zero_add] at several
    exact ⟨sum, Nat.le_trans several (Nat.le_max_right _ _)⟩
  | unsatisfiable => exact ⟨Nat.le_refl _, Nat.zero_le _⟩

/-- Nothing that is computed of a body about `size` bytes leaves the range of 64 bits, while it is prepared,
written and reported on. -/
structure InRange (size : Nat) (source : Source) (outlet : σ) (shape : Shape) : Prop where
  requested : shape.requested? = some shape.requested
  requested_le : shape.requested ≤ size
  write : shape.write? source outlet = some (shape.write source outlet)
  shipment : ∀ requested, ({ requested := requested } : Shipment).noteAll? (shape.write source outlet).events =
    some (({ requested := requested } : Shipment).noteAll (shape.write source outlet).events)
  shipped_le : ∀ requested,
    (({ requested := requested } : Shipment).noteAll (shape.write source outlet).events).shipped ≤ size

theorem Fits.inRange {shape : Shape} (fits : shape.Fits size) (small : size < wordBound) (source : Source)
    (outlet : σ) : shape.InRange size source outlet := by
  have le := fits.requested_le
  obtain ⟨sum, several⟩ := shape.write_reports source outlet
  have one : 1 < wordBound := by decide
  refine ⟨fits.requested?_eq small, le, fits.write?_eq small source outlet, fun requested => ?_,
    fun requested => ?_⟩
  · refine Shipment.noteAll?_eq _ ?_ ?_
    · change 0 + _ < _
      omega
    · change 0 + _ < _
      omega
  · rw [Shipment.noteAll_shipped]
    change 0 + _ ≤ _
    omega

/-- Of an artifact whose size has 64 bits, every number that a download computes has 64 bits: the positions
behind the windows of every header that is served, their lengths and the sum of these, which is at most the
size; on the way through the body every position to go on from, every way to go and every count of bytes shipped
or missing, whatever the source brings and however the outlet takes it; and the sum of the reports. The same holds
of the artifact as a whole. -/
theorem within_word {size : Nat} (small : size < wordBound) (source : Source) (outlet : σ) :
    (whole size).InRange size source outlet ∧
      ∀ header set, RangeHeader.windows header size = .ok set →
        RangeHeader.ascends? 0 set.windows = some true ∧
          (∀ w ∈ set.windows, w.length? = some w.length) ∧
          (parts set).InRange size source outlet ∧
          ∀ w ∈ set.windows, (single w).InRange size source outlet := by
  have complete : (whole size).Fits size := rfl
  refine ⟨complete.inRange small source outlet, fun header set served => ?_⟩
  have inside := RangeHeader.total_of_windows served
  have divided : (parts set).Fits size := inside
  have word (w : Window) (member : w ∈ set.windows) : w.total < wordBound := inside w member ▸ small
  have ascends : RangeHeader.ascends? 0 set.windows = some (decide (AscendingFrom 0 set.windows)) :=
    RangeHeader.ascends?_eq word
  rw [decide_eq_true set.ascending] at ascends
  refine ⟨ascends, fun w member => Window.length?_eq (word w member),
    divided.inRange small source outlet, fun w member => ?_⟩
  have one : (single w).Fits size := inside w member
  exact one.inRange small source outlet

/-- Two windows cover an artifact of the largest size, of which the source brings three bytes. -/
theorem within_word_largest :
    18446744073709551615 < wordBound ∧ ∃ set,
      RangeHeader.windows "bytes=-1,0-18446744073709551613" 18446744073709551615 = .ok set ∧
        (parts set).InRange 18446744073709551615 (Source.ofBytes [7, 8, 9]) ({} : Sink) := by
  have small : 18446744073709551615 < wordBound := by decide
  obtain ⟨set, served⟩ : ∃ set,
      RangeHeader.windows "bytes=-1,0-18446744073709551613" 18446744073709551615 = .ok set := by
    let last : Window :=
      ⟨18446744073709551614, 18446744073709551614, 18446744073709551615, by decide, by decide⟩
    let before : Window := ⟨0, 18446744073709551613, 18446744073709551615, by decide, by decide⟩
    have read : RangeHeader.windows "bytes=-1,0-18446744073709551613" 18446744073709551615 =
        RangeHeader.assemble [last, before] := by rfl
    have apart : [last, before].Pairwise Window.Apart :=
      List.pairwise_pair.2 (Window.apart_of_last_lt (show before.last < last.first by decide)).symm
    refine ⟨⟨RangeHeader.inOrder [last, before], RangeHeader.inOrder_ne_nil (List.cons_ne_nil _ _),
      RangeHeader.ascending_inOrder_iff.2 apart⟩, read.trans (RangeHeader.assemble_eq_ok_iff.2 ?_)⟩
    exact ⟨List.cons_ne_nil _ _, apart, rfl⟩
  obtain ⟨-, ranges⟩ := within_word small (Source.ofBytes [7, 8, 9]) ({} : Sink)
  obtain ⟨-, -, divided, -⟩ := ranges _ set served
  exact ⟨small, set, served, divided⟩

end Write

end Shape

end Depot
