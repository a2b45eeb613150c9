import Depot.Proofs.Stream.Copy

/-!
# Windows copied one after the other

A source is read forward only, so a window begins behind the one that was copied before. `copySeries` copies
windows one after the other from one source to one outlet. No copy reads a byte behind its window, whatever the
streams do (`copyWindow_passes`). On patient streams the bytes that the source has left decide everything
(`CopyRun.Exact`): each copy is complete, or falls short in the window, or falls short before it, and in each case
the source is left where the next window counts from, so that the windows lie at the sum of what was asked for
before (`copySeries_exact`).
-/

namespace Depot

/-- What remains after some windows were copied one after the other. -/
structure CopySeries (σ : Type) where
  /-- How each copy ended, in order. -/
  outcomes : List (Except StreamError Nat)
  source : Source
  outlet : σ
  /-- The progress reports made on the way, in order. -/
  events : List Progress.Event

/-- Copies windows one after the other, each given by the number of bytes to read over and the number of bytes to
copy. A copy that fails does not keep the next one from being tried. -/
def copySeries {σ : Type} [Outlet σ] : List (Nat × Nat) → Source → σ → CopySeries σ
  | [], source, outlet => ⟨[], source, outlet, []⟩
  | (skip, length) :: later, source, outlet =>
    let run := copyWindow skip length source outlet
    let others := copySeries later run.source run.outlet
    ⟨run.outcome :: others.outcomes, others.source, others.outlet, run.events ++ others.events⟩

/-- The number of bytes from the start of the first of some windows, with what is read over, to the end of the last. -/
def extent (windows : List (Nat × Nat)) : Nat :=
  (windows.map fun (skip, length) => skip + length).sum

/-! ## What any copy reads -/

section Passing

variable {σ : Type} [Outlet σ]

theorem copyRest_passes (length : Nat) (tally : Tally) (source : Source) (outlet : σ)
    (le : tally.shipped ≤ length) :
    ∃ passed, source.Passed passed (copyRest length tally source outlet).source ∧
      tally.shipped + passed.length ≤ length := by
  fun_induction copyRest length tally source outlet with
  | case1 tally source outlet full => exact ⟨[], .refl source, le⟩
  | case2 tally source outlet left e t result _ interrupted ih =>
    obtain ⟨passes, -⟩ := Source.read_error result
    obtain ⟨passed, others, within⟩ := ih le
    exact ⟨passed, passes.trans others, within⟩
  | case3 tally source outlet left e t result _ fatal =>
    exact ⟨[], (Source.read_error result).1, le⟩
  | case4 tally source outlet left t result =>
    exact ⟨[], (Source.read_ok result).1, le⟩
  | case5 tally source outlet left chunk t result moved _ e k written =>
    obtain ⟨passes, fits, -⟩ := Source.read_ok result
    exact ⟨chunk, passes, by omega⟩
  | case6 tally source outlet left chunk t result moved _ k written ih =>
    obtain ⟨passes, fits, -⟩ := Source.read_ok result
    obtain ⟨passed, others, within⟩ := ih (by rw [Tally.shipped_ship]; omega)
    refine ⟨chunk ++ passed, passes.trans others, ?_⟩
    rw [Tally.shipped_ship] at within
    rw [List.length_append]
    omega

/-- Whatever the streams do, no byte behind the window is read. -/
theorem copyWindow_passes (skip length : Nat) (source : Source) (outlet : σ) :
    ∃ passed, source.Passed passed (copyWindow skip length source outlet).source ∧
      passed.length ≤ skip + length := by
  unfold copyWindow
  split
  · rename_i e t result
    obtain ⟨passed, passes, less, -⟩ := Source.discard_error result
    exact ⟨passed, passes, by omega⟩
  · rename_i skipped t result
    obtain ⟨front, passes, rfl, le, -⟩ := Source.discard_ok result
    split
    · exact ⟨front, passes, by omega⟩
    · unfold copyBody
      split
      · exact ⟨front, passes, by omega⟩
      · obtain ⟨passed, others, within⟩ := copyRest_passes length {} t outlet (Nat.zero_le _)
        refine ⟨front ++ passed, passes.trans others, ?_⟩
        have start : ({} : Tally).shipped = 0 := rfl
        rw [List.length_append]
        omega

end Passing

/-! ## Copies on patient streams -/

/-- Of a source that has `content` left, a run has copied the `length` bytes behind `skip` as far as there are
any. -/
structure CopyRun.Exact (content : Bytes) (skip length : Nat) (sink : Sink) (run : CopyRun Sink) : Prop where
  skipShort : content.length < skip → run.outcome = .error (.skipShortfall skip content.length) ∧
    run.outlet.toList = sink.toList ∧ run.events = []
  short : skip ≤ content.length → content.length < skip + length →
    run.outcome = .error (.shortfall length (skip + length - content.length)) ∧
      run.outlet.toList = sink.toList ++ content.drop skip
  whole : skip + length ≤ content.length → run.outcome = .ok length ∧
    run.outlet.toList = sink.toList ++ (content.drop skip).take length
  rest : run.source.rest = content.drop (skip + length)

/-- A source that ends before the window has no part of it copied. -/
theorem copyWindow_skipShort {source : Source} (patient : source.conduct.Patient) {skip : Nat}
    (short : source.rest.length < skip) (length : Nat) (sink : Sink) :
    (copyWindow skip length source sink).outcome = .error (.skipShortfall skip source.rest.length) ∧
      (copyWindow skip length source sink).outlet = sink ∧
      (copyWindow skip length source sink).events = [] := by
  unfold copyWindow
  split
  · rename_i e t result
    obtain ⟨-, -, -, impatient⟩ := Source.discard_error result
    exact absurd patient impatient
  · rename_i skipped t result
    obtain ⟨front, passes, rfl, le, ended⟩ := Source.discard_ok result
    have all := passes.length_add
    have less : front.length < skip := by omega
    rw [ended patient less, List.length_nil, Nat.add_zero] at all
    rw [if_pos less, all]
    exact ⟨rfl, rfl, rfl⟩

/-- What a patient source has passed is the front of what it had left, up to the end of the window. -/
theorem WindowEnd.passed_eq {skip length : Nat} {patient : Prop} {passed left taken : Bytes}
    {outcome : Except StreamError Nat} (ends : WindowEnd skip length patient passed left taken outcome)
    (holds : patient) :
    passed = (passed ++ left).take (skip + length) ∧ left = (passed ++ left).drop (skip + length) := by
  cases ends with
  | whole full same =>
    rw [← full, List.take_left, List.drop_left]
    exact ⟨rfl, rfl⟩
  | skipShort less _ ended | short _ less _ ended =>
    rw [ended holds, List.append_nil, List.take_of_length_le (by omega), List.drop_of_length_le (by omega)]
    exact ⟨rfl, rfl⟩
  | io _ _ _ impatient => exact absurd holds impatient

/-- On patient streams a copy does exactly what the bytes left on the source allow. -/
theorem copyWindow_exact {source : Source} {sink : Sink} (patient : source.conduct.Patient)
    (takes : sink.conduct.Patient) (skip length : Nat) :
    (copyWindow skip length source sink).Exact source.rest skip length sink := by
  obtain ⟨passed, taken, copied⟩ := copyWindow_copied skip length source sink
  have split := copied.passes.rest
  obtain ⟨front, back⟩ := copied.ends.passed_eq ⟨patient, takes⟩
  rw [← split] at front back
  have counted := congrArg List.length front
  rw [List.length_take] at counted
  have ends := copied.ends
  refine ⟨fun less => ?_, fun le less => ?_, fun enough => ?_, back⟩
  · obtain ⟨outcome, outlet, events⟩ := copyWindow_skipShort patient less length sink
    exact ⟨outcome, congrArg Sink.toList outlet, events⟩
  · rw [copied.takes.toList]
    rw [List.take_of_length_le (by omega)] at front
    generalize (copyWindow skip length source sink).outcome = outcome at ends
    subst front
    cases ends with
    | whole full => omega
    | skipShort before => omega
    | short _ _ same => exact ⟨rfl, congrArg _ same⟩
    | io _ _ _ impatient => exact absurd ⟨patient, takes⟩ impatient
  · rw [copied.takes.toList]
    generalize (copyWindow skip length source sink).outcome = outcome at ends
    cases ends with
    | whole full same =>
      refine ⟨rfl, ?_⟩
      rw [same, front, List.drop_take, Nat.add_sub_cancel_left]
    | skipShort before => omega
    | short _ before => omega
    | io _ _ _ impatient => exact absurd ⟨patient, takes⟩ impatient

/-! ## Series -/

/-- On patient streams every copy, also one that falls short, leaves the source where the next one counts from. -/
theorem copySeries_leaves {source : Source} {sink : Sink} (patient : source.conduct.Patient)
    (takes : sink.conduct.Patient) (windows : List (Nat × Nat)) :
    (copySeries windows source sink).source.rest = source.rest.drop (extent windows) ∧
      (copySeries windows source sink).source.conduct.Patient ∧
      (copySeries windows source sink).outlet.conduct.Patient := by
  induction windows generalizing source sink with
  | nil => exact ⟨List.drop_zero.symm, patient, takes⟩
  | cons window later ih =>
    obtain ⟨skip, length⟩ := window
    obtain ⟨passed, taken, copied⟩ := copyWindow_copied skip length source sink
    obtain ⟨rest, others⟩ := ih (copied.passes.patient patient) (copied.takes.patient takes)
    refine ⟨rest.trans ?_, others⟩
    rw [(copyWindow_exact patient takes skip length).rest, List.drop_drop]
    rfl

/-- No copy reads a byte behind its window, whatever the source and the outlet do. If nothing but interruptions
happens on the streams, then after any series of copies the source has left what lies behind all their windows, and
of that the next copy takes exactly its window, as far as there is one. -/
theorem copySeries_exact :
    (∀ {σ : Type} [Outlet σ] (skip length : Nat) (source : Source) (outlet : σ),
      ∃ passed, source.Passed passed (copyWindow skip length source outlet).source ∧
        passed.length ≤ skip + length) ∧
    ∀ (source : Source) (sink : Sink), source.conduct.Patient → sink.conduct.Patient →
      ∀ (before : List (Nat × Nat)) (skip length : Nat),
        let left := copySeries before source sink
        left.source.rest = source.rest.drop (extent before) ∧
          (copyWindow skip length left.source left.outlet).Exact (source.rest.drop (extent before)) skip length
            left.outlet := by
  refine ⟨copyWindow_passes, fun source sink patient takes before skip length => ?_⟩
  obtain ⟨rest, patient', takes'⟩ := copySeries_leaves patient takes before
  refine ⟨rest, ?_⟩
  rw [← rest]
  exact copyWindow_exact patient' takes' skip length

/-- Of ten bytes that come in threes and with two interruptions, three are gone after the first window. A second
window is complete, and one that is too long has the rest. -/
theorem copySeries_exact_interrupted :
    let conduct : Conduct := ⟨fun _ => some 3, [⟨2, some ⟨.interrupted, "again"⟩, 2⟩]⟩
    let left := copySeries [(1, 2)] (.ofBytes [48, 49, 50, 51, 52, 53, 54, 55, 56, 57] conduct) ({} : Sink)
    conduct.Patient ∧ Conduct.smooth.Patient ∧
      (copyWindow 2 3 left.source left.outlet).outcome = .ok 3 ∧
      (copyWindow 2 3 left.source left.outlet).outlet.toList = left.outlet.toList ++ [53, 54, 55] ∧
      (copyWindow 2 9 left.source left.outlet).outcome = .error (.shortfall 9 4) ∧
      (copyWindow 8 1 left.source left.outlet).outcome = .error (.skipShortfall 8 7) := by
  intro conduct left
  have patient : conduct.Patient := by
    refine ⟨fun position most limit => ?_, ?_⟩
    · cases limit
      decide
    · intro f member _
      obtain rfl := List.mem_singleton.1 member
      exact ⟨_, rfl, rfl⟩
  have exact := copySeries_exact.2 (.ofBytes [48, 49, 50, 51, 52, 53, 54, 55, 56, 57] conduct) {} patient
    Conduct.patient_smooth [(1, 2)]
  have second := (exact 2 3).2.whole (by decide)
  have long := (exact 2 9).2.short (by decide) (by decide)
  have far := (exact 8 1).2.skipShort (by decide)
  exact ⟨patient, Conduct.patient_smooth, second.1, second.2, long.1, far.1⟩

end Depot
