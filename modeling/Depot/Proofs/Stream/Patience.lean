import Depot.Stream.Conduct

/-!
# Patient streams

A stream is patient if nothing but time is lost on it: each call that is not struck may move a byte, and
every strike is an interruption, after which the call is made again. `Conduct.Patient.of_strike` says that a
strike leaves a patient stream patient.
-/

namespace Depot

namespace Conduct

/-- Every call that is not struck may move a byte, and every strike is an interruption. -/
structure Patient (c : Conduct) : Prop where
  pace_pos : ∀ position most, c.pace position = some most → 0 < most
  interrupts : ∀ f ∈ c.faults, 0 < f.times → ∃ e, f.error = some e ∧ e.isInterrupted = true

theorem patient_smooth : Patient smooth where
  pace_pos := by
    intro position most limit
    cases limit
  interrupts := by simp [smooth]

theorem Patient.allowance_pos {c : Conduct} (patient : c.Patient) {position asked : Nat}
    (pos : 0 < asked) : 0 < c.allowance position asked := by
  unfold allowance
  apply upToFault_pos
  split
  · exact pos
  · rename_i most limit
    exact Nat.lt_min.2 ⟨patient.pace_pos position most limit, pos⟩

/-- The error of a strike is that of a fault, and every fault with strikes left was there before. -/
theorem exists_of_strike {position : Nat} {faults left : List Fault} {error : Option IoError}
    (struck : strike? position faults = some (error, left)) :
    (∃ f ∈ faults, 0 < f.times ∧ f.error = error) ∧
      ∀ g ∈ left, 0 < g.times → ∃ f ∈ faults, 0 < f.times ∧ f.error = g.error := by
  induction faults generalizing left with
  | nil => cases struck
  | cons f rest ih =>
    unfold strike? at struck
    split at struck
    · rename_i here
      cases struck
      refine ⟨⟨f, List.mem_cons_self, here.2, rfl⟩, fun g member active => ?_⟩
      rcases List.mem_cons.1 member with rfl | inRest
      · exact ⟨f, List.mem_cons_self, here.2, rfl⟩
      · exact ⟨g, List.mem_cons_of_mem _ inRest, active, rfl⟩
    · obtain ⟨⟨e, tail⟩, found, same⟩ := Option.map_eq_some_iff.1 struck
      cases same
      obtain ⟨⟨h, member, active, reported⟩, before⟩ := ih found
      refine ⟨⟨h, List.mem_cons_of_mem _ member, active, reported⟩, fun g member active => ?_⟩
      rcases List.mem_cons.1 member with rfl | inTail
      · exact ⟨g, List.mem_cons_self, active, rfl⟩
      · obtain ⟨h, member, active, reported⟩ := before g inTail active
        exact ⟨h, List.mem_cons_of_mem _ member, active, reported⟩

/-- A strike on a patient stream is an interruption and leaves the stream patient. -/
theorem Patient.of_strike {c : Conduct} (patient : c.Patient) {position : Nat} {left : List Fault}
    {error : Option IoError} (struck : strike? position c.faults = some (error, left)) :
    (∃ e, error = some e ∧ e.isInterrupted = true) ∧ Patient { c with faults := left } := by
  obtain ⟨⟨f, member, active, rfl⟩, before⟩ := exists_of_strike struck
  refine ⟨patient.interrupts f member active, patient.pace_pos, fun g inLeft strikes => ?_⟩
  obtain ⟨h, member, active, same⟩ := before g inLeft strikes
  rw [← same]
  exact patient.interrupts h member active

end Conduct

end Depot
