import Depot.Proofs.Stream.Patience
import Depot.Stream.Source

/-!
# What is read from a source

`Source.Passed s passed t` says that reading exactly the bytes `passed` from `s` left `t`; it composes.
`Source.read_ok` and `Source.read_error` put a call in these terms, `Source.discard_ok` and
`Source.discard_error` the calls that read over unwanted bytes: nothing is lost or read twice, and a patient
source falls short only at its end.
-/

namespace Depot

namespace Source

/-- Reading exactly `passed` from `s` left `t`. -/
structure Passed (s : Source) (passed : Bytes) (t : Source) : Prop where
  rest : s.rest = passed ++ t.rest
  position : t.position = s.position + passed.length
  patient : s.conduct.Patient → t.conduct.Patient

theorem Passed.refl (s : Source) : s.Passed [] s :=
  ⟨rfl, rfl, id⟩

theorem Passed.trans {s t u : Source} {front back : Bytes} (first : s.Passed front t)
    (second : t.Passed back u) : s.Passed (front ++ back) u where
  rest := by rw [first.rest, second.rest, List.append_assoc]
  position := by rw [second.position, first.position, List.length_append, Nat.add_assoc]
  patient := fun patient => second.patient (first.patient patient)

theorem Passed.length_add {s t : Source} {passed : Bytes} (passes : s.Passed passed t) :
    s.rest.length = passed.length + t.rest.length := by
  rw [passes.rest, List.length_append]

/-- A call that answers passes the bytes it answers with; if there are none, a patient source has ended. -/
theorem read_ok {asked : Nat} {s t : Source} {chunk : Bytes}
    (result : s.read asked = (.ok chunk, t)) :
    s.Passed chunk t ∧ chunk.length ≤ asked ∧
      (s.conduct.Patient → 0 < asked → chunk = [] → t.rest = []) := by
  unfold read at result
  split at result
  · rename_i error left struck
    split at result
    · cases result
    · cases result
      refine ⟨⟨rfl, rfl, fun patient => (patient.of_strike struck).2⟩, Nat.zero_le _, ?_⟩
      intro patient
      obtain ⟨⟨e, silent, -⟩, -⟩ := patient.of_strike struck
      cases silent
  · cases result
    refine ⟨⟨(List.take_append_drop _ _).symm, rfl, id⟩, ?_, ?_⟩
    · rw [List.length_take]
      have := s.conduct.allowance_le s.position asked
      omega
    · intro patient pos empty
      have moves : 0 < s.conduct.allowance s.position asked := patient.allowance_pos pos
      rcases List.take_eq_nil_iff.1 empty with still | ended
      · omega
      · simp [ended]

/-- A call that fails passes nothing; a patient source was only interrupted. -/
theorem read_error {asked : Nat} {s t : Source} {e : IoError}
    (result : s.read asked = (.error e, t)) :
    s.Passed [] t ∧ (s.conduct.Patient → e.isInterrupted = true) := by
  unfold read at result
  split at result
  · rename_i error left struck
    split at result
    · cases result
      refine ⟨⟨rfl, rfl, fun patient => (patient.of_strike struck).2⟩, fun patient => ?_⟩
      obtain ⟨⟨e, same, interrupted⟩, -⟩ := patient.of_strike struck
      cases same
      exact interrupted
    · cases result
  · cases result

/-- What discarding on may come to when `left` bytes are wanted and `done` are counted: it passes some bytes,
no more than wanted, and counts them; it falls short on a patient source only at the end, and fails only on
an impatient one. -/
theorem discard_go_cases (left done : Nat) (s : Source) :
    ∃ passed, s.Passed passed (discard.go left done s).2 ∧ passed.length ≤ left ∧
      match (discard.go left done s).1 with
      | .ok skipped => skipped = done + passed.length ∧
        (s.conduct.Patient → passed.length < left → (discard.go left done s).2.rest = [])
      | .error _ => passed.length < left ∧ ¬ s.conduct.Patient := by
  fun_induction discard.go left done s with
  | case1 done s =>
    exact ⟨[], .refl _, Nat.le_refl _, rfl, fun _ short => absurd short (Nat.lt_irrefl _)⟩
  | case2 left done s wanted e t result _ interrupted ih =>
    obtain ⟨passes, -⟩ := read_error result
    obtain ⟨passed, others, le, rest⟩ := ih
    refine ⟨passed, passes.trans others, le, ?_⟩
    split at rest
    · exact ⟨rest.1, fun patient => rest.2 (passes.patient patient)⟩
    · exact ⟨rest.1, fun patient => rest.2 (passes.patient patient)⟩
  | case3 left done s wanted e t result _ fatal =>
    obtain ⟨passes, interrupts⟩ := read_error result
    refine ⟨[], passes, Nat.zero_le _, Nat.pos_of_ne_zero wanted, fun patient => ?_⟩
    exact fatal (interrupts patient)
  | case4 left done s wanted t result =>
    obtain ⟨passes, -, ends⟩ := read_ok result
    refine ⟨[], passes, Nat.zero_le _, rfl, fun patient _ => ends patient ?_ rfl⟩
    have : 0 < bufferSize := by decide
    omega
  | case5 left done s wanted chunk t result moved _ ih =>
    obtain ⟨passes, le, -⟩ := read_ok result
    obtain ⟨passed, others, le', rest⟩ := ih
    refine ⟨chunk ++ passed, passes.trans others, ?_, ?_⟩
    · rw [List.length_append]
      omega
    split at rest
    · rw [List.length_append]
      refine ⟨by omega, fun patient short => rest.2 (passes.patient patient) (by omega)⟩
    · rw [List.length_append]
      exact ⟨by omega, fun patient => rest.2 (passes.patient patient)⟩

/-- Discarding that answers says how many bytes it passed; a patient source falls short only at its end. -/
theorem discard_ok {count skipped : Nat} {s t : Source}
    (result : s.discard count = (.ok skipped, t)) :
    ∃ passed, s.Passed passed t ∧ passed.length = skipped ∧ skipped ≤ count ∧
      (s.conduct.Patient → skipped < count → t.rest = []) := by
  obtain ⟨passed, passes, le, counted⟩ := discard_go_cases count 0 s
  rw [show discard.go count 0 s = (.ok skipped, t) from result] at passes counted
  obtain ⟨same, ends⟩ := counted
  rw [Nat.zero_add] at same
  subst same
  exact ⟨passed, passes, rfl, le, ends⟩

/-- Discarding fails short of the bytes wanted, and only on an impatient source. -/
theorem discard_error {count : Nat} {s t : Source} {e : IoError}
    (result : s.discard count = (.error e, t)) :
    ∃ passed, s.Passed passed t ∧ passed.length < count ∧ ¬ s.conduct.Patient := by
  obtain ⟨passed, passes, -, failed⟩ := discard_go_cases count 0 s
  rw [show discard.go count 0 s = (.error e, t) from result] at passes failed
  exact ⟨passed, passes, failed⟩

end Source

end Depot
