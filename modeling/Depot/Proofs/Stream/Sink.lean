import Depot.Proofs.Stream.Patience
import Depot.Stream.Sink

/-!
# What a sink accepts

`Sink.Took s taken t` says that `t` is what `s` became when it accepted exactly the bytes `taken` and was not
flushed; it composes. `Sink.writeAll_ok` and `Sink.writeAll_error` say that writing either puts all the bytes
into the sink or a proper prefix of them, and the latter only if the sink is not patient.
-/

namespace Depot

namespace Sink

/-- The sink `s` accepted exactly `taken`, was not flushed, and became `t`. -/
structure Took (s : Sink) (taken : Bytes) (t : Sink) : Prop where
  toList : t.toList = s.toList ++ taken
  flushes : t.flushes = s.flushes
  flushError : t.flushError = s.flushError
  patient : s.conduct.Patient → t.conduct.Patient

theorem Took.refl (s : Sink) : s.Took [] s :=
  ⟨(List.append_nil _).symm, rfl, rfl, id⟩

theorem Took.trans {s t u : Sink} {front back : Bytes} (first : s.Took front t)
    (second : t.Took back u) : s.Took (front ++ back) u where
  toList := by rw [second.toList, first.toList, List.append_assoc]
  flushes := second.flushes.trans first.flushes
  flushError := second.flushError.trans first.flushError
  patient := fun patient => second.patient (first.patient patient)

/-- A call that answers takes as many of the bytes as it says; a patient sink takes one at least. -/
theorem write_ok {offered : Bytes} {s t : Sink} {count : Nat}
    (result : s.write offered = (.ok count, t)) :
    s.Took (offered.take count) t ∧ (s.conduct.Patient → offered ≠ [] → count ≠ 0) := by
  unfold write at result
  split at result
  · rename_i error left struck
    split at result
    · cases result
    · cases result
      refine ⟨⟨(List.append_nil _).symm, rfl, rfl, fun patient => (patient.of_strike struck).2⟩, ?_⟩
      intro patient
      obtain ⟨⟨e, silent, -⟩, -⟩ := patient.of_strike struck
      cases silent
  · cases result
    refine ⟨⟨?_, rfl, rfl, id⟩, fun patient nonempty => ?_⟩
    · simp [toList]
    · exact Nat.ne_of_gt (patient.allowance_pos (List.length_pos_iff.2 nonempty))

/-- A call that fails takes nothing; a patient sink was only interrupted. -/
theorem write_error {offered : Bytes} {s t : Sink} {e : IoError}
    (result : s.write offered = (.error e, t)) :
    s.Took [] t ∧ (s.conduct.Patient → e.isInterrupted = true) := by
  unfold write at result
  split at result
  · rename_i error left struck
    split at result
    · cases result
      refine ⟨⟨(List.append_nil _).symm, rfl, rfl, fun patient => (patient.of_strike struck).2⟩, ?_⟩
      intro patient
      obtain ⟨⟨e, same, interrupted⟩, -⟩ := patient.of_strike struck
      cases same
      exact interrupted
    · cases result
  · cases result

/-- Writing puts in all the bytes, or stops at a proper prefix of them on an impatient sink. -/
theorem writeAll_cases (offered : Bytes) (s : Sink) :
    ∃ taken left, offered = taken ++ left ∧ s.Took taken (s.writeAll offered).2 ∧
      match (s.writeAll offered).1 with
      | .ok _ => left = []
      | .error _ => left ≠ [] ∧ ¬ s.conduct.Patient := by
  fun_induction writeAll offered s with
  | case1 offered s empty =>
    exact ⟨[], [], List.eq_nil_of_length_eq_zero empty, .refl _, rfl⟩
  | case2 offered s wanted e t result _ interrupted ih =>
    obtain ⟨takes, -⟩ := write_error result
    obtain ⟨taken, left, split, others, rest⟩ := ih
    refine ⟨taken, left, split, takes.trans others, ?_⟩
    split at rest
    · exact rest
    · exact ⟨rest.1, fun patient => rest.2 (takes.patient patient)⟩
  | case3 offered s wanted e t result _ fatal =>
    obtain ⟨takes, interrupts⟩ := write_error result
    refine ⟨[], offered, rfl, takes, fun nothing => ?_, fun patient => fatal (interrupts patient)⟩
    exact wanted (congrArg List.length nothing)
  | case4 offered s wanted t result =>
    obtain ⟨takes, moves⟩ := write_ok result
    have nonempty : offered ≠ [] := fun nothing => wanted (congrArg List.length nothing)
    exact ⟨[], offered, rfl, takes, nonempty, fun patient => moves patient nonempty rfl⟩
  | case5 offered s wanted count t result taken _ ih =>
    obtain ⟨takes, -⟩ := write_ok result
    obtain ⟨more, left, same, others, rest⟩ := ih
    refine ⟨offered.take count ++ more, left, ?_, takes.trans others, ?_⟩
    · rw [List.append_assoc, ← same, List.take_append_drop]
    split at rest
    · exact rest
    · exact ⟨rest.1, fun patient => rest.2 (takes.patient patient)⟩

theorem writeAll_ok {offered : Bytes} {s t : Sink} (result : s.writeAll offered = (.ok (), t)) :
    s.Took offered t := by
  obtain ⟨taken, left, same, takes, nothing⟩ := writeAll_cases offered s
  rw [result] at takes nothing
  rw [same, show left = [] from nothing, List.append_nil]
  exact takes

theorem writeAll_error {offered : Bytes} {s t : Sink} {e : IoError}
    (result : s.writeAll offered = (.error e, t)) :
    ∃ taken left, offered = taken ++ left ∧ left ≠ [] ∧ s.Took taken t ∧ ¬ s.conduct.Patient := by
  obtain ⟨taken, left, same, takes, failed⟩ := writeAll_cases offered s
  rw [result] at takes failed
  exact ⟨taken, left, same, failed.1, takes, failed.2⟩

end Sink

end Depot
