import Depot.Proofs.Stream.Sink
import Depot.Proofs.Stream.Source
import Depot.Stream.Copy

/-!
# What a copied window moves

`copyWindow_copied` accounts for every copy of a window from any source to any sink: some bytes are passed
on the source, no more than the window and what lies before it, and of those in the window the sink takes a
prefix, in order. `WindowEnd` lists how such a copy may end and ties each outcome to these bytes; on patient
streams it falls short only because the source has ended.
-/

namespace Depot

@[simp] theorem Tally.shipped_ship (length count : Nat) (t : Tally) :
    (t.ship length count).shipped = t.shipped + count := by
  simp only [ship]
  split <;> rfl

/-- The outcomes of copying `length` bytes after `skip`, told by the bytes `passed` on the source, the bytes
`left` on it, the bytes `taken` by the sink, and whether both are patient. -/
inductive WindowEnd (skip length : Nat) (patient : Prop) (passed left taken : Bytes) :
    Except StreamError Nat → Prop
  | whole (_ : passed.length = skip + length) (_ : taken = passed.drop skip) :
    WindowEnd skip length patient passed left taken (.ok length)
  | skipShort (_ : passed.length < skip) (_ : taken = []) (_ : patient → left = []) :
    WindowEnd skip length patient passed left taken (.error (.skipShortfall skip passed.length))
  | short (_ : skip ≤ passed.length) (_ : passed.length < skip + length) (_ : taken = passed.drop skip)
    (_ : patient → left = []) :
    WindowEnd skip length patient passed left taken
      (.error (.shortfall length (skip + length - passed.length)))
  | io (e : IoError) (_ : passed.length ≤ skip + length) (_ : taken <+: passed.drop skip)
    (_ : ¬ patient) :
    WindowEnd skip length patient passed left taken (.error (.io e))

namespace WindowEnd

variable {skip length : Nat} {patient : Prop} {passed left taken : Bytes}
  {outcome : Except StreamError Nat}

/-- No byte behind the window is read. -/
theorem length_le (ends : WindowEnd skip length patient passed left taken outcome) :
    passed.length ≤ skip + length := by
  cases ends <;> omega

/-- Of the bytes in the window that were read, the sink took the first. -/
theorem isPrefix (ends : WindowEnd skip length patient passed left taken outcome) :
    taken <+: passed.drop skip := by
  cases ends with
  | whole _ same => exact same ▸ List.prefix_rfl
  | skipShort _ nothing => exact nothing ▸ List.nil_prefix
  | short _ _ same => exact same ▸ List.prefix_rfl
  | io _ _ front => exact front

theorem of_ok {count : Nat} (ends : WindowEnd skip length patient passed left taken (.ok count)) :
    count = length ∧ passed.length = skip + length ∧ taken = passed.drop skip := by
  cases ends with
  | whole full same => exact ⟨rfl, full, same⟩

/-- On patient streams the whole window is copied unless the source ends. -/
theorem ok_of_patient (ends : WindowEnd skip length patient passed left taken outcome)
    (holds : patient) (enough : skip + length ≤ passed.length + left.length) :
    outcome = .ok length := by
  cases ends with
  | whole => rfl
  | skipShort less _ ended | short _ less _ ended =>
    rw [ended holds, List.length_nil] at enough
    omega
  | io _ _ _ impatient => exact absurd holds impatient

theorem imp {other : Prop} (weaker : other → patient)
    (ends : WindowEnd skip length patient passed left taken outcome) :
    WindowEnd skip length other passed left taken outcome := by
  cases ends with
  | whole full same => exact .whole full same
  | skipShort less nothing ended => exact .skipShort less nothing (ended ∘ weaker)
  | short le less same ended => exact .short le less same (ended ∘ weaker)
  | io e le front impatient => exact .io e le front (impatient ∘ weaker)

/-- Bytes that were read over beforehand lengthen the way to the window. -/
theorem after_skip {front : Bytes} (ends : WindowEnd 0 length patient passed left taken outcome) :
    WindowEnd front.length length patient (front ++ passed) left taken outcome := by
  have lengthen : (front ++ passed).length = front.length + passed.length := List.length_append
  cases ends with
  | whole full same =>
    refine .whole (by omega) ?_
    rw [List.drop_left, same, List.drop_zero]
  | skipShort less => omega
  | short _ less same ended =>
    have missing : 0 + length - passed.length =
        front.length + length - (front ++ passed).length := by omega
    rw [missing]
    refine .short (by omega) (by omega) ?_ ended
    rw [List.drop_left, same, List.drop_zero]
  | io e le part impatient =>
    refine .io e (by omega) ?_ impatient
    rwa [List.drop_left, ← List.drop_zero (l := passed)]

end WindowEnd

/-- A run that copied a window from `source` to `sink`, passing `passed` on the one and putting `taken` into
the other. -/
structure CopyRun.Copied (skip length : Nat) (source : Source) (passed : Bytes) (sink : Sink)
    (taken : Bytes) (run : CopyRun Sink) : Prop where
  passes : source.Passed passed run.source
  takes : sink.Took taken run.outlet
  ends : WindowEnd skip length (source.conduct.Patient ∧ sink.conduct.Patient) passed run.source.rest
    taken run.outcome

/-- What the copy of the rest of a window moves. The bytes `before` were shipped earlier; together with them
the rest makes up the window. -/
theorem copyRest_moves (length : Nat) (tally : Tally) (source : Source) (sink : Sink) (before : Bytes)
    (shipped : before.length = tally.shipped) (le : tally.shipped ≤ length) :
    ∃ passed taken, source.Passed passed (copyRest length tally source sink).source ∧
      sink.Took taken (copyRest length tally source sink).outlet ∧
      WindowEnd 0 length (source.conduct.Patient ∧ sink.conduct.Patient) (before ++ passed)
        (copyRest length tally source sink).source.rest (before ++ taken)
        (copyRest length tally source sink).outcome := by
  fun_induction copyRest length tally source sink generalizing before with
  | case1 tally source sink full =>
    refine ⟨[], [], .refl _, .refl _, ?_⟩
    rw [Nat.le_antisymm le full]
    refine .whole ?_ rfl
    rw [List.append_nil]
    omega
  | case2 tally source sink left e t result _ interrupted ih =>
    obtain ⟨passes, -⟩ := Source.read_error result
    obtain ⟨passed, taken, others, takes, ends⟩ := ih before shipped le
    exact ⟨passed, taken, passes.trans others, takes, ends.imp (And.imp_left passes.patient)⟩
  | case3 tally source sink left e t result _ fatal =>
    obtain ⟨passes, interrupts⟩ := Source.read_error result
    refine ⟨[], [], passes, .refl _, .io e ?_ List.prefix_rfl fun patient => ?_⟩
    · rw [List.append_nil]
      omega
    · exact fatal (interrupts patient.1)
  | case4 tally source sink left t result =>
    obtain ⟨passes, -, ended⟩ := Source.read_ok result
    have wanted : 0 < min bufferSize (length - tally.shipped) := by
      have : 0 < bufferSize := by decide
      omega
    have missing : length - tally.shipped = 0 + length - (before ++ []).length := by
      rw [List.append_nil]
      omega
    refine ⟨[], [], passes, .refl _, ?_⟩
    rw [missing]
    refine .short (Nat.zero_le _) ?_ rfl fun patient => ended patient.1 wanted rfl
    rw [List.append_nil]
    omega
  | case5 tally source sink left chunk t result moved _ e k written =>
    obtain ⟨passes, fits, -⟩ := Source.read_ok result
    obtain ⟨taken, more, same, -, takes, impatient⟩ := Sink.writeAll_error written
    refine ⟨chunk, taken, passes, takes, .io e ?_ ?_ fun patient => impatient patient.2⟩
    · rw [List.length_append]
      omega
    · rw [List.drop_zero, same]
      exact List.prefix_append_right_inj before |>.2 (List.prefix_append _ _)
  | case6 tally source sink left chunk t result moved _ k written ih =>
    obtain ⟨passes, fits, -⟩ := Source.read_ok result
    have takes := Sink.writeAll_ok written
    obtain ⟨passed, taken, others, otherTakes, ends⟩ := ih (before ++ chunk)
      (by rw [List.length_append, Tally.shipped_ship, shipped])
      (by rw [Tally.shipped_ship]; omega)
    rw [List.append_assoc, List.append_assoc] at ends
    exact ⟨chunk ++ passed, chunk ++ taken, passes.trans others, takes.trans otherTakes,
      ends.imp (And.imp passes.patient takes.patient)⟩

theorem copyBody_copied (length : Nat) (source : Source) (sink : Sink) :
    ∃ passed taken, (copyBody length source sink).Copied 0 length source passed sink taken := by
  unfold copyBody
  split
  · rename_i empty
    subst empty
    exact ⟨[], [], .refl _, .refl _, .whole rfl rfl⟩
  · obtain ⟨passed, taken, passes, takes, ends⟩ :=
      copyRest_moves length {} source sink [] rfl (Nat.zero_le _)
    exact ⟨passed, taken, passes, takes, ends⟩

/-- Every copy of a window passes some bytes on the source and puts some into the sink, and ends accordingly. -/
theorem copyWindow_copied (skip length : Nat) (source : Source) (sink : Sink) :
    ∃ passed taken, (copyWindow skip length source sink).Copied skip length source passed sink taken := by
  unfold copyWindow
  split
  · rename_i e t result
    obtain ⟨passed, passes, less, impatient⟩ := Source.discard_error result
    refine ⟨passed, [], passes, .refl _, .io e (by omega) List.nil_prefix fun patient => ?_⟩
    exact impatient patient.1
  · rename_i skipped t result
    obtain ⟨front, passes, rfl, le, ended⟩ := Source.discard_ok result
    split
    · rename_i less
      exact ⟨front, [], passes, .refl _, .skipShort less rfl fun patient => ended patient.1 less⟩
    · rename_i whole
      obtain rfl : skip = front.length := by omega
      obtain ⟨passed, taken, copied⟩ := copyBody_copied length t sink
      exact ⟨front ++ passed, taken, passes.trans copied.passes, copied.takes,
        (copied.ends.imp (And.imp_left passes.patient)).after_skip⟩

end Depot
