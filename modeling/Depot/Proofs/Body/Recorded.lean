import Depot.Proofs.Body.Written
import Depot.Proofs.Body.Arithmetic
import Depot.Proofs.Stream.Unreported

/-!
# What the reports on a body leave out

The number that is recorded for a streamed body is the sum of its reports. Reports are about bytes of the artifact,
so they leave out what sets parts apart (`Multipart.framing`), and they leave out the bytes that were shipped but not
reported when the source failed. `Shape.recorded_write` says of every body that is written to a sink that takes
everything that nothing else is left out.
-/

namespace Depot

namespace Multipart

/-- The number of bytes that stand before the contents of some parts. Every part but the first follows the end of a
line. -/
def headersLength : Bool → List Window → Nat
  | _, [] => 0
  | isFirst, w :: rest => (if isFirst then 0 else 2) + (opening w).length + headersLength false rest

/-- The number of bytes of a body that are not bytes of the artifact: the headers of the parts that were begun, and
the closing delimiter if the body is complete. -/
def framing (isFirst : Bool) (begun : List Window) : Except StreamError Nat → Nat
  | .ok _ => headersLength isFirst begun + (utf8 "\r\n--THIS_STRING_SEPARATES_MULTIPART--").length
  | .error _ => headersLength isFirst begun

theorem length_partHeader (isFirst : Bool) (w : Window) :
    (partHeader isFirst w).length = (if isFirst then 0 else 2) + (opening w).length := by
  cases isFirst with
  | true => rw [partHeader_true, if_pos rfl, Nat.zero_add]
  | false =>
    rw [partHeader_false, List.length_append, if_neg Bool.false_ne_true]
    rfl

theorem framing_cons (isFirst : Bool) (w : Window) (begun : List Window) (outcome : Except StreamError Nat) :
    framing isFirst (w :: begun) outcome = (partHeader isFirst w).length + framing false begun outcome := by
  rw [length_partHeader]
  cases outcome with
  | ok => exact Nat.add_assoc _ _ _
  | error => rfl

theorem partHeader_pos (isFirst : Bool) (w : Window) : 0 < (partHeader isFirst w).length := by
  have lineEnd_pos : 0 < (utf8 lineEnd).length := by decide
  rw [partHeader, utf8_append, List.length_append]
  exact Nat.lt_of_lt_of_le lineEnd_pos (Nat.le_add_left _ _)

/-- Parts that were begun are framed. -/
theorem framing_pos (isFirst : Bool) {windows : List Window} (some : windows ≠ []) {begun : Nat} (pos : 0 < begun)
    (outcome : Except StreamError Nat) : 0 < framing isFirst (windows.take begun) outcome := by
  obtain ⟨w, rest, rfl⟩ := List.exists_cons_of_ne_nil some
  obtain ⟨more, rfl⟩ := Nat.exists_eq_succ_of_ne_zero (Nat.ne_of_gt pos)
  rw [List.take_succ_cons, framing_cons]
  exact Nat.lt_of_lt_of_le (partHeader_pos isFirst w) (Nat.le_add_right _ _)

end Multipart

namespace Shape

/-- What the parts of some windows come to: of the `length` bytes written with them, `recorded` are in the reports,
and the rest frames the parts that were begun or is `missing`. -/
structure PartsRecorded (isFirst : Bool) (windows : List Window) (outcome : Except StreamError Nat)
    (length recorded begun missing : Nat) : Prop where
  length_eq : length = recorded + Multipart.framing isFirst (windows.take begun) outcome + missing
  begun_pos : windows ≠ [] → 0 < begun
  begun_le : begun ≤ windows.length
  begun_eq : ∀ n, outcome = .ok n → begun = windows.length
  missing_eq : (∀ e, outcome ≠ .error (.io e)) → missing = 0
  missing_lt : missing = 0 ∨ missing * 10 < (windows.map Window.length).sum

namespace PartsRecorded

variable {rest : List Window} {outcome : Except StreamError Nat} {length recorded begun missing : Nat}

/-- Behind the last part stands the closing delimiter. -/
theorem closed (isFirst : Bool) (count recorded : Nat) :
    PartsRecorded isFirst [] (.ok count) (recorded + Multipart.closing.length) recorded 0 0 where
  length_eq := by
    rw [List.take_nil, Multipart.framing, Multipart.headersLength, Nat.zero_add]
    rfl
  begun_pos := fun some => absurd rfl some
  begun_le := Nat.le_refl _
  begun_eq := fun _ _ => rfl
  missing_eq := fun _ => rfl
  missing_lt := .inl rfl

/-- A part that fails is the last that was begun. -/
theorem stopped (isFirst : Bool) (w : Window) (rest : List Window) {e : StreamError} (recorded : Nat)
    (noIo : (∀ e', (.error e : Except StreamError Nat) ≠ .error (.io e')) → missing = 0)
    (few : missing = 0 ∨ missing * 10 < w.length) :
    PartsRecorded isFirst (w :: rest) (.error e) (recorded + (Multipart.partHeader isFirst w).length + missing)
      recorded 1 missing where
  length_eq := by
    rw [List.take_succ_cons, Multipart.framing_cons]
    rfl
  begun_pos := fun _ => Nat.one_pos
  begun_le := Nat.succ_le_succ (Nat.zero_le _)
  begun_eq := by rintro n ⟨⟩
  missing_eq := noIo
  missing_lt := by
    rw [List.map_cons, List.sum_cons]
    omega

/-- A complete part adds its header to what stands behind it. -/
theorem cons (isFirst : Bool) (w : Window)
    (others : PartsRecorded false rest outcome length recorded begun missing) :
    PartsRecorded isFirst (w :: rest) outcome ((Multipart.partHeader isFirst w).length + length) recorded
      (begun + 1) missing where
  length_eq := by
    have := others.length_eq
    rw [List.take_succ_cons, Multipart.framing_cons]
    omega
  begun_pos := fun _ => Nat.succ_pos _
  begun_le := Nat.succ_le_succ others.begun_le
  begun_eq := fun n ok => congrArg _ (others.begun_eq n ok)
  missing_eq := others.missing_eq
  missing_lt := by
    have := others.missing_lt
    rw [List.map_cons, List.sum_cons]
    omega

end PartsRecorded

theorem writeParts_recorded (windows : List Window) (isFirst : Bool) (position shipped : Nat)
    (events : List Progress.Event) (source : Source) {sink : Sink} (patient : sink.conduct.Patient) :
    ∃ taken begun missing,
      sink.Took taken (writeParts isFirst position shipped events source sink windows).outlet ∧
      PartsRecorded isFirst windows (writeParts isFirst position shipped events source sink windows).outcome
        (Progress.reported events + taken.length)
        (Progress.reported (writeParts isFirst position shipped events source sink windows).events) begun missing := by
  induction windows generalizing isFirst position shipped events source sink with
  | nil =>
    unfold writeParts
    split
    · rename_i e k written
      obtain ⟨-, -, -, -, -, impatient⟩ := Sink.writeAll_error written
      exact absurd patient impatient
    · rename_i k written
      exact ⟨Multipart.closing, 0, 0, Sink.writeAll_ok written, .closed isFirst shipped _⟩
  | cons w rest ih =>
    unfold writeParts
    split
    · rename_i e k written
      obtain ⟨-, -, -, -, -, impatient⟩ := Sink.writeAll_error written
      exact absurd patient impatient
    · rename_i k written
      have header := Sink.writeAll_ok written
      obtain ⟨taken, missing, takes, unreported⟩ :=
        copyWindow_unreported (w.first - position) w.length source (header.patient patient)
      have shipped_eq := unreported.shipped_eq
      dsimp only
      split
      · rename_i e outcome
        have noIo := unreported.missing_eq
        rw [outcome] at noIo
        have part := PartsRecorded.stopped isFirst w rest (Progress.reported events +
          Progress.reported (copyWindow (w.first - position) w.length source k).events) noIo unreported.missing_lt
        refine ⟨_, 1, missing, header.trans takes, ?_⟩
        rw [Progress.reported_append]
        convert part using 1
        rw [List.length_append]
        omega
      · rename_i count outcome
        have all : missing = 0 := unreported.missing_eq (by rw [outcome]; rintro e ⟨⟩)
        obtain ⟨more, begun, missing', others, recorded⟩ := ih false (w.last + 1) (shipped + count)
          (events ++ (copyWindow (w.first - position) w.length source k).events)
          (copyWindow (w.first - position) w.length source k).source (takes.patient (header.patient patient))
        refine ⟨_, begun + 1, missing', header.trans (takes.trans others), ?_⟩
        convert recorded.cons isFirst w using 1
        rw [Progress.reported_append, List.length_append, List.length_append]
        omega

/-! ## Bodies -/

/-- Of the `length` bytes of a body of some shape, `recorded` are in the reports; the rest frames parts or is
`missing`, and there is none of either but for parts and for a source that failed. -/
structure Recorded (shape : Shape) (outcome : Except StreamError Nat) (length recorded framing missing : Nat) :
    Prop where
  length_eq : length = recorded + framing + missing
  framing_eq : (∀ windows, shape ≠ .parts windows) → framing = 0
  framing_parts : ∀ windows, shape = .parts windows → ∃ begun, 0 < begun ∧ begun ≤ windows.windows.length ∧
    (∀ n, outcome = .ok n → begun = windows.windows.length) ∧
    framing = Multipart.framing true (windows.windows.take begun) outcome
  missing_eq : (∀ e, outcome ≠ .error (.io e)) → missing = 0
  missing_lt : missing = 0 ∨ missing * 10 < shape.requested

theorem recorded_of_unreported {shape : Shape} {length missing : Nat} {run : CopyRun Sink}
    (plain : ∀ windows, shape ≠ .parts windows) (unreported : run.Unreported shape.requested length missing) :
    shape.Recorded run.outcome length (Progress.reported run.events) 0 missing where
  length_eq := unreported.shipped_eq
  framing_eq := fun _ => rfl
  framing_parts := fun windows same => absurd same (plain windows)
  missing_eq := unreported.missing_eq
  missing_lt := unreported.missing_lt

theorem recorded_writeContent (shape : Shape) (source : Source) {sink : Sink} (patient : sink.conduct.Patient) :
    ∃ taken framing missing, sink.Took taken (shape.writeContent source sink).outlet ∧
      shape.Recorded (shape.writeContent source sink).outcome taken.length
        (Progress.reported (shape.writeContent source sink).events) framing missing := by
  cases shape with
  | whole length =>
    obtain ⟨taken, missing, takes, unreported⟩ := copyWindow_unreported 0 length source patient
    exact ⟨taken, 0, missing, takes, recorded_of_unreported (fun _ => Shape.noConfusion) unreported⟩
  | single window =>
    obtain ⟨taken, missing, takes, unreported⟩ := copyWindow_unreported window.first window.length source patient
    exact ⟨taken, 0, missing, takes, recorded_of_unreported (fun _ => Shape.noConfusion) unreported⟩
  | parts windows =>
    obtain ⟨taken, begun, missing, takes, recorded⟩ :=
      writeParts_recorded windows.windows true 0 0 [] source patient
    have length_eq := recorded.length_eq
    rw [show Progress.reported [] = 0 from rfl, Nat.zero_add] at length_eq
    refine ⟨taken, _, missing, takes, length_eq, fun plain => absurd rfl (plain windows), ?_, recorded.missing_eq,
      recorded.missing_lt⟩
    rintro _ ⟨⟩
    exact ⟨begun, recorded.begun_pos windows.nonempty, recorded.begun_le, recorded.begun_eq, rfl⟩
  | unsatisfiable =>
    exact ⟨[], 0, 0, .refl _, recorded_of_unreported (fun _ => Shape.noConfusion) ⟨rfl, fun _ => rfl, .inl rfl⟩⟩

/-- Whatever the source does, the reports on a body that is written to memory are about all its bytes but those
that frame parts and those that were shipped and not reported. -/
theorem recorded_write (shape : Shape) (source : Source) :
    ∃ framing missing, shape.Recorded (shape.write source ({} : Sink)).outcome
      (shape.write source ({} : Sink)).outlet.toList.length
      (Progress.reported (shape.write source ({} : Sink)).events) framing missing := by
  have patient : ({} : Sink).conduct.Patient := Conduct.patient_smooth
  obtain ⟨taken, framing, missing, takes, recorded⟩ := recorded_writeContent shape source patient
  refine ⟨framing, missing, ?_⟩
  have toList : (shape.writeContent source ({} : Sink)).outlet.toList = taken := takes.toList
  rw [events_write]
  rcases content : (shape.writeContent source ({} : Sink)).outcome with e | n
  · rw [write_of_error content, toList]
    exact recorded
  · obtain ⟨bytes, -, outcome⟩ := write_of_ok content
    rw [takes.flushError] at outcome
    rw [bytes, toList, outcome, ← content]
    exact recorded

namespace Recorded

variable {shape : Shape} {outcome : Except StreamError Nat} {length recorded framing missing : Nat}

/-- Of a body that is not framed and was not cut off by a source that failed, everything is recorded. -/
theorem eq_of_plain (account : shape.Recorded outcome length recorded framing missing)
    (plain : ∀ windows, shape ≠ .parts windows) (noIo : ∀ e, outcome ≠ .error (.io e)) : recorded = length := by
  have length_eq := account.length_eq
  rw [account.framing_eq plain, account.missing_eq noIo] at length_eq
  exact length_eq.symm

/-- Of a body of parts, never everything is recorded. -/
theorem lt_of_parts (account : shape.Recorded outcome length recorded framing missing) {windows : WindowSet}
    (parts : shape = .parts windows) : recorded < length := by
  obtain ⟨begun, pos, -, -, framed⟩ := account.framing_parts windows parts
  have := Multipart.framing_pos true windows.nonempty pos outcome
  have := account.length_eq
  omega

end Recorded

end Shape

end Depot
