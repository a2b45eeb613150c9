import Depot.Bytes
import Depot.Stream.Conduct

/-!
# Sinks

An `Outlet` is anything that a body can be written to. A `Sink` is an outlet that keeps what it accepts:
it may take less than it is offered and may fail, and `Sink.writeAll` goes on until all is taken.
-/

namespace Depot

/-- A place where a body is written. -/
class Outlet (σ : Type) where
  /-- Writes all the bytes, or reports why some were not taken. -/
  writeAll : Bytes → σ → Except IoError Unit × σ
  /-- Passes on what is held back. -/
  flush : σ → Except IoError Unit × σ

/-- An outlet that keeps the bytes it has accepted. -/
structure Sink where
  accepted : Array UInt8 := #[]
  conduct : Conduct := .smooth
  /-- What flushing reports, if it fails. -/
  flushError : Option IoError := none
  /-- The number of flush calls made so far. -/
  flushes : Nat := 0

namespace Sink

/-- The bytes accepted so far. -/
def toList (s : Sink) : Bytes :=
  s.accepted.toList

/-- Offers some bytes and says how many of them were taken. -/
def write (offered : Bytes) (s : Sink) : Except IoError Nat × Sink :=
  match Conduct.strike? s.accepted.size s.conduct.faults with
  | some (error, left) =>
    let struck := { s with conduct := { s.conduct with faults := left } }
    match error with
    | some e => (.error e, struck)
    | none => (.ok 0, struck)
  | none =>
    let count := s.conduct.allowance s.accepted.size offered.length
    (.ok count, { s with accepted := s.accepted ++ offered.take count })

/-- A write that fails uses up a strike. -/
theorem budget_lt_of_write_error {offered : Bytes} {s s' : Sink} {e : IoError}
    (result : s.write offered = (.error e, s')) : s'.conduct.budget < s.conduct.budget := by
  unfold write at result
  split at result
  · rename_i struck
    have := Conduct.budgetOf_strike struck
    split at result <;> simp at result
    obtain ⟨-, rfl⟩ := result
    simp only [Conduct.budget]
    omega
  · simp at result

/-- A write that takes a byte leaves the strikes alone. -/
theorem budget_eq_of_write_ok {offered : Bytes} {s s' : Sink} {count : Nat}
    (result : s.write offered = (.ok count, s')) (taken : count ≠ 0) :
    s'.conduct.budget = s.conduct.budget := by
  unfold write at result
  split at result
  · split at result <;> simp at result
    exact absurd result.1.symm taken
  · simp only [Prod.mk.injEq] at result
    obtain ⟨-, rfl⟩ := result
    rfl

/-- Offers what is left until all of it is taken. Interrupted writes are made again; a write that takes
nothing is an error of its own. -/
def writeAll (offered : Bytes) (s : Sink) : Except IoError Unit × Sink :=
  if offered.length = 0 then (.ok (), s)
  else
    match result : s.write offered with
    | (.error e, s') =>
      have := budget_lt_of_write_error result
      if e.isInterrupted then writeAll offered s' else (.error e, s')
    | (.ok count, s') =>
      if taken : count = 0 then (.error IoError.writeZero, s')
      else
        have := budget_eq_of_write_ok result taken
        writeAll (offered.drop count) s'
termination_by offered.length + s.conduct.budget
decreasing_by
  · omega
  · simp only [List.length_drop]
    omega

/-- Counts the call and reports the planned failure, if any. -/
def flush (s : Sink) : Except IoError Unit × Sink :=
  let called := { s with flushes := s.flushes + 1 }
  match s.flushError with
  | some e => (.error e, called)
  | none => (.ok (), called)

instance : Outlet Sink where
  writeAll := writeAll
  flush := flush

end Sink

end Depot
