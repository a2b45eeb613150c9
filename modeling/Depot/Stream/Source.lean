import Depot.Bytes
import Depot.Stream.Conduct

/-!
# Sources

A source is read forward only. `Source.read` answers with some of the bytes that are left, with none at
the end, or with an error; `Source.discard` reads over bytes that are not wanted. Every call that moves a
byte or is struck brings the source closer to its end, which `Source.fuel` measures.
-/

namespace Depot

/-- The most that one read asks for. -/
def bufferSize : Nat := 8192

/-- A forward-only stream of bytes. -/
structure Source where
  /-- The bytes that are left. -/
  rest : Bytes
  /-- The number of bytes read so far. -/
  position : Nat := 0
  conduct : Conduct := .smooth
  /-- The number of read calls made so far. -/
  calls : Nat := 0

namespace Source

/-- A source at its first byte. -/
def ofBytes (content : Bytes) (conduct : Conduct := .smooth) : Source :=
  { rest := content, conduct := conduct }

/-- Reads at most `asked` bytes; none means that the source says it has ended. -/
def read (asked : Nat) (s : Source) : Except IoError Bytes × Source :=
  match Conduct.strike? s.position s.conduct.faults with
  | some (error, left) =>
    let struck := { s with conduct := { s.conduct with faults := left }, calls := s.calls + 1 }
    match error with
    | some e => (.error e, struck)
    | none => (.ok [], struck)
  | none =>
    let count := s.conduct.allowance s.position asked
    let chunk := s.rest.take count
    (.ok chunk, { s with
      rest := s.rest.drop count, position := s.position + chunk.length, calls := s.calls + 1 })

/-- A bound on the reads that do not meet the end. -/
def fuel (s : Source) : Nat :=
  s.rest.length + s.conduct.budget

/-- A read that moves a byte shortens what is left. -/
theorem fuel_lt_of_read_ok {asked : Nat} {s s' : Source} {chunk : Bytes}
    (result : s.read asked = (.ok chunk, s')) (moved : chunk ≠ []) : s'.fuel < s.fuel := by
  unfold read at result
  split at result
  · split at result <;> simp at result
    exact absurd result.1.symm (by simpa using moved)
  · simp only [Prod.mk.injEq, Except.ok.injEq] at result
    obtain ⟨rfl, rfl⟩ := result
    have : (s.rest.take (s.conduct.allowance s.position asked)).length ≠ 0 := by
      intro none
      exact moved (List.eq_nil_of_length_eq_zero none)
    simp only [List.length_take] at this
    simp only [fuel, Conduct.budget, List.length_drop]
    omega

/-- A read that fails uses up a strike. -/
theorem fuel_lt_of_read_error {asked : Nat} {s s' : Source} {e : IoError}
    (result : s.read asked = (.error e, s')) : s'.fuel < s.fuel := by
  unfold read at result
  split at result
  · rename_i struck
    have := Conduct.budgetOf_strike struck
    split at result <;> simp at result
    obtain ⟨-, rfl⟩ := result
    simp only [fuel, Conduct.budget]
    omega
  · simp at result

/-- Reads over at most `count` bytes and says how many there were; interrupted reads are made again. -/
def discard (count : Nat) (s : Source) : Except IoError Nat × Source :=
  go count 0 s
where
  /-- Goes on until nothing is left to discard or the source ends. -/
  go (left done : Nat) (s : Source) : Except IoError Nat × Source :=
    if left = 0 then (.ok done, s)
    else
      match result : s.read (min bufferSize left) with
      | (.error e, s') =>
        have := fuel_lt_of_read_error result
        if e.isInterrupted then go left done s' else (.error e, s')
      | (.ok chunk, s') =>
        if moved : chunk = [] then (.ok done, s')
        else
          have := fuel_lt_of_read_ok result moved
          go (left - chunk.length) (done + chunk.length) s'
  termination_by s.fuel

end Source

end Depot
