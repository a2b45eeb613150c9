import Depot.IoError
import Depot.Number.Power

/-!
# How a stream behaves

A source or a sink moves as many bytes per call as its pace allows and fails where a fault is planned.
A `Conduct` holds both: the pace gives for each position the most that one call may move there, and
each fault strikes a call made at its position, a given number of times. `Conduct.budget` counts the
strikes that are left; a call that is struck uses one up, which is why retrying comes to an end.
-/

namespace Depot

/-- A planned failure of calls made at one position of a stream. -/
structure Fault where
  /-- The number of bytes moved before the call. -/
  position : Nat
  /-- What the call reports; nothing means that it moves no byte and reports no error. -/
  error : Option IoError
  /-- How many calls it strikes. -/
  times : Nat
deriving DecidableEq, Repr

/-- The pace of a stream and its planned failures. -/
structure Conduct where
  /-- The most that one call may move at a position; nothing means no limit. -/
  pace : Nat → Option Nat
  faults : List Fault

namespace Conduct

/-- A stream without limits and faults. -/
def smooth : Conduct := ⟨fun _ => none, []⟩

/-- A stream that moves at most `chunk` bytes per call. -/
def steady (chunk : Nat) : Conduct := ⟨fun _ => some chunk, []⟩

/-- The strikes that are left. -/
def budgetOf (faults : List Fault) : Nat :=
  (faults.map Fault.times).sum

/-- The strikes that are left. -/
def budget (c : Conduct) : Nat :=
  budgetOf c.faults

/-- The first fault that strikes a call at `position`, and the faults with that strike used up. -/
def strike? (position : Nat) : List Fault → Option (Option IoError × List Fault)
  | [] => none
  | f :: rest =>
    if f.position = position ∧ 0 < f.times then
      some (f.error, { f with times := f.times - 1 } :: rest)
    else (strike? position rest).map fun (error, left) => (error, f :: left)

/-- Of `asked` bytes, those that lie before every fault further on. -/
def upToFault (position asked : Nat) : List Fault → Nat
  | [] => asked
  | f :: rest =>
    if position < f.position ∧ 0 < f.times then
      min (f.position - position) (upToFault position asked rest)
    else upToFault position asked rest

/-- Of `asked` bytes, those that one call at `position` moves. -/
def allowance (c : Conduct) (position asked : Nat) : Nat :=
  let paced := match c.pace position with
    | none => asked
    | some most => min most asked
  upToFault position paced c.faults

theorem upToFault_le (position asked : Nat) (faults : List Fault) :
    upToFault position asked faults ≤ asked := by
  induction faults with
  | nil => exact Nat.le_refl _
  | cons f rest ih =>
    unfold upToFault
    split
    · exact Nat.le_trans (Nat.min_le_right _ _) ih
    · exact ih

theorem upToFault_pos {position asked : Nat} (faults : List Fault) (pos : 0 < asked) :
    0 < upToFault position asked faults := by
  induction faults with
  | nil => exact pos
  | cons f rest ih =>
    unfold upToFault
    split
    · omega
    · exact ih

theorem allowance_le (c : Conduct) (position asked : Nat) : c.allowance position asked ≤ asked := by
  unfold allowance
  refine Nat.le_trans (upToFault_le _ _ _) ?_
  split
  · exact Nat.le_refl _
  · exact Nat.min_le_right _ _

/-- A strike uses up one of those that are left. -/
theorem budgetOf_strike {position : Nat} {faults left : List Fault} {error : Option IoError}
    (struck : strike? position faults = some (error, left)) :
    budgetOf faults = budgetOf left + 1 := by
  induction faults generalizing left with
  | nil => simp [strike?] at struck
  | cons f rest ih =>
    unfold strike? at struck
    split at struck
    · rename_i here
      simp only [Option.some.injEq, Prod.mk.injEq] at struck
      obtain ⟨-, rfl⟩ := struck
      simp only [budgetOf, List.map_cons, List.sum_cons]
      omega
    · simp only [Option.map_eq_some_iff] at struck
      obtain ⟨⟨e, tail⟩, found, same⟩ := struck
      simp only [Prod.mk.injEq] at same
      obtain ⟨rfl, rfl⟩ := same
      have := ih found
      simp only [budgetOf, List.map_cons, List.sum_cons] at this ⊢
      omega

end Conduct

end Depot
