import Depot.Stream.Progress
import Depot.Stream.Sink
import Depot.Stream.Source
import Depot.Text.Decimal

/-!
# Copying a window

`copyWindow` reads over `skip` bytes of a source and copies the `length` bytes that follow to an outlet.
It asks for no byte beyond the window, ships every byte that it has read, and either ships the whole
window or says what went wrong.
-/

namespace Depot

/-- Why a body could not be written. -/
inductive StreamError
  /-- The source ended among the bytes to be read over. -/
  | skipShortfall (requested skipped : Nat)
  /-- The source ended inside a window. -/
  | shortfall (requested missing : Nat)
  /-- A source or a sink failed. -/
  | io (e : IoError)
deriving DecidableEq, Repr

namespace StreamError

/-- The text that reports the failure. -/
def message : StreamError → String
  | skipShortfall requested skipped =>
    "source ended after skipping " ++ decimal skipped ++ " of " ++ decimal requested ++ " bytes"
  | shortfall requested missing =>
    decimal missing ++ " of " ++ decimal requested ++ " bytes could not be written to client"
  | io e => "stream I/O failed: " ++ e.message

end StreamError

/-- What remains after some part of a body was written. -/
structure CopyRun (σ : Type) where
  /-- The number of artifact bytes shipped, or what stopped the writing. -/
  outcome : Except StreamError Nat
  source : Source
  outlet : σ
  /-- The progress reports made on the way, in order. -/
  events : List Progress.Event

section Copy

variable {σ : Type} [Outlet σ]

/-- Copies what is left of a window of `length` bytes of which `tally` counts the part shipped. -/
def copyRest (length : Nat) (tally : Tally) (source : Source) (outlet : σ) : CopyRun σ :=
  if length ≤ tally.shipped then ⟨.ok tally.shipped, source, outlet, tally.events⟩
  else
    match result : source.read (min bufferSize (length - tally.shipped)) with
    | (.error e, source') =>
      have := Source.fuel_lt_of_read_error result
      if e.isInterrupted then copyRest length tally source' outlet
      else ⟨.error (.io e), source', outlet, tally.events⟩
    | (.ok chunk, source') =>
      if moved : chunk = [] then
        ⟨.error (.shortfall length (length - tally.shipped)), source', outlet,
          (tally.close length).events⟩
      else
        have := Source.fuel_lt_of_read_ok result moved
        match Outlet.writeAll chunk outlet with
        | (.error e, outlet') => ⟨.error (.io e), source', outlet', tally.events⟩
        | (.ok (), outlet') => copyRest length (tally.ship length chunk.length) source' outlet'
termination_by source.fuel

/-- One turn of the copy: read, write what was read, go on. -/
theorem copyRest_eq (length : Nat) (tally : Tally) (source : Source) (outlet : σ) :
    copyRest length tally source outlet =
      if length ≤ tally.shipped then ⟨.ok tally.shipped, source, outlet, tally.events⟩
      else
        match source.read (min bufferSize (length - tally.shipped)) with
        | (.error e, source') =>
          if e.isInterrupted then copyRest length tally source' outlet
          else ⟨.error (.io e), source', outlet, tally.events⟩
        | (.ok chunk, source') =>
          if chunk = [] then
            ⟨.error (.shortfall length (length - tally.shipped)), source', outlet,
              (tally.close length).events⟩
          else
            match Outlet.writeAll chunk outlet with
            | (.error e, outlet') => ⟨.error (.io e), source', outlet', tally.events⟩
            | (.ok (), outlet') =>
              copyRest length (tally.ship length chunk.length) source' outlet' := by
  rw [copyRest]
  split
  · rfl
  · split
    · rename_i result
      simp only [result]
    · rename_i result
      simp only [result]
      rfl

/-- Copies a window; an empty one is reported once. -/
def copyBody (length : Nat) (source : Source) (outlet : σ) : CopyRun σ :=
  if length = 0 then ⟨.ok 0, source, outlet, [⟨0, 0, 0⟩]⟩
  else copyRest length {} source outlet

/-- Reads over `skip` bytes and copies the `length` bytes that follow. -/
def copyWindow (skip length : Nat) (source : Source) (outlet : σ) : CopyRun σ :=
  match source.discard skip with
  | (.error e, source') => ⟨.error (.io e), source', outlet, []⟩
  | (.ok skipped, source') =>
    if skipped < skip then ⟨.error (.skipShortfall skip skipped), source', outlet, []⟩
    else copyBody length source' outlet

end Copy

end Depot
