import Depot.Range.Window

/-!
# Range specs

One comma-separated item of a `Range` header asks for positions in one of three ways: between two
positions, from a position on, or the last few. `Spec.read?` reads the written form, `Spec.resolve`
turns an item into the window it selects in an artifact of a given length, and `Spec.Selects` says
which positions an item means without reference to either.
-/

namespace Depot

/-- Why a `Range` header yields no windows. -/
inductive RangeError
  /-- The header does not begin with the unit of bytes. -/
  | unsupportedUnit (header : String)
  /-- An item is not written as a range spec. -/
  | invalidSpec (spec : String)
  /-- The header names no item at all. -/
  | emptyList
  /-- The artifact has no positions. -/
  | emptyArtifact
  /-- An item selects no position of the artifact. -/
  | startBeyondEnd (first last : Nat)
  /-- Two items select a common position. -/
  | overlapping
deriving DecidableEq, Repr

namespace RangeError

/-- The header breaks the grammar, whatever the artifact is. -/
def isMalformed : RangeError → Bool
  | unsupportedUnit _ | invalidSpec _ => true
  | emptyList | emptyArtifact | startBeyondEnd _ _ | overlapping => false

/-- The reason alone, without the class of the failure. -/
def reason : RangeError → String
  | unsupportedUnit header => "unsupported range unit in '" ++ header ++ "'"
  | invalidSpec spec => "invalid range spec '" ++ spec ++ "'"
  | emptyList => "empty range list"
  | emptyArtifact => "artifact is empty"
  | startBeyondEnd first last =>
    "start " ++ decimal first ++ " is beyond end " ++ decimal last
  | overlapping => "ranges are overlapping"

/-- The text that reports the failure. -/
def message (e : RangeError) : String :=
  (if e.isMalformed then "malformed range header: " else "range not satisfiable: ") ++ e.reason

end RangeError

/-- One item of a `Range` header. -/
inductive Spec
  /-- The positions `first..last`. -/
  | between (first last : Nat)
  /-- The positions from `first` to the end. -/
  | since (first : Nat)
  /-- The last `count` positions. -/
  | final (count : Nat)
deriving DecidableEq, Repr

namespace Spec

/-- One side of an item: nothing, or a number below `positionBound`. -/
def readSide? (side : List Char) : Option (Option Nat) :=
  if side = [] then some none
  else
    match Decimal.read? side with
    | some n => if n < positionBound then some (some n) else none
    | none => none

/-- Reads an item, which is divided at its first dash. -/
def read? (item : List Char) : Option Spec :=
  match item.dropWhile (· ≠ '-') with
  | [] => none
  | _ :: after =>
    match readSide? (item.takeWhile (· ≠ '-')), readSide? after with
    | some (some first), some (some last) => some (between first last)
    | some (some first), some none => some (since first)
    | some none, some (some count) => some (final count)
    | _, _ => none

/-- The item selects the position `p` of an artifact of `total` bytes. -/
def Selects (total p : Nat) : Spec → Prop
  | between first last => p < total ∧ first ≤ p ∧ p ≤ last
  | since first => p < total ∧ first ≤ p
  | final count => p < total ∧ total ≤ p + count

/-- The ends of the window that an item asks for, with the far end cut back to the last position. -/
def ends (total : Nat) : Spec → Nat × Nat
  | between first last => (first, min last (total - 1))
  | since first => (first, total - 1)
  | final count => (total - count, total - 1)

theorem ends_snd_le (spec : Spec) (total : Nat) : (spec.ends total).2 ≤ total - 1 := by
  cases spec <;> simp only [ends] <;> omega

/-- The window that an item selects in an artifact of `total` bytes. -/
def resolve (total : Nat) (spec : Spec) : Except RangeError Window :=
  if empty : total = 0 then .error .emptyArtifact
  else
    if ordered : (spec.ends total).1 ≤ (spec.ends total).2 then
      .ok {
        first := (spec.ends total).1
        last := (spec.ends total).2
        total := total
        first_le_last := ordered
        last_lt_total := by
          have := spec.ends_snd_le total
          omega }
    else .error (.startBeyondEnd (spec.ends total).1 (spec.ends total).2)

end Spec

end Depot
