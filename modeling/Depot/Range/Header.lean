import Depot.Range.Spec
import Depot.Text.Affix

/-!
# The `Range` header

A header is the unit `bytes=` and a comma-separated list of items. All items are read before any of
them is resolved, so a single bad item makes the whole header malformed. The windows are put in
ascending order; windows that meet are refused rather than merged, so that a body can be written in
one forward pass.
-/

namespace Depot

namespace RangeHeader

/-- The unit that a header begins with. -/
def unit : String := "bytes="

/-- Reads all items of a list, or names the first that is not written as one. -/
def readSpecs (items : List (List Char)) : Except RangeError (List Spec) :=
  match items with
  | [] => .ok []
  | item :: rest =>
    match Spec.read? item with
    | none => .error (.invalidSpec (String.ofList item))
    | some spec =>
      match readSpecs rest with
      | .ok specs => .ok (spec :: specs)
      | .error e => .error e

/-- Resolves all items against an artifact of `total` bytes, or gives the first failure. -/
def resolveAll (total : Nat) : List Spec → Except RangeError (List Window)
  | [] => .ok []
  | spec :: rest =>
    match spec.resolve total with
    | .error e => .error e
    | .ok window =>
      match resolveAll total rest with
      | .ok windows => .ok (window :: windows)
      | .error e => .error e

/-- Windows in the order of their starts; windows with one start keep their order. -/
def inOrder (windows : List Window) : List Window :=
  windows.mergeSort fun v w => decide (v.first ≤ w.first)

theorem inOrder_ne_nil {windows : List Window} (nonempty : windows ≠ []) :
    inOrder windows ≠ [] := by
  intro sorted
  have lengths : (inOrder windows).length = windows.length := List.length_mergeSort _
  rw [sorted] at lengths
  exact nonempty (List.eq_nil_of_length_eq_zero lengths.symm)

/-- The set of some windows, unless two of them meet. -/
def assemble (windows : List Window) : Except RangeError WindowSet :=
  if nonempty : windows = [] then .error .emptyList
  else
    if ascending : AscendingFrom 0 (inOrder windows) then
      .ok ⟨inOrder windows, inOrder_ne_nil nonempty, ascending⟩
    else .error .overlapping

/-- The windows that a `Range` header selects in an artifact of `total` bytes. -/
def windows (header : String) (total : Nat) : Except RangeError WindowSet :=
  match stripPrefix? unit.toList header.toList with
  | none => .error (.unsupportedUnit header)
  | some [] => .error .emptyList
  | some list =>
    match readSpecs (list.splitOn ',') with
    | .error e => .error e
    | .ok specs =>
      match resolveAll total specs with
      | .error e => .error e
      | .ok found => assemble found

end RangeHeader

end Depot
