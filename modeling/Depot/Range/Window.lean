import Depot.Number.Power
import Depot.Text.Decimal

/-!
# Windows of an artifact

A `Window` is a non-empty run of byte positions `first..last` inside an artifact of `total` bytes; a
`WindowSet` is a non-empty ascending list of windows that do not meet. Both carry these facts as proofs.
`WindowSet.pairwise` restates the ascent as a relation between any two members.
-/

namespace Depot

/-- A byte position or a length is a number below this bound. -/
def positionBound : Nat := wordBound

/-- The byte positions `first..last`, both included, of an artifact of `total` bytes. -/
structure Window where
  first : Nat
  last : Nat
  total : Nat
  first_le_last : first ≤ last
  last_lt_total : last < total
deriving DecidableEq, Repr

namespace Window

/-- The number of positions in the window. -/
def length (w : Window) : Nat :=
  w.last - w.first + 1

/-- The position `p` lies in the window. -/
def Contains (w : Window) (p : Nat) : Prop :=
  w.first ≤ p ∧ p ≤ w.last

instance (w : Window) (p : Nat) : Decidable (w.Contains p) :=
  inferInstanceAs (Decidable (_ ∧ _))

/-- The `Content-Range` value that labels the window. -/
def contentRange (w : Window) : String :=
  "bytes " ++ decimal w.first ++ "-" ++ decimal w.last ++ "/" ++ decimal w.total

theorem length_pos (w : Window) : 0 < w.length :=
  Nat.succ_pos _

theorem first_add_length (w : Window) : w.first + w.length = w.last + 1 := by
  have := w.first_le_last
  simp only [length]
  omega

theorem first_add_length_le_total (w : Window) : w.first + w.length ≤ w.total := by
  have := w.last_lt_total
  rw [first_add_length]
  omega

end Window

/-- The `Content-Range` value of an answer that no window of `total` bytes satisfies. -/
def unsatisfiedContentRange (total : Nat) : String :=
  "bytes */" ++ decimal total

/-- Every window starts at or after `cursor` and after the end of the one before it. -/
def AscendingFrom : Nat → List Window → Prop
  | _, [] => True
  | cursor, w :: rest => cursor ≤ w.first ∧ AscendingFrom (w.last + 1) rest

instance decidableAscendingFrom : (cursor : Nat) → (windows : List Window) →
    Decidable (AscendingFrom cursor windows)
  | _, [] => isTrue trivial
  | _, w :: rest =>
    have := decidableAscendingFrom (w.last + 1) rest
    inferInstanceAs (Decidable (_ ∧ _))

theorem AscendingFrom.mono {low high : Nat} {windows : List Window} (le : low ≤ high)
    (ascending : AscendingFrom high windows) : AscendingFrom low windows := by
  cases windows with
  | nil => trivial
  | cons w rest => exact ⟨Nat.le_trans le ascending.1, ascending.2⟩

theorem AscendingFrom.le_first {cursor : Nat} {windows : List Window}
    (ascending : AscendingFrom cursor windows) {w : Window} (member : w ∈ windows) :
    cursor ≤ w.first := by
  induction windows generalizing cursor with
  | nil => simp at member
  | cons v rest ih =>
    rcases List.mem_cons.1 member with rfl | inRest
    · exact ascending.1
    · have := ih ascending.2 inRest
      have := v.first_le_last
      have := ascending.1
      omega

/-- A non-empty list of windows in ascending order, no two of which share a position. -/
structure WindowSet where
  windows : List Window
  nonempty : windows ≠ []
  ascending : AscendingFrom 0 windows
deriving DecidableEq, Repr

namespace WindowSet

/-- The only window, if there is exactly one. -/
def single? (s : WindowSet) : Option Window :=
  match s.windows with
  | [w] => some w
  | _ => none

/-- The number of positions that the windows cover together. -/
def length (s : WindowSet) : Nat :=
  (s.windows.map Window.length).sum

end WindowSet

/-- In an ascending list an earlier window ends before a later one starts. -/
theorem AscendingFrom.pairwise {cursor : Nat} {windows : List Window}
    (ascending : AscendingFrom cursor windows) :
    windows.Pairwise fun v w => v.last < w.first := by
  induction windows generalizing cursor with
  | nil => exact .nil
  | cons w rest ih =>
    exact .cons (fun v member => ascending.2.le_first member) (ih ascending.2)

theorem WindowSet.pairwise (s : WindowSet) : s.windows.Pairwise fun v w => v.last < w.first :=
  s.ascending.pairwise

end Depot
