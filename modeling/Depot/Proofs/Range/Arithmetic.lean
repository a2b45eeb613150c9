import Depot.Proofs.Range.Meaning

/-!
# Windows in 64 bits

Positions and lengths are numbers of 64 bits. `Word.add?` and `Word.sub?` are sums and differences that have no
value where such a number would be exceeded or would fall below zero. Whatever is computed of a set of windows
is computed here once more with them, and never lacks a value: the position behind a window
(`RangeHeader.ascends?_eq`), the length of a window (`Window.length?_eq`) and the length of all of them
(`WindowSet.length?_eq`), which is at most that of the artifact (`WindowSet.length_le`).
-/

namespace Depot

/-! ## Sums and differences -/

namespace Word

/-- The sum of two numbers, if it has 64 bits. -/
def add? (m n : Nat) : Option Nat :=
  if m + n < wordBound then some (m + n) else none

/-- The difference of two numbers, if it is not below zero. -/
def sub? (m n : Nat) : Option Nat :=
  if n ≤ m then some (m - n) else none

theorem add?_eq_some {m n : Nat} (fits : m + n < wordBound) : add? m n = some (m + n) :=
  if_pos fits

theorem sub?_eq_some {m n : Nat} (le : n ≤ m) : sub? m n = some (m - n) :=
  if_pos le

theorem eq_of_sub?_eq_some {m n difference : Nat} (found : sub? m n = some difference) :
    difference = m - n := by
  unfold sub? at found
  split at found
  · exact (Option.some.inj found).symm
  · cases found

end Word

/-! ## Windows -/

/-- Whether every window starts at or after the cursor, which is then put behind that window. -/
def RangeHeader.ascends? : Nat → List Window → Option Bool
  | _, [] => some true
  | cursor, w :: rest =>
    if w.first < cursor then some false
    else
      match Word.add? w.last 1 with
      | none => none
      | some behind => ascends? behind rest

theorem RangeHeader.ascends?_eq {cursor : Nat} {windows : List Window}
    (small : ∀ w ∈ windows, w.total < wordBound) :
    ascends? cursor windows = some (decide (AscendingFrom cursor windows)) := by
  induction windows generalizing cursor with
  | nil => rfl
  | cons w rest ih =>
    obtain ⟨here, later⟩ := List.forall_mem_cons.1 small
    have behind : w.last + 1 < wordBound := Nat.lt_of_le_of_lt w.last_lt_total here
    rw [ascends?, Word.add?_eq_some behind]
    by_cases meets : w.first < cursor
    · have fails : ¬ AscendingFrom cursor (w :: rest) := fun ascending => Nat.not_le.2 meets ascending.1
      rw [if_pos meets, decide_eq_false fails]
    · have goesOn : AscendingFrom cursor (w :: rest) ↔ AscendingFrom (w.last + 1) rest :=
        and_iff_right (Nat.not_lt.1 meets)
      rw [if_neg meets, decide_eq_decide.2 goesOn]
      exact ih later

namespace Window

/-- The number of positions in the window, counted from its ends. -/
def length? (w : Window) : Option Nat :=
  match Word.sub? w.last w.first with
  | none => none
  | some distance => Word.add? distance 1

theorem length?_eq {w : Window} (small : w.total < wordBound) : w.length? = some w.length := by
  have := w.last_lt_total
  rw [length?, Word.sub?_eq_some w.first_le_last]
  exact Word.add?_eq_some (by omega)

end Window

/-! ## Sets of windows -/

/-- Windows that ascend have no more positions together than there are behind the cursor. -/
theorem AscendingFrom.total_length_le {cursor size : Nat} {windows : List Window}
    (ascending : AscendingFrom cursor windows) (inside : ∀ w ∈ windows, w.total = size)
    (le : cursor ≤ size) : cursor + (windows.map Window.length).sum ≤ size := by
  induction windows generalizing cursor with
  | nil => exact le
  | cons w rest ih =>
    obtain ⟨here, later⟩ := List.forall_mem_cons.1 inside
    have behind := ih ascending.2 later (here ▸ w.last_lt_total)
    have := ascending.1
    have := w.first_add_length
    rw [List.map_cons, List.sum_cons]
    omega

namespace WindowSet

/-- Adds the lengths of some windows to a sum. -/
def addLengths? : Nat → List Window → Option Nat
  | sum, [] => some sum
  | sum, w :: rest =>
    match w.length? with
    | none => none
    | some length =>
      match Word.add? sum length with
      | none => none
      | some more => addLengths? more rest

theorem addLengths?_eq {sum : Nat} {windows : List Window}
    (small : ∀ w ∈ windows, w.total < wordBound)
    (fits : sum + (windows.map Window.length).sum < wordBound) :
    addLengths? sum windows = some (sum + (windows.map Window.length).sum) := by
  induction windows generalizing sum with
  | nil => rfl
  | cons w rest ih =>
    obtain ⟨here, later⟩ := List.forall_mem_cons.1 small
    rw [List.map_cons, List.sum_cons, ← Nat.add_assoc] at fits ⊢
    have more : sum + w.length < wordBound := by omega
    rw [addLengths?, Window.length?_eq here]
    dsimp only
    rw [Word.add?_eq_some more]
    exact ih later fits

/-- The number of positions that the windows cover together, added up one by one. -/
def length? (s : WindowSet) : Option Nat :=
  addLengths? 0 s.windows

variable {set : WindowSet} {size : Nat}

/-- The windows of an artifact do not have more positions together than the artifact. -/
theorem length_le (inside : ∀ w ∈ set.windows, w.total = size) : set.length ≤ size := by
  have := set.ascending.total_length_le inside (Nat.zero_le size)
  rwa [Nat.zero_add] at this

theorem length?_eq (inside : ∀ w ∈ set.windows, w.total = size) (small : size < wordBound) :
    set.length? = some set.length := by
  have fits : 0 + (set.windows.map Window.length).sum < wordBound := by
    have := length_le inside
    rw [Nat.zero_add]
    exact Nat.lt_of_le_of_lt this small
  have added := addLengths?_eq (fun w member => inside w member ▸ small) fits
  rwa [Nat.zero_add] at added

end WindowSet

end Depot
