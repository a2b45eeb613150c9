import Depot.Proofs.Body.Alike
import Depot.Proofs.Stream.Tally
import Depot.Proofs.Stream.Copy

/-!
# The chunks of a copy

A copy reads a chunk, writes all of it and counts it before it reads again. An outlet that is `Observed` keeps the
lengths of the chunks whose writing was completed and changes nothing else (`Observed.alike`), so that
`copiedSizes` says of any copy which reads it shipped. What a copy reports depends on these lengths and on the way
it ends alone: `copyWindow_counted` gives the reports of every copy as those of a tally that ships chunks of these
lengths one after the other (`Tally.shipAll`).
-/

namespace Depot

/-! ## Observed outlets -/

/-- An outlet that keeps account of the chunks whose writing it has completed. -/
structure Observed (σ : Type) where
  outlet : σ
  /-- The lengths of the chunks, in order. -/
  sizes : List Nat := []

namespace Observed

variable {σ : Type} [Outlet σ]

instance : Outlet (Observed σ) where
  writeAll chunk observed :=
    match Outlet.writeAll chunk observed.outlet with
    | (.error e, outlet) => (.error e, { observed with outlet := outlet })
    | (.ok (), outlet) => (.ok (), ⟨outlet, observed.sizes ++ [chunk.length]⟩)
  flush observed :=
    match Outlet.flush observed.outlet with
    | (answer, outlet) => (answer, { observed with outlet := outlet })

theorem sizes_of_writeAll_ok {chunk : Bytes} {observed observed' : Observed σ}
    (written : Outlet.writeAll chunk observed = (.ok (), observed')) :
    observed'.sizes = observed.sizes ++ [chunk.length] := by
  simp only [Outlet.writeAll] at written
  split at written
  · cases written
  · cases written
    rfl

theorem sizes_of_writeAll_error {chunk : Bytes} {observed observed' : Observed σ} {e : IoError}
    (written : Outlet.writeAll chunk observed = (.error e, observed')) : observed'.sizes = observed.sizes := by
  simp only [Outlet.writeAll] at written
  split at written
  · cases written
    rfl
  · cases written

/-- An observed outlet answers as it does unobserved. -/
theorem alike : Outlet.Alike fun (left : Observed σ) (right : σ) => left.outlet = right where
  writeAll := by
    rintro left _ rfl bytes
    rcases written : Outlet.writeAll bytes left.outlet with ⟨e | ok, outlet⟩
    · exact ⟨_, ⟨outlet, left.sizes⟩, outlet, by simp only [Outlet.writeAll, written], rfl, rfl⟩
    · exact ⟨_, ⟨outlet, left.sizes ++ [bytes.length]⟩, outlet, by simp only [Outlet.writeAll, written], rfl, rfl⟩
  flush := by
    rintro left _ rfl
    rcases flushed : Outlet.flush left.outlet with ⟨answer, outlet⟩
    exact ⟨answer, ⟨outlet, left.sizes⟩, outlet, by simp only [Outlet.flush, flushed], rfl, rfl⟩

end Observed

/-- The lengths of the chunks that the copy of a window ships, in order: each was read by one call and written
completely. -/
def copiedSizes {σ : Type} [Outlet σ] (skip length : Nat) (source : Source) (outlet : σ) : List Nat :=
  (copyWindow skip length source ({ outlet := outlet } : Observed σ)).outlet.sizes

/-! ## Counting chunks -/

namespace Tally

/-- Counts chunks of the given lengths one after the other. -/
def shipAll (length : Nat) (t : Tally) (sizes : List Nat) : Tally :=
  sizes.foldl (fun t count => t.ship length count) t

@[simp] theorem shipAll_nil (length : Nat) (t : Tally) : t.shipAll length [] = t :=
  rfl

@[simp] theorem shipAll_cons (length : Nat) (t : Tally) (count : Nat) (sizes : List Nat) :
    t.shipAll length (count :: sizes) = (t.ship length count).shipAll length sizes :=
  rfl

theorem shipAll_append (length : Nat) (t : Tally) (front back : List Nat) :
    t.shipAll length (front ++ back) = (t.shipAll length front).shipAll length back :=
  List.foldl_append

@[simp] theorem shipped_shipAll (length : Nat) (t : Tally) (sizes : List Nat) :
    (t.shipAll length sizes).shipped = t.shipped + sizes.sum := by
  induction sizes generalizing t with
  | nil => rfl
  | cons count rest ih => rw [shipAll_cons, ih, shipped_ship, List.sum_cons, Nat.add_assoc]

theorem shipped_shipAll_empty (length : Nat) (sizes : List Nat) :
    (({} : Tally).shipAll length sizes).shipped = sizes.sum := by
  rw [shipped_shipAll]
  exact Nat.zero_add _

/-- How the copy of a window of `length` bytes may end when `t` has counted its chunks, and the reports that it has
then made. -/
inductive Ends (length : Nat) (t : Tally) : Except StreamError Nat → List Progress.Event → Prop
  | whole (_ : t.shipped = length) : Ends length t (.ok length) t.events
  | short (_ : t.shipped < length) :
    Ends length t (.error (.shortfall length (length - t.shipped))) (t.close length).events
  | io (e : IoError) (_ : t.shipped < length) : Ends length t (.error (.io e)) t.events

end Tally

/-- The lengths of chunks none of which is empty and which belong to a window of `length` bytes of which `shipped`
were shipped before. -/
structure ChunksOf (length shipped : Nat) (sizes : List Nat) : Prop where
  pos : ∀ size ∈ sizes, 0 < size
  le : shipped + sizes.sum ≤ length

namespace ChunksOf

variable {length shipped count : Nat} {sizes front back : List Nat} {t : Tally}

theorem nil (le : shipped ≤ length) : ChunksOf length shipped [] :=
  ⟨by simp, le⟩

theorem cons (pos : 0 < count) (later : ChunksOf length (shipped + count) sizes) :
    ChunksOf length shipped (count :: sizes) where
  pos := List.forall_mem_cons.2 ⟨pos, later.pos⟩
  le := by
    rw [List.sum_cons, ← Nat.add_assoc]
    exact later.le

theorem head_pos (chunks : ChunksOf length shipped (count :: sizes)) : 0 < count :=
  chunks.pos count List.mem_cons_self

theorem head_le (chunks : ChunksOf length shipped (count :: sizes)) : count ≤ length - shipped := by
  have le := chunks.le
  rw [List.sum_cons] at le
  omega

theorem append_left (chunks : ChunksOf length shipped (front ++ back)) : ChunksOf length shipped front where
  pos := fun size member => chunks.pos size (List.mem_append_left back member)
  le := by
    have le := chunks.le
    rw [List.sum_append_nat] at le
    omega

/-- When the first chunk has been counted, the others still belong to the window. -/
theorem ship (chunks : ChunksOf length t.shipped (count :: sizes)) :
    ChunksOf length (t.ship length count).shipped sizes where
  pos := (List.forall_mem_cons.1 chunks.pos).2
  le := by
    have le := chunks.le
    rwa [List.sum_cons, ← Nat.add_assoc, ← Tally.shipped_ship length count t] at le

theorem shipAll (chunks : ChunksOf length t.shipped (front ++ back)) :
    ChunksOf length (t.shipAll length front).shipped back where
  pos := fun size member => chunks.pos size (List.mem_append_right front member)
  le := by
    have le := chunks.le
    rwa [List.sum_append_nat, ← Nat.add_assoc, ← Tally.shipped_shipAll length t front] at le

end ChunksOf

/-! ## Chunks of a copy -/

/-- The chunks of a copied window, how it ended and what was reported: the window was not reached, it is empty, or
its chunks were counted. -/
inductive WindowCounted (length : Nat) : List Nat → Except StreamError Nat → List Progress.Event → Prop
  | unreached (e : StreamError) : WindowCounted length [] (.error e) []
  | empty (_ : length = 0) : WindowCounted length [] (.ok 0) [⟨0, 0, 0⟩]
  | counted {sizes : List Nat} {outcome : Except StreamError Nat} {events : List Progress.Event} (_ : 0 < length)
    (_ : ChunksOf length 0 sizes) (_ : (({} : Tally).shipAll length sizes).Ends length outcome events) :
    WindowCounted length sizes outcome events

section Copy

variable {σ : Type} [Outlet σ]

theorem copyRest_counted (length : Nat) (tally : Tally) (source : Source) (observed : Observed σ)
    (le : tally.shipped ≤ length) :
    ∃ sizes, (copyRest length tally source observed).outlet.sizes = observed.sizes ++ sizes ∧
      ChunksOf length tally.shipped sizes ∧
      (tally.shipAll length sizes).Ends length (copyRest length tally source observed).outcome
        (copyRest length tally source observed).events := by
  fun_induction copyRest length tally source observed with
  | case1 tally source observed full =>
    have complete := Nat.le_antisymm le full
    refine ⟨[], (List.append_nil _).symm, .nil le, ?_⟩
    rw [complete]
    exact .whole complete
  | case2 tally source observed left e t result _ interrupted ih => exact ih le
  | case3 tally source observed left e t result _ fatal =>
    exact ⟨[], (List.append_nil _).symm, .nil le, .io e (Nat.lt_of_not_le left)⟩
  | case4 tally source observed left t result =>
    exact ⟨[], (List.append_nil _).symm, .nil le, .short (Nat.lt_of_not_le left)⟩
  | case5 tally source observed left chunk t result moved _ e observed' written =>
    refine ⟨[], ?_, .nil le, .io e (Nat.lt_of_not_le left)⟩
    rw [Observed.sizes_of_writeAll_error written, List.append_nil]
  | case6 tally source observed left chunk t result moved _ observed' written ih =>
    obtain ⟨-, fits, -⟩ := Source.read_ok result
    rw [Tally.shipped_ship] at ih
    obtain ⟨sizes, kept, chunks, ends⟩ := ih (by omega)
    refine ⟨chunk.length :: sizes, ?_, .cons (List.length_pos_iff.2 moved) chunks, ends⟩
    rw [kept, Observed.sizes_of_writeAll_ok written, List.append_assoc]
    rfl

/-- The copy of a window to an observed outlet adds the chunks of the window to those kept before. -/
theorem copyWindow_observed (skip length : Nat) (source : Source) (observed : Observed σ) :
    ∃ sizes, (copyWindow skip length source observed).outlet.sizes = observed.sizes ++ sizes ∧
      WindowCounted length sizes (copyWindow skip length source observed).outcome
        (copyWindow skip length source observed).events := by
  unfold copyWindow
  split
  · exact ⟨[], (List.append_nil _).symm, .unreached _⟩
  · split
    · exact ⟨[], (List.append_nil _).symm, .unreached _⟩
    · unfold copyBody
      split
      · rename_i empty
        exact ⟨[], (List.append_nil _).symm, .empty empty⟩
      · rename_i some
        obtain ⟨sizes, kept, chunks, ends⟩ := copyRest_counted length {} _ observed (Nat.zero_le _)
        exact ⟨sizes, kept, .counted (Nat.pos_of_ne_zero some) chunks ends⟩

/-- The reports of a copy are those of a tally of its chunks. -/
theorem copyWindow_counted (skip length : Nat) (source : Source) (outlet : σ) :
    WindowCounted length (copiedSizes skip length source outlet) (copyWindow skip length source outlet).outcome
      (copyWindow skip length source outlet).events := by
  obtain ⟨sizes, kept, counted⟩ := copyWindow_observed skip length source ({ outlet := outlet } : Observed σ)
  have same := copyWindow_alike Observed.alike skip length source
    (rfl : ({ outlet := outlet } : Observed σ).outlet = outlet)
  rw [same.outcome, same.events] at counted
  rw [copiedSizes, kept]
  exact counted

end Copy

end Depot
