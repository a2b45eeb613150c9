import Depot.Proofs.Body.Labels
import Depot.Proofs.Range.Rendering

/-!
# Windows read back

`RangeHeader.windows_read_back` says that the windows of a set can be asked for again: all of them, in any order and
also when the artifact has grown, and each of them by the numbers of its label. What can be asked for in this way are
all places that ascend inside the artifact.

A place is the first and the last position of a window. The window itself also knows how long the artifact is, which
is why a set that is read back from a longer artifact is the same only as far as its places go.
-/

namespace Depot

/-! ## Places -/

/-- The first and the last position of the window. -/
def Window.place (w : Window) : Nat × Nat :=
  (w.first, w.last)

/-- The item that asks for exactly the positions of a place. -/
def Spec.ofPlace (place : Nat × Nat) : Spec :=
  .between place.1 place.2

/-- The place has a position, and all its positions lie in an artifact of `total` bytes. -/
def IsPlace (total : Nat) (place : Nat × Nat) : Prop :=
  place.1 ≤ place.2 ∧ place.2 < total

/-- Every place ends before the later ones begin. -/
def PlacesAscend (places : List (Nat × Nat)) : Prop :=
  places.Pairwise fun p q => p.2 < q.1

theorem IsPlace.mono {total larger : Nat} (le : total ≤ larger) {place : Nat × Nat} (inside : IsPlace total place) :
    IsPlace larger place :=
  ⟨inside.1, Nat.lt_of_lt_of_le inside.2 le⟩

namespace WindowSet

variable {set : WindowSet} {total : Nat}

theorem isPlace (inside : ∀ w ∈ set.windows, w.total = total) :
    ∀ place ∈ set.windows.map Window.place, IsPlace total place := by
  rw [List.forall_mem_map]
  intro w member
  exact ⟨w.first_le_last, inside w member ▸ w.last_lt_total⟩

theorem placesAscend (set : WindowSet) : PlacesAscend (set.windows.map Window.place) :=
  List.pairwise_map.2 set.pairwise

end WindowSet

/-- The windows at some places of an artifact of `total` bytes. -/
def windowsAt {total : Nat} (places : List (Nat × Nat)) (inside : ∀ place ∈ places, IsPlace total place) :
    List Window :=
  places.pmap (fun place within => ⟨place.1, place.2, total, within.1, within.2⟩) inside

section WindowsAt

variable {total : Nat} {places : List (Nat × Nat)} (inside : ∀ place ∈ places, IsPlace total place)

theorem map_place_windowsAt : (windowsAt places inside).map Window.place = places := by
  rw [windowsAt, List.map_pmap]
  exact (List.pmap_eq_map inside).trans (List.map_id places)

theorem total_of_mem_windowsAt : ∀ w ∈ windowsAt places inside, w.total = total := by
  intro w member
  obtain ⟨place, -, rfl⟩ := List.mem_pmap.1 member
  rfl

end WindowsAt

namespace RangeHeader

/-- Places that ascend inside an artifact, written in any order, are read as the set that has them. -/
theorem exists_windows_places {total : Nat} (small : total ≤ positionBound) {places order : List (Nat × Nat)}
    (nonempty : places ≠ []) (inside : ∀ place ∈ places, IsPlace total place) (ascend : PlacesAscend places)
    (perm : order.Perm places) :
    ∃ set, windows (text (order.map Spec.ofPlace)) total = .ok set ∧ set.windows.map Window.place = places ∧
      ∀ w ∈ set.windows, w.total = total := by
  have places_eq := map_place_windowsAt inside
  have ascending : AscendingFrom 0 (windowsAt places inside) := by
    refine ascendingFrom_iff_pairwise.2 ⟨fun w _ => Nat.zero_le w.first, ?_⟩
    rw [← places_eq] at ascend
    exact List.pairwise_map.1 ascend
  have filled : windowsAt places inside ≠ [] := by
    intro empty
    rw [empty] at places_eq
    exact nonempty places_eq.symm
  have orderInside : ∀ place ∈ order, IsPlace total place := fun place member => inside place (perm.mem_iff.1 member)
  have written : (windowsAt order orderInside).map Window.spec = order.map Spec.ofPlace := by
    have spec : Window.spec = Spec.ofPlace ∘ Window.place := rfl
    rw [spec, ← List.map_map, map_place_windowsAt]
  refine ⟨⟨windowsAt places inside, filled, ascending⟩, ?_, places_eq, total_of_mem_windowsAt inside⟩
  rw [← written]
  exact windows_text (total_of_mem_windowsAt inside) small (perm.pmap _)

/-- The windows of a set, written in any order, are read from a longer artifact at the same places. -/
theorem exists_windows_of_grown {total larger : Nat} {set : WindowSet} (inside : ∀ w ∈ set.windows, w.total = total)
    (le : total ≤ larger) (small : larger ≤ positionBound) {order : List Window} (perm : order.Perm set.windows) :
    ∃ grown, windows (text (order.map Window.spec)) larger = .ok grown ∧
      grown.windows.map Window.place = set.windows.map Window.place ∧ ∀ w ∈ grown.windows, w.total = larger := by
  have nonempty : set.windows.map Window.place ≠ [] := mt List.map_eq_nil_iff.1 set.nonempty
  have within : ∀ place ∈ set.windows.map Window.place, IsPlace larger place :=
    fun place member => (set.isPlace inside place member).mono le
  obtain ⟨grown, served, places, totals⟩ :=
    exists_windows_places small nonempty within set.placesAscend (perm.map Window.place)
  rw [List.map_map] at served
  exact ⟨grown, served, places, totals⟩

/-- The label of a window tells the numbers with which the window alone is asked for. -/
theorem exists_windows_of_label {w : Window} (small : w.total ≤ positionBound) :
    ∃ first last size, Multipart.readLabel? (utf8 w.contentRange) = some (first, last, size) ∧
      ∃ alone, windows (text [.between first last]) size = .ok alone ∧ alone.windows = [w] := by
  let alone : WindowSet := ⟨[w], List.cons_ne_nil w [], Nat.zero_le w.first, trivial⟩
  have inside : ∀ v ∈ alone.windows, v.total = w.total := List.forall_mem_singleton.2 rfl
  have item : [Spec.between w.first w.last] = [w].map Window.spec := rfl
  have served : windows (text [.between w.first w.last]) w.total = .ok alone := by
    rw [item]
    exact windows_text inside small (.refl alone.windows)
  exact ⟨w.first, w.last, w.total, Multipart.readLabel?_contentRangeText w.first w.last w.total, alone, served, rfl⟩

/-- Reading undoes writing. The windows of a set are read from the text that lists them in any order: as the same
set, or, if the artifact has become longer, at the same places in the same order; and each of them is read from the
numbers of its label. What is read in this way are all the places that ascend inside the artifact. -/
theorem windows_read_back {total : Nat} (small : total < positionBound) :
    (∀ header set, windows header total = .ok set →
      (∀ order : List Window, order.Perm set.windows →
        windows (text (order.map Window.spec)) total = .ok set ∧
        ∀ larger, total ≤ larger → larger < positionBound →
          ∃ grown, windows (text (order.map Window.spec)) larger = .ok grown ∧
            grown.windows.map Window.place = set.windows.map Window.place ∧
            ∀ w ∈ grown.windows, w.total = larger) ∧
      ∀ w ∈ set.windows, ∃ first last size,
        Multipart.readLabel? (utf8 w.contentRange) = some (first, last, size) ∧
        ∃ alone, windows (text [.between first last]) size = .ok alone ∧ alone.windows = [w]) ∧
    ∀ places : List (Nat × Nat), places ≠ [] → (∀ place ∈ places, IsPlace total place) → PlacesAscend places →
      ∃ set, windows (text (places.map Spec.ofPlace)) total = .ok set ∧
        set.windows.map Window.place = places ∧ ∀ w ∈ set.windows, w.total = total := by
  refine ⟨fun header set served => ?_, fun places nonempty inside ascend => ?_⟩
  · have inside := total_of_windows served
    refine ⟨fun order perm => ⟨windows_text inside (Nat.le_of_lt small) perm, ?_⟩, fun w member => ?_⟩
    · intro larger le largerSmall
      exact exists_windows_of_grown inside le (Nat.le_of_lt largerSmall) perm
    · exact exists_windows_of_label (inside w member ▸ Nat.le_of_lt small)
  · exact exists_windows_places (Nat.le_of_lt small) nonempty inside ascend (.refl places)

/-- Two windows of 100 bytes are read from the text that lists them in reverse, against 100 bytes and against the
largest number of bytes that there is. -/
theorem windows_read_back_reversed :
    100 < positionBound ∧ ∃ set, windows "bytes=0-9,20-99" 100 = .ok set ∧
      set.windows.map Window.place = [(0, 9), (20, 99)] ∧
      windows (text (set.windows.reverse.map Window.spec)) 100 = .ok set ∧
      ∃ grown, windows (text (set.windows.reverse.map Window.spec)) (positionBound - 1) = .ok grown ∧
        grown.windows.map Window.place = [(0, 9), (20, 99)] := by
  have small : 100 < positionBound := by decide
  obtain ⟨readBack, conversely⟩ := windows_read_back small
  have inside : ∀ place ∈ [(0, 9), (20, 99)], IsPlace 100 place := by
    simp [IsPlace]
  have ascend : PlacesAscend [(0, 9), (20, 99)] := by
    simp [PlacesAscend]
  obtain ⟨set, served, places, -⟩ := conversely [(0, 9), (20, 99)] (List.cons_ne_nil _ _) inside ascend
  have written : text ([(0, 9), (20, 99)].map Spec.ofPlace) = "bytes=0-9,20-99" := by decide
  rw [written] at served
  obtain ⟨same, larger⟩ := (readBack _ set served).1 set.windows.reverse (List.reverse_perm _)
  obtain ⟨grown, read, grownPlaces, -⟩ := larger (positionBound - 1) (by decide) (by decide)
  exact ⟨small, set, served, places, same, grown, read, grownPlaces.trans places⟩

end RangeHeader

end Depot
