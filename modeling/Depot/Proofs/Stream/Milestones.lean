import Depot.Proofs.Stream.Chunks
import Depot.Proofs.Stream.Series
import Depot.Proofs.Stream.Unreported
import Mathlib.Data.List.Perm.Subperm

/-!
# Reports at each tenth

A tally reports the chunk with which the share shipped enters a new tenth. `Tally.Marked` is what this makes of the
reports at any time: each sums up those before it, and no two of them lie in one tenth. It is kept by every chunk
(`Tally.Marked.ship`), so a copy that succeeds makes at least one report and no more than ten, of which the last and
no other is on the whole window, and in between the latest report is never ten points behind
(`copyWindow_milestones`). Chunks of at most a tenth of the window pass over no tenth.
-/

namespace Depot

/-! ## Sums of reports -/

namespace Progress

/-- The share of the window that a report is about, in whole percent. -/
def Event.percent (e : Event) : Nat :=
  e.total * 100 / e.requested

/-- The tenth of the window that a report has reached. -/
def Event.decile (e : Event) : Nat :=
  e.percent / 10

/-- The bytes shipped according to the last of some reports, none before the first. -/
def latest (events : List Event) : Nat :=
  (events.getLast?.map Event.total).getD 0

/-- Each report gives as total what it and those before it speak of. -/
def SumUp (events : List Event) : Prop :=
  ∀ front e back, events = front ++ e :: back → e.total = reported (front ++ [e])

theorem sumUp_nil : SumUp [] := by
  rintro (_ | ⟨e, front⟩) _ _ ⟨⟩

theorem SumUp.snoc {events : List Event} (sums : SumUp events) {e : Event}
    (next : e.total = reported events + e.sinceLast) : SumUp (events ++ [e]) := by
  intro front e' back same
  rcases List.eq_nil_or_concat back with rfl | ⟨between, last, rfl⟩
  · obtain ⟨rfl, rfl⟩ := List.append_inj' same rfl |>.imp_right List.singleton_inj.1
    rw [reported_append, next]
    rfl
  · rw [List.concat_eq_append, ← List.cons_append, ← List.append_assoc] at same
    exact sums front e' between (List.append_inj' same rfl).1

theorem SumUp.latest_eq {events : List Event} (sums : SumUp events) : latest events = reported events := by
  rcases List.eq_nil_or_concat events with rfl | ⟨front, last, rfl⟩
  · rfl
  · have whole := sums front last [] (List.concat_eq_append ..)
    rw [List.concat_eq_append, latest, List.getLast?_concat]
    exact whole

end Progress

/-! ## Reports of a tally -/

namespace Tally

/-- The reports on a window of `length` bytes sum up, are about the bytes shipped so far, and each is the only one in
its tenth. -/
structure Marked (length : Nat) (t : Tally) : Prop where
  sound : t.Sound length
  paced : t.Paced length
  sums : Progress.SumUp t.events
  requested : ∀ e ∈ t.events, e.requested = length
  reached : ∀ e ∈ t.events, 0 < e.total * 10 / length ∧ e.total ≤ t.shipped
  ascending : (t.events.map fun e => e.total * 10 / length).Pairwise (· < ·)

variable {length : Nat} {t : Tally}

theorem marked_empty (length : Nat) : Marked length {} where
  sound := sound_empty length
  paced := paced_empty length
  sums := Progress.sumUp_nil
  requested := by simp
  reached := by simp
  ascending := .nil

theorem Marked.decile_eq (marked : t.Marked length) {e : Progress.Event} (member : e ∈ t.events) :
    e.decile = e.total * 10 / length := by
  rw [Progress.Event.decile, Progress.Event.percent, marked.requested e member, mul_hundred_div_div_ten]

theorem Marked.ship (marked : t.Marked length) (pos : 0 < length) {count : Nat} (moved : 0 < count)
    (fits : count ≤ length - t.shipped) : (t.ship length count).Marked length := by
  have sound := marked.sound.ship moved fits
  have paced := marked.paced.ship marked.sound pos fits
  have shipped := shipped_ship length count t
  have earlier : ∀ e ∈ t.events, e.total ≤ (t.ship length count).shipped := fun e member => by
    have := (marked.reached e member).2
    omega
  rcases marked.paced.ship_cases marked.sound pos moved fits with ⟨rises, -, events⟩ | ⟨-, -, events⟩
  · have counted := marked.sound.counted
    refine ⟨sound, paced, ?_, ?_, ?_, ?_⟩
    · rw [events]
      refine marked.sums.snoc ?_
      change t.shipped + count = Progress.reported t.events + (t.sinceLast + count)
      omega
    · rw [events, List.forall_mem_append, List.forall_mem_singleton]
      exact ⟨marked.requested, rfl⟩
    · rw [events, List.forall_mem_append, List.forall_mem_singleton]
      refine ⟨fun e member => ⟨(marked.reached e member).1, earlier e member⟩, ?_, Nat.le_of_eq shipped.symm⟩
      exact Nat.zero_lt_of_lt rises
    · rw [events, List.map_append, List.pairwise_append]
      refine ⟨marked.ascending, List.pairwise_singleton _ _, ?_⟩
      intro tenth member _ last
      obtain ⟨e, made, rfl⟩ := List.mem_map.1 member
      rw [List.map_singleton, List.mem_singleton] at last
      rw [last]
      have before : e.total * 10 / length ≤ t.shipped * 10 / length :=
        Nat.div_le_div_right (Nat.mul_le_mul_right 10 (marked.reached e made).2)
      exact Nat.lt_of_le_of_lt before rises
  · refine ⟨sound, paced, ?_, ?_, ?_, ?_⟩
    · rw [events]
      exact marked.sums
    · rw [events]
      exact marked.requested
    · rw [events]
      exact fun e member => ⟨(marked.reached e member).1, earlier e member⟩
    · rw [events]
      exact marked.ascending

theorem Marked.shipAll (marked : t.Marked length) (pos : 0 < length) {sizes : List Nat}
    (chunks : ChunksOf length t.shipped sizes) : (t.shipAll length sizes).Marked length := by
  induction sizes generalizing t with
  | nil => exact marked
  | cons count rest ih => exact ih (marked.ship pos chunks.head_pos chunks.head_le) chunks.ship

/-- Further chunks add reports on more bytes than were shipped before. -/
theorem Marked.exists_events_shipAll (marked : t.Marked length) (pos : 0 < length) {sizes : List Nat}
    (chunks : ChunksOf length t.shipped sizes) :
    ∃ later, (t.shipAll length sizes).events = t.events ++ later ∧ ∀ e ∈ later, t.shipped < e.total := by
  induction sizes generalizing t with
  | nil => exact ⟨[], (List.append_nil _).symm, by simp⟩
  | cons count rest ih =>
    have moved := chunks.head_pos
    obtain ⟨later, events, behind⟩ := ih (marked.ship pos moved chunks.head_le) chunks.ship
    rw [shipped_ship] at behind
    rw [shipAll_cons, events]
    rcases marked.paced.ship_cases marked.sound pos moved chunks.head_le with ⟨-, -, next⟩ | ⟨-, -, next⟩
    · refine ⟨⟨length, t.sinceLast + count, t.shipped + count⟩ :: later, by rw [next, List.append_assoc]; rfl, ?_⟩
      refine List.forall_mem_cons.2 ⟨Nat.lt_add_of_pos_right moved, fun e member => ?_⟩
      exact Nat.lt_of_le_of_lt (Nat.le_add_right _ _) (behind e member)
    · refine ⟨later, by rw [next], fun e member => ?_⟩
      exact Nat.lt_of_le_of_lt (Nat.le_add_right _ _) (behind e member)

/-- The latest report is in the tenth that the share shipped is in, so it is less than ten points behind. -/
theorem Marked.percent_lt (marked : t.Marked length) :
    t.shipped * 100 / length < Progress.latest t.events * 100 / length + 10 := by
  have counted := marked.sound.counted
  have latest : Progress.latest t.events = t.shipped - t.sinceLast := by
    rw [marked.sums.latest_eq]
    omega
  have tenth := marked.paced.sinceLast
  rw [← latest, ← mul_hundred_div_div_ten, ← mul_hundred_div_div_ten t.shipped] at tenth
  omega

/-- Chunks of at most a tenth of the window pass over no tenth. -/
theorem Marked.deciles_shipAll (marked : t.Marked length) (pos : 0 < length) {sizes : List Nat}
    (chunks : ChunksOf length t.shipped sizes) (few : ∀ size ∈ sizes, size * 10 ≤ length)
    (each : t.events.map Progress.Event.decile = List.range' 1 (t.shipped * 10 / length)) :
    (t.shipAll length sizes).events.map Progress.Event.decile =
      List.range' 1 ((t.shipped + sizes.sum) * 10 / length) := by
  induction sizes generalizing t with
  | nil => exact each
  | cons count rest ih =>
    obtain ⟨small, few'⟩ := List.forall_mem_cons.1 few
    have marked' := marked.ship pos chunks.head_pos chunks.head_le
    rw [shipAll_cons, List.sum_cons, ← Nat.add_assoc, ← shipped_ship length count t]
    refine ih marked' chunks.ship few' ?_
    rw [shipped_ship]
    rcases marked.paced.ship_cases marked.sound pos chunks.head_pos chunks.head_le with
      ⟨rises, -, next⟩ | ⟨stays, -, next⟩
    · have once : (t.shipped + count) * 10 / length = t.shipped * 10 / length + 1 := by
        have most : (t.shipped + count) * 10 / length ≤ (t.shipped * 10 + length) / length :=
          Nat.div_le_div_right (by omega)
        rw [Nat.add_div_right _ pos] at most
        omega
      have last : Progress.Event.decile ⟨length, t.sinceLast + count, t.shipped + count⟩ =
          1 + 1 * (t.shipped * 10 / length) := by
        rw [Progress.Event.decile, Progress.Event.percent, mul_hundred_div_div_ten, once]
        omega
      rw [next, List.map_append, each, once, List.range'_concat, List.map_singleton, last]
    · rw [next, each, stays]

/-- A window that is shipped completely is reported completely. -/
theorem Marked.reported_of_full (marked : t.Marked length) (pos : 0 < length) (full : t.shipped = length) :
    Progress.reported t.events = length := by
  have counted := marked.sound.counted
  have tenth := marked.paced.sinceLast
  rw [full, Nat.mul_div_cancel_left 10 pos] at tenth
  have all : 10 * length ≤ (length - t.sinceLast) * 10 := (Nat.le_div_iff_mul_le pos).1 (Nat.le_of_eq tenth.symm)
  omega

end Tally

/-! ## Complete windows -/

namespace Progress

/-- The reports `events` on a complete window of `length` bytes, which is not empty, while chunks of the lengths
`sizes` were shipped. -/
structure Milestones (length : Nat) (sizes : List Nat) (events : List Event) : Prop where
  moved : ∀ size ∈ sizes, 0 < size
  shipped : sizes.sum = length
  length_pos : 1 ≤ events.length
  length_le : events.length ≤ 10
  requested : ∀ e ∈ events, e.requested = length
  ascending : (events.map Event.total).Pairwise (· < ·)
  sums : SumUp events
  /-- The last report, and no other, is about the whole window. -/
  complete : ∀ front e back, events = front ++ e :: back → (e.total = length ↔ back = [])
  deciles : (events.map Event.decile).Pairwise (· < ·)
  /-- Whenever a chunk has been shipped, the latest of the reports made is less than ten points behind. -/
  timely : ∀ front back, sizes = front ++ back → ∃ made later, events = made ++ later ∧
    (∀ e ∈ made, e.total ≤ front.sum) ∧ (∀ e ∈ later, front.sum < e.total) ∧
    front.sum * 100 / length < latest made * 100 / length + 10
  /-- No tenth is passed over by chunks of at most a tenth. -/
  each : (∀ size ∈ sizes, size * 10 ≤ length) → events.map Event.decile = [1, 2, 3, 4, 5, 6, 7, 8, 9, 10]

end Progress

namespace Tally

variable {length : Nat} {t : Tally}

theorem Marked.deciles (marked : t.Marked length) :
    (t.events.map Progress.Event.decile).Pairwise (· < ·) := by
  rw [List.map_congr_left fun e member => marked.decile_eq member]
  exact marked.ascending

theorem Marked.totals (marked : t.Marked length) : (t.events.map Progress.Event.total).Pairwise (· < ·) := by
  rw [List.pairwise_map]
  refine (List.pairwise_map.1 marked.ascending).imp fun {e later} rises => ?_
  by_contra notLess
  have falls : later.total * 10 / length ≤ e.total * 10 / length :=
    Nat.div_le_div_right (Nat.mul_le_mul_right 10 (Nat.le_of_not_lt notLess))
  omega

/-- There are ten tenths. -/
theorem Marked.length_le (marked : t.Marked length) : t.events.length ≤ 10 := by
  have inside : t.events.map Progress.Event.decile ⊆ List.range' 1 10 := by
    intro decile member
    obtain ⟨e, made, rfl⟩ := List.mem_map.1 member
    obtain ⟨some, within⟩ := marked.reached e made
    have whole := marked.sound.le
    have most : e.total * 10 / length ≤ 10 := Nat.div_le_of_le_mul (by omega)
    rw [marked.decile_eq made, List.mem_range'_1]
    omega
  have distinct : (t.events.map Progress.Event.decile).Nodup := marked.deciles.imp Nat.ne_of_lt
  have few := (distinct.subperm inside).length_le
  rwa [List.length_map, List.length_range'] at few

/-- The last report on a complete window is about all of it, and the totals rise. -/
theorem Marked.total_eq_iff (marked : t.Marked length) (pos : 0 < length) (full : t.shipped = length)
    {front back : List Progress.Event} {e : Progress.Event} (same : t.events = front ++ e :: back) :
    e.total = length ↔ back = [] := by
  constructor
  · intro whole
    by_contra more
    obtain ⟨next, rest, rfl⟩ := List.exists_cons_of_ne_nil more
    have totals := marked.totals
    have within := (marked.reached next (by rw [same]; simp)).2
    rw [same, List.map_append, List.map_cons, List.map_cons, List.pairwise_append, List.pairwise_cons] at totals
    have less := totals.2.1.1 next.total List.mem_cons_self
    omega
  · rintro rfl
    rw [marked.sums front e [] same, ← same, marked.reported_of_full pos full]

/-- The reports that a tally has made when the window is complete. -/
theorem milestones {sizes : List Nat} (pos : 0 < length) (chunks : ChunksOf length 0 sizes)
    (full : sizes.sum = length) :
    Progress.Milestones length sizes (({} : Tally).shipAll length sizes).events := by
  have marked := (marked_empty length).shipAll pos chunks
  have shipped : (({} : Tally).shipAll length sizes).shipped = length :=
    (shipped_shipAll_empty length sizes).trans full
  refine ⟨chunks.pos, full, ?_, marked.length_le, marked.requested, marked.totals, marked.sums,
    fun _ _ _ => marked.total_eq_iff pos shipped, marked.deciles, ?_, ?_⟩
  · refine List.length_pos_iff.2 fun none => ?_
    have reported := marked.reported_of_full pos shipped
    rw [none] at reported
    exact Nat.ne_of_lt pos reported
  · rintro front back rfl
    have marked' := (marked_empty length).shipAll pos chunks.append_left
    have now := shipped_shipAll_empty length front
    obtain ⟨later, events, ahead⟩ := marked'.exists_events_shipAll pos (ChunksOf.shipAll chunks)
    have timely := marked'.percent_lt
    rw [now] at ahead timely
    rw [shipAll_append]
    exact ⟨_, later, events, fun e member => now ▸ (marked'.reached e member).2, ahead, timely⟩
  · intro few
    have each := (marked_empty length).deciles_shipAll pos chunks few (by simp)
    have tenths : (({} : Tally).shipped + sizes.sum) * 10 / length = 10 := by
      rw [← shipped_shipAll, shipped, Nat.mul_div_cancel_left 10 pos]
    rw [tenths] at each
    exact each

end Tally

section Copy

variable {σ : Type} [Outlet σ] {skip length n : Nat} {source : Source} {outlet : σ}

/-- The reports of a copy that succeeds: an empty window has one report, on nothing, and any other has one in each
tenth that a chunk ends in first. -/
theorem copyWindow_milestones (copied : (copyWindow skip length source outlet).outcome = .ok n) :
    (0 < length → Progress.Milestones length (copiedSizes skip length source outlet)
      (copyWindow skip length source outlet).events) ∧
    (length = 0 → (copyWindow skip length source outlet).events = [⟨0, 0, 0⟩]) := by
  have counted := copyWindow_counted skip length source outlet
  rw [copied] at counted
  generalize copiedSizes skip length source outlet = sizes at counted
  generalize (copyWindow skip length source outlet).events = events at counted
  cases counted with
  | empty none => exact ⟨fun pos => absurd none (Nat.ne_of_gt pos), fun _ => rfl⟩
  | counted pos chunks ends =>
    refine ⟨fun _ => ?_, fun none => absurd none (Nat.ne_of_gt pos)⟩
    cases ends with
    | whole full =>
      rw [Tally.shipped_shipAll] at full
      exact Tally.milestones pos chunks ((Nat.zero_add _).symm.trans full)

end Copy

/-- Twenty bytes that come in twos are reported in ten tenths, and a window of none of them once. -/
theorem copyWindow_milestones_steady :
    let source := Source.ofBytes (List.replicate 20 120) (.steady 2)
    (copyWindow 0 20 source ({} : Sink)).outcome = .ok 20 ∧
      (∀ size ∈ copiedSizes 0 20 source ({} : Sink), size * 10 ≤ 20) ∧
      (copyWindow 0 20 source ({} : Sink)).events.map Progress.Event.decile = [1, 2, 3, 4, 5, 6, 7, 8, 9, 10] ∧
      (copyWindow 5 0 source ({} : Sink)).events = [⟨0, 0, 0⟩] := by
  intro source
  have patient : source.conduct.Patient := by
    refine ⟨fun position most limit => ?_, fun f member => absurd member List.not_mem_nil⟩
    cases limit
    decide
  have exact : ∀ skip length, (copyWindow skip length source ({} : Sink)).Exact source.rest skip length {} :=
    copyWindow_exact patient Conduct.patient_smooth
  have copied := ((exact 0 20).whole (by decide)).1
  have skipped := ((exact 5 0).whole (by decide)).1
  have few : ∀ size ∈ copiedSizes 0 20 source ({} : Sink), size * 10 ≤ 20 := by decide +kernel
  exact ⟨copied, few, ((copyWindow_milestones copied).1 (by decide)).each few,
    (copyWindow_milestones skipped).2 rfl⟩

end Depot
