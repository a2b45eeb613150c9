import Depot.Proofs.Stream.Arithmetic

/-!
# The running sum of a download

A `Shipment` whose events stay within what was requested says rightly how far the download is
(`Shipment.OnTrack`): its percentage is at most 100, and it is 100 only when nothing is missing. The percentage
is rounded down, so a single missing byte keeps it below 100. Since events only add to the sum, every sum on the
way is on track if the last one is (`Shipment.onTrack_noteAll_take`), and the percentage never falls
(`Shipment.percent_noteAll_take_mono`).
-/

namespace Depot

/-! ## Shares -/

theorem percentOf_mono {part more : Nat} (le : part ≤ more) (whole : Nat) :
    percentOf part whole ≤ percentOf more whole := by
  unfold percentOf
  split
  · exact Nat.le_refl _
  · have quotients : part * 100 / whole ≤ more * 100 / whole :=
      Nat.div_le_div_right (Nat.mul_le_mul_right 100 le)
    omega

theorem percentOf_self (whole : Nat) : percentOf whole whole = 100 := by
  unfold percentOf
  split
  · rfl
  · rename_i some
    rw [Nat.mul_div_cancel_left 100 (Nat.pos_of_ne_zero some)]
    rfl

theorem percentOf_lt_hundred {part whole : Nat} (lt : part < whole) : percentOf part whole < 100 := by
  have floor : part * 100 / whole < 100 :=
    Nat.div_lt_of_lt_mul (Nat.mul_lt_mul_of_pos_right lt (by decide))
  rw [percentOf, if_neg (Nat.ne_of_gt (Nat.zero_lt_of_lt lt))]
  exact Nat.lt_of_le_of_lt (Nat.min_le_left _ _) floor

namespace Shipment

/-! ## Sums on the way -/

/-- The sum stays within what was requested, and percentage and completeness tell when it gets there. -/
structure OnTrack (s : Shipment) : Prop where
  shipped_le : s.shipped ≤ s.requested
  percent_le : s.percent ≤ 100
  percent_eq_hundred_iff : s.percent = 100 ↔ s.shipped = s.requested
  isComplete_iff : s.isComplete = true ↔ s.shipped = s.requested

theorem onTrack_of_le {s : Shipment} (le : s.shipped ≤ s.requested) : s.OnTrack where
  shipped_le := le
  percent_le := Nat.le_trans (percentOf_mono le s.requested) (Nat.le_of_eq (percentOf_self s.requested))
  percent_eq_hundred_iff := by
    constructor
    · intro hundred
      by_contra missing
      have less := percentOf_lt_hundred (Nat.lt_of_le_of_ne le missing)
      exact Nat.ne_of_lt less hundred
    · intro full
      rw [percent, full, percentOf_self]
  isComplete_iff := by
    rw [isComplete, decide_eq_true_iff]
    exact ⟨Nat.le_antisymm le, fun full => Nat.le_of_eq full.symm⟩

theorem noteAll_requested (s : Shipment) (events : List Progress.Event) :
    (s.noteAll events).requested = s.requested := by
  induction events generalizing s with
  | nil => rfl
  | cons event rest ih => exact ih (s.note event)

theorem noteAll_append (s : Shipment) (front back : List Progress.Event) :
    s.noteAll (front ++ back) = (s.noteAll front).noteAll back :=
  List.foldl_append

/-- More events do not lower the percentage. -/
theorem percent_le_noteAll (s : Shipment) (events : List Progress.Event) :
    s.percent ≤ (s.noteAll events).percent := by
  rw [percent, percent, noteAll_requested, noteAll_shipped]
  exact percentOf_mono (Nat.le_add_right _ _) s.requested

theorem percent_noteAll_take_mono (s : Shipment) (events : List Progress.Event) {j k : Nat} (le : j ≤ k) :
    (s.noteAll (events.take j)).percent ≤ (s.noteAll (events.take k)).percent := by
  obtain ⟨between, front⟩ := List.take_prefix_take_left le (l := events)
  rw [← front, noteAll_append]
  exact percent_le_noteAll _ between

/-- If there is room for all events, then every sum on the way is on track. -/
theorem onTrack_noteAll_take {s : Shipment} {events : List Progress.Event}
    (room : s.shipped + Progress.reported events ≤ s.requested) (k : Nat) :
    (s.noteAll (events.take k)).OnTrack := by
  have split := Progress.reported_append (events.take k) (events.drop k)
  rw [List.take_append_drop] at split
  apply onTrack_of_le
  rw [noteAll_requested, noteAll_shipped]
  omega

end Shipment

end Depot
