import Depot.Proofs.Stream.Source
import Depot.Stream.Copy

/-!
# What the reports of a copy add up to

While a window is copied, everything shipped is in a report or is still to be reported, and no report is empty
(`Tally.Sound`). Counting a chunk keeps this, and so does the last report of a window that falls short. A window
that is complete is reported at once, so that nothing is left to report (`Tally.Settled`). Hence the reports of a
copied window add up to no more than its length, to whatever outlet it is copied, and to all of it if the copy
succeeds (`copyWindow_reports`); and there are not more of them than bytes, but for the one report on an empty
window.
-/

namespace Depot

/-- The number of bytes that some reports speak of. -/
def Progress.reported (events : List Progress.Event) : Nat :=
  (events.map Progress.Event.sinceLast).sum

theorem Progress.reported_append (front back : List Progress.Event) :
    reported (front ++ back) = reported front + reported back := by
  rw [reported, List.map_append, List.sum_append_nat]
  rfl

/-- Reports none of which is empty are not more than the bytes they speak of. -/
theorem Progress.length_le_reported {events : List Progress.Event}
    (moved : ∀ event ∈ events, 0 < event.sinceLast) : events.length ≤ reported events := by
  induction events with
  | nil => exact Nat.le_refl _
  | cons event rest ih =>
    obtain ⟨here, later⟩ := List.forall_mem_cons.1 moved
    have := ih later
    rw [reported] at this ⊢
    rw [List.length_cons, List.map_cons, List.sum_cons]
    omega

namespace Tally

/-- Everything shipped of a window of `length` bytes is in a report or is to be reported, and no report is
empty. -/
structure Sound (length : Nat) (t : Tally) : Prop where
  le : t.shipped ≤ length
  counted : Progress.reported t.events + t.sinceLast = t.shipped
  moved : ∀ event ∈ t.events, 0 < event.sinceLast

variable {length : Nat} {t : Tally}

theorem sound_empty (length : Nat) : Sound length {} :=
  ⟨Nat.zero_le _, rfl, by simp⟩

theorem Sound.report (sound : t.Sound length) (unreported : 0 < t.sinceLast) :
    (t.report length).Sound length where
  le := sound.le
  counted := by
    have last : Progress.reported [⟨length, t.sinceLast, t.shipped⟩] = t.sinceLast := rfl
    change Progress.reported (t.events ++ [⟨length, t.sinceLast, t.shipped⟩]) + 0 = t.shipped
    rw [Progress.reported_append, last]
    exact sound.counted
  moved := by
    intro event member
    rcases List.mem_append.1 member with earlier | last
    · exact sound.moved event earlier
    · rw [List.mem_singleton.1 last]
      exact unreported

/-- A chunk that still belongs to the window is counted. -/
theorem Sound.ship (sound : t.Sound length) {count : Nat} (pos : 0 < count)
    (fits : count ≤ length - t.shipped) : (t.ship length count).Sound length := by
  have counted : Sound length
      { t with shipped := t.shipped + count, sinceLast := t.sinceLast + count } := by
    refine ⟨?_, ?_, sound.moved⟩
    · have := sound.le
      change t.shipped + count ≤ length
      omega
    · have := sound.counted
      change Progress.reported t.events + (t.sinceLast + count) = t.shipped + count
      omega
  unfold Tally.ship
  dsimp only
  split
  · exact counted.report (Nat.lt_of_lt_of_le pos (Nat.le_add_left _ _))
  · exact counted

theorem Sound.close (sound : t.Sound length) : (t.close length).Sound length := by
  unfold Tally.close
  split
  · rename_i unreported
    exact sound.report unreported
  · exact sound

theorem Sound.reported_le (sound : t.Sound length) : Progress.reported t.events ≤ length := by
  have := sound.counted
  have := sound.le
  omega

/-- If all of a window of `length` bytes was shipped, all of it was reported. -/
def Settled (length : Nat) (t : Tally) : Prop :=
  t.shipped = length → t.sinceLast = 0

/-- A chunk that completes a window is reported with it. -/
theorem settled_ship (length count : Nat) (t : Tally) : (t.ship length count).Settled length := by
  intro full
  unfold Tally.ship at full ⊢
  dsimp only at full ⊢
  split at full
  · rename_i due
    rw [if_pos due]
    rfl
  · rename_i early
    exact absurd (.inl full) early

theorem Sound.reported_of_full (sound : t.Sound length) (settled : t.Settled length) (full : t.shipped = length) :
    Progress.reported t.events = length := by
  have counted := sound.counted
  rw [settled full, Nat.add_zero] at counted
  exact counted.trans full

end Tally

/-! ## Reports of a copy -/

section Copy

variable {σ : Type}

/-- What a run that copied a window of `length` bytes says of it: the reports stay within the window, and
success means that all of it was shipped and reported. -/
structure CopyRun.Reports (length : Nat) (run : CopyRun σ) : Prop where
  reported_le : Progress.reported run.events ≤ length
  length_le : run.events.length ≤ max 1 length
  of_ok : ∀ n, run.outcome = .ok n → n = length
  reported_of_ok : ∀ n, run.outcome = .ok n → Progress.reported run.events = length

/-- The reports of a sound tally are those of a run that ends with it. -/
theorem Tally.Sound.reports {length : Nat} {t : Tally} (sound : t.Sound length) {run : CopyRun σ}
    (events : run.events = t.events)
    (whole : ∀ n, run.outcome = .ok n → n = length ∧ Progress.reported t.events = length) :
    run.Reports length where
  reported_le := events ▸ sound.reported_le
  length_le := by
    have := Progress.length_le_reported sound.moved
    have := sound.reported_le
    rw [events]
    omega
  of_ok := fun n ok => (whole n ok).1
  reported_of_ok := fun n ok => events ▸ (whole n ok).2

variable [Outlet σ]

theorem copyRest_reports (length : Nat) (tally : Tally) (source : Source) (outlet : σ)
    (sound : tally.Sound length) (settled : tally.Settled length) :
    (copyRest length tally source outlet).Reports length := by
  fun_induction copyRest length tally source outlet with
  | case1 tally source outlet full =>
    have complete := Nat.le_antisymm sound.le full
    refine sound.reports rfl fun n same => ?_
    cases same
    exact ⟨complete, sound.reported_of_full settled complete⟩
  | case2 tally source outlet left e t result _ interrupted ih => exact ih sound settled
  | case3 tally source outlet left e t result _ fatal => exact sound.reports rfl (by rintro n ⟨⟩)
  | case4 tally source outlet left t result => exact sound.close.reports rfl (by rintro n ⟨⟩)
  | case5 tally source outlet left chunk t result moved _ e k written =>
    exact sound.reports rfl (by rintro n ⟨⟩)
  | case6 tally source outlet left chunk t result moved _ k written ih =>
    obtain ⟨-, fits, -⟩ := Source.read_ok result
    exact ih (sound.ship (List.length_pos_iff.2 moved) (Nat.le_trans fits (Nat.min_le_right _ _)))
      (Tally.settled_ship length chunk.length tally)

theorem copyBody_reports (length : Nat) (source : Source) (outlet : σ) :
    (copyBody length source outlet).Reports length := by
  unfold copyBody
  split
  · rename_i empty
    subst empty
    exact ⟨Nat.le_refl _, Nat.le_refl _, by rintro n ⟨⟩; rfl, fun _ _ => rfl⟩
  · exact copyRest_reports length {} source outlet (Tally.sound_empty length) fun _ => rfl

theorem copyWindow_reports (skip length : Nat) (source : Source) (outlet : σ) :
    (copyWindow skip length source outlet).Reports length := by
  unfold copyWindow
  split
  · exact ⟨Nat.zero_le _, Nat.zero_le _, by rintro n ⟨⟩, by rintro n ⟨⟩⟩
  · split
    · exact ⟨Nat.zero_le _, Nat.zero_le _, by rintro n ⟨⟩, by rintro n ⟨⟩⟩
    · exact copyBody_reports length _ outlet

end Copy

end Depot
