import Depot.Proofs.Stream.Copy
import Depot.Proofs.Stream.Shipment

/-!
# What is shipped and not reported

A report is due when the share shipped enters a new tenth, so what is still to be reported is always less than a
tenth of the window (`Tally.Paced`). It is reported with the window when that is complete or falls short. Only a
source or a sink that fails keeps it back: `copyWindow_unreported` says of a sink that takes everything that the
reports of a copied window are about all bytes shipped, but for less than a tenth of the window when the source
fails.
-/

namespace Depot

/-! ## Tenths -/

/-- A tenth of the whole is ten of a hundred parts. -/
theorem mul_hundred_div_div_ten (part whole : Nat) : part * 100 / whole / 10 = part * 10 / whole := by
  have hundred : part * 100 = part * 10 * 10 := Nat.mul_assoc part 10 10 |>.symm
  rw [hundred, Nat.div_div_eq_div_mul, Nat.mul_div_mul_right _ _ (by decide)]

theorem percentOf_div_step {part whole : Nat} (le : part ≤ whole) (pos : 0 < whole) :
    percentOf part whole / Progress.step = part * 10 / whole := by
  have share : percentOf part whole = part * 100 / whole := by
    have most : part * 100 / whole ≤ 100 :=
      Nat.div_le_of_le_mul (Nat.mul_le_mul_right 100 le)
    rw [percentOf, if_neg (Nat.ne_of_gt pos)]
    exact Nat.min_eq_left (Nat.le_trans most (by decide))
  rw [share]
  exact mul_hundred_div_div_ten part whole

/-- Two numbers in the same tenth lie less than a tenth apart. -/
theorem sub_mul_ten_lt {less more whole : Nat} (pos : 0 < whole)
    (same : less * 10 / whole = more * 10 / whole) : (more - less) * 10 < whole := by
  have low := Nat.div_mul_le_self (less * 10) whole
  have high := Nat.lt_div_mul_add pos (a := more * 10)
  rw [same] at low
  omega

namespace Tally

/-- No report is due: since the last one the share shipped has stayed in one tenth. -/
structure Paced (length : Nat) (t : Tally) : Prop where
  reported : t.reported / Progress.step = t.shipped * 10 / length
  sinceLast : (t.shipped - t.sinceLast) * 10 / length = t.shipped * 10 / length

variable {length : Nat} {t : Tally}

theorem paced_empty (length : Nat) : Paced length {} where
  reported := by simp
  sinceLast := rfl

theorem Paced.report (pos : 0 < length) (le : t.shipped ≤ length) : (t.report length).Paced length where
  reported := percentOf_div_step le pos
  sinceLast := rfl

/-- A chunk that makes no report due leaves the share in its tenth. -/
theorem Paced.tenth_eq (paced : t.Paced length) (pos : 0 < length) {count : Nat}
    (within : t.shipped + count ≤ length)
    (early : ¬ Due length { t with shipped := t.shipped + count, sinceLast := t.sinceLast + count }) :
    t.shipped * 10 / length = (t.shipped + count) * 10 / length := by
  have tenth := percentOf_div_step within pos
  have grows : t.shipped * 10 / length ≤ (t.shipped + count) * 10 / length :=
    Nat.div_le_div_right (Nat.mul_le_mul_right 10 (Nat.le_add_right _ _))
  have reported := paced.reported
  have notBelow : ¬ t.reported / Progress.step < percentOf (t.shipped + count) length / Progress.step :=
    fun below => early (.inr below)
  omega

theorem Paced.ship (paced : t.Paced length) (sound : t.Sound length) (pos : 0 < length) {count : Nat}
    (fits : count ≤ length - t.shipped) : (t.ship length count).Paced length := by
  have le := sound.le
  have within : t.shipped + count ≤ length := by omega
  unfold Tally.ship
  dsimp only
  split
  · exact .report pos within
  · rename_i early
    have stays := paced.tenth_eq pos within early
    have unreported : t.shipped + count - (t.sinceLast + count) = t.shipped - t.sinceLast := by omega
    refine ⟨paced.reported.trans stays, ?_⟩
    change (t.shipped + count - (t.sinceLast + count)) * 10 / length = (t.shipped + count) * 10 / length
    rw [unreported, paced.sinceLast, stays]

/-- A chunk is reported, with all that was not reported before, exactly if the share enters a new tenth with it. -/
theorem Paced.ship_cases (paced : t.Paced length) (sound : t.Sound length) (pos : 0 < length) {count : Nat}
    (moved : 0 < count) (fits : count ≤ length - t.shipped) :
    (t.shipped * 10 / length < (t.shipped + count) * 10 / length ∧ (t.ship length count).sinceLast = 0 ∧
        (t.ship length count).events = t.events ++ [⟨length, t.sinceLast + count, t.shipped + count⟩]) ∨
      (t.shipped * 10 / length = (t.shipped + count) * 10 / length ∧
        (t.ship length count).sinceLast = t.sinceLast + count ∧ (t.ship length count).events = t.events) := by
  have le := sound.le
  have within : t.shipped + count ≤ length := by omega
  unfold Tally.ship
  dsimp only
  split
  · rename_i due
    refine .inl ⟨?_, rfl, rfl⟩
    rcases due with full | risen
    · -- The last chunk begins in a tenth before the tenth, which only the whole window reaches.
      change t.shipped + count = length at full
      have before : t.shipped * 10 / length < 10 := Nat.div_lt_of_lt_mul (by omega)
      have complete : (t.shipped + count) * 10 / length = 10 := by rw [full, Nat.mul_div_cancel_left 10 pos]
      omega
    · change t.reported / Progress.step < percentOf (t.shipped + count) length / Progress.step at risen
      rwa [paced.reported, percentOf_div_step within pos] at risen
  · rename_i early
    exact .inr ⟨paced.tenth_eq pos within early, rfl, rfl⟩

/-- Nothing is left to be reported exactly after a chunk with which the share enters a new tenth. -/
theorem Paced.sinceLast_ship_eq_zero_iff (paced : t.Paced length) (sound : t.Sound length) (pos : 0 < length)
    {count : Nat} (moved : 0 < count) (fits : count ≤ length - t.shipped) :
    (t.ship length count).sinceLast = 0 ↔ t.shipped * 10 / length < (t.shipped + count) * 10 / length := by
  rcases paced.ship_cases sound pos moved fits with ⟨rises, none, -⟩ | ⟨stays, more, -⟩
  · exact ⟨fun _ => rises, fun _ => none⟩
  · rw [more, stays]
    exact ⟨fun none => by omega, fun rises => absurd rises (Nat.lt_irrefl _)⟩

theorem Paced.sinceLast_mul_ten_lt (paced : t.Paced length) (sound : t.Sound length) (pos : 0 < length) :
    t.sinceLast * 10 < length := by
  have apart := sub_mul_ten_lt pos paced.sinceLast
  have := sound.counted
  have since : t.shipped - (t.shipped - t.sinceLast) = t.sinceLast := by omega
  rwa [since] at apart

end Tally

/-! ## Copies -/

/-- Of `shipped` bytes of a window of `length` bytes, a run has reported all but `missing`, and that is nothing
unless a stream has failed, and then less than a tenth of the window. -/
structure CopyRun.Unreported {σ : Type} (length shipped missing : Nat) (run : CopyRun σ) : Prop where
  shipped_eq : shipped = Progress.reported run.events + missing
  missing_eq : (∀ e, run.outcome ≠ .error (.io e)) → missing = 0
  missing_lt : missing = 0 ∨ missing * 10 < length

/-- The last report of a window that falls short is about all that was left. -/
theorem Tally.Sound.reported_close {length : Nat} {t : Tally} (sound : t.Sound length) :
    Progress.reported (t.close length).events = t.shipped := by
  have counted := sound.close.counted
  have settled : (t.close length).sinceLast = 0 := by
    unfold Tally.close
    split
    · rfl
    · omega
  have shipped : (t.close length).shipped = t.shipped := by
    unfold Tally.close
    split <;> rfl
  rw [settled, Nat.add_zero, shipped] at counted
  exact counted

theorem copyRest_unreported {length : Nat} (pos : 0 < length) (tally : Tally) (source : Source) (sink : Sink)
    (patient : sink.conduct.Patient) (sound : tally.Sound length) (settled : tally.Settled length)
    (paced : tally.Paced length) :
    ∃ taken missing, sink.Took taken (copyRest length tally source sink).outlet ∧
      (copyRest length tally source sink).Unreported length (tally.shipped + taken.length) missing := by
  fun_induction copyRest length tally source sink with
  | case1 tally source sink full =>
    have complete := Nat.le_antisymm sound.le full
    refine ⟨[], 0, .refl _, ?_, fun _ => rfl, .inl rfl⟩
    change tally.shipped = Progress.reported tally.events
    rw [sound.reported_of_full settled complete, complete]
  | case2 tally source sink left e t result _ interrupted ih => exact ih patient sound settled paced
  | case3 tally source sink left e t result _ fatal =>
    refine ⟨[], tally.sinceLast, .refl _, sound.counted.symm, fun noIo => absurd rfl (noIo e), .inr ?_⟩
    exact paced.sinceLast_mul_ten_lt sound pos
  | case4 tally source sink left t result =>
    exact ⟨[], 0, .refl _, sound.reported_close.symm, fun _ => rfl, .inl rfl⟩
  | case5 tally source sink left chunk t result moved _ e k written =>
    obtain ⟨-, -, -, -, -, impatient⟩ := Sink.writeAll_error written
    exact absurd patient impatient
  | case6 tally source sink left chunk t result moved _ k written ih =>
    obtain ⟨-, fits, -⟩ := Source.read_ok result
    have takes := Sink.writeAll_ok written
    have wanted := Nat.le_trans fits (Nat.min_le_right _ _)
    obtain ⟨taken, missing, others, unreported⟩ := ih (takes.patient patient)
      (sound.ship (List.length_pos_iff.2 moved) wanted) (Tally.settled_ship length chunk.length tally)
      (paced.ship sound pos wanted)
    refine ⟨chunk ++ taken, missing, takes.trans others, ?_⟩
    rwa [Tally.shipped_ship, Nat.add_assoc, ← List.length_append] at unreported

/-- The reports of a copied window are about all bytes that a sink that takes everything gets, unless the source
fails, and then about all but the last tenth that was begun. -/
theorem copyWindow_unreported (skip length : Nat) (source : Source) {sink : Sink} (patient : sink.conduct.Patient) :
    ∃ taken missing, sink.Took taken (copyWindow skip length source sink).outlet ∧
      (copyWindow skip length source sink).Unreported length taken.length missing := by
  unfold copyWindow
  split
  · exact ⟨[], 0, .refl _, rfl, fun _ => rfl, .inl rfl⟩
  · split
    · exact ⟨[], 0, .refl _, rfl, fun _ => rfl, .inl rfl⟩
    · rename_i t _ _
      unfold copyBody
      split
      · exact ⟨[], 0, .refl _, rfl, fun _ => rfl, .inl rfl⟩
      · rename_i some
        obtain ⟨taken, missing, takes, unreported⟩ := copyRest_unreported (Nat.pos_of_ne_zero some) {} t sink
          patient (Tally.sound_empty length) (fun _ => rfl) (Tally.paced_empty length)
        rw [Nat.zero_add] at unreported
        exact ⟨taken, missing, takes, unreported⟩

end Depot
