import Depot.Proofs.Range.Arithmetic
import Depot.Proofs.Stream.Tally

/-!
# Copying in 64 bits

`copyWindow?` copies a window as `copyWindow` does, but every sum, difference and product on the way is one of
numbers of 64 bits (of 128 for a percentage), and there is no run if one of them leaves its range. Of a window
whose length has 64 bits there always is one, and it is the same (`copyWindow?_eq`): nothing is shipped that is
not wanted, so that the counts stay within the length. In the same way `Shipment.noteAll?` adds up reports.
-/

namespace Depot

/-! ## Counting -/

/-- The share of `part` in `whole` in whole percent, if a hundred parts have 128 bits. -/
def percentOf? (part whole : Nat) : Option Nat :=
  if whole = 0 ∨ part * 100 < wordBound * wordBound then some (percentOf part whole) else none

theorem percentOf?_eq {part whole : Nat} (small : part < wordBound) :
    percentOf? part whole = some (percentOf part whole) := by
  have hundred : part * 100 < wordBound * wordBound :=
    Nat.mul_lt_mul'' small (by decide)
  exact if_pos (.inr hundred)

/-- Counts `count` more bytes of a window of `length` bytes. -/
def Tally.ship? (length count : Nat) (t : Tally) : Option Tally :=
  match Word.add? t.shipped count, Word.add? t.sinceLast count with
  | some shipped, some sinceLast =>
    match percentOf? shipped length with
    | none => none
    | some _ =>
      let counted := { t with shipped := shipped, sinceLast := sinceLast }
      some (if counted.Due length then counted.report length else counted)
  | _, _ => none

theorem Tally.Sound.ship?_eq {length count : Nat} {t : Tally} (sound : t.Sound length)
    (small : t.shipped + count < wordBound) : t.ship? length count = some (t.ship length count) := by
  have unreported : t.sinceLast + count < wordBound := by
    have := sound.counted
    omega
  rw [Tally.ship?, Word.add?_eq_some small, Word.add?_eq_some unreported]
  dsimp only
  rw [percentOf?_eq small]
  rfl

/-! ## Copying -/

section Copy

variable {σ : Type} [Outlet σ]

/-- Copies what is left of a window of `length` bytes of which `tally` counts the part shipped. -/
def copyRest? (length : Nat) (tally : Tally) (source : Source) (outlet : σ) : Option (CopyRun σ) :=
  if length ≤ tally.shipped then some ⟨.ok tally.shipped, source, outlet, tally.events⟩
  else
    match Word.sub? length tally.shipped with
    | none => none
    | some missing =>
      match result : source.read (min bufferSize missing) with
      | (.error e, source') =>
        have := Source.fuel_lt_of_read_error result
        if e.isInterrupted then copyRest? length tally source' outlet
        else some ⟨.error (.io e), source', outlet, tally.events⟩
      | (.ok chunk, source') =>
        if moved : chunk = [] then
          some ⟨.error (.shortfall length missing), source', outlet, (tally.close length).events⟩
        else
          have := Source.fuel_lt_of_read_ok result moved
          match Outlet.writeAll chunk outlet with
          | (.error e, outlet') => some ⟨.error (.io e), source', outlet', tally.events⟩
          | (.ok (), outlet') =>
            match tally.ship? length chunk.length with
            | none => none
            | some counted => copyRest? length counted source' outlet'
termination_by source.fuel

/-- Copies a window; an empty one is reported once. -/
def copyBody? (length : Nat) (source : Source) (outlet : σ) : Option (CopyRun σ) :=
  if length = 0 then some ⟨.ok 0, source, outlet, [⟨0, 0, 0⟩]⟩
  else copyRest? length {} source outlet

/-- Reads over `skip` bytes and copies the `length` bytes that follow. -/
def copyWindow? (skip length : Nat) (source : Source) (outlet : σ) : Option (CopyRun σ) :=
  match source.discard skip with
  | (.error e, source') => some ⟨.error (.io e), source', outlet, []⟩
  | (.ok skipped, source') =>
    if skipped < skip then some ⟨.error (.skipShortfall skip skipped), source', outlet, []⟩
    else copyBody? length source' outlet

/-- Every turn of the copy is the same in 64 bits, because what is shipped stays within the window. -/
theorem copyRest?_eq {length : Nat} (small : length < wordBound) (tally : Tally) (source : Source) (outlet : σ)
    (sound : tally.Sound length) :
    copyRest? length tally source outlet = some (copyRest length tally source outlet) := by
  fun_induction copyRest? length tally source outlet with
  | case1 tally source outlet full => rw [copyRest_eq, if_pos full]
  | case2 tally source outlet left none =>
    rw [Word.sub?_eq_some sound.le] at none
    cases none
  | case3 tally source outlet left missing counted e t result _ interrupted ih =>
    obtain rfl := Word.eq_of_sub?_eq_some counted
    rw [copyRest_eq length tally source outlet, if_neg left, result]
    simp only [if_pos interrupted]
    exact ih sound
  | case4 tally source outlet left missing counted e t result _ fatal =>
    obtain rfl := Word.eq_of_sub?_eq_some counted
    rw [copyRest_eq, if_neg left, result]
    simp only [if_neg fatal]
  | case5 tally source outlet left missing counted t result =>
    obtain rfl := Word.eq_of_sub?_eq_some counted
    rw [copyRest_eq, if_neg left, result]
    simp only [if_true]
  | case6 tally source outlet left missing counted chunk t result moved _ e k written =>
    obtain rfl := Word.eq_of_sub?_eq_some counted
    rw [copyRest_eq, if_neg left, result]
    simp only [if_neg moved, written]
  | case7 tally source outlet left missing counted chunk t result moved _ k written none =>
    obtain rfl := Word.eq_of_sub?_eq_some counted
    obtain ⟨-, fits, -⟩ := Source.read_ok result
    have := sound.le
    rw [sound.ship?_eq (by omega)] at none
    cases none
  | case8 tally source outlet left missing counted chunk t result moved _ k written next shipped ih =>
    obtain rfl := Word.eq_of_sub?_eq_some counted
    obtain ⟨-, fits, -⟩ := Source.read_ok result
    have := sound.le
    rw [sound.ship?_eq (by omega)] at shipped
    cases shipped
    rw [copyRest_eq length tally source outlet, if_neg left, result]
    simp only [if_neg moved, written]
    exact ih (sound.ship (List.length_pos_iff.2 moved) (Nat.le_trans fits (Nat.min_le_right _ _)))

theorem copyBody?_eq {length : Nat} (small : length < wordBound) (source : Source) (outlet : σ) :
    copyBody? length source outlet = some (copyBody length source outlet) := by
  unfold copyBody? copyBody
  split
  · rfl
  · exact copyRest?_eq small {} source outlet (Tally.sound_empty length)

theorem copyWindow?_eq (skip : Nat) {length : Nat} (small : length < wordBound) (source : Source) (outlet : σ) :
    copyWindow? skip length source outlet = some (copyWindow skip length source outlet) := by
  unfold copyWindow? copyWindow
  rcases source.discard skip with ⟨e | skipped, t⟩
  · rfl
  · by_cases short : skipped < skip
    · simp only [if_pos short]
    · simp only [if_neg short]
      exact copyBody?_eq small t outlet

end Copy

/-! ## Adding up reports -/

namespace Shipment

/-- Adds one event. -/
def note? (s : Shipment) (event : Progress.Event) : Option Shipment :=
  match Word.add? s.shipped event.sinceLast, Word.add? s.events 1 with
  | some shipped, some events => some { s with shipped := shipped, events := events }
  | _, _ => none

/-- Adds events in order. -/
def noteAll? (s : Shipment) : List Progress.Event → Option Shipment
  | [] => some s
  | event :: rest =>
    match s.note? event with
    | none => none
    | some noted => noteAll? noted rest

theorem noteAll_shipped (s : Shipment) (events : List Progress.Event) :
    (s.noteAll events).shipped = s.shipped + Progress.reported events := by
  induction events generalizing s with
  | nil => rfl
  | cons event rest ih =>
    have first : Progress.reported (event :: rest) = event.sinceLast + Progress.reported rest := rfl
    rw [first, ← Nat.add_assoc]
    exact ih (s.note event)

theorem noteAll?_eq (s : Shipment) {events : List Progress.Event}
    (shipped : s.shipped + Progress.reported events < wordBound)
    (several : s.events + events.length < wordBound) : s.noteAll? events = some (s.noteAll events) := by
  induction events generalizing s with
  | nil => rfl
  | cons event rest ih =>
    have first : Progress.reported (event :: rest) = event.sinceLast + Progress.reported rest := rfl
    rw [first, ← Nat.add_assoc] at shipped
    rw [List.length_cons, Nat.add_comm rest.length, ← Nat.add_assoc] at several
    have noted : s.note? event = some (s.note event) := by
      rw [note?, Word.add?_eq_some (by omega), Word.add?_eq_some (by omega)]
      rfl
    rw [noteAll?, noted]
    exact ih (s.note event) shipped several

end Shipment

end Depot
