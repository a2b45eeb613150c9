import Depot.Proofs.Stream.Milestones
import Depot.Proofs.Stream.Series
import Depot.Proofs.Stream.Shipment

/-!
# What the reports of a copy account for

Bytes are shipped when the chunk that they belong to was written completely. The reports of a copy account for all
that it shipped if it succeeds and if the source ends early, whatever the outlet is. Only a stream that fails ends
the copy without a report on the chunks since the last one (`WindowAccounted`); so nothing is left out then
exactly if the last chunk had entered a new tenth. A whole download is accounted for if no stream fails
(`copySeries_accounted`).
-/

namespace Depot

/-- Of the chunks of a window, the reports account for all but `missing` bytes: for all of them unless a stream has
failed, and even then for all if the last chunk entered a new tenth of the window. -/
structure WindowAccounted (length : Nat) (sizes : List Nat) (outcome : Except StreamError Nat)
    (events : List Progress.Event) (missing : Nat) : Prop where
  shipped : sizes.sum = Progress.reported events + missing
  missing_eq : (∀ e, outcome ≠ .error (.io e)) → missing = 0
  missing_lt : missing = 0 ∨ missing * 10 < length
  missing_iff : ∀ e, outcome = .error (.io e) → ∀ front last, sizes = front ++ [last] →
    (missing = 0 ↔ front.sum * 10 / length < sizes.sum * 10 / length)

/-- The reports of a counted window leave out what the tally has not reported when a stream fails. -/
theorem WindowCounted.exists_accounted {length : Nat} {sizes : List Nat} {outcome : Except StreamError Nat}
    {events : List Progress.Event} (counted : WindowCounted length sizes outcome events) :
    ∃ missing, WindowAccounted length sizes outcome events missing := by
  cases counted with
  | unreached e =>
    refine ⟨0, rfl, fun _ => rfl, .inl rfl, fun _ _ front last none => ?_⟩
    exact absurd none.symm (List.append_ne_nil_of_right_ne_nil front (List.cons_ne_nil last []))
  | empty none => exact ⟨0, rfl, fun _ => rfl, .inl rfl, by rintro e ⟨⟩⟩
  | counted pos chunks ends =>
    have marked := (Tally.marked_empty length).shipAll pos chunks
    have shipped := Tally.shipped_shipAll_empty length sizes
    cases ends with
    | whole full =>
      refine ⟨0, ?_, fun _ => rfl, .inl rfl, by rintro e ⟨⟩⟩
      rw [marked.reported_of_full pos full, ← shipped, full, Nat.add_zero]
    | short =>
      refine ⟨0, ?_, fun _ => rfl, .inl rfl, by rintro e ⟨⟩⟩
      rw [marked.sound.reported_close, shipped, Nat.add_zero]
    | io e =>
      refine ⟨_, shipped.symm.trans marked.sound.counted.symm, fun noIo => absurd rfl (noIo e),
        .inr (marked.paced.sinceLast_mul_ten_lt marked.sound pos), ?_⟩
      rintro _ - front last rfl
      have before := (Tally.marked_empty length).shipAll pos chunks.append_left
      have behind : ChunksOf length (({} : Tally).shipAll length front).shipped [last] := ChunksOf.shipAll chunks
      have settled := before.paced.sinceLast_ship_eq_zero_iff before.sound pos behind.head_pos behind.head_le
      rw [Tally.shipped_shipAll_empty] at settled
      rwa [Tally.shipAll_append, Tally.shipAll_cons, Tally.shipAll_nil, List.sum_append_nat, List.sum_cons,
        List.sum_nil, Nat.add_zero]

/-! ## Copies -/

section Copy

variable {σ : Type} [Outlet σ]

theorem copySeries_alike {τ : Type} [Outlet τ] {related : σ → τ → Prop} (alike : Outlet.Alike related)
    (windows : List (Nat × Nat)) (source : Source) {left : σ} {right : τ} (holds : related left right) :
    (copySeries windows source left).outcomes = (copySeries windows source right).outcomes ∧
      (copySeries windows source left).events = (copySeries windows source right).events := by
  induction windows generalizing source left right with
  | nil => exact ⟨rfl, rfl⟩
  | cons window later ih =>
    obtain ⟨skip, length⟩ := window
    have copied := copyWindow_alike alike skip length source holds
    obtain ⟨outcomes, events⟩ := ih (copyWindow skip length source right).source copied.outlet
    simp only [copySeries, outcomes, events, copied.outcome, copied.source, copied.events, and_self]

/-- A series to an observed outlet adds chunks to those kept before, and unless a stream fails its reports account
for all of them. -/
theorem copySeries_observed (windows : List (Nat × Nat)) (source : Source) (observed : Observed σ) :
    ∃ sizes, (copySeries windows source observed).outlet.sizes = observed.sizes ++ sizes ∧
      ((∀ e, .error (.io e) ∉ (copySeries windows source observed).outcomes) →
        sizes.sum = Progress.reported (copySeries windows source observed).events) := by
  induction windows generalizing source observed with
  | nil => exact ⟨[], (List.append_nil _).symm, fun _ => rfl⟩
  | cons window later ih =>
    obtain ⟨skip, length⟩ := window
    obtain ⟨sizes, kept, counted⟩ := copyWindow_observed skip length source observed
    obtain ⟨missing, accounted⟩ := counted.exists_accounted
    obtain ⟨others, keptLater, rest⟩ := ih (copyWindow skip length source observed).source
      (copyWindow skip length source observed).outlet
    refine ⟨sizes ++ others, ?_, fun noIo => ?_⟩
    · rw [copySeries, keptLater, kept, List.append_assoc]
    · simp only [copySeries, List.mem_cons, not_or] at noIo ⊢
      rw [List.sum_append_nat, Progress.reported_append, rest fun e => (noIo e).2, accounted.shipped,
        accounted.missing_eq fun e failed => (noIo e).1 failed.symm, Nat.add_zero]

/-- What the reports of a copy leave out of the chunks that it shipped: nothing unless a stream fails, and then what
was shipped after the last report, which is less than a tenth of the window and nothing if the last chunk entered a
new tenth. Unless a stream fails, the running sum over the windows of a download is what was shipped of them. -/
theorem copySeries_accounted (source : Source) (outlet : σ) :
    (∀ skip length, ∃ missing, WindowAccounted length (copiedSizes skip length source outlet)
      (copyWindow skip length source outlet).outcome (copyWindow skip length source outlet).events missing) ∧
    ∀ windows, (∀ e, .error (.io e) ∉ (copySeries windows source outlet).outcomes) → ∀ shipment : Shipment,
      (shipment.noteAll (copySeries windows source outlet).events).shipped =
        shipment.shipped + (copySeries windows source ({ outlet := outlet } : Observed σ)).outlet.sizes.sum := by
  refine ⟨fun skip length => (copyWindow_counted skip length source outlet).exists_accounted, ?_⟩
  intro windows noIo shipment
  obtain ⟨sizes, kept, accounted⟩ := copySeries_observed windows source ({ outlet := outlet } : Observed σ)
  obtain ⟨outcomes, events⟩ := copySeries_alike Observed.alike windows source
    (rfl : ({ outlet := outlet } : Observed σ).outlet = outlet)
  rw [outcomes, events] at accounted
  rw [Shipment.noteAll_shipped, kept, List.nil_append, accounted noIo]

end Copy

/-- The second of two windows falls short; the bytes of both are in the sum. -/
theorem copySeries_accounted_short :
    let source := Source.ofBytes (List.replicate 20 120) (.steady 3)
    let outcomes := (copySeries [(2, 8), (0, 40)] source ({} : Sink)).outcomes
    (∀ e, .error (.io e) ∉ outcomes) ∧ outcomes = [.ok 8, .error (.shortfall 40 30)] ∧
      (({ requested := 48 } : Shipment).noteAll (copySeries [(2, 8), (0, 40)] source ({} : Sink)).events).shipped =
        18 := by
  intro source outcomes
  have ended : outcomes = [.ok 8, .error (.shortfall 40 30)] := by decide +kernel
  have noIo : ∀ e, .error (.io e) ∉ outcomes := by
    rw [ended]
    simp
  refine ⟨noIo, ended, ?_⟩
  rw [(copySeries_accounted source ({} : Sink)).2 [(2, 8), (0, 40)] noIo]
  decide +kernel

/-- A source fails behind the first of twenty bytes, or a sink does. That byte was shipped, and there is no report on
it. -/
theorem not_accounted_of_failed :
    let failing : Conduct := { Conduct.smooth with faults := [⟨1, some ⟨.other, "bad sector"⟩, 1⟩] }
    let failed := copyWindow 0 20 (.ofBytes (List.replicate 20 120) failing) ({} : Sink)
    let refused := copyWindow 0 20 (.ofBytes (List.replicate 20 120) (.steady 1)) ({ conduct := failing } : Sink)
    (failed.outlet.toList, failed.events) = ([120], []) ∧
      copiedSizes 0 20 (.ofBytes (List.replicate 20 120) failing) ({} : Sink) = [1] ∧
      (refused.outlet.toList, refused.events) = ([120], []) ∧
      copiedSizes 0 20 (.ofBytes (List.replicate 20 120) (.steady 1)) ({ conduct := failing } : Sink) = [1] := by
  decide +kernel

end Depot
