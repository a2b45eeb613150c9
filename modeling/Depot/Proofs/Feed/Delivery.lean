import Depot.Feed.Delivery
import Depot.Proofs.Body.Alike
import Depot.Proofs.Stream.Sink

/-!
# What a delivery puts in

As long as the reader stays, a buffer in front of a frame queue loses nothing and reorders nothing: the pieces
put in, followed by the bytes held back, are the bytes written (`Buffered.Carries`). It answers like a sink
that takes everything, so `Delivery.of_puts` says that a delivery ends as the same body written to such a sink
ends, and that its pieces make up what the sink would have taken, also when the body was cut off.
-/

namespace Depot

/-! ## Feeds -/

namespace Feed

/-- The reader stays, and the pieces put in make up the bytes; none of them is empty. -/
structure Carries (bytes : Bytes) (f : Feed) : Prop where
  stays : f.patience = none
  flatten : f.sent.toList.flatten = bytes
  nonempty : ∀ piece ∈ f.sent.toList, piece ≠ []

theorem Carries.writeAll {bytes : Bytes} {f : Feed} (carries : f.Carries bytes) (piece : Bytes) :
    ∃ g, f.writeAll piece = (.ok (), g) ∧ g.Carries (bytes ++ piece) := by
  unfold Feed.writeAll
  split
  · rename_i nothing
    rw [nothing, List.append_nil]
    exact ⟨f, rfl, carries⟩
  · rename_i filled
    have present : f.isAbandoned = false := by rw [isAbandoned, carries.stays]
    rw [present, if_neg Bool.false_ne_true]
    refine ⟨_, rfl, carries.stays, ?_, ?_⟩
    · simp [carries.flatten]
    · intro other member
      rw [Array.toList_push, List.mem_append] at member
      rcases member with before | last
      · exact carries.nonempty other before
      · rw [List.mem_singleton.1 last]
        exact filled

end Feed

/-! ## Buffers before feeds -/

namespace Buffered

/-- The pieces put in and the bytes held back after them make up the bytes. -/
def Carries (bytes : Bytes) (b : Buffered Feed) : Prop :=
  ∃ front, b.inner.Carries front ∧ front ++ b.held.toList = bytes

variable {bytes : Bytes} {b : Buffered Feed}

theorem Carries.release (carries : b.Carries bytes) :
    ∃ feed, b.release = (.ok (), ⟨feed, #[]⟩) ∧ feed.Carries bytes := by
  obtain ⟨front, sent, rfl⟩ := carries
  unfold Buffered.release
  split
  · rename_i empty
    have nothing : b.held = #[] := Array.isEmpty_iff.1 empty
    rw [nothing, List.append_nil]
    exact ⟨b.inner, by rw [← nothing], sent⟩
  · obtain ⟨feed, written, more⟩ := sent.writeAll b.held.toList
    have passed : Outlet.writeAll b.held.toList b.inner = (.ok (), feed) := written
    rw [passed]
    exact ⟨feed, rfl, more⟩

/-- A piece is taken behind what is held back; only one that can be held may come while something is. -/
theorem Carries.accept (carries : b.Carries bytes) {piece : Bytes}
    (clear : capacity ≤ piece.length → b.held = #[]) :
    ∃ c, b.accept piece = (.ok (), c) ∧ c.Carries (bytes ++ piece) := by
  obtain ⟨front, sent, rfl⟩ := carries
  unfold Buffered.accept
  split
  · rename_i large
    obtain ⟨feed, written, more⟩ := sent.writeAll piece
    have passed : Outlet.writeAll piece b.inner = (.ok (), feed) := written
    rw [passed, clear large, List.append_nil]
    exact ⟨⟨feed, #[]⟩, rfl, front ++ piece, more, List.append_nil _⟩
  · refine ⟨_, rfl, front, sent, ?_⟩
    simp

theorem Carries.writeAll (carries : b.Carries bytes) (piece : Bytes) :
    ∃ c, b.writeAll piece = (.ok (), c) ∧ c.Carries (bytes ++ piece) := by
  unfold Buffered.writeAll
  split
  · rename_i fits
    apply carries.accept
    intro large
    exact Array.eq_empty_of_size_eq_zero (by omega)
  · obtain ⟨feed, released, sent⟩ := carries.release
    rw [released]
    have clear : Carries bytes ⟨feed, #[]⟩ := ⟨bytes, sent, List.append_nil bytes⟩
    exact clear.accept fun _ => rfl

theorem Carries.flush (carries : b.Carries bytes) :
    ∃ c, b.flush = (.ok (), c) ∧ c.Carries bytes := by
  obtain ⟨feed, released, sent⟩ := carries.release
  unfold Buffered.flush
  rw [released]
  exact ⟨⟨feed, #[]⟩, rfl, bytes, sent, List.append_nil bytes⟩

theorem Carries.close (carries : b.Carries bytes) : b.close.Carries bytes := by
  obtain ⟨feed, released, sent⟩ := carries.release
  rw [Buffered.close, released]
  exact sent

/-- The buffer carries what the sink has taken, and the sink takes everything. -/
structure Mirrors (b : Buffered Feed) (s : Sink) : Prop where
  carries : b.Carries s.toList
  patient : s.conduct.Patient
  flushes : s.flushError = none

/-- A buffer before a feed whose reader stays answers like a sink that takes everything. -/
theorem mirrors_alike : Outlet.Alike Mirrors where
  writeAll := by
    intro b s mirrors piece
    obtain ⟨c, written, carries⟩ := mirrors.carries.writeAll piece
    rcases result : s.writeAll piece with ⟨e | _, t⟩
    · obtain ⟨-, -, -, -, -, impatient⟩ := Sink.writeAll_error result
      exact absurd mirrors.patient impatient
    · have takes := Sink.writeAll_ok result
      refine ⟨.ok (), c, t, written, result, ?_, takes.patient mirrors.patient, ?_⟩
      · rw [takes.toList]
        exact carries
      · rw [takes.flushError, mirrors.flushes]
  flush := by
    intro b s mirrors
    obtain ⟨c, flushed, carries⟩ := mirrors.carries.flush
    refine ⟨.ok (), c, { s with flushes := s.flushes + 1 }, flushed, ?_, carries, mirrors.patient,
      mirrors.flushes⟩
    show s.flush = _
    rw [Sink.flush, mirrors.flushes]

end Buffered

/-! ## Deliveries -/

namespace Delivery

/-- A delivery to a reader that stays ends as the body ends that is written to a sink in memory, and leaves the
same source and reports; its pieces, none of them empty, make up the bytes that the sink takes. -/
theorem of_puts (shape : Shape) (source : Source) :
    (Delivery.of shape source).outcome = (shape.write source ({} : Sink)).outcome ∧
      (Delivery.of shape source).sent.flatten = (shape.write source ({} : Sink)).outlet.toList ∧
      (∀ piece ∈ (Delivery.of shape source).sent, piece ≠ []) ∧
      (Delivery.of shape source).source = (shape.write source ({} : Sink)).source ∧
      (Delivery.of shape source).events = (shape.write source ({} : Sink)).events := by
  have empty : Buffered.Mirrors { inner := { patience := none } } ({} : Sink) :=
    ⟨⟨[], ⟨rfl, rfl, by simp⟩, rfl⟩, Conduct.patient_smooth, rfl⟩
  have alike := shape.write_alike Buffered.mirrors_alike source empty
  have put := alike.outlet.carries.close
  exact ⟨alike.outcome, put.flatten, put.nonempty, alike.source, alike.events⟩

end Delivery

end Depot
