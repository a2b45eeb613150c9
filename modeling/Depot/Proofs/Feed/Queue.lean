import Depot.Feed.Queue

/-!
# Frames put in and taken out

A frame queue may be used by any number of writers, which appear and go away, and by one reader, in any order.
`FrameQueue.Acts` lists everything that one step can do. From it follow two accounts of the moves made so far: of
frames (`FrameQueue.Account`), which as long as the reader stays says that the frames taken out, followed by those
queued, are the frames put in; and of writers (`FrameQueue.Roster`), which says that exactly those are left that
were made and not given up. `FrameQueue.faithful_of_leads` reads off both what every next step comes to.
-/

namespace Depot

namespace FrameQueue

/-! ## Steps -/

/-- What a step can do to a queue: its outcome, and the queue after it. -/
inductive Acts (q : FrameQueue) : Step → Outcome → FrameQueue → Prop
  | nothing {w : Nat} (_ : w ∈ q.writers) : Acts q (.write w []) (.written 0) q
  /-- The reader is gone, and the bytes are refused. -/
  | refused {w : Nat} {bytes : Bytes} (_ : w ∈ q.writers) (_ : bytes ≠ []) (_ : q.hasReader = false) :
    Acts q (.write w bytes) (.failed .disconnected) q
  | waits {w : Nat} {bytes : Bytes} (_ : w ∈ q.writers) (_ : bytes ≠ []) (_ : q.hasReader = true)
    (_ : q.IsFull) : Acts q (.write w bytes) .blocked q
  | written {w : Nat} {bytes : Bytes} (_ : w ∈ q.writers) (_ : bytes ≠ []) (_ : q.hasReader = true)
    (_ : ¬ q.IsFull) : Acts q (.write w bytes) (.written bytes.length) (q.push (.data bytes))
  | flushed {w : Nat} (_ : w ∈ q.writers) : Acts q (.flush w) .done q
  | cloned {w : Nat} (_ : w ∈ q.writers) : Acts q (.clone w) q.clone.1 q.clone.2
  /-- The reader is gone, and the error goes nowhere. -/
  | lost {w : Nat} {e : IoError} (_ : w ∈ q.writers) (_ : q.hasReader = false) :
    Acts q (.abort w e) .done (q.dropWriter w)
  | holds {w : Nat} {e : IoError} (_ : w ∈ q.writers) (_ : q.hasReader = true) (_ : q.IsFull) :
    Acts q (.abort w e) .blocked q
  | aborted {w : Nat} {e : IoError} (_ : w ∈ q.writers) (_ : q.hasReader = true) (_ : ¬ q.IsFull) :
    Acts q (.abort w e) .done ((q.push (.failure e)).dropWriter w)
  | dropped {w : Nat} (_ : w ∈ q.writers) : Acts q (.dropWriter w) .done (q.dropWriter w)
  | abandoned (_ : q.hasReader = true) :
    Acts q .dropReader .done { q with hasReader := false, queued := [] }
  | taken {frame : Frame} {rest : List Frame} (_ : q.hasReader = true) (_ : q.queued = frame :: rest) :
    Acts q .poll (.item frame) { q with queued := rest }
  | pending (_ : q.hasReader = true) (_ : q.queued = []) (_ : q.writers ≠ []) : Acts q .poll .pending q
  | ended (_ : q.hasReader = true) (_ : q.queued = []) (_ : q.writers = []) : Acts q .poll .ended q

variable {q after : FrameQueue} {step : Step} {outcome : Outcome}

theorem Acts.serves (acts : q.Acts step outcome after) : q.Serves step := by
  cases acts <;> assumption

theorem Acts.act_eq (acts : q.Acts step outcome after) : q.act step = (outcome, after) := by
  have present (reader : q.hasReader = true) : ¬ q.hasReader = false := by
    rw [reader]
    exact Bool.noConfusion
  cases acts with
  | nothing => rfl
  | refused _ some gone => rw [act, write, if_neg some, if_pos gone]
  | waits _ some reader full => rw [act, write, if_neg some, if_neg (present reader), if_pos full]
  | written _ some reader room => rw [act, write, if_neg some, if_neg (present reader), if_neg room]
  | flushed | cloned | dropped | abandoned => rfl
  | lost _ gone => rw [act, abort, if_pos gone]
  | holds _ reader full => rw [act, abort, if_neg (present reader), if_pos full]
  | aborted _ reader room => rw [act, abort, if_neg (present reader), if_neg room]
  | taken _ queued => rw [act, poll, queued]
  | pending _ queued writers => rw [act, poll, queued, if_neg writers]
  | ended _ queued writers => rw [act, poll, queued, if_pos writers]

/-- Every step whose end is there does one of these things. -/
theorem exists_acts (served : q.Serves step) :
    ∃ outcome after, Acts q step outcome after := by
  have reader : q.hasReader = false ∨ q.hasReader = true := by
    cases q.hasReader with
    | false => exact .inl rfl
    | true => exact .inr rfl
  cases step with
  | write w bytes =>
    by_cases some : bytes = []
    · exact some ▸ ⟨_, _, .nothing served⟩
    rcases reader with gone | reader
    · exact ⟨_, _, .refused served some gone⟩
    by_cases full : q.IsFull
    · exact ⟨_, _, .waits served some reader full⟩
    · exact ⟨_, _, .written served some reader full⟩
  | flush w => exact ⟨_, _, .flushed served⟩
  | clone w => exact ⟨_, _, .cloned served⟩
  | abort w e =>
    rcases reader with gone | reader
    · exact ⟨_, _, .lost served gone⟩
    by_cases full : q.IsFull
    · exact ⟨_, _, .holds served reader full⟩
    · exact ⟨_, _, .aborted served reader full⟩
  | dropWriter w => exact ⟨_, _, .dropped served⟩
  | dropReader => exact ⟨_, _, .abandoned served⟩
  | poll =>
    rcases queued : q.queued with _ | ⟨frame, rest⟩
    · by_cases writers : q.writers = []
      · exact ⟨_, _, .ended served queued writers⟩
      · exact ⟨_, _, .pending served queued writers⟩
    · exact ⟨_, _, .taken served queued⟩

theorem step?_eq_some_iff : q.step? step = some (outcome, after) ↔ q.Acts step outcome after := by
  constructor
  · intro made
    by_cases served : q.Serves step
    · obtain ⟨outcome', after', acts⟩ := exists_acts served
      rw [step?, if_pos served, acts.act_eq] at made
      cases made
      exact acts
    · rw [step?, if_neg served] at made
      cases made
  · intro acts
    rw [step?, if_pos acts.serves, acts.act_eq]

/-! ## Moves -/

/-- A step that was made, and what it came to. -/
structure Move where
  step : Step
  outcome : Outcome
deriving DecidableEq, Repr

namespace Move

/-- The frame that a move puts in. No bytes make no frame, and what is refused or has to wait makes none. -/
def put? : Move → Option Frame
  | ⟨.write _ bytes, .written _⟩ => if bytes = [] then none else some (.data bytes)
  | ⟨.abort _ e, .done⟩ => some (.failure e)
  | _ => none

/-- The frame that a move takes out. -/
def taken? : Move → Option Frame
  | ⟨.poll, .item frame⟩ => some frame
  | _ => none

/-- The writer that a move makes. -/
def made? : Move → Option Nat
  | ⟨.clone _, .cloned w⟩ => some w
  | _ => none

/-- The writer that a move gives up. -/
def gone? : Move → Option Nat
  | ⟨.dropWriter w, _⟩ | ⟨.abort w _, .done⟩ => some w
  | _ => none

end Move

/-- The frames put in, in order, as long as the reader stays. -/
def framesPut (moves : List Move) : List Frame :=
  moves.filterMap Move.put?

/-- The frames taken out, in order. -/
def framesTaken (moves : List Move) : List Frame :=
  moves.filterMap Move.taken?

/-- The reader went away during the moves. -/
def Abandoned (moves : List Move) : Prop :=
  ∃ m ∈ moves, m.step = .dropReader

/-- The writers that were there at some time. The first is there from the beginning. -/
def writersMade (moves : List Move) : List Nat :=
  0 :: moves.filterMap Move.made?

/-- The writers that were dropped or have aborted. -/
def writersGone (moves : List Move) : List Nat :=
  moves.filterMap Move.gone?

/-- Some moves lead from one queue to another. -/
inductive Leads (start : FrameQueue) : List Move → FrameQueue → Prop
  | none : Leads start [] start
  | more {moves : List Move} {q after : FrameQueue} {step : Step} {outcome : Outcome} :
    Leads start moves q → q.step? step = some (outcome, after) →
      Leads start (moves ++ [⟨step, outcome⟩]) after

variable {capacity : Nat} {moves : List Move}

theorem abandoned_snoc (moves : List Move) (m : Move) :
    Abandoned (moves ++ [m]) ↔ Abandoned moves ∨ m.step = .dropReader := by
  simp [Abandoned, or_and_right, exists_or]

theorem framesPut_snoc (moves : List Move) (m : Move) :
    framesPut (moves ++ [m]) = framesPut moves ++ m.put?.toList := by
  cases put : m.put? <;> simp [framesPut, List.filterMap_append, put]

theorem framesTaken_snoc (moves : List Move) (m : Move) :
    framesTaken (moves ++ [m]) = framesTaken moves ++ m.taken?.toList := by
  cases taken : m.taken? <;> simp [framesTaken, List.filterMap_append, taken]

theorem writersMade_snoc (moves : List Move) (m : Move) :
    writersMade (moves ++ [m]) = writersMade moves ++ m.made?.toList := by
  cases made : m.made? <;> simp [writersMade, List.filterMap_append, made]

theorem writersGone_snoc (moves : List Move) (m : Move) :
    writersGone (moves ++ [m]) = writersGone moves ++ m.gone?.toList := by
  cases gone : m.gone? <;> simp [writersGone, List.filterMap_append, gone]

/-! ## Frames -/

/-- The account of the frames of a queue after some moves. -/
structure Account (capacity : Nat) (moves : List Move) (q : FrameQueue) : Prop where
  room : q.capacity = max capacity 1
  reader : q.hasReader = true ↔ ¬ Abandoned moves
  frames : ¬ Abandoned moves → framesTaken moves ++ q.queued = framesPut moves
  cleared : Abandoned moves → q.queued = []

namespace Account

theorem create (capacity : Nat) : Account capacity [] (create capacity) where
  room := rfl
  reader := by simp [FrameQueue.create, Abandoned]
  frames := fun _ => rfl
  cleared := by simp [Abandoned]

theorem full_iff (account : Account capacity moves q) : q.IsFull ↔ ¬ q.queued.length < max capacity 1 := by
  rw [IsFull, account.room, Nat.not_lt]

theorem not_reader (account : Account capacity moves q) (left : Abandoned moves) : q.hasReader = false :=
  Bool.eq_false_iff.2 fun reader => account.reader.1 reader left

/-- A move that takes out nothing adds to the queue what it puts in, if the reader is there. -/
theorem add (account : Account capacity moves q) {m : Move} (stays : m.step ≠ .dropReader)
    (takes : m.taken? = none) (room : after.capacity = q.capacity)
    (reader : after.hasReader = q.hasReader)
    (present : q.hasReader = true → after.queued = q.queued ++ m.put?.toList)
    (gone : q.hasReader = false → after.queued = q.queued) : Account capacity (moves ++ [m]) after := by
  have abandoned : Abandoned (moves ++ [m]) ↔ Abandoned moves := by
    rw [abandoned_snoc, or_iff_left stays]
  refine ⟨room.trans account.room, ?_, fun stayed => ?_, fun left => ?_⟩
  · rw [reader, abandoned, account.reader]
  · rw [abandoned] at stayed
    rw [framesTaken_snoc, framesPut_snoc, takes, ← account.frames stayed, present (account.reader.2 stayed)]
    simp
  · rw [abandoned] at left
    rw [gone (account.not_reader left), account.cleared left]

/-- A move that neither puts in nor takes out leaves the queue alone. -/
theorem keep (account : Account capacity moves q) {m : Move} (stays : m.step ≠ .dropReader)
    (takes : m.taken? = none) (puts : m.put? = none) (room : after.capacity = q.capacity)
    (reader : after.hasReader = q.hasReader) (queued : after.queued = q.queued) :
    Account capacity (moves ++ [m]) after := by
  refine account.add stays takes room reader (fun _ => ?_) fun _ => queued
  rw [queued, puts]
  exact (List.append_nil _).symm

/-- Every step keeps the account. -/
theorem move (account : Account capacity moves q) (acts : q.Acts step outcome after) :
    Account capacity (moves ++ [⟨step, outcome⟩]) after := by
  have opposed (gone : q.hasReader = false) (reader : q.hasReader = true) : False :=
    Bool.false_ne_true (gone.symm.trans reader)
  cases acts with
  | nothing | refused | waits | flushed | cloned | holds | dropped | pending | ended =>
    exact account.keep Step.noConfusion rfl rfl rfl rfl rfl
  | written _ some reader =>
    refine account.add Step.noConfusion rfl rfl rfl (fun _ => ?_) fun gone => (opposed gone reader).elim
    rw [Move.put?, if_neg some]
    rfl
  | lost _ gone =>
    exact account.add Step.noConfusion rfl rfl rfl (fun reader => (opposed gone reader).elim) fun _ => rfl
  | aborted _ reader =>
    exact account.add Step.noConfusion rfl rfl rfl (fun _ => rfl) fun gone => (opposed gone reader).elim
  | abandoned =>
    have left : Abandoned (moves ++ [⟨.dropReader, .done⟩]) := (abandoned_snoc _ _).2 (.inr rfl)
    exact ⟨account.room, iff_of_false Bool.false_ne_true (not_not_intro left), fun stayed => absurd left stayed,
      fun _ => rfl⟩
  | @taken frame rest reader queued =>
    have abandoned : Abandoned (moves ++ [⟨.poll, .item frame⟩]) ↔ Abandoned moves := by
      rw [abandoned_snoc, or_iff_left Step.noConfusion]
    have stayed := account.reader.1 reader
    refine ⟨account.room, ?_, fun _ => ?_, fun left => absurd (abandoned.1 left) stayed⟩
    · rw [abandoned]
      exact account.reader
    · have frames := account.frames stayed
      rw [queued] at frames
      rw [framesTaken_snoc, framesPut_snoc, ← frames]
      simp [Move.taken?, Move.put?]

end Account

/-! ## Writers -/

/-- The account of the writers of a queue after some moves. -/
structure Roster (moves : List Move) (q : FrameQueue) : Prop where
  mem_iff : ∀ w, w ∈ q.writers ↔ w ∈ writersMade moves ∧ w ∉ writersGone moves
  nodup : q.writers.Nodup
  made_lt : ∀ w ∈ writersMade moves, w < q.nextWriter
  gone_lt : ∀ w ∈ writersGone moves, w < q.nextWriter

namespace Roster

theorem create (capacity : Nat) : Roster [] (create capacity) where
  mem_iff := by simp [FrameQueue.create, writersMade, writersGone]
  nodup := by simp [FrameQueue.create]
  made_lt := by simp [FrameQueue.create, writersMade]
  gone_lt := by simp [writersGone]

/-- A move that neither makes nor gives up a writer. -/
theorem keep (roster : Roster moves q) {m : Move} (makes : m.made? = none) (drops : m.gone? = none)
    (writers : after.writers = q.writers) (next : after.nextWriter = q.nextWriter) :
    Roster (moves ++ [m]) after := by
  have made : writersMade (moves ++ [m]) = writersMade moves := by
    rw [writersMade_snoc, makes]
    exact List.append_nil _
  have gone : writersGone (moves ++ [m]) = writersGone moves := by
    rw [writersGone_snoc, drops]
    exact List.append_nil _
  refine ⟨fun w => ?_, writers ▸ roster.nodup, ?_, ?_⟩
  · rw [writers, made, gone]
    exact roster.mem_iff w
  · rw [made, next]
    exact roster.made_lt
  · rw [gone, next]
    exact roster.gone_lt

/-- A move that gives up a writer that was left. -/
theorem giveUp (roster : Roster moves q) {m : Move} {w : Nat} (left : w ∈ q.writers) (makes : m.made? = none)
    (drops : m.gone? = some w) (writers : after.writers = q.writers.erase w)
    (next : after.nextWriter = q.nextWriter) : Roster (moves ++ [m]) after := by
  have made : writersMade (moves ++ [m]) = writersMade moves := by
    rw [writersMade_snoc, makes]
    exact List.append_nil _
  have gone (v : Nat) : v ∈ writersGone (moves ++ [m]) ↔ v ∈ writersGone moves ∨ v = w := by
    rw [writersGone_snoc, drops, List.mem_append]
    simp
  refine ⟨fun v => ?_, writers ▸ roster.nodup.erase w, ?_, fun v member => ?_⟩
  · rw [writers, roster.nodup.mem_erase_iff, roster.mem_iff, made, gone, not_or]
    exact ⟨fun ⟨other, member, stays⟩ => ⟨member, stays, other⟩,
      fun ⟨member, stays, other⟩ => ⟨other, member, stays⟩⟩
  · rw [made, next]
    exact roster.made_lt
  · rw [next]
    rcases (gone v).1 member with before | rfl
    · exact roster.gone_lt v before
    · exact roster.made_lt v ((roster.mem_iff v).1 left).1

/-- Another writer gets a number that none has had before. -/
theorem clone (roster : Roster moves q) {m : Move} (makes : m.made? = some q.nextWriter)
    (drops : m.gone? = none) : Roster (moves ++ [m]) q.clone.2 := by
  have gone : writersGone (moves ++ [m]) = writersGone moves := by
    rw [writersGone_snoc, drops]
    exact List.append_nil _
  have made (v : Nat) : v ∈ writersMade (moves ++ [m]) ↔ v ∈ writersMade moves ∨ v = q.nextWriter := by
    rw [writersMade_snoc, makes, List.mem_append]
    simp
  have new : q.nextWriter ∉ writersGone moves := fun member => Nat.lt_irrefl _ (roster.gone_lt _ member)
  have unused : q.nextWriter ∉ q.writers := fun member =>
    Nat.lt_irrefl _ (roster.made_lt _ ((roster.mem_iff _).1 member).1)
  refine ⟨fun v => ?_, ?_, fun v member => ?_, fun v member => ?_⟩
  · have writers : q.clone.2.writers = q.writers ++ [q.nextWriter] := rfl
    rw [writers, List.mem_append, List.mem_singleton, roster.mem_iff, made, gone]
    constructor
    · rintro (⟨member, stays⟩ | rfl)
      · exact ⟨.inl member, stays⟩
      · exact ⟨.inr rfl, new⟩
    · rintro ⟨member | rfl, stays⟩
      · exact .inl ⟨member, stays⟩
      · exact .inr rfl
  · refine List.nodup_append.2 ⟨roster.nodup, List.pairwise_singleton _ _, fun v member other last same => ?_⟩
    rw [List.mem_singleton.1 last] at same
    exact unused (same ▸ member)
  · rcases (made v).1 member with before | rfl
    · exact Nat.lt_succ_of_lt (roster.made_lt v before)
    · exact Nat.lt_succ_self _
  · rw [gone] at member
    exact Nat.lt_succ_of_lt (roster.gone_lt v member)

/-- Every step keeps the account. -/
theorem move (roster : Roster moves q) (acts : q.Acts step outcome after) :
    Roster (moves ++ [⟨step, outcome⟩]) after := by
  cases acts with
  | nothing | refused | waits | written | flushed | holds | abandoned | taken | pending | ended =>
    exact roster.keep rfl rfl rfl rfl
  | cloned => exact roster.clone rfl rfl
  | lost left | aborted left | dropped left => exact roster.giveUp left rfl rfl rfl rfl

end Roster

/-! ## Runs -/

theorem eq_of_create? {start : FrameQueue} (made : create? capacity = some start) :
    start = create capacity := by
  unfold create? at made
  split at made
  · exact (Option.some.inj made).symm
  · cases made

/-- Both accounts hold after any moves. -/
theorem Leads.accounts {start : FrameQueue} (made : create? capacity = some start)
    (leads : Leads start moves q) : Account capacity moves q ∧ Roster moves q := by
  induction leads with
  | none =>
    rw [eq_of_create? made]
    exact ⟨.create capacity, .create capacity⟩
  | more _ stepped ih =>
    have acts := step?_eq_some_iff.1 stepped
    exact ⟨ih.1.move acts, ih.2.move acts⟩

/-- A writer that was made and has neither been dropped nor aborted. -/
def Remains (moves : List Move) (w : Nat) : Prop :=
  w ∈ writersMade moves ∧ w ∉ writersGone moves

/-- How a queue stands after some moves, and what comes of the next use of one of its ends. -/
structure Faithful (capacity : Nat) (moves : List Move) (q : FrameQueue) : Prop where
  /-- As long as the reader stays, no frame is lost, repeated or moved. -/
  frames : ¬ Abandoned moves → framesTaken moves ++ q.queued = framesPut moves
  /-- The reader gets the frame put in first of those queued; without one, the body ends if no writer remains. -/
  poll : ¬ Abandoned moves → ∃ outcome after, q.step? .poll = some (outcome, after) ∧
    (∀ frame, outcome = .item frame ↔ q.queued.head? = some frame) ∧
    (outcome = .ended ↔ (∀ w, ¬ Remains moves w) ∧ q.queued = []) ∧
    (outcome = .pending ↔ (∃ w, Remains moves w) ∧ q.queued = [])
  write : ∀ w bytes, Remains moves w → bytes ≠ [] → ¬ Abandoned moves → q.step? (.write w bytes) =
    if q.queued.length < max capacity 1 then some (.written bytes.length, q.push (.data bytes))
    else some (.blocked, q)
  abort : ∀ w e, Remains moves w → ¬ Abandoned moves → q.step? (.abort w e) =
    if q.queued.length < max capacity 1 then some (.done, (q.push (.failure e)).dropWriter w)
    else some (.blocked, q)
  writeNothing : ∀ w, Remains moves w → q.step? (.write w []) = some (.written 0, q)
  /-- Once the reader is gone, bytes are refused and an error goes nowhere. -/
  writeLate : ∀ w bytes, Remains moves w → bytes ≠ [] → Abandoned moves →
    q.step? (.write w bytes) = some (.failed .disconnected, q)
  abortLate : ∀ w e, Remains moves w → Abandoned moves →
    q.step? (.abort w e) = some (.done, q.dropWriter w)
  /-- A writer that does not remain can do nothing any more. -/
  writerGone : ∀ w, ¬ Remains moves w → ∀ bytes e, q.step? (.write w bytes) = none ∧ q.step? (.abort w e) = none

theorem Roster.remains_iff (roster : Roster moves q) {w : Nat} : Remains moves w ↔ w ∈ q.writers :=
  (roster.mem_iff w).symm

/-- What the reader finds. -/
theorem poll_of_accounts (account : Account capacity moves q) (roster : Roster moves q)
    (stayed : ¬ Abandoned moves) : ∃ outcome after, q.step? .poll = some (outcome, after) ∧
      (∀ frame, outcome = .item frame ↔ q.queued.head? = some frame) ∧
      (outcome = .ended ↔ (∀ w, ¬ Remains moves w) ∧ q.queued = []) ∧
      (outcome = .pending ↔ (∃ w, Remains moves w) ∧ q.queued = []) := by
  have reader := account.reader.2 stayed
  have none_left : (∀ w, ¬ Remains moves w) ↔ q.writers = [] := by
    rw [List.eq_nil_iff_forall_not_mem]
    exact forall_congr' fun _ => not_congr roster.remains_iff
  have some_left : (∃ w, Remains moves w) ↔ q.writers ≠ [] := by
    constructor
    · rintro ⟨w, remains⟩
      exact List.ne_nil_of_mem (roster.remains_iff.1 remains)
    · intro writers
      obtain ⟨w, member⟩ := List.exists_mem_of_ne_nil _ writers
      exact ⟨w, roster.remains_iff.2 member⟩
  rw [none_left, some_left]
  rcases queued : q.queued with _ | ⟨frame, rest⟩
  · by_cases writers : q.writers = []
    · exact ⟨_, _, step?_eq_some_iff.2 (.ended reader queued writers), by simp [writers]⟩
    · exact ⟨_, _, step?_eq_some_iff.2 (.pending reader queued writers), by simp [writers]⟩
  · exact ⟨_, _, step?_eq_some_iff.2 (.taken reader queued), by simp [eq_comm]⟩

theorem write_of_account (account : Account capacity moves q) (stayed : ¬ Abandoned moves) {w : Nat} {bytes : Bytes}
    (left : w ∈ q.writers) (some : bytes ≠ []) : q.step? (.write w bytes) =
      if q.queued.length < max capacity 1 then Option.some (.written bytes.length, q.push (.data bytes))
      else Option.some (.blocked, q) := by
  have reader := account.reader.2 stayed
  split
  · next room => exact step?_eq_some_iff.2 (.written left some reader fun full => account.full_iff.1 full room)
  · next full => exact step?_eq_some_iff.2 (.waits left some reader (account.full_iff.2 full))

theorem abort_of_account (account : Account capacity moves q) (stayed : ¬ Abandoned moves) {w : Nat} (e : IoError)
    (left : w ∈ q.writers) : q.step? (.abort w e) =
      if q.queued.length < max capacity 1 then some (.done, (q.push (.failure e)).dropWriter w)
      else some (.blocked, q) := by
  have reader := account.reader.2 stayed
  split
  · next room => exact step?_eq_some_iff.2 (.aborted left reader fun full => account.full_iff.1 full room)
  · next full => exact step?_eq_some_iff.2 (.holds left reader (account.full_iff.2 full))

/-- The queue neither loses, repeats nor reorders frames, whoever uses its ends in whatever order. -/
theorem faithful_of_leads {start : FrameQueue} (made : create? capacity = some start)
    (leads : Leads start moves q) : Faithful capacity moves q := by
  obtain ⟨account, roster⟩ := leads.accounts made
  refine ⟨account.frames, poll_of_accounts account roster, fun w bytes remains some stayed => ?_,
    fun w e remains stayed => ?_, fun w remains => ?_, fun w bytes remains some left => ?_,
    fun w e remains left => ?_, fun w gone bytes e => ?_⟩
  · exact write_of_account account stayed (roster.remains_iff.1 remains) some
  · exact abort_of_account account stayed e (roster.remains_iff.1 remains)
  · exact step?_eq_some_iff.2 (.nothing (roster.remains_iff.1 remains))
  · exact step?_eq_some_iff.2 (.refused (roster.remains_iff.1 remains) some (account.not_reader left))
  · exact step?_eq_some_iff.2 (.lost (roster.remains_iff.1 remains) (account.not_reader left))
  · have absent : w ∉ q.writers := fun member => gone (roster.remains_iff.2 member)
    exact ⟨if_neg absent, if_neg absent⟩

/-- Two writers share a queue that was asked to have no room; the second gives up, then the reader goes away. -/
theorem faithful_of_abandoned :
    ∃ moves, create? 0 = some (create 0) ∧ Leads (create 0) moves ⟨1, [0], 2, false, []⟩ ∧
      framesTaken moves = [.data [104, 105], .failure ⟨.other, "backend lost"⟩] ∧
      Faithful 0 moves ⟨1, [0], 2, false, []⟩ := by
  have leads : Leads (create 0) ([] ++ [⟨.clone 0, .cloned 1⟩] ++ [⟨.write 0 [104, 105], .written 2⟩] ++
      [⟨.write 1 [], .written 0⟩] ++ [⟨.poll, .item (.data [104, 105])⟩] ++
      [⟨.abort 1 ⟨.other, "backend lost"⟩, .done⟩] ++
      [⟨.poll, .item (.failure ⟨.other, "backend lost"⟩)⟩] ++ [⟨.dropReader, .done⟩] ++
      [⟨.write 0 [33], .failed .disconnected⟩]) ⟨1, [0], 2, false, []⟩ :=
    .more (.more (.more (.more (.more (.more (.more (.more .none rfl) rfl) rfl) rfl) rfl) rfl) rfl) rfl
  exact ⟨_, rfl, leads, rfl, faithful_of_leads rfl leads⟩

end FrameQueue

end Depot
