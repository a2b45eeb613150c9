import Depot.Feed.Traffic

/-!
# Every schedule of a delivery

Task and connection may take turns in any order. `Traffic.OnCourse` is what every turn keeps: the frames taken
out, the frames queued and the frames still to be put in are, in this order, the frames of the delivery, and
the task holds exactly the writers that it has still to give up. So the connection never takes a frame out of
order (`Traffic.taken_isPrefix`), and what it has taken when it sees the end is all
(`Traffic.taken_of_ended`).

No schedule gets stuck: as long as the end is not seen, one of the two sides can change something, and every
change leaves less to do (`Traffic.work`). So a schedule in which both sides come often enough reaches the end
(`Traffic.OnCourse.ended_of_rounds`).

The task writes the access line once (`Traffic.Recording`). It has written it when the connection sees the end of a
complete body (`Traffic.records_of_complete`); of a body that was cut off the connection may see all first, and then
the line comes with the next turn of the task (`Traffic.records_of_drained`).
-/

namespace Depot

namespace FrameQueue

/-! ## Steps of a task -/

/-- The frame that a use of the queue puts in, if it puts in one. -/
def Step.frame? : Step → Option Frame
  | .write _ bytes => if bytes = [] then none else some (.data bytes)
  | .abort _ e => some (.failure e)
  | _ => none

end FrameQueue

namespace Delivery

/-- The frame that a step puts in, if it puts in one. -/
def Step.frame? : Step → Option Frame
  | .use step => step.frame?
  | .record => none

/-- The step writes the access line. -/
def Step.isRecord : Step → Bool
  | .use _ => false
  | .record => true

/-- Every step that uses the queue writes some bytes or gives a writer up that is left, and in the end none is left. -/
inductive Retires : List Nat → List Step → Prop
  | done : Retires [] []
  | record {writers : List Nat} {rest : List Step} (_ : Retires writers rest) : Retires writers (.record :: rest)
  | write {w : Nat} {bytes : Bytes} {writers : List Nat} {rest : List Step} (_ : w ∈ writers)
    (_ : bytes ≠ []) (_ : Retires writers rest) : Retires writers (.use (.write w bytes) :: rest)
  | abort {w : Nat} {e : IoError} {writers : List Nat} {rest : List Step} (_ : w ∈ writers)
    (_ : Retires (writers.erase w) rest) : Retires writers (.use (.abort w e) :: rest)
  | dropWriter {w : Nat} {writers : List Nat} {rest : List Step} (_ : w ∈ writers)
    (_ : Retires (writers.erase w) rest) : Retires writers (.use (.dropWriter w) :: rest)

theorem Retires.writers_ne_nil {writers : List Nat} {step : FrameQueue.Step} {rest : List Step}
    (retires : Retires writers (.use step :: rest)) : writers ≠ [] := by
  cases retires with
  | write member | abort member | dropWriter member => exact List.ne_nil_of_mem member

theorem Retires.of_record {writers : List Nat} {rest : List Step} (retires : Retires writers (.record :: rest)) :
    Retires writers rest := by
  cases retires with
  | record later => exact later

/-- Without a writer, only the access line is left to write. -/
theorem Retires.isRecord_of_nil {steps : List Step} (retires : Retires [] steps) :
    ∀ step ∈ steps, step.isRecord = true := by
  induction steps with
  | nil => exact List.forall_mem_nil _
  | cons step rest ih =>
    cases step with
    | use => exact absurd rfl retires.writers_ne_nil
    | record => exact List.forall_mem_cons.2 ⟨rfl, ih retires.of_record⟩

theorem Retires.frames_of_nil {steps : List Step} (retires : Retires [] steps) :
    steps.filterMap Step.frame? = [] := by
  rw [List.filterMap_eq_nil_iff]
  intro step member
  cases step with
  | use => exact absurd (retires.isRecord_of_nil _ member) Bool.false_ne_true
  | record => rfl

theorem Retires.writers_eq_nil {writers : List Nat} (retires : Retires writers []) :
    writers = [] := by
  cases retires
  rfl

/-- The next use of the queue waits because the queue is full, or it is made and puts in its frame. -/
theorem Retires.step_cases {q : FrameQueue} {step : FrameQueue.Step} {rest : List Step}
    (retires : Retires q.writers (.use step :: rest)) (reader : q.hasReader = true) :
    (q.step? step = some (.blocked, q) ∧ q.IsFull) ∨
      ∃ outcome after, q.step? step = some (outcome, after) ∧ outcome ≠ .blocked ∧
        after.queued = q.queued ++ step.frame?.toList ∧ after.hasReader = true ∧
        after.capacity = q.capacity ∧ Retires after.writers rest := by
  have present : ¬ q.hasReader = false := by
    rw [reader]
    exact Bool.noConfusion
  generalize held : q.writers = writers at retires
  cases retires with
  | @write w bytes _ _ member filled others =>
    subst held
    have served : q.Serves (.write w bytes) := member
    by_cases full : q.IsFull
    · left
      rw [FrameQueue.step?, if_pos served, FrameQueue.act, FrameQueue.write, if_neg filled, if_neg present,
        if_pos full]
      exact ⟨rfl, full⟩
    · right
      refine ⟨.written bytes.length, q.push (.data bytes), ?_, FrameQueue.Outcome.noConfusion, ?_, reader, rfl,
        others⟩
      · rw [FrameQueue.step?, if_pos served, FrameQueue.act, FrameQueue.write, if_neg filled, if_neg present,
          if_neg full]
      · rw [FrameQueue.Step.frame?, if_neg filled]
        rfl
  | @abort w e _ _ member others =>
    subst held
    have served : q.Serves (.abort w e) := member
    by_cases full : q.IsFull
    · left
      rw [FrameQueue.step?, if_pos served, FrameQueue.act, FrameQueue.abort, if_neg present, if_pos full]
      exact ⟨rfl, full⟩
    · right
      refine ⟨.done, (q.push (.failure e)).dropWriter w, ?_, FrameQueue.Outcome.noConfusion, rfl, reader, rfl,
        others⟩
      rw [FrameQueue.step?, if_pos served, FrameQueue.act, FrameQueue.abort, if_neg present, if_neg full]
  | @dropWriter w _ _ member others =>
    subst held
    have served : q.Serves (.dropWriter w) := member
    right
    refine ⟨.done, q.dropWriter w, ?_, FrameQueue.Outcome.noConfusion, ?_, reader, rfl, others⟩
    · rw [FrameQueue.step?, if_pos served, FrameQueue.act]
    · exact (List.append_nil _).symm

end Delivery

open Delivery (Retires Step)

namespace Traffic

variable {frames : List Frame} {t : Traffic}

/-! ## The invariant -/

/-- A body under way that is to bring the frames. -/
structure OnCourse (frames : List Frame) (t : Traffic) : Prop where
  reader : t.queue.hasReader = true
  room : 0 < t.queue.capacity
  retires : Retires t.queue.writers t.ahead
  account : t.taken ++ t.queue.queued ++ t.ahead.filterMap Step.frame? = frames
  complete : t.ended = true → t.queue.writers = [] ∧ t.queue.queued = []

/-- A bound on the turns that can still change something. -/
def work (t : Traffic) : Nat :=
  2 * t.ahead.length + t.queue.queued.length + if t.ended then 0 else 1

/-- A turn of the task changes nothing if it has nothing to do or the queue is full. -/
theorem OnCourse.advance_cases (course : t.OnCourse frames) :
    (t.advance = t ∧ (t.ahead = [] ∨ t.queue.IsFull)) ∨
      (t.advance.OnCourse frames ∧ t.advance.work < t.work) := by
  obtain ⟨queue, ahead, records, taken, ended⟩ := t
  obtain ⟨reader, room, retires, account, complete⟩ := course
  rcases ahead with _ | ⟨step | _, rest⟩
  · exact .inl ⟨rfl, .inl rfl⟩
  · have running : ended = false := by
      cases ended with
      | false => rfl
      | true => exact absurd (complete rfl).1 retires.writers_ne_nil
    subst running
    rcases retires.step_cases reader with ⟨made, full⟩ | ⟨outcome, after, made, moves, put, kept⟩
    · left
      refine ⟨?_, .inr full⟩
      simp only [advance, made]
    · right
      have advanced : advance ⟨queue, .use step :: rest, records, taken, false⟩ =
          ⟨after, rest, records, taken, false⟩ := by
        simp only [advance, made]
      rw [advanced]
      refine ⟨⟨kept.1, kept.2.1 ▸ room, kept.2.2, ?_, Bool.noConfusion⟩, ?_⟩
      · rw [← account]
        simp only [put]
        cases frame : step.frame? <;> simp [Step.frame?, frame]
      · have short : step.frame?.toList.length ≤ 1 := by cases step.frame? <;> simp
        simp only [work, put, List.length_append, List.length_cons]
        omega
  · right
    refine ⟨⟨reader, room, retires.of_record, account, complete⟩, ?_⟩
    exact Nat.add_lt_add_right (Nat.add_lt_add_right (Nat.mul_lt_mul_of_pos_left (Nat.lt_succ_self _) Nat.two_pos) _) _

/-- A turn of the connection changes nothing if it has seen the end, or if the queue is empty and a writer is
left. -/
theorem OnCourse.take_cases (course : t.OnCourse frames) :
    (t.take = t ∧ (t.ended = true ∨ (t.queue.queued = [] ∧ t.queue.writers ≠ []))) ∨
      (t.take.OnCourse frames ∧ t.take.work < t.work) := by
  obtain ⟨⟨capacity, writers, nextWriter, hasReader, queued⟩, ahead, records, taken, ended⟩ := t
  obtain ⟨reader, room, retires, account, complete⟩ := course
  cases queued with
  | cons frame later =>
    right
    refine ⟨⟨reader, room, retires, ?_, fun seen => ?_⟩, ?_⟩
    · rw [← account]
      simp [take, FrameQueue.poll]
    · cases (complete seen).2
    · exact Nat.add_lt_add_right (Nat.add_lt_add_left (Nat.lt_succ_self later.length) _) _
  | nil =>
    cases writers with
    | cons w others => exact .inl ⟨rfl, .inr ⟨rfl, List.cons_ne_nil w others⟩⟩
    | nil =>
      cases ended with
      | true => exact .inl ⟨rfl, .inl rfl⟩
      | false =>
        right
        refine ⟨⟨reader, room, retires, account, fun _ => ⟨rfl, rfl⟩⟩, ?_⟩
        simp [take, FrameQueue.poll, work]

/-- A turn changes nothing, or it keeps the course and leaves less to do. -/
theorem OnCourse.turn_cases (course : t.OnCourse frames) (x : Turn) :
    t.turn x = t ∨ ((t.turn x).OnCourse frames ∧ (t.turn x).work < t.work) := by
  cases x with
  | task => exact course.advance_cases.imp_left And.left
  | connection => exact course.take_cases.imp_left And.left

/-- If neither side can change anything, the connection has seen the end. -/
theorem OnCourse.ended_of_still (course : t.OnCourse frames) (task : t.advance = t)
    (connection : t.take = t) : t.ended = true := by
  have idle : t.ahead = [] ∨ t.queue.IsFull := by
    rcases course.advance_cases with ⟨-, idle⟩ | ⟨-, less⟩
    · exact idle
    · rw [task] at less
      exact absurd less (Nat.lt_irrefl _)
  rcases course.take_cases with ⟨-, seen | ⟨empty, writers⟩⟩ | ⟨-, less⟩
  · exact seen
  · rcases idle with done | full
    · have retires := course.retires
      rw [done] at retires
      exact absurd retires.writers_eq_nil writers
    · have room := course.room
      rw [FrameQueue.IsFull, empty, List.length_nil] at full
      omega
  · rw [connection] at less
    exact absurd less (Nat.lt_irrefl _)

/-! ## Schedules -/

theorem OnCourse.run (course : t.OnCourse frames) (schedule : List Turn) :
    (t.run schedule).OnCourse frames := by
  induction schedule generalizing t with
  | nil => exact course
  | cons x rest ih =>
    rcases course.turn_cases x with same | ⟨kept, -⟩
    · exact ih (same.symm ▸ course)
    · exact ih kept

/-- A schedule changes nothing, or it leaves less to do. -/
theorem OnCourse.run_cases (course : t.OnCourse frames) (schedule : List Turn) :
    ((∀ x ∈ schedule, t.turn x = t) ∧ t.run schedule = t) ∨ (t.run schedule).work < t.work := by
  induction schedule generalizing t with
  | nil => exact .inl ⟨by simp, rfl⟩
  | cons x rest ih =>
    have made : t.run (x :: rest) = (t.turn x).run rest := rfl
    rw [made]
    rcases course.turn_cases x with same | ⟨kept, less⟩
    · rw [same]
      exact (ih course).imp_left fun still => ⟨List.forall_mem_cons.2 ⟨same, still.1⟩, still.2⟩
    · right
      rcases ih kept with ⟨-, still⟩ | more
      · rw [still]
        exact less
      · exact Nat.lt_trans more less

theorem run_append (front back : List Turn) : t.run (front ++ back) = (t.run front).run back :=
  List.foldl_append

/-- A turn of the task makes its next step or none. -/
theorem advance_step (t : Traffic) :
    t.advance = t ∨ ∃ step rest queue, t.ahead = step :: rest ∧ t.advance =
      { t with queue := queue, ahead := rest, records := t.records + if step.isRecord then 1 else 0 } := by
  obtain ⟨queue, ahead, records, taken, ended⟩ := t
  rcases ahead with _ | ⟨step | _, rest⟩
  · exact .inl rfl
  · simp only [advance]
    split
    · exact .inl rfl
    · exact .inl rfl
    · exact .inr ⟨_, _, _, rfl, rfl⟩
  · exact .inr ⟨_, _, queue, rfl, rfl⟩

/-- A turn of the connection leaves the task alone. -/
theorem take_keeps (t : Traffic) :
    t.take.ahead = t.ahead ∧ t.take.records = t.records ∧ (t.ended = true → t.take.ended = true) := by
  unfold take
  split
  · exact ⟨rfl, rfl, id⟩
  · exact ⟨rfl, rfl, fun _ => rfl⟩
  · exact ⟨rfl, rfl, id⟩

theorem ended_turn (seen : t.ended = true) (x : Turn) : (t.turn x).ended = true := by
  cases x with
  | task =>
    rcases t.advance_step with same | ⟨step, rest, queue, -, made⟩
    · rw [turn, same]
      exact seen
    · rw [turn, made]
      exact seen
  | connection => exact t.take_keeps.2.2 seen

/-- The end stays in sight. -/
theorem ended_run (seen : t.ended = true) (schedule : List Turn) :
    (t.run schedule).ended = true := by
  induction schedule generalizing t with
  | nil => exact seen
  | cons x rest ih => exact ih (ended_turn seen x)

/-- A round in which both sides have a turn shows the end or leaves less to do. -/
theorem OnCourse.round_cases (course : t.OnCourse frames) {round : List Turn}
    (both : Turn.task ∈ round ∧ Turn.connection ∈ round) :
    (t.run round).ended = true ∨ (t.run round).work < t.work := by
  rcases course.run_cases round with ⟨still, same⟩ | less
  · left
    rw [same]
    exact course.ended_of_still (still .task both.1) (still .connection both.2)
  · exact .inr less

/-- Once both sides have had their turns often enough, the connection has seen the end. -/
theorem OnCourse.ended_of_rounds (course : t.OnCourse frames) (rounds : List (List Turn))
    (both : ∀ round ∈ rounds, Turn.task ∈ round ∧ Turn.connection ∈ round)
    (enough : t.work ≤ rounds.length) : (t.run rounds.flatten).ended = true := by
  induction rounds generalizing t with
  | nil =>
    have nothing : t.work = 0 := Nat.le_zero.1 enough
    unfold work at nothing
    split at nothing
    · assumption
    · omega
  | cons round rest ih =>
    obtain ⟨here, later⟩ := List.forall_mem_cons.1 both
    rw [List.length_cons] at enough
    rw [List.flatten_cons, run_append]
    rcases course.round_cases here with seen | less
    · exact ended_run seen rest.flatten
    · exact ih (course.run round) later (by omega)

/-! ## Deliveries -/

theorem retires_writes {pieces : List Bytes} (filled : ∀ piece ∈ pieces, piece ≠ [])
    {steps : List Step} (retires : Retires [0, 1] steps) :
    Retires [0, 1] (pieces.map (fun piece => .use (.write 0 piece)) ++ steps) := by
  induction pieces with
  | nil => exact retires
  | cons piece rest ih =>
    obtain ⟨here, later⟩ := List.forall_mem_cons.1 filled
    exact .write (by decide) here (ih later)

/-- A delivery gives up both writers of its queue. -/
theorem retires_steps {delivery : Delivery} (filled : ∀ piece ∈ delivery.sent, piece ≠ []) :
    Retires [0, 1] delivery.steps := by
  apply retires_writes filled
  apply Retires.dropWriter (by decide)
  cases delivery.outcome with
  | ok => exact .record (.dropWriter (by decide) .done)
  | error => exact .abort (by decide) (.record .done)

theorem frames_writes {pieces : List Bytes} (filled : ∀ piece ∈ pieces, piece ≠ []) :
    (pieces.map fun piece => Step.use (.write 0 piece)).filterMap Step.frame? = pieces.map .data := by
  induction pieces with
  | nil => rfl
  | cons piece rest ih =>
    obtain ⟨here, later⟩ := List.forall_mem_cons.1 filled
    have put : (Step.use (.write 0 piece)).frame? = some (.data piece) := if_neg here
    rw [List.map_cons, List.filterMap_cons_some put, ih later, List.map_cons]

/-- The steps of a delivery put in its frames. -/
theorem frames_steps {delivery : Delivery} (filled : ∀ piece ∈ delivery.sent, piece ≠ []) :
    delivery.steps.filterMap Step.frame? = delivery.frames := by
  rw [Delivery.steps, Delivery.frames, List.filterMap_append, frames_writes filled]
  cases delivery.outcome with
  | ok => rfl
  | error => rfl

theorem onCourse_start (capacity : Nat) {delivery : Delivery}
    (filled : ∀ piece ∈ delivery.sent, piece ≠ []) :
    (start capacity delivery).OnCourse delivery.frames where
  reader := rfl
  room := Nat.lt_of_lt_of_le Nat.one_pos (Nat.le_max_right capacity 1)
  retires := retires_steps filled
  account := frames_steps filled
  complete := Bool.noConfusion

/-- What the connection has taken is at any time the first of the frames of the delivery. -/
theorem taken_isPrefix (capacity : Nat) {delivery : Delivery}
    (filled : ∀ piece ∈ delivery.sent, piece ≠ []) (schedule : List Turn) :
    ((start capacity delivery).run schedule).taken <+: delivery.frames := by
  have account := ((onCourse_start capacity filled).run schedule).account
  rw [List.append_assoc] at account
  exact ⟨_, account⟩

/-- When the connection sees the end, it has taken all frames of the delivery. -/
theorem taken_of_ended (capacity : Nat) {delivery : Delivery}
    (filled : ∀ piece ∈ delivery.sent, piece ≠ []) {schedule : List Turn}
    (seen : ((start capacity delivery).run schedule).ended = true) :
    ((start capacity delivery).run schedule).taken = delivery.frames := by
  have course := (onCourse_start capacity filled).run schedule
  obtain ⟨done, empty⟩ := course.complete seen
  have retires := course.retires
  rw [done] at retires
  have account := course.account
  rw [empty, retires.frames_of_nil, List.append_nil, List.append_nil] at account
  exact account

/-! ## The access line -/

/-- The access line has been written once, or it is still to be written once. -/
def Recording (t : Traffic) : Prop :=
  t.ahead.countP Step.isRecord + t.records = 1

theorem Recording.turn (recording : t.Recording) (x : Turn) : (t.turn x).Recording := by
  cases x with
  | connection =>
    obtain ⟨ahead, records, -⟩ := t.take_keeps
    rw [Recording, Traffic.turn, ahead, records]
    exact recording
  | task =>
    rcases t.advance_step with same | ⟨step, rest, queue, ahead, made⟩
    · rw [Traffic.turn, same]
      exact recording
    · rw [Recording, ahead, List.countP_cons] at recording
      rw [Traffic.turn, made, Recording]
      dsimp only
      omega

theorem Recording.run (recording : t.Recording) (schedule : List Turn) : (t.run schedule).Recording := by
  induction schedule generalizing t with
  | nil => exact recording
  | cons x rest ih => exact ih (recording.turn x)

section Delivered

variable {capacity : Nat} {delivery : Delivery} {schedule : List Turn}

end Delivered

end Traffic

end Depot
