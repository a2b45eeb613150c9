import Depot.Feed.Delivery

/-!
# Traffic on a frame queue

The task that writes a body and the connection that reads it take turns in any order. A turn of the task
makes its next step unless that has to wait for room in the queue; a turn of the connection takes out a frame
if there is one. `Traffic.run` follows a schedule of turns.
-/

namespace Depot

/-- Whose turn it is. -/
inductive Turn
  | task
  | connection
deriving DecidableEq, Repr

/-- A body under way. -/
structure Traffic where
  queue : FrameQueue
  /-- The steps that the task has still to make. -/
  ahead : List Delivery.Step
  /-- How often the task has written the access line. -/
  records : Nat := 0
  /-- The frames that the connection has taken out, in order. -/
  taken : List Frame := []
  /-- The connection has seen the end of the body. -/
  ended : Bool := false

namespace Traffic

/-- A delivery before its first step, over a queue of the given capacity that has two writers. -/
def start (capacity : Nat) (delivery : Delivery) : Traffic :=
  { queue := (FrameQueue.create capacity).clone.2, ahead := delivery.steps }

/-- The task makes its next step, or waits. -/
def advance (t : Traffic) : Traffic :=
  match t.ahead with
  | [] => t
  | .record :: rest => { t with ahead := rest, records := t.records + 1 }
  | .use step :: rest =>
    match t.queue.step? step with
    | none | some (.blocked, _) => t
    | some (_, queue) => { t with queue := queue, ahead := rest }

/-- The connection asks for a frame. -/
def take (t : Traffic) : Traffic :=
  match t.queue.poll with
  | (.item frame, queue) => { t with queue := queue, taken := t.taken ++ [frame] }
  | (.ended, _) => { t with ended := true }
  | _ => t

/-- One turn. -/
def turn (t : Traffic) : Turn → Traffic
  | .task => t.advance
  | .connection => t.take

/-- The turns of a schedule, one after the other. -/
def run (schedule : List Turn) (t : Traffic) : Traffic :=
  schedule.foldl turn t

end Traffic

end Depot
