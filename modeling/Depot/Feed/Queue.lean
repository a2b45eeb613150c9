import Depot.Bytes
import Depot.IoError
import Depot.Number.Power

/-!
# The frame queue

A streamed body passes from the task that writes it to the connection through a bounded queue of frames.
Any number of writers put frames in, one reader takes them out in the same order. The body ends when no
writer is left and the queue is empty; a writer that gives up puts an error in as its last frame. Once the
reader is gone, nothing can be put in any more. The room of a queue is counted in a word of which three bits
are taken, so there is no queue of more than `FrameQueue.maxCapacity` frames.
-/

namespace Depot

/-- One piece of a body on its way. -/
inductive Frame
  | data (bytes : Bytes)
  /-- The body is cut off here. -/
  | failure (e : IoError)
deriving DecidableEq, Repr

/-- The reader is gone. -/
def IoError.disconnected : IoError :=
  ⟨.brokenPipe, "client disconnected"⟩

/-- A bounded queue of frames with the two kinds of ends that it joins. -/
structure FrameQueue where
  /-- The most frames that may be queued. -/
  capacity : Nat
  /-- The writers that are left. -/
  writers : List Nat
  /-- The number that the next writer gets. -/
  nextWriter : Nat
  /-- The reader is still there. -/
  hasReader : Bool
  /-- The frames put in and not yet taken out, in order. -/
  queued : List Frame
deriving DecidableEq, Repr

namespace FrameQueue

/-- An empty queue with one writer, whose number is 0. It has room for at least one frame. -/
def create (capacity : Nat) : FrameQueue :=
  ⟨max capacity 1, [0], 1, true, []⟩

/-- The most frames that a queue can have room for. -/
def maxCapacity : Nat := wordBound / 8 - 1

/-- An empty queue as `create` makes it, if there can be one. -/
def create? (capacity : Nat) : Option FrameQueue :=
  if capacity ≤ maxCapacity then some (create capacity) else none

/-- One use of an end of the queue. -/
inductive Step
  | write (writer : Nat) (bytes : Bytes)
  | flush (writer : Nat)
  /-- Makes another writer. -/
  | clone (writer : Nat)
  /-- Puts an error in and gives the writer up. -/
  | abort (writer : Nat) (e : IoError)
  | dropWriter (writer : Nat)
  | dropReader
  | poll
deriving DecidableEq, Repr

/-- What a step comes to. -/
inductive Outcome
  /-- All the bytes were taken. -/
  | written (count : Nat)
  /-- The end had nothing to report. -/
  | done
  /-- There is another writer. -/
  | cloned (writer : Nat)
  /-- The bytes were not taken. -/
  | failed (e : IoError)
  /-- The step has to wait until a frame is taken out. -/
  | blocked
  /-- A frame was taken out. -/
  | item (frame : Frame)
  /-- There is no frame, but one may still come. -/
  | pending
  /-- There is no frame and none will come. -/
  | ended
deriving DecidableEq, Repr

/-- There is no room for another frame. -/
def IsFull (q : FrameQueue) : Prop :=
  q.capacity ≤ q.queued.length

instance (q : FrameQueue) : Decidable q.IsFull :=
  inferInstanceAs (Decidable (_ ≤ _))

/-- Puts a frame in. -/
def push (frame : Frame) (q : FrameQueue) : FrameQueue :=
  { q with queued := q.queued ++ [frame] }

/-- Gives a writer up. -/
def dropWriter (writer : Nat) (q : FrameQueue) : FrameQueue :=
  { q with writers := q.writers.erase writer }

/-- Puts in bytes; no bytes make no frame. -/
def write (bytes : Bytes) (q : FrameQueue) : Outcome × FrameQueue :=
  if bytes = [] then (.written 0, q)
  else if q.hasReader = false then (.failed .disconnected, q)
  else if q.IsFull then (.blocked, q)
  else (.written bytes.length, q.push (.data bytes))

/-- Puts in an error and gives the writer up. -/
def abort (writer : Nat) (e : IoError) (q : FrameQueue) : Outcome × FrameQueue :=
  if q.hasReader = false then (.done, q.dropWriter writer)
  else if q.IsFull then (.blocked, q)
  else (.done, (q.push (.failure e)).dropWriter writer)

/-- Adds a writer. -/
def clone (q : FrameQueue) : Outcome × FrameQueue :=
  (.cloned q.nextWriter,
    { q with writers := q.writers ++ [q.nextWriter], nextWriter := q.nextWriter + 1 })

/-- Takes out the frame that was put in first. -/
def poll (q : FrameQueue) : Outcome × FrameQueue :=
  match q.queued with
  | frame :: rest => (.item frame, { q with queued := rest })
  | [] => (if q.writers = [] then .ended else .pending, q)

/-- The end that a step uses is there. -/
def Serves (q : FrameQueue) : Step → Prop
  | .write w _ | .flush w | .clone w | .abort w _ | .dropWriter w => w ∈ q.writers
  | .dropReader | .poll => q.hasReader = true

instance (q : FrameQueue) : (step : Step) → Decidable (q.Serves step)
  | .write _ _ | .flush _ | .clone _ | .abort _ _ | .dropWriter _ =>
    inferInstanceAs (Decidable (_ ∈ _))
  | .dropReader | .poll => inferInstanceAs (Decidable (_ = _))

/-- What a step does if its end is there. -/
def act (q : FrameQueue) : Step → Outcome × FrameQueue
  | .write _ bytes => q.write bytes
  | .flush _ => (.done, q)
  | .clone _ => q.clone
  | .abort w e => q.abort w e
  | .dropWriter w => (.done, q.dropWriter w)
  | .dropReader => (.done, { q with hasReader := false, queued := [] })
  | .poll => q.poll

/-- Makes a step; nothing comes of one whose end is gone. -/
def step? (step : Step) (q : FrameQueue) : Option (Outcome × FrameQueue) :=
  if q.Serves step then some (q.act step) else none

end FrameQueue

end Depot
