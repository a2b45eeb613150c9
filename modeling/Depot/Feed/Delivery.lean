import Depot.Body.Shape
import Depot.Diagnostic
import Depot.Feed.Buffered
import Depot.Feed.Queue

/-!
# Deliveries

A delivery writes a body into a frame queue while the connection takes the frames out. `Delivery.of` says
which frames are put in, in order: the bytes that reach the queue through a buffer, and, if the body could
not be completed, one error after all of them. `Delivery.received` is what the connection makes of the
frames.
-/

namespace Depot

/-- The end of a frame queue at which a body is put in; it waits when the queue is full. The reader stays
for a number of frames, or until the end. -/
structure Feed where
  /-- The pieces put in so far. -/
  sent : Array Bytes := #[]
  /-- After how many pieces the reader goes away; nothing means never. -/
  patience : Option Nat := none

namespace Feed

/-- The reader is gone. -/
def isAbandoned (f : Feed) : Bool :=
  match f.patience with
  | none => false
  | some most => most ≤ f.sent.size

/-- Puts in a piece; no bytes make no piece. -/
def writeAll (piece : Bytes) (f : Feed) : Except IoError Unit × Feed :=
  if piece = [] then (.ok (), f)
  else if f.isAbandoned then (.error .disconnected, f)
  else (.ok (), { f with sent := f.sent.push piece })

instance : Outlet Feed where
  writeAll := writeAll
  flush f := (.ok (), f)

end Feed

/-- A body written into a frame queue. -/
structure Delivery where
  /-- The number of artifact bytes written, or what stopped the writing. -/
  outcome : Except StreamError Nat
  /-- The pieces put in, in order. -/
  sent : List Bytes
  /-- The number of artifact bytes asked for. -/
  requested : Nat
  /-- The progress reports, in order. -/
  events : List Progress.Event
  /-- What is left of the source. -/
  source : Source

namespace Delivery

/-- Writes a body through a buffer; what the buffer holds at the end is put in as well. -/
def of (shape : Shape) (source : Source) (patience : Option Nat := none) : Delivery :=
  let run := shape.write source ({ inner := { patience := patience } } : Buffered Feed)
  { outcome := run.outcome
    sent := run.outlet.close.sent.toList
    requested := shape.requested
    events := run.events
    source := run.source }

/-- The error that cuts a body off. -/
def abortError (e : StreamError) : IoError :=
  ⟨.other, e.message⟩

/-- The frames put in, in order. -/
def frames (d : Delivery) : List Frame :=
  d.sent.map .data ++ match d.outcome with
    | .ok _ => []
    | .error e => [.failure (abortError e)]

/-- A step of the task that sends a delivery. -/
inductive Step
  /-- Uses the frame queue. -/
  | use (step : FrameQueue.Step)
  /-- Writes the access line. -/
  | record
deriving DecidableEq, Repr

/-- The steps of the task that sends a delivery through a queue with two writers: the first puts in the pieces
and is given up. If the body is complete, the second is given up behind the access line; otherwise it puts in
the error, and the access line comes last. -/
def steps (d : Delivery) : List Step :=
  d.sent.map (fun piece => .use (.write 0 piece)) ++ .use (.dropWriter 0) :: match d.outcome with
    | .ok _ => [.record, .use (.dropWriter 1)]
    | .error e => [.use (.abort 1 (abortError e)), .record]

/-- The sum of the progress reports. -/
def shipment (d : Delivery) : Shipment :=
  ({ requested := d.requested } : Shipment).noteAll d.events

/-- What is noted about a delivery, in order. -/
def notes (name : String) (d : Delivery) : List Diagnostic :=
  d.events.map (fun event => ⟨.debug, "file (" ++ name ++ ") shipped " ++ decimal event.total ++ " of "
      ++ decimal event.requested ++ " bytes"⟩)
    ++ match d.outcome with
      | .ok written =>
        [⟨.info, "file (" ++ name ++ ") sent " ++ decimal written ++ " bytes in "
          ++ decimal d.shipment.events ++ " progress events"⟩]
      | .error e =>
        [⟨.error, "streaming of file (" ++ name ++ ") failed: " ++ e.message⟩,
          ⟨.warn, "file (" ++ name ++ ") aborted after " ++ decimal d.shipment.shipped ++ " of "
            ++ decimal d.shipment.requested ++ " bytes (" ++ decimal d.shipment.percent ++ "%)"⟩]

end Delivery

/-- The bytes of some frames up to the first error, and that error. -/
def readFrames : List Frame → Bytes × Option IoError
  | [] => ([], none)
  | .failure e :: _ => ([], some e)
  | .data bytes :: rest => ((bytes ++ (readFrames rest).1), (readFrames rest).2)

/-- What the connection gets: bytes, and the error that cuts them off, if there is one. -/
def Delivery.received (d : Delivery) : Bytes × Option IoError :=
  readFrames d.frames

end Depot
