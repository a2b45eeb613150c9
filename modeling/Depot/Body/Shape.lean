import Depot.Body.Multipart
import Depot.Stream.Copy

/-!
# Shapes of a body

The body of a download is the whole artifact, one window, several windows in parts, or nothing because no
window could be served. `Shape.body` says which bytes that is for a given content; `Shape.write` produces
them from a source that is read once, in order.
-/

namespace Depot

/-- What the body of a download holds. -/
inductive Shape
  /-- All bytes of the artifact. -/
  | whole (length : Nat)
  /-- One window. -/
  | single (window : Window)
  /-- Several windows, each in a part. -/
  | parts (windows : WindowSet)
  /-- Nothing: no window could be served. -/
  | unsatisfiable
deriving DecidableEq, Repr

namespace Shape

/-- The status of an answer with a body of this shape. -/
def status : Shape → Nat
  | whole _ => 200
  | single _ | parts _ => 206
  | unsatisfiable => 416

/-- The number of artifact bytes in the body. -/
def requested : Shape → Nat
  | whole length => length
  | single window => window.length
  | parts windows => windows.length
  | unsatisfiable => 0

/-- The complete body for an artifact with the given content. -/
def body (content : Bytes) : Shape → Bytes
  | whole _ => content
  | single window => Bytes.slice content window.first window.last
  | parts windows => Multipart.body content windows.windows
  | unsatisfiable => []

section Write

variable {σ : Type} [Outlet σ]

/-- Writes the parts of some windows and the closing delimiter. The source has been read up to
`position`, and `shipped` counts the artifact bytes written before. -/
def writeParts (isFirst : Bool) (position shipped : Nat) (events : List Progress.Event)
    (source : Source) (outlet : σ) : List Window → CopyRun σ
  | [] =>
    match Outlet.writeAll Multipart.closing outlet with
    | (.error e, outlet') => ⟨.error (.io e), source, outlet', events⟩
    | (.ok (), outlet') => ⟨.ok shipped, source, outlet', events⟩
  | w :: rest =>
    match Outlet.writeAll (Multipart.partHeader isFirst w) outlet with
    | (.error e, outlet') => ⟨.error (.io e), source, outlet', events⟩
    | (.ok (), outlet') =>
      let run := copyWindow (w.first - position) w.length source outlet'
      match run.outcome with
      | .error e => ⟨.error e, run.source, run.outlet, events ++ run.events⟩
      | .ok count =>
        writeParts false (w.last + 1) (shipped + count) (events ++ run.events) run.source run.outlet rest

/-- Writes the body without passing on what the outlet holds back. -/
def writeContent (shape : Shape) (source : Source) (outlet : σ) : CopyRun σ :=
  match shape with
  | whole length => copyWindow 0 length source outlet
  | single window => copyWindow window.first window.length source outlet
  | parts windows => writeParts true 0 0 [] source outlet windows.windows
  | unsatisfiable => ⟨.ok 0, source, outlet, []⟩

/-- Writes the body and, if all of it was written, flushes the outlet once. -/
def write (shape : Shape) (source : Source) (outlet : σ) : CopyRun σ :=
  let run := shape.writeContent source outlet
  match run.outcome with
  | .error _ => run
  | .ok count =>
    match Outlet.flush run.outlet with
    | (.error e, outlet') => { run with outcome := .error (.io e), outlet := outlet' }
    | (.ok (), outlet') => { run with outcome := .ok count, outlet := outlet' }

end Write

end Shape

end Depot
