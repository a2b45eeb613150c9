import Depot.Number.Power
import Depot.Text.Decimal

/-!
# Progress of a download

A window that is copied reports a `Progress.Event` whenever the share shipped enters a new tenth, and once
when it is complete. `Tally` is the count kept while one window is copied; `Shipment` adds up the events
of a whole download, whose windows each start their count anew.
-/

namespace Depot

/-- The share of `part` in `whole` in whole percent, at most `2 ^ 64 - 1`; an empty whole is complete. -/
def percentOf (part whole : Nat) : Nat :=
  if whole = 0 then 100 else min (part * 100 / whole) (wordBound - 1)

namespace Progress

/-- What one report on a window says. -/
structure Event where
  /-- The length of the window. -/
  requested : Nat
  /-- The bytes shipped since the report before. -/
  sinceLast : Nat
  /-- The bytes of the window shipped so far. -/
  total : Nat
deriving DecidableEq, Repr

/-- The least rise between two reports, in percent. -/
def step : Nat := 10

end Progress

/-- The count kept while one window is copied. -/
structure Tally where
  /-- The bytes of the window shipped so far. -/
  shipped : Nat := 0
  /-- The bytes shipped since the last report. -/
  sinceLast : Nat := 0
  /-- The percentage at the last report. -/
  reported : Nat := 0
  /-- The reports made so far, in order. -/
  events : List Progress.Event := []
deriving DecidableEq, Repr

namespace Tally

/-- Adds a report on everything shipped since the last one. -/
def report (length : Nat) (t : Tally) : Tally :=
  { t with
    sinceLast := 0
    reported := percentOf t.shipped length
    events := t.events ++ [⟨length, t.sinceLast, t.shipped⟩] }

/-- A report is due: the window is complete, or its share has entered a new tenth. -/
def Due (length : Nat) (t : Tally) : Prop :=
  t.shipped = length ∨ t.reported / Progress.step < percentOf t.shipped length / Progress.step

instance (length : Nat) (t : Tally) : Decidable (t.Due length) :=
  inferInstanceAs (Decidable (_ ∨ _))

/-- Counts `count` more bytes of a window of `length` bytes. -/
def ship (length count : Nat) (t : Tally) : Tally :=
  let counted := { t with shipped := t.shipped + count, sinceLast := t.sinceLast + count }
  if counted.Due length then counted.report length else counted

/-- Reports what is still unreported at the end of a window that was not complete. -/
def close (length : Nat) (t : Tally) : Tally :=
  if 0 < t.sinceLast then t.report length else t

end Tally

/-- The running sum of the events of a download. -/
structure Shipment where
  /-- The bytes that the download is to carry. -/
  requested : Nat
  shipped : Nat := 0
  /-- The number of events. -/
  events : Nat := 0
deriving DecidableEq, Repr

namespace Shipment

/-- Adds one event. -/
def note (s : Shipment) (event : Progress.Event) : Shipment :=
  { s with shipped := s.shipped + event.sinceLast, events := s.events + 1 }

/-- Adds events in order. -/
def noteAll (s : Shipment) (events : List Progress.Event) : Shipment :=
  events.foldl note s

/-- The share shipped, in whole percent. -/
def percent (s : Shipment) : Nat :=
  percentOf s.shipped s.requested

/-- Everything requested was shipped. -/
def isComplete (s : Shipment) : Bool :=
  s.requested ≤ s.shipped

end Shipment

end Depot
