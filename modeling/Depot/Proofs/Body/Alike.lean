import Depot.Body.Shape

/-!
# Outlets that answer alike

What is written to an outlet depends on the outlet only through its answers. If two kinds of outlets are
related so that they answer alike and stay related (`Outlet.Alike`), then a body that is written to both has
the same outcome, leaves the same source and makes the same reports, and the outlets stay related
(`Shape.write_alike`). This carries a fact about sinks over to any outlet that behaves like one.
-/

namespace Depot

variable {σ τ : Type} {related : σ → τ → Prop}

/-- Two runs that differ only in their outlets, which are related. -/
structure CopyRun.Alike (related : σ → τ → Prop) (left : CopyRun σ) (right : CopyRun τ) : Prop where
  outcome : left.outcome = right.outcome
  source : left.source = right.source
  outlet : related left.outlet right.outlet
  events : left.events = right.events

variable [Outlet σ] [Outlet τ]

/-- Related outlets give the same answers and stay related. -/
structure Outlet.Alike (related : σ → τ → Prop) : Prop where
  writeAll : ∀ {left : σ} {right : τ}, related left right → ∀ bytes, ∃ answer left' right',
    Outlet.writeAll bytes left = (answer, left') ∧ Outlet.writeAll bytes right = (answer, right') ∧
      related left' right'
  flush : ∀ {left : σ} {right : τ}, related left right → ∃ answer left' right',
    Outlet.flush left = (answer, left') ∧ Outlet.flush right = (answer, right') ∧
      related left' right'

/-! ## Windows -/

theorem copyRest_alike (alike : Outlet.Alike related) (length : Nat) (tally : Tally)
    (source : Source) {left : σ} {right : τ} (holds : related left right) :
    (copyRest length tally source left).Alike related (copyRest length tally source right) := by
  fun_induction copyRest length tally source left generalizing right with
  | case1 tally source left full =>
    rw [copyRest_eq length tally source right, if_pos full]
    exact ⟨rfl, rfl, holds, rfl⟩
  | case2 tally source left wanted e source' result _ interrupted ih =>
    rw [copyRest_eq length tally source right, if_neg wanted, result]
    simp only [if_pos interrupted]
    exact ih holds
  | case3 tally source left wanted e source' result _ fatal =>
    rw [copyRest_eq length tally source right, if_neg wanted, result]
    simp only [if_neg fatal]
    exact ⟨rfl, rfl, holds, rfl⟩
  | case4 tally source left wanted source' result =>
    rw [copyRest_eq length tally source right, if_neg wanted, result]
    exact ⟨rfl, rfl, holds, rfl⟩
  | case5 tally source left wanted chunk source' result moved _ e left' written =>
    obtain ⟨answer, _, right', same, written', stays⟩ := alike.writeAll holds chunk
    rw [written] at same
    cases same
    rw [copyRest_eq length tally source right, if_neg wanted, result]
    simp only [if_neg moved, written']
    exact ⟨rfl, rfl, stays, rfl⟩
  | case6 tally source left wanted chunk source' result moved _ left' written ih =>
    obtain ⟨answer, _, right', same, written', stays⟩ := alike.writeAll holds chunk
    rw [written] at same
    cases same
    rw [copyRest_eq length tally source right, if_neg wanted, result]
    simp only [if_neg moved, written']
    exact ih stays

theorem copyBody_alike (alike : Outlet.Alike related) (length : Nat) (source : Source) {left : σ}
    {right : τ} (holds : related left right) :
    (copyBody length source left).Alike related (copyBody length source right) := by
  unfold copyBody
  split
  · exact ⟨rfl, rfl, holds, rfl⟩
  · exact copyRest_alike alike length {} source holds

theorem copyWindow_alike (alike : Outlet.Alike related) (skip length : Nat) (source : Source)
    {left : σ} {right : τ} (holds : related left right) :
    (copyWindow skip length source left).Alike related (copyWindow skip length source right) := by
  unfold copyWindow
  split
  · exact ⟨rfl, rfl, holds, rfl⟩
  · split
    · exact ⟨rfl, rfl, holds, rfl⟩
    · exact copyBody_alike alike length _ holds

/-! ## Bodies -/

namespace Shape

theorem writeParts_alike (alike : Outlet.Alike related) (windows : List Window) (isFirst : Bool)
    (position shipped : Nat) (events : List Progress.Event) (source : Source) {left : σ} {right : τ}
    (holds : related left right) :
    (writeParts isFirst position shipped events source left windows).Alike related
      (writeParts isFirst position shipped events source right windows) := by
  induction windows generalizing isFirst position shipped events source left right with
  | nil =>
    obtain ⟨answer, left', right', written, written', stays⟩ :=
      alike.writeAll holds Multipart.closing
    unfold writeParts
    rw [written, written']
    cases answer with
    | error e => exact ⟨rfl, rfl, stays, rfl⟩
    | ok => exact ⟨rfl, rfl, stays, rfl⟩
  | cons w later ih =>
    obtain ⟨answer, left', right', written, written', stays⟩ :=
      alike.writeAll holds (Multipart.partHeader isFirst w)
    unfold writeParts
    rw [written, written']
    cases answer with
    | error e => exact ⟨rfl, rfl, stays, rfl⟩
    | ok =>
      have copied := copyWindow_alike alike (w.first - position) w.length source stays
      simp only [copied.outcome, copied.source, copied.events]
      split
      · exact ⟨rfl, rfl, copied.outlet, rfl⟩
      · exact ih false _ _ _ _ copied.outlet

theorem writeContent_alike (alike : Outlet.Alike related) (shape : Shape) (source : Source) {left : σ}
    {right : τ} (holds : related left right) :
    (shape.writeContent source left).Alike related (shape.writeContent source right) := by
  cases shape with
  | whole length => exact copyWindow_alike alike 0 length source holds
  | single window => exact copyWindow_alike alike window.first window.length source holds
  | parts windows => exact writeParts_alike alike windows.windows true 0 0 [] source holds
  | unsatisfiable => exact ⟨rfl, rfl, holds, rfl⟩

/-- A body that is written to related outlets ends alike. -/
theorem write_alike (alike : Outlet.Alike related) (shape : Shape) (source : Source) {left : σ}
    {right : τ} (holds : related left right) :
    (shape.write source left).Alike related (shape.write source right) := by
  have content := writeContent_alike alike shape source holds
  obtain ⟨answer, left', right', flushed, flushed', stays⟩ := alike.flush content.outlet
  unfold write
  simp only [content.outcome, flushed, flushed']
  split
  · exact content
  · cases answer with
    | error e => exact ⟨rfl, content.source, stays, content.events⟩
    | ok => exact ⟨rfl, content.source, stays, content.events⟩

end Shape

end Depot
