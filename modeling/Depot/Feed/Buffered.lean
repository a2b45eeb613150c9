import Depot.Stream.Sink

/-!
# Buffered outlets

A `Buffered` outlet collects small pieces and passes them on together. Nothing is lost: the bytes that were
passed on, followed by those still held, are the bytes that were written.
-/

namespace Depot

/-- The most bytes that a buffer holds back. -/
def Buffered.capacity : Nat := 8192

/-- An outlet that holds back up to `Buffered.capacity` bytes. -/
structure Buffered (σ : Type) where
  inner : σ
  /-- The bytes held back. -/
  held : Array UInt8 := #[]

namespace Buffered

variable {σ : Type} [Outlet σ]

/-- Passes on what is held back. -/
def release (b : Buffered σ) : Except IoError Unit × Buffered σ :=
  if b.held.isEmpty then (.ok (), b)
  else
    match Outlet.writeAll b.held.toList b.inner with
    | (.ok (), inner) => (.ok (), ⟨inner, #[]⟩)
    | (.error e, inner) => (.error e, ⟨inner, b.held⟩)

/-- Takes a piece: one that fills the buffer by itself is passed on at once, any other is held. -/
def accept (piece : Bytes) (b : Buffered σ) : Except IoError Unit × Buffered σ :=
  if capacity ≤ piece.length then
    match Outlet.writeAll piece b.inner with
    | (result, inner) => (result, { b with inner := inner })
  else (.ok (), { b with held := b.held ++ piece })

/-- Takes a piece, after what is held back has been passed on if there is no room for both. -/
def writeAll (piece : Bytes) (b : Buffered σ) : Except IoError Unit × Buffered σ :=
  if b.held.size + piece.length ≤ capacity then b.accept piece
  else
    match b.release with
    | (.ok (), b') => b'.accept piece
    | (.error e, b') => (.error e, b')

/-- Passes on what is held back and flushes the outlet behind. -/
def flush (b : Buffered σ) : Except IoError Unit × Buffered σ :=
  match b.release with
  | (.ok (), b') =>
    match Outlet.flush b'.inner with
    | (result, inner) => (result, { b' with inner := inner })
  | (.error e, b') => (.error e, b')

/-- Passes on what is held back, as far as that is possible, and gives the buffer up. -/
def close (b : Buffered σ) : σ :=
  b.release.2.inner

instance : Outlet (Buffered σ) where
  writeAll := writeAll
  flush := flush

end Buffered

end Depot
