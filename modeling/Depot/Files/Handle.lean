import Depot.Files.Tree
import Depot.Stream.Source

/-!
# Open files

A handle holds what a file held when it was opened, and how far it has been read since. Whoever reads through
a handle moves it, so it must be wound back before it is handed on.
-/

namespace Depot

/-- An open file. -/
structure Handle where
  content : Bytes
  modified : Moment
  /-- The number of bytes read so far. -/
  position : Nat := 0
deriving DecidableEq, Repr

namespace Handle

/-- Reads everything that is left. -/
def readToEnd (h : Handle) : Bytes × Handle :=
  (h.content.drop h.position, { h with position := max h.position h.content.length })

/-- Goes back to the first byte. -/
def rewind (h : Handle) : Handle :=
  { h with position := 0 }

/-- What is left of the file, as a source. -/
def source (h : Handle) : Source :=
  { rest := h.content.drop h.position, position := h.position }

end Handle

end Depot
