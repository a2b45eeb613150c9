import Depot.Store.Lookup

/-!
# Shelves

A shelf is a store in memory. It checks no names: what was put under a name is what is found there. Every
time an artifact is opened its source starts anew.
-/

namespace Depot

/-- What is found under a name of a shelf. -/
inductive ShelfItem
  | kept (artifact : Artifact) (source : Source)
  | refusing (e : StoreError)
  | crashing

/-- Artifacts by name. -/
structure Shelf where
  items : List (String × ShelfItem) := []

namespace Shelf

/-- What was put under a name. -/
def item? (name : String) (s : Shelf) : Option ShelfItem :=
  (s.items.find? fun i => i.1 = name).map Prod.snd

/-- Puts an item under a name, in place of what is there. -/
def put (name : String) (item : ShelfItem) (s : Shelf) : Shelf :=
  ⟨(name, item) :: s.items.filter fun i => i.1 ≠ name⟩

/-- The artifact of a name and its source. -/
def find (name : String) (s : Shelf) : Lookup (Artifact × Source) :=
  match s.item? name with
  | some (.kept artifact source) => .found (artifact, source)
  | some (.refusing e) => .refused e
  | some .crashing => .crashed
  | none => .refused (.notFound name)

/-- The description of the artifact of a name. -/
def describe (name : String) (s : Shelf) : Lookup Artifact :=
  match s.find name with
  | .found (artifact, _) => .found artifact
  | .refused e => .refused e
  | .crashed => .crashed

instance : Store Shelf where
  describe name s := (s.describe name, s)
  fetch name s := (s.find name, s)
  notes _ _ := []

end Shelf

end Depot
