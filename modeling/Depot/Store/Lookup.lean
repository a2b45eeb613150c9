import Depot.Artifact
import Depot.Diagnostic
import Depot.IoError
import Depot.Stream.Source

/-!
# Looking up artifacts

A `Store` describes and hands out artifacts by name. It may refuse a name, fail, or break down; only the
first is the same to a client as a name that is not there.
-/

namespace Depot

/-- Why a store does not hand out an artifact. -/
inductive StoreError
  | notFound (name : String)
  | invalidName (name : String)
  | io (e : IoError)
deriving DecidableEq, Repr

namespace StoreError

/-- The text that reports the failure. -/
def message : StoreError → String
  | notFound name => "artifact not found: " ++ name
  | invalidName name => "invalid artifact name: " ++ name
  | io e => "artifact store I/O failed: " ++ e.message

/-- To a client, the artifact does not exist. -/
def isNotFound : StoreError → Bool
  | notFound _ | invalidName _ => true
  | io _ => false

end StoreError

/-- How looking up an artifact turns out. -/
inductive Lookup (α : Type)
  | found (value : α)
  | refused (e : StoreError)
  /-- The store broke down before it could answer. -/
  | crashed
deriving Repr

/-- The answer of a lookup that does not break down. -/
def Lookup.ofExcept {α : Type} : Except StoreError α → Lookup α
  | .ok value => found value
  | .error e => refused e

/-- A place where artifacts are kept. -/
class Store (σ : Type) where
  /-- Describes the artifact of a name. -/
  describe : String → σ → Lookup Artifact × σ
  /-- Describes the artifact of a name and opens it at its first byte. -/
  fetch : String → σ → Lookup (Artifact × Source) × σ
  /-- What is noted while an artifact is described or opened. -/
  notes : String → σ → List Diagnostic

end Depot
