import Depot.Digest.Sha256
import Depot.Files.Handle
import Depot.Files.Path
import Depot.Store.Lookup

/-!
# Archives

An archive hands out the regular files of one directory of a file tree. A name may not lead anywhere else:
names with separators and the two dot names are refused before the tree is touched. The hash of a content
is remembered under the name, together with the size and the moment of the last change, and is computed
again only when one of the two differs. The archive keeps a record of what it opened.
-/

namespace Depot

/-- The hash of a content that a name once had. -/
structure Remembered where
  size : Nat
  modified : Moment
  hash : String
deriving DecidableEq, Repr

/-- A directory whose files are handed out. -/
structure Archive where
  /-- The file tree. -/
  top : Node
  /-- Where the directory is. -/
  root : Place
  /-- The hashes of earlier contents, by name. -/
  remembered : List (String × Remembered) := []
  /-- The places of everything opened so far, the latest first. -/
  opened : List Place := []

namespace Archive

/-- A name that may be looked up. -/
def IsName (name : String) : Prop :=
  name ≠ "" ∧ name ≠ "." ∧ name ≠ ".."
    ∧ '/' ∉ name.toList ∧ '\\' ∉ name.toList ∧ '\x00' ∉ name.toList

instance (name : String) : Decidable (IsName name) :=
  inferInstanceAs (Decidable (_ ∧ _ ∧ _ ∧ _ ∧ _ ∧ _))

/-- The hash that is remembered for a name. -/
def rememberedFor? (name : String) (a : Archive) : Option Remembered :=
  (a.remembered.find? fun r => r.1 = name).map Prod.snd

/-- Remembers a hash for a name in place of an earlier one. -/
def remember (name : String) (r : Remembered) (a : Archive) : Archive :=
  { a with remembered := (name, r) :: a.remembered.filter fun other => other.1 ≠ name }

/-- Forgets all hashes. -/
def forgetful (a : Archive) : Archive :=
  { a with remembered := [] }

/-- The hash remembered for a name still stands for a file of this size and last change. -/
def known? (name : String) (size : Nat) (modified : Moment) (a : Archive) : Option String :=
  match a.rememberedFor? name with
  | some r => if r.size = size ∧ r.modified = modified then some r.hash else none
  | none => none

/-- The description of a file. -/
def artifactOf (size : Nat) (modified : Moment) (hash : String) : Artifact :=
  ⟨size, hash, some modified⟩

/-- Describes an open file by its content and last change. The content is read only if its hash is not
remembered, and then the file is wound back. -/
def describeFile (name : String) (file : Handle) (a : Archive) : Artifact × Handle × Archive :=
  let size := file.content.length
  match a.known? name size file.modified with
  | some hash => (artifactOf size file.modified hash, file, a)
  | none =>
    let (content, read) := file.readToEnd
    let hash := Sha256.hex content
    (artifactOf size file.modified hash, read.rewind, a.remember name ⟨size, file.modified, hash⟩)

/-- The failure of a lookup that could not open anything. -/
def openError (name : String) (e : IoError) : StoreError :=
  if e.kind = .notFound then .notFound name else .io e

/-- The path of a name inside the directory. -/
def pathOf (a : Archive) (name : String) : String :=
  String.join (a.root.map fun part => "/" ++ part) ++ "/" ++ name

/-- The place of what a name leads to. -/
def locate (name : String) (a : Archive) : Except StoreError Place :=
  if IsName name then
    match a.top.locate [] (a.pathOf name) with
    | .ok place => .ok place
    | .error e => .error (openError name e)
  else .error (.invalidName name)

/-- Opens what a name leads to and describes it if it is a regular file. -/
def inspect (name : String) (a : Archive) : Except StoreError (Handle × Artifact) × Archive :=
  match a.locate name with
  | .error e => (.error e, a)
  | .ok place =>
    let a := { a with opened := place :: a.opened }
    match a.top.at? place with
    | some (.file content modified) =>
      let (artifact, file, a) := a.describeFile name ⟨content, modified, 0⟩
      (.ok (file, artifact), a)
    | _ => (.error (.notFound name), a)

/-- A hash has to be computed to describe the file of a name. -/
def hashesAnew (name : String) (a : Archive) : Bool :=
  match a.locate name with
  | .error _ => false
  | .ok place =>
    match a.top.at? place with
    | some (.file content modified) => (a.known? name content.length modified).isNone
    | _ => false

/-- Describes the artifact of a name. -/
def describe (name : String) (a : Archive) : Lookup Artifact × Archive :=
  let (result, a) := a.inspect name
  (.ofExcept (result.map Prod.snd), a)

/-- Describes the artifact of a name and hands out the open file. -/
def fetch (name : String) (a : Archive) : Lookup (Artifact × Source) × Archive :=
  let (result, a) := a.inspect name
  (.ofExcept (result.map fun (file, artifact) => (artifact, file.source)), a)

/-- What is noted while the artifact of a name is described. -/
def notes (name : String) (a : Archive) : List Diagnostic :=
  if a.hashesAnew name then [⟨.debug, "Hashing artifact '" ++ name ++ "'"⟩] else []

instance : Store Archive where
  describe := describe
  fetch := fetch
  notes := notes

/-! ## Changes to the directory -/

/-- Puts something under a name of the directory, or takes away what is there. -/
def setNode (name : String) (node : Option Node) (a : Archive) : Archive :=
  { a with top := a.top.set (a.root ++ [name]) node }

/-- Writes a file. -/
def write (name : String) (content : Bytes) (modified : Moment) (a : Archive) : Archive :=
  a.setNode name (some (.file content modified))

/-- Changes the moment of the last change of a file. -/
def touch (name : String) (modified : Moment) (a : Archive) : Archive :=
  match a.top.at? (a.root ++ [name]) with
  | some (.file content _) => a.write name content modified
  | _ => a

/-- Takes a file away. -/
def remove (name : String) (a : Archive) : Archive :=
  a.setNode name none

/-- Makes a directory, unless something of the name is there. -/
def makeDirectory (name : String) (a : Archive) : Archive :=
  match a.top.at? (a.root ++ [name]) with
  | some _ => a
  | none => a.setNode name (some .empty)

end Archive

end Depot
