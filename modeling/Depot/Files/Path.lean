import Depot.Files.Tree
import Depot.IoError

/-!
# Paths

A path is a text in which slashes set names apart. A path that begins with a slash leads from the top of
the tree; an empty name and a single dot lead nowhere, two dots lead to the directory above, and above the
top there is only the top. `Node.locate` follows a path to something that exists.
-/

namespace Depot

/-- The most bytes that a name may have. -/
def maxNameLength : Nat := 255

/-- The names of a path, with the empty ones between and after slashes. -/
def pathNames (path : String) : List String :=
  (path.toList.splitOn '/').map String.ofList

namespace Node

/-- Goes on from a directory to what it holds under a name. -/
def step (top : Node) (place : Place) (name : String) : Except IoError Place :=
  match top.at? place with
  | none => .error .missing
  | some (file _ _) => .error .notADirectory
  | some (directory entries) =>
    if name = "" ∨ name = "." then .ok place
    else if name = ".." then .ok place.dropLast
    else if maxNameLength < (utf8 name).length then .error .nameTooLong
    else if (entryOf? name entries).isSome then .ok (place ++ [name])
    else .error .missing

/-- Goes on through several names. -/
def walk (top : Node) : Place → List String → Except IoError Place
  | place, [] => .ok place
  | place, name :: rest =>
    match top.step place name with
    | .ok next => top.walk next rest
    | .error e => .error e

/-- Where a path leads; one that does not begin with a slash leads from the place `base`. -/
def locate (top : Node) (base : Place) (path : String) : Except IoError Place :=
  if path.toList.contains '\x00' then .error .nullInPath
  else if path = "" then .error .missing
  else top.walk (if path.toList.head? = some '/' then [] else base) (pathNames path)

/-- The place of a directory that names lead to. -/
def directoryAt? (top : Node) (base : Place) (names : List String) : Option Place :=
  match top.walk base names with
  | .ok place => if ((top.at? place).map isDirectory).getD false then some place else none
  | .error _ => none

/-- Makes a directory under the last of some names. The names before it must lead to a directory, and there
must be nothing of the last name there. -/
def makeDirectory (base : Place) (names : List String) (top : Node) : Except IoError Place × Node :=
  let name := names.getLastD ""
  match top.walk base names.dropLast with
  | .error e => (.error e, top)
  | .ok place =>
    match top.step place name with
    | .ok _ => (.error .alreadyExists, top)
    | .error e =>
      if e = .missing then (.ok (place ++ [name]), top.set (place ++ [name]) (some empty))
      else (.error e, top)

/-- Makes a directory under the last of some names unless there is one. -/
def ensureDirectory (base : Place) (names : List String) (top : Node) : Except IoError Place × Node :=
  match top.makeDirectory base names with
  | (.ok place, top') => (.ok place, top')
  | (.error e, _) =>
    match top.directoryAt? base names with
    | some place => (.ok place, top)
    | none => (.error e, top)

/-- Makes the directories that names lead through, as far as they are missing. The last one is tried
first; those before it are made only if it cannot be made for want of them. -/
def makeDirectories (base : Place) (names : List String) (top : Node) : Except IoError Place × Node :=
  match names with
  | [] => (.ok base, top)
  | first :: rest =>
    match top.ensureDirectory base (first :: rest) with
    | (.error e, top') =>
      if e = .missing then
        match makeDirectories base (first :: rest).dropLast top' with
        | (.ok _, made) => made.ensureDirectory base (first :: rest)
        | (.error e, made) => (.error e, made)
      else (.error e, top')
    | answer => answer
termination_by names.length
decreasing_by simp

end Node

end Depot
