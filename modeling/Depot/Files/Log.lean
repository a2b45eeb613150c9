import Depot.Files.Path

/-!
# Log files

A log file is made when it is first written to, together with the directories that lead to it. Text is
only ever added at its end.
-/

namespace Depot

namespace Node

/-- The names of a path that lead somewhere. -/
def stepsOf (path : String) : List String :=
  (pathNames path).filter fun name => name ≠ "" ∧ name ≠ "."

/-- The names of a path without the empty ones that slashes at its end leave behind. -/
def namesWithoutEnd (path : String) : List String :=
  ((pathNames path).reverse.dropWhile fun name => name = "").reverse

/-- Adds text to the file of a name in a directory; the file is made if there is none. -/
def appendIn (now : Moment) (place : Place) (name : String) (text : Bytes) (top : Node) :
    Except IoError Place × Node :=
  match top.step place name with
  | .ok next =>
    match top.at? next with
    | some (file content _) => (.ok next, top.set next (some (file (content ++ text) now)))
    | _ => (.error .isADirectory, top)
  | .error e =>
    if e = .missing then
      (.ok (place ++ [name]), top.set (place ++ [name]) (some (file text now)))
    else (.error e, top)

/-- Opens the file of a path below `base` and adds text to it. What leads to the file must be a directory,
so the walk there ends with a single dot. A path that ends in a slash names a directory, not a file. -/
def append (now : Moment) (base : Place) (path : String) (text : Bytes) (top : Node) :
    Except IoError Place × Node :=
  if path.toList.contains '\x00' then (.error .nullInPath, top)
  else
    match top.makeDirectories base (stepsOf path).dropLast with
    | (.error e, top') => (.error e, top')
    | (.ok _, top') =>
      let names := namesWithoutEnd path
      match top'.walk base (names.dropLast ++ ["."]) with
      | .error e => (.error e, top')
      | .ok place =>
        if (pathNames path).getLast? = some "" then (.error .isADirectory, top')
        else top'.appendIn now place (names.getLastD "") text

/-- The content of the file at a place. -/
def contentAt (place : Place) (top : Node) : Bytes :=
  match top.at? place with
  | some (file content _) => content
  | _ => []

end Node

end Depot
