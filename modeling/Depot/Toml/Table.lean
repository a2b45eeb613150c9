import Depot.Named
import Depot.Toml.Basic

/-!
# Growing TOML tables

A table grows line by line, and what may still be added to it depends on how it came about: a table under a
header of its own is not opened again and dotted keys do not reach into it; a table that a longer header
passes through may get its own header later; a table that dotted keys made may only get more dotted keys.
Values, among them tables in braces, never grow.
-/

namespace Depot

namespace Toml

/-- How a table came about. -/
inductive Origin
  /-- It has a header of its own, or is the whole document, or an element of an array of tables. -/
  | header
  /-- A longer header passes through it. -/
  | passing
  /-- Dotted keys made it. -/
  | dotted
deriving DecidableEq, Repr

/-- What a name stands for in a growing table. -/
inductive Item
  | value (value : Toml)
  | table (origin : Origin) (members : List (String × Item))
  /-- An array of tables, of which only the last one grows. -/
  | elements (earlier : List Toml) (last : List (String × Item))
deriving Repr

/-- The members of a growing table. -/
abbrev Members := List (String × Item)

mutual

/-- What an item is once nothing more is added. -/
def Item.close : Item → Toml
  | .value v => v
  | .table _ members => .table (closeMembers members)
  | .elements earlier last => .array (earlier ++ [.table (closeMembers last)])

/-- What members are once nothing more is added. -/
def closeMembers : List (String × Item) → List (String × Toml)
  | [] => []
  | (name, item) :: rest => (name, item.close) :: closeMembers rest

end

namespace Members

/-- Changes the table that a path leads to. Tables that are missing on the way are made; dotted paths
lead through no table with a header of its own, and nothing leads through a value. -/
def alter (isDotted : Bool) (change : Origin → Members → Option Members) :
    List String → Origin → Members → Option Members
  | [], origin, members => change origin members
  | name :: path, _, members =>
    match members.lookup name with
    | none =>
      let origin := if isDotted then .dotted else .passing
      (alter isDotted change path origin []).map fun inner =>
        putNamed name (.table origin inner) members
    | some (.value _) => none
    | some (.table origin inner) =>
      if isDotted ∧ origin = .header then none
      else
        (alter isDotted change path origin inner).map fun inner =>
          putNamed name (.table origin inner) members
    | some (.elements earlier last) =>
      (alter isDotted change path .header last).map fun last =>
        putNamed name (.elements earlier last) members

/-- Gives a name a value, unless it has one. -/
def insertNew? (name : String) (v : Toml) (members : Members) : Option Members :=
  if (members.lookup name).isSome then none else some (putNamed name (.value v) members)

/-- Gives a key, whose last part is `name`, a value. -/
def insert? (path : List String) (name : String) (v : Toml) (members : Members) : Option Members :=
  alter true (fun origin members =>
    if path ≠ [] ∧ origin ≠ .dotted then none else insertNew? name v members) path .header members

/-- Opens the table under a header. From then on it stands behind all other members. -/
def openTable? (path : List String) (name : String) (members : Members) : Option Members :=
  alter false (fun _ members =>
    let others := members.filter fun m => m.1 ≠ name
    match members.lookup name with
    | none => some (others ++ [(name, .table .header [])])
    | some (.table .passing inner) => some (others ++ [(name, .table .header inner)])
    | some _ => none) path .header members

/-- Opens the next element of an array of tables. -/
def openElement? (path : List String) (name : String) (members : Members) : Option Members :=
  alter false (fun _ members =>
    match members.lookup name with
    | none => some (putNamed name (.elements [] []) members)
    | some (.elements earlier last) =>
      some (putNamed name (.elements (earlier ++ [.table (closeMembers last)]) []) members)
    | some _ => none) path .header members

/-- Gives a key a value in the table that a header leads to. -/
def insertUnder? (header path : List String) (name : String) (v : Toml) (members : Members) :
    Option Members :=
  alter false (fun _ members => insert? path name v members) header .header members

end Members

/-- The path and the last name of a key. -/
def splitKey : List String → List String × String
  | [] => ([], "")
  | [name] => ([], name)
  | part :: rest => (part :: (splitKey rest).1, (splitKey rest).2)

/-- The table in braces that keys and values make. -/
def inlineTable? (entries : List (List String × Toml)) : Option Toml :=
  (entries.foldlM (fun members (entry : List String × Toml) =>
    Members.insert? (splitKey entry.1).1 (splitKey entry.1).2 entry.2 members) []).map fun members =>
      .table (closeMembers members)

end Toml

end Depot
