import Depot.Bytes
import Depot.Calendar.Moment

/-!
# File trees

A file tree consists of regular files and directories. A `Place` names what lies below its top, one name
per level; `Node.at?` finds what stands at a place, and `Node.alter` changes it.
-/

namespace Depot

/-- A file or a directory. -/
inductive Node
  | file (content : Bytes) (modified : Moment)
  | directory (entries : List (String × Node))
deriving Repr

/-- The names that lead from the top of a tree to one of its nodes. -/
abbrev Place := List String

namespace Node

/-- A directory without entries. -/
def empty : Node := directory []

/-- The node is a directory. -/
def isDirectory : Node → Bool
  | directory _ => true
  | file _ _ => false

/-- The entry of a name. -/
def entryOf? (name : String) (entries : List (String × Node)) : Option Node :=
  (entries.find? fun e => e.1 = name).map Prod.snd

/-- What a directory holds under a name; a file holds nothing. -/
def child? (name : String) : Node → Option Node
  | directory entries => entryOf? name entries
  | file _ _ => none

/-- What stands at a place. -/
def at? : Place → Node → Option Node
  | [], node => some node
  | name :: rest, node =>
    match node.child? name with
    | some child => child.at? rest
    | none => none

/-- Puts a node under a name, in place of what is there, or takes it away. -/
def setEntry (name : String) (new : Option Node) (entries : List (String × Node)) :
    List (String × Node) :=
  let others := entries.filter fun e => e.1 ≠ name
  match new with
  | some node => others ++ [(name, node)]
  | none => others

/-- Changes what stands at a place below the top; a place that leads through a file is left alone. -/
def alter (change : Option Node → Option Node) : Place → Option Node → Option Node
  | [], node => change node
  | name :: rest, some (directory entries) =>
    some (directory (setEntry name (alter change rest (entryOf? name entries)) entries))
  | _ :: _, node => node

/-- Puts a node at a place, or takes away what is there. -/
def set (place : Place) (new : Option Node) (top : Node) : Node :=
  (alter (fun _ => new) place (some top)).getD top

theorem at?_append (front back : Place) (node : Node) :
    node.at? (front ++ back) = (node.at? front).bind fun found => found.at? back := by
  induction front generalizing node with
  | nil => rfl
  | cons name rest ih =>
    simp only [List.cons_append, at?]
    cases node.child? name with
    | none => rfl
    | some child => exact ih child

theorem entryOf?_setEntry_self (name : String) (new : Option Node) (entries : List (String × Node)) :
    entryOf? name (setEntry name new entries) = new := by
  have gone : (entries.filter fun e => e.1 ≠ name).find? (fun e => decide (e.1 = name)) = none := by
    rw [List.find?_eq_none]
    intro e member
    simpa using (List.mem_filter.1 member).2
  cases new with
  | none =>
    simp only [entryOf?, setEntry]
    rw [gone]
    rfl
  | some node =>
    simp only [entryOf?, setEntry, List.find?_append]
    rw [gone]
    simp

end Node

end Depot
