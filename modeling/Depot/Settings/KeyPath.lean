import Depot.Number.Power
import Depot.Settings.Value
import Depot.Text.Decimal

/-!
# Paths to settings

`server.port` or `list[2].name`: a name, then names behind points and positions in brackets, which count
from the end if they are negative. The names in a path are in lower case, as those in a table are.
`KeyPath.set` puts a value at the end of a path and makes the tables and lists that lead to it.
-/

namespace Depot

namespace Settings

/-- One step into a value. -/
inductive Step
  | name (name : String)
  | position (index : Int)
deriving DecidableEq, Repr

/-- The way from a table to a value. -/
structure KeyPath where
  root : String
  steps : List Step := []
deriving DecidableEq, Repr

namespace KeyPath

/-- A character of a name; a blank is one. -/
def isNameChar (c : Char) : Bool :=
  c.isAlphanum || c = ' ' || c = '_' || c = '-'

/-- A character that may stand around a position. -/
def isBlank (c : Char) : Bool :=
  c = ' ' || c = '\t'

/-- Reads a name and gives what it is kept under. -/
def readName? (text : List Char) : Option (String × List Char) :=
  if text.takeWhile isNameChar = [] then none
  else some (nameKey (String.ofList (text.takeWhile isNameChar)), text.dropWhile isNameChar)

/-- Reads a position and the bracket that closes it. Positions are numbers of 64 bits. -/
def readPosition? (text : List Char) : Option (Int × List Char) :=
  let text := text.dropWhile isBlank
  let (negative, digits) := match text with
    | '-' :: rest => (true, rest)
    | _ => (false, text)
  match Decimal.read? (digits.takeWhile Char.isDigit) with
  | none => none
  | some n =>
    if (if negative then signedBound else signedBound - 1) < n then none
    else
      match (digits.dropWhile Char.isDigit).dropWhile isBlank with
      | ']' :: rest => some (if negative then -(n : Int) else n, rest)
      | _ => none

/-- Reads the steps of a path, which end with the text. Each takes a character at least, so that `fuel`
need not exceed the length of the text. -/
def readSteps? : Nat → List Char → Option (List Step)
  | _, [] => some []
  | fuel + 1, '.' :: text => do
    let (name, rest) ← readName? text
    let steps ← readSteps? fuel rest
    some (.name name :: steps)
  | fuel + 1, '[' :: text => do
    let (index, rest) ← readPosition? text
    let steps ← readSteps? fuel rest
    some (.position index :: steps)
  | _, _ => none

/-- The path that a text stands for. -/
def read? (text : String) : Option KeyPath := do
  let (root, rest) ← readName? text.toList
  let steps ← readSteps? rest.length rest
  some ⟨root, steps⟩

/-- The path that a key of a source stands for: a name, if it is not written like a path. -/
def ofKey (key : String) : KeyPath :=
  (read? key).getD ⟨nameKey key, []⟩

/-- The place of a position in a list of some length. -/
def place (index : Int) (length : Nat) : Nat :=
  if index < 0 then length - index.natAbs else index.toNat

/-- A list that is long enough to have a place. -/
def filled (place : Nat) (items : List Value) : List Value :=
  items ++ List.replicate (place + 1 - items.length) .unset

/-- What stands in the place of the old value, if there is one, when `value` is put at the end of the
steps that lead on from it. A table that is reached by a name is laid over what is there. -/
def descend (value : Value) : List Step → Option Value → Value
  | [], old => Value.merge old value
  | .name name :: steps, old =>
    let members := (old.getD .unset).members
    .table (putNamed name (descend value steps (members.lookup name)) members)
  | .position index :: steps, old =>
    let items := (old.getD .unset).items
    let here := place index items.length
    let items := filled here items
    .list (items.set here (if steps = [] then value else descend value steps items[here]?))

/-- Puts a value at the end of a path into a table. -/
def set (path : KeyPath) (value : Value) (members : List (String × Value)) : List (String × Value) :=
  putNamed path.root (descend value path.steps (members.lookup path.root)) members

end KeyPath

/-- Lays the keys of a source, each of which may be a path, over what earlier sources gave. -/
def overlay (members source : List (String × Value)) : List (String × Value) :=
  source.foldl (fun members entry => (KeyPath.ofKey entry.1).set entry.2 members) members

end Settings

end Depot
