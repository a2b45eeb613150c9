import Depot.Named
import Depot.Number.Signed

/-!
# Settings before they are read

The tree of values that sources of settings give. Sources are laid over each other: `Value.merge` keeps what
a table holds and the later table does not name, and anything else that comes later takes the place of what
was there. Capitals make no difference in names: `nameKey` is what a name is kept under.
-/

namespace Depot

namespace Settings

/-! ## Names -/

/-- The character in lower case, if it is or becomes ASCII. -/
def lowerChar (c : Char) : Char :=
  if c.toNat = 0x212a then 'k' else c.toLower

/-- What a name is kept under: the name in lower case. -/
def nameKey (name : String) : String :=
  String.ofList (name.toList.map lowerChar)

/-! ## Values -/

/-- A value that a source gives. -/
inductive Value
  /-- The name is there without a value. -/
  | unset
  | boolean (value : Bool)
  | integer (value : Int)
  | float (value : SignedDouble)
  | text (value : String)
  | list (items : List Value)
  | table (members : List (String × Value))
deriving Repr

namespace Value

/-- The members of a table; what is no table has none. -/
def members : Value → List (String × Value)
  | table members => members
  | _ => []

/-- The items of a list; what is no list has none. -/
def items : Value → List Value
  | list items => items
  | _ => []

mutual

/-- What is left of the old value, if there is one, when a later value is laid over it. -/
def merge (old : Option Value) : Value → Value
  | table later => mergeMembers (old.getD (table [])) later
  | later => later

/-- Lays members over an old value, which becomes a table with the first of them. -/
def mergeMembers (old : Value) : List (String × Value) → Value
  | [] => old
  | (name, later) :: rest =>
    let key := nameKey name
    mergeMembers (table (putNamed key (merge (old.members.lookup key) later) old.members)) rest

end

end Value

end Settings

end Depot
