import Depot.Bytes
import Depot.Named

/-!
# Header fields

A message head carries fields: names without regard to case, values as bytes. A value may be sent if it
has no control character but the tab; it can be read as text if it also stays within ASCII.
-/

namespace Depot

/-- A character that a token may have. -/
def isTokenChar (c : Char) : Bool :=
  c.isAlphanum || "!#$%&'*+-.^_`|~".toList.contains c

/-- A name made of token characters. -/
def isToken (text : String) : Bool :=
  text.toList ≠ [] && text.toList.all isTokenChar

/-- A byte that a field value may have. -/
def isValueByte (b : UInt8) : Bool :=
  b = 9 || (32 ≤ b && b ≠ 127)

/-- A byte that a field value may have and that stands for a character of its own. -/
def isTextByte (b : UInt8) : Bool :=
  b = 9 || (32 ≤ b && b ≤ 126)

/-- The text of a value all of whose bytes stand for characters. -/
def readText? (value : Bytes) : Option String :=
  if value.all isTextByte then some (String.ofList (value.map fun b => Char.ofNat b.toNat)) else none

/-- One header field; the name is in lower case. -/
structure Field where
  name : String
  value : Bytes
deriving DecidableEq, Repr

/-- The fields of a message head, in order. -/
structure Fields where
  entries : List Field := []
deriving DecidableEq, Repr

namespace Fields

/-- The value of the first field of a name. -/
def get? (fields : Fields) (name : String) : Option Bytes :=
  (fields.entries.find? fun field => field.name = name).map Field.value

/-- Adds a field after all others. -/
def add (fields : Fields) (name : String) (value : Bytes) : Fields :=
  ⟨fields.entries ++ [⟨name, value⟩]⟩

/-- Drops all fields of a name. -/
def remove (fields : Fields) (name : String) : Fields :=
  ⟨fields.entries.filter fun field => field.name ≠ name⟩

/-- Makes a value the only one of its name. -/
def set (fields : Fields) (name : String) (value : Bytes) : Fields :=
  (fields.remove name).add name value

/-- Makes a text the only value of its name. -/
def setText (fields : Fields) (name value : String) : Fields :=
  fields.set name (utf8 value)

/-- The fields with the given names and texts. -/
def ofTexts (texts : List (String × String)) : Fields :=
  ⟨texts.map fun (name, value) => ⟨name, utf8 value⟩⟩

/-- Reads a field of a message: the name is a token, and the value has no forbidden byte. -/
def readField? (name : String) (value : Bytes) : Option Field :=
  if isToken name && value.all isValueByte then some ⟨name.toLower, value⟩ else none

/-- Reads the fields of a message in order. -/
def read? : List (String × Bytes) → Option Fields
  | [] => some {}
  | (name, value) :: rest => do
    let field ← readField? name value
    let fields ← read? rest
    some ⟨field :: fields.entries⟩

theorem get?_add_of_ne {fields : Fields} {name other : String} {value : Bytes} (ne : name ≠ other) :
    (fields.add name value).get? other = fields.get? other := by
  simp [get?, add, ne]

theorem get?_remove_of_ne {fields : Fields} {name other : String} (ne : name ≠ other) :
    (fields.remove name).get? other = fields.get? other := by
  rw [get?, remove, find?_filter_ne Field.name ne, get?]

theorem get?_remove_self (fields : Fields) (name : String) : (fields.remove name).get? name = none := by
  simp [get?, remove, List.find?_eq_none]

@[simp] theorem get?_set_self (fields : Fields) (name : String) (value : Bytes) :
    (fields.set name value).get? name = some value := by
  have removed := get?_remove_self fields name
  simp only [get?, Option.map_eq_none_iff] at removed
  simp [get?, set, add, List.find?_append, removed]

theorem get?_set_of_ne {fields : Fields} {name other : String} {value : Bytes} (ne : name ≠ other) :
    (fields.set name value).get? other = fields.get? other := by
  rw [set, get?_add_of_ne ne, get?_remove_of_ne ne]

end Fields

end Depot
