import Depot.Fields

/-!
# Heads

The head of an answer is a status and header fields. `Head.isSendable` says which texts may be field
values.
-/

namespace Depot

/-- Status and fields of an answer. -/
structure Head where
  status : Nat
  fields : Fields
deriving DecidableEq, Repr

namespace Head

/-- A value may be sent as it is. -/
def isSendable (value : String) : Bool :=
  (utf8 value).all isValueByte

/-- Puts a head together: the status has three digits, names are tokens, and values have no forbidden
byte. -/
def read? (status : Nat) (fields : List (String × Bytes)) : Option Head :=
  if 100 ≤ status ∧ status ≤ 999 then (Fields.read? fields).map fun read => ⟨status, read⟩ else none

end Head

end Depot
