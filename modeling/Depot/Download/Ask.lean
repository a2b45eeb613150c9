import Depot.Method

/-!
# What a download request asks

Of a request, only the method, the first `Range` and the first `If-Range` decide about a download. A value
that cannot be read as text stays present as `Ask.unreadable`, which is neither a range header nor a
validator.
-/

namespace Depot

/-- The part of a request that decides about a download. -/
structure Ask where
  method : Method
  range : Option String
  /-- The condition under which ranges are wanted. -/
  condition : Option String
deriving DecidableEq, Repr

namespace Ask

/-- Stands for a value that cannot be read as text. -/
def unreadable : String := "\ufffd"

/-- The first value of a name, if there is one, as text. -/
def firstText (fields : Fields) (name : String) : Option String :=
  (fields.get? name).map fun value => (readText? value).getD unreadable

/-- What a request with the given method and fields asks. -/
def ofFields (method : Method) (fields : Fields) : Ask :=
  ⟨method, firstText fields "range", firstText fields "if-range"⟩

end Ask

end Depot
