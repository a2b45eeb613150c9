/-!
# Attachment names

A download is offered under the name of its artifact. The name is cut to 78 characters; it stands bare if
it holds no special character and in quotes otherwise, where a backslash comes before each quote and each
backslash.
-/

namespace Depot

namespace Attachment

/-- The number of characters that a parameter may have. -/
def maxLength : Nat := 78

/-- The characters that a bare parameter may not have. -/
def specials : List Char :=
  ['(', ')', '<', '>', '@', ',', ';', ':', '\\', '"', '/', '[', ']', '?', '=']

/-- Puts a backslash before each quote and each backslash. -/
def escape : List Char → List Char
  | [] => []
  | c :: rest => if c = '"' ∨ c = '\\' then '\\' :: c :: escape rest else c :: escape rest

/-- The part of a name that is sent. -/
def shorten (name : String) : List Char :=
  name.toList.take maxLength

/-- The parameter value that stands for a name. -/
def encode (name : String) : String :=
  if (shorten name).any specials.contains then
    String.ofList ('"' :: escape (shorten name) ++ ['"'])
  else String.ofList (shorten name)

/-- The `Content-Disposition` value of a download under the given name. -/
def disposition (name : String) : String :=
  "attachment;filename=" ++ encode name

end Attachment

end Depot
