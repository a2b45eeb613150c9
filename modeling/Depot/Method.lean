import Depot.Fields

/-!
# Request methods

A method is a token; three of them mean something to a depot.
-/

namespace Depot

/-- What a request asks to be done. -/
inductive Method
  | get
  | head
  | options
  /-- Any other token. -/
  | other (name : String)
deriving DecidableEq, Repr

namespace Method

/-- The token that names the method. -/
def name : Method → String
  | get => "GET"
  | head => "HEAD"
  | options => "OPTIONS"
  | other name => name

/-- The method that a token names; case matters. -/
def ofToken? (token : String) : Option Method :=
  if isToken token then
    some (if token = "GET" then get
      else if token = "HEAD" then head
      else if token = "OPTIONS" then options
      else other token)
  else none

end Method

end Depot
