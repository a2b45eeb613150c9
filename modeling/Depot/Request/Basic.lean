import Depot.Address.Basic
import Depot.Method
import Depot.Request.Target

/-!
# Requests

What a depot is told: by whom, by which method, in which version, under which path and with which fields.
-/

namespace Depot

/-- The versions of HTTP. -/
inductive Version
  | http09
  | http10
  | http11
  | http2
  | http3
deriving DecidableEq, Repr

namespace Version

/-- The number of a version. -/
def text : Version → String
  | http09 => "0.9"
  | http10 => "1.0"
  | http11 => "1.1"
  | http2 => "2.0"
  | http3 => "3.0"

/-- The version of a number. -/
def ofText? (text : String) : Option Version :=
  [http09, http10, http11, http2, http3].find? fun v => v.text = text

end Version

/-- A request. -/
structure Request where
  method : Method
  /-- The path, still percent-encoded. -/
  path : String
  version : Version
  fields : Fields
  /-- The address of the client. -/
  peer : SocketAddress
deriving DecidableEq, Repr

end Depot
