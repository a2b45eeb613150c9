import Depot.Access.Pattern
import Depot.Service.Answer

/-!
# Access lines of a service

When the access lines are on, every answered request leaves one line, which is written once the body has
been sent or cut off.
-/

namespace Depot

/-- When a request came in, and how many microseconds its answer took. -/
structure Timing where
  stamp : Stamp
  micros : Nat
deriving DecidableEq, Repr

/-- The first value of a name, if it can be read as text. -/
def Fields.firstReadable? (fields : Fields) (name : String) : Option String :=
  (fields.get? name).bind readText?

namespace Service

/-- The entry of a request and its answer. -/
def entryOf (request : Request) (answer : Answer) (timing : Timing) : AccessEntry :=
  { remote := request.peer.ip.text
    stamp := timing.stamp
    method := request.method.name
    path := request.path
    version := request.version.text
    status := answer.head.status
    bodyBytes := answer.content.recordedBytes
    range := request.fields.firstReadable? "range"
    userAgent := request.fields.firstReadable? "user-agent"
    micros := timing.micros }

end Service

end Depot
