import Depot.Download.Ask
import Depot.Request.Basic
import Depot.Request.Percent

/-!
# Routes

A `Service` answers requests as it is set up. `Service.route` decides from method and path alone what a
request is about: health, an artifact, or the checksum file of an artifact, whose name is that of the
artifact with a suffix.
-/

namespace Depot

/-- How requests are answered. -/
structure Service where
  /-- What the path of a download begins with. -/
  routePrefix : String := "/artifacts/"
  /-- What the name of a checksum file ends with. -/
  checksumSuffix : String := ".SHA256SUM"
  /-- Health reports are given. -/
  healthEnabled : Bool := true
  livenessPath : String := "/healthz"
  readinessPath : String := "/readyz"
  /-- The most frames of a body that are queued. -/
  capacity : Nat := 16
  /-- How access lines are written; nothing means that none are. -/
  accessFormat : Option String := none
deriving DecidableEq, Repr

/-- What a request is about. -/
inductive Route
  | options
  /-- The method is not answered. -/
  | refused
  | health
  /-- There is nothing under the path. -/
  | nowhere
  /-- The name in the path is not text. -/
  | unreadable (encoded : String) (fault : Utf8.Fault)
  /-- The checksum file `file` of an artifact. -/
  | checksum (artifact file : String)
  | artifact (name : String)
deriving DecidableEq, Repr

namespace Service

/-- What is meant by the name that follows the route prefix. -/
def routeName (s : Service) (name : String) : Route :=
  match stripTextSuffix? s.checksumSuffix name with
  | some artifact => if artifact = "" then .artifact name else .checksum artifact name
  | none => .artifact name

/-- What is meant by a path. -/
def routePath (s : Service) (path : String) : Route :=
  if s.healthEnabled ∧ (path = s.livenessPath ∨ path = s.readinessPath) then .health
  else
    match stripTextPrefix? s.routePrefix path with
    | none => .nowhere
    | some encoded =>
      match Percent.decode encoded with
      | .error fault => .unreadable encoded fault
      | .ok name => s.routeName name

/-- What a request is about. -/
def route (s : Service) (request : Request) : Route :=
  match request.method with
  | .get | .head => s.routePath request.path
  | .options => .options
  | .other _ => .refused

end Service

end Depot
