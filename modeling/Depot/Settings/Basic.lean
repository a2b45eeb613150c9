import Depot.Address.Reader
import Depot.Diagnostic
import Depot.Service.Basic

/-!
# Settings

Everything that the operator may choose, with the values that hold without a choice, and what follows from
it: the address to listen on, how requests are answered, and what is noted at the start.
-/

namespace Depot

namespace Settings

/-- Where the service listens. -/
structure Server where
  host : String := "127.0.0.1"
  port : Nat := 8080
  workers : Option Nat := none
deriving DecidableEq, Repr

/-- What is written down about requests. -/
structure Logging where
  level : String := "info"
  /-- Access lines are written. -/
  accessLog : Bool := true
  accessLogFormat : String := "combined"
  accessLogFile : Option String := none
  errorLogFile : Option String := none
deriving DecidableEq, Repr

/-- Limits, in seconds and in connections. -/
structure Performance where
  keepAliveTimeout : Nat := 75
  readTimeout : Nat := 30
  writeTimeout : Nat := 300
  maxConnections : Option Nat := none
deriving DecidableEq, Repr

/-- What is served. -/
structure Artifacts where
  /-- The directory of the artifacts. -/
  root : String := "artifacts"
  routePrefix : String := "/artifacts/"
  checksumSuffix : String := ".SHA256SUM"
  /-- The most frames of a body that are queued. -/
  streamChannelCapacity : Nat := 16
deriving DecidableEq, Repr

/-- The health reports. -/
structure Health where
  enabled : Bool := true
  livenessPath : String := "/healthz"
  readinessPath : String := "/readyz"
deriving DecidableEq, Repr

end Settings

/-- Everything that the operator may choose. -/
structure Settings where
  server : Settings.Server := {}
  logging : Settings.Logging := {}
  performance : Settings.Performance := {}
  artifacts : Settings.Artifacts := {}
  health : Settings.Health := {}
deriving DecidableEq, Repr

namespace Settings

/-- The address to listen on, if host and port make one. -/
def address? (s : Settings) : Option SocketAddress :=
  SocketAddress.read? (s.server.host ++ ":" ++ decimal s.server.port)

/-- How requests are answered. -/
def service (s : Settings) : Service :=
  { routePrefix := s.artifacts.routePrefix
    checksumSuffix := s.artifacts.checksumSuffix
    healthEnabled := s.health.enabled
    livenessPath := s.health.livenessPath
    readinessPath := s.health.readinessPath
    capacity := s.artifacts.streamChannelCapacity
    accessFormat := if s.logging.accessLog then some s.logging.accessLogFormat else none }

/-- A note on something that may have been chosen. -/
def chosenNote (title : String) (choice : Option String) : List Diagnostic :=
  (choice.map fun text => ⟨.info, title ++ ": " ++ text⟩).toList

/-- What is noted when the service listens on an address. -/
def startNotes (s : Settings) (address : SocketAddress) : List Diagnostic :=
  [⟨.info, "Artifact server listening on http://" ++ address.text⟩,
    ⟨.info, "Serving '" ++ s.artifacts.root ++ "' under '" ++ s.artifacts.routePrefix
      ++ "' (checksums: '<name>" ++ s.artifacts.checksumSuffix ++ "')"⟩]
    ++ chosenNote "Worker threads" (s.server.workers.map decimal)
    ++ chosenNote "Max connections" (s.performance.maxConnections.map decimal)
    ++ chosenNote "Access log" s.logging.accessLogFile

end Settings

end Depot
