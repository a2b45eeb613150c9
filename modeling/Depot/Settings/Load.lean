import Depot.Number.Power
import Depot.Settings.Basic
import Depot.Settings.KeyPath
import Depot.Settings.Source

/-!
# Loading settings

Defaults, a file and the environment are laid over each other, and the settings are read from what results.
A value of another kind is taken for the kind that is needed where it has an obvious meaning there:
`"9090"` is a port and `"no"` a choice. Names may be written in capitals; those that are not known have no
effect.
-/

namespace Depot

namespace Settings

/-- Why there are no settings. -/
inductive LoadError
  /-- The file is not written in its format. -/
  | unreadable
  /-- The value of a key is not of the kind that is needed, or out of range. -/
  | wrongType (key : String)
  /-- A section is no table, or lacks a value that is needed. -/
  | wrongShape
deriving DecidableEq, Repr

/-- What is said of settings that cannot be had. -/
def LoadError.message : LoadError → String
  | unreadable => "the settings file cannot be read"
  | wrongType key => "invalid value for '" ++ key ++ "'"
  | wrongShape => "a section of the settings is no table or is not complete"

namespace Value

/-! ## Meanings of values -/

/-- The choice that a word stands for, in capitals or not. -/
def choiceOfWord? (word : String) : Option Bool :=
  let word := String.ofList (word.toList.map Char.toLower)
  if word = "true" ∨ word = "on" ∨ word = "yes" then some true
  else if word = "false" ∨ word = "off" ∨ word = "no" then some false
  else none

/-- The number that a text stands for; a plus sign may come first. -/
def numberOfText? (text : String) : Option Nat :=
  match choiceOfWord? text with
  | some choice => some choice.toNat
  | none =>
    match text.toList with
    | '+' :: digits => Decimal.read? digits
    | digits => Decimal.read? digits

/-- The value as a number below `bound`, which is at most `wordBound`. -/
def toNatural? (bound : Nat) : Value → Option Nat
  | boolean b => some b.toNat
  | integer n => if 0 ≤ n ∧ n < bound then some n.toNat else none
  | float d => some (d.toNatural wordBound) |>.filter (· < bound)
  | text s => (numberOfText? s).filter (· < bound)
  | unset | list _ | table _ => none

/-- The value as a choice. -/
def toChoice? : Value → Option Bool
  | boolean b => some b
  | integer n => some (n ≠ 0)
  | float d => some (!d.isZero)
  | text s => if s = "1" then some true else if s = "0" then some false else choiceOfWord? s
  | unset | list _ | table _ => none

/-- The value as a text. -/
def toText? : Value → Option String
  | boolean b => some (if b then "true" else "false")
  | integer n => some ((if n < 0 then "-" else "") ++ decimal n.natAbs)
  | float d => some d.text
  | text s => some s
  | unset | list _ | table _ => none

/-- The value, if it is set, by its meaning. -/
def toOptional? {α : Type} (meaning : Value → Option α) : Value → Option (Option α)
  | unset => some none
  | v => (meaning v).map some

end Value

/-! ## Sections -/

/-- A section: a table, or a list of its values in their order. -/
structure Section where
  title : String
  content : Value

namespace Section

/-- The key and the value of a field, which has a place of its own in a list. -/
def field? (s : Section) (place : Nat) (name : String) : Option (String × Value) :=
  match s.content with
  | .list items => items[place]?.map fun v => (s.title ++ "[" ++ decimal place ++ "]", v)
  | v => (v.members.lookup name).map fun v => (s.title ++ "." ++ name, v)

/-- A field by its meaning; `missing` stands for one that is not there. -/
def read {α : Type} (s : Section) (meaning : Value → Option α) (missing : Except LoadError α)
    (place : Nat) (name : String) : Except LoadError α :=
  match s.field? place name with
  | none => missing
  | some (key, v) =>
    match meaning v with
    | some a => .ok a
    | none => .error (.wrongType key)

/-- A field that must be there. -/
def required {α : Type} (s : Section) (meaning : Value → Option α) :
    Nat → String → Except LoadError α :=
  s.read meaning (.error .wrongShape)

/-- A field that a table need not have. -/
def optional {α : Type} (s : Section) (meaning : Value → Option α) :
    Nat → String → Except LoadError (Option α) :=
  s.read (Value.toOptional? meaning) <|
    match s.content with
    | .list _ => .error .wrongShape
    | _ => .ok none

/-- What is wrong with a field, if anything is. -/
def faultOf {α : Type} : Except LoadError α → Option LoadError
  | .ok _ => none
  | .error e => some e

/-- Weighs the faults of all fields. What a table holds is looked at before anything is missed, so that a
value of the wrong kind comes first; a list is read in its order. -/
def weigh (s : Section) (faults : List (Option LoadError)) : Except LoadError Unit :=
  match s.content with
  | .list _ => .ok ()
  | _ =>
    match (faults.filterMap id).find? (· ≠ .wrongShape) with
    | some e => .error e
    | none => .ok ()

end Section

/-- The section that a value makes. -/
def sectionOf (title : String) : Value → Except LoadError Section
  | .list items => .ok ⟨title, .list items⟩
  | .table members => .ok ⟨title, .table members⟩
  | _ => .error .wrongShape

/-- Reads the section `server`. -/
def Server.read (v : Value) : Except LoadError Server := do
  let s ← sectionOf "server" v
  let host := s.required Value.toText? 0 "host"
  let port := s.required (Value.toNatural? 65536) 1 "port"
  let workers := s.optional (Value.toNatural? wordBound) 2 "workers"
  s.weigh [Section.faultOf host, Section.faultOf port, Section.faultOf workers]
  return { host := ← host, port := ← port, workers := ← workers }

/-- Reads the section `logging`. -/
def Logging.read (v : Value) : Except LoadError Logging := do
  let s ← sectionOf "logging" v
  let usual : Logging := {}
  let level := s.required Value.toText? 0 "level"
  let accessLog := s.required Value.toChoice? 1 "access_log"
  let format := s.read Value.toText? (.ok usual.accessLogFormat) 2 "access_log_format"
  let accessFile := s.read (Value.toOptional? Value.toText?) (.ok none) 3 "access_log_file"
  let errorFile := s.read (Value.toOptional? Value.toText?) (.ok none) 4 "error_log_file"
  s.weigh [Section.faultOf level, Section.faultOf accessLog, Section.faultOf format,
    Section.faultOf accessFile, Section.faultOf errorFile]
  return { level := ← level, accessLog := ← accessLog, accessLogFormat := ← format
           accessLogFile := ← accessFile, errorLogFile := ← errorFile }

/-- Reads the section `performance`. -/
def Performance.read (v : Value) : Except LoadError Performance := do
  let s ← sectionOf "performance" v
  let keepAlive := s.required (Value.toNatural? wordBound) 0 "keep_alive_timeout"
  let reading := s.required (Value.toNatural? wordBound) 1 "read_timeout"
  let writing := s.required (Value.toNatural? wordBound) 2 "write_timeout"
  let connections := s.optional (Value.toNatural? wordBound) 3 "max_connections"
  s.weigh [Section.faultOf keepAlive, Section.faultOf reading, Section.faultOf writing,
    Section.faultOf connections]
  return { keepAliveTimeout := ← keepAlive, readTimeout := ← reading, writeTimeout := ← writing
           maxConnections := ← connections }

/-- Reads the section `artifacts`. -/
def Artifacts.read (v : Value) : Except LoadError Artifacts := do
  let s ← sectionOf "artifacts" v
  let root := s.required Value.toText? 0 "root"
  let route := s.required Value.toText? 1 "route_prefix"
  let checksum := s.required Value.toText? 2 "checksum_suffix"
  let capacity := s.required (Value.toNatural? wordBound) 3 "stream_channel_capacity"
  s.weigh [Section.faultOf root, Section.faultOf route, Section.faultOf checksum,
    Section.faultOf capacity]
  return { root := ← root, routePrefix := ← route, checksumSuffix := ← checksum
           streamChannelCapacity := ← capacity }

/-- Reads the section `health`, of which every part may be missing. -/
def Health.read (v : Value) : Except LoadError Health := do
  let s ← sectionOf "health" v
  let usual : Health := {}
  let enabled ← s.read Value.toChoice? (.ok usual.enabled) 0 "enabled"
  let livenessPath ← s.read Value.toText? (.ok usual.livenessPath) 1 "liveness_path"
  let readinessPath ← s.read Value.toText? (.ok usual.readinessPath) 2 "readiness_path"
  return { enabled, livenessPath, readinessPath }

/-- What holds as long as no source says otherwise. -/
def defaults : List (String × Value) :=
  let s : Settings := {}
  [("server", .table [("host", .text s.server.host), ("port", .integer s.server.port)]),
    ("logging", .table [("level", .text s.logging.level), ("access_log", .boolean s.logging.accessLog)]),
    ("performance", .table [("keep_alive_timeout", .integer s.performance.keepAliveTimeout),
      ("read_timeout", .integer s.performance.readTimeout),
      ("write_timeout", .integer s.performance.writeTimeout)]),
    ("artifacts", .table [("root", .text s.artifacts.root),
      ("route_prefix", .text s.artifacts.routePrefix),
      ("checksum_suffix", .text s.artifacts.checksumSuffix),
      ("stream_channel_capacity", .integer s.artifacts.streamChannelCapacity)])]

/-- Reads the settings from what the sources give together. -/
def ofMembers (members : List (String × Value)) : Except LoadError Settings := do
  let find (title : String) : Value := (members.lookup title).getD .unset
  let server ← Server.read (find "server")
  let logging ← Logging.read (find "logging")
  let performance ← Performance.read (find "performance")
  let artifacts ← Artifacts.read (find "artifacts")
  let health ← Health.read ((members.lookup "health").getD (.table []))
  return { server, logging, performance, artifacts, health }

/-- What a file gives; without a file it is nothing. -/
def ofFile : Option (Format × String) → Except LoadError (List (String × Value))
  | none => .ok []
  | some (format, text) =>
    match format.read? text with
    | some members => .ok members
    | none => .error .unreadable

/-- The settings that a file and the variables of the environment make. -/
def load (file : Option (Format × String)) (environment : List (String × String)) :
    Except LoadError Settings := do
  let members ← ofFile file
  ofMembers (overlay (overlay defaults members) (ofEnvironment environment))

end Settings

end Depot
