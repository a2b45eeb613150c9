import Depot.Settings.Load

/-!
# Command line

Loads the settings from the file that is named, or from `config`, and from the environment, and says how the
service would start with them.
-/

namespace Depot

/-- The variables of the environment that settings are taken from. -/
def settingVariables : List String :=
  [("SERVER", ["HOST", "PORT", "WORKERS"]),
    ("LOGGING", ["LEVEL", "ACCESS_LOG", "ACCESS_LOG_FORMAT", "ACCESS_LOG_FILE", "ERROR_LOG_FILE"]),
    ("PERFORMANCE", ["KEEP_ALIVE_TIMEOUT", "READ_TIMEOUT", "WRITE_TIMEOUT", "MAX_CONNECTIONS"]),
    ("ARTIFACTS", ["ROOT", "ROUTE_PREFIX", "CHECKSUM_SUFFIX", "STREAM_CHANNEL_CAPACITY"]),
    ("HEALTH", ["ENABLED", "LIVENESS_PATH", "READINESS_PATH"])].flatMap fun (title, names) =>
      names.map fun name => "ARTIFACTS__" ++ title ++ "__" ++ name

/-- The text of a file, if it can be read. -/
def contentOf? (name : String) : IO (Option String) := do
  try return some (← IO.FS.readFile name) catch _ => return none

/-- The lines that a start with the settings prints, or the reason why there is none. -/
def startLines (settings : Except Settings.LoadError Settings) : Except String (List String) :=
  match settings with
  | .error e => .error e.message
  | .ok s =>
    match s.address? with
    | none => .error SocketAddress.invalidText
    | some address => .ok ((s.startNotes address).map Diagnostic.line)

end Depot

open Depot in
def main (arguments : List String) : IO UInt32 := do
  let name := arguments.headD "config"
  let files ← (name :: (Settings.suffixed name).map Prod.fst).filterMapM fun file => do
    return (← contentOf? file).map fun content => (file, content)
  let file := (Settings.fileFor? (fun file => (files.lookup file).isSome) name).map fun (file, format) =>
    (format, (files.lookup file).getD "")
  let environment ← settingVariables.filterMapM fun label => do
    return (← IO.getEnv label).map fun value => (label, value)
  match startLines (Settings.load file environment) with
  | .ok lines =>
    lines.forM IO.println
    return 0
  | .error reason =>
    IO.eprintln reason
    return 1
