/-!
# Diagnostics

What the service tells its operator: a level and a text per line.
-/

namespace Depot

/-- How grave a diagnostic is. -/
inductive Level
  | error
  | warn
  | info
  | debug
deriving DecidableEq, Repr

/-- The word for a level. -/
def Level.text : Level → String
  | error => "ERROR"
  | warn => "WARN"
  | info => "INFO"
  | debug => "DEBUG"

/-- One line for the operator. -/
structure Diagnostic where
  level : Level
  text : String
deriving DecidableEq, Repr

/-- The line as it is written: the level, a blank and the text. -/
def Diagnostic.line (d : Diagnostic) : String :=
  d.level.text ++ " " ++ d.text

end Depot
