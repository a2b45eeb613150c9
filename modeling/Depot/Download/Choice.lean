import Depot.Artifact
import Depot.Body.Shape
import Depot.Diagnostic
import Depot.Download.Ask
import Depot.Range.Header

/-!
# Choosing the shape of a download

`Choice.of` decides how a request for an artifact is met and why: ranges count only for `GET`, and only if
the condition that comes with them holds. The shape of the body and the diagnostics follow from the choice.
-/

namespace Depot

/-- How a request for an artifact is met. -/
inductive Choice
  /-- No range is considered. -/
  | plain
  /-- A range was asked for, but its condition does not hold. -/
  | changed (range : String) (verdict : IfRange.Verdict)
  /-- The windows of a range are served. -/
  | ranged (range : String) (windows : WindowSet)
  /-- A range was asked for that yields no windows. -/
  | refused (range : String) (error : RangeError)
deriving DecidableEq, Repr

namespace Choice

/-- The range that a request asks for; only `GET` can ask for one. -/
def considered (ask : Ask) : Option String :=
  if ask.method = .get then ask.range else none

/-- How a request for an artifact is met. -/
def of (artifact : Artifact) (ask : Ask) : Choice :=
  match considered ask with
  | none => plain
  | some range =>
    let verdict := IfRange.judge ask.condition (strongTag artifact.hash) artifact.modified
    if verdict.holds then
      match RangeHeader.windows range artifact.size with
      | .ok windows => ranged range windows
      | .error e => refused range e
    else changed range verdict

/-- The shape of the body. -/
def shape (artifact : Artifact) : Choice → Shape
  | plain | changed _ _ => .whole artifact.size
  | ranged _ windows =>
    match windows.single? with
    | some window => .single window
    | none => .parts windows
  | refused _ _ => .unsatisfiable

/-- What is noted about a shape once it is settled. -/
def shapeNotes (name : String) : Shape → List Diagnostic
  | .whole _ => [⟨.debug, "filename (" ++ name ++ ") results into a full request"⟩]
  | .single _ => [⟨.debug, "filename (" ++ name ++ ") results into a single range request"⟩]
  | .parts _ => [⟨.debug, "filename (" ++ name ++ ") results into a multipart range request"⟩]
  | .unsatisfiable => []

/-- What is noted about the condition of a range. -/
def verdictNotes : IfRange.Verdict → List Diagnostic
  | .unreadable condition =>
    [⟨.debug, "Invalid If-Range header '" ++ condition ++ "': string contains no or an invalid date"⟩]
  | .unconditional | .sameTag | .dated _ => []

/-- What is noted on the way to the choice. -/
def reasonNotes (name : String) : Choice → List Diagnostic
  | plain => []
  | changed range verdict =>
    ⟨.debug, "range header for filename (" ++ name ++ ") is: " ++ range⟩ :: verdictNotes verdict
      ++ [⟨.debug, "If-Range of filename (" ++ name ++ ") does not match, sending all"⟩]
  | ranged range _ => [⟨.debug, "range header for filename (" ++ name ++ ") is: " ++ range⟩]
  | refused range error =>
    [⟨.debug, "range header for filename (" ++ name ++ ") is: " ++ range⟩,
      ⟨.debug, "range header (" ++ range ++ ") for filename (" ++ name ++ ") is not satisfiable: "
        ++ error.message⟩]

/-- Everything noted about a choice, in order. -/
def notes (name : String) (artifact : Artifact) (choice : Choice) : List Diagnostic :=
  choice.reasonNotes name ++ shapeNotes name (choice.shape artifact)

end Choice

end Depot
