import Depot.Attachment
import Depot.Download.Choice
import Depot.Head

/-!
# The head of a download

Status and header fields are settled before the first byte of the body. `Head.frame?` describes the
artifact (name, date, tag) and the body (type, place, length). It has no answer for an artifact whose
last change has no HTTP date.
-/

namespace Depot

namespace Head

/-- The attachment name of a download; a name that may not be sent is left out. -/
def dispositionValue (name : String) : String :=
  if isSendable (Attachment.disposition name) then Attachment.disposition name else "attachment"

/-- Adds the entity tag, if it may be sent. -/
def withTag (hash : String) (fields : Fields) : Fields :=
  if isSendable (strongTag hash) then fields.setText "etag" (strongTag hash) else fields

/-- Adds the date of the last change, if it is known. -/
def withDate (date : Option String) (fields : Fields) : Fields :=
  match date with
  | some text => fields.setText "last-modified" text
  | none => fields

/-- The fields that do not depend on the request. -/
def artifactFields (name : String) (date : Option String) (artifact : Artifact) : Fields :=
  (((withTag artifact.hash
    (withDate date (({} : Fields).setText "content-disposition" (dispositionValue name))))
      |>.setText "accept-ranges" "bytes")
      |>.setText "content-type" Multipart.partContentType)
      |>.setText "x-content-type-options" "nosniff"

/-- Adds the fields that describe a body of the given shape. -/
def withShape (artifact : Artifact) (shape : Shape) (fields : Fields) : Fields :=
  match shape with
  | .whole length => fields.setText "content-length" (decimal length)
  | .single window =>
    (fields.setText "content-range" window.contentRange).setText "content-length" (decimal window.length)
  | .parts _ => fields.setText "content-type" Multipart.contentType
  | .unsatisfiable => fields.setText "content-range" (unsatisfiedContentRange artifact.size)

/-- The text of the last change: known and sendable, unknown, or without an HTTP date. -/
def dateText? (modified : Option Moment) : Option (Option String) :=
  match modified with
  | none => some none
  | some moment => (HttpDate.render? moment.secs).map some

/-- The head of a download whose body has the given shape. -/
def frame? (name : String) (artifact : Artifact) (shape : Shape) : Option Head :=
  (dateText? artifact.modified).map fun date =>
    ⟨shape.status, withShape artifact shape (artifactFields name date artifact)⟩

/-- What is noted about a value that may not be sent. -/
def unsendableNotes (name fieldName value : String) : List Diagnostic :=
  if isSendable value then []
  else [⟨.debug, "header " ++ fieldName ++ " of filename (" ++ name
    ++ ") not representable: failed to parse header value"⟩]

end Head

/-- A download that is ready to be sent: its head and the shape of its body. -/
structure Download where
  head : Head
  shape : Shape
deriving DecidableEq, Repr

namespace Download

/-- Meets a request for an artifact under a name. -/
def frame? (name : String) (artifact : Artifact) (ask : Ask) : Option Download :=
  let shape := (Choice.of artifact ask).shape artifact
  (Head.frame? name artifact shape).map fun head => ⟨head, shape⟩

/-- What is noted while a request is met, in order. Nothing follows the failure to write the date. -/
def frameNotes (name : String) (artifact : Artifact) (ask : Ask) : List Diagnostic :=
  Head.unsendableNotes name "content-disposition" (Attachment.disposition name)
    ++ match Head.dateText? artifact.modified with
      | none => []
      | some _ =>
        Head.unsendableNotes name "etag" (strongTag artifact.hash)
          ++ (Choice.of artifact ask).notes name artifact

/-- What is noted when the body could not be written. -/
def failureNotes (name : String) (outcome : Except StreamError Nat) : List Diagnostic :=
  match outcome with
  | .ok _ => []
  | .error e => [⟨.error, "streaming of file (" ++ name ++ ") failed: " ++ e.message⟩]

end Download

end Depot
