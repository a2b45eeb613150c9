import Depot.Diagnostic
import Depot.Head
import Depot.Json.Basic
import Depot.Text.Decimal

/-!
# Replies of fixed content

The answers that do not stream an artifact: failures, the list of allowed methods, health reports and
checksum files. Their bodies are known at once.
-/

namespace Depot

/-- A complete answer. -/
structure Reply where
  head : Head
  body : Bytes
deriving DecidableEq, Repr

namespace Reply

/-- A reply whose body is a line of plain text. -/
def plainText (status : Nat) (text : String) (more : List (String × String) := []) : Reply :=
  ⟨⟨status, .ofTexts (("content-type", "text/plain") :: more)⟩, utf8 text⟩

/-- The methods that are answered. -/
def allowedMethods : String := "GET, HEAD, OPTIONS"

/-- There is nothing under the path. -/
def notFound : Reply :=
  plainText 404 "404 Not Found"

/-- The method is not answered. -/
def methodNotAllowed : Reply :=
  plainText 405 "405 Method Not Allowed" [("allow", allowedMethods)]

/-- The store failed. -/
def serverError : Reply :=
  plainText 500 "500 Internal Server Error"

/-- What may be asked for. -/
def options : Reply :=
  ⟨⟨204, .ofTexts [("allow", allowedMethods), ("accept-ranges", "bytes")]⟩, []⟩

/-- The state of the service as a JSON object. -/
def health (status : String) : Reply :=
  ⟨⟨200, .ofTexts [("content-type", "application/json"), ("cache-control", "no-cache")]⟩,
    utf8 (Json.compact (.object [("status", .string status)]))⟩

/-- The head of a checksum file. -/
def checksumHead (content disposition : String) : Head :=
  ⟨200, .ofTexts [("content-type", "text/plain"), ("content-length", decimal (utf8 content).length),
    ("content-disposition", disposition), ("x-content-type-options", "nosniff")]⟩

/-- A checksum file offered under a name, without its body if only the head was asked for. A name that may
not be sent is a failure of the service. -/
def checksum (content disposition : String) (headOnly : Bool) : Reply :=
  if Head.isSendable disposition then
    ⟨checksumHead content disposition, if headOnly then [] else utf8 content⟩
  else serverError

/-- What is noted about a checksum file. -/
def checksumNotes (disposition : String) : List Diagnostic :=
  if Head.isSendable disposition then []
  else [⟨.error, "Failed to build checksum response: failed to parse header value"⟩]

end Reply

end Depot
