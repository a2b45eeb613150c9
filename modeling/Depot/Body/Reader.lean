import Depot.Body.Multipart
import Depot.Text.Affix

/-!
# Reading bodies of several parts

`Multipart.read?` takes a body apart as any receiver does that knows nothing but the boundary: it cuts at
each occurrence of the delimiter up to the closing one, and divides each part at its first empty line. It
does not know where parts are meant to end.
-/

namespace Depot

namespace Multipart

/-- A part as it is received. -/
structure Part where
  /-- The header lines, without their ends. -/
  header : List Bytes
  content : Bytes
deriving DecidableEq, Repr

/-- What stands before and behind the first occurrence of `mark`. -/
def cutAt? (mark : Bytes) : Bytes → Option (Bytes × Bytes)
  | [] => (stripPrefix? mark []).map fun after => ([], after)
  | b :: rest =>
    match stripPrefix? mark (b :: rest) with
    | some after => some ([], after)
    | none => (cutAt? mark rest).map fun (front, after) => (b :: front, after)

/-- The lines of a text; the last one has no end. -/
def lines : Bytes → List Bytes
  | [] => [[]]
  | 13 :: 10 :: rest => [] :: lines rest
  | b :: rest =>
    match lines rest with
    | [] => [[b]]
    | line :: more => (b :: line) :: more

/-- Divides a part at its first empty line. -/
def Part.read? (text : Bytes) : Option Part :=
  (cutAt? (utf8 "\r\n\r\n") text).map fun (header, content) => ⟨lines header, content⟩

/-- The value of a header line of a part. -/
def Part.value? (p : Part) (name : String) : Option Bytes :=
  p.header.findSome? fun line => stripPrefix? (utf8 (name ++ ": ")) line

/-- Reads the parts that follow a boundary. Each takes a byte at least, so that `fuel` need not exceed the
number of bytes. -/
def readParts? (boundary : String) : Nat → Bytes → Option (List Part)
  | 0, _ => none
  | fuel + 1, text =>
    match stripPrefix? (utf8 "--") text with
    | some _ => some []
    | none => do
      let text ← stripPrefix? (utf8 "\r\n") text
      let (front, after) ← cutAt? (utf8 ("\r\n--" ++ boundary)) text
      let part ← Part.read? front
      let parts ← readParts? boundary fuel after
      some (part :: parts)

/-- The parts of a body with the given boundary. -/
def read? (boundary : String) (body : Bytes) : Option (List Part) := do
  let text ← stripPrefix? (utf8 ("--" ++ boundary)) body
  readParts? boundary (text.length + 1) text

/-- The boundary that a content type names. -/
def boundaryOf? (contentType : String) : Option String :=
  stripTextPrefix? "multipart/byteranges; boundary=" contentType

end Multipart

end Depot
