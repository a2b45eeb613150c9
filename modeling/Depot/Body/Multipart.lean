import Depot.Bytes
import Depot.Range.Window

/-!
# Bodies of several parts

Several windows travel in one body: each is preceded by a boundary line and two header lines that name
its type and its place in the artifact, and the last is followed by a closing delimiter. Nothing stands
before the first boundary or after the closing delimiter.
-/

namespace Depot

namespace Multipart

/-- The text that sets parts apart. -/
def boundary : String := "THIS_STRING_SEPARATES_MULTIPART"

/-- The type of every part, and of every body that is not divided. -/
def partContentType : String := "application/octet-stream"

/-- The type of a body of several parts. -/
def contentType : String := "multipart/byteranges; boundary=" ++ boundary

/-- The end of a line. -/
def lineEnd : String := "\r\n"

/-- The line that opens the first part. -/
def dashBoundary : String := "--" ++ boundary

/-- What opens every later part. -/
def delimiter : String := lineEnd ++ dashBoundary

/-- What ends the body. -/
def closeDelimiter : String := delimiter ++ "--"

/-- The two header lines of a part, each with its end. -/
def headerLines (w : Window) : String :=
  "Content-Type: " ++ partContentType ++ lineEnd ++ "Content-Range: " ++ w.contentRange ++ lineEnd

/-- Everything that stands before the bytes of a part. -/
def partHeader (isFirst : Bool) (w : Window) : Bytes :=
  utf8 ((if isFirst then dashBoundary else delimiter) ++ lineEnd ++ headerLines w ++ lineEnd)

/-- What ends the body, as bytes. -/
def closing : Bytes := utf8 closeDelimiter

/-- What a part begins with on a line of its own: the boundary line, the two header lines and an empty line. -/
def opening (w : Window) : Bytes :=
  utf8 ("--THIS_STRING_SEPARATES_MULTIPART\r\nContent-Type: application/octet-stream\r\nContent-Range: bytes "
    ++ decimal w.first ++ "-" ++ decimal w.last ++ "/" ++ decimal w.total ++ "\r\n\r\n")

/-- A part in full: what it begins with, and the bytes of the window. -/
def partText (content : Bytes) (w : Window) : Bytes :=
  opening w ++ Bytes.slice content w.first w.last

/-- The complete body of some windows of a content: their parts with a line end between every two, and the
closing delimiter. -/
def body (content : Bytes) (windows : List Window) : Bytes :=
  (utf8 "\r\n").intercalate (windows.map (partText content)) ++ utf8 "\r\n--THIS_STRING_SEPARATES_MULTIPART--"

end Multipart

end Depot
