import Depot.Calendar.Moment
import Depot.Json.Basic
import Depot.Number.Double

/-!
# Access entries

One entry is kept for each request that is answered. It is written in one of two fixed line formats or as
a JSON object with the keys in alphabetical order.
-/

namespace Depot

/-- What is recorded about one request and its answer. -/
structure AccessEntry where
  /-- The address of the client. -/
  remote : String
  /-- When the request came in. -/
  stamp : Stamp
  method : String
  path : String
  /-- The version of HTTP, such as `1.1`. -/
  version : String
  status : Nat
  /-- The number of body bytes sent. -/
  bodyBytes : Nat
  /-- The ranges asked for. -/
  range : Option String
  userAgent : Option String
  /-- How long the answer took, in microseconds. -/
  micros : Nat
deriving DecidableEq, Repr

namespace AccessEntry

/-- The first line of the request. -/
def requestLine (e : AccessEntry) : String :=
  e.method ++ " " ++ e.path ++ " HTTP/" ++ e.version

/-- A value, or a dash if there is none. -/
def orDash (value : Option String) : String :=
  value.getD "-"

/-- The line with address, time, request, status and size. -/
def common (e : AccessEntry) : String :=
  e.remote ++ " - - [" ++ e.stamp.common ++ "] \"" ++ e.requestLine ++ "\" " ++ decimal e.status ++ " "
    ++ decimal e.bodyBytes

/-- The same line with the ranges and the user agent at its end. -/
def combined (e : AccessEntry) : String :=
  e.common ++ " \"" ++ orDash e.range ++ "\" \"" ++ orDash e.userAgent ++ "\""

/-- A text or null. -/
def textOrNull (value : Option String) : Json :=
  match value with
  | some text => .string text
  | none => .null

/-- The entry as an object. -/
def toJson (e : AccessEntry) : Json :=
  .object [
    ("body_bytes", .number (.ofNat e.bodyBytes)),
    ("http_version", .string e.version),
    ("method", .string e.method),
    ("path", .string e.path),
    ("range", textOrNull e.range),
    ("remote_addr", .string e.remote),
    ("request_time_us", .number (.ofNat e.micros)),
    ("status", .number (.ofNat e.status)),
    ("time", .string e.stamp.rfc3339),
    ("user_agent", textOrNull e.userAgent)]

/-- The time that the answer took, in seconds with three places. It is first brought to the nearest
double. -/
def seconds (e : AccessEntry) : String :=
  ((Double.ofNat e.micros).div (Double.ofNat 1000000)).fixed 3

end AccessEntry

end Depot
