import Depot.Access.Entry
import Depot.Text.Affix

/-!
# Access line patterns

A pattern is a text with variables such as `$status`. `Pattern.expand` replaces the variables of an entry
one after the other, each throughout the line as it then stands, so that a value that spells a later
variable is replaced in its turn; a variable that begins with another comes before it. `Pattern.substitute`
is the single pass over the pattern in which a value is never looked at again.
-/

namespace Depot

namespace Pattern

/-- A variable and the value that takes its place. -/
abbrev Binding := List Char × List Char

/-- The line with every occurrence of `name` replaced, from left to right. The first `skip` characters are
dropped. -/
def replaceFrom (name value : List Char) : Nat → List Char → List Char
  | _, [] => []
  | skip + 1, _ :: rest => replaceFrom name value skip rest
  | 0, c :: rest =>
    if name.isPrefixOf (c :: rest) then value ++ replaceFrom name value (name.length - 1) rest
    else c :: replaceFrom name value 0 rest

/-- The line with every occurrence of a variable replaced by its value. -/
def replaceAll (line : List Char) (b : Binding) : List Char :=
  replaceFrom b.1 b.2 0 line

/-- Replaces the variables one after the other. -/
def expand (bindings : List Binding) (line : List Char) : List Char :=
  bindings.foldl replaceAll line

/-- The longest variable at the beginning of a text. -/
def longest? (text : List Char) (bindings : List Binding) : Option Binding :=
  bindings.foldl (fun found b =>
    if b.1.isPrefixOf text && found.all fun other => other.1.length < b.1.length then some b
    else found) none

/-- Replaces the variables in one pass. The first `skip` characters are dropped. -/
def substituteFrom (bindings : List Binding) : Nat → List Char → List Char
  | _, [] => []
  | skip + 1, _ :: rest => substituteFrom bindings skip rest
  | 0, c :: rest =>
    match longest? (c :: rest) bindings with
    | some b => b.2 ++ substituteFrom bindings (b.1.length - 1) rest
    | none => c :: substituteFrom bindings 0 rest

/-- Replaces the variables in one pass: at each place the longest that stands there. -/
def substitute (bindings : List Binding) (pattern : List Char) : List Char :=
  substituteFrom bindings 0 pattern

end Pattern

namespace AccessEntry

/-- The variables of a pattern, in the order in which they are replaced. -/
def placeholders (e : AccessEntry) : List (String × String) :=
  [("$remote_addr", e.remote),
    ("$time_local", e.stamp.common),
    ("$time_iso8601", e.stamp.rfc3339),
    ("$request_time", e.seconds),
    ("$request_method", e.method),
    ("$request_uri", e.path),
    ("$request", e.requestLine),
    ("$status", decimal e.status),
    ("$body_bytes_sent", decimal e.bodyBytes),
    ("$http_range", orDash e.range),
    ("$http_user_agent", orDash e.userAgent)]

/-- The variables of a pattern and their values, character by character. -/
def bindings (e : AccessEntry) : List Pattern.Binding :=
  e.placeholders.map fun (name, value) => (name.toList, value.toList)

/-- The line that a pattern makes of the entry. -/
def custom (pattern : String) (e : AccessEntry) : String :=
  String.ofList (Pattern.expand e.bindings pattern.toList)

/-- The line in a format: one of three names, or a pattern. -/
def line (format : String) (e : AccessEntry) : String :=
  if format = "combined" then e.combined
  else if format = "common" then e.common
  else if format = "json" then e.toJson.compact
  else e.custom format

end AccessEntry

end Depot
