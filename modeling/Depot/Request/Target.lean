import Depot.Bytes
import Depot.Text.Affix

/-!
# Request targets

A request names what it wants by a path, by an asterisk, by an authority alone, or by scheme, authority and
path. `Target.path?` gives the path of a target, without query and fragment and still encoded, if the
target is well formed.
-/

namespace Depot

namespace Target

/-- The most bytes that a target may have. -/
def maxLength : Nat := 65534

/-- The most characters that a scheme may have. -/
def maxSchemeLength : Nat := 64

/-- A character that may stand in a path. -/
def isPathChar (c : Char) : Bool :=
  let n := c.toNat
  n = 0x21 || n = 0x22 || (0x24 ≤ n && n ≤ 0x3b) || n = 0x3d || (0x40 ≤ n && n ≤ 0x5f)
    || (0x61 ≤ n && n ≤ 0x7e) || 0x7f ≤ n

/-- A character that may stand in a query. -/
def isQueryChar (c : Char) : Bool :=
  let n := c.toNat
  n = 0x21 || (0x24 ≤ n && n ≤ 0x3b) || n = 0x3d || 0x3f ≤ n

/-- A character that may stand in a scheme. -/
def isSchemeChar (c : Char) : Bool :=
  c.isAlphanum || c = '+' || c = '-' || c = '.' || c = '~'

/-- A character that ends an authority. -/
def endsAuthority (c : Char) : Bool :=
  c = '/' || c = '?' || c = '#'

/-- A character that may stand in an authority. -/
def isAuthorityChar (c : Char) : Bool :=
  c.isAlphanum || "!$&'()*+,-.:;=@[]_~%".toList.contains c

/-- The path at the beginning of a text, if only allowed characters stand in it and in the query that
follows. Whatever follows a number sign is left out. -/
def pathOf? (text : List Char) : Option String :=
  let path := text.takeWhile fun c => c ≠ '?' && c ≠ '#'
  let rest := text.dropWhile fun c => c ≠ '?' && c ≠ '#'
  let query := match rest with
    | '?' :: after => after.takeWhile (· ≠ '#')
    | _ => []
  if path.all isPathChar && query.all isQueryChar then
    some (if path = [] then "/" else String.ofList path)
  else none

/-- What is seen while an authority is read. -/
structure Seen where
  colons : Nat := 0
  opened : Bool := false
  closed : Bool := false
  percent : Bool := false
  /-- The last character is the sign after the user. -/
  endsInAt : Bool := false

/-- Reads one character of an authority. What stands before the sign after the user or inside brackets
does not count for what follows. -/
def Seen.next? (s : Seen) (c : Char) : Option Seen :=
  let s := { s with endsInAt := false }
  if c = ':' then if 8 ≤ s.colons then none else some { s with colons := s.colons + 1 }
  else if c = '[' then if s.percent || s.opened then none else some { s with opened := true }
  else if c = ']' then
    if !s.opened || s.closed then none
    else some { s with closed := true, colons := 0, percent := false }
  else if c = '@' then some { s with colons := 0, percent := false, endsInAt := true }
  else if c = '%' then some { s with percent := true }
  else if isAuthorityChar c then some s
  else none

/-- The authority at the beginning of a text is well formed. -/
def isAuthority (authority : List Char) : Bool :=
  match authority.foldlM Seen.next? {} with
  | none => false
  | some s => s.opened == s.closed && s.colons ≤ 1 && !s.endsInAt && !s.percent

/-- What follows the scheme at the beginning of a text: a scheme of allowed characters and `://`. -/
def afterScheme? (text : List Char) : Option (List Char × List Char) :=
  let scheme := text.takeWhile isSchemeChar
  (stripPrefix? [':', '/', '/'] (text.dropWhile isSchemeChar)).map fun rest => (scheme, rest)

/-- The path of a target that has more than one character and does not begin with a slash. -/
def fullPath? (text : List Char) : Option String :=
  match afterScheme? text with
  | some (scheme, rest) =>
    let authority := rest.takeWhile (!endsAuthority ·)
    if scheme.length ≤ maxSchemeLength && authority ≠ [] && isAuthority authority then
      pathOf? (rest.dropWhile (!endsAuthority ·))
    else none
  | none => if text.all (!endsAuthority ·) && isAuthority text then some "" else none

/-- The path of a target, if the target is well formed. A target that is an authority alone has an empty
path. -/
def path? (target : String) : Option String :=
  if maxLength < (utf8 target).length then none
  else
    match target.toList with
    | [] => none
    | ['*'] => some "*"
    | '/' :: _ => pathOf? target.toList
    | [_] => if isAuthority target.toList then some "" else none
    | text => fullPath? text

end Target

end Depot
