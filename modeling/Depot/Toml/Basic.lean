import Depot.Number.Signed

/-!
# TOML values

The values that a TOML document holds, once all its tables are complete.
-/

namespace Depot

/-- A TOML value. -/
inductive Toml
  | string (value : String)
  | boolean (value : Bool)
  | integer (value : Int)
  | float (value : SignedDouble)
  /-- A date, a time or both, as it is written. -/
  | moment (text : String)
  | array (items : List Toml)
  | table (members : List (String × Toml))
deriving Repr

namespace Toml

/-! ## Blanks and lines -/

/-- A blank inside a line. -/
def isBlank (c : Char) : Bool :=
  c = ' ' || c = '\t'

/-- A character that may stand in a comment, and in a text as itself. -/
def isVisible (c : Char) : Bool :=
  c = '\t' || 32 ≤ c.toNat && c.toNat ≠ 127

/-- The text without the blanks at its beginning. -/
def skipBlanks (text : List Char) : List Char :=
  text.dropWhile isBlank

/-- Reads the end of a line. -/
def readNewline? : List Char → Option (List Char)
  | '\n' :: rest => some rest
  | '\r' :: '\n' :: rest => some rest
  | _ => none

/-- The text without the newline at its beginning, if there is one. -/
def skipNewline (text : List Char) : List Char :=
  (readNewline? text).getD text

/-- The text without the blanks and newlines at its beginning. -/
def skipSpace : List Char → List Char
  | [] => []
  | c :: rest =>
    if isBlank c || c = '\n' || (c = '\r' && rest.head? = some '\n') then skipSpace rest else c :: rest

/-- The text without the blanks, newlines and comments at its beginning. -/
def skipGaps (inComment : Bool) : List Char → List Char
  | [] => []
  | c :: rest =>
    if c = '\n' || (c = '\r' && rest.head? = some '\n') then skipGaps false rest
    else if inComment then if isVisible c then skipGaps true rest else c :: rest
    else if c = '#' then skipGaps true rest
    else if isBlank c then skipGaps false rest
    else c :: rest

/-- The text without the comment at its beginning, if there is one. -/
def skipComment : List Char → List Char
  | '#' :: rest => rest.dropWhile isVisible
  | text => text

/-- Reads blanks, a comment and the end of the line, or of the text. -/
def endLine? (text : List Char) : Option (List Char) :=
  match skipComment (skipBlanks text) with
  | [] => some []
  | rest => readNewline? rest

end Toml

end Depot
