import Depot.Text.Decimal
import Depot.Text.Hexadecimal

/-!
# JSON values

Values as they are written, with numbers kept digit by digit, and their compact text: no blanks, the seven
short escapes, `\u00xx` for the other control characters, everything else as it is.
-/

namespace Depot

namespace Json

/-- A number as it is written. -/
structure Number where
  negative : Bool := false
  /-- The number before the point. -/
  whole : Nat
  /-- The digits after the point; none if there is no point. -/
  fraction : List Char := []
  /-- The power of ten that follows. -/
  exponent : Option Int := none
deriving DecidableEq, Repr

/-- A natural number as it is written. -/
def Number.ofNat (n : Nat) : Number :=
  { whole := n }

end Json

/-- A JSON value. -/
inductive Json
  | null
  | boolean (value : Bool)
  | number (value : Json.Number)
  | string (value : String)
  | array (items : List Json)
  | object (members : List (String × Json))
deriving Repr

namespace Json

/-- A character as it stands between quotes. -/
def escapeChar (c : Char) : List Char :=
  if c = '"' then ['\\', '"']
  else if c = '\\' then ['\\', '\\']
  else if c.toNat = 8 then ['\\', 'b']
  else if c.toNat = 12 then ['\\', 'f']
  else if c = '\n' then ['\\', 'n']
  else if c = '\r' then ['\\', 'r']
  else if c = '\t' then ['\\', 't']
  else if c.toNat < 32 then
    ['\\', 'u', '0', '0', hexDigit (c.toNat / 16), hexDigit (c.toNat % 16)]
  else [c]

/-- A text in quotes. -/
def quote (text : String) : List Char :=
  '"' :: text.toList.flatMap escapeChar ++ ['"']

/-- A number, digit by digit. -/
def Number.render (n : Number) : List Char :=
  (if n.negative then ['-'] else []) ++ (decimal n.whole).toList
    ++ (if n.fraction = [] then [] else '.' :: n.fraction)
    ++ match n.exponent with
      | none => []
      | some e => 'e' :: (if e < 0 then ['-'] else []) ++ (decimal e.natAbs).toList

mutual

/-- The compact text of a value. -/
def render : Json → List Char
  | null => "null".toList
  | boolean true => "true".toList
  | boolean false => "false".toList
  | number n => n.render
  | string s => quote s
  | array items => '[' :: renderItems items ++ [']']
  | object members => '{' :: renderMembers members ++ ['}']

/-- The items of an array with commas between them. -/
def renderItems : List Json → List Char
  | [] => []
  | [item] => render item
  | item :: rest => render item ++ ',' :: renderItems rest

/-- The members of an object with commas between them. -/
def renderMembers : List (String × Json) → List Char
  | [] => []
  | [(name, value)] => quote name ++ ':' :: render value
  | (name, value) :: rest => quote name ++ ':' :: render value ++ ',' :: renderMembers rest

end

/-- The compact text of a value. -/
def compact (value : Json) : String :=
  String.ofList value.render

end Json

end Depot
