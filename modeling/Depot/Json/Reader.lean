import Depot.Json.Basic

/-!
# Reading JSON

`Json.read?` accepts the text of one value with blanks around it. Numbers have no leading zeros, texts hold
no bare control character and no half of a surrogate pair, and arrays and objects are nested at most
`Json.maxDepth` deep. The members of an object are kept as they are written, also two of one name. The
readers take what they need from the beginning of a text and give the rest; their fuel is one more than the
length of the text, and no value needs more.
-/

namespace Depot

namespace Json

/-- How deep arrays and objects may be nested. -/
def maxDepth : Nat := 127

/-- A character that may stand between the parts of a value. -/
def isBlank (c : Char) : Bool :=
  c = ' ' || c = '\n' || c = '\r' || c = '\t'

/-- The text without the blanks at its beginning. -/
def skipBlanks (text : List Char) : List Char :=
  text.dropWhile isBlank

/-- Reads a known word. -/
def readWord? : List Char → List Char → Option (List Char)
  | [], text => some text
  | c :: word, d :: text => if c = d then readWord? word text else none
  | _ :: _, [] => none

/-- The number that four hexadecimal digits stand for. -/
def readHex4? (a b c d : Char) : Option Nat := do
  let a ← hexValue? a
  let b ← hexValue? b
  let c ← hexValue? c
  let d ← hexValue? d
  some (4096 * a + 256 * b + 16 * c + d)

/-- The character that a short escape stands for. -/
def shortEscape? (c : Char) : Option Char :=
  if c = '"' ∨ c = '\\' ∨ c = '/' then some c
  else if c = 'b' then some (Char.ofNat 8)
  else if c = 'f' then some (Char.ofNat 12)
  else if c = 'n' then some '\n'
  else if c = 'r' then some '\r'
  else if c = 't' then some '\t'
  else none

/-- Reads a text up to its closing quote. -/
def readChars? : List Char → Option (List Char × List Char)
  | [] => none
  | '"' :: rest => some ([], rest)
  | '\\' :: 'u' :: a :: b :: c :: d :: rest =>
    match readHex4? a b c d with
    | none => none
    | some high =>
      if 0xd800 ≤ high ∧ high < 0xdc00 then
        match rest with
        | '\\' :: 'u' :: e :: f :: g :: h :: rest =>
          match readHex4? e f g h with
          | none => none
          | some low =>
            if 0xdc00 ≤ low ∧ low < 0xe000 then
              (readChars? rest).map fun (chars, rest) =>
                (Char.ofNat (0x10000 + 1024 * (high - 0xd800) + (low - 0xdc00)) :: chars, rest)
            else none
        | _ => none
      else if 0xdc00 ≤ high ∧ high < 0xe000 then none
      else (readChars? rest).map fun (chars, rest) => (Char.ofNat high :: chars, rest)
  | '\\' :: c :: rest =>
    match shortEscape? c with
    | none => none
    | some meant => (readChars? rest).map fun (chars, rest) => (meant :: chars, rest)
  | c :: rest =>
    if c.toNat < 32 then none
    else (readChars? rest).map fun (chars, rest) => (c :: chars, rest)

/-- Reads the digits before the point: a single zero, or digits that do not begin with one. -/
def readWhole? (text : List Char) : Option (Nat × List Char) :=
  match text with
  | '0' :: rest =>
    match rest with
    | [] => some (0, [])
    | c :: _ => if c.isDigit then none else some (0, rest)
  | _ =>
    match Decimal.read? (text.takeWhile Char.isDigit) with
    | some n => some (n, text.dropWhile Char.isDigit)
    | none => none

/-- Reads the point and the digits after it, if there is a point. -/
def readFraction? (text : List Char) : Option (List Char × List Char) :=
  match text with
  | '.' :: rest =>
    if rest.takeWhile Char.isDigit = [] then none
    else some (rest.takeWhile Char.isDigit, rest.dropWhile Char.isDigit)
  | _ => some ([], text)

/-- Reads the sign and the digits of an exponent. -/
def readExponentDigits? (text : List Char) : Option (Int × List Char) :=
  let (sign, rest) : Int × List Char := match text with
    | '-' :: rest => (-1, rest)
    | '+' :: rest => (1, rest)
    | _ => (1, text)
  match Decimal.read? (rest.takeWhile Char.isDigit) with
  | some n => some (sign * n, rest.dropWhile Char.isDigit)
  | none => none

/-- Reads the exponent, if there is one. -/
def readExponent? (text : List Char) : Option (Option Int × List Char) :=
  match text with
  | c :: rest =>
    if c = 'e' ∨ c = 'E' then (readExponentDigits? rest).map fun (e, rest) => (some e, rest)
    else some (none, text)
  | [] => some (none, [])

/-- Reads a number. -/
def readNumber? (text : List Char) : Option (Number × List Char) :=
  let (negative, text) := match text with
    | '-' :: rest => (true, rest)
    | _ => (false, text)
  match readWhole? text with
  | none => none
  | some (whole, text) =>
    match readFraction? text with
    | none => none
    | some (fraction, text) =>
      match readExponent? text with
      | none => none
      | some (exponent, text) => some (⟨negative, whole, fraction, exponent⟩, text)

mutual

/-- Reads a value and the blanks before it. -/
def readValue? : Nat → Nat → List Char → Option (Json × List Char)
  | 0, _, _ => none
  | fuel + 1, depth, text =>
    match skipBlanks text with
    | '"' :: rest => (readChars? rest).map fun (chars, rest) => (.string (String.ofList chars), rest)
    | '[' :: rest =>
      match depth with
      | 0 => none
      | depth + 1 =>
        match skipBlanks rest with
        | ']' :: rest => some (.array [], rest)
        | _ => (readItems? fuel depth rest).map fun (items, rest) => (.array items, rest)
    | '\x7b' :: rest =>
      match depth with
      | 0 => none
      | depth + 1 =>
        match skipBlanks rest with
        | '\x7d' :: rest => some (.object [], rest)
        | _ => (readMembers? fuel depth rest).map fun (members, rest) => (.object members, rest)
    | 't' :: rest => (readWord? "rue".toList rest).map fun rest => (.boolean true, rest)
    | 'f' :: rest => (readWord? "alse".toList rest).map fun rest => (.boolean false, rest)
    | 'n' :: rest => (readWord? "ull".toList rest).map fun rest => (.null, rest)
    | other => (readNumber? other).map fun (found, rest) => (.number found, rest)

/-- Reads the items of an array and its closing bracket. -/
def readItems? : Nat → Nat → List Char → Option (List Json × List Char)
  | 0, _, _ => none
  | fuel + 1, depth, text =>
    match readValue? fuel depth text with
    | none => none
    | some (item, rest) =>
      match skipBlanks rest with
      | ',' :: rest => (readItems? fuel depth rest).map fun (items, rest) => (item :: items, rest)
      | ']' :: rest => some ([item], rest)
      | _ => none

/-- Reads the members of an object and its closing brace. -/
def readMembers? : Nat → Nat → List Char → Option (List (String × Json) × List Char)
  | 0, _, _ => none
  | fuel + 1, depth, text =>
    match skipBlanks text with
    | '"' :: rest =>
      match readChars? rest with
      | none => none
      | some (name, rest) =>
        match skipBlanks rest with
        | ':' :: rest =>
          match readValue? fuel depth rest with
          | none => none
          | some (value, rest) =>
            match skipBlanks rest with
            | ',' :: rest =>
              (readMembers? fuel depth rest).map fun (members, rest) =>
                ((String.ofList name, value) :: members, rest)
            | '\x7d' :: rest => some ([(String.ofList name, value)], rest)
            | _ => none
        | _ => none
    | _ => none

end

/-- The value that a text stands for. -/
def read? (text : List Char) : Option Json :=
  match readValue? (text.length + 1) maxDepth text with
  | some (value, rest) => if skipBlanks rest = [] then some value else none
  | none => none

end Json

end Depot
