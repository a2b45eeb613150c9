import Depot.Text.Hexadecimal
import Depot.Toml.Basic

/-!
# Quoted TOML texts

Texts in double quotes know escapes, texts in single quotes do not. Behind three quotes a text may run over
several lines. Each reader takes what it needs from the beginning of a text and gives the rest; fuel that
exceeds the length of the text is enough.
-/

namespace Depot

namespace Toml

/-- The character that a short escape stands for. -/
def shortEscape? (c : Char) : Option Char :=
  if c = '"' ∨ c = '\\' then some c
  else if c = 'b' then some (Char.ofNat 8)
  else if c = 't' then some '\t'
  else if c = 'n' then some '\n'
  else if c = 'f' then some (Char.ofNat 12)
  else if c = 'r' then some '\r'
  else none

/-- Reads the character that `count` hexadecimal digits stand for. -/
def readScalar? (count : Nat) (text : List Char) : Option (Char × List Char) :=
  let digits := text.take count
  if digits.length = count ∧ digits.all (fun c => (hexValue? c).isSome)
      ∧ (valueIn 16 digits).isValidChar then
    some (Char.ofNat (valueIn 16 digits), text.drop count)
  else none

/-- Reads what follows a backslash. -/
def readEscape? : List Char → Option (Char × List Char)
  | [] => none
  | 'u' :: rest => readScalar? 4 rest
  | 'U' :: rest => readScalar? 8 rest
  | c :: rest => (shortEscape? c).map fun meant => (meant, rest)

/-- Puts a character in front of what is read behind it. -/
def before (c : Char) (found : Option (List Char × List Char)) : Option (List Char × List Char) :=
  found.map fun (chars, rest) => (c :: chars, rest)

/-- Reads a text with escapes up to its closing quote. -/
def readBasic? : Nat → List Char → Option (List Char × List Char)
  | _, '"' :: rest => some ([], rest)
  | fuel + 1, '\\' :: rest =>
    match readEscape? rest with
    | none => none
    | some (c, rest) => before c (readBasic? fuel rest)
  | fuel + 1, c :: rest => if isVisible c then before c (readBasic? fuel rest) else none
  | _, _ => none

/-- A character that stands for itself between single quotes. -/
def isLiteral (c : Char) : Bool :=
  isVisible c && c ≠ '\''

/-- Reads a text without escapes up to its closing quote. -/
def readLiteral? (text : List Char) : Option (List Char × List Char) :=
  match text.dropWhile isLiteral with
  | '\'' :: rest => some (text.takeWhile isLiteral, rest)
  | _ => none

/-- Reads a text of several lines up to the three quotes that close it; up to two more belong to the text.
A backslash at the end of a line joins it to the next text that follows. -/
def readLines? (quote : Char) : Nat → List Char → Option (List Char × List Char)
  | 0, _ => none
  | _, [] => none
  | fuel + 1, c :: rest =>
    let run := ((c :: rest).takeWhile (· = quote)).length
    if 3 ≤ run then
      some (List.replicate (min (run - 3) 2) quote, (c :: rest).drop (min (run - 3) 2 + 3))
    else
      match readNewline? (c :: rest) with
      | some rest => before '\n' (readLines? quote fuel rest)
      | none =>
        if c = '\\' ∧ quote = '"' then
          match readNewline? (skipBlanks rest) with
          | some rest => readLines? quote fuel (skipSpace rest)
          | none =>
            match readEscape? rest with
            | none => none
            | some (c, rest) => before c (readLines? quote fuel rest)
        else if isVisible c then before c (readLines? quote fuel rest)
        else none

/-- Reads a quoted text. -/
def readQuoted? (text : List Char) : Option (List Char × List Char) :=
  match text with
  | '"' :: '"' :: '"' :: rest => readLines? '"' text.length (skipNewline rest)
  | '\'' :: '\'' :: '\'' :: rest => readLines? '\'' text.length (skipNewline rest)
  | '"' :: rest => readBasic? text.length rest
  | '\'' :: rest => readLiteral? rest
  | _ => none

/-! ## Keys -/

/-- A character of a key without quotes. -/
def isKeyChar (c : Char) : Bool :=
  c.isAlphanum || c = '_' || c = '-'

/-- Reads one part of a key. -/
def readKeyPart? (text : List Char) : Option (List Char × List Char) :=
  match text with
  | '"' :: rest => readBasic? text.length rest
  | '\'' :: rest => readLiteral? rest
  | _ => if text.takeWhile isKeyChar = [] then none else some (text.takeWhile isKeyChar, text.dropWhile isKeyChar)

/-- Reads the parts of a key, with dots between them and blanks around them; there are at most `limit`. -/
def readKey? : Nat → List Char → Option (List String × List Char)
  | 0, _ => none
  | limit + 1, text =>
    match readKeyPart? (skipBlanks text) with
    | none => none
    | some (part, rest) =>
      match skipBlanks rest with
      | '.' :: rest =>
        (readKey? limit rest).map fun (parts, rest) => (String.ofList part :: parts, rest)
      | rest => some ([String.ofList part], rest)

end Toml

end Depot
