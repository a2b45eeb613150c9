import Depot.Toml.Number
import Depot.Toml.Quoted
import Depot.Toml.Table
import Depot.Toml.Tagged

/-!
# Reading TOML

`Toml.read?` gives the members of a document. The readers of values take what they need from the beginning
of a text and give the rest; fuel that exceeds the length of the text is enough.
-/

namespace Depot

namespace Toml

/-- How deep arrays and tables may be nested, and how many parts a key may have. -/
def maxDepth : Nat := 79

/-- Reads a known word. -/
def readWord? (word : List Char) (value : Toml) (text : List Char) : Option (Toml × List Char) :=
  if text.take word.length = word then some (value, text.drop word.length) else none

/-- Reads a key and the sign behind it. -/
def readAssigned? (text : List Char) : Option (List String × List Char) :=
  match readKey? maxDepth text with
  | some (key, '=' :: rest) => some (key, skipBlanks rest)
  | _ => none

/-- Reads a value that holds no others. -/
def readPlain? (text : List Char) : Option (Toml × List Char) :=
  match text with
  | '"' :: _ | '\'' :: _ => (readQuoted? text).map fun (chars, rest) => (.string (String.ofList chars), rest)
  | 't' :: _ => readWord? "true".toList (.boolean true) text
  | 'f' :: _ => readWord? "false".toList (.boolean false) text
  | _ => (readMoment? plainLimits text).or (readNumber? text)

mutual

/-- Reads a value. -/
def readValue? : Nat → Nat → List Char → Option (Toml × List Char)
  | 0, _, _ => none
  | fuel + 1, depth, text =>
    match text, depth with
    | '[' :: _, 0 | '\x7b' :: _, 0 => none
    | '[' :: rest, depth + 1 =>
      (readItems? fuel depth rest).map fun (items, rest) => (.array items, rest)
    | '\x7b' :: rest, depth + 1 =>
      match skipBlanks rest with
      | '\x7d' :: rest => some (.table [], rest)
      | rest => do
        let (entries, rest) ← readEntries? fuel depth rest
        let table ← inlineTable? entries
        some (table, rest)
    | _, _ => readPlain? text

/-- Reads the items of an array and its closing bracket. A comma may follow the last item. -/
def readItems? : Nat → Nat → List Char → Option (List Toml × List Char)
  | 0, _, _ => none
  | fuel + 1, depth, text =>
    match skipGaps false text with
    | ']' :: rest => some ([], rest)
    | text =>
      match readValue? fuel depth text with
      | none => none
      | some (item, rest) =>
        match skipGaps false rest with
        | ',' :: rest => (readItems? fuel depth rest).map fun (items, rest) => (item :: items, rest)
        | ']' :: rest => some ([item], rest)
        | _ => none

/-- Reads the entries of a table in braces and its closing brace. -/
def readEntries? : Nat → Nat → List Char → Option (List (List String × Toml) × List Char)
  | 0, _, _ => none
  | fuel + 1, depth, text =>
    match readAssigned? text with
    | none => none
    | some (key, rest) =>
      match readValue? fuel depth rest with
      | none => none
      | some (value, rest) =>
        match skipBlanks rest with
        | ',' :: rest =>
          (readEntries? fuel depth rest).map fun (entries, rest) => ((key, value) :: entries, rest)
        | '\x7d' :: rest => some ([(key, value)], rest)
        | _ => none

end

/-- Reads the lines of a document under the last header. Each line takes a character at least. -/
def readDocument? : Nat → List String → Members → List Char → Option Members
  | fuel, header, members, text =>
    match skipBlanks text, fuel with
    | [], _ => some members
    | _, 0 => none
    | '#' :: rest, fuel + 1 => do
      let rest ← endLine? ('#' :: rest)
      readDocument? fuel header members rest
    | '\n' :: rest, fuel + 1 => readDocument? fuel header members rest
    | '\r' :: '\n' :: rest, fuel + 1 => readDocument? fuel header members rest
    | '[' :: '[' :: rest, fuel + 1 => do
      let (key, rest) ← readKey? maxDepth rest
      let rest ← match rest with
        | ']' :: ']' :: rest => endLine? rest
        | _ => none
      let members ← members.openElement? (splitKey key).1 (splitKey key).2
      readDocument? fuel key members rest
    | '[' :: rest, fuel + 1 => do
      let (key, rest) ← readKey? maxDepth rest
      let rest ← match rest with
        | ']' :: rest => endLine? rest
        | _ => none
      let members ← members.openTable? (splitKey key).1 (splitKey key).2
      readDocument? fuel key members rest
    | text, fuel + 1 => do
      let (key, rest) ← readAssigned? text
      let (value, rest) ← readValue? rest.length.succ maxDepth rest
      let rest ← endLine? rest
      let members ← members.insertUnder? header (splitKey key).1 (splitKey key).2 value
      readDocument? fuel header members rest

/-- The members of the document that a text stands for, which must not be a moment as a whole. A byte order
mark may come first. -/
def read? (text : List Char) : Option (List (String × Toml)) :=
  let text := match text with
    | '\ufeff' :: rest => rest
    | _ => text
  match (readDocument? text.length [] [] text).bind fun members => resolve? (.table (closeMembers members)) with
  | some (.table members) => some members
  | _ => none

end Toml

end Depot
