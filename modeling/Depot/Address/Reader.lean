import Depot.Address.Basic
import Depot.Text.Hexadecimal

/-!
# Reading socket addresses

`SocketAddress.read?` accepts an address in numbers with a port, as in `127.0.0.1:80` and `[::1]:80`. Names
are not looked up. Each reader takes what it needs from the beginning of a text and gives the rest.
-/

namespace Depot

namespace SocketAddress

/-- Reads a known character. -/
def readChar? (c : Char) : List Char → Option (List Char)
  | d :: rest => if c = d then some rest else none
  | [] => none

/-- Reads a number below `bound`, if `fits` allows its run of digits. -/
def readNumber? (radix bound : Nat) (fits : List Char → Bool) (text : List Char) :
    Option (Nat × List Char) :=
  let digits := text.takeWhile fun c => (digitIn? radix c).isSome
  if digits ≠ [] ∧ fits digits ∧ valueIn radix digits < bound then
    some (valueIn radix digits, text.drop digits.length)
  else none

/-- Reads one of four bytes: at most three digits, without a leading zero. -/
def readByte? : List Char → Option (Nat × List Char) :=
  readNumber? 10 256 fun digits => digits.length ≤ 3 && (digits.head? ≠ some '0' || digits.length = 1)

/-- Reads a port. -/
def readPort? (text : List Char) : Option (Nat × List Char) := do
  let rest ← readChar? ':' text
  readNumber? 10 65536 (fun _ => true) rest

/-- Reads `count` bytes with dots between them, the first of which follows a dot unless `isFirst`. -/
def readBytes? (isFirst : Bool) : Nat → List Char → Option (List Nat × List Char)
  | 0, text => some ([], text)
  | count + 1, text => do
    let text ← if isFirst then some text else readChar? '.' text
    let (byte, rest) ← readByte? text
    let (bytes, rest) ← readBytes? false count rest
    some (byte :: bytes, rest)

/-- Reads four bytes with dots between them. -/
def readDotted? (text : List Char) : Option (List Nat × List Char) :=
  readBytes? true 4 text

/-- Reads a group of at most four hexadecimal digits. -/
def readGroup? : List Char → Option (Nat × List Char) :=
  readNumber? 16 65536 fun digits => digits.length ≤ 4

/-- Reads what may follow a colon, or stand first. -/
def readPart? {α : Type} (isFirst : Bool) (read : List Char → Option (α × List Char))
    (text : List Char) : Option (α × List Char) :=
  if isFirst then read text else (readChar? ':' text).bind read

/-- Reads at most `limit` groups with colons between them; the last two may be written as four bytes, and
the flag says whether they are. -/
def readGroups (isFirst : Bool) : Nat → List Char → List Nat × Bool × List Char
  | 0, text => ([], false, text)
  | limit + 1, text =>
    match if limit = 0 then none else readPart? isFirst readDotted? text with
    | some ([a, b, c, d], rest) => ([256 * a + b, 256 * c + d], true, rest)
    | _ =>
      match readPart? isFirst readGroup? text with
      | some (group, rest) =>
        let (groups, dotted, rest) := readGroups false limit rest
        (group :: groups, dotted, rest)
      | none => ([], false, text)

/-- Reads eight groups, or fewer with two colons in place of the zeros that are missing. -/
def readLong? (text : List Char) : Option (List Nat × List Char) :=
  let (head, dotted, rest) := readGroups true 8 text
  if head.length = 8 then some (head, rest)
  else if dotted then none
  else do
    let rest ← readChar? ':' rest
    let rest ← readChar? ':' rest
    let (tail, _, rest) := readGroups true (7 - head.length) rest
    some (head ++ List.replicate (8 - head.length - tail.length) 0 ++ tail, rest)

/-- Reads the number of a zone; without one the zone is 0. -/
def readScope (text : List Char) : Nat × List Char :=
  match (readChar? '%' text).bind (readNumber? 10 0x100000000 fun _ => true) with
  | some found => found
  | none => (0, text)

/-- Reads a short address and its port. -/
def readShort? (text : List Char) : Option (SocketAddress × List Char) := do
  let (bytes, rest) ← readDotted? text
  let (port, rest) ← readPort? rest
  some ({ ip := .v4 bytes, port := port }, rest)

/-- Reads a long address in brackets and its port. -/
def readBracketed? (text : List Char) : Option (SocketAddress × List Char) := do
  let rest ← readChar? '[' text
  let (groups, rest) ← readLong? rest
  let (scope, rest) := readScope rest
  let rest ← readChar? ']' rest
  let (port, rest) ← readPort? rest
  some ({ ip := .v6 groups, scope := scope, port := port }, rest)

/-- The address that a text stands for. -/
def read? (text : String) : Option SocketAddress :=
  match (readShort? text.toList).or (readBracketed? text.toList) with
  | some (address, []) => some address
  | _ => none

/-- What is said of a text that is no address. -/
def invalidText : String :=
  "Invalid address: invalid socket address syntax"

end SocketAddress

end Depot
