import Depot.Bytes
import Depot.Text.Decimal

/-!
# Reading UTF-8

`Utf8.read` takes bytes as text. A fault is named by its position and, unless the bytes merely end too
early, by the number of bytes that cannot be the beginning of a character.
-/

namespace Depot

namespace Utf8

/-- Why bytes are no text. -/
structure Fault where
  /-- The number of bytes before the faulty ones. -/
  index : Nat
  /-- The number of faulty bytes; nothing if more bytes could mend them. -/
  length : Option Nat
deriving DecidableEq, Repr

/-- The text that reports the fault. -/
def Fault.message (f : Fault) : String :=
  match f.length with
  | some length =>
    "invalid utf-8 sequence of " ++ decimal length ++ " bytes from index " ++ decimal f.index
  | none => "incomplete utf-8 byte sequence from index " ++ decimal f.index

/-- A byte that continues a character. -/
def isContinuation (b : UInt8) : Bool :=
  0x80 ≤ b && b ≤ 0xbf

/-- The number of bytes that follow a first byte, and the bounds of the next byte. The bounds leave out
the longer spellings of short characters, the surrogates and everything beyond the last character. -/
def form? (first : UInt8) : Option (Nat × UInt8 × UInt8) :=
  if first ≤ 0x7f then some (0, 0, 0)
  else if 0xc2 ≤ first ∧ first ≤ 0xdf then some (1, 0x80, 0xbf)
  else if first = 0xe0 then some (2, 0xa0, 0xbf)
  else if first = 0xed then some (2, 0x80, 0x9f)
  else if 0xe1 ≤ first ∧ first ≤ 0xef then some (2, 0x80, 0xbf)
  else if first = 0xf0 then some (3, 0x90, 0xbf)
  else if 0xf1 ≤ first ∧ first ≤ 0xf3 then some (3, 0x80, 0xbf)
  else if first = 0xf4 then some (3, 0x80, 0x8f)
  else none

/-- The bits of a first byte that belong to the character. -/
def firstBits (more : Nat) (first : UInt8) : Nat :=
  match more with
  | 0 => first.toNat
  | 1 => first.toNat % 32
  | 2 => first.toNat % 16
  | _ => first.toNat % 8

/-- Adds the bits of `more` continuation bytes; `seen` bytes of the character come before them. -/
def readMore (seen : Nat) : Nat → Nat → Bytes → Except (Option Nat) Nat
  | 0, code, _ => .ok code
  | _ + 1, _, [] => .error none
  | more + 1, code, b :: rest =>
    if isContinuation b then readMore (seen + 1) more (64 * code + b.toNat % 64) rest
    else .error (some seen)

/-- The first character of some bytes and the number of bytes after its first, or the number of faulty
bytes. -/
def readChar (first : UInt8) (rest : Bytes) : Except (Option Nat) (Char × Nat) :=
  match form? first with
  | none => .error (some 1)
  | some (0, _, _) => .ok (Char.ofNat first.toNat, 0)
  | some (more + 1, low, high) =>
    match rest with
    | [] => .error none
    | second :: later =>
      if low ≤ second ∧ second ≤ high then
        match readMore 2 more (64 * firstBits (more + 1) first + second.toNat % 64) later with
        | .ok code => .ok (Char.ofNat code, more + 1)
        | .error e => .error e
      else .error (some 1)

/-- Reads bytes from position `index` on, the first `skip` of which belong to a character read before. -/
def readFrom (index : Nat) : Nat → Bytes → Except Fault (List Char)
  | _, [] => .ok []
  | skip + 1, _ :: rest => readFrom (index + 1) skip rest
  | 0, first :: rest =>
    match readChar first rest with
    | .error length => .error ⟨index, length⟩
    | .ok (c, more) =>
      match readFrom (index + 1) more rest with
      | .ok chars => .ok (c :: chars)
      | .error e => .error e

/-- The text of some bytes, or the first fault. -/
def read (bytes : Bytes) : Except Fault String :=
  match readFrom 0 0 bytes with
  | .ok chars => .ok (String.ofList chars)
  | .error e => .error e

end Utf8

end Depot
