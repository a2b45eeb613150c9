import Depot.Text.Hexadecimal
import Depot.Text.Utf8

/-!
# Percent encoding

In a path, a percent sign and two hexadecimal digits stand for a byte. A percent sign that is not followed
by two digits stands for itself, and so does a plus sign. `Percent.decode` reads a text once; what the
digits spell is not decoded again.
-/

namespace Depot

namespace Percent

/-- The value of a byte that spells a hexadecimal digit. -/
def digit? (b : UInt8) : Option Nat :=
  hexValue? (Char.ofNat b.toNat)

/-- The bytes that a percent-encoded text stands for. After a percent sign and a single digit, which stand
for themselves, reading goes on with the byte behind them. -/
def decodeBytes : Bytes → Bytes
  | 0x25 :: first :: second :: rest =>
    match digit? first with
    | none => 0x25 :: decodeBytes (first :: second :: rest)
    | some high =>
      match digit? second with
      | none => 0x25 :: first :: decodeBytes (second :: rest)
      | some low => UInt8.ofNat (16 * high + low) :: decodeBytes rest
  | b :: rest => b :: decodeBytes rest
  | [] => []

/-- The text that a percent-encoded text stands for. -/
def decode (text : String) : Except Utf8.Fault String :=
  Utf8.read (decodeBytes (utf8 text))

end Percent

end Depot
