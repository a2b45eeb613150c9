import Depot.Text.Decimal
import Depot.Text.Hexadecimal

/-!
# Socket addresses

Addresses of either family and their text. The longest run of two or more zero groups of a long address is
left out, the first of equal ones, and an address that stands for a short one is shown with its dots.
-/

namespace Depot

/-- An address of a machine. -/
inductive IpAddress
  /-- Four bytes. -/
  | v4 (bytes : List Nat)
  /-- Eight groups of 16 bits. -/
  | v6 (groups : List Nat)
deriving DecidableEq, Repr

/-- An address of a machine with a port. -/
structure SocketAddress where
  ip : IpAddress
  /-- The zone of an address that is only valid on one link; 0 is none. -/
  scope : Nat := 0
  port : Nat
deriving DecidableEq, Repr

namespace IpAddress

/-- A group in hexadecimal digits, without leading zeros. -/
def groupText (group : Nat) : String :=
  String.ofList (Nat.toDigits 16 group)

/-- Groups with colons between them. -/
def groupsText (groups : List Nat) : String :=
  String.intercalate ":" (groups.map groupText)

/-- Bytes with dots between them. -/
def dotted (bytes : List Nat) : String :=
  String.intercalate "." (bytes.map decimal)

/-- The start and the length of the first longest run of zeros. The run `start, length` reaches up to
position `index`; `best` is the longest so far. -/
def longestZeros (index : Nat) (run best : Nat × Nat) : List Nat → Nat × Nat
  | [] => best
  | group :: rest =>
    if group = 0 then
      let run := if run.2 = 0 then (index, 1) else (run.1, run.2 + 1)
      longestZeros (index + 1) run (if best.2 < run.2 then run else best) rest
    else longestZeros (index + 1) (0, 0) best rest

/-- Eight groups, with a run of zeros left out. -/
def compressed (groups : List Nat) : String :=
  let (start, length) := longestZeros 0 (0, 0) (0, 0) groups
  if 1 < length then
    groupsText (groups.take start) ++ "::" ++ groupsText (groups.drop (start + length))
  else groupsText groups

/-- The text of an address. -/
def text : IpAddress → String
  | v4 bytes => dotted bytes
  | v6 [0, 0, 0, 0, 0, 65535, high, low] =>
    "::ffff:" ++ dotted [high / 256, high % 256, low / 256, low % 256]
  | v6 groups => compressed groups

end IpAddress

namespace SocketAddress

/-- The text of an address with its port; a long address stands in brackets. -/
def text (a : SocketAddress) : String :=
  match a.ip with
  | .v4 _ => a.ip.text ++ ":" ++ decimal a.port
  | .v6 _ =>
    "[" ++ a.ip.text ++ (if a.scope = 0 then "" else "%" ++ decimal a.scope) ++ "]:" ++ decimal a.port

end SocketAddress

end Depot
