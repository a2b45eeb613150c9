/-!
# Powers and words

Powers of two and of ten, and the bounds of numbers of 64 bits.
-/

namespace Depot

/-- The power of two with exponent `k`. -/
def twoTo (k : Nat) : Nat :=
  Nat.pow 2 k

/-- The power of ten with exponent `k`. -/
def tenTo (k : Nat) : Nat :=
  Nat.pow 10 k

theorem twoTo_succ (k : Nat) : twoTo (k + 1) = twoTo k * 2 :=
  rfl

theorem tenTo_succ (k : Nat) : tenTo (k + 1) = tenTo k * 10 :=
  rfl

theorem twoTo_pos (k : Nat) : 0 < twoTo k :=
  Nat.pow_pos (by decide)

theorem tenTo_pos (k : Nat) : 0 < tenTo k :=
  Nat.pow_pos (by decide)

/-- The bound of numbers of 64 bits. -/
def wordBound : Nat := 0x10000000000000000

/-- The bound of numbers of 64 bits of which one is the sign. -/
def signedBound : Nat := 0x8000000000000000

theorem wordBound_eq : wordBound = twoTo 64 :=
  rfl

theorem signedBound_eq : signedBound = twoTo 63 :=
  rfl

/-- The zero that sums of numbers begin with, whatever else is imported. -/
instance zeroOfSums : Zero Nat :=
  ⟨0⟩

end Depot
