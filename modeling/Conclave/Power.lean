/-!
# Powers of two and ten, and the ranges of words

The powers that fix the formats of numbers, and the bounds of signed numbers of a fixed width.
-/

namespace Conclave

abbrev twoTo (k : Nat) : Nat := Nat.pow 2 k

abbrev tenTo (k : Nat) : Nat := Nat.pow 10 k

/-- Signed numbers of 64 bits are below this, and not below its negative. -/
abbrev signed64 : Int := 0x8000000000000000

/-- Signed numbers of 32 bits are below this, and not below its negative. -/
abbrev signed32 : Int := 0x80000000

end Conclave
