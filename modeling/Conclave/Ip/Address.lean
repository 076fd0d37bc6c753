/-!
# Internet addresses

Addresses of both families as bit vectors, their leading bits, and the canonical form in which
an IPv4 address that is written as an IPv6 one counts as IPv4.
-/

namespace Conclave.Ip

/-- The first `n` bits of a bit vector, the others cleared. -/
def leading {w : Nat} (n : Nat) (b : BitVec w) : BitVec w := (b >>> (w - n)) <<< (w - n)

theorem getLsbD_leading {w : Nat} (n : Nat) (b : BitVec w) (i : Nat) :
    (leading n b).getLsbD i = (b.getLsbD i && decide (w - n ≤ i)) := by
  unfold leading
  simp only [BitVec.getLsbD_shiftLeft, BitVec.getLsbD_ushiftRight]
  by_cases h : w - n ≤ i
  · have h1 : w - n + (i - (w - n)) = i := by omega
    by_cases hi : i < w
    · simp [h, h1, hi, Nat.not_lt.2 h]
    · simp [h, h1, hi, BitVec.getLsbD_of_ge b i (by omega)]
  · simp [h, Nat.lt_of_not_le h]

theorem leading_leading {w : Nat} (n : Nat) (b : BitVec w) :
    leading n (leading n b) = leading n b := by
  apply BitVec.eq_of_getLsbD_eq
  intro i _
  simp [getLsbD_leading]

/-- An internet address. -/
inductive Address where
  | v4 (bits : BitVec 32)
  | v6 (bits : BitVec 128)
deriving DecidableEq, Repr, Inhabited

namespace Address

def width : Address → Nat
  | v4 _ => 32
  | v6 _ => 128

/-- The first `n` bits of an address, the others cleared. -/
def leading (n : Nat) : Address → Address
  | v4 b => v4 (Ip.leading n b)
  | v6 b => v6 (Ip.leading n b)

@[simp] theorem width_leading (n : Nat) (a : Address) : (a.leading n).width = a.width := by
  cases a <;> rfl

@[simp] theorem leading_leading (n : Nat) (a : Address) :
    (a.leading n).leading n = a.leading n := by
  cases a <;> simp [leading, Ip.leading_leading]

/-- The IPv4 address that an IPv6 address stands for, when it lies in `::ffff:0:0/96`. -/
def mapped? (bits : BitVec 128) : Option (BitVec 32) :=
  if bits >>> 32 = 0xffff then some (bits.truncate 32) else none

/-- An address with the IPv4 addresses among the IPv6 ones as such. -/
def canonical : Address → Address
  | v4 b => v4 b
  | v6 b =>
    match mapped? b with
    | some b => v4 b
    | none => v6 b

/-- Whether an address is one of the host itself: 127.0.0.0/8 or `::1`. -/
def isLoopback : Address → Bool
  | v4 b => b >>> 24 == 127
  | v6 b => b == 1

end Address

end Conclave.Ip
