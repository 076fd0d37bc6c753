import Conclave.Proofs.Ip.Written
import Mathlib.Algebra.Group.Nat.Defs

/-!
# Masks and mapped addresses

The first bits of an address can be taken with a mask as well, which is a word of ones that is
shifted to the left. Computed in a fixed width this has two limits: a difference must not be below
zero, and a shift must be shorter than the word. `mask?` fails at both of them. It never fails for
a length that the family of an address has (`Address.masked?_eq`, `Network.holds?_eq`).

An IPv4 address that is written as an IPv6 one counts as IPv4 when it is looked for in a network;
`Address.IsMapped` says which addresses these are.
-/

namespace Conclave.Ip

/-! ## Masks -/

/-- A difference, unless it is below zero. -/
def difference? (m n : Nat) : Option Nat := if n ≤ m then some (m - n) else none

/-- A word that is shifted to the left by less than its width. -/
def shiftLeft? {w : Nat} (b : BitVec w) (n : Nat) : Option (BitVec w) :=
  if n < w then some (b <<< n) else none

/-- The mask of the first `n` bits. Without any bit nothing is shifted. -/
def mask? (w n : Nat) : Option (BitVec w) :=
  if n = 0 then some 0 else (difference? w n).bind (shiftLeft? (BitVec.allOnes w))

theorem mask?_of_le {w n : Nat} (h : n ≤ w) :
    ∃ m, mask? w n = some m ∧ ∀ b : BitVec w, b &&& m = leading n b := by
  by_cases hn : n = 0
  · subst hn
    refine ⟨0, rfl, fun b => BitVec.eq_of_getLsbD_eq fun i hi => ?_⟩
    rw [getLsbD_leading, decide_eq_false (by omega)]
    simp
  · have hshift : w - n < w := by omega
    refine ⟨BitVec.allOnes w <<< (w - n), ?_, fun b => BitVec.eq_of_getLsbD_eq fun i hi => ?_⟩
    · rw [mask?, if_neg hn, difference?, if_pos h, Option.bind_some, shiftLeft?, if_pos hshift]
    · rw [getLsbD_leading, BitVec.getLsbD_and, BitVec.getLsbD_shiftLeft, BitVec.getLsbD_allOnes]
      by_cases hkept : w - n ≤ i
      · simp [hi, hkept, show i - (w - n) < w by omega]
      · simp [hi, hkept]

namespace Address

/-- The first `n` bits of an address, taken with the mask of its family. -/
def masked? (n : Nat) : Address → Option Address
  | v4 b => (mask? 32 n).map fun m => v4 (b &&& m)
  | v6 b => (mask? 128 n).map fun m => v6 (b &&& m)

theorem masked?_eq {n : Nat} {a : Address} (h : n ≤ a.width) :
    a.masked? n = some (a.leading n) := by
  cases a with
  | v4 b =>
      obtain ⟨m, hm, hand⟩ := mask?_of_le (show n ≤ 32 from h)
      rw [masked?, hm, Option.map_some, hand, leading]
  | v6 b =>
      obtain ⟨m, hm, hand⟩ := mask?_of_le (show n ≤ 128 from h)
      rw [masked?, hm, Option.map_some, hand, leading]

end Address

/-- Whether a network holds an address, found with the mask of the family. An address of the other
family needs none. -/
def Network.holds? (n : Network) (a : Address) : Option Bool :=
  if a.canonical.width = n.base.width then
    (a.canonical.masked? n.length).map fun front => front == n.base
  else some false

theorem Network.holds?_eq (n : Network) (a : Address) : n.holds? a = some (n.contains a) := by
  unfold holds? contains
  split
  · rename_i hwidth
    rw [Address.masked?_eq (hwidth ▸ n.length_le), Option.map_some]
  · rename_i hwidth
    have hne : a.canonical.leading n.length ≠ n.base := by
      intro heq
      rw [← heq, Address.width_leading] at hwidth
      exact hwidth rfl
    rw [beq_false_of_ne hne]

/-! ## Single bits -/

namespace Address

theorem bit_leading (k i : Nat) (a : Address) :
    (a.leading k).bit i = (a.bit i && decide (i < k)) := by
  have hword {w : Nat} (b : BitVec w) :
      (Ip.leading k b).getMsbD i = (b.getMsbD i && decide (i < k)) := by
    by_cases hi : i < w
    · have hkept : w - k ≤ w - 1 - i ↔ i < k := by omega
      simp only [BitVec.getMsbD, getLsbD_leading, hi, decide_true, Bool.true_and, hkept]
    · simp only [BitVec.getMsbD, hi, decide_false, Bool.false_and]
  cases a with
  | v4 b | v6 b => exact hword b

theorem shares_refl (k : Nat) (a : Address) : a.Shares k a := ⟨rfl, fun _ _ => rfl⟩

theorem Shares.symm {k : Nat} {a b : Address} (h : a.Shares k b) : b.Shares k a :=
  ⟨h.1.symm, fun i hi => (h.2 i hi).symm⟩

theorem Shares.trans {k : Nat} {a b c : Address} (hab : a.Shares k b) (hbc : b.Shares k c) :
    a.Shares k c :=
  ⟨hab.1.trans hbc.1, fun i hi => (hab.2 i hi).trans (hbc.2 i hi)⟩

/-! ## Mapped addresses -/

/-- The IPv6 address that an IPv4 address is written as. -/
def mapped (b : BitVec 32) : Address := v6 (0xffff#96 ++ b)

def IsMapped (a : Address) : Prop := ∃ b, a = mapped b

theorem toNat_append (f : BitVec 96) (b : BitVec 32) :
    (f ++ b).toNat = f.toNat * 2 ^ 32 + b.toNat := by
  rw [BitVec.toNat_append, ← Nat.shiftLeft_add_eq_or_of_lt b.isLt, Nat.shiftLeft_eq]

theorem toNat_mapped (b : BitVec 32) : (0xffff#96 ++ b).toNat = 0xffff * 2 ^ 32 + b.toNat :=
  toNat_append 0xffff#96 b

theorem mapped?_eq_some_iff {bits : BitVec 128} {b : BitVec 32} :
    mapped? bits = some b ↔ bits = 0xffff#96 ++ b := by
  have hfront : bits >>> 32 = 0xffff ↔ bits.toNat / 2 ^ 32 = 0xffff := by
    rw [← BitVec.toNat_inj, BitVec.toNat_ushiftRight, Nat.shiftRight_eq_div_pow]
    rfl
  have hback : bits.truncate 32 = b ↔ bits.toNat % 2 ^ 32 = b.toNat := by
    rw [← BitVec.toNat_inj, BitVec.toNat_setWidth]
  have hb := b.isLt
  rw [← BitVec.toNat_inj, toNat_mapped, mapped?]
  split
  · rename_i h
    rw [Option.some.injEq, hback]
    have := hfront.mp h
    omega
  · rename_i h
    rw [hfront] at h
    constructor
    · intro hnone
      cases hnone
    · omega

theorem canonical_mapped (b : BitVec 32) : (mapped b).canonical = v4 b := by
  rw [mapped, canonical, mapped?_eq_some_iff.mpr rfl]

theorem canonical_of_not_isMapped {a : Address} (h : ¬ a.IsMapped) : a.canonical = a := by
  cases a with
  | v4 b => rfl
  | v6 bits =>
      rw [canonical]
      split
      · rename_i b hb
        exact absurd ⟨b, congrArg v6 (mapped?_eq_some_iff.mp hb)⟩ h
      · rfl

theorem isMapped_iff {a : Address} : a.canonical ≠ a ↔ a.IsMapped := by
  constructor
  · intro hne
    by_contra h
    exact hne (canonical_of_not_isMapped h)
  · rintro ⟨b, rfl⟩ heq
    rw [canonical_mapped] at heq
    cases heq

instance (a : Address) : Decidable a.IsMapped := decidable_of_iff _ isMapped_iff

end Address

end Conclave.Ip
