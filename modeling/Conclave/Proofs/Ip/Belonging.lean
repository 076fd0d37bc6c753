import Conclave.Proofs.Ip.Mask

/-!
# The own addresses of a network

A network of an address holds every address that begins with the same bits, with one exception: an
IPv6 address that an IPv4 address is written as counts as IPv4, and is looked for among the IPv4
networks alone (`holds_own_addresses`). So the network of all IPv6 addresses does not hold all of
them (`mapped_left_out`).
-/

namespace Conclave.Ip

namespace Address

theorem not_isMapped_canonical (a : Address) : ¬ a.canonical.IsMapped := by
  rintro ⟨c, hc⟩
  by_cases ha : a.IsMapped
  · obtain ⟨b, rfl⟩ := ha
    rw [canonical_mapped] at hc
    cases hc
  · rw [canonical_of_not_isMapped ha] at hc
    exact ha ⟨c, hc⟩

/-- The first 96 bits tell whether an address is a mapped one. -/
theorem IsMapped.of_shares {a b : Address} {k : Nat} (ha : a.IsMapped) (hk : 96 ≤ k)
    (h : a.Shares k b) : b.IsMapped := by
  obtain ⟨c, rfl⟩ := ha
  have hfront : (mapped c).Shares 96 b := ⟨h.1, fun i hi => h.2 i (by omega)⟩
  rw [← leading_eq_iff (by simp [mapped, width])] at hfront
  cases b with
  | v4 b => cases hfront
  | v6 bits =>
      have hwords := BitVec.toNat_inj.mpr (v6.inj hfront)
      have hc := c.isLt
      have hbits := bits.isLt
      simp only [Ip.leading, BitVec.toNat_shiftLeft, BitVec.toNat_ushiftRight, toNat_mapped,
        Nat.shiftRight_eq_div_pow, Nat.shiftLeft_eq] at hwords
      refine ⟨bits.truncate 32, congrArg v6 ?_⟩
      rw [← BitVec.toNat_inj, toNat_mapped, BitVec.toNat_setWidth]
      omega

/-- The address after the front of the mapped ones has been changed in its last bit. -/
def besideMapped (c : BitVec 32) : Address := v6 (0xfffe#96 ++ c)

theorem shares_besideMapped (c : BitVec 32) {k : Nat} (hk : k < 96) :
    (mapped c).Shares k (besideMapped c) := by
  refine ⟨rfl, fun i hi => ?_⟩
  have hfront : ∀ i < 95, (0xffff#96).getMsbD i = (0xfffe#96).getMsbD i := by decide
  have hlow : ¬ 96 ≤ i := by omega
  simp only [mapped, besideMapped, bit, BitVec.getMsbD_append, hlow, if_false]
  exact hfront i (by omega)

theorem not_isMapped_besideMapped (c : BitVec 32) : ¬ (besideMapped c).IsMapped := by
  rintro ⟨d, hd⟩
  have hwords := BitVec.toNat_inj.mpr (v6.inj hd)
  have hfront : (0xfffe#96).toNat = 0xfffe := rfl
  rw [toNat_append, toNat_mapped, hfront] at hwords
  have hc := c.isLt
  have hd := d.isLt
  omega

end Address

namespace Network

/-- Whether all addresses of a network are mapped ones. -/
def IsMapped (n : Network) : Prop := n.base.IsMapped ∧ 96 ≤ n.length

variable {a : Address} {k : Nat} {n : Network}

theorem make_eq_ok_iff : make a k = .ok n ↔ of? a k = some n := by
  unfold make
  split <;> simp_all

theorem exists_make_iff : (∃ n, make a k = .ok n) ↔ k ≤ a.width := by
  simp only [make_eq_ok_iff, exists_of?_iff]

theorem contains_of_shares (hn : of? a k = some n) {b : Address} (h : a.Shares k b)
    (hb : ¬ b.IsMapped) : n.contains b = true := by
  rwa [contains_iff_shares hn, Address.canonical_of_not_isMapped hb]

theorem contains_mapped (n : Network) (b : BitVec 32) :
    n.contains (.mapped b) = n.contains (.v4 b) := by
  rw [contains, Address.canonical_mapped]
  rfl

/-- A network of addresses that are not all mapped ones holds its base, or what stands beside it. -/
theorem exists_contains (h : ¬ n.IsMapped) : ∃ b, n.contains b = true := by
  by_cases hbase : n.base.IsMapped
  · obtain ⟨c, hc⟩ := hbase
    have hlength : n.length < 96 := by
      by_contra hlong
      exact h ⟨⟨c, hc⟩, by omega⟩
    refine ⟨Address.besideMapped c, contains_of_shares n.of?_self ?_ ?_⟩
    · rw [hc]
      exact Address.shares_besideMapped c hlength
    · exact Address.not_isMapped_besideMapped c
  · exact ⟨n.base, contains_of_shares n.of?_self (Address.shares_refl ..) hbase⟩

/-- A network of mapped addresses alone holds none, since they count as IPv4. -/
theorem contains_of_isMapped (h : n.IsMapped) (b : Address) : n.contains b = false := by
  rw [Bool.eq_false_iff, ne_eq, contains_iff_shares n.of?_self]
  intro hshares
  exact b.not_isMapped_canonical (h.1.of_shares h.2 hshares)

/-- A network is made of an address and any length that its family has. It holds every address that
begins as the given one does, unless that is a mapped one, which is looked for as the IPv4 address
that it stands for. A network is not without addresses, unless it has mapped ones alone. -/
theorem holds_own_addresses :
    (∀ a k, (∃ n, make a k = .ok n) ↔ k ≤ a.width)
    ∧ (∀ a k n, make a k = .ok n → ∀ b, a.Shares k b → ¬ b.IsMapped → n.contains b = true)
    ∧ (∀ (n : Network) b, n.contains (.mapped b) = n.contains (.v4 b))
    ∧ ∀ n : Network, ¬ n.IsMapped → ∃ b, n.contains b = true :=
  ⟨fun _ _ => exists_make_iff,
    fun _ _ _ hn _ h hb => contains_of_shares (make_eq_ok_iff.mp hn) h hb,
    contains_mapped, fun _ => exists_contains⟩

/-- The network that the address fd00::1 makes with its first eight bits holds fd00::5. -/
theorem holds_unique_local : ∃ n, make (.v6 (0xfd#8 ++ 1#120)) 8 = .ok n
    ∧ n.contains (.v6 (0xfd#8 ++ 5#120)) = true ∧ n.contains (.mapped 5) = n.contains (.v4 5)
    ∧ ∃ b, n.contains b = true := by
  obtain ⟨hmake, hshared, hmapped, halive⟩ := holds_own_addresses
  obtain ⟨n, hn⟩ := (hmake (.v6 (0xfd#8 ++ 1#120)) 8).mpr (by decide)
  have hlength : n.length = 8 := (of?_eq_some_iff.mp (make_eq_ok_iff.mp hn)).2.2
  refine ⟨n, hn, hshared _ _ n hn _ ⟨rfl, by decide⟩ (by decide), hmapped n 5, halive n ?_⟩
  rintro ⟨-, hlong⟩
  omega

/-- The mapped addresses are among the IPv6 addresses, but the network of all IPv6 addresses does
not hold them; nor does a network hold any address when it has mapped ones alone. -/
theorem mapped_left_out :
    (∃ n b, make (.v6 0) 0 = .ok n ∧ (Address.v6 0).Shares 0 b ∧ n.contains b = false)
    ∧ ∃ n, read "::ffff:10.0.0.0/104" = .ok n ∧ ∀ b, n.contains b = false := by
  constructor
  · exact ⟨⟨.v6 0, 0, by decide, by decide⟩, .mapped 0x0a000001, by decide +kernel,
      ⟨rfl, fun i hi => absurd hi (Nat.not_lt_zero i)⟩, by decide +kernel⟩
  · exact ⟨⟨.mapped 0x0a000000, 104, by decide, by decide⟩, by decide +kernel,
      contains_of_isMapped ⟨⟨_, rfl⟩, by decide⟩⟩

end Network

end Conclave.Ip
