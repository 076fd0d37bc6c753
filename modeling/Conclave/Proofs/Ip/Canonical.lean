import Conclave.Proofs.Ip.Mask
import Conclave.Proofs.Ip.Spelling
import Conclave.Proofs.Wire.Payload

/-!
# The canonical text of a network

Many texts name one network: addresses have many spellings, and the bits beyond the length may be
anything. The text that is written for a network is one of them, so it is read back, and likewise
from a JSON document (`text_canonical`). For a written address this comes from the grammar: what is
written spells the address (`Address.spells_text`), whichever run of zero groups was left out.
-/

namespace Conclave.Ip

/-! ## The groups of an address -/

theorem shift_or_truncate (x : BitVec 128) :
    (x >>> 16) <<< 16 ||| (x.truncate 16).zeroExtend 128 = x := by
  apply BitVec.eq_of_getLsbD_eq
  intro i hi
  by_cases h : i < 16
  · simp [h, hi]
  · have h1 : 16 + (i - 16) = i := by omega
    simp [h, hi, h1]

theorem ofGroups_groupsOf (b : BitVec 128) : ofGroups (groupsOf b) = b := by
  have hstep (j : Nat) : (b >>> (16 * (j + 1))) <<< 16
      ||| ((b >>> (16 * j)).truncate 16).zeroExtend 128 = b >>> (16 * j) := by
    have h := shift_or_truncate (b >>> (16 * j))
    rwa [← BitVec.shiftRight_add, ← Nat.mul_succ] at h
  have hempty : (0 : BitVec 128) = b >>> (16 * 8) := by
    exact (BitVec.ushiftRight_eq_zero (by decide)).symm
  simp only [ofGroups, groupsOf, List.map_cons, List.map_nil, List.foldl_cons, List.foldl_nil]
  rw [hempty, hstep 7, hstep 6, hstep 5, hstep 4, hstep 3, hstep 2, hstep 1, hstep 0]
  exact BitVec.ushiftRight_zero b

theorem groupsOf_mapped (b : BitVec 32) : groupsOf (0xffff#96 ++ b) =
    ([0, 0, 0, 0, 0, 0xffff, (b >>> 16).truncate 16, b.truncate 16] : List (BitVec 16)) := by
  have hgroup (i : Nat) {g : BitVec 16} {n : Nat} (hg : g.toNat = n)
      (h : (0xffff * 2 ^ 32 + b.toNat) / 2 ^ (16 * i) % 2 ^ 16 = n) :
      ((0xffff#96 ++ b) >>> (16 * i)).truncate 16 = g := by
    rw [← BitVec.toNat_inj, BitVec.toNat_setWidth, BitVec.toNat_ushiftRight,
      Address.toNat_mapped, Nat.shiftRight_eq_div_pow, h, hg]
  have hb := b.isLt
  have hhigh : ((b >>> 16).truncate 16).toNat = b.toNat / 2 ^ 16 % 2 ^ 16 := by
    rw [BitVec.toNat_setWidth, BitVec.toNat_ushiftRight, Nat.shiftRight_eq_div_pow]
  have hlow : (b.truncate 16).toNat = b.toNat % 2 ^ 16 := BitVec.toNat_setWidth ..
  have hzero : (0 : BitVec 16).toNat = 0 := rfl
  have hmark : (0xffff : BitVec 16).toNat = 0xffff := rfl
  simp only [groupsOf, List.map_cons, List.map_nil]
  rw [hgroup 7 hzero (by omega), hgroup 6 hzero (by omega), hgroup 5 hzero (by omega),
    hgroup 4 hzero (by omega), hgroup 3 hzero (by omega), hgroup 2 hmark (by omega),
    hgroup 1 hhigh (by omega), hgroup 0 hlow (by omega)]

/-! ## Written numbers -/

theorem dotted_writeV4 (b : BitVec 32) : Dotted (writeV4 b) b := by
  have hb := b.isLt
  have hoctets : BitVec.ofNat 32 (((b.toNat / 0x1000000 * 256 + b.toNat / 0x10000 % 256) * 256
      + b.toNat / 256 % 256) * 256 + b.toNat % 256) = b := by
    rw [← BitVec.toNat_inj, BitVec.toNat_ofNat]
    omega
  have h : Dotted _ _ := .mk (show b.toNat / 0x1000000 < 256 by omega)
    (show b.toNat / 0x10000 % 256 < 256 by omega) (show b.toNat / 256 % 256 < 256 by omega)
    (show b.toNat % 256 < 256 by omega)
  rw [hoctets] at h
  simpa [writeV4, writeNumber] using h

/-- The digits of a number have the number as their value. -/
theorem hexDigits_toDigits (n : Nat) :
    ∃ ds, List.Forall₂ (fun c d => Text.hexValue? c = some d) (Nat.toDigits 16 n) ds
      ∧ ds.foldl (fun n d => 16 * n + d) 0 = n := by
  induction n using Nat.strongRecOn with
  | _ n ih =>
    by_cases hn : n < 16
    · refine ⟨[n], ?_, by simp⟩
      rw [Nat.toDigits_of_lt_base hn]
      exact .cons (Text.hexValue?_digitChar n hn) .nil
    · obtain ⟨ds, hds, hvalue⟩ := ih (n / 16) (by omega)
      refine ⟨ds ++ [n % 16], ?_, ?_⟩
      · rw [Nat.toDigits_of_base_le (by decide) (by omega)]
        exact List.rel_append hds
          (.cons (Text.hexValue?_digitChar _ (Nat.mod_lt n (by decide))) .nil)
      · rw [List.foldl_append, hvalue, List.foldl_cons, List.foldl_nil]
        exact Nat.div_add_mod n 16

theorem isGroup_toDigits (g : BitVec 16) : IsGroup (Nat.toDigits 16 g.toNat) g where
  ne_nil := Nat.toDigits_ne_nil
  length_le := (Nat.length_toDigits_le_iff (by decide) (by decide)).mpr g.isLt
  digits := by
    obtain ⟨ds, hds, hvalue⟩ := hexDigits_toDigits g.toNat
    exact ⟨ds, hds, by rw [hvalue, BitVec.ofNat_toNat, BitVec.setWidth_eq]⟩

theorem listed_writeGroups (g : BitVec 16) (r : List (BitVec 16)) :
    Listed false (writeGroups (g :: r)) (g :: r) := by
  induction r generalizing g with
  | nil => exact .group (isGroup_toDigits g)
  | cons g' r ih => exact .cons (isGroup_toDigits g) (ih g')

theorem side_writeGroups (gs : List (BitVec 16)) : Side false (writeGroups gs) gs := by
  cases gs with
  | nil => exact .empty
  | cons g r => exact .listed (listed_writeGroups g r)

/-! ## Zero groups -/

/-- Whether a list has as many zero groups as the second number says, from the position that the
first one says. -/
def IsZeros (gs : List (BitVec 16)) (run : Nat × Nat) : Prop :=
  ∃ front back, gs = front ++ List.replicate run.2 0 ++ back ∧ front.length = run.1

theorem takeWhile_zeros (gs : List (BitVec 16)) :
    gs.takeWhile (· == 0) = List.replicate (gs.takeWhile (· == 0)).length 0 :=
  List.eq_replicate_of_mem fun _ hg =>
    eq_of_beq (List.mem_takeWhile_imp (p := fun g => g == 0) hg)

theorem isZeros_longestZeros {front back : List (BitVec 16)} {run : Nat × Nat}
    (h : IsZeros (front ++ back) run) :
    IsZeros (front ++ back) (longestZeros front.length run back) := by
  induction back generalizing front run with
  | nil => exact h
  | cons g r ih =>
      have hassoc : front ++ g :: r = (front ++ [g]) ++ r := by simp
      have hlen : (front ++ [g]).length = front.length + 1 := by simp
      rw [longestZeros, ← hlen, hassoc]
      apply ih
      rw [← hassoc]
      split
      · refine ⟨front, (g :: r).dropWhile (· == 0), ?_, rfl⟩
        rw [← takeWhile_zeros, List.append_assoc, List.takeWhile_append_dropWhile]
      · exact h

/-! ## Written addresses -/

theorem length_groupsOf (b : BitVec 128) : (groupsOf b).length = 8 := rfl

theorem spellsV6_mapped (v : BitVec 32) :
    SpellsV6 ([':', ':', 'f', 'f', 'f', 'f', ':'] ++ writeV4 v) (0xffff#96 ++ v) := by
  have htail : Side true (['f', 'f', 'f', 'f'] ++ ':' :: writeV4 v)
      [0xffff, (v >>> 16).truncate 16, v.truncate 16] :=
    .listed (.cons (isGroup_toDigits 0xffff) (.dotted (dotted_writeV4 v)))
  have h := SpellsV6.short .empty htail (Nat.lt_of_sub_eq_succ rfl)
  rw [← ofGroups_groupsOf (0xffff#96 ++ v), groupsOf_mapped]
  exact h

/-- Groups with a run of zeros among them may be written without the run. -/
theorem spellsV6_shortened {b : BitVec 128} {front back : List (BitVec 16)} {n : Nat}
    (hgroups : groupsOf b = front ++ List.replicate n 0 ++ back) (hn : 0 < n) :
    SpellsV6 (writeGroups front ++ [':', ':'] ++ writeGroups back) b := by
  have hlen := congrArg List.length hgroups
  rw [length_groupsOf, List.length_append, List.length_append, List.length_replicate] at hlen
  have h := SpellsV6.short (side_writeGroups front) (side_writeGroups back) (by omega)
  have hleft : 8 - front.length - back.length = n := by omega
  rw [hleft, ← hgroups, ofGroups_groupsOf] at h
  rwa [List.append_assoc]

theorem spellsV6_whole (b : BitVec 128) : SpellsV6 (writeGroups (groupsOf b)) b := by
  have hlisted : Listed false (writeGroups (groupsOf b)) (groupsOf b) := listed_writeGroups _ _
  have h := SpellsV6.full hlisted (length_groupsOf b)
  rwa [ofGroups_groupsOf] at h

theorem spellsV6_writeV6 (b : BitVec 128) : SpellsV6 (writeV6 b) b := by
  rw [writeV6]
  split
  · rename_i v hmapped
    rw [Address.mapped?_eq_some_iff.mp hmapped]
    exact spellsV6_mapped v
  · have hnone : IsZeros ([] ++ groupsOf b) (0, 0) := ⟨[], groupsOf b, rfl, rfl⟩
    have hzeros : IsZeros (groupsOf b) (longestZeros 0 (0, 0) (groupsOf b)) :=
      isZeros_longestZeros hnone
    dsimp only
    generalize longestZeros 0 (0, 0) (groupsOf b) = run at hzeros ⊢
    obtain ⟨start, n⟩ := run
    obtain ⟨front, back, hgroups, rfl⟩ := hzeros
    dsimp only at hgroups ⊢
    split
    · rename_i hlong
      have hback : (groupsOf b).drop (front.length + n) = back := by
        rw [hgroups, List.drop_left' (by simp)]
      have hfront : (groupsOf b).take front.length = front := by
        rw [hgroups, List.append_assoc, List.take_left]
      rw [hfront, hback]
      exact spellsV6_shortened hgroups (Nat.lt_of_succ_lt hlong)
    · exact spellsV6_whole b

theorem Address.spells_text (a : Address) : Spells a.text.toList a := by
  cases a with
  | v4 b =>
      rw [Address.text, String.toList_ofList]
      exact .v4 (dotted_writeV4 b)
  | v6 b =>
      rw [Address.text, String.toList_ofList]
      exact .v6 (spellsV6_writeV6 b)

@[simp] theorem Address.read?_text (a : Address) : Address.read? a.text = some a :=
  Address.read?_eq_some_iff.mpr a.spells_text

/-! ## Networks -/

namespace Network

/-- The text of the network that a text means, if it means one. -/
def canonicalText? (s : String) : Option String := (read s).toOption.map text

/-- Whether a text names the address that another one names, with the same length and without the
bits beyond it. -/
def Cleared (s c : String) : Prop :=
  ∃ a k, Names (Text.trimChars s.toList) a k ∧ Names c.toList (a.leading k) k
    ∧ ∀ i, (a.leading k).bit i = (a.bit i && decide (i < k))

theorem toList_textOf (a : Address) (k : Nat) :
    (textOf a k).toList = a.text.toList ++ '/' :: Nat.toDigits 10 k := by
  rw [textOf, String.toList_append, String.toList_append, Text.toList_toString,
    List.append_assoc]
  rfl

theorem names_textOf {a : Address} {k : Nat} (h : k ≤ a.width) :
    Names (textOf a k).toList a k := by
  rw [toList_textOf]
  exact .counted a.spells_text (Text.numeral_toDigits k) h

theorem trim_textOf (a : Address) (k : Nat) : Text.trimChars (textOf a k).toList
    = (textOf a k).toList := by
  refine Text.trimChars_of_forall fun c hc => ?_
  rw [toList_textOf, List.mem_append, List.mem_cons] at hc
  rcases hc with haddress | rfl | hlength
  · exact (a.spells_text.isAddressChar c haddress).not_isBlank
  · decide
  · exact (Text.isDigit_of_mem_toDigits hlength).not_isBlank

theorem means_text (n : Network) : Means n.text n := by
  refine ⟨n.base, n.length, ?_, n.of?_self⟩
  rw [text, trim_textOf]
  exact writes_iff_names.mpr (names_textOf n.length_le)

@[simp] theorem read_text (n : Network) : read n.text = .ok n := read_eq_ok_iff.mpr n.means_text

theorem text_injective {n m : Network} (h : n.text = m.text) : n = m := by
  have hread := n.read_text
  rw [h, read_text] at hread
  exact (Except.ok.inj hread).symm

theorem canonicalText?_of_read {s : String} {n : Network} (h : read s = .ok n) :
    canonicalText? s = some n.text := by
  rw [canonicalText?, h]
  rfl

theorem exists_read {s c : String} (h : canonicalText? s = some c) :
    ∃ n, read s = .ok n ∧ n.text = c := by
  obtain ⟨n, hn, hc⟩ := Option.map_eq_some_iff.mp h
  exact ⟨n, eq_ok_of_toOption hn, hc⟩

theorem cleared_text {s : String} {n : Network} (h : read s = .ok n) : Cleared s n.text := by
  obtain ⟨a, k, hw, hn⟩ := read_eq_ok_iff.mp h
  obtain ⟨hle, hbase, hlength⟩ := of?_eq_some_iff.mp hn
  refine ⟨a, k, writes_iff_names.mp hw, ?_, fun i => a.bit_leading k i⟩
  rw [text, hbase, hlength]
  exact names_textOf (by rwa [Address.width_leading])

theorem decode?_networkJson (n : Network) :
    Wire.decode? Wire.networkOfSource? (Wire.encode (Wire.networkJson n)) = some n := by
  have hexact : (Wire.networkJson n).isExact = true := by
    rw [Wire.networkJson, Json.isExact.eq_def]
  rw [Wire.decode?_encode Wire.networkOfSource? hexact, Wire.networkJson, Json.tree,
    Wire.networkOfSource?, Json.Source.text?, Option.bind_some, read_text]
  rfl

/-- A network is read back from its text and from its document. The canonical text of what a text
means is read as the same network, is its own canonical text, and has the bits beyond the length
cleared; and two texts have one canonical text if and only if they mean one network. -/
theorem text_canonical :
    (∀ n : Network, read n.text = .ok n
      ∧ Wire.decode? Wire.networkOfSource? (Wire.encode (Wire.networkJson n)) = some n)
    ∧ (∀ s c, canonicalText? s = some c →
      read c = read s ∧ canonicalText? c = some c ∧ Cleared s c)
    ∧ ∀ s t n m, read s = .ok n → read t = .ok m →
      (canonicalText? s = canonicalText? t ↔ n = m) := by
  refine ⟨fun n => ⟨n.read_text, n.decode?_networkJson⟩, ?_, ?_⟩
  · intro s c h
    obtain ⟨n, hn, rfl⟩ := exists_read h
    exact ⟨by rw [read_text, hn], canonicalText?_of_read n.read_text, cleared_text hn⟩
  · intro s t n m hs ht
    rw [canonicalText?_of_read hs, canonicalText?_of_read ht, Option.some.injEq]
    constructor
    · exact text_injective
    · rintro rfl
      rfl

/-- Two texts with one canonical text, in which the bits beyond the length are cleared. -/
theorem text_canonical_documentation :
    canonicalText? "2001:db8::/32" = canonicalText? " 2001:DB8:0:0:7::1/32"
    ∧ Cleared " 2001:DB8:0:0:7::1/32" "2001:db8::/32" := by
  obtain ⟨-, hcanonical, hsame⟩ := text_canonical
  have hread (s : String) (h : s = "2001:db8::/32" ∨ s = " 2001:DB8:0:0:7::1/32") :
      read s = .ok ⟨.v6 0x20010db8000000000000000000000000, 32, by decide, by decide⟩ := by
    rcases h with rfl | rfl <;> decide +kernel
  refine ⟨(hsame _ _ _ _ (hread _ (.inl rfl)) (hread _ (.inr rfl))).mpr rfl, ?_⟩
  exact (hcanonical " 2001:DB8:0:0:7::1/32" "2001:db8::/32" (by decide +kernel)).2.2

end Network

end Conclave.Ip
