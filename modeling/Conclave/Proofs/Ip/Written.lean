import Conclave.Ip.AccessList
import Conclave.Proofs.Outcome
import Conclave.Proofs.Text
import Mathlib.Data.List.TakeWhile

/-!
# What a written network admits

An entry of an access list is an address alone, or an address and the number of its leading bits
that count, with a slash between them. `Writes` says this of a text, and `Address.Shares` says which
addresses are meant. A list is read only when every entry writes a network, and then an address is
admitted exactly when one of the entries covers it (`AccessList.admits_iff`); otherwise the first
entry that means no network is the fault (`AccessList.first_of_read`).
-/

namespace Conclave.Ip

/-! ## Addresses that begin with the same bits -/

theorem leading_eq_leading_iff {w n : Nat} {a b : BitVec w} (h : n ≤ w) :
    leading n a = leading n b ↔ ∀ i, i < n → a.getMsbD i = b.getMsbD i := by
  constructor
  -- The bit `i` from the front is the bit `w - 1 - i` from the back.
  · intro hab i hi
    have hbit : (leading n a).getLsbD (w - 1 - i) = (leading n b).getLsbD (w - 1 - i) := by rw [hab]
    have hkept : w - n ≤ w - 1 - i := by omega
    rw [getLsbD_leading, getLsbD_leading, decide_eq_true hkept, Bool.and_true,
      Bool.and_true] at hbit
    simp only [BitVec.getMsbD, hbit]
  · intro hab
    apply BitVec.eq_of_getLsbD_eq
    intro i hi
    rw [getLsbD_leading, getLsbD_leading]
    by_cases hkept : w - n ≤ i
    · have hbit := hab (w - 1 - i) (by omega)
      have hi' : w - 1 - (w - 1 - i) = i := by omega
      simp only [BitVec.getMsbD, hi', show w - 1 - i < w by omega, decide_true,
        Bool.true_and] at hbit
      rw [hbit]
    · simp [hkept]

namespace Address

/-- The bit of an address at a position, counted from its front. -/
def bit (i : Nat) : Address → Bool
  | v4 b => b.getMsbD i
  | v6 b => b.getMsbD i

/-- Whether two addresses are of one family and begin with the same `k` bits. -/
def Shares (k : Nat) (a b : Address) : Prop :=
  a.width = b.width ∧ ∀ i, i < k → a.bit i = b.bit i

theorem leading_eq_iff {k : Nat} {a b : Address} (h : k ≤ a.width) :
    b.leading k = a.leading k ↔ a.Shares k b := by
  rw [eq_comm]
  cases a with
  | v4 a =>
      cases b with
      | v4 b => simpa [leading, Shares, width, bit] using leading_eq_leading_iff h
      | v6 b => simp [leading, Shares, width]
  | v6 a =>
      cases b with
      | v4 b => simp [leading, Shares, width]
      | v6 b => simpa [leading, Shares, width, bit] using leading_eq_leading_iff h

end Address

/-! ## The text of a network -/

/-- Whether a text writes the network of the addresses that begin with the same `k` bits as `a`. -/
inductive Writes : List Char → Address → Nat → Prop where
  | alone {cs : List Char} {a : Address} (hslash : '/' ∉ cs)
      (ha : Address.read? (String.ofList cs) = some a) : Writes cs a a.width
  | counted {front back : List Char} {a : Address} {k : Nat} (hslash : '/' ∉ front)
      (ha : Address.read? (String.ofList front) = some a) (hk : Text.natChars? 256 back = some k)
      (hle : k ≤ a.width) : Writes (front ++ '/' :: back) a k

namespace Network

theorem splitSlash_of_not_mem {cs : List Char} (h : '/' ∉ cs) : splitSlash cs = (cs, none) := by
  have hall : cs.dropWhile (· ≠ '/') = [] := by
    rw [List.dropWhile_eq_nil_iff]
    intro c hc
    simpa using ne_of_mem_of_not_mem hc h
  simp only [splitSlash, hall]

theorem splitSlash_append {front : List Char} (back : List Char) (h : '/' ∉ front) :
    splitSlash (front ++ '/' :: back) = (front, some back) := by
  have hall : ∀ c ∈ front, decide (c ≠ '/') = true := by
    intro c hc
    simpa using ne_of_mem_of_not_mem hc h
  have hdrop : (front ++ '/' :: back).dropWhile (· ≠ '/') = '/' :: back := by
    rw [List.dropWhile_append_of_pos hall]
    rfl
  have htake : (front ++ '/' :: back).takeWhile (· ≠ '/') = front := by
    rw [List.takeWhile_append_of_pos hall]
    simp
  simp only [splitSlash, hdrop, htake]

theorem of?_eq_some_iff {a : Address} {k : Nat} {n : Network} :
    of? a k = some n ↔ k ≤ a.width ∧ n.base = a.leading k ∧ n.length = k := by
  obtain ⟨base, length, hle, hbase⟩ := n
  unfold of?
  split
  · rename_i h
    simp [h, eq_comm]
  · rename_i h
    simp [h]

theorem exists_of?_iff {a : Address} {k : Nat} : (∃ n, of? a k = some n) ↔ k ≤ a.width := by
  unfold of?
  split
  · rename_i h
    exact iff_of_true ⟨_, rfl⟩ h
  · rename_i h
    simp [h]

theorem of?_self (n : Network) : of? n.base n.length = some n :=
  of?_eq_some_iff.mpr ⟨n.length_le, n.base_leading.symm, rfl⟩

theorem contains_iff_shares {a : Address} {k : Nat} {n : Network} (h : of? a k = some n) (b : Address) :
    n.contains b = true ↔ a.Shares k b.canonical := by
  obtain ⟨hle, hbase, hlength⟩ := of?_eq_some_iff.mp h
  rw [contains, hlength, hbase, beq_iff_eq, Address.leading_eq_iff hle]

/-- Whether a text means a network, the blanks around it left out. -/
def Means (s : String) (n : Network) : Prop :=
  ∃ a k, Writes (Text.trimChars s.toList) a k ∧ of? a k = some n

/-- Whether a text means a network that an address belongs to. -/
def Covers (s : String) (b : Address) : Prop :=
  ∃ a k, Writes (Text.trimChars s.toList) a k ∧ a.Shares k b.canonical

theorem ofChars?_of_writes {cs : List Char} {a : Address} {k : Nat} (h : Writes cs a k) :
    ofChars? cs = of? a k := by
  cases h with
  | alone hslash ha => simp [ofChars?, splitSlash_of_not_mem hslash, ha]
  | counted hslash ha hk hle => simp [ofChars?, splitSlash_append _ hslash, ha, hk]

theorem exists_writes {cs : List Char} {n : Network} (h : ofChars? cs = some n) :
    ∃ a k, Writes cs a k ∧ of? a k = some n := by
  by_cases hslash : '/' ∈ cs
  · obtain ⟨front, back, rfl, hfront⟩ := List.eq_append_cons_of_mem hslash
    simp only [ofChars?, splitSlash_append back hfront, Option.bind_eq_bind,
      Option.bind_eq_some_iff] at h
    obtain ⟨a, ha, k, hk, hn⟩ := h
    exact ⟨a, k, .counted hfront ha hk (of?_eq_some_iff.mp hn).1, hn⟩
  · simp only [ofChars?, splitSlash_of_not_mem hslash, Option.bind_eq_bind,
      Option.bind_eq_some_iff] at h
    obtain ⟨a, ha, hn⟩ := h
    exact ⟨a, a.width, .alone hslash ha, hn⟩

theorem means_iff {s : String} {n : Network} :
    Means s n ↔ ofChars? (Text.trimChars s.toList) = some n := by
  constructor
  · rintro ⟨a, k, hw, hn⟩
    rw [ofChars?_of_writes hw, hn]
  · exact exists_writes

/-- The network that is read from a text is the one that the text means. -/
theorem read_eq_ok_iff {s : String} {n : Network} : read s = .ok n ↔ Means s n := by
  rw [means_iff]
  unfold read
  split <;> simp_all

theorem of_read_eq_error {s : String} {fault : Fault} (h : read s = .error fault) :
    (¬∃ n, Means s n) ∧ fault = .invalidNetwork (Text.trim s) := by
  unfold read at h
  split at h
  · cases h
  · rename_i hnone
    refine ⟨?_, (Except.error.inj h).symm⟩
    rintro ⟨n, hn⟩
    rw [means_iff, hnone] at hn
    cases hn

/-- A network holds exactly the addresses that its text covers. -/
theorem Means.contains_iff {s : String} {n : Network} (h : Means s n) (b : Address) :
    n.contains b = true ↔ Covers s b := by
  constructor
  · intro hb
    obtain ⟨a, k, hw, hn⟩ := h
    exact ⟨a, k, hw, (contains_iff_shares hn b).mp hb⟩
  · rintro ⟨a, k, hw, hb⟩
    rw [means_iff, ofChars?_of_writes hw] at h
    exact (contains_iff_shares h b).mpr hb

end Network

/-! ## A list of entries -/

namespace AccessList

variable {entries : List String} {l : AccessList}

/-- The entries that are not blank, without the blanks around them. -/
def written (entries : List String) : List String := (entries.map Text.trim).filter (· ≠ "")

theorem of_mem_written {e : String} (h : e ∈ written entries) : Text.trim e = e ∧ e ≠ "" := by
  obtain ⟨hmem, hne⟩ := List.mem_filter.mp h
  obtain ⟨d, -, rfl⟩ := List.mem_map.mp hmem
  exact ⟨Text.trim_trim d, of_decide_eq_true hne⟩

theorem written_written (entries : List String) : written (written entries) = written entries := by
  have htrim : (written entries).map Text.trim = written entries := by
    refine (List.map_congr_left fun e he => ?_).trans (List.map_id _)
    exact (of_mem_written he).1
  rw [written, htrim, List.filter_eq_self]
  intro e he
  exact decide_eq_true (of_mem_written he).2

theorem read_eq (entries : List String) :
    read entries = ((written entries).mapM Network.read).map AccessList.mk := rfl

theorem means_of_read (h : read entries = .ok l) :
    List.Forall₂ Network.Means (written entries) l.networks := by
  rw [read_eq] at h
  cases hnetworks : (written entries).mapM Network.read with
  | error fault =>
      rw [hnetworks] at h
      cases h
  | ok networks =>
      rw [hnetworks] at h
      obtain rfl := Except.ok.inj h
      exact (forall₂_of_mapM_eq_ok hnetworks).imp fun _ _ => Network.read_eq_ok_iff.mp

/-- The fault of a list is its first entry that means no network. -/
theorem first_of_read {fault : Fault} (h : read entries = .error fault) :
    ∃ before e after, written entries = before ++ e :: after
      ∧ (∀ d ∈ before, ∃ n, Network.Means d n) ∧ (¬∃ n, Network.Means e n)
      ∧ fault = .invalidNetwork e := by
  rw [read_eq] at h
  cases hnetworks : (written entries).mapM Network.read with
  | ok networks =>
      rw [hnetworks] at h
      cases h
  | error fault' =>
      rw [hnetworks] at h
      obtain rfl := Except.error.inj h
      obtain ⟨before, e, after, heq, hbefore, he⟩ := exists_of_mapM_eq_error hnetworks
      obtain ⟨hnone, hfault⟩ := Network.of_read_eq_error he
      have hmem : e ∈ written entries := by simp [heq]
      refine ⟨before, e, after, heq, ?_, hnone, ?_⟩
      · intro d hd
        obtain ⟨n, hn⟩ := hbefore d hd
        exact ⟨n, Network.read_eq_ok_iff.mp hn⟩
      · rw [hfault, (of_mem_written hmem).1]

theorem everyone_iff (h : List.Forall₂ Network.Means entries l.networks) :
    l = everyone ↔ entries = [] := by
  obtain ⟨networks⟩ := l
  cases h <;> simp [everyone]

/-- A list of at least one entry admits the addresses that its entries cover, and no others. -/
theorem admits_iff (h : List.Forall₂ Network.Means entries l.networks) (hne : entries ≠ [])
    (b : Address) : l.admits b = true ↔ ∃ e ∈ entries, Network.Covers e b := by
  have hsome : l.networks ≠ [] := fun hnil => hne (by rwa [hnil, List.forall₂_nil_right_iff] at h)
  have hany : l.networks.any (·.contains b) = true ↔ ∃ e ∈ entries, Network.Covers e b := by
    clear hne hsome
    generalize l.networks = networks at h
    induction h with
    | nil => simp
    | cons hmeans _ ih => simp [hmeans.contains_iff b, ih]
  rw [admits, Bool.or_eq_true, hany, List.isEmpty_iff]
  simp [hsome]

end AccessList

end Conclave.Ip
