import Conclave.Proofs.Ip.Mask
import Conclave.Proofs.Ip.Spelling

/-!
# The decision on an address

An access list is read from entries, each of them an address alone or with the number of its leading
bits that count; blank entries do not count. The list is refused for the first entry that is neither
blank nor such a text. Otherwise an address is admitted when no entry counts, or when an entry names
addresses that begin as the canonical form of the address does (`access_decided`). So the decision
depends on the set of the networks alone, not on their order, on repeated entries or on the bits
beyond the lengths.
-/

namespace Conclave.Ip.AccessList

/-- Whether an entry is nothing but blanks. -/
def IsBlank (e : String) : Prop := Text.trim e = ""

/-- Whether an entry names a network, the blanks around it left out. -/
def IsEntry (e : String) : Prop := ∃ a k, Names (Text.trimChars e.toList) a k

/-- Whether an entry names the addresses that begin as the canonical form of an address does. -/
def Meets (e : String) (b : Address) : Prop :=
  ∃ a k, Names (Text.trimChars e.toList) a k ∧ a.Shares k b.canonical

/-- Whether two entries name the same network, by addresses that may differ beyond its length. -/
def SameNetwork (e e' : String) : Prop :=
  ∃ a b k, Names (Text.trimChars e.toList) a k ∧ Names (Text.trimChars e'.toList) b k
    ∧ a.Shares k b

/-- Whether every entry of a list is blank or stands in another list, as it is or as an entry with
the same network. -/
def Within (entries others : List String) : Prop :=
  ∀ e ∈ entries, IsBlank e ∨ e ∈ others ∨ ∃ e' ∈ others, SameNetwork e e'

/-- What becomes of a list of entries. -/
structure Decided (entries : List String) : Prop where
  /-- The list is read if and only if every entry counts or is blank. -/
  readable : (∃ l, read entries = .ok l) ↔ ∀ e ∈ entries, IsBlank e ∨ IsEntry e
  /-- Otherwise the first entry that does neither is the fault, without the blanks around it. -/
  refused : ∀ fault, read entries = .error fault → ∃ before e after,
    entries = before ++ e :: after ∧ (∀ d ∈ before, IsBlank d ∨ IsEntry d)
      ∧ ¬ IsBlank e ∧ ¬ IsEntry e ∧ fault = .invalidNetwork (Text.trim e)
  admitted : ∀ l, read entries = .ok l → ∀ b,
    l.admits b = true ↔ (∀ e ∈ entries, IsBlank e) ∨ ∃ e ∈ entries, Meets e b
  /-- Lists with the same entries, in any order and number, are read alike and admit the same. -/
  settled : ∀ others, Within entries others → Within others entries →
    ((∃ l, read entries = .ok l) ↔ ∃ m, read others = .ok m)
    ∧ ∀ l m, read entries = .ok l → read others = .ok m → ∀ b, l.admits b = m.admits b
  /-- The masks that addresses are looked for with never fail. -/
  found : ∀ l, read entries = .ok l → ∀ n ∈ l.networks, ∀ b, n.holds? b = some (n.contains b)

section

variable {e : String} {entries others : List String} {l : AccessList}

/-! ## Entries that count -/

theorem not_isEntry_of_isBlank (h : IsBlank e) : ¬ IsEntry e := by
  rintro ⟨a, k, hnames⟩
  apply hnames.ne_nil
  rw [← Text.toList_trim, h]
  rfl

theorem exists_means_iff : (∃ n, Network.Means e n) ↔ IsEntry e := by
  constructor
  · rintro ⟨n, a, k, hw, -⟩
    exact ⟨a, k, writes_iff_names.mp hw⟩
  · rintro ⟨a, k, hnames⟩
    obtain ⟨n, hn⟩ := Network.exists_of?_iff.mpr hnames.le_width
    exact ⟨n, a, k, writes_iff_names.mpr hnames, hn⟩

theorem isEntry_trim : IsEntry (Text.trim e) ↔ IsEntry e := by
  simp only [IsEntry, Text.toList_trim, Text.trimChars_trimChars]

theorem covers_trim {b : Address} : Network.Covers (Text.trim e) b ↔ Meets e b := by
  simp only [Network.Covers, Meets, writes_iff_names, Text.toList_trim, Text.trimChars_trimChars]

theorem mem_written {d : String} :
    d ∈ written entries ↔ ∃ e ∈ entries, ¬ IsBlank e ∧ d = Text.trim e := by
  simp only [written, List.mem_filter, List.mem_map, decide_eq_true_eq, IsBlank]
  constructor
  · rintro ⟨⟨e, he, rfl⟩, hne⟩
    exact ⟨e, he, hne, rfl⟩
  · rintro ⟨e, he, hne, rfl⟩
    exact ⟨⟨e, he, rfl⟩, hne⟩

/-- What stands before one of the entries that count is blank or counts as well. -/
theorem exists_of_written {before after : List String} {d : String}
    (h : written entries = before ++ d :: after) :
    ∃ front e back, entries = front ++ e :: back
      ∧ (∀ x ∈ front, IsBlank x ∨ Text.trim x ∈ before) ∧ ¬ IsBlank e ∧ d = Text.trim e := by
  induction entries generalizing before with
  | nil => simp [written] at h
  | cons x r ih =>
      by_cases hx : IsBlank x
      · have hr : written r = before ++ d :: after := by
          rw [← h]
          exact (List.filter_cons_of_neg (by simpa [IsBlank] using hx)).symm
        obtain ⟨front, e, back, rfl, hfront, he, hd⟩ := ih hr
        refine ⟨x :: front, e, back, rfl, ?_, he, hd⟩
        intro y hy
        rcases List.mem_cons.mp hy with rfl | hmem
        · exact .inl hx
        · exact hfront y hmem
      · have hr : Text.trim x :: written r = before ++ d :: after := by
          rw [← h]
          exact (List.filter_cons_of_pos (by simpa [IsBlank] using hx)).symm
        cases before with
        | nil =>
            obtain ⟨hd, -⟩ := List.cons.inj hr
            exact ⟨[], x, r, rfl, by simp, hx, hd.symm⟩
        | cons y before =>
            obtain ⟨rfl, hrest⟩ := List.cons.inj hr
            obtain ⟨front, e, back, rfl, hfront, he, hd⟩ := ih hrest
            refine ⟨x :: front, e, back, rfl, ?_, he, hd⟩
            intro y hy
            rcases List.mem_cons.mp hy with rfl | hmem
            · exact .inr (List.mem_cons_self ..)
            · exact (hfront y hmem).imp_right (List.mem_cons_of_mem _)

/-! ## Reading -/

theorem counts_of_read (h : read entries = .ok l) : ∀ e ∈ entries, IsBlank e ∨ IsEntry e := by
  have hmeans := means_of_read h
  have hall : ∀ d ∈ written entries, ∃ n, Network.Means d n :=
    ((List.forall₂_and_left _ _).mp (hmeans.imp fun _ n hn => ⟨⟨n, hn⟩, hn⟩)).1
  intro e he
  by_cases hblank : IsBlank e
  · exact .inl hblank
  · have hd := hall _ (mem_written.mpr ⟨e, he, hblank, rfl⟩)
    rw [exists_means_iff, isEntry_trim] at hd
    exact .inr hd

theorem uncounted_of_read {fault : Fault} (h : read entries = .error fault) :
    ∃ before e after, entries = before ++ e :: after ∧ (∀ d ∈ before, IsBlank d ∨ IsEntry d)
      ∧ ¬ IsBlank e ∧ ¬ IsEntry e ∧ fault = .invalidNetwork (Text.trim e) := by
  obtain ⟨before, d, after, hwritten, hbefore, hd, rfl⟩ := first_of_read h
  obtain ⟨front, e, back, rfl, hfront, hblank, rfl⟩ := exists_of_written hwritten
  rw [exists_means_iff, isEntry_trim] at hd
  refine ⟨front, e, back, rfl, ?_, hblank, hd, rfl⟩
  intro x hx
  refine (hfront x hx).imp_right fun hmem => ?_
  rw [← isEntry_trim, ← exists_means_iff]
  exact hbefore _ hmem

theorem read_eq_ok_iff : (∃ l, read entries = .ok l) ↔ ∀ e ∈ entries, IsBlank e ∨ IsEntry e := by
  constructor
  · rintro ⟨l, h⟩
    exact counts_of_read h
  · intro hall
    cases h : read entries with
    | ok l => exact ⟨l, rfl⟩
    | error fault =>
        obtain ⟨before, e, after, rfl, -, hblank, he, -⟩ := uncounted_of_read h
        have hmem : e ∈ before ++ e :: after := by simp
        exact absurd (hall e hmem) (not_or.mpr ⟨hblank, he⟩)

/-! ## Admission -/

theorem written_eq_nil_iff : written entries = [] ↔ ∀ e ∈ entries, IsBlank e := by
  rw [List.eq_nil_iff_forall_not_mem]
  constructor
  · intro h e he
    by_contra hblank
    exact h _ (mem_written.mpr ⟨e, he, hblank, rfl⟩)
  · intro h d hd
    obtain ⟨e, he, hblank, -⟩ := mem_written.mp hd
    exact hblank (h e he)

theorem admits_of_read (h : read entries = .ok l) (b : Address) :
    l.admits b = true ↔ (∀ e ∈ entries, IsBlank e) ∨ ∃ e ∈ entries, Meets e b := by
  have hmeans := means_of_read h
  by_cases hnil : written entries = []
  · have hall : l.admits b = true := by
      rw [(everyone_iff hmeans).mpr hnil]
      rfl
    exact iff_of_true hall (.inl (written_eq_nil_iff.mp hnil))
  · rw [admits_iff hmeans hnil, ← written_eq_nil_iff, or_iff_right hnil]
    constructor
    · rintro ⟨d, hd, hcovers⟩
      obtain ⟨e, he, -, rfl⟩ := mem_written.mp hd
      exact ⟨e, he, covers_trim.mp hcovers⟩
    · rintro ⟨e, he, hmeets⟩
      have hblank : ¬ IsBlank e := by
        obtain ⟨a, k, hnames, -⟩ := hmeets
        exact fun hblank => not_isEntry_of_isBlank hblank ⟨a, k, hnames⟩
      exact ⟨_, mem_written.mpr ⟨e, he, hblank, rfl⟩, covers_trim.mpr hmeets⟩

/-! ## Lists with the same entries -/

/-- An address that an entry meets begins as any address does that the entry names. -/
theorem Meets.shares {a b : Address} {k : Nat} (hmeets : Meets e b)
    (hnames : Names (Text.trimChars e.toList) a k) : a.Shares k b.canonical := by
  obtain ⟨a', k', hnames', hshares⟩ := hmeets
  obtain ⟨n, hn⟩ := Network.exists_of?_iff.mpr hnames.le_width
  have hsame : Network.of? a' k' = Network.of? a k := by
    rw [← Network.ofChars?_of_writes (writes_iff_names.mpr hnames'),
      Network.ofChars?_of_writes (writes_iff_names.mpr hnames)]
  rw [← Network.contains_iff_shares hn, Network.contains_iff_shares (hsame.trans hn)]
  exact hshares

theorem Within.meets (h : Within entries others) {b : Address} (he : e ∈ entries)
    (hmeets : Meets e b) : ∃ e' ∈ others, Meets e' b := by
  rcases h e he with hblank | hmem | ⟨e', hmem, a, a', k, hnames, hnames', haa'⟩
  · obtain ⟨a, k, hnames, -⟩ := hmeets
    exact absurd ⟨a, k, hnames⟩ (not_isEntry_of_isBlank hblank)
  · exact ⟨e, hmem, hmeets⟩
  · exact ⟨e', hmem, a', k, hnames', haa'.symm.trans (hmeets.shares hnames)⟩

theorem Within.isBlank (h : Within entries others) (hblank : ∀ e ∈ others, IsBlank e) :
    ∀ e ∈ entries, IsBlank e := by
  intro e he
  rcases h e he with hblank' | hmem | ⟨e', hmem, a, b, k, -, hnames, -⟩
  · exact hblank'
  · exact hblank e hmem
  · exact absurd ⟨b, k, hnames⟩ (not_isEntry_of_isBlank (hblank e' hmem))

theorem Within.counts (h : Within entries others) (hcount : ∀ e ∈ others, IsBlank e ∨ IsEntry e) :
    ∀ e ∈ entries, IsBlank e ∨ IsEntry e := by
  intro e he
  rcases h e he with hblank | hmem | ⟨e', -, a, b, k, hnames, -, -⟩
  · exact .inl hblank
  · exact hcount e hmem
  · exact .inr ⟨a, k, hnames⟩

theorem admits_of_within {m : AccessList} (hl : read entries = .ok l) (hm : read others = .ok m)
    (hout : Within entries others) (hback : Within others entries) (b : Address) :
    l.admits b = m.admits b := by
  rw [Bool.eq_iff_iff, admits_of_read hl, admits_of_read hm]
  constructor
  · rintro (hblank | ⟨e, he, hmeets⟩)
    · exact .inl (hback.isBlank hblank)
    · exact .inr (hout.meets he hmeets)
  · rintro (hblank | ⟨e, he, hmeets⟩)
    · exact .inl (hout.isBlank hblank)
    · exact .inr (hback.meets he hmeets)

theorem read_of_within (hout : Within entries others) (hback : Within others entries) :
    (∃ l, read entries = .ok l) ↔ ∃ m, read others = .ok m := by
  rw [read_eq_ok_iff, read_eq_ok_iff]
  exact ⟨hback.counts, hout.counts⟩

end

/-- An access list is decided by the networks that its entries name, and no mask fails for a length
that a family has. -/
theorem access_decided : (∀ entries, Decided entries)
    ∧ ∀ (a : Address) (k : Nat), k ≤ a.width → a.masked? k = some (a.leading k) := by
  refine ⟨fun entries => ?_, fun _ _ h => Address.masked?_eq h⟩
  exact {
    readable := read_eq_ok_iff
    refused := fun _ h => uncounted_of_read h
    admitted := fun _ h b => admits_of_read h b
    settled := fun _ hout hback =>
      ⟨read_of_within hout hback, fun _ _ hl hm b => admits_of_within hl hm hout hback b⟩
    found := fun _ _ n _ => n.holds?_eq }

/-- An entry meets an address that is written as IPv6, and the address is admitted. -/
theorem access_decided_mapped : ∃ l, read ["10.1.2.3/8", " ", "fd00::/8"] = .ok l
    ∧ l.admits (.mapped 0x0a090807) = true
    ∧ ∃ e ∈ ["10.1.2.3/8", " ", "fd00::/8"], Meets e (.mapped 0x0a090807) := by
  obtain ⟨hdecided, -⟩ := access_decided
  have hread : read ["10.1.2.3/8", " ", "fd00::/8"]
      = .ok ⟨[⟨.v4 0x0a000000, 8, by decide, by decide⟩,
        ⟨.v6 0xfd000000000000000000000000000000, 8, by decide, by decide⟩]⟩ := by decide +kernel
  have hadmits := ((hdecided _).admitted _ hread (.mapped 0x0a090807)).mp (by decide +kernel)
  refine ⟨_, hread, by decide +kernel, hadmits.resolve_left ?_⟩
  intro hblank
  exact absurd (hblank "10.1.2.3/8" (by simp)) (by unfold IsBlank; decide +kernel)

end Conclave.Ip.AccessList
