import Conclave.Proofs.Ip.Written
import Conclave.Settings.Cluster

/-!
# The networks that a setting admits

The admitted networks are set as a list, or as a text that is cut at its commas. An item counts
when it is a text, a number or a Boolean and is not blank. A list, a table or nothing among the
items is left out without a word, and so is a table in the place of the list.

As long as one item counts, the setting admits no more than the items that count: either the
first of them that means no network is the fault, or the list admits the addresses that they cover
and no others. When none counts, everyone is admitted (`admission_of_setting`). If all items can
be read as texts, that happens only to a setting that says nothing; a table or a list of lists
opens the node to everyone (`unreadable_admits_everyone`).
-/

namespace Conclave

/-! ## Numbers are not blank -/

theorem Text.trim_toString_ne_empty (n : Int) : Text.trim (toString n) ≠ "" := by
  cases n with
  | ofNat m =>
      obtain ⟨c, hc⟩ := List.exists_mem_of_ne_nil (Nat.toDigits 10 m) Nat.toDigits_ne_nil
      refine trim_ne_empty (c := c) ?_ (isDigit_of_mem_toDigits hc).not_isBlank
      show c ∈ (toString m).toList
      rwa [toList_toString]
  | negSucc m =>
      refine trim_ne_empty (c := '-') ?_ (by decide)
      show '-' ∈ ("-" ++ Nat.repr (m + 1)).toList
      simp

theorem Binary64.trim_plain_ne_empty (x : Binary64) : Text.trim x.plain ≠ "" := by
  cases x with
  | finite s m q =>
      generalize hd : shortest .up m q = d
      have hdigits : Nat.toDigits 10 d.digits ≠ [] := Nat.toDigits_ne_nil
      obtain ⟨c, hc, hblank⟩ : ∃ c ∈ d.positional, Text.isBlank c = false := by
        unfold Decimal.positional
        dsimp only
        split
        · obtain ⟨c, hc⟩ := List.exists_mem_of_ne_nil _ hdigits
          exact ⟨c, List.mem_append_left _ hc, (Text.isDigit_of_mem_toDigits hc).not_isBlank⟩
        · refine ⟨'.', ?_, by decide⟩
          split <;> simp
      refine Text.trim_ne_empty (c := c) ?_ hblank
      simp [plain, hd, hc]
  | infinite s => cases s <;> decide
  | nan => decide

namespace Settings

open Ip (AccessList Network)

namespace Value

/-- The items of a setting: those of a list, or what stands between the commas of a text. A value
that is no list and cannot be read as a text is the only item. -/
def parts : Value → List Value
  | list items => items
  | v =>
    match v.toText? with
    | some t => (splitCommas t).map text
    | none => [v]

/-- What an item says, unless it is blank or cannot be read as a text. -/
def said? (v : Value) : Option String := (v.toText?.map Text.trim).filter (· ≠ "")

def entries (v : Value) : List String := v.parts.filterMap said?

/-- Whether every item can be read as a text. -/
def IsReadable (v : Value) : Prop := ∀ p ∈ v.parts, p.toText?.isSome = true

/-- Whether a setting says nothing: it is nothing itself, or all its items are blank texts. -/
def IsBlank (v : Value) : Prop := v = nothing ∨ ∀ p ∈ v.parts, ∃ t, p = text t ∧ Text.trim t = ""

/-! ## The items that count -/

theorem parts_of_toText? {v : Value} {t : String} (h : v.toText? = some t) :
    v.parts = (splitCommas t).map text := by
  cases v with
  | nothing | list | table => cases h
  | bool | int | float | text => simp only [parts, h]

theorem filterMap_said? (items : List Value) :
    items.filterMap said? = AccessList.written (items.filterMap toText?) := by
  unfold AccessList.written
  induction items with
  | nil => rfl
  | cons v r ih =>
      rw [List.filterMap_cons, List.filterMap_cons, ih]
      cases hv : v.toText? with
      | none => simp [said?, hv]
      | some t =>
          by_cases ht : Text.trim t = ""
          · simp [said?, hv, ht, Option.filter]
          · simp [said?, hv, ht, Option.filter]

theorem written_entries (v : Value) : AccessList.written v.entries = v.entries := by
  rw [entries, filterMap_said?, AccessList.written_written]

/-- What is read as a list are the items that count. -/
theorem toTexts_eq (v : Value) : v.toTexts = v.entries := by
  rw [entries, filterMap_said?]
  cases ht : v.toText? with
  | some t =>
      have hitems : ((splitCommas t).map text).filterMap toText? = splitCommas t := by
        simp [List.filterMap_map, Function.comp_def, toText?]
      rw [parts_of_toText? ht, hitems]
      cases v with
      | nothing | list | table => cases ht
      | bool | int | float | text =>
          simp only [toTexts, toList?, ht, Option.map_some, Option.getD_some, AccessList.written]
  | none =>
      cases v with
      | nothing | list | table => rfl
      | bool | int | float | text => cases ht

/-- Only a text is blank. -/
theorem eq_text_of_trim {v : Value} {t : String} (h : v.toText? = some t) (ht : Text.trim t = "") :
    v = text t := by
  cases v with
  | nothing | list | table => cases h
  | text s => rw [Option.some.inj h]
  | bool b =>
      obtain rfl := Option.some.inj h
      exact absurd ht (by cases b <;> decide)
  | int n =>
      obtain rfl := Option.some.inj h
      exact absurd ht (Text.trim_toString_ne_empty n)
  | float x =>
      obtain rfl := Option.some.inj h
      exact absurd ht x.trim_plain_ne_empty

theorem not_isBlank {v p : Value} (hp : p ∈ v.parts) (hnone : p.toText? = none) (hv : v ≠ nothing) :
    ¬ v.IsBlank := by
  rintro (hnothing | hall)
  · exact hv hnothing
  · obtain ⟨t, rfl, -⟩ := hall p hp
    cases hnone

theorem entries_ne_nil {v : Value} (hread : v.IsReadable) (hblank : ¬ v.IsBlank) :
    v.entries ≠ [] := by
  intro hnil
  refine hblank (.inr fun p hp => ?_)
  obtain ⟨t, ht⟩ := Option.isSome_iff_exists.mp (hread p hp)
  have hnone : p.said? = none := List.filterMap_eq_nil_iff.mp hnil p hp
  have htrim : Text.trim t = "" := by simpa [said?, ht, Option.filter] using hnone
  exact ⟨t, eq_text_of_trim ht htrim, htrim⟩

end Value

/-! ## What becomes of a setting -/

/-- Whether a membership admits what its entries cover and nothing else, or is refused for the
first entry that means no network. -/
def Restricts (entries : List String) (outcome : Except Fault Membership) : Prop :=
  (∃ m, outcome = .ok m ∧ m.networks ≠ .everyone
    ∧ List.Forall₂ Network.Means entries m.networks.networks
    ∧ ∀ b, m.networks.admits b = true ↔ ∃ e ∈ entries, Network.Covers e b)
  ∨ ∃ before e after, entries = before ++ e :: after
    ∧ (∀ d ∈ before, ∃ n, Network.Means d n) ∧ (¬∃ n, Network.Means e n)
    ∧ outcome = .error (.invalidNetwork e)

section

variable {s : Settings} {v : Value}

theorem networks_of_get? (hv : s.get? (clusterPath "allowed-networks") = some v) :
    s.networks = AccessList.read v.entries := by
  rw [networks, texts, hv, ← Value.toTexts_eq]
  rfl

/-- With valid members the membership depends on the networks alone. -/
theorem membership_of_members (hm : ∀ m ∈ s.members, (Endpoint.read? m).isSome = true) :
    s.membership = s.networks.map fun l => ⟨s.members, s.metadata, l⟩ := by
  have hnone : s.members.find? (fun m => (Endpoint.read? m).isNone) = none := by
    rw [List.find?_eq_none]
    intro m hmem
    simp [Option.isNone_iff_eq_none, Option.isSome_iff_ne_none.mp (hm m hmem)]
  rw [membership, hnone]
  cases s.networks <;> rfl

theorem restricts_of_entries (hv : s.get? (clusterPath "allowed-networks") = some v)
    (hm : ∀ m ∈ s.members, (Endpoint.read? m).isSome = true) (hne : v.entries ≠ []) :
    Restricts v.entries s.membership := by
  rw [membership_of_members hm, networks_of_get? hv]
  cases hl : AccessList.read v.entries with
  | ok l =>
      have hmeans := AccessList.means_of_read hl
      rw [Value.written_entries] at hmeans
      exact .inl ⟨_, rfl, fun hall => hne ((AccessList.everyone_iff hmeans).mp hall), hmeans,
        AccessList.admits_iff hmeans hne⟩
  | error fault =>
      obtain ⟨before, e, after, heq, hbefore, he, rfl⟩ := AccessList.first_of_read hl
      rw [Value.written_entries] at heq
      exact .inr ⟨before, e, after, heq, hbefore, he, rfl⟩

theorem membership_of_entries_nil (hv : s.get? (clusterPath "allowed-networks") = some v)
    (hm : ∀ m ∈ s.members, (Endpoint.read? m).isSome = true) (hnil : v.entries = []) :
    s.membership = .ok ⟨s.members, s.metadata, .everyone⟩ := by
  rw [membership_of_members hm, networks_of_get? hv, hnil]
  rfl

end

/-- With a setting of the admitted networks and valid members the node is open to everyone exactly
when no item of the setting counts; otherwise it admits no more than the items that count. A
setting whose items can all be read as texts opens the node only if it says nothing. -/
theorem admission_of_setting (s : Settings) (v : Value)
    (hv : s.get? (clusterPath "allowed-networks") = some v)
    (hm : ∀ m ∈ s.members, (Endpoint.read? m).isSome = true) :
    ((∃ m, s.membership = .ok m ∧ m.networks = .everyone) ↔ v.entries = [])
    ∧ (v.entries ≠ [] → Restricts v.entries s.membership)
    ∧ (v.IsReadable → ¬ v.IsBlank → Restricts v.entries s.membership) := by
  refine ⟨⟨?_, ?_⟩, restricts_of_entries hv hm, ?_⟩
  · rintro ⟨m, hmembership, hopen⟩
    by_contra hne
    obtain ⟨m', hm', hclosed, -⟩ | ⟨-, e, -, -, -, -, herror⟩ := restricts_of_entries hv hm hne
    · obtain rfl := Except.ok.inj (hmembership.symm.trans hm')
      exact hclosed hopen
    · cases hmembership.symm.trans herror
  · intro hnil
    exact ⟨_, membership_of_entries_nil hv hm hnil, rfl⟩
  · intro hread hblank
    exact restricts_of_entries hv hm (Value.entries_ne_nil hread hblank)

/-! ## A node with one member -/

/-- Settings with one member and a setting of the admitted networks. -/
def guarded (v : Value) : Settings :=
  ⟨.table [("raftline", .table [("cluster", .table [
    ("members", .text "127.0.0.1:3262"), ("allowed-networks", v)])])]⟩

theorem get?_guarded (v : Value) : (guarded v).get? (clusterPath "allowed-networks") = some v := by
  simp [guarded, Settings.get?, clusterPath, Value.get?, List.lookup_cons]

theorem valid_guarded (v : Value) :
    ∀ m ∈ (guarded v).members, (Endpoint.read? m).isSome = true := by
  have hget : (guarded v).get? (clusterPath "members") = some (.text "127.0.0.1:3262") := by
    simp [guarded, Settings.get?, clusterPath, Value.get?]
  rw [members, texts, hget]
  decide +kernel

/-- Two networks in one text are admitted, and a blank item after them changes nothing. -/
theorem two_networks_restrict :
    Restricts ["10.0.0.0/8", "192.168.1.7"]
      (guarded (.text "10.0.0.0/8, 192.168.1.7, ")).membership := by
  have hparts : (Value.text "10.0.0.0/8, 192.168.1.7, ").parts =
      [.text "10.0.0.0/8", .text " 192.168.1.7", .text " "] := by
    have hcut : splitCommas "10.0.0.0/8, 192.168.1.7, " = ["10.0.0.0/8", " 192.168.1.7", " "] := by
      decide +kernel
    rw [Value.parts_of_toText? rfl, hcut]
    rfl
  have hread : (Value.text "10.0.0.0/8, 192.168.1.7, ").IsReadable := by
    simp [Value.IsReadable, hparts, Value.toText?]
  have hblank : ¬ (Value.text "10.0.0.0/8, 192.168.1.7, ").IsBlank := by
    rintro (hnothing | hall)
    · cases hnothing
    · rw [hparts] at hall
      obtain ⟨t, ht, htrim⟩ := hall _ (List.mem_cons_self ..)
      obtain rfl := Value.text.inj ht
      revert htrim
      decide +kernel
  obtain ⟨-, -, hrestricts⟩ := admission_of_setting (guarded (.text "10.0.0.0/8, 192.168.1.7, "))
    (.text "10.0.0.0/8, 192.168.1.7, ") (get?_guarded _) (valid_guarded _)
  have hentries : (Value.text "10.0.0.0/8, 192.168.1.7, ").entries =
      ["10.0.0.0/8", "192.168.1.7"] := by
    decide +kernel
  exact hentries ▸ hrestricts hread hblank

theorem guarded_admits_everyone {v : Value} (hnil : v.entries = []) :
    ∃ m, (guarded v).membership = .ok m ∧ m.networks = .everyone :=
  ⟨_, membership_of_entries_nil (get?_guarded v) (valid_guarded v) hnil, rfl⟩

def officeTable : Value := .table [("office", .text "10.0.0.0/8")]

def nestedList : Value := .list [.list [.text "10.0.0.0/8"]]

/-- A table in the place of the list opens the node to everyone, and so does a list within the
list, though both name a network. -/
theorem unreadable_admits_everyone :
    ((guarded officeTable).get? (clusterPath "allowed-networks") = some officeTable
      ∧ ¬ officeTable.IsBlank
      ∧ ∃ m, (guarded officeTable).membership = .ok m ∧ m.networks = .everyone)
    ∧ (guarded nestedList).get? (clusterPath "allowed-networks") = some nestedList
      ∧ ¬ nestedList.IsBlank
      ∧ ∃ m, (guarded nestedList).membership = .ok m ∧ m.networks = .everyone := by
  have htable : ¬ officeTable.IsBlank :=
    Value.not_isBlank (List.mem_cons_self ..) rfl (by simp [officeTable])
  have hnested : ¬ nestedList.IsBlank :=
    Value.not_isBlank (List.mem_cons_self ..) rfl (by simp [nestedList])
  exact ⟨⟨get?_guarded _, htable, guarded_admits_everyone (by decide +kernel)⟩,
    get?_guarded _, hnested, guarded_admits_everyone (by decide +kernel)⟩

end Settings

end Conclave
