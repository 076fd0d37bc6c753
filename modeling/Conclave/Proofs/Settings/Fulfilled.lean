import Conclave.Http.Transport
import Conclave.Proofs.Endpoint
import Conclave.Proofs.Node.Passes
import Conclave.Proofs.Settings.Admitted
import Mathlib.Data.List.Induction

/-!
# Valid settings are applied in full

Addresses of members are checked twice: when a membership is made of the settings, and when a pass
makes a member for an address. Nothing tries a failed address again before the next change, so a
difference between the two checks would leave a member out without a word. For a node that calls
over HTTP there is none: both ask for a text that writes an endpoint (`Endpoint.Written`).

The items of a setting are those that count (`Settings.listed`). Members that are set twice count
once, which does not change which of them is the first to be refused (`find?_distinct`).
-/

namespace Conclave

/-! ## The first of a list -/

/-- Whether an item is the first of a list with a property. -/
def IsFirst (P : String → Prop) (l : List String) (s : String) : Prop :=
  ∃ before after, l = before ++ s :: after ∧ (∀ d ∈ before, ¬ P d) ∧ P s

namespace IsFirst

variable {P : String → Prop} {l : List String} {s t : String}

theorem mem (h : IsFirst P l s) : s ∈ l := by
  obtain ⟨before, after, rfl, -, -⟩ := h
  simp

theorem holds (h : IsFirst P l s) : P s := by
  obtain ⟨-, -, -, -, hs⟩ := h
  exact hs

theorem unique (hs : IsFirst P l s) (ht : IsFirst P l t) : s = t := by
  obtain ⟨before, after, rfl, hbefore, hPs⟩ := hs
  obtain ⟨before', after', heq, hbefore', hPt⟩ := ht
  rcases List.append_eq_append_iff.mp heq with ⟨between, hb, hr⟩ | ⟨between, hb, hr⟩
  all_goals
    rw [List.cons_eq_append_iff] at hr
    rcases hr with ⟨hnil, hr⟩ | ⟨rest, hcons, -⟩
  · exact (List.cons.inj hr).1.symm
  · exact absurd hPs (hbefore' s (by simp [hb, hcons]))
  · exact (List.cons.inj hr).1
  · exact absurd hPt (hbefore t (by simp [hb, hcons]))

end IsFirst

theorem isFirst_iff_find? {P : String → Prop} {p : String → Bool} (hp : ∀ s, p s = true ↔ P s)
    {l : List String} {s : String} : l.find? p = some s ↔ IsFirst P l s := by
  simp only [List.find?_eq_some_iff_append, IsFirst, ← hp, Bool.not_eq_true', Bool.not_eq_true]
  constructor
  · rintro ⟨hs, before, after, hl, hbefore⟩
    exact ⟨before, after, hl, hbefore, hs⟩
  · rintro ⟨before, after, hl, hbefore, hs⟩
    exact ⟨hs, before, after, hl, hbefore⟩

/-! ## Addresses that are called over HTTP -/

theorem Http.accept_eq_ok_iff {address : String} :
    Http.accept address = .ok () ↔ Endpoint.Written address := by
  rw [← Endpoint.isSome_read?_iff, accept]
  split <;> simp_all

theorem Http.accept_eq_error_iff {address : String} :
    Http.accept address = .error (.invalidAddress address) ↔ ¬ Endpoint.Written address := by
  rw [← Endpoint.isNone_read?_iff, accept]
  split <;> simp_all

namespace Settings

open Ip (AccessList Network)

/-! ## Items that are set twice -/

theorem distinct_concat (l : List String) (s : String) :
    distinct (l ++ [s]) = if (distinct l).contains s then distinct l else distinct l ++ [s] := by
  rw [distinct, List.foldl_append]
  rfl

theorem mem_distinct {l : List String} {s : String} : s ∈ distinct l ↔ s ∈ l := by
  induction l using List.reverseRecOn with
  | nil => rfl
  | append_singleton l t ih =>
      rw [distinct_concat, List.mem_append, List.mem_singleton, ← ih]
      split
      · rename_i ht
        rw [List.contains_iff_mem] at ht
        constructor
        · exact .inl
        · rintro (hs | rfl)
          · exact hs
          · exact ht
      · rw [List.mem_append, List.mem_singleton]

theorem nodup_distinct (l : List String) : (distinct l).Nodup := by
  induction l using List.reverseRecOn with
  | nil => exact List.nodup_nil
  | append_singleton l t ih =>
      rw [distinct_concat]
      split
      · exact ih
      · rename_i ht
        rw [List.contains_iff_mem] at ht
        exact List.nodup_append.mpr ⟨ih, List.pairwise_singleton _ t,
          fun s hs s' hs' => ne_of_mem_of_not_mem hs (List.mem_singleton.mp hs' ▸ ht)⟩

/-- The first item with a property stays the first when repeats are left out. -/
theorem find?_distinct (p : String → Bool) (l : List String) :
    (distinct l).find? p = l.find? p := by
  induction l using List.reverseRecOn with
  | nil => rfl
  | append_singleton l t ih =>
      rw [distinct_concat, List.find?_append, ← ih]
      split
      · rename_i ht
        rw [List.contains_iff_mem] at ht
        -- a repeat is the first one only if none was before, and it was there itself
        cases hfind : (distinct l).find? p with
        | some s => rfl
        | none =>
            have hp : ¬ p t = true := List.find?_eq_none.mp hfind t ht
            simp [hp]
      · rw [List.find?_append]

/-! ## What is listed -/

/-- The items of a setting that count. -/
def listed (s : Settings) (path : Path) : List String := ((s.get? path).map Value.entries).getD []

variable {s : Settings}

theorem texts_eq_listed (s : Settings) (path : Path) : s.texts path = s.listed path := by
  rw [texts, listed, funext Value.toTexts_eq]

theorem trim_of_listed {path : Path} {a : String} (h : a ∈ s.listed path) :
    Text.trim a = a ∧ a ≠ "" := by
  rw [listed] at h
  cases hv : s.get? path with
  | none => simp [hv] at h
  | some v =>
      rw [hv, Option.map_some, Option.getD_some, ← Value.written_entries] at h
      exact AccessList.of_mem_written h

theorem written_listed (s : Settings) (path : Path) :
    AccessList.written (s.listed path) = s.listed path := by
  rw [listed]
  cases s.get? path with
  | none => rfl
  | some v => exact Value.written_entries v

theorem mem_members {a : String} : a ∈ s.members ↔ a ∈ s.listed (clusterPath "members") := by
  rw [members, mem_distinct, texts_eq_listed]

/-! ## What is refused -/

/-- Whether a text is the first listed member that writes no endpoint. -/
def IsFirstUnwritten (s : Settings) (m : String) : Prop :=
  IsFirst (¬ Endpoint.Written ·) (s.listed (clusterPath "members")) m

/-- Whether a text is the first listed entry that means no network. -/
def IsFirstUnknown (s : Settings) (e : String) : Prop :=
  IsFirst (fun e => ¬∃ n, Network.Means e n) (s.listed (clusterPath "allowed-networks")) e

/-- The networks are refused for the first entry that means none. -/
theorem networks_eq_error_iff {fault : Fault} : s.networks = .error fault ↔
    ∃ e, s.IsFirstUnknown e ∧ fault = .invalidNetwork e := by
  have hfirst : ∀ {f}, s.networks = .error f →
      ∃ e, s.IsFirstUnknown e ∧ f = .invalidNetwork e := by
    intro f hf
    rw [networks, texts_eq_listed] at hf
    obtain ⟨before, e, after, heq, hbefore, he, hfault⟩ := AccessList.first_of_read hf
    rw [written_listed] at heq
    exact ⟨e, ⟨before, after, heq, fun d hd => not_not_intro (hbefore d hd), he⟩, hfault⟩
  constructor
  · exact hfirst
  · rintro ⟨e, he, rfl⟩
    cases hn : s.networks with
    | error f =>
        obtain ⟨e', he', rfl⟩ := hfirst hn
        rw [he.unique he']
    | ok l =>
        rw [networks, texts_eq_listed] at hn
        have hmeans := AccessList.means_of_read hn
        rw [written_listed] at hmeans
        exact absurd (exists_of_forall₂ hmeans he.mem) he.holds

theorem membership_of_isFirst {m : String} (h : s.IsFirstUnwritten m) :
    s.membership = .error (.invalidAddress m) := by
  have hfind : s.members.find? (fun m => (Endpoint.read? m).isNone) = some m := by
    rw [members, find?_distinct, texts_eq_listed]
    exact (isFirst_iff_find? fun _ => Endpoint.isNone_read?_iff).mpr h
  rw [membership, hfind]
  rfl

theorem membership_of_written
    (h : ∀ m ∈ s.listed (clusterPath "members"), Endpoint.Written m) :
    s.membership = s.networks.map fun l => ⟨s.members, s.metadata, l⟩ :=
  membership_of_members fun m hm => Endpoint.isSome_read?_iff.mpr (h m (mem_members.mp hm))

/-- Either all members write an endpoint, or there is a first one that does not. -/
theorem written_or_isFirst (s : Settings) :
    (∀ m ∈ s.listed (clusterPath "members"), Endpoint.Written m) ∨ ∃ m, s.IsFirstUnwritten m := by
  cases hfind : (s.listed (clusterPath "members")).find? (fun m => (Endpoint.read? m).isNone) with
  | some m => exact .inr ⟨m, (isFirst_iff_find? fun _ => Endpoint.isNone_read?_iff).mp hfind⟩
  | none =>
      refine .inl fun m hm => ?_
      have hnone := List.find?_eq_none.mp hfind m hm
      rw [Endpoint.isNone_read?_iff, not_not] at hnone
      exact hnone

theorem membership_eq_error_iff {fault : Fault} : s.membership = .error fault ↔
    (∃ m, s.IsFirstUnwritten m ∧ fault = .invalidAddress m)
    ∨ (∀ m ∈ s.listed (clusterPath "members"), Endpoint.Written m)
      ∧ ∃ e, s.IsFirstUnknown e ∧ fault = .invalidNetwork e := by
  rcases written_or_isFirst s with hall | ⟨m, hm⟩
  · have hnone : ¬∃ m, s.IsFirstUnwritten m ∧ fault = .invalidAddress m := by
      rintro ⟨m, hm, -⟩
      exact hm.holds (hall m hm.mem)
    rw [membership_of_written hall, ← networks_eq_error_iff, or_iff_right hnone,
      and_iff_right hall]
    cases s.networks <;> simp [Except.map]
  · rw [membership_of_isFirst hm]
    constructor
    · intro h
      exact .inl ⟨m, hm, (Except.error.inj h).symm⟩
    · rintro (⟨m', hm', rfl⟩ | ⟨hall, -⟩)
      · rw [hm.unique hm']
      · exact absurd (hall m hm.mem) hm.holds

/-- A membership lists the members of the settings, and all of them write an endpoint. -/
theorem of_membership {m : Membership} (h : s.membership = .ok m) :
    m.members = s.members ∧ ∀ a ∈ m.members, Endpoint.Written a := by
  rcases written_or_isFirst s with hall | ⟨e, he⟩
  · rw [membership_of_written hall] at h
    cases hn : s.networks with
    | error fault =>
        rw [hn] at h
        cases h
    | ok l =>
        rw [hn] at h
        obtain rfl := Except.ok.inj h
        exact ⟨rfl, fun a ha => hall a (mem_members.mp ha)⟩
  · rw [membership_of_isFirst he] at h
    cases h

end Settings

/-! ## Nodes that call over HTTP -/

namespace Node

variable {ω : Type} [Surroundings ω] {n : Node ω}

/-- Whether members are made for the addresses that can be called over HTTP, whatever the listeners
hear. -/
def CallsOverHttp (n : Node ω) : Prop :=
  ∀ (es : List MemberEvent) (address : String),
    Surroundings.accept (es.foldl Surroundings.hear n.world) address = Http.accept address

theorem CallsOverHttp.fixedFactory (h : n.CallsOverHttp) : n.FixedFactory :=
  fun es a => (h es a).trans (h [] a).symm

theorem CallsOverHttp.accepts (h : n.CallsOverHttp) {address : String}
    (hw : Endpoint.Written address) : n.accepts address = true := by
  rw [Node.accepts, show Surroundings.accept n.world address = _ from h [] address,
    Http.accept_eq_ok_iff.mpr hw]
  rfl

/-- A pass with members that can all be called fails for none of them. -/
theorem CallsOverHttp.reconcile (h : n.CallsOverHttp) (hn : Reconciled ω n.registry)
    {desired : Membership} (hw : ∀ a ∈ desired.members, Endpoint.Written a) :
    (n.reconcile desired).2.failed = []
    ∧ ∀ a, a ∈ (n.reconcile desired).1.registry.addresses ↔
        a = n.registry.localAddress ∨ a ∈ desired.members := by
  have hpass := attained_reconcile h.fixedFactory hn.contains_local desired
  have haccepts : ∀ a ∈ desired.members, n.accepts a = true := fun a ha => h.accepts (hw a ha)
  constructor
  · rw [hpass.failed, List.filter_eq_nil_iff]
    intro a ha
    simp [haccepts a ha]
  · intro a
    rw [hpass.registered]
    exact or_congr_right ⟨And.left, fun ha => ⟨ha, .inr (haccepts a ha)⟩⟩

end Node

namespace Settings

open Ip (Network)
open Node (Surroundings Reconciled)

/-- A membership that is made of settings lists each member once, without blanks, and every member
can be called; a pass of a node that calls over HTTP fails for none of them and registers just them
beside the local member. Settings are refused for the first member that writes no endpoint or else
for the first network that means none, and for nothing else. -/
theorem valid_settings_applied (s : Settings) :
    (∀ m, s.membership = .ok m →
      m.members.Nodup
      ∧ (∀ a, a ∈ m.members ↔ a ∈ s.listed (clusterPath "members"))
      ∧ (∀ a ∈ m.members, Text.trim a = a ∧ a ≠ "" ∧ Http.accept a = .ok ())
      ∧ ∀ (ω : Type) [Surroundings ω] (n : Node ω), Reconciled ω n.registry →
          n.CallsOverHttp →
          (n.reconcile m).2.failed = []
          ∧ ∀ a, a ∈ (n.reconcile m).1.registry.addresses ↔
              a = n.registry.localAddress ∨ a ∈ m.members)
    ∧ ∀ fault, s.membership = .error fault ↔
        (∃ m, s.IsFirstUnwritten m ∧ fault = .invalidAddress m)
        ∨ (∀ m ∈ s.listed (clusterPath "members"), Endpoint.Written m)
          ∧ ∃ e, s.IsFirstUnknown e ∧ fault = .invalidNetwork e := by
  refine ⟨fun m hm => ?_, fun fault => membership_eq_error_iff⟩
  obtain ⟨hmembers, hwritten⟩ := of_membership hm
  have hmem : ∀ a, a ∈ m.members ↔ a ∈ s.listed (clusterPath "members") := by
    intro a
    rw [hmembers, mem_members]
  refine ⟨?_, hmem, ?_, ?_⟩
  · rw [hmembers]
    exact nodup_distinct _
  · intro a ha
    obtain ⟨htrim, hne⟩ := trim_of_listed ((hmem a).mp ha)
    exact ⟨htrim, hne, Http.accept_eq_ok_iff.mpr (hwritten a ha)⟩
  · intro ω _ n hn hcalls
    exact hcalls.reconcile hn hwritten

/-! ## A crew and its harbour -/

/-- Settings of the members and the admitted networks of a cluster. -/
def crew (members networks : String) : Settings :=
  ⟨.table [("raftline", .table [("cluster", .table [
    ("members", .text members), ("allowed-networks", .text networks)])])]⟩

/-- A node at `c:9` that calls over HTTP. -/
def harbour : Node Rehearsal.World :=
  .alone (.start .quiet (.http "c:9" "/raftline" 64) []) "c:9" ⟨10, 10, []⟩ (.new default)

theorem callsOverHttp_harbour : harbour.CallsOverHttp := by
  intro es a
  have hnetwork : (es.foldl Surroundings.hear harbour.world).network = harbour.world.network := by
    generalize harbour.world = w
    induction es generalizing w with
    | nil => rfl
    | cons e r ih => exact ih (Surroundings.hear w e)
  show Rehearsal.World.accept _ a = _
  rw [Rehearsal.World.accept, hnetwork]
  rfl

/-- Of two entries that mean no network one is the first. -/
theorem isFirst_everywhere : IsFirst (fun e => ¬∃ n, Network.Means e n)
    ["10.0.0.0/8", "everywhere", "nowhere"] "everywhere" := by
  refine ⟨["10.0.0.0/8"], ["nowhere"], rfl, ?_, ?_⟩
  · intro d hd hnone
    obtain rfl : d = "10.0.0.0/8" := List.mem_singleton.mp hd
    have hsome : (Network.ofChars? (Text.trimChars "10.0.0.0/8".toList)).isSome = true := by
      decide +kernel
    obtain ⟨n, hn⟩ := Option.isSome_iff_exists.mp hsome
    exact hnone ⟨n, Network.means_iff.mpr hn⟩
  · rintro ⟨n, hn⟩
    have hnone : Network.ofChars? (Text.trimChars "everywhere".toList) = none := by
      decide +kernel
    rw [Network.means_iff, hnone] at hn
    cases hn

/-- A member that is set twice is registered once, and a text that means no network is the fault
though another one follows. -/
theorem harbour_takes_crew :
    (∃ m, (crew " a:1,[::1]:2, , a:1" "10.0.0.0/8").membership = .ok m
      ∧ (harbour.reconcile m).2.failed = []
      ∧ ∀ a, a ∈ (harbour.reconcile m).1.registry.addresses ↔
          a = "c:9" ∨ a ∈ ["a:1", "[::1]:2", "a:1"])
    ∧ (crew "a:1" "10.0.0.0/8,everywhere,nowhere").membership
        = .error (.invalidNetwork "everywhere") := by
  constructor
  · have hok : (crew " a:1,[::1]:2, , a:1" "10.0.0.0/8").membership.isOk = true := by
      decide +kernel
    cases hm : (crew " a:1,[::1]:2, , a:1" "10.0.0.0/8").membership with
    | error fault =>
        rw [hm] at hok
        cases hok
    | ok m =>
        obtain ⟨-, hmem, -, hpass⟩ := (valid_settings_applied _).1 m hm
        have hlisted : (crew " a:1,[::1]:2, , a:1" "10.0.0.0/8").listed (clusterPath "members")
            = ["a:1", "[::1]:2", "a:1"] := by
          decide +kernel
        rw [hlisted] at hmem
        obtain ⟨hfailed, hregistered⟩ := hpass _ harbour (.new ..) callsOverHttp_harbour
        refine ⟨m, rfl, hfailed, fun a => ?_⟩
        rw [hregistered, hmem]
        rfl
  · refine ((valid_settings_applied _).2 _).mpr (.inr ⟨fun a ha => ?_, "everywhere", ?_, rfl⟩)
    · have hlisted : (crew "a:1" "10.0.0.0/8,everywhere,nowhere").listed (clusterPath "members")
          = ["a:1"] := by
        decide +kernel
      rw [hlisted, List.mem_singleton] at ha
      rw [ha, ← Endpoint.isSome_read?_iff]
      decide +kernel
    · have hlisted : (crew "a:1" "10.0.0.0/8,everywhere,nowhere").listed
          (clusterPath "allowed-networks") = ["10.0.0.0/8", "everywhere", "nowhere"] := by
        decide +kernel
      rw [IsFirstUnknown, hlisted]
      exact isFirst_everywhere

end Settings

end Conclave
