import Conclave.Proofs.Ip.Spelling
import Conclave.Proofs.Node.Building

/-!
# Which member a node takes itself for

A member denotes the host that a node runs on when it is the public endpoint, or when it has the
port that is listened on and its host part names the host: by `localhost`, by a loopback address, or
by an address of the host (`Host.Denotes`). The local member is the one that stands at the only
position whose member denotes the host.

So it depends on which members and addresses there are, and not on how they are listed
(`local_member_unique`). The members are counted by their positions, though: one that denotes the
host and is listed twice is not the local one.
-/

namespace Conclave

/-! ## Names of the host -/

/-- Whether an address is the host itself, on whatever host: one of 127.0.0.0/8, or `::1`. -/
def Ip.Address.IsLoopback (a : Ip.Address) : Prop :=
  Ip.Address.Shares 8 (.v4 0x7f000000) a ∨ a = .v6 1

theorem Ip.Address.isLoopback_iff (a : Ip.Address) : a.isLoopback = true ↔ a.IsLoopback := by
  cases a with
  | v4 b =>
      have hb := b.isLt
      rw [IsLoopback, ← leading_eq_iff (by decide), isLoopback, beq_iff_eq]
      simp [leading, Ip.leading, BitVec.toNat_eq, Nat.shiftRight_eq_div_pow, Nat.shiftLeft_eq]
      omega
  | v6 b => simp [IsLoopback, isLoopback, Shares, width]

theorem Text.lowerChar_eq (c : Char) : lowerChar c = c.toLower := by
  by_cases h : 'A' ≤ c ∧ c ≤ 'Z'
  · have hcase : c.val ≥ 'A'.val ∧ c.val ≤ 'Z'.val := h
    have hrange : 65 ≤ c.toNat ∧ c.toNat ≤ 90 := h
    have hlower : c.toLower.toNat = c.toNat + 32 := by
      have hshift : c.toLower = _ := dif_pos hcase
      rw [hshift]
      show (c.val + 32).toNat = c.val.toNat + 32
      have hval : c.val.toNat = c.toNat := rfl
      rw [UInt32.toNat_add]
      simp
      omega
    rw [lowerChar, if_pos h, ← hlower, Char.ofNat_toNat]
  · have hcase : ¬ (c.val ≥ 'A'.val ∧ c.val ≤ 'Z'.val) := h
    have hsame : c.toLower = c := dif_neg hcase
    rw [lowerChar, if_neg h, hsame]

theorem Text.sameLetters_localhost (s : String) :
    sameLetters s "localhost" = true ↔ s.toLower = "localhost" := by
  have hword : "localhost".toList.map lowerChar = "localhost".toList := by decide
  have hlower : s.toLower.toList = s.toList.map Char.toLower := String.toList_map
  rw [sameLetters, hword, beq_iff_eq, ← String.toList_inj, hlower,
    List.map_congr_left fun c _ => lowerChar_eq c]

namespace Node

namespace Host

/-- Whether the host part of an endpoint names the host. -/
inductive Names (h : Host) (host : String) : Prop where
  | localhost : host.toLower = "localhost" → Names h host
  | loopback {a : Ip.Address} : Ip.Spells host.toList a → a.IsLoopback → Names h host
  | bound {a : Ip.Address} : Ip.Spells host.toList a → a ∈ h.addresses → Names h host

/-- Whether a member is the host. -/
inductive Denotes (h : Host) (member : String) : Prop where
  | known : h.publicEndpoint = some member → Denotes h member
  | named {host : String} : Endpoint.read? member = some ⟨host, h.port⟩ → h.Names host →
      Denotes h member

section

variable {h : Host}

theorem names_iff {host : String} :
    h.Names host ↔
      ∃ a, literal? host = some a ∧ (a.isLoopback || h.addresses.contains a) = true := by
  unfold literal?
  split
  · rename_i hword
    exact iff_of_true (.localhost ((Text.sameLetters_localhost host).mp hword)) ⟨_, rfl, rfl⟩
  · rename_i hword
    constructor
    · rintro (hlocal | ⟨ha, hloop⟩ | ⟨ha, hmem⟩)
      · exact absurd ((Text.sameLetters_localhost host).mpr hlocal) hword
      · have hloops := (Ip.Address.isLoopback_iff _).mpr hloop
        exact ⟨_, Ip.Address.read?_eq_some_iff.mpr ha, by simp [hloops]⟩
      · exact ⟨_, Ip.Address.read?_eq_some_iff.mpr ha, by simp [hmem]⟩
    · rintro ⟨a, ha, hany⟩
      rw [Ip.Address.read?_eq_some_iff] at ha
      rw [Bool.or_eq_true, List.contains_iff_mem] at hany
      rcases hany with hloop | hmem
      · exact .loopback ha ((Ip.Address.isLoopback_iff a).mp hloop)
      · exact .bound ha hmem

theorem isAt_iff {member : String} : h.isAt member = true ↔ h.Denotes member := by
  rw [isAt, Bool.or_eq_true, beq_iff_eq]
  cases hread : Endpoint.read? member with
  | none =>
      constructor
      · rintro (hknown | hnone)
        · exact .known hknown
        · cases hnone
      · rintro (hknown | ⟨hnamed, -⟩)
        · exact .inl hknown
        · cases hread.symm.trans hnamed
  | some e =>
      simp only [Bool.and_eq_true, beq_iff_eq]
      constructor
      · rintro (hknown | ⟨hport, hhost⟩)
        · exact .known hknown
        · split at hhost
          · cases hhost
          · rename_i a ha
            exact .named (hport ▸ hread) (names_iff.mpr ⟨a, ha, hhost⟩)
      · rintro (hknown | ⟨hnamed, hnames⟩)
        · exact .inl hknown
        · obtain rfl := Option.some.inj (hread.symm.trans hnamed)
          obtain ⟨a, ha, hany⟩ := names_iff.mp hnames
          exact .inr ⟨rfl, by rw [ha]; exact hany⟩

instance : DecidablePred h.Denotes := fun _ => decidable_of_iff _ isAt_iff

/-- Which members denote a host does not depend on how its addresses are listed. -/
theorem denotes_congr {addresses : List Ip.Address}
    (haddresses : ∀ a, a ∈ addresses ↔ a ∈ h.addresses) (member : String) :
    Denotes { h with addresses := addresses } member ↔ h.Denotes member := by
  constructor
  · rintro (hknown | ⟨hread, hlocal | ⟨ha, hloop⟩ | ⟨ha, hmem⟩⟩)
    · exact .known hknown
    · exact .named hread (.localhost hlocal)
    · exact .named hread (.loopback ha hloop)
    · exact .named hread (.bound ha ((haddresses _).mp hmem))
  · rintro (hknown | ⟨hread, hlocal | ⟨ha, hloop⟩ | ⟨ha, hmem⟩⟩)
    · exact .known hknown
    · exact .named hread (.localhost hlocal)
    · exact .named hread (.loopback ha hloop)
    · exact .named hread (.bound ha ((haddresses _).mpr hmem))

/-! ## The only position -/

/-- Whether the member at a position, and at no other one, denotes the host. -/
def OnlyAt (h : Host) (members : List String) (i : Nat) : Prop :=
  ∀ j x, members[j]? = some x → (h.Denotes x ↔ j = i)

/-- The members that denote the host, in their order. -/
def candidates (h : Host) (members : List String) : List String :=
  members.filter fun m => decide (h.Denotes m)

theorem candidates_eq (members : List String) : h.candidates members = members.filter h.isAt :=
  List.filter_congr fun m _ => by rw [← Bool.decide_coe (h.isAt m), decide_eq_decide, isAt_iff]

theorem mem_candidates {members : List String} {m : String} :
    m ∈ h.candidates members ↔ m ∈ members ∧ h.Denotes m := by
  simp [candidates]

theorem resolve_eq (members : List String) : h.resolve members =
    match h.candidates members with
    | [m] => .ok m
    | [] =>
      .error (.localUnresolved
        (.noMatch members (h.addresses.map Ip.Address.text) h.port.toNat))
    | many => .error (.localUnresolved (.ambiguous many)) := by
  rw [candidates_eq]
  rfl

theorem candidates_eq_singleton_iff {members : List String} {m : String} :
    h.candidates members = [m] ↔ ∃ i, members[i]? = some m ∧ h.OnlyAt members i := by
  constructor
  · intro hone
    obtain ⟨front, back, rfl, hfront, hm, hback⟩ := List.filter_eq_cons_iff.mp hone
    refine ⟨front.length, by simp, fun j x hx => ?_⟩
    rw [List.filter_eq_nil_iff] at hback
    rcases Nat.lt_trichotomy j front.length with hlt | rfl | hgt
    · rw [List.getElem?_append_left hlt] at hx
      have hnot := hfront x (List.mem_of_getElem? hx)
      exact iff_of_false (by simpa using hnot) (Nat.ne_of_lt hlt)
    · obtain rfl : m = x := by simpa using hx
      exact iff_of_true (by simpa using hm) rfl
    · obtain ⟨k, rfl⟩ := Nat.exists_eq_add_of_lt hgt
      rw [List.getElem?_append_right (by omega), Nat.add_assoc, Nat.add_sub_cancel_left,
        List.getElem?_cons_succ] at hx
      have hnot := hback x (List.mem_of_getElem? hx)
      exact iff_of_false (by simpa using hnot) (by omega)
  · rintro ⟨i, hi, honly⟩
    obtain ⟨hlt, rfl⟩ := List.getElem?_eq_some_iff.mp hi
    have hsplit : members = members.take i ++ members[i] :: members.drop (i + 1) := by
      rw [List.getElem_cons_drop, List.take_append_drop]
    refine List.filter_eq_cons_iff.mpr ⟨_, _, hsplit, fun x hx => ?_, ?_, ?_⟩
    · obtain ⟨j, hj⟩ := List.mem_iff_getElem?.mp hx
      rw [List.getElem?_take] at hj
      split at hj
      · rename_i hji
        simpa using mt (honly j x hj).mp (Nat.ne_of_lt hji)
      · cases hj
    · simpa using (honly i _ hi).mpr rfl
    · rw [List.filter_eq_nil_iff]
      intro x hx
      obtain ⟨j, hj⟩ := List.mem_iff_getElem?.mp hx
      rw [List.getElem?_drop] at hj
      simpa using mt (honly _ x hj).mp (by omega)

theorem resolve_of_none {members : List String} (hnone : ∀ m ∈ members, ¬ h.Denotes m) :
    h.resolve members = .error (.localUnresolved
      (.noMatch members (h.addresses.map Ip.Address.text) h.port.toNat)) := by
  have hnil : h.candidates members = [] :=
    List.filter_eq_nil_iff.mpr fun m hm => by simpa using hnone m hm
  rw [resolve_eq, hnil]

theorem resolve_eq_ok_iff {members : List String} {m : String} :
    h.resolve members = .ok m ↔ ∃ i, members[i]? = some m ∧ h.OnlyAt members i := by
  rw [← candidates_eq_singleton_iff, resolve_eq]
  split
  · rename_i m' hone
    simp [hone]
  · rename_i hnil
    simp [hnil]
  · rename_i hmany _
    simpa using hmany m

theorem resolve_of_two_le {members : List String} (htwo : 2 ≤ (h.candidates members).length) :
    h.resolve members = .error (.localUnresolved (.ambiguous (h.candidates members))) := by
  rw [resolve_eq]
  split
  · rename_i m hone
    rw [hone] at htwo
    exact absurd htwo (by simp)
  · rename_i hnil
    rw [hnil] at htwo
    exact absurd htwo (by simp)
  · rfl

/-- Members at two positions that both denote the host are two candidates. -/
theorem two_le_of_positions {members : List String} {i j : Nat} {x y : String} (hij : i < j)
    (hi : members[i]? = some x) (hj : members[j]? = some y) (hx : h.Denotes x)
    (hy : h.Denotes y) : 2 ≤ (h.candidates members).length := by
  have hmem : x ∈ h.candidates members := mem_candidates.mpr ⟨List.mem_of_getElem? hi, hx⟩
  cases hc : h.candidates members with
  | nil =>
      rw [hc] at hmem
      cases hmem
  | cons m r =>
      cases r with
      | nil =>
          obtain ⟨k, -, honly⟩ := candidates_eq_singleton_iff.mp hc
          have hik := (honly i x hi).mp hx
          have hjk := (honly j y hj).mp hy
          omega
      | cons => simp

theorem two_le_of_count {members : List String} {m : String} (hm : h.Denotes m)
    (htwice : 2 ≤ members.count m) : 2 ≤ (h.candidates members).length := by
  have hsub := (List.replicate_sublist_iff.mpr htwice).filter fun m => decide (h.Denotes m)
  have hkept : (List.replicate 2 m).filter (fun m => decide (h.Denotes m)) = [m, m] := by
    simp [List.replicate, hm]
  rw [hkept] at hsub
  exact hsub.length_le

/-! ## Other lists -/

/-- Whether two resolutions end in the same way: with the same member, or with none. -/
inductive SameOutcome : Except Fault String → Except Fault String → Prop where
  | found (m : String) : SameOutcome (.ok m) (.ok m)
  | unresolved (r r' : Unresolved) :
      SameOutcome (.error (.localUnresolved r)) (.error (.localUnresolved r'))

theorem sameOutcome_of_perm {h' : Host} {members members' : List String}
    (hperm : (h'.candidates members').Perm (h.candidates members)) :
    SameOutcome (h.resolve members) (h'.resolve members') := by
  match hc : h.candidates members with
  | [] =>
      rw [hc, List.perm_nil] at hperm
      rw [resolve_eq, resolve_eq, hc, hperm]
      exact .unresolved _ _
  | [m] =>
      rw [hc, List.perm_singleton] at hperm
      rw [resolve_eq, resolve_eq, hc, hperm]
      exact .found m
  | _ :: _ :: _ =>
      have htwo : 2 ≤ (h.candidates members).length := by simp [hc]
      rw [resolve_of_two_le htwo, resolve_of_two_le (hperm.length_eq ▸ htwo)]
      exact .unresolved _ _

theorem candidates_congr {addresses : List Ip.Address}
    (haddresses : ∀ a, a ∈ addresses ↔ a ∈ h.addresses) (members : List String) :
    candidates { h with addresses := addresses } members = h.candidates members :=
  List.filter_congr fun m _ => decide_eq_decide.mpr (denotes_congr haddresses m)

theorem perm_candidates_append {members members' extra : List String}
    (hperm : members'.Perm (members ++ extra)) (hextra : ∀ m ∈ extra, ¬ h.Denotes m) :
    (h.candidates members').Perm (h.candidates members) := by
  have hnone : h.candidates extra = [] :=
    List.filter_eq_nil_iff.mpr fun m hm => by simpa using hextra m hm
  have hfilter : (h.candidates members').Perm (h.candidates (members ++ extra)) := hperm.filter _
  have hsplit : h.candidates (members ++ extra) = h.candidates members := by
    rw [candidates, List.filter_append]
    exact (congrArg (h.candidates members ++ ·) hnone).trans (List.append_nil _)
  rwa [hsplit] at hfilter

end

end Host

/-! ## The local member of a node -/

section

variable {ω : Type} [Surroundings ω]

/-- Whether a node has a member of its own under an address, and no other member. -/
structure IsAloneAt (n : Node ω) (address : String) : Prop where
  localAddress : n.registry.localAddress = address
  addresses : n.registry.addresses = [address]
  member : ∃ id m, n.registry.get? address = some id ∧ n.members[id]? = some m
    ∧ m.address = address

theorem isAloneAt_of_build {host : Host} {memory : Memory} {channel : Membership.Channel}
    {prepare : String → ω} {n : Node ω} (h : build host memory channel prepare = .ok n) :
    ∃ m, host.resolve channel.current.members = .ok m ∧ n.IsAloneAt m := by
  rw [build_eq] at h
  split at h
  · cases h
  · rename_i m hresolve
    split at h
    · cases h
    · split at h
      · obtain rfl := Except.ok.inj h
        exact ⟨m, hresolve, rfl, rfl, 0, Member.new m, by simp [alone, Registry.new, Registry.get?],
          rfl, rfl⟩
      · cases h

end

/-- The local member is the one at the only position whose member denotes the host, and there is
none when no position or several do. The order of the members and of the addresses does not matter,
nor do repeated addresses and members that do not denote the host. A node that was built has
registered this member as its own. -/
theorem local_member_unique (h : Host) (members : List String) :
    (∀ m, h.resolve members = .ok m ↔ ∃ i, members[i]? = some m ∧ h.OnlyAt members i)
    ∧ ((∀ m ∈ members, ¬ h.Denotes m) → h.resolve members = .error (.localUnresolved
      (.noMatch members (h.addresses.map Ip.Address.text) h.port.toNat)))
    ∧ (∀ (i j : Nat) (x y : String), i < j → members[i]? = some x → members[j]? = some y →
      h.Denotes x → h.Denotes y →
      h.resolve members = .error (.localUnresolved (.ambiguous (h.candidates members))))
    ∧ (∀ members' addresses', members'.Perm members → (∀ a, a ∈ addresses' ↔ a ∈ h.addresses) →
      Host.SameOutcome (h.resolve members) ({ h with addresses := addresses' }.resolve members'))
    ∧ (∀ members' extra, members'.Perm (members ++ extra) → (∀ m ∈ extra, ¬ h.Denotes m) →
      Host.SameOutcome (h.resolve members) (h.resolve members'))
    ∧ (∀ m, h.Denotes m → 2 ≤ members.count m →
      ∃ r, h.resolve members = .error (.localUnresolved r))
    ∧ ∀ {ω : Type} [Surroundings ω] (memory : Memory) (channel : Membership.Channel)
        (prepare : String → ω) (n : Node ω), channel.current.members = members →
        build h memory channel prepare = .ok n →
        ∃ m, h.resolve members = .ok m ∧ n.IsAloneAt m := by
  refine ⟨fun m => Host.resolve_eq_ok_iff, Host.resolve_of_none, ?_, ?_, ?_, ?_, ?_⟩
  · intro i j x y hij hi hj hx hy
    exact Host.resolve_of_two_le (Host.two_le_of_positions hij hi hj hx hy)
  · intro members' addresses' hperm haddresses
    refine Host.sameOutcome_of_perm ?_
    rw [Host.candidates_congr haddresses]
    exact hperm.filter _
  · intro members' extra hperm hextra
    exact Host.sameOutcome_of_perm (Host.perm_candidates_append hperm hextra)
  · intro m hm htwice
    exact ⟨_, Host.resolve_of_two_le (Host.two_le_of_count hm htwice)⟩
  · rintro ω _ memory channel prepare n rfl hbuild
    exact isAloneAt_of_build hbuild

/-- A host with one interface. -/
def booth : Host := ⟨[.v4 0x0a000002], none, 3262⟩

/-- Its membership: one member is elsewhere, one has another port. -/
def boothMembers : List String := ["10.0.0.1:3262", "LocalHost:4000", "10.0.0.2:3262"]

def boothChannel : Membership.Channel :=
  .new { (default : Membership) with members := boothMembers }

def boothWorld (_ : String) : Rehearsal.World := .start .quiet .scripted []

/-- The member with the address of the interface is found in any order, beside members that are
elsewhere, and not when it is listed twice; the node that is built has it for its own. -/
theorem booth_found :
    booth.resolve boothMembers = .ok "10.0.0.2:3262"
    ∧ Host.SameOutcome (booth.resolve boothMembers)
      ({ booth with addresses := [.v4 0x0a000002, .v4 0x0a000002] }.resolve boothMembers.reverse)
    ∧ Host.SameOutcome (booth.resolve boothMembers) (booth.resolve ("[::1]:80" :: boothMembers))
    ∧ (∃ r, booth.resolve ("10.0.0.2:3262" :: boothMembers) = .error (.localUnresolved r))
    ∧ (∃ r, booth.resolve ["localhost:3262", "[::1]:3262"] = .error (.localUnresolved r))
    ∧ (∃ r, booth.resolve ["10.0.0.1:3262"] = .error (.localUnresolved r))
    ∧ ∃ n, build booth ⟨10, 10⟩ boothChannel boothWorld = .ok n ∧ n.IsAloneAt "10.0.0.2:3262" := by
  obtain ⟨hok, -, -, horder, hmore, -, hbuilt⟩ := local_member_unique booth boothMembers
  obtain ⟨-, -, -, -, -, htwice, -⟩ :=
    local_member_unique booth ("10.0.0.2:3262" :: boothMembers)
  obtain ⟨-, -, hmany, -⟩ := local_member_unique booth ["localhost:3262", "[::1]:3262"]
  obtain ⟨-, hnone, -⟩ := local_member_unique booth ["10.0.0.1:3262"]
  have hfound : booth.resolve boothMembers = .ok "10.0.0.2:3262" := by
    refine (hok _).mpr ⟨2, rfl, fun j x hx => ?_⟩
    match j, hx with
    | 0, hx | 1, hx | 2, hx =>
        obtain rfl := Option.some.inj hx
        decide +kernel
  have hbuild : ∃ n, build booth ⟨10, 10⟩ boothChannel boothWorld = .ok n :=
    build_of_findsLocal ⟨10, 10⟩ ⟨_, hfound, rfl⟩
  refine ⟨hfound, horder _ _ (List.reverse_perm _) (by simp [booth]), ?_, ?_, ?_, ?_, ?_⟩
  · refine hmore _ ["[::1]:80"] ?_ (by decide +kernel)
    exact (List.perm_append_singleton _ _).symm
  · exact htwice "10.0.0.2:3262" (by decide +kernel) (by decide +kernel)
  · exact ⟨_, hmany 0 1 _ _ (by decide) rfl rfl (by decide +kernel) (by decide +kernel)⟩
  · exact ⟨_, hnone (by decide +kernel)⟩
  · obtain ⟨n, hn⟩ := hbuild
    obtain ⟨m, hm, halone⟩ := hbuilt ⟨10, 10⟩ boothChannel boothWorld n rfl hn
    obtain rfl := Except.ok.inj (hm.symm.trans hfound)
    exact ⟨n, hn, halone⟩

end Node

end Conclave
