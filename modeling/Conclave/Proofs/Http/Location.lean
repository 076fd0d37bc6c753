import Conclave.Http.Service
import Conclave.Http.Transport
import Conclave.Proofs.Bytes
import Conclave.Proofs.Outcome
import Conclave.Rehearsal.World
import Conclave.Settings.Cluster
import Mathlib.Data.List.TakeWhile

/-!
# Where a member is called and where it serves

A member is called under a URL that is put together of its address and the protocol path as they
are, and it serves under the protocol path with a slash in front. `Located` takes a URL apart. The
two agree exactly when the path has that slash already and no query or fragment in it, and the
address ends before the path begins (`url_located_iff`); nothing checks either of them. When they
agree and the path is literal, every POST request to the URL comes to the endpoint
(`resource_of_located`).
-/

namespace Conclave.Http

open Node

/-! ## The parts of a URL -/

/-- Whether a URL consists of an authority and a path: the authority ends with the first slash,
question mark or number sign, the path begins with a slash, and there is neither query nor
fragment. -/
structure Located (url authority path : String) : Prop where
  url_eq : url = "http://" ++ authority ++ path
  authority_ends : '/' ∉ authority.toList ∧ '?' ∉ authority.toList ∧ '#' ∉ authority.toList
  path_begins : path.toList.head? = some '/'
  path_only : '?' ∉ path.toList ∧ '#' ∉ path.toList

/-- The path under which a protocol path is served. -/
def rooted (path : String) : String :=
  if path = "" ∨ path.toList.head? = some '/' then path else "/" ++ path

theorem new?_eq (path : String) (spillThreshold : Nat) :
    Service.new? path spillThreshold =
      (Route.read? (rooted path)).map fun route => ⟨path, route, spillThreshold⟩ := rfl

theorem rooted_eq_self {path : String} (h : path.toList.head? = some '/') : rooted path = path :=
  if_pos (.inr h)

theorem url_located_iff {p : Peer} :
    Located p.url p.address (rooted p.path) ↔
      ('/' ∉ p.address.toList ∧ '?' ∉ p.address.toList ∧ '#' ∉ p.address.toList)
        ∧ p.path.toList.head? = some '/' ∧ '?' ∉ p.path.toList ∧ '#' ∉ p.path.toList := by
  constructor
  · intro h
    have hpath : p.path = rooted p.path := (String.append_right_inj _).mp h.url_eq
    have hbegins := h.path_begins
    have honly := h.path_only
    rw [← hpath] at hbegins honly
    exact ⟨h.authority_ends, hbegins, honly⟩
  · rintro ⟨hends, hbegins, honly⟩
    rw [rooted_eq_self hbegins]
    exact ⟨rfl, hends, hbegins, honly⟩

/-! ## The target of a request -/

namespace Incoming

/-- Whether characters are the percent escapes of bytes. -/
inductive Escapes : List Char → Bytes → Prop where
  | nil : Escapes [] []
  | cons {a b : Char} {x y : Nat} {es : List Char} {bs : Bytes} (ha : Text.hexValue? a = some x)
      (hb : Text.hexValue? b = some y) (rest : Escapes es bs) :
      Escapes ('%' :: a :: b :: es) (UInt8.ofNat (16 * x + y) :: bs)

/-- Whether a target spells a path: each character as it is, or as the escapes of its bytes. -/
inductive Spells : List Char → List Char → Prop where
  | nil : Spells [] []
  | kept {c : Char} {ts cs : List Char} (hc : c ≠ '%' ∧ c ≠ '?' ∧ c ≠ '#') (rest : Spells ts cs) :
      Spells (c :: ts) (c :: cs)
  | escaped {c : Char} {es ts cs : List Char} (hc : c ≠ '/' ∧ c ≠ '+' ∧ c ≠ '%')
      (he : Escapes es (String.utf8EncodeChar c)) (rest : Spells ts cs) :
      Spells (es ++ ts) (c :: cs)

theorem spells_self {cs : List Char} (h : '%' ∉ cs ∧ '?' ∉ cs ∧ '#' ∉ cs) : Spells cs cs := by
  induction cs with
  | nil => exact .nil
  | cons c r ih =>
      simp only [List.mem_cons, not_or] at h
      obtain ⟨⟨hp, hpr⟩, ⟨hq, hqr⟩, ⟨hn, hnr⟩⟩ := h
      exact .kept ⟨Ne.symm hp, Ne.symm hq, Ne.symm hn⟩ (ih ⟨hpr, hqr, hnr⟩)

theorem decode_escapes {es : List Char} {bs : Bytes} (h : Escapes es bs)
    (hbs : ∀ b ∈ bs, b ∉ Bytes.ofText "/+%") (ts : List Char) :
    route.decode (es ++ ts) = bs ++ route.decode ts := by
  induction h with
  | nil => rfl
  | cons ha hb _ ih =>
      have hnot := hbs _ (List.mem_cons_self ..)
      have hrest := ih fun b hb => hbs b (List.mem_cons_of_mem _ hb)
      rw [← List.contains_iff_mem] at hnot
      rw [List.cons_append, List.cons_append, List.cons_append, route.decode]
      simp only [ha, hb]
      rw [if_neg hnot, hrest, List.cons_append]

theorem decode_kept {c : Char} (h : c ≠ '%') (ts : List Char) :
    route.decode (c :: ts) = String.utf8EncodeChar c ++ route.decode ts := by
  have hbytes : Bytes.ofText c.toString = String.utf8EncodeChar c := by
    rw [Bytes.ofText_eq, Char.toString, String.toList_singleton, Bytes.ofChars_cons,
      Bytes.ofChars_nil, List.append_nil]
  rw [← hbytes, route.decode]
  intro a b r hc
  exact absurd hc h

theorem not_reserved {c : Char} (h : c ≠ '/' ∧ c ≠ '+' ∧ c ≠ '%') {b : UInt8}
    (hb : b ∈ String.utf8EncodeChar c) : b ∉ Bytes.ofText "/+%" := by
  have hreserved : Bytes.ofText "/+%" = [47, 43, 37] := rfl
  rw [hreserved]
  by_cases hascii : c.toNat < 128
  · have hbyte : String.utf8EncodeChar c = [UInt8.ofNat c.toNat] := by
      simpa [Bytes.ofChars_cons] using Bytes.ofChars_cons_of_ascii hascii []
    rw [hbyte, List.mem_singleton] at hb
    have hvalue : b.toNat = c.toNat := by
      rw [hb, UInt8.toNat_ofNat_of_lt' (show c.toNat < 256 by omega)]
    have hchar : ∀ d : Char, c ≠ d → c.toNat ≠ d.toNat := fun d hd h' => hd (Char.toNat_inj.mp h')
    have hslash := hchar '/' h.1
    have hplus := hchar '+' h.2.1
    have hpercent := hchar '%' h.2.2
    simp only [List.mem_cons, List.not_mem_nil, or_false, ← UInt8.toNat_inj, hvalue]
    rintro (heq | heq | heq)
    · exact hslash heq
    · exact hplus heq
    · exact hpercent heq
  · have hle := Bytes.le_of_mem_utf8EncodeChar (Nat.not_lt.mp hascii) hb
    intro hmem
    simp only [List.mem_cons, List.not_mem_nil, or_false] at hmem
    rcases hmem with rfl | rfl | rfl <;> exact absurd hle (by decide)

theorem decode_spells {ts cs : List Char} (h : Spells ts cs) :
    route.decode ts = Bytes.ofChars cs := by
  induction h with
  | nil => simp [route.decode]
  | kept hc _ ih => rw [decode_kept hc.1, ih, Bytes.ofChars_cons]
  | escaped hc he _ ih =>
      rw [decode_escapes he (fun b hb => not_reserved hc hb), ih, Bytes.ofChars_cons]

theorem kept_of_spells {ts cs : List Char} (h : Spells ts cs) : '?' ∉ ts ∧ '#' ∉ ts := by
  induction h with
  | nil => simp
  | kept hc _ ih => simp [ih.1, ih.2, Ne.symm hc.2.1, Ne.symm hc.2.2]
  | escaped _ he _ ih =>
      have hes : ∀ {es : List Char} {bs : Bytes}, Escapes es bs → '?' ∉ es ∧ '#' ∉ es := by
        intro es bs he
        induction he with
        | nil => simp
        | @cons a b x y es bs ha hb _ ih =>
            have hdigit : ∀ {d : Char} {n : Nat}, Text.hexValue? d = some n →
                '?' ≠ d ∧ '#' ≠ d := by
              intro d n hd
              constructor
              · rintro rfl
                simp [Text.hexValue?] at hd
              · rintro rfl
                simp [Text.hexValue?] at hd
            simp [ih.1, ih.2, hdigit ha, hdigit hb]
      simp [ih.1, ih.2, hes he]

theorem head?_of_spells {ts cs : List Char} (h : Spells ts cs) (hslash : cs.head? = some '/') :
    ts.head? = some '/' := by
  cases h with
  | nil => cases hslash
  | kept _ _ => exact hslash
  | escaped hc _ _ => exact absurd (Option.some.inj hslash) hc.1

/-- A target that spells a path is matched as that path. -/
theorem route_of_spells {r : Incoming} {path : String} (hslash : path.toList.head? = some '/')
    (h : Spells r.path.toList path.toList) : r.route = path := by
  have hall : r.path.toList.takeWhile (fun c => c ≠ '?' && c ≠ '#') = r.path.toList := by
    obtain ⟨hquery, hfragment⟩ := kept_of_spells h
    rw [List.takeWhile_eq_self_iff]
    intro c hc
    simp [ne_of_mem_of_not_mem hc hquery, ne_of_mem_of_not_mem hc hfragment]
  rw [route, if_pos (head?_of_spells h hslash), hall, decode_spells h, Bytes.repaired_ofChars,
    String.ofList_toList]

end Incoming

/-! ## The endpoint at the path -/

/-- Whether a protocol path stands for itself: it is no pattern, and no percent escape in it is
undone before it is compared. -/
def IsLiteral (path : String) : Prop :=
  '%' ∉ path.toList ∧ '\x7b' ∉ path.toList ∧ path.toList.getLast? ≠ some '*'

theorem IsLiteral.read? {path : String} (h : IsLiteral path) :
    Route.read? (rooted path) = some (.exact (rooted path)) := by
  have hrooted : '\x7b' ∉ (rooted path).toList ∧ (rooted path).toList.getLast? ≠ some '*' := by
    unfold rooted
    split
    · exact h.2
    · rename_i hne
      have hlist : ("/" ++ path).toList = '/' :: path.toList := by simp
      rw [hlist]
      refine ⟨by simp [h.2.1], ?_⟩
      cases hpath : path.toList with
      | nil => simp
      | cons c r =>
          rw [List.getLast?_cons_cons, ← hpath]
          exact h.2.2
  rw [Route.read?]
  exact if_pos hrooted

theorem IsLiteral.new? {path : String} (h : IsLiteral path) (spillThreshold : Nat) :
    Service.new? path spillThreshold = some ⟨path, .exact (rooted path), spillThreshold⟩ := by
  rw [new?_eq, h.read?]
  rfl

variable {ω : Type} [Surroundings ω]

theorem resource_of_located {p : Peer} (h : Located p.url p.address (rooted p.path))
    {s : Service} (hroute : s.route = .exact (rooted p.path)) (n : Node ω) {r : Incoming}
    (hpost : r.method = "POST") (hspells : Incoming.Spells r.path.toList p.path.toList) :
    s.resource n r = s.consensus n r := by
  have hbegins := (url_located_iff.mp h).2.1
  have hadmits : s.route.admits r.route = true := by
    rw [hroute, Incoming.route_of_spells hbegins hspells, rooted_eq_self hbegins, Route.admits,
      beq_self_eq_true]
  rw [Service.resource, hadmits, if_neg (by decide), if_neg (by simp [hpost])]

/-- The URL under which a member is called consists of its address and the path under which it
serves exactly when the address ends before the path begins and the protocol path begins with a
slash and is nothing but a path. A literal protocol path is served as it is, with that slash, and
then every POST request to the URL comes to the endpoint. -/
theorem url_agrees_with_route (p : Peer) (spillThreshold : Nat) :
    (Located p.url p.address (rooted p.path) ↔
      ('/' ∉ p.address.toList ∧ '?' ∉ p.address.toList ∧ '#' ∉ p.address.toList)
        ∧ p.path.toList.head? = some '/' ∧ '?' ∉ p.path.toList ∧ '#' ∉ p.path.toList)
    ∧ (IsLiteral p.path → ∃ s, Service.new? p.path spillThreshold = some s
      ∧ s.route = .exact (rooted p.path)
      ∧ (Located p.url p.address (rooted p.path) →
        ∀ (n : Node ω) (r : Incoming), r.method = "POST" →
          Incoming.Spells r.path.toList p.path.toList → s.resource n r = s.consensus n r)) := by
  refine ⟨url_located_iff, fun hliteral => ⟨_, hliteral.new? spillThreshold, rfl, ?_⟩⟩
  intro hlocated n r hpost hspells
  exact resource_of_located hlocated rfl n hpost hspells

/-! ## A member and its protocol path -/

/-- A member that is called under a protocol path. -/
def callee (address path : String) : Peer := ⟨address, path, "10.0.0.1:3262", 1024⟩

def postedTo (target : String) : Incoming := ⟨"POST", target, none, [], []⟩

/-- With a slash in front of the path the request arrives, though a blank is escaped on its way. -/
theorem rooted_arrives :
    Located (callee "10.0.0.2:3262" "/raft x").url "10.0.0.2:3262" "/raft x"
    ∧ ∃ s, Service.new? "/raft x" 1024 = some s
      ∧ ∀ n : Node Rehearsal.World,
        s.resource n (postedTo "/raft%20x") = s.consensus n (postedTo "/raft%20x") := by
  have hspells : Incoming.Spells "/raft%20x".toList "/raft x".toList := by
    have htarget : "/raft%20x".toList =
        ['/', 'r', 'a', 'f', 't'] ++ (['%', '2', '0'] ++ ['x']) := rfl
    have hpath : "/raft x".toList = ['/', 'r', 'a', 'f', 't'] ++ [' ', 'x'] := rfl
    have hblank : Incoming.Escapes ['%', '2', '0'] (String.utf8EncodeChar ' ') :=
      .cons (x := 2) (y := 0) rfl rfl .nil
    have hrest : Incoming.Spells (['%', '2', '0'] ++ ['x']) [' ', 'x'] :=
      .escaped (by decide) hblank (Incoming.spells_self (by decide))
    rw [htarget, hpath]
    exact .kept (by decide) (.kept (by decide) (.kept (by decide) (.kept (by decide)
      (.kept (by decide) hrest))))
  obtain ⟨hurl, hserved⟩ :=
    url_agrees_with_route (ω := Rehearsal.World) (callee "10.0.0.2:3262" "/raft x") 1024
  have hlocated := hurl.mpr (by decide)
  obtain ⟨s, hs, -, harrives⟩ := hserved (by unfold IsLiteral; decide)
  exact ⟨hlocated, s, hs, fun n => harrives hlocated n (postedTo "/raft%20x") rfl hspells⟩

/-- Settings with a protocol path that has no slash in front. -/
def slashless : Settings := Settings.empty.set (Settings.clusterPath "protocol-path") (.text "raft")

/-- The protocol path is taken for a part of the port. -/
theorem slashless_no_locator : isLocator "10.0.0.2:3262raft" = false := by
  unfold isLocator
  extract_lets
  split
  rename_i host port hsplit
  have hport : port = "3262raft".toList :=
    (congrArg Prod.snd hsplit).symm.trans (by decide +kernel)
  rw [hport, Bool.and_eq_false_iff]
  exact .inr (by decide +kernel)

/-- Without a slash in front no call to an accepted address can even be written, though the path is
served with a slash. A slash within an accepted address ends the authority too early. -/
theorem slashless_never_arrives :
    accept "10.0.0.2:3262" = .ok () ∧ slashless.protocolPath = "raft"
    ∧ ¬ Located (callee "10.0.0.2:3262" "raft").url "10.0.0.2:3262" (rooted "raft")
    ∧ Service.new? "raft" 1024 = some ⟨"raft", .exact "/raft", 1024⟩
    ∧ (∀ o, (callee "10.0.0.2:3262" "raft").encode o = .error (.malformed .unbuildable))
    ∧ accept "10.0.0.2/x:3262" = .ok ()
    ∧ ¬ Located (callee "10.0.0.2/x:3262" "/raft").url "10.0.0.2/x:3262" (rooted "/raft") := by
  refine ⟨eq_ok_of_toOption (by decide +kernel), by decide +kernel, ?_, ?_, fun o => ?_,
    eq_ok_of_toOption (by decide +kernel), ?_⟩
  · intro h
    exact absurd (url_located_iff.mp h).2.1 (by decide)
  · exact IsLiteral.new? (by unfold IsLiteral; decide) 1024
  · have hunwritable : (callee "10.0.0.2:3262" "raft").isWritable o = false := by
      show (isLocator "10.0.0.2:3262raft" && _) = false
      rw [slashless_no_locator, Bool.false_and]
    rw [Peer.encode, hunwritable]
    rfl
  · intro h
    exact absurd (url_located_iff.mp h).1.1 (by decide)

end Conclave.Http
