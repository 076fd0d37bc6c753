import Conclave.Proofs.Ip.Written

/-!
# The spelling of addresses

`Spells` is the grammar of addresses. An IPv4 address has one spelling, and an IPv6 address has
many: with small or capital digits, with zeros in front of a group, with a run of zero groups left
out or not, with the last two groups as an IPv4 address or not.

A text is read as an address exactly when it spells the address (`Address.read?_eq_some_iff`). The
reader takes the longest front that it can use at every place, so the lemmas on parts of an address
say what may stand behind them. `Names` is the grammar of networks.
-/

namespace Conclave.Ip

open Text (IsDigit Leaves)

/-! ## The grammar -/

/-- Four decimal numbers without zeros in front, with points between them. -/
inductive Dotted : List Char → BitVec 32 → Prop where
  | mk {a b c d : Nat} (ha : a < 256) (hb : b < 256) (hc : c < 256) (hd : d < 256) :
      Dotted (Nat.toDigits 10 a ++ '.' :: (Nat.toDigits 10 b ++ '.' :: (Nat.toDigits 10 c
        ++ '.' :: Nat.toDigits 10 d))) (BitVec.ofNat 32 (((a * 256 + b) * 256 + c) * 256 + d))

/-- One to four hexadecimal digits. -/
structure IsGroup (cs : List Char) (g : BitVec 16) : Prop where
  ne_nil : cs ≠ []
  length_le : cs.length ≤ 4
  digits : ∃ ds, List.Forall₂ (fun c d => Text.hexValue? c = some d) cs ds
    ∧ g = BitVec.ofNat 16 (ds.foldl (fun n d => 16 * n + d) 0)

/-- Groups with colons between them. The last two may be an IPv4 address, which the mark tells. -/
inductive Listed : Bool → List Char → List (BitVec 16) → Prop where
  | group {w : List Char} {g : BitVec 16} (hg : IsGroup w g) : Listed false w [g]
  | dotted {w : List Char} {b : BitVec 32} (hb : Dotted w b) :
      Listed true w [(b >>> 16).truncate 16, b.truncate 16]
  | cons {mark : Bool} {w r : List Char} {g : BitVec 16} {gs : List (BitVec 16)}
      (hg : IsGroup w g) (hr : Listed mark r gs) : Listed mark (w ++ ':' :: r) (g :: gs)

/-- What stands on one side of two colons: groups, or nothing. -/
inductive Side : Bool → List Char → List (BitVec 16) → Prop where
  | empty : Side false [] []
  | listed {mark : Bool} {w : List Char} {gs : List (BitVec 16)} (h : Listed mark w gs) :
      Side mark w gs

/-- Eight groups, or fewer with two colons in the place of the zero groups that are left out. An
IPv4 address can only be at the end. -/
inductive SpellsV6 : List Char → BitVec 128 → Prop where
  | full {mark : Bool} {cs : List Char} {gs : List (BitVec 16)} (h : Listed mark cs gs)
      (hlen : gs.length = 8) : SpellsV6 cs (ofGroups gs)
  | short {mark : Bool} {front back : List Char} {head tail : List (BitVec 16)}
      (hhead : Side false front head) (htail : Side mark back tail)
      (hlen : head.length + tail.length < 8) :
      SpellsV6 (front ++ ':' :: ':' :: back)
        (ofGroups (head ++ List.replicate (8 - head.length - tail.length) 0 ++ tail))

/-- Whether a text spells an address. -/
inductive Spells : List Char → Address → Prop where
  | v4 {cs : List Char} {b : BitVec 32} (h : Dotted cs b) : Spells cs (.v4 b)
  | v6 {cs : List Char} {b : BitVec 128} (h : SpellsV6 cs b) : Spells cs (.v6 b)

/-! ## Octets -/

theorem isDigit_toDigits (n : Nat) :
    ∀ c ∈ Nat.toDigits 10 n, (fun c => (Text.digit? c).isSome) c = true :=
  fun _ hc => Text.isDigit_of_mem_toDigits hc

theorem readOctet_toDigits {n : Nat} (hn : n < 256) {rest : List Char}
    (h : Leaves (Text.digit? · |>.isSome) rest) :
    readOctet (Nat.toDigits 10 n ++ rest) = some (n, rest) := by
  have hfront := Text.takeWhile_append_of_leaves (isDigit_toDigits n) h
  have hlen : ¬ 3 < (Nat.toDigits 10 n).length := by
    rw [Nat.not_lt, Nat.length_toDigits_le_iff (by decide) (by decide)]
    omega
  have hzero : ¬ ((Nat.toDigits 10 n).head? = some '0' ∧ (Nat.toDigits 10 n).length ≠ 1) := by
    rintro ⟨hhead, hlong⟩
    rcases Nat.eq_zero_or_pos n with rfl | hpos
    · exact hlong rfl
    · exact Text.head?_toDigits_ne_zero hpos hhead
  rw [readOctet, hfront, Text.digitsFrom_toDigits, Option.getD_some, List.drop_left, if_neg]
  rintro (hnil | hlong | hfirst | hlarge)
  · exact Nat.toDigits_ne_nil hnil
  · exact hlen hlong
  · exact hzero hfirst
  · omega

theorem eq_append_of_readOctet {cs rest : List Char} {n : Nat}
    (h : readOctet cs = some (n, rest)) : n < 256 ∧ cs = Nat.toDigits 10 n ++ rest := by
  obtain ⟨w, r, rfl, hw, hr⟩ := Text.exists_front (Text.digit? · |>.isSome) cs
  rw [readOctet, Text.takeWhile_append_of_leaves hw hr, List.drop_left] at h
  obtain ⟨m, hm⟩ := Text.exists_digitsFrom hw 0
  rw [hm, Option.getD_some] at h
  split at h
  · cases h
  · rename_i hvalid
    simp only [not_or, not_and_or, not_not] at hvalid
    obtain ⟨hne, -, hzero, hlt⟩ := hvalid
    obtain ⟨rfl, rfl⟩ : m = n ∧ r = rest := by simpa using h
    refine ⟨Nat.not_le.mp hlt, ?_⟩
    rw [← Text.eq_toDigits_of_digitsFrom hne (fun hfirst => ?_) hm]
    exact hzero.resolve_left (not_not.mpr hfirst)

theorem readNextOctet_eq_some_iff {cs : List Char} {x : Nat × List Char} :
    readNextOctet cs = some x ↔ ∃ r, cs = '.' :: r ∧ readOctet r = some x := by
  unfold readNextOctet
  split
  · simp
  · rename_i hcs
    constructor
    · intro h
      cases h
    · rintro ⟨r, hr, -⟩
      exact (hcs r hr).elim

/-! ## IPv4 -/

theorem leaves_point (r : List Char) : Leaves (Text.digit? · |>.isSome) ('.' :: r) :=
  Leaves.cons (by decide) r

theorem readV4_append {w rest : List Char} {b : BitVec 32} (hw : Dotted w b)
    (h : Leaves (Text.digit? · |>.isSome) rest) : readV4 (w ++ rest) = some (b, rest) := by
  obtain ⟨ha, hb, hc, hd⟩ := hw
  simp only [readV4, List.append_assoc, List.cons_append, readNextOctet,
    readOctet_toDigits ha (leaves_point _), readOctet_toDigits hb (leaves_point _),
    readOctet_toDigits hc (leaves_point _), readOctet_toDigits hd h, Option.bind_eq_bind,
    Option.bind_some]
  rfl

theorem dotted_of_readV4 {cs rest : List Char} {b : BitVec 32}
    (h : readV4 cs = some (b, rest)) : ∃ w, Dotted w b ∧ cs = w ++ rest := by
  simp only [readV4, Option.bind_eq_bind, Option.bind_eq_some_iff, Prod.exists,
    readNextOctet_eq_some_iff] at h
  obtain ⟨a, r₁, ha, b, r₂, ⟨r₁', rfl, hb⟩, c, r₃, ⟨r₂', rfl, hc⟩, d, r₄, ⟨r₃', rfl, hd⟩, h⟩ := h
  obtain ⟨halt, rfl⟩ := eq_append_of_readOctet ha
  obtain ⟨hblt, rfl⟩ := eq_append_of_readOctet hb
  obtain ⟨hclt, rfl⟩ := eq_append_of_readOctet hc
  obtain ⟨hdlt, rfl⟩ := eq_append_of_readOctet hd
  obtain ⟨rfl, rfl⟩ := Prod.mk.inj (Option.some.inj h)
  exact ⟨_, .mk halt hblt hclt hdlt, by simp⟩

theorem Dotted.exists_front {w : List Char} {b : BitVec 32} (h : Dotted w b) :
    ∃ ds r, w = ds ++ '.' :: r ∧ ds ≠ [] ∧ ∀ c ∈ ds, IsDigit c := by
  obtain ⟨-, -, -, -⟩ := h
  exact ⟨_, _, rfl, Nat.toDigits_ne_nil, fun _ hc => Text.isDigit_of_mem_toDigits hc⟩

/-! ## Groups -/

/-- Whether a character is a hexadecimal digit. -/
def IsHex (c : Char) : Prop := (Text.hexValue? c).isSome = true

theorem isHex_of_forall₂ {cs : List Char} {ds : List Nat}
    (h : List.Forall₂ (fun c d => Text.hexValue? c = some d) cs ds) : ∀ c ∈ cs, IsHex c := by
  induction h with
  | nil => exact fun _ hc => nomatch hc
  | cons hd _ ih =>
      intro x hx
      cases List.mem_cons.mp hx with
      | inl hfirst => rw [hfirst, IsHex, hd]; rfl
      | inr hmem => exact ih x hmem

theorem IsGroup.isHex {w : List Char} {g : BitVec 16} (h : IsGroup w g) : ∀ c ∈ w, IsHex c := by
  obtain ⟨ds, hds, -⟩ := h.digits
  exact isHex_of_forall₂ hds

theorem hexFrom_eq {cs : List Char} {ds : List Nat}
    (h : List.Forall₂ (fun c d => Text.hexValue? c = some d) cs ds) (n : Nat) :
    hexFrom n cs = ds.foldl (fun n d => 16 * n + d) n := by
  induction h generalizing n with
  | nil => rfl
  | cons hd _ ih =>
      rw [hexFrom, List.foldl_cons, hd, Option.getD_some]
      exact ih _

theorem exists_hexDigits {cs : List Char} (h : ∀ c ∈ cs, IsHex c) :
    ∃ ds, List.Forall₂ (fun c d => Text.hexValue? c = some d) cs ds := by
  induction cs with
  | nil => exact ⟨[], .nil⟩
  | cons c r ih =>
      obtain ⟨d, hd⟩ := Option.isSome_iff_exists.mp (h c (List.mem_cons_self ..))
      obtain ⟨ds, hds⟩ := ih fun x hx => h x (List.mem_cons_of_mem _ hx)
      exact ⟨d :: ds, .cons hd hds⟩

theorem readGroup_append {w rest : List Char} {g : BitVec 16} (hw : IsGroup w g)
    (h : Leaves (Text.hexValue? · |>.isSome) rest) : readGroup (w ++ rest) = some (g, rest) := by
  have hfront := Text.takeWhile_append_of_leaves hw.isHex h
  obtain ⟨ds, hds, rfl⟩ := hw.digits
  rw [readGroup, hfront, List.drop_left, hexFrom_eq hds, if_neg]
  rintro (hnil | hlong)
  · exact hw.ne_nil hnil
  · exact Nat.not_lt.mpr hw.length_le hlong

theorem isGroup_of_readGroup {cs rest : List Char} {g : BitVec 16}
    (h : readGroup cs = some (g, rest)) : ∃ w, IsGroup w g ∧ cs = w ++ rest := by
  obtain ⟨w, r, rfl, hw, hr⟩ := Text.exists_front (Text.hexValue? · |>.isSome) cs
  rw [readGroup, Text.takeWhile_append_of_leaves hw hr, List.drop_left] at h
  obtain ⟨ds, hds⟩ := exists_hexDigits hw
  split at h
  · cases h
  · rename_i hvalid
    obtain ⟨hne, hlen⟩ := not_or.mp hvalid
    obtain ⟨rfl, rfl⟩ := Prod.mk.inj (Option.some.inj h)
    exact ⟨w, ⟨hne, Nat.not_lt.mp hlen, ds, hds, by rw [hexFrom_eq hds]⟩, rfl⟩

/-! ## Where a list of groups ends -/

/-- Whether a text is empty or begins with a colon. -/
def Bounded (rest : List Char) : Prop := ∀ c, rest.head? = some c → c = ':'

theorem bounded_nil : Bounded [] := fun _ h => nomatch h

theorem bounded_colon (r : List Char) : Bounded (':' :: r) :=
  fun _ h => (Option.some.inj h).symm

theorem Bounded.leaves {rest : List Char} (h : Bounded rest) :
    Leaves (Text.hexValue? · |>.isSome) rest := by
  intro c hc
  rw [h c hc]
  decide

/-- No IPv4 address stands where hexadecimal digits are followed by a colon, or by nothing. -/
theorem readV4_eq_none {w rest : List Char} (hw : ∀ c ∈ w, IsHex c) (h : Bounded rest) :
    readV4 (w ++ rest) = none := by
  rw [Option.eq_none_iff_forall_ne_some]
  rintro ⟨b, t⟩ hread
  obtain ⟨v, hv, heq⟩ := dotted_of_readV4 hread
  obtain ⟨ds, r, rfl, -, hds⟩ := hv.exists_front
  rw [List.append_assoc, List.cons_append] at heq
  -- behind the digits at the front stands `rest`, and a point as well
  have hrest : rest = '.' :: (r ++ t) := by
    rw [← Text.dropWhile_append_of_leaves hw h.leaves, heq]
    refine Text.dropWhile_append_of_leaves (fun c hc => (hds c hc).isHex) ?_
    exact Leaves.cons (by decide) _
  have hpoint := h '.' (by rw [hrest]; rfl)
  revert hpoint
  decide

/-- Whether no more groups can follow: the text ends here, or two colons stand here. -/
def Stops (rest : List Char) : Prop := rest = [] ∨ ∃ r, rest = ':' :: ':' :: r

theorem Stops.bounded {rest : List Char} (h : Stops rest) : Bounded rest := by
  obtain rfl | ⟨r, rfl⟩ := h
  · exact bounded_nil
  · exact bounded_colon _

theorem readGroup_eq_none {rest : List Char} (h : Bounded rest) : readGroup rest = none := by
  have hfront := Text.takeWhile_append_of_leaves (w := []) (fun _ hc => nomatch hc) h.leaves
  rw [List.nil_append] at hfront
  rw [readGroup, hfront, if_pos (.inl rfl)]

/-- A part of a list of groups: behind the first one, a colon stands before it. -/
def lead (first : Bool) (w : List Char) : List Char := if first then w else ':' :: w

theorem separated_lead {α : Type} (first : Bool) (read : List Char → Option (α × List Char))
    (w : List Char) : separated first read (lead first w) = read w := by
  cases first <;> rfl

theorem exists_lead {α : Type} {first : Bool} {read : List Char → Option (α × List Char)}
    {cs : List Char} {x : α × List Char} (h : separated first read cs = some x) :
    ∃ w, cs = lead first w ∧ read w = some x := by
  cases first with
  | true => exact ⟨cs, rfl, h⟩
  | false =>
      unfold separated at h
      split at h
      · contradiction
      · split at h
        · exact ⟨_, rfl, h⟩
        · cases h

theorem separated_stops {α : Type} {read : List Char → Option (α × List Char)}
    (hread : ∀ r, Bounded r → read r = none) (first : Bool) {rest : List Char} (h : Stops rest) :
    separated first read rest = none := by
  cases first with
  | true => exact hread rest h.bounded
  | false =>
      obtain rfl | ⟨r, rfl⟩ := h
      · rfl
      · exact hread _ (bounded_colon r)

theorem readGroups_stops (first : Bool) (room : Nat) {rest : List Char} (h : Stops rest) :
    readGroups first room rest = ⟨[], false, rest⟩ := by
  have hv4 : ∀ r, Bounded r → readV4 r = none :=
    fun r hr => readV4_eq_none (w := []) (fun _ hc => nomatch hc) hr
  cases room with
  | zero => rfl
  | succ room =>
      rw [readGroups, separated_stops hv4 first h,
        separated_stops (fun _ hr => readGroup_eq_none hr) first h, ite_self]

/-! ## Lists of groups -/

/-- A list of groups is read as far as it goes. Behind an IPv4 address the text has to end. -/
theorem readGroups_listed {mark : Bool} {w : List Char} {gs : List (BitVec 16)}
    (h : Listed mark w gs) (first : Bool) {room : Nat} (hroom : gs.length ≤ room)
    {rest : List Char} (hrest : Stops rest) (hmark : mark = true → rest = []) :
    readGroups first room (lead first (w ++ rest)) = ⟨gs, mark, rest⟩ := by
  induction h generalizing first room with
  | group hg =>
      obtain ⟨more, rfl⟩ : ∃ more, room = more + 1 := Nat.exists_eq_add_of_le' hroom
      rw [readGroups, separated_lead, separated_lead, readV4_eq_none hg.isHex hrest.bounded,
        ite_self, readGroup_append hg hrest.bounded.leaves]
      simp only [readGroups_stops false _ hrest]
  | dotted hb =>
      obtain rfl := hmark rfl
      obtain ⟨more, rfl⟩ : ∃ more, room = more + 1 + 1 := Nat.exists_eq_add_of_le' hroom
      rw [readGroups, separated_lead, if_pos (Nat.succ_pos _), readV4_append hb (Leaves.nil _)]
  | @cons mark w r g gs hg hr ih =>
      obtain ⟨more, rfl⟩ : ∃ more, room = more + 1 :=
        Nat.exists_eq_add_of_le' (Nat.lt_of_lt_of_le (Nat.succ_pos gs.length) hroom)
      have hrest' : readGroups false more (':' :: (r ++ rest)) = ⟨gs, mark, rest⟩ :=
        ih false (Nat.le_of_succ_le_succ hroom) hmark
      rw [List.append_assoc, List.cons_append, readGroups, separated_lead, separated_lead,
        readV4_eq_none hg.isHex (bounded_colon _), ite_self,
        readGroup_append hg (bounded_colon _).leaves]
      simp only [hrest']

/-- What is read as groups is a list of groups, unless there is nothing to read. -/
theorem listed_of_readGroups (first : Bool) (room : Nat) (cs : List Char) :
    readGroups first room cs = ⟨[], false, cs⟩
      ∨ ∃ mark w gs rest, readGroups first room cs = ⟨gs, mark, rest⟩ ∧ Listed mark w gs
          ∧ gs.length ≤ room ∧ cs = lead first (w ++ rest) := by
  induction room generalizing first cs with
  | zero => exact .inl rfl
  | succ room ih =>
      rw [readGroups]
      split
      · rename_i b rest hread
        split at hread
        · rename_i hroom
          obtain ⟨r, rfl, hr⟩ := exists_lead hread
          obtain ⟨w, hw, rfl⟩ := dotted_of_readV4 hr
          exact .inr ⟨true, w, _, rest, rfl, .dotted hw, Nat.succ_le_succ hroom, rfl⟩
        · cases hread
      · split
        · rename_i g rest hread
          obtain ⟨r, rfl, hr⟩ := exists_lead hread
          obtain ⟨w, hw, rfl⟩ := isGroup_of_readGroup hr
          refine .inr ?_
          obtain hend | ⟨mark, v, gs, rest', hmore, hv, hlen, rfl⟩ := ih false rest
          · exact ⟨false, w, [g], rest, by rw [hend], .group hw, Nat.succ_pos _, rfl⟩
          · refine ⟨mark, w ++ ':' :: v, g :: gs, rest', by rw [hmore], .cons hw hv,
              Nat.succ_le_succ hlen, ?_⟩
            rw [List.append_assoc]
            rfl
        · exact .inl rfl

theorem readGroups_side {mark : Bool} {w : List Char} {gs : List (BitVec 16)} (h : Side mark w gs)
    {room : Nat} (hroom : gs.length ≤ room) {rest : List Char} (hrest : Stops rest)
    (hmark : mark = true → rest = []) :
    readGroups true room (w ++ rest) = ⟨gs, mark, rest⟩ := by
  cases h with
  | empty => exact readGroups_stops true room hrest
  | listed h => exact readGroups_listed h true hroom hrest hmark

theorem side_of_readGroups (room : Nat) (cs : List Char) :
    ∃ mark w gs rest, readGroups true room cs = ⟨gs, mark, rest⟩ ∧ Side mark w gs
      ∧ gs.length ≤ room ∧ cs = w ++ rest := by
  obtain hnone | ⟨mark, w, gs, rest, hread, hw, hlen, hcs⟩ := listed_of_readGroups true room cs
  · exact ⟨false, [], [], cs, hnone, .empty, Nat.zero_le _, rfl⟩
  · exact ⟨mark, w, gs, rest, hread, .listed hw, hlen, hcs⟩

/-! ## IPv6 -/

theorem readV6_of_spells {cs : List Char} {b : BitVec 128} (h : SpellsV6 cs b) :
    readV6 cs = some (b, []) := by
  cases h with
  | @full mark _ gs hlisted hlen =>
      have hread := readGroups_listed hlisted true (Nat.le_of_eq hlen) (.inl rfl) fun _ => rfl
      rw [List.append_nil] at hread
      simp only [lead, if_true] at hread
      simp only [readV6, hread, hlen, if_true]
  | @short mark front back head tail hhead htail hlen =>
      have hfront : readGroups true 8 (front ++ ':' :: ':' :: back)
          = ⟨head, false, ':' :: ':' :: back⟩ :=
        readGroups_side hhead (by omega) (.inr ⟨back, rfl⟩) fun h => nomatch h
      have hback : readGroups true (8 - (head.length + 1)) (back ++ []) = ⟨tail, mark, []⟩ :=
        readGroups_side htail (by omega) (.inl rfl) fun _ => rfl
      rw [List.append_nil] at hback
      have hfew : ¬ head.length = 8 := by omega
      simp only [readV6, hfront, hback, hfew, if_false, Bool.false_eq_true]

theorem spells_of_readV6 {cs : List Char} {b : BitVec 128} (h : readV6 cs = some (b, [])) :
    SpellsV6 cs b := by
  obtain ⟨mark, front, head, rest, hfront, hhead, hlen, rfl⟩ := side_of_readGroups 8 cs
  simp only [readV6, hfront] at h
  split at h
  · rename_i height
    obtain ⟨rfl, rfl⟩ := Prod.mk.inj (Option.some.inj h)
    cases hhead with
    | empty => cases height
    | listed hlisted =>
        rw [List.append_nil]
        exact .full hlisted height
  · rename_i hfew
    split at h
    · cases h
    · rename_i hmark
      obtain rfl := Bool.eq_false_iff.mpr hmark
      split at h
      · rename_i back
        obtain ⟨mark', w, tail, rest', hback, htail, hlen', rfl⟩ :=
          side_of_readGroups (8 - (head.length + 1)) back
        simp only [hback] at h
        obtain ⟨rfl, rfl⟩ := Prod.mk.inj (Option.some.inj h)
        rw [List.append_nil]
        exact .short hhead htail (by omega)
      · cases h

/-- An IPv6 address begins with hexadecimal digits, or with nothing, and a colon. -/
theorem SpellsV6.exists_front {cs : List Char} {b : BitVec 128} (h : SpellsV6 cs b) :
    ∃ w rest, cs = w ++ rest ∧ (∀ c ∈ w, IsHex c) ∧ Bounded rest := by
  cases h with
  | full hlisted hlen =>
      cases hlisted with
      | group | dotted => cases hlen
      | cons hg hr => exact ⟨_, _, rfl, hg.isHex, bounded_colon _⟩
  | short hhead htail hlen =>
      cases hhead with
      | empty => exact ⟨[], _, rfl, (fun _ hc => nomatch hc), bounded_colon _⟩
      | listed hlisted =>
          cases hlisted with
          | group hg => exact ⟨_, _, rfl, hg.isHex, bounded_colon _⟩
          | cons hg hr =>
              exact ⟨_, _, by rw [List.append_assoc]; rfl, hg.isHex, bounded_colon _⟩

/-! ## Addresses -/

/-- A text is read as an address exactly when it spells the address. -/
theorem Address.read?_eq_some_iff {s : String} {a : Address} :
    Address.read? s = some a ↔ Spells s.toList a := by
  constructor
  · intro h
    simp only [Address.read?] at h
    split at h
    · rename_i found a' hfound
      obtain rfl := Option.some.inj h
      split at hfound
      · rename_i b rest hread
        obtain ⟨rfl, rfl⟩ := Prod.mk.inj (Option.some.inj hfound)
        obtain ⟨w, hw, heq⟩ := dotted_of_readV4 hread
        rw [heq, List.append_nil]
        exact .v4 hw
      · obtain ⟨⟨b, rest⟩, hread, heq⟩ := Option.map_eq_some_iff.mp hfound
        obtain ⟨rfl, rfl⟩ := Prod.mk.inj heq
        exact .v6 (spells_of_readV6 hread)
    · cases h
  · intro h
    simp only [Address.read?]
    cases h with
    | v4 hw =>
        have hread := readV4_append hw (Leaves.nil _)
        rw [List.append_nil] at hread
        rw [hread]
    | v6 hw =>
        obtain ⟨w, rest, hcs, hhex, hrest⟩ := hw.exists_front
        have hnone := readV4_eq_none hhex hrest
        rw [← hcs] at hnone
        rw [hnone, readV6_of_spells hw]
        rfl

/-! ## Networks -/

/-- Whether a text without blanks around it names the addresses that begin with the same `k` bits as
`a`: it spells `a`, alone or with a slash and the number `k` behind it. -/
inductive Names : List Char → Address → Nat → Prop where
  | alone {cs : List Char} {a : Address} (h : Spells cs a) : Names cs a a.width
  | counted {front back : List Char} {a : Address} {k : Nat} (h : Spells front a)
      (hk : Text.Numeral back k) (hle : k ≤ a.width) : Names (front ++ '/' :: back) a k

theorem IsHex.range {c : Char} (h : IsHex c) : 48 ≤ c.toNat ∧ c.toNat ≤ 57
    ∨ 97 ≤ c.toNat ∧ c.toNat ≤ 102 ∨ 65 ≤ c.toNat ∧ c.toNat ≤ 70 := by
  unfold IsHex Text.hexValue? at h
  split at h
  · rename_i hc
    exact .inl hc
  · split at h
    · rename_i hc
      exact .inr (.inl hc)
    · split at h
      · rename_i hc
        exact .inr (.inr hc)
      · cases h

/-- The characters of addresses are hexadecimal digits, points and colons. -/
def IsAddressChar (c : Char) : Prop := IsHex c ∨ c = '.' ∨ c = ':'

theorem IsAddressChar.not_isBlank {c : Char} (h : IsAddressChar c) : Text.isBlank c = false := by
  rcases h with hhex | rfl | rfl
  · have hrange := hhex.range
    simp [Text.isBlank]
    omega
  · decide
  · decide

theorem Dotted.isAddressChar {w : List Char} {b : BitVec 32} (h : Dotted w b) :
    ∀ c ∈ w, IsAddressChar c := by
  obtain ⟨-, -, -, -⟩ := h
  have hdigits (n : Nat) : ∀ c ∈ Nat.toDigits 10 n, IsAddressChar c :=
    fun _ hc => .inl (Text.isDigit_of_mem_toDigits hc).isHex
  intro c hc
  simp only [List.mem_append, List.mem_cons] at hc
  obtain ha | rfl | hb | rfl | hc | rfl | hd := hc
  · exact hdigits _ _ ha
  · exact .inr (.inl rfl)
  · exact hdigits _ _ hb
  · exact .inr (.inl rfl)
  · exact hdigits _ _ hc
  · exact .inr (.inl rfl)
  · exact hdigits _ _ hd

theorem Listed.isAddressChar {mark : Bool} {w : List Char} {gs : List (BitVec 16)}
    (h : Listed mark w gs) : ∀ c ∈ w, IsAddressChar c := by
  induction h with
  | group hg => exact fun c hc => .inl (hg.isHex c hc)
  | dotted hb => exact hb.isAddressChar
  | cons hg _ ih =>
      intro c hc
      simp only [List.mem_append, List.mem_cons] at hc
      obtain hw | rfl | hr := hc
      · exact .inl (hg.isHex c hw)
      · exact .inr (.inr rfl)
      · exact ih c hr

theorem Side.isAddressChar {mark : Bool} {w : List Char} {gs : List (BitVec 16)}
    (h : Side mark w gs) : ∀ c ∈ w, IsAddressChar c := by
  cases h with
  | empty => exact fun _ hc => nomatch hc
  | listed h => exact h.isAddressChar

theorem Spells.isAddressChar {cs : List Char} {a : Address} (h : Spells cs a) :
    ∀ c ∈ cs, IsAddressChar c := by
  cases h with
  | v4 h => exact h.isAddressChar
  | v6 h =>
      cases h with
      | full hlisted => exact hlisted.isAddressChar
      | short hhead htail =>
          intro c hc
          simp only [List.mem_append, List.mem_cons] at hc
          obtain hfront | rfl | rfl | hback := hc
          · exact hhead.isAddressChar c hfront
          · exact .inr (.inr rfl)
          · exact .inr (.inr rfl)
          · exact htail.isAddressChar c hback

theorem Spells.slash_not_mem {cs : List Char} {a : Address} (h : Spells cs a) : '/' ∉ cs := by
  intro hmem
  have hslash : ¬ IsAddressChar '/' := by
    unfold IsAddressChar IsHex
    decide
  exact hslash (h.isAddressChar '/' hmem)

theorem Names.le_width {cs : List Char} {a : Address} {k : Nat} (h : Names cs a k) :
    k ≤ a.width := by
  cases h with
  | alone => exact Nat.le_refl _
  | counted _ _ hle => exact hle

theorem Spells.ne_nil {cs : List Char} {a : Address} (h : Spells cs a) : cs ≠ [] := by
  rintro rfl
  cases (Address.read?_eq_some_iff (s := "")).mpr h

theorem Names.ne_nil {cs : List Char} {a : Address} {k : Nat} (h : Names cs a k) : cs ≠ [] := by
  cases h with
  | alone h => exact h.ne_nil
  | counted => simp

/-- The networks that are read are those that texts name. -/
theorem writes_iff_names {cs : List Char} {a : Address} {k : Nat} :
    Writes cs a k ↔ Names cs a k := by
  constructor
  · rintro (⟨-, ha⟩ | ⟨-, ha, hk, hle⟩)
    · rw [Address.read?_eq_some_iff, String.toList_ofList] at ha
      exact .alone ha
    · rw [Address.read?_eq_some_iff, String.toList_ofList] at ha
      exact .counted ha (Text.natChars?_eq_some_iff.mp hk).1 hle
  · rintro (h | ⟨h, hk, hle⟩)
    · refine .alone h.slash_not_mem ?_
      rwa [Address.read?_eq_some_iff, String.toList_ofList]
    · -- no family has more than 128 bits, so the number fits into eight
      have hwidth : a.width ≤ 128 := by cases a <;> simp [Address.width]
      refine .counted h.slash_not_mem ?_ (Text.natChars?_eq_some_iff.mpr ⟨hk, by omega⟩) hle
      rwa [Address.read?_eq_some_iff, String.toList_ofList]

end Conclave.Ip
