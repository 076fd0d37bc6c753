import Conclave.Proofs.Ip.Spelling
import Conclave.Proofs.Settings.Fulfilled

/-!
# Addresses without a port

An endpoint ends in a colon and a port, so an address that has no port should be refused wherever an
endpoint is asked for (`Refused`). IPv4 addresses are, and so are addresses in brackets.

An IPv6 address without brackets has colons of its own. What stands behind the last of them is a
group, an IPv4 address or nothing (`Ip.IsLast`), and a group of decimal digits is a port as well.
Such an address is accepted for another one, which ends where its last group begins; every other
IPv6 address is refused (`refused_iff_not_endsInDigits`).
-/

namespace Conclave

open Text (IsDigit Numeral)

/-! ## The last colon of an address -/

namespace Ip

theorem IsHex.ne_colon {c : Char} (h : IsHex c) : c ≠ ':' := by
  rintro rfl
  exact absurd h.range (by decide)

theorem Dotted.colon_not_mem {w : List Char} {b : BitVec 32} (h : Dotted w b) : ':' ∉ w := by
  have hdigits (n : Nat) : ':' ∉ Nat.toDigits 10 n :=
    fun hc => IsHex.ne_colon (Text.isDigit_of_mem_toDigits hc).isHex rfl
  obtain ⟨-, -, -, -⟩ := h
  simp [hdigits]

/-- What stands behind the last colon of an IPv6 address. -/
inductive IsLast : List Char → Prop where
  | nothing : IsLast []
  | group {w : List Char} {g : BitVec 16} (h : IsGroup w g) : IsLast w
  | dotted {w : List Char} {b : BitVec 32} (h : Dotted w b) : IsLast w

theorem IsLast.colon_not_mem {w : List Char} (h : IsLast w) : ':' ∉ w := by
  cases h with
  | nothing => exact List.not_mem_nil
  | group hg => exact fun hc => (hg.isHex ':' hc).ne_colon rfl
  | dotted hb => exact hb.colon_not_mem

/-- Digits behind the last colon are a group. -/
theorem IsLast.length_le {w : List Char} (h : IsLast w) (hdigits : ∀ c ∈ w, IsDigit c) :
    w.length ≤ 4 := by
  cases h with
  | nothing => exact Nat.zero_le 4
  | group hg => exact hg.length_le
  | dotted hb =>
      obtain ⟨ds, r, rfl, -, -⟩ := hb.exists_front
      exact absurd (hdigits '.' (by simp)).range (by decide)

theorem Listed.exists_last {mark : Bool} {w : List Char} {gs : List (BitVec 16)}
    (h : Listed mark w gs) : IsLast w ∧ gs.length ≤ 2
      ∨ ∃ front last, w = front ++ ':' :: last ∧ front ≠ [] ∧ IsLast last := by
  induction h with
  | group hg => exact .inl ⟨.group hg, by simp⟩
  | dotted hb => exact .inl ⟨.dotted hb, by simp⟩
  | @cons mark w r g gs hg hr ih =>
      rcases ih with ⟨hlast, -⟩ | ⟨front, last, rfl, -, hlast⟩
      · exact .inr ⟨w, r, rfl, hg.ne_nil, hlast⟩
      · exact .inr ⟨w ++ ':' :: front, last, by simp, by simp, hlast⟩

theorem SpellsV6.exists_last {cs : List Char} {b : BitVec 128} (h : SpellsV6 cs b) :
    ∃ front last, cs = front ++ ':' :: last ∧ front ≠ [] ∧ IsLast last := by
  cases h with
  | full hlisted hlen =>
      rcases hlisted.exists_last with ⟨-, hfew⟩ | hcut
      · omega
      · exact hcut
  | @short _ front back _ _ _ htail _ =>
      cases htail with
      | empty => exact ⟨front ++ [':'], [], by simp, by simp, .nothing⟩
      | listed hlisted =>
          rcases hlisted.exists_last with ⟨hlast, -⟩ | ⟨between, last, rfl, -, hlast⟩
          · exact ⟨front ++ [':'], back, by simp, by simp, hlast⟩
          · exact ⟨front ++ ':' :: ':' :: between, last, by simp, by simp, hlast⟩

theorem Spells.trimChars_eq {cs : List Char} {a : Address} (h : Spells cs a) :
    Text.trimChars cs = cs :=
  Text.trimChars_of_forall fun c hc => (h.isAddressChar c hc).not_isBlank

/-- No address has a bracket or a plus sign. -/
theorem Spells.not_mem {cs : List Char} {a : Address} (h : Spells cs a) {c : Char}
    (hc : c = '[' ∨ c = '+') : c ∉ cs := by
  intro hmem
  have hchar := h.isAddressChar c hmem
  rcases hc with rfl | rfl <;> revert hchar <;> simp only [IsAddressChar, IsHex] <;> decide

end Ip

/-! ## Addresses that are read as endpoints -/

/-- Whether a text ends in a colon and decimal digits. -/
def EndsInDigits (cs : List Char) : Prop :=
  ∃ front digits, cs = front ++ ':' :: digits ∧ digits ≠ [] ∧ ∀ c ∈ digits, IsDigit c

theorem mem_of_concat_eq {cs front back : List Char} {c d : Char}
    (h : cs ++ [c] = front ++ d :: back) : c ∈ d :: back := by
  have hlast := congrArg List.getLast? h
  rw [List.getLast?_concat, List.getLast?_append_of_ne_nil _ (by simp)] at hlast
  exact List.mem_of_getLast? hlast.symm

theorem EndsInDigits.isDigit {cs : List Char} {c : Char} (h : EndsInDigits (cs ++ [c])) :
    IsDigit c := by
  obtain ⟨front, digits, heq, hne, hdigits⟩ := h
  obtain ⟨d, rest, rfl⟩ := List.exists_cons_of_ne_nil hne
  have heq' : cs ++ [c] = (front ++ [':']) ++ d :: rest := by rw [heq]; simp
  exact hdigits c (mem_of_concat_eq heq')

section

variable {cs : List Char} {a : Ip.Address} (h : Ip.Spells cs a)
include h

/-- An address that ends in a colon and digits writes an endpoint, with these digits as its port. -/
theorem exists_writes_of_digits {front digits : List Char} (hcs : cs = front ++ ':' :: digits)
    (hne : digits ≠ []) (hdigits : ∀ c ∈ digits, IsDigit c) :
    ∃ n < 10000, Numeral digits n ∧ Endpoint.Writes cs front n := by
  have hbare : ¬ Endpoint.Bracketed front := by
    rintro ⟨inner, rfl⟩
    exact h.not_mem (.inl rfl) (by simp [hcs])
  cases h with
  | v4 hb => exact absurd (by simp [hcs]) hb.colon_not_mem
  | v6 hb =>
      obtain ⟨front', last, heq, hfront, hlast⟩ := hb.exists_last
      have hcolon : ':' ∉ digits := fun hmem => absurd (hdigits ':' hmem).range (by decide)
      have hcut := Endpoint.splitLast_eq_some_iff.mpr ⟨heq, hlast.colon_not_mem⟩
      rw [Endpoint.splitLast_eq_some_iff.mpr ⟨hcs, hcolon⟩] at hcut
      obtain ⟨rfl, rfl⟩ := Prod.mk.inj (Option.some.inj hcut)
      obtain ⟨n, hn, hlt⟩ := Text.exists_numeral hne hdigits
      have hfour : 10 ^ digits.length ≤ 10 ^ 4 :=
        Nat.pow_le_pow_right (by decide) (hlast.length_le hdigits)
      have hsmall : n < 10000 := Nat.lt_of_lt_of_le hlt hfour
      have hsize : n < UInt16.size := Nat.lt_trans hsmall (by decide)
      exact ⟨n, hsmall, hn, hcs ▸ .bare hfront hbare hn hsize⟩

theorem endsInDigits_of_writes {host : List Char} {n : Nat} (hw : Endpoint.Writes cs host n) :
    EndsInDigits cs := by
  obtain ⟨front, port, hcs, hport⟩ := hw.exists_port
  refine ⟨front, port, hcs, hport.ne_nil, fun c hc => ?_⟩
  rcases hport.eq_plus_or_isDigit c hc with hplus | hdigit
  · exact absurd (by simp [hcs, hc]) (h.not_mem (.inr hplus))
  · exact hdigit

theorem not_writes_in_brackets (host : List Char) (n : Nat) :
    ¬ Endpoint.Writes (Text.trimChars ('[' :: (cs ++ [']']))) host n := by
  have htrim : Text.trimChars ('[' :: (cs ++ [']'])) = '[' :: (cs ++ [']']) := by
    refine Text.trimChars_of_forall fun c hc => ?_
    simp only [List.mem_cons, List.mem_append, List.not_mem_nil, or_false] at hc
    rcases hc with rfl | hc | rfl
    · decide
    · exact (h.isAddressChar c hc).not_isBlank
    · decide
  rw [htrim]
  intro hw
  obtain ⟨front, port, heq, hport⟩ := hw.exists_port
  rw [← List.cons_append] at heq
  -- the bracket at the end would belong to the port
  rcases List.mem_cons.mp (mem_of_concat_eq heq) with hcolon | hmem
  · exact absurd hcolon (by decide)
  · rcases hport.eq_plus_or_isDigit _ hmem with hplus | hdigit
    · exact absurd hplus (by decide)
    · exact absurd hdigit.range (by decide)

end

/-! ## Refusal -/

/-- An address that no endpoint is read from: no member is made for it, and settings that list it
are refused for it, or for a member that is listed before it. -/
structure Refused (address : String) : Prop where
  unread : Endpoint.read? address = none
  uncalled : Http.accept address = .error (.invalidAddress address)
  unlisted : ∀ s : Settings, address ∈ s.listed (Settings.clusterPath "members") →
    ∃ m, s.IsFirstUnwritten m ∧ s.membership = .error (.invalidAddress m)

theorem refused_iff {address : String} : Refused address ↔ ¬ Endpoint.Written address := by
  constructor
  · intro h
    rw [← Endpoint.isNone_read?_iff, h.unread]
    rfl
  · intro h
    refine ⟨Option.isNone_iff_eq_none.mp (Endpoint.isNone_read?_iff.mpr h),
      Http.accept_eq_error_iff.mpr h, fun s hs => ?_⟩
    rcases Settings.written_or_isFirst s with hall | ⟨m, hm⟩
    · exact absurd (hall address hs) h
    · exact ⟨m, hm, Settings.membership_of_isFirst hm⟩

section

variable {address : String} {a : Ip.Address} (h : Ip.Spells address.toList a)
include h

theorem refused_in_brackets : Refused ("[" ++ address ++ "]") := by
  rw [refused_iff]
  rintro ⟨host, n, hw⟩
  refine not_writes_in_brackets h host n ?_
  simpa using hw

theorem refused_iff_not_endsInDigits : Refused address ↔ ¬ EndsInDigits address.toList := by
  rw [refused_iff, not_iff_not]
  constructor
  · rintro ⟨host, n, hw⟩
    rw [h.trimChars_eq] at hw
    exact endsInDigits_of_writes h hw
  · rintro ⟨front, digits, hcs, hne, hdigits⟩
    obtain ⟨n, -, -, hw⟩ := exists_writes_of_digits h hcs hne hdigits
    exact ⟨front, n, by rwa [h.trimChars_eq]⟩

/-- The digits behind the last colon are taken for the port, and what is before them for the
host. -/
theorem read?_of_digits {front digits : List Char} (hcs : address.toList = front ++ ':' :: digits)
    (hne : digits ≠ []) (hdigits : ∀ c ∈ digits, IsDigit c) :
    ∃ n < 10000, Numeral digits n
      ∧ Endpoint.read? address = some ⟨String.ofList front, UInt16.ofNat n⟩ := by
  obtain ⟨n, hlt, hn, hw⟩ := exists_writes_of_digits h hcs hne hdigits
  refine ⟨n, hlt, hn, Endpoint.read?_eq_some_iff.mpr ?_⟩
  rwa [h.trimChars_eq, String.toList_ofList, UInt16.toNat_ofNat_of_lt' hw.lt_size]

end

/-- Of the addresses without a port, all in brackets and all IPv4 addresses are refused, and of the
IPv6 addresses those that do not end in a group of decimal digits. The others are accepted, cut at
their last colon. -/
theorem portless_refused (address : String) (a : Ip.Address) (h : Ip.Spells address.toList a) :
    Refused ("[" ++ address ++ "]")
    ∧ ((∃ b, a = .v4 b) → Refused address)
    ∧ (Refused address ↔ ¬ EndsInDigits address.toList)
    ∧ ∀ front digits, address.toList = front ++ ':' :: digits → digits ≠ [] →
        (∀ c ∈ digits, IsDigit c) →
        Http.accept address = .ok ()
        ∧ ∃ n < 10000, Numeral digits n
          ∧ Endpoint.read? address = some ⟨String.ofList front, UInt16.ofNat n⟩ := by
  refine ⟨refused_in_brackets h, ?_, refused_iff_not_endsInDigits h, ?_⟩
  · rintro ⟨b, rfl⟩
    rw [refused_iff_not_endsInDigits h]
    rintro ⟨front, digits, hcs, -, -⟩
    cases h with
    | v4 hb => exact hb.colon_not_mem (by simp [hcs])
  · intro front digits hcs hne hdigits
    obtain ⟨n, hlt, hn, hread⟩ := read?_of_digits h hcs hne hdigits
    have hwritten : Endpoint.Written address := Endpoint.isSome_read?_iff.mp (by simp [hread])
    exact ⟨Http.accept_eq_ok_iff.mpr hwritten, n, hlt, hn, hread⟩

/-- A group with a letter is no port. -/
theorem link_local_refused : Refused "fe80::a" ∧ Refused "[fe80::a]" ∧ Refused "10.0.0.1" := by
  have hlink : Ip.Spells "fe80::a".toList (.v6 0xfe80000000000000000000000000000a) :=
    Ip.Address.read?_eq_some_iff.mp (by decide +kernel)
  have hten : Ip.Spells "10.0.0.1".toList (.v4 0x0a000001) :=
    Ip.Address.read?_eq_some_iff.mp (by decide +kernel)
  obtain ⟨hbrackets, -, hbare, -⟩ := portless_refused "fe80::a" _ hlink
  obtain ⟨-, hv4, -, -⟩ := portless_refused "10.0.0.1" _ hten
  refine ⟨hbare.mpr fun (hends : EndsInDigits ("fe80::".toList ++ ['a'])) => ?_, hbrackets,
    hv4 ⟨_, rfl⟩⟩
  exact absurd hends.isDigit.range (by decide)

/-- The loopback address without a port is accepted everywhere, as the port 1 of the host `:`. -/
theorem loopback_accepted :
    Ip.Spells "::1".toList (.v6 1) ∧ Endpoint.read? "::1" = some ⟨":", 1⟩
    ∧ Http.accept "::1" = .ok ()
    ∧ ∃ m, (Settings.crew "::1" "").membership = .ok m ∧ m.members = ["::1"] := by
  have hread : Endpoint.read? "::1" = some ⟨":", 1⟩ := by decide +kernel
  have hwritten : Endpoint.Written "::1" := Endpoint.isSome_read?_iff.mp (by simp [hread])
  refine ⟨Ip.Address.read?_eq_some_iff.mp (by decide +kernel), hread,
    Http.accept_eq_ok_iff.mpr hwritten, _, Settings.membership_of_written fun m hm => ?_, ?_⟩
  · have hlisted : (Settings.crew "::1" "").listed (Settings.clusterPath "members") = ["::1"] := by
      decide +kernel
    rw [hlisted, List.mem_singleton] at hm
    rwa [hm]
  · decide +kernel

end Conclave
