import Conclave.Endpoint
import Conclave.Proofs.Text

/-!
# Endpoints as text

`Endpoint.Writes` is the grammar of endpoints: a host, a colon, and a port in decimal digits. A host
in square brackets is written without them, and no host is empty. A text is read as an endpoint
exactly when it writes one, the blanks around it left out (`read?_eq_some_iff`). So reading an
address undoes writing it (`reading_undoes_writing`).

The reader cuts at the last colon. The port has none, so that the cut is the one that the grammar
means, whatever colons and brackets the host may have.
-/

namespace Conclave.Endpoint

open Text (Numeral IsDigit)

/-! ## The grammar -/

/-- A text in square brackets. -/
def Bracketed (cs : List Char) : Prop := ∃ inner, cs = '[' :: (inner ++ [']'])

/-- Whether a text without blanks around it writes a host and a port. -/
inductive Writes : List Char → List Char → Nat → Prop where
  | bare {host port : List Char} {n : Nat} (hne : host ≠ []) (hbare : ¬ Bracketed host)
      (hport : Numeral port n) (hlt : n < UInt16.size) : Writes (host ++ ':' :: port) host n
  | bracketed {host port : List Char} {n : Nat} (hne : host ≠ []) (hport : Numeral port n)
      (hlt : n < UInt16.size) : Writes ('[' :: (host ++ [']']) ++ ':' :: port) host n

/-! ## The last colon -/

section

variable {c : Char} {front back cs : List Char}

theorem splitLast_append (h : c ∉ back) :
    splitLast c (front ++ c :: back) = some (front, back) := by
  have hback : (front ++ c :: back).reverse.takeWhile (· ≠ c) = back.reverse := by
    have hall : ∀ x ∈ back.reverse, decide (x ≠ c) = true := by
      intro x hx
      simpa using ne_of_mem_of_not_mem (List.mem_reverse.mp hx) h
    have hrest : Text.Leaves (fun x => decide (x ≠ c)) (c :: front.reverse) :=
      .cons (by simp) _
    rw [List.reverse_append, List.reverse_cons, List.append_assoc, List.singleton_append]
    exact Text.takeWhile_append_of_leaves hall hrest
  have hlength : (front ++ c :: back).length - back.length - 1 = front.length := by
    rw [List.length_append, List.length_cons]
    omega
  simp only [splitLast, hback, List.reverse_reverse]
  rw [if_pos (by simp only [List.length_append, List.length_cons]; omega), hlength, List.take_left]

theorem splitLast_of_not_mem (h : c ∉ cs) : splitLast c cs = none := by
  have hall : cs.reverse.takeWhile (· ≠ c) = cs.reverse := by
    rw [List.takeWhile_eq_self_iff]
    intro x hx
    simpa using ne_of_mem_of_not_mem (List.mem_reverse.mp hx) h
  simp only [splitLast, hall, List.reverse_reverse, Nat.lt_irrefl, if_false]

/-- A text is cut at the last place of a character. -/
theorem splitLast_eq_some_iff :
    splitLast c cs = some (front, back) ↔ cs = front ++ c :: back ∧ c ∉ back := by
  constructor
  · intro h
    by_cases hc : c ∈ cs
    · obtain ⟨as, bs, hcs, has⟩ := List.eq_append_cons_of_mem (List.mem_reverse.mpr hc)
      have hsplit : cs = bs.reverse ++ c :: as.reverse := by
        rw [← List.reverse_reverse cs, hcs]
        simp
      have hlast : c ∉ as.reverse := by simpa using has
      rw [hsplit, splitLast_append hlast] at h
      obtain ⟨rfl, rfl⟩ := Prod.mk.inj (Option.some.inj h)
      exact ⟨hsplit, hlast⟩
    · rw [splitLast_of_not_mem hc] at h
      cases h
  · rintro ⟨rfl, hback⟩
    exact splitLast_append hback

end

/-! ## Brackets -/

theorem unbracket_bracketed (inner : List Char) : unbracket ('[' :: (inner ++ [']'])) = inner := by
  simp [unbracket]

theorem unbracket_of_bare {cs : List Char} (h : ¬ Bracketed cs) : unbracket cs = cs := by
  unfold unbracket
  split
  · rename_i r
    split
    · rename_i hlast
      obtain ⟨inner, rfl⟩ := List.getLast?_eq_some_iff.mp hlast
      exact absurd ⟨inner, rfl⟩ h
    · rfl
  · rfl

/-! ## Reading -/

theorem colon_not_mem_of_numeral {cs : List Char} {n : Nat} (h : Numeral cs n) : ':' ∉ cs := by
  intro hmem
  rcases h.eq_plus_or_isDigit ':' hmem with hplus | hdigit
  · cases hplus
  · exact absurd hdigit.range (by decide)

/-- A host and a port are read from exactly the texts that write them. -/
theorem ofChars?_eq_some_iff {cs host : List Char} {n : Nat} :
    ofChars? cs = some (host, n) ↔ Writes cs host n := by
  simp only [ofChars?, Option.bind_eq_bind, Option.bind_eq_some_iff, Prod.exists,
    splitLast_eq_some_iff, Text.natChars?_eq_some_iff]
  constructor
  · rintro ⟨written, port, ⟨rfl, -⟩, m, ⟨hport, hlt⟩, h⟩
    split at h
    · cases h
    · rename_i hne
      obtain ⟨rfl, rfl⟩ := Prod.mk.inj (Option.some.inj h)
      by_cases hbracketed : Bracketed written
      · obtain ⟨inner, rfl⟩ := hbracketed
        rw [unbracket_bracketed] at hne ⊢
        exact .bracketed hne hport hlt
      · rw [unbracket_of_bare hbracketed] at hne ⊢
        exact .bare hne hbracketed hport hlt
  · rintro (⟨hne, hbare, hport, hlt⟩ | ⟨hne, hport, hlt⟩)
    · refine ⟨host, _, ⟨rfl, colon_not_mem_of_numeral hport⟩, n, ⟨hport, hlt⟩, ?_⟩
      rw [unbracket_of_bare hbare, if_neg hne]
    · refine ⟨_, _, ⟨rfl, colon_not_mem_of_numeral hport⟩, n, ⟨hport, hlt⟩, ?_⟩
      rw [unbracket_bracketed, if_neg hne]

/-- An endpoint ends in a colon and a numeral. -/
theorem Writes.exists_port {cs host : List Char} {n : Nat} (h : Writes cs host n) :
    ∃ front port, cs = front ++ ':' :: port ∧ Numeral port n := by
  cases h with
  | bare _ _ hport => exact ⟨_, _, rfl, hport⟩
  | bracketed _ hport => exact ⟨_, _, rfl, hport⟩

theorem Writes.lt_size {cs host : List Char} {n : Nat} (h : Writes cs host n) :
    n < UInt16.size := by
  cases h with
  | bare _ _ _ hlt => exact hlt
  | bracketed _ _ hlt => exact hlt

/-- An endpoint is read from exactly the texts that write it, the blanks around them left out. -/
theorem read?_eq_some_iff {s : String} {e : Endpoint} :
    read? s = some e ↔ Writes (Text.trimChars s.toList) e.host.toList e.port.toNat := by
  rw [read?, Option.map_eq_some_iff]
  constructor
  · rintro ⟨⟨host, n⟩, hread, rfl⟩
    have hwrites := ofChars?_eq_some_iff.mp hread
    have hport : (UInt16.ofNat n).toNat = n := UInt16.toNat_ofNat_of_lt' hwrites.lt_size
    simpa [hport] using hwrites
  · intro hwrites
    refine ⟨_, ofChars?_eq_some_iff.mpr hwrites, ?_⟩
    simp

/-- Whether a text writes an endpoint, the blanks around it left out. -/
def Written (s : String) : Prop := ∃ host n, Writes (Text.trimChars s.toList) host n

theorem isNone_read?_iff {s : String} : (read? s).isNone = true ↔ ¬ Written s := by
  rw [read?, Option.isNone_map, Option.isNone_iff_eq_none, Option.eq_none_iff_forall_ne_some]
  simp only [Prod.forall, ne_eq, ofChars?_eq_some_iff, Written, not_exists]

theorem isSome_read?_iff {s : String} : (read? s).isSome = true ↔ Written s := by
  rw [← not_iff_not, ← isNone_read?_iff]
  simp

/-! ## Writing -/

/-- Nothing is trimmed from a port, nor from what stands before it if that begins with no blank. -/
theorem trimChars_append_toDigits {front : List Char} (n : Nat)
    (h : ∀ c, front.head? = some c → Text.isBlank c = false) :
    Text.trimChars (front ++ ':' :: Nat.toDigits 10 n) = front ++ ':' :: Nat.toDigits 10 n := by
  refine Text.trimChars_eq_self (fun c hc => ?_) (fun c hc => ?_)
  · cases front with
    | nil =>
        obtain rfl : ':' = c := by simpa using hc
        decide
    | cons b r => exact h c (by simpa using hc)
  · rw [List.append_cons, List.getLast?_append_of_ne_nil _ Nat.toDigits_ne_nil] at hc
    exact (Text.isDigit_of_mem_toDigits (List.mem_of_getLast? hc)).not_isBlank

section

variable {host : String} (port : UInt16)

/-- A host that has no brackets around it is read back with its port. -/
theorem read?_bare (hne : host ≠ "") (htrim : Text.trim host = host)
    (hbare : ¬ Bracketed host.toList) :
    read? (host ++ ":" ++ toString port.toNat) = some ⟨host, port⟩ := by
  have hchars : (host ++ ":" ++ toString port.toNat).toList
      = host.toList ++ ':' :: Nat.toDigits 10 port.toNat := by
    simp
  have hfirst : ∀ c, host.toList.head? = some c → Text.isBlank c = false := by
    intro c hc
    rw [← htrim, Text.toList_trim] at hc
    exact Text.isBlank_head?_trimChars hc
  rw [read?_eq_some_iff, hchars, trimChars_append_toDigits _ hfirst]
  exact .bare (by simpa using hne) hbare (Text.numeral_toDigits _) port.toNat_lt

/-- A host in brackets is read back without them, whatever it is. -/
theorem read?_bracketed (hne : host ≠ "") :
    read? ("[" ++ host ++ "]:" ++ toString port.toNat) = some ⟨host, port⟩ := by
  have hchars : ("[" ++ host ++ "]:" ++ toString port.toNat).toList
      = '[' :: (host.toList ++ [']']) ++ ':' :: Nat.toDigits 10 port.toNat := by
    simp
  have hfirst : ∀ c, ('[' :: (host.toList ++ [']'])).head? = some c → Text.isBlank c = false := by
    intro c hc
    obtain rfl : '[' = c := by simpa using hc
    decide
  rw [read?_eq_some_iff, hchars, trimChars_append_toDigits _ hfirst]
  exact .bracketed (by simpa using hne) (Text.numeral_toDigits _) port.toNat_lt

end

/-- Blanks around an address count for nothing. -/
theorem read?_blanks {before after : String} (hbefore : ∀ c ∈ before.toList, Text.isBlank c = true)
    (s : String) (hafter : ∀ c ∈ after.toList, Text.isBlank c = true) :
    read? (before ++ s ++ after) = read? s := by
  rw [read?, read?, String.toList_append, String.toList_append,
    Text.trimChars_append_blanks hbefore _ hafter]

/-- What was read stands in the text: a host, in brackets or without, a colon, and a port without a
colon in it. -/
theorem read?_eq_some_iff_written {s : String} {e : Endpoint} : read? s = some e ↔
    e.host ≠ "" ∧ ∃ port : String, Numeral port.toList e.port.toNat ∧ ':' ∉ port.toList
    ∧ (Text.trim s = e.host ++ ":" ++ port ∧ ¬ Bracketed e.host.toList
      ∨ Text.trim s = "[" ++ e.host ++ "]:" ++ port) := by
  have hchars (t : String) : Text.trim s = t ↔ Text.trimChars s.toList = t.toList := by
    rw [← String.toList_inj, Text.toList_trim]
  simp only [hchars, read?_eq_some_iff]
  constructor
  · generalize Text.trimChars s.toList = cs
    intro h
    cases h with
    | @bare _ port _ hne hbare hport hlt =>
        refine ⟨by simpa using hne, String.ofList port, by simpa using hport,
          by simpa using colon_not_mem_of_numeral hport, .inl ⟨by simp, hbare⟩⟩
    | @bracketed _ port _ hne hport hlt =>
        refine ⟨by simpa using hne, String.ofList port, by simpa using hport,
          by simpa using colon_not_mem_of_numeral hport, .inr (by simp)⟩
  · rintro ⟨hne, port, hport, -, ⟨hs, hbare⟩ | hs⟩
    · rw [hs]
      have hwrites : Writes (e.host.toList ++ ':' :: port.toList) e.host.toList e.port.toNat :=
        .bare (by simpa using hne) hbare hport e.port.toNat_lt
      simpa using hwrites
    · rw [hs]
      have hwrites : Writes ('[' :: (e.host.toList ++ [']']) ++ ':' :: port.toList)
          e.host.toList e.port.toNat := .bracketed (by simpa using hne) hport e.port.toNat_lt
      simpa using hwrites

/-- Reading an address undoes writing it: a host without blanks and brackets around it comes back
with its port, and so does every host in brackets. Blanks around the address count for nothing, and
nothing else than such an address is read. -/
theorem reading_undoes_writing :
    (∀ (host : String) (port : UInt16), host ≠ "" → Text.trim host = host →
      ¬ Bracketed host.toList → read? (host ++ ":" ++ toString port.toNat) = some ⟨host, port⟩)
    ∧ (∀ (host : String) (port : UInt16), host ≠ "" →
      read? ("[" ++ host ++ "]:" ++ toString port.toNat) = some ⟨host, port⟩)
    ∧ (∀ before s after : String, (∀ c ∈ before.toList, Text.isBlank c = true) →
      (∀ c ∈ after.toList, Text.isBlank c = true) → read? (before ++ s ++ after) = read? s)
    ∧ ∀ (s : String) (e : Endpoint), read? s = some e ↔
      e.host ≠ "" ∧ ∃ port : String, Numeral port.toList e.port.toNat ∧ ':' ∉ port.toList
      ∧ (Text.trim s = e.host ++ ":" ++ port ∧ ¬ Bracketed e.host.toList
        ∨ Text.trim s = "[" ++ e.host ++ "]:" ++ port) :=
  ⟨fun _ port => read?_bare port, fun _ port => read?_bracketed port,
    fun _ s _ hbefore hafter => read?_blanks hbefore s hafter,
    fun _ _ => read?_eq_some_iff_written⟩

/-- Hosts with colons and brackets come back, and what was read from a port with a plus sign and a
zero in front stands in the text. -/
theorem odd_hosts_undone :
    read? ("a]:[b" ++ ":" ++ toString (80 : UInt16).toNat) = some ⟨"a]:[b", 80⟩
    ∧ read? ("[" ++ "[a: ]" ++ "]:" ++ toString (65535 : UInt16).toNat) = some ⟨"[a: ]", 65535⟩
    ∧ read? ("\t " ++ "[::1]:+080" ++ "\u3000") = some ⟨"::1", 80⟩
    ∧ ∃ port : String, Numeral port.toList 80 ∧ ':' ∉ port.toList
      ∧ Text.trim "[::1]:+080" = "[" ++ "::1" ++ "]:" ++ port := by
  obtain ⟨hbare, hbracketed, hblanks, hread⟩ := reading_undoes_writing
  have hopen : ¬ Bracketed "a]:[b".toList := by
    rintro ⟨inner, h⟩
    simp at h
  have hsigned : read? "[::1]:+080" = some ⟨"::1", 80⟩ := by
    decide +kernel
  refine ⟨hbare _ _ (by decide) (by decide +kernel) hopen, hbracketed _ _ (by decide), ?_, ?_⟩
  · rw [hblanks _ _ _ (List.all_eq_true.mp (by decide +kernel))
      (List.all_eq_true.mp (by decide +kernel)), hsigned]
  · obtain ⟨-, port, hport, hcolon, ⟨htrim, -⟩ | htrim⟩ := (hread _ _).mp hsigned
    · have hbracket : (Text.trim "[::1]:+080").toList.head? = some '[' := by
        decide +kernel
      rw [htrim] at hbracket
      simp at hbracket
    · exact ⟨port, hport, hcolon, htrim⟩

end Conclave.Endpoint
