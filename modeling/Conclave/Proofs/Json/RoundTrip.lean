import Conclave.Proofs.Json.Lexing
import Conclave.Proofs.Json.Spelling

/-!
# Reading written documents

A value without floating point numbers is read back from its compact form as its tree
(`read?_write`): the writer and the reader of JSON agree, whatever the texts and however deep the
nesting. Typed readers then look at the tree alone.
-/

namespace Conclave.Json

open Bytes (ofChars)

mutual

/-- The tree of a value. A floating point number has none of its own. -/
def tree : Json → Source
  | .null => .null
  | .bool b => .bool b
  | .int n => .number (.ofInt n)
  | .float _ => .null
  | .text s => .text (some s)
  | .array items => .array (trees items)
  | .object members => .object (memberTrees members)

def trees : List Json → List Source
  | [] => []
  | x :: r => tree x :: trees r

def memberTrees : List (String × Json) → List (Option String × Source)
  | [] => []
  | (k, x) :: r => (some k, tree x) :: memberTrees r

end

mutual

/-- Whether no floating point number occurs in a value. -/
def isExact : Json → Bool
  | .float _ => false
  | .array items => areExact items
  | .object members => membersAreExact members
  | _ => true

def areExact : List Json → Bool
  | [] => true
  | x :: r => isExact x && areExact r

def membersAreExact : List (String × Json) → Bool
  | [] => true
  | (_, x) :: r => isExact x && membersAreExact r

end

theorem trees_eq_map (xs : List Json) : trees xs = xs.map tree := by
  induction xs with
  | nil => rfl
  | cons x r ih => rw [trees, ih, List.map_cons]

theorem memberTrees_eq_map (ms : List (String × Json)) :
    memberTrees ms = ms.map fun m => (some m.1, tree m.2) := by
  induction ms with
  | nil => rfl
  | cons m r ih => rw [memberTrees, ih, List.map_cons]

theorem areExact_iff {xs : List Json} : areExact xs = true ↔ ∀ x ∈ xs, isExact x = true := by
  induction xs with
  | nil => simp [areExact]
  | cons x r ih => simp [areExact, ih]

/-! ## Writing and reading -/

theorem closes_cons {c : Char} (h : c = ',' ∨ c = ']' ∨ c = '\x7d') (r : List Char) :
    Closes (c :: r) := by
  intro d s hs
  obtain ⟨rfl, -⟩ := List.cons.inj hs
  exact h

theorem closes_writeItems (r : List Json) (rest : List Char) :
    Closes (writeItems r (']' :: rest)) := by
  cases r with
  | nil => exact closes_cons (.inr (.inl rfl)) rest
  | cons x r =>
      rw [writeItems]
      exact closes_cons (.inl rfl) _

theorem closes_writeMembers (r : List (String × Json)) (rest : List Char) :
    Closes (writeMembers r ('\x7d' :: rest)) := by
  cases r with
  | nil => exact closes_cons (.inr (.inr rfl)) rest
  | cons m r =>
      obtain ⟨k, x⟩ := m
      rw [writeMembers]
      exact closes_cons (.inl rfl) _

theorem lex_comma (ts : List Token) (cs : List Char) :
    lex (.between, ts) (ofChars (',' :: cs)) = lex (.between, .comma :: ts) (ofChars cs) :=
  lex_char (by decide) rfl cs

theorem lex_colon (ts : List Token) (cs : List Char) :
    lex (.between, ts) (ofChars (':' :: cs)) = lex (.between, .colon :: ts) (ofChars cs) :=
  lex_char (by decide) rfl cs

theorem lex_openArray (ts : List Token) (cs : List Char) :
    lex (.between, ts) (ofChars ('[' :: cs)) = lex (.between, .openArray :: ts) (ofChars cs) :=
  lex_char (by decide) rfl cs

theorem lex_closeArray (ts : List Token) (cs : List Char) :
    lex (.between, ts) (ofChars (']' :: cs)) = lex (.between, .closeArray :: ts) (ofChars cs) :=
  lex_char (by decide) rfl cs

theorem lex_openObject (ts : List Token) (cs : List Char) :
    lex (.between, ts) (ofChars ('\x7b' :: cs))
      = lex (.between, .openObject :: ts) (ofChars cs) :=
  lex_char (by decide) rfl cs

theorem lex_closeObject (ts : List Token) (cs : List Char) :
    lex (.between, ts) (ofChars ('\x7d' :: cs))
      = lex (.between, .closeObject :: ts) (ofChars cs) :=
  lex_char (by decide) rfl cs

theorem lex_letter {w : List Char} {c : Char} (h : c.toNat < 128) (hc : isWordChar c = true)
    (ts : List Token) (cs : List Char) :
    lex (.word w, ts) (ofChars (c :: cs)) = lex (.word (c :: w), ts) (ofChars cs) := by
  refine lex_char h ?_ cs
  simp only [step, char_byteOf h, hc, if_true]

theorem lex_null (ts : List Token) {rest : List Char} (hr : Closes rest) :
    lex (.between, ts) (ofChars ('n' :: 'u' :: 'l' :: 'l' :: rest))
      = lex (.between, .null :: ts) (ofChars rest) := by
  have hn : step (.between, ts) (byteOf 'n') = some (.word ['n'], ts) := rfl
  rw [lex_char (by decide) hn, lex_letter (by decide) rfl, lex_letter (by decide) rfl,
    lex_letter (by decide) rfl]
  exact lex_word rfl ts hr

theorem lex_true (ts : List Token) {rest : List Char} (hr : Closes rest) :
    lex (.between, ts) (ofChars ('t' :: 'r' :: 'u' :: 'e' :: rest))
      = lex (.between, .bool true :: ts) (ofChars rest) := by
  have ht : step (.between, ts) (byteOf 't') = some (.word ['t'], ts) := rfl
  rw [lex_char (by decide) ht, lex_letter (by decide) rfl, lex_letter (by decide) rfl,
    lex_letter (by decide) rfl]
  exact lex_word rfl ts hr

theorem lex_false (ts : List Token) {rest : List Char} (hr : Closes rest) :
    lex (.between, ts) (ofChars ('f' :: 'a' :: 'l' :: 's' :: 'e' :: rest))
      = lex (.between, .bool false :: ts) (ofChars rest) := by
  have hf : step (.between, ts) (byteOf 'f') = some (.word ['f'], ts) := rfl
  rw [lex_char (by decide) hf, lex_letter (by decide) rfl, lex_letter (by decide) rfl,
    lex_letter (by decide) rfl, lex_letter (by decide) rfl]
  exact lex_word rfl ts hr

mutual

/-- A written value is read as the tokens of its tree. -/
theorem lex_writeValue : ∀ (x : Json) (ts : List Token) (rest : List Char),
    isExact x = true → Closes rest →
    lex (.between, ts) (ofChars (writeValue x rest))
      = lex (.between, (tree x).spell.reverse ++ ts) (ofChars rest)
  | .null, ts, _, _, hr => lex_null ts hr
  | .bool true, ts, _, _, hr => lex_true ts hr
  | .bool false, ts, _, _, hr => lex_false ts hr
  | .int n, ts, _, _, hr => lex_writeInt n ts hr
  | .float _, _, _, hx, _ => nomatch hx
  | .text s, ts, rest, _, _ => lex_writeText s ts rest
  | .array [], ts, rest, _, _ => by
      rw [writeValue, lex_openArray, lex_closeArray]
      rfl
  | .array (x :: r), ts, rest, hx, hr => by
      obtain ⟨hx, hi⟩ := (Bool.and_eq_true _ _).mp hx
      rw [writeValue, lex_openArray, lex_writeValue x _ _ hx (closes_writeItems r rest),
        lex_writeItems r _ _ hi]
      simp [tree, trees, Source.spell]
  | .object [], ts, rest, _, _ => by
      rw [writeValue, lex_openObject, lex_closeObject]
      rfl
  | .object ((k, x) :: r), ts, rest, hx, hr => by
      obtain ⟨hx, hm⟩ := (Bool.and_eq_true _ _).mp hx
      rw [writeValue, lex_openObject, lex_writeText, lex_colon,
        lex_writeValue x _ _ hx (closes_writeMembers r rest), lex_writeMembers r _ _ hm]
      simp [tree, memberTrees, Source.spell]

theorem lex_writeItems : ∀ (xs : List Json) (ts : List Token) (rest : List Char),
    areExact xs = true →
    lex (.between, ts) (ofChars (writeItems xs (']' :: rest)))
      = lex (.between, (Source.spellItems (trees xs)).reverse ++ ts) (ofChars rest)
  | [], ts, rest, _ => lex_closeArray ts rest
  | x :: r, ts, rest, h => by
      obtain ⟨hx, hi⟩ := (Bool.and_eq_true _ _).mp h
      rw [writeItems, lex_comma, lex_writeValue x _ _ hx (closes_writeItems r rest),
        lex_writeItems r _ _ hi]
      simp [trees, Source.spellItems]

theorem lex_writeMembers : ∀ (ms : List (String × Json)) (ts : List Token) (rest : List Char),
    membersAreExact ms = true →
    lex (.between, ts) (ofChars (writeMembers ms ('\x7d' :: rest)))
      = lex (.between, (Source.spellMembers (memberTrees ms)).reverse ++ ts) (ofChars rest)
  | [], ts, rest, _ => lex_closeObject ts rest
  | (k, x) :: r, ts, rest, h => by
      obtain ⟨hx, hm⟩ := (Bool.and_eq_true _ _).mp h
      rw [writeMembers, lex_comma, lex_writeText, lex_colon,
        lex_writeValue x _ _ hx (closes_writeMembers r rest), lex_writeMembers r _ _ hm]
      simp [memberTrees, Source.spellMembers]

end

/-- A document is read back as the tree of the value that was written. -/
theorem read?_write {x : Json} (h : isExact x = true) :
    Source.read? (Bytes.ofText x.write) = some (tree x) := by
  have htokens : tokens? (Bytes.ofText x.write) = some (tree x).spell := by
    -- at the top nothing follows, which closes a value as well
    rw [write, Bytes.ofText_ofList, tokens?_eq_lex, lex_writeValue x [] [] h closes_nil]
    simp [lex, finish]
  rw [Source.read?, htokens, Option.bind_some, Source.ofTokens?_spell]

end Conclave.Json
