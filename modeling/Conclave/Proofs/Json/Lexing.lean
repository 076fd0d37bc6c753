import Conclave.Json.Writer
import Conclave.Proofs.Bytes
import Conclave.Proofs.Text
import Mathlib.Data.List.TakeWhile

/-!
# The tokens of written numbers, words and texts

The reader of tokens goes over the bytes of a document from the left, so it is followed from one
place to the next (`lex`). A written text leads from between two tokens to between two tokens
(`lex_writeText`), and so do a word and a number in front of something that closes them
(`lex_word`, `lex_writeInt`).
-/

namespace Conclave.Json

open Bytes (ofChars)
open Text (IsDigit head?_toDigits_ne_zero hexValue?_digitChar isDigit_of_mem_toDigits
  toDigits_ne_minus toNat_digitChar_lt)

/-- The tokens that the reader finds from a place on, the last one first. -/
def lex (p : Place × List Token) (b : Bytes) : Option (List Token) := (b.foldlM step p).bind finish

theorem tokens?_eq_lex (b : Bytes) : tokens? b = (lex (.between, []) b).map List.reverse := rfl

theorem lex_cons (p : Place × List Token) (b : UInt8) (r : Bytes) :
    lex p (b :: r) = (step p b).bind fun q => lex q r := by
  rw [lex, List.foldlM_cons]
  cases h : step p b <;> simp [lex]

def byteOf (c : Char) : UInt8 := UInt8.ofNat c.toNat

theorem char_byteOf {c : Char} (h : c.toNat < 128) : char (byteOf c) = c := by
  have hmod : c.toNat % 256 = c.toNat := Nat.mod_eq_of_lt (by omega)
  rw [char, byteOf, UInt8.toNat_ofNat', show 2 ^ 8 = 256 from rfl, hmod, Char.ofNat_toNat]

theorem lex_char {p q : Place × List Token} {c : Char} (h : c.toNat < 128)
    (hs : step p (byteOf c) = some q) (cs : List Char) :
    lex p (ofChars (c :: cs)) = lex q (ofChars cs) := by
  rw [Bytes.ofChars_cons_of_ascii h, lex_cons]
  change (step p (byteOf c)).bind _ = _
  rw [hs, Option.bind_some]

/-! ## Words and numbers -/

/-- What can follow a value in a compact document: nothing, a comma, or a closing bracket. -/
def Closes (cs : List Char) : Prop := ∀ c r, cs = c :: r → c = ',' ∨ c = ']' ∨ c = '\x7d'

theorem closes_nil : Closes [] := by
  intro c r h
  cases h

/-- Two places agree on what can follow a value if they agree on what closes one. -/
theorem lex_closes {p q : Place × List Token} (hend : finish p = finish q)
    (hstep : ∀ c, c = ',' ∨ c = ']' ∨ c = '\x7d' → step p (byteOf c) = step q (byteOf c))
    {rest : List Char} (hr : Closes rest) : lex p (ofChars rest) = lex q (ofChars rest) := by
  cases rest with
  | nil => simpa [lex] using hend
  | cons c r =>
      have hc := hr c r rfl
      have hascii : c.toNat < 128 := by
        rcases hc with rfl | rfl | rfl <;> decide
      rw [Bytes.ofChars_cons_of_ascii hascii, lex_cons, lex_cons]
      exact congrArg (fun x => Option.bind x fun q => lex q (ofChars r)) (hstep c hc)

theorem lex_word {w : List Char} {t : Token} (hw : wordToken? w.reverse = some t)
    (ts : List Token) {rest : List Char} (hr : Closes rest) :
    lex (.word w, ts) (ofChars rest) = lex (.between, t :: ts) (ofChars rest) := by
  refine lex_closes (by simp [finish, hw]) (fun c hc => ?_) hr
  have hchar : isWordChar (char (byteOf c)) = false := by
    rcases hc with rfl | rfl | rfl <;> decide
  simp only [step, hchar, hw, Option.bind_some, Bool.false_eq_true, if_false]

theorem lex_numberEnd {read : List Char} {x : Lexeme} (hx : Lexeme.ofChars? read.reverse = some x)
    (ts : List Token) {rest : List Char} (hr : Closes rest) :
    lex (.number read, ts) (ofChars rest) = lex (.between, .number x :: ts) (ofChars rest) := by
  refine lex_closes (by simp [finish, hx]) (fun c hc => ?_) hr
  have hchar : isNumberChar (char (byteOf c)) = false := by
    rcases hc with rfl | rfl | rfl <;> decide
  simp only [step, hchar, hx, Option.bind_some, Bool.false_eq_true, if_false]

theorem lex_digits (ts : List Token) : ∀ (ds read rest : List Char), (∀ c ∈ ds, IsDigit c) →
    lex (.number read, ts) (ofChars (ds ++ rest))
      = lex (.number (ds.reverse ++ read), ts) (ofChars rest)
  | [], _, _, _ => rfl
  | c :: ds, read, rest, h => by
      have hc : IsDigit c := h c (List.mem_cons_self ..)
      have hascii : c.toNat < 128 := by have := hc.range; omega
      have hnum : isNumberChar c = true := by
        simp [isNumberChar, show (Text.digit? c).isSome = true from hc]
      have hs : step (.number read, ts) (byteOf c) = some (.number (c :: read), ts) := by
        simp only [step, char_byteOf hascii, hnum, if_true]
      rw [List.cons_append, lex_char hascii hs,
        lex_digits ts ds (c :: read) rest fun d hd => h d (List.mem_cons_of_mem _ hd),
        List.reverse_cons, List.append_assoc, List.singleton_append]

theorem step_between_of_isDigit (ts : List Token) {c : Char} (h : IsDigit c) :
    step (.between, ts) (byteOf c) = some (.number [c], ts) := by
  have hr := h.range
  have hascii : c.toNat < 128 := by omega
  simp only [step, start, char_byteOf hascii]
  split
  all_goals first
    | (exfalso; revert hr; decide)
    | skip
  rw [show (Text.digit? c).isSome = true from h]
  rfl

def Lexeme.ofInt (n : Int) : Lexeme := ⟨decide (n < 0), Nat.toDigits 10 n.natAbs, none, none⟩

theorem spanDigits_toDigits (n : Nat) :
    spanDigits (Nat.toDigits 10 n) = (Nat.toDigits 10 n, []) := by
  have h : ∀ c ∈ Nat.toDigits 10 n, (Text.digit? c).isSome = true :=
    fun c hc => isDigit_of_mem_toDigits hc
  rw [spanDigits, List.takeWhile_eq_self_iff.mpr h, List.dropWhile_eq_nil_iff.mpr h]

/-- There is no digit too few in a written number, and no zero too many. -/
theorem toDigits_unpadded (n : Nat) : ¬ (Nat.toDigits 10 n = [] ∨
    ((Nat.toDigits 10 n).head? = some '0' ∧ (Nat.toDigits 10 n).length ≠ 1)) := by
  rintro (hnil | ⟨hhead, hlen⟩)
  · exact Nat.toDigits_ne_nil hnil
  · cases n with
    | zero => exact hlen rfl
    | succ n => exact head?_toDigits_ne_zero (Nat.succ_pos n) hhead

theorem ofChars?_writeInt (n : Int) :
    Lexeme.ofChars? (writeInt n []) = some (Lexeme.ofInt n) := by
  cases n with
  | ofNat n =>
      have hwrite : writeInt (Int.ofNat n) [] = Nat.toDigits 10 n := List.append_nil _
      have hform : Lexeme.ofInt (Int.ofNat n) = ⟨false, Nat.toDigits 10 n, none, none⟩ := by
        have : ¬ ((n : Int) < 0) := by omega
        simp [Lexeme.ofInt, this]
      obtain ⟨c, r, hcr⟩ := List.exists_cons_of_ne_nil (Nat.toDigits_ne_nil (n := n) (b := 10))
      have hc : c ≠ '-' := fun h => toDigits_ne_minus n r (h ▸ hcr)
      have hspan := spanDigits_toDigits n
      have hz := toDigits_unpadded n
      rw [hwrite, hform]
      rw [hcr] at hspan hz ⊢
      unfold Lexeme.ofChars?
      split
      rename_i heq
      split at heq
      · rename_i heq2
        cases heq2
        exact absurd rfl hc
      · cases heq
        simp only [hspan, hz]
        rfl
  | negSucc n =>
      have hwrite : writeInt (Int.negSucc n) [] = '-' :: Nat.toDigits 10 (n + 1) := by
        simp [writeInt]
      have hform : Lexeme.ofInt (Int.negSucc n)
          = ⟨true, Nat.toDigits 10 (n + 1), none, none⟩ := by
        simp [Lexeme.ofInt, Int.negSucc_lt_zero]
      rw [hwrite, hform]
      simp only [Lexeme.ofChars?, spanDigits_toDigits, toDigits_unpadded]
      rfl

theorem lex_minus (ts : List Token) (cs : List Char) :
    lex (.between, ts) (ofChars ('-' :: cs)) = lex (.number ['-'], ts) (ofChars cs) :=
  lex_char (by decide) rfl cs

/-- A whole number is read as its lexeme. -/
theorem lex_writeInt (n : Int) (ts : List Token) {rest : List Char} (hr : Closes rest) :
    lex (.between, ts) (ofChars (writeInt n rest))
      = lex (.between, .number (Lexeme.ofInt n) :: ts) (ofChars rest) := by
  have hread := ofChars?_writeInt n
  cases n with
  | ofNat n =>
      have hdigits : ∀ c ∈ Nat.toDigits 10 n, IsDigit c := fun c hc => isDigit_of_mem_toDigits hc
      obtain ⟨c, r, hcr⟩ := List.exists_cons_of_ne_nil (Nat.toDigits_ne_nil (n := n) (b := 10))
      rw [writeInt, hcr] at hread ⊢
      rw [hcr] at hdigits
      have hc : IsDigit c := hdigits c (List.mem_cons_self ..)
      have hascii : c.toNat < 128 := by have := hc.range; omega
      rw [List.cons_append, lex_char hascii (step_between_of_isDigit ts hc),
        lex_digits ts r [c] rest fun d hd => hdigits d (List.mem_cons_of_mem _ hd)]
      refine lex_numberEnd ?_ ts hr
      rw [← hread]
      simp
  | negSucc n =>
      have hdigits : ∀ c ∈ Nat.toDigits 10 (n + 1), IsDigit c :=
        fun c hc => isDigit_of_mem_toDigits hc
      rw [writeInt] at hread ⊢
      rw [lex_minus, lex_digits ts _ ['-'] rest hdigits]
      refine lex_numberEnd ?_ ts hr
      rw [← hread]
      simp

/-! ## Texts -/

/-- The parts that the reader finds in a written character: the character's bytes, or the unit of a
control character without an escape of its own. -/
def pieces (c : Char) : List Piece :=
  if c.toNat < 0x20 ∧ c ∉ ['\n', '\r', '\t', '\x08', '\x0c'] then [.unit c.toNat]
  else (String.utf8EncodeChar c).map .byte

theorem contentBytes?_bytes (bs : Bytes) (r : List Piece) :
    contentBytes? (bs.map .byte ++ r) = (contentBytes? r).map (bs ++ ·) := by
  induction bs with
  | nil => cases h : contentBytes? r <;> simp [h]
  | cons b bs ih =>
      rw [List.map_cons, List.cons_append, contentBytes?, ih, Option.map_map]
      rfl

theorem contentBytes?_unit {n : Nat} (h : n < 0xd800) (r : List Piece) :
    contentBytes? (.unit n :: r) = (contentBytes? r).map (codePointBytes n ++ ·) := by
  have hlow : ¬ (0xd800 ≤ n ∧ n < 0xdc00) := by omega
  have hsur : ¬ (0xdc00 ≤ n ∧ n < 0xe000) := by omega
  have hall : ¬ (0xd800 ≤ n ∧ n < 0xe000) := by omega
  cases r with
  | nil => simp [contentBytes?, hall]
  | cons p r =>
      cases p with
      | byte b => simp [contentBytes?, hall]
      | unit l => rw [contentBytes?, if_neg hlow, if_neg hsur]

theorem contentBytes?_pieces (c : Char) (r : List Piece) :
    contentBytes? (pieces c ++ r) = (contentBytes? r).map (String.utf8EncodeChar c ++ ·) := by
  unfold pieces
  split
  · rename_i h
    have hone : codePointBytes c.toNat = String.utf8EncodeChar c := by
      rw [codePointBytes, Char.ofNat_toNat, Bytes.ofText_eq]
      simp [Bytes.ofChars]
    rw [List.singleton_append, contentBytes?_unit (by omega), hone]
  · exact contentBytes?_bytes _ r

theorem content?_pieces (cs : List Char) :
    content? (cs.flatMap pieces) = some (String.ofList cs) := by
  have h : contentBytes? (cs.flatMap pieces) = some (ofChars cs) := by
    induction cs with
    | nil => rfl
    | cons c cs ih =>
        rw [List.flatMap_cons, contentBytes?_pieces, ih, Option.map_some, Bytes.ofChars_cons]
  rw [content?, h, Option.bind_some, ← Bytes.ofText_ofList, Bytes.text?_ofText]

def IsPlain (b : UInt8) : Prop := char b ≠ '"' ∧ char b ≠ '\\' ∧ ¬ b < 0x20

theorem isPlain_byteOf {c : Char} (hc : c.toNat < 128) (hlow : 0x20 ≤ c.toNat) (hquote : c ≠ '"')
    (hslash : c ≠ '\\') : IsPlain (byteOf c) := by
  refine ⟨by rwa [char_byteOf hc], by rwa [char_byteOf hc], ?_⟩
  have hval : (byteOf c).toNat = c.toNat := by
    rw [byteOf, UInt8.toNat_ofNat']
    omega
  rw [UInt8.lt_iff_toNat_lt, hval]
  exact Nat.not_lt.mpr hlow

/-- Every byte beyond ASCII stands for itself. -/
theorem isPlain_of_le {b : UInt8} (h : 128 ≤ b.toNat) : IsPlain b := by
  have hlt : b.toNat < 256 := b.toNat_lt
  have hvalid : b.toNat.isValidChar := .inl (by omega)
  have hchar : (char b).toNat = b.toNat := by
    rw [char, Char.ofNat, dif_pos hvalid]
    rfl
  have hother : ∀ c : Char, c.toNat < 128 → char b ≠ c := by
    intro c hc hb
    rw [hb] at hchar
    omega
  refine ⟨hother '"' (by decide), hother '\\' (by decide), ?_⟩
  rw [UInt8.lt_iff_toNat_lt]
  exact Nat.not_lt.mpr (Nat.le_trans (by decide) h)

theorem isPlain_of_mem_utf8EncodeChar {c : Char} (hlow : 0x20 ≤ c.toNat) (hquote : c ≠ '"')
    (hslash : c ≠ '\\') {b : UInt8} (hb : b ∈ String.utf8EncodeChar c) : IsPlain b := by
  by_cases hc : c.toNat < 128
  · have hbytes : String.utf8EncodeChar c = [byteOf c] := by
      have h := Bytes.ofChars_cons_of_ascii hc []
      rwa [Bytes.ofChars_cons, Bytes.ofChars_nil, List.append_nil] at h
    rw [hbytes, List.mem_singleton] at hb
    rw [hb]
    exact isPlain_byteOf hc hlow hquote hslash
  · exact isPlain_of_le (Bytes.le_of_mem_utf8EncodeChar (by omega) hb)

theorem lex_plain (ts : List Token) : ∀ (bs : Bytes) (ps : List Piece) (r : Bytes),
    (∀ b ∈ bs, IsPlain b) →
    lex (.text ps, ts) (bs ++ r) = lex (.text ((bs.map .byte).reverse ++ ps), ts) r
  | [], _, _, _ => rfl
  | b :: bs, ps, r, h => by
      obtain ⟨hquote, hslash, hlow⟩ := h b (List.mem_cons_self ..)
      have hs : step (.text ps, ts) b = some (.text (.byte b :: ps), ts) := by
        simp only [step, hquote, hslash, hlow, if_false]
      rw [List.cons_append, lex_cons, hs, Option.bind_some,
        lex_plain ts bs _ r fun d hd => h d (List.mem_cons_of_mem _ hd), List.map_cons,
        List.reverse_cons, List.append_assoc, List.singleton_append]

theorem lex_escape {e : Char} {x : UInt8} (he : e.toNat < 128) (hu : e ≠ 'u')
    (hx : escaped? e = some x) (ps : List Piece) (ts : List Token) (rest : List Char) :
    lex (.text ps, ts) (ofChars ('\\' :: e :: rest))
      = lex (.text (.byte x :: ps), ts) (ofChars rest) := by
  have hslash : step (.text ps, ts) (byteOf '\\') = some (.escape ps, ts) := rfl
  have hs : step (.escape ps, ts) (byteOf e) = some (.text (.byte x :: ps), ts) := by
    simp only [step, char_byteOf he, hu, hx, if_false, Option.map_some]
  rw [lex_char (by decide) hslash, lex_char he hs]

theorem lex_hexDigit {n : Nat} (hn : n < 16) (ps : List Piece) (left value : Nat)
    (ts : List Token) (rest : List Char) :
    lex (.hex ps left value, ts) (ofChars (Nat.digitChar n :: rest))
      = lex (if left = 1 then .text (.unit (16 * value + n) :: ps)
          else .hex ps (left - 1) (16 * value + n), ts) (ofChars rest) := by
  refine lex_char (toNat_digitChar_lt n hn) ?_ rest
  simp only [step, char_byteOf (toNat_digitChar_lt n hn), hexValue?_digitChar n hn,
    Option.map_some]

theorem lex_unit {n : Nat} (hn : n < 0x20) (ps : List Piece) (ts : List Token)
    (rest : List Char) :
    lex (.text ps, ts) (ofChars ('\\' :: 'u' :: '0' :: '0' :: Nat.digitChar (n / 16)
        :: Nat.digitChar (n % 16) :: rest))
      = lex (.text (.unit n :: ps), ts) (ofChars rest) := by
  have hslash : step (.text ps, ts) (byteOf '\\') = some (.escape ps, ts) := rfl
  have hu : step (.escape ps, ts) (byteOf 'u') = some (.hex ps 4 0, ts) := rfl
  have hzero : '0' = Nat.digitChar 0 := rfl
  have hvalue : 16 * (16 * (16 * (16 * 0 + 0) + 0) + n / 16) + n % 16 = n := by omega
  rw [lex_char (by decide) hslash, lex_char (by decide) hu, hzero, lex_hexDigit (by decide),
    if_neg (by decide), lex_hexDigit (by decide), if_neg (by decide), lex_hexDigit (by omega),
    if_neg (by decide), lex_hexDigit (by omega), if_pos rfl, hvalue]

/-- A written character is read as its parts. -/
theorem lex_escapeChar (c : Char) (ps : List Piece) (ts : List Token) (rest : List Char) :
    lex (.text ps, ts) (ofChars (escapeChar c rest))
      = lex (.text ((pieces c).reverse ++ ps), ts) (ofChars rest) := by
  unfold escapeChar
  split
  · exact lex_escape (by decide) (by decide) rfl ps ts rest
  · exact lex_escape (by decide) (by decide) rfl ps ts rest
  · exact lex_escape (by decide) (by decide) rfl ps ts rest
  · exact lex_escape (by decide) (by decide) rfl ps ts rest
  · exact lex_escape (by decide) (by decide) rfl ps ts rest
  · rename_i hquote hslash hline hreturn htab
    split
    · rename_i hc
      subst hc
      exact lex_escape (by decide) (by decide) rfl ps ts rest
    · split
      · rename_i hc
        subst hc
        exact lex_escape (by decide) (by decide) rfl ps ts rest
      · rename_i hback hform
        split
        · rename_i hlow
          have hpieces : pieces c = [.unit c.toNat] := by
            rw [pieces, if_pos]
            simp only [List.mem_cons, List.not_mem_nil, or_false, not_or]
            exact ⟨hlow, hline, hreturn, htab, hback, hform⟩
          rw [hpieces]
          exact lex_unit hlow ps ts rest
        · rename_i hlow
          have hpieces : pieces c = (String.utf8EncodeChar c).map .byte := by
            rw [pieces, if_neg]
            exact fun h => hlow h.1
          rw [hpieces, Bytes.ofChars_cons]
          exact lex_plain ts _ ps _ fun b hb =>
            isPlain_of_mem_utf8EncodeChar (Nat.not_lt.mp hlow) hquote hslash hb

theorem lex_writeContent (ts : List Token) : ∀ (cs : List Char) (ps : List Piece)
    (rest : List Char), lex (.text ps, ts) (ofChars (writeContent cs rest))
      = lex (.text ((cs.flatMap pieces).reverse ++ ps), ts) (ofChars ('"' :: rest))
  | [], _, _ => rfl
  | c :: cs, ps, rest => by
      have hwrite : writeContent (c :: cs) rest = escapeChar c (writeContent cs rest) := rfl
      rw [hwrite, lex_escapeChar, lex_writeContent ts cs, List.flatMap_cons, List.reverse_append,
        List.append_assoc]

/-- A written text is read as the text. -/
theorem lex_writeText (s : String) (ts : List Token) (rest : List Char) :
    lex (.between, ts) (ofChars (writeText s rest))
      = lex (.between, .text (some s) :: ts) (ofChars rest) := by
  have hopen : step (.between, ts) (byteOf '"') = some (.text [], ts) := rfl
  have hclose : ∀ ps, step (.text ps, ts) (byteOf '"')
      = some (.between, .text (content? ps.reverse) :: ts) := fun _ => rfl
  rw [writeText, lex_char (by decide) hopen, lex_writeContent, List.append_nil,
    lex_char (by decide) (hclose _), List.reverse_reverse, content?_pieces, String.ofList_toList]

end Conclave.Json
