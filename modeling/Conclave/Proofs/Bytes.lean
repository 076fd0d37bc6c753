import Conclave.Bytes

/-!
# The bytes of characters

`Bytes.ofText` goes over the characters of a text one by one (`ofText_eq`). A character of ASCII is
one byte with its number, and the bytes of any other one lie beyond ASCII. Nothing has to be
repaired in the bytes of a text (`repaired_ofText`).
-/

namespace Conclave.Bytes

/-- The UTF-8 bytes of a list of characters. -/
def ofChars (cs : List Char) : Bytes := cs.flatMap String.utf8EncodeChar

theorem ofText_ofList (cs : List Char) : ofText (String.ofList cs) = ofChars cs := by
  rw [ofText, String.toByteArray_ofList, List.utf8Encode, ofChars]
  simp

theorem ofText_eq (s : String) : ofText s = ofChars s.toList := by
  rw [← ofText_ofList, String.ofList_toList]

@[simp] theorem ofChars_nil : ofChars [] = [] := rfl

theorem ofChars_cons (c : Char) (cs : List Char) :
    ofChars (c :: cs) = String.utf8EncodeChar c ++ ofChars cs := rfl

theorem ofChars_cons_of_ascii {c : Char} (h : c.toNat < 128) (cs : List Char) :
    ofChars (c :: cs) = UInt8.ofNat c.toNat :: ofChars cs := by
  have hle : c.val.toNat ≤ 0x7f := by
    have : c.val.toNat = c.toNat := rfl
    omega
  rw [ofChars_cons, String.utf8EncodeChar]
  simp only [hle, if_true]
  rfl

/-- The bytes of a character beyond ASCII lie beyond ASCII. -/
theorem le_of_mem_utf8EncodeChar {c : Char} (h : 128 ≤ c.toNat) {b : UInt8}
    (hb : b ∈ String.utf8EncodeChar c) : 128 ≤ b.toNat := by
  have hgt : ¬ c.val.toNat ≤ 0x7f := by
    have : c.val.toNat = c.toNat := rfl
    omega
  unfold String.utf8EncodeChar at hb
  simp only [hgt, if_false] at hb
  split at hb
  · simp only [List.mem_cons, List.not_mem_nil, or_false] at hb
    rcases hb with rfl | rfl <;> rw [UInt8.toNat_ofNat'] <;> omega
  · split at hb
    · simp only [List.mem_cons, List.not_mem_nil, or_false] at hb
      rcases hb with rfl | rfl | rfl <;> rw [UInt8.toNat_ofNat'] <;> omega
    · simp only [List.mem_cons, List.not_mem_nil, or_false] at hb
      rcases hb with rfl | rfl | rfl | rfl <;> rw [UInt8.toNat_ofNat'] <;> omega

/-! ## Reading characters back -/

theorem continuation_append {count : Nat} {least most second : UInt8} {rest : Bytes} (r : Bytes)
    (hsecond : least ≤ second ∧ second ≤ most) (hcount : rest.length + 1 = count)
    (hrest : ∀ x ∈ rest, 0x80 ≤ x ∧ x ≤ 0xbf) :
    continuation count least most (second :: (rest ++ r)) = second :: rest := by
  have hall : ∀ x ∈ rest, (decide (0x80 ≤ x) && decide (x ≤ 0xbf)) = true := by
    intro x hx
    simpa using hrest x hx
  have hlength : count - 1 = rest.length := by omega
  rw [continuation, if_pos hsecond, List.takeWhile_append_of_pos hall, hlength,
    List.take_left]

theorem ofNat_le_ofNat {m n : Nat} (hmn : m ≤ n) (h : n < 256) :
    UInt8.ofNat m ≤ UInt8.ofNat n := by
  rwa [UInt8.le_iff_toNat_le, UInt8.toNat_ofNat_of_lt' (Nat.lt_of_le_of_lt hmn h),
    UInt8.toNat_ofNat_of_lt' h]

theorem following?_one : ∀ n, n < 0xe0 → 0xc2 ≤ n →
    following? (UInt8.ofNat n) = some (1, 0x80, 0xbf) := by
  decide +kernel

theorem following?_two : ∀ n, n < 0xf0 → 0xe1 ≤ n →
    n = 0xed ∨ following? (UInt8.ofNat n) = some (2, 0x80, 0xbf) := by
  decide +kernel

theorem following?_three : ∀ n, n < 0xf4 → 0xf1 ≤ n →
    following? (UInt8.ofNat n) = some (3, 0x80, 0xbf) := by
  decide +kernel

/-- Whether a byte may be the first of a character, with so many bytes after it and this one next
to it. -/
def MayLead (n count k : Nat) : Prop :=
  ∃ least most, following? (UInt8.ofNat n) = some (count, UInt8.ofNat least, UInt8.ofNat most)
    ∧ least ≤ k ∧ k ≤ most ∧ most < 256

theorem mayLead_two {n k : Nat} (hn : 0xe0 ≤ n ∧ n ≤ 0xef) (hk : 0x80 ≤ k ∧ k ≤ 0xbf)
    (hleast : n = 0xe0 → 0xa0 ≤ k) (hmost : n = 0xed → k ≤ 0x9f) : MayLead n 2 k := by
  by_cases hfirst : n = 0xe0
  · exact ⟨0xa0, 0xbf, by rw [hfirst]; rfl, hleast hfirst, hk.2, by decide⟩
  · by_cases hsurrogate : n = 0xed
    · exact ⟨0x80, 0x9f, by rw [hsurrogate]; rfl, hk.1, hmost hsurrogate, by decide⟩
    · have hfollowing := (following?_two n (by omega) (by omega)).resolve_left hsurrogate
      exact ⟨0x80, 0xbf, hfollowing, hk.1, hk.2, by decide⟩

theorem mayLead_three {n k : Nat} (hn : 0xf0 ≤ n ∧ n ≤ 0xf4) (hk : 0x80 ≤ k ∧ k ≤ 0xbf)
    (hleast : n = 0xf0 → 0x90 ≤ k) (hmost : n = 0xf4 → k ≤ 0x8f) : MayLead n 3 k := by
  by_cases hfirst : n = 0xf0
  · exact ⟨0x90, 0xbf, by rw [hfirst]; rfl, hleast hfirst, hk.2, by decide⟩
  · by_cases hlast : n = 0xf4
    · exact ⟨0x80, 0x8f, by rw [hlast]; rfl, hk.1, hmost hlast, by decide⟩
    · exact ⟨0x80, 0xbf, following?_three n (by omega) (by omega), hk.1, hk.2, by decide⟩

theorem codePoint_ofNat {n : Nat} (ks : List Nat) (hn : n < 256) (hks : ∀ k ∈ ks, k < 256) :
    codePoint (UInt8.ofNat n) (ks.map UInt8.ofNat) =
      ks.foldl (fun m k => 64 * m + k % 64) (n % twoTo (6 - ks.length)) := by
  rw [codePoint, UInt8.toNat_ofNat_of_lt' hn, List.length_map]
  generalize n % twoTo (6 - ks.length) = m
  induction ks generalizing m with
  | nil => rfl
  | cons k ks ih =>
      rw [List.map_cons, List.foldl_cons, List.foldl_cons,
        UInt8.toNat_ofNat_of_lt' (hks k (List.mem_cons_self ..))]
      exact ih (fun x hx => hks x (List.mem_cons_of_mem _ hx)) _

/-- A first byte and as many bytes as have to follow it are one character. -/
theorem repairedChars_lead {n k : Nat} (ks : List Nat) (r : Bytes) (hn : 0x80 ≤ n ∧ n < 256)
    (h : MayLead n (ks.length + 1) k) (hks : ∀ x ∈ ks, 0x80 ≤ x ∧ x ≤ 0xbf) :
    repairedChars (UInt8.ofNat n :: UInt8.ofNat k :: (ks.map UInt8.ofNat ++ r)) =
      Char.ofNat ((k :: ks).foldl (fun m x => 64 * m + x % 64) (n % twoTo (6 - (ks.length + 1))))
        :: repairedChars r := by
  obtain ⟨least, most, hfollowing, hleast, hmost, hbyte⟩ := h
  have hbeyond : ¬ UInt8.ofNat n < 0x80 := by
    rw [UInt8.lt_iff_toNat_lt, UInt8.toNat_ofNat_of_lt' hn.2]
    exact Nat.not_lt.mpr hn.1
  have hrest : ∀ x ∈ ks.map UInt8.ofNat, 0x80 ≤ x ∧ x ≤ 0xbf := by
    intro x hx
    obtain ⟨y, hy, rfl⟩ := List.mem_map.mp hx
    have hrange := hks y hy
    exact ⟨ofNat_le_ofNat hrange.1 (by omega), ofNat_le_ofNat hrange.2 (by decide)⟩
  have hall := continuation_append r
    ⟨ofNat_le_ofNat hleast (by omega), ofNat_le_ofNat hmost hbyte⟩
    (congrArg (· + 1) (List.length_map UInt8.ofNat)) hrest
  have hpoint := codePoint_ofNat (k :: ks) hn.2 (by
    intro x hx
    cases List.mem_cons.mp hx with
    | inl hfirst => omega
    | inr hmem =>
        have := hks x hmem
        omega)
  rw [List.map_cons] at hpoint
  rw [repairedChars, if_neg hbeyond, hfollowing]
  simp only [hall, List.length_cons, List.length_map, if_true, hpoint]
  rw [List.drop_succ_cons, List.drop_left' (List.length_map _)]

/-- The bytes of a character are read back as the character. -/
theorem repairedChars_utf8EncodeChar (c : Char) (r : Bytes) :
    repairedChars (String.utf8EncodeChar c ++ r) = c :: repairedChars r := by
  have hvalid : c.val.toNat < 0xd800 ∨ 0xdfff < c.val.toNat ∧ c.val.toNat < 0x110000 := c.valid
  have hc : Char.ofNat c.val.toNat = c := Char.ofNat_toNat c
  unfold String.utf8EncodeChar
  generalize c.val.toNat = v at *
  dsimp only
  -- One case for each number of bytes; the second byte of the longer forms is bounded by `hvalid`.
  split
  · rename_i h
    have hv := UInt8.toNat_ofNat_of_lt' (show v < 256 by omega)
    have hascii : UInt8.ofNat v < 0x80 := by
      rw [UInt8.lt_iff_toNat_lt, hv]
      exact Nat.lt_succ_of_le h
    rw [List.singleton_append, repairedChars, if_pos hascii, hv, hc]
  · split
    · have hlead : MayLead (v / 64 % 32 + 192) 1 (v % 64 + 128) :=
        ⟨0x80, 0xbf, following?_one _ (by omega) (by omega), by omega, by omega, by decide⟩
      refine (repairedChars_lead [] r (by omega) hlead (by simp)).trans ?_
      have hpoint : 64 * ((v / 64 % 32 + 192) % 32) + (v % 64 + 128) % 64 = v := by omega
      exact congrArg (· :: repairedChars r) ((congrArg Char.ofNat hpoint).trans hc)
    · split
      · have hlead : MayLead (v / 4096 % 16 + 224) 2 (v / 64 % 64 + 128) :=
          mayLead_two (by omega) (by omega) (by omega) (by omega)
        refine (repairedChars_lead [v % 64 + 128] r (by omega) hlead
          (by simp; omega)).trans ?_
        have hpoint : 64 * (64 * ((v / 4096 % 16 + 224) % 16) + (v / 64 % 64 + 128) % 64)
            + (v % 64 + 128) % 64 = v := by omega
        exact congrArg (· :: repairedChars r) ((congrArg Char.ofNat hpoint).trans hc)
      · have hlead : MayLead (v / 262144 % 8 + 240) 3 (v / 4096 % 64 + 128) :=
          mayLead_three (by omega) (by omega) (by omega) (by omega)
        refine (repairedChars_lead [v / 64 % 64 + 128, v % 64 + 128] r (by omega) hlead
          (by simp; omega)).trans ?_
        have hpoint : 64 * (64 * (64 * ((v / 262144 % 8 + 240) % 8) + (v / 4096 % 64 + 128) % 64)
            + (v / 64 % 64 + 128) % 64) + (v % 64 + 128) % 64 = v := by omega
        exact congrArg (· :: repairedChars r) ((congrArg Char.ofNat hpoint).trans hc)

theorem repairedChars_ofChars (cs : List Char) : repairedChars (ofChars cs) = cs := by
  induction cs with
  | nil => simp [repairedChars]
  | cons c r ih => rw [ofChars_cons, repairedChars_utf8EncodeChar, ih]

/-- Nothing is repaired in the bytes of a text. -/
theorem repaired_ofChars (cs : List Char) : repaired (ofChars cs) = String.ofList cs := by
  rw [repaired, repairedChars_ofChars]

end Conclave.Bytes
