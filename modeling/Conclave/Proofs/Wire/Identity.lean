import Conclave.Proofs.Text
import Conclave.Wire.MessageId
import Mathlib.Algebra.Group.Nat.Defs

/-!
# Reading written identities

The text of an identity is read back (`MessageId.read?_text`), also where blanks are taken away
first: its digits make up its number, and its hyphens stand where the reader looks for them.
-/

namespace Conclave.Wire.MessageId

/-! ## The digits -/

theorem length_hexDigits (k n : Nat) (rest : List Char) :
    (hexDigits k n rest).length = k + rest.length := by
  induction k generalizing n rest with
  | zero => simp [hexDigits]
  | succ k ih =>
      rw [hexDigits, ih, List.length_cons]
      omega

theorem mem_hexDigits {k n : Nat} {rest : List Char} {c : Char} (h : c ∈ hexDigits k n rest) :
    (∃ d, d < 16 ∧ c = Nat.digitChar d) ∨ c ∈ rest := by
  induction k generalizing n rest with
  | zero => exact .inr h
  | succ k ih =>
      rcases ih h with hd | hrest
      · exact .inl hd
      · rcases List.mem_cons.mp hrest with rfl | hc
        · exact .inl ⟨n % 16, Nat.mod_lt n (by decide), rfl⟩
        · exact .inr hc

/-- Written digits add the lowest part of their number to what was read before. -/
theorem hexFrom_hexDigits (k m n : Nat) (rest : List Char) :
    hexFrom m (hexDigits k n rest) = hexFrom (m * 16 ^ k + n % 16 ^ k) rest := by
  induction k generalizing n rest with
  | zero => simp [hexDigits, Nat.mod_one]
  | succ k ih =>
      have hsum : 16 * (m * 16 ^ k + n / 16 % 16 ^ k) + n % 16
          = m * 16 ^ (k + 1) + n % 16 ^ (k + 1) := by
        rw [Nat.pow_succ, Nat.mul_comm (16 ^ k) 16, Nat.mod_mul, Nat.mul_add]
        have : 16 * (m * 16 ^ k) = m * (16 * 16 ^ k) := Nat.mul_left_comm ..
        omega
      rw [hexDigits, ih, hexFrom, Text.hexValue?_digitChar _ (Nat.mod_lt n (by decide)),
        Option.bind_some, hsum]

theorem exists_of_mem_digits {id : MessageId} {c : Char} (h : c ∈ id.digits) :
    ∃ d, d < 16 ∧ c = Nat.digitChar d := by
  rcases mem_hexDigits h with hd | hnil
  · exact hd
  · cases hnil

theorem length_digits (id : MessageId) : id.digits.length = 32 :=
  length_hexDigits 32 _ []

theorem hexFrom_digits (id : MessageId) : hexFrom 0 id.digits = some id.value.toNat := by
  have hlt : id.value.toNat < 16 ^ 32 := id.value.isLt
  rw [digits, hexFrom_hexDigits, Nat.mod_eq_of_lt hlt, Nat.zero_mul, Nat.zero_add]
  rfl

/-! ## The hyphens -/

theorem unhyphenate_groups {a b c d e : List Char} (ha : a.length = 8) (hb : b.length = 4)
    (hc : c.length = 4) (hd : d.length = 4) (he : e.length = 12) :
    unhyphenate (a ++ '-' :: b ++ '-' :: c ++ '-' :: d ++ '-' :: e)
      = some (a ++ b ++ c ++ d ++ e) := by
  have hhyphens : (a ++ '-' :: b ++ '-' :: c ++ '-' :: d ++ '-' :: e).length = 36
      ∧ [8, 13, 18, 23].all (fun i =>
        (a ++ '-' :: b ++ '-' :: c ++ '-' :: d ++ '-' :: e)[i]? = some '-') = true := by
    simp [List.getElem?_append, List.getElem?_cons, ha, hb, hc, hd, he]
  rw [unhyphenate, if_pos hhyphens]
  simp [List.drop_append, List.drop_eq_nil_of_le, ha, hb, hc, hd]

theorem length_toList_text (id : MessageId) : id.text.toList.length = 36 := by
  simp [text, length_digits]

theorem take_append_drop (i k : Nat) (cs : List Char) :
    (cs.drop i).take k ++ cs.drop (i + k) = cs.drop i := by
  rw [← List.drop_drop, List.take_append_drop]

theorem unhyphenate_text (id : MessageId) : unhyphenate id.text.toList = some id.digits := by
  have hlen := length_digits id
  have hgroups := unhyphenate_groups (a := id.digits.take 8) (b := (id.digits.drop 8).take 4)
    (c := (id.digits.drop 12).take 4) (d := (id.digits.drop 16).take 4) (e := id.digits.drop 20)
    (by simp [hlen]) (by simp [hlen]) (by simp [hlen]) (by simp [hlen]) (by simp [hlen])
  have hjoined : id.digits.take 8 ++ (id.digits.drop 8).take 4 ++ (id.digits.drop 12).take 4
      ++ (id.digits.drop 16).take 4 ++ id.digits.drop 20 = id.digits := by
    rw [List.append_assoc, take_append_drop 16 4, List.append_assoc, take_append_drop 12 4,
      List.append_assoc, take_append_drop 8 4, List.take_append_drop]
  rw [hjoined] at hgroups
  rw [text, String.toList_ofList, hgroups]

/-- The text of an identity holds hyphens and its digits only. -/
theorem mem_text {id : MessageId} {c : Char} (h : c ∈ id.text.toList) :
    c = '-' ∨ c ∈ id.digits := by
  have htake : ∀ i k, c ∈ (id.digits.drop i).take k → c ∈ id.digits :=
    fun _ _ h => List.mem_of_mem_drop (List.mem_of_mem_take h)
  simp only [text, String.toList_ofList, List.append_assoc, List.cons_append, List.mem_append,
    List.mem_cons] at h
  rcases h with h | h | h | h | h | h | h | h | h
  · exact .inr (List.mem_of_mem_take h)
  · exact .inl h
  · exact .inr (htake 8 4 h)
  · exact .inl h
  · exact .inr (htake 12 4 h)
  · exact .inl h
  · exact .inr (htake 16 4 h)
  · exact .inl h
  · exact .inr (List.mem_of_mem_drop h)

theorem isBlank_of_mem_text {id : MessageId} {c : Char} (h : c ∈ id.text.toList) :
    Text.isBlank c = false := by
  rcases mem_text h with rfl | hd
  · rfl
  · obtain ⟨d, hlt, rfl⟩ := exists_of_mem_digits hd
    exact Text.isBlank_digitChar d hlt

theorem ofChars?_text (id : MessageId) : ofChars? id.text.toList = some id := by
  have hlen := length_toList_text id
  have hunwrap : unwrap id.text.toList = id.text.toList := by
    rw [unwrap, if_neg (by omega), if_neg (by omega)]
  rw [ofChars?, if_neg (by omega), hunwrap, unhyphenate_text]
  simp [hexFrom_digits]

@[simp] theorem trim_text (id : MessageId) : Text.trim id.text = id.text :=
  Text.trim_of_forall fun _ hc => isBlank_of_mem_text hc

@[simp] theorem read?_text (id : MessageId) : read? id.text = some id := by
  rw [read?, ← Text.toList_trim, trim_text, ofChars?_text]

end Conclave.Wire.MessageId
