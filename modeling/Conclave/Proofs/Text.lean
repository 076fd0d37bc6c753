import Conclave.Proofs.Outcome
import Conclave.Text.Blank
import Conclave.Text.Number
import Mathlib.Algebra.Group.Nat.Defs
import Mathlib.Data.List.TakeWhile

/-!
# Digits and blanks

Trimming leaves a text without blanks as it is, and so it does with one that was trimmed. No
digit is a blank. The digits of a number begin with no zero and no sign.

`Numeral` is the grammar of the numbers that are read, and `Leaves` says that what stands behind a
text is not taken for a part of it.
-/

namespace Conclave.Text

/-- Nothing is taken from a text without blanks. -/
theorem trimChars_of_forall {cs : List Char} (h : ∀ c ∈ cs, isBlank c = false) :
    trimChars cs = cs := by
  refine trimChars_eq_self (fun c hc => ?_) (fun c hc => ?_)
  · exact h c (List.mem_of_mem_head? hc)
  · exact h c (List.mem_of_mem_getLast? hc)

theorem trim_of_forall {s : String} (h : ∀ c ∈ s.toList, isBlank c = false) : trim s = s := by
  rw [trim, trimChars_of_forall h, String.ofList_toList]

/-- A text that drops its front as long as it is blank begins with no blank. -/
theorem isBlank_head?_dropWhile {cs : List Char} {c : Char}
    (h : (cs.dropWhile isBlank).head? = some c) : isBlank c = false := by
  have hnot := List.head?_dropWhile_not isBlank cs
  rwa [h] at hnot

/-- What is left of a text begins with no blank. -/
theorem isBlank_head?_trimChars {cs : List Char} {c : Char} (h : (trimChars cs).head? = some c) :
    isBlank c = false := by
  obtain ⟨rest, hrest⟩ : trimChars cs <+: cs.dropWhile isBlank := by
    rw [← List.reverse_suffix, trimChars, trimEndChars, List.reverse_reverse]
    exact List.dropWhile_suffix isBlank
  have hfirst : (cs.dropWhile isBlank).head? = some c := by
    rw [← hrest, List.head?_append, h]
    rfl
  exact isBlank_head?_dropWhile hfirst

/-- What is left of a text begins and ends with no blank. -/
theorem trimChars_trimChars (cs : List Char) : trimChars (trimChars cs) = trimChars cs := by
  refine trimChars_eq_self (fun c hc => isBlank_head?_trimChars hc) (fun c hc => ?_)
  rw [trimChars, trimEndChars, List.getLast?_reverse] at hc
  exact isBlank_head?_dropWhile hc

theorem mem_of_mem_trimChars {cs : List Char} {c : Char} (h : c ∈ trimChars cs) : c ∈ cs := by
  rw [trimChars, trimEndChars, List.mem_reverse] at h
  have hdrop := List.mem_reverse.mp ((List.dropWhile_sublist isBlank).mem h)
  exact (List.dropWhile_sublist isBlank).mem hdrop

/-- Blanks around a text count for nothing. -/
theorem trimChars_append_blanks {before after : List Char}
    (hbefore : ∀ c ∈ before, isBlank c = true) (cs : List Char)
    (hafter : ∀ c ∈ after, isBlank c = true) :
    trimChars (before ++ cs ++ after) = trimChars cs := by
  have hend (ds : List Char) : trimEndChars (ds ++ after) = trimEndChars ds := by
    have hreverse : ∀ c ∈ after.reverse, isBlank c = true :=
      fun c hc => hafter c (List.mem_reverse.mp hc)
    rw [trimEndChars, List.reverse_append, List.dropWhile_append_of_pos hreverse, trimEndChars]
  rw [trimChars, List.append_assoc, List.dropWhile_append_of_pos hbefore, List.dropWhile_append,
    trimChars]
  split
  · rename_i hnil
    rw [List.isEmpty_iff.mp hnil, List.dropWhile_eq_nil_iff.mpr hafter]
  · exact hend _

/-- Nothing is left of a text exactly when all of it is blank. -/
theorem trimChars_eq_nil_iff {cs : List Char} :
    trimChars cs = [] ↔ ∀ c ∈ cs, isBlank c = true := by
  rw [trimChars, trimEndChars, List.reverse_eq_nil_iff, List.dropWhile_eq_nil_iff]
  constructor
  · intro h c hc
    rw [← List.takeWhile_append_dropWhile (p := isBlank) (l := cs), List.mem_append] at hc
    cases hc with
    | inl htake => exact List.mem_takeWhile_imp htake
    | inr hdrop => exact h c (List.mem_reverse.mpr hdrop)
  · intro h c hc
    exact h c ((List.dropWhile_sublist isBlank).mem (List.mem_reverse.mp hc))

theorem trim_ne_empty {s : String} {c : Char} (hc : c ∈ s.toList) (h : isBlank c = false) :
    trim s ≠ "" := by
  intro hnil
  have hchars : trimChars s.toList = [] := by rw [← toList_trim, hnil]; rfl
  simpa [h] using trimChars_eq_nil_iff.mp hchars c hc

@[simp] theorem trim_trim (s : String) : trim (trim s) = trim s := by
  rw [trim, toList_trim, trimChars_trimChars, trim]

theorem hexValue?_digitChar : ∀ n, n < 16 → hexValue? (Nat.digitChar n) = some n := by
  decide

theorem isBlank_digitChar : ∀ n, n < 16 → isBlank (Nat.digitChar n) = false := by
  decide

theorem toNat_digitChar_printable :
    ∀ n, n < 16 → 0x20 ≤ (Nat.digitChar n).toNat ∧ (Nat.digitChar n).toNat < 0x7f := by
  decide

theorem toNat_digitChar_lt : ∀ n, n < 16 → (Nat.digitChar n).toNat < 128 := by
  decide

/-! ## Decimal digits -/

def IsDigit (c : Char) : Prop := (digit? c).isSome = true

theorem IsDigit.range {c : Char} (h : IsDigit c) : 48 ≤ c.toNat ∧ c.toNat ≤ 57 := by
  unfold IsDigit digit? at h
  split at h
  · rename_i hc
    exact hc
  · cases h

theorem isDigit_of_mem_toDigits {n : Nat} {c : Char} (h : c ∈ Nat.toDigits 10 n) : IsDigit c := by
  have hd : c.isDigit = true := Nat.isDigit_of_mem_toDigits (by decide) (by decide) h
  have hr : '0' ≤ c ∧ c ≤ '9' := by
    simpa [Char.isDigit, Char.le_def] using hd
  simp [IsDigit, digit?, hr]

/-- A number beyond zero is not written with a zero in front. -/
theorem head?_toDigits_ne_zero {n : Nat} (h : 0 < n) :
    (Nat.toDigits 10 n).head? ≠ some '0' := by
  induction n using Nat.strongRecOn with
  | _ n ih =>
      by_cases hn : n < 10
      · rw [Nat.toDigits_of_lt_base hn, List.head?_cons, ne_eq, Option.some.injEq]
        intro h0
        have hd := digit?_digitChar hn
        rw [h0] at hd
        have : 0 = n := Option.some.inj hd
        omega
      · have hne : Nat.toDigits 10 (n / 10) ≠ [] := Nat.toDigits_ne_nil
        have hq := ih (n / 10) (by omega) (by omega)
        rw [Nat.toDigits_of_base_le (by decide) (by omega), List.head?_append]
        cases hd : (Nat.toDigits 10 (n / 10)).head? with
        | none => exact absurd (List.head?_eq_none_iff.mp hd) hne
        | some c =>
            rw [hd] at hq
            simpa using hq

theorem toDigits_ne_minus (n : Nat) (r : List Char) : Nat.toDigits 10 n ≠ '-' :: r := by
  intro h
  have hd : IsDigit '-' := isDigit_of_mem_toDigits (n := n) (by rw [h]; exact List.mem_cons_self ..)
  have := hd.range
  revert this
  decide

theorem IsDigit.not_isBlank {c : Char} (h : IsDigit c) : isBlank c = false := by
  have := h.range
  simp only [isBlank]
  grind

theorem toList_toString (n : Nat) : (toString n).toList = Nat.toDigits 10 n :=
  Nat.toList_repr ..

@[simp] theorem trim_toString (n : Nat) : trim (toString n) = toString n := by
  refine trim_of_forall fun c hc => ?_
  rw [toList_toString] at hc
  exact (isDigit_of_mem_toDigits hc).not_isBlank

theorem isDigit_of_digit? {c : Char} {d : Nat} (h : digit? c = some d) : IsDigit c := by
  rw [IsDigit, h]
  rfl

/-- A decimal digit is the character of its value. -/
theorem digitChar_of_digit? {c : Char} {d : Nat} (h : digit? c = some d) :
    d < 10 ∧ Nat.digitChar d = c := by
  have hrange := (isDigit_of_digit? h).range
  unfold digit? at h
  split at h
  · have hd : c.toNat - 48 = d := Option.some.inj h
    have hlt : d < 10 := by omega
    refine ⟨hlt, Char.toNat_inj.mp ?_⟩
    rw [Nat.toNat_digitChar_of_lt_ten hlt]
    omega
  · cases h

theorem IsDigit.isHex {c : Char} (h : IsDigit c) : (hexValue? c).isSome = true := by
  obtain ⟨d, hd⟩ := Option.isSome_iff_exists.mp h
  obtain ⟨hlt, rfl⟩ := digitChar_of_digit? hd
  rw [hexValue?_digitChar d (by omega)]
  rfl

theorem exists_digitsFrom {cs : List Char} (h : ∀ c ∈ cs, IsDigit c) (m : Nat) :
    ∃ n, digitsFrom m cs = some n := by
  induction cs generalizing m with
  | nil => exact ⟨m, rfl⟩
  | cons c r ih =>
      obtain ⟨d, hd⟩ := Option.isSome_iff_exists.mp (h c (List.mem_cons_self ..))
      rw [digitsFrom, hd, Option.bind_some]
      exact ih (fun x hx => h x (List.mem_cons_of_mem _ hx)) _

/-- Digits that continue a number beyond zero continue its digits. -/
theorem toDigits_append_of_digitsFrom {m n : Nat} {cs : List Char} (hm : 0 < m)
    (h : digitsFrom m cs = some n) : Nat.toDigits 10 m ++ cs = Nat.toDigits 10 n := by
  induction cs generalizing m with
  | nil =>
      obtain rfl := Option.some.inj h
      rw [List.append_nil]
  | cons c r ih =>
      obtain ⟨d, hd, hrest⟩ := Option.bind_eq_some_iff.mp h
      obtain ⟨hlt, rfl⟩ := digitChar_of_digit? hd
      have hcontinued := Nat.toDigits_append_toDigits (b := 10) (by decide) hm hlt
      rw [Nat.toDigits_of_lt_base hlt] at hcontinued
      rw [← ih (by omega) hrest, ← hcontinued, List.append_assoc, List.singleton_append]

/-- Digits without a zero in front are those that their number is written with. -/
theorem eq_toDigits_of_digitsFrom {n : Nat} {cs : List Char} (hne : cs ≠ [])
    (hzero : cs.head? = some '0' → cs.length = 1) (h : digitsFrom 0 cs = some n) :
    cs = Nat.toDigits 10 n := by
  obtain ⟨c, r, rfl⟩ := List.exists_cons_of_ne_nil hne
  obtain ⟨d, hd, hrest⟩ := Option.bind_eq_some_iff.mp h
  obtain ⟨hlt, rfl⟩ := digitChar_of_digit? hd
  rw [Nat.mul_zero, Nat.zero_add] at hrest
  by_cases hd0 : d = 0
  · subst hd0
    obtain rfl : r = [] := by simpa using hzero rfl
    obtain rfl := Option.some.inj hrest
    rfl
  · rw [← toDigits_append_of_digitsFrom (by omega) hrest, Nat.toDigits_of_lt_base hlt,
      List.singleton_append]

/-! ## Numerals -/

/-- Whether a text is a numeral: at least one decimal digit, and a plus sign before them or not. -/
def Numeral (cs : List Char) (n : Nat) : Prop :=
  ∃ w ds, (cs = w ∨ cs = '+' :: w) ∧ w ≠ [] ∧ List.Forall₂ (fun c d => digit? c = some d) w ds
    ∧ n = ds.foldl (fun m d => 10 * m + d) 0

theorem digitsFrom_eq_some_iff {cs : List Char} {m n : Nat} :
    digitsFrom m cs = some n ↔ ∃ ds, List.Forall₂ (fun c d => digit? c = some d) cs ds
      ∧ n = ds.foldl (fun m d => 10 * m + d) m := by
  induction cs generalizing m with
  | nil => simp [digitsFrom, eq_comm]
  | cons c r ih =>
      rw [digitsFrom, Option.bind_eq_some_iff]
      constructor
      · rintro ⟨d, hd, hr⟩
        obtain ⟨ds, hds, hn⟩ := ih.mp hr
        exact ⟨d :: ds, .cons hd hds, hn⟩
      · rintro ⟨_, hds, hn⟩
        cases hds with
        | cons hd hds => exact ⟨_, hd, ih.mpr ⟨_, hds, hn⟩⟩

theorem lt_of_digitsFrom {cs : List Char} {m n : Nat} (h : digitsFrom m cs = some n) :
    n < (m + 1) * 10 ^ cs.length := by
  induction cs generalizing m with
  | nil =>
      obtain rfl := Option.some.inj h
      simp
  | cons c r ih =>
      obtain ⟨d, hd, hr⟩ := Option.bind_eq_some_iff.mp h
      have hdigit := (digitChar_of_digit? hd).1
      have hscale : (10 * m + d + 1) * 10 ^ r.length ≤ (m + 1) * 10 * 10 ^ r.length :=
        Nat.mul_le_mul_right _ (by omega)
      rw [List.length_cons, Nat.pow_succ', ← Nat.mul_assoc]
      exact Nat.lt_of_lt_of_le (ih hr) hscale

theorem digits?_eq_some_iff {cs : List Char} {n : Nat} :
    digits? cs = some n ↔ cs ≠ [] ∧ digitsFrom 0 cs = some n := by
  cases cs with
  | nil => simp [digits?]
  | cons c r => simp [digits?]

/-- A number is read from a text exactly when the text is a numeral for it. -/
theorem natChars?_eq_some_iff {bound n : Nat} {cs : List Char} :
    natChars? bound cs = some n ↔ Numeral cs n ∧ n < bound := by
  have hdigits (w : List Char) : digits? w = some n ↔ w ≠ [] ∧ ∃ ds,
      List.Forall₂ (fun c d => digit? c = some d) w ds
        ∧ n = ds.foldl (fun m d => 10 * m + d) 0 := by
    rw [digits?_eq_some_iff, digitsFrom_eq_some_iff]
  have hread : digits? (dropPlus cs) = some n ↔ Numeral cs n := by
    rw [hdigits]
    constructor
    · rintro ⟨hne, ds, hds, hn⟩
      refine ⟨dropPlus cs, ds, ?_, hne, hds, hn⟩
      unfold dropPlus
      split
      · exact .inr rfl
      · exact .inl rfl
    · rintro ⟨w, ds, rfl | rfl, hne, hds, hn⟩
      · have hplus : dropPlus cs = cs := by
          unfold dropPlus
          split
          · cases hds with
            | cons hd _ => cases hd
          · rfl
        rw [hplus]
        exact ⟨hne, ds, hds, hn⟩
      · exact ⟨hne, ds, hds, hn⟩
  rw [natChars?, Option.filter_eq_some_iff, decide_eq_true_eq, hread]

/-- A number is written as a numeral. -/
theorem numeral_toDigits (n : Nat) : Numeral (Nat.toDigits 10 n) n :=
  (natChars?_eq_some_iff.mp (natChars?_toDigits (Nat.lt_succ_self n))).1

theorem isDigit_of_forall₂ {cs : List Char} {ds : List Nat}
    (h : List.Forall₂ (fun c d => digit? c = some d) cs ds) : ∀ c ∈ cs, IsDigit c := by
  intro c hc
  obtain ⟨d, hd⟩ := exists_of_forall₂ h hc
  exact isDigit_of_digit? hd

/-- A numeral consists of digits, but for a plus sign. -/
theorem Numeral.eq_plus_or_isDigit {cs : List Char} {n : Nat} (h : Numeral cs n) :
    ∀ c ∈ cs, c = '+' ∨ IsDigit c := by
  obtain ⟨w, ds, rfl | rfl, -, hds, -⟩ := h
  · exact fun c hc => .inr (isDigit_of_forall₂ hds c hc)
  · intro c hc
    rcases List.mem_cons.mp hc with rfl | hw
    · exact .inl rfl
    · exact .inr (isDigit_of_forall₂ hds c hw)

theorem Numeral.ne_nil {cs : List Char} {n : Nat} (h : Numeral cs n) : cs ≠ [] := by
  obtain ⟨w, ds, rfl | rfl, hne, -⟩ := h
  · exact hne
  · simp

/-- Digits are a numeral, of no more digits than they are. -/
theorem exists_numeral {cs : List Char} (hne : cs ≠ []) (h : ∀ c ∈ cs, IsDigit c) :
    ∃ n, Numeral cs n ∧ n < 10 ^ cs.length := by
  obtain ⟨n, hn⟩ := exists_digitsFrom h 0
  obtain ⟨ds, hds, heq⟩ := digitsFrom_eq_some_iff.mp hn
  refine ⟨n, ⟨cs, ds, .inl rfl, hne, hds, heq⟩, ?_⟩
  simpa using lt_of_digitsFrom hn

/-! ## The longest front of one class -/

/-- Whether a text does not begin with a character of a class. -/
def Leaves (p : Char → Bool) (rest : List Char) : Prop := ∀ c, rest.head? = some c → p c = false

theorem Leaves.nil (p : Char → Bool) : Leaves p [] := fun _ h => nomatch h

theorem Leaves.cons {p : Char → Bool} {c : Char} (h : p c = false) (r : List Char) :
    Leaves p (c :: r) := by
  intro d hd
  rwa [← Option.some.inj hd]

section

variable {p : Char → Bool} {w rest : List Char}

theorem takeWhile_append_of_leaves (hw : ∀ c ∈ w, p c = true) (h : Leaves p rest) :
    (w ++ rest).takeWhile p = w := by
  rw [List.takeWhile_append_of_pos hw]
  cases rest with
  | nil => simp
  | cons c r => simp [h c rfl]

theorem dropWhile_append_of_leaves (hw : ∀ c ∈ w, p c = true) (h : Leaves p rest) :
    (w ++ rest).dropWhile p = rest := by
  rw [List.dropWhile_append_of_pos hw]
  cases rest with
  | nil => simp
  | cons c r => simp [h c rfl]

/-- Every text is its longest front of a class and a rest that leaves the class. -/
theorem exists_front (p : Char → Bool) (cs : List Char) :
    ∃ w rest, cs = w ++ rest ∧ (∀ c ∈ w, p c = true) ∧ Leaves p rest := by
  refine ⟨cs.takeWhile p, cs.dropWhile p, List.takeWhile_append_dropWhile.symm, ?_, ?_⟩
  · intro c hc
    exact List.mem_takeWhile_imp hc
  · intro c hc
    have hnot := List.head?_dropWhile_not p cs
    rwa [hc] at hnot

end

end Conclave.Text
