import Conclave.Base64

/-!
# Reading written base64

The bytes of a written form are read back (`decode?_encode`): a digit has its value, and the values
of the digits of a group make up its bytes. Nothing else is read as these bytes
(`decode?_eq_some_iff`): a character with a value is its digit, and the bits that a last group does
not need are zero.
-/

namespace Conclave.Base64

theorem value?_digit : ∀ n, n < 64 → value? (digit n) = some n := by
  decide

theorem digit_ne_padding : ∀ n, n < 64 → digit n ≠ '=' := by
  decide

theorem byte_eq {n : Nat} {b : UInt8} (h : n = b.toNat) : byte n = b := by
  rw [h, byte, UInt8.ofNat_toNat]

/-- A whole group is read as its three bytes, in front of what the others are read as. -/
theorem decode?_digits {p q r s : Nat} (hp : p < 64) (hq : q < 64) (hr : r < 64) (hs : s < 64)
    (cs : List Char) :
    decode? (digit p :: digit q :: digit r :: digit s :: cs)
      = (decode? cs).map (group p q r s ++ ·) := by
  rw [decode?, value?_digit p hp, value?_digit q hq, value?_digit r hr, value?_digit s hs]
  · cases decode? cs <;> rfl
  · intro _ h _
    exact digit_ne_padding s hs h
  · intro h _
    exact digit_ne_padding s hs h

/-- Every byte string is read back from its written form. -/
theorem decode?_encode : ∀ b : Bytes, decode? (encode b) = some b
  | [] => rfl
  | [a] => by
      have ha := a.toNat_lt
      have hbyte : a.toNat * 16 / 64 * 4 + a.toNat * 16 % 64 / 16 = a.toNat := by omega
      have hrest : a.toNat * 16 % 64 % 16 = 0 := by omega
      simp only [encode]
      rw [decode?, value?_digit _ (by omega), value?_digit _ (by omega)]
      simp only [Option.bind_eq_bind, Option.bind_some, lastOne?]
      rw [if_pos hrest, byte_eq hbyte]
  | [a, b] => by
      have ha := a.toNat_lt
      have hb := b.toNat_lt
      have hlast : (a.toNat * 256 + b.toNat) * 4 % 64 < 64 := Nat.mod_lt _ (by decide)
      have hfirst : (a.toNat * 256 + b.toNat) * 4 / 4096 * 4
          + (a.toNat * 256 + b.toNat) * 4 / 64 % 64 / 16 = a.toNat := by omega
      have hsecond : (a.toNat * 256 + b.toNat) * 4 / 64 % 64 % 16 * 16
          + (a.toNat * 256 + b.toNat) * 4 % 64 / 4 = b.toNat := by omega
      have hrest : (a.toNat * 256 + b.toNat) * 4 % 64 % 4 = 0 := by omega
      simp only [encode]
      rw [decode?, value?_digit _ (by omega), value?_digit _ (by omega), value?_digit _ hlast]
      · simp only [Option.bind_eq_bind, Option.bind_some, lastTwo?]
        rw [if_pos hrest, byte_eq hfirst, byte_eq hsecond]
      · exact digit_ne_padding _ hlast
  | a :: b :: c :: r => by
      have ha := a.toNat_lt
      have hb := b.toNat_lt
      have hc := c.toNat_lt
      simp only [encode]
      generalize hn : (a.toNat * 256 + b.toNat) * 256 + c.toNat = n
      have hfirst : n / 262144 * 4 + n / 4096 % 64 / 16 = a.toNat := by omega
      have hsecond : n / 4096 % 64 % 16 * 16 + n / 64 % 64 / 4 = b.toNat := by omega
      have hthird : n / 64 % 64 % 4 * 64 + n % 64 = c.toNat := by omega
      rw [decode?_digits (by omega) (by omega) (by omega) (by omega), decode?_encode r,
        Option.map_some, group, byte_eq hfirst, byte_eq hsecond, byte_eq hthird]
      rfl

/-! ## One text for each byte string -/

theorem toNat_byte {n : Nat} (h : n < 256) : (byte n).toNat = n := UInt8.toNat_ofNat_of_lt' h

/-- A character with a value is the digit of that value. -/
theorem digit_of_value? {c : Char} {n : Nat} (h : value? c = some n) : n < 64 ∧ digit n = c := by
  have back : ∀ m, m = c.toNat → Char.ofNat m = c := fun m hm => hm ▸ Char.ofNat_toNat c
  simp only [value?] at h
  split at h
  · obtain rfl := Option.some.inj h
    exact ⟨by omega, by rw [digit, if_pos (by omega)]; exact back _ (by omega)⟩
  split at h
  · obtain rfl := Option.some.inj h
    exact ⟨by omega, by
      rw [digit, if_neg (by omega), if_pos (by omega)]; exact back _ (by omega)⟩
  split at h
  · obtain rfl := Option.some.inj h
    exact ⟨by omega, by
      rw [digit, if_neg (by omega), if_neg (by omega), if_pos (by omega)]
      exact back _ (by omega)⟩
  split at h
  · rename_i hc
    obtain rfl := Option.some.inj h
    exact ⟨by decide, hc.symm⟩
  split at h
  · rename_i hc
    obtain rfl := Option.some.inj h
    exact ⟨by decide, hc.symm⟩
  · cases h

variable {p q r s : Nat}

theorem encode_lastOne? {b : Bytes} (hp : p < 64) (hq : q < 64) (h : lastOne? p q = some b) :
    encode b = [digit p, digit q, '=', '='] := by
  unfold lastOne? at h
  split at h
  · rename_i hrest
    obtain rfl := Option.some.inj h
    have hbyte := toNat_byte (n := p * 4 + q / 16) (by omega)
    have hfirst : (p * 4 + q / 16) * 16 / 64 = p := by omega
    have hsecond : (p * 4 + q / 16) * 16 % 64 = q := by omega
    simp only [encode, hbyte, hfirst, hsecond]
  · cases h

theorem encode_lastTwo? {b : Bytes} (hp : p < 64) (hq : q < 64) (hr : r < 64)
    (h : lastTwo? p q r = some b) : encode b = [digit p, digit q, digit r, '='] := by
  unfold lastTwo? at h
  split at h
  · rename_i hrest
    obtain rfl := Option.some.inj h
    have ha := toNat_byte (n := p * 4 + q / 16) (by omega)
    have hb := toNat_byte (n := q % 16 * 16 + r / 4) (by omega)
    simp only [encode, ha, hb]
    generalize hn : ((p * 4 + q / 16) * 256 + (q % 16 * 16 + r / 4)) * 4 = n
    have hfirst : n / 4096 = p := by omega
    have hsecond : n / 64 % 64 = q := by omega
    have hthird : n % 64 = r := by omega
    rw [hfirst, hsecond, hthird]
  · cases h

theorem encode_group (hp : p < 64) (hq : q < 64) (hr : r < 64) (hs : s < 64) (b : Bytes) :
    encode (group p q r s ++ b) = digit p :: digit q :: digit r :: digit s :: encode b := by
  have ha := toNat_byte (n := p * 4 + q / 16) (by omega)
  have hb := toNat_byte (n := q % 16 * 16 + r / 4) (by omega)
  have hc := toNat_byte (n := r % 4 * 64 + s) (by omega)
  simp only [group, List.cons_append, List.nil_append, encode, ha, hb, hc]
  generalize hn : ((p * 4 + q / 16) * 256 + (q % 16 * 16 + r / 4)) * 256 + (r % 4 * 64 + s) = n
  have hfirst : n / 262144 = p := by omega
  have hsecond : n / 4096 % 64 = q := by omega
  have hthird : n / 64 % 64 = r := by omega
  have hfourth : n % 64 = s := by omega
  rw [hfirst, hsecond, hthird, hfourth]

/-- A text that is read is the written form of its bytes. -/
theorem encode_of_decode? (cs : List Char) {b : Bytes} (h : decode? cs = some b) :
    encode b = cs := by
  -- the cases are those of the reader: the last group of one or two bytes, or a whole one
  fun_induction decode? cs generalizing b with
  | case1 =>
      obtain rfl := Option.some.inj h
      rfl
  | case2 x y =>
      simp only [Option.bind_eq_bind, Option.bind_eq_some_iff] at h
      obtain ⟨p, hx, q, hy, hlast⟩ := h
      obtain ⟨hp, rfl⟩ := digit_of_value? hx
      obtain ⟨hq, rfl⟩ := digit_of_value? hy
      exact encode_lastOne? hp hq hlast
  | case3 x y z =>
      simp only [Option.bind_eq_bind, Option.bind_eq_some_iff] at h
      obtain ⟨p, hx, q, hy, r, hz, hlast⟩ := h
      obtain ⟨hp, rfl⟩ := digit_of_value? hx
      obtain ⟨hq, rfl⟩ := digit_of_value? hy
      obtain ⟨hr, rfl⟩ := digit_of_value? hz
      exact encode_lastTwo? hp hq hr hlast
  | case4 x y z w rest _ _ ih =>
      simp only [Option.bind_eq_bind, Option.bind_eq_some_iff] at h
      obtain ⟨p, hx, q, hy, r, hz, s, hw, tail, htail, hwhole⟩ := h
      obtain ⟨hp, rfl⟩ := digit_of_value? hx
      obtain ⟨hq, rfl⟩ := digit_of_value? hy
      obtain ⟨hr, rfl⟩ := digit_of_value? hz
      obtain ⟨hs, rfl⟩ := digit_of_value? hw
      obtain rfl := Option.some.inj hwhole
      rw [encode_group hp hq hr hs, ih htail]
  | case5 => cases h

theorem decode?_eq_some_iff {cs : List Char} {b : Bytes} :
    decode? cs = some b ↔ cs = encode b :=
  ⟨fun h => (encode_of_decode? cs h).symm, fun h => h ▸ decode?_encode b⟩

/-- No two texts stand for the same bytes. -/
theorem decode?_toList {t : String} {b : Bytes} : decode? t.toList = some b ↔ t = text b := by
  rw [decode?_eq_some_iff, text, ← String.toList_inj, String.toList_ofList]

end Conclave.Base64
