import Conclave.Power

/-!
# Whole numbers in decimal text

Reading and writing of decimal numbers within a range, and ASCII letter case. A reader takes
leading zeros and one leading plus sign; it refuses an empty text, blanks, and a number
outside the range. `readNat?_toString` says that it reads back what is written.
-/

namespace Conclave.Text

def digit? (c : Char) : Option Nat :=
  if '0' ≤ c ∧ c ≤ '9' then some (c.toNat - '0'.toNat) else none

/-- The number that a text of digits continues, or `none` at the first other character. -/
def digitsFrom : Nat → List Char → Option Nat
  | n, [] => some n
  | n, c :: r => (digit? c).bind fun d => digitsFrom (10 * n + d) r

/-- The number written by a text of at least one digit and nothing else. -/
def digits? : List Char → Option Nat
  | [] => none
  | c :: r => digitsFrom 0 (c :: r)

def dropPlus : List Char → List Char
  | '+' :: r => r
  | cs => cs

/-- The number below `bound` written by a text, if there is one. -/
def natChars? (bound : Nat) (cs : List Char) : Option Nat :=
  (digits? (dropPlus cs)).filter (· < bound)

def readNat? (bound : Nat) (s : String) : Option Nat := natChars? bound s.toList

/-- The integer written by an optional sign and digits. -/
def intChars? : List Char → Option Int
  | '-' :: r => (digits? r).map fun n => - Int.ofNat n
  | cs => (digits? (dropPlus cs)).map Int.ofNat

/-- The integer at least `least` and below `bound` written by a text, if there is one. -/
def readInt? (least bound : Int) (s : String) : Option Int :=
  (intChars? s.toList).filter fun n => least ≤ n ∧ n < bound

/-- The 64-bit signed integer written by a text, if there is one. -/
def readInt64? (s : String) : Option Int := readInt? (-signed64) signed64 s

/-- The value of a hexadecimal digit, in either letter case. -/
def hexValue? (c : Char) : Option Nat :=
  if '0' ≤ c ∧ c ≤ '9' then some (c.toNat - 48)
  else if 'a' ≤ c ∧ c ≤ 'f' then some (c.toNat - 87)
  else if 'A' ≤ c ∧ c ≤ 'F' then some (c.toNat - 55)
  else none

/-- The lower-case form of an ASCII letter; any other character is left as it is. -/
def lowerChar (c : Char) : Char :=
  if 'A' ≤ c ∧ c ≤ 'Z' then Char.ofNat (c.toNat + 32) else c

def lower (s : String) : String := String.ofList (s.toList.map lowerChar)

/-- Whether two texts are equal up to the case of ASCII letters. -/
def sameLetters (s t : String) : Bool := s.toList.map lowerChar == t.toList.map lowerChar

theorem digitsFrom_append (n : Nat) (cs : List Char) (c : Char) :
    digitsFrom n (cs ++ [c]) =
      (digitsFrom n cs).bind fun m => (digit? c).map fun d => 10 * m + d := by
  induction cs generalizing n with
  | nil => cases h : digit? c <;> simp [digitsFrom, h]
  | cons b r ih => cases h : digit? b <;> simp [digitsFrom, h, ih]

theorem digit?_digitChar {n : Nat} (h : n < 10) : digit? (Nat.digitChar n) = some n := by
  match n, h with
  | 0, _ | 1, _ | 2, _ | 3, _ | 4, _ | 5, _ | 6, _ | 7, _ | 8, _ | 9, _ => decide

theorem digitsFrom_toDigits (n : Nat) : digitsFrom 0 (Nat.toDigits 10 n) = some n := by
  induction n using Nat.strongRecOn with
  | _ n ih =>
    by_cases h : n < 10
    · rw [Nat.toDigits_of_lt_base h]
      simp [digitsFrom, digit?_digitChar h]
    · rw [Nat.toDigits_eq_if (by decide), if_neg h, digitsFrom_append, ih (n / 10) (by omega)]
      simp [digit?_digitChar (Nat.mod_lt n (by decide : 0 < 10))]
      omega

/-- Reading the digits of a number gives the number. -/
theorem digits?_toDigits (n : Nat) : digits? (Nat.toDigits 10 n) = some n := by
  have h := digitsFrom_toDigits n
  have hne : Nat.toDigits 10 n ≠ [] := by
    intro h0
    have := Nat.length_toDigits_pos (b := 10) (n := n)
    simp [h0] at this
  cases hd : Nat.toDigits 10 n with
  | nil => exact absurd hd hne
  | cons c r => rw [hd] at h; exact h

theorem dropPlus_toDigits (n : Nat) : dropPlus (Nat.toDigits 10 n) = Nat.toDigits 10 n := by
  have h := digits?_toDigits n
  unfold dropPlus
  split
  · rename_i r hr
    rw [hr] at h
    exact absurd h (by simp [digits?, digitsFrom, digit?])
  · rfl

theorem natChars?_toDigits {n bound : Nat} (h : n < bound) :
    natChars? bound (Nat.toDigits 10 n) = some n := by
  simp [natChars?, dropPlus_toDigits, digits?_toDigits, h]

/-- A number within the range is read back from its text. -/
theorem readNat?_toString {n bound : Nat} (h : n < bound) :
    readNat? bound (toString n) = some n := by
  have ht : (toString n).toList = Nat.toDigits 10 n := Nat.toList_repr ..
  rw [readNat?, ht, natChars?_toDigits h]

end Conclave.Text
