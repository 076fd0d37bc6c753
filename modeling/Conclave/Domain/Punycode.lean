/-!
# Labels written in letters and digits only

A label with other characters can be written in letters, digits and hyphens. Its plain characters
come first, up to the last hyphen; then numbers follow which tell, in the order of their code
points, which characters are to be put in and where. A number has its lowest digit first, in base
36 with thresholds that follow the sizes of the numbers before: a digit below the threshold of its
place ends the number.
-/

namespace Conclave.Domain.Punycode

def digit? (c : Char) : Option Nat :=
  if 'a' ≤ c ∧ c ≤ 'z' then some (c.toNat - 'a'.toNat)
  else if 'A' ≤ c ∧ c ≤ 'Z' then some (c.toNat - 'A'.toNat)
  else if '0' ≤ c ∧ c ≤ '9' then some (26 + (c.toNat - '0'.toNat))
  else none

/-- The threshold of the digit at a place, which counts up by 36, under a bias. -/
def threshold (place bias : Nat) : Nat :=
  if place ≤ bias then 1 else if bias + 26 ≤ place then 26 else place - bias

/-- The number at the front of digits, and the digits after it. -/
def number? (bias : Nat) : (place weight : Nat) → List Char → Option (Nat × List Char)
  | _, _, [] => none
  | place, weight, c :: r => do
    let d ← digit? c
    let t := threshold place bias
    if d < t then return (d * weight, r)
    let (n, r) ← number? bias (place + 36) (weight * (36 - t)) r
    return (d * weight + n, r)

theorem length_lt_of_number? {bias place weight n : Nat} {cs r : List Char}
    (h : number? bias place weight cs = some (n, r)) : r.length < cs.length := by
  induction cs generalizing place weight n with
  | nil => simp [number?] at h
  | cons c cs ih =>
    simp only [number?, Option.bind_eq_bind, Option.pure_def, Option.bind_eq_some_iff] at h
    obtain ⟨d, -, h⟩ := h
    split at h
    · simp only [Option.some.injEq, Prod.mk.injEq] at h
      simp [← h.2]
    · simp only [Option.bind_eq_some_iff, Option.some.injEq, Prod.mk.injEq] at h
      obtain ⟨⟨m, r'⟩, hr', -, rfl⟩ := h
      exact Nat.lt_succ_of_lt (ih hr')

/-- The part of a bias that comes from dividing, and what is left of the number. -/
def reduce (n bias : Nat) : Nat × Nat :=
  if 455 < n then reduce (n / 35) (bias + 36) else (n, bias)
termination_by n
decreasing_by exact Nat.div_lt_self (by omega) (by omega)

/-- The bias after a number, the first or a later one, by which a label gets its given length. -/
def nextBias (isFirst : Bool) (n length : Nat) : Nat :=
  let n := if isFirst then n / 700 else n / 2
  let (n, bias) := reduce (n + n / length) 0
  bias + 36 * n / (n + 38)

/-- A label that is being read: its characters so far, the code point and the place of the next
one at the earliest, and the bias. -/
structure Reading where
  label : List Char
  code : Nat
  place : Nat
  bias : Nat

/-- The label with the character that a number tells. -/
def Reading.insert? (s : Reading) (isFirst : Bool) (n : Nat) : Option Reading :=
  let length := s.label.length + 1
  let code := s.code + (s.place + n) / length
  let place := (s.place + n) % length
  if code.isValidChar then
    some ⟨s.label.take place ++ Char.ofNat code :: s.label.drop place, code, place + 1,
      nextBias isFirst n length⟩
  else none

def Reading.run? (s : Reading) (isFirst : Bool) (cs : List Char) : Option (List Char) :=
  if cs = [] then some s.label
  else
    match _h : number? s.bias 36 1 cs with
    | some (n, r) => (s.insert? isFirst n).bind (·.run? false r)
    | none => none
termination_by cs.length
decreasing_by exact length_lt_of_number? _h

def decode? (cs : List Char) : Option (List Char) :=
  let digits := (cs.reverse.takeWhile (· ≠ '-')).reverse
  let plain := cs.take (cs.length - digits.length - 1)
  if plain = [] ∧ digits ≠ cs then none
  else Reading.run? ⟨plain, 0x80, 0, 72⟩ true digits

end Conclave.Domain.Punycode
