import Conclave.Bytes

/-!
# Base64

The standard alphabet with padding. Reading is strict: the padding has to be there and the
unused low bits of the last group have to be zero, so every byte string has one written form.
-/

namespace Conclave.Base64

def digit (n : Nat) : Char :=
  if n < 26 then Char.ofNat (65 + n)
  else if n < 52 then Char.ofNat (71 + n)
  else if n < 62 then Char.ofNat (n - 4)
  else if n = 62 then '+' else '/'

def value? (c : Char) : Option Nat :=
  let n := c.toNat
  if 65 ≤ n ∧ n ≤ 90 then some (n - 65)
  else if 97 ≤ n ∧ n ≤ 122 then some (n - 71)
  else if 48 ≤ n ∧ n ≤ 57 then some (n + 4)
  else if c = '+' then some 62
  else if c = '/' then some 63
  else none

/-- The written form: four digits for three bytes, the last group filled up with `=`. -/
def encode : Bytes → List Char
  | [] => []
  | [a] =>
    let n := a.toNat * 16
    [digit (n / 64), digit (n % 64), '=', '=']
  | [a, b] =>
    let n := (a.toNat * 256 + b.toNat) * 4
    [digit (n / 4096), digit (n / 64 % 64), digit (n % 64), '=']
  | a :: b :: c :: r =>
    let n := (a.toNat * 256 + b.toNat) * 256 + c.toNat
    digit (n / 262144) :: digit (n / 4096 % 64) :: digit (n / 64 % 64) :: digit (n % 64)
      :: encode r

def byte (n : Nat) : UInt8 := UInt8.ofNat n

def lastOne? (p q : Nat) : Option Bytes :=
  if q % 16 = 0 then some [byte (p * 4 + q / 16)] else none

/-- The two bytes of a last group with three digits. -/
def lastTwo? (p q r : Nat) : Option Bytes :=
  if r % 4 = 0 then some [byte (p * 4 + q / 16), byte (q % 16 * 16 + r / 4)] else none

def group (p q r s : Nat) : Bytes :=
  [byte (p * 4 + q / 16), byte (q % 16 * 16 + r / 4), byte (r % 4 * 64 + s)]

/-- The bytes of a written form, or `none` when the text is none. -/
def decode? : List Char → Option Bytes
  | [] => some []
  | [a, b, '=', '='] => do lastOne? (← value? a) (← value? b)
  | [a, b, c, '='] => do lastTwo? (← value? a) (← value? b) (← value? c)
  | a :: b :: c :: d :: r => do
    let g := group (← value? a) (← value? b) (← value? c) (← value? d)
    return g ++ (← decode? r)
  | _ => none

def text (b : Bytes) : String := String.ofList (encode b)

end Conclave.Base64
