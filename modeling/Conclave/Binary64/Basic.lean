import Conclave.Power

/-!
# Binary floating point numbers

The numbers of the 64-bit binary format, as exact values: a finite number is a whole number
below 2^53 times a power of two from 2^-1074 to 2^971. A quotient of whole numbers is rounded
to the nearest of them, a half to the even neighbour; products and quotients of floating point
numbers are the rounded exact ones.
-/

namespace Conclave

/-- A number of the 64-bit binary format. `finite negative m q` is `m * 2 ^ q`; the sign of zero
counts. -/
inductive Binary64 where
  | finite (negative : Bool) (significand : Nat) (exponent : Int)
  | infinite (negative : Bool)
  | nan
deriving DecidableEq, Repr, Inhabited

namespace Binary64

/-- A whole number next to `num / den`, a half going to the even neighbour. -/
def roundHalfEven (num den : Nat) : Nat :=
  let down := num / den
  let twice := 2 * (num % den)
  if twice < den then down
  else if den < twice then down + 1
  else if down % 2 = 0 then down else down + 1

/-- `num / den` divided by `2 ^ e`, as numerator and denominator. -/
def scale (num den : Nat) (e : Int) : Nat × Nat :=
  if 0 ≤ e then (num, den * twoTo e.toNat) else (num * twoTo (-e).toNat, den)

/-- The power of two in whose steps `num / den` is rounded. -/
def stepExponent (num den : Nat) : Int :=
  let guess : Int := (Nat.log2 num : Int) - (Nat.log2 den : Int) - 52
  let (a, b) := scale num den guess
  let e := if a < twoTo 52 * b then guess - 1 else guess
  max e (-1074)

def ofRatio (negative : Bool) (num den : Nat) : Binary64 :=
  if num = 0 then finite negative 0 (-1074)
  else
    let e := stepExponent num den
    let (a, b) := scale num den e
    let m := roundHalfEven a b
    let (m, e) := if m = twoTo 53 then (twoTo 52, e + 1) else (m, e)
    if 971 < e then infinite negative else finite negative m e

def ofNat (n : Nat) : Binary64 := ofRatio false n 1

def ofInt (n : Int) : Binary64 := ofRatio (n < 0) n.natAbs 1

def neg : Binary64 → Binary64
  | finite s m q => finite (!s) m q
  | infinite s => infinite (!s)
  | nan => nan

def isZero : Binary64 → Bool
  | finite _ 0 _ => true
  | _ => false

/-- Whether a number is an infinity of either sign. -/
def isInfinite : Binary64 → Bool
  | infinite _ => true
  | _ => false

/-- The magnitude of a finite number as numerator and denominator. -/
def ratio (m : Nat) (q : Int) : Nat × Nat :=
  if 0 ≤ q then (m * twoTo q.toNat, 1) else (m, twoTo (-q).toNat)

/-- The rounded quotient of a number and a positive number given by its significand and
exponent. -/
def divFinite (x : Binary64) (m' : Nat) (q' : Int) : Binary64 :=
  match x with
  | finite s m q =>
    let (a, b) := ratio m q
    let (c, d) := ratio m' q'
    ofRatio s (a * d) (b * c)
  | x => x

/-- The rounded product of two numbers, the second one finite. -/
def mulFinite (x : Binary64) (m' : Nat) (q' : Int) : Binary64 :=
  match x with
  | finite s m q =>
    let (a, b) := ratio m q
    let (c, d) := ratio m' q'
    ofRatio s (a * c) (b * d)
  | x => x

/-- The whole number nearest to a number, a half going away from zero; `0` for `nan`, and the
end of the 64-bit signed range when the number is beyond it. -/
def toInt64 : Binary64 → Int
  | finite s m q =>
    let (a, b) := ratio m q
    let n : Int := (2 * a + b) / (2 * b)
    max (-signed64) (min (signed64 - 1) (if s then -n else n))
  | infinite s => if s then -signed64 else signed64 - 1
  | nan => 0

end Binary64

end Conclave
