import Conclave.Json.Token
import Conclave.Binary64.Text

/-!
# The value of a JSON number

A number without fraction and exponent is a whole number when it fits into 64 bits, unsigned or
with a sign; `-0` is not one. Every other number is a floating point number. It is found from
the digits as long as they fit into 64 bits and a power of ten, each of the two steps
rounded, so the last bit may differ from that of the nearest number. A number too large for the
format has no value.
-/

namespace Conclave.Json.Lexeme

def natOf (ds : List Char) : Nat := (Text.digitsFrom 0 ds).getD 0

/-- The whole number that a lexeme writes, of any size. -/
def whole? (x : Lexeme) : Option Int :=
  if x.fraction.isSome ∨ x.exponent.isSome then none
  else
    let n := natOf x.whole
    if x.negative then (if n = 0 then none else some (-Int.ofNat n)) else some n

/-- The natural number below `bound` that a lexeme writes. -/
def nat? (bound : Nat) (x : Lexeme) : Option Nat :=
  x.whole?.bind fun n => if 0 ≤ n ∧ n < bound then some n.toNat else none

/-- The integer at least `least` and below `bound` that a lexeme writes. -/
def int? (least bound : Int) (x : Lexeme) : Option Int :=
  x.whole?.filter fun n => least ≤ n ∧ n < bound

/-- Adds digits to a number as long as it stays below 2^64; the digits that are left. -/
def take64 : Nat → List Char → Nat × List Char
  | n, [] => (n, [])
  | n, c :: r =>
    let m := 10 * n + (Text.digit? c).getD 0
    if m < UInt64.size then take64 m r else (n, c :: r)

def power (k : Nat) : Binary64 := Binary64.ofNat (tenTo k)

/-- The number times ten to a power up to 308, in one rounded step. -/
def timesPower (x : Binary64) (k : Nat) : Binary64 :=
  match power k with
  | .finite _ m q => x.mulFinite m q
  | _ => x

/-- The number divided by ten to a power up to 308, in one rounded step. -/
def overPower (x : Binary64) (k : Nat) : Binary64 :=
  match power k with
  | .finite _ m q => x.divFinite m q
  | _ => x

/-- The number times ten to a negative power, in steps of at most 308 places. It ends early at
zero. -/
def shrink : Nat → Binary64 → Nat → Binary64
  | 0, x, _ => x
  | fuel + 1, x, k =>
    if k ≤ 308 then overPower x k
    else if x.isZero then x
    else shrink fuel (overPower x 308) (k - 308)

/-- The number `digits * 10 ^ exponent`, or `none` when it is too large. -/
def scaled? (digits : Nat) (exponent : Int) : Option Binary64 :=
  let x := Binary64.ofNat digits
  if exponent < 0 then some (shrink 4 x (-exponent).toNat)
  else if exponent ≤ 308 then
    let y := timesPower x exponent.toNat
    if y.isInfinite then none else some y
  else if x.isZero then some x else none

/-- The significand below 2^64 and the decimal exponent of the digits before and after the
point. -/
def significand (whole : List Char) (fraction : Option (List Char)) : Nat × Int :=
  let (n, dropped) := take64 0 whole
  match fraction with
  | none => (n, dropped.length)
  | some ds =>
    let (m, left) := take64 n ds
    (m, (dropped.length : Int) - (ds.length - left.length : Nat))

/-- The floating point value of a lexeme, or `none` when it is too large. -/
def float? (x : Lexeme) : Option Binary64 :=
  let (n, e) := significand x.whole x.fraction
  let result := match x.exponent with
    | none => scaled? n e
    | some (negative, ds) =>
      let k := natOf ds
      if signed32 ≤ k then
        if n ≠ 0 ∧ !negative then none else some (Binary64.ofNat 0)
      else scaled? n (if negative then e - k else e + k)
  result.map fun y => if x.negative then y.neg else y

end Conclave.Json.Lexeme
