import Conclave.Binary64.Basic

/-!
# The fewest digits that read back

A finite number other than zero is the number that every decimal in an interval around it is
rounded to. Of the decimals in this interval those with the fewest digits are taken, and of two
of them the nearer one. When both are equally near, the written form says which one is taken
(`Tie`).
-/

namespace Conclave.Binary64

/-- A decimal number `digits * 10 ^ exponent`. -/
structure Decimal where
  digits : Nat
  exponent : Int
deriving DecidableEq, Repr

/-- Which of two equally near decimals is taken: the greater magnitude, or the one with an even
last digit. -/
inductive Tie where
  | up
  | even
deriving DecidableEq, Repr

/-- Whether the greater of two equally near decimals is taken, of which the other one has the
digits `down`. -/
def Tie.takesUpper (t : Tie) (down : Nat) : Bool := t == .up || down % 2 == 1

/-- The interval of the magnitudes that are rounded to one magnitude: lower end, the magnitude
and upper end are `low / den`, `mid / den` and `high / den`. -/
structure Interval where
  low : Nat
  mid : Nat
  high : Nat
  den : Nat
  closed : Bool

/-- The interval of `m * 2 ^ q`. Its lower half is narrower when `m` is the least significand of
its power of two. -/
def interval (m : Nat) (q : Int) : Interval :=
  let below := if m = twoTo 52 ∧ -1074 < q then 1 else 2
  let e := q - 2
  let up := twoTo e.toNat
  { low := (4 * m - below) * up, mid := 4 * m * up, high := (4 * m + 2) * up,
    den := twoTo (-e).toNat, closed := m % 2 = 0 }

def Interval.holds (i : Interval) (d : Nat) (k : Int) : Bool :=
  let x := d * tenTo k.toNat * i.den
  let unit := tenTo (-k).toNat
  if i.closed then i.low * unit ≤ x && x ≤ i.high * unit
  else i.low * unit < x && x < i.high * unit

/-- The decimal with the exponent `k` that lies in an interval and is nearest to its middle. -/
def Interval.nearest? (i : Interval) (tie : Tie) (k : Int) : Option Decimal :=
  let num := i.mid * tenTo (-k).toNat
  let den := i.den * tenTo k.toNat
  let down := num / den
  let twice := 2 * (num % den)
  let up := down + 1
  let downHolds := 0 < down && i.holds down k
  let upHolds := i.holds up k
  let upIsNearer := den < twice || (twice == den && tie.takesUpper down)
  if downHolds && upHolds then some ⟨if upIsNearer then up else down, k⟩
  else if downHolds then some ⟨down, k⟩
  else if upHolds then some ⟨up, k⟩
  else none

/-- The first hit among the exponents from `k` downwards. -/
def Interval.firstHit (i : Interval) (tie : Tie) : Nat → Int → Decimal
  | 0, _ => ⟨0, 0⟩
  | n + 1, k =>
    match i.nearest? tie k with
    | some d => d
    | none => i.firstHit tie n (k - 1)

/-- A bound of the decimal exponent of `num / den` from above. -/
def leadingExponent (num den : Nat) : Int :=
  ((Nat.log2 num : Int) - Nat.log2 den + 1) * 30103 / 100000 + 1

/-- A decimal without zeros at the end of its digits. -/
def Decimal.normalize : Nat → Decimal → Decimal
  | 0, d => d
  | n + 1, d =>
    if d.digits ≠ 0 ∧ d.digits % 10 = 0 then
      Decimal.normalize n ⟨d.digits / 10, d.exponent + 1⟩
    else d

/-- The decimal with the fewest digits that is rounded to `m * 2 ^ q`. -/
def shortest (tie : Tie) (m : Nat) (q : Int) : Decimal :=
  if m = 0 then ⟨0, 0⟩
  else
    let i := interval m q
    (i.firstHit tie 40 (leadingExponent i.mid i.den)).normalize 20

end Conclave.Binary64
