import Conclave.Binary64.Shortest
import Conclave.Text.Number

/-!
# Floating point numbers as text

Two written forms, both with the fewest digits that read back: `plain`, always positional, and
`scientific`, positional for magnitudes from 10^-5 to 10^16 and with a signed exponent otherwise.
Of two decimals equally near, the plain form takes the greater magnitude and the other one an
even last digit. The reader `read?` takes an optional sign, digits with or without a point, an
exponent, and the names of the infinities and of the number that is none.
-/

namespace Conclave.Binary64

def digitsOf (n : Nat) : List Char := Nat.toDigits 10 n

/-- A decimal in positional notation, without a point when it is a whole number. -/
def Decimal.positional (d : Decimal) : List Char :=
  let ds := digitsOf d.digits
  if 0 ≤ d.exponent then ds ++ List.replicate d.exponent.toNat '0'
  else
    let places := (-d.exponent).toNat
    if places < ds.length then
      ds.take (ds.length - places) ++ '.' :: ds.drop (ds.length - places)
    else '0' :: '.' :: (List.replicate (places - ds.length) '0' ++ ds)

def signText (negative : Bool) : List Char := if negative then ['-'] else []

/-- A number in positional notation; whole numbers have no point. -/
def plain : Binary64 → String
  | finite s m q => String.ofList (signText s ++ (shortest .up m q).positional)
  | infinite s => if s then "-inf" else "inf"
  | nan => "NaN"

/-- A decimal in the notation of data formats: a number that is whole keeps `.0`, and outside
10^-5 to 10^16 one digit stands before the point and an exponent with its sign follows. -/
def Decimal.scientific (d : Decimal) : List Char :=
  let ds := digitsOf d.digits
  let point : Int := ds.length + d.exponent
  if 0 ≤ d.exponent ∧ point ≤ 16 then d.positional ++ ['.', '0']
  else if -5 < point ∧ point ≤ 16 then d.positional
  else
    let exponent := (if 0 < point then ['+'] else []) ++ (toString (point - 1)).toList
    match ds with
    | [c] => c :: 'e' :: exponent
    | c :: r => c :: '.' :: (r ++ 'e' :: exponent)
    | [] => []

/-- A finite number in the notation of data formats, and `none` for the others. -/
def scientific? : Binary64 → Option String
  | finite s m q =>
    some (String.ofList (signText s ++
      if m = 0 then ['0', '.', '0'] else (shortest .even m q).scientific))
  | _ => none

def spanDigits (cs : List Char) : List Char × List Char :=
  (cs.takeWhile (Text.digit? · |>.isSome), cs.dropWhile (Text.digit? · |>.isSome))

/-- The number `digits * 10 ^ exponent`. Exponents far outside the range are decided without
the power. -/
def ofDecimal (negative : Bool) (digits : Nat) (exponent : Int) : Binary64 :=
  let top : Int := (digitsOf digits).length + exponent
  if digits = 0 ∨ top < -400 then finite negative 0 (-1074)
  else if 400 < top then infinite negative
  else if 0 ≤ exponent then ofRatio negative (digits * tenTo exponent.toNat) 1
  else ofRatio negative digits (tenTo (-exponent).toNat)

/-- An exponent after its mark: an optional sign and digits. -/
def exponentOf? (cs : List Char) : Option Int :=
  match cs with
  | [] => some 0
  | c :: r => if c = 'e' ∨ c = 'E' then Text.intChars? r else none

/-- A number without sign: digits with at most one point among or beside them, at least one
digit, and an optional exponent. -/
def readUnsigned? (negative : Bool) (cs : List Char) : Option Binary64 := do
  let (whole, rest) := spanDigits cs
  let (fraction, rest) := match rest with
    | '.' :: r => spanDigits r
    | _ => ([], rest)
  let digits ← Text.digits? (whole ++ fraction)
  let exponent ← exponentOf? rest
  return ofDecimal negative digits (exponent - fraction.length)

/-- The names of the numbers that have no digits, in any letter case. -/
def readName? (negative : Bool) (cs : List Char) : Option Binary64 :=
  let name := String.ofList (cs.map Text.lowerChar)
  if name = "inf" ∨ name = "infinity" then some (infinite negative)
  else if name = "nan" then some nan
  else none

/-- The number written by a text, if there is one. -/
def read? (s : String) : Option Binary64 :=
  let (negative, cs) := match s.toList with
    | '-' :: r => (true, r)
    | '+' :: r => (false, r)
    | cs => (false, cs)
  (readName? negative cs).or (readUnsigned? negative cs)

end Conclave.Binary64
