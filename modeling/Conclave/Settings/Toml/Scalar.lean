import Conclave.Settings.Toml.Text
import Conclave.Settings.Value

/-!
# Numbers, Booleans, dates and times in TOML

Numbers may have single underscores between their digits. Dates and times have to be possible
ones, and seconds may be left out; they are kept as texts, in which a date and a time are joined
by `T` and the fraction of a second has no zeros at its end.
-/

namespace Conclave.Settings.Toml

/-! ## Numbers -/

/-- Digits with single underscores between them, without the underscores. -/
def digits? (isDigit : Char → Bool) : List Char → Option (List Char)
  | [] => none
  | [c] => if isDigit c then some [c] else none
  | c :: '_' :: r => if isDigit c then (digits? isDigit r).map (c :: ·) else none
  | c :: r => if isDigit c then (digits? isDigit r).map (c :: ·) else none

def isDigit (c : Char) : Bool := '0' ≤ c && c ≤ '9'

def inBase? (base : Nat) (cs : List Char) : Option Int := do
  let ds ← digits? (fun c => (Text.hexValue? c).any (· < base)) cs
  return Int.ofNat (ds.foldl (fun n c => base * n + (Text.hexValue? c).getD 0) 0)

/-- A whole number without sign in base ten, without leading zeros. -/
def decimal? (cs : List Char) : Option Nat := do
  let ds ← digits? isDigit cs
  if ds.head? = some '0' ∧ ds.length ≠ 1 then none else Text.digits? ds

/-- The text after its sign, and whether it is a minus. -/
def unsigned (cs : List Char) : Bool × List Char :=
  match cs with
  | '-' :: r => (true, r)
  | '+' :: r => (false, r)
  | cs => (false, cs)

def int? (cs : List Char) : Option Int := do
  let n ← match cs with
    | '0' :: 'x' :: r => inBase? 16 r
    | '0' :: 'o' :: r => inBase? 8 r
    | '0' :: 'b' :: r => inBase? 2 r
    | _ =>
      let (negative, r) := unsigned cs
      (decimal? r).map fun n => if negative then -Int.ofNat n else Int.ofNat n
  if -signed64 ≤ n ∧ n < signed64 then some n else none

/-- A floating point number. One beyond the largest is refused. -/
def float? (cs : List Char) : Option Binary64 := do
  let (negative, r) := unsigned cs
  if r = ['i', 'n', 'f'] then return .infinite negative
  if r = ['n', 'a', 'n'] then return .nan
  let isMark (c : Char) : Bool := c == 'e' || c == 'E'
  let mantissa := r.takeWhile (!isMark ·)
  let exponent := r.drop mantissa.length
  let whole := mantissa.takeWhile (· ≠ '.')
  let fraction := mantissa.drop whole.length
  if fraction = [] ∧ exponent = [] then none
  let _ ← decimal? whole
  if fraction ≠ [] then
    let _ ← digits? isDigit (fraction.drop 1)
  if exponent ≠ [] then
    let _ ← digits? isDigit (unsigned (exponent.drop 1)).2
  let text := String.ofList (r.filter (· ≠ '_'))
  let x ← Binary64.read? text
  if x.isInfinite ∧ !negative then none
  return if negative then x.neg else x

/-! ## Dates and times -/

/-- The number written by exactly so many digits at the front of a text. -/
def fixed? (count : Nat) (cs : List Char) : Option (Nat × List Char) :=
  let ds := cs.take count
  if ds.length = count then (Text.digits? ds).map (·, cs.drop count) else none

/-- A number with exactly so many digits after a mark. -/
def marked? (mark : Char) (count : Nat) (cs : List Char) : Option (Nat × List Char) :=
  match cs with
  | c :: r => if c = mark then fixed? count r else none
  | [] => none

def daysIn (year month : Nat) : Nat :=
  if month = 2 then
    if year % 4 = 0 ∧ (year % 100 ≠ 0 ∨ year % 400 = 0) then 29 else 28
  else if month = 4 ∨ month = 6 ∨ month = 9 ∨ month = 11 then 30
  else 31

def date? (cs : List Char) : Option (List Char × List Char) := do
  let (year, r) ← fixed? 4 cs
  let (month, r) ← marked? '-' 2 r
  let (day, r) ← marked? '-' 2 r
  if 1 ≤ month ∧ month ≤ 12 ∧ 1 ≤ day ∧ day ≤ daysIn year month then return (cs.take 10, r)
  else none

/-- The fraction of a second, as its text, cut after the ninth digit. -/
def fraction? (cs : List Char) : Option (List Char × List Char) :=
  match cs with
  | '.' :: r =>
    let ds := r.takeWhile isDigit
    let kept := ((ds.take 9).reverse.dropWhile (· = '0')).reverse
    if ds = [] then none
    else some (if kept = [] then [] else '.' :: kept, r.drop ds.length)
  | cs => some ([], cs)

/-- The seconds of a time with their fraction, as their text. They may be missing. -/
def seconds? (cs : List Char) : Option (List Char × List Char) :=
  match cs with
  | ':' :: _ => do
    let (second, r) ← marked? ':' 2 cs
    let (fraction, r) ← fraction? r
    if second ≤ 60 then return (cs.take 3 ++ fraction, r) else none
  | _ => some ([], cs)

def time? (cs : List Char) : Option (List Char × List Char) := do
  let (hour, r) ← fixed? 2 cs
  let (minute, r) ← marked? ':' 2 r
  let (seconds, r) ← seconds? r
  if hour < 24 ∧ minute < 60 then return (cs.take 5 ++ seconds, r) else none

/-- The distance from universal time, if there is one, as its text. None at all is written with
a plus. -/
def offset? (cs : List Char) : Option (List Char × List Char) :=
  match cs with
  | 'Z' :: r | 'z' :: r => some (['Z'], r)
  | c :: r =>
    if c = '+' ∨ c = '-' then do
      let (hour, rest) ← fixed? 2 r
      let (minute, rest) ← marked? ':' 2 rest
      let sign := if hour = 0 ∧ minute = 0 then '+' else c
      if hour < 24 ∧ minute < 60 then return (sign :: r.take 5, rest) else none
    else some ([], cs)
  | [] => some ([], cs)

/-- Whether a time follows a date: after a `T`, or after a space when a digit comes next. -/
def timeFollows : List Char → Bool
  | 'T' :: _ | 't' :: _ => true
  | ' ' :: c :: _ => isDigit c
  | _ => false

def moment? (cs : List Char) : Option (List Char × List Char) :=
  match date? cs with
  | none => time? cs
  | some (date, r) =>
    if timeFollows r then do
      let (time, r) ← time? (r.drop 1)
      let (offset, r) ← offset? r
      return (date ++ 'T' :: time ++ offset, r)
    else some (date, r)

/-! ## Scalars -/

/-- Whether a character may occur in a number or a Boolean. -/
def isScalarChar (c : Char) : Bool := isBareKeyChar c || c == '+' || c == '.'

def scalar? (cs : List Char) : Option (Value × List Char) :=
  match moment? cs with
  | some (text, rest) => some (.text (String.ofList text), rest)
  | none =>
    let word := cs.takeWhile isScalarChar
    let rest := cs.drop word.length
    if word = "true".toList then some (.bool true, rest)
    else if word = "false".toList then some (.bool false, rest)
    else
      match int? word with
      | some n => some (.int n, rest)
      | none => (float? word).map fun x => (.float x, rest)

end Conclave.Settings.Toml
