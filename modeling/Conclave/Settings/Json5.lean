import Conclave.Settings.Value
import Conclave.Text.Blank
import Conclave.Text.Letter

/-!
# JSON for people

The format of files with the extension `json5`: JSON with comments, keys that are identifiers,
strings in single quotes, more escapes, hexadecimal and signed numbers, numbers that begin or end
with a point, and commas after the last item. Each reader gives what it has read and the rest of
the text.
-/

namespace Conclave.Settings.Json5

/-! ## Blanks -/

def isBreak (c : Char) : Bool :=
  c == '\n' || c == '\r' || c == '\u2028' || c == '\u2029'

/-- Whether a character is a blank between tokens. -/
def isSpace (c : Char) : Bool :=
  c == '\t' || c == '\x0b' || c == '\x0c' || c == '\ufeff' || isBreak c || Text.category c == .zs

/-- What follows the end of a comment that may have several lines. -/
def afterComment? : List Char → Option (List Char)
  | '*' :: '/' :: r => some r
  | _ :: r => afterComment? r
  | [] => none

/-- A text without blanks and comments at its front. -/
def skip? : (fuel : Nat) → List Char → Option (List Char)
  | 0, _ => none
  | fuel + 1, cs =>
    match cs with
    | '/' :: '/' :: r => skip? fuel (r.dropWhile (!isBreak ·))
    | '/' :: '*' :: r => (afterComment? r).bind (skip? fuel)
    | c :: r => if isSpace c then skip? fuel r else some cs
    | [] => some []

def skipAll? (cs : List Char) : Option (List Char) := skip? (cs.length + 1) cs

/-! ## Strings and keys -/

/-- The number of exactly so many hexadecimal digits, and the rest. -/
def hex? (count : Nat) (cs : List Char) : Option (Nat × List Char) := do
  let ds := cs.take count
  let n ← ds.foldlM (fun n c => (Text.hexValue? c).map (16 * n + ·)) 0
  if ds.length = count then return (n, cs.drop count) else none

/-- The character of a UTF-16 unit after `\u`. Units beyond the first plane come in pairs. -/
def unit? (cs : List Char) : Option (Char × List Char) := do
  let (n, r) ← hex? 4 cs
  if 0xd800 ≤ n ∧ n < 0xdc00 then
    match r with
    | '\\' :: 'u' :: r =>
      let (m, r) ← hex? 4 r
      if 0xdc00 ≤ m ∧ m < 0xe000 then
        return (Char.ofNat (0x10000 + (n - 0xd800) * 0x400 + (m - 0xdc00)), r)
      else none
    | _ => none
  else if 0xdc00 ≤ n ∧ n < 0xe000 then none
  else return (Char.ofNat n, r)

/-- The characters of an escape after its backslash, and the rest. A line break after a backslash
stands for nothing. -/
def escape? (cs : List Char) : Option (List Char × List Char) :=
  match cs with
  | [] => none
  | '\r' :: '\n' :: r => some ([], r)
  | 'x' :: r => (hex? 2 r).map fun (n, r) => ([Char.ofNat n], r)
  | 'u' :: r => (unit? r).map fun (c, r) => ([c], r)
  | 'b' :: r => some (['\x08'], r)
  | 'f' :: r => some (['\x0c'], r)
  | 'n' :: r => some (['\n'], r)
  | 'r' :: r => some (['\r'], r)
  | 't' :: r => some (['\t'], r)
  | 'v' :: r => some (['\x0b'], r)
  | '0' :: r => if r.head?.any Char.isDigit then none else some (['\x00'], r)
  | c :: r => if isBreak c then some ([], r) else if c.isDigit then none else some ([c], r)

/-- The content of a string after its opening quote. -/
def content? (quote : Char) : (fuel : Nat) → List Char → Option (List Char × List Char)
  | 0, _ => none
  | fuel + 1, cs =>
    match cs with
    | [] => none
    | '\\' :: r => do
      let (x, r) ← escape? r
      let (text, rest) ← content? quote fuel r
      return (x ++ text, rest)
    | c :: r =>
      if c = quote then some ([], r)
      else if c = '\n' ∨ c = '\r' then none
      else (content? quote fuel r).map fun (text, rest) => (c :: text, rest)

def beginsName (c : Char) : Bool :=
  c == '$' || c == '_' || (Text.category c).isLetter || Text.category c == .nl

/-- Whether a character may go on with an identifier. -/
def continuesName (c : Char) : Bool :=
  beginsName c || c == '\u200c' || c == '\u200d'
    || (match Text.category c with
      | .mn | .mc | .nd | .pc => true
      | _ => false)

def nameFrom (allowed : Char → Bool) : (fuel : Nat) → List Char → List Char × List Char
  | 0, cs => ([], cs)
  | fuel + 1, cs =>
    match cs with
    | '\\' :: 'u' :: r =>
      match unit? r with
      | some (c, rest) =>
        if allowed c then
          let (name, rest) := nameFrom continuesName fuel rest
          (c :: name, rest)
        else ([], cs)
      | none => ([], cs)
    | c :: r =>
      if allowed c then
        let (name, rest) := nameFrom continuesName fuel r
        (c :: name, rest)
      else ([], cs)
    | [] => ([], [])

def key? (cs : List Char) : Option (String × List Char) :=
  match cs with
  | '"' :: r => (content? '"' (r.length + 1) r).map fun (x, r) => (String.ofList x, r)
  | '\'' :: r => (content? '\'' (r.length + 1) r).map fun (x, r) => (String.ofList x, r)
  | _ =>
    match nameFrom beginsName (cs.length + 1) cs with
    | ([], _) => none
    | (name, rest) => some (String.ofList name, rest)

/-! ## Numbers -/

/-- The value of a whole number with a sign. One beyond 64 bits is a floating point number. -/
def wholeValue (negative : Bool) (n : Nat) : Value :=
  let x : Int := if negative then -n else n
  if -signed64 ≤ x ∧ x < signed64 then .int x else .float (Binary64.ofRatio negative n 1)

/-- A number without its sign: digits with a point and an exponent, where a leading zero stands
alone, or hexadecimal digits, or a name. -/
def unsigned? (negative : Bool) (cs : List Char) : Option (Value × List Char) :=
  match cs with
  | '0' :: 'x' :: r | '0' :: 'X' :: r =>
    let ds := r.takeWhile (Text.hexValue? · |>.isSome)
    if ds = [] then none
    else some (wholeValue negative (ds.foldl (fun n c => 16 * n + (Text.hexValue? c).getD 0) 0),
      r.drop ds.length)
  | 'I' :: 'n' :: 'f' :: 'i' :: 'n' :: 'i' :: 't' :: 'y' :: r =>
    some (.float (.infinite negative), r)
  | 'N' :: 'a' :: 'N' :: r => some (.float .nan, r)
  | _ =>
    let whole := cs.takeWhile Char.isDigit
    let rest := cs.drop whole.length
    let fraction := match rest with
      | '.' :: r => '.' :: r.takeWhile Char.isDigit
      | _ => []
    let rest := rest.drop fraction.length
    let exponent := match rest with
      | c :: r =>
        if c = 'e' ∨ c = 'E' then
          let (sign, r) := match r with
            | '-' :: r => (['-'], r)
            | '+' :: r => (['+'], r)
            | r => ([], r)
          c :: (sign ++ r.takeWhile Char.isDigit)
        else []
      | [] => []
    let rest := rest.drop exponent.length
    if whole.head? = some '0' ∧ whole.length ≠ 1 then none
    else if fraction = [] ∧ exponent = [] then
      (Text.digits? whole).map fun n => (wholeValue negative n, rest)
    else
      (Binary64.read? (String.ofList (whole ++ fraction ++ exponent))).map fun x =>
        (.float (if negative then x.neg else x), rest)

def number? (cs : List Char) : Option (Value × List Char) :=
  match cs with
  | '-' :: r => unsigned? true r
  | '+' :: r => unsigned? false r
  | _ => unsigned? false cs

/-! ## Values -/

def word? (cs : List Char) : Option (Value × List Char) :=
  match cs with
  | 'n' :: 'u' :: 'l' :: 'l' :: r => some (.nothing, r)
  | 't' :: 'r' :: 'u' :: 'e' :: r => some (.bool true, r)
  | 'f' :: 'a' :: 'l' :: 's' :: 'e' :: r => some (.bool false, r)
  | _ => number? cs

mutual

def value? : (fuel : Nat) → List Char → Option (Value × List Char)
  | 0, _ => none
  | fuel + 1, cs => do
    let cs ← skipAll? cs
    match cs with
    | '[' :: r => (items? fuel r).map fun (l, r) => (.list l, r)
    | '\x7b' :: r => (members? fuel r).map fun (l, r) => (.table (Value.entriesOf l), r)
    | '"' :: _ | '\'' :: _ => (key? cs).map fun (s, r) => (.text s, r)
    | _ => word? cs

def items? : (fuel : Nat) → List Char → Option (List Value × List Char)
  | 0, _ => none
  | fuel + 1, cs => do
    match ← skipAll? cs with
    | ']' :: r => return ([], r)
    | cs =>
      let (v, r) ← value? fuel cs
      match ← skipAll? r with
      | ']' :: r => return ([v], r)
      | ',' :: r =>
        let (vs, r) ← items? fuel r
        return (v :: vs, r)
      | _ => none

def members? : (fuel : Nat) → List Char → Option (List (String × Value) × List Char)
  | 0, _ => none
  | fuel + 1, cs => do
    match ← skipAll? cs with
    | '\x7d' :: r => return ([], r)
    | cs =>
      let (k, r) ← key? cs
      match ← skipAll? r with
      | ':' :: r =>
        let (v, r) ← value? fuel r
        match ← skipAll? r with
        | '\x7d' :: r => return ([(k, v)], r)
        | ',' :: r =>
          let (l, r) ← members? fuel r
          return ((k, v) :: l, r)
        | _ => none
      | _ => none

end

def read? (s : String) : Option (List (String × Value)) := do
  let cs := s.toList
  let (v, rest) ← value? (cs.length + 1) cs
  if (← skipAll? rest) = [] then v.toTable? else none

end Conclave.Settings.Json5
