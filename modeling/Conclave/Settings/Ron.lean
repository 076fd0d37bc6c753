import Conclave.Settings.Value
import Conclave.Text.Blank
import Conclave.Text.Letter

/-!
# Object notation with structures

The format of files with the extension `ron`: lists in square brackets, maps in braces, and
structures in parentheses, which are tables when their fields have names and lists otherwise. A
structure may have a name in front, `Some(..)` is its content, and `None` and `()` are nothing.
Comments may be nested. Each reader gives what it has read and the rest of the text.
-/

namespace Conclave.Settings.Ron

/-! ## Blanks -/

/-- What follows the end of a comment that may have several lines and comments in it. -/
def afterComment? : (depth : Nat) → List Char → Option (List Char)
  | 0, '*' :: '/' :: r => some r
  | depth + 1, '*' :: '/' :: r => afterComment? depth r
  | depth, '/' :: '*' :: r => afterComment? (depth + 1) r
  | depth, _ :: r => afterComment? depth r
  | _, [] => none

/-- A text without blanks and comments at its front. -/
def skip? : (fuel : Nat) → List Char → Option (List Char)
  | 0, _ => none
  | fuel + 1, cs =>
    match cs with
    | '/' :: '/' :: r => skip? fuel (r.dropWhile (· ≠ '\n'))
    | '/' :: '*' :: r => (afterComment? 0 r).bind (skip? fuel)
    | c :: r => if Text.isBlank c then skip? fuel r else some cs
    | [] => some []

def skipAll? (cs : List Char) : Option (List Char) := skip? (cs.length + 1) cs

/-! ## Texts -/

/-- The character of a code point in hexadecimal digits. -/
def codePoint? (ds : List Char) : Option Char := do
  if ds = [] ∨ 6 < ds.length then none
  let n ← ds.foldlM (fun n c => (Text.hexValue? c).map (16 * n + ·)) 0
  if n < 0xd800 ∨ (0xe000 ≤ n ∧ n < 0x110000) then some (Char.ofNat n) else none

/-- The character of an escape after its backslash, and the rest. -/
def escape? : List Char → Option (Char × List Char)
  | '\'' :: r => some ('\'', r)
  | '"' :: r => some ('"', r)
  | '\\' :: r => some ('\\', r)
  | 'n' :: r => some ('\n', r)
  | 'r' :: r => some ('\r', r)
  | 't' :: r => some ('\t', r)
  | '0' :: r => some ('\x00', r)
  | 'x' :: a :: b :: r => (codePoint? [a, b]).map (·, r)
  | 'u' :: '\x7b' :: r =>
    let ds := r.takeWhile (· ≠ '\x7d')
    (codePoint? ds).map (·, r.drop (ds.length + 1))
  | _ => none

/-- The content of a text after its opening quote. -/
def content? : (fuel : Nat) → List Char → Option (List Char × List Char)
  | 0, _ => none
  | fuel + 1, cs =>
    match cs with
    | [] => none
    | '"' :: r => some ([], r)
    | '\\' :: r => do
      let (c, r) ← escape? r
      let (text, rest) ← content? fuel r
      return (c :: text, rest)
    | c :: r => (content? fuel r).map fun (text, rest) => (c :: text, rest)

/-- The content of a text without escapes up to a mark that ends it. -/
def rawContent? (mark : List Char) : List Char → Option (List Char × List Char)
  | [] => none
  | c :: r =>
    if mark.isPrefixOf (c :: r) then some ([], (c :: r).drop mark.length)
    else (rawContent? mark r).map fun (text, rest) => (c :: text, rest)

/-- A text without escapes after its letter: number signs, a quote, and the same at its end. -/
def raw? (cs : List Char) : Option (List Char × List Char) :=
  let signs := cs.takeWhile (· = '#')
  match cs.drop signs.length with
  | '"' :: r => rawContent? ('"' :: signs) r
  | _ => none

def char? (cs : List Char) : Option (Char × List Char) := do
  let (c, r) ← match cs with
    | '\\' :: r => escape? r
    | c :: r => some (c, r)
    | [] => none
  match r with
  | '\'' :: rest => return (c, rest)
  | _ => none

/-- An identifier, empty if there is none, and the rest. -/
def name (cs : List Char) : List Char × List Char :=
  let begins (c : Char) : Bool := c == '_' || (Text.category c).isLetter || Text.category c == .nl
  let goesOn (c : Char) : Bool :=
    begins c || (match Text.category c with
      | .mn | .mc | .nd | .pc => true
      | _ => false)
  if cs.head?.any begins then (cs.takeWhile goesOn, cs.dropWhile goesOn) else ([], cs)

/-! ## Numbers -/

/-- A whole number in a base after its mark, where low lines do not count. -/
def inBase? (base : Nat) (negative : Bool) (cs : List Char) : Option (Value × List Char) := do
  let isDigit (c : Char) : Bool := (Text.hexValue? c).any (· < base)
  let ds := cs.takeWhile fun c => isDigit c || c == '_'
  if !ds.head?.any isDigit then none
  let n := (ds.filter (· ≠ '_')).foldl (fun n c => base * n + (Text.hexValue? c).getD 0) 0
  let x : Int := if negative then -n else n
  if -signed64 ≤ x ∧ x < UInt64.size then return (.int x, cs.drop ds.length) else none

def unsigned? (negative : Bool) (cs : List Char) : Option (Value × List Char) :=
  match cs with
  | '0' :: 'x' :: r => inBase? 16 negative r
  | '0' :: 'o' :: r => inBase? 8 negative r
  | '0' :: 'b' :: r => inBase? 2 negative r
  | 'i' :: 'n' :: 'f' :: r => some (.float (.infinite negative), r)
  | 'N' :: 'a' :: 'N' :: r => some (.float .nan, r)
  | _ =>
    let isPart (c : Char) : Bool :=
      c.isDigit || c == '.' || c == 'e' || c == 'E' || c == '_' || c == '+' || c == '-'
    let word := cs.takeWhile isPart
    if word.all fun c => c.isDigit || c == '_' then inBase? 10 negative cs
    else if word.head? = some '_' then none
    else
      (Binary64.read? (String.ofList (word.filter (· ≠ '_')))).map fun x =>
        (.float (if negative then x.neg else x), cs.drop word.length)

def number? (cs : List Char) : Option (Value × List Char) :=
  match cs with
  | '-' :: r => unsigned? true r
  | '+' :: r => unsigned? false r
  | _ => unsigned? false cs

/-! ## Values -/

/-- The key of a map or a table, if the value is a text. -/
def textOf? : Value → Option String
  | .text s => some s
  | _ => none

/-- Whether a structure after its parenthesis has named fields. -/
def hasNames (cs : List Char) : Bool :=
  let (n, rest) := name cs
  !n.isEmpty && match skipAll? rest with
    | some (':' :: ':' :: _) => false
    | some (':' :: _) => true
    | _ => false

mutual

def value? : (fuel : Nat) → List Char → Option (Value × List Char)
  | 0, _ => none
  | fuel + 1, cs => do
    let cs ← skipAll? cs
    match cs with
    | '"' :: r => (content? (r.length + 1) r).map fun (x, r) => (.text (String.ofList x), r)
    | '\'' :: r => (char? r).map fun (c, r) => (.text c.toString, r)
    | '[' :: r => (items? ']' fuel r).map fun (l, r) => (.list l, r)
    | '\x7b' :: r => (members? fuel r).map fun (l, r) => (.table (Value.entriesOf l), r)
    | '(' :: r => structure? fuel r
    | 'r' :: '"' :: _ | 'r' :: '#' :: _ =>
      (raw? (cs.drop 1)).map fun (x, r) => (.text (String.ofList x), r)
    | _ =>
      let (word, rest) := name cs
      match String.ofList word with
      | "" | "inf" | "NaN" => number? cs
      | "true" => return (.bool true, rest)
      | "false" => return (.bool false, rest)
      | "None" => return (.nothing, rest)
      | "Some" =>
        match ← skipAll? rest with
        | '(' :: r =>
          let (v, r) ← value? fuel r
          let r ← skipAll? r
          let r := match r with
            | ',' :: r => (skipAll? r).getD []
            | r => r
          match r with
          | ')' :: r => return (v, r)
          | _ => none
        | _ => none
      | _ =>
        match ← skipAll? rest with
        | '(' :: r => structure? fuel r
        | _ => return (.nothing, rest)

def structure? : (fuel : Nat) → List Char → Option (Value × List Char)
  | 0, _ => none
  | fuel + 1, cs => do
    let cs ← skipAll? cs
    match cs with
    | ')' :: r => return (.nothing, r)
    | _ =>
      if hasNames cs then
        let (l, r) ← fields? fuel cs
        return (.table (Value.entriesOf l), r)
      else
        let (l, r) ← items? ')' fuel cs
        return (.list l, r)

/-- The items of a list or a structure up to its closing mark. -/
def items? (mark : Char) : (fuel : Nat) → List Char → Option (List Value × List Char)
  | 0, _ => none
  | fuel + 1, cs => do
    match ← skipAll? cs with
    | [] => none
    | c :: r =>
      if c = mark then return ([], r)
      let (v, r) ← value? fuel (c :: r)
      match ← skipAll? r with
      | [] => none
      | c :: r =>
        if c = mark then return ([v], r)
        else if c = ',' then
          let (vs, r) ← items? mark fuel r
          return (v :: vs, r)
        else none

def members? : (fuel : Nat) → List Char → Option (List (String × Value) × List Char)
  | 0, _ => none
  | fuel + 1, cs => do
    match ← skipAll? cs with
    | '\x7d' :: r => return ([], r)
    | cs =>
      let (k, r) ← value? fuel cs
      match ← skipAll? r with
      | ':' :: r =>
        let (v, r) ← value? fuel r
        let e := (← textOf? k, v)
        match ← skipAll? r with
        | '\x7d' :: r => return ([e], r)
        | ',' :: r =>
          let (l, r) ← members? fuel r
          return (e :: l, r)
        | _ => none
      | _ => none

def fields? : (fuel : Nat) → List Char → Option (List (String × Value) × List Char)
  | 0, _ => none
  | fuel + 1, cs => do
    match ← skipAll? cs with
    | ')' :: r => return ([], r)
    | cs =>
      let (k, r) := name cs
      if k = [] then none
      match ← skipAll? r with
      | ':' :: r =>
        let (v, r) ← value? fuel r
        let e := (String.ofList k, v)
        match ← skipAll? r with
        | ')' :: r => return ([e], r)
        | ',' :: r =>
          let (l, r) ← fields? fuel r
          return (e :: l, r)
        | _ => none
      | _ => none

end

def read? (s : String) : Option (List (String × Value)) := do
  let cs := s.toList
  let (v, rest) ← value? (2 * cs.length + 2) cs
  if (← skipAll? rest) = [] then v.toTable? else none

end Conclave.Settings.Ron
