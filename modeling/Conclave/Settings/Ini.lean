import Conclave.Settings.Value
import Conclave.Text.Blank

/-!
# Sections of keys and values

The format of files with the extension `ini`: lines with a key and a value, with an equals sign or
a colon between them, under headings in square brackets. A comment takes a whole line and begins
with a semicolon or a number sign at its front. Texts have escapes with a backslash, and values
may have parts in quotes. Keys above the first heading stand at the top of the document.
-/

namespace Conclave.Settings.Ini

/-- The character of an escape after its backslash and what follows it. A line break after a
backslash stands for nothing. A code point has four hexadecimal digits, of which a plus sign may
take the place of the first. -/
def escape? : List Char → Option (List Char × List Char)
  | [] => none
  | '0' :: r => some (['\x00'], r)
  | 'a' :: r => some (['\x07'], r)
  | 'b' :: r => some (['\x08'], r)
  | 't' :: r => some (['\t'], r)
  | 'r' :: r => some (['\r'], r)
  | 'n' :: r => some (['\n'], r)
  | '\n' :: r => some ([], r)
  | 'x' :: r => do
    let code := r.take 4
    let ds := if code.head? = some '+' then code.drop 1 else code
    let n ← ds.foldlM (fun n c => (Text.hexValue? c).map (16 * n + ·)) 0
    if code.length = 4 ∧ n.isValidChar then return ([Char.ofNat n], r.drop 4) else none
  | c :: r => some ([c], r)

/-- The text up to a character that ends it, and what follows from that character on. `mayEnd` says
whether the end of the document ends the text as well. -/
def textUpTo? (stops : Char → Bool) (mayEnd : Bool) : (fuel : Nat) → List Char →
    Option (List Char × List Char)
  | 0, _ => none
  | fuel + 1, cs =>
    match cs with
    | [] => if mayEnd then some ([], []) else none
    | c :: r =>
      if stops c then some ([], cs)
      else if c = '\\' then do
        let (x, r) ← escape? r
        let (text, rest) ← textUpTo? stops mayEnd fuel r
        return (x ++ text, rest)
      else do
        let (text, rest) ← textUpTo? stops mayEnd fuel r
        return (c :: text, rest)

def isBreak (c : Char) : Bool := c == '\n' || c == '\r'

/-- The rest of a value and what follows it: parts in quotes, then a text up to the end of the line
without blanks at its end. Only a text at the front loses the blanks at its front. -/
def valueFrom? (first : Bool) : (fuel : Nat) → List Char → Option (List Char × List Char)
  | 0, _ => none
  | fuel + 1, cs => do
    let quoted (quote : Char) (r : List Char) : Option (List Char × List Char) := do
      let (text, rest) ← textUpTo? (· == quote) false (r.length + 1) r
      let (more, rest) ← valueFrom? false fuel (rest.drop 1)
      return (text ++ more, rest)
    match cs with
    | [] => return ([], [])
    | '"' :: r => quoted '"' r
    | '\'' :: r => quoted '\'' r
    | _ =>
      let (text, rest) ← textUpTo? isBreak true (cs.length + 1) cs
      return (if first then Text.trimChars text else Text.trimEndChars text, rest)

def value? (cs : List Char) : Option (List Char × List Char) :=
  let cs := cs.dropWhile fun c => Text.isBlank c && !isBreak c
  valueFrom? true (cs.length + 1) cs

/-- A part of a document. -/
inductive Item where
  | heading (name : String)
  | property (key value : String)

/-- A text without blanks at its front, and whether what is left begins a line, given whether the
text does. -/
def skipBlanks : (begins : Bool) → List Char → Bool × List Char
  | begins, [] => (begins, [])
  | begins, c :: r => if Text.isBlank c then skipBlanks (c == '\n') r else (begins, c :: r)

/-- The parts of a document, given the key that has been read last. -/
def items? : (fuel : Nat) → (begins : Bool) → (key : List Char) → List Char → Option (List Item)
  | 0, _, _, _ => none
  | fuel + 1, begins, key, cs => do
    let (begins, cs) := skipBlanks begins cs
    match cs with
    | [] => return []
    | '[' :: r =>
      let (name, rest) ← textUpTo? (· == ']') false (r.length + 1) r
      let items ← items? fuel false key (rest.drop 1)
      return .heading (String.ofList (Text.trimChars name)) :: items
    | c :: r =>
      if c = ';' ∨ c = '#' then
        if begins then items? fuel true key ((r.dropWhile (· ≠ '\n')).drop 1) else none
      else if c = '=' ∨ c = ':' then
        if key = [] then none
        let (value, rest) ← value? r
        let items ← items? fuel false [] rest
        return .property (String.ofList key) (String.ofList value) :: items
      else
        let (text, rest) ← textUpTo? (fun c => c == '=' || c == ':') false (cs.length + 1) cs
        items? fuel false (Text.trimChars text) rest

/-- The properties of the sections: at the top, and under the headings in their order. -/
structure Sections where
  top : List (String × Value)
  named : List (String × List (String × Value))

def Sections.add (s : Sections) : Item → Sections
  | .heading name => { s with named := s.named ++ [(name, [])] }
  | .property key value =>
    let e := (key, Value.text value)
    match s.named.reverse with
    | [] => { s with top := s.top ++ [e] }
    | last :: before => { s with named := (((last.1, last.2 ++ [e]) :: before)).reverse }

/-- The entries of a document. Of several sections of one name the last one counts. -/
def read? (s : String) : Option (List (String × Value)) := do
  let cs := s.toList
  let items ← items? (2 * cs.length + 2) true [] cs
  let sections := items.foldl Sections.add ⟨[], []⟩
  let tables := sections.named.map fun e => (e.1, Value.table (Value.entriesOf e.2))
  return Value.entriesOf (sections.top ++ tables)

end Conclave.Settings.Ini
