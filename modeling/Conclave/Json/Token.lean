import Conclave.Bytes
import Conclave.Text.Number

/-!
# Tokens of JSON text

A JSON document is read from its bytes in two steps: into tokens (this module) and from tokens
into a tree (`Json.Source`). The reader of tokens is a left fold of one step over the bytes. A
number is a longest run of the bytes that occur in numbers, a word a longest run of small
letters. The content of a string is kept as units, bytes and escaped UTF-16 units, because a
string in a part of a document that nobody looks at need not be Unicode text.
-/

namespace Conclave.Json

/-- A number as it is written. -/
structure Lexeme where
  negative : Bool
  whole : List Char
  fraction : Option (List Char)
  exponent : Option (Bool × List Char)
deriving DecidableEq, Repr

/-- The smallest parts of a document. `text none` is a string that is not Unicode text. -/
inductive Token where
  | openArray | closeArray | openObject | closeObject | comma | colon
  | null
  | bool (value : Bool)
  | number (lexeme : Lexeme)
  | text (content : Option String)
deriving DecidableEq, Repr

/-! ## Numbers -/

def spanDigits (cs : List Char) : List Char × List Char :=
  (cs.takeWhile (Text.digit? · |>.isSome), cs.dropWhile (Text.digit? · |>.isSome))

/-- An exponent: the mark, an optional sign and at least one digit, and nothing after it. The
Boolean is true for a minus sign. -/
def exponent? : List Char → Option (Option (Bool × List Char))
  | [] => some none
  | mark :: r =>
    if mark ≠ 'e' ∧ mark ≠ 'E' then none
    else
      let (negative, ds) := match r with
        | '-' :: ds => (true, ds)
        | '+' :: ds => (false, ds)
        | ds => (false, ds)
      match spanDigits ds with
      | (_ :: _, []) => some (some (negative, ds))
      | _ => none

/-- The number that a run of number characters is, if it is one: digits without a leading zero,
an optional fraction and an optional exponent. -/
def Lexeme.ofChars? (cs : List Char) : Option Lexeme := do
  let (negative, cs) := match cs with
    | '-' :: r => (true, r)
    | cs => (false, cs)
  let (whole, rest) := spanDigits cs
  if whole = [] ∨ (whole.head? = some '0' ∧ whole.length ≠ 1) then none
  let (fraction, rest) ← match rest with
    | '.' :: r => match spanDigits r with
      | ([], _) => none
      | (ds, rest) => some (some ds, rest)
    | _ => some (none, rest)
  return ⟨negative, whole, fraction, ← exponent? rest⟩

/-! ## Strings -/

/-- A part of a string's content: a byte as it stands, or an escaped UTF-16 unit. -/
inductive Piece where
  | byte (b : UInt8)
  | unit (n : Nat)
deriving DecidableEq, Repr

def codePointBytes (n : Nat) : Bytes := Bytes.ofText (String.singleton (Char.ofNat n))

/-- The bytes of a string's content. Escaped units beyond the first plane come in pairs; half a
pair alone is no text. -/
def contentBytes? : List Piece → Option Bytes
  | [] => some []
  | .byte b :: r => (contentBytes? r).map (b :: ·)
  | .unit h :: .unit l :: r =>
    if 0xd800 ≤ h ∧ h < 0xdc00 then
      if 0xdc00 ≤ l ∧ l < 0xe000 then
        (contentBytes? r).map
          (codePointBytes (0x10000 + (h - 0xd800) * 0x400 + (l - 0xdc00)) ++ ·)
      else none
    else if 0xdc00 ≤ h ∧ h < 0xe000 then none
    else (contentBytes? (.unit l :: r)).map (codePointBytes h ++ ·)
  | .unit h :: r =>
    if 0xd800 ≤ h ∧ h < 0xe000 then none
    else (contentBytes? r).map (codePointBytes h ++ ·)

/-- The text of a string's content, when it is Unicode text. -/
def content? (pieces : List Piece) : Option String := (contentBytes? pieces).bind Bytes.text?

def escaped? (c : Char) : Option UInt8 :=
  match c with
  | '"' => some 0x22
  | '\\' => some 0x5c
  | '/' => some 0x2f
  | 'b' => some 0x08
  | 'f' => some 0x0c
  | 'n' => some 0x0a
  | 'r' => some 0x0d
  | 't' => some 0x09
  | _ => none

/-! ## The reader -/

/-- Where the reader stands: between tokens, or inside one of them with what it has read, the
last part first. -/
inductive Place where
  | between
  | word (read : List Char)
  | number (read : List Char)
  | text (read : List Piece)
  | escape (read : List Piece)
  | hex (read : List Piece) (left : Nat) (value : Nat)
deriving DecidableEq, Repr

def char (b : UInt8) : Char := Char.ofNat b.toNat

def isNumberChar (c : Char) : Bool :=
  (Text.digit? c).isSome || c == '-' || c == '+' || c == '.' || c == 'e' || c == 'E'

def isWordChar (c : Char) : Bool := 'a' ≤ c && c ≤ 'z'

def wordToken? (cs : List Char) : Option Token :=
  if cs = ['n', 'u', 'l', 'l'] then some .null
  else if cs = ['t', 'r', 'u', 'e'] then some (.bool true)
  else if cs = ['f', 'a', 'l', 's', 'e'] then some (.bool false)
  else none

/-- A step from between two tokens, given the tokens before it, the last one first. -/
def start (tokens : List Token) (b : UInt8) : Option (Place × List Token) :=
  let c := char b
  match c with
  | ' ' | '\t' | '\n' | '\r' => some (.between, tokens)
  | '[' => some (.between, .openArray :: tokens)
  | ']' => some (.between, .closeArray :: tokens)
  | '\x7b' => some (.between, .openObject :: tokens)
  | '\x7d' => some (.between, .closeObject :: tokens)
  | ',' => some (.between, .comma :: tokens)
  | ':' => some (.between, .colon :: tokens)
  | '"' => some (.text [], tokens)
  | _ =>
    if (Text.digit? c).isSome || c == '-' then some (.number [c], tokens)
    else if isWordChar c then some (.word [c], tokens)
    else none

def step : Place × List Token → UInt8 → Option (Place × List Token)
  | (.between, ts), b => start ts b
  | (.word cs, ts), b =>
    if isWordChar (char b) then some (.word (char b :: cs), ts)
    else (wordToken? cs.reverse).bind fun t => start (t :: ts) b
  | (.number cs, ts), b =>
    if isNumberChar (char b) then some (.number (char b :: cs), ts)
    else (Lexeme.ofChars? cs.reverse).bind fun n => start (.number n :: ts) b
  | (.text ps, ts), b =>
    if char b = '"' then some (.between, .text (content? ps.reverse) :: ts)
    else if char b = '\\' then some (.escape ps, ts)
    else if b < 0x20 then none
    else some (.text (.byte b :: ps), ts)
  | (.escape ps, ts), b =>
    if char b = 'u' then some (.hex ps 4 0, ts)
    else (escaped? (char b)).map fun x => (.text (.byte x :: ps), ts)
  | (.hex ps left n, ts), b =>
    (Text.hexValue? (char b)).map fun d =>
      let n := 16 * n + d
      (if left = 1 then .text (.unit n :: ps) else .hex ps (left - 1) n, ts)

/-- The tokens when the bytes are at their end, the last one first. -/
def finish : Place × List Token → Option (List Token)
  | (.between, ts) => some ts
  | (.word cs, ts) => (wordToken? cs.reverse).map (· :: ts)
  | (.number cs, ts) => (Lexeme.ofChars? cs.reverse).map (.number · :: ts)
  | _ => none

/-- The tokens of a document, or `none` when some part of it is no token. -/
def tokens? (b : Bytes) : Option (List Token) :=
  ((b.foldlM step (.between, [])).bind finish).map List.reverse

end Conclave.Json
