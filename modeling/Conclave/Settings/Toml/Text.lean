import Conclave.Text.Blank
import Conclave.Text.Number

/-!
# The text of TOML documents

Blanks, comments, ends of lines, strings and keys. Each reader gives what it has read and the
rest of the text.
-/

namespace Conclave.Settings.Toml

/-! ## Blanks, comments and ends of lines -/

/-- A text without the spaces and tabs at its front. -/
def skipBlanks (cs : List Char) : List Char := cs.dropWhile fun c => c == ' ' || c == '\t'

/-- Whether a character may occur in a comment or a string as it is. -/
def isPlain (c : Char) : Bool := c == '\t' || (0x20 ≤ c.toNat && c.toNat ≠ 0x7f)

/-- What follows a line break at the front of a text. -/
def dropBreak? : List Char → Option (List Char)
  | '\n' :: r => some r
  | '\r' :: '\n' :: r => some r
  | _ => none

def skipComment (cs : List Char) : List Char :=
  match cs with
  | '#' :: r => r.dropWhile isPlain
  | cs => cs

/-- What follows the end of a line, perhaps with blanks and a comment before it. -/
def dropLineEnd? (cs : List Char) : Option (List Char) :=
  match skipComment (skipBlanks cs) with
  | [] => some []
  | cs => dropBreak? cs

/-- A text without blanks, comments and line breaks at its front. -/
def skipSpace : (fuel : Nat) → List Char → List Char
  | 0, cs => cs
  | fuel + 1, cs =>
    let cs := skipComment (skipBlanks cs)
    match dropBreak? cs with
    | some r => skipSpace fuel r
    | none => cs

/-! ## Strings and keys -/

/-- The character of a code point in hexadecimal digits. -/
def codePoint? (digits : List Char) : Option Char := do
  let n ← digits.foldl (fun n c => do return 16 * (← n) + (← Text.hexValue? c)) (some 0)
  if n < 0xd800 ∨ (0xe000 ≤ n ∧ n < 0x110000) then some (Char.ofNat n) else none

/-- The character of an escape after its backslash, and the rest. -/
def escape? : List Char → Option (Char × List Char)
  | 'b' :: r => some ('\x08', r)
  | 't' :: r => some ('\t', r)
  | 'n' :: r => some ('\n', r)
  | 'f' :: r => some ('\x0c', r)
  | 'e' :: r => some ('\x1b', r)
  | 'r' :: r => some ('\r', r)
  | '"' :: r => some ('"', r)
  | '\\' :: r => some ('\\', r)
  | 'x' :: r =>
    if (r.take 2).length = 2 then (codePoint? (r.take 2)).map (·, r.drop 2) else none
  | 'u' :: r =>
    if (r.take 4).length = 4 then (codePoint? (r.take 4)).map (·, r.drop 4) else none
  | 'U' :: r =>
    if (r.take 8).length = 8 then (codePoint? (r.take 8)).map (·, r.drop 8) else none
  | _ => none

/-- The content of a string in double quotes after the first one. -/
def basic? : (fuel : Nat) → (read : List Char) → List Char → Option (String × List Char)
  | 0, _, _ => none
  | _ + 1, read, '"' :: r => some (String.ofList read.reverse, r)
  | fuel + 1, read, '\\' :: r => do
    let (c, r) ← escape? r
    basic? fuel (c :: read) r
  | fuel + 1, read, c :: r => if isPlain c then basic? fuel (c :: read) r else none
  | _ + 1, _, [] => none

/-- The content of a string in single quotes after the first one. -/
def literal? (cs : List Char) : Option (String × List Char) :=
  let content := cs.takeWhile fun c => isPlain c && c ≠ '\''
  match cs.dropWhile fun c => isPlain c && c ≠ '\'' with
  | '\'' :: r => some (String.ofList content, r)
  | _ => none

/-- A text without the blanks and line breaks at its front, if one of them is a line break. -/
def skipLineEnding? (cs : List Char) : Option (List Char) :=
  match dropBreak? (skipBlanks cs) with
  | some r => some (r.dropWhile fun c => c == ' ' || c == '\t' || c == '\n' || c == '\r')
  | none => none

/-- The end of a string over several lines: three quotes, with up to two more before them that
belong to it. -/
def closing? (quote : Char) (cs : List Char) : Option (List Char × List Char) :=
  let n := ((cs.take 5).takeWhile (· == quote)).length
  if n < 3 then none else some (List.replicate (n - 3) quote, cs.drop n)

/-- The content of a string over several lines after its opening. The line breaks in it stay as
they are. -/
def multiline? (quote : Char) : (fuel : Nat) → (read : List Char) → List Char →
    Option (String × List Char)
  | 0, _, _ => none
  | fuel + 1, read, cs =>
    match closing? quote cs with
    | some (last, r) => some (String.ofList (read.reverse ++ last), r)
    | none =>
      match cs with
      | [] => none
      | '\\' :: r =>
        if quote ≠ '"' then multiline? quote fuel ('\\' :: read) r
        else
          match skipLineEnding? r with
          | some r => multiline? quote fuel read r
          | none => do
            let (c, r) ← escape? r
            multiline? quote fuel (c :: read) r
      | '\r' :: '\n' :: r => multiline? quote fuel ('\n' :: '\r' :: read) r
      | c :: r =>
        if c = '\n' ∨ isPlain c then multiline? quote fuel (c :: read) r else none

def string? (cs : List Char) : Option (String × List Char) :=
  match cs with
  | '"' :: '"' :: '"' :: r => multiline? '"' (r.length + 1) [] ((dropBreak? r).getD r)
  | '\'' :: '\'' :: '\'' :: r => multiline? '\'' (r.length + 1) [] ((dropBreak? r).getD r)
  | '"' :: r => basic? (r.length + 1) [] r
  | '\'' :: r => literal? r
  | _ => none

def isBareKeyChar (c : Char) : Bool :=
  ('a' ≤ c && c ≤ 'z') || ('A' ≤ c && c ≤ 'Z') || ('0' ≤ c && c ≤ '9') || c == '_' || c == '-'

def simpleKey? (cs : List Char) : Option (String × List Char) :=
  match cs with
  | '"' :: r => basic? (r.length + 1) [] r
  | '\'' :: r => literal? r
  | _ =>
    let key := cs.takeWhile isBareKeyChar
    if key = [] then none else some (String.ofList key, cs.dropWhile isBareKeyChar)

def key? : (fuel : Nat) → List Char → Option (List String × List Char)
  | 0, _ => none
  | fuel + 1, cs => do
    let (k, r) ← simpleKey? (skipBlanks cs)
    match skipBlanks r with
    | '.' :: r =>
      let (ks, r) ← key? fuel r
      return (k :: ks, r)
    | r => return ([k], r)

end Conclave.Settings.Toml
