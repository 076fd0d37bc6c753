import Conclave.Json.Value

/-!
# Writing JSON

The compact form: no blanks, members in the order of the value, and in strings only the quote,
the backslash and control characters escaped. Every function writes in front of a rest, so that
writing takes time in proportion to the text.
-/

namespace Conclave.Json

def escapeChar (c : Char) (rest : List Char) : List Char :=
  match c with
  | '"' => '\\' :: '"' :: rest
  | '\\' => '\\' :: '\\' :: rest
  | '\n' => '\\' :: 'n' :: rest
  | '\r' => '\\' :: 'r' :: rest
  | '\t' => '\\' :: 't' :: rest
  | _ =>
    if c = '\x08' then '\\' :: 'b' :: rest
    else if c = '\x0c' then '\\' :: 'f' :: rest
    else if c.toNat < 0x20 then
      '\\' :: 'u' :: '0' :: '0' :: Nat.digitChar (c.toNat / 16) :: Nat.digitChar (c.toNat % 16)
        :: rest
    else c :: rest

/-- The content of a string and its closing quote. -/
def writeContent (cs : List Char) (rest : List Char) : List Char :=
  cs.foldr escapeChar ('"' :: rest)

def writeText (s : String) (rest : List Char) : List Char := '"' :: writeContent s.toList rest

def writeInt (n : Int) (rest : List Char) : List Char :=
  match n with
  | .ofNat n => Nat.toDigits 10 n ++ rest
  | .negSucc n => '-' :: (Nat.toDigits 10 (n + 1) ++ rest)

mutual

/-- A value. A floating point number that is not finite is written as null. -/
def writeValue : Json → List Char → List Char
  | .null, rest => 'n' :: 'u' :: 'l' :: 'l' :: rest
  | .bool true, rest => 't' :: 'r' :: 'u' :: 'e' :: rest
  | .bool false, rest => 'f' :: 'a' :: 'l' :: 's' :: 'e' :: rest
  | .int n, rest => writeInt n rest
  | .float x, rest =>
    match x.scientific? with
    | some s => s.toList ++ rest
    | none => 'n' :: 'u' :: 'l' :: 'l' :: rest
  | .text s, rest => writeText s rest
  | .array [], rest => '[' :: ']' :: rest
  | .array (x :: r), rest => '[' :: writeValue x (writeItems r (']' :: rest))
  | .object [], rest => '\x7b' :: '\x7d' :: rest
  | .object ((k, x) :: r), rest =>
    '\x7b' :: writeText k (':' :: writeValue x (writeMembers r ('\x7d' :: rest)))

def writeItems : List Json → List Char → List Char
  | [], rest => rest
  | x :: r, rest => ',' :: writeValue x (writeItems r rest)

def writeMembers : List (String × Json) → List Char → List Char
  | [], rest => rest
  | (k, x) :: r, rest => ',' :: writeText k (':' :: writeValue x (writeMembers r rest))

end

def write (x : Json) : String := String.ofList (writeValue x [])

end Conclave.Json
