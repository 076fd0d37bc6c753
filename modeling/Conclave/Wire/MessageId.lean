import Conclave.Fault
import Conclave.Text.Blank
import Conclave.Text.Number

/-!
# Identities of messages

A 128-bit number that a message keeps over every attempt to send it. It is written as 32
hexadecimal digits with hyphens after the eighth, twelfth, sixteenth and twentieth; it is read
also without hyphens, in braces, and after `urn:uuid:`, with digits of either letter case.
-/

namespace Conclave.Wire

/-- The identity of a message. -/
structure MessageId where
  value : BitVec 128
deriving DecidableEq, Repr, Inhabited

namespace MessageId

/-- The digits of a hyphenated text of 36 characters. -/
def unhyphenate (cs : List Char) : Option (List Char) :=
  if cs.length = 36 ∧ [8, 13, 18, 23].all (fun i => cs[i]? = some '-') then
    some (cs.take 8 ++ (cs.drop 9).take 4 ++ (cs.drop 14).take 4 ++ (cs.drop 19).take 4
      ++ cs.drop 24)
  else none

/-- The hyphenated text inside braces or after the name of its namespace. -/
def unwrap (cs : List Char) : List Char :=
  if cs.length = 38 ∧ cs.head? = some '\x7b' ∧ cs.getLast? = some '\x7d' then (cs.drop 1).dropLast
  else if cs.length = 45 ∧ cs.take 9 = ['u', 'r', 'n', ':', 'u', 'u', 'i', 'd', ':'] then
    cs.drop 9
  else cs

def hexFrom : Nat → List Char → Option Nat
  | n, [] => some n
  | n, c :: r => (Text.hexValue? c).bind fun d => hexFrom (16 * n + d) r

/-- The identity that a text without surrounding blanks writes. -/
def ofChars? (cs : List Char) : Option MessageId := do
  let ds ← if cs.length = 32 then some cs else unhyphenate (unwrap cs)
  return ⟨BitVec.ofNat 128 (← hexFrom 0 ds)⟩

def ofText? (s : String) : Option MessageId := ofChars? s.toList

/-- The identity that a text writes between blanks. -/
def read? (s : String) : Option MessageId := ofChars? (Text.trimChars s.toList)

/-- The identity that a text writes, or the fault that names the text. -/
def read (s : String) : Except Fault MessageId :=
  match read? s with
  | some id => .ok id
  | none => .error (.malformed (.invalidMessageId s))

/-- The `count` lowest hexadecimal digits of a number in front of others. -/
def hexDigits : (count : Nat) → Nat → List Char → List Char
  | 0, _, rest => rest
  | k + 1, n, rest => hexDigits k (n / 16) (Nat.digitChar (n % 16) :: rest)

def digits (id : MessageId) : List Char := hexDigits 32 id.value.toNat []

def text (id : MessageId) : String :=
  let ds := id.digits
  String.ofList (ds.take 8 ++ '-' :: (ds.drop 8).take 4 ++ '-' :: (ds.drop 12).take 4
    ++ '-' :: (ds.drop 16).take 4 ++ '-' :: ds.drop 20)

end MessageId

end Conclave.Wire
