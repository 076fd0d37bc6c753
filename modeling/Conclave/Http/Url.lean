import Conclave.Bytes
import Conclave.Domain.Name
import Conclave.Ip.Text

/-!
# Addresses of web resources

Whether a text that begins with `http://` is the address of a resource, as the URL standard has
it: after optional user information comes a host, which is an IPv6 address in square brackets,
an IPv4 address, or the name of a domain without forbidden characters, and then perhaps a port
below 2^16. A name whose last label is written like a number has to be an IPv4 address.
What follows the first slash, question mark or number sign is of no account.
-/

namespace Conclave.Http

/-- Whether a character ends the authority of an address. -/
def endsAuthority (c : Char) : Bool := c == '/' || c == '\\' || c == '?' || c == '#'

/-- Whether a character may not occur in a host name. -/
def isForbiddenInHost (c : Char) : Bool :=
  c.toNat ≤ 0x20 || c.toNat == 0x7f || "#/:<>?@[\\]^|%\"\x60\x7b\x7d".toList.contains c

def percentDecode : List Char → Bytes
  | '%' :: a :: b :: r =>
    match Text.hexValue? a, Text.hexValue? b with
    | some x, some y => UInt8.ofNat (16 * x + y) :: percentDecode r
    | _, _ => Bytes.ofText "%" ++ percentDecode (a :: b :: r)
  | c :: r => Bytes.ofText c.toString ++ percentDecode r
  | [] => []
termination_by cs => cs.length

/-- The number that a part of an IPv4 address writes: hexadecimal after `0x`, octal after a
leading zero, decimal otherwise. -/
def numberPart? (cs : List Char) : Option Nat :=
  let value (base : Nat) (ds : List Char) : Option Nat :=
    ds.foldl (fun n c => do
      let d ← Text.hexValue? c
      if d < base then return base * (← n) + d else none) (some 0)
  match cs with
  | [] => none
  | '0' :: 'x' :: ds | '0' :: 'X' :: ds => value 16 ds
  | '0' :: ds => value 8 ds
  | ds => value 10 ds

def isNumeric (cs : List Char) : Bool :=
  (cs ≠ [] && cs.all (Text.digit? · |>.isSome)) ||
    match cs with
    | '0' :: x :: ds => (x == 'x' || x == 'X') && ds.all (Text.hexValue? · |>.isSome)
    | _ => false

/-- Whether labels form an IPv4 address: at most four numbers, each of one byte, and the last
one of the bytes that are left. -/
def isV4 (parts : List (List Char)) : Bool :=
  match (parts.mapM numberPart?).map List.reverse with
  | some (last :: others) =>
    others.length < 4 && others.all (· < 256) && last < twoTo (8 * (4 - others.length))
  | _ => false

/-- The labels of a name with percent escapes, if the name may be that of a host. -/
def hostLabels? (cs : List Char) : Option (List (List Char)) := do
  let labels ← Domain.labels? (← Bytes.text? (percentDecode cs)).toList
  if labels = [[]] ∨ labels.any (·.any isForbiddenInHost) then none else return labels

def isHost (cs : List Char) : Bool :=
  match cs with
  | '[' :: r =>
    r.getLast? == some ']' &&
      match Ip.readV6 r.dropLast with
      | some (_, []) => true
      | _ => false
  | _ => (hostLabels? cs).any fun labels =>
    let labels := if labels.getLast? == some [] then labels.dropLast else labels
    !(labels.getLast?.any isNumeric) || isV4 labels

/-- The host and the port of an authority without user information. The colons inside square
brackets do not count. -/
def splitPort (cs : List Char) : List Char × List Char :=
  let bracketed := if cs.head? = some '[' then (cs.takeWhile (· ≠ ']')).length else 0
  let rest := cs.drop bracketed
  (cs.take bracketed ++ rest.takeWhile (· ≠ ':'), (rest.dropWhile (· ≠ ':')).drop 1)

def dropUser (cs : List Char) : List Char :=
  (cs.reverse.takeWhile (· ≠ '@')).reverse

/-- Whether a text after `http://` makes an address of a resource. Tabs and line ends count for
nothing, nor do blanks at the end. -/
def isLocator (s : String) : Bool :=
  let cs := (s.toList.reverse.dropWhile (·.toNat ≤ 0x20)).reverse
  let cs := cs.filter fun c => c ≠ '\t' && c ≠ '\n' && c ≠ '\r'
  let cs := cs.dropWhile fun c => c == '/' || c == '\\'
  let (host, port) := splitPort (dropUser (cs.takeWhile fun c => !endsAuthority c))
  isHost host && (port = [] || ((Text.digits? port).any (· < UInt16.size)))

end Conclave.Http
