import Conclave.Text.Blank
import Conclave.Text.Number

/-!
# Hosts and ports

The address of a member is a host and a port with a colon between them. The host may stand in
square brackets, as an IPv6 address does.
-/

namespace Conclave

/-- A host and a port on it. -/
structure Endpoint where
  host : String
  port : UInt16
deriving DecidableEq, Repr

namespace Endpoint

/-- The texts before and after the last occurrence of a character. -/
def splitLast (c : Char) (cs : List Char) : Option (List Char × List Char) :=
  let after := (cs.reverse.takeWhile (· ≠ c)).reverse
  if after.length < cs.length then some (cs.take (cs.length - after.length - 1), after)
  else none

/-- A host without the square brackets around it, if there is one on either side. -/
def unbracket (cs : List Char) : List Char :=
  match cs with
  | '[' :: r => if r.getLast? = some ']' then r.dropLast else cs
  | _ => cs

/-- The host and the port that an address without surrounding blanks names. -/
def ofChars? (cs : List Char) : Option (List Char × Nat) := do
  let (host, port) ← splitLast ':' cs
  let port ← Text.natChars? UInt16.size port
  let host := unbracket host
  if host = [] then none else some (host, port)

/-- The endpoint that an address names, or `none` when the host or the port is missing. -/
def read? (address : String) : Option Endpoint :=
  (ofChars? (Text.trimChars address.toList)).map fun (host, port) =>
    ⟨String.ofList host, UInt16.ofNat port⟩

end Endpoint

end Conclave
