import Conclave.Fault
import Conclave.Ip.Text
import Conclave.Text.Blank

/-!
# Networks

A network is the set of the addresses of one family that begin with the same bits. It is kept
with the other bits cleared, so two networks are equal exactly when they have the same family,
length and leading bits.
-/

namespace Conclave.Ip

/-- The addresses that share the first `length` bits of `base`. -/
structure Network where
  base : Address
  length : Nat
  length_le : length ≤ base.width
  base_leading : base.leading length = base
deriving DecidableEq, Repr

namespace Network

/-- The network of an address and a length, if its family has that many bits. -/
def of? (a : Address) (length : Nat) : Option Network :=
  if h : length ≤ a.width then some ⟨a.leading length, length, by simpa using h, by simp⟩
  else none

/-- Whether a network holds the canonical form of an address. -/
def contains (n : Network) (a : Address) : Bool := a.canonical.leading n.length == n.base

def textOf (a : Address) (length : Nat) : String := a.text ++ "/" ++ toString length

def text (n : Network) : String := textOf n.base n.length

/-- The network of an address and a length, or the fault that names both. -/
def make (a : Address) (length : Nat) : Except Fault Network :=
  match of? a length with
  | some n => .ok n
  | none => .error (.invalidNetwork (textOf a length))

/-- The texts before and after the first slash, if there is one. -/
def splitSlash (cs : List Char) : List Char × Option (List Char) :=
  match cs.dropWhile (· ≠ '/') with
  | [] => (cs, none)
  | _ :: r => (cs.takeWhile (· ≠ '/'), some r)

/-- The network that a text without surrounding blanks writes: an address alone stands for
itself. -/
def ofChars? (cs : List Char) : Option Network := do
  let (address, length) := splitSlash cs
  let a ← Address.read? (String.ofList address)
  match length with
  | none => of? a a.width
  | some ds => of? a (← Text.natChars? 256 ds)

/-- The network that a text writes, or the fault that names the text. -/
def read (s : String) : Except Fault Network :=
  match ofChars? (Text.trimChars s.toList) with
  | some n => .ok n
  | none => .error (.invalidNetwork (Text.trim s))

end Network

end Conclave.Ip
