import Conclave.Ip.Network

/-!
# Lists of admitted networks

A list of networks admits the addresses of each of them; the empty list admits every address.
-/

namespace Conclave.Ip

/-- The networks from which requests are admitted. -/
structure AccessList where
  networks : List Network
deriving DecidableEq, Repr

namespace AccessList

def everyone : AccessList := ⟨[]⟩

instance : Inhabited AccessList := ⟨everyone⟩

def admits (l : AccessList) (a : Address) : Bool :=
  l.networks.isEmpty || l.networks.any (·.contains a)

/-- The list of the networks that the entries write, in their order; blank entries write none.
The first entry that is no network is the fault. -/
def read (entries : List String) : Except Fault AccessList :=
  (((entries.map Text.trim).filter (· ≠ "")).mapM Network.read).map AccessList.mk

end AccessList

end Conclave.Ip
