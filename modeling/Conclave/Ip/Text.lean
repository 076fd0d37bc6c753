import Conclave.Ip.Address
import Conclave.Text.Number

/-!
# Internet addresses as text

IPv4 addresses are four decimal numbers without leading zeros. IPv6 addresses are eight groups
of at most four hexadecimal digits; one run of zero groups may be left out (`::`), and the last
two groups may be written as an IPv4 address. The written form leaves out the longest run of at
least two zero groups, the first of several.
-/

namespace Conclave.Ip

/-! ## Reading -/

/-! Every reader gives what it found at the front of a text, and the rest. -/

/-- A number of one to three decimal digits below 256, without leading zeros. -/
def readOctet (cs : List Char) : Option (Nat × List Char) :=
  let ds := cs.takeWhile (Text.digit? · |>.isSome)
  let n := (Text.digitsFrom 0 ds).getD 256
  if ds = [] ∨ 3 < ds.length ∨ (ds.head? = some '0' ∧ ds.length ≠ 1) ∨ 256 ≤ n then none
  else some (n, cs.drop ds.length)

def readNextOctet : List Char → Option (Nat × List Char)
  | '.' :: r => readOctet r
  | _ => none

def readV4 (cs : List Char) : Option (BitVec 32 × List Char) := do
  let (a, cs) ← readOctet cs
  let (b, cs) ← readNextOctet cs
  let (c, cs) ← readNextOctet cs
  let (d, cs) ← readNextOctet cs
  return (BitVec.ofNat 32 (((a * 256 + b) * 256 + c) * 256 + d), cs)

/-- The number that a text of hexadecimal digits continues. -/
def hexFrom (n : Nat) (ds : List Char) : Nat :=
  ds.foldl (fun n c => 16 * n + (Text.hexValue? c).getD 0) n

def readGroup (cs : List Char) : Option (BitVec 16 × List Char) :=
  let ds := cs.takeWhile (Text.hexValue? · |>.isSome)
  if ds = [] ∨ 4 < ds.length then none
  else some (BitVec.ofNat 16 (hexFrom 0 ds), cs.drop ds.length)

/-- A reader that has to find a colon first, except at the beginning. -/
def separated {α : Type} (first : Bool) (read : List Char → Option (α × List Char))
    (cs : List Char) : Option (α × List Char) :=
  if first then read cs
  else
    match cs with
    | ':' :: r => read r
    | _ => none

/-- Groups at the front of a text. `embedded` is true when the last two were written as an IPv4
address. -/
structure Groups where
  groups : List (BitVec 16)
  embedded : Bool
  rest : List Char

def readGroups (first : Bool) : (room : Nat) → List Char → Groups
  | 0, cs => ⟨[], false, cs⟩
  | room + 1, cs =>
    match if 0 < room then separated first readV4 cs else none with
    | some (b, rest) => ⟨[(b >>> 16).truncate 16, b.truncate 16], true, rest⟩
    | none =>
      match separated first readGroup cs with
      | some (g, rest) =>
        let more := readGroups false room rest
        { more with groups := g :: more.groups }
      | none => ⟨[], false, cs⟩

def ofGroups (gs : List (BitVec 16)) : BitVec 128 :=
  gs.foldl (fun b g => (b <<< 16) ||| g.zeroExtend 128) 0

def readV6 (cs : List Char) : Option (BitVec 128 × List Char) :=
  let head := readGroups true 8 cs
  if head.groups.length = 8 then some (ofGroups head.groups, head.rest)
  else if head.embedded then none
  else
    match head.rest with
    | ':' :: ':' :: r =>
      let tail := readGroups true (8 - (head.groups.length + 1)) r
      let zeros := List.replicate (8 - head.groups.length - tail.groups.length) 0
      some (ofGroups (head.groups ++ zeros ++ tail.groups), tail.rest)
    | _ => none

/-- The address that a whole text writes, if there is one. -/
def Address.read? (s : String) : Option Address :=
  let found : Option (Address × List Char) :=
    match readV4 s.toList with
    | some (b, rest) => some (.v4 b, rest)
    | none => (readV6 s.toList).map fun (b, rest) => (.v6 b, rest)
  match found with
  | some (a, []) => some a
  | _ => none

/-! ## Writing -/

/-- A number below 2^16 in decimal or hexadecimal digits. -/
def writeNumber (base n : Nat) : List Char := Nat.toDigits base n

def writeV4 (b : BitVec 32) : List Char :=
  let n := b.toNat
  writeNumber 10 (n / 0x1000000) ++ '.' :: writeNumber 10 (n / 0x10000 % 256)
    ++ '.' :: writeNumber 10 (n / 256 % 256) ++ '.' :: writeNumber 10 (n % 256)

def groupsOf (b : BitVec 128) : List (BitVec 16) :=
  [7, 6, 5, 4, 3, 2, 1, 0].map fun i => (b >>> (16 * i)).truncate 16

/-- The first longest run of zeros among the groups from position `i` on, as position and
length, when it is longer than the one found before. -/
def longestZeros : Nat → Nat × Nat → List (BitVec 16) → Nat × Nat
  | _, best, [] => best
  | i, best, g :: r =>
    let n := ((g :: r).takeWhile (· == 0)).length
    longestZeros (i + 1) (if best.2 < n then (i, n) else best) r

def writeGroups : List (BitVec 16) → List Char
  | [] => []
  | [g] => writeNumber 16 g.toNat
  | g :: r => writeNumber 16 g.toNat ++ ':' :: writeGroups r

def writeV6 (b : BitVec 128) : List Char :=
  match Address.mapped? b with
  | some v4 => [':', ':', 'f', 'f', 'f', 'f', ':'] ++ writeV4 v4
  | none =>
    let gs := groupsOf b
    let (start, n) := longestZeros 0 (0, 0) gs
    if 1 < n then writeGroups (gs.take start) ++ [':', ':'] ++ writeGroups (gs.drop (start + n))
    else writeGroups gs

def Address.text : Address → String
  | .v4 b => String.ofList (writeV4 b)
  | .v6 b => String.ofList (writeV6 b)

end Conclave.Ip
