import Conclave.Domain.Direction
import Conclave.Domain.Joining
import Conclave.Domain.Mapping
import Conclave.Domain.Punycode

/-!
# Names of domains

A domain name is brought into its one form, cut into labels at the points, and the labels that are
written in letters and digits only (after `xn--`) are read. `labels?` gives the labels of a valid
name. In a valid name no label begins with a mark, joiners have their places, labels read from
letters and digits were in their one form already, and all labels keep their directions.
-/

namespace Conclave.Domain

/-- What begins a label that stands for another one. -/
def encodedMark : List Char := ['x', 'n', '-', '-']

/-- Whether a text holds nothing but plain characters. -/
def isPlain (cs : List Char) : Bool := cs.all (·.toNat < 0x80)

/-- The most characters of a label with characters that are not plain. -/
def longestLabel : Nat := 1000

/-- The most characters after the mark of a label that stands for another one. -/
def longestEncoding : Nat := 2000

/-- The label that a label with a mark stands for. It is one that has to be written so: not plain,
in its one form, and without a mark itself. -/
def decodeLabel? (encoding : List Char) : Option (List Char) := do
  if encoding = [] ∨ encoding.getLast? = some '-' ∨ longestEncoding < encoding.length then none
  let label ← Punycode.decode? encoding
  if isPlain label ∨ encodedMark.isPrefixOf label then none
  else if label.all lasting.contains ∧ Text.normalize label = label then return label
  else none

/-- Whether a label without a mark may stand in a name. -/
def isLabel (label : List Char) : Bool :=
  isPlain label ||
    (!(label.head?.any fun c => (Text.category c).isMark) && placesJoiners [] label
      && label.length ≤ longestLabel)

/-- The label that a part of a name in its one form is or stands for. -/
def label? (part : List Char) : Option (List Char) := do
  let label ←
    if encodedMark.isPrefixOf part then
      if isPlain part then decodeLabel? (part.drop encodedMark.length) else none
    else some part
  if isLabel label then return label else none

def labels? (name : List Char) : Option (List (List Char)) := do
  let labels ← (Text.cut '.' (← mapName? name)).mapM label?
  if keepsDirections labels then return labels else none

end Conclave.Domain
