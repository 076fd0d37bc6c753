import Conclave.Text.Category
import Conclave.Text.Normal

/-!
# Joiners within labels

Two invisible characters tell whether the letters around them are joined in writing. A label may
hold them only where they are seen: after a mark that makes a conjunct, and the one that keeps
letters apart also between letters that would be joined without it.
-/

namespace Conclave.Domain

/-- The sides on which a letter is joined to others. -/
inductive Joining where
  | left
  | right
  | both
deriving DecidableEq, Repr

namespace Joining

def ofName : List Char → Joining
  | ['L'] => left
  | ['R'] => right
  | _ => both

/-- The letters of names that are joined to others. -/
def table : Text.CodeTable Joining := .read ofName "
620:D 622-625:R 626:D 627:R 628:D 629:R 62a-62e:D 62f-632:R 633-63f:D 641-647:D 648:R 649-64a:D
66e-66f:D 671-673:R 679-687:D 688-699:R 69a-6bf:D 6c0:R 6c1-6c2:D 6c3-6cb:R 6cc:D 6cd:R 6ce:D
6cf:R 6d0-6d1:D 6d2-6d3:R 6d5:R 6ee-6ef:R 6fa-6fc:D 6ff:D 710:R 712-714:D 715-719:R 71a-71d:D
71e:R 71f-727:D 728:R 729:D 72a:R 72b:D 72c:R 72d-72e:D 72f:R 74d:R 74e-758:D 759-75b:R 75c-76a:D
76b-76c:R 76d-770:D 771:R 772:D 773-774:R 775-777:D 778-779:R 77a-77f:D 7ca-7ea:D 840:R 841-845:D
846-847:R 848:D 849:R 84a-853:D 854:R 855:D 856-858:R 860:D 862-865:D 867:R 868:D 869-882:R 886:D
889-88d:D 88e:R 88f:D 8a0-8a9:D 8aa-8ac:R 8ae:R 8af-8b0:D 8b1-8b2:R 8b3-8b8:D 8b9:R 8ba-8c8:D
1807:D 1820-1878:D 1887-18a8:D 18aa:D a840-a871:D a872:L 10ac0-10ac4:D 10ac5:R 10ac7:R
10ac9-10aca:R 10acd:L 10ace-10ad2:R 10ad3-10ad6:D 10ad7:L 10ad8-10adc:D 10add:R 10ade-10ae0:D
10ae1:R 10ae4:R 10aeb-10aee:D 10aef:R 10b80:D 10b81:R 10b82:D 10b83-10b85:R 10b86-10b88:D 10b89:R
10b8a-10b8b:D 10b8c:R 10b8d:D 10b8e-10b8f:R 10b90:D 10b91:R 10ba9-10bac:R 10bad-10bae:D 10d00:L
10d01-10d21:D 10d22:R 10d23:D 10ec2:R 10ec3-10ec4:D 10ec6-10ec7:D 10f30-10f32:D 10f33:R
10f34-10f44:D 10f51-10f53:D 10f54:R 10f70-10f73:D 10f74-10f75:R 10f76-10f81:D 10fb0:D
10fb2-10fb3:D 10fb4-10fb6:R 10fb8:D 10fb9-10fba:R 10fbb-10fbc:D 10fbd:R 10fbe-10fbf:D 10fc1:D
10fc2-10fc3:R 10fc4:D 10fc9:R 10fca:D 10fcb:L 1e922-1e943:D"

def ofChar? (c : Char) : Option Joining := table.get? c

end Joining

def nonJoiner : Char := '\u200c'

def joiner : Char := '\u200d'

def viramaClass : Nat := 9

/-- Whether letters are joined past a character as if it were not there. -/
def isTransparent (c : Char) : Bool :=
  Text.category c = .mn || Text.category c = .me || c = (Char.ofNat 0x1e94b)

/-- Whether the nearest of some characters that are not transparent is joined in one of some
ways. -/
def meets (ways : List Joining) (cs : List Char) : Bool :=
  match (cs.dropWhile isTransparent).head?.bind Joining.ofChar? with
  | some j => ways.contains j
  | none => false

/-- Whether a joiner has its place between the characters before it, the last one first, and the
characters after it. -/
def hasPlace (c : Char) (before after : List Char) : Bool :=
  match before with
  | [] => false
  | b :: _ =>
    Text.combiningClass b = viramaClass
      || (c = nonJoiner && meets [.left, .both] before && meets [.right, .both] after)

/-- Whether all joiners have their places in a text, given the characters before it, the last one
first. -/
def placesJoiners (before : List Char) : List Char → Bool
  | [] => true
  | c :: r =>
    ((c ≠ nonJoiner && c ≠ joiner) || hasPlace c before r) && placesJoiners (c :: before) r

end Conclave.Domain
