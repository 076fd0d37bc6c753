import Conclave.Text.Category

/-!
# Characters that are shown as they are

Two properties of the Unicode character data: whether a character has a visible form of its own,
and whether it extends the character before it (`Grapheme_Extend`).
-/

namespace Conclave.Text

/-- The letters without a visible form: the fillers of Hangul syllables. -/
def isFiller (c : Char) : Bool :=
  c == '\u115f' || c == '\u1160' || c == '\u3164' || c == '\uffa0'

/-- Whether a character has a visible form of its own. -/
def isPrintable (c : Char) : Bool :=
  if c.toNat < 0x80 then 0x20 ≤ c.toNat && c.toNat < 0x7f
  else !(category c).isInvisible && !isFiller c

/-- The characters that extend the one before them though they are no nonspacing marks. The
halfwidth sound marks of Katakana are left out: they stand for themselves. -/
def otherExtending : CharSet := .read "9be 9d7 b3e b57 bbe bd7 cc0 cc2 cc7-cc8 cca-ccb cd5-cd6 d3e
d57 dcf ddf 1715 1734 1b35 1b3b 1b3d 1b43-1b44 1baa 1bf2-1bf3 200c 302e-302f a953 a9c0 111c0 11235
1133e 1134d 11357 113b8 113c2 113c5 113c7-113c9 113cf 114b0 114bd 115af 116b6 11930 1193d 11f41
16ff0-16ff1 1d165-1d166 1d16d-1d172 e0020-e007f"

/-- Whether a character extends the one before it. -/
def isExtending (c : Char) : Bool :=
  0x80 ≤ c.toNat && (match category c with
    | .mn | .me => true
    | _ => otherExtending.contains c)

end Conclave.Text
