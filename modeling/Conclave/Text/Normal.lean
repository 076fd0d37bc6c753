import Conclave.Text.CodeTable
import Conclave.Text.Normal.Table

/-!
# The composed normal form of texts

A character may stand for a sequence of others, its canonical decomposition, and the marks of
different classes after a letter may stand in any order. The composed normal form is the same for
all spellings of a text: everything is decomposed, marks are put in the order of their classes,
and what composes with the letter before it is composed again.
-/

namespace Conclave.Text

/-! ## Syllables of Hangul -/

namespace Hangul

/-- The first syllable; the syllables follow in the order of their leading consonants, then of
their vowels, then of their trailing consonants. -/
def firstSyllable : Nat := 0xac00

def firstLeading : Nat := 0x1100

def firstVowel : Nat := 0x1161

/-- The place before the first trailing consonant, of twenty-seven. -/
def noTrailing : Nat := 0x11a7

def decompose? (c : Char) : Option (List Char) :=
  let n := c.toNat - firstSyllable
  if firstSyllable ≤ c.toNat && n < 19 * 21 * 28 then
    let pair := [Char.ofNat (firstLeading + n / (21 * 28)), Char.ofNat (firstVowel + n / 28 % 21)]
    some (if n % 28 = 0 then pair else pair ++ [Char.ofNat (noTrailing + n % 28)])
  else none

/-- The syllable of a leading consonant and a vowel, or of such a syllable and a trailing
consonant. -/
def compose? (a b : Char) : Option Char :=
  let leading := a.toNat - firstLeading
  let vowel := b.toNat - firstVowel
  let syllable := a.toNat - firstSyllable
  let trailing := b.toNat - noTrailing
  if firstLeading ≤ a.toNat && leading < 19 && firstVowel ≤ b.toNat && vowel < 21 then
    some (Char.ofNat (firstSyllable + (leading * 21 + vowel) * 28))
  else if firstSyllable ≤ a.toNat && syllable < 19 * 21 * 28 && syllable % 28 = 0
      && noTrailing < b.toNat && trailing < 28 then
    some (Char.ofNat (a.toNat + trailing))
  else none

end Hangul

/-! ## Decomposing -/

/-- The canonical decompositions of characters that are no syllables of Hangul. -/
def decompositions : CodeTable (List Char) := .read codePoints decompositionEntries

def combiningClasses : CodeTable Nat := .read hexNumber combiningClassEntries

/-- The full canonical decomposition of a character. -/
def decompose (c : Char) : List Char :=
  ((Hangul.decompose? c).orElse fun _ => decompositions.get? c).getD [c]

/-- The class of a mark: marks of one class keep their order. It is zero for what starts anew, such
as a letter. -/
def combiningClass (c : Char) : Nat := (combiningClasses.get? c).getD 0

/-- Puts a character before others whose marks are in order; a mark goes behind those of lower
classes. -/
def placeMark (c : Char) : List Char → List Char
  | [] => [c]
  | x :: r =>
    if 0 < combiningClass x && combiningClass x < combiningClass c then x :: placeMark c r
    else c :: x :: r

/-- A text with its marks in the order of their classes. -/
def orderMarks (cs : List Char) : List Char := cs.foldr placeMark []

/-! ## Composing -/

def pairUp : List Char → List (Char × Char)
  | a :: b :: r => (a, b) :: pairUp r
  | _ => []

/-- The characters that compose with others, each with those that may follow it. -/
def compositions : CodeTable (List (Char × Char)) :=
  .read (fun cs => pairUp (codePoints cs)) compositionEntries

def compose? (a b : Char) : Option Char :=
  (Hangul.compose? a b).orElse fun _ => (compositions.get? a).bind (·.lookup b)

/-- Composes a letter with what follows it, given the marks in between that did not compose, the
last one first. A mark that stands behind another of its class, or of a higher one, is out of
reach. -/
def composeFrom (letter : Char) (between : List Char) : List Char → List Char
  | [] => letter :: between.reverse
  | c :: r =>
    let reachable := between.all (combiningClass · < combiningClass c)
    match if reachable then compose? letter c else none with
    | some d => composeFrom d between r
    | none =>
      if combiningClass c = 0 then letter :: between.reverse ++ composeFrom c [] r
      else composeFrom letter (c :: between) r

/-- A decomposed text with all composed that can be. Marks before the first letter stay. -/
def compose (cs : List Char) : List Char :=
  cs.takeWhile (combiningClass · ≠ 0) ++
    match cs.dropWhile (combiningClass · ≠ 0) with
    | [] => []
    | c :: r => composeFrom c [] r

def normalize (cs : List Char) : List Char := compose (orderMarks (cs.flatMap decompose))

end Conclave.Text
