import Conclave.Domain.Mapping.Table
import Conclave.Text.Normal

/-!
# Characters of domain names

A domain name may be typed in many ways: with capitals, with wide or circled letters, with
invisible characters in between. Before anything else it is brought into one form: every character
stays, is dropped, is replaced, or makes the name invalid, and the result is put into the composed
normal form.
-/

namespace Conclave.Domain

open Conclave.Text (CodeRange CodeTable CharSet codePoints)

/-- What replaces the characters of a range. -/
inductive Replacement where
  /-- Each is replaced by the same text. -/
  | text (cs : List Char)
  /-- Each is replaced by one character, the first by the given one; of so many neighbours only
  the first is replaced. -/
  | shifted (first : Char) (step : Nat)
deriving DecidableEq, Repr

def Replacement.ofEntry : List Char → Replacement
  | '+' :: cs => .shifted (Char.ofNat (Text.hexNumber cs)) 1
  | '*' :: cs => .shifted (Char.ofNat (Text.hexNumber cs)) 2
  | cs => .text (codePoints cs)

def lasting : CharSet := .read lastingEntries

def dropped : CharSet := .read droppedEntries

def replaced : CodeTable Replacement := .read Replacement.ofEntry replacedEntries

def replacementIn? (r : CodeRange Replacement) (c : Char) : Option (List Char) :=
  match r.value with
  | .text cs => some cs
  | .shifted first step =>
    let offset := c.toNat - r.first
    if offset % step = 0 then some [Char.ofNat (first.toNat + offset)] else none

/-- What becomes of a character, or nothing if it has no place in a name. -/
def mapChar? (c : Char) : Option (List Char) :=
  match (replaced.range? c).bind (replacementIn? · c) with
  | some cs => some cs
  | none =>
    if lasting.contains c then some [c]
    else if dropped.contains c then some []
    else none

def mapName? (cs : List Char) : Option (List Char) :=
  (cs.mapM mapChar?).map fun parts => Text.normalize parts.flatten

end Conclave.Domain
