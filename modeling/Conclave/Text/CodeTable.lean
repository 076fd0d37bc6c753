import Conclave.Text.Cut
import Conclave.Text.Number

/-!
# Tables over code points

A table gives values to ranges of code points, which ascend and do not overlap; a code point
outside of them has none. It is written as a text of entries with blanks between them. An entry is
a code point or two with a hyphen between them, in hexadecimal, and perhaps a colon and the value:
`41-5a` or `300-314:230`.
-/

namespace Conclave.Text

/-- A range of code points and its value. -/
structure CodeRange (α : Type) where
  first : Nat
  last : Nat
  value : α

/-- A table over code points. -/
structure CodeTable (α : Type) where
  ranges : Array (CodeRange α)

def hexNumber (cs : List Char) : Nat :=
  cs.foldl (fun n c => 16 * n + (hexValue? c).getD 0) 0

/-- The characters of a list of hexadecimal numbers with points between them. -/
def codePoints (cs : List Char) : List Char := (cut '.' cs).map fun n => Char.ofNat (hexNumber n)

namespace CodeTable

variable {α : Type}

/-- The entry that a text writes, given how its value is read. -/
def entry (value : List Char → α) (cs : List Char) : CodeRange α :=
  let codes := cs.takeWhile (· ≠ ':')
  let first := codes.takeWhile (· ≠ '-')
  let last := codes.drop (first.length + 1)
  ⟨hexNumber first, hexNumber (if last = [] then first else last),
    value (cs.drop (codes.length + 1))⟩

/-- A table with one more entry, given by its text, the last character first. -/
def push (value : List Char → α) (t : Array (CodeRange α)) (read : List Char) :
    Array (CodeRange α) :=
  if read = [] then t else t.push (entry value read.reverse)

/-- The table that a text writes, given how values are read. -/
def read (value : List Char → α) (s : String) : CodeTable α :=
  let (t, word) := s.foldl (fun (t, word) c =>
    if c = ' ' ∨ c = '\n' then (push value t word, []) else (t, c :: word)) (#[], [])
  ⟨push value t word⟩

/-- The range around a code point among those at the positions from `lo` to `hi`. -/
def rangeWithin? (t : Array (CodeRange α)) (n lo hi : Nat) : Option (CodeRange α) :=
  if lo < hi then
    let mid := (lo + hi) / 2
    match t[mid]? with
    | some r =>
      if n < r.first then rangeWithin? t n lo mid
      else if r.last < n then rangeWithin? t n (mid + 1) hi
      else some r
    | none => none
  else none
termination_by hi - lo

def range? (t : CodeTable α) (c : Char) : Option (CodeRange α) :=
  rangeWithin? t.ranges c.toNat 0 t.ranges.size

def get? (t : CodeTable α) (c : Char) : Option α := (t.range? c).map (·.value)

end CodeTable

abbrev CharSet := CodeTable Unit

def CharSet.read (s : String) : CharSet := CodeTable.read (fun _ => ()) s

def CharSet.contains (t : CharSet) (c : Char) : Bool := (t.range? c).isSome

end Conclave.Text
