import Conclave.Settings.Value

/-!
# Paths to settings

A path names a place inside a table: keys of letters, digits, hyphens and underscores with dots
between them, and positions of lists in square brackets, perhaps with blanks beside the number.
Setting a value makes the tables and lists on the way, in place of whatever else is there; a table
is merged into a table.
-/

namespace Conclave.Settings

/-- A step of a path. -/
inductive Step where
  | key (name : String)
  | position (index : Int)
deriving DecidableEq, Repr

abbrev Path := List Step

namespace Path

def isKeyChar (c : Char) : Bool :=
  ('a' ≤ c && c ≤ 'z') || ('A' ≤ c && c ≤ 'Z') || ('0' ≤ c && c ≤ '9') || c == '_' || c == '-'

/-- Whether a character is a blank inside brackets. -/
def isBlank (c : Char) : Bool := c == ' ' || c == '\t'

/-- The position between two brackets: an optional minus sign and digits, with blanks around
them. -/
def index? (cs : List Char) : Option Int :=
  let number := ((cs.dropWhile isBlank).reverse.dropWhile isBlank).reverse
  if number.head? = some '+' then none else Text.readInt64? (String.ofList number)

def steps? : (fuel : Nat) → List Char → Option Path
  | _, [] => some []
  | fuel + 1, '.' :: r =>
    let key := r.takeWhile isKeyChar
    if key = [] then none
    else (steps? fuel (r.dropWhile isKeyChar)).map (.key (String.ofList key) :: ·)
  | fuel + 1, '[' :: r =>
    let inside := r.takeWhile (· ≠ ']')
    match r.dropWhile (· ≠ ']') with
    | ']' :: rest => do
      let n ← index? inside
      (steps? fuel rest).map (.position n :: ·)
    | _ => none
  | _, _ => none

def read? (s : String) : Option Path :=
  let cs := s.toList
  let key := cs.takeWhile isKeyChar
  if key = [] then none
  else (steps? cs.length (cs.dropWhile isKeyChar)).map (.key (String.ofList key) :: ·)

/-- The path of a text; a text that writes none is a key of the root. -/
def ofKey (s : String) : Path := (read? s).getD [.key s]

end Path

namespace Value

/-- The item at a position, counted from the end when it is negative. -/
def itemAt? (items : List Value) (index : Int) : Option Value :=
  if 0 ≤ index then items[index.toNat]?
  else if (-index).toNat ≤ items.length then items[items.length - (-index).toNat]? else none

def get? : Value → Path → Option Value
  | v, [] => some v
  | table entries, .key k :: r => (entries.lookup k).bind (get? · r)
  | list items, .position i :: r => (itemAt? items i).bind (get? · r)
  | _, _ => none

/-- Entries with a changed value under a key; a key that is not there is added. -/
def modifyEntry (k : String) (f : Value → Value) : List (String × Value) → List (String × Value)
  | [] => [(k, f nothing)]
  | e :: r => if e.1 = k then (k, f e.2) :: r else e :: modifyEntry k f r

/-- Items with a changed one at a position. A list that is too short is filled up. -/
def modifyItem (items : List Value) (index : Int) (f : Value → Value) : List Value :=
  if 0 ≤ index then
    (items ++ List.replicate (index.toNat + 1 - items.length) nothing).modify index.toNat f
  else
    let back := (-index).toNat
    let items := List.replicate (back - items.length) nothing ++ items
    items.modify (items.length - back) f

def modifyAt (f : Value → Value) : Path → Value → Value
  | [], v => f v
  | .key k :: r, table entries => table (modifyEntry k (modifyAt f r) entries)
  | .key k :: r, _ => table (modifyEntry k (modifyAt f r) [])
  | .position i :: r, list items => list (modifyItem items i (modifyAt f r))
  | .position i :: r, _ => list (modifyItem [] i (modifyAt f r))

mutual

/-- Puts a value in the place of another one; a table is merged entry by entry. -/
def merge : Value → Value → Value
  | .table entries, old =>
    table (mergeEntries entries (old.toTable?.getD []))
  | v, _ => v

def mergeEntries : List (String × Value) → List (String × Value) → List (String × Value)
  | [], old => old
  | (k, v) :: r, old => mergeEntries r (modifyEntry k (merge v) old)

end

def set (root : Value) (path : Path) (v : Value) : Value := modifyAt (merge v) path root

end Value

end Conclave.Settings
