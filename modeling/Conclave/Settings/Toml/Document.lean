import Conclave.Settings.Toml.Scalar

/-!
# TOML documents

Reading of TOML into a table of settings. A document is read line by line into headers and
assignments (`Line`), which are then carried out one after the other on a tree that remembers
how each table came about, because a table may be defined only once.
-/

namespace Conclave.Settings.Toml

/-! ## Tables -/

/-- How a table came about: by a header or as a part of one, by a key with dots, or complete. -/
inductive Origin where
  | header
  | implied
  | dotted
deriving DecidableEq, Repr

/-- A part of a document under construction. -/
inductive Node where
  | leaf (value : Value)
  | table (origin : Origin) (entries : List (String × Node))
  | tables (items : List (List (String × Node)))
deriving Inhabited

/-- Entries with one of them changed; the change is given what was there. -/
def alter (k : String) (f : Option Node → Option Node) :
    List (String × Node) → Option (List (String × Node))
  | [] => (f none).map fun n => [(k, n)]
  | e :: r =>
    if e.1 = k then (f (some e.2)).map fun n => (k, n) :: r
    else (alter k f r).map (e :: ·)

/-- Changes the table at a path that is made on the way if it is not there. The last of several
tables of one name is meant. -/
def descend (made : Origin) (f : List (String × Node) → Option (List (String × Node))) :
    List String → List (String × Node) → Option (List (String × Node))
  | [], entries => f entries
  | k :: r, entries =>
    alter k (fun
      | none => (descend made f r []).map (.table made)
      | some (.table origin inner) =>
        if made = .dotted ∧ origin = .header then none
        else (descend made f r inner).map (.table origin)
      | some (.tables items) =>
        if made = .dotted then none
        else
          match items.reverse with
          | last :: before => (descend made f r last).map fun t => .tables (before.reverse ++ [t])
          | [] => none
      | some (.leaf _) => none) entries

def assign (k : String) (v : Value) (entries : List (String × Node)) :
    Option (List (String × Node)) :=
  alter k (fun
    | none => some (.leaf v)
    | some _ => none) entries

def splitKey (ks : List String) : List String × String := (ks.dropLast, ks.getLast?.getD "")

def assignAt (ks : List String) (v : Value) (entries : List (String × Node)) :
    Option (List (String × Node)) :=
  let (path, k) := splitKey ks
  descend .dotted (assign k v) path entries

def openTable (k : String) (entries : List (String × Node)) : Option (List (String × Node)) :=
  alter k (fun
    | none => some (.table .header [])
    | some (.table .implied inner) => some (.table .header inner)
    | some _ => none) entries

/-- Opens the next one of several tables of one name. -/
def openNext (k : String) (entries : List (String × Node)) : Option (List (String × Node)) :=
  alter k (fun
    | none => some (.tables [[]])
    | some (.tables items) => some (.tables (items ++ [[]]))
    | some _ => none) entries

mutual

def Node.value : Node → Value
  | .leaf v => v
  | .table _ entries => .table (entryValues entries)
  | .tables items => .list (tableValues items)

def entryValues : List (String × Node) → List (String × Value)
  | [] => []
  | (k, n) :: r => (k, n.value) :: entryValues r

def tableValues : List (List (String × Node)) → List Value
  | [] => []
  | t :: r => .table (entryValues t) :: tableValues r

end

/-! ## Values -/

/-- How deep arrays and inline tables may be nested. -/
def nesting : Nat := 80

mutual

/-- A value, in which arrays and inline tables are nested at most `room` deep. -/
def value? : (fuel room : Nat) → List Char → Option (Value × List Char)
  | 0, _, _ => none
  | fuel + 1, room, cs =>
    match cs, room with
    | '[' :: r, room + 1 => (items? fuel room r).map fun (items, r) => (.list items, r)
    | '\x7b' :: r, room + 1 =>
      match skipSpace r.length r with
      | '\x7d' :: r => some (.table [], r)
      | r => (members? fuel room [] r).map fun (entries, r) => (.table (entryValues entries), r)
    | '"' :: _, _ | '\'' :: _, _ => (string? cs).map fun (s, r) => (.text s, r)
    | _, _ => scalar? cs

def items? : (fuel room : Nat) → List Char → Option (List Value × List Char)
  | 0, _, _ => none
  | fuel + 1, room, cs =>
    match skipSpace cs.length cs with
    | ']' :: r => some ([], r)
    | cs => do
      let (v, r) ← value? fuel room cs
      match skipSpace r.length r with
      | ']' :: r => return ([v], r)
      | ',' :: r =>
        let (vs, r) ← items? fuel room r
        return (v :: vs, r)
      | _ => none

/-- The members of an inline table from a key on. Line breaks and comments may stand between the
parts of a member, and a comma after the last one. -/
def members? : (fuel room : Nat) → List (String × Node) → List Char →
    Option (List (String × Node) × List Char)
  | 0, _, _, _ => none
  | fuel + 1, room, entries, cs => do
    let (ks, r) ← key? cs.length cs
    match skipSpace r.length r with
    | '=' :: r =>
      let (v, r) ← value? fuel room (skipSpace r.length r)
      let entries ← assignAt ks v entries
      match skipSpace r.length r with
      | '\x7d' :: r => return (entries, r)
      | ',' :: r =>
        match skipSpace r.length r with
        | '\x7d' :: r => return (entries, r)
        | r => members? fuel room entries r
      | _ => none
    | _ => none

end

/-! ## Documents -/

/-- A line of a document. -/
inductive Line where
  | header (key : List String)
  | next (key : List String)
  | assignment (key : List String) (value : Value)

def line? (cs : List Char) : Option (Line × List Char) :=
  match cs with
  | '[' :: '[' :: r => do
    let (ks, r) ← key? r.length r
    match r with
    | ']' :: ']' :: r => return (.next ks, ← dropLineEnd? r)
    | _ => none
  | '[' :: r => do
    let (ks, r) ← key? r.length r
    match r with
    | ']' :: r => return (.header ks, ← dropLineEnd? r)
    | _ => none
  | _ => do
    let (ks, r) ← key? cs.length cs
    match r with
    | '=' :: r =>
      let (v, r) ← value? r.length nesting (skipBlanks r)
      return (.assignment ks v, ← dropLineEnd? r)
    | _ => none

def lines? : (fuel : Nat) → List Char → Option (List Line)
  | 0, _ => some []
  | fuel + 1, cs =>
    match skipSpace cs.length cs with
    | [] => some []
    | cs => do
      let (l, r) ← line? cs
      return l :: (← lines? fuel r)

/-- The path of the table that assignments go to, and the root table. -/
abbrev State := List String × List (String × Node)

def perform (s : State) : Line → Option State
  | .header ks => do
    let (path, k) := splitKey ks
    return (ks, ← descend .implied (openTable k) path s.2)
  | .next ks => do
    let (path, k) := splitKey ks
    return (ks, ← descend .implied (openNext k) path s.2)
  | .assignment ks v => do return (s.1, ← descend .implied (assignAt ks v) s.1 s.2)

/-- The entries of a document, which may begin with a byte order mark. -/
def read? (s : String) : Option (List (String × Value)) := do
  let cs := Text.dropByteOrderMark s.toList
  let (_, root) ← (← lines? (cs.length + 1) cs).foldlM perform ([], [])
  return entryValues root

end Conclave.Settings.Toml
