import Conclave.Settings.Yaml.Node

/-!
# YAML documents as settings

The documents of a stream, and the settings of the only one. A stream without documents has no
settings. Keys are texts, numbers or Booleans, and count by their written form.
-/

namespace Conclave.Settings.Yaml

/-! ## Documents -/

/-- The tag prefixes of the directives at the front of tokens; at most one directive is for the
version. -/
def prefixes? (hasVersion : Bool) (l : List (String × String)) : List Token →
    Option (List (String × String) × List Token)
  | .version :: r => if hasVersion then none else prefixes? true l r
  | .tagPrefix handle text :: r =>
    if (l.lookup handle).isSome then none else prefixes? hasVersion ((handle, text) :: l) r
  | ts => some (l, ts)

/-- The content of a document, which may be missing. -/
def content? (l : List (String × String)) (ts : List Token) (explicit : Bool) :
    Option (Read Node) :=
  let c : Context := ⟨l, [], []⟩
  match ts, explicit with
  | .version :: _, true | .tagPrefix .. :: _, true | .documentStart :: _, true
  | .documentEnd :: _, true | .streamEnd :: _, true => some (.null, c, ts)
  | _, _ => node? (2 * ts.length + 2) true false c ts

/-- The documents of a stream. A document begins with a mark, unless it is the first one or the one
before it ends with a mark. -/
def documents? : (fuel : Nat) → (implicit : Bool) → List Token → Option (List Node)
  | 0, _, _ => none
  | fuel + 1, implicit, ts => do
    let ts := ts.dropWhile (· = .documentEnd)
    let after (r : Read Node) : Option (List Node) := do
      let (n, _, ts) := r
      let l ← match ts with
        | .documentEnd :: ts => documents? fuel true ts
        | .version :: _ | .tagPrefix .. :: _ => none
        | ts => documents? fuel false ts
      return n :: l
    match ts with
    | [.streamEnd] => return []
    | _ =>
      let (l, rest) ← prefixes? false [] ts
      match rest with
      | .documentStart :: r => after (← content? l r true)
      | _ => if implicit ∧ rest.length = ts.length then after (← content? l ts false) else none

/-! ## Settings -/

def keyOf? : Node → Option String
  | .text s => some s
  | .real s => some s
  | .int n => some (toString n)
  | .bool b => some (if b then "true" else "false")
  | _ => none

mutual

/-- The value of a node. The names of infinities are no values. -/
def valueOf? : Node → Option Value
  | .text s => some (.text s)
  | .real s => (Binary64.read? s).map .float
  | .int n => some (.int n)
  | .bool b => some (.bool b)
  | .null | .bad => some .nothing
  | .sequence l => (valuesOf? l).map .list
  | .mapping l => (entriesOf? l).map fun entries => .table (Value.entriesOf entries)

def valuesOf? : List Node → Option (List Value)
  | [] => some []
  | n :: r => do return (← valueOf? n) :: (← valuesOf? r)

/-- The keys and values of the entries of a mapping. -/
def entriesOf? : List (Node × Node) → Option (List (String × Value))
  | [] => some []
  | (k, n) :: r => do return (← keyOf? k, ← valueOf? n) :: (← entriesOf? r)

end

def read? (s : String) : Option (List (String × Value)) := do
  let ts ← tokens? s
  match ← documents? (ts.length + 1) true ts with
  | [] => return []
  | [n] => (← valueOf? n).toTable?
  | _ => none

end Conclave.Settings.Yaml
