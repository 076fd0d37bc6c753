import Conclave.Settings.Yaml.Stream
import Conclave.Settings.Value

/-!
# Nodes of YAML documents

The tree that tokens describe. A scalar that is plain is a number, a Boolean, nothing or a text by
its form; one in quotes or of a block is a text; a tag of the core schema says which of them it
is. An alias stands for the node with its anchor.
-/

namespace Conclave.Settings.Yaml

/-- A node. `bad` is one whose form does not fit its tag, or an alias inside its own node. -/
inductive Node where
  | text (value : String)
  | real (text : String)
  | int (value : Int)
  | bool (value : Bool)
  | null
  | bad
  | sequence (items : List Node)
  | mapping (entries : List (Node × Node))
deriving BEq, Inhabited

/-! ## Scalars -/

/-- A whole number of 64 bits in a base, with a sign. -/
def int? (base : Nat) (cs : List Char) : Option Int := do
  let (negative, ds) := match cs with
    | '-' :: r => (true, r)
    | '+' :: r => (false, r)
    | r => (false, r)
  if ds = [] then none
  let n ← ds.foldlM (fun n c => do
    let d ← Text.hexValue? c
    if d < base then return base * n + d else none) 0
  let x : Int := if negative then -n else n
  if -signed64 ≤ x ∧ x < signed64 then some x else none

/-- Whether a text is a floating point number: one of the names of infinities and of the number that
is none, or a text with a digit that reads as a number. -/
def isReal (s : String) : Bool :=
  [".inf", ".Inf", ".INF", "+.inf", "+.Inf", "+.INF", "-.inf", "-.Inf", "-.INF",
    ".nan", ".NaN", ".NAN"].contains s
    || (s.toList.any Char.isDigit && (Binary64.read? s).isSome)

def Node.ofPlain (s : String) : Node :=
  let based := match s.toList with
    | '0' :: 'x' :: r => int? 16 r
    | '0' :: 'o' :: r => int? 8 r
    | '+' :: r => int? 10 r
    | _ => none
  match based with
  | some n => .int n
  | none =>
    if s = "" ∨ s = "~" ∨ s = "null" then .null
    else if s = "true" then .bool true
    else if s = "false" then .bool false
    else
      match int? 10 s.toList with
      | some n => .int n
      | none => if isReal s then .real s else .text s

def coreTag : String := "tag:yaml.org,2002:"

def Node.ofTagged (handle suffix s : String) : Node :=
  if handle ≠ coreTag then .text s
  else
    match suffix with
    | "bool" => if s = "true" then .bool true else if s = "false" then .bool false else .bad
    | "int" => ((int? 10 s.toList).map Node.int).getD .bad
    | "float" => if isReal s then .real s else .bad
    | "null" => if s = "~" ∨ s = "null" then .null else .bad
    | _ => .text s

/-! ## Mappings -/

/-- The entries of a mapping from its keys and values in turn, given the key that waits for its
value. A bad node is no key. There is no second entry with the same key. -/
def pairUp? : (key : Node) → (entries : List (Node × Node)) → List Node →
    Option (List (Node × Node))
  | _, entries, [] => some entries.reverse
  | key, entries, n :: r =>
    if key == .bad then pairUp? n entries r
    else if entries.any fun e => e.1 == key then none
    else pairUp? .bad ((key, n) :: entries) r

/-! ## Reading nodes -/

/-- What is known from the front of a document: the tag prefixes, the anchors with their numbers,
the latest first, and the nodes of the anchors by their numbers. -/
structure Context where
  prefixes : List (String × String)
  anchors : List (String × Nat)
  nodes : List (Nat × Node)

def Context.resolve? (c : Context) (handle : String) : Option String :=
  match c.prefixes.lookup handle with
  | some full => some full
  | none =>
    if handle = "!!" then some coreTag
    else if 2 ≤ handle.length ∧ handle.endsWith "!" then none
    else some handle

/-- The properties of a node: the number of its anchor and its tag with the full handle. -/
structure Properties where
  anchor : Option Nat
  tag : Option (String × String)

def Context.declare (c : Context) (name : String) : Context × Nat :=
  let n := c.anchors.length
  ({ c with anchors := (name, n) :: c.anchors }, n)

/-- The properties at the front of tokens: an anchor and a tag in either order. -/
def properties? (c : Context) : List Token → Option (Properties × Context × List Token)
  | .anchor name :: .tag handle suffix :: r => do
    let (c, n) := c.declare name
    return (⟨some n, some (← c.resolve? handle, suffix)⟩, c, r)
  | .anchor name :: r =>
    let (c, n) := c.declare name
    some (⟨some n, none⟩, c, r)
  | .tag handle suffix :: .anchor name :: r => do
    let tag := (← c.resolve? handle, suffix)
    let (c, n) := c.declare name
    return (⟨some n, some tag⟩, c, r)
  | .tag handle suffix :: r => do
    return (⟨none, some (← c.resolve? handle, suffix)⟩, c, r)
  | ts => some (⟨none, none⟩, c, ts)

/-- The context once the node with some properties is complete. -/
def Context.complete (c : Context) (p : Properties) (n : Node) : Context :=
  match p.anchor with
  | some k => { c with nodes := (k, n) :: c.nodes }
  | none => c

/-- What has been read, the context after it, and the tokens that follow. -/
abbrev Read (α : Type) := α × Context × List Token

def Properties.scalar (p : Properties) (isPlain : Bool) (s : String) : Node :=
  if !isPlain then .text s
  else
    match p.tag with
    | some (handle, suffix) => .ofTagged handle suffix s
    | none => .ofPlain s

mutual

/-- A node. Blocks are admitted by `blocks`, and items with hyphens that are not indented by
`hyphens`. -/
def node? : (fuel : Nat) → (blocks hyphens : Bool) → Context → List Token → Option (Read Node)
  | 0, _, _, _, _ => none
  | fuel + 1, blocks, hyphens, c, ts =>
    match ts with
    | .alias name :: r => do
      let n ← c.anchors.lookup name
      return ((c.nodes.lookup n).getD .bad, c, r)
    | _ => do
      let (p, c, ts) ← properties? c ts
      let finish (x : Read Node) : Option (Read Node) :=
        some (x.1, x.2.1.complete p x.1, x.2.2)
      match ts with
      | .scalar isPlain s :: r => finish (p.scalar isPlain s, c, r)
      | .openSequence :: r =>
        let (l, c, r) ← flowItems? fuel true c r
        finish (.sequence l, c, r)
      | .openMapping :: r =>
        let (l, c, r) ← flowMembers? fuel true c r
        finish (.mapping (← pairUp? .bad [] l), c, r)
      | .blockEntry :: _ =>
        if hyphens then
          let (l, c, r) ← lineItems? fuel c ts
          finish (.sequence l, c, r)
        else if p.anchor.isSome || p.tag.isSome then finish (p.scalar true "", c, ts)
        else none
      | t :: r =>
        if blocks ∧ t = .sequenceStart then
          let (l, c, r) ← blockItems? fuel c r
          finish (.sequence l, c, r)
        else if blocks ∧ t = .mappingStart then
          let (l, c, r) ← blockMembers? fuel c r
          finish (.mapping (← pairUp? .bad [] l), c, r)
        else if p.anchor.isSome || p.tag.isSome then finish (p.scalar true "", c, ts)
        else none
      | [] => none

/-- The items of a block sequence after its start. -/
def blockItems? : (fuel : Nat) → Context → List Token → Option (Read (List Node))
  | 0, _, _ => none
  | fuel + 1, c, ts =>
    match ts with
    | .blockEnd :: r => some ([], c, r)
    | .blockEntry :: r => do
      let (n, c, r) ← match r with
        | .blockEntry :: _ | .blockEnd :: _ => some (.null, c, r)
        | _ => node? fuel true false c r
      let (l, c, r) ← blockItems? fuel c r
      return (n :: l, c, r)
    | _ => none

/-- The items of a block sequence that is not indented. -/
def lineItems? : (fuel : Nat) → Context → List Token → Option (Read (List Node))
  | 0, _, _ => none
  | fuel + 1, c, ts =>
    match ts with
    | .blockEntry :: r => do
      let (n, c, r) ← match r with
        | .blockEntry :: _ | .key :: _ | .value :: _ | .blockEnd :: _ => some (.null, c, r)
        | _ => node? fuel true false c r
      let (l, c, r) ← lineItems? fuel c r
      return (n :: l, c, r)
    | _ => some ([], c, ts)

/-- The keys and values of a block mapping after its start, in turn. -/
def blockMembers? : (fuel : Nat) → Context → List Token → Option (Read (List Node))
  | 0, _, _ => none
  | fuel + 1, c, ts => do
    let content (c : Context) (ts : List Token) : Option (Read Node) :=
      match ts with
      | .key :: _ | .value :: _ | .blockEnd :: _ => some (.null, c, ts)
      | _ => node? fuel true true c ts
    match ts with
    | .blockEnd :: r => return ([], c, r)
    | .key :: _ | .value :: _ =>
      let (k, c, r) ← match ts with
        | .key :: r => content c r
        | _ => some (.null, c, ts)
      let (v, c, r) ← match r with
        | .value :: r => content c r
        | _ => some (.null, c, r)
      let (l, c, r) ← blockMembers? fuel c r
      return (k :: v :: l, c, r)
    | _ => none

/-- The items of a flow sequence after its bracket. A key and a value make a mapping of one
entry. -/
def flowItems? : (fuel : Nat) → (first : Bool) → Context → List Token → Option (Read (List Node))
  | 0, _, _, _ => none
  | fuel + 1, first, c, ts => do
    match ts with
    | .closeSequence :: r => return ([], c, r)
    | _ =>
      let ts ← match ts, first with
        | _, true => some ts
        | .flowEntry :: r, false => some r
        | _, false => none
      match ts with
      | .closeSequence :: r => return ([], c, r)
      | .key :: r =>
        let (k, c, r) ← match r with
          | .value :: _ | .flowEntry :: _ | .closeSequence :: _ => some (.null, c, r)
          | _ => node? fuel false false c r
        let (v, c, r) ← match r with
          | .value :: .flowEntry :: _ | .value :: .closeSequence :: _ => some (.null, c, r.drop 1)
          | .value :: r => node? fuel false false c r
          | _ => some (.null, c, r)
        let (l, c, r) ← flowItems? fuel false c r
        return (.mapping (← pairUp? .bad [] [k, v]) :: l, c, r)
      | .value :: _ => none
      | _ =>
        let (n, c, r) ← node? fuel false false c ts
        let (l, c, r) ← flowItems? fuel false c r
        return (n :: l, c, r)

/-- The keys and values of a flow mapping after its brace, in turn. -/
def flowMembers? : (fuel : Nat) → (first : Bool) → Context → List Token → Option (Read (List Node))
  | 0, _, _, _ => none
  | fuel + 1, first, c, ts => do
    match ts with
    | .closeMapping :: r => return ([], c, r)
    | _ =>
      let ts ← match ts, first with
        | _, true => some ts
        | .flowEntry :: r, false => some r
        | _, false => none
      match ts with
      | .closeMapping :: r => return ([], c, r)
      | _ =>
        let (k, c, r) ← match ts with
          | .key :: r =>
            match r with
            | .value :: _ | .flowEntry :: _ | .closeMapping :: _ => some (.null, c, r)
            | _ => node? fuel false false c r
          | .value :: _ => some (.null, c, ts)
          | _ => do
            let (n, c, r) ← node? fuel false false c ts
            match r with
            | .value :: _ => none
            | _ => some (n, c, r)
        let (v, c, r) ← match r with
          | .value :: .flowEntry :: _ | .value :: .closeMapping :: _ => some (.null, c, r.drop 1)
          | .value :: r => node? fuel false false c r
          | _ => some (.null, c, r)
        let (l, c, r) ← flowMembers? fuel false c r
        return (k :: v :: l, c, r)

end

end Conclave.Settings.Yaml
