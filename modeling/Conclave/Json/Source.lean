import Conclave.Json.Token

/-!
# JSON documents as they are written

The tree of a document, with numbers as they are written, members in their order with repeats,
and strings that need not be Unicode text. Typed readers work on this tree and look only at
the parts that they need. The tree is built by a left fold over the tokens with the list of
open arrays and objects as its state, so nesting is bounded by the document alone;
`depth` measures it.
-/

namespace Conclave.Json

/-- A document or a part of one. -/
inductive Source where
  | null
  | bool (value : Bool)
  | number (lexeme : Lexeme)
  | text (content : Option String)
  | array (items : List Source)
  | object (members : List (Option String × Source))
deriving Inhabited

namespace Source

/-- What may come next. -/
inductive Expected where
  | value | valueOrEnd | key | keyOrEnd | colon | separator
deriving DecidableEq, Repr

/-- An open array or object with its parts so far, the last one first; `member` is an object
whose next key has been read. -/
inductive Frame where
  | array (items : List Source)
  | object (members : List (Option String × Source))
  | member (members : List (Option String × Source)) (key : Option String)

/-- A tree under construction, the innermost open part first, or a finished one. -/
inductive Builder where
  | working (expected : Expected) (frames : List Frame)
  | finished (root : Source)

/-- Puts a finished part into the innermost open one. -/
def complete (v : Source) : List Frame → Option Builder
  | [] => some (.finished v)
  | .array items :: r => some (.working .separator (.array (v :: items) :: r))
  | .member members k :: r => some (.working .separator (.object ((k, v) :: members) :: r))
  | .object _ :: _ => none

def beginValue (frames : List Frame) : Token → Option Builder
  | .null => complete .null frames
  | .bool b => complete (.bool b) frames
  | .number n => complete (.number n) frames
  | .text s => complete (.text s) frames
  | .openArray => some (.working .valueOrEnd (.array [] :: frames))
  | .openObject => some (.working .keyOrEnd (.object [] :: frames))
  | _ => none

def close : List Frame → Token → Option Builder
  | .array items :: r, .closeArray => complete (.array items.reverse) r
  | .object members :: r, .closeObject => complete (.object members.reverse) r
  | _, _ => none

def beginMember : List Frame → Token → Option Builder
  | .object members :: r, .text k => some (.working .colon (.member members k :: r))
  | _, _ => none

def step : Builder → Token → Option Builder
  | .finished _, _ => none
  | .working .value frames, t => beginValue frames t
  | .working .valueOrEnd frames, t =>
    match t with
    | .closeArray => close frames t
    | _ => beginValue frames t
  | .working .key frames, t => beginMember frames t
  | .working .keyOrEnd frames, t =>
    match t with
    | .closeObject => close frames t
    | _ => beginMember frames t
  | .working .colon frames, t =>
    match t with
    | .colon => some (.working .value frames)
    | _ => none
  | .working .separator frames, t =>
    match t, frames with
    | .comma, .array _ :: _ => some (.working .value frames)
    | .comma, .object _ :: _ => some (.working .key frames)
    | _, _ => close frames t

/-- The tree of a list of tokens, if they form one document. -/
def ofTokens? (ts : List Token) : Option Source :=
  match ts.foldlM step (.working .value []) with
  | some (.finished root) => some root
  | _ => none

def read? (b : Bytes) : Option Source := (tokens? b).bind ofTokens?

/-- How many arrays and objects are open at most at one point. -/
def depth (ts : List Token) : Nat :=
  (ts.foldl (fun (d, most) t =>
    match t with
    | .openArray | .openObject => (d + 1, max most (d + 1))
    | .closeArray | .closeObject => (d - 1, most)
    | _ => (d, most)) (0, 0)).2

end Source

end Conclave.Json
