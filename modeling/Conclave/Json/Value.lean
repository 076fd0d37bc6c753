import Conclave.Json.Number
import Conclave.Json.Source
import Conclave.StringMap

/-!
# JSON values

A value without the accidents of its writing: numbers as whole or floating point numbers, and
members in ascending order of their keys with the last one of several equal keys. A document has
a value when its strings are Unicode text, no number is too large, and its parts are nested at
most 127 deep.
-/

namespace Conclave

/-- A JSON value. -/
inductive Json where
  | null
  | bool (value : Bool)
  | int (value : Int)
  | float (value : Binary64)
  | text (value : String)
  | array (items : List Json)
  | object (members : List (String × Json))
deriving Inhabited

namespace Json

/-- The value of a number: whole if it is written so and fits into 64 bits. -/
def ofLexeme? (x : Lexeme) : Option Json :=
  match x.int? (-signed64) UInt64.size with
  | some n => some (.int n)
  | none => x.float?.map .float

mutual

def ofSource? : Source → Option Json
  | .null => some .null
  | .bool b => some (.bool b)
  | .number x => ofLexeme? x
  | .text s => s.map .text
  | .array items => (ofItems? items).map .array
  | .object members => (ofMembers? members).map fun ms => .object (StringMap.ofList ms).entries

def ofItems? : List Source → Option (List Json)
  | [] => some []
  | x :: r => do return (← ofSource? x) :: (← ofItems? r)

/-- The keys and values of the members of an object. -/
def ofMembers? : List (Option String × Source) → Option (List (String × Json))
  | [] => some []
  | (k, x) :: r => do return (← k, ← ofSource? x) :: (← ofMembers? r)

end

def read? (b : Bytes) : Option Json := do
  let ts ← tokens? b
  if 128 ≤ Source.depth ts then none
  ofSource? (← Source.ofTokens? ts)

/-! ## Parts of a value -/

def get? : Json → String → Option Json
  | .object members, k => members.lookup k
  | _, _ => none

def text? : Json → Option String
  | .text s => some s
  | _ => none

def bool? : Json → Option Bool
  | .bool b => some b
  | _ => none

def int? : Json → Option Int
  | .int n => some n
  | _ => none

def array? : Json → Option (List Json)
  | .array items => some items
  | _ => none

def object? : Json → Option (List (String × Json))
  | .object members => some members
  | _ => none

end Json

end Conclave
