import Conclave.Json.Value

/-!
# Reading documents of a known shape

Readers of the parts of a document that a typed value needs. A record is an object, whose
members may come in any order beside members with other names, or an array of its fields in
their order; a field that comes twice is refused, and what is not a field is not looked at.
-/

namespace Conclave.Json.Source

/-- The natural number below `bound` that a part is. -/
def nat? (bound : Nat) : Source → Option Nat
  | .number x => x.nat? bound
  | _ => none

/-- The integer at least `least` and below `bound` that a part is. -/
def int? (least bound : Int) : Source → Option Int
  | .number x => x.int? least bound
  | _ => none

def bool? : Source → Option Bool
  | .bool b => some b
  | _ => none

def text? : Source → Option String
  | .text s => s
  | _ => none

def nullable? {α : Type} (read? : Source → Option α) : Source → Option (Option α)
  | .null => some none
  | s => (read? s).map some

def list? {α : Type} (read? : Source → Option α) : Source → Option (List α)
  | .array items => items.mapM read?
  | _ => none

/-- The tag that a part is: a text, or an object with the tag as its only key and null. -/
def tag? : Source → Option String
  | .text s => s
  | .object [(k, .null)] => k
  | _ => none

/-- The parts of a record with the given field names, in their order. -/
def fields? (names : List String) : Source → Option (List (Option Source))
  | .array items =>
    if items.length ≤ names.length then
      some ((List.range names.length).map fun i => items[i]?)
    else none
  | .object members =>
    if members.any (·.1.isNone)
        || names.any (fun n => 1 < (members.filter (·.1 == some n)).length) then none
    else some (names.map fun n => (members.find? (·.1 == some n)).map (·.2))
  | _ => none

def required {α : Type} (read? : Source → Option α) (part : Option Source) : Option α :=
  part.bind read?

/-- A field that stands for `value` when it is not there. -/
def defaulted {α : Type} (value : α) (read? : Source → Option α) (part : Option Source) :
    Option α :=
  match part with
  | none => some value
  | some s => read? s

end Conclave.Json.Source
