import Conclave.Binary64.Text
import Conclave.Json.Value

/-!
# Values of settings

What a setting may hold in a file or in the environment, and how it is read as a number, a text
or a list. A number is read from Booleans, from the nearest whole number of a floating point
number, and from texts that write one or say yes or no; a text is read from every value that is
no list, table or nothing.
-/

namespace Conclave.Settings

/-- The value of a setting. The entries of a table have different keys. A whole number may be as
large as an unsigned number of 64 bits. -/
inductive Value where
  | nothing
  | bool (value : Bool)
  | int (value : Int)
  | float (value : Binary64)
  | text (value : String)
  | list (items : List Value)
  | table (entries : List (String × Value))
deriving Inhabited

namespace Value

def toInt? : Value → Option Int
  | bool b => some (if b then 1 else 0)
  | int n => if n < signed64 then some n else none
  | float x => some x.toInt64
  | text s =>
    let word := Text.lower s
    if word = "true" ∨ word = "on" ∨ word = "yes" then some 1
    else if word = "false" ∨ word = "off" ∨ word = "no" then some 0
    else Text.readInt64? s
  | _ => none

def toText? : Value → Option String
  | bool b => some (if b then "true" else "false")
  | int n => some (toString n)
  | float x => some x.plain
  | text s => some s
  | _ => none

def toList? : Value → Option (List Value)
  | list items => some items
  | _ => none

def toTable? : Value → Option (List (String × Value))
  | table entries => some entries
  | _ => none

/-- Entries with a value under a key, in the place of what is there. -/
def putEntry (k : String) (v : Value) : List (String × Value) → List (String × Value)
  | [] => [(k, v)]
  | e :: r => if e.1 = k then (k, v) :: r else e :: putEntry k v r

/-- The entries of a list of keys and values; the last one of several equal keys counts. -/
def entriesOf (l : List (String × Value)) : List (String × Value) :=
  l.foldl (fun entries e => putEntry e.1 e.2 entries) []

mutual

def ofJson : Json → Value
  | .null => nothing
  | .bool b => bool b
  | .int n => int n
  | .float x => float x
  | .text s => text s
  | .array items => list (ofItems items)
  | .object members => table (ofMembers members)

def ofItems : List Json → List Value
  | [] => []
  | x :: r => ofJson x :: ofItems r

def ofMembers : List (String × Json) → List (String × Value)
  | [] => []
  | (k, x) :: r => (k, ofJson x) :: ofMembers r

end

end Value

end Conclave.Settings
