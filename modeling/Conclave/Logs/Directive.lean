import Conclave.Binary64.Text
import Conclave.Bytes
import Conclave.Logs.Level
import Conclave.Regex.Reader
import Conclave.Text.Blank
import Conclave.Text.Cut

/-!
# Directives of log filters

A directive names a level, a target, or both with an equals sign between them. After the target it
may name a span in square brackets, and after that, in braces, a field that the span or the event
has to have, perhaps with its value.

The places of the marks are counted in the directive without the blanks around it, but the parts
between the marks are cut out of the directive as it stands. So a blank at its front moves every
part by one place, and a blank at its end belongs to the last part.
-/

namespace Conclave.Logs

/-- A field that is asked for, and the text of its value if that matters. -/
structure FieldDemand where
  name : String
  value : Option String
deriving DecidableEq, Repr

/-- What a filter says of the events below a target, inside a span, and with certain fields. -/
structure Directive where
  target : Option String
  span : Option String
  fields : List FieldDemand
  ceiling : Ceiling
deriving DecidableEq, Repr

/-- Whether a text may be the value of a field: a Boolean, a number, or a regular expression without
conditions on words. -/
def isFieldValue (s : String) : Bool :=
  s = "true" || s = "false" || (Text.readNat? UInt64.size s).isSome || (Text.readInt64? s).isSome
    || (Binary64.read? s).isSome || (Regex.read? s).any (!·.asksForWords)

/-- The demand that a text writes: a name and perhaps a value after an equals sign. What follows a
second equals sign does not count. -/
def FieldDemand.read? (s : String) : Option FieldDemand :=
  match (Text.cut '=' s.toList).map String.ofList with
  | [] => none
  | [name] => some ⟨name, none⟩
  | name :: value :: _ => if isFieldValue value then some ⟨name, some value⟩ else none

namespace Directive

/-- Where the reading of a directive stands, and at which place of the text the current part
begins. -/
inductive Place where
  | start
  | levelOrTarget (first : Nat)
  | span (first : Nat)
  | field (first : Nat)
  | fields
  | target
  | level (first : Nat)
deriving DecidableEq, Repr

/-- The directive so far and the place. -/
structure Reading where
  directive : Directive
  place : Place

/-- Nothing said yet: a directive lets everything through. -/
def Reading.start : Reading := ⟨⟨none, none, [], some .trace⟩, .start⟩

/-- Whether a directive may begin with a character. -/
def mayStart (c : Char) : Bool := c == '-' || c == ':' || c == '_' || Text.isAlphanumeric c

/-- The part of a text between two places, counted in bytes. -/
def part? (text : Bytes) (first last : Nat) : Option String :=
  Bytes.text? ((text.take last).drop first)

def step (text : Bytes) (r : Reading) (next : Nat × Char) : Option Reading := do
  let d := r.directive
  let (i, c) := next
  match r.place with
  | .start =>
    if c = '[' then return ⟨d, .span (i + 1)⟩
    else if mayStart c then return ⟨d, .levelOrTarget i⟩
    else none
  | .levelOrTarget first =>
    if c = '=' then return ⟨{ d with target := some (← part? text first i) }, .level (i + 1)⟩
    else if c = '[' then return ⟨{ d with target := some (← part? text first i) }, .span (i + 1)⟩
    else return r
  | .span first =>
    if c = ']' then return ⟨{ d with span := some (← part? text first i) }, .target⟩
    else if c = '\x7b' then
      let name ← part? text first i
      return ⟨{ d with span := if name = "" then none else some name }, .field (i + 1)⟩
    else return r
  | .field first =>
    if c = '\x7d' then
      let field ← part? text first i
      if field = "" then none
      return ⟨{ d with fields := d.fields ++ [← FieldDemand.read? field] }, .fields⟩
    else return r
  | .fields => if c = ']' then return ⟨d, .target⟩ else none
  | .target => if c = '=' then return ⟨d, .level (i + 1)⟩ else none
  | .level _ => return r

/-- The directive at the end of its text. A level that is not given lets everything through. -/
def finish (text : Bytes) (r : Reading) : Option Directive := do
  let d := r.directive
  match r.place with
  | .levelOrTarget first =>
    let name ← part? text first text.length
    match Ceiling.read? name with
    | some ceiling => return { d with ceiling := ceiling }
    | none => return { d with target := some name }
  | .level first =>
    let name ← part? text first text.length
    if name = "" then return d else return { d with ceiling := ← Ceiling.read? name }
  | .target => return d
  | _ => none

def placed : Nat → List Char → List (Nat × Char)
  | _, [] => []
  | i, c :: r => (i, c) :: placed (i + c.utf8Size) r

def read? (s : String) : Option Directive :=
  let text := Bytes.ofText s
  ((placed 0 (Text.trimChars s.toList)).foldlM (step text) .start).bind (finish text)

end Directive

end Conclave.Logs
