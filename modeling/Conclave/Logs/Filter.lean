import Conclave.Logs.Directive

/-!
# Filters of log events

A filter is a list of directives such as `info` or `target=debug`, with commas between them. Only
directives without a span and without values of fields say something of an event; they become the
rules of the filter. A rule speaks of the events whose target begins with its own and that have
its fields. The first rule that speaks of an event decides, and rules with more to say come first:
longer targets, then more fields. An event of which no rule speaks is left out.
-/

namespace Conclave.Logs

/-- What a filter says of the events below a target with certain fields. -/
structure Rule where
  target : Option String
  fields : List String
  ceiling : Ceiling
deriving DecidableEq, Repr

namespace Directive

def isDynamic (d : Directive) : Bool := d.span.isSome || !d.fields.isEmpty

/-- What a directive says of events, if it does not depend on a span or on values. -/
def toRule? (d : Directive) : Option Rule :=
  if d.span.isNone && d.fields.all (·.value.isNone) then
    some ⟨d.target, d.fields.map (·.name), d.ceiling⟩
  else none

end Directive

namespace Rule

/-- Whether a rule speaks of events with a target and fields. -/
def speaksOf (r : Rule) (target : String) (fields : List String) : Bool :=
  (r.target.getD "").toList.isPrefixOf target.toList && r.fields.all fields.contains

/-- The order of rules by how much they have to say; a rule without a target comes last, and texts
are compared where all else is equal. -/
def order (a b : Rule) : Ordering :=
  let size (r : Rule) : Nat := r.target.elim 0 (·.utf8ByteSize + 1)
  (compare (size b) (size a)).then <| (compare b.fields.length a.fields.length).then <|
    (compareOfLessAndEq (b.target.getD "") (a.target.getD "")).then
      (compareOfLessAndEq b.fields a.fields)

/-- Puts a rule into its place among ordered rules, instead of one for the same events. -/
def insert (r : Rule) : List Rule → List Rule
  | [] => [r]
  | x :: rest =>
    match r.order x with
    | .lt => r :: x :: rest
    | .eq => r :: rest
    | .gt => x :: insert r rest

end Rule

/-- A list of rules; the first that speaks of an event decides. -/
structure Filter where
  rules : List Rule
deriving DecidableEq, Repr

namespace Filter

/-- The filter that lets through the events up to a level. -/
def upTo (l : Level) : Filter := ⟨[⟨none, [], some l⟩]⟩

/-- The filter of directives. Those that may depend on spans are counted after the others. -/
def ofDirectives (ds : List Directive) : Filter :=
  let ordered := ds.filter (!·.isDynamic) ++ ds.filter (·.isDynamic)
  ⟨(ordered.filterMap (·.toRule?)).foldl (fun rules r => r.insert rules) []⟩

/-- A text cut at every comma, without empty parts. -/
def parts (s : String) : List String :=
  ((Text.cut ',' s.toList).filter (· ≠ [])).map String.ofList

def read? (s : String) : Option Filter := ((parts s).mapM Directive.read?).map ofDirectives

def admits (f : Filter) (target : String) (fields : List String) (l : Level) : Bool :=
  (f.rules.find? (·.speaksOf target fields)).any (·.ceiling.admits l)

end Filter

end Conclave.Logs
