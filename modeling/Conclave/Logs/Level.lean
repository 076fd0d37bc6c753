import Conclave.Text.Number

/-!
# Levels of log events

Five levels, and filters that let through the events up to a level or none at all.
-/

namespace Conclave.Logs

/-- How much an event matters, the most important first. -/
inductive Level where
  | error | warn | info | debug | trace
deriving DecidableEq, Repr

namespace Level

def name : Level → String
  | error => "ERROR"
  | warn => "WARN"
  | info => "INFO"
  | debug => "DEBUG"
  | trace => "TRACE"

def rank : Level → Nat
  | error => 1
  | warn => 2
  | info => 3
  | debug => 4
  | trace => 5

def all : List Level := [error, warn, info, debug, trace]

def ofRank? (n : Nat) : Option Level := all.find? (·.rank = n)

/-- The level that a text names, by number or by name in any letter case. -/
def read? (s : String) : Option Level :=
  ((Text.readNat? 6 s).bind ofRank?).or (all.find? fun l => Text.sameLetters l.name s)

end Level

/-- The least important level that is let through, if any is. -/
abbrev Ceiling := Option Level

namespace Ceiling

/-- Whether a filter lets through events of a level. -/
def admits (c : Ceiling) (l : Level) : Bool := c.any fun most => l.rank ≤ most.rank

/-- The filter that a text names. No text at all stands for errors. -/
def read? (s : String) : Option Ceiling :=
  if s = "" then some (some .error)
  else if Text.readNat? 6 s = some 0 ∨ Text.sameLetters s "off" then some none
  else (Level.read? s).map some

end Ceiling

end Conclave.Logs
