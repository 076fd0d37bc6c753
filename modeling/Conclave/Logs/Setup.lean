import Conclave.Logs.Filter

/-!
# Where log events go

Events are printed to the console and written to files: one for everything and one for each
concern of the cluster. Console and main file obey a filter; the file of a concern takes every
event whose target begins with one of its own.
-/

namespace Conclave.Logs

/-- When a new log file is begun. -/
inductive Rotation where
  | never | daily | hourly
deriving DecidableEq, Repr

namespace Rotation

def name : Rotation → String
  | never => "Never"
  | daily => "Daily"
  | hourly => "Hourly"

/-- The form of the date at the end of a file's name, with zeros for digits. -/
def ending : Rotation → String
  | never => ""
  | daily => ".0000-00-00"
  | hourly => ".0000-00-00-00"

end Rotation

/-- How logging is set up. -/
structure Setup where
  directory : String
  console : Bool
  file : Bool
  level : Level
  rotation : Rotation
deriving DecidableEq, Repr

namespace Setup

/-- The set-up that variables of the environment ask for. The console is on unless it is denied,
files are off unless they are asked for. -/
def ofEnvironment (lookup : String → Option String) : Setup :=
  let home := (lookup "HOME").getD "/tmp"
  { directory := (lookup "RAFTLINE_LOG_DIR").getD (home ++ "/raftline/logs")
    console := (lookup "RAFTLINE_LOG_CONSOLE").all fun v => Text.lower v ≠ "false" && v ≠ "0"
    file := (lookup "RAFTLINE_LOG_FILE").any fun v => Text.lower v == "true" || v == "1"
    level := ((lookup "RAFTLINE_LOG_LEVEL").bind Level.read?).getD .info
    rotation := .daily }

/-- The filter of console and main file: a given one if it can be read, and otherwise the level
of the set-up. -/
def filter (s : Setup) (given : Option String) : Filter :=
  (given.bind Filter.read?).getD (.upTo s.level)

end Setup

/-- An event with the part of the program that it comes from. -/
structure Event where
  target : String
  level : Level
deriving DecidableEq, Repr

def Event.fields : List String := ["message"]

/-- The file of a concern and the targets that go to it. -/
structure Concern where
  file : String
  targets : List String
deriving DecidableEq, Repr

def concerns : List Concern :=
  [⟨"consensus.log", ["raftline_core::handler"]⟩,
    ⟨"membership.log", ["raftline_core::service"]⟩,
    ⟨"access.log", ["raftline_server", "actix_web"]⟩]

/-- Whether an event goes to the file of a concern. -/
def Concern.takes (c : Concern) (e : Event) : Bool :=
  c.targets.any fun t => t.toList.isPrefixOf e.target.toList

/-- The positions of the events that satisfy a condition. -/
def positions (p : Event → Bool) (events : List Event) : List Nat :=
  (events.zipIdx.filter fun e => p e.1).map (·.2)

/-- Which events were printed and written, by their positions. -/
structure Written where
  console : List Nat
  files : List (String × List Nat)
deriving DecidableEq, Repr

/-- Where events go under a set-up and a given filter. -/
def Setup.write (s : Setup) (given : Option String) (events : List Event) : Written :=
  let f := s.filter given
  let admitted := positions (fun e => f.admits e.target Event.fields e.level) events
  { console := if s.console then admitted else []
    files :=
      if s.file then
        ("raftline.log" ++ s.rotation.ending, admitted)
          :: concerns.map fun c => (c.file ++ s.rotation.ending, positions c.takes events)
      else [] }

/-- A run of a set-up. It does not start when files are wanted in a directory that cannot be
made. -/
def Setup.run? (s : Setup) (blocked : Bool) (given : Option String) (events : List Event) :
    Option Written :=
  if s.file && blocked then none else some (s.write given events)

end Conclave.Logs
