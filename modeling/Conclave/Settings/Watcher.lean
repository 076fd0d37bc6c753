import Conclave.Settings.Cluster

/-!
# Watching a file of settings

A watcher publishes the membership of a file whenever the file has changed. It looks at the time
of the last modification first and then reads the content; the file may change in between, so
the two are separate arguments here. A file that is missing, unchanged or invalid leaves what was
published last.
-/

namespace Conclave.Settings

abbrev Stamp := Nat

/-- A watcher with the time of the version that it read last, the settings it was opened with,
and the channel it publishes on. -/
structure Watcher where
  stamp : Option Stamp
  settings : Settings
  channel : Membership.Channel

namespace Watcher

def membership (file : File) (env : Environment) : Except Fault Membership := do
  (← load file env).membership

def ofFile (stamp : Option Stamp) (file : File) (env : Environment) : Except Fault Watcher := do
  let settings ← load file env
  return ⟨stamp, settings, .new (← settings.membership)⟩

/-- Whether a time of modification calls for another look at the content. -/
def isStale (w : Watcher) (stamp : Option Stamp) : Bool := stamp.isSome && stamp ≠ w.stamp

/-- Looks at the file once; true when another membership was published. -/
def poll (w : Watcher) (stamp : Option Stamp) (file : File) (env : Environment) :
    Watcher × Bool :=
  if w.isStale stamp then
    let w := { w with stamp := stamp }
    match membership file env with
    | .error _ => (w, false)
    | .ok m =>
      let (channel, published) := w.channel.publish m
      ({ w with channel := channel }, published)
  else (w, false)

end Watcher

end Conclave.Settings
