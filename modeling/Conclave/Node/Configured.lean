import Conclave.Node.Lifecycle
import Conclave.Settings.Watcher

/-!
# Nodes that are configured by a file

A node that is built from the settings of a watched file, and that follows the file from then on:
the watcher publishes on the channel of the node as long as the node is started and alive.
-/

namespace Conclave

open Settings

namespace Settings.Options

/-- The host that a node runs on, given the addresses of its interfaces. -/
def host (o : Options) (addresses : List Ip.Address) : Node.Host :=
  ⟨addresses, o.publicEndpoint, o.listenPort⟩

/-- How long and how many identities of messages a node remembers. -/
def memory (o : Options) : Node.Memory := ⟨o.retention.toNat, o.capacity.toNat⟩

end Settings.Options

namespace Node

variable {ω : Type} [Surroundings ω]

/-- The node that the settings of a watched file describe. -/
def ofWatcher (addresses : List Ip.Address) (w : Watcher) (prepare : Options → String → ω) :
    Except BuildFailure (Node ω) := do
  let o ← w.settings.options.mapError .refused
  build (o.host addresses) o.memory w.channel (prepare o)

def watch (n : Node ω) (w : Watcher) (stamp : Option Stamp) (file : File) (env : Environment) :
    Node ω × Watcher :=
  if n.isStarted && !n.lifetimeOver then
    let w := ({ w with channel := n.channel }.poll stamp file env).1
    ({ n with channel := w.channel }, w)
  else (n, w)

end Node

end Conclave
