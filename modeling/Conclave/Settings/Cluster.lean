import Conclave.Endpoint
import Conclave.Membership
import Conclave.Settings.Layers
import Conclave.Text.Cut
import Conclave.Wire.Fields

/-!
# The settings of a cluster

Typed access to the settings, each with what holds when it is missing or has no value of its
type. From them come the desired membership, which needs addresses with a host and a port and
networks that are some, and the options that are fixed when a node starts.
-/

namespace Conclave.Settings

/-- The protocol that members are called with. -/
inductive ProtocolVersion where
  | http1
  | http2
deriving DecidableEq, Repr

namespace ProtocolVersion

def name : ProtocolVersion → String
  | http1 => "http1"
  | http2 => "http2"

def read (s : String) : Except Fault ProtocolVersion :=
  let word := Text.lower (Text.trim s)
  if word = "http1" ∨ word = "http/1.1" ∨ word = "http11" then .ok .http1
  else if word = "http2" ∨ word = "http/2" ∨ word = "h2" then .ok .http2
  else .error (.misconfigured (.unsupportedVersion word))

end ProtocolVersion

/-! ## The paths -/

def serverPath (key : String) : Path := [.key "raftline", .key "server", .key key]

def clusterPath (key : String) : Path := [.key "raftline", .key "cluster", .key key]

/-- The path of a setting of the store of message identities. -/
def memoryPath (key : String) : Path := clusterPath "duplicate-detector" ++ [.key key]

/-! ## Lists of texts -/

def splitCommas (s : String) : List String := (Text.cut ',' s.toList).map String.ofList

/-- The items of a list setting: the texts of a list, or of a text cut at its commas, without
the blanks around them and without those that are empty then. -/
def Value.toTexts (v : Value) : List String :=
  let raw := match v.toList? with
    | some items => items.filterMap Value.toText?
    | none => (v.toText?.map splitCommas).getD []
  (raw.map Text.trim).filter (· ≠ "")

/-- A list without repeats, each item at its first place. -/
def distinct (l : List String) : List String :=
  l.foldl (fun seen s => if seen.contains s then seen else seen ++ [s]) []

/-! ## Access by type -/

def int (s : Settings) (path : Path) (otherwise : Int) : Int :=
  ((s.get? path).bind Value.toInt?).getD otherwise

/-- A number without sign. A negative number wraps around. -/
def unsigned (s : Settings) (path : Path) (otherwise : Nat) : UInt64 :=
  UInt64.ofInt (s.int path otherwise)

def text? (s : Settings) (path : Path) : Option String := (s.get? path).bind Value.toText?

def texts (s : Settings) (path : Path) : List String :=
  ((s.get? path).map Value.toTexts).getD []

/-! ## The settings one by one -/

def serverAddress (s : Settings) : String := (s.text? (serverPath "address")).getD "0.0.0.0"

/-- The port that the server listens on, unless it is outside the range. -/
def serverPort (s : Settings) : UInt16 :=
  let n := s.int (serverPath "port") 3262
  if 0 ≤ n ∧ n < UInt16.size then UInt16.ofNat n.toNat else 3262

def members (s : Settings) : List String := distinct (s.texts (clusterPath "members"))

/-- The metadata of the node: the entries of a table that are texts. -/
def metadata (s : Settings) : Wire.Metadata :=
  let entries := ((s.get? (clusterPath "metadata")).bind Value.toTable?).getD []
  StringMap.ofList (entries.filterMap fun e => e.2.toText?.map (e.1, ·))

def networks (s : Settings) : Except Fault Ip.AccessList :=
  Ip.AccessList.read (s.texts (clusterPath "allowed-networks"))

/-- The address under which the node is known outside. -/
def publicEndpoint (s : Settings) : Option String :=
  ((s.text? (clusterPath "public-endpoint")).map Text.trim).filter (· ≠ "")

def protocolPath (s : Settings) : String :=
  (s.text? (clusterPath "protocol-path")).getD Wire.defaultPath

def requestTimeout (s : Settings) : UInt64 := s.unsigned (clusterPath "request-timeout-ms") 5000

def connectTimeout (s : Settings) : UInt64 := s.unsigned (clusterPath "connect-timeout-ms") 3000

def protocolVersion (s : Settings) : Except Fault ProtocolVersion :=
  match s.text? (clusterPath "protocol-version") with
  | some v => ProtocolVersion.read v
  | none => .ok .http1

/-- How long message identities are remembered, in milliseconds. -/
def retention (s : Settings) : UInt64 := s.unsigned (memoryPath "ttl-ms") 30000

def capacity (s : Settings) : UInt64 := s.unsigned (memoryPath "capacity") 100000

def trimInterval (s : Settings) : UInt64 := s.unsigned (memoryPath "trim-interval-ms") 10000

/-- The size beyond which bodies are kept in files. -/
def spillThreshold (s : Settings) : UInt64 :=
  s.unsigned (clusterPath "spill-threshold-bytes") 1048576

/-- The time between two looks at the file, in milliseconds. -/
def refreshInterval (s : Settings) : UInt64 := s.unsigned (clusterPath "config-refresh-ms") 5000

/-! ## What is made of them -/

/-- The desired membership. The first member without host and port is the fault, and after it
the first text that is no network. -/
def membership (s : Settings) : Except Fault Membership := do
  match s.members.find? fun m => (Endpoint.read? m).isNone with
  | some m => throw (.invalidAddress m)
  | none => return ⟨s.members, s.metadata, ← s.networks⟩

/-- What is fixed when a node starts. -/
structure Options where
  listenPort : UInt16
  publicEndpoint : Option String
  requestTimeout : UInt64
  connectTimeout : UInt64
  protocolVersion : ProtocolVersion
  protocolPath : String
  retention : UInt64
  capacity : UInt64
  trimInterval : UInt64
  spillThreshold : UInt64
  refreshInterval : UInt64
deriving DecidableEq, Repr

def options (s : Settings) : Except Fault Options := do
  return {
    listenPort := s.serverPort
    publicEndpoint := s.publicEndpoint
    requestTimeout := s.requestTimeout
    connectTimeout := s.connectTimeout
    protocolVersion := ← s.protocolVersion
    protocolPath := s.protocolPath
    retention := s.retention
    capacity := s.capacity
    trimInterval := s.trimInterval
    spillThreshold := s.spillThreshold
    refreshInterval := s.refreshInterval }

end Conclave.Settings
