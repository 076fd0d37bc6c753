import Conclave.Text.Quoted

/-!
# Faults

Everything that can go wrong for a caller of the cluster, by cause. `Fault.message` holds the
wording of each, `Fault.status?` the status that a remote member answered with.
-/

namespace Conclave

/-- Why a request is refused. `stated` is a reason given in words by somebody else. -/
inductive Malformed where
  | missingHeader (name : String)
  | invalidHeader (name value : String)
  | unknownKind (text : String)
  | unknownDelivery (text : String)
  | invalidMessageId (text : String)
  | emptyName
  | unsendableName (name : String)
  | unsendableContentType (contentType : String)
  | notASignal (delivery : String)
  | badPayload
  | unbuildable
  | stated (reason : String)
deriving DecidableEq, Repr

def Malformed.message : Malformed → String
  | missingHeader name => "missing header '" ++ name ++ "'"
  | invalidHeader name value => "invalid value '" ++ value ++ "' for header '" ++ name ++ "'"
  | unknownKind text => "unknown message type '" ++ text ++ "'"
  | unknownDelivery text => "unknown delivery mode '" ++ text ++ "'"
  | invalidMessageId text => "invalid message id '" ++ text ++ "'"
  | emptyName => "message name must not be empty"
  | unsendableName name => "invalid message name " ++ Text.quoted name
  | unsendableContentType contentType =>
    "invalid message content type " ++ Text.quoted contentType
  | notASignal delivery => "'" ++ delivery ++ "' is not a signal delivery mode"
  | badPayload => "the body is not the JSON document that was expected"
  | unbuildable => "the request cannot be written"
  | stated reason => reason

/-- Why a member cannot be reached. -/
inductive Unreached where
  | noConnection
  | removed
  | stated (reason : String)
deriving DecidableEq, Repr

def Unreached.message : Unreached → String
  | noConnection => "the transport failed"
  | removed => "member removed"
  | stated reason => reason

/-- Why no member is the local one. -/
inductive Unresolved where
  | noMatch (members addresses : List String) (port : Nat)
  | ambiguous (candidates : List String)
  | stated (reason : String)
deriving DecidableEq, Repr

def Unresolved.message : Unresolved → String
  | noMatch members addresses port =>
    "none of " ++ Text.quotedList members ++ " matches local addresses ["
      ++ ", ".intercalate addresses ++ "] on port " ++ toString port
  | ambiguous candidates =>
    "ambiguous local member, candidates: " ++ Text.quotedList candidates
  | stated reason => reason

/-- Why a configuration is refused. -/
inductive Misconfigured where
  | unreadable
  | unsupportedVersion (text : String)
  | stated (reason : String)
deriving DecidableEq, Repr

def Misconfigured.message : Misconfigured → String
  | unreadable => "the configuration cannot be read"
  | unsupportedVersion text => "unsupported protocol version '" ++ text ++ "'"
  | stated reason => reason

/-- What went wrong. A `chain` lists an error and what was said around it, the outermost
first. -/
inductive Fault where
  | leaderUnavailable
  | canceled
  | unreachable (address : String) (reason : Unreached)
  | remoteStatus (address : String) (status : Nat)
  | localUnresolved (reason : Unresolved)
  | invalidAddress (address : String)
  | invalidNetwork (text : String)
  | malformed (reason : Malformed)
  | undecodable (reason : String)
  | consensus (chain : List String)
  | handler (chain : List String)
  | misconfigured (reason : Misconfigured)
  | io (reason : String)
deriving DecidableEq, Repr

namespace Fault

def message : Fault → String
  | leaderUnavailable => "leader is not available"
  | canceled => "operation canceled"
  | unreachable address reason =>
    "member '" ++ address ++ "' is unreachable: " ++ reason.message
  | remoteStatus address status =>
    "member '" ++ address ++ "' responded with status " ++ toString status
  | localUnresolved reason => "local member cannot be resolved: " ++ reason.message
  | invalidAddress address => "invalid member address '" ++ address ++ "'"
  | invalidNetwork text => "invalid network '" ++ text ++ "'"
  | malformed reason => "malformed request: " ++ reason.message
  | undecodable reason => "unable to decode response: " ++ reason
  | consensus chain => "consensus engine failure: " ++ ": ".intercalate chain
  | handler chain => "message handler failure: " ++ ": ".intercalate chain
  | misconfigured reason => "configuration error: " ++ reason.message
  | io reason => "io error: " ++ reason

/-- The status that a remote member answered with. -/
def status? : Fault → Option Nat
  | remoteStatus _ status => some status
  | _ => none

def isCanceled : Fault → Bool
  | canceled => true
  | _ => false

/-- Whether a fault says that a member could not be reached. -/
def isUnreachable : Fault → Bool
  | unreachable .. => true
  | _ => false

end Fault

end Conclave
