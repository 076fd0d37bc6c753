import Conclave.Wire.Fields

/-!
# Kinds of requests, delivery, and statuses

The tags of the protocol. A tag is read without regard to surrounding blanks and to ASCII letter
case.
-/

namespace Conclave.Wire

/-- What a request asks for. -/
inductive Kind where
  | requestVote | appendEntries | installSnapshot | resign | metadata | custom
deriving DecidableEq, Repr

namespace Kind

def tag : Kind → String
  | requestVote => "RequestVote"
  | appendEntries => "AppendEntries"
  | installSnapshot => "InstallSnapshot"
  | resign => "Resign"
  | metadata => "Metadata"
  | custom => "CustomMessage"

def all : List Kind := [requestVote, appendEntries, installSnapshot, resign, metadata, custom]

def read? (s : String) : Option Kind := all.find? fun k => Text.sameLetters k.tag (Text.trim s)

/-- The kind with a tag, or the fault that names the text. -/
def read (s : String) : Except Fault Kind :=
  match read? s with
  | some k => .ok k
  | none => .error (.malformed (.unknownKind s))

def ofTag? (s : String) : Option Kind := all.find? (·.tag = s)

@[simp] theorem read?_tag (k : Kind) : read? k.tag = some k := by
  cases k <;> decide +kernel

@[simp] theorem ofTag?_tag (k : Kind) : ofTag? k.tag = some k := by
  cases k <;> decide +kernel

end Kind

/-- How an application message is answered: with a reply, with an acknowledgment once it is
accepted, or with one before its handler starts. -/
inductive Delivery where
  | requestReply | oneWay | oneWayNoAck
deriving DecidableEq, Repr

namespace Delivery

def tag : Delivery → String
  | requestReply => "RequestReply"
  | oneWay => "OneWay"
  | oneWayNoAck => "OneWayNoAck"

def all : List Delivery := [requestReply, oneWay, oneWayNoAck]

def isOneWay : Delivery → Bool
  | requestReply => false
  | _ => true

def read? (s : String) : Option Delivery :=
  all.find? fun d => Text.sameLetters d.tag (Text.trim s)

/-- The way of delivery with a tag, or the fault that names the text. -/
def read (s : String) : Except Fault Delivery :=
  match read? s with
  | some d => .ok d
  | none => .error (.malformed (.unknownDelivery s))

def ofTag? (s : String) : Option Delivery := all.find? (·.tag = s)

@[simp] theorem read?_tag (d : Delivery) : read? d.tag = some d := by
  cases d <;> decide +kernel

@[simp] theorem ofTag?_tag (d : Delivery) : ofTag? d.tag = some d := by
  cases d <;> decide +kernel

end Delivery

/-- The statuses with a meaning in the protocol. -/
inductive Status where
  | ok | noContent | badRequest | forbidden | notFound | internalError | notImplemented
  | serviceUnavailable
deriving DecidableEq, Repr

namespace Status

def code : Status → Nat
  | ok => 200
  | noContent => 204
  | badRequest => 400
  | forbidden => 403
  | notFound => 404
  | internalError => 500
  | notImplemented => 501
  | serviceUnavailable => 503

def name : Status → String
  | ok => "Ok"
  | noContent => "NoContent"
  | badRequest => "BadRequest"
  | forbidden => "Forbidden"
  | notFound => "NotFound"
  | internalError => "InternalError"
  | notImplemented => "NotImplemented"
  | serviceUnavailable => "ServiceUnavailable"

def all : List Status :=
  [ok, noContent, badRequest, forbidden, notFound, internalError, notImplemented,
    serviceUnavailable]

def ofCode? (n : Nat) : Option Status := all.find? (·.code = n)

@[simp] theorem ofCode?_code (s : Status) : ofCode? s.code = some s := by
  cases s <;> rfl

/-- Whether a status says that the request was taken. -/
def isSuccess : Status → Bool
  | ok | noContent => true
  | _ => false

end Status

end Conclave.Wire
