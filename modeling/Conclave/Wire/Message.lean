import Conclave.Wire.Payload

/-!
# Application messages

A message has a name, a content type and a body. Its name and content type travel as header
fields, so a sender checks them first. An envelope pairs a message with the identity that it
keeps over every attempt to send it.
-/

namespace Conclave.Wire

/-- A complete body. `spilled` tells whether it was written to a file while it was received. -/
structure Body where
  content : Bytes
  spilled : Bool
deriving DecidableEq, Repr

def Body.ofBytes (b : Bytes) : Body := ⟨b, false⟩

/-- An application message. -/
structure Message where
  name : String
  contentType : String
  body : Body
deriving DecidableEq, Repr

namespace Message

def ofJson (name : String) (x : Json) : Message := ⟨name, jsonContent, .ofBytes (encode x)⟩

/-- Why a message cannot be sent: its name is empty, or its name or content type cannot be the
value of a field. -/
def defect? (m : Message) : Option Malformed :=
  if m.name = "" then some .emptyName
  else if !isFieldValue m.name then some (.unsendableName m.name)
  else if !isFieldValue m.contentType then some (.unsendableContentType m.contentType)
  else none

def check (m : Message) : Except Fault Unit :=
  match m.defect? with
  | some reason => .error (.malformed reason)
  | none => .ok ()

/-- The document that a reply holds, read as a JSON value. -/
def json (m : Message) : Except Fault Json :=
  match Json.read? m.body.content with
  | some x => .ok x
  | none => .error (.undecodable "the reply is not a JSON document")

/-- The document of a known shape that a message holds. -/
def decode {α : Type} (ofSource? : Json.Source → Option α) (m : Message) : Except Fault α :=
  match decode? ofSource? m.body.content with
  | some x => .ok x
  | none => .error (.undecodable "the reply is not the JSON document that was expected")

end Message

/-- A message and its identity. -/
structure Envelope where
  id : MessageId
  message : Message
deriving DecidableEq, Repr

/-- An application message on its way to a handler. A request that expects a reply may come
without an identity. -/
structure Delivered where
  sender : String
  id : Option MessageId
  delivery : Delivery
  respectLeadership : Bool
  message : Message
deriving DecidableEq, Repr

end Conclave.Wire
