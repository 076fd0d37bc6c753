import Conclave.Base64
import Conclave.Json.Shape
import Conclave.Json.Writer
import Conclave.Wire.Kind
import Conclave.Wire.MessageId
import Conclave.Ip.Network

/-!
# Payloads of the consensus protocol

Votes, log entries, snapshots and their JSON forms: `toJson` gives the document of a value and
`ofSource?` reads a value from the tree of a document. The bytes of a log entry are written in
base64. Numbers outside the range of a field are refused.
-/

namespace Conclave.Wire

open Json (Source)

abbrev Metadata := StringMap String

/-- A candidate asks for a vote. -/
structure VoteRequest where
  term : UInt64
  lastLogIndex : UInt64
  lastLogTerm : UInt64
deriving DecidableEq, Repr

/-- A replicated entry. -/
structure LogEntry where
  term : UInt64
  timestamp : Int64
  commandId : Option Int32
  payload : Bytes
deriving DecidableEq, Repr

/-- A leader sends entries; none is a heartbeat. -/
structure AppendEntries where
  term : UInt64
  prevLogIndex : UInt64
  prevLogTerm : UInt64
  commitIndex : UInt64
  entries : List LogEntry
deriving DecidableEq, Repr

/-- What a snapshot covers. The snapshot itself is the body of its request. -/
structure SnapshotHeader where
  term : UInt64
  snapshotIndex : UInt64
  snapshotTerm : UInt64
deriving DecidableEq, Repr

/-- The answer of a member with its term. -/
structure RaftResult where
  term : UInt64
  value : Bool
deriving DecidableEq, Repr

/-! ## Numbers -/

def json64 (n : UInt64) : Json := .int n.toNat

def readU64? (s : Source) : Option UInt64 := (s.nat? UInt64.size).map UInt64.ofNat

def readI64? (s : Source) : Option Int64 := (s.int? (-signed64) signed64).map Int64.ofInt

def readI32? (s : Source) : Option Int32 := (s.int? (-signed32) signed32).map Int32.ofInt

def readBytes? (s : Source) : Option Bytes := s.text?.bind fun t => Base64.decode? t.toList

/-! ## Documents -/

namespace VoteRequest

def toJson (r : VoteRequest) : Json :=
  .object [("term", json64 r.term), ("lastLogIndex", json64 r.lastLogIndex),
    ("lastLogTerm", json64 r.lastLogTerm)]

/-- The request for a vote that a part holds; every member has to be there. -/
def ofSource? (s : Source) : Option VoteRequest :=
  match s.fields? ["term", "lastLogIndex", "lastLogTerm"] with
  | some [term, index, logTerm] => do
    return ⟨← Source.required readU64? term, ← Source.required readU64? index,
      ← Source.required readU64? logTerm⟩
  | _ => none

end VoteRequest

namespace LogEntry

/-- A log entry as a document; an entry without a command leaves that member out. -/
def toJson (e : LogEntry) : Json :=
  .object ([("term", json64 e.term), ("timestamp", .int e.timestamp.toInt)]
    ++ (e.commandId.toList.map fun id => ("commandId", Json.int id.toInt))
    ++ [("payload", .text (Base64.text e.payload))])

/-- The log entry that a part holds. A missing time is zero, and a command may be missing or
null. -/
def ofSource? (s : Source) : Option LogEntry :=
  match s.fields? ["term", "timestamp", "commandId", "payload"] with
  | some [term, timestamp, commandId, payload] => do
    return ⟨← Source.required readU64? term, ← Source.defaulted 0 readI64? timestamp,
      ← Source.defaulted none (Source.nullable? readI32?) commandId,
      ← Source.required readBytes? payload⟩
  | _ => none

end LogEntry

namespace AppendEntries

def toJson (r : AppendEntries) : Json :=
  .object [("term", json64 r.term), ("prevLogIndex", json64 r.prevLogIndex),
    ("prevLogTerm", json64 r.prevLogTerm), ("commitIndex", json64 r.commitIndex),
    ("entries", .array (r.entries.map LogEntry.toJson))]

/-- The batch that a part holds; without the list of entries it is a heartbeat. -/
def ofSource? (s : Source) : Option AppendEntries :=
  match s.fields? ["term", "prevLogIndex", "prevLogTerm", "commitIndex", "entries"] with
  | some [term, index, prevTerm, commit, entries] => do
    return ⟨← Source.required readU64? term, ← Source.required readU64? index,
      ← Source.required readU64? prevTerm, ← Source.required readU64? commit,
      ← Source.defaulted [] (Source.list? LogEntry.ofSource?) entries⟩
  | _ => none

end AppendEntries

namespace SnapshotHeader

def toJson (h : SnapshotHeader) : Json :=
  .object [("term", json64 h.term), ("snapshotIndex", json64 h.snapshotIndex),
    ("snapshotTerm", json64 h.snapshotTerm)]

/-- The header of a snapshot that a part holds; every member has to be there. -/
def ofSource? (s : Source) : Option SnapshotHeader :=
  match s.fields? ["term", "snapshotIndex", "snapshotTerm"] with
  | some [term, index, snapshotTerm] => do
    return ⟨← Source.required readU64? term, ← Source.required readU64? index,
      ← Source.required readU64? snapshotTerm⟩
  | _ => none

/-- The fields that carry a header beside the snapshot. -/
def write (h : SnapshotHeader) (f : Fields) : Fields :=
  ((f.insert Field.term (toString h.term.toNat)).insert Field.snapshotIndex
    (toString h.snapshotIndex.toNat)).insert Field.snapshotTerm (toString h.snapshotTerm.toNat)

/-- The header that fields carry. The term of the snapshot is zero when it is not given. -/
def read (f : Fields) : Except Fault SnapshotHeader := do
  let term ← f.number Field.term
  let index ← f.number Field.snapshotIndex
  let snapshotTerm ←
    if (f.get? Field.snapshotTerm).isSome then f.number Field.snapshotTerm else pure 0
  return ⟨term, index, snapshotTerm⟩

end SnapshotHeader

namespace RaftResult

def toJson (r : RaftResult) : Json := .object [("term", json64 r.term), ("value", .bool r.value)]

/-- The answer that a part holds; every member has to be there. -/
def ofSource? (s : Source) : Option RaftResult :=
  match s.fields? ["term", "value"] with
  | some [term, value] => do
    return ⟨← Source.required readU64? term, ← Source.required Source.bool? value⟩
  | _ => none

end RaftResult

namespace Metadata

/-- Metadata as a document, its keys in ascending order. -/
def toJson (m : Metadata) : Json := .object (m.entries.map fun e => (e.1, .text e.2))

/-- Keys may repeat; the last value of a key counts. -/
def ofSource? : Source → Option Metadata
  | .object members =>
    (members.mapM fun (e : Option String × Source) => do
      return (← e.1, ← e.2.text?)).map StringMap.ofList
  | _ => none

end Metadata

namespace Kind

def toJson (k : Kind) : Json := .text k.tag

def ofSource? (s : Source) : Option Kind := s.tag?.bind ofTag?

end Kind

namespace Delivery

def toJson (d : Delivery) : Json := .text d.tag

/-- The way of delivery whose tag a part is, to the letter. -/
def ofSource? (s : Source) : Option Delivery := s.tag?.bind ofTag?

end Delivery

namespace MessageId

def toJson (id : MessageId) : Json := .text id.text

def ofSource? (s : Source) : Option MessageId := s.text?.bind ofText?

end MessageId

def networkJson (n : Ip.Network) : Json := .text n.text

def networkOfSource? (s : Source) : Option Ip.Network :=
  s.text?.bind fun t => (Ip.Network.read t).toOption

/-- What the bytes of a document of a known shape hold. -/
def decode? {α : Type} (ofSource? : Source → Option α) (b : Bytes) : Option α :=
  (Source.read? b).bind ofSource?

def encode (x : Json) : Bytes := Bytes.ofText x.write

end Conclave.Wire
