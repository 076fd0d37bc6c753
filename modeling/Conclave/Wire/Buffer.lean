import Conclave.Wire.Message

/-!
# Receiving a body

A body is received in chunks. It is kept in memory as long as it is no longer than a threshold,
and moves to a file as a whole with the first chunk that takes it beyond.
-/

namespace Conclave.Wire

/-- Where the bytes received so far are. -/
inductive Storage where
  | memory (content : Bytes)
  | file (content : Bytes)
deriving DecidableEq, Repr

def Storage.content : Storage → Bytes
  | memory b => b
  | file b => b

def Storage.isFile : Storage → Bool
  | memory _ => false
  | file _ => true

/-- A body while it is received. -/
structure Buffer where
  threshold : Nat
  size : Nat
  storage : Storage
deriving DecidableEq, Repr

namespace Buffer

def new (threshold : Nat) : Buffer := ⟨threshold, 0, .memory []⟩

def push (b : Buffer) (chunk : Bytes) : Buffer :=
  { b with
    size := b.size + chunk.length
    storage :=
      match b.storage with
      | .file content => .file (content ++ chunk)
      | .memory content =>
        if content.length + chunk.length ≤ b.threshold then .memory (content ++ chunk)
        else .file (content ++ chunk) }

def isEmpty (b : Buffer) : Bool := b.size == 0

def finish (b : Buffer) : Body := ⟨b.storage.content, b.storage.isFile⟩

/-- A part of a stream: a chunk, or the reason why it broke off. -/
abbrev Chunk := Except String Bytes

/-- Receives a stream up to its end or to where it breaks off. -/
def readStream (b : Buffer) : List Chunk → Except String Body
  | [] => .ok b.finish
  | .error reason :: _ => .error reason
  | .ok chunk :: r => (b.push chunk).readStream r

@[simp] theorem threshold_push (b : Buffer) (chunk : Bytes) :
    (b.push chunk).threshold = b.threshold := rfl

/-- A chunk comes behind what was received before it, wherever that is. -/
@[simp] theorem content_push (b : Buffer) (chunk : Bytes) :
    (b.push chunk).storage.content = b.storage.content ++ chunk := by
  unfold push
  split
  · simp_all [Storage.content]
  · split <;> simp_all [Storage.content]

end Buffer

end Conclave.Wire
