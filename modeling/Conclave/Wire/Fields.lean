import Conclave.Fault
import Conclave.StringMap.Lemmas
import Conclave.Text.Blank
import Conclave.Text.Number

/-!
# Header fields

What a request or a reply says beside its body: texts under names that are equal up to ASCII
letter case. The names that the protocol uses are listed here.
-/

namespace Conclave.Wire

/-- Named texts beside a body, under lower-case names. -/
structure Fields where
  byName : StringMap String
deriving DecidableEq

namespace Fields

def empty : Fields := ⟨StringMap.empty⟩

instance : Inhabited Fields := ⟨empty⟩

/-- The fields with a value under a name; it replaces the value of an equal name. -/
def insert (f : Fields) (name value : String) : Fields :=
  ⟨f.byName.insert (Text.lower name) value⟩

def get? (f : Fields) (name : String) : Option String := f.byName.get? (Text.lower name)

/-- Names and values in ascending order of the names. -/
def toList (f : Fields) : List (String × String) := f.byName.entries

def ofList (l : List (String × String)) : Fields :=
  l.foldl (fun f e => f.insert e.1 e.2) empty

def require (f : Fields) (name : String) : Except Fault String :=
  match f.get? name with
  | some v => .ok v
  | none => .error (.malformed (.missingHeader name))

/-- What the value that has to be there reads as, without the blanks around it. -/
def parse {α : Type} (f : Fields) (name : String) (read? : String → Option α) :
    Except Fault α := do
  let raw ← f.require name
  match read? (Text.trim raw) with
  | some x => .ok x
  | none => .error (.malformed (.invalidHeader name raw))

def number (f : Fields) (name : String) : Except Fault UInt64 :=
  f.parse name fun s => (Text.readNat? UInt64.size s).map UInt64.ofNat

@[simp] theorem get?_empty (name : String) : empty.get? name = none := rfl

/-- A value is found under every name that is equal up to letter case. -/
theorem get?_insert (f : Fields) (name value other : String) :
    (f.insert name value).get? other =
      if Text.lower other = Text.lower name then some value else f.get? other :=
  StringMap.get?_insert ..

end Fields

/-! ## The names -/

namespace Field

def kind : String := "x-raft-message-type"

/-- The address of the member that sends the request. -/
def sender : String := "x-raft-sender"

def term : String := "x-raft-term"

def snapshotIndex : String := "x-raft-snapshot-index"

def snapshotTerm : String := "x-raft-snapshot-term"

def delivery : String := "x-raft-delivery-mode"

/-- Whether only the leader may take an application message. -/
def respectLeadership : String := "x-raft-respect-leadership"

def messageId : String := "x-raft-message-id"

def messageName : String := "x-raft-message-name"

def contentType : String := "content-type"

end Field

/-- The content type of bytes about which nothing is known. -/
def octetStream : String := "application/octet-stream"

def jsonContent : String := "application/json"

def defaultPath : String := "/cluster-consensus/raft"

/-- Whether a text can be the value of a field: it holds no control character but the tab. -/
def isFieldValue (s : String) : Bool :=
  s.toList.all fun c => c == '\t' || (0x20 ≤ c.toNat && c.toNat ≠ 0x7f)

end Conclave.Wire
