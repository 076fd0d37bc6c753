import Conclave.Wire.Buffer
import Mathlib.Algebra.Ring.Nat

/-!
# Bodies in files

A body is received in chunks. How they are divided does not matter: what is kept are their bytes,
and whether these are in a file depends on how many they are (`Body.received`).

A file that bytes are written to and read from has a position, which moves with every use of it.
`Intake` receives a body into such a file, and `Shared` is what is left of it afterwards: the file and
the handles of the body and of its copies, which all use the one position. `Intake.view` says that
this is `Buffer` with the files written out, and `spooled_alike` that every handle is read as the
bytes that arrived, whatever was done with the others before.
-/

namespace Conclave.Wire

/-! ## Bodies as they are received -/

/-- A body that was received, given how long it may be to stay in memory. -/
def Body.received (threshold : Nat) (content : Bytes) : Body :=
  ⟨content, decide (threshold < content.length)⟩

namespace Buffer

/-- What was received so far is in a file exactly when it is longer than the threshold. -/
def Settled (b : Buffer) : Prop :=
  b.storage.isFile = decide (b.threshold < b.storage.content.length)

theorem settled_new (threshold : Nat) : (new threshold).Settled := by
  simp [Settled, new, Storage.isFile, Storage.content]

theorem Settled.push {b : Buffer} (h : b.Settled) (chunk : Bytes) : (b.push chunk).Settled := by
  rw [Settled, content_push, threshold_push, List.length_append]
  rw [Settled] at h
  unfold Buffer.push
  cases hs : b.storage with
  | file content =>
      rw [hs] at h
      have hlong : b.threshold < content.length := of_decide_eq_true h.symm
      have hlonger : b.threshold < content.length + chunk.length := by omega
      exact (decide_eq_true hlonger).symm
  | memory content =>
      dsimp only [Storage.content]
      split
      · rename_i hfits
        exact (decide_eq_false (Nat.not_lt.mpr hfits)).symm
      · rename_i hlong
        exact (decide_eq_true (Nat.not_le.mp hlong)).symm

/-- A buffer after chunks have been pushed to it. -/
def pushAll (b : Buffer) (chunks : List Bytes) : Buffer := chunks.foldl push b

theorem pushAll_cons (b : Buffer) (c : Bytes) (r : List Bytes) :
    b.pushAll (c :: r) = (b.push c).pushAll r := rfl

theorem finish_pushAll (chunks : List Bytes) {b : Buffer} (h : b.Settled) :
    (b.pushAll chunks).finish
      = Body.received b.threshold (b.storage.content ++ chunks.flatten) := by
  induction chunks generalizing b with
  | nil =>
      rw [List.flatten_nil, List.append_nil, Body.received, ← h]
      rfl
  | cons c r ih =>
      rw [pushAll_cons, ih (h.push c), content_push, threshold_push, List.flatten_cons,
        List.append_assoc]

theorem readStream_map_ok (chunks : List Bytes) (b : Buffer) :
    b.readStream (chunks.map .ok) = .ok (b.pushAll chunks).finish := by
  induction chunks generalizing b with
  | nil => rfl
  | cons c r ih => rw [List.map_cons, readStream, ih, pushAll_cons]

theorem readStream_broken (chunks : List Bytes) (reason : String) (rest : List Chunk) (b : Buffer) :
    b.readStream (chunks.map .ok ++ .error reason :: rest) = .error reason := by
  induction chunks generalizing b with
  | nil => rfl
  | cons c r ih => rw [List.map_cons, List.cons_append, readStream, ih]

theorem readStream_received (chunks : List Bytes) {b : Buffer} (h : b.Settled) :
    b.readStream (chunks.map .ok)
      = .ok (Body.received b.threshold (b.storage.content ++ chunks.flatten)) := by
  rw [readStream_map_ok, finish_pushAll chunks h]

/-- A stream comes to its end, or it breaks off after some chunks. -/
theorem chunks_or_broken (stream : List Chunk) : (∃ chunks : List Bytes, stream = chunks.map .ok)
    ∨ ∃ (chunks : List Bytes) (reason : String) (rest : List Chunk),
      stream = chunks.map .ok ++ .error reason :: rest := by
  induction stream with
  | nil => exact .inl ⟨[], rfl⟩
  | cons part r ih =>
      cases part with
      | error reason => exact .inr ⟨[], reason, r, rfl⟩
      | ok c =>
          rcases ih with ⟨chunks, rfl⟩ | ⟨chunks, reason, rest, rfl⟩
          · exact .inl ⟨c :: chunks, rfl⟩
          · exact .inr ⟨c :: chunks, reason, rest, rfl⟩

end Buffer

/-! ## Files -/

/-- An open file: its bytes, and the position of the next one that is read or written. -/
structure File where
  content : Bytes
  position : Nat
  position_le : position ≤ content.length

namespace File

def fresh : File := ⟨[], 0, Nat.le_refl 0⟩

/-- Writes bytes over those at the position, and beyond the end if there are not as many. -/
def write (f : File) (b : Bytes) : File where
  content := f.content.take f.position ++ b ++ f.content.drop (f.position + b.length)
  position := f.position + b.length
  position_le := by
    have := f.position_le
    simp only [List.length_append, List.length_take]
    omega

def rewind (f : File) : File := ⟨f.content, 0, Nat.zero_le _⟩

/-- Moves over some bytes, at most to the end. -/
def skip (f : File) (n : Nat) : File :=
  ⟨f.content, min (f.position + n) f.content.length, Nat.min_le_right ..⟩

/-- The bytes from the position to the end, and the file when they have been read. -/
def readToEnd (f : File) : Bytes × File := (f.content.drop f.position, f.skip f.content.length)

/-- Whether what is written next comes behind everything in the file. -/
def AtEnd (f : File) : Prop := f.position = f.content.length

/-- A file is read from its beginning as a whole, wherever its position was. -/
theorem readToEnd_rewind (f : File) :
    f.rewind.readToEnd = (f.content, f.rewind.skip f.content.length) := rfl

theorem content_write (f : File) (b : Bytes) : (f.write b).content
    = f.content.take f.position ++ b ++ f.content.drop (f.position + b.length) := rfl

theorem AtEnd.content_write {f : File} (h : f.AtEnd) (b : Bytes) :
    (f.write b).content = f.content ++ b := by
  have hpast : f.content.length ≤ f.position + b.length := by
    rw [h]
    exact Nat.le_add_right ..
  rw [File.content_write, List.drop_of_length_le hpast, h, List.take_length, List.append_nil]

theorem AtEnd.write {f : File} (h : f.AtEnd) (b : Bytes) : (f.write b).AtEnd := by
  rw [AtEnd, h.content_write, List.length_append, ← h]
  rfl

end File

/-! ## A received body and its copies -/

/-- What one owner of a body has: its bytes, or their number when they are in the file. -/
inductive Handle where
  | memory (content : Bytes)
  | spilled (size : Nat)

def Handle.size : Handle → Nat
  | memory b => b.length
  | spilled n => n

def Handle.isSpilled : Handle → Bool
  | memory _ => false
  | spilled _ => true

/-- A received body and its copies. Those that are not in memory have one file together. -/
structure Shared where
  file : Option File
  handles : List Handle

namespace Shared

/-- The bytes that a handle is read as: those in memory, or those of the file from its beginning. -/
def read? (s : Shared) (i : Nat) : Option (Bytes × Shared) :=
  match s.handles[i]?, s.file with
  | some (.memory b), _ => some (b, s)
  | some (.spilled _), some f =>
    let (b, f') := f.rewind.readToEnd
    some (b, { s with file := some f' })
  | _, _ => none

/-- What is done with one of the handles. A reading may be given up after any number of bytes. -/
inductive Use where
  | copy (i : Nat)
  | release (i : Nat)
  | read (i : Nat)
  | giveUp (i n : Nat)

def step (s : Shared) : Use → Shared
  | .copy i => { s with handles := s.handles ++ s.handles[i]?.toList }
  | .release i => { s with handles := s.handles.eraseIdx i }
  | .read i => ((s.read? i).map Prod.snd).getD s
  | .giveUp i n =>
    match s.handles[i]? with
    | some (.spilled _) => { s with file := s.file.map fun f => f.rewind.skip n }
    | _ => s

def run (s : Shared) (uses : List Use) : Shared := uses.foldl step s

end Shared

/-- Whether a handle is one of a body, given the file that it shares. -/
inductive Handle.Keeps (body : Body) : Option File → Handle → Prop where
  | memory {file : Option File} (h : body.spilled = false) : Keeps body file (.memory body.content)
  | spilled {f : File} (h : body.spilled = true) (hf : f.content = body.content) :
      Keeps body (some f) (.spilled body.content.length)

/-- Whether all handles are those of one body. -/
def Shared.Keeps (body : Body) (s : Shared) : Prop := ∀ h ∈ s.handles, h.Keeps body s.file

section

variable {body : Body} {file : Option File} {s : Shared} {h : Handle} {i : Nat}

theorem Handle.Keeps.size (hkeeps : h.Keeps body file) : h.size = body.content.length := by
  cases hkeeps <;> rfl

theorem Handle.Keeps.isSpilled (hkeeps : h.Keeps body file) : h.isSpilled = body.spilled := by
  cases hkeeps with
  | memory hbody | spilled hbody => exact hbody.symm

namespace Shared

/-- Handles are those of the body as before when the file has the same bytes. -/
theorem Keeps.moved (hs : s.Keeps body)
    (hfile : ∀ f, s.file = some f → ∃ f', file = some f' ∧ f'.content = f.content) :
    Keeps body { s with file } := by
  intro h hmem
  have hkeeps := hs h hmem
  generalize hold : s.file = old at hkeeps
  cases hkeeps with
  | memory hbody => exact .memory hbody
  | spilled hbody hf =>
      obtain ⟨f', rfl, hf'⟩ := hfile _ hold
      exact .spilled hbody (hf'.trans hf)

theorem Keeps.read? (hs : s.Keeps body) (hi : s.handles[i]? = some h) :
    ∃ s', s.read? i = some (body.content, s') ∧ s'.Keeps body := by
  have hkeeps := hs h (List.mem_of_getElem? hi)
  generalize hfile : s.file = file at hkeeps
  cases hkeeps with
  | memory => exact ⟨s, by simp only [Shared.read?, hi], hs⟩
  | @spilled f _ hf =>
      refine ⟨{ s with file := some (f.rewind.skip f.content.length) }, ?_, hs.moved ?_⟩
      · simp only [Shared.read?, hi, hfile]
        rw [File.readToEnd_rewind, hf]
      · intro f' hf'
        rw [hfile] at hf'
        obtain rfl := Option.some.inj hf'
        exact ⟨_, rfl, rfl⟩

theorem Keeps.step (hs : s.Keeps body) (u : Use) : (s.step u).Keeps body := by
  cases u with
  | copy i =>
      intro h hmem
      rcases List.mem_append.mp hmem with hold | hnew
      · exact hs h hold
      · exact hs h (List.mem_of_getElem? (Option.mem_toList.mp hnew))
  | release i => exact fun h hmem => hs h (List.mem_of_mem_eraseIdx hmem)
  | read i =>
      rw [Shared.step]
      cases hread : s.read? i with
      | none => exact hs
      | some r =>
          cases hi : s.handles[i]? with
          | none => simp [Shared.read?, hi] at hread
          | some h =>
              obtain ⟨s', hs', hkeeps⟩ := hs.read? hi
              rw [hread] at hs'
              obtain rfl := Option.some.inj hs'
              exact hkeeps
  | giveUp i n =>
      rw [Shared.step]
      split
      · exact hs.moved fun f hf => ⟨f.rewind.skip n, by rw [hf]; rfl, rfl⟩
      · exact hs

theorem Keeps.run (hs : s.Keeps body) (uses : List Use) : (s.run uses).Keeps body := by
  induction uses generalizing s with
  | nil => exact hs
  | cons u r ih => exact ih (hs.step u)

end Shared

end

/-! ## Receiving into a file -/

/-- A body while it is received. When there is a file, everything that was in memory is there. -/
structure Intake where
  threshold : Nat
  memory : Bytes
  file : Option File
  size : Nat

namespace Intake

def new (threshold : Nat) : Intake := ⟨threshold, [], none, 0⟩

def push (x : Intake) (chunk : Bytes) : Intake :=
  match x.file with
  | some f => { x with size := x.size + chunk.length, file := some (f.write chunk) }
  | none =>
    if x.memory.length + chunk.length ≤ x.threshold then
      { x with size := x.size + chunk.length, memory := x.memory ++ chunk }
    else
      { x with
        size := x.size + chunk.length
        memory := []
        file := some ((File.fresh.write x.memory).write chunk) }

def finish (x : Intake) : Shared :=
  match x.file with
  | none => ⟨none, [.memory x.memory]⟩
  | some f => ⟨some f, [.spilled x.size]⟩

/-- Receives a stream up to its end or to where it breaks off. -/
def readStream (x : Intake) : List Buffer.Chunk → Except String Shared
  | [] => .ok x.finish
  | .error reason :: _ => .error reason
  | .ok chunk :: r => (x.push chunk).readStream r

def pushAll (x : Intake) (chunks : List Bytes) : Intake := chunks.foldl push x

/-- What was received so far, without the position of the file. -/
def view (x : Intake) : Buffer where
  threshold := x.threshold
  size := x.size
  storage :=
    match x.file with
    | none => .memory x.memory
    | some f => .file f.content

/-- The bytes that were received are all counted, and the next ones come behind them. -/
structure Sound (x : Intake) : Prop where
  size_eq : x.size = x.view.storage.content.length
  atEnd : ∀ f, x.file = some f → f.AtEnd

section

variable {x : Intake}

theorem sound_new (threshold : Nat) : (new threshold).Sound where
  size_eq := rfl
  atEnd := fun _ h => nomatch h

theorem size_push (x : Intake) (chunk : Bytes) : (x.push chunk).size = x.size + chunk.length := by
  unfold push
  split
  · rfl
  · split <;> rfl

theorem atEnd_fresh : File.fresh.AtEnd := rfl

theorem view_push (h : x.Sound) (chunk : Bytes) : (x.push chunk).view = x.view.push chunk := by
  unfold push
  split
  · rename_i f hf
    simp only [view, Buffer.push, hf, (h.atEnd f hf).content_write]
  · rename_i hnone
    split
    · rename_i hfits
      simp only [view, Buffer.push, hnone, hfits, if_true]
    · rename_i hlong
      have hmoved : (File.fresh.write x.memory).content = x.memory := atEnd_fresh.content_write _
      simp only [view, Buffer.push, hnone, hlong, if_false,
        (atEnd_fresh.write x.memory).content_write, hmoved]

theorem Sound.push (h : x.Sound) (chunk : Bytes) : (x.push chunk).Sound where
  size_eq := by
    rw [size_push, view_push h, Buffer.content_push, List.length_append, h.size_eq]
  atEnd := by
    intro f hf
    unfold Intake.push at hf
    split at hf
    · rename_i g hg
      obtain rfl := Option.some.inj hf
      exact (h.atEnd g hg).write chunk
    · rename_i hnone
      split at hf
      · rw [hnone] at hf
        cases hf
      · obtain rfl := Option.some.inj hf
        exact (atEnd_fresh.write x.memory).write chunk

theorem Sound.pushAll (h : x.Sound) (chunks : List Bytes) : (x.pushAll chunks).Sound := by
  induction chunks generalizing x with
  | nil => exact h
  | cons c r ih => exact ih (h.push c)

theorem view_pushAll (h : x.Sound) (chunks : List Bytes) :
    (x.pushAll chunks).view = x.view.pushAll chunks := by
  induction chunks generalizing x with
  | nil => rfl
  | cons c r ih => exact (ih (h.push c)).trans (congrArg (Buffer.pushAll · r) (view_push h c))

theorem size_pushAll (x : Intake) (chunks : List Bytes) :
    (x.pushAll chunks).size = x.size + (chunks.map List.length).sum := by
  induction chunks generalizing x with
  | nil => rfl
  | cons c r ih =>
      have hrest := ih (x.push c)
      rw [size_push] at hrest
      rw [List.map_cons, List.sum_cons, ← Nat.add_assoc]
      exact hrest

theorem exists_handle (x : Intake) : ∃ h, x.finish.handles = [h] := by
  unfold finish
  split
  · exact ⟨_, rfl⟩
  · exact ⟨_, rfl⟩

theorem Sound.keeps (h : x.Sound) : x.finish.Keeps x.view.finish := by
  have hsize := h.size_eq
  unfold finish
  split
  · rename_i hnone
    intro g hg
    obtain rfl := List.mem_singleton.mp hg
    have hmemory : x.view.finish = ⟨x.memory, false⟩ := by
      simp only [view, hnone, Buffer.finish, Storage.content, Storage.isFile]
    rw [hmemory]
    exact .memory rfl
  · rename_i f hf
    intro g hg
    obtain rfl := List.mem_singleton.mp hg
    have hfile : x.view.finish = ⟨f.content, true⟩ := by
      simp only [view, hf, Buffer.finish, Storage.content, Storage.isFile]
    have hlength : x.size = f.content.length := by
      simpa only [view, hf, Storage.content] using hsize
    rw [hfile, hlength]
    exact .spilled rfl rfl

theorem readStream_map_ok (chunks : List Bytes) (x : Intake) :
    x.readStream (chunks.map .ok) = .ok (x.pushAll chunks).finish := by
  induction chunks generalizing x with
  | nil => rfl
  | cons c r ih => exact ih (x.push c)

theorem readStream_broken (chunks : List Bytes) (reason : String) (rest : List Buffer.Chunk)
    (x : Intake) : x.readStream (chunks.map .ok ++ .error reason :: rest) = .error reason := by
  induction chunks generalizing x with
  | nil => rfl
  | cons c r ih => exact ih (x.push c)

end

end Intake

/-! ## What becomes of the chunks -/

/-- What becomes of a body that arrives in chunks. -/
structure Arrived (threshold : Nat) (chunks : List Bytes) : Prop where
  /-- After each chunk the number of the bytes is known, and this is the buffer of the node. -/
  received : ∀ front, front <+: chunks →
    ((Intake.new threshold).pushAll front).size = (front.map List.length).sum
    ∧ ((Intake.new threshold).pushAll front).view = (Buffer.new threshold).pushAll front
  finished : ((Buffer.new threshold).pushAll chunks).finish
    = ⟨chunks.flatten, decide (threshold < (chunks.map List.length).sum)⟩
  owned : ∃ h, ((Intake.new threshold).pushAll chunks).finish.handles = [h]
  /-- Every handle has all the bytes, whatever was done with it or with another one before. -/
  kept : ∀ uses i h, (((Intake.new threshold).pushAll chunks).finish.run uses).handles[i]? = some h →
    h.size = (chunks.map List.length).sum
    ∧ (h.isSpilled = true ↔ threshold < (chunks.map List.length).sum)
    ∧ ∃ s, (((Intake.new threshold).pushAll chunks).finish.run uses).read? i
      = some (chunks.flatten, s)

theorem arrived (threshold : Nat) (chunks : List Bytes) : Arrived threshold chunks := by
  have hview (front : List Bytes) : ((Intake.new threshold).pushAll front).view
      = (Buffer.new threshold).pushAll front := Intake.view_pushAll (Intake.sound_new threshold) front
  have hfinish : ((Buffer.new threshold).pushAll chunks).finish
      = ⟨chunks.flatten, decide (threshold < chunks.flatten.length)⟩ :=
    Buffer.finish_pushAll chunks (Buffer.settled_new threshold)
  have hkeeps := ((Intake.sound_new threshold).pushAll chunks).keeps
  rw [hview, hfinish] at hkeeps
  refine ⟨fun front _ => ⟨?_, hview front⟩, ?_, Intake.exists_handle _, ?_⟩
  · rw [Intake.size_pushAll]
    exact Nat.zero_add _
  · rw [hfinish, List.length_flatten]
  · intro uses i h hi
    have hrun := hkeeps.run uses
    have hhandle := hrun h (List.mem_of_getElem? hi)
    obtain ⟨s, hread, -⟩ := hrun.read? hi
    rw [← List.length_flatten, hhandle.size, hhandle.isSpilled, decide_eq_true_iff]
    exact ⟨rfl, Iff.rfl, s, hread⟩

/-- A body that arrives in chunks is the same however its bytes are divided, and whether they are
in a file or not; and a stream of chunks is received like the chunks, or it fails with the reason
why it broke off first. -/
theorem spooled_alike (threshold : Nat) : (∀ chunks, Arrived threshold chunks)
    ∧ (∀ chunks chunks' : List Bytes, chunks.flatten = chunks'.flatten →
      ((Buffer.new threshold).pushAll chunks).finish
        = ((Buffer.new threshold).pushAll chunks').finish)
    ∧ ∀ stream : List Buffer.Chunk,
      (∃ chunks : List Bytes, stream = chunks.map .ok
        ∧ (Intake.new threshold).readStream stream
          = .ok ((Intake.new threshold).pushAll chunks).finish
        ∧ (Buffer.new threshold).readStream stream
          = .ok ((Buffer.new threshold).pushAll chunks).finish)
      ∨ ∃ (chunks : List Bytes) (reason : String) (rest : List Buffer.Chunk),
        stream = chunks.map .ok ++ .error reason :: rest
        ∧ (Intake.new threshold).readStream stream = .error reason
        ∧ (Buffer.new threshold).readStream stream = .error reason := by
  refine ⟨arrived threshold, ?_, ?_⟩
  · intro chunks chunks' hbytes
    rw [Buffer.finish_pushAll chunks (Buffer.settled_new threshold),
      Buffer.finish_pushAll chunks' (Buffer.settled_new threshold), hbytes]
  · intro stream
    rcases Buffer.chunks_or_broken stream with ⟨chunks, rfl⟩ | ⟨chunks, reason, rest, rfl⟩
    · exact .inl ⟨chunks, rfl, Intake.readStream_map_ok .., Buffer.readStream_map_ok ..⟩
    · exact .inr ⟨chunks, reason, rest, rfl, Intake.readStream_broken ..,
        Buffer.readStream_broken ..⟩

/-- A body that moves to its file in the middle, read through a copy of it after a reading of the
first handle was given up. -/
theorem spooled_alike_digits : ∃ s, (((Intake.new 8).pushAll [[0, 1, 2, 3], [4, 5, 6, 7, 8, 9],
      [10, 11, 12]]).finish.run [.read 0, .copy 0, .giveUp 0 5]).read? 1
    = some ([0, 1, 2, 3, 4, 5, 6, 7, 8, 9, 10, 11, 12], s) := by
  obtain ⟨harrived, -⟩ := spooled_alike 8
  exact ((harrived _).kept [.read 0, .copy 0, .giveUp 0 5] 1 (.spilled 13) rfl).2.2

end Conclave.Wire
