import Conclave.Proofs.Json.Records
import Conclave.Proofs.Wire.Payload

/-!
# What payload documents say

For each payload type, `Says` tells when a document stands for a value: the document is a record of
the fields of the type, every field that has to be there is given, and what it gives is the number,
the bytes or the entries of the value itself. The readers accept exactly these documents, so nothing
is wrapped into a range or made up for a missing field; `Form.Exact` collects this with the way back
from the written form.
-/

namespace Conclave.Wire

open Json (Source tree)

/-! ## Parts -/

/-- The part is this number, written without fraction and exponent. -/
def Writes (part : Source) (n : Int) : Prop :=
  ∃ x, part = .number x ∧ x.whole? = some n

def IsWord (part : Source) (n : UInt64) : Prop := Writes part n.toNat

def IsTime (part : Source) (n : Int64) : Prop := Writes part n.toInt

/-- A command by its number, or null for none. -/
def IsCommand (part : Source) (command : Option Int32) : Prop :=
  part = .null ∧ command = none ∨ ∃ n, command = some n ∧ Writes part n.toInt

def IsPayload (part : Source) (b : Bytes) : Prop := part = .text (some (Base64.text b))

def IsTruth (part : Source) (b : Bool) : Prop := part = .bool b

theorem readU64?_eq_some_iff (part : Source) (n : UInt64) :
    readU64? part = some n ↔ IsWord part n := by
  cases part with
  | number x =>
      have hread : readU64? (.number x) = some n
          ↔ ∃ k : Int, x.whole? = some k ∧ (0 ≤ k ∧ k < UInt64.size)
            ∧ UInt64.ofNat k.toNat = n := by
        simp [readU64?, Source.nat?, Json.Lexeme.nat?, Option.bind_eq_some_iff]
      rw [hread]
      constructor
      · rintro ⟨k, hk, ⟨hleast, hbound⟩, rfl⟩
        -- the check comes before the conversion, so nothing is wrapped
        have hvalue : (UInt64.ofNat k.toNat).toNat = k.toNat :=
          UInt64.toNat_ofNat_of_lt' (by omega)
        exact ⟨x, rfl, by rw [hvalue, Int.toNat_of_nonneg hleast, hk]⟩
      · rintro ⟨y, hy, hn⟩
        obtain rfl := Source.number.inj hy
        have hbound := n.toNat_lt
        exact ⟨n.toNat, hn, ⟨by omega, by exact_mod_cast hbound⟩, by simp⟩
  | _ => simp [readU64?, Source.nat?, IsWord, Writes]

theorem readI64?_eq_some_iff (part : Source) (n : Int64) :
    readI64? part = some n ↔ IsTime part n := by
  cases part with
  | number x =>
      have hread : readI64? (.number x) = some n
          ↔ ∃ k, (x.whole? = some k ∧ -signed64 ≤ k ∧ k < signed64) ∧ Int64.ofInt k = n := by
        simp [readI64?, Source.int?, Json.Lexeme.int?, Option.filter_eq_some_iff]
      rw [hread]
      constructor
      · rintro ⟨k, ⟨hk, hleast, hbound⟩, rfl⟩
        exact ⟨x, rfl, by rw [Int64.toInt_ofInt_of_le hleast hbound, hk]⟩
      · rintro ⟨y, hy, hn⟩
        obtain rfl := Source.number.inj hy
        exact ⟨n.toInt, ⟨hn, n.le_toInt, n.toInt_lt⟩, Int64.ofInt_toInt n⟩
  | _ => simp [readI64?, Source.int?, IsTime, Writes]

theorem readI32?_eq_some_iff (part : Source) (n : Int32) :
    readI32? part = some n ↔ Writes part n.toInt := by
  cases part with
  | number x =>
      have hread : readI32? (.number x) = some n
          ↔ ∃ k, (x.whole? = some k ∧ -signed32 ≤ k ∧ k < signed32) ∧ Int32.ofInt k = n := by
        simp [readI32?, Source.int?, Json.Lexeme.int?, Option.filter_eq_some_iff]
      rw [hread]
      constructor
      · rintro ⟨k, ⟨hk, hleast, hbound⟩, rfl⟩
        exact ⟨x, rfl, by rw [Int32.toInt_ofInt_of_le hleast hbound, hk]⟩
      · rintro ⟨y, hy, hn⟩
        obtain rfl := Source.number.inj hy
        exact ⟨n.toInt, ⟨hn, n.le_toInt, n.toInt_lt⟩, Int32.ofInt_toInt n⟩
  | _ => simp [readI32?, Source.int?, Writes]

theorem readCommand?_eq_some_iff (part : Source) (command : Option Int32) :
    Source.nullable? readI32? part = some command ↔ IsCommand part command :=
  Source.nullable?_eq_some_iff readI32?_eq_some_iff rfl part command

/-- Bytes are read from one text only. -/
theorem readBytes?_eq_some_iff (part : Source) (b : Bytes) :
    readBytes? part = some b ↔ IsPayload part b := by
  match part with
  | .text (some t) =>
      rw [readBytes?, Source.text?, Option.bind_some, Base64.decode?_toList]
      simp [IsPayload]
  | .text none | .null | .bool _ | .number _ | .array _ | .object _ =>
      simp [readBytes?, Source.text?, IsPayload]

theorem bool?_eq_some_iff (part : Source) (b : Bool) : part.bool? = some b ↔ IsTruth part b := by
  cases part <;> simp [Source.bool?, IsTruth]

/-! ## Records -/

namespace VoteRequest

def names : List String := ["term", "lastLogIndex", "lastLogTerm"]

theorem nodup_names : names.Nodup := by decide

/-- A document says that a vote is asked for. -/
structure Says (s : Source) (r : VoteRequest) : Prop where
  record : s.IsRecord names
  term : s.Gives names "term" IsWord r.term
  lastLogIndex : s.Gives names "lastLogIndex" IsWord r.lastLogIndex
  lastLogTerm : s.Gives names "lastLogTerm" IsWord r.lastLogTerm

theorem ofSource?_eq_some_iff (s : Source) (r : VoteRequest) :
    ofSource? s = some r ↔ Says s r := by
  by_cases hs : s.IsRecord names
  · have word {name : String} (hname : name ∈ names) (n : UInt64) :=
      Source.required_eq_some_iff nodup_names hs hname readU64?_eq_some_iff n
    have hparts := Source.fields?_of_isRecord nodup_names hs
    simp only [names, List.map_cons, List.map_nil] at hparts
    rw [ofSource?, hparts]
    simp only [Option.bind_eq_bind, Option.bind_eq_some_iff, Option.pure_def, Option.some.injEq]
    constructor
    · rintro ⟨a, ha, b, hb, c, hc, rfl⟩
      exact ⟨hs, (word (by decide) a).mp ha, (word (by decide) b).mp hb,
        (word (by decide) c).mp hc⟩
    · intro h
      exact ⟨_, (word (by decide) _).mpr h.term, _, (word (by decide) _).mpr h.lastLogIndex,
        _, (word (by decide) _).mpr h.lastLogTerm, rfl⟩
  · have hparts := Source.fields?_of_not_isRecord hs
    rw [names] at hparts
    rw [ofSource?, hparts]
    exact iff_of_false (Option.some_ne_none r).symm fun h => hs h.record

end VoteRequest

namespace SnapshotHeader

def names : List String := ["term", "snapshotIndex", "snapshotTerm"]

theorem nodup_names : names.Nodup := by decide

/-- A document says what a snapshot covers. -/
structure Says (s : Source) (h : SnapshotHeader) : Prop where
  record : s.IsRecord names
  term : s.Gives names "term" IsWord h.term
  snapshotIndex : s.Gives names "snapshotIndex" IsWord h.snapshotIndex
  snapshotTerm : s.Gives names "snapshotTerm" IsWord h.snapshotTerm

theorem ofSource?_eq_some_iff (s : Source) (h : SnapshotHeader) :
    ofSource? s = some h ↔ Says s h := by
  by_cases hs : s.IsRecord names
  · have word {name : String} (hname : name ∈ names) (n : UInt64) :=
      Source.required_eq_some_iff nodup_names hs hname readU64?_eq_some_iff n
    have hparts := Source.fields?_of_isRecord nodup_names hs
    simp only [names, List.map_cons, List.map_nil] at hparts
    rw [ofSource?, hparts]
    simp only [Option.bind_eq_bind, Option.bind_eq_some_iff, Option.pure_def, Option.some.injEq]
    constructor
    · rintro ⟨a, ha, b, hb, c, hc, rfl⟩
      exact ⟨hs, (word (by decide) a).mp ha, (word (by decide) b).mp hb,
        (word (by decide) c).mp hc⟩
    · intro h
      exact ⟨_, (word (by decide) _).mpr h.term, _, (word (by decide) _).mpr h.snapshotIndex,
        _, (word (by decide) _).mpr h.snapshotTerm, rfl⟩
  · have hparts := Source.fields?_of_not_isRecord hs
    rw [names] at hparts
    rw [ofSource?, hparts]
    exact iff_of_false (Option.some_ne_none h).symm fun h => hs h.record

end SnapshotHeader

namespace RaftResult

def names : List String := ["term", "value"]

theorem nodup_names : names.Nodup := by decide

/-- A document says what a member answers. -/
structure Says (s : Source) (r : RaftResult) : Prop where
  record : s.IsRecord names
  term : s.Gives names "term" IsWord r.term
  value : s.Gives names "value" IsTruth r.value

theorem ofSource?_eq_some_iff (s : Source) (r : RaftResult) :
    ofSource? s = some r ↔ Says s r := by
  by_cases hs : s.IsRecord names
  · have word (n : UInt64) :=
      Source.required_eq_some_iff nodup_names hs (show "term" ∈ names by decide)
        readU64?_eq_some_iff n
    have truth (b : Bool) :=
      Source.required_eq_some_iff nodup_names hs (show "value" ∈ names by decide)
        bool?_eq_some_iff b
    have hparts := Source.fields?_of_isRecord nodup_names hs
    simp only [names, List.map_cons, List.map_nil] at hparts
    rw [ofSource?, hparts]
    simp only [Option.bind_eq_bind, Option.bind_eq_some_iff, Option.pure_def, Option.some.injEq]
    constructor
    · rintro ⟨a, ha, b, hb, rfl⟩
      exact ⟨hs, (word a).mp ha, (truth b).mp hb⟩
    · exact fun h => ⟨_, (word _).mpr h.term, _, (truth _).mpr h.value, rfl⟩
  · have hparts := Source.fields?_of_not_isRecord hs
    rw [names] at hparts
    rw [ofSource?, hparts]
    exact iff_of_false (Option.some_ne_none r).symm fun h => hs h.record

end RaftResult

namespace LogEntry

def names : List String := ["term", "timestamp", "commandId", "payload"]

theorem nodup_names : names.Nodup := by decide

/-- What has to be said of an entry. -/
structure SaysCore (s : Source) (e : LogEntry) : Prop where
  record : s.IsRecord names
  term : s.Gives names "term" IsWord e.term
  payload : s.Gives names "payload" IsPayload e.payload

/-- A document says what an entry is; time and command may be left out. -/
structure Says (s : Source) (e : LogEntry) : Prop extends SaysCore s e where
  timestamp : s.GivesOr names "timestamp" IsTime 0 e.timestamp
  commandId : s.GivesOr names "commandId" IsCommand none e.commandId

theorem ofSource?_eq_some_iff (s : Source) (e : LogEntry) :
    ofSource? s = some e ↔ Says s e := by
  by_cases hs : s.IsRecord names
  · have word (n : UInt64) :=
      Source.required_eq_some_iff nodup_names hs (show "term" ∈ names by decide)
        readU64?_eq_some_iff n
    have time (n : Int64) :=
      Source.defaulted_eq_some_iff nodup_names hs (show "timestamp" ∈ names by decide)
        readI64?_eq_some_iff 0 n
    have command (c : Option Int32) :=
      Source.defaulted_eq_some_iff nodup_names hs (show "commandId" ∈ names by decide)
        readCommand?_eq_some_iff none c
    have payload (b : Bytes) :=
      Source.required_eq_some_iff nodup_names hs (show "payload" ∈ names by decide)
        readBytes?_eq_some_iff b
    have hparts := Source.fields?_of_isRecord nodup_names hs
    simp only [names, List.map_cons, List.map_nil] at hparts
    rw [ofSource?, hparts]
    simp only [Option.bind_eq_bind, Option.bind_eq_some_iff, Option.pure_def, Option.some.injEq]
    constructor
    · rintro ⟨a, ha, b, hb, c, hc, d, hd, rfl⟩
      exact ⟨⟨hs, (word a).mp ha, (payload d).mp hd⟩, (time b).mp hb, (command c).mp hc⟩
    · exact fun h => ⟨_, (word _).mpr h.term, _, (time _).mpr h.timestamp,
        _, (command _).mpr h.commandId, _, (payload _).mpr h.payload, rfl⟩
  · have hparts := Source.fields?_of_not_isRecord hs
    rw [names] at hparts
    rw [ofSource?, hparts]
    exact iff_of_false (Option.some_ne_none e).symm fun h => hs h.record

end LogEntry

namespace AppendEntries

def names : List String := ["term", "prevLogIndex", "prevLogTerm", "commitIndex", "entries"]

theorem nodup_names : names.Nodup := by decide

/-- A list whose items say what the entries are, one by one. -/
def IsBatch (part : Source) (es : List LogEntry) : Prop :=
  ∃ items, part = .array items ∧ List.Forall₂ LogEntry.Says items es

/-- What has to be said of a batch. -/
structure SaysCore (s : Source) (r : AppendEntries) : Prop where
  record : s.IsRecord names
  term : s.Gives names "term" IsWord r.term
  prevLogIndex : s.Gives names "prevLogIndex" IsWord r.prevLogIndex
  prevLogTerm : s.Gives names "prevLogTerm" IsWord r.prevLogTerm
  commitIndex : s.Gives names "commitIndex" IsWord r.commitIndex

/-- A document says what a batch is; the list of entries may be left out. -/
structure Says (s : Source) (r : AppendEntries) : Prop extends SaysCore s r where
  entries : s.GivesOr names "entries" IsBatch [] r.entries

theorem ofSource?_eq_some_iff (s : Source) (r : AppendEntries) :
    ofSource? s = some r ↔ Says s r := by
  by_cases hs : s.IsRecord names
  · have word {name : String} (hname : name ∈ names) (n : UInt64) :=
      Source.required_eq_some_iff nodup_names hs hname readU64?_eq_some_iff n
    have batch (es : List LogEntry) :=
      Source.defaulted_eq_some_iff nodup_names hs (show "entries" ∈ names by decide)
        (Source.list?_eq_some_iff LogEntry.ofSource?_eq_some_iff) [] es
    have hparts := Source.fields?_of_isRecord nodup_names hs
    simp only [names, List.map_cons, List.map_nil] at hparts
    rw [ofSource?, hparts]
    simp only [Option.bind_eq_bind, Option.bind_eq_some_iff, Option.pure_def, Option.some.injEq]
    constructor
    · rintro ⟨a, ha, b, hb, c, hc, d, hd, es, hes, rfl⟩
      exact ⟨⟨hs, (word (by decide) a).mp ha, (word (by decide) b).mp hb,
        (word (by decide) c).mp hc, (word (by decide) d).mp hd⟩, (batch es).mp hes⟩
    · intro h
      exact ⟨_, (word (by decide) _).mpr h.term, _, (word (by decide) _).mpr h.prevLogIndex,
        _, (word (by decide) _).mpr h.prevLogTerm, _, (word (by decide) _).mpr h.commitIndex,
        _, (batch _).mpr h.entries, rfl⟩
  · have hparts := Source.fields?_of_not_isRecord hs
    rw [names] at hparts
    rw [ofSource?, hparts]
    exact iff_of_false (Option.some_ne_none r).symm fun h => hs h.record

end AppendEntries

/-! ## Forms -/

/-- The whole numbers that a field can hold. -/
structure Range where
  field : String
  least : Int
  bound : Int

namespace Range

/-- The range of an unsigned field. -/
def word (field : String) : Range := ⟨field, 0, UInt64.size⟩

/-- A part that is a number is a whole one of the range. -/
def Fits (r : Range) (part : Source) : Prop :=
  ∀ x, part = .number x → ∃ n, x.whole? = some n ∧ r.least ≤ n ∧ n < r.bound

variable {r : Range} {part : Source}

theorem fits_of_writes {n : Int} (h : Writes part n) (hleast : r.least ≤ n) (hbound : n < r.bound) :
    r.Fits part := by
  obtain ⟨x, rfl, hx⟩ := h
  rintro y hy
  obtain rfl := Source.number.inj hy
  exact ⟨n, hx, hleast, hbound⟩

theorem fits_word {field : String} {n : UInt64} (h : IsWord part n) : (word field).Fits part :=
  fits_of_writes h (Int.natCast_nonneg _) (Int.ofNat_lt.mpr n.toNat_lt)

theorem fits_time {field : String} {n : Int64} (h : IsTime part n) :
    Fits ⟨field, -signed64, signed64⟩ part :=
  fits_of_writes h n.le_toInt n.toInt_lt

theorem fits_command {field : String} {command : Option Int32} (h : IsCommand part command) :
    Fits ⟨field, -signed32, signed32⟩ part := by
  obtain ⟨rfl, -⟩ | ⟨n, -, hn⟩ := h
  · exact nofun
  · exact fits_of_writes hn n.le_toInt n.toInt_lt

end Range

/-- A payload type with the documents of its values: the fields of the records, those that have to
be there, the ranges of those that are numbers, and what a document says. -/
structure Form (α : Type) where
  toJson : α → Json
  ofSource? : Source → Option α
  names : List String
  required : List String
  ranges : List Range
  Says : Source → α → Prop

namespace Form

variable {α : Type}

/-- A field that has to be there is missing, or a number is not in the range of its field. -/
inductive Broken (F : Form α) (s : Source) : Prop
  | missing {name : String} (hname : name ∈ F.required) (hlacks : s.Lacks F.names name)
  | outside {r : Range} {part : Source} (hr : r ∈ F.ranges)
      (hpart : s.Holds F.names r.field part) (hfits : ¬ r.Fits part)

/-- The written form of a value is read as this value, the documents read as a value are those that
say it, and a broken document is refused. -/
structure Exact (F : Form α) : Prop where
  returned : ∀ x, decode? F.ofSource? (encode (F.toJson x)) = some x
  said : ∀ b x, decode? F.ofSource? b = some x ↔ ∃ s, Source.read? b = some s ∧ F.Says s x
  refused : ∀ b s, Source.read? b = some s → F.Broken s → decode? F.ofSource? b = none

/-- A document that says a value has the fields that have to be there, and its numbers fit. -/
structure Sound (F : Form α) : Prop where
  there : ∀ s x, F.Says s x → ∀ name ∈ F.required, ¬ s.Lacks F.names name
  fits : ∀ s x, F.Says s x → ∀ r ∈ F.ranges, ∀ part, s.Holds F.names r.field part → r.Fits part

theorem Sound.not_broken {F : Form α} (h : F.Sound) {s : Source} {x : α} (hs : F.Says s x) :
    ¬ F.Broken s := by
  rintro (⟨hname, hlacks⟩ | ⟨hr, hpart, hfits⟩)
  · exact h.there s x hs _ hname hlacks
  · exact hfits (h.fits s x hs _ hr _ hpart)

theorem ofSource?_eq_none {F : Form α} (hread : ∀ s x, F.ofSource? s = some x ↔ F.Says s x)
    (hsound : F.Sound) {s : Source} (h : F.Broken s) : F.ofSource? s = none :=
  Option.eq_none_iff_forall_ne_some.mpr fun x hx => hsound.not_broken ((hread s x).mp hx) h

theorem exact_of_reader {F : Form α}
    (hwritten : ∀ x, decode? F.ofSource? (encode (F.toJson x)) = some x)
    (hread : ∀ s x, F.ofSource? s = some x ↔ F.Says s x) (hsound : F.Sound) : F.Exact where
  returned := hwritten
  said b x := by
    rw [decode?, Option.bind_eq_some_iff]
    exact exists_congr fun s => and_congr_right fun _ => hread s x
  refused b s hs hbroken := by
    rw [decode?, hs, Option.bind_some, ofSource?_eq_none hread hsound hbroken]

end Form

/-- A field that gives an unsigned number has no part outside the range. -/
theorem fits_of_gives_word {names : List String} {s : Source} {name : String} {n : UInt64}
    (hnames : names.Nodup) (hs : s.IsRecord names) (hname : name ∈ names)
    (h : s.Gives names name IsWord n) (part : Source) (hpart : s.Holds names name part) :
    (Range.word name).Fits part :=
  Range.fits_word (h.of_holds hnames hs hname hpart)

/-! ## The payload types -/

namespace VoteRequest

def form : Form VoteRequest where
  toJson := toJson
  ofSource? := ofSource?
  names := names
  required := names
  ranges := names.map .word
  Says := Says

theorem form_sound : form.Sound where
  there s r h := by
    simp only [form, names, List.forall_mem_cons]
    exact ⟨h.term.not_lacks, h.lastLogIndex.not_lacks, h.lastLogTerm.not_lacks, nofun⟩
  fits s r h := by
    have word {name : String} (hname : name ∈ names) {n : UInt64}
        (hgives : s.Gives names name IsWord n) :=
      fits_of_gives_word nodup_names h.record hname hgives
    simp only [form, names, List.map_cons, List.map_nil, List.forall_mem_cons]
    exact ⟨word (by decide) h.term, word (by decide) h.lastLogIndex,
      word (by decide) h.lastLogTerm, nofun⟩

end VoteRequest

namespace SnapshotHeader

def form : Form SnapshotHeader where
  toJson := toJson
  ofSource? := ofSource?
  names := names
  required := names
  ranges := names.map .word
  Says := Says

theorem form_sound : form.Sound where
  there s r h := by
    simp only [form, names, List.forall_mem_cons]
    exact ⟨h.term.not_lacks, h.snapshotIndex.not_lacks, h.snapshotTerm.not_lacks, nofun⟩
  fits s r h := by
    have word {name : String} (hname : name ∈ names) {n : UInt64}
        (hgives : s.Gives names name IsWord n) :=
      fits_of_gives_word nodup_names h.record hname hgives
    simp only [form, names, List.map_cons, List.map_nil, List.forall_mem_cons]
    exact ⟨word (by decide) h.term, word (by decide) h.snapshotIndex,
      word (by decide) h.snapshotTerm, nofun⟩

end SnapshotHeader

namespace RaftResult

def form : Form RaftResult where
  toJson := toJson
  ofSource? := ofSource?
  names := names
  required := names
  ranges := [.word "term"]
  Says := Says

theorem form_sound : form.Sound where
  there s r h := by
    simp only [form, names, List.forall_mem_cons]
    exact ⟨h.term.not_lacks, h.value.not_lacks, nofun⟩
  fits s r h := by
    simp only [form, List.forall_mem_cons]
    exact ⟨fits_of_gives_word nodup_names h.record (by decide) h.term, nofun⟩

end RaftResult

namespace LogEntry

def form : Form LogEntry where
  toJson := toJson
  ofSource? := ofSource?
  names := names
  required := ["term", "payload"]
  ranges := [.word "term", ⟨"timestamp", -signed64, signed64⟩, ⟨"commandId", -signed32, signed32⟩]
  Says := Says

theorem form_sound : form.Sound where
  there s e h := by
    simp only [form, List.forall_mem_cons]
    exact ⟨h.term.not_lacks, h.payload.not_lacks, nofun⟩
  fits s e h := by
    simp only [form, List.forall_mem_cons]
    refine ⟨fits_of_gives_word nodup_names h.record (by decide) h.term, ?_, ?_, nofun⟩
    · intro part hpart
      exact Range.fits_time
        ((h.timestamp.gives hpart).of_holds nodup_names h.record (by decide) hpart)
    · intro part hpart
      exact Range.fits_command
        ((h.commandId.gives hpart).of_holds nodup_names h.record (by decide) hpart)

variable {b : Bytes} {s : Source} {e : LogEntry}

theorem decode?_of_stated (hs : Source.read? b = some s) (h : Says s e) :
    decode? ofSource? b = some e := by
  rw [decode?, hs, Option.bind_some, ofSource?_eq_some_iff]
  exact h

/-- An entry without a time is one of time zero. -/
theorem decode?_of_lacks_timestamp (hs : Source.read? b = some s) (h : SaysCore s e)
    (hlacks : s.Lacks names "timestamp")
    (hcommand : s.GivesOr names "commandId" IsCommand none e.commandId) :
    decode? ofSource? b = some { e with timestamp := 0 } :=
  decode?_of_stated hs ⟨⟨h.record, h.term, h.payload⟩, .inr ⟨hlacks, rfl⟩, hcommand⟩

theorem decode?_of_lacks_commandId (hs : Source.read? b = some s) (h : SaysCore s e)
    (hlacks : s.Lacks names "commandId")
    (htime : s.GivesOr names "timestamp" IsTime 0 e.timestamp) :
    decode? ofSource? b = some { e with commandId := none } :=
  decode?_of_stated hs ⟨⟨h.record, h.term, h.payload⟩, htime, .inr ⟨hlacks, rfl⟩⟩

end LogEntry

namespace AppendEntries

def form : Form AppendEntries where
  toJson := toJson
  ofSource? := ofSource?
  names := names
  required := ["term", "prevLogIndex", "prevLogTerm", "commitIndex"]
  ranges := [.word "term", .word "prevLogIndex", .word "prevLogTerm", .word "commitIndex"]
  Says := Says

theorem form_sound : form.Sound where
  there s r h := by
    simp only [form, List.forall_mem_cons]
    exact ⟨h.term.not_lacks, h.prevLogIndex.not_lacks, h.prevLogTerm.not_lacks,
      h.commitIndex.not_lacks, nofun⟩
  fits s r h := by
    have word {name : String} (hname : name ∈ names) {n : UInt64}
        (hgives : s.Gives names name IsWord n) :=
      fits_of_gives_word nodup_names h.record hname hgives
    simp only [form, List.forall_mem_cons]
    exact ⟨word (by decide) h.term, word (by decide) h.prevLogIndex,
      word (by decide) h.prevLogTerm, word (by decide) h.commitIndex, nofun⟩

variable {b : Bytes} {s : Source}

/-- A batch without a list of entries is a heartbeat. -/
theorem decode?_of_lacks_entries {r : AppendEntries} (hs : Source.read? b = some s)
    (h : SaysCore s r) (hlacks : s.Lacks names "entries") :
    decode? ofSource? b = some { r with entries := [] } := by
  rw [decode?, hs, Option.bind_some, ofSource?_eq_some_iff]
  exact ⟨⟨h.record, h.term, h.prevLogIndex, h.prevLogTerm, h.commitIndex⟩, .inr ⟨hlacks, rfl⟩⟩

/-- A broken entry breaks its batch. -/
theorem decode?_of_broken_entry {items : List Source} {item : Source}
    (hs : Source.read? b = some s) (hitems : s.Holds names "entries" (.array items))
    (hitem : item ∈ items) (hbroken : LogEntry.form.Broken item) :
    decode? ofSource? b = none := by
  rw [decode?, hs, Option.bind_some, Option.eq_none_iff_forall_ne_some]
  intro r hr
  -- the batch would say its entries one by one, this one among them
  have hbatch := (ofSource?_eq_some_iff s r).mp hr
  obtain ⟨_, hlist, hentries⟩ :=
    (hbatch.entries.gives hitems).of_holds nodup_names hbatch.record (by decide) hitems
  obtain rfl := Source.array.inj hlist
  obtain ⟨i, hi, rfl⟩ := List.getElem_of_mem hitem
  have hentry := hentries.get hi (hentries.length_eq ▸ hi)
  exact LogEntry.form_sound.not_broken hentry hbroken

end AppendEntries

/-- Every payload is read back from its written form, and its type reads the documents that say a
value and no others: what is left out is a heartbeat's list of entries, the time of an entry or its
command, while a missing field or a number outside its range, in a batch or in one of its entries,
has the document refused. A text is read as bytes only if it is the text of these bytes. -/
theorem payload_documents :
    VoteRequest.form.Exact ∧ SnapshotHeader.form.Exact ∧ RaftResult.form.Exact
    ∧ LogEntry.form.Exact ∧ AppendEntries.form.Exact
    ∧ (∀ m : Metadata, decode? Metadata.ofSource? (encode (Metadata.toJson m)) = some m)
    ∧ (∀ b s r, Source.read? b = some s → AppendEntries.SaysCore s r →
      s.Lacks AppendEntries.names "entries" →
      decode? AppendEntries.ofSource? b = some { r with entries := [] })
    ∧ (∀ b s e, Source.read? b = some s → LogEntry.SaysCore s e →
      s.Lacks LogEntry.names "timestamp" →
      s.GivesOr LogEntry.names "commandId" IsCommand none e.commandId →
      decode? LogEntry.ofSource? b = some { e with timestamp := 0 })
    ∧ (∀ b s e, Source.read? b = some s → LogEntry.SaysCore s e →
      s.Lacks LogEntry.names "commandId" →
      s.GivesOr LogEntry.names "timestamp" IsTime 0 e.timestamp →
      decode? LogEntry.ofSource? b = some { e with commandId := none })
    ∧ (∀ b s items item, Source.read? b = some s →
      s.Holds AppendEntries.names "entries" (.array items) → item ∈ items →
      LogEntry.form.Broken item → decode? AppendEntries.ofSource? b = none)
    ∧ ∀ t payload, Base64.decode? t.toList = some payload ↔ t = Base64.text payload :=
  ⟨Form.exact_of_reader VoteRequest.decode?_toJson VoteRequest.ofSource?_eq_some_iff
      VoteRequest.form_sound,
    Form.exact_of_reader SnapshotHeader.decode?_toJson SnapshotHeader.ofSource?_eq_some_iff
      SnapshotHeader.form_sound,
    Form.exact_of_reader RaftResult.decode?_toJson RaftResult.ofSource?_eq_some_iff
      RaftResult.form_sound,
    Form.exact_of_reader LogEntry.decode?_toJson LogEntry.ofSource?_eq_some_iff
      LogEntry.form_sound,
    Form.exact_of_reader AppendEntries.decode?_toJson AppendEntries.ofSource?_eq_some_iff
      AppendEntries.form_sound,
    Metadata.decode?_toJson,
    fun _ _ _ => AppendEntries.decode?_of_lacks_entries,
    fun _ _ _ => LogEntry.decode?_of_lacks_timestamp,
    fun _ _ _ => LogEntry.decode?_of_lacks_commandId,
    fun _ _ _ _ => AppendEntries.decode?_of_broken_entry,
    fun _ _ => Base64.decode?_toList⟩

/-- A document without a list of entries is a heartbeat, and one whose term needs 65 bits is
refused. -/
theorem payload_documents_heartbeat :
    decode? AppendEntries.ofSource? (encode (.object [("term", .int 1), ("prevLogIndex", .int 7),
        ("prevLogTerm", .int 1), ("commitIndex", .int 5)])) = some ⟨1, 7, 1, 5, []⟩
    ∧ decode? RaftResult.ofSource?
        (encode (.object [("term", .int 0x10000000000000000), ("value", .bool true)])) = none := by
  obtain ⟨-, -, hresult, -, -, -, hheartbeat, -⟩ := payload_documents
  have hwhole := Json.Lexeme.whole?_ofInt
  constructor
  · refine hheartbeat _ _ ⟨1, 7, 1, 5, []⟩ (Json.read?_write rfl) ?_ ?_
    · have word {name : String} {n : UInt64} {ms : List (Option String × Source)}
          (h : (some name, tree (json64 n)) ∈ ms) :
          (Source.object ms).Gives AppendEntries.names name IsWord n :=
        ⟨_, h, _, rfl, hwhole _⟩
      exact ⟨⟨by simp [Json.memberTrees], by decide⟩, word (.head _), word (.tail _ (.head _)),
        word (.tail _ (.tail _ (.head _))), word (.tail _ (.tail _ (.tail _ (.head _))))⟩
    · intro part hpart
      simp [tree, Json.memberTrees, Source.Holds] at hpart
  · refine hresult.refused _ _ (Json.read?_write rfl)
      (.outside (r := .word "term") (List.mem_singleton_self _) (List.mem_cons_self ..) ?_)
    intro hfits
    obtain ⟨n, hn, -, hbound⟩ := hfits _ rfl
    rw [hwhole, Option.some.injEq] at hn
    subst hn
    exact absurd hbound (by decide)

end Conclave.Wire
