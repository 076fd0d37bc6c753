import Conclave.Proofs.Base64
import Conclave.Proofs.Json.RoundTrip
import Conclave.Wire.Payload

/-!
# Reading written payloads

Every payload of the consensus protocol is read back from its JSON form, whatever its numbers, its
entries and their bytes are. A part is read by the reader of its type, and the parts of a record
are found under their names.
-/

namespace Conclave

open Json (Source tree)

/-! ## Parts -/

namespace Json.Lexeme

theorem natOf_toDigits (n : Nat) : natOf (Nat.toDigits 10 n) = n := by
  rw [natOf, Text.digitsFrom_toDigits, Option.getD_some]

theorem whole?_ofInt (n : Int) : (ofInt n).whole? = some n := by
  have hnat := natOf_toDigits n.natAbs
  rw [whole?, if_neg (by simp [ofInt])]
  simp only [ofInt, hnat, decide_eq_true_eq]
  split
  · rename_i hneg
    rw [if_neg (by omega)]
    simp only [Option.some.injEq, Int.ofNat_eq_natCast]
    omega
  · simp only [Option.some.injEq]
    omega

theorem nat?_ofInt {n bound : Nat} (h : n < bound) : (ofInt n).nat? bound = some n := by
  rw [nat?, whole?_ofInt, Option.bind_some, if_pos (by omega), Int.toNat_natCast]

theorem int?_ofInt {n least bound : Int} (hl : least ≤ n) (hb : n < bound) :
    (ofInt n).int? least bound = some n := by
  simp [int?, whole?_ofInt, hl, hb]

end Json.Lexeme

namespace Wire

@[simp] theorem readU64?_tree (n : UInt64) : readU64? (tree (json64 n)) = some n := by
  rw [readU64?, json64, tree, Source.nat?, Json.Lexeme.nat?_ofInt n.toNat_lt, Option.map_some,
    UInt64.ofNat_toNat]

@[simp] theorem readI64?_tree (n : Int64) : readI64? (tree (.int n.toInt)) = some n := by
  have hleast : -signed64 ≤ n.toInt := n.le_toInt
  have hbound : n.toInt < signed64 := n.toInt_lt
  rw [readI64?, tree, Source.int?, Json.Lexeme.int?_ofInt hleast hbound, Option.map_some,
    Int64.ofInt_toInt]

@[simp] theorem readI32?_tree (n : Int32) : readI32? (tree (.int n.toInt)) = some n := by
  have hleast : -signed32 ≤ n.toInt := n.le_toInt
  have hbound : n.toInt < signed32 := n.toInt_lt
  rw [readI32?, tree, Source.int?, Json.Lexeme.int?_ofInt hleast hbound, Option.map_some,
    Int32.ofInt_toInt]

@[simp] theorem readBytes?_tree (b : Bytes) :
    readBytes? (tree (.text (Base64.text b))) = some b := by
  rw [readBytes?, tree, Source.text?, Option.bind_some, Base64.text, String.toList_ofList,
    Base64.decode?_encode]

/-! ## Records -/

theorem lookup_cons {α : Type} (n k : String) (x : α) (es : List (String × α)) :
    ((k, x) :: es).lookup n = if n = k then some x else es.lookup n := by
  by_cases h : n = k
  · rw [if_pos h, StringMap.lookup_cons_of_eq h]
  · rw [if_neg h, StringMap.lookup_cons_of_ne h]

theorem find?_memberTrees (ms : List (String × Json)) (n : String) :
    ((ms.map fun m => (some m.1, tree m.2)).find? (·.1 == some n)).map (·.2)
      = (ms.lookup n).map tree := by
  induction ms with
  | nil => rfl
  | cons m r ih =>
      obtain ⟨k, x⟩ := m
      rw [lookup_cons, List.map_cons, List.find?_cons]
      by_cases h : n = k
      · subst h
        simp
      · have hk : (some k == some n) = false := by simpa using fun hkn => h hkn.symm
        rw [if_neg h, hk, ← ih]

/-- The fields of a written record are the parts under their names, if no name comes twice. -/
theorem fields?_tree {ms : List (String × Json)} (h : (ms.map (·.1)).Nodup) (names : List String) :
    (tree (.object ms)).fields? names = some (names.map fun n => (ms.lookup n).map tree) := by
  have hkeys : (ms.map fun m => (some m.1, tree m.2)).any (·.1.isNone) = false := by
    simp
  have honce : ∀ n, ((ms.map fun m => (some m.1, tree m.2)).filter (·.1 == some n)).length ≤ 1 := by
    intro n
    have hcount := List.nodup_iff_count.mp h n
    rw [← List.countP_eq_length_filter, List.countP_map]
    rw [List.count, List.countP_map] at hcount
    exact hcount
  rw [tree, Json.memberTrees_eq_map, Source.fields?, hkeys, Bool.false_or, if_neg]
  · simp only [find?_memberTrees]
  · simpa using fun n _ => honce n

theorem VoteRequest.ofSource?_of_fields {s a b c : Source} {r : VoteRequest}
    (hs : s.fields? ["term", "lastLogIndex", "lastLogTerm"] = some [some a, some b, some c])
    (ha : readU64? a = some r.term) (hb : readU64? b = some r.lastLogIndex)
    (hc : readU64? c = some r.lastLogTerm) : ofSource? s = some r := by
  simp [ofSource?, hs, Source.required, ha, hb, hc]

theorem VoteRequest.ofSource?_tree (r : VoteRequest) : ofSource? (tree r.toJson) = some r := by
  refine ofSource?_of_fields ?_ (readU64?_tree r.term) (readU64?_tree r.lastLogIndex)
    (readU64?_tree r.lastLogTerm)
  rw [toJson, fields?_tree (by simp)]
  simp [lookup_cons]

theorem LogEntry.ofSource?_of_fields {s a b d : Source} {c : Option Source} {e : LogEntry}
    (hs : s.fields? ["term", "timestamp", "commandId", "payload"]
      = some [some a, some b, c, some d])
    (ha : readU64? a = some e.term) (hb : readI64? b = some e.timestamp)
    (hc : Source.defaulted none (Source.nullable? readI32?) c = some e.commandId)
    (hd : readBytes? d = some e.payload) : ofSource? s = some e := by
  have htime : Source.defaulted 0 readI64? (some b) = some e.timestamp := hb
  simp [ofSource?, hs, Source.required, ha, htime, hc, hd]

theorem nullable?_tree (n : Int32) :
    Source.nullable? readI32? (tree (.int n.toInt)) = some (some n) := by
  have h : Source.nullable? readI32? (tree (.int n.toInt))
      = (readI32? (tree (.int n.toInt))).map some := rfl
  rw [h, readI32?_tree, Option.map_some]

theorem LogEntry.ofSource?_tree (e : LogEntry) : ofSource? (tree e.toJson) = some e := by
  obtain ⟨term, timestamp, commandId, payload⟩ := e
  cases commandId with
  | none =>
      refine ofSource?_of_fields (c := none) ?_ (readU64?_tree term) (readI64?_tree timestamp) rfl
        (readBytes?_tree payload)
      rw [toJson, fields?_tree (by simp)]
      simp [lookup_cons]
  | some id =>
      refine ofSource?_of_fields (c := some (tree (.int id.toInt))) ?_ (readU64?_tree term)
        (readI64?_tree timestamp) (nullable?_tree id) (readBytes?_tree payload)
      rw [toJson, fields?_tree (by simp)]
      simp [lookup_cons]

theorem list?_tree (es : List LogEntry) :
    Source.list? LogEntry.ofSource? (tree (.array (es.map LogEntry.toJson))) = some es := by
  rw [tree, Json.trees_eq_map, Source.list?, List.map_map]
  induction es with
  | nil => rfl
  | cons e r ih => simp [LogEntry.ofSource?_tree, ih]

theorem AppendEntries.ofSource?_of_fields {s a b c d e : Source} {r : AppendEntries}
    (hs : s.fields? ["term", "prevLogIndex", "prevLogTerm", "commitIndex", "entries"]
      = some [some a, some b, some c, some d, some e])
    (ha : readU64? a = some r.term) (hb : readU64? b = some r.prevLogIndex)
    (hc : readU64? c = some r.prevLogTerm) (hd : readU64? d = some r.commitIndex)
    (he : Source.list? LogEntry.ofSource? e = some r.entries) : ofSource? s = some r := by
  simp [ofSource?, hs, Source.required, Source.defaulted, ha, hb, hc, hd, he]

theorem AppendEntries.ofSource?_tree (r : AppendEntries) : ofSource? (tree r.toJson) = some r := by
  refine ofSource?_of_fields ?_ (readU64?_tree r.term) (readU64?_tree r.prevLogIndex)
    (readU64?_tree r.prevLogTerm) (readU64?_tree r.commitIndex) (list?_tree r.entries)
  rw [toJson, fields?_tree (by simp)]
  simp [lookup_cons]

theorem SnapshotHeader.ofSource?_of_fields {s a b c : Source} {h : SnapshotHeader}
    (hs : s.fields? ["term", "snapshotIndex", "snapshotTerm"] = some [some a, some b, some c])
    (ha : readU64? a = some h.term) (hb : readU64? b = some h.snapshotIndex)
    (hc : readU64? c = some h.snapshotTerm) : ofSource? s = some h := by
  simp [ofSource?, hs, Source.required, ha, hb, hc]

theorem SnapshotHeader.ofSource?_tree (h : SnapshotHeader) :
    ofSource? (tree h.toJson) = some h := by
  refine ofSource?_of_fields ?_ (readU64?_tree h.term) (readU64?_tree h.snapshotIndex)
    (readU64?_tree h.snapshotTerm)
  rw [toJson, fields?_tree (by simp)]
  simp [lookup_cons]

theorem RaftResult.ofSource?_of_fields {s a b : Source} {r : RaftResult}
    (hs : s.fields? ["term", "value"] = some [some a, some b])
    (ha : readU64? a = some r.term) (hb : b.bool? = some r.value) : ofSource? s = some r := by
  simp [ofSource?, hs, Source.required, ha, hb]

theorem RaftResult.ofSource?_tree (r : RaftResult) : ofSource? (tree r.toJson) = some r := by
  refine ofSource?_of_fields (b := tree (.bool r.value)) ?_ (readU64?_tree r.term) rfl
  rw [toJson, fields?_tree (by simp)]
  simp [lookup_cons]

theorem Metadata.ofSource?_tree (m : Metadata) : ofSource? (tree (toJson m)) = some m := by
  have hmembers : ∀ es : List (String × String),
      (es.map fun e => (some e.1, tree (.text e.2))).mapM
        (fun e : Option String × Source => do return (← e.1, ← e.2.text?)) = some es := by
    intro es
    induction es with
    | nil => rfl
    | cons e r ih => simp_all [Source.text?, tree]
  rw [toJson, tree, Json.memberTrees_eq_map, List.map_map, ofSource?]
  simp only [Function.comp_def, hmembers, Option.map_some, StringMap.ofList_entries]

/-! ## Documents -/

/-- A document is read as what its tree holds. -/
theorem decode?_encode {α : Type} (ofSource? : Source → Option α) {x : Json}
    (h : x.isExact = true) : decode? ofSource? (encode x) = ofSource? (tree x) := by
  rw [decode?, encode, Json.read?_write h, Option.bind_some]

theorem VoteRequest.decode?_toJson (r : VoteRequest) :
    decode? ofSource? (encode r.toJson) = some r := by
  rw [decode?_encode ofSource? rfl, ofSource?_tree]

theorem LogEntry.isExact_toJson (e : LogEntry) : e.toJson.isExact = true := by
  obtain ⟨term, timestamp, commandId, payload⟩ := e
  cases commandId <;> rfl

theorem AppendEntries.decode?_toJson (r : AppendEntries) :
    decode? ofSource? (encode r.toJson) = some r := by
  have hentries : Json.areExact (r.entries.map LogEntry.toJson) = true := by
    rw [Json.areExact_iff]
    simp [LogEntry.isExact_toJson]
  have hexact : r.toJson.isExact = true := by
    simp [toJson, json64, Json.isExact, Json.membersAreExact, hentries]
  rw [decode?_encode ofSource? hexact, ofSource?_tree]

theorem LogEntry.decode?_toJson (e : LogEntry) : decode? ofSource? (encode e.toJson) = some e := by
  rw [decode?_encode ofSource? e.isExact_toJson, ofSource?_tree]

theorem SnapshotHeader.decode?_toJson (h : SnapshotHeader) :
    decode? ofSource? (encode h.toJson) = some h := by
  rw [decode?_encode ofSource? rfl, ofSource?_tree]

theorem RaftResult.decode?_toJson (r : RaftResult) :
    decode? ofSource? (encode r.toJson) = some r := by
  rw [decode?_encode ofSource? rfl, ofSource?_tree]

theorem Metadata.isExact_toJson (m : Metadata) : (toJson m).isExact = true := by
  rw [toJson, Json.isExact]
  induction m.entries with
  | nil => rfl
  | cons e r ih => rw [List.map_cons, Json.membersAreExact, ih]; rfl

theorem Metadata.decode?_toJson (m : Metadata) :
    decode? ofSource? (encode (toJson m)) = some m := by
  rw [decode?_encode ofSource? (isExact_toJson m), ofSource?_tree]

end Wire

end Conclave
