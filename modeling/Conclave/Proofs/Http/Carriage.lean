import Conclave.Http.Service
import Conclave.Http.Transport
import Conclave.Proofs.Wire.Fields
import Conclave.Proofs.Wire.Identity
import Conclave.Proofs.Wire.Payload

/-!
# What is sent is what arrives

A call is written as fields and a body, and a request that arrives is decoded from its fields and
its body. The two agree on every call (`decode_requested`): if the values arrive under their names
and the chunks of the body make up the written bytes (`Arrives`), then the request is decoded as
the call with its sender (`Peer.requested`). Only an application message with a name or a content type
that cannot be sent is not written at all, and its check says so.
-/

namespace Conclave.Wire

def Carries (f : Fields) (hs : List (String × String)) : Prop := ∀ e ∈ hs, f.get? e.1 = some e.2

namespace Carries

variable {f : Fields} {name v : String} {hs : List (String × String)}

theorem head (h : Carries f ((name, v) :: hs)) : f.get? name = some v :=
  h (name, v) (List.mem_cons_self ..)

theorem tail (h : Carries f ((name, v) :: hs)) : Carries f hs :=
  fun e he => h e (List.mem_cons_of_mem _ he)

end Carries

/-! ## Headers of snapshots -/

namespace SnapshotHeader

theorem toList_write (h : SnapshotHeader) :
    (h.write Fields.empty).toList =
      [(Field.snapshotIndex, toString h.snapshotIndex.toNat),
        (Field.snapshotTerm, toString h.snapshotTerm.toNat),
        (Field.term, toString h.term.toNat)] := by
  have hterm : Text.lower Field.term = Field.term := by decide +kernel
  have hindex : Text.lower Field.snapshotIndex = Field.snapshotIndex := by decide +kernel
  have hlast : Text.lower Field.snapshotTerm = Field.snapshotTerm := by decide +kernel
  have hfirst : Field.snapshotIndex < Field.term := by decide +kernel
  have hafter : ¬ Field.snapshotTerm < Field.snapshotIndex := by decide +kernel
  have hother : Field.snapshotTerm ≠ Field.snapshotIndex := by decide +kernel
  have hbefore : Field.snapshotTerm < Field.term := by decide +kernel
  simp only [write, Fields.insert, Fields.toList, Fields.empty, StringMap.insert, StringMap.empty,
    StringMap.insertEntry, hterm, hindex, hlast, if_pos hfirst, if_neg hafter, if_neg hother,
    if_pos hbefore]

theorem read_of_carries {f : Fields} {h : SnapshotHeader}
    (hf : Carries f (h.write Fields.empty).toList) : read f = .ok h := by
  rw [toList_write] at hf
  have hindex := hf.head
  have hlast := hf.tail.head
  have hterm := hf.tail.tail.head
  rw [read, Fields.number_of_get? hterm, Fields.number_of_get? hindex, hlast,
    Fields.number_of_get? hlast]
  rfl

end SnapshotHeader

/-! ## Application messages -/

namespace Request

variable {f : Fields} {d : Delivery}

theorem delivery_of_get? (h : f.get? Field.delivery = some d.tag) : delivery f = .ok d := by
  have hread : Delivery.read? (Text.trim d.tag) = some d := by
    rw [Delivery.trim_tag, Delivery.read?_tag]
  rw [delivery, h, Fields.parse_of_get? h hread]

theorem identity_of_get? {id : MessageId} (h : f.get? Field.messageId = some id.text) :
    identity f d = .ok (some id) := by
  have hread : MessageId.read? (Text.trim id.text) = some id := by
    rw [MessageId.trim_text, MessageId.read?_text]
  rw [identity, h, Fields.parse_of_get? h hread]
  rfl

theorem respectsLeadership_of_get? {respect : Bool}
    (h : f.get? Field.respectLeadership = some (if respect then "true" else "false")) :
    respectsLeadership f = respect := by
  rw [respectsLeadership, h]
  cases respect <;> decide +kernel

end Request

end Conclave.Wire

namespace Conclave.Node

open Wire

def Outbound.envelope? : Outbound → Option Envelope
  | .message e _ | .signal e _ _ => some e
  | _ => none

end Conclave.Node

namespace Conclave.Http

open Wire Node

/-- The request that a call is, with the body that arrived. -/
def Peer.requested (p : Peer) (body : Body) : Outbound → Request
  | .requestVote r => .requestVote p.sender r
  | .appendEntries r => .appendEntries p.sender r
  | .installSnapshot h _ => .installSnapshot p.sender h body
  | .resign => .resign p.sender
  | .metadata => .metadata (some p.sender)
  | .message e respect => .custom ⟨p.sender, some e.id, .requestReply, respect,
      ⟨e.message.name, e.message.contentType, body⟩⟩
  | .signal e d respect => .custom ⟨p.sender, some e.id, d, respect,
      ⟨e.message.name, e.message.contentType, body⟩⟩

/-- A written request arrives: under the name of each of its fields the value of the field and no
other, and its body in chunks. Fields with other names may be among them. -/
structure Arrives (out : Outgoing) (r : Incoming) : Prop where
  headers : ∀ e ∈ out.headers, Fields.named r.headers e.1 = [Bytes.ofText e.2]
  body : ∃ chunks : List Bytes, r.body = chunks.map .ok ∧ chunks.flatten = out.body

/-! ## Decoding -/

theorem delivered_of_carries {f : Fields} {e : Envelope} {d : Delivery} {respect : Bool}
    {sender : String} {body : Body} (hs : f.get? Field.sender = some sender)
    (hf : Carries f (Peer.envelopeHeaders e d respect)) :
    Request.delivered f body = .ok ⟨sender, some e.id, d, respect,
      ⟨e.message.name, e.message.contentType, body⟩⟩ := by
  have hrespect := Request.respectsLeadership_of_get? hf.tail.head
  have hname := hf.tail.tail.tail.head
  have htype := hf.tail.tail.tail.tail.head
  rw [Request.delivered, Request.delivery_of_get? hf.head]
  simp only [bind, Except.bind]
  rw [Request.identity_of_get? hf.tail.tail.head, Fields.require_of_get? hs,
    Fields.require_of_get? hname]
  simp only [hrespect, htype, Option.getD_some]
  rfl

/-- Fields and a body that carry a call are decoded as the request that the call is. -/
theorem decode_requested {p : Peer} {o : Outbound} {f : Fields} {body : Body}
    (hf : Carries f (p.outgoing o).headers) (hb : body.content = Peer.content o) :
    Request.decode f body = .ok (p.requested body o) := by
  have hkind : f.parse Field.kind Kind.read? = .ok (Peer.kindOf o) := by
    refine Fields.parse_of_get? hf.head ?_
    rw [Kind.trim_tag, Kind.read?_tag]
  have hsender : f.get? Field.sender = some p.sender := hf.tail.head
  have hcontent := hf.tail.tail
  rw [Request.decode, hkind]
  cases o with
  | requestVote r =>
      have hpayload : Request.payload VoteRequest.ofSource? body = .ok r := by
        rw [Request.payload, hb, Peer.content, VoteRequest.decode?_toJson]
      simp only [bind, Except.bind, Peer.kindOf, Fields.require_of_get? hsender, hpayload]
      rfl
  | appendEntries r =>
      have hpayload : Request.payload AppendEntries.ofSource? body = .ok r := by
        rw [Request.payload, hb, Peer.content, AppendEntries.decode?_toJson]
      simp only [bind, Except.bind, Peer.kindOf, Fields.require_of_get? hsender, hpayload]
      rfl
  | installSnapshot h b =>
      have hheader : SnapshotHeader.read f = .ok h := SnapshotHeader.read_of_carries hcontent.tail
      simp only [bind, Except.bind, Peer.kindOf, Fields.require_of_get? hsender, hheader]
      rfl
  | resign =>
      simp only [bind, Except.bind, Peer.kindOf, Fields.require_of_get? hsender]
      rfl
  | metadata =>
      simp only [bind, Except.bind, Peer.kindOf, hsender]
      rfl
  | message e respect =>
      simp only [bind, Except.bind, Peer.kindOf, delivered_of_carries hsender hcontent]
      rfl
  | signal e d respect =>
      simp only [bind, Except.bind, Peer.kindOf, delivered_of_carries hsender hcontent]
      rfl

/-! ## Arrival -/

theorem named_texts (l : List (String × Bytes)) (name : String) :
    Fields.named (l.filterMap fun h => (Bytes.text? h.2).map fun v => (h.1, v)) name
      = (Fields.named l name).filterMap Bytes.text? := by
  induction l with
  | nil => rfl
  | cons h r ih =>
      rw [Fields.named] at ih ⊢
      cases ht : Bytes.text? h.2 <;> cases hn : Text.sameLetters h.1 name <;>
        simp [Fields.named, ht, hn, ih]

theorem Arrives.carries {out : Outgoing} {r : Incoming} (h : Arrives out r) :
    Carries r.fields out.headers := by
  intro e he
  rw [Incoming.fields, Fields.get?_ofList, named_texts, h.headers e he]
  simp [Bytes.text?_ofText]

theorem readStream_chunks (chunks : List Bytes) (b : Buffer) :
    ∃ body, b.readStream (chunks.map .ok) = .ok body
      ∧ body.content = b.storage.content ++ chunks.flatten := by
  induction chunks generalizing b with
  | nil => exact ⟨b.finish, rfl, by simp [Buffer.finish]⟩
  | cons c r ih =>
      obtain ⟨body, hread, hcontent⟩ := ih (b.push c)
      refine ⟨body, hread, ?_⟩
      rw [hcontent, Buffer.content_push, List.flatten_cons, List.append_assoc]

/-- The endpoint receives the body of a call that arrives. -/
theorem Arrives.body_received {p : Peer} {o : Outbound} {r : Incoming}
    (h : Arrives (p.outgoing o) r) (s : Service) :
    ∃ body, s.body r = .ok body ∧ body.content = Peer.content o := by
  obtain ⟨chunks, hchunks, hflat⟩ := h.body
  obtain ⟨body, hread, hcontent⟩ := readStream_chunks chunks (Buffer.new s.spillThreshold)
  have hkind : r.fields.parse Field.kind Kind.read? = .ok (Peer.kindOf o) := by
    refine Fields.parse_of_get? h.carries.head ?_
    rw [Kind.trim_tag, Kind.read?_tag]
  refine ⟨body, ?_, ?_⟩
  · rw [Service.body, hkind, hchunks, hread]
    rfl
  · rw [hcontent]
    exact hflat

/-- A written request as it arrives when it is carried without a change. -/
def Outgoing.posted (out : Outgoing) (path : String) : Incoming :=
  { method := "POST"
    path := path
    peer := none
    headers := out.headers.map fun h => (h.1, Bytes.ofText h.2)
    body := [.ok out.body] }

theorem named_of_nodup {l : List (String × String)} (h : (l.map (Text.lower ·.1)).Nodup)
    {e : String × String} (he : e ∈ l) : Fields.named l e.1 = [e.2] := by
  induction l with
  | nil => cases he
  | cons d r ih =>
      rw [List.map_cons, List.nodup_cons] at h
      obtain ⟨hd, hr⟩ := h
      rcases List.mem_cons.mp he with rfl | hmem
      · have hself : Text.sameLetters e.1 e.1 = true := Text.sameLetters_iff.mpr rfl
        have hrest : r.filter (fun x => Text.sameLetters x.1 e.1) = [] := by
          rw [List.filter_eq_nil_iff]
          intro x hx hsame
          exact hd (List.mem_map.mpr ⟨x, hx, Text.sameLetters_iff.mp hsame⟩)
        simp only [Fields.named, List.filter_cons, hself, if_true, hrest, List.map_cons,
          List.map_nil]
      · have hother : Text.sameLetters d.1 e.1 = false := by
          rw [Bool.eq_false_iff]
          intro hsame
          exact hd (List.mem_map.mpr ⟨e, hmem, (Text.sameLetters_iff.mp hsame).symm⟩)
        rw [← ih hr hmem]
        simp [Fields.named, hother]

/-- No call is written with two fields of one name. -/
theorem nodup_outgoing (p : Peer) (o : Outbound) :
    ((p.outgoing o).headers.map (Text.lower ·.1)).Nodup := by
  have hplain : ([Field.kind, Field.sender].map Text.lower).Nodup := by decide +kernel
  have hjson : ([Field.kind, Field.sender, Field.contentType].map Text.lower).Nodup := by
    decide +kernel
  have hsnapshot : ([Field.kind, Field.sender, Field.contentType, Field.snapshotIndex,
      Field.snapshotTerm, Field.term].map Text.lower).Nodup := by decide +kernel
  have henvelope : ([Field.kind, Field.sender, Field.delivery, Field.respectLeadership,
      Field.messageId, Field.messageName, Field.contentType].map Text.lower).Nodup := by
    decide +kernel
  cases o with
  | requestVote r => exact hjson
  | appendEntries r => exact hjson
  | installSnapshot h b =>
      rw [Peer.outgoing, Peer.contentHeaders, SnapshotHeader.toList_write]
      exact hsnapshot
  | resign => exact hplain
  | metadata => exact hplain
  | message e respect => exact henvelope
  | signal e d respect => exact henvelope

/-- Every call arrives when it is carried without a change. -/
theorem arrives_posted (p : Peer) (o : Outbound) (path : String) :
    Arrives (p.outgoing o) ((p.outgoing o).posted path) := by
  refine ⟨fun e he => ?_, [(p.outgoing o).body], rfl, List.flatten_singleton⟩
  have hmap : ∀ l : List (String × String),
      Fields.named (l.map fun h => (h.1, Bytes.ofText h.2)) e.1
        = (Fields.named l e.1).map Bytes.ofText := by
    intro l
    simp [Fields.named, List.filter_map, Function.comp_def]
  rw [Outgoing.posted, hmap, named_of_nodup (nodup_outgoing p o) he]
  rfl

/-! ## What can be written -/

theorem isFieldValue_identity (id : MessageId) : isFieldValue id.text = true := by
  refine isFieldValue_of_forall fun c hc => ?_
  rcases MessageId.mem_text hc with rfl | hd
  · decide
  · obtain ⟨d, hlt, rfl⟩ := MessageId.exists_of_mem_digits hd
    exact Text.toNat_digitChar_printable d hlt

theorem isFieldValue_envelope {e : Envelope} (h : e.message.defect? = none) (d : Delivery)
    (respect : Bool) : ∀ x ∈ Peer.envelopeHeaders e d respect, isFieldValue x.2 = true := by
  obtain ⟨hname, htype⟩ := Message.isFieldValue_of_defect? h
  have hrespect : isFieldValue (if respect then "true" else "false") = true := by
    cases respect <;> decide
  simp only [Peer.envelopeHeaders, List.mem_cons, List.not_mem_nil, or_false]
  rintro x (rfl | rfl | rfl | rfl | rfl)
  · exact d.isFieldValue_tag
  · exact hrespect
  · exact isFieldValue_identity e.id
  · exact hname
  · exact htype

theorem isFieldValue_content {o : Outbound}
    (h : ∀ e, o.envelope? = some e → e.message.defect? = none) :
    ∀ x ∈ Peer.contentHeaders o, isFieldValue x.2 = true := by
  have hjson : isFieldValue jsonContent = true := by decide
  have hoctet : isFieldValue octetStream = true := by decide
  cases o with
  | requestVote r => simpa [Peer.contentHeaders] using hjson
  | appendEntries r => simpa [Peer.contentHeaders] using hjson
  | installSnapshot header b =>
      simp only [Peer.contentHeaders, SnapshotHeader.toList_write, List.mem_cons,
        List.not_mem_nil, or_false]
      rintro x (rfl | rfl | rfl | rfl)
      · exact hoctet
      · exact isFieldValue_toString header.snapshotIndex.toNat
      · exact isFieldValue_toString header.snapshotTerm.toNat
      · exact isFieldValue_toString header.term.toNat
  | resign => simp [Peer.contentHeaders]
  | metadata => simp [Peer.contentHeaders]
  | message e respect => exact isFieldValue_envelope (h e rfl) .requestReply respect
  | signal e d respect => exact isFieldValue_envelope (h e rfl) d respect

/-- A call whose message has no defect is written wherever its peer has an address. -/
theorem encode_of_isLocator {p : Peer} {o : Outbound} (hs : isFieldValue p.sender = true)
    (h : ∀ e, o.envelope? = some e → e.message.defect? = none)
    (ha : isLocator (p.address ++ p.path) = true) : p.encode o = .ok (p.outgoing o) := by
  have hwritable : p.isWritable o = true := by
    rw [Peer.isWritable, ha, Bool.true_and, List.all_eq_true]
    intro x hx
    rcases List.mem_cons.mp hx with rfl | hx
    · exact (Peer.kindOf o).isFieldValue_tag
    · rcases List.mem_cons.mp hx with rfl | hx
      · exact hs
      · exact isFieldValue_content h x hx
  rw [Peer.encode, if_pos hwritable]

/-- Whatever the call, either the check of its message fails, or the call is written wherever its
peer has an address, and every request that arrives as it was written is decoded as exactly this
call. -/
theorem arrival_decoded (p : Peer) (o : Outbound) (hs : isFieldValue p.sender = true) :
    (∃ e reason, o.envelope? = some e ∧ e.message.check = .error (.malformed reason))
    ∨ ((isLocator (p.address ++ p.path) = true → p.encode o = .ok (p.outgoing o))
      ∧ ∀ (s : Service) (r : Incoming), Arrives (p.outgoing o) r →
        ∃ body, s.body r = .ok body ∧ body.content = Peer.content o
          ∧ Request.decode r.fields body = .ok (p.requested body o)) := by
  by_cases h : ∀ e, o.envelope? = some e → e.message.defect? = none
  · refine .inr ⟨encode_of_isLocator hs h, fun s r hr => ?_⟩
    obtain ⟨body, hread, hcontent⟩ := hr.body_received s
    exact ⟨body, hread, hcontent, decode_requested hr.carries hcontent⟩
  · simp only [not_forall] at h
    obtain ⟨e, he, hd⟩ := h
    obtain ⟨reason, hreason⟩ := Option.ne_none_iff_exists'.mp hd
    exact .inl ⟨e, reason, he, by rw [Message.check, hreason]⟩

def neighbour : Peer := ⟨"b:1", "/raft", "a:1", 0⟩

/-- A batch with numbers at the ends of their ranges, and bytes that are no text. -/
def batch : Outbound :=
  .appendEntries ⟨0xffffffffffffffff, 0, 1, 2,
    [⟨3, Int64.minValue, some Int32.minValue, [0xff, 0x00]⟩, ⟨4, Int64.maxValue, none, []⟩]⟩

/-- The batch arrives at an endpoint that keeps no body in memory, and is decoded. -/
theorem batch_decoded :
    isFieldValue neighbour.sender = true
    ∧ ∃ body, (Service.mk "/raft" (.exact "/raft") 0).body
          ((neighbour.outgoing batch).posted "/raft") = .ok body
        ∧ body.content = Peer.content batch
        ∧ Request.decode ((neighbour.outgoing batch).posted "/raft").fields body
          = .ok (neighbour.requested body batch) := by
  have hsender : isFieldValue neighbour.sender = true := by decide
  refine ⟨hsender, ?_⟩
  rcases arrival_decoded neighbour batch hsender with ⟨e, reason, he, -⟩ | ⟨-, hdecoded⟩
  · cases he
  · exact hdecoded _ _ (arrives_posted neighbour batch "/raft")

end Conclave.Http
