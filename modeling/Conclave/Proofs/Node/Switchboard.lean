import Conclave.Proofs.Node.Aloof
import Conclave.Proofs.Node.Registrations
import Conclave.Proofs.Node.Starts
import Mathlib.Data.List.Basic
import Mathlib.Logic.Relation

/-!
# Handlers that change while messages arrive

The registered handlers are a list that is never changed. Whoever adds or removes one reads the
current list, makes another one of it and puts that in its place; if somebody else was faster, the
list is read again. A message that came past the checks of its sender and of the leader takes the
list that is current then, its snapshot, and looks for its handler there. A signal becomes a task,
which runs later.

`Switchboard` puts a node beside the changes that were made, all lists that there have been, and the
changes and the messages under way, which know their lists by their places. `Next` interleaves all
their steps. As each list is the one of the history up to its place (`Switchboard.Sound`), a message
comes to the handler of the earliest addition that stood when its snapshot was taken
(`Selection.Sound`), whatever is added or removed before it looks, and before its task runs.
-/

namespace Conclave.Node

open Wire
open Relation (ReflTransGen)

variable {ω : Type}

/-! ## What a message comes to -/

/-- What a handler is given of a message. -/
def asked (h : HandlerId) (d : Delivered) : Asked :=
  if d.delivery = .requestReply then .questioned h d.sender d.message
  else .signalled h d.sender d.message

/-- What came of a message that looked for its handler. -/
structure Selection where
  /-- The place of the list that was its snapshot. -/
  place : Nat
  /-- What the handlers supported when they were asked. -/
  supports : HandlerId → String → Bool
  found : Option HandlerId
  ending : Ending (Except Fault Reply)
  /-- What a handler was given, or will be given by a task. -/
  owed : Option Asked

section

variable [Surroundings ω]

/-- Looks for a handler among those of a snapshot, and gives it the message. -/
def deliver (n : Node ω) (hs : Handlers) (d : Delivered) :
    Node ω × Ending (Except Fault Reply) :=
  match hs.find? (Surroundings.supports n.world) d.message.name with
  | none => (n, .returned (.ok (.status .notImplemented)))
  | some h =>
    if d.delivery = .requestReply then n.answer h d
    else ((n.acceptSignal h d).1, .returned (.ok (n.acceptSignal h d).2))

/-- Whether a message is a signal that is remembered. -/
def isRepeated (n : Node ω) (d : Delivered) : Bool :=
  d.delivery ≠ .requestReply && d.id.any (n.sightings.remembers n.now)

def select (n : Node ω) (place : Nat) (hs : Handlers) (d : Delivered) : Selection where
  place := place
  supports := Surroundings.supports n.world
  found := hs.find? (Surroundings.supports n.world) d.message.name
  ending := (n.deliver hs d).2
  owed :=
    if n.isRepeated d then none
    else (hs.find? (Surroundings.supports n.world) d.message.name).map (asked · d)

section

variable {n : Node ω} {hs : Handlers} {d : Delivered} {h : HandlerId}

theorem deliver_of_none (hf : hs.find? (Surroundings.supports n.world) d.message.name = none) :
    n.deliver hs d = (n, .returned (.ok (.status .notImplemented))) := by
  rw [deliver, hf]

theorem deliver_of_question
    (hf : hs.find? (Surroundings.supports n.world) d.message.name = some h)
    (hd : d.delivery = .requestReply) : n.deliver hs d = n.answer h d := by
  simp only [deliver, hf, if_pos hd]

theorem deliver_of_signal
    (hf : hs.find? (Surroundings.supports n.world) d.message.name = some h)
    (hd : d.delivery ≠ .requestReply) : n.deliver hs d
      = ((n.acceptSignal h d).1, .returned (.ok (n.acceptSignal h d).2)) := by
  simp only [deliver, hf, if_neg hd]

/-- A message that is received and not refused looks among the handlers that are registered. -/
theorem receiveMessage_of_admitted {id : MemberId} (hs : n.registry.get? d.sender = some id)
    (ht : n.mayTake d) : n.receiveMessage d = (n.touch id).deliver n.handlers d := by
  have hl : ¬ (d.respectLeadership && !(n.touch id).isLeader) = true := (n.mayTake_iff d).mp ht
  rw [receiveMessage, hs]
  dsimp only
  rw [if_neg hl, deliver]
  rfl

end

end

/-! ## Tasks -/

/-- What a task will give to its handler, unless it did so already. -/
def Task.due? (t : Task) : Option Asked :=
  if t.stage = .stuck then none
  else some (.signalled t.handler t.delivered.sender t.delivered.message)

/-- What the tasks of a node will give to handlers. -/
def due (n : Node ω) : List Asked := n.tasks.filterMap Task.due?

/-- What was given to handlers, and what tasks will give them. -/
def dealt (n : Node (Recorded ω)) : List Asked := n.world.given ++ n.due

theorem due_release (n : Node ω) (g : Gate) : (n.release g).due = n.due := by
  have hsame (t : Task) : Task.due? (if t.stage = .waiting g
      then { t with stage := .ready } else t) = t.due? := by
    split
    · rename_i hw
      simp [Task.due?, hw]
    · rfl
  rw [due, release, List.filterMap_map]
  exact List.filterMap_congr fun t _ => hsame t

theorem due_spawn (n : Node ω) (h : HandlerId) (d : Delivered) :
    (n.spawn h d).1.due = n.due ++ [.signalled h d.sender d.message] := by
  have hdue : Task.due? ⟨h, d, n.firstStage d⟩ = some (.signalled h d.sender d.message) := by
    rw [Task.due?, firstStage]
    split <;> simp_all
  rw [due, tasks_spawn, List.filterMap_append, List.filterMap_cons_some hdue]
  rfl

theorem handlers_spawn (n : Node ω) (h : HandlerId) (d : Delivered) :
    (n.spawn h d).1.handlers = n.handlers := by
  rw [spawn]
  split <;> rfl

section

variable [Surroundings ω]

/-- A signal that is accepted becomes a task of its handler, unless it is a repetition. -/
theorem acceptSignal_dealt (n : Node (Recorded ω)) (h : HandlerId) {d : Delivered}
    (hd : d.delivery ≠ .requestReply) :
    (n.acceptSignal h d).1.handlers = n.handlers
    ∧ (n.acceptSignal h d).1.dealt
      = n.dealt ++ (if n.isRepeated d then [] else [.signalled h d.sender d.message]) := by
  have hfresh {m : Node (Recorded ω)} (hhandlers : m.handlers = n.handlers)
      (hdealt : m.dealt = n.dealt) : (m.spawn h d).1.handlers = n.handlers
      ∧ (m.spawn h d).1.dealt = n.dealt ++ [.signalled h d.sender d.message] := by
    refine ⟨(handlers_spawn m h d).trans hhandlers, ?_⟩
    rw [dealt, world_spawn, due_spawn, ← List.append_assoc]
    exact congrArg (· ++ _) hdealt
  have haccepted := acceptSignal_accepted n h d
  generalize n.acceptSignal h d = out at haccepted ⊢
  cases haccepted with
  | repeated hid hr =>
      have hrepeated : n.isRepeated d = true := by simp [isRepeated, hd, hid, hr]
      rw [if_pos hrepeated, List.append_nil]
      exact ⟨rfl, rfl⟩
  | nameless hid =>
      have hnew : ¬ n.isRepeated d = true := by simp [isRepeated, hid]
      rw [if_neg hnew]
      exact hfresh rfl rfl
  | @fresh id m hid hr hm =>
      have hnew : ¬ n.isRepeated d = true := by simp [isRepeated, hid, hr]
      rw [if_neg hnew]
      subst hm
      exact hfresh rfl rfl

/-- A message is dealt what it is owed, and no handler is added or removed by it. -/
theorem deliver_dealt (n : Node (Recorded ω)) (place : Nat) (hs : Handlers) (d : Delivered) :
    (n.deliver hs d).1.handlers = n.handlers
    ∧ (n.deliver hs d).1.dealt.Perm ((n.select place hs d).owed.toList ++ n.dealt) := by
  cases hf : hs.find? (Surroundings.supports n.world) d.message.name with
  | none =>
      rw [deliver_of_none hf]
      refine ⟨rfl, ?_⟩
      simp [select, hf]
  | some h =>
      by_cases hd : d.delivery = .requestReply
      · obtain ⟨hhandlers, htasks, hgiven⟩ := answer_given n h d
        have howed : (n.select place hs d).owed = some (.questioned h d.sender d.message) := by
          simp [select, hf, isRepeated, hd, asked]
        rw [deliver_of_question hf hd, howed, dealt, hgiven, due, htasks, List.append_assoc]
        exact ⟨hhandlers, List.perm_middle⟩
      · obtain ⟨hhandlers, hdealt⟩ := acceptSignal_dealt n h hd
        have howed : (n.select place hs d).owed.toList
            = if n.isRepeated d then [] else [.signalled h d.sender d.message] := by
          simp only [select, hf, Option.map_some, asked, if_neg hd]
          split <;> rfl
        rw [deliver_of_signal hf hd, howed, hdealt]
        exact ⟨hhandlers, List.perm_append_comm⟩

end

/-! ## The switchboard -/

/-- A change on its way: it is to be made of the list at a place, or it was published, as the change
at a place of the history, and whoever asked for it was told how it went. -/
inductive Revision where
  | begun (c : Change) (base : Nat)
  | published (c : Change) (place : Nat) (told : Bool)

/-- A message on its way: it came past the checks, it has a snapshot, or it looked for its handler. -/
inductive Lookup where
  | admitted (d : Delivered)
  | looking (d : Delivered) (place : Nat)
  | done (d : Delivered) (s : Selection)

namespace Lookup

def delivered : Lookup → Delivered
  | admitted d | looking d _ | done d _ => d

/-- The place of the snapshot. -/
def place? : Lookup → Option Nat
  | admitted _ => none
  | looking _ place => some place
  | done _ s => some s.place

def owed? : Lookup → Option Asked
  | done _ s => s.owed
  | _ => none

end Lookup

/-- A node, the changes of its handlers with the lists that they made, the first of which was empty,
and the changes and the messages on their way. -/
structure Switchboard (ω : Type) where
  node : Node (Recorded ω)
  past : List Change
  lists : List Handlers
  revisions : List Revision
  lookups : List Lookup

/-- What happens beside the handlers. Tasks may be released, but not dropped. -/
structure Aside (n n' : Node (Recorded ω)) : Prop where
  handlers : n'.handlers = n.handlers
  due : n'.due = n.due
  given : n'.world.given = n.world.given

theorem Aloof.aside {n n' : Node (Recorded ω)} (h : Aloof n n') : Aside n n' where
  handlers := h.handlers
  due := by rw [Node.due, h.tasks, Node.due]
  given := h.given

theorem aside_release (n : Node (Recorded ω)) (g : Gate) : Aside n (n.release g) where
  handlers := rfl
  due := due_release n g
  given := rfl

namespace Switchboard

/-- Before anything has happened to the handlers of a node. -/
def opened (n : Node (Recorded ω)) : Switchboard ω := ⟨n, [], [.empty], [], []⟩

variable [Surroundings ω]

/-- One step, in any order. -/
inductive Next : Switchboard ω → Switchboard ω → Prop where
  /-- Somebody wants a change and reads the current list. -/
  | begun {n : Node (Recorded ω)} {past : List Change} {lists : List Handlers}
      {rs : List Revision} {ls : List Lookup} (c : Change) :
      Next ⟨n, past, lists, rs, ls⟩ ⟨n, past, lists, rs ++ [.begun c past.length], ls⟩
  /-- The changed list takes the place of the one that was read. -/
  | published {n : Node (Recorded ω)} {past : List Change} {lists : List Handlers}
      {rs us : List Revision} {ls : List Lookup} {c : Change} {hs : Handlers} :
      lists[past.length]? = some hs →
      Next ⟨n, past, lists, rs ++ .begun c past.length :: us, ls⟩
        ⟨{ n with handlers := hs.apply c }, past ++ [c], lists ++ [hs.apply c],
          rs ++ .published c past.length (hs.told c) :: us, ls⟩
  /-- Somebody else was faster, and the list is read again. -/
  | reread {n : Node (Recorded ω)} {past : List Change} {lists : List Handlers}
      {rs us : List Revision} {ls : List Lookup} {c : Change} {base : Nat} : base < past.length →
      Next ⟨n, past, lists, rs ++ .begun c base :: us, ls⟩
        ⟨n, past, lists, rs ++ .begun c past.length :: us, ls⟩
  /-- A message of a registered member arrives and is not refused. -/
  | admitted {n : Node (Recorded ω)} {past : List Change} {lists : List Handlers}
      {rs : List Revision} {ls : List Lookup} {d : Delivered} {id : MemberId} :
      n.registry.get? d.sender = some id → n.mayTake d →
      Next ⟨n, past, lists, rs, ls⟩ ⟨n.touch id, past, lists, rs, ls ++ [.admitted d]⟩
  /-- It takes its snapshot. -/
  | snapped {n : Node (Recorded ω)} {past : List Change} {lists : List Handlers}
      {rs : List Revision} {ls ms : List Lookup} {d : Delivered} :
      Next ⟨n, past, lists, rs, ls ++ .admitted d :: ms⟩
        ⟨n, past, lists, rs, ls ++ .looking d past.length :: ms⟩
  /-- It looks for its handler there. -/
  | looked {n : Node (Recorded ω)} {past : List Change} {lists : List Handlers}
      {rs : List Revision} {ls ms : List Lookup} {d : Delivered} {place : Nat} {hs : Handlers} :
      lists[place]? = some hs →
      Next ⟨n, past, lists, rs, ls ++ .looking d place :: ms⟩
        ⟨(n.deliver hs d).1, past, lists, rs, ls ++ .done d (n.select place hs d) :: ms⟩
  /-- A task that is ready runs. -/
  | ran {n : Node (Recorded ω)} {past : List Change} {lists : List Handlers}
      {rs : List Revision} {ls : List Lookup} {ts us : List Task} {t : Task} :
      n.tasks = ts ++ t :: us → t.stage = .ready →
      Next ⟨n, past, lists, rs, ls⟩ ⟨{ n with tasks := ts ++ us }.runTask t, past, lists, rs, ls⟩
  /-- Something happens that is no business of the handlers. -/
  | aside {n n' : Node (Recorded ω)} {past : List Change} {lists : List Handlers}
      {rs : List Revision} {ls : List Lookup} : Aside n n' →
      Next ⟨n, past, lists, rs, ls⟩ ⟨n', past, lists, rs, ls⟩

/-- What steps of any kind and in any order lead to. -/
def Leads : Switchboard ω → Switchboard ω → Prop := ReflTransGen Next

end Switchboard

/-! ## What holds of changes and messages -/

/-- What was told about a change is right. -/
def Revision.Sound (past : List Change) : Revision → Prop
  | .begun _ base => base ≤ past.length
  | .published c place told => past[place]? = some c
    ∧ ∀ h, c = .remove h → (told = true ↔ IsRegistered (past.take place) h)

/-- A message came to the handler that the history up to its snapshot asks for. -/
structure Selection.Sound (s : Selection) (past : List Change) (d : Delivered) : Prop where
  found : ∀ h, s.found = some h ↔ IsEarliest past (s.supports · d.message.name) h
  missed : s.found = none ↔ ∀ h, IsRegistered past h → s.supports h d.message.name = false
  /-- The status for messages that nobody supports is given to no others. -/
  refused : s.ending = .returned (.ok (.status .notImplemented)) ↔ s.found = none
  /-- Nobody but the handler that was found is owed the message. -/
  owed : ∀ a, s.owed = some a → ∃ h, s.found = some h ∧ a = asked h d
  /-- That one is owed it, unless it is a repetition and was acknowledged as one. -/
  kept : ∀ h, s.found = some h → s.owed = some (asked h d)
    ∨ s.owed = none ∧ d.delivery ≠ .requestReply ∧ s.ending = .returned (.ok (.accepted none))

def Lookup.Sound (past : List Change) : Lookup → Prop
  | .admitted _ => True
  | .looking _ place => place ≤ past.length
  | .done d s => s.place ≤ past.length ∧ s.Sound (past.take s.place) d

/-- What holds at a switchboard. -/
structure Switchboard.Sound (x : Switchboard ω) : Prop where
  /-- Each list is the one that the history up to its place makes. -/
  lists : ∀ (k : Nat) (hs : Handlers),
    x.lists[k]? = some hs ↔ k ≤ x.past.length ∧ hs = .replay (x.past.take k)
  current : x.node.handlers = .replay x.past
  revisions : ∀ r ∈ x.revisions, r.Sound x.past
  lookups : ∀ l ∈ x.lookups, l.Sound x.past
  /-- What handlers were given, or will be given by tasks, is what messages are owed, each once. -/
  dealt : x.node.dealt.Perm (x.lookups.filterMap Lookup.owed?)

/-! ## Nothing breaks it -/

theorem Revision.Sound.concat {past : List Change} {r : Revision} (h : r.Sound past)
    (c : Change) : r.Sound (past ++ [c]) := by
  cases r with
  | begun c' base => exact Nat.le_trans h (by simp)
  | published c' place told =>
      obtain ⟨hplace, htold⟩ := h
      have hlt : place < past.length := (List.getElem?_eq_some_iff.mp hplace).1
      refine ⟨by rw [List.getElem?_append_left hlt]; exact hplace, fun g hg => ?_⟩
      rw [List.take_append_of_le_length (Nat.le_of_lt hlt)]
      exact htold g hg

theorem Lookup.Sound.concat {past : List Change} {l : Lookup} (h : l.Sound past) (c : Change) :
    l.Sound (past ++ [c]) := by
  cases l with
  | admitted d => trivial
  | looking d place => exact Nat.le_trans h (by simp)
  | done d s =>
      obtain ⟨hplace, hs⟩ := h
      refine ⟨Nat.le_trans hplace (by simp), ?_⟩
      rw [List.take_append_of_le_length hplace]
      exact hs

section

variable [Surroundings ω]

omit [Surroundings ω] in
/-- Elements that fit stay so when one is exchanged for another one that fits. -/
theorem forall_mem_replaced {α : Type} {p : α → Prop} {l r : List α} {a b : α}
    (h : ∀ c ∈ l ++ a :: r, p c) (hb : p b) : ∀ c ∈ l ++ b :: r, p c := by
  simp only [List.mem_append, List.mem_cons] at h ⊢
  rintro c (hc | rfl | hc)
  · exact h c (.inl hc)
  · exact hb
  · exact h c (.inr (.inr hc))

theorem answer_ne_status (n : Node ω) (h : HandlerId) (d : Delivered) (status : Status) :
    (n.answer h d).2 ≠ .returned (.ok (.status status)) := by
  intro heq
  rw [answer] at heq
  split at heq
  · cases heq
  · cases heq
  · cases heq

/-- A signal is accepted, without a gate if it is a repetition. -/
theorem acceptSignal_reply (n : Node ω) (h : HandlerId) (d : Delivered) :
    ∃ gate, (n.acceptSignal h d).2 = .accepted gate ∧ (n.isRepeated d = true → gate = none) := by
  have haccepted := acceptSignal_accepted n h d
  generalize n.acceptSignal h d = out at haccepted ⊢
  cases haccepted with
  | repeated hid hr => exact ⟨none, rfl, fun _ => rfl⟩
  | nameless hid => exact ⟨_, rfl, fun hrepeated => by simp [isRepeated, hid] at hrepeated⟩
  | fresh hid hr hm => exact ⟨_, rfl, fun hrepeated => by simp [isRepeated, hid, hr] at hrepeated⟩

theorem sound_select (n : Node ω) (place : Nat) (past : List Change) (d : Delivered) :
    (n.select place (.replay past) d).Sound past d := by
  have hquestion (hd : d.delivery = .requestReply) : ¬ n.isRepeated d = true := by
    simp [isRepeated, hd]
  refine ⟨fun h => Handlers.find?_replay, Handlers.find?_replay_eq_none, ?_, fun a ha => ?_,
    fun h hf => ?_⟩
  · show (n.deliver (.replay past) d).2 = _
      ↔ (Handlers.replay past).find? (Surroundings.supports n.world) d.message.name = none
    cases hf : (Handlers.replay past).find? (Surroundings.supports n.world) d.message.name with
    | none => simp [deliver_of_none hf]
    | some h =>
        by_cases hd : d.delivery = .requestReply
        · simp [deliver_of_question hf hd, answer_ne_status]
        · obtain ⟨gate, hgate, -⟩ := acceptSignal_reply n h d
          simp [deliver_of_signal hf hd, hgate]
  · simp only [select] at ha
    split at ha
    · cases ha
    · obtain ⟨h, hf, rfl⟩ := Option.map_eq_some_iff.mp ha
      exact ⟨h, hf, rfl⟩
  · have hf : (Handlers.replay past).find? (Surroundings.supports n.world) d.message.name
        = some h := hf
    by_cases hrepeated : n.isRepeated d = true
    · have hd : d.delivery ≠ .requestReply := fun hd => hquestion hd hrepeated
      obtain ⟨gate, hgate, hnone⟩ := acceptSignal_reply n h d
      rw [hnone hrepeated] at hgate
      exact .inr ⟨by simp [select, hrepeated], hd,
        by simp [select, deliver_of_signal hf hd, hgate]⟩
    · exact .inl (by simp [select, hrepeated, hf])

end

namespace Switchboard

theorem sound_opened {n : Node (Recorded ω)} (hhandlers : n.handlers = .empty)
    (htasks : n.tasks = []) (hasked : n.world.asked = []) : (opened n).Sound where
  lists := by
    intro k hs
    cases k with
    | zero => simp [opened, Handlers.replay, eq_comm]
    | succ k => simp [opened]
  current := hhandlers
  revisions := List.forall_mem_nil _
  lookups := List.forall_mem_nil _
  dealt := by simp [opened, dealt, due, htasks, Recorded.given, hasked]

namespace Sound

variable {n n' : Node (Recorded ω)} {past : List Change} {lists : List Handlers}
  {rs us : List Revision} {ls ms : List Lookup}

theorem length_lists {x : Switchboard ω} (h : x.Sound) : x.lists.length = x.past.length + 1 := by
  have hlast := (h.lists x.past.length _).mpr ⟨Nat.le_refl _, rfl⟩
  have hlt := (List.getElem?_eq_some_iff.mp hlast).1
  by_contra hne
  have hmore : x.past.length + 1 < x.lists.length := by omega
  have hle := ((h.lists _ _).mp (List.getElem?_eq_getElem hmore)).1
  omega

/-- A change is made of the list that is current. -/
theorem eq_current (h : Sound (⟨n, past, lists, rs, ls⟩ : Switchboard ω)) {hs : Handlers}
    (hhs : lists[past.length]? = some hs) : hs = n.handlers := by
  have hlist := ((h.lists past.length hs).mp hhs).2
  have hcurrent : n.handlers = .replay past := h.current
  rw [hlist, hcurrent, List.take_length]

theorem published (h : Sound (⟨n, past, lists, rs, ls⟩ : Switchboard ω)) {hs : Handlers}
    (hhs : lists[past.length]? = some hs) (c : Change) (rs' : List Revision)
    (hrs : ∀ r ∈ rs', r.Sound (past ++ [c])) :
    Sound ⟨{ n with handlers := hs.apply c }, past ++ [c], lists ++ [hs.apply c], rs', ls⟩ := by
  have hlength : lists.length = past.length + 1 := h.length_lists
  have hmade : hs.apply c = .replay (past ++ [c]) := by
    rw [h.eq_current hhs, Handlers.replay_concat]
    exact congrArg (Handlers.apply · c) h.current
  refine ⟨fun k hs' => ?_, hmade, hrs, fun l hl => (h.lookups l hl).concat c, h.dealt⟩
  dsimp only
  rcases Nat.lt_trichotomy k (past.length + 1) with hlt | rfl | hgt
  · have hold := h.lists k hs'
    rw [List.getElem?_append_left (by omega), List.take_append_of_le_length (by omega),
      List.length_append]
    refine hold.trans (and_congr_left fun _ => ?_)
    simp only [List.length_singleton]
    omega
  · rw [List.getElem?_append_right (by omega), hlength, hmade,
      List.take_of_length_le (by simp)]
    simp [eq_comm]
  · rw [List.getElem?_eq_none (by simp; omega)]
    simp
    omega

/-- A message on its way is owed something once it looked for its handler. -/
theorem filterMap_owed? (l : Lookup) : (ls ++ l :: ms).filterMap Lookup.owed?
    = ls.filterMap Lookup.owed? ++ (l.owed?.toList ++ ms.filterMap Lookup.owed?) := by
  rw [List.filterMap_append, List.filterMap_cons]
  cases l.owed? <;> rfl

theorem dealt_runTask [Surroundings ω] {ts us : List Task} {t : Task}
    (htasks : n.tasks = ts ++ t :: us) (ht : t.stage = .ready) :
    ({ n with tasks := ts ++ us }.runTask t).dealt.Perm n.dealt := by
  obtain ⟨-, hgiven⟩ := runTask_given { n with tasks := ts ++ us } t
  have hresidue : ({ n with tasks := ts ++ us }.residue t).filterMap Task.due? = [] :=
    List.filterMap_eq_nil_iff.mpr fun u hu => if_pos (not_ready_of_mem_residue hu)
  have hdue : t.due? = some (.signalled t.handler t.delivered.sender t.delivered.message) := by
    simp [Task.due?, ht]
  rw [Node.dealt, Node.dealt, hgiven, due, due, tasks_runTask, htasks, List.filterMap_append,
    List.filterMap_append, hresidue, List.append_nil, List.filterMap_append,
    List.filterMap_cons_some hdue, List.append_assoc, List.singleton_append]
  exact List.perm_middle.symm.append_left _

theorem looked [Surroundings ω] {d : Delivered} {place : Nat} {hs : Handlers}
    (h : Sound (⟨n, past, lists, rs, ls ++ .looking d place :: ms⟩ : Switchboard ω))
    (hhs : lists[place]? = some hs) :
    Sound ⟨(n.deliver hs d).1, past, lists, rs, ls ++ .done d (n.select place hs d) :: ms⟩ := by
  obtain ⟨hplace, rfl⟩ := (h.lists place hs).mp hhs
  obtain ⟨hhandlers, hdealt⟩ := n.deliver_dealt place (.replay (past.take place)) d
  refine ⟨h.lists, hhandlers.trans h.current, h.revisions,
    forall_mem_replaced h.lookups ⟨hplace, sound_select n place (past.take place) d⟩, ?_⟩
  have hbefore : n.dealt.Perm ((ls ++ .looking d place :: ms).filterMap Lookup.owed?) := h.dealt
  rw [filterMap_owed?] at hbefore
  rw [filterMap_owed?]
  exact (hdealt.trans (hbefore.append_left _)).trans (List.perm_append_comm_assoc ..)

theorem ran [Surroundings ω] (h : Sound (⟨n, past, lists, rs, ls⟩ : Switchboard ω))
    {ts us : List Task} {t : Task} (htasks : n.tasks = ts ++ t :: us) (ht : t.stage = .ready) :
    Sound ⟨{ n with tasks := ts ++ us }.runTask t, past, lists, rs, ls⟩ := by
  obtain ⟨hhandlers, hgiven⟩ := runTask_given { n with tasks := ts ++ us } t
  refine ⟨h.lists, hhandlers.trans h.current, h.revisions, h.lookups, ?_⟩
  exact (dealt_runTask htasks ht).trans h.dealt

theorem aside (h : Sound (⟨n, past, lists, rs, ls⟩ : Switchboard ω)) (haside : Aside n n') :
    Sound ⟨n', past, lists, rs, ls⟩ where
  lists := h.lists
  current := haside.handlers.trans h.current
  revisions := h.revisions
  lookups := h.lookups
  dealt := by
    have hsame : n'.dealt = n.dealt := by
      rw [Node.dealt, haside.given, haside.due, Node.dealt]
    exact hsame ▸ h.dealt

/-- No step breaks what holds at a switchboard. -/
theorem next [Surroundings ω] {x y : Switchboard ω} (h : x.Sound) (hstep : Next x y) :
    y.Sound := by
  cases hstep with
  | begun c =>
      refine ⟨h.lists, h.current, ?_, h.lookups, h.dealt⟩
      intro r hr
      rcases List.mem_append.mp hr with hold | hnew
      · exact h.revisions r hold
      · rw [List.mem_singleton.mp hnew]
        exact Nat.le_refl _
  | @published n past lists rs us ls c hs hhs =>
      have hlater : ∀ r ∈ rs ++ .begun c past.length :: us, r.Sound (past ++ [c]) :=
        fun r hr => (h.revisions r hr).concat c
      refine published h hhs c _ (forall_mem_replaced hlater ⟨by simp, fun g hg => ?_⟩)
      have hcurrent : n.handlers = .replay past := h.current
      rw [h.eq_current hhs, hcurrent, hg, List.take_left]
      exact Handlers.told_remove
  | reread hbase =>
      exact ⟨h.lists, h.current, forall_mem_replaced h.revisions (Nat.le_refl _), h.lookups,
        h.dealt⟩
  | @admitted n past lists rs ls d id hs ht =>
      refine ⟨h.lists, h.current, h.revisions, ?_, ?_⟩
      · intro l hl
        rcases List.mem_append.mp hl with hold | hnew
        · exact h.lookups l hold
        · rw [List.mem_singleton.mp hnew]
          trivial
      · rw [filterMap_owed?]
        exact (List.append_nil _).symm ▸ h.dealt
  | @snapped n past lists rs ls ms d =>
      refine ⟨h.lists, h.current, h.revisions, forall_mem_replaced h.lookups (Nat.le_refl _), ?_⟩
      have hbefore : n.dealt.Perm ((ls ++ .admitted d :: ms).filterMap Lookup.owed?) := h.dealt
      rw [filterMap_owed?] at hbefore ⊢
      exact hbefore
  | looked hhs => exact h.looked hhs
  | ran htasks ht => exact h.ran htasks ht
  | aside haside => exact h.aside haside

theorem leads [Surroundings ω] {x y : Switchboard ω} (h : x.Sound) (hway : Leads x y) :
    y.Sound := by
  induction hway with
  | refl => exact h
  | tail _ hstep ih => exact ih.next hstep

end Sound

end Switchboard

end Conclave.Node
