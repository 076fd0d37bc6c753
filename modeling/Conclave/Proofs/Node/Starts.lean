import Conclave.Proofs.Node.Calling

/-!
# What starts the handler of a signal

Among recorded surroundings, `starts` is what was given to handlers as signals. Only a task that
runs gives a signal to its handler, and only a message that arrives makes a task. All else leaves
both alone (`Still`, with a lemma for each function); what a message comes to is one of three
things (`Taken`).

The tasks that are ready run one after the other: running all of them is running the first one and
then the others (`runTasks_of_ready`).
-/

namespace Conclave.Node

open Wire

variable {ω : Type}

/-! ## Starts -/

/-- A signal that was given to its handler. -/
structure Start where
  handler : HandlerId
  sender : String
  message : Message
deriving DecidableEq, Repr

def Asked.start? : Asked → Option Start
  | .signalled handler sender message => some ⟨handler, sender, message⟩
  | _ => none

namespace Recorded

def starts (r : Recorded ω) : List Start := r.asked.filterMap Asked.start?

theorem starts_note (r : Recorded ω) (a : Asked) (world : ω) :
    (r.note a world).starts = r.starts ++ a.start?.toList := by
  cases h : a.start? <;> simp [starts, note, h]

theorem starts_note_none (r : Recorded ω) {a : Asked} (h : a.start? = none) (world : ω) :
    (r.note a world).starts = r.starts := by
  rw [starts_note, h, Option.toList_none, List.append_nil]

end Recorded

/-! ## The frame -/

/-- Two states of a node with the same tasks, between which no gate was made and no signal was
given to a handler. -/
structure Still (n n' : Node (Recorded ω)) : Prop where
  tasks : n'.tasks = n.tasks
  gates : n'.gates = n.gates
  starts : n'.world.starts = n.world.starts

namespace Still

variable {n n' n'' : Node (Recorded ω)}

theorem refl (n : Node (Recorded ω)) : Still n n := ⟨rfl, rfl, rfl⟩

theorem trans (h : Still n n') (h' : Still n' n'') : Still n n'' where
  tasks := h'.tasks.trans h.tasks
  gates := h'.gates.trans h.gates
  starts := h'.starts.trans h.starts

end Still

theorem still_obey (n : Node (Recorded ω)) (c : Control) : Still n (n.obey c) := by
  cases c with
  | closeMember address =>
      rw [obey, closeMember]
      split <;> exact ⟨rfl, rfl, rfl⟩
  | _ => exact ⟨rfl, rfl, rfl⟩

theorem still_after (n : Node (Recorded ω)) {world : Recorded ω}
    (h : world.starts = n.world.starts) (controls : List Control) :
    Still n (n.after world controls) := by
  have hworld : Still n { n with world := world } := ⟨rfl, rfl, h⟩
  exact hworld.trans (sustained_foldl Still.refl Still.trans still_obey controls _)

theorem still_discharge (n : Node (Recorded ω)) (desired : List String) (address : String) :
    Still n (n.discharge desired address).1 := by
  rw [discharge]
  split
  · exact .refl n
  · split <;> exact ⟨rfl, rfl, rfl⟩

variable [Surroundings ω]

theorem still_enlist (n : Node (Recorded ω)) (address : String) :
    Still n (n.enlist address).1 := by
  rw [enlist, makeMember]
  split
  · exact .refl n
  · cases Surroundings.accept n.world address <;> exact ⟨rfl, rfl, rfl⟩

theorem still_perform (n : Node (Recorded ω)) (desired : List String) (c : Chore) :
    Still n (n.perform desired c).1 := by
  cases c with
  | discharge address => exact still_discharge n desired address
  | enlist address => exact still_enlist n address

theorem still_announce (n : Node (Recorded ω)) (e : MemberEvent) : Still n (n.announce e) :=
  ⟨rfl, rfl, rfl⟩

theorem sustained_still : Sustained (Still : Node (Recorded ω) → Node (Recorded ω) → Prop) where
  refl := .refl
  trans := .trans
  perform := still_perform
  announce := still_announce
  adopt _ _ := ⟨rfl, rfl, rfl⟩
  follower _ _ := ⟨rfl, rfl, rfl⟩

theorem still_elapse (n : Node (Recorded ω)) : Still n n.elapse := by
  have hstarts : (Surroundings.elapse n.world).1.starts = n.world.starts := rfl
  rw [elapse]
  exact still_after n hstarts (Surroundings.elapse n.world).2

theorem still_consult (n : Node (Recorded ω)) (id : MemberId) (sender : String)
    (call : ConsensusCall) : Still n (n.consult id sender call).1 := by
  have htouch : Still n (n.touch id) := ⟨rfl, rfl, rfl⟩
  have hstarts : (Surroundings.receive (n.touch id).world sender call).1.starts
      = (n.touch id).world.starts := Recorded.starts_note_none _ rfl _
  rw [consult]
  dsimp only
  generalize Surroundings.receive (n.touch id).world sender call = out at hstarts ⊢
  obtain ⟨world, controls, answer⟩ := out
  cases answer <;> exact htouch.trans (still_after _ hstarts controls)

theorem still_receiveVote (n : Node (Recorded ω)) (sender : String) (r : VoteRequest) :
    Still n (n.receiveVote sender r).1 := by
  rw [receiveVote]
  split
  · exact .refl n
  · exact still_consult ..

theorem still_receiveOrder (n : Node (Recorded ω)) (sender : String) (call : ConsensusCall) :
    Still n (n.receiveOrder sender call).1 := by
  rw [receiveOrder]
  split
  · exact .refl n
  · exact still_consult ..

omit [Surroundings ω] in
theorem still_updateMember (n : Node (Recorded ω)) (id : MemberId) (f : Member → Member) :
    Still n (n.updateMember id f) := ⟨rfl, rfl, rfl⟩

theorem still_tellMetadata (n : Node (Recorded ω)) (sender : Option String) :
    Still n (n.tellMetadata sender).1 := by
  rw [tellMetadata]
  dsimp only
  split
  · exact still_updateMember ..
  · exact .refl n

theorem still_answer (n : Node (Recorded ω)) (h : HandlerId) (d : Delivered) :
    Still n (n.answer h d).1 := by
  have hstarts : (Surroundings.answer n.world h d.sender d.message).1.starts = n.world.starts :=
    Recorded.starts_note_none _ rfl _
  rw [answer]
  generalize Surroundings.answer n.world h d.sender d.message = out at hstarts ⊢
  obtain ⟨world, controls, ending⟩ := out
  cases ending with
  | never => exact still_after n hstarts controls
  | returned result => cases result <;> exact still_after n hstarts controls

theorem starts_transmit {w w' : Recorded ω} {address : String} {o : Outbound}
    {controls : List Control} {ending : Ending (Except Fault o.Answer)}
    (h : Surroundings.transmit w address o = (w', controls, ending)) : w'.starts = w.starts := by
  obtain rfl : w.note (.transmitted address o) _ = w' := congrArg Prod.fst h
  exact Recorded.starts_note_none _ rfl _

/-! ## Messages that arrive -/

/-- What a message that arrives can come to: nothing that waits, a task that may start at once, or a
task behind a gate that the reply carries. -/
inductive Taken (n : Node (Recorded ω)) :
    Node (Recorded ω) × Ending (Except Fault Reply) → Prop where
  | nothing {m : Node (Recorded ω)} {ending : Ending (Except Fault Reply)} : Still n m →
      (∀ reply, ending = .returned (.ok reply) → reply.gate? = none) → Taken n (m, ending)
  | ready {m : Node (Recorded ω)} {h : HandlerId} {d : Delivered} : d.delivery ≠ .oneWayNoAck →
      m.tasks = n.tasks ++ [⟨h, d, .ready⟩] → m.gates = n.gates →
      m.world.starts = n.world.starts → Taken n (m, .returned (.ok (.accepted none)))
  | parked {m : Node (Recorded ω)} {h : HandlerId} {d : Delivered} : d.delivery = .oneWayNoAck →
      m.tasks = n.tasks ++ [⟨h, d, .waiting n.gates⟩] → m.gates = n.gates + 1 →
      m.world.starts = n.world.starts →
      Taken n (m, .returned (.ok (.accepted (some n.gates))))

omit [Surroundings ω] in
theorem Taken.of_still {n m : Node (Recorded ω)}
    {out : Node (Recorded ω) × Ending (Except Fault Reply)} (h : Still n m) (hm : Taken m out) :
    Taken n out := by
  cases hm with
  | nothing hstill hreply => exact .nothing (h.trans hstill) hreply
  | ready hd htasks hgates hstarts =>
      rw [h.tasks] at htasks
      exact .ready hd htasks (hgates.trans h.gates) (hstarts.trans h.starts)
  | parked hd htasks hgates hstarts =>
      rw [h.tasks] at htasks
      rw [h.gates] at htasks hgates ⊢
      exact .parked hd htasks hgates (hstarts.trans h.starts)

omit [Surroundings ω] in
theorem taken_spawn (n : Node (Recorded ω)) (h : HandlerId) (d : Delivered) :
    Taken n ((n.spawn h d).1, .returned (.ok (.accepted (n.spawn h d).2))) := by
  by_cases hd : d.delivery = .oneWayNoAck
  · rw [spawn, if_pos hd]
    exact .parked hd rfl rfl rfl
  · rw [spawn, if_neg hd]
    exact .ready hd rfl rfl rfl

theorem taken_acceptSignal (n : Node (Recorded ω)) (h : HandlerId) (d : Delivered) :
    Taken n ((n.acceptSignal h d).1, .returned (.ok (n.acceptSignal h d).2)) := by
  have haccepted := acceptSignal_accepted n h d
  generalize n.acceptSignal h d = r at haccepted ⊢
  cases haccepted with
  | repeated hid hr =>
      refine .nothing (.refl n) fun reply hreply => ?_
      obtain rfl := Except.ok.inj (Ending.returned.inj hreply)
      rfl
  | nameless hid => exact taken_spawn n h d
  | @fresh id m hid hr hm =>
      have hseen : Still n m := by
        rw [hm]
        exact ⟨rfl, rfl, rfl⟩
      exact .of_still hseen (taken_spawn m h d)

theorem gate?_answer (n : Node (Recorded ω)) (h : HandlerId) (d : Delivered) {reply : Reply}
    (hreply : (n.answer h d).2 = .returned (.ok reply)) : reply.gate? = none := by
  rw [answer] at hreply
  split at hreply
  · obtain rfl := Except.ok.inj (Ending.returned.inj hreply)
    rfl
  · cases hreply
  · cases hreply

theorem taken_receiveMessage (n : Node (Recorded ω)) (d : Delivered) :
    Taken n (n.receiveMessage d) := by
  have htouch : ∀ id, Still n (n.touch id) := fun _ => ⟨rfl, rfl, rfl⟩
  have hstatus : ∀ (m : Node (Recorded ω)) (status : Status), Still n m →
      Taken n (m, .returned (.ok (.status status))) := by
    intro m status hm
    refine .nothing hm fun reply hreply => ?_
    obtain rfl := Except.ok.inj (Ending.returned.inj hreply)
    rfl
  have hreceived := receiveMessage_received n d
  generalize n.receiveMessage d = r at hreceived ⊢
  cases hreceived with
  | stranger hs => exact hstatus n _ (.refl n)
  | misdirected hs hl => exact hstatus _ _ (htouch _)
  | unsupported hs ht hf => exact hstatus _ _ (htouch _)
  | @questioned id h hs ht hf hd =>
      exact .nothing ((htouch id).trans (still_answer _ h d)) fun _ => gate?_answer _ h d
  | @signalled id h hs ht hf hd => exact .of_still (htouch id) (taken_acceptSignal _ h d)

theorem gate?_consult (n : Node (Recorded ω)) (id : MemberId) (sender : String)
    (call : ConsensusCall) {reply : Reply} (h : (n.consult id sender call).2 = .ok reply) :
    reply.gate? = none := by
  rw [consult] at h
  dsimp only at h
  split at h
  · obtain rfl := Except.ok.inj h
    rfl
  · cases h

theorem taken_route (n : Node (Recorded ω)) (request : Request) : Taken n (n.route request) := by
  have horder : ∀ (sender : String) (call : ConsensusCall) (reply : Reply),
      Ending.returned (n.receiveOrder sender call).2 = .returned (.ok reply) →
      reply.gate? = none := by
    intro sender call reply hreply
    have hreply := Ending.returned.inj hreply
    rw [receiveOrder] at hreply
    split at hreply
    · obtain rfl := Except.ok.inj hreply
      rfl
    · exact gate?_consult _ _ _ _ hreply
  cases request with
  | custom d => exact taken_receiveMessage n d
  | requestVote sender vote =>
      refine .nothing (still_receiveVote n sender vote) fun reply hreply => ?_
      have hreply : (n.receiveVote sender vote).2 = .ok reply := Ending.returned.inj hreply
      rw [receiveVote] at hreply
      split at hreply
      · obtain rfl := Except.ok.inj hreply
        rfl
      · exact gate?_consult _ _ _ _ hreply
  | appendEntries sender entries => exact .nothing (still_receiveOrder ..) (horder sender _)
  | installSnapshot sender header snapshot =>
      exact .nothing (still_receiveOrder ..) (horder sender _)
  | resign sender => exact .nothing (still_receiveOrder ..) (horder sender _)
  | metadata sender =>
      refine .nothing (still_tellMetadata n sender) fun reply hreply => ?_
      obtain rfl := Except.ok.inj (Ending.returned.inj hreply)
      rfl

theorem taken_dispatch (n : Node (Recorded ω)) (fields : Fields) (body : Body) :
    Taken n (n.dispatch fields body) := by
  rw [dispatch]
  cases Request.decode fields body with
  | error fault => exact .nothing (.refl n) fun _ hreply => by cases hreply
  | ok request => exact taken_route n request

/-! ## Tasks that run -/

/-- What is left of a task that has run: nothing, unless its handler never returns. -/
def residue (n : Node (Recorded ω)) (t : Task) : List Task :=
  match (Surroundings.take n.world t.handler t.delivered.sender t.delivered.message).2.2 with
  | .returned _ => []
  | .never => [{ t with stage := .stuck }]

omit [Surroundings ω] in
theorem after_with_tasks (n : Node (Recorded ω)) (l : List Task) (world : Recorded ω)
    (controls : List Control) :
    { n with tasks := l }.after world controls = { n.after world controls with tasks := l } := by
  have hobey : ∀ (m : Node (Recorded ω)) (c : Control),
      { m with tasks := l }.obey c = { m.obey c with tasks := l } := by
    intro m c
    cases c with
    | closeMember address =>
        simp only [obey, closeMember]
        split <;> rfl
    | _ => rfl
  have hfold : ∀ (cs : List Control) (m : Node (Recorded ω)),
      cs.foldl obey { m with tasks := l } = { cs.foldl obey m with tasks := l } := by
    intro cs
    induction cs with
    | nil => exact fun _ => rfl
    | cons c r ih =>
        intro m
        rw [List.foldl_cons, hobey, ih, List.foldl_cons]
  exact hfold controls { n with world := world }

/-- A task that runs does the same, whatever other tasks there are. -/
theorem runTask_with_tasks (n : Node (Recorded ω)) (l : List Task) (t : Task) :
    { n with tasks := l }.runTask t = { n.runTask t with tasks := l ++ n.residue t } := by
  rw [runTask, runTask, residue]
  dsimp only
  rcases Surroundings.take n.world t.handler t.delivered.sender t.delivered.message
    with ⟨world, controls, ending⟩
  cases ending with
  | returned value => simp only [List.append_nil, after_with_tasks]
  | never => simp only [after_with_tasks]

theorem tasks_runTask (n : Node (Recorded ω)) (t : Task) :
    (n.runTask t).tasks = n.tasks ++ n.residue t :=
  congrArg Node.tasks (n.runTask_with_tasks n.tasks t)

theorem gates_runTask (n : Node (Recorded ω)) (t : Task) : (n.runTask t).gates = n.gates := by
  have hafter : ∀ (world : Recorded ω) (controls : List Control),
      (n.after world controls).gates = n.gates := fun world controls =>
    (sustained_foldl Still.refl Still.trans still_obey controls { n with world := world }).gates
  rw [runTask]
  dsimp only
  split <;> exact hafter _ _

/-- A task that runs gives its signal to its handler. -/
theorem starts_runTask (n : Node (Recorded ω)) (t : Task) : (n.runTask t).world.starts
    = n.world.starts ++ [⟨t.handler, t.delivered.sender, t.delivered.message⟩] := by
  have hnoted :
      (Surroundings.take n.world t.handler t.delivered.sender t.delivered.message).1.starts
      = n.world.starts ++ [⟨t.handler, t.delivered.sender, t.delivered.message⟩] :=
    Recorded.starts_note ..
  rw [runTask]
  dsimp only
  generalize Surroundings.take n.world t.handler t.delivered.sender t.delivered.message = out
    at hnoted ⊢
  obtain ⟨world, controls, ending⟩ := out
  cases ending <;> exact (congrArg Recorded.starts (world_after ..)).trans hnoted

theorem not_ready_of_mem_residue {n : Node (Recorded ω)} {t u : Task} (h : u ∈ n.residue t) :
    u.stage = .stuck := by
  rw [residue] at h
  split at h
  · cases h
  · rw [List.mem_singleton.mp h]

/-- Behind a task that runs those are ready that were ready before. -/
theorem ready_append_residue (n : Node (Recorded ω)) {ts us : List Task} (t : Task)
    (hts : ∀ u ∈ ts, u.stage ≠ .ready) :
    (ts ++ us ++ n.residue t).filter (·.stage = .ready) = us.filter (·.stage = .ready) := by
  have hnone : ts.filter (·.stage = .ready) = [] :=
    List.filter_eq_nil_iff.mpr fun u hu => by simpa using hts u hu
  have hresidue : (n.residue t).filter (·.stage = .ready) = [] :=
    List.filter_eq_nil_iff.mpr fun u hu => by simp [not_ready_of_mem_residue hu]
  rw [List.filter_append, List.filter_append, hnone, hresidue, List.append_nil]
  rfl

/-- Nothing runs when nothing is ready. -/
theorem runTasks_of_none_ready {n : Node ω} (h : ∀ t ∈ n.tasks, t.stage ≠ .ready) :
    n.runTasks = n := by
  have hready : n.tasks.filter (·.stage = .ready) = [] :=
    List.filter_eq_nil_iff.mpr fun t ht => by simpa using h t ht
  have hothers : n.tasks.filter (not ∘ (·.stage = .ready)) = n.tasks :=
    List.filter_eq_self.mpr fun t ht => by simpa using h t ht
  rw [runTasks, List.partition_eq_filter_filter]
  dsimp only
  rw [hready, hothers]
  rfl

/-- To run all tasks that are ready is to run the first one, and then the others. -/
theorem runTasks_of_ready {n : Node (Recorded ω)} {ts us : List Task} {t : Task}
    (htasks : n.tasks = ts ++ t :: us) (ht : t.stage = .ready) (hts : ∀ u ∈ ts, u.stage ≠ .ready) :
    n.runTasks = ({ n with tasks := ts ++ us }.runTask t).runTasks := by
  have hnone : ts.filter (·.stage = .ready) = [] :=
    List.filter_eq_nil_iff.mpr fun u hu => by simpa using hts u hu
  have hstuck : (n.residue t).filter (not ∘ (·.stage = .ready)) = n.residue t :=
    List.filter_eq_self.mpr fun u hu => by simp [not_ready_of_mem_residue hu]
  have hready : n.tasks.filter (·.stage = .ready) = t :: us.filter (·.stage = .ready) := by
    rw [htasks, List.filter_append, hnone, List.filter_cons_of_pos (by simpa using ht)]
    rfl
  have hothers : n.tasks.filter (not ∘ (·.stage = .ready))
      = (ts ++ us).filter (not ∘ (·.stage = .ready)) := by
    rw [htasks, List.filter_append, List.filter_append,
      List.filter_cons_of_neg (by simp [ht])]
  have hothersLater : (ts ++ us ++ n.residue t).filter (not ∘ (·.stage = .ready))
      = (ts ++ us).filter (not ∘ (·.stage = .ready)) ++ n.residue t := by
    rw [List.filter_append, hstuck]
  rw [runTasks, runTasks, List.partition_eq_filter_filter, List.partition_eq_filter_filter,
    runTask_with_tasks]
  dsimp only
  rw [hready, hothers, List.foldl_cons, runTask_with_tasks,
    ready_append_residue n t hts, hothersLater]

end Conclave.Node
