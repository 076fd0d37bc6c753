import Conclave.Proofs.Http.Acknowledgment
import Conclave.Proofs.Node.Signals
import Conclave.Proofs.Node.Ways

/-!
# Signals are released, and started once

Whatever a node does of its own accord leads from desk to desk and leaves the papers alone, and no
task waits afterwards that did not wait before (`Goes`): a signal that a node takes from itself
waits for nobody. To run the tasks that are ready is to start the signals that are ready
(`leads_runTasks`).

So a signal that is to be acknowledged first waits until its own paper is closed, and no longer;
then it can be started, and it is started once (`Desk.Keeps`).
-/

namespace Conclave.Http

open Wire Node
open Relation (ReflTransGen)

variable {ω : Type}

/-! ## What becomes of signals -/

/-- Of a signal nothing changes but how far it is. Once it may start it can only be started, and
then it stays so. -/
structure Signal.Becomes (σ σ' : Signal) : Prop where
  same : { σ with progress := σ'.progress } = σ'
  ready : σ.progress = .ready → σ'.progress = .ready ∨ σ'.progress = .started
  started : σ.progress = .started → σ'.progress = .started

namespace Signal.Becomes

variable {σ σ' σ'' : Signal}

theorem refl (σ : Signal) : σ.Becomes σ := ⟨rfl, .inl, id⟩

theorem trans (h : σ.Becomes σ') (h' : σ'.Becomes σ'') : σ.Becomes σ'' where
  same := by
    rw [← h'.same, ← h.same]
  ready := by
    intro hready
    rcases h.ready hready with hr | hs
    · exact h'.ready hr
    · exact .inr (h'.started hs)
  started := fun hs => h'.started (h.started hs)

theorem release (g : Gate) (σ : Signal) : σ.Becomes (σ.release g) := by
  rw [Signal.release]
  split
  · rename_i hw
    refine ⟨rfl, fun _ => .inl rfl, fun hs => ?_⟩
    rw [hw] at hs
    cases hs
  · exact .refl σ

end Signal.Becomes

/-- Signals in their places, later. -/
def Grown (ss ss' : List Signal) : Prop :=
  ∀ (i : Nat) (σ : Signal), ss[i]? = some σ → ∃ σ', ss'[i]? = some σ' ∧ σ.Becomes σ'

namespace Grown

variable {ss ss' ss'' : List Signal}

theorem refl (ss : List Signal) : Grown ss ss := fun _ σ h => ⟨σ, h, .refl σ⟩

theorem trans (h : Grown ss ss') (h' : Grown ss' ss'') : Grown ss ss'' := by
  intro i σ hσ
  obtain ⟨σ', hσ', hbecomes⟩ := h i σ hσ
  obtain ⟨σ'', hσ'', hbecomes'⟩ := h' i σ' hσ'
  exact ⟨σ'', hσ'', hbecomes.trans hbecomes'⟩

theorem append (ss added : List Signal) : Grown ss (ss ++ added) := by
  intro i σ hσ
  refine ⟨σ, ?_, .refl σ⟩
  rw [List.getElem?_append_left (List.getElem?_eq_some_iff.mp hσ).1]
  exact hσ

theorem released (gate : Option Gate) (ss : List Signal) : Grown ss (released gate ss) := by
  cases gate with
  | none => exact .refl ss
  | some g =>
      intro i σ hσ
      refine ⟨σ.release g, ?_, .release g σ⟩
      rw [Http.released, List.getElem?_map, hσ]
      rfl

theorem replaced {σ σ' : Signal} (h : σ.Becomes σ') (ss vs : List Signal) :
    Grown (ss ++ σ :: vs) (ss ++ σ' :: vs) := by
  have hset : ss ++ σ' :: vs = (ss ++ σ :: vs).set ss.length σ' := by simp
  intro i τ hτ
  rw [hset]
  by_cases hi : ss.length = i
  · subst hi
    obtain rfl : σ = τ := by simpa using hτ
    exact ⟨σ', getElem?_set_of_some hτ, h⟩
  · exact ⟨τ, (List.getElem?_set_ne hi).trans hτ, .refl τ⟩

end Grown

variable [Surroundings ω]

theorem grown_next {x y : Desk ω} (h : Next x y) : Grown x.signals y.signals := by
  cases h with
  | dispatched fields body => exact Grown.append _ _
  | encoded hp => exact .refl _
  | polled hp => exact Grown.released _ _
  | dropped hp => exact Grown.released _ _
  | handed e => exact Grown.append _ _
  | started htasks hready hplace hσ =>
      refine .replaced ⟨rfl, fun _ => .inr rfl, fun _ => rfl⟩ _ _
  | lost htasks hwaiting hplace hσ =>
      have hw := Signal.progress_of_waiting hσ hwaiting
      refine .replaced ⟨rfl, fun hr => ?_, fun hs => ?_⟩ _ _
      · rw [hw] at hr
        cases hr
      · rw [hw] at hs
        cases hs
  | aside hstill => exact .refl _

theorem grown_leads {x y : Desk ω} (h : Leads x y) : Grown x.signals y.signals := by
  induction h with
  | refl => exact .refl _
  | tail _ hstep ih => exact ih.trans (grown_next hstep)

/-! ## Tasks that run -/

/-- When tasks run, exactly the signals that are ready are started. -/
theorem leads_runTasks {n : Node (Recorded ω)} {ps : List Paper} {ss : List Signal}
    (h : Desk.Sound ⟨n, ps, ss⟩) : Leads ⟨n, ps, ss⟩ ⟨n.runTasks, ps, ss.map Signal.run⟩ := by
  -- induction on the tasks that are ready, which run from the first to the last
  generalize hready : n.tasks.filter (·.stage = .ready) = ts
  induction ts generalizing n ss with
  | nil =>
      have hnone : ∀ t ∈ n.tasks, t.stage ≠ .ready := by
        intro t ht
        simpa using List.filter_eq_nil_iff.mp hready t ht
      have hsame : ss.map Signal.run = ss := by
        refine List.map_congr_left (fun σ hσ => ?_) |>.trans (List.map_id' ss)
        refine if_neg fun hr => ?_
        have htask : σ.task? = some ⟨σ.handler, σ.delivered, .ready⟩ := by
          rw [Signal.task?, hr]
        have hmem : (⟨σ.handler, σ.delivered, .ready⟩ : Task) ∈ n.tasks.filter isLive :=
          h.tasks ▸ List.mem_filterMap.mpr ⟨σ, hσ, htask⟩
        exact hnone _ (List.mem_filter.mp hmem).1 rfl
      rw [runTasks_of_none_ready hnone, hsame]
      exact .refl
  | cons t rest ih =>
      obtain ⟨before, behind, htasks, hbefore, ht, hbehind⟩ := List.filter_eq_cons_iff.mp hready
      have ht : t.stage = .ready := by simpa using ht
      have hbefore : ∀ u ∈ before, u.stage ≠ .ready := fun u hu => by simpa using hbefore u hu
      have hlive : isLive t = true := by
        rw [isLive, ht]
        rfl
      obtain ⟨front, σ, back, rfl, hplace, hσ⟩ := h.exists_signal htasks hlive
      have hstep : Next ⟨n, ps, front ++ σ :: back⟩
          ⟨{ n with tasks := before ++ behind }.runTask t, ps,
            front ++ { σ with progress := .started } :: back⟩ :=
        .started htasks ht hplace hσ
      have hlater : ({ n with tasks := before ++ behind }.runTask t).tasks.filter
          (·.stage = Stage.ready) = rest := by
        rw [tasks_runTask, ready_append_residue _ t hbefore, hbehind]
      have hruns := ih (h.next hstep) hlater
      have hrun : σ.run = { σ with progress := .started } :=
        if_pos (Signal.progress_of_ready hσ ht).1
      have hsame : (front ++ { σ with progress := .started } :: back).map Signal.run
          = (front ++ σ :: back).map Signal.run := by
        simp only [List.map_append, List.map_cons, hrun]
        rfl
      rw [hsame, ← runTasks_of_ready htasks ht hbefore] at hruns
      exact .head hstep hruns

/-! ## What a node does of its own accord -/

/-- A node comes to another state by steps that leave all papers alone, and no task waits there that
did not wait before. -/
structure Goes (n n' : Node (Recorded ω)) : Prop where
  way : ∀ {ps : List Paper} {ss : List Signal}, Desk.Sound ⟨n, ps, ss⟩ →
    ∃ ss', Leads ⟨n, ps, ss⟩ ⟨n', ps, ss'⟩
  waits : ∀ t ∈ n'.tasks, ∀ g, t.stage = .waiting g → t ∈ n.tasks

namespace Goes

variable {n n' n'' : Node (Recorded ω)}

theorem of_still (h : Still n n') : Goes n n' where
  way := fun _ => ⟨_, .single (.aside h)⟩
  waits := fun _ ht _ _ => h.tasks ▸ ht

theorem trans (h : Goes n n') (h' : Goes n' n'') : Goes n n'' where
  way := by
    intro ps ss hsound
    obtain ⟨ss', hway⟩ := h.way hsound
    obtain ⟨ss'', hway'⟩ := h'.way (hsound.leads hway)
    exact ⟨ss'', hway.trans hway'⟩
  waits := fun t ht g hw => h.waits t (h'.waits t ht g hw) g hw

end Goes

theorem mem_of_mem_runTasks {n : Node (Recorded ω)} {t : Task} (h : t ∈ n.runTasks.tasks)
    (ht : t.stage ≠ .stuck) : t ∈ n.tasks := by
  have hrun : ∀ (ts : List Task) (m : Node (Recorded ω)), t ∈ (ts.foldl runTask m).tasks →
      t ∈ m.tasks := by
    intro ts
    induction ts with
    | nil => exact fun _ h => h
    | cons u r ih =>
        intro m hm
        have hm := ih _ hm
        rw [tasks_runTask] at hm
        rcases List.mem_append.mp hm with hold | hnew
        · exact hold
        · exact absurd (not_ready_of_mem_residue hnew) ht
  rw [runTasks, List.partition_eq_filter_filter] at h
  exact List.mem_of_mem_filter (hrun _ _ h)

theorem goes_runTasks (n : Node (Recorded ω)) : Goes n n.runTasks where
  way := fun hsound => ⟨_, leads_runTasks hsound⟩
  waits := by
    intro t ht g hw
    refine mem_of_mem_runTasks ht ?_
    rw [hw]
    exact Stage.noConfusion

/-- A signal that a node takes from itself waits for nobody. -/
theorem goes_dispatchHere (n : Node (Recorded ω)) (x : Errand) : Goes n (n.dispatchHere x).1 where
  way := fun _ => ⟨_, .single (.handed x)⟩
  waits := by
    intro t ht g hw
    have htaken := taken_receiveMessage n (x.delivered n.registry.localAddress)
    generalize hout : n.receiveMessage (x.delivered n.registry.localAddress) = out at htaken
    cases htaken with
    | nothing hstill hreply =>
        rw [dispatchHere_of_gateless hout hreply, hstill.tasks] at ht
        exact ht
    | ready hd htasks hgates hstarts =>
        rw [dispatchHere_of_accepted hout, htasks] at ht
        rcases List.mem_append.mp ht with hold | hnew
        · exact hold
        · rw [List.mem_singleton.mp hnew] at hw
          cases hw
    | parked hd htasks hgates hstarts =>
        rw [dispatchHere_of_gate hout, release, htasks, List.map_append] at ht
        rcases List.mem_append.mp ht with hold | hnew
        · obtain ⟨u, hu, rfl⟩ := List.mem_map.mp hold
          split at hw
          · cases hw
          · rename_i hne
            rw [if_neg hne]
            exact hu
        · rw [List.mem_map] at hnew
          obtain ⟨u, hu, rfl⟩ := hnew
          rw [List.mem_singleton.mp hu, if_pos rfl] at hw
          cases hw

theorem goes_upheld : Upheld (Goes (ω := ω)) where
  refl := fun n => .of_still (.refl n)
  trans := .trans
  turn := fun n a => .of_still (sustained_still.turn n a)
  runTasks := goes_runTasks
  elapse := fun n => .of_still (still_elapse n)
  dispatchHere := goes_dispatchHere
  transmit := fun ht => .of_still (still_after _ (starts_transmit ht) _)
  learn := fun n id _ _ => .of_still (still_updateMember n id _)
  envelop := fun _ _ => .of_still ⟨rfl, rfl, rfl⟩

theorem goes_shutdown (n : Node (Recorded ω)) : Goes n n.shutdown.1 := by
  have hover : Still n { n with lifetimeOver := true } := ⟨rfl, rfl, rfl⟩
  have hclosed : Still n { n with lifetimeOver := true }.closeAll :=
    hover.trans (sustained_foldl Still.refl Still.trans
      (fun m (e : String × MemberId) => still_updateMember m e.2 Member.close) _ _)
  have hsettled := (Goes.of_still hclosed).trans (goes_upheld.settle _)
  rw [shutdown]
  split
  · exact goes_upheld.refl n
  · dsimp only
    split
    · exact hsettled.trans (.of_still ⟨rfl, rfl, rfl⟩)
    · exact hsettled

/-! ## All that happens -/

/-- What may happen at a desk. Gates are opened by papers only, and nobody else keeps the record. -/
def OfDesk (n : Node (Recorded ω)) : Event (Recorded ω) → Prop
  | .released _ => False
  | .shifted world => world.asked = n.world.asked
  | _ => True

/-- A request is dispatched, and its reply is written. -/
theorem leads_consensus (s : Service) (x : Desk ω) (r : Incoming) :
    ∃ y, Leads x y ∧ y.node = (s.consensus x.node r).1 := by
  obtain ⟨n, ps, ss⟩ := x
  cases hb : s.body r with
  | error fault =>
      rw [Service.consensus, hb]
      exact ⟨_, .refl, rfl⟩
  | ok body =>
      rw [consensus_of_body n hb]
      have hstep := @Next.dispatched _ _ n ps ss r.fields body
      cases hending : (n.dispatch r.fields body).2 with
      | never => exact ⟨_, .single hstep, rfl⟩
      | returned result =>
          cases result with
          | error fault => exact ⟨_, .single hstep, rfl⟩
          | ok reply =>
              have hpaper : (ps ++ [Paper.ofEnding (n.dispatch r.fields body).2])[ps.length]?
                  = some (.reply reply) := by
                rw [hending]
                exact List.getElem?_concat_length
              exact ⟨_, .tail (.single hstep) (.encoded hpaper), rfl⟩

/-- All that happens at a node happens at its desk. -/
theorem leads_happen {x : Desk ω} (h : x.Sound) {e : Event (Recorded ω)} (he : OfDesk x.node e) :
    ∃ y, Leads x y ∧ y.node = x.node.happen e := by
  have hgoes : ∀ {m : Node (Recorded ω)}, Goes x.node m → ∃ y, Leads x y ∧ y.node = m := by
    intro m hm
    obtain ⟨ss, hway⟩ := hm.way h
    exact ⟨_, hway, rfl⟩
  have hstill : ∀ {m : Node (Recorded ω)}, Still x.node m → ∃ y, Leads x y ∧ y.node = m :=
    fun hm => hgoes (.of_still hm)
  cases e with
  | posted s r =>
      rw [happen, Service.respond, Service.resource]
      split
      · split
        · exact ⟨x, .refl, rfl⟩
        · split
          · exact ⟨x, .refl, rfl⟩
          · exact leads_consensus s x r
      · exact ⟨x, .refl, rfl⟩
  | admitted s r => exact leads_consensus s x r
  | released gate => exact he.elim
  | attempted bound e => exact hgoes (goes_upheld.attemptHere _ bound e)
  | called bound id o => exact hgoes (goes_upheld.call _ bound id o)
  | handlerAdded h => exact hstill ⟨rfl, rfl, rfl⟩
  | handlerRemoved h => exact hstill ⟨rfl, rfl, rfl⟩
  | wished c => exact hstill (still_obey _ c)
  | shifted world => exact hstill ⟨rfl, rfl, congrArg (List.filterMap Asked.start?) he⟩
  | elapsed => exact hstill (still_elapse _)
  | begun givenUp => exact hstill ⟨rfl, rfl, rfl⟩
  | started => exact hstill (sustained_still.start _)
  | reconciled desired => exact hstill (sustained_still.reconcile _ desired)
  | turned a => exact hstill (sustained_still.turn _ a)
  | tasksRun => exact hgoes (goes_runTasks _)
  | trimmed => exact hstill ⟨rfl, rfl, rfl⟩

/-! ## Signals that are to be acknowledged first -/

/-- Whether a message repeats a signal that is remembered. -/
def repeats (n : Node (Recorded ω)) (d : Delivered) : Bool :=
  d.id.any (n.sightings.remembers n.now)

/-- A signal that is to be acknowledged first waits at a gate of its reply, unless it is a
repetition. -/
theorem tasks_acceptSignal {n : Node (Recorded ω)} {d : Delivered} (handler : HandlerId)
    (hd : d.delivery = .oneWayNoAck) :
    if repeats n d then n.acceptSignal handler d = (n, .accepted none)
    else (n.acceptSignal handler d).2 = .accepted (some n.gates)
      ∧ (n.acceptSignal handler d).1.tasks = n.tasks ++ [⟨handler, d, .waiting n.gates⟩] := by
  have hspawn : ∀ m : Node (Recorded ω), (m.spawn handler d).2 = some m.gates
      ∧ (m.spawn handler d).1.tasks = m.tasks ++ [⟨handler, d, .waiting m.gates⟩] := by
    intro m
    rw [spawn, if_pos hd]
    exact ⟨rfl, rfl⟩
  have haccepted := acceptSignal_accepted n handler d
  generalize n.acceptSignal handler d = out at haccepted ⊢
  cases haccepted with
  | repeated hid hr =>
      have hrepeats : repeats n d = true := by
        rw [repeats, hid]
        exact hr
      rw [if_pos hrepeats]
  | nameless hid =>
      have hnew : ¬ repeats n d = true := by
        rw [repeats, hid]
        exact Bool.false_ne_true
      rw [if_neg hnew, (hspawn n).1]
      exact ⟨rfl, (hspawn n).2⟩
  | @fresh i m hid hr hm =>
      have hnew : ¬ repeats n d = true := by
        rw [repeats, hid]
        exact ne_true_of_eq_false hr
      subst hm
      rw [if_neg hnew, (hspawn _).1]
      exact ⟨rfl, (hspawn _).2⟩

/-- The same of a signal that is received and not refused. -/
theorem tasks_receiveMessage {n : Node (Recorded ω)} {d : Delivered} {gate : Option Gate}
    (hd : d.delivery = .oneWayNoAck)
    (h : (n.receiveMessage d).2 = .returned (.ok (.accepted gate))) :
    if repeats n d then gate = none ∧ (n.receiveMessage d).1.tasks = n.tasks
    else gate = some n.gates ∧ ∃ handler,
      (n.receiveMessage d).1.tasks = n.tasks ++ [⟨handler, d, .waiting n.gates⟩] := by
  have hreceived := receiveMessage_received n d
  generalize n.receiveMessage d = r at hreceived h ⊢
  cases hreceived with
  | stranger hs => cases h
  | misdirected hs hl => cases h
  | unsupported hs ht hf => cases h
  | questioned hs ht hf hq =>
      rw [hd] at hq
      cases hq
  | @signalled id handler hs ht hf hq =>
      have htasks := tasks_acceptSignal (n := n.touch id) handler hd
      have hreply : ((n.touch id).acceptSignal handler d).2 = .accepted gate :=
        Except.ok.inj (Ending.returned.inj h)
      have hsame : repeats (n.touch id) d = repeats n d := rfl
      rw [hsame] at htasks
      split
      · rename_i hrepeats
        rw [if_pos hrepeats] at htasks
        rw [htasks] at hreply ⊢
        exact ⟨(Reply.accepted.inj hreply).symm, rfl⟩
      · rename_i hnew
        rw [if_neg hnew] at htasks
        exact ⟨Reply.accepted.inj (hreply.symm.trans htasks.1), handler, htasks.2⟩

/-- A signal that a node has taken from itself may start as soon as it is told so, unless it is a
repetition. -/
theorem tasks_dispatchHere {n : Node (Recorded ω)} {ps : List Paper} {ss : List Signal}
    (h : Desk.Sound ⟨n, ps, ss⟩) {e : Envelope}
    (hsent : (n.dispatchHere (.signal e .oneWayNoAck)).2 = .returned (.ok ())) :
    let d := Errand.delivered (.signal e .oneWayNoAck) n.registry.localAddress
    if repeats n d then (n.dispatchHere (.signal e .oneWayNoAck)).1.tasks = n.tasks
    else ∃ handler,
      (n.dispatchHere (.signal e .oneWayNoAck)).1.tasks = n.tasks ++ [⟨handler, d, .ready⟩] := by
  intro d
  have htasks := @tasks_receiveMessage _ _ n d
  cases hout : n.receiveMessage d with
  | mk m ending =>
      rw [hout] at htasks
      have haccepted : ∃ gate, ending = .returned (.ok (.accepted gate)) := by
        rw [dispatchHere, hout] at hsent
        cases ending with
        | never => cases hsent
        | returned result =>
            cases result with
            | error fault => cases hsent
            | ok reply =>
                cases reply with
                | accepted gate => exact ⟨gate, rfl⟩
                | _ => cases hsent
      obtain ⟨gate, rfl⟩ := haccepted
      have htasks := htasks rfl rfl
      split
      · rename_i hrepeats
        rw [if_pos hrepeats] at htasks
        obtain ⟨rfl, hsame⟩ := htasks
        rw [dispatchHere_of_accepted hout]
        exact hsame
      · rename_i hnew
        rw [if_neg hnew] at htasks
        obtain ⟨rfl, handler, hmore⟩ := htasks
        rw [dispatchHere_of_gate hout]
        exact ⟨handler, h.opened hmore⟩

/-- A signal that is to be acknowledged first becomes one that waits for the next paper, unless it is
a repetition. -/
theorem accepted_dispatch {n : Node (Recorded ω)} {fields : Fields} {body : Body} {d : Delivered}
    {gate : Option Gate} {j : Nat} (hdecode : Request.decode fields body = .ok (.custom d))
    (hd : d.delivery = .oneWayNoAck)
    (hreply : (n.dispatch fields body).2 = .returned (.ok (.accepted gate))) :
    let added := accepted (some j) n (n.dispatch fields body).1
    if repeats n d then
      added = [] ∧ ∀ m : Node (Recorded ω), (Paper.reply (.accepted gate)).close m = m
    else ∃ handler g, gate = some g ∧ added = [⟨handler, d, some j, .waiting g⟩] := by
  rw [dispatch, hdecode] at hreply ⊢
  have htasks := tasks_receiveMessage hd hreply
  intro added
  split
  · rename_i hrepeats
    rw [if_pos hrepeats] at htasks
    obtain ⟨rfl, hsame⟩ := htasks
    exact ⟨accepted_of_eq hsame _, Paper.close_of_none rfl⟩
  · rename_i hnew
    rw [if_neg hnew] at htasks
    obtain ⟨rfl, handler, hmore⟩ := htasks
    exact ⟨handler, n.gates, rfl, accepted_of_concat hmore _⟩

/-! ## What is kept -/

/-- What papers owe to the signals that they acknowledge. -/
structure Desk.Keeps (x : Desk ω) : Prop where
  /-- A signal that is to be acknowledged first becomes one that waits for the very paper of its
  response; a repetition becomes nothing, and nothing waits for its paper. -/
  taken : ∀ (fields : Fields) (body : Body) (d : Delivered) (gate : Option Gate),
    Request.decode fields body = .ok (.custom d) → d.delivery = .oneWayNoAck →
    (x.node.dispatch fields body).2 = .returned (.ok (.accepted gate)) →
    let added := accepted (some x.papers.length) x.node (x.node.dispatch fields body).1
    if repeats x.node d then
      added = [] ∧ ∀ m : Node (Recorded ω), (Paper.reply (.accepted gate)).close m = m
    else ∃ handler g, gate = some g ∧ added = [⟨handler, d, some x.papers.length, .waiting g⟩]
  /-- It has not been started unless this paper was polled or dropped. -/
  acknowledged : ∀ σ ∈ x.signals, σ.delivered.delivery = .oneWayNoAck → ∀ j : Nat,
    σ.paper = some j → σ.progress = .started →
    ∃ p : Paper, x.papers[j]? = some p ∧ p.isClosed = true
  /-- As long as it waits, this paper was neither polled nor dropped, and whoever does so releases
  it. -/
  waits : ∀ (i : Nat) (σ : Signal) (g : Gate), x.signals[i]? = some σ → σ.progress = .waiting g →
    ∃ (j : Nat) (p : Paper), σ.paper = some j ∧ x.papers[j]? = some p ∧ p.isClosed = false
    ∧ (Http.released p.gate? x.signals)[i]? = some { σ with progress := .ready }
  /-- Once this paper was polled or dropped, it waits no longer. -/
  released : ∀ σ ∈ x.signals, ∀ (j : Nat) (p : Paper), σ.paper = some j → x.papers[j]? = some p →
    p.isClosed = true → ∀ g, σ.progress ≠ .waiting g
  /-- A paper that was polled or dropped releases nothing any more. -/
  closed : ∀ p ∈ x.papers, p.isClosed = true →
    p.gate? = none ∧ ∀ n : Node (Recorded ω), p.close n = n
  /-- When tasks run, all signals are started that may start. -/
  runs : Leads x ⟨x.node.runTasks, x.papers, x.signals.map Signal.run⟩
  /-- Each signal that has been started was given to its handler, and so once. -/
  starts : x.node.world.starts.Perm (x.signals.filterMap Signal.start?)
  /-- A signal that may start can only be started, and one that has been started stays so. -/
  grows : ∀ y, Leads x y → Grown x.signals y.signals
  /-- A signal that the node takes from itself may start at once. -/
  handed : ∀ e : Envelope, (x.node.dispatchHere (.signal e .oneWayNoAck)).2 = .returned (.ok ()) →
    let d := Errand.delivered (.signal e .oneWayNoAck) x.node.registry.localAddress
    if repeats x.node d then (x.node.dispatchHere (.signal e .oneWayNoAck)).1.tasks = x.node.tasks
    else ∃ handler, (x.node.dispatchHere (.signal e .oneWayNoAck)).1.tasks
      = x.node.tasks ++ [⟨handler, d, .ready⟩]
  /-- When a signal has been sent to the leader, no task waits that did not wait before. -/
  sent : ∀ (rounds : Nat) (bound : Bound) (m : Message) (d : Delivery),
    let n := (sendSignal rounds x.node bound m d).1
    (∃ ss, Leads x ⟨n, x.papers, ss⟩) ∧ ∀ t ∈ n.tasks, ∀ g, t.stage = .waiting g → t ∈ x.node.tasks
  /-- All that happens at the node happens at the desk. -/
  happens : ∀ e, OfDesk x.node e → ∃ y, Leads x y ∧ y.node = x.node.happen e
  /-- Also when the node is shut down, no paper is touched. -/
  shut : ∃ ss, Leads x ⟨x.node.shutdown.1, x.papers, ss⟩

/-- In whatever order requests are dispatched, replies are written, bodies are polled and papers are
dropped: a signal that is to be acknowledged first is started after its paper was polled or dropped,
and once. -/
theorem acknowledged_before_started {world : ω} {address : String} {sightings : Sightings}
    {channel : Membership.Channel} {x : Desk ω}
    (h : Leads (.opened (alone ⟨world, []⟩ address sightings channel)) x) : x.Keeps := by
  have hsound : x.Sound := (sound_opened rfl rfl).leads h
  refine
    { taken := fun fields body d gate => accepted_dispatch
      acknowledged := fun σ hσ hd j hj hs => hsound.acknowledged σ hσ hd j hj (.inr hs)
      waits := fun i σ g hσ hw => ?_
      released := fun σ hσ j p hj hp hclosed g hw => ?_
      closed := fun p hp hclosed => ?_
      runs := leads_runTasks hsound
      starts := hsound.starts
      grows := fun y => grown_leads
      handed := fun e => tasks_dispatchHere hsound
      sent := fun rounds bound m d => ?_
      happens := fun e => leads_happen hsound
      shut := (goes_shutdown x.node).way hsound }
  · obtain ⟨-, j, p, hj, hp, hg⟩ := hsound.waiting σ (List.mem_of_getElem? hσ) g hw
    refine ⟨j, p, hj, hp, (hsound.papers j p g hp hg).2, ?_⟩
    rw [hg, Http.released, List.getElem?_map, hσ]
    exact congrArg some (if_pos hw)
  · obtain ⟨-, i, q, hi, hq, hg⟩ := hsound.waiting σ hσ g hw
    obtain rfl := Option.some.inj (hi.symm.trans hj)
    obtain rfl := Option.some.inj (hq.symm.trans hp)
    have hopen := (hsound.papers i q g hq hg).2
    rw [hclosed] at hopen
    cases hopen
  · obtain ⟨j, hj⟩ := List.mem_iff_getElem?.mp hp
    cases hg : p.gate? with
    | none => exact ⟨rfl, Paper.close_of_none hg⟩
    | some g =>
        have hopen := (hsound.papers j p g hj hg).2
        rw [hclosed] at hopen
        cases hopen
  · have hgoes : Goes x.node (sendSignal rounds x.node bound m d).1 :=
      goes_upheld.sendSignal rounds x.node bound m d
    exact ⟨hgoes.way hsound, hgoes.waits⟩

/-- The visitor's signal, if it is to be acknowledged before the door is closed. -/
def notice : Incoming :=
  ((Peer.mk "a:1" "/raft" "b:1" 1024).outgoing
    (.signal (visitor.envelop closing).1 .oneWayNoAck true)).posted "/raft"

def noticed : Delivered := ⟨"b:1", some (visitor.envelop closing).1.id, .oneWayNoAck, true, closing⟩

theorem notice_decoded : Request.decode notice.fields (.ofBytes []) = .ok (.custom noticed) :=
  decode_requested (arrives_posted ..).carries rfl

/-- The keeper of the door on its first day, and once it knows the visitor and the door. -/
def beginner : Node (Recorded Rehearsal.World) :=
  alone ⟨keeper.world, []⟩ "a:1" ⟨10, 10, []⟩ (.new default)

def porter : Node (Recorded Rehearsal.World) :=
  { (beginner.enlist "b:1").1 with handlers := Handlers.empty.add 0 }

/-- The notice has been received. -/
def waiting : Desk Rehearsal.World :=
  ⟨(porter.receiveMessage noticed).1, [.reply (.accepted (some 0))],
    [⟨0, noticed, some 0, .waiting 0⟩]⟩

/-- Its response has been read, and is no more. -/
def answered : Desk Rehearsal.World :=
  ⟨waiting.node.release 0, [.gone], [⟨0, noticed, some 0, .ready⟩]⟩

theorem leads_waiting : Leads (.opened beginner) waiting := by
  have hstill : Still beginner porter := (still_enlist beginner "b:1").trans ⟨rfl, rfl, rfl⟩
  have hreceived : Next (⟨porter, [], []⟩ : Desk Rehearsal.World) waiting := by
    have hstep := @Next.dispatched _ _ porter [] [] notice.fields (.ofBytes [])
    rw [dispatch, notice_decoded] at hstep
    exact hstep
  exact .tail (.single (.aside hstill)) hreceived

/-- The response to the notice is written, read twice and dropped, and then the door is closed
once. -/
theorem notice_released :
    Leads (.opened beginner) waiting
    ∧ Leads waiting answered
    ∧ answered.Keeps
    ∧ waiting.node.runTasks.world.starts = []
    ∧ answered.node.runTasks.world.starts = [⟨0, "b:1", closing⟩]
    ∧ answered.node.runTasks.runTasks.world.starts = [⟨0, "b:1", closing⟩] := by
  have hanswered : Leads waiting answered := by
    have hwritten : Next waiting
        ⟨waiting.node, [.response ⟨204, [], [], some 0⟩ false], waiting.signals⟩ :=
      @Next.encoded _ _ _ _ _ 0 (.accepted (some 0)) rfl
    have hread : Next ⟨waiting.node, [.response ⟨204, [], [], some 0⟩ false], waiting.signals⟩
        ⟨answered.node, [.response ⟨204, [], [], none⟩ true], answered.signals⟩ :=
      @Next.polled _ _ waiting.node _ waiting.signals 0 ⟨204, [], [], some 0⟩ false rfl
    have hagain : Next ⟨answered.node, [.response ⟨204, [], [], none⟩ true], answered.signals⟩
        ⟨answered.node, [.response ⟨204, [], [], none⟩ true], answered.signals⟩ :=
      @Next.polled _ _ answered.node _ answered.signals 0 ⟨204, [], [], none⟩ true rfl
    have hdropped : Next ⟨answered.node, [.response ⟨204, [], [], none⟩ true], answered.signals⟩
        answered :=
      @Next.dropped _ _ answered.node _ answered.signals 0 (.response ⟨204, [], [], none⟩ true) rfl
    exact (((ReflTransGen.single hwritten).tail hread).tail hagain).tail hdropped
  exact ⟨leads_waiting, hanswered, acknowledged_before_started (leads_waiting.trans hanswered),
    rfl, rfl, rfl⟩

end Conclave.Http
