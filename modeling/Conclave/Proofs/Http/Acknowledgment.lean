import Conclave.Proofs.Node.Errands
import Conclave.Proofs.Node.Starts
import Conclave.Http.Service
import Mathlib.Logic.Relation

/-!
# Acknowledgments and the signals behind them

The response to a signal that is to be acknowledged first carries a gate, and the task of the
signal waits at it. `Desk` puts a node beside all the replies that it has given (`Paper`) and all
the signals that it has accepted (`Signal`); each signal knows the paper that acknowledges it. In
any order requests are dispatched, replies are encoded, bodies are polled and papers are dropped,
errands are handed over and tasks run (`Next`).

Papers and tasks meet at gates only. A gate is made for one paper and one task, and whoever closes a
paper opens its gate, once. So a task waits exactly as long as its own paper has not been closed
(`Desk.Sound`), and `starts` grows with nothing but the signals that have been started.
-/

namespace Conclave.Http

open Wire Node
open Relation (ReflTransGen)

variable {ω : Type}

/-! ## Papers -/

/-- What has become of a reply. -/
inductive Paper where
  /-- It has not been encoded. -/
  | reply (r : Reply)
  /-- It is a response, whose body may have been polled. -/
  | response (r : Response) (polled : Bool)
  /-- It was dropped, or there never was one. -/
  | gone

namespace Paper

def ofEnding : Ending (Except Fault Reply) → Paper
  | .returned (.ok r) => .reply r
  | .returned (.error fault) => .response (.ofFault fault) false
  | .never => .gone

/-- The gate that opens when a paper is closed. -/
def gate? : Paper → Option Gate
  | .reply r => r.gate?
  | .response r _ => r.release
  | .gone => none

/-- Whether a paper was closed: its body was polled, or it was dropped as a whole. -/
def isClosed : Paper → Bool
  | .reply _ => false
  | .response _ polled => polled
  | .gone => true

/-- The node once a paper is dropped. -/
def close (p : Paper) (n : Node ω) : Node ω :=
  match p with
  | .reply r => n.acknowledged r
  | .response r _ => r.close n
  | .gone => n

theorem close_of_none {p : Paper} (h : p.gate? = none) (n : Node ω) : p.close n = n := by
  cases p with
  | reply r =>
      have hr : r.gate? = none := h
      rw [close, acknowledged, hr]
  | response r polled =>
      have hr : r.release = none := h
      rw [close, Response.close, hr]
  | gone => rfl

theorem close_of_some {p : Paper} {g : Gate} (h : p.gate? = some g) (n : Node ω) :
    p.close n = n.release g := by
  cases p with
  | reply r =>
      have hr : r.gate? = some g := h
      rw [close, acknowledged, hr]
  | response r polled =>
      have hr : r.release = some g := h
      rw [close, Response.close, hr]
  | gone => cases h

theorem gate?_ofReply (r : Reply) : (Paper.response (.ofReply r) false).gate? = r.gate? := by
  cases r with
  | message m =>
      rw [gate?, Response.ofReply]
      split <;> rfl
  | _ => rfl

end Paper

/-! ## Signals -/

/-- How far a signal has come. -/
inductive Progress where
  | waiting (gate : Gate)
  | ready
  | started
  /-- Its task was given up while it waited. -/
  | lost
deriving DecidableEq, Repr

/-- A signal that was accepted, and the place of the paper that acknowledges it. A signal that a
node took from itself has none. -/
structure Signal where
  handler : HandlerId
  delivered : Delivered
  paper : Option Nat
  progress : Progress
deriving DecidableEq, Repr

namespace Signal

def ofTask (paper : Option Nat) (t : Task) : Signal where
  handler := t.handler
  delivered := t.delivered
  paper := paper
  progress :=
    match t.stage with
    | .waiting gate => .waiting gate
    | .ready => .ready
    | .stuck => .started

/-- The task of a signal that has not been started. -/
def task? (σ : Signal) : Option Task :=
  match σ.progress with
  | .waiting gate => some ⟨σ.handler, σ.delivered, .waiting gate⟩
  | .ready => some ⟨σ.handler, σ.delivered, .ready⟩
  | _ => none

/-- What a signal has given to its handler. -/
def start? (σ : Signal) : Option Start :=
  match σ.progress with
  | .started => some ⟨σ.handler, σ.delivered.sender, σ.delivered.message⟩
  | _ => none

def release (g : Gate) (σ : Signal) : Signal :=
  if σ.progress = .waiting g then { σ with progress := .ready } else σ

/-- A signal once all that is ready was started. -/
def run (σ : Signal) : Signal :=
  if σ.progress = .ready then { σ with progress := .started } else σ

variable {σ : Signal} {t : Task} {g : Gate}

theorem progress_of_ready (h : σ.task? = some t) (ht : t.stage = .ready) :
    σ.progress = .ready ∧ t.handler = σ.handler ∧ t.delivered = σ.delivered := by
  rw [task?] at h
  split at h
  · obtain rfl := Option.some.inj h
    cases ht
  · rename_i hready
    obtain rfl := Option.some.inj h
    exact ⟨hready, rfl, rfl⟩
  · cases h

theorem progress_of_waiting (h : σ.task? = some t) (ht : t.stage = .waiting g) :
    σ.progress = .waiting g := by
  rw [task?] at h
  split at h
  · rename_i gate hwaiting
    obtain rfl := Option.some.inj h
    rw [hwaiting, Stage.waiting.inj ht]
  · obtain rfl := Option.some.inj h
    cases ht
  · cases h

theorem start?_of_not_started (h : σ.progress ≠ .started) : σ.start? = none := by
  rw [start?]
  split
  · rename_i hstarted
    exact absurd hstarted h
  · rfl

theorem start?_release (g : Gate) (σ : Signal) : (σ.release g).start? = σ.start? := by
  rw [release]
  split
  · rename_i hwaiting
    have hnone : σ.start? = none := by
      refine start?_of_not_started ?_
      rw [hwaiting]
      exact Progress.noConfusion
    rw [hnone]
    rfl
  · rfl

/-- The task of a signal is released with it. -/
theorem task?_release (g : Gate) (σ : Signal) : (σ.release g).task?
    = σ.task?.map fun t => if t.stage = .waiting g then { t with stage := .ready } else t := by
  cases hp : σ.progress with
  | waiting gate =>
      by_cases hg : gate = g
      · simp [release, task?, hp, hg]
      · simp [release, task?, hp, hg]
  | ready => simp [release, task?, hp]
  | started => simp [release, task?, hp]
  | lost => simp [release, task?, hp]

theorem paper_release (g : Gate) (σ : Signal) : (σ.release g).paper = σ.paper := by
  rw [release]
  split <;> rfl

/-- A signal that waits although a gate was opened waits at another one. -/
theorem of_waiting_release {g' : Gate} (h : (σ.release g).progress = .waiting g') :
    σ.release g = σ ∧ g' ≠ g := by
  rw [release] at h ⊢
  split at h
  · cases h
  · rename_i hw
    refine ⟨if_neg hw, ?_⟩
    rintro rfl
    exact hw h

end Signal

/-- Signals once a gate is open, if there is one. -/
def released : Option Gate → List Signal → List Signal
  | some g, ss => ss.map (Signal.release g)
  | none, ss => ss

/-! ## Desks -/

/-- A node, the papers that it has given out, and the signals that it has accepted. -/
structure Desk (ω : Type) where
  node : Node (Recorded ω)
  papers : List Paper
  signals : List Signal

/-- Before anything has been given out or accepted. -/
def Desk.opened (n : Node (Recorded ω)) : Desk ω := ⟨n, [], []⟩

/-- The signals of the tasks that a node has more than before. -/
def accepted (paper : Option Nat) (n n' : Node (Recorded ω)) : List Signal :=
  (n'.tasks.drop n.tasks.length).map (.ofTask paper)

theorem accepted_of_eq {n m : Node (Recorded ω)} (h : m.tasks = n.tasks) (paper : Option Nat) :
    accepted paper n m = [] := by
  rw [accepted, h, List.drop_length]
  rfl

theorem accepted_of_concat {n m : Node (Recorded ω)} {t : Task} (h : m.tasks = n.tasks ++ [t])
    (paper : Option Nat) : accepted paper n m = [.ofTask paper t] := by
  rw [accepted, h, List.drop_left]
  rfl

/-- Whether a task waits for a gate or may start. -/
def isLive (t : Task) : Bool := t.stage ≠ .stuck

theorem isLive_of_task? {σ : Signal} {t : Task} (h : σ.task? = some t) : isLive t = true := by
  rw [Signal.task?] at h
  split at h
  · obtain rfl := Option.some.inj h
    rfl
  · obtain rfl := Option.some.inj h
    rfl
  · cases h

theorem isLive_release (g : Gate) (t : Task) :
    isLive (if t.stage = .waiting g then { t with stage := .ready } else t) = isLive t := by
  split
  · rename_i hw
    rw [isLive, isLive, hw]
    rfl
  · rfl

/-- An opened gate does to the tasks of signals what it does to the signals. -/
theorem tasks_release {n : Node (Recorded ω)} {ss : List Signal}
    (h : ss.filterMap Signal.task? = n.tasks.filter isLive) (g : Gate) :
    (ss.map (Signal.release g)).filterMap Signal.task? = (n.release g).tasks.filter isLive := by
  let f (t : Task) : Task := if t.stage = .waiting g then { t with stage := .ready } else t
  have hsignals : (ss.map (Signal.release g)).filterMap Signal.task?
      = (ss.filterMap Signal.task?).map f := by
    rw [List.filterMap_map, List.map_filterMap]
    exact congrArg (fun k => ss.filterMap k) (funext (Signal.task?_release g))
  have htasks : (n.release g).tasks.filter isLive = (n.tasks.filter isLive).map f := by
    rw [release, List.filter_map]
    exact congrArg (fun p => (n.tasks.filter p).map f) (funext (isLive_release g))
  rw [hsignals, htasks, h]

theorem of_getElem?_set {α : Type} {l : List α} {i j : Nat} {a b : α}
    (h : (l.set i a)[j]? = some b) : i = j ∧ b = a ∨ i ≠ j ∧ l[j]? = some b := by
  rw [List.getElem?_set] at h
  split at h
  · rename_i hj
    split at h
    · exact .inl ⟨hj, (Option.some.inj h).symm⟩
    · cases h
  · rename_i hj
    exact .inr ⟨hj, h⟩

theorem getElem?_set_of_some {α : Type} {l : List α} {i : Nat} {a b : α} (h : l[i]? = some b) :
    (l.set i a)[i]? = some a :=
  List.getElem?_set_self (List.getElem?_eq_some_iff.mp h).1

/-- A paper that carries a gate was not put in the place of another one by whoever closed that. -/
theorem of_set_of_gate {ps : List Paper} {i j : Nat} {q r : Paper} {g : Gate}
    (hq : q.gate? = none) (hr : (ps.set i q)[j]? = some r) (hg : r.gate? = some g) :
    ps[j]? = some r := by
  rcases of_getElem?_set hr with ⟨-, rfl⟩ | ⟨-, hold⟩
  · rw [hq] at hg
    cases hg
  · exact hold

/-- Where there was a closed paper, there still is one once another one is closed. -/
theorem exists_closed_set {ps : List Paper} {i j : Nat} {p q r : Paper} (hp : ps[i]? = some p)
    (hq : q.isClosed = true) (hr : ps[j]? = some r) (hclosed : r.isClosed = true) :
    ∃ r' : Paper, (ps.set i q)[j]? = some r' ∧ r'.isClosed = true := by
  by_cases hj : i = j
  · subst hj
    exact ⟨q, getElem?_set_of_some hp, hq⟩
  · exact ⟨r, (List.getElem?_set_ne hj).trans hr, hclosed⟩

variable [Surroundings ω]

/-- One step, in any order. -/
inductive Next : Desk ω → Desk ω → Prop where
  /-- A request is dispatched. -/
  | dispatched {n : Node (Recorded ω)} {ps : List Paper} {ss : List Signal} (fields : Fields)
      (body : Body) : Next ⟨n, ps, ss⟩
        ⟨(n.dispatch fields body).1, ps ++ [.ofEnding (n.dispatch fields body).2],
          ss ++ accepted (some ps.length) n (n.dispatch fields body).1⟩
  /-- A reply is written as a response. -/
  | encoded {n : Node (Recorded ω)} {ps : List Paper} {ss : List Signal} {i : Nat} {r : Reply} :
      ps[i]? = some (.reply r) →
      Next ⟨n, ps, ss⟩ ⟨n, ps.set i (.response (.ofReply r) false), ss⟩
  /-- The body of a response is polled; it may have been polled before. -/
  | polled {n : Node (Recorded ω)} {ps : List Paper} {ss : List Signal} {i : Nat} {r : Response}
      {polled : Bool} : ps[i]? = some (.response r polled) →
      Next ⟨n, ps, ss⟩
        ⟨r.close n, ps.set i (.response { r with release := none } true), released r.release ss⟩
  /-- A reply is discarded, or a response is dropped. -/
  | dropped {n : Node (Recorded ω)} {ps : List Paper} {ss : List Signal} {i : Nat} {p : Paper} :
      ps[i]? = some p → Next ⟨n, ps, ss⟩ ⟨p.close n, ps.set i .gone, released p.gate? ss⟩
  /-- An errand is handed to the own node. -/
  | handed {n : Node (Recorded ω)} {ps : List Paper} {ss : List Signal} (x : Errand) :
      Next ⟨n, ps, ss⟩ ⟨(n.dispatchHere x).1, ps, ss ++ accepted none n (n.dispatchHere x).1⟩
  /-- A task that is ready runs. -/
  | started {n : Node (Recorded ω)} {ps : List Paper} {ss vs : List Signal} {σ : Signal}
      {ts us : List Task} {t : Task} : n.tasks = ts ++ t :: us → t.stage = .ready →
      ss.filterMap Signal.task? = ts.filter isLive → σ.task? = some t →
      Next ⟨n, ps, ss ++ σ :: vs⟩
        ⟨{ n with tasks := ts ++ us }.runTask t, ps, ss ++ { σ with progress := .started } :: vs⟩
  /-- A task is given up while it waits. -/
  | lost {n : Node (Recorded ω)} {ps : List Paper} {ss vs : List Signal} {σ : Signal}
      {ts us : List Task} {t : Task} {g : Gate} : n.tasks = ts ++ t :: us →
      t.stage = .waiting g → ss.filterMap Signal.task? = ts.filter isLive → σ.task? = some t →
      Next ⟨n, ps, ss ++ σ :: vs⟩
        ⟨{ n with tasks := ts ++ us }, ps, ss ++ { σ with progress := .lost } :: vs⟩
  /-- Something happens that is no business of signals. -/
  | aside {n n' : Node (Recorded ω)} {ps : List Paper} {ss : List Signal} : Still n n' →
      Next ⟨n, ps, ss⟩ ⟨n', ps, ss⟩

/-- What steps of any kind and in any order lead to. -/
def Leads : Desk ω → Desk ω → Prop := ReflTransGen Next

/-! ## What holds between papers and signals -/

/-- What holds at a desk. -/
structure Desk.Sound (x : Desk ω) : Prop where
  /-- The tasks are those of the signals that have not been started, in their order. -/
  tasks : x.signals.filterMap Signal.task? = x.node.tasks.filter isLive
  /-- A signal that waits has a paper, which carries its gate. -/
  waiting : ∀ σ ∈ x.signals, ∀ g, σ.progress = .waiting g → g < x.node.gates
    ∧ ∃ (j : Nat) (p : Paper), σ.paper = some j ∧ x.papers[j]? = some p ∧ p.gate? = some g
  /-- A paper that carries a gate has not been closed. -/
  papers : ∀ (j : Nat) (p : Paper) (g : Gate), x.papers[j]? = some p → p.gate? = some g →
    g < x.node.gates ∧ p.isClosed = false
  /-- No two papers carry the same gate. -/
  apart : ∀ (i j : Nat) (p q : Paper) (g : Gate), x.papers[i]? = some p →
    x.papers[j]? = some q → p.gate? = some g → q.gate? = some g → i = j
  /-- A signal that is to be acknowledged first may start only when its paper was closed. -/
  acknowledged : ∀ σ ∈ x.signals, σ.delivered.delivery = .oneWayNoAck → ∀ j : Nat,
    σ.paper = some j → σ.progress = .ready ∨ σ.progress = .started →
    ∃ p : Paper, x.papers[j]? = some p ∧ p.isClosed = true
  /-- Handlers were given the signals that have been started, each once. -/
  starts : x.node.world.starts.Perm (x.signals.filterMap Signal.start?)

omit [Surroundings ω] in
theorem sound_opened {n : Node (Recorded ω)} (htasks : n.tasks = [])
    (hasked : n.world.asked = []) : (Desk.opened n).Sound where
  tasks := by
    rw [Desk.opened, htasks]
    rfl
  waiting := by
    intro σ hσ
    cases hσ
  papers := by
    intro j p g hp
    cases hp
  apart := by
    intro i j p q g hp
    cases hp
  acknowledged := by
    intro σ hσ
    cases hσ
  starts := by
    rw [Desk.opened, Recorded.starts, hasked]
    exact .refl _

theorem of_getElem?_concat {α : Type} {l : List α} {j : Nat} {a b : α}
    (h : (l ++ [a])[j]? = some b) : l[j]? = some b ∨ j = l.length ∧ b = a := by
  rcases Nat.lt_trichotomy j l.length with hlt | rfl | hgt
  · rw [List.getElem?_append_left hlt] at h
    exact .inl h
  · rw [List.getElem?_concat_length] at h
    exact .inr ⟨rfl, (Option.some.inj h).symm⟩
  · rw [List.getElem?_eq_none (by rw [List.length_append]; exact hgt)] at h
    cases h

theorem getElem?_concat_of_some {α : Type} {l : List α} {j : Nat} {a b : α}
    (h : l[j]? = some b) : (l ++ [a])[j]? = some b := by
  rw [List.getElem?_append_left (List.getElem?_eq_some_iff.mp h).1]
  exact h

/-- Every element of a list in which one was replaced was there before, or it is the new one. -/
theorem mem_replaced {α : Type} {l r : List α} {a b c : α} (h : c ∈ l ++ b :: r) :
    c ∈ l ++ a :: r ∨ c = b := by
  rcases List.mem_append.mp h with hleft | hright
  · exact .inl (List.mem_append_left _ hleft)
  · rcases List.mem_cons.mp hright with hnew | hrest
    · exact .inr hnew
    · exact .inl (List.mem_append_right _ (List.mem_cons_of_mem _ hrest))

theorem dispatchHere_of_gateless {n m : Node (Recorded ω)} {x : Errand}
    {ending : Ending (Except Fault Reply)}
    (h : n.receiveMessage (x.delivered n.registry.localAddress) = (m, ending))
    (hgate : ∀ reply, ending = .returned (.ok reply) → reply.gate? = none) :
    (n.dispatchHere x).1 = m := by
  rw [dispatchHere, h]
  cases ending with
  | never => rfl
  | returned result =>
      cases result with
      | error fault => rfl
      | ok reply =>
          dsimp only
          rw [hgate reply rfl]

theorem dispatchHere_of_accepted {n m : Node (Recorded ω)} {x : Errand}
    (h : n.receiveMessage (x.delivered n.registry.localAddress)
      = (m, .returned (.ok (.accepted none)))) : (n.dispatchHere x).1 = m := by
  rw [dispatchHere, h]
  rfl

theorem dispatchHere_of_gate {n m : Node (Recorded ω)} {x : Errand} {g : Gate}
    (h : n.receiveMessage (x.delivered n.registry.localAddress)
      = (m, .returned (.ok (.accepted (some g))))) :
    (n.dispatchHere x).1 = m.release g := by
  rw [dispatchHere, h]
  rfl

namespace Desk.Sound

variable {n n' : Node (Recorded ω)} {ps : List Paper} {ss vs : List Signal} {σ : Signal}

omit [Surroundings ω] in
/-- Behind a task come the tasks of the signals behind its own one. -/
theorem task?_rest (h : Sound ⟨n, ps, ss ++ σ :: vs⟩) {ts us : List Task} {t : Task} {σ' : Signal}
    (htasks : n.tasks = ts ++ t :: us) (hplace : ss.filterMap Signal.task? = ts.filter isLive)
    (hσ : σ.task? = some t) (hσ' : σ'.task? = none) :
    (ss ++ σ' :: vs).filterMap Signal.task? = (ts ++ us).filter isLive := by
  have hlive : isLive t = true := isLive_of_task? hσ
  have hbefore : (ss ++ σ :: vs).filterMap Signal.task? = n.tasks.filter isLive := h.tasks
  rw [htasks, List.filterMap_append, List.filterMap_cons_some hσ, List.filter_append,
    List.filter_cons_of_pos hlive, hplace] at hbefore
  have hrest : vs.filterMap Signal.task? = us.filter isLive :=
    (List.cons.inj (List.append_cancel_left hbefore)).2
  rw [List.filterMap_append, List.filterMap_cons_none hσ', List.filter_append, hplace, hrest]

omit [Surroundings ω] in
/-- Behind the signals of the tasks before it stands the signal of a task. -/
theorem exists_signal (h : Sound ⟨n, ps, ss⟩) {ts us : List Task} {t : Task}
    (htasks : n.tasks = ts ++ t :: us) (hlive : isLive t = true) : ∃ front σ back,
    ss = front ++ σ :: back ∧ front.filterMap Signal.task? = ts.filter isLive
    ∧ σ.task? = some t := by
  have hall : ss.filterMap Signal.task? = ts.filter isLive ++ t :: us.filter isLive := by
    have hsame : ss.filterMap Signal.task? = n.tasks.filter isLive := h.tasks
    rw [hsame, htasks, List.filter_append, List.filter_cons_of_pos hlive]
  obtain ⟨front, tail, rfl, hfront, htail⟩ := List.filterMap_eq_append_iff.mp hall
  obtain ⟨idle, σ, back, rfl, hidle, hσ, -⟩ := List.filterMap_eq_cons_iff.mp htail
  refine ⟨front ++ idle, σ, back, (List.append_assoc ..).symm, ?_, hσ⟩
  rw [List.filterMap_append, hfront, List.filterMap_eq_nil_iff.mpr hidle, List.append_nil]

omit [Surroundings ω] in
/-- The gates at which tasks wait have been made. -/
theorem lt_gates (h : Sound ⟨n, ps, ss⟩) {t : Task} {g : Gate} (ht : t ∈ n.tasks)
    (hstage : t.stage = .waiting g) : g < n.gates := by
  have hlive : t ∈ n.tasks.filter isLive := by
    refine List.mem_filter.mpr ⟨ht, ?_⟩
    rw [isLive, hstage]
    rfl
  have htasks : ss.filterMap Signal.task? = n.tasks.filter isLive := h.tasks
  rw [← htasks, List.mem_filterMap] at hlive
  obtain ⟨σ, hσ, htask⟩ := hlive
  exact (h.waiting σ hσ g (Signal.progress_of_waiting htask hstage)).1

omit [Surroundings ω] in
/-- At a gate that was just made waits nothing but the signal that it was made for. -/
theorem opened (h : Sound ⟨n, ps, ss⟩) {handler : HandlerId} {d : Delivered}
    (htasks : n'.tasks = n.tasks ++ [⟨handler, d, .waiting n.gates⟩]) :
    (n'.release n.gates).tasks = n.tasks ++ [⟨handler, d, .ready⟩] := by
  have hsame : ∀ t ∈ n.tasks, (if t.stage = .waiting n.gates
      then { t with stage := .ready } else t : Task) = t :=
    fun t ht => if_neg fun hw => absurd (h.lt_gates ht hw) (Nat.lt_irrefl _)
  rw [release, htasks, List.map_append, List.map_congr_left hsame, List.map_id']
  exact congrArg (n.tasks ++ [·]) (if_pos rfl)

omit [Surroundings ω] in
theorem aside (h : Sound ⟨n, ps, ss⟩) (hstill : Still n n') : Sound ⟨n', ps, ss⟩ where
  tasks := by
    have htasks : ss.filterMap Signal.task? = n.tasks.filter isLive := h.tasks
    rw [← hstill.tasks] at htasks
    exact htasks
  waiting := fun σ hσ g hg => hstill.gates ▸ h.waiting σ hσ g hg
  papers := fun j p g hp hg => hstill.gates ▸ h.papers j p g hp hg
  apart := h.apart
  acknowledged := h.acknowledged
  starts := by
    have hstarts : n.world.starts.Perm (ss.filterMap Signal.start?) := h.starts
    rw [← hstill.starts] at hstarts
    exact hstarts

omit [Surroundings ω] in
/-- A paper may be exchanged for one that carries the same gate and was not closed either. -/
theorem encoded (h : Sound ⟨n, ps, ss⟩) {i : Nat} {p q : Paper} (hp : ps[i]? = some p)
    (hgate : q.gate? = p.gate?) (hopen : p.isClosed = false) (hopen' : q.isClosed = false) :
    Sound ⟨n, ps.set i q, ss⟩ := by
  have hget : ∀ (j : Nat) (r : Paper), (ps.set i q)[j]? = some r →
      ∃ r' : Paper, ps[j]? = some r' ∧ r.gate? = r'.gate? ∧ r.isClosed = r'.isClosed := by
    intro j r hr
    rcases of_getElem?_set hr with ⟨rfl, rfl⟩ | ⟨-, hold⟩
    · exact ⟨p, hp, hgate, hopen'.trans hopen.symm⟩
    · exact ⟨r, hold, rfl, rfl⟩
  have hset : ∀ (j : Nat) (r : Paper), ps[j]? = some r →
      ∃ r' : Paper, (ps.set i q)[j]? = some r' ∧ r'.gate? = r.gate? ∧ r'.isClosed = r.isClosed := by
    intro j r hr
    by_cases hj : i = j
    · subst hj
      obtain rfl := Option.some.inj (hp.symm.trans hr)
      exact ⟨q, getElem?_set_of_some hp, hgate, hopen'.trans hopen.symm⟩
    · exact ⟨r, (List.getElem?_set_ne hj).trans hr, rfl, rfl⟩
  refine ⟨h.tasks, fun σ hσ g hg => ?_, fun j r g hr hg => ?_, fun j k r s g hr hs hg hg' => ?_,
    fun σ hσ hd j hj hgo => ?_, h.starts⟩
  · obtain ⟨hlt, j, r, hj, hr, hgr⟩ := h.waiting σ hσ g hg
    obtain ⟨r', hr', hsame, -⟩ := hset j r hr
    exact ⟨hlt, j, r', hj, hr', hsame.trans hgr⟩
  · obtain ⟨r', hr', hsame, hclosed⟩ := hget j r hr
    obtain ⟨hlt, hstill⟩ := h.papers j r' g hr' (hsame.symm.trans hg)
    exact ⟨hlt, hclosed.trans hstill⟩
  · obtain ⟨r', hr', hsame, -⟩ := hget j r hr
    obtain ⟨s', hs', hsame', -⟩ := hget k s hs
    exact h.apart j k r' s' g hr' hs' (hsame.symm.trans hg) (hsame'.symm.trans hg')
  · obtain ⟨r, hr, hclosed⟩ := h.acknowledged σ hσ hd j hj hgo
    obtain ⟨r', hr', -, hsame⟩ := hset j r hr
    exact ⟨r', hr', hsame.trans hclosed⟩

omit [Surroundings ω] in
/-- A paper without a gate is closed. -/
theorem cleared (h : Sound ⟨n, ps, ss⟩) {i : Nat} {p q : Paper} (hp : ps[i]? = some p)
    (hnone : p.gate? = none) (hgate : q.gate? = none) (hclosed : q.isClosed = true) :
    Sound ⟨n, ps.set i q, ss⟩ := by
  refine ⟨h.tasks, fun σ hσ g hw => ?_,
    fun j r g hr hg => h.papers j r g (of_set_of_gate hgate hr hg) hg,
    fun j k r s g hr hs hg hg' =>
      h.apart j k r s g (of_set_of_gate hgate hr hg) (of_set_of_gate hgate hs hg') hg hg',
    fun σ hσ hd j hj hgo => ?_, h.starts⟩
  · obtain ⟨hlt, j, r, hj, hr, hgr⟩ := h.waiting σ hσ g hw
    have hne : i ≠ j := by
      rintro rfl
      obtain rfl := Option.some.inj (hp.symm.trans hr)
      rw [hnone] at hgr
      cases hgr
    exact ⟨hlt, j, r, hj, (List.getElem?_set_ne hne).trans hr, hgr⟩
  · obtain ⟨r, hr, hr'⟩ := h.acknowledged σ hσ hd j hj hgo
    exact exists_closed_set hp hclosed hr hr'

omit [Surroundings ω] in
/-- A paper with a gate is closed: the gate opens, and the signal that waits there may start. -/
theorem unlocked (h : Sound ⟨n, ps, ss⟩) {i : Nat} {p q : Paper} {g : Gate} (hp : ps[i]? = some p)
    (hg : p.gate? = some g) (hgate : q.gate? = none) (hclosed : q.isClosed = true) :
    Sound ⟨n.release g, ps.set i q, ss.map (Signal.release g)⟩ := by
  refine ⟨tasks_release h.tasks g, fun σ' hσ' g' hw => ?_,
    fun j r g hr hg => h.papers j r g (of_set_of_gate hgate hr hg) hg,
    fun j k r s g hr hs hg hg' =>
      h.apart j k r s g (of_set_of_gate hgate hr hg) (of_set_of_gate hgate hs hg') hg hg',
    fun σ' hσ' hd j hj hgo => ?_, ?_⟩
  · obtain ⟨σ, hσ, rfl⟩ := List.mem_map.mp hσ'
    obtain ⟨hsame, hne⟩ := Signal.of_waiting_release hw
    rw [hsame] at hw ⊢
    obtain ⟨hlt, j, r, hj, hr, hgr⟩ := h.waiting σ hσ g' hw
    have hij : i ≠ j := by
      rintro rfl
      obtain rfl := Option.some.inj (hp.symm.trans hr)
      exact hne (Option.some.inj (hgr.symm.trans hg))
    exact ⟨hlt, j, r, hj, (List.getElem?_set_ne hij).trans hr, hgr⟩
  · obtain ⟨σ, hσ, rfl⟩ := List.mem_map.mp hσ'
    by_cases hw : σ.progress = .waiting g
    · -- the signal waited at this gate, so the paper is its own
      obtain ⟨-, k, r, hk, hr, hgr⟩ := h.waiting σ hσ g hw
      obtain rfl : k = j := Option.some.inj (hk.symm.trans ((Signal.paper_release g σ) ▸ hj))
      obtain rfl : k = i := h.apart k i r p g hr hp hgr hg
      exact ⟨q, getElem?_set_of_some hp, hclosed⟩
    · have hsame : σ.release g = σ := if_neg hw
      rw [hsame] at hd hj hgo
      obtain ⟨r, hr, hr'⟩ := h.acknowledged σ hσ hd j hj hgo
      exact exists_closed_set hp hclosed hr hr'
  · have hsame : (ss.map (Signal.release g)).filterMap Signal.start?
        = ss.filterMap Signal.start? := by
      rw [List.filterMap_map]
      exact congrArg (fun f => ss.filterMap f) (funext (Signal.start?_release g))
    have hstarts : n.world.starts.Perm (ss.filterMap Signal.start?) := h.starts
    rw [← hsame] at hstarts
    exact hstarts

omit [Surroundings ω] in
/-- Whoever closes a paper opens its gate, if it has one. -/
theorem closed (h : Sound ⟨n, ps, ss⟩) {i : Nat} {p q : Paper} (hp : ps[i]? = some p)
    (hgate : q.gate? = none) (hclosed : q.isClosed = true) :
    Sound ⟨p.close n, ps.set i q, released p.gate? ss⟩ := by
  cases hg : p.gate? with
  | none =>
      rw [Paper.close_of_none hg]
      exact h.cleared hp hg hgate hclosed
  | some g =>
      rw [Paper.close_of_some hg]
      exact h.unlocked hp hg hgate hclosed

omit [Surroundings ω] in
/-- A paper without a gate is added. -/
theorem filed (h : Sound ⟨n, ps, ss⟩) {p : Paper} (hgate : p.gate? = none) :
    Sound ⟨n, ps ++ [p], ss⟩ := by
  have hold : ∀ (j : Nat) (r : Paper) (g : Gate), (ps ++ [p])[j]? = some r → r.gate? = some g →
      ps[j]? = some r := by
    intro j r g hr hg
    rcases of_getElem?_concat hr with hold | ⟨-, rfl⟩
    · exact hold
    · rw [hgate] at hg
      cases hg
  refine ⟨h.tasks, fun σ hσ g hw => ?_, fun j r g hr hg => h.papers j r g (hold j r g hr hg) hg,
    fun j k r s g hr hs hg hg' => h.apart j k r s g (hold j r g hr hg) (hold k s g hs hg') hg hg',
    fun σ hσ hd j hj hgo => ?_, h.starts⟩
  · obtain ⟨hlt, j, r, hj, hr, hgr⟩ := h.waiting σ hσ g hw
    exact ⟨hlt, j, r, hj, getElem?_concat_of_some hr, hgr⟩
  · obtain ⟨r, hr, hr'⟩ := h.acknowledged σ hσ hd j hj hgo
    exact ⟨r, getElem?_concat_of_some hr, hr'⟩

omit [Surroundings ω] in
/-- A signal is added whose handler may start at once. -/
theorem joined (h : Sound ⟨n, ps, ss⟩) {handler : HandlerId} {d : Delivered} {paper : Option Nat}
    (hd : d.delivery ≠ .oneWayNoAck ∨ paper = none)
    (htasks : n'.tasks = n.tasks ++ [⟨handler, d, .ready⟩]) (hgates : n.gates ≤ n'.gates)
    (hstarts : n'.world.starts = n.world.starts) :
    Sound ⟨n', ps, ss ++ [⟨handler, d, paper, .ready⟩]⟩ where
  tasks := by
    have hbefore : ss.filterMap Signal.task? = n.tasks.filter isLive := h.tasks
    dsimp only
    rw [List.filterMap_append, hbefore, htasks, List.filter_append]
    rfl
  waiting := by
    intro σ hσ g hw
    rcases List.mem_append.mp hσ with hold | hnew
    · obtain ⟨hlt, hpaper⟩ := h.waiting σ hold g hw
      exact ⟨Nat.lt_of_lt_of_le hlt hgates, hpaper⟩
    · rw [List.mem_singleton.mp hnew] at hw
      cases hw
  papers := by
    intro j p g hp hg
    obtain ⟨hlt, hopen⟩ := h.papers j p g hp hg
    exact ⟨Nat.lt_of_lt_of_le hlt hgates, hopen⟩
  apart := h.apart
  acknowledged := by
    intro σ hσ hack j hj hgo
    rcases List.mem_append.mp hσ with hold | hnew
    · exact h.acknowledged σ hold hack j hj hgo
    · rw [List.mem_singleton.mp hnew] at hack hj
      rcases hd with hd | hd
      · exact absurd hack hd
      · rw [hd] at hj
        cases hj
  starts := by
    have hbefore : n.world.starts.Perm (ss.filterMap Signal.start?) := h.starts
    dsimp only
    rw [hstarts, List.filterMap_append]
    exact (List.append_nil _).symm ▸ hbefore

omit [Surroundings ω] in
/-- A signal is added that waits for its own paper. -/
theorem parked (h : Sound ⟨n, ps, ss⟩) {handler : HandlerId} {d : Delivered}
    (htasks : n'.tasks = n.tasks ++ [⟨handler, d, .waiting n.gates⟩])
    (hgates : n'.gates = n.gates + 1) (hstarts : n'.world.starts = n.world.starts) :
    Sound ⟨n', ps ++ [.reply (.accepted (some n.gates))],
      ss ++ [⟨handler, d, some ps.length, .waiting n.gates⟩]⟩ where
  tasks := by
    have hbefore : ss.filterMap Signal.task? = n.tasks.filter isLive := h.tasks
    dsimp only
    rw [List.filterMap_append, hbefore, htasks, List.filter_append]
    rfl
  waiting := by
    intro σ hσ g hw
    dsimp only at hσ ⊢
    rw [hgates]
    rcases List.mem_append.mp hσ with hold | hnew
    · obtain ⟨hlt, j, p, hj, hp, hg⟩ := h.waiting σ hold g hw
      exact ⟨Nat.lt_succ_of_lt hlt, j, p, hj, getElem?_concat_of_some hp, hg⟩
    · rw [List.mem_singleton.mp hnew] at hw ⊢
      obtain rfl := Progress.waiting.inj hw
      exact ⟨Nat.lt_succ_self _, ps.length, _, rfl, List.getElem?_concat_length, rfl⟩
  papers := by
    intro j p g hp hg
    dsimp only at hp ⊢
    rw [hgates]
    rcases of_getElem?_concat hp with hold | ⟨-, rfl⟩
    · obtain ⟨hlt, hopen⟩ := h.papers j p g hold hg
      exact ⟨Nat.lt_succ_of_lt hlt, hopen⟩
    · obtain rfl := Option.some.inj hg
      exact ⟨Nat.lt_succ_self _, rfl⟩
  apart := by
    intro i j p q g hp hq hg hg'
    rcases of_getElem?_concat hp with hold | ⟨hi, rfl⟩
    · rcases of_getElem?_concat hq with hold' | ⟨hj, rfl⟩
      · exact h.apart i j p q g hold hold' hg hg'
      · obtain rfl := Option.some.inj hg'
        exact absurd (h.papers i p _ hold hg).1 (Nat.lt_irrefl _)
    · rcases of_getElem?_concat hq with hold' | ⟨hj, rfl⟩
      · obtain rfl := Option.some.inj hg
        exact absurd (h.papers j q _ hold' hg').1 (Nat.lt_irrefl _)
      · rw [hi, hj]
  acknowledged := by
    intro σ hσ hack j hj hgo
    rcases List.mem_append.mp hσ with hold | hnew
    · obtain ⟨p, hp, hclosed⟩ := h.acknowledged σ hold hack j hj hgo
      exact ⟨p, getElem?_concat_of_some hp, hclosed⟩
    · rw [List.mem_singleton.mp hnew] at hgo
      rcases hgo with hgo | hgo <;> cases hgo
  starts := by
    have hbefore : n.world.starts.Perm (ss.filterMap Signal.start?) := h.starts
    dsimp only
    rw [hstarts, List.filterMap_append]
    exact (List.append_nil _).symm ▸ hbefore

theorem dispatched (h : Sound ⟨n, ps, ss⟩) (fields : Fields) (body : Body) :
    Sound ⟨(n.dispatch fields body).1, ps ++ [.ofEnding (n.dispatch fields body).2],
      ss ++ accepted (some ps.length) n (n.dispatch fields body).1⟩ := by
  have htaken := taken_dispatch n fields body
  generalize n.dispatch fields body = out at htaken ⊢
  cases htaken with
  | @nothing m ending hstill hreply =>
      have hgate : (Paper.ofEnding ending).gate? = none := by
        cases ending with
        | never => rfl
        | returned result =>
            cases result with
            | ok reply => exact hreply reply rfl
            | error fault => cases fault <;> rfl
      rw [accepted_of_eq hstill.tasks, List.append_nil]
      exact (h.aside hstill).filed hgate
  | ready hd htasks hgates hstarts =>
      rw [accepted_of_concat htasks]
      exact (h.filed rfl).joined (.inl hd) htasks (Nat.le_of_eq hgates.symm) hstarts
  | parked hd htasks hgates hstarts =>
      rw [accepted_of_concat htasks]
      exact h.parked htasks hgates hstarts

theorem handed (h : Sound ⟨n, ps, ss⟩) (x : Errand) :
    Sound ⟨(n.dispatchHere x).1, ps, ss ++ accepted none n (n.dispatchHere x).1⟩ := by
  have htaken := taken_receiveMessage n (x.delivered n.registry.localAddress)
  generalize hout : n.receiveMessage (x.delivered n.registry.localAddress) = out at htaken
  cases htaken with
  | nothing hstill hreply =>
      rw [dispatchHere_of_gateless hout hreply, accepted_of_eq hstill.tasks, List.append_nil]
      exact h.aside hstill
  | ready hd htasks hgates hstarts =>
      rw [dispatchHere_of_accepted hout, accepted_of_concat htasks]
      exact h.joined (.inr rfl) htasks (Nat.le_of_eq hgates.symm) hstarts
  | parked hd htasks hgates hstarts =>
      have hopened := h.opened htasks
      rw [dispatchHere_of_gate hout, accepted_of_concat hopened]
      exact h.joined (.inr rfl) hopened (Nat.le.intro hgates.symm) hstarts

theorem started (h : Sound ⟨n, ps, ss ++ σ :: vs⟩) {ts us : List Task} {t : Task}
    (htasks : n.tasks = ts ++ t :: us) (hready : t.stage = .ready)
    (hplace : ss.filterMap Signal.task? = ts.filter isLive) (hσ : σ.task? = some t) :
    Sound ⟨{ n with tasks := ts ++ us }.runTask t, ps,
      ss ++ { σ with progress := .started } :: vs⟩ := by
  obtain ⟨hprogress, hhandler, hdelivered⟩ := Signal.progress_of_ready hσ hready
  have hrest := h.task?_rest htasks hplace hσ
    (show ({ σ with progress := .started } : Signal).task? = none from rfl)
  refine ⟨?_, fun σ' hσ' g hw => ?_, ?_, h.apart, fun σ' hσ' hd j hj hgo => ?_, ?_⟩
  · have hresidue : ({ n with tasks := ts ++ us }.residue t).filter isLive = [] :=
      List.filter_eq_nil_iff.mpr fun u hu => by
        rw [isLive, not_ready_of_mem_residue hu]
        exact Bool.false_ne_true
    dsimp only
    rw [tasks_runTask, List.filter_append, hresidue, List.append_nil]
    exact hrest
  · rw [gates_runTask]
    rcases mem_replaced hσ' with hold | rfl
    · exact h.waiting σ' hold g hw
    · cases hw
  · rw [gates_runTask]
    exact h.papers
  · rcases mem_replaced hσ' with hold | rfl
    · exact h.acknowledged σ' hold hd j hj hgo
    · exact h.acknowledged σ List.mem_append_cons_self hd j hj (.inl hprogress)
  · have hbefore : n.world.starts.Perm ((ss ++ σ :: vs).filterMap Signal.start?) := h.starts
    have hnone : σ.start? = none :=
      Signal.start?_of_not_started (by rw [hprogress]; exact Progress.noConfusion)
    rw [List.filterMap_append, List.filterMap_cons_none hnone] at hbefore
    have hstart : ({ σ with progress := .started } : Signal).start?
        = some ⟨t.handler, t.delivered.sender, t.delivered.message⟩ := by
      rw [hhandler, hdelivered]
      rfl
    dsimp only
    rw [starts_runTask, List.filterMap_append, List.filterMap_cons_some hstart]
    exact ((hbefore.append_right _).trans (List.perm_append_singleton ..)).trans
      List.perm_middle.symm

omit [Surroundings ω] in
theorem lost (h : Sound ⟨n, ps, ss ++ σ :: vs⟩) {ts us : List Task} {t : Task} {g : Gate}
    (htasks : n.tasks = ts ++ t :: us) (hwaiting : t.stage = .waiting g)
    (hplace : ss.filterMap Signal.task? = ts.filter isLive) (hσ : σ.task? = some t) :
    Sound ⟨{ n with tasks := ts ++ us }, ps, ss ++ { σ with progress := .lost } :: vs⟩ := by
  have hprogress := Signal.progress_of_waiting hσ hwaiting
  refine ⟨h.task?_rest htasks hplace hσ rfl, fun σ' hσ' g hw => ?_, h.papers, h.apart,
    fun σ' hσ' hd j hj hgo => ?_, ?_⟩
  · rcases mem_replaced hσ' with hold | rfl
    · exact h.waiting σ' hold g hw
    · cases hw
  · rcases mem_replaced hσ' with hold | rfl
    · exact h.acknowledged σ' hold hd j hj hgo
    · rcases hgo with hgo | hgo <;> cases hgo
  · have hbefore : n.world.starts.Perm ((ss ++ σ :: vs).filterMap Signal.start?) := h.starts
    have hnone : σ.start? = none :=
      Signal.start?_of_not_started (by rw [hprogress]; exact Progress.noConfusion)
    rw [List.filterMap_append, List.filterMap_cons_none hnone] at hbefore
    dsimp only
    rw [List.filterMap_append, List.filterMap_cons_none rfl]
    exact hbefore

/-- No step breaks what holds at a desk. -/
theorem next {x y : Desk ω} (h : x.Sound) (hstep : Next x y) : y.Sound := by
  cases hstep with
  | dispatched fields body => exact h.dispatched fields body
  | encoded hp => exact h.encoded hp (Paper.gate?_ofReply _) rfl rfl
  | polled hp => exact h.closed hp rfl rfl
  | dropped hp => exact h.closed hp rfl rfl
  | handed x => exact h.handed x
  | started htasks hready hplace hσ => exact h.started htasks hready hplace hσ
  | lost htasks hwaiting hplace hσ => exact h.lost htasks hwaiting hplace hσ
  | aside hstill => exact h.aside hstill

theorem leads {x y : Desk ω} (h : x.Sound) (hway : Leads x y) : y.Sound := by
  induction hway with
  | refl => exact h
  | tail _ hstep ih => exact ih.next hstep

end Desk.Sound

end Conclave.Http
