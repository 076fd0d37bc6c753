import Conclave.Node.Lifecycle
import Conclave.Proofs.Node.Calling
import Conclave.Rehearsal.World

/-!
# The rounds of a loop to the leader

`run` repeats a round until a result ends it. `trail` is the list of its rounds, each with the node
at the head of the loop, where the attempt went, and how it ended. `TraceLaw` says what holds along
every trail, whatever happens around the node: where an attempt goes (`Heads`), that it carries the
envelope of the errand unchanged and is made once (`Round.Lawful`), that the loop goes on exactly after
an ending that asks for another attempt (`Round.AsksAgain`), and that nothing starts once the caller
gave up or the lifetime is over.
-/

namespace Conclave.Node

open Wire

variable {ω : Type}

/-- Whether a loop has to stop: its caller gave it up, or the lifetime is over. -/
def isStopped (n : Node ω) (bound : Bound) : Bool := n.isGivenUp bound || n.lifetimeOver

theorem Steady.isStopped {β : Type} {view : ω → β} {n n' : Node ω} (h : Steady view n n')
    {bound : Bound} (hn : n.isStopped bound = true) : n'.isStopped bound = true := by
  simp only [Node.isStopped, Bool.or_eq_true] at hn ⊢
  exact hn.imp h.isGivenUp h.lifetime

/-- The node once nobody waits for the response to a reply any more. -/
def acknowledged (n : Node ω) (reply : Reply) : Node ω :=
  match reply.gate? with
  | some gate => n.release gate
  | none => n

variable [Surroundings ω]

/-! ## The look at the head of the loop -/

/-- Where an attempt goes, as the node is at the head of the loop. -/
inductive Heads (n : Node ω) (bound : Bound) : Heading → Prop where
  | canceled : n.isStopped bound = true → Heads n bound .canceled
  | leaderless : n.isStopped bound = false → n.leader? = none → Heads n bound .leaderless
  | here {address : String} {id : MemberId} : n.isStopped bound = false →
      Surroundings.leader n.world = some address → n.registry.get? address = some id →
      n.registry.isLocal address = true → Heads n bound .here
  | there {address : String} {id : MemberId} : n.isStopped bound = false →
      Surroundings.leader n.world = some address → n.registry.get? address = some id →
      n.registry.isLocal address = false → Heads n bound (.there id)

theorem leader?_eq_some {n : Node ω} {address : String} {id : MemberId}
    (h : n.leader? = some (address, id)) :
    Surroundings.leader n.world = some address ∧ n.registry.get? address = some id := by
  simp only [leader?, bind, Option.bind_eq_some_iff, Option.pure_def, Option.some.injEq] at h
  obtain ⟨a, ha, i, hi, heq⟩ := h
  obtain ⟨rfl, rfl⟩ := Prod.mk.inj heq
  exact ⟨ha, hi⟩

theorem heading_heads (n : Node ω) (bound : Bound) : Heads n bound (n.heading bound) := by
  rw [heading]
  split
  · rename_i hs
    exact .canceled hs
  · rename_i hs
    have hgo : n.isStopped bound = false := by
      rw [isStopped, Bool.eq_false_iff]
      exact hs
    split
    · rename_i hl
      exact .leaderless hgo hl
    · rename_i address id hl
      obtain ⟨ha, hi⟩ := leader?_eq_some hl
      cases hlocal : n.registry.isLocal address with
      | true => exact .here hgo ha hi hlocal
      | false => exact .there hgo ha hi hlocal

theorem heading_of_isStopped {n : Node ω} {bound : Bound} (h : n.isStopped bound = true) :
    n.heading bound = .canceled := by
  rw [heading]
  exact if_pos h

/-! ## An attempt at the own node -/

/-- What becomes of an errand that its own node takes. -/
inductive Handed (x : Errand) (n : Node ω) : Node ω → Ending (Except Fault x.Answer) → Prop where
  | replied {m : Node ω} {reply : Reply} :
      n.receiveMessage (x.delivered n.registry.localAddress) = (m, .returned (.ok reply)) →
      Handed x n (m.acknowledged reply) (.returned (ownResult m.registry.localAddress x reply))
  | failed {m : Node ω} {fault : Fault} :
      n.receiveMessage (x.delivered n.registry.localAddress) = (m, .returned (.error fault)) →
      Handed x n m (.returned (.error fault))
  | waited {m : Node ω} {ending : Ending (Except Fault x.Answer)} :
      n.receiveMessage (x.delivered n.registry.localAddress) = (m, .never) →
      ending = .never ∨ ending = .returned (.error .canceled) → Handed x n m.pause ending

theorem attemptHere_of_isStopped {n : Node ω} {bound : Bound} (h : n.isStopped bound = true)
    (x : Errand) : n.attemptHere bound x = (n, .returned (.error .canceled)) := by
  rw [attemptHere]
  exact if_pos h

theorem attemptHere_handed {n : Node ω} {bound : Bound} (h : n.isStopped bound = false)
    (x : Errand) : Handed x n (n.attemptHere bound x).1 (n.attemptHere bound x).2 := by
  have hgo : ¬ (n.isGivenUp bound || n.lifetimeOver) = true := by
    rw [isStopped] at h
    simp [h]
  rw [attemptHere, if_neg hgo, dispatchHere]
  rcases hr : n.receiveMessage (x.delivered n.registry.localAddress) with ⟨m, ending⟩
  cases ending with
  | returned result =>
      cases result with
      | ok reply =>
          have hreplied := Handed.replied hr
          dsimp only
          cases hg : reply.gate? with
          | none =>
              rw [acknowledged, hg] at hreplied
              exact hreplied
          | some gate =>
              rw [acknowledged, hg] at hreplied
              exact hreplied
      | error fault => exact .failed hr
  | never =>
      dsimp only
      split
      · exact .waited hr (.inr rfl)
      · exact .waited hr (.inl rfl)

theorem Handed.view {β : Type} {view : ω → β} (hv : Kept view) {x : Errand} {n n' : Node ω}
    {ending : Ending (Except Fault x.Answer)} (h : Handed x n n' ending) :
    view n'.world = view n.world := by
  have hreceive := view_receiveMessage hv n (x.delivered n.registry.localAddress)
  cases h with
  | @replied m reply hr =>
      rw [hr] at hreceive
      rw [acknowledged]
      cases reply.gate? with
      | none => exact hreceive
      | some gate => exact hreceive
  | failed hr =>
      rw [hr] at hreceive
      exact hreceive
  | waited hr hending =>
      rw [hr] at hreceive
      exact (steady_pause hv _).view.trans hreceive

/-! ## Rounds -/

/-- A round of the loop: the node at its head and what the look there said, the node when the attempt
started and when it was over, and how the attempt ended. -/
structure Round (ω : Type) (x : Errand) where
  head : Node ω
  heading : Heading
  start : Node ω
  finish : Node ω
  ending : Ending (Except Fault x.Answer)

def roundFrom (n : Node ω) (bound : Bound) (x : Errand) : Round ω x where
  head := n
  heading := n.heading bound
  start := n.elapse
  finish := (n.elapse.attempt bound x (n.heading bound)).1
  ending := (n.elapse.attempt bound x (n.heading bound)).2

/-- The rounds of a run, in their order. -/
def trail (bound : Bound) (x : Errand) : (rounds : Nat) → Node ω → List (Round ω x)
  | 0, _ => []
  | rounds + 1, n =>
    n.roundFrom bound x ::
      match n.round bound x with
      | (m, .returned (.retry _)) => trail bound x rounds m.giveWay
      | _ => []

namespace Round

variable {x : Errand}

/-- The addresses that the attempt of a round was transmitted to: one or none. -/
def reached (r : Round ω x) (bound : Bound) : List String :=
  match r.heading with
  | .there id => r.start.reached bound id
  | _ => []

/-- Whether an attempt ended in a way that asks for another one: the leader was not reached, or it
answered with the status that says so. -/
def AsksAgain (r : Round ω x) : Prop :=
  (∃ address reason, r.ending = .returned (.error (.unreachable address reason)))
  ∨ ∃ address, r.ending = .returned (.error (.remoteStatus address x.retryStatus.code))

end Round

/-- What a result can mean. -/
inductive Judged {α : Type} (retry : Status) : Except Fault α → Verdict α → Prop where
  | delivered (value : α) : Judged retry (.ok value) (.delivered value)
  | canceled : Judged retry (.error .canceled) .canceled
  | unreached (address : String) (reason : Unreached) :
      Judged retry (.error (.unreachable address reason)) (.retry (.unreachable address reason))
  | refused (address : String) : Judged retry (.error (.remoteStatus address retry.code))
      (.retry (.remoteStatus address retry.code))
  | failed {fault : Fault} : (∀ address reason, fault ≠ .unreachable address reason) →
      (∀ address, fault ≠ .remoteStatus address retry.code) →
      Judged retry (.error fault) (.failed fault)

theorem classify_judged {α : Type} (retry : Status) (result : Except Fault α) :
    Judged retry result (classify retry result) := by
  unfold classify
  split
  · exact .delivered _
  · exact .canceled
  · exact .unreached _ _
  · split
    · rename_i hstatus
      rw [hstatus]
      exact .refused _
    · rename_i hstatus
      refine .failed (fun _ _ h => by cases h) fun _ h => ?_
      cases h
      exact hstatus rfl
  · rename_i hcanceled hunreached hstatus
    exact .failed (fun _ _ h => hunreached _ _ h) fun _ h => hstatus _ _ h

variable {n : Node ω} {bound : Bound} {x : Errand}

theorem round_of_returned {result : Except Fault x.Answer}
    (h : (n.roundFrom bound x).ending = .returned result) :
    n.round bound x
      = ((n.roundFrom bound x).finish, .returned (classify x.retryStatus result)) := by
  have he : n.elapse.attempt bound x (n.heading bound)
      = ((n.roundFrom bound x).finish, .returned result) := Prod.ext rfl h
  rw [round, he]

theorem round_of_never (h : (n.roundFrom bound x).ending = .never) :
    n.round bound x = ((n.roundFrom bound x).finish, .never) := by
  have he : n.elapse.attempt bound x (n.heading bound)
      = ((n.roundFrom bound x).finish, .never) := Prod.ext rfl h
  rw [round, he]

theorem round_of_asksAgain (h : (n.roundFrom bound x).AsksAgain) :
    ∃ fault, n.round bound x = ((n.roundFrom bound x).finish, .returned (.retry fault)) := by
  rcases h with ⟨address, reason, h⟩ | ⟨address, h⟩
  · exact ⟨_, round_of_returned h⟩
  · refine ⟨.remoteStatus address x.retryStatus.code, ?_⟩
    rw [round_of_returned h, classify, if_pos rfl]

theorem run_of_asksAgain (h : (n.roundFrom bound x).AsksAgain) (rounds : Nat) :
    run bound x (rounds + 1) n = run bound x rounds (n.roundFrom bound x).finish.giveWay := by
  obtain ⟨fault, hround⟩ := round_of_asksAgain h
  rw [run, hround]

theorem trail_of_asksAgain (h : (n.roundFrom bound x).AsksAgain) (rounds : Nat) :
    trail bound x (rounds + 1) n
      = n.roundFrom bound x :: trail bound x rounds (n.roundFrom bound x).finish.giveWay := by
  obtain ⟨fault, hround⟩ := round_of_asksAgain h
  rw [trail, hround]

/-- Any other ending is that of the run. -/
theorem run_of_not_asksAgain (h : ¬ (n.roundFrom bound x).AsksAgain) (rounds : Nat) :
    run bound x (rounds + 1) n
        = ((n.roundFrom bound x).finish, (n.roundFrom bound x).ending)
    ∧ trail bound x (rounds + 1) n = [n.roundFrom bound x] := by
  rw [run, trail]
  cases he : (n.roundFrom bound x).ending with
  | never =>
      rw [round_of_never he]
      exact ⟨rfl, rfl⟩
  | returned result =>
      rw [round_of_returned he]
      have hjudged := classify_judged x.retryStatus result
      generalize classify x.retryStatus result = verdict at hjudged ⊢
      cases hjudged with
      | delivered value => exact ⟨rfl, rfl⟩
      | canceled => exact ⟨rfl, rfl⟩
      | failed hunreached hrefused => exact ⟨rfl, rfl⟩
      | unreached address reason => exact absurd (.inl ⟨address, reason, he⟩) h
      | refused address => exact absurd (.inr ⟨address, he⟩) h

/-! ## What holds of every round -/

/-- What holds of a round among recorded surroundings. The attempt goes where the look at the head
said; one at the own node hands over the errand, and one elsewhere transmits it. When the loop has to
stop before the attempt starts, it does not start. -/
structure Round.Lawful (r : Round (Recorded ω) x) (bound : Bound) : Prop where
  heading : Heads r.head bound r.heading
  start : r.start = r.head.elapse
  canceled : r.heading = .canceled →
    r.finish = r.start ∧ r.ending = .returned (.error .canceled)
  leaderless : r.heading = .leaderless →
    r.finish = r.start ∧ r.ending = .returned (.error .leaderUnavailable)
  here : r.heading = .here → r.start.isStopped bound = false →
    Handed x r.start r.finish r.ending
  there : ∀ id, r.heading = .there id → Called r.start bound id x.outbound (r.finish, r.ending)
  transmissions : r.finish.world.transmissions
    = r.start.world.transmissions ++ (r.reached bound).map (·, x.outbound)
  stopped : r.start.isStopped bound = true →
    r.reached bound = [] ∧ (r.heading = .here → r.finish = r.start)
      ∧ r.finish.isStopped bound = true

omit [Surroundings ω] in
theorem reached_of_isStopped {n : Node ω} (h : n.isStopped bound = true) (id : MemberId) :
    n.reached bound id = [] := by
  simp only [isStopped, Bool.or_eq_true] at h
  rw [reached]
  cases n.member? id with
  | none => rfl
  | some m =>
      have hended : (n.interruption bound id m.address).isSome = true := by
        rw [interruption]
        rcases h with hgiven | hover
        · rw [if_pos hgiven]
          rfl
        · split
          · rfl
          · rw [if_pos (by rw [isClosed, hover, Bool.true_or])]
            rfl
      exact if_pos hended

theorem transmissions_attempt (n : Node (Recorded ω)) (bound : Bound) (x : Errand) (h : Heading) :
    (n.attempt bound x h).1.world.transmissions = n.world.transmissions
      ++ (match h with | .there id => n.reached bound id | _ => []).map (·, x.outbound) := by
  cases h with
  | canceled => exact (List.append_nil _).symm
  | leaderless => exact (List.append_nil _).symm
  | here =>
      refine Eq.trans ?_ (List.append_nil _).symm
      cases hs : n.isStopped bound with
      | true => rw [attempt, attemptHere_of_isStopped hs]
      | false => exact (attemptHere_handed hs x).view kept_transmissions
  | there id => exact transmissions_call ..

theorem isStopped_attempt {n : Node ω} (h : n.isStopped bound = true) (heading : Heading) :
    (n.attempt bound x heading).1.isStopped bound = true := by
  cases heading with
  | canceled => exact h
  | leaderless => exact h
  | here =>
      rw [attempt, attemptHere_of_isStopped h]
      exact h
  | there id => exact (steady_call n bound id x.outbound).isStopped h

theorem roundFrom_lawful (n : Node (Recorded ω)) (bound : Bound) (x : Errand) :
    (n.roundFrom bound x).Lawful bound where
  heading := heading_heads n bound
  start := rfl
  canceled := by
    intro h
    simp only [roundFrom] at h ⊢
    rw [h]
    exact ⟨rfl, rfl⟩
  leaderless := by
    intro h
    simp only [roundFrom] at h ⊢
    rw [h]
    exact ⟨rfl, rfl⟩
  here := by
    intro h hs
    simp only [roundFrom] at h hs ⊢
    rw [h]
    exact attemptHere_handed hs x
  there := by
    intro id h
    simp only [roundFrom] at h ⊢
    rw [h]
    exact call_called ..
  transmissions := transmissions_attempt n.elapse bound x (n.heading bound)
  stopped := by
    intro hs
    simp only [roundFrom] at hs ⊢
    refine ⟨?_, fun h => ?_, isStopped_attempt hs _⟩
    · rw [Round.reached]
      split
      · exact reached_of_isStopped hs _
      · rfl
    · rw [h, attempt, attemptHere_of_isStopped hs]

/-! ## What holds along a run -/

/-- What holds along the rounds of a run among recorded surroundings. -/
structure TraceLaw (n : Node (Recorded ω)) (bound : Bound) (x : Errand) (rounds : Nat) : Prop where
  /-- Every round is made as it should be. -/
  lawful : ∀ r ∈ trail bound x rounds n, r.Lawful bound
  /-- The first round begins with the node that the errand was given to. -/
  first : 0 < rounds → ∃ r post, trail bound x rounds n = r :: post ∧ r.head = n
  /-- A round is followed by another one only if its ending asks for it, at once after giving way. -/
  next : ∀ pre r r' post, trail bound x rounds n = pre ++ r :: r' :: post →
    r.AsksAgain ∧ r'.head = r.finish.giveWay
  /-- A round whose ending asks for another one is the last one only if there are no more rounds. -/
  last : ∀ pre r, trail bound x rounds n = pre ++ [r] → r.AsksAgain →
    pre.length + 1 = rounds ∧ (run bound x rounds n).2 = .never
  /-- Any other last round ends the run with its own ending. -/
  result : ∀ pre r, trail bound x rounds n = pre ++ [r] → ¬ r.AsksAgain →
    run bound x rounds n = (r.finish, r.ending)
  /-- What is transmitted is the errand, to whom the rounds reached. -/
  transmissions : (run bound x rounds n).1.world.transmissions = n.world.transmissions
    ++ ((trail bound x rounds n).flatMap (·.reached bound)).map (·, x.outbound)
  /-- After a round in which the loop had to stop, the next one sees it and nothing starts. -/
  stopped : ∀ pre r post, trail bound x rounds n = pre ++ r :: post →
    r.finish.isStopped bound = true → ∀ r' ∈ post, r'.heading = .canceled

/-- The loop ends with its first look when it has to stop. -/
theorem heading_of_mem_trail {n : Node (Recorded ω)} (h : n.isStopped bound = true)
    {rounds : Nat} {r : Round (Recorded ω) x} (hr : r ∈ trail bound x rounds n) :
    r.heading = .canceled := by
  have hheading : (n.roundFrom bound x).heading = .canceled := heading_of_isStopped h
  cases rounds with
  | zero => cases hr
  | succ rounds =>
      have hending := ((roundFrom_lawful n bound x).canceled hheading).2
      have hend : ¬ (n.roundFrom bound x).AsksAgain := by
        rintro (⟨address, reason, hu⟩ | ⟨address, hs⟩)
        · rw [hending] at hu
          cases hu
        · rw [hending] at hs
          cases hs
      rw [(run_of_not_asksAgain hend rounds).2, List.mem_singleton] at hr
      rw [hr, hheading]

theorem transmissions_roundFrom (n : Node (Recorded ω)) (bound : Bound) (x : Errand) :
    (n.roundFrom bound x).finish.world.transmissions
      = n.world.transmissions ++ ((n.roundFrom bound x).reached bound).map (·, x.outbound) := by
  have helapse := (steady_elapse kept_transmissions n).view
  rw [(roundFrom_lawful n bound x).transmissions]
  exact congrArg (· ++ _) helapse

theorem traceLaw_zero (n : Node (Recorded ω)) (bound : Bound) (x : Errand) :
    TraceLaw n bound x 0 where
  lawful := fun r hr => by cases hr
  first := fun h => absurd h (Nat.lt_irrefl 0)
  next := fun pre r r' post h => by simp [trail] at h
  last := fun pre r h => by simp [trail] at h
  result := fun pre r h => by simp [trail] at h
  transmissions := (List.append_nil _).symm
  stopped := fun pre r post h => by simp [trail] at h

theorem traceLaw_of_not_asksAgain {n : Node (Recorded ω)}
    (h : ¬ (n.roundFrom bound x).AsksAgain) (rounds : Nat) :
    TraceLaw n bound x (rounds + 1) := by
  obtain ⟨hrun, htrail⟩ := run_of_not_asksAgain h rounds
  have hsingle : ∀ {pre r post}, trail bound x (rounds + 1) n = pre ++ r :: post →
      r = n.roundFrom bound x ∧ post = [] := by
    intro pre r post hsplit
    rw [htrail] at hsplit
    cases pre with
    | nil =>
        obtain ⟨hr, hpost⟩ := List.cons.inj hsplit
        exact ⟨hr.symm, hpost.symm⟩
    | cons p pre => simp at hsplit
  exact
    { lawful := by
        intro r hr
        rw [htrail, List.mem_singleton] at hr
        rw [hr]
        exact roundFrom_lawful n bound x
      first := fun _ => ⟨_, [], htrail, rfl⟩
      next := by
        intro pre r r' post hsplit
        cases (hsingle hsplit).2
      last := by
        intro pre r hsplit hagain
        rw [(hsingle hsplit).1] at hagain
        exact absurd hagain h
      result := by
        intro pre r hsplit _
        rw [hrun, (hsingle hsplit).1]
      transmissions := by
        rw [hrun, htrail, List.flatMap_singleton]
        exact transmissions_roundFrom n bound x
      stopped := by
        intro pre r post hsplit _ r' hr'
        rw [(hsingle hsplit).2] at hr'
        cases hr' }

theorem traceLaw_of_asksAgain {n : Node (Recorded ω)} (h : (n.roundFrom bound x).AsksAgain)
    {rounds : Nat} (law : TraceLaw (n.roundFrom bound x).finish.giveWay bound x rounds) :
    TraceLaw n bound x (rounds + 1) := by
  have hrun := run_of_asksAgain h rounds
  have htrail := trail_of_asksAgain h rounds
  exact
    { lawful := by
        intro r hr
        rw [htrail] at hr
        rcases List.mem_cons.mp hr with rfl | hmem
        · exact roundFrom_lawful n bound x
        · exact law.lawful r hmem
      first := fun _ => ⟨_, _, htrail, rfl⟩
      next := by
        intro pre r r' post hsplit
        rw [htrail] at hsplit
        cases pre with
        | nil =>
            -- the second round of the trail is the first one of its rest
            obtain ⟨rfl, hrest⟩ := List.cons.inj hsplit
            cases rounds with
            | zero => cases hrest
            | succ rounds =>
                obtain ⟨r₁, post₁, hfirst, hhead⟩ := law.first (Nat.succ_pos rounds)
                rw [hfirst] at hrest
                obtain ⟨rfl, -⟩ := List.cons.inj hrest
                exact ⟨h, hhead⟩
        | cons p pre => exact law.next pre r r' post (List.cons.inj hsplit).2
      last := by
        intro pre r hsplit hagain
        rw [htrail] at hsplit
        rw [hrun]
        cases pre with
        | nil =>
            obtain ⟨-, hrest⟩ := List.cons.inj hsplit
            cases rounds with
            | zero => exact ⟨rfl, rfl⟩
            | succ rounds =>
                obtain ⟨r₁, post₁, hfirst, -⟩ := law.first (Nat.succ_pos rounds)
                rw [hfirst] at hrest
                cases hrest
        | cons p pre =>
            obtain ⟨hlength, hnever⟩ := law.last pre r (List.cons.inj hsplit).2 hagain
            exact ⟨congrArg (· + 1) hlength, hnever⟩
      result := by
        intro pre r hsplit hend
        rw [htrail] at hsplit
        rw [hrun]
        cases pre with
        | nil =>
            obtain ⟨rfl, -⟩ := List.cons.inj hsplit
            exact absurd h hend
        | cons p pre => exact law.result pre r (List.cons.inj hsplit).2 hend
      transmissions := by
        have hgive := (steady_giveWay kept_transmissions (n.roundFrom bound x).finish).view
        rw [hrun, law.transmissions, hgive, transmissions_roundFrom, htrail, List.flatMap_cons,
          List.map_append, List.append_assoc]
      stopped := by
        intro pre r post hsplit hstopped r' hr'
        rw [htrail] at hsplit
        cases pre with
        | nil =>
            obtain ⟨rfl, rfl⟩ := List.cons.inj hsplit
            have hgive := steady_giveWay kept_unit (n.roundFrom bound x).finish
            exact heading_of_mem_trail (hgive.isStopped hstopped) hr'
        | cons p pre => exact law.stopped pre r post (List.cons.inj hsplit).2 hstopped r' hr' }

theorem traceLaw (n : Node (Recorded ω)) (bound : Bound) (x : Errand) (rounds : Nat) :
    TraceLaw n bound x rounds := by
  -- a round either ends the run, or stands in front of the run that follows it
  induction rounds generalizing n with
  | zero => exact traceLaw_zero n bound x
  | succ rounds ih =>
      by_cases h : (n.roundFrom bound x).AsksAgain
      · exact traceLaw_of_asksAgain h (ih _)
      · exact traceLaw_of_not_asksAgain h rounds

/-! ## The two loops -/

/-- A message that fails its check, or a signal that asks for a reply, is refused without an attempt. Any
other message is put into one envelope, and the rounds of its run obey the law. -/
theorem leader_loops (n : Node (Recorded ω)) (bound : Bound) (m : Message) (rounds : Nat) :
    (∀ fault, m.check = .error fault →
      (∃ reason, fault = .malformed reason)
      ∧ sendRequest rounds n bound m = (n, .returned (.error fault))
      ∧ ∀ d : Delivery, d.isOneWay = true →
        sendSignal rounds n bound m d = (n, .returned (.error fault)))
    ∧ (∀ d : Delivery, d.isOneWay = false →
      sendSignal rounds n bound m d
        = (n, .returned (.error (.malformed (.notASignal d.tag)))))
    ∧ (m.check = .ok () → ∃ e n', n.envelop m = (e, n') ∧ e.message = m
      ∧ n'.world.transmissions = n.world.transmissions
      ∧ sendRequest rounds n bound m = run bound (.request e) rounds n'
      ∧ TraceLaw n' bound (.request e) rounds
      ∧ ∀ d : Delivery, d.isOneWay = true →
        sendSignal rounds n bound m d = run bound (.signal e d) rounds n'
        ∧ TraceLaw n' bound (.signal e d) rounds) := by
  refine ⟨fun fault hcheck => ⟨?_, ?_, fun d hd => ?_⟩, fun d hd => ?_, fun hcheck => ?_⟩
  · rw [Message.check] at hcheck
    split at hcheck
    · rename_i reason hdefect
      exact ⟨reason, (Except.error.inj hcheck).symm⟩
    · cases hcheck
  · rw [sendRequest, hcheck]
  · simp only [sendSignal, hd, hcheck, Bool.not_true, Bool.false_eq_true, if_false]
  · simp only [sendSignal, hd, Bool.not_false, if_true]
  · refine ⟨(n.envelop m).1, (n.envelop m).2, rfl, rfl,
      kept_transmissions.freshId n.world, ?_, traceLaw .., fun d hd => ⟨?_, traceLaw ..⟩⟩
    · rw [sendRequest, hcheck]
    · simp only [sendSignal, hd, hcheck, Bool.not_true, Bool.false_eq_true]
      exact if_neg not_false

/-- A member that goes down when it is called, and leaves the leadership to the caller. -/
def resigning : Rehearsal.Outcome :=
  { Rehearsal.Outcome.plain with
    acts := [.engine fun e => { e with leader := some "a:1" }]
    fault := some (.unreachable "b:1" .noConnection) }

def besideLeader : Node (Recorded Rehearsal.World) :=
  let world := (Rehearsal.World.start { Rehearsal.Engine.quiet with leader := some "b:1" }
    .scripted []).expect "b:1" [resigning]
  ((alone ⟨world, []⟩ "a:1" ⟨10, 10, []⟩ (.new default)).enlist "b:1").1

def question : Message := ⟨"lock", octetStream, .ofBytes [1]⟩

/-- The question is sent to the leader, which goes down, and then taken by the node itself. -/
theorem question_follows_leader :
    question.check = .ok ()
    ∧ TraceLaw (besideLeader.envelop question).2 .caller
      (.request (besideLeader.envelop question).1) 3
    ∧ (trail .caller (.request (besideLeader.envelop question).1) 3
        (besideLeader.envelop question).2).map (·.heading) = [.there 1, .here] := by
  have hdefect : question.defect? = none := by decide
  have hcheck : question.check = .ok () := by rw [Message.check, hdefect]
  obtain ⟨-, -, h⟩ := leader_loops besideLeader .caller question 3
  obtain ⟨e, n', he, -, -, -, law, -⟩ := h hcheck
  refine ⟨hcheck, ?_, rfl⟩
  rw [he]
  exact law

end Conclave.Node
