import Conclave.Membership
import Mathlib.Logic.Function.Basic

/-!
# Several subscriptions of a channel

Any number of subscriptions read from a channel, and any number of hands publish on it. To wait for
a change takes two halves: to find that there is news, and to fetch the value. Both may happen at
once (`Step.asked`), or others may publish in between (`Step.woken`, `Step.fetched`).

What everyone is told is said here from the history of the channel alone. Its newest event stands
first. The new values are numbered as they come, since one value may come back after another; what
a subscription receives are the newest of them at their time (`received`). That no version is
received twice and none out of order comes down to one sublist: what is received is among the
values since the subscription, and `unseen` is what is still ahead of it (`Follows`).
-/

namespace Conclave.Membership

open Function (update)

/-! ## Channels and those who use them -/

/-- A subscription, and whether it was found that there is news which is not fetched yet. -/
structure Reader where
  subscription : Subscription
  isWoken : Bool

/-- A channel with those who publish on it and those who read from it. -/
structure Audience where
  channel : Channel
  publishers : Nat
  readers : Nat → Option Reader

/-- A channel with one publisher. The subscription that it is made with is the first of all. -/
def Audience.opened (first : Membership) : Audience := ⟨.new first, 1, fun _ => none⟩

/-- What happens on a channel, with what is answered. -/
inductive Event where
  | published (value : Membership) (news : Bool)
  | joined
  | left
  | subscribed (i : Nat)
  | looked (i : Nat) (value : Membership)
  | asked (i : Nat) (answer : Change)
  | woken (i : Nat)
  | fetched (i : Nat) (value : Membership)

/-- The channel closes when its last publisher leaves. Only a publisher can publish, subscribe or
bring in another one. -/
inductive Step : Audience → Event → Audience → Prop where
  | published {a : Audience} (value : Membership) (h : 0 < a.publishers) :
      Step a (.published value (a.channel.publish value).2)
        { a with channel := (a.channel.publish value).1 }
  | joined {a : Audience} (h : 0 < a.publishers) :
      Step a .joined { a with publishers := a.publishers + 1 }
  | left {a : Audience} {n : Nat} (h : a.publishers = n + 1) :
      Step a .left
        { a with publishers := n, channel := if n = 0 then a.channel.close else a.channel }
  | subscribed {a : Audience} {i : Nat} (h : 0 < a.publishers) (hnew : a.readers i = none) :
      Step a (.subscribed i)
        { a with readers := update a.readers i (some ⟨a.channel.subscribe, false⟩) }
  | looked {a : Audience} {i : Nat} {r : Reader} (h : a.readers i = some r) :
      Step a (.looked i a.channel.current) a
  | asked {a : Audience} {i : Nat} {s : Subscription} (h : a.readers i = some ⟨s, false⟩) :
      Step a (.asked i (a.channel.next s).2)
        { a with readers := update a.readers i (some ⟨(a.channel.next s).1, false⟩) }
  | woken {a : Audience} {i : Nat} {s : Subscription} {value : Membership}
      (h : a.readers i = some ⟨s, false⟩) (hnews : (a.channel.next s).2 = .changed value) :
      Step a (.woken i)
        { a with readers := update a.readers i (some ⟨(a.channel.next s).1, true⟩) }
  | fetched {a : Audience} {i : Nat} {s : Subscription} (h : a.readers i = some ⟨s, true⟩) :
      Step a (.fetched i a.channel.current)
        { a with readers := update a.readers i (some ⟨a.channel.subscribe, false⟩) }

/-- What has happened on a channel that was opened with a value. -/
inductive Past (first : Membership) : List Event → Audience → Prop where
  | opened : Past first [] (.opened first)
  | step {es : List Event} {e : Event} {a a' : Audience} (h : Past first es a) (hs : Step a e a') :
      Past first (e :: es) a'

/-! ## What the history says -/

namespace Event

/-- The new value that comes with an event. -/
def news? : Event → Option Membership
  | published value true => some value
  | _ => none

/-- The subscription that has nothing unseen after an event. -/
def updated? : Event → Option Nat
  | subscribed i | woken i | fetched i _ | asked i (.changed _) => some i
  | _ => none

/-- What a subscription receives with an event. -/
def receipt? (i : Nat) : Event → Option Membership
  | asked j (.changed value) | fetched j value => if j = i then some value else none
  | _ => none

def begins (i : Nat) : Event → Bool
  | subscribed j => j == i
  | _ => false

def isWaking : Event → Bool
  | woken _ => true
  | _ => false

/-- The subscription that takes part in an event. -/
def reader? : Event → Option Nat
  | subscribed i | looked i _ | asked i _ | woken i | fetched i _ => some i
  | _ => none

end Event

def latest (first : Membership) (es : List Event) : Membership :=
  (es.findSome? Event.news?).getD first

/-- How many new values have come. -/
def made (es : List Event) : Nat := es.countP (·.news?.isSome)

def publishers : List Event → Nat
  | [] => 1
  | .joined :: es => publishers es + 1
  | .left :: es => publishers es - 1
  | _ :: es => publishers es

/-- The new values since the last event of a kind, with their numbers. -/
def issuedAfter (p : Event → Bool) : List Event → List (Nat × Membership)
  | [] => []
  | e :: es => if p e then [] else (e.news?.map (made es + 1, ·)).toList ++ issuedAfter p es

/-- The new values since a subscription was made. -/
def issuedSince (i : Nat) (es : List Event) : List (Nat × Membership) := issuedAfter (·.begins i) es

/-- The new values that a subscription has not seen. -/
def unseen (i : Nat) (es : List Event) : List (Nat × Membership) :=
  issuedAfter (·.updated? == some i) es

/-- What a subscription has received, with the number of the newest value at that time. -/
def received (i : Nat) : List Event → List (Nat × Membership)
  | [] => []
  | e :: es => ((e.receipt? i).map (made es, ·)).toList ++ received i es

/-- Whether a subscription has found news that it has not fetched. -/
def isHalfway (i : Nat) : List Event → Bool
  | [] => false
  | e :: es => if e.updated? = some i then e.isWaking else isHalfway i es

/-- Whether there is a subscription, halfway through a wait or not. -/
def Stands (i : Nat) (es : List Event) (halfway : Bool) : Prop :=
  .subscribed i ∈ es ∧ isHalfway i es = halfway

/-- What a subscription is answered that waits for a change. -/
def Answers (first : Membership) (es : List Event) (i : Nat) : Change → Prop
  | .changed value => unseen i es ≠ [] ∧ value = latest first es
  | .pending => unseen i es = [] ∧ 0 < publishers es
  | .closed => unseen i es = [] ∧ publishers es = 0

/-! ## Numbered values -/

section

variable {first : Membership} {p : Event → Bool} {e : Event} {es : List Event}

theorem made_cons (e : Event) (es : List Event) :
    made (e :: es) = made es + e.news?.toList.length := by
  rw [made, List.countP_cons, made]
  cases e.news? <;> rfl

theorem latest_cons (first : Membership) (e : Event) (es : List Event) :
    latest first (e :: es) = e.news?.getD (latest first es) := by
  rw [latest, List.findSome?_cons]
  cases e.news? <;> rfl

/-- The newest of the new values is the latest one. -/
theorem eq_of_issuedAfter {x : Nat × Membership} {rest : List (Nat × Membership)}
    (h : issuedAfter p es = x :: rest) : x = (made es, latest first es) := by
  induction es with
  | nil => cases h
  | cons e es ih =>
      rw [issuedAfter] at h
      split at h
      · cases h
      · rw [made_cons, latest_cons]
        cases hn : e.news? with
        | none =>
            rw [hn] at h
            exact ih h
        | some value =>
            rw [hn] at h
            exact (List.cons.inj h).1.symm

theorem le_made_of_issuedAfter {x : Nat × Membership} (h : x ∈ issuedAfter p es) :
    x.1 ≤ made es := by
  induction es with
  | nil => cases h
  | cons e es ih =>
      rw [issuedAfter] at h
      rw [made_cons]
      split at h
      · cases h
      · cases hn : e.news? with
        | none =>
            rw [hn] at h
            exact ih h
        | some value =>
            rw [hn] at h
            rcases List.mem_cons.mp h with rfl | hrest
            · exact Nat.le_refl _
            · exact Nat.le_succ_of_le (ih hrest)

/-- No two of the new values have one number, and the newest has the greatest. -/
theorem pairwise_issuedAfter (p : Event → Bool) (es : List Event) :
    (issuedAfter p es).Pairwise fun x y => y.1 < x.1 := by
  induction es with
  | nil => exact .nil
  | cons e es ih =>
      rw [issuedAfter]
      split
      · exact .nil
      · cases e.news? with
        | none => exact ih
        | some value =>
            exact List.pairwise_cons.mpr
              ⟨fun y hy => Nat.lt_succ_of_le (le_made_of_issuedAfter hy), ih⟩

end

/-! ## Events that leave a subscription as it is -/

section

variable {i : Nat} {e : Event} (h : e.updated? ≠ some i)
include h

theorem begins_eq_false : e.begins i = false := by
  cases e with
  | subscribed j => simpa [Event.begins, Event.updated?] using h
  | _ => rfl

theorem receipt?_eq_none : e.receipt? i = none := by
  cases e with
  | fetched j value => simpa [Event.receipt?, Event.updated?] using h
  | asked j answer =>
      cases answer with
      | changed value => simpa [Event.receipt?, Event.updated?] using h
      | pending | closed => rfl
  | _ => rfl

theorem unseen_cons (es : List Event) :
    unseen i (e :: es) = (e.news?.map (made es + 1, ·)).toList ++ unseen i es := by
  have hfalse : (e.updated? == some i) = false := beq_false_of_ne h
  simp [unseen, issuedAfter, hfalse]

theorem issuedSince_cons (es : List Event) :
    issuedSince i (e :: es) = (e.news?.map (made es + 1, ·)).toList ++ issuedSince i es := by
  simp [issuedSince, issuedAfter, begins_eq_false h]

theorem received_cons (es : List Event) : received i (e :: es) = received i es := by
  simp [received, receipt?_eq_none h]

theorem isHalfway_cons (es : List Event) : isHalfway i (e :: es) = isHalfway i es := by
  simp [isHalfway, h]

end

theorem reader?_of_updated? {i : Nat} {e : Event} (h : e.updated? = some i) :
    e.reader? = some i := by
  cases e with
  | subscribed | woken | fetched => exact h
  | asked j answer =>
      cases answer with
      | changed value => exact h
      | pending | closed => cases h
  | published | joined | left | looked => cases h

/-! ## A subscription and its history -/

/-- What the history says of a subscription. What it has received is among the values that it has
seen; halfway through a wait, the newest of these is still to come. -/
structure Follows (i : Nat) (es : List Event) (r : Reader) : Prop where
  subscribed : .subscribed i ∈ es
  woken : isHalfway i es = r.isWoken
  seen : r.subscription.seen + (unseen i es).length = made es
  served : ∃ met, issuedSince i es = unseen i es ++ met
    ∧ (r.isWoken = true → met ≠ [])
    ∧ (received i es).Sublist (if r.isWoken then met.tail else met)

/-- What the history says of a subscription, or that there is none. -/
def Tracks (i : Nat) (es : List Event) : Option Reader → Prop
  | none => ∀ e ∈ es, e.updated? ≠ some i
  | some r => Follows i es r

section

variable {i : Nat} {es : List Event}

theorem Tracks.aside {o : Option Reader} {e : Event} (h : Tracks i es o)
    (he : e.updated? ≠ some i) : Tracks i (e :: es) o := by
  cases o with
  | none => exact List.forall_mem_cons.mpr ⟨he, h⟩
  | some r =>
      obtain ⟨met, hmet, hne, hsub⟩ := h.served
      refine ⟨List.mem_cons_of_mem _ h.subscribed, (isHalfway_cons he es).trans h.woken, ?_,
        met, ?_, hne, (received_cons he es).symm ▸ hsub⟩
      · have hseen := h.seen
        rw [unseen_cons he, made_cons, List.length_append]
        cases e.news? <;> simp <;> omega
      · rw [issuedSince_cons he, unseen_cons he, hmet, List.append_assoc]

theorem received_eq_nil (h : ∀ e ∈ es, e.updated? ≠ some i) : received i es = [] := by
  induction es with
  | nil => rfl
  | cons e es ih =>
      obtain ⟨he, hes⟩ := List.forall_mem_cons.mp h
      rw [received_cons he, ih hes]

theorem subscribed_not_mem (h : ∀ e ∈ es, e.updated? ≠ some i) : .subscribed i ∉ es :=
  fun hmem => h _ hmem rfl

theorem stands_iff {o : Option Reader} {halfway : Bool} (h : Tracks i es o) :
    Stands i es halfway ↔ ∃ s, o = some ⟨s, halfway⟩ := by
  cases o with
  | none => simp [Stands, subscribed_not_mem h]
  | some r =>
      obtain ⟨s, isWoken⟩ := r
      simp [Stands, h.subscribed, h.woken]

namespace Follows

variable {r : Reader} (h : Follows i es r)
include h

theorem unseen_ne_nil_iff : unseen i es ≠ [] ↔ r.subscription.seen < made es := by
  have hseen := h.seen
  rw [← List.length_pos_iff]
  omega

/-- What was received is among the values that are not ahead any more. -/
theorem exists_met :
    ∃ met, issuedSince i es = unseen i es ++ met ∧ (received i es).Sublist met := by
  obtain ⟨met, hmet, -, hsub⟩ := h.served
  refine ⟨met, hmet, ?_⟩
  split at hsub
  · exact hsub.trans (List.tail_sublist met)
  · exact hsub

theorem received_sublist : (received i es).Sublist (issuedSince i es) := by
  obtain ⟨met, hmet, hsub⟩ := h.exists_met
  rw [hmet]
  exact hsub.trans (List.sublist_append_right _ met)

/-- A value that is received now is newer than all that were received before. -/
theorem received_next {first : Membership} (hnews : r.isWoken = true ∨ unseen i es ≠ []) :
    ((made es, latest first es) :: received i es).Sublist (issuedSince i es) := by
  cases hunseen : unseen i es with
  | cons x rest =>
      obtain ⟨met, hmet, hsub⟩ := h.exists_met
      have hx : x = (made es, latest first es) := eq_of_issuedAfter hunseen
      rw [hmet, hunseen, ← hx, List.cons_append]
      exact (hsub.trans (List.sublist_append_right rest met)).cons_cons x
  | nil =>
      obtain ⟨met, hmet, hne, hsub⟩ := h.served
      have hwoken : r.isWoken = true := hnews.resolve_right (not_not_intro hunseen)
      rw [hunseen, List.nil_append] at hmet
      rw [if_pos hwoken] at hsub
      -- nothing came since the news was found, so it is the newest value that was met
      obtain ⟨x, rest, rfl⟩ := List.exists_cons_of_ne_nil (hne hwoken)
      have hx : x = (made es, latest first es) := eq_of_issuedAfter hmet
      rw [hmet, ← hx]
      exact hsub.cons_cons x

/-- A subscription that receives the latest value has nothing unseen. -/
theorem receives {first : Membership} {e : Event} (hnews : r.isWoken = true ∨ unseen i es ≠ [])
    (hupdated : e.updated? = some i) (hreceipt : e.receipt? i = some (latest first es))
    (hbegins : e.begins i = false) (hwaking : e.isWaking = false) (hold : e.news? = none) :
    Follows i (e :: es) ⟨⟨made es⟩, false⟩ := by
  have hunseen : unseen i (e :: es) = [] := by simp [unseen, issuedAfter, hupdated]
  have hsince : issuedSince i (e :: es) = issuedSince i es := by
    simp [issuedSince, issuedAfter, hbegins, hold]
  refine ⟨List.mem_cons_of_mem _ h.subscribed, by simp [isHalfway, hupdated, hwaking],
    by simp [hunseen, made_cons, hold], issuedSince i es, by rw [hunseen, hsince]; rfl,
    nofun, ?_⟩
  simpa [received, hreceipt] using h.received_next hnews

/-- A subscription that finds news has nothing unseen, but the latest value is still to come. -/
theorem wakes (hnews : unseen i es ≠ []) :
    Follows i (.woken i :: es) ⟨⟨made es⟩, true⟩ := by
  have hunseen : unseen i (.woken i :: es) = [] := by simp [unseen, issuedAfter, Event.updated?]
  have hsince : issuedSince i (.woken i :: es) = issuedSince i es := by
    simp [issuedSince, issuedAfter, Event.begins, Event.news?]
  obtain ⟨met, hmet, hsub⟩ := h.exists_met
  obtain ⟨x, rest, hx⟩ := List.exists_cons_of_ne_nil hnews
  refine ⟨List.mem_cons_of_mem _ h.subscribed, by simp [isHalfway, Event.updated?, Event.isWaking],
    by simp [hunseen, made_cons, Event.news?], issuedSince i es, by rw [hunseen, hsince]; rfl,
    fun _ => by simp [hmet, hx], ?_⟩
  rw [hmet, hx]
  exact hsub.trans (List.sublist_append_right rest met)

end Follows

theorem follows_begun (h : ∀ e ∈ es, e.updated? ≠ some i) :
    Follows i (.subscribed i :: es) ⟨⟨made es⟩, false⟩ := by
  refine ⟨List.mem_cons_self .., by simp [isHalfway, Event.updated?, Event.isWaking], ?_, [], ?_,
    nofun, ?_⟩
  · simp [unseen, issuedAfter, Event.updated?, made_cons, Event.news?]
  · simp [issuedSince, unseen, issuedAfter, Event.begins, Event.updated?]
  · simp [received, Event.receipt?, received_eq_nil h]

end

/-! ## A channel and its history -/

namespace Channel

variable {c : Channel} {s : Subscription}

theorem next_of_lt (h : s.seen < c.version) : c.next s = (c.subscribe, .changed c.current) :=
  if_pos h

theorem next_of_not_lt (h : ¬ s.seen < c.version) :
    c.next s = (s, if c.isOpen then .pending else .closed) :=
  if_neg h

end Channel

/-- What the history says of a channel and of all its subscriptions. -/
structure Reflects (first : Membership) (es : List Event) (a : Audience) : Prop where
  current : a.channel.current = latest first es
  version : a.channel.version = made es
  publishers : a.publishers = publishers es
  isOpen : a.channel.isOpen = decide (0 < a.publishers)
  readers : ∀ i, Tracks i es (a.readers i)

theorem reflects_opened (first : Membership) : Reflects first [] (.opened first) :=
  ⟨rfl, rfl, rfl, rfl, fun _ _ h => nomatch h⟩

namespace Reflects

variable {first : Membership} {es : List Event} {a a' : Audience} {e : Event} {i : Nat}
  (h : Reflects first es a)
include h

theorem readers_cons (he : e.updated? = none) (i : Nat) : Tracks i (e :: es) (a.readers i) :=
  (h.readers i).aside (by simp [he])

/-- What a subscription does concerns no other one. -/
theorem update {r : Reader} (hr : Follows i (e :: es) r) (he : e.reader? = some i)
    (hold : e.news? = none)
    (hstaff : Membership.publishers (e :: es) = Membership.publishers es) :
    Reflects first (e :: es) { a with readers := Function.update a.readers i (some r) } := by
  refine ⟨?_, ?_, h.publishers.trans hstaff.symm, h.isOpen, fun j => ?_⟩
  · rw [latest_cons, hold]
    exact h.current
  · rw [made_cons, hold]
    exact h.version
  · show Tracks j (e :: es) (Function.update a.readers i (some r) j)
    rcases eq_or_ne j i with rfl | hj
    · rw [Function.update_self]
      exact hr
    · have hother : e.updated? ≠ some j := fun hu =>
        hj (Option.some.inj ((reader?_of_updated? hu).symm.trans he))
      rw [Function.update_of_ne hj]
      exact (h.readers j).aside hother

theorem follows {r : Reader} (hr : a.readers i = some r) : Follows i es r := by
  have htracks := h.readers i
  rwa [hr] at htracks

theorem unseen_ne_nil_iff {r : Reader} (hr : a.readers i = some r) :
    unseen i es ≠ [] ↔ r.subscription.seen < a.channel.version := by
  rw [(h.follows hr).unseen_ne_nil_iff, h.version]

theorem step (hs : Step a e a') : Reflects first (e :: es) a' := by
  cases hs with
  | published value hpos =>
      by_cases heq : a.channel.current = value
      · rw [Channel.publish, if_pos heq]
        exact ⟨h.current, h.version, h.publishers, h.isOpen, h.readers_cons rfl⟩
      · rw [Channel.publish, if_neg heq]
        refine ⟨rfl, ?_, h.publishers, h.isOpen, h.readers_cons rfl⟩
        simp [made_cons, Event.news?, h.version]
  | joined hpos =>
      have hstaff := congrArg (· + 1) h.publishers
      refine ⟨h.current, h.version, hstaff, ?_, h.readers_cons rfl⟩
      simp [h.isOpen, hpos]
  | @left n hn =>
      have hstaff : n = Membership.publishers (.left :: es) := by
        rw [Membership.publishers, ← h.publishers, hn]
        rfl
      by_cases hlast : n = 0
      · rw [if_pos hlast]
        exact ⟨h.current, h.version, hstaff, by simp [Channel.close, hlast],
          h.readers_cons rfl⟩
      · rw [if_neg hlast]
        refine ⟨h.current, h.version, hstaff, ?_, h.readers_cons rfl⟩
        rw [h.isOpen, hn]
        simp [Nat.pos_of_ne_zero hlast]
  | @subscribed i hpos hnew =>
      have htracks := h.readers i
      rw [hnew] at htracks
      rw [Channel.subscribe, h.version]
      exact h.update (follows_begun htracks) rfl rfl rfl
  | looked hr => exact ⟨h.current, h.version, h.publishers, h.isOpen, h.readers_cons rfl⟩
  | @asked i s hr =>
      by_cases hnews : s.seen < a.channel.version
      · have hunseen := (h.unseen_ne_nil_iff hr).mpr hnews
        rw [Channel.next_of_lt hnews, Channel.subscribe, h.version, h.current]
        exact h.update ((h.follows hr).receives (.inr hunseen) rfl (if_pos rfl) rfl rfl rfl)
          rfl rfl rfl
      · rw [Channel.next_of_not_lt hnews]
        have hstill : (Event.asked i (if a.channel.isOpen then .pending else .closed)).updated?
            = none := by
          split <;> rfl
        have hfollows := h.readers_cons hstill i
        rw [hr] at hfollows
        exact h.update hfollows rfl rfl rfl
  | @woken i s value hr hnews =>
      have hlt : s.seen < a.channel.version := by
        by_contra hnot
        rw [Channel.next_of_not_lt hnot] at hnews
        split at hnews <;> cases hnews
      rw [Channel.next_of_lt hlt, Channel.subscribe, h.version]
      exact h.update ((h.follows hr).wakes ((h.unseen_ne_nil_iff hr).mpr hlt)) rfl rfl rfl
  | @fetched i s hr =>
      rw [Channel.subscribe, h.version, h.current]
      exact h.update ((h.follows hr).receives (.inl rfl) rfl (if_pos rfl) rfl rfl rfl) rfl rfl rfl

end Reflects

theorem Past.reflects {first : Membership} {es : List Event} {a : Audience}
    (h : Past first es a) : Reflects first es a := by
  induction h with
  | opened => exact reflects_opened first
  | step _ hs ih => exact ih.step hs

/-! ## What is answered -/

namespace Reflects

variable {first : Membership} {es : List Event} {a : Audience} {i : Nat} (h : Reflects first es a)
include h

theorem published_iff (value : Membership) (news : Bool) :
    (∃ a', Step a (.published value news) a') ↔
      0 < Membership.publishers es ∧ (news = true ↔ value ≠ latest first es) := by
  have hnews : (a.channel.publish value).2 = true ↔ value ≠ latest first es := by
    rw [Channel.publish_eq_true_iff, h.current, ne_comm]
  rw [← h.publishers]
  constructor
  · rintro ⟨a', hs⟩
    cases hs with
    | published value hpos => exact ⟨hpos, hnews⟩
  · rintro ⟨hpos, hn⟩
    obtain rfl : (a.channel.publish value).2 = news := Bool.eq_iff_iff.mpr (hnews.trans hn.symm)
    exact ⟨_, .published value hpos⟩

/-- What was published is the latest value, new or not. -/
theorem latest_published {value : Membership} {news : Bool} {a' : Audience}
    (hs : Step a (.published value news) a') :
    latest first (.published value news :: es) = value := by
  rw [← (h.step hs).current]
  cases hs with
  | published value hpos => exact Channel.current_publish a.channel value

theorem looked_iff (value : Membership) (a' : Audience) : Step a (.looked i value) a' ↔
    .subscribed i ∈ es ∧ value = latest first es ∧ a' = a := by
  constructor
  · intro hs
    cases hs with
    | looked hr => exact ⟨(h.follows hr).subscribed, h.current, rfl⟩
  · rintro ⟨hsubscribed, rfl, rfl⟩
    have htracks := h.readers i
    cases hr : a'.readers i with
    | none =>
        rw [hr] at htracks
        exact absurd hsubscribed (subscribed_not_mem htracks)
    | some r =>
        rw [← h.current]
        exact .looked hr

theorem answers_iff {s : Subscription} {halfway : Bool} (hr : a.readers i = some ⟨s, halfway⟩)
    (answer : Change) : Answers first es i answer ↔ (a.channel.next s).2 = answer := by
  have hunseen := h.unseen_ne_nil_iff hr
  by_cases hlt : s.seen < a.channel.version
  · have hsome := hunseen.mpr hlt
    rw [Channel.next_of_lt hlt, h.current]
    cases answer <;> simp [Answers, hsome, eq_comm]
  · have hnone : unseen i es = [] := not_not.mp fun hne => hlt (hunseen.mp hne)
    rw [Channel.next_of_not_lt hlt, h.isOpen, h.publishers]
    by_cases hpos : 0 < Membership.publishers es
    · cases answer <;> simp [Answers, hnone, hpos, Nat.ne_of_gt hpos]
    · cases answer <;> simp [Answers, hnone, Nat.eq_zero_of_not_pos hpos]

theorem asked_iff (answer : Change) : (∃ a', Step a (.asked i answer) a') ↔
    Stands i es false ∧ Answers first es i answer := by
  rw [stands_iff (h.readers i)]
  constructor
  · rintro ⟨a', hs⟩
    cases hs with
    | asked hr => exact ⟨⟨_, hr⟩, (h.answers_iff hr _).mpr rfl⟩
  · rintro ⟨⟨s, hr⟩, hanswer⟩
    obtain rfl := (h.answers_iff hr answer).mp hanswer
    exact ⟨_, .asked hr⟩

theorem woken_iff : (∃ a', Step a (.woken i) a') ↔ Stands i es false ∧ unseen i es ≠ [] := by
  rw [stands_iff (h.readers i)]
  constructor
  · rintro ⟨a', hs⟩
    cases hs with
    | woken hr hnews => exact ⟨⟨_, hr⟩, ((h.answers_iff hr _).mpr hnews).1⟩
  · rintro ⟨⟨s, hr⟩, hunseen⟩
    exact ⟨_, .woken hr ((h.answers_iff hr (.changed (latest first es))).mp ⟨hunseen, rfl⟩)⟩

theorem fetched_iff (value : Membership) : (∃ a', Step a (.fetched i value) a') ↔
    Stands i es true ∧ value = latest first es := by
  rw [stands_iff (h.readers i), ← h.current]
  constructor
  · rintro ⟨a', hs⟩
    cases hs with
    | fetched hr => exact ⟨⟨_, hr⟩, rfl⟩
  · rintro ⟨⟨s, hr⟩, rfl⟩
    exact ⟨_, .fetched hr⟩

theorem received_sublist (i : Nat) : (received i es).Sublist (issuedSince i es) := by
  have htracks := h.readers i
  cases hr : a.readers i with
  | none =>
      rw [hr] at htracks
      rw [received_eq_nil htracks]
      exact List.nil_sublist _
  | some r => exact (h.follows hr).received_sublist

end Reflects

/-! ## Subscriptions beside each other -/

/-- Two audiences of channels that agree, with some of the subscriptions in common. -/
structure Alike (keep : Nat → Bool) (a b : Audience) : Prop where
  channel : a.channel = b.channel
  publishers : a.publishers = b.publishers
  readers : ∀ i, keep i = true → a.readers i = b.readers i

def Event.isKept (keep : Nat → Bool) (e : Event) : Bool := e.reader?.all keep

section

variable {keep : Nat → Bool} {a a' b : Audience} {e : Event}

theorem update_of_keep {f g : Nat → Option Reader} (h : ∀ i, keep i = true → f i = g i) (i : Nat)
    (o : Option Reader) : ∀ j, keep j = true → update f i o j = update g i o j := by
  intro j hj
  rw [Function.update_apply, Function.update_apply, h j hj]

theorem update_of_not_keep {f g : Nat → Option Reader} (h : ∀ i, keep i = true → f i = g i)
    {i : Nat} (hi : keep i = false) (o : Option Reader) :
    ∀ j, keep j = true → update f i o j = g j := by
  intro j hj
  have hne : j ≠ i := by
    rintro rfl
    rw [hi] at hj
    cases hj
  rw [Function.update_of_ne hne, h j hj]

/-- A step of a subscription that is left out changes nothing for the others. -/
theorem Step.leave_out (hs : Step a e a') (h : Alike keep a b) (he : e.isKept keep = false) :
    Alike keep a' b := by
  obtain ⟨hchannel, hstaff, hreaders⟩ := h
  cases hs with
  | published | joined | left => cases he
  | looked => exact ⟨hchannel, hstaff, hreaders⟩
  | subscribed | asked | woken | fetched =>
      exact ⟨hchannel, hstaff, update_of_not_keep hreaders he _⟩

/-- Every other step is possible without it, with the same answer. -/
theorem Step.retain (hs : Step a e a') (h : Alike keep a b) (he : e.isKept keep = true) :
    ∃ b', Step b e b' ∧ Alike keep a' b' := by
  obtain ⟨c, n, g⟩ := b
  obtain ⟨hchannel, hstaff, hreaders⟩ := h
  dsimp only at hchannel hstaff hreaders
  subst hchannel hstaff
  cases hs with
  | published value hpos => exact ⟨_, .published value hpos, rfl, rfl, hreaders⟩
  | joined hpos => exact ⟨_, .joined hpos, rfl, rfl, hreaders⟩
  | left hn => exact ⟨_, .left hn, rfl, rfl, hreaders⟩
  | subscribed hpos hnew =>
      exact ⟨_, .subscribed hpos ((hreaders _ he).symm.trans hnew), rfl, rfl,
        update_of_keep hreaders _ _⟩
  | looked hr => exact ⟨_, .looked ((hreaders _ he).symm.trans hr), rfl, rfl, hreaders⟩
  | asked hr =>
      exact ⟨_, .asked ((hreaders _ he).symm.trans hr), rfl, rfl, update_of_keep hreaders _ _⟩
  | woken hr hnews =>
      exact ⟨_, .woken ((hreaders _ he).symm.trans hr) hnews, rfl, rfl,
        update_of_keep hreaders _ _⟩
  | fetched hr =>
      exact ⟨_, .fetched ((hreaders _ he).symm.trans hr), rfl, rfl, update_of_keep hreaders _ _⟩

end

/-- Subscriptions can be left out of a history, with all that they do, and the rest is a history
as well. -/
theorem Past.retain {first : Membership} {es : List Event} {a : Audience} (h : Past first es a)
    (keep : Nat → Bool) : ∃ b, Past first (es.filter (·.isKept keep)) b ∧ Alike keep a b := by
  induction h with
  | opened => exact ⟨_, .opened, rfl, rfl, fun _ _ => rfl⟩
  | @step es e a a' _ hs ih =>
      obtain ⟨b, hb, halike⟩ := ih
      cases he : e.isKept keep with
      | true =>
          obtain ⟨b', hs', halike'⟩ := hs.retain halike he
          rw [List.filter_cons_of_pos he]
          exact ⟨b', .step hb hs', halike'⟩
      | false =>
          rw [List.filter_cons_of_neg (by simp [he])]
          exact ⟨b, hb, hs.leave_out halike he⟩

/-! ## The whole -/

/-- What those who use a channel are told, whatever has happened on it. A value is news when it
differs from the latest one, which it then is. A look gives the latest value and changes nothing.
What a subscription receives are values that came after it was made, in their order and each
version once. A wait gives the latest value if there are unseen ones; else it is pending while
there is a publisher, and closed when there is none. All this would be the same without any of the
other subscriptions. -/
theorem audience_served {first : Membership} {es : List Event} {a : Audience}
    (h : Past first es a) :
    (∀ value news, (∃ a', Step a (.published value news) a') ↔
      0 < publishers es ∧ (news = true ↔ value ≠ latest first es))
    ∧ (∀ value news a', Step a (.published value news) a' →
      latest first (.published value news :: es) = value)
    ∧ (∀ i value a', Step a (.looked i value) a' ↔
      .subscribed i ∈ es ∧ value = latest first es ∧ a' = a)
    ∧ (∀ i, (received i es).Sublist (issuedSince i es)
      ∧ (received i es).Pairwise fun x y => y.1 < x.1)
    ∧ (∀ i answer, (∃ a', Step a (.asked i answer) a') ↔
      Stands i es false ∧ Answers first es i answer)
    ∧ (∀ i, (∃ a', Step a (.woken i) a') ↔ Stands i es false ∧ unseen i es ≠ [])
    ∧ (∀ i value, (∃ a', Step a (.fetched i value) a') ↔
      Stands i es true ∧ value = latest first es)
    ∧ ∀ keep, ∃ b, Past first (es.filter (·.isKept keep)) b ∧ Alike keep a b := by
  have hr := h.reflects
  refine ⟨hr.published_iff, fun _ _ _ => hr.latest_published, fun _ => hr.looked_iff, fun i => ?_,
    fun _ => hr.asked_iff, fun _ => hr.woken_iff, fun _ => hr.fetched_iff, h.retain⟩
  exact ⟨hr.received_sublist i, (pairwise_issuedAfter _ es).sublist (hr.received_sublist i)⟩

def calm : Membership := default

def busy : Membership := { (default : Membership) with members := ["b:1"] }

/-- A value comes, goes and comes back, the last time between the two halves of a wait. -/
def storm : List Event :=
  [.fetched 0 busy, .published busy true, .woken 0, .published calm true, .asked 0 (.changed busy),
    .published busy false, .published busy true, .subscribed 0]

theorem past_storm : ∃ a, Past calm storm a := by
  have hsubscribed : Past calm [.subscribed 0] _ := .step .opened (.subscribed (by decide) rfl)
  obtain ⟨_, hs⟩ := (hsubscribed.reflects.published_iff busy true).mpr (by decide)
  have hfirst := hsubscribed.step hs
  obtain ⟨_, hs⟩ := (hfirst.reflects.published_iff busy false).mpr (by decide)
  have hagain := hfirst.step hs
  obtain ⟨_, hs⟩ := (hagain.reflects.asked_iff (i := 0) (.changed busy)).mpr
    ⟨⟨by simp, rfl⟩, by decide, rfl⟩
  have hasked := hagain.step hs
  obtain ⟨_, hs⟩ := (hasked.reflects.published_iff calm true).mpr (by decide)
  have hback := hasked.step hs
  obtain ⟨_, hs⟩ := (hback.reflects.woken_iff (i := 0)).mpr ⟨⟨by simp, rfl⟩, by decide⟩
  have hwoken := hback.step hs
  obtain ⟨_, hs⟩ := (hwoken.reflects.published_iff busy true).mpr (by decide)
  have hlast := hwoken.step hs
  obtain ⟨_, hs⟩ := (hlast.reflects.fetched_iff (i := 0) busy).mpr ⟨⟨by simp, rfl⟩, rfl⟩
  exact ⟨_, hlast.step hs⟩

/-- The value that came back is received as another version, and then there is nothing to wait
for. -/
theorem storm_served : ∃ a, Past calm storm a ∧ received 0 storm = [(3, busy), (1, busy)]
    ∧ (received 0 storm).Sublist [(3, busy), (2, calm), (1, busy)]
    ∧ (∃ a', Step a (.asked 0 .pending) a')
    ∧ ¬∃ a', Step a (.published busy true) a' := by
  obtain ⟨a, ha⟩ := past_storm
  obtain ⟨hpublished, -, -, hreceived, hasked, -⟩ := audience_served ha
  refine ⟨a, ha, rfl, (hreceived 0).1, (hasked 0 .pending).mpr ?_, ?_⟩
  · exact ⟨⟨by simp [storm], rfl⟩, rfl, by decide⟩
  · rw [hpublished]
    rintro ⟨-, hnews⟩
    exact hnews.mp rfl rfl

end Conclave.Membership
