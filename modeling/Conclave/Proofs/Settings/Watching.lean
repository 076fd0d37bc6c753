import Conclave.Proofs.Outcome
import Conclave.Settings.Watcher
import Mathlib.Logic.Relation

/-!
# Every version of a watched file counts

A watcher looks at a file in two steps: it reads when the file was written, and then what is in it.
The file may be replaced or removed at any moment, also between the two. `Move` lists all these
steps one by one, and a `Poll` is a whole look at the file with what happens to the file meanwhile.

The time is read first, and it is kept whatever the content is. So a watcher never believes that it
has read a later version than it has. `Tracks` is the invariant that says so: as long as the file
was written when the watcher believes, what was published last is what the file says, if it says
anything. A replacement brings a time that was never there before, and ends the belief.
-/

namespace Conclave.Settings

open Relation (ReflTransGen)

/-- A version of a file: when it was written, and its text. Not every content is a text. -/
structure Version where
  stamp : Stamp
  text : Option String
deriving DecidableEq, Repr

/-- The file as it is found, which has a version unless it is missing. -/
def found (extension : String) (v : Option Version) : File := ⟨extension, v.bind Version.text⟩

/-- The membership that a version of a file says. -/
def Version.membership (extension : String) (env : Environment) (v : Version) :
    Except Fault Membership :=
  Watcher.membership (found extension (some v)) env

namespace Watcher

/-! ## One look at a file -/

theorem membership_missing (extension : String) (env : Environment) :
    Watcher.membership (found extension none) env = .error (.misconfigured .unreadable) := rfl

section

variable {w w' : Watcher} {t : Option Stamp} {file : File} {env : Environment} {m : Membership}
  {b : Bool}

theorem isStale_eq_false_iff : w.isStale t = false ↔ t = none ∨ t = w.stamp := by
  cases t <;> simp [isStale]

theorem poll_of_not_isStale (h : w.isStale t = false) : w.poll t file env = (w, false) := by
  simp [poll, h]

/-- Content that says no membership is passed over, but for the time. -/
theorem poll_of_error {fault : Fault} (hs : w.isStale t = true)
    (h : Watcher.membership file env = .error fault) :
    w.poll t file env = ({ w with stamp := t }, false) := by
  simp [poll, hs, h]

theorem poll_of_ok (hs : w.isStale t = true) (h : Watcher.membership file env = .ok m) :
    w.poll t file env =
      ({ w with stamp := t, channel := (w.channel.publish m).1 }, (w.channel.publish m).2) := by
  simp [poll, hs, h]

/-- A poll tells of exactly those changes of what is published that it makes. -/
theorem poll_eq_true_iff (h : w.poll t file env = (w', b)) :
    b = true ↔ w'.channel.current ≠ w.channel.current := by
  cases hs : w.isStale t with
  | false =>
      rw [poll_of_not_isStale hs] at h
      obtain ⟨rfl, rfl⟩ := Prod.mk.inj h
      simp
  | true =>
      cases hm : Watcher.membership file env with
      | error fault =>
          rw [poll_of_error hs hm] at h
          obtain ⟨rfl, rfl⟩ := Prod.mk.inj h
          simp
      | ok m =>
          rw [poll_of_ok hs hm] at h
          obtain ⟨rfl, rfl⟩ := Prod.mk.inj h
          rw [Membership.Channel.publish_eq_true_iff, Membership.Channel.current_publish]
          exact ne_comm

/-- A poll that finds no file, an old version or one that says no membership leaves the channel
as it is. -/
theorem channel_of_poll (h : w.poll t file env = (w', b))
    (hnothing : t = none ∨ t = w.stamp ∨ ∃ fault, Watcher.membership file env = .error fault) :
    w'.channel = w.channel ∧ b = false := by
  rw [← or_assoc, ← isStale_eq_false_iff] at hnothing
  cases hs : w.isStale t with
  | false =>
      rw [poll_of_not_isStale hs] at h
      obtain ⟨rfl, rfl⟩ := Prod.mk.inj h
      exact ⟨rfl, rfl⟩
  | true =>
      obtain ⟨fault, hm⟩ := hnothing.resolve_left (by simp [hs])
      rw [poll_of_error hs hm] at h
      obtain ⟨rfl, rfl⟩ := Prod.mk.inj h
      exact ⟨rfl, rfl⟩

theorem ofFile_eq_ok (h : ofFile t file env = .ok w) :
    w.stamp = t ∧ Watcher.membership file env = .ok w.channel.current := by
  obtain ⟨s, hs, h⟩ := exists_of_bind_eq_ok h
  obtain ⟨m, hm, h⟩ := exists_of_bind_eq_ok h
  obtain rfl := Except.ok.inj h
  refine ⟨rfl, ?_⟩
  rw [Watcher.membership, hs]
  exact hm

/-- A watcher is opened with every file that says a membership. -/
theorem exists_ofFile (t : Option Stamp) (h : Watcher.membership file env = .ok m) :
    ∃ w, ofFile t file env = .ok w ∧ w.stamp = t ∧ w.channel = .new m := by
  obtain ⟨s, hs, hm⟩ := exists_of_bind_eq_ok h
  refine ⟨⟨t, s, .new m⟩, ?_, rfl, rfl⟩
  rw [ofFile, hs]
  show s.membership >>= _ = _
  rw [hm]
  rfl

end

/-! ## A watcher beside a file that changes -/

/-- How far a watcher is. -/
inductive Phase where
  | unopened
  /-- The time has been read, and the content has not. -/
  | opening (stamp : Option Stamp)
  | refused (fault : Fault)
  | waiting (w : Watcher)
  /-- The time has been read in a poll, and the content has not. -/
  | polling (w : Watcher) (stamp : Option Stamp)

/-- The version that a file has, unless there is no file; every version that it has had; the
versions that it had when its content was read; and how far the watcher is. -/
structure Scene where
  file : Option Version
  written : List Version
  read : List Version
  phase : Phase

/-- When the file was written. -/
def Scene.stamp (x : Scene) : Option Stamp := x.file.map Version.stamp

inductive Act where
  | replaced (v : Version)
  | removed
  | stamped
  | opened
  | refused
  | looked
  | polled (published : Bool)

/-- One step of the watcher, or a change of the file. No two versions were written at the same
time. -/
inductive Move (extension : String) (env : Environment) : Scene → Act → Scene → Prop where
  | replaced {f : Option Version} {ws rs : List Version} {p : Phase} {v : Version} :
      (∀ u ∈ ws, u.stamp ≠ v.stamp) →
      Move extension env ⟨f, ws, rs, p⟩ (.replaced v) ⟨some v, v :: ws, rs, p⟩
  | removed {f : Option Version} {ws rs : List Version} {p : Phase} :
      Move extension env ⟨f, ws, rs, p⟩ .removed ⟨none, ws, rs, p⟩
  | stamped {f : Option Version} {ws rs : List Version} :
      Move extension env ⟨f, ws, rs, .unopened⟩ .stamped
        ⟨f, ws, rs, .opening (f.map Version.stamp)⟩
  | opened {f : Option Version} {ws rs : List Version} {t : Option Stamp} {w : Watcher} :
      ofFile t (found extension f) env = .ok w →
      Move extension env ⟨f, ws, rs, .opening t⟩ .opened ⟨f, ws, f.toList ++ rs, .waiting w⟩
  | refused {f : Option Version} {ws rs : List Version} {t : Option Stamp} {fault : Fault} :
      ofFile t (found extension f) env = .error fault →
      Move extension env ⟨f, ws, rs, .opening t⟩ .refused ⟨f, ws, f.toList ++ rs, .refused fault⟩
  | looked {f : Option Version} {ws rs : List Version} {w : Watcher} :
      Move extension env ⟨f, ws, rs, .waiting w⟩ .looked
        ⟨f, ws, rs, .polling w (f.map Version.stamp)⟩
  | polled {f : Option Version} {ws rs : List Version} {w w' : Watcher} {t : Option Stamp}
      {b : Bool} : w.poll t (found extension f) env = (w', b) →
      Move extension env ⟨f, ws, rs, .polling w t⟩ (.polled b)
        ⟨f, ws, if w.isStale t then f.toList ++ rs else rs, .waiting w'⟩

/-- What steps of any kind and in any order lead to. -/
def Reaches (extension : String) (env : Environment) : Scene → Scene → Prop :=
  ReflTransGen fun x y => ∃ a, Move extension env x a y

/-- What changes of the file lead to. -/
def Changes (extension : String) (env : Environment) : Scene → Scene → Prop :=
  ReflTransGen fun x y =>
    (∃ v, Move extension env x (.replaced v) y) ∨ Move extension env x .removed y

/-- A poll by a watcher that begins in the scene `x`, reads the content in the scene `y`, and has
come to its end in the scene `z`. -/
structure Poll (extension : String) (env : Environment) (w : Watcher) (x y z : Scene)
    (published : Bool) : Prop where
  begun : x.phase = .waiting w
  meanwhile : Changes extension env { x with phase := .polling w x.stamp } y
  ended : Move extension env y (.polled published) z

/-- Before a watcher is opened. -/
structure Scene.Initial (x : Scene) : Prop where
  phase : x.phase = .unopened
  read : x.read = []
  written : ∀ v, x.file = some v → v ∈ x.written

/-! ## What a watcher believes -/

/-- The watcher in a phase. -/
def Phase.watcher? : Phase → Option Watcher
  | .waiting w | .polling w _ => some w
  | _ => none

/-- The time that a step under way has read. -/
def Phase.stamp? : Phase → Option Stamp
  | .opening t | .polling _ t => t
  | _ => none

/-- What a watcher has published, and what it believes about the file. -/
structure Tracks (extension : String) (env : Environment) (x : Scene) (w : Watcher) : Prop where
  stamp : ∀ t, w.stamp = some t → ∃ v ∈ x.written, v.stamp = t
  origin : ∃ v ∈ x.read, v.membership extension env = .ok w.channel.current
  upToDate : ∀ v m, x.file = some v → w.stamp = some v.stamp →
    v.membership extension env = .ok m → w.channel.current = m

/-- The invariant of all scenes. -/
structure Scene.Sound (extension : String) (env : Environment) (x : Scene) : Prop where
  file : ∀ v, x.file = some v → v ∈ x.written
  read : ∀ v ∈ x.read, v ∈ x.written
  stamp : ∀ t, x.phase.stamp? = some t → ∃ v ∈ x.written, v.stamp = t
  watcher : ∀ w, x.phase.watcher? = some w → Tracks extension env x w

variable {extension : String} {env : Environment} {x x₀ y z : Scene} {w : Watcher}

theorem Scene.Initial.sound (h : x.Initial) : x.Sound extension env where
  file := h.written
  read := by simp [h.read]
  stamp := by simp [h.phase, Phase.stamp?]
  watcher := by simp [h.phase, Phase.watcher?]

theorem Scene.Sound.stamped (h : x.Sound extension env) {t : Stamp} (ht : x.stamp = some t) :
    ∃ v ∈ x.written, v.stamp = t := by
  obtain ⟨v, hv, hstamp⟩ := Option.map_eq_some_iff.mp ht
  exact ⟨v, h.file v hv, hstamp⟩

/-- The version whose content was just read is among those that the file has had. -/
theorem Scene.Sound.read_append (h : x.Sound extension env) :
    ∀ v ∈ x.file.toList ++ x.read, v ∈ x.written := by
  intro v hv
  rcases List.mem_append.mp hv with hfile | hread
  · exact h.file v (Option.mem_toList.mp hfile)
  · exact h.read v hread

/-- What was just read as a membership is the content of a version. -/
theorem exists_read {f : Option Version} {m : Membership}
    (h : Watcher.membership (found extension f) env = .ok m) :
    ∃ v, f = some v ∧ v.membership extension env = .ok m := by
  cases f with
  | none =>
      rw [membership_missing] at h
      cases h
  | some v => exact ⟨v, rfl, h⟩

namespace Tracks

variable {f : Option Version} {ws rs : List Version} {p : Phase}

/-- A version that comes into place was not written when the watcher believes. -/
theorem replaced {v : Version} (h : Tracks extension env ⟨f, ws, rs, p⟩ w)
    (hnew : ∀ u ∈ ws, u.stamp ≠ v.stamp) :
    Tracks extension env ⟨some v, v :: ws, rs, p⟩ w where
  stamp := by
    intro t ht
    obtain ⟨u, hu, hstamp⟩ := h.stamp t ht
    exact ⟨u, List.mem_cons_of_mem _ hu, hstamp⟩
  origin := h.origin
  upToDate := by
    intro u m hu ht _
    obtain rfl := Option.some.inj hu
    obtain ⟨old, hold, hstamp⟩ := h.stamp _ ht
    exact absurd hstamp (hnew old hold)

theorem removed (h : Tracks extension env ⟨f, ws, rs, p⟩ w) :
    Tracks extension env ⟨none, ws, rs, p⟩ w where
  stamp := h.stamp
  origin := h.origin
  upToDate := fun _ _ hnone => nomatch hnone

theorem opened {t : Option Stamp} {q : Phase} (h : ofFile t (found extension f) env = .ok w)
    (ht : ∀ s, t = some s → ∃ v ∈ ws, v.stamp = s) :
    Tracks extension env ⟨f, ws, f.toList ++ rs, q⟩ w := by
  obtain ⟨rfl, hm⟩ := ofFile_eq_ok h
  obtain ⟨v, rfl, hv⟩ := exists_read hm
  refine ⟨ht, ⟨v, by simp, hv⟩, ?_⟩
  intro u m hu _ hum
  obtain rfl := Option.some.inj hu
  rw [hv] at hum
  exact Except.ok.inj hum

/-- The step that carries the invariant: the watcher takes over the time that it has read, and the
content that it finds now is the one that the file has. -/
theorem polled {t : Option Stamp} {w' : Watcher} {b : Bool} {q : Phase}
    (h : Tracks extension env ⟨f, ws, rs, p⟩ w) (ht : ∀ s, t = some s → ∃ v ∈ ws, v.stamp = s)
    (hpoll : w.poll t (found extension f) env = (w', b)) :
    Tracks extension env ⟨f, ws, if w.isStale t then f.toList ++ rs else rs, q⟩ w' := by
  cases hs : w.isStale t with
  | false =>
      rw [poll_of_not_isStale hs] at hpoll
      obtain ⟨rfl, -⟩ := Prod.mk.inj hpoll
      exact ⟨h.stamp, h.origin, h.upToDate⟩
  | true =>
      cases hm : Watcher.membership (found extension f) env with
      | error fault =>
          rw [poll_of_error hs hm] at hpoll
          obtain ⟨rfl, -⟩ := Prod.mk.inj hpoll
          obtain ⟨v, hv, horigin⟩ := h.origin
          refine ⟨ht, ⟨v, List.mem_append_right _ hv, horigin⟩, ?_⟩
          intro u m hu _ hum
          have hfile : f = some u := hu
          rw [hfile] at hm
          exact nomatch hm.symm.trans hum
      | ok m =>
          rw [poll_of_ok hs hm] at hpoll
          obtain ⟨rfl, -⟩ := Prod.mk.inj hpoll
          obtain ⟨v, rfl, hv⟩ := exists_read hm
          refine ⟨ht, ⟨v, by simp, ?_⟩, ?_⟩
          · rw [hv, Membership.Channel.current_publish]
          · intro u m' hu _ hum
            obtain rfl := Option.some.inj hu
            rw [Membership.Channel.current_publish]
            rw [hv] at hum
            exact Except.ok.inj hum

end Tracks

theorem Scene.Sound.move (h : x.Sound extension env) {a : Act} (hmove : Move extension env x a y) :
    y.Sound extension env := by
  cases hmove with
  | @replaced f ws rs p v hnew =>
      refine ⟨?_, fun u hu => List.mem_cons_of_mem _ (h.read u hu), ?_,
        fun w hw => (h.watcher w hw).replaced hnew⟩
      · intro u hu
        obtain rfl := Option.some.inj hu
        exact List.mem_cons_self ..
      · intro t ht
        obtain ⟨u, hu, hstamp⟩ := h.stamp t ht
        exact ⟨u, List.mem_cons_of_mem _ hu, hstamp⟩
  | removed =>
      refine ⟨?_, h.read, h.stamp, fun w hw => (h.watcher w hw).removed⟩
      intro v hv
      cases hv
  | stamped =>
      refine ⟨h.file, h.read, fun t ht => h.stamped ht, ?_⟩
      intro w hw
      cases hw
  | opened hopen =>
      refine ⟨h.file, h.read_append, ?_, ?_⟩
      · intro t ht
        cases ht
      · intro w hw
        obtain rfl := Option.some.inj hw
        exact .opened hopen h.stamp
  | refused _ =>
      refine ⟨h.file, h.read_append, ?_, ?_⟩
      · intro t ht
        cases ht
      · intro w hw
        cases hw
  | looked =>
      refine ⟨h.file, h.read, fun t ht => h.stamped ht, ?_⟩
      intro w hw
      have htracks := h.watcher w hw
      exact ⟨htracks.stamp, htracks.origin, htracks.upToDate⟩
  | @polled f ws rs w w' t b hpoll =>
      refine ⟨h.file, ?_, ?_, ?_⟩
      · intro v hv
        dsimp only at hv
        split at hv
        · exact h.read_append v hv
        · exact h.read v hv
      · intro s hs
        cases hs
      · intro u hu
        obtain rfl := Option.some.inj hu
        exact (h.watcher w rfl).polled h.stamp hpoll

theorem Scene.Sound.reaches (h : x.Sound extension env) (hway : Reaches extension env x y) :
    y.Sound extension env := by
  induction hway with
  | refl => exact h
  | tail _ hstep ih =>
      obtain ⟨a, hmove⟩ := hstep
      exact ih.move hmove

/-! ## Whole polls -/

theorem phase_of_changes (h : Changes extension env x y) : y.phase = x.phase := by
  induction h with
  | refl => rfl
  | tail _ hstep ih =>
      obtain ⟨v, hmove⟩ | hmove := hstep <;> cases hmove <;> exact ih

/-- In the middle of a poll the scene in which it began can be found. -/
theorem begun_of_polling (h₀ : x₀.Initial) (h : Reaches extension env x₀ y) {t : Option Stamp}
    (hphase : y.phase = .polling w t) : ∃ x, Reaches extension env x₀ x ∧ x.phase = .waiting w
      ∧ x.stamp = t ∧ Changes extension env { x with phase := .polling w t } y := by
  induction h with
  | refl =>
      rw [h₀.phase] at hphase
      cases hphase
  | @tail u v hway hstep ih =>
      obtain ⟨a, hmove⟩ := hstep
      cases hmove with
      | replaced hnew =>
          obtain ⟨x, hx, hwaiting, hstamp, hchanges⟩ := ih hphase
          exact ⟨x, hx, hwaiting, hstamp, hchanges.tail (.inl ⟨_, .replaced hnew⟩)⟩
      | removed =>
          obtain ⟨x, hx, hwaiting, hstamp, hchanges⟩ := ih hphase
          exact ⟨x, hx, hwaiting, hstamp, hchanges.tail (.inr .removed)⟩
      | looked =>
          cases hphase
          exact ⟨_, hway, rfl, rfl, .refl⟩
      | stamped | opened | refused | polled => cases hphase

theorem Poll.exists_poll {b : Bool} (h : Poll extension env w x y z b) :
    ∃ w', z.phase = .waiting w' ∧ w.poll x.stamp (found extension y.file) env = (w', b) := by
  have hphase := phase_of_changes h.meanwhile
  have hended := h.ended
  cases hended with
  | polled hpoll =>
      cases hphase
      exact ⟨_, rfl, hpoll⟩

/-- A poll during which the file stays as it is publishes what the file says. -/
theorem current_of_poll {w' : Watcher} {b : Bool} {v : Version} {m : Membership}
    (h : Tracks extension env x w) (hv : x.file = some v)
    (hm : v.membership extension env = .ok m)
    (hpoll : w.poll x.stamp (found extension (some v)) env = (w', b)) :
    w'.channel.current = m := by
  have hstamp : x.stamp = some v.stamp := by rw [Scene.stamp, hv, Option.map_some]
  cases hs : w.isStale x.stamp with
  | false =>
      rw [poll_of_not_isStale hs] at hpoll
      obtain ⟨rfl, -⟩ := Prod.mk.inj hpoll
      -- the time is the one of the version that was read last
      rw [hstamp, isStale_eq_false_iff] at hs
      have hsame : some v.stamp = w.stamp := hs.resolve_left (Option.some_ne_none _)
      exact h.upToDate v m hv hsame.symm hm
  | true =>
      rw [poll_of_ok hs hm] at hpoll
      obtain ⟨rfl, -⟩ := Prod.mk.inj hpoll
      exact Membership.Channel.current_publish ..

/-! ## No version is missed -/

/-- Whatever happens to a watched file and whenever it happens: what is published is what some
version says that the file had when its content was read. A poll tells whether it published
anything new. It leaves what is published when it finds no file, a version that was read before, or
one that says no membership. A poll during which the file is not touched publishes what the file
says, whatever was missed before. Nothing else is a poll. -/
theorem versions_published (h₀ : x₀.Initial) (h : Reaches extension env x₀ x) :
    (∀ w, x.phase.watcher? = some w → ∃ v ∈ x.read, v ∈ x.written
      ∧ v.membership extension env = .ok w.channel.current)
    ∧ (∀ w y z b, Poll extension env w x y z b → ∃ w', z.phase = .waiting w'
      ∧ (b = true ↔ w'.channel.current ≠ w.channel.current)
      ∧ (x.stamp = none ∨ x.stamp = w.stamp
          ∨ (∃ fault, Watcher.membership (found extension y.file) env = .error fault) →
        w'.channel = w.channel ∧ b = false)
      ∧ ∀ v m, x.file = some v → y.file = some v → v.membership extension env = .ok m →
        w'.channel.current = m)
    ∧ ∀ z b, Move extension env x (.polled b) z →
      ∃ w u, Reaches extension env x₀ u ∧ Poll extension env w u x z b := by
  have hsound : x.Sound extension env := h₀.sound.reaches h
  refine ⟨?_, ?_, ?_⟩
  · intro w hw
    obtain ⟨v, hv, horigin⟩ := (hsound.watcher w hw).origin
    exact ⟨v, hv, hsound.read v hv, horigin⟩
  · intro w y z b hwhole
    obtain ⟨w', hend, hpoll⟩ := hwhole.exists_poll
    refine ⟨w', hend, poll_eq_true_iff hpoll, channel_of_poll hpoll, ?_⟩
    intro v m hx hy hm
    have htracks : Tracks extension env x w :=
      hsound.watcher w (by rw [hwhole.begun, Phase.watcher?])
    rw [hy] at hpoll
    exact current_of_poll htracks hx hm hpoll
  · intro z b hmove
    have hend := hmove
    cases hend with
    | @polled f ws rs w w' t b hpoll =>
        obtain ⟨u, hu, hwaiting, rfl, hchanges⟩ := begun_of_polling h₀ h rfl
        exact ⟨w, u, hu, hwaiting, hchanges, hmove⟩

/-! ### A race

The time of a version that says no membership is read, the next version is in its place when the
content is read, and then the third one comes. -/

def flawed : Version := ⟨1, some "[raftline.cluster]\nmembers = a\n"⟩

def lone : Version := ⟨2, some "[raftline.cluster]\nmembers = a:1\n"⟩

def paired : Version := ⟨3, some "[raftline.cluster]\nmembers = a:1, b:2\n"⟩

theorem membership_lone :
    lone.membership "ini" [] = .ok ⟨["a:1"], StringMap.empty, .everyone⟩ :=
  eq_ok_of_toOption (by decide +kernel)

theorem membership_paired :
    paired.membership "ini" [] = .ok ⟨["a:1", "b:2"], StringMap.empty, .everyone⟩ :=
  eq_ok_of_toOption (by decide +kernel)

def beforeRace : Scene := ⟨some flawed, [flawed], [], .unopened⟩

/-- The race leads to a scene from which a poll publishes the third version. -/
theorem race_won : ∃ w x z, beforeRace.Initial ∧ Reaches "ini" [] beforeRace x
    ∧ Poll "ini" [] w x { x with phase := .polling w (some 3) } z true
    ∧ w.stamp = some 1 ∧ x.file = some paired
    ∧ ∃ w', z.phase = .waiting w' ∧ w'.channel.current.members = ["a:1", "b:2"] := by
  have hinitial : beforeRace.Initial := ⟨rfl, rfl, by simp [beforeRace]⟩
  obtain ⟨w, hopen, hstamp, hchannel⟩ := exists_ofFile (some 1) membership_lone
  let x : Scene := ⟨some paired, [paired, lone, flawed], [lone], .waiting w⟩
  have hway : Reaches "ini" [] beforeRace x :=
    (((ReflTransGen.single ⟨_, .stamped⟩).tail
      ⟨.replaced lone, .replaced (by decide)⟩).tail ⟨_, .opened hopen⟩).tail
        ⟨.replaced paired, .replaced (by decide)⟩
  have hstale : w.isStale (some 3) = true := by rw [isStale, hstamp]; rfl
  have hpoll := poll_of_ok hstale membership_paired
  have hpublished : (w.channel.publish ⟨["a:1", "b:2"], StringMap.empty, .everyone⟩).2 = true := by
    rw [hchannel]
    decide
  rw [hpublished] at hpoll
  have hwhole : Poll "ini" [] w x { x with phase := .polling w (some 3) } _ true :=
    ⟨rfl, .refl, .polled hpoll⟩
  obtain ⟨-, hpolls, -⟩ := versions_published hinitial hway
  obtain ⟨w', hend, -, -, hcurrent⟩ := hpolls w _ _ _ hwhole
  exact ⟨w, x, _, hinitial, hway, hwhole, hstamp, rfl, w', hend,
    congrArg Membership.members (hcurrent paired _ rfl rfl membership_paired)⟩

end Watcher

end Conclave.Settings
