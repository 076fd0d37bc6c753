import Conclave.Node.Configured
import Conclave.Proofs.Outcome
import Conclave.Rehearsal.World
import Mathlib.Algebra.Group.Int.Defs

/-!
# Building a node from settings

Numbers of settings are signed, and those that stand for sizes and times are taken without a sign:
a negative one wraps around to the upper half of the range (`toNat_unsigned`). Most of them are
only kept when a node is built. The time for which identities are remembered has a bound, though,
and nothing keeps a setting below it: a node that could be built otherwise crashes when its time is
beyond the bound or negative, and no other setting makes it crash (`build_crashes_iff`).
-/

namespace Conclave

/-! ## Numbers without a sign -/

namespace Settings

theorem toNat_ofInt (n : Int) : ((UInt64.ofInt n).toNat : Int) = n % 2 ^ 64 := by
  rw [UInt64.ofInt, UInt64.toNat_ofNat']
  omega

/-- A signed number of 64 bits is kept as it is, or lies beyond all signed ones when it is
negative. -/
theorem toNat_unsigned (s : Settings) (path : Path) (otherwise : Nat)
    (hleast : -signed64 ≤ s.int path otherwise) (hmost : s.int path otherwise < signed64) :
    ((s.unsigned path otherwise).toNat : Int) =
      if s.int path otherwise < 0 then s.int path otherwise + 2 * signed64
      else s.int path otherwise := by
  have hbound : signed64 = 2 ^ 63 := rfl
  rw [unsigned, toNat_ofInt]
  split <;> omega

/-- No setting is read as a number beyond the signed ones. -/
theorem toInt?_lt {v : Value} {n : Int} (h : v.toInt? = some n) : n < signed64 := by
  cases v with
  | bool b =>
      obtain rfl := Option.some.inj h
      split <;> decide
  | int m =>
      rw [Value.toInt?] at h
      split at h
      · obtain rfl := Option.some.inj h
        assumption
      · cases h
  | float x =>
      obtain rfl := Option.some.inj h
      have hbound : signed64 = 2 ^ 63 := rfl
      unfold Binary64.toInt64
      split
      · dsimp only
        omega
      · split <;> decide
      · decide
  | text t =>
      simp only [Value.toInt?] at h
      split at h
      · obtain rfl := Option.some.inj h
        decide
      · split at h
        · obtain rfl := Option.some.inj h
          decide
        · simp only [Text.readInt64?, Text.readInt?, Option.filter_eq_some_iff] at h
          simpa using (of_decide_eq_true h.2).2
  | nothing | list | table => cases h

theorem int_lt (s : Settings) (path : Path) {otherwise : Int} (h : otherwise < signed64) :
    s.int path otherwise < signed64 := by
  unfold int
  cases hv : (s.get? path).bind Value.toInt? with
  | none => exact h
  | some n =>
      obtain ⟨v, -, hn⟩ := Option.bind_eq_some_iff.mp hv
      exact toInt?_lt hn

theorem retention_of_options {s : Settings} {o : Options} (h : s.options = .ok o) :
    o.retention = s.retention := by
  obtain ⟨version, -, h⟩ := exists_of_bind_eq_ok h
  rw [← Except.ok.inj h]

/-- The time for which identities are to be remembered is too long exactly when its setting is
negative or beyond the longest time. -/
theorem longestRetention_lt_iff (s : Settings)
    (h : -signed64 ≤ s.int (memoryPath "ttl-ms") 30000) :
    Node.Sightings.longestRetention < s.retention.toNat ↔
      s.int (memoryPath "ttl-ms") 30000 < 0
        ∨ (Node.Sightings.longestRetention : Int) < s.int (memoryPath "ttl-ms") 30000 := by
  have hlongest : (Node.Sightings.longestRetention : Int) = 31536000000000 := rfl
  have hbound : signed64 = 2 ^ 63 := rfl
  have hkept : (s.retention.toNat : Int) =
      if s.int (memoryPath "ttl-ms") 30000 < 0 then
        s.int (memoryPath "ttl-ms") 30000 + 2 * signed64
      else s.int (memoryPath "ttl-ms") 30000 :=
    toNat_unsigned s (memoryPath "ttl-ms") 30000 h (int_lt s _ (by decide))
  rw [← Int.ofNat_lt, hkept, hlongest]
  split <;> omega

end Settings

/-! ## The steps of building -/

namespace Node

open Settings
open Conclave.Membership (Channel)

variable {ω : Type} [Surroundings ω]

theorem build_eq (host : Host) (memory : Memory) (channel : Channel) (prepare : String → ω) :
    build host memory channel prepare =
      match host.resolve channel.current.members with
      | .error fault => .error (.refused fault)
      | .ok address =>
        match Surroundings.accept (prepare address) address with
        | .error fault => .error (.refused fault)
        | .ok _ =>
          if memory.retention ≤ Sightings.longestRetention then
            .ok (alone (prepare address) address ⟨memory.retention, memory.capacity, []⟩ channel)
          else .error .crashed := by
  unfold build
  cases host.resolve channel.current.members with
  | error fault => rfl
  | ok address =>
      simp only [Except.mapError, bind, Except.bind]
      cases Surroundings.accept (prepare address) address with
      | error fault => rfl
      | ok _ =>
          by_cases h : memory.retention ≤ Sightings.longestRetention <;>
            simp [Sightings.new?, h, pure, Except.pure]

/-- The local member of a host is found among the members, and can be made. -/
def FindsLocal (host : Host) (members : List String) (prepare : String → ω) : Prop :=
  ∃ address, host.resolve members = .ok address
    ∧ Surroundings.accept (prepare address) address = .ok ()

variable {host : Host} {channel : Channel} {prepare : String → ω}

theorem build_of_findsLocal (memory : Memory)
    (h : FindsLocal host channel.current.members prepare) :
    ∃ n, build host memory channel prepare =
      if memory.retention ≤ Sightings.longestRetention then .ok n else .error .crashed := by
  obtain ⟨address, hresolve, haccept⟩ := h
  refine ⟨alone (prepare address) address ⟨memory.retention, memory.capacity, []⟩ channel, ?_⟩
  rw [build_eq, hresolve]
  dsimp only
  rw [haccept]

/-- Without a local member building is refused. -/
theorem build_of_not_findsLocal (memory : Memory)
    (h : ¬ FindsLocal host channel.current.members prepare) :
    ∃ fault, build host memory channel prepare = .error (.refused fault) := by
  rw [build_eq]
  cases hresolve : host.resolve channel.current.members with
  | error fault => exact ⟨fault, rfl⟩
  | ok address =>
      dsimp only
      cases haccept : Surroundings.accept (prepare address) address with
      | error fault => exact ⟨fault, rfl⟩
      | ok _ => exact absurd ⟨address, hresolve, haccept⟩ h

theorem build_outcomes (host : Host) (memory : Memory) (channel : Channel)
    (prepare : String → ω) :
    (build host memory channel prepare = .error .crashed ↔
      FindsLocal host channel.current.members prepare
        ∧ Sightings.longestRetention < memory.retention)
    ∧ ((∃ n, build host memory channel prepare = .ok n) ↔
      FindsLocal host channel.current.members prepare
        ∧ memory.retention ≤ Sightings.longestRetention)
    ∧ ((∃ fault, build host memory channel prepare = .error (.refused fault)) ↔
      ¬ FindsLocal host channel.current.members prepare) := by
  by_cases hlocal : FindsLocal host channel.current.members prepare
  · obtain ⟨n, hbuild⟩ := build_of_findsLocal memory hlocal
    rw [hbuild]
    by_cases hfits : memory.retention ≤ Sightings.longestRetention
    · simp [hlocal, hfits]
    · simp [hlocal, hfits, Nat.lt_of_not_le hfits]
  · obtain ⟨fault, hbuild⟩ := build_of_not_findsLocal memory hlocal
    rw [hbuild]
    simp [hlocal]

/-! ## When building crashes -/

/-- Whatever the settings, the addresses of the host and the membership are: building is refused
when no local member is found, ends in a node when identities are to be remembered for a possible
time, and crashes otherwise. With a setting of 64 bits that is when the time is negative or beyond
a thousand years. -/
theorem build_crashes_iff (s : Settings) {o : Options} (ho : s.options = .ok o)
    (addresses : List Ip.Address) (channel : Channel) (prepare : String → ω) :
    (build (o.host addresses) o.memory channel prepare = .error .crashed ↔
      FindsLocal (o.host addresses) channel.current.members prepare
        ∧ Sightings.longestRetention < s.retention.toNat)
    ∧ ((∃ n, build (o.host addresses) o.memory channel prepare = .ok n) ↔
      FindsLocal (o.host addresses) channel.current.members prepare
        ∧ s.retention.toNat ≤ Sightings.longestRetention)
    ∧ ((∃ fault, build (o.host addresses) o.memory channel prepare = .error (.refused fault)) ↔
      ¬ FindsLocal (o.host addresses) channel.current.members prepare)
    ∧ (-signed64 ≤ s.int (memoryPath "ttl-ms") 30000 →
      (Sightings.longestRetention < s.retention.toNat ↔
        s.int (memoryPath "ttl-ms") 30000 < 0
          ∨ (Sightings.longestRetention : Int) < s.int (memoryPath "ttl-ms") 30000)) := by
  have hretention : o.memory.retention = s.retention.toNat :=
    congrArg UInt64.toNat (retention_of_options ho)
  obtain ⟨hcrashed, hbuilt, hrefused⟩ := build_outcomes (o.host addresses) o.memory channel prepare
  rw [hretention] at hcrashed hbuilt
  exact ⟨hcrashed, hbuilt, hrefused, longestRetention_lt_iff s⟩

/-- The settings of a node that is its own only member, with a time for which identities are
remembered. -/
def hermit (retention : Int) : Settings :=
  (Settings.empty.set (clusterPath "members") (.text "127.0.0.1:3262")).set
    (memoryPath "ttl-ms") (.int retention)

def hermitMembership : Membership := ⟨["127.0.0.1:3262"], StringMap.empty, .everyone⟩

def hermitOptions (retention : UInt64) : Options :=
  ⟨3262, none, 5000, 3000, .http1, Wire.defaultPath, retention, 100000, 10000, 1048576, 5000⟩

def hermitage (address : String) : Rehearsal.World :=
  .start .quiet (.http address Wire.defaultPath 1048576) []

theorem hermit_findsLocal : FindsLocal ⟨[], none, 3262⟩ hermitMembership.members hermitage :=
  ⟨"127.0.0.1:3262", eq_ok_of_toOption (by decide +kernel), eq_ok_of_toOption (by decide +kernel)⟩

/-- A thousand years are not too long. -/
theorem hermit_built : (hermit 31536000000000).options = .ok (hermitOptions 31536000000000)
    ∧ ∃ n, build ((hermitOptions 31536000000000).host []) (hermitOptions 31536000000000).memory
      (.new hermitMembership) hermitage = .ok n := by
  have ho : (hermit 31536000000000).options = .ok (hermitOptions 31536000000000) :=
    eq_ok_of_toOption (by decide +kernel)
  obtain ⟨-, hbuilt, -⟩ := build_crashes_iff (hermit 31536000000000) ho [] (.new hermitMembership)
    hermitage
  refine ⟨ho, hbuilt.mpr ⟨hermit_findsLocal, by decide +kernel⟩⟩

/-- A negative time is too long: a membership and options are made of the settings, and building
crashes all the same. -/
theorem negative_retention_crashes :
    (hermit (-1)).membership = .ok hermitMembership
    ∧ (hermit (-1)).options = .ok (hermitOptions 0xffffffffffffffff)
    ∧ build ((hermitOptions 0xffffffffffffffff).host []) (hermitOptions 0xffffffffffffffff).memory
      (.new hermitMembership) hermitage = .error .crashed := by
  refine ⟨eq_ok_of_toOption (by decide +kernel), eq_ok_of_toOption (by decide +kernel), ?_⟩
  obtain ⟨hcrashed, -, -⟩ := build_outcomes ((hermitOptions 0xffffffffffffffff).host [])
    (hermitOptions 0xffffffffffffffff).memory (.new hermitMembership) hermitage
  exact hcrashed.mpr ⟨hermit_findsLocal, by decide +kernel⟩

end Node

end Conclave
