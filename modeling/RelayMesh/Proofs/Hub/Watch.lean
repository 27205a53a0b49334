import RelayMesh.Proofs.Hub.Run
import RelayMesh.Settings

/-!
# How settings stop the watch

The watch over the nodes goes on in rounds, with other requests to the hub in
between, until a round fails; there is no round after that.  A report interval
is read as any 64-bit number of seconds, and so is the time between two rounds.
Not all of them can be worked with:

* There is no watch without a time between two rounds.
* Three report intervals have to be a number of seconds that 64 bits hold.
* Counted back from the time of the round they must not lead out of the
  calendar.  Only if they are too long to be counted back at all nobody is
  silent, and the round goes well.

`Settings.Endures` puts the last two together, `exists_watch_iff` says that a
round fails for no other reason, and `watch_survives_iff` is the result for
whole runs of the watch and all environments.
-/

namespace RelayMesh

/-! ## Settings -/

namespace Settings

/-- The number of seconds between two reports that the environment sets. -/
def statusSeconds (environment : String → Option String) : Nat :=
  naturalOr environment "SFU_STATUS_INTERVAL_SECS" UInt64.size 5

/-- The number of seconds between two rounds of the watch that the environment sets. -/
def healthSeconds (environment : String → Option String) : Nat :=
  naturalOr environment "SFU_HEALTH_CHECK_INTERVAL_SECS" UInt64.size 15

theorem statusInterval_policyOf (environment : String → Option String) :
    (policyOf environment).statusInterval = Span.ofSeconds (statusSeconds environment) := rfl

/-- A round at some time gets by with an interval of some seconds between two reports. -/
structure Endures (seconds : Nat) (now : Instant) : Prop where
  /-- Three intervals can be counted in 64 bits. -/
  countable : 3 * seconds < UInt64.size
  /-- If three intervals are milliseconds of 63 bits, they lead back to a date of the calendar. -/
  calendar : 3000 * seconds < Nat.pow 2 63 → firstInstant ≤ now - 3 * seconds * 1000000000

theorem Endures.mono {seconds : Nat} {now later : Instant} (h : Endures seconds now)
    (hlater : now ≤ later) : Endures seconds later :=
  ⟨h.countable, fun hshort => Int.le_trans (h.calendar hshort) (Int.sub_le_sub_right hlater _)⟩

end Settings

/-- Why the watch over the nodes ended. -/
inductive WatchFailure where
  /-- There is no time between two rounds. -/
  | noInterval
  /-- The nodes that are silent could not be told from the others. -/
  | clock (error : ClockError)
deriving DecidableEq

namespace Hub

variable {α : Type} [Scalar α] {hub : Hub α} {seconds : Nat} {now : Instant}

/-! ## One round -/

omit [Scalar α] in
theorem staleAfter_eq (h : hub.policy.statusInterval = Span.ofSeconds seconds) :
    hub.policy.staleAfter =
      if 3 * seconds < UInt64.size then some (Span.ofSeconds (3 * seconds)) else none := by
  have hwindow : hub.policy.statusInterval * 3 = Span.ofSeconds (3 * seconds) := by
    rw [h, Span.ofSeconds, Span.ofSeconds, Nat.mul_right_comm, Nat.mul_comm 3]
  have hlimit : Span.ofSeconds (3 * seconds) < Policy.spanLimit ↔ 3 * seconds < UInt64.size :=
    Nat.mul_lt_mul_right (by decide)
  rw [Policy.staleAfter, hwindow]
  simp only [hlimit]

theorem longestWindow_lt_iff :
    longestWindow < Span.ofSeconds (3 * seconds) ↔ ¬3000 * seconds < Nat.pow 2 63 := by
  have hpow : Nat.pow 2 63 = 9223372036854775808 := rfl
  change (Nat.pow 2 63 - 1) * 1000000 < 3 * seconds * 1000000000 ↔ _
  omega

omit [Scalar α] in
/-- A point in time is there to be compared with exactly if the interval can be worked with. -/
theorem exists_cutoff_iff (h : hub.policy.statusInterval = Span.ofSeconds seconds) :
    (∃ point, hub.cutoff now = .ok point) ↔ Settings.Endures seconds now := by
  have hspan : ((Span.ofSeconds (3 * seconds) : Nat) : Int) = 3 * seconds * 1000000000 := by
    change ((3 * seconds * 1000000000 : Nat) : Int) = _
    omega
  rw [cutoff, staleAfter_eq h]
  by_cases hcountable : 3 * seconds < UInt64.size
  · rw [if_pos hcountable]
    simp only [longestWindow_lt_iff, hspan]
    by_cases hshort : 3000 * seconds < Nat.pow 2 63
    · rw [if_neg (not_not.2 hshort)]
      split
      case isTrue hbefore =>
        exact iff_of_false nofun fun hendures =>
          Int.not_le.2 hbefore (hendures.calendar hshort)
      case isFalse hafter =>
        exact iff_of_true ⟨_, rfl⟩ ⟨hcountable, fun _ => Int.not_lt.1 hafter⟩
    · rw [if_pos hshort]
      exact iff_of_true ⟨_, rfl⟩ ⟨hcountable, fun h => absurd h hshort⟩
  · rw [if_neg hcountable]
    exact iff_of_false nofun fun hendures => hcountable hendures.countable

theorem exists_watch_iff (h : hub.policy.statusInterval = Span.ofSeconds seconds) :
    (∃ eviction, hub.watch now = .ok eviction) ↔ Settings.Endures seconds now := by
  rw [← exists_cutoff_iff h, watch, evict]
  cases hub.cutoff now with
  | error e =>
    constructor
    · rintro ⟨_, ⟨⟩⟩
    · rintro ⟨_, ⟨⟩⟩
  | ok point => exact iff_of_true ⟨_, rfl⟩ ⟨_, rfl⟩

/-! ## The watch -/

/-- What happens up to the end of a round: other requests to the hub, and then the round at some
time. -/
structure Round (α : Type) where
  requests : List (Request α)
  now : Instant

/-- Carries out a round. -/
def attendRound (hub : Hub α) (round : Round α) : Except WatchFailure (Hub α) :=
  match (hub.run round.requests).watch round.now with
  | .ok eviction => .ok eviction.hub
  | .error e => .error (.clock e)

/-- The watch from its start through some rounds; the first failure ends it. -/
def keepWatch (hub : Hub α) (rounds : List (Round α)) : Except WatchFailure (Hub α) :=
  if hub.policy.healthInterval = 0 then .error .noInterval else rounds.foldlM attendRound hub

variable {rounds : List (Round α)}

/-- A round succeeds exactly if the interval can be worked with at that time, and leaves the
policy as it is. -/
theorem exists_attendRound_iff (h : hub.policy.statusInterval = Span.ofSeconds seconds)
    (round : Round α) :
    ((∃ after, hub.attendRound round = .ok after) ↔ Settings.Endures seconds round.now) ∧
      ∀ after, hub.attendRound round = .ok after → after.policy = hub.policy := by
  have hrun : (hub.run round.requests).policy = hub.policy := policy_run hub round.requests
  have hkept : (hub.run round.requests).policy.statusInterval = Span.ofSeconds seconds := by
    rw [hrun, h]
  rw [← exists_watch_iff hkept, attendRound]
  cases hwatch : (hub.run round.requests).watch round.now with
  | error e => exact ⟨iff_of_false nofun nofun, nofun⟩
  | ok eviction =>
    refine ⟨iff_of_true ⟨_, rfl⟩ ⟨_, rfl⟩, ?_⟩
    rintro _ ⟨⟩
    rw [upkeep_policy.watch hwatch, hrun]

/-- The run of rounds: it goes on as long as every round does, because the policy stays. -/
theorem exists_foldlM_attendRound_iff (h : hub.policy.statusInterval = Span.ofSeconds seconds) :
    (∃ after, rounds.foldlM attendRound hub = .ok after) ↔
      ∀ round ∈ rounds, Settings.Endures seconds round.now := by
  induction rounds generalizing hub with
  | nil => exact iff_of_true ⟨hub, rfl⟩ nofun
  | cons round rounds ih =>
    obtain ⟨hround, hpolicy⟩ := exists_attendRound_iff h round
    rw [List.forall_mem_cons, ← hround, List.foldlM_cons]
    cases hattend : hub.attendRound round with
    | error e => exact iff_of_false nofun fun hall => nomatch hall.1
    | ok after =>
      have hafter : after.policy.statusInterval = Span.ofSeconds seconds := by
        rw [hpolicy after hattend, h]
      exact (ih hafter).trans (and_iff_right ⟨after, rfl⟩).symm

/-! ## The result -/

/-- The watch survives some rounds exactly if the environment sets a time between rounds and an
interval between reports that every round can work with.  So it survives all rounds from some time
on exactly if it survives a round at that time. -/
theorem watch_survives_iff (environment : String → Option String) :
    (∀ rounds : List (Round Float),
      (∃ after, (new (Settings.policyOf environment)).keepWatch rounds = .ok after) ↔
        Settings.healthSeconds environment ≠ 0 ∧
          ∀ round ∈ rounds, Settings.Endures (Settings.statusSeconds environment) round.now) ∧
    ∀ start : Instant,
      (∀ rounds : List (Round Float), (∀ round ∈ rounds, start ≤ round.now) →
        ∃ after, (new (Settings.policyOf environment)).keepWatch rounds = .ok after) ↔
      Settings.healthSeconds environment ≠ 0 ∧
        Settings.Endures (Settings.statusSeconds environment) start := by
  have hrounds : ∀ rounds : List (Round Float),
      (∃ after, (new (Settings.policyOf environment)).keepWatch rounds = .ok after) ↔
        Settings.healthSeconds environment ≠ 0 ∧
          ∀ round ∈ rounds, Settings.Endures (Settings.statusSeconds environment) round.now := by
    intro rounds
    have hinterval : (new (Settings.policyOf environment)).policy.healthInterval = 0 ↔
        Settings.healthSeconds environment = 0 :=
      Nat.mul_eq_zero.trans (or_iff_left (by decide))
    have hstatus : (new (Settings.policyOf environment) : Hub Float).policy.statusInterval =
        Span.ofSeconds (Settings.statusSeconds environment) :=
      Settings.statusInterval_policyOf environment
    rw [keepWatch, ← exists_foldlM_attendRound_iff hstatus]
    by_cases hzero : Settings.healthSeconds environment = 0
    · rw [if_pos (hinterval.2 hzero)]
      exact iff_of_false nofun fun h => h.1 hzero
    · rw [if_neg (mt hinterval.1 hzero)]
      exact (and_iff_right hzero).symm
  refine ⟨hrounds, fun start => ?_⟩
  simp only [hrounds]
  constructor
  · intro h
    have hlone : ∀ round ∈ [(⟨[], start⟩ : Round Float)], start ≤ round.now := by
      rintro _ (⟨⟩ | ⟨_, ⟨⟩⟩)
      exact Int.le_refl start
    obtain ⟨hhealth, hround⟩ := h _ hlone
    exact ⟨hhealth, hround _ List.mem_cons_self⟩
  · rintro ⟨hhealth, hendures⟩ rounds hstart
    exact ⟨hhealth, fun round hmem => hendures.mono (hstart round hmem)⟩

/-- An environment in which one variable is set. -/
def setting (name value : String) : String → Option String :=
  fun asked => if asked = name then some value else none

/-- A round on the first day of 2025. -/
def newYear : Round Float := ⟨[], 1735689600000000000⟩

/-- The watch survives without settings.  It does not start without a time between rounds, and its
first round fails if three report intervals are too long to be counted, or if they lead to a date
before the calendar. -/
theorem watch_stopped_by_settings :
    (∃ after, (new (Settings.policyOf fun _ => none)).keepWatch [newYear] = .ok after) ∧
    (¬∃ after, (new (Settings.policyOf
      (setting "SFU_HEALTH_CHECK_INTERVAL_SECS" "0"))).keepWatch [] = .ok after) ∧
    (¬∃ after, (new (Settings.policyOf
      (setting "SFU_STATUS_INTERVAL_SECS" "6148914691236517206"))).keepWatch [newYear] =
        .ok after) ∧
    ¬∃ after, (new (Settings.policyOf
      (setting "SFU_STATUS_INTERVAL_SECS" "10000000000000"))).keepWatch [newYear] = .ok after := by
  have hdefault : Settings.statusSeconds (fun _ => none) = 5 := rfl
  have hnone : Settings.healthSeconds (setting "SFU_HEALTH_CHECK_INTERVAL_SECS" "0") = 0 := by
    decide +kernel
  have hlong : Settings.statusSeconds
      (setting "SFU_STATUS_INTERVAL_SECS" "6148914691236517206") = 6148914691236517206 := by
    decide +kernel
  have hearly : Settings.statusSeconds
      (setting "SFU_STATUS_INTERVAL_SECS" "10000000000000") = 10000000000000 := by
    decide +kernel
  refine ⟨?_, ?_, ?_, ?_⟩
  · refine ((watch_survives_iff _).1 _).2 ⟨by decide, fun round hmem => ?_⟩
    rw [List.mem_singleton.1 hmem, hdefault]
    exact ⟨by decide, fun _ => by decide +kernel⟩
  · rw [(watch_survives_iff _).1]
    exact fun h => h.1 hnone
  · rw [(watch_survives_iff _).1, hlong]
    exact fun h => absurd (h.2 newYear List.mem_cons_self).countable (by decide)
  · rw [(watch_survives_iff _).1, hearly]
    exact fun h => absurd ((h.2 newYear List.mem_cons_self).calendar (by decide)) (by decide +kernel)

end Hub

end RelayMesh
