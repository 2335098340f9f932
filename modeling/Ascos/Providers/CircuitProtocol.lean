import Mathlib.Logic.Relation
import Ascos.Providers.CircuitBreaker

/-!
# The protocol of the circuit breaker

Runs of `allow`, `success` and `failure` on the record of one provider.  The
clock does not go back, and every admitted call reports one outcome at most, at any time
after its admission.

Main results:

- Theorem `circuit_protocol`: exactly when a call respects the protocol, and exactly
  which configurations let every provider recover.
- Theorem `late_success_closes`: a late success closes an open circuit.
-/

namespace Ascos
namespace Providers

open Library Library.Program
open Ascos.Runtime (Timestamp)

/-! ## Runs -/

/-- The outcome that an admitted call reports. -/
inductive Outcome where
  | success
  | failure (category code : String)
deriving DecidableEq

/-- A call of the breaker; a report is about a call that was admitted as a probe of the
half-open circuit, or as an ordinary one. -/
inductive Call where
  | allow
  | report (probe : Bool) (outcome : Outcome)
deriving DecidableEq

/-- The repository with the clock, and the numbers of admitted calls that have not reported:
ordinary ones and probes. -/
structure World where
  repository : Repository
  now : Timestamp
  calls : Nat
  probes : Nat

/-- The calls of a kind that may still report. -/
def World.pending (w : World) (probe : Bool) : Nat :=
  if probe = true then w.probes else w.calls

/-- One more call of a kind may report. -/
def World.letIn (w : World) (probe : Bool) : World :=
  if probe = true then { w with probes := w.probes + 1 } else { w with calls := w.calls + 1 }

/-- One call of a kind has reported. -/
def World.settle (w : World) (probe : Bool) : World :=
  if probe = true then { w with probes := w.probes - 1 } else { w with calls := w.calls - 1 }

@[simp]
theorem World.letIn_repository (w : World) (probe : Bool) :
    (w.letIn probe).repository = w.repository := by
  cases probe <;> rfl

@[simp]
theorem World.settle_repository (w : World) (probe : Bool) :
    (w.settle probe).repository = w.repository := by
  cases probe <;> rfl

theorem World.letIn_flight (w : World) (probe : Bool) :
    (w.letIn probe).calls + (w.letIn probe).probes = w.calls + w.probes + 1 := by
  cases probe <;> simp [letIn] <;> omega

theorem World.settle_flight (w : World) (repository : Repository) (now : Timestamp)
    (probe : Bool) (hpending : 0 < w.pending probe) :
    ({ w with repository, now }.settle probe).calls +
      ({ w with repository, now }.settle probe).probes = w.calls + w.probes - 1 := by
  cases probe <;> simp [settle, pending] at hpending ⊢ <;> omega

variable (breaker : CircuitBreaker) (providerId capability : String)

/-- The method that a report calls. -/
def Outcome.method (now : Timestamp) : Outcome → Health ProviderHealthState
  | .success => Providers.success breaker now providerId capability
  | .failure category code => Providers.failure breaker now providerId capability category code

def World.perform (w : World) (now : Timestamp) : Call → World
  | .allow =>
    match exec (allow breaker now providerId capability) w.repository with
    | (.ok state, repository) =>
        { w with repository, now }.letIn (decide (state.status = ProviderHealthStatus.halfOpen))
    | (.error _, repository) => { w with repository, now }
  | .report probe outcome =>
    let (_, repository) := exec (outcome.method breaker providerId capability now) w.repository
    { w with repository, now }.settle probe

/-- The call can be made at the time: the clock has not gone back, and a report is about a
call that was admitted and has not reported. -/
def World.Possible (w : World) (now : Timestamp) (call : Call) : Prop :=
  w.now ≤ now ∧ ∀ probe outcome, call = .report probe outcome → 0 < w.pending probe

/-- A provider that is put on record: its circuit is neither open nor half open, and it has
no call in flight. -/
structure Fresh (state : ProviderHealthState) : Prop where
  not_open : state.status ≠ .open
  not_halfOpen : state.status ≠ .halfOpen
  idle : state.currentInFlight = 0

/-- The worlds that the runs of the breaker reach. -/
inductive Reachable : World → Prop
  | init {repository : Repository} {now : Timestamp} {state : ProviderHealthState}
      (hfile : repository providerId capability = some state)
      (hnames : state.providerId = providerId ∧ state.capability = capability)
      (hfresh : Fresh state) : Reachable ⟨repository, now, 0, 0⟩
  | step {w : World} {now : Timestamp} {call : Call} (hw : Reachable w)
      (hpossible : w.Possible now call) :
      Reachable (w.perform breaker providerId capability now call)

/-! ## The protocol -/

/-- The call for admission is granted at the time. -/
def World.Admits (w : World) (now : Timestamp) : Prop :=
  ∃ state, (exec (allow breaker now providerId capability) w.repository).1 = .ok state

/-- What the protocol asks of a call at a time that takes the record from `state` to
`state'`. -/
structure Respects (w : World) (now : Timestamp) (call : Call)
    (state state' : ProviderHealthState) : Prop where
  /-- An open circuit whose time has not come admits no call. -/
  refuses : state.status = .open → (∃ t ∈ state.openUntil, now < t) → call = .allow →
    ¬w.Admits breaker providerId capability now
  /-- No outcome makes an open circuit whose time has not come healthy. -/
  stays : state.status = .open → (∃ t ∈ state.openUntil, now < t) → state'.status ≠ .healthy
  /-- An open circuit is left by the timeout only. -/
  timeout : state.status = .open → state'.status ≠ .open →
    call = .allow ∧ state'.status = .halfOpen ∧ ∃ t ∈ state.openUntil, t ≤ now
  /-- A failed probe opens the half-open circuit again. -/
  reopens : state.status = .halfOpen → (∃ category code,
    call = .report true (.failure category code)) → state'.status = .open

/-- An outcome that finds the circuit open does not complete a row of successes, and a
failure that finds it open, or is one of a probe and finds it half open, completes a row of
failures. -/
def Timely (state : ProviderHealthState) : Call → Prop
  | .allow => True
  | .report _ .success =>
    state.status = .open → state.consecutiveSuccesses + 1 < breaker.successThreshold
  | .report probe (.failure _ _) =>
    state.status = .open ∨ (state.status = .halfOpen ∧ probe = true) →
      breaker.failureThreshold ≤ state.consecutiveFailures + 1

/-- At a time, a call is admitted and reports success. -/
def World.Serves (now : Timestamp) (w w' : World) : Prop :=
  w.Admits breaker providerId capability now ∧
    ∃ probe, (w.perform breaker providerId capability now .allow).Possible now
        (.report probe .success) ∧
      w' = (w.perform breaker providerId capability now .allow).perform breaker providerId
        capability now (.report probe .success)

/-- Once nothing is in flight and the circuit need not stay open any longer, some call is
admitted, and enough successes make the provider healthy. -/
def World.Recovers (w : World) : Prop :=
  ∀ state, w.repository providerId capability = some state → state.status ≠ .disabled →
    w.calls = 0 → w.probes = 0 → ∀ now, w.now ≤ now → (∀ t ∈ state.openUntil, t ≤ now) →
      w.Admits breaker providerId capability now ∧
        ∃ w', Relation.ReflTransGen (World.Serves breaker providerId capability now) w w' ∧
          ∃ state', w'.repository providerId capability = some state' ∧
            state'.status = .healthy

/-! ## The invariant -/

section Invariant

variable {breaker providerId capability} {state state' : ProviderHealthState}
  {now : Timestamp} {category code : String}

/-- What the counters of a record say of its status. -/
structure Sound (breaker : CircuitBreaker) (state : ProviderHealthState) : Prop where
  openUntil : state.status = .open → ∃ t, state.openUntil = some t
  successes : state.status = .open ∨ state.status = .halfOpen →
    state.consecutiveSuccesses < breaker.successThreshold
  probes : state.status = .halfOpen →
    state.halfOpenProbeCount ≤ state.consecutiveSuccesses + state.currentInFlight

/-- What admission does to a record. -/
theorem admitted_eq (hadmitted : admitted breaker now state = some state') :
    state.status ≠ .disabled ∧ (state.status = .open → ∀ t ∈ state.openUntil, t ≤ now) ∧
      state'.status = (if state.status = .open then .halfOpen else state.status) ∧
      state'.providerId = state.providerId ∧ state'.capability = state.capability ∧
      state'.consecutiveSuccesses = state.consecutiveSuccesses ∧
      state'.consecutiveFailures = state.consecutiveFailures ∧
      state'.openUntil = state.openUntil ∧
      state'.halfOpenProbeCount = (if state.status = .open then 1
        else if state.status = .halfOpen then state.halfOpenProbeCount + 1
        else state.halfOpenProbeCount) ∧
      state'.currentInFlight = state.currentInFlight + 1 ∧
      state'.maximumInFlight = state.maximumInFlight := by
  unfold admitted at hadmitted
  cases hstatus : state.status <;> rw [hstatus] at hadmitted <;> dsimp only at hadmitted
  case disabled => cases hadmitted
  case «open» =>
    by_cases hwait : state.openUntil.all (now < ·) = true
    · rw [if_pos hwait] at hadmitted
      cases hadmitted
    · rw [if_neg hwait] at hadmitted
      obtain rfl := Option.some.inj hadmitted
      have hpast : ∀ t, state.openUntil = some t → t ≤ now := by
        intro t ht
        rw [ht] at hwait
        simpa using hwait
      simpa using hpast
  all_goals
    split at hadmitted
    · cases hadmitted
    · obtain rfl := Option.some.inj hadmitted
      simp

theorem Sound.admitted (hsound : Sound breaker state)
    (hadmitted : admitted breaker now state = some state') : Sound breaker state' := by
  obtain ⟨-, -, hstatus, -, -, hsuccesses, -, huntil, hprobes, hflight, -⟩ :=
    admitted_eq hadmitted
  constructor
  · intro hopen
    rw [hstatus] at hopen
    split at hopen
    · cases hopen
    · contradiction
  · intro hphase
    rw [hsuccesses]
    rw [hstatus] at hphase
    by_cases hopen : state.status = .open
    · exact hsound.successes (.inl hopen)
    · rw [if_neg hopen] at hphase
      exact hsound.successes hphase
  · intro hhalf
    rw [hstatus] at hhalf
    rw [hprobes, hsuccesses, hflight]
    by_cases hopen : state.status = .open
    · rw [if_pos hopen]
      omega
    · rw [if_neg hopen] at hhalf ⊢
      rw [if_pos hhalf]
      have hold := hsound.probes hhalf
      omega

theorem succeeded_eq (breaker : CircuitBreaker) (now : Timestamp)
    (state : ProviderHealthState) :
    (succeeded breaker now state).status =
        (if state.status ≠ .disabled ∧ breaker.successThreshold ≤ state.consecutiveSuccesses + 1
          then .healthy else state.status) ∧
      (succeeded breaker now state).providerId = state.providerId ∧
      (succeeded breaker now state).capability = state.capability ∧
      (succeeded breaker now state).consecutiveSuccesses = state.consecutiveSuccesses + 1 ∧
      (succeeded breaker now state).currentInFlight = state.currentInFlight - 1 ∧
      ((succeeded breaker now state).status ≠ .healthy →
        (succeeded breaker now state).openUntil = state.openUntil ∧
          (succeeded breaker now state).halfOpenProbeCount = state.halfOpenProbeCount) := by
  unfold succeeded
  by_cases hthreshold : state.status ≠ .disabled ∧
      breaker.successThreshold ≤ state.consecutiveSuccesses + 1
  · simp [hthreshold]
  · simp [hthreshold]

theorem failed_eq (breaker : CircuitBreaker) (now : Timestamp) (category code : String)
    (state : ProviderHealthState) :
    (failed breaker now category code state).status =
        (if state.status = .disabled then .disabled
          else if breaker.failureThreshold ≤ state.consecutiveFailures + 1 then .open
          else .degraded) ∧
      (failed breaker now category code state).providerId = state.providerId ∧
      (failed breaker now category code state).capability = state.capability ∧
      (failed breaker now category code state).consecutiveSuccesses = 0 ∧
      (failed breaker now category code state).consecutiveFailures =
        state.consecutiveFailures + 1 ∧
      (failed breaker now category code state).currentInFlight = state.currentInFlight - 1 ∧
      (failed breaker now category code state).maximumInFlight = state.maximumInFlight ∧
      ((failed breaker now category code state).status = .open →
        (failed breaker now category code state).openUntil =
          some (now + breaker.openSeconds)) := by
  unfold failed
  by_cases hdisabled : state.status = .disabled
  · simp [hdisabled]
  · by_cases hthreshold : breaker.failureThreshold ≤ state.consecutiveFailures + 1
    · simp [hdisabled, hthreshold]
    · simp [hdisabled, hthreshold]

theorem Sound.succeeded (hsound : Sound breaker state) (now : Timestamp)
    (hflight : 0 < state.currentInFlight) : Sound breaker (succeeded breaker now state) := by
  obtain ⟨hstatus, -, -, hsuccesses, hflight', hkept⟩ :=
    succeeded_eq breaker now state
  -- a circuit that is still open or half open had too few successes
  have hfew : ∀ status : ProviderHealthStatus, status = .open ∨ status = .halfOpen →
      (Providers.succeeded breaker now state).status = status →
      state.status = status ∧ state.consecutiveSuccesses + 1 < breaker.successThreshold := by
    intro status hphase hnow
    rw [hstatus] at hnow
    split at hnow
    · subst hnow
      rcases hphase with hphase | hphase <;> cases hphase
    · rename_i hguard
      refine ⟨hnow, Nat.lt_of_not_le fun hmany => hguard ⟨?_, hmany⟩⟩
      rw [hnow]
      rcases hphase with rfl | rfl <;> simp
  constructor
  · intro hopen
    obtain ⟨hwas, -⟩ := hfew _ (.inl rfl) hopen
    rw [(hkept (by rw [hopen]; simp)).1]
    exact hsound.openUntil hwas
  · intro hphase
    rw [hsuccesses]
    rcases hphase with hphase | hphase
    · exact (hfew _ (.inl rfl) hphase).2
    · exact (hfew _ (.inr rfl) hphase).2
  · intro hhalf
    obtain ⟨hwas, -⟩ := hfew _ (.inr rfl) hhalf
    have hold := hsound.probes hwas
    rw [(hkept (by rw [hhalf]; simp)).2, hsuccesses, hflight']
    omega

theorem Sound.failed (breaker : CircuitBreaker) (now : Timestamp) (category code : String)
    (state : ProviderHealthState) : Sound breaker (failed breaker now category code state) := by
  obtain ⟨hstatus, -, -, hsuccesses, -, -, -, huntil⟩ :=
    failed_eq breaker now category code state
  constructor
  · intro hopen
    exact ⟨_, huntil hopen⟩
  · intro _
    rw [hsuccesses]
    exact breaker.successThreshold_pos
  · intro hhalf
    rw [hstatus] at hhalf
    split at hhalf
    · cases hhalf
    · split at hhalf <;> cases hhalf

end Invariant

/-! ## Steps and runs -/

section Steps

variable {breaker providerId capability} {w : World} {state : ProviderHealthState}
  {now : Timestamp} {call : Call}

/-- What a call at a time makes of the record. -/
inductive Changes (breaker : CircuitBreaker) (now : Timestamp) (state : ProviderHealthState) :
    Call → ProviderHealthState → Prop
  | admitted {state' : ProviderHealthState}
      (hadmitted : admitted breaker now state = some state') :
      Changes breaker now state .allow state'
  | refused (hrefused : Providers.admitted breaker now state = none) :
      Changes breaker now state .allow state
  | succeeded (probe : Bool) :
      Changes breaker now state (.report probe .success)
        { Providers.succeeded breaker now state with version := state.version + 1 }
  | failed (probe : Bool) (category code : String) :
      Changes breaker now state (.report probe (.failure category code))
        { Providers.failed breaker now category code state with version := state.version + 1 }

/-- The world holds the record of the provider, which counts the calls in flight. -/
structure Counts (providerId capability : String) (w : World) (state : ProviderHealthState) :
    Prop where
  filed : w.repository providerId capability = some state
  names : state.providerId = providerId ∧ state.capability = capability
  flight : state.currentInFlight = w.calls + w.probes

theorem Counts.onFile (hcounts : Counts providerId capability w state) :
    OnFile w.repository state := by
  obtain ⟨rfl, rfl⟩ := hcounts.names
  exact ⟨hcounts.filed⟩

/-- Filing a changed record of the same provider. -/
theorem Counts.file {w' : World} {state' : ProviderHealthState} {repository : Repository}
    (hrepository : w'.repository = repository.file state')
    (hnames : state'.providerId = providerId ∧ state'.capability = capability)
    (hflight : state'.currentInFlight = w'.calls + w'.probes) :
    Counts providerId capability w' state' where
  filed := by
    obtain ⟨rfl, rfl⟩ := hnames
    rw [hrepository]
    exact (OnFile.file state' repository).filed
  names := hnames
  flight := hflight

theorem Counts.inFlight_pos (hcounts : Counts providerId capability w state) {probe : Bool}
    (hpending : 0 < w.pending probe) : 0 < state.currentInFlight := by
  rw [hcounts.flight]
  cases probe <;> simp [World.pending] at hpending <;> omega

theorem Counts.perform_allow {state' : ProviderHealthState}
    (hcounts : Counts providerId capability w state)
    (hadmitted : Providers.admitted breaker now state = some state') :
    w.perform breaker providerId capability now .allow =
      { w with repository := w.repository.file state', now }.letIn
        (decide (state'.status = ProviderHealthStatus.halfOpen)) := by
  obtain ⟨rfl, rfl⟩ := hcounts.names
  have hallow := exec_allow breaker now hcounts.onFile
  rw [hadmitted] at hallow
  unfold World.perform
  rw [hallow]

/-- A call keeps the count if it is no report, or one of a call that is pending, and changes the
record as the methods say. -/
theorem Counts.perform (breaker : CircuitBreaker) (now : Timestamp)
    (hcounts : Counts providerId capability w state)
    (hpossible : ∀ probe outcome, call = .report probe outcome → 0 < w.pending probe) :
    ∃ state', Changes breaker now state call state' ∧
      Counts providerId capability (w.perform breaker providerId capability now call) state' := by
  obtain ⟨rfl, rfl⟩ := hcounts.names
  have hflight := hcounts.flight
  cases call with
  | allow =>
    cases hadmitted : Providers.admitted breaker now state with
    | some state' =>
        obtain ⟨-, -, -, hprovider, hcapability, -, -, -, -, hflight', -⟩ :=
          admitted_eq hadmitted
        refine ⟨state', .admitted hadmitted, ?_⟩
        rw [hcounts.perform_allow hadmitted]
        refine .file (World.letIn_repository _ _) ⟨hprovider, hcapability⟩ ?_
        rw [World.letIn_flight, hflight', hflight]
    | none =>
        have hallow := exec_allow breaker now hcounts.onFile
        rw [hadmitted] at hallow
        obtain ⟨error, hallow⟩ := hallow
        refine ⟨state, .refused hadmitted, ?_⟩
        unfold World.perform
        rw [hallow]
        exact ⟨hcounts.filed, ⟨rfl, rfl⟩, hflight⟩
  | report probe outcome =>
    have hpending := hpossible probe outcome rfl
    unfold World.perform
    cases outcome with
    | success =>
        obtain ⟨-, hprovider, hcapability, -, hflight', -⟩ :=
          succeeded_eq breaker now state
        refine ⟨_, .succeeded probe, ?_⟩
        simp only [Outcome.method, exec_success hcounts.onFile]
        refine .file (World.settle_repository _ _) ⟨hprovider, hcapability⟩ ?_
        exact hflight'.trans ((congrArg (· - 1) hflight).trans
          (World.settle_flight w _ now probe hpending).symm)
    | failure category code =>
        obtain ⟨-, hprovider, hcapability, -, -, hflight', -⟩ :=
          failed_eq breaker now category code state
        refine ⟨_, .failed probe category code, ?_⟩
        simp only [Outcome.method, exec_failure hcounts.onFile]
        refine .file (World.settle_repository _ _) ⟨hprovider, hcapability⟩ ?_
        exact hflight'.trans ((congrArg (· - 1) hflight).trans
          (World.settle_flight w _ now probe hpending).symm)

/-- The world holds the record of the provider, whose counters are sound and which counts
the calls in flight. -/
structure Holds (breaker : CircuitBreaker) (providerId capability : String) (w : World)
    (state : ProviderHealthState) : Prop where
  filed : w.repository providerId capability = some state
  names : state.providerId = providerId ∧ state.capability = capability
  sound : Sound breaker state
  flight : state.currentInFlight = w.calls + w.probes

theorem Holds.counts (hholds : Holds breaker providerId capability w state) :
    Counts providerId capability w state :=
  ⟨hholds.filed, hholds.names, hholds.flight⟩

theorem Holds.onFile (hholds : Holds breaker providerId capability w state) :
    OnFile w.repository state :=
  hholds.counts.onFile

theorem Holds.admits_iff (hholds : Holds breaker providerId capability w state) :
    w.Admits breaker providerId capability now ↔
      ∃ state', Providers.admitted breaker now state = some state' := by
  obtain ⟨rfl, rfl⟩ := hholds.names
  have hallow := exec_allow breaker now hholds.onFile
  unfold World.Admits
  cases hadmitted : Providers.admitted breaker now state with
  | some state' =>
    rw [hadmitted] at hallow
    simp [hallow]
  | none =>
    rw [hadmitted] at hallow
    obtain ⟨error, hallow⟩ := hallow
    simp [hallow]

/-- A possible call keeps the record and its counters, and changes the record as the methods
say. -/
theorem Holds.perform (hholds : Holds breaker providerId capability w state)
    (hpossible : w.Possible now call) :
    ∃ state', Changes breaker now state call state' ∧
      Holds breaker providerId capability (w.perform breaker providerId capability now call)
        state' := by
  obtain ⟨state', hchanges, hcounts⟩ :=
    hholds.counts.perform breaker now hpossible.2
  refine ⟨state', hchanges, hcounts.filed, hcounts.names, ?_, hcounts.flight⟩
  cases hchanges with
  | admitted hadmitted => exact hholds.sound.admitted hadmitted
  | refused _ => exact hholds.sound
  | succeeded probe =>
    have hsound := hholds.sound.succeeded now
      (hholds.counts.inFlight_pos (hpossible.2 probe _ rfl))
    exact ⟨hsound.openUntil, hsound.successes, hsound.probes⟩
  | failed probe category code =>
    have hsound := Sound.failed breaker now category code state
    exact ⟨hsound.openUntil, hsound.successes, hsound.probes⟩

/-- A provider that is put on record has sound counters. -/
theorem Holds.init {repository : Repository} (hfile : repository providerId capability = some state)
    (hnames : state.providerId = providerId ∧ state.capability = capability)
    (hfresh : Fresh state) :
    Holds breaker providerId capability ⟨repository, now, 0, 0⟩ state := by
  refine ⟨hfile, hnames, ⟨?_, ?_, ?_⟩, hfresh.idle⟩
  · exact fun hopen => (hfresh.not_open hopen).elim
  · exact fun hphase => (hphase.elim hfresh.not_open hfresh.not_halfOpen).elim
  · exact fun hhalf => (hfresh.not_halfOpen hhalf).elim

theorem Reachable.holds (hw : Reachable breaker providerId capability w) :
    ∃ state, Holds breaker providerId capability w state := by
  induction hw with
  | init hfile hnames hfresh => exact ⟨_, .init hfile hnames hfresh⟩
  | step _ hpossible ih =>
    obtain ⟨state, hholds⟩ := ih
    obtain ⟨state', -, hholds'⟩ := hholds.perform hpossible
    exact ⟨state', hholds'⟩

theorem Holds.respects_iff {state' : ProviderHealthState}
    (hholds : Holds breaker providerId capability w state)
    (hchanges : Changes breaker now state call state') :
    Respects breaker providerId capability w now call state state' ↔
      Timely breaker state call := by
  cases hchanges with
  | admitted hadmitted =>
    obtain ⟨-, hpast, hstatus, -⟩ := admitted_eq hadmitted
    refine iff_of_true ⟨?_, ?_, ?_, ?_⟩ trivial
    · rintro hopen ⟨t, ht, hwait⟩ -
      exact absurd (hpast hopen t ht) (Int.not_le.mpr hwait)
    · rintro hopen ⟨t, ht, hwait⟩
      exact absurd (hpast hopen t ht) (Int.not_le.mpr hwait)
    · intro hopen _
      obtain ⟨t, ht⟩ := hholds.sound.openUntil hopen
      exact ⟨rfl, by rw [hstatus, if_pos hopen], t, ht, hpast hopen t ht⟩
    · rintro - ⟨_, _, hcall⟩
      cases hcall
  | refused hrefused =>
    refine iff_of_true ⟨?_, ?_, ?_, ?_⟩ trivial
    · rintro - - - hadmits
      obtain ⟨_, hadmitted⟩ := hholds.admits_iff.mp hadmits
      rw [hrefused] at hadmitted
      cases hadmitted
    · rintro hopen - hhealthy
      rw [hopen] at hhealthy
      cases hhealthy
    · exact fun hopen hleft => absurd hopen hleft
    · rintro - ⟨_, _, hcall⟩
      cases hcall
  | succeeded probe =>
    have hstatus := (succeeded_eq breaker now state).1
    constructor
    · intro hrespects hopen
      refine Nat.lt_of_not_le fun hmany => ?_
      rw [if_pos ⟨by rw [hopen]; simp, hmany⟩] at hstatus
      obtain ⟨hcall, -⟩ := hrespects.timeout hopen (by simp [hstatus])
      cases hcall
    · intro htimely
      have hkept : state.status = .open → (succeeded breaker now state).status = .open := by
        intro hopen
        rw [hstatus, if_neg fun hguard => Nat.not_le.mpr (htimely hopen) hguard.2, hopen]
      refine ⟨(fun _ _ hcall => nomatch hcall), ?_, ?_, ?_⟩
      · rintro hopen - hhealthy
        rw [hkept hopen] at hhealthy
        cases hhealthy
      · exact fun hopen hleft => absurd (hkept hopen) hleft
      · rintro - ⟨_, _, hcall⟩
        cases hcall
  | failed probe category code =>
    have hstatus := (failed_eq breaker now category code state).1
    constructor
    · intro hrespects hphase
      have hdisabled : state.status ≠ .disabled := by
        rcases hphase with hopen | ⟨hhalf, -⟩
        · rw [hopen]
          simp
        · rw [hhalf]
          simp
      refine Nat.le_of_not_lt fun hfew => ?_
      rw [if_neg hdisabled, if_neg (Nat.not_le.mpr hfew)] at hstatus
      rcases hphase with hopen | ⟨hhalf, rfl⟩
      · obtain ⟨hcall, -⟩ := hrespects.timeout hopen (by simp [hstatus])
        cases hcall
      · have hreopens := hrespects.reopens hhalf ⟨category, code, rfl⟩
        rw [show _ = ProviderHealthStatus.degraded from hstatus] at hreopens
        cases hreopens
    · intro htimely
      have hopens : state.status = .open ∨ (state.status = .halfOpen ∧ probe = true) →
          (failed breaker now category code state).status = .open := by
        intro hphase
        rw [hstatus, if_neg, if_pos (htimely hphase)]
        rcases hphase with hopen | ⟨hhalf, -⟩
        · rw [hopen]
          simp
        · rw [hhalf]
          simp
      refine ⟨(fun _ _ hcall => nomatch hcall), ?_, ?_, ?_⟩
      · rintro hopen - hhealthy
        rw [hopens (.inl hopen)] at hhealthy
        cases hhealthy
      · exact fun hopen hleft => absurd (hopens (.inl hopen)) hleft
      · rintro hhalf ⟨_, _, hcall⟩
        cases hcall
        exact hopens (.inr ⟨hhalf, rfl⟩)

/-! ## Recovery -/

theorem Holds.admitted_of_closed (hholds : Holds breaker providerId capability w state)
    (hidle : w.calls = 0 ∧ w.probes = 0) (henabled : state.status ≠ .disabled)
    (hclosed : state.status ≠ .open) (hhalf : state.status ≠ .halfOpen) (now : Timestamp) :
    ∃ state', Providers.admitted breaker now state = some state' := by
  have hroom : ¬state.maximumInFlight ≤ state.currentInFlight := by
    have hflight := hholds.flight
    have hpos := state.maximumInFlight_pos
    omega
  unfold Providers.admitted
  cases hstatus : state.status <;> simp_all

theorem admitted_of_expired {t : Timestamp} (hopen : state.status = .open)
    (ht : state.openUntil = some t) (hpast : t ≤ now) :
    ∃ state', Providers.admitted breaker now state = some state' := by
  unfold Providers.admitted
  simp [hopen, ht, Int.not_lt.mpr hpast]

theorem admitted_of_room (hhalf : state.status = .halfOpen)
    (hroom : state.halfOpenProbeCount < breaker.maximumHalfOpenProbes) (now : Timestamp) :
    ∃ state', Providers.admitted breaker now state = some state' := by
  unfold Providers.admitted
  simp [hhalf, Nat.not_le.mpr hroom]

/-- With nothing in flight and enough probes, a circuit that need not stay open admits. -/
theorem Holds.admitted_of_idle (hholds : Holds breaker providerId capability w state)
    (hidle : w.calls = 0 ∧ w.probes = 0) (henabled : state.status ≠ .disabled)
    (hpast : state.status = .open → ∀ t ∈ state.openUntil, t ≤ now)
    (hprobes : breaker.successThreshold ≤ breaker.maximumHalfOpenProbes) :
    ∃ state', Providers.admitted breaker now state = some state' := by
  by_cases hopen : state.status = .open
  · obtain ⟨t, ht⟩ := hholds.sound.openUntil hopen
    exact admitted_of_expired hopen ht (hpast hopen t ht)
  · by_cases hhalf : state.status = .halfOpen
    · have hflight := hholds.flight
      have hcount := hholds.sound.probes hhalf
      have hfew := hholds.sound.successes (.inr hhalf)
      exact admitted_of_room hhalf (by omega) now
    · exact hholds.admitted_of_closed hidle henabled hopen hhalf now

theorem Holds.admit_report {state' : ProviderHealthState}
    (hholds : Holds breaker providerId capability w state)
    (hidle : w.calls = 0 ∧ w.probes = 0) (hnow : w.now ≤ now)
    (hadmitted : Providers.admitted breaker now state = some state') (outcome : Outcome) :
    ∃ w₁ probe, w₁ = w.perform breaker providerId capability now .allow ∧
      Holds breaker providerId capability w₁ state' ∧
      w.Possible now .allow ∧ w₁.Possible now (.report probe outcome) ∧
      probe = decide (state'.status = ProviderHealthStatus.halfOpen) ∧
      ∀ w', w' = w₁.perform breaker providerId capability now (.report probe outcome) →
        (w'.calls = 0 ∧ w'.probes = 0) ∧ w'.now = now := by
  have hallow : w.Possible now .allow := ⟨hnow, fun _ _ hcall => nomatch hcall⟩
  obtain ⟨state₁, hchanges, hholds₁⟩ := hholds.perform hallow
  have hstate : state₁ = state' := by
    cases hchanges with
    | admitted hadmitted₁ => exact Option.some.inj (hadmitted₁.symm.trans hadmitted)
    | refused hrefused =>
        rw [hadmitted] at hrefused
        cases hrefused
  subst hstate
  have hfirst := hholds.counts.perform_allow hadmitted
  refine ⟨_, decide (state₁.status = ProviderHealthStatus.halfOpen), rfl, hholds₁, hallow, ?_, rfl, ?_⟩
  · rw [hfirst]
    refine ⟨?_, fun probe _ hcall => ?_⟩
    · cases decide (state₁.status = ProviderHealthStatus.halfOpen) <;> exact Int.le_refl now
    · cases hcall
      cases decide (state₁.status = ProviderHealthStatus.halfOpen) <;> simp [World.letIn, World.pending]
  · rintro w' rfl
    rw [hfirst]
    obtain ⟨hcalls, hprobes⟩ := hidle
    cases decide (state₁.status = ProviderHealthStatus.halfOpen) <;>
      simp [World.perform, World.letIn, World.settle, hcalls, hprobes]

/-- An admitted call of an idle provider that reports success at once. -/
theorem Holds.serve {state' : ProviderHealthState}
    (hholds : Holds breaker providerId capability w state)
    (hidle : w.calls = 0 ∧ w.probes = 0) (hnow : w.now ≤ now)
    (hadmitted : Providers.admitted breaker now state = some state') :
    ∃ w', w.Serves breaker providerId capability now w' ∧
      Holds breaker providerId capability w'
        { Providers.succeeded breaker now state' with version := state'.version + 1 } ∧
      (w'.calls = 0 ∧ w'.probes = 0) ∧ w'.now = now := by
  obtain ⟨w₁, probe, rfl, hholds₁, -, hpossible, -, hafter⟩ :=
    hholds.admit_report hidle hnow hadmitted .success
  obtain ⟨state₂, hchanges, hholds₂⟩ := hholds₁.perform hpossible
  cases hchanges with
  | succeeded =>
    refine ⟨_, ⟨hholds.admits_iff.mpr ⟨_, hadmitted⟩, probe, hpossible, rfl⟩, hholds₂, ?_⟩
    exact hafter _ rfl

theorem served_eq {state' : ProviderHealthState}
    (hadmitted : Providers.admitted breaker now state = some state')
    (henabled : state.status ≠ .disabled) :
    (Providers.succeeded breaker now state').status ≠ .disabled ∧
      (Providers.succeeded breaker now state').status ≠ .open ∧
      (Providers.succeeded breaker now state').consecutiveSuccesses =
        state.consecutiveSuccesses + 1 ∧
      (breaker.successThreshold ≤ state.consecutiveSuccesses + 1 →
        (Providers.succeeded breaker now state').status = .healthy) := by
  obtain ⟨-, -, hstatus, -, -, hsuccesses, -⟩ := admitted_eq hadmitted
  obtain ⟨hstatus', -, -, hsuccesses', -⟩ := succeeded_eq breaker now state'
  have hphase : state'.status ≠ .disabled ∧ state'.status ≠ .open := by
    rw [hstatus]
    by_cases hopen : state.status = .open
    · simp [hopen]
    · simp [hopen, henabled]
  rw [hstatus', hsuccesses', hsuccesses]
  by_cases hmany : breaker.successThreshold ≤ state.consecutiveSuccesses + 1
  · simp [hmany, hphase.1]
  · simp [hmany, hphase.1, hphase.2]

/-- Serving calls often enough makes the provider healthy.  The induction is on the number
of successes that are missing. -/
theorem Holds.recovers_of_missing
    (hprobes : breaker.successThreshold ≤ breaker.maximumHalfOpenProbes) (missing : Nat) :
    ∀ {w : World} {state : ProviderHealthState},
      Holds breaker providerId capability w state → w.calls = 0 ∧ w.probes = 0 →
      w.now ≤ now → state.status ≠ .disabled →
      (state.status = .open → ∀ t ∈ state.openUntil, t ≤ now) →
      breaker.successThreshold ≤ state.consecutiveSuccesses + (missing + 1) →
      ∃ w', Relation.ReflTransGen (World.Serves breaker providerId capability now) w w' ∧
        ∃ state', w'.repository providerId capability = some state' ∧
          state'.status = .healthy := by
  induction missing with
  | zero =>
    intro w state hholds hidle hnow henabled hpast hmissing
    obtain ⟨state', hadmitted⟩ := hholds.admitted_of_idle hidle henabled hpast hprobes
    obtain ⟨w', hserves, hholds', -⟩ := hholds.serve hidle hnow hadmitted
    obtain ⟨-, -, -, hhealthy⟩ := served_eq hadmitted henabled
    exact ⟨w', .single hserves, _, hholds'.filed, hhealthy (by omega)⟩
  | succ missing ih =>
    intro w state hholds hidle hnow henabled hpast hmissing
    obtain ⟨state', hadmitted⟩ := hholds.admitted_of_idle hidle henabled hpast hprobes
    obtain ⟨w', hserves, hholds', hidle', hnow'⟩ := hholds.serve hidle hnow hadmitted
    obtain ⟨henabled', hclosed', hsuccesses', -⟩ := served_eq hadmitted henabled
    obtain ⟨w'', hmore, hhealthy⟩ := ih hholds' hidle' (Int.le_of_eq hnow') henabled'
      (fun hopen => absurd hopen hclosed') (by
        dsimp only
        rw [hsuccesses']
        omega)
    exact ⟨w'', .head hserves hmore, hhealthy⟩

theorem Holds.recovers (hholds : Holds breaker providerId capability w state)
    (hprobes : breaker.successThreshold ≤ breaker.maximumHalfOpenProbes) :
    w.Recovers breaker providerId capability := by
  intro state' hfile henabled hcalls hprobes' now hnow hpast
  have hsame : state = state' := Option.some.inj (hholds.filed.symm.trans hfile)
  subst hsame
  obtain ⟨after, hadmitted⟩ := hholds.admitted_of_idle ⟨hcalls, hprobes'⟩ henabled
    (fun _ => hpast) hprobes
  refine ⟨hholds.admits_iff.mpr ⟨after, hadmitted⟩, ?_⟩
  exact hholds.recovers_of_missing hprobes breaker.successThreshold ⟨hcalls, hprobes'⟩ hnow
    henabled (fun _ => hpast) (by omega)

/-! ## The stuck circuit -/

/-- A reachable world with nothing in flight. -/
structure Rests (breaker : CircuitBreaker) (providerId capability : String) (w : World)
    (state : ProviderHealthState) : Prop where
  reachable : Reachable breaker providerId capability w
  holds : Holds breaker providerId capability w state
  idle : w.calls = 0 ∧ w.probes = 0

/-- An admitted call that reports at once leaves the provider at rest. -/
theorem Rests.round {state' : ProviderHealthState}
    (hrests : Rests breaker providerId capability w state) (hnow : w.now ≤ now)
    (hadmitted : Providers.admitted breaker now state = some state') (outcome : Outcome) :
    ∃ w' state'' probe, Rests breaker providerId capability w' state'' ∧
      Changes breaker now state' (.report probe outcome) state'' := by
  obtain ⟨w₁, probe, rfl, hholds₁, hallow, hreport, -, hafter⟩ :=
    hrests.holds.admit_report hrests.idle hnow hadmitted outcome
  obtain ⟨state'', hchanges, hholds'⟩ := hholds₁.perform hreport
  have hreachable := (hrests.reachable.step hallow).step hreport
  exact ⟨_, state'', probe, ⟨hreachable, hholds', (hafter _ rfl).1⟩, hchanges⟩

/-- Calls that fail open a closed circuit.  The induction is on the number of failures that
are missing. -/
theorem Rests.opens (missing : Nat) :
    ∀ {w : World} {state : ProviderHealthState}, Rests breaker providerId capability w state →
      state.status ≠ .open → state.status ≠ .halfOpen → state.status ≠ .disabled →
      breaker.failureThreshold ≤ state.consecutiveFailures + (missing + 1) →
      ∃ w' state', Rests breaker providerId capability w' state' ∧ state'.status = .open ∧
        state'.consecutiveSuccesses = 0 := by
  induction missing with
  | zero =>
    intro w state hrests hclosed hhalf henabled hmissing
    obtain ⟨state₁, hadmitted⟩ := hrests.holds.admitted_of_closed hrests.idle henabled hclosed
      hhalf w.now
    obtain ⟨w', state', probe, hrests', hchanges⟩ :=
      hrests.round (Int.le_refl w.now) hadmitted (.failure "" "")
    obtain ⟨-, -, hstatus, -, -, -, hfailures, -⟩ := admitted_eq hadmitted
    rw [if_neg hclosed] at hstatus
    cases hchanges with
    | failed =>
        obtain ⟨hopened, -, -, hsuccesses, -⟩ := failed_eq breaker w.now "" "" state₁
        rw [hstatus, if_neg henabled, hfailures, if_pos hmissing] at hopened
        exact ⟨w', _, hrests', hopened, hsuccesses⟩
  | succ missing ih =>
    intro w state hrests hclosed hhalf henabled hmissing
    obtain ⟨state₁, hadmitted⟩ := hrests.holds.admitted_of_closed hrests.idle henabled hclosed
      hhalf w.now
    obtain ⟨w', state', probe, hrests', hchanges⟩ :=
      hrests.round (Int.le_refl w.now) hadmitted (.failure "" "")
    obtain ⟨-, -, hstatus, -, -, -, hfailures, -⟩ := admitted_eq hadmitted
    rw [if_neg hclosed] at hstatus
    cases hchanges with
    | failed =>
        obtain ⟨hopened, -, -, hsuccesses, hfailures', -⟩ :=
          failed_eq breaker w.now "" "" state₁
        rw [hstatus, if_neg henabled, hfailures] at hopened
        by_cases hmany : breaker.failureThreshold ≤ state.consecutiveFailures + 1
        · rw [if_pos hmany] at hopened
          exact ⟨w', _, hrests', hopened, hsuccesses⟩
        · rw [if_neg hmany] at hopened
          refine ih hrests' ?_ ?_ ?_ ?_
          · simp [hopened]
          · simp [hopened]
          · simp [hopened]
          · dsimp only
            rw [hfailures', hfailures]
            omega

theorem succeeded_of_few (hhalf : state.status = .halfOpen)
    (hfew : state.consecutiveSuccesses + 1 < breaker.successThreshold) (now : Timestamp) :
    (Providers.succeeded breaker now state).status = .halfOpen ∧
      (Providers.succeeded breaker now state).halfOpenProbeCount = state.halfOpenProbeCount ∧
      (Providers.succeeded breaker now state).consecutiveSuccesses =
        state.consecutiveSuccesses + 1 := by
  obtain ⟨hstatus, -, -, hsuccesses, -, hkept⟩ := succeeded_eq breaker now state
  rw [if_neg fun hguard => Nat.not_le.mpr hfew hguard.2, hhalf] at hstatus
  exact ⟨hstatus, (hkept (by simp [hstatus])).2, hsuccesses⟩

/-- Probes that succeed, too few to close the circuit, fill its places.  The induction is on
the number of probes. -/
theorem Rests.fills (hrests : Rests breaker providerId capability w state)
    (hopen : state.status = .open) (hnone : state.consecutiveSuccesses = 0) (n : Nat)
    (hplaces : n < breaker.maximumHalfOpenProbes) (hmissing : n + 1 < breaker.successThreshold) :
    ∃ w' state', Rests breaker providerId capability w' state' ∧ state'.status = .halfOpen ∧
      state'.halfOpenProbeCount = n + 1 ∧ state'.consecutiveSuccesses = n + 1 := by
  induction n with
  | zero =>
    obtain ⟨t, ht⟩ := hrests.holds.sound.openUntil hopen
    obtain ⟨state₁, hadmitted⟩ := admitted_of_expired hopen ht
      (Int.le_max_right w.now t)
    obtain ⟨w', state', probe, hrests', hchanges⟩ :=
      hrests.round (Int.le_max_left w.now t) hadmitted .success
    obtain ⟨-, -, hstatus, -, -, hsuccesses, -, -, hcount, -⟩ := admitted_eq hadmitted
    rw [if_pos hopen] at hstatus hcount
    cases hchanges with
    | succeeded =>
        obtain ⟨hhalf', hcount', hsuccesses'⟩ := succeeded_of_few hstatus
          (by omega : state₁.consecutiveSuccesses + 1 < breaker.successThreshold) (max w.now t)
        exact ⟨w', _, hrests', hhalf', by dsimp only; omega, by dsimp only; omega⟩
  | succ n ih =>
    obtain ⟨w₁, state₁, hrests₁, hhalf, hcount, hsuccesses⟩ := ih (by omega) (by omega)
    have hroom : state₁.halfOpenProbeCount < breaker.maximumHalfOpenProbes := by omega
    obtain ⟨state₂, hadmitted⟩ := admitted_of_room hhalf hroom w₁.now
    obtain ⟨w', state', probe, hrests', hchanges⟩ :=
      hrests₁.round (Int.le_refl w₁.now) hadmitted .success
    have hclosed : state₁.status ≠ .open := by simp [hhalf]
    obtain ⟨-, -, hstatus₂, -, -, hsuccesses₂, -, -, hcount₂, -⟩ := admitted_eq hadmitted
    rw [if_neg hclosed] at hstatus₂ hcount₂
    rw [if_pos hhalf] at hcount₂
    cases hchanges with
    | succeeded =>
        obtain ⟨hhalf', hcount', hsuccesses'⟩ := succeeded_of_few (hstatus₂.trans hhalf)
          (by omega : state₂.consecutiveSuccesses + 1 < breaker.successThreshold) w₁.now
        exact ⟨w', _, hrests', hhalf', by dsimp only; omega, by dsimp only; omega⟩

/-- A half-open circuit whose places are all taken does not recover. -/
theorem Rests.stuck (hrests : Rests breaker providerId capability w state)
    (hhalf : state.status = .halfOpen)
    (hfull : breaker.maximumHalfOpenProbes ≤ state.halfOpenProbeCount) :
    ¬w.Recovers breaker providerId capability := by
  intro hrecovers
  obtain ⟨now, hnow, hpast⟩ : ∃ now, w.now ≤ now ∧ ∀ t ∈ state.openUntil, t ≤ now := by
    cases state.openUntil with
    | none => exact ⟨w.now, Int.le_refl _, fun _ ht => nomatch ht⟩
    | some t =>
        refine ⟨max w.now t, Int.le_max_left _ _, fun t' ht => ?_⟩
        cases ht
        exact Int.le_max_right _ _
  obtain ⟨hadmits, -⟩ := hrecovers state hrests.holds.filed (by simp [hhalf]) hrests.idle.1
    hrests.idle.2 now hnow hpast
  obtain ⟨state', hadmitted⟩ := hrests.holds.admits_iff.mp hadmits
  unfold Providers.admitted at hadmitted
  simp [hhalf, hfull] at hadmitted

/-- The record of a provider as it is first put on file. -/
def ProviderHealthState.initial (providerId capability : String) (now : Timestamp) :
    ProviderHealthState where
  providerId
  capability
  status := .unknown
  consecutiveSuccesses := 0
  consecutiveFailures := 0
  lastSuccessAt := none
  lastFailureAt := none
  lastFailureCategory := none
  lastFailureCode := none
  openUntil := none
  halfOpenProbeCount := 0
  currentInFlight := 0
  maximumInFlight := 1
  updatedAt := now
  maximumInFlight_pos := Nat.le_refl 1

/-- When more successes are asked for than there are places for probes, some run ends with a
circuit that does not recover. -/
theorem exists_stuck (breaker : CircuitBreaker) (providerId capability : String)
    (hfew : breaker.maximumHalfOpenProbes < breaker.successThreshold) :
    ∃ w, Reachable breaker providerId capability w ∧
      ¬w.Recovers breaker providerId capability := by
  let start := ProviderHealthState.initial providerId capability 0
  let w : World := ⟨fun _ _ => some start, 0, 0, 0⟩
  have hfresh : Fresh start := by
    constructor <;> simp [start, ProviderHealthState.initial]
  have hinit : Reachable breaker providerId capability w := .init rfl ⟨rfl, rfl⟩ hfresh
  have hrests : Rests breaker providerId capability w start :=
    ⟨hinit, .init rfl ⟨rfl, rfl⟩ hfresh, rfl, rfl⟩
  obtain ⟨w₁, state₁, hrests₁, hopen, hnone⟩ := hrests.opens breaker.failureThreshold
    hfresh.not_open hfresh.not_halfOpen (by simp [start, ProviderHealthState.initial]) (by omega)
  have hpos := breaker.maximumHalfOpenProbes_pos
  obtain ⟨w₂, state₂, hrests₂, hhalf, hcount, -⟩ := hrests₁.fills hopen hnone
    (breaker.maximumHalfOpenProbes - 1) (by omega) (by omega)
  exact ⟨w₂, hrests₂.reachable, hrests₂.stuck hhalf (by omega)⟩

end Steps

/-! ## The protocol holds exactly under its condition -/

/-- In every run, a call respects the protocol exactly when it is timely; and every provider
recovers exactly when the probes are as many as the successes that close the circuit. -/
theorem circuit_protocol (breaker : CircuitBreaker) (providerId capability : String) :
    (∀ w, Reachable breaker providerId capability w → ∀ now call, w.Possible now call →
      ∃ state state', w.repository providerId capability = some state ∧
        (w.perform breaker providerId capability now call).repository providerId capability =
          some state' ∧
        (Respects breaker providerId capability w now call state state' ↔
          Timely breaker state call)) ∧
    ((∀ w, Reachable breaker providerId capability w →
        w.Recovers breaker providerId capability) ↔
      breaker.successThreshold ≤ breaker.maximumHalfOpenProbes) := by
  constructor
  · intro w hw now call hpossible
    obtain ⟨state, hholds⟩ := hw.holds
    obtain ⟨state', hchanges, hholds'⟩ := hholds.perform hpossible
    exact ⟨state, state', hholds.filed, hholds'.filed, hholds.respects_iff hchanges⟩
  · constructor
    · intro hall
      refine Nat.le_of_not_lt fun hfew => ?_
      obtain ⟨w, hw, hstuck⟩ := exists_stuck breaker providerId capability hfew
      exact hstuck (hall w hw)
    · intro hprobes w hw
      obtain ⟨state, hholds⟩ := hw.holds
      exact hholds.recovers hprobes

/-- A breaker that opens on the first failure. -/
def eagerBreaker : CircuitBreaker :=
  ⟨1, 1, 30000000, 1, Nat.le_refl 1, Nat.le_refl 1, Nat.le_refl 1⟩

/-- A provider that takes two calls at a time. -/
def pairedProvider : ProviderHealthState :=
  { ProviderHealthState.initial "primary" "chat" 0 with
    maximumInFlight := 2, maximumInFlight_pos := Nat.le_succ 1 }

/-- The provider is on record, and no call was made yet. -/
def pairedWorld : World := ⟨fun _ _ => some pairedProvider, 0, 0, 0⟩

/-- Two calls are admitted, and the first one fails. -/
def openedWorld : World :=
  ((pairedWorld.perform eagerBreaker "primary" "chat" 0 .allow).perform eagerBreaker
    "primary" "chat" 0 .allow).perform eagerBreaker "primary" "chat" 1
      (.report false (.failure "timeout" "504"))

/-- A success that arrives after the circuit has opened makes the provider healthy, long
before the time of the circuit has come. -/
theorem late_success_closes :
    ¬∀ (breaker : CircuitBreaker) (providerId capability : String) (w : World)
      (now : Timestamp) (call : Call) (state state' : ProviderHealthState),
      Reachable breaker providerId capability w → w.Possible now call →
      w.repository providerId capability = some state →
      (w.perform breaker providerId capability now call).repository providerId capability =
        some state' →
      Respects breaker providerId capability w now call state state' := by
  intro hrespects
  have hallow (w : World) (now : Timestamp) (hnow : w.now ≤ now) : w.Possible now .allow :=
    ⟨hnow, fun _ _ hcall => nomatch hcall⟩
  have hreport (w : World) (now : Timestamp) (hnow : w.now ≤ now) (hcalls : 0 < w.calls)
      (outcome : Outcome) : w.Possible now (.report false outcome) :=
    ⟨hnow, fun _ _ hcall => by cases hcall; exact hcalls⟩
  have hstart : Reachable eagerBreaker "primary" "chat" pairedWorld :=
    .init (rfl : _ = some pairedProvider) ⟨rfl, rfl⟩ ⟨by decide, by decide, by decide⟩
  have hreachable : Reachable eagerBreaker "primary" "chat" openedWorld := by
    unfold openedWorld
    refine .step (.step (.step hstart ?_) ?_) ?_
    · exact hallow _ _ (by decide)
    · exact hallow _ _ (by decide)
    · exact hreport _ _ (by decide) (by decide) _
  have hrespects := hrespects eagerBreaker "primary" "chat" openedWorld 2
    (.report false .success) _ _ hreachable (hreport _ _ (by decide) (by decide) _) rfl rfl
  exact hrespects.stays (by decide) ⟨30000001, by decide, by decide⟩ (by decide)

end Providers
end Ascos
