import Ascos.Providers.CircuitProtocol
import Mathlib

/-!
# The calls in flight

Runs of `allow`, `success` and `failure` in which every admitted call reports one
outcome at most, at any time after its admission and by any clock.

Main results:

- Theorem `in_flight_accounting`: the record always counts the calls that are pending, and
  the breakers that keep within the capacity are those with a single half-open probe.
-/

namespace Ascos
namespace Providers

open Ascos.Runtime (Timestamp)

/-! ## Runs -/

section Runs

variable (breaker : CircuitBreaker) (providerId capability : String)

/-- A call at any time; a report is about a call that is pending. -/
def World.Steps (w w' : World) : Prop :=
  ∃ now call, (∀ probe outcome, call = Call.report probe outcome → 0 < w.pending probe) ∧
    w' = w.perform breaker providerId capability now call

/-- A call by a clock that does not go back. -/
def World.TimedSteps (w w' : World) : Prop :=
  ∃ now call, w.Possible now call ∧ w' = w.perform breaker providerId capability now call

/-- The record counts the admitted calls that are pending. -/
def World.Accounted (w : World) : Prop :=
  ∃ state, w.repository providerId capability = some state ∧
    state.currentInFlight = w.calls + w.probes

/-- The calls in flight are within the capacity. -/
def World.Bounded (w : World) : Prop :=
  ∃ state, w.repository providerId capability = some state ∧
    state.currentInFlight ≤ state.maximumInFlight

/-- The calls in flight are within the capacity.  An open circuit leaves room for the probe that
follows, and a half-open one for the probe that it has not admitted. -/
structure Capped (state : ProviderHealthState) : Prop where
  within : state.currentInFlight ≤ state.maximumInFlight
  opened : state.status = .open → state.currentInFlight + 1 ≤ state.maximumInFlight
  halfOpened : state.status = .halfOpen →
    state.currentInFlight + 1 ≤ state.maximumInFlight + state.halfOpenProbeCount

end Runs

variable {breaker : CircuitBreaker} {providerId capability : String} {w w' : World}
  {state state' : ProviderHealthState} {now : Timestamp} {call : Call}

/-! ## Breakers with a single probe -/

/-- Admission by a breaker with a single probe keeps within the capacity. -/
theorem Capped.admitted (hcapped : Capped state) (hprobes : breaker.maximumHalfOpenProbes = 1)
    (hadmitted : admitted breaker now state = some state') : Capped state' := by
  unfold Providers.admitted at hadmitted
  cases hstatus : state.status
  all_goals simp only [hstatus] at hadmitted
  case disabled => cases hadmitted
  case «open» =>
    have hroom := hcapped.opened hstatus
    obtain ⟨-, hstate⟩ := Option.ite_none_left_eq_some.mp hadmitted
    obtain rfl := Option.some.inj hstate
    exact ⟨hroom, fun h => by simp at h, fun _ => Nat.succ_le_succ hroom⟩
  case halfOpen =>
    have hroom := hcapped.halfOpened hstatus
    obtain ⟨hfree, hstate⟩ := Option.ite_none_left_eq_some.mp hadmitted
    obtain rfl := Option.some.inj hstate
    have hnone : state.halfOpenProbeCount = 0 := by omega
    refine ⟨by simpa [hnone] using hroom, fun h => by simp at h, fun _ => ?_⟩
    simp only
    omega
  all_goals
    obtain ⟨hfree, hstate⟩ := Option.ite_none_left_eq_some.mp hadmitted
    obtain rfl := Option.some.inj hstate
    refine ⟨Nat.not_le.mp hfree, fun h => ?_, fun h => ?_⟩
    all_goals simp at h

/-- An outcome of a pending call keeps within the capacity. -/
theorem Capped.succeeded (breaker : CircuitBreaker) (now : Timestamp) (hcapped : Capped state) :
    Capped (succeeded breaker now state) := by
  have hwithin := hcapped.within
  have hopened := hcapped.opened
  have hhalf := hcapped.halfOpened
  unfold Providers.succeeded
  by_cases hthreshold : state.status ≠ .disabled ∧
      breaker.successThreshold ≤ state.consecutiveSuccesses + 1
  · simp only [hthreshold, ne_eq, not_false_iff, and_self, if_true]
    refine ⟨?_, fun h => by simp at h, fun h => by simp at h⟩
    simp only
    omega
  · simp only [hthreshold, if_false]
    refine ⟨?_, fun h => ?_, fun h => ?_⟩
    · simp only
      omega
    · have := hopened h
      simp only
      omega
    · have := hhalf h
      simp only
      omega

theorem Capped.failed (breaker : CircuitBreaker) (now : Timestamp) (hcapped : Capped state)
    (hflight : 0 < state.currentInFlight) (category code : String) :
    Capped (failed breaker now category code state) := by
  obtain ⟨hstatus, -, -, -, -, hflight', hmaximum, -⟩ :=
    failed_eq breaker now category code state
  have hwithin := hcapped.within
  refine ⟨by omega, fun _ => by omega, fun hhalf => ?_⟩
  rw [hstatus] at hhalf
  by_cases hdisabled : state.status = .disabled
  · simp [hdisabled] at hhalf
  · by_cases hthreshold : breaker.failureThreshold ≤ state.consecutiveFailures + 1
    · simp [hdisabled, hthreshold] at hhalf
    · simp [hdisabled, hthreshold] at hhalf

/-- A step of a breaker with a single probe keeps within the capacity. -/
theorem Capped.changes (hcapped : Capped state) (hcounts : Counts providerId capability w state)
    (hprobes : breaker.maximumHalfOpenProbes = 1)
    (hpossible : ∀ probe outcome, call = .report probe outcome → 0 < w.pending probe)
    (hchanges : Changes breaker now state call state') : Capped state' := by
  cases hchanges with
  | admitted hadmitted => exact hcapped.admitted hprobes hadmitted
  | refused _ => exact hcapped
  | succeeded probe =>
    obtain ⟨hwithin, hopened, hhalf⟩ := hcapped.succeeded breaker now
    exact ⟨hwithin, hopened, hhalf⟩
  | failed probe category code =>
    have hflight := hcounts.inFlight_pos (hpossible probe _ rfl)
    obtain ⟨hwithin, hopened, hhalf⟩ := hcapped.failed breaker now hflight
      category code
    exact ⟨hwithin, hopened, hhalf⟩

/-! ## Every run -/

theorem Counts.run (hcounts : Counts providerId capability w state)
    (hrun : Relation.ReflTransGen (World.Steps breaker providerId capability) w w') :
    ∃ state', Counts providerId capability w' state' := by
  induction hrun with
  | refl => exact ⟨state, hcounts⟩
  | tail _ hstep ih =>
    obtain ⟨middle, hmiddle⟩ := ih
    obtain ⟨now, call, hpossible, rfl⟩ := hstep
    obtain ⟨state', -, hcounts'⟩ := hmiddle.perform breaker now hpossible
    exact ⟨state', hcounts'⟩

theorem Capped.run (hcounts : Counts providerId capability w state) (hcapped : Capped state)
    (hprobes : breaker.maximumHalfOpenProbes = 1)
    (hrun : Relation.ReflTransGen (World.Steps breaker providerId capability) w w') :
    ∃ state', Counts providerId capability w' state' ∧ Capped state' := by
  induction hrun with
  | refl => exact ⟨state, hcounts, hcapped⟩
  | tail _ hstep ih =>
    obtain ⟨middle, hmiddle, hmiddleCapped⟩ := ih
    obtain ⟨now, call, hpossible, rfl⟩ := hstep
    obtain ⟨state', hchanges, hcounts'⟩ :=
      hmiddle.perform breaker now hpossible
    exact ⟨state', hcounts', hmiddleCapped.changes hmiddle hprobes hpossible hchanges⟩

/-! ## Breakers with several probes -/

/-- A provider that is neither open, half open nor disabled, whose capacity is used up by ordinary
calls. -/
structure Full (providerId capability : String) (w : World) (state : ProviderHealthState) :
    Prop where
  counts : Counts providerId capability w state
  ordinary : w.probes = 0
  enabled : state.status ≠ .disabled
  not_open : state.status ≠ .open
  not_halfOpen : state.status ≠ .halfOpen
  full : state.currentInFlight = state.maximumInFlight
theorem Counts.admit (hcounts : Counts providerId capability w state) (hnow : w.now ≤ now)
    (hadmitted : admitted breaker now state = some state') :
    ∃ w', w.TimedSteps breaker providerId capability w' ∧
      Counts providerId capability w' state' ∧ w'.now = now ∧
      (state'.status ≠ .halfOpen → w'.probes = w.probes) := by
  have hallow : w.Possible now .allow := ⟨hnow, fun _ _ hcall => by cases hcall⟩
  obtain ⟨after, hchanges, hcounts'⟩ := hcounts.perform breaker now hallow.2
  have hafter : after = state' := by
    cases hchanges with
    | admitted h => exact Option.some.inj (h.symm.trans hadmitted)
    | refused h => simp [hadmitted] at h
  subst hafter
  refine ⟨_, ⟨now, .allow, hallow, rfl⟩, hcounts', ?_⟩
  rw [hcounts.perform_allow hadmitted]
  by_cases hhalf : after.status = .halfOpen
  · simp [hhalf, World.letIn]
  · simp [hhalf, World.letIn]

/-- An ordinary call fails at once. -/
theorem Counts.fail (breaker : CircuitBreaker) (hcounts : Counts providerId capability w state)
    (hcalls : 0 < w.calls) :
    ∃ w', w.TimedSteps breaker providerId capability w' ∧
      Counts providerId capability w'
        { failed breaker w.now "timeout" "504" state with version := state.version + 1 } ∧
      w'.now = w.now ∧ w'.probes = w.probes := by
  have hreport : w.Possible w.now (.report false (.failure "timeout" "504")) := by
    refine ⟨Int.le_refl _, fun probe outcome hcall => ?_⟩
    cases hcall
    exact hcalls
  obtain ⟨after, hchanges, hcounts'⟩ := hcounts.perform breaker w.now hreport.2
  cases hchanges with
  | failed => exact ⟨_, ⟨w.now, _, hreport, rfl⟩, hcounts', rfl, rfl⟩

/-- An enabled provider whose circuit is closed takes calls up to its capacity.  The induction is
on the room that is left. -/
theorem exists_full (breaker : CircuitBreaker) (room : Nat)
    (hcounts : Counts providerId capability w state) (hordinary : w.probes = 0)
    (henabled : state.status ≠ .disabled) (hclosed : state.status ≠ .open)
    (hhalf : state.status ≠ .halfOpen)
    (hroom : state.currentInFlight + room = state.maximumInFlight) :
    ∃ w' state', Relation.ReflTransGen (World.TimedSteps breaker providerId capability) w w' ∧
      Full providerId capability w' state' ∧
      state'.consecutiveFailures = state.consecutiveFailures := by
  induction room generalizing w state with
  | zero => exact ⟨w, state, .refl, ⟨hcounts, hordinary, henabled, hclosed, hhalf, hroom⟩, rfl⟩
  | succ room ih =>
    obtain ⟨state', hadmitted⟩ :
        ∃ state', admitted breaker w.now state = some state' := by
      rw [← Option.isSome_iff_exists]
      unfold admitted
      cases hstatus : state.status
      case disabled => exact absurd hstatus henabled
      case «open» => exact absurd hstatus hclosed
      case halfOpen => exact absurd hstatus hhalf
      all_goals
        simp only
        rw [if_neg (by omega)]
        rfl
    obtain ⟨-, -, hstatus, -, -, -, hfailures, -, -, hflight, hmaximum⟩ :=
      admitted_eq hadmitted
    rw [if_neg hclosed] at hstatus
    obtain ⟨w', hstep, hcounts', -, hprobes⟩ := hcounts.admit (Int.le_refl _) hadmitted
    obtain ⟨w'', state'', hrun, hfull, hkept⟩ := ih hcounts'
      ((hprobes (by rwa [hstatus])).trans hordinary) (by rwa [hstatus]) (by rwa [hstatus])
      (by rwa [hstatus]) (by omega)
    exact ⟨w'', state'', .head hstep hrun, hfull, hkept.trans hfailures⟩

theorem exceeds_of_open {t : Timestamp} (hcounts : Counts providerId capability w state)
    (hprobes : 1 < breaker.maximumHalfOpenProbes) (hopen : state.status = .open)
    (ht : state.openUntil = some t) (hflight : state.currentInFlight + 1 = state.maximumInFlight) :
    ∃ w', Relation.ReflTransGen (World.TimedSteps breaker providerId capability) w w' ∧
      ¬ w'.Bounded providerId capability := by
  obtain ⟨first, hfirst⟩ := admitted_of_expired hopen ht
    (Int.le_max_right w.now t)
  obtain ⟨w₁, hstep₁, hcounts₁, -, -⟩ := hcounts.admit (Int.le_max_left w.now t) hfirst
  obtain ⟨-, -, hstatus, -, -, -, -, -, hcount, hflight₁, hmaximum⟩ := admitted_eq hfirst
  rw [if_pos hopen] at hstatus hcount
  have hroom : first.halfOpenProbeCount < breaker.maximumHalfOpenProbes := by omega
  obtain ⟨second, hsecond⟩ := admitted_of_room hstatus hroom w₁.now
  obtain ⟨w₂, hstep₂, hcounts₂, -, -⟩ := hcounts₁.admit (Int.le_refl _) hsecond
  obtain ⟨-, -, -, -, -, -, -, -, -, hflight₂, hmaximum₂⟩ := admitted_eq hsecond
  refine ⟨w₂, .head hstep₁ (.single hstep₂), ?_⟩
  rintro ⟨filed, hfiled, hwithin⟩
  obtain rfl := Option.some.inj (hcounts₂.filed.symm.trans hfiled)
  omega

theorem Full.calls_pos (hfull : Full providerId capability w state) : 0 < w.calls := by
  have hflight := hfull.counts.flight
  have hpos := state.maximumInFlight_pos
  have hall := hfull.full
  have hordinary := hfull.ordinary
  omega

theorem Full.exceeds_of_opens (hprobes : 1 < breaker.maximumHalfOpenProbes)
    (hfull : Full providerId capability w state)
    (hopens : breaker.failureThreshold ≤ state.consecutiveFailures + 1) :
    ∃ w', Relation.ReflTransGen (World.TimedSteps breaker providerId capability) w w' ∧
      ¬ w'.Bounded providerId capability := by
  have hpos := state.maximumInFlight_pos
  have hall := hfull.full
  obtain ⟨w₁, hstep, hcounts, -, -⟩ := hfull.counts.fail breaker hfull.calls_pos
  obtain ⟨hstatus, -, -, -, -, hflight, hmaximum, huntil⟩ :=
    failed_eq breaker w.now "timeout" "504" state
  rw [if_neg hfull.enabled, if_pos hopens] at hstatus
  obtain ⟨w₂, hrun, hexceeds⟩ := exceeds_of_open hcounts hprobes hstatus (huntil hstatus)
    (by simp only; omega)
  exact ⟨w₂, .head hstep hrun, hexceeds⟩

/-- A provider whose capacity is used up is driven beyond it.  The induction is on the failures
that are missing before the circuit opens. -/
theorem Full.exceeds (hprobes : 1 < breaker.maximumHalfOpenProbes) (missing : Nat)
    (hfull : Full providerId capability w state)
    (hmissing : breaker.failureThreshold ≤ state.consecutiveFailures + 1 + missing) :
    ∃ w', Relation.ReflTransGen (World.TimedSteps breaker providerId capability) w w' ∧
      ¬ w'.Bounded providerId capability := by
  induction missing generalizing w state with
  | zero => exact hfull.exceeds_of_opens hprobes hmissing
  | succ missing ih =>
    by_cases hopens : breaker.failureThreshold ≤ state.consecutiveFailures + 1
    · exact hfull.exceeds_of_opens hprobes hopens
    · -- The circuit stays closed, and another call takes the place of the failed one.
      have hpos := state.maximumInFlight_pos
      have hall := hfull.full
      obtain ⟨w₁, hstep, hcounts, -, hordinary⟩ := hfull.counts.fail breaker hfull.calls_pos
      obtain ⟨hstatus, -, -, -, hfailures, hflight, hmaximum, -⟩ :=
        failed_eq breaker w.now "timeout" "504" state
      rw [if_neg hfull.enabled, if_neg hopens] at hstatus
      obtain ⟨w₂, state₂, hrun, hfull₂, hkept⟩ := exists_full breaker 1 hcounts
        (hordinary.trans hfull.ordinary) (by simp [hstatus]) (by simp [hstatus])
        (by simp [hstatus]) (by simp only; omega)
      simp only at hkept
      obtain ⟨w₃, hrest, hexceeds⟩ := ih hfull₂ (by omega)
      exact ⟨w₃, .head hstep (hrun.trans hrest), hexceeds⟩

/-! ## The accounting -/

/-- From any record without calls in flight, the record always counts the pending calls; a
breaker with a single half-open probe keeps within the capacity, and one with several exceeds it
in some run of every enabled provider whose circuit is closed. -/
theorem in_flight_accounting (breaker : CircuitBreaker)
    (hcounts : Counts providerId capability w state) (hidle : w.calls = 0 ∧ w.probes = 0) :
    (∀ w', Relation.ReflTransGen (World.Steps breaker providerId capability) w w' →
      w'.Accounted providerId capability) ∧
    (breaker.maximumHalfOpenProbes = 1 →
      ∀ w', Relation.ReflTransGen (World.Steps breaker providerId capability) w w' →
        w'.Bounded providerId capability) ∧
    (Fresh state → state.status ≠ .disabled →
      ((∀ w', Relation.ReflTransGen (World.TimedSteps breaker providerId capability) w w' →
        w'.Bounded providerId capability) ↔ breaker.maximumHalfOpenProbes = 1)) := by
  have hflight : state.currentInFlight = 0 := by
    rw [hcounts.flight, hidle.1, hidle.2]
  have hpos := state.maximumInFlight_pos
  have hcapped : Capped state := by
    refine ⟨by omega, fun _ => by omega, fun _ => by omega⟩
  have hbounded : breaker.maximumHalfOpenProbes = 1 →
      ∀ w', Relation.ReflTransGen (World.Steps breaker providerId capability) w w' →
        w'.Bounded providerId capability := by
    intro hprobes w' hrun
    obtain ⟨state', hcounts', hcapped'⟩ := hcapped.run hcounts hprobes hrun
    exact ⟨state', hcounts'.filed, hcapped'.within⟩
  refine ⟨fun w' hrun => ?_, hbounded, fun hfresh henabled => ⟨fun hall => ?_, ?_⟩⟩
  · obtain ⟨state', hcounts'⟩ := hcounts.run hrun
    exact ⟨state', hcounts'.filed, hcounts'.flight⟩
  · by_contra hseveral
    have hprobes : 1 < breaker.maximumHalfOpenProbes := by
      have := breaker.maximumHalfOpenProbes_pos
      omega
    obtain ⟨w₁, state₁, hrun, hfull, -⟩ := exists_full breaker state.maximumInFlight hcounts
      hidle.2 henabled hfresh.not_open hfresh.not_halfOpen (by omega)
    obtain ⟨w₂, hrest, hexceeds⟩ := hfull.exceeds hprobes breaker.failureThreshold (by omega)
    exact hexceeds (hall w₂ (hrun.trans hrest))
  · intro hprobes w' hrun
    refine hbounded hprobes w' (hrun.lift id fun _ _ hstep => ?_)
    obtain ⟨now, call, hpossible, rfl⟩ := hstep
    exact ⟨now, call, hpossible.2, rfl⟩

/-- A provider with the capacity of one call, and no call was made yet. -/
def sampleWorld : World :=
  ⟨fun _ _ => some (ProviderHealthState.initial "primary" "chat" 0), 0, 0, 0⟩

theorem sampleWorld_counts :
    Counts "primary" "chat" sampleWorld (ProviderHealthState.initial "primary" "chat" 0) :=
  ⟨rfl, ⟨rfl, rfl⟩, rfl⟩

/-- The default breaker keeps within the capacity of the provider. -/
theorem in_flight_accounting_sample :
    sampleWorld.Accounted "primary" "chat" ∧
      ∀ w', Relation.ReflTransGen (World.TimedSteps {} "primary" "chat") sampleWorld w' →
        w'.Bounded "primary" "chat" := by
  obtain ⟨haccounted, -, hbounded⟩ := in_flight_accounting {} sampleWorld_counts ⟨rfl, rfl⟩
  refine ⟨haccounted _ .refl, ?_⟩
  exact (hbounded ⟨by decide, by decide, rfl⟩ (by decide)).mpr rfl

/-- A breaker that opens on the first failure and then admits two probes. -/
def twoProbes : CircuitBreaker :=
  { failureThreshold := 1
    maximumHalfOpenProbes := 2
    failureThreshold_pos := Nat.one_pos
    successThreshold_pos := Nat.one_pos
    maximumHalfOpenProbes_pos := Nat.two_pos }

/-- One call fails, and the two probes of the half-open circuit exceed the capacity of one. -/
theorem not_in_flight_bounded :
    ¬ ∀ (breaker : CircuitBreaker) (providerId capability : String) (w w' : World)
      (state : ProviderHealthState), Counts providerId capability w state →
      w.calls = 0 ∧ w.probes = 0 →
      Relation.ReflTransGen (World.Steps breaker providerId capability) w w' →
      w'.Accounted providerId capability ∧ w'.Bounded providerId capability := by
  intro h
  have hallow : ∀ (w : World) (now : Timestamp), w.Steps twoProbes "primary" "chat"
      (w.perform twoProbes "primary" "chat" now .allow) :=
    fun w now => ⟨now, .allow, ⟨fun _ _ hcall => (by cases hcall), rfl⟩⟩
  let admitted := sampleWorld.perform twoProbes "primary" "chat" 0 .allow
  let opened := admitted.perform twoProbes "primary" "chat" 0
    (.report false (.failure "timeout" "504"))
  have hfail : admitted.Steps twoProbes "primary" "chat" opened := by
    refine ⟨0, _, fun probe outcome hcall => ?_, rfl⟩
    cases hcall
    exact Nat.zero_lt_one
  have hrun := (Relation.ReflTransGen.single (hallow sampleWorld 0)).tail hfail
    |>.tail (hallow opened 30000000)
    |>.tail (hallow (opened.perform twoProbes "primary" "chat" 30000000 .allow) 30000000)
  obtain ⟨-, filed, hfiled, hwithin⟩ := h twoProbes "primary" "chat" sampleWorld _ _
    sampleWorld_counts ⟨rfl, rfl⟩ hrun
  obtain rfl := Option.some.inj (hfiled : some _ = some filed)
  exact absurd hwithin (by decide)

end Providers
end Ascos
