import Ascos.Library.Program
import Ascos.Runtime.Model

/-!
# The circuit breaker of a provider

A translation of `runtime/providers/health`: the state record of `models.py`, the
repository of `repository.py`, and `circuit_breaker.py`.  A record that a method
loads is a copy; what it changes takes effect when the record is saved.
-/

namespace Ascos
namespace Providers

open Library Library.Program
open Ascos.Runtime (Timestamp)

/-! ## Records -/

inductive ProviderHealthStatus where
  | unknown
  | healthy
  | degraded
  | open
  | halfOpen
  | disabled
deriving DecidableEq

structure ProviderHealthState where
  providerId : String
  capability : String
  status : ProviderHealthStatus
  consecutiveSuccesses : Nat
  consecutiveFailures : Nat
  lastSuccessAt : Option Timestamp
  lastFailureAt : Option Timestamp
  lastFailureCategory : Option String
  lastFailureCode : Option String
  openUntil : Option Timestamp
  halfOpenProbeCount : Nat
  currentInFlight : Nat
  maximumInFlight : Nat
  updatedAt : Timestamp
  version : Nat := 0
  operatorDisabled : Bool := false
  /-- The check of `__post_init__` on the capacity. -/
  maximumInFlight_pos : 1 ≤ maximumInFlight
deriving DecidableEq

/-- The exception classes that the methods raise. -/
inductive ProviderErrorClass where
  | providerUnavailableError
  | providerHealthNotFoundError
  | providerHealthVersionConflictError
  | valueError
deriving DecidableEq

/-- A raised exception with its message. -/
structure ProviderError where
  errorClass : ProviderErrorClass
  message : String
deriving DecidableEq

/-! ## The repository -/

/-- `InMemoryProviderHealthRepository._states`. -/
abbrev Repository := String → String → Option ProviderHealthState

/-- A method that works on the repository, and may raise. -/
abbrev Health (α : Type) := Program Repository ProviderError α

def get (providerId capability : String) : Health ProviderHealthState := do
  match (← MonadState.get) providerId capability with
  | some state => pure state
  | none => throw ⟨.providerHealthNotFoundError, "Provider health not found"⟩

/-- The repository with a record filed. -/
def Repository.file (repository : Repository) (state : ProviderHealthState) : Repository :=
  fun providerId capability =>
    if providerId = state.providerId ∧ capability = state.capability then some state
    else repository providerId capability

/-- `InMemoryProviderHealthRepository.save`, which also sets the version of the record that
it is given. -/
def save (state : ProviderHealthState) (expectedVersion : Nat) : Health ProviderHealthState := do
  let current ← get state.providerId state.capability
  if current.version ≠ expectedVersion then
    throw ⟨.providerHealthVersionConflictError, "Provider health version conflict"⟩
  else
    let state := { state with version := expectedVersion + 1 }
    modify fun repository : Repository => repository.file state
    pure state

/-! ## The breaker -/

/-- `CircuitBreaker`, with what its constructor checks; `openSeconds` is in
microseconds. -/
structure CircuitBreaker where
  failureThreshold : Nat := 3
  successThreshold : Nat := 1
  openSeconds : Int := 30000000
  maximumHalfOpenProbes : Nat := 1
  failureThreshold_pos : 1 ≤ failureThreshold := by decide
  successThreshold_pos : 1 ≤ successThreshold := by decide
  maximumHalfOpenProbes_pos : 1 ≤ maximumHalfOpenProbes := by decide

variable (breaker : CircuitBreaker) (now : Timestamp)

def CircuitBreaker.new (failureThreshold successThreshold : Nat) (openSeconds : Int)
    (maximumHalfOpenProbes : Nat) : Except ProviderError CircuitBreaker :=
  if h : 1 ≤ failureThreshold ∧ 1 ≤ successThreshold ∧ 1 ≤ maximumHalfOpenProbes then
    .ok
      { failureThreshold, successThreshold, openSeconds, maximumHalfOpenProbes
        failureThreshold_pos := h.1
        successThreshold_pos := h.2.1
        maximumHalfOpenProbes_pos := h.2.2 }
  else
    .error ⟨.valueError, "Circuit breaker thresholds must be positive"⟩

/-- The first part of `CircuitBreaker.allow`: an open circuit whose time has come becomes
half open. -/
def probeExpired (state : ProviderHealthState) : Health ProviderHealthState :=
  if state.status = .open then
    if state.openUntil.all (now < ·) = true then
      throw ⟨.providerUnavailableError, "Provider circuit is open"⟩
    else
      save { state with status := .halfOpen, halfOpenProbeCount := 0, updatedAt := now }
        state.version
  else
    pure state

def allow (providerId capability : String) : Health ProviderHealthState := do
  let state ← get providerId capability
  if state.status = .disabled then
    throw ⟨.providerUnavailableError, "Provider is disabled"⟩
  else
    let state ← probeExpired now state
    if state.status = .halfOpen then
      if breaker.maximumHalfOpenProbes ≤ state.halfOpenProbeCount then
        throw ⟨.providerUnavailableError, "Provider half-open probe is occupied"⟩
      else
        save
          { state with
            halfOpenProbeCount := state.halfOpenProbeCount + 1
            currentInFlight := state.currentInFlight + 1
            updatedAt := now } state.version
    else if state.maximumInFlight ≤ state.currentInFlight then
      throw ⟨.providerUnavailableError, "Provider is saturated"⟩
    else
      save { state with currentInFlight := state.currentInFlight + 1, updatedAt := now }
        state.version

/-- What `CircuitBreaker.success` makes of the loaded record. -/
def succeeded (state : ProviderHealthState) : ProviderHealthState :=
  let state :=
    { state with
      currentInFlight := state.currentInFlight - 1
      consecutiveSuccesses := state.consecutiveSuccesses + 1
      consecutiveFailures := 0
      lastSuccessAt := some now }
  let state :=
    if state.status ≠ .disabled ∧ breaker.successThreshold ≤ state.consecutiveSuccesses then
      { state with status := .healthy, openUntil := none, halfOpenProbeCount := 0 }
    else state
  { state with updatedAt := now }

def success (providerId capability : String) : Health ProviderHealthState := do
  let state ← get providerId capability
  save (succeeded breaker now state) state.version

/-- What `CircuitBreaker.failure` makes of the loaded record. -/
def failed (category code : String) (state : ProviderHealthState) : ProviderHealthState :=
  let state :=
    { state with
      currentInFlight := state.currentInFlight - 1
      consecutiveFailures := state.consecutiveFailures + 1
      consecutiveSuccesses := 0
      lastFailureAt := some now
      lastFailureCategory := some (String.ofList (category.toList.take 64))
      lastFailureCode := some (String.ofList (code.toList.take 128)) }
  let state :=
    if state.status ≠ .disabled ∧ breaker.failureThreshold ≤ state.consecutiveFailures then
      { state with
        status := .open, openUntil := some (now + breaker.openSeconds),
        halfOpenProbeCount := 0 }
    else if state.status ≠ .disabled then
      { state with status := .degraded }
    else state
  { state with updatedAt := now }

def failure (providerId capability category code : String) : Health ProviderHealthState := do
  let state ← get providerId capability
  save (failed breaker now category code state) state.version

/-! ## What the methods do to a record -/

section Runs

variable {breaker now} {repository : Repository} {providerId capability : String}
  {state : ProviderHealthState}

/-- The record is the one on file under its own name. -/
structure OnFile (repository : Repository) (state : ProviderHealthState) : Prop where
  filed : repository state.providerId state.capability = some state

/-- The record that an admitted call leaves, if the call is admitted. -/
def admitted (breaker : CircuitBreaker) (now : Timestamp) (state : ProviderHealthState) :
    Option ProviderHealthState :=
  match state.status with
  | .disabled => none
  | .open =>
    if state.openUntil.all (now < ·) = true then none
    else some
      { state with
        status := .halfOpen, halfOpenProbeCount := 1,
        currentInFlight := state.currentInFlight + 1, updatedAt := now,
        version := state.version + 2 }
  | .halfOpen =>
    if breaker.maximumHalfOpenProbes ≤ state.halfOpenProbeCount then none
    else some
      { state with
        halfOpenProbeCount := state.halfOpenProbeCount + 1,
        currentInFlight := state.currentInFlight + 1, updatedAt := now,
        version := state.version + 1 }
  | .unknown | .healthy | .degraded =>
    if state.maximumInFlight ≤ state.currentInFlight then none
    else some
      { state with
        currentInFlight := state.currentInFlight + 1, updatedAt := now,
        version := state.version + 1 }

theorem exec_get (hfile : OnFile repository state) :
    exec (get state.providerId state.capability) repository = (.ok state, repository) := by
  unfold get
  rw [exec_bind, Program.exec_get]
  simp only [hfile.filed]
  rfl

/-- Saving a changed copy of the record on file. -/
theorem exec_save (changed : ProviderHealthState) (hfile : OnFile repository state)
    (hprovider : changed.providerId = state.providerId)
    (hcapability : changed.capability = state.capability) :
    exec (save changed state.version) repository =
      (.ok { changed with version := state.version + 1 },
        repository.file { changed with version := state.version + 1 }) := by
  unfold save
  rw [exec_bind, hprovider, hcapability, exec_get hfile]
  simp

theorem OnFile.file (state : ProviderHealthState) (repository : Repository) :
    OnFile (repository.file state) state where
  filed := if_pos ⟨rfl, rfl⟩

/-- A record filed twice is as the last one says. -/
theorem file_file {first second : ProviderHealthState}
    (hprovider : first.providerId = second.providerId)
    (hcapability : first.capability = second.capability) :
    (repository.file first).file second = repository.file second := by
  funext providerId capability
  unfold Repository.file
  rw [hprovider, hcapability]
  split <;> rfl

/-- An admitted call files its record, a refused one files nothing. -/
theorem exec_allow (breaker : CircuitBreaker) (now : Timestamp) (hfile : OnFile repository state) :
    match admitted breaker now state with
    | some state' =>
        exec (allow breaker now state.providerId state.capability) repository =
          (.ok state', repository.file state')
    | none =>
        ∃ error, exec (allow breaker now state.providerId state.capability) repository =
          (.error error, repository) := by
  unfold allow probeExpired
  rw [exec_bind, exec_get hfile]
  unfold admitted
  cases hstatus : state.status
  case disabled => simp [hstatus]
  case «open» =>
    by_cases hwait : state.openUntil.all (now < ·) = true
    · simp [hstatus, hwait]
    · -- the record is saved as half open, and again with the probe
      have hhalf := exec_save ({ state with
        status := .halfOpen, halfOpenProbeCount := 0, updatedAt := now }) hfile rfl rfl
      have hprobe := exec_save ({ state with
        status := .halfOpen, halfOpenProbeCount := 1,
        currentInFlight := state.currentInFlight + 1, updatedAt := now,
        version := state.version + 1 }) (OnFile.file { state with
          status := .halfOpen, halfOpenProbeCount := 0, updatedAt := now,
          version := state.version + 1 } repository) rfl rfl
      have hroom := Nat.not_le.mpr breaker.maximumHalfOpenProbes_pos
      rw [file_file (by rfl) (by rfl)] at hprobe
      simp [hstatus, hwait, hhalf, hroom, hprobe]
  case halfOpen =>
    by_cases hfull : breaker.maximumHalfOpenProbes ≤ state.halfOpenProbeCount
    · simp [hstatus, hfull]
    · have hprobe := exec_save ({ state with
        halfOpenProbeCount := state.halfOpenProbeCount + 1,
        currentInFlight := state.currentInFlight + 1, updatedAt := now }) hfile rfl rfl
      rw [hstatus] at hprobe
      simp [hstatus, hfull, hprobe]
  all_goals
    by_cases hfull : state.maximumInFlight ≤ state.currentInFlight
    · simp [hstatus, hfull]
    · have hcall := exec_save ({ state with
        currentInFlight := state.currentInFlight + 1, updatedAt := now }) hfile rfl rfl
      rw [hstatus] at hcall
      simp [hstatus, hfull, hcall]

theorem exec_success (hfile : OnFile repository state) :
    exec (success breaker now state.providerId state.capability) repository =
      (.ok { succeeded breaker now state with version := state.version + 1 },
        repository.file { succeeded breaker now state with version := state.version + 1 }) := by
  unfold success
  rw [exec_bind, exec_get hfile]
  refine exec_save _ hfile ?_ ?_ <;> unfold succeeded <;> dsimp only <;> split <;> rfl

theorem exec_failure (hfile : OnFile repository state) {category code : String} :
    exec (failure breaker now state.providerId state.capability category code) repository =
      (.ok { failed breaker now category code state with version := state.version + 1 },
        repository.file
          { failed breaker now category code state with version := state.version + 1 }) := by
  unfold failure
  rw [exec_bind, exec_get hfile]
  refine exec_save _ hfile ?_ ?_ <;> unfold failed <;> dsimp only <;> split
  all_goals first | rfl | (split <;> rfl)

end Runs

end Providers
end Ascos
