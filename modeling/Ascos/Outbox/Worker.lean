import Ascos.Outbox.Database
import Mathlib.Algebra.Order.Ring.Int

/-!
# The outbox workers

One cycle of `OutboxWorker` and of `ReconciliationWorker`, written once
over the two ways of reaching a repository.  In memory the worker's operation is
the object the repository holds; with a database it is the object decoded by the
last read, which the next mutation detaches.

A cycle is given its drawn claim token, its clock readings in the order of the
calls that take them, and what the handlers, the providers and the result
application do.  These see only the `Request` of an operation, the fields that
no repository method assigns.
-/

namespace Ascos
namespace Outbox

open Library
open Ascos.Library.Program (RaisesUnchanged exec exec_bind exec_get)

/-! ## Failures and the retry policy -/

/-- An exception seen by a worker. -/
inductive Failure where
  | outbox (error : OutboxError)
  | authentication
  | rateLimit (retryAfterSeconds : Option Int)
  | timeout
  | unavailable
  | other (className : String)
deriving DecidableEq

def OutboxError.className : OutboxError → String
  | .operationNotFound _ => "OutboxOperationNotFoundError"
  | .duplicateOperation _ => "DuplicateOutboxOperationError"
  | .idempotencyConflict _ => "IdempotencyConflictError"
  | .invalidTransition _ => "InvalidOutboxTransitionError"
  | .claim _ => "OutboxClaimError"
  | .claimExpired _ => "OutboxClaimExpiredError"
  | .staleFencing _ => "StaleOutboxFencingError"

structure RetryDecision where
  category : FailureCategory
  retryAt : Option Timestamp
  code : String

structure RetryPolicy where
  baseSeconds : Int := 1
  maximumSeconds : Int := 60

/-- The backoff of `classify` after a number of attempts. -/
def RetryPolicy.backoffSeconds (policy : RetryPolicy) (attemptCount : Nat) : Int :=
  min policy.maximumSeconds (policy.baseSeconds * 2 ^ (attemptCount - 1))

def RetryPolicy.classify (policy : RetryPolicy) (error : Failure)
    (operation : OutboxOperation) (now : Timestamp) : RetryDecision :=
  match error with
  | .authentication =>
    { category := .nonRetryable, retryAt := none, code := "AUTHENTICATION" }
  | .rateLimit retryAfterSeconds =>
    { category := .rateLimited
      retryAt := some (now + timedelta (retryAfterSeconds.getD policy.baseSeconds))
      code := "RATE_LIMIT" }
  | .timeout =>
    { category := .reconciliationRequired, retryAt := none, code := "TIMEOUT_UNCERTAIN" }
  | .unavailable =>
    { category := .retryableBackoff
      retryAt := some (now + timedelta (policy.backoffSeconds operation.attemptCount))
      code := "PROVIDER_UNAVAILABLE" }
  | .outbox error =>
    { category := .nonRetryable, retryAt := none, code := error.className.toUpper }
  | .other className =>
    { category := .nonRetryable, retryAt := none, code := className.toUpper }

/-! ## Reaching a repository -/

/-- How a worker reaches a repository in states `σ`, holding operations by handles
`H`. -/
structure Access (σ H : Type) where
  /-- Call a method of the repository. -/
  call : {α : Type} → Method α → Program σ Failure α
  /-- `get_operation`. -/
  getOperation : String → Program σ Failure H
  /-- Read the fields of the operation object. -/
  read : H → Program σ Failure OutboxOperation
  /-- Assign fields of the operation object. -/
  assign : (OutboxOperation → OutboxOperation) → H → Program σ Failure H

def callInMemory {α : Type} (method : Method α) : Program Repository Failure α := do
  match exec method (← get) with
  | (.ok a, r) => set r; pure a
  | (.error error, r) => set r; throw (.outbox error)

/-- `_mutate`: reload, run the in-memory method, save; a raise rolls back. -/
def mutate {α : Type} (method : Method α) : Program Document Failure α := do
  match decodeState (← get) with
  | none => throw (.other "ValueError")
  | some r =>
    match exec method r with
    | (.ok a, r) => set (encodeState r); pure a
    | (.error error, _) => throw (.outbox error)

/-- The in-memory repository: an operation object is the one on record. -/
def inMemory : Access Repository String where
  call := callInMemory
  getOperation operationId := do
    let operation ← callInMemory (getOperation operationId)
    pure operation.operationId
  read operationId := callInMemory (getOperation operationId)
  assign update operationId := do
    let operation ← callInMemory (getOperation operationId)
    callInMemory (store (update operation))
    pure operationId

/-- The database repository: an operation object belongs to the state decoded by the
read that produced it, and later mutations do not see it. -/
def database : Access Document OutboxOperation where
  call := mutate
  getOperation operationId := do
    match decodeState (← get) with
    | none => throw (.other "ValueError")
    | some r =>
        match (exec (getOperation operationId) r).1 with
        | .ok operation => pure operation
        | .error error => throw (.outbox error)
  read operation := pure operation
  assign update operation := pure (update operation)

/-! ## The cycles -/

/-- The fields of an operation that handlers, providers and the result application use;
no method of the repository assigns them. -/
structure Request where
  operationId : String
  runtimeId : String
  operationType : String
  providerId : String
  aggregateId : String
  aggregateVersion : Nat
  idempotencyKey : String
  payload : PayloadValue
  payloadSchemaVersion : Nat

def OutboxOperation.request (operation : OutboxOperation) : Request where
  operationId := operation.operationId
  runtimeId := operation.runtimeId
  operationType := operation.operationType
  providerId := operation.providerId
  aggregateId := operation.aggregateId
  aggregateVersion := operation.aggregateVersion
  idempotencyKey := operation.idempotencyKey
  payload := operation.payload
  payloadSchemaVersion := operation.payloadSchemaVersion

/-- The clock readings of one mutation after a claim: validation's and the method's. -/
structure Readings where
  validated : Timestamp
  now : Timestamp

/-- Raise or return the outcome of a call outside the repository. -/
def outside {σ α : Type} : Except Failure α → Program σ Failure α
  | .ok a => pure a
  | .error error => throw error

/-- What surrounds one dispatch cycle, by the order in which the cycle uses it. -/
structure OutboxCycle where
  /-- The token and the clock reading of the claim. -/
  token : String
  claimedAt : Timestamp
  /-- `handlers.get`: the capability the handler requires. -/
  handler : String → Except Failure String
  /-- `providers.get` and `supports`. -/
  provider : String → Except Failure (String → Except Failure Bool)
  dispatching : Readings
  /-- `handler.dispatch`: the result reference. -/
  dispatch : Request → Except Failure String
  /-- `result_guard` and `result_application.apply`. -/
  apply : Request → String → Except Failure Unit
  succeeded : Readings
  unconfirmed : Readings
  /-- The worker's clock in the handler of a failure, and once more as a retry time. -/
  classified : Timestamp
  retried : Timestamp
  settled : Readings

structure OutboxWorker where
  workerId : String
  retryPolicy : RetryPolicy
  claimTtlSeconds : Int := 30

/-- The checks before dispatching: a handler, a provider and its capability. -/
def OutboxCycle.resolve (cycle : OutboxCycle) (request : Request) : Except Failure Unit := do
  let requiredCapability ← cycle.handler request.operationType
  let supports ← cycle.provider request.providerId
  if ← supports requiredCapability then
    pure ()
  else
    throw (.other "ValueError")

section Cycles

variable {σ H : Type} (D : Digests) (access : Access σ H) (worker : OutboxWorker)
variable (cycle : OutboxCycle)

/-- The inner `try` of `run_one`: apply the result and confirm it, or leave the outcome
uncertain. -/
def OutboxWorker.confirm (claim : OutboxClaim) (request : Request) (reference : String) :
    Program σ Failure OutboxOperation :=
  tryCatch
    (do
      outside (cycle.apply request reference)
      access.call
        (markSucceeded D claim reference cycle.succeeded.validated cycle.succeeded.now))
    fun _ => access.call
      (markReconciliationRequired D claim "LOCAL_RESULT_UNCONFIRMED"
        cycle.unconfirmed.validated cycle.unconfirmed.now)

/-- The body of the outer `try` of `run_one`. -/
def OutboxWorker.attempt (claim : OutboxClaim) (operation : H) :
    Program σ Failure OutboxOperation := do
  let item ← access.read operation
  outside (cycle.resolve item.request)
  let _ ← access.call
    (markDispatching D claim cycle.dispatching.validated cycle.dispatching.now)
  let item ← access.read operation
  let reference ← outside (cycle.dispatch item.request)
  OutboxWorker.confirm D access cycle claim item.request reference

/-- The outer handler of `run_one`. -/
def OutboxWorker.handleFailure (claim : OutboxClaim) (operation : H) (error : Failure) :
    Program σ Failure OutboxOperation := do
  let item ← access.read operation
  let decision := worker.retryPolicy.classify error item cycle.classified
  match decision.category with
  | .reconciliationRequired =>
    access.call (markReconciliationRequired D claim decision.code
      cycle.settled.validated cycle.settled.now)
  | .retryableImmediate | .retryableBackoff | .rateLimited =>
    access.call (markRetryWait D claim decision.category decision.code
      (decision.retryAt.getD cycle.retried) cycle.settled.validated cycle.settled.now)
  | .nonRetryable | .unknown =>
    let _ ← access.assign (failedRecord decision.category decision.code) operation
    access.call (markDeadLetter D claim decision.code
      cycle.settled.validated cycle.settled.now)

def OutboxWorker.runOne : Program σ Failure (Option OutboxOperation) := do
  match ← access.call
      (claimNext D worker.workerId cycle.token worker.claimTtlSeconds cycle.claimedAt) with
  | none => pure none
  | some claim =>
    let operation ← access.getOperation claim.operationId
    some <$> tryCatch (OutboxWorker.attempt D access cycle claim operation)
      (OutboxWorker.handleFailure D access worker cycle claim operation)

inductive ProviderReconciliationStatus where
  | notExecuted
  | inProgress
  | succeeded
  | failed
  | unverifiable
deriving DecidableEq

/-- `ProviderReconciliationResult`, with the reference of its dispatch result. -/
structure ProviderReconciliationResult where
  status : ProviderReconciliationStatus
  dispatchResult : Option String := none

structure ReconciliationCycle where
  token : String
  claimedAt : Timestamp
  /-- `providers.get` and `reconcile`. -/
  provider : String → Except Failure
    (String → Except Failure ProviderReconciliationResult)
  /-- `result_application.apply`. -/
  apply : Request → Option String → Except Failure Unit
  settled : Readings

structure ReconciliationWorker where
  workerId : String

/-- What the provider reports about a request. -/
def ReconciliationCycle.reconcile (cycle : ReconciliationCycle) (request : Request) :
    Except Failure ProviderReconciliationResult := do
  let reconcile ← cycle.provider request.providerId
  reconcile request.idempotencyKey

/-- The assignment `operation.reconciliation_state = state`. -/
def reconciledRecord (state : ReconciliationState) (operation : OutboxOperation) :
    OutboxOperation :=
  { operation with reconciliationState := state }

/-- The branches of `ReconciliationWorker.run_one` on the provider's report. -/
def ReconciliationWorker.settle (cycle : ReconciliationCycle) (claim : OutboxClaim)
    (operation : H) (result : ProviderReconciliationResult) :
    Program σ Failure OutboxOperation := do
  match result.status with
  | .notExecuted =>
    let operation ← access.assign (reconciledRecord .resolved) operation
    access.call (releaseClaim D claim cycle.settled.validated)
    access.read operation
  | .inProgress =>
    access.call (markReconciliationRequired D claim "PROVIDER_IN_PROGRESS"
      cycle.settled.validated cycle.settled.now)
  | .failed =>
    let _ ← access.assign (reconciledRecord .unverifiable) operation
    access.call (markDeadLetter D claim "Provider confirmed failure"
      cycle.settled.validated cycle.settled.now)
  | .unverifiable =>
    let _ ← access.assign (reconciledRecord .unverifiable) operation
    access.call (markDeadLetter D claim "Provider outcome unverifiable"
      cycle.settled.validated cycle.settled.now)
  | .succeeded =>
    let item ← access.read operation
    outside (cycle.apply item.request result.dispatchResult)
    match result.dispatchResult with
    | none => throw (.other "AttributeError")
    | some reference =>
        access.call (markSucceeded D claim reference
          cycle.settled.validated cycle.settled.now)

/-- `ReconciliationWorker.run_one`; the claim lasts the default 30 seconds. -/
def ReconciliationWorker.runOne (worker : ReconciliationWorker)
    (cycle : ReconciliationCycle) : Program σ Failure (Option OutboxOperation) := do
  match ← access.call
      (claimReconciliation D worker.workerId cycle.token 30 cycle.claimedAt) with
  | none => pure none
  | some claim =>
    let operation ← access.getOperation claim.operationId
    let item ← access.read operation
    let result ← outside (cycle.reconcile item.request)
    some <$> ReconciliationWorker.settle D access cycle claim operation result

end Cycles

/-! ## Calls through the two accesses -/

variable {α : Type} {D : Digests} {r : Repository}

/-- The outcome of a method as its caller sees it. -/
def outcome (method : Method α) (r : Repository) : Except Failure α :=
  (exec method r).1.mapError Failure.outbox

@[simp]
theorem exec_outside {σ : Type} (result : Except Failure α) (s : σ) :
    exec (outside result) s = (result, s) := by
  cases result <;> rfl

theorem inMemory_call (method : Method α) : inMemory.call method = callInMemory method :=
  rfl

theorem exec_callInMemory (method : Method α) (r : Repository) :
    exec (callInMemory method) r =
      (outcome method r, (exec method r).2) := by
  simp only [callInMemory, outcome, exec_bind, exec_get]
  rcases exec method r with ⟨_ | a, r'⟩ <;> rfl

theorem exec_mutate {method : Method α} (hmethod : RaisesUnchanged method)
    (r : Repository) :
    exec (mutate method) (encodeState r) =
      (outcome method r, encodeState (exec method r).2) := by
  simp only [mutate, outcome, exec_bind, exec_get, decodeState_encodeState]
  rcases hexec : exec method r with ⟨error | a, r'⟩
  · rw [hmethod r error r' hexec]
    rfl
  · rfl

@[simp]
theorem exec_database_read (operation : OutboxOperation) (document : Document) :
    exec (database.read operation) document = (.ok operation, document) :=
  rfl

theorem exec_database_getOperation (operationId : String) (r : Repository) :
    exec (database.getOperation operationId) (encodeState r) =
      (outcome (getOperation operationId) r, encodeState r) := by
  simp only [database, outcome, exec_bind, exec_get,
    decodeState_encodeState]
  rcases (exec (getOperation operationId) r).1 with error | operation <;> rfl

end Outbox
end Ascos
