import Ascos.Library.Program
import Ascos.Outbox.Model
import Mathlib.Data.List.Sort

/-!
# The outbox repository

A translation of `InMemoryOutboxRepository` from
`runtime/outbox/repository.py`.  Each method is a program over the
repository state that performs its reads, checks and writes in the order of the
source.  Every call of the repository's clock is an explicit argument: `t₀`
is the reading taken by `_validate_claim` and `now` the one taken by the
method itself.  A claim token drawn from `secrets` is an argument too.
-/

namespace Ascos
namespace Outbox

open Library

/-- The errors of `runtime/outbox/exceptions.py` raised by the repository. -/
inductive OutboxError where
  | operationNotFound (message : String)
  | duplicateOperation (message : String)
  | idempotencyConflict (message : String)
  | invalidTransition (message : String)
  | claim (message : String)
  | claimExpired (message : String)
  | staleFencing (message : String)
deriving DecidableEq

/-- The mutable state of `InMemoryOutboxRepository`. -/
structure Repository where
  operations : OperationTable
  attempts : Records (List OutboxAttempt)
  idempotency : Records String
  providerPauses : Records Bool

def Repository.init : Repository where
  operations := OperationTable.empty
  attempts := ∅
  idempotency := ∅
  providerPauses := ∅

abbrev Method (α : Type) := Program Repository OutboxError α

/-! ## Reading and writing one operation -/

def getOperation (operationId : String) : Method OutboxOperation := do
  match (← get).operations.get? operationId with
  | some operation => pure operation
  | none => throw (.operationNotFound operationId)

/-- Write the fields of an operation object back. -/
def store (operation : OutboxOperation) : Method Unit :=
  modify fun r => { r with operations := r.operations.put operation }

/-- `add_operation`; a missing idempotency entry is as false as an empty one. -/
def addOperation (D : Digests) (operation : OutboxOperation) :
    Method OutboxOperation := do
  let r ← get
  let existing := r.idempotency[operation.idempotencyKey]?.getD ""
  let fingerprint := operation.requestFingerprint D
  if (r.operations.get? operation.operationId).isSome then
    throw (.duplicateOperation operation.operationId)
  else if existing ≠ "" ∧ existing ≠ fingerprint then
    throw (.idempotencyConflict "Idempotency key payload changed")
  else if existing ≠ "" then
    throw (.duplicateOperation "Idempotent operation exists")
  else
    set { r with
      operations := r.operations.put operation
      idempotency := r.idempotency.insert operation.idempotencyKey fingerprint }
    pure operation

/-! ## Claims -/

/-- The key order of `_eligible` and `claim_reconciliation`: priority,
availability, creation time, identifier. -/
def dispatchOrder (a b : OutboxOperation) : Bool :=
  ((compare a.priority b.priority).then <|
    (compare a.availableAt b.availableAt).then <|
      (compare a.createdAt b.createdAt).then
        (compare a.operationId b.operationId)).isLE

def Repository.isProviderPaused (r : Repository) (providerId : String) : Bool :=
  r.providerPauses[providerId]?.getD false

/-- `_eligible`: pending or waiting operations that are due, in dispatch order. -/
def Repository.eligible (r : Repository) (now : Timestamp) : List OutboxOperation :=
  (r.operations.values.filter fun item =>
    (item.status = .pending ∨ item.status = .retryWait) ∧ item.availableAt ≤ now ∧
      ¬ r.isProviderPaused item.providerId).insertionSort fun a b => dispatchOrder a b

/-- The candidates of `claim_reconciliation`, in dispatch order. -/
def Repository.reconciliationCandidates (r : Repository) : List OutboxOperation :=
  (r.operations.values.filter fun item =>
    item.status = .reconciliationRequired).insertionSort fun a b => dispatchOrder a b

def clearClaim (operation : OutboxOperation) : OutboxOperation :=
  { operation with
    claimOwner := none
    claimTokenHash := none
    claimedAt := none
    claimExpiresAt := none }

/-- The test of `recover_expired`: a claimed or dispatching operation whose claim
has run out. -/
def hasExpired (now : Timestamp) (operation : OutboxOperation) : Bool :=
  decide (operation.status = .claimed ∨ operation.status = .dispatching) &&
    operation.claimExpiresAt.any fun expiry => expiry ≤ now

/-- The body of the loop of `recover_expired` for one operation. -/
def recoverOne (now : Timestamp) (operation : OutboxOperation) : OutboxOperation :=
  if hasExpired now operation then
    clearClaim
      (if operation.status = .dispatching then
        { operation with
          status := .reconciliationRequired
          reconciliationState := .required }
      else
        { operation with status := .pending })
  else operation

@[simp]
theorem clearClaim_operationId (operation : OutboxOperation) :
    (clearClaim operation).operationId = operation.operationId :=
  rfl

@[simp]
theorem recoverOne_operationId (now : Timestamp) (operation : OutboxOperation) :
    (recoverOne now operation).operationId = operation.operationId := by
  unfold recoverOne
  split
  · split <;> rfl
  · rfl

/-- The effect of `recover_expired` on the repository. -/
def Repository.recover (r : Repository) (now : Timestamp) : Repository :=
  { r with operations := r.operations.mapValues (recoverOne now) (by simp) }

/-- `recover_expired`: the number of operations whose claim was recovered. -/
def recoverExpired (now : Timestamp) : Method Nat := do
  let r ← get
  let count := (r.operations.values.filter (hasExpired now)).length
  set (r.recover now)
  pure count

/-- The record of an operation after the assignments of `_claim`. -/
def claimedRecord (D : Digests) (ownerId token : String) (now : Timestamp)
    (ttlSeconds : Int) (operation : OutboxOperation) : OutboxOperation :=
  { operation with
    status := .claimed
    claimOwner := some ownerId
    claimTokenHash := some (D.hash token)
    claimedAt := some now
    claimExpiresAt := some (now + timedelta ttlSeconds)
    fencingToken := operation.fencingToken + 1 }

/-- The claim that `_claim` hands out for an operation. -/
def issuedClaim (ownerId token : String) (now : Timestamp) (ttlSeconds : Int)
    (operation : OutboxOperation) : OutboxClaim where
  operationId := operation.operationId
  ownerId := ownerId
  token := token
  claimedAt := now
  expiresAt := now + timedelta ttlSeconds
  fencingToken := operation.fencingToken + 1

/-- `_claim`, with the token drawn by `secrets.token_urlsafe`. -/
def claimOperation (D : Digests) (operation : OutboxOperation) (ownerId : String)
    (token : String) (now : Timestamp) (ttlSeconds : Int) : Method OutboxClaim := do
  store (claimedRecord D ownerId token now ttlSeconds operation)
  pure (issuedClaim ownerId token now ttlSeconds operation)

def claimNext (D : Digests) (ownerId token : String) (ttlSeconds : Int)
    (now : Timestamp) : Method (Option OutboxClaim) := do
  let _ ← recoverExpired now
  match ((← get).eligible now).head? with
  | none => pure none
  | some operation => some <$> claimOperation D operation ownerId token now ttlSeconds

def claimReconciliation (D : Digests) (ownerId token : String) (ttlSeconds : Int)
    (now : Timestamp) : Method (Option OutboxClaim) := do
  match (← get).reconciliationCandidates.head? with
  | none => pure none
  | some operation =>
    some <$> claimOperation D { operation with reconciliationState := .inProgress }
      ownerId token now ttlSeconds

/-- The decision of `_validate_claim` on a repository. -/
def claimVerdict (D : Digests) (r : Repository) (claim : OutboxClaim) (t₀ : Timestamp) :
    Except OutboxError OutboxOperation :=
  match r.operations.get? claim.operationId with
  | none => .error (.operationNotFound claim.operationId)
  | some operation =>
    match operation.claimExpiresAt with
    | none => .error (.claimExpired "Outbox claim expired")
    | some expiry =>
        if expiry ≤ t₀ then .error (.claimExpired "Outbox claim expired")
        else if operation.fencingToken ≠ claim.fencingToken then
          .error (.staleFencing "Outbox fencing token is stale")
        else if operation.claimOwner ≠ some claim.ownerId ∨
            operation.claimTokenHash ≠ some (D.hash claim.token) then
          .error (.claim "Outbox claim identity is stale")
        else .ok operation

def validateClaim (D : Digests) (claim : OutboxClaim) (t₀ : Timestamp) :
    Method OutboxOperation := do
  match claimVerdict D (← get) claim t₀ with
  | .ok operation => pure operation
  | .error error => throw error

/-- The claim that `renew_claim` returns: the one presented, with the recorded claim
time and the new expiry. -/
def renewedClaim (claim : OutboxClaim) (ttlSeconds : Int) (now : Timestamp)
    (operation : OutboxOperation) : OutboxClaim :=
  { claim with
    claimedAt := operation.claimedAt.getD now
    expiresAt := now + timedelta ttlSeconds }

def renewClaim (D : Digests) (claim : OutboxClaim) (ttlSeconds : Int)
    (t₀ now : Timestamp) : Method OutboxClaim := do
  let operation ← validateClaim D claim t₀
  store { operation with claimExpiresAt := some (now + timedelta ttlSeconds) }
  pure (renewedClaim claim ttlSeconds now operation)

def releaseClaim (D : Digests) (claim : OutboxClaim) (t₀ : Timestamp) : Method Unit := do
  let operation ← validateClaim D claim t₀
  if operation.status ≠ .claimed then
    throw (.invalidTransition "Only claimed operation can release")
  store { clearClaim operation with status := .pending }

/-! ## Attempts and transitions -/

/-- `_finish_attempt` on one history: close the last attempt if it is open. -/
def finishLast (now : Timestamp) (outcome : String) (code : Option String)
    (category : Option FailureCategory) : List OutboxAttempt → List OutboxAttempt
  | [] => []
  | [prior] =>
    if prior.completedAt = none then
      [{ operationId := prior.operationId
         attemptNumber := prior.attemptNumber
         startedAt := prior.startedAt
         completedAt := some now
         outcome
         failureCode := code
         failureCategory := category
         safeSummary := outcome }]
    else [prior]
  | first :: second :: rest =>
    first :: finishLast now outcome code category (second :: rest)

def finishAttempt (operationId : String) (now : Timestamp) (outcome : String)
    (code : Option String) (category : Option FailureCategory) : Method Unit :=
  modify fun r => { r with
    attempts := r.attempts.modify operationId (finishLast now outcome code category) }

/-- The record of an operation after the assignments of `mark_dispatching`. -/
def dispatchedRecord (now : Timestamp) (operation : OutboxOperation) : OutboxOperation :=
  { operation with
    status := .dispatching
    attemptCount := operation.attemptCount + 1
    firstAttemptedAt := operation.firstAttemptedAt.or (some now)
    lastAttemptedAt := some now }

def markDispatching (D : Digests) (claim : OutboxClaim) (t₀ now : Timestamp) :
    Method OutboxOperation := do
  let operation ← validateClaim D claim t₀
  if operation.status ≠ .claimed then
    throw (.invalidTransition "Operation is not claimed")
  let operation := dispatchedRecord now operation
  store operation
  modify fun r => { r with
    attempts := r.attempts.insert operation.operationId
      ((r.attempts[operation.operationId]?.getD []) ++
        [{ operationId := operation.operationId
           attemptNumber := operation.attemptCount
           startedAt := now
           completedAt := none
           outcome := "STARTED" }]) }
  pure operation

/-- The record of an operation after the assignments of `mark_succeeded`. -/
def succeededRecord (resultReference : String) (now : Timestamp)
    (operation : OutboxOperation) : OutboxOperation :=
  clearClaim { operation with
    status := .succeeded
    completedAt := some now
    resultReference := some resultReference
    reconciliationState := .resolved }

def markSucceeded (D : Digests) (claim : OutboxClaim) (resultReference : String)
    (t₀ now : Timestamp) : Method OutboxOperation := do
  let operation ← validateClaim D claim t₀
  if operation.status = .succeeded then
    pure operation
  else if operation.status ≠ .dispatching ∧
      ¬ (operation.status = .claimed ∧ operation.reconciliationState = .inProgress) then
    throw (.invalidTransition "Operation is not dispatching")
  else
    let operation := succeededRecord resultReference now operation
    store operation
    finishAttempt operation.operationId now "SUCCEEDED" none none
    pure operation

/-- The record of an operation after the assignments of `_dead_letter`. -/
def deadLetterRecord (reason : String) (now : Timestamp) (operation : OutboxOperation) :
    OutboxOperation :=
  clearClaim { operation with
    status := .deadLetter
    deadLetterReason := some reason
    completedAt := some now }

def deadLetter (operation : OutboxOperation) (now : Timestamp) (reason : String) :
    Method OutboxOperation := do
  let operation := deadLetterRecord reason now operation
  store operation
  finishAttempt operation.operationId now "DEAD_LETTER" operation.failureCode
    operation.failureCategory
  pure operation

/-- The failure fields that `mark_retry_wait` assigns first. -/
def failedRecord (category : FailureCategory) (code : String)
    (operation : OutboxOperation) : OutboxOperation :=
  { operation with
    failureCategory := some category
    failureCode := some code }

/-- The record of an operation after the remaining assignments of
`mark_retry_wait`. -/
def waitingRecord (availableAt : Timestamp) (operation : OutboxOperation) :
    OutboxOperation :=
  clearClaim { operation with
    status := .retryWait
    availableAt := availableAt
    retryAfter := some availableAt }

def markRetryWait (D : Digests) (claim : OutboxClaim) (category : FailureCategory)
    (code : String) (availableAt : Timestamp) (t₀ now : Timestamp) :
    Method OutboxOperation := do
  let operation := failedRecord category code (← validateClaim D claim t₀)
  if operation.maximumAttempts ≤ operation.attemptCount then
    deadLetter operation now s!"Maximum attempts exhausted: {code}"
  else
    let operation := waitingRecord availableAt operation
    store operation
    finishAttempt operation.operationId now "RETRY" (some code) (some category)
    pure operation

/-- The record of an operation after the assignments of
`mark_reconciliation_required`. -/
def uncertainRecord (code : String) (operation : OutboxOperation) : OutboxOperation :=
  clearClaim { operation with
    status := .reconciliationRequired
    failureCode := some code
    failureCategory := some .reconciliationRequired
    reconciliationState := .required }

def markReconciliationRequired (D : Digests) (claim : OutboxClaim) (code : String)
    (t₀ now : Timestamp) : Method OutboxOperation := do
  let operation := uncertainRecord code (← validateClaim D claim t₀)
  store operation
  finishAttempt operation.operationId now "UNCERTAIN" (some code)
    (some .reconciliationRequired)
  pure operation

def markDeadLetter (D : Digests) (claim : OutboxClaim) (reason : String)
    (t₀ now : Timestamp) : Method OutboxOperation := do
  let operation ← validateClaim D claim t₀
  deadLetter operation now reason

/-! ## Operator transitions -/

/-- The record of an operation after the assignments of `cancel_operation`. -/
def cancelledRecord (now : Timestamp) (operation : OutboxOperation) : OutboxOperation :=
  { operation with
    status := .cancelled
    completedAt := some now }

def cancelOperation (operationId : String) (now : Timestamp) :
    Method OutboxOperation := do
  let operation ← getOperation operationId
  if operation.status ≠ .pending ∧ operation.status ≠ .retryWait then
    throw (.invalidTransition "Operation cannot be cancelled")
  let operation := cancelledRecord now operation
  store operation
  pure operation

/-- The record of an operation after the assignments of `abandon_operation`, which
leaves the claim fields alone. -/
def abandonedRecord (reason : String) (now : Timestamp) (operation : OutboxOperation) :
    OutboxOperation :=
  { operation with
    status := .deadLetter
    deadLetterReason := some reason
    completedAt := some now }

def abandonOperation (operationId reason : String) (now : Timestamp) :
    Method OutboxOperation := do
  let operation ← getOperation operationId
  if operation.status = .claimed ∨ operation.status = .dispatching ∨
      operation.status = .succeeded then
    throw (.invalidTransition "Operation cannot be abandoned")
  let operation := abandonedRecord reason now operation
  store operation
  pure operation

/-- The record of an operation after the assignments of `retry_dead_letter`. -/
def retriedRecord (now : Timestamp) (operation : OutboxOperation) : OutboxOperation :=
  { operation with
    status := .pending
    availableAt := now
    completedAt := none
    deadLetterReason := none }

def retryDeadLetter (operationId : String) (now : Timestamp) :
    Method OutboxOperation := do
  let operation ← getOperation operationId
  if operation.status ≠ .deadLetter then
    throw (.invalidTransition "Operation is not dead-lettered")
  let operation := retriedRecord now operation
  store operation
  pure operation

/-- `pause_provider` and `resume_provider`. -/
def setProviderPause (providerId : String) (paused : Bool) : Method Unit :=
  modify fun r => { r with
    providerPauses := r.providerPauses.insert providerId paused }

/-! ## What the methods do -/

variable {D : Digests} {r : Repository} {claim : OutboxClaim} {t₀ now : Timestamp}

@[simp]
theorem exec_getOperation (operationId : String) (r : Repository) :
    Program.exec (getOperation operationId) r =
      match r.operations.get? operationId with
      | some operation => (.ok operation, r)
      | none => (.error (.operationNotFound operationId), r) := by
  simp only [getOperation, Program.exec_bind, Program.exec_get]
  cases r.operations.get? operationId <;> rfl

@[simp]
theorem exec_store (operation : OutboxOperation) (r : Repository) :
    Program.exec (store operation) r =
      (.ok ⟨⟩, { r with operations := r.operations.put operation }) :=
  rfl

@[simp]
theorem exec_finishAttempt (operationId outcome : String) (code : Option String)
    (category : Option FailureCategory) (now : Timestamp) (r : Repository) :
    Program.exec (finishAttempt operationId now outcome code category) r =
      (.ok ⟨⟩, { r with
        attempts := r.attempts.modify operationId
          (finishLast now outcome code category) }) :=
  rfl

@[simp]
theorem exec_validateClaim (claim : OutboxClaim) (t₀ : Timestamp) (r : Repository) :
    Program.exec (validateClaim D claim t₀) r = (claimVerdict D r claim t₀, r) := by
  simp only [validateClaim, Program.exec_bind, Program.exec_get]
  cases claimVerdict D r claim t₀ <;> rfl

/-- The identity a claim is checked against: owner, token digest, fencing token. -/
structure Identity where
  ownerId : String
  tokenHash : String
  fencingToken : Nat
deriving DecidableEq

def OutboxClaim.identity (D : Digests) (claim : OutboxClaim) : Identity where
  ownerId := claim.ownerId
  tokenHash := D.hash claim.token
  fencingToken := claim.fencingToken

def onRecord (operation : OutboxOperation) : Option Identity :=
  match operation.claimExpiresAt, operation.claimOwner, operation.claimTokenHash with
  | some _, some ownerId, some tokenHash =>
      some { ownerId, tokenHash, fencingToken := operation.fencingToken }
  | _, _, _ => none

theorem onRecord_eq_some_iff {operation : OutboxOperation} {identity : Identity} :
    onRecord operation = some identity ↔
      (∃ expiry, operation.claimExpiresAt = some expiry) ∧
        operation.claimOwner = some identity.ownerId ∧
          operation.claimTokenHash = some identity.tokenHash ∧
            operation.fencingToken = identity.fencingToken := by
  rcases identity with ⟨ownerId, tokenHash, fencingToken⟩
  cases hexpiry : operation.claimExpiresAt <;> cases howner : operation.claimOwner <;>
    cases hhash : operation.claimTokenHash <;> simp [onRecord, hexpiry, howner, hhash]

theorem claimVerdict_ok_iff {operation : OutboxOperation} :
    claimVerdict D r claim t₀ = .ok operation ↔
      r.operations.get? claim.operationId = some operation ∧
        onRecord operation = some (claim.identity D) ∧
          ∃ expiry, operation.claimExpiresAt = some expiry ∧ t₀ < expiry := by
  rw [onRecord_eq_some_iff]
  unfold claimVerdict
  cases hget : r.operations.get? claim.operationId with
  | none => simp
  | some found =>
    simp only [Option.some.injEq]
    cases hexpiry : found.claimExpiresAt with
    | none =>
        simp only [reduceCtorEq, false_iff, not_and]
        rintro rfl
        simp [hexpiry]
    | some expiry =>
        -- the three refusals of the source, in its order
        dsimp only
        by_cases hlate : expiry ≤ t₀
        · rw [if_pos hlate]
          simp only [reduceCtorEq, false_iff, not_and, not_exists]
          rintro rfl - later hlater
          rw [hexpiry] at hlater
          cases hlater
          exact not_lt.mpr hlate
        by_cases hfence : found.fencingToken = claim.fencingToken
        · by_cases hid : found.claimOwner = some claim.ownerId ∧
              found.claimTokenHash = some (D.hash claim.token)
          · rw [if_neg hlate, if_neg (not_not.mpr hfence),
              if_neg (fun h => not_and_or.mpr h hid), Except.ok.injEq]
            constructor
            · rintro rfl
              exact ⟨rfl, ⟨⟨expiry, hexpiry⟩, hid.1, hid.2, hfence⟩,
                expiry, hexpiry, not_le.mp hlate⟩
            · exact fun h => h.1
          · rw [if_neg hlate, if_neg (not_not.mpr hfence), if_pos (not_and_or.mp hid)]
            simp only [reduceCtorEq, false_iff, not_and]
            rintro rfl ⟨-, howner, hhash, -⟩
            exact absurd ⟨howner, hhash⟩ hid
        · rw [if_neg hlate, if_pos hfence]
          simp only [reduceCtorEq, false_iff, not_and]
          rintro rfl ⟨-, -, -, h⟩
          exact absurd h hfence

@[simp]
theorem get?_recover (r : Repository) (now : Timestamp) (id : String) :
    (r.recover now).operations.get? id = (r.operations.get? id).map (recoverOne now) := by
  simp [Repository.recover]

@[simp]
theorem recoverOne_fencingToken (now : Timestamp) (operation : OutboxOperation) :
    (recoverOne now operation).fencingToken = operation.fencingToken := by
  unfold recoverOne
  split
  · split <;> rfl
  · rfl

theorem issuedClaim_recoverOne (ownerId token : String) (now : Timestamp)
    (ttlSeconds : Int) (operation : OutboxOperation) :
    issuedClaim ownerId token now ttlSeconds (recoverOne now operation) =
      issuedClaim ownerId token now ttlSeconds operation := by
  simp [issuedClaim]

theorem mem_eligible {operation : OutboxOperation} :
    operation ∈ r.eligible now ↔
      r.operations.get? operation.operationId = some operation ∧
        (operation.status = .pending ∨ operation.status = .retryWait) ∧
          operation.availableAt ≤ now ∧ r.isProviderPaused operation.providerId = false := by
  simp [Repository.eligible, OperationTable.mem_values, List.mem_insertionSort]

theorem mem_reconciliationCandidates {operation : OutboxOperation} :
    operation ∈ r.reconciliationCandidates ↔
      r.operations.get? operation.operationId = some operation ∧
        operation.status = .reconciliationRequired := by
  simp [Repository.reconciliationCandidates, OperationTable.mem_values,
    List.mem_insertionSort]

end Outbox
end Ascos
