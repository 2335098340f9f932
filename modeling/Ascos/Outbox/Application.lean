import Ascos.Outbox.Worker

/-!
# Applying provider results

A translation of `runtime/operations/idempotency.py` and
`runtime/operations/result_application.py`.  The readings of the system clock are
arguments, and the digest of a result payload is a function, which fails where
`json.dumps` raises.
-/

namespace Ascos
namespace Outbox

open Library

/-- A key of a dictionary in a result payload; any other hashable object is `other`. -/
inductive ResultKey where
  | null
  | bool (value : Bool)
  | int (value : Int)
  | float (literal : String)
  | text (value : String)
  | other (description : String)
deriving DecidableEq

/-- A value in a result payload, which nothing freezes: lists and tuples are told apart, and
any other object is `other`. -/
inductive ResultValue where
  | null
  | bool (value : Bool)
  | int (value : Int)
  | float (literal : String)
  | text (value : String)
  | list (items : List ResultValue)
  | tuple (items : List ResultValue)
  | mapping (entries : List (ResultKey × ResultValue))
  | other (description : String)

/-- The dictionary that a provider returns. -/
abbrev ResultPayload := List (ResultKey × ResultValue)

/-- The part of `ProviderDispatchResult` that is applied; the handler has checked that it
belongs to the operation. -/
structure ProviderDispatchResult where
  resultReference : String
  resultPayload : ResultPayload

/-- The values of `IdempotencyRecord.status`. -/
inductive IdempotencyStatus where
  | dispatching
  | succeeded
deriving DecidableEq

structure IdempotencyRecord where
  idempotencyKey : String
  operationId : String
  providerId : String
  requestFingerprint : String
  firstDispatchAt : Timestamp
  providerReference : Option String
  resultFingerprint : Option String
  completionTime : Option Timestamp
  status : IdempotencyStatus
deriving DecidableEq

/-- The value that `apply` files. -/
structure AppliedResult where
  operationId : String
  aggregateId : String
  aggregateVersion : Nat
  resultReference : String
  result : ResultPayload

/-- The state of `ResultApplicationService` and of its `IdempotencyStore`. -/
structure Results where
  /-- `IdempotencyStore._records`. -/
  records : Records IdempotencyRecord
  applied : Records AppliedResult
  aggregateVersions : Records Nat
  duplicateSuppressions : Nat

/-- Services that have applied nothing. -/
def Results.init : Results where
  records := ∅
  applied := ∅
  aggregateVersions := ∅
  duplicateSuppressions := 0

/-- The digests of requests and of result payloads; a payload whose keys cannot be sorted or
written has none. -/
structure ApplicationDigests extends Digests where
  resultFingerprint : ResultPayload → Except Failure String

variable (D : ApplicationDigests)

/-- `IdempotencyStore.begin`; a record is never false as a condition. -/
def beginRecord (operation : OutboxOperation) (firstDispatchAt : Timestamp) :
    Program Results Failure IdempotencyRecord := do
  let results ← get
  let fingerprint := operation.requestFingerprint D.toDigests
  match results.records[operation.idempotencyKey]? with
  | some existing =>
    if existing.requestFingerprint ≠ fingerprint then
      throw (.outbox (.idempotencyConflict "Idempotency fingerprint changed"))
    else
      pure existing
  | none =>
    let record : IdempotencyRecord :=
      { idempotencyKey := operation.idempotencyKey
        operationId := operation.operationId
        providerId := operation.providerId
        requestFingerprint := fingerprint
        firstDispatchAt
        providerReference := none
        resultFingerprint := none
        completionTime := none
        status := .dispatching }
    set { results with records := results.records.insert operation.idempotencyKey record }
    pure record

/-- `IdempotencyStore.complete`. -/
def completeRecord (operation : OutboxOperation) (result : ProviderDispatchResult)
    (firstDispatchAt completionTime : Timestamp) :
    Program Results Failure (IdempotencyRecord × Bool) := do
  let existing ← beginRecord D operation firstDispatchAt
  match D.resultFingerprint result.resultPayload with
  | .error error => throw error
  | .ok fingerprint =>
    if existing.status = .succeeded then
      if existing.resultFingerprint ≠ some fingerprint then
        throw (.outbox (.idempotencyConflict "Provider result changed"))
      else
        pure (existing, false)
    else
      let record : IdempotencyRecord :=
        { existing with
          providerReference := some result.resultReference
          resultFingerprint := some fingerprint
          completionTime := some completionTime
          status := .succeeded }
      modify fun results =>
        { results with records := results.records.insert operation.idempotencyKey record }
      pure (record, true)

/-- `self.duplicate_suppressions += 1`. -/
def suppressDuplicate : Program Results Failure Unit :=
  modify fun results =>
    { results with duplicateSuppressions := results.duplicateSuppressions + 1 }

/-- The key of an aggregate: the runtime id with its length, and the aggregate id. -/
def aggregateKey (operation : OutboxOperation) : String :=
  s!"{operation.runtimeId.length}:{operation.runtimeId}:{operation.aggregateId}"

/-- The value that `apply` files for an operation. -/
def appliedResult (operation : OutboxOperation) (result : ProviderDispatchResult) :
    AppliedResult where
  operationId := operation.operationId
  aggregateId := operation.aggregateId
  aggregateVersion := operation.aggregateVersion
  resultReference := result.resultReference
  result := result.resultPayload

/-- `ResultApplicationService.apply`. -/
def applyResult (operation : OutboxOperation) (result : ProviderDispatchResult)
    (firstDispatchAt completionTime : Timestamp) :
    Program Results Failure (Option AppliedResult × Bool) := do
  let results ← get
  let existing := results.records[operation.idempotencyKey]?
  if existing.any (·.status == .succeeded) = true then
    let _ ← completeRecord D operation result firstDispatchAt completionTime
    suppressDuplicate
    let results ← get
    pure (results.applied[operation.idempotencyKey]?, false)
  else
    let currentVersion := results.aggregateVersions[aggregateKey operation]?.getD 0
    if currentVersion ≠ operation.aggregateVersion then
      throw (.other "ValueError")
    let (_, first) ← completeRecord D operation result firstDispatchAt completionTime
    if first = false then
      suppressDuplicate
      let results ← get
      pure (results.applied[operation.idempotencyKey]?, false)
    else
      let value := appliedResult operation result
      modify fun results =>
        { results with
          applied := results.applied.insert operation.idempotencyKey value
          aggregateVersions :=
            results.aggregateVersions.insert (aggregateKey operation)
              (operation.aggregateVersion + 1) }
      pure (some value, true)

/-! ## When a result is filed -/

/-- What is filed is the same; only duplicates may have been counted. -/
def Results.SameFiled (results results' : Results) : Prop :=
  results'.records = results.records ∧ results'.applied = results.applied ∧
    results'.aggregateVersions = results.aggregateVersions

theorem Results.SameFiled.refl (results : Results) : results.SameFiled results :=
  ⟨rfl, rfl, rfl⟩

/-- A result of the operation is accepted: no success is on record for its key, a record
begun for the key carries the same request, and its aggregate is at its version. -/
def Results.accepts (results : Results) (operation : OutboxOperation) : Bool :=
  (results.records[operation.idempotencyKey]?.all fun existing =>
      existing.status != .succeeded &&
        existing.requestFingerprint == operation.requestFingerprint D.toDigests) &&
    results.aggregateVersions[aggregateKey operation]?.getD 0 == operation.aggregateVersion

variable {D} {results : Results} {operation : OutboxOperation}
variable (result : ProviderDispatchResult) (firstDispatchAt completionTime : Timestamp)

theorem applyResult_files_nothing (h : results.accepts D operation = false) :
    results.SameFiled
      (Program.exec (applyResult D operation result firstDispatchAt completionTime)
        results).2 := by
  unfold Results.SameFiled
  cases hrecord : results.records[operation.idempotencyKey]? with
  | none =>
    have hversion : results.aggregateVersions[aggregateKey operation]?.getD 0 ≠
        operation.aggregateVersion := by
      simpa [Results.accepts, hrecord] using h
    simp [applyResult, hrecord, hversion]
  | some existing =>
    by_cases hsucceeded : existing.status = .succeeded
    · by_cases hrequest :
          existing.requestFingerprint = operation.requestFingerprint D.toDigests
      · cases hdigest : D.resultFingerprint result.resultPayload with
        | error error =>
            simp [applyResult, completeRecord, beginRecord, hrecord, hsucceeded, hrequest,
              hdigest]
        | ok fingerprint =>
            by_cases hresult : existing.resultFingerprint = some fingerprint
            · simp [applyResult, completeRecord, beginRecord, suppressDuplicate, hrecord,
                hsucceeded, hrequest, hdigest, hresult]
            · simp [applyResult, completeRecord, beginRecord, hrecord, hsucceeded, hrequest,
                hdigest, hresult]
      · simp [applyResult, completeRecord, beginRecord, hrecord, hsucceeded, hrequest]
    · by_cases hversion : results.aggregateVersions[aggregateKey operation]?.getD 0 =
          operation.aggregateVersion
      · have hrequest :
            existing.requestFingerprint ≠ operation.requestFingerprint D.toDigests := by
          simpa [Results.accepts, hrecord, hsucceeded, hversion] using h
        simp [applyResult, completeRecord, beginRecord, hrecord, hsucceeded, hversion,
          hrequest]
      · simp [applyResult, hrecord, hsucceeded, hversion]

end Outbox
end Ascos
