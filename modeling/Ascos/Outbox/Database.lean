import Ascos.Outbox.History

/-!
# The canonical document of an outbox

`DatabaseOutboxRepository` keeps the whole outbox as one canonical document,
which every mutation reloads and saves.  The document follows
`runtime/outbox/providers/serde.py`: enumerations are stored as their texts.
A time is stored as ISO text, which denotes exactly one instant, and stands here as
that instant.
-/

namespace Ascos
namespace Outbox

open Library

/-! ## Enumeration texts -/

/-- The text of an `OutboxStatus`. -/
def OutboxStatus.value : OutboxStatus → String
  | .pending => "PENDING"
  | .claimed => "CLAIMED"
  | .dispatching => "DISPATCHING"
  | .succeeded => "SUCCEEDED"
  | .retryWait => "RETRY_WAIT"
  | .reconciliationRequired => "RECONCILIATION_REQUIRED"
  | .deadLetter => "DEAD_LETTER"
  | .cancelled => "CANCELLED"

/-- `OutboxStatus(value)`. -/
def OutboxStatus.ofValue (value : String) : Option OutboxStatus :=
  [.pending, .claimed, .dispatching, .succeeded, .retryWait, .reconciliationRequired,
    .deadLetter, .cancelled].find? fun status => OutboxStatus.value status = value

/-- The text of a `FailureCategory`. -/
def FailureCategory.value : FailureCategory → String
  | .nonRetryable => "NON_RETRYABLE"
  | .retryableImmediate => "RETRYABLE_IMMEDIATE"
  | .retryableBackoff => "RETRYABLE_BACKOFF"
  | .rateLimited => "RATE_LIMITED"
  | .reconciliationRequired => "RECONCILIATION_REQUIRED"
  | .unknown => "UNKNOWN"

/-- `FailureCategory(value)`. -/
def FailureCategory.ofValue (value : String) : Option FailureCategory :=
  [.nonRetryable, .retryableImmediate, .retryableBackoff, .rateLimited,
    .reconciliationRequired, .unknown].find? fun category =>
      FailureCategory.value category = value

/-- The text of a `ReconciliationState`. -/
def ReconciliationState.value : ReconciliationState → String
  | .none => "NONE"
  | .required => "REQUIRED"
  | .inProgress => "IN_PROGRESS"
  | .resolved => "RESOLVED"
  | .unverifiable => "UNVERIFIABLE"

/-- `ReconciliationState(value)`. -/
def ReconciliationState.ofValue (value : String) : Option ReconciliationState :=
  [.none, .required, .inProgress, .resolved, .unverifiable].find? fun state =>
    ReconciliationState.value state = value

@[simp]
theorem OutboxStatus.ofValue_value (status : OutboxStatus) :
    ofValue status.value = some status := by
  cases status <;> decide

@[simp]
theorem FailureCategory.ofValue_value (category : FailureCategory) :
    ofValue category.value = some category := by
  cases category <;> decide

@[simp]
theorem ReconciliationState.ofValue_value (state : ReconciliationState) :
    ofValue state.value = some state := by
  cases state <;> decide

/-- Read an optional category: an absent or empty text is no category, and an unknown
text is an error. -/
def decodeCategory : Option String → Option (Option FailureCategory)
  | none => some none
  | some value =>
      if value = "" then some none else (FailureCategory.ofValue value).map some

@[simp]
theorem decodeCategory_value (category : Option FailureCategory) :
    decodeCategory (category.map (·.value)) = some category := by
  cases category with
  | none => rfl
  | some category => cases category <;> decide

/-! ## Documents -/

/-- The entry of one operation in the canonical document, with its payload in some form. -/
structure OperationDocument (π : Type := PayloadValue) where
  operationId : String
  runtimeId : String
  projectId : String
  taskId : String
  workItemId : String
  operationType : String
  providerId : String
  aggregateId : String
  aggregateVersion : Nat
  idempotencyKey : String
  correlationId : Option String
  causationId : Option String
  payload : π
  payloadSchemaVersion : Nat
  status : String
  priority : Int
  availableAt : Timestamp
  createdAt : Timestamp
  firstAttemptedAt : Option Timestamp
  lastAttemptedAt : Option Timestamp
  completedAt : Option Timestamp
  attemptCount : Nat
  maximumAttempts : Nat
  claimOwner : Option String
  claimTokenHash : Option String
  claimedAt : Option Timestamp
  claimExpiresAt : Option Timestamp
  fencingToken : Nat
  failureCode : Option String
  failureCategory : Option String
  retryAfter : Option Timestamp
  resultReference : Option String
  reconciliationState : String
  deadLetterReason : Option String

def operationToDict (item : OutboxOperation) : OperationDocument where
  operationId := item.operationId
  runtimeId := item.runtimeId
  projectId := item.projectId
  taskId := item.taskId
  workItemId := item.workItemId
  operationType := item.operationType
  providerId := item.providerId
  aggregateId := item.aggregateId
  aggregateVersion := item.aggregateVersion
  idempotencyKey := item.idempotencyKey
  correlationId := item.correlationId
  causationId := item.causationId
  payload := item.payload
  payloadSchemaVersion := item.payloadSchemaVersion
  status := item.status.value
  priority := item.priority
  availableAt := item.availableAt
  createdAt := item.createdAt
  firstAttemptedAt := item.firstAttemptedAt
  lastAttemptedAt := item.lastAttemptedAt
  completedAt := item.completedAt
  attemptCount := item.attemptCount
  maximumAttempts := item.maximumAttempts
  claimOwner := item.claimOwner
  claimTokenHash := item.claimTokenHash
  claimedAt := item.claimedAt
  claimExpiresAt := item.claimExpiresAt
  fencingToken := item.fencingToken
  failureCode := item.failureCode
  failureCategory := item.failureCategory.map (·.value)
  retryAfter := item.retryAfter
  resultReference := item.resultReference
  reconciliationState := item.reconciliationState.value
  deadLetterReason := item.deadLetterReason

/-- `operation_from_dict`; `none` is the `ValueError` of an unknown text. -/
def operationFromDict (value : OperationDocument) : Option OutboxOperation := do
  let status ← OutboxStatus.ofValue value.status
  let failureCategory ← decodeCategory value.failureCategory
  let reconciliationState ← ReconciliationState.ofValue value.reconciliationState
  some {
    operationId := value.operationId
    runtimeId := value.runtimeId
    projectId := value.projectId
    taskId := value.taskId
    workItemId := value.workItemId
    operationType := value.operationType
    providerId := value.providerId
    aggregateId := value.aggregateId
    aggregateVersion := value.aggregateVersion
    idempotencyKey := value.idempotencyKey
    correlationId := value.correlationId
    causationId := value.causationId
    payload := value.payload
    payloadSchemaVersion := value.payloadSchemaVersion
    status
    priority := value.priority
    availableAt := value.availableAt
    createdAt := value.createdAt
    firstAttemptedAt := value.firstAttemptedAt
    lastAttemptedAt := value.lastAttemptedAt
    completedAt := value.completedAt
    attemptCount := value.attemptCount
    maximumAttempts := value.maximumAttempts
    claimOwner := value.claimOwner
    claimTokenHash := value.claimTokenHash
    claimedAt := value.claimedAt
    claimExpiresAt := value.claimExpiresAt
    fencingToken := value.fencingToken
    failureCode := value.failureCode
    failureCategory
    retryAfter := value.retryAfter
    resultReference := value.resultReference
    reconciliationState
    deadLetterReason := value.deadLetterReason }

structure AttemptDocument where
  operationId : String
  attemptNumber : Nat
  startedAt : Timestamp
  completedAt : Option Timestamp
  outcome : String
  failureCode : Option String
  failureCategory : Option String
  safeSummary : String

/-- The attempt entry written by `encode_state`. -/
def attemptToDict (item : OutboxAttempt) : AttemptDocument where
  operationId := item.operationId
  attemptNumber := item.attemptNumber
  startedAt := item.startedAt
  completedAt := item.completedAt
  outcome := item.outcome
  failureCode := item.failureCode
  failureCategory := item.failureCategory.map (·.value)
  safeSummary := item.safeSummary

/-- The attempt read by `decode_state`. -/
def attemptFromDict (item : AttemptDocument) : Option OutboxAttempt := do
  let failureCategory ← decodeCategory item.failureCategory
  some {
    operationId := item.operationId
    attemptNumber := item.attemptNumber
    startedAt := item.startedAt
    completedAt := item.completedAt
    outcome := item.outcome
    failureCode := item.failureCode
    failureCategory
    safeSummary := item.safeSummary }

/-- The canonical document of an outbox. -/
structure Document where
  schemaVersion : Nat
  operations : Records OperationDocument
  attempts : Records (List AttemptDocument)
  idempotency : Records String
  providerPauses : Records Bool

/-- `encode_state` of `export_state`. -/
def encodeState (r : Repository) : Document where
  schemaVersion := 1
  operations := r.operations.records.map fun _ item => operationToDict item
  attempts := r.attempts.map fun _ values => values.map attemptToDict
  idempotency := r.idempotency
  providerPauses := r.providerPauses

/-- Decode every entry of a dictionary, or fail with the first entry that does not. -/
def decodeRecords {α β : Type} (decode : α → Option β) (records : Records α) :
    Option (Records β) :=
  if records.toList.all fun entry => (decode entry.2).isSome then
    some (records.filterMap fun _ value => decode value)
  else none

/-- The dictionary of operations as a table.  Saving files every operation under its own
identifier, and a document that does not is refused. -/
def OperationTable.ofRecords (records : Records OutboxOperation) : Option OperationTable :=
  if h : ∀ entry ∈ records.toList, entry.2.operationId = entry.1 then
    some {
      records
      keyed := fun id operation hget =>
        h (id, operation) (Std.ExtTreeMap.mem_toList_iff_getElem?_eq_some.mpr hget) }
  else none

/-- `decode_state` and `import_state` without recovery. -/
def decodeState (value : Document) : Option Repository := do
  if value.schemaVersion ≠ 1 then none
  else
    let records ← decodeRecords operationFromDict value.operations
    let operations ← OperationTable.ofRecords records
    let attempts ← decodeRecords (fun values => values.mapM attemptFromDict) value.attempts
    some {
      operations
      attempts
      idempotency := value.idempotency
      providerPauses := value.providerPauses }

@[simp]
theorem operationFromDict_toDict (item : OutboxOperation) :
    operationFromDict (operationToDict item) = some item := by
  simp [operationFromDict, operationToDict]

@[simp]
theorem attemptFromDict_toDict (item : OutboxAttempt) :
    attemptFromDict (attemptToDict item) = some item := by
  simp [attemptFromDict, attemptToDict]

theorem mapM_attemptFromDict (values : List OutboxAttempt) :
    (values.map attemptToDict).mapM attemptFromDict = some values := by
  induction values with
  | nil => rfl
  | cons value values ih => simp [List.mapM_cons, ih]

theorem decodeRecords_map {α β : Type} {decode : α → Option β} {encode : β → α}
    (h : ∀ value, decode (encode value) = some value) (records : Records β) :
    decodeRecords decode (records.map fun _ value => encode value) = some records := by
  unfold decodeRecords
  rw [if_pos]
  · congr 1
    apply Std.ExtTreeMap.ext_getElem?
    intro id
    simp only [Std.ExtTreeMap.getElem?_filterMap', Std.ExtTreeMap.getElem?_map]
    cases records[id]? <;> simp [h]
  · rw [List.all_eq_true]
    rintro ⟨id, value⟩ hmem
    rw [Std.ExtTreeMap.mem_toList_iff_getElem?_eq_some, Std.ExtTreeMap.getElem?_map] at hmem
    obtain ⟨item, -, rfl⟩ := Option.map_eq_some_iff.mp hmem
    simp [h]

@[simp]
theorem OperationTable.ofRecords_records (table : OperationTable) :
    ofRecords table.records = some table := by
  unfold ofRecords
  rw [dif_pos]
  rintro ⟨id, operation⟩ hmem
  exact table.keyed id operation
    (Std.ExtTreeMap.mem_toList_iff_getElem?_eq_some.mp hmem)

@[simp]
theorem decodeState_encodeState (r : Repository) :
    decodeState (encodeState r) = some r := by
  simp [decodeState, encodeState, decodeRecords_map operationFromDict_toDict,
    decodeRecords_map mapM_attemptFromDict]

end Outbox
end Ascos
