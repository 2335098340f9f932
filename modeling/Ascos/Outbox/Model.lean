import Mathlib.Tactic.Common

/-!
# Outbox values

The value types of `runtime/outbox/models.py` that the repository and the
workers read or write: statuses, failure categories, the operation record, claims
and attempt records.  Times are instants in microseconds; the text digests of the
code are gathered in `Digests`, whose functions stand for the SHA-256
hexadecimal digests of `hashlib`.
-/

namespace Ascos
namespace Outbox

/-- An instant, in microseconds. -/
abbrev Timestamp := Int

/-- `timedelta(seconds=...)`. -/
def timedelta (seconds : Int) : Timestamp :=
  seconds * 1000000

inductive OutboxStatus where
  | pending
  | claimed
  | dispatching
  | succeeded
  | retryWait
  | reconciliationRequired
  | deadLetter
  | cancelled
deriving DecidableEq

inductive FailureCategory where
  | nonRetryable
  | retryableImmediate
  | retryableBackoff
  | rateLimited
  | reconciliationRequired
  | unknown
deriving DecidableEq

inductive ReconciliationState where
  | none
  | required
  | inProgress
  | resolved
  | unverifiable
deriving DecidableEq

/-- A frozen payload value: what `freeze_payload` returns. -/
inductive PayloadValue where
  | null
  | bool (value : Bool)
  | int (value : Int)
  | float (literal : String)
  | text (value : String)
  | sequence (items : List PayloadValue)
  | mapping (entries : List (String × PayloadValue))

/-- The operation record `OutboxOperation`. -/
structure OutboxOperation where
  operationId : String
  runtimeId : String
  projectId : String
  taskId : String
  workItemId : String
  operationType : String
  providerId : String
  aggregateId : String
  aggregateVersion : Nat
  idempotencyKey : String
  correlationId : Option String
  causationId : Option String
  payload : PayloadValue
  payloadSchemaVersion : Nat
  status : OutboxStatus
  priority : Int
  availableAt : Timestamp
  createdAt : Timestamp
  firstAttemptedAt : Option Timestamp := none
  lastAttemptedAt : Option Timestamp := none
  completedAt : Option Timestamp := none
  attemptCount : Nat := 0
  maximumAttempts : Nat := 3
  claimOwner : Option String := none
  claimTokenHash : Option String := none
  claimedAt : Option Timestamp := none
  claimExpiresAt : Option Timestamp := none
  fencingToken : Nat := 0
  failureCode : Option String := none
  failureCategory : Option FailureCategory := none
  retryAfter : Option Timestamp := none
  resultReference : Option String := none
  reconciliationState : ReconciliationState := .none
  deadLetterReason : Option String := none

/-- The part of an operation that `request_fingerprint` digests. -/
structure RequestDocument where
  operationType : String
  providerId : String
  aggregateId : String
  aggregateVersion : Nat
  payloadSchemaVersion : Nat
  payload : PayloadValue

structure OutboxClaim where
  operationId : String
  ownerId : String
  token : String
  claimedAt : Timestamp
  expiresAt : Timestamp
  fencingToken : Nat
deriving DecidableEq

structure OutboxAttempt where
  operationId : String
  attemptNumber : Nat
  startedAt : Timestamp
  completedAt : Option Timestamp
  outcome : String
  failureCode : Option String := none
  failureCategory : Option FailureCategory := none
  safeSummary : String := ""
deriving DecidableEq

/-- The SHA-256 digests of the repository: `_hash` of a claim token and the digest
taken by `request_fingerprint` of the canonical text of a request. -/
structure Digests where
  hash : String → String
  fingerprint : RequestDocument → String

def OutboxOperation.requestFingerprint (D : Digests) (operation : OutboxOperation) :
    String :=
  D.fingerprint {
    operationType := operation.operationType
    providerId := operation.providerId
    aggregateId := operation.aggregateId
    aggregateVersion := operation.aggregateVersion
    payloadSchemaVersion := operation.payloadSchemaVersion
    payload := operation.payload }

/-! ## Tables of records -/

/-- A dictionary keyed by text whose insertion order nothing observes. -/
abbrev Records (ν : Type) := Std.ExtTreeMap String ν

/-- The repository's `_operations`: every operation is filed under its own
identifier. -/
structure OperationTable where
  records : Records OutboxOperation
  keyed : ∀ (id : String) (operation : OutboxOperation),
    records[id]? = some operation → operation.operationId = id

namespace OperationTable

/-- The table of a new repository. -/
def empty : OperationTable where
  records := ∅
  keyed := by simp

/-- `_operations.get(id)`. -/
def get? (table : OperationTable) (id : String) : Option OutboxOperation :=
  table.records[id]?

/-- File an operation under its own identifier. -/
def put (table : OperationTable) (operation : OutboxOperation) : OperationTable where
  records := table.records.insert operation.operationId operation
  keyed := by
    intro id found h
    rw [Std.ExtTreeMap.getElem?_insert] at h
    split at h
    · rename_i heq
      cases h
      simpa using heq
    · exact table.keyed id found h

/-- `_operations.values()`. -/
def values (table : OperationTable) : List OutboxOperation :=
  table.records.toList.map Prod.snd

/-- Rewrite every operation in place by an update that keeps its identifier. -/
def mapValues (table : OperationTable) (f : OutboxOperation → OutboxOperation)
    (hf : ∀ operation, (f operation).operationId = operation.operationId) :
    OperationTable where
  records := table.records.map fun _ operation => f operation
  keyed := by
    intro id found h
    rw [Std.ExtTreeMap.getElem?_map] at h
    obtain ⟨operation, hget, rfl⟩ := Option.map_eq_some_iff.mp h
    rw [hf]
    exact table.keyed id operation hget

theorem operationId_of_get? {table : OperationTable} {id : String}
    {operation : OutboxOperation} (h : table.get? id = some operation) :
    operation.operationId = id :=
  table.keyed id operation h

@[simp]
theorem get?_empty (id : String) : empty.get? id = none := by
  simp [empty, get?]

@[simp]
theorem get?_put (table : OperationTable) (operation : OutboxOperation) (id : String) :
    (table.put operation).get? id =
      if operation.operationId = id then some operation else table.get? id := by
  simp [put, get?, Std.ExtTreeMap.getElem?_insert]

@[simp]
theorem get?_mapValues (table : OperationTable)
    (f : OutboxOperation → OutboxOperation)
    (hf : ∀ operation, (f operation).operationId = operation.operationId)
    (id : String) :
    (table.mapValues f hf).get? id = (table.get? id).map f := by
  simp [mapValues, get?]

theorem mem_values {table : OperationTable} {operation : OutboxOperation} :
    operation ∈ table.values ↔ table.get? operation.operationId = some operation := by
  simp only [values, List.mem_map, Prod.exists, exists_eq_right]
  constructor
  · rintro ⟨id, h⟩
    rw [Std.ExtTreeMap.mem_toList_iff_getElem?_eq_some] at h
    rw [get?, table.keyed id operation h]
    exact h
  · intro h
    exact ⟨operation.operationId,
      Std.ExtTreeMap.mem_toList_iff_getElem?_eq_some.mpr h⟩

/-- Two tables with the same lookups are the same table. -/
theorem ext_get? {left right : OperationTable}
    (h : ∀ id, left.get? id = right.get? id) : left = right := by
  rcases left with ⟨left, _⟩
  rcases right with ⟨right, _⟩
  have hrecords : left = right := Std.ExtTreeMap.ext_getElem? h
  subst hrecords
  rfl

end OperationTable

end Outbox
end Ascos
