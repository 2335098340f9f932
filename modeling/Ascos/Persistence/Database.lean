import Ascos.Library.Program
import Ascos.Outbox.Model
import Ascos.Persistence.Serializer
import Ascos.Runtime.Model

/-!
# Checkpoints and the relational schema

The checkpoint model of `runtime/persistence/models.py` with its document, and the
tables of `runtime/persistence/database/schema.py`.  A row is inserted only when it
keeps the constraints of its table; rows of a table without a single key are kept in the
order of their insertion.  A time in a checkpoint is its ISO text.
-/

namespace Ascos
namespace Persistence

open Library
open Outbox (Timestamp Records)

/-- The failures of `runtime/persistence` that the provider raises, and those of the
database below it. -/
inductive Failure where
  | runtimeVersionConflict (message : String)
  | staleFencingToken (message : String)
  | leaseExpired (message : String)
  | leaseConflict (message : String)
  | staleCheckpoint (message : String)
  | concurrentPersistence (message : String)
  | persistenceIntegrity (message : String)
  | checkpointCorrupted (message : String)
  | unsupportedCheckpointVersion (message : String)
  | validation (message : String)
  | eventNotFound (eventId : String)
  | persistenceConfiguration (message : String)
  | duplicateCheckpoint (message : String)
  | checkpointNotFound (message : String)
  /-- A missing key or a value of another type in a payload. -/
  | malformed
  /-- `sqlite3.IntegrityError`. -/
  | integrity
  /-- `sqlite3.OperationalError` of a busy or locked database. -/
  | locked
  /-- Any other error of the database. -/
  | database
deriving DecidableEq

/-- SHA-256 digests, and the ISO texts of times in UTC. -/
structure Platform where
  sha256 : String → String
  utc : String → Bool

/-! ## Checkpoints -/

/-- The fields of `RuntimeCheckpoint`. -/
structure CheckpointFields where
  id : String
  schemaVersion : Int
  runtimeId : String
  createdAt : String
  reason : String
  lastEventPosition : Nat
  stateDigest : String
  payload : List (String × Value)

def checkpointSchemaVersion : Int := 1

def checkpointDigest (P : Platform) (fields : CheckpointFields) : String :=
  P.sha256 (encodeValue (.mapping
    [("created_at", .datetime fields.createdAt),
      ("id", .text fields.id),
      ("last_event_position", .int fields.lastEventPosition),
      ("payload", .mapping fields.payload),
      ("reason", .text fields.reason),
      ("runtime_id", .text fields.runtimeId),
      ("schema_version", .int fields.schemaVersion)])).dumps

/-- `validate_required_string`. -/
def requireString (value fieldName : String) : Except Failure Unit :=
  if Runtime.isBlank value then throw (.validation s!"{fieldName} must be a non-empty string")
  else pure ()

/-- `RuntimeCheckpoint.__post_init__`. -/
def CheckpointFields.check (P : Platform) (fields : CheckpointFields) :
    Except Failure Unit := do
  requireString fields.id "RuntimeCheckpoint.id"
  requireString fields.runtimeId "RuntimeCheckpoint.runtime_id"
  requireString fields.reason "RuntimeCheckpoint.reason"
  if fields.schemaVersion ≠ checkpointSchemaVersion then
    throw (.unsupportedCheckpointVersion
      s!"Unsupported checkpoint schema {fields.schemaVersion}")
  if P.utc fields.createdAt = false then
    throw (.persistenceIntegrity "RuntimeCheckpoint.created_at must be UTC")
  if freezableItems fields.payload = false then
    throw (.persistenceIntegrity "Checkpoint payload is not JSON-compatible")
  if checkpointDigest P fields ≠ fields.stateDigest then
    throw (.persistenceIntegrity "Checkpoint digest mismatch")

/-- `RuntimeCheckpoint`: its construction succeeded. -/
structure RuntimeCheckpoint (P : Platform) extends CheckpointFields where
  checked : toCheckpointFields.check P = .ok ()
  canonical : (Value.mapping toCheckpointFields.payload).Canonical

structure Document where
  type : String
  id : String
  schemaVersion : Int
  runtimeId : String
  createdAt : String
  reason : String
  lastEventPosition : Nat
  stateDigest : String
  payload : Json

def toDocument (fields : CheckpointFields) : Document where
  type := "ascos.runtime-checkpoint"
  id := fields.id
  schemaVersion := fields.schemaVersion
  runtimeId := fields.runtimeId
  createdAt := fields.createdAt
  reason := fields.reason
  lastEventPosition := fields.lastEventPosition
  stateDigest := fields.stateDigest
  payload := encodeValue (.mapping fields.payload)

def fromDocument (P : Platform) (document : Document) : Except Failure CheckpointFields :=
  if document.type ≠ "ascos.runtime-checkpoint" then
    throw (.checkpointCorrupted "Invalid checkpoint discriminator")
  else
    match decodeValue P.utc document.payload with
    | .error (.checkpointCorrupted message) => throw (.checkpointCorrupted message)
    | .ok (.mapping payload) => do
        let fields : CheckpointFields :=
          { id := document.id
            schemaVersion := document.schemaVersion
            runtimeId := document.runtimeId
            createdAt := document.createdAt
            reason := document.reason
            lastEventPosition := document.lastEventPosition
            stateDigest := document.stateDigest
            payload }
        fields.check P
        pure fields
    | .ok _ => throw (.checkpointCorrupted "Checkpoint payload must be a mapping")

theorem fromDocument_toDocument {P : Platform} (checkpoint : RuntimeCheckpoint P)
    (hplain : PlainItems checkpoint.payload) :
    fromDocument P (toDocument checkpoint.toCheckpointFields) =
      .ok checkpoint.toCheckpointFields := by
  have hdecode : decodeValue P.utc (encodeValue (.mapping checkpoint.payload)) =
      .ok (.mapping checkpoint.payload) :=
    decodeValue_encodeValue P.utc _ checkpoint.canonical (PlainItems.legible P.utc _ hplain)
  simp only [fromDocument, toDocument, hdecode, ne_eq, not_true_eq_false, if_false]
  rw [checkpoint.checked]
  rfl

/-! ## Tables -/

/-- `DurabilityStatus` as the provider writes it. -/
inductive DurabilityStatus where
  | notAttempted
  | committedDurable
deriving DecidableEq

/-- A row of `runtime_instances`. -/
structure InstanceRow where
  schemaVersion : Nat
  currentStateVersion : Nat
  latestCheckpointId : Option String
  latestEventPosition : Nat
  durabilityStatus : DurabilityStatus
  latestFencingToken : Nat
  createdAt : Timestamp
  updatedAt : Timestamp

/-- A row of `runtime_checkpoints`. -/
structure CheckpointRow where
  checkpointId : String
  runtimeId : String
  checkpointSchemaVersion : Int
  stateVersion : Nat
  createdAt : String
  reason : String
  lastEventPosition : Nat
  stateDigest : String
  canonicalPayload : Document
  committedAt : Timestamp

/-- A row of `runtime_events`. -/
structure EventRow where
  eventId : String
  runtimeId : String
  globalPosition : Nat
  aggregateType : String
  aggregateId : String
  aggregateSequence : Nat
  eventType : String
  occurredAt : String
  correlationId : Option String
  causationId : Option String
  canonicalPayload : Json

/-- A row of `runtime_state_versions`. -/
structure VersionRow where
  runtimeId : String
  stateVersion : Nat
  checkpointId : String
  committedAt : Timestamp

/-- A row of `runtime_leases`; the runtime is its key. -/
structure LeaseRow where
  leaseOwnerId : String
  leaseTokenHash : String
  acquiredAt : Timestamp
  renewedAt : Timestamp
  expiresAt : Timestamp
  fencingToken : Nat
deriving DecidableEq

/-- A row of `persistence_transactions`. -/
structure TransactionRow where
  operationId : String
  runtimeId : String
  expectedStateVersion : Int
  resultingStateVersion : Nat
  status : String
  createdAt : Timestamp
  committedAt : Timestamp

structure Database where
  instances : Records InstanceRow
  checkpoints : List CheckpointRow
  events : List EventRow
  versions : List VersionRow
  leases : Records LeaseRow
  transactions : List TransactionRow

def Database.init : Database where
  instances := ∅
  checkpoints := []
  events := []
  versions := []
  leases := ∅
  transactions := []

/-! ## Insertions -/

/-- Two event rows that no table may hold together: `PRIMARY KEY` on the identifier, and
`UNIQUE` on the position and on the aggregate sequence of a runtime. -/
def EventRow.Clash (row other : EventRow) : Prop :=
  row.eventId = other.eventId ∨
    row.runtimeId = other.runtimeId ∧
      (row.globalPosition = other.globalPosition ∨
        row.aggregateType = other.aggregateType ∧ row.aggregateId = other.aggregateId ∧
          row.aggregateSequence = other.aggregateSequence)

instance (row other : EventRow) : Decidable (row.Clash other) :=
  inferInstanceAs (Decidable (_ ∨ _ ∧ (_ ∨ _ ∧ _ ∧ _)))

/-- `INSERT INTO runtime_events`. -/
def insertEvent (row : EventRow) : Program Database Failure Unit := do
  let db ← get
  if (∃ other ∈ db.events, row.Clash other) ∨ row.globalPosition < 1 ∨
      row.aggregateSequence < 1 then
    throw .integrity
  else
    set { db with events := db.events ++ [row] }

/-- `INSERT INTO runtime_checkpoints`. -/
def insertCheckpoint (row : CheckpointRow) : Program Database Failure Unit := do
  let db ← get
  if (∃ other ∈ db.checkpoints, row.runtimeId = other.runtimeId ∧
      row.checkpointId = other.checkpointId) ∨ row.stateVersion < 1 then
    throw .integrity
  else
    set { db with checkpoints := db.checkpoints ++ [row] }

/-- `INSERT INTO runtime_state_versions`. -/
def insertVersion (row : VersionRow) : Program Database Failure Unit := do
  let db ← get
  if (∃ other ∈ db.versions, row.runtimeId = other.runtimeId ∧
      row.stateVersion = other.stateVersion) ∨ row.stateVersion < 1 then
    throw .integrity
  else
    set { db with versions := db.versions ++ [row] }

/-- `INSERT INTO persistence_transactions`. -/
def insertTransaction (row : TransactionRow) : Program Database Failure Unit := do
  let db ← get
  if ∃ other ∈ db.transactions, row.operationId = other.operationId then
    throw .integrity
  else
    set { db with transactions := db.transactions ++ [row] }

end Persistence
end Ascos
