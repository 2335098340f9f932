import Ascos.Persistence.Database

/-!
# The database persistence provider

A translation of `commit_checkpoint`, `append_event_batch` and
`_validate_stored_checkpoint` from `runtime/persistence/database/provider.py`.
Both writers run in one transaction of the database: whatever is raised, and also a commit
that fails, puts the database back.
-/

namespace Ascos
namespace Persistence

open Library
open Outbox (Timestamp Records)
open Ascos.Library.Program (exec exec_bind exec_bind_ok exec_get exec_ite exec_modify exec_pure
  exec_set exec_throw exec_tryCatch)

/-! ## Transactions -/

/-- What surrounds one call: the provider's clock, and whether the database begins and
commits the transaction. -/
structure Environment where
  now : Timestamp
  ensuredAt : Timestamp
  begun : Except Failure Unit := .ok ()
  committed : Except Failure Unit := .ok ()

def orRaise {α : Type} : Except Failure α → Program Database Failure α
  | .ok a => pure a
  | .error error => throw error

/-- `if condition: raise failure`. -/
def raiseIf (condition : Prop) [Decidable condition] (failure : Failure) :
    Program Database Failure Unit :=
  if condition then throw failure else pure ()

/-- `map_database_error`, with the text of the writer for a broken constraint. -/
def mapDatabaseError (constraint : String) : Failure → Failure
  | .integrity => .concurrentPersistence constraint
  | .locked => .concurrentPersistence "Database is busy or locked"
  | failure => failure

/-- `BEGIN IMMEDIATE`, the body and the commit; a failure rolls back and is translated. -/
def transaction {α : Type} (env : Environment) (translate : Failure → Failure)
    (body : Program Database Failure α) : Program Database Failure α := do
  let before ← get
  tryCatch
    (do orRaise env.begun
        let a ← body
        orRaise env.committed
        pure a)
    fun failure => do
      set before
      throw (translate failure)

/-- The row of a runtime that is new. -/
def freshInstance (now : Timestamp) : InstanceRow where
  schemaVersion := 1
  currentStateVersion := 0
  latestCheckpointId := none
  latestEventPosition := 0
  durabilityStatus := .notAttempted
  latestFencingToken := 0
  createdAt := now
  updatedAt := now

/-- `_ensure_runtime`: `INSERT OR IGNORE`. -/
def ensureRuntime (now : Timestamp) (runtimeId : String) : Program Database Failure Unit :=
  modify fun db =>
    if runtimeId ∈ db.instances then db
    else { db with instances := db.instances.insert runtimeId (freshInstance now) }

/-- The row of a runtime; a missing row cannot be unpacked. -/
def instanceRow (runtimeId : String) : Program Database Failure InstanceRow := do
  match (← get).instances[runtimeId]? with
  | some row => pure row
  | none => throw .malformed

def getStateVersion (now : Timestamp) (runtimeId : String) : Program Database Failure Nat := do
  ensureRuntime now runtimeId
  let row ← instanceRow runtimeId
  pure row.currentStateVersion

/-! ## Leases -/

structure RuntimeLease where
  runtimeId : String
  ownerId : String
  leaseToken : String
  acquiredAt : Timestamp
  renewedAt : Timestamp
  expiresAt : Timestamp
  fencingToken : Nat
deriving DecidableEq

def validateLease (P : Platform) (lease : RuntimeLease) (now : Timestamp)
    (latestFencing : Nat) : Program Database Failure Unit := do
  match (← get).leases[lease.runtimeId]? with
  | none => throw (.staleFencingToken "Lease fencing token is stale")
  | some row =>
    if lease.fencingToken ≠ latestFencing then
      throw (.staleFencingToken "Lease fencing token is stale")
    else if row.leaseOwnerId ≠ lease.ownerId ∨
        row.leaseTokenHash ≠ P.sha256 lease.leaseToken ∨
          row.fencingToken ≠ lease.fencingToken then
      throw (.staleFencingToken "Lease identity is stale")
    else if row.expiresAt ≤ now then
      throw (.leaseExpired "Lease has expired")

/-- The checks of `commit_checkpoint` on the lease it was given, if any. -/
def requireLease (P : Platform) (lease : Option RuntimeLease) (runtimeId : String)
    (now : Timestamp) (latestFencing : Nat) : Program Database Failure Unit :=
  match lease with
  | none => pure ()
  | some lease => do
    raiseIf (lease.runtimeId ≠ runtimeId)
      (.staleFencingToken "Lease belongs to a different runtime")
    validateLease P lease now latestFencing

/-! ## Event documents -/

/-- The fields of an event that are stored. -/
structure EventDocument where
  id : String
  aggregateType : String
  aggregateId : String
  sequenceNumber : Int
  eventType : String
  occurredAt : String
  correlationId : Option String
  causationId : Option String
  payload : Value

/-- `value[key]` of a mapping. -/
def Value.entry (key : String) : Value → Except Failure Value
  | .mapping items =>
    match items.lookup key with
    | some value => pure value
    | none => throw .malformed
  | _ => throw .malformed

def Value.asText : Value → Except Failure String
  | .text value => pure value
  | _ => throw .malformed

def Value.asInt : Value → Except Failure Int
  | .int value => pure value
  | _ => throw .malformed

def Value.asOptionalText : Value → Except Failure (Option String)
  | .null => pure none
  | .text value => pure (some value)
  | _ => throw .malformed

/-- `event["id"]`. -/
def eventId (event : Value) : Except Failure String := do
  (← event.entry "id").asText

/-- The fields of an event document that the provider stores. -/
def readEvent (event : Value) : Except Failure EventDocument := do
  pure
    { id := ← eventId event
      aggregateType := ← (← event.entry "aggregate_type").asText
      aggregateId := ← (← event.entry "aggregate_id").asText
      sequenceNumber := ← (← event.entry "sequence_number").asInt
      eventType := ← (← event.entry "event_type").asText
      occurredAt := ← (← event.entry "occurred_at").asText
      correlationId := ← (← event.entry "correlation_id").asOptionalText
      causationId := ← (← event.entry "causation_id").asOptionalText
      payload := ← event.entry "payload" }

/-- `list(checkpoint.payload["events"])`. -/
def payloadEvents (payload : List (String × Value)) : Except Failure (List Value) :=
  match payload.lookup "events" with
  | some (.sequence events) => pure events
  | _ => throw .malformed

/-! ## The event stream -/

/-- The events of a runtime in the order of their positions. -/
def Database.stream (db : Database) (runtimeId : String) : List EventRow :=
  (db.events.filter fun row => row.runtimeId = runtimeId).insertionSort
    fun a b => a.globalPosition ≤ b.globalPosition

/-- The sequence numbers of an aggregate. -/
def sequencesOf (events : List EventRow) (runtimeId aggregateType aggregateId : String) :
    List Nat :=
  (events.filter fun row => row.runtimeId = runtimeId ∧ row.aggregateType = aggregateType ∧
    row.aggregateId = aggregateId).map EventRow.aggregateSequence

/-- `COALESCE(MAX(aggregate_sequence),0)` of an aggregate. -/
def latestSequence (events : List EventRow) (runtimeId aggregateType aggregateId : String) :
    Nat :=
  (sequencesOf events runtimeId aggregateType aggregateId).foldr max 0

/-- `aggregate_sequences`. -/
abbrev Sequences := List ((String × String) × Nat)

def eventRow (runtimeId : String) (position sequence : Nat) (event : EventDocument) :
    EventRow where
  eventId := event.id
  runtimeId := runtimeId
  globalPosition := position
  aggregateType := event.aggregateType
  aggregateId := event.aggregateId
  aggregateSequence := sequence
  eventType := event.eventType
  occurredAt := event.occurredAt
  correlationId := event.correlationId
  causationId := event.causationId
  canonicalPayload := encodeValue event.payload

/-- The loop of both writers over the new events. -/
def insertEvents (runtimeId : String) (mismatch : Failure) :
    Nat → Sequences → List (Except Failure EventDocument) → Program Database Failure Unit
  | _, _, [] => pure ()
  | position, sequences, event :: events => do
    let event ← orRaise event
    let key := (event.aggregateType, event.aggregateId)
    let db ← get
    let latest := (sequences.lookup key).getD
      (latestSequence db.events runtimeId event.aggregateType event.aggregateId)
    raiseIf (event.sequenceNumber ≠ (latest + 1 : Nat)) mismatch
    insertEvent (eventRow runtimeId (position + 1) (latest + 1) event)
    insertEvents runtimeId mismatch (position + 1) ((key, latest + 1) :: sequences) events

/-! ## The writers -/

/-- `PersistenceCommitResult` of a committed checkpoint. -/
structure PersistenceCommitResult where
  runtimeId : String
  operationId : String
  stateVersion : Nat
  checkpointId : String
  lastEventPosition : Nat
  committedAt : Timestamp

variable (P : Platform)

def checkpointRow (fields : CheckpointFields) (stateVersion : Nat) (now : Timestamp) :
    CheckpointRow where
  checkpointId := fields.id
  runtimeId := fields.runtimeId
  checkpointSchemaVersion := fields.schemaVersion
  stateVersion := stateVersion
  createdAt := fields.createdAt
  reason := fields.reason
  lastEventPosition := fields.lastEventPosition
  stateDigest := fields.stateDigest
  canonicalPayload := toDocument fields
  committedAt := now

/-- `commit_checkpoint`; `operation_id` is given or drawn. -/
def commitCheckpoint (checkpoint : RuntimeCheckpoint P) (expectedStateVersion : Int)
    (lease : Option RuntimeLease) (operationId : String) (env : Environment) :
    Program Database Failure PersistenceCommitResult :=
  transaction env (mapDatabaseError "Database constraint rejected persistence transaction") do
    ensureRuntime env.ensuredAt checkpoint.runtimeId
    let row ← instanceRow checkpoint.runtimeId
    raiseIf ((row.currentStateVersion : Int) ≠ expectedStateVersion)
      (.runtimeVersionConflict (s!"Expected state version {expectedStateVersion}; " ++
        s!"current version is {row.currentStateVersion}"))
    requireLease P lease checkpoint.runtimeId env.now row.latestFencingToken
    let events ← orRaise (payloadEvents checkpoint.payload)
    raiseIf (checkpoint.lastEventPosition ≠ events.length)
      (.staleCheckpoint "Checkpoint event position does not match payload")
    raiseIf (checkpoint.lastEventPosition < row.latestEventPosition)
      (.staleCheckpoint "Checkpoint is older than durable event position")
    let existingIds := ((← get).stream checkpoint.runtimeId).map EventRow.eventId
    let prefixIds ← orRaise ((events.take row.latestEventPosition).mapM eventId)
    raiseIf (existingIds ≠ prefixIds)
      (.staleCheckpoint "Checkpoint event prefix does not match durable stream")
    insertEvents checkpoint.runtimeId
      (.staleCheckpoint "Checkpoint aggregate sequence is not contiguous")
      row.latestEventPosition [] ((events.drop row.latestEventPosition).map readEvent)
    let stateVersion := row.currentStateVersion + 1
    insertCheckpoint (checkpointRow checkpoint.toCheckpointFields stateVersion env.now)
    insertVersion
      { runtimeId := checkpoint.runtimeId
        stateVersion
        checkpointId := checkpoint.id
        committedAt := env.now }
    modify fun db =>
      { db with
        instances := db.instances.insert checkpoint.runtimeId
          { row with
            currentStateVersion := stateVersion
            latestCheckpointId := some checkpoint.id
            latestEventPosition := checkpoint.lastEventPosition
            durabilityStatus := .committedDurable
            updatedAt := env.now } }
    insertTransaction
      { operationId
        runtimeId := checkpoint.runtimeId
        expectedStateVersion
        resultingStateVersion := stateVersion
        status := "COMMITTED"
        createdAt := env.now
        committedAt := env.now }
    pure
      { runtimeId := checkpoint.runtimeId
        operationId
        stateVersion
        checkpointId := checkpoint.id
        lastEventPosition := checkpoint.lastEventPosition
        committedAt := env.now }

def appendEventBatch (runtimeId : String) (events : List EventDocument) (env : Environment) :
    Program Database Failure (List Nat) :=
  transaction env (mapDatabaseError "Event batch violated durable ordering constraints") do
    ensureRuntime env.ensuredAt runtimeId
    let row ← instanceRow runtimeId
    insertEvents runtimeId
      (.concurrentPersistence "Aggregate event sequence must be contiguous")
      row.latestEventPosition [] (events.map .ok)
    modify fun db =>
      { db with
        instances := db.instances.insert runtimeId
          { row with
            latestEventPosition := row.latestEventPosition + events.length
            updatedAt := env.now } }
    pure (List.range' (row.latestEventPosition + 1) events.length)

def validateStoredCheckpoint (db : Database) (row : CheckpointRow) :
    Except Failure CheckpointFields := do
  let checkpoint ← fromDocument P row.canonicalPayload
  if checkpoint.id ≠ row.checkpointId ∨ checkpoint.runtimeId ≠ row.runtimeId ∨
      checkpoint.schemaVersion ≠ row.checkpointSchemaVersion ∨
        checkpoint.createdAt ≠ row.createdAt ∨ checkpoint.reason ≠ row.reason ∨
          checkpoint.lastEventPosition ≠ row.lastEventPosition ∨
            checkpoint.stateDigest ≠ row.stateDigest then
    throw (.persistenceIntegrity "Relational checkpoint metadata does not match payload")
  let version := db.versions.find? fun version =>
    version.runtimeId = checkpoint.runtimeId ∧ version.stateVersion = row.stateVersion
  let eventIds := ((db.stream checkpoint.runtimeId).filter fun event =>
    event.globalPosition ≤ checkpoint.lastEventPosition).map EventRow.eventId
  let payloadEventIds ← (← payloadEvents checkpoint.payload).mapM eventId
  if version.map VersionRow.checkpointId ≠ some checkpoint.id ∨ eventIds ≠ payloadEventIds then
    throw (.persistenceIntegrity "Checkpoint version or event position is inconsistent")
  pure checkpoint

/-! ## What a transaction does -/

variable {P} {α : Type} {db db' : Database}

@[simp]
theorem exec_orRaise (result : Except Failure α) (db : Database) :
    exec (orRaise result) db = (result, db) := by
  cases result <;> rfl

theorem exec_raiseIf_ok {condition : Prop} [Decidable condition] {failure : Failure} {u : Unit}
    (h : exec (raiseIf condition failure) db = (.ok u, db')) :
    ¬condition ∧ db' = db := by
  simp only [raiseIf, exec_ite, exec_throw, exec_pure] at h
  split_ifs at h with hcondition
  · cases h
  · cases h
    exact ⟨hcondition, rfl⟩

theorem exec_orRaise_ok {result : Except Failure α} {a : α}
    (h : exec (orRaise result) db = (.ok a, db')) : result = .ok a ∧ db' = db := by
  rw [exec_orRaise] at h
  cases h
  exact ⟨rfl, rfl⟩

theorem exec_transaction (env : Environment) (translate : Failure → Failure)
    (body : Program Database Failure α) (db : Database) :
    (∃ failure, exec (transaction env translate body) db = (.error failure, db)) ∨
      ∃ a db', exec body db = (.ok a, db') ∧
        exec (transaction env translate body) db = (.ok a, db') := by
  simp only [transaction, exec_bind, exec_get, exec_tryCatch,
    exec_orRaise]
  cases env.begun with
  | error failure => exact .inl ⟨_, rfl⟩
  | ok _ =>
    dsimp only
    rcases hbody : exec body db with ⟨failure | a, db'⟩
    · exact .inl ⟨_, rfl⟩
    · cases env.committed with
      | error failure => exact .inl ⟨_, rfl⟩
      | ok _ => exact .inr ⟨a, db', rfl, rfl⟩

/-- The row of a runtime, or the row that `_ensure_runtime` inserts. -/
def Database.instanceOr (db : Database) (now : Timestamp) (runtimeId : String) :
    InstanceRow :=
  db.instances[runtimeId]?.getD (freshInstance now)

def Database.ensured (db : Database) (now : Timestamp) (runtimeId : String) : Database :=
  if runtimeId ∈ db.instances then db
  else
    { db with instances := db.instances.insert runtimeId (db.instanceOr now runtimeId) }

@[simp]
theorem exec_ensureRuntime (now : Timestamp) (runtimeId : String) (db : Database) :
    exec (ensureRuntime now runtimeId) db = (.ok (), db.ensured now runtimeId) := by
  simp only [ensureRuntime, exec_modify, Database.ensured]
  split
  · rfl
  · rename_i hnew
    have hnone : db.instances[runtimeId]? = none := Std.ExtTreeMap.getElem?_eq_none hnew
    simp [Database.instanceOr, hnone]

@[simp]
theorem Database.instances_ensured (db : Database) (now : Timestamp)
    (runtimeId other : String) :
    (db.ensured now runtimeId).instances[other]? =
      if other = runtimeId then some (db.instanceOr now runtimeId)
      else db.instances[other]? := by
  unfold Database.ensured
  by_cases hmem : runtimeId ∈ db.instances
  · rw [if_pos hmem]
    split
    · rename_i hother
      obtain ⟨row, hrow⟩ := Option.isSome_iff_exists.mp
        (Std.ExtTreeMap.isSome_getElem?_iff_mem.mpr hmem)
      rw [hother, hrow, Database.instanceOr, hrow, Option.getD_some]
    · rfl
  · rw [if_neg hmem]
    simp only [Std.ExtTreeMap.getElem?_insert, Std.compare_eq_iff_eq]
    by_cases hother : runtimeId = other
    · simp [hother]
    · simp [hother, Ne.symm hother]

@[simp]
theorem Database.events_ensured (db : Database) (now : Timestamp) (runtimeId : String) :
    (db.ensured now runtimeId).events = db.events := by
  unfold Database.ensured
  split <;> rfl

@[simp]
theorem Database.checkpoints_ensured (db : Database) (now : Timestamp) (runtimeId : String) :
    (db.ensured now runtimeId).checkpoints = db.checkpoints := by
  unfold Database.ensured
  split <;> rfl

@[simp]
theorem Database.versions_ensured (db : Database) (now : Timestamp) (runtimeId : String) :
    (db.ensured now runtimeId).versions = db.versions := by
  unfold Database.ensured
  split <;> rfl

@[simp]
theorem Database.leases_ensured (db : Database) (now : Timestamp) (runtimeId : String) :
    (db.ensured now runtimeId).leases = db.leases := by
  unfold Database.ensured
  split <;> rfl

@[simp]
theorem Database.transactions_ensured (db : Database) (now : Timestamp) (runtimeId : String) :
    (db.ensured now runtimeId).transactions = db.transactions := by
  unfold Database.ensured
  split <;> rfl

@[simp]
theorem Database.stream_ensured (db : Database) (now : Timestamp) (runtimeId other : String) :
    (db.ensured now runtimeId).stream other = db.stream other := by
  rw [Database.stream, Database.events_ensured, Database.stream]

@[simp]
theorem exec_instanceRow (runtimeId : String) (db : Database) :
    exec (instanceRow runtimeId) db =
      match db.instances[runtimeId]? with
      | some row => (.ok row, db)
      | none => (.error .malformed, db) := by
  simp only [instanceRow, exec_bind, exec_get]
  cases db.instances[runtimeId]? <;> rfl

/-- A count that the row of a runtime keeps, zero before there is a row. -/
def Database.counter (count : InstanceRow → Nat) (db : Database) (runtimeId : String) : Nat :=
  (db.instances[runtimeId]?.map count).getD 0

section Counter

variable {count : InstanceRow → Nat}

theorem counter_of_insert {now : Timestamp} {runtimeId : String} {row : InstanceRow}
    (h : db'.instances = (db.ensured now runtimeId).instances.insert runtimeId row)
    (other : String) :
    db'.counter count other = if other = runtimeId then count row else db.counter count other := by
  unfold Database.counter
  rw [h, Std.ExtTreeMap.getElem?_insert]
  by_cases hother : other = runtimeId
  · simp [hother]
  · simp [hother, Ne.symm hother]

theorem counter_instanceOr (hfresh : ∀ now, count (freshInstance now) = 0) (db : Database)
    (now : Timestamp) (runtimeId : String) :
    count (db.instanceOr now runtimeId) = db.counter count runtimeId := by
  unfold Database.instanceOr Database.counter
  cases db.instances[runtimeId]? with
  | none => exact hfresh now
  | some row => rfl

theorem counter_of_insert_kept (hfresh : ∀ now, count (freshInstance now) = 0)
    {now : Timestamp} {runtimeId : String} {row : InstanceRow}
    (h : db'.instances = (db.ensured now runtimeId).instances.insert runtimeId row)
    (hcount : count row = count (db.instanceOr now runtimeId)) (other : String) :
    db'.counter count other = db.counter count other := by
  rw [counter_of_insert h, hcount, counter_instanceOr hfresh]
  split
  · rename_i hother
    rw [hother]
  · rfl

theorem counter_ensured (hfresh : ∀ now, count (freshInstance now) = 0) (db : Database)
    (now : Timestamp) (runtimeId other : String) :
    (db.ensured now runtimeId).counter count other = db.counter count other := by
  rw [Database.counter, Database.instances_ensured]
  split
  · rename_i hother
    rw [Option.map_some, Option.getD_some, counter_instanceOr hfresh, hother]
  · rfl

end Counter

/-! ## What the loop inserts -/

/-- The rows that the loop inserts for documents, from the rows that are there and the last
position. -/
inductive Appends (runtimeId : String) :
    List EventRow → Nat → List EventDocument → List EventRow → Prop
  | nil (events : List EventRow) (position : Nat) : Appends runtimeId events position [] []
  | cons {events : List EventRow} {position : Nat} {document : EventDocument}
      {documents : List EventDocument} {row : EventRow} {rows : List EventRow}
      (hrow : row = eventRow runtimeId (position + 1) (latestSequence events runtimeId
        document.aggregateType document.aggregateId + 1) document)
      (hsequence : document.sequenceNumber = row.aggregateSequence)
      (hfresh : ∀ other ∈ events, ¬row.Clash other)
      (hrest : Appends runtimeId (events ++ [row]) (position + 1) documents rows) :
      Appends runtimeId events position (document :: documents) (row :: rows)

/-- The cached sequences are the latest ones. -/
def Cached (events : List EventRow) (runtimeId : String) (sequences : Sequences) : Prop :=
  ∀ aggregateType aggregateId sequence,
    sequences.lookup (aggregateType, aggregateId) = some sequence →
      sequence = latestSequence events runtimeId aggregateType aggregateId

theorem foldr_max_append (numbers : List Nat) (n : Nat) :
    (numbers ++ [n]).foldr max 0 = max (numbers.foldr max 0) n := by
  induction numbers with
  | nil => simp
  | cons m numbers ih => simp [ih, max_assoc]

theorem latestSequence_append (events : List EventRow) (row : EventRow)
    (runtimeId aggregateType aggregateId : String) :
    latestSequence (events ++ [row]) runtimeId aggregateType aggregateId =
      if row.runtimeId = runtimeId ∧ row.aggregateType = aggregateType ∧
          row.aggregateId = aggregateId then
        max (latestSequence events runtimeId aggregateType aggregateId) row.aggregateSequence
      else latestSequence events runtimeId aggregateType aggregateId := by
  unfold latestSequence sequencesOf
  rw [List.filter_append, List.map_append]
  split
  · rename_i hrow
    rw [List.filter_singleton, decide_eq_true hrow, cond_true, List.map_singleton,
      foldr_max_append]
  · rename_i hrow
    rw [List.filter_singleton, decide_eq_false hrow, cond_false, List.map_nil,
      List.append_nil]

theorem Cached.step {events : List EventRow} {runtimeId : String} {sequences : Sequences}
    (hcached : Cached events runtimeId sequences) {position : Nat} {event : EventDocument}
    {latest : Nat}
    (hlatest : latest = latestSequence events runtimeId event.aggregateType event.aggregateId) :
    Cached (events ++ [eventRow runtimeId position (latest + 1) event]) runtimeId
      (((event.aggregateType, event.aggregateId), latest + 1) :: sequences) := by
  intro aggregateType aggregateId sequence hlookup
  rw [latestSequence_append]
  by_cases hkey : (aggregateType, aggregateId) = (event.aggregateType, event.aggregateId)
  · obtain ⟨rfl, rfl⟩ := Prod.mk.inj hkey
    rw [List.lookup_cons_self, Option.some.injEq] at hlookup
    subst hlookup
    simp [eventRow, hlatest]
  · have hother : ¬(event.aggregateType = aggregateType ∧ event.aggregateId = aggregateId) :=
      fun ⟨htype, hid⟩ => hkey (by rw [htype, hid])
    rw [List.lookup_cons, beq_false_of_ne hkey] at hlookup
    simpa [eventRow, hother] using hcached _ _ _ hlookup

theorem exec_insertEvent_ok {row : EventRow} {u : Unit}
    (h : exec (insertEvent row) db = (.ok u, db')) :
    (∀ other ∈ db.events, ¬row.Clash other) ∧
      db' = { db with events := db.events ++ [row] } := by
  simp only [insertEvent, exec_bind, exec_get, exec_ite,
    exec_throw, exec_set] at h
  split_ifs at h with hclash
  · cases h
  · cases h
    exact ⟨fun other hother hrow => hclash (.inl ⟨other, hother, hrow⟩), rfl⟩

theorem insertEvents_returned {runtimeId : String} {mismatch : Failure} {position : Nat}
    {sequences : Sequences} {events : List (Except Failure EventDocument)} {u : Unit}
    (hcached : Cached db.events runtimeId sequences)
    (h : exec (insertEvents runtimeId mismatch position sequences events) db =
      (.ok u, db')) :
    ∃ documents rows, events = documents.map .ok ∧
      Appends runtimeId db.events position documents rows ∧
        db' = { db with events := db.events ++ rows } := by
  induction events generalizing db position sequences with
  | nil =>
    cases h
    exact ⟨[], [], rfl, .nil _ _, by simp⟩
  | cons event events ih =>
    cases event with
    | error failure => cases h
    | ok event =>
        obtain ⟨_, _, hevent, h⟩ := exec_bind_ok h
        cases hevent
        obtain ⟨_, _, hget, h⟩ := exec_bind_ok h
        cases hget
        -- the cached sequence is the one that the query would return
        have hlatest : (sequences.lookup (event.aggregateType, event.aggregateId)).getD
            (latestSequence db.events runtimeId event.aggregateType event.aggregateId) =
              latestSequence db.events runtimeId event.aggregateType event.aggregateId := by
          cases hlookup : sequences.lookup (event.aggregateType, event.aggregateId) with
          | none => rfl
          | some sequence => exact hcached _ _ _ hlookup
        obtain ⟨_, checked, hcheck, h⟩ := exec_bind_ok h
        obtain ⟨hmatch, hsame⟩ := exec_raiseIf_ok hcheck
        obtain ⟨_, inserted, hinsert, h⟩ := exec_bind_ok h
        rw [hsame] at hinsert
        obtain ⟨hfresh, hinserted⟩ := exec_insertEvent_ok hinsert
        rw [hlatest] at hmatch hfresh hinserted h
        subst hinserted
        obtain ⟨documents, rows, rfl, happends, rfl⟩ := ih (hcached.step rfl) h
        refine ⟨event :: documents, _ :: rows, rfl, .cons rfl (not_not.mp hmatch) hfresh
          happends, ?_⟩
        simp

theorem exec_insertCheckpoint_ok {row : CheckpointRow} {u : Unit}
    (h : exec (insertCheckpoint row) db = (.ok u, db')) :
    (∀ other ∈ db.checkpoints, row.runtimeId = other.runtimeId →
        row.checkpointId ≠ other.checkpointId) ∧
      db' = { db with checkpoints := db.checkpoints ++ [row] } := by
  simp only [insertCheckpoint, exec_bind, exec_get, exec_ite,
    exec_throw, exec_set] at h
  split_ifs at h with hclash
  · cases h
  · cases h
    exact ⟨fun other hother hruntime hid => hclash (.inl ⟨other, hother, hruntime, hid⟩), rfl⟩

theorem exec_insertVersion_ok {row : VersionRow} {u : Unit}
    (h : exec (insertVersion row) db = (.ok u, db')) :
    (∀ other ∈ db.versions, row.runtimeId = other.runtimeId →
        row.stateVersion ≠ other.stateVersion) ∧
      db' = { db with versions := db.versions ++ [row] } := by
  simp only [insertVersion, exec_bind, exec_get, exec_ite,
    exec_throw, exec_set] at h
  split_ifs at h with hclash
  · cases h
  · cases h
    exact ⟨fun other hother hruntime hid => hclash (.inl ⟨other, hother, hruntime, hid⟩), rfl⟩

theorem exec_insertTransaction_ok {row : TransactionRow} {u : Unit}
    (h : exec (insertTransaction row) db = (.ok u, db')) :
    (∀ other ∈ db.transactions, row.operationId ≠ other.operationId) ∧
      db' = { db with transactions := db.transactions ++ [row] } := by
  simp only [insertTransaction, exec_bind, exec_get, exec_ite,
    exec_throw, exec_set] at h
  split_ifs at h with hclash
  · cases h
  · cases h
    exact ⟨fun other hother hid => hclash ⟨other, hother, hid⟩, rfl⟩

/-! ## What the writers do -/

/-- A lease is the current one of its runtime at a reading of the clock. -/
structure LeaseValid (P : Platform) (db : Database) (lease : RuntimeLease) (now : Timestamp)
    (latestFencing : Nat) : Prop where
  latest : lease.fencingToken = latestFencing
  stored : ∃ row, db.leases[lease.runtimeId]? = some row ∧ row.leaseOwnerId = lease.ownerId ∧
    row.leaseTokenHash = P.sha256 lease.leaseToken ∧ row.fencingToken = lease.fencingToken ∧
      now < row.expiresAt

theorem LeaseValid.of_ensured {lease : RuntimeLease} {now ensuredAt : Timestamp}
    {runtimeId : String} {latestFencing : Nat}
    (h : LeaseValid P (db.ensured ensuredAt runtimeId) lease now latestFencing) :
    LeaseValid P db lease now latestFencing where
  latest := h.latest
  stored := by simpa using h.stored

theorem exec_validateLease_ok {lease : RuntimeLease} {now : Timestamp} {latestFencing : Nat}
    {u : Unit} (h : exec (validateLease P lease now latestFencing) db = (.ok u, db')) :
    LeaseValid P db lease now latestFencing ∧ db' = db := by
  obtain ⟨_, _, hget, h⟩ := exec_bind_ok h
  cases hget
  split at h
  · cases h
  · rename_i row hrow
    simp only [exec_ite, exec_throw] at h
    split_ifs at h with hlatest hidentity hexpired <;> try cases h
    simp only [not_or, not_not] at hlatest hidentity
    exact ⟨⟨hlatest, row, hrow, hidentity.1, hidentity.2.1, hidentity.2.2,
      not_le.mp hexpired⟩, rfl⟩

theorem exec_requireLease_ok {lease : Option RuntimeLease} {runtimeId : String}
    {now : Timestamp} {latestFencing : Nat} {u : Unit}
    (h : exec (requireLease P lease runtimeId now latestFencing) db = (.ok u, db')) :
    (∀ held ∈ lease, held.runtimeId = runtimeId ∧ LeaseValid P db held now latestFencing) ∧
      db' = db := by
  cases lease with
  | none =>
    cases h
    exact ⟨by simp, rfl⟩
  | some lease =>
    obtain ⟨_, _, hcheck, hvalidate⟩ := exec_bind_ok h
    obtain ⟨hruntime, rfl⟩ := exec_raiseIf_ok hcheck
    obtain ⟨hvalid, rfl⟩ := exec_validateLease_ok hvalidate
    refine ⟨?_, rfl⟩
    rintro held ⟨⟩
    exact ⟨not_not.mp hruntime, hvalid⟩

/-- What a committed checkpoint found and changed: the new documents of its payload and the
rows they became. -/
structure Committed (checkpoint : RuntimeCheckpoint P) (expectedStateVersion : Int)
    (lease : Option RuntimeLease) (operationId : String) (env : Environment)
    (db : Database) (row : InstanceRow) (events : List Value)
    (documents : List EventDocument) (rows : List EventRow) : Prop where
  version : (row.currentStateVersion : Int) = expectedStateVersion
  leased : ∀ held ∈ lease, held.runtimeId = checkpoint.runtimeId ∧
    LeaseValid P db held env.now row.latestFencingToken
  payload : payloadEvents checkpoint.payload = .ok events
  position : checkpoint.lastEventPosition = events.length
  ahead : row.latestEventPosition ≤ events.length
  durable : (events.take row.latestEventPosition).mapM eventId =
    .ok ((db.stream checkpoint.runtimeId).map EventRow.eventId)
  read : (events.drop row.latestEventPosition).map readEvent = documents.map .ok
  appends : Appends checkpoint.runtimeId db.events row.latestEventPosition documents rows
  checkpoint_fresh : ∀ other ∈ db.checkpoints, checkpoint.runtimeId = other.runtimeId →
    checkpoint.id ≠ other.checkpointId
  version_fresh : ∀ other ∈ db.versions, checkpoint.runtimeId = other.runtimeId →
    row.currentStateVersion + 1 ≠ other.stateVersion
  operation_fresh : ∀ other ∈ db.transactions, operationId ≠ other.operationId

def Database.afterCommit (db : Database) (fields : CheckpointFields)
    (expectedStateVersion : Int) (operationId : String) (env : Environment)
    (row : InstanceRow) (rows : List EventRow) : Database where
  instances := (db.ensured env.ensuredAt fields.runtimeId).instances.insert fields.runtimeId
    { row with
      currentStateVersion := row.currentStateVersion + 1
      latestCheckpointId := some fields.id
      latestEventPosition := fields.lastEventPosition
      durabilityStatus := .committedDurable
      updatedAt := env.now }
  checkpoints := db.checkpoints ++ [checkpointRow fields (row.currentStateVersion + 1) env.now]
  events := db.events ++ rows
  versions := db.versions ++
    [{ runtimeId := fields.runtimeId
       stateVersion := row.currentStateVersion + 1
       checkpointId := fields.id
       committedAt := env.now }]
  leases := db.leases
  transactions := db.transactions ++
    [{ operationId
       runtimeId := fields.runtimeId
       expectedStateVersion
       resultingStateVersion := row.currentStateVersion + 1
       status := "COMMITTED"
       createdAt := env.now
       committedAt := env.now }]

def commitResult (fields : CheckpointFields) (operationId : String) (env : Environment)
    (row : InstanceRow) : PersistenceCommitResult where
  runtimeId := fields.runtimeId
  operationId := operationId
  stateVersion := row.currentStateVersion + 1
  checkpointId := fields.id
  lastEventPosition := fields.lastEventPosition
  committedAt := env.now

theorem commitCheckpoint_returned {checkpoint : RuntimeCheckpoint P}
    {expectedStateVersion : Int} {lease : Option RuntimeLease} {operationId : String}
    {env : Environment} {result : PersistenceCommitResult}
    (h : exec (commitCheckpoint P checkpoint expectedStateVersion lease operationId env)
      db = (.ok result, db')) :
    ∃ events documents rows,
      Committed checkpoint expectedStateVersion lease operationId env db
        (db.instanceOr env.ensuredAt checkpoint.runtimeId) events documents rows ∧
      result = commitResult checkpoint.toCheckpointFields operationId env
        (db.instanceOr env.ensuredAt checkpoint.runtimeId) ∧
      db' = db.afterCommit checkpoint.toCheckpointFields expectedStateVersion operationId env
        (db.instanceOr env.ensuredAt checkpoint.runtimeId) rows := by
  rcases exec_transaction env
    (mapDatabaseError "Database constraint rejected persistence transaction") _ db with
    ⟨failure, hraised⟩ | ⟨a, after, hbody, hreturned⟩
  · rw [commitCheckpoint, hraised] at h
    cases h
  rw [commitCheckpoint, hreturned] at h
  cases h
  obtain ⟨_, _, hensure, hbody⟩ := exec_bind_ok hbody
  rw [exec_ensureRuntime] at hensure
  cases hensure
  obtain ⟨row, _, hrow, hbody⟩ := exec_bind_ok hbody
  simp only [exec_instanceRow, Database.instances_ensured, if_true] at hrow
  cases hrow
  obtain ⟨_, _, hversionCheck, hbody⟩ := exec_bind_ok hbody
  obtain ⟨hversion, rfl⟩ := exec_raiseIf_ok hversionCheck
  obtain ⟨_, _, hleaseCheck, hbody⟩ := exec_bind_ok hbody
  obtain ⟨hlease, rfl⟩ := exec_requireLease_ok hleaseCheck
  obtain ⟨events, _, hevents, hbody⟩ := exec_bind_ok hbody
  obtain ⟨hpayload, rfl⟩ := exec_orRaise_ok hevents
  obtain ⟨_, _, hpositionCheck, hbody⟩ := exec_bind_ok hbody
  obtain ⟨hposition, rfl⟩ := exec_raiseIf_ok hpositionCheck
  obtain ⟨_, _, haheadCheck, hbody⟩ := exec_bind_ok hbody
  obtain ⟨hahead, rfl⟩ := exec_raiseIf_ok haheadCheck
  obtain ⟨_, _, hget, hbody⟩ := exec_bind_ok hbody
  cases hget
  obtain ⟨ids, _, hdurableIds, hbody⟩ := exec_bind_ok hbody
  obtain ⟨hids, rfl⟩ := exec_orRaise_ok hdurableIds
  obtain ⟨_, _, hdurableCheck, hbody⟩ := exec_bind_ok hbody
  obtain ⟨hdurable, rfl⟩ := exec_raiseIf_ok hdurableCheck
  obtain ⟨_, _, hinsert, hbody⟩ := exec_bind_ok hbody
  obtain ⟨documents, rows, hread, happends, rfl⟩ :=
    insertEvents_returned (fun _ _ _ hlookup => by cases hlookup) hinsert
  obtain ⟨_, _, hinsertCheckpoint, hbody⟩ := exec_bind_ok hbody
  obtain ⟨hcheckpoint, rfl⟩ := exec_insertCheckpoint_ok hinsertCheckpoint
  obtain ⟨_, _, hinsertVersion, hbody⟩ := exec_bind_ok hbody
  obtain ⟨hstate, rfl⟩ := exec_insertVersion_ok hinsertVersion
  obtain ⟨_, _, hmodify, hbody⟩ := exec_bind_ok hbody
  cases hmodify
  obtain ⟨_, _, hinsertTransaction, hbody⟩ := exec_bind_ok hbody
  obtain ⟨htransaction, rfl⟩ := exec_insertTransaction_ok hinsertTransaction
  cases hbody
  clear hversionCheck hleaseCheck hevents hpositionCheck haheadCheck hdurableIds hdurableCheck
    hinsert hinsertCheckpoint hinsertVersion hinsertTransaction hreturned
  simp only [Database.events_ensured, Database.checkpoints_ensured, Database.versions_ensured,
    Database.transactions_ensured, Database.stream_ensured, Database.leases_ensured] at *
  rw [not_not] at hversion hposition hdurable
  refine ⟨events, documents, rows, ?_, rfl, rfl⟩
  exact
    { version := hversion
      leased := fun held hheld => (hlease held hheld).imp_right .of_ensured
      payload := hpayload
      position := hposition
      ahead := hposition ▸ not_lt.mp hahead
      durable := hdurable ▸ hids
      read := hread
      appends := happends
      checkpoint_fresh := hcheckpoint
      version_fresh := hstate
      operation_fresh := htransaction }

def Database.afterAppend (db : Database) (runtimeId : String) (env : Environment)
    (row : InstanceRow) (rows : List EventRow) : Database :=
  { db with
    instances := (db.ensured env.ensuredAt runtimeId).instances.insert runtimeId
      { row with
        latestEventPosition := row.latestEventPosition + rows.length
        updatedAt := env.now }
    events := db.events ++ rows }

theorem Appends.length_eq {runtimeId : String} {events rows : List EventRow} {position : Nat}
    {documents : List EventDocument} (h : Appends runtimeId events position documents rows) :
    rows.length = documents.length := by
  induction h with
  | nil => rfl
  | cons hrow hsequence hfresh hrest ih => simp [ih]

theorem appendEventBatch_returned {runtimeId : String} {events : List EventDocument}
    {env : Environment} {positions : List Nat}
    (h : exec (appendEventBatch runtimeId events env) db = (.ok positions, db')) :
    ∃ rows,
      Appends runtimeId db.events
        (db.instanceOr env.ensuredAt runtimeId).latestEventPosition events rows ∧
      positions = List.range'
        ((db.instanceOr env.ensuredAt runtimeId).latestEventPosition + 1) rows.length ∧
      db' = db.afterAppend runtimeId env (db.instanceOr env.ensuredAt runtimeId) rows := by
  rcases exec_transaction env
    (mapDatabaseError "Event batch violated durable ordering constraints") _ db with
    ⟨failure, hraised⟩ | ⟨a, after, hbody, hreturned⟩
  · rw [appendEventBatch, hraised] at h
    cases h
  rw [appendEventBatch, hreturned] at h
  cases h
  obtain ⟨_, _, hensure, hbody⟩ := exec_bind_ok hbody
  rw [exec_ensureRuntime] at hensure
  cases hensure
  obtain ⟨row, _, hrow, hbody⟩ := exec_bind_ok hbody
  simp only [exec_instanceRow, Database.instances_ensured, if_true] at hrow
  cases hrow
  obtain ⟨_, _, hinsert, hbody⟩ := exec_bind_ok hbody
  obtain ⟨documents, rows, hread, happends, rfl⟩ :=
    insertEvents_returned (fun _ _ _ hlookup => by cases hlookup) hinsert
  obtain ⟨_, _, hmodify, hbody⟩ := exec_bind_ok hbody
  cases hmodify
  cases hbody
  obtain rfl : events = documents :=
    List.map_injective_iff.mpr (fun _ _ hok => Except.ok.inj hok) hread
  rw [Database.events_ensured] at happends
  refine ⟨rows, happends, ?_, ?_⟩
  · rw [happends.length_eq]
  · rw [Database.afterAppend, happends.length_eq]
    simp

end Persistence
end Ascos
