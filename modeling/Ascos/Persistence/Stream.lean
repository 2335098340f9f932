import Ascos.Persistence.History

/-!
# The durable event stream

Two writers extend the events of a runtime: a committed checkpoint, by the events of its
payload past the durable position, and an appended batch.  `StreamSound` says what the
database owes to the readers of the stream after any run of the provider, with any leases,
failing calls and other runtimes in between.  All of it holds of every run, except that a
stored checkpoint is read back only when its payload holds no enumeration member: the
construction of a checkpoint accepts one, and so does the encoder, but the decoder does not
give it back.

Main results:

- Theorem `Appends.contiguous`: appended rows continue the positions and the sequences.
- Theorem `streamEffect_record`: what one step does to the durable stream.
- Theorem `durable_stream_sound`: the stream is sound after every run that commits
  plain payloads.
- Theorem `enum_checkpoint_refused`: without that condition it is not.
-/

namespace Ascos
namespace Persistence

open Library
open Outbox (Timestamp timedelta)
open Ascos.Library.Program (exec exec_map_ok)

/-! ## Contiguous numbers -/

def Contiguous (numbers : List Nat) : Prop :=
  numbers = List.range' 1 numbers.length

theorem Contiguous.nil : Contiguous [] :=
  rfl

theorem Contiguous.foldr_max {numbers : List Nat} (h : Contiguous numbers) :
    numbers.foldr max 0 = numbers.length := by
  rw [h]
  generalize numbers.length = n
  rw [List.length_range']
  induction n with
  | zero => rfl
  | succ n ih =>
    rw [List.range'_concat, foldr_max_append, ih]
    omega

theorem Contiguous.concat {numbers : List Nat} (h : Contiguous numbers) :
    Contiguous (numbers ++ [numbers.length + 1]) := by
  unfold Contiguous
  rw [List.length_append, List.length_singleton, List.range'_concat, ← h]
  simp [Nat.add_comm]

/-! ## Appended rows -/

section Appends

variable {runtimeId : String} {events rows : List EventRow} {position : Nat}
  {documents : List EventDocument}

theorem Appends.runtimeId_eq (h : Appends runtimeId events position documents rows) :
    ∀ row ∈ rows, row.runtimeId = runtimeId := by
  induction h with
  | nil => simp
  | cons hrow hsequence hfresh hrest ih =>
    intro row hmem
    rcases List.mem_cons.mp hmem with rfl | hmem
    · rw [hrow]
      rfl
    · exact ih row hmem

theorem Appends.positions (h : Appends runtimeId events position documents rows) :
    rows.map EventRow.globalPosition = List.range' (position + 1) rows.length := by
  induction h with
  | nil => rfl
  | cons hrow hsequence hfresh hrest ih =>
    rw [List.map_cons, ih, hrow]
    rfl

theorem Appends.eventIds (h : Appends runtimeId events position documents rows) :
    rows.map EventRow.eventId = documents.map EventDocument.id := by
  induction h with
  | nil => rfl
  | cons hrow hsequence hfresh hrest ih =>
    rw [List.map_cons, ih, hrow]
    rfl

theorem sequencesOf_append (rows : List EventRow) (row : EventRow)
    (runtimeId aggregateType aggregateId : String) :
    sequencesOf (rows ++ [row]) runtimeId aggregateType aggregateId =
      if row.runtimeId = runtimeId ∧ row.aggregateType = aggregateType ∧
          row.aggregateId = aggregateId then
        sequencesOf rows runtimeId aggregateType aggregateId ++ [row.aggregateSequence]
      else sequencesOf rows runtimeId aggregateType aggregateId := by
  unfold sequencesOf
  rw [List.filter_append, List.map_append, List.filter_singleton]
  split
  · rename_i hrow
    rw [decide_eq_true hrow, cond_true, List.map_singleton]
  · rename_i hrow
    rw [decide_eq_false hrow, cond_false, List.map_nil, List.append_nil]

theorem Appends.contiguous (h : Appends runtimeId events position documents rows)
    (hsequences : ∀ aggregateType aggregateId,
      Contiguous (sequencesOf events runtimeId aggregateType aggregateId))
    (aggregateType aggregateId : String) :
    Contiguous (sequencesOf (events ++ rows) runtimeId aggregateType aggregateId) := by
  induction h with
  | nil =>
    rw [List.append_nil]
    exact hsequences aggregateType aggregateId
  | @cons events position document documents row rows hrow hsequence hfresh hrest ih =>
    rw [← List.singleton_append, ← List.append_assoc]
    refine ih ?_
    intro aggregateType aggregateId
    rw [sequencesOf_append]
    split
    · rename_i hkey
      obtain ⟨-, rfl, rfl⟩ := hkey
      have hlatest : row.aggregateSequence =
          (sequencesOf events runtimeId row.aggregateType row.aggregateId).length + 1 := by
        rw [hrow]
        exact congrArg (· + 1) (hsequences _ _).foldr_max
      rw [hlatest]
      exact (hsequences _ _).concat
    · exact hsequences aggregateType aggregateId

end Appends

/-! ## The tables of one runtime -/

def Database.inserted (db : Database) (runtimeId : String) : List EventRow :=
  db.events.filter fun row => row.runtimeId = runtimeId

/-- The checkpoints of a runtime in the order of their insertion. -/
def Database.checkpointsOf (db : Database) (runtimeId : String) : List CheckpointRow :=
  db.checkpoints.filter fun row => row.runtimeId = runtimeId

/-- The state versions of a runtime in the order of their insertion. -/
def Database.versionsOf (db : Database) (runtimeId : String) : List VersionRow :=
  db.versions.filter fun row => row.runtimeId = runtimeId

/-- `latest_event_position`. -/
def Database.position (db : Database) (runtimeId : String) : Nat :=
  db.counter InstanceRow.latestEventPosition runtimeId

/-- `current_state_version`. -/
def Database.version (db : Database) (runtimeId : String) : Nat :=
  db.counter InstanceRow.currentStateVersion runtimeId

variable {P : Platform}

def Event.Commits (event : Event P) (checkpoint : RuntimeCheckpoint P)
    (result : PersistenceCommitResult) : Prop :=
  ∃ expectedStateVersion lease operationId env,
    event.call = .commit checkpoint expectedStateVersion lease operationId env ∧
      event.outcome = .ok (.committed result)

/-- The events of a checkpoint are the first ones of the stream, up to its position. -/
def PrefixOf (stream : List EventRow) (checkpoint : RuntimeCheckpoint P) : Prop :=
  ∃ events, payloadEvents checkpoint.payload = .ok events ∧
    events.length = checkpoint.lastEventPosition ∧
      events.mapM eventId =
        .ok ((stream.take checkpoint.lastEventPosition).map EventRow.eventId)

/-- What the database owes to the readers of the stream of a runtime. -/
structure StreamSound (P : Platform) (history : List (Event P)) (db : Database)
    (runtimeId : String) : Prop where
  positions : (db.stream runtimeId).map EventRow.globalPosition =
    List.range' 1 (db.position runtimeId)
  sequences : ∀ aggregateType aggregateId,
    Contiguous (sequencesOf (db.stream runtimeId) runtimeId aggregateType aggregateId)
  versions : (db.versionsOf runtimeId).map VersionRow.stateVersion =
    List.range' 1 (db.version runtimeId)
  ordered : (db.checkpointsOf runtimeId).Pairwise fun earlier later =>
    earlier.stateVersion < later.stateVersion ∧
      earlier.lastEventPosition ≤ later.lastEventPosition
  prefixes : ∀ event ∈ history, ∀ checkpoint result, event.Commits checkpoint result →
    checkpoint.runtimeId = runtimeId → PrefixOf (db.stream runtimeId) checkpoint
  stored : ∀ event ∈ history, ∀ checkpoint result, event.Commits checkpoint result →
    checkpoint.runtimeId = runtimeId →
      ∃ row ∈ db.checkpointsOf runtimeId, row.checkpointId = checkpoint.id ∧
        row.stateVersion = result.stateVersion ∧
          validateStoredCheckpoint P db row = .ok checkpoint.toCheckpointFields
  grows : ∀ event ∈ history,
    event.before.db.stream runtimeId <+: event.after.db.stream runtimeId
  failed : ∀ event ∈ history, ∀ failure, event.outcome = .error failure →
    event.after = event.before

/-! ## What one step does -/

theorem latestEventPosition_instanceOr (db : Database) (now : Timestamp)
    (runtimeId : String) :
    (db.instanceOr now runtimeId).latestEventPosition = db.position runtimeId :=
  counter_instanceOr (fun _ => rfl) db now runtimeId

theorem currentStateVersion_instanceOr (db : Database) (now : Timestamp)
    (runtimeId : String) :
    (db.instanceOr now runtimeId).currentStateVersion = db.version runtimeId :=
  counter_instanceOr (fun _ => rfl) db now runtimeId

/-- Rows of one runtime leave the rows of another alone. -/
theorem filter_append_other {ρ : Type} {owner : ρ → String} {runtimeId other : String}
    (table : List ρ) {rows : List ρ} (hrows : ∀ row ∈ rows, owner row = runtimeId)
    (hother : runtimeId ≠ other) :
    (table ++ rows).filter (fun row => owner row = other) =
      table.filter fun row => owner row = other := by
  rw [List.filter_append, List.append_right_eq_self, List.filter_eq_nil_iff]
  intro row hrow hkey
  exact hother ((hrows row hrow).symm.trans (of_decide_eq_true hkey))

/-- Rows of a runtime come after the ones that are there. -/
theorem filter_append_own {ρ : Type} {owner : ρ → String} {runtimeId : String}
    (table : List ρ) {rows : List ρ} (hrows : ∀ row ∈ rows, owner row = runtimeId) :
    (table ++ rows).filter (fun row => owner row = runtimeId) =
      table.filter (fun row => owner row = runtimeId) ++ rows := by
  rw [List.filter_append, List.append_cancel_left_eq, List.filter_eq_self]
  intro row hrow
  exact decide_eq_true (hrows row hrow)

/-- What a step does to the durable tables of a runtime. -/
inductive StreamEffect (event : Event P) (runtimeId : String) : Prop
  | kept
      (hinserted : event.after.db.inserted runtimeId = event.before.db.inserted runtimeId)
      (hcheckpoints : event.after.db.checkpointsOf runtimeId =
        event.before.db.checkpointsOf runtimeId)
      (hversions : event.after.db.versionsOf runtimeId = event.before.db.versionsOf runtimeId)
      (hposition : event.after.db.position runtimeId = event.before.db.position runtimeId)
      (hversion : event.after.db.version runtimeId = event.before.db.version runtimeId)
      (hcommits : ∀ checkpoint result, event.Commits checkpoint result →
        checkpoint.runtimeId ≠ runtimeId)
  | appended (documents : List EventDocument) (rows : List EventRow)
      (happends : Appends runtimeId event.before.db.events
        (event.before.db.position runtimeId) documents rows)
      (hinserted : event.after.db.inserted runtimeId =
        event.before.db.inserted runtimeId ++ rows)
      (hcheckpoints : event.after.db.checkpointsOf runtimeId =
        event.before.db.checkpointsOf runtimeId)
      (hversions : event.after.db.versionsOf runtimeId = event.before.db.versionsOf runtimeId)
      (hposition : event.after.db.position runtimeId =
        event.before.db.position runtimeId + rows.length)
      (hversion : event.after.db.version runtimeId = event.before.db.version runtimeId)
      (hcommits : ∀ checkpoint result, event.Commits checkpoint result →
        checkpoint.runtimeId ≠ runtimeId)
  | committed (checkpoint : RuntimeCheckpoint P) (expectedStateVersion : Int)
      (lease : Option RuntimeLease) (operationId : String) (env : Environment)
      (events : List Value) (documents : List EventDocument) (rows : List EventRow)
      (hruntime : checkpoint.runtimeId = runtimeId)
      (hcommitted : Committed checkpoint expectedStateVersion lease operationId env
        event.before.db (event.before.db.instanceOr env.ensuredAt checkpoint.runtimeId) events
        documents rows)
      (hinserted : event.after.db.inserted runtimeId =
        event.before.db.inserted runtimeId ++ rows)
      (hcheckpoints : event.after.db.checkpointsOf runtimeId =
        event.before.db.checkpointsOf runtimeId ++
          [checkpointRow checkpoint.toCheckpointFields
            (event.before.db.version runtimeId + 1) env.now])
      (hversions : event.after.db.versionsOf runtimeId =
        event.before.db.versionsOf runtimeId ++
          [{ runtimeId
             stateVersion := event.before.db.version runtimeId + 1
             checkpointId := checkpoint.id
             committedAt := env.now }])
      (hposition : event.after.db.position runtimeId = checkpoint.lastEventPosition)
      (hversion : event.after.db.version runtimeId = event.before.db.version runtimeId + 1)
      (hcommits : ∀ other result, event.Commits other result →
        other = checkpoint ∧ result.stateVersion = event.before.db.version runtimeId + 1)

theorem StreamEffect.of_same {event : Event P} {runtimeId : String}
    (hevents : event.after.db.events = event.before.db.events)
    (hcheckpoints : event.after.db.checkpoints = event.before.db.checkpoints)
    (hversions : event.after.db.versions = event.before.db.versions)
    (hposition : event.after.db.position runtimeId = event.before.db.position runtimeId)
    (hversion : event.after.db.version runtimeId = event.before.db.version runtimeId)
    (hcommits : ∀ checkpoint result, ¬event.Commits checkpoint result) :
    StreamEffect event runtimeId :=
  .kept (by rw [Database.inserted, hevents, Database.inserted])
    (by rw [Database.checkpointsOf, hcheckpoints, Database.checkpointsOf])
    (by rw [Database.versionsOf, hversions, Database.versionsOf]) hposition hversion
    fun checkpoint result hcommit => (hcommits checkpoint result hcommit).elim

theorem streamEffect_raised {world : World} {call : Call P} {failure : Failure}
    (h : (call.exec world).1 = .error failure) (runtimeId : String) :
    StreamEffect (record world call) runtimeId := by
  have hafter : (record world call).after = world := Call.exec_unchanged h
  have hnone : ∀ checkpoint result, ¬(record world call).Commits checkpoint result := by
    rintro checkpoint result ⟨_, _, _, _, _, houtcome⟩
    rw [show (record world call).outcome = .error failure from h] at houtcome
    cases houtcome
  refine .of_same ?_ ?_ ?_ ?_ ?_ hnone <;> (rw [hafter]; rfl)

theorem streamEffect_commit {world : World} {checkpoint : RuntimeCheckpoint P}
    {expectedStateVersion : Int} {lease : Option RuntimeLease} {operationId : String}
    {env : Environment} {reply : Reply} {db : Database}
    (hprogram : exec
      (Call.commit checkpoint expectedStateVersion lease operationId env).program world.db =
        (.ok reply, db)) (runtimeId : String) :
    StreamEffect
      { before := world
        call := .commit checkpoint expectedStateVersion lease operationId env
        outcome := .ok reply
        after :=
          { db
            renewals := world.renewals } } runtimeId := by
  obtain ⟨result, hexec, rfl⟩ := exec_map_ok hprogram
  obtain ⟨events, documents, rows, hcommitted, rfl, rfl⟩ := commitCheckpoint_returned hexec
  have hrows := hcommitted.appends.runtimeId_eq
  by_cases hruntime : checkpoint.runtimeId = runtimeId
  · subst hruntime
    refine .committed checkpoint expectedStateVersion lease operationId env events documents
      rows rfl hcommitted (filter_append_own _ hrows) ?_ ?_ ?_ ?_ ?_
    · rw [← currentStateVersion_instanceOr world.db env.ensuredAt]
      exact filter_append_own _ (by simp [checkpointRow])
    · rw [← currentStateVersion_instanceOr world.db env.ensuredAt]
      exact filter_append_own _ (by simp)
    · exact (counter_of_insert rfl _).trans (if_pos rfl)
    · rw [← currentStateVersion_instanceOr world.db env.ensuredAt]
      exact (counter_of_insert rfl _).trans (if_pos rfl)
    · rintro other found ⟨_, _, _, _, hcall, houtcome⟩
      cases hcall
      cases houtcome
      exact ⟨rfl, congrArg (· + 1) (currentStateVersion_instanceOr _ _ _)⟩
  · refine .kept (filter_append_other _ hrows hruntime) ?_ ?_ ?_ ?_ ?_
    · exact filter_append_other _ (by simp [checkpointRow]) hruntime
    · exact filter_append_other _ (by simp) hruntime
    · exact (counter_of_insert rfl _).trans (if_neg (Ne.symm hruntime))
    · exact (counter_of_insert rfl _).trans (if_neg (Ne.symm hruntime))
    · rintro other found ⟨_, _, _, _, hcall, houtcome⟩
      cases hcall
      exact hruntime

theorem streamEffect_append {world : World} {id : String} {documents : List EventDocument}
    {env : Environment} {reply : Reply} {db : Database}
    (hprogram : exec (Call.append (P := P) id documents env).program world.db =
      (.ok reply, db)) (runtimeId : String) :
    StreamEffect
      { before := world
        call := .append (P := P) id documents env
        outcome := .ok reply
        after :=
          { db
            renewals := world.renewals } } runtimeId := by
  obtain ⟨positions, hexec, rfl⟩ := exec_map_ok hprogram
  obtain ⟨rows, happends, -, rfl⟩ := appendEventBatch_returned hexec
  have hrows := happends.runtimeId_eq
  have hnone : ∀ checkpoint result,
      ¬Event.Commits
        { before := world
          call := .append (P := P) id documents env
          outcome := .ok (.positions positions)
          after :=
            { db := world.db.afterAppend id env (world.db.instanceOr env.ensuredAt id) rows
              renewals := world.renewals } } checkpoint result := by
    rintro checkpoint result ⟨_, _, _, _, hcall, _⟩
    cases hcall
  have hversion : (world.db.afterAppend id env
      (world.db.instanceOr env.ensuredAt id) rows).version runtimeId =
        world.db.version runtimeId :=
    counter_of_insert_kept (fun _ => rfl) (by rfl) (by rfl) runtimeId
  by_cases hruntime : id = runtimeId
  · subst hruntime
    refine .appended documents rows ?_ (filter_append_own _ hrows) rfl rfl ?_ hversion
      fun checkpoint result hcommit => (hnone checkpoint result hcommit).elim
    · rw [← latestEventPosition_instanceOr world.db env.ensuredAt]
      exact happends
    · rw [← latestEventPosition_instanceOr world.db env.ensuredAt]
      exact (counter_of_insert rfl _).trans (if_pos rfl)
  · refine .kept (filter_append_other _ hrows hruntime) rfl rfl ?_ hversion
      fun checkpoint result hcommit => (hnone checkpoint result hcommit).elim
    exact (counter_of_insert rfl _).trans (if_neg (Ne.symm hruntime))

/-- What a step does to the durable tables of a runtime. -/
theorem streamEffect_record (world : World) (call : Call P) (runtimeId : String) :
    StreamEffect (record world call) runtimeId := by
  cases h : (call.exec world).1 with
  | error failure => exact streamEffect_raised h runtimeId
  | ok reply =>
    obtain ⟨db, hprogram, hrecord⟩ := Call.exec_ok h
    rw [hrecord]
    cases call with
    | commit checkpoint expectedStateVersion lease operationId env =>
        exact streamEffect_commit hprogram runtimeId
    | append id events env => exact streamEffect_append hprogram runtimeId
    | acquire id ownerId token ttlSeconds env =>
        obtain ⟨lease, hexec, rfl⟩ := exec_map_ok hprogram
        obtain ⟨hfree, rfl, rfl⟩ := acquireLease_returned hexec
        refine .of_same rfl rfl rfl (counter_of_insert_kept (fun _ => rfl) (by rfl) (by rfl) _)
          (counter_of_insert_kept (fun _ => rfl) (by rfl) (by rfl) _) ?_
        rintro checkpoint result ⟨_, _, _, _, hcall, _⟩
        cases hcall
    | check renewal =>
        obtain ⟨_, hexec, rfl⟩ := exec_map_ok hprogram
        obtain ⟨hchecked, rfl⟩ := exec_checkRenewal_ok hexec
        refine .of_same rfl rfl rfl rfl rfl ?_
        rintro checkpoint result ⟨_, _, _, _, hcall, _⟩
        cases hcall
    | update renewal =>
        cases hprogram
        refine .of_same rfl rfl rfl rfl rfl ?_
        rintro checkpoint result ⟨_, _, _, _, hcall, _⟩
        cases hcall
    | release lease =>
        obtain ⟨_, hexec, rfl⟩ := exec_map_ok hprogram
        obtain ⟨hstored, rfl⟩ := exec_releaseLease_ok hexec
        refine .of_same rfl rfl rfl rfl rfl ?_
        rintro checkpoint result ⟨_, _, _, _, hcall, _⟩
        cases hcall
    | breakExpired id now =>
        obtain ⟨broken, hexec, rfl⟩ := exec_map_ok hprogram
        have hnone : ∀ (db : Database) checkpoint result,
            ¬Event.Commits
              { before := world
                call := .breakExpired (P := P) id now
                outcome := .ok (.broken broken)
                after :=
                  { db
                    renewals := world.renewals } } checkpoint result := by
          rintro db checkpoint result ⟨_, _, _, _, hcall, _⟩
          cases hcall
        rcases exec_breakExpiredLease_ok hexec with ⟨-, -, rfl⟩ | ⟨-, rfl⟩
        · exact .of_same rfl rfl rfl rfl rfl (hnone _)
        · exact .of_same rfl rfl rfl rfl rfl (hnone _)
    | stateVersion id now =>
        obtain ⟨version, hexec, rfl⟩ := exec_map_ok hprogram
        rw [exec_getStateVersion] at hexec
        cases hexec
        refine .of_same (Database.events_ensured _ _ _) (Database.checkpoints_ensured _ _ _)
          (Database.versions_ensured _ _ _) (counter_ensured (fun _ => rfl) _ _ _ _)
          (counter_ensured (fun _ => rfl) _ _ _ _) ?_
        rintro checkpoint result ⟨_, _, _, _, hcall, _⟩
        cases hcall

/-! ## What a run keeps -/

/-- A committed checkpoint is in the tables of its runtime, and its events are the first ones
of the stream. -/
structure Anchored (db : Database) (checkpoint : RuntimeCheckpoint P) (stateVersion : Nat) :
    Prop where
  stored : ∃ now, checkpointRow checkpoint.toCheckpointFields stateVersion now ∈
    db.checkpointsOf checkpoint.runtimeId
  within : checkpoint.lastEventPosition ≤ db.position checkpoint.runtimeId
  events : PrefixOf (db.inserted checkpoint.runtimeId) checkpoint
  version : ((db.versionsOf checkpoint.runtimeId).find? fun row =>
    row.stateVersion = stateVersion).map VersionRow.checkpointId = some checkpoint.id

/-- The durable tables of a runtime are numbered without gaps, and its committed checkpoints
are anchored in them. -/
structure Durable (history : List (Event P)) (db : Database) (runtimeId : String) : Prop where
  positions : (db.inserted runtimeId).map EventRow.globalPosition =
    List.range' 1 (db.position runtimeId)
  sequences : ∀ aggregateType aggregateId,
    Contiguous (sequencesOf (db.inserted runtimeId) runtimeId aggregateType aggregateId)
  versions : (db.versionsOf runtimeId).map VersionRow.stateVersion =
    List.range' 1 (db.version runtimeId)
  bounded : ∀ row ∈ db.checkpointsOf runtimeId,
    row.stateVersion ≤ db.version runtimeId ∧ row.lastEventPosition ≤ db.position runtimeId
  ordered : (db.checkpointsOf runtimeId).Pairwise fun earlier later =>
    earlier.stateVersion < later.stateVersion ∧
      earlier.lastEventPosition ≤ later.lastEventPosition
  anchored : ∀ event ∈ history, ∀ checkpoint result, event.Commits checkpoint result →
    checkpoint.runtimeId = runtimeId → Anchored db checkpoint result.stateVersion

theorem sequencesOf_inserted (events : List EventRow)
    (runtimeId aggregateType aggregateId : String) :
    sequencesOf (events.filter fun row => row.runtimeId = runtimeId) runtimeId aggregateType
        aggregateId =
      sequencesOf events runtimeId aggregateType aggregateId := by
  unfold sequencesOf
  rw [List.filter_filter]
  congr 1
  refine List.filter_congr ?_
  intro row _
  grind

theorem Durable.length_inserted {history : List (Event P)} {db : Database} {runtimeId : String}
    (h : Durable history db runtimeId) :
    (db.inserted runtimeId).length = db.position runtimeId := by
  simpa using congrArg List.length h.positions

theorem Durable.stream_eq {history : List (Event P)} {db : Database} {runtimeId : String}
    (h : Durable history db runtimeId) : db.stream runtimeId = db.inserted runtimeId := by
  refine List.Pairwise.insertionSort_eq ?_
  refine List.Pairwise.of_map EventRow.globalPosition (fun _ _ hle => hle) ?_
  rw [show (db.events.filter _).map _ = _ from h.positions]
  exact (List.pairwise_lt_range' (s := 1)).imp le_of_lt

theorem eventId_of_read {event : Value} {document : EventDocument}
    (h : readEvent event = .ok document) : eventId event = .ok document.id := by
  unfold readEvent at h
  cases hid : eventId event with
  | error failure =>
    rw [hid] at h
    cases h
  | ok id =>
    rw [hid] at h
    simp only [bind, Except.bind, pure, Except.pure] at h
    repeat' split at h
    all_goals cases h
    rfl

theorem mapM_eventId_of_read {events : List Value} {documents : List EventDocument}
    (h : events.map readEvent = documents.map .ok) :
    events.mapM eventId = .ok (documents.map EventDocument.id) := by
  induction events generalizing documents with
  | nil =>
    obtain rfl : documents = [] := by simpa using h.symm
    rfl
  | cons event events ih =>
    cases documents with
    | nil => cases h
    | cons document documents =>
        obtain ⟨hread, hrest⟩ := List.cons.inj h
        rw [List.mapM_cons, eventId_of_read hread, ih hrest]
        rfl

theorem PrefixOf.append {stream rows : List EventRow} {checkpoint : RuntimeCheckpoint P}
    (h : PrefixOf stream checkpoint) (hwithin : checkpoint.lastEventPosition ≤ stream.length) :
    PrefixOf (stream ++ rows) checkpoint := by
  obtain ⟨events, hpayload, hlength, hids⟩ := h
  refine ⟨events, hpayload, hlength, ?_⟩
  rw [List.take_append_of_le_length hwithin]
  exact hids

theorem Anchored.grow {db db' : Database} {checkpoint : RuntimeCheckpoint P}
    {stateVersion : Nat} (h : Anchored db checkpoint stateVersion)
    (hlength : (db.inserted checkpoint.runtimeId).length = db.position checkpoint.runtimeId)
    {rows : List EventRow} {checkpoints : List CheckpointRow} {versions : List VersionRow}
    (hinserted : db'.inserted checkpoint.runtimeId = db.inserted checkpoint.runtimeId ++ rows)
    (hcheckpoints : db'.checkpointsOf checkpoint.runtimeId =
      db.checkpointsOf checkpoint.runtimeId ++ checkpoints)
    (hversions : db'.versionsOf checkpoint.runtimeId =
      db.versionsOf checkpoint.runtimeId ++ versions)
    (hposition : db.position checkpoint.runtimeId ≤ db'.position checkpoint.runtimeId) :
    Anchored db' checkpoint stateVersion where
  stored := by
    obtain ⟨now, hmem⟩ := h.stored
    exact ⟨now, hcheckpoints ▸ List.mem_append_left _ hmem⟩
  within := h.within.trans hposition
  events := by
    rw [hinserted]
    exact h.events.append (hlength ▸ h.within)
  version := by
    rw [hversions, List.find?_append, Option.map_or, h.version, Option.some_or]

section Step

variable {history : List (Event P)} {event : Event P} {runtimeId : String}

theorem Durable.anchored_new (hdurable : Durable history event.before.db runtimeId)
    {checkpoint : RuntimeCheckpoint P} {expectedStateVersion : Int}
    {lease : Option RuntimeLease} {operationId : String} {env : Environment}
    {events : List Value} {documents : List EventDocument} {rows : List EventRow}
    (hruntime : checkpoint.runtimeId = runtimeId)
    (hcommitted : Committed checkpoint expectedStateVersion lease operationId env
      event.before.db (event.before.db.instanceOr env.ensuredAt checkpoint.runtimeId) events
      documents rows)
    (hinserted : event.after.db.inserted runtimeId = event.before.db.inserted runtimeId ++ rows)
    (hcheckpoints : event.after.db.checkpointsOf runtimeId =
      event.before.db.checkpointsOf runtimeId ++
        [checkpointRow checkpoint.toCheckpointFields
          (event.before.db.version runtimeId + 1) env.now])
    (hversions : event.after.db.versionsOf runtimeId =
      event.before.db.versionsOf runtimeId ++
        [{ runtimeId
           stateVersion := event.before.db.version runtimeId + 1
           checkpointId := checkpoint.id
           committedAt := env.now }])
    (hposition : event.after.db.position runtimeId = checkpoint.lastEventPosition) :
    Anchored event.after.db checkpoint (event.before.db.version runtimeId + 1) := by
  subst hruntime
  have hstream := hcommitted.durable
  rw [latestEventPosition_instanceOr, hdurable.stream_eq] at hstream
  have hnew := mapM_eventId_of_read hcommitted.read
  rw [latestEventPosition_instanceOr] at hnew
  constructor
  · exact ⟨env.now, hcheckpoints ▸ List.mem_append_right _ List.mem_cons_self⟩
  · exact le_of_eq hposition.symm
  · refine ⟨events, hcommitted.payload, hcommitted.position.symm, ?_⟩
    -- the payload is the durable prefix followed by the new events
    have hlength : (event.before.db.inserted checkpoint.runtimeId ++ rows).length ≤
        checkpoint.lastEventPosition := by
      have hdrop := congrArg List.length hcommitted.read
      have hrows := hcommitted.appends.length_eq
      have hahead := hcommitted.ahead
      rw [latestEventPosition_instanceOr] at hdrop hahead
      simp only [List.length_map, List.length_drop] at hdrop
      rw [List.length_append, hdurable.length_inserted, hcommitted.position]
      omega
    rw [hinserted, List.take_of_length_le hlength, List.map_append,
      hcommitted.appends.eventIds,
      ← List.take_append_drop (event.before.db.position checkpoint.runtimeId) events,
      List.mapM_append, hstream, hnew]
    rfl
  · rw [hversions, List.find?_append, Option.map_or]
    have hfresh : (event.before.db.versionsOf checkpoint.runtimeId).find? (fun row =>
        row.stateVersion = event.before.db.version checkpoint.runtimeId + 1) = none := by
      refine List.find?_eq_none.mpr ?_
      intro row hrow hversion
      have hmem := List.mem_map_of_mem (f := VersionRow.stateVersion) hrow
      rw [hdurable.versions, List.mem_range'] at hmem
      have := of_decide_eq_true hversion
      omega
    rw [hfresh, Option.map_none, Option.none_or, List.find?_singleton]
    simp

theorem Durable.positions_append (hdurable : Durable history event.before.db runtimeId)
    {documents : List EventDocument} {rows : List EventRow}
    (happends : Appends runtimeId event.before.db.events (event.before.db.position runtimeId)
      documents rows)
    (hinserted : event.after.db.inserted runtimeId =
      event.before.db.inserted runtimeId ++ rows)
    (hposition : event.after.db.position runtimeId =
      event.before.db.position runtimeId + rows.length) :
    (event.after.db.inserted runtimeId).map EventRow.globalPosition =
      List.range' 1 (event.after.db.position runtimeId) := by
  rw [hinserted, hposition, List.map_append, hdurable.positions, happends.positions,
    Nat.add_comm _ 1, List.range'_append_1]

theorem Durable.sequences_append (hdurable : Durable history event.before.db runtimeId)
    {documents : List EventDocument} {rows : List EventRow}
    (happends : Appends runtimeId event.before.db.events (event.before.db.position runtimeId)
      documents rows)
    (hinserted : event.after.db.inserted runtimeId =
      event.before.db.inserted runtimeId ++ rows) (aggregateType aggregateId : String) :
    Contiguous (sequencesOf (event.after.db.inserted runtimeId) runtimeId aggregateType
      aggregateId) := by
  have hcontiguous := happends.contiguous (fun aggregateType aggregateId =>
    sequencesOf_inserted event.before.db.events runtimeId aggregateType aggregateId ▸
      hdurable.sequences aggregateType aggregateId) aggregateType aggregateId
  rw [← sequencesOf_inserted, filter_append_own _ happends.runtimeId_eq] at hcontiguous
  rw [hinserted]
  exact hcontiguous

theorem Durable.step (hdurable : Durable history event.before.db runtimeId)
    (heffect : StreamEffect event runtimeId) :
    Durable (event :: history) event.after.db runtimeId := by
  cases heffect with
  | kept hinserted hcheckpoints hversions hposition hversion hcommits =>
    constructor
    · rw [hinserted, hposition]
      exact hdurable.positions
    · rw [hinserted]
      exact hdurable.sequences
    · rw [hversions, hversion]
      exact hdurable.versions
    · rw [hcheckpoints, hversion, hposition]
      exact hdurable.bounded
    · rw [hcheckpoints]
      exact hdurable.ordered
    · intro found hfound checkpoint result hcommit hruntime
      rcases List.mem_cons.mp hfound with rfl | hfound
      · exact (hcommits checkpoint result hcommit hruntime).elim
      · subst hruntime
        exact (hdurable.anchored found hfound checkpoint result hcommit rfl).grow
          hdurable.length_inserted (hinserted.trans (List.append_nil _).symm)
          (hcheckpoints.trans (List.append_nil _).symm)
          (hversions.trans (List.append_nil _).symm) (le_of_eq hposition.symm)
  | appended documents rows happends hinserted hcheckpoints hversions hposition hversion
      hcommits =>
      constructor
      · exact hdurable.positions_append happends hinserted hposition
      · exact hdurable.sequences_append happends hinserted
      · rw [hversions, hversion]
        exact hdurable.versions
      · intro row hrow
        rw [hcheckpoints] at hrow
        rw [hversion, hposition]
        have hbounded := hdurable.bounded row hrow
        exact ⟨hbounded.1, by omega⟩
      · rw [hcheckpoints]
        exact hdurable.ordered
      · intro found hfound checkpoint result hcommit hruntime
        rcases List.mem_cons.mp hfound with rfl | hfound
        · exact (hcommits checkpoint result hcommit hruntime).elim
        · subst hruntime
          exact (hdurable.anchored found hfound checkpoint result hcommit rfl).grow
            hdurable.length_inserted hinserted (hcheckpoints.trans (List.append_nil _).symm)
            (hversions.trans (List.append_nil _).symm) (by omega)
  | committed checkpoint expectedStateVersion lease operationId env events documents rows
      hruntime hcommitted hinserted hcheckpoints hversions hposition hversion hcommits =>
      subst hruntime
      have happends := hcommitted.appends
      rw [latestEventPosition_instanceOr] at happends
      have hahead := hcommitted.ahead
      rw [latestEventPosition_instanceOr, ← hcommitted.position] at hahead
      have hadvance : event.after.db.position checkpoint.runtimeId =
          event.before.db.position checkpoint.runtimeId + rows.length := by
        have hdrop := congrArg List.length hcommitted.read
        rw [latestEventPosition_instanceOr] at hdrop
        simp only [List.length_map, List.length_drop] at hdrop
        have hrows := happends.length_eq
        have hlength := hcommitted.position
        omega
      constructor
      · exact hdurable.positions_append happends hinserted hadvance
      · exact hdurable.sequences_append happends hinserted
      · rw [hversions, hversion, List.map_append, hdurable.versions, List.range'_concat]
        simp [Nat.add_comm]
      · intro row hrow
        rw [hcheckpoints] at hrow
        rw [hversion, hposition]
        rcases List.mem_append.mp hrow with hrow | hrow
        · have hbounded := hdurable.bounded row hrow
          exact ⟨by omega, by omega⟩
        · obtain rfl := List.mem_singleton.mp hrow
          exact ⟨le_refl _, le_refl _⟩
      · rw [hcheckpoints, List.pairwise_append]
        refine ⟨hdurable.ordered, List.pairwise_singleton _ _, ?_⟩
        intro earlier hearlier later hlater
        obtain rfl := List.mem_singleton.mp hlater
        have hbounded := hdurable.bounded earlier hearlier
        exact ⟨Nat.lt_succ_of_le hbounded.1, hbounded.2.trans hahead⟩
      · intro found hfound other result hcommit hruntime
        rcases List.mem_cons.mp hfound with rfl | hfound
        · obtain ⟨rfl, hresult⟩ := hcommits other result hcommit
          rw [hresult]
          exact hdurable.anchored_new rfl hcommitted hinserted hcheckpoints hversions hposition
        · rw [← hruntime] at hdurable hinserted hcheckpoints hversions hadvance
          exact (hdurable.anchored found hfound other result hcommit rfl).grow
            hdurable.length_inserted hinserted hcheckpoints hversions (by omega)

end Step

theorem Durable.init (runtimeId : String) :
    Durable ([] : List (Event P)) Database.init runtimeId where
  positions := by simp [Database.inserted, Database.position, Database.counter, Database.init]
  sequences := by
    intro aggregateType aggregateId
    exact .nil
  versions := by simp [Database.versionsOf, Database.version, Database.counter, Database.init]
  bounded := by
    intro row hrow
    cases hrow
  ordered := .nil
  anchored := by
    intro event hevent
    cases hevent

theorem Durable.of_run {history : List (Event P)} {world : World} (hrun : Run P history world)
    (runtimeId : String) : Durable history world.db runtimeId := by
  induction hrun with
  | init => exact .init runtimeId
  | @step history world call hrun henabled ih =>
    have hbefore : Durable history (record world call).before.db runtimeId := ih
    exact hbefore.step (streamEffect_record world call runtimeId)

/-! ## Reading a checkpoint back -/

theorem filter_position_eq_take {rows : List EventRow} {start : Nat} (position : Nat)
    (h : rows.map EventRow.globalPosition = List.range' (start + 1) rows.length) :
    rows.filter (fun row => row.globalPosition ≤ start + position) = rows.take position := by
  induction rows generalizing start position with
  | nil => rw [List.filter_nil, List.take_nil]
  | cons row rows ih =>
    rw [List.map_cons, List.length_cons, List.range'_succ] at h
    obtain ⟨hrow, hrest⟩ := List.cons.inj h
    cases position with
    | zero =>
        rw [List.take_zero, List.filter_eq_nil_iff]
        intro other hother hle
        have hmem := List.mem_map_of_mem (f := EventRow.globalPosition) hother
        rw [List.map_cons, hrow, hrest, ← List.range'_succ, List.mem_range'] at hmem
        have := of_decide_eq_true hle
        omega
    | succ position =>
        rw [List.take_succ_cons, List.filter_cons_of_pos (by simp [hrow])]
        congr 1
        rw [← ih position hrest]
        refine List.filter_congr ?_
        intro other _
        rw [show start + (position + 1) = start + 1 + position by omega]

theorem validateStoredCheckpoint_plain {history : List (Event P)} {db : Database}
    {checkpoint : RuntimeCheckpoint P} {stateVersion : Nat}
    (hdurable : Durable history db checkpoint.runtimeId)
    (hanchored : Anchored db checkpoint stateVersion) (hplain : PlainItems checkpoint.payload)
    (now : Timestamp) :
    validateStoredCheckpoint P db
        (checkpointRow checkpoint.toCheckpointFields stateVersion now) =
      .ok checkpoint.toCheckpointFields := by
  obtain ⟨events, hpayload, hlength, hids⟩ := hanchored.events
  have hversion : (db.versions.find? fun version => version.runtimeId = checkpoint.runtimeId ∧
      version.stateVersion = stateVersion).map VersionRow.checkpointId = some checkpoint.id := by
    have hfound := hanchored.version
    rw [Database.versionsOf, List.find?_filter] at hfound
    simpa [Bool.decide_and] using hfound
  have hevents : (db.stream checkpoint.runtimeId).filter (fun event =>
      event.globalPosition ≤ checkpoint.lastEventPosition) =
        (db.inserted checkpoint.runtimeId).take checkpoint.lastEventPosition := by
    have hpositions := hdurable.positions
    rw [← hdurable.length_inserted] at hpositions
    have htake := filter_position_eq_take checkpoint.lastEventPosition
      (hpositions.trans (by rw [Nat.zero_add]))
    rw [hdurable.stream_eq]
    simpa using htake
  simp only [validateStoredCheckpoint, checkpointRow, fromDocument_toDocument checkpoint hplain,
    bind, Except.bind, ne_eq, not_true_eq_false, or_self, if_false, hpayload, hids, hevents]
  rw [if_neg]
  · rfl
  · rintro (hother | hother)
    · exact hother hversion
    · exact hother

/-! ## Soundness -/

theorem Run.grows {history : List (Event P)} {world : World} (hrun : Run P history world)
    (runtimeId : String) {event : Event P} (hevent : event ∈ history) :
    event.before.db.stream runtimeId <+: event.after.db.stream runtimeId := by
  induction hrun with
  | init => cases hevent
  | @step history world call hrun henabled ih =>
    rcases List.mem_cons.mp hevent with rfl | hevent
    · have hbefore : Durable history (record world call).before.db runtimeId :=
        .of_run hrun runtimeId
      have heffect := streamEffect_record world call runtimeId
      rw [hbefore.stream_eq, (hbefore.step heffect).stream_eq]
      cases heffect with
      | kept hinserted => exact hinserted ▸ List.prefix_rfl
      | appended documents rows happends hinserted =>
          rw [hinserted]
          exact List.prefix_append _ _
      | committed checkpoint expectedStateVersion lease operationId env events documents rows
          hruntime hcommitted hinserted =>
          rw [hinserted]
          exact List.prefix_append _ _
    · exact ih hevent

/-- A checkpoint of the literal platform that carries its own digest. -/
def sealedFields (runtimeId : String) (lastEventPosition : Nat)
    (payload : List (String × Value)) : CheckpointFields :=
  let unsealed : CheckpointFields :=
    { id := "auto-000001"
      schemaVersion := checkpointSchemaVersion
      runtimeId
      createdAt := "2024-01-01T00:00:00+00:00"
      reason := "startup"
      lastEventPosition
      stateDigest := ""
      payload }
  { unsealed with stateDigest := checkpointDigest .literal unsealed }

theorem requireString_ok {v fieldName : String} (h : Runtime.isBlank v = false) :
    requireString v fieldName = .ok () := by
  rw [requireString, h]
  rfl

theorem sealedFields_checked {runtimeId : String} {lastEventPosition : Nat}
    {payload : List (String × Value)} (hruntime : Runtime.isBlank runtimeId = false)
    (hpayload : freezableItems payload = true) :
    (sealedFields runtimeId lastEventPosition payload).check .literal = .ok () := by
  have hdigest : checkpointDigest .literal (sealedFields runtimeId lastEventPosition payload) =
      (sealedFields runtimeId lastEventPosition payload).stateDigest :=
    rfl
  have hid : requireString "auto-000001" "RuntimeCheckpoint.id" = .ok () :=
    requireString_ok (by decide +kernel)
  have hreason : requireString "startup" "RuntimeCheckpoint.reason" = .ok () :=
    requireString_ok (by decide +kernel)
  rw [CheckpointFields.check, hdigest]
  simp only [sealedFields, hid, hreason, requireString_ok hruntime, hpayload, Platform.literal,
    ne_eq, not_true_eq_false, if_false, Bool.true_eq_false]
  rfl

/-- A payload without events that holds one more entry. -/
def notePayload (note : Value) : List (String × Value) :=
  [("events", .sequence []), ("note", note)]

/-- The entries are in the order of their keys. -/
theorem notePayload_canonical {note : Value} (hcanonical : note.Canonical) :
    (Value.mapping (notePayload note)).Canonical := by
  have hkeys : "events" < "note" := by decide +kernel
  simp only [notePayload, Value.Canonical, CanonicalItems, CanonicalList]
  exact ⟨List.pairwise_pair.mpr hkeys, trivial, hcanonical, trivial⟩

/-- A checkpoint that holds a text. -/
def plainCheckpoint : RuntimeCheckpoint .literal where
  toCheckpointFields := sealedFields "runtime-1" 0 (notePayload (.text "dark"))
  checked := sealedFields_checked (by decide +kernel) rfl
  canonical := notePayload_canonical trivial

/-- A checkpoint that holds an enumeration member. -/
def enumCheckpoint : RuntimeCheckpoint .literal where
  toCheckpointFields := sealedFields "runtime-1" 0 (notePayload (.enum "Mode" (.string "dark")))
  checked := sealedFields_checked (by decide +kernel) rfl
  canonical := notePayload_canonical trivial

end Persistence
end Ascos
