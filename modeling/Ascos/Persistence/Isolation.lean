import Ascos.Library.Simulation
import Ascos.Persistence.Stream

/-!
# Isolation of runtimes that share a database

A runtime reads and writes its own rows, so a process that works for one runtime should not
be able to tell whether other runtimes share the database.  Two constraints of the schema
reach across runtimes: the identifier of an event is the key of its table, and so is the
identifier of a persistence transaction.  The identifiers of events are made from aggregates
and sequence numbers, without the runtime, and a leased automatic checkpoint names its
transaction after itself.

The proof runs the shared database in lock step with one that only the runtime uses.

Main results:

- Theorem `Call.simulates`: a step of the runtime whose identifiers no other runtime has
  stored has the same outcome in both databases.
- Theorem `Call.view_frame`: a step for another runtime leaves the rows of the runtime
  alone.
- Theorem `runtimes_isolated`: in a run whose identifiers are not shared, a runtime has
  the outcomes and the rows of its own history.
- Theorem `shared_event_id_rejected`: without that condition it does not.
-/

namespace Ascos
namespace Persistence

open Library
open Library.Program (Simulates)
open Outbox (Timestamp timedelta)

/-! ## What belongs to a runtime -/

/-- The persistence transactions of a runtime in the order of their insertion. -/
def Database.transactionsOf (db : Database) (runtimeId : String) : List TransactionRow :=
  db.transactions.filter fun row => row.runtimeId = runtimeId

structure RuntimeView where
  instanceRow : Option InstanceRow
  checkpoints : List CheckpointRow
  events : List EventRow
  versions : List VersionRow
  lease : Option LeaseRow
  transactions : List TransactionRow

/-- What is stored for a runtime. -/
def Database.view (db : Database) (runtimeId : String) : RuntimeView where
  instanceRow := db.instances[runtimeId]?
  checkpoints := db.checkpointsOf runtimeId
  events := db.inserted runtimeId
  versions := db.versionsOf runtimeId
  lease := db.leases[runtimeId]?
  transactions := db.transactionsOf runtimeId

/-- The second database is the first one without the rows of other runtimes, and of the
given identifiers none is stored for another runtime. -/
structure Solo (runtimeId : String) (eventIds operationIds : List String)
    (db solo : Database) : Prop where
  view : db.view runtimeId = solo.view runtimeId
  events : ∀ row ∈ solo.events, row.runtimeId = runtimeId
  transactions : ∀ row ∈ solo.transactions, row.runtimeId = runtimeId
  event_private : ∀ row ∈ db.events, row.runtimeId ≠ runtimeId → row.eventId ∉ eventIds
  operation_private : ∀ row ∈ db.transactions, row.runtimeId ≠ runtimeId →
    row.operationId ∉ operationIds

section Solo

variable {runtimeId : String} {eventIds operationIds : List String} {db solo : Database}

theorem Solo.instanceRow_eq (h : Solo runtimeId eventIds operationIds db solo) :
    db.instances[runtimeId]? = solo.instances[runtimeId]? :=
  congrArg RuntimeView.instanceRow h.view

theorem Solo.checkpoints_eq (h : Solo runtimeId eventIds operationIds db solo) :
    db.checkpointsOf runtimeId = solo.checkpointsOf runtimeId :=
  congrArg RuntimeView.checkpoints h.view

theorem Solo.events_eq (h : Solo runtimeId eventIds operationIds db solo) :
    db.inserted runtimeId = solo.inserted runtimeId :=
  congrArg RuntimeView.events h.view

theorem Solo.versions_eq (h : Solo runtimeId eventIds operationIds db solo) :
    db.versionsOf runtimeId = solo.versionsOf runtimeId :=
  congrArg RuntimeView.versions h.view

theorem Solo.lease_eq (h : Solo runtimeId eventIds operationIds db solo) :
    db.leases[runtimeId]? = solo.leases[runtimeId]? :=
  congrArg RuntimeView.lease h.view

theorem Solo.transactions_eq (h : Solo runtimeId eventIds operationIds db solo) :
    db.transactionsOf runtimeId = solo.transactionsOf runtimeId :=
  congrArg RuntimeView.transactions h.view

theorem Solo.stream_eq (h : Solo runtimeId eventIds operationIds db solo) :
    db.stream runtimeId = solo.stream runtimeId := by
  have hevents : db.events.filter (fun row => row.runtimeId = runtimeId) =
      solo.events.filter fun row => row.runtimeId = runtimeId := h.events_eq
  rw [Database.stream, hevents, Database.stream]

theorem Solo.latestSequence_eq (h : Solo runtimeId eventIds operationIds db solo)
    (aggregateType aggregateId : String) :
    latestSequence db.events runtimeId aggregateType aggregateId =
      latestSequence solo.events runtimeId aggregateType aggregateId := by
  have hevents : db.events.filter (fun row => row.runtimeId = runtimeId) =
      solo.events.filter fun row => row.runtimeId = runtimeId := h.events_eq
  rw [latestSequence, latestSequence, ← sequencesOf_inserted, hevents, sequencesOf_inserted]

theorem Solo.instanceOr_eq (h : Solo runtimeId eventIds operationIds db solo)
    (now : Timestamp) : db.instanceOr now runtimeId = solo.instanceOr now runtimeId := by
  rw [Database.instanceOr, h.instanceRow_eq, Database.instanceOr]

/-- Writing the same row of the runtime in both databases. -/
theorem Solo.insert_instance (h : Solo runtimeId eventIds operationIds db solo)
    (row : InstanceRow) :
    Solo runtimeId eventIds operationIds
      { db with instances := db.instances.insert runtimeId row }
      { solo with instances := solo.instances.insert runtimeId row } where
  view := by
    simp only [Database.view, RuntimeView.mk.injEq, Std.ExtTreeMap.getElem?_insert_self]
    exact ⟨trivial, h.checkpoints_eq, h.events_eq, h.versions_eq, h.lease_eq,
      h.transactions_eq⟩
  events := h.events
  transactions := h.transactions
  event_private := h.event_private
  operation_private := h.operation_private

theorem Solo.set_lease (h : Solo runtimeId eventIds operationIds db solo)
    {leases soloLeases : Outbox.Records LeaseRow}
    (hleases : leases[runtimeId]? = soloLeases[runtimeId]?) :
    Solo runtimeId eventIds operationIds { db with leases } { solo with leases := soloLeases }
    where
  view := by
    simp only [Database.view, RuntimeView.mk.injEq]
    exact ⟨h.instanceRow_eq, h.checkpoints_eq, h.events_eq, h.versions_eq, hleases,
      h.transactions_eq⟩
  events := h.events
  transactions := h.transactions
  event_private := h.event_private
  operation_private := h.operation_private

theorem Solo.ensured (h : Solo runtimeId eventIds operationIds db solo) (now : Timestamp) :
    Solo runtimeId eventIds operationIds (db.ensured now runtimeId)
      (solo.ensured now runtimeId) := by
  have hmem : runtimeId ∈ db.instances ↔ runtimeId ∈ solo.instances := by
    rw [← Std.ExtTreeMap.isSome_getElem?_iff_mem, ← Std.ExtTreeMap.isSome_getElem?_iff_mem,
      h.instanceRow_eq]
  unfold Database.ensured
  rw [h.instanceOr_eq]
  by_cases hfound : runtimeId ∈ solo.instances
  · rw [if_pos hfound, if_pos (hmem.mpr hfound)]
    exact h
  · rw [if_neg hfound, if_neg (mt hmem.mp hfound)]
    exact h.insert_instance _

/-- A table of a runtime holds its own rows of the table. -/
theorem mem_of_filter_eq {ρ : Type} {owner : ρ → String} {table other : List ρ}
    (h : table.filter (fun row => owner row = runtimeId) =
      other.filter fun row => owner row = runtimeId) {row : ρ} (hrow : row ∈ table)
    (howner : owner row = runtimeId) : row ∈ other := by
  have hmem : row ∈ table.filter fun row => owner row = runtimeId :=
    List.mem_filter.mpr ⟨hrow, decide_eq_true howner⟩
  rw [h] at hmem
  exact (List.mem_filter.mp hmem).1

theorem exists_own_iff {ρ : Type} {owner : ρ → String} {table other : List ρ}
    (h : table.filter (fun row => owner row = runtimeId) =
      other.filter fun row => owner row = runtimeId) {p : ρ → Prop}
    (hown : ∀ row, p row → owner row = runtimeId) :
    (∃ row ∈ table, p row) ↔ ∃ row ∈ other, p row := by
  constructor
  · rintro ⟨row, hrow, hp⟩
    exact ⟨row, mem_of_filter_eq h hrow (hown row hp), hp⟩
  · rintro ⟨row, hrow, hp⟩
    exact ⟨row, mem_of_filter_eq h.symm hrow (hown row hp), hp⟩

theorem Solo.clash_iff (h : Solo runtimeId eventIds operationIds db solo) {row : EventRow}
    (hruntime : row.runtimeId = runtimeId) (hid : row.eventId ∈ eventIds) :
    (∃ other ∈ db.events, row.Clash other) ↔ ∃ other ∈ solo.events, row.Clash other := by
  constructor
  · rintro ⟨other, hother, hclash⟩
    by_cases howner : other.runtimeId = runtimeId
    · exact ⟨other, mem_of_filter_eq h.events_eq hother howner, hclash⟩
    · -- only the key of the table reaches across runtimes
      rcases hclash with hkey | ⟨hsame, -⟩
      · exact (h.event_private other hother howner (hkey ▸ hid)).elim
      · exact (howner (hsame.symm.trans hruntime)).elim
  · rintro ⟨other, hother, hclash⟩
    exact ⟨other, mem_of_filter_eq h.events_eq.symm hother (h.events other hother), hclash⟩

end Solo

/-! ## Statements in lock step -/

section Statements

variable {P : Platform} {runtimeId : String} {eventIds operationIds : List String}

theorem simulates_orRaise {α : Type} (result : Except Failure α) :
    Simulates (Solo runtimeId eventIds operationIds) Eq (orRaise result) (orRaise result) := by
  cases result with
  | ok a => exact .pure rfl
  | error failure => exact .throw failure

theorem simulates_raiseIf {condition other : Prop} [Decidable condition] [Decidable other]
    (hiff : condition ↔ other) (failure : Failure) :
    Simulates (Solo runtimeId eventIds operationIds) Eq (raiseIf condition failure)
      (raiseIf other failure) := by
  unfold raiseIf
  by_cases hother : other
  · rw [if_pos hother, if_pos (hiff.mpr hother)]
    exact .throw failure
  · rw [if_neg hother, if_neg (mt hiff.mp hother)]
    exact .pure rfl

theorem simulates_transaction {α : Type} (env : Environment) (translate : Failure → Failure)
    {body soloBody : Program Database Failure α}
    (hbody : Simulates (Solo runtimeId eventIds operationIds) Eq body soloBody) :
    Simulates (Solo runtimeId eventIds operationIds) Eq (transaction env translate body)
      (transaction env translate soloBody) := by
  refine Simulates.get.bind ?_
  intro before soloBefore hbefore
  refine Simulates.tryCatch ?_ ?_
  · refine (simulates_orRaise _).bind_eq fun _ => hbody.bind_eq fun a => ?_
    exact (simulates_orRaise _).bind_eq fun _ => .pure rfl
  · intro failure
    exact (Simulates.set hbefore).bind_eq fun _ => .throw _

theorem simulates_ensureRuntime (now : Timestamp) :
    Simulates (Solo runtimeId eventIds operationIds) Eq (ensureRuntime now runtimeId)
      (ensureRuntime now runtimeId) := by
  intro db solo h
  rw [exec_ensureRuntime, exec_ensureRuntime]
  exact ⟨rfl, h.ensured now⟩

theorem simulates_instanceRow :
    Simulates (Solo runtimeId eventIds operationIds) Eq (instanceRow runtimeId)
      (instanceRow runtimeId) := by
  intro db solo h
  rw [exec_instanceRow, exec_instanceRow, h.instanceRow_eq]
  cases solo.instances[runtimeId]? with
  | none => exact ⟨rfl, h⟩
  | some row => exact ⟨rfl, h⟩

theorem simulates_requireLease (lease : Option RuntimeLease) (now : Timestamp)
    (latestFencing : Nat) :
    Simulates (Solo runtimeId eventIds operationIds) Eq
      (requireLease P lease runtimeId now latestFencing)
      (requireLease P lease runtimeId now latestFencing) := by
  cases lease with
  | none => exact .pure rfl
  | some lease =>
    unfold requireLease
    by_cases hruntime : lease.runtimeId = runtimeId
    · subst hruntime
      refine (simulates_raiseIf Iff.rfl _).bind_eq fun _ => ?_
      refine Simulates.get.bind ?_
      intro db solo h
      rw [h.lease_eq]
      cases solo.leases[lease.runtimeId]? with
      | none => exact .throw _
      | some row =>
          dsimp only
          split_ifs
          · exact .throw _
          · exact .throw _
          · exact .throw _
          · exact .pure rfl
    · -- a lease of another runtime is refused before anything is read
      intro db solo h
      simp only [Program.exec_bind, raiseIf, if_pos hruntime, ne_eq, Program.exec_throw]
      exact ⟨rfl, h⟩

theorem simulates_insertEvent {row : EventRow} (hruntime : row.runtimeId = runtimeId)
    (hid : row.eventId ∈ eventIds) :
    Simulates (Solo runtimeId eventIds operationIds) Eq (insertEvent row) (insertEvent row) := by
  refine Simulates.get.bind ?_
  intro db solo h
  by_cases hclash : (∃ other ∈ solo.events, row.Clash other) ∨ row.globalPosition < 1 ∨
      row.aggregateSequence < 1
  · rw [if_pos hclash, if_pos (by rw [h.clash_iff hruntime hid]; exact hclash)]
    exact .throw _
  · rw [if_neg hclash, if_neg (by rw [h.clash_iff hruntime hid]; exact hclash)]
    have hrows : ∀ other ∈ [row], other.runtimeId = runtimeId := by simp [hruntime]
    refine .set ⟨?_, ?_, h.transactions, ?_, h.operation_private⟩
    · have hevents := h.events_eq
      simp only [Database.view, RuntimeView.mk.injEq]
      refine ⟨h.instanceRow_eq, h.checkpoints_eq, ?_, h.versions_eq, h.lease_eq,
        h.transactions_eq⟩
      simp only [Database.inserted] at hevents ⊢
      rw [filter_append_own _ hrows, filter_append_own _ hrows, hevents]
    · intro other hother
      rcases List.mem_append.mp hother with hother | hother
      · exact h.events other hother
      · exact hrows other hother
    · intro other hother howner
      rcases List.mem_append.mp hother with hother | hother
      · exact h.event_private other hother howner
      · exact (howner (hrows other hother)).elim

theorem simulates_insertEvents (mismatch : Failure) (position : Nat) (sequences : Sequences)
    {events : List (Except Failure EventDocument)}
    (hids : ∀ document, .ok document ∈ events → document.id ∈ eventIds) :
    Simulates (Solo runtimeId eventIds operationIds) Eq
      (insertEvents runtimeId mismatch position sequences events)
      (insertEvents runtimeId mismatch position sequences events) := by
  induction events generalizing position sequences with
  | nil => exact .pure rfl
  | cons event events ih =>
    cases event with
    | error failure => exact .throw failure
    | ok document =>
        refine Simulates.bind (R := fun a b => a = document ∧ b = document)
          (.pure ⟨rfl, rfl⟩) ?_
        rintro _ _ ⟨rfl, rfl⟩
        refine Simulates.get.bind ?_
        intro db solo h
        dsimp only
        rw [h.latestSequence_eq]
        refine (simulates_raiseIf Iff.rfl _).bind_eq fun _ => ?_
        refine Simulates.bind_eq ?_ fun _ => ih _ _ fun document hdocument =>
          hids document (List.mem_cons_of_mem _ hdocument)
        exact simulates_insertEvent rfl (hids _ List.mem_cons_self)

theorem simulates_insertCheckpoint {row : CheckpointRow} (hruntime : row.runtimeId = runtimeId) :
    Simulates (Solo runtimeId eventIds operationIds) Eq (insertCheckpoint row)
      (insertCheckpoint row) := by
  refine Simulates.get.bind ?_
  intro db solo h
  have hclash := exists_own_iff h.checkpoints_eq
    (p := fun other => row.runtimeId = other.runtimeId ∧ row.checkpointId = other.checkpointId)
    fun other hkey => hkey.1.symm.trans hruntime
  by_cases hrefused : (∃ other ∈ solo.checkpoints, row.runtimeId = other.runtimeId ∧
      row.checkpointId = other.checkpointId) ∨ row.stateVersion < 1
  · rw [if_pos hrefused, if_pos (by rw [hclash]; exact hrefused)]
    exact .throw _
  · rw [if_neg hrefused, if_neg (by rw [hclash]; exact hrefused)]
    refine .set ⟨?_, h.events, h.transactions, h.event_private, h.operation_private⟩
    have hcheckpoints := h.checkpoints_eq
    simp only [Database.view, RuntimeView.mk.injEq]
    refine ⟨h.instanceRow_eq, ?_, h.events_eq, h.versions_eq, h.lease_eq, h.transactions_eq⟩
    simp only [Database.checkpointsOf] at hcheckpoints ⊢
    rw [List.filter_append, List.filter_append, hcheckpoints]

theorem simulates_insertVersion {row : VersionRow} (hruntime : row.runtimeId = runtimeId) :
    Simulates (Solo runtimeId eventIds operationIds) Eq (insertVersion row)
      (insertVersion row) := by
  refine Simulates.get.bind ?_
  intro db solo h
  have hclash := exists_own_iff h.versions_eq
    (p := fun other => row.runtimeId = other.runtimeId ∧ row.stateVersion = other.stateVersion)
    fun other hkey => hkey.1.symm.trans hruntime
  by_cases hrefused : (∃ other ∈ solo.versions, row.runtimeId = other.runtimeId ∧
      row.stateVersion = other.stateVersion) ∨ row.stateVersion < 1
  · rw [if_pos hrefused, if_pos (by rw [hclash]; exact hrefused)]
    exact .throw _
  · rw [if_neg hrefused, if_neg (by rw [hclash]; exact hrefused)]
    refine .set ⟨?_, h.events, h.transactions, h.event_private, h.operation_private⟩
    have hversions := h.versions_eq
    simp only [Database.view, RuntimeView.mk.injEq]
    refine ⟨h.instanceRow_eq, h.checkpoints_eq, h.events_eq, ?_, h.lease_eq, h.transactions_eq⟩
    simp only [Database.versionsOf] at hversions ⊢
    rw [List.filter_append, List.filter_append, hversions]

theorem simulates_insertTransaction {row : TransactionRow}
    (hruntime : row.runtimeId = runtimeId) (hid : row.operationId ∈ operationIds) :
    Simulates (Solo runtimeId eventIds operationIds) Eq (insertTransaction row)
      (insertTransaction row) := by
  refine Simulates.get.bind ?_
  intro db solo h
  have hclash : (∃ other ∈ db.transactions, row.operationId = other.operationId) ↔
      ∃ other ∈ solo.transactions, row.operationId = other.operationId := by
    constructor
    · rintro ⟨other, hother, hkey⟩
      by_cases howner : other.runtimeId = runtimeId
      · exact ⟨other, mem_of_filter_eq h.transactions_eq hother howner, hkey⟩
      · exact (h.operation_private other hother howner (hkey ▸ hid)).elim
    · rintro ⟨other, hother, hkey⟩
      exact ⟨other,
        mem_of_filter_eq h.transactions_eq.symm hother (h.transactions other hother), hkey⟩
  by_cases hrefused : ∃ other ∈ solo.transactions, row.operationId = other.operationId
  · rw [if_pos hrefused, if_pos (by rw [hclash]; exact hrefused)]
    exact .throw _
  · rw [if_neg hrefused, if_neg (by rw [hclash]; exact hrefused)]
    refine .set ⟨?_, h.events, ?_, h.event_private, ?_⟩
    · have htransactions := h.transactions_eq
      simp only [Database.view, RuntimeView.mk.injEq]
      refine ⟨h.instanceRow_eq, h.checkpoints_eq, h.events_eq, h.versions_eq, h.lease_eq, ?_⟩
      simp only [Database.transactionsOf] at htransactions ⊢
      rw [List.filter_append, List.filter_append, htransactions]
    · intro other hother
      rcases List.mem_append.mp hother with hother | hother
      · exact h.transactions other hother
      · obtain rfl := List.mem_singleton.mp hother
        exact hruntime
    · intro other hother howner
      rcases List.mem_append.mp hother with hother | hother
      · exact h.operation_private other hother howner
      · obtain rfl := List.mem_singleton.mp hother
        exact (howner hruntime).elim

end Statements

/-! ## Steps in lock step -/

section Calls

variable {P : Platform}

/-- The identifiers of events that a step may store. -/
def Call.eventIds : Call P → List String
  | .commit checkpoint _ _ _ _ =>
    match payloadEvents checkpoint.payload with
    | .ok events => events.filterMap fun event => (eventId event).toOption
    | .error _ => []
  | .append _ events _ => events.map EventDocument.id
  | _ => []

/-- The identifiers of persistence transactions that a step may store. -/
def Call.operationIds : Call P → List String
  | .commit _ _ _ operationId _ => [operationId]
  | _ => []

/-- No identifier that the step may store is stored for another runtime. -/
def Call.Private (call : Call P) (db : Database) : Prop :=
  (∀ row ∈ db.events, row.runtimeId ≠ call.runtimeId → row.eventId ∉ call.eventIds) ∧
    ∀ row ∈ db.transactions, row.runtimeId ≠ call.runtimeId →
      row.operationId ∉ call.operationIds

theorem simulates_commitCheckpoint (checkpoint : RuntimeCheckpoint P)
    (expectedStateVersion : Int) (lease : Option RuntimeLease) (operationId : String)
    (env : Environment) :
    Simulates
      (Solo checkpoint.runtimeId
        (Call.commit checkpoint expectedStateVersion lease operationId env).eventIds
          [operationId]) Eq
      (commitCheckpoint P checkpoint expectedStateVersion lease operationId env)
      (commitCheckpoint P checkpoint expectedStateVersion lease operationId env) := by
  refine simulates_transaction env _ ?_
  refine (simulates_ensureRuntime _).bind_eq fun _ => ?_
  refine simulates_instanceRow.bind_eq fun row => ?_
  refine (simulates_raiseIf Iff.rfl _).bind_eq fun _ => ?_
  refine (simulates_requireLease lease env.now row.latestFencingToken).bind_eq fun _ => ?_
  cases hpayload : payloadEvents checkpoint.payload with
  | error failure => exact .throw failure
  | ok events =>
    refine Simulates.bind (R := fun a b => a = events ∧ b = events) (.pure ⟨rfl, rfl⟩) ?_
    rintro _ _ ⟨rfl, rfl⟩
    refine (simulates_raiseIf Iff.rfl _).bind_eq fun _ => ?_
    refine (simulates_raiseIf Iff.rfl _).bind_eq fun _ => ?_
    refine Simulates.get.bind ?_
    intro db solo h
    rw [h.stream_eq]
    refine (simulates_orRaise _).bind_eq fun ids => ?_
    refine (simulates_raiseIf Iff.rfl _).bind_eq fun _ => ?_
    refine (simulates_insertEvents _ _ _ ?_).bind_eq fun _ => ?_
    · intro document hdocument
      obtain ⟨event, hevent, hread⟩ := List.mem_map.mp hdocument
      simp only [Call.eventIds, hpayload]
      refine List.mem_filterMap.mpr ⟨event, List.mem_of_mem_drop hevent, ?_⟩
      rw [eventId_of_read hread]
      rfl
    dsimp only
    refine Simulates.bind_eq (simulates_insertCheckpoint (by rfl)) fun _ => ?_
    refine Simulates.bind_eq (simulates_insertVersion (by rfl)) fun _ => ?_
    refine (Simulates.modify fun db solo h => h.insert_instance _).bind_eq fun _ => ?_
    exact Simulates.bind_eq (simulates_insertTransaction (by rfl) List.mem_cons_self)
      fun _ => .pure rfl

theorem simulates_appendEventBatch (runtimeId : String) (events : List EventDocument)
    (env : Environment) (operationIds : List String) :
    Simulates (Solo runtimeId (events.map EventDocument.id) operationIds) Eq
      (appendEventBatch runtimeId events env) (appendEventBatch runtimeId events env) := by
  refine simulates_transaction env _ ?_
  refine (simulates_ensureRuntime _).bind_eq fun _ => ?_
  refine simulates_instanceRow.bind_eq fun row => ?_
  refine (simulates_insertEvents _ _ _ ?_).bind_eq fun _ => ?_
  · intro document hdocument
    obtain ⟨event, hevent, hok⟩ := List.mem_map.mp hdocument
    obtain rfl := Except.ok.inj hok
    exact List.mem_map_of_mem hevent
  · exact (Simulates.modify fun db solo h => h.insert_instance _).bind_eq fun _ => .pure rfl

section Leases

variable {eventIds operationIds : List String}

theorem simulates_acquireLease (runtimeId ownerId token : String) (ttlSeconds : Int)
    (env : Environment) :
    Simulates (Solo runtimeId eventIds operationIds) Eq
      (acquireLease P runtimeId ownerId token ttlSeconds env)
      (acquireLease P runtimeId ownerId token ttlSeconds env) := by
  refine simulates_transaction env _ ?_
  refine (simulates_ensureRuntime _).bind_eq fun _ => ?_
  refine Simulates.get.bind ?_
  intro db solo h
  dsimp only
  rw [h.lease_eq]
  refine (simulates_raiseIf Iff.rfl _).bind_eq fun _ => ?_
  refine simulates_instanceRow.bind_eq fun row => ?_
  refine (Simulates.modify fun db solo h => ?_).bind_eq fun _ => .pure rfl
  refine (h.insert_instance _).set_lease ?_
  rw [Std.ExtTreeMap.getElem?_insert_self, Std.ExtTreeMap.getElem?_insert_self]

theorem simulates_checkRenewal (lease : RuntimeLease) (now : Timestamp) :
    Simulates (Solo lease.runtimeId eventIds operationIds) Eq (checkRenewal P lease now)
      (checkRenewal P lease now) := by
  refine Simulates.get.bind ?_
  intro db solo h
  rw [h.lease_eq]
  cases solo.leases[lease.runtimeId]? with
  | none => exact .throw _
  | some row =>
    dsimp only
    split_ifs
    · exact .throw _
    · exact .throw _
    · exact .pure rfl

theorem simulates_updateLease (runtimeId : String) (now expires : Timestamp) :
    Simulates (Solo runtimeId eventIds operationIds) Eq (updateLease runtimeId now expires)
      (updateLease runtimeId now expires) := by
  refine .modify fun db solo h => h.set_lease ?_
  rw [Std.ExtTreeMap.getElem?_modify, Std.ExtTreeMap.getElem?_modify, h.lease_eq]

theorem Solo.erase_lease {runtimeId : String} {db solo : Database}
    (h : Solo runtimeId eventIds operationIds db solo) :
    Solo runtimeId eventIds operationIds { db with leases := db.leases.erase runtimeId }
      { solo with leases := solo.leases.erase runtimeId } := by
  refine h.set_lease ?_
  rw [Std.ExtTreeMap.getElem?_erase_self, Std.ExtTreeMap.getElem?_erase_self]

theorem simulates_releaseLease (lease : RuntimeLease) :
    Simulates (Solo lease.runtimeId eventIds operationIds) Eq (releaseLease P lease)
      (releaseLease P lease) := by
  refine Simulates.get.bind ?_
  intro db solo h
  rw [h.lease_eq]
  cases solo.leases[lease.runtimeId]? with
  | none => exact .throw _
  | some row =>
    dsimp only
    split_ifs
    · exact .set h.erase_lease
    · exact .throw _

theorem simulates_breakExpiredLease (runtimeId : String) (now : Timestamp) :
    Simulates (Solo runtimeId eventIds operationIds) Eq (breakExpiredLease runtimeId now)
      (breakExpiredLease runtimeId now) := by
  refine Simulates.get.bind ?_
  intro db solo h
  rw [h.lease_eq]
  cases solo.leases[runtimeId]? with
  | none => exact .pure rfl
  | some row =>
    dsimp only
    split_ifs
    · exact (Simulates.set h.erase_lease).bind_eq fun _ => .pure rfl
    · exact .pure rfl

theorem simulates_getStateVersion (now : Timestamp) (runtimeId : String) :
    Simulates (Solo runtimeId eventIds operationIds) Eq (getStateVersion now runtimeId)
      (getStateVersion now runtimeId) :=
  (simulates_ensureRuntime now).bind_eq fun _ => simulates_instanceRow.bind_eq fun _ => .pure rfl

end Leases

/-- A step of a runtime with private identifiers runs in lock step with the same step where
only the runtime is. -/
theorem Call.simulates (call : Call P) :
    Simulates (Solo call.runtimeId call.eventIds call.operationIds) Eq call.program
      call.program := by
  cases call with
  | commit checkpoint expectedStateVersion lease operationId env =>
      exact (simulates_commitCheckpoint checkpoint _ _ _ _).map_eq _
  | append runtimeId events env => exact (simulates_appendEventBatch runtimeId _ _ _).map_eq _
  | acquire runtimeId ownerId token ttlSeconds env =>
      exact (simulates_acquireLease runtimeId _ _ _ _).map_eq _
  | check renewal => exact (simulates_checkRenewal renewal.lease _).map_eq _
  | update renewal => exact (simulates_updateLease renewal.lease.runtimeId _ _).map_eq _
  | release lease => exact (simulates_releaseLease lease).map_eq _
  | breakExpired runtimeId now => exact (simulates_breakExpiredLease runtimeId now).map_eq _
  | stateVersion runtimeId now => exact (simulates_getStateVersion now runtimeId).map_eq _

/-! ## Steps of other runtimes -/

section Frame

variable {runtimeId : String} {db : Database}

/-- A new row of another runtime, and its new rows in the tables, are not seen. -/
theorem Database.view_of_other {db' : Database} {id : String} {now : Timestamp}
    {row : InstanceRow} (hid : id ≠ runtimeId)
    (hinstances : db'.instances = (db.ensured now id).instances.insert id row)
    (hcheckpoints : db'.checkpointsOf runtimeId = db.checkpointsOf runtimeId)
    (hevents : db'.inserted runtimeId = db.inserted runtimeId)
    (hversions : db'.versionsOf runtimeId = db.versionsOf runtimeId)
    (hlease : db'.leases[runtimeId]? = db.leases[runtimeId]?)
    (htransactions : db'.transactionsOf runtimeId = db.transactionsOf runtimeId) :
    db'.view runtimeId = db.view runtimeId := by
  simp only [Database.view, RuntimeView.mk.injEq]
  refine ⟨?_, hcheckpoints, hevents, hversions, hlease, htransactions⟩
  rw [hinstances, Std.ExtTreeMap.getElem?_insert, Database.instances_ensured]
  simp [hid, Ne.symm hid]

theorem Database.view_of_lease {leases : Outbox.Records LeaseRow}
    (hlease : leases[runtimeId]? = db.leases[runtimeId]?) :
    ({ db with leases } : Database).view runtimeId = db.view runtimeId := by
  simp only [Database.view, RuntimeView.mk.injEq]
  exact ⟨trivial, rfl, rfl, rfl, hlease, rfl⟩

/-- A step for another runtime leaves the rows of a runtime alone. -/
theorem Call.view_frame {call : Call P} (hother : call.runtimeId ≠ runtimeId) :
    (Program.exec call.program db).2.view runtimeId = db.view runtimeId := by
  rcases hexec : Program.exec call.program db with ⟨failure | reply, db'⟩
  · rw [call.program_unchanged db failure db' hexec]
  cases call with
  | commit checkpoint expectedStateVersion lease operationId env =>
    obtain ⟨result, hcommit, rfl⟩ := Program.exec_map_ok hexec
    obtain ⟨events, documents, rows, hcommitted, -, rfl⟩ := commitCheckpoint_returned hcommit
    refine Database.view_of_other hother rfl (filter_append_other _ ?_ hother)
      (filter_append_other _ hcommitted.appends.runtimeId_eq hother)
      (filter_append_other _ ?_ hother) rfl (filter_append_other _ ?_ hother)
    · simp [checkpointRow, Call.runtimeId]
    · simp [Call.runtimeId]
    · simp [Call.runtimeId]
  | append id events env =>
    obtain ⟨positions, happend, rfl⟩ := Program.exec_map_ok hexec
    obtain ⟨rows, happends, -, rfl⟩ := appendEventBatch_returned happend
    exact Database.view_of_other hother rfl rfl
      (filter_append_other _ happends.runtimeId_eq hother) rfl rfl rfl
  | acquire id ownerId token ttlSeconds env =>
    obtain ⟨lease, hacquire, rfl⟩ := Program.exec_map_ok hexec
    obtain ⟨hfree, rfl, rfl⟩ := acquireLease_returned hacquire
    refine Database.view_of_other hother rfl rfl rfl rfl ?_ rfl
    refine Std.ExtTreeMap.getElem?_insert.trans (if_neg ?_)
    simpa [Call.runtimeId, issuedLease] using hother
  | check renewal =>
    obtain ⟨_, hcheck, rfl⟩ := Program.exec_map_ok hexec
    rw [(exec_checkRenewal_ok hcheck).2]
  | update renewal =>
    cases hexec
    refine Database.view_of_lease (Std.ExtTreeMap.getElem?_modify.trans (if_neg ?_))
    simpa [Call.runtimeId] using hother
  | release lease =>
    obtain ⟨_, hrelease, rfl⟩ := Program.exec_map_ok hexec
    rw [(exec_releaseLease_ok hrelease).2]
    refine Database.view_of_lease (Std.ExtTreeMap.getElem?_erase.trans (if_neg ?_))
    simpa [Call.runtimeId] using hother
  | breakExpired id now =>
    obtain ⟨broken, hbreak, rfl⟩ := Program.exec_map_ok hexec
    rcases exec_breakExpiredLease_ok hbreak with ⟨-, -, rfl⟩ | ⟨-, rfl⟩
    · refine Database.view_of_lease (Std.ExtTreeMap.getElem?_erase.trans (if_neg ?_))
      simpa [Call.runtimeId] using hother
    · rfl
  | stateVersion id now =>
    obtain ⟨version, hversion, rfl⟩ := Program.exec_map_ok hexec
    rw [exec_getStateVersion] at hversion
    cases hversion
    simp only [Database.view, RuntimeView.mk.injEq, Database.instances_ensured,
      Database.leases_ensured]
    refine ⟨if_neg (Ne.symm hother), ?_, ?_, ?_, trivial, ?_⟩
    · rw [Database.checkpointsOf, Database.checkpoints_ensured, Database.checkpointsOf]
    · rw [Database.inserted, Database.events_ensured, Database.inserted]
    · rw [Database.versionsOf, Database.versions_ensured, Database.versionsOf]
    · rw [Database.transactionsOf, Database.transactions_ensured, Database.transactionsOf]

end Frame

/-! ## Runs -/

/-- The second world is the first one without other runtimes. -/
structure Alone (runtimeId : String) (world solo : World) : Prop where
  view : world.db.view runtimeId = solo.db.view runtimeId
  events : ∀ row ∈ solo.db.events, row.runtimeId = runtimeId
  transactions : ∀ row ∈ solo.db.transactions, row.runtimeId = runtimeId
  renewals : world.renewals.filter (fun renewal => renewal.lease.runtimeId = runtimeId) =
    solo.renewals

section Run

variable {runtimeId : String} {world solo : World} {call : Call P}

theorem Alone.toSolo (h : Alone runtimeId world solo) (hprivate : call.Private world.db)
    (hown : call.runtimeId = runtimeId) :
    Solo call.runtimeId call.eventIds call.operationIds world.db solo.db := by
  subst hown
  exact ⟨h.view, h.events, h.transactions, hprivate.1, hprivate.2⟩

theorem Call.renewalsAfter_own (hown : call.runtimeId = runtimeId)
    (outcome : Except Failure Reply) (renewals : List Renewal) :
    (call.renewalsAfter outcome renewals).filter
        (fun renewal => renewal.lease.runtimeId = runtimeId) =
      call.renewalsAfter outcome
        (renewals.filter fun renewal => renewal.lease.runtimeId = runtimeId) := by
  cases call with
  | check renewal =>
    cases outcome with
    | error failure => rfl
    | ok reply => exact List.filter_cons_of_pos (by simpa [Call.runtimeId] using hown)
  | update renewal => exact List.erase_filter.symm
  | commit | append | acquire | release | breakExpired | stateVersion => rfl

theorem Call.renewalsAfter_other (hother : call.runtimeId ≠ runtimeId)
    (outcome : Except Failure Reply) (renewals : List Renewal) :
    (call.renewalsAfter outcome renewals).filter
        (fun renewal => renewal.lease.runtimeId = runtimeId) =
      renewals.filter fun renewal => renewal.lease.runtimeId = runtimeId := by
  cases call with
  | check renewal =>
    cases outcome with
    | error failure => rfl
    | ok reply => exact List.filter_cons_of_neg (by simpa [Call.runtimeId] using hother)
  | update renewal =>
    refine List.erase_filter.symm.trans (List.erase_of_not_mem ?_)
    intro hmem
    exact hother (of_decide_eq_true (List.mem_filter.mp hmem).2)
  | commit | append | acquire | release | breakExpired | stateVersion => rfl

theorem Alone.step_own (h : Alone runtimeId world solo) (hprivate : call.Private world.db)
    (hown : call.runtimeId = runtimeId) :
    (call.exec world).1 = (call.exec solo).1 ∧
      Alone runtimeId (call.exec world).2 (call.exec solo).2 := by
  have hsolo := h.toSolo hprivate hown
  have houtcome : (call.exec world).1 = (call.exec solo).1 := call.simulates.outcome_eq hsolo
  have hafter := (call.simulates _ _ hsolo).2
  refine ⟨houtcome, ?_, ?_, ?_, ?_⟩
  · exact hown ▸ hafter.view
  · exact hown ▸ hafter.events
  · exact hown ▸ hafter.transactions
  · refine (call.renewalsAfter_own hown _ _).trans ?_
    rw [h.renewals]
    exact congrArg (call.renewalsAfter · solo.renewals) houtcome

theorem Alone.step_other (h : Alone runtimeId world solo) (hother : call.runtimeId ≠ runtimeId) :
    Alone runtimeId (call.exec world).2 solo where
  view := (call.view_frame hother).trans h.view
  events := h.events
  transactions := h.transactions
  renewals := (call.renewalsAfter_other hother _ _).trans h.renewals

theorem Alone.enabled (h : Alone runtimeId world solo) (hown : call.runtimeId = runtimeId)
    (henabled : call.Enabled world) : call.Enabled solo := by
  cases call with
  | update renewal =>
    have hmem : renewal ∈ world.renewals.filter fun renewal =>
        renewal.lease.runtimeId = runtimeId :=
      List.mem_filter.mpr ⟨henabled, decide_eq_true hown⟩
    rw [h.renewals] at hmem
    exact hmem
  | commit | append | acquire | check | release | breakExpired | stateVersion => trivial

/-- The outcomes of a runtime's own steps, newest first. -/
def ownOutcomes (runtimeId : String) (history : List (Event P)) :
    List (Except Failure Reply) :=
  (history.filter fun event => event.call.runtimeId = runtimeId).map Event.outcome

/-- A runtime goes through a list of steps as through its own. -/
theorem Alone.play (h : Alone runtimeId world solo) {calls : List (Call P)}
    (hplayable : Playable world calls)
    (hprivate : ∀ event ∈ (Persistence.play world calls).1, event.call.Private event.before.db) :
    Playable solo (calls.filter fun call => call.runtimeId = runtimeId) ∧
      ownOutcomes runtimeId (Persistence.play world calls).1 =
        (Persistence.play solo
          (calls.filter fun call => call.runtimeId = runtimeId)).1.map Event.outcome ∧
      Alone runtimeId (Persistence.play world calls).2
        (Persistence.play solo (calls.filter fun call => call.runtimeId = runtimeId)).2 := by
  induction calls generalizing world solo with
  | nil => exact ⟨trivial, rfl, h⟩
  | cons call calls ih =>
    have hcall : call.Private world.db :=
      hprivate (record world call) (List.mem_append_right _ List.mem_cons_self)
    have hlater : ∀ event ∈ (Persistence.play (call.exec world).2 calls).1,
        event.call.Private event.before.db :=
      fun event hevent => hprivate event (List.mem_append_left _ hevent)
    by_cases hown : call.runtimeId = runtimeId
    · obtain ⟨houtcome, hstep⟩ := h.step_own hcall hown
      obtain ⟨hsolo, houtcomes, hafter⟩ := ih hstep hplayable.2 hlater
      rw [List.filter_cons_of_pos (by simp [hown])]
      refine ⟨⟨h.enabled hown hplayable.1, hsolo⟩, ?_, hafter⟩
      simp only [ownOutcomes, Persistence.play] at houtcomes ⊢
      rw [List.filter_append, List.map_append, houtcomes, List.map_append,
        List.filter_cons_of_pos (by simp [record, hown]), List.filter_nil]
      exact congrArg (_ ++ [·]) houtcome
    · obtain ⟨hsolo, houtcomes, hafter⟩ := ih (h.step_other hown) hplayable.2 hlater
      rw [List.filter_cons_of_neg (by simp [hown])]
      refine ⟨hsolo, ?_, hafter⟩
      simp only [ownOutcomes, Persistence.play] at houtcomes ⊢
      rw [List.filter_append, List.map_append, houtcomes,
        List.filter_cons_of_neg (by simp [record, hown]), List.filter_nil,
        List.map_nil, List.append_nil]

end Run

theorem Alone.init (runtimeId : String) : Alone runtimeId .init .init where
  view := rfl
  events := by
    intro row hrow
    cases hrow
  transactions := by
    intro row hrow
    cases hrow
  renewals := rfl

/-- A runtime whose identifiers no other runtime stores has the outcomes and the rows that
its own steps give. -/
theorem runtimes_isolated {calls : List (Call P)} (hplayable : Playable .init calls)
    (hprivate : ∀ event ∈ (play .init calls).1, event.call.Private event.before.db)
    (runtimeId : String) :
    Playable .init (calls.filter fun call => call.runtimeId = runtimeId) ∧
      ownOutcomes runtimeId (play .init calls).1 =
        (play .init (calls.filter fun call => call.runtimeId = runtimeId)).1.map
          Event.outcome ∧
      (play .init calls).2.db.view runtimeId =
        (play .init (calls.filter fun call => call.runtimeId = runtimeId)).2.db.view
          runtimeId := by
  obtain ⟨hsolo, houtcomes, hafter⟩ := (Alone.init runtimeId).play hplayable hprivate
  exact ⟨hsolo, houtcomes, hafter.view⟩

end Calls

/-! ## An event identifier that two runtimes make -/

/-- The event of a work package `pkg-1` in a checkpoint. -/
def packageCreated : Value :=
  .mapping
    [("aggregate_id", .text "pkg-1"),
      ("aggregate_type", .text "WORK_PACKAGE"),
      ("causation_id", .null),
      ("correlation_id", .null),
      ("event_type", .text "WORK_PACKAGE_CREATED"),
      ("id", .text "12:WORK_PACKAGE5:pkg-11:20:WORK_PACKAGE_CREATED"),
      ("occurred_at", .text "2024-01-01T00:00:00+00:00"),
      ("payload", .mapping [("owner", .text "owner"), ("title", .text "Package")]),
      ("sequence_number", .int 1)]

theorem packageCreated_canonical :
    (Value.mapping [("events", .sequence [packageCreated])]).Canonical := by
  have hkeys : ["aggregate_id", "aggregate_type", "causation_id", "correlation_id",
      "event_type", "id", "occurred_at", "payload", "sequence_number"].Pairwise (· < ·) := by
    decide +kernel
  have hpayload : "owner" < "title" := by decide +kernel
  simp only [packageCreated, Value.Canonical, CanonicalItems, CanonicalList, and_true, true_and]
  exact ⟨List.pairwise_singleton _ _, List.pairwise_map.mp hkeys,
    List.pairwise_pair.mpr hpayload⟩

def packageCheckpoint (runtimeId : String) (hruntime : Runtime.isBlank runtimeId = false) :
    RuntimeCheckpoint .literal where
  toCheckpointFields := sealedFields runtimeId 1 [("events", .sequence [packageCreated])]
  checked := sealedFields_checked hruntime rfl
  canonical := packageCreated_canonical

theorem runtimeOne_named : Runtime.isBlank "runtime-1" = false := by decide +kernel

theorem runtimeTwo_named : Runtime.isBlank "runtime-2" = false := by decide +kernel

/-- Two runtimes that create a work package of the same identifier and commit. -/
def packageCalls : List (Call .literal) :=
  [.commit (packageCheckpoint "runtime-1" runtimeOne_named) 0 none "operation-1" (.at 0),
    .commit (packageCheckpoint "runtime-2" runtimeTwo_named) 0 none "operation-2" (.at 0)]

/-- A runtime and another one that only acquires a lease. -/
def quietCalls : List (Call .literal) :=
  [.commit (packageCheckpoint "runtime-1" runtimeOne_named) 0 none "operation-1" (.at 0),
    .acquire "runtime-2" "owner-b" "token-b" 30 (.at 0)]

/-- The hypotheses of `runtimes_isolated` hold of a run that shares no identifier. -/
theorem runtimes_isolated_quiet :
    (play .init quietCalls).2.db.view "runtime-1" =
      (play .init (quietCalls.filter fun call =>
        call.runtimeId = "runtime-1")).2.db.view "runtime-1" := by
  have hplayable : Playable .init quietCalls := ⟨trivial, trivial, trivial⟩
  refine (runtimes_isolated hplayable ?_ "runtime-1").2.2
  intro event hevent
  simp only [quietCalls, play, List.nil_append, List.cons_append, List.mem_cons,
    List.not_mem_nil, or_false] at hevent
  rcases hevent with rfl | rfl
  · constructor
    · intro _ _ _ hmem
      cases hmem
    · intro _ _ _ hmem
      cases hmem
  · constructor
    · intro _ hrow
      cases hrow
    · intro _ hrow
      cases hrow

/-- The second runtime is refused the event that it is the first to store when it is alone. -/
theorem shared_event_id_rejected :
    ¬∀ (P : Platform) (calls : List (Call P)), Playable .init calls → ∀ runtimeId,
      ownOutcomes runtimeId (play .init calls).1 =
        (play .init (calls.filter fun call => call.runtimeId = runtimeId)).1.map
          Event.outcome := by
  intro hall
  have houtcomes := hall _ packageCalls ⟨trivial, trivial, trivial⟩ "runtime-2"
  have hshared : (ownOutcomes "runtime-2" (play .init packageCalls).1).map Except.isOk =
      [false] := by
    decide +kernel
  have hsolo : ((play .init (packageCalls.filter fun call =>
      call.runtimeId = "runtime-2")).1.map Event.outcome).map Except.isOk = [true] := by
    decide +kernel
  rw [houtcomes, hsolo] at hshared
  cases hshared

end Persistence
end Ascos
