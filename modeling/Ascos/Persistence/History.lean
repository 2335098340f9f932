import Ascos.Persistence.Leases

/-!
# Runs of a shared persistence database

Processes that share one database call the provider and its lease repository in any order.
A transaction, and a statement that is committed on its own, is one step; a
`renew_lease` is two steps, and any other step may come between them.  A
`Call` is one step with its arguments, its clock readings and what the database
answers, and a `Run` records every step with the world before and after it, newest
first.
-/

namespace Ascos
namespace Persistence

open Library
open Outbox (Timestamp timedelta)

/-- A `renew_lease` whose first statement passed and whose second is still to run. -/
structure Renewal where
  lease : RuntimeLease
  ttlSeconds : Int
  now : Timestamp
deriving DecidableEq

/-- When the lease will expire. -/
def Renewal.expires (renewal : Renewal) : Timestamp :=
  renewal.now + timedelta renewal.ttlSeconds

/-- The database with the renewals that are between their two statements. -/
structure World where
  db : Database
  renewals : List Renewal

/-- A migrated database that nobody has used. -/
def World.init : World where
  db := .init
  renewals := []

/-- One step of a process. -/
inductive Call (P : Platform) where
  | commit (checkpoint : RuntimeCheckpoint P) (expectedStateVersion : Int)
      (lease : Option RuntimeLease) (operationId : String) (env : Environment)
  | append (runtimeId : String) (events : List EventDocument) (env : Environment)
  | acquire (runtimeId ownerId token : String) (ttlSeconds : Int) (env : Environment)
  | check (renewal : Renewal)
  | update (renewal : Renewal)
  | release (lease : RuntimeLease)
  | breakExpired (runtimeId : String) (now : Timestamp)
  | stateVersion (runtimeId : String) (now : Timestamp)

/-- What a step returns. -/
inductive Reply where
  | nothing
  | committed (result : PersistenceCommitResult)
  | positions (positions : List Nat)
  | lease (lease : RuntimeLease)
  | broken (broken : Bool)
  | version (version : Nat)

variable {P : Platform}

/-- The runtime that a step is about. -/
def Call.runtimeId : Call P → String
  | .commit checkpoint _ _ _ _ => checkpoint.runtimeId
  | .append runtimeId _ _ => runtimeId
  | .acquire runtimeId _ _ _ _ => runtimeId
  | .check renewal => renewal.lease.runtimeId
  | .update renewal => renewal.lease.runtimeId
  | .release lease => lease.runtimeId
  | .breakExpired runtimeId _ => runtimeId
  | .stateVersion runtimeId _ => runtimeId

/-- What a step asks of the database. -/
def Call.program : Call P → Program Database Failure Reply
  | .commit checkpoint expectedStateVersion lease operationId env =>
    Reply.committed <$>
      commitCheckpoint P checkpoint expectedStateVersion lease operationId env
  | .append runtimeId events env => Reply.positions <$> appendEventBatch runtimeId events env
  | .acquire runtimeId ownerId token ttlSeconds env =>
    Reply.lease <$> acquireLease P runtimeId ownerId token ttlSeconds env
  | .check renewal => (fun _ => Reply.nothing) <$> checkRenewal P renewal.lease renewal.now
  | .update renewal =>
    (fun _ => Reply.lease (renewedLease renewal.lease renewal.now renewal.ttlSeconds)) <$>
      updateLease renewal.lease.runtimeId renewal.now renewal.expires
  | .release lease => (fun _ => Reply.nothing) <$> releaseLease P lease
  | .breakExpired runtimeId now => Reply.broken <$> breakExpiredLease runtimeId now
  | .stateVersion runtimeId now => Reply.version <$> getStateVersion now runtimeId

/-- A second statement runs only after its first. -/
def Call.Enabled : Call P → World → Prop
  | .update renewal, world => renewal ∈ world.renewals
  | _, _ => True

/-- The renewals that are between their two statements after a step. -/
def Call.renewalsAfter : Call P → Except Failure Reply → List Renewal → List Renewal
  | .check renewal, .ok _, renewals => renewal :: renewals
  | .update renewal, _, renewals => renewals.erase renewal
  | _, _, renewals => renewals

/-- Run one step. -/
def Call.exec (call : Call P) (world : World) : Except Failure Reply × World :=
  let result := Program.exec call.program world.db
  (result.1, { db := result.2, renewals := call.renewalsAfter result.1 world.renewals })

/-- One recorded step. -/
structure Event (P : Platform) where
  before : World
  call : Call P
  outcome : Except Failure Reply
  after : World

def record (world : World) (call : Call P) : Event P where
  before := world
  call
  outcome := (call.exec world).1
  after := (call.exec world).2

/-- The steps from a fresh database to a world, newest first. -/
inductive Run (P : Platform) : List (Event P) → World → Prop
  | init : Run P [] .init
  | step {history : List (Event P)} {world : World} {call : Call P}
      (hrun : Run P history world) (henabled : call.Enabled world) :
      Run P (record world call :: history) (call.exec world).2

/-! ## Renewing without interruption -/

/-- The two steps of a renewal with nothing between them are `renew_lease`. -/
theorem exec_check_update (renewal : Renewal) (world : World) :
    Program.exec (renewLease P renewal.lease renewal.ttlSeconds renewal.now) world.db =
      match (Call.check (P := P) renewal).exec world with
      | (.error failure, world') => (.error failure, world'.db)
      | (.ok _, world') =>
          (.ok (renewedLease renewal.lease renewal.now renewal.ttlSeconds),
            ((Call.update (P := P) renewal).exec world').2.db) := by
  simp only [renewLease, Call.exec, Call.program, Program.exec_bind, Program.exec_map]
  rcases Program.exec (checkRenewal P renewal.lease renewal.now) world.db with ⟨_ | _, db⟩
  · rfl
  · simp [updateLease, Renewal.expires]

/-! ## Steps that raise -/

theorem transaction_unchanged {α : Type} (env : Environment) (translate : Failure → Failure)
    (body : Program Database Failure α) :
    Program.RaisesUnchanged (transaction env translate body) := by
  intro db failure db' h
  rcases exec_transaction env translate body db with ⟨_, hraised⟩ | ⟨_, _, _, hreturned⟩
  · rw [hraised] at h
    cases h
    rfl
  · rw [hreturned] at h
    cases h

theorem checkRenewal_readOnly (lease : RuntimeLease) (now : Timestamp) :
    Program.ReadOnly (checkRenewal P lease now) := by
  intro db
  simp only [checkRenewal, Program.exec_bind, Program.exec_get]
  cases db.leases[lease.runtimeId]? with
  | none => rfl
  | some row =>
    simp only [Program.exec_ite, Program.exec_throw]
    split_ifs <;> rfl

theorem releaseLease_unchanged (lease : RuntimeLease) :
    Program.RaisesUnchanged (releaseLease P lease) := by
  intro db failure db' h
  simp only [releaseLease, Program.exec_bind, Program.exec_get] at h
  cases hrow : db.leases[lease.runtimeId]? with
  | none =>
    rw [hrow] at h
    cases h
    rfl
  | some row =>
    rw [hrow] at h
    simp only [Program.exec_ite, Program.exec_throw, Program.exec_set] at h
    split_ifs at h
    · cases h
    · cases h
      rfl

theorem breakExpiredLease_unchanged (runtimeId : String) (now : Timestamp) :
    Program.RaisesUnchanged (breakExpiredLease runtimeId now) := by
  intro db failure db' h
  simp only [breakExpiredLease, Program.exec_bind, Program.exec_get] at h
  cases hrow : db.leases[runtimeId]? with
  | none =>
    rw [hrow] at h
    cases h
  | some row =>
    rw [hrow] at h
    simp only [Program.exec_ite, Program.exec_bind, Program.exec_set, Program.exec_pure] at h
    split_ifs at h
    · cases h
    · cases h

theorem exec_getStateVersion (now : Timestamp) (runtimeId : String) (db : Database) :
    Program.exec (getStateVersion now runtimeId) db =
      (.ok (db.instanceOr now runtimeId).currentStateVersion, db.ensured now runtimeId) := by
  simp only [getStateVersion, Program.exec_bind, exec_ensureRuntime, exec_instanceRow,
    Database.instances_ensured, if_true]
  rfl

/-- A step that raises leaves the database alone. -/
theorem Call.program_unchanged (call : Call P) : Program.RaisesUnchanged call.program := by
  cases call with
  | commit checkpoint expectedStateVersion lease operationId env =>
    exact (transaction_unchanged _ _ _).map _
  | append runtimeId events env => exact (transaction_unchanged _ _ _).map _
  | acquire runtimeId ownerId token ttlSeconds env =>
    exact (transaction_unchanged _ _ _).map _
  | check renewal =>
    refine Program.RaisesUnchanged.map _ ?_
    intro db failure db' h
    rw [← checkRenewal_readOnly (P := P) renewal.lease renewal.now db, h]
  | update renewal =>
    intro db failure db' h
    cases h
  | release lease => exact (releaseLease_unchanged lease).map _
  | breakExpired runtimeId now => exact (breakExpiredLease_unchanged runtimeId now).map _
  | stateVersion runtimeId now =>
    refine Program.RaisesUnchanged.map _ ?_
    intro db failure db' h
    rw [exec_getStateVersion] at h
    cases h

/-- A step that returns is its program returning. -/
theorem Call.exec_ok {call : Call P} {world : World} {reply : Reply}
    (h : (call.exec world).1 = .ok reply) :
    ∃ db, Program.exec call.program world.db = (.ok reply, db) ∧
      record world call =
        { before := world
          call
          outcome := .ok reply
          after :=
            { db
              renewals := call.renewalsAfter (.ok reply) world.renewals } } := by
  refine ⟨(call.exec world).2.db, Prod.ext h rfl, ?_⟩
  rw [← h]
  rfl

/-- A step that raises changes nothing. -/
theorem Call.exec_unchanged {call : Call P} {world : World} {failure : Failure}
    (h : (call.exec world).1 = .error failure) : (call.exec world).2 = world := by
  have hdb : (Program.exec call.program world.db).2 = world.db :=
    call.program_unchanged world.db failure _ (Prod.ext h rfl)
  have hrenewals : call.renewalsAfter (call.exec world).1 world.renewals = world.renewals := by
    rw [h]
    cases call <;> first | rfl | cases h
  exact congrArg₂ World.mk hdb hrenewals

theorem Run.unchanged {history : List (Event P)} {world : World} (hrun : Run P history world)
    {event : Event P} (hevent : event ∈ history) {failure : Failure}
    (h : event.outcome = .error failure) : event.after = event.before := by
  induction hrun with
  | init => cases hevent
  | step hrun henabled ih =>
    rcases List.mem_cons.mp hevent with rfl | hevent
    · exact Call.exec_unchanged h
    · exact ih hevent

/-! ## Playing a list of steps -/

/-- A platform whose digest of a text is the text. -/
def Platform.literal : Platform where
  sha256 := id
  utc := fun _ => true

/-- An environment whose database answers. -/
def Environment.at (now : Timestamp) : Environment where
  now := now
  ensuredAt := now

/-- The worlds of a list of steps, with the steps recorded newest first. -/
def play (world : World) : List (Call P) → List (Event P) × World
  | [] => ([], world)
  | call :: calls =>
    let later := play (call.exec world).2 calls
    (later.1 ++ [record world call], later.2)

/-- Every step of a list runs only after what it needs. -/
def Playable (world : World) : List (Call P) → Prop
  | [] => True
  | call :: calls => call.Enabled world ∧ Playable (call.exec world).2 calls

theorem Run.append {history : List (Event P)} {world : World} (hrun : Run P history world)
    {calls : List (Call P)} (hplayable : Playable world calls) :
    Run P ((play world calls).1 ++ history) (play world calls).2 := by
  induction calls generalizing history world with
  | nil => exact hrun
  | cons call calls ih =>
    rw [play, List.append_assoc]
    exact ih (hrun.step hplayable.1) hplayable.2

end Persistence
end Ascos
