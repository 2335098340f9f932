import Ascos.Persistence.Provider

/-!
# Runtime leases

A translation of `RuntimeLeaseRepository` from
`runtime/persistence/database/leases.py`.  Acquiring a lease is one transaction;
releasing and breaking one are single statements; renewing one is two statements, each
committed on its own, so the two are separate programs here.
-/

namespace Ascos
namespace Persistence

open Library
open Outbox (Timestamp timedelta)
open Ascos.Library.Program (exec exec_bind exec_bind_ok exec_ite exec_pure exec_set exec_throw)

variable (P : Platform)

def leaseRow (lease : RuntimeLease) : LeaseRow where
  leaseOwnerId := lease.ownerId
  leaseTokenHash := P.sha256 lease.leaseToken
  acquiredAt := lease.acquiredAt
  renewedAt := lease.renewedAt
  expiresAt := lease.expiresAt
  fencingToken := lease.fencingToken

/-- `acquire_lease`, with the token drawn by `secrets.token_urlsafe`; its failures are not
translated. -/
def acquireLease (runtimeId ownerId token : String) (ttlSeconds : Int) (env : Environment) :
    Program Database Failure RuntimeLease :=
  transaction env id do
    ensureRuntime env.ensuredAt runtimeId
    let row := (← get).leases[runtimeId]?
    raiseIf (∃ active ∈ row, env.now < active.expiresAt)
      (.leaseConflict "Runtime already has an active lease")
    let current ← instanceRow runtimeId
    let lease : RuntimeLease :=
      { runtimeId
        ownerId
        leaseToken := token
        acquiredAt := env.now
        renewedAt := env.now
        expiresAt := env.now + timedelta ttlSeconds
        fencingToken := current.latestFencingToken + 1 }
    modify fun db =>
      { db with
        instances := db.instances.insert runtimeId
          { current with
            latestFencingToken := lease.fencingToken
            updatedAt := env.now }
        leases := db.leases.insert runtimeId (leaseRow P lease) }
    pure lease

/-- The first statement of `renew_lease` with the checks of the row it reads. -/
def checkRenewal (lease : RuntimeLease) (now : Timestamp) : Program Database Failure Unit := do
  match (← get).leases[lease.runtimeId]? with
  | none => throw (.leaseConflict "Lease identity is not current")
  | some row =>
    if row.leaseOwnerId ≠ lease.ownerId ∨ row.leaseTokenHash ≠ P.sha256 lease.leaseToken ∨
        row.fencingToken ≠ lease.fencingToken then
      throw (.leaseConflict "Lease identity is not current")
    else if row.expiresAt ≤ now then
      throw (.leaseExpired "Lease has expired")

/-- The second statement of `renew_lease`: the row of the runtime, whichever it is. -/
def updateLease (runtimeId : String) (now expires : Timestamp) :
    Program Database Failure Unit :=
  modify fun db =>
    { db with
      leases := db.leases.modify runtimeId fun row =>
        { row with renewedAt := now, expiresAt := expires } }

/-- The lease that `renew_lease` returns. -/
def renewedLease (lease : RuntimeLease) (now : Timestamp) (ttlSeconds : Int) : RuntimeLease :=
  { lease with renewedAt := now, expiresAt := now + timedelta ttlSeconds }

def renewLease (lease : RuntimeLease) (ttlSeconds : Int) (now : Timestamp) :
    Program Database Failure RuntimeLease := do
  checkRenewal P lease now
  updateLease lease.runtimeId now (now + timedelta ttlSeconds)
  pure (renewedLease lease now ttlSeconds)

/-- `release_lease`: one conditional deletion. -/
def releaseLease (lease : RuntimeLease) : Program Database Failure Unit := do
  let db ← get
  match db.leases[lease.runtimeId]? with
  | some row =>
    if row.leaseOwnerId = lease.ownerId ∧ row.leaseTokenHash = P.sha256 lease.leaseToken ∧
        row.fencingToken = lease.fencingToken then
      set { db with leases := db.leases.erase lease.runtimeId }
    else
      throw (.leaseConflict "Lease identity is not current")
  | none => throw (.leaseConflict "Lease identity is not current")

/-- `break_expired_lease`: one conditional deletion. -/
def breakExpiredLease (runtimeId : String) (now : Timestamp) :
    Program Database Failure Bool := do
  let db ← get
  match db.leases[runtimeId]? with
  | some row =>
    if row.expiresAt ≤ now then
      set { db with leases := db.leases.erase runtimeId }
      pure true
    else
      pure false
  | none => pure false

/-! ## What the operations do -/

def LeaseRow.Stores (row : LeaseRow) (lease : RuntimeLease) : Prop :=
  row.leaseOwnerId = lease.ownerId ∧ row.leaseTokenHash = P.sha256 lease.leaseToken ∧
    row.fencingToken = lease.fencingToken

/-- The lease that an acquisition hands out. -/
def issuedLease (runtimeId ownerId token : String) (ttlSeconds : Int) (now : Timestamp)
    (latestFencing : Nat) : RuntimeLease where
  runtimeId := runtimeId
  ownerId := ownerId
  leaseToken := token
  acquiredAt := now
  renewedAt := now
  expiresAt := now + timedelta ttlSeconds
  fencingToken := latestFencing + 1

def Database.afterAcquire (db : Database) (lease : RuntimeLease) (env : Environment)
    (row : InstanceRow) : Database :=
  { db with
    instances := (db.ensured env.ensuredAt lease.runtimeId).instances.insert lease.runtimeId
      { row with
        latestFencingToken := lease.fencingToken
        updatedAt := env.now }
    leases := db.leases.insert lease.runtimeId (leaseRow P lease) }

variable {P} {db db' : Database}

theorem acquireLease_returned {runtimeId ownerId token : String} {ttlSeconds : Int}
    {env : Environment} {lease : RuntimeLease}
    (h : exec (acquireLease P runtimeId ownerId token ttlSeconds env) db =
      (.ok lease, db')) :
    (¬∃ active ∈ db.leases[runtimeId]?, env.now < active.expiresAt) ∧
      lease = issuedLease runtimeId ownerId token ttlSeconds env.now
        (db.instanceOr env.ensuredAt runtimeId).latestFencingToken ∧
      db' = db.afterAcquire P lease env (db.instanceOr env.ensuredAt runtimeId) := by
  rcases exec_transaction env id _ db with
    ⟨failure, hraised⟩ | ⟨a, after, hbody, hreturned⟩
  · rw [acquireLease, hraised] at h
    cases h
  rw [acquireLease, hreturned] at h
  cases h
  obtain ⟨_, _, hensure, hbody⟩ := exec_bind_ok hbody
  rw [exec_ensureRuntime] at hensure
  cases hensure
  obtain ⟨_, _, hget, hbody⟩ := exec_bind_ok hbody
  cases hget
  obtain ⟨_, _, hactive, hbody⟩ := exec_bind_ok hbody
  obtain ⟨hfree, rfl⟩ := exec_raiseIf_ok hactive
  obtain ⟨current, _, hrow, hbody⟩ := exec_bind_ok hbody
  simp only [exec_instanceRow, Database.instances_ensured, if_true] at hrow
  cases hrow
  obtain ⟨_, _, hmodify, hbody⟩ := exec_bind_ok hbody
  cases hmodify
  cases hbody
  rw [Database.leases_ensured] at hfree
  refine ⟨hfree, rfl, ?_⟩
  rw [Database.afterAcquire]
  simp

theorem exec_checkRenewal_ok {lease : RuntimeLease} {now : Timestamp} {u : Unit}
    (h : exec (checkRenewal P lease now) db = (.ok u, db')) :
    (∃ row, db.leases[lease.runtimeId]? = some row ∧ row.Stores P lease ∧
      now < row.expiresAt) ∧ db' = db := by
  obtain ⟨_, _, hget, h⟩ := exec_bind_ok h
  cases hget
  split at h
  · cases h
  · rename_i row hrow
    simp only [exec_ite, exec_throw] at h
    split_ifs at h with hidentity hexpired <;> try cases h
    simp only [not_or, not_not] at hidentity
    exact ⟨⟨row, hrow, hidentity, not_le.mp hexpired⟩, rfl⟩

theorem exec_releaseLease_ok {lease : RuntimeLease} {u : Unit}
    (h : exec (releaseLease P lease) db = (.ok u, db')) :
    (∃ row, db.leases[lease.runtimeId]? = some row ∧ row.Stores P lease) ∧
      db' = { db with leases := db.leases.erase lease.runtimeId } := by
  obtain ⟨_, _, hget, h⟩ := exec_bind_ok h
  cases hget
  split at h
  · rename_i row hrow
    simp only [exec_ite, exec_throw, exec_set] at h
    split_ifs at h with hidentity <;> cases h
    exact ⟨⟨row, hrow, hidentity⟩, rfl⟩
  · cases h

theorem exec_breakExpiredLease_ok {runtimeId : String} {now : Timestamp} {broken : Bool}
    (h : exec (breakExpiredLease runtimeId now) db = (.ok broken, db')) :
    broken = true ∧ (∃ row, db.leases[runtimeId]? = some row ∧ row.expiresAt ≤ now) ∧
        db' = { db with leases := db.leases.erase runtimeId } ∨
      broken = false ∧ db' = db := by
  obtain ⟨_, _, hget, h⟩ := exec_bind_ok h
  cases hget
  split at h
  · rename_i row hrow
    simp only [exec_ite, exec_bind, exec_set, exec_pure] at h
    split_ifs at h with hexpired <;> cases h
    · exact .inl ⟨rfl, ⟨row, hrow, hexpired⟩, rfl⟩
    · exact .inr ⟨rfl, rfl⟩
  · cases h
    exact .inr ⟨rfl, rfl⟩

end Persistence
end Ascos
