import Ascos.Outbox.Repository

/-!
# Histories of an outbox repository

Any number of workers and operators share one repository, so a run of the system
is a sequence of method calls, each with its own clock readings.  A
`Command` is one call, and a `History` records every call with its
outcome and the repository before and after it, newest first.
-/

namespace Ascos
namespace Outbox

open Library
open Ascos.Library.Program (RaisesUnchanged ReadOnly exec exec_bind exec_get exec_ite exec_map
  exec_pure exec_set exec_throw)

/-- One call of a repository method, with its clock readings and drawn token. -/
inductive Command where
  | addOperation (operation : OutboxOperation)
  | claimNext (ownerId token : String) (ttlSeconds : Int) (now : Timestamp)
  | claimReconciliation (ownerId token : String) (ttlSeconds : Int) (now : Timestamp)
  | renewClaim (claim : OutboxClaim) (ttlSeconds : Int) (t₀ now : Timestamp)
  | releaseClaim (claim : OutboxClaim) (t₀ : Timestamp)
  | markDispatching (claim : OutboxClaim) (t₀ now : Timestamp)
  | markSucceeded (claim : OutboxClaim) (resultReference : String) (t₀ now : Timestamp)
  | markRetryWait (claim : OutboxClaim) (category : FailureCategory) (code : String)
      (availableAt t₀ now : Timestamp)
  | markReconciliationRequired (claim : OutboxClaim) (code : String)
      (t₀ now : Timestamp)
  | markDeadLetter (claim : OutboxClaim) (reason : String) (t₀ now : Timestamp)
  | cancelOperation (operationId : String) (now : Timestamp)
  | abandonOperation (operationId reason : String) (now : Timestamp)
  | recoverExpired (now : Timestamp)
  | retryDeadLetter (operationId : String) (now : Timestamp)
  | setProviderPause (providerId : String) (paused : Bool)

/-- What a call returns. -/
inductive Response where
  | nothing
  | count (recovered : Nat)
  | operation (operation : OutboxOperation)
  | claim (claim : Option OutboxClaim)

def Command.run (D : Digests) : Command → Method Response
  | .addOperation operation => Response.operation <$> Outbox.addOperation D operation
  | .claimNext ownerId token ttlSeconds now =>
    Response.claim <$> Outbox.claimNext D ownerId token ttlSeconds now
  | .claimReconciliation ownerId token ttlSeconds now =>
    Response.claim <$> Outbox.claimReconciliation D ownerId token ttlSeconds now
  | .renewClaim claim ttlSeconds t₀ now =>
    (fun renewed => Response.claim (some renewed)) <$>
      Outbox.renewClaim D claim ttlSeconds t₀ now
  | .releaseClaim claim t₀ =>
    (fun _ => Response.nothing) <$> Outbox.releaseClaim D claim t₀
  | .markDispatching claim t₀ now =>
    Response.operation <$> Outbox.markDispatching D claim t₀ now
  | .markSucceeded claim resultReference t₀ now =>
    Response.operation <$> Outbox.markSucceeded D claim resultReference t₀ now
  | .markRetryWait claim category code availableAt t₀ now =>
    Response.operation <$>
      Outbox.markRetryWait D claim category code availableAt t₀ now
  | .markReconciliationRequired claim code t₀ now =>
    Response.operation <$> Outbox.markReconciliationRequired D claim code t₀ now
  | .markDeadLetter claim reason t₀ now =>
    Response.operation <$> Outbox.markDeadLetter D claim reason t₀ now
  | .cancelOperation operationId now =>
    Response.operation <$> Outbox.cancelOperation operationId now
  | .abandonOperation operationId reason now =>
    Response.operation <$> Outbox.abandonOperation operationId reason now
  | .recoverExpired now => Response.count <$> Outbox.recoverExpired now
  | .retryDeadLetter operationId now =>
    Response.operation <$> Outbox.retryDeadLetter operationId now
  | .setProviderPause providerId paused =>
    (fun _ => Response.nothing) <$> Outbox.setProviderPause providerId paused

/-! ## The effect of one call -/

def Effect (D : Digests) (r : Repository) (table : OperationTable) :
    Command → Response → Prop
  | .addOperation operation, _ =>
    r.operations.get? operation.operationId = none ∧
      table = r.operations.put operation
  | .claimNext _ _ _ now, .claim none =>
    table = (r.recover now).operations
  | .claimNext ownerId token ttlSeconds now, .claim (some claim) =>
    ∃ operation ∈ (r.recover now).eligible now,
      claim = issuedClaim ownerId token now ttlSeconds operation ∧
        table = (r.recover now).operations.put
          (claimedRecord D ownerId token now ttlSeconds operation)
  | .claimReconciliation _ _ _ _, .claim none =>
    table = r.operations
  | .claimReconciliation ownerId token ttlSeconds now, .claim (some claim) =>
    ∃ operation ∈ r.reconciliationCandidates,
      claim = issuedClaim ownerId token now ttlSeconds operation ∧
        table = r.operations.put
          (claimedRecord D ownerId token now ttlSeconds
            { operation with reconciliationState := .inProgress })
  | .renewClaim claim ttlSeconds t₀ now, response =>
    ∃ operation, claimVerdict D r claim t₀ = .ok operation ∧
      response = .claim (some (renewedClaim claim ttlSeconds now operation)) ∧
        table = r.operations.put
          { operation with claimExpiresAt := some (now + timedelta ttlSeconds) }
  | .releaseClaim claim t₀, _ =>
    ∃ operation, claimVerdict D r claim t₀ = .ok operation ∧
      operation.status = .claimed ∧
        table = r.operations.put { clearClaim operation with status := .pending }
  | .markDispatching claim t₀ now, _ =>
    ∃ operation, claimVerdict D r claim t₀ = .ok operation ∧
      operation.status = .claimed ∧
        table = r.operations.put (dispatchedRecord now operation)
  | .markSucceeded claim resultReference t₀ now, _ =>
    ∃ operation, claimVerdict D r claim t₀ = .ok operation ∧
      (operation.status = .succeeded ∧ table = r.operations ∨
        operation.status ≠ .succeeded ∧
          table = r.operations.put (succeededRecord resultReference now operation))
  | .markRetryWait claim category code availableAt t₀ now, _ =>
    ∃ operation, claimVerdict D r claim t₀ = .ok operation ∧
      (table = r.operations.put
          (deadLetterRecord s!"Maximum attempts exhausted: {code}" now
            (failedRecord category code operation)) ∨
        table = r.operations.put
          (waitingRecord availableAt (failedRecord category code operation)))
  | .markReconciliationRequired claim code t₀ _, _ =>
    ∃ operation, claimVerdict D r claim t₀ = .ok operation ∧
      table = r.operations.put (uncertainRecord code operation)
  | .markDeadLetter claim reason t₀ now, _ =>
    ∃ operation, claimVerdict D r claim t₀ = .ok operation ∧
      table = r.operations.put (deadLetterRecord reason now operation)
  | .cancelOperation operationId now, _ =>
    ∃ operation, r.operations.get? operationId = some operation ∧
      (operation.status = .pending ∨ operation.status = .retryWait) ∧
        table = r.operations.put (cancelledRecord now operation)
  | .abandonOperation operationId reason now, _ =>
    ∃ operation, r.operations.get? operationId = some operation ∧
      (operation.status ≠ .claimed ∧ operation.status ≠ .dispatching ∧
        operation.status ≠ .succeeded) ∧
        table = r.operations.put (abandonedRecord reason now operation)
  | .recoverExpired now, _ =>
    table = (r.recover now).operations
  | .retryDeadLetter operationId now, _ =>
    ∃ operation, r.operations.get? operationId = some operation ∧
      operation.status = .deadLetter ∧
        table = r.operations.put (retriedRecord now operation)
  | .setProviderPause _ _, _ => table = r.operations
  | _, _ => False

variable {D : Digests} {r r' : Repository} {command : Command}

theorem readOnly_getOperation (operationId : String) :
    ReadOnly (getOperation operationId) := by
  intro r
  rw [exec_getOperation]
  split <;> rfl

theorem readOnly_validateClaim (claim : OutboxClaim) (t₀ : Timestamp) :
    ReadOnly (validateClaim D claim t₀) := by
  intro r
  rw [exec_validateClaim]

/-- Every method checks before it writes. -/
theorem run_raisesUnchanged (D : Digests) (command : Command) :
    RaisesUnchanged (command.run D) := by
  cases command with
  | addOperation operation =>
    refine .map _ (.bind (fun _ => rfl) fun r => ?_)
    dsimp only
    split
    · exact .throw _
    split
    · exact .throw _
    split
    · exact .throw _
    · exact Program.Total.raisesUnchanged fun _ => ⟨_, _, rfl⟩
  | claimNext ownerId token ttlSeconds now =>
    refine Program.Total.raisesUnchanged fun r => ?_
    simp only [Command.run, Outbox.claimNext, Outbox.recoverExpired, exec_map,
      exec_bind, exec_get, exec_set, exec_pure]
    cases ((r.recover now).eligible now).head? <;> exact ⟨_, _, rfl⟩
  | claimReconciliation ownerId token ttlSeconds now =>
    refine Program.Total.raisesUnchanged fun r => ?_
    simp only [Command.run, Outbox.claimReconciliation, exec_map,
      exec_bind, exec_get]
    cases r.reconciliationCandidates.head? <;> exact ⟨_, _, rfl⟩
  | renewClaim claim ttlSeconds t₀ now =>
    refine .map _ (.bind (readOnly_validateClaim claim t₀) fun operation => ?_)
    exact Program.Total.raisesUnchanged fun _ => ⟨_, _, rfl⟩
  | releaseClaim claim t₀ =>
    refine .map _ (.bind (readOnly_validateClaim claim t₀) fun operation => ?_)
    split
    · exact .throw _
    · exact Program.Total.raisesUnchanged fun _ => ⟨_, _, rfl⟩
  | markDispatching claim t₀ now =>
    refine .map _ (.bind (readOnly_validateClaim claim t₀) fun operation => ?_)
    split
    · exact .throw _
    · exact Program.Total.raisesUnchanged fun _ => ⟨_, _, rfl⟩
  | markSucceeded claim resultReference t₀ now =>
    refine .map _ (.bind (readOnly_validateClaim claim t₀) fun operation => ?_)
    split
    · exact Program.Total.raisesUnchanged fun _ => ⟨_, _, rfl⟩
    split
    · exact .throw _
    · exact Program.Total.raisesUnchanged fun _ => ⟨_, _, rfl⟩
  | markRetryWait claim category code availableAt t₀ now =>
    refine .map _ (.bind (readOnly_validateClaim claim t₀) fun operation => ?_)
    dsimp only
    split <;> exact Program.Total.raisesUnchanged fun _ => ⟨_, _, rfl⟩
  | markReconciliationRequired claim code t₀ now =>
    refine .map _ (.bind (readOnly_validateClaim claim t₀) fun operation => ?_)
    exact Program.Total.raisesUnchanged fun _ => ⟨_, _, rfl⟩
  | markDeadLetter claim reason t₀ now =>
    refine .map _ (.bind (readOnly_validateClaim claim t₀) fun operation => ?_)
    exact Program.Total.raisesUnchanged fun _ => ⟨_, _, rfl⟩
  | cancelOperation operationId now =>
    refine .map _ (.bind (readOnly_getOperation operationId) fun operation => ?_)
    split
    · exact .throw _
    · exact Program.Total.raisesUnchanged fun _ => ⟨_, _, rfl⟩
  | abandonOperation operationId reason now =>
    refine .map _ (.bind (readOnly_getOperation operationId) fun operation => ?_)
    split
    · exact .throw _
    · exact Program.Total.raisesUnchanged fun _ => ⟨_, _, rfl⟩
  | recoverExpired now => exact Program.Total.raisesUnchanged fun _ => ⟨_, _, rfl⟩
  | retryDeadLetter operationId now =>
    refine .map _ (.bind (readOnly_getOperation operationId) fun operation => ?_)
    split
    · exact .throw _
    · exact Program.Total.raisesUnchanged fun _ => ⟨_, _, rfl⟩
  | setProviderPause providerId paused =>
    exact Program.Total.raisesUnchanged fun _ => ⟨_, _, rfl⟩

theorem run_effect {response : Response}
    (h : exec (command.run D) r = (.ok response, r')) :
    Effect D r r'.operations command response := by
  cases command with
  | addOperation operation =>
    simp only [Command.run, Outbox.addOperation, exec_map, exec_bind,
      exec_get, exec_ite, exec_throw, exec_set,
      exec_pure] at h
    split_ifs at h with hknown hconflict hduplicate
    all_goals simp only [Prod.mk.injEq, reduceCtorEq, false_and] at h
    obtain ⟨-, rfl⟩ := h
    exact ⟨by simpa using hknown, rfl⟩
  | claimNext ownerId token ttlSeconds now =>
    simp only [Command.run, Outbox.claimNext, Outbox.recoverExpired, exec_map,
      exec_bind, exec_get, exec_set, exec_pure] at h
    cases hhead : ((r.recover now).eligible now).head? with
    | none =>
        simp only [hhead, exec_pure, Prod.mk.injEq, Except.ok.injEq] at h
        obtain ⟨rfl, rfl⟩ := h
        rfl
    | some operation =>
        simp only [hhead, claimOperation, exec_map, exec_bind,
          exec_store, exec_pure, Prod.mk.injEq, Except.ok.injEq] at h
        obtain ⟨rfl, rfl⟩ := h
        exact ⟨operation, List.mem_of_head? hhead, rfl, rfl⟩
  | claimReconciliation ownerId token ttlSeconds now =>
    simp only [Command.run, Outbox.claimReconciliation, exec_map,
      exec_bind, exec_get] at h
    cases hhead : r.reconciliationCandidates.head? with
    | none =>
        simp only [hhead, exec_pure, Prod.mk.injEq, Except.ok.injEq] at h
        obtain ⟨rfl, rfl⟩ := h
        rfl
    | some operation =>
        simp only [hhead, claimOperation, exec_map, exec_bind,
          exec_store, exec_pure, Prod.mk.injEq, Except.ok.injEq] at h
        obtain ⟨rfl, rfl⟩ := h
        exact ⟨operation, List.mem_of_head? hhead, rfl, rfl⟩
  | renewClaim claim ttlSeconds t₀ now =>
    cases hverdict : claimVerdict D r claim t₀ <;>
      simp [Command.run, Outbox.renewClaim, hverdict] at h
    obtain ⟨rfl, rfl⟩ := h
    exact ⟨_, hverdict, rfl, rfl⟩
  | releaseClaim claim t₀ =>
    cases hverdict : claimVerdict D r claim t₀ <;>
      simp [Command.run, Outbox.releaseClaim, hverdict] at h
    split_ifs at h with hstatus <;> simp at h
    obtain ⟨rfl, rfl⟩ := h
    exact ⟨_, hverdict, hstatus, rfl⟩
  | markDispatching claim t₀ now =>
    cases hverdict : claimVerdict D r claim t₀ <;>
      simp [Command.run, Outbox.markDispatching, hverdict] at h
    split_ifs at h with hstatus <;> simp at h
    obtain ⟨rfl, rfl⟩ := h
    exact ⟨_, hverdict, hstatus, rfl⟩
  | markSucceeded claim resultReference t₀ now =>
    cases hverdict : claimVerdict D r claim t₀ <;>
      simp [Command.run, Outbox.markSucceeded, hverdict] at h
    split_ifs at h with hstatus hguard <;> simp at h
    · obtain ⟨rfl, rfl⟩ := h
      exact ⟨_, hverdict, .inl ⟨hstatus, rfl⟩⟩
    · obtain ⟨rfl, rfl⟩ := h
      exact ⟨_, hverdict, .inr ⟨hstatus, rfl⟩⟩
  | markRetryWait claim category code availableAt t₀ now =>
    cases hverdict : claimVerdict D r claim t₀ <;>
      simp [Command.run, Outbox.markRetryWait, deadLetter, hverdict] at h
    split_ifs at h with hattempts <;> simp at h
    · obtain ⟨rfl, rfl⟩ := h
      exact ⟨_, hverdict, .inl rfl⟩
    · obtain ⟨rfl, rfl⟩ := h
      exact ⟨_, hverdict, .inr rfl⟩
  | markReconciliationRequired claim code t₀ now =>
    cases hverdict : claimVerdict D r claim t₀ <;>
      simp [Command.run, Outbox.markReconciliationRequired, hverdict] at h
    obtain ⟨rfl, rfl⟩ := h
    exact ⟨_, hverdict, rfl⟩
  | markDeadLetter claim reason t₀ now =>
    cases hverdict : claimVerdict D r claim t₀ <;>
      simp [Command.run, Outbox.markDeadLetter, deadLetter, hverdict] at h
    obtain ⟨rfl, rfl⟩ := h
    exact ⟨_, hverdict, rfl⟩
  | cancelOperation operationId now =>
    cases hget : r.operations.get? operationId <;>
      simp [Command.run, Outbox.cancelOperation, hget] at h
    split_ifs at h with hstatus <;> simp at h
    obtain ⟨rfl, rfl⟩ := h
    exact ⟨_, hget, by tauto, rfl⟩
  | abandonOperation operationId reason now =>
    cases hget : r.operations.get? operationId <;>
      simp [Command.run, Outbox.abandonOperation, hget] at h
    split_ifs at h with hstatus <;> simp at h
    obtain ⟨rfl, rfl⟩ := h
    exact ⟨_, hget, by simpa only [not_or] using hstatus, rfl⟩
  | recoverExpired now =>
    simp [Command.run, Outbox.recoverExpired] at h
    obtain ⟨-, rfl⟩ := h
    rfl
  | retryDeadLetter operationId now =>
    cases hget : r.operations.get? operationId <;>
      simp [Command.run, Outbox.retryDeadLetter, hget] at h
    split_ifs at h with hstatus <;> simp at h
    obtain ⟨rfl, rfl⟩ := h
    exact ⟨_, hget, hstatus, rfl⟩
  | setProviderPause providerId paused =>
    simp [Command.run, Outbox.setProviderPause] at h
    obtain ⟨-, rfl⟩ := h
    rfl

/-! ## The effect on one operation -/

/-- What a returning call can do to one filed operation. -/
inductive RecordStep (D : Digests) (r : Repository) :
    Command → Response → OutboxOperation → OutboxOperation → Prop
  | untouched (command : Command) (response : Response) (operation : OutboxOperation) :
      RecordStep D r command response operation operation
  | recovered (now : Timestamp) (response : Response) (operation : OutboxOperation) :
      RecordStep D r (.recoverExpired now) response operation (recoverOne now operation)
  | recoveredFirst (ownerId token : String) (ttlSeconds : Int) (now : Timestamp)
      (response : Response) (operation : OutboxOperation) :
      RecordStep D r (.claimNext ownerId token ttlSeconds now) response operation
        (recoverOne now operation)
  | claimed (ownerId token : String) (ttlSeconds : Int) (now : Timestamp)
      (operation : OutboxOperation)
      (hstatus : (recoverOne now operation).status = .pending ∨
        (recoverOne now operation).status = .retryWait) :
      RecordStep D r (.claimNext ownerId token ttlSeconds now)
        (.claim (some (issuedClaim ownerId token now ttlSeconds operation))) operation
        (claimedRecord D ownerId token now ttlSeconds (recoverOne now operation))
  | claimedReconciliation (ownerId token : String) (ttlSeconds : Int) (now : Timestamp)
      (operation : OutboxOperation) (hstatus : operation.status = .reconciliationRequired) :
      RecordStep D r (.claimReconciliation ownerId token ttlSeconds now)
        (.claim (some (issuedClaim ownerId token now ttlSeconds operation))) operation
        (claimedRecord D ownerId token now ttlSeconds
          { operation with reconciliationState := .inProgress })
  | renewed (claim : OutboxClaim) (ttlSeconds : Int) (t₀ now : Timestamp)
      (operation : OutboxOperation) (hverdict : claimVerdict D r claim t₀ = .ok operation) :
      RecordStep D r (.renewClaim claim ttlSeconds t₀ now)
        (.claim (some (renewedClaim claim ttlSeconds now operation))) operation
        { operation with claimExpiresAt := some (now + timedelta ttlSeconds) }
  | released (claim : OutboxClaim) (t₀ : Timestamp) (response : Response)
      (operation : OutboxOperation) (hverdict : claimVerdict D r claim t₀ = .ok operation)
      (hstatus : operation.status = .claimed) :
      RecordStep D r (.releaseClaim claim t₀) response operation
        { clearClaim operation with status := .pending }
  | dispatched (claim : OutboxClaim) (t₀ now : Timestamp) (response : Response)
      (operation : OutboxOperation) (hverdict : claimVerdict D r claim t₀ = .ok operation)
      (hstatus : operation.status = .claimed) :
      RecordStep D r (.markDispatching claim t₀ now) response operation
        (dispatchedRecord now operation)
  | succeeded (claim : OutboxClaim) (resultReference : String) (t₀ now : Timestamp)
      (response : Response) (operation : OutboxOperation)
      (hverdict : claimVerdict D r claim t₀ = .ok operation) :
      RecordStep D r (.markSucceeded claim resultReference t₀ now) response operation
        (succeededRecord resultReference now operation)
  | exhausted (claim : OutboxClaim) (category : FailureCategory) (code : String)
      (availableAt t₀ now : Timestamp) (response : Response) (operation : OutboxOperation)
      (hverdict : claimVerdict D r claim t₀ = .ok operation) :
      RecordStep D r (.markRetryWait claim category code availableAt t₀ now) response
        operation (deadLetterRecord s!"Maximum attempts exhausted: {code}" now
          (failedRecord category code operation))
  | waiting (claim : OutboxClaim) (category : FailureCategory) (code : String)
      (availableAt t₀ now : Timestamp) (response : Response) (operation : OutboxOperation)
      (hverdict : claimVerdict D r claim t₀ = .ok operation) :
      RecordStep D r (.markRetryWait claim category code availableAt t₀ now) response
        operation (waitingRecord availableAt (failedRecord category code operation))
  | uncertain (claim : OutboxClaim) (code : String) (t₀ now : Timestamp)
      (response : Response) (operation : OutboxOperation)
      (hverdict : claimVerdict D r claim t₀ = .ok operation) :
      RecordStep D r (.markReconciliationRequired claim code t₀ now) response operation
        (uncertainRecord code operation)
  | deadLettered (claim : OutboxClaim) (reason : String) (t₀ now : Timestamp)
      (response : Response) (operation : OutboxOperation)
      (hverdict : claimVerdict D r claim t₀ = .ok operation) :
      RecordStep D r (.markDeadLetter claim reason t₀ now) response operation
        (deadLetterRecord reason now operation)
  | cancelled (operationId : String) (now : Timestamp) (response : Response)
      (operation : OutboxOperation)
      (hstatus : operation.status = .pending ∨ operation.status = .retryWait) :
      RecordStep D r (.cancelOperation operationId now) response operation
        (cancelledRecord now operation)
  | abandoned (operationId reason : String) (now : Timestamp) (response : Response)
      (operation : OutboxOperation)
      (hstatus : operation.status ≠ .claimed ∧ operation.status ≠ .dispatching ∧
        operation.status ≠ .succeeded) :
      RecordStep D r (.abandonOperation operationId reason now) response operation
        (abandonedRecord reason now operation)
  | retried (operationId : String) (now : Timestamp) (response : Response)
      (operation : OutboxOperation) (hstatus : operation.status = .deadLetter) :
      RecordStep D r (.retryDeadLetter operationId now) response operation
        (retriedRecord now operation)

theorem OperationTable.get?_put_inv {table : OperationTable}
    {written after : OutboxOperation} {id : String}
    (h : (table.put written).get? id = some after) :
    table.get? id = some after ∨ written.operationId = id ∧ after = written := by
  rw [get?_put] at h
  split at h
  · rename_i hid
    exact .inr ⟨hid, (Option.some.inj h).symm⟩
  · exact .inl h

theorem recordStep_put {response : Response} {operation written after : OutboxOperation}
    {id : String} (hfiled : r.operations.get? operation.operationId = some operation)
    (hstep : RecordStep D r command response operation written)
    (hkey : written.operationId = operation.operationId)
    (hafter : (r.operations.put written).get? id = some after) :
    ∃ before, r.operations.get? id = some before ∧
      RecordStep D r command response before after := by
  rcases OperationTable.get?_put_inv hafter with hsame | ⟨hid, rfl⟩
  · exact ⟨after, hsame, .untouched command response after⟩
  · exact ⟨operation, by rw [← hid, hkey, hfiled], hstep⟩

theorem filed_of_claimVerdict {claim : OutboxClaim} {t₀ : Timestamp}
    {operation : OutboxOperation} (hverdict : claimVerdict D r claim t₀ = .ok operation) :
    r.operations.get? operation.operationId = some operation := by
  have hget := (claimVerdict_ok_iff.mp hverdict).1
  rwa [OperationTable.operationId_of_get? hget]

theorem filed_of_get? {operation : OutboxOperation} {id : String}
    (hget : r.operations.get? id = some operation) :
    r.operations.get? operation.operationId = some operation := by
  rwa [OperationTable.operationId_of_get? hget]

/-- An operation on file after a returning call was on file before it and made a
`RecordStep`, or the call added it. -/
theorem Effect.recordStep {table : OperationTable} {response : Response}
    (heffect : Effect D r table command response) {id : String} {after : OutboxOperation}
    (hafter : table.get? id = some after) :
    (∃ before, r.operations.get? id = some before ∧
        RecordStep D r command response before after) ∨
      r.operations.get? id = none ∧ command = .addOperation after := by
  cases command with
  | addOperation operation =>
    obtain ⟨hnew, rfl⟩ := heffect
    rcases OperationTable.get?_put_inv hafter with hsame | ⟨rfl, rfl⟩
    · exact .inl ⟨after, hsame, .untouched _ _ after⟩
    · exact .inr ⟨hnew, rfl⟩
  | claimNext ownerId token ttlSeconds now =>
    refine .inl ?_
    have hrecovered : ∀ {found}, (r.recover now).operations.get? id = some found →
        ∃ before, r.operations.get? id = some before ∧ recoverOne now before = found := by
      intro found hfound
      rw [get?_recover] at hfound
      exact Option.map_eq_some_iff.mp hfound
    rcases response with _ | _ | _ | _ | claim
    all_goals try exact heffect.elim
    · subst heffect
      obtain ⟨before, hbefore, rfl⟩ := hrecovered hafter
      exact ⟨before, hbefore, .recoveredFirst ownerId token ttlSeconds now _ before⟩
    · obtain ⟨operation, helig, rfl, rfl⟩ := heffect
      obtain ⟨hfiled, hstatus, -⟩ := mem_eligible.mp helig
      rcases OperationTable.get?_put_inv hafter with hsame | ⟨hid, rfl⟩
      · obtain ⟨before, hbefore, rfl⟩ := hrecovered hsame
        exact ⟨before, hbefore, .recoveredFirst ownerId token ttlSeconds now _ before⟩
      · obtain rfl : operation.operationId = id := hid
        obtain ⟨before, hbefore, rfl⟩ := hrecovered hfiled
        refine ⟨before, hbefore, ?_⟩
        rw [issuedClaim_recoverOne]
        exact .claimed ownerId token ttlSeconds now before hstatus
  | claimReconciliation ownerId token ttlSeconds now =>
    refine .inl ?_
    rcases response with _ | _ | _ | _ | claim
    all_goals try exact heffect.elim
    · subst heffect
      exact ⟨after, hafter, .untouched _ _ after⟩
    · obtain ⟨operation, hcandidate, rfl, rfl⟩ := heffect
      obtain ⟨hfiled, hstatus⟩ := mem_reconciliationCandidates.mp hcandidate
      exact recordStep_put hfiled
        (.claimedReconciliation ownerId token ttlSeconds now operation hstatus) rfl hafter
  | recoverExpired now =>
    subst heffect
    rw [get?_recover] at hafter
    obtain ⟨before, hbefore, rfl⟩ := Option.map_eq_some_iff.mp hafter
    exact .inl ⟨before, hbefore, .recovered now response before⟩
  | setProviderPause providerId paused =>
    subst heffect
    exact .inl ⟨after, hafter, .untouched _ _ after⟩
  | renewClaim claim ttlSeconds t₀ now =>
    obtain ⟨operation, hverdict, rfl, rfl⟩ := heffect
    exact .inl (recordStep_put (filed_of_claimVerdict hverdict)
      (.renewed claim ttlSeconds t₀ now operation hverdict) rfl hafter)
  | releaseClaim claim t₀ =>
    obtain ⟨operation, hverdict, hstatus, rfl⟩ := heffect
    exact .inl (recordStep_put (filed_of_claimVerdict hverdict)
      (.released claim t₀ response operation hverdict hstatus) rfl hafter)
  | markDispatching claim t₀ now =>
    obtain ⟨operation, hverdict, hstatus, rfl⟩ := heffect
    exact .inl (recordStep_put (filed_of_claimVerdict hverdict)
      (.dispatched claim t₀ now response operation hverdict hstatus) rfl hafter)
  | markSucceeded claim resultReference t₀ now =>
    obtain ⟨operation, hverdict, ⟨-, rfl⟩ | ⟨-, rfl⟩⟩ := heffect
    · exact .inl ⟨after, hafter, .untouched _ _ after⟩
    · exact .inl (recordStep_put (filed_of_claimVerdict hverdict)
        (.succeeded claim resultReference t₀ now response operation hverdict) rfl hafter)
  | markRetryWait claim category code availableAt t₀ now =>
    obtain ⟨operation, hverdict, rfl | rfl⟩ := heffect
    · exact .inl (recordStep_put (filed_of_claimVerdict hverdict)
        (.exhausted claim category code availableAt t₀ now response operation hverdict)
        rfl hafter)
    · exact .inl (recordStep_put (filed_of_claimVerdict hverdict)
        (.waiting claim category code availableAt t₀ now response operation hverdict)
        rfl hafter)
  | markReconciliationRequired claim code t₀ now =>
    obtain ⟨operation, hverdict, rfl⟩ := heffect
    exact .inl (recordStep_put (filed_of_claimVerdict hverdict)
      (.uncertain claim code t₀ now response operation hverdict) rfl hafter)
  | markDeadLetter claim reason t₀ now =>
    obtain ⟨operation, hverdict, rfl⟩ := heffect
    exact .inl (recordStep_put (filed_of_claimVerdict hverdict)
      (.deadLettered claim reason t₀ now response operation hverdict) rfl hafter)
  | cancelOperation operationId now =>
    obtain ⟨operation, hget, hstatus, rfl⟩ := heffect
    exact .inl (recordStep_put (filed_of_get? hget)
      (.cancelled operationId now response operation hstatus) rfl hafter)
  | abandonOperation operationId reason now =>
    obtain ⟨operation, hget, hstatus, rfl⟩ := heffect
    exact .inl (recordStep_put (filed_of_get? hget)
      (.abandoned operationId reason now response operation hstatus) rfl hafter)
  | retryDeadLetter operationId now =>
    obtain ⟨operation, hget, hstatus, rfl⟩ := heffect
    exact .inl (recordStep_put (filed_of_get? hget)
      (.retried operationId now response operation hstatus) rfl hafter)

/-- No returning call takes an operation off the file. -/
theorem Effect.stays_filed {table : OperationTable} {response : Response}
    (heffect : Effect D r table command response) {id : String}
    (hfiled : (r.operations.get? id).isSome) : (table.get? id).isSome := by
  have hput : ∀ {base : OperationTable} (written), (base.get? id).isSome →
      ((base.put written).get? id).isSome := by
    intro base written h
    rw [OperationTable.get?_put]
    split
    · rfl
    · exact h
  have hrecover : ∀ now, ((r.recover now).operations.get? id).isSome := fun now => by
    rw [get?_recover, Option.isSome_map]
    exact hfiled
  cases command with
  | addOperation operation =>
    obtain ⟨-, rfl⟩ := heffect
    exact hput _ hfiled
  | claimNext ownerId token ttlSeconds now =>
    rcases response with _ | _ | _ | _ | claim
    all_goals try exact heffect.elim
    · subst heffect
      exact hrecover now
    · obtain ⟨operation, -, rfl, rfl⟩ := heffect
      exact hput _ (hrecover now)
  | claimReconciliation ownerId token ttlSeconds now =>
    rcases response with _ | _ | _ | _ | claim
    all_goals try exact heffect.elim
    · subst heffect
      exact hfiled
    · obtain ⟨operation, -, rfl, rfl⟩ := heffect
      exact hput _ hfiled
  | recoverExpired now =>
    subst heffect
    exact hrecover now
  | setProviderPause providerId paused =>
    subst heffect
    exact hfiled
  | markSucceeded claim resultReference t₀ now =>
    obtain ⟨operation, hverdict, ⟨-, rfl⟩ | ⟨-, rfl⟩⟩ := heffect
    · exact hfiled
    · exact hput _ hfiled
  | markRetryWait claim category code availableAt t₀ now =>
    obtain ⟨operation, hverdict, rfl | rfl⟩ := heffect
    · exact hput _ hfiled
    · exact hput _ hfiled
  | renewClaim => obtain ⟨operation, -, -, rfl⟩ := heffect; exact hput _ hfiled
  | releaseClaim => obtain ⟨operation, -, -, rfl⟩ := heffect; exact hput _ hfiled
  | markDispatching => obtain ⟨operation, -, -, rfl⟩ := heffect; exact hput _ hfiled
  | markReconciliationRequired => obtain ⟨operation, -, rfl⟩ := heffect; exact hput _ hfiled
  | markDeadLetter => obtain ⟨operation, -, rfl⟩ := heffect; exact hput _ hfiled
  | cancelOperation => obtain ⟨operation, -, -, rfl⟩ := heffect; exact hput _ hfiled
  | abandonOperation => obtain ⟨operation, -, -, rfl⟩ := heffect; exact hput _ hfiled
  | retryDeadLetter => obtain ⟨operation, -, -, rfl⟩ := heffect; exact hput _ hfiled

/-! ## Histories -/

/-- One recorded call: the repository it started from, the call, its outcome and the
repository it left. -/
structure Event where
  pre : Repository
  command : Command
  outcome : Except OutboxError Response
  post : Repository

/-- The record of a call made on a repository. -/
def record (D : Digests) (r : Repository) (command : Command) : Event where
  pre := r
  command := command
  outcome := (exec (command.run D) r).1
  post := (exec (command.run D) r).2

/-- The runs of a repository: any calls in any order, newest event first. -/
inductive History (D : Digests) : List Event → Repository → Prop
  | start : History D [] Repository.init
  | call {events : List Event} {r : Repository} (history : History D events r)
      (command : Command) :
      History D (record D r command :: events) (record D r command).post

/-- Play calls in order, from the last one of the list to the first. -/
def play (D : Digests) : List Command → List Event × Repository
  | [] => ([], Repository.init)
  | command :: earlier =>
    let (events, r) := play D earlier
    (record D r command :: events, (record D r command).post)

theorem history_play (D : Digests) (commands : List Command) :
    History D (play D commands).1 (play D commands).2 := by
  induction commands with
  | nil => exact .start
  | cons command earlier ih => exact .call ih command

theorem History.of_suffix {events : List Event} {r : Repository}
    (history : History D events r) {event : Event} {earlier : List Event}
    (h : event :: earlier <:+ events) :
    History D earlier event.pre ∧ event = record D event.pre event.command := by
  induction history with
  | start => simp at h
  | call history command ih =>
    rcases List.suffix_cons_iff.mp h with heq | htail
    · obtain ⟨rfl, rfl⟩ := List.cons.inj heq
      exact ⟨history, rfl⟩
    · exact ih htail

theorem record_cases (D : Digests) (r : Repository) (command : Command) :
    (∃ error, (record D r command).outcome = .error error ∧
        (record D r command).post = r) ∨
      ∃ response, (record D r command).outcome = .ok response ∧
        Effect D r (record D r command).post.operations command response := by
  unfold record
  rcases hexec : exec (command.run D) r with ⟨error | response, r'⟩
  · exact .inl ⟨error, rfl, run_raisesUnchanged D command r error r' hexec⟩
  · exact .inr ⟨response, rfl, run_effect hexec⟩

/-- An operation on file after a recorded call: untouched by a raise, stepped by a
returning call, or just added. -/
theorem record_inv (D : Digests) (r : Repository) (command : Command) {id : String}
    {after : OutboxOperation}
    (hafter : (record D r command).post.operations.get? id = some after) :
    (∃ error, (record D r command).outcome = .error error ∧
        r.operations.get? id = some after) ∨
      ∃ response, (record D r command).outcome = .ok response ∧
        ((∃ before, r.operations.get? id = some before ∧
            RecordStep D r command response before after) ∨
          r.operations.get? id = none ∧ command = .addOperation after) := by
  rcases record_cases D r command with ⟨error, houtcome, hpost⟩ | ⟨response, houtcome, heffect⟩
  · exact .inl ⟨error, houtcome, by rwa [hpost] at hafter⟩
  · exact .inr ⟨response, houtcome, heffect.recordStep hafter⟩

/-- Operations stay on file. -/
theorem record_stays_filed (D : Digests) (r : Repository) (command : Command) {id : String}
    {before : OutboxOperation} (hbefore : r.operations.get? id = some before) :
    ∃ after, (record D r command).post.operations.get? id = some after := by
  rcases record_cases D r command with ⟨error, -, hpost⟩ | ⟨response, -, heffect⟩
  · exact ⟨before, by rw [hpost, hbefore]⟩
  · exact Option.isSome_iff_exists.mp (heffect.stays_filed (by rw [hbefore]; rfl))

end Outbox
end Ascos
