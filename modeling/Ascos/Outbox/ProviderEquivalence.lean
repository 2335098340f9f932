import Ascos.Library.Simulation
import Ascos.Outbox.Fencing
import Ascos.Outbox.Worker

/-!
# The workers over the two repositories

The workers hold an operation object across repository calls.  In memory it is the
object on record; over a database it is detached by the next mutation.  This module
follows both runs cycle by cycle and finds exactly the cycles that tell them apart:
a failure classified as not retryable, whose category and code are assigned to the
object; a provider outage after the first attempt, whose backoff is computed from
the object's attempt count; and the reconciliation reports that assign its
reconciliation state.

Main results:

- Theorem `attempt_simulates`: up to the handling of a failure both runs agree.
- Theorem `provider_equivalence`: both runs are observably equal after every
  cycle if and only if no cycle tells them apart.
-/

namespace Ascos
namespace Outbox

open Library
open Ascos.Library.Program (RaisesUnchanged ReadOnly exec exec_bind exec_bind_snd_of_readOnly
  exec_get exec_map_snd exec_pure exec_set exec_tryCatch)

variable {D : Digests} {r : Repository}

/-! ## What is observed -/

/-- The observable state of one operation. -/
structure Observation where
  status : OutboxStatus
  attemptCount : Nat
  attempts : List OutboxAttempt
  failureCategory : Option FailureCategory
  failureCode : Option String
  reconciliationState : ReconciliationState
  availableAt : Timestamp
  deadLetterReason : Option String
deriving DecidableEq

def Repository.observe (r : Repository) (id : String) : Option Observation :=
  (r.operations.get? id).map fun operation =>
    { status := operation.status
      attemptCount := operation.attemptCount
      attempts := r.attempts[id]?.getD []
      failureCategory := operation.failureCategory
      failureCode := operation.failureCode
      reconciliationState := operation.reconciliationState
      availableAt := operation.availableAt
      deadLetterReason := operation.deadLetterReason }

def Document.observe (document : Document) (id : String) : Option Observation :=
  (decodeState document).bind fun r => r.observe id

inductive Cycle where
  | dispatch (worker : OutboxWorker) (cycle : OutboxCycle)
  | reconcile (worker : ReconciliationWorker) (cycle : ReconciliationCycle)

def Cycle.run {σ H : Type} (D : Digests) (access : Access σ H) :
    Cycle → Program σ Failure (Option OutboxOperation)
  | .dispatch worker cycle => OutboxWorker.runOne D access worker cycle
  | .reconcile worker cycle => ReconciliationWorker.runOne D access worker cycle

/-- The state after a sequence of cycles; a cycle that raises does not end it. -/
def afterCycles {σ H : Type} (D : Digests) (access : Access σ H) (cycles : List Cycle)
    (s : σ) : σ :=
  cycles.foldl (fun s cycle => (exec (cycle.run D access) s).2) s

/-- After every cycle the two runs are observably equal. -/
def EqualAfterEveryCycle (D : Digests) (cycles : List Cycle) (r : Repository) : Prop :=
  ∀ done, done <+: cycles → ∀ id,
    (afterCycles D database done (encodeState r)).observe id =
      (afterCycles D inMemory done r).observe id

/-! ## Which cycles agree -/

/-- The failure that the outer handler of a dispatch cycle receives, if any, and whether
the operation was marked dispatching before it. -/
def OutboxCycle.failure (cycle : OutboxCycle) (expiry : Timestamp) (request : Request) :
    Option (Failure × Bool) :=
  match cycle.resolve request with
  | .error error => some (error, false)
  | .ok _ =>
    if expiry ≤ cycle.dispatching.validated then
      some (.outbox (.claimExpired "Outbox claim expired"), false)
    else
      match cycle.dispatch request with
      | .error error => some (error, true)
      | .ok reference =>
          if (cycle.apply request reference).isOk ∧ cycle.succeeded.validated < expiry then
            none
          else if expiry ≤ cycle.unconfirmed.validated then
            some (.outbox (.claimExpired "Outbox claim expired"), true)
          else none

/-- The failure does not tell the two runs apart: its category and code are already on
record if they are assigned, and its retry time is the same before and after the attempt
was counted if the operation waits for it. -/
def OutboxCycle.FailureAgrees (worker : OutboxWorker) (cycle : OutboxCycle)
    (expiry : Timestamp) (operation : OutboxOperation) (error : Failure)
    (dispatched : Bool) : Prop :=
  let decision := worker.retryPolicy.classify error operation cycle.classified
  let counted := { operation with
    attemptCount := operation.attemptCount + if dispatched then 1 else 0 }
  match decision.category with
  | .reconciliationRequired => True
  | .retryableImmediate | .retryableBackoff | .rateLimited =>
    expiry ≤ cycle.settled.validated ∨ operation.maximumAttempts ≤ counted.attemptCount ∨
      (worker.retryPolicy.classify error counted cycle.classified).retryAt =
        decision.retryAt
  | .nonRetryable | .unknown =>
    operation.failureCategory = some decision.category ∧
      operation.failureCode = some decision.code

/-- A cycle that does not tell the two runs apart. -/
def Cycle.Agrees (r : Repository) : Cycle → Prop
  | .dispatch worker cycle =>
    ∀ operation ∈ ((r.recover cycle.claimedAt).eligible cycle.claimedAt).head?,
      ∀ error dispatched,
        cycle.failure (cycle.claimedAt + timedelta worker.claimTtlSeconds)
            operation.request = some (error, dispatched) →
          cycle.FailureAgrees worker
            (cycle.claimedAt + timedelta worker.claimTtlSeconds) operation error dispatched
  | .reconcile _ cycle =>
    ∀ operation ∈ r.reconciliationCandidates.head?, ∀ result,
      cycle.reconcile operation.request = .ok result →
        result.status = .inProgress ∨ result.status = .succeeded

/-- Every cycle of a run in memory agrees. -/
def AllAgree (D : Digests) : List Cycle → Repository → Prop
  | [], _ => True
  | cycle :: cycles, r =>
      cycle.Agrees r ∧ AllAgree D cycles (exec (cycle.run D inMemory) r).2

/-! ## Calls in lock step -/

/-- The method is the work of some repository call. -/
def IsCommand {α : Type} (D : Digests) (method : Method α) : Prop :=
  ∃ (command : Command) (f : α → Response), command.run D = f <$> method

theorem recoverOne_request (now : Timestamp) (operation : OutboxOperation) :
    (recoverOne now operation).request = operation.request := by
  unfold recoverOne
  split
  · split <;> rfl
  · rfl

theorem RecordStep.request_eq {command : Command} {response : Response}
    {before after : OutboxOperation} (hstep : RecordStep D r command response before after) :
    after.request = before.request := by
  cases hstep with
  | recovered now => exact recoverOne_request now before
  | recoveredFirst ownerId token ttlSeconds now => exact recoverOne_request now before
  | claimed ownerId token ttlSeconds now => exact recoverOne_request now before
  | _ => rfl

namespace IsCommand

variable {α : Type} {method : Method α}

theorem raisesUnchanged (hmethod : IsCommand D method) : RaisesUnchanged method := by
  obtain ⟨command, f, hrun⟩ := hmethod
  exact .of_map (hrun ▸ run_raisesUnchanged D command)

theorem keeps_request (hmethod : IsCommand D method) {id : String}
    {before : OutboxOperation} (hbefore : r.operations.get? id = some before) :
    ∃ after, (exec method r).2.operations.get? id = some after ∧
      after.request = before.request := by
  obtain ⟨command, f, hrun⟩ := hmethod
  have hpost : (record D r command).post = (exec method r).2 := by
    simp only [record, hrun, exec_map_snd]
  obtain ⟨after, hafter⟩ := record_stays_filed D r command hbefore
  refine ⟨after, hpost ▸ hafter, ?_⟩
  rcases record_inv D r command hafter with
    ⟨error, -, hsame⟩ | ⟨response, -, ⟨found, hfound, hstep⟩ | ⟨hnew, -⟩⟩
  · rw [hbefore, Option.some.injEq] at hsame
    rw [hsame]
  · rw [hbefore, Option.some.injEq] at hfound
    subst hfound
    exact hstep.request_eq
  · rw [hbefore] at hnew
    cases hnew

end IsCommand

/-- The document is the encoded repository, and the operation is on file with a given
request. -/
def LockStep (id : String) (request : Request) (r : Repository) (document : Document) :
    Prop :=
  document = encodeState r ∧
    ∃ operation, r.operations.get? id = some operation ∧ operation.request = request

section LockStep

variable {id : String} {request : Request}

theorem call_simulates {α : Type} {method : Method α} (hmethod : IsCommand D method) :
    Program.Simulates (LockStep id request) (fun a b => a = b)
      (inMemory.call method) (database.call method) := by
  rintro r _ ⟨rfl, operation, hfiled, rfl⟩
  have hmemory : exec (inMemory.call method) r = _ := exec_callInMemory method r
  have hdatabase : exec (database.call method) (encodeState r) = _ :=
    exec_mutate hmethod.raisesUnchanged r
  rw [hmemory, hdatabase]
  refine ⟨?_, rfl, hmethod.keeps_request hfiled⟩
  cases outcome method r <;> rfl

/-- Reading the live object and the detached one gives the same request. -/
theorem read_simulates {detached : OutboxOperation} (hdetached : detached.request = request) :
    Program.Simulates (LockStep id request) (fun a b => a.request = request ∧ b.request = request)
      (inMemory.read id) (database.read detached) := by
  rintro r _ ⟨rfl, operation, hfiled, hrequest⟩
  have hmemory : exec (inMemory.read id) r = _ :=
    exec_callInMemory (getOperation id) r
  rw [hmemory]
  simp only [outcome, exec_getOperation, hfiled]
  exact ⟨⟨hrequest, hdetached⟩, rfl, operation, hfiled, hrequest⟩

theorem outside_simulates {α : Type} (result : Except Failure α) :
    Program.Simulates (LockStep id request) (fun a b => a = b) (outside result)
      (outside result) := by
  cases result with
  | ok a => exact .pure rfl
  | error error => exact .throw error

/-- Up to the handling of a failure the two runs of a dispatch cycle agree. -/
theorem attempt_simulates (cycle : OutboxCycle) (claim : OutboxClaim) (id : String)
    (detached : OutboxOperation) (hdetached : detached.request = request) :
    Program.Simulates (LockStep id request) (fun a b => a = b)
      (OutboxWorker.attempt D inMemory cycle claim id)
      (OutboxWorker.attempt D database cycle claim detached) := by
  refine (read_simulates hdetached).bind ?_
  rintro item item' ⟨hitem, hitem'⟩
  rw [hitem, hitem']
  refine (outside_simulates _).bind fun _ _ _ => ?_
  refine (call_simulates ⟨.markDispatching claim _ _, _, rfl⟩).bind fun _ _ _ => ?_
  refine (read_simulates hdetached).bind ?_
  rintro item item' ⟨hitem, hitem'⟩
  rw [hitem, hitem']
  refine (outside_simulates _).bind ?_
  rintro reference _ rfl
  refine .tryCatch ?_ fun _ => ?_
  · refine (outside_simulates _).bind fun _ _ _ => ?_
    exact call_simulates ⟨.markSucceeded claim reference _ _, _, rfl⟩
  · exact call_simulates ⟨.markReconciliationRequired claim _ _ _, _, rfl⟩

end LockStep

theorem call_agrees {α : Type} {method : Method α} (hmethod : IsCommand D method)
    (r : Repository) :
    (exec (database.call method) (encodeState r)).2 =
      encodeState (exec (inMemory.call method) r).2 := by
  have hmemory : exec (inMemory.call method) r = _ := exec_callInMemory method r
  have hdatabase : exec (database.call method) (encodeState r) = _ :=
    exec_mutate hmethod.raisesUnchanged r
  rw [hmemory, hdatabase]

/-! ## The claimed operation in memory -/

/-- The operation a claim is on record of, with the recorded expiry. -/
structure Holding (D : Digests) (r : Repository) (claim : OutboxClaim)
    (operation : OutboxOperation) (expiry : Timestamp) : Prop where
  filed : r.operations.get? claim.operationId = some operation
  recorded : onRecord operation = some (claim.identity D)
  expires : operation.claimExpiresAt = some expiry

namespace Holding

variable {claim : OutboxClaim} {operation : OutboxOperation} {expiry t₀ now : Timestamp}

theorem operationId_eq (hold : Holding D r claim operation expiry) :
    operation.operationId = claim.operationId :=
  OperationTable.operationId_of_get? hold.filed

/-- The claim passes until its recorded expiry. -/
theorem verdict (hold : Holding D r claim operation expiry) (t₀ : Timestamp) :
    claimVerdict D r claim t₀ =
      if expiry ≤ t₀ then .error (.claimExpired "Outbox claim expired")
      else .ok operation := by
  by_cases hlate : expiry ≤ t₀
  · simp [claimVerdict, hold.filed, hold.expires, hlate]
  · rw [if_neg hlate]
    exact claimVerdict_ok_iff.mpr
      ⟨hold.filed, hold.recorded, expiry, hold.expires, not_le.mp hlate⟩

/-- Writing a record with the same claim keeps the claim on record. -/
theorem put (hold : Holding D r claim operation expiry) {written : OutboxOperation}
    {r' : Repository} (hr' : r'.operations = r.operations.put written)
    (hkey : written.operationId = operation.operationId)
    (hrecord : onRecord written = onRecord operation)
    (hexpires : written.claimExpiresAt = operation.claimExpiresAt) :
    Holding D r' claim written expiry where
  filed := by
    rw [hr', OperationTable.get?_put, if_pos (hkey.trans hold.operationId_eq)]
  recorded := hrecord.trans hold.recorded
  expires := hexpires.trans hold.expires

/-- `mark_dispatching` on a claimed operation. -/
theorem exec_markDispatching (hold : Holding D r claim operation expiry)
    (hstatus : operation.status = .claimed) (t₀ now : Timestamp) :
    if expiry ≤ t₀ then
      exec (callInMemory (markDispatching D claim t₀ now)) r =
        (.error (.outbox (.claimExpired "Outbox claim expired")), r)
    else
      ∃ r', exec (callInMemory (markDispatching D claim t₀ now)) r =
          (.ok (dispatchedRecord now operation), r') ∧
        Holding D r' claim (dispatchedRecord now operation) expiry := by
  rw [exec_callInMemory, outcome]
  split
  · rename_i hlate
    simp [markDispatching, hold.verdict, hlate, Except.mapError]
  · rename_i hlive
    refine ⟨(exec (markDispatching D claim t₀ now) r).2, ?_, ?_⟩
    · simp [markDispatching, hold.verdict, hlive, hstatus, Except.mapError]
    · refine hold.put ?_ rfl rfl rfl
      simp [markDispatching, hold.verdict, hlive, hstatus]

/-- `mark_succeeded` on a dispatching operation. -/
theorem exec_markSucceeded (hold : Holding D r claim operation expiry)
    (hstatus : operation.status = .dispatching) (reference : String) (t₀ now : Timestamp) :
    if expiry ≤ t₀ then
      exec (callInMemory (markSucceeded D claim reference t₀ now)) r =
        (.error (.outbox (.claimExpired "Outbox claim expired")), r)
    else
      ∃ r', exec (callInMemory (markSucceeded D claim reference t₀ now)) r =
        (.ok (succeededRecord reference now operation), r') := by
  rw [exec_callInMemory, outcome]
  split
  · rename_i hlate
    simp [markSucceeded, hold.verdict, hlate, Except.mapError]
  · rename_i hlive
    refine ⟨(exec (markSucceeded D claim reference t₀ now) r).2, ?_⟩
    simp [markSucceeded, hold.verdict, hlive, hstatus, Except.mapError]

/-- `mark_reconciliation_required` on a claimed or dispatching operation. -/
theorem exec_markReconciliationRequired (hold : Holding D r claim operation expiry)
    (code : String) (t₀ now : Timestamp) :
    if expiry ≤ t₀ then
      exec (callInMemory (markReconciliationRequired D claim code t₀ now)) r =
        (.error (.outbox (.claimExpired "Outbox claim expired")), r)
    else
      ∃ r', exec (callInMemory (markReconciliationRequired D claim code t₀ now)) r =
        (.ok (uncertainRecord code operation), r') := by
  rw [exec_callInMemory, outcome]
  split
  · rename_i hlate
    simp [markReconciliationRequired, hold.verdict, hlate, Except.mapError]
  · rename_i hlive
    refine ⟨(exec (markReconciliationRequired D claim code t₀ now) r).2, ?_⟩
    simp [markReconciliationRequired, hold.verdict, hlive, Except.mapError]

theorem exec_read (hold : Holding D r claim operation expiry) :
    exec (inMemory.read claim.operationId) r = (.ok operation, r) := by
  have hread : exec (inMemory.read claim.operationId) r = _ :=
    exec_callInMemory (getOperation claim.operationId) r
  simpa [outcome, hold.filed, Except.mapError] using hread

theorem exec_assign (hold : Holding D r claim operation expiry)
    (update : OutboxOperation → OutboxOperation) :
    exec (inMemory.assign update claim.operationId) r =
      (.ok claim.operationId,
        { r with operations := r.operations.put (update operation) }) := by
  simp [inMemory, exec_callInMemory, outcome, hold.filed, Except.mapError]

end Holding

/-- The inner `try` of a dispatch cycle in memory: either the result is applied and
confirmed while the claim lasts, or the outcome is left uncertain. -/
theorem exec_confirm (cycle : OutboxCycle) {claim : OutboxClaim}
    {operation : OutboxOperation} {expiry : Timestamp}
    (hold : Holding D r claim operation expiry) (hstatus : operation.status = .dispatching)
    (request : Request) (reference : String) :
    if (cycle.apply request reference).isOk ∧ cycle.succeeded.validated < expiry then
      ∃ result r', exec (OutboxWorker.confirm D inMemory cycle claim request
        reference) r = (.ok result, r')
    else
      exec (OutboxWorker.confirm D inMemory cycle claim request reference) r =
        exec (callInMemory (markReconciliationRequired D claim
          "LOCAL_RESULT_UNCONFIRMED" cycle.unconfirmed.validated cycle.unconfirmed.now)) r := by
  have hsucceed := hold.exec_markSucceeded hstatus reference
    cycle.succeeded.validated cycle.succeeded.now
  simp only [OutboxWorker.confirm, exec_tryCatch, exec_bind, exec_outside,
    inMemory_call]
  cases happly : cycle.apply request reference with
  | error error => exact rfl
  | ok _ =>
    by_cases hlive : cycle.succeeded.validated < expiry
    · rw [if_neg (not_le.mpr hlive)] at hsucceed
      obtain ⟨done, hdone⟩ := hsucceed
      rw [if_pos ⟨rfl, hlive⟩]
      simp only [hdone]
      exact ⟨_, done, rfl⟩
    · rw [if_pos (not_lt.mp hlive)] at hsucceed
      rw [if_neg fun h => hlive h.2]
      simp only [hsucceed]

/-- The body of a dispatch cycle in memory: it fails exactly as `OutboxCycle.failure`
says, with the claim still on record. -/
theorem exec_attempt (cycle : OutboxCycle) {claim : OutboxClaim}
    {operation : OutboxOperation} {expiry : Timestamp}
    (hold : Holding D r claim operation expiry) (hstatus : operation.status = .claimed) :
    match cycle.failure expiry operation.request with
    | none =>
        ∃ result r', exec (OutboxWorker.attempt D inMemory cycle claim
          claim.operationId) r = (.ok result, r')
    | some (error, dispatched) =>
        ∃ r', exec (OutboxWorker.attempt D inMemory cycle claim
            claim.operationId) r = (.error error, r') ∧
          Holding D r' claim
            (if dispatched then dispatchedRecord cycle.dispatching.now operation
              else operation) expiry := by
  simp only [OutboxWorker.attempt, OutboxCycle.failure, exec_bind, hold.exec_read,
    exec_outside, inMemory_call]
  cases hresolve : cycle.resolve operation.request with
  | error error => exact ⟨r, rfl, hold⟩
  | ok _ =>
    have hmark := hold.exec_markDispatching hstatus cycle.dispatching.validated
      cycle.dispatching.now
    by_cases hlate : expiry ≤ cycle.dispatching.validated
    · rw [if_pos hlate] at hmark
      simp only [hmark, if_pos hlate]
      exact ⟨r, rfl, hold⟩
    rw [if_neg hlate] at hmark
    obtain ⟨marked, hexec, hold'⟩ := hmark
    have hrequest : (dispatchedRecord cycle.dispatching.now operation).request =
        operation.request := rfl
    simp only [hexec, if_neg hlate, hold'.exec_read, hrequest]
    cases hdispatch : cycle.dispatch operation.request with
    | error error => exact ⟨marked, rfl, hold'⟩
    | ok reference =>
        have hconfirm := exec_confirm cycle hold' rfl operation.request reference
        dsimp only
        by_cases hconfirmed : (cycle.apply operation.request reference).isOk ∧
            cycle.succeeded.validated < expiry
        · rw [if_pos hconfirmed] at hconfirm ⊢
          exact hconfirm
        rw [if_neg hconfirmed] at hconfirm ⊢
        have huncertain := hold'.exec_markReconciliationRequired "LOCAL_RESULT_UNCONFIRMED"
          cycle.unconfirmed.validated cycle.unconfirmed.now
        by_cases hlost : expiry ≤ cycle.unconfirmed.validated
        · rw [if_pos hlost] at huncertain ⊢
          exact ⟨marked, hconfirm.trans huncertain, hold'⟩
        · rw [if_neg hlost] at huncertain ⊢
          obtain ⟨done, hdone⟩ := huncertain
          exact ⟨_, done, hconfirm.trans hdone⟩

/-! ## The handler of a failure -/

/-- Writing a record that is already on file changes nothing. -/
theorem OperationTable.put_of_get? {table : OperationTable} {operation : OutboxOperation}
    (h : table.get? operation.operationId = some operation) : table.put operation = table := by
  apply ext_get?
  intro id
  rw [get?_put]
  split
  · rename_i hid
    rw [← hid, h]
  · rfl

theorem Holding.get?_markDeadLetter {claim : OutboxClaim} {operation : OutboxOperation}
    {expiry : Timestamp} (hold : Holding D r claim operation expiry) (reason : String)
    (t₀ now : Timestamp) :
    ∃ after, (exec (inMemory.call (markDeadLetter D claim reason t₀ now))
        r).2.operations.get? claim.operationId = some after ∧
      after.failureCategory = operation.failureCategory ∧
        after.failureCode = operation.failureCode ∧
          after.reconciliationState = operation.reconciliationState := by
  rw [inMemory_call, exec_callInMemory]
  by_cases hlate : expiry ≤ t₀
  · refine ⟨operation, ?_, rfl, rfl, rfl⟩
    simp [markDeadLetter, hold.verdict, hlate, hold.filed]
  · refine ⟨deadLetterRecord reason now operation, ?_, rfl, rfl, rfl⟩
    simp [markDeadLetter, deadLetter, hold.verdict, hlate, deadLetterRecord,
      hold.operationId_eq]

theorem Holding.get?_releaseClaim {claim : OutboxClaim} {operation : OutboxOperation}
    {expiry : Timestamp} (hold : Holding D r claim operation expiry)
    (hstatus : operation.status = .claimed) (t₀ : Timestamp) :
    ∃ after, (exec (inMemory.call (releaseClaim D claim t₀)) r).2.operations.get?
        claim.operationId = some after ∧
      after.reconciliationState = operation.reconciliationState := by
  rw [inMemory_call, exec_callInMemory]
  by_cases hlate : expiry ≤ t₀
  · refine ⟨operation, ?_, rfl⟩
    simp [releaseClaim, hold.verdict, hlate, hold.filed]
  · refine ⟨{ clearClaim operation with status := .pending }, ?_, rfl⟩
    simp [releaseClaim, hold.verdict, hlate, hstatus, hold.operationId_eq]

@[simp]
theorem observe_encodeState (r : Repository) (id : String) :
    (encodeState r).observe id = r.observe id := by
  simp [Document.observe]

/-- An unretryable failure: the two runs agree exactly if its fields are on record. -/
theorem dead_letter_agrees {claim : OutboxClaim} {operation detached : OutboxOperation}
    {expiry : Timestamp} (hold : Holding D r claim operation expiry)
    (category : FailureCategory) (code : String) (t₀ now : Timestamp) :
    let memory := (exec (do
      let _ ← inMemory.assign (failedRecord category code) claim.operationId
      inMemory.call (markDeadLetter D claim code t₀ now)) r).2
    let stored := (exec (do
      let _ ← database.assign (failedRecord category code) detached
      database.call (markDeadLetter D claim code t₀ now)) (encodeState r)).2
    (operation.failureCategory = some category ∧ operation.failureCode = some code →
        stored = encodeState memory) ∧
      ((∀ id, stored.observe id = memory.observe id) →
        operation.failureCategory = some category ∧ operation.failureCode = some code) := by
  have hcommand : IsCommand D (markDeadLetter D claim code t₀ now) :=
    ⟨.markDeadLetter claim code t₀ now, _, rfl⟩
  intro memory stored
  have hmemory : memory = (exec (inMemory.call (markDeadLetter D claim code t₀ now))
      { r with operations := r.operations.put (failedRecord category code operation) }).2 := by
    simp only [memory, exec_bind, hold.exec_assign]
  have hstored : stored = encodeState
      (exec (inMemory.call (markDeadLetter D claim code t₀ now)) r).2 := by
    rw [← call_agrees hcommand]
    rfl
  refine ⟨?_, fun hequal => ?_⟩
  · rintro ⟨hcategory, hcode⟩
    have hsame : failedRecord category code operation = operation := by
      rw [failedRecord, ← hcategory, ← hcode]
    have hput : r.operations.put operation = r.operations :=
      OperationTable.put_of_get? (by rw [hold.operationId_eq]; exact hold.filed)
    rw [hstored, hmemory, hsame, hput]
  · have hwritten : Holding D
        { r with operations := r.operations.put (failedRecord category code operation) } claim
        (failedRecord category code operation) expiry := hold.put rfl rfl rfl rfl
    obtain ⟨after, hafter, hcategory, hcode, -⟩ := hwritten.get?_markDeadLetter code t₀ now
    obtain ⟨kept, hkept, hcategory', hcode', -⟩ := hold.get?_markDeadLetter code t₀ now
    have hobserved := hequal claim.operationId
    rw [hstored, observe_encodeState, hmemory] at hobserved
    simp only [Repository.observe, hafter, hkept, Option.map_some, Option.some.injEq,
      Observation.mk.injEq] at hobserved
    rw [← hcategory', ← hcode', hobserved.2.2.2.1, hobserved.2.2.2.2.1, hcategory, hcode]
    exact ⟨rfl, rfl⟩

theorem retry_wait_agrees {claim : OutboxClaim} {operation : OutboxOperation}
    {expiry : Timestamp} (hold : Holding D r claim operation expiry)
    (category : FailureCategory) (code : String) (retryAt retryAt' t₀ now : Timestamp) :
    let memory := (exec (inMemory.call
      (markRetryWait D claim category code retryAt t₀ now)) r).2
    let stored := (exec (database.call
      (markRetryWait D claim category code retryAt' t₀ now)) (encodeState r)).2
    (expiry ≤ t₀ ∨ operation.maximumAttempts ≤ operation.attemptCount ∨ retryAt = retryAt' →
        stored = encodeState memory) ∧
      ((∀ id, stored.observe id = memory.observe id) →
        expiry ≤ t₀ ∨ operation.maximumAttempts ≤ operation.attemptCount ∨
          retryAt = retryAt') := by
  have hcommand : IsCommand D (markRetryWait D claim category code retryAt' t₀ now) :=
    ⟨.markRetryWait claim category code retryAt' t₀ now, _, rfl⟩
  intro memory stored
  have hstored : stored = encodeState (exec (inMemory.call
      (markRetryWait D claim category code retryAt' t₀ now)) r).2 := call_agrees hcommand r
  simp only [inMemory_call, exec_callInMemory] at hstored
  have hmemory : memory = (exec
      (markRetryWait D claim category code retryAt t₀ now) r).2 := by
    simp only [memory, inMemory_call, exec_callInMemory]
  by_cases hlate : expiry ≤ t₀
  · refine ⟨fun _ => ?_, fun _ => .inl hlate⟩
    rw [hstored, hmemory]
    simp [markRetryWait, hold.verdict, hlate]
  by_cases hexhausted : operation.maximumAttempts ≤ operation.attemptCount
  · refine ⟨fun _ => ?_, fun _ => .inr (.inl hexhausted)⟩
    rw [hstored, hmemory]
    simp [markRetryWait, hold.verdict, hlate, failedRecord, hexhausted]
  refine ⟨?_, fun hequal => .inr (.inr ?_)⟩
  · rintro (h | h | rfl)
    · exact absurd h hlate
    · exact absurd h hexhausted
    · rw [hstored, hmemory]
  · have hobserved := hequal claim.operationId
    rw [hstored, observe_encodeState, hmemory] at hobserved
    simp [markRetryWait, hold.verdict, hlate, failedRecord, hexhausted, Repository.observe,
      waitingRecord, clearClaim, hold.operationId_eq] at hobserved
    exact hobserved.symm

/-- A failure whose handling over the record and over the detached object agrees. -/
def HandlingAgrees (worker : OutboxWorker) (cycle : OutboxCycle) (expiry : Timestamp)
    (operation detached : OutboxOperation) (error : Failure) : Prop :=
  let decision := worker.retryPolicy.classify error operation cycle.classified
  match decision.category with
  | .reconciliationRequired => True
  | .retryableImmediate | .retryableBackoff | .rateLimited =>
    expiry ≤ cycle.settled.validated ∨ operation.maximumAttempts ≤ operation.attemptCount ∨
      decision.retryAt = (worker.retryPolicy.classify error detached cycle.classified).retryAt
  | .nonRetryable | .unknown =>
    operation.failureCategory = some decision.category ∧
      operation.failureCode = some decision.code

theorem handleFailure_agrees (worker : OutboxWorker) (cycle : OutboxCycle)
    {claim : OutboxClaim} {operation : OutboxOperation} {expiry : Timestamp}
    (hold : Holding D r claim operation expiry) (detached : OutboxOperation)
    (error : Failure) :
    let memory := (exec (OutboxWorker.handleFailure D inMemory worker cycle claim
      claim.operationId error) r).2
    let stored := (exec (OutboxWorker.handleFailure D database worker cycle claim
      detached error) (encodeState r)).2
    (HandlingAgrees worker cycle expiry operation detached error →
        stored = encodeState memory) ∧
      ((∀ id, stored.observe id = memory.observe id) →
        HandlingAgrees worker cycle expiry operation detached error) := by
  intro memory stored
  simp only [memory, stored, OutboxWorker.handleFailure, exec_bind, hold.exec_read,
    exec_database_read]
  cases error with
  | authentication => exact dead_letter_agrees hold _ _ _ _
  | outbox error => exact dead_letter_agrees hold _ _ _ _
  | other className => exact dead_letter_agrees hold _ _ _ _
  | timeout =>
    refine ⟨fun _ => call_agrees ⟨.markReconciliationRequired claim _ _ _, _, rfl⟩ r, ?_⟩
    exact fun _ => trivial
  | rateLimit retryAfterSeconds =>
    refine ⟨fun _ => call_agrees ⟨.markRetryWait claim _ _ _ _ _, _, rfl⟩ r, ?_⟩
    exact fun _ => .inr (.inr rfl)
  | unavailable =>
    simp only [HandlingAgrees, RetryPolicy.classify, Option.getD_some, Option.some.injEq]
    exact retry_wait_agrees hold _ _ _ _ _ _

/-! ## Whole cycles -/

/-- The effect of `claim_next`. -/
theorem exec_claimNext (ownerId token : String) (ttlSeconds : Int) (now : Timestamp)
    (r : Repository) :
    exec (claimNext D ownerId token ttlSeconds now) r =
      match ((r.recover now).eligible now).head? with
      | none => (.ok none, r.recover now)
      | some operation =>
          (.ok (some (issuedClaim ownerId token now ttlSeconds operation)),
            { r.recover now with
              operations := (r.recover now).operations.put
                (claimedRecord D ownerId token now ttlSeconds operation) }) := by
  simp only [claimNext, recoverExpired, exec_bind, exec_get,
    exec_set, exec_pure]
  cases ((r.recover now).eligible now).head? <;> rfl

/-- The effect of `claim_reconciliation`. -/
theorem exec_claimReconciliation (ownerId token : String) (ttlSeconds : Int)
    (now : Timestamp) (r : Repository) :
    exec (claimReconciliation D ownerId token ttlSeconds now) r =
      match r.reconciliationCandidates.head? with
      | none => (.ok none, r)
      | some operation =>
          (.ok (some (issuedClaim ownerId token now ttlSeconds operation)),
            { r with
              operations := r.operations.put (claimedRecord D ownerId token now ttlSeconds
                { operation with reconciliationState := .inProgress }) }) := by
  simp only [claimReconciliation, exec_bind, exec_get]
  cases r.reconciliationCandidates.head? <;> rfl

theorem holding_claimedRecord {r' : Repository} (ownerId token : String) (now : Timestamp)
    (ttlSeconds : Int) (operation : OutboxOperation) {table : OperationTable}
    (hr' : r'.operations = table.put (claimedRecord D ownerId token now ttlSeconds operation)) :
    Holding D r' (issuedClaim ownerId token now ttlSeconds operation)
      (claimedRecord D ownerId token now ttlSeconds operation) (now + timedelta ttlSeconds) where
  filed := by
    rw [hr', OperationTable.get?_put]
    exact if_pos rfl
  recorded := rfl
  expires := rfl

theorem exec_getOperation_of_holding {claim : OutboxClaim} {operation : OutboxOperation}
    {expiry : Timestamp} (hold : Holding D r claim operation expiry) :
    exec (inMemory.getOperation claim.operationId) r = (.ok claim.operationId, r) ∧
      exec (database.getOperation claim.operationId) (encodeState r) =
        (.ok operation, encodeState r) := by
  refine ⟨?_, ?_⟩
  · simp [inMemory, exec_callInMemory, outcome, hold.filed, hold.operationId_eq,
      Except.mapError]
  · simp [exec_database_getOperation, outcome, hold.filed, Except.mapError]

theorem claimed_dispatch_agrees (worker : OutboxWorker) (cycle : OutboxCycle)
    {claim : OutboxClaim} {held : OutboxOperation} {expiry : Timestamp}
    (hold : Holding D r claim held expiry) (hstatus : held.status = .claimed) :
    let memory := (exec (tryCatch
      (OutboxWorker.attempt D inMemory cycle claim claim.operationId)
      (OutboxWorker.handleFailure D inMemory worker cycle claim claim.operationId)) r).2
    let stored := (exec (tryCatch
      (OutboxWorker.attempt D database cycle claim held)
      (OutboxWorker.handleFailure D database worker cycle claim held)) (encodeState r)).2
    ((∀ error dispatched, cycle.failure expiry held.request = some (error, dispatched) →
        cycle.FailureAgrees worker expiry held error dispatched) →
          stored = encodeState memory) ∧
      ((∀ id, stored.observe id = memory.observe id) →
        ∀ error dispatched, cycle.failure expiry held.request = some (error, dispatched) →
          cycle.FailureAgrees worker expiry held error dispatched) := by
  intro memory stored
  simp only [memory, stored, exec_tryCatch]
  obtain ⟨hrelated, hstate, -⟩ := attempt_simulates (D := D) cycle claim
    claim.operationId held rfl r (encodeState r) ⟨rfl, held, hold.filed, rfl⟩
  have hattempt := exec_attempt cycle hold hstatus
  rcases hdatabase : exec (OutboxWorker.attempt D database cycle claim held)
    (encodeState r) with ⟨result', document⟩
  rw [hdatabase] at hrelated hstate
  cases hfailure : cycle.failure expiry held.request with
  | none =>
    rw [hfailure] at hattempt
    obtain ⟨result, r', hexec⟩ := hattempt
    rw [hexec] at hrelated hstate
    obtain rfl : document = encodeState r' := hstate
    cases result' with
    | error error => exact hrelated.elim
    | ok result' => exact ⟨fun _ => by rw [hexec], fun _ _ _ h => by cases h⟩
  | some failure =>
    obtain ⟨error, dispatched⟩ := failure
    rw [hfailure] at hattempt
    obtain ⟨r', hexec, hold'⟩ := hattempt
    rw [hexec] at hrelated hstate
    obtain rfl : document = encodeState r' := hstate
    cases result' with
    | ok result' => exact hrelated.elim
    | error error' =>
        obtain rfl : error = error' := hrelated
        have hhandled := handleFailure_agrees worker cycle hold' held error
        have hsame : HandlingAgrees worker cycle expiry
            (if dispatched then dispatchedRecord cycle.dispatching.now held else held)
            held error ↔ cycle.FailureAgrees worker expiry held error dispatched := by
          cases dispatched <;> cases error <;> exact Iff.rfl
        rw [hsame] at hhandled
        simp only [hexec]
        refine ⟨fun h => hhandled.1 (h error dispatched rfl), fun hequal => ?_⟩
        rintro _ _ ⟨⟩
        exact hhandled.2 hequal

theorem dispatch_agrees (worker : OutboxWorker) (cycle : OutboxCycle) (r : Repository) :
    let memory := (exec (OutboxWorker.runOne D inMemory worker cycle) r).2
    let stored := (exec (OutboxWorker.runOne D database worker cycle)
      (encodeState r)).2
    ((Cycle.dispatch worker cycle).Agrees r → stored = encodeState memory) ∧
      ((∀ id, stored.observe id = memory.observe id) →
        (Cycle.dispatch worker cycle).Agrees r) := by
  intro memory stored
  have hcommand : IsCommand D (claimNext D worker.workerId cycle.token
      worker.claimTtlSeconds cycle.claimedAt) := ⟨.claimNext _ _ _ _, _, rfl⟩
  have hmemory : exec (inMemory.call (claimNext D worker.workerId cycle.token
      worker.claimTtlSeconds cycle.claimedAt)) r = _ := exec_callInMemory _ r
  have hdatabase : exec (database.call (claimNext D worker.workerId cycle.token
      worker.claimTtlSeconds cycle.claimedAt)) (encodeState r) = _ :=
    exec_mutate hcommand.raisesUnchanged r
  simp only [outcome, exec_claimNext] at hmemory hdatabase
  simp only [memory, stored, OutboxWorker.runOne, exec_bind, hmemory, hdatabase,
    Cycle.Agrees]
  cases hhead : ((r.recover cycle.claimedAt).eligible cycle.claimedAt).head? with
  | none => exact ⟨fun _ => rfl, fun _ _ h => by cases h⟩
  | some operation =>
    have hold : Holding D { r.recover cycle.claimedAt with
          operations := (r.recover cycle.claimedAt).operations.put
            (claimedRecord D worker.workerId cycle.token cycle.claimedAt
              worker.claimTtlSeconds operation) }
        (issuedClaim worker.workerId cycle.token cycle.claimedAt worker.claimTtlSeconds
          operation)
        (claimedRecord D worker.workerId cycle.token cycle.claimedAt
          worker.claimTtlSeconds operation)
        (cycle.claimedAt + timedelta worker.claimTtlSeconds) :=
      holding_claimedRecord worker.workerId cycle.token cycle.claimedAt
        worker.claimTtlSeconds operation rfl
    obtain ⟨hget, hget'⟩ := exec_getOperation_of_holding hold
    simp only [Except.mapError, exec_bind, hget, hget', exec_map_snd,
      Option.mem_some_iff, forall_eq']
    -- the claim assigns nothing the failure depends on
    have hsame : ∀ error dispatched, cycle.FailureAgrees worker
        (cycle.claimedAt + timedelta worker.claimTtlSeconds)
        (claimedRecord D worker.workerId cycle.token cycle.claimedAt
          worker.claimTtlSeconds operation) error dispatched ↔
        cycle.FailureAgrees worker (cycle.claimedAt + timedelta worker.claimTtlSeconds)
          operation error dispatched := by
      intro error dispatched
      cases error <;> exact Iff.rfl
    have hclaimed := claimed_dispatch_agrees worker cycle hold rfl
    simp only [hsame] at hclaimed
    exact hclaimed

/-- A method keeps the reconciliation state of the operation a claim is held for. -/
def KeepsState {α : Type} (D : Digests) (claim : OutboxClaim) (expiry : Timestamp)
    (method : Method α) : Prop :=
  ∀ (r : Repository) (operation : OutboxOperation), Holding D r claim operation expiry →
    operation.status = .claimed →
      ∃ after, (exec (inMemory.call method) r).2.operations.get? claim.operationId =
          some after ∧
        after.reconciliationState = operation.reconciliationState

theorem assigned_state_differs {α : Type} {method : Method α} {claim : OutboxClaim}
    {held : OutboxOperation} {expiry : Timestamp} (state : ReconciliationState)
    (hcommand : IsCommand D method) (hkeeps : KeepsState D claim expiry method)
    (hold : Holding D r claim held expiry) (hstatus : held.status = .claimed)
    (hne : held.reconciliationState ≠ state) :
    ¬ ∀ id, (exec (database.call method) (encodeState r)).2.observe id =
      (exec (inMemory.call method) (Repository.mk
        (r.operations.put (reconciledRecord state held)) r.attempts
        r.idempotency r.providerPauses)).2.observe id := by
  intro hequal
  have hwritten : Holding D (Repository.mk
      (r.operations.put (reconciledRecord state held)) r.attempts
      r.idempotency r.providerPauses) claim (reconciledRecord state held) expiry :=
    hold.put rfl rfl rfl rfl
  obtain ⟨after, hafter, hafterState⟩ := hkeeps _ _ hwritten hstatus
  obtain ⟨kept, hkept, hkeptState⟩ := hkeeps _ _ hold hstatus
  have hobserved := hequal claim.operationId
  rw [call_agrees hcommand, observe_encodeState] at hobserved
  simp only [Repository.observe, hafter, hkept, Option.map_some, Option.some.injEq,
    Observation.mk.injEq] at hobserved
  rw [hkeptState, hafterState] at hobserved
  exact hne hobserved.2.2.2.2.2.1

theorem keepsState_markDeadLetter (claim : OutboxClaim) (expiry : Timestamp)
    (reason : String) (t₀ now : Timestamp) :
    KeepsState D claim expiry (markDeadLetter D claim reason t₀ now) := by
  intro r operation hold _
  obtain ⟨after, hafter, -, -, hstate⟩ := hold.get?_markDeadLetter reason t₀ now
  exact ⟨after, hafter, hstate⟩

theorem keepsState_releaseClaim (claim : OutboxClaim) (expiry t₀ : Timestamp) :
    KeepsState D claim expiry (releaseClaim D claim t₀) :=
  fun _ _ hold hstatus => hold.get?_releaseClaim hstatus t₀

theorem readOnly_inMemory_read (id : String) : ReadOnly (inMemory.read id) := by
  intro r
  have hread : exec (inMemory.read id) r = _ := exec_callInMemory (getOperation id) r
  rw [hread]
  exact readOnly_getOperation id r

/-- The provider's report after a reconciliation claim: the two runs agree exactly if it
assigns nothing. -/
theorem settle_agrees {cycle : ReconciliationCycle} {claim : OutboxClaim}
    {held : OutboxOperation} {expiry : Timestamp} (hold : Holding D r claim held expiry)
    (hstatus : held.status = .claimed) (hstate : held.reconciliationState = .inProgress)
    (result : ProviderReconciliationResult) :
    let memory := (exec (ReconciliationWorker.settle D inMemory cycle claim
      claim.operationId result) r).2
    let stored := (exec (ReconciliationWorker.settle D database cycle claim held
      result) (encodeState r)).2
    (result.status = .inProgress ∨ result.status = .succeeded →
        stored = encodeState memory) ∧
      ((∀ id, stored.observe id = memory.observe id) →
        result.status = .inProgress ∨ result.status = .succeeded) := by
  intro memory stored
  cases hreport : result.status with
  | inProgress =>
    refine ⟨fun _ => ?_, fun _ => .inl rfl⟩
    simp only [memory, stored, ReconciliationWorker.settle, hreport]
    exact call_agrees ⟨.markReconciliationRequired claim _ _ _, _, rfl⟩ r
  | succeeded =>
    refine ⟨fun _ => ?_, fun _ => .inr rfl⟩
    simp only [memory, stored, ReconciliationWorker.settle, hreport, exec_bind,
      hold.exec_read, exec_outside, exec_database_read]
    cases cycle.apply held.request result.dispatchResult with
    | error error => rfl
    | ok _ =>
        cases result.dispatchResult with
        | none => rfl
        | some reference =>
            exact call_agrees ⟨.markSucceeded claim reference _ _, _, rfl⟩ r
  | notExecuted =>
    refine ⟨fun h => by simp at h, fun hequal => ?_⟩
    refine absurd ?_ (assigned_state_differs .resolved
      ⟨.releaseClaim claim cycle.settled.validated, _, rfl⟩
      (keepsState_releaseClaim claim expiry _) hold hstatus (by simp [hstate]))
    have hstored : stored = (exec (database.call (releaseClaim D claim
        cycle.settled.validated)) (encodeState r)).2 := by
      simp only [stored, ReconciliationWorker.settle, hreport]
      rw [exec_bind]
      exact exec_bind_snd_of_readOnly (fun _ _ => rfl) _
    have hmemory : memory = (exec (inMemory.call (releaseClaim D claim
        cycle.settled.validated)) { r with
          operations := r.operations.put (reconciledRecord .resolved held) }).2 := by
      simp only [memory, ReconciliationWorker.settle, hreport]
      rw [exec_bind, hold.exec_assign]
      exact exec_bind_snd_of_readOnly (fun _ => readOnly_inMemory_read _) _
    rwa [hstored, hmemory] at hequal
  | failed =>
    refine ⟨fun h => by simp at h, fun hequal => ?_⟩
    refine absurd ?_ (assigned_state_differs .unverifiable
      ⟨.markDeadLetter claim "Provider confirmed failure" cycle.settled.validated
        cycle.settled.now, _, rfl⟩
      (keepsState_markDeadLetter claim expiry _ _ _) hold hstatus (by simp [hstate]))
    simp only [memory, stored, ReconciliationWorker.settle, hreport, exec_bind,
      hold.exec_assign] at hequal
    exact hequal
  | unverifiable =>
    refine ⟨fun h => by simp at h, fun hequal => ?_⟩
    refine absurd ?_ (assigned_state_differs .unverifiable
      ⟨.markDeadLetter claim "Provider outcome unverifiable" cycle.settled.validated
        cycle.settled.now, _, rfl⟩
      (keepsState_markDeadLetter claim expiry _ _ _) hold hstatus (by simp [hstate]))
    simp only [memory, stored, ReconciliationWorker.settle, hreport, exec_bind,
      hold.exec_assign] at hequal
    exact hequal

theorem reconcile_agrees (worker : ReconciliationWorker) (cycle : ReconciliationCycle)
    (r : Repository) :
    let memory := (exec (ReconciliationWorker.runOne D inMemory worker cycle) r).2
    let stored := (exec (ReconciliationWorker.runOne D database worker cycle)
      (encodeState r)).2
    ((Cycle.reconcile worker cycle).Agrees r → stored = encodeState memory) ∧
      ((∀ id, stored.observe id = memory.observe id) →
        (Cycle.reconcile worker cycle).Agrees r) := by
  intro memory stored
  have hcommand : IsCommand D (claimReconciliation D worker.workerId cycle.token 30
      cycle.claimedAt) := ⟨.claimReconciliation _ _ _ _, _, rfl⟩
  have hmemory : exec (inMemory.call (claimReconciliation D worker.workerId
      cycle.token 30 cycle.claimedAt)) r = _ := exec_callInMemory _ r
  have hdatabase : exec (database.call (claimReconciliation D worker.workerId
      cycle.token 30 cycle.claimedAt)) (encodeState r) = _ :=
    exec_mutate hcommand.raisesUnchanged r
  simp only [outcome, exec_claimReconciliation] at hmemory hdatabase
  simp only [memory, stored, ReconciliationWorker.runOne, exec_bind, hmemory,
    hdatabase, Cycle.Agrees]
  cases hhead : r.reconciliationCandidates.head? with
  | none => exact ⟨fun _ => rfl, fun _ _ h => by cases h⟩
  | some operation =>
    have hold : Holding D { r with
          operations := r.operations.put (claimedRecord D worker.workerId cycle.token
            cycle.claimedAt 30 { operation with reconciliationState := .inProgress }) }
        (issuedClaim worker.workerId cycle.token cycle.claimedAt 30 operation)
        (claimedRecord D worker.workerId cycle.token cycle.claimedAt 30
          { operation with reconciliationState := .inProgress })
        (cycle.claimedAt + timedelta 30) :=
      holding_claimedRecord worker.workerId cycle.token cycle.claimedAt 30
        { operation with reconciliationState := .inProgress } rfl
    obtain ⟨hget, hget'⟩ := exec_getOperation_of_holding hold
    have hrequest : (claimedRecord D worker.workerId cycle.token cycle.claimedAt 30
        { operation with reconciliationState := .inProgress }).request =
        operation.request := rfl
    simp only [Except.mapError, exec_bind, hget, hget', hold.exec_read,
      exec_database_read, exec_outside, hrequest, Option.mem_some_iff, forall_eq']
    cases cycle.reconcile operation.request with
    | error error => exact ⟨fun _ => rfl, fun _ _ h => by cases h⟩
    | ok result =>
        simp only [exec_map_snd, Except.ok.injEq, forall_eq']
        exact settle_agrees hold rfl rfl result

theorem cycle_agrees (cycle : Cycle) (r : Repository) :
    (cycle.Agrees r → (exec (cycle.run D database) (encodeState r)).2 =
        encodeState (exec (cycle.run D inMemory) r).2) ∧
      ((∀ id, (exec (cycle.run D database) (encodeState r)).2.observe id =
          (exec (cycle.run D inMemory) r).2.observe id) → cycle.Agrees r) := by
  cases cycle with
  | dispatch worker cycle => exact dispatch_agrees worker cycle r
  | reconcile worker cycle => exact reconcile_agrees worker cycle r

/-- The workers over a database and over memory leave observably equal repositories after
every cycle exactly when no cycle tells the two apart. -/
theorem provider_equivalence (D : Digests) (cycles : List Cycle) (r : Repository) :
    EqualAfterEveryCycle D cycles r ↔ AllAgree D cycles r := by
  induction cycles generalizing r with
  | nil =>
    refine ⟨fun _ => trivial, fun _ done hdone id => ?_⟩
    obtain rfl := List.prefix_nil.mp hdone
    exact observe_encodeState r id
  | cons cycle cycles ih =>
    obtain ⟨hsame, hequal⟩ := cycle_agrees (D := D) cycle r
    have hstep : cycle.Agrees r → ∀ done,
        afterCycles D database (cycle :: done) (encodeState r) =
          afterCycles D database done
            (encodeState (exec (cycle.run D inMemory) r).2) := by
      intro hagrees done
      simp only [afterCycles, List.foldl_cons, hsame hagrees]
    constructor
    · intro hall
      have hagrees : cycle.Agrees r :=
        hequal (hall [cycle] (List.prefix_append [cycle] cycles))
      refine ⟨hagrees, (ih _).mp fun done hdone id => ?_⟩
      have hlater := hall (cycle :: done) (List.cons_prefix_cons.mpr ⟨rfl, hdone⟩) id
      rwa [hstep hagrees] at hlater
    · rintro ⟨hagrees, hrest⟩ done hdone id
      cases done with
      | nil => exact observe_encodeState r id
      | cons first done =>
          obtain ⟨rfl, htail⟩ := List.cons_prefix_cons.mp hdone
          rw [hstep hagrees]
          exact (ih _).mpr hrest done htail id

/-- The provider of the sample operation refuses the worker's credentials. -/
def refusedDispatch : OutboxCycle where
  token := "t1"
  claimedAt := 0
  handler := fun _ => .ok "dispatch"
  provider := fun _ => .ok fun _ => .ok true
  dispatching := { validated := timedelta 1, now := timedelta 1 }
  dispatch := fun _ => .error .authentication
  apply := fun _ _ => .ok ()
  succeeded := { validated := timedelta 2, now := timedelta 2 }
  unconfirmed := { validated := timedelta 2, now := timedelta 2 }
  classified := timedelta 2
  retried := timedelta 2
  settled := { validated := timedelta 3, now := timedelta 3 }

/-- The failure code of the refused dispatch is on record in memory only. -/
theorem provider_divergence :
    ¬ ∀ (D : Digests) (cycles : List Cycle) (r : Repository),
      EqualAfterEveryCycle D cycles r := by
  intro hequal
  have hobserved := hequal sampleDigests
    [.dispatch { workerId := "worker-1", retryPolicy := {} } refusedDispatch]
    (play sampleDigests [.addOperation sampleOperation]).2 _ List.prefix_rfl "op-1"
  revert hobserved
  decide +kernel

end Outbox
end Ascos
