import Ascos.Library.Checks
import Ascos.Outbox.Budget

/-!
# Claims for reconciliation

`claim_reconciliation` marks its operation as `IN_PROGRESS`, and
`mark_succeeded` takes the mark for the authority to resolve an operation that it has not
dispatched.  Success and renewed uncertainty take the mark off again; a release, an expiry, a
dispatch, a retry and a dead letter leave it on, so that a later claim for dispatch inherits it.

Main results:

- Theorem `History.tracked`: what the mark, the claim and the dispatches of an operation
  say about each other.
- Theorem `reconciliation_tracking`: the mark tracks the kind of the claim in a history in
  which no call but those two ends a claim for reconciliation.
-/

namespace Ascos
namespace Outbox

open Library

variable {D : Digests} {r : Repository} {events earlier : List Event} {event : Event}
variable {id : String} {command : Command} {response : Response}
  {before after operation : OutboxOperation}

/-! ## The claim on the mark -/

/-- A claim of this identity has dispatched the operation. -/
def DispatchedAs (D : Digests) (events : List Event) (operationId : String)
    (identity : Identity) : Prop :=
  ∃ event ∈ events, event.dispatched = some operationId ∧
    event.command.presented.map (fun presented => presented.1.identity D) = some identity

/-- The mark is on an operation only while a claim for reconciliation holds it, and a claim
resolves an operation that it has not dispatched only if it is one for reconciliation. -/
structure ReconciliationTracking (D : Digests) (events : List Event) : Prop where
  marked : ∀ event earlier, event :: earlier <:+ events → ∀ id operation,
    event.post.operations.get? id = some operation →
      operation.reconciliationState = .inProgress →
        HeldForReconciliation D (event :: earlier) operation
  resolved : ∀ event earlier, event :: earlier <:+ events → ∀ claim reference t₀ now response,
    event.command = .markSucceeded claim reference t₀ now → event.outcome = .ok response →
      ¬DispatchedAs D earlier claim.operationId (claim.identity D) →
        ObtainedForReconciliation D earlier claim

/-! ## The condition -/

/-- No marked claim has expired. -/
def MarkedLive (r : Repository) (now : Timestamp) : Prop :=
  ∀ operation ∈ r.operations.values, operation.status = .claimed →
    operation.reconciliationState = .inProgress → hasExpired now operation = false

/-- The calls that keep the mark to its claim: operations are added with neither, and a marked
operation is neither released, nor recovered from its claim, nor dispatched, retried or
dead-lettered. -/
def TrackedStep (D : Digests) (r : Repository) : Command → Prop
  | .addOperation operation =>
    operation.claimExpiresAt = none ∧ operation.reconciliationState ≠ .inProgress ∧
      operation.status ≠ .dispatching
  | .releaseClaim claim t₀ | .markDispatching claim t₀ _ =>
    WhenAccepted D r claim t₀ fun operation =>
      operation.status = .claimed → operation.reconciliationState ≠ .inProgress
  | .markRetryWait claim _ _ _ t₀ _ | .markDeadLetter claim _ t₀ _ =>
    WhenAccepted D r claim t₀ fun operation => operation.reconciliationState ≠ .inProgress
  | .recoverExpired now | .claimNext _ _ _ now => MarkedLive r now
  | _ => True

/-- Every call of the history is a `TrackedStep`. -/
def TrackedCalls (D : Digests) (events : List Event) : Prop :=
  ∀ event ∈ events, TrackedStep D event.pre event.command

/-! ## One operation -/

/-- What the mark, the claim and the dispatches of an operation say about each other. -/
structure Tracked (D : Digests) (events : List Event) (operation : OutboxOperation) :
    Prop where
  unclaimed : operation.Unclaimed
  marked : operation.reconciliationState = .inProgress →
    HeldForReconciliation D events operation
  dispatched : operation.status = .dispatching → ∃ identity,
    onRecord operation = some identity ∧ DispatchedAs D events operation.operationId identity

theorem DispatchedAs.weaken {identity : Identity} (h : DispatchedAs D events id identity) :
    DispatchedAs D (event :: events) id identity := by
  obtain ⟨source, hsource, hdispatched⟩ := h
  exact ⟨source, List.mem_cons_of_mem _ hsource, hdispatched⟩

theorem Tracked.weaken (h : Tracked D events operation) :
    Tracked D (event :: events) operation := by
  refine ⟨h.unclaimed, fun hmarked => (h.marked hmarked).weaken, fun hdispatching => ?_⟩
  obtain ⟨identity, hrecord, hdispatched⟩ := h.dispatched hdispatching
  exact ⟨identity, hrecord, hdispatched.weaken⟩

theorem Tracked.claimed (h : Tracked D events operation)
    (hmarked : operation.reconciliationState = .inProgress) : operation.status = .claimed :=
  (h.marked hmarked).1

/-- An operation that is neither marked nor dispatching. -/
theorem Tracked.of_unmarked (hunclaimed : operation.Unclaimed)
    (hunmarked : operation.reconciliationState ≠ .inProgress)
    (hstatus : operation.status ≠ .dispatching) : Tracked D events operation :=
  ⟨hunclaimed, fun h => absurd h hunmarked, fun h => absurd h hstatus⟩

theorem Tracked.recoverOne {now : Timestamp} (h : Tracked D events operation)
    (hlive : operation.status = .claimed → operation.reconciliationState = .inProgress →
      hasExpired now operation = false) : Tracked D events (recoverOne now operation) := by
  obtain hsame | ⟨hexpired, hnone, ⟨-, hstatus, hstate⟩ | ⟨hclaimed, hstatus, hstate⟩⟩ :=
    recoverOne_cases now operation
  · rw [hsame]
    exact h
  · exact .of_unmarked (fun hsome => by simp [hnone] at hsome) (by simp [hstate])
      (by simp [hstatus])
  · apply Tracked.of_unmarked (fun hsome => by simp [hnone] at hsome) _ (by simp [hstatus])
    rw [hstate]
    intro hmarked
    rw [hlive hclaimed hmarked] at hexpired
    cases hexpired

theorem onRecord_renewed {identity : Identity} {expiry : Timestamp}
    (h : onRecord operation = some identity) :
    onRecord { operation with claimExpiresAt := some expiry } = some identity := by
  obtain ⟨-, howner, hhash, hfence⟩ := onRecord_eq_some_iff.mp h
  exact onRecord_eq_some_iff.mpr ⟨⟨expiry, rfl⟩, howner, hhash, hfence⟩

/-- A call that keeps the mark to its claim keeps it for one operation. -/
theorem Tracked.of_recordStep (htracked : Tracked D earlier before)
    (hfiled : r.operations.get? before.operationId = some before)
    (hcall : TrackedStep D r command) (hcommand : event.command = command)
    (houtcome : event.outcome = .ok response)
    (hstep : RecordStep D r command response before after) :
    Tracked D (event :: earlier) after := by
  have hunclaimed := hstep.unclaimed htracked.unclaimed
  have hlive {now : Timestamp} (hlive : MarkedLive r now) : before.status = .claimed →
      before.reconciliationState = .inProgress → hasExpired now before = false :=
    hlive before (OperationTable.mem_values.mpr hfiled)
  cases hstep with
  | untouched => exact htracked.weaken
  | recovered now => exact (htracked.recoverOne (hlive hcall)).weaken
  | recoveredFirst ownerId token ttlSeconds now =>
    exact (htracked.recoverOne (hlive hcall)).weaken
  | claimed ownerId token ttlSeconds now _ hstatus =>
    apply Tracked.of_unmarked hunclaimed _ (by simp [claimedRecord])
    intro hmarked
    rw [(htracked.recoverOne (hlive hcall)).claimed hmarked] at hstatus
    simp at hstatus
  | claimedReconciliation ownerId token ttlSeconds now _ hstatus =>
    refine ⟨hunclaimed, fun _ => ⟨rfl, ?_⟩, by simp [claimedRecord]⟩
    refine ⟨issuedClaim ownerId token now ttlSeconds before, ?_, rfl, rfl⟩
    refine List.mem_filterMap.mpr ⟨event, List.mem_cons_self, ?_⟩
    simp only [Event.issuedForReconciliation, hcommand, houtcome]
  | renewed claim ttlSeconds t₀ now _ hverdict =>
    refine ⟨hunclaimed, fun hmarked => ?_, fun hdispatching => ?_⟩
    · obtain ⟨hclaimed, issued, hissued, hid, hmatch⟩ := (htracked.marked hmarked).weaken
      exact ⟨hclaimed, issued, hissued, hid, onRecord_renewed hmatch⟩
    · obtain ⟨identity, hrecord, hdispatched⟩ := htracked.dispatched hdispatching
      exact ⟨identity, onRecord_renewed hrecord, hdispatched.weaken⟩
  | released claim t₀ _ _ hverdict hstatus =>
    simp only [TrackedStep, WhenAccepted, hverdict] at hcall
    exact .of_unmarked hunclaimed (hcall hstatus) (by simp)
  | dispatched claim t₀ now _ _ hverdict hstatus =>
    simp only [TrackedStep, WhenAccepted, hverdict] at hcall
    obtain ⟨hid, hrecord⟩ := onRecord_of_claimVerdict hverdict
    refine ⟨hunclaimed, fun hmarked => absurd hmarked (hcall hstatus), fun _ => ?_⟩
    refine ⟨claim.identity D, hrecord, event, List.mem_cons_self, ?_, ?_⟩
    · simp only [Event.dispatched, hcommand, houtcome]
      exact congrArg some hid
    · rw [hcommand]
      rfl
  | succeeded =>
    exact .of_unmarked hunclaimed (by simp [succeededRecord, clearClaim])
      (by simp [succeededRecord, clearClaim])
  | exhausted claim category code availableAt t₀ now _ _ hverdict =>
    simp only [TrackedStep, WhenAccepted, hverdict] at hcall
    exact .of_unmarked hunclaimed hcall (by simp [deadLetterRecord, clearClaim])
  | waiting claim category code availableAt t₀ now _ _ hverdict =>
    simp only [TrackedStep, WhenAccepted, hverdict] at hcall
    exact .of_unmarked hunclaimed hcall (by simp [waitingRecord, clearClaim])
  | uncertain =>
    exact .of_unmarked hunclaimed (by simp [uncertainRecord, clearClaim])
      (by simp [uncertainRecord, clearClaim])
  | deadLettered claim reason t₀ now _ _ hverdict =>
    simp only [TrackedStep, WhenAccepted, hverdict] at hcall
    exact .of_unmarked hunclaimed hcall (by simp [deadLetterRecord, clearClaim])
  | cancelled operationId now _ _ hstatus =>
    apply Tracked.of_unmarked hunclaimed _ (by simp [cancelledRecord])
    intro hmarked
    rw [htracked.claimed hmarked] at hstatus
    simp at hstatus
  | abandoned operationId reason now _ _ hstatus =>
    apply Tracked.of_unmarked hunclaimed _ (by simp [abandonedRecord])
    exact fun hmarked => hstatus.1 (htracked.claimed hmarked)
  | retried operationId now _ _ hstatus =>
    apply Tracked.of_unmarked hunclaimed _ (by simp [retriedRecord])
    intro hmarked
    rw [htracked.claimed hmarked] at hstatus
    cases hstatus

/-! ## Histories -/

/-- In a history whose calls keep the mark to its claim, they keep it for every operation. -/
theorem History.tracked (history : History D events r) (hcalls : TrackedCalls D events)
    (hfiled : r.operations.get? id = some operation) : Tracked D events operation := by
  induction history generalizing operation with
  | start =>
    rw [Repository.init, OperationTable.get?_empty] at hfiled
    cases hfiled
  | @call events r history command ih =>
    obtain ⟨hcall, hearlier⟩ := List.forall_mem_cons.mp hcalls
    rcases record_inv D r command hfiled with
      ⟨error, -, hsame⟩ | ⟨response, houtcome, ⟨before, hbefore, hrecord⟩ | ⟨-, hadded⟩⟩
    · exact (ih hearlier hsame).weaken
    · exact (ih hearlier hbefore).of_recordStep (filed_of_get? hbefore) hcall rfl houtcome
        hrecord
    · change TrackedStep D r command at hcall
      rw [hadded] at hcall
      obtain ⟨hnone, hunmarked, hstatus⟩ := hcall
      exact .of_unmarked (fun hsome => by simp [hnone] at hsome) hunmarked hstatus

theorem resolved_of_outcome {claim : OutboxClaim} {reference : String} {t₀ now : Timestamp}
    (houtcome : (record D r (.markSucceeded claim reference t₀ now)).outcome = .ok response) :
    ∃ operation, claimVerdict D r claim t₀ = .ok operation ∧
      (operation.status = .succeeded ∨ operation.status = .dispatching ∨
        operation.status = .claimed ∧ operation.reconciliationState = .inProgress) := by
  cases hverdict : claimVerdict D r claim t₀ with
  | error e =>
    simp [record, Command.run, Outbox.markSucceeded, hverdict] at houtcome
  | ok operation =>
    refine ⟨operation, rfl, ?_⟩
    by_contra hnot
    rw [not_or, not_or] at hnot
    obtain ⟨hsucceeded, hdispatching, hmarked⟩ := hnot
    have hunmarked : operation.status = .claimed →
        ¬operation.reconciliationState = .inProgress := not_and.mp hmarked
    simp [record, Command.run, Outbox.markSucceeded, hverdict, hsucceeded,
      hdispatching] at houtcome
    rw [if_pos hunmarked] at houtcome
    cases houtcome

/-- A history in which only success and renewed uncertainty end a claim for reconciliation
tracks the kind of its claims. -/
theorem reconciliation_tracking (history : History D events r)
    (hcalls : TrackedCalls D events) : ReconciliationTracking D events := by
  refine ⟨?_, ?_⟩
  · intro event earlier hsuffix id operation hfiled hmarked
    obtain ⟨hearlier, hrecorded⟩ := history.of_suffix hsuffix
    have hcurrent : History D (event :: earlier) event.post := by
      rw [hrecorded]
      exact .call hearlier event.command
    exact (hcurrent.tracked (fun source hsource => hcalls source (hsuffix.subset hsource))
      hfiled).marked hmarked
  · intro event earlier hsuffix claim reference t₀ now response hcommand houtcome hundispatched
    obtain ⟨hearlier, hrecorded⟩ := history.of_suffix hsuffix
    rw [hrecorded, hcommand] at houtcome
    obtain ⟨operation, hverdict, hstatus⟩ := resolved_of_outcome houtcome
    have htracked := hearlier.tracked
      (fun source hsource => hcalls source (hsuffix.subset (List.mem_cons_of_mem _ hsource)))
      (claimVerdict_ok_iff.mp hverdict).1
    obtain ⟨hid, hrecord⟩ := onRecord_of_claimVerdict hverdict
    obtain hsucceeded | hdispatching | ⟨-, hmarked⟩ := hstatus
    · have hclaimed := htracked.unclaimed (isSome_of_claimVerdict hverdict)
      simp [hsucceeded] at hclaimed
    · obtain ⟨identity, hidentity, hdispatched⟩ := htracked.dispatched hdispatching
      rw [hrecord, Option.some.injEq] at hidentity
      rw [← hid, ← hidentity] at hdispatched
      exact absurd hdispatched hundispatched
    · obtain ⟨-, issued, hissued, hissuedId, hmatch⟩ := htracked.marked hmarked
      rw [hrecord, Option.some.injEq] at hmatch
      exact ⟨issued, hissued, hissuedId.trans hid.symm, hmatch.symm⟩

instance (r : Repository) (now : Timestamp) : Decidable (MarkedLive r now) :=
  inferInstanceAs (Decidable (∀ operation ∈ r.operations.values, _ → _ → _))

instance (r : Repository) : (command : Command) → Decidable (TrackedStep D r command)
  | .addOperation _ => inferInstanceAs (Decidable (_ ∧ _ ∧ _))
  | .releaseClaim _ _ => inferInstanceAs (Decidable (WhenAccepted D r _ _ _))
  | .markDispatching _ _ _ => inferInstanceAs (Decidable (WhenAccepted D r _ _ _))
  | .markRetryWait _ _ _ _ _ _ => inferInstanceAs (Decidable (WhenAccepted D r _ _ _))
  | .markDeadLetter _ _ _ _ => inferInstanceAs (Decidable (WhenAccepted D r _ _ _))
  | .recoverExpired now => inferInstanceAs (Decidable (MarkedLive r now))
  | .claimNext _ _ _ now => inferInstanceAs (Decidable (MarkedLive r now))
  | .claimReconciliation _ _ _ _ | .renewClaim _ _ _ _ | .markSucceeded _ _ _ _
  | .markReconciliationRequired _ _ _ _ | .cancelOperation _ _ | .abandonOperation _ _ _
  | .retryDeadLetter _ _ | .setProviderPause _ _ => .isTrue trivial

instance (events : List Event) : Decidable (TrackedCalls D events) :=
  inferInstanceAs (Decidable (∀ event ∈ events, _))

/-- A reconciler learns that the uncertain dispatch has succeeded. -/
def reconciled : List Command :=
  .markSucceeded reconciliationClaim "provider-result" (timedelta 15) (timedelta 15) ::
    underReconciliation

/-- The reconciled history tracks its claims. -/
theorem reconciliation_tracking_reconciled :
    ReconciliationTracking sampleDigests (play sampleDigests reconciled).1 :=
  reconciliation_tracking (history_play sampleDigests reconciled) (by decide +kernel)

/-- The claim that a worker gets when that of the reconciler has expired. -/
def inheritedClaim : OutboxClaim where
  operationId := "op-1"
  ownerId := "worker-2"
  token := "t3"
  claimedAt := timedelta 50
  expiresAt := timedelta 80
  fencingToken := 3

/-- The reconciler stalls until its claim has expired, and a worker that claims the operation
for dispatch resolves it at once. -/
def resolvedUndispatched : List Command :=
  .markSucceeded inheritedClaim "provider-result" (timedelta 51) (timedelta 51) ::
    .claimNext "worker-2" "t3" 30 (timedelta 50) :: underReconciliation

/-- A claim for dispatch inherits the mark of an expired one for reconciliation, and resolves
an operation that it has not dispatched. -/
theorem not_reconciliation_tracking :
    ¬∀ (D : Digests) (events : List Event) (r : Repository), History D events r →
      ReconciliationTracking D events := by
  intro hclaim
  have htracking := hclaim sampleDigests _ _
    (history_play sampleDigests resolvedUndispatched)
  have hlast : (play sampleDigests resolvedUndispatched).1 =
      record sampleDigests (play sampleDigests resolvedUndispatched.tail).2
        (.markSucceeded inheritedClaim "provider-result" (timedelta 51) (timedelta 51)) ::
          (play sampleDigests resolvedUndispatched.tail).1 := rfl
  have hreturned : (record sampleDigests (play sampleDigests resolvedUndispatched.tail).2
      (.markSucceeded inheritedClaim "provider-result" (timedelta 51)
        (timedelta 51))).outcome.isOk = true := by decide +kernel
  obtain ⟨response, houtcome⟩ := Library.Checks.exists_of_isOk hreturned
  rw [hlast] at htracking
  have hobtained := htracking.resolved _ _ List.suffix_rfl inheritedClaim "provider-result"
    (timedelta 51) (timedelta 51) response rfl houtcome (by unfold DispatchedAs; decide +kernel)
  exact absurd hobtained (by decide +kernel)

end Outbox
end Ascos
