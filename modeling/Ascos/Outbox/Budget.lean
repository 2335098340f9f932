import Ascos.Outbox.Redispatch

/-!
# Terminal states and attempt budgets

An operation that succeeded or was cancelled should stay what it is, and between two operator
retries it should reach its provider no more than `maximum_attempts` times.  The
repository looks at the budget only when an attempt is to be retried: an operation whose
outcome is uncertain comes back through reconciliation however often it was dispatched.  And
`abandon_operation` accepts a cancelled operation, which an operator retry then revives.

Main results:

- Theorem `History.unclaimed`: only claimed and dispatching operations have a claim.
- Theorem `History.outOfReach`: an operation that has used up its attempts is out of reach
  of every claim but one for reconciliation.
- Theorem `outbox_lifecycle`: what holds of a history in which no cancelled operation is
  abandoned and no reconciliation returns an operation that has used up its attempts.
-/

namespace Ascos
namespace Outbox

open Library

variable {D : Digests} {r : Repository} {events earlier : List Event} {event : Event}
variable {id : String} {command : Command} {response : Response}
  {before after operation : OutboxOperation}

/-! ## The claim on the lifecycle -/

/-- The operation that a successful operator retry revives. -/
def Event.retried (event : Event) : Option String :=
  match event.command, event.outcome with
  | .retryDeadLetter operationId _, .ok _ => some operationId
  | _, _ => none

/-- The dispatches of an operation since its last operator retry. -/
def dispatches : List Event → String → Nat
  | [], _ => 0
  | event :: earlier, id =>
    if event.retried = some id then 0
    else dispatches earlier id + if event.dispatched = some id then 1 else 0

/-- What the lifecycle promises: the two final states stay, a cancelled operation is never
dispatched, and no operation exceeds its attempts between operator retries. -/
structure OutboxLifecycle (events : List Event) : Prop where
  succeeded : ∀ event ∈ events, ∀ id, event.statusBefore id = some .succeeded →
    event.statusAfter id = some .succeeded
  cancelled : ∀ event ∈ events, ∀ id, event.statusBefore id = some .cancelled →
    event.statusAfter id = some .cancelled
  undispatched : ∀ event earlier, event :: earlier <:+ events → ∀ id,
    event.dispatched = some id → ∀ source ∈ earlier, source.statusAfter id ≠ some .cancelled
  budget : ∀ event earlier, event :: earlier <:+ events → ∀ id operation,
    event.post.operations.get? id = some operation →
      dispatches (event :: earlier) id ≤ operation.maximumAttempts

/-! ## The condition -/

/-- An operation has been dispatched as often as it may since its last operator retry. -/
def UsedUp (earlier : List Event) (operation : OutboxOperation) : Prop :=
  operation.maximumAttempts ≤ dispatches earlier operation.operationId

instance (earlier : List Event) (operation : OutboxOperation) :
    Decidable (UsedUp earlier operation) :=
  inferInstanceAs (Decidable (_ ≤ _))

/-- What a presented claim allows, when it is accepted. -/
def WhenAccepted (D : Digests) (r : Repository) (claim : OutboxClaim) (t₀ : Timestamp)
    (P : OutboxOperation → Prop) : Prop :=
  match claimVerdict D r claim t₀ with
  | .ok operation => P operation
  | .error _ => True

instance (claim : OutboxClaim) (t₀ : Timestamp) (P : OutboxOperation → Prop)
    [DecidablePred P] : Decidable (WhenAccepted D r claim t₀ P) :=
  match h : claimVerdict D r claim t₀ with
  | .ok operation => decidable_of_iff (P operation) (by simp [WhenAccepted, h])
  | .error _ => .isTrue (by simp [WhenAccepted, h])

/-- No claimed operation that has used up its attempts has expired. -/
def SpentLive (earlier : List Event) (r : Repository) (now : Timestamp) : Prop :=
  ∀ operation ∈ r.operations.values, operation.status = .claimed → UsedUp earlier operation →
    hasExpired now operation = false

/-- The calls that keep the lifecycle: operations are added without a claim of their own, no
cancelled operation is abandoned, and an operation that has used up its attempts is neither
released, nor recovered from its claim, nor dispatched under a claim for reconciliation. -/
def BudgetedStep (D : Digests) (earlier : List Event) (r : Repository) : Command → Prop
  | .addOperation operation =>
    (operation.claimExpiresAt.isSome = true →
      operation.status = .claimed ∨ operation.status = .dispatching) ∧
        0 < operation.maximumAttempts
  | .abandonOperation operationId _ _ =>
    (r.operations.get? operationId).map (·.status) ≠ some .cancelled
  | .releaseClaim claim t₀ =>
    WhenAccepted D r claim t₀ fun operation =>
      operation.status = .claimed → ¬UsedUp earlier operation
  | .recoverExpired now => SpentLive earlier r now
  | .claimNext _ _ _ now => SpentLive earlier r now
  | .markDispatching claim t₀ _ =>
    WhenAccepted D r claim t₀ fun operation =>
      UsedUp earlier operation → ¬ObtainedForReconciliation D earlier claim
  | _ => True

/-- Every call of the history is a `BudgetedStep`. -/
def Budgeted (D : Digests) : List Event → Prop
  | [] => True
  | event :: earlier => BudgetedStep D earlier event.pre event.command ∧ Budgeted D earlier

theorem Budgeted.of_suffix (hbudgeted : Budgeted D events)
    (h : event :: earlier <:+ events) :
    BudgetedStep D earlier event.pre event.command ∧ Budgeted D earlier := by
  induction events with
  | nil => simp at h
  | cons newest older ih =>
    rcases List.suffix_cons_iff.mp h with heq | htail
    · obtain ⟨rfl, rfl⟩ := List.cons.inj heq
      exact hbudgeted
    · exact ih hbudgeted.2 htail

/-! ## Claims on record -/

/-- An operation that has a claim is claimed or dispatching. -/
def OutboxOperation.Unclaimed (operation : OutboxOperation) : Prop :=
  operation.claimExpiresAt.isSome = true →
    operation.status = .claimed ∨ operation.status = .dispatching

theorem isSome_of_claimVerdict {claim : OutboxClaim} {t₀ : Timestamp}
    (hverdict : claimVerdict D r claim t₀ = .ok operation) :
    operation.claimExpiresAt.isSome = true := by
  obtain ⟨-, -, expiry, hexpiry, -⟩ := claimVerdict_ok_iff.mp hverdict
  rw [hexpiry]
  rfl

theorem recoverOne_cases (now : Timestamp) (operation : OutboxOperation) :
    recoverOne now operation = operation ∨
      hasExpired now operation = true ∧
        (recoverOne now operation).claimExpiresAt = none ∧
          (operation.status = .dispatching ∧
              (recoverOne now operation).status = .reconciliationRequired ∧
                (recoverOne now operation).reconciliationState = .required ∨
            operation.status = .claimed ∧ (recoverOne now operation).status = .pending ∧
              (recoverOne now operation).reconciliationState =
                operation.reconciliationState) := by
  by_cases hexpired : hasExpired now operation = true
  · refine .inr ⟨hexpired, ?_⟩
    have hstatus : operation.status = .claimed ∨ operation.status = .dispatching := by
      simp only [hasExpired, Bool.and_eq_true, decide_eq_true_eq] at hexpired
      exact hexpired.1
    unfold recoverOne
    rw [if_pos hexpired]
    by_cases hdispatching : operation.status = .dispatching
    · rw [if_pos hdispatching]
      exact ⟨rfl, .inl ⟨hdispatching, rfl, rfl⟩⟩
    · rw [if_neg hdispatching]
      exact ⟨rfl, .inr ⟨hstatus.resolve_right hdispatching, rfl, rfl⟩⟩
  · left
    unfold recoverOne
    rw [if_neg hexpired]

theorem RecordStep.unclaimed (hstep : RecordStep D r command response before after)
    (hbefore : before.Unclaimed) : after.Unclaimed := by
  have hrecovered (now : Timestamp) : (recoverOne now before).Unclaimed := by
    obtain hsame | ⟨-, hnone, -⟩ := recoverOne_cases now before
    · rw [hsame]
      exact hbefore
    · intro hsome
      rw [hnone] at hsome
      cases hsome
  cases hstep with
  | untouched => exact hbefore
  | recovered now => exact hrecovered now
  | recoveredFirst ownerId token ttlSeconds now => exact hrecovered now
  | claimed => exact fun _ => .inl rfl
  | claimedReconciliation => exact fun _ => .inl rfl
  | renewed claim ttlSeconds t₀ now _ hverdict =>
    exact fun _ => hbefore (isSome_of_claimVerdict hverdict)
  | dispatched => exact fun _ => .inr rfl
  | cancelled operationId now _ _ hstatus =>
    intro hsome
    obtain hclaimed | hdispatching := hbefore hsome
    · rw [hclaimed] at hstatus
      simp at hstatus
    · rw [hdispatching] at hstatus
      simp at hstatus
  | abandoned operationId reason now _ _ hstatus =>
    intro hsome
    obtain hclaimed | hdispatching := hbefore hsome
    · exact absurd hclaimed hstatus.1
    · exact absurd hdispatching hstatus.2.1
  | retried operationId now _ _ hstatus =>
    intro hsome
    obtain hclaimed | hdispatching := hbefore hsome
    · rw [hstatus] at hclaimed
      cases hclaimed
    · rw [hstatus] at hdispatching
      cases hdispatching
  | _ =>
    intro hsome
    cases hsome

/-- Only claimed and dispatching operations have a claim. -/
theorem History.unclaimed (history : History D events r) (hbudgeted : Budgeted D events)
    (hfiled : r.operations.get? id = some operation) : operation.Unclaimed := by
  induction history generalizing operation with
  | start =>
    rw [Repository.init, OperationTable.get?_empty] at hfiled
    cases hfiled
  | @call events r history command ih =>
    obtain ⟨hstep, hearlier⟩ := hbudgeted
    rcases record_inv D r command hfiled with
      ⟨error, -, hsame⟩ | ⟨response, -, ⟨before, hbefore, hrecord⟩ | ⟨-, hadded⟩⟩
    · exact ih hearlier hsame
    · exact hrecord.unclaimed (ih hearlier hbefore)
    · change BudgetedStep D events r command at hstep
      rw [hadded] at hstep
      exact hstep.1

/-! ## Final states -/

theorem RecordStep.final (hstep : RecordStep D r command response before after)
    (hunclaimed : before.Unclaimed)
    (hfinal : before.status = .succeeded ∨ before.status = .cancelled)
    (hkept : ∀ operationId reason now, command = .abandonOperation operationId reason now →
      before.status = .cancelled → after = before) : after.status = before.status := by
  have hnone : ∀ {claim : OutboxClaim} {t₀ : Timestamp},
      claimVerdict D r claim t₀ ≠ .ok before := by
    intro claim t₀ hverdict
    obtain hstatus | hstatus := hunclaimed (isSome_of_claimVerdict hverdict)
    · simp [hstatus] at hfinal
    · simp [hstatus] at hfinal
  have hrecovered (now : Timestamp) : recoverOne now before = before := by
    obtain hsame | ⟨-, -, ⟨hstatus, -⟩ | ⟨hstatus, -⟩⟩ := recoverOne_cases now before
    · exact hsame
    · simp [hstatus] at hfinal
    · simp [hstatus] at hfinal
  cases hstep with
  | untouched => rfl
  | recovered now => rw [hrecovered]
  | recoveredFirst ownerId token ttlSeconds now => rw [hrecovered]
  | claimed ownerId token ttlSeconds now _ hstatus =>
    rw [hrecovered] at hstatus
    obtain hsucceeded | hcancelled := hfinal
    · simp [hsucceeded] at hstatus
    · simp [hcancelled] at hstatus
  | claimedReconciliation ownerId token ttlSeconds now _ hstatus => simp [hstatus] at hfinal
  | renewed => rfl
  | released claim t₀ _ _ hverdict => exact absurd hverdict hnone
  | dispatched claim t₀ now _ _ hverdict => exact absurd hverdict hnone
  | succeeded claim reference t₀ now _ _ hverdict => exact absurd hverdict hnone
  | exhausted claim category code availableAt t₀ now _ _ hverdict => exact absurd hverdict hnone
  | waiting claim category code availableAt t₀ now _ _ hverdict => exact absurd hverdict hnone
  | uncertain claim code t₀ now _ _ hverdict => exact absurd hverdict hnone
  | deadLettered claim reason t₀ now _ _ hverdict => exact absurd hverdict hnone
  | cancelled operationId now _ _ hstatus =>
    obtain hsucceeded | hcancelled := hfinal
    · simp [hsucceeded] at hstatus
    · simp [hcancelled] at hstatus
  | abandoned operationId reason now _ _ hstatus =>
    obtain hsucceeded | hcancelled := hfinal
    · exact absurd hsucceeded hstatus.2.2
    · rw [hkept operationId reason now rfl hcancelled]
  | retried operationId now _ _ hstatus => simp [hstatus] at hfinal

theorem effect_of_outcome (houtcome : (record D r command).outcome = .ok response) :
    Effect D r (record D r command).post.operations command response := by
  rcases record_cases D r command with ⟨error, herror, -⟩ | ⟨found, hok, heffect⟩
  · rw [herror] at houtcome
    cases houtcome
  · rw [hok, Except.ok.injEq] at houtcome
    exact houtcome ▸ heffect

/-- The write of one operation leaves the others alone. -/
theorem get?_put_of_get?_ne {operationId : String} {found : OutboxOperation}
    (written : OutboxOperation) (hget : r.operations.get? operationId = some found)
    (hwritten : written.operationId = found.operationId) (hne : operationId ≠ id) :
    (r.operations.put written).get? id = r.operations.get? id := by
  rw [OperationTable.get?_put, if_neg]
  rw [hwritten, OperationTable.operationId_of_get? hget]
  exact hne

theorem History.final (history : History D events r) (hbudgeted : Budgeted D events)
    (hstep : BudgetedStep D events r command)
    (hfiled : r.operations.get? id = some before)
    (hfinal : before.status = .succeeded ∨ before.status = .cancelled) :
    (record D r command).statusAfter id = some before.status := by
  obtain ⟨after, hafter⟩ := record_stays_filed D r command hfiled
  unfold Event.statusAfter
  rw [hafter, Option.map_some, Option.some.injEq]
  rcases record_inv D r command hafter with
    ⟨error, -, hsame⟩ | ⟨response, houtcome, ⟨found, hfound, hrecord⟩ | ⟨hnew, -⟩⟩
  · rw [hfiled] at hsame
    cases hsame
    rfl
  · rw [hfiled] at hfound
    cases hfound
    apply hrecord.final (history.unclaimed hbudgeted hfiled) hfinal
    -- an abandoned operation is another one
    rintro operationId reason now rfl hcancelled
    obtain ⟨abandoned, hget, -, htable⟩ := effect_of_outcome houtcome
    have hother : operationId ≠ id := by
      rintro rfl
      apply hstep
      rw [hfiled, Option.map_some, hcancelled]
    rw [htable, get?_put_of_get?_ne (abandonedRecord reason now abandoned) hget rfl hother,
      hfiled] at hafter
    cases hafter
    rfl
  · rw [hfiled] at hnew
    cases hnew

theorem History.cancelled (history : History D events r) (hbudgeted : Budgeted D events)
    {source : Event} (hsource : source ∈ events)
    (hcancelled : source.statusAfter id = some .cancelled) :
    (r.operations.get? id).map (·.status) = some .cancelled := by
  induction history with
  | start => cases hsource
  | @call events r history command ih =>
    obtain ⟨hstep, hearlier⟩ := hbudgeted
    rcases List.mem_cons.mp hsource with rfl | hbefore
    · exact hcancelled
    · obtain ⟨before, hfiled, hstatus⟩ := Option.map_eq_some_iff.mp (ih hearlier hbefore)
      have hafter := history.final hearlier hstep hfiled (.inr hstatus)
      rw [hstatus] at hafter
      exact hafter

/-! ## Dispatches -/

theorem Event.dispatched_eq_some (h : (record D r command).dispatched = some id) :
    ∃ claim t₀ now before, command = .markDispatching claim t₀ now ∧
      claimVerdict D r claim t₀ = .ok before ∧ before.status = .claimed ∧
        r.operations.get? id = some before ∧
          (record D r command).post.operations.get? id = some (dispatchedRecord now before) := by
  unfold Event.dispatched at h
  split at h
  · rename_i claim t₀ now response hcommand houtcome
    obtain rfl := Option.some.inj h
    change command = _ at hcommand
    subst hcommand
    obtain ⟨before, hverdict, hclaimed, htable⟩ := effect_of_outcome houtcome
    have hget := (claimVerdict_ok_iff.mp hverdict).1
    have hkey : before.operationId = claim.operationId :=
      OperationTable.operationId_of_get? hget
    refine ⟨claim, t₀, now, before, rfl, hverdict, hclaimed, hget, ?_⟩
    rw [htable, OperationTable.get?_put]
    exact if_pos hkey
  · cases h

theorem History.dispatches_of_unfiled (history : History D events r)
    (hunfiled : r.operations.get? id = none) : dispatches events id = 0 := by
  induction history with
  | start => rfl
  | @call events r history command ih =>
    have hbefore : r.operations.get? id = none := by
      by_contra hsome
      obtain ⟨before, hfiled⟩ := Option.ne_none_iff_exists'.mp hsome
      obtain ⟨after, hafter⟩ := record_stays_filed D r command hfiled
      rw [hunfiled] at hafter
      cases hafter
    have hnot : (record D r command).dispatched ≠ some id := by
      intro hdispatched
      obtain ⟨claim, t₀, now, before, -, -, -, hfiled, -⟩ :=
        Event.dispatched_eq_some hdispatched
      rw [hbefore] at hfiled
      cases hfiled
    rw [dispatches, ih hbefore, if_neg hnot]
    exact ite_self 0

theorem RecordStep.attempts (hstep : RecordStep D r command response before after) :
    after.operationId = before.operationId ∧ after.maximumAttempts = before.maximumAttempts ∧
      before.attemptCount ≤ after.attemptCount := by
  have hrecovered (now : Timestamp) :
      (recoverOne now before).maximumAttempts = before.maximumAttempts ∧
        (recoverOne now before).attemptCount = before.attemptCount := by
    unfold recoverOne
    split
    · split
      · exact ⟨rfl, rfl⟩
      · exact ⟨rfl, rfl⟩
    · exact ⟨rfl, rfl⟩
  cases hstep with
  | recovered now =>
      exact ⟨recoverOne_operationId now before, (hrecovered now).1, (hrecovered now).2.ge⟩
  | recoveredFirst ownerId token ttlSeconds now =>
      exact ⟨recoverOne_operationId now before, (hrecovered now).1, (hrecovered now).2.ge⟩
  | claimed ownerId token ttlSeconds now =>
      exact ⟨recoverOne_operationId now before, (hrecovered now).1, (hrecovered now).2.ge⟩
  | dispatched => exact ⟨rfl, rfl, Nat.le_succ _⟩
  | _ => exact ⟨rfl, rfl, le_refl _⟩

theorem History.dispatches_le (history : History D events r)
    (hfiled : r.operations.get? id = some operation) :
    dispatches events id ≤ operation.attemptCount := by
  induction history generalizing operation with
  | start =>
    rw [Repository.init, OperationTable.get?_empty] at hfiled
    cases hfiled
  | @call events r history command ih =>
    rw [dispatches]
    split
    · exact Nat.zero_le _
    · by_cases hdispatched : (record D r command).dispatched = some id
      · obtain ⟨claim, t₀, now, before, -, -, -, hbefore, hpost⟩ :=
          Event.dispatched_eq_some hdispatched
        rw [hpost] at hfiled
        cases hfiled
        rw [if_pos hdispatched]
        exact Nat.succ_le_succ (ih hbefore)
      · rw [if_neg hdispatched, Nat.add_zero]
        rcases record_inv D r command hfiled with
          ⟨error, -, hsame⟩ | ⟨response, -, ⟨before, hbefore, hrecord⟩ | ⟨hnew, -⟩⟩
        · exact ih hsame
        · exact (ih hbefore).trans hrecord.attempts.2.2
        · rw [history.dispatches_of_unfiled hnew]
          exact Nat.zero_le _

theorem History.positive (history : History D events r) (hbudgeted : Budgeted D events)
    (hfiled : r.operations.get? id = some operation) : 0 < operation.maximumAttempts := by
  induction history generalizing operation with
  | start =>
    rw [Repository.init, OperationTable.get?_empty] at hfiled
    cases hfiled
  | @call events r history command ih =>
    obtain ⟨hstep, hearlier⟩ := hbudgeted
    rcases record_inv D r command hfiled with
      ⟨error, -, hsame⟩ | ⟨response, -, ⟨before, hbefore, hrecord⟩ | ⟨-, hadded⟩⟩
    · exact ih hearlier hsame
    · rw [hrecord.attempts.2.1]
      exact ih hearlier hbefore
    · change BudgetedStep D events r command at hstep
      rw [hadded] at hstep
      exact hstep.2

theorem deadLettered_of_attempts {claim : OutboxClaim} {category : FailureCategory}
    {code : String} {availableAt t₀ now : Timestamp}
    (hcommand : command = .markRetryWait claim category code availableAt t₀ now)
    (hverdict : claimVerdict D r claim t₀ = .ok before)
    (hmaximum : before.maximumAttempts ≤ before.attemptCount)
    (hafter : (record D r command).post.operations.get? before.operationId = some after) :
    after.status = .deadLetter := by
  subst hcommand
  have hused : (failedRecord category code before).maximumAttempts ≤
      (failedRecord category code before).attemptCount := hmaximum
  simp only [record, Command.run, Outbox.markRetryWait, Program.exec_map, Program.exec_bind,
    exec_validateClaim, hverdict, if_pos hused, deadLetter, exec_store, exec_finishAttempt,
    Program.exec_pure] at hafter
  rw [OperationTable.get?_put] at hafter
  split at hafter
  · cases hafter
    rfl
  · rename_i hother
    exact absurd rfl hother

/-- An operation that is out of reach of every claim but one for reconciliation. -/
structure OutOfReach (D : Digests) (events : List Event) (operation : OutboxOperation) :
    Prop where
  notPending : operation.status ≠ .pending
  notWaiting : operation.status ≠ .retryWait
  held : operation.status = .claimed → HeldForReconciliation D events operation

theorem OutOfReach.of_status (hpending : operation.status ≠ .pending)
    (hwaiting : operation.status ≠ .retryWait) (hclaimed : operation.status ≠ .claimed) :
    OutOfReach D events operation :=
  ⟨hpending, hwaiting, fun h => absurd h hclaimed⟩

theorem OutOfReach.weaken (h : OutOfReach D events operation) :
    OutOfReach D (event :: events) operation :=
  ⟨h.notPending, h.notWaiting, fun hclaimed => (h.held hclaimed).weaken⟩

theorem OutOfReach.obtained {claim : OutboxClaim} {t₀ : Timestamp}
    (h : OutOfReach D events operation) (hverdict : claimVerdict D r claim t₀ = .ok operation)
    (hclaimed : operation.status = .claimed) : ObtainedForReconciliation D events claim := by
  obtain ⟨hid, hrecord⟩ := onRecord_of_claimVerdict hverdict
  obtain ⟨-, issued, hissued, hissuedId, hmatch⟩ := h.held hclaimed
  rw [hrecord, Option.some.injEq] at hmatch
  exact ⟨issued, hissued, hissuedId.trans hid.symm, hmatch.symm⟩

theorem OutOfReach.recoverOne {now : Timestamp} (h : OutOfReach D events operation)
    (hlive : operation.status = .claimed → hasExpired now operation = false) :
    OutOfReach D events (recoverOne now operation) := by
  obtain hsame | ⟨hexpired, -, ⟨-, hstatus, -⟩ | ⟨hclaimed, -⟩⟩ := recoverOne_cases now operation
  · rw [hsame]
    exact h
  · exact .of_status (by simp [hstatus]) (by simp [hstatus]) (by simp [hstatus])
  · rw [hlive hclaimed] at hexpired
    cases hexpired

theorem OutOfReach.of_recordStep (hreach : OutOfReach D earlier before)
    (hfiled : r.operations.get? before.operationId = some before)
    (hused : UsedUp earlier before) (hbudgeted : BudgetedStep D earlier r command)
    (hcommand : event.command = command) (houtcome : event.outcome = .ok response)
    (hwaiting : ∀ claim category code availableAt t₀ now,
      command = .markRetryWait claim category code availableAt t₀ now →
        claimVerdict D r claim t₀ = .ok before → after.status = .deadLetter)
    (hretried : ∀ operationId now, command = .retryDeadLetter operationId now → after = before)
    (hstep : RecordStep D r command response before after) :
    OutOfReach D (event :: earlier) after := by
  have hlive : ∀ {now}, SpentLive earlier r now → before.status = .claimed →
      hasExpired now before = false := fun hlive hclaimed =>
    hlive before (OperationTable.mem_values.mpr hfiled) hclaimed hused
  cases hstep with
  | untouched => exact hreach.weaken
  | recovered now => exact (hreach.recoverOne (hlive hbudgeted)).weaken
  | recoveredFirst ownerId token ttlSeconds now =>
    exact (hreach.recoverOne (hlive hbudgeted)).weaken
  | claimed ownerId token ttlSeconds now _ hstatus =>
    have hkept := hreach.recoverOne (hlive hbudgeted)
    obtain hpending | hwait := hstatus
    · exact absurd hpending hkept.notPending
    · exact absurd hwait hkept.notWaiting
  | claimedReconciliation ownerId token ttlSeconds now _ hstatus =>
    refine ⟨by simp [claimedRecord], by simp [claimedRecord], fun _ => ⟨rfl, ?_⟩⟩
    refine ⟨issuedClaim ownerId token now ttlSeconds before, ?_, rfl, rfl⟩
    refine List.mem_filterMap.mpr ⟨event, List.mem_cons_self, ?_⟩
    simp only [Event.issuedForReconciliation, hcommand, houtcome]
  | renewed claim ttlSeconds t₀ now _ hverdict =>
    refine ⟨hreach.notPending, hreach.notWaiting, fun hclaimed => ?_⟩
    apply HeldForReconciliation.weaken
    obtain ⟨-, issued, hissued, hid, hmatch⟩ := hreach.held hclaimed
    obtain ⟨-, howner, hhash, hfence⟩ := onRecord_eq_some_iff.mp hmatch
    exact ⟨hclaimed, issued, hissued, hid,
      onRecord_eq_some_iff.mpr ⟨⟨_, rfl⟩, howner, hhash, hfence⟩⟩
  | released claim t₀ _ _ hverdict hstatus =>
    simp only [BudgetedStep, WhenAccepted, hverdict] at hbudgeted
    exact absurd hused (hbudgeted hstatus)
  | waiting claim category code availableAt t₀ now _ _ hverdict =>
    have hdead := hwaiting claim category code availableAt t₀ now rfl hverdict
    cases hdead
  | cancelled operationId now _ _ hstatus =>
    obtain hpending | hwait := hstatus
    · exact absurd hpending hreach.notPending
    · exact absurd hwait hreach.notWaiting
  | retried operationId now =>
    rw [hretried operationId now rfl]
    exact hreach.weaken
  | _ =>
    apply OutOfReach.of_status
    all_goals
      intro hstatus
      cases hstatus

theorem History.outOfReach (history : History D events r) (hbudgeted : Budgeted D events)
    (hfiled : r.operations.get? id = some operation) (hused : UsedUp events operation) :
    OutOfReach D events operation := by
  induction history generalizing operation with
  | start =>
    rw [Repository.init, OperationTable.get?_empty] at hfiled
    cases hfiled
  | @call events r history command ih =>
    have hpositive := (history.call command).positive hbudgeted hfiled
    have hid := OperationTable.operationId_of_get? hfiled
    obtain ⟨hstep, hearlier⟩ := hbudgeted
    unfold UsedUp at hused
    rw [hid, dispatches] at hused
    by_cases hretried : (record D r command).retried = some id
    · rw [if_pos hretried] at hused
      omega
    rw [if_neg hretried] at hused
    by_cases hdispatched : (record D r command).dispatched = some id
    · obtain ⟨claim, t₀, now, before, -, -, -, -, hpost⟩ :=
        Event.dispatched_eq_some hdispatched
      rw [hpost] at hfiled
      cases hfiled
      apply OutOfReach.of_status
      all_goals
        intro hstatus
        cases hstatus
    rw [if_neg hdispatched, Nat.add_zero] at hused
    rcases record_inv D r command hfiled with
      ⟨error, -, hsame⟩ | ⟨response, houtcome, ⟨before, hbefore, hrecord⟩ | ⟨hnew, -⟩⟩
    · exact (ih hearlier hsame (by rw [UsedUp, hid]; exact hused)).weaken
    · obtain ⟨hkey, hmaximum, -⟩ := hrecord.attempts
      have hcount := history.dispatches_le hbefore
      have husedBefore : UsedUp events before := by
        rw [UsedUp, ← hkey, hid, ← hmaximum]
        exact hused
      apply (ih hearlier hbefore husedBefore).of_recordStep (filed_of_get? hbefore)
        husedBefore hstep rfl houtcome _ _ hrecord
      · intro claim category code availableAt t₀ now hcommand hverdict
        apply deadLettered_of_attempts hcommand hverdict
        · omega
        · rw [← hkey, hid]
          exact hfiled
      · rintro operationId now rfl
        obtain ⟨revived, hget, -, htable⟩ := effect_of_outcome houtcome
        have hother : operationId ≠ id := by
          rintro rfl
          apply hretried
          simp only [Event.retried, record] at houtcome ⊢
          rw [houtcome]
        rw [htable, get?_put_of_get?_ne (retriedRecord now revived) hget rfl hother,
          hbefore] at hfiled
        cases hfiled
        rfl
    · rw [history.dispatches_of_unfiled hnew] at hused
      omega

theorem History.dispatches_le_maximum (history : History D events r)
    (hbudgeted : Budgeted D events) (hfiled : r.operations.get? id = some operation) :
    dispatches events id ≤ operation.maximumAttempts := by
  induction history generalizing operation with
  | start =>
    rw [Repository.init, OperationTable.get?_empty] at hfiled
    cases hfiled
  | @call events r history command ih =>
    obtain ⟨hstep, hearlier⟩ := hbudgeted
    rw [dispatches]
    by_cases hretried : (record D r command).retried = some id
    · rw [if_pos hretried]
      exact Nat.zero_le _
    rw [if_neg hretried]
    by_cases hdispatched : (record D r command).dispatched = some id
    · obtain ⟨claim, t₀, now, before, hcommand, hverdict, hclaimed, hbefore, hpost⟩ :=
        Event.dispatched_eq_some hdispatched
      rw [hpost] at hfiled
      cases hfiled
      have hunused : ¬UsedUp events before := by
        intro hused
        change BudgetedStep D events r command at hstep
        rw [hcommand] at hstep
        simp only [BudgetedStep, WhenAccepted, hverdict] at hstep
        exact hstep hused
          ((history.outOfReach hearlier hbefore hused).obtained hverdict hclaimed)
      rw [UsedUp, OperationTable.operationId_of_get? hbefore] at hunused
      rw [if_pos hdispatched]
      exact Nat.lt_of_not_le hunused
    · rw [if_neg hdispatched, Nat.add_zero]
      rcases record_inv D r command hfiled with
        ⟨error, -, hsame⟩ | ⟨response, -, ⟨before, hbefore, hrecord⟩ | ⟨hnew, -⟩⟩
      · exact ih hearlier hsame
      · rw [hrecord.attempts.2.1]
        exact ih hearlier hbefore
      · rw [history.dispatches_of_unfiled hnew]
        exact Nat.zero_le _

/-! ## The lifecycle -/

/-- A history of budgeted calls keeps what the lifecycle promises. -/
theorem outbox_lifecycle (history : History D events r) (hbudgeted : Budgeted D events) :
    OutboxLifecycle events := by
  have hfinal : ∀ status, status = .succeeded ∨ status = .cancelled → ∀ event ∈ events, ∀ id,
      event.statusBefore id = some status → event.statusAfter id = some status := by
    intro status hstatus event hevent id hbefore
    obtain ⟨later, earlier, rfl⟩ := List.append_of_mem hevent
    obtain ⟨hearlier, hrecorded⟩ := history.of_suffix (List.suffix_append later _)
    obtain ⟨hstep, hrest⟩ := hbudgeted.of_suffix (List.suffix_append later _)
    obtain ⟨before, hfiled, rfl⟩ := Option.map_eq_some_iff.mp hbefore
    rw [hrecorded]
    exact hearlier.final hrest hstep hfiled hstatus
  refine ⟨hfinal .succeeded (.inl rfl), hfinal .cancelled (.inr rfl), ?_, ?_⟩
  · intro event earlier hsuffix id hdispatched source hsource hcancelled
    obtain ⟨hearlier, hrecorded⟩ := history.of_suffix hsuffix
    obtain ⟨-, hrest⟩ := hbudgeted.of_suffix hsuffix
    have hstatus := hearlier.cancelled hrest hsource hcancelled
    rw [hrecorded] at hdispatched
    obtain ⟨claim, t₀, now, before, -, -, hclaimed, hfiled, -⟩ :=
      Event.dispatched_eq_some hdispatched
    rw [hfiled, Option.map_some, hclaimed] at hstatus
    cases hstatus
  · intro event earlier hsuffix id operation hfiled
    obtain ⟨hearlier, hrecorded⟩ := history.of_suffix hsuffix
    have hcurrent : History D (event :: earlier) event.post := by
      rw [hrecorded]
      exact .call hearlier event.command
    exact hcurrent.dispatches_le_maximum (hbudgeted.of_suffix hsuffix) hfiled

instance (earlier : List Event) (r : Repository) (now : Timestamp) :
    Decidable (SpentLive earlier r now) :=
  inferInstanceAs (Decidable (∀ operation ∈ r.operations.values, _ → _ → _))

instance (earlier : List Event) (r : Repository) :
    (command : Command) → Decidable (BudgetedStep D earlier r command)
  | .addOperation _ => inferInstanceAs (Decidable ((_ → _ ∨ _) ∧ _))
  | .abandonOperation _ _ _ => inferInstanceAs (Decidable (_ ≠ _))
  | .releaseClaim _ _ => inferInstanceAs (Decidable (WhenAccepted D r _ _ _))
  | .recoverExpired now => inferInstanceAs (Decidable (SpentLive earlier r now))
  | .claimNext _ _ _ now => inferInstanceAs (Decidable (SpentLive earlier r now))
  | .markDispatching _ _ _ => inferInstanceAs (Decidable (WhenAccepted D r _ _ _))
  | .claimReconciliation _ _ _ _ | .renewClaim _ _ _ _ | .markSucceeded _ _ _ _
  | .markRetryWait _ _ _ _ _ _ | .markReconciliationRequired _ _ _ _ | .markDeadLetter _ _ _ _
  | .cancelOperation _ _ | .retryDeadLetter _ _ | .setProviderPause _ _ => .isTrue trivial

instance decidableBudgeted : (events : List Event) → Decidable (Budgeted D events)
  | [] => .isTrue trivial
  | event :: earlier =>
    have := decidableBudgeted earlier
    inferInstanceAs (Decidable (BudgetedStep D earlier event.pre event.command ∧ _))

/-- A reconciler releases the only operation, which has attempts left, and a worker
dispatches it again. -/
theorem outbox_lifecycle_released :
    OutboxLifecycle (play sampleDigests releasedUnexecuted).1 :=
  outbox_lifecycle (history_play sampleDigests releasedUnexecuted) (by decide +kernel)

/-- An operation that is cancelled, abandoned, retried by an operator, claimed and
dispatched. -/
def cancelledDispatched : List Command :=
  [.markDispatching
      { operationId := "op-1", ownerId := "worker-1", token := "t1",
        claimedAt := timedelta 4, expiresAt := timedelta 34, fencingToken := 1 }
      (timedelta 5) (timedelta 5),
    .claimNext "worker-1" "t1" 30 (timedelta 4), .retryDeadLetter "op-1" (timedelta 3),
    .abandonOperation "op-1" "NOT_NEEDED" (timedelta 2), .cancelOperation "op-1" (timedelta 1),
    .addOperation sampleOperation]

/-- The calls of `releasedUnexecuted` on an operation that may be dispatched once. -/
def dispatchedTwice : List Command :=
  releasedUnexecuted.map fun command =>
    match command with
    | .addOperation operation => .addOperation { operation with maximumAttempts := 1 }
    | command => command

/-- Neither the final states nor the budget are kept in every history. -/
theorem not_outbox_lifecycle :
    (¬∀ (D : Digests) (events : List Event) (r : Repository), History D events r →
        OutboxLifecycle events) ∧
      dispatches (play sampleDigests cancelledDispatched).1 "op-1" = 1 ∧
      ((play sampleDigests dispatchedTwice).2.operations.get? "op-1").map
        (fun operation => (operation.maximumAttempts,
          dispatches (play sampleDigests dispatchedTwice).1 operation.operationId)) =
        some (1, 2) := by
  refine ⟨fun hclaim => ?_, by decide +kernel, by decide +kernel⟩
  have hlifecycle := hclaim sampleDigests _ _ (history_play sampleDigests cancelledDispatched)
  have hdispatched : (play sampleDigests cancelledDispatched).1.head?.bind Event.dispatched =
      some "op-1" := by decide +kernel
  have hcancelled : ∃ source ∈ (play sampleDigests cancelledDispatched).1.tail,
      source.statusAfter "op-1" = some .cancelled := by decide +kernel
  obtain ⟨source, hsource, hstatus⟩ := hcancelled
  obtain ⟨event, hevent, hdispatched⟩ := Option.bind_eq_some_iff.mp hdispatched
  obtain ⟨earlier, hevents⟩ : ∃ earlier,
      (play sampleDigests cancelledDispatched).1 = event :: earlier := by
    exact List.head?_eq_some_iff.mp hevent
  rw [hevents] at hsource hlifecycle
  exact hlifecycle.undispatched event earlier List.suffix_rfl "op-1" hdispatched source hsource
    hstatus

end Outbox
end Ascos
