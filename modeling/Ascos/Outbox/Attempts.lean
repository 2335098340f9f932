import Ascos.Outbox.Budget
import Ascos.Outbox.Rollback

/-!
# Histories of attempts

`mark_dispatching` opens an attempt, and the four methods that learn the outcome of a
dispatch close the last one.  `recover_expired` and `release_claim` move an operation
on without a look at its history: a dispatch whose claim expires leaves its attempt open, and
the operation comes back to `PENDING` with it once its reconciliation claim is released or
has expired too.

Main results:

- Theorem `record_attempts`: what one call does to the history of one operation.
- Theorem `History.wellFormed`: what holds of every history of attempts while no operation
  leaves reconciliation with an open attempt.
-/

namespace Ascos
namespace Outbox

open Library
open Ascos.Library.Program (exec_bind exec_map exec_modify exec_pure exec_throw)

variable {D : Digests} {r : Repository} {events earlier : List Event} {event : Event}
variable {id : String} {command : Command} {response : Response}
  {before after operation : OutboxOperation} {attempts : List OutboxAttempt}

/-! ## The claim on histories of attempts -/

/-- What a history of attempts should look like next to its operation. -/
structure WellFormed (D : Digests) (events : List Event) (operation : OutboxOperation)
    (attempts : List OutboxAttempt) : Prop where
  numbered : attempts.map (·.attemptNumber) = List.range' 1 operation.attemptCount
  ordered : attempts.Pairwise fun first second => first.startedAt ≤ second.startedAt
  completed : ∀ attempt ∈ attempts.dropLast, attempt.completedAt.isSome = true
  openLast : lastOpen attempts = true →
    operation.status = .dispatching ∨ operation.status = .reconciliationRequired ∨
      HeldForReconciliation D events operation

/-- Every operation on file has a well-formed history. -/
def AttemptHistories (D : Digests) (events : List Event) (r : Repository) : Prop :=
  ∀ id operation, r.operations.get? id = some operation →
    WellFormed D events operation (r.attempts[id]?.getD [])

/-- The clock readings of a history, newest first. -/
def clockReadings (events : List Event) : List Timestamp :=
  events.flatMap fun event => event.command.readings.reverse

/-- The clock of the repository does not go back. -/
def Clocked (events : List Event) : Prop :=
  (clockReadings events).Pairwise (· ≥ ·)

/-! ## The condition -/

/-- No claimed operation with an open attempt has expired. -/
def OpenLive (r : Repository) (now : Timestamp) : Prop :=
  ∀ operation ∈ r.operations.values, operation.status = .claimed →
    r.hasOpenAttempt operation.operationId = true → hasExpired now operation = false

/-- The calls that keep the histories: operations are added without attempts, and an operation
with an open attempt is neither released, nor recovered from its claim, nor dispatched, nor
abandoned. -/
def ClosedStep (D : Digests) (r : Repository) : Command → Prop
  | .addOperation operation => operation.attemptCount = 0
  | .releaseClaim claim t₀ =>
    WhenAccepted D r claim t₀ fun operation =>
      operation.status = .claimed → r.hasOpenAttempt operation.operationId = false
  | .markDispatching claim t₀ _ =>
    WhenAccepted D r claim t₀ fun operation =>
      operation.status = .claimed → r.hasOpenAttempt operation.operationId = false
  | .abandonOperation operationId _ _ =>
    (r.operations.get? operationId).map (·.status) = some .reconciliationRequired →
      r.hasOpenAttempt operationId = false
  | .recoverExpired now => OpenLive r now
  | .claimNext _ _ _ now => OpenLive r now
  | _ => True

/-- Every call of the history is a `ClosedStep`. -/
def ClosedCalls (D : Digests) (events : List Event) : Prop :=
  ∀ event ∈ events, ClosedStep D event.pre event.command

/-! ## Closing the last attempt -/

section FinishLast

variable (now : Timestamp) (outcome : String) (code : Option String)
variable (category : Option FailureCategory)

theorem map_attemptNumber_finishLast (attempts : List OutboxAttempt) :
    (finishLast now outcome code category attempts).map (·.attemptNumber) =
      attempts.map (·.attemptNumber) := by
  fun_induction lastOpen attempts with
  | case1 => rfl
  | case2 attempt =>
    unfold finishLast
    split
    · rfl
    · rfl
  | case3 first second rest ih =>
    rw [finishLast, List.map_cons, ih]
    rfl

theorem map_startedAt_finishLast (attempts : List OutboxAttempt) :
    (finishLast now outcome code category attempts).map (·.startedAt) =
      attempts.map (·.startedAt) := by
  fun_induction lastOpen attempts with
  | case1 => rfl
  | case2 attempt =>
    unfold finishLast
    split
    · rfl
    · rfl
  | case3 first second rest ih =>
    rw [finishLast, List.map_cons, ih]
    rfl

theorem lastOpen_finishLast (attempts : List OutboxAttempt) :
    lastOpen (finishLast now outcome code category attempts) = false := by
  fun_induction lastOpen attempts with
  | case1 => rfl
  | case2 attempt =>
    cases hcompleted : attempt.completedAt with
    | none => simp [finishLast, lastOpen, hcompleted]
    | some t => simp [finishLast, lastOpen, hcompleted]
  | case3 first second rest ih =>
    rw [finishLast]
    cases hrest : finishLast now outcome code category (second :: rest) with
    | nil =>
        have hkept := map_attemptNumber_finishLast now outcome code category (second :: rest)
        rw [hrest] at hkept
        cases hkept
    | cons next others =>
        rw [hrest] at ih
        exact ih

theorem dropLast_finishLast (attempts : List OutboxAttempt) :
    (finishLast now outcome code category attempts).dropLast = attempts.dropLast := by
  fun_induction lastOpen attempts with
  | case1 => rfl
  | case2 attempt =>
    unfold finishLast
    split
    · rfl
    · rfl
  | case3 first second rest ih =>
    rw [finishLast]
    cases hrest : finishLast now outcome code category (second :: rest) with
    | nil =>
        have hkept := map_attemptNumber_finishLast now outcome code category (second :: rest)
        rw [hrest] at hkept
        cases hkept
    | cons next others =>
        rw [hrest] at ih
        rw [List.dropLast_cons_cons, List.dropLast_cons_cons, ih]

end FinishLast

theorem completed_of_closed (hclosed : lastOpen attempts = false)
    (hcompleted : ∀ attempt ∈ attempts.dropLast, attempt.completedAt.isSome = true) :
    ∀ attempt ∈ attempts, attempt.completedAt.isSome = true := by
  fun_induction lastOpen attempts with
  | case1 => simp
  | case2 attempt => simpa [Option.isNone_eq_false_iff] using hclosed
  | case3 first second rest ih =>
    rw [List.dropLast_cons_cons] at hcompleted
    intro attempt hattempt
    rcases List.mem_cons.mp hattempt with rfl | hrest
    · exact hcompleted attempt List.mem_cons_self
    · exact ih hclosed (fun other hother => hcompleted other (List.mem_cons_of_mem _ hother))
        attempt hrest

/-! ## What a call does to a history -/

/-- The attempt that `mark_dispatching` opens. -/
def startedAttempt (now : Timestamp) (operation : OutboxOperation) : OutboxAttempt where
  operationId := operation.operationId
  attemptNumber := operation.attemptCount
  startedAt := now
  completedAt := none
  outcome := "STARTED"

/-- The calls that close the last attempt of an operation. -/
def Command.closes : Command → Bool
  | .markSucceeded _ _ _ _ | .markRetryWait _ _ _ _ _ _ | .markReconciliationRequired _ _ _ _
  | .markDeadLetter _ _ _ _ => true
  | _ => false

/-- The history of an operation next to its record after a call. -/
inductive AttemptStep (D : Digests) (r : Repository) (command : Command)
    (after : OutboxOperation) (attempts : List OutboxAttempt) : List OutboxAttempt → Prop
  | kept (hquiet : command.closes = false ∨
        r.operations.get? after.operationId = some after)
      (hundispatched : ∀ claim t₀ now, command = .markDispatching claim t₀ now →
        r.operations.get? after.operationId = some after) :
      AttemptStep D r command after attempts attempts
  | started (claim : OutboxClaim) (t₀ now : Timestamp) (before : OutboxOperation)
      (hcommand : command = .markDispatching claim t₀ now)
      (hverdict : claimVerdict D r claim t₀ = .ok before) (hclaimed : before.status = .claimed)
      (hafter : after = dispatchedRecord now before) :
      AttemptStep D r command after attempts (attempts ++ [startedAttempt now after])
  | finished (now : Timestamp) (outcome : String) (code : Option String)
      (category : Option FailureCategory) (hcloses : command.closes = true) :
      AttemptStep D r command after attempts (finishLast now outcome code category attempts)

theorem closes_effect (hcloses : command.closes = true)
    (houtcome : (record D r command).outcome = .ok response) :
    (record D r command).post = r ∨
      ∃ written now outcome code category,
        (record D r command).post.operations = r.operations.put written ∧
          (record D r command).post.attempts = r.attempts.modify written.operationId
            (finishLast now outcome code category) := by
  unfold record at houtcome ⊢
  cases command with
  | markSucceeded claim reference t₀ now =>
    cases hverdict : claimVerdict D r claim t₀ with
    | error error => simp [Command.run, Outbox.markSucceeded, hverdict]
    | ok operation =>
        by_cases hsucceeded : operation.status = .succeeded
        · simp [Command.run, Outbox.markSucceeded, hverdict, hsucceeded]
        · by_cases hrefused : operation.status ≠ .dispatching ∧
              ¬(operation.status = .claimed ∧ operation.reconciliationState = .inProgress)
          · left
            simp only [Command.run, Outbox.markSucceeded, exec_map, exec_bind,
              exec_validateClaim, hverdict, if_neg hsucceeded, if_pos hrefused,
              exec_throw]
          · refine .inr ⟨succeededRecord reference now operation, now, "SUCCEEDED", none, none,
              ?_, ?_⟩
            all_goals
              simp only [Command.run, Outbox.markSucceeded, exec_map,
                exec_bind, exec_validateClaim, hverdict, if_neg hsucceeded,
                if_neg hrefused, exec_store, exec_finishAttempt, exec_pure]
  | markRetryWait claim category code availableAt t₀ now =>
    cases hverdict : claimVerdict D r claim t₀ with
    | error error => simp [Command.run, Outbox.markRetryWait, hverdict]
    | ok operation =>
        by_cases hexhausted : (failedRecord category code operation).maximumAttempts ≤
            (failedRecord category code operation).attemptCount
        · refine .inr ⟨deadLetterRecord s!"Maximum attempts exhausted: {code}" now
            (failedRecord category code operation), now, "DEAD_LETTER", some code,
            some category, ?_, ?_⟩
          all_goals
            simp only [Command.run, Outbox.markRetryWait, deadLetter, exec_map,
              exec_bind, exec_validateClaim, hverdict, if_pos hexhausted, exec_store,
              exec_finishAttempt, exec_pure]
          rfl
        · refine .inr ⟨waitingRecord availableAt (failedRecord category code operation), now,
            "RETRY", some code, some category, ?_, ?_⟩
          all_goals
            simp only [Command.run, Outbox.markRetryWait, exec_map,
              exec_bind, exec_validateClaim, hverdict, if_neg hexhausted, exec_store,
              exec_finishAttempt, exec_pure]
  | markReconciliationRequired claim code t₀ now =>
    cases hverdict : claimVerdict D r claim t₀ with
    | error error => simp [Command.run, Outbox.markReconciliationRequired, hverdict]
    | ok operation =>
        refine .inr ⟨uncertainRecord code operation, now, "UNCERTAIN", some code,
          some .reconciliationRequired, ?_, ?_⟩
        all_goals
          simp only [Command.run, Outbox.markReconciliationRequired, exec_map,
            exec_bind, exec_validateClaim, hverdict, exec_store, exec_finishAttempt,
            exec_pure]
  | markDeadLetter claim reason t₀ now =>
    cases hverdict : claimVerdict D r claim t₀ with
    | error error => simp [Command.run, Outbox.markDeadLetter, hverdict]
    | ok operation =>
        refine .inr ⟨deadLetterRecord reason now operation, now, "DEAD_LETTER",
          operation.failureCode, operation.failureCategory, ?_, ?_⟩
        all_goals
          simp only [Command.run, Outbox.markDeadLetter, deadLetter, exec_map,
            exec_bind, exec_validateClaim, hverdict, exec_store, exec_finishAttempt,
            exec_pure]
        rfl
  | _ => cases hcloses

/-- A call that neither opens nor closes an attempt leaves the histories alone. -/
theorem attempts_of_quiet (hcloses : command.closes = false)
    (hdispatch : ∀ claim t₀ now, command ≠ .markDispatching claim t₀ now) :
    (record D r command).post.attempts = r.attempts := by
  have htouched := Command.run_attempts D r command
  cases command with
  | markDispatching claim t₀ now => exact absurd rfl (hdispatch claim t₀ now)
  | markSucceeded => cases hcloses
  | markRetryWait => cases hcloses
  | markReconciliationRequired => cases hcloses
  | markDeadLetter => cases hcloses
  | _ => exact htouched

theorem dispatch_effect {claim : OutboxClaim} {t₀ now : Timestamp}
    (hverdict : claimVerdict D r claim t₀ = .ok before) (hclaimed : before.status = .claimed) :
    (record D r (.markDispatching claim t₀ now)).post.operations =
        r.operations.put (dispatchedRecord now before) ∧
      (record D r (.markDispatching claim t₀ now)).post.attempts =
        r.attempts.insert before.operationId ((r.attempts[before.operationId]?.getD []) ++
          [startedAttempt now (dispatchedRecord now before)]) := by
  constructor
  all_goals
    simp only [record, Command.run, Outbox.markDispatching, exec_map, exec_bind,
      exec_validateClaim, hverdict, hclaimed, ne_eq, not_true_eq_false, if_false,
      exec_pure, exec_store, exec_modify]
  rfl

/-- What one call does to the operations and their histories. -/
inductive AttemptsEffect (D : Digests) (r : Repository) (command : Command)
    (post : Repository) : Prop
  | nothing (hpost : post = r)
  | quiet (hcloses : command.closes = false)
      (hdispatch : ∀ claim t₀ now, command ≠ .markDispatching claim t₀ now)
      (hattempts : post.attempts = r.attempts)
  | opened (claim : OutboxClaim) (t₀ now : Timestamp) (before : OutboxOperation)
      (hcommand : command = .markDispatching claim t₀ now)
      (hverdict : claimVerdict D r claim t₀ = .ok before) (hclaimed : before.status = .claimed)
      (htable : post.operations = r.operations.put (dispatchedRecord now before))
      (hattempts : post.attempts = r.attempts.insert before.operationId
        ((r.attempts[before.operationId]?.getD []) ++
          [startedAttempt now (dispatchedRecord now before)]))
  | closed (written : OutboxOperation) (now : Timestamp) (outcome : String)
      (code : Option String) (category : Option FailureCategory)
      (hcloses : command.closes = true)
      (htable : post.operations = r.operations.put written)
      (hattempts : post.attempts = r.attempts.modify written.operationId
        (finishLast now outcome code category))

theorem attempts_effect (D : Digests) (r : Repository) (command : Command) :
    AttemptsEffect D r command (record D r command).post := by
  rcases record_cases D r command with ⟨error, -, hpost⟩ | ⟨response, houtcome, heffect⟩
  · exact .nothing hpost
  by_cases hcloses : command.closes = true
  · rcases closes_effect hcloses houtcome with
      hpost | ⟨written, now, outcome, code, category, htable, hattempts⟩
    · exact .nothing hpost
    · exact .closed written now outcome code category hcloses htable hattempts
  rw [Bool.not_eq_true] at hcloses
  by_cases hdispatch : ∃ claim t₀ now, command = .markDispatching claim t₀ now
  · obtain ⟨claim, t₀, now, rfl⟩ := hdispatch
    obtain ⟨before, hverdict, hclaimed, -⟩ := heffect
    obtain ⟨htable, hattempts⟩ := @dispatch_effect D r before claim t₀ now hverdict hclaimed
    exact .opened claim t₀ now before rfl hverdict hclaimed htable hattempts
  · have hnone : ∀ claim t₀ now, command ≠ .markDispatching claim t₀ now :=
      fun claim t₀ now h => hdispatch ⟨claim, t₀, now, h⟩
    exact .quiet hcloses hnone (attempts_of_quiet hcloses hnone)

/-- What one call does to the history of an operation on file after it. -/
theorem record_attempts (hafter : (record D r command).post.operations.get? id = some after) :
    AttemptStep D r command after (r.attempts[id]?.getD [])
      ((record D r command).post.attempts[id]?.getD []) := by
  have hid := OperationTable.operationId_of_get? hafter
  cases attempts_effect D r command with
  | nothing hpost =>
    rw [hpost] at hafter ⊢
    rw [← hid] at hafter
    exact .kept (.inr hafter) fun _ _ _ _ => hafter
  | quiet hcloses hdispatch hattempts =>
    rw [hattempts]
    exact .kept (.inl hcloses) fun claim t₀ now h => absurd h (hdispatch claim t₀ now)
  | opened claim t₀ now before hcommand hverdict hclaimed htable hattempts =>
    have hkey : (dispatchedRecord now before).operationId = before.operationId := rfl
    rw [hattempts]
    rw [htable, OperationTable.get?_put, hkey] at hafter
    by_cases hsame : before.operationId = id
    · rw [if_pos hsame, Option.some.injEq] at hafter
      subst hsame hafter
      rw [Std.ExtTreeMap.getElem?_insert_self, Option.getD_some]
      exact .started claim t₀ now before hcommand hverdict hclaimed rfl
    · rw [if_neg hsame, ← hid] at hafter
      rw [Std.ExtTreeMap.getElem?_insert, if_neg (by simpa using hsame)]
      exact .kept (.inr hafter) fun _ _ _ _ => hafter
  | closed written now outcome code category hcloses htable hattempts =>
    rw [hattempts, Std.ExtTreeMap.getElem?_modify]
    rw [htable, OperationTable.get?_put] at hafter
    by_cases hsame : written.operationId = id
    · have hfinished : ((r.attempts[id]?).map (finishLast now outcome code category)).getD [] =
          finishLast now outcome code category (r.attempts[id]?.getD []) := by
        cases r.attempts[id]? with
        | none => rfl
        | some found => rfl
      rw [if_pos (by simpa using hsame), hsame, hfinished]
      exact .finished now outcome code category hcloses
    · rw [if_neg hsame, ← hid] at hafter
      rw [if_neg (by simpa using hsame)]
      exact .kept (.inr hafter) fun _ _ _ _ => hafter

/-- No call writes a history of an operation that is not on file after it. -/
theorem attempts_of_unfiled (hunfiled : (record D r command).post.operations.get? id = none) :
    (record D r command).post.attempts[id]? = r.attempts[id]? := by
  cases attempts_effect D r command with
  | nothing hpost => rw [hpost]
  | quiet hcloses hdispatch hattempts => rw [hattempts]
  | opened claim t₀ now before hcommand hverdict hclaimed htable hattempts =>
    have hkey : (dispatchedRecord now before).operationId = before.operationId := rfl
    rw [htable, OperationTable.get?_put, hkey] at hunfiled
    split at hunfiled
    · cases hunfiled
    · rename_i hother
      rw [hattempts, Std.ExtTreeMap.getElem?_insert, if_neg (by simpa using hother)]
  | closed written now outcome code category hcloses htable hattempts =>
    rw [htable, OperationTable.get?_put] at hunfiled
    split at hunfiled
    · cases hunfiled
    · rename_i hother
      rw [hattempts, Std.ExtTreeMap.getElem?_modify, if_neg (by simpa using hother)]

theorem History.attempts_eq_nil (history : History D events r)
    (hunfiled : r.operations.get? id = none) : r.attempts[id]?.getD [] = [] := by
  induction history with
  | start => rfl
  | @call events r history command ih =>
    have hbefore : r.operations.get? id = none := by
      by_contra hsome
      obtain ⟨before, hfiled⟩ := Option.ne_none_iff_exists'.mp hsome
      obtain ⟨after, hafter⟩ := record_stays_filed D r command hfiled
      rw [hunfiled] at hafter
      cases hafter
    rw [attempts_of_unfiled hunfiled]
    exact ih hbefore

/-! ## Histories stay well formed -/

theorem RecordStep.attemptCount (hstep : RecordStep D r command response before after)
    (hdispatch : ∀ claim t₀ now, command = .markDispatching claim t₀ now → after = before) :
    after.attemptCount = before.attemptCount := by
  have hrecovered (now : Timestamp) :
      (recoverOne now before).attemptCount = before.attemptCount := by
    unfold recoverOne
    split
    · split
      · rfl
      · rfl
    · rfl
  cases hstep with
  | recovered now => exact hrecovered now
  | recoveredFirst ownerId token ttlSeconds now => exact hrecovered now
  | claimed ownerId token ttlSeconds now => exact hrecovered now
  | dispatched claim t₀ now => rw [hdispatch claim t₀ now rfl]
  | _ => rfl

/-- Where an operation with an open attempt may be. -/
def AwaitsOutcome (D : Digests) (events : List Event) (operation : OutboxOperation) : Prop :=
  operation.status = .dispatching ∨ operation.status = .reconciliationRequired ∨
    HeldForReconciliation D events operation

theorem AwaitsOutcome.weaken (h : AwaitsOutcome D events operation) :
    AwaitsOutcome D (event :: events) operation := by
  obtain hdispatching | hrequired | hheld := h
  · exact .inl hdispatching
  · exact .inr (.inl hrequired)
  · exact .inr (.inr hheld.weaken)

theorem AwaitsOutcome.recoverOne {now : Timestamp} (h : AwaitsOutcome D events operation)
    (hlive : operation.status = .claimed → hasExpired now operation = false) :
    AwaitsOutcome D events (recoverOne now operation) := by
  obtain hsame | ⟨hexpired, -, ⟨-, hstatus, -⟩ | ⟨hclaimed, -⟩⟩ := recoverOne_cases now operation
  · rw [hsame]
    exact h
  · exact .inr (.inl hstatus)
  · rw [hlive hclaimed] at hexpired
    cases hexpired

theorem AwaitsOutcome.not_eligible (h : AwaitsOutcome D events operation) :
    ¬(operation.status = .pending ∨ operation.status = .retryWait) := by
  intro hstatus
  obtain hdispatching | hrequired | ⟨hclaimed, -⟩ := h
  · simp [hdispatching] at hstatus
  · simp [hrequired] at hstatus
  · simp [hclaimed] at hstatus

theorem AwaitsOutcome.of_recordStep (h : AwaitsOutcome D earlier before)
    (hfiled : r.operations.get? before.operationId = some before)
    (hopen : r.hasOpenAttempt before.operationId = true) (hclosed : ClosedStep D r command)
    (hcommand : event.command = command) (houtcome : event.outcome = .ok response)
    (hquiet : command.closes = false ∨ after = before)
    (hother : ∀ claim t₀ now, command = .markDispatching claim t₀ now → after = before)
    (habandoned : ∀ operationId reason now,
      command = .abandonOperation operationId reason now →
        operationId = before.operationId ∨ after = before)
    (hstep : RecordStep D r command response before after) :
    AwaitsOutcome D (event :: earlier) after := by
  by_cases hsame : after = before
  · rw [hsame]
    exact h.weaken
  have hshut : command.closes = false := hquiet.resolve_right hsame
  have hlive : ∀ {now}, OpenLive r now → before.status = .claimed →
      hasExpired now before = false := fun hlive hclaimed =>
    hlive before (OperationTable.mem_values.mpr hfiled) hclaimed hopen
  cases hstep with
  | untouched => exact h.weaken
  | recovered now => exact (h.recoverOne (hlive hclosed)).weaken
  | recoveredFirst ownerId token ttlSeconds now => exact (h.recoverOne (hlive hclosed)).weaken
  | claimed ownerId token ttlSeconds now _ hstatus =>
    exact absurd hstatus (h.recoverOne (hlive hclosed)).not_eligible
  | claimedReconciliation ownerId token ttlSeconds now _ hstatus =>
    refine .inr (.inr ⟨rfl, ?_⟩)
    refine ⟨issuedClaim ownerId token now ttlSeconds before, ?_, rfl, rfl⟩
    refine List.mem_filterMap.mpr ⟨event, List.mem_cons_self, ?_⟩
    simp only [Event.issuedForReconciliation, hcommand, houtcome]
  | renewed claim ttlSeconds t₀ now _ hverdict =>
    obtain hdispatching | hrequired | ⟨hclaimed, issued, hissued, hid, hmatch⟩ := h
    · exact .inl hdispatching
    · exact .inr (.inl hrequired)
    · obtain ⟨-, howner, hhash, hfence⟩ := onRecord_eq_some_iff.mp hmatch
      refine .inr (.inr (HeldForReconciliation.weaken ⟨hclaimed, issued, hissued, hid, ?_⟩))
      exact onRecord_eq_some_iff.mpr ⟨⟨_, rfl⟩, howner, hhash, hfence⟩
  | released claim t₀ _ _ hverdict hstatus =>
    simp only [ClosedStep, WhenAccepted, hverdict] at hclosed
    rw [hclosed hstatus] at hopen
    cases hopen
  | dispatched claim t₀ now => exact absurd (hother claim t₀ now rfl) hsame
  | cancelled operationId now _ _ hstatus => exact absurd hstatus h.not_eligible
  | abandoned operationId reason now _ _ hstatus =>
    have hkey := (habandoned operationId reason now rfl).resolve_right hsame
    have hrequired : before.status = .reconciliationRequired := by
      obtain hdispatching | hrequired | ⟨hclaimed, -⟩ := h
      · exact absurd hdispatching hstatus.2.1
      · exact hrequired
      · exact absurd hclaimed hstatus.1
    subst hkey
    have hnone : r.hasOpenAttempt before.operationId = false :=
      hclosed (by rw [hfiled, Option.map_some, hrequired])
    rw [hnone] at hopen
    cases hopen
  | retried operationId now _ _ hstatus =>
    obtain hdispatching | hrequired | ⟨hclaimed, -⟩ := h
    · simp [hdispatching] at hstatus
    · simp [hrequired] at hstatus
    · simp [hclaimed] at hstatus
  | succeeded => cases hshut
  | exhausted => cases hshut
  | waiting => cases hshut
  | uncertain => cases hshut
  | deadLettered => cases hshut

theorem History.startedAt_mem (history : History D events r)
    (hfiled : r.operations.get? id = some operation) {attempt : OutboxAttempt}
    (hattempt : attempt ∈ r.attempts[id]?.getD []) :
    attempt.startedAt ∈ clockReadings events := by
  induction history generalizing operation attempt with
  | start =>
    rw [Repository.init, OperationTable.get?_empty] at hfiled
    cases hfiled
  | @call events r history command ih =>
    have hearlier : ∀ {other : OutboxAttempt}, other ∈ r.attempts[id]?.getD [] →
        other.startedAt ∈ clockReadings (record D r command :: events) := by
      intro other hother
      refine List.mem_append_right _ ?_
      cases hbefore : r.operations.get? id with
      | none =>
          rw [history.attempts_eq_nil hbefore] at hother
          cases hother
      | some before => exact ih hbefore hother
    have hstep := record_attempts hfiled
    generalize (record D r command).post.attempts[id]?.getD [] = written at hstep hattempt
    cases hstep with
    | kept => exact hearlier hattempt
    | started claim t₀ now before hcommand =>
        rcases List.mem_append.mp hattempt with hold | hnew
        · exact hearlier hold
        · rw [List.mem_singleton] at hnew
          subst hnew hcommand
          exact List.mem_append_left _ (by simp [record, Command.readings, startedAttempt])
    | finished now outcome code category =>
        have hstarted : attempt.startedAt ∈
            (finishLast now outcome code category (r.attempts[id]?.getD [])).map
              (·.startedAt) := List.mem_map_of_mem hattempt
        rw [map_startedAt_finishLast] at hstarted
        obtain ⟨other, hother, hsame⟩ := List.mem_map.mp hstarted
        rw [← hsame]
        exact hearlier hother

theorem WellFormed.weaken (h : WellFormed D events operation attempts) :
    WellFormed D (event :: events) operation attempts :=
  ⟨h.numbered, h.ordered, h.completed,
    fun hopen => AwaitsOutcome.weaken (h.openLast hopen)⟩

/-- A dispatch appends an attempt to a complete history. -/
theorem WellFormed.started {now : Timestamp} (h : WellFormed D earlier before attempts)
    (hclosed : lastOpen attempts = false)
    (hlater : ∀ attempt ∈ attempts, attempt.startedAt ≤ now) :
    WellFormed D events (dispatchedRecord now before)
      (attempts ++ [startedAttempt now (dispatchedRecord now before)]) where
  numbered := by
    rw [List.map_append, h.numbered]
    simp only [dispatchedRecord, startedAttempt, List.map_cons, List.map_nil,
      List.range'_1_concat]
    rw [Nat.add_comm 1]
  ordered := by
    refine List.pairwise_append.mpr ⟨h.ordered, List.pairwise_singleton _ _, ?_⟩
    intro first hfirst second hsecond
    rw [List.mem_singleton] at hsecond
    rw [hsecond]
    exact hlater first hfirst
  completed := by
    rw [List.dropLast_concat]
    exact completed_of_closed hclosed h.completed
  openLast _ := .inl rfl

/-- Closing the last attempt keeps the numbers and the order of the attempts. -/
theorem WellFormed.finished (h : WellFormed D earlier before attempts)
    (hcount : after.attemptCount = before.attemptCount) (now : Timestamp) (outcome : String)
    (code : Option String) (category : Option FailureCategory) :
    WellFormed D events after (finishLast now outcome code category attempts) where
  numbered := by
    rw [map_attemptNumber_finishLast, hcount]
    exact h.numbered
  ordered := by
    have hordered : (attempts.map (·.startedAt)).Pairwise (· ≤ ·) :=
      List.pairwise_map.mpr h.ordered
    rw [← map_startedAt_finishLast now outcome code category] at hordered
    exact List.pairwise_map.mp hordered
  completed := by
    rw [dropLast_finishLast]
    exact h.completed
  openLast hopen := by
    rw [lastOpen_finishLast] at hopen
    cases hopen

theorem History.wellFormed (history : History D events r) (hclocked : Clocked events)
    (hclosed : ClosedCalls D events) (hfiled : r.operations.get? id = some operation) :
    WellFormed D events operation (r.attempts[id]?.getD []) := by
  induction history generalizing operation with
  | start =>
    rw [Repository.init, OperationTable.get?_empty] at hfiled
    cases hfiled
  | @call events r history command ih =>
    have hid := OperationTable.operationId_of_get? hfiled
    have hclockedEarlier : Clocked events := (List.pairwise_append.mp hclocked).2.1
    have hclosedEarlier : ClosedCalls D events :=
      fun source hsource => hclosed source (List.mem_cons_of_mem _ hsource)
    have hstep : ClosedStep D r command :=
      hclosed (record D r command) List.mem_cons_self
    rcases record_cases D r command with ⟨error, -, hpost⟩ | ⟨response, houtcome, heffect⟩
    · rw [hpost] at hfiled ⊢
      exact (ih hclockedEarlier hclosedEarlier hfiled).weaken
    rcases heffect.recordStep hfiled with ⟨before, hbefore, hrecord⟩ | ⟨hnew, hadded⟩
    · have hwell := ih hclockedEarlier hclosedEarlier hbefore
      have hsame : r.operations.get? operation.operationId = some operation →
          operation = before := by
        intro hget
        rw [hid, hbefore, Option.some.injEq] at hget
        exact hget.symm
      have hattempts := record_attempts hfiled
      generalize (record D r command).post.attempts[id]?.getD [] = written at hattempts ⊢
      cases hattempts with
      | kept hquiet hundispatched =>
          have hother : ∀ claim t₀ now, command = .markDispatching claim t₀ now →
              operation = before := fun claim t₀ now h => hsame (hundispatched claim t₀ now h)
          refine ⟨?_, hwell.ordered, hwell.completed, fun hopen => ?_⟩
          · rw [hrecord.attemptCount hother]
            exact hwell.numbered
          · have hkey := OperationTable.operationId_of_get? hbefore
            refine AwaitsOutcome.of_recordStep (hwell.openLast hopen) (filed_of_get? hbefore)
              (by rw [hkey]; exact hopen) hstep rfl houtcome (hquiet.imp_right hsame) hother
              ?_ hrecord
            -- an abandoned operation is another one or this one
            rintro operationId reason now rfl
            by_cases hthis : operationId = id
            · exact .inl (hthis.trans hkey.symm)
            · obtain ⟨abandoned, hget, -, htable⟩ := heffect
              rw [htable, get?_put_of_get?_ne (abandonedRecord reason now abandoned) hget rfl
                hthis, hbefore] at hfiled
              exact .inr (Option.some.inj hfiled).symm
      | started claim t₀ now found hcommand hverdict hclaimed hafter =>
          have hfound : found = before := by
            have hget := filed_of_claimVerdict hverdict
            have hkey : found.operationId = id := by
              rw [← hid, hafter]
              rfl
            rw [hkey, hbefore, Option.some.injEq] at hget
            exact hget.symm
          subst hfound hafter hcommand
          have hlast : lastOpen (r.attempts[id]?.getD []) = false := by
            simp only [ClosedStep, WhenAccepted, hverdict] at hstep
            have hnone := hstep hclaimed
            rw [Repository.hasOpenAttempt, OperationTable.operationId_of_get? hbefore] at hnone
            exact hnone
          refine hwell.started hlast fun attempt hattempt => ?_
          have hmem := history.startedAt_mem hbefore hattempt
          exact (List.pairwise_append.mp hclocked).2.2 now
            (by simp [record, Command.readings]) _ hmem
      | finished now outcome code category hcloses =>
          refine hwell.finished (hrecord.attemptCount ?_) now outcome code category
          intro claim t₀ now h
          rw [h] at hcloses
          cases hcloses
    · subst hadded
      have hnone := history.attempts_eq_nil hnew
      rw [attempts_of_quiet rfl (fun claim t₀ now h => by cases h), hnone]
      have hcount : operation.attemptCount = 0 := hstep
      refine ⟨?_, .nil, ?_, ?_⟩
      · rw [hcount]
        rfl
      · intro attempt hattempt
        cases hattempt
      · intro hopen
        cases hopen

/-- In a history in which no operation leaves reconciliation with an open attempt, every
operation has a well-formed history of attempts. -/
theorem attempt_histories (history : History D events r) (hclocked : Clocked events)
    (hclosed : ClosedCalls D events) : AttemptHistories D events r := by
  intro id operation hfiled
  exact history.wellFormed hclocked hclosed hfiled

instance (r : Repository) (now : Timestamp) : Decidable (OpenLive r now) :=
  inferInstanceAs (Decidable (∀ operation ∈ r.operations.values, _ → _ → _))

instance (r : Repository) : (command : Command) → Decidable (ClosedStep D r command)
  | .addOperation _ => inferInstanceAs (Decidable (_ = 0))
  | .releaseClaim _ _ => inferInstanceAs (Decidable (WhenAccepted D r _ _ _))
  | .markDispatching _ _ _ => inferInstanceAs (Decidable (WhenAccepted D r _ _ _))
  | .abandonOperation _ _ _ => inferInstanceAs (Decidable (_ → _))
  | .recoverExpired now => inferInstanceAs (Decidable (OpenLive r now))
  | .claimNext _ _ _ now => inferInstanceAs (Decidable (OpenLive r now))
  | .claimReconciliation _ _ _ _ | .renewClaim _ _ _ _ | .markSucceeded _ _ _ _
  | .markRetryWait _ _ _ _ _ _ | .markReconciliationRequired _ _ _ _ | .markDeadLetter _ _ _ _
  | .cancelOperation _ _ | .retryDeadLetter _ _ | .setProviderPause _ _ => .isTrue trivial

instance (events : List Event) : Decidable (ClosedCalls D events) :=
  inferInstanceAs (Decidable (∀ event ∈ events, _))

instance (events : List Event) : Decidable (Clocked events) :=
  inferInstanceAs (Decidable (List.Pairwise _ _))

/-- A reconciler releases the only operation, whose uncertain attempt is closed, and a worker
opens the second attempt. -/
theorem attempt_histories_released :
    AttemptHistories sampleDigests (play sampleDigests releasedUnexecuted).1
      (play sampleDigests releasedUnexecuted).2 :=
  attempt_histories (history_play sampleDigests releasedUnexecuted) (by decide +kernel)
    (by decide +kernel)

/-- A worker dies after its dispatch, its claim expires, and a reconciler takes the operation
up and releases it. -/
def releasedOpen : List Command :=
  [.releaseClaim
      { operationId := "op-1", ownerId := "reconciler", token := "t2",
        claimedAt := timedelta 40, expiresAt := timedelta 70, fencingToken := 2 } (timedelta 45),
    .claimReconciliation "reconciler" "t2" 30 (timedelta 40), .recoverExpired (timedelta 35),
    .markDispatching
      { operationId := "op-1", ownerId := "worker-1", token := "t1", claimedAt := 0,
        expiresAt := timedelta 30, fencingToken := 1 } (timedelta 1) (timedelta 1),
    .claimNext "worker-1" "t1" 30 0, .addOperation sampleOperation]

/-- The released operation is dispatched again. -/
def dispatchedOverOpen : List Command :=
  [.markDispatching
      { operationId := "op-1", ownerId := "worker-2", token := "t3",
        claimedAt := timedelta 50, expiresAt := timedelta 80, fencingToken := 3 }
      (timedelta 51) (timedelta 51),
    .claimNext "worker-2" "t3" 30 (timedelta 50)] ++ releasedOpen

/-- An attempt that no call closed stays open while its operation is pending again, and a
second attempt follows it. -/
theorem not_attempt_histories :
    (¬∀ (D : Digests) (events : List Event) (r : Repository), History D events r →
        Clocked events → AttemptHistories D events r) ∧
      (play sampleDigests dispatchedOverOpen).2.attempts["op-1"]?.map
        (·.map (·.completedAt)) = some [none, none] := by
  refine ⟨fun hclaim => ?_, by decide +kernel⟩
  have hhistories := hclaim sampleDigests _ _ (history_play sampleDigests releasedOpen)
    (by decide +kernel)
  have hpending : ((play sampleDigests releasedOpen).2.operations.get? "op-1").map
      (·.status) = some .pending := by decide +kernel
  obtain ⟨operation, hfiled, hstatus⟩ := Option.map_eq_some_iff.mp hpending
  have hopen : lastOpen ((play sampleDigests releasedOpen).2.attempts["op-1"]?.getD []) =
      true := by decide +kernel
  have hawaits : AwaitsOutcome sampleDigests (play sampleDigests releasedOpen).1 operation :=
    (hhistories "op-1" operation hfiled).openLast hopen
  exact hawaits.not_eligible (.inl hstatus)

end Outbox
end Ascos
