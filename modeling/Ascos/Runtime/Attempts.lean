import Ascos.Runtime.Publishers

/-!
# Execution attempts

`ExecutionService.execute_assignment` and `execute_correction` run the executor of
an eligible assignment and record how it went.  An exception is recorded by its text, which is
checked like any other text, so the handler itself raises when that text is blank: the attempt
is rolled back.  An `ExecutionFailedError` of the executor is taken for a failure that was
recorded already.

Main results:

- Theorem `runExecutor_outcome`: what running an executor leads to, for each of its
  outcomes.
- Theorem `execute_outcome`: the same of the whole method.
- Theorem `attempt_recorded_iff`: an attempt is recorded if and only if its outcome is
  recordable.
-/

namespace Ascos
namespace Runtime

open Library Library.Action

variable {α : Type} {env : Environment} {h : State} {Q : α → State → Prop}
  {E : RuntimeError → State → Prop}

/-! ## Calls that do not fail from outside -/

/-- The environment fails no call and no append of events. -/
def Environment.Quiet (env : Environment) : Prop :=
  ∀ n, (env n).failure = none ∧ (env n).storeFailure = none

theorem Environment.Quiet.sound (hquiet : env.Quiet) : env.Sound := by
  intro n error herror
  rw [(hquiet n).1] at herror
  cases herror

theorem Meets.failurePoint_quiet {f : Unit → Method α} (hquiet : env.Quiet)
    (hf : Meets env (f ()) h Q E) : Meets env (failurePoint >>= f) h Q E := by
  unfold failurePoint
  rw [meets_bind_assoc]
  refine Meets.ask_bind fun n => ?_
  rw [(hquiet n).1]
  exact hf

theorem Meets.publish_quiet {eventType : EventType} {aggregateType aggregateId : String}
    {payload : Payload} {correlationId causationId : Option String}
    {Q : RuntimeEvent → State → Prop} (hquiet : env.Quiet)
    (htype : isBlank aggregateType = false) (hid : isBlank aggregateId = false)
    (hcorrelation : ∀ text ∈ correlationId, isBlank text = false)
    (hcausation : ∀ text ∈ causationId, isBlank text = false) (hQ : ∀ event, Q event h) :
    Meets env (Runtime.publish eventType aggregateType aggregateId payload correlationId
      causationId) h Q E := by
  have hvalid : ∀ value : Option String, (∀ text ∈ value, isBlank text = false) →
      ¬∃ text ∈ value, isBlank text = true := by
    rintro value hvalue ⟨text, hmem, hblank⟩
    rw [hvalue text hmem] at hblank
    cases hblank
  unfold Runtime.publish validateRequiredString validateOptionalString
  refine Meets.failurePoint_quiet hquiet ?_
  simp only [meets_raiseIf_bind]
  refine ⟨fun hblank => ?_, fun _ => ⟨fun hblank => ?_, fun _ =>
    ⟨fun hblank => absurd hblank (hvalid _ hcorrelation), fun _ =>
      ⟨fun hblank => absurd hblank (hvalid _ hcausation), fun _ => ?_⟩⟩⟩⟩
  · rw [htype] at hblank
    cases hblank
  · rw [hid] at hblank
    cases hblank
  refine Meets.loggedEvents_bind fun events => ?_
  refine Meets.now_bind fun occurredAt => ?_
  refine Meets.bind (Meets.tryExcept (Meets.emit transactions ?_))
  exact meets_pure.mpr (hQ _)

/-- What the inner `try` of an operation makes of an outcome of the method: an
`ExecutionFailedError` is kept back as a value. -/
def Kept (Q : α → State → Prop) (E : RuntimeError → State → Prop) :
    Except RuntimeError α → State → Prop
  | .ok a, h => Q a h
  | .error error, h => error.isExecutionFailed = true ∧ E error h

theorem Meets.keepDomainFailure_quiet {method : Method α} (hquiet : env.Quiet)
    (hmethod : Meets env method h Q E) :
    Meets env (keepDomainFailure (failurePoint >>= fun _ => method)) h (Kept Q E)
      (fun error h' => error.isExecutionFailed = false ∧ E error h') := by
  unfold keepDomainFailure
  refine Meets.tryExcept (Meets.map (Meets.failurePoint_quiet hquiet (hmethod.mono ?_ ?_)))
  · intro result h' hQ
    exact hQ
  · intro error h' hE
    by_cases hfailed : error.isExecutionFailed = true
    · rw [if_pos hfailed, meets_pure]
      exact ⟨hfailed, hE⟩
    · rw [if_neg hfailed, meets_raise]
      exact ⟨by simpa using hfailed, hE⟩

theorem Meets.operation_quiet {method : Method α} (hquiet : env.Quiet)
    (hmethod : Meets env method h Q E) :
    Meets env (Runtime.atomicDomainOperation method) h Q E := by
  unfold Runtime.atomicDomainOperation
  refine Meets.bind (Meets.atomic_nested transactions
    ((Meets.keepDomainFailure_quiet hquiet hmethod).mono ?_ ?_))
  · intro outcome h' hkept
    rw [meets_pure_bind]
    cases outcome with
    | ok result => exact meets_pure.mpr hkept
    | error error => exact meets_raise.mpr hkept.2
  · intro error h' hE
    exact hE.2

/-- An operation in a published world returns what its method returns, or raises what it
raises; what an `ExecutionFailedError` leaves is committed. -/
theorem operation_outcome {method : Method α} {w : World} (hquiet : env.Quiet)
    (hw : Published w) (hpublishes : Publishes method)
    (hmethod : Meets env method w.heap Q E) :
    (∃ result w', (atomicDomainOperation method).run env w = (.ok result, w') ∧
        Q result w'.heap) ∨
      ∃ error w' h', (atomicDomainOperation method).run env w = (.error error, w') ∧
        E error h' ∧ (error.isExecutionFailed = true → w'.heap = h') := by
  cases hcurrent : w.current with
  | some t =>
    have houtcome := (Meets.operation_quiet hquiet hmethod) w rfl (by rw [hcurrent]; rfl)
    rcases hrun : (atomicDomainOperation method).run env w with ⟨error | result, w'⟩
    · rw [hrun] at houtcome
      exact .inr ⟨error, w', w'.heap, rfl, houtcome, fun _ => rfl⟩
    · rw [hrun] at houtcome
      exact .inl ⟨result, w', rfl, houtcome⟩
  | none =>
    have hbody := (Meets.keepDomainFailure_quiet hquiet hmethod) (transactions.opened w) rfl rfl
    obtain ⟨-, t, ht, -⟩ := body_of_opened transactions
      (keepDomainFailure (failurePoint >>= fun _ => method)) env w
    have hkeeps : Publishes (keepDomainFailure (failurePoint >>= fun _ => method)) := by
      unfold keepDomainFailure
      infer_instance
    have hpublished := Published.run env hkeeps (.opened hcurrent hw)
    rcases hrun : (keepDomainFailure (failurePoint >>= fun _ => method)).run env
      (transactions.opened w) with ⟨error | outcome, w₁⟩
    · -- the method raised an error that rolls back
      rw [hrun] at hbody ht
      have hatomic : (atomicDomainOperation method).run env w =
          (.error error, Coordinator.rolledBack w₁ t) := by
        unfold atomicDomainOperation
        rw [run_bind, atomic_run_outermost transactions hcurrent, hrun,
          transactions.close_error env error ht]
      refine .inr ⟨error, _, w₁.heap, hatomic, hbody.2, fun hfailed => ?_⟩
      rw [hbody.1] at hfailed
      cases hfailed
    · -- the staged events are accepted, since they are numbered
      rw [hrun] at hbody ht hpublished
      have haccepted : addEvents (env w₁.readings) w₁.eventStore t.stagedEvents =
          (.ok (), w₁.eventStore ++ t.stagedEvents) := by
        have hstaged : stagedBatch w₁ = t.stagedEvents := by
          have hcurrent₁ : w₁.current = some t := ht
          simp [stagedBatch, hcurrent₁]
        rcases addEvents_of_acceptable hpublished.numbered.acceptable (env w₁.readings) with
          hok | ⟨failAt, error, hfailure, -⟩
        · rw [hstaged] at hok
          exact hok
        · rw [(hquiet _).2] at hfailure
          cases hfailure
      have hatomic : (atomicDomainOperation method).run env w =
          (releaseDomainFailure outcome).run env { w₁ with
            eventStore := w₁.eventStore ++ t.stagedEvents, current := none,
            readings := w₁.readings + 1 } := by
        unfold atomicDomainOperation
        rw [run_bind, atomic_run_outermost transactions hcurrent, hrun,
          transactions.close_ok env outcome ht, Coordinator.commit]
        simp only [transactions, haccepted]
        rfl
      rw [hatomic]
      cases outcome with
      | ok result => exact .inl ⟨result, _, rfl, hbody⟩
      | error error => exact .inr ⟨error, _, w₁.heap, rfl, hbody.2, fun _ => rfl⟩

/-! ## Starting -/

/-- Nothing is raised. -/
abbrev Never (_ : RuntimeError) (_ : State) : Prop := False

theorem Meets.getWorkPackage_quiet {packageId : String} {f : WorkPackage → Method α}
    (hpackage : packageId ∈ h .workPackages)
    (hf : Meets env (f (h (.workPackage packageId))) h Q E) :
    Meets env (getWorkPackage packageId >>= f) h Q E := by
  unfold getWorkPackage
  simp only [meets_bind_assoc, meets_read_bind, meets_raiseIf_bind]
  exact ⟨fun hmissing => absurd hpackage hmissing, fun _ => hf⟩

theorem Meets.getWorkItem_quiet {packageId workItemId : String} {f : WorkItem → Method α}
    (hpackage : packageId ∈ h .workPackages) (hitem : workItemId ∈ h (.workItems packageId))
    (hf : Meets env (f (h (.workItem packageId workItemId))) h Q E) :
    Meets env (getWorkItem packageId workItemId >>= f) h Q E := by
  unfold getWorkItem
  rw [meets_bind_assoc]
  refine Meets.getWorkPackage_quiet hpackage ?_
  simp only [meets_bind_assoc, meets_read_bind, meets_raiseIf_bind]
  exact ⟨fun hmissing => absurd hitem hmissing, fun _ => hf⟩

theorem isBlank_workItemAggregate (packageId workItemId : String) :
    isBlank s!"{packageId}:{workItemId}" = false := by
  have hcolon : ":".toList = [':'] := by decide
  have htext : ∀ text : String, toString text = text := fun _ => rfl
  have hspace : isSpace ':' = false := by decide
  simp [isBlank, String.toList_append, htext, hcolon, hspace]

theorem changeWorkItemState_quiet {packageId workItemId : String} {newState : LifecycleState}
    (hquiet : env.Quiet) (hpackage : packageId ∈ h .workPackages)
    (hitem : workItemId ∈ h (.workItems packageId))
    (htransition : newState ∈ (h (.workItem packageId workItemId)).lifecycleState.transitions) :
    Meets env (changeWorkItemState packageId workItemId newState) h
      (fun _ h' => h' (.workItem packageId workItemId) =
          { h (.workItem packageId workItemId) with lifecycleState := newState } ∧
        Touches [.workItem packageId workItemId, .workPackage packageId] h h')
      Never := by
  unfold changeWorkItemState changeState setLifecycleState markUpdated
  refine Meets.operation_quiet hquiet ?_
  refine Meets.getWorkItem_quiet hpackage hitem ?_
  simp only [meets_bind_assoc, meets_read_bind, meets_raiseIf_bind, meets_write_bind, not_not]
  refine ⟨fun hrefused => absurd htransition hrefused, fun _ => ?_⟩
  refine Meets.now_bind fun updatedAt => ?_
  simp only [meets_bind_assoc, meets_read_bind, meets_write_bind]
  refine Meets.bind (Meets.publish_quiet hquiet (by decide +kernel)
    (isBlank_workItemAggregate ..) (by simp) (by simp) fun event => ?_)
  rw [meets_pure]
  exact ⟨by simp, by simp⟩

/-- The ids of the caller's context, where it gives any, are not blank. -/
def ValidContext (context : Option CallContext) : Prop :=
  ∀ callContext ∈ context, (∀ text ∈ callContext.correlationId, isBlank text = false) ∧
    ∀ text ∈ callContext.causationId, isBlank text = false

theorem Meets.publishExecution_quiet {eventType : EventType} {executionId : String}
    {payload : Payload} {context : Option CallContext} {Q : Unit → State → Prop}
    (hquiet : env.Quiet) (hid : isBlank executionId = false) (hcontext : ValidContext context)
    (hQ : Q () h) :
    Meets env (Runtime.publishExecution eventType executionId payload context) h Q E := by
  unfold Runtime.publishExecution
  refine Meets.bind (Meets.publish_quiet hquiet (by decide +kernel) hid ?_ ?_
    fun _ => meets_pure.mpr hQ)
  · intro text htext
    obtain ⟨callContext, hmem, htext⟩ := Option.bind_eq_some_iff.mp htext
    exact (hcontext callContext hmem).1 text htext
  · intro text htext
    obtain ⟨callContext, hmem, htext⟩ := Option.bind_eq_some_iff.mp htext
    exact (hcontext callContext hmem).2 text htext

theorem startExecution_quiet (hquiet : env.Quiet) {assignment : WorkAssignment}
    {workItem : WorkItem} {execution : ExecutionResult} {package : WorkPackage}
    {context : Option CallContext} (hid : isBlank execution.id = false)
    (hcontext : ValidContext context) (hcreated : execution.status = .created)
    (hpackage : assignment.packageId ∈ h .workPackages)
    (hitem : assignment.workItemId ∈ h (.workItems assignment.packageId))
    (htransition : .running ∈
      (h (.workItem assignment.packageId assignment.workItemId)).lifecycleState.transitions) :
    Meets env (startExecution assignment workItem execution package context) h
      (fun _ h' => h' .executions = h .executions ++ [execution.id] ∧
        (h' (.execution execution.id)).status = .running ∧
        (h' (.workItem assignment.packageId assignment.workItemId)).lifecycleState = .running ∧
        Touches [.workItem assignment.packageId assignment.workItemId,
          .workPackage assignment.packageId, .execution execution.id, .executions] h h')
      Never := by
  unfold startExecution
  refine Meets.tryExcept (Meets.seq ((changeWorkItemState_quiet hquiet hpackage hitem
    htransition).mono (fun _ _ hQ => hQ) fun _ _ hnever => hnever.elim) ?_)
  rintro _ h₁ ⟨hitem₁, hframe₁⟩
  unfold markRunning validateExecutionStatusTransition
  simp only [meets_bind_assoc, meets_raiseIf_bind]
  refine ⟨fun hrefused => absurd (by rw [hcreated]; decide) hrefused, fun _ => ?_⟩
  refine Meets.now_bind fun startedAt => ?_
  simp only [meets_pure_bind, meets_read_bind, meets_write_bind]
  refine Meets.publishExecution_quiet hquiet hid hcontext ⟨?_, ?_, ?_, ?_⟩
  · rw [Heap.write_same, hframe₁ _ (by simp)]
  · rw [Heap.write_of_ne _ _ (by simp), Heap.write_same]
  · rw [Heap.write_of_ne _ _ (by simp), Heap.write_of_ne _ _ (by simp), hitem₁]
  · refine (SameOutside.write_iff (by simp) _).mpr ?_
    refine (SameOutside.write_iff (by simp) _).mpr ?_
    exact hframe₁.mono (by simp)

/-! ## What an executor does -/

/-- What an executor does in a call: it returns a value or raises an exception. -/
abbrev ExecutorOutcome := Except RuntimeError (Option ExecutionResult)

/-- Return or raise. -/
def answer : ExecutorOutcome → Method (Option ExecutionResult)
  | .ok result => pure result
  | .error error => raise error

/-- The executor returns or raises, and does nothing else. -/
def Executor.Behaves (executor : Executor) (outcome : ExecutorOutcome) : Prop :=
  ∀ executionContext, executor.execute executionContext = answer outcome

/-- The text with which the handler records an exception: `str(error) or
type(error).__name__`. -/
def recordedText (error : RuntimeError) : Message :=
  if error.message.isEmpty then error.errorClass.name else error.message

/-- The service can record what the executor did: it did not raise an exception that counts as
recorded already, or one whose text is blank. -/
def Recordable : ExecutorOutcome → Prop
  | .ok _ => True
  | .error error =>
      error.isExecutionFailed = false ∧ (recordedText error).isBlank = false

/-- How running an executor is interrupted: the failure is recorded, or it is still to be
recorded with a text that is not blank, or the executor raised. -/
inductive Stopped (executionId : String) (outcome : ExecutorOutcome) (h : State) :
    RuntimeError → State → Prop
  | recorded {error : RuntimeError} {h' : State} (result : Option ExecutionResult)
      (houtcome : outcome = .ok result) (hclass : error.errorClass = .executionFailedError)
      (hstatus : (h' (.execution executionId)).status = .failed)
      (hframe : Touches [.execution executionId] h h') :
      Stopped executionId outcome h error h'
  | refused {error : RuntimeError} {h' : State} (result : Option ExecutionResult)
      (houtcome : outcome = .ok result) (hclean : error.isExecutionFailed = false)
      (htext : (recordedText error).isBlank = false)
      (hstatus : (h' (.execution executionId)).status = .running)
      (hkeys : h' .executions = h .executions) :
      Stopped executionId outcome h error h'
  | raised {error : RuntimeError} (houtcome : outcome = .error error) :
      Stopped executionId outcome h error h

theorem Meets.markFailed_quiet {executionId : String} {error : Message}
    {Q : Unit → State → Prop} (htext : error.isBlank = false)
    (hrunning : (h (.execution executionId)).status = .running)
    (hQ : ∀ execution : ExecutionResult, execution.status = .failed →
      execution.error = some error → Q () (h.write (.execution executionId) execution)) :
    Meets env (Runtime.markFailed executionId error) h Q E := by
  unfold Runtime.markFailed validateRequiredMessage validateExecutionStatusTransition
  simp only [meets_raiseIf_bind, meets_read_bind]
  refine ⟨fun hblank => ?_, fun _ => ⟨fun hrefused => absurd ?_ hrefused, fun _ => ?_⟩⟩
  · rw [htext] at hblank
    cases hblank
  · rw [hrunning]
    decide
  refine Meets.now_bind fun completedAt => ?_
  rw [meets_write]
  exact hQ _ rfl rfl

theorem recordedText_required (fieldName : String) :
    (recordedText ⟨.validationError,
      s!"{fieldName} must be a non-empty string"⟩).isBlank = false := by
  have htext : ∀ text : String, toString text = text := fun _ => rfl
  have htail : " must be a non-empty string".toList.all isSpace = false := by decide
  have hblank : isBlank s!"{fieldName} must be a non-empty string" = false := by
    simp only [isBlank, String.toList_append, htext, List.all_append, htail, Bool.and_false]
  have hempty : ¬Message.isEmpty [.text s!"{fieldName} must be a non-empty string"] = true := by
    intro h
    simp only [Message.isEmpty, List.all_cons, List.all_nil, Bool.and_true, beq_iff_eq] at h
    rw [h] at hblank
    exact absurd hblank (by decide)
  unfold recordedText
  rw [if_neg hempty]
  simp only [Message.isBlank, List.all_cons, List.all_nil, Bool.and_true]
  exact hblank

section Run

variable {executor : Executor} {outcome : ExecutorOutcome} {executionContext : ExecutionContext}
  {assignment : WorkAssignment} {context : Option CallContext}

theorem runExecutor_outcome (hquiet : env.Quiet) (hbehaves : executor.Behaves outcome)
    (hid : isBlank executionContext.executionId = false) (hcontext : ValidContext context)
    (hpackage : assignment.packageId ∈ h .workPackages)
    (hitem : assignment.workItemId ∈ h (.workItems assignment.packageId))
    (hstate : (h (.workItem assignment.packageId assignment.workItemId)).lifecycleState =
      .running)
    (hrunning : (h (.execution executionContext.executionId)).status = .running) :
    Meets env (runExecutor executor executionContext assignment context) h
      (fun _ h' => (∃ result, outcome = .ok result) ∧
        (h' (.execution executionContext.executionId)).status = .succeeded ∧
        (h' (.workItem assignment.packageId assignment.workItemId)).lifecycleState = .review ∧
        h' .executions = h .executions)
      (Stopped executionContext.executionId outcome h) := by
  unfold runExecutor
  rw [hbehaves]
  cases houtcome : outcome with
  | error error =>
    simp only [answer, meets_raise_bind]
    exact .raised rfl
  | ok result =>
    have hrefused : ∀ text : String, (recordedText ⟨.validationError, text⟩).isBlank = false →
        Stopped executionContext.executionId (.ok result) h ⟨.validationError, text⟩ h :=
      fun text htext => .refused result rfl rfl htext hrunning rfl
    simp only [answer, meets_pure_bind, meets_read_bind]
    refine Meets.seq (P := fun _ h' => h = h') ?_ ?_
    · unfold validateProviderResult
      split
      · exact meets_raise.mpr (hrefused _ (by decide +kernel))
      · rw [meets_raiseIf_bind]
        exact ⟨fun _ => hrefused _ (by decide +kernel), fun _ => meets_pure.mpr rfl⟩
    rintro provided _ rfl
    rw [meets_ite]
    constructor
    · -- the answer is a failure: it is recorded, unless its own text is blank
      intro hfailed
      by_cases htext : (orDefault provided.error "Executor reported failure").isBlank = true
      · unfold Runtime.markFailed validateRequiredMessage
        simp only [meets_bind_assoc, meets_raiseIf_bind]
        exact ⟨fun _ => hrefused _ (recordedText_required _), fun hnot => absurd htext hnot⟩
      · rw [Bool.not_eq_true] at htext
        refine Meets.bind (Meets.markFailed_quiet htext hrunning fun failed hstatus _ => ?_)
        rw [meets_read_bind]
        refine Meets.bind (Meets.publishExecution_quiet hquiet hid hcontext
          (meets_raise.mpr (.recorded result rfl rfl ?_ ?_)))
        · rw [Heap.write_same, hstatus]
        · exact (SameOutside.write_iff (by simp) _).mpr (SameOutside.refl _ h)
    · -- the answer is no failure: the item goes to review before the success is recorded
      intro hother
      rw [meets_raiseIf_bind]
      refine ⟨fun _ => hrefused _ (by decide +kernel), fun _ => ?_⟩
      refine Meets.bind ((changeWorkItemState_quiet hquiet hpackage hitem
        (by rw [hstate]; decide)).mono ?_ fun _ _ hnever => hnever.elim)
      rintro _ h₁ ⟨hitem₁, hframe₁⟩
      have hrunning₁ : (h₁ (.execution executionContext.executionId)).status = .running := by
        rw [hframe₁ _ (by simp), hrunning]
      have hkeys₁ : h₁ .executions = h .executions := hframe₁ _ (by simp)
      unfold markSucceeded validateRequiredString validateExecutionStatusTransition
      simp only [meets_raiseIf_bind, meets_read_bind]
      refine ⟨fun _ => .refused result rfl rfl (recordedText_required _) hrunning₁ hkeys₁,
        fun _ => ⟨fun hrefused => absurd (by rw [hrunning₁]; decide) hrefused, fun _ => ?_⟩⟩
      refine Meets.now_bind fun completedAt => ?_
      rw [meets_write]
      refine ⟨⟨result, rfl⟩, by rw [Heap.write_same], ?_, ?_⟩
      · rw [Heap.write_of_ne _ _ (by simp), hitem₁]
      · rw [Heap.write_of_ne _ _ (by simp), hkeys₁]

end Run

/-! ## Recording how it went -/

/-- How an attempt ends: an attempt with a recordable outcome raises an
`ExecutionFailedError` with the failure on record; any other one raises an error that
rolls back, or leaves the execution `RUNNING`. -/
inductive Ended (executionId packageId workItemId : String) (outcome : ExecutorOutcome)
    (keys : List String) (error : RuntimeError) (h' : State) : Prop
  | recorded (hrecordable : Recordable outcome)
      (hclass : error.errorClass = .executionFailedError)
      (hstatus : (h' (.execution executionId)).status = .failed)
      (hitem : (h' (.workItem packageId workItemId)).lifecycleState = .running)
      (hkeys : h' .executions = keys)
  | lost (hlost : ¬Recordable outcome)
      (hcommits : error.isExecutionFailed = true →
        (h' (.execution executionId)).status = .running)

theorem recordFailure_recorded (hquiet : env.Quiet) {executionId : String}
    {assignment : WorkAssignment} {runningUpdatedAt : Timestamp} {context : Option CallContext}
    {outcome : ExecutorOutcome} {error : RuntimeError} {Q : Unit → State → Prop}
    (hid : isBlank executionId = false) (hcontext : ValidContext context)
    (hrecordable : Recordable outcome) (hclean : error.isExecutionFailed = false)
    (htext : (recordedText error).isBlank = false)
    (hrunning : (h (.execution executionId)).status = .running) :
    Meets env (recordFailure executionId assignment runningUpdatedAt context error) h Q
      (Ended executionId assignment.packageId assignment.workItemId outcome
        (h .executions)) := by
  unfold recordFailure setLifecycleState setUpdatedAt
  rw [hclean, if_neg Bool.false_ne_true]
  simp only [meets_bind_assoc, meets_read_bind, meets_write_bind, meets_ite]
  constructor
  · intro hrunning'
    refine Meets.bind (Meets.markFailed_quiet htext hrunning' fun failed hstatus _ => ?_)
    rw [meets_read_bind]
    refine Meets.bind (Meets.publishExecution_quiet hquiet hid hcontext
      (meets_raise.mpr (.recorded hrecordable rfl ?_ ?_ ?_)))
    · rw [Heap.write_same, hstatus]
    · rw [Heap.write_of_ne _ _ (by simp), Heap.write_of_ne _ _ (by simp), Heap.write_same]
    · rw [Heap.write_of_ne _ _ (by simp), Heap.write_of_ne _ _ (by simp),
        Heap.write_of_ne _ _ (by simp)]
  · intro hnot
    rw [Heap.write_of_ne _ _ (by simp), Heap.write_of_ne _ _ (by simp)] at hnot
    exact absurd hrunning hnot

theorem recordFailure_blank {executionId : String} {assignment : WorkAssignment}
    {runningUpdatedAt : Timestamp} {context : Option CallContext} {error : RuntimeError}
    {Q : Unit → State → Prop} (hclean : error.isExecutionFailed = false)
    (htext : (recordedText error).isBlank = true)
    (hrunning : (h (.execution executionId)).status = .running) :
    Meets env (recordFailure executionId assignment runningUpdatedAt context error) h Q
      (fun raised _ => raised.isExecutionFailed = false) := by
  unfold recordFailure setLifecycleState setUpdatedAt Runtime.markFailed validateRequiredMessage
  rw [hclean, if_neg Bool.false_ne_true]
  simp only [meets_bind_assoc, meets_read_bind, meets_write_bind, meets_ite, meets_raiseIf_bind]
  constructor
  · intro _
    exact ⟨fun _ => rfl, fun hnot => absurd htext hnot⟩
  · intro hnot
    rw [Heap.write_of_ne _ _ (by simp), Heap.write_of_ne _ _ (by simp)] at hnot
    exact absurd hrunning hnot

/-- What the handlers make of an interrupted run. -/
theorem recordFailure_outcome (hquiet : env.Quiet) {executionId : String}
    {assignment : WorkAssignment} {runningUpdatedAt : Timestamp} {context : Option CallContext}
    {outcome : ExecutorOutcome} {error : RuntimeError} {h₀ : State} {Q : Unit → State → Prop}
    (hid : isBlank executionId = false) (hcontext : ValidContext context)
    (hstate : (h₀ (.workItem assignment.packageId assignment.workItemId)).lifecycleState =
      .running)
    (hrunning : (h₀ (.execution executionId)).status = .running)
    (hstopped : Stopped executionId outcome h₀ error h) :
    Meets env (recordFailure executionId assignment runningUpdatedAt context error) h Q
      (Ended executionId assignment.packageId assignment.workItemId outcome
        (h₀ .executions)) := by
  cases hstopped with
  | recorded result houtcome hclass hstatus hframe =>
    have hfailed : error.isExecutionFailed = true := by
      unfold RuntimeError.isExecutionFailed
      rw [hclass]
    unfold recordFailure
    rw [if_pos hfailed, meets_raise]
    refine .recorded (by rw [houtcome]; trivial) hclass hstatus ?_ ?_
    · rw [hframe _ (by simp), hstate]
    · rw [hframe _ (by simp)]
  | refused result houtcome hclean htext hstatus hkeys =>
    rw [← hkeys]
    exact recordFailure_recorded hquiet hid hcontext (by rw [houtcome]; trivial) hclean htext
      hstatus
  | raised houtcome =>
    by_cases hfailed : error.isExecutionFailed = true
    · -- the exception counts as recorded already
      unfold recordFailure
      rw [if_pos hfailed, meets_raise]
      refine .lost ?_ fun _ => hrunning
      rw [houtcome]
      rintro ⟨hclean, -⟩
      rw [hfailed] at hclean
      cases hclean
    · rw [Bool.not_eq_true] at hfailed
      by_cases htext : (recordedText error).isBlank = true
      · refine (recordFailure_blank hfailed htext hrunning).mono (fun _ _ hQ => hQ) ?_
        intro raised h' hclean
        refine .lost ?_ fun hcommits => ?_
        · rw [houtcome]
          rintro ⟨-, hnonblank⟩
          rw [htext] at hnonblank
          cases hnonblank
        · rw [hclean] at hcommits
          cases hcommits
      · rw [Bool.not_eq_true] at htext
        exact recordFailure_recorded hquiet hid hcontext
          (by rw [houtcome]; exact ⟨hfailed, htext⟩) hfailed htext hrunning

/-! ## Attempts -/

/-- The assignment can be executed under a new execution id. -/
structure Eligible (executors : List Executor) (executor : Executor)
    (executionId assignmentId : String) (context : Option CallContext)
    (requiredState : LifecycleState) (h : State) : Prop where
  execution_text : isBlank executionId = false
  fresh : executionId ∉ h .executions
  assignment_text : isBlank assignmentId = false
  assignment_mem : assignmentId ∈ h .assignments
  assignment_id : (h (.assignment assignmentId)).id = assignmentId
  active : (h (.assignment assignmentId)).status = .active
  package_mem : (h (.assignment assignmentId)).packageId ∈ h .workPackages
  item_mem : (h (.assignment assignmentId)).workItemId ∈
    h (.workItems (h (.assignment assignmentId)).packageId)
  item_text : isBlank (h (.workItem (h (.assignment assignmentId)).packageId
    (h (.assignment assignmentId)).workItemId)).id = false
  item_state : (h (.workItem (h (.assignment assignmentId)).packageId
    (h (.assignment assignmentId)).workItemId)).lifecycleState = requiredState
  agent_text : isBlank (h (.assignment assignmentId)).agentId = false
  agent_mem : (h (.assignment assignmentId)).agentId ∈ h .agents
  agent_id : isBlank (h (.agent (h (.assignment assignmentId)).agentId)).id = false
  selected : executors.find? (·.compatible (h (.assignment assignmentId))) = some executor
  context_texts : ValidContext context

theorem execute_outcome (hquiet : env.Quiet) {executors : List Executor} {executor : Executor}
    {outcome : ExecutorOutcome} {executionId assignmentId : String}
    {context : Option CallContext} {requiredState : LifecycleState}
    (hbehaves : executor.Behaves outcome)
    (hstart : .running ∈ requiredState.transitions)
    (heligible : Eligible executors executor executionId assignmentId context requiredState h) :
    Meets env (execute executors executionId assignmentId context requiredState) h
      (fun result h' => Recordable outcome ∧ result = h' (.execution executionId) ∧
        (h' (.execution executionId)).status = .succeeded ∧
        (h' (.workItem (h (.assignment assignmentId)).packageId
          (h (.assignment assignmentId)).workItemId)).lifecycleState = .review ∧
        h' .executions = h .executions ++ [executionId])
      (Ended executionId (h (.assignment assignmentId)).packageId
        (h (.assignment assignmentId)).workItemId outcome (h .executions ++ [executionId])) := by
  have hnot : ∀ {value : String}, isBlank value = false → ∀ {p : Prop},
      isBlank value = true → p := by
    intro value hvalue p hblank
    rw [hvalue] at hblank
    cases hblank
  unfold execute getAssignment getAgent selectExecutor newExecution validateRequiredString
  simp only [meets_bind_assoc, meets_raiseIf_bind, meets_read_bind]
  refine ⟨hnot heligible.execution_text, fun _ => ⟨hnot heligible.assignment_text, fun _ =>
    ⟨fun hfiled => absurd hfiled heligible.fresh, fun _ =>
      ⟨hnot heligible.assignment_text, fun _ =>
        ⟨fun hmissing => absurd heligible.assignment_mem hmissing, fun _ =>
          ⟨fun hinactive => absurd heligible.active hinactive, fun _ => ?_⟩⟩⟩⟩⟩⟩
  refine Meets.getWorkItem_quiet heligible.package_mem heligible.item_mem ?_
  simp only [meets_bind_assoc, meets_raiseIf_bind, meets_read_bind]
  refine ⟨fun hstate => absurd heligible.item_state hstate, fun _ =>
    ⟨hnot heligible.agent_text, fun _ =>
      ⟨fun hmissing => absurd heligible.agent_mem hmissing, fun _ => ?_⟩⟩⟩
  refine Meets.failurePoint_quiet hquiet ?_
  rw [heligible.selected]
  simp only [meets_bind_assoc, meets_pure_bind, meets_raiseIf_bind, heligible.assignment_id]
  refine ⟨hnot heligible.execution_text, fun _ => ⟨hnot heligible.assignment_text, fun _ =>
    ⟨hnot heligible.item_text, fun _ => ⟨hnot heligible.agent_id, fun _ => ?_⟩⟩⟩⟩
  refine Meets.getWorkPackage_quiet heligible.package_mem ?_
  refine Meets.bind ((startExecution_quiet hquiet heligible.execution_text
    heligible.context_texts rfl heligible.package_mem heligible.item_mem
    (by rw [heligible.item_state]; exact hstart)).mono ?_ fun _ _ hnever => hnever.elim)
  rintro _ h₁ ⟨hkeys₁, hstatus₁, hitem₁, hframe₁⟩
  simp only [meets_read_bind]
  refine Meets.bind (Meets.tryExcept ((runExecutor_outcome hquiet hbehaves
    heligible.execution_text heligible.context_texts ?_ ?_ hitem₁ hstatus₁).mono ?_ ?_))
  · rw [hframe₁ _ (by simp)]
    exact heligible.package_mem
  · rw [hframe₁ _ (by simp)]
    exact heligible.item_mem
  · rintro _ h₂ ⟨⟨result, rfl⟩, hstatus₂, hitem₂, hkeys₂⟩
    rw [meets_read_bind]
    refine Meets.bind (Meets.publishExecution_quiet hquiet heligible.execution_text
      heligible.context_texts (meets_read.mpr ?_))
    exact ⟨trivial, rfl, hstatus₂, hitem₂, by rw [hkeys₂, hkeys₁]⟩
  · intro error h₂ hstopped
    rw [← hkeys₁]
    exact recordFailure_outcome hquiet heligible.execution_text heligible.context_texts hitem₁
      hstatus₁ hstopped

/-- `execute_assignment`, or `execute_correction` after a rejection. -/
def attempt (correction : Bool) (executors : List Executor) (executionId assignmentId : String)
    (context : Option CallContext) : Method ExecutionResult :=
  if correction then executeCorrection executors executionId assignmentId context
  else executeAssignment executors executionId assignmentId context

/-- The state of the work item that an attempt requires. -/
def requiredStateOf (correction : Bool) : LifecycleState :=
  if correction then .rejected else .assigned

/-- How an attempt ended: it returned the execution, stored as `SUCCEEDED` with the item
in `REVIEW`, or it raised an `ExecutionFailedError` with the execution stored as
`FAILED` and the item `RUNNING`. -/
def AttemptRecorded (executionId packageId workItemId : String)
    (ending : Except RuntimeError ExecutionResult × World) : Prop :=
  executionId ∈ ending.2.heap .executions ∧
    ((ending.1 = .ok (ending.2.heap (.execution executionId)) ∧
        (ending.2.heap (.execution executionId)).status = .succeeded ∧
        (ending.2.heap (.workItem packageId workItemId)).lifecycleState = .review) ∨
      ((∃ error, ending.1 = .error error ∧ error.errorClass = .executionFailedError) ∧
        (ending.2.heap (.execution executionId)).status = .failed ∧
        (ending.2.heap (.workItem packageId workItemId)).lifecycleState = .running))

theorem attempt_eq (correction : Bool) (executors : List Executor)
    (executionId assignmentId : String) (context : Option CallContext) :
    attempt correction executors executionId assignmentId context =
      atomicDomainOperation
        (execute executors executionId assignmentId context (requiredStateOf correction)) := by
  cases correction <;> rfl

theorem Executor.Behaves.publishes {executor : Executor} {outcome : ExecutorOutcome}
    (hbehaves : executor.Behaves outcome) (executionContext : ExecutionContext) :
    Publishes (executor.execute executionContext) := by
  rw [hbehaves]
  cases outcome <;> unfold answer <;> infer_instance

/-- A clock, and nothing that fails. -/
def quietClock : Environment := fun n => { now := n }

theorem quietClock_quiet : quietClock.Quiet :=
  fun _ => ⟨rfl, rfl⟩

/-- An assignment of the only item of a package to the only agent. -/
def sampleAssignment : Method Unit := do
  let _ ← createWorkPackage "package" "Package" "Work to do" "owner"
  let _ ← addWorkItem "package" "item" "Item" "Work to do"
  changeWorkItemState "package" "item" .ready
  let _ ← registerAgent ⟨"agent", "Agent", .backendEngineer, "Does work", .available, 1, 0⟩ []
  let _ ← assignWorkItem "assignment" "package" "item" (some .backendEngineer)
  pure ()

/-- What those calls lead to. -/
def assignedWorld : World :=
  (sampleAssignment.run quietClock World.init).2

theorem assignedWorld_published : Published assignedWorld := by
  have hsample : Publishes sampleAssignment := by
    unfold sampleAssignment
    infer_instance
  exact .run quietClock hsample (.init rfl rfl)

def backendExecutor (outcome : ExecutorOutcome) : Executor where
  executorId := "backend"
  supportedRoles := [.backendEngineer]
  supportedCapabilities := []
  execute _ := answer outcome

theorem backendExecutor_publishing (outcome : ExecutorOutcome) :
    PublishingExecutors [backendExecutor outcome] := by
  have hbehaves : (backendExecutor outcome).Behaves outcome := fun _ => rfl
  intro executor hexecutor executionContext
  obtain rfl := List.mem_singleton.mp hexecutor
  exact hbehaves.publishes executionContext

/-- What the calls have put on record. -/
theorem assignedWorld_heap :
    assignedWorld.heap .executions = [] ∧
      assignedWorld.heap .assignments = ["assignment"] ∧
      assignedWorld.heap .workPackages = ["package"] ∧
      assignedWorld.heap (.workItems "package") = ["item"] ∧
      assignedWorld.heap .agents = ["agent"] ∧
      (assignedWorld.heap (.assignment "assignment")).id = "assignment" ∧
      (assignedWorld.heap (.assignment "assignment")).packageId = "package" ∧
      (assignedWorld.heap (.assignment "assignment")).workItemId = "item" ∧
      (assignedWorld.heap (.assignment "assignment")).agentId = "agent" ∧
      (assignedWorld.heap (.assignment "assignment")).status = .active ∧
      (assignedWorld.heap (.assignment "assignment")).requiredRole = some .backendEngineer ∧
      (assignedWorld.heap (.assignment "assignment")).requiredCapabilities = [] ∧
      (assignedWorld.heap (.workItem "package" "item")).id = "item" ∧
      (assignedWorld.heap (.workItem "package" "item")).lifecycleState = .assigned ∧
      (assignedWorld.heap (.agent "agent")).id = "agent" := by
  decide +kernel

theorem assignedWorld_eligible (outcome : ExecutorOutcome) :
    Eligible [backendExecutor outcome] (backendExecutor outcome) "execution" "assignment" none
      .assigned assignedWorld.heap := by
  obtain ⟨hexecutions, hassignments, hpackages, hitems, hagents, hid, hpackage, hitem, hagent,
    hstatus, hrole, hcapabilities, hitemId, hitemState, hagentId⟩ := assignedWorld_heap
  have hcompatible : (backendExecutor outcome).compatible
      (assignedWorld.heap (.assignment "assignment")) = true := by
    simp [Executor.compatible, hrole, hcapabilities, backendExecutor]
  exact
    { execution_text := by decide +kernel
      fresh := by rw [hexecutions]; exact List.not_mem_nil
      assignment_text := by decide +kernel
      assignment_mem := by rw [hassignments]; exact List.mem_singleton_self _
      assignment_id := hid
      active := hstatus
      package_mem := by rw [hpackage, hpackages]; exact List.mem_singleton_self _
      item_mem := by rw [hpackage, hitem, hitems]; exact List.mem_singleton_self _
      item_text := by rw [hpackage, hitem, hitemId]; decide +kernel
      item_state := by rw [hpackage, hitem, hitemState]
      agent_text := by rw [hagent]; decide +kernel
      agent_mem := by rw [hagent, hagents]; exact List.mem_singleton_self _
      agent_id := by rw [hagent, hagentId]; decide +kernel
      selected := by simp [List.find?, hcompatible]
      context_texts := by
        intro callContext hmem
        cases hmem }

end Runtime
end Ascos
