import Ascos.Runtime.Execution

/-!
# The recovery service

A translation of `runtime/execution/recovery.py`.
-/

namespace Ascos
namespace Runtime

open Library Library.Action

/-! ## Recovery records -/

def RecoveryAction.eventType : RecoveryAction → EventType
  | .retry => .executionRecoveryRetried
  | .resetToAssigned => .executionRecoveryReset
  | .cancelAssignment => .executionRecoveryCancelled

/-- `ExecutionRecoveryRecord.__post_init__` on a new record. -/
def newRecoveryRecord (id executionId assignmentId : String) (action : RecoveryAction)
    (reason : Message) : Method ExecutionRecoveryRecord := do
  let createdAt ← now
  validateRequiredString id "ExecutionRecoveryRecord.id"
  validateRequiredString executionId "ExecutionRecoveryRecord.execution_id"
  validateRequiredString assignmentId "ExecutionRecoveryRecord.assignment_id"
  validateRequiredMessage reason "ExecutionRecoveryRecord.reason"
  pure { id, executionId, assignmentId, action, reason, createdAt }

/-- `self._records.pop(recovery_id, None)`. -/
def popRecord (recoveryId : String) : Method Unit := do
  let records ← load .records
  store .records (records.filter (· != recoveryId))

/-- `ExecutionRecoveryService._store_record`; storing under a filed id keeps its place. -/
def storeRecord (recoveryId : String) (execution : ExecutionResult) (action : RecoveryAction)
    (reason : Message) : Method ExecutionRecoveryRecord := do
  let record ← newRecoveryRecord recoveryId execution.id execution.assignmentId action reason
  let records ← load .records
  store (.record recoveryId) record
  store .records (if recoveryId ∈ records then records else records ++ [recoveryId])
  tryExcept
    ((fun _ => ()) <$> publish action.eventType "RECOVERY" record.id
      [("execution_id", record.executionId), ("assignment_id", record.assignmentId),
        ("reason", .text record.reason)])
    (fun error => do
      popRecord record.id
      raise error)
  pure record

def validateRecoverable (recoveryId executionId : String) (reason : Message) :
    Method (ExecutionResult × WorkAssignment) := do
  validateRequiredString recoveryId "recovery_id"
  validateRequiredMessage reason "reason"
  let records ← load .records
  raiseIf (recoveryId ∈ records)
    ⟨.duplicateRecoveryError, quote "Recovery record " recoveryId " already exists"⟩
  let execution ← getExecution executionId
  raiseIf (execution.status ≠ .failed)
    ⟨.executionNotRecoverableError, "Only FAILED executions can be recovered"⟩
  let assignment ← getAssignment execution.assignmentId
  raiseIf (assignment.status ≠ .active)
    ⟨.executionNotRecoverableError, "Recovery requires an ACTIVE assignment"⟩
  let workItem ← getWorkItem assignment.packageId assignment.workItemId
  raiseIf (workItem.lifecycleState ≠ .running)
    ⟨.executionNotRecoverableError, "Recovery requires work item RUNNING"⟩
  pure (execution, assignment)

/-! ## The recovery actions -/

def retryFailedExecution (executors : List Executor)
    (recoveryId executionId newExecutionId : String) (reason : Message)
    (context : Option CallContext := none) : Method ExecutionResult :=
  atomicDomainOperation do
    let (original, assignment) ← validateRecoverable recoveryId executionId reason
    validateRequiredString newExecutionId "new_execution_id"
    let executions ← load .executions
    raiseIf (newExecutionId ∈ executions)
      ⟨.duplicateExecutionError, quote "Execution " newExecutionId " already exists"⟩
    let workItem ← getWorkItem assignment.packageId assignment.workItemId
    let package ← getWorkPackage assignment.packageId
    tryExcept
      (do recoverWorkItemState assignment.packageId assignment.workItemId .assigned reason
          let result ← tryExcept
            (executeAssignment executors newExecutionId assignment.id context)
            (fun error =>
              if error.isExecutionFailed = true then do
                let _ ← storeRecord recoveryId original .retry reason
                raise error
              else raise error)
          let _ ← storeRecord recoveryId original .retry reason
          pure result)
      (fun error => do
        let executions ← load .executions
        (if newExecutionId ∉ executions then do
          setLifecycleState assignment.packageId assignment.workItemId workItem.lifecycleState
          setUpdatedAt assignment.packageId package.updatedAt
        else pure ())
        raise error)

def resetFailedExecution (recoveryId executionId : String) (reason : Message) :
    Method ExecutionRecoveryRecord :=
  atomicDomainOperation do
    let (original, assignment) ← validateRecoverable recoveryId executionId reason
    let workItem ← getWorkItem assignment.packageId assignment.workItemId
    let package ← getWorkPackage assignment.packageId
    tryExcept
      (do recoverWorkItemState assignment.packageId assignment.workItemId .assigned reason
          storeRecord recoveryId original .resetToAssigned reason)
      (fun error => do
        setLifecycleState assignment.packageId assignment.workItemId workItem.lifecycleState
        setUpdatedAt assignment.packageId package.updatedAt
        popRecord recoveryId
        raise error)

def cancelFailedAssignment (recoveryId executionId : String) (reason : Message) :
    Method ExecutionRecoveryRecord :=
  atomicDomainOperation do
    let (original, assignment) ← validateRecoverable recoveryId executionId reason
    let workItem ← getWorkItem assignment.packageId assignment.workItemId
    let package ← getWorkPackage assignment.packageId
    let agent ← getAgent assignment.agentId
    tryExcept
      (do recoverWorkItemState assignment.packageId assignment.workItemId .assigned reason
          cancelAssignment assignment.id
          storeRecord recoveryId original .cancelAssignment reason)
      (fun error => do
        setLifecycleState assignment.packageId assignment.workItemId workItem.lifecycleState
        setAssignedTo assignment.packageId assignment.workItemId workItem.assignedTo
        setAssignmentStatus assignment.id assignment.status assignment.updatedAt
        setAgentState assignment.agentId agent.state
        setUpdatedAt assignment.packageId package.updatedAt
        popRecord recoveryId
        raise error)

/-! ## Specifications -/

variable {α : Type} {env : Environment} {h : State} {Q : α → State → Prop}
  {E : RuntimeError → State → Prop}

/-- What a recoverable execution looks like. -/
structure Recoverable (executionId : String) (h : State) : Prop where
  mem : executionId ∈ h .executions
  failed : (h (.execution executionId)).status = .failed
  assignment_mem : (h (.execution executionId)).assignmentId ∈ h .assignments
  active : (h (.assignment (h (.execution executionId)).assignmentId)).status = .active

theorem Meets.validateRecoverable_bind {recoveryId executionId : String} {reason : Message}
    {f : ExecutionResult × WorkAssignment → Method α}
    (hraise : ∀ error, error.isExecutionFailed = false → E error h)
    (hf : Recoverable executionId h → Meets env (f (h (.execution executionId),
      h (.assignment (h (.execution executionId)).assignmentId))) h Q E) :
    Meets env (validateRecoverable recoveryId executionId reason >>= f) h Q E := by
  unfold validateRecoverable getExecution validateRequiredString validateRequiredMessage
  simp only [meets_bind_assoc, meets_raiseIf_bind, meets_read_bind, not_not]
  refine ⟨fun _ => hraise _ rfl, fun _ => ⟨fun _ => hraise _ rfl, fun _ =>
    ⟨fun _ => hraise _ rfl, fun _ => ⟨fun _ => hraise _ rfl, fun _ =>
      ⟨fun _ => hraise _ rfl, fun hmem => ?_⟩⟩⟩⟩⟩
  simp only [ne_eq]
  refine ⟨fun _ => hraise _ rfl, fun hfailed => ?_⟩
  refine Meets.getAssignment_bind hraise fun hassignment => ?_
  simp only [meets_bind_assoc, meets_raiseIf_bind, not_not]
  refine ⟨fun _ => hraise _ rfl, fun hactive => ?_⟩
  refine Meets.getWorkItem_bind hraise fun _ _ => ?_
  simp only [meets_bind_assoc, meets_raiseIf_bind, meets_pure_bind]
  exact ⟨fun _ => hraise _ rfl, fun _ => hf ⟨hmem, hfailed, hassignment, hactive⟩⟩

theorem storeRecord_spec (henv : env.Sound) {recoveryId : String} {execution : ExecutionResult}
    {action : RecoveryAction} {reason : Message} :
    Meets env (storeRecord recoveryId execution action reason) h
      (fun _ h' => Touches [.records, .record recoveryId] h h') Clean := by
  unfold storeRecord newRecoveryRecord validateRequiredString validateRequiredMessage
  rw [meets_bind_assoc]
  refine Meets.now_bind fun createdAt => ?_
  simp only [meets_bind_assoc, meets_raiseIf_bind, meets_pure_bind, meets_read_bind,
    meets_write_bind]
  refine ⟨fun _ => rfl, fun _ => ⟨fun _ => rfl, fun _ => ⟨fun _ => rfl, fun _ =>
    ⟨fun _ => rfl, fun _ => ?_⟩⟩⟩⟩
  refine Meets.bind (Meets.compensate (Meets.map (Meets.publish henv (fun event => ?_)
    fun _ hclean => hclean)) ?_)
  · rw [meets_pure]
    refine (SameOutside.write_iff (by simp) _).mpr ?_
    exact (SameOutside.write_iff (by simp) _).mpr (SameOutside.refl _ h)
  · intro error h' hclean
    simp only [popRecord, meets_bind_assoc, meets_read_bind, meets_write_bind, meets_raise]
    exact hclean

theorem resetFailedExecution_spec (henv : env.Sound) {recoveryId executionId : String}
    {reason : Message} :
    Meets env (resetFailedExecution recoveryId executionId reason) h
      (fun _ h' => Recoverable executionId h ∧
        (h' (.workItem (h (.assignment (h (.execution executionId)).assignmentId)).packageId
          (h (.assignment (h (.execution executionId)).assignmentId)).workItemId)).lifecycleState
            = .assigned ∧
        Touches [.workItem
            (h (.assignment (h (.execution executionId)).assignmentId)).packageId
            (h (.assignment (h (.execution executionId)).assignmentId)).workItemId,
          .workPackage (h (.assignment (h (.execution executionId)).assignmentId)).packageId,
          .records, .record recoveryId] h h')
      Clean := by
  unfold resetFailedExecution
  refine Meets.atomicDomainOperation henv (fun _ hclean => hclean) ?_
  refine Meets.validateRecoverable_bind (fun _ hclean => hclean) fun hrecoverable => ?_
  refine Meets.getWorkItem_bind (fun _ hclean => hclean) fun _ _ => ?_
  refine Meets.getWorkPackage_bind (fun _ hclean => hclean) fun _ => ?_
  refine Meets.compensate ?_ ?_
  · refine Meets.seq (recoverWorkItemState_spec henv) ?_
    rintro _ h₁ ⟨-, -, hitem₁, hframe₁⟩
    refine (storeRecord_spec henv).mono ?_ fun _ _ hclean => hclean
    intro _ h₂ hframe₂
    refine ⟨hrecoverable, ?_, ?_⟩
    · rw [hframe₂ _ (by simp), hitem₁]
    · exact (hframe₁.mono (by simp)).trans (hframe₂.mono (by simp))
  · intro error h' hclean
    simp only [setLifecycleState, setUpdatedAt, popRecord, meets_bind_assoc, meets_read_bind,
      meets_write_bind, meets_raise]
    exact hclean

theorem cancelFailedAssignment_spec (henv : env.Sound) {recoveryId executionId : String}
    {reason : Message}
    (hid : (h (.assignment (h (.execution executionId)).assignmentId)).id =
      (h (.execution executionId)).assignmentId) :
    Meets env (cancelFailedAssignment recoveryId executionId reason) h
      (fun _ h' => Recoverable executionId h ∧
        Closed (h (.execution executionId)).assignmentId .cancelled .ready
          [.records, .record recoveryId] h h')
      Clean := by
  unfold cancelFailedAssignment
  refine Meets.atomicDomainOperation henv (fun _ hclean => hclean) ?_
  refine Meets.validateRecoverable_bind (fun _ hclean => hclean) fun hrecoverable => ?_
  refine Meets.getWorkItem_bind (fun _ hclean => hclean) fun _ _ => ?_
  refine Meets.getWorkPackage_bind (fun _ hclean => hclean) fun _ => ?_
  refine Meets.getAgent_bind (fun _ hclean => hclean) fun _ => ?_
  refine Meets.compensate ?_ ?_
  · refine Meets.seq (recoverWorkItemState_spec henv) ?_
    rintro _ h₁ ⟨-, -, hitem₁, hframe₁⟩
    simp only [hid]
    refine Meets.seq (cancelAssignment_spec henv) ?_
    intro _ h₂ hclosed
    have hassignment : h₁ (.assignment (h (.execution executionId)).assignmentId) =
        h (.assignment (h (.execution executionId)).assignmentId) := hframe₁ _ (by simp)
    have hcancelled := hclosed.assignment
    have hready := hclosed.item
    have hframe₂ := hclosed.frame
    rw [hassignment] at hcancelled hready hframe₂
    refine (storeRecord_spec henv).mono ?_ fun _ _ hclean => hclean
    intro _ h₃ hframe₃
    refine ⟨hrecoverable, ?_⟩
    exact
      { mem := hrecoverable.assignment_mem
        wasActive := hrecoverable.active
        assignment := by
          obtain ⟨updatedAt, hrecord⟩ := hcancelled
          exact ⟨updatedAt, by rw [hframe₃ _ (by simp), hrecord]⟩
        item := by rw [hframe₃ _ (by simp), hready]
        frame := by
          refine SameOutside.trans (hframe₁.mono (by simp)) ?_
          exact SameOutside.trans (hframe₂.mono (by simp)) (hframe₃.mono (by simp)) }
  · intro error h' hclean
    simp only [setLifecycleState, setAssignedTo, setAssignmentStatus, setAgentState,
      setUpdatedAt, popRecord, meets_bind_assoc, meets_read_bind, meets_write_bind, meets_raise]
    exact hclean

theorem retryFailedExecution_spec (henv : env.Sound) {executors : List Executor}
    (hanswering : Answering env executors)
    {recoveryId executionId newExecutionId : String} {reason : Message}
    {context : Option CallContext}
    (hid : (h (.assignment (h (.execution executionId)).assignmentId)).id =
      (h (.execution executionId)).assignmentId) :
    Meets env (retryFailedExecution executors recoveryId executionId newExecutionId reason
        context) h
      (fun result h' => result.id = newExecutionId ∧ Recoverable executionId h ∧
        Executed newExecutionId (h (.execution executionId)).assignmentId .succeeded .review
          [.records, .record recoveryId] h h')
      (fun error h' => error.isExecutionFailed = true → Recoverable executionId h ∧
        Executed newExecutionId (h (.execution executionId)).assignmentId .failed .running
          [.records, .record recoveryId] h h') := by
  have hclean : ∀ (error : RuntimeError) (h' : State), error.isExecutionFailed = false →
      error.isExecutionFailed = true → Recoverable executionId h ∧
        Executed newExecutionId (h (.execution executionId)).assignmentId .failed .running
          [.records, .record recoveryId] h h' := by
    intro error h' hfalse htrue
    rw [hfalse] at htrue
    cases htrue
  unfold retryFailedExecution validateRequiredString
  refine Meets.atomicDomainOperation henv (fun _ => hclean _ _) ?_
  refine Meets.validateRecoverable_bind (fun _ => hclean _ _) fun hrecoverable => ?_
  simp only [meets_raiseIf_bind, meets_read_bind]
  refine ⟨fun _ => hclean _ _ rfl, fun _ => ⟨fun _ => hclean _ _ rfl, fun _ => ?_⟩⟩
  refine Meets.getWorkItem_bind (fun _ => hclean _ _) fun _ _ => ?_
  refine Meets.getWorkPackage_bind (fun _ => hclean _ _) fun _ => ?_
  -- what an execution recorded from the recovered item is, seen from the start
  have hexecuted : ∀ {status : ExecutionStatus} {state : LifecycleState} {h₁ h₂ h₃ : State},
      Touches [.workItem
          (h (.assignment (h (.execution executionId)).assignmentId)).packageId
          (h (.assignment (h (.execution executionId)).assignmentId)).workItemId,
        .workPackage (h (.assignment (h (.execution executionId)).assignmentId)).packageId]
        h h₁ →
      Executed newExecutionId (h (.execution executionId)).assignmentId status state [] h₁ h₂ →
      Touches [.records, .record recoveryId] h₂ h₃ →
      Executed newExecutionId (h (.execution executionId)).assignmentId status state
        [.records, .record recoveryId] h h₃ := by
    intro status state h₁ h₂ h₃ hframe₁ hexecuted hframe₃
    have hassignment : h₁ (.assignment (h (.execution executionId)).assignmentId) =
        h (.assignment (h (.execution executionId)).assignmentId) := hframe₁ _ (by simp)
    have hnames := hexecuted.names_eq
    have hitem := hexecuted.item
    have hframe₂ := hexecuted.frame
    rw [hassignment] at hnames hitem hframe₂
    have hkeys₁ : h₁ .executions = h .executions := hframe₁ _ (by simp)
    exact
      { fresh := by rw [← hkeys₁]; exact hexecuted.fresh
        keys := by rw [hframe₃ _ (by simp), hexecuted.keys, hkeys₁]
        status_eq := by rw [hframe₃ _ (by simp), hexecuted.status_eq]
        names_eq := by rw [hframe₃ _ (by simp), hnames]
        item := by rw [hframe₃ _ (by simp), hitem]
        frame := by
          refine SameOutside.trans (hframe₁.mono (by simp)) ?_
          exact SameOutside.trans (hframe₂.mono (by simp)) (hframe₃.mono (by simp)) }
  refine Meets.tryExcept (Meets.mono (E := fun (error : RuntimeError) h' =>
    error.isExecutionFailed = true →
    Recoverable executionId h ∧
      Executed newExecutionId (h (.execution executionId)).assignmentId .failed .running
        [.records, .record recoveryId] h h') ?_ (fun _ _ hQ => hQ) ?_)
  · refine Meets.bind ((recoverWorkItemState_spec henv).mono ?_ hclean)
    rintro _ h₁ ⟨-, -, -, hframe₁⟩
    simp only [hid]
    refine Meets.bind (Meets.tryExcept ((executeAssignment_spec henv hanswering).mono ?_ ?_))
    · rintro result h₂ ⟨hresult, hsucceeded⟩
      refine Meets.bind ((storeRecord_spec henv).mono ?_ hclean)
      intro _ h₃ hframe₃
      exact meets_pure.mpr ⟨hresult, hrecoverable, hexecuted hframe₁ hsucceeded hframe₃⟩
    · -- a recorded failure is kept on record as a retry before it is raised again
      intro error h₂ hfailed
      rw [meets_ite]
      constructor
      · intro hcommits
        refine Meets.bind ((storeRecord_spec henv).mono ?_ hclean)
        intro _ h₃ hframe₃
        rw [meets_raise]
        intro _
        exact ⟨hrecoverable, hexecuted hframe₁ (hfailed hcommits) hframe₃⟩
      · intro hnot
        rw [meets_raise]
        intro hcommits
        exact absurd hcommits hnot
  · -- the compensation is for errors that left no new execution
    intro error h₂ hfailed
    rw [meets_read_bind]
    refine Meets.bind ?_
    rw [meets_ite]
    constructor
    · intro hmissing
      simp only [setLifecycleState, setUpdatedAt, meets_bind_assoc, meets_read_bind,
        meets_write_bind, meets_write, meets_raise]
      intro hcommits
      have hkeys := (hfailed hcommits).2.keys
      rw [hkeys] at hmissing
      exact absurd (by simp) hmissing
    · intro _
      rw [meets_pure, meets_raise]
      exact hfailed

end Runtime
end Ascos
