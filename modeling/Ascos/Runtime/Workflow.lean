import Ascos.Runtime.Recovery

/-!
# The software delivery workflow service

A translation of `runtime/workflows/service.py` and
`runtime/workflows/policy.py`.
-/

namespace Ascos
namespace Runtime

open Library Library.Action

/-- What the workflow service is configured with. -/
structure Services where
  executors : List Executor
  /-- `_persistence_callback`, given the name of the operation. -/
  persistenceCallback : Option (String → Method Unit) := none

def Services.afterAtomicOperation (services : Services) (operation : String) : Method Unit :=
  match services.persistenceCallback with
  | none => pure ()
  | some callback => callback operation

/-! ## Policies and lookups -/

def requireStage (current expected : WorkflowStage) : Method Unit :=
  raiseIf (current ≠ expected)
    ⟨.invalidWorkflowTransitionError,
      s!"Operation requires workflow stage {expected.value}; received {current.value}"⟩

def requireApprovalStage (current : WorkflowStage) : Method Unit :=
  raiseIf (current ≠ .review)
    ⟨.workflowApprovalError, "Approval requires workflow stage REVIEW"⟩

def requireReleaseStage (current : WorkflowStage) : Method Unit :=
  raiseIf (current ≠ .completed)
    ⟨.workflowReleaseError, "Release requires workflow stage COMPLETED"⟩

def requireCancellable (current : WorkflowStage) : Method Unit :=
  raiseIf (current ∉ WorkflowStage.cancellable)
    ⟨.invalidWorkflowTransitionError, s!"Workflow cannot be cancelled from {current.value}"⟩

def requireRecoverable (current : WorkflowStage) : Method Unit :=
  raiseIf (current ≠ .failed)
    ⟨.invalidWorkflowTransitionError, "Execution recovery requires workflow stage FAILED"⟩

/-- `SoftwareDeliveryWorkflow.move_to` under `require_stage_transition`. -/
def moveTo (workflowId : String) (stage : WorkflowStage) : Method Unit := do
  let workflow ← load (.workflow workflowId)
  raiseIf (stage ∉ workflow.currentStage.transitions)
    ⟨.invalidWorkflowTransitionError,
      s!"Cannot transition workflow from {workflow.currentStage.value} to {stage.value}"⟩
  let updatedAt ← now
  store (.workflow workflowId) { workflow with currentStage := stage, updatedAt }

def getWorkflow (workflowId : String) : Method SoftwareDeliveryWorkflow := do
  validateRequiredString workflowId "workflow_id"
  let workflows ← load .workflows
  raiseIf (workflowId ∉ workflows)
    ⟨.workflowNotFoundError, quote "Workflow " workflowId " was not found"⟩
  load (.workflow workflowId)

/-- `self._requests[workflow.request_id]`. -/
def requestOf (workflow : SoftwareDeliveryWorkflow) : Method SoftwareDeliveryRequest := do
  let requests ← load .requests
  match requests.find? (·.id == workflow.requestId) with
  | some request => pure request
  | none => raise ⟨.keyError, quote "" workflow.requestId ""⟩

/-- `SoftwareDeliveryWorkflowService._correlation_id`. -/
def correlationIdOf (workflow : SoftwareDeliveryWorkflow) : Method String := do
  let request ← requestOf workflow
  pure (orDefaultString request.correlationId workflow.id)

/-- `SoftwareDeliveryWorkflowService._last_event_id` with `get_workflow_events`. -/
def lastEventId (workflow : SoftwareDeliveryWorkflow) : Method (Option String) := do
  let correlationId ← correlationIdOf workflow
  let found ← getWorkflow workflow.id
  let foundCorrelationId ← correlationIdOf found
  validateRequiredString foundCorrelationId "correlation_id"
  let (events, stagedEvents) ← loggedEvents
  let matching := events.filter (·.correlationId == some foundCorrelationId) ++
    stagedEvents.filter (·.correlationId == some correlationId)
  pure (matching.getLast?.map RuntimeEvent.id)

/-- `SoftwareDeliveryWorkflowService._publish`. -/
def publishWorkflow (workflowId : String) (eventType : EventType) (payload : Payload) :
    Method Unit := do
  let workflow ← load (.workflow workflowId)
  let correlationId ← correlationIdOf workflow
  let causationId ← lastEventId workflow
  let _ ← publish eventType "SOFTWARE_DELIVERY_WORKFLOW" workflow.id
    (("stage", workflow.currentStage.value) :: payload) (some correlationId) causationId
  pure ()

def requireAssignmentId (workflow : SoftwareDeliveryWorkflow) : Method String :=
  match workflow.assignmentId with
  | some assignmentId => pure assignmentId
  | none => raise ⟨.invalidWorkflowTransitionError,
      "Workflow does not have a persisted assignment"⟩

/-- `workflow.execution_ids[-1]`. -/
def lastExecutionId (workflowId : String) : Method String := do
  let executionIds ← load (.executionIds workflowId)
  match executionIds.getLast? with
  | some executionId => pure executionId
  | none => raise ⟨.indexError, "list index out of range"⟩

/-- `workflow.execution_ids.append(execution_id)`. -/
def appendExecutionId (workflowId executionId : String) : Method Unit := do
  let executionIds ← load (.executionIds workflowId)
  store (.executionIds workflowId) (executionIds ++ [executionId])

/-- Assign the field `failure_reason` of a workflow. -/
def setFailureReason (workflowId : String) (failureReason : Option Message) :
    Method Unit := do
  let workflow ← load (.workflow workflowId)
  store (.workflow workflowId) { workflow with failureReason }

def packageIdOf (workflowId : String) : String :=
  workflowId ++ ":package"

def workItemIdOf (workflowId : String) : String :=
  workflowId ++ ":work-item"

def assignmentIdOf (workflowId : String) : String :=
  workflowId ++ ":assignment"

/-- `SoftwareDeliveryWorkflow.__post_init__` on a new workflow. -/
def newWorkflow (id requestId workPackageId workItemId : String) :
    Method SoftwareDeliveryWorkflow := do
  let createdAt ← now
  let updatedAt ← now
  validateRequiredString id "SoftwareDeliveryWorkflow.id"
  validateRequiredString requestId "SoftwareDeliveryWorkflow.request_id"
  validateRequiredString workPackageId "SoftwareDeliveryWorkflow.work_package_id"
  validateRequiredString workItemId "SoftwareDeliveryWorkflow.work_item_id"
  pure { id, requestId, workPackageId, workItemId, createdAt, updatedAt }

def executionContextOf (workflow : SoftwareDeliveryWorkflow) : Method CallContext := do
  let correlationId ← correlationIdOf workflow
  let causationId ← lastEventId workflow
  pure { correlationId := some correlationId, causationId }

/-! ## The operations -/

variable (services : Services)

/-- An operation of the workflow service: atomic, with the persistence callback after. -/
def workflowOperation {α : Type} (operation : String) (method : Method α) : Method α :=
  atomicDomainOperation method (services.afterAtomicOperation operation)

def submitRequest (request : SoftwareDeliveryRequest) (workflowId : Option String := none) :
    Method SoftwareDeliveryWorkflow :=
  workflowOperation services "submit_request" do
    let resolvedId := orDefaultString workflowId request.id
    validateRequiredString resolvedId "workflow_id"
    let workflows ← load .workflows
    let requests ← load .requests
    raiseIf (resolvedId ∈ workflows ∨ request.id ∈ requests.map SoftwareDeliveryRequest.id)
      ⟨.duplicateWorkflowError,
        quote "Workflow or request " resolvedId " already exists"⟩
    let workflow ← newWorkflow resolvedId request.id (packageIdOf resolvedId)
      (workItemIdOf resolvedId)
    store (.workflow resolvedId) workflow
    store (.executionIds resolvedId) []
    store .workflows (workflows ++ [resolvedId])
    store .requests (requests ++ [request])
    let _ ← createWorkPackage workflow.workPackageId request.title request.description
      request.requestedBy
    let _ ← addWorkItem workflow.workPackageId workflow.workItemId request.title
      request.description request.priority
    publishWorkflow resolvedId .softwareRequestSubmitted
      [("request_id", request.id), ("requested_by", request.requestedBy)]
    load (.workflow resolvedId)

def planRequest (workflowId : String) : Method SoftwareDeliveryWorkflow :=
  workflowOperation services "plan_request" do
    let workflow ← getWorkflow workflowId
    requireStage workflow.currentStage .intake
    let request ← requestOf workflow
    moveTo workflowId .planning
    changeWorkItemState workflow.workPackageId workflow.workItemId .ready
    moveTo workflowId .ready
    publishWorkflow workflowId .softwareRequestPlanned
      [("acceptance_criteria", .texts request.acceptanceCriteria)]
    load (.workflow workflowId)

def prepareWork (workflowId : String) : Method SoftwareDeliveryWorkflow :=
  workflowOperation services "prepare_work" do
    let workflow ← getWorkflow workflowId
    if workflow.currentStage = .ready then
      pure workflow
    else
      requireStage workflow.currentStage .planning
      changeWorkItemState workflow.workPackageId workflow.workItemId .ready
      moveTo workflowId .ready
      load (.workflow workflowId)

def assignWork (workflowId : String) : Method SoftwareDeliveryWorkflow :=
  workflowOperation services "assign_work" do
    let workflow ← getWorkflow workflowId
    requireStage workflow.currentStage .ready
    let request ← requestOf workflow
    let assignment ← assignWorkItem (assignmentIdOf workflow.id) workflow.workPackageId
      workflow.workItemId (some request.requiredRole) (some request.requiredCapabilities)
    let workflow ← load (.workflow workflowId)
    store (.workflow workflowId) { workflow with assignmentId := some assignment.id }
    moveTo workflowId .assigned
    publishWorkflow workflowId .softwareWorkAssigned [("agent_id", assignment.agentId)]
    load (.workflow workflowId)

/-- The `except ExecutionFailedError` branch of `execute_work`. -/
def recordFailedExecution {α : Type} (workflowId resolvedId : String)
    (error : RuntimeError) : Method α := do
  let executionIds ← load (.executionIds workflowId)
  (if resolvedId ∉ executionIds then appendExecutionId workflowId resolvedId else pure ())
  setFailureReason workflowId (some error.message)
  moveTo workflowId .failed
  publishWorkflow workflowId .softwareExecutionFailed
    [("execution_id", resolvedId), ("reason", .text error.message)]
  raise ⟨.workflowExecutionError, error.message⟩

def executeWork (workflowId : String) (executionId : Option String := none) :
    Method SoftwareDeliveryWorkflow :=
  workflowOperation services "execute_work" do
    let workflow ← getWorkflow workflowId
    raiseIf (workflow.currentStage ≠ .assigned ∧ workflow.currentStage ≠ .executing)
      ⟨.invalidWorkflowTransitionError,
        "Execution requires ASSIGNED or correction-stage EXECUTING"⟩
    let executionIds ← load (.executionIds workflowId)
    let resolvedId := orDefaultString executionId
      s!"{workflow.id}:execution:{executionIds.length + 1}"
    validateRequiredString resolvedId "execution_id"
    (if workflow.currentStage = .assigned then moveTo workflowId .executing else pure ())
    publishWorkflow workflowId .softwareExecutionStarted [("execution_id", resolvedId)]
    let assignmentId ← requireAssignmentId workflow
    let item ← getWorkItem workflow.workPackageId workflow.workItemId
    let execution ← tryExcept
      (do let context ← executionContextOf workflow
          if item.lifecycleState = .rejected then
            executeCorrection services.executors resolvedId assignmentId (some context)
          else
            executeAssignment services.executors resolvedId assignmentId (some context))
      (fun error =>
        if error.isExecutionFailed = true then
          recordFailedExecution workflowId resolvedId error
        else raise error)
    appendExecutionId workflowId execution.id
    setFailureReason workflowId none
    moveTo workflowId .review
    publishWorkflow workflowId .softwareExecutionSucceeded [("execution_id", execution.id)]
    publishWorkflow workflowId .softwareReviewSubmitted [("execution_id", execution.id)]
    load (.workflow workflowId)

def approveWork (workflowId : String) : Method SoftwareDeliveryWorkflow :=
  workflowOperation services "approve_work" do
    let workflow ← getWorkflow workflowId
    requireApprovalStage workflow.currentStage
    let item ← getWorkItem workflow.workPackageId workflow.workItemId
    raiseIf (item.lifecycleState ≠ .review)
      ⟨.workflowApprovalError, "Approval requires work item state REVIEW"⟩
    changeWorkItemState workflow.workPackageId workflow.workItemId .approved
    let approvedAt ← now
    let workflow ← load (.workflow workflowId)
    store (.workflow workflowId)
      { workflow with rejectionReason := none, approvedAt := some approvedAt }
    moveTo workflowId .approval
    publishWorkflow workflowId .softwareWorkApproved []
    load (.workflow workflowId)

def rejectWork (workflowId : String) (reason : Message) : Method SoftwareDeliveryWorkflow :=
  workflowOperation services "reject_work" do
    validateRequiredMessage reason "reason"
    let workflow ← getWorkflow workflowId
    requireStage workflow.currentStage .review
    changeWorkItemState workflow.workPackageId workflow.workItemId .rejected
    let workflow ← load (.workflow workflowId)
    store (.workflow workflowId)
      { workflow with approvedAt := none, rejectionReason := some reason }
    moveTo workflowId .executing
    publishWorkflow workflowId .softwareWorkRejected [("reason", .text reason)]
    load (.workflow workflowId)

def completeWork (workflowId : String) : Method SoftwareDeliveryWorkflow :=
  workflowOperation services "complete_work" do
    let workflow ← getWorkflow workflowId
    requireStage workflow.currentStage .approval
    let item ← getWorkItem workflow.workPackageId workflow.workItemId
    raiseIf (item.lifecycleState ≠ .approved)
      ⟨.workflowApprovalError, "Completion requires work item state APPROVED"⟩
    let assignmentId ← requireAssignmentId workflow
    completeAssignment assignmentId
    moveTo workflowId .completed
    publishWorkflow workflowId .softwareWorkCompleted []
    load (.workflow workflowId)

def releaseWork (workflowId : String) : Method SoftwareDeliveryWorkflow :=
  workflowOperation services "release_work" do
    let workflow ← getWorkflow workflowId
    requireReleaseStage workflow.currentStage
    let item ← getWorkItem workflow.workPackageId workflow.workItemId
    raiseIf (item.lifecycleState ≠ .completed)
      ⟨.workflowReleaseError, "Release requires work item state COMPLETED"⟩
    changeWorkItemState workflow.workPackageId workflow.workItemId .released
    moveTo workflowId .released
    publishWorkflow workflowId .softwareWorkReleased []
    load (.workflow workflowId)

def cancelWorkflow (workflowId : String) (reason : Message := "Workflow cancelled") :
    Method SoftwareDeliveryWorkflow :=
  workflowOperation services "cancel_workflow" do
    validateRequiredMessage reason "reason"
    let workflow ← getWorkflow workflowId
    requireCancellable workflow.currentStage
    (if workflow.currentStage = .assigned then do
      let assignmentId ← requireAssignmentId workflow
      cancelAssignment assignmentId
    else if workflow.currentStage = .failed then do
      let executionId ← lastExecutionId workflowId
      (fun _ => ()) <$> cancelFailedAssignment s!"{workflow.id}:cancellation" executionId reason
    else pure ())
    moveTo workflowId .cancelled
    setFailureReason workflowId (some reason)
    publishWorkflow workflowId .softwareWorkflowCancelled [("reason", .text reason)]
    load (.workflow workflowId)

/-- The `except ExecutionFailedError` branch of `recover_failed_execution`. -/
def recordFailedRetry {α : Type} (workflowId resolvedExecutionId : String)
    (error : RuntimeError) : Method α := do
  appendExecutionId workflowId resolvedExecutionId
  setFailureReason workflowId (some error.message)
  publishWorkflow workflowId .softwareExecutionFailed
    [("execution_id", resolvedExecutionId), ("reason", .text error.message)]
  raise ⟨.workflowExecutionError, error.message⟩

def recoverFailedExecution (workflowId recoveryId : String) (reason : Message)
    (action : String := "retry") (newExecutionId : Option String := none) :
    Method SoftwareDeliveryWorkflow :=
  workflowOperation services "recover_failed_execution" do
    let workflow ← getWorkflow workflowId
    requireRecoverable workflow.currentStage
    let failedExecutionId ← lastExecutionId workflowId
    let executionIds ← load (.executionIds workflowId)
    let resolvedExecutionId := orDefaultString newExecutionId
      s!"{workflow.id}:execution:{executionIds.length + 1}"
    (if action = "retry" then do
      let execution ← tryExcept
        (do let context ← executionContextOf workflow
            retryFailedExecution services.executors recoveryId failedExecutionId
              resolvedExecutionId reason (some context))
        (fun error =>
          if error.isExecutionFailed = true then
            recordFailedRetry workflowId resolvedExecutionId error
          else raise error)
      appendExecutionId workflowId execution.id
      setFailureReason workflowId none
      moveTo workflowId .review
    else if action = "reset" then do
      let _ ← resetFailedExecution recoveryId failedExecutionId reason
      setFailureReason workflowId none
      moveTo workflowId .assigned
    else if action = "cancel" then do
      let _ ← cancelFailedAssignment recoveryId failedExecutionId reason
      moveTo workflowId .cancelled
    else
      raise ⟨.validationError, "recovery action must be retry, reset, or cancel"⟩)
    publishWorkflow workflowId .softwareExecutionRecovered
      [("action", action), ("execution_id", failedExecutionId),
        ("new_execution_id",
          if action = "retry" then .text resolvedExecutionId else .null)]
    (if action = "cancel" then
      publishWorkflow workflowId .softwareWorkflowCancelled [("reason", .text reason)]
    else pure ())
    load (.workflow workflowId)

/-! ## Specifications -/

variable {α : Type} {env : Environment} {h : State} {Q : α → State → Prop}
  {E : RuntimeError → State → Prop}

theorem Meets.getWorkflow_bind {workflowId : String} {f : SoftwareDeliveryWorkflow → Method α}
    (hraise : ∀ error, error.isExecutionFailed = false → E error h)
    (hf : workflowId ∈ h .workflows → Meets env (f (h (.workflow workflowId))) h Q E) :
    Meets env (getWorkflow workflowId >>= f) h Q E := by
  unfold getWorkflow validateRequiredString
  simp only [meets_bind_assoc, meets_read_bind, meets_raiseIf_bind, not_not]
  exact ⟨fun _ => hraise _ rfl, fun _ => ⟨fun _ => hraise _ rfl, hf⟩⟩

theorem Meets.requestOf_bind {workflow : SoftwareDeliveryWorkflow}
    {f : SoftwareDeliveryRequest → Method α}
    (hraise : ∀ error, error.isExecutionFailed = false → E error h)
    (hf : ∀ request, Meets env (f request) h Q E) :
    Meets env (requestOf workflow >>= f) h Q E := by
  unfold requestOf
  rw [meets_bind_assoc, meets_read_bind]
  split
  · exact hf _
  · exact meets_raise_bind.mpr (hraise _ rfl)

theorem Meets.correlationIdOf_bind {workflow : SoftwareDeliveryWorkflow}
    {f : String → Method α}
    (hraise : ∀ error, error.isExecutionFailed = false → E error h)
    (hf : ∀ correlationId, Meets env (f correlationId) h Q E) :
    Meets env (correlationIdOf workflow >>= f) h Q E := by
  unfold correlationIdOf
  rw [meets_bind_assoc]
  refine Meets.requestOf_bind hraise fun request => ?_
  exact hf _

theorem Meets.lastEventId_bind {workflow : SoftwareDeliveryWorkflow}
    {f : Option String → Method α}
    (hraise : ∀ error, error.isExecutionFailed = false → E error h)
    (hf : ∀ eventId, Meets env (f eventId) h Q E) :
    Meets env (lastEventId workflow >>= f) h Q E := by
  unfold lastEventId validateRequiredString
  rw [meets_bind_assoc]
  refine Meets.correlationIdOf_bind hraise fun correlationId => ?_
  rw [meets_bind_assoc]
  refine Meets.getWorkflow_bind hraise fun _ => ?_
  rw [meets_bind_assoc]
  refine Meets.correlationIdOf_bind hraise fun foundCorrelationId => ?_
  simp only [meets_bind_assoc, meets_raiseIf_bind]
  refine ⟨fun _ => hraise _ rfl, fun _ => ?_⟩
  refine Meets.loggedEvents_bind fun events => ?_
  exact hf _

theorem Meets.publishWorkflow {workflowId : String} {eventType : EventType}
    {payload : Payload} {Q : Unit → State → Prop} (henv : env.Sound)
    (hraise : ∀ error, error.isExecutionFailed = false → E error h) (hQ : Q () h) :
    Meets env (publishWorkflow workflowId eventType payload) h Q E := by
  unfold Runtime.publishWorkflow
  rw [meets_read_bind]
  refine Meets.correlationIdOf_bind hraise fun correlationId => ?_
  refine Meets.lastEventId_bind hraise fun causationId => ?_
  exact Meets.bind (Meets.publish henv (fun _ => meets_pure.mpr hQ) hraise)

theorem Meets.executionContextOf_bind {workflow : SoftwareDeliveryWorkflow}
    {f : CallContext → Method α}
    (hraise : ∀ error, error.isExecutionFailed = false → E error h)
    (hf : ∀ context, Meets env (f context) h Q E) :
    Meets env (executionContextOf workflow >>= f) h Q E := by
  unfold executionContextOf
  rw [meets_bind_assoc]
  refine Meets.correlationIdOf_bind hraise fun correlationId => ?_
  rw [meets_bind_assoc]
  refine Meets.lastEventId_bind hraise fun causationId => ?_
  exact hf _

theorem Meets.moveTo {workflowId : String} {stage : WorkflowStage} {Q : Unit → State → Prop}
    (hraise : ∀ error, error.isExecutionFailed = false → E error h)
    (hQ : stage ∈ (h (.workflow workflowId)).currentStage.transitions →
      ∀ updatedAt, Q () (h.write (.workflow workflowId)
        { h (.workflow workflowId) with currentStage := stage, updatedAt })) :
    Meets env (moveTo workflowId stage) h Q E := by
  unfold Runtime.moveTo
  rw [meets_read_bind, meets_raiseIf_bind, not_not]
  refine ⟨fun _ => hraise _ rfl, fun hstage => ?_⟩
  refine Meets.now_bind fun updatedAt => ?_
  rw [meets_write]
  exact hQ hstage updatedAt

theorem Meets.requireAssignmentId_bind {workflow : SoftwareDeliveryWorkflow}
    {f : String → Method α}
    (hraise : ∀ error, error.isExecutionFailed = false → E error h)
    (hf : ∀ assignmentId, workflow.assignmentId = some assignmentId →
      Meets env (f assignmentId) h Q E) :
    Meets env (requireAssignmentId workflow >>= f) h Q E := by
  unfold requireAssignmentId
  split
  · rename_i assignmentId hassignment
    exact hf assignmentId hassignment
  · exact meets_raise_bind.mpr (hraise _ rfl)

theorem Meets.lastExecutionId_bind {workflowId : String} {f : String → Method α}
    (hraise : ∀ error, error.isExecutionFailed = false → E error h)
    (hf : ∀ executionId, (h (.executionIds workflowId)).getLast? = some executionId →
      Meets env (f executionId) h Q E) :
    Meets env (lastExecutionId workflowId >>= f) h Q E := by
  unfold lastExecutionId
  rw [meets_bind_assoc, meets_read_bind]
  split
  · rename_i executionId hlast
    exact hf executionId hlast
  · exact meets_raise_bind.mpr (hraise _ rfl)

end Runtime
end Ascos
