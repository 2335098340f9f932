import Ascos.Library.Specification
import Ascos.Tasks.Model

/-!
# The external task service

A translation of `ExternalTaskService` from `runtime/tasks/service.py` with an event
publisher.  The only snapshot target of the service is itself: the references to its
dictionaries.  The dictionaries, the lists and the task and operation objects in them are all
mutated in place and are no targets, so they are gathered in one location, `contents`.

What decides an operation from outside is given as `Surroundings`: the clock, the
providers, the workspace provider, the outcome of every publication, and the drawn identifier.
-/

namespace Ascos
namespace Tasks

open Library Library.Action
open Ascos.Runtime (Timestamp isBlank)

/-! ## The service and its publisher -/

/-- The mutable objects of the service. -/
inductive TaskLoc where
  /-- The attributes of the service: which dictionaries it refers to. -/
  | service
  /-- The dictionaries and everything in them. -/
  | contents
deriving DecidableEq

/-- What each of them holds. -/
abbrev TaskCell : TaskLoc → Type
  | .service => Nat
  | .contents => Contents

/-- The event types of external tasks. -/
inductive TaskEventType where
  | externalTaskCreated
  | externalTaskProviderSelected
  | externalTaskQueued
  | externalTaskStarted
  | externalOperationPlanned
  | externalOperationStarted
  | externalOperationReconciliationRequired
  | externalTaskProgressRecorded
  | externalOperationSucceeded
  | externalTaskFailed
  | externalTaskReviewRequested
  | externalTaskRetryRequested
  | externalTaskApproved
  | externalTaskRejected
  | externalTaskChangesRequested
  | externalTaskCompleted
  | externalTaskCancelled
deriving DecidableEq

/-- A value in the payload of an event. -/
inductive Detail where
  | text (value : Option String)
  | number (value : Nat)
deriving DecidableEq

structure TaskEvent where
  eventType : TaskEventType
  aggregateId : String
  payload : List (String × Detail)
  correlationId : Option String
  causationId : Option String
deriving DecidableEq

/-- The service under a publisher; a reading says whether the event store accepts a batch. -/
abbrev external : Signature where
  Loc := TaskLoc
  decEqLoc := inferInstance
  Cell := TaskCell
  Event := TaskEvent
  Error := TaskError
  Reading := Except TaskError Unit

abbrev Method (α : Type) := Action external α

def snapshotTargets (_ : Heap external) : List TaskLoc :=
  [.service]

def transactions : Coordinator external where
  targets := snapshotTargets
  addEvents accepted events batch :=
    match accepted with
    | .ok _ => (.ok (), events ++ batch)
    | .error error => (.error error, events)
  commitError _ := .transactionCommit "Failed to commit domain state and staged events"
  addEvents_ok := by
    intro accepted events batch result h
    cases accepted <;> cases h
    rfl
  addEvents_error := by
    intro accepted events batch error result h
    cases accepted <;> cases h
    rfl

/-- `atomic_domain_operation`; the service has no callback after an operation. -/
def atomicDomainOperation {α : Type} (method : Method α) : Method α := do
  let outcome ← atomic transactions
    (tryExcept (Except.ok <$> method) fun error =>
      if error.isExecutionFailed = true then pure (.error error) else raise error)
  match outcome with
  | .ok result => pure result
  | .error domainFailure => raise domainFailure

/-- Return or raise what came from outside. -/
def outside {α : Type} : Except TaskError α → Method α
  | .ok a => pure a
  | .error error => raise error

/-! ## Surroundings -/

/-- What a provider answers to `submit_task`, `get_progress` and `get_result`. -/
structure Answer where
  providerTaskId : String
  progress : List CodingAgentProgress
  result : CodingAgentTaskResult

/-- What decides an operation from outside. -/
structure Surroundings where
  /-- The readings of the clock, in order. -/
  now : Nat → Timestamp
  providers : List CodingAgentProvider
  /-- The outcome of `create_workspace`, if there is a workspace provider. -/
  workspace : Option (Except TaskError Unit)
  /-- The outcome of each publication, in order. -/
  published : Nat → Except TaskError Unit
  /-- `uuid4()`. -/
  operationId : String
  /-- The answers of the provider, or what one of the three calls raises. -/
  answer : Except TaskError Answer

/-! ## Steps of the operations -/

/-- Mutate what the dictionaries hold. -/
def mutate (f : Contents → Contents) : Method Unit := do
  let contents ← read (S := external) .contents
  write (S := external) .contents (f contents)

def getTask (taskId : String) : Method ExternalTask := do
  let contents ← read (S := external) .contents
  match contents.tasks[taskId]? with
  | some task => pure task
  | none => raise (.externalTaskNotFound taskId)

def Contents.assignTask (taskId : String) (f : ExternalTask → ExternalTask)
    (contents : Contents) : Contents :=
  { contents with tasks := contents.tasks.modify taskId f }

def Contents.assignOperation (operationId : String)
    (f : ExternalOperation → ExternalOperation) (contents : Contents) : Contents :=
  { contents with operations := contents.operations.modify operationId f }

def Contents.fileDecision (taskId : String) (item : ApprovalDecision)
    (contents : Contents) : Contents :=
  { contents with
    decisions := contents.decisions.insert taskId
      ((contents.decisions[taskId]?.getD []) ++ [item]) }

def transition (taskId : String) (status : ExternalTaskStatus) : Method Unit := do
  let task ← getTask taskId
  raiseIf (status ∉ task.status.allowedTransitions)
    (.invalidExternalTaskTransition s!"{task.status.value} cannot become {status.value}")
  mutate (Contents.assignTask taskId fun task => { task with status })

/-- `EventPublisher.publish` as `_emit` calls it. -/
def emitEvent (s : Surroundings) (index : Nat) (eventType : TaskEventType) (taskId : String)
    (payload : List (String × Detail)) : Method Unit := do
  let task ← getTask taskId
  outside (s.published index)
  raiseIf (isBlank task.taskId = true) (.validation "aggregate_id must be a non-empty string")
  raiseIf (∃ text ∈ task.correlationId, isBlank text = true)
    (.validation "correlation_id must be a non-empty string")
  raiseIf (∃ text ∈ task.causationId, isBlank text = true)
    (.validation "causation_id must be a non-empty string")
  emit transactions
    { eventType
      aggregateId := task.taskId
      payload
      correlationId := task.correlationId
      causationId := task.causationId }

def statusPayload (status : ExternalTaskStatus) : List (String × Detail) :=
  [("status", .text (some status.value))]

/-! ## Operations -/

/-- The keyword arguments of `create_task`. -/
structure TaskValues where
  taskId : Option String := none
  projectId : Option String := none
  workItemId : Option String := none
  taskType : String := "CODING"
  title : Option String := none
  description : Option String := none
  repositoryReference : Option String := none
  baseBranch : String := "main"
  workingBranch : Option String := none
  requestedCapabilities : List String := []
  correlationId : Option String := none
  causationId : Option String := none

/-- `values[key]`. -/
def required (key : String) : Option String → Except TaskError String
  | some value => .ok value
  | none => .error (.keyError key)

/-- The new task of `create_task`. -/
def TaskValues.task (values : TaskValues) (taskId : String) (createdAt : Timestamp) :
    Except TaskError ExternalTask := do
  let projectId ← required "project_id" values.projectId
  let workItemId ← required "work_item_id" values.workItemId
  let title ← required "title" values.title
  let description ← required "description" values.description
  let repositoryReference ← required "repository_reference" values.repositoryReference
  let workingBranch ← required "working_branch" values.workingBranch
  pure
    { taskId, projectId, workItemId, title, description, repositoryReference, workingBranch
      createdAt
      taskType := values.taskType
      providerId := none
      workspaceId := none
      baseBranch := values.baseBranch
      status := .created
      requestedCapabilities := values.requestedCapabilities
      correlationId := values.correlationId
      causationId := values.causationId }

variable (s : Surroundings)

def createTask (values : TaskValues) : Method ExternalTask :=
  atomicDomainOperation do
    let taskId ← outside (required "task_id" values.taskId)
    let contents ← read (S := external) .contents
    raiseIf (contents.tasks.contains taskId = true)
      (.invalidExternalTaskTransition "Task already exists")
    let task ← outside (values.task taskId (s.now 0))
    mutate fun contents => { contents with tasks := contents.tasks.insert taskId task }
    emitEvent s 0 .externalTaskCreated taskId (statusPayload task.status)
    getTask taskId

/-- The creation of a workspace in `queue_task`. -/
def createWorkspace (taskId : String) : Method Unit := do
  let task ← getTask taskId
  match s.workspace with
  | some created =>
    if task.workspaceId = none then do
      mutate (Contents.assignTask taskId fun task =>
        { task with workspaceId := some s!"task-{task.taskId}" })
      outside created
    else pure ()
  | none => pure ()

def queueTask (taskId : String) : Method ExternalTask :=
  atomicDomainOperation do
    let task ← getTask taskId
    let provider ← outside (chooseCompatibleProvider s.providers task.requestedCapabilities)
    mutate (Contents.assignTask taskId fun task =>
      { task with providerId := some provider.providerId })
    createWorkspace s taskId
    transition taskId .queued
    emitEvent s 0 .externalTaskProviderSelected taskId
      [("provider_id", .text (some provider.providerId))]
    emitEvent s 1 .externalTaskQueued taskId (statusPayload .queued)
    getTask taskId

def requestReview (taskId : String) : Method ExternalTask :=
  atomicDomainOperation do
    let task ← getTask taskId
    raiseIf (task.status ≠ .running ∨ task.resultReference = none)
      (.invalidExternalTaskTransition "Successful result is required before review")
    mutate (Contents.assignTask taskId fun task => { task with approvalStatus := .pending })
    transition taskId .waitingForReview
    emitEvent s 0 .externalTaskReviewRequested taskId (statusPayload .waitingForReview)
    getTask taskId

def retryTask (taskId : String) : Method ExternalTask :=
  atomicDomainOperation do
    let task ← getTask taskId
    raiseIf (task.status ≠ .failed ∧ task.status ≠ .changesRequested)
      (.invalidExternalTaskTransition "Task is not retryable")
    let contents ← read (S := external) .contents
    raiseIf (task.status = .failed ∧
        ∀ result ∈ contents.results[taskId]?, result.status ≠ .failedRetryable)
      (.invalidExternalTaskTransition "Permanent failure cannot be retried")
    mutate (Contents.assignTask taskId fun task =>
      { task with retryCount := task.retryCount + 1 })
    transition taskId .queued
    emitEvent s 0 .externalTaskRetryRequested taskId
      [("retry_count", .number (task.retryCount + 1))]
    getTask taskId

def approveTask (taskId approverId reason : String) : Method ApprovalDecision :=
  atomicDomainOperation do
    let task ← getTask taskId
    raiseIf (task.status ≠ .waitingForReview) (.approvalPolicy "Approval requires review")
    raiseIf (some approverId = task.providerId)
      (.approvalPolicy "Provider cannot approve its own work")
    let item ← outside (decision taskId .approved approverId reason (s.now 0))
    mutate (Contents.fileDecision taskId item)
    mutate (Contents.assignTask taskId fun task => { task with approvalStatus := .approved })
    transition taskId .approved
    emitEvent s 0 .externalTaskApproved taskId [("approver_id", .text (some approverId))]
    pure item

def reviewDecision (taskId approverId reason : String) (approval : ApprovalStatus)
    (status : ExternalTaskStatus) (event : TaskEventType) : Method ApprovalDecision := do
  let task ← getTask taskId
  raiseIf (task.status ≠ .waitingForReview) (.approvalPolicy "Decision requires review")
  let item ← outside (decision taskId approval approverId reason (s.now 0))
  mutate (Contents.fileDecision taskId item)
  mutate (Contents.assignTask taskId fun task => { task with approvalStatus := approval })
  transition taskId status
  emitEvent s 0 event taskId
    [("approver_id", .text (some approverId)), ("reason", .text (some reason))]
  pure item

def rejectTask (taskId approverId reason : String) : Method ApprovalDecision :=
  atomicDomainOperation
    (reviewDecision s taskId approverId reason .rejected .rejected .externalTaskRejected)

def requestChanges (taskId approverId reason : String) : Method ApprovalDecision :=
  atomicDomainOperation
    (reviewDecision s taskId approverId reason .changesRequested .changesRequested
      .externalTaskChangesRequested)

def completeTask (taskId : String) : Method ExternalTask :=
  atomicDomainOperation do
    transition taskId .completed
    mutate (Contents.assignTask taskId fun task => { task with completedAt := some (s.now 0) })
    emitEvent s 0 .externalTaskCompleted taskId (statusPayload .completed)
    getTask taskId

/-- `cancel_task`; the test of a running task has no effect. -/
def cancelTask (taskId : String) : Method ExternalTask :=
  atomicDomainOperation do
    transition taskId .cancelled
    emitEvent s 0 .externalTaskCancelled taskId (statusPayload .cancelled)
    getTask taskId

/-! ## Executing a task -/

/-- `_validate_provider_progress` passes: the items are of the task, numbered from the given
number on. -/
def validProgress (taskId : String) : Nat → List CodingAgentProgress → Bool
  | _, [] => true
  | expected, item :: progress =>
    item.taskId == taskId && item.sequence == expected &&
      validProgress taskId (expected + 1) progress

/-- The body of the `try` of `execute_task`. -/
def consult (taskId : String) (providerId : Option String) : Except TaskError Answer := do
  let _ ← getProvider s.providers providerId
  let answer ← s.answer
  if validProgress taskId 1 answer.progress = false then
    throw (.valueError "Provider progress sequence is invalid")
  else if answer.result.taskId ≠ taskId then
    throw (.valueError "Provider result belongs to another task")
  else
    pure answer

/-- The first block of `execute_task`: the operation is planned and started. -/
def startOperation (taskId : String) : Method Unit := do
  transition taskId .running
  mutate (Contents.assignTask taskId fun task => { task with startedAt := some (s.now 0) })
  emitEvent s 0 .externalTaskStarted taskId (statusPayload .running)
  mutate fun contents =>
    { contents with
      operations := contents.operations.insert s.operationId
        { operationId := s.operationId
          taskId
          operationType := "CODING_AGENT_SUBMIT"
          status := .planned
          createdAt := s.now 1
          updatedAt := s.now 1 } }
  emitEvent s 1 .externalOperationPlanned taskId [("operation_id", .text (some s.operationId))]
  mutate (Contents.assignOperation s.operationId fun operation =>
    { operation with status := .started, updatedAt := s.now 2 })
  emitEvent s 2 .externalOperationStarted taskId [("operation_id", .text (some s.operationId))]

/-- The block of the handler: the outcome at the provider is unknown. -/
def requireReconciliation (taskId : String) : Method Unit := do
  mutate (Contents.assignOperation s.operationId fun operation =>
    { operation with status := .reconciliationRequired, updatedAt := s.now 3 })
  mutate (Contents.assignTask taskId fun task => { task with status := .reconciliationRequired })
  emitEvent s 3 .externalOperationReconciliationRequired taskId
    [("operation_id", .text (some s.operationId))]

/-- The loop that publishes the progress items. -/
def emitProgress (taskId : String) : Nat → List CodingAgentProgress → Method Unit
  | _, [] => pure ()
  | index, item :: progress => do
    emitEvent s index .externalTaskProgressRecorded taskId
      [("sequence", .number item.sequence), ("stage", .text (some item.stage))]
    emitProgress taskId (index + 1) progress

/-- The last block of `execute_task`: the answer is recorded. -/
def recordAnswer (taskId : String) (answer : Answer) : Method Unit := do
  mutate fun contents =>
    { contents with progress := contents.progress.insert taskId answer.progress }
  emitProgress s taskId 3 answer.progress
  mutate fun contents =>
    { contents with results := contents.results.insert taskId answer.result }
  mutate (Contents.assignOperation s.operationId fun operation =>
    { operation with status := .succeeded, updatedAt := s.now 3 })
  emitEvent s (3 + answer.progress.length) .externalOperationSucceeded taskId
    [("operation_id", .text (some s.operationId))]
  if answer.result.status = .succeeded then
    mutate (Contents.assignTask taskId fun task =>
      { task with resultReference := some answer.providerTaskId })
  else do
    mutate (Contents.assignTask taskId fun task =>
      { task with failureCode := answer.result.failureCode })
    transition taskId .failed
    emitEvent s (4 + answer.progress.length) .externalTaskFailed taskId
      [("failure_code", .text answer.result.failureCode)]

def executeTask (taskId : String) : Method CodingAgentTaskResult := do
  let _ ← getTask taskId
  atomic transactions (startOperation s taskId)
  let task ← getTask taskId
  match consult s taskId task.providerId with
  | .error error => do
    atomic transactions (requireReconciliation s taskId)
    raise error
  | .ok answer => do
    atomic transactions (recordAnswer s taskId answer)
    pure answer.result

/-! ## Calls -/

/-- A call of an operation of the service. -/
inductive Call where
  | createTask (values : TaskValues)
  | queueTask (taskId : String)
  | executeTask (taskId : String)
  | requestReview (taskId : String)
  | retryTask (taskId : String)
  | approveTask (taskId approverId reason : String)
  | rejectTask (taskId approverId reason : String)
  | requestChanges (taskId approverId reason : String)
  | completeTask (taskId : String)
  | cancelTask (taskId : String)

def Call.run (s : Surroundings) : Call → Method Unit
  | .createTask values => (fun _ => ()) <$> Tasks.createTask s values
  | .queueTask taskId => (fun _ => ()) <$> Tasks.queueTask s taskId
  | .executeTask taskId => (fun _ => ()) <$> Tasks.executeTask s taskId
  | .requestReview taskId => (fun _ => ()) <$> Tasks.requestReview s taskId
  | .retryTask taskId => (fun _ => ()) <$> Tasks.retryTask s taskId
  | .approveTask taskId approverId reason =>
      (fun _ => ()) <$> Tasks.approveTask s taskId approverId reason
  | .rejectTask taskId approverId reason =>
      (fun _ => ()) <$> Tasks.rejectTask s taskId approverId reason
  | .requestChanges taskId approverId reason =>
      (fun _ => ()) <$> Tasks.requestChanges s taskId approverId reason
  | .completeTask taskId => (fun _ => ()) <$> Tasks.completeTask s taskId
  | .cancelTask taskId => (fun _ => ()) <$> Tasks.cancelTask s taskId

end Tasks
end Ascos
