import Ascos.Library.Transaction

/-!
# Runtime domain values

The enumerations, records and errors of `runtime/models`, `runtime/agents`,
`runtime/orchestration/assignment.py`, `runtime/execution/result.py`,
`runtime/execution/recovery.py`, `runtime/workflows/models.py` and
`runtime/events`, and the mutable objects that hold them.

Every dictionary, list and record object that an operation can mutate is one location.
A dictionary is the list of its keys in insertion order; the object filed under a key
has a location of its own, named by the key, as the list of a record has.  The code that
an object is reachable only through the dictionary or list that holds its key is the
same in both.
-/

namespace Ascos
namespace Runtime

/-- An instant, in microseconds. -/
abbrev Timestamp := Int

/-! ## Texts and errors -/

/-- A piece of a message: literal text, or a string shown by `repr`, which puts it
between quotation marks. -/
inductive Fragment where
  | text (value : String)
  | quoted (value : String)
deriving DecidableEq

/-- A string put together from pieces, as an f-string is. -/
abbrev Message := List Fragment

instance : Coe String Message where
  coe value := [.text value]

/-- The characters that `str.strip` removes. -/
def isSpace (c : Char) : Bool :=
  c.toNat ∈ [9, 10, 11, 12, 13, 28, 29, 30, 31, 32, 133, 160, 5760, 8192, 8193, 8194, 8195,
    8196, 8197, 8198, 8199, 8200, 8201, 8202, 8232, 8233, 8239, 8287, 12288]

/-- `not value.strip()`. -/
def isBlank (value : String) : Bool :=
  value.toList.all isSpace

/-- `isBlank` of a message; a quoted string is never blank. -/
def Message.isBlank (message : Message) : Bool :=
  message.all fun
    | .text value => Runtime.isBlank value
    | .quoted _ => false

/-- The message is the empty string, which is false as a condition. -/
def Message.isEmpty (message : Message) : Bool :=
  message.all fun
    | .text value => value == ""
    | .quoted _ => false

/-- The exception classes that the operations raise, and any class of other code. -/
inductive ErrorClass where
  | validationError
  | duplicateWorkPackageError
  | duplicateWorkItemError
  | workPackageNotFoundError
  | workItemNotFoundError
  | invalidLifecycleTransitionError
  | duplicateAgentError
  | agentNotFoundError
  | invalidAgentStateTransitionError
  | assignmentNotFoundError
  | duplicateActiveAssignmentError
  | noEligibleAgentError
  | invalidAssignmentStateTransitionError
  | agentCapacityError
  | executorNotFoundError
  | executionNotFoundError
  | duplicateExecutionError
  | invalidExecutionStateTransitionError
  | executionFailedError
  | duplicateRecoveryError
  | executionNotRecoverableError
  | duplicateEventError
  | eventPublicationError
  | transactionCommitError
  | workflowNotFoundError
  | duplicateWorkflowError
  | invalidWorkflowTransitionError
  | workflowExecutionError
  | workflowApprovalError
  | workflowReleaseError
  | keyError
  | indexError
  | other (name : String)
deriving DecidableEq

/-- `type(error).__name__`. -/
def ErrorClass.name : ErrorClass → String
  | .validationError => "ValidationError"
  | .duplicateWorkPackageError => "DuplicateWorkPackageError"
  | .duplicateWorkItemError => "DuplicateWorkItemError"
  | .workPackageNotFoundError => "WorkPackageNotFoundError"
  | .workItemNotFoundError => "WorkItemNotFoundError"
  | .invalidLifecycleTransitionError => "InvalidLifecycleTransitionError"
  | .duplicateAgentError => "DuplicateAgentError"
  | .agentNotFoundError => "AgentNotFoundError"
  | .invalidAgentStateTransitionError => "InvalidAgentStateTransitionError"
  | .assignmentNotFoundError => "AssignmentNotFoundError"
  | .duplicateActiveAssignmentError => "DuplicateActiveAssignmentError"
  | .noEligibleAgentError => "NoEligibleAgentError"
  | .invalidAssignmentStateTransitionError => "InvalidAssignmentStateTransitionError"
  | .agentCapacityError => "AgentCapacityError"
  | .executorNotFoundError => "ExecutorNotFoundError"
  | .executionNotFoundError => "ExecutionNotFoundError"
  | .duplicateExecutionError => "DuplicateExecutionError"
  | .invalidExecutionStateTransitionError => "InvalidExecutionStateTransitionError"
  | .executionFailedError => "ExecutionFailedError"
  | .duplicateRecoveryError => "DuplicateRecoveryError"
  | .executionNotRecoverableError => "ExecutionNotRecoverableError"
  | .duplicateEventError => "DuplicateEventError"
  | .eventPublicationError => "EventPublicationError"
  | .transactionCommitError => "TransactionCommitError"
  | .workflowNotFoundError => "WorkflowNotFoundError"
  | .duplicateWorkflowError => "DuplicateWorkflowError"
  | .invalidWorkflowTransitionError => "InvalidWorkflowTransitionError"
  | .workflowExecutionError => "WorkflowExecutionError"
  | .workflowApprovalError => "WorkflowApprovalError"
  | .workflowReleaseError => "WorkflowReleaseError"
  | .keyError => "KeyError"
  | .indexError => "IndexError"
  | .other name => name

/-- A raised exception: its class and `str(error)`. -/
structure RuntimeError where
  errorClass : ErrorClass
  message : Message
deriving DecidableEq

/-- `isinstance(error, ExecutionFailedError)`. -/
def RuntimeError.isExecutionFailed (error : RuntimeError) : Bool :=
  match error.errorClass with
  | .executionFailedError | .workflowExecutionError => true
  | _ => false

/-! ## Enumerations and their transition tables -/

inductive LifecycleState where
  | created
  | ready
  | assigned
  | running
  | review
  | approved
  | rejected
  | completed
  | released
deriving DecidableEq

def LifecycleState.value : LifecycleState → String
  | .created => "CREATED"
  | .ready => "READY"
  | .assigned => "ASSIGNED"
  | .running => "RUNNING"
  | .review => "REVIEW"
  | .approved => "APPROVED"
  | .rejected => "REJECTED"
  | .completed => "COMPLETED"
  | .released => "RELEASED"

/-- `LIFECYCLE_TRANSITIONS`. -/
def LifecycleState.transitions : LifecycleState → List LifecycleState
  | .created => [.ready]
  | .ready => [.assigned]
  | .assigned => [.ready, .running]
  | .running => [.review]
  | .review => [.approved, .rejected]
  | .rejected => [.running]
  | .approved => [.completed]
  | .completed => [.released]
  | .released => []

inductive AgentState where
  | registered
  | available
  | busy
  | offline
  | disabled
deriving DecidableEq

def AgentState.value : AgentState → String
  | .registered => "REGISTERED"
  | .available => "AVAILABLE"
  | .busy => "BUSY"
  | .offline => "OFFLINE"
  | .disabled => "DISABLED"

/-- `AGENT_STATE_TRANSITIONS`. -/
def AgentState.transitions : AgentState → List AgentState
  | .registered => [.available, .offline, .disabled]
  | .available => [.busy, .offline, .disabled]
  | .busy => [.available, .offline, .disabled]
  | .offline => [.available, .disabled]
  | .disabled => []

inductive AgentRole where
  | ceo
  | projectManager
  | softwareArchitect
  | backendEngineer
  | frontendEngineer
  | qaEngineer
  | devopsEngineer
  | securityEngineer
  | dataEngineer
  | aiEngineer
  | documentationEngineer
deriving DecidableEq

def AgentRole.value : AgentRole → String
  | .ceo => "CEO"
  | .projectManager => "PROJECT_MANAGER"
  | .softwareArchitect => "SOFTWARE_ARCHITECT"
  | .backendEngineer => "BACKEND_ENGINEER"
  | .frontendEngineer => "FRONTEND_ENGINEER"
  | .qaEngineer => "QA_ENGINEER"
  | .devopsEngineer => "DEVOPS_ENGINEER"
  | .securityEngineer => "SECURITY_ENGINEER"
  | .dataEngineer => "DATA_ENGINEER"
  | .aiEngineer => "AI_ENGINEER"
  | .documentationEngineer => "DOCUMENTATION_ENGINEER"

inductive AssignmentStatus where
  | created
  | active
  | completed
  | cancelled
deriving DecidableEq

def AssignmentStatus.value : AssignmentStatus → String
  | .created => "CREATED"
  | .active => "ACTIVE"
  | .completed => "COMPLETED"
  | .cancelled => "CANCELLED"

/-- `ASSIGNMENT_STATUS_TRANSITIONS`. -/
def AssignmentStatus.transitions : AssignmentStatus → List AssignmentStatus
  | .created => [.active, .cancelled]
  | .active => [.completed, .cancelled]
  | .completed => []
  | .cancelled => []

inductive ExecutionStatus where
  | created
  | running
  | succeeded
  | failed
  | cancelled
deriving DecidableEq

def ExecutionStatus.value : ExecutionStatus → String
  | .created => "CREATED"
  | .running => "RUNNING"
  | .succeeded => "SUCCEEDED"
  | .failed => "FAILED"
  | .cancelled => "CANCELLED"

/-- `EXECUTION_STATUS_TRANSITIONS`. -/
def ExecutionStatus.transitions : ExecutionStatus → List ExecutionStatus
  | .created => [.running, .cancelled]
  | .running => [.succeeded, .failed, .cancelled]
  | .succeeded => []
  | .failed => []
  | .cancelled => []

inductive RecoveryAction where
  | retry
  | resetToAssigned
  | cancelAssignment
deriving DecidableEq

inductive WorkflowStage where
  | intake
  | planning
  | ready
  | assigned
  | executing
  | review
  | approval
  | completed
  | released
  | failed
  | cancelled
deriving DecidableEq

def WorkflowStage.value : WorkflowStage → String
  | .intake => "INTAKE"
  | .planning => "PLANNING"
  | .ready => "READY"
  | .assigned => "ASSIGNED"
  | .executing => "EXECUTING"
  | .review => "REVIEW"
  | .approval => "APPROVAL"
  | .completed => "COMPLETED"
  | .released => "RELEASED"
  | .failed => "FAILED"
  | .cancelled => "CANCELLED"

/-- `ALLOWED_STAGE_TRANSITIONS`. -/
def WorkflowStage.transitions : WorkflowStage → List WorkflowStage
  | .intake => [.planning, .cancelled]
  | .planning => [.ready, .cancelled]
  | .ready => [.assigned, .cancelled]
  | .assigned => [.executing, .cancelled]
  | .executing => [.review, .failed, .cancelled]
  | .review => [.approval, .executing]
  | .approval => [.completed]
  | .completed => [.released]
  | .released => []
  | .failed => [.assigned, .review, .failed, .cancelled]
  | .cancelled => []

/-- `CANCELLABLE_STAGES`. -/
def WorkflowStage.cancellable : List WorkflowStage :=
  [.intake, .ready, .assigned, .failed]

/-- The members of `EventType` that the modelled services publish. -/
inductive EventType where
  | workPackageCreated
  | workItemCreated
  | workItemStateChanged
  | agentRegistered
  | agentStateChanged
  | assignmentCreated
  | assignmentCompleted
  | assignmentCancelled
  | executionStarted
  | executionSucceeded
  | executionFailed
  | executionCancelled
  | executionRecoveryRetried
  | executionRecoveryReset
  | executionRecoveryCancelled
  | softwareRequestSubmitted
  | softwareRequestPlanned
  | softwareWorkAssigned
  | softwareExecutionStarted
  | softwareExecutionSucceeded
  | softwareExecutionFailed
  | softwareReviewSubmitted
  | softwareWorkApproved
  | softwareWorkRejected
  | softwareWorkCompleted
  | softwareWorkReleased
  | softwareWorkflowCancelled
  | softwareExecutionRecovered
deriving DecidableEq

def EventType.value : EventType → String
  | .workPackageCreated => "WORK_PACKAGE_CREATED"
  | .workItemCreated => "WORK_ITEM_CREATED"
  | .workItemStateChanged => "WORK_ITEM_STATE_CHANGED"
  | .agentRegistered => "AGENT_REGISTERED"
  | .agentStateChanged => "AGENT_STATE_CHANGED"
  | .assignmentCreated => "ASSIGNMENT_CREATED"
  | .assignmentCompleted => "ASSIGNMENT_COMPLETED"
  | .assignmentCancelled => "ASSIGNMENT_CANCELLED"
  | .executionStarted => "EXECUTION_STARTED"
  | .executionSucceeded => "EXECUTION_SUCCEEDED"
  | .executionFailed => "EXECUTION_FAILED"
  | .executionCancelled => "EXECUTION_CANCELLED"
  | .executionRecoveryRetried => "EXECUTION_RECOVERY_RETRIED"
  | .executionRecoveryReset => "EXECUTION_RECOVERY_RESET"
  | .executionRecoveryCancelled => "EXECUTION_RECOVERY_CANCELLED"
  | .softwareRequestSubmitted => "SOFTWARE_REQUEST_SUBMITTED"
  | .softwareRequestPlanned => "SOFTWARE_REQUEST_PLANNED"
  | .softwareWorkAssigned => "SOFTWARE_WORK_ASSIGNED"
  | .softwareExecutionStarted => "SOFTWARE_EXECUTION_STARTED"
  | .softwareExecutionSucceeded => "SOFTWARE_EXECUTION_SUCCEEDED"
  | .softwareExecutionFailed => "SOFTWARE_EXECUTION_FAILED"
  | .softwareReviewSubmitted => "SOFTWARE_REVIEW_SUBMITTED"
  | .softwareWorkApproved => "SOFTWARE_WORK_APPROVED"
  | .softwareWorkRejected => "SOFTWARE_WORK_REJECTED"
  | .softwareWorkCompleted => "SOFTWARE_WORK_COMPLETED"
  | .softwareWorkReleased => "SOFTWARE_WORK_RELEASED"
  | .softwareWorkflowCancelled => "SOFTWARE_WORKFLOW_CANCELLED"
  | .softwareExecutionRecovered => "SOFTWARE_EXECUTION_RECOVERED"

/-! ## Records -/

structure WorkItem where
  id : String
  title : String
  description : String
  priority : String
  dependencies : List String
  assignedTo : Option String
  lifecycleState : LifecycleState
deriving DecidableEq

/-- `WorkPackage`, whose lists of items and artifacts are objects of their own. -/
structure WorkPackage where
  id : String
  title : String
  description : String
  owner : String
  lifecycleState : LifecycleState
  createdAt : Timestamp
  updatedAt : Timestamp
deriving DecidableEq

structure AgentCapability where
  id : String
  name : String
  description : String
deriving DecidableEq

/-- `AgentMetadata`, whose list of capabilities is an object of its own. -/
structure AgentMetadata where
  id : String
  displayName : String
  role : AgentRole
  description : String
  state : AgentState
  maxParallelTasks : Nat
  priority : Int
deriving DecidableEq

structure WorkAssignment where
  id : String
  packageId : String
  workItemId : String
  agentId : String
  status : AssignmentStatus
  createdAt : Timestamp
  updatedAt : Timestamp
  requiredRole : Option AgentRole
  requiredCapabilities : List String
  selectionReason : String
  selectedAgentPriority : Int
  selectedAgentActiveAssignmentCount : Nat
deriving DecidableEq

structure ExecutionResult where
  id : String
  assignmentId : String
  workItemId : String
  agentId : String
  status : ExecutionStatus := .created
  output : Option String := none
  error : Option Message := none
  startedAt : Option Timestamp := none
  completedAt : Option Timestamp := none
deriving DecidableEq

structure ExecutionRecoveryRecord where
  id : String
  executionId : String
  assignmentId : String
  action : RecoveryAction
  reason : Message
  createdAt : Timestamp
deriving DecidableEq

/-- `SoftwareDeliveryRequest`, a frozen value with what its constructor checks. -/
structure SoftwareDeliveryRequest where
  id : String
  title : String
  description : String
  requestedBy : String
  requiredRole : AgentRole
  requiredCapabilities : List String
  acceptanceCriteria : List String
  priority : String
  correlationId : Option String
  createdAt : Timestamp
  required_strings : ∀ value ∈ [id, title, description, requestedBy, priority],
    isBlank value = false
  correlationId_string : ∀ value ∈ correlationId, isBlank value = false
  capability_strings : ∀ value ∈ requiredCapabilities, isBlank value = false
  capabilities_nodup : requiredCapabilities.Nodup
  criteria_nonempty : acceptanceCriteria ≠ []
  criteria_strings : ∀ value ∈ acceptanceCriteria, isBlank value = false
  criteria_nodup : acceptanceCriteria.Nodup
deriving DecidableEq

/-- `SoftwareDeliveryWorkflow`, whose list of execution ids is an object of its own. -/
structure SoftwareDeliveryWorkflow where
  id : String
  requestId : String
  workPackageId : String
  workItemId : String
  assignmentId : Option String := none
  currentStage : WorkflowStage := .intake
  createdAt : Timestamp
  updatedAt : Timestamp
  failureReason : Option Message := none
  rejectionReason : Option Message := none
  approvedAt : Option Timestamp := none
deriving DecidableEq

/-- A frozen value inside an event payload. -/
inductive PayloadValue where
  | null
  | flag (value : Bool)
  | text (value : Message)
  | texts (values : List String)
deriving DecidableEq

instance : Coe String PayloadValue where
  coe value := .text value

/-- The payload of an event, in the order its keys were given. -/
abbrev Payload := List (String × PayloadValue)

structure RuntimeEvent where
  id : String
  eventType : EventType
  aggregateType : String
  aggregateId : String
  sequenceNumber : Nat
  payload : Payload
  occurredAt : Timestamp
  correlationId : Option String
  causationId : Option String
deriving DecidableEq

/-! ## Mutable objects -/

/-- A mutable object of the runtime services. -/
inductive Loc where
  /-- `RuntimeEngine._work_packages`. -/
  | workPackages
  | workPackage (id : String)
  /-- `WorkPackage.work_items` of a package. -/
  | workItems (packageId : String)
  /-- `WorkPackage.artifacts` of a package. -/
  | artifacts (packageId : String)
  | workItem (packageId itemId : String)
  /-- `AgentRegistry._agents`. -/
  | agents
  | agent (id : String)
  /-- `AgentMetadata.supported_capabilities` of an agent. -/
  | supportedCapabilities (agentId : String)
  /-- `Orchestrator._assignments`. -/
  | assignments
  | assignment (id : String)
  /-- `ExecutionService._executions`. -/
  | executions
  | execution (id : String)
  /-- `ExecutionRecoveryService._records`. -/
  | records
  | record (id : String)
  /-- `SoftwareDeliveryWorkflowService._requests`. -/
  | requests
  /-- `SoftwareDeliveryWorkflowService._workflows`. -/
  | workflows
  | workflow (id : String)
  /-- `SoftwareDeliveryWorkflow.execution_ids` of a workflow. -/
  | executionIds (workflowId : String)
deriving DecidableEq

/-- What each object holds; a dictionary holds its keys in insertion order. -/
abbrev Cell : Loc → Type
  | .workPackages => List String
  | .workPackage _ => WorkPackage
  | .workItems _ => List String
  | .artifacts _ => List String
  | .workItem _ _ => WorkItem
  | .agents => List String
  | .agent _ => AgentMetadata
  | .supportedCapabilities _ => List AgentCapability
  | .assignments => List String
  | .assignment _ => WorkAssignment
  | .executions => List String
  | .execution _ => ExecutionResult
  | .records => List String
  | .record _ => ExecutionRecoveryRecord
  | .requests => List SoftwareDeliveryRequest
  | .workflows => List String
  | .workflow _ => SoftwareDeliveryWorkflow
  | .executionIds _ => List String

/-- One reading of what lies outside the services: the system clock, whether the call
made at that point fails, and whether an overriding `EventStore.add_event` fails and
after how many events. -/
structure Reading where
  now : Timestamp
  failure : Option RuntimeError := none
  storeFailure : Option (Nat × RuntimeError) := none

/-- The runtime services as a host program. -/
abbrev runtime : Library.Signature where
  Loc := Loc
  decEqLoc := inferInstance
  Cell := Cell
  Event := RuntimeEvent
  Error := RuntimeError
  Reading := Reading

/-- The contents of every object. -/
abbrev State := Library.Heap runtime

/-- The state of the services and of their event store between two steps. -/
abbrev World := Library.World runtime

abbrev Method (α : Type) := Library.Action runtime α

/-- Look at an object. -/
abbrev load (l : Loc) : Method (Cell l) :=
  Library.Action.read (S := runtime) l

/-- Replace what an object holds. -/
abbrev store (l : Loc) (v : Cell l) : Method Unit :=
  Library.Action.write (S := runtime) l v

/-- The readings that one call takes. -/
abbrev Environment := Nat → Reading

end Runtime
end Ascos
