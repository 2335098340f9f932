import Ascos.Runtime.Model
import Mathlib.Data.List.Sort

/-!
# External tasks

The value types of `runtime/tasks/models.py` and `runtime/coding_agents/models.py`,
the transition table of `runtime/tasks/lifecycle.py`, the errors, the review decision of
`runtime/tasks/approval.py` and the choice of a provider in
`runtime/coding_agents/registry.py`.
-/

namespace Ascos
namespace Tasks

open Ascos.Runtime (Timestamp isBlank)

/-- A dictionary keyed by text. -/
abbrev Records (ν : Type) := Std.ExtTreeMap String ν

/-! ## Enumerations -/

inductive ExternalTaskStatus where
  | created
  | queued
  | running
  | waitingForReview
  | changesRequested
  | approved
  | rejected
  | failed
  | cancelled
  | completed
  | reconciliationRequired
deriving DecidableEq

def ExternalTaskStatus.value : ExternalTaskStatus → String
  | .created => "CREATED"
  | .queued => "QUEUED"
  | .running => "RUNNING"
  | .waitingForReview => "WAITING_FOR_REVIEW"
  | .changesRequested => "CHANGES_REQUESTED"
  | .approved => "APPROVED"
  | .rejected => "REJECTED"
  | .failed => "FAILED"
  | .cancelled => "CANCELLED"
  | .completed => "COMPLETED"
  | .reconciliationRequired => "RECONCILIATION_REQUIRED"

/-- `ALLOWED_TRANSITIONS.get(status, set())`. -/
def ExternalTaskStatus.allowedTransitions : ExternalTaskStatus → List ExternalTaskStatus
  | .created => [.queued, .cancelled]
  | .queued => [.running, .cancelled]
  | .running => [.waitingForReview, .failed, .cancelled, .reconciliationRequired]
  | .waitingForReview => [.approved, .rejected, .changesRequested]
  | .changesRequested => [.queued, .cancelled]
  | .approved => [.completed]
  | .failed => [.queued, .cancelled]
  | .reconciliationRequired => [.running, .failed, .waitingForReview]
  | .rejected | .cancelled | .completed => []

theorem not_allowed_self (status : ExternalTaskStatus) :
    status ∉ status.allowedTransitions := by
  cases status <;> decide

inductive ApprovalStatus where
  | notRequested
  | pending
  | approved
  | rejected
  | changesRequested
deriving DecidableEq

inductive ExternalOperationStatus where
  | planned
  | started
  | succeeded
  | failed
  | reconciliationRequired
deriving DecidableEq

inductive CodingAgentResultStatus where
  | succeeded
  | failedRetryable
  | failedPermanent
  | timedOut
  | cancelled
deriving DecidableEq

/-! ## Records -/

structure ExternalTask where
  taskId : String
  projectId : String
  workItemId : String
  taskType : String
  title : String
  description : String
  providerId : Option String
  workspaceId : Option String
  repositoryReference : String
  baseBranch : String
  workingBranch : String
  status : ExternalTaskStatus
  requestedCapabilities : List String
  createdAt : Timestamp
  startedAt : Option Timestamp := none
  completedAt : Option Timestamp := none
  failureCode : Option String := none
  retryCount : Nat := 0
  approvalStatus : ApprovalStatus := .notRequested
  correlationId : Option String := none
  causationId : Option String := none
  resultReference : Option String := none
deriving DecidableEq

structure ApprovalDecision where
  taskId : String
  decision : ApprovalStatus
  approverId : String
  reason : String
  decidedAt : Timestamp
deriving DecidableEq

structure ExternalOperation where
  operationId : String
  taskId : String
  operationType : String
  status : ExternalOperationStatus
  createdAt : Timestamp
  updatedAt : Timestamp
  attempt : Nat := 1
  failureCode : Option String := none
deriving DecidableEq

structure CodingAgentProgress where
  taskId : String
  sequence : Nat
  stage : String
  message : String
  timestamp : Timestamp
  artifactReferences : List String := []
deriving DecidableEq

structure CodingAgentTaskResult where
  taskId : String
  providerTaskId : String
  status : CodingAgentResultStatus
  summary : String
  changedPaths : List String
  commitSha : Option String
  testResults : List String
  generatedArtifacts : List String
  failureCode : Option String
  startedAt : Timestamp
  completedAt : Timestamp
deriving DecidableEq

/-- What the dictionaries of `ExternalTaskService` hold, with the objects filed in them. -/
structure Contents where
  tasks : Records ExternalTask
  progress : Records (List CodingAgentProgress)
  results : Records CodingAgentTaskResult
  decisions : Records (List ApprovalDecision)
  operations : Records ExternalOperation

/-- The dictionaries of `ExternalTaskService.__init__`. -/
def Contents.init : Contents where
  tasks := ∅
  progress := ∅
  results := ∅
  decisions := ∅
  operations := ∅

/-! ## Errors -/

/-- The exceptions that the operations raise, and any other that passes through them. -/
inductive TaskError where
  | keyError (key : String)
  | externalTaskNotFound (taskId : String)
  | invalidExternalTaskTransition (message : String)
  | approvalPolicy (message : String)
  | providerNotFound (providerId : Option String)
  | providerUnavailable (providerId : String)
  | noCompatibleProvider (message : String)
  | validation (message : String)
  | valueError (message : String)
  | transactionCommit (message : String)
  | other (className message : String)
deriving DecidableEq

/-- `isinstance(error, ExecutionFailedError)`. -/
def TaskError.isExecutionFailed : TaskError → Bool
  | .other className _ =>
      className == "ExecutionFailedError" || className == "WorkflowExecutionError"
  | _ => false

/-! ## Review decisions -/

/-- `decision` of `runtime/tasks/approval.py`. -/
def decision (taskId : String) (status : ApprovalStatus) (approverId reason : String)
    (decidedAt : Timestamp) : Except TaskError ApprovalDecision :=
  if isBlank approverId = true then
    .error (.approvalPolicy "Approver identity is required")
  else if (status = .rejected ∨ status = .changesRequested) ∧ isBlank reason = true then
    .error (.approvalPolicy "A reason is required")
  else
    .ok { taskId, decision := status, approverId, reason, decidedAt }

/-! ## Providers -/

/-- A registered provider, with what its methods answer when they are called. -/
structure CodingAgentProvider where
  providerId : String
  priority : Int
  isAvailable : Except TaskError Bool
  supportedCapabilities : Except TaskError (List String)

/-- The sort key of `list_providers`. -/
def CodingAgentProvider.comesFirst (p q : CodingAgentProvider) : Bool :=
  ((compare p.priority q.priority).then (compare p.providerId q.providerId)).isLE

def listProviders (providers : List CodingAgentProvider) : List CodingAgentProvider :=
  providers.insertionSort fun p q => p.comesFirst q

/-- The loop of `choose_compatible_provider`. -/
def firstCompatible (required : List String) :
    List CodingAgentProvider → Except TaskError CodingAgentProvider
  | [] => .error (.noCompatibleProvider "No available provider supports requested capabilities")
  | provider :: providers => do
    if ← provider.isAvailable then
      let supported ← provider.supportedCapabilities
      if ∀ capability ∈ required, capability ∈ supported then
        pure provider
      else
        firstCompatible required providers
    else
      firstCompatible required providers

def chooseCompatibleProvider (providers : List CodingAgentProvider)
    (capabilities : List String) : Except TaskError CodingAgentProvider :=
  firstCompatible capabilities (listProviders providers)

def getProvider (providers : List CodingAgentProvider) (providerId : Option String) :
    Except TaskError CodingAgentProvider :=
  match providers.find? fun provider => some provider.providerId = providerId with
  | none => .error (.providerNotFound providerId)
  | some provider => do
    if ← provider.isAvailable then
      pure provider
    else
      throw (.providerUnavailable provider.providerId)

end Tasks
end Ascos
