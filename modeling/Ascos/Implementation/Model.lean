import Ascos.Library.Interruption
import Ascos.Library.Table
import Ascos.Library.Texts
import Ascos.Runtime.Model
import Mathlib.Data.List.Infix

/-!
# Managed product implementation

The records of `runtime/managed_product_implementation/models.py` and the durable task
store of `persistence.py`.  Next to the store the world keeps which services were asked
for what, and what they answered, so that a run can be judged by it.
-/

namespace Ascos
namespace Implementation

open Ascos.Library
open Ascos.Runtime (Timestamp isBlank isSpace)

/-! ## Errors -/

/-- The exception classes that the pipeline raises, and any class of a service. -/
inductive ErrorClass where
  | valueError
  | assertionError
  | other (name : String)
deriving DecidableEq

/-- A raised exception with its message. -/
structure Error where
  errorClass : ErrorClass
  message : String
deriving DecidableEq

/-- `ValueError(message)`. -/
def Error.value (message : String) : Error :=
  ⟨.valueError, message⟩

/-! ## Enumerations -/

inductive ImplementationState where
  | requested
  | preparingWorkspace
  | implementing
  | verifying
  | committing
  | pushing
  | creatingPr
  | waitingForHumanReview
  | completed
  | failed
  | verificationFailed
  | providerFailed
  | prFailed
deriving DecidableEq

def ImplementationState.terminal (state : ImplementationState) : Bool :=
  state = .completed

inductive VerificationStatus where
  | pass
  | fail
  | skipped
  | unknown
deriving DecidableEq

def VerificationStatus.value : VerificationStatus → String
  | .pass => "PASS"
  | .fail => "FAIL"
  | .skipped => "SKIPPED"
  | .unknown => "UNKNOWN"

inductive CleanupPolicy where
  | keep
  | onSuccess
  | always
deriving DecidableEq

inductive WorkspaceDisposition where
  | active
  | retainedForReconciliation
  | cleaned
deriving DecidableEq

/-! ## Records -/

structure VerificationStep where
  name : String
  command : List String
  required : Bool := true
  timeoutSeconds : Nat := 300
deriving DecidableEq

structure VerificationStepResult where
  name : String
  status : VerificationStatus
  command : List String
  exitCode : Option Int
  output : String
  startedAt : Timestamp
  completedAt : Timestamp
  workspaceCommitSha : String := ""
  diffDigest : String := ""
deriving DecidableEq

structure WorkspaceResult where
  workspaceId : String
  path : String
  repository : String
  branch : String
  commitSha : String
  remotesRemoved : Bool
  createdAt : Timestamp
  disposition : WorkspaceDisposition := .active
deriving DecidableEq

structure ProviderImplementationResult where
  executionId : String
  summary : String
  changedFiles : List String
  knownRisks : List String := []
  remainingWork : List String := []
deriving DecidableEq

structure CommitResult where
  commitSha : String
  message : String
  changedFiles : List String
deriving DecidableEq

structure PushResult where
  success : Bool
  branch : String
  remote : Option String
  trackingBranch : Option String
  errorCode : Option String := none
  details : String := ""
  remoteHeadSha : Option String := none
  reconciliationRequired : Bool := false
deriving DecidableEq

structure PullRequestResult where
  number : Int
  url : String
  draft : Bool
  metadata : List (String × String) := []
  baseBranch : Option String := none
  headBranch : Option String := none
  headSha : Option String := none
deriving DecidableEq

structure ReviewPackage where
  summary : String
  verificationReport : List VerificationStepResult
  testReport : String
  changedFiles : List String
  commitSha : String
  pullRequestUrl : String
  knownRisks : List String
  remainingWork : List String
deriving DecidableEq

structure ManagedProductTask where
  taskId : String
  projectId : String
  repository : String
  branch : String
  expectedCommitSha : String
  milestone : String
  implementationRequest : String
  provider : String
  requirementIds : List String := []
  roadmapItemId : Option String := none
  baseBranch : String := "main"
  allowedPaths : List String := []
  implementationActor : Option String := none
  workspaceId : Option String := none
  executionId : Option String := none
  reviewStatus : String := "NOT_REQUESTED"
  verificationStatus : VerificationStatus := .unknown
  commitSha : Option String := none
  pullRequestId : Option Int := none
  pullRequestUrl : Option String := none
  state : ImplementationState := .requested
  workspace : Option WorkspaceResult := none
  verification : List VerificationStepResult := []
  providerResult : Option ProviderImplementationResult := none
  commitResult : Option CommitResult := none
  pushResult : Option PushResult := none
  pullRequest : Option PullRequestResult := none
  reviewPackage : Option ReviewPackage := none
  failure : Option String := none
  resumeFrom : Option ImplementationState := none
  createdAt : Timestamp
  updatedAt : Timestamp
  completedAt : Option Timestamp := none
  reviewer : Option String := none
  reviewedCommitSha : Option String := none
  pendingActions : List String := ["prepare workspace"]
deriving DecidableEq

/-! ## The world -/

/-- A service was asked, for a task, and answered or raised. -/
inductive Event where
  /-- What the provider returned, if the pipeline accepts it. -/
  | implemented (outcome : Except Error ProviderImplementationResult)
  | verified (outcome : Except Error (List VerificationStepResult))
  | committed (outcome : Except Error CommitResult)
  | pushed (commitSha : Option String) (outcome : Except Error PushResult)
  /-- The pull request, if the pipeline accepts its identity. -/
  | drafted (commitSha : Option String) (outcome : Except Error PullRequestResult)

/-- The task store, what happened for which task (the latest first), and how often the clock
was read. -/
structure World where
  store : Table String ManagedProductTask
  log : List (String × Event)
  ticks : Nat

/-- What happened for a task, the latest first. -/
def history (taskId : String) (log : List (String × Event)) : List Event :=
  (log.filter (·.1 = taskId)).map (·.2)

/-! ## The store -/

/-- The fields that no replacement of a task may change. -/
structure TaskIdentity where
  taskId : String
  projectId : String
  repository : String
  branch : String
  baseBranch : String
  expectedCommitSha : String
  milestone : String
  implementationRequest : String
  provider : String
  allowedPaths : List String
  implementationActor : Option String
  createdAt : Timestamp
deriving DecidableEq

/-- The values of these fields. -/
def ManagedProductTask.identity (task : ManagedProductTask) : TaskIdentity :=
  { taskId := task.taskId, projectId := task.projectId, repository := task.repository,
    branch := task.branch, baseBranch := task.baseBranch,
    expectedCommitSha := task.expectedCommitSha, milestone := task.milestone,
    implementationRequest := task.implementationRequest, provider := task.provider,
    allowedPaths := task.allowedPaths, implementationActor := task.implementationActor,
    createdAt := task.createdAt }

def validateReplacement (current : Option ManagedProductTask)
    (replacement : ManagedProductTask) : Except Error Unit :=
  match current with
  | none => pure ()
  | some current => do
    if current.state.terminal = true then throw (.value "Completed tasks are immutable")
    if current.identity ≠ replacement.identity then
      throw (.value "Managed product task identity and approved scope are immutable")
    if replacement.updatedAt < current.updatedAt then
      throw (.value "Task timestamps cannot move backwards")

/-- `ManagedProductTaskStore.load`. -/
def loadTask (taskId : String) : Procedure World Error (Option ManagedProductTask) :=
  .query fun world => .ok (world.store.load taskId)

/-- `ManagedProductTaskStore.save`. -/
def saveTask (task : ManagedProductTask) : Procedure World Error Unit :=
  .attempt fun world => do
    validateReplacement (world.store.load task.taskId) task
    pure { world with store := world.store.save task.taskId task }

def utcNow (clock : Nat → Timestamp) : Procedure World Error Timestamp :=
  .step (fun world => { world with ticks := world.ticks + 1 }) fun world =>
    pure (clock world.ticks)

/-- What a service answers, with the event of having asked it. -/
def ask {α : Type} (taskId : String) (event : Event) (outcome : Except Error α) :
    Procedure World Error α :=
  .step (fun world => { world with log := (taskId, event) :: world.log }) fun _ =>
    .ofExcept outcome

end Implementation
end Ascos
