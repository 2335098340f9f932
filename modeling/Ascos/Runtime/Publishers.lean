import Ascos.Runtime.Publication

/-!
# The services publish

The operations of the runtime engine and `execute` reach the events through publications
only, when the executors do.  So the publications of a call never conflict.
-/

namespace Ascos
namespace Runtime

open Library Library.Action

section Services

variable {α : Type} {services : Services}

instance {method : Method α} {afterOperation : Method Unit} [hmethod : Publishes method]
    [hafter : Publishes afterOperation] :
    Publishes (atomicDomainOperation method afterOperation) := by
  have hatomic : Publishes (atomic transactions (keepDomainFailure
      (failurePoint >>= fun _ => method))) := by
    unfold keepDomainFailure
    exact .atomic inferInstance
  have hrelease : ∀ outcome : Except RuntimeError α,
      Publishes (releaseDomainFailure outcome) := by
    intro outcome
    cases outcome <;> unfold releaseDomainFailure <;> infer_instance
  unfold atomicDomainOperation
  infer_instance

theorem Publishes.operation {method : Method α} (hmethod : Publishes method) :
    Publishes (atomicDomainOperation method) :=
  inferInstance

/-! ### The engine and the agent registry -/

instance (packageId : String) : Publishes (getWorkPackage packageId) := by
  unfold getWorkPackage
  infer_instance

instance (packageId workItemId : String) : Publishes (getWorkItem packageId workItemId) := by
  unfold getWorkItem
  infer_instance

instance (packageId : String) : Publishes (markUpdated packageId) := by
  unfold markUpdated
  infer_instance

instance (packageId : String) (updatedAt : Timestamp) :
    Publishes (setUpdatedAt packageId updatedAt) := by
  unfold setUpdatedAt
  infer_instance

instance (packageId workItemId : String) (state : LifecycleState) :
    Publishes (setLifecycleState packageId workItemId state) := by
  unfold setLifecycleState
  infer_instance

instance (packageId workItemId : String) (assignedTo : Option String) :
    Publishes (setAssignedTo packageId workItemId assignedTo) := by
  unfold setAssignedTo
  infer_instance

instance (id title description owner : String) :
    Publishes (newWorkPackage id title description owner) := by
  unfold newWorkPackage validateRequiredString
  infer_instance

instance (id title description priority : String) (assignedTo : Option String) :
    Publishes (newWorkItem id title description priority assignedTo) := by
  unfold newWorkItem validateRequiredString validateOptionalString
  infer_instance

instance (id title description owner : String) :
    Publishes (createWorkPackage id title description owner) := by
  unfold createWorkPackage
  refine .operation (.bind inferInstance fun _ => .bind inferInstance fun _ => ?_)
  infer_instance

instance (packageId id title description priority : String) (assignedTo : Option String) :
    Publishes (addWorkItem packageId id title description priority assignedTo) := by
  unfold addWorkItem
  infer_instance

instance (packageId workItemId : String) (newState : LifecycleState) :
    Publishes (changeWorkItemState packageId workItemId newState) := by
  unfold changeWorkItemState changeState
  infer_instance

instance (agentId : String) : Publishes (getAgent agentId) := by
  unfold getAgent validateRequiredString
  infer_instance

instance (agent : AgentMetadata) (supportedCapabilities : List AgentCapability) :
    Publishes (registerAgent agent supportedCapabilities) := by
  unfold registerAgent
  infer_instance

instance (agentId : String) (state : AgentState) : Publishes (setAgentState agentId state) := by
  unfold setAgentState
  infer_instance

instance (agentId : String) (newState : AgentState) :
    Publishes (updateAgentState agentId newState) := by
  unfold updateAgentState
  infer_instance

/-! ### The orchestrator -/

instance (requiredRole : Option AgentRole) (requiredCapabilities : Option (List String)) :
    Publishes (selectAgent requiredRole requiredCapabilities) := by
  unfold selectAgent validateRequiredCapabilities
  refine .bind inferInstance fun _ => .bind inferInstance fun h => ?_
  dsimp only
  split <;> infer_instance

instance (id packageId workItemId agentId : String) (requiredRole : Option AgentRole)
    (requiredCapabilities : List String) (selectionReason : String) (priority : Int)
    (count : Nat) : Publishes (newWorkAssignment id packageId workItemId agentId requiredRole
      requiredCapabilities selectionReason priority count) := by
  unfold newWorkAssignment validateRequiredString
  refine .bind inferInstance fun createdAt => .bind inferInstance fun updatedAt => ?_
  refine .bind inferInstance fun _ => .bind inferInstance fun _ => .bind inferInstance fun _ => ?_
  infer_instance

instance (assignment : WorkAssignment) (newStatus : AssignmentStatus) :
    Publishes (changeStatus assignment newStatus) := by
  unfold changeStatus
  infer_instance

instance (assignmentId : String) : Publishes (getAssignment assignmentId) := by
  unfold getAssignment validateRequiredString
  infer_instance

instance (assignmentId : String) : Publishes (popAssignment assignmentId) := by
  unfold popAssignment
  infer_instance

instance (assignmentId packageId workItemId : String) (requiredRole : Option AgentRole)
    (requiredCapabilities : Option (List String)) :
    Publishes (assignWorkItem assignmentId packageId workItemId requiredRole
      requiredCapabilities) := by
  unfold assignWorkItem validateRequiredString
  refine .operation (.bind inferInstance fun _ => .bind inferInstance fun _ => ?_)
  refine .bind inferInstance fun _ => .bind inferInstance fun h => .bind inferInstance fun _ => ?_
  refine .bind inferInstance fun _ => .bind inferInstance fun _ => .bind inferInstance fun _ => ?_
  refine .bind inferInstance fun _ => .bind inferInstance fun _ => .bind inferInstance fun _ => ?_
  refine .bind inferInstance fun _ => .bind inferInstance fun _ => .bind (.tryExcept ?_ ?_) ?_
  · infer_instance
  · intro error
    infer_instance
  · infer_instance

/-! ### Executing and recovering -/

instance (id assignmentId workItemId agentId : String) :
    Publishes (newExecution id assignmentId workItemId agentId) := by
  unfold newExecution validateRequiredString
  infer_instance

instance (execution : ExecutionResult) : Publishes (markRunning execution) := by
  unfold markRunning validateExecutionStatusTransition
  infer_instance

instance (executionId output : String) : Publishes (markSucceeded executionId output) := by
  unfold markSucceeded validateRequiredString validateExecutionStatusTransition
  infer_instance

instance (executionId : String) (error : Message) : Publishes (markFailed executionId error) := by
  unfold markFailed validateRequiredMessage validateExecutionStatusTransition
  infer_instance

instance (execution : ExecutionResult) (result : Option ExecutionResult) :
    Publishes (validateProviderResult execution result) := by
  unfold validateProviderResult
  split <;> infer_instance

instance (eventType : EventType) (executionId : String) (payload : Payload)
    (context : Option CallContext) :
    Publishes (publishExecution eventType executionId payload context) := by
  unfold publishExecution
  infer_instance

instance (executionId : String) : Publishes (popExecution executionId) := by
  unfold popExecution
  infer_instance

instance (assignment : WorkAssignment) (workItem : WorkItem) (execution : ExecutionResult)
    (package : WorkPackage) (context : Option CallContext) :
    Publishes (startExecution assignment workItem execution package context) := by
  unfold startExecution
  infer_instance

instance {executor : Executor} (executionContext : ExecutionContext)
    (assignment : WorkAssignment) (context : Option CallContext)
    [hexecutor : Publishes (executor.execute executionContext)] :
    Publishes (runExecutor executor executionContext assignment context) := by
  unfold runExecutor
  infer_instance

instance (executionId : String) (assignment : WorkAssignment) (runningUpdatedAt : Timestamp)
    (context : Option CallContext) (error : RuntimeError) :
    Publishes (recordFailure executionId assignment runningUpdatedAt context error) := by
  unfold recordFailure
  split
  · infer_instance
  · refine .bind inferInstance fun _ => .bind inferInstance fun _ => ?_
    infer_instance

/-- The executors reach the events through publications only. -/
def PublishingExecutors (executors : List Executor) : Prop :=
  ∀ executor ∈ executors, ∀ executionContext, Publishes (executor.execute executionContext)

theorem Publishes.selectExecutor_bind {executors : List Executor} {assignment : WorkAssignment}
    {f : Executor → Method α} (hf : ∀ executor ∈ executors, Publishes (f executor)) :
    Publishes (selectExecutor executors assignment >>= f) := by
  unfold selectExecutor
  rw [bind_assoc]
  refine .bind inferInstance fun _ => ?_
  split
  · rename_i executor hfound
    exact hf executor (List.mem_of_find?_eq_some hfound)
  · exact inferInstanceAs (Publishes (raise _))

theorem Publishes.execute {executors : List Executor} (hexecutors : PublishingExecutors executors)
    (executionId assignmentId : String) (context : Option CallContext)
    (requiredState : LifecycleState) :
    Publishes (execute executors executionId assignmentId context requiredState) := by
  unfold Runtime.execute validateRequiredString
  refine .bind inferInstance fun _ => .bind inferInstance fun _ => ?_
  refine .bind inferInstance fun _ => .bind inferInstance fun _ => .bind inferInstance fun _ => ?_
  refine .bind inferInstance fun _ => .bind inferInstance fun _ => .bind inferInstance fun _ => ?_
  refine .bind inferInstance fun _ => .selectExecutor_bind fun executor hmem => ?_
  have hexecutor := hexecutors executor hmem
  refine .bind inferInstance fun _ => .bind inferInstance fun _ => .bind inferInstance fun _ => ?_
  infer_instance

end Services

end Runtime
end Ascos
