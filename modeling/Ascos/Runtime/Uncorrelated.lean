import Ascos.Runtime.Publishers

/-!
# Methods without a correlation

Most methods of the services know nothing of delivery workflows: they leave the workflows and
their requests alone, and publish events that carry neither a correlation id nor a causation
id.  This module collects them, by instances that follow how each method is put together.
-/

namespace Ascos
namespace Runtime

open Library Library.Action

variable {α β : Type}

/-! ## Standing by -/

structure SameWorkflows (h h' : State) : Prop where
  workflows : h' .workflows = h .workflows
  requests : h' .requests = h .requests
  workflow : ∀ id, h' (.workflow id) = h (.workflow id)

theorem SameWorkflows.refl (h : State) : SameWorkflows h h :=
  ⟨rfl, rfl, fun _ => rfl⟩

theorem SameWorkflows.trans {h₁ h₂ h₃ : State} (h₁₂ : SameWorkflows h₁ h₂)
    (h₂₃ : SameWorkflows h₂ h₃) : SameWorkflows h₁ h₃ where
  workflows := h₂₃.workflows.trans h₁₂.workflows
  requests := h₂₃.requests.trans h₁₂.requests
  workflow id := (h₂₃.workflow id).trans (h₁₂.workflow id)

/-- The location holds workflows or requests. -/
def Loc.ofWorkflows : Loc → Bool
  | .workflows | .requests | .workflow _ => true
  | _ => false

theorem SameWorkflows.of_same {h h' : State}
    (hsame : ∀ l : Loc, l.ofWorkflows = true → h' l = h l) : SameWorkflows h h' where
  workflows := hsame _ rfl
  requests := hsame _ rfl
  workflow _ := hsame _ rfl

theorem SameWorkflows.eq {h h' : State} (hsame : SameWorkflows h h') {l : Loc}
    (hl : l.ofWorkflows = true) : h' l = h l := by
  cases l with
  | workflows => exact hsame.workflows
  | requests => exact hsame.requests
  | workflow id => exact hsame.workflow id
  | _ => cases hl

/-- The event carries no correlation id and no causation id. -/
def Plain (event : RuntimeEvent) : Prop :=
  event.correlationId = none ∧ event.causationId = none

/-- Workflows and requests are the same, and the events that were added are plain. -/
structure Bystands (d d' : Ledger runtime) : Prop where
  cells : SameWorkflows d.cells d'.cells
  events : Adds Plain d d'

theorem Bystands.refl (d : Ledger runtime) : Bystands d d where
  cells := .refl _
  events := .of_eq rfl

theorem Bystands.trans {d₁ d₂ d₃ : Ledger runtime} (h₁₂ : Bystands d₁ d₂)
    (h₂₃ : Bystands d₂ d₃) : Bystands d₁ d₃ where
  cells := h₁₂.cells.trans h₂₃.cells
  events := h₁₂.events.trans h₂₃.events

/-- The method leaves workflows and requests alone and publishes plain events only. -/
class Uncorrelated (x : Method α) : Prop where
  bystands : ∀ env w, Bystands w.ledger (x.run env w).2.ledger

/-! ## The steps of a method -/

theorem Uncorrelated.of_ledger {x : Method α}
    (hsame : ∀ env w, (x.run env w).2.ledger = w.ledger) : Uncorrelated x where
  bystands env w := by
    rw [hsame]
    exact .refl _

instance (a : α) : Uncorrelated (pure a : Method α) :=
  .of_ledger fun _ _ => rfl

instance (error : RuntimeError) : Uncorrelated (raise error : Method α) :=
  .of_ledger fun _ _ => rfl

instance (l : Loc) : Uncorrelated (α := no_index (Cell l)) (load l) :=
  .of_ledger fun _ _ => rfl

instance : Uncorrelated (readAll : Method State) :=
  .of_ledger fun _ _ => rfl

instance : Uncorrelated (ask : Method Reading) :=
  .of_ledger fun _ _ => rfl

instance : Uncorrelated (loggedEvents : Method (List RuntimeEvent × List RuntimeEvent)) :=
  .of_ledger fun _ _ => rfl

instance (p : Prop) [Decidable p] (error : RuntimeError) :
    Uncorrelated (raiseIf p error : Method Unit) := by
  unfold raiseIf
  split <;> infer_instance

theorem Uncorrelated.store (l : Loc) (hl : l.ofWorkflows = false) (v : Cell l) :
    Uncorrelated (store l v) where
  bystands env w :=
    { cells := .of_same fun m hm => by
        have hne : m ≠ l := by
          rintro rfl
          rw [hl] at hm
          cases hm
        exact Heap.write_of_ne (S := runtime) w.heap v hne
      events := .of_eq rfl }

instance (v : List String) : Uncorrelated (store .workPackages v) :=
  .store .workPackages rfl v

instance (id : String) (v : WorkPackage) : Uncorrelated (store (.workPackage id) v) :=
  .store (.workPackage id) rfl v

instance (id : String) (v : List String) : Uncorrelated (store (.workItems id) v) :=
  .store (.workItems id) rfl v

instance (id : String) (v : List String) : Uncorrelated (store (.artifacts id) v) :=
  .store (.artifacts id) rfl v

instance (packageId itemId : String) (v : WorkItem) :
    Uncorrelated (store (.workItem packageId itemId) v) :=
  .store (.workItem packageId itemId) rfl v

instance (v : List String) : Uncorrelated (store .agents v) :=
  .store .agents rfl v

instance (id : String) (v : AgentMetadata) : Uncorrelated (store (.agent id) v) :=
  .store (.agent id) rfl v

instance (id : String) (v : List AgentCapability) :
    Uncorrelated (store (.supportedCapabilities id) v) :=
  .store (.supportedCapabilities id) rfl v

instance (v : List String) : Uncorrelated (store .assignments v) :=
  .store .assignments rfl v

instance (id : String) (v : WorkAssignment) : Uncorrelated (store (.assignment id) v) :=
  .store (.assignment id) rfl v

instance (v : List String) : Uncorrelated (store .executions v) :=
  .store .executions rfl v

instance (id : String) (v : ExecutionResult) : Uncorrelated (store (.execution id) v) :=
  .store (.execution id) rfl v

instance (v : List String) : Uncorrelated (store .records v) :=
  .store .records rfl v

instance (id : String) (v : ExecutionRecoveryRecord) : Uncorrelated (store (.record id) v) :=
  .store (.record id) rfl v

instance (id : String) (v : List String) : Uncorrelated (store (.executionIds id) v) :=
  .store (.executionIds id) rfl v

theorem Uncorrelated.bind {x : Method α} {f : α → Method β} (hx : Uncorrelated x)
    (hf : ∀ a, Uncorrelated (f a)) : Uncorrelated (x >>= f) where
  bystands env w := by
    have hfirst := hx.bystands env w
    rw [run_bind]
    rcases hrun : x.run env w with ⟨error | a, w'⟩
    · rw [hrun] at hfirst
      exact hfirst
    · rw [hrun] at hfirst
      exact hfirst.trans ((hf a).bystands env w')

instance {x : Method α} {f : α → Method β} [hx : Uncorrelated x] [hf : ∀ a, Uncorrelated (f a)] :
    Uncorrelated (x >>= f) :=
  .bind hx hf

instance {g : α → β} {x : Method α} [hx : Uncorrelated x] : Uncorrelated (g <$> x) :=
  .bind hx fun a => inferInstanceAs (Uncorrelated (pure (g a)))

instance {p : Prop} [Decidable p] {x y : Method α} [hx : Uncorrelated x]
    [hy : Uncorrelated y] : Uncorrelated (if p then x else y) := by
  split
  · exact hx
  · exact hy

theorem Uncorrelated.tryExcept {x : Method α} {handler : RuntimeError → Method α}
    (hx : Uncorrelated x) (hhandler : ∀ error, Uncorrelated (handler error)) :
    Uncorrelated (tryExcept x handler) where
  bystands env w := by
    have hfirst := hx.bystands env w
    rw [run_tryExcept]
    rcases hrun : x.run env w with ⟨error | a, w'⟩
    · rw [hrun] at hfirst
      exact hfirst.trans ((hhandler error).bystands env w')
    · rw [hrun] at hfirst
      exact hfirst

instance {x : Method α} {handler : RuntimeError → Method α} [hx : Uncorrelated x]
    [hhandler : ∀ error, Uncorrelated (handler error)] : Uncorrelated (tryExcept x handler) :=
  .tryExcept hx hhandler

instance : Uncorrelated now := by
  have hmap : now = (ask : Method Reading) >>= fun reading => pure reading.now := rfl
  rw [hmap]
  infer_instance

instance : Uncorrelated failurePoint := by
  unfold failurePoint
  have hraise : ∀ reading : Reading, Uncorrelated (match reading.failure with
      | some error => (raise error : Method Unit)
      | none => pure ()) := by
    intro reading
    split <;> infer_instance
  exact .bind inferInstance hraise

/-- A block is without a correlation when its body is; a rollback puts back what the body
left alone. -/
theorem Uncorrelated.atomic {x : Method α} (hx : Uncorrelated x) :
    Uncorrelated (atomic transactions x) where
  bystands env w := by
    cases hcurrent : w.current with
    | some t =>
        rw [atomic_run_nested transactions hcurrent]
        exact hx.bystands env w
    | none =>
        have hbody := hx.bystands env (transactions.opened w)
        rw [opened_ledger transactions hcurrent] at hbody
        rcases @atomic_ledger runtime α env x transactions w hcurrent with
          ⟨a, -, -, hledger⟩ | ⟨error, -, hledger⟩
        · rw [hledger]
          exact hbody
        · rw [hledger]
          refine ⟨.of_same fun l hl => ?_, .of_eq ?_⟩
          · change restore (S := runtime) _ _ l = _
            rw [restore_capture]
            split
            · rfl
            · exact hbody.cells.eq hl
          · rw [World.ledger_of_none hcurrent]

/-- An emitted plain event is one that was added. -/
instance (eventType : EventType) (aggregateType aggregateId : String)
    (payload : Payload) :
    Uncorrelated (publish eventType aggregateType aggregateId payload none none) where
  bystands env w := by
    refine ⟨?_, ?_⟩
    · have hheap := publish_heap eventType aggregateType aggregateId payload none none env w
      change SameWorkflows w.heap (((publish eventType aggregateType aggregateId payload).run
        env w).2.heap)
      rw [hheap]
      exact .refl _
    · rcases publish_joins eventType aggregateType aggregateId payload none none
        w.ledger.events w rfl with ⟨-, hlog⟩ | ⟨event, -, -, hfields, hlog⟩
      · exact .of_eq hlog
      · obtain ⟨-, -, -, -, hcorrelation, hcausation⟩ := hfields
        exact ⟨[event], by simpa using ⟨hcorrelation, hcausation⟩, hlog⟩

instance {method : Method α} [hmethod : Uncorrelated method] :
    Uncorrelated (atomicDomainOperation method) := by
  have hatomic : Uncorrelated (atomic transactions (keepDomainFailure
      (failurePoint >>= fun _ => method))) := by
    unfold keepDomainFailure
    exact .atomic inferInstance
  have hrelease : ∀ outcome : Except RuntimeError α,
      Uncorrelated (releaseDomainFailure outcome) := by
    intro outcome
    cases outcome <;> unfold releaseDomainFailure <;> infer_instance
  unfold atomicDomainOperation
  infer_instance

theorem Uncorrelated.operation {method : Method α} (hmethod : Uncorrelated method) :
    Uncorrelated (atomicDomainOperation method) :=
  inferInstance

/-! ## The engine and the agent registry -/

instance (packageId : String) : Uncorrelated (getWorkPackage packageId) := by
  unfold getWorkPackage
  infer_instance

instance (packageId workItemId : String) : Uncorrelated (getWorkItem packageId workItemId) := by
  unfold getWorkItem
  infer_instance

instance (packageId : String) : Uncorrelated (markUpdated packageId) := by
  unfold markUpdated
  infer_instance

instance (packageId : String) (updatedAt : Timestamp) :
    Uncorrelated (setUpdatedAt packageId updatedAt) := by
  unfold setUpdatedAt
  infer_instance

instance (packageId workItemId : String) (state : LifecycleState) :
    Uncorrelated (setLifecycleState packageId workItemId state) := by
  unfold setLifecycleState
  infer_instance

instance (packageId workItemId : String) (assignedTo : Option String) :
    Uncorrelated (setAssignedTo packageId workItemId assignedTo) := by
  unfold setAssignedTo
  infer_instance

instance (id title description owner : String) :
    Uncorrelated (newWorkPackage id title description owner) := by
  unfold newWorkPackage validateRequiredString
  infer_instance

instance (id title description priority : String) (assignedTo : Option String) :
    Uncorrelated (newWorkItem id title description priority assignedTo) := by
  unfold newWorkItem validateRequiredString validateOptionalString
  infer_instance

instance (id title description owner : String) :
    Uncorrelated (createWorkPackage id title description owner) := by
  unfold createWorkPackage
  refine .operation (.bind inferInstance fun _ => .bind inferInstance fun _ => ?_)
  infer_instance

instance (packageId id title description priority : String) (assignedTo : Option String) :
    Uncorrelated (addWorkItem packageId id title description priority assignedTo) := by
  unfold addWorkItem
  infer_instance

instance (packageId workItemId : String) (newState : LifecycleState) :
    Uncorrelated (changeWorkItemState packageId workItemId newState) := by
  unfold changeWorkItemState changeState
  infer_instance

instance (packageId workItemId : String) (targetState : LifecycleState) (reason : Message) :
    Uncorrelated (recoverWorkItemState packageId workItemId targetState reason) := by
  unfold recoverWorkItemState recoverState validateRequiredMessage
  infer_instance

instance (agentId : String) : Uncorrelated (getAgent agentId) := by
  unfold getAgent validateRequiredString
  infer_instance

instance (agent : AgentMetadata) (supportedCapabilities : List AgentCapability) :
    Uncorrelated (registerAgent agent supportedCapabilities) := by
  unfold registerAgent
  infer_instance

instance (agentId : String) (state : AgentState) : Uncorrelated (setAgentState agentId state) := by
  unfold setAgentState
  infer_instance

instance (agentId : String) (newState : AgentState) :
    Uncorrelated (updateAgentState agentId newState) := by
  unfold updateAgentState
  infer_instance

/-! ## The orchestrator -/

instance (requiredRole : Option AgentRole) (requiredCapabilities : Option (List String)) :
    Uncorrelated (selectAgent requiredRole requiredCapabilities) := by
  unfold selectAgent validateRequiredCapabilities
  refine .bind inferInstance fun _ => .bind inferInstance fun h => ?_
  dsimp only
  split <;> infer_instance

instance (id packageId workItemId agentId : String) (requiredRole : Option AgentRole)
    (requiredCapabilities : List String) (selectionReason : String) (priority : Int)
    (count : Nat) : Uncorrelated (newWorkAssignment id packageId workItemId agentId requiredRole
      requiredCapabilities selectionReason priority count) := by
  unfold newWorkAssignment validateRequiredString
  refine .bind inferInstance fun createdAt => .bind inferInstance fun updatedAt => ?_
  refine .bind inferInstance fun _ => .bind inferInstance fun _ => .bind inferInstance fun _ => ?_
  infer_instance

instance (assignment : WorkAssignment) (newStatus : AssignmentStatus) :
    Uncorrelated (changeStatus assignment newStatus) := by
  unfold changeStatus
  infer_instance

instance (assignmentId : String) : Uncorrelated (getAssignment assignmentId) := by
  unfold getAssignment validateRequiredString
  infer_instance

instance (assignmentId : String) (status : AssignmentStatus) (updatedAt : Timestamp) :
    Uncorrelated (setAssignmentStatus assignmentId status updatedAt) := by
  unfold setAssignmentStatus
  infer_instance

instance (agentId : String) : Uncorrelated (releaseAgentCapacity agentId) := by
  unfold releaseAgentCapacity
  infer_instance

instance (assignmentId : String) : Uncorrelated (popAssignment assignmentId) := by
  unfold popAssignment
  infer_instance

instance (assignmentId packageId workItemId : String) (requiredRole : Option AgentRole)
    (requiredCapabilities : Option (List String)) :
    Uncorrelated (assignWorkItem assignmentId packageId workItemId requiredRole
      requiredCapabilities) := by
  unfold assignWorkItem validateRequiredString
  refine .operation (.bind inferInstance fun _ => .bind inferInstance fun _ => ?_)
  refine .bind inferInstance fun _ => .bind inferInstance fun h => .bind inferInstance fun _ => ?_
  refine .bind inferInstance fun _ => .bind inferInstance fun _ => .bind inferInstance fun _ => ?_
  refine .bind inferInstance fun _ => .bind inferInstance fun _ => .bind inferInstance fun _ => ?_
  refine .bind inferInstance fun _ => .bind inferInstance fun _ => .bind (.tryExcept ?_ ?_) ?_
  · infer_instance
  · intro error
    infer_instance
  · infer_instance

instance (assignmentId : String) : Uncorrelated (completeAssignment assignmentId) := by
  unfold completeAssignment requireActive
  refine .operation (.bind inferInstance fun _ => .bind inferInstance fun _ => ?_)
  refine .bind inferInstance fun _ => .bind inferInstance fun _ => .bind inferInstance fun _ => ?_
  refine .bind inferInstance fun _ => .bind (.tryExcept inferInstance fun error => ?_) ?_
  · infer_instance
  · infer_instance

instance (assignmentId : String) : Uncorrelated (cancelAssignment assignmentId) := by
  unfold cancelAssignment requireActive
  refine .operation (.bind inferInstance fun _ => .bind inferInstance fun _ => ?_)
  refine .bind inferInstance fun _ => .bind inferInstance fun _ => .bind inferInstance fun _ => ?_
  refine .bind inferInstance fun _ => .bind (.tryExcept inferInstance fun error => ?_) ?_
  · infer_instance
  · infer_instance

/-! ## Executing and recovering -/

instance (executors : List Executor) (assignment : WorkAssignment) :
    Uncorrelated (selectExecutor executors assignment) := by
  unfold selectExecutor
  refine .bind inferInstance fun _ => ?_
  split <;> infer_instance

instance (id assignmentId workItemId agentId : String) :
    Uncorrelated (newExecution id assignmentId workItemId agentId) := by
  unfold newExecution validateRequiredString
  infer_instance

instance (execution : ExecutionResult) : Uncorrelated (markRunning execution) := by
  unfold markRunning validateExecutionStatusTransition
  infer_instance

instance (executionId output : String) : Uncorrelated (markSucceeded executionId output) := by
  unfold markSucceeded validateRequiredString validateExecutionStatusTransition
  infer_instance

instance (executionId : String) (error : Message) : Uncorrelated (markFailed executionId error) := by
  unfold markFailed validateRequiredMessage validateExecutionStatusTransition
  infer_instance

instance (execution : ExecutionResult) (result : Option ExecutionResult) :
    Uncorrelated (validateProviderResult execution result) := by
  unfold validateProviderResult
  split <;> infer_instance

instance (executionId : String) : Uncorrelated (getExecution executionId) := by
  unfold getExecution validateRequiredString
  infer_instance

instance (eventType : EventType) (executionId : String) (payload : Payload) :
    Uncorrelated (publishExecution eventType executionId payload none) := by
  unfold publishExecution
  exact .bind (inferInstanceAs (Uncorrelated (publish eventType _ _ payload none none)))
    fun _ => inferInstance

instance (executionId : String) : Uncorrelated (cancelExecution executionId) := by
  unfold cancelExecution validateExecutionStatusTransition
  infer_instance

instance (executionId : String) : Uncorrelated (popExecution executionId) := by
  unfold popExecution
  infer_instance

instance (recoveryId : String) : Uncorrelated (popRecord recoveryId) := by
  unfold popRecord
  infer_instance

instance (id executionId assignmentId : String) (action : RecoveryAction) (reason : Message) :
    Uncorrelated (newRecoveryRecord id executionId assignmentId action reason) := by
  unfold newRecoveryRecord validateRequiredString validateRequiredMessage
  infer_instance

instance (recoveryId : String) (execution : ExecutionResult) (action : RecoveryAction)
    (reason : Message) : Uncorrelated (storeRecord recoveryId execution action reason) := by
  unfold storeRecord
  infer_instance

instance (recoveryId executionId : String) (reason : Message) :
    Uncorrelated (validateRecoverable recoveryId executionId reason) := by
  unfold validateRecoverable validateRequiredString validateRequiredMessage
  refine .bind inferInstance fun _ => .bind inferInstance fun _ => ?_
  refine .bind inferInstance fun records => .bind inferInstance fun _ => ?_
  infer_instance

instance (recoveryId executionId : String) (reason : Message) :
    Uncorrelated (resetFailedExecution recoveryId executionId reason) := by
  unfold resetFailedExecution
  infer_instance

instance (recoveryId executionId : String) (reason : Message) :
    Uncorrelated (cancelFailedAssignment recoveryId executionId reason) := by
  unfold cancelFailedAssignment
  refine .operation (.bind inferInstance fun _ => ?_)
  refine .bind inferInstance fun _ => .bind inferInstance fun _ => .bind inferInstance fun _ => ?_
  refine .tryExcept inferInstance fun error => ?_
  refine .bind inferInstance fun _ => .bind inferInstance fun _ => .bind inferInstance fun _ => ?_
  infer_instance

end Runtime
end Ascos
