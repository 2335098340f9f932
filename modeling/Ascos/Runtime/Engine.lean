import Ascos.Runtime.Events

/-!
# The runtime engine and the agent registry

A translation of `runtime/engine/runtime_engine.py`, of the record methods of
`runtime/models` that it calls, and of `runtime/agents/registry.py`.  A record
under construction is a value; it becomes an object when it is filed.
-/

namespace Ascos
namespace Runtime

open Library Library.Action

/-! ## Work packages and work items -/

/-- `WorkPackage.__post_init__` on a new package. -/
def newWorkPackage (id title description owner : String) : Method WorkPackage := do
  let createdAt ← now
  let updatedAt ← now
  validateRequiredString id "WorkPackage.id"
  validateRequiredString title "WorkPackage.title"
  validateRequiredString description "WorkPackage.description"
  validateRequiredString owner "WorkPackage.owner"
  pure { id, title, description, owner, lifecycleState := .created, createdAt, updatedAt }

/-- `WorkItem.__post_init__` on a new item. -/
def newWorkItem (id title description priority : String) (assignedTo : Option String) :
    Method WorkItem := do
  validateRequiredString id "WorkItem.id"
  validateRequiredString title "WorkItem.title"
  validateRequiredString description "WorkItem.description"
  validateRequiredString priority "WorkItem.priority"
  validateOptionalString assignedTo "WorkItem.assigned_to"
  pure { id, title, description, priority, dependencies := [], assignedTo,
         lifecycleState := .created }

/-- `RuntimeEngine.get_work_package`; a package object is named by its id. -/
def getWorkPackage (packageId : String) : Method WorkPackage := do
  let packages ← load .workPackages
  raiseIf (packageId ∉ packages)
    ⟨.workPackageNotFoundError, quote "Work package " packageId " not found"⟩
  load (.workPackage packageId)

/-- `RuntimeEngine.get_work_item` by way of `WorkPackage.get_work_item`. -/
def getWorkItem (packageId workItemId : String) : Method WorkItem := do
  let package ← getWorkPackage packageId
  let workItems ← load (.workItems packageId)
  raiseIf (workItemId ∉ workItems)
    ⟨.workItemNotFoundError,
      quote "Work item " workItemId " not found in package " ++ quote "" package.id ""⟩
  load (.workItem packageId workItemId)

def markUpdated (packageId : String) : Method Unit := do
  let updatedAt ← now
  let package ← load (.workPackage packageId)
  store (.workPackage packageId) { package with updatedAt }

/-- Assign the field `updated_at` of a package. -/
def setUpdatedAt (packageId : String) (updatedAt : Timestamp) : Method Unit := do
  let package ← load (.workPackage packageId)
  store (.workPackage packageId) { package with updatedAt }

/-- Assign the field `lifecycle_state` of a work item. -/
def setLifecycleState (packageId workItemId : String) (state : LifecycleState) :
    Method Unit := do
  let item ← load (.workItem packageId workItemId)
  store (.workItem packageId workItemId) { item with lifecycleState := state }

/-- Assign the field `assigned_to` of a work item. -/
def setAssignedTo (packageId workItemId : String) (assignedTo : Option String) :
    Method Unit := do
  let item ← load (.workItem packageId workItemId)
  store (.workItem packageId workItemId) { item with assignedTo }

/-- `WorkItem.change_state` under `validate_lifecycle_transition`. -/
def changeState (packageId workItemId : String) (newState : LifecycleState) :
    Method Unit := do
  let item ← load (.workItem packageId workItemId)
  raiseIf (newState ∉ item.lifecycleState.transitions)
    ⟨.invalidLifecycleTransitionError,
      s!"Cannot transition from {item.lifecycleState.value} to {newState.value}"⟩
  setLifecycleState packageId workItemId newState

def recoverState (packageId workItemId : String) (newState : LifecycleState)
    (reason : Message) : Method Unit := do
  validateRequiredMessage reason "recovery reason"
  let item ← load (.workItem packageId workItemId)
  raiseIf (¬(item.lifecycleState = .running ∧ newState = .assigned))
    ⟨.invalidLifecycleTransitionError,
      s!"Recovery cannot transition from {item.lifecycleState.value} to {newState.value}"⟩
  setLifecycleState packageId workItemId newState

/-! ## The engine -/

def createWorkPackage (id title description owner : String) : Method WorkPackage :=
  atomicDomainOperation do
    let packages ← load .workPackages
    raiseIf (id ∈ packages)
      ⟨.duplicateWorkPackageError, quote "Work package " id " already exists"⟩
    let package ← newWorkPackage id title description owner
    store (.workPackage id) package
    store (.workItems id) []
    store (.artifacts id) []
    store .workPackages (packages ++ [id])
    let _ ← publish .workPackageCreated "WORK_PACKAGE" package.id
      [("title", package.title), ("owner", package.owner)]
    pure package

/-- `RuntimeEngine.add_work_item` with `WorkPackage.add_work_item`. -/
def addWorkItem (packageId id title description : String) (priority : String := "normal")
    (assignedTo : Option String := none) : Method WorkItem :=
  atomicDomainOperation do
    let package ← getWorkPackage packageId
    let item ← newWorkItem id title description priority assignedTo
    let workItems ← load (.workItems packageId)
    raiseIf (item.id ∈ workItems)
      ⟨.duplicateWorkItemError,
        quote "Work item " item.id " already exists in package " ++ quote "" package.id ""⟩
    store (.workItem packageId id) item
    store (.workItems packageId) (workItems ++ [id])
    markUpdated packageId
    let _ ← publish .workItemCreated "WORK_ITEM" s!"{packageId}:{item.id}"
      [("package_id", packageId), ("work_item_id", item.id)]
    pure item

def changeWorkItemState (packageId workItemId : String) (newState : LifecycleState) :
    Method Unit :=
  atomicDomainOperation do
    let item ← getWorkItem packageId workItemId
    let previousState := item.lifecycleState
    changeState packageId workItemId newState
    markUpdated packageId
    let _ ← publish .workItemStateChanged "WORK_ITEM" s!"{packageId}:{workItemId}"
      [("package_id", packageId), ("work_item_id", workItemId),
        ("previous_state", previousState.value), ("new_state", newState.value)]
    pure ()

def recoverWorkItemState (packageId workItemId : String) (targetState : LifecycleState)
    (reason : Message) : Method Unit :=
  atomicDomainOperation do
    let item ← getWorkItem packageId workItemId
    let previousState := item.lifecycleState
    recoverState packageId workItemId targetState reason
    markUpdated packageId
    let _ ← publish .workItemStateChanged "WORK_ITEM" s!"{packageId}:{workItemId}"
      [("package_id", packageId), ("work_item_id", workItemId),
        ("previous_state", previousState.value), ("new_state", targetState.value),
        ("recovery", .flag true), ("reason", .text reason)]
    pure ()

/-! ## The agent registry -/

def getAgent (agentId : String) : Method AgentMetadata := do
  validateRequiredString agentId "agent_id"
  let agents ← load .agents
  raiseIf (agentId ∉ agents)
    ⟨.agentNotFoundError, quote "Agent " agentId " is not registered"⟩
  load (.agent agentId)

/-- `AgentRegistry.register_agent`; the list of capabilities is an object of its own. -/
def registerAgent (agent : AgentMetadata) (supportedCapabilities : List AgentCapability) :
    Method AgentMetadata :=
  atomicDomainOperation do
    let agents ← load .agents
    raiseIf (agent.id ∈ agents)
      ⟨.duplicateAgentError, quote "Agent " agent.id " is already registered"⟩
    store (.agent agent.id) agent
    store (.supportedCapabilities agent.id) supportedCapabilities
    store .agents (agents ++ [agent.id])
    let _ ← publish .agentRegistered "AGENT" agent.id
      [("role", agent.role.value), ("state", agent.state.value)]
    pure agent

/-- Assign the field `state` of an agent. -/
def setAgentState (agentId : String) (state : AgentState) : Method Unit := do
  let agent ← load (.agent agentId)
  store (.agent agentId) { agent with state }

/-- `AgentRegistry.update_agent_state` with `AgentMetadata.change_state`. -/
def updateAgentState (agentId : String) (newState : AgentState) : Method AgentMetadata :=
  atomicDomainOperation do
    let agent ← getAgent agentId
    let previousState := agent.state
    raiseIf (newState ∉ agent.state.transitions)
      ⟨.invalidAgentStateTransitionError,
        s!"Cannot transition agent from {agent.state.value} to {newState.value}"⟩
    setAgentState agentId newState
    let _ ← publish .agentStateChanged "AGENT" agent.id
      [("previous_state", previousState.value), ("new_state", newState.value)]
    load (.agent agentId)

/-! ## Specifications -/

variable {α : Type} {env : Environment} {h : State} {Q : α → State → Prop}
  {E : RuntimeError → State → Prop}

theorem Meets.getWorkPackage_bind {packageId : String} {f : WorkPackage → Method α}
    (hraise : ∀ error, error.isExecutionFailed = false → E error h)
    (hf : packageId ∈ h .workPackages →
      Meets env (f (h (.workPackage packageId))) h Q E) :
    Meets env (getWorkPackage packageId >>= f) h Q E := by
  unfold getWorkPackage
  simp only [meets_bind_assoc, meets_read_bind, meets_raiseIf_bind, not_not]
  exact ⟨fun _ => hraise _ rfl, hf⟩

theorem Meets.getWorkItem_bind {packageId workItemId : String} {f : WorkItem → Method α}
    (hraise : ∀ error, error.isExecutionFailed = false → E error h)
    (hf : packageId ∈ h .workPackages → workItemId ∈ h (.workItems packageId) →
      Meets env (f (h (.workItem packageId workItemId))) h Q E) :
    Meets env (getWorkItem packageId workItemId >>= f) h Q E := by
  unfold getWorkItem
  rw [meets_bind_assoc]
  refine Meets.getWorkPackage_bind hraise fun hpackage => ?_
  simp only [meets_bind_assoc, meets_read_bind, meets_raiseIf_bind, not_not]
  exact ⟨fun _ => hraise _ rfl, hf hpackage⟩

theorem Meets.getAgent_bind {agentId : String} {f : AgentMetadata → Method α}
    (hraise : ∀ error, error.isExecutionFailed = false → E error h)
    (hf : agentId ∈ h .agents → Meets env (f (h (.agent agentId))) h Q E) :
    Meets env (getAgent agentId >>= f) h Q E := by
  unfold getAgent validateRequiredString
  simp only [meets_bind_assoc, meets_read_bind, meets_raiseIf_bind, not_not]
  exact ⟨fun _ => hraise _ rfl, fun _ => ⟨fun _ => hraise _ rfl, hf⟩⟩

theorem changeWorkItemState_spec (henv : env.Sound) {packageId workItemId : String}
    {newState : LifecycleState} :
    Meets env (changeWorkItemState packageId workItemId newState) h
      (fun _ h' => packageId ∈ h .workPackages ∧ workItemId ∈ h (.workItems packageId) ∧
        newState ∈ (h (.workItem packageId workItemId)).lifecycleState.transitions ∧
        h' (.workItem packageId workItemId) =
          { h (.workItem packageId workItemId) with lifecycleState := newState } ∧
        Touches [.workItem packageId workItemId, .workPackage packageId] h h')
      (fun error h' => error.isExecutionFailed = false ∧
        Touches [.workItem packageId workItemId, .workPackage packageId] h h') := by
  have hstart : ∀ error : RuntimeError, error.isExecutionFailed = false →
      error.isExecutionFailed = false ∧
        Touches [.workItem packageId workItemId, .workPackage packageId] h h :=
    fun error hclean => ⟨hclean, SameOutside.refl _ h⟩
  unfold changeWorkItemState changeState setLifecycleState markUpdated
  refine Meets.atomicDomainOperation henv hstart ?_
  refine Meets.getWorkItem_bind hstart fun hpackage hitem => ?_
  simp only [meets_bind_assoc, meets_read_bind, meets_raiseIf_bind, meets_write_bind, not_not]
  refine ⟨fun _ => hstart _ rfl, fun htransition => ?_⟩
  refine Meets.now_bind fun updatedAt => ?_
  simp only [meets_bind_assoc, meets_read_bind, meets_write_bind]
  refine Meets.bind (Meets.publish henv (fun event => ?_) fun error hclean => ?_)
  · rw [meets_pure]
    exact ⟨hpackage, hitem, htransition, by simp, by simp⟩
  · exact ⟨hclean, by simp⟩

theorem recoverWorkItemState_spec (henv : env.Sound) {packageId workItemId : String}
    {targetState : LifecycleState} {reason : Message} :
    Meets env (recoverWorkItemState packageId workItemId targetState reason) h
      (fun _ h' => packageId ∈ h .workPackages ∧ workItemId ∈ h (.workItems packageId) ∧
        h' (.workItem packageId workItemId) =
          { h (.workItem packageId workItemId) with lifecycleState := targetState } ∧
        Touches [.workItem packageId workItemId, .workPackage packageId] h h')
      Clean := by
  unfold recoverWorkItemState recoverState setLifecycleState markUpdated
    validateRequiredMessage
  refine Meets.atomicDomainOperation henv (fun _ hclean => hclean) ?_
  refine Meets.getWorkItem_bind (fun _ hclean => hclean) fun hpackage hitem => ?_
  simp only [meets_bind_assoc, meets_read_bind, meets_raiseIf_bind, meets_write_bind, not_not]
  refine ⟨fun _ => rfl, fun _ => ⟨fun _ => rfl, fun _ => ?_⟩⟩
  refine Meets.now_bind fun updatedAt => ?_
  simp only [meets_bind_assoc, meets_read_bind, meets_write_bind]
  refine Meets.bind (Meets.publish henv (fun event => ?_) fun error hclean => hclean)
  rw [meets_pure]
  exact ⟨hpackage, hitem, by simp, by simp⟩

theorem createWorkPackage_spec (henv : env.Sound) {id title description owner : String} :
    Meets env (createWorkPackage id title description owner) h
      (fun _ h' => id ∉ h .workPackages ∧ h' .workPackages = h .workPackages ++ [id] ∧
        h' (.workItems id) = [] ∧
        Touches [.workPackages, .workPackage id, .workItems id, .artifacts id] h h')
      Clean := by
  unfold createWorkPackage newWorkPackage validateRequiredString
  refine Meets.atomicDomainOperation henv (fun _ hclean => hclean) ?_
  simp only [meets_bind_assoc, meets_read_bind, meets_raiseIf_bind]
  refine ⟨fun _ => rfl, fun hnew => ?_⟩
  refine Meets.now_bind fun createdAt => ?_
  rw [meets_bind_assoc]
  refine Meets.now_bind fun updatedAt => ?_
  simp only [meets_bind_assoc, meets_raiseIf_bind, meets_pure_bind, meets_write_bind]
  refine ⟨fun _ => rfl, fun _ => ⟨fun _ => rfl, fun _ => ⟨fun _ => rfl, fun _ =>
    ⟨fun _ => rfl, fun _ => ?_⟩⟩⟩⟩
  refine Meets.bind (Meets.publish henv (fun event => ?_) fun error hclean => hclean)
  rw [meets_pure]
  exact ⟨hnew, by simp, by simp, by simp⟩

theorem addWorkItem_spec (henv : env.Sound) {packageId id title description priority : String}
    {assignedTo : Option String} :
    Meets env (addWorkItem packageId id title description priority assignedTo) h
      (fun _ h' => packageId ∈ h .workPackages ∧ id ∉ h (.workItems packageId) ∧
        h' (.workItems packageId) = h (.workItems packageId) ++ [id] ∧
        (h' (.workItem packageId id)).lifecycleState = .created ∧
        Touches [.workPackage packageId, .workItems packageId, .workItem packageId id] h h')
      Clean := by
  unfold addWorkItem newWorkItem markUpdated validateRequiredString validateOptionalString
  refine Meets.atomicDomainOperation henv (fun _ hclean => hclean) ?_
  refine Meets.getWorkPackage_bind (fun _ hclean => hclean) fun hpackage => ?_
  simp only [meets_bind_assoc, meets_raiseIf_bind, meets_pure_bind, meets_read_bind,
    meets_write_bind]
  refine ⟨fun _ => rfl, fun _ => ⟨fun _ => rfl, fun _ => ⟨fun _ => rfl, fun _ =>
    ⟨fun _ => rfl, fun _ => ⟨fun _ => rfl, fun _ => ⟨fun _ => rfl, fun hnew => ?_⟩⟩⟩⟩⟩⟩
  refine Meets.now_bind fun updatedAt => ?_
  simp only [meets_bind_assoc, meets_read_bind, meets_write_bind]
  refine Meets.bind (Meets.publish henv (fun event => ?_) fun error hclean => hclean)
  rw [meets_pure]
  exact ⟨hpackage, hnew, by simp, by simp, by simp⟩

theorem updateAgentState_spec (henv : env.Sound) {agentId : String} {newState : AgentState} :
    Meets env (updateAgentState agentId newState) h
      (fun _ h' => Touches [.agent agentId] h h') Clean := by
  unfold updateAgentState setAgentState
  refine Meets.atomicDomainOperation henv (fun _ hclean => hclean) ?_
  refine Meets.getAgent_bind (fun _ hclean => hclean) fun hagent => ?_
  simp only [meets_bind_assoc, meets_read_bind, meets_raiseIf_bind, meets_write_bind]
  refine ⟨fun _ => rfl, fun _ => ?_⟩
  refine Meets.bind (Meets.publish henv (fun event => ?_) fun error hclean => hclean)
  rw [meets_read]
  simp

end Runtime
end Ascos
