import Ascos.Runtime.Engine

/-!
# The orchestrator

A translation of `runtime/orchestration/orchestrator.py` with the selection and
assignment models it uses.  The hand-written compensations stay in place, although the
transaction that every operation runs in puts the same objects back.
-/

namespace Ascos
namespace Runtime

open Library Library.Action

/-! ## Selection -/

def countActiveAssignments (h : State) (agentId : String) : Nat :=
  (h .assignments).countP fun id =>
    (h (.assignment id)).agentId == agentId && (h (.assignment id)).status == .active

def supportsCapability (h : State) (agentId capabilityId : String) : Bool :=
  (h (.supportedCapabilities agentId)).any fun capability => capability.id == capabilityId

/-- The agent has the role and all the capabilities asked for. -/
def meetsRequirements (h : State) (requiredRole : Option AgentRole)
    (capabilityIds : List String) (agentId : String) : Bool :=
  requiredRole.all (fun role => (h (.agent agentId)).role == role) &&
    capabilityIds.all (supportsCapability h agentId)

/-- The agent has as many active assignments as it may have. -/
def atCapacity (h : State) (agentId : String) : Bool :=
  (h (.agent agentId)).maxParallelTasks ≤ countActiveAssignments h agentId

/-- The rank tuple of `second` is smaller than that of `first`, registration order
aside. -/
def outranks (h : State) (second first : String) : Bool :=
  let priority := fun agentId => (h (.agent agentId)).priority
  let activeCount := countActiveAssignments h
  priority first < priority second ||
    (priority first == priority second && activeCount second < activeCount first)

/-- The agent with the least rank tuple, the first registered among equals. -/
def bestRanked (h : State) : List String → Option String
  | [] => none
  | first :: rest =>
    some (rest.foldl (fun best agentId => if outranks h agentId best then agentId else best)
      first)

structure AgentSelectionResult where
  agentId : String
  score : Nat
  matchedCapabilities : List String
  reason : String

def validateRequiredCapabilities (value : List String) : Method Unit := do
  raiseIf (∃ capabilityId ∈ value, isBlank capabilityId = true)
    ⟨.validationError, "required_capabilities must be a non-empty string"⟩
  raiseIf (¬value.Nodup)
    ⟨.validationError, "required_capabilities must not contain duplicates"⟩

def selectAgent (requiredRole : Option AgentRole) (requiredCapabilities : Option (List String)) :
    Method AgentSelectionResult := do
  let capabilityIds := requiredCapabilities.getD []
  validateRequiredCapabilities capabilityIds
  let h ← readAll
  let matching := (h .agents).filter (meetsRequirements h requiredRole capabilityIds)
  let ranked := matching.filter fun agentId =>
    !atCapacity h agentId && (h (.agent agentId)).state == .available
  match bestRanked h ranked with
  | none =>
    if matching.any (atCapacity h) = true then
      raise ⟨.agentCapacityError, "Matching agents have reached max_parallel_tasks capacity"⟩
    else
      raise ⟨.noEligibleAgentError, "No eligible available agent was found"⟩
  | some selected =>
    pure
      { agentId := selected, score := capabilityIds.length,
        matchedCapabilities := capabilityIds,
        reason := s!"Matched {capabilityIds.length} required capabilities; " ++
          s!"priority {(h (.agent selected)).priority}; " ++
          s!"{countActiveAssignments h selected} active assignments" }

/-! ## Assignments -/

/-- `WorkAssignment.__post_init__` on a new assignment. -/
def newWorkAssignment (id packageId workItemId agentId : String)
    (requiredRole : Option AgentRole) (requiredCapabilities : List String)
    (selectionReason : String) (selectedAgentPriority : Int)
    (selectedAgentActiveAssignmentCount : Nat) : Method WorkAssignment := do
  let createdAt ← now
  let updatedAt ← now
  validateRequiredString id "WorkAssignment.id"
  validateRequiredString packageId "WorkAssignment.package_id"
  validateRequiredString workItemId "WorkAssignment.work_item_id"
  validateRequiredString agentId "WorkAssignment.agent_id"
  raiseIf (∃ capabilityId ∈ requiredCapabilities, isBlank capabilityId = true)
    ⟨.validationError, "WorkAssignment.required_capabilities must be a non-empty string"⟩
  raiseIf (¬requiredCapabilities.Nodup)
    ⟨.validationError, "WorkAssignment.required_capabilities must not contain duplicates"⟩
  validateRequiredString selectionReason "WorkAssignment.selection_reason"
  raiseIf (updatedAt < createdAt)
    ⟨.validationError, "WorkAssignment.updated_at cannot precede created_at"⟩
  pure { id, packageId, workItemId, agentId, status := .created, createdAt, updatedAt,
         requiredRole, requiredCapabilities, selectionReason, selectedAgentPriority,
         selectedAgentActiveAssignmentCount }

def changeStatus (assignment : WorkAssignment) (newStatus : AssignmentStatus) :
    Method WorkAssignment := do
  raiseIf (newStatus ∉ assignment.status.transitions)
    ⟨.invalidAssignmentStateTransitionError,
      s!"Cannot transition assignment from {assignment.status.value} to {newStatus.value}"⟩
  let updatedAt ← now
  pure { assignment with status := newStatus, updatedAt }

def getAssignment (assignmentId : String) : Method WorkAssignment := do
  validateRequiredString assignmentId "assignment_id"
  let assignments ← load .assignments
  raiseIf (assignmentId ∉ assignments)
    ⟨.assignmentNotFoundError, quote "Assignment " assignmentId " was not found"⟩
  load (.assignment assignmentId)

def requireActive (assignment : WorkAssignment) : Method Unit :=
  raiseIf (assignment.status ≠ .active)
    ⟨.invalidAssignmentStateTransitionError, "Assignment must be ACTIVE for this operation"⟩

def releaseAgentCapacity (agentId : String) : Method Unit := do
  let agent ← getAgent agentId
  let h ← readAll
  if agent.state = .busy ∧ countActiveAssignments h agentId < agent.maxParallelTasks then
    let _ ← updateAgentState agentId .available
    pure ()
  else
    pure ()

/-- Assign the fields `status` and `updated_at` of an assignment. -/
def setAssignmentStatus (assignmentId : String) (status : AssignmentStatus)
    (updatedAt : Timestamp) : Method Unit := do
  let assignment ← load (.assignment assignmentId)
  store (.assignment assignmentId) { assignment with status, updatedAt }

/-- `self._assignments.pop(assignment_id, None)`. -/
def popAssignment (assignmentId : String) : Method Unit := do
  let assignments ← load .assignments
  store .assignments (assignments.filter (· != assignmentId))

def assignWorkItem (assignmentId packageId workItemId : String)
    (requiredRole : Option AgentRole := none)
    (requiredCapabilities : Option (List String) := none) : Method WorkAssignment :=
  atomicDomainOperation do
    validateRequiredString assignmentId "assignment_id"
    validateRequiredString packageId "package_id"
    validateRequiredString workItemId "work_item_id"
    let h ← readAll
    raiseIf (assignmentId ∈ h .assignments)
      ⟨.validationError, quote "Assignment " assignmentId " already exists"⟩
    let workItem ← getWorkItem packageId workItemId
    raiseIf (∃ id ∈ h .assignments, (h (.assignment id)).packageId = packageId ∧
        (h (.assignment id)).workItemId = workItemId ∧ (h (.assignment id)).status = .active)
      ⟨.duplicateActiveAssignmentError,
        quote "Work item " workItemId " already has an active assignment"⟩
    raiseIf (workItem.lifecycleState ≠ .ready)
      ⟨.invalidAssignmentStateTransitionError, "Work item must be READY before assignment"⟩
    let result ← selectAgent requiredRole requiredCapabilities
    let agent ← load (.agent result.agentId)
    let activeAfterAssignment := countActiveAssignments h result.agentId + 1
    let created ← newWorkAssignment assignmentId packageId workItemId result.agentId
      requiredRole (requiredCapabilities.getD []) result.reason agent.priority
      (activeAfterAssignment - 1)
    let assignment ← changeStatus created .active
    let package ← getWorkPackage packageId
    tryExcept
      (do changeWorkItemState packageId workItemId .assigned
          setAssignedTo packageId workItemId (some result.agentId)
          (if activeAfterAssignment = agent.maxParallelTasks then
            (fun _ => ()) <$> updateAgentState result.agentId .busy
          else pure ())
          let assignments ← load .assignments
          store (.assignment assignmentId) assignment
          store .assignments (assignments ++ [assignmentId]))
      (fun error => do
        setLifecycleState packageId workItemId workItem.lifecycleState
        setAssignedTo packageId workItemId workItem.assignedTo
        setAgentState result.agentId agent.state
        setUpdatedAt packageId package.updatedAt
        popAssignment assignmentId
        raise error)
    let _ ← publish .assignmentCreated "ASSIGNMENT" assignment.id
      [("package_id", packageId), ("work_item_id", workItemId),
        ("agent_id", assignment.agentId)]
    pure assignment

def completeAssignment (assignmentId : String) : Method Unit :=
  atomicDomainOperation do
    let assignment ← getAssignment assignmentId
    requireActive assignment
    let workItem ← getWorkItem assignment.packageId assignment.workItemId
    raiseIf (workItem.lifecycleState ≠ .approved)
      ⟨.invalidAssignmentStateTransitionError,
        "Assignment completion requires work item APPROVED"⟩
    let package ← getWorkPackage assignment.packageId
    let agent ← getAgent assignment.agentId
    tryExcept
      (do changeWorkItemState assignment.packageId assignment.workItemId .completed
          let completed ← changeStatus assignment .completed
          store (.assignment assignmentId) completed
          releaseAgentCapacity assignment.agentId)
      (fun error => do
        setLifecycleState assignment.packageId assignment.workItemId workItem.lifecycleState
        setAgentState assignment.agentId agent.state
        setAssignmentStatus assignmentId assignment.status assignment.updatedAt
        setUpdatedAt assignment.packageId package.updatedAt
        raise error)
    let _ ← publish .assignmentCompleted "ASSIGNMENT" assignment.id
      [("work_item_id", assignment.workItemId)]
    pure ()

def cancelAssignment (assignmentId : String) : Method Unit :=
  atomicDomainOperation do
    let assignment ← getAssignment assignmentId
    requireActive assignment
    let workItem ← getWorkItem assignment.packageId assignment.workItemId
    raiseIf (workItem.lifecycleState ≠ .assigned)
      ⟨.invalidAssignmentStateTransitionError,
        "Cancellation requires the work item to remain ASSIGNED"⟩
    let package ← getWorkPackage assignment.packageId
    let agent ← getAgent assignment.agentId
    tryExcept
      (do changeWorkItemState assignment.packageId assignment.workItemId .ready
          setAssignedTo assignment.packageId assignment.workItemId none
          let cancelled ← changeStatus assignment .cancelled
          store (.assignment assignmentId) cancelled
          releaseAgentCapacity assignment.agentId)
      (fun error => do
        setLifecycleState assignment.packageId assignment.workItemId workItem.lifecycleState
        setAssignedTo assignment.packageId assignment.workItemId workItem.assignedTo
        setAgentState assignment.agentId agent.state
        setAssignmentStatus assignmentId assignment.status assignment.updatedAt
        setUpdatedAt assignment.packageId package.updatedAt
        raise error)
    let _ ← publish .assignmentCancelled "ASSIGNMENT" assignment.id
      [("work_item_id", assignment.workItemId)]
    pure ()

/-! ## Specifications -/

variable {α : Type} {env : Environment} {h : State} {Q : α → State → Prop}
  {E : RuntimeError → State → Prop}

theorem Meets.getAssignment_bind {assignmentId : String} {f : WorkAssignment → Method α}
    (hraise : ∀ error, error.isExecutionFailed = false → E error h)
    (hf : assignmentId ∈ h .assignments →
      Meets env (f (h (.assignment assignmentId))) h Q E) :
    Meets env (getAssignment assignmentId >>= f) h Q E := by
  unfold getAssignment validateRequiredString
  simp only [meets_bind_assoc, meets_read_bind, meets_raiseIf_bind, not_not]
  exact ⟨fun _ => hraise _ rfl, fun _ => ⟨fun _ => hraise _ rfl, hf⟩⟩

theorem selectAgent_spec {requiredRole : Option AgentRole}
    {requiredCapabilities : Option (List String)} :
    Meets env (selectAgent requiredRole requiredCapabilities) h (fun _ h' => h = h') Clean := by
  unfold selectAgent validateRequiredCapabilities
  simp only [meets_bind_assoc, meets_raiseIf_bind, meets_readAll_bind]
  refine ⟨fun _ => rfl, fun _ => ⟨fun _ => rfl, fun _ => ?_⟩⟩
  split
  · rw [meets_ite]
    exact ⟨fun _ => meets_raise.mpr rfl, fun _ => meets_raise.mpr rfl⟩
  · exact meets_pure.mpr rfl

theorem newWorkAssignment_spec {id packageId workItemId agentId : String}
    {requiredRole : Option AgentRole} {requiredCapabilities : List String}
    {selectionReason : String} {priority : Int} {count : Nat} :
    Meets env (newWorkAssignment id packageId workItemId agentId requiredRole
        requiredCapabilities selectionReason priority count) h
      (fun assignment h' => h = h' ∧ assignment.id = id ∧ assignment.packageId = packageId ∧
        assignment.workItemId = workItemId ∧ assignment.agentId = agentId) Clean := by
  unfold newWorkAssignment validateRequiredString
  refine Meets.now_bind fun createdAt => Meets.now_bind fun updatedAt => ?_
  simp only [meets_raiseIf_bind, meets_pure, and_self]
  refine ⟨fun _ => rfl, fun _ => ⟨fun _ => rfl, fun _ => ⟨fun _ => rfl, fun _ =>
    ⟨fun _ => rfl, fun _ => ⟨fun _ => rfl, fun _ => ⟨fun _ => rfl, fun _ => ⟨fun _ => rfl,
      fun _ => ⟨fun _ => rfl, fun _ => trivial⟩⟩⟩⟩⟩⟩⟩⟩

theorem changeStatus_spec {assignment : WorkAssignment} {newStatus : AssignmentStatus} :
    Meets env (changeStatus assignment newStatus) h
      (fun changed h' => h = h' ∧
        ∃ updatedAt, changed = { assignment with status := newStatus, updatedAt })
      Clean := by
  unfold changeStatus
  rw [meets_raiseIf_bind]
  refine ⟨fun _ => rfl, fun _ => ?_⟩
  refine Meets.now_bind fun updatedAt => ?_
  exact meets_pure.mpr ⟨rfl, updatedAt, rfl⟩

theorem releaseAgentCapacity_spec (henv : env.Sound) {agentId : String} :
    Meets env (releaseAgentCapacity agentId) h (fun _ h' => Touches [.agent agentId] h h')
      Clean := by
  unfold releaseAgentCapacity
  refine Meets.getAgent_bind (fun _ hclean => hclean) fun hagent => ?_
  rw [meets_readAll_bind, meets_ite]
  constructor
  · intro hbusy
    refine Meets.seq (updateAgentState_spec henv) ?_
    intro agent h' htouch
    exact meets_pure.mpr htouch
  · intro hidle
    exact meets_pure.mpr (SameOutside.refl _ h)

/-- The state of an accepted assignment. -/
structure Assigned (assignmentId packageId workItemId : String) (assignment : WorkAssignment)
    (h h' : State) : Prop where
  fresh : assignmentId ∉ h .assignments
  package_mem : packageId ∈ h .workPackages
  item_mem : workItemId ∈ h (.workItems packageId)
  ready : (h (.workItem packageId workItemId)).lifecycleState = .ready
  id_eq : assignment.id = assignmentId
  packageId_eq : assignment.packageId = packageId
  workItemId_eq : assignment.workItemId = workItemId
  active : assignment.status = .active
  keys : h' .assignments = h .assignments ++ [assignmentId]
  filed : h' (.assignment assignmentId) = assignment
  item : (h' (.workItem packageId workItemId)).lifecycleState = .assigned
  frame : Touches [.workItem packageId workItemId, .workPackage packageId,
    .agent assignment.agentId, .assignment assignmentId, .assignments] h h'

theorem assignWorkItem_spec (henv : env.Sound) {assignmentId packageId workItemId : String}
    {requiredRole : Option AgentRole} {requiredCapabilities : Option (List String)} :
    Meets env (assignWorkItem assignmentId packageId workItemId requiredRole
        requiredCapabilities) h
      (fun assignment h' => Assigned assignmentId packageId workItemId assignment h h')
      Clean := by
  unfold assignWorkItem validateRequiredString
  refine Meets.atomicDomainOperation henv (fun _ hclean => hclean) ?_
  simp only [meets_raiseIf_bind, meets_readAll_bind]
  refine ⟨fun _ => rfl, fun _ => ⟨fun _ => rfl, fun _ => ⟨fun _ => rfl, fun _ =>
    ⟨fun _ => rfl, fun hfresh => ?_⟩⟩⟩⟩
  refine Meets.getWorkItem_bind (fun _ hclean => hclean) fun hpackage hitem => ?_
  simp only [meets_raiseIf_bind, ne_eq, not_not]
  refine ⟨fun _ => rfl, fun _ => ⟨fun _ => rfl, fun hready => ?_⟩⟩
  refine Meets.seq selectAgent_spec ?_
  rintro result _ rfl
  rw [meets_read_bind]
  refine Meets.seq newWorkAssignment_spec ?_
  rintro created _ ⟨rfl, hid, hpkg, hitm, hagent⟩
  refine Meets.seq changeStatus_spec ?_
  rintro assignment _ ⟨rfl, updatedAt, rfl⟩
  refine Meets.getWorkPackage_bind (fun _ hclean => hclean) fun _ => ?_
  refine Meets.seq (P := fun _ h' => Assigned assignmentId packageId workItemId
    { created with status := .active, updatedAt } h h') (Meets.compensate ?_ ?_) ?_
  · -- the item, the agent and the dictionary of assignments, one after the other
    refine Meets.seq ((changeWorkItemState_spec henv).mono (fun _ _ hQ => hQ)
      fun _ _ hE => hE.1) ?_
    rintro _ h₁ ⟨-, -, -, hitem₁, hframe₁⟩
    unfold setAssignedTo
    simp only [meets_bind_assoc, meets_read_bind, meets_write_bind]
    refine Meets.seq (P := fun _ h' => Touches [.agent result.agentId]
      (h₁.write (.workItem packageId workItemId)
        { h₁ (.workItem packageId workItemId) with assignedTo := some result.agentId }) h') ?_ ?_
    · rw [meets_ite]
      constructor
      · intro hfull
        exact Meets.map (updateAgentState_spec henv)
      · intro hroom
        exact meets_pure.mpr (SameOutside.refl _ _)
    rintro _ h₂ hframe₂
    simp only [meets_read_bind, meets_write_bind, meets_write]
    have hkeys : h₂ .assignments = h .assignments := by
      rw [hframe₂ _ (by simp), Heap.write_of_ne _ _ (by simp), hframe₁ _ (by simp)]
    have hframe : Touches [.workItem packageId workItemId, .workPackage packageId,
        .agent created.agentId, .assignment assignmentId, .assignments] h h₂ := by
      refine SameOutside.trans ?_ (hframe₂.mono (by simp [hagent]))
      rw [SameOutside.write_iff (by simp)]
      exact hframe₁.mono (by simp)
    exact
      { fresh := hfresh
        package_mem := hpackage
        item_mem := hitem
        ready := hready
        id_eq := hid
        packageId_eq := hpkg
        workItemId_eq := hitm
        active := rfl
        keys := by simp [hkeys]
        filed := by simp
        item := by
          rw [Heap.write_of_ne _ _ (by simp), Heap.write_of_ne _ _ (by simp),
            hframe₂ _ (by simp), Heap.write_same]
          simp [hitem₁]
        frame := by simpa using hframe }
  · intro error h' hclean
    simp only [setLifecycleState, setAssignedTo, setAgentState, setUpdatedAt, popAssignment,
      meets_bind_assoc, meets_read_bind, meets_write_bind, meets_raise]
    exact hclean
  · intro _ h' hassigned
    refine Meets.bind (Meets.publish henv (fun event => ?_) fun error hclean => hclean)
    exact meets_pure.mpr hassigned

/-- The state after an active assignment was closed with a status, its item moved to a
state.  Besides these, only the objects in `others` may have changed. -/
structure Closed (assignmentId : String) (status : AssignmentStatus) (state : LifecycleState)
    (others : List Loc) (h h' : State) : Prop where
  mem : assignmentId ∈ h .assignments
  wasActive : (h (.assignment assignmentId)).status = .active
  assignment : ∃ updatedAt, h' (.assignment assignmentId) =
    { h (.assignment assignmentId) with status, updatedAt }
  item : (h' (.workItem (h (.assignment assignmentId)).packageId
    (h (.assignment assignmentId)).workItemId)).lifecycleState = state
  frame : Touches (.workItem (h (.assignment assignmentId)).packageId
      (h (.assignment assignmentId)).workItemId ::
    .workPackage (h (.assignment assignmentId)).packageId ::
    .agent (h (.assignment assignmentId)).agentId :: .assignment assignmentId :: others) h h'

theorem completeAssignment_spec (henv : env.Sound) {assignmentId : String} :
    Meets env (completeAssignment assignmentId) h
      (fun _ h' => Closed assignmentId .completed .completed [] h h') Clean := by
  unfold completeAssignment requireActive
  refine Meets.atomicDomainOperation henv (fun _ hclean => hclean) ?_
  refine Meets.getAssignment_bind (fun _ hclean => hclean) fun hmem => ?_
  rw [meets_raiseIf_bind, not_not]
  refine ⟨fun _ => rfl, fun hactive => ?_⟩
  refine Meets.getWorkItem_bind (fun _ hclean => hclean) fun _ _ => ?_
  rw [meets_raiseIf_bind]
  refine ⟨fun _ => rfl, fun _ => ?_⟩
  refine Meets.getWorkPackage_bind (fun _ hclean => hclean) fun _ => ?_
  refine Meets.getAgent_bind (fun _ hclean => hclean) fun _ => ?_
  refine Meets.seq (P := fun _ h' => Closed assignmentId .completed .completed [] h h')
    (Meets.compensate ?_ ?_) ?_
  · refine Meets.seq ((changeWorkItemState_spec henv).mono (fun _ _ hQ => hQ)
      fun _ _ hE => hE.1) ?_
    rintro _ h₁ ⟨-, -, -, hitem₁, hframe₁⟩
    refine Meets.seq changeStatus_spec ?_
    rintro completed _ ⟨rfl, updatedAt, rfl⟩
    rw [meets_write_bind]
    refine (releaseAgentCapacity_spec henv).mono ?_ fun _ _ hclean => hclean
    intro _ h₂ hframe₂
    exact
      { mem := hmem
        wasActive := hactive
        assignment := ⟨updatedAt, by rw [hframe₂ _ (by simp), Heap.write_same]⟩
        item := by
          rw [hframe₂ _ (by simp), Heap.write_of_ne _ _ (by simp), hitem₁]
        frame := by
          refine SameOutside.trans ?_ (hframe₂.mono (by simp))
          rw [SameOutside.write_iff (by simp)]
          exact hframe₁.mono (by simp) }
  · intro error h' hclean
    simp only [setLifecycleState, setAgentState, setAssignmentStatus, setUpdatedAt,
      meets_bind_assoc, meets_read_bind, meets_write_bind, meets_raise]
    exact hclean
  · intro _ h' hclosed
    refine Meets.bind (Meets.publish henv (fun event => ?_) fun error hclean => hclean)
    exact meets_pure.mpr hclosed

theorem cancelAssignment_spec (henv : env.Sound) {assignmentId : String} :
    Meets env (cancelAssignment assignmentId) h
      (fun _ h' => Closed assignmentId .cancelled .ready [] h h') Clean := by
  unfold cancelAssignment requireActive
  refine Meets.atomicDomainOperation henv (fun _ hclean => hclean) ?_
  refine Meets.getAssignment_bind (fun _ hclean => hclean) fun hmem => ?_
  rw [meets_raiseIf_bind, not_not]
  refine ⟨fun _ => rfl, fun hactive => ?_⟩
  refine Meets.getWorkItem_bind (fun _ hclean => hclean) fun _ _ => ?_
  rw [meets_raiseIf_bind]
  refine ⟨fun _ => rfl, fun _ => ?_⟩
  refine Meets.getWorkPackage_bind (fun _ hclean => hclean) fun _ => ?_
  refine Meets.getAgent_bind (fun _ hclean => hclean) fun _ => ?_
  refine Meets.seq (P := fun _ h' => Closed assignmentId .cancelled .ready [] h h')
    (Meets.compensate ?_ ?_) ?_
  · refine Meets.seq ((changeWorkItemState_spec henv).mono (fun _ _ hQ => hQ)
      fun _ _ hE => hE.1) ?_
    rintro _ h₁ ⟨-, -, -, hitem₁, hframe₁⟩
    unfold setAssignedTo
    simp only [meets_bind_assoc, meets_read_bind, meets_write_bind]
    refine Meets.seq changeStatus_spec ?_
    rintro cancelled _ ⟨rfl, updatedAt, rfl⟩
    rw [meets_write_bind]
    refine (releaseAgentCapacity_spec henv).mono ?_ fun _ _ hclean => hclean
    intro _ h₂ hframe₂
    exact
      { mem := hmem
        wasActive := hactive
        assignment := ⟨updatedAt, by rw [hframe₂ _ (by simp), Heap.write_same]⟩
        item := by
          rw [hframe₂ _ (by simp), Heap.write_of_ne _ _ (by simp), Heap.write_same, hitem₁]
        frame := by
          refine SameOutside.trans ?_ (hframe₂.mono (by simp))
          rw [SameOutside.write_iff (by simp), SameOutside.write_iff (by simp)]
          exact hframe₁.mono (by simp) }
  · intro error h' hclean
    simp only [setLifecycleState, setAssignedTo, setAgentState, setAssignmentStatus,
      setUpdatedAt, meets_bind_assoc, meets_read_bind, meets_write_bind, meets_raise]
    exact hclean
  · intro _ h' hclosed
    refine Meets.bind (Meets.publish henv (fun event => ?_) fun error hclean => hclean)
    exact meets_pure.mpr hclosed

end Runtime
end Ascos
