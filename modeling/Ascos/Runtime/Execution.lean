import Ascos.Runtime.Orchestrator

/-!
# The execution service

A translation of `runtime/execution/service.py` with the executor registry and the
result model it uses.  An executor is any method: it may read and write the objects and
call the services again.  The specifications below are about executors that only answer.
-/

namespace Ascos
namespace Runtime

open Library Library.Action

/-! ## Executors -/

/-- The entries of the caller's context mapping that the service itself reads. -/
structure CallContext where
  correlationId : Option String := none
  causationId : Option String := none

/-- The mapping given to an executor.  The live objects `work_item` and
`agent` are given by their names. -/
structure ExecutionContext where
  callContext : CallContext
  executionId : String
  assignmentId : String
  workItemId : String
  agentId : String
  startedAt : Option Timestamp
  workItem : String × String
  agent : String

/-- `BaseExecutor`; `none` is an answer that is no `ExecutionResult`. -/
structure Executor where
  executorId : String
  supportedRoles : List AgentRole
  supportedCapabilities : List String
  execute : ExecutionContext → Method (Option ExecutionResult)

/-- The executor meets the recorded requirements of the assignment. -/
def Executor.compatible (executor : Executor) (assignment : WorkAssignment) : Bool :=
  assignment.requiredRole.all (fun role => executor.supportedRoles.contains role) &&
    assignment.requiredCapabilities.all fun capabilityId =>
      executor.supportedCapabilities.contains capabilityId

def selectExecutor (executors : List Executor) (assignment : WorkAssignment) :
    Method Executor := do
  failurePoint
  match executors.find? (·.compatible assignment) with
  | some executor => pure executor
  | none => raise ⟨.executorNotFoundError,
      quote "No compatible executor is registered for assignment " assignment.id ""⟩

/-! ## Execution records -/

/-- `ExecutionResult.__post_init__` on a new execution. -/
def newExecution (id assignmentId workItemId agentId : String) : Method ExecutionResult := do
  validateRequiredString id "ExecutionResult.id"
  validateRequiredString assignmentId "ExecutionResult.assignment_id"
  validateRequiredString workItemId "ExecutionResult.work_item_id"
  validateRequiredString agentId "ExecutionResult.agent_id"
  pure { id, assignmentId, workItemId, agentId }

def validateExecutionStatusTransition (currentStatus newStatus : ExecutionStatus) :
    Method Unit :=
  raiseIf (newStatus ∉ currentStatus.transitions)
    ⟨.invalidExecutionStateTransitionError,
      s!"Cannot transition execution from {currentStatus.value} to {newStatus.value}"⟩

/-- `ExecutionResult.mark_running`, on a record that is not filed yet. -/
def markRunning (execution : ExecutionResult) : Method ExecutionResult := do
  validateExecutionStatusTransition execution.status .running
  let startedAt ← now
  pure { execution with status := .running, startedAt := some startedAt }

def markSucceeded (executionId output : String) : Method Unit := do
  validateRequiredString output "ExecutionResult.output"
  let execution ← load (.execution executionId)
  validateExecutionStatusTransition execution.status .succeeded
  let completedAt ← now
  store (.execution executionId)
    { execution with
      status := .succeeded, output := some output, error := none,
      completedAt := some completedAt }

def markFailed (executionId : String) (error : Message) : Method Unit := do
  validateRequiredMessage error "ExecutionResult.error"
  let execution ← load (.execution executionId)
  validateExecutionStatusTransition execution.status .failed
  let completedAt ← now
  store (.execution executionId)
    { execution with
      status := .failed, error := some error, completedAt := some completedAt }

/-- `str(value)` of an optional text. -/
def textOrNone (value : Option Message) : Message :=
  value.getD "None"

def payloadText (value : Option Message) : PayloadValue :=
  match value with
  | some text => .text text
  | none => .null

/-- `value or default` of an optional text, in which the empty text counts as missing. -/
def orDefault (value : Option Message) (default : Message) : Message :=
  match value with
  | some text => if text.isEmpty then default else text
  | none => default

/-- `value or default` of an optional string. -/
def orDefaultString (value : Option String) (default : String) : String :=
  match value with
  | some text => if text = "" then default else text
  | none => default

def validateProviderResult (execution : ExecutionResult) (result : Option ExecutionResult) :
    Method ExecutionResult :=
  match result with
  | none => raise ⟨.validationError, "executor must return an ExecutionResult value"⟩
  | some result => do
    raiseIf (result.id ≠ execution.id ∨ result.assignmentId ≠ execution.assignmentId ∨
        result.workItemId ≠ execution.workItemId ∨ result.agentId ≠ execution.agentId)
      ⟨.validationError, "executor result relationships do not match execution context"⟩
    pure result

/-- `ExecutionService._publish`. -/
def publishExecution (eventType : EventType) (executionId : String) (payload : Payload)
    (context : Option CallContext) : Method Unit := do
  let _ ← publish eventType "EXECUTION" executionId payload
    (context.bind CallContext.correlationId) (context.bind CallContext.causationId)
  pure ()

def getExecution (executionId : String) : Method ExecutionResult := do
  validateRequiredString executionId "execution_id"
  let executions ← load .executions
  raiseIf (executionId ∉ executions)
    ⟨.executionNotFoundError, quote "Execution " executionId " was not found"⟩
  load (.execution executionId)

/-- `self._executions.pop(execution_id, None)`. -/
def popExecution (executionId : String) : Method Unit := do
  let executions ← load .executions
  store .executions (executions.filter (· != executionId))

/-! ## Executing -/

/-- The first `try` of `ExecutionService._execute`: start the item and file the running
execution, or take both back. -/
def startExecution (assignment : WorkAssignment) (workItem : WorkItem)
    (execution : ExecutionResult) (package : WorkPackage) (context : Option CallContext) :
    Method Unit :=
  tryExcept
    (do changeWorkItemState assignment.packageId assignment.workItemId .running
        let running ← markRunning execution
        let executions ← load .executions
        store (.execution execution.id) running
        store .executions (executions ++ [execution.id])
        publishExecution .executionStarted execution.id
          [("assignment_id", assignment.id)] context)
    (fun error => do
      setLifecycleState assignment.packageId assignment.workItemId workItem.lifecycleState
      setUpdatedAt assignment.packageId package.updatedAt
      popExecution execution.id
      raise error)

/-- The body of the second `try` of `ExecutionService._execute`: run the executor and
record what it answers. -/
def runExecutor (executor : Executor) (executionContext : ExecutionContext)
    (assignment : WorkAssignment) (context : Option CallContext) : Method Unit := do
  let executionId := executionContext.executionId
  let answer ← executor.execute executionContext
  let execution ← load (.execution executionId)
  let providerResult ← validateProviderResult execution answer
  if providerResult.status = .failed then
    markFailed executionId (orDefault providerResult.error "Executor reported failure")
    let failed ← load (.execution executionId)
    publishExecution .executionFailed executionId [("error", payloadText failed.error)] context
    raise ⟨.executionFailedError, textOrNone failed.error⟩
  else
    raiseIf (providerResult.status ≠ .succeeded)
      ⟨.validationError, "executor must return SUCCEEDED or FAILED"⟩
    changeWorkItemState assignment.packageId assignment.workItemId .review
    markSucceeded executionId (orDefaultString providerResult.output "Execution succeeded")

/-- The handlers of the second `try` of `ExecutionService._execute`: an error of any other
class is recorded as the failure of the execution. -/
def recordFailure (executionId : String) (assignment : WorkAssignment)
    (runningUpdatedAt : Timestamp) (context : Option CallContext) (error : RuntimeError) :
    Method Unit :=
  if error.isExecutionFailed = true then
    raise error
  else do
    setLifecycleState assignment.packageId assignment.workItemId .running
    setUpdatedAt assignment.packageId runningUpdatedAt
    let execution ← load (.execution executionId)
    if execution.status = .running then
      markFailed executionId
        (if error.message.isEmpty then error.errorClass.name else error.message)
      let failed ← load (.execution executionId)
      publishExecution .executionFailed executionId [("error", payloadText failed.error)]
        context
      raise ⟨.executionFailedError, textOrNone failed.error⟩
    else
      raise ⟨.executionFailedError, textOrNone execution.error⟩

def execute (executors : List Executor) (executionId assignmentId : String)
    (context : Option CallContext) (requiredState : LifecycleState) :
    Method ExecutionResult := do
  validateRequiredString executionId "execution_id"
  validateRequiredString assignmentId "assignment_id"
  let executions ← load .executions
  raiseIf (executionId ∈ executions)
    ⟨.duplicateExecutionError, quote "Execution " executionId " already exists"⟩
  let assignment ← getAssignment assignmentId
  raiseIf (assignment.status ≠ .active)
    ⟨.invalidAssignmentStateTransitionError, "Execution requires an ACTIVE assignment"⟩
  let workItem ← getWorkItem assignment.packageId assignment.workItemId
  raiseIf (workItem.lifecycleState ≠ requiredState)
    ⟨.invalidExecutionStateTransitionError,
      s!"Execution requires work item {requiredState.value}"⟩
  let agent ← getAgent assignment.agentId
  let executor ← selectExecutor executors assignment
  let execution ← newExecution executionId assignment.id workItem.id agent.id
  let package ← getWorkPackage assignment.packageId
  startExecution assignment workItem execution package context
  let runningPackage ← load (.workPackage assignment.packageId)
  let running ← load (.execution execution.id)
  let executionContext : ExecutionContext :=
    { callContext := context.getD {}
      executionId := execution.id
      assignmentId := assignment.id
      workItemId := workItem.id
      agentId := agent.id
      startedAt := running.startedAt
      workItem := (assignment.packageId, assignment.workItemId)
      agent := assignment.agentId }
  tryExcept (runExecutor executor executionContext assignment context)
    (recordFailure execution.id assignment runningPackage.updatedAt context)
  let succeeded ← load (.execution execution.id)
  publishExecution .executionSucceeded execution.id
    [("output", payloadText (succeeded.output.map fun output => output))] context
  load (.execution execution.id)

def executeAssignment (executors : List Executor) (executionId assignmentId : String)
    (context : Option CallContext := none) : Method ExecutionResult :=
  atomicDomainOperation (execute executors executionId assignmentId context .assigned)

def executeCorrection (executors : List Executor) (executionId assignmentId : String)
    (context : Option CallContext := none) : Method ExecutionResult :=
  atomicDomainOperation (execute executors executionId assignmentId context .rejected)

/-- `ExecutionService.cancel_execution` with `ExecutionResult.cancel`. -/
def cancelExecution (executionId : String) : Method ExecutionResult :=
  atomicDomainOperation do
    let execution ← getExecution executionId
    validateExecutionStatusTransition execution.status .cancelled
    let completedAt ← now
    store (.execution executionId)
      { execution with status := .cancelled, completedAt := some completedAt }
    publishExecution .executionCancelled execution.id [] none
    load (.execution executionId)

/-! ## Specifications -/

variable {α : Type} {env : Environment} {h : State} {Q : α → State → Prop}
  {E : RuntimeError → State → Prop}

/-- Which execution of which assignment a record is. -/
def ExecutionResult.names (execution : ExecutionResult) : String × String :=
  (execution.id, execution.assignmentId)

/-- The executor changes no object, so it calls none of the services. -/
def Executor.Passive (env : Environment) (executor : Executor) : Prop :=
  ∀ context h, Meets env (executor.execute context) h (fun _ h' => h = h') fun _ h' => h = h'

/-- The executor raises no `ExecutionFailedError` of its own. -/
def Executor.RaisesForeign (env : Environment) (executor : Executor) : Prop :=
  ∀ context h, Meets env (executor.execute context) h (fun _ _ => True) Clean

theorem selectExecutor_spec (henv : env.Sound) {executors : List Executor}
    {assignment : WorkAssignment} :
    Meets env (selectExecutor executors assignment) h
      (fun executor h' => h = h' ∧ executor ∈ executors) Clean := by
  unfold selectExecutor
  refine Meets.failurePoint_bind henv (fun _ hclean => hclean) ?_
  split
  · rename_i executor hfound
    exact meets_pure.mpr ⟨rfl, List.mem_of_find?_eq_some hfound⟩
  · exact meets_raise.mpr rfl

theorem Meets.publishExecution {eventType : EventType} {executionId : String}
    {payload : Payload} {context : Option CallContext} {Q : Unit → State → Prop}
    (henv : env.Sound) (hQ : Q () h)
    (hraise : ∀ error, error.isExecutionFailed = false → E error h) :
    Meets env (publishExecution eventType executionId payload context) h Q E :=
  Meets.bind (Meets.publish henv (fun _ => meets_pure.mpr hQ) hraise)

/-- Recording a failure changes the execution to `FAILED`, from a running one only. -/
theorem Meets.markFailed {executionId : String} {error : Message} {Q : Unit → State → Prop}
    (hraise : ∀ error, error.isExecutionFailed = false → E error h)
    (hQ : ∀ execution : ExecutionResult, execution.status = .failed →
      execution.names = (h (.execution executionId)).names →
      Q () (h.write (.execution executionId) execution)) :
    Meets env (markFailed executionId error) h Q E := by
  unfold Runtime.markFailed validateRequiredMessage validateExecutionStatusTransition
  simp only [meets_raiseIf_bind, meets_read_bind]
  refine ⟨fun _ => hraise _ rfl, fun _ => ⟨fun _ => hraise _ rfl, fun _ => ?_⟩⟩
  refine Meets.now_bind fun completedAt => ?_
  rw [meets_write]
  exact hQ _ rfl rfl

theorem startExecution_spec (henv : env.Sound) {assignment : WorkAssignment}
    {workItem : WorkItem} {execution : ExecutionResult} {package : WorkPackage}
    {context : Option CallContext} :
    Meets env (startExecution assignment workItem execution package context) h
      (fun _ h' => h' .executions = h .executions ++ [execution.id] ∧
        (h' (.execution execution.id)).status = .running ∧
        (h' (.execution execution.id)).names = execution.names ∧
        (h' (.workItem assignment.packageId assignment.workItemId)).lifecycleState = .running ∧
        Touches [.workItem assignment.packageId assignment.workItemId,
          .workPackage assignment.packageId, .execution execution.id, .executions] h h')
      Clean := by
  unfold startExecution
  refine Meets.compensate ?_ ?_
  · refine Meets.seq ((changeWorkItemState_spec henv).mono (fun _ _ hQ => hQ)
      fun _ _ hE => hE.1) ?_
    rintro _ h₁ ⟨-, -, -, hitem₁, hframe₁⟩
    unfold markRunning validateExecutionStatusTransition
    simp only [meets_bind_assoc, meets_raiseIf_bind]
    refine ⟨fun _ => rfl, fun _ => ?_⟩
    refine Meets.now_bind fun startedAt => ?_
    simp only [meets_pure_bind, meets_read_bind, meets_write_bind]
    refine Meets.publishExecution henv ?_ fun _ hclean => hclean
    refine ⟨?_, ?_, ?_, ?_, ?_⟩
    · rw [Heap.write_same, hframe₁ _ (by simp)]
    · rw [Heap.write_of_ne _ _ (by simp), Heap.write_same]
    · rw [Heap.write_of_ne _ _ (by simp), Heap.write_same]
      rfl
    · rw [Heap.write_of_ne _ _ (by simp), Heap.write_of_ne _ _ (by simp), hitem₁]
    · refine (SameOutside.write_iff (by simp) _).mpr ?_
      refine (SameOutside.write_iff (by simp) _).mpr ?_
      exact hframe₁.mono (by simp)
  · intro error h' hclean
    simp only [setLifecycleState, setUpdatedAt, popExecution, meets_bind_assoc,
      meets_read_bind, meets_write_bind, meets_raise]
    exact hclean

/-- How running an executor can be interrupted: by the recorded failure of the execution,
with the item as it was, or by another error while the execution is running or failed. -/
structure Interrupted (executionId packageId workItemId : String) (h : State)
    (error : RuntimeError) (h' : State) : Prop where
  recorded : error.isExecutionFailed = true →
    (h' (.execution executionId)).status = .failed ∧
      h' (.workItem packageId workItemId) = h (.workItem packageId workItemId)
  foreign : error.isExecutionFailed = false →
    (h' (.execution executionId)).status = .running ∨
      (h' (.execution executionId)).status = .failed
  names_eq : (h' (.execution executionId)).names = (h (.execution executionId)).names
  frame : Touches [.workItem packageId workItemId, .workPackage packageId,
    .execution executionId] h h'

theorem Interrupted.of_clean {executionId packageId workItemId : String} {h' : State}
    {error : RuntimeError} (hclean : error.isExecutionFailed = false)
    (hstatus : (h' (.execution executionId)).status = .running ∨
      (h' (.execution executionId)).status = .failed)
    (hnames : (h' (.execution executionId)).names = (h (.execution executionId)).names)
    (hframe : Touches [.workItem packageId workItemId, .workPackage packageId,
      .execution executionId] h h') :
    Interrupted executionId packageId workItemId h error h' where
  recorded hfailed := by
    rw [hclean] at hfailed
    cases hfailed
  foreign _ := hstatus
  names_eq := hnames
  frame := hframe

theorem runExecutor_spec (henv : env.Sound) {executor : Executor}
    (hpassive : executor.Passive env) (hforeign : executor.RaisesForeign env)
    {executionContext : ExecutionContext} {assignment : WorkAssignment}
    {context : Option CallContext}
    (hrunning : (h (.execution executionContext.executionId)).status = .running) :
    Meets env (runExecutor executor executionContext assignment context) h
      (fun _ h' => (h' (.execution executionContext.executionId)).status = .succeeded ∧
        (h' (.execution executionContext.executionId)).names =
          (h (.execution executionContext.executionId)).names ∧
        (h' (.workItem assignment.packageId assignment.workItemId)).lifecycleState = .review ∧
        Touches [.workItem assignment.packageId assignment.workItemId,
          .workPackage assignment.packageId, .execution executionContext.executionId] h h')
      (Interrupted executionContext.executionId assignment.packageId
        assignment.workItemId h) := by
  have hstart : ∀ error : RuntimeError, error.isExecutionFailed = false →
      Interrupted executionContext.executionId assignment.packageId assignment.workItemId h
        error h :=
    fun error hclean => .of_clean hclean (.inl hrunning) rfl (SameOutside.refl _ h)
  unfold runExecutor
  refine Meets.bind (((hpassive executionContext h).and (hforeign executionContext h)).mono
    ?_ ?_)
  · rintro answer _ ⟨rfl, -⟩
    rw [meets_read_bind]
    refine Meets.seq (P := fun _ h' => h = h') ?_ ?_
    · unfold validateProviderResult
      split
      · exact meets_raise.mpr (hstart _ rfl)
      · rw [meets_raiseIf_bind]
        exact ⟨fun _ => hstart _ rfl, fun _ => meets_pure.mpr rfl⟩
    rintro result _ rfl
    rw [meets_ite]
    constructor
    · -- the answer is a failure: it is recorded, published and raised
      intro hfailed
      refine Meets.bind (Meets.markFailed hstart fun failed hstatus hnames => ?_)
      have hframe : Touches [.workItem assignment.packageId assignment.workItemId,
          .workPackage assignment.packageId, .execution executionContext.executionId] h
          (h.write (.execution executionContext.executionId) failed) :=
        (SameOutside.write_iff (by simp) _).mpr (SameOutside.refl _ h)
      rw [meets_read_bind]
      refine Meets.bind (Meets.publishExecution henv (meets_raise.mpr ?_) ?_)
      · refine ⟨fun _ => ⟨by rw [Heap.write_same, hstatus], ?_⟩, fun h => ?_, ?_, hframe⟩
        · rw [Heap.write_of_ne _ _ (by simp)]
        · cases h
        · rw [Heap.write_same, hnames]
      · intro error hclean
        refine .of_clean hclean (.inr ?_) ?_ hframe
        · rw [Heap.write_same, hstatus]
        · rw [Heap.write_same, hnames]
    · -- the answer is no failure: the item goes to review before the success is recorded
      intro hother
      rw [meets_raiseIf_bind]
      refine ⟨fun _ => hstart _ rfl, fun _ => ?_⟩
      refine Meets.bind ((changeWorkItemState_spec henv).mono ?_ ?_)
      · rintro _ h₁ ⟨-, -, -, hitem₁, hframe₁⟩
        have hstatus₁ : (h₁ (.execution executionContext.executionId)).status = .running := by
          rw [hframe₁ _ (by simp), hrunning]
        have hraise₁ : ∀ error : RuntimeError, error.isExecutionFailed = false →
            Interrupted executionContext.executionId assignment.packageId
              assignment.workItemId h error h₁ :=
          fun error hclean => .of_clean hclean (.inl hstatus₁)
            (by rw [hframe₁ _ (by simp)]) (hframe₁.mono (by simp))
        unfold markSucceeded validateRequiredString validateExecutionStatusTransition
        simp only [meets_raiseIf_bind, meets_read_bind]
        refine ⟨fun _ => hraise₁ _ rfl, fun _ => ⟨fun _ => hraise₁ _ rfl, fun _ => ?_⟩⟩
        refine Meets.now_bind fun completedAt => ?_
        rw [meets_write]
        refine ⟨by rw [Heap.write_same], ?_, ?_, ?_⟩
        · rw [Heap.write_same, hframe₁ _ (by simp)]
          rfl
        · rw [Heap.write_of_ne _ _ (by simp), hitem₁]
        · exact (SameOutside.write_iff (by simp) _).mpr (hframe₁.mono (by simp))
      · rintro error h₁ ⟨hclean, hframe₁⟩
        refine .of_clean hclean (.inl ?_) ?_ (hframe₁.mono (by simp))
        · rw [hframe₁ _ (by simp), hrunning]
        · rw [hframe₁ _ (by simp)]
  · rintro error _ ⟨rfl, hclean⟩
    exact hstart error hclean

theorem recordFailure_spec (henv : env.Sound) {executionId : String}
    {assignment : WorkAssignment} {runningUpdatedAt : Timestamp}
    {context : Option CallContext} {error : RuntimeError} {h₀ : State}
    {Q : Unit → State → Prop}
    (hitem : (h₀ (.workItem assignment.packageId assignment.workItemId)).lifecycleState =
      .running)
    (hinterrupted : Interrupted executionId assignment.packageId assignment.workItemId h₀
      error h) :
    Meets env (recordFailure executionId assignment runningUpdatedAt context error) h Q
      (fun raised h' => raised.isExecutionFailed = true →
        (h' (.execution executionId)).status = .failed ∧
        (h' (.execution executionId)).names = (h₀ (.execution executionId)).names ∧
        (h' (.workItem assignment.packageId assignment.workItemId)).lifecycleState = .running ∧
        Touches [.workItem assignment.packageId assignment.workItemId,
          .workPackage assignment.packageId, .execution executionId] h₀ h') := by
  unfold recordFailure
  rw [meets_ite]
  constructor
  · intro hfailed
    rw [meets_raise]
    intro _
    obtain ⟨hstatus, hsame⟩ := hinterrupted.recorded hfailed
    exact ⟨hstatus, hinterrupted.names_eq, by rw [hsame, hitem], hinterrupted.frame⟩
  · intro hclean
    rw [Bool.not_eq_true] at hclean
    unfold setLifecycleState setUpdatedAt
    simp only [meets_bind_assoc, meets_read_bind, meets_write_bind, meets_ite]
    have hframe := hinterrupted.frame
    constructor
    · intro hrunning
      refine Meets.bind (Meets.markFailed ?_ fun failed hstatus hnames => ?_)
      · intro raised hraised hcommits
        rw [hraised] at hcommits
        cases hcommits
      rw [meets_read_bind]
      refine Meets.bind (Meets.publishExecution henv (meets_raise.mpr ?_) ?_)
      · intro _
        refine ⟨by rw [Heap.write_same, hstatus], ?_, ?_, ?_⟩
        · rw [Heap.write_same, hnames, Heap.write_of_ne _ _ (by simp),
            Heap.write_of_ne _ _ (by simp), hinterrupted.names_eq]
        · rw [Heap.write_of_ne _ _ (by simp), Heap.write_of_ne _ _ (by simp), Heap.write_same]
        · refine (SameOutside.write_iff (by simp) _).mpr ?_
          refine (SameOutside.write_iff (by simp) _).mpr ?_
          exact (SameOutside.write_iff (by simp) _).mpr hframe
      · intro raised hraised hcommits
        rw [hraised] at hcommits
        cases hcommits
    · intro hnot
      rw [meets_raise]
      intro _
      have hsame : ∀ (item : WorkItem) (package : WorkPackage),
          ((h.write (.workItem assignment.packageId assignment.workItemId) item).write
            (.workPackage assignment.packageId) package) (.execution executionId) =
            h (.execution executionId) := by
        intro item package
        rw [Heap.write_of_ne _ _ (by simp), Heap.write_of_ne _ _ (by simp)]
      refine ⟨?_, ?_, ?_, ?_⟩
      · rw [hsame] at hnot ⊢
        exact (hinterrupted.foreign hclean).resolve_left hnot
      · rw [hsame, hinterrupted.names_eq]
      · rw [Heap.write_of_ne _ _ (by simp), Heap.write_same]
      · refine (SameOutside.write_iff (by simp) _).mpr ?_
        exact (SameOutside.write_iff (by simp) _).mpr hframe

/-- The state after an execution of an assignment was recorded with a status, the item of
the assignment being in a state.  Besides these, only the objects in `others` may have
changed. -/
structure Executed (executionId assignmentId : String) (status : ExecutionStatus)
    (state : LifecycleState) (others : List Loc) (h h' : State) : Prop where
  fresh : executionId ∉ h .executions
  keys : h' .executions = h .executions ++ [executionId]
  status_eq : (h' (.execution executionId)).status = status
  names_eq : (h' (.execution executionId)).names =
    (executionId, (h (.assignment assignmentId)).id)
  item : (h' (.workItem (h (.assignment assignmentId)).packageId
    (h (.assignment assignmentId)).workItemId)).lifecycleState = state
  frame : Touches (.workItem (h (.assignment assignmentId)).packageId
      (h (.assignment assignmentId)).workItemId ::
    .workPackage (h (.assignment assignmentId)).packageId :: .execution executionId ::
    .executions :: others) h h'

def Answering (env : Environment) (executors : List Executor) : Prop :=
  ∀ executor ∈ executors, executor.Passive env ∧ executor.RaisesForeign env

/-- An execution ends as a recorded success in `REVIEW` or as a recorded failure with
the item `RUNNING`; any other error commits nothing. -/
theorem execute_spec (henv : env.Sound) {executors : List Executor}
    (hanswering : Answering env executors) {executionId assignmentId : String}
    {context : Option CallContext} {requiredState : LifecycleState} :
    Meets env (execute executors executionId assignmentId context requiredState) h
      (fun result h' => result.id = executionId ∧
        Executed executionId assignmentId .succeeded .review [] h h')
      (fun error h' => error.isExecutionFailed = true →
        Executed executionId assignmentId .failed .running [] h h') := by
  have hclean : ∀ (error : RuntimeError) (h' : State), error.isExecutionFailed = false →
      error.isExecutionFailed = true →
        Executed executionId assignmentId .failed .running [] h h' := by
    intro error h' hfalse htrue
    rw [hfalse] at htrue
    cases htrue
  unfold execute validateRequiredString newExecution
  simp only [meets_raiseIf_bind, meets_read_bind]
  refine ⟨fun _ => hclean _ _ rfl, fun _ => ⟨fun _ => hclean _ _ rfl, fun _ =>
    ⟨fun _ => hclean _ _ rfl, fun hfresh => ?_⟩⟩⟩
  refine Meets.getAssignment_bind (fun _ => hclean _ _) fun _ => ?_
  rw [meets_raiseIf_bind]
  refine ⟨fun _ => hclean _ _ rfl, fun _ => ?_⟩
  refine Meets.getWorkItem_bind (fun _ => hclean _ _) fun _ _ => ?_
  rw [meets_raiseIf_bind]
  refine ⟨fun _ => hclean _ _ rfl, fun _ => ?_⟩
  refine Meets.getAgent_bind (fun _ => hclean _ _) fun _ => ?_
  refine Meets.bind ((selectExecutor_spec henv).mono ?_ hclean)
  rintro executor _ ⟨rfl, hmem⟩
  obtain ⟨hpassive, hforeign⟩ := hanswering executor hmem
  simp only [validateRequiredString, meets_bind_assoc, meets_raiseIf_bind, meets_pure_bind]
  refine ⟨fun _ => hclean _ _ rfl, fun _ => ⟨fun _ => hclean _ _ rfl, fun _ =>
    ⟨fun _ => hclean _ _ rfl, fun _ => ⟨fun _ => hclean _ _ rfl, fun _ => ?_⟩⟩⟩⟩
  refine Meets.getWorkPackage_bind (fun _ => hclean _ _) fun _ => ?_
  refine Meets.bind ((startExecution_spec henv).mono ?_ hclean)
  rintro _ h₁ ⟨hkeys₁, hstatus₁, hnames₁, hitem₁, hframe₁⟩
  simp only [meets_read_bind]
  refine Meets.bind (Meets.tryExcept ((runExecutor_spec henv hpassive hforeign hstatus₁).mono
    ?_ ?_))
  · rintro _ h₂ ⟨hstatus₂, hnames₂, hitem₂, hframe₂⟩
    rw [meets_read_bind]
    refine Meets.bind (Meets.publishExecution henv ?_ fun _ => hclean _ _)
    refine meets_read.mpr ⟨congrArg Prod.fst (hnames₂.trans hnames₁), ?_⟩
    exact
      { fresh := hfresh
        keys := by rw [hframe₂ _ (by simp), hkeys₁]
        status_eq := hstatus₂
        names_eq := hnames₂.trans hnames₁
        item := hitem₂
        frame := SameOutside.trans hframe₁ (hframe₂.mono (by simp)) }
  · intro error h₂ hinterrupted
    refine (recordFailure_spec henv hitem₁ hinterrupted).mono (fun _ _ hQ => hQ) ?_
    intro raised h₃ hraised hcommits
    obtain ⟨hstatus₃, hnames₃, hitem₃, hframe₃⟩ := hraised hcommits
    exact
      { fresh := hfresh
        keys := by rw [hframe₃ _ (by simp), hkeys₁]
        status_eq := hstatus₃
        names_eq := hnames₃.trans hnames₁
        item := hitem₃
        frame := SameOutside.trans hframe₁ (hframe₃.mono (by simp)) }

theorem executeAssignment_spec (henv : env.Sound) {executors : List Executor}
    (hanswering : Answering env executors) {executionId assignmentId : String}
    {context : Option CallContext} :
    Meets env (executeAssignment executors executionId assignmentId context) h
      (fun result h' => result.id = executionId ∧
        Executed executionId assignmentId .succeeded .review [] h h')
      (fun error h' => error.isExecutionFailed = true →
        Executed executionId assignmentId .failed .running [] h h') := by
  refine Meets.atomicDomainOperation henv ?_ (execute_spec henv hanswering)
  intro error hclean hcommits
  rw [hclean] at hcommits
  cases hcommits

theorem executeCorrection_spec (henv : env.Sound) {executors : List Executor}
    (hanswering : Answering env executors) {executionId assignmentId : String}
    {context : Option CallContext} :
    Meets env (executeCorrection executors executionId assignmentId context) h
      (fun result h' => result.id = executionId ∧
        Executed executionId assignmentId .succeeded .review [] h h')
      (fun error h' => error.isExecutionFailed = true →
        Executed executionId assignmentId .failed .running [] h h') := by
  refine Meets.atomicDomainOperation henv ?_ (execute_spec henv hanswering)
  intro error hclean hcommits
  rw [hclean] at hcommits
  cases hcommits

end Runtime
end Ascos
