import Ascos.Library.Checks
import Ascos.Library.Program
import Ascos.ProjectManager.Model

/-!
# The project manager

A translation of `runtime/project_manager/manager.py` and `planner.py`.  Every method
computes a new state from the current one and assigns it at its end; a method that raises
before has assigned nothing.
-/

namespace Ascos
namespace ProjectManager

open Library Library.Program
open Ascos.Runtime (Timestamp Message isBlank)

/-! ## Milestones -/

def createMilestone (milestoneId title : String) (goal : Option String)
    (dependencies : List String) (metadata : Dict) (now : Timestamp)
    (state : ProjectManagerState) : Except Error (Milestone × ProjectManagerState) := do
  if state.milestones.any (·.milestoneId = milestoneId) = true then
    throw (.about .duplicateMilestoneError "Milestone " milestoneId " already exists")
  dependencies.forM fun dependency =>
    if state.milestones.any (·.milestoneId = dependency) = false then
      throw (.about .unknownDependencyError "Milestone dependency " dependency " does not exist")
    else pure ()
  let item ← Milestone.new
    { milestoneId
      title
      goal
      dependencies
      createdAt := now
      updatedAt := now
      metadata }
  pure (item, { state with milestones := state.milestones ++ [item], updatedAt := now })

def replaceMilestone (state : ProjectManagerState) (item : Milestone) (now : Timestamp)
    (active : Option String) (projectStatus : Option ProjectManagementStatus) :
    ProjectManagerState :=
  { state with
    milestones := Keyed.replaced (·.milestoneId) item state.milestones
    activeMilestoneId := active
    status := projectStatus.getD state.status
    updatedAt := now }

def startMilestone (milestoneId : String) (now : Timestamp) (state : ProjectManagerState) :
    Except Error (Milestone × ProjectManagerState) := do
  let item ← state.milestone milestoneId
  if item.status ≠ .notStarted ∨ state.activeMilestoneId ≠ none then
    throw (.about .invalidMilestoneTransitionError "Milestone " milestoneId " cannot be started")
  item.dependencies.forM fun dependency => do
    let needed ← state.milestone dependency
    if needed.status ≠ .completed then
      throw (.about .invalidMilestoneTransitionError "Milestone dependency " dependency
        " is incomplete")
  let updated ← Milestone.new
    { item.toMilestoneFields with status := .active, startedAt := some now, updatedAt := now }
  pure (updated, replaceMilestone state updated now (some milestoneId) (some .active))

def completeMilestone (milestoneId : String) (now : Timestamp) (state : ProjectManagerState) :
    Except Error (Milestone × ProjectManagerState) := do
  let item ← state.milestone milestoneId
  if item.status ∉ [.active, .blocked] then
    throw (.about .invalidMilestoneTransitionError "Milestone " milestoneId " is not active")
  let tasks ← item.taskIds.mapM state.task
  let incomplete := tasks.filter fun task => !task.status.isFinished
  if incomplete ≠ [] then
    throw ⟨.incompleteMilestoneError, [.text "Milestone ", .quoted milestoneId,
      .text " has incomplete tasks: "] ++ showIds (incomplete.map (·.taskId))⟩
  let updated ← Milestone.new
    { item.toMilestoneFields with
      status := .completed
      completedAt := some now
      updatedAt := now }
  pure (updated, replaceMilestone state updated now none none)

/-! ## Tasks -/

def createTask (milestoneId taskId title : String) (description : Option String)
    (dependencies : List String) (owner estimatedEffort : Option String) (metadata : Dict)
    (now : Timestamp) (state : ProjectManagerState) :
    Except Error (Task × ProjectManagerState) := do
  let milestone ← state.milestone milestoneId
  if state.tasks.any (·.taskId = taskId) = true then
    throw (.about .duplicateTaskError "Task " taskId " already exists")
  dependencies.forM fun dependency =>
    if state.tasks.any (·.taskId = dependency) = false then
      throw (.about .unknownDependencyError "Task dependency " dependency " does not exist")
    else pure ()
  let task ← Task.new
    { taskId
      title
      description
      dependencies
      owner
      estimatedEffort
      createdAt := now
      updatedAt := now
      metadata }
  let updated ← Milestone.new
    { milestone.toMilestoneFields with
      taskIds := milestone.taskIds ++ [taskId]
      updatedAt := now }
  pure (task,
    { state with
      tasks := state.tasks ++ [task]
      milestones := Keyed.replaced (·.milestoneId) updated state.milestones
      updatedAt := now })

def requireDependencies (state : ProjectManagerState) (task : Task) : Except Error Unit := do
  let needed ← task.dependencies.mapM state.task
  let missing := needed.filter fun needed => !needed.status.isFinished
  if missing ≠ [] then
    throw ⟨.unmetTaskDependenciesError, [.text "Task ", .quoted task.taskId,
      .text " has incomplete dependencies: "] ++ showIds (missing.map (·.taskId))⟩

/-- `AIProjectManager._transition`, with the fields that it changes already changed in the
argument. -/
def transition (task : Task) (changed : TaskFields) (status : TaskStatus)
    (started completed : Bool) (now : Timestamp) (state : ProjectManagerState) :
    Except Error (Task × ProjectManagerState) := do
  let updated ← Task.new
    { changed with
      status := status
      updatedAt := now
      startedAt := if started = true ∧ task.startedAt = none then some now else task.startedAt
      completedAt := if completed = true then some now else task.completedAt }
  pure (updated, state.withTask updated now)

def startTask (taskId : String) (now : Timestamp) (state : ProjectManagerState) :
    Except Error (Task × ProjectManagerState) := do
  let task ← state.task taskId
  if task.status ≠ .todo then
    throw (.about .invalidTaskTransitionError "Task " taskId
      (" cannot be started from " ++ task.status.value))
  requireDependencies state task
  transition task task.toTaskFields .inProgress true false now state

def completeTask (taskId : String) (actualEffort : Option String) (now : Timestamp)
    (state : ProjectManagerState) : Except Error (Task × ProjectManagerState) := do
  let task ← state.task taskId
  if task.status ∉ [.todo, .inProgress] then
    throw (.about .invalidTaskTransitionError "Task " taskId
      (" cannot be completed from " ++ task.status.value))
  requireDependencies state task
  transition task { task.toTaskFields with actualEffort } .done false true now state

def blockTask (taskId reason : String) (now : Timestamp) (state : ProjectManagerState) :
    Except Error (Task × ProjectManagerState) := do
  if isBlank reason = true then
    throw (.validation "A blocker reason is required")
  let task ← state.task taskId
  if task.status ∉ [.todo, .inProgress] then
    throw (.about .invalidTaskTransitionError "Task " taskId " cannot be blocked")
  transition task { task.toTaskFields with blockerReason := some reason } .blocked false false
    now state

def unblockTask (taskId : String) (now : Timestamp) (state : ProjectManagerState) :
    Except Error (Task × ProjectManagerState) := do
  let task ← state.task taskId
  if task.status ≠ .blocked then
    throw (.about .invalidTaskTransitionError "Task " taskId " is not blocked")
  let target : TaskStatus := if task.startedAt ≠ none then .inProgress else .todo
  transition task { task.toTaskFields with blockerReason := none } target false false now state

def skipTask (taskId : String) (now : Timestamp) (state : ProjectManagerState) :
    Except Error (Task × ProjectManagerState) := do
  let task ← state.task taskId
  if task.status ≠ .todo then
    throw (.about .invalidTaskTransitionError "Task " taskId " cannot be skipped")
  transition task task.toTaskFields .skipped false true now state

/-! ## Records -/

/-- The check of `AIProjectManager._append_record`. -/
def uniqueRecord (known : List String) (recordId kind : String) : Except Error Unit :=
  if recordId ∈ known then
    throw (.about .projectManagerError ("Duplicate " ++ kind ++ " ID ") recordId "")
  else pure ()

def addDecision (decision : Decision) (now : Timestamp) (state : ProjectManagerState) :
    Except Error (Decision × ProjectManagerState) := do
  uniqueRecord (state.decisions.map (·.decisionId)) decision.decisionId "decision"
  pure (decision, { state with decisions := state.decisions ++ [decision], updatedAt := now })

def addNote (note : Note) (now : Timestamp) (state : ProjectManagerState) :
    Except Error (Note × ProjectManagerState) := do
  uniqueRecord (state.notes.map (·.noteId)) note.noteId "note"
  pure (note, { state with notes := state.notes ++ [note], updatedAt := now })

def addRisk (risk : Risk) (now : Timestamp) (state : ProjectManagerState) :
    Except Error (Risk × ProjectManagerState) := do
  uniqueRecord (state.risks.map (·.riskId)) risk.riskId "risk"
  pure (risk, { state with risks := state.risks ++ [risk], updatedAt := now })

def updateRisk (riskId : String) (status : Option RiskStatus) (mitigation : Option String)
    (severity : Option RiskSeverity) (now : Timestamp) (state : ProjectManagerState) :
    Except Error (Risk × ProjectManagerState) :=
  match Keyed.lookup (·.riskId) state.risks riskId with
  | none => throw (.about .projectManagerError "Risk " riskId " does not exist")
  | some old =>
    let updated :=
      { old with
        status := status.getD old.status
        severity := severity.getD old.severity
        mitigation := if mitigation ≠ none then mitigation else old.mitigation }
    pure (updated,
      { state with risks := Keyed.replaced (·.riskId) updated state.risks, updatedAt := now })

/-! ## Method calls -/

/-- A method with its arguments. -/
inductive Request where
  | createMilestone (milestoneId title : String) (goal : Option String)
      (dependencies : List String) (metadata : Dict)
  | startMilestone (milestoneId : String)
  | completeMilestone (milestoneId : String)
  | createTask (milestoneId taskId title : String) (description : Option String)
      (dependencies : List String) (owner estimatedEffort : Option String) (metadata : Dict)
  | startTask (taskId : String)
  | completeTask (taskId : String) (actualEffort : Option String)
  | blockTask (taskId reason : String)
  | unblockTask (taskId : String)
  | skipTask (taskId : String)
  | addDecision (decision : Decision)
  | addNote (note : Note)
  | addRisk (risk : Risk)
  | updateRisk (riskId : String) (status : Option RiskStatus) (mitigation : Option String)
      (severity : Option RiskSeverity)

/-- The state that a method assigns. -/
def Request.apply (request : Request) (now : Timestamp) (state : ProjectManagerState) :
    Except Error ProjectManagerState :=
  match request with
  | .createMilestone milestoneId title goal dependencies metadata =>
    (·.2) <$> ProjectManager.createMilestone milestoneId title goal dependencies metadata now
      state
  | .startMilestone milestoneId => (·.2) <$> ProjectManager.startMilestone milestoneId now state
  | .completeMilestone milestoneId =>
    (·.2) <$> ProjectManager.completeMilestone milestoneId now state
  | .createTask milestoneId taskId title description dependencies owner estimatedEffort metadata =>
    (·.2) <$> ProjectManager.createTask milestoneId taskId title description dependencies owner
      estimatedEffort metadata now state
  | .startTask taskId => (·.2) <$> ProjectManager.startTask taskId now state
  | .completeTask taskId actualEffort =>
    (·.2) <$> ProjectManager.completeTask taskId actualEffort now state
  | .blockTask taskId reason => (·.2) <$> ProjectManager.blockTask taskId reason now state
  | .unblockTask taskId => (·.2) <$> ProjectManager.unblockTask taskId now state
  | .skipTask taskId => (·.2) <$> ProjectManager.skipTask taskId now state
  | .addDecision decision => (·.2) <$> ProjectManager.addDecision decision now state
  | .addNote note => (·.2) <$> ProjectManager.addNote note now state
  | .addRisk risk => (·.2) <$> ProjectManager.addRisk risk now state
  | .updateRisk riskId status mitigation severity =>
    (·.2) <$> ProjectManager.updateRisk riskId status mitigation severity now state

/-- A method call: the request and the time of the call. -/
structure Call where
  request : Request
  now : Timestamp

/-- A method call on the manager object. -/
def Call.operation (call : Call) : Program ProjectManagerState Error Unit := do
  match call.request.apply call.now (← get) with
  | .ok state => set state
  | .error error => throw error

/-- The state after a call, whether it returns or raises. -/
def perform (state : ProjectManagerState) (call : Call) : ProjectManagerState :=
  (exec call.operation state).2

/-- The state of `AIProjectManager.initialize`. -/
def initialState (projectId : String) (metadata : Dict) (now : Timestamp) :
    ProjectManagerState where
  projectId := projectId
  createdAt := now
  updatedAt := now
  metadata := metadata

/-! ## Planning -/

/-- All of the tasks are `DONE` or `SKIPPED`; the first one that is not ends the search. -/
def allFinished (state : ProjectManagerState) : List String → Except Error Bool
  | [] => pure true
  | dependency :: dependencies => do
    let task ← state.task dependency
    if task.status.isFinished = true then allFinished state dependencies else pure false

/-- The body of the loop of `next_tasks`. -/
def selected (state : ProjectManagerState) (taskId : String) : Except Error (Option Task) := do
  let task ← state.task taskId
  if task.status ≠ .todo then
    pure none
  else
    let ready ← allFinished state task.dependencies
    pure (if ready = true then some task else none)

def nextTasks (state : ProjectManagerState) : Except Error (List Task) :=
  match state.activeMilestoneId with
  | none => pure []
  | some milestoneId => do
    let milestone ← state.milestone milestoneId
    let tasks ← milestone.taskIds.mapM (selected state)
    pure (tasks.filterMap id)

/-! ## Small facts -/

/-- A call assigns the state of its method, or nothing. -/
theorem perform_cases (state : ProjectManagerState) (call : Call) :
    call.request.apply call.now state = .ok (perform state call) ∨
      ((∃ error, call.request.apply call.now state = .error error) ∧
        perform state call = state) := by
  unfold perform Call.operation
  rw [exec_bind, exec_get]
  cases hresult : call.request.apply call.now state with
  | ok updated =>
    simp only [hresult]
    exact .inl rfl
  | error error =>
    simp only [hresult]
    exact .inr ⟨⟨error, rfl⟩, rfl⟩

theorem operation_raisesUnchanged (call : Call) : RaisesUnchanged call.operation := by
  unfold Call.operation
  refine RaisesUnchanged.bind (fun _ => rfl) fun state => ?_
  cases call.request.apply call.now state with
  | ok updated =>
    intro before error after h
    cases h
  | error error => exact .throw error

end ProjectManager
end Ascos
