import Ascos.Library.Lineage
import Ascos.ProjectManager.Manager

/-!
# What holds of every project-manager state

The tasks of a state with their milestones and dependencies, over every run of method calls.  A
task can be created in a milestone of any status, also in a completed one.
-/

namespace Ascos
namespace ProjectManager

open Library
open Ascos.Runtime (Timestamp)

variable {state after : ProjectManagerState} {now : Timestamp}

/-! ## Well-formed states -/

/-- The task with an identifier is `DONE` or `SKIPPED`. -/
def Finished (state : ProjectManagerState) (taskId : String) : Prop :=
  ∃ task, state.task taskId = .ok task ∧ task.status.isFinished = true

/-- The milestone with an identifier is `COMPLETED`. -/
def Completed (state : ProjectManagerState) (milestoneId : String) : Prop :=
  ∃ milestone, state.milestone milestoneId = .ok milestone ∧ milestone.status = .completed

/-- The task has been worked on. -/
def Task.Progressed (task : Task) : Prop :=
  task.status = .inProgress ∨ task.status = .done ∨ task.startedAt ≠ none

/-- What holds of the tasks and the milestones of every state. -/
structure WellFormed (state : ProjectManagerState) : Prop where
  tasks : (state.tasks.map (·.taskId)).Nodup
  milestones : (state.milestones.map (·.milestoneId)).Nodup
  partition : (state.milestones.flatMap (·.taskIds)).Perm (state.tasks.map (·.taskId))
  taskOrder : Keyed.Ordered (·.taskId) (·.dependencies) state.tasks
  milestoneOrder : Keyed.Ordered (·.milestoneId) (·.dependencies) state.milestones
  progressed : ∀ task ∈ state.tasks, task.Progressed →
    ∀ dependency ∈ task.dependencies, Finished state dependency
  active : ∀ milestone ∈ state.milestones,
    milestone.status = .active ↔ state.activeMilestoneId = some milestone.milestoneId
  activeFound : ∀ milestoneId, state.activeMilestoneId = some milestoneId →
    milestoneId ∈ state.milestones.map (·.milestoneId)
  unblocked : ∀ milestone ∈ state.milestones, milestone.status ≠ .blocked
  started : ∀ milestone ∈ state.milestones, milestone.status ≠ .notStarted →
    ∀ dependency ∈ milestone.dependencies, Completed state dependency

/-- Every completed milestone has only tasks that are `DONE` or `SKIPPED`. -/
def Closed (state : ProjectManagerState) : Prop :=
  ∀ milestone ∈ state.milestones, milestone.status = .completed →
    ∀ taskId ∈ milestone.taskIds, Finished state taskId

/-! ## What the methods assign -/

theorem requireDependencies_ok_iff {task : Task} :
    requireDependencies state task = .ok () ↔
      ∀ dependency ∈ task.dependencies, Finished state dependency := by
  unfold requireDependencies
  simp only [Checks.bind_ok_iff, Checks.guard_ok_iff, not_not, List.filter_eq_nil_iff,
    Bool.not_eq_true', Bool.not_eq_false]
  constructor
  · rintro ⟨needed, hneeded, hfinished, -⟩ dependency hdependency
    obtain ⟨found, hfound, htask⟩ := Checks.exists_of_mapM_ok hneeded dependency hdependency
    exact ⟨found, htask, hfinished found hfound⟩
  · intro hfinished
    have hfound : ∀ dependency ∈ task.dependencies, ∃ found, state.task dependency = .ok found := by
      intro dependency hdependency
      obtain ⟨found, htask, -⟩ := hfinished dependency hdependency
      exact ⟨found, htask⟩
    obtain ⟨needed, hneeded⟩ := Checks.mapM_ok_of_forall hfound
    refine ⟨needed, hneeded, fun found hmem => ?_, rfl⟩
    obtain ⟨dependency, hdependency, htask⟩ := Checks.exists_of_mem_mapM_ok hneeded found hmem
    obtain ⟨other, hother, hdone⟩ := hfinished dependency hdependency
    cases htask.symm.trans hother
    exact hdone

/-- A transition replaces one task by another one with the same identifier and the same
dependencies, which was not finished before, and which is worked on only if it was before or
its dependencies are met. -/
structure TaskStep (state after : ProjectManagerState) (old new : Task) : Prop where
  found : state.task old.taskId = .ok old
  tasks : after.tasks = Keyed.replaced (·.taskId) new state.tasks
  milestones : after.milestones = state.milestones
  active : after.activeMilestoneId = state.activeMilestoneId
  taskId : new.taskId = old.taskId
  dependencies : new.dependencies = old.dependencies
  metadata : new.metadata = old.metadata
  unfinished : old.status.isFinished = false
  progressed : new.Progressed → old.Progressed ∨
    ∀ dependency ∈ old.dependencies, Finished state dependency

/-- A milestone is replaced by one with the same identifier and the same dependencies. -/
structure MilestoneStep (state after : ProjectManagerState) (old new : Milestone) : Prop where
  found : state.milestone old.milestoneId = .ok old
  milestones : after.milestones = Keyed.replaced (·.milestoneId) new state.milestones
  milestoneId : new.milestoneId = old.milestoneId
  dependencies : new.dependencies = old.dependencies
  metadata : new.metadata = old.metadata

/-- What a method with some metadata as an argument makes of the other records. -/
structure Records (state after : ProjectManagerState) (given : Dict) : Prop where
  schemaVersion : after.schemaVersion = state.schemaVersion
  metadata : after.metadata = state.metadata
  decisions : ∀ decision ∈ after.decisions, decision.metadata = given ∨
    ∃ old ∈ state.decisions, decision.metadata = old.metadata
  notes : ∀ note ∈ after.notes, note.metadata = given ∨
    ∃ old ∈ state.notes, note.metadata = old.metadata
  risks : ∀ risk ∈ after.risks, risk.metadata = given ∨
    ∃ old ∈ state.risks, risk.metadata = old.metadata

theorem Records.of_eq (schemaVersion : after.schemaVersion = state.schemaVersion)
    (metadata : after.metadata = state.metadata) (decisions : after.decisions = state.decisions)
    (notes : after.notes = state.notes) (risks : after.risks = state.risks) (given : Dict) :
    Records state after given where
  schemaVersion := schemaVersion
  metadata := metadata
  decisions decision hmem := .inr ⟨decision, decisions ▸ hmem, rfl⟩
  notes note hmem := .inr ⟨note, notes ▸ hmem, rfl⟩
  risks risk hmem := .inr ⟨risk, risks ▸ hmem, rfl⟩

/-- What a method makes of the milestones and the tasks, the milestone that gets a task, and the
metadata that is an argument. -/
inductive Change (state after : ProjectManagerState) : Option String → Dict → Prop
  | records {given : Dict} (milestones : after.milestones = state.milestones) (tasks : after.tasks = state.tasks)
      (active : after.activeMilestoneId = state.activeMilestoneId)
      (records : Records state after given) : Change state after none given
  | newMilestone (item : Milestone) (milestones : after.milestones = state.milestones ++ [item])
      (tasks : after.tasks = state.tasks)
      (active : after.activeMilestoneId = state.activeMilestoneId)
      (fresh : item.milestoneId ∉ state.milestones.map (·.milestoneId))
      (found : ∀ dependency ∈ item.dependencies,
        dependency ∈ state.milestones.map (·.milestoneId))
      (status : item.status = .notStarted) (taskIds : item.taskIds = [])
      (records : Records state after item.metadata) : Change state after none item.metadata
  | started (old new : Milestone) (step : MilestoneStep state after old new)
      (tasks : after.tasks = state.tasks) (taskIds : new.taskIds = old.taskIds)
      (active : after.activeMilestoneId = some old.milestoneId)
      (idle : state.activeMilestoneId = none) (before : old.status = .notStarted)
      (status : new.status = .active)
      (needed : ∀ dependency ∈ old.dependencies, Completed state dependency)
      (records : Records state after []) : Change state after none []
  | completed (old new : Milestone) (step : MilestoneStep state after old new)
      (tasks : after.tasks = state.tasks) (taskIds : new.taskIds = old.taskIds)
      (active : after.activeMilestoneId = none)
      (before : old.status = .active ∨ old.status = .blocked) (status : new.status = .completed)
      (finished : ∀ taskId ∈ old.taskIds, Finished state taskId)
      (records : Records state after []) : Change state after none []
  | newTask (old new : Milestone) (task : Task) (step : MilestoneStep state after old new)
      (tasks : after.tasks = state.tasks ++ [task])
      (taskIds : new.taskIds = old.taskIds ++ [task.taskId]) (status : new.status = old.status)
      (active : after.activeMilestoneId = state.activeMilestoneId)
      (fresh : task.taskId ∉ state.tasks.map (·.taskId))
      (found : ∀ dependency ∈ task.dependencies, dependency ∈ state.tasks.map (·.taskId))
      (untouched : ¬task.Progressed) (records : Records state after task.metadata) :
      Change state after (some old.milestoneId) task.metadata
  | task (old new : Task) (step : TaskStep state after old new)
      (records : Records state after []) : Change state after none []

theorem Change.others {receiver : Option String} {given : Dict}
    (h : Change state after receiver given) : Records state after given := by
  cases h <;> assumption

/-- Looking a record up by its identifier. -/
theorem any_eq_true_iff {α : Type} {items : List α} {key : α → String} {identifier : String} :
    items.any (fun item => decide (key item = identifier)) = true ↔
      identifier ∈ items.map key := by
  simp

/-- What is looked up under an identifier has it. -/
theorem taskId_of_task {taskId : String} {task : Task} (h : state.task taskId = .ok task) :
    task.taskId = taskId :=
  (Keyed.mem_of_lookup (task_ok_iff.mp h)).2

theorem milestoneId_of_milestone {milestoneId : String} {milestone : Milestone}
    (h : state.milestone milestoneId = .ok milestone) : milestone.milestoneId = milestoneId :=
  (Keyed.mem_of_lookup (milestone_ok_iff.mp h)).2

theorem createMilestone_ok {milestoneId title : String} {goal : Option String}
    {dependencies : List String} {metadata : Dict} {item : Milestone}
    (h : createMilestone milestoneId title goal dependencies metadata now state =
      .ok (item, after)) : Change state after none metadata := by
  unfold createMilestone at h
  simp only [Checks.guard_bind_ok_iff, Checks.bind_ok_iff, Checks.pure_ok_iff, Prod.mk.injEq] at h
  obtain ⟨hfresh, _, hfound, created, hcreated, rfl, rfl⟩ := h
  have hitem := Milestone.new_ok hcreated
  have hmetadata : created.metadata = metadata := by rw [hitem]
  rw [← hmetadata]
  refine .newMilestone created rfl rfl rfl ?_ ?_ (by rw [hitem]) (by rw [hitem])
    (by apply Records.of_eq <;> rfl)
  · rw [hitem]
    exact fun hmem => hfresh (any_eq_true_iff.mpr hmem)
  · intro dependency hdependency
    rw [hitem] at hdependency
    have hchecked := Checks.forM_ok_iff.mp hfound dependency hdependency
    rw [Checks.guard_ok_iff, Bool.not_eq_false] at hchecked
    exact any_eq_true_iff.mp hchecked.1

theorem milestoneStep_of_found {milestoneId : String} {old new : Milestone}
    {fields : MilestoneFields} (hfound : state.milestone milestoneId = .ok old)
    (hnew : Milestone.new fields = .ok new) (hid : fields.milestoneId = old.milestoneId)
    (hdependencies : fields.dependencies = old.dependencies)
    (hmetadata : fields.metadata = old.metadata)
    (hafter : after.milestones = Keyed.replaced (·.milestoneId) new state.milestones) :
    MilestoneStep state after old new where
  found := milestoneId_of_milestone hfound ▸ hfound
  milestones := hafter
  milestoneId := by rw [Milestone.new_ok hnew, hid]
  dependencies := by rw [Milestone.new_ok hnew, hdependencies]
  metadata := by rw [Milestone.new_ok hnew, hmetadata]

theorem startMilestone_ok {milestoneId : String} {item : Milestone}
    (h : startMilestone milestoneId now state = .ok (item, after)) : Change state after none [] := by
  unfold startMilestone at h
  simp only [Checks.guard_bind_ok_iff, Checks.bind_ok_iff, Checks.pure_ok_iff, Prod.mk.injEq] at h
  obtain ⟨old, hfound, hready, _, hneeded, new, hnew, rfl, rfl⟩ := h
  have hfields := Milestone.new_ok hnew
  have hidle : state.activeMilestoneId = none := by
    by_contra hbusy
    exact hready (.inr hbusy)
  have hbefore : old.status = .notStarted := by
    by_contra hstarted
    exact hready (.inl hstarted)
  refine .started old new (milestoneStep_of_found hfound hnew rfl rfl rfl rfl) rfl (by rw [hfields])
    ?_ hidle hbefore (by rw [hfields]) (fun dependency hdependency => ?_)
    (by apply Records.of_eq <;> rfl)
  · rw [milestoneId_of_milestone hfound]
    rfl
  · have hchecked := Checks.forM_ok_iff.mp hneeded dependency hdependency
    simp only [Checks.bind_ok_iff, Checks.guard_ok_iff, not_not] at hchecked
    obtain ⟨needed, hmilestone, hcompleted, -⟩ := hchecked
    exact ⟨needed, hmilestone, hcompleted⟩

theorem completeMilestone_ok {milestoneId : String} {item : Milestone}
    (h : completeMilestone milestoneId now state = .ok (item, after)) : Change state after none [] := by
  unfold completeMilestone at h
  simp only [Checks.guard_bind_ok_iff, Checks.bind_ok_iff, Checks.pure_ok_iff, Prod.mk.injEq,
    not_not, List.filter_eq_nil_iff, Bool.not_eq_true', Bool.not_eq_false] at h
  obtain ⟨old, hfound, hstatus, tasks, htasks, hfinished, new, hnew, rfl, rfl⟩ := h
  have hfields := Milestone.new_ok hnew
  refine .completed old new (milestoneStep_of_found hfound hnew rfl rfl rfl rfl) rfl
    (by rw [hfields]) rfl (by simpa using hstatus) (by rw [hfields]) (fun taskId htaskId => ?_)
    (by apply Records.of_eq <;> rfl)
  obtain ⟨task, htask, hlookup⟩ := Checks.exists_of_mapM_ok htasks taskId htaskId
  exact ⟨task, hlookup, hfinished task htask⟩

theorem createTask_ok {milestoneId taskId title : String} {description : Option String}
    {dependencies : List String} {owner estimatedEffort : Option String} {metadata : Dict}
    {task : Task}
    (h : createTask milestoneId taskId title description dependencies owner estimatedEffort
      metadata now state = .ok (task, after)) :
    Change state after (some milestoneId) metadata := by
  unfold createTask at h
  simp only [Checks.guard_bind_ok_iff, Checks.bind_ok_iff, Checks.pure_ok_iff, Prod.mk.injEq] at h
  obtain ⟨old, hfound, hfresh, _, hneeded, created, hcreated, new, hnew, rfl, rfl⟩ := h
  have htask := Task.new_ok hcreated
  have hfields := Milestone.new_ok hnew
  have hmetadata : created.metadata = metadata := by rw [htask]
  rw [← milestoneId_of_milestone hfound, ← hmetadata]
  refine .newTask old new created (milestoneStep_of_found hfound hnew rfl rfl rfl rfl) rfl
    (by rw [hfields, htask]) (by rw [hfields]) rfl ?_ ?_ ?_ (by apply Records.of_eq <;> rfl)
  · rw [htask]
    exact fun hmem => hfresh (any_eq_true_iff.mpr hmem)
  · intro dependency hdependency
    rw [htask] at hdependency
    have hchecked := Checks.forM_ok_iff.mp hneeded dependency hdependency
    rw [Checks.guard_ok_iff, Bool.not_eq_false] at hchecked
    exact any_eq_true_iff.mp hchecked.1
  · unfold Task.Progressed
    rw [htask]
    simp

theorem transition_ok {task new : Task} {changed : TaskFields} {status : TaskStatus}
    {started completed : Bool}
    (h : transition task changed status started completed now state = .ok (new, after)) :
    new.toTaskFields =
        { changed with
          status := status
          updatedAt := now
          startedAt := if started = true ∧ task.startedAt = none then some now else task.startedAt
          completedAt := if completed = true then some now else task.completedAt } ∧
      after = state.withTask new now := by
  unfold transition at h
  simp only [Checks.bind_ok_iff, Checks.pure_ok_iff, Prod.mk.injEq] at h
  obtain ⟨created, hcreated, rfl, rfl⟩ := h
  exact ⟨Task.new_ok hcreated, rfl⟩

theorem taskStep_of_transition {taskId : String} {task new : Task} {changed : TaskFields}
    {status : TaskStatus} {started completed : Bool} (hfound : state.task taskId = .ok task)
    (h : transition task changed status started completed now state = .ok (new, after))
    (hid : changed.taskId = task.taskId) (hdependencies : changed.dependencies = task.dependencies)
    (hmetadata : changed.metadata = task.metadata)
    (hunfinished : task.status.isFinished = false)
    (hprogressed : status = .inProgress ∨ status = .done ∨ started = true ∨
      task.startedAt ≠ none →
        task.Progressed ∨ ∀ dependency ∈ task.dependencies, Finished state dependency) :
    TaskStep state after task new ∧ Records state after [] := by
  obtain ⟨hfields, rfl⟩ := transition_ok h
  refine ⟨⟨taskId_of_task hfound ▸ hfound, rfl, rfl, rfl, by rw [hfields]; exact hid,
    by rw [hfields]; exact hdependencies, by rw [hfields]; exact hmetadata, hunfinished,
    fun hnew => hprogressed ?_⟩, by apply Records.of_eq <;> rfl⟩
  unfold Task.Progressed at hnew
  rw [hfields] at hnew
  rcases hnew with hstatus | hstatus | hstarted
  · exact .inl hstatus
  · exact .inr (.inl hstatus)
  · by_cases hfirst : started = true ∧ task.startedAt = none
    · exact .inr (.inr (.inl hfirst.1))
    · rw [if_neg hfirst] at hstarted
      exact .inr (.inr (.inr hstarted))

theorem startTask_ok {taskId : String} {new : Task}
    (h : startTask taskId now state = .ok (new, after)) :
    ∃ old, TaskStep state after old new ∧ Records state after [] := by
  unfold startTask at h
  simp only [Checks.guard_bind_ok_iff, Checks.bind_ok_iff, not_not] at h
  obtain ⟨old, hfound, hstatus, _, hneeded, htransition⟩ := h
  have hmet := requireDependencies_ok_iff.mp hneeded
  exact ⟨old, taskStep_of_transition hfound htransition rfl rfl rfl (by rw [hstatus]; rfl)
    fun _ => .inr hmet⟩

theorem completeTask_ok {taskId : String} {actualEffort : Option String} {new : Task}
    (h : completeTask taskId actualEffort now state = .ok (new, after)) :
    ∃ old, TaskStep state after old new ∧ Records state after [] := by
  unfold completeTask at h
  simp only [Checks.guard_bind_ok_iff, Checks.bind_ok_iff, not_not] at h
  obtain ⟨old, hfound, hstatus, _, hneeded, htransition⟩ := h
  have hmet := requireDependencies_ok_iff.mp hneeded
  have hunfinished : old.status.isFinished = false := by
    rcases List.mem_pair.mp hstatus with h | h <;> rw [h] <;> rfl
  exact ⟨old, taskStep_of_transition hfound htransition rfl rfl rfl hunfinished fun _ => .inr hmet⟩

theorem blockTask_ok {taskId reason : String} {new : Task}
    (h : blockTask taskId reason now state = .ok (new, after)) :
    ∃ old, TaskStep state after old new ∧ Records state after [] := by
  unfold blockTask at h
  simp only [Checks.guard_bind_ok_iff, Checks.bind_ok_iff, not_not] at h
  obtain ⟨-, old, hfound, hstatus, htransition⟩ := h
  have hunfinished : old.status.isFinished = false := by
    rcases List.mem_pair.mp hstatus with h | h <;> rw [h] <;> rfl
  refine ⟨old, taskStep_of_transition hfound htransition rfl rfl rfl hunfinished ?_⟩
  rintro (h | h | h | hstarted)
  · cases h
  · cases h
  · cases h
  · exact .inl (.inr (.inr hstarted))

theorem unblockTask_ok {taskId : String} {new : Task}
    (h : unblockTask taskId now state = .ok (new, after)) :
    ∃ old, TaskStep state after old new ∧ Records state after [] := by
  unfold unblockTask at h
  simp only [Checks.guard_bind_ok_iff, Checks.bind_ok_iff, not_not] at h
  obtain ⟨old, hfound, hstatus, htransition⟩ := h
  refine ⟨old, taskStep_of_transition hfound htransition rfl rfl rfl (by rw [hstatus]; rfl) ?_⟩
  -- A task goes back to `IN_PROGRESS` only if it had been started.
  by_cases hstarted : old.startedAt = none
  · simp [hstarted]
  · exact fun _ => .inl (.inr (.inr hstarted))

theorem skipTask_ok {taskId : String} {new : Task}
    (h : skipTask taskId now state = .ok (new, after)) :
    ∃ old, TaskStep state after old new ∧ Records state after [] := by
  unfold skipTask at h
  simp only [Checks.guard_bind_ok_iff, Checks.bind_ok_iff, not_not] at h
  obtain ⟨old, hfound, hstatus, htransition⟩ := h
  refine ⟨old, taskStep_of_transition hfound htransition rfl rfl rfl (by rw [hstatus]; rfl) ?_⟩
  rintro (h | h | h | hstarted)
  · cases h
  · cases h
  · cases h
  · exact .inl (.inr (.inr hstarted))

/-- A mapped result comes from a result. -/
theorem of_map_snd_ok {α : Type} {x : Except Error (α × ProjectManagerState)}
    (h : (·.2) <$> x = .ok after) : ∃ item, x = .ok (item, after) := by
  cases x with
  | error error => cases h
  | ok result =>
    cases h
    exact ⟨result.1, rfl⟩

/-- The milestone in which a method creates a task. -/
def Request.receiver : Request → Option String
  | .createTask milestoneId .. => some milestoneId
  | _ => none

/-- The metadata that is an argument of a method. -/
def Request.metadata : Request → Dict
  | .createMilestone _ _ _ _ metadata => metadata
  | .createTask _ _ _ _ _ _ _ metadata => metadata
  | .addDecision decision => decision.metadata
  | .addNote note => note.metadata
  | .addRisk risk => risk.metadata
  | _ => []

theorem change_of_apply {request : Request} (h : request.apply now state = .ok after) :
    Change state after request.receiver request.metadata := by
  cases request with
  | createMilestone milestoneId title goal dependencies metadata =>
    obtain ⟨item, hitem⟩ := of_map_snd_ok h
    exact createMilestone_ok hitem
  | startMilestone milestoneId =>
    obtain ⟨item, hitem⟩ := of_map_snd_ok h
    exact startMilestone_ok hitem
  | completeMilestone milestoneId =>
    obtain ⟨item, hitem⟩ := of_map_snd_ok h
    exact completeMilestone_ok hitem
  | createTask milestoneId taskId title description dependencies owner estimatedEffort metadata =>
    obtain ⟨task, htask⟩ := of_map_snd_ok h
    exact createTask_ok htask
  | startTask taskId =>
    obtain ⟨new, hnew⟩ := of_map_snd_ok h
    obtain ⟨old, hstep, hrecords⟩ := startTask_ok hnew
    exact .task old new hstep hrecords
  | completeTask taskId actualEffort =>
    obtain ⟨new, hnew⟩ := of_map_snd_ok h
    obtain ⟨old, hstep, hrecords⟩ := completeTask_ok hnew
    exact .task old new hstep hrecords
  | blockTask taskId reason =>
    obtain ⟨new, hnew⟩ := of_map_snd_ok h
    obtain ⟨old, hstep, hrecords⟩ := blockTask_ok hnew
    exact .task old new hstep hrecords
  | unblockTask taskId =>
    obtain ⟨new, hnew⟩ := of_map_snd_ok h
    obtain ⟨old, hstep, hrecords⟩ := unblockTask_ok hnew
    exact .task old new hstep hrecords
  | skipTask taskId =>
    obtain ⟨new, hnew⟩ := of_map_snd_ok h
    obtain ⟨old, hstep, hrecords⟩ := skipTask_ok hnew
    exact .task old new hstep hrecords
  | addDecision decision =>
    obtain ⟨item, hitem⟩ := of_map_snd_ok h
    unfold addDecision at hitem
    simp only [Checks.check_ok_iff, Checks.pure_ok_iff, Prod.mk.injEq] at hitem
    obtain ⟨-, -, rfl⟩ := hitem
    refine .records rfl rfl rfl { Records.of_eq rfl rfl rfl rfl rfl _ with decisions := ?_ }
    intro other hmem
    rcases List.mem_append.mp hmem with hold | hnew
    · exact .inr ⟨other, hold, rfl⟩
    · rw [List.mem_singleton] at hnew
      exact .inl (congrArg (·.metadata) hnew)
  | addNote note =>
    obtain ⟨item, hitem⟩ := of_map_snd_ok h
    unfold addNote at hitem
    simp only [Checks.check_ok_iff, Checks.pure_ok_iff, Prod.mk.injEq] at hitem
    obtain ⟨-, -, rfl⟩ := hitem
    refine .records rfl rfl rfl { Records.of_eq rfl rfl rfl rfl rfl _ with notes := ?_ }
    intro other hmem
    rcases List.mem_append.mp hmem with hold | hnew
    · exact .inr ⟨other, hold, rfl⟩
    · rw [List.mem_singleton] at hnew
      exact .inl (congrArg (·.metadata) hnew)
  | addRisk risk =>
    obtain ⟨item, hitem⟩ := of_map_snd_ok h
    unfold addRisk at hitem
    simp only [Checks.check_ok_iff, Checks.pure_ok_iff, Prod.mk.injEq] at hitem
    obtain ⟨-, -, rfl⟩ := hitem
    refine .records rfl rfl rfl { Records.of_eq rfl rfl rfl rfl rfl _ with risks := ?_ }
    intro other hmem
    rcases List.mem_append.mp hmem with hold | hnew
    · exact .inr ⟨other, hold, rfl⟩
    · rw [List.mem_singleton] at hnew
      exact .inl (congrArg (·.metadata) hnew)
  | updateRisk riskId status mitigation severity =>
    obtain ⟨item, hitem⟩ := of_map_snd_ok h
    unfold updateRisk at hitem
    split at hitem
    · cases hitem
    · rename_i old hfound
      cases hitem
      refine .records rfl rfl rfl { Records.of_eq rfl rfl rfl rfl rfl _ with risks := ?_ }
      intro other hmem
      rcases Keyed.mem_replaced_iff.mp hmem with ⟨rfl, -⟩ | ⟨hold, -⟩
      · exact .inr ⟨old, (Keyed.mem_of_lookup hfound).1, rfl⟩
      · exact .inr ⟨other, hold, rfl⟩

/-! ## What stays finished and completed -/

theorem finished_congr (h : after.tasks = state.tasks) {taskId : String} :
    Finished after taskId ↔ Finished state taskId := by
  unfold Finished ProjectManagerState.task
  rw [h]

theorem finished_of_append {task : Task} (h : after.tasks = state.tasks ++ [task])
    {taskId : String} (hfinished : Finished state taskId) : Finished after taskId := by
  obtain ⟨found, hfound, hstatus⟩ := hfinished
  refine ⟨found, ?_, hstatus⟩
  rw [task_ok_iff, h]
  exact Keyed.lookup_append_of_some (task_ok_iff.mp hfound)

theorem TaskStep.finished {old new : Task} (h : TaskStep state after old new) {taskId : String}
    (hfinished : Finished state taskId) : Finished after taskId := by
  obtain ⟨found, hfound, hstatus⟩ := hfinished
  have hne : taskId ≠ new.taskId := by
    rw [h.taskId]
    rintro rfl
    cases hfound.symm.trans h.found
    rw [h.unfinished] at hstatus
    cases hstatus
  refine ⟨found, ?_, hstatus⟩
  rw [task_ok_iff, h.tasks]
  refine (Keyed.lookup_replaced_of_ne ?_).trans (task_ok_iff.mp hfound)
  exact hne

theorem Change.finished {receiver : Option String} {given : Dict}
    (h : Change state after receiver given) {taskId : String}
    (hfinished : Finished state taskId) : Finished after taskId := by
  cases h with
  | records _ tasks => exact (finished_congr tasks).mpr hfinished
  | newMilestone _ _ tasks => exact (finished_congr tasks).mpr hfinished
  | started _ _ _ tasks => exact (finished_congr tasks).mpr hfinished
  | completed _ _ _ tasks => exact (finished_congr tasks).mpr hfinished
  | newTask _ _ _ _ tasks => exact finished_of_append tasks hfinished
  | task _ _ step => exact step.finished hfinished

theorem completed_congr (h : after.milestones = state.milestones) {milestoneId : String} :
    Completed after milestoneId ↔ Completed state milestoneId := by
  unfold Completed ProjectManagerState.milestone
  rw [h]

theorem MilestoneStep.completed {old new : Milestone} (h : MilestoneStep state after old new)
    (hkeeps : old.status = .completed → new.status = .completed) {milestoneId : String}
    (hcompleted : Completed state milestoneId) : Completed after milestoneId := by
  obtain ⟨found, hfound, hstatus⟩ := hcompleted
  by_cases hsame : milestoneId = new.milestoneId
  · subst hsame
    have hold : found = old := by
      rw [h.milestoneId, h.found] at hfound
      exact (Except.ok.inj hfound).symm
    subst hold
    refine ⟨new, ?_, hkeeps hstatus⟩
    rw [milestone_ok_iff, h.milestones]
    exact Keyed.lookup_replaced_self (milestone_ok_iff.mp hfound)
  · refine ⟨found, ?_, hstatus⟩
    rw [milestone_ok_iff, h.milestones]
    refine (Keyed.lookup_replaced_of_ne ?_).trans (milestone_ok_iff.mp hfound)
    exact hsame

theorem Change.completed_mono {receiver : Option String} {given : Dict}
    (h : Change state after receiver given)
    {milestoneId : String}
    (hcompleted : Completed state milestoneId) : Completed after milestoneId := by
  cases h with
  | records milestones => exact (completed_congr milestones).mpr hcompleted
  | newMilestone item milestones =>
    obtain ⟨found, hfound, hstatus⟩ := hcompleted
    refine ⟨found, ?_, hstatus⟩
    rw [milestone_ok_iff, milestones]
    exact Keyed.lookup_append_of_some (milestone_ok_iff.mp hfound)
  | started old new step _ _ _ _ before =>
    refine step.completed (fun hold => ?_) hcompleted
    rw [before] at hold
    cases hold
  | completed old new step _ _ _ _ status => exact step.completed (fun _ => status) hcompleted
  | newTask old new task step _ _ status =>
    exact step.completed (fun hold => status.trans hold) hcompleted
  | task old new step => exact (completed_congr step.milestones).mpr hcompleted

/-! ## Every change keeps the state well formed -/

section Preservation

variable {old new : Milestone} {receiver : Option String} {given : Dict}

theorem MilestoneStep.mem (h : MilestoneStep state after old new) : old ∈ state.milestones :=
  (Keyed.mem_of_lookup (milestone_ok_iff.mp h.found)).1

theorem MilestoneStep.cases (h : MilestoneStep state after old new) {milestone : Milestone}
    (hmem : milestone ∈ after.milestones) :
    milestone = new ∨ (milestone ∈ state.milestones ∧ milestone.milestoneId ≠ old.milestoneId) := by
  rw [h.milestones, Keyed.mem_replaced_iff, h.milestoneId] at hmem
  rcases hmem with ⟨hnew, -⟩ | hother
  · exact .inl hnew
  · exact .inr hother

theorem MilestoneStep.keys (h : MilestoneStep state after old new) :
    after.milestones.map (·.milestoneId) = state.milestones.map (·.milestoneId) := by
  rw [h.milestones, Keyed.map_key_replaced]

theorem MilestoneStep.order (h : MilestoneStep state after old new) (hstate : WellFormed state) :
    Keyed.Ordered (·.milestoneId) (·.dependencies) after.milestones := by
  rw [h.milestones]
  refine hstate.milestoneOrder.replaced fun other hother hkey => ?_
  rw [h.milestoneId] at hkey
  rw [h.dependencies, Keyed.eq_of_key_eq hstate.milestones hother h.mem hkey]

theorem MilestoneStep.partition (h : MilestoneStep state after old new)
    (hstate : WellFormed state) (extra : List String) (htaskIds : new.taskIds = old.taskIds ++ extra) :
    (after.milestones.flatMap (·.taskIds)).Perm
      (state.tasks.map (·.taskId) ++ extra) := by
  have hpart : new.taskIds.Perm (old.taskIds ++ extra) := by rw [htaskIds]
  have hparts : (after.milestones.flatMap (·.taskIds)).Perm
      (state.milestones.flatMap (·.taskIds) ++ extra) := by
    rw [h.milestones]
    exact Keyed.flatMap_replaced_perm hstate.milestones h.mem h.milestoneId.symm hpart
  exact hparts.trans (hstate.partition.append_right extra)

theorem progressed_of_tasks (hstate : WellFormed state) (h : Change state after receiver given)
    (htasks : after.tasks = state.tasks) :
    ∀ task ∈ after.tasks, task.Progressed →
      ∀ dependency ∈ task.dependencies, Finished after dependency := by
  intro task htask hprogressed dependency hdependency
  rw [htasks] at htask
  exact h.finished (hstate.progressed task htask hprogressed dependency hdependency)

theorem wellFormed_of_change (hstate : WellFormed state) (h : Change state after receiver given) :
    WellFormed after := by
  have hchange := h
  cases h with
  | records milestones tasks active =>
    have hprogressed := progressed_of_tasks hstate hchange tasks
    constructor
    · rw [tasks]
      exact hstate.tasks
    · rw [milestones]
      exact hstate.milestones
    · rw [milestones, tasks]
      exact hstate.partition
    · rw [tasks]
      exact hstate.taskOrder
    · rw [milestones]
      exact hstate.milestoneOrder
    · exact hprogressed
    · rw [milestones, active]
      exact hstate.active
    · rw [milestones, active]
      exact hstate.activeFound
    · rw [milestones]
      exact hstate.unblocked
    · intro milestone hmem hstarted dependency hdependency
      rw [milestones] at hmem
      exact hchange.completed_mono (hstate.started milestone hmem hstarted dependency hdependency)
  | newMilestone item milestones tasks active fresh found status taskIds =>
    have hprogressed := progressed_of_tasks hstate hchange tasks
    constructor
    · rw [tasks]
      exact hstate.tasks
    · rw [milestones]
      exact Keyed.nodup_append_singleton hstate.milestones fresh
    · rw [milestones, tasks, List.flatMap_append, List.flatMap_singleton, taskIds,
        List.append_nil]
      exact hstate.partition
    · rw [tasks]
      exact hstate.taskOrder
    · rw [milestones]
      exact .snoc hstate.milestoneOrder found
    · exact hprogressed
    · intro milestone hmem
      rw [milestones] at hmem
      rw [active]
      rcases List.mem_append.mp hmem with hold | hnew
      · exact hstate.active milestone hold
      · rw [List.mem_singleton] at hnew
        subst hnew
        refine iff_of_false (by rw [status]; simp) fun hactive => ?_
        exact fresh (hstate.activeFound _ hactive)
    · intro milestoneId hactive
      rw [active] at hactive
      rw [milestones, List.map_append]
      exact List.mem_append_left _ (hstate.activeFound milestoneId hactive)
    · intro milestone hmem
      rw [milestones] at hmem
      rcases List.mem_append.mp hmem with hold | hnew
      · exact hstate.unblocked milestone hold
      · rw [List.mem_singleton] at hnew
        rw [hnew, status]
        simp
    · intro milestone hmem hstarted dependency hdependency
      rw [milestones] at hmem
      rcases List.mem_append.mp hmem with hold | hnew
      · exact hchange.completed_mono
          (hstate.started milestone hold hstarted dependency hdependency)
      · rw [List.mem_singleton] at hnew
        rw [hnew] at hstarted
        exact absurd status hstarted
  | started old new step tasks taskIds active idle before status needed =>
    have hprogressed := progressed_of_tasks hstate hchange tasks
    constructor
    · rw [tasks]
      exact hstate.tasks
    · rw [step.keys]
      exact hstate.milestones
    · simpa [tasks] using step.partition hstate [] (by simpa using taskIds)
    · rw [tasks]
      exact hstate.taskOrder
    · exact step.order hstate
    · exact hprogressed
    · intro milestone hmem
      rw [active]
      rcases step.cases hmem with rfl | ⟨hother, hne⟩
      · simp [status, step.milestoneId]
      · have hidle := hstate.active milestone hother
        rw [idle] at hidle
        simp [hidle, hne.symm]
    · intro milestoneId hactive
      rw [active] at hactive
      cases hactive
      rw [step.keys]
      exact List.mem_map_of_mem step.mem
    · intro milestone hmem
      rcases step.cases hmem with rfl | ⟨hother, -⟩
      · simp [status]
      · exact hstate.unblocked milestone hother
    · intro milestone hmem hstarted dependency hdependency
      rcases step.cases hmem with rfl | ⟨hother, -⟩
      · rw [step.dependencies] at hdependency
        exact hchange.completed_mono (needed dependency hdependency)
      · exact hchange.completed_mono
          (hstate.started milestone hother hstarted dependency hdependency)
  | completed old new step tasks taskIds active before status finished =>
    have hprogressed := progressed_of_tasks hstate hchange tasks
    have hold : old.status = .active := before.resolve_right (hstate.unblocked old step.mem)
    have hactive := (hstate.active old step.mem).mp hold
    constructor
    · rw [tasks]
      exact hstate.tasks
    · rw [step.keys]
      exact hstate.milestones
    · simpa [tasks] using step.partition hstate [] (by simpa using taskIds)
    · rw [tasks]
      exact hstate.taskOrder
    · exact step.order hstate
    · exact hprogressed
    · intro milestone hmem
      rw [active]
      rcases step.cases hmem with rfl | ⟨hother, hne⟩
      · simp [status]
      · have hinactive := hstate.active milestone hother
        rw [hactive] at hinactive
        simp [hinactive, hne.symm]
    · intro milestoneId hnone
      rw [active] at hnone
      cases hnone
    · intro milestone hmem
      rcases step.cases hmem with rfl | ⟨hother, -⟩
      · simp [status]
      · exact hstate.unblocked milestone hother
    · intro milestone hmem hstarted dependency hdependency
      rcases step.cases hmem with rfl | ⟨hother, -⟩
      · rw [step.dependencies] at hdependency
        have hneeded := hstate.started old step.mem (by simp [hold]) dependency hdependency
        exact hchange.completed_mono hneeded
      · exact hchange.completed_mono
          (hstate.started milestone hother hstarted dependency hdependency)
  | newTask old new task step tasks taskIds status active fresh found untouched =>
    constructor
    · rw [tasks]
      exact Keyed.nodup_append_singleton hstate.tasks fresh
    · rw [step.keys]
      exact hstate.milestones
    · rw [tasks, List.map_append]
      exact step.partition hstate [task.taskId] taskIds
    · rw [tasks]
      exact .snoc hstate.taskOrder found
    · exact step.order hstate
    · intro other hmem hprogressed dependency hdependency
      rw [tasks] at hmem
      rcases List.mem_append.mp hmem with hold | hnew
      · exact hchange.finished (hstate.progressed other hold hprogressed dependency hdependency)
      · rw [List.mem_singleton] at hnew
        rw [hnew] at hprogressed
        exact absurd hprogressed untouched
    · intro milestone hmem
      rw [active]
      rcases step.cases hmem with rfl | ⟨hother, -⟩
      · rw [status, step.milestoneId]
        exact hstate.active old step.mem
      · exact hstate.active milestone hother
    · intro milestoneId hactive
      rw [active] at hactive
      rw [step.keys]
      exact hstate.activeFound milestoneId hactive
    · intro milestone hmem
      rcases step.cases hmem with rfl | ⟨hother, -⟩
      · rw [status]
        exact hstate.unblocked old step.mem
      · exact hstate.unblocked milestone hother
    · intro milestone hmem hstarted dependency hdependency
      rcases step.cases hmem with rfl | ⟨hother, -⟩
      · rw [step.dependencies] at hdependency
        rw [status] at hstarted
        exact hchange.completed_mono (hstate.started old step.mem hstarted dependency hdependency)
      · exact hchange.completed_mono
          (hstate.started milestone hother hstarted dependency hdependency)
  | task old new step =>
    have hold : old ∈ state.tasks := (Keyed.mem_of_lookup (task_ok_iff.mp step.found)).1
    have hkeys : after.tasks.map (·.taskId) = state.tasks.map (·.taskId) := by
      rw [step.tasks, Keyed.map_key_replaced]
    constructor
    · rw [hkeys]
      exact hstate.tasks
    · rw [step.milestones]
      exact hstate.milestones
    · rw [step.milestones, hkeys]
      exact hstate.partition
    · rw [step.tasks]
      refine hstate.taskOrder.replaced fun other hother hkey => ?_
      rw [step.taskId] at hkey
      rw [step.dependencies, Keyed.eq_of_key_eq hstate.tasks hother hold hkey]
    · rw [step.milestones]
      exact hstate.milestoneOrder
    · intro task hmem hprogressed dependency hdependency
      rw [step.tasks, Keyed.mem_replaced_iff] at hmem
      rcases hmem with ⟨rfl, -⟩ | ⟨hother, -⟩
      · rw [step.dependencies] at hdependency
        rcases step.progressed hprogressed with hbefore | hmet
        · exact step.finished (hstate.progressed old hold hbefore dependency hdependency)
        · exact step.finished (hmet dependency hdependency)
      · exact step.finished (hstate.progressed task hother hprogressed dependency hdependency)
    · rw [step.milestones, step.active]
      exact hstate.active
    · rw [step.milestones, step.active]
      exact hstate.activeFound
    · rw [step.milestones]
      exact hstate.unblocked
    · intro milestone hmem hstarted dependency hdependency
      rw [step.milestones] at hmem
      exact hchange.completed_mono (hstate.started milestone hmem hstarted dependency hdependency)

theorem closed_of_change (hclosed : Closed state) (h : Change state after receiver given)
    (hopen : ∀ milestoneId, receiver = some milestoneId → ¬Completed state milestoneId) :
    Closed after := by
  have hkept : ∀ milestone ∈ state.milestones, milestone.status = .completed →
      ∀ taskId ∈ milestone.taskIds, Finished after taskId :=
    fun milestone hmem hcompleted taskId htaskId =>
      h.finished (hclosed milestone hmem hcompleted taskId htaskId)
  intro milestone hmem hcompleted taskId htaskId
  cases h with
  | records milestones =>
    rw [milestones] at hmem
    exact hkept milestone hmem hcompleted taskId htaskId
  | newMilestone item milestones tasks active fresh found status =>
    rw [milestones] at hmem
    rcases List.mem_append.mp hmem with hold | hnew
    · exact hkept milestone hold hcompleted taskId htaskId
    · rw [List.mem_singleton] at hnew
      rw [hnew, status] at hcompleted
      cases hcompleted
  | started old new step tasks taskIds active idle before status =>
    rcases step.cases hmem with rfl | ⟨hother, -⟩
    · rw [status] at hcompleted
      cases hcompleted
    · exact hkept milestone hother hcompleted taskId htaskId
  | completed old new step tasks taskIds active before status finished =>
    rcases step.cases hmem with rfl | ⟨hother, -⟩
    · rw [taskIds] at htaskId
      exact (finished_congr tasks).mpr (finished taskId htaskId)
    · exact hkept milestone hother hcompleted taskId htaskId
  | newTask old new task step tasks taskIds status =>
    rcases step.cases hmem with rfl | ⟨hother, -⟩
    · rw [status] at hcompleted
      exact absurd ⟨old, step.found, hcompleted⟩ (hopen old.milestoneId rfl)
    · exact hkept milestone hother hcompleted taskId htaskId
  | task old new step =>
    rw [step.milestones] at hmem
    exact hkept milestone hmem hcompleted taskId htaskId

end Preservation

/-! ## Every call -/

theorem wellFormed_perform (hstate : WellFormed state) (call : Call) :
    WellFormed (perform state call) := by
  rcases perform_cases state call with happly | ⟨-, hsame⟩
  · exact wellFormed_of_change hstate (change_of_apply happly)
  · rw [hsame]
    exact hstate

/-- No task is created in a completed milestone. -/
def Call.KeepsClosed (state : ProjectManagerState) (call : Call) : Prop :=
  ∀ milestoneId, call.request.receiver = some milestoneId → ¬Completed state milestoneId

/-- A call that creates no task in a completed milestone keeps the completed ones closed. -/
theorem closed_perform (hclosed : Closed state) {call : Call} (h : call.KeepsClosed state) :
    Closed (perform state call) := by
  rcases perform_cases state call with happly | ⟨-, hsame⟩
  · exact closed_of_change hclosed (change_of_apply happly) h
  · rw [hsame]
    exact hclosed

/-- A new state has no tasks and no milestones. -/
theorem wellFormed_initial (projectId : String) (metadata : Dict) :
    WellFormed (initialState projectId metadata now) := by
  constructor <;> simp [initialState, Keyed.Ordered.nil]

theorem closed_initial (projectId : String) (metadata : Dict) :
    Closed (initialState projectId metadata now) := by
  intro milestone hmem
  cases hmem

end ProjectManager
end Ascos
