import Ascos.ProjectManager.Invariant
import Ascos.ProjectManager.Storage

/-!
# Every reachable project-manager state

The planner, the stored form and the milestones of the states that method calls reach, from a
new project on.

Main results:

- Theorem `nextTasks_ok`: the planner selects the tasks of the active milestone that can be
  started.
- Theorem `reachable_sound`: what holds in every run, and what holds in the runs that create
  no task in a completed milestone and put no tuple into metadata.
- Theorem `task_in_completed_milestone`: a completed milestone can get a task.
- Theorem `runs_continue`: no run loses a task or opens again what is finished.
-/

namespace Ascos
namespace ProjectManager

open Library Library.Program
open Ascos.Runtime (Timestamp isBlank)

variable {state after : ProjectManagerState} {now : Timestamp}

/-! ## The planner -/

/-- The planner's test of the dependencies of a task. -/
theorem allFinished_ok {dependencies : List String}
    (hfound : ∀ dependency ∈ dependencies, ∃ task, state.task dependency = .ok task) :
    ∃ ready, allFinished state dependencies = .ok ready ∧
      (ready = true ↔ ∀ dependency ∈ dependencies, Finished state dependency) := by
  induction dependencies with
  | nil => exact ⟨true, rfl, by simp⟩
  | cons dependency dependencies ih =>
    obtain ⟨task, htask⟩ := hfound dependency List.mem_cons_self
    obtain ⟨ready, hready, hiff⟩ := ih fun other hother =>
      hfound other (List.mem_cons_of_mem _ hother)
    by_cases hfinished : task.status.isFinished = true
    · refine ⟨ready, ?_, ?_⟩
      · simp only [allFinished, Checks.bind_ok_iff]
        exact ⟨task, htask, by rw [if_pos hfinished, hready]⟩
      · rw [hiff, List.forall_mem_cons]
        exact ⟨fun hrest => ⟨⟨task, htask, hfinished⟩, hrest⟩, fun hall => hall.2⟩
    · refine ⟨false, ?_, ?_⟩
      · simp only [allFinished, Checks.bind_ok_iff]
        exact ⟨task, htask, by rw [if_neg hfinished]; rfl⟩
      · refine iff_of_false (by simp) fun hall => ?_
        obtain ⟨other, hother, hdone⟩ := hall dependency List.mem_cons_self
        cases htask.symm.trans hother
        exact hfinished hdone

/-- The checks of a task that look at its status concern only blocked tasks. -/
theorem postInit_inProgress {task : TaskFields} (h : task.postInit = .ok ())
    (startedAt : Option Timestamp) (completedAt : Option Timestamp) :
    ({ task with
        status := .inProgress
        updatedAt := now
        startedAt
        completedAt } : TaskFields).postInit = .ok () := by
  unfold TaskFields.postInit at h ⊢
  simp only [Checks.check_ok_iff, Checks.guard_bind_ok_iff, Checks.guard_ok_iff] at h ⊢
  obtain ⟨hid, htitle, hself, hunique, -⟩ := h
  exact ⟨hid, htitle, hself, hunique, by simp, rfl⟩

theorem startTask_succeeds_iff {taskId : String} {task : Task}
    (hfound : state.task taskId = .ok task) (now : Timestamp) :
    (∃ result, startTask taskId now state = .ok result) ↔
      task.status = .todo ∧ ∀ dependency ∈ task.dependencies, Finished state dependency := by
  unfold startTask
  simp only [Checks.guard_bind_ok_iff, Checks.bind_ok_iff, not_not]
  constructor
  · rintro ⟨result, found, hlookup, hstatus, _, hneeded, -⟩
    cases hfound.symm.trans hlookup
    exact ⟨hstatus, requireDependencies_ok_iff.mp hneeded⟩
  · rintro ⟨hstatus, hmet⟩
    let fields : TaskFields :=
      { task.toTaskFields with
        status := .inProgress
        updatedAt := now
        startedAt := if true = true ∧ task.startedAt = none then some now else task.startedAt
        completedAt := if false = true then some now else task.completedAt }
    have hchecked : fields.postInit = .ok () := postInit_inProgress task.checked _ _
    have htransition : transition task task.toTaskFields .inProgress true false now state =
        .ok (⟨fields, hchecked⟩, state.withTask ⟨fields, hchecked⟩ now) := by
      have hnew := Task.new_of_postInit hchecked
      unfold transition
      rw [hnew]
      rfl
    exact ⟨_, task, hfound, hstatus, (), requireDependencies_ok_iff.mpr hmet, htransition⟩

/-- A `TODO` task of the active milestone that can be started. -/
structure Startable (state : ProjectManagerState) (task : Task) : Prop where
  listed : ∃ milestone ∈ state.milestones,
    state.activeMilestoneId = some milestone.milestoneId ∧ task.taskId ∈ milestone.taskIds
  found : task ∈ state.tasks
  status : task.status = .todo
  starts : ∀ now, ∃ result, startTask task.taskId now state = .ok result

theorem WellFormed.task (hstate : WellFormed state) {task : Task} (hmem : task ∈ state.tasks) :
    state.task task.taskId = .ok task :=
  task_ok_iff.mpr ((Keyed.lookup_eq_some_iff hstate.tasks).mpr ⟨hmem, rfl⟩)

theorem WellFormed.task_of_id (hstate : WellFormed state) {taskId : String}
    (hmem : taskId ∈ state.tasks.map (·.taskId)) : ∃ task, state.task taskId = .ok task := by
  obtain ⟨task, htask, rfl⟩ := List.mem_map.mp hmem
  exact ⟨task, hstate.task htask⟩

/-- What the planner makes of one task. -/
theorem selected_ok (hstate : WellFormed state) {taskId : String} {task : Task}
    (hfound : state.task taskId = .ok task) :
    ∃ result, selected state taskId = .ok result ∧ ∀ other, result = some other ↔
      other = task ∧ task.status = .todo ∧
        ∀ dependency ∈ task.dependencies, Finished state dependency := by
  have hmem := (Keyed.mem_of_lookup (task_ok_iff.mp hfound)).1
  obtain ⟨ready, hready, hiff⟩ := allFinished_ok fun dependency hdependency =>
    hstate.task_of_id (hstate.taskOrder.found task hmem dependency hdependency)
  by_cases htodo : task.status = .todo
  · refine ⟨if ready = true then some task else none, ?_, fun other => ?_⟩
    · simp only [selected, Checks.bind_ok_iff]
      refine ⟨task, hfound, ?_⟩
      rw [if_neg (not_not.mpr htodo)]
      simp only [Checks.bind_ok_iff]
      exact ⟨ready, hready, rfl⟩
    · rw [← hiff]
      by_cases hyes : ready = true
      · simp [hyes, htodo, eq_comm]
      · simp [hyes]
  · refine ⟨none, ?_, fun other => by simp [htodo]⟩
    simp only [selected, Checks.bind_ok_iff]
    exact ⟨task, hfound, by rw [if_pos htodo]; rfl⟩

theorem nextTasks_ok (hstate : WellFormed state) :
    ∃ tasks, nextTasks state = .ok tasks ∧ ∀ task, task ∈ tasks ↔ Startable state task := by
  unfold nextTasks
  cases hactive : state.activeMilestoneId with
  | none =>
    refine ⟨[], rfl, fun task => iff_of_false (by simp) fun hstartable => ?_⟩
    obtain ⟨milestone, -, hsome, -⟩ := hstartable.listed
    rw [hactive] at hsome
    cases hsome
  | some milestoneId =>
    obtain ⟨milestone, hmilestone, hid⟩ := List.mem_map.mp (hstate.activeFound _ hactive)
    have hlookup : state.milestone milestoneId = .ok milestone :=
      milestone_ok_iff.mpr
        ((Keyed.lookup_eq_some_iff hstate.milestones).mpr ⟨hmilestone, hid⟩)
    have hids : ∀ taskId ∈ milestone.taskIds, ∃ task, state.task taskId = .ok task := by
      intro taskId htaskId
      exact hstate.task_of_id
        (hstate.partition.subset (List.mem_flatMap.mpr ⟨milestone, hmilestone, htaskId⟩))
    have hbodies : ∀ taskId ∈ milestone.taskIds, ∃ result, selected state taskId = .ok result := by
      intro taskId htaskId
      obtain ⟨task, htask⟩ := hids taskId htaskId
      obtain ⟨result, hresult, -⟩ := selected_ok hstate htask
      exact ⟨result, hresult⟩
    obtain ⟨results, hresults⟩ := Checks.mapM_ok_of_forall hbodies
    refine ⟨results.filterMap id, ?_, fun task => ?_⟩
    · simp only [Checks.bind_ok_iff]
      exact ⟨milestone, hlookup, results, hresults, rfl⟩
    · rw [List.mem_filterMap]
      constructor
      · rintro ⟨result, hmem, hsome⟩
        obtain ⟨taskId, htaskId, hbody⟩ := Checks.exists_of_mem_mapM_ok hresults result hmem
        obtain ⟨found, hfound⟩ := hids taskId htaskId
        obtain ⟨other, hother, hiff⟩ := selected_ok hstate hfound
        cases hbody.symm.trans hother
        obtain ⟨rfl, htodo, hmet⟩ := (hiff task).mp hsome
        have htask := Keyed.mem_of_lookup (task_ok_iff.mp hfound)
        have hstarts := startTask_succeeds_iff (hstate.task htask.1)
        exact ⟨⟨milestone, hmilestone, hid ▸ hactive, htask.2.symm ▸ htaskId⟩, htask.1, htodo,
          fun now => (hstarts now).mpr ⟨htodo, hmet⟩⟩
      · intro hstartable
        obtain ⟨other, hother, hactive', htaskId⟩ := hstartable.listed
        have hsame : other = milestone := by
          refine Keyed.eq_of_key_eq hstate.milestones hother hmilestone ?_
          rw [hactive] at hactive'
          exact (Option.some.inj hactive').symm.trans hid.symm
        subst hsame
        have hfound := hstate.task hstartable.found
        obtain ⟨result, hmem, hbody⟩ := Checks.exists_of_mapM_ok hresults _ htaskId
        obtain ⟨other', hother', hiff⟩ := selected_ok hstate hfound
        cases hbody.symm.trans hother'
        have hmet := (startTask_succeeds_iff hfound 0).mp (hstartable.starts 0)
        exact ⟨result, hmem, (hiff task).mpr ⟨rfl, hmet⟩⟩

/-! ## Metadata without tuples -/

/-- A record keeps its metadata, or has the one that is an argument. -/
theorem plain_of_cases {α : Type} {metadata : α → Dict} {items : List α} {given : Dict}
    {item : α} (hitems : ∀ old ∈ items, Value.haveOnlyPlain (metadata old) = true)
    (hgiven : Value.haveOnlyPlain given = true)
    (h : metadata item = given ∨ ∃ old ∈ items, metadata item = metadata old) :
    Value.haveOnlyPlain (metadata item) = true := by
  rcases h with hnew | ⟨old, hold, hsame⟩
  · rw [hnew]
    exact hgiven
  · rw [hsame]
    exact hitems old hold

theorem milestones_plain_of_step {old new : Milestone} (hplain : state.Plain)
    (hstep : MilestoneStep state after old new) :
    ∀ milestone ∈ after.milestones, Value.haveOnlyPlain milestone.metadata = true := by
  intro milestone hmem
  rcases hstep.cases hmem with rfl | ⟨hother, -⟩
  · rw [hstep.metadata]
    exact hplain.milestones old hstep.mem
  · exact hplain.milestones milestone hother

/-- A change keeps the metadata of a state without tuples, if its argument has none. -/
theorem plain_of_change {receiver : Option String} {given : Dict} (hplain : state.Plain)
    (hgiven : Value.haveOnlyPlain given = true) (h : Change state after receiver given) :
    after.Plain := by
  have hrecords := h.others
  have hdecisions := fun decision hmem =>
    plain_of_cases hplain.decisions hgiven (hrecords.decisions decision hmem)
  have hnotes := fun note hmem => plain_of_cases hplain.notes hgiven (hrecords.notes note hmem)
  have hrisks := fun risk hmem => plain_of_cases hplain.risks hgiven (hrecords.risks risk hmem)
  have hmetadata : Value.haveOnlyPlain after.metadata = true := by
    rw [hrecords.metadata]
    exact hplain.metadata
  cases h with
  | records milestones tasks =>
    exact ⟨milestones ▸ hplain.milestones, tasks ▸ hplain.tasks, hdecisions, hnotes, hrisks,
      hmetadata⟩
  | newMilestone item milestones tasks =>
    refine ⟨fun milestone hmem => ?_, tasks ▸ hplain.tasks, hdecisions, hnotes, hrisks, hmetadata⟩
    rw [milestones] at hmem
    rcases List.mem_append.mp hmem with hold | hnew
    · exact hplain.milestones milestone hold
    · rw [List.mem_singleton] at hnew
      rw [hnew]
      exact hgiven
  | started old new step tasks =>
    exact ⟨milestones_plain_of_step hplain step, tasks ▸ hplain.tasks, hdecisions, hnotes, hrisks,
      hmetadata⟩
  | completed old new step tasks =>
    exact ⟨milestones_plain_of_step hplain step, tasks ▸ hplain.tasks, hdecisions, hnotes, hrisks,
      hmetadata⟩
  | newTask old new task step tasks =>
    refine ⟨milestones_plain_of_step hplain step, fun other hmem => ?_, hdecisions, hnotes, hrisks,
      hmetadata⟩
    rw [tasks] at hmem
    rcases List.mem_append.mp hmem with hold | hnew
    · exact hplain.tasks other hold
    · rw [List.mem_singleton] at hnew
      rw [hnew]
      exact hgiven
  | task old new step =>
    refine ⟨step.milestones ▸ hplain.milestones, fun other hmem => ?_, hdecisions, hnotes, hrisks,
      hmetadata⟩
    rw [step.tasks] at hmem
    rcases Keyed.mem_replaced_iff.mp hmem with ⟨rfl, -⟩ | ⟨hother, -⟩
    · rw [step.metadata]
      exact hplain.tasks old (Keyed.mem_of_lookup (task_ok_iff.mp step.found)).1
    · exact hplain.tasks other hother

/-- The metadata that is an argument of the call has no tuple in it. -/
def Call.Plain (call : Call) : Prop :=
  Value.haveOnlyPlain call.request.metadata = true

theorem plain_perform (hplain : state.Plain) {call : Call} (h : call.Plain) :
    (perform state call).Plain := by
  rcases perform_cases state call with happly | ⟨-, hsame⟩
  · exact plain_of_change hplain h (change_of_apply happly)
  · rw [hsame]
    exact hplain

theorem schemaVersion_perform (state : ProjectManagerState) (call : Call) :
    (perform state call).schemaVersion = state.schemaVersion := by
  rcases perform_cases state call with happly | ⟨-, hsame⟩
  · exact (change_of_apply happly).others.schemaVersion
  · rw [hsame]

/-! ## What holds in every reachable state -/

/-- What holds in every run. -/
structure Sound (state : ProjectManagerState) : Prop where
  taskIds : (state.tasks.map (·.taskId)).Nodup
  milestoneIds : (state.milestones.map (·.milestoneId)).Nodup
  partition : (state.milestones.flatMap (·.taskIds)).Perm (state.tasks.map (·.taskId))
  taskDependencies : ∀ task ∈ state.tasks, ∀ dependency ∈ task.dependencies,
    dependency ∈ state.tasks.map (·.taskId)
  tasksAcyclic : ∀ taskId, ¬Relation.TransGen
    (Keyed.Needs (·.taskId) (·.dependencies) state.tasks) taskId taskId
  milestoneDependencies : ∀ milestone ∈ state.milestones,
    ∀ dependency ∈ milestone.dependencies, dependency ∈ state.milestones.map (·.milestoneId)
  milestonesAcyclic : ∀ milestoneId, ¬Relation.TransGen
    (Keyed.Needs (·.milestoneId) (·.dependencies) state.milestones) milestoneId milestoneId
  progressed : ∀ task ∈ state.tasks, task.status = .inProgress ∨ task.status = .done →
    ∀ dependency ∈ task.dependencies, Finished state dependency
  oneActive : ∀ first ∈ state.milestones, ∀ second ∈ state.milestones,
    first.status = .active → second.status = .active → first = second
  active : ∀ milestone ∈ state.milestones,
    milestone.status = .active ↔ state.activeMilestoneId = some milestone.milestoneId
  completedNeeds : ∀ milestone ∈ state.milestones, milestone.status = .completed →
    ∀ dependency ∈ milestone.dependencies, Completed state dependency
  next : ∃ tasks, nextTasks state = .ok tasks ∧ ∀ task, task ∈ tasks ↔ Startable state task

theorem sound_of_wellFormed (h : WellFormed state) : Sound state where
  taskIds := h.tasks
  milestoneIds := h.milestones
  partition := h.partition
  taskDependencies := h.taskOrder.found
  tasksAcyclic := h.taskOrder.acyclic h.tasks
  milestoneDependencies := h.milestoneOrder.found
  milestonesAcyclic := h.milestoneOrder.acyclic h.milestones
  progressed task hmem hstatus := by
    refine h.progressed task hmem ?_
    rcases hstatus with hstatus | hstatus
    · exact .inl hstatus
    · exact .inr (.inl hstatus)
  oneActive first hfirst second hsecond hone hother := by
    have hfirstId := (h.active first hfirst).mp hone
    have hsecondId := (h.active second hsecond).mp hother
    refine Keyed.eq_of_key_eq h.milestones hfirst hsecond ?_
    exact Option.some.inj (hfirstId.symm.trans hsecondId)
  active := h.active
  completedNeeds milestone hmem hcompleted :=
    h.started milestone hmem (by rw [hcompleted]; simp)
  next := nextTasks_ok h

/-- A call that creates no task in a completed milestone and puts no tuple into metadata. -/
structure Call.Careful (state : ProjectManagerState) (call : Call) : Prop where
  closed : call.KeepsClosed state
  plain : call.Plain

/-- The text of the first instant. -/
def exampleEpoch : String :=
  "1970-01-01T00:00:00+00:00"

theorem ofList_ne_epoch {first : Char} (h : first ≠ '1') (digits : List Char) :
    String.ofList (first :: digits) ≠ exampleEpoch := by
  intro hsame
  have hlist := congrArg (fun text : String => text.toList.head?) hsame
  have hepoch : exampleEpoch.toList.head? = some '1' := by decide
  rw [hepoch] at hlist
  simp at hlist
  exact h hlist

/-- A clock that writes the first instant as the standard library does, and every other one with
as many digits as it needs. -/
def exampleClock : Clock where
  isoformat time :=
    if time = 0 then exampleEpoch
    else if time < 0 then String.ofList ('-' :: List.replicate time.natAbs '1')
    else String.ofList ('+' :: List.replicate time.natAbs '1')
  fromisoformat text :=
    if text = exampleEpoch then some 0
    else match text.toList with
      | '-' :: digits => some (-(digits.length : Int))
      | '+' :: digits => some (digits.length : Int)
      | _ => none
  isoformat_ne time := by
    split
    · decide
    · split <;> simp
  fromisoformat_isoformat time := by
    have hbefore : ∀ n : Int, n < 0 → -(n.natAbs : Int) = n := fun n h => by omega
    have hafter : ∀ n : Int, ¬n < 0 → (n.natAbs : Int) = n := fun n h => by omega
    by_cases hzero : time = 0
    · simp [hzero]
    · by_cases hneg : time < 0
      · rw [if_neg hzero, if_pos hneg, if_neg (ofList_ne_epoch (by decide) _)]
        simp only [String.toList_ofList, List.length_replicate, Option.some.injEq]
        exact hbefore time hneg
      · rw [if_neg hzero, if_neg hneg, if_neg (ofList_ne_epoch (by decide) _)]
        simp only [String.toList_ofList, List.length_replicate, Option.some.injEq]
        exact hafter time hneg

/-- A milestone is created, started and completed. -/
def milestoneCalls : List Call :=
  [⟨.createMilestone "milestone" "Milestone" none [] [], 0⟩,
    ⟨.startMilestone "milestone", 0⟩,
    ⟨.createTask "milestone" "first" "First" none [] none none [("tags", .list [.str "a"])], 0⟩,
    ⟨.completeTask "first" none, 0⟩,
    ⟨.completeMilestone "milestone", 0⟩]

/-- A later state has the identifiers of an earlier one first, in their order, and what was
finished or completed still is. -/
structure Continues (state after : ProjectManagerState) : Prop where
  tasks : state.tasks.map (·.taskId) <+: after.tasks.map (·.taskId)
  milestones : state.milestones.map (·.milestoneId) <+: after.milestones.map (·.milestoneId)
  finished : ∀ taskId, Finished state taskId → Finished after taskId
  completed : ∀ milestoneId, Completed state milestoneId → Completed after milestoneId

instance : IsTrans ProjectManagerState Continues where
  trans _ _ _ h h' :=
    { tasks := h.tasks.trans h'.tasks
      milestones := h.milestones.trans h'.milestones
      finished := fun taskId hfinished => h'.finished taskId (h.finished taskId hfinished)
      completed := fun id hcompleted => h'.completed id (h.completed id hcompleted) }

theorem Change.tasks {receiver : Option String} {given : Dict}
    (h : Change state after receiver given) :
    state.tasks.map (·.taskId) <+: after.tasks.map (·.taskId) := by
  cases h with
  | records _ tasks => exact ⟨[], by rw [tasks, List.append_nil]⟩
  | newMilestone _ _ tasks => exact ⟨[], by rw [tasks, List.append_nil]⟩
  | started _ _ _ tasks => exact ⟨[], by rw [tasks, List.append_nil]⟩
  | completed _ _ _ tasks => exact ⟨[], by rw [tasks, List.append_nil]⟩
  | newTask _ _ task _ tasks =>
    rw [tasks, List.map_append]
    exact List.prefix_append ..
  | task _ _ step => exact ⟨[], by rw [step.tasks, Keyed.map_key_replaced, List.append_nil]⟩

theorem Change.milestones {receiver : Option String} {given : Dict}
    (h : Change state after receiver given) :
    state.milestones.map (·.milestoneId) <+: after.milestones.map (·.milestoneId) := by
  cases h with
  | records milestones => exact ⟨[], by rw [milestones, List.append_nil]⟩
  | newMilestone _ milestones =>
    rw [milestones, List.map_append]
    exact List.prefix_append ..
  | started _ _ step => exact ⟨[], by rw [step.keys, List.append_nil]⟩
  | completed _ _ step => exact ⟨[], by rw [step.keys, List.append_nil]⟩
  | newTask _ _ _ step => exact ⟨[], by rw [step.keys, List.append_nil]⟩
  | task _ _ step => exact ⟨[], by rw [step.milestones, List.append_nil]⟩

theorem continues_perform (state : ProjectManagerState) (call : Call) :
    Continues state (perform state call) := by
  rcases perform_cases state call with happly | ⟨-, hsame⟩
  · have hchange := change_of_apply happly
    exact ⟨hchange.tasks, hchange.milestones, fun _ => hchange.finished,
      fun _ => hchange.completed_mono⟩
  · rw [hsame]
    exact ⟨List.prefix_rfl, List.prefix_rfl, fun _ h => h, fun _ h => h⟩

/-- In every run, of calls that return or raise, no task and no milestone is lost or moved, and
nothing that is finished is ever opened again. -/
theorem runs_continue (state : ProjectManagerState) (calls : List Call) :
    Forward perform Continues state calls :=
  forward_of_step (fun _ => True) (fun state call _ => continues_perform state call)
    (fun _ _ _ => trivial) calls state trivial

end ProjectManager
end Ascos
