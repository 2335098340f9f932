import Ascos.Runtime.Atomicity

/-!
# Coherence of delivery workflows

A delivery workflow is spread over five services: its record with its stage, its work item,
its assignment and its executions.  This module says what the stage promises of the other
four, finds the invariant that carries the promise, and shows what an operation on one
workflow has to establish for the invariant to hold again of all of them.
-/

namespace Ascos
namespace Runtime

open Library Library.Action

/-! ## What a stage promises -/

/-- Some active assignment is for the work item of the workflow. -/
def HasActiveAssignment (h : State) (w : String) : Prop :=
  ∃ id ∈ h .assignments, (h (.assignment id)).packageId = (h (.workflow w)).workPackageId ∧
    (h (.assignment id)).workItemId = (h (.workflow w)).workItemId ∧
    (h (.assignment id)).status = .active

/-- The assignment that the workflow names is on record with a status. -/
def AssignmentIs (h : State) (w : String) (status : AssignmentStatus) : Prop :=
  ∃ id ∈ (h (.workflow w)).assignmentId,
    id ∈ h .assignments ∧ (h (.assignment id)).status = status

/-- The last execution id of the workflow names an execution with a status. -/
def LastExecutionIs (h : State) (w : String) (status : ExecutionStatus) : Prop :=
  ∃ id ∈ (h (.executionIds w)).getLast?,
    id ∈ h .executions ∧ (h (.execution id)).status = status

instance (h : State) (w : String) : Decidable (HasActiveAssignment h w) :=
  inferInstanceAs (Decidable (∃ _ ∈ _, _))

instance (h : State) (w : String) (status : AssignmentStatus) :
    Decidable (AssignmentIs h w status) :=
  inferInstanceAs (Decidable (∃ _ ∈ _, _))

instance (h : State) (w : String) (status : ExecutionStatus) :
    Decidable (LastExecutionIs h w status) :=
  inferInstanceAs (Decidable (∃ _ ∈ _, _))

def itemStateOf (h : State) (w : String) : LifecycleState :=
  (h (.workItem (h (.workflow w)).workPackageId (h (.workflow w)).workItemId)).lifecycleState

/-- What the stage of a workflow says about its work item, assignment and executions.  No
operation leaves a workflow in `PLANNING`. -/
def StageAgrees (h : State) (w : String) : WorkflowStage → Prop
  | .intake => itemStateOf h w = .created
  | .planning => False
  | .ready => itemStateOf h w = .ready ∧ ¬HasActiveAssignment h w
  | .assigned => itemStateOf h w = .assigned ∧ AssignmentIs h w .active
  | .executing => itemStateOf h w = .rejected ∧ AssignmentIs h w .active
  | .review => itemStateOf h w = .review ∧ LastExecutionIs h w .succeeded
  | .approval => itemStateOf h w = .approved
  | .completed => itemStateOf h w = .completed ∧ AssignmentIs h w .completed
  | .released => itemStateOf h w = .released
  | .failed =>
      itemStateOf h w = .running ∧ AssignmentIs h w .active ∧ LastExecutionIs h w .failed
  | .cancelled => ¬HasActiveAssignment h w

/-- The workflow is on record with its package and item, and its stage agrees with them. -/
def Agrees (h : State) (w : String) : Prop :=
  (h (.workflow w)).workPackageId ∈ h .workPackages ∧
    (h (.workflow w)).workItemId ∈ h (.workItems (h (.workflow w)).workPackageId) ∧
    StageAgrees h w (h (.workflow w)).currentStage

/-! ## The invariant -/

/-- Which workflow a record is, of which package and item. -/
def SoftwareDeliveryWorkflow.names (workflow : SoftwareDeliveryWorkflow) :
    String × String × String :=
  (workflow.id, workflow.workPackageId, workflow.workItemId)

/-- Which assignment a record is, of which package and item. -/
def WorkAssignment.names (assignment : WorkAssignment) : String × String × String :=
  (assignment.id, assignment.packageId, assignment.workItemId)

/-- How the objects of one workflow refer to one another. -/
structure Wired (h : State) (w : String) : Prop where
  workflow : (h (.workflow w)).names = (w, packageIdOf w, workItemIdOf w)
  package_mem : packageIdOf w ∈ h .workPackages
  item_mem : workItemIdOf w ∈ h (.workItems (packageIdOf w))
  executions : ∀ id ∈ h (.executionIds w), id ∈ h .executions ∧
    (h (.execution id)).assignmentId = assignmentIdOf w
  assignment : assignmentIdOf w ∈ h .assignments →
    (h (.assignment (assignmentIdOf w))).names =
      (assignmentIdOf w, packageIdOf w, workItemIdOf w)

/-- The workflow holds the assignment under its name, with a status. -/
structure Holds (h : State) (w : String) (status : AssignmentStatus) : Prop where
  named : (h (.workflow w)).assignmentId = some (assignmentIdOf w)
  mem : assignmentIdOf w ∈ h .assignments
  status_eq : (h (.assignment (assignmentIdOf w))).status = status

/-- What a stage means for the objects that go by the names of the workflow. -/
def StageSettled (h : State) (w : String) (state : LifecycleState) : WorkflowStage → Prop
  | .intake => state = .created ∧ assignmentIdOf w ∉ h .assignments
  | .planning => False
  | .ready => state = .ready ∧ assignmentIdOf w ∉ h .assignments
  | .assigned => state = .assigned ∧ Holds h w .active
  | .executing => state = .rejected ∧ Holds h w .active
  | .review => state = .review ∧ Holds h w .active ∧ LastExecutionIs h w .succeeded
  | .approval => state = .approved ∧ Holds h w .active
  | .completed => state = .completed ∧ Holds h w .completed
  | .released => state = .released
  | .failed => state = .running ∧ Holds h w .active ∧ LastExecutionIs h w .failed
  | .cancelled => assignmentIdOf w ∈ h .assignments →
      (h (.assignment (assignmentIdOf w))).status ≠ .active

/-- The stage of a workflow is settled. -/
def Settled (h : State) (w : String) : Prop :=
  StageSettled h w (h (.workItem (packageIdOf w) (workItemIdOf w))).lifecycleState
    (h (.workflow w)).currentStage

/-- Every assignment is one of a workflow, and every workflow is wired and settled. -/
structure Coherent (h : State) : Prop where
  keys : ∀ id ∈ h .assignments, ∃ w ∈ h .workflows, id = assignmentIdOf w
  wired : ∀ w ∈ h .workflows, Wired h w
  settled : ∀ w ∈ h .workflows, Settled h w

variable {h h' : State} {v w : String}

@[simp]
theorem packageIdOf_inj : packageIdOf v = packageIdOf w ↔ v = w := by
  simp [packageIdOf, String.append_left_inj]

@[simp]
theorem assignmentIdOf_inj : assignmentIdOf v = assignmentIdOf w ↔ v = w := by
  simp [assignmentIdOf, String.append_left_inj]

theorem Wired.id_eq (hwired : Wired h w) : (h (.workflow w)).id = w :=
  congrArg Prod.fst hwired.workflow

theorem Wired.packageId_eq (hwired : Wired h w) :
    (h (.workflow w)).workPackageId = packageIdOf w :=
  congrArg (·.2.1) hwired.workflow

theorem Wired.workItemId_eq (hwired : Wired h w) :
    (h (.workflow w)).workItemId = workItemIdOf w :=
  congrArg (·.2.2) hwired.workflow

theorem Coherent.assignment_eq (hcoherent : Coherent h) {id : String}
    (hid : id ∈ h .assignments) (hpackage : (h (.assignment id)).packageId = packageIdOf w) :
    id = assignmentIdOf w := by
  obtain ⟨v, hv, rfl⟩ := hcoherent.keys id hid
  have hown := congrArg (·.2.1) ((hcoherent.wired v hv).assignment hid)
  rw [packageIdOf_inj.mp (hown.symm.trans hpackage)]

theorem Holds.assignmentIs {status : AssignmentStatus} (hholds : Holds h w status) :
    AssignmentIs h w status :=
  ⟨assignmentIdOf w, hholds.named, hholds.mem, hholds.status_eq⟩

theorem Coherent.not_hasActiveAssignment (hcoherent : Coherent h) (hw : w ∈ h .workflows)
    (hnone : assignmentIdOf w ∈ h .assignments →
      (h (.assignment (assignmentIdOf w))).status ≠ .active) :
    ¬HasActiveAssignment h w := by
  rintro ⟨id, hid, hpackage, -, hactive⟩
  rw [(hcoherent.wired w hw).packageId_eq] at hpackage
  obtain rfl := hcoherent.assignment_eq hid hpackage
  exact hnone hid hactive

/-- The invariant is what the stages promise, and more. -/
theorem Coherent.agrees (hcoherent : Coherent h) (hw : w ∈ h .workflows) : Agrees h w := by
  have hwired := hcoherent.wired w hw
  have hsettled := hcoherent.settled w hw
  have hnone := hcoherent.not_hasActiveAssignment hw
  have hstate : itemStateOf h w =
      (h (.workItem (packageIdOf w) (workItemIdOf w))).lifecycleState := by
    rw [itemStateOf, hwired.packageId_eq, hwired.workItemId_eq]
  refine ⟨by rw [hwired.packageId_eq]; exact hwired.package_mem,
    by rw [hwired.packageId_eq, hwired.workItemId_eq]; exact hwired.item_mem, ?_⟩
  unfold Settled at hsettled
  rw [← hstate] at hsettled
  cases hstage : (h (.workflow w)).currentStage <;> rw [hstage] at hsettled
  case intake => exact hsettled.1
  case planning => exact hsettled
  case ready => exact ⟨hsettled.1, hnone fun hmem => absurd hmem hsettled.2⟩
  case assigned | executing | completed => exact ⟨hsettled.1, hsettled.2.assignmentIs⟩
  case review => exact ⟨hsettled.1, hsettled.2.2⟩
  case approval => exact hsettled.1
  case released => exact hsettled
  case failed => exact ⟨hsettled.1, hsettled.2.1.assignmentIs, hsettled.2.2⟩
  case cancelled => exact hnone hsettled

/-! ## Workflows that an operation leaves alone -/

/-- The objects of a workflow are the same. -/
structure Untouched (w : String) (h h' : State) : Prop where
  workflow : h' (.workflow w) = h (.workflow w)
  executionIds : h' (.executionIds w) = h (.executionIds w)
  package_mem : packageIdOf w ∈ h' .workPackages
  workItems : h' (.workItems (packageIdOf w)) = h (.workItems (packageIdOf w))
  workItem : h' (.workItem (packageIdOf w) (workItemIdOf w)) =
    h (.workItem (packageIdOf w) (workItemIdOf w))
  executions : ∀ id ∈ h .executions, id ∈ h' .executions ∧
    h' (.execution id) = h (.execution id)
  assignment_mem : assignmentIdOf w ∈ h' .assignments ↔ assignmentIdOf w ∈ h .assignments
  assignment : assignmentIdOf w ∈ h .assignments →
    h' (.assignment (assignmentIdOf w)) = h (.assignment (assignmentIdOf w))

theorem Wired.of_untouched (hwired : Wired h w) (hsame : Untouched w h h') : Wired h' w where
  workflow := by rw [hsame.workflow, hwired.workflow]
  package_mem := hsame.package_mem
  item_mem := by rw [hsame.workItems]; exact hwired.item_mem
  executions := by
    intro id hid
    rw [hsame.executionIds] at hid
    obtain ⟨hmem, hassignment⟩ := hwired.executions id hid
    obtain ⟨hmem', hexecution⟩ := hsame.executions id hmem
    exact ⟨hmem', by rw [hexecution, hassignment]⟩
  assignment := by
    intro hmem
    rw [hsame.assignment_mem] at hmem
    rw [hsame.assignment hmem]
    exact hwired.assignment hmem

theorem Holds.of_untouched {status : AssignmentStatus} (hholds : Holds h w status)
    (hsame : Untouched w h h') : Holds h' w status where
  named := by rw [hsame.workflow, hholds.named]
  mem := hsame.assignment_mem.mpr hholds.mem
  status_eq := by rw [hsame.assignment hholds.mem, hholds.status_eq]

theorem LastExecutionIs.of_untouched {status : ExecutionStatus}
    (hlast : LastExecutionIs h w status) (hsame : Untouched w h h') :
    LastExecutionIs h' w status := by
  obtain ⟨id, hid, hmem, hstatus⟩ := hlast
  obtain ⟨hmem', hexecution⟩ := hsame.executions id hmem
  exact ⟨id, by rw [hsame.executionIds]; exact hid, hmem', by rw [hexecution, hstatus]⟩

theorem Settled.of_untouched (hsettled : Settled h w) (hsame : Untouched w h h') :
    Settled h' w := by
  unfold Settled at hsettled ⊢
  rw [hsame.workflow, hsame.workItem]
  cases hstage : (h (.workflow w)).currentStage <;> rw [hstage] at hsettled
  case intake | ready => exact ⟨hsettled.1, fun hmem => hsettled.2 (hsame.assignment_mem.mp hmem)⟩
  case planning => exact hsettled
  case assigned | executing | approval | completed =>
    exact ⟨hsettled.1, hsettled.2.of_untouched hsame⟩
  case review | failed =>
    exact ⟨hsettled.1, hsettled.2.1.of_untouched hsame, hsettled.2.2.of_untouched hsame⟩
  case released => exact hsettled
  case cancelled =>
    intro hmem
    rw [hsame.assignment_mem] at hmem
    rw [hsame.assignment hmem]
    exact hsettled hmem

/-- The invariant holds again when no workflow was touched. -/
theorem Coherent.of_untouched (hcoherent : Coherent h)
    (hworkflows : h' .workflows = h .workflows) (hassignments : h' .assignments = h .assignments)
    (hsame : ∀ w ∈ h .workflows, Untouched w h h') : Coherent h' where
  keys := by
    rw [hworkflows, hassignments]
    exact hcoherent.keys
  wired := by
    intro w hw
    rw [hworkflows] at hw
    exact (hcoherent.wired w hw).of_untouched (hsame w hw)
  settled := by
    intro w hw
    rw [hworkflows] at hw
    exact (hcoherent.settled w hw).of_untouched (hsame w hw)

theorem Coherent.of_targets (hcoherent : Coherent h)
    (hsame : ∀ l ∈ snapshotTargets h, h' l = h l) : Coherent h' := by
  have hdictionary : ∀ l ∈ [Loc.workPackages, .agents, .assignments, .executions, .records,
      .workflows, .requests], h' l = h l :=
    fun l hl => hsame l (dictionary_mem_snapshotTargets hl)
  have hassignments := hdictionary .assignments (by simp)
  refine hcoherent.of_untouched (hdictionary .workflows (by simp)) hassignments ?_
  intro w hw
  have hwired := hcoherent.wired w hw
  obtain ⟨-, hitems, -, hitem⟩ := package_mem_snapshotTargets hwired.package_mem
  obtain ⟨hworkflow, hexecutionIds⟩ := workflow_mem_snapshotTargets hw
  exact
    { workflow := hsame _ hworkflow
      executionIds := hsame _ hexecutionIds
      package_mem := by
        rw [hdictionary .workPackages (by simp)]
        exact hwired.package_mem
      workItems := hsame _ hitems
      workItem := hsame _ (hitem _ hwired.item_mem)
      executions := by
        intro id hid
        rw [hdictionary .executions (by simp)]
        exact ⟨hid, hsame _ (execution_mem_snapshotTargets hid)⟩
      assignment_mem := by rw [hassignments]
      assignment := fun hmem => hsame _ (assignment_mem_snapshotTargets hmem) }

/-! ## Operations on one workflow -/

/-- What an operation on a workflow may change: its own objects, the objects of no
workflow, the dictionaries, and executions that were not on record. -/
def Private (v : String) (h : State) : Loc → Prop
  | .workflow w | .executionIds w => w = v
  | .workPackage p | .workItem p _ | .workItems p | .artifacts p => p = packageIdOf v
  | .assignment a => a = assignmentIdOf v
  | .execution id => id ∉ h .executions
  | .agents | .agent _ | .supportedCapabilities _ | .records | .record _ | .requests
  | .workPackages | .assignments | .executions | .workflows => True

/-- An operation on one workflow leaves the others alone. -/
theorem Untouched.of_touches (hwired : Wired h w) (hne : w ≠ v) {locs : List Loc}
    (hframe : Touches locs h h') (hprivate : ∀ l ∈ locs, Private v h l)
    (hpackages : h .workPackages ⊆ h' .workPackages)
    (hexecutions : h .executions ⊆ h' .executions)
    (hassignments : ∀ a, a ≠ assignmentIdOf v → (a ∈ h' .assignments ↔ a ∈ h .assignments)) :
    Untouched w h h' := by
  have hsame : ∀ l, ¬Private v h l → h' l = h l :=
    fun l hl => hframe l fun hmem => hl (hprivate l hmem)
  have hpackage : packageIdOf w ≠ packageIdOf v := fun heq => hne (packageIdOf_inj.mp heq)
  have hassignment : assignmentIdOf w ≠ assignmentIdOf v :=
    fun heq => hne (assignmentIdOf_inj.mp heq)
  exact
    { workflow := hsame _ hne
      executionIds := hsame _ hne
      package_mem := hpackages hwired.package_mem
      workItems := hsame _ hpackage
      workItem := hsame _ hpackage
      executions := fun id hid => ⟨hexecutions hid, hsame _ (not_not.mpr hid)⟩
      assignment_mem := hassignments _ hassignment
      assignment := fun _ => hsame _ hassignment }

/-- An operation on one workflow keeps the invariant when that workflow is wired and
settled again. -/
theorem Coherent.of_touches (hcoherent : Coherent h) {locs : List Loc}
    (hframe : Touches locs h h') (hprivate : ∀ l ∈ locs, Private v h l)
    (hpackages : h .workPackages ⊆ h' .workPackages)
    (hexecutions : h .executions ⊆ h' .executions)
    (hassignments : ∀ a, a ≠ assignmentIdOf v → (a ∈ h' .assignments ↔ a ∈ h .assignments))
    (hworkflows : ∀ w, w ∈ h' .workflows ↔ w ∈ h .workflows ∨ w = v)
    (hwired : Wired h' v) (hsettled : Settled h' v) : Coherent h' := by
  have hsame : ∀ w ∈ h .workflows, w ≠ v → Untouched w h h' := fun w hw hne =>
    .of_touches (hcoherent.wired w hw) hne hframe hprivate hpackages hexecutions hassignments
  constructor
  · intro id hid
    by_cases hown : id = assignmentIdOf v
    · exact ⟨v, (hworkflows v).mpr (.inr rfl), hown⟩
    · obtain ⟨w, hw, rfl⟩ := hcoherent.keys id ((hassignments id hown).mp hid)
      exact ⟨w, (hworkflows w).mpr (.inl hw), rfl⟩
  · intro w hw
    by_cases hown : w = v
    · rw [hown]
      exact hwired
    · have hw := ((hworkflows w).mp hw).resolve_right hown
      exact (hcoherent.wired w hw).of_untouched (hsame w hw hown)
  · intro w hw
    by_cases hown : w = v
    · rw [hown]
      exact hsettled
    · have hw := ((hworkflows w).mp hw).resolve_right hown
      exact (hcoherent.settled w hw).of_untouched (hsame w hw hown)

/-- An operation that files executions of a workflow, and no other new object, keeps the
invariant when the workflow is settled in its new stage. -/
theorem Coherent.record (hcoherent : Coherent h) (hv : v ∈ h .workflows) {locs : List Loc}
    (hframe : Touches locs h h') (hprivate : ∀ l ∈ locs, Private v h l)
    (hregisters : ∀ l ∈ [Loc.workPackages, .assignments, .workflows,
      .workItems (packageIdOf v)], l ∉ locs) {ids : List String}
    (hkeys : h' .executions = h .executions ++ ids)
    (hids : h' (.executionIds v) = h (.executionIds v) ++ ids)
    (hnew : ∀ id ∈ ids, (h' (.execution id)).assignmentId = assignmentIdOf v)
    (hworkflow : (h' (.workflow v)).names = (h (.workflow v)).names)
    (hassignment : (h' (.assignment (assignmentIdOf v))).names =
      (h (.assignment (assignmentIdOf v))).names)
    (hsettled : Settled h' v) : Coherent h' := by
  have hpackages : h' .workPackages = h .workPackages := hframe _ (hregisters _ (by simp))
  have hassignments : h' .assignments = h .assignments := hframe _ (hregisters _ (by simp))
  have hworkflows : h' .workflows = h .workflows := hframe _ (hregisters _ (by simp))
  have hitems : h' (.workItems (packageIdOf v)) = h (.workItems (packageIdOf v)) :=
    hframe _ (hregisters _ (by simp))
  have hwired := hcoherent.wired v hv
  have hgrowth : h .executions ⊆ h' .executions := by
    rw [hkeys]
    exact List.subset_append_left _ _
  refine hcoherent.of_touches hframe hprivate (by rw [hpackages]; exact List.Subset.refl _)
    hgrowth ?_ ?_ ?_ hsettled
  · intro a _
    rw [hassignments]
  · intro w
    rw [hworkflows]
    refine (or_iff_left_of_imp ?_).symm
    rintro rfl
    exact hv
  · exact
      { workflow := by rw [hworkflow, hwired.workflow]
        package_mem := by rw [hpackages]; exact hwired.package_mem
        item_mem := by rw [hitems]; exact hwired.item_mem
        executions := by
          intro id hid
          rw [hids, List.mem_append] at hid
          rcases hid with hid | hid
          · obtain ⟨hmem, hown⟩ := hwired.executions id hid
            have hsame : h' (.execution id) = h (.execution id) :=
              hframe _ fun hl => hprivate _ hl hmem
            exact ⟨hgrowth hmem, by rw [hsame, hown]⟩
          · refine ⟨?_, hnew id hid⟩
            rw [hkeys]
            exact List.mem_append_right _ hid
        assignment := by
          intro hmem
          rw [hassignments] at hmem
          rw [hassignment]
          exact hwired.assignment hmem }

theorem Coherent.advance (hcoherent : Coherent h) (hv : v ∈ h .workflows) {locs : List Loc}
    (hframe : Touches locs h h') (hprivate : ∀ l ∈ locs, Private v h l)
    (hregisters : ∀ l ∈ [Loc.workPackages, .assignments, .workflows,
      .workItems (packageIdOf v), .executions, .executionIds v], l ∉ locs)
    (hworkflow : (h' (.workflow v)).names = (h (.workflow v)).names)
    (hassignment : (h' (.assignment (assignmentIdOf v))).names =
      (h (.assignment (assignmentIdOf v))).names)
    (hsettled : Settled h' v) : Coherent h' := by
  have hsub : [Loc.workPackages, .assignments, .workflows, .workItems (packageIdOf v)] ⊆
      [.workPackages, .assignments, .workflows, .workItems (packageIdOf v), .executions,
        .executionIds v] := by
    simp
  have hkeys : h' .executions = h .executions ++ [] := by
    rw [hframe _ (hregisters _ (by simp)), List.append_nil]
  have hids : h' (.executionIds v) = h (.executionIds v) ++ [] := by
    rw [hframe _ (hregisters _ (by simp)), List.append_nil]
  exact hcoherent.record hv hframe hprivate (fun l hl => hregisters l (hsub hl)) hkeys hids
    (by simp) hworkflow hassignment hsettled

end Runtime
end Ascos
