import Ascos.Runtime.Coherence

/-!
# Runs of the delivery workflow service

Every operation of `SoftwareDeliveryWorkflowService` keeps the invariant
`Coherent`, through each of its exits: a return, an error that rolls back, and a
failed execution that commits.  So do registrations and state changes of agents.

The one condition is on the executors: none raises an `ExecutionFailedError` of its
own.  The execution service takes such an error for a failure that it has recorded itself,
so it lets it commit with the execution still `RUNNING`.

Main results:

- Theorem `Keeps.call`: every call of a delivery run keeps the invariant.
- Theorem `delivery_coherence`: in every world that a delivery run reaches, the stage
  of every workflow agrees with its item, assignment and executions.
- Theorem `delivery_incoherence`: it does not when an executor raises
  `ExecutionFailedError`.
-/

namespace Ascos
namespace Runtime

open Library Library.Action

/-! ## Keeping the invariant -/

variable {α : Type} {env : Environment} {services : Services} {h h' : State} {v : String}

/-- An error that commits leaves the objects as wanted. -/
def Committed (I : State → Prop) (error : RuntimeError) (h : State) : Prop :=
  error.isExecutionFailed = true → I h

/-- An error that rolls back is no matter. -/
theorem Committed.of_clean {I : State → Prop} (error : RuntimeError)
    (hclean : error.isExecutionFailed = false) : Committed I error h := by
  intro hcommits
  rw [hclean] at hcommits
  cases hcommits

/-- The persistence callback changes no object; it may read everything, and raise. -/
def Services.Quiet (services : Services) : Prop :=
  ∀ callback ∈ services.persistenceCallback, ∀ (name : String) (env : Environment) (w : World),
    ((callback name).run env w).2.heap = w.heap

theorem Services.Quiet.afterAtomicOperation (hquiet : services.Quiet) (name : String)
    (env : Environment) (w : World) :
    ((services.afterAtomicOperation name).run env w).2.heap = w.heap := by
  unfold Services.afterAtomicOperation
  cases hcase : services.persistenceCallback with
  | none => rfl
  | some callback => exact hquiet callback hcase name env w

/-- Called outside any transaction, a method leaves coherent objects coherent. -/
def Keeps (env : Environment) (x : Method α) : Prop :=
  ∀ w : World, w.current = none → Coherent w.heap → Coherent (x.run env w).2.heap

theorem Keeps.atomicDomainOperation {method : Method α} {afterOperation : Method Unit}
    (henv : env.Sound) (hafter : ∀ w : World, (afterOperation.run env w).2.heap = w.heap)
    (hmethod : ∀ h, Coherent h → Meets env method h (fun _ h' => Coherent h')
      (Committed Coherent)) :
    Keeps env (atomicDomainOperation method afterOperation) := by
  intro w hnone hcoherent
  have hkeep : Meets env (keepDomainFailure (failurePoint >>= fun _ => method)) w.heap
      (fun _ h' => Coherent h') fun _ _ => True := by
    refine Meets.tryExcept (Meets.map ?_)
    refine Meets.failurePoint_bind henv ?_ ((hmethod _ hcoherent).mono (fun _ _ hQ => hQ) ?_)
    · intro error hclean
      rw [hclean, if_neg Bool.false_ne_true, meets_raise]
      trivial
    · intro error h' hcommitted
      rw [meets_ite, meets_pure, meets_raise]
      exact ⟨hcommitted, fun _ => trivial⟩
  unfold Runtime.atomicDomainOperation
  rw [run_bind]
  rcases hatomic : (atomic transactions (keepDomainFailure
    (failurePoint >>= fun _ => method))).run env w with ⟨error | outcome, w₁⟩
  · obtain ⟨-, htargets⟩ := atomic_raised transactions hnone hatomic
    exact hcoherent.of_targets htargets
  · have hcommitted : Coherent w₁.heap := hkeep.atomic_outermost transactions hnone hatomic
    have hheap := hafter w₁
    change Coherent ((afterOperation >>= fun _ => releaseDomainFailure outcome).run env w₁).2.heap
    rw [run_bind]
    rcases hcallback : afterOperation.run env w₁ with ⟨error | u, w₂⟩
    · rw [hcallback] at hheap
      rw [← hheap] at hcommitted
      exact hcommitted
    · rw [hcallback] at hheap
      rw [← hheap] at hcommitted
      cases outcome <;> exact hcommitted

theorem Keeps.workflowOperation {operation : String} {method : Method α}
    (henv : env.Sound) (hquiet : services.Quiet)
    (hmethod : ∀ h, Coherent h → Meets env method h (fun _ h' => Coherent h')
      (Committed Coherent)) :
    Keeps env (workflowOperation services operation method) :=
  Keeps.atomicDomainOperation henv (hquiet.afterAtomicOperation operation env) hmethod

theorem Keeps.map {β : Type} {x : Method α} (hx : Keeps env x) (f : α → β) :
    Keeps env (f <$> x) := by
  intro w hnone hcoherent
  have hx := hx w hnone hcoherent
  rw [run_map]
  rcases hrun : x.run env w with ⟨error | a, w'⟩ <;> rw [hrun] at hx <;> exact hx

/-! ## Settling a workflow in its new stage -/

theorem Settled.elim {stage : WorkflowStage} (hsettled : Settled h v)
    (hstage : (h (.workflow v)).currentStage = stage) :
    StageSettled h v (h (.workItem (packageIdOf v) (workItemIdOf v))).lifecycleState stage := by
  unfold Settled at hsettled
  rw [hstage] at hsettled
  exact hsettled

theorem Settled.intro (stage : WorkflowStage) (state : LifecycleState)
    (hstage : (h (.workflow v)).currentStage = stage)
    (hitem : (h (.workItem (packageIdOf v) (workItemIdOf v))).lifecycleState = state)
    (hsettled : StageSettled h v state stage) : Settled h v := by
  unfold Settled
  rw [hstage, hitem]
  exact hsettled

/-- A held assignment stays held when neither it nor its place changes. -/
theorem Holds.frame {status : AssignmentStatus} (hholds : Holds h v status)
    (hnamed : (h' (.workflow v)).assignmentId = (h (.workflow v)).assignmentId)
    (hkeys : h' .assignments = h .assignments)
    (hsame : h' (.assignment (assignmentIdOf v)) = h (.assignment (assignmentIdOf v))) :
    Holds h' v status where
  named := by rw [hnamed, hholds.named]
  mem := by rw [hkeys]; exact hholds.mem
  status_eq := by rw [hsame, hholds.status_eq]

/-- An operation that ends by moving its workflow on keeps the invariant when the workflow
is settled in the new stage. -/
theorem Coherent.move (hcoherent : Coherent h) (hv : v ∈ h .workflows) {locs : List Loc}
    (hframe : Touches locs h h') (hprivate : ∀ l ∈ locs, Private v h l)
    (hregisters : ∀ l ∈ [Loc.workPackages, .assignments, .workflows,
      .workItems (packageIdOf v), .executions, .executionIds v], l ∉ locs)
    (state : LifecycleState) {workflow : SoftwareDeliveryWorkflow}
    (hworkflow : workflow.names = (h (.workflow v)).names)
    (hassignment : (h' (.assignment (assignmentIdOf v))).names =
      (h (.assignment (assignmentIdOf v))).names)
    (hitem : (h' (.workItem (packageIdOf v) (workItemIdOf v))).lifecycleState = state)
    (hsettled : StageSettled (h'.write (.workflow v) workflow) v state workflow.currentStage) :
    Coherent (h'.write (.workflow v) workflow) := by
  have hwrite : Touches (.workflow v :: locs) h (h'.write (.workflow v) workflow) :=
    (SameOutside.write_iff (by simp) _).mpr (hframe.mono (by simp))
  refine hcoherent.advance hv hwrite ?_ ?_ ?_ ?_ ?_
  · simpa [Private] using hprivate
  · intro l hl
    have hne : l ≠ .workflow v := by
      rintro rfl
      simp at hl
    simpa [hne] using hregisters l hl
  · rw [Heap.write_same, hworkflow]
  · rw [Heap.write_of_ne _ _ (by simp), hassignment]
  · unfold Settled
    rw [Heap.write_of_ne _ _ (by simp), Heap.write_same, hitem]
    exact hsettled

/-- What closing the assignment of a workflow does, in terms of the names of the workflow. -/
theorem Closed.own {status : AssignmentStatus} {state : LifecycleState} {others : List Loc}
    (hclosed : Closed (assignmentIdOf v) status state others h h') (hwired : Wired h v) :
    Touches (.workItem (packageIdOf v) (workItemIdOf v) :: .workPackage (packageIdOf v) ::
        .agent (h (.assignment (assignmentIdOf v))).agentId ::
        .assignment (assignmentIdOf v) :: others) h h' ∧
      (h' (.workItem (packageIdOf v) (workItemIdOf v))).lifecycleState = state ∧
      (h' (.assignment (assignmentIdOf v))).status = status ∧
      (h' (.assignment (assignmentIdOf v))).names =
        (h (.assignment (assignmentIdOf v))).names := by
  have hnames := hwired.assignment hclosed.mem
  have hpackage : (h (.assignment (assignmentIdOf v))).packageId = packageIdOf v :=
    congrArg (·.2.1) hnames
  have hworkItem : (h (.assignment (assignmentIdOf v))).workItemId = workItemIdOf v :=
    congrArg (·.2.2) hnames
  have hframe := hclosed.frame
  have hitem := hclosed.item
  rw [hpackage, hworkItem] at hframe hitem
  obtain ⟨updatedAt, hrecord⟩ := hclosed.assignment
  exact ⟨hframe, hitem, by rw [hrecord], by rw [hrecord]; rfl⟩

/-! ## Planning, approving, rejecting, completing, releasing -/

theorem planRequest_keeps (henv : env.Sound) (hquiet : services.Quiet) (v : String) :
    Keeps env (planRequest services v) := by
  refine Keeps.workflowOperation henv hquiet fun h hcoherent => ?_
  refine Meets.getWorkflow_bind Committed.of_clean fun hv => ?_
  have hwired := hcoherent.wired v hv
  unfold requireStage
  rw [meets_raiseIf_bind, ne_eq, not_not]
  refine ⟨fun _ => .of_clean _ rfl, fun hstage => ?_⟩
  obtain ⟨-, hnone⟩ := (hcoherent.settled v hv).elim hstage
  refine Meets.requestOf_bind Committed.of_clean fun request => ?_
  refine Meets.bind (Meets.moveTo Committed.of_clean fun _ t₁ => ?_)
  rw [hwired.packageId_eq, hwired.workItemId_eq]
  refine Meets.bind ((changeWorkItemState_spec henv).mono ?_ fun _ _ hE => .of_clean _ hE.1)
  rintro _ h₂ ⟨-, -, -, hitem₂, hframe₂⟩
  refine Meets.bind (Meets.moveTo Committed.of_clean fun _ t₂ => ?_)
  refine Meets.bind (Meets.publishWorkflow henv Committed.of_clean (meets_read.mpr ?_))
  have hframe : Touches [.workflow v, .workItem (packageIdOf v) (workItemIdOf v),
      .workPackage (packageIdOf v)] h h₂ := by
    refine SameOutside.trans ?_ (hframe₂.mono (by simp))
    exact (SameOutside.write_iff (by simp) _).mpr (SameOutside.refl _ h)
  refine hcoherent.move hv hframe (by simp [Private]) (by simp) .ready ?_ ?_ ?_ ?_
  · rw [hframe₂ _ (by simp), Heap.write_same]
    rfl
  · rw [hframe _ (by simp)]
  · rw [hitem₂]
  · refine ⟨rfl, ?_⟩
    rw [Heap.write_of_ne _ _ (by simp), hframe _ (by simp)]
    exact hnone

theorem prepareWork_keeps (henv : env.Sound) (hquiet : services.Quiet) (v : String) :
    Keeps env (prepareWork services v) := by
  refine Keeps.workflowOperation henv hquiet fun h hcoherent => ?_
  refine Meets.getWorkflow_bind Committed.of_clean fun hv => ?_
  rw [meets_ite, meets_pure]
  refine ⟨fun _ => hcoherent, fun _ => ?_⟩
  unfold requireStage
  rw [meets_raiseIf_bind, ne_eq, not_not]
  refine ⟨fun _ => .of_clean _ rfl, fun hstage => ?_⟩
  exact ((hcoherent.settled v hv).elim hstage).elim

theorem approveWork_keeps (henv : env.Sound) (hquiet : services.Quiet) (v : String) :
    Keeps env (approveWork services v) := by
  refine Keeps.workflowOperation henv hquiet fun h hcoherent => ?_
  refine Meets.getWorkflow_bind Committed.of_clean fun hv => ?_
  have hwired := hcoherent.wired v hv
  unfold requireApprovalStage
  rw [meets_raiseIf_bind, ne_eq, not_not]
  refine ⟨fun _ => .of_clean _ rfl, fun hstage => ?_⟩
  obtain ⟨-, hholds, -⟩ := (hcoherent.settled v hv).elim hstage
  refine Meets.getWorkItem_bind Committed.of_clean fun _ _ => ?_
  rw [meets_raiseIf_bind]
  refine ⟨fun _ => .of_clean _ rfl, fun _ => ?_⟩
  rw [hwired.packageId_eq, hwired.workItemId_eq]
  refine Meets.bind ((changeWorkItemState_spec henv).mono ?_ fun _ _ hE => .of_clean _ hE.1)
  rintro _ h₁ ⟨-, -, -, hitem₁, hframe₁⟩
  refine Meets.now_bind fun approvedAt => ?_
  rw [meets_read_bind, meets_write_bind]
  refine Meets.bind (Meets.moveTo Committed.of_clean fun _ t₁ => ?_)
  refine Meets.bind (Meets.publishWorkflow henv Committed.of_clean (meets_read.mpr ?_))
  rw [Heap.write_same, Heap.write_write]
  refine hcoherent.move hv hframe₁ (by simp [Private]) (by simp) .approved ?_ ?_ ?_ ?_
  · rw [hframe₁ _ (by simp)]
    rfl
  · rw [hframe₁ _ (by simp)]
  · rw [hitem₁]
  · refine ⟨rfl, hholds.frame ?_ ?_ ?_⟩
    · rw [Heap.write_same, hframe₁ _ (by simp)]
    · rw [Heap.write_of_ne _ _ (by simp), hframe₁ _ (by simp)]
    · rw [Heap.write_of_ne _ _ (by simp), hframe₁ _ (by simp)]

theorem rejectWork_keeps (henv : env.Sound) (hquiet : services.Quiet) (v : String)
    (reason : Message) : Keeps env (rejectWork services v reason) := by
  refine Keeps.workflowOperation henv hquiet fun h hcoherent => ?_
  unfold validateRequiredMessage requireStage
  rw [meets_raiseIf_bind]
  refine ⟨fun _ => .of_clean _ rfl, fun _ => ?_⟩
  refine Meets.getWorkflow_bind Committed.of_clean fun hv => ?_
  have hwired := hcoherent.wired v hv
  rw [meets_raiseIf_bind, ne_eq, not_not]
  refine ⟨fun _ => .of_clean _ rfl, fun hstage => ?_⟩
  obtain ⟨-, hholds, -⟩ := (hcoherent.settled v hv).elim hstage
  rw [hwired.packageId_eq, hwired.workItemId_eq]
  refine Meets.bind ((changeWorkItemState_spec henv).mono ?_ fun _ _ hE => .of_clean _ hE.1)
  rintro _ h₁ ⟨-, -, -, hitem₁, hframe₁⟩
  rw [meets_read_bind, meets_write_bind]
  refine Meets.bind (Meets.moveTo Committed.of_clean fun _ t₁ => ?_)
  refine Meets.bind (Meets.publishWorkflow henv Committed.of_clean (meets_read.mpr ?_))
  rw [Heap.write_same, Heap.write_write]
  refine hcoherent.move hv hframe₁ (by simp [Private]) (by simp) .rejected ?_ ?_ ?_ ?_
  · rw [hframe₁ _ (by simp)]
    rfl
  · rw [hframe₁ _ (by simp)]
  · rw [hitem₁]
  · refine ⟨rfl, hholds.frame ?_ ?_ ?_⟩
    · rw [Heap.write_same, hframe₁ _ (by simp)]
    · rw [Heap.write_of_ne _ _ (by simp), hframe₁ _ (by simp)]
    · rw [Heap.write_of_ne _ _ (by simp), hframe₁ _ (by simp)]

theorem completeWork_keeps (henv : env.Sound) (hquiet : services.Quiet) (v : String) :
    Keeps env (completeWork services v) := by
  refine Keeps.workflowOperation henv hquiet fun h hcoherent => ?_
  refine Meets.getWorkflow_bind Committed.of_clean fun hv => ?_
  have hwired := hcoherent.wired v hv
  unfold requireStage
  rw [meets_raiseIf_bind, ne_eq, not_not]
  refine ⟨fun _ => .of_clean _ rfl, fun hstage => ?_⟩
  obtain ⟨-, hholds⟩ := (hcoherent.settled v hv).elim hstage
  refine Meets.getWorkItem_bind Committed.of_clean fun _ _ => ?_
  rw [meets_raiseIf_bind]
  refine ⟨fun _ => .of_clean _ rfl, fun _ => ?_⟩
  refine Meets.requireAssignmentId_bind Committed.of_clean fun assignmentId hnamed => ?_
  obtain rfl : assignmentIdOf v = assignmentId := Option.some.inj (hholds.named.symm.trans hnamed)
  refine Meets.bind ((completeAssignment_spec henv).mono ?_ fun _ _ hE => .of_clean _ hE)
  intro _ h₁ hclosed
  refine Meets.bind (Meets.moveTo Committed.of_clean fun _ t₁ => ?_)
  refine Meets.bind (Meets.publishWorkflow henv Committed.of_clean (meets_read.mpr ?_))
  obtain ⟨hframe₁, hitem₁, hstatus₁, hnames₁⟩ := hclosed.own hwired
  refine hcoherent.move hv hframe₁ (by simp [Private]) (by simp) .completed ?_ hnames₁ hitem₁ ?_
  · rw [hframe₁ _ (by simp)]
    rfl
  · refine ⟨rfl, ?_, ?_, ?_⟩
    · rw [Heap.write_same, hframe₁ _ (by simp), hholds.named]
    · rw [Heap.write_of_ne _ _ (by simp), hframe₁ _ (by simp)]
      exact hholds.mem
    · rw [Heap.write_of_ne _ _ (by simp), hstatus₁]

theorem releaseWork_keeps (henv : env.Sound) (hquiet : services.Quiet) (v : String) :
    Keeps env (releaseWork services v) := by
  refine Keeps.workflowOperation henv hquiet fun h hcoherent => ?_
  refine Meets.getWorkflow_bind Committed.of_clean fun hv => ?_
  have hwired := hcoherent.wired v hv
  unfold requireReleaseStage
  rw [meets_raiseIf_bind, ne_eq, not_not]
  refine ⟨fun _ => .of_clean _ rfl, fun hstage => ?_⟩
  refine Meets.getWorkItem_bind Committed.of_clean fun _ _ => ?_
  rw [meets_raiseIf_bind]
  refine ⟨fun _ => .of_clean _ rfl, fun _ => ?_⟩
  rw [hwired.packageId_eq, hwired.workItemId_eq]
  refine Meets.bind ((changeWorkItemState_spec henv).mono ?_ fun _ _ hE => .of_clean _ hE.1)
  rintro _ h₁ ⟨-, -, -, hitem₁, hframe₁⟩
  refine Meets.bind (Meets.moveTo Committed.of_clean fun _ t₁ => ?_)
  refine Meets.bind (Meets.publishWorkflow henv Committed.of_clean (meets_read.mpr ?_))
  refine hcoherent.move hv hframe₁ (by simp [Private]) (by simp) .released ?_ ?_ ?_ rfl
  · rw [hframe₁ _ (by simp)]
    rfl
  · rw [hframe₁ _ (by simp)]
  · rw [hitem₁]

/-! ## Cancelling -/

/-- The assignment of a workflow, if there is one, is not active any more. -/
structure Unassigned (v : String) (h h' : State) : Prop where
  frame : ∃ agentId recoveryId, Touches [.workItem (packageIdOf v) (workItemIdOf v),
    .workPackage (packageIdOf v), .agent agentId, .assignment (assignmentIdOf v), .records,
    .record recoveryId] h h'
  assignment : (h' (.assignment (assignmentIdOf v))).names =
    (h (.assignment (assignmentIdOf v))).names
  inactive : assignmentIdOf v ∈ h .assignments →
    (h' (.assignment (assignmentIdOf v))).status ≠ .active

/-- A workflow without an assignment has no active one. -/
theorem Unassigned.refl (hnone : assignmentIdOf v ∉ h .assignments) : Unassigned v h h where
  frame := ⟨"", "", SameOutside.refl _ h⟩
  assignment := rfl
  inactive hmem := absurd hmem hnone

/-- A cancelled assignment is not active any more. -/
theorem Closed.unassigned {others : List Loc}
    (hclosed : Closed (assignmentIdOf v) .cancelled .ready others h h') (hwired : Wired h v)
    (recoveryId : String) (hothers : others ⊆ [.records, .record recoveryId]) :
    Unassigned v h h' := by
  obtain ⟨hframe, -, hstatus, hnames⟩ := hclosed.own hwired
  have hframe := hframe.mono (List.cons_subset_cons _ (List.cons_subset_cons _
    (List.cons_subset_cons _ (List.cons_subset_cons _ hothers))))
  exact ⟨⟨_, recoveryId, hframe⟩, hnames, fun _ => by rw [hstatus]; simp⟩

theorem Unassigned.workflow (hunassigned : Unassigned v h h') :
    h' (.workflow v) = h (.workflow v) := by
  obtain ⟨agentId, recoveryId, hframe⟩ := hunassigned.frame
  exact hframe _ (by simp)

/-- A workflow without an active assignment may be cancelled. -/
theorem Unassigned.coherent (hunassigned : Unassigned v h h') (hcoherent : Coherent h)
    (hv : v ∈ h .workflows) {workflow : SoftwareDeliveryWorkflow}
    (hnames : workflow.names = (h (.workflow v)).names)
    (hstage : workflow.currentStage = .cancelled) :
    Coherent (h'.write (.workflow v) workflow) := by
  obtain ⟨agentId, recoveryId, hframe⟩ := hunassigned.frame
  refine hcoherent.move hv hframe (by simp [Private]) (by simp) _ hnames hunassigned.assignment rfl ?_
  rw [hstage]
  intro hmem
  rw [Heap.write_of_ne _ _ (by simp), hframe _ (by simp)] at hmem
  rw [Heap.write_of_ne _ _ (by simp)]
  exact hunassigned.inactive hmem

theorem Coherent.execution_assignment (hcoherent : Coherent h) (hv : v ∈ h .workflows)
    (hmem : assignmentIdOf v ∈ h .assignments) {executionId : String}
    (hlast : (h (.executionIds v)).getLast? = some executionId) :
    (h (.execution executionId)).assignmentId = assignmentIdOf v ∧
      (h (.assignment (h (.execution executionId)).assignmentId)).id =
        (h (.execution executionId)).assignmentId := by
  have hwired := hcoherent.wired v hv
  obtain ⟨-, hassignment⟩ := hwired.executions executionId (List.mem_of_getLast? hlast)
  refine ⟨hassignment, ?_⟩
  rw [hassignment]
  exact congrArg Prod.fst (hwired.assignment hmem)

theorem cancelWorkflow_keeps (henv : env.Sound) (hquiet : services.Quiet) (v : String)
    (reason : Message) : Keeps env (cancelWorkflow services v reason) := by
  refine Keeps.workflowOperation henv hquiet fun h hcoherent => ?_
  unfold validateRequiredMessage requireCancellable
  rw [meets_raiseIf_bind]
  refine ⟨fun _ => .of_clean _ rfl, fun _ => ?_⟩
  refine Meets.getWorkflow_bind Committed.of_clean fun hv => ?_
  have hwired := hcoherent.wired v hv
  have hsettled := hcoherent.settled v hv
  rw [meets_raiseIf_bind, not_not]
  refine ⟨fun _ => .of_clean _ rfl, fun hcancellable => ?_⟩
  refine Meets.seq (P := fun _ h' => Unassigned v h h') ?_ ?_
  · rw [meets_ite]
    constructor
    · intro hstage
      obtain ⟨-, hholds⟩ := hsettled.elim hstage
      refine Meets.requireAssignmentId_bind Committed.of_clean fun assignmentId hnamed => ?_
      obtain rfl : assignmentIdOf v = assignmentId :=
        Option.some.inj (hholds.named.symm.trans hnamed)
      refine (cancelAssignment_spec henv).mono ?_ fun _ _ hE => .of_clean _ hE
      intro _ h₁ hclosed
      exact hclosed.unassigned hwired "" (by simp)
    · intro hassigned
      rw [meets_ite]
      constructor
      · intro hstage
        obtain ⟨-, hholds, -⟩ := hsettled.elim hstage
        refine Meets.lastExecutionId_bind Committed.of_clean fun executionId hlast => ?_
        obtain ⟨hassignment, hid⟩ := hcoherent.execution_assignment hv hholds.mem hlast
        refine Meets.map ((cancelFailedAssignment_spec henv hid).mono ?_
          fun _ _ hE => .of_clean _ hE)
        rintro _ h₁ ⟨-, hclosed⟩
        rw [hassignment] at hclosed
        exact hclosed.unassigned hwired _ (List.Subset.refl _)
      · intro hfailed
        rw [meets_pure]
        have hstage : (h (.workflow v)).currentStage = .intake ∨
            (h (.workflow v)).currentStage = .ready := by
          simpa [WorkflowStage.cancellable, hassigned, hfailed] using hcancellable
        rcases hstage with hstage | hstage <;> exact .refl (hsettled.elim hstage).2
  · intro _ h₁ hunassigned
    refine Meets.bind (Meets.moveTo Committed.of_clean fun _ t₁ => ?_)
    unfold setFailureReason
    simp only [meets_bind_assoc, meets_read_bind, meets_write_bind, Heap.write_same,
      Heap.write_write]
    refine Meets.bind (Meets.publishWorkflow henv Committed.of_clean (meets_read.mpr ?_))
    refine hunassigned.coherent hcoherent hv ?_ rfl
    rw [hunassigned.workflow]
    rfl

/-! ## Executing -/

/-- The record of the workflow may have changed, but not what it refers to. -/
structure Renewed (v : String) (h h' : State) : Prop where
  frame : Touches [.workflow v] h h'
  names : (h' (.workflow v)).names = (h (.workflow v)).names
  assignmentId : (h' (.workflow v)).assignmentId = (h (.workflow v)).assignmentId

theorem Renewed.refl (v : String) (h : State) : Renewed v h h where
  frame := SameOutside.refl _ h
  names := rfl
  assignmentId := rfl

/-- An execution of the assignment of a workflow was filed, listed by the workflow, and
left its item in a state. -/
structure Recorded (v executionId : String) (status : ExecutionStatus)
    (state : LifecycleState) (h h' : State) : Prop where
  fresh : executionId ∉ h .executions
  keys : h' .executions = h .executions ++ [executionId]
  listed : h' (.executionIds v) = h (.executionIds v) ++ [executionId]
  status_eq : (h' (.execution executionId)).status = status
  assignmentId_eq : (h' (.execution executionId)).assignmentId = assignmentIdOf v
  item : (h' (.workItem (packageIdOf v) (workItemIdOf v))).lifecycleState = state
  frame : ∃ recoveryId, Touches [.workflow v, .executionIds v,
    .workItem (packageIdOf v) (workItemIdOf v), .workPackage (packageIdOf v),
    .execution executionId, .executions, .records, .record recoveryId] h h'

theorem Executed.recorded {executionId : String} {status : ExecutionStatus}
    {state : LifecycleState} {others : List Loc} {h₁ h₂ : State}
    (hexecuted : Executed executionId (assignmentIdOf v) status state others h₁ h₂)
    (recoveryId : String) (hothers : others ⊆ [.records, .record recoveryId])
    (hwired : Wired h v) (hholds : Holds h v .active) (hrenewed : Renewed v h h₁)
    (workflow : SoftwareDeliveryWorkflow) :
    Recorded v executionId status state h
      ((h₂.write (.executionIds v) (h (.executionIds v) ++ [executionId])).write (.workflow v)
        workflow) := by
  have hassignment : h₁ (.assignment (assignmentIdOf v)) = h (.assignment (assignmentIdOf v)) :=
    hrenewed.frame _ (by simp)
  have hassigned := hwired.assignment hholds.mem
  have hpackage : (h (.assignment (assignmentIdOf v))).packageId = packageIdOf v :=
    congrArg (·.2.1) hassigned
  have hworkItem : (h (.assignment (assignmentIdOf v))).workItemId = workItemIdOf v :=
    congrArg (·.2.2) hassigned
  have hid : (h (.assignment (assignmentIdOf v))).id = assignmentIdOf v :=
    congrArg Prod.fst hassigned
  have hitem := hexecuted.item
  have hframe := hexecuted.frame
  have hnames := hexecuted.names_eq
  rw [hassignment, hpackage, hworkItem] at hitem hframe
  rw [hassignment, hid] at hnames
  have hkeys₁ : h₁ .executions = h .executions := hrenewed.frame _ (by simp)
  exact
    { fresh := by rw [← hkeys₁]; exact hexecuted.fresh
      keys := by simp [hexecuted.keys, hkeys₁]
      listed := by simp
      status_eq := by simp [hexecuted.status_eq]
      assignmentId_eq := by
        rw [Heap.write_of_ne _ _ (by simp), Heap.write_of_ne _ _ (by simp)]
        exact congrArg Prod.snd hnames
      item := by simp [hitem]
      frame := by
        refine ⟨recoveryId, ?_⟩
        refine (SameOutside.write_iff (by simp) _).mpr ((SameOutside.write_iff (by simp) _).mpr ?_)
        refine SameOutside.trans (hrenewed.frame.mono (by simp)) (hframe.mono ?_)
        have hothers := List.cons_subset_cons (Loc.workItem (packageIdOf v) (workItemIdOf v))
          (List.cons_subset_cons (.workPackage (packageIdOf v))
            (List.cons_subset_cons (.execution executionId)
              (List.cons_subset_cons .executions hothers)))
        exact List.Subset.trans hothers (by simp) }

theorem Recorded.coherent {executionId : String} {status : ExecutionStatus}
    {state : LifecycleState} (hrecorded : Recorded v executionId status state h h')
    (hcoherent : Coherent h) (hv : v ∈ h .workflows) (hholds : Holds h v .active)
    (hnames : (h' (.workflow v)).names = (h (.workflow v)).names)
    (hassignmentId : (h' (.workflow v)).assignmentId = (h (.workflow v)).assignmentId)
    (hsettled : Holds h' v .active → LastExecutionIs h' v status →
      StageSettled h' v state (h' (.workflow v)).currentStage) : Coherent h' := by
  obtain ⟨recoveryId, hframe⟩ := hrecorded.frame
  refine hcoherent.record hv hframe ?_ (by simp) hrecorded.keys hrecorded.listed ?_ hnames ?_ ?_
  · simpa [Private] using hrecorded.fresh
  · simpa using hrecorded.assignmentId_eq
  · rw [hframe _ (by simp)]
  · unfold Settled
    rw [hrecorded.item]
    refine hsettled (hholds.frame hassignmentId (hframe _ (by simp)) (hframe _ (by simp))) ?_
    refine ⟨executionId, ?_, ?_, hrecorded.status_eq⟩
    · simp [hrecorded.listed]
    · simp [hrecorded.keys]

theorem Executed.unlisted {executionId : String} {status : ExecutionStatus}
    {state : LifecycleState} {others : List Loc} {h₁ h₂ : State} (recoveryId : String)
    (hothers : others ⊆ [.records, .record recoveryId])
    (hexecuted : Executed executionId (assignmentIdOf v) status state others h₁ h₂)
    (hrenewed : Renewed v h h₁) :
    h₂ (.executionIds v) = h (.executionIds v) ∧ (h₂ (.workflow v)).names =
      (h (.workflow v)).names ∧
      (h₂ (.workflow v)).assignmentId = (h (.workflow v)).assignmentId := by
  have hsame : ∀ l ∈ [Loc.executionIds v, .workflow v], h₂ l = h₁ l := by
    intro l hl
    refine hexecuted.frame l ?_
    have hrecord : l ∉ others := fun hmem => by
      have hmem := hothers hmem
      simp only [List.mem_cons, List.not_mem_nil, or_false] at hl hmem
      rcases hl with rfl | rfl <;> simp at hmem
    simp only [List.mem_cons, List.not_mem_nil, or_false] at hl
    rcases hl with rfl | rfl <;> simpa using hrecord
  refine ⟨?_, ?_, ?_⟩
  · rw [hsame _ (by simp), hrenewed.frame _ (by simp)]
  · rw [hsame _ (by simp), hrenewed.names]
  · rw [hsame _ (by simp), hrenewed.assignmentId]

theorem Settled.holds_of_executable (hsettled : Settled h v)
    (hstage : ¬((h (.workflow v)).currentStage ≠ .assigned ∧
      (h (.workflow v)).currentStage ≠ .executing)) : Holds h v .active := by
  by_cases hassigned : (h (.workflow v)).currentStage = .assigned
  · exact (hsettled.elim hassigned).2
  · have hexecuting : (h (.workflow v)).currentStage = .executing := by
      by_contra hother
      exact hstage ⟨hassigned, hother⟩
    exact (hsettled.elim hexecuting).2

theorem executeWork_keeps (henv : env.Sound) (hquiet : services.Quiet)
    (hanswering : Answering env services.executors) (v : String)
    (executionId : Option String) : Keeps env (executeWork services v executionId) := by
  refine Keeps.workflowOperation henv hquiet fun h hcoherent => ?_
  refine Meets.getWorkflow_bind Committed.of_clean fun hv => ?_
  have hwired := hcoherent.wired v hv
  unfold validateRequiredString
  rw [meets_raiseIf_bind]
  refine ⟨fun _ => .of_clean _ rfl, fun hstage => ?_⟩
  have hholds := (hcoherent.settled v hv).holds_of_executable hstage
  rw [meets_read_bind]
  generalize orDefaultString executionId _ = resolvedId
  rw [meets_raiseIf_bind]
  refine ⟨fun _ => .of_clean _ rfl, fun _ => ?_⟩
  refine Meets.seq (P := fun _ h' => Renewed v h h') ?_ ?_
  · rw [meets_ite, meets_pure]
    refine ⟨fun _ => Meets.moveTo Committed.of_clean fun _ t₁ => ?_, fun _ => .refl v h⟩
    refine ⟨(SameOutside.write_iff (by simp) _).mpr (SameOutside.refl _ h), ?_, ?_⟩
    · rw [Heap.write_same]
      rfl
    · rw [Heap.write_same]
  intro _ h₁ hrenewed
  refine Meets.bind (Meets.publishWorkflow henv Committed.of_clean ?_)
  refine Meets.requireAssignmentId_bind Committed.of_clean fun assignmentId hnamed => ?_
  obtain rfl : assignmentIdOf v = assignmentId :=
    Option.some.inj (hholds.named.symm.trans hnamed)
  refine Meets.getWorkItem_bind Committed.of_clean fun _ _ => ?_
  have hothers : ([] : List Loc) ⊆ [.records, .record ""] := by simp
  refine Meets.bind (Meets.tryExcept ?_)
  refine Meets.executionContextOf_bind ?_ fun context => ?_
  · -- the context cannot be made: the error passes through the handler
    intro error hclean
    rw [hclean, if_neg Bool.false_ne_true, meets_raise]
    exact .of_clean error hclean
  refine Meets.mono (meets_ite.mpr ⟨fun _ => executeCorrection_spec henv hanswering,
    fun _ => executeAssignment_spec henv hanswering⟩) ?_ ?_
  · -- the execution succeeded
    rintro execution h₂ ⟨rfl, hexecuted⟩
    obtain ⟨hids, hnames, hassignmentId⟩ := hexecuted.unlisted "" hothers hrenewed
    unfold appendExecutionId setFailureReason
    simp only [meets_bind_assoc, meets_read_bind, meets_write_bind]
    refine Meets.bind (Meets.moveTo Committed.of_clean fun _ t₂ => ?_)
    refine Meets.bind (Meets.publishWorkflow henv Committed.of_clean ?_)
    refine Meets.bind (Meets.publishWorkflow henv Committed.of_clean (meets_read.mpr ?_))
    rw [Heap.write_same, Heap.write_of_ne _ _ (by simp), Heap.write_write, hids]
    refine (hexecuted.recorded "" hothers hwired hholds hrenewed _).coherent hcoherent hv hholds
      ?_ ?_ fun hheld hlast => ?_
    · rw [Heap.write_same, ← hnames]
      rfl
    · rw [Heap.write_same, ← hassignmentId]
    · rw [Heap.write_same]
      exact ⟨rfl, hheld, hlast⟩
  · -- the failure of the execution was recorded
    intro error h₂ hfailed
    rw [meets_ite, meets_raise]
    refine ⟨fun hcommits => ?_, fun hnot hcommits => absurd hcommits hnot⟩
    have hexecuted := hfailed hcommits
    obtain ⟨hids, hnames, hassignmentId⟩ := hexecuted.unlisted "" hothers hrenewed
    have hunlisted : resolvedId ∉ h₂ (.executionIds v) := by
      intro hmem
      rw [hids] at hmem
      have hkeys : h₁ .executions = h .executions := hrenewed.frame _ (by simp)
      exact hexecuted.fresh (by rw [hkeys]; exact (hwired.executions _ hmem).1)
    unfold recordFailedExecution appendExecutionId setFailureReason
    simp only [meets_bind_assoc, meets_read_bind, if_pos hunlisted, meets_write_bind]
    refine Meets.bind (Meets.moveTo Committed.of_clean fun _ t₂ => ?_)
    refine Meets.bind (Meets.publishWorkflow henv Committed.of_clean (meets_raise.mpr fun _ => ?_))
    rw [Heap.write_same, Heap.write_of_ne _ _ (by simp), Heap.write_write, hids]
    refine (hexecuted.recorded "" hothers hwired hholds hrenewed _).coherent hcoherent hv hholds
      ?_ ?_ fun hheld hlast => ?_
    · rw [Heap.write_same, ← hnames]
      rfl
    · rw [Heap.write_same, ← hassignmentId]
    · rw [Heap.write_same]
      exact ⟨rfl, hheld, hlast⟩

/-! ## Recovering -/

theorem recoverFailedExecution_keeps (henv : env.Sound) (hquiet : services.Quiet)
    (hanswering : Answering env services.executors) (v recoveryId : String) (reason : Message)
    (action : String) (newExecutionId : Option String) :
    Keeps env (recoverFailedExecution services v recoveryId reason action newExecutionId) := by
  refine Keeps.workflowOperation henv hquiet fun h hcoherent => ?_
  refine Meets.getWorkflow_bind Committed.of_clean fun hv => ?_
  have hwired := hcoherent.wired v hv
  unfold requireRecoverable
  rw [meets_raiseIf_bind, ne_eq, not_not]
  refine ⟨fun _ => .of_clean _ rfl, fun hstage => ?_⟩
  obtain ⟨-, hholds, -⟩ := (hcoherent.settled v hv).elim hstage
  refine Meets.lastExecutionId_bind Committed.of_clean fun failedExecutionId hlast => ?_
  obtain ⟨hassignment, hid⟩ := hcoherent.execution_assignment hv hholds.mem hlast
  rw [meets_read_bind]
  generalize orDefaultString newExecutionId _ = resolvedExecutionId
  have hrenewed := Renewed.refl v h
  have hothers : [Loc.records, .record recoveryId] ⊆ [.records, .record recoveryId] :=
    List.Subset.refl _
  refine Meets.seq (P := fun _ h' => Coherent h') ?_ ?_
  · rw [meets_ite]
    refine ⟨fun _ => ?_, fun _ => ?_⟩
    · -- a retry is a new execution
      refine Meets.bind (Meets.tryExcept ?_)
      refine Meets.executionContextOf_bind ?_ fun context => ?_
      · intro error hclean
        rw [hclean, if_neg Bool.false_ne_true, meets_raise]
        exact .of_clean error hclean
      refine Meets.mono (retryFailedExecution_spec henv hanswering hid) ?_ ?_
      · rintro execution h₁ ⟨rfl, -, hexecuted⟩
        rw [hassignment] at hexecuted
        obtain ⟨hids, hnames, hassignmentId⟩ := hexecuted.unlisted _ hothers hrenewed
        unfold appendExecutionId setFailureReason
        simp only [meets_bind_assoc, meets_read_bind, meets_write_bind]
        refine Meets.moveTo Committed.of_clean fun _ t₁ => ?_
        rw [Heap.write_same, Heap.write_of_ne _ _ (by simp), Heap.write_write, hids]
        refine (hexecuted.recorded _ hothers hwired hholds hrenewed _).coherent hcoherent hv
          hholds ?_ ?_ fun hheld hlast => ?_
        · rw [Heap.write_same, ← hnames]
          rfl
        · rw [Heap.write_same, ← hassignmentId]
        · rw [Heap.write_same]
          exact ⟨rfl, hheld, hlast⟩
      · -- the retry failed: the workflow stays in its stage with the new execution last
        intro error h₁ hfailed
        rw [meets_ite, meets_raise]
        refine ⟨fun hcommits => ?_, fun hnot hcommits => absurd hcommits hnot⟩
        obtain ⟨-, hexecuted⟩ := hfailed hcommits
        rw [hassignment] at hexecuted
        obtain ⟨hids, hnames, hassignmentId⟩ := hexecuted.unlisted _ hothers hrenewed
        have hstage₁ : (h₁ (.workflow v)).currentStage = .failed := by
          rw [hexecuted.frame _ (by simp), hstage]
        unfold recordFailedRetry appendExecutionId setFailureReason
        simp only [meets_bind_assoc, meets_read_bind, meets_write_bind]
        refine Meets.bind (Meets.publishWorkflow henv Committed.of_clean
          (meets_raise.mpr fun _ => ?_))
        rw [Heap.write_of_ne _ _ (by simp), hids]
        refine (hexecuted.recorded _ hothers hwired hholds hrenewed _).coherent hcoherent hv
          hholds ?_ ?_ fun hheld hlast => ?_
        · rw [Heap.write_same, ← hnames]
          rfl
        · rw [Heap.write_same, ← hassignmentId]
        · have hstage₂ := congrArg SoftwareDeliveryWorkflow.currentStage
            (Heap.write_same (h₁.write (.executionIds v) (h (.executionIds v) ++
              [resolvedExecutionId])) (.workflow v)
              { h₁ (.workflow v) with failureReason := some error.message })
          rw [hstage₂.trans hstage₁]
          exact ⟨rfl, hheld, hlast⟩
    rw [meets_ite]
    refine ⟨fun _ => ?_, fun _ => ?_⟩
    · -- a reset puts the item back to the same assignment
      refine Meets.bind ((resetFailedExecution_spec henv).mono ?_ fun _ _ hE => .of_clean _ hE)
      rintro _ h₁ ⟨-, hitem₁, hframe₁⟩
      have hassigned := hwired.assignment hholds.mem
      rw [hassignment] at hitem₁ hframe₁
      have hpackage : (h (.assignment (assignmentIdOf v))).packageId = packageIdOf v :=
        congrArg (·.2.1) hassigned
      have hworkItem : (h (.assignment (assignmentIdOf v))).workItemId = workItemIdOf v :=
        congrArg (·.2.2) hassigned
      rw [hpackage, hworkItem] at hitem₁ hframe₁
      unfold setFailureReason
      simp only [meets_bind_assoc, meets_read_bind, meets_write_bind]
      refine Meets.moveTo Committed.of_clean fun _ t₁ => ?_
      rw [Heap.write_same, Heap.write_write]
      refine hcoherent.move hv hframe₁ (by simp [Private]) (by simp) .assigned ?_ ?_ hitem₁ ?_
      · rw [hframe₁ _ (by simp)]
        rfl
      · rw [hframe₁ _ (by simp)]
      · refine ⟨rfl, hholds.frame ?_ ?_ ?_⟩
        · rw [Heap.write_same, hframe₁ _ (by simp)]
        · rw [Heap.write_of_ne _ _ (by simp), hframe₁ _ (by simp)]
        · rw [Heap.write_of_ne _ _ (by simp), hframe₁ _ (by simp)]
    rw [meets_ite, meets_raise]
    refine ⟨fun _ => ?_, fun _ => .of_clean _ rfl⟩
    · -- a cancellation closes the assignment
      refine Meets.bind ((cancelFailedAssignment_spec henv hid).mono ?_
        fun _ _ hE => .of_clean _ hE)
      rintro _ h₁ ⟨-, hclosed⟩
      rw [hassignment] at hclosed
      have hunassigned := hclosed.unassigned hwired _ hothers
      refine Meets.moveTo Committed.of_clean fun _ t₁ => ?_
      refine hunassigned.coherent hcoherent hv ?_ rfl
      rw [hunassigned.workflow]
      rfl
  · intro _ h₁ hcoherent₁
    refine Meets.bind (Meets.publishWorkflow henv Committed.of_clean ?_)
    refine Meets.bind (meets_ite.mpr ⟨fun _ => ?_, fun _ => ?_⟩)
    · exact Meets.publishWorkflow henv Committed.of_clean (meets_read.mpr hcoherent₁)
    · exact meets_pure.mpr (meets_read.mpr hcoherent₁)

/-! ## Submitting and assigning -/

theorem assignWork_keeps (henv : env.Sound) (hquiet : services.Quiet) (v : String) :
    Keeps env (assignWork services v) := by
  refine Keeps.workflowOperation henv hquiet fun h hcoherent => ?_
  refine Meets.getWorkflow_bind Committed.of_clean fun hv => ?_
  have hwired := hcoherent.wired v hv
  unfold requireStage
  rw [meets_raiseIf_bind, ne_eq, not_not]
  refine ⟨fun _ => .of_clean _ rfl, fun hstage => ?_⟩
  refine Meets.requestOf_bind Committed.of_clean fun request => ?_
  rw [hwired.id_eq, hwired.packageId_eq, hwired.workItemId_eq]
  refine Meets.bind ((assignWorkItem_spec henv).mono ?_ fun _ _ hE => .of_clean _ hE)
  intro assignment h₁ hassigned
  have hframe₁ := hassigned.frame
  rw [meets_read_bind, meets_write_bind]
  refine Meets.bind (Meets.moveTo Committed.of_clean fun _ t₁ => ?_)
  refine Meets.bind (Meets.publishWorkflow henv Committed.of_clean (meets_read.mpr ?_))
  rw [Heap.write_same, Heap.write_write, hassigned.id_eq]
  have hframe : Touches [.workflow v, .workItem (packageIdOf v) (workItemIdOf v),
      .workPackage (packageIdOf v), .agent assignment.agentId, .assignment (assignmentIdOf v),
      .assignments] h (h₁.write (.workflow v)
        { h₁ (.workflow v) with
          assignmentId := some (assignmentIdOf v), currentStage := .assigned, updatedAt := t₁ }) :=
    (SameOutside.write_iff (by simp) _).mpr (hframe₁.mono (by simp))
  have hpackages := hframe .workPackages (by simp)
  have hexecutions := hframe .executions (by simp)
  have hworkflows := hframe .workflows (by simp)
  have hfiled : assignment.names = (assignmentIdOf v, packageIdOf v, workItemIdOf v) := by
    rw [WorkAssignment.names, hassigned.id_eq, hassigned.packageId_eq, hassigned.workItemId_eq]
  refine hcoherent.of_touches (v := v) hframe (by simp [Private]) ?_ ?_ ?_ ?_ ?_ ?_
  · rw [hpackages]
    exact List.Subset.refl _
  · rw [hexecutions]
    exact List.Subset.refl _
  · intro a hne
    rw [Heap.write_of_ne _ _ (by simp), hassigned.keys]
    simp [hne]
  · intro w
    rw [hworkflows]
    refine (or_iff_left_of_imp ?_).symm
    rintro rfl
    exact hv
  · exact
      { workflow := by
          rw [Heap.write_same, ← hwired.workflow, ← hframe₁ (.workflow v) (by simp)]
          rfl
        package_mem := by rw [hpackages]; exact hwired.package_mem
        item_mem := by rw [hframe _ (by simp)]; exact hwired.item_mem
        executions := by
          intro id hid
          rw [hframe _ (by simp)] at hid
          rw [hexecutions, hframe (.execution id) (by simp)]
          exact hwired.executions id hid
        assignment := fun _ => by rw [Heap.write_of_ne _ _ (by simp), hassigned.filed, hfiled] }
  · refine Settled.intro .assigned .assigned ?_ ?_ ⟨rfl, ?_, ?_, ?_⟩
    · rw [Heap.write_same]
    · rw [Heap.write_of_ne _ _ (by simp), hassigned.item]
    · rw [Heap.write_same]
    · rw [Heap.write_of_ne _ _ (by simp), hassigned.keys]
      simp
    · rw [Heap.write_of_ne _ _ (by simp), hassigned.filed, hassigned.active]

/-- A new workflow is wired to its new package and item, and in `INTAKE`. -/
theorem submitRequest_keeps (henv : env.Sound) (hquiet : services.Quiet)
    (request : SoftwareDeliveryRequest) (workflowId : Option String) :
    Keeps env (submitRequest services request workflowId) := by
  refine Keeps.workflowOperation henv hquiet fun h hcoherent => ?_
  generalize orDefaultString workflowId request.id = v
  unfold newWorkflow validateRequiredString
  simp only [meets_raiseIf_bind, meets_read_bind]
  refine ⟨fun _ => .of_clean _ rfl, fun _ => ⟨fun _ => .of_clean _ rfl, fun hnew => ?_⟩⟩
  have hv : v ∉ h .workflows := fun hmem => hnew (.inl hmem)
  rw [meets_bind_assoc]
  refine Meets.now_bind fun createdAt => ?_
  rw [meets_bind_assoc]
  refine Meets.now_bind fun updatedAt => ?_
  simp only [meets_bind_assoc, meets_raiseIf_bind, meets_pure_bind, meets_write_bind]
  refine ⟨fun _ => .of_clean _ rfl, fun _ => ⟨fun _ => .of_clean _ rfl, fun _ =>
    ⟨fun _ => .of_clean _ rfl, fun _ => ⟨fun _ => .of_clean _ rfl, fun _ => ?_⟩⟩⟩⟩
  refine Meets.bind ((createWorkPackage_spec henv).mono ?_ fun _ _ hE => .of_clean _ hE)
  rintro _ h₂ ⟨-, hpackages₂, hitems₂, hframe₂⟩
  refine Meets.bind ((addWorkItem_spec henv).mono ?_ fun _ _ hE => .of_clean _ hE)
  rintro _ h₃ ⟨-, -, hitems₃, hitem₃, hframe₃⟩
  refine Meets.bind (Meets.publishWorkflow henv Committed.of_clean (meets_read.mpr ?_))
  have hframe : Touches [.workflow v, .executionIds v, .workflows, .requests, .workPackages,
      .workPackage (packageIdOf v), .workItems (packageIdOf v), .artifacts (packageIdOf v),
      .workItem (packageIdOf v) (workItemIdOf v)] h h₃ := by
    refine SameOutside.trans ?_ ((hframe₂.mono (by simp)).trans (hframe₃.mono (by simp)))
    refine (SameOutside.write_iff (by simp) _).mpr ((SameOutside.write_iff (by simp) _).mpr ?_)
    refine (SameOutside.write_iff (by simp) _).mpr ((SameOutside.write_iff (by simp) _).mpr ?_)
    exact SameOutside.refl _ h
  have hsame : ∀ l, l ∉ [Loc.workPackages, .workPackage (packageIdOf v),
      .workItems (packageIdOf v), .artifacts (packageIdOf v)] →
      l ∉ [Loc.workPackage (packageIdOf v), .workItems (packageIdOf v),
        .workItem (packageIdOf v) (workItemIdOf v)] → h₃ l = _ :=
    fun l h₂l h₃l => (hframe₃ l h₃l).trans (hframe₂ l h₂l)
  have hworkflow := hsame (.workflow v) (by simp) (by simp)
  have hids := hsame (.executionIds v) (by simp) (by simp)
  have hworkflows := hsame .workflows (by simp) (by simp)
  simp only [Heap.write_same, Heap.write_of_ne _ _, ne_eq, reduceCtorEq, not_false_eq_true]
    at hworkflow hids hworkflows
  have hexecutions : h₃ .executions = h .executions := hframe _ (by simp)
  have hassignments : h₃ .assignments = h .assignments := hframe _ (by simp)
  have hnone : assignmentIdOf v ∉ h₃ .assignments := by
    rw [hassignments]
    intro hmem
    obtain ⟨w, hw, hown⟩ := hcoherent.keys _ hmem
    rw [assignmentIdOf_inj.mp hown] at hv
    exact hv hw
  have hpackages : h₃ .workPackages = h .workPackages ++ [packageIdOf v] := by
    rw [hframe₃ _ (by simp), hpackages₂]
    rfl
  refine hcoherent.of_touches (v := v) hframe (by simp [Private]) ?_ ?_ ?_ ?_ ?_ ?_
  · rw [hpackages]
    exact List.subset_append_left _ _
  · rw [hexecutions]
    exact List.Subset.refl _
  · intro a _
    rw [hassignments]
  · intro w
    simp [hworkflows]
  · exact
      { workflow := by rw [hworkflow]; rfl
        package_mem := by simp [hpackages]
        item_mem := by
          rw [hitems₃]
          exact List.mem_append_right _ (by simp)
        executions := by
          intro id hid
          rw [hids] at hid
          cases hid
        assignment := fun hmem => absurd hmem hnone }
  · refine Settled.intro .intake .created ?_ hitem₃ ⟨rfl, hnone⟩
    rw [hworkflow]

/-! ## Agents -/

theorem Coherent.of_agent (hcoherent : Coherent h) (agentId : String)
    (hframe : Touches [.agents, .agent agentId, .supportedCapabilities agentId] h h') :
    Coherent h' := by
  have hexecutions := hframe .executions (by simp)
  refine hcoherent.of_untouched (hframe _ (by simp)) (hframe _ (by simp)) fun w hw => ?_
  exact
    { workflow := hframe _ (by simp)
      executionIds := hframe _ (by simp)
      package_mem := by
        rw [hframe _ (by simp)]
        exact (hcoherent.wired w hw).package_mem
      workItems := hframe _ (by simp)
      workItem := hframe _ (by simp)
      executions := fun id hid => ⟨by rw [hexecutions]; exact hid, hframe _ (by simp)⟩
      assignment_mem := by rw [hframe .assignments (by simp)]
      assignment := fun _ => hframe _ (by simp) }

theorem registerAgent_keeps (henv : env.Sound) (agent : AgentMetadata)
    (supportedCapabilities : List AgentCapability) :
    Keeps env (registerAgent agent supportedCapabilities) := by
  refine Keeps.atomicDomainOperation henv (fun _ => rfl) fun h hcoherent => ?_
  simp only [meets_read_bind, meets_raiseIf_bind, meets_write_bind]
  refine ⟨fun _ => .of_clean _ rfl, fun _ => ?_⟩
  refine Meets.bind (Meets.publish henv (fun _ => meets_pure.mpr ?_) Committed.of_clean)
  exact hcoherent.of_agent agent.id (by simp)

theorem updateAgentState_keeps (henv : env.Sound) (agentId : String) (newState : AgentState) :
    Keeps env (updateAgentState agentId newState) := by
  refine Keeps.atomicDomainOperation henv (fun _ => rfl) fun h hcoherent => ?_
  unfold setAgentState
  refine Meets.getAgent_bind Committed.of_clean fun _ => ?_
  simp only [meets_bind_assoc, meets_read_bind, meets_raiseIf_bind, meets_write_bind]
  refine ⟨fun _ => .of_clean _ rfl, fun _ => ?_⟩
  refine Meets.bind (Meets.publish henv (fun _ => meets_read.mpr ?_) Committed.of_clean)
  exact hcoherent.of_agent agentId (by simp)

/-! ## Runs -/

/-- The calls of a delivery run: the operations of the workflow service, and registrations
and state changes of agents. -/
def Operation.isDelivery : Operation → Bool
  | .registerAgent .. | .updateAgentState .. | .submitRequest .. | .planRequest ..
  | .prepareWork .. | .assignWork .. | .executeWork .. | .approveWork .. | .rejectWork ..
  | .completeWork .. | .releaseWork .. | .cancelWorkflow .. | .recoverFailedExecution .. => true
  | _ => false

/-- What a delivery run takes for granted: calls that fail do not raise
`ExecutionFailedError`, executors answer or raise without calling the services again,
and the persistence callback changes nothing. -/
structure Ordinary (services : Services) (env : Environment) : Prop where
  sound : env.Sound
  passive : ∀ executor ∈ services.executors, executor.Passive env
  quiet : services.Quiet

/-- No executor raises an `ExecutionFailedError` of its own. -/
def Foreign (services : Services) (env : Environment) : Prop :=
  ∀ executor ∈ services.executors, executor.RaisesForeign env

/-- The worlds that delivery runs reach, when every call meets a condition. -/
inductive Delivery (P : Services → Environment → Prop) : World → Prop
  | init : Delivery P World.init
  | call {w : World} {services : Services} {env : Environment} {operation : Operation}
      (hw : Delivery P w) (hdelivery : operation.isDelivery = true)
      (hordinary : Ordinary services env) (hcondition : P services env) :
      Delivery P ((perform services operation).run env w).2

theorem Delivery.current_eq_none {P : Services → Environment → Prop} {w : World}
    (hw : Delivery P w) : w.current = none := by
  induction hw with
  | init => rfl
  | @call w services env operation hw _ _ _ ih =>
    have hwithin := (perform services operation).within env w
    unfold Within at hwithin
    rw [ih] at hwithin
    exact hwithin

theorem Keeps.call {operation : Operation} (hdelivery : operation.isDelivery = true)
    (hordinary : Ordinary services env) (hforeign : Foreign services env) :
    Keeps env (perform services operation) := by
  have henv := hordinary.sound
  have hquiet := hordinary.quiet
  have hanswering : Answering env services.executors :=
    fun executor hmem => ⟨hordinary.passive executor hmem, hforeign executor hmem⟩
  cases operation
  case registerAgent => exact (registerAgent_keeps henv _ _).map _
  case updateAgentState => exact (updateAgentState_keeps henv _ _).map _
  case submitRequest => exact (submitRequest_keeps henv hquiet _ _).map _
  case planRequest => exact (planRequest_keeps henv hquiet _).map _
  case prepareWork => exact (prepareWork_keeps henv hquiet _).map _
  case assignWork => exact (assignWork_keeps henv hquiet _).map _
  case executeWork => exact (executeWork_keeps henv hquiet hanswering _ _).map _
  case approveWork => exact (approveWork_keeps henv hquiet _).map _
  case rejectWork => exact (rejectWork_keeps henv hquiet _ _).map _
  case completeWork => exact (completeWork_keeps henv hquiet _).map _
  case releaseWork => exact (releaseWork_keeps henv hquiet _).map _
  case cancelWorkflow => exact (cancelWorkflow_keeps henv hquiet _ _).map _
  case recoverFailedExecution =>
    exact (recoverFailedExecution_keeps henv hquiet hanswering _ _ _ _ _).map _
  all_goals cases hdelivery

theorem Coherent.init : Coherent World.init.heap where
  keys := by
    intro id hid
    cases hid
  wired := by
    intro w hw
    cases hw
  settled := by
    intro w hw
    cases hw

theorem Delivery.coherent {w : World} (hw : Delivery Foreign w) : Coherent w.heap := by
  induction hw with
  | init => exact Coherent.init
  | call hw hdelivery hordinary hforeign ih =>
      exact Keeps.call hdelivery hordinary hforeign _ hw.current_eq_none ih

def performAll (services : Services) (env : Environment) (operations : List Operation)
    (w : World) : World :=
  operations.foldl (fun w operation => ((perform services operation).run env w).2) w

theorem Delivery.performAll {P : Services → Environment → Prop}
    (hordinary : Ordinary services env) (hcondition : P services env)
    {operations : List Operation} {w : World} (hw : Delivery P w)
    (hdelivery : ∀ operation ∈ operations, operation.isDelivery = true) :
    Delivery P (performAll services env operations w) := by
  induction operations generalizing w with
  | nil => exact hw
  | cons operation operations ih =>
    have hfirst := hdelivery operation (List.mem_cons_self ..)
    exact ih (.call hw hfirst hordinary hcondition)
      fun other hother => hdelivery other (List.mem_cons_of_mem _ hother)

/-- Every reading is the time and no failure. -/
def clockOnly : Environment := fun n => { now := n }

theorem clockOnly_sound : clockOnly.Sound := by
  intro n error herror
  cases herror

def backendRequest : SoftwareDeliveryRequest where
  id := "r"
  title := "title"
  description := "text"
  requestedBy := "owner"
  requiredRole := .backendEngineer
  requiredCapabilities := []
  acceptanceCriteria := ["done"]
  priority := "normal"
  correlationId := none
  createdAt := 0
  required_strings := by decide
  correlationId_string := by simp
  capability_strings := by simp
  capabilities_nodup := by decide
  criteria_nonempty := by decide
  criteria_strings := by decide
  criteria_nodup := by decide

/-- From the registration of an agent to the first execution of the request. -/
def firstExecution : List Operation :=
  [.registerAgent ⟨"a", "agent", .backendEngineer, "text", .available, 1, 0⟩ [],
    .submitRequest backendRequest none, .planRequest "r", .assignWork "r",
    .executeWork "r" none]

/-- An executor that always raises the same error. -/
def raisingExecutor (error : RuntimeError) : Executor where
  executorId := "e"
  supportedRoles := [.backendEngineer]
  supportedCapabilities := []
  execute _ := raise error

/-- Services with an executor that always raises the same error. -/
def raisingServices (error : RuntimeError) : Services where
  executors := [raisingExecutor error]

theorem raisingServices_ordinary (error : RuntimeError) :
    Ordinary (raisingServices error) clockOnly where
  sound := clockOnly_sound
  passive := by
    intro executor hmem context h
    rw [List.mem_singleton.mp hmem]
    exact meets_raise.mpr rfl
  quiet := by
    intro callback hmem
    cases hmem

theorem LastExecutionIs.unique {status status' : ExecutionStatus}
    (hlast : LastExecutionIs h v status) (hlast' : LastExecutionIs h v status') :
    status = status' := by
  obtain ⟨id, hid, -, hstatus⟩ := hlast
  obtain ⟨id', hid', -, hstatus'⟩ := hlast'
  obtain rfl : id = id' := Option.some.inj (hid.symm.trans hid')
  rw [← hstatus, hstatus']

end Runtime
end Ascos
