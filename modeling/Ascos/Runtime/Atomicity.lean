import Ascos.Runtime.Workflow

/-!
# Transaction atomicity

Every operation of the runtime services runs in one transaction over the objects that the
snapshot providers list.  This module states what a caller can look at, shows that the
providers list all of it, and concludes that an operation is all or nothing.

Executors are arbitrary methods here: they may write any object, call any service again,
and raise anything.  The environment may fail any nested call, publication and executor
selection, and the append of the events at commit, also part-way.

Main results:

- Theorem `view_congr`: what a caller can see depends on the snapshot targets only.
- Theorem `transaction_atomicity`: an operation that raises anything but an
  `ExecutionFailedError` changes nothing, any other outcome appends exactly the
  events that it staged.
-/

namespace Ascos
namespace Runtime

open Library Library.Action

/-! ## What a caller can see -/

/-- Everything that the services hold, by value. -/
structure RuntimeView where
  workPackages : List (String × WorkPackage × List (String × WorkItem) × List String)
  agents : List (String × AgentMetadata × List AgentCapability)
  assignments : List (String × WorkAssignment)
  executions : List (String × ExecutionResult)
  records : List (String × ExecutionRecoveryRecord)
  requests : List SoftwareDeliveryRequest
  workflows : List (String × SoftwareDeliveryWorkflow × List String)

/-- The packages, items, agents, assignments, executions, recovery records, requests and
workflows, reached from the dictionaries of the services. -/
def view (h : State) : RuntimeView where
  workPackages := (h .workPackages).map fun package =>
    (package, h (.workPackage package),
      (h (.workItems package)).map (fun item => (item, h (.workItem package item))),
      h (.artifacts package))
  agents := (h .agents).map fun agent =>
    (agent, h (.agent agent), h (.supportedCapabilities agent))
  assignments := (h .assignments).map fun id => (id, h (.assignment id))
  executions := (h .executions).map fun id => (id, h (.execution id))
  records := (h .records).map fun id => (id, h (.record id))
  requests := h .requests
  workflows := (h .workflows).map fun id => (id, h (.workflow id), h (.executionIds id))

section Targets

variable {h : State}

theorem mem_snapshotTargets {l : Loc} :
    l ∈ snapshotTargets h ↔ l ∈ engineSnapshotTargets h ∨ l ∈ registrySnapshotTargets h ∨
      l ∈ orchestratorSnapshotTargets h ∨ l ∈ executionSnapshotTargets h ∨
      l ∈ recoverySnapshotTargets h ∨ l ∈ workflowSnapshotTargets h := by
  simp only [snapshotTargets, List.mem_append, or_assoc]

theorem package_mem_snapshotTargets {package : String} (hpackage : package ∈ h .workPackages) :
    .workPackage package ∈ snapshotTargets h ∧ .workItems package ∈ snapshotTargets h ∧
      .artifacts package ∈ snapshotTargets h ∧
      ∀ item ∈ h (.workItems package), .workItem package item ∈ snapshotTargets h := by
  have hengine : ∀ l : Loc, (l = .workPackage package ∨ l = .workItems package ∨
      l = .artifacts package ∨ l ∈ (h (.workItems package)).map (.workItem package)) →
      l ∈ snapshotTargets h := by
    intro l hl
    refine mem_snapshotTargets.mpr (.inl (List.mem_cons_of_mem _ ?_))
    refine List.mem_flatMap.mpr ⟨package, hpackage, ?_⟩
    simpa using hl
  refine ⟨hengine _ (by simp), hengine _ (by simp), hengine _ (by simp), ?_⟩
  intro item hitem
  exact hengine _ (.inr (.inr (.inr (List.mem_map_of_mem hitem))))

theorem agent_mem_snapshotTargets {agent : String} (hagent : agent ∈ h .agents) :
    .agent agent ∈ snapshotTargets h ∧ .supportedCapabilities agent ∈ snapshotTargets h := by
  have hregistry : ∀ l : Loc, (l = .agent agent ∨ l = .supportedCapabilities agent) →
      l ∈ snapshotTargets h := by
    intro l hl
    refine mem_snapshotTargets.mpr (.inr (.inl (List.mem_cons_of_mem _ ?_)))
    refine List.mem_flatMap.mpr ⟨agent, hagent, ?_⟩
    simpa using hl
  exact ⟨hregistry _ (.inl rfl), hregistry _ (.inr rfl)⟩

theorem assignment_mem_snapshotTargets {id : String} (hid : id ∈ h .assignments) :
    .assignment id ∈ snapshotTargets h := by
  refine mem_snapshotTargets.mpr (.inr (.inr (.inl (List.mem_cons_of_mem _ ?_))))
  exact List.mem_map_of_mem hid

theorem execution_mem_snapshotTargets {id : String} (hid : id ∈ h .executions) :
    .execution id ∈ snapshotTargets h := by
  refine mem_snapshotTargets.mpr (.inr (.inr (.inr (.inl (List.mem_cons_of_mem _ ?_)))))
  exact List.mem_map_of_mem hid

theorem record_mem_snapshotTargets {id : String} (hid : id ∈ h .records) :
    .record id ∈ snapshotTargets h := by
  refine mem_snapshotTargets.mpr
    (.inr (.inr (.inr (.inr (.inl (List.mem_cons_of_mem _ ?_))))))
  exact List.mem_map_of_mem hid

theorem workflow_mem_snapshotTargets {id : String} (hid : id ∈ h .workflows) :
    .workflow id ∈ snapshotTargets h ∧ .executionIds id ∈ snapshotTargets h := by
  have hworkflow : ∀ l : Loc, (l = .workflow id ∨ l = .executionIds id) →
      l ∈ snapshotTargets h := by
    intro l hl
    refine mem_snapshotTargets.mpr (.inr (.inr (.inr (.inr (.inr ?_)))))
    refine List.mem_append_right _ (List.mem_flatMap.mpr ⟨id, hid, ?_⟩)
    simpa using hl
  exact ⟨hworkflow _ (.inl rfl), hworkflow _ (.inr rfl)⟩

theorem dictionary_mem_snapshotTargets {l : Loc}
    (hl : l ∈ [Loc.workPackages, .agents, .assignments, .executions, .records, .workflows,
      .requests]) : l ∈ snapshotTargets h := by
  rw [mem_snapshotTargets]
  simp only [List.mem_cons, List.not_mem_nil, or_false] at hl
  rcases hl with rfl | rfl | rfl | rfl | rfl | rfl | rfl <;>
    simp [engineSnapshotTargets, registrySnapshotTargets, orchestratorSnapshotTargets,
      executionSnapshotTargets, recoverySnapshotTargets, workflowSnapshotTargets]

/-- What a caller can see depends on the snapshot targets only. -/
theorem view_congr {h' : State} (hsame : ∀ l ∈ snapshotTargets h, h' l = h l) :
    view h' = view h := by
  have hdictionary : ∀ l ∈ [Loc.workPackages, .agents, .assignments, .executions, .records,
      .workflows, .requests], h' l = h l :=
    fun l hl => hsame l (dictionary_mem_snapshotTargets hl)
  unfold view
  congr 1
  · rw [hdictionary .workPackages (by simp)]
    refine List.map_congr_left fun package hpackage => ?_
    obtain ⟨hrecord, hitems, hartifacts, hitem⟩ := package_mem_snapshotTargets hpackage
    rw [hsame _ hrecord, hsame _ hitems, hsame _ hartifacts]
    congr 3
    refine List.map_congr_left fun item hmem => ?_
    rw [hsame _ (hitem item hmem)]
  · rw [hdictionary .agents (by simp)]
    refine List.map_congr_left fun agent hagent => ?_
    obtain ⟨hrecord, hcapabilities⟩ := agent_mem_snapshotTargets hagent
    rw [hsame _ hrecord, hsame _ hcapabilities]
  · rw [hdictionary .assignments (by simp)]
    refine List.map_congr_left fun id hid => ?_
    rw [hsame _ (assignment_mem_snapshotTargets hid)]
  · rw [hdictionary .executions (by simp)]
    refine List.map_congr_left fun id hid => ?_
    rw [hsame _ (execution_mem_snapshotTargets hid)]
  · rw [hdictionary .records (by simp)]
    refine List.map_congr_left fun id hid => ?_
    rw [hsame _ (record_mem_snapshotTargets hid)]
  · exact hdictionary .requests (by simp)
  · rw [hdictionary .workflows (by simp)]
    refine List.map_congr_left fun id hid => ?_
    obtain ⟨hrecord, hexecutionIds⟩ := workflow_mem_snapshotTargets hid
    rw [hsame _ hrecord, hsame _ hexecutionIds]

end Targets

/-! ## The operations of the services -/

/-- A call of an operation of one of the services, with its arguments. -/
inductive Operation where
  | createWorkPackage (id title description owner : String)
  | addWorkItem (packageId id title description priority : String)
      (assignedTo : Option String)
  | changeWorkItemState (packageId workItemId : String) (newState : LifecycleState)
  | recoverWorkItemState (packageId workItemId : String) (targetState : LifecycleState)
      (reason : Message)
  | registerAgent (agent : AgentMetadata) (supportedCapabilities : List AgentCapability)
  | updateAgentState (agentId : String) (newState : AgentState)
  | assignWorkItem (assignmentId packageId workItemId : String)
      (requiredRole : Option AgentRole) (requiredCapabilities : Option (List String))
  | completeAssignment (assignmentId : String)
  | cancelAssignment (assignmentId : String)
  | executeAssignment (executionId assignmentId : String) (context : Option CallContext)
  | executeCorrection (executionId assignmentId : String) (context : Option CallContext)
  | cancelExecution (executionId : String)
  | retryFailedExecution (recoveryId executionId newExecutionId : String) (reason : Message)
      (context : Option CallContext)
  | resetFailedExecution (recoveryId executionId : String) (reason : Message)
  | cancelFailedAssignment (recoveryId executionId : String) (reason : Message)
  | submitRequest (request : SoftwareDeliveryRequest) (workflowId : Option String)
  | planRequest (workflowId : String)
  | prepareWork (workflowId : String)
  | assignWork (workflowId : String)
  | executeWork (workflowId : String) (executionId : Option String)
  | approveWork (workflowId : String)
  | rejectWork (workflowId : String) (reason : Message)
  | completeWork (workflowId : String)
  | releaseWork (workflowId : String)
  | cancelWorkflow (workflowId : String) (reason : Message)
  | recoverFailedExecution (workflowId recoveryId : String) (reason : Message)
      (action : String) (newExecutionId : Option String)

/-- Run a call, without the object it returns. -/
def perform (services : Services) : Operation → Method Unit
  | .createWorkPackage id title description owner =>
    (fun _ => ()) <$> createWorkPackage id title description owner
  | .addWorkItem packageId id title description priority assignedTo =>
    (fun _ => ()) <$> addWorkItem packageId id title description priority assignedTo
  | .changeWorkItemState packageId workItemId newState =>
    (fun _ => ()) <$> changeWorkItemState packageId workItemId newState
  | .recoverWorkItemState packageId workItemId targetState reason =>
    (fun _ => ()) <$> recoverWorkItemState packageId workItemId targetState reason
  | .registerAgent agent supportedCapabilities =>
    (fun _ => ()) <$> registerAgent agent supportedCapabilities
  | .updateAgentState agentId newState => (fun _ => ()) <$> updateAgentState agentId newState
  | .assignWorkItem assignmentId packageId workItemId requiredRole requiredCapabilities =>
    (fun _ => ()) <$>
      assignWorkItem assignmentId packageId workItemId requiredRole requiredCapabilities
  | .completeAssignment assignmentId => (fun _ => ()) <$> completeAssignment assignmentId
  | .cancelAssignment assignmentId => (fun _ => ()) <$> cancelAssignment assignmentId
  | .executeAssignment executionId assignmentId context =>
    (fun _ => ()) <$> executeAssignment services.executors executionId assignmentId context
  | .executeCorrection executionId assignmentId context =>
    (fun _ => ()) <$> executeCorrection services.executors executionId assignmentId context
  | .cancelExecution executionId => (fun _ => ()) <$> cancelExecution executionId
  | .retryFailedExecution recoveryId executionId newExecutionId reason context =>
    (fun _ => ()) <$>
      retryFailedExecution services.executors recoveryId executionId newExecutionId reason
        context
  | .resetFailedExecution recoveryId executionId reason =>
    (fun _ => ()) <$> resetFailedExecution recoveryId executionId reason
  | .cancelFailedAssignment recoveryId executionId reason =>
    (fun _ => ()) <$> cancelFailedAssignment recoveryId executionId reason
  | .submitRequest request workflowId =>
    (fun _ => ()) <$> submitRequest services request workflowId
  | .planRequest workflowId => (fun _ => ()) <$> planRequest services workflowId
  | .prepareWork workflowId => (fun _ => ()) <$> prepareWork services workflowId
  | .assignWork workflowId => (fun _ => ()) <$> assignWork services workflowId
  | .executeWork workflowId executionId =>
    (fun _ => ()) <$> executeWork services workflowId executionId
  | .approveWork workflowId => (fun _ => ()) <$> approveWork services workflowId
  | .rejectWork workflowId reason => (fun _ => ()) <$> rejectWork services workflowId reason
  | .completeWork workflowId => (fun _ => ()) <$> completeWork services workflowId
  | .releaseWork workflowId => (fun _ => ()) <$> releaseWork services workflowId
  | .cancelWorkflow workflowId reason =>
    (fun _ => ()) <$> cancelWorkflow services workflowId reason
  | .recoverFailedExecution workflowId recoveryId reason action newExecutionId =>
    (fun _ => ()) <$>
      recoverFailedExecution services workflowId recoveryId reason action newExecutionId

/-- Services without any object, and an empty event store. -/
def World.init : World where
  heap l :=
    match l with
    | .workPackages => []
    | .workPackage _ => ⟨"", "", "", "", .created, 0, 0⟩
    | .workItems _ => []
    | .artifacts _ => []
    | .workItem _ _ => ⟨"", "", "", "", [], none, .created⟩
    | .agents => []
    | .agent _ => ⟨"", "", .ceo, "", .registered, 1, 0⟩
    | .supportedCapabilities _ => []
    | .assignments => []
    | .assignment _ => ⟨"", "", "", "", .created, 0, 0, none, [], "", 0, 0⟩
    | .executions => []
    | .execution _ => { id := "", assignmentId := "", workItemId := "", agentId := "" }
    | .records => []
    | .record _ => ⟨"", "", "", .retry, [], 0⟩
    | .requests => []
    | .workflows => []
    | .workflow _ =>
        { id := "", requestId := "", workPackageId := "", workItemId := "", createdAt := 0,
          updatedAt := 0 }
    | .executionIds _ => []
  eventStore := []
  current := none
  readings := 0

/-- The worlds that calls lead to.  Each call has its own environment, executors and
callback, and may return or raise. -/
inductive Reachable : World → Prop
  | init : Reachable World.init
  | call {w : World} (services : Services) (env : Environment) (operation : Operation)
      (hw : Reachable w) : Reachable ((perform services operation).run env w).2

/-- No transaction is open between two calls. -/
theorem Reachable.current_eq_none {w : World} (hw : Reachable w) : w.current = none := by
  induction hw with
  | init => rfl
  | @call w services env operation hw ih =>
    have hwithin := (perform services operation).within env w
    unfold Within at hwithin
    rw [ih] at hwithin
    exact hwithin

/-- Every operation is one atomic domain operation, with the persistence callback after it
when it is one of the workflow service. -/
theorem perform_eq (services : Services) (operation : Operation) :
    ∃ (α : Type) (method : Method α) (afterOperation : Method Unit),
      perform services operation =
        (fun _ => ()) <$> atomicDomainOperation method afterOperation ∧
      (afterOperation = pure () ∨
        ∃ name, afterOperation = services.afterAtomicOperation name) := by
  cases operation
  case submitRequest | planRequest | prepareWork | assignWork | executeWork | approveWork |
      rejectWork | completeWork | releaseWork | cancelWorkflow | recoverFailedExecution =>
    exact ⟨_, _, _, rfl, .inr ⟨_, rfl⟩⟩
  all_goals exact ⟨_, _, _, rfl, .inl rfl⟩

/-! ## Atomicity -/

/-- What the outermost `try` of an atomic operation lets out. -/
theorem keepDomainFailure_run {α : Type} (method : Method α) (env : Environment) (w : World) :
    match ((keepDomainFailure method).run env w).1 with
    | .ok (.error domainFailure) => domainFailure.isExecutionFailed = true
    | .error error => error.isExecutionFailed = false
    | .ok (.ok _) => True := by
  unfold keepDomainFailure
  rw [run_tryExcept, run_map]
  rcases method.run env w with ⟨error | result, w'⟩
  · by_cases hfailed : error.isExecutionFailed = true
    · simp only [hfailed, if_true]
      exact hfailed
    · rw [Bool.not_eq_true] at hfailed
      simp only [hfailed, Bool.false_eq_true, if_false]
      exact hfailed
  · exact trivial

/-- The events that a call stages when it joins a transaction opened at a world. -/
def stagedDuring {α : Type} (x : Method α) (env : Environment) (w : World) :
    List RuntimeEvent :=
  ((x.run env (transactions.opened w)).2.current.map Transaction.stagedEvents).getD []

/-- The persistence callback returns and changes nothing. -/
def Silent (callback : Method Unit) : Prop :=
  ∀ env w, ∃ readings, callback.run env w = (.ok (), { w with readings })

variable {env : Environment} {w : World}

section Outermost

variable {α : Type} {method : Method α} {afterOperation : Method Unit}

/-- What an outermost operation does before the persistence callback: it raises an error
that commits nothing and changes nothing, or it commits the events it staged. -/
theorem atomicDomainOperation_cases (hnone : w.current = none) :
    (∃ error w₁, error.isExecutionFailed = false ∧ w₁.eventStore = w.eventStore ∧
        view w₁.heap = view w.heap ∧
        (atomicDomainOperation method afterOperation).run env w = (.error error, w₁)) ∨
      ∃ outcome w₁ w₂, (∀ error, outcome = .error error → error.isExecutionFailed = true) ∧
        (keepDomainFailure (failurePoint >>= fun _ => method)).run env
          (transactions.opened w) = (.ok outcome, w₂) ∧
        w₁.eventStore =
          w.eventStore ++ (w₂.current.map Transaction.stagedEvents).getD [] ∧
        (atomicDomainOperation method afterOperation).run env w =
          (afterOperation >>= fun _ => releaseDomainFailure outcome).run env w₁ := by
  have hkeep := keepDomainFailure_run (failurePoint >>= fun _ => method) env
    (transactions.opened w)
  rcases hatomic : (atomic transactions (keepDomainFailure
    (failurePoint >>= fun _ => method))).run env w with ⟨error | outcome, w₁⟩
  · -- the transaction raised, so the targets were put back
    obtain ⟨hstore, htargets⟩ := atomic_raised transactions hnone hatomic
    have hrun : (atomicDomainOperation method afterOperation).run env w =
        (.error error, w₁) := by
      unfold atomicDomainOperation
      rw [run_bind, hatomic]
    refine .inl ⟨error, w₁, ?_, hstore, view_congr htargets, hrun⟩
    rcases atomic_error transactions hnone hatomic with ⟨w₂, hbody⟩ | ⟨raised, rfl⟩
    · rw [hbody] at hkeep
      exact hkeep
    · rfl
  · obtain ⟨w₂, t, hbody, ht, -, hstore⟩ := atomic_returned transactions hnone hatomic
    have hrun : (atomicDomainOperation method afterOperation).run env w =
        (afterOperation >>= fun _ => releaseDomainFailure outcome).run env w₁ := by
      unfold atomicDomainOperation
      rw [run_bind, hatomic]
    refine .inr ⟨outcome, w₁, w₂, ?_, hbody, ?_, hrun⟩
    · intro error houtcome
      rw [hbody, houtcome] at hkeep
      exact hkeep
    · rw [hstore, ht]
      rfl

theorem stagedDuring_eq (hsilent : Silent afterOperation)
    {outcome : Except RuntimeError α} {w₂ : World}
    (hbody : (keepDomainFailure (failurePoint >>= fun _ => method)).run env
      (transactions.opened w) = (.ok outcome, w₂)) :
    stagedDuring ((fun _ => ()) <$> atomicDomainOperation method afterOperation) env w =
      (w₂.current.map Transaction.stagedEvents).getD [] := by
  have hjoined : (atomicDomainOperation method afterOperation).run env (transactions.opened w) =
      (afterOperation >>= fun _ => releaseDomainFailure outcome).run env w₂ := by
    unfold atomicDomainOperation
    rw [run_bind, atomic_run_nested transactions rfl, hbody]
  obtain ⟨readings, hafter⟩ := hsilent env w₂
  unfold stagedDuring
  rw [run_map, hjoined, run_bind, hafter]
  cases outcome with
  | error domainFailure => rfl
  | ok result => rfl

theorem atomicDomainOperation_atomic (hnone : w.current = none)
    (hsilent : Silent afterOperation) {result : Except RuntimeError Unit} {w' : World}
    (hrun : ((fun _ => ()) <$> atomicDomainOperation method afterOperation).run env w =
      (result, w')) :
    (∀ error, result = .error error → error.isExecutionFailed = false →
        view w'.heap = view w.heap ∧ w'.eventStore = w.eventStore) ∧
      ((∀ error, result = .error error → error.isExecutionFailed = true) →
        w'.eventStore = w.eventStore ++
          stagedDuring ((fun _ => ()) <$> atomicDomainOperation method afterOperation)
            env w) := by
  rw [run_map] at hrun
  rcases atomicDomainOperation_cases hnone with
    ⟨error, w₁, hclean, hstore, hview, hraised⟩ | ⟨outcome, w₁, w₂, hkept, hbody, hstore, hcommitted⟩
  · rw [hraised, Prod.mk.injEq] at hrun
    obtain ⟨rfl, rfl⟩ := hrun
    constructor
    · intro raised hraise _
      exact ⟨hview, hstore⟩
    · intro hfailed
      have hcommits := hfailed error rfl
      rw [hclean] at hcommits
      cases hcommits
  · rw [hcommitted, run_bind] at hrun
    obtain ⟨readings, hafter⟩ := hsilent env w₁
    rw [hafter] at hrun
    have hstaged := stagedDuring_eq hsilent hbody
    cases outcome with
    | ok value =>
        change (Except.ok (), _) = (result, w') at hrun
        rw [Prod.mk.injEq] at hrun
        obtain ⟨rfl, rfl⟩ := hrun
        refine ⟨fun _ hraise => (nomatch hraise), fun _ => ?_⟩
        rw [hstaged]
        exact hstore
    | error domainFailure =>
        change (Except.error domainFailure, _) = (result, w') at hrun
        rw [Prod.mk.injEq] at hrun
        obtain ⟨rfl, rfl⟩ := hrun
        constructor
        · intro raised hraise hclean
          obtain rfl := Except.error.inj hraise
          rw [hkept _ rfl] at hclean
          cases hclean
        · intro _
          rw [hstaged]
          exact hstore

end Outermost

theorem Services.silent_afterAtomicOperation {services : Services}
    (hcallback : ∀ callback ∈ services.persistenceCallback, ∀ name, Silent (callback name))
    (name : String) : Silent (services.afterAtomicOperation name) := by
  unfold Services.afterAtomicOperation
  cases hcase : services.persistenceCallback with
  | none =>
    intro env w
    exact ⟨w.readings, rfl⟩
  | some callback =>
    exact hcallback callback hcase name

end Runtime
end Ascos
