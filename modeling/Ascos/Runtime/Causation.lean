import Ascos.Runtime.Delivery
import Ascos.Runtime.Uncorrelated

/-!
# Causation in delivery workflows

`SoftwareDeliveryWorkflowService` publishes every event with the correlation id of its
workflow and with the last event of that correlation, stored or staged, as its cause; the
events of an execution carry a context that was read off before the executor ran.  This module
follows both through every run: shared correlation ids, executors that call the services
again, explicit transactions, caught errors and rollbacks.

Main results:

- Structure `Consistent`: the invariant of workflows and log.
- Theorem `perform_steady`: every operation keeps it, whether it returns or raises.
- Theorem `causation_well_founded`: in every world that clients reach, each stored event
  is caused by the events before it.
- Theorem `workflow_history_kept`: no client loses an event or a workflow.
-/

namespace Ascos
namespace Runtime

open Library Library.Action

variable {α β : Type} {env : Environment} {d d' : Ledger runtime}

/-! ## Causes -/

/-- An event after a log: its cause is an earlier event of the same correlation, and it has
none exactly when it is the first event of its correlation. -/
structure Caused (log : List RuntimeEvent) (event : RuntimeEvent) : Prop where
  cause : ∀ id ∈ event.causationId, ∃ cause ∈ log, cause.id = id ∧
    cause.correlationId = event.correlationId ∧ event.correlationId.isSome
  first : ∀ correlationId ∈ event.correlationId,
    event.causationId = none ↔ ∀ other ∈ log, other.correlationId ≠ some correlationId

theorem Plain.caused {event : RuntimeEvent} (hplain : Plain event) (log : List RuntimeEvent) :
    Caused log event where
  cause := by
    rw [hplain.2]
    simp
  first := by
    rw [hplain.1]
    simp

def Mentions (log : List RuntimeEvent) (correlationId : Option String) : Prop :=
  ∃ event ∈ log, event.correlationId = correlationId

theorem Mentions.mono {log log' : List RuntimeEvent} {correlationId : Option String}
    (h : Mentions log correlationId) (hgrown : log <+: log') : Mentions log' correlationId := by
  obtain ⟨event, hmem, hcorrelation⟩ := h
  exact ⟨event, hgrown.subset hmem, hcorrelation⟩

/-! ## Workflows and their correlations -/

/-- The correlation id of a workflow on record. -/
def correlationOf (h : State) (id : String) : Option String :=
  ((h .requests).find? (·.id == (h (.workflow id)).requestId)).map fun request =>
    orDefaultString request.correlationId (h (.workflow id)).id

/-- The log is caused, every workflow on record has its request, and a failed one has an event
in its correlation. -/
structure Consistent (d : Ledger runtime) : Prop where
  caused : Chronicle Caused d.events
  id_eq : ∀ id ∈ d.cells .workflows, (d.cells (.workflow id)).id = id
  requested : ∀ id ∈ d.cells .workflows, (correlationOf d.cells id).isSome
  told : ∀ id ∈ d.cells .workflows, (d.cells (.workflow id)).currentStage = .failed →
    Mentions d.events (correlationOf d.cells id)

/-- A consistent ledger has become another one: the log has grown, and the workflows on record
still are, with their requests and correlations. -/
structure Grows (d d' : Ledger runtime) : Prop where
  consistent : Consistent d'
  events : d.events <+: d'.events
  filed : ∀ id ∈ d.cells .workflows, id ∈ d'.cells .workflows
  requestId_eq : ∀ id ∈ d.cells .workflows,
    (d'.cells (.workflow id)).requestId = (d.cells (.workflow id)).requestId
  correlation_eq : ∀ id ∈ d.cells .workflows,
    correlationOf d'.cells id = correlationOf d.cells id

theorem Grows.refl (hd : Consistent d) : Grows d d where
  consistent := hd
  events := List.prefix_rfl
  filed _ hid := hid
  requestId_eq _ _ := rfl
  correlation_eq _ _ := rfl

theorem Grows.trans {d'' : Ledger runtime} (h : Grows d d') (h' : Grows d' d'') :
    Grows d d'' where
  consistent := h'.consistent
  events := h.events.trans h'.events
  filed id hid := h'.filed id (h.filed id hid)
  requestId_eq id hid := (h'.requestId_eq id (h.filed id hid)).trans (h.requestId_eq id hid)
  correlation_eq id hid :=
    (h'.correlation_eq id (h.filed id hid)).trans (h.correlation_eq id hid)

theorem correlationOf_congr {h h' : State} {id : String}
    (hrequests : h' .requests = h .requests) (hworkflow : h' (.workflow id) = h (.workflow id)) :
    correlationOf h' id = correlationOf h id := by
  unfold correlationOf
  rw [hrequests, hworkflow]

theorem Grows.of_log (hd : Consistent d) (hcells : SameWorkflows d.cells d'.cells)
    (hgrown : d.events <+: d'.events) (hcaused : Chronicle Caused d'.events) : Grows d d' where
  consistent :=
    { caused := hcaused
      id_eq := by
        rw [hcells.workflows]
        intro id hid
        rw [hcells.workflow]
        exact hd.id_eq id hid
      requested := by
        rw [hcells.workflows]
        intro id hid
        rw [correlationOf_congr hcells.requests (hcells.workflow id)]
        exact hd.requested id hid
      told := by
        rw [hcells.workflows]
        intro id hid hfailed
        rw [hcells.workflow] at hfailed
        rw [correlationOf_congr hcells.requests (hcells.workflow id)]
        exact (hd.told id hid hfailed).mono hgrown }
  events := hgrown
  filed id hid := by
    rw [hcells.workflows]
    exact hid
  requestId_eq id _ := by rw [hcells.workflow]
  correlation_eq id _ := correlationOf_congr hcells.requests (hcells.workflow id)

/-- Standing by keeps everything. -/
theorem Grows.of_bystands (hd : Consistent d) (h : Bystands d d') : Grows d d' := by
  obtain ⟨added, hplain, hlog⟩ := h.events
  refine .of_log hd h.cells (by rw [hlog]; exact List.prefix_append ..) ?_
  rw [hlog]
  exact hd.caused.append fun event hevent earlier => (hplain event hevent).caused earlier

theorem Grows.of_targets {h h' : State} {log : List RuntimeEvent} (hd : Consistent ⟨h, log⟩)
    (htargets : ∀ l ∈ snapshotTargets h, h' l = h l) : Grows ⟨h, log⟩ ⟨h', log⟩ := by
  have hworkflows : h' .workflows = h .workflows :=
    htargets _ (dictionary_mem_snapshotTargets (by simp))
  have hrequests : h' .requests = h .requests :=
    htargets _ (dictionary_mem_snapshotTargets (by simp))
  have hworkflow : ∀ id ∈ h .workflows, h' (.workflow id) = h (.workflow id) :=
    fun id hid => htargets _ (workflow_mem_snapshotTargets hid).1
  have hcorrelation : ∀ id ∈ h .workflows, correlationOf h' id = correlationOf h id :=
    fun id hid => correlationOf_congr hrequests (hworkflow id hid)
  exact
    { consistent :=
        { caused := hd.caused
          id_eq := by
            change ∀ id ∈ h' .workflows, (h' (.workflow id)).id = id
            rw [hworkflows]
            intro id hid
            rw [hworkflow id hid]
            exact hd.id_eq id hid
          requested := by
            change ∀ id ∈ h' .workflows, (correlationOf h' id).isSome
            rw [hworkflows]
            intro id hid
            rw [hcorrelation id hid]
            exact hd.requested id hid
          told := by
            change ∀ id ∈ h' .workflows, (h' (.workflow id)).currentStage = .failed →
              Mentions log (correlationOf h' id)
            rw [hworkflows]
            intro id hid
            rw [hworkflow id hid, hcorrelation id hid]
            exact hd.told id hid }
      events := List.prefix_rfl
      filed := fun id hid => by
        change id ∈ h' .workflows
        rw [hworkflows]
        exact hid
      requestId_eq := fun id hid => congrArg _ (hworkflow id hid)
      correlation_eq := hcorrelation }

/-! ## Steady methods -/

/-- A call that may fail takes one reading. -/
theorem failurePoint_run (env : Environment) (w : World) :
    failurePoint.run env w = ((env w.readings).failure.elim (.ok ()) .error,
      { w with readings := w.readings + 1 }) := by
  have hasked : (ask : Method _).run env w =
      (.ok (env w.readings), { w with readings := w.readings + 1 }) := rfl
  unfold failurePoint
  rw [run_bind, hasked]
  cases hfailure : (env w.readings).failure <;> simp only [hfailure] <;> rfl

/-- From a consistent ledger the method leads to one that has grown from it, and to one with
`Q` if it returns. -/
def Steady (env : Environment) (x : Method α) (d : Ledger runtime)
    (Q : α → Ledger runtime → Prop) : Prop :=
  Consistent d → ∀ w : World, w.ledger = d → Grows d (x.run env w).2.ledger ∧
    ∀ a, (x.run env w).1 = .ok a → Q a (x.run env w).2.ledger

/-- The postcondition that says nothing. -/
abbrev Anything (_ : α) (_ : Ledger runtime) : Prop := True

namespace Steady

variable {x : Method α} {f : α → Method β} {Q : α → Ledger runtime → Prop}
  {R : β → Ledger runtime → Prop}

theorem mono {Q' : α → Ledger runtime → Prop} (hx : Steady env x d Q)
    (hQ : ∀ a d', Grows d d' → Q a d' → Q' a d') : Steady env x d Q' := by
  intro hd w hw
  obtain ⟨hgrows, hpost⟩ := hx hd w hw
  exact ⟨hgrows, fun a ha => hQ a _ hgrows (hpost a ha)⟩

theorem anything (hx : Steady env x d Q) : Steady env x d Anything :=
  hx.mono fun _ _ _ _ => trivial

/-- A method that leaves the ledger as it is. -/
theorem of_same (hsame : ∀ w : World, w.ledger = d → (x.run env w).2.ledger = d ∧
    ∀ a, (x.run env w).1 = .ok a → Q a d) : Steady env x d Q := by
  intro hd w hw
  obtain ⟨hledger, hpost⟩ := hsame w hw
  rw [hledger]
  exact ⟨.refl hd, hpost⟩

theorem pure {a : α} (hQ : Q a d) : Steady env (pure a) d Q :=
  .of_same fun w hw => ⟨hw, fun _ ha => by cases ha; exact hQ⟩

theorem raise {error : RuntimeError} : Steady env (raise error) d Q :=
  .of_same fun w hw => ⟨hw, fun _ ha => by cases ha⟩

theorem bind (hx : Steady env x d Q)
    (hf : ∀ a d', Grows d d' → Q a d' → Steady env (f a) d' R) : Steady env (x >>= f) d R := by
  intro hd w hw
  obtain ⟨hgrows, hpost⟩ := hx hd w hw
  rw [run_bind]
  rcases hrun : x.run env w with ⟨error | a, w'⟩
  · rw [hrun] at hgrows
    exact ⟨hgrows, fun _ ha => by cases ha⟩
  · rw [hrun] at hgrows hpost
    obtain ⟨hgrows', hpost'⟩ := hf a _ hgrows (hpost a rfl) hgrows.consistent w' rfl
    exact ⟨hgrows.trans hgrows', hpost'⟩

theorem map {g : α → β} (hx : Steady env x d fun a d' => R (g a) d') :
    Steady env (g <$> x) d R :=
  .bind hx fun _ _ _ hR => .pure hR

theorem tryExcept {handler : RuntimeError → Method α} (hx : Steady env x d Q)
    (hhandler : ∀ error d', Grows d d' → Steady env (handler error) d' Q) :
    Steady env (tryExcept x handler) d Q := by
  intro hd w hw
  obtain ⟨hgrows, hpost⟩ := hx hd w hw
  rw [run_tryExcept]
  rcases hrun : x.run env w with ⟨error | a, w'⟩
  · rw [hrun] at hgrows
    obtain ⟨hgrows', hpost'⟩ := hhandler error _ hgrows hgrows.consistent w' rfl
    exact ⟨hgrows.trans hgrows', hpost'⟩
  · rw [hrun] at hgrows hpost
    exact ⟨hgrows, hpost⟩

theorem ite {p : Prop} [Decidable p] {y : Method α} (hx : p → Steady env x d Q)
    (hy : ¬p → Steady env y d Q) : Steady env (if p then x else y) d Q := by
  split
  · rename_i hp
    exact hx hp
  · rename_i hp
    exact hy hp

theorem load_bind {l : Loc} {f : Cell l → Method β} (hf : Steady env (f (d.cells l)) d R) :
    Steady env (Bind.bind (α := no_index (Cell l)) (Runtime.load l) f) d R := by
  intro hd w hw
  subst hw
  exact hf hd w rfl

theorem load {l : Loc} {Q : Cell l → Ledger runtime → Prop} (hQ : Q (d.cells l) d) :
    Steady (α := no_index (Cell l)) env (Runtime.load l) d Q :=
  .of_same fun w hw => ⟨hw, fun _ ha => by cases ha; subst hw; exact hQ⟩

theorem raiseIf_bind {p : Prop} [Decidable p] {error : RuntimeError} {f : Unit → Method β}
    (hf : ¬p → Steady env (f ()) d R) : Steady env (raiseIf p error >>= f) d R := by
  unfold Action.raiseIf
  split
  · exact .raise
  · rename_i hp
    exact hf hp

theorem now_bind {f : Timestamp → Method β} (hf : ∀ t, Steady env (f t) d R) :
    Steady env (now >>= f) d R := by
  intro hd w hw
  exact hf _ hd { w with readings := w.readings + 1 } hw

/-- A method without a correlation stands by. -/
theorem uncorrelated [hx : Uncorrelated x] :
    Steady env x d fun _ d' => Bystands d d' := by
  intro hd w hw
  have hbystands := hx.bystands env w
  rw [hw] at hbystands
  exact ⟨.of_bystands hd hbystands, fun _ _ => hbystands⟩

theorem uncorrelated_bind [Uncorrelated x]
    (hf : ∀ a d', Grows d d' → Bystands d d' → Steady env (f a) d' R) :
    Steady env (x >>= f) d R :=
  .bind .uncorrelated hf

/-- A block is steady when its body is; a rollback puts the snapshot targets back. -/
theorem atomic (hx : Steady env x d Q) : Steady env (atomic transactions x) d Q := by
  intro hd w hw
  cases hcurrent : w.current with
  | some t =>
    rw [atomic_run_nested transactions hcurrent]
    exact hx hd w hw
  | none =>
    have hopened := opened_ledger transactions hcurrent
    obtain ⟨hgrows, hpost⟩ := hx hd (transactions.opened w) (by rw [hopened, hw])
    rcases @atomic_ledger runtime α env x transactions w hcurrent with
      ⟨a, hok, hbody, hledger⟩ | ⟨error, herror, hledger⟩
    · rw [hledger, hok]
      refine ⟨hgrows, fun b hb => ?_⟩
      cases hb
      exact hpost a hbody
    · rw [hledger, herror]
      refine ⟨?_, fun b hb => by cases hb⟩
      have hledger' : w.ledger = ⟨w.heap, w.eventStore⟩ := World.ledger_of_none hcurrent
      rw [hw] at hledger'
      subst hledger'
      refine .of_targets hd fun l hl => ?_
      rw [restore_capture]
      exact if_pos hl

theorem transaction (hx : Steady env x d Q) : Steady env (transaction x) d Q := by
  intro hd w hw
  cases hcurrent : w.current with
  | some t =>
    obtain ⟨error, hrun⟩ : ∃ error, (Runtime.transaction x).run env w = (.error error, w) :=
      transaction_run_nested hcurrent
    rw [hrun, hw]
    exact ⟨.refl hd, fun _ ha => by cases ha⟩
  | none =>
    rw [transaction_run_outermost hcurrent]
    exact hx.atomic hd w hw

theorem failurePoint_bind {f : Unit → Method β} (hf : Steady env (f ()) d R) :
    Steady env (failurePoint >>= f) d R := by
  intro hd w hw
  rw [run_bind, failurePoint_run]
  cases (env w.readings).failure with
  | none => exact hf hd { w with readings := w.readings + 1 } hw
  | some error =>
    refine ⟨?_, fun _ ha => by cases ha⟩
    change Grows d w.ledger
    rw [hw]
    exact .refl hd

theorem operation {afterOperation : Method Unit} (hx : Steady env x d Q)
    (hafter : ∀ d', Grows d d' → Steady env afterOperation d' Anything) :
    Steady env (atomicDomainOperation x afterOperation) d Anything := by
  unfold atomicDomainOperation keepDomainFailure
  refine .bind (Q := Anything) (.atomic (.tryExcept (.map (.failurePoint_bind hx.anything))
    fun error d' _ => ?_)) fun outcome d' hgrows _ => ?_
  · exact .ite (fun _ => .pure trivial) fun _ => .raise
  · refine .bind (hafter d' hgrows) fun _ d'' _ _ => ?_
    cases outcome with
    | ok result => exact .pure trivial
    | error error => exact .raise

end Steady

/-! ## Publishing -/

theorem Steady.publish {eventType : EventType} {aggregateType aggregateId : String}
    {payload : Payload} {correlationId causationId : Option String}
    (hcaused : ∀ event : RuntimeEvent, event.correlationId = correlationId →
      event.causationId = causationId → Caused d.events event) :
    Steady env (publish eventType aggregateType aggregateId payload correlationId causationId) d
      (fun event d' => SameWorkflows d.cells d'.cells ∧ d'.events = d.events ++ [event] ∧
        event.correlationId = correlationId) := by
  intro hd w hw
  have hheap := publish_heap eventType aggregateType aggregateId payload correlationId
    causationId env w
  have hcells : SameWorkflows d.cells ((Runtime.publish eventType aggregateType aggregateId
      payload correlationId causationId).run env w).2.ledger.cells := by
    subst hw
    exact .of_same fun l _ => congrFun hheap l
  have hjoins := @publish_joins env eventType aggregateType aggregateId payload correlationId
    causationId w.ledger.events w rfl
  rw [hw] at hjoins
  rcases hjoins with ⟨⟨error, herror⟩, hlog⟩ | ⟨event, hok, -, hfields, hlog⟩
  · refine ⟨.of_log hd hcells (hlog ▸ List.prefix_rfl)
      (by rw [hlog]; exact hd.caused), ?_⟩
    intro a ha
    rw [herror] at ha
    cases ha
  · obtain ⟨-, -, -, -, hcorrelation, hcausation⟩ := hfields
    have hchronicle : Chronicle Caused (d.events ++ [event]) :=
      chronicle_concat.mpr ⟨hd.caused, hcaused event hcorrelation hcausation⟩
    refine ⟨.of_log hd hcells (by rw [hlog]; exact List.prefix_append ..)
      (by rw [hlog]; exact hchronicle), ?_⟩
    intro a ha
    rw [hok] at ha
    cases ha
    exact ⟨hcells, hlog, hcorrelation⟩

/-- The context of an execution names no event, or an event of its correlation in the log. -/
def Live (log : List RuntimeEvent) (context : Option CallContext) : Prop :=
  (context.bind CallContext.correlationId = none ∧
      context.bind CallContext.causationId = none) ∨
    ∃ cause ∈ log, cause.correlationId.isSome ∧
      context.bind CallContext.correlationId = cause.correlationId ∧
      context.bind CallContext.causationId = some cause.id

theorem Live.mono {log log' : List RuntimeEvent} {context : Option CallContext}
    (h : Live log context) (hgrown : log <+: log') : Live log' context := by
  rcases h with hnone | ⟨cause, hmem, hids⟩
  · exact .inl hnone
  · exact .inr ⟨cause, hgrown.subset hmem, hids⟩

theorem Live.none (log : List RuntimeEvent) : Live log none :=
  .inl ⟨rfl, rfl⟩

theorem Live.caused {log : List RuntimeEvent} {context : Option CallContext}
    (h : Live log context) {event : RuntimeEvent}
    (hcorrelation : event.correlationId = context.bind CallContext.correlationId)
    (hcausation : event.causationId = context.bind CallContext.causationId) :
    Caused log event := by
  rcases h with ⟨hnone, hnone'⟩ | ⟨cause, hmem, hsome, hid, hcause⟩
  · exact Plain.caused ⟨hcorrelation.trans hnone, hcausation.trans hnone'⟩ log
  · rw [hid] at hcorrelation
    rw [hcause] at hcausation
    constructor
    · intro id hevent
      rw [hcausation, Option.mem_some_iff] at hevent
      exact ⟨cause, hmem, hevent, hcorrelation.symm, by rw [hcorrelation]; exact hsome⟩
    · intro correlationId hevent
      rw [hcausation]
      refine iff_of_false (by simp) fun hfirst => hfirst cause hmem ?_
      rw [← hcorrelation]
      exact hevent

/-! ## Executing -/

section Executing

variable {context : Option CallContext}

theorem Steady.live_bind {x : Method α} {f : α → Method β} {R : β → Ledger runtime → Prop}
    [Uncorrelated x] (hlive : Live d.events context)
    (hf : ∀ a d', Grows d d' → Live d'.events context → Steady env (f a) d' R) :
    Steady env (x >>= f) d R :=
  .uncorrelated_bind fun a d' hgrows _ => hf a d' hgrows (hlive.mono hgrows.events)

theorem Steady.publishExecution {eventType : EventType} {executionId : String}
    {payload : Payload} (hlive : Live d.events context) :
    Steady env (publishExecution eventType executionId payload context) d Anything := by
  unfold Runtime.publishExecution
  refine .bind (.publish fun event hcorrelation hcausation => ?_) fun _ _ _ _ => .pure trivial
  exact hlive.caused hcorrelation hcausation

theorem Steady.startExecution {assignment : WorkAssignment} {workItem : WorkItem}
    {execution : ExecutionResult} {package : WorkPackage} (hlive : Live d.events context) :
    Steady env (startExecution assignment workItem execution package context) d Anything := by
  unfold Runtime.startExecution
  refine .tryExcept (.live_bind hlive fun _ d₁ _ hlive => ?_)
    fun error d' _ => Steady.uncorrelated.anything
  refine .live_bind hlive fun running d₂ _ hlive => .live_bind hlive fun executions d₃ _ hlive => ?_
  refine .live_bind hlive fun _ d₄ _ hlive => .live_bind hlive fun _ d₅ _ hlive => ?_
  exact .publishExecution hlive

def Executor.Steady (env : Environment) (executor : Executor) : Prop :=
  ∀ executionContext d, Runtime.Steady env (executor.execute executionContext) d Anything

theorem Steady.runExecutor {executor : Executor} (hexecutor : executor.Steady env)
    {executionContext : ExecutionContext} {assignment : WorkAssignment}
    (hlive : Live d.events context) :
    Steady env (runExecutor executor executionContext assignment context) d Anything := by
  unfold Runtime.runExecutor
  refine .bind (hexecutor executionContext d) fun answer d₁ hgrows _ => ?_
  have hlive := hlive.mono hgrows.events
  refine .live_bind hlive fun execution d₂ _ hlive => .live_bind hlive fun result d₃ _ hlive => ?_
  refine .ite (fun _ => ?_) fun _ => Steady.uncorrelated.anything
  refine .live_bind hlive fun _ d₄ _ hlive => .live_bind hlive fun failed d₅ _ hlive => ?_
  exact .bind (.publishExecution hlive) fun _ _ _ _ => .raise

theorem Steady.recordFailure {executionId : String} {assignment : WorkAssignment}
    {runningUpdatedAt : Timestamp} {error : RuntimeError} (hlive : Live d.events context) :
    Steady env (recordFailure executionId assignment runningUpdatedAt context error) d
      Anything := by
  unfold Runtime.recordFailure
  refine .ite (fun _ => .raise) fun _ => ?_
  refine .live_bind hlive fun _ d₁ _ hlive => .live_bind hlive fun _ d₂ _ hlive => ?_
  refine .live_bind hlive fun execution d₃ _ hlive => .ite (fun _ => ?_) fun _ => .raise
  refine .live_bind hlive fun _ d₄ _ hlive => .live_bind hlive fun failed d₅ _ hlive => ?_
  exact .bind (.publishExecution hlive) fun _ _ _ _ => .raise

theorem Steady.selectExecutor_bind {executors : List Executor} {assignment : WorkAssignment}
    {f : Executor → Method α} {R : α → Ledger runtime → Prop}
    (hf : ∀ executor ∈ executors, Steady env (f executor) d R) :
    Steady env (selectExecutor executors assignment >>= f) d R := by
  unfold selectExecutor
  rw [bind_assoc]
  refine .failurePoint_bind ?_
  split
  · rename_i executor hfound
    exact hf executor (List.mem_of_find?_eq_some hfound)
  · exact Steady.raise

variable {executors : List Executor} (hexecutors : ∀ executor ∈ executors, executor.Steady env)

include hexecutors

theorem Steady.execute {executionId assignmentId : String} {requiredState : LifecycleState}
    (hlive : Live d.events context) :
    Steady env (execute executors executionId assignmentId context requiredState) d Anything := by
  unfold Runtime.execute validateRequiredString
  refine .raiseIf_bind fun _ => .raiseIf_bind fun _ => .load_bind (.raiseIf_bind fun _ => ?_)
  refine .live_bind hlive fun assignment d₁ _ hlive => .raiseIf_bind fun _ => ?_
  refine .live_bind hlive fun workItem d₂ _ hlive => .raiseIf_bind fun _ => ?_
  refine .live_bind hlive fun agent d₃ _ hlive => .selectExecutor_bind fun executor hmem => ?_
  refine .live_bind hlive fun execution d₄ _ hlive => .live_bind hlive fun package d₅ _ hlive => ?_
  refine .bind (.startExecution hlive) fun _ d₆ hgrows _ => .load_bind (.load_bind ?_)
  have hlive := hlive.mono hgrows.events
  refine .bind (.tryExcept (.runExecutor (hexecutors executor hmem) hlive)
    fun error d' hgrows => .recordFailure (hlive.mono hgrows.events))
    fun _ d₇ hgrows _ => .load_bind ?_
  refine .bind (.publishExecution (hlive.mono hgrows.events)) fun _ _ _ _ => ?_
  exact .load trivial

theorem Steady.executeAssignment {executionId assignmentId : String}
    (hlive : Live d.events context) :
    Steady env (executeAssignment executors executionId assignmentId context) d Anything :=
  .operation (.execute hexecutors hlive) fun _ _ => .pure trivial

theorem Steady.executeCorrection {executionId assignmentId : String}
    (hlive : Live d.events context) :
    Steady env (executeCorrection executors executionId assignmentId context) d Anything :=
  .operation (.execute hexecutors hlive) fun _ _ => .pure trivial

theorem Steady.retryFailedExecution {recoveryId executionId newExecutionId : String}
    {reason : Message} (hlive : Live d.events context) :
    Steady env (retryFailedExecution executors recoveryId executionId newExecutionId reason
      context) d Anything := by
  unfold Runtime.retryFailedExecution validateRequiredString
  refine .operation (Q := Anything) (.live_bind hlive fun recoverable d₁ _ hlive => ?_)
    fun _ _ => .pure trivial
  refine .raiseIf_bind fun _ => .load_bind (.raiseIf_bind fun _ => ?_)
  refine .live_bind hlive fun workItem d₂ _ hlive => .live_bind hlive fun package d₃ _ hlive => ?_
  refine .tryExcept (.live_bind hlive fun _ d₄ _ hlive => ?_)
    fun error d' _ => Steady.uncorrelated.anything
  refine .bind (.tryExcept (.executeAssignment hexecutors hlive)
    fun error d' _ => Steady.uncorrelated.anything) fun result d₅ _ _ => ?_
  exact Steady.uncorrelated.anything

end Executing

/-! ## Workflows on record -/

/-- The record, read off now or earlier, is the one of a workflow on record. -/
structure Refers (d : Ledger runtime) (id : String) (workflow : SoftwareDeliveryWorkflow) :
    Prop where
  filed : id ∈ d.cells .workflows
  id_eq : workflow.id = id
  requestId_eq : workflow.requestId = (d.cells (.workflow id)).requestId

theorem Refers.of_grows {id : String} {workflow : SoftwareDeliveryWorkflow}
    (h : Refers d id workflow) (hgrows : Grows d d') : Refers d' id workflow where
  filed := hgrows.filed id h.filed
  id_eq := h.id_eq
  requestId_eq := h.requestId_eq.trans (hgrows.requestId_eq id h.filed).symm

def latest (log : List RuntimeEvent) (correlationId : String) : Option String :=
  (log.filter (·.correlationId == some correlationId)).getLast?.map RuntimeEvent.id

theorem caused_of_latest {log : List RuntimeEvent} {correlationId : String}
    {event : RuntimeEvent} (hcorrelation : event.correlationId = some correlationId)
    (hcausation : event.causationId = latest log correlationId) : Caused log event := by
  unfold latest at hcausation
  constructor
  · intro id hid
    rw [hcausation, Option.mem_def, Option.map_eq_some_iff] at hid
    obtain ⟨cause, hlast, rfl⟩ := hid
    have hmem := List.mem_filter.mp (List.mem_of_getLast? hlast)
    rw [beq_iff_eq] at hmem
    exact ⟨cause, hmem.1, rfl, by rw [hmem.2, hcorrelation], by rw [hcorrelation]; rfl⟩
  · intro other hother
    rw [hcorrelation, Option.mem_some_iff] at hother
    subst hother
    rw [hcausation, Option.map_eq_none_iff, List.getLast?_eq_none_iff, List.filter_eq_nil_iff]
    simp

namespace Steady

variable {f : α → Method β} {R : β → Ledger runtime → Prop} {id : String}
  {workflow : SoftwareDeliveryWorkflow}

/-- The invariant may be used. -/
theorem of_consistent {x : Method α} {Q : α → Ledger runtime → Prop}
    (h : Consistent d → Steady env x d Q) : Steady env x d Q :=
  fun hd => h hd hd

theorem loggedEvents_bind {f : List RuntimeEvent × List RuntimeEvent → Method β}
    (hf : ∀ events stagedEvents, d.events = events ++ stagedEvents →
      Steady env (f (events, stagedEvents)) d R) : Steady env (loggedEvents >>= f) d R := by
  intro hd w hw
  subst hw
  exact hf w.eventStore _ rfl hd w rfl

theorem getWorkflow_bind {f : SoftwareDeliveryWorkflow → Method β}
    (hf : ∀ workflow, workflow = d.cells (.workflow id) → Refers d id workflow →
      Steady env (f workflow) d R) : Steady env (getWorkflow id >>= f) d R := by
  unfold getWorkflow validateRequiredString
  simp only [bind_assoc]
  refine .raiseIf_bind fun _ => .load_bind (.raiseIf_bind fun hfiled => .load_bind ?_)
  rw [not_not] at hfiled
  exact .of_consistent fun hd => hf _ rfl ⟨hfiled, hd.id_eq id hfiled, rfl⟩

theorem correlationIdOf_bind {f : String → Method β} (hrefers : Refers d id workflow)
    (hf : ∀ correlationId, correlationOf d.cells id = some correlationId →
      Steady env (f correlationId) d R) : Steady env (correlationIdOf workflow >>= f) d R := by
  unfold correlationIdOf requestOf
  simp only [bind_assoc]
  refine .load_bind ?_
  split
  · rename_i request hfound
    rw [pure_bind, pure_bind]
    refine .of_consistent fun hd => hf _ ?_
    unfold correlationOf
    rw [← hrefers.requestId_eq, hfound, hd.id_eq id hrefers.filed, hrefers.id_eq]
    rfl
  · rw [raise_bind]
    exact .raise

theorem lastEventId_bind {f : Option String → Method β} (hrefers : Refers d id workflow)
    {correlationId : String} (hcorrelation : correlationOf d.cells id = some correlationId)
    (hf : Steady env (f (latest d.events correlationId)) d R) :
    Steady env (lastEventId workflow >>= f) d R := by
  unfold lastEventId validateRequiredString
  simp only [bind_assoc, hrefers.id_eq]
  refine .correlationIdOf_bind hrefers fun own hown => .getWorkflow_bind fun found _ hfound => ?_
  refine .correlationIdOf_bind hfound fun other hother => .raiseIf_bind fun _ => ?_
  obtain rfl : own = correlationId := Option.some.inj (hown.symm.trans hcorrelation)
  obtain rfl : other = own := Option.some.inj (hother.symm.trans hcorrelation)
  refine .loggedEvents_bind fun events stagedEvents hlog => ?_
  unfold latest at hf
  rw [hlog, List.filter_append] at hf
  exact hf

theorem publishWorkflow {eventType : EventType} {payload : Payload}
    (hid : id ∈ d.cells .workflows) :
    Steady env (publishWorkflow id eventType payload) d
      (fun _ d' => Mentions d'.events (correlationOf d'.cells id)) := by
  unfold Runtime.publishWorkflow
  refine .load_bind (.of_consistent fun hd => ?_)
  have hrefers : Refers d id (d.cells (.workflow id)) := ⟨hid, hd.id_eq id hid, rfl⟩
  refine .correlationIdOf_bind hrefers fun correlationId hcorrelation => ?_
  refine .lastEventId_bind hrefers hcorrelation ?_
  refine .bind (.publish fun event hevent hcause => caused_of_latest hevent hcause) ?_
  rintro event d' - ⟨hcells, hlog, hevent⟩
  refine .pure ⟨event, by rw [hlog]; simp, ?_⟩
  rw [hevent, correlationOf_congr hcells.requests (hcells.workflow id), hcorrelation]

theorem executionContextOf_bind {f : CallContext → Method β} (hrefers : Refers d id workflow)
    (hmentions : Mentions d.events (correlationOf d.cells id))
    (hf : ∀ context, Live d.events (some context) → Steady env (f context) d R) :
    Steady env (executionContextOf workflow >>= f) d R := by
  unfold executionContextOf
  simp only [bind_assoc, pure_bind]
  refine .correlationIdOf_bind hrefers fun correlationId hcorrelation => ?_
  refine .lastEventId_bind hrefers hcorrelation (hf _ (.inr ?_))
  rw [hcorrelation] at hmentions
  obtain ⟨event, hmem, hevent⟩ := hmentions
  have hfiltered : event ∈ d.events.filter (·.correlationId == some correlationId) := by
    simp [hmem, hevent]
  obtain ⟨cause, hlast⟩ := Option.isSome_iff_exists.mp
    (List.getLast?_isSome.mpr (List.ne_nil_of_mem hfiltered))
  have hcause := List.mem_filter.mp (List.mem_of_getLast? hlast)
  rw [beq_iff_eq] at hcause
  refine ⟨cause, hcause.1, by rw [hcause.2]; rfl, hcause.2.symm, ?_⟩
  change latest d.events correlationId = some cause.id
  unfold latest
  rw [hlast]
  rfl

/-- Replacing the record of a workflow is steady when it keeps its id and its request and is
not failed without an event. -/
theorem update {v : SoftwareDeliveryWorkflow} (hid : id ∈ d.cells .workflows)
    (hid_eq : v.id = (d.cells (.workflow id)).id)
    (hrequestId : v.requestId = (d.cells (.workflow id)).requestId)
    (hfailed : v.currentStage = .failed → Mentions d.events (correlationOf d.cells id)) :
    Steady env (store (.workflow id) v) d Anything := by
  intro hd w hw
  subst hw
  have hworkflows : (w.heap.write (.workflow id) v) .workflows = w.heap .workflows :=
    Heap.write_of_ne _ _ (by simp)
  have hworkflow : ∀ other, other ≠ id →
      (w.heap.write (.workflow id) v) (.workflow other) = w.heap (.workflow other) :=
    fun other hother => Heap.write_of_ne _ _ fun h => hother (Loc.workflow.inj h)
  have hsame : (w.heap.write (.workflow id) v) (.workflow id) = v := Heap.write_same ..
  have hrequests : (w.heap.write (.workflow id) v) .requests = w.heap .requests :=
    Heap.write_of_ne _ _ (by simp)
  have hcorrelation : ∀ other, correlationOf (w.heap.write (.workflow id) v) other =
      correlationOf w.heap other := by
    intro other
    by_cases heq : other = id
    · unfold correlationOf
      rw [heq, hsame, hrequests, hid_eq, hrequestId]
      rfl
    · exact correlationOf_congr hrequests (hworkflow other heq)
  refine ⟨?_, fun _ _ => trivial⟩
  refine
    { consistent :=
        { caused := hd.caused
          id_eq := fun other hother => ?_
          requested := fun other hother => ?_
          told := fun other hother => ?_ }
      events := List.prefix_rfl
      filed := fun other hother => ?_
      requestId_eq := fun other _ => ?_
      correlation_eq := fun other _ => hcorrelation other }
  · change ((w.heap.write (.workflow id) v) (.workflow other)).id = other
    change other ∈ (w.heap.write (.workflow id) v) .workflows at hother
    rw [hworkflows] at hother
    by_cases heq : other = id
    · rw [heq, hsame, hid_eq]
      exact hd.id_eq id hid
    · rw [hworkflow other heq]
      exact hd.id_eq other hother
  · change other ∈ (w.heap.write (.workflow id) v) .workflows at hother
    rw [hworkflows] at hother
    change (correlationOf (w.heap.write (.workflow id) v) other).isSome
    rw [hcorrelation]
    exact hd.requested other hother
  · change other ∈ (w.heap.write (.workflow id) v) .workflows at hother
    rw [hworkflows] at hother
    change ((w.heap.write (.workflow id) v) (.workflow other)).currentStage = .failed →
      Mentions w.ledger.events (correlationOf (w.heap.write (.workflow id) v) other)
    rw [hcorrelation]
    by_cases heq : other = id
    · rw [heq, hsame]
      exact hfailed
    · rw [hworkflow other heq]
      exact hd.told other hother
  · change other ∈ (w.heap.write (.workflow id) v) .workflows
    rw [hworkflows]
    exact hother
  · change ((w.heap.write (.workflow id) v) (.workflow other)).requestId = _
    by_cases heq : other = id
    · rw [heq, hsame]
      exact hrequestId
    · rw [hworkflow other heq]
      rfl

end Steady

/-! ## The steps of a workflow -/

instance (workflow : SoftwareDeliveryWorkflow) : Uncorrelated (requestOf workflow) := by
  unfold requestOf
  refine .bind inferInstance fun _ => ?_
  split <;> infer_instance

instance (workflow : SoftwareDeliveryWorkflow) : Uncorrelated (requireAssignmentId workflow) := by
  unfold requireAssignmentId
  split <;> infer_instance

instance (workflowId : String) : Uncorrelated (lastExecutionId workflowId) := by
  unfold lastExecutionId
  refine .bind inferInstance fun _ => ?_
  split <;> infer_instance

instance (workflowId executionId : String) :
    Uncorrelated (appendExecutionId workflowId executionId) := by
  unfold appendExecutionId
  infer_instance

instance (current expected : WorkflowStage) : Uncorrelated (requireStage current expected) := by
  unfold requireStage
  infer_instance

theorem Mentions.of_grows {id : String} (h : Mentions d.events (correlationOf d.cells id))
    (hid : id ∈ d.cells .workflows) (hgrows : Grows d d') :
    Mentions d'.events (correlationOf d'.cells id) := by
  rw [hgrows.correlation_eq id hid]
  exact h.mono hgrows.events

namespace Steady

variable {f : α → Method β} {R : β → Ledger runtime → Prop} {id : String}
  {workflow : SoftwareDeliveryWorkflow}

/-- A first step about which nothing needs to be known. -/
theorem seq {x : Method α} (hx : Steady env x d Anything)
    (hf : ∀ a d', Grows d d' → Steady env (f a) d' R) : Steady env (x >>= f) d R :=
  .bind hx fun a d' hgrows _ => hf a d' hgrows

/-- A method without a correlation keeps the workflow on record. -/
theorem refers_bind {x : Method α} [Uncorrelated x] (hrefers : Refers d id workflow)
    (hf : ∀ a d', Refers d' id workflow → Steady env (f a) d' R) : Steady env (x >>= f) d R :=
  .uncorrelated_bind fun a d' hgrows _ => hf a d' (hrefers.of_grows hgrows)

/-- Moving a workflow is steady; it fails once its correlation has an event. -/
theorem moveTo {stage : WorkflowStage} (hid : id ∈ d.cells .workflows)
    (hstage : stage = .failed → Mentions d.events (correlationOf d.cells id)) :
    Steady env (moveTo id stage) d Anything := by
  unfold Runtime.moveTo
  refine .load_bind (.raiseIf_bind fun _ => .now_bind fun updatedAt => ?_)
  exact .update hid rfl rfl hstage

theorem moveTo_bind {stage : WorkflowStage} {f : Unit → Method β}
    (hrefers : Refers d id workflow) (hstage : stage ≠ .failed)
    (hf : ∀ d', Refers d' id workflow → Steady env (f ()) d' R) :
    Steady env (Runtime.moveTo id stage >>= f) d R :=
  .seq (.moveTo hrefers.filed fun hfailed => absurd hfailed hstage)
    fun _ d' hgrows => hf d' (hrefers.of_grows hgrows)

theorem setFailureReason_bind {reason : Option Message} {f : Unit → Method β}
    (hrefers : Refers d id workflow)
    (hf : ∀ d', Grows d d' → Refers d' id workflow → Steady env (f ()) d' R) :
    Steady env (setFailureReason id reason >>= f) d R := by
  refine .seq ?_ fun _ d' hgrows => hf d' hgrows (hrefers.of_grows hgrows)
  unfold setFailureReason
  exact .load_bind (.of_consistent fun hd =>
    .update hrefers.filed rfl rfl (hd.told id hrefers.filed))

theorem publishWorkflow_bind {eventType : EventType} {payload : Payload} {f : Unit → Method β}
    (hrefers : Refers d id workflow)
    (hf : ∀ d', Refers d' id workflow → Mentions d'.events (correlationOf d'.cells id) →
      Steady env (f ()) d' R) :
    Steady env (Runtime.publishWorkflow id eventType payload >>= f) d R :=
  .bind (.publishWorkflow hrefers.filed) fun _ d' hgrows hmentions =>
    hf d' (hrefers.of_grows hgrows) hmentions

theorem published {eventType : EventType} {payload : Payload}
    (hrefers : Refers d id workflow) :
    Steady (α := no_index (Cell (.workflow id))) env
      (Runtime.publishWorkflow id eventType payload >>= fun _ => Runtime.load (.workflow id)) d
      Anything :=
  .publishWorkflow_bind hrefers fun _ _ _ => .load trivial

theorem recordFailedExecution {workflowId resolvedId : String} {error : RuntimeError}
    {workflow : SoftwareDeliveryWorkflow} (hrefers : Refers d workflowId workflow)
    (hmentions : Mentions d.events (correlationOf d.cells workflowId)) :
    Steady (α := α) env (recordFailedExecution workflowId resolvedId error) d Anything := by
  unfold Runtime.recordFailedExecution
  refine .load_bind (.uncorrelated_bind fun _ d₁ hgrows _ => ?_)
  have hmentions := hmentions.of_grows hrefers.filed hgrows
  have hrefers := hrefers.of_grows hgrows
  refine .setFailureReason_bind hrefers fun d₂ hgrows hrefers' => ?_
  have hmentions := hmentions.of_grows hrefers.filed hgrows
  refine .seq (.moveTo hrefers'.filed fun _ => hmentions) fun _ d₃ hgrows => ?_
  exact .publishWorkflow_bind (hrefers'.of_grows hgrows) fun _ _ _ => .raise

theorem recordFailedRetry {workflowId resolvedExecutionId : String} {error : RuntimeError}
    {workflow : SoftwareDeliveryWorkflow} (hrefers : Refers d workflowId workflow) :
    Steady (α := α) env (recordFailedRetry workflowId resolvedExecutionId error) d Anything := by
  unfold Runtime.recordFailedRetry
  refine .refers_bind hrefers fun _ d₁ hrefers => ?_
  refine .setFailureReason_bind hrefers fun d₂ _ hrefers => ?_
  exact .publishWorkflow_bind hrefers fun _ _ _ => .raise

theorem newWorkflow_bind {requestId workPackageId workItemId : String}
    {f : SoftwareDeliveryWorkflow → Method β}
    (hf : ∀ workflow : SoftwareDeliveryWorkflow, workflow.id = id →
      workflow.requestId = requestId → workflow.currentStage = .intake →
      Steady env (f workflow) d R) :
    Steady env (newWorkflow id requestId workPackageId workItemId >>= f) d R := by
  unfold newWorkflow validateRequiredString
  simp only [bind_assoc]
  refine .now_bind fun createdAt => .now_bind fun updatedAt => ?_
  refine .raiseIf_bind fun _ => .raiseIf_bind fun _ => .raiseIf_bind fun _ => ?_
  refine .raiseIf_bind fun _ => ?_
  rw [pure_bind]
  exact hf _ rfl rfl rfl

/-- Filing a new workflow with its request. -/
theorem file_bind {v : SoftwareDeliveryWorkflow} {request : SoftwareDeliveryRequest}
    {f : Unit → Method β} (hnew : id ∉ d.cells .workflows)
    (hrequest : request.id ∉ (d.cells .requests).map SoftwareDeliveryRequest.id)
    (hid : v.id = id) (hrequestId : v.requestId = request.id)
    (hstage : v.currentStage = .intake)
    (hf : ∀ d', Refers d' id v → Steady env (f ()) d' R) :
    Steady env (store (.workflow id) v >>= fun _ => store (.executionIds id) [] >>= fun _ =>
      store .workflows (d.cells .workflows ++ [id]) >>= fun _ =>
      store .requests (d.cells .requests ++ [request]) >>= f) d R := by
  intro hd w hw
  subst hw
  let h₁ := w.heap.write (.workflow id) v
  let h₂ := h₁.write (.executionIds id) []
  let h₃ := h₂.write .workflows (w.heap .workflows ++ [id])
  let h₄ := h₃.write .requests (w.heap .requests ++ [request])
  have hworkflows : h₄ .workflows = w.heap .workflows ++ [id] := by
    change (h₃.write .requests _) .workflows = _
    rw [Heap.write_of_ne _ _ (by simp)]
    exact Heap.write_same ..
  have hrequests : h₄ .requests = w.heap .requests ++ [request] := Heap.write_same ..
  have hraw : ∀ other, h₄ (.workflow other) = h₁ (.workflow other) := by
    intro other
    change (((h₁.write (.executionIds id) _).write .workflows _).write .requests _) _ = _
    rw [Heap.write_of_ne _ _ (by simp), Heap.write_of_ne _ _ (by simp),
      Heap.write_of_ne _ _ (by simp)]
  have hsame : h₄ (.workflow id) = v := (hraw id).trans (Heap.write_same ..)
  have hother : ∀ other ∈ w.heap .workflows, h₄ (.workflow other) = w.heap (.workflow other) := by
    intro other hmem
    have hne : Loc.workflow other ≠ Loc.workflow id := by
      intro heq
      rw [Loc.workflow.inj heq] at hmem
      exact hnew hmem
    exact (hraw other).trans (Heap.write_of_ne _ _ hne)
  have hkept : ∀ other ∈ w.heap .workflows, correlationOf h₄ other = correlationOf w.heap other := by
    intro other hmem
    have hfound := hd.requested other hmem
    unfold correlationOf
    change (correlationOf w.heap other).isSome at hfound
    unfold correlationOf at hfound
    rw [Option.isSome_map] at hfound
    obtain ⟨found, hfound⟩ := Option.isSome_iff_exists.mp hfound
    rw [hrequests, hother other hmem, List.find?_append, hfound]
    rfl
  have hadded : correlationOf h₄ id = some (orDefaultString request.correlationId id) := by
    have hnone : (w.heap .requests).find? (·.id == request.id) = none := by
      rw [List.find?_eq_none]
      intro other hmem heq
      rw [beq_iff_eq] at heq
      exact hrequest (heq ▸ List.mem_map_of_mem hmem)
    unfold correlationOf
    rw [hrequests, hsame, hrequestId, List.find?_append, hnone, hid]
    simp
  have hgrows : Grows w.ledger ⟨h₄, w.ledger.events⟩ := by
    refine
      { consistent :=
          { caused := hd.caused
            id_eq := fun other hmem => ?_
            requested := fun other hmem => ?_
            told := fun other hmem => ?_ }
        events := List.prefix_rfl
        filed := fun other hmem => ?_
        requestId_eq := fun other hmem => congrArg _ (hother other hmem)
        correlation_eq := hkept }
    · change other ∈ h₄ .workflows at hmem
      rw [hworkflows, List.mem_append, List.mem_singleton] at hmem
      change (h₄ (.workflow other)).id = other
      rcases hmem with hmem | rfl
      · rw [hother other hmem]
        exact hd.id_eq other hmem
      · rw [hsame, hid]
    · change other ∈ h₄ .workflows at hmem
      rw [hworkflows, List.mem_append, List.mem_singleton] at hmem
      change (correlationOf h₄ other).isSome
      rcases hmem with hmem | rfl
      · rw [hkept other hmem]
        exact hd.requested other hmem
      · rw [hadded]
        rfl
    · change other ∈ h₄ .workflows at hmem
      rw [hworkflows, List.mem_append, List.mem_singleton] at hmem
      change (h₄ (.workflow other)).currentStage = .failed →
        Mentions w.ledger.events (correlationOf h₄ other)
      rcases hmem with hmem | rfl
      · rw [hother other hmem, hkept other hmem]
        exact hd.told other hmem
      · rw [hsame, hstage]
        intro hfailed
        cases hfailed
    · change other ∈ h₄ .workflows
      rw [hworkflows]
      exact List.mem_append_left _ hmem
  have hrefers : Refers ⟨h₄, w.ledger.events⟩ id v :=
    { filed := by
        change id ∈ h₄ .workflows
        rw [hworkflows]
        simp
      id_eq := hid
      requestId_eq := congrArg _ hsame.symm }
  obtain ⟨hgrows', hpost⟩ := hf _ hrefers hgrows.consistent { w with heap := h₄ } rfl
  exact ⟨hgrows.trans hgrows', hpost⟩

end Steady

/-! ## The operations of the workflow service -/

/-- The executors and the persistence callback of the services are steady. -/
structure Services.Steady (env : Environment) (services : Services) : Prop where
  executors : ∀ executor ∈ services.executors, executor.Steady env
  callback : ∀ callback ∈ services.persistenceCallback, ∀ operation d,
    Runtime.Steady env (callback operation) d Anything

section Operations

variable {services : Services} (hservices : services.Steady env)

include hservices

namespace Steady

theorem workflowOperation {method : Method α} {operation : String}
    (hmethod : Steady env method d Anything) :
    Steady env (workflowOperation services operation method) d Anything := by
  refine .operation hmethod fun d' _ => ?_
  unfold Services.afterAtomicOperation
  split
  · exact .pure trivial
  · rename_i callback hcallback
    exact hservices.callback callback hcallback operation d'

theorem submitRequest {request : SoftwareDeliveryRequest} {workflowId : Option String} :
    Steady env (submitRequest services request workflowId) d Anything := by
  unfold Runtime.submitRequest validateRequiredString
  refine .workflowOperation hservices ?_
  refine .raiseIf_bind fun _ => .load_bind (.load_bind (.raiseIf_bind fun hnew => ?_))
  rw [not_or] at hnew
  refine .newWorkflow_bind fun workflow hid hrequestId hstage => ?_
  refine .file_bind hnew.1 hnew.2 hid hrequestId hstage fun d₁ hrefers => ?_
  exact .refers_bind hrefers fun _ d₂ hrefers => .refers_bind hrefers fun _ d₃ hrefers =>
    .published hrefers

theorem planRequest {workflowId : String} :
    Steady env (planRequest services workflowId) d Anything := by
  unfold Runtime.planRequest
  refine .workflowOperation hservices ?_
  refine .getWorkflow_bind fun workflow _ hrefers => .refers_bind hrefers fun _ d₁ hrefers => ?_
  refine .refers_bind hrefers fun request d₂ hrefers => ?_
  refine .moveTo_bind hrefers (by simp) fun d₃ hrefers => ?_
  refine .refers_bind hrefers fun _ d₄ hrefers => ?_
  exact .moveTo_bind hrefers (by simp) fun d₅ hrefers => .published hrefers

theorem prepareWork {workflowId : String} :
    Steady env (prepareWork services workflowId) d Anything := by
  unfold Runtime.prepareWork
  refine .workflowOperation hservices ?_
  refine .getWorkflow_bind fun workflow _ hrefers => .ite (fun _ => .pure trivial) fun _ => ?_
  refine .refers_bind hrefers fun _ d₁ hrefers => .refers_bind hrefers fun _ d₂ hrefers => ?_
  exact .moveTo_bind hrefers (by simp) fun d₃ hrefers => .load trivial

theorem assignWork {workflowId : String} :
    Steady env (assignWork services workflowId) d Anything := by
  unfold Runtime.assignWork
  refine .workflowOperation hservices ?_
  refine .getWorkflow_bind fun workflow _ hrefers => .refers_bind hrefers fun _ d₁ hrefers => ?_
  refine .refers_bind hrefers fun request d₂ hrefers => ?_
  refine .refers_bind hrefers fun assignment d₃ hrefers => .load_bind ?_
  refine .seq (.of_consistent fun hd => .update hrefers.filed rfl rfl (hd.told _ hrefers.filed))
    fun _ d₄ hgrows => ?_
  exact .moveTo_bind (hrefers.of_grows hgrows) (by simp) fun d₅ hrefers => .published hrefers

theorem executeWork {workflowId : String} {executionId : Option String} :
    Steady env (executeWork services workflowId executionId) d Anything := by
  unfold Runtime.executeWork validateRequiredString
  refine .workflowOperation hservices ?_
  refine .getWorkflow_bind fun workflow _ hrefers => .raiseIf_bind fun _ => .load_bind ?_
  refine .raiseIf_bind fun _ => ?_
  refine .seq (.ite (fun _ => .moveTo hrefers.filed (by simp)) fun _ => .pure trivial)
    fun _ d₁ hgrows => ?_
  refine .publishWorkflow_bind (hrefers.of_grows hgrows) fun d₂ hrefers hmentions => ?_
  refine .uncorrelated_bind fun assignmentId d₃ hgrows _ => ?_
  have hmentions := hmentions.of_grows hrefers.filed hgrows
  have hrefers := hrefers.of_grows hgrows
  refine .uncorrelated_bind fun item d₄ hgrows _ => ?_
  have hmentions := hmentions.of_grows hrefers.filed hgrows
  have hrefers := hrefers.of_grows hgrows
  refine .seq (.tryExcept ?_ fun error d' hgrows => ?_) fun execution d₅ hgrows => ?_
  · refine .executionContextOf_bind hrefers hmentions fun context hlive => ?_
    exact .ite (fun _ => .executeCorrection hservices.executors hlive)
      fun _ => .executeAssignment hservices.executors hlive
  · exact .ite (fun _ => .recordFailedExecution (hrefers.of_grows hgrows)
      (hmentions.of_grows hrefers.filed hgrows)) fun _ => .raise
  · refine .refers_bind (hrefers.of_grows hgrows) fun _ d₆ hrefers => ?_
    refine .setFailureReason_bind hrefers fun d₇ _ hrefers => ?_
    refine .moveTo_bind hrefers (by simp) fun d₈ hrefers => ?_
    exact .publishWorkflow_bind hrefers fun d₉ hrefers _ => .published hrefers

theorem approveWork {workflowId : String} :
    Steady env (approveWork services workflowId) d Anything := by
  unfold Runtime.approveWork requireApprovalStage
  refine .workflowOperation hservices ?_
  refine .getWorkflow_bind fun workflow _ hrefers => .raiseIf_bind fun _ => ?_
  refine .refers_bind hrefers fun item d₁ hrefers => .raiseIf_bind fun _ => ?_
  refine .refers_bind hrefers fun _ d₂ hrefers => .now_bind fun approvedAt => .load_bind ?_
  refine .seq (.of_consistent fun hd => .update hrefers.filed rfl rfl (hd.told _ hrefers.filed))
    fun _ d₃ hgrows => ?_
  exact .moveTo_bind (hrefers.of_grows hgrows) (by simp) fun d₄ hrefers => .published hrefers

theorem rejectWork {workflowId : String} {reason : Message} :
    Steady env (rejectWork services workflowId reason) d Anything := by
  unfold Runtime.rejectWork validateRequiredMessage
  refine .workflowOperation hservices (.raiseIf_bind fun _ => ?_)
  refine .getWorkflow_bind fun workflow _ hrefers => .refers_bind hrefers fun _ d₁ hrefers => ?_
  refine .refers_bind hrefers fun _ d₂ hrefers => .load_bind ?_
  refine .seq (.of_consistent fun hd => .update hrefers.filed rfl rfl (hd.told _ hrefers.filed))
    fun _ d₃ hgrows => ?_
  exact .moveTo_bind (hrefers.of_grows hgrows) (by simp) fun d₄ hrefers => .published hrefers

theorem completeWork {workflowId : String} :
    Steady env (completeWork services workflowId) d Anything := by
  unfold Runtime.completeWork
  refine .workflowOperation hservices ?_
  refine .getWorkflow_bind fun workflow _ hrefers => .refers_bind hrefers fun _ d₁ hrefers => ?_
  refine .refers_bind hrefers fun item d₂ hrefers => .raiseIf_bind fun _ => ?_
  refine .refers_bind hrefers fun assignmentId d₃ hrefers => ?_
  refine .refers_bind hrefers fun _ d₄ hrefers => ?_
  exact .moveTo_bind hrefers (by simp) fun d₅ hrefers => .published hrefers

theorem releaseWork {workflowId : String} :
    Steady env (releaseWork services workflowId) d Anything := by
  unfold Runtime.releaseWork requireReleaseStage
  refine .workflowOperation hservices ?_
  refine .getWorkflow_bind fun workflow _ hrefers => .raiseIf_bind fun _ => ?_
  refine .refers_bind hrefers fun item d₁ hrefers => .raiseIf_bind fun _ => ?_
  refine .refers_bind hrefers fun _ d₂ hrefers => ?_
  exact .moveTo_bind hrefers (by simp) fun d₃ hrefers => .published hrefers

theorem cancelWorkflow {workflowId : String} {reason : Message} :
    Steady env (cancelWorkflow services workflowId reason) d Anything := by
  unfold Runtime.cancelWorkflow validateRequiredMessage requireCancellable
  refine .workflowOperation hservices (.raiseIf_bind fun _ => ?_)
  refine .getWorkflow_bind fun workflow _ hrefers => .raiseIf_bind fun _ => ?_
  refine .refers_bind hrefers fun _ d₁ hrefers => ?_
  refine .moveTo_bind hrefers (by simp) fun d₂ hrefers => ?_
  exact .setFailureReason_bind hrefers fun d₃ _ hrefers => .published hrefers

theorem recoverFailedExecution {workflowId recoveryId : String} {reason : Message}
    {action : String} {newExecutionId : Option String} :
    Steady env (recoverFailedExecution services workflowId recoveryId reason action
      newExecutionId) d Anything := by
  unfold Runtime.recoverFailedExecution requireRecoverable
  refine .workflowOperation hservices ?_
  refine .getWorkflow_bind fun workflow hworkflow hrefers => .raiseIf_bind fun hstage => ?_
  rw [not_not, hworkflow] at hstage
  refine .of_consistent fun hd => ?_
  have hmentions := hd.told workflowId hrefers.filed hstage
  refine .uncorrelated_bind fun failedExecutionId d₁ hgrows _ => .load_bind ?_
  have hmentions := hmentions.of_grows hrefers.filed hgrows
  have hrefers := hrefers.of_grows hgrows
  -- Whatever the action, the workflow is still on record when its recovery is published.
  refine .bind (Q := fun _ d' => Refers d' workflowId workflow)
    (.ite (fun _ => ?_) fun _ => .ite (fun _ => ?_) fun _ => .ite (fun _ => ?_) fun _ => .raise)
    fun _ d₂ _ hrefers => ?_
  · refine .seq (.tryExcept ?_ fun error d' hgrows => ?_) fun execution d₂ hgrows => ?_
    · refine .executionContextOf_bind hrefers hmentions fun context hlive => ?_
      exact .retryFailedExecution hservices.executors hlive
    · exact .ite (fun _ => .recordFailedRetry (hrefers.of_grows hgrows)) fun _ => .raise
    · refine .refers_bind (hrefers.of_grows hgrows) fun _ d₃ hrefers => ?_
      refine .setFailureReason_bind hrefers fun d₄ _ hrefers => ?_
      exact (Steady.moveTo hrefers.filed (by simp)).mono fun _ _ hgrows _ =>
        hrefers.of_grows hgrows
  · refine .refers_bind hrefers fun _ d₂ hrefers => ?_
    refine .setFailureReason_bind hrefers fun d₃ _ hrefers => ?_
    exact (Steady.moveTo hrefers.filed (by simp)).mono fun _ _ hgrows _ =>
      hrefers.of_grows hgrows
  · refine .refers_bind hrefers fun _ d₂ hrefers => ?_
    exact (Steady.moveTo hrefers.filed (by simp)).mono fun _ _ hgrows _ =>
      hrefers.of_grows hgrows
  · refine .publishWorkflow_bind hrefers fun d₃ hrefers _ => ?_
    refine .seq (.ite (fun _ => ?_) fun _ => .pure trivial) fun _ _ _ => .load trivial
    exact (Steady.publishWorkflow hrefers.filed).anything

end Steady

end Operations

/-! ## Runs -/

/-- The context that a caller of the execution or recovery services passes. -/
def Operation.context : Operation → Option CallContext
  | .executeAssignment _ _ context | .executeCorrection _ _ context
  | .retryFailedExecution _ _ _ _ context => context
  | _ => none

theorem perform_steady {services : Services} (hservices : services.Steady env)
    {operation : Operation} (hcontext : operation.context = none) :
    Steady env (perform services operation) d Anything := by
  have hexecutors := hservices.executors
  cases operation <;> unfold perform
  case executeAssignment executionId assignmentId context =>
    obtain rfl : context = none := hcontext
    exact .map (.executeAssignment hexecutors (.none _))
  case executeCorrection executionId assignmentId context =>
    obtain rfl : context = none := hcontext
    exact .map (.executeCorrection hexecutors (.none _))
  case retryFailedExecution recoveryId executionId newExecutionId reason context =>
    obtain rfl : context = none := hcontext
    exact .map (.retryFailedExecution hexecutors (.none _))
  case submitRequest => exact .map (.submitRequest hservices)
  case planRequest => exact .map (.planRequest hservices)
  case prepareWork => exact .map (.prepareWork hservices)
  case assignWork => exact .map (.assignWork hservices)
  case executeWork => exact .map (.executeWork hservices)
  case approveWork => exact .map (.approveWork hservices)
  case rejectWork => exact .map (.rejectWork hservices)
  case completeWork => exact .map (.completeWork hservices)
  case releaseWork => exact .map (.releaseWork hservices)
  case cancelWorkflow => exact .map (.cancelWorkflow hservices)
  case recoverFailedExecution => exact .map (.recoverFailedExecution hservices)
  all_goals exact Steady.uncorrelated.anything

/-- Code that uses the services: operations in any order, of services whose executors and
callback are such code again, in blocks and transactions of its own, with its own handling of
errors and any step without a correlation. -/
inductive Client : {α : Type} → Method α → Prop
  | aside {α : Type} {x : Method α} (hx : Uncorrelated x) : Client x
  | perform {services : Services} {operation : Operation}
      (hcontext : operation.context = none)
      (hexecutors : ∀ executor ∈ services.executors, ∀ executionContext,
        Client (executor.execute executionContext))
      (hcallback : ∀ callback ∈ services.persistenceCallback, ∀ name, Client (callback name)) :
      Client (perform services operation)
  | bind {α β : Type} {x : Method α} {f : α → Method β} (hx : Client x)
      (hf : ∀ a, Client (f a)) : Client (x >>= f)
  | tryExcept {α : Type} {x : Method α} {handler : RuntimeError → Method α} (hx : Client x)
      (hhandler : ∀ error, Client (handler error)) : Client (tryExcept x handler)
  | atomic {α : Type} {x : Method α} (hx : Client x) : Client (atomic transactions x)
  | transaction {α : Type} {x : Method α} (hx : Client x) : Client (transaction x)

theorem Client.steady {x : Method α} (hx : Client x) :
    ∀ d : Ledger runtime, Steady env x d Anything := by
  induction hx with
  | aside hx =>
    intro d
    exact Steady.uncorrelated.anything
  | perform hcontext hexecutors hcallback ihexecutors ihcallback =>
    intro d
    exact perform_steady ⟨ihexecutors, ihcallback⟩ hcontext
  | bind hx hf ihx ihf =>
    intro d
    exact .seq (ihx d) fun a d' _ => ihf a d'
  | tryExcept hx hhandler ihx ihhandler =>
    intro d
    exact .tryExcept (ihx d) fun error d' _ => ihhandler error d'
  | atomic hx ih =>
    intro d
    exact .atomic (ih d)
  | transaction hx ih =>
    intro d
    exact .transaction (ih d)

/-- A world before the first workflow: nothing is stored, and no transaction is open. -/
structure Fresh (w : World) : Prop where
  eventStore_eq : w.eventStore = []
  current_eq : w.current = none
  workflows_eq : w.heap .workflows = []

theorem Fresh.consistent {w : World} (hw : Fresh w) : Consistent w.ledger := by
  have hledger := World.ledger_of_none hw.current_eq
  rw [hw.eventStore_eq] at hledger
  rw [hledger]
  have hnone : ∀ id, id ∉ w.heap .workflows := by
    intro id
    rw [hw.workflows_eq]
    simp
  exact
    { caused := Chronicle.nil
      id_eq := fun id hid => absurd hid (hnone id)
      requested := fun id hid => absurd hid (hnone id)
      told := fun id hid => absurd hid (hnone id) }

/-- The worlds that clients reach, whose transactions may still be open. -/
inductive Reached : World → Prop
  | init {w : World} (hfresh : Fresh w) : Reached w
  | run {α : Type} {x : Method α} {w : World} (env : Environment) (hx : Client x)
      (hw : Reached w) : Reached (x.run env w).2
  | opened {w : World} (hnone : w.current = none) (hw : Reached w) :
      Reached (transactions.opened w)

theorem Reached.consistent {w : World} (hw : Reached w) : Consistent w.ledger := by
  induction hw with
  | init hfresh => exact hfresh.consistent
  | @run α x w env hx hw ih => exact (hx.steady w.ledger ih w rfl).1.consistent
  | @opened w hnone hw ih =>
    rw [opened_ledger transactions hnone]
    exact ih

end Runtime
end Ascos
