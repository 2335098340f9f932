import Ascos.Library.Specification
import Ascos.Runtime.Model

/-!
# Events and transactions of the runtime

A translation of `runtime/events/store.py`, `runtime/events/publisher.py` and
of `atomic_domain_operation` from `runtime/transactions/transaction.py`, with
the snapshot providers that the services register.

Two things outside the services decide a call besides its arguments: the clock, and
whether a call made inside it fails.  Every nested service call, every publication and
every executor selection passes a `failurePoint`, where
the environment may raise any error in its place.
-/

namespace Ascos
namespace Runtime

open Library Library.Action

/-! ## Readings and validators -/

/-- `datetime.now(timezone.utc)`. -/
def now : Method Timestamp :=
  Reading.now <$> ask

/-- A call that may fail as a whole: it raises what the environment says. -/
def failurePoint : Method Unit := do
  match (← ask).failure with
  | some error => raise error
  | none => pure ()

/-- `Some text {value!r} some more text`. -/
def quote (before value after : String) : Message :=
  [.text before, .quoted value, .text after]

def validateRequiredString (value fieldName : String) : Method Unit :=
  raiseIf (isBlank value = true)
    ⟨.validationError, s!"{fieldName} must be a non-empty string"⟩

/-- `validate_required_string` of a message. -/
def validateRequiredMessage (value : Message) (fieldName : String) : Method Unit :=
  raiseIf (value.isBlank = true)
    ⟨.validationError, s!"{fieldName} must be a non-empty string"⟩

def validateOptionalString (value : Option String) (fieldName : String) : Method Unit :=
  raiseIf (∃ text ∈ value, isBlank text = true)
    ⟨.validationError, s!"{fieldName} must be a non-empty string"⟩

/-! ## The event store -/

def listEventsForAggregate (aggregateType aggregateId : String)
    (events : List RuntimeEvent) : List RuntimeEvent :=
  events.filter fun event =>
    event.aggregateType == aggregateType && event.aggregateId == aggregateId

def nextSequenceNumber (aggregateType aggregateId : String)
    (events : List RuntimeEvent) : Nat :=
  (listEventsForAggregate aggregateType aggregateId events).length + 1

/-- `EventStore._validate_pending_event`, with the ids and the next sequence numbers of
the batch so far. -/
def validatePendingEvent (events : List RuntimeEvent) (pendingIds : List String)
    (nextSequences : List ((String × String) × Nat)) (event : RuntimeEvent) :
    Except RuntimeError Unit :=
  if event.id ∈ pendingIds then
    .error ⟨.duplicateEventError, quote "Event " event.id " already exists"⟩
  else
    let key := (event.aggregateType, event.aggregateId)
    let expected := (nextSequences.lookup key).getD
      (nextSequenceNumber event.aggregateType event.aggregateId events)
    if event.sequenceNumber ≠ expected then
      .error ⟨.validationError,
        s!"Event sequence must be {expected} for aggregate " ++
          s!"{event.aggregateType}:{event.aggregateId}"⟩
    else
      .ok ()

/-- The first loop of `EventStore.add_events`. -/
def validateBatch (events : List RuntimeEvent) (pendingIds : List String)
    (nextSequences : List ((String × String) × Nat)) :
    List RuntimeEvent → Except RuntimeError Unit
  | [] => .ok ()
  | event :: batch =>
    match validatePendingEvent events pendingIds nextSequences event with
    | .error error => .error error
    | .ok _ =>
        validateBatch events (event.id :: pendingIds)
          (((event.aggregateType, event.aggregateId), event.sequenceNumber + 1) ::
            nextSequences) batch

/-- `EventStore.add_events` of the base class: validate all, then file all.  The ids are
new by then, so filing an event appends it. -/
def addBatch (events batch : List RuntimeEvent) :
    Except RuntimeError Unit × List RuntimeEvent :=
  match validateBatch events (events.map RuntimeEvent.id) [] batch with
  | .error error => (.error error, events)
  | .ok _ => (.ok (), events ++ batch)

/-- The batch loop of `EventStore.add_events` when a subclass overrides `add_event`: the
override raises at the given event and otherwise files it through the base class. -/
def dispatchEvents (failAt : Nat) (error : RuntimeError) (events : List RuntimeEvent) :
    List RuntimeEvent → Except RuntimeError Unit × List RuntimeEvent
  | [] => (.ok (), events)
  | event :: batch =>
    match failAt with
    | 0 => (.error error, events)
    | failAt + 1 =>
        match addBatch events [event] with
        | (.error raised, events') => (.error raised, events')
        | (.ok _, events') => dispatchEvents failAt error events' batch

/-- `EventStore.add_events`: an overridden `add_event` that raises part-way is undone by
putting back the dictionary as it was before the batch. -/
def addEvents (reading : Reading) (events batch : List RuntimeEvent) :
    Except RuntimeError Unit × List RuntimeEvent :=
  match reading.storeFailure with
  | none => addBatch events batch
  | some (failAt, error) =>
    match dispatchEvents failAt error events batch with
    | (.error raised, _) => (.error raised, events)
    | (.ok _, events') => (.ok (), events')

theorem addBatch_ok {events batch result : List RuntimeEvent}
    (hadd : addBatch events batch = (.ok (), result)) : result = events ++ batch := by
  unfold addBatch at hadd
  split at hadd
  · simp at hadd
  · simpa using hadd.symm

theorem dispatchEvents_ok {failAt : Nat} {error : RuntimeError}
    {events batch result : List RuntimeEvent}
    (hdispatch : dispatchEvents failAt error events batch = (.ok (), result)) :
    result = events ++ batch := by
  induction batch generalizing failAt events with
  | nil => simpa [dispatchEvents] using hdispatch.symm
  | cons event batch ih =>
    cases failAt with
    | zero => simp [dispatchEvents] at hdispatch
    | succ failAt =>
        rcases hadd : addBatch events [event] with ⟨raised | u, events'⟩
        · simp [dispatchEvents, hadd] at hdispatch
        · simp only [dispatchEvents, hadd] at hdispatch
          rw [ih hdispatch, addBatch_ok hadd, List.append_assoc, List.singleton_append]

/-- An accepted batch is appended in order. -/
theorem addEvents_ok {reading : Reading} {events batch result : List RuntimeEvent}
    (hadd : addEvents reading events batch = (.ok (), result)) : result = events ++ batch := by
  unfold addEvents at hadd
  split at hadd
  · exact addBatch_ok hadd
  · split at hadd
    · simp at hadd
    · rename_i hdispatch
      rw [Prod.mk.injEq] at hadd
      rw [← hadd.2]
      exact dispatchEvents_ok hdispatch

/-- A refused batch leaves the events as they were, also when an overriding
`add_event` had filed some of them. -/
theorem addEvents_error {reading : Reading} {events batch result : List RuntimeEvent}
    {error : RuntimeError} (hadd : addEvents reading events batch = (.error error, result)) :
    result = events := by
  unfold addEvents at hadd
  split at hadd
  · unfold addBatch at hadd
    split at hadd
    · exact (Prod.mk.inj hadd).2.symm
    · simp at hadd
  · split at hadd
    · exact (Prod.mk.inj hadd).2.symm
    · simp at hadd

/-! ## Snapshot providers -/

/-- `RuntimeEngine._snapshot_targets`. -/
def engineSnapshotTargets (h : State) : List Loc :=
  .workPackages :: (h .workPackages).flatMap fun package =>
    [.workPackage package, .workItems package, .artifacts package] ++
      (h (.workItems package)).map (.workItem package)

/-- `AgentRegistry._snapshot_targets`. -/
def registrySnapshotTargets (h : State) : List Loc :=
  .agents :: (h .agents).flatMap fun agent => [.agent agent, .supportedCapabilities agent]

/-- `Orchestrator._snapshot_targets`. -/
def orchestratorSnapshotTargets (h : State) : List Loc :=
  .assignments :: (h .assignments).map .assignment

/-- `ExecutionService._snapshot_targets`. -/
def executionSnapshotTargets (h : State) : List Loc :=
  .executions :: (h .executions).map .execution

/-- `ExecutionRecoveryService._snapshot_targets`. -/
def recoverySnapshotTargets (h : State) : List Loc :=
  .records :: (h .records).map .record

/-- `SoftwareDeliveryWorkflowService._snapshot_targets`. -/
def workflowSnapshotTargets (h : State) : List Loc :=
  [.workflows, .requests] ++
    (h .workflows).flatMap fun workflow => [.workflow workflow, .executionIds workflow]

/-- `TransactionCoordinator._targets`, the providers in the order the container registers
them. -/
def snapshotTargets (h : State) : List Loc :=
  engineSnapshotTargets h ++ registrySnapshotTargets h ++ orchestratorSnapshotTargets h ++
    executionSnapshotTargets h ++ recoverySnapshotTargets h ++ workflowSnapshotTargets h

def transactions : Coordinator runtime where
  targets := snapshotTargets
  addEvents := addEvents
  commitError _ := ⟨.transactionCommitError, "Failed to commit domain state and staged events"⟩
  addEvents_ok := addEvents_ok
  addEvents_error := addEvents_error

/-! ## Atomic operations and publishing -/

/-- The inner `try` of `atomic_domain_operation`: an `ExecutionFailedError` becomes a
value, any other error passes on. -/
def keepDomainFailure {α : Type} (method : Method α) : Method (Except RuntimeError α) :=
  tryExcept (Except.ok <$> method) fun error =>
    if error.isExecutionFailed = true then pure (.error error) else raise error

/-- The end of `atomic_domain_operation`: return the result or raise the error kept back. -/
def releaseDomainFailure {α : Type} : Except RuntimeError α → Method α
  | .ok result => pure result
  | .error domainFailure => raise domainFailure

/-- `atomic_domain_operation`: a recorded failed execution is a committed outcome, so its
error is kept back until the transaction has closed.  `afterOperation` is the
service's `_after_atomic_operation`. -/
def atomicDomainOperation {α : Type} (method : Method α)
    (afterOperation : Method Unit := pure ()) : Method α := do
  let outcome ← atomic transactions (keepDomainFailure (failurePoint >>= fun _ => method))
  afterOperation
  releaseDomainFailure outcome

def publish (eventType : EventType) (aggregateType aggregateId : String)
    (payload : Payload) (correlationId : Option String := none)
    (causationId : Option String := none) : Method RuntimeEvent := do
  failurePoint
  validateRequiredString aggregateType "aggregate_type"
  validateRequiredString aggregateId "aggregate_id"
  validateOptionalString correlationId "correlation_id"
  validateOptionalString causationId "causation_id"
  let (events, stagedEvents) ← loggedEvents
  let stagedForAggregate :=
    (listEventsForAggregate aggregateType aggregateId stagedEvents).length
  let sequence := nextSequenceNumber aggregateType aggregateId events + stagedForAggregate
  let resolvedEventId :=
    s!"{aggregateType.length}:{aggregateType}" ++
      s!"{aggregateId.length}:{aggregateId}" ++
      s!"{sequence}:{eventType.value.length}:{eventType.value}"
  let occurredAt ← now
  let event : RuntimeEvent :=
    { id := resolvedEventId, eventType, aggregateType, aggregateId,
      sequenceNumber := sequence, payload, occurredAt, correlationId, causationId }
  tryExcept (emit transactions event) fun error =>
    if error.errorClass = .duplicateEventError then raise error
    else raise ⟨.eventPublicationError, quote "Failed to publish event " resolvedEventId ""⟩
  pure event

/-! ## Specifications -/

variable {α : Type} {env : Environment} {h : State}

/-- No failure that the environment injects is an `ExecutionFailedError`, which only
the execution service raises. -/
def Environment.Sound (env : Environment) : Prop :=
  ∀ n, ∀ error ∈ (env n).failure, error.isExecutionFailed = false

/-- Only the listed objects may differ. -/
abbrev Touches (objects : List Loc) (h h' : State) : Prop :=
  SameOutside (S := runtime) objects h h'

/-- An error that is no `ExecutionFailedError`. -/
def Clean (error : RuntimeError) (_ : State) : Prop :=
  error.isExecutionFailed = false

theorem Meets.now_bind {β : Type} {f : Timestamp → Method β} {R : β → State → Prop}
    {E : RuntimeError → State → Prop} (hf : ∀ t, Meets env (f t) h R E) :
    Meets env (now >>= f) h R E := by
  refine Meets.bind (Meets.map ?_)
  rintro w rfl -
  exact hf (env w.readings).now

variable {Q : α → State → Prop} {E : RuntimeError → State → Prop}

/-- A call that may fail: it goes on, or raises an error of the environment. -/
theorem Meets.failurePoint_bind {f : Unit → Method α} (henv : env.Sound)
    (hraise : ∀ error, error.isExecutionFailed = false → E error h)
    (hf : Meets env (f ()) h Q E) : Meets env (failurePoint >>= f) h Q E := by
  unfold failurePoint
  rw [meets_bind_assoc]
  refine Meets.ask_bind fun n => ?_
  cases hfailure : (env n).failure with
  | none =>
    exact hf
  | some error =>
    rw [meets_raise_bind]
    exact hraise error (henv n error hfailure)

theorem Meets.publish {eventType : EventType} {aggregateType aggregateId : String}
    {payload : Payload} {correlationId causationId : Option String}
    {Q : RuntimeEvent → State → Prop} (henv : env.Sound) (hQ : ∀ event, Q event h)
    (hraise : ∀ error, error.isExecutionFailed = false → E error h) :
    Meets env (publish eventType aggregateType aggregateId payload correlationId causationId)
      h Q E := by
  unfold Runtime.publish validateRequiredString validateOptionalString
  refine Meets.failurePoint_bind henv hraise ?_
  simp only [meets_raiseIf_bind]
  refine ⟨fun _ => hraise _ rfl, fun _ => ⟨fun _ => hraise _ rfl, fun _ =>
    ⟨fun _ => hraise _ rfl, fun _ => ⟨fun _ => hraise _ rfl, fun _ => ?_⟩⟩⟩⟩
  refine Meets.loggedEvents_bind fun events => ?_
  refine Meets.now_bind fun occurredAt => ?_
  refine Meets.bind (Meets.tryExcept (Meets.emit transactions ?_))
  exact meets_pure.mpr (hQ _)

/-- A handler that compensates for an error that is no `ExecutionFailedError` has to
meet the specification from wherever the error left the objects. -/
theorem Meets.compensate {x : Method α} {handler : RuntimeError → Method α}
    (hx : Meets env x h Q Clean)
    (hhandler : ∀ error h', error.isExecutionFailed = false →
      Meets env (handler error) h' Q E) :
    Meets env (tryExcept x handler) h Q E := by
  refine Meets.tryExcept (hx.mono (fun _ _ hQ => hQ) ?_)
  intro error h' hclean
  exact hhandler error h' hclean

theorem Meets.atomicDomainOperation {method : Method α} (henv : env.Sound)
    (hraise : ∀ error, error.isExecutionFailed = false → E error h)
    (hmethod : Meets env method h Q E) :
    Meets env (atomicDomainOperation method) h Q E := by
  unfold Runtime.atomicDomainOperation keepDomainFailure
  refine Meets.bind (Meets.atomic_nested transactions (Meets.tryExcept (Meets.map ?_)))
  refine Meets.failurePoint_bind henv ?_ ?_
  · intro error hclean
    rw [hclean, if_neg Bool.false_ne_true, meets_raise]
    exact hraise error hclean
  · refine hmethod.mono ?_ ?_
    · intro result h' hQ
      rw [meets_pure_bind]
      exact meets_pure.mpr hQ
    · intro error h' hE
      by_cases hfailed : error.isExecutionFailed = true
      · rw [if_pos hfailed, meets_pure, meets_pure_bind]
        exact meets_raise.mpr hE
      · rw [if_neg hfailed, meets_raise]
        exact hE

end Runtime
end Ascos
