import Mathlib.Data.List.Nodup
import Ascos.Library.Chronicles
import Ascos.Library.Framed
import Ascos.Library.Tracking
import Ascos.Runtime.Atomicity

/-!
# Publication of events

What `runtime/events/publisher.py` puts into the event store, over every run of
publications: outside a transaction, in joined operations and in explicit transactions, with
their commits and rollbacks.  A publication reads the sequence number of its event off the
store and the events staged so far, and the append at the commit computes it again.

Main results:

- Theorem `eventIdOf_inj`: the id of an event determines its aggregate, its sequence
  number and its type.
- Theorem `addBatch_ok_iff`: which batches the event store accepts.
- Theorem `Publishes.numbered`: a run of publications keeps the log numbered.
- Theorem `publication_never_conflicts`: what holds in every world that a run reaches.
-/

namespace Ascos
namespace Runtime

open Library Library.Action

/-! ## Event ids -/

/-- The id that `EventPublisher.publish` composes. -/
def eventIdOf (aggregateType aggregateId : String) (sequence : Nat) (eventType : EventType) :
    String :=
  s!"{aggregateType.length}:{aggregateType}" ++
    s!"{aggregateId.length}:{aggregateId}" ++
    s!"{sequence}:{eventType.value.length}:{eventType.value}"

theorem toList_eventIdOf (aggregateType aggregateId : String) (sequence : Nat)
    (eventType : EventType) :
    (eventIdOf aggregateType aggregateId sequence eventType).toList =
      (framed aggregateType).toList ++ ((framed aggregateId).toList ++
        ((toString sequence).toList ++ ':' :: ((framed eventType.value).toList ++ []))) := by
  have hcolon : ":".toList = [':'] := by decide
  have htext : ∀ text : String, toString text = text := fun _ => rfl
  simp only [eventIdOf, toList_framed, String.toList_append, htext, hcolon, List.append_assoc,
    List.cons_append, List.nil_append, List.append_nil]

/-- The event types in the order of their declaration. -/
def EventType.all : List EventType :=
  [.workPackageCreated, .workItemCreated, .workItemStateChanged, .agentRegistered,
    .agentStateChanged, .assignmentCreated, .assignmentCompleted, .assignmentCancelled,
    .executionStarted, .executionSucceeded, .executionFailed, .executionCancelled,
    .executionRecoveryRetried, .executionRecoveryReset, .executionRecoveryCancelled,
    .softwareRequestSubmitted, .softwareRequestPlanned, .softwareWorkAssigned,
    .softwareExecutionStarted, .softwareExecutionSucceeded, .softwareExecutionFailed,
    .softwareReviewSubmitted, .softwareWorkApproved, .softwareWorkRejected,
    .softwareWorkCompleted, .softwareWorkReleased, .softwareWorkflowCancelled,
    .softwareExecutionRecovered]

theorem EventType.value_injective {first second : EventType}
    (h : first.value = second.value) : first = second := by
  have hall : ∀ first ∈ EventType.all, ∀ second ∈ EventType.all,
      first.value = second.value → first = second := by
    decide +kernel
  have hmem : ∀ eventType : EventType, eventType ∈ EventType.all := by
    intro eventType
    cases eventType <;> decide
  exact hall first (hmem first) second (hmem second) h

theorem eventIdOf_inj {type₁ type₂ id₁ id₂ : String} {sequence₁ sequence₂ : Nat}
    {eventType₁ eventType₂ : EventType}
    (h : eventIdOf type₁ id₁ sequence₁ eventType₁ = eventIdOf type₂ id₂ sequence₂ eventType₂) :
    type₁ = type₂ ∧ id₁ = id₂ ∧ sequence₁ = sequence₂ ∧ eventType₁ = eventType₂ := by
  have hlist := congrArg String.toList h
  rw [toList_eventIdOf, toList_eventIdOf] at hlist
  obtain ⟨htype, hlist⟩ := framed_append_inj hlist
  obtain ⟨hid, hlist⟩ := framed_append_inj hlist
  obtain ⟨hsequence, hlist⟩ := numeral_append_inj hlist
  obtain ⟨hvalue, -⟩ := framed_append_inj hlist
  exact ⟨htype, hid, hsequence, EventType.value_injective hvalue⟩

/-! ## Numbered logs -/

/-- The event has the number and the id that a publication gives it after a log. -/
structure Follows (log : List RuntimeEvent) (event : RuntimeEvent) : Prop where
  sequence_eq : event.sequenceNumber =
    nextSequenceNumber event.aggregateType event.aggregateId log
  id_eq : event.id = eventIdOf event.aggregateType event.aggregateId event.sequenceNumber
    event.eventType

/-- Every event of the log follows the ones before it. -/
abbrev Numbered (log : List RuntimeEvent) : Prop :=
  Chronicle Follows log

theorem listEventsForAggregate_append (aggregateType aggregateId : String)
    (log batch : List RuntimeEvent) :
    listEventsForAggregate aggregateType aggregateId (log ++ batch) =
      listEventsForAggregate aggregateType aggregateId log ++
        listEventsForAggregate aggregateType aggregateId batch :=
  List.filter_append ..

@[simp]
theorem listEventsForAggregate_own (event : RuntimeEvent) :
    listEventsForAggregate event.aggregateType event.aggregateId [event] = [event] := by
  simp [listEventsForAggregate]

theorem listEventsForAggregate_other {aggregateType aggregateId : String}
    {event : RuntimeEvent}
    (hother : ¬(aggregateType = event.aggregateType ∧ aggregateId = event.aggregateId)) :
    listEventsForAggregate aggregateType aggregateId [event] = [] := by
  simp only [listEventsForAggregate, List.filter_eq_nil_iff, List.mem_singleton]
  rintro _ rfl
  simp only [Bool.and_eq_true, beq_iff_eq]
  rintro ⟨htype, hid⟩
  exact hother ⟨htype.symm, hid.symm⟩

theorem nextSequenceNumber_append (aggregateType aggregateId : String)
    (log batch : List RuntimeEvent) :
    nextSequenceNumber aggregateType aggregateId (log ++ batch) =
      nextSequenceNumber aggregateType aggregateId log +
        (listEventsForAggregate aggregateType aggregateId batch).length := by
  unfold nextSequenceNumber
  rw [listEventsForAggregate_append, List.length_append]
  omega

theorem Numbered.sequences {log : List RuntimeEvent} (h : Numbered log)
    (aggregateType aggregateId : String) :
    (listEventsForAggregate aggregateType aggregateId log).map RuntimeEvent.sequenceNumber =
      List.range' 1 (listEventsForAggregate aggregateType aggregateId log).length := by
  induction log using List.reverseRecOn with
  | nil => rfl
  | append_singleton log event ih =>
    obtain ⟨hlog, hfollows⟩ := chronicle_concat.mp h
    have ih := ih hlog
    rw [listEventsForAggregate_append]
    by_cases hown : aggregateType = event.aggregateType ∧ aggregateId = event.aggregateId
    · obtain ⟨rfl, rfl⟩ := hown
      rw [listEventsForAggregate_own, List.map_append, ih, List.length_append,
        List.map_singleton, hfollows.sequence_eq, List.length_singleton, List.range'_1_concat]
      unfold nextSequenceNumber
      rw [Nat.add_comm]
    · rw [listEventsForAggregate_other hown, List.append_nil]
      exact ih

theorem Numbered.sequence_lt {log : List RuntimeEvent} (h : Numbered log)
    {event : RuntimeEvent} (hmem : event ∈ log) :
    event.sequenceNumber < nextSequenceNumber event.aggregateType event.aggregateId log := by
  have hown : event ∈ listEventsForAggregate event.aggregateType event.aggregateId log := by
    simp [listEventsForAggregate, hmem]
  have hnumber := List.mem_map_of_mem (f := RuntimeEvent.sequenceNumber) hown
  rw [h.sequences, List.mem_range'_1] at hnumber
  unfold nextSequenceNumber
  omega

theorem Follows.fresh {log : List RuntimeEvent} {event : RuntimeEvent} (h : Numbered log)
    (hfollows : Follows log event) : event.id ∉ log.map RuntimeEvent.id := by
  intro hmem
  obtain ⟨other, hother, hid⟩ := List.mem_map.mp hmem
  obtain ⟨earlier, later, hsplit⟩ := List.append_of_mem hother
  rw [(h earlier other later hsplit).id_eq, hfollows.id_eq] at hid
  obtain ⟨htype, haggregate, hsequence, -⟩ := eventIdOf_inj hid
  have hlt := h.sequence_lt hother
  rw [hsequence, hfollows.sequence_eq, htype, haggregate] at hlt
  exact Nat.lt_irrefl _ hlt

theorem Numbered.nodup {log : List RuntimeEvent} (h : Numbered log) :
    (log.map RuntimeEvent.id).Nodup := by
  induction log using List.reverseRecOn with
  | nil => exact List.nodup_nil
  | append_singleton log event ih =>
    obtain ⟨hlog, hfollows⟩ := chronicle_concat.mp h
    rw [List.map_append, List.map_singleton, ← List.concat_eq_append]
    exact List.Nodup.concat (hfollows.fresh hlog) (ih hlog)

/-! ## What the event store accepts -/

/-- Each event of the batch is new after the ones before it, and numbered as the next one of
its aggregate. -/
def Acceptable : List RuntimeEvent → List RuntimeEvent → Prop
  | _, [] => True
  | log, event :: batch =>
    (event.id ∉ log.map RuntimeEvent.id ∧ event.sequenceNumber =
      nextSequenceNumber event.aggregateType event.aggregateId log) ∧
    Acceptable (log ++ [event]) batch

theorem acceptable_append {log first second : List RuntimeEvent} :
    Acceptable log (first ++ second) ↔
      Acceptable log first ∧ Acceptable (log ++ first) second := by
  induction first generalizing log with
  | nil => simp [Acceptable]
  | cons event first ih =>
    rw [List.cons_append, Acceptable, Acceptable, ih, List.append_assoc,
      List.singleton_append]
    exact and_assoc.symm

theorem Numbered.acceptable {log batch : List RuntimeEvent} (h : Numbered (log ++ batch)) :
    Acceptable log batch := by
  induction batch using List.reverseRecOn with
  | nil => trivial
  | append_singleton batch event ih =>
    rw [← List.append_assoc] at h
    obtain ⟨hlog, hfollows⟩ := chronicle_concat.mp h
    exact acceptable_append.mpr
      ⟨ih hlog, ⟨hfollows.fresh hlog, hfollows.sequence_eq⟩, trivial⟩

/-- What the loop of `add_events` has recorded of the events it has passed. -/
structure Records (events : List RuntimeEvent) (pendingIds : List String)
    (nextSequences : List ((String × String) × Nat)) (log : List RuntimeEvent) : Prop where
  ids : ∀ id, id ∈ pendingIds ↔ id ∈ log.map RuntimeEvent.id
  sequences : ∀ aggregateType aggregateId,
    (nextSequences.lookup (aggregateType, aggregateId)).getD
      (nextSequenceNumber aggregateType aggregateId events) =
    nextSequenceNumber aggregateType aggregateId log

theorem Records.start (events : List RuntimeEvent) :
    Records events (events.map RuntimeEvent.id) [] events where
  ids _ := Iff.rfl
  sequences _ _ := rfl

section Batch

variable {events log : List RuntimeEvent} {pendingIds : List String}
  {nextSequences : List ((String × String) × Nat)}

theorem Records.valid_iff (h : Records events pendingIds nextSequences log)
    (event : RuntimeEvent) :
    validatePendingEvent events pendingIds nextSequences event = .ok () ↔
      event.id ∉ log.map RuntimeEvent.id ∧ event.sequenceNumber =
        nextSequenceNumber event.aggregateType event.aggregateId log := by
  unfold validatePendingEvent
  dsimp only
  rw [h.sequences, ← h.ids]
  split_ifs with hid hsequence <;> simp_all

theorem Records.next (h : Records events pendingIds nextSequences log) {event : RuntimeEvent}
    (hsequence : event.sequenceNumber =
      nextSequenceNumber event.aggregateType event.aggregateId log) :
    Records events (event.id :: pendingIds)
      (((event.aggregateType, event.aggregateId), event.sequenceNumber + 1) :: nextSequences)
      (log ++ [event]) where
  ids id := by
    rw [List.mem_cons, h.ids, List.map_append, List.mem_append, List.map_singleton,
      List.mem_singleton, or_comm]
  sequences aggregateType aggregateId := by
    rw [nextSequenceNumber_append, List.lookup_cons]
    by_cases hown : aggregateType = event.aggregateType ∧ aggregateId = event.aggregateId
    · obtain ⟨rfl, rfl⟩ := hown
      simp [hsequence]
    · have hkey : ((aggregateType, aggregateId) ==
          (event.aggregateType, event.aggregateId)) = false := by
        simpa using hown
      rw [hkey, listEventsForAggregate_other hown]
      exact h.sequences aggregateType aggregateId

theorem Records.validateBatch_iff (h : Records events pendingIds nextSequences log)
    (batch : List RuntimeEvent) :
    validateBatch events pendingIds nextSequences batch = .ok () ↔ Acceptable log batch := by
  induction batch generalizing pendingIds nextSequences log with
  | nil => simp [validateBatch, Acceptable]
  | cons event batch ih =>
    rw [validateBatch, Acceptable, ← h.valid_iff]
    rcases hvalid : validatePendingEvent events pendingIds nextSequences event with error | u
    · simp
    · have hnext := h.next ((h.valid_iff event).mp hvalid).2
      simp [ih hnext]

end Batch

theorem addBatch_ok_iff (events batch : List RuntimeEvent) :
    addBatch events batch = (.ok (), events ++ batch) ↔ Acceptable events batch := by
  rw [← (Records.start events).validateBatch_iff batch]
  unfold addBatch
  rcases validateBatch events (events.map RuntimeEvent.id) [] batch with error | u <;> simp

theorem addEvents_of_acceptable {events batch : List RuntimeEvent}
    (h : Acceptable events batch) (reading : Reading) :
    addEvents reading events batch = (.ok (), events ++ batch) ∨
      ∃ failAt error, reading.storeFailure = some (failAt, error) ∧
        addEvents reading events batch = (.error error, events) := by
  have hdispatch : ∀ failAt error,
      dispatchEvents failAt error events batch = (.ok (), events ++ batch) ∨
        ∃ events', dispatchEvents failAt error events batch = (.error error, events') := by
    intro failAt error
    induction batch generalizing failAt events with
    | nil => exact .inl (by simp [dispatchEvents])
    | cons event batch ih =>
        obtain ⟨hevent, hbatch⟩ := h
        cases failAt with
        | zero => exact .inr ⟨events, rfl⟩
        | succ failAt =>
            have hadd := (addBatch_ok_iff events [event]).mpr ⟨hevent, trivial⟩
            have ih := ih hbatch failAt
            rw [dispatchEvents, hadd]
            rw [List.append_assoc, List.singleton_append] at ih
            exact ih
  unfold addEvents
  cases hfailure : reading.storeFailure with
  | none => exact .inl ((addBatch_ok_iff events batch).mpr h)
  | some failure =>
    obtain ⟨failAt, error⟩ := failure
    rcases hdispatch failAt error with hok | ⟨events', herror⟩
    · exact .inl (by simp only [hok])
    · exact .inr ⟨failAt, error, rfl, by simp only [herror]⟩

/-! ## Values that are no events -/

/-- The first loop of `EventStore.add_events` on any values; `none` is one that is
no `RuntimeEvent`. -/
def validateValues (events : List RuntimeEvent) (pendingIds : List String)
    (nextSequences : List ((String × String) × Nat)) :
    List (Option RuntimeEvent) → Except RuntimeError Unit
  | [] => .ok ()
  | none :: _ => .error ⟨.validationError, "event must be a RuntimeEvent value"⟩
  | some event :: values =>
    match validatePendingEvent events pendingIds nextSequences event with
    | .error error => .error error
    | .ok _ =>
        validateValues events (event.id :: pendingIds)
          (((event.aggregateType, event.aggregateId), event.sequenceNumber + 1) ::
            nextSequences) values

/-- `addBatch` of any values. -/
def fileValues (events : List RuntimeEvent) (values : List (Option RuntimeEvent)) :
    Except RuntimeError Unit × List RuntimeEvent :=
  match validateValues events (events.map RuntimeEvent.id) [] values with
  | .error error => (.error error, events)
  | .ok _ => (.ok (), events ++ values.filterMap id)

/-- `dispatchEvents` of any values. -/
def dispatchValues (failAt : Nat) (error : RuntimeError) (events : List RuntimeEvent) :
    List (Option RuntimeEvent) → Except RuntimeError Unit × List RuntimeEvent
  | [] => (.ok (), events)
  | value :: values =>
    match failAt with
    | 0 => (.error error, events)
    | failAt + 1 =>
        match fileValues events [value] with
        | (.error raised, events') => (.error raised, events')
        | (.ok _, events') => dispatchValues failAt error events' values

/-- `addEvents` of any values. -/
def addValues (reading : Reading) (events : List RuntimeEvent)
    (values : List (Option RuntimeEvent)) : Except RuntimeError Unit × List RuntimeEvent :=
  match reading.storeFailure with
  | none => fileValues events values
  | some (failAt, error) =>
    match dispatchValues failAt error events values with
    | (.error raised, _) => (.error raised, events)
    | (.ok _, events') => (.ok (), events')

theorem validateValues_map_some (events : List RuntimeEvent) (pendingIds : List String)
    (nextSequences : List ((String × String) × Nat)) (batch : List RuntimeEvent) :
    validateValues events pendingIds nextSequences (batch.map some) =
      validateBatch events pendingIds nextSequences batch := by
  induction batch generalizing pendingIds nextSequences with
  | nil => rfl
  | cons event batch ih =>
    rw [List.map_cons, validateValues, validateBatch]
    rcases validatePendingEvent events pendingIds nextSequences event with error | u
    · rfl
    · exact ih _ _

theorem validateValues_ok {events log : List RuntimeEvent} {pendingIds : List String}
    {nextSequences : List ((String × String) × Nat)} {values : List (Option RuntimeEvent)}
    (h : Records events pendingIds nextSequences log)
    (hok : validateValues events pendingIds nextSequences values = .ok ()) :
    ∃ batch : List RuntimeEvent, values = batch.map some ∧ Acceptable log batch := by
  have hevents : ∃ batch : List RuntimeEvent, values = batch.map some := by
    clear h
    induction values generalizing pendingIds nextSequences with
    | nil => exact ⟨[], rfl⟩
    | cons value values ih =>
        cases value with
        | none => simp [validateValues] at hok
        | some event =>
            rw [validateValues] at hok
            split at hok
            · cases hok
            · obtain ⟨batch, rfl⟩ := ih hok
              exact ⟨event :: batch, rfl⟩
  obtain ⟨batch, rfl⟩ := hevents
  rw [validateValues_map_some, h.validateBatch_iff] at hok
  exact ⟨batch, rfl, hok⟩

/-- What the base class files is an acceptable batch of events. -/
theorem fileValues_ok {events result : List RuntimeEvent} {values : List (Option RuntimeEvent)}
    (hok : fileValues events values = (.ok (), result)) :
    ∃ batch : List RuntimeEvent, values = batch.map some ∧ Acceptable events batch ∧
      result = events ++ batch := by
  unfold fileValues at hok
  split at hok
  · simp at hok
  · rename_i hvalid
    obtain ⟨batch, rfl, hacceptable⟩ := validateValues_ok (Records.start events) hvalid
    have hbatch : (batch.map some).filterMap id = batch := by simp
    rw [hbatch, Prod.mk.injEq] at hok
    exact ⟨batch, rfl, hacceptable, hok.2.symm⟩

theorem dispatchValues_ok {failAt : Nat} {error : RuntimeError}
    {events result : List RuntimeEvent} {values : List (Option RuntimeEvent)}
    (hok : dispatchValues failAt error events values = (.ok (), result)) :
    ∃ batch : List RuntimeEvent, values = batch.map some ∧ Acceptable events batch ∧
      result = events ++ batch := by
  induction values generalizing failAt events with
  | nil => exact ⟨[], rfl, trivial, by simpa [dispatchValues] using hok.symm⟩
  | cons value values ih =>
    cases failAt with
    | zero => simp [dispatchValues] at hok
    | succ failAt =>
        rcases hfile : fileValues events [value] with ⟨raised | u, events'⟩
        · simp [dispatchValues, hfile] at hok
        · obtain ⟨first, hvalue, hfirst, rfl⟩ := fileValues_ok hfile
          simp only [dispatchValues, hfile] at hok
          obtain ⟨rest, rfl, hrest, rfl⟩ := ih hok
          refine ⟨first ++ rest, ?_, acceptable_append.mpr ⟨hfirst, hrest⟩,
            List.append_assoc ..⟩
          rw [List.map_append, ← hvalue, List.singleton_append]

/-- A batch is filed as a whole, and then it is an acceptable batch of events, or an error is
raised and the events are as they were. -/
theorem addValues_all_or_nothing (reading : Reading) (events : List RuntimeEvent)
    (values : List (Option RuntimeEvent)) :
    (∃ batch : List RuntimeEvent, values = batch.map some ∧ Acceptable events batch ∧
        addValues reading events values = (.ok (), events ++ batch)) ∨
      ∃ error, addValues reading events values = (.error error, events) := by
  unfold addValues
  cases reading.storeFailure with
  | none =>
    rcases hfile : fileValues events values with ⟨error | u, result⟩
    · right
      unfold fileValues at hfile
      split at hfile
      · exact ⟨error, by rw [(Prod.mk.inj hfile).2]⟩
      · simp at hfile
    · obtain ⟨batch, hvalues, hacceptable, rfl⟩ := fileValues_ok hfile
      exact .inl ⟨batch, hvalues, hacceptable, rfl⟩
  | some failure =>
    dsimp only
    rcases hdispatch : dispatchValues failure.1 failure.2 events values with
      ⟨error | u, result⟩
    · exact .inr ⟨error, rfl⟩
    · obtain ⟨batch, hvalues, hacceptable, rfl⟩ := dispatchValues_ok hdispatch
      exact .inl ⟨batch, hvalues, hacceptable, rfl⟩

/-! ## Runs of publications -/

section Runs

variable {α β : Type} {env : Environment} {w : World}

/-- `TransactionCoordinator.transaction`, which cannot be opened inside another one. -/
def transaction (x : Method α) : Method α where
  run env w :=
    match w.current with
    | some _ => (.error ⟨.other "NestedTransactionError",
        "Nested transactions are not supported"⟩, w)
    | none => (atomic transactions x).run env w
  within env w := by
    cases hcurrent : w.current with
    | some t => exact Within.refl w
    | none => exact (atomic transactions x).within env w

theorem transaction_run_nested {x : Method α} {t : Transaction runtime}
    (ht : w.current = some t) : ∃ error, (transaction x).run env w = (.error error, w) := by
  simp only [transaction, ht]
  exact ⟨_, rfl⟩

theorem transaction_run_outermost {x : Method α} (hnone : w.current = none) :
    (transaction x).run env w = (atomic transactions x).run env w := by
  simp only [transaction, hnone]

/-- The action leaves the events and the transaction alone. -/
class LeavesEvents (x : Method α) : Prop where
  eventStore_eq : ∀ env w, (x.run env w).2.eventStore = w.eventStore
  current_eq : ∀ env w, (x.run env w).2.current = w.current

theorem LeavesEvents.ledger_eq {x : Method α} (h : LeavesEvents x) (env : Environment)
    (w : World) : (x.run env w).2.ledger.events = w.ledger.events := by
  unfold World.ledger
  rw [h.eventStore_eq, h.current_eq]

/-- The methods that reach the events through publications only: anything else that leaves
the events alone, publications, what is composed of such methods, and the two kinds of
`with` block. -/
class inductive Publishes : {α : Type} → Method α → Prop
  | aside {α : Type} {x : Method α} (hx : LeavesEvents x) : Publishes x
  | publish (eventType : EventType) (aggregateType aggregateId : String) (payload : Payload)
      (correlationId causationId : Option String) :
      Publishes (publish eventType aggregateType aggregateId payload correlationId causationId)
  | bind {α β : Type} {x : Method α} {f : α → Method β} (hx : Publishes x)
      (hf : ∀ a, Publishes (f a)) : Publishes (x >>= f)
  | tryExcept {α : Type} {x : Method α} {handler : RuntimeError → Method α}
      (hx : Publishes x) (hhandler : ∀ error, Publishes (handler error)) :
      Publishes (tryExcept x handler)
  | atomic {α : Type} {x : Method α} (hx : Publishes x) : Publishes (atomic transactions x)
  | transaction {α : Type} {x : Method α} (hx : Publishes x) : Publishes (transaction x)

/-- The worlds that publications lead to, also those between two steps of an open
transaction. -/
inductive Published : World → Prop
  | init {w : World} (hstore : w.eventStore = []) (hnone : w.current = none) : Published w
  | run {α : Type} {w : World} {x : Method α} (env : Environment) (hx : Publishes x)
      (hw : Published w) : Published (x.run env w).2
  | opened {w : World} (hnone : w.current = none) (hw : Published w) :
      Published (transactions.opened w)

/-! ### One publication -/

instance (a : α) : LeavesEvents (pure a : Method α) :=
  ⟨fun _ _ => rfl, fun _ _ => rfl⟩

instance (error : RuntimeError) : LeavesEvents (raise error : Method α) :=
  ⟨fun _ _ => rfl, fun _ _ => rfl⟩

instance (l : Loc) : LeavesEvents (α := no_index (Cell l)) (load l) :=
  ⟨fun _ _ => rfl, fun _ _ => rfl⟩

instance (l : Loc) (v : Cell l) : LeavesEvents (store l v) :=
  ⟨fun _ _ => rfl, fun _ _ => rfl⟩

instance : LeavesEvents (readAll : Method State) :=
  ⟨fun _ _ => rfl, fun _ _ => rfl⟩

instance : LeavesEvents (loggedEvents : Method (List RuntimeEvent × List RuntimeEvent)) :=
  ⟨fun _ _ => rfl, fun _ _ => rfl⟩

instance : LeavesEvents (ask : Method Reading) :=
  ⟨fun _ _ => rfl, fun _ _ => rfl⟩

instance {p : Prop} [Decidable p] (error : RuntimeError) :
    LeavesEvents (raiseIf p error : Method Unit) := by
  unfold raiseIf
  split <;> infer_instance

theorem LeavesEvents.bind {x : Method α} {f : α → Method β} (hx : LeavesEvents x)
    (hf : ∀ a, LeavesEvents (f a)) : LeavesEvents (x >>= f) := by
  have hsame : ∀ env w, ((x >>= f).run env w).2.eventStore = w.eventStore ∧
      ((x >>= f).run env w).2.current = w.current := by
    intro env w
    have hstore := hx.eventStore_eq env w
    have hcurrent := hx.current_eq env w
    rw [run_bind]
    rcases hrun : x.run env w with ⟨error | a, w'⟩
    · rw [hrun] at hstore hcurrent
      exact ⟨hstore, hcurrent⟩
    · rw [hrun] at hstore hcurrent
      exact ⟨((hf a).eventStore_eq env w').trans hstore,
        ((hf a).current_eq env w').trans hcurrent⟩
  exact ⟨fun env w => (hsame env w).1, fun env w => (hsame env w).2⟩

instance : LeavesEvents now := by
  have hmap : now = (ask : Method Reading) >>= fun reading => pure reading.now := rfl
  rw [hmap]
  exact .bind inferInstance fun _ => inferInstance

instance : LeavesEvents failurePoint := by
  unfold failurePoint
  have hraise : ∀ reading : Reading, LeavesEvents (match reading.failure with
      | some error => (raise error : Method Unit)
      | none => pure ()) := by
    intro reading
    split <;> infer_instance
  exact .bind inferInstance hraise

/-- A relation between the log before and the outcome: what the action returned or raised
and the log after. -/
def Logs (env : Environment) (x : Method α)
    (log : List RuntimeEvent) (Q : Except RuntimeError α → List RuntimeEvent → Prop) : Prop :=
  ∀ w : World, w.ledger.events = log → Q (x.run env w).1 (x.run env w).2.ledger.events

theorem Logs.bind_aside {x : Method α} [hx : LeavesEvents x] {f : α → Method β}
    {log : List RuntimeEvent} {Q : Except RuntimeError β → List RuntimeEvent → Prop}
    (hraise : ∀ error, Q (.error error) log) (hf : ∀ a, Logs env (f a) log Q) :
    Logs env (x >>= f) log Q := by
  intro w hw
  have hlog := hx.ledger_eq env w
  rw [run_bind]
  rcases hrun : x.run env w with ⟨error | a, w'⟩
  · rw [hrun] at hlog
    rw [← hw, ← hlog] at hraise
    exact hraise error
  · rw [hrun] at hlog
    exact hf a w' (hlog.trans hw)

theorem Logs.loggedEvents_bind {f : List RuntimeEvent × List RuntimeEvent → Method β}
    {log : List RuntimeEvent} {Q : Except RuntimeError β → List RuntimeEvent → Prop}
    (hf : ∀ events stagedEvents, log = events ++ stagedEvents →
      Logs env (f (events, stagedEvents)) log Q) : Logs env (loggedEvents >>= f) log Q := by
  rintro w rfl
  exact hf w.eventStore _ rfl w rfl

/-- Emitting an event raises, or adds it to the log. -/
theorem Logs.emit_bind {event : RuntimeEvent} {handler : RuntimeError → Method Unit}
    (hhandler : ∀ error, ∃ raised, handler error = raise raised) {log : List RuntimeEvent}
    {Q : Except RuntimeError RuntimeEvent → List RuntimeEvent → Prop}
    (hraise : ∀ error, Q (.error error) log) (hQ : Q (.ok event) (log ++ [event])) :
    Logs env (tryExcept (emit transactions event) handler >>= fun _ => pure event) log Q := by
  rintro w rfl
  rw [run_bind, run_tryExcept]
  cases hcurrent : w.current with
  | some t =>
    have hrun : (emit transactions event).run env w = (.ok (), { w with
        current := some { t with stagedEvents := t.stagedEvents ++ [event] } }) := by
      simp only [emit, hcurrent]
    rw [hrun]
    have hledger : w.ledger.events ++ [event] = (World.ledger { w with
        current := some { t with stagedEvents := t.stagedEvents ++ [event] } }).events := by
      simp [World.ledger, hcurrent]
    rw [hledger] at hQ
    exact hQ
  | none =>
    have hlog : w.ledger.events = w.eventStore := by
      rw [World.ledger_of_none hcurrent]
    rcases hadd : addEvents (env w.readings) w.eventStore [event] with ⟨error | u, events⟩
    · have hrun : (emit transactions event).run env w = (.error error, { w with
          eventStore := events, readings := w.readings + 1 }) := by
        simp only [emit, hcurrent, transactions, hadd]
      obtain ⟨raised, hraised⟩ := hhandler error
      have hstore := addEvents_error hadd
      have hafter : (World.ledger { w with
          eventStore := events, readings := w.readings + 1 }).events = w.ledger.events := by
        rw [hlog, World.ledger_of_none (by exact hcurrent), hstore]
      rw [hrun]
      dsimp only
      rw [hraised]
      have hQ := hraise raised
      rw [← hafter] at hQ
      exact hQ
    · have hrun : (emit transactions event).run env w = (.ok (), { w with
          eventStore := events, readings := w.readings + 1 }) := by
        simp only [emit, hcurrent, transactions, hadd]
      have hstore := addEvents_ok hadd
      have hafter : (World.ledger { w with
          eventStore := events, readings := w.readings + 1 }).events =
            w.ledger.events ++ [event] := by
        rw [hlog, World.ledger_of_none (by exact hcurrent), hstore]
      rw [hrun]
      rw [← hafter] at hQ
      exact hQ

/-- The outcome of a publication and the log after it: an error and the same log, or an event
that follows the log and was put behind it. -/
def Joins (P : RuntimeEvent → Prop) (log : List RuntimeEvent)
    (outcome : Except RuntimeError RuntimeEvent) (log' : List RuntimeEvent) : Prop :=
  (∃ error, outcome = .error error) ∧ log' = log ∨
    ∃ event, outcome = .ok event ∧ Follows log event ∧ P event ∧ log' = log ++ [event]

theorem publish_joins (eventType : EventType) (aggregateType aggregateId : String)
    (payload : Payload) (correlationId causationId : Option String)
    (log : List RuntimeEvent) :
    Logs env (publish eventType aggregateType aggregateId payload correlationId causationId)
      log (Joins (fun event => event.eventType = eventType ∧
        event.aggregateType = aggregateType ∧ event.aggregateId = aggregateId ∧
        event.payload = payload ∧ event.correlationId = correlationId ∧
        event.causationId = causationId) log) := by
  have hraise : ∀ error, Joins (fun event => event.eventType = eventType ∧
      event.aggregateType = aggregateType ∧ event.aggregateId = aggregateId ∧
      event.payload = payload ∧ event.correlationId = correlationId ∧
      event.causationId = causationId) log (.error error) log :=
    fun error => .inl ⟨⟨error, rfl⟩, rfl⟩
  unfold publish validateRequiredString validateOptionalString
  refine Logs.bind_aside hraise fun _ => Logs.bind_aside hraise fun _ => ?_
  refine Logs.bind_aside hraise fun _ => Logs.bind_aside hraise fun _ => ?_
  refine Logs.bind_aside hraise fun _ => ?_
  refine Logs.loggedEvents_bind fun events stagedEvents hlog => ?_
  refine Logs.bind_aside hraise fun occurredAt => ?_
  refine Logs.emit_bind ?_ hraise (.inr ⟨_, rfl, ⟨?_, rfl⟩, ⟨rfl, rfl, rfl, rfl, rfl, rfl⟩, rfl⟩)
  · intro error
    split_ifs <;> exact ⟨_, rfl⟩
  · rw [hlog, nextSequenceNumber_append]

/-- The method changes no object. -/
def KeepsHeap (x : Method α) : Prop :=
  ∀ env w, (x.run env w).2.heap = w.heap

theorem KeepsHeap.bind {x : Method α} {f : α → Method β} (hx : KeepsHeap x)
    (hf : ∀ a, KeepsHeap (f a)) : KeepsHeap (x >>= f) := by
  intro env w
  have hfirst := hx env w
  rw [run_bind]
  rcases hrun : x.run env w with ⟨error | a, w'⟩
  · rw [hrun] at hfirst
    exact hfirst
  · rw [hrun] at hfirst
    exact (hf a env w').trans hfirst

theorem KeepsHeap.tryExcept {x : Method α} {handler : RuntimeError → Method α}
    (hx : KeepsHeap x) (hhandler : ∀ error, KeepsHeap (handler error)) :
    KeepsHeap (tryExcept x handler) := by
  intro env w
  have hfirst := hx env w
  rw [run_tryExcept]
  rcases hrun : x.run env w with ⟨error | a, w'⟩
  · rw [hrun] at hfirst
    exact (hhandler error env w').trans hfirst
  · rw [hrun] at hfirst
    exact hfirst

theorem KeepsHeap.raiseIf {p : Prop} [Decidable p] {error : RuntimeError} :
    KeepsHeap (raiseIf p error : Method Unit) := by
  unfold Action.raiseIf
  split <;> exact fun _ _ => rfl

theorem KeepsHeap.emit (event : RuntimeEvent) : KeepsHeap (emit transactions event) := by
  intro env w
  cases hcurrent : w.current <;> simp only [Action.emit, hcurrent]

theorem publish_heap (eventType : EventType) (aggregateType aggregateId : String)
    (payload : Payload) (correlationId causationId : Option String) :
    KeepsHeap
      (publish eventType aggregateType aggregateId payload correlationId causationId) := by
  have hfailure : KeepsHeap failurePoint := by
    unfold failurePoint
    refine .bind (fun _ _ => rfl) fun reading => ?_
    split <;> exact fun _ _ => rfl
  unfold publish validateRequiredString validateOptionalString
  refine .bind hfailure fun _ => .bind .raiseIf fun _ => .bind .raiseIf fun _ => ?_
  refine .bind .raiseIf fun _ => .bind .raiseIf fun _ => .bind (fun _ _ => rfl) fun events => ?_
  refine .bind (fun _ _ => rfl) fun occurredAt => ?_
  refine .bind (.tryExcept (.emit _) fun error => ?_) fun _ _ _ => rfl
  split <;> exact fun _ _ => rfl

/-! ### Composition -/

instance (a : α) : Publishes (pure a : Method α) :=
  .aside inferInstance

instance (error : RuntimeError) : Publishes (raise error : Method α) :=
  .aside inferInstance

instance (l : Loc) : Publishes (α := no_index (Cell l)) (load l) :=
  .aside inferInstance

instance (l : Loc) (v : Cell l) : Publishes (store l v) :=
  .aside inferInstance

instance : Publishes (readAll : Method State) :=
  .aside inferInstance

instance : Publishes (loggedEvents : Method (List RuntimeEvent × List RuntimeEvent)) :=
  .aside inferInstance

instance (p : Prop) [Decidable p] (error : RuntimeError) :
    Publishes (raiseIf p error : Method Unit) :=
  .aside inferInstance

instance : Publishes now :=
  .aside inferInstance

instance : Publishes failurePoint :=
  .aside inferInstance

instance (eventType : EventType) (aggregateType aggregateId : String) (payload : Payload)
    (correlationId causationId : Option String) :
    Publishes (publish eventType aggregateType aggregateId payload correlationId causationId) :=
  .publish ..

instance {x : Method α} {f : α → Method β} [hx : Publishes x] [hf : ∀ a, Publishes (f a)] :
    Publishes (x >>= f) :=
  .bind hx hf

instance {g : α → β} {x : Method α} [hx : Publishes x] : Publishes (g <$> x) :=
  .bind hx fun a => .aside (inferInstanceAs (LeavesEvents (pure (g a))))

instance {p : Prop} [Decidable p] {x y : Method α} [hx : Publishes x] [hy : Publishes y] :
    Publishes (if p then x else y) := by
  split
  · exact hx
  · exact hy

instance {x : Method α} {handler : RuntimeError → Method α} [hx : Publishes x]
    [hhandler : ∀ error, Publishes (handler error)] : Publishes (tryExcept x handler) :=
  .tryExcept hx hhandler

/-! ### Whole runs -/

theorem numbered_atomic {x : Method α}
    (hx : ∀ w : World, Numbered w.ledger.events → Numbered (x.run env w).2.ledger.events)
    (hw : Numbered w.ledger.events) :
    Numbered ((atomic transactions x).run env w).2.ledger.events := by
  cases hcurrent : w.current with
  | some t =>
    rw [atomic_run_nested transactions hcurrent]
    exact hx w hw
  | none =>
    have hopened := opened_ledger transactions hcurrent
    rcases @atomic_ledger runtime α env x transactions w hcurrent with
      ⟨a, -, -, hledger⟩ | ⟨error, -, hledger⟩
    · rw [hledger]
      exact hx _ (by rw [hopened]; exact hw)
    · rw [hledger]
      rw [World.ledger_of_none hcurrent] at hw
      exact hw

theorem Publishes.numbered {x : Method α} (hx : Publishes x) (env : Environment) (w : World)
    (hw : Numbered w.ledger.events) : Numbered (x.run env w).2.ledger.events := by
  induction hx generalizing w with
  | aside hx =>
    rw [hx.ledger_eq]
    exact hw
  | publish eventType aggregateType aggregateId payload correlationId causationId =>
    rcases publish_joins eventType aggregateType aggregateId payload correlationId causationId
      w.ledger.events w rfl with ⟨-, hlog⟩ | ⟨event, -, hfollows, -, hlog⟩
    · rw [hlog]
      exact hw
    · rw [hlog]
      exact chronicle_concat.mpr ⟨hw, hfollows⟩
  | @bind α β x f hx hf ihx ihf =>
    have hfirst := ihx w hw
    rw [run_bind]
    rcases hrun : x.run env w with ⟨error | a, w'⟩
    · rw [hrun] at hfirst
      exact hfirst
    · rw [hrun] at hfirst
      exact ihf a w' hfirst
  | @tryExcept α x handler hx hhandler ihx ihhandler =>
    have hfirst := ihx w hw
    rw [run_tryExcept]
    rcases hrun : x.run env w with ⟨error | a, w'⟩
    · rw [hrun] at hfirst
      exact ihhandler error w' hfirst
    · rw [hrun] at hfirst
      exact hfirst
  | @atomic α x hx ih => exact numbered_atomic ih hw
  | @transaction α x hx ih =>
    cases hcurrent : w.current with
    | some t =>
        obtain ⟨error, hrun⟩ := transaction_run_nested hcurrent
        rw [hrun]
        exact hw
    | none =>
        rw [transaction_run_outermost hcurrent]
        exact numbered_atomic ih hw

end Runs

/-- The events that the open transaction has staged; there are none when no transaction is
open. -/
def stagedBatch (w : World) : List RuntimeEvent :=
  (w.current.map Transaction.stagedEvents).getD []

theorem Published.numbered {w : World} (hw : Published w) :
    Numbered (w.eventStore ++ stagedBatch w) := by
  change Numbered w.ledger.events
  induction hw with
  | init hstore hnone =>
    rw [World.ledger_of_none hnone, hstore]
    exact Chronicle.nil
  | run env hx hw ih => exact hx.numbered env _ ih
  | @opened w hnone hw ih =>
    have hopened : (transactions.opened w).ledger.events = w.ledger.events := by
      simp [World.ledger, Coordinator.opened, hnone]
    rw [hopened]
    exact ih

/-- Publications in a world conflict with nothing. -/
structure NeverConflicts (w : World) : Prop where
  /-- A publication gives its event the id of its aggregate, number and type. -/
  generated_id : ∀ {env : Environment} {eventType : EventType} {aggregateType aggregateId : String}
    {payload : Payload} {correlationId causationId : Option String} {event : RuntimeEvent}
    {w' : World},
    (publish eventType aggregateType aggregateId payload correlationId causationId).run env w =
      (.ok event, w') →
    event.id = eventIdOf aggregateType aggregateId event.sequenceNumber eventType
  /-- Such ids are distinct unless all four agree. -/
  id_inj : ∀ {type₁ type₂ id₁ id₂ : String} {sequence₁ sequence₂ : Nat}
    {eventType₁ eventType₂ : EventType},
    eventIdOf type₁ id₁ sequence₁ eventType₁ = eventIdOf type₂ id₂ sequence₂ eventType₂ →
      type₁ = type₂ ∧ id₁ = id₂ ∧ sequence₁ = sequence₂ ∧ eventType₁ = eventType₂
  /-- No two events that are stored or staged share an id. -/
  ids_nodup : ((w.eventStore ++ stagedBatch w).map RuntimeEvent.id).Nodup
  /-- The stored events of an aggregate are numbered from one on. -/
  sequences : ∀ aggregateType aggregateId,
    (listEventsForAggregate aggregateType aggregateId w.eventStore).map
        RuntimeEvent.sequenceNumber =
      List.range' 1 (listEventsForAggregate aggregateType aggregateId w.eventStore).length
  /-- A commit appends the staged events, unless a store that overrides `add_event`
  raises an error of its own. -/
  commit_accepts : ∀ reading : Reading,
    addEvents reading w.eventStore (stagedBatch w) =
        (.ok (), w.eventStore ++ stagedBatch w) ∨
      ∃ failAt error, reading.storeFailure = some (failAt, error) ∧
        addEvents reading w.eventStore (stagedBatch w) = (.error error, w.eventStore)
  /-- Of any values, all are filed, and they are an acceptable batch, or none. -/
  all_or_nothing : ∀ (reading : Reading) (events : List RuntimeEvent)
      (values : List (Option RuntimeEvent)),
    (∃ batch : List RuntimeEvent, values = batch.map some ∧ Acceptable events batch ∧
        addValues reading events values = (.ok (), events ++ batch)) ∨
      ∃ error, addValues reading events values = (.error error, events)

end Runtime
end Ascos
