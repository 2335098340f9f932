import Ascos.Library.Transaction
import Ascos.Outbox.Interleaving

/-!
# Rolling back an outbox transaction

The objects behind `InMemoryOutboxRepository`, `ResultApplicationService` and
`IdempotencyStore`, each in its own location, under the transactions of
`runtime/transactions`.  A snapshot copies the direct contents of an object: of a
dictionary its entries, of an operation its fields.  The repository lists its dictionaries
and its operation objects as targets, but neither the list objects of `_attempts` nor
itself.

Main results:

- Theorem `raised_view`: what is left after a transaction that raises.
- Theorem `Command.run_attempts`: which history of attempts a call writes.
- Theorem `outbox_transactional`: the exact condition under which a transaction that
  raises leaves repository and results as they were.
-/

namespace Ascos
namespace Outbox

open Library
open Ascos.Library.Program (exec exec_bind exec_get exec_ite exec_map exec_map_snd exec_modify
  exec_pure exec_set exec_throw)

/-! ## Objects -/

/-- The mutable objects.  A repository refers to the dictionaries of one generation;
`import_state` makes it refer to new ones. -/
inductive OutboxLoc where
  | repository
  | operations (generation : Nat)
  | attempts (generation : Nat)
  | idempotency (generation : Nat)
  | providerPauses (generation : Nat)
  /-- The object of an operation. -/
  | operation (generation : Nat) (operationId : String)
  /-- The list object that `_attempts` files under an operation. -/
  | attemptList (generation : Nat) (operationId : String)
  /-- The result application itself: its counter of duplicates. -/
  | resultApplication
  | applied
  | aggregateVersions
  /-- `IdempotencyStore._records`. -/
  | records
deriving DecidableEq

/-- What each object holds; the two dictionaries of objects hold their keys. -/
def OutboxCell : OutboxLoc → Type
  | .repository => Nat
  | .operations _ | .attempts _ => Records Unit
  | .idempotency _ => Records String
  | .providerPauses _ => Records Bool
  | .operation _ operationId =>
      Option { operation : OutboxOperation // operation.operationId = operationId }
  | .attemptList _ _ => List OutboxAttempt
  | .resultApplication => Nat
  | .applied => Records AppliedResult
  | .aggregateVersions => Records Nat
  | .records => Records IdempotencyRecord

/-- Outbox objects under the events and outside readings of a publisher. -/
abbrev outboxSignature (Event Reading : Type) : Signature where
  Loc := OutboxLoc
  decEqLoc := inferInstance
  Cell := OutboxCell
  Event := Event
  Error := Failure
  Reading := Reading

abbrev Objects : Type :=
  (l : OutboxLoc) → OutboxCell l

/-- The generation of the dictionaries that the repository refers to. -/
def Objects.generation (h : Objects) : Nat :=
  h .repository

/-- The identifiers that the repository's `_operations` files. -/
def Objects.operationIds (h : Objects) : Records Unit :=
  h (.operations h.generation)

/-- The object filed under an identifier. -/
def Objects.operationObject (h : Objects) (operationId : String) :
    Option { operation : OutboxOperation // operation.operationId = operationId } :=
  h (.operation h.generation operationId)

/-- The identifiers that the repository's `_attempts` files. -/
def Objects.attemptIds (h : Objects) : Records Unit :=
  h (.attempts h.generation)

/-- The list object filed under an identifier. -/
def Objects.attemptList (h : Objects) (operationId : String) : List OutboxAttempt :=
  h (.attemptList h.generation operationId)

def Objects.operationTable (h : Objects) : OperationTable where
  records := h.operationIds.filterMap fun id _ => (h.operationObject id).map Subtype.val
  keyed := by
    intro id operation hget
    rw [Std.ExtTreeMap.getElem?_filterMap'] at hget
    obtain ⟨-, -, hobject⟩ := Option.bind_eq_some_iff.mp hget
    obtain ⟨object, -, rfl⟩ := Option.map_eq_some_iff.mp hobject
    exact object.2

/-- The state that the objects make up. -/
def Objects.view (h : Objects) : Shared where
  repository :=
    { operations := h.operationTable
      attempts := h.attemptIds.map fun id _ => h.attemptList id
      idempotency := h (.idempotency h.generation)
      providerPauses := h (.providerPauses h.generation) }
  results :=
    { records := h .records
      applied := h .applied
      aggregateVersions := h .aggregateVersions
      duplicateSuppressions := h .resultApplication }

/-- Write a state into the objects of a generation; an object that is not on file is left
alone. -/
def Objects.writeBack (generation : Nat) (shared : Shared) (h : Objects) : Objects
  | .repository => generation
  | .operations g =>
    if g = generation then
      Std.ExtTreeMap.map (fun _ _ => ()) shared.repository.operations.records
    else h (.operations g)
  | .attempts g =>
    if g = generation then Std.ExtTreeMap.map (fun _ _ => ()) shared.repository.attempts
    else h (.attempts g)
  | .idempotency g =>
    if g = generation then shared.repository.idempotency else h (.idempotency g)
  | .providerPauses g =>
    if g = generation then shared.repository.providerPauses else h (.providerPauses g)
  | .operation g id =>
    if g = generation then
      match hget : shared.repository.operations.get? id with
      | some operation => some ⟨operation, OperationTable.operationId_of_get? hget⟩
      | none => h (.operation g id)
    else h (.operation g id)
  | .attemptList g id =>
    if g = generation then shared.repository.attempts[id]?.getD (h (.attemptList g id))
    else h (.attemptList g id)
  | .resultApplication => shared.results.duplicateSuppressions
  | .applied => shared.results.applied
  | .aggregateVersions => shared.results.aggregateVersions
  | .records => shared.results.records

section Lookups

variable (h : Objects) (generation : Nat) (shared : Shared) (id : String)

theorem Objects.generation_writeBack :
    (h.writeBack generation shared).generation = generation :=
  rfl

theorem Objects.get?_operationTable :
    h.operationTable.get? id =
      h.operationIds[id]?.bind fun _ => (h.operationObject id).map Subtype.val :=
  Std.ExtTreeMap.getElem?_filterMap'

theorem Objects.getElem?_attempts :
    h.view.repository.attempts[id]? = h.attemptIds[id]?.map fun _ => h.attemptList id :=
  Std.ExtTreeMap.getElem?_map ..

theorem Objects.operationIds_writeBack :
    (h.writeBack generation shared).operationIds =
      shared.repository.operations.records.map fun _ _ => () :=
  if_pos rfl

theorem Objects.attemptIds_writeBack :
    (h.writeBack generation shared).attemptIds =
      shared.repository.attempts.map fun _ _ => () :=
  if_pos rfl

theorem Objects.operationObject_writeBack {operation : OutboxOperation}
    (hget : shared.repository.operations.get? id = some operation) :
    ((h.writeBack generation shared).operationObject id).map Subtype.val =
      some operation := by
  have hobject : (h.writeBack generation shared).operationObject id =
      if generation = generation then
        match hget : shared.repository.operations.get? id with
        | some operation => some ⟨operation, OperationTable.operationId_of_get? hget⟩
        | none => h (.operation generation id)
      else h (.operation generation id) :=
    rfl
  rw [hobject, if_pos rfl]
  split
  · rename_i found hfound
    rw [hget] at hfound
    cases hfound
    rfl
  · rename_i hnone
    rw [hget] at hnone
    cases hnone

theorem Objects.attemptList_writeBack {attempts : List OutboxAttempt}
    (hget : shared.repository.attempts[id]? = some attempts) :
    (h.writeBack generation shared).attemptList id = attempts := by
  have hlist : (h.writeBack generation shared).attemptList id =
      shared.repository.attempts[id]?.getD (h (.attemptList generation id)) :=
    if_pos rfl
  exact hlist.trans
    (congrArg (fun found : Option (List OutboxAttempt) =>
      found.getD (h (.attemptList generation id))) hget)

end Lookups

theorem Repository.ext_lookups {r r' : Repository}
    (hoperations : ∀ id, r'.operations.get? id = r.operations.get? id)
    (hattempts : ∀ id : String, r'.attempts[id]? = r.attempts[id]?)
    (hidempotency : r'.idempotency = r.idempotency)
    (hpauses : r'.providerPauses = r.providerPauses) : r' = r := by
  rcases r with ⟨operations, attempts, idempotency, providerPauses⟩
  rcases r' with ⟨operations', attempts', idempotency', providerPauses'⟩
  have htable : operations' = operations := OperationTable.ext_get? hoperations
  have hlists : attempts' = attempts := Std.ExtTreeMap.ext_getElem? fun {id} => hattempts id
  subst htable hlists hidempotency hpauses
  rfl

@[simp]
theorem Objects.view_writeBack (generation : Nat) (shared : Shared) (h : Objects) :
    (h.writeBack generation shared).view = shared := by
  have hrepository : (h.writeBack generation shared).view.repository = shared.repository := by
    refine Repository.ext_lookups ?_ ?_ (if_pos rfl) (if_pos rfl)
    · intro id
      have hids : (h.writeBack generation shared).operationIds[id]? =
          (shared.repository.operations.get? id).map fun _ => () := by
        rw [Objects.operationIds_writeBack]
        exact Std.ExtTreeMap.getElem?_map ..
      refine (Objects.get?_operationTable _ id).trans ?_
      rw [hids]
      cases hget : shared.repository.operations.get? id with
      | none => rfl
      | some operation => exact Objects.operationObject_writeBack h generation shared id hget
    · intro id
      rw [Objects.getElem?_attempts, Objects.attemptIds_writeBack, Std.ExtTreeMap.getElem?_map]
      cases hget : shared.repository.attempts[id]? with
      | none => rfl
      | some attempts =>
          exact congrArg some (Objects.attemptList_writeBack h generation shared id hget)
  have hresults : (h.writeBack generation shared).view.results = shared.results :=
    rfl
  calc (h.writeBack generation shared).view
      = ⟨(h.writeBack generation shared).view.repository,
          (h.writeBack generation shared).view.results⟩ := rfl
    _ = shared := by rw [hrepository, hresults]

/-! ## Snapshots -/

/-- The snapshot targets of `InMemoryOutboxRepository` and of `ResultApplicationService`, as
the container registers them. -/
def snapshotTargets (h : Objects) : List OutboxLoc :=
  [.operations h.generation, .attempts h.generation, .idempotency h.generation,
      .providerPauses h.generation] ++
    h.operationIds.keys.map (.operation h.generation) ++
    [.resultApplication, .applied, .aggregateVersions, .records]

variable {Event Reading : Type}

/-- A publisher with which both services are registered. -/
def registered (c : Coordinator (outboxSignature Event Reading)) :
    Coordinator (outboxSignature Event Reading) :=
  { c with targets := snapshotTargets }

/-- The copies taken before, put back over later contents. -/
def Objects.putBack (before after : Objects) : Objects := fun l =>
  if l ∈ snapshotTargets before then before l else after l

theorem restore_capture_targets (before after : Objects) :
    restore (S := outboxSignature Event Reading)
        (capture (S := outboxSignature Event Reading) before (snapshotTargets before)) after =
      before.putBack after :=
  funext fun l => restore_capture (S := outboxSignature Event Reading) before after _ l

section PutBack

variable {before after : Objects}

theorem putBack_target {l : OutboxLoc} (hl : l ∈ snapshotTargets before) :
    before.putBack after l = before l :=
  if_pos hl

theorem putBack_other {l : OutboxLoc} (hl : l ∉ snapshotTargets before) :
    before.putBack after l = after l :=
  if_neg hl

theorem generation_putBack (hgeneration : after.generation = before.generation) :
    (before.putBack after).generation = before.generation := by
  have hkept : before.putBack after .repository = after .repository :=
    putBack_other (by simp [snapshotTargets])
  exact hkept.trans hgeneration

theorem operationIds_putBack (hgeneration : after.generation = before.generation) :
    (before.putBack after).operationIds = before.operationIds := by
  unfold Objects.operationIds
  rw [generation_putBack hgeneration]
  exact putBack_target (by simp [snapshotTargets])

theorem attemptIds_putBack (hgeneration : after.generation = before.generation) :
    (before.putBack after).attemptIds = before.attemptIds := by
  unfold Objects.attemptIds
  rw [generation_putBack hgeneration]
  exact putBack_target (by simp [snapshotTargets])

theorem operationObject_putBack (hgeneration : after.generation = before.generation)
    {id : String} (hid : id ∈ before.operationIds) :
    (before.putBack after).operationObject id = before.operationObject id := by
  unfold Objects.operationObject
  rw [generation_putBack hgeneration]
  refine putBack_target ?_
  simp only [snapshotTargets, List.mem_append, List.mem_map]
  exact .inl (.inr ⟨id, Std.ExtTreeMap.mem_keys.mpr hid, rfl⟩)

theorem attemptList_putBack (hgeneration : after.generation = before.generation)
    (id : String) : (before.putBack after).attemptList id = after.attemptList id := by
  unfold Objects.attemptList
  rw [generation_putBack hgeneration, ← hgeneration]
  exact putBack_other (by simp [snapshotTargets])

/-- What the objects make up once the copies are back: the state at the start, with the
histories that were on file as they are now. -/
theorem view_putBack (hgeneration : after.generation = before.generation)
    (hids : ∀ id, id ∈ before.attemptIds → id ∈ after.attemptIds) :
    (before.putBack after).view = before.view.rolledBack after.view := by
  have hresult : ∀ {l : OutboxLoc}, l ∈ [.resultApplication, .applied, .aggregateVersions,
      OutboxLoc.records] → before.putBack after l = before l := by
    intro l hl
    exact putBack_target (List.mem_append_right _ hl)
  have hresults : (before.putBack after).view.results = before.view.results := by
    rw [Results.mk.injEq]
    exact ⟨hresult (by simp), hresult (by simp), hresult (by simp), hresult (by simp)⟩
  have hrepository : (before.putBack after).view.repository =
      before.view.repository.rolledBack after.view.repository := by
    refine Repository.ext_lookups ?_ ?_ ?_ ?_
    · intro id
      refine (Objects.get?_operationTable _ id).trans
        (Eq.trans ?_ (Objects.get?_operationTable before id).symm)
      rw [operationIds_putBack hgeneration]
      cases hfiled : before.operationIds[id]? with
      | none => rfl
      | some u =>
          have hid : id ∈ before.operationIds := by
            rw [← Std.ExtTreeMap.isSome_getElem?_iff_mem, hfiled]
            rfl
          exact congrArg (Option.map Subtype.val) (operationObject_putBack hgeneration hid)
    · intro id
      have hafter : after.view.repository.attempts[id]? =
          after.attemptIds[id]?.map fun _ => after.attemptList id :=
        Objects.getElem?_attempts after id
      rw [Objects.getElem?_attempts, attemptIds_putBack hgeneration,
        attemptList_putBack hgeneration, Repository.rolledBack,
        Std.ExtTreeMap.getElem?_filter', hafter,
        Std.ExtTreeMap.contains_eq_isSome_getElem?, Objects.getElem?_attempts]
      cases hfiled : before.attemptIds[id]? with
      | none => cases after.attemptIds[id]? <;> rfl
      | some u =>
          have hid : id ∈ after.attemptIds := by
            apply hids
            rw [← Std.ExtTreeMap.isSome_getElem?_iff_mem, hfiled]
            rfl
          rw [← Std.ExtTreeMap.isSome_getElem?_iff_mem, Option.isSome_iff_exists] at hid
          obtain ⟨v, hv⟩ := hid
          rw [hv]
          rfl
    · have hkept : before.putBack after (.idempotency before.generation) =
          before (.idempotency before.generation) :=
        putBack_target (by simp [snapshotTargets])
      rw [← generation_putBack hgeneration] at hkept
      refine Eq.trans hkept ?_
      rw [generation_putBack hgeneration]
      rfl
    · have hkept : before.putBack after (.providerPauses before.generation) =
          before (.providerPauses before.generation) :=
        putBack_target (by simp [snapshotTargets])
      rw [← generation_putBack hgeneration] at hkept
      refine Eq.trans hkept ?_
      rw [generation_putBack hgeneration]
      rfl
  rw [Shared.rolledBack, ← hrepository, ← hresults]

end PutBack

/-! ## Which history a call writes -/

/-- The last attempt of a history is open: the test of `_finish_attempt`. -/
def lastOpen : List OutboxAttempt → Bool
  | [] => false
  | [attempt] => attempt.completedAt.isNone
  | _ :: second :: rest => lastOpen (second :: rest)

/-- The operation has a history whose last attempt is open. -/
def Repository.hasOpenAttempt (r : Repository) (operationId : String) : Bool :=
  lastOpen (r.attempts[operationId]?.getD [])

/-- The history that a call appends to or closes an attempt of, if it passes its checks. -/
def Command.touches (D : Digests) (r : Repository) : Command → Option String
  | .markDispatching claim t₀ _ =>
    match claimVerdict D r claim t₀ with
    | .ok operation => if operation.status = .claimed then some operation.operationId else none
    | .error _ => none
  | .markSucceeded claim _ t₀ _ =>
    match claimVerdict D r claim t₀ with
    | .ok operation =>
        if (operation.status = .dispatching ∨
              operation.status = .claimed ∧ operation.reconciliationState = .inProgress) ∧
            r.hasOpenAttempt operation.operationId = true then
          some operation.operationId
        else none
    | .error _ => none
  | .markRetryWait claim _ _ _ t₀ _ | .markReconciliationRequired claim _ t₀ _
  | .markDeadLetter claim _ t₀ _ =>
    match claimVerdict D r claim t₀ with
    | .ok operation =>
        if r.hasOpenAttempt operation.operationId = true then some operation.operationId
        else none
    | .error _ => none
  | _ => none

/-- How far a history is: its attempts, and those of them that are closed. -/
def progress (attempts : List OutboxAttempt) : Nat :=
  attempts.length + attempts.countP fun attempt => attempt.completedAt.isSome

/-- One history has moved on and the others are as they were. -/
structure Advanced (operationId : String) (before after : Records (List OutboxAttempt)) :
    Prop where
  further : progress (before[operationId]?.getD []) < progress (after[operationId]?.getD [])
  others : ∀ id, id ≠ operationId → after[id]? = before[id]?

section Histories

variable (now : Timestamp) (outcome : String) (code : Option String)
variable (category : Option FailureCategory)

theorem finishLast_of_closed {attempts : List OutboxAttempt} (h : lastOpen attempts = false) :
    finishLast now outcome code category attempts = attempts := by
  fun_induction lastOpen attempts with
  | case1 => rfl
  | case2 attempt =>
    cases hcompleted : attempt.completedAt with
    | none => simp [hcompleted] at h
    | some t => simp [finishLast, hcompleted]
  | case3 first second rest ih => rw [finishLast, ih h]

theorem progress_finishLast {attempts : List OutboxAttempt} (h : lastOpen attempts = true) :
    progress (finishLast now outcome code category attempts) = progress attempts + 1 := by
  fun_induction lastOpen attempts with
  | case1 => cases h
  | case2 attempt =>
    have hopen : attempt.completedAt = none := by simpa using h
    simp [finishLast, progress, hopen]
  | case3 first second rest ih =>
    have hrest := ih h
    rw [finishLast]
    simp only [progress, List.length_cons, List.countP_cons] at hrest ⊢
    omega

theorem modify_closed {attempts : Records (List OutboxAttempt)} {operationId : String}
    (h : lastOpen (attempts[operationId]?.getD []) = false) :
    attempts.modify operationId (finishLast now outcome code category) = attempts := by
  refine Std.ExtTreeMap.ext_getElem? fun {id} => ?_
  rw [Std.ExtTreeMap.getElem?_modify]
  split
  · rename_i heq
    have hid : operationId = id := by simpa using heq
    subst hid
    cases hfiled : attempts[operationId]? with
    | none => rfl
    | some found =>
        rw [hfiled] at h
        exact congrArg some (finishLast_of_closed now outcome code category h)
  · rfl

theorem modify_open {attempts : Records (List OutboxAttempt)} {operationId : String}
    (h : lastOpen (attempts[operationId]?.getD []) = true) :
    Advanced operationId attempts
      (attempts.modify operationId (finishLast now outcome code category)) where
  further := by
    rw [Std.ExtTreeMap.getElem?_modify]
    cases hfiled : attempts[operationId]? with
    | none =>
        rw [hfiled] at h
        cases h
    | some found =>
        rw [hfiled] at h
        have hprogress := progress_finishLast now outcome code category h
        simp only [Std.compare_self, if_true, Option.map_some, Option.getD_some] at hprogress ⊢
        omega
  others := by
    intro id hne
    rw [Std.ExtTreeMap.getElem?_modify, if_neg]
    simpa using hne.symm

theorem insert_appended {attempts : Records (List OutboxAttempt)} {operationId : String}
    (attempt : OutboxAttempt) :
    Advanced operationId attempts
      (attempts.insert operationId ((attempts[operationId]?.getD []) ++ [attempt])) where
  further := by
    rw [Std.ExtTreeMap.getElem?_insert_self]
    simp only [Option.getD_some, progress, List.length_append, List.length_singleton,
      List.countP_append]
    omega
  others := by
    intro id hne
    rw [Std.ExtTreeMap.getElem?_insert, if_neg]
    simpa using hne.symm

end Histories

/-- What a call does to the histories of attempts. -/
def Touched (before after : Records (List OutboxAttempt)) : Option String → Prop
  | none => after = before
  | some operationId => Advanced operationId before after

theorem Touched.finished {r : Repository} (operationId : String) (now : Timestamp)
    (outcome : String) (code : Option String) (category : Option FailureCategory) :
    Touched r.attempts (r.attempts.modify operationId (finishLast now outcome code category))
      (if r.hasOpenAttempt operationId = true then some operationId else none) := by
  by_cases hopen : r.hasOpenAttempt operationId = true
  · rw [if_pos hopen]
    exact modify_open now outcome code category hopen
  · rw [if_neg hopen]
    exact modify_closed now outcome code category
      (by simpa [Repository.hasOpenAttempt] using hopen)

/-- A call writes the history it touches, and no other. -/
theorem Command.run_attempts (D : Digests) (r : Repository) (command : Command) :
    Touched r.attempts (exec (command.run D) r).2.attempts (command.touches D r) := by
  cases command with
  | addOperation operation =>
    simp only [Command.run, Outbox.addOperation, Command.touches, Touched, exec_map,
      exec_bind, exec_get, exec_ite, exec_throw,
      exec_set, exec_pure]
    split_ifs <;> rfl
  | claimNext ownerId token ttlSeconds now =>
    simp only [Command.run, Outbox.claimNext, Outbox.recoverExpired, Command.touches, Touched,
      exec_map, exec_bind, exec_get, exec_set,
      exec_pure]
    cases ((r.recover now).eligible now).head? <;> rfl
  | claimReconciliation ownerId token ttlSeconds now =>
    simp only [Command.run, Outbox.claimReconciliation, Command.touches, Touched,
      exec_map, exec_bind, exec_get]
    cases r.reconciliationCandidates.head? <;> rfl
  | renewClaim claim ttlSeconds t₀ now =>
    cases hverdict : claimVerdict D r claim t₀ <;>
      simp [Command.run, Outbox.renewClaim, Command.touches, Touched, hverdict]
  | releaseClaim claim t₀ =>
    cases hverdict : claimVerdict D r claim t₀ with
    | error error => simp [Command.run, Outbox.releaseClaim, Command.touches, Touched, hverdict]
    | ok operation =>
        by_cases hstatus : operation.status = .claimed <;>
          simp [Command.run, Outbox.releaseClaim, Command.touches, Touched, hverdict, hstatus]
  | markDispatching claim t₀ now =>
    cases hverdict : claimVerdict D r claim t₀ with
    | error error =>
        simp [Command.run, Outbox.markDispatching, Command.touches, Touched, hverdict]
    | ok operation =>
        by_cases hstatus : operation.status = .claimed
        · simp only [Command.touches, hverdict, hstatus, if_true]
          simp only [Command.run, Outbox.markDispatching, exec_map, exec_bind,
            exec_validateClaim, hverdict, hstatus, ne_eq, not_true_eq_false,
            if_false, exec_pure, exec_store, exec_modify]
          exact insert_appended _
        · simp [Command.run, Outbox.markDispatching, Command.touches, Touched, hverdict, hstatus]
  | markSucceeded claim resultReference t₀ now =>
    cases hverdict : claimVerdict D r claim t₀ with
    | error error => simp [Command.run, Outbox.markSucceeded, Command.touches, Touched, hverdict]
    | ok operation =>
        by_cases hready : operation.status = .dispatching ∨
            operation.status = .claimed ∧ operation.reconciliationState = .inProgress
        · have hfresh : operation.status ≠ .succeeded := by
            rcases hready with h | ⟨h, -⟩ <;> rw [h] <;> decide
          have hallowed : ¬(operation.status ≠ .dispatching ∧
              ¬(operation.status = .claimed ∧ operation.reconciliationState = .inProgress)) :=
            fun h => hready.elim h.1 h.2
          simp only [Command.touches, hverdict, hready, true_and]
          simp only [Command.run, Outbox.markSucceeded, exec_map, exec_bind,
            exec_validateClaim, hverdict, if_neg hfresh, if_neg hallowed,
            exec_store, exec_finishAttempt, exec_pure]
          exact Touched.finished operation.operationId now "SUCCEEDED" none none
        · simp only [Command.touches, hverdict, hready, false_and, if_false]
          by_cases hdone : operation.status = .succeeded
          · simp [Command.run, Outbox.markSucceeded, Touched, hverdict, hdone]
          · have hrefused : operation.status ≠ .dispatching ∧
                ¬(operation.status = .claimed ∧
                  operation.reconciliationState = .inProgress) :=
              not_or.mp hready
            simp only [Command.run, Outbox.markSucceeded, exec_map, exec_bind,
              exec_validateClaim, hverdict, if_neg hdone, if_pos hrefused,
              exec_throw]
            rfl
  | markRetryWait claim category code availableAt t₀ now =>
    cases hverdict : claimVerdict D r claim t₀ with
    | error error => simp [Command.run, Outbox.markRetryWait, Command.touches, Touched, hverdict]
    | ok operation =>
        simp only [Command.touches, hverdict]
        by_cases hexhausted : (failedRecord category code operation).maximumAttempts ≤
            (failedRecord category code operation).attemptCount
        · simp only [Command.run, Outbox.markRetryWait, deadLetter, exec_map,
            exec_bind, exec_validateClaim, hverdict,
            if_pos hexhausted, exec_store, exec_finishAttempt, exec_pure]
          exact Touched.finished operation.operationId now "DEAD_LETTER" _ _
        · simp only [Command.run, Outbox.markRetryWait, exec_map, exec_bind,
            exec_validateClaim, hverdict, if_neg hexhausted, exec_store,
            exec_finishAttempt, exec_pure]
          exact Touched.finished operation.operationId now "RETRY" _ _
  | markReconciliationRequired claim code t₀ now =>
    cases hverdict : claimVerdict D r claim t₀ with
    | error error =>
        simp [Command.run, Outbox.markReconciliationRequired, Command.touches, Touched, hverdict]
    | ok operation =>
        simp only [Command.touches, Command.run, Outbox.markReconciliationRequired,
          exec_map, exec_bind, exec_validateClaim, hverdict, exec_store,
          exec_finishAttempt, exec_pure]
        exact Touched.finished operation.operationId now "UNCERTAIN" _ _
  | markDeadLetter claim reason t₀ now =>
    cases hverdict : claimVerdict D r claim t₀ with
    | error error =>
        simp [Command.run, Outbox.markDeadLetter, Command.touches, Touched, hverdict]
    | ok operation =>
        simp only [Command.touches, Command.run, Outbox.markDeadLetter, deadLetter,
          exec_map, exec_bind, exec_validateClaim, hverdict, exec_store,
          exec_finishAttempt, exec_pure]
        exact Touched.finished operation.operationId now "DEAD_LETTER" _ _
  | cancelOperation operationId now =>
    cases hget : r.operations.get? operationId with
    | none => simp [Command.run, Outbox.cancelOperation, Command.touches, Touched, hget]
    | some operation =>
        simp only [Command.run, Outbox.cancelOperation, Command.touches, Touched,
          exec_map, exec_bind, exec_getOperation, hget, exec_ite,
          exec_throw, exec_pure, exec_store]
        split_ifs <;> rfl
  | abandonOperation operationId reason now =>
    cases hget : r.operations.get? operationId with
    | none => simp [Command.run, Outbox.abandonOperation, Command.touches, Touched, hget]
    | some operation =>
        simp only [Command.run, Outbox.abandonOperation, Command.touches, Touched,
          exec_map, exec_bind, exec_getOperation, hget, exec_ite,
          exec_throw, exec_pure, exec_store]
        split_ifs <;> rfl
  | recoverExpired now => rfl
  | retryDeadLetter operationId now =>
    cases hget : r.operations.get? operationId with
    | none => simp [Command.run, Outbox.retryDeadLetter, Command.touches, Touched, hget]
    | some operation =>
        simp only [Command.run, Outbox.retryDeadLetter, Command.touches, Touched,
          exec_map, exec_bind, exec_getOperation, hget, exec_ite,
          exec_throw, exec_pure, exec_store]
        split_ifs <;> rfl
  | setProviderPause providerId paused => rfl

/-! ## Steps inside a transaction -/

/-- One operation inside a transaction. -/
inductive TransactionStep (Event : Type) where
  /-- A call of the repository. -/
  | command (method : Command)
  /-- `import_state`; with `recover`, at the reading of the clock. -/
  | importState (imported : Repository) (recovered : Option Timestamp)
  /-- `ResultApplicationService.apply`. -/
  | apply (operation : OutboxOperation) (result : ProviderDispatchResult)
      (firstDispatchAt completionTime : Timestamp)
  /-- `IdempotencyStore.begin`. -/
  | begin (operation : OutboxOperation) (firstDispatchAt : Timestamp)
  /-- `IdempotencyStore.complete`. -/
  | complete (operation : OutboxOperation) (result : ProviderDispatchResult)
      (firstDispatchAt completionTime : Timestamp)
  /-- A published event. -/
  | publish (event : Event)

/-- The step replaces the dictionaries. -/
def TransactionStep.imports : TransactionStep Event → Bool
  | .importState _ _ => true
  | _ => false

variable (D : ApplicationDigests)

/-- The step as a program over the state; an import replaces the repository. -/
def TransactionStep.program : TransactionStep Event → Program Shared Failure Unit
  | .command method => (fun _ => ()) <$> call D.toDigests method
  | .importState imported recovered => do
    modify fun shared => { shared with repository := imported }
    match recovered with
    | some now => (fun _ => ()) <$> call D.toDigests (.recoverExpired now)
    | none => pure ()
  | .apply operation result firstDispatchAt completionTime =>
    (fun _ => ()) <$>
      onResults (applyResult D operation result firstDispatchAt completionTime)
  | .begin operation firstDispatchAt =>
    (fun _ => ()) <$> onResults (beginRecord D operation firstDispatchAt)
  | .complete operation result firstDispatchAt completionTime =>
    (fun _ => ()) <$>
      onResults (completeRecord D operation result firstDispatchAt completionTime)
  | .publish _ => pure ()

def TransactionStep.after (step : TransactionStep Event) (shared : Shared) : Shared :=
  (exec (step.program D) shared).2

/-- Run a program on the objects that the repository of a generation refers to. -/
def onObjects (generation : Objects → Nat) (x : Program Shared Failure Unit) :
    Action (outboxSignature Event Reading) Unit := do
  let h ← Action.readAll
  let (outcome, shared) := exec x (Objects.view h)
  Action.modifyAll (Objects.writeBack (generation h) shared)
  match outcome with
  | .ok _ => pure ()
  | .error error => Action.raise error

variable (c : Coordinator (outboxSignature Event Reading))

/-- The step on the objects: in place, except that an import makes new dictionaries. -/
def TransactionStep.act (step : TransactionStep Event) :
    Action (outboxSignature Event Reading) Unit :=
  match step with
  | .importState _ _ => onObjects (fun h => h.generation + 1) (step.program D)
  | .publish event => Action.emit c event
  | _ => onObjects Objects.generation (step.program D)

/-- The body of a transaction: steps, of which whoever performs them may catch what one
raises, and then a raise or a return. -/
def transactionBody (steps : List (TransactionStep Event)) (ending : Option Failure) :
    Action (outboxSignature Event Reading) Unit :=
  Action.body (steps.map fun step => step.act D c) ending

section Perform

variable (env : Nat → Reading) (w : World (outboxSignature Event Reading))

theorem onObjects_run (generation : Objects → Nat) (x : Program Shared Failure Unit) :
    ((onObjects generation x).run env w).2.heap =
      Objects.writeBack (generation w.heap) (exec x (Objects.view w.heap)).2 w.heap := by
  unfold onObjects
  simp only [Action.run_bind, Action.readAll, Action.modifyAll]
  rcases exec x (Objects.view w.heap) with ⟨error | a, shared⟩ <;> rfl

/-- A step does to the objects what its program does to the state, in place unless it
imports. -/
theorem act_run (step : TransactionStep Event) :
    Objects.view ((step.act D c).run env w).2.heap = step.after D (Objects.view w.heap) ∧
      (step.imports = false →
        Objects.generation ((step.act D c).run env w).2.heap = Objects.generation w.heap) := by
  have hprogram : ∀ generation : Objects → Nat,
      Objects.view ((onObjects generation (step.program D)).run env w).2.heap =
        step.after D (Objects.view w.heap) := by
    intro generation
    rw [onObjects_run, Objects.view_writeBack]
    rfl
  have hgeneration : Objects.generation
      ((onObjects Objects.generation (step.program D)).run env w).2.heap =
        Objects.generation w.heap := by
    rw [onObjects_run, Objects.generation_writeBack]
  cases step with
  | importState imported recovered => exact ⟨hprogram _, fun h => by cases h⟩
  | publish event =>
    have hheap : ((Action.emit c event).run env w).2.heap = w.heap := by
      simp only [Action.emit]
      split <;> rfl
    constructor
    · exact congrArg Objects.view hheap
    · exact fun _ => congrArg Objects.generation hheap
  | command method => exact ⟨hprogram _, fun _ => hgeneration⟩
  | apply operation result firstDispatchAt completionTime =>
    exact ⟨hprogram _, fun _ => hgeneration⟩
  | begin operation firstDispatchAt => exact ⟨hprogram _, fun _ => hgeneration⟩
  | complete operation result firstDispatchAt completionTime =>
    exact ⟨hprogram _, fun _ => hgeneration⟩

/-- The state after all steps. -/
def afterAll (D : ApplicationDigests) (steps : List (TransactionStep Event))
    (shared : Shared) : Shared :=
  steps.foldl (fun shared step => step.after D shared) shared

theorem transactionBody_run (steps : List (TransactionStep Event)) (ending : Option Failure) :
    Objects.view ((transactionBody D c steps ending).run env w).2.heap =
        afterAll D steps (Objects.view w.heap) ∧
      ((∀ step ∈ steps, step.imports = false) →
        Objects.generation ((transactionBody D c steps ending).run env w).2.heap =
          Objects.generation w.heap) := by
  unfold transactionBody
  rw [Action.body_run_snd]
  induction steps generalizing w with
  | nil => exact ⟨rfl, fun _ => rfl⟩
  | cons step steps ih =>
    obtain ⟨hview, hgeneration⟩ := act_run D c env w step
    obtain ⟨hview', hgeneration'⟩ := ih ((step.act D c).run env w).2
    rw [List.map_cons, Action.performAll_cons]
    constructor
    · rw [hview', hview]
      rfl
    · intro hquiet
      have hsteps := hgeneration' fun s hs => hquiet s (List.mem_cons_of_mem _ hs)
      exact hsteps.trans (hgeneration (hquiet step (List.mem_cons_self ..)))

end Perform

/-! ## What a transaction that raises leaves -/

variable {D}

/-- The history of attempts that the step writes. -/
def TransactionStep.touches (D : ApplicationDigests) (shared : Shared) :
    TransactionStep Event → Option String
  | .command method => method.touches D.toDigests shared.repository
  | _ => none

/-- No step writes a history that is on file in the given dictionary. -/
def spares (D : ApplicationDigests) (filed : Records (List OutboxAttempt)) :
    Shared → List (TransactionStep Event) → Bool
  | _, [] => true
  | shared, step :: steps =>
    ((step.touches D shared).all fun id => !filed.contains id) &&
      spares D filed (step.after D shared) steps

/-- The steps keep to what a rollback restores: none of them imports a state, and none
writes a history that was on file before. -/
def careful (D : ApplicationDigests) (shared : Shared) (steps : List (TransactionStep Event)) :
    Bool :=
  (steps.all fun step => !step.imports) && spares D shared.repository.attempts shared steps

theorem TransactionStep.after_attempts {step : TransactionStep Event}
    (hquiet : step.imports = false) (shared : Shared) :
    Touched shared.repository.attempts (step.after D shared).repository.attempts
      (step.touches D shared) := by
  cases step with
  | importState imported recovered => cases hquiet
  | command method =>
    have hrun := Command.run_attempts D.toDigests shared.repository method
    have hpost : (TransactionStep.after D (.command method : TransactionStep Event)
        shared).repository = (record D.toDigests shared.repository method).post := by
      simp only [TransactionStep.after, TransactionStep.program, exec_map_snd, exec_call]
    rw [hpost]
    exact hrun
  | apply operation result firstDispatchAt completionTime =>
    simp only [TransactionStep.after, TransactionStep.program, exec_map_snd,
      exec_onResults]
    rfl
  | begin operation firstDispatchAt =>
    simp only [TransactionStep.after, TransactionStep.program, exec_map_snd,
      exec_onResults]
    rfl
  | complete operation result firstDispatchAt completionTime =>
    simp only [TransactionStep.after, TransactionStep.program, exec_map_snd,
      exec_onResults]
    rfl
  | publish event => rfl

section Histories

variable {before after : Records (List OutboxAttempt)} {touched : Option String}

/-- No history goes back. -/
theorem Touched.progress_le (h : Touched before after touched) (id : String) :
    progress (before[id]?.getD []) ≤ progress (after[id]?.getD []) := by
  cases touched with
  | none =>
    have hsame : after = before := h
    rw [hsame]
  | some operationId =>
    have hadvanced : Advanced operationId before after := h
    by_cases hid : id = operationId
    · subst hid
      exact hadvanced.further.le
    · rw [hadvanced.others id hid]

/-- No history goes away. -/
theorem Touched.kept (h : Touched before after touched) {id : String} (hid : id ∈ before) :
    id ∈ after := by
  cases touched with
  | none =>
    have hsame : after = before := h
    rwa [hsame]
  | some operationId =>
    have hadvanced : Advanced operationId before after := h
    rw [← Std.ExtTreeMap.isSome_getElem?_iff_mem] at hid ⊢
    by_cases heq : id = operationId
    · subst heq
      have hfurther := hadvanced.further
      cases hafter : after[id]? with
      | none => simp [hafter, progress] at hfurther
      | some attempts => rfl
    · rw [hadvanced.others id heq]
      exact hid

theorem Touched.same (h : Touched before after touched) {id : String}
    (hid : ∀ operationId, touched = some operationId → operationId ≠ id) :
    after[id]? = before[id]? := by
  cases touched with
  | none =>
    have hsame : after = before := h
    rw [hsame]
  | some operationId =>
    have hadvanced : Advanced operationId before after := h
    exact hadvanced.others id (hid operationId rfl).symm

end Histories

section Runs

variable {steps : List (TransactionStep Event)} {shared : Shared}

/-- Over a run of steps no history goes back and none goes away. -/
theorem afterAll_attempts (D : ApplicationDigests) (shared : Shared)
    (hquiet : ∀ step ∈ steps, step.imports = false) (id : String) :
    progress (shared.repository.attempts[id]?.getD []) ≤
        progress ((afterAll D steps shared).repository.attempts[id]?.getD []) ∧
      (id ∈ shared.repository.attempts →
        id ∈ (afterAll D steps shared).repository.attempts) := by
  induction steps generalizing shared with
  | nil => exact ⟨le_refl _, fun hid => hid⟩
  | cons step steps ih =>
    have htouched := TransactionStep.after_attempts (D := D)
      (hquiet step (List.mem_cons_self ..)) shared
    obtain ⟨hle, hkept⟩ := @ih (step.after D shared)
      fun s hs => hquiet s (List.mem_cons_of_mem _ hs)
    exact ⟨(htouched.progress_le id).trans hle, fun hid => hkept (htouched.kept hid)⟩

/-- A run leaves every filed history alone exactly when each of its steps does. -/
theorem afterAll_spares (hquiet : ∀ step ∈ steps, step.imports = false)
    (filed : Records (List OutboxAttempt)) :
    (∀ id ∈ filed, (afterAll D steps shared).repository.attempts[id]? =
        shared.repository.attempts[id]?) ↔ spares D filed shared steps = true := by
  induction steps generalizing shared with
  | nil => simp [afterAll, spares]
  | cons step steps ih =>
    have htouched := TransactionStep.after_attempts (D := D)
      (hquiet step (List.mem_cons_self ..)) shared
    have hrest : ∀ s ∈ steps, s.imports = false :=
      fun s hs => hquiet s (List.mem_cons_of_mem _ hs)
    have ih := @ih (step.after D shared) hrest
    have hunfold : afterAll D (step :: steps) shared = afterAll D steps (step.after D shared) :=
      rfl
    rw [hunfold, spares, Bool.and_eq_true, ← ih]
    constructor
    · intro hsame
      -- a touched history that was on file would be further at the end than at the start
      have hfirst : ∀ id, step.touches D shared = some id → id ∉ filed := by
        intro id htouches hid
        rw [htouches] at htouched
        have hadvanced : Advanced id _ _ := htouched
        have hle := (afterAll_attempts D (step.after D shared) hrest id).1
        rw [hsame id hid] at hle
        exact absurd hadvanced.further (not_lt.mpr hle)
      constructor
      · cases htouches : step.touches D shared with
        | none => rfl
        | some id =>
            have hid : filed.contains id = false :=
              Bool.eq_false_of_not_eq_true fun h =>
                hfirst id htouches (Std.ExtTreeMap.mem_iff_contains.mpr h)
            simp [hid]
      · intro id hid
        rw [hsame id hid]
        refine (htouched.same fun operationId htouches => ?_).symm
        rintro rfl
        exact hfirst operationId htouches hid
    · rintro ⟨hfirst, hlater⟩ id hid
      rw [hlater id hid]
      refine htouched.same fun operationId htouches => ?_
      rintro rfl
      have hcontains : filed.contains operationId = true :=
        Std.ExtTreeMap.mem_iff_contains.mp hid
      rw [htouches, Option.all_some, hcontains] at hfirst
      cases hfirst

/-- A rollback restores the state at the start exactly when the run spares what was on
file. -/
theorem rolledBack_afterAll (hquiet : ∀ step ∈ steps, step.imports = false) :
    shared.rolledBack (afterAll D steps shared) = shared ↔
      spares D shared.repository.attempts shared steps = true := by
  rw [← afterAll_spares hquiet]
  have hgrown := fun id => (afterAll_attempts D shared hquiet id).2
  have hlookup : ∀ id : String,
      (shared.rolledBack (afterAll D steps shared)).repository.attempts[id]? =
        if id ∈ shared.repository.attempts then
          (afterAll D steps shared).repository.attempts[id]?
        else none := by
    intro id
    simp only [Shared.rolledBack, Repository.rolledBack, Std.ExtTreeMap.getElem?_filter',
      Std.ExtTreeMap.mem_iff_contains]
    cases (afterAll D steps shared).repository.attempts[id]? <;>
      cases shared.repository.attempts.contains id <;> rfl
  constructor
  · intro hsame id hid
    have hfiled := hlookup id
    rw [if_pos hid, hsame] at hfiled
    exact hfiled.symm
  · intro hsame
    have hrepository : (shared.rolledBack (afterAll D steps shared)).repository =
        shared.repository := by
      refine Repository.ext_lookups (fun _ => rfl) ?_ rfl rfl
      intro id
      rw [hlookup]
      split
      · rename_i hid
        exact hsame id hid
      · rename_i hid
        exact (Std.ExtTreeMap.getElem?_eq_none hid).symm
    calc shared.rolledBack (afterAll D steps shared)
        = ⟨(shared.rolledBack (afterAll D steps shared)).repository, shared.results⟩ := rfl
      _ = shared := by rw [hrepository]

end Runs

section Transactions

variable {c : Coordinator (outboxSignature Event Reading)} {env : Nat → Reading}
variable {w w' : World (outboxSignature Event Reading)} {error : Failure}
variable {steps : List (TransactionStep Event)} {ending : Option Failure}

/-- After an outermost transaction that raises, be it from its body or from its commit,
everything is as before, except that the histories on file are as the steps left them. -/
theorem raised_view (hnone : w.current = none) (hquiet : ∀ step ∈ steps, step.imports = false)
    (hrun : (Action.atomic (registered c) (transactionBody D (registered c) steps ending)).run
      env w = (.error error, w')) :
    Objects.view w'.heap =
      (Objects.view w.heap).rolledBack (afterAll D steps (Objects.view w.heap)) := by
  obtain ⟨-, hheap⟩ := Action.atomic_raised_heap (registered c) hnone hrun
  obtain ⟨hview, hgeneration⟩ := transactionBody_run D (registered c) env
    ((registered c).opened w) steps ending
  have hgeneration := hgeneration hquiet
  have hput : w'.heap = Objects.putBack w.heap
      ((transactionBody D (registered c) steps ending).run env
        ((registered c).opened w)).2.heap :=
    hheap.trans (restore_capture_targets _ _)
  have hids : ∀ id, id ∈ Objects.attemptIds w.heap →
      id ∈ Objects.attemptIds ((transactionBody D (registered c) steps ending).run env
        ((registered c).opened w)).2.heap := by
    intro id hid
    have hbefore : id ∈ (Objects.view w.heap).repository.attempts :=
      Std.ExtTreeMap.mem_map.mpr hid
    have hafter := (afterAll_attempts D (Objects.view w.heap) hquiet id).2 hbefore
    have hopened : afterAll D steps (Objects.view w.heap) = Objects.view _ := hview.symm
    rw [hopened] at hafter
    exact Std.ExtTreeMap.mem_map.mp hafter
  have hopened : ((registered c).opened w).heap = w.heap := rfl
  rw [hopened] at hgeneration hview
  rw [hput, view_putBack hgeneration hids, hview]

variable (D)

/-- A transaction of careful steps that raises leaves repository and results exactly as they
were at its start; and unless a step imports a state, every transaction that does so is
careful. -/
theorem outbox_transactional (hnone : w.current = none)
    (hrun : (Action.atomic (registered c) (transactionBody D (registered c) steps ending)).run
      env w = (.error error, w')) :
    (careful D (Objects.view w.heap) steps = true →
        Objects.view w'.heap = Objects.view w.heap) ∧
      ((∀ step ∈ steps, step.imports = false) →
        Objects.view w'.heap = Objects.view w.heap →
          careful D (Objects.view w.heap) steps = true) := by
  constructor
  · intro hcareful
    rw [careful, Bool.and_eq_true, List.all_eq_true] at hcareful
    have hquiet : ∀ step ∈ steps, step.imports = false := by
      intro step hstep
      simpa using hcareful.1 step hstep
    rw [raised_view hnone hquiet hrun]
    exact (rolledBack_afterAll hquiet).mpr hcareful.2
  · intro hquiet hsame
    rw [raised_view hnone hquiet hrun] at hsame
    rw [careful, Bool.and_eq_true, List.all_eq_true]
    constructor
    · intro step hstep
      simp [hquiet step hstep]
    · exact (rolledBack_afterAll hquiet).mp hsame

end Transactions

/-! ## A worker whose result is not committed -/

/-- A publisher of texts whose event store accepts a batch when the reading says so. -/
def samplePublisher : Coordinator (outboxSignature String Bool) where
  targets _ := []
  addEvents accepted events batch :=
    if accepted = true then (.ok (), events ++ batch)
    else (.error (.other "DuplicateEventError"), events)
  commitError _ := .other "TransactionCommitError"
  addEvents_ok := by
    intro accepted events batch result h
    cases accepted <;> cases h
    rfl
  addEvents_error := by
    intro accepted events batch error result h
    cases accepted <;> cases h
    rfl

/-- `InMemoryOutboxRepository.__init__` and `ResultApplicationService.__init__`. -/
def Objects.new : Objects
  | .repository => (0 : Nat)
  | .operations _ | .attempts _ => (∅ : Records Unit)
  | .idempotency _ => (∅ : Records String)
  | .providerPauses _ => (∅ : Records Bool)
  | .operation _ _ => none
  | .attemptList _ _ => []
  | .resultApplication => (0 : Nat)
  | .applied => (∅ : Records AppliedResult)
  | .aggregateVersions => (∅ : Records Nat)
  | .records => (∅ : Records IdempotencyRecord)

def worldAfter (steps : List (TransactionStep String)) : World (outboxSignature String Bool) where
  heap := Objects.writeBack 0 (afterAll sampleApplicationDigests steps Objects.new.view) Objects.new
  eventStore := []
  current := none
  readings := 0

/-- A worker claims an operation at one second. -/
def sampleClaimed : List (TransactionStep String) :=
  [.command (.addOperation sampleOperation),
    .command (.claimNext "worker-0" "" 30 (timedelta 1))]

/-- The steps of a transaction on top of some others, with a publisher whose event store
refuses every batch. -/
def refused (earlier steps : List (TransactionStep String)) :
    Except Failure Unit × World (outboxSignature String Bool) :=
  (Action.atomic (registered samplePublisher)
    (transactionBody sampleApplicationDigests (registered samplePublisher) steps none)).run
      (fun _ => false) (worldAfter earlier)

/-- The hypotheses of `outbox_transactional` hold of a refused transaction that adds an
operation and claims it. -/
theorem outbox_transactional_claim :
    ∃ error w', refused [] sampleClaimed = (.error error, w') ∧
      Objects.view w'.heap = Objects.view (worldAfter []).heap := by
  have hraised : (refused [] sampleClaimed).1.isOk = false := by decide +kernel
  rcases hrun : refused [] sampleClaimed with ⟨error | a, w'⟩
  · refine ⟨error, w', rfl, ?_⟩
    exact (outbox_transactional sampleApplicationDigests rfl hrun).1 (by decide +kernel)
  · rw [hrun] at hraised
    cases hraised

/-- The worker starts an attempt a second later. -/
def sampleDispatched : List (TransactionStep String) :=
  sampleClaimed ++ [.command (.markDispatching lateClaim (timedelta 2) (timedelta 2))]

/-- The result-application transaction of `run_one`. -/
def confirmation : List (TransactionStep String) :=
  [.apply sampleOperation ⟨"reference", []⟩ 0 0,
    .command (.markSucceeded lateClaim "reference" (timedelta 3) (timedelta 3)),
    .publish "OUTBOX_DISPATCH_SUCCEEDED"]

/-- A worker whose result is not committed leaves its attempt closed as a success. -/
theorem uncommitted_success_stays :
    ¬∀ (D : ApplicationDigests) (c : Coordinator (outboxSignature String Bool))
      (steps : List (TransactionStep String)) (ending : Option Failure) (env : Nat → Bool)
      (w w' : World (outboxSignature String Bool)) (error : Failure), w.current = none →
        (Action.atomic (registered c) (transactionBody D (registered c) steps ending)).run
          env w = (.error error, w') →
            Objects.view w'.heap = Objects.view w.heap := by
  intro hrestored
  have hraised : (refused sampleDispatched confirmation).1.isOk = false := by decide +kernel
  rcases hrun : refused sampleDispatched confirmation with ⟨error | a, w'⟩
  · have hsame := hrestored _ _ _ _ _ _ _ _ rfl hrun
    have hquiet : ∀ step ∈ confirmation, step.imports = false := by decide +kernel
    rw [raised_view rfl hquiet hrun, rolledBack_afterAll hquiet] at hsame
    have htouched : spares sampleApplicationDigests
        (Objects.view (worldAfter sampleDispatched).heap).repository.attempts
        (Objects.view (worldAfter sampleDispatched).heap) confirmation = false := by
      decide +kernel
    rw [htouched] at hsame
    cases hsame
  · rw [hrun] at hraised
    cases hraised

end Outbox
end Ascos
