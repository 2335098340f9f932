import Ascos.Tasks.Service

/-!
# Which external-task calls leave no trace

A rollback puts back the attributes of the service, which no operation assigns.  What the
dictionaries hold stays as the operation left it, whether its transaction commits, fails to
commit or is rolled back.  So a call that raises has left everything as it was exactly when it
was refused before it wrote anything new.

Main results:

- Theorem `leaves_atomic`: a transaction leaves in the dictionaries what its body leaves.
- Theorem `external_task_atomicity`: the exact condition for a call that raises, and a
  condition for a transaction that raises.
-/

namespace Ascos
namespace Tasks

open Library Library.Action
open Ascos.Runtime (Timestamp isBlank)

/-! ## Refused calls -/

/-- The call is refused before it has written anything new: by a check that comes before the
first write, or, for `queue_task`, after writing what was there already. -/
def Call.refused (s : Surroundings) (contents : Contents) : Call → Prop
  | .createTask values =>
    ∀ taskId ∈ values.taskId, taskId ∈ contents.tasks ∨
      ∀ task, values.task taskId (s.now 0) ≠ .ok task
  | .queueTask taskId =>
    ∀ task ∈ contents.tasks[taskId]?, ∀ provider,
      chooseCompatibleProvider s.providers task.requestedCapabilities = .ok provider →
        .queued ∉ task.status.allowedTransitions ∧
          task.providerId = some provider.providerId ∧
            (s.workspace = none ∨ task.workspaceId ≠ none)
  | .executeTask taskId =>
    ∀ task ∈ contents.tasks[taskId]?, .running ∉ task.status.allowedTransitions
  | .requestReview taskId =>
    ∀ task ∈ contents.tasks[taskId]?, task.status ≠ .running ∨ task.resultReference = none
  | .retryTask taskId =>
    ∀ task ∈ contents.tasks[taskId]?,
      (task.status ≠ .failed ∧ task.status ≠ .changesRequested) ∨
        (task.status = .failed ∧
          ∀ result ∈ contents.results[taskId]?, result.status ≠ .failedRetryable)
  | .approveTask taskId approverId reason =>
    ∀ task ∈ contents.tasks[taskId]?,
      task.status ≠ .waitingForReview ∨ some approverId = task.providerId ∨
        ∀ item, decision taskId .approved approverId reason (s.now 0) ≠ .ok item
  | .rejectTask taskId approverId reason =>
    ∀ task ∈ contents.tasks[taskId]?, task.status ≠ .waitingForReview ∨
      ∀ item, decision taskId .rejected approverId reason (s.now 0) ≠ .ok item
  | .requestChanges taskId approverId reason =>
    ∀ task ∈ contents.tasks[taskId]?, task.status ≠ .waitingForReview ∨
      ∀ item, decision taskId .changesRequested approverId reason (s.now 0) ≠ .ok item
  | .completeTask taskId =>
    ∀ task ∈ contents.tasks[taskId]?, .completed ∉ task.status.allowedTransitions
  | .cancelTask taskId =>
    ∀ task ∈ contents.tasks[taskId]?, .cancelled ∉ task.status.allowedTransitions

/-! ## Rules for the steps -/

variable {env : Nat → Except TaskError Unit} {h : Heap external} {α β : Type}
variable {R : β → Heap external → Prop} {E : TaskError → Heap external → Prop}

/-- The dictionaries in a heap. -/
abbrev contentsOf (h : Heap external) : Contents :=
  h .contents

theorem contentsOf_write (h : Heap external) (contents : Contents) :
    contentsOf (h.write .contents contents) = contents :=
  Heap.write_same (S := external) h .contents contents

theorem meets_getTask_bind {taskId : String} {f : ExternalTask → Method β} :
    Meets env (getTask taskId >>= f) h R E ↔
      match (contentsOf h).tasks[taskId]? with
      | some task => Meets env (f task) h R E
      | none => E (.externalTaskNotFound taskId) h := by
  unfold getTask
  rw [meets_bind_assoc]
  refine meets_read_bind.trans ?_
  cases (contentsOf h).tasks[taskId]? with
  | none => exact meets_raise_bind
  | some task => exact meets_pure_bind

theorem meets_mutate_bind {f : Contents → Contents} {g : Unit → Method β} :
    Meets env (mutate f >>= g) h R E ↔
      Meets env (g ()) (h.write .contents (f (contentsOf h))) R E := by
  unfold mutate
  rw [meets_bind_assoc]
  exact meets_read_bind.trans meets_write_bind

theorem meets_outside_bind {result : Except TaskError α} {f : α → Method β} :
    Meets env (outside result >>= f) h R E ↔
      match result with
      | .ok a => Meets env (f a) h R E
      | .error error => E error h := by
  cases result with
  | ok a => exact meets_pure_bind
  | error error => exact meets_raise_bind

theorem meets_transition_bind {taskId : String} {status : ExternalTaskStatus}
    {f : Unit → Method β} :
    Meets env (transition taskId status >>= f) h R E ↔
      match (contentsOf h).tasks[taskId]? with
      | some task =>
          (status ∉ task.status.allowedTransitions →
              E (.invalidExternalTaskTransition
                s!"{task.status.value} cannot become {status.value}") h) ∧
            (¬status ∉ task.status.allowedTransitions →
              Meets env (f ()) (h.write .contents
                ((contentsOf h).assignTask taskId fun task => { task with status })) R E)
      | none => E (.externalTaskNotFound taskId) h := by
  unfold transition
  rw [meets_bind_assoc, meets_getTask_bind]
  cases (contentsOf h).tasks[taskId]? with
  | none => rfl
  | some task =>
    simp only [meets_bind_assoc]
    refine meets_raiseIf_bind.trans ?_
    rw [meets_mutate_bind]

/-- Publishing raises or goes on; it writes nothing. -/
theorem Meets.emitEvent_bind {s : Surroundings} {index : Nat} {eventType : TaskEventType}
    {taskId : String} {payload : List (String × Detail)} {f : Unit → Method β}
    (hraise : ∀ error, E error h) (hf : Meets env (f ()) h R E) :
    Meets env (emitEvent s index eventType taskId payload >>= f) h R E := by
  unfold emitEvent
  simp only [meets_bind_assoc]
  rw [meets_getTask_bind]
  cases (contentsOf h).tasks[taskId]? with
  | none => exact hraise _
  | some task =>
    simp only [meets_bind_assoc]
    rw [meets_outside_bind]
    cases s.published index with
    | error error => exact hraise error
    | ok u =>
        simp only [meets_bind_assoc, meets_raiseIf_bind]
        refine ⟨fun _ => hraise _, fun _ => ⟨fun _ => hraise _, fun _ =>
          ⟨fun _ => hraise _, fun _ => ?_⟩⟩⟩
        exact Meets.emit_bind transactions hf

theorem Meets.emitEvent {s : Surroundings} {index : Nat} {eventType : TaskEventType}
    {taskId : String} {payload : List (String × Detail)} {Q : Unit → Heap external → Prop}
    (hraise : ∀ error, E error h) (hQ : Q () h) :
    Meets env (emitEvent s index eventType taskId payload) h Q E := by
  rw [← meets_bind_pure]
  exact Meets.emitEvent_bind hraise (meets_pure.mpr hQ)

theorem Meets.getTask {taskId : String} {Q : ExternalTask → Heap external → Prop}
    (hraise : ∀ error, E error h) (hQ : ∀ task, Q task h) :
    Meets env (getTask taskId) h Q E := by
  rw [← meets_bind_pure, meets_getTask_bind]
  cases (contentsOf h).tasks[taskId]? with
  | none => exact hraise _
  | some task => exact meets_pure.mpr (hQ task)

/-! ## What a call leaves in the dictionaries -/

/-- Whatever the action does, what it leaves in the dictionaries satisfies `P`. -/
def Always (P : Contents → Prop) (env : Nat → Except TaskError Unit) (x : Method α)
    (h : Heap external) : Prop :=
  Meets env x h (fun _ h' => P (contentsOf h')) (fun _ h' => P (contentsOf h'))

/-- Run from a world, the action leaves `Q` when it returns and `E` when it
raises. -/
def Leaves (env : Nat → Except TaskError Unit) (x : Method α) (contents : Contents)
    (Q : α → Contents → Prop) (E : Contents → Prop) : Prop :=
  ∀ w : World external, contentsOf w.heap = contents →
    match x.run env w with
    | (.ok a, w') => Q a (contentsOf w'.heap)
    | (.error _, w') => E (contentsOf w'.heap)

variable {contents : Contents} {x : Method α} {Q : α → Contents → Prop} {P : Contents → Prop}

theorem Leaves.bind {f : α → Method β} {R : β → Contents → Prop}
    (hx : Leaves env x contents (fun a c => Leaves env (f a) c R P) P) :
    Leaves env (x >>= f) contents R P := by
  intro w hw
  have hx := hx w hw
  rw [run_bind]
  rcases hrun : x.run env w with ⟨error | a, w'⟩ <;> rw [hrun] at hx
  · exact hx
  · exact hx w' rfl

theorem Leaves.mono {Q' : α → Contents → Prop} {P' : Contents → Prop}
    (hx : Leaves env x contents Q P) (hQ : ∀ a c, Q a c → Q' a c) (hP : ∀ c, P c → P' c) :
    Leaves env x contents Q' P' := by
  intro w hw
  have hx := hx w hw
  rcases hrun : x.run env w with ⟨error | a, w'⟩ <;> rw [hrun] at hx
  · exact hP _ hx
  · exact hQ a _ hx

theorem Leaves.map {f : α → β} (hx : Leaves env x contents (fun _ => P) P) :
    Leaves env (f <$> x) contents (fun _ => P) P := by
  intro w hw
  have hx := hx w hw
  rw [run_map]
  rcases hrun : x.run env w with ⟨error | a, w'⟩ <;> rw [hrun] at hx <;> exact hx

theorem leaves_pure {a : α} (hQ : Q a contents) :
    Leaves env (pure a : Method α) contents Q P := by
  rintro w rfl
  exact hQ

theorem leaves_raise {error : TaskError} (hP : P contents) :
    Leaves env (raise error : Method α) contents Q P := by
  rintro w rfl
  exact hP

theorem getTask_run (taskId : String) (w : World external) :
    (getTask taskId).run env w =
      match (contentsOf w.heap).tasks[taskId]? with
      | some task => (.ok task, w)
      | none => (.error (.externalTaskNotFound taskId), w) := by
  change (match (contentsOf w.heap).tasks[taskId]? with
    | some task => pure task
    | none => raise (.externalTaskNotFound taskId) : Method ExternalTask).run env w = _
  cases (contentsOf w.heap).tasks[taskId]? <;> rfl

theorem leaves_getTask {taskId : String} {Q : ExternalTask → Contents → Prop}
    (contents : Contents) (hmissing : contents.tasks[taskId]? = none → P contents)
    (hfound : ∀ task, contents.tasks[taskId]? = some task → Q task contents) :
    Leaves env (getTask taskId) contents Q P := by
  rintro w rfl
  rw [getTask_run]
  cases htask : (contentsOf w.heap).tasks[taskId]? with
  | none => exact hmissing htask
  | some task => exact hfound task htask

/-- A rollback does not reach the dictionaries. -/
theorem contents_rolledBack {w : World external} {t : Transaction external}
    {before : Heap external}
    (hsnap : t.snapshots = capture before (snapshotTargets before)) :
    contentsOf (Coordinator.rolledBack w t).heap = contentsOf w.heap := by
  change restore t.snapshots w.heap .contents = w.heap .contents
  rw [hsnap, restore_capture, if_neg]
  simp [snapshotTargets]

theorem leaves_atomic
    (hx : ∀ h, contentsOf h = contents →
      Meets env x h (fun a h' => Q a (contentsOf h') ∧ P (contentsOf h'))
        (fun _ h' => P (contentsOf h'))) :
    Leaves env (atomic transactions x) contents Q P := by
  intro w hw
  cases hcurrent : w.current with
  | some t =>
    have hbody := hx w.heap hw w rfl (by rw [hcurrent]; rfl)
    rw [atomic_run_nested transactions hcurrent]
    rcases hrun : x.run env w with ⟨error | a, w'⟩ <;> rw [hrun] at hbody
    · exact hbody
    · exact hbody.1
  | none =>
    obtain ⟨-, t, ht, hsnap⟩ := body_of_opened transactions x env w
    have hbody := hx w.heap hw (transactions.opened w) rfl rfl
    rw [atomic_run_outermost transactions hcurrent]
    rcases hrun : x.run env (transactions.opened w) with ⟨error | a, w'⟩ <;>
      rw [hrun] at hbody ht
    · rw [transactions.close_error env error ht]
      change P (contentsOf (Coordinator.rolledBack w' t).heap)
      rw [contents_rolledBack hsnap]
      exact hbody
    · rw [transactions.close_ok env a ht]
      rcases transactions.commit_eq env a w' t with hcommit | ⟨error, hcommit⟩
      · rw [hcommit]
        exact hbody.1
      · rw [hcommit]
        change P (contentsOf (Coordinator.rolledBack w' t).heap)
        rw [contents_rolledBack hsnap]
        exact hbody.2

theorem leaves_atomicDomainOperation (hx : ∀ h, contentsOf h = contents → Always P env x h) :
    Leaves env (atomicDomainOperation x) contents (fun _ => P) P := by
  unfold atomicDomainOperation
  refine Leaves.bind (leaves_atomic fun h hh => ?_)
  have hinner : Always P env (tryExcept (Except.ok <$> x) fun error =>
      if error.isExecutionFailed = true then pure (.error error) else raise error) h := by
    refine Meets.tryExcept (Meets.map ((hx h hh).mono (fun _ _ hP => hP) ?_))
    intro error h' hP
    split
    · exact meets_pure.mpr hP
    · exact meets_raise.mpr hP
  refine hinner.mono ?_ fun _ _ hP => hP
  intro outcome h' hP
  refine ⟨?_, hP⟩
  intro w hw
  rw [← hw] at hP
  cases outcome with
  | ok result => exact hP
  | error error => exact hP

/-! ## Operations in one transaction -/

@[simp]
theorem getElem?_assignTask (contents : Contents) (taskId : String)
    (f : ExternalTask → ExternalTask) :
    (contents.assignTask taskId f).tasks[taskId]? = (contents.tasks[taskId]?).map f := by
  simp [Contents.assignTask]

def Contents.statusOf (contents : Contents) (taskId : String) : Option ExternalTaskStatus :=
  (contents.tasks[taskId]?).map fun task => task.status

theorem ne_of_statusOf {c c' : Contents} (taskId : String) {status status' : ExternalTaskStatus}
    (hstatus : c.statusOf taskId = some status) (hstatus' : c'.statusOf taskId = some status')
    (hne : status' ≠ status) : c' ≠ c := by
  rintro rfl
  rw [hstatus, Option.some.injEq] at hstatus'
  exact hne hstatus'.symm

theorem ne_of_allowed {status status' : ExternalTaskStatus}
    (h : status' ∈ status.allowedTransitions) : status' ≠ status := by
  rintro rfl
  exact not_allowed_self status' h

/-- What a call leaves of the dictionaries is what it found exactly when it was refused. -/
def Traceless (s : Surroundings) (call : Call) (c c' : Contents) : Prop :=
  c' = c ↔ call.refused s c

section Operations

variable (s : Surroundings) (taskId : String)

theorem always_published {index : Nat} {eventType : TaskEventType}
    {payload : List (String × Detail)} (hP : P (contentsOf h)) :
    Always P env (do emitEvent s index eventType taskId payload; getTask taskId) h :=
  Meets.emitEvent_bind (fun _ => hP) (Meets.getTask (fun _ => hP) fun _ => hP)

theorem always_published_value {index : Nat} {eventType : TaskEventType}
    {payload : List (String × Detail)} {a : α} (hP : P (contentsOf h)) :
    Always P env (do emitEvent s index eventType taskId payload; pure a) h :=
  Meets.emitEvent_bind (fun _ => hP) (meets_pure.mpr hP)

theorem traceless_of_moved (status : ExternalTaskStatus) {call : Call} {c c' : Contents}
    {task : ExternalTask} (htask : c.tasks[taskId]? = some task)
    (hstatus : c'.statusOf taskId = some status) (hne : status ≠ task.status)
    (hwritten : ¬call.refused s c) : Traceless s call c c' := by
  refine iff_of_false (ne_of_statusOf taskId ?_ hstatus hne) hwritten
  rw [Contents.statusOf, htask]
  rfl

theorem completeTask_leaves (c : Contents) :
    Leaves env (completeTask s taskId) c (fun _ => Traceless s (.completeTask taskId) c)
      (Traceless s (.completeTask taskId) c) := by
  unfold completeTask
  refine leaves_atomicDomainOperation ?_
  rintro h rfl
  unfold Always
  rw [meets_transition_bind]
  cases htask : (contentsOf h).tasks[taskId]? with
  | none => exact iff_of_true rfl fun task hmem => by simp [htask] at hmem
  | some task =>
    refine ⟨fun hrefused => iff_of_true rfl fun task' hmem => ?_, fun hallowed => ?_⟩
    · rw [htask] at hmem
      cases hmem
      exact hrefused
    · rw [meets_mutate_bind]
      refine always_published s taskId (traceless_of_moved s taskId .completed
        htask ?_ (ne_of_allowed (not_not.mp hallowed)) fun hrefused =>
          hallowed (hrefused task htask))
      simp [Contents.statusOf, htask]

theorem cancelTask_leaves (c : Contents) :
    Leaves env (cancelTask s taskId) c (fun _ => Traceless s (.cancelTask taskId) c)
      (Traceless s (.cancelTask taskId) c) := by
  unfold cancelTask
  refine leaves_atomicDomainOperation ?_
  rintro h rfl
  unfold Always
  rw [meets_transition_bind]
  cases htask : (contentsOf h).tasks[taskId]? with
  | none => exact iff_of_true rfl fun task hmem => by simp [htask] at hmem
  | some task =>
    refine ⟨fun hrefused => iff_of_true rfl fun task' hmem => ?_, fun hallowed => ?_⟩
    · rw [htask] at hmem
      cases hmem
      exact hrefused
    · refine always_published s taskId (traceless_of_moved s taskId .cancelled
        htask ?_ (ne_of_allowed (not_not.mp hallowed)) fun hrefused =>
          hallowed (hrefused task htask))
      simp [Contents.statusOf, htask]

theorem requestReview_leaves (c : Contents) :
    Leaves env (requestReview s taskId) c (fun _ => Traceless s (.requestReview taskId) c)
      (Traceless s (.requestReview taskId) c) := by
  unfold requestReview
  refine leaves_atomicDomainOperation ?_
  rintro h rfl
  unfold Always
  rw [meets_getTask_bind]
  cases htask : (contentsOf h).tasks[taskId]? with
  | none => exact iff_of_true rfl fun task hmem => by simp [htask] at hmem
  | some task =>
    simp only [meets_raiseIf_bind]
    refine ⟨fun hrefused => iff_of_true rfl fun task' hmem => ?_, fun hready => ?_⟩
    · rw [htask] at hmem
      cases hmem
      exact hrefused
    · obtain ⟨hrunning, hresult⟩ := not_or.mp hready
      rw [not_not] at hrunning
      have hmoved : ∀ c' : Contents, c'.statusOf taskId = some .waitingForReview →
          Traceless s (.requestReview taskId) (contentsOf h) c' := by
        intro c' hstatus
        refine traceless_of_moved s taskId _ htask hstatus ?_ fun hrefused =>
          hready (hrefused task htask)
        rw [hrunning]
        decide
      rw [meets_mutate_bind, meets_transition_bind]
      simp only [Heap.write_same, getElem?_assignTask, htask, Option.map_some, hrunning]
      refine ⟨fun hnot => absurd hnot (by decide), fun _ => ?_⟩
      refine always_published s taskId (hmoved _ ?_)
      simp [Contents.statusOf, htask]

theorem retryTask_leaves (c : Contents) :
    Leaves env (retryTask s taskId) c (fun _ => Traceless s (.retryTask taskId) c)
      (Traceless s (.retryTask taskId) c) := by
  unfold retryTask
  refine leaves_atomicDomainOperation ?_
  rintro h rfl
  unfold Always
  rw [meets_getTask_bind]
  cases htask : (contentsOf h).tasks[taskId]? with
  | none => exact iff_of_true rfl fun task hmem => by simp [htask] at hmem
  | some task =>
    have hrefuses : ∀ {p : Prop}, p → (p →
        (task.status ≠ .failed ∧ task.status ≠ .changesRequested) ∨
          (task.status = .failed ∧ ∀ result ∈ (contentsOf h).results[taskId]?,
            result.status ≠ .failedRetryable)) →
        Call.refused s (contentsOf h) (.retryTask taskId) := by
      intro p hp hcase task' hmem
      rw [htask] at hmem
      cases hmem
      exact hcase hp
    simp only [meets_raiseIf_bind]
    refine ⟨fun hstatus => iff_of_true rfl (hrefuses hstatus .inl), fun hretryable => ?_⟩
    refine meets_read_bind.mpr ?_
    simp only [meets_raiseIf_bind]
    refine ⟨fun hpermanent => iff_of_true rfl (hrefuses hpermanent .inr), fun htransient => ?_⟩
    have hallowed : .queued ∈ task.status.allowedTransitions := by
      rcases not_and_or.mp hretryable with hstatus | hstatus <;>
        (rw [not_not] at hstatus; rw [hstatus]; decide)
    rw [meets_mutate_bind, meets_transition_bind]
    simp only [Heap.write_same, getElem?_assignTask, htask, Option.map_some]
    refine ⟨fun hnot => absurd hallowed hnot, fun _ => ?_⟩
    refine always_published s taskId (traceless_of_moved s taskId .queued htask ?_
      (ne_of_allowed hallowed) fun hrefused => (hrefused task htask).elim hretryable htransient)
    simp [Contents.statusOf, htask]

/-- What follows a decision that is made: it is filed, and the task moves on. -/
theorem always_decided {call : Call} {task : ExternalTask} {item : ApprovalDecision}
    {approval : ApprovalStatus} {status : ExternalTaskStatus} {eventType : TaskEventType}
    {payload : List (String × Detail)} (htask : (contentsOf h).tasks[taskId]? = some task)
    (hwaiting : task.status = .waitingForReview)
    (hallowed : status ∈ ExternalTaskStatus.waitingForReview.allowedTransitions)
    (hwritten : ¬call.refused s (contentsOf h)) :
    Always (Traceless s call (contentsOf h)) env (do
      mutate (Contents.fileDecision taskId item)
      mutate (Contents.assignTask taskId fun task => { task with approvalStatus := approval })
      transition taskId status
      emitEvent s 0 eventType taskId payload
      pure item) h := by
  unfold Always
  have hfiled : ((contentsOf h).fileDecision taskId item).tasks[taskId]? = some task := htask
  rw [meets_mutate_bind, meets_mutate_bind, meets_transition_bind]
  simp only [Heap.write_same, getElem?_assignTask, hfiled, Option.map_some, hwaiting]
  refine ⟨fun hnot => absurd hallowed hnot, fun _ => ?_⟩
  refine always_published_value s taskId (traceless_of_moved s taskId status htask ?_
    ?_ hwritten)
  · simp [Contents.statusOf, hfiled]
  · rw [hwaiting]
    exact ne_of_allowed hallowed

theorem approveTask_leaves (approverId reason : String) (c : Contents) :
    Leaves env (approveTask s taskId approverId reason) c
      (fun _ => Traceless s (.approveTask taskId approverId reason) c)
      (Traceless s (.approveTask taskId approverId reason) c) := by
  unfold approveTask
  refine leaves_atomicDomainOperation ?_
  rintro h rfl
  unfold Always
  rw [meets_getTask_bind]
  cases htask : (contentsOf h).tasks[taskId]? with
  | none => exact iff_of_true rfl fun task hmem => by simp [htask] at hmem
  | some task =>
    have hrefuses : (task.status ≠ .waitingForReview ∨ some approverId = task.providerId ∨
        ∀ item, decision taskId .approved approverId reason (s.now 0) ≠ .ok item) →
        Call.refused s (contentsOf h) (.approveTask taskId approverId reason) := by
      intro hcase task' hmem
      rw [htask] at hmem
      cases hmem
      exact hcase
    simp only [meets_raiseIf_bind]
    refine ⟨fun hstatus => iff_of_true rfl (hrefuses (.inl hstatus)), fun hwaiting => ?_⟩
    refine ⟨fun hself => iff_of_true rfl (hrefuses (.inr (.inl hself))), fun hother => ?_⟩
    rw [meets_outside_bind]
    cases hdecision : decision taskId .approved approverId reason (s.now 0) with
    | error error =>
        refine iff_of_true rfl (hrefuses (.inr (.inr fun item hok => ?_)))
        rw [hdecision] at hok
        cases hok
    | ok item =>
        refine always_decided s taskId htask (not_not.mp hwaiting) (by decide) ?_
        intro hrefused
        rcases hrefused task htask with hstatus | hself | hnone
        · exact hwaiting hstatus
        · exact hother hself
        · exact hnone item hdecision

theorem reviewDecision_leaves (call : Call) (approverId reason : String)
    (approval : ApprovalStatus) (status : ExternalTaskStatus) (event : TaskEventType)
    (c : Contents)
    (hallowed : status ∈ ExternalTaskStatus.waitingForReview.allowedTransitions)
    (hrefused : call.refused s c ↔ ∀ task ∈ c.tasks[taskId]?, task.status ≠ .waitingForReview ∨
      ∀ item, decision taskId approval approverId reason (s.now 0) ≠ .ok item) :
    Leaves env
      (atomicDomainOperation (reviewDecision s taskId approverId reason approval status event)) c
      (fun _ => Traceless s call c) (Traceless s call c) := by
  refine leaves_atomicDomainOperation ?_
  rintro h rfl
  unfold Always reviewDecision
  rw [meets_getTask_bind]
  cases htask : (contentsOf h).tasks[taskId]? with
  | none => exact iff_of_true rfl (hrefused.mpr fun task hmem => by simp [htask] at hmem)
  | some task =>
    have hrefuses : (task.status ≠ .waitingForReview ∨
        ∀ item, decision taskId approval approverId reason (s.now 0) ≠ .ok item) →
        call.refused s (contentsOf h) := by
      intro hcase
      refine hrefused.mpr fun task' hmem => ?_
      rw [htask] at hmem
      cases hmem
      exact hcase
    simp only [meets_raiseIf_bind]
    refine ⟨fun hstatus => iff_of_true rfl (hrefuses (.inl hstatus)), fun hwaiting => ?_⟩
    rw [meets_outside_bind]
    cases hdecision : decision taskId approval approverId reason (s.now 0) with
    | error error =>
        refine iff_of_true rfl (hrefuses (.inr fun item hok => ?_))
        rw [hdecision] at hok
        cases hok
    | ok item =>
        refine always_decided s taskId htask (not_not.mp hwaiting) hallowed ?_
        intro hcall
        rcases hrefused.mp hcall task htask with hstatus | hnone
        · exact hwaiting hstatus
        · exact hnone item hdecision

theorem createTask_leaves (values : TaskValues) (c : Contents) :
    Leaves env (createTask s values) c (fun _ => Traceless s (.createTask values) c)
      (Traceless s (.createTask values) c) := by
  unfold createTask
  refine leaves_atomicDomainOperation ?_
  rintro h rfl
  unfold Always
  rw [meets_outside_bind]
  cases hid : values.taskId with
  | none => exact iff_of_true rfl fun taskId hmem => by simp [hid] at hmem
  | some taskId =>
    have hrefuses : (taskId ∈ (contentsOf h).tasks ∨
        ∀ task, values.task taskId (s.now 0) ≠ .ok task) →
        Call.refused s (contentsOf h) (.createTask values) := by
      intro hcase taskId' hmem
      rw [hid] at hmem
      cases hmem
      exact hcase
    simp only [required]
    refine meets_read_bind.mpr ?_
    simp only [meets_raiseIf_bind]
    refine ⟨fun hknown => iff_of_true rfl (hrefuses (.inl (Std.ExtTreeMap.mem_iff_contains.mpr
      hknown))), fun hnew => ?_⟩
    rw [meets_outside_bind]
    cases htask : values.task taskId (s.now 0) with
    | error error =>
        refine iff_of_true rfl (hrefuses (.inr fun task hok => ?_))
        rw [htask] at hok
        cases hok
    | ok task =>
        have hmissing : taskId ∉ (contentsOf h).tasks := fun hmem =>
          hnew (Std.ExtTreeMap.mem_iff_contains.mp hmem)
        simp only [meets_mutate_bind]
        refine always_published s taskId (iff_of_false ?_ ?_)
        · intro hsame
          have hlookup := congrArg (fun c : Contents => c.tasks[taskId]?) hsame
          simp only [Heap.write_same, Std.ExtTreeMap.getElem?_insert_self,
            Std.ExtTreeMap.getElem?_eq_none hmissing] at hlookup
          cases hlookup
        · intro hrefused
          rcases hrefused taskId hid with hknown | hnone
          · exact hmissing hknown
          · exact hnone task htask

/-- The end of `queue_task`, from the transition on. -/
theorem always_queued (task : ExternalTask) {providerId : String}
    (htask : (contentsOf h).tasks[taskId]? = some task)
    (hstays : .queued ∉ task.status.allowedTransitions → P (contentsOf h))
    (hmoves : .queued ∈ task.status.allowedTransitions →
      P ((contentsOf h).assignTask taskId fun task => { task with status := .queued })) :
    Always P env (do
      transition taskId .queued
      emitEvent s 0 .externalTaskProviderSelected taskId [("provider_id", .text (some providerId))]
      emitEvent s 1 .externalTaskQueued taskId (statusPayload .queued)
      getTask taskId) h := by
  unfold Always
  rw [meets_transition_bind]
  simp only [htask]
  refine ⟨hstays, fun hallowed => ?_⟩
  have hmoved : P (contentsOf (h.write .contents ((contentsOf h).assignTask taskId fun task =>
      { task with status := .queued }))) := by
    rw [contentsOf_write]
    exact hmoves (not_not.mp hallowed)
  exact Meets.emitEvent_bind (fun _ => hmoved) (always_published s taskId hmoved)

theorem assign_provider_eq_iff {c : Contents} {task : ExternalTask} {providerId : String}
    (htask : c.tasks[taskId]? = some task) :
    (c.assignTask taskId fun task => { task with providerId := some providerId }) = c ↔
      task.providerId = some providerId := by
  constructor
  · intro hsame
    have hlookup := congrArg (fun c : Contents => (c.tasks[taskId]?).map (·.providerId)) hsame
    simp only [getElem?_assignTask, htask, Option.map_some, Option.some.injEq] at hlookup
    exact hlookup.symm
  · intro hprovider
    have htasks : c.tasks.modify taskId (fun task => { task with providerId := some providerId }) =
        c.tasks := by
      refine Std.ExtTreeMap.ext_getElem? fun {id} => ?_
      rw [Std.ExtTreeMap.getElem?_modify]
      split
      · rename_i heq
        have hid : taskId = id := by simpa using heq
        subst hid
        rw [htask, Option.map_some, ← hprovider]
      · rfl
    rw [Contents.assignTask, htasks]

theorem queueTask_leaves (c : Contents) :
    Leaves env (queueTask s taskId) c (fun _ => Traceless s (.queueTask taskId) c)
      (Traceless s (.queueTask taskId) c) := by
  unfold queueTask
  refine leaves_atomicDomainOperation ?_
  rintro h rfl
  unfold Always
  rw [meets_getTask_bind]
  cases htask : (contentsOf h).tasks[taskId]? with
  | none => exact iff_of_true rfl fun task hmem => by simp [htask] at hmem
  | some task =>
    simp only [meets_outside_bind]
    cases hchosen : chooseCompatibleProvider s.providers task.requestedCapabilities with
    | error error =>
        refine iff_of_true rfl fun task' hmem provider hok => ?_
        rw [htask] at hmem
        cases hmem
        rw [hchosen] at hok
        cases hok
    | ok provider =>
        have hrefused : Call.refused s (contentsOf h) (.queueTask taskId) ↔
            .queued ∉ task.status.allowedTransitions ∧
              task.providerId = some provider.providerId ∧
                (s.workspace = none ∨ task.workspaceId ≠ none) := by
          constructor
          · intro hcall
            exact hcall task htask provider hchosen
          · intro hcase task' hmem provider' hok
            rw [htask] at hmem
            cases hmem
            rw [hchosen] at hok
            cases hok
            exact hcase
        simp only [meets_mutate_bind]
        unfold createWorkspace
        simp only [meets_bind_assoc, meets_getTask_bind, Heap.write_same, getElem?_assignTask,
          htask, Option.map_some]
        -- without a new workspace only the provider has been written before the transition
        have hplain : (s.workspace = none ∨ task.workspaceId ≠ none) →
            Always (Traceless s (.queueTask taskId) (contentsOf h)) env (do
              transition taskId .queued
              emitEvent s 0 .externalTaskProviderSelected taskId
                [("provider_id", .text (some provider.providerId))]
              emitEvent s 1 .externalTaskQueued taskId (statusPayload .queued)
              getTask taskId)
              (h.write .contents ((contentsOf h).assignTask taskId fun task =>
                { task with providerId := some provider.providerId })) := by
          intro hworkspace
          refine always_queued s taskId { task with
            providerId := some provider.providerId } ?_ ?_ ?_
          · simp [htask]
          · intro hnot
            rw [contentsOf_write, Traceless, assign_provider_eq_iff taskId htask, hrefused]
            exact ⟨fun hsame => ⟨hnot, hsame, hworkspace⟩, fun hcase => hcase.2.1⟩
          · intro hallowed
            refine traceless_of_moved s taskId .queued htask ?_
              (ne_of_allowed hallowed) fun hcall => (hrefused.mp hcall).1 hallowed
            simp [Contents.statusOf, htask]
        cases hworkspace : s.workspace with
        | none =>
            simp only [meets_pure_bind]
            exact hplain (.inl hworkspace)
        | some created =>
            by_cases hassigned : task.workspaceId = none
            · -- the workspace is recorded before it is created, whatever comes of it
              have hwritten : ∀ c' : Contents,
                  ((c'.tasks[taskId]?).map fun task => task.workspaceId.isSome) = some true →
                    Traceless s (.queueTask taskId) (contentsOf h) c' := by
                intro c' hsome
                refine iff_of_false ?_ fun hcall => ?_
                · rintro rfl
                  simp [htask, hassigned] at hsome
                · rcases (hrefused.mp hcall).2.2 with hnone | hne
                  · rw [hworkspace] at hnone
                    cases hnone
                  · exact hne hassigned
              simp only [hassigned, if_true, meets_bind_assoc, meets_mutate_bind,
                meets_outside_bind]
              cases created with
              | error error =>
                  refine hwritten _ ?_
                  simp [htask]
              | ok u =>
                  refine always_queued s taskId { task with
                    providerId := some provider.providerId
                    workspaceId := some s!"task-{task.taskId}" } ?_ ?_ ?_
                  · simp [htask]
                  · intro hnot
                    refine hwritten _ ?_
                    simp [htask]
                  · intro hallowed
                    refine hwritten _ ?_
                    simp [htask]
            · simp only [hassigned, if_false, meets_pure_bind]
              exact hplain (.inr hassigned)

end Operations

/-! ## Executing a task -/

section Executing

variable (s : Surroundings) (taskId : String)

/-- The operation of the call is on file. -/
def Begun (s : Surroundings) (c : Contents) : Prop :=
  s.operationId ∈ c.operations

theorem Begun.assignOperation {c : Contents} (hc : Begun s c) (operationId : String)
    (f : ExternalOperation → ExternalOperation) :
    Begun s (c.assignOperation operationId f) := by
  unfold Begun Contents.assignOperation at *
  exact Std.ExtTreeMap.mem_modify.mpr hc

theorem always_requireReconciliation (hbegun : Begun s (contentsOf h)) :
    Always (Begun s) env (requireReconciliation s taskId) h := by
  unfold Always requireReconciliation
  simp only [meets_mutate_bind, contentsOf_write]
  have hkept := hbegun.assignOperation s s.operationId fun operation =>
    { operation with status := .reconciliationRequired, updatedAt := s.now 3 }
  exact Meets.emitEvent (fun _ => hkept) hkept

theorem always_emitProgress (hP : P (contentsOf h)) (index : Nat)
    (progress : List CodingAgentProgress) :
    Always P env (emitProgress s taskId index progress) h := by
  induction progress generalizing index with
  | nil => exact meets_pure.mpr hP
  | cons item progress ih => exact Meets.emitEvent_bind (fun _ => hP) (ih (index + 1))

theorem always_recordAnswer (answer : Answer) (hbegun : Begun s (contentsOf h)) :
    Always (Begun s) env (recordAnswer s taskId answer) h := by
  unfold Always recordAnswer
  rw [meets_mutate_bind]
  refine Meets.bind ((always_emitProgress s taskId (P := Begun s) ?_ 3 answer.progress).mono ?_
    fun _ _ hE => hE)
  · exact hbegun
  · intro _ h' hbegun
    simp only [meets_mutate_bind, contentsOf_write]
    have hkept := hbegun.assignOperation s s.operationId fun operation =>
      { operation with status := .succeeded, updatedAt := s.now 3 }
    refine Meets.emitEvent_bind (fun _ => hkept) ?_
    rw [meets_ite]
    constructor
    · intro _
      rw [← meets_bind_pure, meets_mutate_bind]
      exact meets_pure.mpr hkept
    · intro _
      rw [meets_mutate_bind, meets_transition_bind]
      split
      · refine ⟨fun _ => hkept, fun _ => ?_⟩
        exact Meets.emitEvent (fun _ => hkept) hkept
      · exact hkept

/-- What the first block leaves: nothing when the transition is refused; else a task that is
running, and the operation on file if the block returns. -/
theorem meets_startOperation {task : ExternalTask}
    (htask : (contentsOf h).tasks[taskId]? = some task) :
    Meets env (startOperation s taskId) h
      (fun _ h' => .running ∈ task.status.allowedTransitions ∧ Begun s (contentsOf h'))
      (fun _ h' => if .running ∈ task.status.allowedTransitions then
          (contentsOf h').statusOf taskId = some .running
        else contentsOf h' = contentsOf h) := by
  unfold startOperation
  rw [meets_transition_bind]
  simp only [htask]
  refine ⟨fun hnot => ?_, fun hallowed => ?_⟩
  · simp [hnot]
  have hallowed := not_not.mp hallowed
  simp only [hallowed, if_true, true_and, meets_mutate_bind, contentsOf_write]
  refine Meets.emitEvent_bind ?_ ?_
  · intro _
    simp [Contents.statusOf, htask]
  · simp only [meets_mutate_bind, contentsOf_write]
    refine Meets.emitEvent_bind ?_ ?_
    · intro _
      simp [Contents.statusOf, Contents.assignTask, htask]
    · simp only [meets_mutate_bind, contentsOf_write]
      refine Meets.emitEvent ?_ ?_
      · intro _
        simp [Contents.statusOf, Contents.assignTask, Contents.assignOperation, htask]
      · refine Begun.assignOperation s ?_ _ _
        exact Std.ExtTreeMap.mem_insert_self

theorem executeTask_leaves (c : Contents) :
    Leaves env (executeTask s taskId) c
      (fun _ c' => (Call.refused s c (.executeTask taskId) → c' = c) ∧
        (s.operationId ∉ c.operations → c' = c → Call.refused s c (.executeTask taskId)))
      (fun c' => (Call.refused s c (.executeTask taskId) → c' = c) ∧
        (s.operationId ∉ c.operations → c' = c → Call.refused s c (.executeTask taskId))) := by
  unfold executeTask
  refine Leaves.bind (leaves_getTask c ?_ ?_)
  · intro htask
    exact ⟨fun _ => rfl, fun _ _ task hmem => by simp [htask] at hmem⟩
  intro task htask
  have hrefused : Call.refused s c (.executeTask taskId) ↔
      .running ∉ task.status.allowedTransitions := by
    constructor
    · intro hcall
      exact hcall task htask
    · intro hnot task' hmem
      rw [htask] at hmem
      cases hmem
      exact hnot
  -- once the operation is on file the call is not refused and has left a trace
  have hbegun : ∀ c', .running ∈ task.status.allowedTransitions → Begun s c' →
      (Call.refused s c (.executeTask taskId) → c' = c) ∧
        (s.operationId ∉ c.operations → c' = c → Call.refused s c (.executeTask taskId)) := by
    intro c' hallowed hfiled
    refine ⟨fun hcall => absurd hallowed (hrefused.mp hcall), fun hfresh hsame => ?_⟩
    rw [hsame] at hfiled
    exact absurd hfiled hfresh
  have hstart : Leaves env (atomic transactions (startOperation s taskId)) c
      (fun _ c' => .running ∈ task.status.allowedTransitions ∧ Begun s c')
      (fun c' => (Call.refused s c (.executeTask taskId) → c' = c) ∧
        (s.operationId ∉ c.operations → c' = c → Call.refused s c (.executeTask taskId))) := by
    refine leaves_atomic ?_
    rintro h rfl
    refine (meets_startOperation s taskId htask).mono ?_ ?_
    · intro _ h' hstarted
      exact ⟨hstarted, hbegun _ hstarted.1 hstarted.2⟩
    · intro _ h' hraised
      split at hraised
      · rename_i hallowed
        refine ⟨fun hcall => absurd hallowed (hrefused.mp hcall), fun _ hsame => ?_⟩
        rw [hsame, Contents.statusOf, htask, Option.map_some, Option.some.injEq] at hraised
        exact absurd hraised.symm (ne_of_allowed hallowed)
      · rename_i hnot
        exact ⟨fun _ => hraised, fun _ _ => hrefused.mpr hnot⟩
  refine Leaves.bind (hstart.mono ?_ fun _ hP => hP)
  rintro _ c₁ ⟨hallowed, hfiled⟩
  refine Leaves.bind (leaves_getTask c₁ (fun _ => hbegun c₁ hallowed hfiled) ?_)
  intro task₁ _
  -- both last blocks keep the operation on file
  have hlast : ∀ {block : Method Unit},
      (∀ h, Begun s (contentsOf h) → Always (Begun s) env block h) →
        Leaves env (atomic transactions block) c₁ (fun _ => Begun s) (Begun s) := by
    intro block hblock
    refine leaves_atomic ?_
    rintro h rfl
    exact (hblock h hfiled).mono (fun _ _ hP => ⟨hP, hP⟩) fun _ _ hP => hP
  cases consult s taskId task₁.providerId with
  | error error =>
    have hblock := hlast fun h hh => always_requireReconciliation s taskId hh
    refine Leaves.bind (hblock.mono ?_ fun c' hP => hbegun c' hallowed hP)
    intro _ c' hP
    exact leaves_raise (hbegun c' hallowed hP)
  | ok answer =>
    have hblock := hlast fun h hh => always_recordAnswer s taskId answer hh
    refine Leaves.bind (hblock.mono ?_ fun c' hP => hbegun c' hallowed hP)
    intro _ c' hP
    exact leaves_pure (hbegun c' hallowed hP)

end Executing

/-! ## Every call -/

def Call.DrawsNew (s : Surroundings) (contents : Contents) : Call → Prop
  | .executeTask _ => s.operationId ∉ contents.operations
  | _ => True

/-- A refused call leaves everything as it was, and no other call does. -/
def Trace (s : Surroundings) (call : Call) (c c' : Contents) : Prop :=
  (call.refused s c → c' = c) ∧ (call.DrawsNew s c → c' = c → call.refused s c)

theorem Traceless.trace {s : Surroundings} {call : Call} {c c' : Contents}
    (h : Traceless s call c c') : Trace s call c c' :=
  ⟨h.mpr, fun _ => h.mp⟩

theorem call_leaves (env : Nat → Except TaskError Unit) (s : Surroundings) (call : Call)
    (c : Contents) :
    Leaves env (call.run s) c (fun _ => Trace s call c) (Trace s call c) := by
  cases call with
  | createTask values =>
    exact ((createTask_leaves s values c).mono (fun _ _ => Traceless.trace)
      fun _ => Traceless.trace).map
  | queueTask taskId =>
    exact ((queueTask_leaves s taskId c).mono (fun _ _ => Traceless.trace)
      fun _ => Traceless.trace).map
  | executeTask taskId => exact (executeTask_leaves s taskId c).map
  | requestReview taskId =>
    exact ((requestReview_leaves s taskId c).mono (fun _ _ => Traceless.trace)
      fun _ => Traceless.trace).map
  | retryTask taskId =>
    exact ((retryTask_leaves s taskId c).mono (fun _ _ => Traceless.trace)
      fun _ => Traceless.trace).map
  | approveTask taskId approverId reason =>
    exact ((approveTask_leaves s taskId approverId reason c).mono (fun _ _ => Traceless.trace)
      fun _ => Traceless.trace).map
  | rejectTask taskId approverId reason =>
    exact ((reviewDecision_leaves s taskId _ approverId reason _ _ _ c (by decide)
      Iff.rfl).mono (fun _ _ => Traceless.trace) fun _ => Traceless.trace).map
  | requestChanges taskId approverId reason =>
    exact ((reviewDecision_leaves s taskId _ approverId reason _ _ _ c (by decide)
      Iff.rfl).mono (fun _ _ => Traceless.trace) fun _ => Traceless.trace).map
  | completeTask taskId =>
    exact ((completeTask_leaves s taskId c).mono (fun _ _ => Traceless.trace)
      fun _ => Traceless.trace).map
  | cancelTask taskId =>
    exact ((cancelTask_leaves s taskId c).mono (fun _ _ => Traceless.trace)
      fun _ => Traceless.trace).map

theorem Call.trace (s : Surroundings) (call : Call) (env : Nat → Except TaskError Unit)
    (w : World external) :
    Trace s call (contentsOf w.heap) (contentsOf ((call.run s).run env w).2.heap) := by
  have hleaves := call_leaves env s call (contentsOf w.heap) w rfl
  rcases hrun : (call.run s).run env w with ⟨error | a, w'⟩ <;> rw [hrun] at hleaves <;>
    exact hleaves

theorem performAll_refused {calls : List (Surroundings × Call)}
    (env : Nat → Except TaskError Unit) {w : World external}
    (hrefused : ∀ p ∈ calls, p.2.refused p.1 (contentsOf w.heap)) :
    contentsOf ((performAll (calls.map fun p => p.2.run p.1)).run env w).2.heap =
      contentsOf w.heap := by
  induction calls generalizing w with
  | nil => rfl
  | cons p calls ih =>
    have hsame := (Call.trace p.1 p.2 env w).1 (hrefused p (List.mem_cons_self ..))
    rw [List.map_cons, performAll_cons, ih, hsame]
    intro p' hp'
    rw [hsame]
    exact hrefused p' (List.mem_cons_of_mem _ hp')

def World.new : World external where
  heap
    | .service => (0 : Nat)
    | .contents => Contents.init
  eventStore := []
  current := none
  readings := 0

/-- An available provider without capabilities. -/
def sampleProvider (providerId : String) (priority : Int) : CodingAgentProvider where
  providerId := providerId
  priority := priority
  isAvailable := .ok true
  supportedCapabilities := .ok []

/-- Surroundings with the given providers in which nothing fails. -/
def sampleSurroundings (providers : List CodingAgentProvider) : Surroundings where
  now _ := 0
  providers := providers
  workspace := none
  published _ := .ok ()
  operationId := "operation"
  answer := .error (.other "RuntimeError" "no answer")

/-- A task is created and queued for its only provider. -/
def queuedOnce : List (Surroundings × Call) :=
  [(sampleSurroundings [sampleProvider "agent-a" 1],
      .createTask
        { taskId := some "task"
          projectId := some "project"
          workItemId := some "work"
          title := some "Change"
          description := some "Safe change"
          repositoryReference := some "org/repo"
          workingBranch := some "agent/task" }),
    (sampleSurroundings [sampleProvider "agent-a" 1], .queueTask "task")]

/-- The world after some calls of a new service whose event store accepts every event. -/
def worldAfter (calls : List (Surroundings × Call)) : World external :=
  ((performAll (calls.map fun p => p.2.run p.1)).run (fun _ => Except.ok ()) World.new).2

end Tasks
end Ascos
