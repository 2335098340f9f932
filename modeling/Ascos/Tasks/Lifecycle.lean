import Ascos.Tasks.Atomicity
import Mathlib.Logic.Relation

/-!
# The lifecycle of a task

What any calls make of the status of a task.  A call that raises may have changed it, and no
rollback takes that back; but each single assignment takes a way of `ALLOWED_TRANSITIONS`.

Main results:

- Theorem `task_lifecycle`: no calls lose a task, and its status only takes those ways.
-/

namespace Ascos
namespace Tasks

open Library Library.Action

variable {env : Nat → Except TaskError Unit} {h : Heap external} {α β : Type}
  {R : Contents → Contents → Prop} {c c' : Contents} {s : Surroundings} {taskId : String}

/-! ## What the methods respect -/

/-- Whatever the method does, what it leaves in the dictionaries is related to what it finds. -/
class Respects (R : Contents → Contents → Prop) (x : Method α) : Prop where
  always : ∀ env h, Always (R (contentsOf h)) env x h

theorem Respects.mutate {f : Contents → Contents} (hf : ∀ c, R c (f c)) :
    Respects R (Tasks.mutate f) := by
  refine ⟨fun env h => ?_⟩
  rw [Always, ← meets_bind_pure, meets_mutate_bind, meets_pure, contentsOf_write]
  exact hf _

theorem Respects.read {f : Contents → Method β} (hf : ∀ contents, Respects R (f contents)) :
    Respects R (read (S := external) .contents >>= f) :=
  ⟨fun env h => meets_read_bind.mpr ((hf _).always env h)⟩

theorem Respects.after [htrans : IsTrans Contents R] {x : Method α} (hx : Respects R x)
    (hbefore : R c (contentsOf h)) : Always (R c) env x h :=
  (hx.always env h).mono (fun _ _ => htrans.trans _ _ _ hbefore)
    fun _ _ => htrans.trans _ _ _ hbefore

theorem Respects.seq [IsTrans Contents R] {x : Method α} {f : α → Method β} (hx : Respects R x)
    (hf : ∀ a, Respects R (f a)) : Respects R (x >>= f) :=
  ⟨fun env h => Meets.bind ((hx.always env h).mono (fun a _ => (hf a).after) fun _ _ hE => hE)⟩

section Steps

variable [hrefl : Std.Refl R]

instance [IsTrans Contents R] {x : Method α} {f : α → Method β} [hx : Respects R x]
    [hf : ∀ a, Respects R (f a)] : Respects R (x >>= f) :=
  hx.seq hf

instance (a : α) : Respects R (pure a : Method α) :=
  ⟨fun _ _ => meets_pure.mpr (hrefl.refl _)⟩

instance (error : TaskError) : Respects R (raise error : Method α) :=
  ⟨fun _ _ => meets_raise.mpr (hrefl.refl _)⟩

instance (result : Except TaskError α) : Respects R (outside result) := by
  unfold outside
  split <;> infer_instance

instance (p : Prop) [Decidable p] (error : TaskError) :
    Respects R (raiseIf p error : Method Unit) := by
  unfold raiseIf
  split <;> infer_instance

instance (taskId : String) : Respects R (getTask taskId) :=
  ⟨fun _ _ => Meets.getTask (fun _ => hrefl.refl _) fun _ => hrefl.refl _⟩

instance (s : Surroundings) (index : Nat) (eventType : TaskEventType) (taskId : String)
    (payload : List (String × Detail)) : Respects R (emitEvent s index eventType taskId payload) :=
  ⟨fun _ _ => Meets.emitEvent (fun _ => hrefl.refl _) (hrefl.refl _)⟩

end Steps

/-! ## Statuses -/

abbrev ExternalTaskStatus.Leads : ExternalTaskStatus → ExternalTaskStatus → Prop :=
  Relation.ReflTransGen fun status next => next ∈ status.allowedTransitions

/-- Every task is still there, and the table leads to its status. -/
def Follows (c c' : Contents) : Prop :=
  ∀ taskId status, c.statusOf taskId = some status →
    ∃ next, c'.statusOf taskId = some next ∧ status.Leads next

instance : Std.Refl Follows where
  refl _ _ status h := ⟨status, h, .refl⟩

instance : IsTrans Contents Follows where
  trans _ _ _ h h' taskId status hstatus := by
    obtain ⟨next, hnext, hleads⟩ := h taskId status hstatus
    obtain ⟨last, hlast, hleads'⟩ := h' taskId next hnext
    exact ⟨last, hlast, hleads.trans hleads'⟩

/-- No status is another one. -/
def SameStatuses (c c' : Contents) : Prop :=
  ∀ taskId, c'.statusOf taskId = c.statusOf taskId

instance : Std.Refl SameStatuses where
  refl _ _ := rfl

instance : IsTrans Contents SameStatuses where
  trans _ _ _ h h' taskId := (h' taskId).trans (h taskId)

theorem SameStatuses.follows (h : SameStatuses c c') : Follows c c' :=
  fun taskId status hstatus => ⟨status, (h taskId).trans hstatus, .refl⟩

theorem statusOf_assignTask {f : ExternalTask → ExternalTask}
    {g : ExternalTaskStatus → ExternalTaskStatus} (hf : ∀ task, (f task).status = g task.status)
    (other : String) : (c.assignTask taskId f).statusOf other =
      if taskId = other then (c.statusOf other).map g else c.statusOf other := by
  unfold Contents.statusOf Contents.assignTask
  rw [Std.ExtTreeMap.getElem?_modify]
  by_cases h : taskId = other
  · subst h
    simp [Function.comp_def, hf]
  · simp [h]

/-- An assignment that leaves the status. -/
theorem sameStatuses_assignTask {f : ExternalTask → ExternalTask}
    (hf : ∀ task, (f task).status = task.status) (c : Contents) :
    SameStatuses c (c.assignTask taskId f) := by
  intro other
  rw [statusOf_assignTask (g := id) hf]
  simp

/-- An assignment of a status to which the table leads. -/
theorem follows_assignTask {old status : ExternalTaskStatus} (hold : c.statusOf taskId = some old)
    (hallowed : status ∈ old.allowedTransitions) :
    Follows c (c.assignTask taskId fun task => { task with status }) := by
  intro other before hbefore
  rw [statusOf_assignTask (g := fun _ => status) fun _ => rfl]
  split
  · rename_i heq
    subst heq
    cases hold.symm.trans hbefore
    exact ⟨status, by rw [hold]; rfl, .single hallowed⟩
  · exact ⟨before, hbefore, .refl⟩

theorem meets_transition (taskId : String) (status : ExternalTaskStatus) :
    Meets env (transition taskId status) h
      (fun _ h' => Follows (contentsOf h) (contentsOf h') ∧
        (contentsOf h').statusOf taskId = some status)
      fun _ h' => Follows (contentsOf h) (contentsOf h') := by
  have hsame : Follows (contentsOf h) (contentsOf h) := Std.Refl.refl _
  rw [← meets_bind_pure, meets_transition_bind]
  split
  · rename_i task htask
    refine ⟨fun _ => hsame, fun hallowed => meets_pure.mpr ?_⟩
    have hold : (contentsOf h).statusOf taskId = some task.status := by
      rw [Contents.statusOf, htask]
      rfl
    rw [contentsOf_write]
    refine ⟨follows_assignTask hold (not_not.mp hallowed), ?_⟩
    rw [statusOf_assignTask (g := fun _ => status) fun _ => rfl, hold]
    simp
  · exact hsame

instance (taskId : String) (status : ExternalTaskStatus) :
    Respects Follows (transition taskId status) :=
  ⟨fun _ _ => (meets_transition taskId status).mono (fun _ _ h => h.1) fun _ _ h => h⟩

theorem Respects.assign {f : ExternalTask → ExternalTask}
    (hf : ∀ task, (f task).status = task.status) :
    Respects Follows (Tasks.mutate (Contents.assignTask taskId f)) :=
  .mutate fun c => (sameStatuses_assignTask hf c).follows

/-- A change of something else than the tasks. -/
theorem Respects.aside {f : Contents → Contents} (hf : ∀ c, SameStatuses c (f c)) :
    Respects Follows (Tasks.mutate f) :=
  .mutate fun c => (hf c).follows

/-! ## Operations -/

theorem leaves_operation {x : Method α} (hx : Respects Follows x) (c : Contents) :
    Leaves env (atomicDomainOperation x) c (fun _ => Follows c) (Follows c) :=
  leaves_atomicDomainOperation fun h hh => hh ▸ hx.always env h

instance (s : Surroundings) (taskId : String) : Respects Follows (createWorkspace s taskId) := by
  refine .seq inferInstance fun task => ?_
  split
  · split
    · exact .seq (.assign fun _ => rfl) fun _ => inferInstance
    · infer_instance
  · infer_instance

theorem reviewDecision_respects (approverId reason : String) (approval : ApprovalStatus)
    (status : ExternalTaskStatus) (event : TaskEventType) :
    Respects Follows (reviewDecision s taskId approverId reason approval status event) :=
  .seq inferInstance fun _ => .seq inferInstance fun _ => .seq inferInstance fun _ =>
    .seq (.aside fun _ _ => rfl) fun _ => .seq (.assign fun _ => rfl) fun _ => inferInstance

/-- A task is inserted only where there is none. -/
theorem createTask_follows (values : TaskValues) (c : Contents) :
    Leaves env (createTask s values) c (fun _ => Follows c) (Follows c) := by
  refine leaves_atomicDomainOperation fun h hh => ?_
  subst hh
  have hsame : Follows (contentsOf h) (contentsOf h) := Std.Refl.refl _
  rw [Always, meets_outside_bind]
  split
  · rename_i taskId _
    refine meets_read_bind.mpr (meets_raiseIf_bind.mpr ⟨fun _ => hsame, fun hfree => ?_⟩)
    rw [meets_outside_bind]
    split
    · rename_i task _
      rw [meets_mutate_bind]
      refine Respects.after (R := Follows) inferInstance ?_
      rw [contentsOf_write]
      intro other status hstatus
      have hne : taskId ≠ other := by
        rintro rfl
        apply hfree
        rw [← Std.ExtTreeMap.isSome_getElem?_eq_contains]
        cases hfound : (contentsOf h).tasks[taskId]? with
        | some found => rfl
        | none => simp [Contents.statusOf, hfound] at hstatus
      refine ⟨status, ?_, .refl⟩
      rw [← hstatus, Contents.statusOf, Std.ExtTreeMap.getElem?_insert, if_neg (by simpa using hne)]
      rfl
    · exact hsame
  · exact hsame

theorem emitProgress_respects (progress : List CodingAgentProgress) (index : Nat) :
    Respects Follows (emitProgress s taskId index progress) := by
  induction progress generalizing index with
  | nil => exact inferInstanceAs (Respects Follows (pure () : Method Unit))
  | cons item progress ih => exact .seq inferInstance fun _ => ih (index + 1)

theorem recordAnswer_respects (answer : Answer) :
    Respects Follows (recordAnswer s taskId answer) := by
  refine .seq (.aside fun _ _ => rfl) fun _ => .seq (emitProgress_respects ..) fun _ => ?_
  refine .seq (.aside fun _ _ => rfl) fun _ => .seq (.aside fun _ _ => rfl) fun _ => ?_
  refine .seq inferInstance fun _ => ?_
  split
  · exact .assign fun _ => rfl
  · exact .seq (.assign fun _ => rfl) fun _ => inferInstance

theorem executeTask_follows (c : Contents) :
    Leaves env (executeTask s taskId) c (fun _ => Follows c) (Follows c) := by
  have hsame : Follows c c := Std.Refl.refl c
  refine Leaves.bind (leaves_getTask c (fun _ => hsame) fun task _ => ?_)
  have hstart : Leaves env (atomic transactions (startOperation s taskId)) c
      (fun _ c' => Follows c c' ∧ c'.statusOf taskId = some .running) (Follows c) := by
    refine leaves_atomic fun h hh => ?_
    subst hh
    refine Meets.bind ((meets_transition taskId .running).mono ?_ fun _ _ h => h)
    rintro _ h' ⟨hfollows, hrunning⟩
    refine (@Respects.always _ SameStatuses _ ?_ env h').mono (fun _ h₁ hsame => ?_)
      fun _ h₁ hsame => IsTrans.trans _ _ _ hfollows hsame.follows
    · refine .seq (.mutate (sameStatuses_assignTask fun _ => rfl)) fun _ => ?_
      refine .seq inferInstance fun _ => .seq (.mutate fun _ _ => rfl) fun _ => ?_
      refine .seq inferInstance fun _ => .seq (.mutate fun _ _ => rfl) fun _ => inferInstance
    · have hfollows₁ := IsTrans.trans _ _ _ hfollows hsame.follows
      exact ⟨⟨hfollows₁, (hsame taskId).trans hrunning⟩, hfollows₁⟩
  refine Leaves.bind (hstart.mono ?_ fun _ h => h)
  rintro _ c₁ ⟨hfollows, hrunning⟩
  have hlast {block : Method Unit} (hblock : ∀ h, contentsOf h = c₁ →
      Always (Follows c) env block h) :
      Leaves env (atomic transactions block) c₁ (fun _ => Follows c) (Follows c) :=
    leaves_atomic fun h hh => (hblock h hh).mono (fun _ _ hP => ⟨hP, hP⟩) fun _ _ hP => hP
  refine Leaves.bind (leaves_getTask c₁ (fun _ => hfollows) fun task₁ _ => ?_)
  cases consult s taskId task₁.providerId with
  | error error =>
    refine Leaves.bind ((hlast fun h hh => ?_).mono (fun _ c' hP => leaves_raise hP)
      fun _ hP => hP)
    subst hh
    rw [Always]
    refine meets_mutate_bind.mpr (meets_mutate_bind.mpr ?_)
    refine Respects.after (R := Follows) inferInstance ?_
    rw [contentsOf_write, contentsOf_write]
    exact IsTrans.trans _ _ _ hfollows (follows_assignTask hrunning (by decide))
  | ok answer =>
    refine Leaves.bind ((hlast fun h hh => ?_).mono (fun _ c' hP => leaves_pure hP)
      fun _ hP => hP)
    exact (recordAnswer_respects answer).after (hh ▸ hfollows)

/-! ## Every call -/

theorem call_follows (env : Nat → Except TaskError Unit) (s : Surroundings) (call : Call)
    (c : Contents) : Leaves env (call.run s) c (fun _ => Follows c) (Follows c) := by
  cases call with
  | createTask values => exact (createTask_follows values c).map
  | executeTask taskId => exact (executeTask_follows c).map
  | queueTask taskId | requestReview taskId =>
    refine (leaves_operation ?_ c).map
    exact .seq inferInstance fun _ => .seq inferInstance fun _ =>
      .seq (.assign fun _ => rfl) fun _ => inferInstance
  | retryTask taskId =>
    refine (leaves_operation ?_ c).map
    exact .seq inferInstance fun _ => .seq inferInstance fun _ => .read fun _ =>
      .seq inferInstance fun _ => .seq (.assign fun _ => rfl) fun _ => inferInstance
  | approveTask taskId approverId reason =>
    refine (leaves_operation ?_ c).map
    exact .seq inferInstance fun _ => .seq inferInstance fun _ => .seq inferInstance fun _ =>
      .seq inferInstance fun _ => .seq (.aside fun _ _ => rfl) fun _ =>
        .seq (.assign fun _ => rfl) fun _ => inferInstance
  | rejectTask taskId approverId reason | requestChanges taskId approverId reason =>
    exact (leaves_operation (reviewDecision_respects ..) c).map
  | completeTask taskId =>
    refine (leaves_operation ?_ c).map
    exact .seq inferInstance fun _ => .seq (.assign fun _ => rfl) fun _ => inferInstance
  | cancelTask taskId => exact (leaves_operation inferInstance c).map

end Tasks
end Ascos
