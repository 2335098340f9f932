import Ascos.Implementation.Pipeline
import Ascos.Library.Checks
import Ascos.Library.Lineage

/-!
# The implementation gate

Each stage of a run leaves evidence on the task, and a stage is skipped when its evidence is
there.  The invariant says that the evidence of a stored task is that of stages whose last
attempt succeeded, unless the task was stored by a verification or a push that failed.

Main results:

- Theorem `implementation_gate`: as long as new tasks carry no evidence, and a task that
  holds the evidence of a failed verification or push is not run, every service is asked only
  after the last attempt of each earlier stage succeeded, and what is handed over is complete.
-/

namespace Ascos
namespace Implementation

open Ascos.Library
open Ascos.Library.Procedure
open Ascos.Runtime (Timestamp)

/-! ## What the gate asks for -/

/-- What the provider stage said last. -/
def lastImplemented : List Event → Option (Except Error ProviderImplementationResult)
  | [] => none
  | .implemented outcome :: _ => some outcome
  | _ :: events => lastImplemented events

def lastVerified : List Event → Option (Except Error (List VerificationStepResult))
  | [] => none
  | .verified outcome :: _ => some outcome
  | _ :: events => lastVerified events

def lastCommitted : List Event → Option (Except Error CommitResult)
  | [] => none
  | .committed outcome :: _ => some outcome
  | _ :: events => lastCommitted events

def lastPushed : List Event → Option (Option String × Except Error PushResult)
  | [] => none
  | .pushed commitSha outcome :: _ => some (commitSha, outcome)
  | _ :: events => lastPushed events

def RequiredPass (steps : List VerificationStep) (results : List VerificationStepResult) :
    Prop :=
  results.length = steps.length ∧
    ∀ pair ∈ results.zip steps, pair.2.required = true → pair.1.status = .pass

/-- The last attempt of the provider succeeded. -/
def Provided (events : List Event) : Prop :=
  ∃ result, lastImplemented events = some (.ok result)

/-- So did the last verification, in every required step. -/
def Verified (steps : List VerificationStep) (events : List Event) : Prop :=
  Provided events ∧
    ∃ results, lastVerified events = some (.ok results) ∧ RequiredPass steps results

/-- So did the last commit, which made this one. -/
def Committed (steps : List VerificationStep) (events : List Event)
    (commitSha : Option String) : Prop :=
  Verified steps events ∧
    ∃ commit, lastCommitted events = some (.ok commit) ∧ commitSha = some commit.commitSha

/-- So did the last push, which was of this commit. -/
def Pushed (steps : List VerificationStep) (events : List Event)
    (commitSha : Option String) : Prop :=
  Committed steps events commitSha ∧
    ∃ pushed, lastPushed events = some (commitSha, .ok pushed) ∧ pushed.success = true

/-- A service may be asked after these events: no earlier stage is skipped. -/
def Permitted (steps : List VerificationStep) (events : List Event) : Event → Prop
  | .implemented _ => True
  | .verified _ => Provided events
  | .committed _ => Verified steps events
  | .pushed commitSha _ => Committed steps events commitSha
  | .drafted commitSha _ => Pushed steps events commitSha

/-- Every service was asked when it might be. -/
def Sound (steps : List VerificationStep) : List Event → Prop
  | [] => True
  | event :: events => Permitted steps events event ∧ Sound steps events

def HandedOver (steps : List VerificationStep) (task : ManagedProductTask) : Prop :=
  ∃ result commit pushed pr,
    task.providerResult = some result ∧ RequiredPass steps task.verification ∧
    task.commitResult = some commit ∧ task.pushResult = some pushed ∧ pushed.success = true ∧
    task.pullRequest = some pr ∧ pr.draft = true ∧ pr.headSha = some commit.commitSha

/-- What the pipeline has to keep in every world that a run reaches. -/
def Gate (steps : List VerificationStep) (world : World) : Prop :=
  (∀ taskId, Sound steps (history taskId world.log)) ∧
    ∀ taskId task, world.store.load taskId = some task →
      task.state = .waitingForHumanReview ∨ task.state = .completed → HandedOver steps task

/-- A call that does not lead past the gate.  A new task carries no evidence, and a task is
not run while it holds the evidence of a verification or a push that failed. -/
def Careful (world : World) : Call → Prop
  | .request task _ =>
    task.providerResult = none ∧ task.verification = [] ∧ task.commitResult = none ∧
      task.pushResult = none ∧ task.pullRequest = none
  | .run taskId _ => ∀ task, world.store.load taskId = some task →
      ¬(task.state = .verificationFailed ∧ task.verification ≠ []) ∧
        ∀ pushed, task.pushResult = some pushed → pushed.success = true
  | _ => True

/-! ## The invariant -/

/-- The evidence of the stages of a task. -/
structure Evidence where
  workspace : Option WorkspaceResult
  providerResult : Option ProviderImplementationResult
  verification : List VerificationStepResult
  commitResult : Option CommitResult
  commitSha : Option String
  pushResult : Option PushResult
  pullRequest : Option PullRequestResult

def ManagedProductTask.evidence (task : ManagedProductTask) : Evidence :=
  { workspace := task.workspace, providerResult := task.providerResult,
    verification := task.verification, commitResult := task.commitResult,
    commitSha := task.commitSha, pushResult := task.pushResult, pullRequest := task.pullRequest }

/-- The evidence is that of stages whose last attempt succeeded, and that of no stage without
the ones before it. -/
structure Chain (steps : List VerificationStep) (evidence : Evidence) (events : List Event) :
    Prop where
  provided : evidence.providerResult.isSome = true →
    evidence.workspace.isSome = true ∧ Provided events
  verified : evidence.verification ≠ [] → evidence.providerResult.isSome = true ∧
    lastVerified events = some (.ok evidence.verification) ∧
    RequiredPass steps evidence.verification
  committed : ∀ commit, evidence.commitResult = some commit → evidence.verification ≠ [] ∧
    evidence.commitSha = some commit.commitSha ∧ lastCommitted events = some (.ok commit)
  pushed : ∀ pushed, evidence.pushResult = some pushed → evidence.commitResult.isSome = true ∧
    pushed.success = true ∧ lastPushed events = some (evidence.commitSha, .ok pushed)
  drafted : ∀ pr, evidence.pullRequest = some pr → evidence.pushResult.isSome = true ∧
    pr.draft = true ∧ pr.headSha = evidence.commitSha

/-- The state of a task fits its evidence. -/
structure Placed (task : ManagedProductTask) : Prop where
  handedOver : task.state = .waitingForHumanReview ∨ task.state = .completed →
    task.pullRequest.isSome = true
  implementing : task.state = .implementing ∨ task.state = .providerFailed →
    task.providerResult = none
  unverified : task.state = .verificationFailed → task.verification = []

/-- A task that holds the evidence of a verification that failed. -/
def VerificationHeld (steps : List VerificationStep) (task : ManagedProductTask)
    (events : List Event) : Prop :=
  task.state = .verificationFailed ∧ task.verification ≠ [] ∧
    Chain steps { task.evidence with verification := [] } events

/-- A task that holds the evidence of a push that failed. -/
def PushHeld (steps : List VerificationStep) (task : ManagedProductTask)
    (events : List Event) : Prop :=
  task.state = .failed ∧ (∃ pushed, task.pushResult = some pushed ∧ pushed.success = false) ∧
    task.pullRequest = none ∧ Chain steps { task.evidence with pushResult := none } events

def Stored (steps : List VerificationStep) (task : ManagedProductTask) (events : List Event) :
    Prop :=
  (task.state ≠ .requested → task.state ≠ .completed → task.resumeFrom = some task.state) ∧
    ((Placed task ∧ Chain steps task.evidence events) ∨ VerificationHeld steps task events ∨
      PushHeld steps task events)

/-- The invariant of the world. -/
structure Inv (steps : List VerificationStep) (world : World) : Prop where
  stored : ∀ taskId task, world.store.load taskId = some task →
    task.taskId = taskId ∧ Stored steps task (history taskId world.log)
  sound : ∀ taskId, Sound steps (history taskId world.log)

variable {steps : List VerificationStep} {task : ManagedProductTask} {events : List Event}
  {evidence : Evidence} {world : World}

theorem Chain.handedOver (hchain : Chain steps task.evidence events)
    (hdraft : task.pullRequest.isSome = true) : HandedOver steps task := by
  obtain ⟨pr, hpr⟩ := Option.isSome_iff_exists.mp hdraft
  obtain ⟨hpushed, hpr1, hpr2⟩ := hchain.drafted pr hpr
  obtain ⟨pushed, hpush⟩ := Option.isSome_iff_exists.mp hpushed
  obtain ⟨hcommitted, hpush1, -⟩ := hchain.pushed pushed hpush
  obtain ⟨commit, hcommit⟩ := Option.isSome_iff_exists.mp hcommitted
  obtain ⟨hverified, hsha, -⟩ := hchain.committed commit hcommit
  obtain ⟨hprovided, -, hpass⟩ := hchain.verified hverified
  obtain ⟨result, hresult⟩ := Option.isSome_iff_exists.mp hprovided
  exact ⟨result, commit, pushed, pr, hresult, hpass, hcommit, hpush, hpush1, hpr, hpr1,
    hpr2.trans hsha⟩

theorem Inv.gate (hinv : Inv steps world) : Gate steps world := by
  refine ⟨hinv.sound, ?_⟩
  intro taskId task hload hstate
  obtain ⟨-, -, hstored⟩ := hinv.stored taskId task hload
  rcases hstored with ⟨hplaced, hchain⟩ | ⟨hfailed, -⟩ | ⟨hfailed, -⟩
  · exact hchain.handedOver (hplaced.handedOver hstate)
  · rcases hstate with h | h <;> rw [h] at hfailed <;> cases hfailed
  · rcases hstate with h | h <;> rw [h] at hfailed <;> cases hfailed

/-! ## Asking a service -/

/-- The stage of an event has left no evidence. -/
def Untouched (evidence : Evidence) : Event → Prop
  | .implemented _ => evidence.providerResult = none
  | .verified _ => evidence.verification = []
  | .committed _ => evidence.commitResult = none
  | .pushed _ _ => evidence.pushResult = none
  | .drafted _ _ => evidence.pullRequest = none

theorem Chain.cons (hchain : Chain steps evidence events) {event : Event}
    (huntouched : Untouched evidence event) : Chain steps evidence (event :: events) := by
  obtain ⟨hprovided, hverified, hcommitted, hpushed, hdrafted⟩ := hchain
  cases event with
  | implemented outcome =>
    refine ⟨?_, hverified, hcommitted, hpushed, hdrafted⟩
    intro hsome
    rw [huntouched] at hsome
    cases hsome
  | verified outcome =>
    exact ⟨hprovided, fun hsome => absurd huntouched hsome, hcommitted, hpushed, hdrafted⟩
  | committed outcome =>
    refine ⟨hprovided, hverified, ?_, hpushed, hdrafted⟩
    intro commit hcommit
    rw [huntouched] at hcommit
    cases hcommit
  | pushed commitSha outcome =>
    refine ⟨hprovided, hverified, hcommitted, ?_, hdrafted⟩
    intro pushed hpush
    rw [huntouched] at hpush
    cases hpush
  | drafted commitSha outcome =>
    exact ⟨hprovided, hverified, hcommitted, hpushed, hdrafted⟩

theorem history_cons_self (taskId : String) (event : Event) (log : List (String × Event)) :
    history taskId ((taskId, event) :: log) = event :: history taskId log := by
  simp [history]

theorem history_cons_of_ne {taskId other : String} (h : other ≠ taskId) (event : Event)
    (log : List (String × Event)) :
    history taskId ((other, event) :: log) = history taskId log := by
  simp [history, h]

/-- A task at hand whose evidence is a chain. -/
structure Loose (steps : List VerificationStep) (task : ManagedProductTask) (world : World) :
    Prop where
  inv : Inv steps world
  placed : Placed task
  chain : Chain steps task.evidence (history task.taskId world.log)

/-- A task at hand whose evidence is a chain and stored. -/
structure Held (steps : List VerificationStep) (task : ManagedProductTask) (world : World) :
    Prop extends Loose steps task world where
  kept : ∃ stored, world.store.load task.taskId = some stored ∧
    stored.evidence = task.evidence ∧ Placed stored

/-- Only the store and the log matter. -/
theorem Inv.congr {other : World} (hinv : Inv steps world) (hstore : other.store = world.store)
    (hlog : other.log = world.log) : Inv steps other := by
  refine ⟨?_, ?_⟩
  · rw [hstore, hlog]
    exact hinv.stored
  · rw [hlog]
    exact hinv.sound

theorem Loose.congr {other : World} (hloose : Loose steps task world)
    (hstore : other.store = world.store) (hlog : other.log = world.log) :
    Loose steps task other :=
  ⟨hloose.inv.congr hstore hlog, hloose.placed, hlog ▸ hloose.chain⟩

/-- Asking a service whose stage left no evidence, when that is permitted. -/
theorem Held.asked (hheld : Held steps task world) {event : Event}
    (huntouched : Untouched task.evidence event)
    (hpermitted : Permitted steps (history task.taskId world.log) event) :
    Held steps task { world with log := (task.taskId, event) :: world.log } := by
  obtain ⟨kept, hload, hevidence, hplaced⟩ := hheld.kept
  have hchain := hheld.chain.cons huntouched
  rw [← history_cons_self] at hchain
  refine ⟨⟨⟨?_, ?_⟩, hheld.placed, hchain⟩, kept, hload, hevidence, hplaced⟩
  · intro taskId other hother
    obtain ⟨hid, hresume, hstored⟩ := hheld.inv.stored taskId other hother
    refine ⟨hid, hresume, ?_⟩
    by_cases hsame : task.taskId = taskId
    · subst hsame
      have hother' : world.store.load task.taskId = some other := hother
      rw [hload, Option.some_inj] at hother'
      subst hother'
      exact .inl ⟨hplaced, hevidence ▸ hchain⟩
    · rw [history_cons_of_ne hsame]
      exact hstored
  · intro taskId
    by_cases hsame : task.taskId = taskId
    · subst hsame
      rw [history_cons_self]
      exact ⟨hpermitted, hheld.inv.sound _⟩
    · rw [history_cons_of_ne hsame]
      exact hheld.inv.sound taskId

/-! ## Saving a task -/

theorem load_save_iff {store : Table String ManagedProductTask} {value other : ManagedProductTask}
    {taskId : String} : (store.save value.taskId value).load taskId = some other ↔
      (taskId = value.taskId ∧ value = other) ∨
        (taskId ≠ value.taskId ∧ store.load taskId = some other) := by
  rw [Table.load_save]
  by_cases h : taskId = value.taskId
  · simp [h]
  · simp [h]

/-- A save of a task of which the invariant holds keeps the invariant. -/
theorem Inv.saved (hinv : Inv steps world) (value : ManagedProductTask) (ticks : Nat)
    (hstored : Stored steps value (history value.taskId world.log)) :
    Inv steps ⟨world.store.save value.taskId value, world.log, ticks⟩ := by
  refine ⟨?_, hinv.sound⟩
  intro taskId other hother
  obtain ⟨rfl, rfl⟩ | ⟨-, hother⟩ := load_save_iff.mp hother
  · exact ⟨rfl, hstored⟩
  · exact hinv.stored taskId other hother

theorem obeys_save {setting : Setting} {state : ImplementationState}
    {Q : ManagedProductTask → World → Prop} {E : Error → World → Prop}
    (hsaved : ∀ now ticks, Q (saved task state now)
      ⟨world.store.save task.taskId (saved task state now), world.log, ticks⟩)
    (hraised : ∀ e ticks, E e ⟨world.store, world.log, ticks⟩) :
    Obeys (fun _ _ => True) (save setting task state) world Q E := by
  unfold save
  rw [obeys_bind]
  refine ⟨trivial, ?_⟩
  rw [obeys_pure, obeys_bind]
  unfold saveTask
  rw [obeys_attempt]
  constructor
  · intro next hnext
    obtain ⟨-, -, hnext⟩ := Checks.bind_ok_iff.mp hnext
    cases hnext
    exact ⟨trivial, hsaved _ _⟩
  · exact fun e _ => ⟨trivial, hraised e _⟩

/-- What is known of a run that is left early. -/
def Left (steps : List VerificationStep) : Exit → World → Prop
  | .raised task _, world => Loose steps task world
  | .returned _, world => Inv steps world

theorem obeys_holding {α : Type} {x : Procedure World Error α} {Q : α → World → Prop}
    (h : Obeys (fun _ _ => True) x world Q fun _ after => Loose steps task after) :
    Obeys (fun _ _ => True) (holding task x) world Q (Left steps) := by
  unfold holding
  rw [obeys_rescue]
  exact h

theorem obeys_holding_save {setting : Setting} {state : ImplementationState}
    {next : ManagedProductTask} (hloose : Loose steps task world)
    (hchain : Chain steps next.evidence (history next.taskId world.log))
    (hplaced : ∀ now, Placed (saved next state now)) :
    Obeys (fun _ _ => True) (holding task (save setting next state)) world
      (fun value after => (∃ now, value = saved next state now) ∧ Held steps value after)
      (Left steps) := by
  apply obeys_holding
  apply obeys_save
  · intro now ticks
    have hvalue : Chain steps (saved next state now).evidence
        (history next.taskId world.log) := hchain
    refine ⟨⟨now, rfl⟩, ⟨?_, hplaced now, hvalue⟩, ?_⟩
    · exact hloose.inv.saved (saved next state now) ticks
        ⟨fun _ _ => rfl, .inl ⟨hplaced now, hvalue⟩⟩
    · exact ⟨saved next state now, Table.load_save_self, rfl, hplaced now⟩
  · exact fun e ticks => hloose.congr rfl rfl

/-- A return in the middle of the stages, once the failure is saved. -/
theorem obeys_giveUp {α : Type} {setting : Setting} {state : ImplementationState}
    {failed : ManagedProductTask} {detail : String} {Q : α → World → Prop}
    (hloose : Loose steps task world)
    (hstored : ∀ now, Stored steps (saved { failed with failure := some detail } state now)
      (history failed.taskId world.log)) :
    Obeys (fun _ _ => True) (giveUp setting task failed state detail) world Q (Left steps) := by
  unfold giveUp
  rw [obeys_bind]
  apply obeys_holding
  unfold fail
  apply obeys_save
  · intro now ticks
    exact hloose.inv.saved (saved { failed with failure := some detail } state now)
      ticks (hstored now)
  · exact fun e ticks => hloose.congr rfl rfl

/-- Asking a service at the beginning of a stage. -/
theorem obeys_holding_ask {α : Type} {event : Event} {outcome : Except Error α}
    {Q : α → World → Prop} (hheld : Held steps task world)
    (huntouched : Untouched task.evidence event)
    (hpermitted : Permitted steps (history task.taskId world.log) event)
    (hanswer : ∀ answer, outcome = .ok answer →
      Held steps task { world with log := (task.taskId, event) :: world.log } →
        Q answer { world with log := (task.taskId, event) :: world.log }) :
    Obeys (fun _ _ => True) (holding task (ask task.taskId event outcome)) world Q
      (Left steps) := by
  have hasked := hheld.asked huntouched hpermitted
  apply obeys_holding
  refine ⟨trivial, ?_⟩
  rw [obeys_ofExcept]
  exact ⟨fun answer hok => hanswer answer hok hasked, fun _ _ => hasked.toLoose⟩

/-! ## The stages -/

variable {setting : Setting} {answers : Answers}

theorem Placed.of_state {state : ImplementationState} {now : Timestamp}
    (h : state ∉ [.waitingForHumanReview, .completed, .implementing, .providerFailed,
      .verificationFailed]) : Placed (saved task state now) := by
  simp only [List.mem_cons, List.not_mem_nil, or_false, not_or] at h
  obtain ⟨h1, h2, h3, h4, h5⟩ := h
  constructor
  · intro hstate
    rcases hstate with hstate | hstate
    · exact absurd hstate h1
    · exact absurd hstate h2
  · intro hstate
    rcases hstate with hstate | hstate
    · exact absurd hstate h3
    · exact absurd hstate h4
  · exact fun hstate => absurd hstate h5

theorem obeys_prepareStage (hheld : Held steps task world) :
    Obeys (fun _ _ => True) (prepareStage setting answers task) world
      (fun task after => Held steps task after ∧ task.workspace.isSome = true) (Left steps) := by
  unfold prepareStage
  rw [obeys_ite]
  constructor
  · exact fun hworkspace => ⟨hheld, hworkspace⟩
  intro hworkspace
  have hprovider : task.providerResult = none := by
    by_contra hsome
    exact hworkspace (hheld.chain.provided (Option.isSome_iff_ne_none.mpr hsome)).1
  rw [obeys_bind]
  apply (obeys_holding_save hheld.toLoose hheld.chain
    fun now => Placed.of_state (by simp)).mono
  · rintro prepared after ⟨⟨now, rfl⟩, hprepared⟩
    rw [obeys_bind]
    apply obeys_holding
    rw [obeys_ofExcept]
    refine ⟨?_, fun _ _ => hprepared.toLoose⟩
    intro workspace _
    apply (obeys_holding_save hprepared.toLoose _ _).mono
    · rintro value after ⟨⟨now, rfl⟩, hvalue⟩
      exact ⟨hvalue, rfl⟩
    · exact fun _ _ h => h
    · obtain ⟨hprovided, hverified, hcommitted, hpushed, hdrafted⟩ := hprepared.chain
      exact ⟨fun hsome => ⟨rfl, (hprovided hsome).2⟩, hverified, hcommitted, hpushed, hdrafted⟩
    · exact fun now => ⟨by simp [saved], fun _ => hprovider, by simp [saved]⟩
  · exact fun _ _ h => h

theorem obeys_providerStage (hheld : Held steps task world)
    (hworkspace : task.workspace.isSome = true) :
    Obeys (fun _ _ => True) (providerStage setting answers task) world
      (fun task after => Held steps task after ∧ task.providerResult.isSome = true)
      (Left steps) := by
  unfold providerStage
  rw [obeys_ite]
  constructor
  · exact fun hprovider => ⟨hheld, hprovider⟩
  intro hprovider
  have huntouched : Untouched task.evidence (.implemented (acceptedResult answers task)) :=
    Option.not_isSome_iff_eq_none.mp hprovider
  rw [obeys_bind]
  apply obeys_holding_ask hheld huntouched trivial
  intro result hresult hasked
  apply (obeys_holding_save hasked.toLoose _ _).mono
  · rintro value after ⟨⟨now, rfl⟩, hvalue⟩
    exact ⟨hvalue, rfl⟩
  · exact fun _ _ h => h
  · obtain ⟨-, hverified, hcommitted, hpushed, hdrafted⟩ := hasked.chain
    refine ⟨?_, fun hsome => ⟨rfl, (hverified hsome).2⟩, hcommitted, hpushed, hdrafted⟩
    intro _
    refine ⟨hworkspace, result, ?_⟩
    rw [history_cons_self, hresult]
    rfl
  · exact fun now => Placed.of_state (by simp)

theorem requiredPass_of {results : List VerificationStepResult}
    (hnamed : named steps results = true) (hblocked : blocked steps results = false) :
    RequiredPass steps results := by
  simp only [named, Bool.and_eq_true, decide_eq_true_eq] at hnamed
  refine ⟨hnamed.1, ?_⟩
  intro pair hpair hrequired
  by_contra hpass
  have hblocks : blocked steps results = true := by
    unfold blocked
    rw [List.any_eq_true]
    exact ⟨pair, hpair, by simp [hrequired, hpass]⟩
  rw [hblocks] at hblocked
  cases hblocked

theorem ne_nil_of_bound {commitSha : String} {results : List VerificationStepResult}
    (hbound : bound commitSha results = true) : results ≠ [] := by
  rintro rfl
  simp [bound] at hbound

theorem Chain.verificationFailed {failed : ManagedProductTask}
    {results : List VerificationStepResult} {status : VerificationStatus}
    (hchain : Chain steps task.evidence events) (detail : String) (hnone : task.verification = [])
    (hfailed : failed = { task with verification := results, verificationStatus := status })
    (now : Timestamp) :
    Stored steps (saved { failed with failure := some detail } .verificationFailed now)
      events := by
  subst hfailed
  refine ⟨fun _ _ => rfl, ?_⟩
  have hcleared : Chain steps { task.evidence with verification := [] } events := by
    rw [← hnone]
    exact hchain
  by_cases hresults : results = []
  · subst hresults
    exact .inl ⟨⟨by simp [saved], by simp [saved], fun _ => rfl⟩, hcleared⟩
  · exact .inr (.inl ⟨rfl, hresults, hcleared⟩)

theorem obeys_verificationStage {commitSha : String} (hheld : Held steps task world)
    (hsteps : setting.steps = steps) (hprovider : task.providerResult.isSome = true) :
    Obeys (fun _ _ => True) (verificationStage setting answers commitSha task) world
      (fun task after => Held steps task after ∧ task.verification ≠ []) (Left steps) := by
  subst hsteps
  unfold verificationStage
  rw [obeys_ite]
  constructor
  · exact fun hverified => ⟨hheld, hverified⟩
  intro hverified
  have hnone : task.verification = [] := not_not.mp hverified
  have huntouched : Untouched task.evidence (.verified answers.verified) := hnone
  rw [obeys_bind]
  apply obeys_holding_ask hheld huntouched (hheld.chain.provided hprovider).2
  intro results hresults hasked
  have hfailed (status : VerificationStatus) (detail : String) (now : Timestamp) :=
    hasked.chain.verificationFailed detail hnone
      (rfl : { task with verification := results, verificationStatus := status } = _) now
  simp only [obeys_ite]
  refine ⟨fun _ => ?_, fun hnamed => ⟨fun _ => ?_, fun hbound => ⟨fun _ => ?_, fun hblocked => ?_⟩⟩⟩
  · exact obeys_giveUp hasked.toLoose (hfailed task.verificationStatus _)
  · exact obeys_giveUp hasked.toLoose (hfailed task.verificationStatus _)
  · exact obeys_giveUp hasked.toLoose (hfailed .fail _)
  · simp only [Bool.not_eq_false] at hnamed hbound
    simp only [Bool.not_eq_true] at hblocked
    have hne := ne_nil_of_bound hbound
    apply (obeys_holding_save hasked.toLoose _ _).mono
    · rintro value after ⟨⟨now, rfl⟩, hvalue⟩
      exact ⟨hvalue, hne⟩
    · exact fun _ _ h => h
    · obtain ⟨hprovided, -, hcommitted, hpushed, hdrafted⟩ := hasked.chain
      refine ⟨hprovided, ?_, ?_, hpushed, hdrafted⟩
      · intro _
        refine ⟨hprovider, ?_, requiredPass_of hnamed hblocked⟩
        rw [history_cons_self, hresults]
        rfl
      · intro commit hcommit
        exact absurd hnone (hcommitted commit hcommit).1
    · exact fun now => Placed.of_state (by simp)

theorem Chain.verification (hchain : Chain steps evidence events)
    (hverified : evidence.verification ≠ []) : Verified steps events := by
  obtain ⟨hprovider, hlast, hpass⟩ := hchain.verified hverified
  exact ⟨(hchain.provided hprovider).2, _, hlast, hpass⟩

theorem Chain.commit (hchain : Chain steps evidence events)
    (hcommitted : evidence.commitResult.isSome = true) :
    Committed steps events evidence.commitSha := by
  obtain ⟨commit, hcommit⟩ := Option.isSome_iff_exists.mp hcommitted
  obtain ⟨hverified, hsha, hlast⟩ := hchain.committed commit hcommit
  exact ⟨hchain.verification hverified, commit, hlast, hsha⟩

theorem Chain.push (hchain : Chain steps evidence events)
    (hpushed : evidence.pushResult.isSome = true) : Pushed steps events evidence.commitSha := by
  obtain ⟨pushed, hpush⟩ := Option.isSome_iff_exists.mp hpushed
  obtain ⟨hcommitted, hsuccess, hlast⟩ := hchain.pushed pushed hpush
  exact ⟨hchain.commit hcommitted, pushed, hlast, hsuccess⟩

theorem obeys_commitStage (hheld : Held steps task world) (hverified : task.verification ≠ []) :
    Obeys (fun _ _ => True) (commitStage setting answers task) world
      (fun task after => Held steps task after ∧ task.commitResult.isSome = true)
      (Left steps) := by
  unfold commitStage
  rw [obeys_ite]
  constructor
  · exact fun hcommitted => ⟨hheld, hcommitted⟩
  intro hcommitted
  rw [obeys_ite]
  constructor
  · exact fun _ => hheld.toLoose
  intro _
  have huntouched : Untouched task.evidence (.committed answers.committed) :=
    Option.not_isSome_iff_eq_none.mp hcommitted
  rw [obeys_bind]
  apply obeys_holding_ask hheld huntouched (hheld.chain.verification hverified)
  intro commit hcommit hasked
  apply (obeys_holding_save hasked.toLoose _ _).mono
  · rintro value after ⟨⟨now, rfl⟩, hvalue⟩
    exact ⟨hvalue, rfl⟩
  · exact fun _ _ h => h
  · obtain ⟨hprovided, hverifiedChain, -, hpushed, hdrafted⟩ := hasked.chain
    have hpushNone : ∀ pushed, task.pushResult ≠ some pushed := by
      intro pushed hpush
      exact hcommitted (hpushed pushed hpush).1
    refine ⟨hprovided, hverifiedChain, ?_, fun pushed hpush => absurd hpush (hpushNone pushed), ?_⟩
    · intro made hmade
      cases hmade
      refine ⟨hverified, rfl, ?_⟩
      rw [history_cons_self, hcommit]
      rfl
    · intro pr hpr
      obtain ⟨pushed, hpush⟩ := Option.isSome_iff_exists.mp (hdrafted pr hpr).1
      exact absurd hpush (hpushNone pushed)
  · exact fun now => Placed.of_state (by simp)

theorem Chain.pushFailed {pushed : PushResult} {detail : String}
    (hchain : Chain steps task.evidence events) (hnone : task.pushResult = none)
    (hfailed : pushed.success = false) (now : Timestamp) :
    Stored steps (saved { task with pushResult := some pushed, failure := some detail }
      .failed now) events := by
  have hcleared : Chain steps { task.evidence with pushResult := none } events := by
    rw [← hnone]
    exact hchain
  have hdraft : task.pullRequest = none := by
    by_contra hsome
    obtain ⟨pr, hpr⟩ := Option.ne_none_iff_exists'.mp hsome
    have hpush := (hchain.drafted pr hpr).1
    change task.pushResult.isSome = true at hpush
    rw [hnone] at hpush
    cases hpush
  exact ⟨fun _ _ => rfl, .inr (.inr ⟨rfl, ⟨pushed, rfl, hfailed⟩, hdraft, hcleared⟩)⟩

theorem obeys_pushStage (hheld : Held steps task world)
    (hcommitted : task.commitResult.isSome = true) :
    Obeys (fun _ _ => True) (pushStage setting answers task) world
      (fun task after => Held steps task after ∧ task.pushResult.isSome = true)
      (Left steps) := by
  unfold pushStage
  rw [obeys_ite]
  constructor
  · exact fun hpushed => ⟨hheld, hpushed⟩
  intro hpushed
  have hnone : task.pushResult = none := Option.not_isSome_iff_eq_none.mp hpushed
  have huntouched : Untouched task.evidence (.pushed task.commitSha answers.pushed) := hnone
  rw [obeys_bind]
  apply obeys_holding_ask hheld huntouched (hheld.chain.commit hcommitted)
  intro pushed hpush hasked
  rw [obeys_ite]
  constructor
  · intro hfailed
    exact obeys_giveUp hasked.toLoose fun now => hasked.chain.pushFailed hnone hfailed now
  intro hsuccess
  rw [Bool.not_eq_false] at hsuccess
  apply (obeys_holding_save hasked.toLoose _ _).mono
  · rintro value after ⟨⟨now, rfl⟩, hvalue⟩
    exact ⟨hvalue, rfl⟩
  · exact fun _ _ h => h
  · obtain ⟨hprovided, hverified, hcommittedChain, -, hdrafted⟩ := hasked.chain
    refine ⟨hprovided, hverified, hcommittedChain, ?_, ?_⟩
    · intro made hmade
      cases hmade
      refine ⟨hcommitted, hsuccess, ?_⟩
      rw [history_cons_self, hpush]
      rfl
    · intro pr hpr
      exact absurd (hdrafted pr hpr).1 hpushed
  · exact fun now => Placed.of_state (by simp)

theorem obeys_draftStage (hheld : Held steps task world)
    (hpushed : task.pushResult.isSome = true) :
    Obeys (fun _ _ => True) (draftStage answers task) world
      (fun task after => Loose steps task after ∧ task.pullRequest.isSome = true)
      (Left steps) := by
  unfold draftStage
  rw [obeys_bind]
  apply obeys_holding
  rw [obeys_ofExcept]
  refine ⟨?_, fun _ _ => hheld.toLoose⟩
  intro package _
  rw [obeys_ite]
  constructor
  · exact fun hdrafted => ⟨hheld.toLoose, hdrafted⟩
  intro hdrafted
  have huntouched :
      Untouched task.evidence (.drafted task.commitSha (acceptedDraft answers task)) :=
    Option.not_isSome_iff_eq_none.mp hdrafted
  rw [obeys_bind]
  apply obeys_holding_ask hheld huntouched (hheld.chain.push hpushed)
  intro pr hpr hasked
  unfold acceptedDraft at hpr
  simp only [Checks.bind_ok_iff, Checks.guard_bind_ok_iff, Checks.pure_ok_iff] at hpr
  obtain ⟨made, -, hidentity, rfl⟩ := hpr
  simp only [not_or, Bool.not_eq_false, not_not] at hidentity
  refine ⟨⟨hasked.inv, ?_, ?_⟩, rfl⟩
  · exact ⟨fun _ => rfl, hasked.placed.implementing, hasked.placed.unverified⟩
  · obtain ⟨hprovided, hverified, hcommitted, hpushedChain, -⟩ := hasked.chain
    refine ⟨hprovided, hverified, hcommitted, hpushedChain, ?_⟩
    intro other hother
    cases hother
    exact ⟨hpushed, hidentity.1, hidentity.2.2.2⟩

theorem obeys_handOver (hloose : Loose steps task world)
    (hdrafted : task.pullRequest.isSome = true) :
    Obeys (fun _ _ => True) (handOver setting answers task) world
      (fun _ after => Inv steps after) (Left steps) := by
  unfold handOver
  rw [obeys_bind]
  apply (obeys_holding_save hloose _ _).mono
  · rintro value after ⟨⟨now, rfl⟩, hvalue⟩
    dsimp only
    rw [obeys_ite]
    constructor
    · intro _
      rw [obeys_bind]
      apply obeys_holding
      rw [obeys_ofExcept]
      exact ⟨fun _ _ => hvalue.inv, fun _ _ => hvalue.toLoose⟩
    · exact fun _ => hvalue.inv
  · exact fun _ _ h => h
  · exact hloose.chain
  · exact fun now => ⟨fun _ => hdrafted, by simp [saved], by simp [saved]⟩

theorem obeys_stages (hheld : Held steps task world) (hsteps : setting.steps = steps) :
    Obeys (fun _ _ => True) (stages setting answers task) world
      (fun _ after => Inv steps after) (Left steps) := by
  unfold stages
  rw [obeys_bind]
  apply (obeys_prepareStage hheld).mono _ fun _ _ h => h
  rintro task1 world1 ⟨hheld1, hworkspace⟩
  rw [obeys_bind]
  apply (obeys_providerStage hheld1 hworkspace).mono _ fun _ _ h => h
  rintro task2 world2 ⟨hheld2, hprovider⟩
  rw [obeys_bind]
  apply (obeys_verificationStage hheld2 hsteps hprovider).mono _ fun _ _ h => h
  rintro task3 world3 ⟨hheld3, hverified⟩
  rw [obeys_bind]
  apply (obeys_commitStage hheld3 hverified).mono _ fun _ _ h => h
  rintro task4 world4 ⟨hheld4, hcommitted⟩
  rw [obeys_bind]
  apply (obeys_pushStage hheld4 hcommitted).mono _ fun _ _ h => h
  rintro task5 world5 ⟨hheld5, hpushed⟩
  rw [obeys_bind]
  apply (obeys_draftStage hheld5 hpushed).mono _ fun _ _ h => h
  rintro task6 world6 ⟨hloose, hdrafted⟩
  exact obeys_handOver hloose hdrafted

/-- The state in which a raised exception leaves a task fits its evidence. -/
theorem Placed.failed (hplaced : Placed task) (now : Timestamp) (detail : String) :
    Placed (saved { task with failure := some detail } (failedState task.state) now) := by
  unfold failedState
  by_cases himplementing : task.state = .implementing
  · rw [if_pos himplementing]
    exact ⟨by simp [saved], fun _ => hplaced.implementing (.inl himplementing), by simp [saved]⟩
  · rw [if_neg himplementing]
    by_cases hcreating : task.state = .creatingPr
    · rw [if_pos hcreating]
      exact Placed.of_state (by simp)
    · rw [if_neg hcreating]
      exact Placed.of_state (by simp)

theorem obeys_settle {exit : Exit} (hleft : Left steps exit world) :
    Obeys (fun _ _ => True) (settle setting exit) world (fun _ after => Inv steps after)
      (fun _ after => Inv steps after) := by
  cases exit with
  | raised task error =>
    unfold settle fail
    apply obeys_save
    · intro now ticks
      exact hleft.inv.saved
        (saved { task with failure := some error.message } (failedState task.state) now)
        ticks ⟨fun _ _ => rfl, .inl ⟨hleft.placed.failed now error.message, hleft.chain⟩⟩
    · exact fun e ticks => hleft.inv.congr rfl rfl
  | returned task => exact hleft

/-! ## The operations -/

theorem obeys_loadTask {taskId : String} {Q : Option ManagedProductTask → World → Prop}
    {E : Error → World → Prop} (h : Q (world.store.load taskId) world) :
    Obeys (fun _ _ => True) (loadTask taskId) world Q E :=
  ⟨trivial, h⟩

/-- The clock does not matter. -/
theorem obeys_utcNow {clock : Nat → Timestamp} {Q : Timestamp → World → Prop}
    {E : Error → World → Prop} (h : ∀ now ticks, Q now ⟨world.store, world.log, ticks⟩) :
    Obeys (fun _ _ => True) (utcNow clock) world Q E :=
  ⟨trivial, h _ _⟩

theorem obeys_saveTask {value : ManagedProductTask} {Q : Unit → World → Prop}
    (hinv : Inv steps world) (hstored : Stored steps value (history value.taskId world.log))
    (hQ : ∀ after, Inv steps after → Q () after) :
    Obeys (fun _ _ => True) (saveTask value) world Q (fun _ after => Inv steps after) := by
  unfold saveTask
  rw [obeys_attempt]
  constructor
  · intro next hnext
    obtain ⟨-, -, hnext⟩ := Checks.bind_ok_iff.mp hnext
    cases hnext
    exact ⟨trivial, hQ _ (hinv.saved value world.ticks hstored)⟩
  · exact fun e _ => ⟨trivial, hinv⟩

theorem obeys_run {taskId : String} (hinv : Inv steps world) (hsteps : setting.steps = steps)
    (hcareful : Careful world (.run taskId answers)) :
    Obeys (fun _ _ => True) (run setting answers taskId) world (fun _ after => Inv steps after)
      (fun _ after => Inv steps after) := by
  unfold run
  rw [obeys_bind]
  apply obeys_loadTask
  cases hload : world.store.load taskId with
  | none => exact hinv
  | some task =>
    dsimp only
    rw [obeys_ite]
    refine ⟨fun _ => hinv, fun _ => ?_⟩
    rw [obeys_rescue]
    obtain ⟨rfl, hresume, hstored⟩ := hinv.stored taskId task hload
    obtain ⟨hverification, hpush⟩ := hcareful task hload
    have hheld : Held steps task world := by
      rcases hstored with ⟨hplaced, hchain⟩ | ⟨hstate, hne, -⟩ | ⟨-, ⟨pushed, hpushed, hfailed⟩, -⟩
      · exact ⟨⟨hinv, hplaced, hchain⟩, task, hload, rfl, hplaced⟩
      · exact absurd ⟨hstate, hne⟩ hverification
      · rw [hpush pushed hpushed] at hfailed
        cases hfailed
    exact (obeys_stages hheld hsteps).mono (fun _ _ h => h) fun _ _ hleft => obeys_settle hleft

/-- A new task without evidence. -/
theorem Chain.empty (workspace : Option WorkspaceResult) (commitSha : Option String) :
    Chain steps ⟨workspace, none, [], none, commitSha, none, none⟩ events := by
  constructor <;> simp

theorem obeys_request {checked : Except Error Unit} (hinv : Inv steps world)
    (hcareful : Careful world (.request task checked)) :
    Obeys (fun _ _ => True) (request setting checked task) world
      (fun _ after => Inv steps after) (fun _ after => Inv steps after) := by
  obtain ⟨hprovider, hverification, hcommit, hpush, hdraft⟩ := hcareful
  have hchain : Chain steps task.evidence (history task.taskId world.log) := by
    have hempty : Chain steps ⟨task.workspace, none, [], none, task.commitSha, none, none⟩
        (history task.taskId world.log) := Chain.empty task.workspace task.commitSha
    unfold ManagedProductTask.evidence
    rw [hprovider, hverification, hcommit, hpush, hdraft]
    exact hempty
  have hsave (hstate : task.state = .requested) :
      Obeys (fun _ _ => True) (saveTask task >>= fun _ => pure task) world
        (fun _ after => Inv steps after) (fun _ after => Inv steps after) := by
    rw [obeys_bind]
    apply obeys_saveTask hinv
    · refine ⟨fun h => absurd hstate h, .inl ⟨?_, hchain⟩⟩
      constructor <;> simp [hstate]
    · exact fun after hafter => hafter
  unfold request
  rw [obeys_ite]
  refine ⟨fun _ => ?_, fun _ => ?_⟩
  · exact hinv
  rw [obeys_bind]
  apply obeys_loadTask
  dsimp only
  rw [obeys_ite]
  refine ⟨fun _ => hinv, fun _ => ?_⟩
  rw [obeys_ite]
  refine ⟨fun _ => hinv, fun hstate => ?_⟩
  have hrequested := not_not.mp hstate
  rw [obeys_ite]
  refine ⟨fun _ => ?_, fun _ => hsave hrequested⟩
  rw [obeys_ite]
  refine ⟨fun _ => hinv, fun _ => ?_⟩
  rw [obeys_bind, obeys_ofExcept]
  exact ⟨fun _ _ => hsave hrequested, fun _ _ => hinv⟩

/-- What `recover` saves: the state stays, and with the evidence of a verification that failed
the task is no longer held by it. -/
theorem Stored.recovered {left : ManagedProductTask} (hstored : Stored steps task events)
    (hcleared : cleared task = .ok left) (now : Timestamp) :
    Stored steps (recovered left now) events := by
  obtain ⟨hresume, hstored⟩ := hstored
  cases hstate : task.state with
  | verificationFailed =>
    have hfrom := hresume (by simp [hstate]) (by simp [hstate])
    simp only [cleared, hstate, Checks.pure_ok_iff] at hcleared
    subst hcleared
    have hsame : (task.resumeFrom.getD .requested) = .verificationFailed := by
      rw [hfrom, hstate]
      rfl
    refine ⟨?_, .inl ⟨⟨?_, ?_, fun _ => rfl⟩, ?_⟩⟩
    · intro _ _
      simp [Implementation.recovered, hfrom]
    · simp [Implementation.recovered, hsame]
    · simp [Implementation.recovered, hsame]
    · rcases hstored with ⟨hplaced, hchain⟩ | ⟨-, -, hchain⟩ | ⟨hfailed, -⟩
      · have hnone := hplaced.unverified hstate
        have hleft : Chain steps { task.evidence with verification := [] } events := by
          rw [← hnone]
          exact hchain
        exact hleft
      · exact hchain
      · rw [hstate] at hfailed
        cases hfailed
  | providerFailed =>
    have hfrom := hresume (by simp [hstate]) (by simp [hstate])
    simp only [cleared, hstate, Checks.pure_ok_iff] at hcleared
    subst hcleared
    have hsame : (task.resumeFrom.getD .requested) = .providerFailed := by
      rw [hfrom, hstate]
      rfl
    rcases hstored with ⟨hplaced, hchain⟩ | ⟨hfailed, -⟩ | ⟨hfailed, -⟩
    · have hnone := hplaced.implementing (.inr hstate)
      have hleft : Chain steps { task.evidence with providerResult := none } events := by
        rw [← hnone]
        exact hchain
      refine ⟨?_, .inl ⟨⟨?_, fun _ => rfl, ?_⟩, ?_⟩⟩
      · intro _ _
        simp [Implementation.recovered, hfrom]
      · simp [Implementation.recovered, hsame]
      · simp [Implementation.recovered, hsame]
      · exact hleft
    · rw [hstate] at hfailed
      cases hfailed
    · rw [hstate] at hfailed
      cases hfailed
  | prFailed =>
    have hfrom := hresume (by simp [hstate]) (by simp [hstate])
    simp only [cleared, hstate, Checks.pure_ok_iff] at hcleared
    subst hcleared
    have hsame : (task.resumeFrom.getD .requested) = .prFailed := by
      rw [hfrom, hstate]
      rfl
    rcases hstored with ⟨hplaced, hchain⟩ | ⟨hfailed, -⟩ | ⟨hfailed, -⟩
    · obtain ⟨hprovided, hverified, hcommitted, hpushed, -⟩ := hchain
      refine ⟨?_, .inl ⟨⟨?_, ?_, ?_⟩, hprovided, hverified, hcommitted, hpushed, ?_⟩⟩
      · intro _ _
        simp [Implementation.recovered, hfrom]
      · simp [Implementation.recovered, hsame]
      · simp [Implementation.recovered, hsame]
      · simp [Implementation.recovered, hsame]
      · intro pr hpr
        cases hpr
    · rw [hstate] at hfailed
      cases hfailed
    · rw [hstate] at hfailed
      cases hfailed
  | failed =>
    have hfrom := hresume (by simp [hstate]) (by simp [hstate])
    simp only [cleared, hstate, Checks.pure_ok_iff] at hcleared
    subst hcleared
    have hsame : (task.resumeFrom.getD .requested) = .failed := by
      rw [hfrom, hstate]
      rfl
    refine ⟨?_, ?_⟩
    · intro _ _
      simp [Implementation.recovered, hfrom]
    rcases hstored with ⟨hplaced, hchain⟩ | ⟨hfailed, -⟩ | ⟨-, hpushed, hdraft, hchain⟩
    · refine .inl ⟨⟨?_, ?_, ?_⟩, hchain⟩
      · simp [Implementation.recovered, hsame]
      · simp [Implementation.recovered, hsame]
      · simp [Implementation.recovered, hsame]
    · rw [hstate] at hfailed
      cases hfailed
    · exact .inr (.inr ⟨hsame, hpushed, hdraft, hchain⟩)
  | _ =>
    simp only [cleared, hstate] at hcleared
    cases hcleared

theorem obeys_recover {taskId : String} (hinv : Inv steps world) :
    Obeys (fun _ _ => True) (recover setting taskId) world (fun _ after => Inv steps after)
      (fun _ after => Inv steps after) := by
  unfold recover
  rw [obeys_bind]
  apply obeys_loadTask
  cases hload : world.store.load taskId with
  | none => exact hinv
  | some task =>
    dsimp only
    rw [obeys_bind, obeys_ofExcept]
    refine ⟨?_, fun _ _ => hinv⟩
    intro left hcleared
    rw [obeys_bind]
    apply obeys_utcNow
    intro now ticks
    rw [obeys_bind]
    obtain ⟨rfl, hstored⟩ := hinv.stored taskId task hload
    have hafter : Inv steps ⟨world.store, world.log, ticks⟩ := hinv.congr rfl rfl
    have hid : left.taskId = task.taskId := by
      unfold cleared at hcleared
      split at hcleared <;> cases hcleared <;> rfl
    apply obeys_saveTask hafter
    · change Stored steps (recovered left now) (history left.taskId world.log)
      rw [hid]
      exact hstored.recovered hcleared now
    · exact fun after hafter => hafter

theorem obeys_recordHumanApproval {taskId reviewer : String} {allowSelfApproval : Bool}
    {cleaned : Except Error Unit} (hinv : Inv steps world) :
    Obeys (fun _ _ => True) (recordHumanApproval setting cleaned taskId reviewer
      allowSelfApproval) world (fun _ after => Inv steps after)
      (fun _ after => Inv steps after) := by
  unfold recordHumanApproval
  rw [obeys_bind]
  apply obeys_loadTask
  cases hload : world.store.load taskId with
  | none => exact hinv
  | some task =>
    dsimp only
    rw [obeys_bind, obeys_ofExcept]
    refine ⟨?_, fun _ _ => hinv⟩
    intro _ happrovable
    have hstate : task.state = .waitingForHumanReview := by
      unfold approvable at happrovable
      simp only [Checks.guard_bind_ok_iff] at happrovable
      exact not_not.mp happrovable.1
    rw [obeys_bind]
    apply obeys_utcNow
    intro updatedAt ticks
    rw [obeys_bind]
    apply obeys_utcNow
    intro completedAt ticks'
    dsimp only
    rw [obeys_bind]
    obtain ⟨rfl, -, hstored⟩ := hinv.stored taskId task hload
    have hafter : Inv steps ⟨world.store, world.log, ticks'⟩ := hinv.congr rfl rfl
    apply obeys_saveTask hafter
    · refine ⟨fun _ h => absurd rfl h, .inl ?_⟩
      rcases hstored with ⟨hplaced, hchain⟩ | ⟨hfailed, -⟩ | ⟨hfailed, -⟩
      · refine ⟨⟨fun _ => hplaced.handedOver (.inl hstate), ?_, ?_⟩, hchain⟩
        · simp [completed]
        · simp [completed]
      · rw [hstate] at hfailed
        cases hfailed
      · rw [hstate] at hfailed
        cases hfailed
    · intro after hinvAfter
      rw [obeys_ite]
      refine ⟨fun _ => ?_, fun _ => hinvAfter⟩
      rw [obeys_bind, obeys_ofExcept]
      exact ⟨fun _ _ => hinvAfter, fun _ _ => hinvAfter⟩

/-! ## Runs of calls -/

/-- A careful call keeps the invariant. -/
theorem Inv.step (hinv : Inv setting.steps world) {call : Call} (hcareful : Careful world call) :
    Inv setting.steps (step setting world call) := by
  have hobeys : Obeys (fun _ _ => True) (call.perform setting) world
      (fun _ after => Inv setting.steps after) (fun _ after => Inv setting.steps after) := by
    cases call with
    | request task checked => exact obeys_request hinv hcareful
    | run taskId answers => exact obeys_run hinv rfl hcareful
    | recover taskId => exact obeys_recover hinv
    | recordHumanApproval taskId reviewer allowSelfApproval cleaned =>
        exact obeys_recordHumanApproval hinv
  obtain ⟨hok, herror⟩ := hobeys.run
  unfold Implementation.step
  cases hrun : (call.perform setting).run world with
  | mk result after =>
    cases result with
    | ok task => exact hok task after hrun
    | error e => exact herror e after hrun

/-- In every world that careful calls lead to, no stage was skipped, and what is handed over
is complete. -/
theorem implementation_gate (setting : Setting) (calls : List Call)
    (hcareful : AllMeet (step setting) Careful .initial calls) :
    ∀ world ∈ calls.scanl (step setting) .initial, Gate setting.steps world := by
  have hinitial : Inv setting.steps .initial := by
    constructor
    · intro taskId task hload
      cases hload
    · exact fun _ => trivial
  intro world hworld
  exact (inv_of_allMeet (Inv setting.steps) (fun _ _ hinv hmeets => hinv.step hmeets) calls
    .initial hinitial hcareful world hworld).gate

/-! ## A task from its request to its review -/

/-- A pipeline with one required verification step. -/
def pytestSetting : Setting where
  providerId := "codex"
  steps := [⟨"pytest", ["python", "-m", "pytest"], true, 300⟩]
  clock := fun n => n
  casefold := id

def newTask : ManagedProductTask where
  taskId := "task"
  projectId := "project"
  repository := "repository"
  branch := "work"
  expectedCommitSha := "0123456789012345678901234567890123456789"
  milestone := "milestone"
  implementationRequest := "request"
  provider := "codex"
  createdAt := 0
  updatedAt := 0

/-- Services of which all but the verification do what they are asked to. -/
def answersWith (status : VerificationStatus) : Answers where
  prepared := .ok ⟨"w", "/w", "repository", "work", "base", true, 0, .active⟩
  implemented := .ok ⟨"run", "done", ["a.py"], [], []⟩
  inside := fun _ => true
  verified := .ok [⟨"pytest", status, ["python", "-m", "pytest"], some 0, "", 0, 0, "base", "d"⟩]
  committed := .ok ⟨"head", "Implement milestone", ["a.py"]⟩
  pushed := .ok ⟨true, "work", some "origin", some "origin/work", none, "", some "head", false⟩
  drafted := .ok ⟨1, "url", true, [], some "main", some "work", some "head"⟩
  cleaned := .ok ()

/-- A task whose first verification fails. -/
def recoveredRun : List Call :=
  [.request newTask (.ok ()), .run "task" (answersWith .fail), .recover "task",
    .run "task" (answersWith .pass), .recordHumanApproval "task" "bob" false (.ok ())]

theorem implementation_gate_recovered :
    AllMeet (step pytestSetting) Careful .initial recoveredRun ∧
      ∀ world ∈ recoveredRun.scanl (step pytestSetting) .initial,
        Gate pytestSetting.steps world := by
  have hcareful : AllMeet (step pytestSetting) Careful .initial recoveredRun := by
    refine ⟨⟨rfl, rfl, rfl, rfl, rfl⟩, ?_, trivial, ?_, trivial, trivial⟩
    · intro task hload
      have hnew : (((recoveredRun.take 1).foldl (step pytestSetting) .initial).store.load
          "task") = some newTask := rfl
      cases Option.some_inj.mp (hnew.symm.trans hload)
      exact ⟨by decide, by simp [newTask]⟩
    · intro task hload
      have hstored : (((recoveredRun.take 3).foldl (step pytestSetting) .initial).store.load
          "task").map (fun task => (task.verification, task.pushResult)) = some ([], none) := rfl
      change ((recoveredRun.take 3).foldl (step pytestSetting) .initial).store.load "task" =
        some task at hload
      rw [hload, Option.map_some, Option.some_inj, Prod.mk.injEq] at hstored
      exact ⟨fun h => h.2 hstored.1, by simp [hstored.2]⟩
  exact ⟨hcareful, implementation_gate pytestSetting recoveredRun hcareful⟩

/-- A task whose verification failed is run again, without having been recovered. -/
def skippedRun : List Call :=
  [.request newTask (.ok ()), .run "task" (answersWith .fail), .run "task" (answersWith .fail)]

/-- Running a task again whose verification failed commits it. -/
theorem not_implementation_gate : ¬∀ (setting : Setting) (calls : List Call),
    ∀ world ∈ calls.scanl (step setting) .initial, Gate setting.steps world := by
  intro h
  have hgate := h pytestSetting skippedRun _ (foldl_mem_scanl _ _ _)
  obtain ⟨hsound, -⟩ := hgate
  have hevents : history "task" (skippedRun.foldl (step pytestSetting) .initial).log =
      [.drafted (some "head") (answersWith .fail).drafted,
        .pushed (some "head") (answersWith .fail).pushed,
        .committed (answersWith .fail).committed, .verified (answersWith .fail).verified,
        .implemented (answersWith .fail).implemented] := rfl
  have htask := hsound "task"
  rw [hevents] at htask
  obtain ⟨-, -, ⟨-, results, hlast, -, hpass⟩, -⟩ := htask
  cases Option.some_inj.mp hlast
  have hfailed := hpass _ (List.mem_singleton_self _) rfl
  cases hfailed

end Implementation
end Ascos
