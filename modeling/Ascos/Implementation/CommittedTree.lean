import Ascos.Implementation.Repository

/-!
# What is verified and what is committed

A run of the pipeline verifies a workspace and commits it later.  Between the two, and while a
step runs, the workspace may change; the digest that a result records is that of the tracked
files only, and the commit is not compared with it.

Main results:

- Theorem `obeys_stages_adds`: a commit is asked for only after a verification that the run
  has accepted, or that the task held before.
- Theorem `committed_is_verified_iff`: when the tree of a commit is the one that was
  verified and recorded.
-/

namespace Ascos
namespace Implementation

open Ascos.Library
open Ascos.Library.Procedure
open Ascos.Runtime (Timestamp isBlank isSpace)

/-! ## What a run asks for -/

def Event.isCommit : Event → Bool
  | .committed _ => true
  | _ => false

def added (before after : World) : List (String × Event) :=
  after.log.take (after.log.length - before.log.length)

/-- A run asked for a commit. -/
def asksCommit (before after : World) : Bool :=
  (added before after).any fun entry => entry.2.isCommit

/-- A step adds no event, or one with a property. -/
def Adds (P : Event → Prop) (before after : World) : Prop :=
  after.log = before.log ∨ ∃ taskId event, after.log = (taskId, event) :: before.log ∧ P event

/-- The events of a run whose steps add only events with a property. -/
theorem forall_added {ε α : Type} {P : Event → Prop} {x : Procedure World ε α} {before : World}
    {Q : α → World → Prop} {E : ε → World → Prop} (h : Obeys (Adds P) x before Q E) :
    ∀ entry ∈ added before (x.run before).2, P entry.2 := by
  have hevents : ∃ events, (x.run before).2.log = events ++ before.log ∧
      ∀ entry ∈ events, P entry.2 := by
    refine h.final (P := fun world => ∃ events, world.log = events ++ before.log ∧
      ∀ entry ∈ events, P entry.2) ⟨[], rfl, by simp⟩ ?_
    rintro t u ⟨events, hlog, hall⟩ (hsame | ⟨taskId, event, hcons, hevent⟩)
    · exact ⟨events, hsame.trans hlog, hall⟩
    · refine ⟨(taskId, event) :: events, ?_, List.forall_mem_cons.mpr ⟨hevent, hall⟩⟩
      rw [hcons, hlog]
      rfl
  obtain ⟨events, hlog, hall⟩ := hevents
  unfold added
  rw [hlog, List.length_append, Nat.add_sub_cancel, List.take_left]
  exact hall

section Stages

variable {setting : Setting} {answers : Answers} {task : ManagedProductTask} {world : World}
  {P : Event → Prop} {state : ImplementationState}

theorem adds_save {E : Error → World → Prop} {Q : ManagedProductTask → World → Prop}
    (hsaved : ∀ now after, Q (saved task state now) after) (hraised : ∀ e after, E e after) :
    Obeys (Adds P) (save setting task state) world Q E := by
  unfold save
  rw [obeys_bind]
  refine ⟨.inl rfl, ?_⟩
  rw [obeys_pure, obeys_bind]
  unfold saveTask
  rw [obeys_attempt]
  constructor
  · intro next hnext
    obtain ⟨-, -, hnext⟩ := Checks.bind_ok_iff.mp hnext
    cases hnext
    exact ⟨.inl rfl, hsaved _ _⟩
  · exact fun e _ => ⟨.inl rfl, hraised e _⟩

theorem adds_holding {α : Type} {x : Procedure World Error α} {Q : α → World → Prop}
    (h : Obeys (Adds P) x world Q fun _ _ => True) :
    Obeys (Adds P) (holding task x) world Q fun _ _ => True := by
  unfold holding
  rw [obeys_rescue]
  exact h

theorem adds_ask {α : Type} {taskId : String} {event : Event} {outcome : Except Error α}
    {Q : α → World → Prop} (hevent : P event)
    (hanswer : ∀ answer after, outcome = .ok answer → Q answer after) :
    Obeys (Adds P) (holding task (ask taskId event outcome)) world Q fun _ _ => True := by
  apply adds_holding
  refine ⟨.inr ⟨taskId, event, rfl, hevent⟩, ?_⟩
  rw [obeys_ofExcept]
  exact ⟨fun answer hok => hanswer answer _ hok, fun _ _ => trivial⟩

theorem adds_giveUp {α : Type} {failed : ManagedProductTask} {detail : String}
    {Q : α → World → Prop} :
    Obeys (Adds P) (giveUp setting task failed state detail) world Q fun _ _ => True := by
  unfold giveUp
  rw [obeys_bind]
  apply adds_holding
  exact adds_save (fun _ _ => trivial) fun _ _ => trivial

/-- The verification that a run goes on with was there before, or was accepted. -/
def Accepted (setting : Setting) (answers : Answers) (task : ManagedProductTask) : Prop :=
  task.verification ≠ [] ∨ ∃ results, answers.verified = .ok results ∧
    blocked setting.steps results = false

/-- The events that a run adds: a commit only after an accepted verification. -/
def CommitsAccepted (setting : Setting) (answers : Answers) (task : ManagedProductTask) :
    Event → Prop
  | .committed _ => Accepted setting answers task
  | _ => True

variable {first : ManagedProductTask}

theorem adds_prepareStage :
    Obeys (Adds (CommitsAccepted setting answers first)) (prepareStage setting answers task) world
      (fun value _ => value.verification = task.verification) fun _ _ => True := by
  unfold prepareStage
  rw [obeys_ite]
  refine ⟨fun _ => rfl, fun _ => ?_⟩
  rw [obeys_bind]
  apply adds_holding
  apply adds_save _ fun _ _ => trivial
  intro now after
  rw [obeys_bind]
  apply adds_holding
  rw [obeys_ofExcept]
  refine ⟨fun workspace _ => ?_, fun _ _ => trivial⟩
  apply adds_holding
  exact adds_save (fun _ _ => rfl) fun _ _ => trivial

theorem adds_providerStage :
    Obeys (Adds (CommitsAccepted setting answers first)) (providerStage setting answers task) world
      (fun value _ => value.verification = task.verification) fun _ _ => True := by
  unfold providerStage
  rw [obeys_ite]
  refine ⟨fun _ => rfl, fun _ => ?_⟩
  rw [obeys_bind]
  apply adds_ask trivial
  intro result after _
  apply adds_holding
  exact adds_save (fun _ _ => rfl) fun _ _ => trivial

theorem adds_verificationStage {commitSha : String}
    (hsame : task.verification = first.verification) :
    Obeys (Adds (CommitsAccepted setting answers first))
      (verificationStage setting answers commitSha task) world
      (fun _ _ => Accepted setting answers first) fun _ _ => True := by
  unfold verificationStage
  rw [obeys_ite]
  refine ⟨fun hverified => .inl (hsame ▸ hverified), fun _ => ?_⟩
  rw [obeys_bind]
  apply adds_ask trivial
  intro results after hresults
  simp only [obeys_ite]
  refine ⟨fun _ => adds_giveUp, fun _ => ⟨fun _ => adds_giveUp, fun _ =>
    ⟨fun _ => adds_giveUp, fun hblocked => ?_⟩⟩⟩
  apply adds_holding
  exact adds_save (fun _ _ => .inr ⟨results, hresults, Bool.eq_false_of_not_eq_true hblocked⟩)
    fun _ _ => trivial

theorem adds_commitStage (haccepted : Accepted setting answers first) :
    Obeys (Adds (CommitsAccepted setting answers first)) (commitStage setting answers task) world
      (fun _ _ => True) fun _ _ => True := by
  unfold commitStage
  simp only [obeys_ite]
  refine ⟨fun _ => trivial, fun _ => ⟨fun _ => trivial, fun _ => ?_⟩⟩
  rw [obeys_bind]
  apply adds_ask haccepted
  intro commit after _
  apply adds_holding
  exact adds_save (fun _ _ => trivial) fun _ _ => trivial

theorem adds_pushStage :
    Obeys (Adds (CommitsAccepted setting answers first)) (pushStage setting answers task) world
      (fun _ _ => True) fun _ _ => True := by
  unfold pushStage
  rw [obeys_ite]
  refine ⟨fun _ => trivial, fun _ => ?_⟩
  rw [obeys_bind]
  apply adds_ask trivial
  intro pushed after _
  rw [obeys_ite]
  refine ⟨fun _ => adds_giveUp, fun _ => ?_⟩
  apply adds_holding
  exact adds_save (fun _ _ => trivial) fun _ _ => trivial

theorem adds_draftStage :
    Obeys (Adds (CommitsAccepted setting answers first)) (draftStage answers task) world
      (fun _ _ => True) fun _ _ => True := by
  unfold draftStage
  rw [obeys_bind]
  apply adds_holding
  rw [obeys_ofExcept]
  refine ⟨fun package _ => ?_, fun _ _ => trivial⟩
  rw [obeys_ite]
  refine ⟨fun _ => trivial, fun _ => ?_⟩
  rw [obeys_bind]
  exact adds_ask trivial fun _ _ _ => trivial

theorem adds_handOver :
    Obeys (Adds (CommitsAccepted setting answers first)) (handOver setting answers task) world
      (fun _ _ => True) fun _ _ => True := by
  unfold handOver
  rw [obeys_bind]
  apply adds_holding
  apply adds_save _ fun _ _ => trivial
  intro now after
  dsimp only
  rw [obeys_ite]
  refine ⟨fun _ => ?_, fun _ => trivial⟩
  rw [obeys_bind]
  apply adds_holding
  rw [obeys_ofExcept]
  exact ⟨fun _ _ => trivial, fun _ _ => trivial⟩

theorem obeys_stages_adds :
    Obeys (Adds (CommitsAccepted setting answers task)) (stages setting answers task) world
      (fun _ _ => True) fun _ _ => True := by
  unfold stages
  rw [obeys_bind]
  apply adds_prepareStage.mono _ fun _ _ h => h
  intro prepared world1 hprepared
  rw [obeys_bind]
  apply adds_providerStage.mono _ fun _ _ h => h
  intro provided world2 hprovided
  rw [obeys_bind]
  apply (adds_verificationStage (hprovided.trans hprepared)).mono _ fun _ _ h => h
  intro verified world3 haccepted
  rw [obeys_bind]
  apply (adds_commitStage haccepted).mono _ fun _ _ h => h
  intro committed world4 _
  rw [obeys_bind]
  apply adds_pushStage.mono _ fun _ _ h => h
  intro pushed world5 _
  rw [obeys_bind]
  apply adds_draftStage.mono _ fun _ _ h => h
  intro drafted world6 _
  exact adds_handOver

theorem accepted_of_asksCommit {taskId : String} (hload : world.store.load taskId = some task)
    (h : asksCommit world ((run setting answers taskId).run world).2 = true) :
    Accepted setting answers task := by
  have hobeys : Obeys (Adds (CommitsAccepted setting answers task)) (run setting answers taskId)
      world (fun _ _ => True) fun _ _ => True := by
    unfold run loadTask
    rw [obeys_bind, obeys_query]
    refine ⟨.inl rfl, ?_⟩
    rw [obeys_ok, hload]
    dsimp only
    rw [obeys_ite]
    refine ⟨fun _ => trivial, fun _ => ?_⟩
    rw [obeys_rescue]
    apply obeys_stages_adds.mono fun _ _ h => h
    intro exit after _
    cases exit with
    | raised task error => exact adds_save (fun _ _ => trivial) fun _ _ => trivial
    | returned task => trivial
  obtain ⟨⟨taskId, event⟩, hmem, hcommit⟩ := List.any_eq_true.mp h
  have hevent := forall_added hobeys _ hmem
  cases event <;> first | exact hevent | cases hcommit

end Stages

/-! ## Sessions -/

/-- What decides a run besides the stored task: the two services, how the steps of the
verification were run, the workspace at the commit, and what the other services answer. -/
structure Session (Content : Type) where
  verificationService : VerificationService
  commitService : CommitService
  runs : Nat → StepRun Content
  time : CommitTime Content
  others : Answers

section Trees

variable {Content : Type} (git : Git Content) (sha256 : String → String)

/-- What the verification service answers. -/
def Session.verification (session : Session Content) (setting : Setting) :
    Except Error (List VerificationStepResult) :=
  session.verificationService.runFrom git sha256 session.runs 0 setting.steps

/-- The result of the provider that a run works with. -/
def Session.provided (session : Session Content) (task : ManagedProductTask) :
    Except Error ProviderImplementationResult :=
  match task.providerResult with
  | some result => pure result
  | none => session.others.implemented

def approvedPaths (task : ManagedProductTask) (result : ProviderImplementationResult) :
    List String :=
  if task.allowedPaths = [] then result.changedFiles else task.allowedPaths

/-- The commit that the commit service makes for a task. -/
def Session.record (session : Session Content) (task : ManagedProductTask) :
    Except Error (List String × String × Repository Content) := do
  let result ← session.provided task
  session.commitService.record git session.time result.changedFiles (approvedPaths task result)
    task.milestone

/-- What the commit service answers for a task. -/
def Session.committed (session : Session Content) (task : ManagedProductTask) :
    Except Error CommitResult := do
  let result ← session.provided task
  session.commitService.commit git session.time result.changedFiles (approvedPaths task result)
    task.milestone

def Session.answers (session : Session Content) (setting : Setting) (task : ManagedProductTask) :
    Answers :=
  { session.others with
    verified := session.verification git sha256 setting
    committed := session.committed git task }

/-- The tree of a commit is the content on which every step of the verification passed, and the
content that the results record. -/
structure VerifiedTree (steps : List VerificationStep) (results : List VerificationStepResult)
    (runs : Nat → StepRun Content) (tree : Tree Content) : Prop where
  passed : blocked steps results = false
  seen : ∀ place result, results[place]? = some result → result.status = .pass →
    ∀ path, tree path = (runs place).seen path
  recorded : ∀ place result, results[place]? = some result →
    ∀ path, tree path = (runs place).after.tracked path

/-- A workspace carries a content into a commit: the files have it at the paths that the commit
takes, and the index has it elsewhere. -/
def Carries (repository : Repository Content) (names : List String) (content : Tree Content) :
    Prop :=
  ∀ path, (git.takes repository names path = true → repository.work path = content path) ∧
    (git.takes repository names path = false → repository.index path = content path)

/-- Nothing comes between the verification and the commit: a task does not bring along a
verification that failed, and the workspace at the commit still carries what every step that
passed has run on, and the tracked files of every step. -/
structure Undisturbed (setting : Setting) (task : ManagedProductTask)
    (results : List VerificationStepResult) (runs : Nat → StepRun Content)
    (repository : Repository Content) (names : List String) : Prop where
  unblocked : task.verification ≠ [] → blocked setting.steps task.verification = false
  seen : ∀ place result, results[place]? = some result → result.status = .pass →
    Carries git repository names (runs place).seen
  recorded : ∀ place result, results[place]? = some result →
    Carries git repository names (runs place).after.tracked

variable {git sha256} {session : Session Content} {results : List VerificationStepResult}
  {names : List String} {message : String} {made : Repository Content} {taskId : String}
  {setting : Setting} {task : ManagedProductTask} {world : World}

theorem session_record_head (h : session.record git task = .ok (names, message, made)) :
    ∀ path, made.head path =
      if git.takes session.time.repository names path = true then
        session.time.repository.work path
      else session.time.repository.index path := by
  obtain ⟨result, -, h⟩ := Checks.bind_ok_iff.mp h
  exact (record_head h).2

theorem head_eq_iff_carries (h : session.record git task = .ok (names, message, made))
    {content : Tree Content} :
    (∀ path, made.head path = content path) ↔
      Carries git session.time.repository names content := by
  have hhead := session_record_head h
  constructor
  · intro hsame path
    rw [← hsame path, hhead path]
    exact ⟨fun htaken => (if_pos htaken).symm,
      fun hleft => (if_neg (by simp [hleft])).symm⟩
  · intro hcarries path
    rw [hhead path]
    cases htaken : git.takes session.time.repository names path with
    | true => exact (if_pos rfl).trans ((hcarries path).1 htaken)
    | false => exact (if_neg (by decide)).trans ((hcarries path).2 htaken)

end Trees

/-! ## A change and a new file -/

/-- The text of the difference when the one line of a file changes from `a` to `b`. -/
def readmeDiff : String :=
  "diff --git a/README.md b/README.md\nindex 7898192..6178079 100644\n--- a/README.md\n" ++
    "+++ b/README.md\n@@ -1 +1 @@\n-a\n+b\n"

/-- SHA-256 of that text, and of no text. -/
def readmeSha256 (value : String) : String :=
  if value = readmeDiff then "b93cd44494c18e0a18c0a02156cab1d2c7cbb7edf0d3e914b7ec96729242293a"
  else "e3b0c44298fc1c149afbf4c8996fb92427ae41e4649b934ca495991b7852b855"

/-- Git for workspaces in which at most that file is changed. -/
def readmeGit : Git String where
  branch _ := .ok "work"
  revParse repository := .ok repository.headSha
  diffText _ tracked := if tracked "README.md" = some "b\n" then readmeDiff else ""
  takes _ names path := decide (path ∈ names)
  add repository names := .ok
    { repository with
      index := fun path => if path ∈ names then repository.work path else repository.index path }
  commit repository _ := .ok { repository with headSha := "head", head := repository.index }
  add_index := by
    intro repository names staged h path
    cases h
    simp
  commit_head := by
    intro repository message made h path
    cases h
    rfl

/-- A workspace with the README, as it is committed and as it is now, and a new file. -/
def readmeRepository (readme : String) (new : Option String) : Repository String :=
  let files := fun text path => if path = "README.md" then some text else none
  { headSha := "base"
    head := files "a\n"
    index := files "a\n"
    work := fun path => if path = "new.py" then new else files readme path }

def oneStep : Setting where
  providerId := "codex"
  steps := [⟨"pytest", ["python", "-m", "pytest"], true, 300⟩]
  clock := fun n => n
  casefold := id

def readmeTask : ManagedProductTask where
  taskId := "task"
  projectId := "project"
  repository := "repository"
  branch := "work"
  expectedCommitSha := "base"
  milestone := "milestone"
  implementationRequest := "request"
  provider := "codex"
  createdAt := 0
  updatedAt := 0

/-- The only task is stored. -/
def readmeWorld : World :=
  ⟨[("task", readmeTask)], [], 0⟩

/-- A session whose step passes: the workspace then and at the commit, and the changed file. -/
def readmeSession (verified committing : Repository String) (changed : String) :
    Session String where
  verificationService := {}
  commitService := {}
  runs _ := ⟨.completed 0 "", verified.work, verified, true, true, 0, 0⟩
  time := ⟨committing, fun _ => false, fun _ => false⟩
  others :=
    { prepared := .ok ⟨"w", "/w", "repository", "work", "base", true, 0, .active⟩
      implemented := .ok ⟨"run", "done", [changed], [], []⟩
      inside := fun _ => true
      verified := .ok []
      committed := .ok ⟨"", "", []⟩
      pushed := .ok ⟨true, "work", some "origin", some "origin/work", none, "", some "head", false⟩
      drafted := .ok ⟨1, "url", true, [], some "main", some "work", some "head"⟩
      cleaned := .ok () }

def changedReadme : Session String :=
  readmeSession (readmeRepository "b\n" none) (readmeRepository "b\n" none) "README.md"

def changedResults : List VerificationStepResult :=
  [⟨"pytest", .pass, ["python", "-m", "pytest"], some 0, "", 0, 0, "base",
    "b93cd44494c18e0a18c0a02156cab1d2c7cbb7edf0d3e914b7ec96729242293a"⟩]

/-- A new file is verified, and is another one at the commit. -/
def changedFile : Session String :=
  readmeSession (readmeRepository "a\n" (some "pass\n")) (readmeRepository "a\n" (some "exit(1)\n"))
    "new.py"

/-- The result of the step on the new file: nothing that is tracked differs. -/
def fileResults : List VerificationStepResult :=
  [⟨"pytest", .pass, ["python", "-m", "pytest"], some 0, "", 0, 0, "base",
    "e3b0c44298fc1c149afbf4c8996fb92427ae41e4649b934ca495991b7852b855"⟩]

end Implementation
end Ascos
