import Ascos.Implementation.Model

/-!
# The implementation pipeline

A translation of `runtime/managed_product_implementation/pipeline.py`.  A run asks one
service after the other, each only when the evidence of its stage is missing, and saves the
task in between.  What the services answer is part of the call.
-/

namespace Ascos
namespace Implementation

open Ascos.Library
open Ascos.Runtime (Timestamp isBlank isSpace)

/-- What a pipeline is built with. -/
structure Setting where
  providerId : String
  steps : List VerificationStep
  cleanupPolicy : CleanupPolicy := .keep
  /-- There is a requirements service. -/
  governed : Bool := false
  /-- There is a requirements document. -/
  documented : Bool := false
  clock : Nat → Timestamp
  casefold : String → String

/-- What the services answer in one run. -/
structure Answers where
  prepared : Except Error WorkspaceResult
  implemented : Except Error ProviderImplementationResult
  /-- The directory of a path lies in the workspace once its links are followed. -/
  inside : String → Bool
  verified : Except Error (List VerificationStepResult)
  committed : Except Error CommitResult
  pushed : Except Error PushResult
  drafted : Except Error PullRequestResult
  cleaned : Except Error Unit

/-! ## Saves -/

def pendingActions : ImplementationState → List String → List String
  | .preparingWorkspace, _ => ["prepare workspace"]
  | .implementing, _ => ["run provider"]
  | .verifying, _ => ["run verification"]
  | .committing, _ => ["create commit"]
  | .pushing, _ => ["push branch"]
  | .creatingPr, _ => ["create draft pull request"]
  | _, actions => actions

/-- The value that `_save` saves. -/
def saved (task : ManagedProductTask) (state : ImplementationState) (now : Timestamp) :
    ManagedProductTask :=
  { task with
    state := state
    resumeFrom := some state
    pendingActions := pendingActions state task.pendingActions
    updatedAt := now }

def save (setting : Setting) (task : ManagedProductTask) (state : ImplementationState) :
    Procedure World Error ManagedProductTask := do
  let now ← utcNow setting.clock
  let value := saved task state now
  saveTask value
  pure value

def fail (setting : Setting) (task : ManagedProductTask) (state : ImplementationState)
    (detail : String) : Procedure World Error ManagedProductTask :=
  save setting { task with failure := some detail } state

/-! ## The stages -/

/-- How the stages of a run are left early: by an exception, with the task as it is then, or
by a return. -/
inductive Exit where
  | raised (task : ManagedProductTask) (error : Error)
  | returned (task : ManagedProductTask)

/-- A part of a run in which a task is at hand. -/
def holding {α : Type} (task : ManagedProductTask) (x : Procedure World Error α) :
    Procedure World Exit α :=
  x.rescue fun error => .raise (.raised task error)

/-- `return self._fail(...)` inside the stages. -/
def giveUp {α : Type} (setting : Setting) (task failed : ManagedProductTask)
    (state : ImplementationState) (detail : String) : Procedure World Exit α := do
  let value ← holding task (fail setting failed state detail)
  .raise (.returned value)

/-- The path lies in the scope of an allowed path. -/
def inScope (allowed changed : String) : Bool :=
  changed = allowed ||
    ((allowed.toList.reverse.dropWhile (· = '/')).reverse ++ ['/']).isPrefixOf changed.toList

def validateProviderResult (answers : Answers) (task : ManagedProductTask)
    (result : ProviderImplementationResult) : Except Error Unit := do
  if some result.executionId = task.executionId then
    throw (.value "Provider execution identity was reused")
  for changed in result.changedFiles do
    if task.allowedPaths ≠ [] ∧ task.allowedPaths.any (inScope · changed) = false then
      throw (.value "Provider returned a path outside approved scope")
    if answers.inside changed = false then
      throw (.value "Provider path escapes workspace")

/-- The provider's result, if it is accepted. -/
def acceptedResult (answers : Answers) (task : ManagedProductTask) :
    Except Error ProviderImplementationResult := do
  let result ← answers.implemented
  validateProviderResult answers task result
  pure result

def named (steps : List VerificationStep) (results : List VerificationStepResult) : Bool :=
  results.length = steps.length &&
    (results.zip steps).all fun pair => pair.1.name = pair.2.name

/-- The results are about the commit of the workspace and all about one difference. -/
def bound (commitSha : String) (results : List VerificationStepResult) : Bool :=
  results.all (fun result => result.workspaceCommitSha = commitSha && result.diffDigest ≠ "") &&
    (results.map (·.diffDigest)).eraseDups.length = 1

/-- A result that ends the run. -/
def blocked (steps : List VerificationStep) (results : List VerificationStepResult) : Bool :=
  (results.zip steps).any fun pair =>
    pair.1.status = .fail || (pair.2.required && pair.1.status ≠ .pass)

/-- The workspace of a task. -/
def prepareStage (setting : Setting) (answers : Answers) (task : ManagedProductTask) :
    Procedure World Exit ManagedProductTask :=
  if task.workspace.isSome = true then pure task
  else do
    let task ← holding task (save setting task .preparingWorkspace)
    let workspace ← holding task (.ofExcept answers.prepared)
    holding task (save setting
      { task with workspace := some workspace, workspaceId := some workspace.workspaceId }
      .implementing)

def providerStage (setting : Setting) (answers : Answers) (task : ManagedProductTask) :
    Procedure World Exit ManagedProductTask :=
  if task.providerResult.isSome = true then pure task
  else do
    let outcome := acceptedResult answers task
    let result ← holding task (ask task.taskId (.implemented outcome) outcome)
    holding task (save setting
      { task with providerResult := some result, executionId := some result.executionId }
      .verifying)

def verificationStage (setting : Setting) (answers : Answers) (commitSha : String)
    (task : ManagedProductTask) : Procedure World Exit ManagedProductTask :=
  if task.verification ≠ [] then pure task
  else do
    let verification ←
      holding task (ask task.taskId (.verified answers.verified) answers.verified)
    let evidence := { task with verification := verification }
    if named setting.steps verification = false then
      giveUp setting task evidence .verificationFailed
        "Verification results do not match configured steps"
    else if bound commitSha verification = false then
      giveUp setting task evidence .verificationFailed
        "Verification evidence is not bound to the workspace state"
    else if blocked setting.steps verification = true then
      giveUp setting task { evidence with verificationStatus := .fail } .verificationFailed
        "Verification failed"
    else
      holding task (save setting { evidence with verificationStatus := .pass } .committing)

def commitStage (setting : Setting) (answers : Answers) (task : ManagedProductTask) :
    Procedure World Exit ManagedProductTask :=
  if task.commitResult.isSome = true then pure task
  else if task.providerResult.isSome = false then .raise (.raised task ⟨.assertionError, ""⟩)
  else do
    let commit ← holding task (ask task.taskId (.committed answers.committed) answers.committed)
    holding task (save setting
      { task with commitResult := some commit, commitSha := some commit.commitSha } .pushing)

def pushStage (setting : Setting) (answers : Answers) (task : ManagedProductTask) :
    Procedure World Exit ManagedProductTask :=
  if task.pushResult.isSome = true then pure task
  else do
    let pushed ←
      holding task (ask task.taskId (.pushed task.commitSha answers.pushed) answers.pushed)
    if pushed.success = false then
      giveUp setting task { task with pushResult := some pushed } .failed pushed.details
    else
      holding task (save setting { task with pushResult := some pushed } .creatingPr)

/-- `needle in text`. -/
def contains (needle text : String) : Bool :=
  decide (needle.toList <:+: text.toList)

def testReport (verification : List VerificationStepResult) : String :=
  let lines := (verification.filter fun result =>
    contains "test" result.name || result.name = "pytest").map fun result =>
      result.name ++ ": " ++ result.status.value
  let text := "\n".intercalate lines
  if text = "" then "No test-specific step configured" else text

def review (task : ManagedProductTask) : Except Error ReviewPackage :=
  match task.providerResult, task.commitResult, task.commitSha with
  | some result, some commit, some commitSha =>
    pure
      { summary := result.summary
        verificationReport := task.verification
        testReport := testReport task.verification
        changedFiles := commit.changedFiles
        commitSha
        pullRequestUrl :=
          match task.pullRequestUrl with
          | some url => if url = "" then "PENDING" else url
          | none => "PENDING"
        knownRisks := result.knownRisks
        remainingWork := result.remainingWork }
  | _, _, _ => throw (.value "Implementation, commit, and SHA are required for review")

/-- The draft pull request, if its identity is that of the task. -/
def acceptedDraft (answers : Answers) (task : ManagedProductTask) :
    Except Error PullRequestResult := do
  let pr ← answers.drafted
  if pr.draft = false ∨ pr.baseBranch ≠ some task.baseBranch ∨
      pr.headBranch ≠ some task.branch ∨ pr.headSha ≠ task.commitSha then
    throw (.value "Draft pull request identity does not match task evidence")
  pure pr

/-- The draft pull request; the task is not saved yet. -/
def draftStage (answers : Answers) (task : ManagedProductTask) :
    Procedure World Exit ManagedProductTask := do
  let package ← holding task (.ofExcept (review task))
  if task.pullRequest.isSome = true then pure task
  else do
    let outcome := acceptedDraft answers task
    let pr ← holding task (ask task.taskId (.drafted task.commitSha outcome) outcome)
    pure
      { task with
        pullRequest := some pr
        pullRequestId := some pr.number
        pullRequestUrl := some pr.url
        reviewPackage := some { package with pullRequestUrl := pr.url } }

/-- The end of a run; the workspace may be cleaned up. -/
def handOver (setting : Setting) (answers : Answers) (task : ManagedProductTask) :
    Procedure World Exit ManagedProductTask := do
  let task ← holding task (save setting
    { task with reviewStatus := "WAITING_FOR_HUMAN_REVIEW", pendingActions := ["human review"] }
    .waitingForHumanReview)
  if setting.cleanupPolicy = .always then holding task (.ofExcept answers.cleaned)
  pure task

/-- The stages of a run, in their order. -/
def stages (setting : Setting) (answers : Answers) (task : ManagedProductTask) :
    Procedure World Exit ManagedProductTask := do
  let task ← prepareStage setting answers task
  let task ← providerStage setting answers task
  let commitSha := (task.workspace.map (·.commitSha)).getD ""
  let task ← verificationStage setting answers commitSha task
  let task ← commitStage setting answers task
  let task ← pushStage setting answers task
  let task ← draftStage answers task
  handOver setting answers task

/-- The state of a task whose stage raised. -/
def failedState (state : ImplementationState) : ImplementationState :=
  if state = .implementing then .providerFailed
  else if state = .creatingPr then .prFailed
  else .failed

/-- What becomes of a run that is left early. -/
def settle (setting : Setting) : Exit → Procedure World Error ManagedProductTask
  | .raised task error => fail setting task (failedState task.state) error.message
  | .returned task => pure task

def run (setting : Setting) (answers : Answers) (taskId : String) :
    Procedure World Error ManagedProductTask := do
  match ← loadTask taskId with
  | none => .raise (.value "Unknown task")
  | some task =>
    if task.state = .waitingForHumanReview then pure task
    else (stages setting answers task).rescue (settle setting)

/-! ## The other operations -/

/-- `request`; the requirements service checks a governed request. -/
def request (setting : Setting) (checked : Except Error Unit) (task : ManagedProductTask) :
    Procedure World Error ManagedProductTask := do
  if task.provider ≠ setting.providerId then
    Procedure.raise (.value "Injected provider does not match requested provider")
  let found ← loadTask task.taskId
  if found.isSome = true then Procedure.raise (.value "Task already exists")
  if task.state ≠ .requested then Procedure.raise (.value "New task must be REQUESTED")
  if setting.governed = true then
    if setting.documented = false ∨ task.roadmapItemId.getD "" = "" then
      Procedure.raise (.value "Governed implementations require a PRD and roadmap item")
    Procedure.ofExcept checked
  saveTask task
  pure task

/-- The evidence that `recover` leaves. -/
def cleared (task : ManagedProductTask) : Except Error ManagedProductTask :=
  match task.state with
  | .verificationFailed => pure { task with verification := [], verificationStatus := .unknown }
  | .providerFailed => pure { task with providerResult := none, executionId := none }
  | .prFailed =>
      pure { task with pullRequest := none, pullRequestId := none, pullRequestUrl := none }
  | .failed => pure task
  | _ => throw (.value "Only failed tasks can be recovered")

/-- The value that `recover` saves. -/
def recovered (task : ManagedProductTask) (now : Timestamp) : ManagedProductTask :=
  { task with
    state := task.resumeFrom.getD .requested
    failure := none
    updatedAt := now }

def recover (setting : Setting) (taskId : String) :
    Procedure World Error ManagedProductTask := do
  match ← loadTask taskId with
  | none => .raise (.value "Unknown task")
  | some task => do
    let task ← .ofExcept (cleared task)
    let now ← utcNow setting.clock
    let value := recovered task now
    saveTask value
    pure value

/-- `value.strip()`. -/
def stripped (value : String) : String :=
  strip isSpace value

/-- The reviewer is the implementation actor, as far as the comparison tells. -/
def selfApproved (setting : Setting) (reviewer : String) : Option String → Bool
  | none => false
  | some actor =>
      actor ≠ "" && setting.casefold (stripped reviewer) = setting.casefold actor

/-- The checks of `record_human_approval`. -/
def approvable (setting : Setting) (reviewer : String) (allowSelfApproval : Bool)
    (task : ManagedProductTask) : Except Error Unit := do
  if task.state ≠ .waitingForHumanReview then
    throw (.value "Task is not waiting for human review")
  if isBlank reviewer = true then throw (.value "Reviewer is required")
  if selfApproved setting reviewer task.implementationActor = true ∧
      allowSelfApproval = false then
    throw (.value "Implementation actor cannot self-approve")
  match task.commitSha, task.reviewPackage with
  | some commitSha, some package =>
    if package.commitSha ≠ commitSha then
      throw (.value "Review evidence is stale for the current commit")
  | _, _ => throw (.value "Commit-bound review evidence is required")

/-- The value that `record_human_approval` saves. -/
def completed (reviewer : String) (task : ManagedProductTask) (updatedAt completedAt : Timestamp) :
    ManagedProductTask :=
  { task with
    state := .completed
    reviewStatus := "APPROVED_BY:" ++ stripped reviewer
    updatedAt := updatedAt
    completedAt := some completedAt
    resumeFrom := none
    reviewer := some (stripped reviewer)
    reviewedCommitSha := task.commitSha
    pendingActions := [] }

def recordHumanApproval (setting : Setting) (cleaned : Except Error Unit)
    (taskId reviewer : String) (allowSelfApproval : Bool) :
    Procedure World Error ManagedProductTask := do
  match ← loadTask taskId with
  | none => .raise (.value "Unknown task")
  | some task => do
    .ofExcept (approvable setting reviewer allowSelfApproval task)
    let updatedAt ← utcNow setting.clock
    let completedAt ← utcNow setting.clock
    let value := completed reviewer task updatedAt completedAt
    saveTask value
    if setting.cleanupPolicy ∈ [.onSuccess, .always] then Procedure.ofExcept cleaned
    pure value

/-! ## Calls -/

/-- A call of the pipeline with what the services answer. -/
inductive Call where
  | request (task : ManagedProductTask) (checked : Except Error Unit)
  | run (taskId : String) (answers : Answers)
  | recover (taskId : String)
  | recordHumanApproval (taskId reviewer : String) (allowSelfApproval : Bool)
      (cleaned : Except Error Unit)

/-- The operations of the pipeline. -/
def Call.perform (setting : Setting) : Call → Procedure World Error ManagedProductTask
  | .request task checked => Implementation.request setting checked task
  | .run taskId answers => Implementation.run setting answers taskId
  | .recover taskId => Implementation.recover setting taskId
  | .recordHumanApproval taskId reviewer allowSelfApproval cleaned =>
      Implementation.recordHumanApproval setting cleaned taskId reviewer allowSelfApproval

def step (setting : Setting) (world : World) (call : Call) : World :=
  ((call.perform setting).run world).2

/-- No task is stored and nothing has happened. -/
def World.initial : World :=
  ⟨[], [], 0⟩

end Implementation
end Ascos
