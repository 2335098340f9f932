import Ascos.Implementation.Pipeline
import Ascos.Library.Checks
import Ascos.Library.Paths
import Ascos.Library.Replacement
import Mathlib

/-!
# Verification and commit

`VerificationService` and `CommitService` of
`runtime/managed_product_implementation/services.py`, over the three views that Git has of
a workspace: the files, the index, and the last commit.
-/

namespace Ascos
namespace Implementation

open Ascos.Library
open Ascos.Runtime (Timestamp isBlank isSpace)

variable {Content : Type}

/-! ## Git -/

/-- The content that stands at each path. -/
abbrev Tree (Content : Type) := String → Option Content

/-- A workspace: the last commit, the index and the files. -/
structure Repository (Content : Type) where
  headSha : String
  head : Tree Content
  index : Tree Content
  work : Tree Content

/-- The files that `git diff HEAD` compares with the last commit: those in the index. -/
def Repository.tracked (repository : Repository Content) : Tree Content := fun path =>
  if (repository.index path).isSome = true then repository.work path else none

/-- What Git answers.  A command that fails answers with what it prints. -/
structure Git (Content : Type) where
  /-- `git branch --show-current`. -/
  branch : Repository Content → Except String String
  /-- `git rev-parse HEAD`. -/
  revParse : Repository Content → Except String String
  /-- The text of `git diff --binary HEAD` for the last commit and the tracked files. -/
  diffText : Tree Content → Tree Content → String
  /-- The paths that `git add` takes for its arguments: those that match and are not ignored. -/
  takes : Repository Content → List String → String → Bool
  /-- `git add`. -/
  add : Repository Content → List String → Except String (Repository Content)
  /-- `git commit`. -/
  commit : Repository Content → String → Except String (Repository Content)
  /-- The index holds the files that were taken, as they are. -/
  add_index : ∀ repository arguments staged, add repository arguments = .ok staged →
    ∀ path, staged.index path =
      if takes repository arguments path = true then repository.work path
      else repository.index path
  /-- A commit holds the index. -/
  commit_head : ∀ repository message made, commit repository message = .ok made →
    ∀ path, made.head path = repository.index path

/-! ## Verification -/

structure VerificationService where
  allowedExecutables : List String := ["python", "ruff", "mypy", "git"]
  redactedValues : List String := []
  maximumOutputBytes : Nat := 64000

/-- How the process of a step ends. -/
inductive Execution where
  | completed (returnCode : Int) (output : String)
  | notFound
  | timedOut
  | permission (message : String)
  | osError (message : String)
  | raised (error : Error)

/-- A step as it was run: how its process ended, the files that it ran on, the workspace after it,
and whether the two commands of Git succeeded there. -/
structure StepRun (Content : Type) where
  execution : Execution
  seen : Tree Content
  after : Repository Content
  revParsed : Bool := true
  diffed : Bool := true
  startedAt : Timestamp
  completedAt : Timestamp

/-- The full match of `[A-Za-z0-9_.+-]+`. -/
def isExecutable (value : String) : Bool :=
  value ≠ "" && value.toList.all fun c => c.isAlphanum || c ∈ ['_', '.', '+', '-']

/-- The last characters of a text; all of them for a bound of zero. -/
def lastCharacters (bound : Nat) (text : String) : String :=
  if bound = 0 then text else String.ofList (text.toList.drop (text.toList.length - bound))

/-- `_redact`: the longest values are replaced first. -/
def VerificationService.redact (service : VerificationService) (value : String) : String :=
  let secrets := ((service.redactedValues.filter (· ≠ "")).dedup).mergeSort
    fun a b => decide (b.length ≤ a.length)
  String.ofList
    (Replacement.replaceAll (secrets.map String.toList) "[REDACTED]".toList value.toList)

/-- The status, the output and the exit code of a step. -/
def VerificationService.outcome (service : VerificationService) (step : VerificationStep)
    (executable : String) (execution : Execution) :
    Except Error (VerificationStatus × String × Option Int) :=
  let missing : VerificationStatus := if step.required = true then .fail else .skipped
  if executable ∉ service.allowedExecutables ∨ isExecutable executable = false then
    pure (missing, "Verification executable is not allow-listed", none)
  else
    match execution with
    | .completed returnCode output =>
        pure (if returnCode = 0 then .pass else .fail,
          service.redact (lastCharacters service.maximumOutputBytes output), some returnCode)
    | .notFound => pure (missing, "Executable unavailable", none)
    | .timedOut => pure (.fail, "Timed out", none)
    | .permission message => pure (missing, message, none)
    | .osError message => pure (.unknown, service.redact message, none)
    | .raised error => throw error

section Services

variable (git : Git Content) (sha256 : String → String)

/-- `git rev-parse HEAD`, or nothing. -/
def StepRun.commitSha (stepRun : StepRun Content) : String :=
  if stepRun.revParsed = true then strip isSpace stepRun.after.headSha else ""

/-- `git diff --binary HEAD`, or nothing. -/
def StepRun.diff (stepRun : StepRun Content) : String :=
  if stepRun.diffed = true then git.diffText stepRun.after.head stepRun.after.tracked else ""

def VerificationService.result (service : VerificationService) (step : VerificationStep)
    (stepRun : StepRun Content) : Except Error VerificationStepResult := do
  match step.command with
  | [] => throw ⟨.other "IndexError", "tuple index out of range"⟩
  | executable :: _ =>
    let (status, output, exitCode) ← service.outcome step executable stepRun.execution
    pure
      { name := step.name
        status
        command := step.command
        exitCode
        output
        startedAt := stepRun.startedAt
        completedAt := stepRun.completedAt
        workspaceCommitSha := stepRun.commitSha
        diffDigest := sha256 (stepRun.diff git) }

/-- `VerificationService.run`, from the step with an index: it ends with a step that fails. -/
def VerificationService.runFrom (service : VerificationService) (runs : Nat → StepRun Content)
    (index : Nat) : List VerificationStep → Except Error (List VerificationStepResult)
  | [] => pure []
  | step :: steps => do
    let result ← service.result git sha256 step (runs index)
    if result.status = .fail then pure [result]
    else
      let results ← VerificationService.runFrom service runs (index + 1) steps
      pure (result :: results)

variable {git sha256} {service : VerificationService} {step : VerificationStep}
  {stepRun : StepRun Content} {runs : Nat → StepRun Content} {result : VerificationStepResult}
  {steps : List VerificationStep} {results : List VerificationStepResult}

end Services

/-! ## Commits -/

structure CommitService where
  protectedBranches : List String := ["main", "master"]

/-- `RuntimeError(message)` of a command of Git. -/
def gitError (message : String) : Error :=
  ⟨.other "RuntimeError",
    if strip isSpace message = "" then "Git commit operation failed" else strip isSpace message⟩

/-- The answer of a command of Git that has to succeed. -/
def required {α : Type} (answer : Except String α) : Except Error α :=
  answer.mapError gitError

attribute [local instance] Library.Paths.lawfulBEq_text

def validatePath (value : String) : Except Error String :=
  let chars := value.toList.map fun c => if c = '\\' then '/' else c
  if Paths.root chars ≠ [] ∨ Paths.parent ∈ Paths.parts chars ∨
      Paths.canonical chars ∈ [[], ['.']] then
    throw (.value ("Unsafe changed path: " ++ value))
  else pure (String.ofList (Paths.canonical chars))

/-- A workspace at the time of a commit, with what its links do to a path. -/
structure CommitTime (Content : Type) where
  repository : Repository Content
  escapes : String → Bool
  isSymlink : String → Bool

section Commits

variable (git : Git Content) (service : CommitService) (time : CommitTime Content)

/-- The checks of `commit` on its paths: the paths without repetition and in order. -/
def CommitService.normalized (paths approvedPaths : List String) :
    Except Error (List String) := do
  if paths = [] then throw (.value "At least one changed path is required")
  let branch ← required (git.branch time.repository)
  if strip isSpace branch ∈ service.protectedBranches then
    throw (.value "Commit on protected branch is forbidden")
  let validated ← paths.mapM validatePath
  let normalized := validated.dedup.insertionSort (· ≤ ·)
  let approved ← approvedPaths.mapM validatePath
  if approved ≠ [] ∧ normalized.all (fun path => approved.any (inScope · path)) = false then
    throw (.value "Changed path is outside the approved path scope")
  normalized.forM fun path => do
    if time.escapes path = true then
      throw (.value "Changed path escapes workspace through a symlink")
    if time.isSymlink path = true then throw (.value "Changed path cannot be a symlink")
  pure normalized

/-- The check of the milestone, and the message made of it. -/
def commitMessage (milestone : String) : Except Error String :=
  if isBlank milestone = true ∨ 200 < milestone.length ∨ '\n' ∈ milestone.toList ∨
      '\x00' ∈ milestone.toList then
    throw (.value "Milestone must produce a bounded single-line commit message")
  else pure ("Implement " ++ strip isSpace milestone)

/-- `commit`, up to `git commit`: the paths, the message, and the workspace after it. -/
def CommitService.record (paths approvedPaths : List String) (milestone : String) :
    Except Error (List String × String × Repository Content) := do
  let normalized ← service.normalized git time paths approvedPaths
  let staged ← required (git.add time.repository normalized)
  let message ← commitMessage milestone
  let made ← required (git.commit staged message)
  pure (normalized, message, made)

def CommitService.commit (paths approvedPaths : List String) (milestone : String) :
    Except Error CommitResult := do
  let (normalized, message, made) ← service.record git time paths approvedPaths milestone
  let sha ← required (git.revParse made)
  pure ⟨strip isSpace sha, message, normalized⟩

variable {git service time} {paths approvedPaths normalized : List String}
  {milestone message : String} {made : Repository Content}

theorem required_ok {α : Type} {answer : Except String α} {value : α}
    (h : required answer = .ok value) : answer = .ok value := by
  cases answer with
  | error message => cases h
  | ok other =>
    cases h
    rfl

/-- A commit holds the files at the paths that were taken, and elsewhere what was staged. -/
theorem record_head
    (h : service.record git time paths approvedPaths milestone = .ok (normalized, message, made)) :
    service.normalized git time paths approvedPaths = .ok normalized ∧
      ∀ path, made.head path =
        if git.takes time.repository normalized path = true then time.repository.work path
        else time.repository.index path := by
  unfold CommitService.record at h
  obtain ⟨names, hnormalized, h⟩ := Checks.bind_ok_iff.mp h
  obtain ⟨staged, hstaged, h⟩ := Checks.bind_ok_iff.mp h
  obtain ⟨text, -, h⟩ := Checks.bind_ok_iff.mp h
  obtain ⟨committed, hmade, h⟩ := Checks.bind_ok_iff.mp h
  cases h
  refine ⟨hnormalized, fun path => ?_⟩
  rw [git.commit_head staged message made (required_ok hmade) path]
  exact git.add_index time.repository normalized staged (required_ok hstaged) path

end Commits

end Implementation
end Ascos
