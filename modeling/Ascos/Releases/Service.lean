import Ascos.Library.Checks
import Ascos.Library.Program
import Ascos.Releases.Model

/-!
# The release management service

A translation of `runtime/release_management/service.py` and of `persistence.py`.
The store holds, for each release, a snapshot per status and a current record, in files of
their own; the process may end between the two writes of a save.  What the project registry
and the event publisher answer, and the store of acceptance runs, are given with the call.
-/

namespace Ascos
namespace Releases

open Library Library.Program
open Ascos.Acceptance (Digests RuntimeAcceptanceRun sortedSet sortedTexts validateCompleteness
  isSafe)
open Ascos.Runtime (Timestamp isBlank)

/-! ## The store -/

/-- `ReleaseStore`: the snapshots and the current records. -/
structure Files where
  snapshot : String → ReleaseStatus → Option Release
  current : List Release

def Files.empty : Files :=
  ⟨fun _ _ => none, []⟩

/-- An operation on the files, which may raise. -/
abbrev Operation (α : Type) := Program Files Error α

/-- The current record of a release. -/
def Files.load (files : Files) (releaseId : String) : Option Release :=
  files.current.find? (·.releaseId = releaseId)

def Files.writeSnapshot (files : Files) (release : Release) : Files :=
  { files with
    snapshot := fun releaseId status =>
      if releaseId = release.releaseId ∧ status = release.status then some release
      else files.snapshot releaseId status }

def Files.writeCurrent (files : Files) (release : Release) : Files :=
  { files with
    current := release :: files.current.filter fun item => item.releaseId ≠ release.releaseId }

/-- The two writes of a save; the flag says that the process ends between them. -/
def write (crashes : Bool) (release : Release) : Operation Unit := do
  modify fun files : Files => files.writeSnapshot release
  if crashes = true then
    throw ⟨.crash, ""⟩
  else
    modify fun files : Files => files.writeCurrent release

def save (crashes : Bool) (release : Release) : Operation Unit := do
  if isSafe release.releaseId = false then
    throw (.value "Unsafe release ID")
  else
    match (← get).snapshot release.releaseId release.status with
    | some existing =>
        if existing = release then
          pure ()
        else if existing.status.isFinal = true then
          throw (.value "Released history is immutable")
        else if ¬existing.approvals <+: release.approvals then
          throw (.value "Approval history is immutable")
        else
          write crashes release
    | none => write crashes release

/-! ## Evidence -/

/-- The payload of `evidence_digest`. -/
structure ReleasePayload where
  requirements : List String
  milestones : List String
  commits : List String
  pullRequests : List String
  decisions : List String
  lockedCapabilities : List String
  runtimeAcceptanceRuns : List String
  artifacts : List (String × String)
deriving DecidableEq

/-- The payload that `evidence_digest` makes of a release. -/
def ReleaseFields.payload (release : ReleaseFields) : ReleasePayload where
  requirements := sortedSet release.requirementIds
  milestones := sortedSet release.milestoneIds
  commits := sortedSet release.commitShas
  pullRequests := sortedSet release.pullRequestUrls
  decisions := sortedSet release.decisionIds
  lockedCapabilities := sortedSet release.lockedCapabilityIds
  runtimeAcceptanceRuns := sortedSet release.runtimeAcceptanceRunIds
  artifacts :=
    (release.artifacts.map fun item => (item.artifactId, item.digest)).insertionSort
      fun first second => first.1 < second.1 ∨ (first.1 = second.1 ∧ first.2 ≤ second.2)

/-- What stands for code outside the repository: case folding, the SHA-256 digest of an
encoded payload, and the names that `glob` finds for a pattern. -/
structure Setting where
  casefold : String → String
  digest : ReleasePayload → String
  fnmatch : String → String → Bool

variable {D : Digests} (setting : Setting)

def evidenceDigest (release : ReleaseFields) : String :=
  setting.digest release.payload

def generateNotes (release : ReleaseFields) : ReleaseNotes where
  title := "Release " ++ release.version.toString
  summary := "Deterministic release " ++ release.version.toString
  requirements := sortedSet release.requirementIds
  milestones := sortedSet release.milestoneIds
  commits := sortedSet release.commitShas
  pullRequests := sortedSet release.pullRequestUrls
  decisions := sortedSet release.decisionIds

/-! ## Readiness -/

structure ReleaseReadiness where
  ready : Bool
  blockers : List String
  acceptedCapabilityIds : List String
  acceptanceRunIds : List String
deriving DecidableEq

def hasValidEvidence (run : RuntimeAcceptanceRun D) : Bool :=
  let report := validateCompleteness D run.toRunFields
  report.complete && decide (run.evidenceDigest = report.evidenceDigest)

/-- The commit of the last candidate. -/
def ReleaseFields.candidateSha (release : ReleaseFields) : Option String :=
  release.candidates.getLast?.map (·.commitSha)

def runBlockers (release : ReleaseFields) (runId : String) :
    Option (RuntimeAcceptanceRun D) → List String
  | none => ["MISSING_RUNTIME_ACCEPTANCE:" ++ runId]
  | some run =>
    (if run.productId ∉ release.productIds then
      ["WRONG_PRODUCT_RUNTIME_ACCEPTANCE:" ++ runId] else []) ++
    (if release.candidateSha ≠ some run.commitSha then
      ["STALE_RUNTIME_ACCEPTANCE_COMMIT:" ++ runId] else []) ++
    (if run.stage ≠ .completed then
      ["INCOMPLETE_RUNTIME_ACCEPTANCE:" ++ runId ++ ":" ++ run.stage.value] else []) ++
    (if hasValidEvidence run = false then
      ["INVALID_RUNTIME_ACCEPTANCE_EVIDENCE:" ++ runId] else [])

def acceptedBy : Option (RuntimeAcceptanceRun D) → List String
  | none => []
  | some run =>
    if hasValidEvidence run = true then
      (run.capabilities.filter (·.locked)).map (·.capabilityId)
    else []

/-- `runtime_acceptance_store.find`. -/
def findRun (runs : Acceptance.Store D) (runId : String) :
    Except Error (Option (RuntimeAcceptanceRun D)) :=
  match Acceptance.find setting.fnmatch runs runId with
  | .ok found => .ok found
  | .error error => .error (.value error.message)

/-- The end of `readiness`: the capabilities that nothing accepts are blockers too. -/
def readinessReport (release : ReleaseFields) (blockers accepted : List String) :
    ReleaseReadiness :=
  let unaccepted := release.lockedCapabilityIds.flatMap fun capabilityId =>
    if capabilityId ∉ accepted then ["UNACCEPTED_LOCKED_CAPABILITY:" ++ capabilityId] else []
  let unique := sortedSet (blockers ++ unaccepted)
  { ready := decide (unique = [])
    blockers := unique
    acceptedCapabilityIds := sortedSet accepted
    acceptanceRunIds := release.runtimeAcceptanceRunIds }

/-- `readiness`; without a store of acceptance runs there is none. -/
def readiness (runs : Option (Acceptance.Store D)) (release : ReleaseFields) :
    Except Error ReleaseReadiness :=
  if release.lockedCapabilityIds = [] then
    pure ⟨true, [], [], release.runtimeAcceptanceRunIds⟩
  else
    match runs with
    | none => pure (readinessReport release ["RUNTIME_ACCEPTANCE_STORE_UNAVAILABLE"] [])
    | some runs => do
        let found ← release.runtimeAcceptanceRunIds.mapM fun runId => do
          pure (runId, ← findRun setting runs runId)
        pure (readinessReport release
          (found.flatMap fun item => runBlockers release item.1 item.2)
          (found.flatMap fun item => acceptedBy item.2))

def requireRuntimeAcceptance (runs : Option (Acceptance.Store D)) (release : ReleaseFields) :
    Except Error Unit := do
  let report ← readiness setting runs release
  if report.ready = false then
    throw (.value ("Release candidate is not runtime-ready: " ++
      ", ".intercalate report.blockers))

/-! ## The values that the operations store -/

/-- The checks of `create`; `registered` is the answer of the project registry. -/
def created (registered : Except Error Unit) (files : Files) (release : Release) :
    Except Error Release := do
  if release.status ≠ .planned then
    throw (.value "New releases start PLANNED")
  if isSafe release.releaseId = false then
    throw (.value "Unsafe release ID")
  if files.load release.releaseId ≠ none then
    throw (.value "Release already exists")
  if files.current.any (·.version = release.version) = true then
    throw (.value "Release version already exists")
  registered
  pure release

/-- The value of `create_candidate`. -/
def withCandidate (candidate : ReleaseCandidate) (now : Timestamp) (release : Release) :
    Except Error Release := do
  if candidate.version.releaseCandidate = none then
    throw (.value "Candidate version requires -rc.N")
  if candidate.version.precedence.take 3 ≠ release.version.precedence.take 3 then
    throw (.value "Candidate version must belong to the planned release")
  if candidate.commitSha ∉ release.commitShas then
    throw (.value "Candidate commit must be declared by the release")
  if release.candidates.any (·.candidateId = candidate.candidateId) = true then
    throw (.value "Release candidate identity must be unique")
  let value ← Release.new
    { release.toReleaseFields with candidates := release.candidates ++ [candidate] }
  transition value .releaseCandidate now

/-- The value of `submit`. -/
def submitted (runs : Option (Acceptance.Store D)) (now : Timestamp) (release : Release) :
    Except Error Release := do
  requireRuntimeAcceptance setting runs release.toReleaseFields
  transition release .underReview now

/-- The value of `approve`. -/
def approved (runs : Option (Acceptance.Store D)) (approval : ReleaseApproval)
    (now : Timestamp) (allowSelfApproval : Bool) (release : Release) : Except Error Release := do
  requireRuntimeAcceptance setting runs release.toReleaseFields
  if approval.decision ≠ "APPROVE" then
    throw (.value "Approval decision must be APPROVE")
  if isBlank approval.approver = true ∨ isBlank approval.rationale = true then
    throw (.value "Approver and rationale are required")
  if setting.casefold approval.approver = setting.casefold release.createdBy ∧
      allowSelfApproval = false then
    throw (.value "Release creator cannot self-approve")
  if approval.evidenceDigest ≠ evidenceDigest setting release.toReleaseFields then
    throw (.value "Approval evidence is stale")
  let value ← Release.new
    { release.toReleaseFields with approvals := release.approvals ++ [approval] }
  transition value .approved now

/-- The value of `reject`. -/
def rejected (decision : ReleaseApproval) (now : Timestamp) (release : Release) :
    Except Error Release := do
  if (decision.decision ≠ "REJECT" ∧ decision.decision ≠ "REQUEST_CHANGES") ∨
      isBlank decision.rationale = true then
    throw (.value "Rejection or change request requires a reason")
  if release.status ≠ .underReview then
    throw (.value "Release is not under review")
  Release.new
    { release.toReleaseFields with
      status := .releaseCandidate
      approvals := release.approvals ++ [decision]
      updatedAt := now }

/-- The value of `publish`. -/
def published (runs : Option (Acceptance.Store D)) (now : Timestamp) (release : Release) :
    Except Error Release := do
  requireRuntimeAcceptance setting runs release.toReleaseFields
  if release.approvals = [] ∨ release.notes = none then
    throw (.value "Publication requires approval and release notes")
  transition release .released now

/-- The value of `rollback`. -/
def rolledBack (record : RollbackRecord) (now : Timestamp) (release : Release) :
    Except Error Release := do
  let value ← Release.new
    { release.toReleaseFields with rollbacks := release.rollbacks ++ [record] }
  transition value .rolledBack now

/-- The value of `supersede`. -/
def superseded (files : Files) (successorId : String) (now : Timestamp) (release : Release) :
    Except Error Release := do
  if isSafe successorId = false then
    throw (.value "Unsafe release ID")
  match files.load successorId with
  | none => throw (.value "Successor must be a persisted released version")
  | some successor =>
    if successor.status ≠ .released then
      throw (.value "Successor must be a persisted released version")
    if release.version.lt successor.version = false then
      throw (.value "Successor version must increase")
    let value ← Release.new
      { release.toReleaseFields with supersededBy := some successorId }
    transition value .superseded now

/-- The value of `attach_notes`. -/
def withNotes (release : Release) : Except Error Release :=
  let notes := generateNotes release.toReleaseFields
  let entries := (notes.requirements.map fun item => "Requirement " ++ item) ++
    notes.milestones.map fun item => "Milestone " ++ item
  Release.new
    { release.toReleaseFields with notes := some notes, changelog := some ⟨entries⟩ }

/-! ## Calls -/

/-- An operation of the service with its arguments, apart from the release. -/
inductive Request (D : Digests) where
  | create (registered : Except Error Unit)
  | createCandidate (candidate : ReleaseCandidate) (now : Timestamp)
  | submit (runs : Option (Acceptance.Store D)) (now : Timestamp)
  | approve (runs : Option (Acceptance.Store D)) (approval : ReleaseApproval)
      (now : Timestamp) (allowSelfApproval : Bool)
  | reject (decision : ReleaseApproval) (now : Timestamp)
  | publish (runs : Option (Acceptance.Store D)) (now : Timestamp)
  | rollback (record : RollbackRecord) (now : Timestamp)
  | supersede (successorId : String) (now : Timestamp)
  | attachNotes

/-- The value that an operation stores, if its checks pass. -/
def Request.value (files : Files) (release : Release) : Request D → Except Error Release
  | .create registered => created registered files release
  | .createCandidate candidate now => withCandidate candidate now release
  | .submit runs now => submitted setting runs now release
  | .approve runs approval now allowSelfApproval =>
      approved setting runs approval now allowSelfApproval release
  | .reject decision now => rejected decision now release
  | .publish runs now => published setting runs now release
  | .rollback record now => rolledBack record now release
  | .supersede successorId now => superseded files successorId now release
  | .attachNotes => withNotes release

/-- The operation publishes an event once it has saved. -/
def Request.publishes : Request D → Bool
  | .create _ | .approve .. | .publish .. | .rollback .. => true
  | _ => false

def raised {α : Type} (value : Except Error α) : Operation α :=
  match value with
  | .ok value => pure value
  | .error error => throw error

/-- A call: an operation on a release, whether the process ends between the two writes of its
save, and what the event publisher answers. -/
structure Call (D : Digests) where
  request : Request D
  release : Release
  crashes : Bool
  published : Except Error Unit

/-- `ReleaseManagementService.create` and the other operations: check, save, publish. -/
def Call.operation (call : Call D) : Operation Release := do
  let value ← raised (call.request.value setting (← get) call.release)
  save call.crashes value
  if call.request.publishes = true then
    raised call.published
  pure value

/-- The files after a call, whether it returns, raises or is cut short. -/
def Call.perform (files : Files) (call : Call D) : Files :=
  (exec (call.operation setting) files).2

/-! ## What a save does -/

section Saves

variable {setting} {files : Files} {release value : Release}

/-- The snapshot on file lets the release be written. -/
def Writable (files : Files) (release : Release) : Prop :=
  isSafe release.releaseId = true ∧
    files.snapshot release.releaseId release.status ≠ some release ∧
    ∀ existing, files.snapshot release.releaseId release.status = some existing →
      existing.status.isFinal = false ∧ existing.approvals <+: release.approvals

/-- The files after the writes of a save. -/
def Files.written (files : Files) (crashes : Bool) (release : Release) : Files :=
  if crashes = true then files.writeSnapshot release
  else (files.writeSnapshot release).writeCurrent release

theorem exec_write (crashes : Bool) (files : Files) (release : Release) :
    (exec (write crashes release) files).2 = files.written crashes release := by
  unfold write Files.written
  cases crashes <;> simp

theorem exec_save (crashes : Bool) (files : Files) (release : Release) :
    (Writable files release ∧
      (exec (save crashes release) files).2 = files.written crashes release) ∨
    (¬Writable files release ∧ (exec (save crashes release) files).2 = files) := by
  have hwrite := exec_write crashes files release
  unfold save
  by_cases hsafe : isSafe release.releaseId = true
  · cases hsnapshot : files.snapshot release.releaseId release.status with
    | none =>
        refine .inl ⟨⟨hsafe, by simp [hsnapshot], by simp [hsnapshot]⟩, ?_⟩
        simp [hsafe, hsnapshot, hwrite]
    | some existing =>
        by_cases hsame : existing = release
        · refine .inr ⟨fun h => h.2.1 (by rw [hsnapshot, hsame]), ?_⟩
          simp [hsafe, hsnapshot, hsame]
        · by_cases hfinal : existing.status.isFinal = true
          · refine .inr ⟨fun h => ?_, by simp [hsafe, hsnapshot, hsame, hfinal]⟩
            rw [(h.2.2 existing hsnapshot).1] at hfinal
            cases hfinal
          · by_cases hbegins : existing.approvals <+: release.approvals
            · refine .inl ⟨⟨hsafe, by simp [hsnapshot, hsame], ?_⟩, ?_⟩
              · rintro earlier hearlier
                cases hsnapshot.symm.trans hearlier
                exact ⟨by simpa using hfinal, hbegins⟩
              · simp [hsafe, hsnapshot, hsame, hfinal, hbegins, hwrite]
            · refine .inr ⟨fun h => hbegins (h.2.2 existing hsnapshot).2, ?_⟩
              simp [hsafe, hsnapshot, hsame, hfinal, hbegins]
  · exact .inr ⟨fun h => hsafe h.1, by simp [hsafe]⟩

/-- A call writes the value of its operation when that is writable, and nothing else. -/
theorem perform_cases (setting : Setting) (files : Files) (call : Call D) :
    (∃ value, call.request.value setting files call.release = .ok value ∧
      Writable files value ∧ call.perform setting files = files.written call.crashes value) ∨
    (call.perform setting files = files ∧
      ∀ value, call.request.value setting files call.release = .ok value →
        ¬Writable files value) := by
  unfold Call.perform Call.operation
  rw [exec_bind, exec_get]
  cases hvalue : call.request.value setting files call.release with
  | error error => exact .inr ⟨by simp [hvalue, raised], fun _ h => nomatch h⟩
  | ok value =>
    have hlast : (exec (do
        save call.crashes value
        if call.request.publishes = true then
          raised call.published
        pure value) files).2 = (exec (save call.crashes value) files).2 := by
      rw [exec_bind]
      rcases exec (save call.crashes value) files with ⟨_ | _, files'⟩
      · rfl
      · cases call.request.publishes <;> cases call.published <;> rfl
    simp only [hvalue, raised, exec_bind, exec_pure] at hlast ⊢
    rcases exec_save call.crashes files value with ⟨hwritable, hsaved⟩ | ⟨hrefused, hsaved⟩
    · exact .inl ⟨value, rfl, hwritable, hlast.trans hsaved⟩
    · refine .inr ⟨hlast.trans hsaved, fun other hother => ?_⟩
      cases hother
      exact hrefused

end Saves

end Releases
end Ascos
