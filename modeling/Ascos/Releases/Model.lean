import Ascos.Acceptance.Service

/-!
# Releases

The records of `runtime/release_management/models.py` with the checks of the
constructor of a release, and `lifecycle.py`.  Every instant is in UTC.
-/

namespace Ascos
namespace Releases

open Ascos.Acceptance (sortedSet isHex)
open Ascos.Runtime (Timestamp isBlank)
open Library

/-! ## Errors -/

/-- The exception classes that the operations raise, any class of other code, and the end of
the process. -/
inductive ErrorClass where
  | valueError
  | other (name : String)
  | crash
deriving DecidableEq

/-- A raised exception with its message. -/
structure Error where
  errorClass : ErrorClass
  message : String
deriving DecidableEq

/-- `ValueError(message)`. -/
def Error.value (message : String) : Error :=
  ⟨.valueError, message⟩

/-! ## Enumerations and versions -/

inductive ReleaseStatus where
  | planned
  | releaseCandidate
  | underReview
  | approved
  | released
  | rolledBack
  | superseded
  | archived
deriving DecidableEq

def ReleaseStatus.value : ReleaseStatus → String
  | .planned => "PLANNED"
  | .releaseCandidate => "RELEASE_CANDIDATE"
  | .underReview => "UNDER_REVIEW"
  | .approved => "APPROVED"
  | .released => "RELEASED"
  | .rolledBack => "ROLLED_BACK"
  | .superseded => "SUPERSEDED"
  | .archived => "ARCHIVED"

/-- `TRANSITIONS[status]`. -/
def ReleaseStatus.transitions : ReleaseStatus → List ReleaseStatus
  | .planned => [.releaseCandidate]
  | .releaseCandidate => [.underReview]
  | .underReview => [.releaseCandidate, .approved]
  | .approved => [.released]
  | .released => [.rolledBack, .superseded]
  | .rolledBack => [.superseded, .archived]
  | .superseded => [.archived]
  | .archived => []

/-- The statuses whose snapshots are never replaced. -/
def ReleaseStatus.isFinal (status : ReleaseStatus) : Bool :=
  status ∈ [.released, .rolledBack, .superseded, .archived]

inductive ReleaseKind where
  | stable
  | hotfix
deriving DecidableEq

structure Version where
  major : Nat
  minor : Nat
  patch : Nat
  releaseCandidate : Option Nat := none
deriving DecidableEq

/-- `Version.__str__`. -/
def Version.toString (version : Version) : String :=
  let stable := s!"{version.major}.{version.minor}.{version.patch}"
  match version.releaseCandidate with
  | none => stable
  | some candidate => stable ++ "-rc." ++ s!"{candidate}"

def Version.precedence (version : Version) : List Nat :=
  [version.major, version.minor, version.patch,
    if version.releaseCandidate = none then 1 else 0, version.releaseCandidate.getD 0]

def Version.lt (first second : Version) : Bool :=
  decide (first.precedence < second.precedence)

/-! ## Records -/

structure ReleaseCandidate where
  candidateId : String
  version : Version
  commitSha : String
  createdBy : String
  createdAt : Timestamp
deriving DecidableEq

structure ReleaseApproval where
  approvalId : String
  approver : String
  decision : String
  rationale : String
  timestamp : Timestamp
  evidenceDigest : String := ""
deriving DecidableEq

structure ReleaseNotes where
  title : String
  summary : String
  requirements : List String
  milestones : List String
  commits : List String
  pullRequests : List String
  decisions : List String
deriving DecidableEq

structure Changelog where
  entries : List String
deriving DecidableEq

structure ReleaseArtifact where
  artifactId : String
  name : String
  digest : String
  mediaType : String
  uri : String
deriving DecidableEq

structure RollbackRecord where
  rollbackId : String
  reason : String
  initiatedBy : String
  targetVersion : String
  timestamp : Timestamp
deriving DecidableEq

structure ReleaseDecision where
  decisionId : String
  decision : String
  rationale : String
  approver : String
  requirementIds : List String
  timestamp : Timestamp
deriving DecidableEq

structure DeploymentRecord where
  deploymentId : String
  environment : String
  status : String
  artifactIds : List String
  deployedBy : String
  timestamp : Timestamp
deriving DecidableEq

/-- The fields of `Release`. -/
structure ReleaseFields where
  releaseId : String
  productIds : List String
  version : Version
  kind : ReleaseKind
  status : ReleaseStatus
  title : String
  createdBy : String
  createdAt : Timestamp
  updatedAt : Timestamp
  requirementIds : List String := []
  milestoneIds : List String := []
  commitShas : List String := []
  pullRequestUrls : List String := []
  decisionIds : List String := []
  lockedCapabilityIds : List String := []
  runtimeAcceptanceRunIds : List String := []
  candidates : List ReleaseCandidate := []
  approvals : List ReleaseApproval := []
  notes : Option ReleaseNotes := none
  changelog : Option Changelog := none
  artifacts : List ReleaseArtifact := []
  rollbacks : List RollbackRecord := []
  decisions : List ReleaseDecision := []
  deployments : List DeploymentRecord := []
  supersedes : Option String := none
  supersededBy : Option String := none
  releasedAt : Option Timestamp := none
deriving DecidableEq

/-- The check of `Release.__post_init__` on a list of identifiers. -/
def uniqueIds (values : List String) (label : String) : Except Error Unit :=
  if ¬values.Nodup ∨ values.any isBlank = true then
    throw (.value (label ++ " must be unique and non-empty"))
  else pure ()

/-- The check of `Release.__post_init__` on one approval. -/
def ReleaseApproval.check (approval : ReleaseApproval) : Except Error Unit := do
  if isBlank approval.approver = true ∨ isBlank approval.rationale = true then
    throw (.value "Approval identity and rationale are required")
  if approval.decision ∉ ["APPROVE", "REJECT", "REQUEST_CHANGES"] then
    throw (.value "Unknown approval decision")

/-- The check of `Release.__post_init__` on one rollback. -/
def RollbackRecord.check (rollback : RollbackRecord) : Except Error Unit :=
  if isBlank rollback.reason = true ∨ isBlank rollback.initiatedBy = true ∨
      isBlank rollback.targetVersion = true then
    throw (.value "Rollback reason, actor, and previous release are required")
  else pure ()

/-- The check of `Release.__post_init__` on one commit. -/
def commitCheck (sha : String) : Except Error Unit :=
  if sha.length ≠ 40 ∨ (sha.toList.all fun c => isHex c.toLower) = false then
    throw (.value "Release commits require full hexadecimal SHAs")
  else pure ()

def ReleaseFields.postInit (release : ReleaseFields) : Except Error Unit := do
  if isBlank release.releaseId = true ∨ isBlank release.title = true ∨
      isBlank release.createdBy = true then
    throw (.value "Release identity fields are required")
  if release.productIds = [] then
    throw (.value "Release requires at least one managed product")
  release.approvals.forM ReleaseApproval.check
  release.rollbacks.forM RollbackRecord.check
  release.commitShas.forM commitCheck
  uniqueIds release.lockedCapabilityIds "locked capability IDs"
  uniqueIds release.runtimeAcceptanceRunIds "runtime acceptance run IDs"

structure Release extends ReleaseFields where
  checked : toReleaseFields.postInit = .ok ()
deriving DecidableEq

/-- The constructor of `Release`, which `replace` calls again. -/
def Release.new (fields : ReleaseFields) : Except Error Release :=
  match h : fields.postInit with
  | .ok () => .ok ⟨fields, h⟩
  | .error error => .error error

def transition (release : Release) (target : ReleaseStatus) (now : Timestamp) :
    Except Error Release :=
  if target ∈ release.status.transitions then
    Release.new
      { release.toReleaseFields with
        status := target
        updatedAt := now
        releasedAt := if target = .released then some now else release.releasedAt }
  else
    throw (.value ("Invalid release transition: " ++ release.status.value ++ " -> " ++
      target.value))

/-! ## Small facts -/

theorem Release.new_ok {fields : ReleaseFields} {release : Release}
    (h : Release.new fields = .ok release) : release.toReleaseFields = fields := by
  unfold Release.new at h
  split at h
  · cases h
    rfl
  · cases h

theorem Release.ext {first second : Release}
    (h : first.toReleaseFields = second.toReleaseFields) : first = second := by
  cases first
  cases second
  cases h
  rfl

theorem transition_ok {release value : Release} {target : ReleaseStatus} {now : Timestamp}
    (h : transition release target now = .ok value) :
    target ∈ release.status.transitions ∧
      value.toReleaseFields =
        { release.toReleaseFields with
          status := target
          updatedAt := now
          releasedAt := if target = .released then some now else release.releasedAt } := by
  unfold transition at h
  split at h
  · rename_i htarget
    exact ⟨htarget, Release.new_ok h⟩
  · cases h

/-- No status is its own successor. -/
theorem not_transitions_self (status : ReleaseStatus) : status ∉ status.transitions := by
  cases status <;> decide

end Releases
end Ascos
