import Ascos.Authentication.Model
import Ascos.CustomerPlanning.Model
import Ascos.Library.Texts
import Ascos.Library.Versions

/-!
# GitHub delivery records

The records of `runtime/github_delivery/models.py`: the order to deliver reviewed files,
the authority that goes with it, what the provider observed, and the artifact that is stored.
Every instant is in UTC.
-/

namespace Ascos
namespace GitHubDelivery

open Ascos.Authentication (isIdentifierChar)
open Ascos.CustomerPlanning (isDigest isHex firstChars)
open Ascos.Library
open Ascos.Runtime (Timestamp isSpace)

/-! ## Errors -/

/-- The exception classes of the package; those of the code that it calls are known by their
names. -/
inductive ErrorClass where
  | valueError
  | policyError
  | notFound
  | conflict
  | corrupt
  | reconciliationRequired
  | other (name : String)
deriving DecidableEq

/-- A raised exception with its message. -/
structure Error where
  errorClass : ErrorClass
  message : String
deriving DecidableEq

/-! ## Closed values -/

def githubDeliveryActions : List String :=
  ["VERIFY_REVIEWED_DELIVERY", "STAGE_REVIEWED_FILES", "CREATE_REVIEWED_COMMIT",
    "PUSH_FEATURE_BRANCH", "OPEN_DRAFT_PULL_REQUEST", "REPORT_DELIVERY_STATUS"]

def githubDeliveryCapabilities : List String :=
  ["exact-day32-review-binding", "reviewed-path-only-staging", "single-parent-reviewed-commit",
    "non-force-feature-branch-push", "draft-pull-request-creation", "delivery-status-reporting"]

def githubDeliveryToolIds : List String :=
  ["CONTROLLED_LOCAL_GIT_DELIVERY", "SCOPED_GITHUB_DRAFT_PR"]

/-! ## Records -/

structure ReviewedFileBinding where
  path : String
  ownerRole : String
  contentDigest : String
deriving DecidableEq

structure GitHubDeliveryWorkOrder where
  workOrderId : String
  tenantId : String
  opportunityId : String
  assignmentId : String
  codingReviewArtifactDigest : String
  workspaceArtifactDigest : String
  repositoryId : String
  repositoryIdentity : String
  repositoryFullName : String
  workspaceId : String
  baseBranch : String
  baseCommit : String
  baseTree : String
  featureBranch : String
  reviewedFiles : List ReviewedFileBinding
  finalDiffDigest : String
  commitMessage : String
  pullRequestTitle : String
  pullRequestBody : String
  objectives : List String
  acceptanceChecks : List String
  constraints : List String
  issuedAt : Timestamp
deriving DecidableEq

def GitHubDeliveryWorkOrder.reviewedPaths (order : GitHubDeliveryWorkOrder) : List String :=
  order.reviewedFiles.map (·.path)

structure GitHubDeliveryAuthority where
  authorityId : String
  issuerId : String
  tenantId : String
  assignmentId : String
  workOrderDigest : String
  codingReviewArtifactDigest : String
  repositoryId : String
  workspaceId : String
  baseBranch : String
  featureBranch : String
  allowedActionIds : List String
  allowedToolIds : List String
  issuedAt : Timestamp
  expiresAt : Timestamp
  maxReviewedPaths : Nat := 32
  maxGitCommands : Nat := 64
  maxControlledNetworkCalls : Nat := 8
  repositoryWriteAllowed : Bool := true
  controlledNetworkAllowed : Bool := true
  scopedCredentialHandleAllowed : Bool := true
  commitAllowed : Bool := true
  pushAllowed : Bool := true
  pullRequestAllowed : Bool := true
  draftOnly : Bool := true
  forcePushAllowed : Bool := false
  mergeAllowed : Bool := false
  deploymentAllowed : Bool := false
  releaseAllowed : Bool := false
deriving DecidableEq

structure DraftPullRequestReceipt where
  number : Nat
  url : String
  repositoryFullName : String
  baseBranch : String
  headBranch : String
  baseCommit : String
  headCommit : String
  title : String
  bodyDigest : String
  draft : Bool := true
  state : String := "OPEN"
  merged : Bool := false
deriving DecidableEq

structure GitHubDeliveryObservation where
  providerId : String
  stagedPaths : List String
  committedPaths : List String
  commitParent : String
  commitSha : String
  commitTree : String
  remoteBranchSha : String
  pullRequest : DraftPullRequestReceipt
  gitCommandCount : Nat
  controlledNetworkCallCount : Nat
  credentialHandleCount : Nat := 0
  secretValueExposureCount : Nat := 0
  unapprovedNetworkCallCount : Nat := 0
  unrelatedPathCount : Nat := 0
  generalCommandCount : Nat := 0
  forcePushCount : Nat := 0
  commitCount : Nat := 1
  pushCount : Nat := 1
  pullRequestCount : Nat := 1
  mergeCount : Nat := 0
  deploymentCount : Nat := 0
  releaseCount : Nat := 0
deriving DecidableEq

/-- `CodingReviewArtifact`, as far as the service reads it. -/
structure CodingReviewArtifact where
  artifactId : String
  tenantId : String
  opportunityId : String
  executionId : String
  orchestrationArtifactDigest : String
  workspaceArtifactDigest : String
  qaArtifactDigest : String
  securityArtifactDigest : String
  repositoryId : String
  repositoryIdentity : String
  workspaceId : String
  baseBranch : String
  baseCommit : String
  baseTree : String
  featureBranch : String
  finalChangedPaths : List String
  finalFiles : List ReviewedFileBinding
  finalDiffDigest : String
  commitCount : Nat := 0
  pushCount : Nat := 0
  pullRequestCount : Nat := 0
  sourceState : String := "CLEAN_AND_UNCHANGED"
  workspaceState : String := "DIRTY_REVIEWED_NOT_COMMITTED"
  qaState : String := "PASS"
  securityState : String := "PASS"
  deliveryState : String := "NOT_STARTED"
  status : String := "CODING_AND_REVIEWS_PASSED_AWAITING_CONTROLLED_GITHUB_DELIVERY"
  pilotStatus : String := "NOT_SELECTED"
deriving DecidableEq

structure GitHubDeliveryArtifact extends GitHubDeliveryObservation where
  artifactId : String
  workOrderId : String
  workOrderDigest : String
  tenantId : String
  opportunityId : String
  executionId : String
  assignmentId : String
  codingReviewArtifactId : String
  codingReviewArtifactDigest : String
  workspaceArtifactDigest : String
  orchestrationArtifactDigest : String
  qaArtifactDigest : String
  securityArtifactDigest : String
  repositoryId : String
  repositoryIdentity : String
  repositoryFullName : String
  workspaceId : String
  baseBranch : String
  baseCommit : String
  baseTree : String
  featureBranch : String
  reviewedFiles : List ReviewedFileBinding
  finalDiffDigest : String
  commitMessage : String
  pullRequestTitle : String
  pullRequestBodyDigest : String
  authorityDigest : String
  capabilityIds : List String
  actionIds : List String
  toolIds : List String
  providerOutputDigest : String
  generatedAt : Timestamp
  sourceState : String := "CLEAN_AND_UNCHANGED"
  workspaceState : String := "CLEAN_COMMITTED_AND_PUSHED"
  branchState : String := "FEATURE_BRANCH_PUSHED_AT_EXACT_REVIEWED_COMMIT"
  pullRequestState : String := "OPEN_DRAFT_UNMERGED"
  deliveryState : String := "DRAFT_PR_OPEN"
  status : String := "DRAFT_PULL_REQUEST_OPEN_AWAITING_HUMAN_REVIEW"
  pilotStatus : String := "NOT_SELECTED"
deriving DecidableEq

/-! ## Digests -/

/-- The hash of the standard library, the canonical texts that are hashed, and that of a stored
artifact with its envelope. -/
structure Setting where
  sha256 : String → String
  orderText : GitHubDeliveryWorkOrder → String
  authorityText : GitHubDeliveryAuthority → String
  observationText : GitHubDeliveryObservation → String
  reviewText : CodingReviewArtifact → String
  envelopeText : GitHubDeliveryArtifact → String

variable (setting : Setting)

def GitHubDeliveryWorkOrder.digest (order : GitHubDeliveryWorkOrder) : String :=
  setting.sha256 (setting.orderText order)

def GitHubDeliveryWorkOrder.pullRequestBodyDigest (order : GitHubDeliveryWorkOrder) : String :=
  setting.sha256 order.pullRequestBody

def GitHubDeliveryAuthority.digest (authority : GitHubDeliveryAuthority) : String :=
  setting.sha256 (setting.authorityText authority)

def GitHubDeliveryObservation.digest (observation : GitHubDeliveryObservation) : String :=
  setting.sha256 (setting.observationText observation)

def CodingReviewArtifact.digest (artifact : CodingReviewArtifact) : String :=
  setting.sha256 (setting.reviewText artifact)

/-! ## Checks of fields -/

/-- A check of one field against a condition. -/
def check (accepted : Bool) (message : String) : Except Error Unit :=
  if accepted = true then pure () else throw ⟨.valueError, message⟩

/-- `_IDENTIFIER.fullmatch`. -/
def isIdentifier (value : String) : Bool :=
  match value.toList with
  | [] => false
  | c :: rest => isIdentifierChar [] c && decide (rest.length ≤ 127) &&
      rest.all (isIdentifierChar ['_', '.', ':', '-'])

def identifier (value label : String) : Except Error Unit :=
  check (isIdentifier value) (label ++ " is invalid")

/-- `_digest`. -/
def checkDigest (value label : String) : Except Error Unit :=
  check (isDigest value) (label ++ " is invalid")

/-- `_commit`. -/
def checkCommit (value label : String) : Except Error Unit :=
  check (decide (value.length = 40) && value.toList.all isHex) (label ++ " is invalid")

/-- Whether a text has a part. -/
def contains (part : String) (value : String) : Bool :=
  value.toList.tails.any part.toList.isPrefixOf

/-- `_BRANCH.fullmatch`, and the ends that `_branch` forbids. -/
def isBranch (value : String) : Bool :=
  match value.toList with
  | [] => false
  | c :: rest => isIdentifierChar [] c && decide (rest.length ≤ 199) &&
      rest.all (isIdentifierChar ['.', '_', '/', '-']) && !contains ".." value &&
        !contains "//" value && value.toList.getLast?.all fun c => c ∉ ['/', '.']

/-- `_branch`. -/
def checkBranch (value label : String) (protectedAllowed : Bool) : Except Error Unit := do
  check (isBranch value && value ∉ ["HEAD", "FETCH_HEAD", "ORIG_HEAD"]) (label ++ " is invalid")
  check (protectedAllowed || value ∉ ["main", "master", "production", "release"])
    (label ++ " is protected")

/-- The parts of a path, as `PurePosixPath` has them: empty and single-dot parts do not count. -/
def pathParts (value : String) : List (List Char) :=
  (value.toList.splitOn '/').filter fun part => part ≠ [] ∧ part ≠ ['.']

/-- `_path`. -/
def checkPath (value label : String) : Except Error Unit :=
  check (value ≠ "" && '\x00' ∉ value.toList && '\\' ∉ value.toList &&
    value.toList.head? ≠ some '/' && (pathParts value).all (fun part =>
      part ≠ ['.', '.'] && part ≠ ".git".toList) && decide (value.length ≤ 240))
    (label ++ " is invalid")

/-- `_paths`. -/
def checkPaths (values : List String) (label : String) (minimum maximum : Nat) :
    Except Error Unit := do
  check (decide (minimum ≤ values.length ∧ values.length ≤ maximum)) (label ++ " are invalid")
  values.forM (checkPath · label)
  check (decide (values.Nodup ∧ values = values.insertionSort (· ≤ ·)))
    (label ++ " must be unique and sorted")

def singleLine (value label : String) (maximum : Nat) : Except Error Unit :=
  check (value ≠ "" && decide (value = strip isSpace value) &&
    value.toList.all (· ∉ ['\x00', '\n', '\r']) && decide (value.length ≤ maximum))
    (label ++ " is invalid")

/-- A character of the full name of a repository. -/
def isNameChar (c : Char) : Bool :=
  isIdentifierChar ['_', '.', '-'] c

def isNamePart (part : List Char) : Bool :=
  decide (1 ≤ part.length ∧ part.length ≤ 100) && part.all isNameChar

/-- `_FULL_NAME.fullmatch`. -/
def isFullName (value : String) : Bool :=
  match value.toList.splitOn '/' with
  | [owner, name] => isNamePart owner && isNamePart name
  | _ => false

/-- `repository_full_name_for`; an ending `.git` does not belong to the name. -/
def repositoryFullNameFor (identity : String) : Except Error String :=
  let location := "https://github.com/".toList
  let path := identity.toList.drop location.length
  let name := if ".git".toList.isSuffixOf path && isFullName (String.ofList
    (path.take (path.length - 4))) then path.take (path.length - 4) else path
  if location.isPrefixOf identity.toList && isFullName (String.ofList name) then
    pure (String.ofList name)
  else
    throw ⟨.valueError, "GitHub repository identity must be an exact HTTPS GitHub repository"⟩

/-! ## Constructors -/

def GitHubDeliveryObservation.postInit (observation : GitHubDeliveryObservation) :
    Except Error Unit := do
  identifier observation.providerId "delivery provider ID"
  checkPaths observation.stagedPaths "staged paths" 1 32
  checkPaths observation.committedPaths "committed paths" 1 32
  check (observation.stagedPaths = observation.committedPaths) "Staged and committed paths differ"
  checkCommit observation.commitParent "commit parent"
  checkCommit observation.commitSha "commit SHA"
  checkCommit observation.commitTree "commit tree"
  checkCommit observation.remoteBranchSha "remote branch SHA"
  check (observation.remoteBranchSha = observation.commitSha)
    "Remote branch does not match reviewed commit"
  check (observation.pullRequest.headCommit = observation.commitSha)
    "Pull request is not bound to the reviewed commit"
  check (decide (1 ≤ observation.gitCommandCount ∧ observation.gitCommandCount ≤ 96))
    "Delivery Git-command count is invalid"
  check (decide (3 ≤ observation.controlledNetworkCallCount ∧
    observation.controlledNetworkCallCount ≤ 12)) "Delivery controlled-network count is invalid"
  check (decide (observation.credentialHandleCount ≤ 2))
    "Delivery credential-handle count is invalid"
  check ([observation.secretValueExposureCount, observation.unapprovedNetworkCallCount,
    observation.unrelatedPathCount, observation.generalCommandCount, observation.forcePushCount,
    observation.mergeCount, observation.deploymentCount, observation.releaseCount].all (· = 0))
    "Delivery observation crossed a prohibited boundary"
  check (decide ((observation.commitCount, observation.pushCount, observation.pullRequestCount) =
    (1, 1, 1))) "Delivery must perform exactly one commit, push, and draft PR"

/-- `GitHubDeliveryArtifact.__post_init__`, after its states, which are constants. -/
def GitHubDeliveryArtifact.postInit (artifact : GitHubDeliveryArtifact) : Except Error Unit := do
  identifier artifact.artifactId "GitHub-delivery artifact ID"
  identifier artifact.workOrderId "GitHub-delivery work-order ID"
  identifier artifact.tenantId "GitHub-delivery tenant ID"
  identifier artifact.opportunityId "GitHub-delivery opportunity ID"
  identifier artifact.executionId "GitHub-delivery execution ID"
  identifier artifact.assignmentId "GitHub-delivery assignment ID"
  identifier artifact.codingReviewArtifactId "GitHub-delivery coding-review artifact ID"
  identifier artifact.repositoryId "GitHub-delivery repository ID"
  identifier artifact.workspaceId "GitHub-delivery workspace ID"
  identifier artifact.providerId "GitHub-delivery provider ID"
  checkDigest artifact.workOrderDigest "work-order digest"
  checkDigest artifact.codingReviewArtifactDigest "coding-review artifact digest"
  checkDigest artifact.workspaceArtifactDigest "workspace artifact digest"
  checkDigest artifact.orchestrationArtifactDigest "orchestration artifact digest"
  checkDigest artifact.qaArtifactDigest "QA artifact digest"
  checkDigest artifact.securityArtifactDigest "Security artifact digest"
  checkDigest artifact.finalDiffDigest "reviewed diff digest"
  checkDigest artifact.pullRequestBodyDigest "pull-request body digest"
  checkDigest artifact.authorityDigest "authority digest"
  checkDigest artifact.providerOutputDigest "provider output digest"
  check (decide (repositoryFullNameFor artifact.repositoryIdentity =
    .ok artifact.repositoryFullName)) "Delivery artifact repository identity is invalid"
  checkBranch artifact.baseBranch "artifact base branch" true
  checkBranch artifact.featureBranch "artifact feature branch" false
  checkCommit artifact.baseCommit "artifact base commit"
  checkCommit artifact.baseTree "artifact base tree"
  check (decide (1 ≤ artifact.reviewedFiles.length ∧ artifact.reviewedFiles.length ≤ 32))
    "artifact reviewed files are invalid"
  singleLine artifact.commitMessage "artifact commit message" 200
  singleLine artifact.pullRequestTitle "artifact pull-request title" 200
  check (artifact.capabilityIds = githubDeliveryCapabilities &&
    artifact.actionIds = githubDeliveryActions && artifact.toolIds = githubDeliveryToolIds)
    "GitHub delivery artifact profile is invalid"
  artifact.toGitHubDeliveryObservation.postInit
  check (artifact.toGitHubDeliveryObservation.digest setting = artifact.providerOutputDigest)
    "Delivery provider output digest is invalid"

def artifactIdFor (executionId : String) : Except Error String := do
  identifier executionId "delivery execution ID"
  pure ("github-delivery-" ++ firstChars (setting.sha256 executionId) 24)

/-- A value that has passed the checks of its constructor. -/
def constructed {α : Type} (postInit : α → Except Error Unit) (value : α) : Except Error α := do
  postInit value
  pure value

theorem constructed_eq_ok {α : Type} {postInit : α → Except Error Unit} {value made : α}
    (h : constructed postInit value = .ok made) : made = value := by
  unfold constructed at h
  cases hchecked : postInit value with
  | error e =>
    rw [hchecked] at h
    cases h
  | ok u =>
    rw [hchecked] at h
    cases h
    rfl

end GitHubDelivery
end Ascos
