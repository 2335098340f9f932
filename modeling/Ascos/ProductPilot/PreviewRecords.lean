import Ascos.GitHubDelivery.Model

/-!
# Records of preview deployments

The records of `runtime/preview_deployment/models.py`, and the plans of
`runtime/workforce_devops/models.py` that a preview is deployed by.  Every instant is in UTC.
-/

namespace Ascos
namespace ProductPilot

open Ascos.GitHubDelivery (Error check identifier checkDigest checkCommit isBranch contains
  isFullName)
open Ascos.CustomerPlanning (firstChars)
open Ascos.Library
open Ascos.Runtime (Timestamp isSpace)

/-! ## Fields -/

/-- What `urlparse` finds in a URL. -/
structure ParsedUrl where
  scheme : String
  hostname : Option String
  username : Option String := none
  password : Option String := none
  port : Option Nat := none
  path : String := ""
  query : String := ""
  fragment : String := ""
deriving DecidableEq

/-- `urlparse`, which may raise an error. -/
abbrev UrlParser :=
  String → Except Error ParsedUrl

/-- `_branch`. -/
def checkBranch (value label : String) : Except Error Unit :=
  check (isBranch value &&
    value ∉ ["HEAD", "FETCH_HEAD", "ORIG_HEAD", "main", "master", "production"])
    (label ++ " is invalid")

/-- `_preview_url` of the preview and of the acceptance records. -/
def checkPreviewUrl (urlparse : UrlParser) (value label : String) (allowPath : Bool) :
    Except Error Unit := do
  check (decide (value.length ≤ 500)) (label ++ " is invalid")
  let parsed ← urlparse value
  check (parsed.scheme = "https" && parsed.hostname.any (fun hostname => hostname ≠ "" &&
      ".preview.invalid".toList.isSuffixOf hostname.toList) &&
    parsed.username.isNone && parsed.password.isNone && parsed.port.isNone &&
    parsed.query = "" && parsed.fragment = "" &&
    (if allowPath = true then
      "/".toList.isPrefixOf parsed.path.toList && !contains ".." parsed.path
    else parsed.path ∈ ["", "/"])) (label ++ " is invalid")

/-- Checks of identifiers that are told apart by their labels. -/
def identifiers (entity : String) (values : List (String × String)) : Except Error Unit :=
  values.forM fun value => identifier value.1 (entity ++ " " ++ value.2 ++ " ID")

/-- Checks of digests that are told apart by their labels. -/
def checkDigests (entity : String) (values : List (String × String)) : Except Error Unit :=
  values.forM fun value => checkDigest value.1 (entity ++ " " ++ value.2 ++ " digest")

/-- How long an order, an authority and an artifact are valid at most. -/
def dayLong (issuedAt expiresAt : Timestamp) : Bool :=
  decide (issuedAt < expiresAt ∧ expiresAt ≤ issuedAt + 24 * 60 * 60 * 1000000)

/-! ## Closed values -/

def previewEnvironmentClass : String :=
  "ISOLATED_NON_PRODUCTION_PREVIEW"

def previewDeploymentActions : List String :=
  ["VERIFY_APPROVED_PREVIEW_SOURCE", "RESERVE_ISOLATED_PREVIEW", "DEPLOY_APPROVED_COMMIT",
    "APPLY_PREVIEW_MIGRATIONS", "VERIFY_PREVIEW_HEALTH", "ENABLE_PREVIEW_MONITORING",
    "REPORT_PREVIEW_STATUS"]

def previewDeploymentCapabilities : List String :=
  ["exact-day33-delivery-binding", "exact-day28-devops-plan-binding",
    "isolated-preview-reservation", "approved-commit-preview-deployment",
    "preview-only-migration-execution", "preview-health-and-monitoring-verification",
    "rollback-readiness-reporting"]

def previewDeploymentToolIds : List String :=
  ["SCOPED_PREVIEW_PLATFORM", "OPAQUE_PREVIEW_CREDENTIALS"]

/-- `PILOT_STATUS` of every source. -/
def sourcePilotStatus : String :=
  "NOT_SELECTED"

/-- `ARTIFACT_STATUS` of the previews. -/
def previewArtifactStatus : String :=
  "PREVIEW_DEPLOYED_AWAITING_RUNTIME_ACCEPTANCE"

def pullRequestState : String :=
  "OPEN_DRAFT_UNMERGED"

def environmentState : String :=
  "ACTIVE_HEALTHY_ISOLATED_PREVIEW"

/-- `PRODUCTION_STATE` of every artifact. -/
def productionState : String :=
  "NOT_TARGETED"

/-! ## The plans -/

structure PreviewEnvironmentPlan where
  environmentClass : String
  executionState : String
  content : String
deriving DecidableEq

structure MigrationPlan where
  executionState : String
  content : String
deriving DecidableEq

/-- `DeploymentPlan`, `MonitoringPlan` and `RollbackPlan`, which are of the same form as far as
a preview reads them. -/
structure TargetedPlan where
  targetEnvironment : String
  executionState : String
  content : String
deriving DecidableEq

structure DevOpsWorkArtifact where
  artifactId : String
  tenantId : String
  opportunityId : String
  executionId : String
  qaArtifactDigest : String
  securityArtifactDigest : String
  previewEnvironment : PreviewEnvironmentPlan
  migrationPlan : MigrationPlan
  deploymentPlan : TargetedPlan
  monitoringPlan : TargetedPlan
  rollbackPlan : TargetedPlan
  status : String
  pilotStatus : String
  content : String
deriving DecidableEq

def DevOpsWorkArtifact.executionStates (artifact : DevOpsWorkArtifact) : List String :=
  [artifact.previewEnvironment.executionState, artifact.migrationPlan.executionState,
    artifact.deploymentPlan.executionState, artifact.monitoringPlan.executionState,
    artifact.rollbackPlan.executionState]

/-! ## Records -/

structure PreviewDeploymentWorkOrder where
  workOrderId : String
  tenantId : String
  opportunityId : String
  assignmentId : String
  githubDeliveryArtifactDigest : String
  devopsArtifactDigest : String
  repositoryId : String
  repositoryFullName : String
  featureBranch : String
  approvedCommit : String
  approvedTree : String
  draftPullRequestNumber : Nat
  draftPullRequestDigest : String
  previewEnvironmentId : String
  previewUrl : String
  previewPlanDigest : String
  migrationPlanDigest : String
  deploymentPlanDigest : String
  monitoringPlanDigest : String
  rollbackPlanDigest : String
  configurationDigest : String
  secretReferenceIds : List String
  healthCheckUrls : List String
  objectives : List String
  acceptanceChecks : List String
  constraints : List String
  issuedAt : Timestamp
  expiresAt : Timestamp
  previewTtlMinutes : Nat := 120
deriving DecidableEq

structure PreviewDeploymentAuthority where
  authorityId : String
  issuerId : String
  tenantId : String
  assignmentId : String
  workOrderDigest : String
  githubDeliveryArtifactDigest : String
  devopsArtifactDigest : String
  repositoryId : String
  approvedCommit : String
  previewEnvironmentId : String
  allowedActionIds : List String
  allowedToolIds : List String
  issuedAt : Timestamp
  expiresAt : Timestamp
  maxPlatformCalls : Nat := 6
  maxHealthChecks : Nat := 4
  maxSecretReferences : Nat := 4
deriving DecidableEq

structure PreviewHealthReceipt where
  checkId : String
  url : String
  statusCode : Nat
  responseDigest : String
  checkedAt : Timestamp
deriving DecidableEq

/-- The counts of the effects of a deployment, in an observation and in an artifact. -/
structure PreviewCounts where
  platformCallCount : Nat
  credentialHandleCount : Nat
  deploymentCount : Nat := 1
  migrationCount : Nat := 1
  monitoringConfigurationCount : Nat := 1
  rollbackCount : Nat := 0
  productionDeploymentCount : Nat := 0
  mergeCount : Nat := 0
  releaseCount : Nat := 0
  billingCount : Nat := 0
  secretValueExposureCount : Nat := 0
  unapprovedNetworkCallCount : Nat := 0
  generalCommandCount : Nat := 0
deriving DecidableEq

structure PreviewDeploymentObservation extends PreviewCounts where
  providerId : String
  environmentId : String
  environmentClass : String
  previewUrl : String
  deployedCommit : String
  deployedTree : String
  deploymentRevision : String
  configurationDigest : String
  healthReceipts : List PreviewHealthReceipt
deriving DecidableEq

structure PreviewDeploymentArtifact extends PreviewCounts where
  artifactId : String
  workOrderId : String
  workOrderDigest : String
  tenantId : String
  opportunityId : String
  executionId : String
  assignmentId : String
  githubDeliveryArtifactId : String
  githubDeliveryArtifactDigest : String
  devopsArtifactId : String
  devopsArtifactDigest : String
  codingReviewArtifactDigest : String
  workspaceArtifactDigest : String
  orchestrationArtifactDigest : String
  qaArtifactDigest : String
  securityArtifactDigest : String
  repositoryId : String
  repositoryFullName : String
  featureBranch : String
  approvedCommit : String
  approvedTree : String
  draftPullRequestNumber : Nat
  draftPullRequestDigest : String
  previewEnvironmentId : String
  previewUrl : String
  previewPlanDigest : String
  migrationPlanDigest : String
  deploymentPlanDigest : String
  monitoringPlanDigest : String
  rollbackPlanDigest : String
  configurationDigest : String
  secretReferenceCount : Nat
  providerId : String
  authorityDigest : String
  capabilityIds : List String
  actionIds : List String
  toolIds : List String
  environmentClass : String
  deployedCommit : String
  deployedTree : String
  deploymentRevision : String
  healthReceipts : List PreviewHealthReceipt
  providerOutputDigest : String
  generatedAt : Timestamp
  expiresAt : Timestamp
  sourceState : String := "EXACT_DAY33_DELIVERY_VERIFIED"
  pullRequestState : String := ProductPilot.pullRequestState
  environmentState : String := ProductPilot.environmentState
  deploymentState : String := "DEPLOYED_EXACT_APPROVED_COMMIT"
  migrationState : String := "APPLIED_AND_VERIFIED_IN_PREVIEW"
  monitoringState : String := "ENABLED_FOR_PREVIEW"
  rollbackState : String := "READY_NOT_EXECUTED"
  productionState : String := ProductPilot.productionState
  status : String := previewArtifactStatus
  pilotStatus : String := sourcePilotStatus
deriving DecidableEq

def PreviewDeploymentArtifact.observation (artifact : PreviewDeploymentArtifact) :
    PreviewDeploymentObservation :=
  { toPreviewCounts := artifact.toPreviewCounts
    providerId := artifact.providerId
    environmentId := artifact.previewEnvironmentId
    environmentClass := artifact.environmentClass
    previewUrl := artifact.previewUrl
    deployedCommit := artifact.deployedCommit
    deployedTree := artifact.deployedTree
    deploymentRevision := artifact.deploymentRevision
    configurationDigest := artifact.configurationDigest
    healthReceipts := artifact.healthReceipts }

/-! ## Digests -/

/-- The functions of the standard library that the records of a preview are checked and hashed
with. -/
structure PreviewSetting where
  sha256 : String → String
  urlparse : UrlParser
  orderText : PreviewDeploymentWorkOrder → String
  authorityText : PreviewDeploymentAuthority → String
  observationText : PreviewDeploymentObservation → String
  artifactText : PreviewDeploymentArtifact → String
  envelopeText : PreviewDeploymentArtifact → String
  deliveryText : GitHubDelivery.GitHubDeliveryArtifact → String
  pullRequestText : GitHubDelivery.DraftPullRequestReceipt → String
  devopsText : DevOpsWorkArtifact → String
  environmentPlanText : PreviewEnvironmentPlan → String
  migrationPlanText : MigrationPlan → String
  deploymentPlanText : TargetedPlan → String
  monitoringPlanText : TargetedPlan → String
  rollbackPlanText : TargetedPlan → String

variable (setting : PreviewSetting)

def PreviewDeploymentWorkOrder.digest (order : PreviewDeploymentWorkOrder) : String :=
  setting.sha256 (setting.orderText order)

def PreviewDeploymentAuthority.digest (authority : PreviewDeploymentAuthority) : String :=
  setting.sha256 (setting.authorityText authority)

def PreviewDeploymentObservation.digest (observation : PreviewDeploymentObservation) : String :=
  setting.sha256 (setting.observationText observation)

def PreviewDeploymentArtifact.digest (artifact : PreviewDeploymentArtifact) : String :=
  setting.sha256 (setting.artifactText artifact)

/-- `GitHubDeliveryArtifact.digest`. -/
def deliveryDigest (artifact : GitHubDelivery.GitHubDeliveryArtifact) : String :=
  setting.sha256 (setting.deliveryText artifact)

/-- `DraftPullRequestReceipt.digest`. -/
def pullRequestDigest (receipt : GitHubDelivery.DraftPullRequestReceipt) : String :=
  setting.sha256 (setting.pullRequestText receipt)

def DevOpsWorkArtifact.digest (artifact : DevOpsWorkArtifact) : String :=
  setting.sha256 (setting.devopsText artifact)

/-- The digests of the plans, in the order of the fields of a work order. -/
def DevOpsWorkArtifact.planDigests (artifact : DevOpsWorkArtifact) : List String :=
  [setting.sha256 (setting.environmentPlanText artifact.previewEnvironment),
    setting.sha256 (setting.migrationPlanText artifact.migrationPlan),
    setting.sha256 (setting.deploymentPlanText artifact.deploymentPlan),
    setting.sha256 (setting.monitoringPlanText artifact.monitoringPlan),
    setting.sha256 (setting.rollbackPlanText artifact.rollbackPlan)]

def PreviewDeploymentWorkOrder.planDigests (order : PreviewDeploymentWorkOrder) : List String :=
  [order.previewPlanDigest, order.migrationPlanDigest, order.deploymentPlanDigest,
    order.monitoringPlanDigest, order.rollbackPlanDigest]

/-! ## Constructors -/

def PreviewCounts.prohibited (counts : PreviewCounts) : List Nat :=
  [counts.rollbackCount, counts.productionDeploymentCount, counts.mergeCount,
    counts.releaseCount, counts.billingCount, counts.secretValueExposureCount,
    counts.unapprovedNetworkCallCount, counts.generalCommandCount]

/-- `PreviewDeploymentObservation.__post_init__`, after its receipts, which are constructed. -/
def PreviewDeploymentObservation.postInit (observation : PreviewDeploymentObservation) :
    Except Error Unit := do
  identifier observation.providerId "preview provider ID"
  identifier observation.environmentId "preview environment ID"
  check (observation.environmentClass = previewEnvironmentClass)
    "Preview observation targeted a non-preview environment"
  checkPreviewUrl setting.urlparse observation.previewUrl "observed preview URL" false
  checkCommit observation.deployedCommit "preview deployed commit"
  checkCommit observation.deployedTree "preview deployed tree"
  identifier observation.deploymentRevision "preview deployment revision"
  checkDigest observation.configurationDigest "preview configuration digest"
  check (decide (2 ≤ observation.healthReceipts.length ∧ observation.healthReceipts.length ≤ 8))
    "preview health receipts are invalid"
  check (decide (observation.healthReceipts.map (·.url)).Nodup)
    "Preview health receipts are duplicated"
  check (decide (3 ≤ observation.platformCallCount ∧ observation.platformCallCount ≤ 12))
    "Preview platform-call count is invalid"
  check (decide (observation.credentialHandleCount ≤ 8))
    "Preview credential-handle count is invalid"
  check (decide ((observation.deploymentCount, observation.migrationCount,
    observation.monitoringConfigurationCount) = (1, 1, 1)))
    "Preview deployment effects are incomplete"
  check (observation.prohibited.all (· = 0)) "Preview observation crossed a prohibited boundary"

/-- `PreviewDeploymentArtifact.__post_init__`, after its states, which are constants. -/
def PreviewDeploymentArtifact.postInit (artifact : PreviewDeploymentArtifact) :
    Except Error Unit := do
  identifiers "preview artifact"
    [(artifact.artifactId, "artifact"), (artifact.workOrderId, "work-order"),
      (artifact.tenantId, "tenant"), (artifact.opportunityId, "opportunity"),
      (artifact.executionId, "execution"), (artifact.assignmentId, "assignment"),
      (artifact.githubDeliveryArtifactId, "GitHub-delivery artifact"),
      (artifact.devopsArtifactId, "DevOps artifact"), (artifact.repositoryId, "repository"),
      (artifact.previewEnvironmentId, "environment")]
  checkDigests "preview artifact"
    [(artifact.workOrderDigest, "work-order"),
      (artifact.githubDeliveryArtifactDigest, "GitHub-delivery artifact"),
      (artifact.devopsArtifactDigest, "DevOps artifact"),
      (artifact.codingReviewArtifactDigest, "coding-review artifact"),
      (artifact.workspaceArtifactDigest, "workspace artifact"),
      (artifact.orchestrationArtifactDigest, "orchestration artifact"),
      (artifact.qaArtifactDigest, "QA artifact"),
      (artifact.securityArtifactDigest, "Security artifact"),
      (artifact.draftPullRequestDigest, "draft pull-request"),
      (artifact.previewPlanDigest, "preview plan"),
      (artifact.migrationPlanDigest, "migration plan"),
      (artifact.deploymentPlanDigest, "deployment plan"),
      (artifact.monitoringPlanDigest, "monitoring plan"),
      (artifact.rollbackPlanDigest, "rollback plan"),
      (artifact.configurationDigest, "configuration"), (artifact.authorityDigest, "authority"),
      (artifact.providerOutputDigest, "provider output")]
  check (isFullName artifact.repositoryFullName) "Preview artifact repository full name is invalid"
  checkBranch artifact.featureBranch "preview artifact feature branch"
  checkCommit artifact.approvedCommit "preview artifact approved commit"
  checkCommit artifact.approvedTree "preview artifact approved tree"
  checkPreviewUrl setting.urlparse artifact.previewUrl "preview artifact URL" false
  check (decide (1 ≤ artifact.draftPullRequestNumber))
    "Preview artifact pull-request number is invalid"
  check (decide (artifact.secretReferenceCount ≤ 8))
    "Preview artifact secret-reference count is invalid"
  check (artifact.capabilityIds = previewDeploymentCapabilities &&
    artifact.actionIds = previewDeploymentActions && artifact.toolIds = previewDeploymentToolIds)
    "Preview artifact profile is invalid"
  artifact.observation.postInit setting
  check (artifact.observation.digest setting = artifact.providerOutputDigest)
    "Preview provider output digest is invalid"
  check (dayLong artifact.generatedAt artifact.expiresAt) "Preview artifact lifetime is invalid"

/-- `artifact_id_for` of the previews. -/
def previewArtifactIdFor (executionId : String) : Except Error String := do
  identifier executionId "preview execution ID"
  pure ("preview-deployment-" ++ firstChars (setting.sha256 executionId) 24)

end ProductPilot
end Ascos
