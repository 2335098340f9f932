import Ascos.ProductPilot.Stores

/-!
# Preview deployment

The service of `runtime/preview_deployment/service.py`.  It deploys the commit of a stored
delivery by stored plans, and stores what it has verified about the deployment.
-/

namespace Ascos
namespace ProductPilot

open Ascos.GitHubDelivery (Error Key GitHubDeliveryArtifact require constructed)
open Ascos.Library
open Ascos.Library.Procedure
open Ascos.Runtime (Timestamp)

namespace Preview

variable (env : Environment)

/-- The arguments of a call. -/
structure Request where
  executionId : String
  workOrder : PreviewDeploymentWorkOrder
  authority : PreviewDeploymentAuthority
  githubDeliveryArtifact : GitHubDeliveryArtifact
  devopsArtifact : DevOpsWorkArtifact

/-- What the clock and the provider answer. -/
structure Answers where
  now : Timestamp
  deployed : Except Error PreviewDeploymentObservation
  generatedAt : Timestamp

/-- The key of the artifact that a call is for. -/
def Request.key (request : Request) : Key :=
  ⟨request.workOrder.tenantId, request.executionId⟩

/-- The delivery is the one that the order names, and has stayed a draft. -/
def deliveryMatches (order : PreviewDeploymentWorkOrder) (artifact : GitHubDeliveryArtifact) :
    Bool :=
  deliveryDigest env.setting.preview artifact = order.githubDeliveryArtifactDigest &&
    artifact.tenantId = order.tenantId && artifact.opportunityId = order.opportunityId &&
    artifact.repositoryId = order.repositoryId &&
    artifact.repositoryFullName = order.repositoryFullName &&
    artifact.featureBranch = order.featureBranch && artifact.commitSha = order.approvedCommit &&
    artifact.commitTree = order.approvedTree &&
    artifact.remoteBranchSha = order.approvedCommit &&
    artifact.pullRequest.number = order.draftPullRequestNumber &&
    pullRequestDigest env.setting.preview artifact.pullRequest = order.draftPullRequestDigest &&
    artifact.pullRequest.headCommit = order.approvedCommit && artifact.pullRequest.draft &&
    artifact.pullRequest.state = "OPEN" && !artifact.pullRequest.merged &&
    artifact.status = "DRAFT_PULL_REQUEST_OPEN_AWAITING_HUMAN_REVIEW" &&
    artifact.pullRequestState = "OPEN_DRAFT_UNMERGED" &&
    artifact.deliveryState = "DRAFT_PR_OPEN" && artifact.pilotStatus = sourcePilotStatus &&
    (artifact.commitCount, artifact.pushCount, artifact.pullRequestCount) = (1, 1, 1) &&
    artifact.forcePushCount = 0 && artifact.mergeCount = 0 && artifact.deploymentCount = 0 &&
    artifact.releaseCount = 0

/-- `_validate_github_delivery`.  An instance of the class has passed its constructor. -/
def validateGithubDelivery (order : PreviewDeploymentWorkOrder)
    (artifact : GitHubDeliveryArtifact) : Piloting Unit := do
  Procedure.ofExcept (require (artifact.postInit env.delivery.setting).isOk
    "Preview GitHub-delivery source is invalid")
  Procedure.ofExcept (require (deliveryMatches env order artifact)
    "Preview deployment requires the exact successful Day 33 delivery artifact")
  let persisted ← loadDelivery artifact.key
  Procedure.ofExcept (require (persisted = artifact)
    "Preview GitHub-delivery source is not exact persisted state")

/-- The plans are those that the order names, for an isolated preview. -/
def devopsMatches (order : PreviewDeploymentWorkOrder) (delivery : GitHubDeliveryArtifact)
    (artifact : DevOpsWorkArtifact) : Bool :=
  artifact.digest env.setting.preview = order.devopsArtifactDigest &&
    artifact.tenantId = order.tenantId && artifact.opportunityId = order.opportunityId &&
    artifact.qaArtifactDigest = delivery.qaArtifactDigest &&
    artifact.securityArtifactDigest = delivery.securityArtifactDigest &&
    artifact.status = "DRAFT_DEVOPS_OUTPUT_AWAITING_AUTHORIZED_WORKSPACE" &&
    artifact.pilotStatus = sourcePilotStatus &&
    artifact.executionStates.all (· = "NOT_EXECUTED") &&
    artifact.previewEnvironment.environmentClass = previewEnvironmentClass &&
    artifact.deploymentPlan.targetEnvironment = previewEnvironmentClass &&
    artifact.monitoringPlan.targetEnvironment = previewEnvironmentClass &&
    artifact.rollbackPlan.targetEnvironment = previewEnvironmentClass &&
    artifact.planDigests env.setting.preview = order.planDigests

def validateDevops (order : PreviewDeploymentWorkOrder) (delivery : GitHubDeliveryArtifact)
    (artifact : DevOpsWorkArtifact) : Piloting Unit := do
  Procedure.ofExcept (require (devopsMatches env order delivery artifact)
    "Preview deployment requires the exact matching persisted Day 28 DevOps plans")
  let persisted ← consult (·.devops ⟨artifact.tenantId, artifact.executionId⟩)
  Procedure.ofExcept (require (persisted = artifact)
    "Preview DevOps source is not exact persisted state")

def validateAuthority (order : PreviewDeploymentWorkOrder)
    (authority : PreviewDeploymentAuthority) (now : Timestamp) : Except Error Unit :=
  require (authority.tenantId = order.tenantId && authority.assignmentId = order.assignmentId &&
    authority.workOrderDigest = order.digest env.setting.preview &&
    authority.githubDeliveryArtifactDigest = order.githubDeliveryArtifactDigest &&
    authority.devopsArtifactDigest = order.devopsArtifactDigest &&
    authority.repositoryId = order.repositoryId &&
    authority.approvedCommit = order.approvedCommit &&
    authority.previewEnvironmentId = order.previewEnvironmentId &&
    authority.allowedActionIds = previewDeploymentActions &&
    authority.allowedToolIds = previewDeploymentToolIds &&
    decide (order.healthCheckUrls.length ≤ authority.maxHealthChecks) &&
    decide (order.secretReferenceIds.length ≤ authority.maxSecretReferences) &&
    decide (authority.issuedAt ≤ now ∧ now < authority.expiresAt) &&
    decide (order.issuedAt ≤ now ∧ now < order.expiresAt))
    "Preview deployment authority is invalid or expired"

def observationMatches (order : PreviewDeploymentWorkOrder)
    (authority : PreviewDeploymentAuthority) (observation : PreviewDeploymentObservation) : Bool :=
  observation.environmentId = order.previewEnvironmentId &&
    observation.environmentClass = previewEnvironmentClass &&
    observation.previewUrl = order.previewUrl &&
    observation.deployedCommit = order.approvedCommit &&
    observation.deployedTree = order.approvedTree &&
    observation.configurationDigest = order.configurationDigest &&
    observation.healthReceipts.map (·.url) = order.healthCheckUrls &&
    decide (observation.platformCallCount ≤ authority.maxPlatformCalls) &&
    observation.credentialHandleCount = order.secretReferenceIds.length &&
    (observation.deploymentCount, observation.migrationCount) = (1, 1) &&
    observation.monitoringConfigurationCount = 1 && observation.prohibited.all (· = 0)

def validateObservation (order : PreviewDeploymentWorkOrder)
    (authority : PreviewDeploymentAuthority) (observation : PreviewDeploymentObservation) :
    Except Error Unit :=
  require (observationMatches order authority observation)
    "Preview provider result does not match the authorized exact deployment"

def newArtifact (request : Request) (observation : PreviewDeploymentObservation)
    (artifactId : String) (generatedAt : Timestamp) : PreviewDeploymentArtifact :=
  let order := request.workOrder
  let delivery := request.githubDeliveryArtifact
  { toPreviewCounts := observation.toPreviewCounts
    artifactId := artifactId
    workOrderId := order.workOrderId
    workOrderDigest := order.digest env.setting.preview
    tenantId := order.tenantId
    opportunityId := order.opportunityId
    executionId := request.executionId
    assignmentId := order.assignmentId
    githubDeliveryArtifactId := delivery.artifactId
    githubDeliveryArtifactDigest := deliveryDigest env.setting.preview delivery
    devopsArtifactId := request.devopsArtifact.artifactId
    devopsArtifactDigest := request.devopsArtifact.digest env.setting.preview
    codingReviewArtifactDigest := delivery.codingReviewArtifactDigest
    workspaceArtifactDigest := delivery.workspaceArtifactDigest
    orchestrationArtifactDigest := delivery.orchestrationArtifactDigest
    qaArtifactDigest := delivery.qaArtifactDigest
    securityArtifactDigest := delivery.securityArtifactDigest
    repositoryId := order.repositoryId
    repositoryFullName := order.repositoryFullName
    featureBranch := order.featureBranch
    approvedCommit := order.approvedCommit
    approvedTree := order.approvedTree
    draftPullRequestNumber := order.draftPullRequestNumber
    draftPullRequestDigest := order.draftPullRequestDigest
    previewEnvironmentId := order.previewEnvironmentId
    previewUrl := order.previewUrl
    previewPlanDigest := order.previewPlanDigest
    migrationPlanDigest := order.migrationPlanDigest
    deploymentPlanDigest := order.deploymentPlanDigest
    monitoringPlanDigest := order.monitoringPlanDigest
    rollbackPlanDigest := order.rollbackPlanDigest
    configurationDigest := order.configurationDigest
    secretReferenceCount := order.secretReferenceIds.length
    providerId := observation.providerId
    authorityDigest := request.authority.digest env.setting.preview
    capabilityIds := previewDeploymentCapabilities
    actionIds := previewDeploymentActions
    toolIds := previewDeploymentToolIds
    environmentClass := observation.environmentClass
    deployedCommit := observation.deployedCommit
    deployedTree := observation.deployedTree
    deploymentRevision := observation.deploymentRevision
    healthReceipts := observation.healthReceipts
    providerOutputDigest := observation.digest env.setting.preview
    generatedAt := generatedAt
    expiresAt := generatedAt + order.previewTtlMinutes * 60 * 1000000 }

/-- The stored artifact is that of a call with the same arguments. -/
def sameRequest (request : Request) (artifact : PreviewDeploymentArtifact) : Bool :=
  artifact.workOrderDigest = request.workOrder.digest env.setting.preview &&
    artifact.authorityDigest = request.authority.digest env.setting.preview &&
    artifact.githubDeliveryArtifactDigest =
      deliveryDigest env.setting.preview request.githubDeliveryArtifact &&
    artifact.devopsArtifactDigest = request.devopsArtifact.digest env.setting.preview

/-- `run`, where no artifact is stored. -/
def runNew (request : Request) (answers : Answers) : Piloting PreviewDeploymentArtifact := do
  validateGithubDelivery env request.workOrder request.githubDeliveryArtifact
  validateDevops env request.workOrder request.githubDeliveryArtifact request.devopsArtifact
  Procedure.ofExcept (validateAuthority env request.workOrder request.authority answers.now)
  let observation ← Procedure.ofExcept answers.deployed
  Procedure.ofExcept (validateObservation request.workOrder request.authority observation)
  let artifactId ← Procedure.ofExcept
    (previewArtifactIdFor env.setting.preview request.executionId)
  let artifact ← Procedure.ofExcept
    (constructed (PreviewDeploymentArtifact.postInit env.setting.preview)
      (newArtifact env request observation artifactId answers.generatedAt))
  (previewStore env.setting).save artifact

def run (request : Request) (answers : Answers) : Piloting PreviewDeploymentArtifact := do
  let found ← (previewStore env.setting).find request.key
  match found with
  | some artifact =>
    if sameRequest env request artifact = true then pure artifact
    else fail .conflict "Preview execution already has different immutable state"
  | none => runNew env request answers

end Preview
end ProductPilot
end Ascos
