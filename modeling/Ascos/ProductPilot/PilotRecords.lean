import Ascos.CustomerPlanning.Files
import Ascos.ProductPilot.AcceptanceRecords

/-!
# Records of the product pilot

The records of `runtime/end_to_end_product_pilot/models.py`.  A pilot names a customer's
request, its locked plan, the preview that was deployed for it and the acceptance of the preview.
Every instant is in UTC.
-/

namespace Ascos
namespace ProductPilot

open Ascos.GitHubDelivery (Error check identifier checkDigest checkCommit isBranch isFullName)
open Ascos.CustomerPlanning (firstChars)
open Ascos.Library
open Ascos.Runtime (Timestamp isSpace)

/-! ## Fields -/

/-- `_branch` of the pilot records. -/
def checkPilotBranch (value : String) : Except Error Unit :=
  check (isBranch value && "agent/".toList.isPrefixOf value.toList)
    "Product-pilot feature branch is invalid"

/-- `_preview_url` of the pilot records. -/
def checkPilotUrl (urlparse : UrlParser) (value : String) : Except Error Unit := do
  check (decide (value.length ≤ 500) && decide (value = strip isSpace value))
    "Product-pilot preview URL is invalid"
  let parsed ← urlparse value
  check (parsed.scheme = "https" && parsed.hostname.any (· ≠ "") &&
    parsed.username.all (· = "") && parsed.password.all (· = ""))
    "Product-pilot preview URL must be credential-free HTTPS"
  check (parsed.query = "" && parsed.fragment = "" && parsed.path ∈ ["", "/"])
    "Product-pilot preview URL must be an origin"

/-! ## Closed values -/

def endToEndProductPilotActions : List String :=
  ["VERIFY_CUSTOMER_IDEA", "VERIFY_LOCKED_PRD", "VERIFY_APPROVED_PLAN", "VERIFY_GOVERNED_AGENTS",
    "VERIFY_REVIEWED_CODE", "VERIFY_DRAFT_PR", "VERIFY_HEALTHY_PREVIEW",
    "VERIFY_COMPLETE_RUNTIME", "REPORT_PRODUCT_PILOT"]

def endToEndProductPilotCapabilities : List String :=
  ["exact-customer-idea-binding", "locked-prd-and-roadmap-binding",
    "governed-agent-execution-binding", "reviewed-code-and-test-binding",
    "draft-pr-delivery-binding", "healthy-preview-binding",
    "complete-runtime-acceptance-binding", "founder-safe-pilot-reporting"]

def endToEndProductPilotToolIds : List String :=
  ["PERSISTED_PILOT_SOURCE_READER"]

def pilotStageIds : List String :=
  ["customer-idea", "locked-prd", "approved-plan", "governed-agents", "reviewed-code-and-tests",
    "draft-pull-request", "healthy-preview", "complete-runtime-acceptance"]

def pilotStageStates : List String :=
  ["EXACT_CUSTOMER_IDEA_VERIFIED", "EXACT_LOCKED_PRD_VERIFIED",
    "EXACT_APPROVED_ROADMAP_VERIFIED", "GOVERNED_AGENT_CHAIN_VERIFIED",
    "EXACT_REVIEWED_CODE_AND_TESTS_VERIFIED", "EXACT_OPEN_DRAFT_PR_VERIFIED",
    "EXACT_HEALTHY_PREVIEW_VERIFIED", "ALL_DECLARED_RUNTIME_JOURNEYS_PASSED"]

/-! ## Records -/

structure EndToEndProductPilotWorkOrder where
  workOrderId : String
  tenantId : String
  customerId : String
  requestId : String
  opportunityId : String
  assignmentId : String
  pilotId : String
  sourceRequestDigest : String
  prdDigest : String
  prdApprovalDigest : String
  roadmapDigest : String
  roadmapApprovalDigest : String
  previewArtifactDigest : String
  runtimeAcceptanceArtifactDigest : String
  productBindingDigest : String
  customerProductId : String
  runtimeProductId : String
  repositoryFullName : String
  featureBranch : String
  approvedCommit : String
  approvedTree : String
  draftPullRequestNumber : Nat
  previewEnvironmentId : String
  previewUrl : String
  journeyIds : List String
  objectives : List String
  acceptanceChecks : List String
  constraints : List String
  issuedAt : Timestamp
  expiresAt : Timestamp
deriving DecidableEq

structure EndToEndProductPilotAuthority where
  authorityId : String
  issuerId : String
  tenantId : String
  assignmentId : String
  pilotId : String
  workOrderDigest : String
  sourceRequestDigest : String
  roadmapApprovalDigest : String
  runtimeAcceptanceArtifactDigest : String
  productBindingDigest : String
  allowedActionIds : List String
  allowedToolIds : List String
  issuedAt : Timestamp
  expiresAt : Timestamp
  maxSourceRecords : Nat := 7
  maxStageReceipts : Nat := 8
  maxJourneys : Nat := 100
deriving DecidableEq

structure ProductPilotSourceSnapshot where
  pilotId : String
  sourceRequestDigest : String
  prdDigest : String
  prdApprovalDigest : String
  roadmapDigest : String
  roadmapApprovalDigest : String
  orchestrationArtifactDigest : String
  codingReviewArtifactDigest : String
  githubDeliveryArtifactDigest : String
  previewArtifactDigest : String
  runtimeAcceptanceArtifactDigest : String
  productBindingDigest : String
  repositoryFullName : String
  featureBranch : String
  approvedCommit : String
  approvedTree : String
  draftPullRequestNumber : Nat
  previewEnvironmentId : String
  previewUrl : String
  journeyIds : List String
deriving DecidableEq

structure ProductPilotStageReceipt where
  stageId : String
  sourceDigest : String
  state : String
  evidenceCount : Nat
  completedAt : Timestamp
deriving DecidableEq

structure PilotCounts where
  sourceRecordCount : Nat
  completedJourneyCount : Nat
  passedJourneyCount : Nat
  reportCount : Nat := 1
  repositoryWriteCount : Nat := 0
  pullRequestMutationCount : Nat := 0
  previewMutationCount : Nat := 0
  mergeCount : Nat := 0
  productionDeploymentCount : Nat := 0
  releaseCount : Nat := 0
  billingCount : Nat := 0
  riskAcceptanceCount : Nat := 0
  day37ActionCount : Nat := 0
deriving DecidableEq

def PilotCounts.prohibited (counts : PilotCounts) : List Nat :=
  [counts.repositoryWriteCount, counts.pullRequestMutationCount, counts.previewMutationCount,
    counts.mergeCount, counts.productionDeploymentCount, counts.releaseCount,
    counts.billingCount, counts.riskAcceptanceCount, counts.day37ActionCount]

structure EndToEndProductPilotObservation extends PilotCounts where
  providerId : String
  pilotId : String
  snapshotDigest : String
  stageReceipts : List ProductPilotStageReceipt
deriving DecidableEq

structure EndToEndProductPilotArtifact extends PilotCounts where
  artifactId : String
  workOrderId : String
  workOrderDigest : String
  authorityDigest : String
  tenantId : String
  customerId : String
  requestId : String
  opportunityId : String
  executionId : String
  assignmentId : String
  pilotId : String
  customerProductId : String
  runtimeProductId : String
  productBindingDigest : String
  sourceRequestDigest : String
  prdDigest : String
  prdApprovalDigest : String
  roadmapDigest : String
  roadmapApprovalDigest : String
  orchestrationArtifactDigest : String
  workspaceArtifactDigest : String
  codingReviewArtifactDigest : String
  qaArtifactDigest : String
  securityArtifactDigest : String
  githubDeliveryArtifactDigest : String
  devopsArtifactDigest : String
  previewArtifactDigest : String
  runtimeAcceptanceArtifactDigest : String
  runtimeConfigurationDigest : String
  acceptanceProfileDigest : String
  browserPlanDigest : String
  browserExecutionDigest : String
  repositoryFullName : String
  featureBranch : String
  approvedCommit : String
  approvedTree : String
  draftPullRequestNumber : Nat
  previewEnvironmentId : String
  previewUrl : String
  journeyIds : List String
  providerId : String
  providerOutputDigest : String
  stageReceipts : List ProductPilotStageReceipt
  governanceCapabilityIds : List String
  actionIds : List String
  toolIds : List String
  generatedAt : Timestamp
  expiresAt : Timestamp
  productionState : String := ProductPilot.productionState
  status : String := "PILOT_COMPLETED_AWAITING_FOUNDER_ACCEPTANCE"
  pilotStatus : String := "FIRST_END_TO_END_FIXTURE_PILOT_COMPLETED"
deriving DecidableEq

def EndToEndProductPilotArtifact.snapshot (artifact : EndToEndProductPilotArtifact) :
    ProductPilotSourceSnapshot where
  pilotId := artifact.pilotId
  sourceRequestDigest := artifact.sourceRequestDigest
  prdDigest := artifact.prdDigest
  prdApprovalDigest := artifact.prdApprovalDigest
  roadmapDigest := artifact.roadmapDigest
  roadmapApprovalDigest := artifact.roadmapApprovalDigest
  orchestrationArtifactDigest := artifact.orchestrationArtifactDigest
  codingReviewArtifactDigest := artifact.codingReviewArtifactDigest
  githubDeliveryArtifactDigest := artifact.githubDeliveryArtifactDigest
  previewArtifactDigest := artifact.previewArtifactDigest
  runtimeAcceptanceArtifactDigest := artifact.runtimeAcceptanceArtifactDigest
  productBindingDigest := artifact.productBindingDigest
  repositoryFullName := artifact.repositoryFullName
  featureBranch := artifact.featureBranch
  approvedCommit := artifact.approvedCommit
  approvedTree := artifact.approvedTree
  draftPullRequestNumber := artifact.draftPullRequestNumber
  previewEnvironmentId := artifact.previewEnvironmentId
  previewUrl := artifact.previewUrl
  journeyIds := artifact.journeyIds

/-! ## Digests -/

/-- What `product_binding_digest_for` hashes. -/
structure ProductBinding where
  pilotId : String
  customerProductId : String
  runtimeProductId : String
  sourceRequestDigest : String
deriving DecidableEq

/-- The functions of the standard library that the records of a pilot are checked and hashed
with. -/
structure Setting where
  acceptance : AcceptanceSetting
  planning : CustomerPlanning.Setting
  orderText : EndToEndProductPilotWorkOrder → String
  authorityText : EndToEndProductPilotAuthority → String
  snapshotText : ProductPilotSourceSnapshot → String
  observationText : EndToEndProductPilotObservation → String
  bindingText : ProductBinding → String
  envelopeText : EndToEndProductPilotArtifact → String

def Setting.preview (setting : Setting) : PreviewSetting :=
  setting.acceptance.preview

/-- The hash of the standard library. -/
def Setting.sha256 (setting : Setting) (value : String) : String :=
  setting.preview.sha256 value

variable (setting : Setting)

def EndToEndProductPilotWorkOrder.digest (order : EndToEndProductPilotWorkOrder) : String :=
  setting.sha256 (setting.orderText order)

def EndToEndProductPilotAuthority.digest (authority : EndToEndProductPilotAuthority) : String :=
  setting.sha256 (setting.authorityText authority)

def ProductPilotSourceSnapshot.digest (snapshot : ProductPilotSourceSnapshot) : String :=
  setting.sha256 (setting.snapshotText snapshot)

def EndToEndProductPilotObservation.digest (observation : EndToEndProductPilotObservation) :
    String :=
  setting.sha256 (setting.observationText observation)

def productBindingDigestFor (binding : ProductBinding) : Except Error String := do
  identifiers "product binding"
    [(binding.pilotId, "pilot"), (binding.customerProductId, "customer product"),
      (binding.runtimeProductId, "runtime product")]
  checkDigest binding.sourceRequestDigest "product binding source digest"
  pure (setting.sha256 (setting.bindingText binding))

/-! ## Constructors -/

def ProductPilotSourceSnapshot.postInit (snapshot : ProductPilotSourceSnapshot) :
    Except Error Unit := do
  identifier snapshot.pilotId "product-pilot snapshot ID"
  [snapshot.sourceRequestDigest, snapshot.prdDigest, snapshot.prdApprovalDigest,
    snapshot.roadmapDigest, snapshot.roadmapApprovalDigest, snapshot.orchestrationArtifactDigest,
    snapshot.codingReviewArtifactDigest, snapshot.githubDeliveryArtifactDigest,
    snapshot.previewArtifactDigest, snapshot.runtimeAcceptanceArtifactDigest,
    snapshot.productBindingDigest].forM (checkDigest · "product-pilot snapshot source digest")
  check (isFullName snapshot.repositoryFullName) "Product-pilot snapshot repository is invalid"
  checkPilotBranch snapshot.featureBranch
  checkCommit snapshot.approvedCommit "product-pilot snapshot commit"
  checkCommit snapshot.approvedTree "product-pilot snapshot tree"
  check (decide (1 ≤ snapshot.draftPullRequestNumber))
    "Product-pilot snapshot PR number is invalid"
  identifier snapshot.previewEnvironmentId "product-pilot snapshot environment ID"
  checkPilotUrl setting.preview.urlparse snapshot.previewUrl
  checkIdentifiers snapshot.journeyIds "product-pilot snapshot journey IDs" 1 100

/-- `EndToEndProductPilotObservation.__post_init__`, after its receipts, which are constructed. -/
def EndToEndProductPilotObservation.postInit (observation : EndToEndProductPilotObservation) :
    Except Error Unit := do
  identifier observation.providerId "product-pilot provider ID"
  identifier observation.pilotId "product-pilot observation ID"
  checkDigest observation.snapshotDigest "product-pilot snapshot digest"
  check (decide (observation.stageReceipts.length = 8)) "product-pilot stage receipts are invalid"
  check (observation.stageReceipts.map (·.stageId) = pilotStageIds)
    "Product-pilot stage order is invalid"
  check (observation.stageReceipts.map (·.state) = pilotStageStates)
    "Product-pilot stage state is invalid"
  check (decide (observation.sourceRecordCount = 7 ∧ observation.reportCount = 1))
    "Product-pilot source or report count is invalid"
  check (decide (1 ≤ observation.completedJourneyCount ∧
    observation.passedJourneyCount = observation.completedJourneyCount))
    "Product-pilot journey result is incomplete"
  check (observation.prohibited.all (· = 0))
    "Product-pilot observation crossed a prohibited boundary"

def EndToEndProductPilotArtifact.observation (artifact : EndToEndProductPilotArtifact) :
    EndToEndProductPilotObservation :=
  { toPilotCounts := artifact.toPilotCounts
    providerId := artifact.providerId
    pilotId := artifact.pilotId
    snapshotDigest := artifact.snapshot.digest setting
    stageReceipts := artifact.stageReceipts }

/-- `EndToEndProductPilotArtifact.__post_init__`, after its states, which are constants. -/
def EndToEndProductPilotArtifact.postInit (artifact : EndToEndProductPilotArtifact) :
    Except Error Unit := do
  identifiers "product-pilot artifact"
    [(artifact.artifactId, "artifact"), (artifact.workOrderId, "work-order"),
      (artifact.tenantId, "tenant"), (artifact.customerId, "customer"),
      (artifact.requestId, "request"), (artifact.opportunityId, "opportunity"),
      (artifact.executionId, "execution"), (artifact.assignmentId, "assignment"),
      (artifact.pilotId, "pilot"), (artifact.customerProductId, "customer product"),
      (artifact.runtimeProductId, "runtime product"),
      (artifact.previewEnvironmentId, "preview environment")]
  [artifact.workOrderDigest, artifact.authorityDigest, artifact.productBindingDigest,
    artifact.sourceRequestDigest, artifact.prdDigest, artifact.prdApprovalDigest,
    artifact.roadmapDigest, artifact.roadmapApprovalDigest, artifact.orchestrationArtifactDigest,
    artifact.workspaceArtifactDigest, artifact.codingReviewArtifactDigest,
    artifact.qaArtifactDigest, artifact.securityArtifactDigest,
    artifact.githubDeliveryArtifactDigest, artifact.devopsArtifactDigest,
    artifact.previewArtifactDigest, artifact.runtimeAcceptanceArtifactDigest,
    artifact.runtimeConfigurationDigest, artifact.acceptanceProfileDigest,
    artifact.browserPlanDigest, artifact.browserExecutionDigest,
    artifact.providerOutputDigest].forM (checkDigest · "product-pilot artifact digest")
  check (isFullName artifact.repositoryFullName) "Product-pilot artifact repository is invalid"
  checkPilotBranch artifact.featureBranch
  checkCommit artifact.approvedCommit "product-pilot artifact commit"
  checkCommit artifact.approvedTree "product-pilot artifact tree"
  check (decide (1 ≤ artifact.draftPullRequestNumber))
    "Product-pilot artifact PR number is invalid"
  checkPilotUrl setting.preview.urlparse artifact.previewUrl
  checkIdentifiers artifact.journeyIds "product-pilot artifact journey IDs" 1 100
  check (artifact.governanceCapabilityIds = endToEndProductPilotCapabilities &&
    artifact.actionIds = endToEndProductPilotActions &&
    artifact.toolIds = endToEndProductPilotToolIds)
    "Product-pilot artifact authority profile is invalid"
  (artifact.observation setting).postInit
  check ((artifact.observation setting).digest setting = artifact.providerOutputDigest)
    "Product-pilot provider output digest is invalid"
  check (dayLong artifact.generatedAt artifact.expiresAt)
    "Product-pilot artifact lifetime is invalid"

/-- `artifact_id_for` of the pilots. -/
def pilotArtifactIdFor (executionId : String) : Except Error String := do
  identifier executionId "product-pilot execution ID"
  pure ("end-to-end-product-pilot-" ++ firstChars (setting.sha256 executionId) 24)

end ProductPilot
end Ascos
