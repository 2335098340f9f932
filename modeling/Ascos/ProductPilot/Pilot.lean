import Ascos.ProductPilot.Acceptance
import Ascos.ProductPilot.Preview

/-!
# The product pilot

The service of `runtime/end_to_end_product_pilot/service.py`.  It verifies that a customer's
request, its locked plan, a preview and its acceptance belong together, and stores one artifact
that names them all.
-/

namespace Ascos
namespace ProductPilot

open Ascos.GitHubDelivery (Error Key require constructed)
open Ascos.CustomerPlanning (CustomerProductRequest CustomerPrdDraft CustomerPrdApproval
  CustomerRoadmapDraft CustomerRoadmapApproval)
open Ascos.Library
open Ascos.Library.Procedure
open Ascos.Runtime (Timestamp)

namespace Pilot

variable (env : Environment)

/-- The arguments of a call. -/
structure Request where
  executionId : String
  workOrder : EndToEndProductPilotWorkOrder
  authority : EndToEndProductPilotAuthority
  productRequest : CustomerProductRequest
  prd : CustomerPrdDraft
  prdApproval : CustomerPrdApproval
  roadmap : CustomerRoadmapDraft
  roadmapApproval : CustomerRoadmapApproval
  preview : PreviewDeploymentArtifact
  runtimeAcceptance : CompleteRuntimeAcceptanceArtifact

/-- What the clock and the provider answer. -/
structure Answers where
  now : Timestamp
  executed : Except Error EndToEndProductPilotObservation

/-- The key of the artifact that a call is for. -/
def Request.key (request : Request) : Key :=
  ⟨request.workOrder.tenantId, request.executionId⟩

def authorize (order : EndToEndProductPilotWorkOrder) (authority : EndToEndProductPilotAuthority)
    (now : Timestamp) : Except Error Unit := do
  require (decide (order.issuedAt ≤ now ∧ now < order.expiresAt))
    "Product-pilot work order is not currently valid"
  require (decide (authority.issuedAt ≤ now ∧ now < authority.expiresAt))
    "Product-pilot authority is not currently valid"
  require (authority.tenantId = order.tenantId && authority.assignmentId = order.assignmentId &&
    authority.pilotId = order.pilotId && authority.workOrderDigest = order.digest env.setting &&
    authority.sourceRequestDigest = order.sourceRequestDigest &&
    authority.roadmapApprovalDigest = order.roadmapApprovalDigest &&
    authority.runtimeAcceptanceArtifactDigest = order.runtimeAcceptanceArtifactDigest &&
    authority.productBindingDigest = order.productBindingDigest &&
    authority.allowedActionIds = endToEndProductPilotActions &&
    authority.allowedToolIds = endToEndProductPilotToolIds &&
    decide (order.journeyIds.length ≤ authority.maxJourneys))
    "Product-pilot authority does not match the work order"

/-- The request, the locked requirements and the roadmap belong together and to the order. -/
def planningMatches (request : Request) : Bool :=
  let planning := env.setting.planning
  let order := request.workOrder
  let idea := request.productRequest
  let prd := request.prd
  let prdApproval := request.prdApproval
  let roadmap := request.roadmap
  let roadmapApproval := request.roadmapApproval
  [idea.customerId, prd.customerId, prdApproval.customerId, roadmap.customerId,
      roadmapApproval.customerId].all (· = order.customerId) &&
    [idea.requestId, prd.requestId, prdApproval.requestId, roadmap.requestId,
      roadmapApproval.requestId].all (· = order.requestId) &&
    [idea.digest planning, prd.sourceRequestDigest, prdApproval.sourceRequestDigest,
      roadmap.sourceRequestDigest, roadmapApproval.sourceRequestDigest].all
        (· = order.sourceRequestDigest) &&
    [prd.digest planning, prdApproval.prdDigest, roadmap.prdDigest,
      roadmapApproval.prdDigest].all (· = order.prdDigest) &&
    [prdApproval.digest planning, roadmap.prdApprovalDigest,
      roadmapApproval.prdApprovalDigest].all (· = order.prdApprovalDigest) &&
    [roadmap.digest planning, roadmapApproval.roadmapDigest].all (· = order.roadmapDigest) &&
    roadmapApproval.digest planning = order.roadmapApprovalDigest &&
    [prd.productId, prdApproval.productId, roadmap.productId, roadmapApproval.productId].all
      (· = order.customerProductId) &&
    [prdApproval.prdId, roadmap.prdId, roadmapApproval.prdId].all (· = prd.prdId)

/-- The preview and its acceptance belong together and to the order. -/
def runtimeMatches (order : EndToEndProductPilotWorkOrder) (preview : PreviewDeploymentArtifact)
    (runtime : CompleteRuntimeAcceptanceArtifact) : Bool :=
  preview.digest env.setting.preview = order.previewArtifactDigest &&
    runtime.previewArtifactDigest = preview.digest env.setting.preview &&
    runtime.digest env.setting.acceptance = order.runtimeAcceptanceArtifactDigest &&
    runtime.tenantId = preview.tenantId && preview.tenantId = order.tenantId &&
    runtime.opportunityId = preview.opportunityId &&
    preview.opportunityId = order.opportunityId &&
    runtime.productId = order.runtimeProductId &&
    runtime.repositoryFullName = preview.repositoryFullName &&
    preview.repositoryFullName = order.repositoryFullName &&
    runtime.featureBranch = preview.featureBranch &&
    preview.featureBranch = order.featureBranch &&
    [runtime.approvedCommit, preview.approvedCommit, preview.deployedCommit].all
      (· = order.approvedCommit) &&
    [runtime.approvedTree, preview.approvedTree, preview.deployedTree].all
      (· = order.approvedTree) &&
    preview.draftPullRequestNumber = order.draftPullRequestNumber &&
    runtime.previewEnvironmentId = preview.previewEnvironmentId &&
    preview.previewEnvironmentId = order.previewEnvironmentId &&
    runtime.previewUrl = preview.previewUrl && preview.previewUrl = order.previewUrl &&
    runtime.journeyIds = order.journeyIds &&
    runtime.githubDeliveryArtifactDigest = preview.githubDeliveryArtifactDigest &&
    runtime.codingReviewArtifactDigest = preview.codingReviewArtifactDigest &&
    runtime.orchestrationArtifactDigest = preview.orchestrationArtifactDigest &&
    runtime.qaArtifactDigest = preview.qaArtifactDigest &&
    runtime.securityArtifactDigest = preview.securityArtifactDigest &&
    runtime.status = acceptanceArtifactStatus && runtime.previewState = previewState &&
    runtime.authenticationState = authenticationState && runtime.journeyState = journeyState &&
    runtime.browserState = browserState && runtime.productionState = productionState &&
    preview.status = previewArtifactStatus && preview.pullRequestState = pullRequestState &&
    preview.environmentState = environmentState && preview.productionState = productionState &&
    preview.pilotStatus = sourcePilotStatus && runtime.pilotStatus = sourcePilotStatus &&
    runtime.journeyReceipts.all (·.outcome = "PASS")

/-- Neither the preview nor its acceptance has crossed a boundary. -/
def boundariesKept (preview : PreviewDeploymentArtifact)
    (runtime : CompleteRuntimeAcceptanceArtifact) : Bool :=
  runtime.browserLaunchCount = 1 &&
    runtime.authenticatedSessionCount = runtime.journeyIds.length &&
    runtime.screenshotCount = runtime.journeyIds.length && runtime.prohibited.all (· = 0) &&
    [preview.productionDeploymentCount, preview.mergeCount, preview.releaseCount,
      preview.billingCount, preview.secretValueExposureCount, preview.unapprovedNetworkCallCount,
      preview.generalCommandCount].all (· = 0)

/-- The binding of the customer's product to the product that runs. -/
def bindingMatches (request : Request) : Except Error Unit := do
  let order := request.workOrder
  let expected ← productBindingDigestFor env.setting
    { pilotId := order.pilotId
      customerProductId := order.customerProductId
      runtimeProductId := order.runtimeProductId
      sourceRequestDigest := request.productRequest.digest env.setting.planning }
  require (expected = order.productBindingDigest)
    "Pilot customer/runtime product binding is invalid"

/-- The seven loads of `_validate_persisted_sources`. -/
def loadSources (request : Request) : Piloting (CustomerProductRequest × CustomerPrdDraft ×
    CustomerPrdApproval × CustomerRoadmapDraft × CustomerRoadmapApproval ×
    PreviewDeploymentArtifact × CompleteRuntimeAcceptanceArtifact) := do
  let customerId := request.workOrder.customerId
  let requestId := request.workOrder.requestId
  let idea ← consult (·.requests customerId requestId)
  let prd ← consult (·.prds customerId requestId)
  let prdApproval ← consult (·.prdApprovals customerId requestId)
  let roadmap ← consult (·.roadmaps customerId requestId)
  let roadmapApproval ← consult (·.roadmapApprovals customerId requestId)
  let preview ← (previewStore env.setting).load
    ⟨request.preview.tenantId, request.preview.executionId⟩
  let runtime ← (acceptanceStore env.setting).load
    ⟨request.runtimeAcceptance.tenantId, request.runtimeAcceptance.executionId⟩
  pure (idea, prd, prdApproval, roadmap, roadmapApproval, preview, runtime)

def validatePersistedSources (request : Request) (now : Timestamp) : Piloting Unit := do
  let persisted ← loadSources env request
  let preview := request.preview
  let runtime := request.runtimeAcceptance
  Procedure.ofExcept (require (decide (persisted = (request.productRequest, request.prd,
    request.prdApproval, request.roadmap, request.roadmapApproval, preview, runtime)))
    "Product pilot requires exact persisted sources")
  Procedure.ofExcept (require (planningMatches env request)
    "Customer idea, locked PRD, or roadmap chain drifted")
  Procedure.ofExcept (bindingMatches env request)
  Procedure.ofExcept (require (decide (preview.generatedAt ≤ now ∧ now < preview.expiresAt))
    "Pilot preview is not currently valid")
  Procedure.ofExcept (require (decide (runtime.generatedAt ≤ now ∧ now < runtime.expiresAt))
    "Pilot runtime acceptance is not currently valid")
  Procedure.ofExcept (require (runtimeMatches env request.workOrder preview runtime)
    "Execution, draft PR, preview, or runtime chain drifted")
  Procedure.ofExcept (require (boundariesKept preview runtime)
    "Pilot source chain crossed a prohibited boundary")

def snapshot (request : Request) : Except Error ProductPilotSourceSnapshot :=
  let planning := env.setting.planning
  let order := request.workOrder
  let runtime := request.runtimeAcceptance
  constructed (ProductPilotSourceSnapshot.postInit env.setting)
    { pilotId := order.pilotId
      sourceRequestDigest := request.productRequest.digest planning
      prdDigest := request.prd.digest planning
      prdApprovalDigest := request.prdApproval.digest planning
      roadmapDigest := request.roadmap.digest planning
      roadmapApprovalDigest := request.roadmapApproval.digest planning
      orchestrationArtifactDigest := runtime.orchestrationArtifactDigest
      codingReviewArtifactDigest := runtime.codingReviewArtifactDigest
      githubDeliveryArtifactDigest := runtime.githubDeliveryArtifactDigest
      previewArtifactDigest := request.preview.digest env.setting.preview
      runtimeAcceptanceArtifactDigest := runtime.digest env.setting.acceptance
      productBindingDigest := order.productBindingDigest
      repositoryFullName := order.repositoryFullName
      featureBranch := order.featureBranch
      approvedCommit := order.approvedCommit
      approvedTree := order.approvedTree
      draftPullRequestNumber := order.draftPullRequestNumber
      previewEnvironmentId := order.previewEnvironmentId
      previewUrl := order.previewUrl
      journeyIds := order.journeyIds }

def expectedStageSources (request : Request) : List String :=
  let runtime := request.runtimeAcceptance
  [request.productRequest.digest env.setting.planning,
    request.prdApproval.digest env.setting.planning,
    request.roadmapApproval.digest env.setting.planning, runtime.orchestrationArtifactDigest,
    runtime.codingReviewArtifactDigest, runtime.githubDeliveryArtifactDigest,
    request.preview.digest env.setting.preview, runtime.digest env.setting.acceptance]

def observationMatches (request : Request) (snapshot : ProductPilotSourceSnapshot)
    (observation : EndToEndProductPilotObservation) : Bool :=
  observation.stageReceipts.map (·.stageId) = pilotStageIds &&
    observation.stageReceipts.map (·.sourceDigest) = expectedStageSources env request &&
    observation.snapshotDigest = snapshot.digest env.setting &&
    observation.sourceRecordCount = request.authority.maxSourceRecords &&
    observation.stageReceipts.length = request.authority.maxStageReceipts

/-- The artifact of a call.  Its prohibited counts are those of the class. -/
def newArtifact (request : Request) (observation : EndToEndProductPilotObservation)
    (artifactId : String) (now : Timestamp) : EndToEndProductPilotArtifact :=
  let planning := env.setting.planning
  let order := request.workOrder
  let runtime := request.runtimeAcceptance
  { artifactId := artifactId
    workOrderId := order.workOrderId
    workOrderDigest := order.digest env.setting
    authorityDigest := request.authority.digest env.setting
    tenantId := order.tenantId
    customerId := order.customerId
    requestId := order.requestId
    opportunityId := order.opportunityId
    executionId := request.executionId
    assignmentId := order.assignmentId
    pilotId := order.pilotId
    customerProductId := order.customerProductId
    runtimeProductId := order.runtimeProductId
    productBindingDigest := order.productBindingDigest
    sourceRequestDigest := request.productRequest.digest planning
    prdDigest := request.prd.digest planning
    prdApprovalDigest := request.prdApproval.digest planning
    roadmapDigest := request.roadmap.digest planning
    roadmapApprovalDigest := request.roadmapApproval.digest planning
    orchestrationArtifactDigest := runtime.orchestrationArtifactDigest
    workspaceArtifactDigest := runtime.workspaceArtifactDigest
    codingReviewArtifactDigest := runtime.codingReviewArtifactDigest
    qaArtifactDigest := runtime.qaArtifactDigest
    securityArtifactDigest := runtime.securityArtifactDigest
    githubDeliveryArtifactDigest := runtime.githubDeliveryArtifactDigest
    devopsArtifactDigest := runtime.devopsArtifactDigest
    previewArtifactDigest := request.preview.digest env.setting.preview
    runtimeAcceptanceArtifactDigest := runtime.digest env.setting.acceptance
    runtimeConfigurationDigest := runtime.runtimeConfigurationDigest
    acceptanceProfileDigest := runtime.acceptanceProfileDigest
    browserPlanDigest := runtime.browserPlanDigest
    browserExecutionDigest := runtime.browserExecutionDigest
    repositoryFullName := order.repositoryFullName
    featureBranch := order.featureBranch
    approvedCommit := order.approvedCommit
    approvedTree := order.approvedTree
    draftPullRequestNumber := order.draftPullRequestNumber
    previewEnvironmentId := order.previewEnvironmentId
    previewUrl := order.previewUrl
    journeyIds := order.journeyIds
    providerId := observation.providerId
    providerOutputDigest := observation.digest env.setting
    stageReceipts := observation.stageReceipts
    governanceCapabilityIds := endToEndProductPilotCapabilities
    actionIds := endToEndProductPilotActions
    toolIds := endToEndProductPilotToolIds
    sourceRecordCount := observation.sourceRecordCount
    completedJourneyCount := observation.completedJourneyCount
    passedJourneyCount := observation.passedJourneyCount
    reportCount := observation.reportCount
    generatedAt := now
    expiresAt := min runtime.expiresAt (now + 8 * 60 * 60 * 1000000) }

/-- The stored artifact is that of a call with the same order, authority, request and
acceptance.  The other arguments are not compared. -/
def sameRequest (request : Request) (artifact : EndToEndProductPilotArtifact) : Bool :=
  artifact.workOrderDigest = request.workOrder.digest env.setting &&
    artifact.authorityDigest = request.authority.digest env.setting &&
    artifact.sourceRequestDigest = request.productRequest.digest env.setting.planning &&
    artifact.runtimeAcceptanceArtifactDigest =
      request.runtimeAcceptance.digest env.setting.acceptance

/-- `run`, where no artifact is stored. -/
def runNew (request : Request) (answers : Answers) : Piloting EndToEndProductPilotArtifact := do
  Procedure.ofExcept (authorize env request.workOrder request.authority answers.now)
  validatePersistedSources env request answers.now
  let snapshot ← Procedure.ofExcept (snapshot env request)
  let observation ← Procedure.ofExcept answers.executed
  Procedure.ofExcept (require (observationMatches env request snapshot observation)
    "Product-pilot evidence does not bind exact sources")
  let artifactId ← Procedure.ofExcept (pilotArtifactIdFor env.setting request.executionId)
  let artifact ← Procedure.ofExcept
    (constructed (EndToEndProductPilotArtifact.postInit env.setting)
      (newArtifact env request observation artifactId answers.now))
  (pilotStore env.setting).save artifact

def run (request : Request) (answers : Answers) : Piloting EndToEndProductPilotArtifact := do
  let found ← (pilotStore env.setting).find request.key
  match found with
  | some artifact =>
    if sameRequest env request artifact = true then pure artifact
    else fail .conflict "Product-pilot retry does not match the immutable execution"
  | none => runNew env request answers

end Pilot

/-! ## Steps of the chain -/

variable (env : Environment)

/-- A call of one of the four services, or a change of what other components keep. -/
inductive Call where
  | deliver (request : GitHubDelivery.Request)
  | preview (request : Preview.Request) (answers : Preview.Answers)
  | accept (request : Acceptance.Request) (answers : Acceptance.Answers)
  | pilot (request : Pilot.Request) (answers : Pilot.Answers)
  | others (archive : Archive)

/-- The world after a procedure that ends, or that dies after some of its steps. -/
def after {α : Type} (procedure : Piloting α) (stop : Option Nat) (world : World) : World :=
  match stop with
  | none => (procedure.run world).2
  | some stop => procedure.left stop world

/-- The world after a call that ends, or that dies after some of its steps. -/
def step (world : World) (call : Call × Option Nat) : World :=
  match call.1 with
  | .deliver request =>
    { world with
      delivery := GitHubDelivery.step env.delivery world.delivery (request, call.2)
      past := world.known }
  | .preview request answers => after (Preview.run env request answers) call.2 world
  | .accept request answers => after (Acceptance.run env request answers) call.2 world
  | .pilot request answers => after (Pilot.run env request answers) call.2 world
  | .others archive => { world with archive := archive, past := world.known }

end ProductPilot
end Ascos
