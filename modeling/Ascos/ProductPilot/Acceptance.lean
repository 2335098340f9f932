import Ascos.ProductPilot.Stores

/-!
# Complete runtime acceptance

The service of `runtime/complete_runtime_acceptance/service.py`.  It runs a stored browser
plan against a stored preview, and stores what it has verified about the journeys.
-/

namespace Ascos
namespace ProductPilot

open Ascos.GitHubDelivery (Error Key require constructed)
open Ascos.CustomerAcceptance (BrowserJourneyPlan)
open Ascos.Library
open Ascos.Library.Procedure
open Ascos.Runtime (Timestamp)

namespace Acceptance

variable (env : Environment)

/-- The arguments of a call. -/
structure Request where
  executionId : String
  workOrder : CompleteRuntimeAcceptanceWorkOrder
  authority : CompleteRuntimeAcceptanceAuthority
  previewArtifact : PreviewDeploymentArtifact
  runtimeConfiguration : ManagedProductRuntimeConfiguration
  browserPlan : BrowserJourneyPlan

/-- What the clock and the provider answer. -/
structure Answers where
  now : Timestamp
  executed : Except Error RuntimeAcceptanceObservation

/-- The key of the artifact that a call is for. -/
def Request.key (request : Request) : Key :=
  ⟨request.workOrder.tenantId, request.executionId⟩

/-- The three validity windows of `_authorize`. -/
def authorizeTimes (order : CompleteRuntimeAcceptanceWorkOrder)
    (authority : CompleteRuntimeAcceptanceAuthority) (preview : PreviewDeploymentArtifact)
    (now : Timestamp) : Except Error Unit := do
  require (decide (order.issuedAt ≤ now ∧ now < order.expiresAt))
    "Runtime-acceptance work order is not currently valid"
  require (decide (authority.issuedAt ≤ now ∧ now < authority.expiresAt))
    "Runtime-acceptance authority is not currently valid"
  require (decide (preview.generatedAt ≤ now ∧ now < preview.expiresAt))
    "The isolated preview is not currently valid for acceptance"

def authorityMatches (order : CompleteRuntimeAcceptanceWorkOrder)
    (authority : CompleteRuntimeAcceptanceAuthority) : Bool :=
  authority.tenantId = order.tenantId && authority.assignmentId = order.assignmentId &&
    authority.workOrderDigest = order.digest env.setting.acceptance &&
    authority.previewArtifactDigest = order.previewArtifactDigest &&
    authority.productId = order.productId && authority.acceptanceRunId = order.acceptanceRunId &&
    authority.browserPlanDigest = order.browserPlanDigest &&
    authority.approvedCommit = order.approvedCommit &&
    authority.previewEnvironmentId = order.previewEnvironmentId &&
    authority.allowedActionIds = completeRuntimeAcceptanceActions &&
    authority.allowedToolIds = completeRuntimeAcceptanceToolIds &&
    decide (order.journeyIds.length ≤ authority.maxJourneys) &&
    decide (order.loginSecretReferenceIds.length ≤ authority.maxSecretReferences)

/-- The preview is the one that the order names, healthy and not in production. -/
def previewMatches (order : CompleteRuntimeAcceptanceWorkOrder)
    (preview : PreviewDeploymentArtifact) : Bool :=
  preview.digest env.setting.preview = order.previewArtifactDigest &&
    preview.tenantId = order.tenantId && preview.opportunityId = order.opportunityId &&
    preview.repositoryId = order.repositoryId &&
    preview.repositoryFullName = order.repositoryFullName &&
    preview.featureBranch = order.featureBranch &&
    preview.approvedCommit = preview.deployedCommit &&
    preview.deployedCommit = order.approvedCommit &&
    preview.approvedTree = preview.deployedTree && preview.deployedTree = order.approvedTree &&
    preview.previewEnvironmentId = order.previewEnvironmentId &&
    preview.previewUrl = order.previewUrl &&
    preview.deploymentRevision = order.deploymentRevision &&
    preview.configurationDigest = order.previewConfigurationDigest &&
    preview.environmentState = environmentState && preview.productionState = productionState &&
    preview.status = previewArtifactStatus && preview.pilotStatus = sourcePilotStatus &&
    preview.healthReceipts.all (·.statusCode = 200) &&
    [preview.productionDeploymentCount, preview.mergeCount, preview.releaseCount,
      preview.billingCount, preview.secretValueExposureCount, preview.unapprovedNetworkCallCount,
      preview.generalCommandCount].all (· = 0)

/-- `str.removesuffix`. -/
def removeSuffix (ending value : String) : String :=
  if ending.toList.isSuffixOf value.toList then
    String.ofList (value.toList.take (value.length - ending.length))
  else value

/-- `str.rstrip` of slashes. -/
def stripSlashes (value : String) : String :=
  String.ofList (value.toList.reverse.dropWhile (· = '/')).reverse

/-- The configuration is the one that the order names, for the preview. -/
def configurationMatches (order : CompleteRuntimeAcceptanceWorkOrder)
    (configuration : ManagedProductRuntimeConfiguration) (origin : String) : Bool :=
  configuration.projectId = order.productId &&
    configuration.configurationId = order.runtimeConfigurationId &&
    configuration.revision = order.runtimeConfigurationRevision &&
    configuration.digest env.setting.acceptance = order.runtimeConfigurationDigest &&
    removeSuffix ".git" configuration.repositoryUrl =
      "https://github.com/" ++ order.repositoryFullName &&
    configuration.branch = order.featureBranch &&
    configuration.commitSha = order.approvedCommit && origin = stripSlashes order.previewUrl &&
    configuration.acceptanceProfileId = order.acceptanceProfileId &&
    configuration.acceptanceProfileVersion = order.acceptanceProfileVersion &&
    configuration.acceptanceProfileDigest = order.acceptanceProfileDigest

def secretReferences (plan : BrowserJourneyPlan) : List String :=
  (plan.inputs.filterMap (·.secretReference)).insertionSort (· ≤ ·)

def planMatches (order : CompleteRuntimeAcceptanceWorkOrder) (plan : BrowserJourneyPlan) : Bool :=
  plan.planId = order.browserPlanId && plan.runId = order.acceptanceRunId &&
    plan.productId = order.productId && plan.configurationId = order.runtimeConfigurationId &&
    plan.configurationRevision = order.runtimeConfigurationRevision &&
    plan.configurationDigest = order.runtimeConfigurationDigest &&
    plan.commitSha = order.approvedCommit &&
    plan.acceptanceProfileId = order.acceptanceProfileId &&
    plan.acceptanceProfileVersion = order.acceptanceProfileVersion &&
    plan.acceptanceProfileDigest = order.acceptanceProfileDigest &&
    plan.digest env.setting.acceptance.browser = order.browserPlanDigest &&
    (plan.journeys.map (·.capabilityId)).eraseDups = order.capabilityIds &&
    plan.journeys.map (·.journeyId) = order.journeyIds &&
    order.authenticationJourneyId ∈ plan.journeys.map (·.journeyId) &&
    secretReferences plan = order.loginSecretReferenceIds

def authorize (request : Request) (now : Timestamp) : Piloting Unit := do
  let order := request.workOrder
  let _ ← Procedure.ofExcept (acceptanceArtifactIdFor env.setting.acceptance request.executionId)
  Procedure.ofExcept (authorizeTimes order request.authority request.previewArtifact now)
  Procedure.ofExcept (require (authorityMatches env order request.authority)
    "Runtime-acceptance authority does not match the exact work order")
  let persistedPreview ← (previewStore env.setting).load
    ⟨request.previewArtifact.tenantId, request.previewArtifact.executionId⟩
  Procedure.ofExcept (require (persistedPreview = request.previewArtifact)
    "Runtime acceptance requires the exact persisted preview artifact")
  Procedure.ofExcept (require (previewMatches env order request.previewArtifact)
    "Day 34 preview source is not exact, healthy, and non-production")
  let persistedConfiguration ← consult fun archive => archive.configurations order.productId
    order.runtimeConfigurationId order.runtimeConfigurationRevision
  Procedure.ofExcept (require (persistedConfiguration = request.runtimeConfiguration)
    "Runtime acceptance requires the exact persisted configuration")
  let origin ← Procedure.ofExcept
    (env.setting.acceptance.endpointOrigin request.runtimeConfiguration.frontendUrl)
  Procedure.ofExcept
    (require (configurationMatches env order request.runtimeConfiguration origin)
      "Runtime configuration drifted from the approved preview contract")
  let persistedPlan ← consult fun archive => archive.plans order.productId order.acceptanceRunId
    order.browserPlanId
  Procedure.ofExcept (require (persistedPlan = request.browserPlan)
    "Runtime acceptance requires the exact persisted browser plan")
  Procedure.ofExcept (require (planMatches env order request.browserPlan)
    "Browser plan drifted from the complete runtime-acceptance contract")

/-- What was executed is what the order names. -/
def observationMatches (order : CompleteRuntimeAcceptanceWorkOrder)
    (authority : CompleteRuntimeAcceptanceAuthority) (observation : RuntimeAcceptanceObservation) :
    Bool :=
  observation.productId = order.productId &&
    observation.acceptanceRunId = order.acceptanceRunId &&
    observation.browserPlanId = order.browserPlanId &&
    observation.browserPlanDigest = order.browserPlanDigest &&
    observation.runtimeConfigurationDigest = order.runtimeConfigurationDigest &&
    observation.acceptanceProfileDigest = order.acceptanceProfileDigest &&
    observation.approvedCommit = order.approvedCommit &&
    observation.previewEnvironmentId = order.previewEnvironmentId &&
    observation.previewUrl = order.previewUrl &&
    observation.journeyReceipts.map (·.journeyId) = order.journeyIds &&
    (observation.journeyReceipts.map (·.capabilityId)).eraseDups = order.capabilityIds &&
    decide (observation.browserLaunchCount ≤ authority.maxBrowserLaunches) &&
    decide (observation.journeyReceipts.length ≤ authority.maxJourneys) &&
    observation.prohibited.all (· = 0)

def validateObservation (order : CompleteRuntimeAcceptanceWorkOrder)
    (authority : CompleteRuntimeAcceptanceAuthority) (observation : RuntimeAcceptanceObservation) :
    Except Error Unit :=
  require (observationMatches order authority observation)
    "Runtime provider result does not match the authorized exact acceptance"

/-- The artifact of a call.  Its prohibited counts are those of the class, not of the
observation. -/
def newArtifact (request : Request) (observation : RuntimeAcceptanceObservation)
    (artifactId : String) (now : Timestamp) : CompleteRuntimeAcceptanceArtifact :=
  let order := request.workOrder
  let preview := request.previewArtifact
  { artifactId := artifactId
    workOrderId := order.workOrderId
    workOrderDigest := order.digest env.setting.acceptance
    tenantId := order.tenantId
    opportunityId := order.opportunityId
    executionId := request.executionId
    assignmentId := order.assignmentId
    previewArtifactId := preview.artifactId
    previewArtifactDigest := preview.digest env.setting.preview
    githubDeliveryArtifactDigest := preview.githubDeliveryArtifactDigest
    devopsArtifactDigest := preview.devopsArtifactDigest
    codingReviewArtifactDigest := preview.codingReviewArtifactDigest
    workspaceArtifactDigest := preview.workspaceArtifactDigest
    orchestrationArtifactDigest := preview.orchestrationArtifactDigest
    qaArtifactDigest := preview.qaArtifactDigest
    securityArtifactDigest := preview.securityArtifactDigest
    productId := order.productId
    repositoryId := order.repositoryId
    repositoryFullName := order.repositoryFullName
    featureBranch := order.featureBranch
    approvedCommit := order.approvedCommit
    approvedTree := order.approvedTree
    previewEnvironmentId := order.previewEnvironmentId
    previewUrl := order.previewUrl
    deploymentRevision := order.deploymentRevision
    runtimeConfigurationId := order.runtimeConfigurationId
    runtimeConfigurationRevision := order.runtimeConfigurationRevision
    runtimeConfigurationDigest := request.runtimeConfiguration.digest env.setting.acceptance
    acceptanceRunId := order.acceptanceRunId
    acceptanceProfileId := order.acceptanceProfileId
    acceptanceProfileVersion := order.acceptanceProfileVersion
    acceptanceProfileDigest := order.acceptanceProfileDigest
    browserPlanId := order.browserPlanId
    browserPlanDigest := request.browserPlan.digest env.setting.acceptance.browser
    browserExecutionDigest := observation.browserExecutionDigest
    authorityDigest := request.authority.digest env.setting.acceptance
    providerId := observation.providerId
    providerOutputDigest := observation.digest env.setting.acceptance
    capabilityIds := order.capabilityIds
    journeyIds := order.journeyIds
    journeyReceipts := observation.journeyReceipts
    governanceCapabilityIds := completeRuntimeAcceptanceCapabilities
    actionIds := completeRuntimeAcceptanceActions
    toolIds := completeRuntimeAcceptanceToolIds
    browserLaunchCount := observation.browserLaunchCount
    authenticatedSessionCount := observation.authenticatedSessionCount
    evidenceArtifactCount := observation.evidenceArtifactCount
    screenshotCount := observation.screenshotCount
    generatedAt := now
    expiresAt := min preview.expiresAt (now + 8 * 60 * 60 * 1000000) }

/-- The stored artifact is that of a call with the same arguments. -/
def sameRequest (request : Request) (artifact : CompleteRuntimeAcceptanceArtifact) : Bool :=
  artifact.workOrderDigest = request.workOrder.digest env.setting.acceptance &&
    artifact.authorityDigest = request.authority.digest env.setting.acceptance &&
    artifact.previewArtifactDigest = request.previewArtifact.digest env.setting.preview &&
    artifact.runtimeConfigurationDigest =
      request.runtimeConfiguration.digest env.setting.acceptance &&
    artifact.browserPlanDigest = request.browserPlan.digest env.setting.acceptance.browser

/-- `run`, where no artifact is stored. -/
def runNew (request : Request) (answers : Answers) :
    Piloting CompleteRuntimeAcceptanceArtifact := do
  authorize env request answers.now
  let observation ← Procedure.ofExcept answers.executed
  Procedure.ofExcept (validateObservation request.workOrder request.authority observation)
  let artifactId ← Procedure.ofExcept
    (acceptanceArtifactIdFor env.setting.acceptance request.executionId)
  let artifact ← Procedure.ofExcept
    (constructed (CompleteRuntimeAcceptanceArtifact.postInit env.setting.acceptance)
      (newArtifact env request observation artifactId answers.now))
  (acceptanceStore env.setting).save artifact

def run (request : Request) (answers : Answers) : Piloting CompleteRuntimeAcceptanceArtifact := do
  let found ← (acceptanceStore env.setting).find request.key
  match found with
  | some artifact =>
    if sameRequest env request artifact = true then pure artifact
    else fail .conflict "Runtime-acceptance retry does not match the immutable execution"
  | none => runNew env request answers

end Acceptance
end ProductPilot
end Ascos
