import Ascos.CustomerAcceptance.Model
import Ascos.ProductPilot.PreviewRecords
import Mathlib.Algebra.GroupWithZero.Nat

/-!
# Records of complete runtime acceptances

The records of `runtime/complete_runtime_acceptance/models.py`, and the configuration of
`runtime/managed_product_runtime/models.py` that an acceptance is run with.  Every instant
is in UTC.
-/

namespace Ascos
namespace ProductPilot

open Ascos.GitHubDelivery (Error check identifier checkDigest checkCommit isFullName)
open Ascos.CustomerPlanning (firstChars)
open Ascos.Library
open Ascos.Runtime (Timestamp isSpace)

/-! ## Fields -/

/-- `_text` of the acceptance records. -/
def checkText (value label : String) (maximum : Nat) : Except Error Unit :=
  check (value ≠ "" && decide (value = strip isSpace value) && decide (value.length ≤ maximum) &&
    value.toList.all fun c => decide (32 ≤ c.toNat)) (label ++ " is invalid")

/-- `_identifiers` of the acceptance and of the pilot records. -/
def checkIdentifiers (values : List String) (label : String) (minimum maximum : Nat) :
    Except Error Unit := do
  check (decide (minimum ≤ values.length ∧ values.length ≤ maximum ∧ values.Nodup))
    (label ++ " are invalid")
  values.forM (identifier · label)

/-! ## Closed values -/

def completeRuntimeAcceptanceActions : List String :=
  ["VERIFY_APPROVED_PREVIEW", "VERIFY_RUNTIME_CONTRACT", "RESOLVE_OPAQUE_LOGIN_INPUTS",
    "OPEN_ISOLATED_CHROMIUM", "AUTHENTICATE_PREVIEW_USER", "EXECUTE_MODULE_JOURNEYS",
    "CAPTURE_RUNTIME_EVIDENCE", "REPORT_RUNTIME_ACCEPTANCE"]

def completeRuntimeAcceptanceCapabilities : List String :=
  ["exact-day34-preview-binding", "exact-runtime-configuration-binding",
    "locked-browser-plan-binding", "opaque-preview-authentication",
    "module-specific-chromium-journeys", "secret-safe-browser-evidence",
    "terminal-runtime-acceptance-reporting"]

def completeRuntimeAcceptanceToolIds : List String :=
  ["ISOLATED_CHROMIUM", "OPAQUE_RUNTIME_CREDENTIALS"]

/-- `ARTIFACT_STATUS` of the acceptances. -/
def acceptanceArtifactStatus : String :=
  "RUNTIME_ACCEPTANCE_PASSED_AWAITING_FOUNDER_UX_ACCEPTANCE"

def previewState : String :=
  "EXACT_DAY34_HEALTHY_PREVIEW_VERIFIED"

def authenticationState : String :=
  "PREVIEW_AUTHENTICATION_VERIFIED"

def journeyState : String :=
  "ALL_DECLARED_MODULE_JOURNEYS_PASSED"

def browserState : String :=
  "ISOLATED_CHROMIUM_EVIDENCE_COMPLETE"

/-! ## Records -/

structure ManagedProductRuntimeConfiguration where
  configurationId : String
  projectId : String
  revision : Nat
  repositoryUrl : String
  branch : String
  commitSha : String
  frontendUrl : String
  acceptanceProfileId : String
  acceptanceProfileVersion : String
  acceptanceProfileDigest : String
  content : String
deriving DecidableEq

structure CompleteRuntimeAcceptanceWorkOrder where
  workOrderId : String
  tenantId : String
  opportunityId : String
  assignmentId : String
  previewArtifactDigest : String
  productId : String
  runtimeConfigurationId : String
  runtimeConfigurationRevision : Nat
  runtimeConfigurationDigest : String
  acceptanceRunId : String
  acceptanceProfileId : String
  acceptanceProfileVersion : String
  acceptanceProfileDigest : String
  browserPlanId : String
  browserPlanDigest : String
  repositoryId : String
  repositoryFullName : String
  featureBranch : String
  approvedCommit : String
  approvedTree : String
  previewEnvironmentId : String
  previewUrl : String
  deploymentRevision : String
  previewConfigurationDigest : String
  capabilityIds : List String
  journeyIds : List String
  authenticationJourneyId : String
  loginSecretReferenceIds : List String
  objectives : List String
  acceptanceChecks : List String
  constraints : List String
  issuedAt : Timestamp
  expiresAt : Timestamp
deriving DecidableEq

structure CompleteRuntimeAcceptanceAuthority where
  authorityId : String
  issuerId : String
  tenantId : String
  assignmentId : String
  workOrderDigest : String
  previewArtifactDigest : String
  productId : String
  acceptanceRunId : String
  browserPlanDigest : String
  approvedCommit : String
  previewEnvironmentId : String
  allowedActionIds : List String
  allowedToolIds : List String
  issuedAt : Timestamp
  expiresAt : Timestamp
  maxBrowserLaunches : Nat := 1
  maxJourneys : Nat := 100
  maxSecretReferences : Nat := 8
deriving DecidableEq

structure RuntimeJourneyReceipt where
  journeyId : String
  capabilityId : String
  title : String
  outcome : String
  evidenceCount : Nat
  evidenceDigest : String
  screenshotDigest : String
  completedAt : Timestamp
deriving DecidableEq

/-- The counts of the effects of an acceptance, in an observation and in an artifact. -/
structure AcceptanceCounts where
  browserLaunchCount : Nat
  authenticatedSessionCount : Nat
  evidenceArtifactCount : Nat
  screenshotCount : Nat
  consoleErrorCount : Nat := 0
  networkFailureCount : Nat := 0
  rawSecretExposureCount : Nat := 0
  repositoryWriteCount : Nat := 0
  previewMutationCount : Nat := 0
  productionDeploymentCount : Nat := 0
  mergeCount : Nat := 0
  releaseCount : Nat := 0
  billingCount : Nat := 0
  pilotSelectionCount : Nat := 0
deriving DecidableEq

def AcceptanceCounts.prohibited (counts : AcceptanceCounts) : List Nat :=
  [counts.consoleErrorCount, counts.networkFailureCount, counts.rawSecretExposureCount,
    counts.repositoryWriteCount, counts.previewMutationCount, counts.productionDeploymentCount,
    counts.mergeCount, counts.releaseCount, counts.billingCount, counts.pilotSelectionCount]

structure RuntimeAcceptanceObservation extends AcceptanceCounts where
  providerId : String
  productId : String
  acceptanceRunId : String
  browserPlanId : String
  browserPlanDigest : String
  runtimeConfigurationDigest : String
  acceptanceProfileDigest : String
  approvedCommit : String
  previewEnvironmentId : String
  previewUrl : String
  browserExecutionDigest : String
  journeyReceipts : List RuntimeJourneyReceipt
deriving DecidableEq

structure CompleteRuntimeAcceptanceArtifact extends RuntimeAcceptanceObservation where
  artifactId : String
  workOrderId : String
  workOrderDigest : String
  tenantId : String
  opportunityId : String
  executionId : String
  assignmentId : String
  previewArtifactId : String
  previewArtifactDigest : String
  githubDeliveryArtifactDigest : String
  devopsArtifactDigest : String
  codingReviewArtifactDigest : String
  workspaceArtifactDigest : String
  orchestrationArtifactDigest : String
  qaArtifactDigest : String
  securityArtifactDigest : String
  repositoryId : String
  repositoryFullName : String
  featureBranch : String
  approvedTree : String
  deploymentRevision : String
  runtimeConfigurationId : String
  runtimeConfigurationRevision : Nat
  acceptanceProfileId : String
  acceptanceProfileVersion : String
  authorityDigest : String
  providerOutputDigest : String
  capabilityIds : List String
  journeyIds : List String
  governanceCapabilityIds : List String
  actionIds : List String
  toolIds : List String
  generatedAt : Timestamp
  expiresAt : Timestamp
  previewState : String := ProductPilot.previewState
  authenticationState : String := ProductPilot.authenticationState
  journeyState : String := ProductPilot.journeyState
  browserState : String := ProductPilot.browserState
  productionState : String := ProductPilot.productionState
  status : String := acceptanceArtifactStatus
  pilotStatus : String := sourcePilotStatus
deriving DecidableEq

/-! ## Digests -/

/-- The functions of the standard library that the records of an acceptance are checked and
hashed with. -/
structure AcceptanceSetting where
  preview : PreviewSetting
  browser : CustomerAcceptance.Setting
  orderText : CompleteRuntimeAcceptanceWorkOrder → String
  authorityText : CompleteRuntimeAcceptanceAuthority → String
  observationText : RuntimeAcceptanceObservation → String
  artifactText : CompleteRuntimeAcceptanceArtifact → String
  envelopeText : CompleteRuntimeAcceptanceArtifact → String
  configurationText : ManagedProductRuntimeConfiguration → String
  /-- `endpoint_origin`, which parses a URL. -/
  endpointOrigin : String → Except Error String

variable (setting : AcceptanceSetting)

/-- The hash of the standard library. -/
def AcceptanceSetting.sha256 (setting : AcceptanceSetting) (value : String) : String :=
  setting.preview.sha256 value

def CompleteRuntimeAcceptanceWorkOrder.digest (order : CompleteRuntimeAcceptanceWorkOrder) :
    String :=
  setting.sha256 (setting.orderText order)

def CompleteRuntimeAcceptanceAuthority.digest (authority : CompleteRuntimeAcceptanceAuthority) :
    String :=
  setting.sha256 (setting.authorityText authority)

def RuntimeAcceptanceObservation.digest (observation : RuntimeAcceptanceObservation) : String :=
  setting.sha256 (setting.observationText observation)

def CompleteRuntimeAcceptanceArtifact.digest (artifact : CompleteRuntimeAcceptanceArtifact) :
    String :=
  setting.sha256 (setting.artifactText artifact)

def ManagedProductRuntimeConfiguration.digest
    (configuration : ManagedProductRuntimeConfiguration) : String :=
  setting.sha256 (setting.configurationText configuration)

/-! ## Constructors -/

/-- `RuntimeAcceptanceObservation.__post_init__`, after its receipts, which are constructed. -/
def RuntimeAcceptanceObservation.postInit (observation : RuntimeAcceptanceObservation) :
    Except Error Unit := do
  identifier observation.providerId "runtime provider ID"
  identifier observation.productId "runtime product ID"
  identifier observation.acceptanceRunId "runtime acceptance run ID"
  identifier observation.browserPlanId "runtime browser plan ID"
  identifier observation.previewEnvironmentId "runtime preview environment ID"
  checkDigests "runtime"
    [(observation.browserPlanDigest, "browser plan"),
      (observation.runtimeConfigurationDigest, "configuration"),
      (observation.acceptanceProfileDigest, "acceptance profile"),
      (observation.browserExecutionDigest, "browser execution")]
  checkCommit observation.approvedCommit "runtime observed commit"
  checkPreviewUrl setting.preview.urlparse observation.previewUrl "runtime observed preview URL"
    false
  check (decide (1 ≤ observation.journeyReceipts.length ∧
    observation.journeyReceipts.length ≤ 100)) "runtime journey receipts are invalid"
  check (decide (observation.journeyReceipts.map (·.journeyId)).Nodup)
    "Runtime journey receipts are duplicated"
  check (decide (observation.browserLaunchCount = 1))
    "Runtime acceptance requires exactly one browser launch"
  check (decide (observation.authenticatedSessionCount = observation.journeyReceipts.length))
    "Runtime authenticated-session count is invalid"
  check (decide (observation.evidenceArtifactCount =
    (observation.journeyReceipts.map (·.evidenceCount)).sum))
    "Runtime evidence-artifact count is invalid"
  check (decide (observation.screenshotCount = observation.journeyReceipts.length))
    "Every runtime journey requires one screenshot"
  check (observation.prohibited.all (· = 0)) "Runtime observation crossed a prohibited boundary"

/-- `CompleteRuntimeAcceptanceArtifact.__post_init__`, after its states, which are constants. -/
def CompleteRuntimeAcceptanceArtifact.postInit (artifact : CompleteRuntimeAcceptanceArtifact) :
    Except Error Unit := do
  identifiers "runtime artifact"
    [(artifact.artifactId, "artifact"), (artifact.workOrderId, "work-order"),
      (artifact.tenantId, "tenant"), (artifact.opportunityId, "opportunity"),
      (artifact.executionId, "execution"), (artifact.assignmentId, "assignment"),
      (artifact.previewArtifactId, "preview artifact"), (artifact.productId, "product"),
      (artifact.repositoryId, "repository"),
      (artifact.previewEnvironmentId, "preview environment"),
      (artifact.deploymentRevision, "deployment revision"),
      (artifact.runtimeConfigurationId, "runtime configuration"),
      (artifact.acceptanceRunId, "acceptance run"),
      (artifact.acceptanceProfileId, "acceptance profile"),
      (artifact.browserPlanId, "browser plan")]
  checkDigests "runtime artifact"
    [(artifact.workOrderDigest, "work-order"),
      (artifact.previewArtifactDigest, "preview artifact"),
      (artifact.githubDeliveryArtifactDigest, "GitHub-delivery artifact"),
      (artifact.devopsArtifactDigest, "DevOps artifact"),
      (artifact.codingReviewArtifactDigest, "coding-review artifact"),
      (artifact.workspaceArtifactDigest, "workspace artifact"),
      (artifact.orchestrationArtifactDigest, "orchestration artifact"),
      (artifact.qaArtifactDigest, "QA artifact"),
      (artifact.securityArtifactDigest, "Security artifact"),
      (artifact.runtimeConfigurationDigest, "runtime configuration"),
      (artifact.acceptanceProfileDigest, "acceptance profile"),
      (artifact.browserPlanDigest, "browser plan"),
      (artifact.browserExecutionDigest, "browser execution"),
      (artifact.authorityDigest, "authority"),
      (artifact.providerOutputDigest, "provider output")]
  check (isFullName artifact.repositoryFullName) "Runtime artifact repository full name is invalid"
  checkBranch artifact.featureBranch "runtime artifact feature branch"
  checkCommit artifact.approvedCommit "runtime artifact approved commit"
  checkCommit artifact.approvedTree "runtime artifact approved tree"
  checkPreviewUrl setting.preview.urlparse artifact.previewUrl "runtime artifact preview URL" false
  checkText artifact.acceptanceProfileVersion "runtime artifact profile version" 128
  check (decide (1 ≤ artifact.runtimeConfigurationRevision))
    "Runtime artifact configuration revision is invalid"
  checkIdentifiers artifact.capabilityIds "runtime artifact capability IDs" 1 32
  checkIdentifiers artifact.journeyIds "runtime artifact journey IDs" 1 100
  check (artifact.governanceCapabilityIds = completeRuntimeAcceptanceCapabilities &&
    artifact.actionIds = completeRuntimeAcceptanceActions &&
    artifact.toolIds = completeRuntimeAcceptanceToolIds)
    "Runtime artifact authority profile is invalid"
  artifact.toRuntimeAcceptanceObservation.postInit setting
  check (artifact.toRuntimeAcceptanceObservation.digest setting = artifact.providerOutputDigest)
    "Runtime provider output digest is invalid"
  check (artifact.journeyReceipts.map (·.journeyId) = artifact.journeyIds)
    "Runtime journey receipts do not match the declared journey order"
  check ((artifact.journeyReceipts.map (·.capabilityId)).eraseDups = artifact.capabilityIds)
    "Runtime receipts do not match the declared capability order"
  check (dayLong artifact.generatedAt artifact.expiresAt) "Runtime artifact lifetime is invalid"

/-- `artifact_id_for` of the acceptances. -/
def acceptanceArtifactIdFor (executionId : String) : Except Error String := do
  identifier executionId "runtime-acceptance execution ID"
  pure ("complete-runtime-acceptance-" ++ firstChars (setting.sha256 executionId) 24)

end ProductPilot
end Ascos
