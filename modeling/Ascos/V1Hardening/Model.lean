import Ascos.ProductPilot.PilotRecords

/-!
# Records of the V1 hardening

The records of `runtime/v1_hardening_acceptance/models.py`, and what `_payload` and
`_decode` of `persistence.py` make of an artifact and of a file.
-/

namespace Ascos
namespace V1Hardening

open Ascos.Authentication (isIdentifierChar)
open Ascos.CustomerPlanning (firstChars)
open Ascos.GitHubDelivery (Error check contains identifier checkDigest checkCommit isFullName)
open Ascos.Library
open Ascos.ProductPilot (EndToEndProductPilotArtifact UrlParser checkIdentifiers dayLong
  identifiers)
open Ascos.Runtime (Timestamp isSpace)

/-! ## Closed values -/

def v1HardeningActions : List String :=
  ["VERIFY_SECURITY_HARDENING", "VERIFY_BACKUP_INTEGRITY", "VERIFY_DETERMINISTIC_RECOVERY",
    "VERIFY_TAMPER_EVIDENT_AUDIT", "VERIFY_OPERATIONAL_MONITORING",
    "VERIFY_DOCUMENTATION_COMPLETENESS", "PREPARE_FOUNDER_UAT", "REPORT_V1_READINESS"]

def v1HardeningCapabilities : List String :=
  ["exact-day36-pilot-binding", "security-hardening-verification", "verified-backup-and-recovery",
    "tamper-evident-audit-chain", "operational-monitoring-readiness",
    "documentation-completeness", "founder-uat-readiness-reporting"]

def v1HardeningToolIds : List String :=
  ["PERSISTED_DAY36_PILOT_READER", "BOUNDED_HARDENING_ARTIFACT_STORE"]

def hardeningControlIds : List String :=
  ["security", "backup", "recovery", "audit", "monitoring", "documentation",
    "founder-uat-readiness"]

def hardeningControlStates : List String :=
  ["SECURITY_BASELINE_VERIFIED", "BACKUP_COPY_VERIFIED", "RECOVERY_DRILL_VERIFIED",
    "AUDIT_CHAIN_VERIFIED", "MONITORING_SIGNALS_HEALTHY", "DOCUMENTATION_BUNDLE_COMPLETE",
    "TECHNICALLY_READY_FOR_FOUNDER_UAT"]

def monitoringSignalIds : List String :=
  ["runtime-health", "persistence-integrity", "outbox-backlog", "worker-liveness",
    "browser-journey-health"]

def documentationRecordIds : List String :=
  ["architecture", "security-boundaries", "backup-recovery-runbook", "monitoring-runbook",
    "release-evidence", "operator-guide", "founder-uat-guide"]

def artifactStatus : String :=
  "V1_HARDENING_COMPLETE_AWAITING_FOUNDER_UAT"

def founderUatPending : String :=
  "PENDING_FOUNDER_ACCEPTANCE"

def releaseBlocked : String :=
  "BLOCKED_PENDING_FOUNDER_ACCEPTANCE"

/-! ## Records -/

structure V1HardeningWorkOrder where
  workOrderId : String
  tenantId : String
  assignmentId : String
  pilotId : String
  sourcePilotExecutionId : String
  sourcePilotArtifactDigest : String
  repositoryFullName : String
  featureBranch : String
  approvedCommit : String
  approvedTree : String
  draftPullRequestNumber : Nat
  previewUrl : String
  journeyIds : List String
  controlSourceDigests : List String
  monitoringSignalIds : List String
  documentationIds : List String
  objectives : List String
  acceptanceChecks : List String
  constraints : List String
  issuedAt : Timestamp
  expiresAt : Timestamp
deriving DecidableEq

structure V1HardeningAuthority where
  authorityId : String
  issuerId : String
  tenantId : String
  assignmentId : String
  pilotId : String
  workOrderDigest : String
  sourcePilotArtifactDigest : String
  controlSourceDigests : List String
  allowedActionIds : List String
  allowedToolIds : List String
  issuedAt : Timestamp
  expiresAt : Timestamp
deriving DecidableEq

/-- What a snapshot and an artifact take over from the pilot. -/
structure PilotSources where
  pilotId : String
  sourcePilotArtifactDigest : String
  securityArtifactDigest : String
  devopsArtifactDigest : String
  documentationArtifactDigest : String
  runtimeAcceptanceArtifactDigest : String
  repositoryFullName : String
  featureBranch : String
  approvedCommit : String
  approvedTree : String
  draftPullRequestNumber : Nat
  previewUrl : String
  journeyIds : List String
deriving DecidableEq

structure V1HardeningSourceSnapshot extends PilotSources where
  controlSourceDigests : List String
  monitoringSignalIds : List String
  documentationIds : List String
deriving DecidableEq

structure HardeningControlReceipt where
  controlId : String
  sourceDigest : String
  state : String
  evidenceIds : List String
  verifiedAt : Timestamp
  previousAuditDigest : String
  auditDigest : String
deriving DecidableEq

structure MonitoringSignalReceipt where
  signalId : String
  state : String
  evidenceDigest : String
  observedAt : Timestamp
deriving DecidableEq

/-- What an observation and an artifact say about the evidence. -/
structure HardeningEvidence where
  controlReceipts : List HardeningControlReceipt
  monitoringReceipts : List MonitoringSignalReceipt
  documentationIds : List String
  backupCopyCount : Nat := 1
  recoveryDrillCount : Nat := 1
  auditEntryCount : Nat := 7
  reportCount : Nat := 1
  repositoryWriteCount : Nat := 0
  pullRequestMutationCount : Nat := 0
  mergeCount : Nat := 0
  productionDeploymentCount : Nat := 0
  releaseCount : Nat := 0
  billingCount : Nat := 0
  riskAcceptanceCount : Nat := 0
  founderAcceptanceCount : Nat := 0
deriving DecidableEq

/-- The counts that have to be zero. -/
def HardeningEvidence.prohibited (evidence : HardeningEvidence) : List Nat :=
  [evidence.repositoryWriteCount, evidence.pullRequestMutationCount, evidence.mergeCount,
    evidence.productionDeploymentCount, evidence.releaseCount, evidence.billingCount,
    evidence.riskAcceptanceCount, evidence.founderAcceptanceCount]

structure V1HardeningObservation extends HardeningEvidence where
  providerId : String
  pilotId : String
  snapshotDigest : String
deriving DecidableEq

structure V1HardeningAcceptanceArtifact extends PilotSources, HardeningEvidence where
  artifactId : String
  workOrderId : String
  workOrderDigest : String
  authorityDigest : String
  tenantId : String
  executionId : String
  assignmentId : String
  sourcePilotExecutionId : String
  providerId : String
  providerOutputDigest : String
  governanceCapabilityIds : List String
  actionIds : List String
  toolIds : List String
  monitoringSignalCount : Nat
  documentationRecordCount : Nat
  founderUatJourneyCount : Nat
  generatedAt : Timestamp
  expiresAt : Timestamp
  founderUatStatus : String := founderUatPending
  releaseState : String := releaseBlocked
  productionState : String := ProductPilot.productionState
  status : String := artifactStatus
deriving DecidableEq

/-! ## Digests -/

/-- A file of the store, as `json.loads` and the conversions of `_decode` find it: the version of
its schema, the canonical text of its record, the digest that goes with it, and the fields that
the record spells. -/
structure Envelope where
  schemaVersion : Nat
  recordText : String
  recordDigest : String
  record : V1HardeningAcceptanceArtifact
deriving DecidableEq

/-- The functions of the standard library that the records are checked, hashed and written with;
the texts are the canonical ones that are hashed.  A content that is no JSON text, or whose record
lacks a field, has another one or holds a value of another type, does not load. -/
structure Setting (Bytes : Type) where
  urlparse : UrlParser
  hasNetloc : String → Bool
  sha256 : String → String
  orderText : V1HardeningWorkOrder → String
  authorityText : V1HardeningAuthority → String
  pilotText : EndToEndProductPilotArtifact → String
  policyText : String → String → String
  documentationText : String → String
  snapshotText : V1HardeningSourceSnapshot → String
  /-- The text of a receipt without its own digest. -/
  auditText : HardeningControlReceipt → String
  observationText : V1HardeningObservation → String
  recordText : V1HardeningAcceptanceArtifact → String
  dumps : Envelope → Bytes
  loads : Bytes → Option Envelope
  loads_dumps : ∀ artifact,
    loads (dumps ⟨1, recordText artifact, sha256 (recordText artifact), artifact⟩) =
      some ⟨1, recordText artifact, sha256 (recordText artifact), artifact⟩

section Records

variable {Bytes : Type} (setting : Setting Bytes)

/-- `hardening_policy_digests_for`. -/
def hardeningPolicyDigestsFor (pilotDigest : String) : List String :=
  hardeningControlIds.map fun controlId =>
    setting.sha256 (setting.policyText controlId pilotDigest)

def auditDigestFor (receipt : HardeningControlReceipt) : String :=
  setting.sha256 (setting.auditText receipt)

def V1HardeningSourceSnapshot.digest (snapshot : V1HardeningSourceSnapshot) : String :=
  setting.sha256 (setting.snapshotText snapshot)

def V1HardeningObservation.digest (observation : V1HardeningObservation) : String :=
  setting.sha256 (setting.observationText observation)

def V1HardeningWorkOrder.digest (order : V1HardeningWorkOrder) : String :=
  setting.sha256 (setting.orderText order)

def V1HardeningAuthority.digest (authority : V1HardeningAuthority) : String :=
  setting.sha256 (setting.authorityText authority)

def pilotDigest (pilot : EndToEndProductPilotArtifact) : String :=
  setting.sha256 (setting.pilotText pilot)

/-! ## Constructors -/

/-- `_preview_url`. -/
def checkPreviewUrl (value : String) : Except Error Unit := do
  let parsed ← setting.urlparse value
  check (parsed.scheme = "https" && setting.hasNetloc value && parsed.username.all (· = "") &&
    parsed.password.all (· = "")) "V1 hardening preview URL is invalid"

/-- `_branch`. -/
def isFeatureBranch (value : String) : Bool :=
  match value.toList with
  | [] => false
  | c :: rest => isIdentifierChar [] c && decide (rest.length ≤ 199) &&
      rest.all (isIdentifierChar ['.', '_', '/', '-']) && !contains ".." value &&
        !contains "//" value && value ∉ ["main", "master"]

def PilotSources.digests (sources : PilotSources) : List String :=
  [sources.sourcePilotArtifactDigest, sources.securityArtifactDigest,
    sources.devopsArtifactDigest, sources.documentationArtifactDigest,
    sources.runtimeAcceptanceArtifactDigest]

/-- The checks after the digests, which a snapshot and an artifact share. -/
def PilotSources.check (sources : PilotSources) (entity : String) : Except Error Unit := do
  GitHubDelivery.check (isFullName sources.repositoryFullName)
    "V1 hardening repository is invalid"
  GitHubDelivery.check (isFeatureBranch sources.featureBranch)
    "V1 hardening feature branch is invalid"
  checkCommit sources.approvedCommit (entity ++ " commit")
  checkCommit sources.approvedTree (entity ++ " tree")
  GitHubDelivery.check (decide (1 ≤ sources.draftPullRequestNumber))
    (entity ++ " PR number is invalid")
  checkPreviewUrl setting sources.previewUrl
  checkIdentifiers sources.journeyIds (entity ++ " journey IDs") 1 100

def V1HardeningSourceSnapshot.postInit (snapshot : V1HardeningSourceSnapshot) :
    Except Error Unit := do
  identifier snapshot.pilotId "V1 hardening snapshot pilot ID"
  snapshot.digests.forM (checkDigest · "V1 hardening snapshot digest digest")
  snapshot.toPilotSources.check setting "V1 hardening snapshot"
  check (decide (snapshot.controlSourceDigests.length = 7 ∧ snapshot.controlSourceDigests.Nodup))
    "V1 hardening snapshot control digests are invalid"
  snapshot.controlSourceDigests.forM
    (checkDigest · "V1 hardening snapshot control digests digest")
  check (snapshot.monitoringSignalIds = V1Hardening.monitoringSignalIds)
    "V1 hardening snapshot monitoring profile is invalid"
  check (snapshot.documentationIds = documentationRecordIds)
    "V1 hardening snapshot documentation profile is invalid"

def HardeningControlReceipt.postInit (receipt : HardeningControlReceipt) :
    Except Error Unit := do
  identifier receipt.controlId "V1 hardening control ID"
  checkDigest receipt.sourceDigest "V1 hardening control source digest"
  check (!(receipt.state.toList.all isSpace) && decide (receipt.state.length ≤ 160))
    "V1 hardening control state is invalid"
  checkIdentifiers receipt.evidenceIds "V1 hardening evidence IDs" 1 16
  checkDigest receipt.previousAuditDigest "V1 hardening previous audit digest"
  checkDigest receipt.auditDigest "V1 hardening audit digest"
  check (receipt.auditDigest = auditDigestFor setting receipt)
    "V1 hardening audit receipt is invalid"

def MonitoringSignalReceipt.postInit (receipt : MonitoringSignalReceipt) :
    Except Error Unit := do
  identifier receipt.signalId "V1 hardening monitoring signal ID"
  check (receipt.state = "HEALTHY") "V1 hardening monitoring signal is not healthy"
  checkDigest receipt.evidenceDigest "V1 hardening monitoring evidence digest"

/-- Each receipt names the audit digest of the one before it. -/
def chained : String → List HardeningControlReceipt → Bool
  | _, [] => true
  | previous, receipt :: receipts =>
      decide (receipt.previousAuditDigest = previous) && chained receipt.auditDigest receipts

/-- What the first receipt names. -/
def genesisDigest : String :=
  "0000000000000000000000000000000000000000000000000000000000000000"

/-- `V1HardeningObservation.__post_init__`, after its receipts, which are constructed. -/
def V1HardeningObservation.postInit (observation : V1HardeningObservation) :
    Except Error Unit := do
  identifier observation.providerId "V1 hardening provider ID"
  identifier observation.pilotId "V1 hardening observation pilot ID"
  checkDigest observation.snapshotDigest "V1 hardening observation snapshot digest"
  check (decide (observation.controlReceipts.length = 7))
    "V1 hardening control receipts are invalid"
  check (decide (observation.monitoringReceipts.length = 5))
    "V1 hardening monitoring receipts are invalid"
  check (observation.controlReceipts.map (·.controlId) = hardeningControlIds)
    "V1 hardening control order is invalid"
  check (observation.controlReceipts.map (·.state) = hardeningControlStates)
    "V1 hardening control state is invalid"
  check (chained genesisDigest observation.controlReceipts) "V1 hardening audit chain is invalid"
  check (observation.monitoringReceipts.map (·.signalId) = monitoringSignalIds)
    "V1 hardening monitoring order is invalid"
  check (observation.documentationIds = documentationRecordIds)
    "V1 hardening documentation result is invalid"
  check (decide (observation.backupCopyCount = 1 ∧ observation.recoveryDrillCount = 1 ∧
    observation.auditEntryCount = 7 ∧ observation.reportCount = 1))
    "V1 hardening evidence count is invalid"
  check (observation.prohibited.all (· = 0))
    "V1 hardening observation crossed a prohibited boundary"

def V1HardeningObservation.construct (observation : V1HardeningObservation) :
    Except Error Unit := do
  observation.controlReceipts.forM (·.postInit setting)
  observation.monitoringReceipts.forM (·.postInit)
  observation.postInit

def V1HardeningAcceptanceArtifact.snapshot (artifact : V1HardeningAcceptanceArtifact) :
    V1HardeningSourceSnapshot :=
  { toPilotSources := artifact.toPilotSources
    controlSourceDigests := artifact.controlReceipts.map (·.sourceDigest)
    monitoringSignalIds := artifact.monitoringReceipts.map (·.signalId)
    documentationIds := artifact.documentationIds }

def V1HardeningAcceptanceArtifact.observation (artifact : V1HardeningAcceptanceArtifact) :
    V1HardeningObservation :=
  { toHardeningEvidence := artifact.toHardeningEvidence
    providerId := artifact.providerId
    pilotId := artifact.pilotId
    snapshotDigest := artifact.snapshot.digest setting }

/-- `V1HardeningAcceptanceArtifact.__post_init__`, after its receipts, which are constructed. -/
def V1HardeningAcceptanceArtifact.postInit (artifact : V1HardeningAcceptanceArtifact) :
    Except Error Unit := do
  identifiers "V1 hardening artifact"
    [(artifact.artifactId, "artifact"), (artifact.workOrderId, "work-order"),
      (artifact.tenantId, "tenant"), (artifact.executionId, "execution"),
      (artifact.assignmentId, "assignment"), (artifact.pilotId, "pilot"),
      (artifact.sourcePilotExecutionId, "source execution"), (artifact.providerId, "provider")]
  ([artifact.workOrderDigest, artifact.authorityDigest] ++ artifact.digests ++
    [artifact.providerOutputDigest]).forM (checkDigest · "V1 hardening artifact digest digest")
  artifact.toPilotSources.check setting "V1 hardening artifact"
  (artifact.observation setting).postInit
  check (artifact.governanceCapabilityIds = v1HardeningCapabilities &&
    artifact.actionIds = v1HardeningActions && artifact.toolIds = v1HardeningToolIds)
    "V1 hardening artifact authority profile is invalid"
  check (decide (artifact.monitoringSignalCount = 5 ∧ artifact.documentationRecordCount = 7 ∧
    artifact.founderUatJourneyCount = artifact.journeyIds.length))
    "V1 hardening artifact evidence summary is invalid"
  check (dayLong artifact.generatedAt artifact.expiresAt)
    "V1 hardening artifact validity window is invalid"
  check (artifact.founderUatStatus = founderUatPending &&
    artifact.releaseState = releaseBlocked &&
    artifact.productionState = ProductPilot.productionState && artifact.status = artifactStatus)
    "V1 hardening artifact terminal state is invalid"

def V1HardeningAcceptanceArtifact.construct (artifact : V1HardeningAcceptanceArtifact) :
    Except Error Unit := do
  artifact.controlReceipts.forM (·.postInit setting)
  artifact.monitoringReceipts.forM (·.postInit)
  artifact.postInit setting

/-- `artifact_id_for`. -/
def artifactIdFor (tenantId executionId : String) : Except Error String := do
  identifier tenantId "V1 hardening tenant ID"
  identifier executionId "V1 hardening execution ID"
  pure ("v1-hardening-" ++ firstChars (setting.sha256 (tenantId ++ ":" ++ executionId)) 32)

/-! ## Writing and reading -/

/-- `_payload`. -/
def payload (artifact : V1HardeningAcceptanceArtifact) : Bytes :=
  setting.dumps ⟨1, setting.recordText artifact, setting.sha256 (setting.recordText artifact),
    artifact⟩

/-- `_decode`. -/
def decode (content : Bytes) : Except Error V1HardeningAcceptanceArtifact :=
  match setting.loads content with
  | some envelope =>
    if envelope.schemaVersion = 1 ∧
        envelope.recordDigest = setting.sha256 envelope.recordText ∧
        (envelope.record.construct setting).isOk = true then .ok envelope.record
    else .error ⟨.corrupt, "Day 37 artifact is corrupt"⟩
  | none => .error ⟨.corrupt, "Day 37 artifact is corrupt"⟩

/-- An artifact is read back as it was written. -/
theorem decode_payload {artifact : V1HardeningAcceptanceArtifact}
    (hconstruct : artifact.construct setting = .ok ()) :
    decode setting (payload setting artifact) = .ok artifact := by
  unfold decode payload
  rw [setting.loads_dumps]
  simp [hconstruct, Except.isOk, Except.toBool]

end Records

end V1Hardening
end Ascos
