import Ascos.Authentication.Model
import Ascos.CustomerPlanning.Model

/-!
# Customer acceptance records

The records of `runtime/customer_acceptance/models.py`, and the browser plan of
`runtime/managed_product_browser/models.py` that an acceptance is prepared with.  Every
instant is in UTC.
-/

namespace Ascos

/-! ## Branches -/

namespace CustomerExecution

open Ascos.Authentication (isIdentifierChar)

/-- A part of a text. -/
def contains (part : String) (chars : List Char) : Bool :=
  chars.tails.any part.toList.isPrefixOf

def isBranchChar (c : Char) : Bool :=
  isIdentifierChar ['.', '_', '/', '-'] c

/-- `_BRANCH.fullmatch` of `runtime/customer_execution/models.py`. -/
def isBranch (value : String) : Bool :=
  let chars := value.toList
  decide (1 ≤ chars.length ∧ chars.length ≤ 200) && chars.all isBranchChar &&
    chars.head?.all (fun c => c ∉ ['-', '/', '.']) &&
      chars.getLast?.all (fun c => c ∉ ['/', '.']) && !contains ".." chars &&
        !contains "//" chars && !contains "/." chars && !contains ".lock/" chars &&
          !".lock".toList.isSuffixOf chars

end CustomerExecution

namespace CustomerAcceptance

open Ascos.Authentication (isIdentifier isIdentifierChar)
open Ascos.CustomerExecution (isBranch)
open Ascos.CustomerPlanning (isDigest isHex)
open Ascos.Library
open Ascos.Runtime (Timestamp isSpace)

/-! ## Errors -/

/-- The exception classes of the customer acceptance package; those of the code that it calls
are known by their names. -/
inductive ErrorClass where
  | valueError
  | notConfigured
  | notFound
  | conflict
  | policyError
  | corrupt
  | reconciliationRequired
  | browserPlanError
  | other (name : String)
deriving DecidableEq

/-- `type(error).__name__`. -/
def ErrorClass.name : ErrorClass → String
  | .valueError => "ValueError"
  | .notConfigured => "CustomerAcceptanceNotConfigured"
  | .notFound => "CustomerAcceptanceNotFound"
  | .conflict => "CustomerAcceptanceConflict"
  | .policyError => "CustomerAcceptancePolicyError"
  | .corrupt => "CustomerAcceptanceCorrupt"
  | .reconciliationRequired => "CustomerAcceptanceReconciliationRequired"
  | .browserPlanError => "BrowserPlanError"
  | .other name => name

/-- A raised exception with its message. -/
structure Error where
  errorClass : ErrorClass
  message : String
deriving DecidableEq

/-! ## Checks of fields -/

/-- A check of one field against a condition. -/
def check (accepted : Bool) (message : String) : Except Error Unit :=
  if accepted = true then pure () else throw ⟨.valueError, message⟩

/-- `_id`. -/
def identifier (value label : String) : Except Error Unit :=
  check (isIdentifier value) (label ++ " is invalid")

/-- `_digest`. -/
def checkDigest (value label : String) : Except Error Unit :=
  check (isDigest value) (label ++ " is invalid")

/-- The pattern of a full commit identity. -/
def isCommit (value : String) : Bool :=
  decide (value.length = 40) && value.toList.all isHex

/-- `_commit`. -/
def checkCommit (value label : String) : Except Error Unit :=
  check (isCommit value) (label ++ " is invalid")

def isControl (c : Char) : Bool :=
  decide (c.toNat < 32) || decide (c.toNat = 127)

/-- A text without blanks at its ends, with a bounded number of printable characters. -/
def isBoundedText (value : String) (maximum : Nat) : Bool :=
  value ≠ "" && decide (value = strip isSpace value) && decide (value.length ≤ maximum) &&
    !value.toList.any isControl

def text (value label : String) (maximum : Nat) : Except Error Unit :=
  check (isBoundedText value maximum) (label ++ " is invalid")

/-- A character of the name of a repository or of a workflow file. -/
def isNameChar (c : Char) : Bool :=
  isIdentifierChar ['_', '.', '-'] c

/-- `_REPOSITORY.fullmatch`. -/
def isRepository (value : String) : Bool :=
  match value.toList.splitOn '/' with
  | [owner, name] => [owner, name].all fun part =>
      decide (1 ≤ part.length ∧ part.length ≤ 100) && part.all isNameChar
  | _ => false

/-- `_WORKFLOW.fullmatch`. -/
def isWorkflow (value : String) : Bool :=
  let directory := ".github/workflows/".toList
  let name := value.toList.drop directory.length
  directory.isPrefixOf value.toList && [".yml".toList, ".yaml".toList].any fun ending =>
    ending.isSuffixOf name &&
      let stem := name.take (name.length - ending.length)
      stem.all isNameChar && stem.tails.any "preview".toList.isPrefixOf

/-- A check of a field that may be missing. -/
def present {α : Type} (check : α → Except Error Unit) : Option α → Except Error Unit
  | none => pure ()
  | some value => check value

def githubUrl (value label : String) : Except Error Unit :=
  check ("https://github.com/".toList.isPrefixOf value.toList && decide (value.length ≤ 2048))
    (label ++ " is invalid")

/-! ## The browser plan -/

inductive BrowserLocatorKind where
  | role
  | label
  | testId
  | text
deriving DecidableEq

inductive BrowserActionKind where
  | click
  | fill
  | assertVisible
  | assertText
  | assertUrlPath
  | reload
  | assertMediaPlayed
deriving DecidableEq

structure BrowserLocator where
  kind : BrowserLocatorKind
  value : String
  accessibleName : String := ""
  exact : Bool := true
deriving DecidableEq

structure BrowserInputBinding where
  inputId : String
  publicValue : Option String := none
  secretReference : Option String := none
deriving DecidableEq

structure BrowserStep where
  stepId : String
  action : BrowserActionKind
  locator : Option BrowserLocator := none
  inputId : String := ""
  expectedText : String := ""
  expectedPath : String := ""
deriving DecidableEq

structure BrowserJourneySpecification where
  journeyId : String
  capabilityId : String
  title : String
  startPath : String
  steps : List BrowserStep
  timeoutSeconds : Nat := 30
deriving DecidableEq

structure BrowserJourneyPlan where
  planId : String
  runId : String
  productId : String
  configurationId : String
  configurationRevision : Nat
  configurationDigest : String
  commitSha : String
  acceptanceProfileId : String
  acceptanceProfileVersion : String
  acceptanceProfileDigest : String
  journeys : List BrowserJourneySpecification
  inputs : List BrowserInputBinding
  createdBy : String
  createdAt : Timestamp
deriving DecidableEq

/-- `_identifier` of the browser models. -/
def browserIdentifier (value label : String) : Except Error Unit :=
  check (isIdentifier value) (label ++ " must be a safe identifier")

/-- `_digest` of the browser models. -/
def browserDigest (value label : String) : Except Error Unit :=
  check (isDigest value) (label ++ " requires a lowercase SHA-256 digest")

def boundedText (value label : String) (maximum : Nat) : Except Error Unit :=
  check (isBoundedText value maximum) (label ++ " must be bounded text")

def unique (values : List String) (label : String) : Except Error Unit :=
  check (decide values.Nodup) (label ++ " must be unique")

/-- The inputs that the steps of the journeys refer to. -/
def usedInputs (journeys : List BrowserJourneySpecification) : List String :=
  (journeys.flatMap fun journey => journey.steps.map (·.inputId)).filter (· ≠ "")

def BrowserJourneyPlan.postInit (plan : BrowserJourneyPlan) : Except Error Unit := do
  browserIdentifier plan.planId "browser plan ID"
  browserIdentifier plan.runId "browser run ID"
  browserIdentifier plan.productId "browser product ID"
  browserIdentifier plan.configurationId "browser configuration ID"
  browserIdentifier plan.acceptanceProfileId "browser acceptance profile ID"
  check (decide (1 ≤ plan.configurationRevision)) "Browser configuration revision must be positive"
  browserDigest plan.configurationDigest "browser configuration digest"
  check (isCommit plan.commitSha) "browser plan commit requires a lowercase full commit SHA"
  boundedText plan.acceptanceProfileVersion "browser acceptance profile version" 128
  browserDigest plan.acceptanceProfileDigest "browser acceptance profile digest"
  check (decide (plan.journeys ≠ [] ∧ plan.journeys.length ≤ 100))
    "Browser plan requires a bounded tuple of journeys"
  check (decide (plan.inputs.length ≤ 100)) "Browser plan inputs must be a bounded tuple"
  unique (plan.journeys.map (·.journeyId)) "browser journey IDs"
  unique (plan.inputs.map (·.inputId)) "browser input IDs"
  let known := plan.inputs.map (·.inputId)
  let used := usedInputs plan.journeys
  check (used.all (· ∈ known) && known.all (· ∈ used))
    "Browser plan inputs must be referenced exactly by its journeys"
  boundedText plan.createdBy "browser plan creator" 256

/-! ## The acceptance record -/

inductive CustomerAcceptanceStatus where
  | awaitingApproval
  | approved
  | executionInProgress
  | evidenceReady
  | reconciliationRequired
deriving DecidableEq

structure AcceptanceJourneySummary where
  journeyId : String
  capabilityId : String
  title : String
  startPath : String
  stepCount : Nat
deriving DecidableEq

def AcceptanceJourneySummary.postInit (summary : AcceptanceJourneySummary) :
    Except Error Unit := do
  identifier summary.journeyId "acceptance journey ID"
  identifier summary.capabilityId "acceptance capability ID"
  text summary.title "acceptance journey title" 512
  check (summary.startPath.toList.head? = some '/' && '?' ∉ summary.startPath.toList &&
    '#' ∉ summary.startPath.toList) "Acceptance journey start path is invalid"
  check (decide (1 ≤ summary.stepCount ∧ summary.stepCount ≤ 100))
    "Acceptance journey step count is invalid"

/-- The fields of a record that its approval digest hashes. -/
structure ApprovalScope where
  acceptanceId : String
  customerId : String
  requestId : String
  productId : String
  deliveryId : String
  deliveryDigest : String
  deliveryReviewDigest : String
  repositoryFullName : String
  baseBranch : String
  headBranch : String
  commitSha : String
  treeSha : String
  pullRequestNumber : Int
  pullRequestUrl : String
  configurationDigest : String
  previewEnvironmentId : String
  previewUrl : String
  workflowFile : String
  automatedTestJob : String
  securityJob : String
  browserPlanId : String
  browserPlanDigest : String
  journeys : List AcceptanceJourneySummary
deriving DecidableEq

structure CustomerAcceptanceRecord extends ApprovalScope where
  createdAt : Timestamp
  updatedAt : Timestamp
  status : CustomerAcceptanceStatus := .awaitingApproval
  approvedAt : Option Timestamp := none
  approvedBy : Option String := none
  workflowRunId : Option Int := none
  workflowRunUrl : Option String := none
  deploymentRevision : Option String := none
  deploymentReceiptDigest : Option String := none
  browserExecutionDigest : Option String := none
  evidencePackageId : Option String := none
  evidencePackageDigest : Option String := none
  failureClassification : Option String := none
deriving DecidableEq

/-- The record that `approval_digest` hashes. -/
def CustomerAcceptanceRecord.approvalScope (record : CustomerAcceptanceRecord) : ApprovalScope :=
  record.toApprovalScope

/-- Which fields of the evidence receipt are there. -/
def CustomerAcceptanceRecord.receipt (record : CustomerAcceptanceRecord) : List Bool :=
  [record.workflowRunId.isSome, record.workflowRunUrl.isSome, record.deploymentRevision.isSome,
    record.deploymentReceiptDigest.isSome, record.browserExecutionDigest.isSome,
    record.evidencePackageId.isSome, record.evidencePackageDigest.isSome]

/-- `CustomerAcceptanceConfiguration`, as far as the service reads it. -/
structure CustomerAcceptanceConfiguration where
  previewEnvironmentId : String
  previewUrl : String
  workflowFile : String
  automatedTestJob : String
  securityJob : String
  acceptanceProfileId : String
  acceptanceProfileVersion : String
  allowedOrigins : List String
  journeys : List BrowserJourneySpecification
  inputs : List BrowserInputBinding := []
  browserCdpReference : Option String := none
  enabled : Bool := false
  previewDeploymentConfirmed : Bool := false
  browserExecutionConfirmed : Bool := false
  workflowTimeoutSeconds : Nat := 900
deriving DecidableEq

def CustomerAcceptanceConfiguration.liveEnabled
    (configuration : CustomerAcceptanceConfiguration) : Bool :=
  configuration.enabled && configuration.previewDeploymentConfirmed &&
    configuration.browserExecutionConfirmed

/-- The functions of the standard library that records are checked and hashed with. -/
structure Setting where
  sha256 : String → String
  planText : BrowserJourneyPlan → String
  approvalText : ApprovalScope → String
  recordText : CustomerAcceptanceRecord → String
  configurationText : CustomerAcceptanceConfiguration → String
  /-- `_origin`, which splits a URL. -/
  origin : String → String → Except Error Unit

variable (setting : Setting)

def BrowserJourneyPlan.digest (plan : BrowserJourneyPlan) : String :=
  setting.sha256 (setting.planText plan)

def CustomerAcceptanceConfiguration.digest (configuration : CustomerAcceptanceConfiguration) :
    String :=
  setting.sha256 (setting.configurationText configuration)

def CustomerAcceptanceRecord.approvalDigest (record : CustomerAcceptanceRecord) : String :=
  setting.sha256 (setting.approvalText record.approvalScope)

def CustomerAcceptanceRecord.digest (record : CustomerAcceptanceRecord) : String :=
  setting.sha256 (setting.recordText record)

/-- The states that only an approved record takes. -/
def approvedStatuses : List CustomerAcceptanceStatus :=
  [.approved, .executionInProgress, .evidenceReady]

def CustomerAcceptanceRecord.postInit (record : CustomerAcceptanceRecord) :
    Except Error Unit := do
  identifier record.acceptanceId "acceptance ID"
  identifier record.customerId "acceptance customer ID"
  identifier record.requestId "acceptance request ID"
  identifier record.productId "acceptance product ID"
  identifier record.deliveryId "acceptance delivery ID"
  identifier record.previewEnvironmentId "acceptance preview environment ID"
  identifier record.browserPlanId "acceptance browser plan ID"
  checkDigest record.deliveryDigest "delivery digest"
  checkDigest record.deliveryReviewDigest "delivery review digest"
  checkDigest record.configurationDigest "acceptance configuration digest"
  checkDigest record.browserPlanDigest "browser plan digest"
  check (isRepository record.repositoryFullName) "Acceptance repository is invalid"
  check (isBranch record.baseBranch && isBranch record.headBranch) "Acceptance branch is invalid"
  check ("agent/".toList.isPrefixOf record.headBranch.toList &&
    record.baseBranch ≠ record.headBranch) "Acceptance branch authority is invalid"
  checkCommit record.commitSha "acceptance commit"
  checkCommit record.treeSha "acceptance tree"
  check (decide (1 ≤ record.pullRequestNumber)) "Acceptance pull-request number is invalid"
  githubUrl record.pullRequestUrl "acceptance pull-request URL"
  setting.origin record.previewUrl "acceptance preview URL"
  check (isWorkflow record.workflowFile) "Acceptance workflow is invalid"
  text record.automatedTestJob "acceptance test job" 200
  text record.securityJob "acceptance security job" 200
  check (decide (record.journeys ≠ [] ∧ record.journeys.length ≤ 50 ∧
    (record.journeys.map (·.journeyId)).Nodup)) "Acceptance journey summaries are invalid"
  check (decide (record.createdAt ≤ record.updatedAt)) "Acceptance time regressed"
  check (decide (record.approvedAt.isSome = record.approvedBy.isSome))
    "Acceptance approval identity is incomplete"
  present (identifier · "acceptance approver") record.approvedBy
  check (record.status ∉ approvedStatuses || record.approvedAt.isSome)
    "Acceptance transition requires customer approval"
  if record.status = .evidenceReady then
    check (record.receipt.all (· = true)) "Acceptance evidence receipt is incomplete"
  else
    check (record.receipt.all (· = false)) "Acceptance receipt exists before evidence is ready"
  check (decide (record.status = .reconciliationRequired ↔
    record.failureClassification.isSome = true))
    "Acceptance reconciliation classification is invalid"
  present (text · "acceptance failure classification" 200) record.failureClassification

/-- A value that has passed the checks of its constructor. -/
def constructed {α : Type} (postInit : α → Except Error Unit) (value : α) : Except Error α := do
  postInit value
  pure value

theorem constructed_eq_ok {α : Type} {postInit : α → Except Error Unit} {value made : α}
    (h : constructed postInit value = .ok made) : made = value := by
  unfold constructed at h
  cases hchecked : postInit value with
  | error e =>
    rw [hchecked] at h
    cases h
  | ok u =>
    rw [hchecked] at h
    cases h
    rfl

end CustomerAcceptance
end Ascos
