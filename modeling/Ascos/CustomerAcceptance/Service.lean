import Ascos.CustomerAcceptance.Model
import Ascos.Library.Interruption
import Ascos.Library.Table

/-!
# Preparing, approving and executing an acceptance

The stores of `runtime/customer_acceptance/persistence.py` and of the browser plans, and
the calls of `service.py`.  A store holds whole values: a call may die between two writes,
not inside of one.  What the adapter and the evidence service answer is part of the call.
-/

namespace Ascos
namespace CustomerAcceptance

open Ascos.CustomerPlanning (firstChars)
open Ascos.Library
open Ascos.Runtime (Timestamp)

/-! ## What the service is built with and asks for -/

/-- `CustomerDeliveryStatus`, of which the service asks for one. -/
inductive DeliveryStatus where
  | draftPrCreated
  | other (name : String)
deriving DecidableEq

/-- `CustomerDeliveryReview`, as far as the service reads it, with the values of its digests. -/
structure CustomerDeliveryReview where
  deliveryId : String
  customerId : String
  requestId : String
  productId : String
  digest : String
  reviewDigest : String
  repositoryFullName : String
  baseBranch : String
  workspaceBranch : String
  status : DeliveryStatus
  commitSha : Option String := none
  treeSha : Option String := none
  pullRequestNumber : Option Int := none
  pullRequestUrl : Option String := none
deriving DecidableEq

/-- The customer and the request that a record is kept for. -/
structure Key where
  customerId : String
  requestId : String
deriving DecidableEq

/-- The product, the run and the plan that a browser plan is kept for. -/
structure PlanKey where
  productId : String
  runId : String
  planId : String
deriving DecidableEq

def CustomerAcceptanceRecord.key (record : CustomerAcceptanceRecord) : Key :=
  ⟨record.customerId, record.requestId⟩

def BrowserJourneyPlan.key (plan : BrowserJourneyPlan) : PlanKey :=
  ⟨plan.productId, plan.runId, plan.planId⟩

/-- What a service is built with.  The upstream deliveries do not change. -/
structure Environment where
  setting : Setting
  configuration : Option CustomerAcceptanceConfiguration
  /-- There is an adapter. -/
  adapter : Bool
  deliveries : Key → Option CustomerDeliveryReview
  clock : Nat → Timestamp

/-- What `adapter.execute` returns, as far as the service reads it. -/
structure Outcome where
  workflowRunId : Int
  workflowRunUrl : String
  deploymentRevision : String
  deploymentDigest : String
  browserDigest : String
deriving DecidableEq

/-- The evidence package that is published. -/
structure Package where
  packageId : String
  digest : String
deriving DecidableEq

/-- What the adapter and the evidence service answer in one call. -/
structure Answers where
  preflight : Except Error Unit
  executed : Except Error Outcome
  published : Except Error Package

/-! ## The world -/

/-- What happened: a record was stored, or the adapter was asked to execute one, which the
caller had confirmed by a digest. -/
inductive Event where
  | recorded (record : CustomerAcceptanceRecord)
  | executed (confirmed : String) (record : CustomerAcceptanceRecord) (plan : BrowserJourneyPlan)
deriving DecidableEq

/-- The two stores, how often the clock was read, and what happened, the latest first. -/
structure World where
  plans : Table PlanKey BrowserJourneyPlan
  records : Table Key CustomerAcceptanceRecord
  ticks : Nat
  log : List Event

/-- The world before the first call. -/
def World.initial : World :=
  ⟨[], [], 0, []⟩

/-- The world in which the clock has been read once more. -/
def World.tick (world : World) : World :=
  { world with ticks := world.ticks + 1 }

def World.savePlan (world : World) (plan : BrowserJourneyPlan) : World :=
  { world with plans := world.plans.save plan.key plan }

def World.saveRecord (world : World) (record : CustomerAcceptanceRecord) : World :=
  { world with
    records := world.records.save record.key record
    log := .recorded record :: world.log }

/-- The world in which the adapter has been asked to execute. -/
def World.execute (world : World) (confirmed : String) (record : CustomerAcceptanceRecord)
    (plan : BrowserJourneyPlan) : World :=
  { world with log := .executed confirmed record plan :: world.log }

/-- A call on the stores. -/
abbrev Acceptance (α : Type) :=
  Procedure World Error α

variable (env : Environment)

/-- A reading of the clock. -/
def now : Acceptance Timestamp :=
  .step World.tick fun world => .done (.ok (env.clock (world.ticks)))

/-- The raise of an exception. -/
def fail {α : Type} (errorClass : ErrorClass) (message : String) : Acceptance α :=
  .raise ⟨errorClass, message⟩

/-! ## The stores -/

def acceptanceIdFor (requestId : String) : Except Error String := do
  identifier requestId "acceptance request ID"
  pure ("customer-acceptance-" ++
    firstChars (env.setting.sha256 ("customer-acceptance:" ++ requestId)) 24)

def browserPlanIdFor (requestId : String) : Except Error String := do
  identifier requestId "browser plan request ID"
  pure ("customer-browser-" ++
    firstChars (env.setting.sha256 ("customer-browser-plan:" ++ requestId)) 24)

/-- The identities that `_path` checks. -/
def storePath (key : Key) : Except Error Unit := do
  let _ ← acceptanceIdFor env key.customerId
  let _ ← acceptanceIdFor env key.requestId

def load (key : Key) : Acceptance CustomerAcceptanceRecord := do
  Procedure.ofExcept (storePath env key)
  Procedure.query fun world =>
    match world.records.load key with
    | none => .error ⟨.notFound, "Customer acceptance record does not exist"⟩
    | some record =>
        if record.key = key ∧ acceptanceIdFor env key.requestId = .ok record.acceptanceId then
          .ok record
        else .error ⟨.corrupt, "Customer acceptance record is corrupt"⟩

def create (record : CustomerAcceptanceRecord) : Acceptance CustomerAcceptanceRecord := do
  Procedure.ofExcept (storePath env record.key)
  let fresh ← Procedure.query fun world => .ok (world.records.load record.key).isNone
  if fresh = true then
    Procedure.modify (·.saveRecord record)
    pure record
  else
    let existing ← load env record.key
    if existing.approvalDigest env.setting = record.approvalDigest env.setting then
      pure existing
    else fail .conflict "A different acceptance plan already exists"

def replace (record : CustomerAcceptanceRecord) (expectedDigest : String) :
    Acceptance CustomerAcceptanceRecord := do
  let current ← load env record.key
  if current.digest env.setting ≠ expectedDigest then
    fail .conflict "Customer acceptance record changed"
  else if current.approvalDigest env.setting ≠ record.approvalDigest env.setting then
    fail .conflict "Approved acceptance authority cannot change"
  else
    Procedure.modify (·.saveRecord record)
    pure record

/-- `FileBrowserJourneyPlanStore.load`. -/
def loadPlan (key : PlanKey) : Acceptance BrowserJourneyPlan :=
  Procedure.query fun world =>
    match world.plans.load key with
    | none => .error ⟨.browserPlanError, "Browser journey plan is missing or corrupt"⟩
    | some plan =>
        if plan.key = key then .ok plan
        else .error ⟨.browserPlanError, "Browser journey plan is missing or corrupt"⟩

/-- `FileBrowserJourneyPlanStore.save`. -/
def savePlan (plan : BrowserJourneyPlan) : Acceptance BrowserJourneyPlan := do
  let present ← Procedure.query fun world => .ok (world.plans.load plan.key).isSome
  if present = true then
    let existing ← loadPlan plan.key
    if existing ≠ plan then fail .browserPlanError "Browser journey plan is immutable"
    else pure existing
  else
    Procedure.modify (·.savePlan plan)
    pure plan

/-! ## The checks of the service -/

def requireConfiguration : Except Error CustomerAcceptanceConfiguration :=
  match env.configuration with
  | none =>
      throw ⟨.notConfigured, "The operator has not bound an isolated preview and browser plan"⟩
  | some configuration => pure configuration

def liveEnabled : Bool :=
  (env.configuration.any (·.liveEnabled)) && env.adapter

def requireDelivery (key : Key) : Except Error CustomerDeliveryReview :=
  match env.deliveries key with
  | none => throw ⟨.conflict, "Module 4 has not produced an exact draft delivery"⟩
  | some delivery =>
    if delivery.status = .draftPrCreated then pure delivery
    else throw ⟨.conflict, "Module 4 has not produced an exact draft delivery"⟩

/-- The fields of a record that `_require_binding` compares. -/
structure Binding where
  customerId : String
  requestId : String
  productId : String
  deliveryId : String
  deliveryDigest : String
  deliveryReviewDigest : String
  repositoryFullName : String
  baseBranch : String
  headBranch : String
  commitSha : Option String
  treeSha : Option String
  pullRequestNumber : Option Int
  pullRequestUrl : Option String
deriving DecidableEq

def CustomerAcceptanceRecord.binding (record : CustomerAcceptanceRecord) : Binding :=
  { customerId := record.customerId, requestId := record.requestId,
    productId := record.productId, deliveryId := record.deliveryId,
    deliveryDigest := record.deliveryDigest,
    deliveryReviewDigest := record.deliveryReviewDigest,
    repositoryFullName := record.repositoryFullName, baseBranch := record.baseBranch,
    headBranch := record.headBranch, commitSha := some record.commitSha,
    treeSha := some record.treeSha, pullRequestNumber := some record.pullRequestNumber,
    pullRequestUrl := some record.pullRequestUrl }

def CustomerDeliveryReview.binding (delivery : CustomerDeliveryReview) : Binding :=
  { customerId := delivery.customerId, requestId := delivery.requestId,
    productId := delivery.productId, deliveryId := delivery.deliveryId,
    deliveryDigest := delivery.digest, deliveryReviewDigest := delivery.reviewDigest,
    repositoryFullName := delivery.repositoryFullName, baseBranch := delivery.baseBranch,
    headBranch := delivery.workspaceBranch, commitSha := delivery.commitSha,
    treeSha := delivery.treeSha, pullRequestNumber := delivery.pullRequestNumber,
    pullRequestUrl := delivery.pullRequestUrl }

def requireBinding (record : CustomerAcceptanceRecord) (delivery : CustomerDeliveryReview) :
    Except Error Unit :=
  if record.binding = delivery.binding then pure ()
  else throw ⟨.policyError, "Acceptance differs from Module 4 delivery authority"⟩

/-- `_load_plan`. -/
def loadBoundPlan (record : CustomerAcceptanceRecord) : Acceptance BrowserJourneyPlan := do
  let plan ← loadPlan ⟨record.productId, record.acceptanceId, record.browserPlanId⟩
  if plan.digest env.setting = record.browserPlanDigest ∧ plan.runId = record.acceptanceId ∧
      plan.productId = record.productId ∧ plan.commitSha = record.commitSha then
    pure plan
  else fail .policyError "Persisted browser plan changed"

/-! ## Preparing -/

/-- The commit and the tree of a draft delivery. -/
def deliveredIdentities (delivery : CustomerDeliveryReview) : Except Error (String × String) :=
  match delivery.commitSha, delivery.treeSha with
  | some commitSha, some treeSha =>
    if commitSha.length ≠ 40 ∨ treeSha.length ≠ 40 then
      throw ⟨.policyError, "Preview requires exact GitHub SHA-1 identities"⟩
    else pure (commitSha, treeSha)
  | _, _ => throw ⟨.policyError, "Draft delivery commit evidence is incomplete"⟩

/-- The browser plan that `prepare` makes. -/
def newPlan (key : Key) (configuration : CustomerAcceptanceConfiguration)
    (delivery : CustomerDeliveryReview) (commitSha : String) (now : Timestamp) :
    Except Error BrowserJourneyPlan := do
  let runId ← acceptanceIdFor env key.requestId
  let planId ← browserPlanIdFor env key.requestId
  constructed BrowserJourneyPlan.postInit
    { planId := planId
      runId := runId
      productId := delivery.productId
      configurationId := configuration.previewEnvironmentId
      configurationRevision := 1
      configurationDigest := configuration.digest env.setting
      commitSha := commitSha
      acceptanceProfileId := configuration.acceptanceProfileId
      acceptanceProfileVersion := configuration.acceptanceProfileVersion
      acceptanceProfileDigest := configuration.digest env.setting
      journeys := configuration.journeys
      inputs := configuration.inputs
      createdBy := key.customerId
      createdAt := now }

def summarize (journey : BrowserJourneySpecification) :
    Except Error AcceptanceJourneySummary :=
  constructed AcceptanceJourneySummary.postInit
    { journeyId := journey.journeyId
      capabilityId := journey.capabilityId
      title := journey.title
      startPath := journey.startPath
      stepCount := journey.steps.length }

/-- The record that `prepare` makes. -/
def newRecord (key : Key) (configuration : CustomerAcceptanceConfiguration)
    (delivery : CustomerDeliveryReview) (treeSha : String) (plan : BrowserJourneyPlan) :
    Except Error CustomerAcceptanceRecord := do
  let journeys ← plan.journeys.mapM summarize
  constructed (CustomerAcceptanceRecord.postInit env.setting)
    { acceptanceId := plan.runId
      customerId := key.customerId
      requestId := key.requestId
      productId := delivery.productId
      deliveryId := delivery.deliveryId
      deliveryDigest := delivery.digest
      deliveryReviewDigest := delivery.reviewDigest
      repositoryFullName := delivery.repositoryFullName
      baseBranch := delivery.baseBranch
      headBranch := delivery.workspaceBranch
      commitSha := plan.commitSha
      treeSha := treeSha
      pullRequestNumber := delivery.pullRequestNumber.getD 0
      pullRequestUrl := delivery.pullRequestUrl.getD ""
      configurationDigest := configuration.digest env.setting
      previewEnvironmentId := configuration.previewEnvironmentId
      previewUrl := configuration.previewUrl
      workflowFile := configuration.workflowFile
      automatedTestJob := configuration.automatedTestJob
      securityJob := configuration.securityJob
      browserPlanId := plan.planId
      browserPlanDigest := plan.digest env.setting
      journeys := journeys
      createdAt := plan.createdAt
      updatedAt := plan.createdAt }

def prepare (key : Key) : Acceptance CustomerAcceptanceRecord := do
  let configuration ← Procedure.ofExcept (requireConfiguration env)
  let delivery ← Procedure.ofExcept (requireDelivery env key)
  let (commitSha, treeSha) ← Procedure.ofExcept (deliveredIdentities delivery)
  let created ← now env
  let plan ← Procedure.ofExcept (newPlan env key configuration delivery commitSha created)
  let _ ← savePlan plan
  let record ← Procedure.ofExcept (newRecord env key configuration delivery treeSha plan)
  create env record

/-! ## Approving -/

def approve (key : Key) (expectedApprovalDigest : String) (confirmPreviewScope : Bool) :
    Acceptance CustomerAcceptanceRecord := do
  if confirmPreviewScope = false then
    fail .policyError "Exact preview acceptance confirmation is required"
  else
    let delivery ← Procedure.ofExcept (requireDelivery env key)
    let record ← load env key
    Procedure.ofExcept (requireBinding record delivery)
    if record.status = .approved then
      if record.approvalDigest env.setting = expectedApprovalDigest then pure record
      else fail .conflict "Preview acceptance approval is stale"
    else if record.status ≠ .awaitingApproval then
      fail .conflict "Preview acceptance cannot be approved now"
    else if record.approvalDigest env.setting ≠ expectedApprovalDigest then
      fail .conflict "Preview acceptance approval is stale"
    else
      let approvedAt ← now env
      let approved ← Procedure.ofExcept (constructed (CustomerAcceptanceRecord.postInit env.setting)
        { record with
          status := .approved
          approvedAt := some approvedAt
          approvedBy := some key.customerId
          updatedAt := approvedAt })
      replace env approved (record.digest env.setting)

/-! ## Executing -/

/-- The record of an execution that has succeeded. -/
def readyRecord (inProgress : CustomerAcceptanceRecord) (outcome : Outcome) (package : Package)
    (updatedAt : Timestamp) : CustomerAcceptanceRecord :=
  { inProgress with
    status := .evidenceReady
    workflowRunId := some outcome.workflowRunId
    workflowRunUrl := some outcome.workflowRunUrl
    deploymentRevision := some outcome.deploymentRevision
    deploymentReceiptDigest := some outcome.deploymentDigest
    browserExecutionDigest := some outcome.browserDigest
    evidencePackageId := some package.packageId
    evidencePackageDigest := some package.digest
    updatedAt := updatedAt }

/-- The effects of an execution and the record that they leave. -/
def effects (confirmed : String) (inProgress : CustomerAcceptanceRecord)
    (plan : BrowserJourneyPlan) (answers : Answers) : Acceptance CustomerAcceptanceRecord := do
  Procedure.modify (·.execute confirmed inProgress plan)
  let outcome ← Procedure.ofExcept answers.executed
  let package ← Procedure.ofExcept answers.published
  let updatedAt ← now env
  let ready ← Procedure.ofExcept (constructed (CustomerAcceptanceRecord.postInit env.setting)
    (readyRecord inProgress outcome package updatedAt))
  replace env ready (inProgress.digest env.setting)

/-- What becomes of an execution in which something was raised. -/
def giveUp (key : Key) (error : Error) : Acceptance CustomerAcceptanceRecord := do
  let current ← load env key
  let updatedAt ← now env
  let failed ← Procedure.ofExcept (constructed (CustomerAcceptanceRecord.postInit env.setting)
    { current with
      status := .reconciliationRequired
      failureClassification := some error.errorClass.name
      updatedAt := updatedAt })
  let _ ← replace env failed (current.digest env.setting)
  fail .reconciliationRequired "A preview or browser effect requires manual reconciliation"

def execute (key : Key) (expectedApprovalDigest : String)
    (confirmPreviewDeployment confirmBrowserExecution : Bool) (answers : Answers) :
    Acceptance CustomerAcceptanceRecord := do
  let _ ← Procedure.ofExcept (requireConfiguration env)
  if liveEnabled env = false then
    fail .notConfigured
      "Preview acceptance requires operator enablement and both effect confirmations"
  else if confirmPreviewDeployment = false ∨ confirmBrowserExecution = false then
    fail .policyError
      "Separate preview-deployment and browser-execution confirmations are required"
  else
    let delivery ← Procedure.ofExcept (requireDelivery env key)
    let record ← load env key
    Procedure.ofExcept (requireBinding record delivery)
    if record.status = .evidenceReady then
      if record.approvalDigest env.setting = expectedApprovalDigest then pure record
      else fail .conflict "Preview acceptance request is stale"
    else if record.status ≠ .approved then
      fail .conflict "Exact preview acceptance is not approved"
    else if record.approvalDigest env.setting ≠ expectedApprovalDigest then
      fail .conflict "Preview acceptance request is stale"
    else
      let plan ← loadBoundPlan env record
      Procedure.ofExcept answers.preflight
      let updatedAt ← now env
      let started ← Procedure.ofExcept (constructed (CustomerAcceptanceRecord.postInit env.setting)
        { record with status := .executionInProgress, updatedAt := updatedAt })
      let inProgress ← replace env started (record.digest env.setting)
      (effects env expectedApprovalDigest inProgress plan answers).handle (giveUp env key)

/-! ## Calls -/

/-- The calls of the service, with what the others answer. -/
inductive Call where
  | prepare (key : Key)
  | approve (key : Key) (expectedApprovalDigest : String) (confirmPreviewScope : Bool)
  | execute (key : Key) (expectedApprovalDigest : String)
      (confirmPreviewDeployment confirmBrowserExecution : Bool) (answers : Answers)

def Call.perform : Call → Acceptance CustomerAcceptanceRecord
  | .prepare key => CustomerAcceptance.prepare env key
  | .approve key expected confirm => CustomerAcceptance.approve env key expected confirm
  | .execute key expected deploy browse answers =>
      CustomerAcceptance.execute env key expected deploy browse answers

/-- The world after a call that ends, or that dies after some of its steps. -/
def step (world : World) (call : Call × Option Nat) : World :=
  match call.2 with
  | none => ((call.1.perform env).run world).2
  | some stop => (call.1.perform env).left stop world

end CustomerAcceptance
end Ascos
