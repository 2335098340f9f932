import Ascos.Library.Checks
import Ascos.Library.Lineage
import Ascos.ProductDelivery.Model
import Mathlib.Data.List.Perm.Basic

/-!
# Existing product intake

The service of `runtime/product_delivery/intake.py`, with its records and its stores.  The
two stores differ in the identifiers that they accept.

Main results:

- Theorem `intake_reviewable_iff`: every state of a run is reviewable exactly when pull
  requests are attached only to deliveries with the six gates of the dashboard among their
  requirements; attached evidence is never replaced.
-/

namespace Ascos
namespace ProductDelivery
namespace Intake

open Ascos.Library
open Ascos.Runtime (isBlank isSpace)

/-! ## Records -/

inductive ImplementationSource where
  | existingProductBranch
deriving DecidableEq

inductive ExistingProductIntakeStage where
  | reconciliationRequired
  | verifying
  | waitingForHumanReview
deriving DecidableEq

inductive VerificationOutcome where
  | passed
  | failed
deriving DecidableEq

structure BranchReconciliation where
  baseSha : String
  headSha : String
  mergeBaseSha : String
  baseIsAncestor : Bool
  commitCount : Int
  changedPaths : List String
  changedPathDigest : String
  diffDigest : String
  additions : Int
  deletions : Int
  workingTreeClean : Bool
  remoteBaseExists : Bool
  remoteHeadExists : Bool
  existingPrNumber : Option Int := none
  existingPrUrl : Option String := none
deriving DecidableEq

structure VerificationResult where
  gate : String
  outcome : VerificationOutcome
  details : String
  recordedAt : Moment
deriving DecidableEq

structure HumanReviewedProductDelivery where
  projectId : String
  milestoneId : String
  milestoneTitle : String
  repository : String
  baseBranch : String
  currentBranch : String
  expectedBaseSha : String
  expectedHeadSha : String
  executionMode : ProviderExecutionMode := .humanReviewedImplementation
  implementationSource : ImplementationSource := .existingProductBranch
  implementationProvider : String
  implementationEvidence : String
  knowledgeSnapshot : String
  reviewerIdentityRequired : Bool := true
  verificationRequirements : List String
  reconciliation : BranchReconciliation
  stage : ExistingProductIntakeStage
  verificationResults : List VerificationResult := []
  reviewer : Option String := none
  pullRequestNumber : Option Int := none
  pullRequestUrl : Option String := none
  pullRequestBase : Option String := none
  pullRequestHead : Option String := none
  pullRequestHeadSha : Option String := none
  pullRequestDraft : Option Bool := none
  pullRequestMergeable : Option Bool := none
  knownLimitations : List String := []
  createdAt : Moment
deriving DecidableEq

structure ProductReviewerDashboard where
  productRepository : String
  branch : String
  commit : String
  mergeBase : String
  tests : String
  migrationValidation : String
  examples : String
  securityReview : String
  pullRequestNumber : Int
  draft : Bool
  mergeable : Bool
  reviewer : String
  approvalStatus : String
deriving DecidableEq

/-- The exceptions of the service. -/
inductive IntakeError where
  | existingProductIntakeError (message : String)
  | store (error : Error)
  | keyError (key : String)
deriving DecidableEq

/-- `raise` unless the condition holds. -/
def require (condition : Prop) [Decidable condition] (message : String) :
    Except IntakeError Unit :=
  if condition then pure () else throw (.existingProductIntakeError message)

theorem require_ok_iff {condition : Prop} [Decidable condition] {message : String} :
    require condition message = .ok () ↔ condition := by
  unfold require
  split
  · rename_i h
    exact iff_of_true rfl h
  · rename_i h
    exact iff_of_false (fun hok => nomatch hok) h

/-! ## The service -/

/-- The records of a store by their projects. -/
abbrev Store := Table String HumanReviewedProductDelivery

/-- The arguments of `register`. -/
structure Registration where
  projectId : String
  milestoneId : String
  milestoneTitle : String
  repository : String
  baseBranch : String
  currentBranch : String
  expectedBaseSha : String
  expectedHeadSha : String
  implementationProvider : String
  implementationEvidence : String
  knowledgeSnapshot : String
  verificationRequirements : List String
  reconciliation : BranchReconciliation
  knownLimitations : List String := []
deriving DecidableEq

/-- The evidence of a pull request as `attach_pull_request` takes it. -/
structure PullRequestEvidence where
  number : Int
  url : String
  base : String
  head : String
  headSha : String
  draft : Bool
  mergeable : Bool
deriving DecidableEq

/-- `required_text` of `register`. -/
def Registration.requiredText (request : Registration) : List (String × String) :=
  [("project", request.projectId), ("milestone", request.milestoneId),
    ("milestone title", request.milestoneTitle), ("repository", request.repository),
    ("base branch", request.baseBranch), ("current branch", request.currentBranch),
    ("implementation provider", request.implementationProvider),
    ("implementation evidence", request.implementationEvidence),
    ("knowledge snapshot", request.knowledgeSnapshot)]

/-- `identities_match`: the reconciliation is the expected one. -/
def Matches (reconciliation : BranchReconciliation) (expectedBaseSha expectedHeadSha : String) :
    Prop :=
  reconciliation.baseSha = expectedBaseSha ∧ reconciliation.headSha = expectedHeadSha ∧
    reconciliation.mergeBaseSha = expectedBaseSha ∧ reconciliation.baseIsAncestor = true ∧
      reconciliation.workingTreeClean = true ∧ reconciliation.remoteBaseExists = true ∧
        reconciliation.remoteHeadExists = true

instance (reconciliation : BranchReconciliation) (expectedBaseSha expectedHeadSha : String) :
    Decidable (Matches reconciliation expectedBaseSha expectedHeadSha) := by
  unfold Matches
  infer_instance

/-- The delivery that `register` builds. -/
def Registration.delivery (request : Registration) (createdAt : Moment) :
    HumanReviewedProductDelivery where
  projectId := request.projectId
  milestoneId := request.milestoneId
  milestoneTitle := request.milestoneTitle
  repository := request.repository
  baseBranch := request.baseBranch
  currentBranch := request.currentBranch
  expectedBaseSha := request.expectedBaseSha
  expectedHeadSha := request.expectedHeadSha
  implementationProvider := request.implementationProvider
  implementationEvidence := request.implementationEvidence
  knowledgeSnapshot := request.knowledgeSnapshot
  verificationRequirements := request.verificationRequirements
  reconciliation := request.reconciliation
  stage :=
    if Matches request.reconciliation request.expectedBaseSha request.expectedHeadSha then
      .verifying
    else .reconciliationRequired
  pullRequestNumber := request.reconciliation.existingPrNumber
  pullRequestUrl := request.reconciliation.existingPrUrl
  knownLimitations := request.knownLimitations
  createdAt := createdAt

/-- `_utc_now`; a clock without a timezone gives nothing. -/
def utcNow (clock : Option Moment) : Except IntakeError Moment :=
  match clock with
  | some now => pure now
  | none => throw (.existingProductIntakeError "Timestamps must be timezone-aware")

/-- The texts of a list, as a message has them. -/
def listText (values : List String) : String :=
  "[" ++ ", ".intercalate (values.map fun value => "'" ++ value ++ "'") ++ "]"

/-- `sorted` on texts. -/
def sorted (values : List String) : List String :=
  values.mergeSort fun a b => decide (a ≤ b)

section Service

variable (kind : StoreKind)

def load (store : Store) (projectId : String) :
    Except IntakeError (Option HumanReviewedProductDelivery) := do
  (target kind projectId).mapError .store
  pure (Table.load store projectId)

def get (store : Store) (projectId : String) : Except IntakeError HumanReviewedProductDelivery := do
  match ← load kind store projectId with
  | some delivery => pure delivery
  | none => throw (.existingProductIntakeError ("Unknown product intake: " ++ projectId))

def register (store : Store) (request : Registration) (clock : Option Moment) :
    Except IntakeError HumanReviewedProductDelivery := do
  let existing ← load kind store request.projectId
  require (existing = none) "Project intake already exists"
  request.requiredText.forM fun item => require (isBlank item.2 = false) (item.1 ++ " is required")
  require (request.verificationRequirements ≠ [] ∧ request.verificationRequirements.Nodup)
    "Verification requirements must be non-empty and unique"
  let createdAt ← utcNow clock
  pure (request.delivery createdAt)

/-- `record_verification`; the delivery that is saved. -/
def recordVerification (store : Store) (projectId gate : String) (passed : Bool)
    (details : String) (clock : Option Moment) :
    Except IntakeError HumanReviewedProductDelivery := do
  let delivery ← get kind store projectId
  require (delivery.stage = .verifying) "Delivery is not accepting verification"
  require (gate ∈ delivery.verificationRequirements) ("Unknown verification gate: " ++ gate)
  require (gate ∉ delivery.verificationResults.map (·.gate))
    ("Verification gate already recorded: " ++ gate)
  require (isBlank details = false) "Verification details are required"
  let recordedAt ← utcNow clock
  let result : VerificationResult :=
    { gate := gate, outcome := if passed then .passed else .failed
      details := strip isSpace details, recordedAt := recordedAt }
  pure { delivery with verificationResults := delivery.verificationResults ++ [result] }

/-- `set(delivery.verification_requirements) - results.keys()`. -/
def HumanReviewedProductDelivery.missing (delivery : HumanReviewedProductDelivery) : List String :=
  delivery.verificationRequirements.filter fun gate =>
    gate ∉ delivery.verificationResults.map (·.gate)

/-- The gates with a failed result. -/
def HumanReviewedProductDelivery.failed (delivery : HumanReviewedProductDelivery) : List String :=
  (delivery.verificationResults.filter (·.outcome = .failed)).map (·.gate)

def requestHumanReview (store : Store) (projectId reviewer : String) :
    Except IntakeError HumanReviewedProductDelivery := do
  let delivery ← get kind store projectId
  require (delivery.stage = .verifying) "Delivery is not ready for review"
  require (isBlank reviewer = false) "Human reviewer identity is required"
  require (delivery.missing = [])
    ("Required verification gates are missing: " ++ listText (sorted delivery.missing))
  require (delivery.failed = [])
    ("Failed verification blocks human review: " ++ listText (sorted delivery.failed))
  pure { delivery with
    reviewer := some (strip isSpace reviewer)
    stage := .waitingForHumanReview }

def attachPullRequest (store : Store) (projectId : String) (evidence : PullRequestEvidence) :
    Except IntakeError HumanReviewedProductDelivery := do
  let delivery ← get kind store projectId
  require (delivery.stage = .waitingForHumanReview) "Verification must pass before PR attachment"
  require (1 ≤ evidence.number ∧ isBlank evidence.url = false)
    "Valid pull request evidence is required"
  require (evidence.base = delivery.baseBranch ∧ evidence.head = delivery.currentBranch)
    "Pull request refs do not match delivery"
  require (evidence.headSha = delivery.expectedHeadSha)
    "Pull request head commit does not match delivery"
  require (evidence.draft = true ∧ evidence.mergeable = true)
    "Pull request must be draft and mergeable for human review"
  require (delivery.pullRequestNumber = none ∨
      delivery.pullRequestNumber = some evidence.number ∧
        delivery.pullRequestUrl = some evidence.url)
    "Different pull request evidence already exists"
  pure { delivery with
    pullRequestNumber := some evidence.number
    pullRequestUrl := some (strip isSpace evidence.url)
    pullRequestBase := some evidence.base
    pullRequestHead := some evidence.head
    pullRequestHeadSha := some evidence.headSha
    pullRequestDraft := some evidence.draft
    pullRequestMergeable := some evidence.mergeable }

/-- The details of the last result of a gate, as `results` of the dashboard has them. -/
def HumanReviewedProductDelivery.details? (delivery : HumanReviewedProductDelivery)
    (gate : String) : Option String :=
  (delivery.verificationResults.reverse.find? (·.gate = gate)).map (·.details)

/-- `results[gate]`. -/
def HumanReviewedProductDelivery.details (delivery : HumanReviewedProductDelivery)
    (gate : String) : Except IntakeError String :=
  match delivery.details? gate with
  | some details => pure details
  | none => throw (.keyError gate)

def reviewerDashboard (store : Store) (projectId : String) :
    Except IntakeError ProductReviewerDashboard := do
  let delivery ← get kind store projectId
  match delivery.stage, delivery.reviewer, delivery.pullRequestNumber, delivery.pullRequestDraft,
      delivery.pullRequestMergeable with
  | .waitingForHumanReview, some reviewer, some number, some draft, some mergeable =>
    let tests ← delivery.details "tests"
    let migrationSql ← delivery.details "migration_sql"
    let migrationCycle ← delivery.details "migration_cycle"
    let aiExample ← delivery.details "ai_example"
    let voiceExample ← delivery.details "voice_example"
    let secretScan ← delivery.details "secret_scan"
    -- `filter(None, …)` leaves out what is missing or empty.
    let security := (some secretScan :: [delivery.details? "changed_path_scope"]).filterMap
      fun details => details.filter (· ≠ "")
    pure
      { productRepository := delivery.repository
        branch := delivery.currentBranch
        commit := delivery.expectedHeadSha
        mergeBase := delivery.reconciliation.mergeBaseSha
        tests := tests
        migrationValidation := " ".intercalate [migrationSql, migrationCycle]
        examples := " ".intercalate [aiExample, voiceExample]
        securityReview := " ".intercalate security
        pullRequestNumber := number
        draft := draft
        mergeable := mergeable
        reviewer := reviewer
        approvalStatus := "NOT_APPROVED" }
  | _, _, _, _, _ =>
    throw (.existingProductIntakeError "Complete review and pull request evidence is required")

/-! ## Runs -/

inductive Call where
  | register (request : Registration) (clock : Option Moment)
  | recordVerification (projectId gate : String) (passed : Bool) (details : String)
      (clock : Option Moment)
  | requestHumanReview (projectId reviewer : String)
  | attachPullRequest (projectId : String) (evidence : PullRequestEvidence)
deriving DecidableEq

def Call.projectId : Call → String
  | .register request _ => request.projectId
  | .recordVerification projectId .. => projectId
  | .requestHumanReview projectId _ => projectId
  | .attachPullRequest projectId _ => projectId

/-- The delivery that a call saves, when it returns. -/
def Call.saved (store : Store) : Call → Except IntakeError HumanReviewedProductDelivery
  | .register request clock => Intake.register kind store request clock
  | .recordVerification projectId gate passed details clock =>
      Intake.recordVerification kind store projectId gate passed details clock
  | .requestHumanReview projectId reviewer =>
      Intake.requestHumanReview kind store projectId reviewer
  | .attachPullRequest projectId evidence => Intake.attachPullRequest kind store projectId evidence

def perform (store : Store) (call : Call) : Store :=
  match call.saved kind store with
  | .ok delivery => store.save call.projectId delivery
  | .error _ => store

end Service

/-! ## What a call does -/

variable {kind : StoreKind} {store : Store} {delivery after : HumanReviewedProductDelivery}

/-- How a call changes the delivery of its project. -/
inductive Moves :
    Call → Option HumanReviewedProductDelivery → HumanReviewedProductDelivery → Prop
  | registered (request : Registration) (clock : Option Moment) (createdAt : Moment)
      (hne : request.verificationRequirements ≠ [])
      (hnodup : request.verificationRequirements.Nodup) :
      Moves (.register request clock) none (request.delivery createdAt)
  | recorded (projectId gate : String) (passed : Bool) (details : String)
      (clock : Option Moment) (delivery : HumanReviewedProductDelivery)
      (result : VerificationResult) (hstage : delivery.stage = .verifying)
      (hknown : result.gate ∈ delivery.verificationRequirements)
      (hnew : result.gate ∉ delivery.verificationResults.map (·.gate)) :
      Moves (.recordVerification projectId gate passed details clock) (some delivery)
        { delivery with verificationResults := delivery.verificationResults ++ [result] }
  | requested (projectId reviewer stripped : String) (delivery : HumanReviewedProductDelivery)
      (hstage : delivery.stage = .verifying) (hmissing : delivery.missing = [])
      (hfailed : delivery.failed = []) :
      Moves (.requestHumanReview projectId reviewer) (some delivery)
        { delivery with reviewer := some stripped, stage := .waitingForHumanReview }
  | attached (projectId : String) (evidence : PullRequestEvidence)
      (delivery : HumanReviewedProductDelivery)
      (hstage : delivery.stage = .waitingForHumanReview)
      (hbase : evidence.base = delivery.baseBranch)
      (hhead : evidence.head = delivery.currentBranch)
      (hsha : evidence.headSha = delivery.expectedHeadSha)
      (hdraft : evidence.draft = true) (hmergeable : evidence.mergeable = true)
      (hsame : delivery.pullRequestNumber = none ∨
        delivery.pullRequestNumber = some evidence.number ∧
          delivery.pullRequestUrl = some evidence.url) :
      Moves (.attachPullRequest projectId evidence) (some delivery)
        { delivery with
          pullRequestNumber := some evidence.number
          pullRequestUrl := some (strip isSpace evidence.url)
          pullRequestBase := some evidence.base
          pullRequestHead := some evidence.head
          pullRequestHeadSha := some evidence.headSha
          pullRequestDraft := some evidence.draft
          pullRequestMergeable := some evidence.mergeable }

theorem load_ok {projectId : String} {found : Option HumanReviewedProductDelivery}
    (h : load kind store projectId = .ok found) :
    target kind projectId = .ok () ∧ Table.load store projectId = found := by
  unfold load at h
  obtain ⟨htarget, h⟩ := Checks.check_ok_iff.mp h
  refine ⟨?_, Checks.pure_ok_iff.mp h⟩
  cases hresult : target kind projectId with
  | ok u => rfl
  | error error =>
    rw [hresult] at htarget
    cases htarget

theorem get_ok {projectId : String} (h : get kind store projectId = .ok delivery) :
    target kind projectId = .ok () ∧ Table.load store projectId = some delivery := by
  unfold get at h
  obtain ⟨found, hload, h⟩ := Checks.bind_ok_iff.mp h
  obtain ⟨htarget, hfound⟩ := load_ok hload
  cases found with
  | none => cases h
  | some value =>
    cases h
    exact ⟨htarget, hfound⟩

theorem register_ok {request : Registration} {clock : Option Moment}
    (h : register kind store request clock = .ok after) :
    target kind request.projectId = .ok () ∧
      Moves (.register request clock) (Table.load store request.projectId) after := by
  unfold register at h
  obtain ⟨existing, hload, h⟩ := Checks.bind_ok_iff.mp h
  obtain ⟨hnone, h⟩ := Checks.check_ok_iff.mp h
  obtain ⟨-, h⟩ := Checks.check_ok_iff.mp h
  obtain ⟨hrequirements, h⟩ := Checks.check_ok_iff.mp h
  obtain ⟨createdAt, -, h⟩ := Checks.bind_ok_iff.mp h
  obtain ⟨htarget, hfound⟩ := load_ok hload
  rw [require_ok_iff] at hnone hrequirements
  rw [Checks.pure_ok_iff] at h
  rw [hfound, hnone, ← h]
  exact ⟨htarget, .registered request clock createdAt hrequirements.1 hrequirements.2⟩

theorem recordVerification_ok {projectId gate details : String} {passed : Bool}
    {clock : Option Moment}
    (h : recordVerification kind store projectId gate passed details clock = .ok after) :
    target kind projectId = .ok () ∧
      Moves (.recordVerification projectId gate passed details clock)
        (Table.load store projectId) after := by
  unfold recordVerification at h
  obtain ⟨delivery, hget, h⟩ := Checks.bind_ok_iff.mp h
  obtain ⟨hstage, h⟩ := Checks.check_ok_iff.mp h
  obtain ⟨hknown, h⟩ := Checks.check_ok_iff.mp h
  obtain ⟨hnew, h⟩ := Checks.check_ok_iff.mp h
  obtain ⟨-, h⟩ := Checks.check_ok_iff.mp h
  obtain ⟨recordedAt, -, h⟩ := Checks.bind_ok_iff.mp h
  obtain ⟨htarget, hfound⟩ := get_ok hget
  rw [require_ok_iff] at hstage hknown hnew
  rw [hfound, ← Checks.pure_ok_iff.mp h]
  exact ⟨htarget, .recorded _ _ _ _ _ delivery _ hstage hknown hnew⟩

theorem requestHumanReview_ok {projectId reviewer : String}
    (h : requestHumanReview kind store projectId reviewer = .ok after) :
    target kind projectId = .ok () ∧
      Moves (.requestHumanReview projectId reviewer) (Table.load store projectId) after := by
  unfold requestHumanReview at h
  obtain ⟨delivery, hget, h⟩ := Checks.bind_ok_iff.mp h
  obtain ⟨hstage, h⟩ := Checks.check_ok_iff.mp h
  obtain ⟨-, h⟩ := Checks.check_ok_iff.mp h
  obtain ⟨hmissing, h⟩ := Checks.check_ok_iff.mp h
  obtain ⟨hfailed, h⟩ := Checks.check_ok_iff.mp h
  obtain ⟨htarget, hfound⟩ := get_ok hget
  rw [require_ok_iff] at hstage hmissing hfailed
  rw [hfound, ← Checks.pure_ok_iff.mp h]
  exact ⟨htarget, .requested _ _ _ delivery hstage hmissing hfailed⟩

theorem attachPullRequest_ok {projectId : String} {evidence : PullRequestEvidence}
    (h : attachPullRequest kind store projectId evidence = .ok after) :
    target kind projectId = .ok () ∧
      Moves (.attachPullRequest projectId evidence) (Table.load store projectId) after := by
  unfold attachPullRequest at h
  obtain ⟨delivery, hget, h⟩ := Checks.bind_ok_iff.mp h
  obtain ⟨hstage, h⟩ := Checks.check_ok_iff.mp h
  obtain ⟨-, h⟩ := Checks.check_ok_iff.mp h
  obtain ⟨hrefs, h⟩ := Checks.check_ok_iff.mp h
  obtain ⟨hsha, h⟩ := Checks.check_ok_iff.mp h
  obtain ⟨hopen, h⟩ := Checks.check_ok_iff.mp h
  obtain ⟨hsame, h⟩ := Checks.check_ok_iff.mp h
  obtain ⟨htarget, hfound⟩ := get_ok hget
  rw [require_ok_iff] at hstage hrefs hsha hopen hsame
  rw [hfound, ← Checks.pure_ok_iff.mp h]
  exact ⟨htarget,
    .attached _ evidence delivery hstage hrefs.1 hrefs.2 hsha hopen.1 hopen.2 hsame⟩

theorem Call.saved_ok {call : Call} (h : call.saved kind store = .ok after) :
    target kind call.projectId = .ok () ∧
      Moves call (Table.load store call.projectId) after := by
  cases call with
  | register request clock => exact register_ok h
  | recordVerification projectId gate passed details clock => exact recordVerification_ok h
  | requestHumanReview projectId reviewer => exact requestHumanReview_ok h
  | attachPullRequest projectId evidence => exact attachPullRequest_ok h

/-! ## The invariant of a delivery -/

def HumanReviewedProductDelivery.evidence (delivery : HumanReviewedProductDelivery) :
    Option PullRequestEvidence := do
  let number ← delivery.pullRequestNumber
  let url ← delivery.pullRequestUrl
  let base ← delivery.pullRequestBase
  let head ← delivery.pullRequestHead
  let headSha ← delivery.pullRequestHeadSha
  let draft ← delivery.pullRequestDraft
  let mergeable ← delivery.pullRequestMergeable
  pure ⟨number, url, base, head, headSha, draft, mergeable⟩

/-- What holds of every stored delivery. -/
structure Inv (delivery : HumanReviewedProductDelivery) : Prop where
  nodup : delivery.verificationRequirements.Nodup
  gates_nodup : (delivery.verificationResults.map (·.gate)).Nodup
  known : delivery.verificationResults.map (·.gate) ⊆ delivery.verificationRequirements
  matched : delivery.stage ≠ .reconciliationRequired →
    Matches delivery.reconciliation delivery.expectedBaseSha delivery.expectedHeadSha
  reviewed : delivery.stage = .waitingForHumanReview →
    delivery.reviewer ≠ none ∧ delivery.missing = [] ∧ delivery.failed = []
  evidence : ∀ evidence, delivery.evidence = some evidence →
    delivery.stage = .waitingForHumanReview ∧ evidence.base = delivery.baseBranch ∧
      evidence.head = delivery.currentBranch ∧ evidence.headSha = delivery.expectedHeadSha ∧
        evidence.draft = true ∧ evidence.mergeable = true ∧
          strip isSpace evidence.url = evidence.url

theorem evidence_eq_some {evidence : PullRequestEvidence}
    (h : delivery.evidence = some evidence) :
    delivery.pullRequestNumber = some evidence.number ∧
      delivery.pullRequestUrl = some evidence.url ∧
        delivery.pullRequestDraft = some evidence.draft ∧
          delivery.pullRequestMergeable = some evidence.mergeable := by
  unfold HumanReviewedProductDelivery.evidence at h
  simp only [Option.bind_eq_bind, Option.bind_eq_some_iff, Option.pure_def,
    Option.some.injEq] at h
  obtain ⟨number, hnumber, url, hurl, base, -, head, -, sha, -, draft, hdraft, mergeable,
    hmergeable, rfl⟩ := h
  exact ⟨hnumber, hurl, hdraft, hmergeable⟩

theorem evidence_delivery (request : Registration) (createdAt : Moment) :
    (request.delivery createdAt).evidence = none := by
  unfold HumanReviewedProductDelivery.evidence
  cases h : (request.delivery createdAt).pullRequestNumber with
  | none => rfl
  | some number =>
      cases h' : (request.delivery createdAt).pullRequestUrl <;> rfl

/-- Every way in which a delivery changes keeps the invariant. -/
theorem Moves.inv {call : Call} {before : Option HumanReviewedProductDelivery}
    (h : Moves call before after)
    (hbefore : ∀ delivery, before = some delivery → Inv delivery) : Inv after := by
  cases h with
  | registered request clock createdAt hne hnodup =>
    refine ⟨hnodup, .nil, by simp [Registration.delivery], ?_, ?_, ?_⟩
    · intro hstage
      by_contra hmatches
      exact hstage (if_neg hmatches)
    · intro hstage
      have hother : (request.delivery createdAt).stage ≠ .waitingForHumanReview := by
        unfold Registration.delivery
        dsimp only
        split <;> decide
      exact absurd hstage hother
    · intro evidence hevidence
      rw [evidence_delivery] at hevidence
      cases hevidence
  | recorded projectId gate passed details clock delivery result hstage hknown hnew =>
    have hinv := hbefore delivery rfl
    refine { hinv with gates_nodup := ?_, known := ?_, reviewed := ?_ }
    · rw [List.map_append]
      exact List.nodup_append_comm.mp
        (List.nodup_cons.mpr ⟨hnew, hinv.gates_nodup⟩)
    · rw [List.map_append]
      exact List.append_subset.mpr ⟨hinv.known, by simpa using hknown⟩
    · intro hwaiting
      rw [hstage] at hwaiting
      cases hwaiting
  | requested projectId reviewer stripped delivery hstage hmissing hfailed =>
    have hinv := hbefore delivery rfl
    have hverifying : delivery.stage ≠ .reconciliationRequired := by
      rw [hstage]
      decide
    refine ⟨hinv.nodup, hinv.gates_nodup, hinv.known, fun _ => hinv.matched hverifying,
      fun _ => ⟨Option.some_ne_none _, hmissing, hfailed⟩, ?_⟩
    intro evidence hevidence
    obtain ⟨hwaiting, hrest⟩ := hinv.evidence evidence hevidence
    exact ⟨rfl, hrest⟩
  | attached projectId evidence delivery hstage hbase hhead hsha hdraft hmergeable hsame =>
    have hinv := hbefore delivery rfl
    refine { hinv with evidence := ?_ }
    intro other hother
    cases hother
    exact ⟨hstage, hbase, hhead, hsha, hdraft, hmergeable, strip_strip isSpace evidence.url⟩

theorem Moves.evidence {call : Call} {before : Option HumanReviewedProductDelivery}
    (h : Moves call before after)
    (hbefore : ∀ delivery, before = some delivery → Inv delivery) {evidence : PullRequestEvidence}
    (hevidence : ∀ delivery, before = some delivery → delivery.evidence = some evidence)
    (hsome : before ≠ none) : after.evidence = some evidence := by
  cases h with
  | registered request clock createdAt hne hnodup => exact absurd rfl hsome
  | recorded projectId gate passed details clock delivery result =>
    exact hevidence delivery rfl
  | requested projectId reviewer stripped delivery => exact hevidence delivery rfl
  | attached projectId new delivery hstage hbase hhead hsha hdraft hmergeable hsame =>
    have hold := hevidence delivery rfl
    obtain ⟨hnumber, hurl, -⟩ := evidence_eq_some hold
    obtain ⟨-, hbase', hhead', hsha', hdraft', hmergeable', hstrip⟩ :=
      (hbefore delivery rfl).evidence evidence hold
    rw [hnumber, hurl] at hsame
    obtain hnone | ⟨hsameNumber, hsameUrl⟩ := hsame
    · cases hnone
    · obtain ⟨number, url, base, head, sha, draft, mergeable⟩ := evidence
      cases Option.some.inj hsameNumber
      cases Option.some.inj hsameUrl
      dsimp only at hbase' hhead' hsha' hdraft' hmergeable' hstrip
      subst hbase' hhead' hsha' hdraft' hmergeable'
      simp only [HumanReviewedProductDelivery.evidence, Option.bind_eq_bind, Option.bind_some,
        Option.pure_def, hstrip, hbase, hhead, hsha, hdraft, hmergeable]

/-! ## The invariant of a store -/

/-- Every stored delivery keeps its invariant under an identifier that the store accepts. -/
def StoreInv (kind : StoreKind) (store : Store) : Prop :=
  ∀ projectId delivery, Table.load store projectId = some delivery →
    target kind projectId = .ok () ∧ Inv delivery

theorem storeInv_nil : StoreInv kind [] := by
  intro projectId delivery hload
  cases hload

theorem StoreInv.perform (h : StoreInv kind store) (call : Call) :
    StoreInv kind (perform kind store call) := by
  unfold Intake.perform
  cases hsaved : call.saved kind store with
  | error error => exact h
  | ok after =>
    obtain ⟨htarget, hmoves⟩ := Call.saved_ok hsaved
    intro projectId delivery hload
    by_cases hsame : projectId = call.projectId
    · subst hsame
      cases (Table.load_save_self).symm.trans hload
      exact ⟨htarget, hmoves.inv fun other hother => (h _ other hother).2⟩
    · exact h projectId delivery ((Table.load_save_of_ne hsame).symm.trans hload)

/-- Evidence that is attached in one state is attached in every later one. -/
def Keeps (before later : Store) : Prop :=
  ∀ projectId delivery evidence, Table.load before projectId = some delivery →
    delivery.evidence = some evidence →
      ∃ other, Table.load later projectId = some other ∧ other.evidence = some evidence

instance : IsTrans Store Keeps where
  trans _ _ _ hfirst hsecond := by
    intro projectId delivery evidence hload hevidence
    obtain ⟨middle, hmiddle, hkept⟩ := hfirst projectId delivery evidence hload hevidence
    exact hsecond projectId middle evidence hmiddle hkept

theorem keeps_perform (h : StoreInv kind store) (call : Call) :
    Keeps store (perform kind store call) := by
  intro projectId delivery evidence hload hevidence
  unfold perform
  cases hsaved : call.saved kind store with
  | error error => exact ⟨delivery, hload, hevidence⟩
  | ok after =>
    by_cases hsame : projectId = call.projectId
    · subst hsame
      refine ⟨after, Table.load_save_self, ?_⟩
      refine (Call.saved_ok hsaved).2.evidence (fun other hother => (h _ other hother).2) ?_ ?_
      · intro other hother
        cases hload.symm.trans hother
        exact hevidence
      · rw [hload]
        exact Option.some_ne_none _
    · exact ⟨delivery, (Table.load_save_of_ne hsame).trans hload, hevidence⟩

/-! ## The dashboard of the reviewer -/

/-- The gates that the dashboard of the reviewer reads by their names. -/
def dashboardGates : List String :=
  ["tests", "migration_sql", "migration_cycle", "ai_example", "voice_example", "secret_scan"]

theorem details_ok_iff {gate : String} :
    (∃ details, delivery.details gate = .ok details) ↔
      gate ∈ delivery.verificationResults.map (·.gate) := by
  have hfind : (delivery.details? gate).isSome ↔
      gate ∈ delivery.verificationResults.map (·.gate) := by
    unfold HumanReviewedProductDelivery.details?
    simp
  unfold HumanReviewedProductDelivery.details
  rw [← hfind]
  cases delivery.details? gate with
  | none => simp [throw, throwThe, MonadExceptOf.throw]
  | some details => simp [pure, Except.pure]

theorem reviewerDashboard_ok_iff {projectId : String} {evidence : PullRequestEvidence}
    (htarget : target kind projectId = .ok ())
    (hload : Table.load store projectId = some delivery) (hinv : Inv delivery)
    (hevidence : delivery.evidence = some evidence) :
    (∃ dashboard, reviewerDashboard kind store projectId = .ok dashboard) ↔
      dashboardGates ⊆ delivery.verificationResults.map (·.gate) := by
  obtain ⟨hnumber, -, hdraft, hmergeable⟩ := evidence_eq_some hevidence
  have hstage := (hinv.evidence evidence hevidence).1
  obtain ⟨reviewer, hreviewer⟩ := Option.ne_none_iff_exists'.mp (hinv.reviewed hstage).1
  have hget : get kind store projectId = .ok delivery := by
    unfold get load
    rw [htarget, hload]
    rfl
  unfold reviewerDashboard
  rw [hget, ok_bind]
  simp only [hstage, hreviewer, hnumber, hdraft, hmergeable]
  simp only [dashboardGates, List.cons_subset, List.nil_subset, and_true, ← details_ok_iff]
  constructor
  · rintro ⟨dashboard, h⟩
    obtain ⟨tests, htests, h⟩ := Checks.bind_ok_iff.mp h
    obtain ⟨sql, hsql, h⟩ := Checks.bind_ok_iff.mp h
    obtain ⟨cycle, hcycle, h⟩ := Checks.bind_ok_iff.mp h
    obtain ⟨ai, hai, h⟩ := Checks.bind_ok_iff.mp h
    obtain ⟨voice, hvoice, h⟩ := Checks.bind_ok_iff.mp h
    obtain ⟨scan, hscan, -⟩ := Checks.bind_ok_iff.mp h
    exact ⟨⟨_, htests⟩, ⟨_, hsql⟩, ⟨_, hcycle⟩, ⟨_, hai⟩, ⟨_, hvoice⟩, ⟨_, hscan⟩⟩
  · rintro ⟨⟨tests, htests⟩, ⟨sql, hsql⟩, ⟨cycle, hcycle⟩, ⟨ai, hai⟩, ⟨voice, hvoice⟩,
      ⟨scan, hscan⟩⟩
    rw [htests, hsql, hcycle, hai, hvoice, hscan]
    exact ⟨_, rfl⟩

/-! ## Runs that can be reviewed -/

/-- What a delivery that waits for its review needs. -/
structure Reviewable (kind : StoreKind) (store : Store) (projectId : String)
    (delivery : HumanReviewedProductDelivery) : Prop where
  /-- There is exactly one result for each requirement, and it is a pass. -/
  verified : (delivery.verificationResults.map (·.gate)).Perm delivery.verificationRequirements ∧
    ∀ result ∈ delivery.verificationResults, result.outcome = .passed
  reconciled : Matches delivery.reconciliation delivery.expectedBaseSha delivery.expectedHeadSha
  shown : delivery.evidence ≠ none →
    ∃ dashboard, reviewerDashboard kind store projectId = .ok dashboard

def AllReviewable (kind : StoreKind) (store : Store) : Prop :=
  ∀ projectId delivery, Table.load store projectId = some delivery →
    delivery.stage = .waitingForHumanReview → Reviewable kind store projectId delivery

/-- A waiting delivery has one passed result for each of its requirements. -/
theorem Inv.verified (hinv : Inv delivery) (hstage : delivery.stage = .waitingForHumanReview) :
    (delivery.verificationResults.map (·.gate)).Perm delivery.verificationRequirements ∧
      ∀ result ∈ delivery.verificationResults, result.outcome = .passed := by
  obtain ⟨-, hmissing, hfailed⟩ := hinv.reviewed hstage
  constructor
  · rw [List.perm_ext_iff_of_nodup hinv.gates_nodup hinv.nodup]
    intro gate
    refine ⟨fun hgate => hinv.known hgate, fun hgate => ?_⟩
    have hnot := List.filter_eq_nil_iff.mp hmissing gate hgate
    simpa using hnot
  · intro result hresult
    unfold HumanReviewedProductDelivery.failed at hfailed
    have hnot := List.filter_eq_nil_iff.mp (List.map_eq_nil_iff.mp hfailed) result hresult
    cases houtcome : result.outcome with
    | passed => rfl
    | failed => simp [houtcome] at hnot

/-- A store is reviewable exactly when its attached deliveries have the gates of the dashboard
among their requirements. -/
theorem allReviewable_iff (h : StoreInv kind store) : AllReviewable kind store ↔
    ∀ projectId delivery, Table.load store projectId = some delivery →
      delivery.evidence ≠ none → dashboardGates ⊆ delivery.verificationRequirements := by
  have hsubset : ∀ delivery, Inv delivery → delivery.stage = .waitingForHumanReview →
      (dashboardGates ⊆ delivery.verificationResults.map (·.gate) ↔
        dashboardGates ⊆ delivery.verificationRequirements) := by
    intro delivery hinv hstage
    have hperm := (hinv.verified hstage).1
    exact ⟨fun hsub => List.Subset.trans hsub hperm.subset,
      fun hsub => List.Subset.trans hsub hperm.symm.subset⟩
  constructor
  · intro hall projectId delivery hload hattached
    obtain ⟨htarget, hinv⟩ := h projectId delivery hload
    obtain ⟨evidence, hevidence⟩ := Option.ne_none_iff_exists'.mp hattached
    have hstage := (hinv.evidence evidence hevidence).1
    have hshown := (hall projectId delivery hload hstage).shown hattached
    exact (hsubset delivery hinv hstage).mp
      ((reviewerDashboard_ok_iff htarget hload hinv hevidence).mp hshown)
  · intro hlisted projectId delivery hload hstage
    obtain ⟨htarget, hinv⟩ := h projectId delivery hload
    refine ⟨hinv.verified hstage, hinv.matched (by rw [hstage]; decide), fun hattached => ?_⟩
    obtain ⟨evidence, hevidence⟩ := Option.ne_none_iff_exists'.mp hattached
    exact (reviewerDashboard_ok_iff htarget hload hinv hevidence).mpr
      ((hsubset delivery hinv hstage).mpr (hlisted projectId delivery hload hattached))

/-- A pull request is attached only to a delivery that has the gates of the dashboard among its
requirements. -/
def Listed (kind : StoreKind) (store : Store) : Call → Prop
  | .attachPullRequest projectId evidence =>
    ∀ delivery, attachPullRequest kind store projectId evidence = .ok delivery →
      dashboardGates ⊆ delivery.verificationRequirements
  | _ => True

theorem allReviewable_perform_iff (h : StoreInv kind store) (hall : AllReviewable kind store)
    (call : Call) : AllReviewable kind (perform kind store call) ↔ Listed kind store call := by
  rw [allReviewable_iff h] at hall
  rw [allReviewable_iff (h.perform call)]
  cases hsaved : call.saved kind store with
  | error error =>
    have hsame : perform kind store call = store := by
      unfold perform
      rw [hsaved]
    rw [hsame]
    refine iff_of_true hall ?_
    cases call with
    | attachPullRequest projectId evidence =>
        intro delivery hok
        cases hok.symm.trans hsaved
    | _ => exact trivial
  | ok after =>
    have hperform : perform kind store call = store.save call.projectId after := by
      unfold perform
      rw [hsaved]
    rw [hperform]
    have hmoves := (Call.saved_ok hsaved).2
    have hothers : (after.evidence ≠ none → dashboardGates ⊆ after.verificationRequirements) →
        ∀ projectId delivery,
          Table.load (store.save call.projectId after) projectId = some delivery →
            delivery.evidence ≠ none → dashboardGates ⊆ delivery.verificationRequirements := by
      intro hafter projectId delivery hload
      by_cases hsame : projectId = call.projectId
      · subst hsame
        cases Table.load_save_self.symm.trans hload
        exact hafter
      · exact hall projectId delivery ((Table.load_save_of_ne hsame).symm.trans hload)
    generalize hbefore : Table.load store call.projectId = before at hmoves
    cases hmoves with
    | registered request clock createdAt hne hnodup =>
        refine iff_of_true (hothers fun hsome => ?_) trivial
        exact absurd (evidence_delivery request createdAt) hsome
    | recorded projectId gate passed details clock delivery result hstage hknown hnew =>
        exact iff_of_true (hothers (hall _ delivery hbefore)) trivial
    | requested projectId reviewer stripped delivery hstage hmissing hfailed =>
        exact iff_of_true (hothers (hall _ delivery hbefore)) trivial
    | attached projectId evidence delivery hstage hbase hhead hsha hdraft hmergeable hsame =>
        constructor
        · intro hlisted other hother
          cases hsaved.symm.trans hother
          exact hlisted _ _ Table.load_save_self (Option.some_ne_none _)
        · exact fun hlisted => hothers fun _ => hlisted _ hsaved

/-- In every state of a run the waiting deliveries can be reviewed, and attached evidence is never
replaced, exactly when pull requests are attached only to deliveries that have the six gates of
the dashboard among their requirements. -/
theorem intake_reviewable_iff (kind : StoreKind) (calls : List Call) :
    ((∀ store ∈ calls.scanl (perform kind) [], AllReviewable kind store) ∧
        Forward (perform kind) Keeps [] calls) ↔
      AllMeet (perform kind) (Listed kind) [] calls := by
  have hstates := forall_mem_scanl_iff_allMeet (StoreInv kind) (AllReviewable kind)
    (fun store call h hall => allReviewable_perform_iff h hall call)
    (fun store call h => h.perform call) calls [] storeInv_nil (fun _ _ hload => nomatch hload)
  have hforward : Forward (perform kind) Keeps [] calls :=
    forward_of_step (StoreInv kind) (fun store call h => keeps_perform h call)
      (fun store call h => h.perform call) calls [] storeInv_nil
  rw [hstates]
  exact and_iff_left hforward

/-! ## A delivery with one gate -/

def sampleMoment : Moment :=
  ⟨⟨2026, 1, 1, 0, 0, 0, 0⟩, by decide⟩

/-- A delivery whose only requirement is the gate `tests`. -/
def sampleRegistration : Registration where
  projectId := "p"
  milestoneId := "m"
  milestoneTitle := "t"
  repository := "r"
  baseBranch := "main"
  currentBranch := "work"
  expectedBaseSha := "a"
  expectedHeadSha := "b"
  implementationProvider := "i"
  implementationEvidence := "e"
  knowledgeSnapshot := "k"
  verificationRequirements := ["tests"]
  reconciliation :=
    { baseSha := "a", headSha := "b", mergeBaseSha := "a", baseIsAncestor := true
      commitCount := 1, changedPaths := ["f"], changedPathDigest := "c", diffDigest := "d"
      additions := 1, deletions := 0, workingTreeClean := true, remoteBaseExists := true
      remoteHeadExists := true }

/-- The delivery is registered, verified, handed to a reviewer and given a pull request. -/
def sampleCalls : List Call :=
  [.register sampleRegistration (some sampleMoment),
    .recordVerification "p" "tests" true "ok" (some sampleMoment),
    .requestHumanReview "p" "w",
    .attachPullRequest "p" ⟨1, "u", "main", "work", "b", true, true⟩]

/-- The dashboard of such a delivery raises on the gate `migration_sql`. -/
theorem not_intake_reviewable : ¬∀ (kind : StoreKind) (calls : List Call),
    (∀ store ∈ calls.scanl (perform kind) [], AllReviewable kind store) ∧
      Forward (perform kind) Keeps [] calls := by
  intro hall
  have hmem := foldl_mem_scanl (perform .memory) sampleCalls []
  have hdashboard : reviewerDashboard .memory (sampleCalls.foldl (perform .memory) []) "p" =
      .error (.keyError "migration_sql") := by
    decide +kernel
  have hload : ∃ delivery, Table.load (sampleCalls.foldl (perform .memory) []) "p" =
      some delivery ∧ delivery.stage = .waitingForHumanReview ∧ delivery.evidence ≠ none := by
    refine ⟨_, rfl, ?_, ?_⟩ <;> decide +kernel
  obtain ⟨delivery, hload, hstage, hattached⟩ := hload
  obtain ⟨dashboard, hshown⟩ :=
    ((hall .memory sampleCalls).1 _ hmem "p" delivery hload hstage).shown hattached
  rw [hdashboard] at hshown
  cases hshown

end Intake
end ProductDelivery
end Ascos
