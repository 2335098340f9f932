import Ascos.CustomerPlanning.Files

/-!
# Guided requirements

The services of `runtime/customer_requirements/service.py` and
`approval_service.py`, with the lock of the first wired to the store of the second.
-/

namespace Ascos
namespace CustomerPlanning

open Ascos.Library
open Ascos.Runtime (Timestamp)

variable (setting : Setting)

/-! ## Drafts -/

/-- `CustomerRequirementsService.context`. -/
def requirementsContext : Planning (CustomerProductRequest × Option CustomerRequirementsDraft) := do
  let request ← getRequest setting
  let draft ← latest setting
  if draft.any (fun value => value.sourceRequestDigest ≠ request.digest setting) = true then
    Script.raise (.draftConflict "Requirements source request changed")
  else pure (request, draft)

/-- What a customer enters to save a draft, and when. -/
structure DraftForm where
  expectedRevision : Int
  primaryUserJourney : String
  desiredOutcomes : List String
  mustHaveFeatures : List String
  successMetrics : List String
  nonGoals : List String
  platforms : List String
  dataSensitivity : DataSensitivity
  deliveryPriority : DeliveryPriority
  now : Timestamp
deriving DecidableEq

/-- The draft that `save` builds from a form. -/
def DraftForm.candidate (form : DraftForm) (request : CustomerProductRequest)
    (currentRevision : Nat) : CustomerRequirementsDraft where
  draftId := setting.draftId
  customerId := setting.customerId
  requestId := setting.requestId
  revision := currentRevision + 1
  sourceRequestDigest := request.digest setting
  primaryUserJourney := form.primaryUserJourney
  desiredOutcomes := form.desiredOutcomes
  mustHaveFeatures := form.mustHaveFeatures
  successMetrics := form.successMetrics
  nonGoals := form.nonGoals
  platforms := orderedPlatforms form.platforms
  dataSensitivity := form.dataSensitivity
  deliveryPriority := form.deliveryPriority
  updatedAt := form.now

/-- The revision of a draft, zero when there is none. -/
def currentRevision (draft : Option CustomerRequirementsDraft) : Nat :=
  draft.elim 0 (·.revision)

/-- `CustomerRequirementsService.save` after its check of the lock. -/
def saveCandidate (me : Nat) (form : DraftForm) (request : CustomerProductRequest)
    (latest : Option CustomerRequirementsDraft) : Planning CustomerRequirementsDraft :=
  if form.platforms = [] ∨ ¬form.platforms.Nodup ∨
      ¬∀ platform ∈ form.platforms, platform ∈ allowedPlatforms then
    Script.raise (.value "Requirements platforms are invalid")
  else do
    let candidate ← Script.ofExcept
      (constructed (CustomerRequirementsDraft.postInit setting.casefold)
        (form.candidate setting request (currentRevision latest)))
    match latest.filter (fun value : CustomerRequirementsDraft =>
        decide (value.businessContent = candidate.businessContent)) with
    | some value => pure value
    | none =>
        if form.expectedRevision ≠ currentRevision latest then
          Script.raise (.draftConflict "Requirements form is stale")
        else saveRevision setting me candidate

/-- `CustomerRequirementsService.save`. -/
def saveRequirements (me : Nat) (form : DraftForm) : Planning CustomerRequirementsDraft := do
  let context ← requirementsContext setting
  let locked ← isLocked setting .requirementsApproval
  if locked = true then
    Script.raise ⟨.requirementsDraftLocked, "Approved requirements cannot be revised"⟩
  else saveCandidate setting me form context.1 context.2

/-! ## Approvals -/

/-- `RequirementsApprovalConflict(message)`. -/
def Error.approvalConflict (message : String) : Error :=
  ⟨.requirementsApprovalConflict, message⟩

/-- What `context` raises when the approval is one of other requirements. -/
def Error.doesNotBind : Error :=
  .approvalConflict "Approval does not bind the current requirements"

/-- The comparison of an approval with the request and the draft that are current. -/
def CustomerRequirementsApproval.bindsDraft (approval : CustomerRequirementsApproval)
    (request : CustomerProductRequest) (draft : CustomerRequirementsDraft) : Bool :=
  approval.customerId = setting.customerId && approval.requestId = setting.requestId &&
    approval.draftId = draft.draftId && approval.draftRevision = draft.revision &&
      approval.sourceRequestDigest = request.digest setting &&
        approval.requirementsDigest = draft.digest setting

/-- `CustomerRequirementsApprovalService.context`. -/
def requirementsApprovalContext : Planning (CustomerProductRequest ×
    Option CustomerRequirementsDraft × Option CustomerRequirementsApproval) := do
  let context ← requirementsContext setting
  let approval ← find setting .requirementsApproval
  if approval.all (fun value =>
      context.2.any (value.bindsDraft setting context.1)) = true then
    pure (context.1, context.2, approval)
  else Script.raise .doesNotBind

/-- What a customer confirms to approve a draft, and when. -/
structure ApprovalForm where
  expectedRevision : Int
  expectedDigest : String
  confirmed : Bool
  now : Timestamp
deriving DecidableEq

/-- The receipt that `approve` builds. -/
def ApprovalForm.receipt (form : ApprovalForm) (request : CustomerProductRequest)
    (draft : CustomerRequirementsDraft) : CustomerRequirementsApproval where
  approvalId := setting.approvalId
  customerId := setting.customerId
  requestId := setting.requestId
  draftId := draft.draftId
  draftRevision := draft.revision
  sourceRequestDigest := request.digest setting
  requirementsDigest := draft.digest setting
  confirmationVersion := requirementsConfirmationVersion
  approvedAt := form.now

/-- `CustomerRequirementsApprovalService.approve`. -/
def approveRequirements (me : Nat) (form : ApprovalForm) :
    Planning CustomerRequirementsApproval :=
  if form.confirmed = false then
    Script.raise (.value "Explicit requirements confirmation is required")
  else do
    let context ← requirementsApprovalContext setting
    match context.2.1 with
    | none => Script.raise (.approvalConflict "A saved requirements draft is required")
    | some draft =>
        if form.expectedRevision ≠ draft.revision ∨
            form.expectedDigest ≠ draft.digest setting then
          Script.raise (.approvalConflict "Requirements approval form is stale")
        else
          match context.2.2 with
          | some existing => pure existing
          | none => do
              let value ← Script.ofExcept
                (constructed CustomerRequirementsApproval.postInit
                  (form.receipt setting context.1 draft))
              save setting me .requirementsApproval value

/-! ## Calls -/

/-- The calls of the two services on the request. -/
inductive RequirementsCall where
  | save (form : DraftForm)
  | approve (form : ApprovalForm)
  | context
deriving DecidableEq

/-- What a call does, without what it returns. -/
def RequirementsCall.perform (me : Nat) : RequirementsCall → Planning Unit
  | .save form => do
    let _ ← saveRequirements setting me form
    pure ()
  | .approve form => do
    let _ ← approveRequirements setting me form
    pure ()
  | .context => do
    let _ ← requirementsApprovalContext setting
    pure ()

end CustomerPlanning
end Ascos
