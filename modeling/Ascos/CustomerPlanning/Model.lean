import Ascos.Authentication.Model
import Ascos.Library.Checks
import Ascos.Library.Texts
import Ascos.Requirements.Model

/-!
# Customer planning

The texts, errors and first records of a customer's product: the product request of
`runtime/customer_application/models.py`, and the requirements draft and its approval of
`runtime/customer_requirements/models.py` and `approval_models.py`.  Every instant is
in UTC.
-/

namespace Ascos
namespace CustomerPlanning

open Ascos.Authentication (isIdentifier)
open Ascos.Library
open Ascos.Runtime (Timestamp isSpace)

/-! ## Errors -/

/-- The exception classes of the planning packages. -/
inductive ErrorClass where
  | valueError
  | productRequestNotFound
  | requirementsDraftNotFound
  | requirementsDraftConflict
  | requirementsDraftCorrupt
  | requirementsDraftLocked
  | requirementsApprovalNotFound
  | requirementsApprovalConflict
  | requirementsApprovalCorrupt
  | customerPrdNotFound
  | customerPrdConflict
  | customerPrdCorrupt
  | customerPrdCriteriaNotFound
  | customerPrdCriteriaConflict
  | customerPrdCriteriaCorrupt
  | customerPrdApprovalNotFound
  | customerPrdApprovalConflict
  | customerPrdApprovalCorrupt
  | customerRoadmapNotFound
  | customerRoadmapConflict
  | customerRoadmapCorrupt
  | customerRoadmapApprovalNotFound
  | customerRoadmapApprovalConflict
  | customerRoadmapApprovalCorrupt
  | customerDeliveryEstimateNotFound
  | customerDeliveryEstimateConflict
  | customerDeliveryEstimateCorrupt
  | other (name : String)
deriving DecidableEq

/-- A raised exception with its message. -/
structure Error where
  errorClass : ErrorClass
  message : String
deriving DecidableEq

/-- `ValueError(message)`. -/
def Error.value (message : String) : Error :=
  ⟨.valueError, message⟩

/-- An exception of the product requirements package as the planning packages see it. -/
def Error.ofRequirements (error : Requirements.Error) : Error :=
  match error.errorClass with
  | .valueError => .value error.message
  | .other name => ⟨.other name, error.message⟩

/-! ## Texts -/

/-- A character that `_text` forbids. -/
def isForbidden (c : Char) : Bool :=
  (decide (c.toNat < 32) && c ≠ '\n' && c ≠ '\t') || c.toNat = 127

/-- The condition of `_text`. -/
def isText (value : String) (maximum : Nat) : Bool :=
  decide (value = strip isSpace value) && value ≠ "" && decide (value.length ≤ maximum) &&
    !value.toList.any isForbidden

def text (value label : String) (maximum : Nat) : Except Error Unit :=
  if isText value maximum = true then pure () else throw (.value (label ++ " is invalid"))

def items (casefold : String → String) (values : List String) (label : String)
    (minimum maximum itemLimit : Nat) : Except Error Unit :=
  if minimum ≤ values.length ∧ values.length ≤ maximum ∧ (values.map casefold).Nodup then
    values.forM (text · label itemLimit)
  else throw (.value (label ++ " are invalid"))

/-- A lower-case hexadecimal digit. -/
def isHex (c : Char) : Bool :=
  ('0' ≤ c && c ≤ '9') || ('a' ≤ c && c ≤ 'f')

/-- `_DIGEST.fullmatch`. -/
def isDigest (value : String) : Bool :=
  decide (value.length = 64) && value.toList.all isHex

/-- A check of one field against a pattern. -/
def matching (accepted : Bool) (label : String) : Except Error Unit :=
  if accepted = true then pure () else throw (.value (label ++ " is invalid"))

/-- `_IDENTIFIER` in a check of a field. -/
def identifier (value label : String) : Except Error Unit :=
  matching (isIdentifier value) label

/-- `_DIGEST` in a check of a field. -/
def digest (value label : String) : Except Error Unit :=
  matching (isDigest value) label

/-- The first characters of a text. -/
def firstChars (value : String) (count : Nat) : String :=
  String.ofList (value.toList.take count)

/-! ## Enumerations -/

inductive DataSensitivity where
  | noPersonalData
  | personalData
  | sensitiveData
deriving DecidableEq

inductive DeliveryPriority where
  | standard
  | timeSensitive
deriving DecidableEq

def allowedPlatforms : List String :=
  ["WEB", "MOBILE", "API", "AUTOMATION"]

/-- The allowed platforms among the given ones, in their order. -/
def orderedPlatforms (platforms : List String) : List String :=
  allowedPlatforms.filter (· ∈ platforms)

/-! ## Records -/

structure CustomerProductRequest where
  requestId : String
  customerId : String
  productName : String
  productSummary : String
  targetUsers : String
  features : List String
  constraints : List String
  submittedAt : Timestamp
deriving DecidableEq

structure CustomerRequirementsDraft where
  draftId : String
  customerId : String
  requestId : String
  revision : Nat
  sourceRequestDigest : String
  primaryUserJourney : String
  desiredOutcomes : List String
  mustHaveFeatures : List String
  successMetrics : List String
  nonGoals : List String
  platforms : List String
  dataSensitivity : DataSensitivity
  deliveryPriority : DeliveryPriority
  updatedAt : Timestamp
deriving DecidableEq

structure CustomerRequirementsApproval where
  approvalId : String
  customerId : String
  requestId : String
  draftId : String
  draftRevision : Nat
  sourceRequestDigest : String
  requirementsDigest : String
  confirmationVersion : String
  approvedAt : Timestamp
deriving DecidableEq

variable (casefold : String → String)

def CustomerProductRequest.postInit (request : CustomerProductRequest) : Except Error Unit := do
  identifier request.requestId "product request ID"
  identifier request.customerId "customer ID"
  text request.productName "product name" 120
  text request.productSummary "product summary" 2000
  text request.targetUsers "target users" 500
  items casefold request.features "product features" 1 20 300
  items casefold request.constraints "product constraints" 0 20 300

def CustomerRequirementsDraft.postInit (draft : CustomerRequirementsDraft) :
    Except Error Unit := do
  identifier draft.draftId "requirements draft ID"
  identifier draft.customerId "requirements customer ID"
  identifier draft.requestId "requirements request ID"
  if draft.revision < 1 then throw (.value "Requirements revision is invalid")
  if isDigest draft.sourceRequestDigest = false then
    throw (.value "Source product-request digest is invalid")
  text draft.primaryUserJourney "primary user journey" 2000
  items casefold draft.desiredOutcomes "desired outcomes" 1 10 300
  items casefold draft.mustHaveFeatures "must-have features" 1 20 300
  items casefold draft.successMetrics "success metrics" 1 10 300
  items casefold draft.nonGoals "non-goals" 0 10 300
  if draft.platforms = [] ∨ allowedPlatforms.length < draft.platforms.length ∨
      ¬draft.platforms.Nodup ∨ orderedPlatforms draft.platforms ≠ draft.platforms then
    throw (.value "Requirements platforms are invalid")

/-- `CONFIRMATION_VERSION`. -/
def requirementsConfirmationVersion : String :=
  "customer-requirements-v1"

def CustomerRequirementsApproval.postInit (approval : CustomerRequirementsApproval) :
    Except Error Unit := do
  identifier approval.approvalId "requirements approval ID"
  identifier approval.customerId "requirements customer ID"
  identifier approval.requestId "requirements request ID"
  identifier approval.draftId "requirements draft ID"
  if approval.draftRevision < 1 then throw (.value "Approved requirements revision is invalid")
  digest approval.sourceRequestDigest "source product-request digest"
  digest approval.requirementsDigest "requirements draft digest"
  if approval.confirmationVersion ≠ requirementsConfirmationVersion then
    throw (.value "Requirements confirmation version is invalid")

/-- The fields of a draft that make a repeated save the same one. -/
structure BusinessContent where
  customerId : String
  requestId : String
  sourceRequestDigest : String
  primaryUserJourney : String
  desiredOutcomes : List String
  mustHaveFeatures : List String
  successMetrics : List String
  nonGoals : List String
  platforms : List String
  dataSensitivity : DataSensitivity
  deliveryPriority : DeliveryPriority
deriving DecidableEq

def CustomerRequirementsDraft.businessContent (draft : CustomerRequirementsDraft) :
    BusinessContent where
  customerId := draft.customerId
  requestId := draft.requestId
  sourceRequestDigest := draft.sourceRequestDigest
  primaryUserJourney := draft.primaryUserJourney
  desiredOutcomes := draft.desiredOutcomes
  mustHaveFeatures := draft.mustHaveFeatures
  successMetrics := draft.successMetrics
  nonGoals := draft.nonGoals
  platforms := draft.platforms
  dataSensitivity := draft.dataSensitivity
  deliveryPriority := draft.deliveryPriority

def constructed {α : Type} (check : α → Except Error Unit) (value : α) : Except Error α := do
  check value
  pure value

/-! ## What the constructors raise -/

theorem text_raises (value label : String) (maximum : Nat) :
    Checks.Raises (·.errorClass = .valueError) (text value label maximum) :=
  .ite Checks.raises_pure (Checks.raises_throw rfl)

theorem items_raises (casefold : String → String) (values : List String) (label : String)
    (minimum maximum itemLimit : Nat) :
    Checks.Raises (·.errorClass = .valueError)
      (items casefold values label minimum maximum itemLimit) :=
  .ite (Checks.raises_forM fun value => text_raises value label itemLimit)
    (Checks.raises_throw rfl)

theorem matching_raises (accepted : Bool) (label : String) :
    Checks.Raises (·.errorClass = .valueError) (matching accepted label) :=
  .ite Checks.raises_pure (Checks.raises_throw rfl)

theorem constructed_raises {α : Type} {check : α → Except Error Unit} {value : α}
    (h : Checks.Raises (·.errorClass = .valueError) (check value)) :
    Checks.Raises (·.errorClass = .valueError) (constructed check value) :=
  h.bind fun _ => Checks.raises_pure

theorem CustomerRequirementsDraft.postInit_raises (draft : CustomerRequirementsDraft) :
    Checks.Raises (·.errorClass = .valueError) (draft.postInit casefold) := by
  unfold CustomerRequirementsDraft.postInit identifier
  dsimp only
  repeat' with_reducible first
    | exact matching_raises _ _ | exact text_raises _ _ _ | exact items_raises _ _ _ _ _ _
    | apply Checks.Raises.bind | intro _ | exact Checks.raises_pure
    | apply Checks.Raises.guard | apply Checks.Raises.ite | apply Checks.raises_throw
  all_goals rfl

theorem CustomerRequirementsApproval.postInit_raises (approval : CustomerRequirementsApproval) :
    Checks.Raises (·.errorClass = .valueError) approval.postInit := by
  unfold CustomerRequirementsApproval.postInit identifier digest
  dsimp only
  repeat' with_reducible first
    | exact matching_raises _ _ | apply Checks.Raises.bind | intro _
    | exact Checks.raises_pure | apply Checks.Raises.guard | apply Checks.Raises.ite
    | apply Checks.raises_throw
  all_goals rfl

end CustomerPlanning
end Ascos
