import Ascos.CustomerPlanning.Model
import Mathlib.Algebra.GroupWithZero.Nat

/-!
# Planning records

The records of `runtime/customer_prd`, `runtime/customer_roadmap` and
`runtime/customer_estimate`.
-/

namespace Ascos
namespace CustomerPlanning

open Ascos.Requirements (RequirementCategory RequirementPriority)
open Ascos.Authentication (isIdentifier)
open Ascos.Runtime (Timestamp)

/-! ## The customer PRD -/

structure CustomerPrdRequirement where
  requirementId : String
  title : String
  description : String
  acceptanceCriteria : List String
  category : RequirementCategory
  priority : RequirementPriority
  sourceReference : String
deriving DecidableEq

/-- `GENERATION_PROFILE` of the customer PRD. -/
def prdGenerationProfile : String :=
  "ascos-deterministic-customer-prd-v1"

structure CustomerPrdDraft where
  artifactId : String
  customerId : String
  requestId : String
  productId : String
  prdId : String
  version : String
  generationProfile : String
  sourceRequestDigest : String
  requirementsDigest : String
  approvalDigest : String
  title : String
  problemStatement : String
  targetUsers : String
  primaryUserJourney : String
  requirements : List CustomerPrdRequirement
  successMetrics : List String
  explicitExclusions : List String
  platforms : List String
  dataSensitivity : DataSensitivity
  deliveryPriority : DeliveryPriority
  generatedAt : Timestamp
deriving DecidableEq

structure CustomerPrdCriteriaEntry where
  requirementId : String
  acceptanceCriteria : List String
deriving DecidableEq

structure CustomerPrdCriteriaRefinement where
  refinementId : String
  customerId : String
  requestId : String
  sourcePrdDigest : String
  entries : List CustomerPrdCriteriaEntry
  confirmationVersion : String
  lockedAt : Timestamp
deriving DecidableEq

structure CustomerPrdApproval where
  approvalId : String
  customerId : String
  requestId : String
  artifactId : String
  productId : String
  prdId : String
  prdVersion : String
  sourceRequestDigest : String
  requirementsDigest : String
  requirementsApprovalDigest : String
  prdDigest : String
  confirmationVersion : String
  approvedAt : Timestamp
deriving DecidableEq

def prdConfirmationVersion : String :=
  "customer-prd-v1"

/-! ## The customer roadmap -/

/-- `GENERATION_PROFILE` of the customer roadmap. -/
def roadmapGenerationProfile : String :=
  "ascos-deterministic-customer-roadmap-v2"

def roadmapStatus : String :=
  "DRAFT"

structure CustomerRoadmapMilestone where
  roadmapItemId : String
  milestone : String
  sequence : Nat
  requirementIds : List String
  priorities : List RequirementPriority
  status : String := roadmapStatus
deriving DecidableEq

structure CustomerRoadmapDraft where
  roadmapId : String
  customerId : String
  requestId : String
  productId : String
  prdId : String
  prdVersion : String
  sourceRequestDigest : String
  requirementsDigest : String
  requirementsApprovalDigest : String
  prdDigest : String
  prdApprovalId : String
  prdApprovalDigest : String
  generationProfile : String
  title : String
  milestones : List CustomerRoadmapMilestone
  generatedAt : Timestamp
  status : String := roadmapStatus
deriving DecidableEq

structure CustomerRoadmapApproval where
  approvalId : String
  customerId : String
  requestId : String
  roadmapId : String
  productId : String
  prdId : String
  prdVersion : String
  sourceRequestDigest : String
  requirementsDigest : String
  requirementsApprovalDigest : String
  prdDigest : String
  prdApprovalDigest : String
  roadmapDigest : String
  confirmationVersion : String
  approvedAt : Timestamp
deriving DecidableEq

def roadmapConfirmationVersion : String :=
  "customer-roadmap-v1"

/-! ## The delivery estimate -/

inductive EstimateConfidence where
  | high
  | medium
  | low
deriving DecidableEq

inductive EffortBand where
  | small
  | medium
  | large
  | extraLarge
deriving DecidableEq

def estimateStatus : String :=
  "DRAFT"

structure CustomerMilestoneEstimate where
  roadmapItemId : String
  milestone : String
  sequence : Nat
  requirementIds : List String
  complexityPoints : Nat
  minimumEffortDays : Nat
  maximumEffortDays : Nat
  effortBand : EffortBand
  confidence : EstimateConfidence
  drivers : List String
  status : String := estimateStatus
deriving DecidableEq

structure CustomerDeliveryEstimateDraft where
  estimateId : String
  customerId : String
  requestId : String
  roadmapId : String
  roadmapApprovalId : String
  productId : String
  prdId : String
  prdVersion : String
  sourceRequestDigest : String
  requirementsDigest : String
  requirementsApprovalDigest : String
  prdDigest : String
  prdApprovalDigest : String
  roadmapDigest : String
  roadmapApprovalDigest : String
  generationProfile : String
  title : String
  milestones : List CustomerMilestoneEstimate
  totalMinimumEffortDays : Nat
  totalMaximumEffortDays : Nat
  effortUnit : String
  confidence : EstimateConfidence
  assumptions : List String
  generatedAt : Timestamp
  status : String := estimateStatus
deriving DecidableEq

end CustomerPlanning
end Ascos
