import Ascos.Library.Chase
import Ascos.Runtime.Model
import Mathlib.Data.List.Dedup
import Mathlib.Data.List.Lex
import Mathlib.Data.String.Basic

/-!
# Product requirements

The records of `runtime/product_requirements/models.py` with the checks of their
constructors, the transition table of `lifecycle.py`, and `validation.py`.  A
record that exists has passed its checks, so it carries them as a field; every instant is
in UTC.
-/

namespace Ascos
namespace Requirements

open Ascos.Library
open Ascos.Runtime (Timestamp isBlank isSpace)

/-! ## Errors and texts -/

/-- The exception classes that the operations raise, and any class of other code. -/
inductive ErrorClass where
  | valueError
  | other (name : String)
deriving DecidableEq

/-- A raised exception with its message. -/
structure Error where
  errorClass : ErrorClass
  message : String
deriving DecidableEq

/-- `ValueError(message)`. -/
def Error.value (message : String) : Error :=
  ⟨.valueError, message⟩

/-- The condition of `_text`. -/
def isText (value : String) : Bool :=
  !isBlank value && decide (value.length ≤ 20000) && !value.toList.contains (Char.ofNat 0)

def text (value name : String) : Except Error Unit :=
  if isText value = true then pure ()
  else throw (.value (name ++ " must be bounded non-empty text"))

def tuple (values : List String) (name : String) : Except Error Unit :=
  if values.length ≤ 1000 then values.forM (text · name)
  else throw (.value (name ++ " must be a bounded tuple"))

/-! ## Enumerations -/

inductive RequirementStatus where
  | draft
  | underReview
  | approved
  | locked
  | implemented
  | superseded
  | archived
deriving DecidableEq

def RequirementStatus.value : RequirementStatus → String
  | .draft => "DRAFT"
  | .underReview => "UNDER_REVIEW"
  | .approved => "APPROVED"
  | .locked => "LOCKED"
  | .implemented => "IMPLEMENTED"
  | .superseded => "SUPERSEDED"
  | .archived => "ARCHIVED"

/-- `TRANSITIONS[status]`. -/
def RequirementStatus.transitions : RequirementStatus → List RequirementStatus
  | .draft => [.underReview]
  | .underReview => [.draft, .approved]
  | .approved => [.locked, .superseded]
  | .locked => [.implemented, .superseded]
  | .implemented => [.superseded, .archived]
  | .superseded => [.archived]
  | .archived => []

inductive RequirementCategory where
  | functional
  | nonFunctional
  | security
  | privacy
  | accessibility
  | performance
  | architecture
  | commercial
  | deployment
  | futureRoadmap
deriving DecidableEq

inductive RequirementPriority where
  | critical
  | high
  | medium
  | low
deriving DecidableEq

/-! ## Records -/

structure RevisionRecord where
  version : String
  actor : String
  action : String
  reason : String
  timestamp : Timestamp
deriving DecidableEq

/-- The fields of `ProductRequirement`. -/
structure RequirementFields where
  requirementId : String
  title : String
  description : String
  rationale : String
  acceptanceCriteria : List String
  priority : RequirementPriority
  milestone : String
  status : RequirementStatus
  version : String
  author : String
  approver : Option String
  createdAt : Timestamp
  updatedAt : Timestamp
  affectedProducts : List String
  tags : List String
  category : RequirementCategory
  productId : String := ""
  lockedAt : Option Timestamp := none
  supersedes : Option String := none
  supersededBy : Option String := none
  conflictsWith : List String := []
deriving DecidableEq

def RequirementFields.postInit (item : RequirementFields) : Except Error Unit := do
  text item.requirementId "requirement ID"
  text item.title "title"
  text item.description "description"
  text item.version "version"
  text item.author "author"
  if item.productId ≠ "" then
    text item.productId "product ID"
  tuple item.acceptanceCriteria "acceptance criteria"
  tuple item.affectedProducts "affected products"
  tuple item.tags "tags"
  tuple item.conflictsWith "conflicts"

structure ProductRequirement extends RequirementFields where
  checked : toRequirementFields.postInit = .ok ()
deriving DecidableEq

/-- The constructor of `ProductRequirement`, which `replace` calls again. -/
def ProductRequirement.new (fields : RequirementFields) : Except Error ProductRequirement :=
  match h : fields.postInit with
  | .ok () => .ok ⟨fields, h⟩
  | .error error => .error error

structure RequirementGroup where
  groupId : String
  title : String
  requirementIds : List String
  description : String := ""
deriving DecidableEq

structure RequirementApproval where
  approvalId : String
  requirementIds : List String
  approver : String
  decision : String
  rationale : String
  timestamp : Timestamp
deriving DecidableEq

/-- The fields of `ProductRequirementsDocument`. -/
structure DocumentFields where
  prdId : String
  productId : String
  title : String
  version : String
  status : RequirementStatus
  author : String
  approver : Option String
  requirements : List ProductRequirement
  explicitExclusions : List String
  futureRoadmap : List String
  revisionHistory : List RevisionRecord
  createdAt : Timestamp
  updatedAt : Timestamp
  supersedesVersion : Option String := none
  lockedAt : Option Timestamp := none
  requirementGroups : List RequirementGroup := []
  approvalHistory : List RequirementApproval := []
deriving DecidableEq

/-- `not value` of an optional text. -/
def isAbsent (value : Option String) : Bool :=
  value.all (· == "")

def DocumentFields.postInit (prd : DocumentFields) : Except Error Unit := do
  text prd.prdId "PRD field"
  text prd.productId "PRD field"
  text prd.title "PRD field"
  text prd.version "PRD field"
  text prd.author "PRD field"
  if prd.requirements = [] then
    throw (.value "PRD requires at least one requirement")
  let ids := prd.requirements.map (·.requirementId)
  if ¬ids.Nodup then
    throw (.value "PRD requirement IDs must be unique")
  if prd.status = .locked ∧ (isAbsent prd.approver = true ∨ prd.lockedAt = none) then
    throw (.value "Locked PRD requires approver and lock timestamp")
  if ¬∀ group ∈ prd.requirementGroups, ∀ item ∈ group.requirementIds, item ∈ ids then
    throw (.value "Requirement groups must reference requirements in the PRD")

structure ProductRequirementsDocument extends DocumentFields where
  checked : toDocumentFields.postInit = .ok ()
deriving DecidableEq

/-- The constructor of `ProductRequirementsDocument`, which `replace` calls again. -/
def ProductRequirementsDocument.new (fields : DocumentFields) :
    Except Error ProductRequirementsDocument :=
  match h : fields.postInit with
  | .ok () => .ok ⟨fields, h⟩
  | .error error => .error error

/-! ## Lifecycle -/

def transitionRequirement (requirement : ProductRequirement) (target : RequirementStatus)
    (actor : String) (now : Timestamp) : Except Error ProductRequirement :=
  if target ∈ requirement.status.transitions then
    ProductRequirement.new
      { requirement.toRequirementFields with
        status := target
        approver :=
          if target = .approved ∨ target = .locked then some actor else requirement.approver
        lockedAt := if target = .locked then some now else requirement.lockedAt
        updatedAt := now }
  else
    throw (.value ("Invalid requirement transition: " ++ requirement.status.value ++ " -> " ++
      target.value))

def revision (version actor action reason : String) (now : Timestamp) :
    Except Error RevisionRecord :=
  if isBlank reason = true then throw (.value "Revision reason is required")
  else pure ⟨version, actor, action, reason, now⟩

/-! ## Validation -/

structure ValidationIssue where
  code : String
  message : String
  requirementIds : List String := []
deriving DecidableEq

/-- The order of `sorted(issues, key=lambda issue: (issue.code, issue.requirement_ids))`. -/
def ValidationIssue.le (first second : ValidationIssue) : Bool :=
  decide (first.code < second.code ∨
    (first.code = second.code ∧ first.requirementIds ≤ second.requirementIds))

/-- The words of a text, as `str.split` gives them. -/
def words (value : String) : List String :=
  ((value.toList.splitOnP isSpace).filter (· ≠ [])).map String.ofList

variable (casefold : String → String)

/-- `_normal`; `str.casefold` is a parameter. -/
def normal (value : String) : String :=
  " ".intercalate (words (casefold value))

/-- What `validate_requirements` reports about one requirement. -/
def requirementIssues (knownIds : List String) (item : ProductRequirement) :
    List ValidationIssue :=
  (if item.acceptanceCriteria = [] then
    [⟨"MISSING_ACCEPTANCE_CRITERIA", "Acceptance criteria are required", [item.requirementId]⟩]
    else []) ++
  (if isBlank item.rationale = true then
    [⟨"MISSING_RATIONALE", "Rationale is required", [item.requirementId]⟩] else []) ++
  (if isBlank item.milestone = true then
    [⟨"MISSING_MILESTONE", "Milestone is required", [item.requirementId]⟩] else []) ++
  (if item.status ∈ [.approved, .locked, .implemented] ∧ isAbsent item.approver = true then
    [⟨"MISSING_APPROVAL", "Approval is required", [item.requirementId]⟩] else []) ++
  item.conflictsWith.flatMap fun conflict =>
    if conflict ∉ knownIds then
      [⟨"UNKNOWN_CONFLICT", "Conflict target is unknown", [item.requirementId, conflict]⟩]
    else if item.requirementId < conflict then
      [⟨"CONFLICTING_REQUIREMENTS", "Requirements explicitly conflict",
        [item.requirementId, conflict]⟩]
    else []

/-- The last loop of `validate_requirements`, over the titles in their first order. -/
def duplicateIssues (requirements : List ProductRequirement) : List ValidationIssue :=
  let titles := (requirements.map fun item => normal casefold item.title).eraseDups
  titles.flatMap fun title =>
    let ids := (requirements.filter fun item => normal casefold item.title = title).map
      (·.requirementId)
    if 1 < ids.length then
      [⟨"DUPLICATE_REQUIREMENT", "Requirements have duplicate normalized titles", ids⟩]
    else []

def validateRequirements (requirements : List ProductRequirement) : List ValidationIssue :=
  let knownIds := requirements.map (·.requirementId)
  (requirements.flatMap (requirementIssues knownIds) ++
    duplicateIssues casefold requirements).mergeSort ValidationIssue.le

/-- The links of `validate_superseding`.  Of equal identifiers the dictionary keeps the last
link, so the links stand in reverse order here. -/
def supersedingLinks (requirements : List ProductRequirement) : List (String × String) :=
  (requirements.filterMap fun item =>
    match item.supersedes with
    | some superseded => if superseded = "" then none else some (item.requirementId, superseded)
    | none => none).reverse

/-- The loop of `validate_superseding` from one requirement: the cycle that it runs into. -/
def supersedingCycle (links : List (String × String)) :
    Nat → String → List String → Option (Option (List String)) :=
  chase fun id => List.lookup id links

/-- `validate_superseding`.  The identifiers that a loop has seen are distinct keys of the
links, so one step more than there are links is never taken. -/
def validateSuperseding (requirements : List ProductRequirement) : List ValidationIssue :=
  let links := supersedingLinks requirements
  let cycles := links.filterMap fun link =>
    (supersedingCycle links (links.length + 1) link.1 []).join
  (cycles.dedup.map fun cycle =>
    ⟨"CIRCULAR_SUPERSEDING", "Requirement superseding graph is circular", cycle⟩).mergeSort
      ValidationIssue.le

/-- What `validate_prd` adds about the document itself. -/
def approvalIssues (prd : ProductRequirementsDocument) : List ValidationIssue :=
  if (prd.status = .approved ∨ prd.status = .locked) ∧ isAbsent prd.approver = true then
    [⟨"MISSING_PRD_APPROVAL", "Approved PRD requires an approver", []⟩]
  else []

def validatePrd (prd : ProductRequirementsDocument) : List ValidationIssue :=
  (validateRequirements casefold prd.requirements ++ validateSuperseding prd.requirements ++
    approvalIssues prd).mergeSort ValidationIssue.le

/-! ## Content -/

/-- Everything of a requirement but its status and the time of its last update. -/
def ProductRequirement.content (item : ProductRequirement) : RequirementFields :=
  { item.toRequirementFields with status := .draft, updatedAt := 0 }

end Requirements
end Ascos
