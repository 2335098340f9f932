import Ascos.CustomerPlanning.Records
import Ascos.Library.SharedFiles
import Mathlib.Data.List.Sort
import Mathlib.Data.List.TakeDrop
import Mathlib.Tactic.IntervalCases

/-!
# Planning files

The stores of `persistence.py`, `approval_persistence.py` and
`criteria_persistence.py` of the planning packages, for one request of one customer.  The
atomic operations are the single reads and writes of its directories and files; a file whose
content is not all there is corrupt to every reader.
-/

namespace Ascos
namespace CustomerPlanning

open Ascos.Authentication (isIdentifier)
open Ascos.Library

/-! ## What the services are built with -/

/-- The identities of the request, and the functions of the standard library that the records
are folded, serialized and hashed with. -/
structure Setting where
  customerId : String
  requestId : String
  fold : Char → List Char
  fold_ascii : ∀ c : Char, c.toNat < 128 → fold c = [c.toLower]
  sha256 : String → String
  isDigest_sha256 : ∀ value, isDigest (sha256 value) = true
  requestText : CustomerProductRequest → String
  draftText : CustomerRequirementsDraft → String
  requirementsApprovalText : CustomerRequirementsApproval → String
  prdText : CustomerPrdDraft → String
  criteriaText : CustomerPrdCriteriaRefinement → String
  prdApprovalText : CustomerPrdApproval → String
  roadmapText : CustomerRoadmapDraft → String
  roadmapApprovalText : CustomerRoadmapApproval → String
  estimateText : CustomerDeliveryEstimateDraft → String

variable (setting : Setting)

/-- `str.casefold`, which folds each character on its own. -/
def Setting.casefold (value : String) : String :=
  String.ofList (value.toList.flatMap setting.fold)

/-- The first characters of the hash of a text. -/
def Setting.shortHash (value : String) : String :=
  firstChars (setting.sha256 value) 24

/-- `draft_id_for` of the request. -/
def Setting.draftId : String :=
  "requirements-" ++ setting.shortHash setting.requestId

/-- `approval_id_for` of the request. -/
def Setting.approvalId : String :=
  "approval-" ++ setting.shortHash ("approval:" ++ setting.requestId)

/-- The artifact of `ids_for` of the request. -/
def Setting.artifactId : String :=
  "customer-prd-" ++ setting.shortHash ("customer-prd:" ++ setting.requestId)

/-- The product of `ids_for` of the request. -/
def Setting.productId : String :=
  "product-" ++ setting.shortHash ("customer-prd:" ++ setting.requestId)

/-- The PRD of `ids_for` of the request. -/
def Setting.prdId : String :=
  "prd-" ++ setting.shortHash ("customer-prd:" ++ setting.requestId)

/-- `criteria_refinement_id_for` of the request. -/
def Setting.criteriaRefinementId : String :=
  "prd-criteria-" ++ setting.shortHash ("customer-prd-criteria:" ++ setting.requestId)

/-- `prd_approval_id_for` of the request. -/
def Setting.prdApprovalId : String :=
  "prd-approval-" ++ setting.shortHash ("customer-prd-approval:" ++ setting.requestId)

/-- `roadmap_id_for` of the request. -/
def Setting.roadmapId : String :=
  "customer-roadmap-" ++ setting.shortHash ("customer-roadmap:" ++ setting.requestId)

/-- `roadmap_approval_id_for` of the request. -/
def Setting.roadmapApprovalId : String :=
  "roadmap-approval-" ++
    setting.shortHash ("customer-roadmap-approval:" ++ setting.requestId)

/-- `estimate_id_for` of the request. -/
def Setting.estimateId : String :=
  "customer-estimate-" ++
    setting.shortHash ("customer-delivery-estimate:" ++ setting.requestId)

def CustomerProductRequest.digest (request : CustomerProductRequest) : String :=
  setting.sha256 (setting.requestText request)

def CustomerRequirementsDraft.digest (draft : CustomerRequirementsDraft) : String :=
  setting.sha256 (setting.draftText draft)

def CustomerPrdDraft.digest (prd : CustomerPrdDraft) : String :=
  setting.sha256 (setting.prdText prd)

def CustomerPrdApproval.digest (approval : CustomerPrdApproval) : String :=
  setting.sha256 (setting.prdApprovalText approval)

def CustomerRoadmapDraft.digest (roadmap : CustomerRoadmapDraft) : String :=
  setting.sha256 (setting.roadmapText roadmap)

def CustomerRoadmapApproval.digest (approval : CustomerRoadmapApproval) : String :=
  setting.sha256 (setting.roadmapApprovalText approval)

/-! ### An example -/

def hexDigit (value : Nat) : Char :=
  "0123456789abcdef".toList[value]?.getD '0'

/-- The first bytes of the characters of a text, in hexadecimal digits. -/
def exampleHash (value : String) : String :=
  String.ofList ((value.toList.flatMap fun c =>
    [hexDigit (c.toNat / 16 % 16), hexDigit (c.toNat % 16)]).takeD 64 '0')

theorem isHex_hexDigit (value : Nat) : isHex (hexDigit value) = true := by
  unfold hexDigit
  by_cases hlt : value < 16
  · interval_cases value <;> decide
  · have hlength : "0123456789abcdef".toList.length = 16 := by decide
    rw [List.getElem?_eq_none (by omega)]
    decide

theorem isDigest_exampleHash (value : String) : isDigest (exampleHash value) = true := by
  have hall : ∀ c ∈ (value.toList.flatMap fun c =>
      [hexDigit (c.toNat / 16 % 16), hexDigit (c.toNat % 16)]), isHex c = true := by
    intro c hc
    rw [List.mem_flatMap] at hc
    obtain ⟨c', -, hc⟩ := hc
    simp only [List.mem_cons, List.not_mem_nil, or_false] at hc
    obtain rfl | rfl := hc
    · exact isHex_hexDigit _
    · exact isHex_hexDigit _
  have htake : ∀ (chars : List Char) (count : Nat), (∀ c ∈ chars, isHex c = true) →
      (chars.takeD count '0').all isHex = true := by
    intro chars count
    induction count generalizing chars with
    | zero => intro _; rfl
    | succ count ih =>
        intro hchars
        cases chars with
        | nil =>
            rw [List.takeD_succ, List.all_cons, Bool.and_eq_true]
            exact ⟨by decide, ih _ (by simp)⟩
        | cons c chars =>
            rw [List.takeD_succ, List.all_cons, Bool.and_eq_true]
            exact ⟨hchars c List.mem_cons_self,
              ih _ fun c' hc' => hchars c' (List.mem_cons_of_mem c hc')⟩
  unfold isDigest exampleHash
  rw [String.toList_ofList, htake _ _ hall, Bool.and_true, decide_eq_true_eq,
    String.length_ofList, List.takeD_length]

/-- A request whose records are hashed by one of their texts. -/
def Setting.example : Setting where
  customerId := "customer-1"
  requestId := "request-1"
  fold c := [c.toLower]
  fold_ascii _ _ := rfl
  sha256 := exampleHash
  isDigest_sha256 := isDigest_exampleHash
  requestText := (·.productName)
  draftText := (·.primaryUserJourney)
  requirementsApprovalText := (·.requirementsDigest)
  prdText := (·.title)
  criteriaText := (·.sourcePrdDigest)
  prdApprovalText := (·.prdDigest)
  roadmapText := (·.generationProfile)
  roadmapApprovalText := (·.roadmapDigest)
  estimateText := (·.title)

/-! ## Records that are written once -/

/-- The stores that keep one record of a request. -/
inductive Record where
  | requirementsApproval
  | prd
  | criteria
  | prdApproval
  | roadmap
  | roadmapApproval
  | estimate
deriving DecidableEq

/-- What a store keeps. -/
abbrev Record.Content : Record → Type
  | .requirementsApproval => CustomerRequirementsApproval
  | .prd => CustomerPrdDraft
  | .criteria => CustomerPrdCriteriaRefinement
  | .prdApproval => CustomerPrdApproval
  | .roadmap => CustomerRoadmapDraft
  | .roadmapApproval => CustomerRoadmapApproval
  | .estimate => CustomerDeliveryEstimateDraft

instance (record : Record) : DecidableEq record.Content := by
  cases record <;> exact inferInstance

/-- What the identity function of a store says of a request that has no safe identifier. -/
def Record.unsafeRequest : Record → Error
  | .requirementsApproval => .value "Requirements request ID is invalid"
  | .prd => .value "Customer PRD request ID is invalid"
  | .criteria => .value "Customer PRD criteria request ID is invalid"
  | .prdApproval => .value "Customer PRD approval request ID is invalid"
  | .roadmap => .value "Customer roadmap request ID is invalid"
  | .roadmapApproval => .value "Customer roadmap approval request ID is invalid"
  | .estimate => .value "estimate request ID is invalid"

/-- What `load` says when there is no file. -/
def Record.notFound : Record → Error
  | .requirementsApproval => ⟨.requirementsApprovalNotFound, "Requirements are not approved"⟩
  | .prd => ⟨.customerPrdNotFound, "Customer PRD draft does not exist"⟩
  | .criteria =>
      ⟨.customerPrdCriteriaNotFound, "Customer PRD criteria baseline does not exist"⟩
  | .prdApproval => ⟨.customerPrdApprovalNotFound, "Customer PRD approval does not exist"⟩
  | .roadmap => ⟨.customerRoadmapNotFound, "Customer roadmap draft does not exist"⟩
  | .roadmapApproval =>
      ⟨.customerRoadmapApprovalNotFound, "Customer roadmap approval does not exist"⟩
  | .estimate =>
      ⟨.customerDeliveryEstimateNotFound, "Customer delivery-estimate draft does not exist"⟩

/-- What `load` says of a file that holds no record of the request. -/
def Record.corrupt : Record → Error
  | .requirementsApproval =>
      ⟨.requirementsApprovalCorrupt, "Requirements approval is corrupt"⟩
  | .prd => ⟨.customerPrdCorrupt, "Customer PRD authority is corrupt"⟩
  | .criteria => ⟨.customerPrdCriteriaCorrupt, "Customer PRD criteria authority is corrupt"⟩
  | .prdApproval => ⟨.customerPrdApprovalCorrupt, "Customer PRD approval authority is corrupt"⟩
  | .roadmap => ⟨.customerRoadmapCorrupt, "Customer roadmap authority is corrupt"⟩
  | .roadmapApproval =>
      ⟨.customerRoadmapApprovalCorrupt, "Customer roadmap approval authority is corrupt"⟩
  | .estimate =>
      ⟨.customerDeliveryEstimateCorrupt, "Customer delivery-estimate authority is corrupt"⟩

/-- What `save` says when there is another record. -/
def Record.conflict : Record → Error
  | .requirementsApproval =>
    ⟨.requirementsApprovalConflict, "Requirements are already approved"⟩
  | .prd => ⟨.customerPrdConflict, "A different customer PRD draft already exists"⟩
  | .criteria =>
    ⟨.customerPrdCriteriaConflict,
      "A different customer PRD criteria baseline already exists"⟩
  | .prdApproval =>
    ⟨.customerPrdApprovalConflict, "A different customer PRD approval already exists"⟩
  | .roadmap =>
    ⟨.customerRoadmapConflict, "A different customer roadmap draft already exists"⟩
  | .roadmapApproval =>
    ⟨.customerRoadmapApprovalConflict,
      "A different customer roadmap approval already exists"⟩
  | .estimate =>
    ⟨.customerDeliveryEstimateConflict,
      "A different customer delivery-estimate draft already exists"⟩

/-- The identities that `load` compares. -/
def Record.binds : (record : Record) → record.Content → Bool
  | .requirementsApproval, value =>
    value.customerId = setting.customerId && value.requestId = setting.requestId &&
      value.approvalId = setting.approvalId
  | .prd, value =>
    value.customerId = setting.customerId && value.requestId = setting.requestId &&
      value.artifactId = setting.artifactId && value.productId = setting.productId &&
        value.prdId = setting.prdId
  | .criteria, value =>
    value.customerId = setting.customerId && value.requestId = setting.requestId &&
      value.refinementId = setting.criteriaRefinementId
  | .prdApproval, value =>
    value.customerId = setting.customerId && value.requestId = setting.requestId &&
      value.approvalId = setting.prdApprovalId && value.artifactId = setting.artifactId &&
        value.productId = setting.productId && value.prdId = setting.prdId
  | .roadmap, value =>
    value.customerId = setting.customerId && value.requestId = setting.requestId &&
      value.roadmapId = setting.roadmapId && value.productId = setting.productId &&
        value.prdId = setting.prdId && value.prdApprovalId = setting.prdApprovalId
  | .roadmapApproval, value =>
    value.customerId = setting.customerId && value.requestId = setting.requestId &&
      value.approvalId = setting.roadmapApprovalId && value.roadmapId = setting.roadmapId &&
        value.productId = setting.productId && value.prdId = setting.prdId
  | .estimate, value =>
    value.customerId = setting.customerId && value.requestId = setting.requestId &&
      value.estimateId = setting.estimateId && value.roadmapId = setting.roadmapId &&
        value.roadmapApprovalId = setting.roadmapApprovalId &&
          value.productId = setting.productId && value.prdId = setting.prdId

/-! ## The state and its operations -/

/-- The files of the request: the product request, the revisions of the requirements by their
numbers, the records that are written once, and the file next to the roadmap that a
regeneration writes. -/
structure State where
  request : Option CustomerProductRequest
  revisions : List (Nat × Written CustomerRequirementsDraft)
  files : (record : Record) → Option (Written record.Content)
  regenerating : Option (Written CustomerRoadmapDraft)

/-- The single reads and writes. -/
inductive Operation where
  | readRequest
  | listRevisions
  | readRevision (revision : Nat)
  | createRevision (me revision : Nat)
  | writeRevision (me : Nat) (value : CustomerRequirementsDraft)
  | list (record : Record)
  | probe (record : Record)
  | read (record : Record)
  | create (me : Nat) (record : Record)
  | write (me : Nat) (record : Record) (value : record.Content)
  | createRegenerating (me : Nat)
  | writeRegenerating (me : Nat) (value : CustomerRoadmapDraft)
  | replaceRoadmap

def State.revision (s : State) (revision : Nat) : Option (Written CustomerRequirementsDraft) :=
  s.revisions.lookup revision

def State.setFile (s : State) (record : Record) (file : Option (Written record.Content)) :
    State :=
  { s with files := Function.update s.files record file }

/-- What each operation does to the files; a move over the roadmap takes the file next to it
away. -/
def perform : Operation → State → State
  | .createRevision me revision, s =>
    if (s.revision revision).isSome then s
    else { s with revisions := s.revisions ++ [(revision, .begun me)] }
  | .writeRevision me value, s =>
    { s with
      revisions := s.revisions.map fun entry =>
        if entry.1 = value.revision ∧ entry.2 = .begun me then (entry.1, .whole value)
        else entry }
  | .create me record, s => s.setFile record (Written.created me (s.files record))
  | .write me record value, s => s.setFile record (Written.written me value (s.files record))
  | .createRegenerating me, s => { s with regenerating := Written.created me s.regenerating }
  | .writeRegenerating me value, s =>
    { s with regenerating := Written.written me value s.regenerating }
  | .replaceRoadmap, s =>
    match s.regenerating with
    | some file => { s.setFile .roadmap (some file) with regenerating := none }
    | none => s
  | .readRequest, s | .listRevisions, s | .readRevision _, s | .list _, s | .probe _, s
  | .read _, s => s

theorem perform_createRevision (me revision : Nat) (s : State) :
    perform (.createRevision me revision) s =
      if (s.revision revision).isSome then s
      else { s with revisions := s.revisions ++ [(revision, .begun me)] } :=
  rfl

/-- A sequence of operations on the files. -/
abbrev Planning (α : Type) :=
  Script State Operation Error α

/-! ## Records that are written once -/

/-- `_path` of a store: the identities are safe and its directory holds nothing else. -/
def path (record : Record) : Planning Unit :=
  Script.ask (.list record) fun s =>
    if isIdentifier setting.customerId = false ∨ isIdentifier setting.requestId = false then
      .error record.unsafeRequest
    else if record = .roadmap ∧ s.regenerating.isSome = true then
      .error ⟨.customerRoadmapCorrupt, "Customer roadmap directory is not closed"⟩
    else .ok ()

def load (record : Record) : Planning record.Content := do
  path setting record
  Script.ask (.read record) fun s =>
    match s.files record with
    | none => .error record.notFound
    | some (.begun _) => .error record.corrupt
    | some (.whole value) =>
        if record.binds setting value = true then .ok value else .error record.corrupt

def find (record : Record) : Planning (Option record.Content) := do
  path setting record
  let there ← Script.ask (.probe record) fun s => .ok (s.files record).isSome
  if there then
    let value ← load setting record
    pure (some value)
  else
    pure none

def isLocked (record : Record) : Planning Bool := do
  let value ← find setting record
  pure value.isSome

def save (me : Nat) (record : Record) (value : record.Content) : Planning record.Content := do
  path setting record
  let fresh ← Script.ask (.create me record) fun s => .ok (s.files record).isNone
  if fresh then
    Script.act (.write me record value)
    pure value
  else
    let existing ← load setting record
    if existing = value then pure existing else Script.raise record.conflict

/-! ## Product requests and requirements revisions -/

/-- `CustomerProductRequestService.get`. -/
def getRequest : Planning CustomerProductRequest :=
  Script.ask .readRequest fun s =>
    if isIdentifier setting.requestId = false then .error (.value "product request ID is invalid")
    else if isIdentifier setting.customerId = false then
      .error (.value "customer ID is invalid")
    else
      match s.request with
      | none => .error ⟨.productRequestNotFound, "Unknown customer product request"⟩
      | some request => .ok request

/-- `RequirementsDraftCorrupt(message)`. -/
def Error.draftCorrupt (message : String) : Error :=
  ⟨.requirementsDraftCorrupt, message⟩

/-- `RequirementsDraftConflict(message)`. -/
def Error.draftConflict (message : String) : Error :=
  ⟨.requirementsDraftConflict, message⟩

def maxRevisions : Nat :=
  1000

/-- The revisions that `history` finds in the directory.  A directory that is not there holds
none. -/
def listRevisions : Planning (List Nat) :=
  Script.ask .listRevisions fun s =>
    let revisions := (s.revisions.map Prod.fst).insertionSort (· ≤ ·)
    if maxRevisions < revisions.length then
      .error (.draftCorrupt "Requirements history exceeds policy")
    else if revisions ≠ List.range' 1 revisions.length then
      .error (.draftCorrupt "Requirements history is non-contiguous")
    else .ok revisions

/-- `FileCustomerRequirementsStore.load`. -/
def loadRevision (revision : Nat) : Planning CustomerRequirementsDraft :=
  Script.ask (.readRevision revision) fun s =>
    match s.revision revision with
    | none => .error ⟨.requirementsDraftNotFound, "Unknown requirements revision"⟩
    | some (.begun _) => .error (.draftCorrupt "Requirements draft authority is corrupt")
    | some (.whole value) =>
        if value.customerId = setting.customerId ∧ value.requestId = setting.requestId ∧
            value.revision = revision then .ok value
        else .error (.draftCorrupt "Requirements draft authority is corrupt")

/-- The loads of the revisions that were found, one after the other. -/
def loadRevisions : List Nat → Planning (List CustomerRequirementsDraft)
  | [] => pure []
  | revision :: revisions => do
    let value ← loadRevision setting revision
    let values ← loadRevisions revisions
    pure (value :: values)

def history : Planning (List CustomerRequirementsDraft) := do
  let revisions ← listRevisions
  loadRevisions setting revisions

def latest : Planning (Option CustomerRequirementsDraft) := do
  let values ← history setting
  pure values.getLast?

/-- `FileCustomerRequirementsStore.save`. -/
def saveRevision (me : Nat) (value : CustomerRequirementsDraft) :
    Planning CustomerRequirementsDraft := do
  let values ← history setting
  if value.revision ≠ values.length + 1 then
    Script.raise (.draftConflict "Requirements revision is stale")
  else do
    let fresh ← Script.ask (.createRevision me value.revision) fun s =>
      .ok (s.revision value.revision).isNone
    if fresh then
      Script.act (.writeRevision me value)
      pure value
    else
      let existing ← loadRevision setting value.revision
      if existing = value then pure existing
      else Script.raise (.draftConflict "Requirements revision already exists")

end CustomerPlanning
end Ascos
