import Ascos.Library.Program
import Ascos.Requirements.Model

/-!
# The product requirements service

A translation of the operations of `service.py` that write documents, and of
`save_prd` in `persistence.py`.  The store holds one document for each product,
document and version: the file of that version, which a write replaces as a whole.  What
the project registry and the event publisher answer is given with the call.
-/

namespace Ascos
namespace Requirements

open Library Library.Program
open Ascos.Runtime (Timestamp)

/-! ## The store -/

/-- The file of a version: `<product>/prds/<prd>/v<version>.json`. -/
structure Key where
  productId : String
  prdId : String
  version : String
deriving DecidableEq

/-- The file that a document is stored in. -/
def ProductRequirementsDocument.key (prd : ProductRequirementsDocument) : Key :=
  ⟨prd.productId, prd.prdId, prd.version⟩

/-- `ProductRequirementsStore`: the stored documents. -/
abbrev Store := Key → Option ProductRequirementsDocument

/-- An operation on the store, which may raise. -/
abbrev Operation (α : Type) := Program Store Error α

/-- The condition of `_safe_name`: the text is the name of one path component. -/
def isSafeName (value : String) : Bool :=
  value ≠ "" && value ≠ "." && value ≠ ".." && !value.toList.contains '/'

/-- The names of the path of a file are all safe. -/
def Key.isSafe (key : Key) : Bool :=
  isSafeName key.productId && isSafeName key.prdId && isSafeName key.version

def Store.write (store : Store) (prd : ProductRequirementsDocument) : Store :=
  fun key => if key = prd.key then some prd else store key

def savePrd (prd : ProductRequirementsDocument) : Operation Unit := do
  if prd.key.isSafe = true then
    match (← get) prd.key with
    | some existing =>
        if existing = prd then
          pure ()
        else if existing.status = .locked ∧ prd.status ≠ .superseded then
          throw (.value "Locked PRD versions are immutable")
        else
          modify fun store : Store => store.write prd
    | none => modify fun store : Store => store.write prd
  else
    throw (.value "Identifier must be filesystem safe")

/-! ## The values that the operations store -/

variable (casefold : String → String)

def clean (prd : ProductRequirementsDocument) : Except Error Unit :=
  let issues := validatePrd casefold prd
  if issues = [] then pure ()
  else throw (.value ("; ".intercalate (issues.map fun item => item.code ++ ": " ++ item.message)))

/-- The checks of `create_prd`; `registered` is the answer of the project registry, which is
`ok` where there is none. -/
def created (registered : Except Error Unit) (prd : ProductRequirementsDocument) :
    Except Error ProductRequirementsDocument := do
  if prd.status ≠ .draft then
    throw (.value "New PRDs start as DRAFT")
  registered
  clean casefold prd
  pure prd

/-- The value of `_transition`. -/
def transitioned (prd : ProductRequirementsDocument) (target : RequirementStatus)
    (actor reason : String) (now : Timestamp) : Except Error ProductRequirementsDocument := do
  let requirements ← prd.requirements.mapM (transitionRequirement · target actor now)
  let record ← revision prd.version actor target.value reason now
  ProductRequirementsDocument.new
    { prd.toDocumentFields with
      status := target
      requirements
      updatedAt := now
      revisionHistory := prd.revisionHistory ++ [record] }

/-- The value of `approve`. -/
def approved (prd : ProductRequirementsDocument) (approver : String) (now : Timestamp) :
    Except Error ProductRequirementsDocument := do
  if prd.status ≠ .underReview then
    throw (.value "Only reviewed PRDs can be approved")
  let requirements ← prd.requirements.mapM (transitionRequirement · .approved approver now)
  let record ← revision prd.version approver "APPROVED" "Human approval" now
  let value ← ProductRequirementsDocument.new
    { prd.toDocumentFields with
      status := .approved
      approver := some approver
      requirements
      updatedAt := now
      revisionHistory := prd.revisionHistory ++ [record] }
  clean casefold value
  pure value

/-- The value of `lock`. -/
def locked (prd : ProductRequirementsDocument) (approver : String) (now : Timestamp) :
    Except Error ProductRequirementsDocument := do
  if prd.status ≠ .approved ∨ prd.approver ≠ some approver then
    throw (.value "Only the recorded approver can lock an approved PRD")
  let requirements ← prd.requirements.mapM (transitionRequirement · .locked approver now)
  let record ← revision prd.version approver "LOCKED" "Approved requirements frozen" now
  let value ← ProductRequirementsDocument.new
    { prd.toDocumentFields with
      status := .locked
      requirements
      lockedAt := some now
      updatedAt := now
      revisionHistory := prd.revisionHistory ++ [record] }
  clean casefold value
  pure value

/-- The value of `revise`. -/
def revised (prd : ProductRequirementsDocument) (version author reason : String)
    (now : Timestamp) : Except Error ProductRequirementsDocument := do
  if prd.status ≠ .locked ∧ prd.status ≠ .implemented then
    throw (.value "Only governed PRDs can be revised")
  let requirements ← prd.requirements.mapM fun item =>
    ProductRequirement.new
      { item.toRequirementFields with
        version
        status := .draft
        approver := none
        author
        updatedAt := now
        createdAt := now }
  let record ← revision version author "REVISED" reason now
  ProductRequirementsDocument.new
    { prd.toDocumentFields with
      version
      status := .draft
      author
      approver := none
      requirements
      supersedesVersion := some prd.version
      lockedAt := none
      createdAt := now
      updatedAt := now
      revisionHistory := prd.revisionHistory ++ [record] }

/-- The statuses from which `supersede` goes on. -/
def supersedable (status : RequirementStatus) : Bool :=
  status ∈ [.approved, .locked, .implemented]

/-- The value of `supersede`. -/
def superseded (prd : ProductRequirementsDocument) (actor reason : String) (now : Timestamp) :
    Except Error ProductRequirementsDocument := do
  if supersedable prd.status = false then
    throw (.value "PRD cannot be superseded")
  let requirements ← prd.requirements.mapM fun item =>
    ProductRequirement.new
      { item.toRequirementFields with status := .superseded, updatedAt := now }
  let record ← revision prd.version actor "SUPERSEDED" reason now
  ProductRequirementsDocument.new
    { prd.toDocumentFields with
      status := .superseded
      requirements
      updatedAt := now
      revisionHistory := prd.revisionHistory ++ [record] }

/-! ## The operations -/

def raised {α : Type} (value : Except Error α) : Operation α :=
  match value with
  | .ok value => pure value
  | .error error => throw error

/-- `ProductRequirementsService.create_prd`; `published` is the answer of the event
publisher, which is `ok` where there is none. -/
def createPrd (registered published : Except Error Unit) (prd : ProductRequirementsDocument) :
    Operation ProductRequirementsDocument := do
  let value ← raised (created casefold registered prd)
  savePrd value
  raised published
  pure value

def submitForReview (prd : ProductRequirementsDocument) (actor : String) (now : Timestamp) :
    Operation ProductRequirementsDocument := do
  let value ← raised (transitioned prd .underReview actor "Submitted for review" now)
  savePrd value
  pure value

def approve (published : Except Error Unit) (prd : ProductRequirementsDocument)
    (approver : String) (now : Timestamp) : Operation ProductRequirementsDocument := do
  let value ← raised (approved casefold prd approver now)
  savePrd value
  raised published
  pure value

def lock (published : Except Error Unit) (prd : ProductRequirementsDocument)
    (approver : String) (now : Timestamp) : Operation ProductRequirementsDocument := do
  let value ← raised (locked casefold prd approver now)
  savePrd value
  raised published
  pure value

def revise (prd : ProductRequirementsDocument) (version author reason : String)
    (now : Timestamp) : Operation ProductRequirementsDocument := do
  let value ← raised (revised prd version author reason now)
  savePrd value
  pure value

def supersede (prd : ProductRequirementsDocument) (actor reason : String) (now : Timestamp) :
    Operation ProductRequirementsDocument := do
  let value ← raised (superseded prd actor reason now)
  savePrd value
  pure value

/-! ## Calls -/

/-- A call of the service, with what the registry and the publisher answer. -/
inductive Call where
  | createPrd (registered published : Except Error Unit) (prd : ProductRequirementsDocument)
  | submitForReview (prd : ProductRequirementsDocument) (actor : String) (now : Timestamp)
  | approve (published : Except Error Unit) (prd : ProductRequirementsDocument)
      (approver : String) (now : Timestamp)
  | lock (published : Except Error Unit) (prd : ProductRequirementsDocument)
      (approver : String) (now : Timestamp)
  | revise (prd : ProductRequirementsDocument) (version author reason : String)
      (now : Timestamp)
  | supersede (prd : ProductRequirementsDocument) (actor reason : String) (now : Timestamp)

def Call.operation : Call → Operation ProductRequirementsDocument
  | .createPrd registered published prd => Requirements.createPrd casefold registered published prd
  | .submitForReview prd actor now => Requirements.submitForReview prd actor now
  | .approve published prd approver now => Requirements.approve casefold published prd approver now
  | .lock published prd approver now => Requirements.lock casefold published prd approver now
  | .revise prd version author reason now => Requirements.revise prd version author reason now
  | .supersede prd actor reason now => Requirements.supersede prd actor reason now

/-- The store after a call, whether it returns or raises. -/
def Call.perform (store : Store) (call : Call) : Store :=
  (exec (call.operation casefold) store).2

/-- The value that a call stores, if its checks pass. -/
def Call.value : Call → Except Error ProductRequirementsDocument
  | .createPrd registered _ prd => created casefold registered prd
  | .submitForReview prd actor now =>
      transitioned prd .underReview actor "Submitted for review" now
  | .approve _ prd approver now => approved casefold prd approver now
  | .lock _ prd approver now => locked casefold prd approver now
  | .revise prd version author reason now => revised prd version author reason now
  | .supersede prd actor reason now => superseded prd actor reason now

/-! ## What the operations do to the store -/

section Runs

variable {casefold} {store : Store}

def Store.saved (store : Store) (prd : ProductRequirementsDocument) : Store :=
  if prd.key.isSafe = true ∧ ∀ existing ∈ store prd.key,
      existing.status = .locked → prd.status = .superseded then store.write prd
  else store

theorem Store.write_self {prd : ProductRequirementsDocument} (hstored : store prd.key = some prd) :
    store.write prd = store := by
  funext key
  unfold write
  split
  · rename_i hkey
    rw [hkey, hstored]
  · rfl

theorem exec_savePrd (store : Store) (prd : ProductRequirementsDocument) :
    (exec (savePrd prd) store).2 = store.saved prd := by
  unfold savePrd Store.saved
  by_cases hsafe : prd.key.isSafe = true
  · cases hstored : store prd.key with
    | none => simp [hsafe, hstored]
    | some existing =>
        by_cases hsame : existing = prd
        · subst hsame
          simp [hsafe, hstored, Store.write_self hstored]
        · by_cases hlocked : existing.status = .locked
          · by_cases hsuperseded : prd.status = .superseded
            · simp [hsafe, hstored, hsame, hsuperseded]
            · simp [hsafe, hstored, hsame, hlocked, hsuperseded]
          · simp [hsafe, hstored, hsame, hlocked]
  · simp [hsafe]

/-- An operation saves the value that its checks let through; the answer of the publisher
comes too late to change the store. -/
theorem exec_store (value : Except Error ProductRequirementsDocument)
    (published : Except Error Unit) :
    (exec (do
      let value ← raised value
      savePrd value
      raised published
      pure value) store).2 =
      match value with
      | .ok prd => store.saved prd
      | .error _ => store := by
  cases value with
  | error error => rfl
  | ok prd =>
    have hsaved := exec_savePrd store prd
    rcases hexec : exec (savePrd prd) store with ⟨outcome, after⟩
    rw [hexec] at hsaved
    cases published <;> cases outcome <;> simp [raised, hexec, ← hsaved]

theorem Call.perform_eq (store : Store) (call : Call) :
    call.perform casefold store =
      match call.value casefold with
      | .ok prd => store.saved prd
      | .error _ => store := by
  cases call with
  | createPrd registered published prd => exact exec_store _ published
  | submitForReview prd actor now => exact exec_store _ (.ok ())
  | approve published prd approver now => exact exec_store _ published
  | lock published prd approver now => exact exec_store _ published
  | revise prd version author reason now => exact exec_store _ (.ok ())
  | supersede prd actor reason now => exact exec_store _ (.ok ())

end Runs

end Requirements
end Ascos
