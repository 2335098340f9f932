import Ascos.GitHubDelivery.Service
import Ascos.ProductPilot.PilotRecords

/-!
# The stores of the pilot chain

The stores that the services of the chain share.  The artifacts of previews, acceptances and
pilots are kept in three file stores of one form; deliveries are kept by the delivery service;
what the stores of other components answer is arbitrary and may change at any time.
-/

namespace Ascos
namespace ProductPilot

open Ascos.GitHubDelivery (Error ErrorClass Key GitHubDeliveryArtifact isPathPart)
open Ascos.CustomerPlanning (CustomerProductRequest CustomerPrdDraft CustomerPrdApproval
  CustomerRoadmapDraft CustomerRoadmapApproval)
open Ascos.CustomerAcceptance (BrowserJourneyPlan)
open Ascos.Library
open Ascos.Library.Procedure

/-! ## The world -/

/-- What the stores of other components answer. -/
structure Archive where
  devops : Key → Except Error DevOpsWorkArtifact
  configurations : String → String → Nat → Except Error ManagedProductRuntimeConfiguration
  plans : String → String → String → Except Error BrowserJourneyPlan
  requests : String → String → Except Error CustomerProductRequest
  prds : String → String → Except Error CustomerPrdDraft
  prdApprovals : String → String → Except Error CustomerPrdApproval
  roadmaps : String → String → Except Error CustomerRoadmapDraft
  roadmapApprovals : String → String → Except Error CustomerRoadmapApproval

/-- What others keep at a time: the records of other components and the deliveries. -/
structure Sources where
  archive : Archive
  deliveries : Table Key GitHubDeliveryArtifact

/-- The state of the delivery service, the stores, and what others have kept before. -/
structure World where
  delivery : GitHubDelivery.World
  archive : Archive
  previews : Table Key PreviewDeploymentArtifact
  acceptances : Table Key CompleteRuntimeAcceptanceArtifact
  pilots : Table Key EndToEndProductPilotArtifact
  past : List Sources

/-- What others keep now. -/
def World.sources (world : World) : Sources :=
  ⟨world.archive, world.delivery.artifacts⟩

/-- What others keep or have kept. -/
def World.known (world : World) : List Sources :=
  world.sources :: world.past

/-- What the services are built with. -/
structure Environment where
  delivery : GitHubDelivery.Environment
  setting : Setting

/-- The calls of the services. -/
abbrev Piloting (α : Type) :=
  Procedure World Error α

/-- The raise of an exception. -/
def fail {α : Type} (errorClass : ErrorClass) (message : String) : Piloting α :=
  Procedure.raise ⟨errorClass, message⟩

/-- A look at what others keep. -/
def consult {α : Type} (answer : Archive → Except Error α) : Piloting α :=
  Procedure.query fun world => answer world.archive

/-- `FileGitHubDeliveryArtifactStore.load`. -/
def loadDelivery (key : Key) : Piloting GitHubDeliveryArtifact := do
  Procedure.ofExcept (GitHubDelivery.executionDirectory key)
  Procedure.query fun world =>
    match world.delivery.artifacts.load key with
    | none => .error ⟨.notFound, "GitHub delivery artifact was not found"⟩
    | some artifact =>
        if artifact.key = key then .ok artifact
        else .error ⟨.corrupt, "GitHub delivery artifact is corrupt"⟩

/-! ## Artifact stores -/

/-- A store of artifacts by tenant and execution, with the texts of its errors. -/
structure ArtifactStore (α : Type) where
  table : World → Table Key α
  write : Table Key α → World → World
  key : α → Key
  envelope : α → String
  limit : Nat
  entity : String
  missing : String
  corrupt : String

namespace ArtifactStore

variable {α : Type} (store : ArtifactStore α)

def executionDirectory (key : Key) : Except Error Unit :=
  if isPathPart key.tenantId = false then
    throw ⟨.corrupt, store.entity ++ " tenant path is invalid"⟩
  else if isPathPart key.executionId = false then
    throw ⟨.corrupt, store.entity ++ " execution path is invalid"⟩
  else pure ()

def put (artifact : α) (world : World) : World :=
  store.write ((store.table world).save (store.key artifact) artifact) world

def load (key : Key) : Piloting α := do
  Procedure.ofExcept (store.executionDirectory key)
  Procedure.query fun world =>
    match (store.table world).load key with
    | none => .error ⟨.notFound, store.missing⟩
    | some artifact =>
        if store.key artifact = key then .ok artifact else .error ⟨.corrupt, store.corrupt⟩

/-- `_existing`. -/
def find (key : Key) : Piloting (Option α) :=
  (store.load key >>= fun artifact => pure (some artifact)).handle fun error =>
    if error.errorClass = .notFound then pure none else .raise error

def save [DecidableEq α] (artifact : α) : Piloting α := do
  Procedure.ofExcept (store.executionDirectory (store.key artifact))
  if store.limit < (store.envelope artifact).utf8ByteSize then
    fail .conflict (store.entity ++ " artifact exceeds storage limit")
  else
    let present ← Procedure.query fun world =>
      .ok ((store.table world).load (store.key artifact)).isSome
    if present = true then
      let existing ← store.load (store.key artifact)
      if existing ≠ artifact then
        fail .conflict (store.entity ++ " execution already has a different artifact")
      else pure existing
    else
      Procedure.modify (store.put artifact)
      pure artifact

end ArtifactStore

variable (setting : Setting)

/-- `FilePreviewDeploymentArtifactStore`. -/
def previewStore : ArtifactStore PreviewDeploymentArtifact where
  table := (·.previews)
  write previews world := { world with previews := previews }
  key artifact := ⟨artifact.tenantId, artifact.executionId⟩
  envelope := setting.preview.envelopeText
  limit := 256000
  entity := "Preview"
  missing := "Preview deployment artifact was not found"
  corrupt := "Preview deployment artifact is corrupt"

/-- `FileCompleteRuntimeAcceptanceArtifactStore`. -/
def acceptanceStore : ArtifactStore CompleteRuntimeAcceptanceArtifact where
  table := (·.acceptances)
  write acceptances world := { world with acceptances := acceptances }
  key artifact := ⟨artifact.tenantId, artifact.executionId⟩
  envelope := setting.acceptance.envelopeText
  limit := 512000
  entity := "Runtime-acceptance"
  missing := "Runtime-acceptance artifact was not found"
  corrupt := "Complete runtime-acceptance artifact is corrupt"

/-- `FileEndToEndProductPilotArtifactStore`. -/
def pilotStore : ArtifactStore EndToEndProductPilotArtifact where
  table := (·.pilots)
  write pilots world := { world with pilots := pilots }
  key artifact := ⟨artifact.tenantId, artifact.executionId⟩
  envelope := setting.envelopeText
  limit := 512000
  entity := "Product-pilot"
  missing := "Product-pilot artifact was not found"
  corrupt := "Product-pilot artifact is corrupt"

/-! ## What loading and saving do -/

section Laws

variable {α : Type} {store : ArtifactStore α} {key : Key} {artifact : α}
  {world : World} {guarantee : World → World → Prop} {Q : α → World → Prop}
  {E : Error → World → Prop}

theorem obeys_consult {answer : Archive → Except Error α} :
    Obeys guarantee (consult answer) world Q E ↔ guarantee world world ∧
      (∀ value, answer world.archive = .ok value → Q value world) ∧
        ∀ e, answer world.archive = .error e → E e world := by
  unfold consult
  rw [obeys_query, obeys_ofExcept]

theorem obeys_loadDelivery {Q : GitHubDeliveryArtifact → World → Prop}
    (hidle : guarantee world world)
    (hQ : ∀ stored, world.delivery.artifacts.load key = some stored → Q stored world)
    (hE : ∀ e, E e world) : Obeys guarantee (loadDelivery key) world Q E := by
  unfold loadDelivery
  rw [obeys_bind, obeys_ofExcept]
  refine ⟨fun _ _ => ?_, fun e _ => hE e⟩
  rw [obeys_query, obeys_ofExcept]
  refine ⟨hidle, fun stored hstored => ?_, fun e _ => hE e⟩
  cases hfound : world.delivery.artifacts.load key with
  | none =>
    rw [hfound] at hstored
    cases hstored
  | some found =>
    simp only [hfound] at hstored
    by_cases hkey : found.key = key
    · rw [if_pos hkey] at hstored
      cases hstored
      exact hQ _ hfound
    · rw [if_neg hkey] at hstored
      cases hstored

namespace ArtifactStore

/-- An artifact that is loaded is stored. -/
theorem obeys_load (hidle : guarantee world world)
    (hQ : ∀ stored, (store.table world).load key = some stored → Q stored world)
    (hE : ∀ e, E e world) : Obeys guarantee (store.load key) world Q E := by
  unfold load
  rw [obeys_bind, obeys_ofExcept]
  refine ⟨fun _ _ => ?_, fun e _ => hE e⟩
  rw [obeys_query, obeys_ofExcept]
  refine ⟨hidle, fun stored hstored => ?_, fun e _ => hE e⟩
  cases hfound : (store.table world).load key with
  | none =>
    rw [hfound] at hstored
    cases hstored
  | some found =>
    simp only [hfound] at hstored
    by_cases hkey : store.key found = key
    · rw [if_pos hkey] at hstored
      cases hstored
      exact hQ _ hfound
    · rw [if_neg hkey] at hstored
      cases hstored

/-- What is found is stored. -/
theorem obeys_find {Q : Option α → World → Prop} (hidle : guarantee world world)
    (hsome : ∀ stored, (store.table world).load key = some stored → Q (some stored) world)
    (hnone : Q none world) (hE : ∀ e, E e world) :
    Obeys guarantee (store.find key) world Q E := by
  unfold find
  rw [obeys_handle, obeys_bind]
  apply obeys_load hidle
  · exact hsome
  · intro e
    rw [obeys_ite]
    exact ⟨fun _ => hnone, fun _ => hE e⟩

/-- An artifact is saved where there is none, or is there already. -/
theorem obeys_save [DecidableEq α] (hidle : guarantee world world)
    (hput : (store.table world).load (store.key artifact) = none →
      store.executionDirectory (store.key artifact) = .ok () →
        guarantee world (store.put artifact world) ∧ Q artifact (store.put artifact world))
    (hsame : (store.table world).load (store.key artifact) = some artifact → Q artifact world)
    (hE : ∀ e, E e world) : Obeys guarantee (store.save artifact) world Q E := by
  unfold save
  rw [obeys_bind, obeys_ofExcept]
  refine ⟨fun _ hdirectory => ?_, fun e _ => hE e⟩
  rw [obeys_ite]
  refine ⟨fun _ => hE _, fun _ => ?_⟩
  rw [obeys_bind, obeys_query, obeys_ok, obeys_ite]
  refine ⟨hidle, fun _ => ?_, fun hfree => ?_⟩
  · rw [obeys_bind]
    apply obeys_load hidle ?_ hE
    intro stored hstored
    rw [obeys_ite]
    refine ⟨fun _ => hE _, fun hne => ?_⟩
    rw [not_not] at hne
    subst hne
    exact hsame hstored
  · rw [obeys_bind, obeys_modify, obeys_pure]
    rw [Bool.not_eq_true, Option.isSome_eq_false_iff, Option.isNone_iff_eq_none] at hfree
    exact hput hfree hdirectory

theorem obeys_find_stored {Q : Option α → World → Prop} (hidle : guarantee world world)
    (hdirectory : store.executionDirectory key = .ok ())
    (hstored : (store.table world).load key = some artifact) (hkey : store.key artifact = key)
    (hQ : Q (some artifact) world) : Obeys guarantee (store.find key) world Q E := by
  unfold find load
  rw [obeys_handle, obeys_bind, obeys_bind, hdirectory, obeys_ok, obeys_query]
  simp only [hstored, hkey, if_true, obeys_ok, obeys_pure]
  exact ⟨hidle, hQ⟩

end ArtifactStore

end Laws

end ProductPilot
end Ascos
