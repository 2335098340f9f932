import Ascos.Runtime.Model
import Mathlib.Data.List.Dedup
import Mathlib.Data.List.Sort

/-!
# Runtime acceptance runs

The records of `runtime/runtime_acceptance/models.py` that a run is made of, the checks
of the constructor of a run, the digest of its evidence, and `lifecycle.py`.  The
payloads that the code encodes as JSON before it digests them are records here, and the
functions of `Digests` stand for encoding and SHA-256 together.
-/

namespace Ascos
namespace Acceptance

open Ascos.Runtime (Timestamp isBlank)

/-! ## Errors and texts -/

/-- The exception classes that the operations raise, and any class of other code. -/
inductive ErrorClass where
  | runtimeAcceptanceError
  | valueError
  | other (name : String)
deriving DecidableEq

/-- A raised exception with its message. -/
structure Error where
  errorClass : ErrorClass
  message : String
deriving DecidableEq

/-- `ValueError(message)`. -/
def Error.value (message : String) : Error :=
  ⟨.valueError, message⟩

/-- `RuntimeAcceptanceError(message)`. -/
def Error.acceptance (message : String) : Error :=
  ⟨.runtimeAcceptanceError, message⟩

def text (value label : String) : Except Error Unit :=
  if isBlank value = true ∨ 20000 < value.length ∨
      value.toList.any (fun character => character.toNat < 32 || character.toNat == 127) = true then
    throw (.value (label ++ " is required and bounded"))
  else pure ()

/-- The characters of `0123456789abcdef`. -/
def isHex (character : Char) : Bool :=
  character ∈ "0123456789abcdef".toList

def sha (value : String) : Except Error Unit :=
  if value.length ≠ 40 ∨ value.toList.all isHex = false then
    throw (.value "Runtime evidence requires a full hexadecimal commit SHA")
  else pure ()

/-- The condition of `_canonical_digest`: 64 lower-case hexadecimal digits. -/
def isHexDigest (value : String) : Bool :=
  value.length == 64 && value.toList.all isHex

/-- The condition of `_digest`, which allows a prefix and upper case. -/
def isDigest (value : String) : Bool :=
  let candidate := ("sha256:".toList.isPrefixOf? value.toList).getD value.toList
  candidate.length == 64 && candidate.all fun character => isHex character.toLower

def digest (value : String) : Except Error Unit :=
  if isDigest value = false then throw (.value "Evidence requires a SHA-256 digest")
  else pure ()

def canonicalDigest (value label : String) : Except Error Unit :=
  if isHexDigest value = false then
    throw (.value (label ++ " requires a lowercase SHA-256 digest"))
  else pure ()

/-- The match of `_IDENTIFIER`. -/
def isIdentifier (value : String) : Bool :=
  match value.toList with
  | [] => false
  | first :: rest =>
    isAsciiAlphanumeric first && decide (rest.length ≤ 127) &&
      rest.all fun character => isAsciiAlphanumeric character || character ∈ ['_', '.', '-']
where
  isAsciiAlphanumeric (character : Char) : Bool :=
    character.isAlphanum

def identifier (value label : String) : Except Error Unit :=
  if isIdentifier value = false then throw (.value (label ++ " must be a safe identifier"))
  else pure ()

def uniqueText (values : List String) (label : String) (allowEmpty : Bool) :
    Except Error Unit :=
  if (values = [] ∧ allowEmpty = false) ∨ ¬values.Nodup then
    throw (.value (label ++ " must be non-empty and unique"))
  else values.forM (text · label)

/-! ## Enumerations -/

inductive AcceptanceStage where
  | planned
  | implemented
  | automatedVerified
  | runtimeVerified
  | humanAcceptanceRequired
  | accepted
  | completed
deriving DecidableEq

def AcceptanceStage.value : AcceptanceStage → String
  | .planned => "PLANNED"
  | .implemented => "IMPLEMENTED"
  | .automatedVerified => "AUTOMATED_VERIFIED"
  | .runtimeVerified => "RUNTIME_VERIFIED"
  | .humanAcceptanceRequired => "HUMAN_ACCEPTANCE_REQUIRED"
  | .accepted => "ACCEPTED"
  | .completed => "COMPLETED"

/-- `TRANSITIONS[stage]`. -/
def AcceptanceStage.transitions : AcceptanceStage → List AcceptanceStage
  | .planned => [.implemented]
  | .implemented => [.automatedVerified]
  | .automatedVerified => [.runtimeVerified]
  | .runtimeVerified => [.humanAcceptanceRequired, .accepted]
  | .humanAcceptanceRequired => [.accepted]
  | .accepted => [.completed]
  | .completed => []

inductive EvidenceOutcome where
  | pass
  | fail
deriving DecidableEq

inductive EvidenceKind where
  | code
  | automatedTest
  | serviceStartup
  | readiness
  | migration
  | browser
  | browserConsole
  | browserNetwork
  | screenshot
  | audioFixture
  | stt
  | llm
  | tts
  | audiblePlayback
  | avatarSynchronization
  | persistence
  | pwa
  | security
  | humanUx
deriving DecidableEq

def EvidenceKind.value : EvidenceKind → String
  | .code => "CODE_EVIDENCE"
  | .automatedTest => "AUTOMATED_TEST_EVIDENCE"
  | .serviceStartup => "SERVICE_STARTUP_EVIDENCE"
  | .readiness => "READINESS_EVIDENCE"
  | .migration => "MIGRATION_EVIDENCE"
  | .browser => "BROWSER_EVIDENCE"
  | .browserConsole => "BROWSER_CONSOLE_EVIDENCE"
  | .browserNetwork => "BROWSER_NETWORK_EVIDENCE"
  | .screenshot => "SCREENSHOT_EVIDENCE"
  | .audioFixture => "AUDIO_FIXTURE_EVIDENCE"
  | .stt => "STT_EVIDENCE"
  | .llm => "LLM_EVIDENCE"
  | .tts => "TTS_EVIDENCE"
  | .audiblePlayback => "AUDIBLE_PLAYBACK_EVIDENCE"
  | .avatarSynchronization => "AVATAR_SYNCHRONIZATION_EVIDENCE"
  | .persistence => "PERSISTENCE_EVIDENCE"
  | .pwa => "PWA_EVIDENCE"
  | .security => "SECURITY_EVIDENCE"
  | .humanUx => "HUMAN_UX_EVIDENCE"

/-! ## Records -/

structure AcceptanceJourney where
  journeyId : String
  capabilityId : String
  title : String
  requiredEvidence : List EvidenceKind
  customerFacing : Bool := true
deriving DecidableEq

structure CapabilityAcceptanceContract where
  capabilityId : String
  version : String
  title : String
  requiredJourneyIds : List String
  requirementIds : List String := []
  locked : Bool := true
  customerFacing : Bool := true
  humanAcceptanceRequired : Bool := false
deriving DecidableEq

structure EvidenceArtifact where
  evidenceId : String
  runId : String
  capabilityId : String
  journeyId : String
  kind : EvidenceKind
  outcome : EvidenceOutcome
  commitSha : String
  artifactUri : String
  digest : String
  observedAt : Timestamp
  summary : String
  metadata : List (String × String) := []
deriving DecidableEq

structure JourneyResult where
  journeyId : String
  outcome : EvidenceOutcome
  evidenceIds : List String
  completedAt : Timestamp
deriving DecidableEq

structure HumanAcceptance where
  capabilityId : String
  reviewer : String
  decision : String
  rationale : String
  commitSha : String
  evidenceDigest : String
  acceptedAt : Timestamp
  evidenceIds : List String
deriving DecidableEq

/-- The fields of `RuntimeAcceptanceRun`. -/
structure RunFields where
  runId : String
  productId : String
  version : String
  commitSha : String
  stage : AcceptanceStage
  capabilities : List CapabilityAcceptanceContract
  journeys : List AcceptanceJourney
  createdAt : Timestamp
  updatedAt : Timestamp
  evidence : List EvidenceArtifact := []
  journeyResults : List JourneyResult := []
  humanAcceptances : List HumanAcceptance := []
  completedAt : Option Timestamp := none
  evidenceDigest : String := ""
  blockers : List String := []
  runtimeConfigurationId : String := ""
  runtimeConfigurationRevision : Int := 0
  runtimeConfigurationDigest : String := ""
  acceptanceProfileId : String := ""
  acceptanceProfileVersion : String := ""
  acceptanceProfileDigest : String := ""
deriving DecidableEq

/-! ## Digests -/

/-- `sorted(values)` of texts. -/
def sortedTexts (values : List String) : List String :=
  values.insertionSort (· ≤ ·)

/-- `sorted(set(values))`. -/
def sortedSet (values : List String) : List String :=
  sortedTexts values.dedup

/-- `sorted(values, key=...)` by a text of each value. -/
def sortedBy {α : Type} (key : α → String) (values : List α) : List α :=
  values.insertionSort fun first second => key first ≤ key second

/-- The payload of `acceptance_contract_digest`: the contract with all of its lists in
order. -/
structure ContractPayload where
  capabilities : List CapabilityAcceptanceContract
  journeys : List AcceptanceJourney
deriving DecidableEq

def capabilitiesPayload (capabilities : List CapabilityAcceptanceContract) :
    List CapabilityAcceptanceContract :=
  (sortedBy (·.capabilityId) capabilities).map fun item =>
    { item with
      requiredJourneyIds := sortedTexts item.requiredJourneyIds
      requirementIds := sortedTexts item.requirementIds }

def journeysPayload (journeys : List AcceptanceJourney) : List AcceptanceJourney :=
  (sortedBy (·.journeyId) journeys).map fun item =>
    { item with requiredEvidence := sortedBy EvidenceKind.value item.requiredEvidence }

/-- The payload of `acceptance_profile_digest`. -/
structure ProfilePayload where
  profileId : String
  profileVersion : String
  contractDigest : String
deriving DecidableEq

/-- The `runtime_configuration` part of the payload of `evidence_digest`. -/
structure ConfigurationPayload where
  id : String
  revision : Int
  digest : String
  acceptanceProfileId : String
  acceptanceProfileVersion : String
  acceptanceProfileDigest : String
deriving DecidableEq

/-- The payload of `evidence_digest`. -/
structure EvidencePayload where
  runId : String
  productId : String
  version : String
  commitSha : String
  capabilities : List CapabilityAcceptanceContract
  journeys : List AcceptanceJourney
  journeyResults : List JourneyResult
  evidence : List EvidenceArtifact
  runtimeConfiguration : Option ConfigurationPayload
deriving DecidableEq

/-- The SHA-256 hexadecimal digests of the encoded payloads. -/
structure Digests where
  contract : ContractPayload → String
  profile : ProfilePayload → String
  evidence : EvidencePayload → String
  /-- A digest has 64 lower-case hexadecimal digits. -/
  evidence_hex : ∀ payload, isHexDigest (evidence payload) = true

/-- The payload that `evidence_digest` makes of a run. -/
def RunFields.payload (run : RunFields) : EvidencePayload where
  runId := run.runId
  productId := run.productId
  version := run.version
  commitSha := run.commitSha
  capabilities := capabilitiesPayload run.capabilities
  journeys := journeysPayload run.journeys
  journeyResults := (sortedBy (·.journeyId) run.journeyResults).map fun item =>
    { item with evidenceIds := sortedTexts item.evidenceIds }
  -- the payload of an artifact leaves out the run that it names
  evidence := (sortedBy (·.evidenceId) run.evidence).map fun item =>
    { item with
      runId := ""
      metadata := item.metadata.insertionSort fun first second =>
        first.1 < second.1 ∨ (first.1 = second.1 ∧ first.2 ≤ second.2) }
  runtimeConfiguration :=
    if run.runtimeConfigurationId = "" then none
    else some
      { id := run.runtimeConfigurationId
        revision := run.runtimeConfigurationRevision
        digest := run.runtimeConfigurationDigest
        acceptanceProfileId := run.acceptanceProfileId
        acceptanceProfileVersion := run.acceptanceProfileVersion
        acceptanceProfileDigest := run.acceptanceProfileDigest }

variable (D : Digests)

def evidenceDigest (run : RunFields) : String :=
  D.evidence run.payload

def acceptanceProfileDigest (profileId profileVersion : String)
    (capabilities : List CapabilityAcceptanceContract) (journeys : List AcceptanceJourney) :
    Except Error String := do
  identifier profileId "acceptance profile ID"
  text profileVersion "acceptance profile version"
  pure (D.profile
    { profileId, profileVersion
      contractDigest := D.contract ⟨capabilitiesPayload capabilities, journeysPayload journeys⟩ })

/-! ## Runs -/

/-- The checks of `RuntimeAcceptanceRun.__post_init__` on the configuration binding. -/
def RunFields.bindingChecks (run : RunFields) : Except Error Unit := do
  if run.runtimeConfigurationId ≠ "" ∨ run.runtimeConfigurationRevision ≠ 0 ∨
      run.runtimeConfigurationDigest ≠ "" ∨ run.acceptanceProfileId ≠ "" ∨
      run.acceptanceProfileVersion ≠ "" ∨ run.acceptanceProfileDigest ≠ "" then
    if run.runtimeConfigurationId = "" ∨ run.runtimeConfigurationRevision = 0 ∨
        run.runtimeConfigurationDigest = "" ∨ run.acceptanceProfileId = "" ∨
        run.acceptanceProfileVersion = "" ∨ run.acceptanceProfileDigest = "" then
      throw (.value "Runtime acceptance configuration binding must be complete")
    identifier run.runtimeConfigurationId "runtime configuration ID"
    if run.runtimeConfigurationRevision < 1 then
      throw (.value "Runtime configuration revision must be positive")
    canonicalDigest run.runtimeConfigurationDigest "runtime configuration digest"
    identifier run.acceptanceProfileId "acceptance profile ID"
    text run.acceptanceProfileVersion "acceptance profile version"
    canonicalDigest run.acceptanceProfileDigest "acceptance profile digest"
    let expectedProfile ← Acceptance.acceptanceProfileDigest D run.acceptanceProfileId
      run.acceptanceProfileVersion run.capabilities run.journeys
    if run.acceptanceProfileDigest ≠ expectedProfile then
      throw (.value "Runtime acceptance profile digest does not match its locked contract")

/-- The checks of `RuntimeAcceptanceRun.__post_init__` on what identifies the run and on its
lists. -/
def RunFields.contentChecks (run : RunFields) : Except Error Unit := do
  if run.capabilities = [] then
    throw (.value "Runtime acceptance requires capabilities")
  uniqueText (run.capabilities.map (·.capabilityId)) "capability IDs" false
  uniqueText (run.journeys.map (·.journeyId)) "journey IDs" false
  uniqueText (run.evidence.map (·.evidenceId)) "evidence IDs" true
  uniqueText (run.journeyResults.map (·.journeyId)) "journey result IDs" true
  run.bindingChecks D

/-- The checks of `RuntimeAcceptanceRun.__post_init__` on the times. -/
def RunFields.timeChecks (run : RunFields) : Except Error Unit := do
  if run.updatedAt < run.createdAt then
    throw (.value "updated_at cannot precede created_at")
  if run.stage = .completed then
    if run.completedAt = none ∨ run.completedAt ≠ some run.updatedAt then
      throw (.value "Completed acceptance requires its exact completion time")
  else if run.completedAt ≠ none then
    throw (.value "Only completed acceptance may have completed_at")

def RunFields.postInit (run : RunFields) : Except Error Unit := do
  text run.runId "run ID"
  text run.productId "product ID"
  text run.version "acceptance version"
  sha run.commitSha
  run.timeChecks
  run.contentChecks D
  if run.evidenceDigest ≠ "" then
    digest run.evidenceDigest
    if run.evidenceDigest ≠ Acceptance.evidenceDigest D run then
      throw (.value "Stored runtime evidence digest does not match the run")

structure RuntimeAcceptanceRun extends RunFields where
  checked : toRunFields.postInit D = .ok ()
deriving DecidableEq

/-- The constructor of `RuntimeAcceptanceRun`, which `replace` calls again. -/
def RuntimeAcceptanceRun.new (fields : RunFields) : Except Error (RuntimeAcceptanceRun D) :=
  match h : fields.postInit D with
  | .ok () => .ok ⟨fields, h⟩
  | .error error => .error error

def transition (run : RuntimeAcceptanceRun D) (target : AcceptanceStage) (now : Timestamp) :
    Except Error (RuntimeAcceptanceRun D) :=
  if target ∈ run.stage.transitions then
    RuntimeAcceptanceRun.new D
      { run.toRunFields with
        stage := target
        updatedAt := now
        completedAt := if target = .completed then some now else run.completedAt }
  else
    throw (.value ("Invalid runtime acceptance transition: " ++ run.stage.value ++ " -> " ++
      target.value))

end Acceptance
end Ascos
