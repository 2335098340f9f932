import Ascos.Acceptance.Model
import Ascos.Library.Checks
import Mathlib

/-!
# Browser results and their stores

`BrowserExecutionResult` of `runtime/managed_product_browser/models.py`, and the two
stores of `persistence.py` that a browser execution writes: evidence under the digest of its
content, and one result for each plan.
-/

namespace Ascos
namespace ManagedProduct

open Library Acceptance
open Ascos.Runtime (Timestamp)

/-! ## Results -/

/-- `BrowserAuthorityError(message)`. -/
def authorityError (message : String) : Error :=
  ⟨.other "BrowserAuthorityError", message⟩

/-- `BrowserArtifactError(message)`. -/
def artifactError (message : String) : Error :=
  ⟨.other "BrowserArtifactError", message⟩

inductive BrowserExecutionStage where
  | completed
  | failed
  | reconciliationRequired
deriving DecidableEq

def BrowserExecutionStage.value : BrowserExecutionStage → String
  | .completed => "COMPLETED"
  | .failed => "FAILED"
  | .reconciliationRequired => "RECONCILIATION_REQUIRED"

/-- The fields of `BrowserExecutionResult`. -/
structure ResultFields where
  runId : String
  productId : String
  planId : String
  planDigest : String
  commitSha : String
  stage : BrowserExecutionStage
  evidence : List EvidenceArtifact
  journeyResults : List JourneyResult
  startedAt : Timestamp
  completedAt : Timestamp
  failureCode : Option String := none
deriving DecidableEq

inductive ObservationKind where
  | source
  | migration
  | serviceStartup
  | readiness
  | serviceStop
  | cleanup
deriving DecidableEq

structure EnvironmentObservation where
  kind : ObservationKind
  subjectId : String
  outcome : EvidenceOutcome
  startedAt : Timestamp
  completedAt : Timestamp
  summary : String
  outputDigest : String
  exitCode : Option Int := none

/-- The functions of the standard library that an execution uses: `str.casefold`, SHA-256 in
hexadecimal digits, the digest of the JSON text of a result, the JSON text of an observation, the
test of a content for an extension, the parts of the path of an artifact URI, and the origin of a
URL. -/
structure BrowserSetting where
  casefold : String → String
  sha256 : List UInt8 → String
  resultDigest : ResultFields → String
  observationJson : EnvironmentObservation → String → List UInt8
  hasFormat : String → List UInt8 → Bool
  artifactParts : String → Option (List String)
  endpointOrigin : String → String
  maximumBytes : Nat
  sha256_hex : ∀ content, isHexDigest (sha256 content) = true
  artifactParts_uri : ∀ product run filename, isIdentifier product = true →
    isIdentifier run = true → (∀ c ∈ filename.toList, c.isAlphanum = true ∨ c = '.') →
      artifactParts ("artifact://browser/" ++ product ++ "/" ++ run ++ "/" ++ filename) =
        some [product, run, filename]

section Results

variable (setting : BrowserSetting)

/-- What the key of a metadata entry may not contain. -/
def prohibitedMarkers : List String :=
  ["authorization", "api_key", "password", "secret", "session_cookie", "access_token",
    "refresh_token"]

/-- `EvidenceArtifact.__post_init__`. -/
def evidencePostInit (item : EvidenceArtifact) : Except Error Unit := do
  text item.evidenceId "evidence ID"
  text item.runId "run ID"
  text item.capabilityId "capability ID"
  text item.journeyId "journey ID"
  text item.artifactUri "artifact URI"
  text item.summary "evidence summary"
  sha item.commitSha
  digest item.digest
  if ¬(item.metadata.map Prod.fst).Nodup then
    throw (.value "Evidence metadata keys must be unique")
  item.metadata.forM fun entry => do
    text entry.1 "evidence metadata key"
    text entry.2 "evidence metadata value"
    let normalized := (setting.casefold entry.1).toList.map fun c => if c = '-' then '_' else c
    if prohibitedMarkers.any (fun marker => normalized.tails.any fun rest =>
        marker.toList.isPrefixOf rest) = true then
      throw (.value "Secret-bearing evidence metadata is prohibited")

/-- `JourneyResult.__post_init__`. -/
def journeyPostInit (item : JourneyResult) : Except Error Unit := do
  text item.journeyId "journey ID"
  uniqueText item.evidenceIds "evidence IDs" false

/-- `_sha` of the models of the browser. -/
def browserSha (value label : String) : Except Error Unit :=
  if value.length ≠ 40 ∨ value.toList.all isHex = false then
    throw (.value (label ++ " requires a lowercase full commit SHA"))
  else pure ()

/-- `BrowserExecutionResult.__post_init__`, after the constructors of the items. -/
def ResultFields.postInit (result : ResultFields) : Except Error Unit := do
  result.evidence.forM (evidencePostInit setting)
  result.journeyResults.forM journeyPostInit
  identifier result.runId "browser execution run ID"
  identifier result.productId "browser execution product ID"
  identifier result.planId "browser execution plan ID"
  canonicalDigest result.planDigest "browser execution plan digest"
  browserSha result.commitSha "browser result commit"
  if ¬(result.evidence.map EvidenceArtifact.evidenceId).Nodup ∨
      ¬(result.journeyResults.map JourneyResult.journeyId).Nodup then
    throw (.value "Browser execution evidence and journeys must be unique")
  if result.evidence.any (fun item =>
      item.runId ≠ result.runId || item.commitSha ≠ result.commitSha) = true then
    throw (.value "Browser execution evidence must bind its exact run and commit")
  if result.journeyResults.any (fun item =>
      !item.evidenceIds.all (· ∈ result.evidence.map EvidenceArtifact.evidenceId)) = true then
    throw (.value "Browser journey result references unavailable evidence")
  if result.completedAt < result.startedAt then
    throw (.value "Browser execution time cannot move backwards")
  if result.stage = .completed then
    if result.failureCode ≠ none ∨ result.evidence = [] ∨ result.journeyResults = [] ∨
        result.evidence.any (fun item => item.outcome ≠ .pass) = true ∨
        result.journeyResults.any (fun item => item.outcome ≠ .pass) = true then
      throw (.value "Completed browser execution cannot retain a failure")
  else
    identifier (result.failureCode.getD "") "browser failure code"

structure BrowserExecutionResult extends ResultFields where
  checked : toResultFields.postInit setting = .ok ()
deriving DecidableEq

/-- The constructor of `BrowserExecutionResult`, which `replace` calls again. -/
def BrowserExecutionResult.new (fields : ResultFields) :
    Except Error (BrowserExecutionResult setting) :=
  if h : fields.postInit setting = .ok () then .ok ⟨fields, h⟩
  else
    match fields.postInit setting with
    | .error error => .error error
    | .ok () => .error (.value "")

variable {setting}

theorem new_ok {fields : ResultFields} {result : BrowserExecutionResult setting}
    (h : BrowserExecutionResult.new setting fields = .ok result) :
    result.toResultFields = fields := by
  unfold BrowserExecutionResult.new at h
  split at h
  · cases h
    rfl
  · split at h
    · cases h
    · cases h

theorem new_self (result : BrowserExecutionResult setting) :
    BrowserExecutionResult.new setting result.toResultFields = .ok result :=
  dif_pos result.checked

theorem BrowserExecutionResult.unique (result : BrowserExecutionResult setting) :
    (result.evidence.map EvidenceArtifact.evidenceId).Nodup ∧
      (result.journeyResults.map JourneyResult.journeyId).Nodup := by
  have h := result.checked
  unfold ResultFields.postInit at h
  obtain ⟨-, h⟩ := Checks.check_ok_iff.mp h
  obtain ⟨-, h⟩ := Checks.check_ok_iff.mp h
  obtain ⟨-, h⟩ := Checks.check_ok_iff.mp h
  obtain ⟨-, h⟩ := Checks.check_ok_iff.mp h
  obtain ⟨-, h⟩ := Checks.check_ok_iff.mp h
  obtain ⟨-, h⟩ := Checks.check_ok_iff.mp h
  obtain ⟨-, h⟩ := Checks.check_ok_iff.mp h
  obtain ⟨hunique, -⟩ := Checks.guard_bind_ok_iff.mp h
  simpa only [not_or, not_not] using hunique

end Results

/-! ## Evidence under its digest -/

/-- Where a file stands: the product, the run, and its name. -/
abbrev FilePath := String × String × String

abbrev Files := List (FilePath × List UInt8)

/-- `_ARTIFACT_FILENAME`. -/
def isArtifactFilename (filename : String) : Bool :=
  let stem := filename.toList.takeWhile (· ≠ '.')
  decide (stem.length = 64) && stem.all isHex &&
    decide (String.ofList (filename.toList.dropWhile (· ≠ '.')) ∈ [".json", ".png", ".wav"])

section Artifacts

variable (setting : BrowserSetting)

def safeDirectory (product run : String) : Except Error Unit :=
  if isIdentifier product = false ∨ isIdentifier run = false then
    throw (artifactError "Browser persistence identity is unsafe")
  else pure ()

def artifactUri (product run filename : String) : String :=
  "artifact://browser/" ++ product ++ "/" ++ run ++ "/" ++ filename

/-- What a content is refused for that does not have the format of its extension. -/
def formatMessage (extension : String) : String :=
  if extension = "png" then "Browser screenshot is not a PNG artifact"
  else if extension = "json" then "Browser JSON artifact is invalid"
  else "Browser audio artifact is not a WAV file"

/-- `write_bytes`: the URI and the digest, and the files after it. -/
def writeBytes (files : Files) (product run : String) (content : List UInt8)
    (extension : String) : Except Error (String × String × Files) := do
  if content = [] ∨ setting.maximumBytes < content.length then
    throw (artifactError "Browser artifact is empty or outside size policy")
  if extension ∉ ["json", "png", "wav"] then
    throw (artifactError "Browser artifact extension is unsupported")
  if setting.hasFormat extension content = false then
    throw (artifactError (formatMessage extension))
  safeDirectory product run
  let filename := setting.sha256 content ++ "." ++ extension
  match files.lookup (product, run, filename) with
  | some existing =>
    if setting.sha256 existing ≠ setting.sha256 content then
      throw (artifactError "Existing browser artifact failed integrity validation")
    else pure (artifactUri product run filename, setting.sha256 content, files)
  | none =>
    pure (artifactUri product run filename, setting.sha256 content,
      files ++ [((product, run, filename), content)])

/-- `resolve`: the name of the file. -/
def resolve (files : Files) (uri : String) : Except Error String :=
  match setting.artifactParts uri with
  | some [product, run, filename] => do
    if isArtifactFilename filename = false then
      throw (artifactError "Browser artifact URI is invalid")
    safeDirectory product run
    match files.lookup (product, run, filename) with
    | none => throw (artifactError "Browser artifact is unavailable")
    | some content =>
        if setting.sha256 content ≠ String.ofList (filename.toList.takeWhile (· ≠ '.')) then
          throw (artifactError "Browser artifact failed integrity validation")
        else pure filename
  | _ => throw (artifactError "Browser artifact URI is invalid")

def verify (files : Files) (uri expectedDigest : String) : Except Error Unit := do
  if isHexDigest expectedDigest = false then
    throw (artifactError "Browser artifact digest is invalid")
  let filename ← resolve setting files uri
  if String.ofList (filename.toList.takeWhile (· ≠ '.')) ≠ expectedDigest then
    throw (artifactError "Browser artifact digest does not match its URI")

/-- Files are only added. -/
def Kept (before after : Files) : Prop :=
  ∃ added, after = before ++ added

variable {setting} {before after last files files' : Files} {uri digest product run : String}
  {content : List UInt8} {extension : String}

theorem Kept.refl (files : Files) : Kept files files :=
  ⟨[], (List.append_nil files).symm⟩

theorem Kept.trans (h : Kept before after) (h' : Kept after last) : Kept before last := by
  obtain ⟨added, rfl⟩ := h
  obtain ⟨more, rfl⟩ := h'
  exact ⟨added ++ more, List.append_assoc _ _ _⟩

theorem Kept.lookup {path : FilePath} (h : Kept before after)
    (hfile : before.lookup path = some content) : after.lookup path = some content := by
  obtain ⟨added, rfl⟩ := h
  rw [List.lookup_append, hfile]
  rfl

theorem Kept.verify (h : Kept before after)
    (hverify : ManagedProduct.verify setting before uri digest = .ok ()) :
    ManagedProduct.verify setting after uri digest = .ok () := by
  unfold ManagedProduct.verify at hverify ⊢
  obtain ⟨hhex, hverify⟩ := Checks.guard_bind_ok_iff.mp hverify
  obtain ⟨filename, hresolve, hname⟩ := Checks.bind_ok_iff.mp hverify
  refine Checks.guard_bind_ok_iff.mpr ⟨hhex, Checks.bind_ok_iff.mpr ⟨filename, ?_, hname⟩⟩
  unfold resolve at hresolve ⊢
  split at hresolve
  · rename_i product run name hparts
    obtain ⟨hfilename, hresolve⟩ := Checks.guard_bind_ok_iff.mp hresolve
    obtain ⟨hsafe, hresolve⟩ := Checks.check_ok_iff.mp hresolve
    refine Checks.guard_bind_ok_iff.mpr ⟨hfilename, Checks.check_ok_iff.mpr ⟨hsafe, ?_⟩⟩
    cases hfile : before.lookup (product, run, name) with
    | none =>
        rw [hfile] at hresolve
        cases hresolve
    | some content =>
        rw [hfile] at hresolve
        rw [h.lookup hfile]
        exact hresolve
  · cases hresolve

theorem isHex_isAlphanum {c : Char} (h : isHex c = true) : c.isAlphanum = true := by
  have hall : "0123456789abcdef".toList.all Char.isAlphanum = true := by decide +kernel
  exact List.all_eq_true.mp hall c (of_decide_eq_true h)

theorem isHex_ne_dot {c : Char} (h : isHex c = true) : c ≠ '.' := by
  rintro rfl
  exact absurd h (by decide)

/-- A name that starts with a digest. -/
theorem takeWhile_stem {stem rest : String} (h : isHexDigest stem = true) :
    (stem ++ ("." ++ rest)).toList.takeWhile (· ≠ '.') = stem.toList ∧
      (stem ++ ("." ++ rest)).toList.dropWhile (· ≠ '.') = ("." ++ rest).toList := by
  have hstem : ∀ c ∈ stem.toList, (decide (c ≠ '.')) = true := by
    intro c hc
    have hall := (Bool.and_eq_true_iff.mp h).2
    exact decide_eq_true (isHex_ne_dot (List.all_eq_true.mp hall c hc))
  have hrest : ("." ++ rest).toList = '.' :: rest.toList := by
    rw [String.toList_append]
    rfl
  rw [String.toList_append, hrest, List.takeWhile_append_of_pos hstem,
    List.dropWhile_append_of_pos hstem]
  simp

theorem isArtifactFilename_written (content : List UInt8)
    (hextension : extension ∈ ["json", "png", "wav"]) :
    isArtifactFilename (setting.sha256 content ++ ("." ++ extension)) = true := by
  have hhex := setting.sha256_hex content
  obtain ⟨htake, hdrop⟩ := @takeWhile_stem _ extension hhex
  unfold isArtifactFilename
  rw [htake, hdrop, String.ofList_toList]
  obtain ⟨hlength, hall⟩ := Bool.and_eq_true_iff.mp hhex
  have hend : ∀ extension ∈ ["json", "png", "wav"],
      decide ("." ++ extension ∈ [".json", ".png", ".wav"]) = true := by decide
  dsimp only
  rw [hall, hend extension hextension]
  rw [String.length_toList]
  simpa using hlength

theorem verify_of_writeBytes
    (h : writeBytes setting files product run content extension = .ok (uri, digest, files')) :
    Kept files files' ∧ verify setting files' uri digest = .ok () := by
  unfold writeBytes at h
  obtain ⟨-, h⟩ := Checks.guard_bind_ok_iff.mp h
  obtain ⟨hextension, h⟩ := Checks.guard_bind_ok_iff.mp h
  obtain ⟨-, h⟩ := Checks.guard_bind_ok_iff.mp h
  obtain ⟨hsafe, h⟩ := Checks.check_ok_iff.mp h
  rw [not_not] at hextension
  have hidentifiers : isIdentifier product = true ∧ isIdentifier run = true := by
    unfold safeDirectory at hsafe
    split at hsafe
    · cases hsafe
    · rename_i hno
      simpa using hno
  have hstored : ∃ existing, setting.sha256 existing = setting.sha256 content ∧
      files'.lookup (product, run, setting.sha256 content ++ "." ++ extension) = some existing ∧
        uri = artifactUri product run (setting.sha256 content ++ "." ++ extension) ∧
          digest = setting.sha256 content ∧ Kept files files' := by
    cases hlookup : files.lookup (product, run, setting.sha256 content ++ "." ++ extension) with
    | some existing =>
        simp only [hlookup] at h
        split at h
        · cases h
        · rename_i hsame
          cases h
          exact ⟨existing, not_not.mp hsame, hlookup, rfl, rfl, Kept.refl files⟩
    | none =>
        simp only [hlookup] at h
        cases h
        refine ⟨content, rfl, ?_, rfl, rfl, _, rfl⟩
        rw [List.lookup_append, hlookup]
        simp [List.lookup]
  obtain ⟨existing, hsame, hlookup, rfl, rfl, hkept⟩ := hstored
  refine ⟨hkept, ?_⟩
  have hhex := setting.sha256_hex content
  rw [String.append_assoc] at hlookup ⊢
  have hchars : ∀ c ∈ (setting.sha256 content ++ ("." ++ extension)).toList,
      c.isAlphanum = true ∨ c = '.' := by
    intro c hc
    rw [String.toList_append, List.mem_append] at hc
    obtain hc | hc := hc
    · exact .inl (isHex_isAlphanum
        (List.all_eq_true.mp (Bool.and_eq_true_iff.mp hhex).2 c hc))
    · have hend : ["json", "png", "wav"].all (fun extension =>
          ("." ++ extension).toList.all fun c => c.isAlphanum || c == '.') = true := by
        decide +kernel
      have hchar := List.all_eq_true.mp (List.all_eq_true.mp hend extension hextension) c hc
      exact (Bool.or_eq_true_iff.mp hchar).imp_right beq_iff_eq.mp
  have hparts := setting.artifactParts_uri product run
    (setting.sha256 content ++ ("." ++ extension)) hidentifiers.1 hidentifiers.2 hchars
  have hstem := (@takeWhile_stem _ extension hhex).1
  have hresolve : resolve setting files'
      (artifactUri product run (setting.sha256 content ++ ("." ++ extension))) =
        .ok (setting.sha256 content ++ ("." ++ extension)) := by
    unfold resolve artifactUri
    rw [hparts]
    refine Checks.guard_bind_ok_iff.mpr ⟨?_, Checks.check_ok_iff.mpr ⟨hsafe, ?_⟩⟩
    · rw [isArtifactFilename_written content hextension]
      decide
    · rw [hlookup, hstem, String.ofList_toList]
      exact if_neg (not_not.mpr hsame)
  unfold verify
  refine Checks.guard_bind_ok_iff.mpr ⟨by rw [hhex]; decide, Checks.bind_ok_iff.mpr
    ⟨_, hresolve, ?_⟩⟩
  rw [hstem, String.ofList_toList]
  exact if_neg (not_not.mpr rfl)

end Artifacts

/-! ## One result for each plan -/

/-- The JSON object of an evidence artifact. -/
structure EvidencePayload where
  evidenceId : String
  runId : String
  capabilityId : String
  journeyId : String
  kind : String
  outcome : String
  commitSha : String
  artifactUri : String
  digest : String
  observedAt : Timestamp
  summary : String
  metadata : List (String × String)
deriving DecidableEq

/-- The JSON object of a journey result. -/
structure JourneyPayload where
  journeyId : String
  outcome : String
  evidenceIds : List String
  completedAt : Timestamp
deriving DecidableEq

/-- The JSON object of a result. -/
structure ResultPayload where
  runId : String
  productId : String
  planId : String
  planDigest : String
  commitSha : String
  stage : String
  evidence : List EvidencePayload
  journeyResults : List JourneyPayload
  startedAt : Timestamp
  completedAt : Timestamp
  failureCode : Option String
deriving DecidableEq

/-- The JSON object of a result file. -/
structure Envelope where
  schemaVersion : Int
  digest : String
  result : ResultPayload
deriving DecidableEq

/-- `EvidenceOutcome.value`. -/
def outcomeValue : EvidenceOutcome → String
  | .pass => "PASS"
  | .fail => "FAIL"

/-- `EvidenceOutcome(value)`. -/
def outcomeOf (value : String) : Option EvidenceOutcome :=
  [EvidenceOutcome.pass, .fail].find? (outcomeValue · = value)

/-- `EvidenceKind(value)`. -/
def kindOf (value : String) : Option EvidenceKind :=
  [EvidenceKind.code, .automatedTest, .serviceStartup, .readiness, .migration, .browser,
    .browserConsole, .browserNetwork, .screenshot, .audioFixture, .stt, .llm, .tts,
    .audiblePlayback, .avatarSynchronization, .persistence, .pwa, .security,
    .humanUx].find? (·.value = value)

/-- `BrowserExecutionStage(value)`. -/
def stageOf (value : String) : Option BrowserExecutionStage :=
  [BrowserExecutionStage.completed, .failed, .reconciliationRequired].find? (·.value = value)

def evidencePayload (item : EvidenceArtifact) : EvidencePayload where
  evidenceId := item.evidenceId
  runId := item.runId
  capabilityId := item.capabilityId
  journeyId := item.journeyId
  kind := item.kind.value
  outcome := outcomeValue item.outcome
  commitSha := item.commitSha
  artifactUri := item.artifactUri
  digest := item.digest
  observedAt := item.observedAt
  summary := item.summary
  metadata := item.metadata

def journeyPayload (item : JourneyResult) : JourneyPayload where
  journeyId := item.journeyId
  outcome := outcomeValue item.outcome
  evidenceIds := item.evidenceIds
  completedAt := item.completedAt

def resultPayload (result : ResultFields) : ResultPayload where
  runId := result.runId
  productId := result.productId
  planId := result.planId
  planDigest := result.planDigest
  commitSha := result.commitSha
  stage := result.stage.value
  evidence := result.evidence.map evidencePayload
  journeyResults := result.journeyResults.map journeyPayload
  startedAt := result.startedAt
  completedAt := result.completedAt
  failureCode := result.failureCode

def EvidencePayload.read (item : EvidencePayload) : Option EvidenceArtifact := do
  let kind ← kindOf item.kind
  let outcome ← outcomeOf item.outcome
  pure ⟨item.evidenceId, item.runId, item.capabilityId, item.journeyId, kind, outcome,
    item.commitSha, item.artifactUri, item.digest, item.observedAt, item.summary, item.metadata⟩

def JourneyPayload.read (item : JourneyPayload) : Option JourneyResult := do
  let outcome ← outcomeOf item.outcome
  pure ⟨item.journeyId, outcome, item.evidenceIds, item.completedAt⟩

/-- The fields that `_result_from_payload` gives to the constructor. -/
def ResultPayload.read (payload : ResultPayload) : Option ResultFields := do
  let evidence ← payload.evidence.mapM EvidencePayload.read
  let journeyResults ← payload.journeyResults.mapM JourneyPayload.read
  let stage ← stageOf payload.stage
  pure ⟨payload.runId, payload.productId, payload.planId, payload.planDigest, payload.commitSha,
    stage, evidence, journeyResults, payload.startedAt, payload.completedAt, payload.failureCode⟩

@[simp]
theorem outcomeOf_outcomeValue (outcome : EvidenceOutcome) :
    outcomeOf (outcomeValue outcome) = some outcome := by
  cases outcome <;> decide

@[simp]
theorem kindOf_value (kind : EvidenceKind) : kindOf kind.value = some kind := by
  cases kind <;> decide

@[simp]
theorem stageOf_value (stage : BrowserExecutionStage) : stageOf stage.value = some stage := by
  cases stage <;> decide

theorem mapM_read {α β : Type} {read : β → Option α} {payload : α → β}
    (h : ∀ item, read (payload item) = some item) (items : List α) :
    (items.map payload).mapM read = some items := by
  induction items with
  | nil => rfl
  | cons item items ih =>
    rw [List.map_cons, List.mapM_cons, h, ih]
    rfl

theorem read_resultPayload (result : ResultFields) :
    (resultPayload result).read = some result := by
  have hevidence : ∀ item, (evidencePayload item).read = some item := by
    intro item
    simp [EvidencePayload.read, evidencePayload]
  have hjourney : ∀ item, (journeyPayload item).read = some item := by
    intro item
    simp [JourneyPayload.read, journeyPayload]
  simp only [ResultPayload.read, resultPayload, mapM_read hevidence, mapM_read hjourney,
    stageOf_value, Option.bind_eq_bind, Option.bind_some]
  rfl

/-- The product, the run and the plan. -/
abbrev ResultKey := String × String × String

abbrev ResultFiles := List (ResultKey × Envelope)

section Store

variable (setting : BrowserSetting)

/-- `_path` of the store of the results. -/
def resultPath (key : ResultKey) : Except Error Unit := do
  safeDirectory key.1 key.2.1
  if isIdentifier key.2.2 = false then
    throw (artifactError "Browser result identity is unsafe")

def ResultFields.key (result : ResultFields) : ResultKey :=
  (result.productId, result.runId, result.planId)

/-- `FileBrowserExecutionStore.load`. -/
def loadResult (results : ResultFiles) (key : ResultKey) :
    Except Error (BrowserExecutionResult setting) := do
  resultPath key
  let corrupt := artifactError "Browser execution result is missing or corrupt"
  match results.lookup key with
  | none => throw corrupt
  | some envelope =>
    if envelope.schemaVersion ≠ 1 then throw corrupt
    else
      match envelope.result.read.map (BrowserExecutionResult.new setting) with
      | some (.ok result) =>
          if result.key ≠ key ∨ setting.resultDigest result.toResultFields ≠ envelope.digest ∨
              resultPayload result.toResultFields ≠ envelope.result then
            throw corrupt
          else pure result
      | _ => throw corrupt

/-- `FileBrowserExecutionStore.find`. -/
def findResult (results : ResultFiles) (key : ResultKey) :
    Except Error (Option (BrowserExecutionResult setting)) := do
  resultPath key
  match results.lookup key with
  | none => pure none
  | some _ => some <$> loadResult setting results key

/-- What is saved of a result. -/
def envelope (result : BrowserExecutionResult setting) : Envelope where
  schemaVersion := 1
  digest := setting.resultDigest result.toResultFields
  result := resultPayload result.toResultFields

/-- `FileBrowserExecutionStore.save`: the result and the files after it. -/
def saveResult (results : ResultFiles) (result : BrowserExecutionResult setting) :
    Except Error (BrowserExecutionResult setting × ResultFiles) := do
  resultPath result.key
  match results.lookup result.key with
  | some _ => do
    let existing ← loadResult setting results result.key
    if existing ≠ result then
      throw (artifactError "Browser execution result is immutable")
    else pure (existing, results)
  | none => pure (result, results ++ [(result.key, envelope setting result)])

variable {setting} {results : ResultFiles} {result : BrowserExecutionResult setting}
  {key : ResultKey}

theorem loadResult_of_lookup (hpath : resultPath result.key = .ok ())
    (h : results.lookup result.key = some (envelope setting result)) :
    loadResult setting results result.key = .ok result := by
  unfold loadResult
  refine Checks.check_ok_iff.mpr ⟨hpath, ?_⟩
  simp only [h, envelope, read_resultPayload, Option.map_some, new_self]
  rw [if_neg (not_not.mpr rfl), if_neg (by simp)]
  rfl

theorem findResult_of_lookup (hpath : resultPath result.key = .ok ())
    (h : results.lookup result.key = some (envelope setting result)) :
    findResult setting results result.key = .ok (some result) := by
  unfold findResult
  refine Checks.check_ok_iff.mpr ⟨hpath, ?_⟩
  simp only [h, loadResult_of_lookup hpath h]
  rfl

theorem resultPath_key (result : BrowserExecutionResult setting) :
    resultPath result.key = .ok () := by
  have h := result.checked
  unfold ResultFields.postInit at h
  obtain ⟨-, h⟩ := Checks.check_ok_iff.mp h
  obtain ⟨-, h⟩ := Checks.check_ok_iff.mp h
  obtain ⟨hrun, h⟩ := Checks.check_ok_iff.mp h
  obtain ⟨hproduct, h⟩ := Checks.check_ok_iff.mp h
  obtain ⟨hplan, -⟩ := Checks.check_ok_iff.mp h
  have hidentifier : ∀ {value label : String}, identifier value label = .ok () →
      isIdentifier value = true := by
    intro value label hok
    unfold identifier at hok
    split at hok
    · cases hok
    · rename_i hno
      simpa using hno
  unfold resultPath safeDirectory ResultFields.key
  rw [hidentifier hrun, hidentifier hproduct, hidentifier hplan]
  rfl

theorem loadResult_saveResult {results' : ResultFiles}
    {saved : BrowserExecutionResult setting} (hnone : results.lookup result.key = none)
    (h : saveResult setting results result = .ok (saved, results')) :
    saved = result ∧ results' = results ++ [(result.key, envelope setting result)] ∧
      results'.lookup result.key = some (envelope setting result) ∧
        loadResult setting results' result.key = .ok result := by
  unfold saveResult at h
  obtain ⟨hpath, h⟩ := Checks.check_ok_iff.mp h
  simp only [hnone] at h
  cases h
  have hlookup : (results ++ [(result.key, envelope setting result)]).lookup result.key =
      some (envelope setting result) := by
    rw [List.lookup_append, hnone]
    simp [List.lookup]
  exact ⟨rfl, rfl, hlookup, loadResult_of_lookup hpath hlookup⟩

/-- A result is known from what is saved of it. -/
theorem envelope_injective {first second : BrowserExecutionResult setting}
    (h : envelope setting first = envelope setting second) : first = second := by
  have hpayload : resultPayload first.toResultFields = resultPayload second.toResultFields :=
    congrArg Envelope.result h
  have hread := congrArg ResultPayload.read hpayload
  rw [read_resultPayload, read_resultPayload] at hread
  cases first
  cases second
  cases hread
  rfl

end Store

end ManagedProduct
end Ascos
