import Ascos.ManagedProduct.BrowserStores

/-!
# Browser executions

`ManagedProductBrowserService.execute` of `runtime/managed_product_browser/service.py`,
with what the stores, the policy, the environment and the browser provider answer given with the
call.

Main results:

- Theorem `execute_steps`: an execution returns what is stored without an environment, or
  stores one result whose evidence verifies, or stores nothing.
- Theorem `completed_of_finish`: what holds of a completed result.
- Theorem `browser_results_final`: in every run, and for all of its later calls.
-/

namespace Ascos
namespace ManagedProduct

open Library Acceptance
open Ascos.Runtime (Timestamp)

/-! ## Authorities -/

/-- `BrowserJourneySpecification`. -/
structure JourneySpecification where
  journeyId : String
  capabilityId : String
  title : String

/-- `BrowserInputBinding`: a public value, or a reference to a secret. -/
inductive InputBinding where
  | publicValue (inputId value : String)
  | secretReference (inputId reference : String)

/-- `BrowserJourneyPlan`, with its digest. -/
structure BrowserJourneyPlan where
  planId : String
  runId : String
  productId : String
  configurationId : String
  configurationRevision : Int
  configurationDigest : String
  commitSha : String
  acceptanceProfileId : String
  acceptanceProfileVersion : String
  acceptanceProfileDigest : String
  firstJourney : JourneySpecification
  otherJourneys : List JourneySpecification
  inputs : List InputBinding
  digest : String
  journeys_nodup : ((firstJourney :: otherJourneys).map JourneySpecification.journeyId).Nodup

def BrowserJourneyPlan.journeys (plan : BrowserJourneyPlan) : List JourneySpecification :=
  plan.firstJourney :: plan.otherJourneys

/-- `ManagedProductRuntimeConfiguration`. -/
structure RuntimeConfiguration where
  projectId : String
  configurationId : String
  revision : Int
  digest : String
  commitSha : String
  acceptanceProfileId : String
  acceptanceProfileVersion : String
  acceptanceProfileDigest : String
  allowedOrigins : List String

structure BrowserExecutionPolicy where
  allowedProviderIds : List String
  allowedOrigins : List String
  allowedSecretReferences : List String := []
  allowedSecretReferencePrefixes : List String := []

structure BrowserExecutionRequest where
  runId : String
  productId : String
  planId : String
  planDigest : String
deriving DecidableEq

/-- `EnvironmentStage`, at the end of an execution. -/
inductive EnvironmentStage where
  | stopped
  | failed
  | reconciliationRequired
deriving DecidableEq

/-- `ManagedProductEnvironmentResult`. -/
structure EnvironmentResult where
  stage : EnvironmentStage
  observations : List EnvironmentObservation
  startedAt : Timestamp
  completedAt : Timestamp
  failureCode : Option String := none

/-- What the browser provider does: it returns a result, or raises one of the two errors that the
probe turns into a failed result. -/
inductive ProviderOutcome (setting : BrowserSetting) where
  | returned (result : BrowserExecutionResult setting)
  | authorityError
  | unavailable

/-- What `verify_with_ready_probe` does: it raises, or it ends, and has called the probe or
not. -/
inductive EnvironmentExecution (setting : BrowserSetting) where
  | raised (error : Error)
  | ended (result : EnvironmentResult) (probe : Option (ProviderOutcome setting))

/-- A call of `write_bytes` by the provider. -/
structure ProviderWrite where
  productId : String
  runId : String
  content : List UInt8
  extension : String

/-- A call of `execute` with what it is answered: the run and the plan that are stored, the
configuration, the policy, the secrets, the time, and what the provider writes and does. -/
structure BrowserCall (setting : BrowserSetting) (D : Digests) where
  request : BrowserExecutionRequest
  run : Option (RuntimeAcceptanceRun D)
  plan : Option BrowserJourneyPlan
  configuration : Except Error RuntimeConfiguration
  policy : BrowserExecutionPolicy
  providerId : String
  secret : String → Option String
  now : Timestamp
  writes : List ProviderWrite
  execution : EnvironmentExecution setting

/-- The files, the results, and the requests for which an environment was started. -/
structure BrowserWorld where
  files : Files := []
  results : ResultFiles := []
  environments : List BrowserExecutionRequest := []

section Service

variable {setting : BrowserSetting} {D : Digests}

def BrowserExecutionRequest.key (request : BrowserExecutionRequest) : ResultKey :=
  (request.productId, request.runId, request.planId)

/-- `set(first) == set(second)`. -/
def sameItems (first second : List String) : Bool :=
  first.all (· ∈ second) && second.all (· ∈ first)

def lastOf {α : Type} (key : α → String) (items : List α) (value : String) : Option α :=
  items.reverse.find? (key · = value)

def authorize (setting : BrowserSetting) (run : RunFields) (plan : BrowserJourneyPlan)
    (configuration : RuntimeConfiguration) (policy : BrowserExecutionPolicy)
    (providerId : String) : Except Error Unit := do
  if ¬(run.productId = plan.productId ∧ run.runId = plan.runId ∧
      run.commitSha = plan.commitSha ∧ run.runtimeConfigurationId = plan.configurationId ∧
      run.runtimeConfigurationRevision = plan.configurationRevision ∧
      run.runtimeConfigurationDigest = plan.configurationDigest ∧
      run.acceptanceProfileId = plan.acceptanceProfileId ∧
      run.acceptanceProfileVersion = plan.acceptanceProfileVersion ∧
      run.acceptanceProfileDigest = plan.acceptanceProfileDigest) then
    throw (authorityError "Browser plan does not match the exact runtime acceptance binding")
  if ¬(configuration.projectId = plan.productId ∧
      configuration.configurationId = plan.configurationId ∧
      configuration.revision = plan.configurationRevision ∧
      configuration.digest = plan.configurationDigest ∧
      configuration.commitSha = plan.commitSha ∧
      configuration.acceptanceProfileId = plan.acceptanceProfileId ∧
      configuration.acceptanceProfileVersion = plan.acceptanceProfileVersion ∧
      configuration.acceptanceProfileDigest = plan.acceptanceProfileDigest) then
    throw (authorityError "Browser plan does not match the persisted runtime configuration")
  let declared := run.journeys.filter fun item =>
    item.customerFacing && decide (item.capabilityId ∈
      plan.journeys.map JourneySpecification.capabilityId)
  if sameItems (declared.map AcceptanceJourney.journeyId)
      (plan.journeys.map JourneySpecification.journeyId) = false then
    throw (authorityError "Browser plan must cover every journey of each selected capability")
  if plan.journeys.any (fun specification =>
      !((lastOf AcceptanceJourney.journeyId declared specification.journeyId).any fun contract =>
        decide (specification.capabilityId = contract.capabilityId ∧
          specification.title = contract.title))) = true then
    throw (authorityError "Browser journey does not match its locked acceptance contract")
  if providerId ∉ policy.allowedProviderIds then
    throw (authorityError "Browser provider is not currently approved")
  if configuration.allowedOrigins.any (fun value =>
      setting.endpointOrigin value ∉ policy.allowedOrigins) = true then
    throw (authorityError "Browser origin is not currently approved")
  if plan.inputs.any (fun
      | .publicValue _ _ => false
      | .secretReference _ reference =>
          decide (reference ∉ policy.allowedSecretReferences) &&
            !policy.allowedSecretReferencePrefixes.any fun start =>
              start.toList.isPrefixOf reference.toList) = true then
    throw (authorityError "Browser secret reference is not currently approved")

def resolveInput (secret : String → Option String) (reference : String) : Bool :=
  (secret reference).any fun value =>
    decide (value ≠ "" ∧ value.toList.length ≤ 8192) && !value.toList.contains '\x00'

def inputsResolve (secret : String → Option String) (inputs : List InputBinding) : Bool :=
  inputs.all fun
    | .publicValue _ _ => true
    | .secretReference _ reference => resolveInput secret reference

def failedFields (plan : BrowserJourneyPlan) (stage : BrowserExecutionStage)
    (startedAt completedAt : Timestamp) (code : String) : ResultFields where
  runId := plan.runId
  productId := plan.productId
  planId := plan.planId
  planDigest := plan.digest
  commitSha := plan.commitSha
  stage := stage
  evidence := []
  journeyResults := []
  startedAt := startedAt
  completedAt := completedAt
  failureCode := some code

def browserProbe (call : BrowserCall setting D) (plan : BrowserJourneyPlan)
    (outcome : ProviderOutcome setting) : Except Error (BrowserExecutionResult setting) :=
  let failure := fun code =>
    BrowserExecutionResult.new setting (failedFields plan .failed call.now call.now code)
  if inputsResolve call.secret plan.inputs = false then failure "BROWSER_INPUT_RESOLUTION_FAILED"
  else
    match outcome with
    | .returned result => .ok result
    | .authorityError => failure "BROWSER_INPUT_RESOLUTION_FAILED"
    | .unavailable => failure "BROWSER_PROVIDER_UNAVAILABLE"

/-- The kinds of evidence that a provider may return for every journey. -/
def browserEvidence : List EvidenceKind :=
  [.browser, .browserConsole, .browserNetwork, .screenshot]

def requiredEvidence (run : RunFields) (journeyId : String) : List EvidenceKind :=
  ((lastOf AcceptanceJourney.journeyId run.journeys journeyId).map
    AcceptanceJourney.requiredEvidence).getD []

/-- The check of one evidence artifact of the provider. -/
def validateEvidence (files : Files) (plan : BrowserJourneyPlan) (run : RunFields)
    (item : EvidenceArtifact) : Except Error Unit := do
  if ¬((lastOf JourneySpecification.journeyId plan.journeys item.journeyId).any (fun journey =>
        decide (item.capabilityId = journey.capabilityId)) = true ∧
      item.runId = plan.runId ∧ item.commitSha = plan.commitSha ∧
      (item.kind ∈ browserEvidence ∨ item.kind ∈ requiredEvidence run item.journeyId)) then
    throw (authorityError "Browser provider evidence escaped its exact journey authority")
  verify setting files item.artifactUri item.digest

/-- The check of one journey result of the provider. -/
def validateJourney (run : RunFields) (evidence : List EvidenceArtifact)
    (journey : JourneyResult) : Except Error Unit := do
  let linked := journey.evidenceIds.map (lastOf EvidenceArtifact.evidenceId evidence)
  if linked.all (·.any fun item => decide (item.journeyId = journey.journeyId)) = false then
    throw (authorityError "Browser journey result references unavailable evidence")
  if journey.outcome = .pass then
    if (requiredEvidence run journey.journeyId).all (fun kind =>
          linked.any (·.any fun item => decide (item.kind = kind))) = false ∨
        linked.all (·.all fun item => decide (item.outcome = .pass)) = false then
      throw (authorityError "Passing browser journey lacks complete passing evidence")

def validateProviderResult (files : Files) (plan : BrowserJourneyPlan)
    (result : BrowserExecutionResult setting) (run : RunFields) : Except Error Unit := do
  let planned := plan.journeys.map JourneySpecification.journeyId
  let resultIds := result.journeyResults.map JourneyResult.journeyId
  if ¬(result.evidence.map EvidenceArtifact.evidenceId).Nodup ∨ ¬resultIds.Nodup then
    throw (authorityError "Browser provider returned duplicate evidence")
  if resultIds.all (· ∈ planned) = false then
    throw (authorityError "Browser provider returned an undeclared journey")
  result.evidence.forM (@validateEvidence setting files plan run)
  result.journeyResults.forM (validateJourney run result.evidence)
  if result.stage = .completed then
    if sameItems resultIds planned = false ∨
        result.journeyResults.any (fun item => item.outcome ≠ .pass) = true then
      throw (authorityError "Completed browser result does not cover every planned journey")

/-- `_ENVIRONMENT_EVIDENCE`. -/
def environmentKind : ObservationKind → Option EvidenceKind
  | .migration => some .migration
  | .serviceStartup => some .serviceStartup
  | .readiness => some .readiness
  | _ => none

/-- `_environment_evidence`: the artifacts, and the files after it. -/
def environmentEvidence (setting : BrowserSetting) (plan : BrowserJourneyPlan) (files : Files)
    (index : Nat) : List EnvironmentObservation → Except Error (List EvidenceArtifact) × Files
  | [] => (.ok [], files)
  | observation :: observations =>
    match environmentKind observation.kind with
    | none => environmentEvidence setting plan files (index + 1) observations
    | some kind =>
        match writeBytes setting files plan.productId plan.runId
            (setting.observationJson observation plan.configurationDigest) "json" with
        | .error error => (.error error, files)
        | .ok (uri, digest, written) =>
            let artifact : EvidenceArtifact :=
              { evidenceId := plan.runId ++ "." ++ plan.firstJourney.journeyId ++
                  ".environment-" ++ toString index
                runId := plan.runId
                capabilityId := plan.firstJourney.capabilityId
                journeyId := plan.firstJourney.journeyId
                kind := kind
                outcome := observation.outcome
                commitSha := plan.commitSha
                artifactUri := uri
                digest := digest
                observedAt := observation.completedAt
                summary := observation.summary
                metadata := [("configuration_digest", plan.configurationDigest)] }
            match evidencePostInit setting artifact with
            | .error error => (.error error, written)
            | .ok () =>
                match environmentEvidence setting plan written (index + 1) observations with
                | (.ok artifacts, last) => (.ok (artifact :: artifacts), last)
                | (.error error, last) => (.error error, last)

/-- The stage and the failure code of the stored result. -/
def terminal (environment : EnvironmentResult) (result : ResultFields) :
    BrowserExecutionStage × Option String :=
  match environment.stage with
  | .reconciliationRequired =>
      (.reconciliationRequired, environment.failureCode.or result.failureCode)
  | .failed => (.failed, environment.failureCode.or result.failureCode)
  | .stopped => (result.stage, result.failureCode)

def BrowserWorld.save (w : BrowserWorld) (result : BrowserExecutionResult setting) :
    Except Error (BrowserExecutionResult setting) × BrowserWorld :=
  match saveResult setting w.results result with
  | .error error => (.error error, w)
  | .ok (saved, results) => (.ok saved, { w with results := results })

def probeChecks (files : Files) (plan : BrowserJourneyPlan) (run : RunFields)
    (environment : EnvironmentResult) (result : BrowserExecutionResult setting) :
    Except Error Unit := do
  if ¬(result.runId = plan.runId ∧ result.productId = plan.productId ∧
      result.planId = plan.planId ∧ result.planDigest = plan.digest ∧
      result.commitSha = plan.commitSha) then
    throw (authorityError "Browser provider result does not match its exact execution authority")
  validateProviderResult files plan result run
  if ¬(environment.startedAt ≤ result.startedAt ∧ result.startedAt ≤ result.completedAt ∧
      result.completedAt ≤ environment.completedAt) then
    throw (authorityError
      "Browser provider timestamps do not fit the managed environment window")

/-- The result that is stored for a result of the probe. -/
def mergedFields (environment : EnvironmentResult) (artifacts : List EvidenceArtifact)
    (result : ResultFields) : ResultFields :=
  { result with
    stage := (terminal environment result).1
    evidence := artifacts ++ result.evidence
    startedAt := min result.startedAt environment.startedAt
    completedAt := max result.completedAt environment.completedAt
    failureCode := (terminal environment result).2 }

/-- What `execute` does with the result of the probe. -/
def BrowserWorld.finish (w : BrowserWorld) (plan : BrowserJourneyPlan) (run : RunFields)
    (environment : EnvironmentResult) (result : BrowserExecutionResult setting) :
    Except Error (BrowserExecutionResult setting) × BrowserWorld :=
  match probeChecks w.files plan run environment result with
  | .error error => (.error error, w)
  | .ok () =>
    match environmentEvidence setting plan w.files 0 environment.observations with
    | (.error error, files) => (.error error, { w with files := files })
    | (.ok artifacts, files) =>
        match BrowserExecutionResult.new setting
            (mergedFields environment artifacts result.toResultFields) with
        | .error error => (.error error, { w with files := files })
        | .ok value => ({ w with files := files } : BrowserWorld).save value

/-- What the provider writes; an error is its own matter. -/
def providerWrites (setting : BrowserSetting) (files : Files) (writes : List ProviderWrite) :
    Files :=
  writes.foldl (fun files write =>
    match writeBytes setting files write.productId write.runId write.content write.extension with
    | .ok (_, _, written) => written
    | .error _ => files) files

/-- `BrowserJourneyPlanStore.load`. -/
def BrowserCall.loadPlan (call : BrowserCall setting D) : Except Error BrowserJourneyPlan :=
  match call.plan with
  | some plan =>
    if plan.productId = call.request.productId ∧ plan.runId = call.request.runId ∧
        plan.planId = call.request.planId then pure plan
    else throw ⟨.other "BrowserPlanError", "Browser journey plan is missing or corrupt"⟩
  | none => throw ⟨.other "BrowserPlanError", "Browser journey plan is missing or corrupt"⟩

/-- What `execute` checks before it starts an environment. -/
def BrowserCall.admit (call : BrowserCall setting D) :
    Except Error (RuntimeAcceptanceRun D × BrowserJourneyPlan) := do
  match call.run with
  | none => throw (authorityError "Unknown runtime acceptance run")
  | some run =>
    if run.stage ≠ .automatedVerified then
      throw (authorityError "Browser execution requires exact automated verification first")
    let plan ← call.loadPlan
    if plan.digest ≠ call.request.planDigest then
      throw (authorityError "Browser execution request does not match the immutable plan")
    let configuration ← call.configuration
    authorize setting run.toRunFields plan configuration call.policy call.providerId
    pure (run, plan)

def BrowserWorld.environment (w : BrowserWorld) (call : BrowserCall setting D)
    (run : RuntimeAcceptanceRun D) (plan : BrowserJourneyPlan) :
    Except Error (BrowserExecutionResult setting) × BrowserWorld :=
  let started : BrowserWorld :=
    { w with
      files := providerWrites setting w.files call.writes
      environments := w.environments ++ [call.request] }
  match call.execution with
  | .raised error => (.error error, started)
  | .ended environment none =>
    let stage : BrowserExecutionStage :=
      if environment.stage = .reconciliationRequired then .reconciliationRequired else .failed
    match BrowserExecutionResult.new setting
        (failedFields plan stage environment.startedAt environment.completedAt
          (environment.failureCode.getD "ENVIRONMENT_NOT_READY")) with
    | .error error => (.error error, started)
    | .ok value => started.save value
  | .ended environment (some outcome) =>
    match browserProbe call plan outcome with
    | .error error => (.error error, started)
    | .ok result => started.finish plan run.toRunFields environment result

/-- `execute` for a plan whose result is stored. -/
def reopen (files : Files) (request : BrowserExecutionRequest)
    (existing : BrowserExecutionResult setting) :
    Except Error (BrowserExecutionResult setting) := do
  if existing.planDigest ≠ request.planDigest then
    throw (authorityError "Stored browser execution does not match the requested plan")
  existing.evidence.forM fun artifact =>
    verify setting files artifact.artifactUri artifact.digest
  pure existing

def BrowserWorld.execute (w : BrowserWorld) (call : BrowserCall setting D) :
    Except Error (BrowserExecutionResult setting) × BrowserWorld :=
  match findResult setting w.results call.request.key with
  | .error error => (.error error, w)
  | .ok (some existing) => (reopen w.files call.request existing, w)
  | .ok none =>
    match call.admit with
    | .error error => (.error error, w)
    | .ok (run, plan) => w.environment call run plan

def BrowserWorld.after (calls : List (BrowserCall setting D)) (w : BrowserWorld) : BrowserWorld :=
  calls.foldl (fun w call => (w.execute call).2) w

/-! ## Lookups -/

theorem of_lastOf {α : Type} {key : α → String} {items : List α} {value : String} {item : α}
    (h : lastOf key items value = some item) : item ∈ items ∧ key item = value := by
  refine ⟨List.mem_reverse.mp (List.mem_of_find?_eq_some h), ?_⟩
  simpa using List.find?_some h

/-- The last value for a key is the only one, where keys are unique. -/
theorem eq_of_nodup {α : Type} {key : α → String} {items : List α} {item other : α}
    (hunique : (items.map key).Nodup) (hitem : item ∈ items) (hother : other ∈ items)
    (hkey : key item = key other) : item = other :=
  List.inj_on_of_nodup_map hunique hitem hother hkey

theorem lastOf_of_mem {α : Type} {key : α → String} {items : List α} {item : α}
    (hunique : (items.map key).Nodup) (hitem : item ∈ items) :
    lastOf key items (key item) = some item := by
  cases h : lastOf key items (key item) with
  | none =>
    have hnone := List.find?_eq_none.mp h item (List.mem_reverse.mpr hitem)
    simp at hnone
  | some other =>
    obtain ⟨hother, hkey⟩ := of_lastOf h
    rw [eq_of_nodup hunique hother hitem hkey]

theorem sameItems_iff {first second : List String} :
    sameItems first second = true ↔ ∀ value, value ∈ first ↔ value ∈ second := by
  unfold sameItems
  rw [Bool.and_eq_true_iff, List.all_eq_true, List.all_eq_true]
  constructor
  · rintro ⟨hfirst, hsecond⟩ value
    exact ⟨fun h => of_decide_eq_true (hfirst value h),
      fun h => of_decide_eq_true (hsecond value h)⟩
  · intro h
    exact ⟨fun value hvalue => decide_eq_true ((h value).mp hvalue),
      fun value hvalue => decide_eq_true ((h value).mpr hvalue)⟩

theorem journeys_nodup (run : RuntimeAcceptanceRun D) :
    (run.journeys.map AcceptanceJourney.journeyId).Nodup := by
  have h := run.checked
  unfold RunFields.postInit at h
  obtain ⟨-, h⟩ := Checks.check_ok_iff.mp h
  obtain ⟨-, h⟩ := Checks.check_ok_iff.mp h
  obtain ⟨-, h⟩ := Checks.check_ok_iff.mp h
  obtain ⟨-, h⟩ := Checks.check_ok_iff.mp h
  obtain ⟨-, h⟩ := Checks.check_ok_iff.mp h
  obtain ⟨h, -⟩ := Checks.check_ok_iff.mp h
  unfold RunFields.contentChecks at h
  obtain ⟨-, h⟩ := Checks.guard_bind_ok_iff.mp h
  obtain ⟨-, h⟩ := Checks.check_ok_iff.mp h
  obtain ⟨h, -⟩ := Checks.check_ok_iff.mp h
  unfold uniqueText at h
  obtain ⟨h, -⟩ := Checks.guard_ok_iff.mp h
  exact not_not.mp (not_or.mp h).2

/-! ## Artifacts -/

theorem kept_providerWrites (files : Files) (writes : List ProviderWrite) :
    Kept files (providerWrites setting files writes) := by
  induction writes generalizing files with
  | nil => exact Kept.refl files
  | cons write writes ih =>
    refine Kept.trans ?_ (ih _)
    dsimp only
    split
    · rename_i h
      exact (verify_of_writeBytes h).1
    · exact Kept.refl files

def Verified (setting : BrowserSetting) (files : Files) (items : List EvidenceArtifact) : Prop :=
  ∀ item ∈ items, verify setting files item.artifactUri item.digest = .ok ()

theorem Verified.kept {before after : Files} {items : List EvidenceArtifact}
    (h : Verified setting before items) (hkept : Kept before after) :
    Verified setting after items :=
  fun item hitem => hkept.verify (h item hitem)

theorem environmentEvidence_verified {plan : BrowserJourneyPlan}
    (observations : List EnvironmentObservation) :
    ∀ (files : Files) (index : Nat),
      Kept files (environmentEvidence setting plan files index observations).2 ∧
        ∀ artifacts, (environmentEvidence setting plan files index observations).1 =
            .ok artifacts →
          Verified setting (environmentEvidence setting plan files index observations).2
            artifacts := by
  induction observations with
  | nil =>
    intro files index
    refine ⟨Kept.refl files, fun artifacts h => ?_⟩
    cases h
    intro item hitem
    cases hitem
  | cons observation observations ih =>
    intro files index
    unfold environmentEvidence
    split
    · exact ih files (index + 1)
    · split
      · refine ⟨Kept.refl files, fun artifacts h => ?_⟩
        cases h
      · rename_i uri digest written hwrite
        obtain ⟨hkept, hverify⟩ := verify_of_writeBytes hwrite
        dsimp only
        split
        · refine ⟨hkept, fun artifacts h => ?_⟩
          cases h
        · obtain ⟨hlast, hrest⟩ := ih written (index + 1)
          split
          · rename_i artifacts last heq
            rw [heq] at hlast hrest
            refine ⟨hkept.trans hlast, fun all h => ?_⟩
            cases h
            intro item hitem
            rcases List.mem_cons.mp hitem with rfl | hitem
            · exact hlast.verify hverify
            · exact hrest artifacts rfl item hitem
          · rename_i error last heq
            rw [heq] at hlast
            refine ⟨hkept.trans hlast, fun all h => ?_⟩
            cases h

/-! ## Completed results -/

/-- What a journey of a completed result rests on: it is locked in the run, it passed, and the
evidence that it links is its own, passed, and has every kind that the run asks for. -/
structure JourneySound (run : RunFields) (evidence : List EvidenceArtifact)
    (journey : JourneyResult) : Prop where
  passed : journey.outcome = .pass
  available : ∀ value ∈ journey.evidenceIds, ∃ item ∈ evidence, item.evidenceId = value
  linked : ∀ item ∈ evidence, item.evidenceId ∈ journey.evidenceIds →
    item.journeyId = journey.journeyId ∧ item.outcome = .pass
  locked : ∃ contract ∈ run.journeys, contract.journeyId = journey.journeyId
  complete : ∀ contract ∈ run.journeys, contract.journeyId = journey.journeyId →
    ∀ kind ∈ contract.requiredEvidence, ∃ item ∈ evidence,
      item.evidenceId ∈ journey.evidenceIds ∧ item.kind = kind

/-- What a completed result promises. -/
structure CompletedSound (files : Files) (plan : BrowserJourneyPlan) (run : RunFields)
    (environment : EnvironmentResult) (value : BrowserExecutionResult setting) : Prop where
  stopped : environment.stage = .stopped
  covers : (value.journeyResults.map JourneyResult.journeyId).Perm
    (plan.journeys.map JourneySpecification.journeyId)
  journeys : ∀ journey ∈ value.journeyResults, JourneySound run value.evidence journey
  unique : (value.evidence.map EvidenceArtifact.evidenceId).Nodup
  verified : Verified setting files value.evidence

variable {plan : BrowserJourneyPlan} {files : Files} {environment : EnvironmentResult}
  {result value : BrowserExecutionResult setting}

theorem validated {run : RunFields} (h : validateProviderResult files plan result run = .ok ()) :
    Verified setting files result.evidence ∧
      (∀ journey ∈ result.journeyResults,
        validateJourney run result.evidence journey = .ok ()) ∧
      (result.stage = .completed →
        (∀ value, value ∈ result.journeyResults.map JourneyResult.journeyId ↔
          value ∈ plan.journeys.map JourneySpecification.journeyId) ∧
        ∀ journey ∈ result.journeyResults, journey.outcome = .pass) := by
  unfold validateProviderResult at h
  obtain ⟨-, h⟩ := Checks.guard_bind_ok_iff.mp h
  obtain ⟨-, h⟩ := Checks.guard_bind_ok_iff.mp h
  obtain ⟨hevidence, h⟩ := Checks.check_ok_iff.mp h
  obtain ⟨hjourneys, h⟩ := Checks.check_ok_iff.mp h
  refine ⟨fun item hitem => ?_, Checks.forM_ok_iff.mp hjourneys, fun hcompleted => ?_⟩
  · have hitem := Checks.forM_ok_iff.mp hevidence item hitem
    unfold validateEvidence at hitem
    exact (Checks.guard_bind_ok_iff.mp hitem).2
  · rw [if_pos hcompleted] at h
    obtain ⟨h, -⟩ := Checks.guard_ok_iff.mp h
    obtain ⟨hsame, hpass⟩ := not_or.mp h
    refine ⟨sameItems_iff.mp (Bool.eq_true_of_not_eq_false hsame), fun journey hjourney => ?_⟩
    by_contra hno
    exact hpass (List.any_eq_true.mpr ⟨journey, hjourney, decide_eq_true hno⟩)

theorem journeySound_of_validateJourney {run : RuntimeAcceptanceRun D} {journey : JourneyResult}
    {evidence more : List EvidenceArtifact}
    (hunique : ((more ++ evidence).map EvidenceArtifact.evidenceId).Nodup)
    (hpass : journey.outcome = .pass)
    (hlocked : ∃ contract ∈ run.journeys, contract.journeyId = journey.journeyId)
    (h : validateJourney run.toRunFields evidence journey = .ok ()) :
    JourneySound run.toRunFields (more ++ evidence) journey := by
  unfold validateJourney at h
  obtain ⟨hlinked, h⟩ := Checks.guard_bind_ok_iff.mp h
  rw [if_pos hpass] at h
  obtain ⟨h, -⟩ := Checks.guard_ok_iff.mp h
  obtain ⟨hkinds, hpassed⟩ := not_or.mp h
  have hlinked := List.all_eq_true.mp (Bool.eq_true_of_not_eq_false hlinked)
  have hkinds := List.all_eq_true.mp (Bool.eq_true_of_not_eq_false hkinds)
  have hpassed := List.all_eq_true.mp (Bool.eq_true_of_not_eq_false hpassed)
  -- a linked identity is one of the evidence of the provider
  have hfound : ∀ value ∈ journey.evidenceIds, ∃ item ∈ evidence, item.evidenceId = value ∧
      item.journeyId = journey.journeyId ∧ item.outcome = .pass := by
    intro value hvalue
    have hmem := List.mem_map_of_mem (f := lastOf EvidenceArtifact.evidenceId evidence) hvalue
    have hown := hlinked _ hmem
    have hpass := hpassed _ hmem
    obtain ⟨item, hitem, hjourney⟩ := (Option.any_eq_true _ _).mp hown
    rw [hitem] at hpass
    obtain ⟨hin, hid⟩ := of_lastOf hitem
    exact ⟨item, hin, hid, of_decide_eq_true hjourney, of_decide_eq_true hpass⟩
  refine ⟨hpass, ?_, ?_, hlocked, ?_⟩
  · intro value hvalue
    obtain ⟨item, hitem, hid, -⟩ := hfound value hvalue
    exact ⟨item, List.mem_append_right more hitem, hid⟩
  · intro item hitem hid
    obtain ⟨other, hother, hsame, howns⟩ := hfound item.evidenceId hid
    rw [eq_of_nodup hunique hitem (List.mem_append_right more hother) hsame.symm]
    exact howns
  · intro contract hcontract hid kind hkind
    have hlast : requiredEvidence run.toRunFields journey.journeyId =
        contract.requiredEvidence := by
      unfold requiredEvidence
      rw [← hid, lastOf_of_mem (journeys_nodup run) hcontract]
      rfl
    rw [hlast] at hkinds
    obtain ⟨found, hfound, hhas⟩ := List.any_eq_true.mp (hkinds kind hkind)
    obtain ⟨value, hvalue, rfl⟩ := List.mem_map.mp hfound
    obtain ⟨item, hitem, hsame⟩ := (Option.any_eq_true _ _).mp hhas
    obtain ⟨hin, hkey⟩ := of_lastOf hitem
    rw [← hkey] at hvalue
    exact ⟨item, List.mem_append_right more hin, hvalue, of_decide_eq_true hsame⟩

theorem locked_of_authorize {run : RunFields} {configuration : RuntimeConfiguration}
    {policy : BrowserExecutionPolicy} {providerId : String}
    (h : authorize setting run plan configuration policy providerId = .ok ()) :
    ∀ value ∈ plan.journeys.map JourneySpecification.journeyId,
      ∃ contract ∈ run.journeys, contract.journeyId = value := by
  intro value hvalue
  unfold authorize at h
  obtain ⟨-, h⟩ := Checks.guard_bind_ok_iff.mp h
  obtain ⟨-, h⟩ := Checks.guard_bind_ok_iff.mp h
  obtain ⟨hsame, -⟩ := Checks.guard_bind_ok_iff.mp h
  have hmem := (sameItems_iff.mp (Bool.eq_true_of_not_eq_false hsame) value).mpr hvalue
  obtain ⟨contract, hcontract, hid⟩ := List.mem_map.mp hmem
  exact ⟨contract, (List.mem_filter.mp hcontract).1, hid⟩

theorem terminal_completed {fields : ResultFields}
    (h : (terminal environment fields).1 = .completed) :
    environment.stage = .stopped ∧ fields.stage = .completed := by
  unfold terminal at h
  split at h
  · cases h
  · cases h
  · rename_i hstage
    exact ⟨hstage, h⟩

/-- What holds of the result that an execution makes of the result of the probe. -/
theorem completed_of_finish {run : RuntimeAcceptanceRun D} {before : Files}
    {artifacts : List EvidenceArtifact}
    (hlocked : ∀ value ∈ plan.journeys.map JourneySpecification.journeyId,
      ∃ contract ∈ run.journeys, contract.journeyId = value)
    (hkept : Kept before files) (hartifacts : Verified setting files artifacts)
    (hchecks : validateProviderResult before plan result run.toRunFields = .ok ())
    (hvalue : value.toResultFields = mergedFields environment artifacts result.toResultFields) :
    Verified setting files value.evidence ∧
      (value.stage = .completed →
        CompletedSound files plan run.toRunFields environment value) := by
  obtain ⟨hverified, hjourneys, hcompleted⟩ := validated hchecks
  have hevidence : value.evidence = artifacts ++ result.evidence := by
    rw [hvalue]
    rfl
  have hresults : value.journeyResults = result.journeyResults := by
    rw [hvalue]
    rfl
  have hall : Verified setting files value.evidence := by
    intro item hitem
    rw [hevidence, List.mem_append] at hitem
    rcases hitem with hitem | hitem
    · exact hartifacts item hitem
    · exact hverified.kept hkept item hitem
  refine ⟨hall, fun hstage => ?_⟩
  have hterminal : (terminal environment result.toResultFields).1 = .completed :=
    (congrArg ResultFields.stage hvalue).symm.trans hstage
  obtain ⟨hstopped, hresult⟩ := terminal_completed hterminal
  obtain ⟨hcovers, hpass⟩ := hcompleted hresult
  obtain ⟨hunique, hnodup⟩ := value.unique
  refine ⟨hstopped, ?_, ?_, hunique, hall⟩
  · rw [hresults] at hnodup ⊢
    exact (List.perm_ext_iff_of_nodup hnodup plan.journeys_nodup).mpr hcovers
  · intro journey hjourney
    rw [hresults] at hjourney
    rw [hevidence] at hunique ⊢
    have hplanned := (hcovers journey.journeyId).mp (List.mem_map_of_mem hjourney)
    exact journeySound_of_validateJourney hunique (hpass journey hjourney)
      (hlocked journey.journeyId hplanned) (hjourneys journey hjourney)

/-! ## Executions -/

structure StoredBy (call : BrowserCall setting D) (w : BrowserWorld)
    (value : BrowserExecutionResult setting) : Prop where
  key : value.key = call.request.key
  planDigest : value.planDigest = call.request.planDigest
  verified : Verified setting w.files value.evidence
  completed : value.stage = .completed →
    ∃ run plan environment outcome, call.run = some run ∧ call.plan = some plan ∧
      call.execution = .ended environment (some outcome) ∧
        CompletedSound w.files plan run.toRunFields environment value

/-- What one call does to the world: files are only added, and when a result is stored, it is
the first one for its request. -/
inductive Steps (call : BrowserCall setting D) (w w' : BrowserWorld) : Prop
  | kept (hfiles : Kept w.files w'.files) (hresults : w'.results = w.results)
  | stored (value : BrowserExecutionResult setting) (hfiles : Kept w.files w'.files)
      (hnone : w.results.lookup call.request.key = none)
      (hresults : w'.results = w.results ++ [(call.request.key, envelope setting value)])
      (hstored : StoredBy call w' value)

/-- A result is stored once. -/
theorem steps_save {call : BrowserCall setting D} {w started : BrowserWorld}
    (hfiles : Kept w.files started.files) (hresults : started.results = w.results)
    (hnone : w.results.lookup call.request.key = none) (hstored : StoredBy call started value) :
    Steps call w (started.save value).2 := by
  unfold BrowserWorld.save
  split
  · exact .kept hfiles hresults
  · rename_i saved results hsave
    rw [← hresults, ← hstored.key] at hnone
    obtain ⟨-, hresult, -⟩ := loadResult_saveResult hnone hsave
    rw [hstored.key] at hnone hresult
    refine .stored value hfiles (by rwa [hresults] at hnone) ?_ ?_
    · rw [← hresults]
      exact hresult
    · exact ⟨hstored.key, hstored.planDigest, hstored.verified, hstored.completed⟩

theorem admitted {call : BrowserCall setting D} {run : RuntimeAcceptanceRun D}
    (h : call.admit = .ok (run, plan)) :
    call.run = some run ∧ call.plan = some plan ∧
      (plan.productId, plan.runId, plan.planId) = call.request.key ∧
        plan.digest = call.request.planDigest ∧
          ∀ value ∈ plan.journeys.map JourneySpecification.journeyId,
            ∃ contract ∈ run.journeys, contract.journeyId = value := by
  unfold BrowserCall.admit at h
  cases hrun : call.run with
  | none =>
    rw [hrun] at h
    cases h
  | some stored =>
    rw [hrun] at h
    obtain ⟨-, h⟩ := Checks.guard_bind_ok_iff.mp h
    obtain ⟨loaded, hload, h⟩ := Checks.bind_ok_iff.mp h
    obtain ⟨hdigest, h⟩ := Checks.guard_bind_ok_iff.mp h
    obtain ⟨configuration, -, h⟩ := Checks.bind_ok_iff.mp h
    obtain ⟨hauthorized, h⟩ := Checks.check_ok_iff.mp h
    cases h
    unfold BrowserCall.loadPlan at hload
    split at hload
    · rename_i held hplan
      split at hload
      · rename_i hkey
        cases hload
        obtain ⟨hproduct, hid, hplanId⟩ := hkey
        refine ⟨rfl, hplan, ?_, not_not.mp hdigest, locked_of_authorize hauthorized⟩
        rw [hproduct, hid, hplanId]
        rfl
      · cases hload
    · cases hload

/-- The result of the probe is stored with the evidence of the environment, or nothing is. -/
theorem steps_finish {call : BrowserCall setting D} {w started : BrowserWorld}
    {run : RuntimeAcceptanceRun D} {outcome : ProviderOutcome setting}
    (hfiles : Kept w.files started.files) (hresults : started.results = w.results)
    (hnone : w.results.lookup call.request.key = none)
    (hadmitted : call.admit = .ok (run, plan))
    (hexecution : call.execution = .ended environment (some outcome)) :
    Steps call w (started.finish plan run.toRunFields environment result).2 := by
  obtain ⟨hrun, hplan, hkey, hdigest, hlocked⟩ := admitted hadmitted
  unfold BrowserWorld.finish
  split
  · exact .kept hfiles hresults
  · rename_i hchecks
    unfold probeChecks at hchecks
    obtain ⟨hbinding, hchecks⟩ := Checks.guard_bind_ok_iff.mp hchecks
    obtain ⟨hvalid, -⟩ := Checks.check_ok_iff.mp hchecks
    obtain ⟨hrunId, hproductId, hplanId, hplanDigest, -⟩ := not_not.mp hbinding
    obtain ⟨hkept, hartifacts⟩ :=
      @environmentEvidence_verified setting plan environment.observations started.files 0
    split
    · rename_i error files henvironment
      rw [henvironment] at hkept
      exact .kept (hfiles.trans hkept) hresults
    · rename_i artifacts files henvironment
      rw [henvironment] at hkept hartifacts
      split
      · exact .kept (hfiles.trans hkept) hresults
      · rename_i value hnew
        have hvalue := new_ok hnew
        obtain ⟨hverified, hcompleted⟩ := completed_of_finish hlocked hkept
          (hartifacts artifacts rfl) hvalid hvalue
        refine steps_save (hfiles.trans hkept) hresults hnone ⟨?_, ?_, hverified, ?_⟩
        · rw [← hkey, hvalue, ← hproductId, ← hrunId, ← hplanId]
          rfl
        · rw [← hdigest, hvalue, ← hplanDigest]
          rfl
        · exact fun hstage =>
            ⟨run, plan, environment, outcome, hrun, hplan, hexecution, hcompleted hstage⟩

theorem steps_notReady {call : BrowserCall setting D} {w started : BrowserWorld}
    {run : RuntimeAcceptanceRun D} {stage : BrowserExecutionStage}
    {startedAt completedAt : Timestamp} {code : String}
    (hfiles : Kept w.files started.files) (hresults : started.results = w.results)
    (hnone : w.results.lookup call.request.key = none)
    (hadmitted : call.admit = .ok (run, plan))
    (hstage : stage ≠ .completed)
    (hvalue : value.toResultFields = failedFields plan stage startedAt completedAt code) :
    Steps call w (started.save value).2 := by
  obtain ⟨-, -, hkey, hdigest, -⟩ := admitted hadmitted
  refine steps_save hfiles hresults hnone ⟨?_, ?_, ?_, ?_⟩
  · rw [← hkey, hvalue]
    rfl
  · rw [← hdigest, hvalue]
    rfl
  · intro item hitem
    rw [hvalue] at hitem
    cases hitem
  · intro hcompleted
    rw [hvalue] at hcompleted
    exact absurd hcompleted hstage

theorem lookup_of_findResult {results : ResultFiles} {key : ResultKey}
    (h : findResult setting results key = .ok none) : results.lookup key = none := by
  unfold findResult at h
  obtain ⟨-, h⟩ := Checks.check_ok_iff.mp h
  split at h
  · assumption
  · cases hload : loadResult setting results key <;> rw [hload] at h <;> cases h

/-- What a call does to the world. -/
theorem execute_steps (w : BrowserWorld) (call : BrowserCall setting D) :
    Steps call w (w.execute call).2 := by
  unfold BrowserWorld.execute
  split
  · exact .kept (Kept.refl _) rfl
  · exact .kept (Kept.refl _) rfl
  · rename_i hfind
    have hnone := lookup_of_findResult hfind
    split
    · exact .kept (Kept.refl _) rfl
    · rename_i run plan hadmitted
      have hfiles := @kept_providerWrites setting w.files call.writes
      unfold BrowserWorld.environment
      split
      · exact .kept hfiles rfl
      · dsimp only
        split
        · exact .kept hfiles rfl
        · rename_i value hnew
          refine steps_notReady hfiles rfl hnone hadmitted ?_ (new_ok hnew)
          split <;> decide
      · rename_i environment outcome hexecution
        dsimp only
        split
        · exact .kept hfiles rfl
        · exact steps_finish hfiles rfl hnone hadmitted hexecution

/-! ## Runs -/

/-- What holds of every result that is stored: its evidence verifies, and it is loaded as it was
saved. -/
def Sound (setting : BrowserSetting) (w : BrowserWorld) : Prop :=
  ∀ key stored, w.results.lookup key = some stored →
    ∃ value : BrowserExecutionResult setting, stored = envelope setting value ∧
      value.key = key ∧ Verified setting w.files value.evidence

theorem lookup_append_single {results : ResultFiles} {key key' : ResultKey}
    {entry stored : Envelope} (h : (results ++ [(key', entry)]).lookup key = some stored) :
    results.lookup key = some stored ∨ (key = key' ∧ stored = entry) := by
  rw [List.lookup_append] at h
  cases hlookup : results.lookup key with
  | some found =>
    rw [hlookup] at h
    exact .inl h
  | none =>
    rw [hlookup] at h
    by_cases hkey : key = key'
    · subst hkey
      simp [List.lookup] at h
      exact .inr ⟨rfl, h.symm⟩
    · have hne : (key == key') = false := beq_false_of_ne hkey
      simp [List.lookup, hne] at h

theorem Sound.execute {w : BrowserWorld} (h : Sound setting w) (call : BrowserCall setting D) :
    Sound setting (w.execute call).2 := by
  intro key stored hlookup
  cases execute_steps w call with
  | kept hfiles hresults =>
    rw [hresults] at hlookup
    obtain ⟨value, hstored, hkey, hverified⟩ := h key stored hlookup
    exact ⟨value, hstored, hkey, hverified.kept hfiles⟩
  | stored value hfiles hnone hresults hstored =>
    rw [hresults] at hlookup
    rcases lookup_append_single hlookup with hlookup | ⟨rfl, rfl⟩
    · obtain ⟨value, hstored, hkey, hverified⟩ := h key stored hlookup
      exact ⟨value, hstored, hkey, hverified.kept hfiles⟩
    · exact ⟨value, rfl, hstored.key, hstored.verified⟩

theorem Sound.after {w : BrowserWorld} (calls : List (BrowserCall setting D))
    (h : Sound setting w) : Sound setting (w.after calls) := by
  induction calls generalizing w with
  | nil => exact h
  | cons call calls ih => exact ih (h.execute call)

/-- What is stored for a request stays stored. -/
theorem lookup_execute {w : BrowserWorld} {key : ResultKey} {stored : Envelope}
    (h : w.results.lookup key = some stored) (call : BrowserCall setting D) :
    (w.execute call).2.results.lookup key = some stored := by
  cases execute_steps w call with
  | kept hfiles hresults => rwa [hresults]
  | stored value hfiles hnone hresults hstored =>
    rw [hresults, List.lookup_append, h]
    rfl

theorem lookup_after {w : BrowserWorld} {key : ResultKey} {stored : Envelope}
    (calls : List (BrowserCall setting D)) (h : w.results.lookup key = some stored) :
    (w.after calls).results.lookup key = some stored := by
  induction calls generalizing w with
  | nil => exact h
  | cons call calls ih => exact ih (lookup_execute h call)

/-- A call for a plan whose result is stored starts no environment, and returns the result. -/
theorem execute_of_lookup {w : BrowserWorld} (hsound : Verified setting w.files value.evidence)
    {call : BrowserCall setting D} (hkey : value.key = call.request.key)
    (hlookup : w.results.lookup call.request.key = some (envelope setting value)) :
    (w.execute call).2 = w ∧ (value.planDigest = call.request.planDigest →
      (w.execute call).1 = .ok value) := by
  have hfind : findResult setting w.results call.request.key = .ok (some value) := by
    rw [← hkey] at hlookup ⊢
    exact findResult_of_lookup (resultPath_key value) hlookup
  unfold BrowserWorld.execute
  rw [hfind]
  refine ⟨rfl, fun hdigest => ?_⟩
  refine Checks.guard_bind_ok_iff.mpr ⟨not_not.mpr hdigest, Checks.check_ok_iff.mpr ⟨?_, rfl⟩⟩
  exact Checks.forM_ok_iff.mpr hsound

/-- Stored browser results are sound and final, in every run of calls. A result that a call
stores is bound to the request; when it is completed, the environment of the call stopped, the
result covers the journeys of the plan, every journey passed with its own, complete and passing
evidence, the evidence is unique, and every artifact verifies. Whatever is called later, a call
for the same request returns the stored result, and leaves the world as it is: no environment is
started. -/
theorem browser_results_final (before : List (BrowserCall setting D))
    (call : BrowserCall setting D) (later : List (BrowserCall setting D)) {stored : Envelope}
    (hnone : (BrowserWorld.after before {}).results.lookup call.request.key = none)
    (hstored : (BrowserWorld.after (before ++ [call]) {}).results.lookup call.request.key =
      some stored) :
    ∃ value : BrowserExecutionResult setting, stored = envelope setting value ∧
      StoredBy call (BrowserWorld.after (before ++ [call]) {}) value ∧
        ∀ again : BrowserCall setting D, again.request = call.request →
          (BrowserWorld.after (before ++ call :: later) {}).execute again =
            (.ok value, BrowserWorld.after (before ++ call :: later) {}) := by
  have hstep : BrowserWorld.after (before ++ [call]) {} =
      ((BrowserWorld.after before {}).execute call).2 := by
    rw [BrowserWorld.after, List.foldl_append]
    rfl
  have hlater : BrowserWorld.after (before ++ call :: later) {} =
      BrowserWorld.after later (BrowserWorld.after (before ++ [call]) {}) := by
    rw [List.append_cons, BrowserWorld.after, List.foldl_append]
    rfl
  have hempty : Sound setting ({} : BrowserWorld) := by
    intro key stored h
    cases h
  have hsteps := execute_steps (BrowserWorld.after before {}) call
  rw [← hstep] at hsteps
  cases hsteps with
  | kept hfiles hresults =>
    rw [hresults, hnone] at hstored
    cases hstored
  | stored value hfiles hnone hresults hby =>
    have hvalue : stored = envelope setting value := by
      rw [hresults] at hstored
      rcases lookup_append_single hstored with hlookup | ⟨-, hentry⟩
      · rw [hnone] at hlookup
        cases hlookup
      · exact hentry
    refine ⟨value, hvalue, hby, fun again hagain => ?_⟩
    rw [hvalue] at hstored
    have hheld := lookup_after later hstored
    have hsound := (hempty.after (before ++ [call])).after later
    rw [hlater]
    obtain ⟨other, hother, -, hverified⟩ := hsound _ _ hheld
    have hsame : other = value := envelope_injective hother.symm
    rw [hsame] at hverified
    rw [← hagain] at hheld
    obtain ⟨hworld, hreturned⟩ := execute_of_lookup hverified
      (hby.key.trans (congrArg _ hagain.symm)) hheld
    exact Prod.ext (hreturned (hby.planDigest.trans (congrArg _ hagain.symm))) hworld

end Service

/-! ## A completed run -/

def emptyObjectDigest : String :=
  "44136fa355b3678a1146ad16f7e8649e94fb4fc21fe77e8310c060f61caaff8a"

/-- The JSON text of the observation of the run. -/
def readinessJson : String :=
  "\x7b\"completed_at\":\"1970-01-01T00:00:01+00:00\",\"configuration_digest\":\"" ++
    emptyObjectDigest ++ "\",\"exit_code\":null,\"kind\":\"READINESS\",\"outcome\":\"PASS\"," ++
    "\"output_digest\":\"" ++ emptyObjectDigest ++
    "\",\"started_at\":\"1970-01-01T00:00:00+00:00\",\"subject_id\":\"web\"," ++
    "\"summary\":\"ready\"\x7d"

/-- The SHA-256 of that text. -/
def readinessDigest : String :=
  "4fb89488d36357f390e99c12beeb5087823c5eb05a3a01dd953ff8e0c0b5901a"

/-- The setting of a run whose artifacts are that text and an empty JSON object. -/
def joinSetting : BrowserSetting where
  casefold := id
  sha256 content :=
    if content = readinessJson.toUTF8.toList then readinessDigest else emptyObjectDigest
  resultDigest _ := emptyObjectDigest
  observationJson _ _ := readinessJson.toUTF8.toList
  hasFormat _ _ := true
  artifactParts uri :=
    if "artifact://browser/".toList.isPrefixOf uri.toList = true then
      some (((uri.toList.drop 19).splitOn '/').map String.ofList)
    else none
  endpointOrigin := id
  maximumBytes := 1024
  sha256_hex content := by split <;> decide
  artifactParts_uri product run filename hproduct hrun hfilename := by
    have hparts : ("artifact://browser/" ++ product ++ "/" ++ run ++ "/" ++ filename).toList =
        "artifact://browser/".toList ++
          ['/'].intercalate [product.toList, run.toList, filename.toList] := by
      simp [String.toList_append, List.intercalate]
    have hno : ∀ {value : String}, isIdentifier value = true → '/' ∉ value.toList := by
      intro value hvalue hmem
      unfold isIdentifier at hvalue
      split at hvalue
      · cases hvalue
      · rename_i first rest heq
        rw [heq] at hmem
        simp only [Bool.and_eq_true, List.all_eq_true] at hvalue
        rcases List.mem_cons.mp hmem with rfl | hmem
        · exact absurd hvalue.1.1 (by decide)
        · exact absurd (hvalue.2 '/' hmem) (by decide)
    have hname : '/' ∉ filename.toList := by
      intro hmem
      rcases hfilename '/' hmem with h | h
      · exact absurd h (by decide)
      · exact absurd h (by decide)
    rw [hparts]
    have hdrop : ∀ rest : List Char, ("artifact://browser/".toList ++ rest).drop 19 = rest := by
      intro rest
      exact List.drop_left' (by decide)
    have hstarts : ∀ rest : List Char, "artifact://browser/".toList.isPrefixOf
        ("artifact://browser/".toList ++ rest) = true := by
      intro rest
      exact List.isPrefixOf_iff_prefix.mpr (List.prefix_append _ _)
    rw [if_pos (hstarts _), hdrop, List.splitOn_intercalate]
    · simp
    · intro part hpart
      simp only [List.mem_cons, List.not_mem_nil, or_false] at hpart
      rcases hpart with rfl | rfl | rfl
      · exact hno hproduct
      · exact hno hrun
      · exact hname
    · simp

/-- The commit of the run. -/
def joinSha : String :=
  "aaaaaaaaaaaaaaaaaaaaaaaaaaaaaaaaaaaaaaaa"

def oneDigest : Digests where
  contract _ := emptyObjectDigest
  profile _ := emptyObjectDigest
  evidence _ := emptyObjectDigest
  evidence_hex _ := by decide

/-- A run whose one journey asks for evidence of the browser. -/
def verifiedRun : RuntimeAcceptanceRun oneDigest where
  runId := "run"
  productId := "product"
  version := "1.0"
  commitSha := joinSha
  stage := .automatedVerified
  capabilities := [⟨"signup", "1", "Sign up", ["join"], [], true, true, false⟩]
  journeys := [⟨"join", "signup", "Join", [.browser], true⟩]
  createdAt := 0
  updatedAt := 0
  runtimeConfigurationId := "local"
  runtimeConfigurationRevision := 1
  runtimeConfigurationDigest := emptyObjectDigest
  acceptanceProfileId := "profile"
  acceptanceProfileVersion := "1"
  acceptanceProfileDigest := emptyObjectDigest
  checked := by decide +kernel

def joinPlan : BrowserJourneyPlan where
  planId := "plan"
  runId := "run"
  productId := "product"
  configurationId := "local"
  configurationRevision := 1
  configurationDigest := emptyObjectDigest
  commitSha := joinSha
  acceptanceProfileId := "profile"
  acceptanceProfileVersion := "1"
  acceptanceProfileDigest := emptyObjectDigest
  firstJourney := ⟨"join", "signup", "Join"⟩
  otherJourneys := []
  inputs := []
  digest := emptyObjectDigest
  journeys_nodup := List.nodup_singleton _

/-- What the provider returns: the journey passed, with an artifact of its own. -/
def joinResult : BrowserExecutionResult joinSetting where
  runId := "run"
  productId := "product"
  planId := "plan"
  planDigest := emptyObjectDigest
  commitSha := joinSha
  stage := .completed
  evidence := [⟨"join-1", "run", "signup", "join", .browser, .pass, joinSha,
    artifactUri "product" "run" (emptyObjectDigest ++ ".json"), emptyObjectDigest, 2, "joined",
    []⟩]
  journeyResults := [⟨"join", .pass, ["join-1"], 2⟩]
  startedAt := 1
  completedAt := 2
  checked := by decide +kernel

/-- The call that is answered so, after an environment that became ready and stopped. -/
def joinCall : BrowserCall joinSetting oneDigest where
  request := ⟨"run", "product", "plan", emptyObjectDigest⟩
  run := some verifiedRun
  plan := some joinPlan
  configuration := .ok ⟨"product", "local", 1, emptyObjectDigest, joinSha, "profile", "1",
    emptyObjectDigest, ["http://127.0.0.1:8000"]⟩
  policy := ⟨["playwright"], ["http://127.0.0.1:8000"], [], []⟩
  providerId := "playwright"
  secret _ := none
  now := 1
  writes := [⟨"product", "run", "\x7b\x7d".toUTF8.toList, "json"⟩]
  execution := .ended
    ⟨.stopped, [⟨.readiness, "web", .pass, 0, 1, "ready", emptyObjectDigest, none⟩], 0, 3, none⟩
    (some (.returned joinResult))

/-- What the call stores: the result with the evidence of the environment. -/
def joinStored : Option Envelope :=
  (BrowserWorld.after [joinCall] {}).results.lookup joinCall.request.key

theorem joinStored_completed : joinStored.map (fun stored =>
    (stored.result.stage, stored.result.evidence.map EvidencePayload.evidenceId)) =
      some ("COMPLETED", ["run.join.environment-0", "join-1"]) := by
  decide +kernel

theorem browser_results_final_joinCall :
    ({} : BrowserWorld).results.lookup joinCall.request.key = none ∧
      ∃ stored, joinStored = some stored ∧
        ∃ value : BrowserExecutionResult joinSetting, stored = envelope joinSetting value ∧
          StoredBy joinCall (BrowserWorld.after [joinCall] {}) value ∧
            ∀ again : BrowserCall joinSetting oneDigest, again.request = joinCall.request →
              (BrowserWorld.after [joinCall] {}).execute again =
                (.ok value, BrowserWorld.after [joinCall] {}) := by
  refine ⟨rfl, ?_⟩
  cases h : joinStored with
  | none =>
    have hstored := joinStored_completed
    rw [h] at hstored
    cases hstored
  | some stored =>
    exact ⟨stored, rfl, browser_results_final [] joinCall [] rfl h⟩

end ManagedProduct
end Ascos
