import Ascos.Library.Interruption
import Ascos.ProductPilot.Chain
import Ascos.V1Hardening.Model

/-!
# V1 hardening acceptance

`FileV1HardeningAcceptanceArtifactStore` of
`runtime/v1_hardening_acceptance/persistence.py` for one execution of a tenant, and the
service of `service.py` that fills it.  A process may die before any step.

Main results:

- Theorem `acceptance_evidence_recoverable_iff`: at which steps a save and a recovery may be
  cut short without the evidence being lost.
- Theorem `hardening_evidence_bound_iff`: when what is stored, and what a file holds, is bound
  to the controls of the order and to the observation.
-/

namespace Ascos
namespace V1Hardening

open Ascos.Authentication (isIdentifierChar)
open Ascos.GitHubDelivery (Error Key constructed constructed_eq_ok isIdentifier require
  require_eq_ok)
open Ascos.Library
open Ascos.Library.Procedure
open Ascos.ProductPilot (EndToEndProductPilotArtifact eq_true_of_check)
open Ascos.Runtime (Timestamp)

/-! ## The store -/

/-- The directory of an execution: its two files, and how many temporary ones are left. -/
structure Directory (Bytes : Type) where
  primary : Option Bytes
  backup : Option Bytes
  temporaries : Nat

/-- The directory, once it is made. -/
abbrev World (Bytes : Type) :=
  Option (Directory Bytes)

/-- The calls of the store and of the service. -/
abbrev Storing (Bytes α : Type) :=
  Procedure (World Bytes) Error α

inductive FileName where
  | primary
  | backup
deriving DecidableEq

variable {Bytes : Type}

namespace Directory

def get (directory : Directory Bytes) : FileName → Option Bytes
  | .primary => directory.primary
  | .backup => directory.backup

def put (directory : Directory Bytes) (name : FileName) (content : Bytes) : Directory Bytes :=
  match name with
  | .primary => { directory with primary := some content }
  | .backup => { directory with backup := some content }

/-- `_require_closed`. -/
def closed (directory : Directory Bytes) (allowPrimaryMissing : Bool) : Bool :=
  (allowPrimaryMissing || directory.primary.isSome) && directory.backup.isSome &&
    decide (directory.temporaries = 0)

end Directory

def V1HardeningAcceptanceArtifact.key (artifact : V1HardeningAcceptanceArtifact) : Key :=
  ⟨artifact.tenantId, artifact.executionId⟩

/-- `V1HardeningCorrupt(message)`. -/
def corrupt (message : String) : Error :=
  ⟨.corrupt, message⟩

/-- `_directory`. -/
def directoryOf (key : Key) : Except Error Unit :=
  if [key.tenantId, key.executionId].all (fun value => value ≠ "" &&
      value.toList.all (isIdentifierChar ['_', '.', ':', '-'])) = true then pure ()
  else throw (corrupt "Day 37 storage identity is unsafe")

variable (setting : Setting Bytes)

/-- The artifact that a file holds under a key. -/
def decodeFor (key : Key) (content : Bytes) (message : String) :
    Except Error V1HardeningAcceptanceArtifact := do
  let artifact ← decode setting content
  if artifact.key = key then pure artifact else throw (corrupt message)

variable {setting} {artifact : V1HardeningAcceptanceArtifact}

theorem directoryOf_key (hconstruct : artifact.construct setting = .ok ()) :
    directoryOf artifact.key = .ok () := by
  unfold V1HardeningAcceptanceArtifact.construct V1HardeningAcceptanceArtifact.postInit
    at hconstruct
  simp only [Checks.check_ok_iff, ProductPilot.identifiers, Checks.forM_ok_iff] at hconstruct
  have hidentifiers := hconstruct.2.2.1
  have hsafe : ∀ value label, GitHubDelivery.identifier value label = .ok () →
      (decide (value ≠ "") &&
        value.toList.all (isIdentifierChar ['_', '.', ':', '-'])) = true := by
    intro value label h
    have hidentifier : isIdentifier value = true := eq_true_of_check h
    unfold isIdentifier at hidentifier
    cases hvalue : value.toList with
    | nil => simp [hvalue] at hidentifier
    | cons c rest =>
        simp only [hvalue, Bool.and_eq_true] at hidentifier
        have hfirst : isIdentifierChar ['_', '.', ':', '-'] c = true := by
          have hplain := hidentifier.1.1
          unfold isIdentifierChar at hplain ⊢
          simp_all
        have hne : value ≠ "" := by
          rintro rfl
          cases hvalue
        simp [hne, hfirst, hidentifier.2]
  have htenant := hsafe _ _ (hidentifiers (artifact.tenantId, "tenant") (by simp))
  have hexecution := hsafe _ _ (hidentifiers (artifact.executionId, "execution") (by simp))
  unfold directoryOf
  rw [V1HardeningAcceptanceArtifact.key, List.all_cons, List.all_cons, List.all_nil, htenant,
    hexecution]
  rfl

theorem decodeFor_payload (hconstruct : artifact.construct setting = .ok ()) {message : String} :
    decodeFor setting artifact.key (payload setting artifact) message = .ok artifact := by
  unfold decodeFor
  rw [decode_payload setting hconstruct]
  exact if_pos rfl

variable [DecidableEq Bytes] (setting)

/-- What `load` finds. -/
def loaded (key : Key) : World Bytes → Except Error V1HardeningAcceptanceArtifact
  | none => .error ⟨.notFound, "Day 37 artifact directory was not found"⟩
  | some directory =>
    match directory.primary, directory.backup, directory.closed false with
    | some primary, some backup, true =>
        if primary ≠ backup then
          .error (corrupt "Day 37 primary and backup artifacts differ")
        else decodeFor setting key primary "Day 37 artifact identity changed"
    | _, _, _ => .error (corrupt "Day 37 artifact directory is not closed")

def load (key : Key) : Storing Bytes V1HardeningAcceptanceArtifact := do
  ofExcept (directoryOf key)
  query (loaded setting key)

def find (key : Key) : Storing Bytes (Option V1HardeningAcceptanceArtifact) :=
  ((load setting key).bind fun artifact => pure (some artifact)).handle fun error =>
    if error.errorClass = .notFound then pure none else raise error

/-- `_write`; nobody looks into the temporary file. -/
def write (name : FileName) (content : Bytes) (replace : Bool) : Storing Bytes Unit := do
  modify (Option.map fun directory =>
    { directory with temporaries := directory.temporaries + 1 })
  let present ← query fun world => .ok (world.any fun directory => (directory.get name).isSome)
  if present && !replace then
    modify (Option.map fun directory =>
      { directory with temporaries := directory.temporaries - 1 })
    raise ⟨.conflict, "Day 37 artifact is immutable"⟩
  else
    modify (Option.map fun directory =>
      { directory.put name content with temporaries := directory.temporaries - 1 })

def requireClosed : Storing Bytes Unit :=
  query fun world =>
    if world.any (·.closed false) = true then .ok ()
    else .error (corrupt "Day 37 artifact directory is not closed")

def verifyBackup (artifact : V1HardeningAcceptanceArtifact) : Storing Bytes Unit :=
  query fun world =>
    match world.bind (·.backup) with
    | none => .error ⟨.notFound, "Day 37 artifact was not found"⟩
    | some content => do
        if (← decode setting content) = artifact then pure ()
        else throw (corrupt "Day 37 backup verification failed")

def save (artifact : V1HardeningAcceptanceArtifact) :
    Storing Bytes V1HardeningAcceptanceArtifact := do
  ofExcept (directoryOf artifact.key)
  modify fun world => some (world.getD ⟨none, none, 0⟩)
  let present ← query fun world =>
    .ok (world.any fun directory => directory.primary.isSome || directory.backup.isSome)
  if present then
    let existing ← load setting artifact.key
    if existing = artifact then pure existing
    else raise ⟨.conflict, "Day 37 artifact is immutable"⟩
  else
    write .primary (payload setting artifact) false
    write .backup (payload setting artifact) false
    requireClosed
    verifyBackup setting artifact
    pure artifact

/-- What `recover` reads before it writes. -/
def verifiedBackup (key : Key) : World Bytes → Except Error Bytes
  | none => .error ⟨.notFound, "Day 37 artifact directory was not found"⟩
  | some directory =>
    match directory.backup, directory.closed true with
    | some backup, true => do
        let _ ← decodeFor setting key backup "Day 37 backup identity changed"
        pure backup
    | _, _ => .error (corrupt "Day 37 artifact directory is not closed")

def recover (key : Key) : Storing Bytes V1HardeningAcceptanceArtifact := do
  ofExcept (directoryOf key)
  let content ← query (verifiedBackup setting key)
  write .primary content true
  load setting key

/-! ## The service -/

/-- What a call of the service finds: the time, the stored pilots and its provider. -/
structure Environment where
  now : Timestamp
  pilots : String → String → Except Error EndToEndProductPilotArtifact
  providerId : String
  execute : V1HardeningWorkOrder → V1HardeningAuthority → V1HardeningSourceSnapshot →
    Except Error V1HardeningObservation

/-- What `run` is called with. -/
structure Request where
  executionId : String
  order : V1HardeningWorkOrder
  authority : V1HardeningAuthority
  pilot : EndToEndProductPilotArtifact

/-- Where the artifact of a call is kept. -/
def Request.key (request : Request) : Key :=
  ⟨request.order.tenantId, request.executionId⟩

variable (env : Environment) (request : Request)

def validateAuthority (order : V1HardeningWorkOrder) (authority : V1HardeningAuthority) :
    Except Error Unit := do
  require (decide (order.issuedAt ≤ env.now ∧ env.now < order.expiresAt))
    "Day 37 work order is not current"
  require (decide (authority.issuedAt ≤ env.now ∧ env.now < authority.expiresAt))
    "Day 37 authority is not current"
  require (decide (authority.tenantId = order.tenantId ∧
    authority.assignmentId = order.assignmentId ∧ authority.pilotId = order.pilotId ∧
      authority.workOrderDigest = order.digest setting ∧
        authority.sourcePilotArtifactDigest = order.sourcePilotArtifactDigest ∧
          authority.controlSourceDigests = order.controlSourceDigests))
    "Day 37 authority binding is invalid"

def validatePilot (order : V1HardeningWorkOrder) (pilot : EndToEndProductPilotArtifact) :
    Except Error Unit := do
  require (decide (pilot.tenantId = order.tenantId ∧
    pilot.executionId = order.sourcePilotExecutionId ∧ pilot.pilotId = order.pilotId ∧
      pilotDigest setting pilot = order.sourcePilotArtifactDigest ∧
        pilot.repositoryFullName = order.repositoryFullName ∧
          pilot.featureBranch = order.featureBranch ∧
            pilot.approvedCommit = order.approvedCommit ∧
              pilot.approvedTree = order.approvedTree ∧
                pilot.draftPullRequestNumber = order.draftPullRequestNumber ∧
                  pilot.previewUrl = order.previewUrl ∧ pilot.journeyIds = order.journeyIds))
    "Day 36 pilot identity or digest drifted"
  require (decide (order.controlSourceDigests =
    hardeningPolicyDigestsFor setting (pilotDigest setting pilot)))
    "Day 37 hardening contract digest drifted"
  require (decide (pilot.status = "PILOT_COMPLETED_AWAITING_FOUNDER_ACCEPTANCE" ∧
    pilot.productionState = ProductPilot.productionState ∧
      pilot.stageReceipts.map (·.stageId) = ProductPilot.pilotStageIds ∧
        pilot.governanceCapabilityIds = ProductPilot.endToEndProductPilotCapabilities ∧
          pilot.sourceRecordCount = 7 ∧
            pilot.completedJourneyCount = pilot.passedJourneyCount ∧
              pilot.passedJourneyCount = order.journeyIds.length))
    "Day 36 pilot is not terminal and complete"
  require (pilot.prohibited.all (· = 0)) "Day 36 pilot contains prohibited effects"

/-- What a snapshot and an artifact take over. -/
def Request.sources : PilotSources where
  pilotId := request.pilot.pilotId
  sourcePilotArtifactDigest := pilotDigest setting request.pilot
  securityArtifactDigest := request.pilot.securityArtifactDigest
  devopsArtifactDigest := request.pilot.devopsArtifactDigest
  documentationArtifactDigest :=
    setting.sha256 (setting.documentationText request.pilot.orchestrationArtifactDigest)
  runtimeAcceptanceArtifactDigest := request.pilot.runtimeAcceptanceArtifactDigest
  repositoryFullName := request.pilot.repositoryFullName
  featureBranch := request.pilot.featureBranch
  approvedCommit := request.pilot.approvedCommit
  approvedTree := request.pilot.approvedTree
  draftPullRequestNumber := request.pilot.draftPullRequestNumber
  previewUrl := request.pilot.previewUrl
  journeyIds := request.pilot.journeyIds

/-- `_snapshot`, before its constructor. -/
def Request.snapshot : V1HardeningSourceSnapshot where
  toPilotSources := request.sources setting
  controlSourceDigests := request.order.controlSourceDigests
  monitoringSignalIds := request.order.monitoringSignalIds
  documentationIds := request.order.documentationIds

/-- The artifact of a call, before its constructor. -/
def newArtifact (artifactId : String) (observation : V1HardeningObservation) :
    V1HardeningAcceptanceArtifact where
  toPilotSources := request.sources setting
  toHardeningEvidence :=
    { controlReceipts := observation.controlReceipts
      monitoringReceipts := observation.monitoringReceipts
      documentationIds := observation.documentationIds
      backupCopyCount := observation.backupCopyCount
      recoveryDrillCount := observation.recoveryDrillCount
      auditEntryCount := observation.auditEntryCount
      reportCount := observation.reportCount }
  artifactId := artifactId
  workOrderId := request.order.workOrderId
  workOrderDigest := request.order.digest setting
  authorityDigest := request.authority.digest setting
  tenantId := request.order.tenantId
  executionId := request.executionId
  assignmentId := request.order.assignmentId
  sourcePilotExecutionId := request.pilot.executionId
  providerId := observation.providerId
  providerOutputDigest := observation.digest setting
  governanceCapabilityIds := v1HardeningCapabilities
  actionIds := v1HardeningActions
  toolIds := v1HardeningToolIds
  monitoringSignalCount := observation.monitoringReceipts.length
  documentationRecordCount := observation.documentationIds.length
  founderUatJourneyCount := request.pilot.journeyIds.length
  generatedAt := env.now
  expiresAt := request.order.expiresAt

/-- What `run` does between its look for an artifact and its write; the provider hands over what
the constructors of the observation have let pass. -/
def assemble : Except Error V1HardeningAcceptanceArtifact := do
  validateAuthority setting env request.order request.authority
  let persisted ← env.pilots request.order.tenantId request.order.sourcePilotExecutionId
  require (decide (persisted = request.pilot)) "Day 36 pilot is not the exact persisted artifact"
  validatePilot setting request.order request.pilot
  (request.snapshot setting).postInit setting
  let observation ← env.execute request.order request.authority (request.snapshot setting)
  observation.construct setting
  require (decide (observation.providerId = env.providerId ∧
    observation.pilotId = request.pilot.pilotId ∧
      observation.snapshotDigest = (request.snapshot setting).digest setting))
    "Day 37 provider output changed source identity"
  let artifactId ← artifactIdFor setting request.order.tenantId request.executionId
  constructed (·.construct setting) (newArtifact setting env request artifactId observation)

def run : Storing Bytes V1HardeningAcceptanceArtifact := do
  match ← find setting request.key with
  | some existing =>
    if existing.workOrderDigest = request.order.digest setting ∧
        existing.authorityDigest = request.authority.digest setting ∧
        existing.sourcePilotArtifactDigest = pilotDigest setting request.pilot then
      pure existing
    else raise ⟨.conflict, "Day 37 retry changed immutable inputs"⟩
  | none =>
    let artifact ← ofExcept (assemble setting env request)
    let _ ← save setting artifact
    verifyBackup setting artifact
    pure artifact

/-! ## Where a crash may fall -/

section Recovery

variable {setting env request} {again : V1HardeningAcceptanceArtifact}
  {directory : Directory Bytes} {key : Key}

omit [DecidableEq Bytes] in
theorem assemble_eq_ok (h : assemble setting env request = .ok artifact) :
    ∃ observation artifactId,
      env.execute request.order request.authority (request.snapshot setting) = .ok observation ∧
        (request.snapshot setting).postInit setting = .ok () ∧
          observation.construct setting = .ok () ∧
            observation.pilotId = request.pilot.pilotId ∧
              observation.snapshotDigest = (request.snapshot setting).digest setting ∧
                artifact = newArtifact setting env request artifactId observation ∧
                  artifact.construct setting = .ok () := by
  unfold assemble at h
  simp only [Checks.bind_ok_iff] at h
  obtain ⟨_, -, _, -, _, -, _, -, _, hsnapshot, observation, hexecute, _, hobserved, _, hsame,
    artifactId, -, h⟩ := h
  obtain ⟨-, hpilot, hdigest⟩ := of_decide_eq_true (require_eq_ok hsame)
  have hnew := constructed_eq_ok h
  refine ⟨observation, artifactId, hexecute, hsnapshot, hobserved, hpilot, hdigest, hnew, ?_⟩
  unfold constructed at h
  rw [hnew]
  exact (Checks.check_ok_iff.mp h).1

omit [DecidableEq Bytes] in
theorem construct_of_assemble (h : assemble setting env request = .ok artifact) :
    artifact.construct setting = .ok () := by
  obtain ⟨-, -, -, -, -, -, -, -, hconstruct⟩ := assemble_eq_ok h
  exact hconstruct

/-- The directory of an artifact that was saved. -/
def intact (setting : Setting Bytes) (artifact : V1HardeningAcceptanceArtifact) :
    Directory Bytes :=
  ⟨some (payload setting artifact), some (payload setting artifact), 0⟩

theorem loaded_intact (hconstruct : artifact.construct setting = .ok ()) :
    loaded setting artifact.key (some (intact setting artifact)) = .ok artifact := by
  simp [loaded, intact, Directory.closed, decodeFor_payload hconstruct]

theorem eq_of_loaded {world : World Bytes}
    (h : loaded setting key world = .ok artifact) :
    ∃ content, world = some ⟨some content, some content, 0⟩ := by
  unfold loaded at h
  split at h
  · cases h
  · rename_i directory
    split at h
    · rename_i primary backup hprimary hbackup hclosed
      split at h
      · cases h
      · rename_i hsame
        have htemporaries : directory.temporaries = 0 := by
          simp only [Directory.closed, Bool.and_eq_true, decide_eq_true_eq] at hclosed
          exact hclosed.2
        refine ⟨primary, ?_⟩
        cases directory
        simp_all
    · cases h

/-- A directory that neither a load nor a recovery accepts. -/
def Directory.Spoiled (directory : Directory Bytes) : Prop :=
  directory.closed true = false

theorem loaded_spoiled (hspoiled : directory.Spoiled) :
    loaded setting key (some directory) =
      .error (corrupt "Day 37 artifact directory is not closed") := by
  have hopen : directory.closed false = false := by
    cases hprimary : directory.primary.isSome
    · simp [Directory.closed, hprimary]
    · simpa [Directory.Spoiled, Directory.closed, hprimary] using hspoiled
  unfold loaded
  dsimp only
  rw [hopen]
  split
  · contradiction
  · rfl

/-- Where the evidence of an artifact can still be had: a load returns it, a recovery does, or the
call that saves it completes when it is repeated. -/
def Recoverable (setting : Setting Bytes) (env : Environment) (request : Request)
    (artifact : V1HardeningAcceptanceArtifact) (world : World Bytes) : Prop :=
  loaded setting artifact.key world = .ok artifact ∨
    ((recover setting artifact.key).run world).1 = .ok artifact ∨
      ∃ again, ((run setting env request).run world).1 = .ok again

theorem not_recoverable_spoiled (hkey : request.key = artifact.key)
    (hdirectory : directoryOf artifact.key = .ok ()) (hspoiled : directory.Spoiled) :
    ¬Recoverable setting env request artifact (some directory) := by
  rintro (h | h | ⟨again, h⟩)
  · rw [loaded_spoiled hspoiled] at h
    cases h
  · have hquery : (query (verifiedBackup setting artifact.key) : Storing Bytes Bytes).run
        (some directory) =
          (.error (corrupt "Day 37 artifact directory is not closed"), some directory) := by
      change (verifiedBackup setting artifact.key (some directory), some directory) = _
      unfold verifiedBackup
      dsimp only
      rw [show directory.closed true = false from hspoiled]
      split
      · contradiction
      · rfl
    unfold recover at h
    rw [hdirectory, run_bind_of_ok (t := some directory) (a := ()) rfl,
      run_bind_of_error hquery] at h
    cases h
  · have hfind : (find setting request.key).run (some directory) =
        (.error (corrupt "Day 37 artifact directory is not closed"), some directory) := by
      unfold find load
      rw [hkey, hdirectory]
      change (Procedure.handle (Procedure.bind (.done (loaded setting artifact.key
        (some directory))) _) _).run (some directory) = _
      rw [loaded_spoiled hspoiled]
      rfl
    unfold run at h
    rw [run_bind_of_error hfind] at h
    cases h

omit [DecidableEq Bytes] in
theorem run_verifyBackup (hconstruct : artifact.construct setting = .ok ()) :
    (verifyBackup setting artifact).run (some (intact setting artifact)) =
      (.ok (), some (intact setting artifact)) := by
  change (Except.bind (decode setting (payload setting artifact)) _, _) = _
  rw [decode_payload setting hconstruct]
  exact Prod.ext (if_pos rfl) rfl

theorem run_save (hconstruct : artifact.construct setting = .ok ()) :
    (save setting artifact).run none = (.ok artifact, some (intact setting artifact)) := by
  unfold save
  rw [directoryOf_key hconstruct]
  change (verifyBackup setting artifact >>= fun _ => pure artifact).run
    (some (intact setting artifact)) = _
  rw [run_bind_of_ok (run_verifyBackup hconstruct)]
  rfl

theorem left_recover (hconstruct : artifact.construct setting = .ok ()) (primary : Option Bytes)
    (stop : Nat) :
    (recover setting artifact.key).left stop
        (some ⟨primary, some (payload setting artifact), 0⟩) =
      match stop with
      | 0 | 1 => some ⟨primary, some (payload setting artifact), 0⟩
      | 2 | 3 => some ⟨primary, some (payload setting artifact), 1⟩
      | _ => some (intact setting artifact) := by
  unfold recover
  rw [directoryOf_key hconstruct]
  rcases stop with _ | stop
  · rfl
  · change Procedure.left (Procedure.bind (.done (verifiedBackup setting artifact.key
      (some ⟨primary, some (payload setting artifact), 0⟩))) _) stop _ = _
    have hverified : verifiedBackup setting artifact.key
        (some ⟨primary, some (payload setting artifact), 0⟩) =
          .ok (payload setting artifact) := by
      change (decodeFor setting artifact.key (payload setting artifact) _ >>= fun _ => _) = _
      rw [decodeFor_payload hconstruct]
      rfl
    rw [hverified]
    unfold load
    rw [directoryOf_key hconstruct]
    rcases stop with _ | _ | _ | stop
    · rfl
    · rfl
    · cases primary <;> rfl
    · cases primary <;> exact left_query stop

theorem run_none (hdirectory : directoryOf request.key = .ok ()) :
    (run setting env request).run none =
      (assemble setting env request,
        (assemble setting env request).toOption.map (intact setting)) := by
  have hfind : (find setting request.key).run none = (.ok none, none) := by
    unfold find load
    rw [hdirectory]
    rfl
  unfold run
  rw [run_bind_of_ok hfind]
  cases hassemble : assemble setting env request with
  | error error => rfl
  | ok artifact =>
    have hconstruct := construct_of_assemble hassemble
    change (save setting artifact >>= fun _ => verifyBackup setting artifact >>= fun _ =>
      pure artifact).run none = _
    rw [run_bind_of_ok (run_save hconstruct), run_bind_of_ok (run_verifyBackup hconstruct)]
    rfl

theorem recoverable_none (hkey : request.key = artifact.key)
    (hdirectory : directoryOf artifact.key = .ok ()) :
    Recoverable setting env request artifact none ↔
      ∃ again, assemble setting env request = .ok again := by
  unfold Recoverable recover
  rw [run_none (hkey ▸ hdirectory), hdirectory]
  constructor
  · rintro (h | h | h)
    · cases h
    · cases h
    · exact h
  · exact fun h => Or.inr (Or.inr h)

theorem left_save (hconstruct : artifact.construct setting = .ok ()) (stop : Nat) :
    (save setting artifact).left stop none =
      match stop with
      | 0 => none
      | 1 | 2 => some ⟨none, none, 0⟩
      | 3 | 4 => some ⟨none, none, 1⟩
      | 5 => some ⟨some (payload setting artifact), none, 0⟩
      | 6 | 7 => some ⟨some (payload setting artifact), none, 1⟩
      | _ => some (intact setting artifact) := by
  unfold save
  rw [directoryOf_key hconstruct]
  rcases stop with _ | _ | _ | _ | _ | _ | _ | _ | _ | stop
  all_goals try rfl
  exact (left_bind_pure stop).trans (left_query stop)

theorem left_save_intact (hconstruct : artifact.construct setting = .ok ())
    (hagain : again.construct setting = .ok ()) (hkey : again.key = artifact.key) (stop : Nat) :
    (save setting again).left stop (some (intact setting artifact)) =
      some (intact setting artifact) := by
  unfold save load
  rw [directoryOf_key hagain, hkey]
  rcases stop with _ | _ | _ | stop
  · rfl
  · rfl
  · rfl
  · change Procedure.left (Procedure.bind (.done (loaded setting artifact.key
      (some (intact setting artifact)))) _) stop _ = _
    rw [loaded_intact hconstruct]
    change Procedure.left (if artifact = again then _ else _) stop _ = _
    split
    · rfl
    · rfl

theorem run_recover (hconstruct : artifact.construct setting = .ok ())
    (primary : Option Bytes) :
    (recover setting artifact.key).run (some ⟨primary, some (payload setting artifact), 0⟩) =
      (.ok artifact, some (intact setting artifact)) := by
  have hverified : verifiedBackup setting artifact.key
      (some ⟨primary, some (payload setting artifact), 0⟩) = .ok (payload setting artifact) := by
    change (decodeFor setting artifact.key (payload setting artifact) _ >>= fun _ => _) = _
    rw [decodeFor_payload hconstruct]
    rfl
  have hread : (query (verifiedBackup setting artifact.key) : Storing Bytes Bytes).run
      (some ⟨primary, some (payload setting artifact), 0⟩) =
        (.ok (payload setting artifact), some ⟨primary, some (payload setting artifact), 0⟩) :=
    Prod.ext hverified rfl
  have hwrite : (write .primary (payload setting artifact) true : Storing Bytes Unit).run
      (some ⟨primary, some (payload setting artifact), 0⟩) =
        (.ok (), some (intact setting artifact)) := by
    cases primary <;> rfl
  unfold recover load
  rw [directoryOf_key hconstruct, run_bind_of_ok (a := ()) rfl, run_bind_of_ok hread,
    run_bind_of_ok hwrite]
  exact Prod.ext (loaded_intact hconstruct) rfl

/-- The evidence of an artifact can be had after a save that dies exactly when it dies before the
directory is made, and can be repeated, or after the backup is in place; after a recovery exactly
when it does not die while its temporary file is there. -/
theorem acceptance_evidence_recoverable_iff (hconstruct : artifact.construct setting = .ok ())
    (hkey : request.key = artifact.key) :
    (∀ stop, Recoverable setting env request artifact ((save setting artifact).left stop none) ↔
      8 ≤ stop ∨ stop = 0 ∧ ∃ again, assemble setting env request = .ok again) ∧
    (∀ again stop, again.construct setting = .ok () → again.key = artifact.key →
      Recoverable setting env request artifact
        ((save setting again).left stop (some (intact setting artifact)))) ∧
    (∀ primary stop, Recoverable setting env request artifact
        ((recover setting artifact.key).left stop
          (some ⟨primary, some (payload setting artifact), 0⟩)) ↔ stop ≠ 2 ∧ stop ≠ 3) ∧
    (∀ primary, (recover setting artifact.key).run
        (some ⟨primary, some (payload setting artifact), 0⟩) =
          (.ok artifact, some (intact setting artifact))) ∧
    ∀ key world found, loaded setting key world = .ok found →
      ∃ content, world = some ⟨some content, some content, 0⟩ := by
  have hdirectory := directoryOf_key hconstruct
  have hspoiled {directory : Directory Bytes} (h : directory.closed true = false) :
      ¬Recoverable setting env request artifact (some directory) :=
    not_recoverable_spoiled hkey hdirectory h
  have hintact : Recoverable setting env request artifact (some (intact setting artifact)) :=
    Or.inl (loaded_intact hconstruct)
  refine ⟨fun stop => ?_, fun again stop hagain hsame => ?_, fun primary stop => ?_,
    run_recover hconstruct, fun key world found => eq_of_loaded⟩
  · rw [left_save hconstruct]
    rcases stop with _ | _ | _ | _ | _ | _ | _ | _ | stop
    · simpa using recoverable_none hkey hdirectory
    · simpa using hspoiled rfl
    · simpa using hspoiled rfl
    · simpa using hspoiled rfl
    · simpa using hspoiled rfl
    · simpa using hspoiled rfl
    · simpa using hspoiled rfl
    · simpa using hspoiled rfl
    · exact iff_of_true hintact (Or.inl (by omega))
  · rw [left_save_intact hconstruct hagain hsame]
    exact hintact
  · rw [left_recover hconstruct]
    have hbefore : Recoverable setting env request artifact
        (some ⟨primary, some (payload setting artifact), 0⟩) :=
      Or.inr (Or.inl (congrArg Prod.fst (run_recover hconstruct primary)))
    rcases stop with _ | _ | _ | _ | stop
    · simpa using hbefore
    · simpa using hbefore
    · simpa using hspoiled (by cases primary <;> rfl)
    · simpa using hspoiled (by cases primary <;> rfl)
    · exact iff_of_true hintact (by omega)

/-! ## What the evidence is bound to -/

/-- An artifact is bound to the controls of an order and to the observation that it records. -/
structure EvidenceBound (setting : Setting Bytes) (order : V1HardeningWorkOrder)
    (artifact : V1HardeningAcceptanceArtifact) : Prop where
  sources : artifact.controlReceipts.map (·.sourceDigest) = order.controlSourceDigests
  signals : artifact.monitoringReceipts.map (·.signalId) = order.monitoringSignalIds
  chain : chained genesisDigest artifact.controlReceipts = true
  audits : ∀ receipt ∈ artifact.controlReceipts,
    receipt.auditDigest = auditDigestFor setting receipt
  output : artifact.providerOutputDigest = (artifact.observation setting).digest setting

/-- The provider answers with receipts for the controls that the order names. -/
def Conforming (setting : Setting Bytes) (env : Environment) (request : Request) : Prop :=
  ∀ observation,
    env.execute request.order request.authority (request.snapshot setting) = .ok observation →
      observation.controlReceipts.map (·.sourceDigest) = request.order.controlSourceDigests

omit [DecidableEq Bytes] in
theorem observation_checked {observation : V1HardeningObservation}
    (h : observation.construct setting = .ok ()) :
    (∀ receipt ∈ observation.controlReceipts,
      receipt.auditDigest = auditDigestFor setting receipt) ∧
    chained genesisDigest observation.controlReceipts = true ∧
    observation.monitoringReceipts.map (·.signalId) = V1Hardening.monitoringSignalIds ∧
    observation.documentationIds = documentationRecordIds ∧
    (observation.backupCopyCount = 1 ∧ observation.recoveryDrillCount = 1 ∧
      observation.auditEntryCount = 7 ∧ observation.reportCount = 1) ∧
    observation.prohibited.all (· = 0) = true := by
  unfold V1HardeningObservation.construct V1HardeningObservation.postInit at h
  simp only [Checks.check_ok_iff, Checks.forM_ok_iff] at h
  obtain ⟨hreceipts, -, -, -, -, -, -, -, -, hchain, hsignals, hdocuments, hcounts, hzero⟩ := h
  refine ⟨fun receipt hmem => ?_, eq_true_of_check hchain,
    of_decide_eq_true (eq_true_of_check hsignals), of_decide_eq_true (eq_true_of_check hdocuments),
    of_decide_eq_true (eq_true_of_check hcounts), eq_true_of_check hzero⟩
  have hreceipt := hreceipts receipt hmem
  unfold HardeningControlReceipt.postInit at hreceipt
  simp only [Checks.check_ok_iff] at hreceipt
  exact of_decide_eq_true (eq_true_of_check hreceipt.2.2.2.2.2.2)

omit [DecidableEq Bytes] in
theorem evidenceBound_iff (h : assemble setting env request = .ok artifact) :
    EvidenceBound setting request.order artifact ↔ Conforming setting env request := by
  obtain ⟨observation, artifactId, hexecute, hsnapshot, hobserved, hpilot, hdigest, rfl, -⟩ :=
    assemble_eq_ok h
  obtain ⟨haudits, hchain, hsignals, hdocuments, hcounts, hzero⟩ := observation_checked hobserved
  constructor
  · intro hbound other hother
    cases hexecute.symm.trans hother
    exact hbound.sources
  · intro hconforming
    have hsources := hconforming observation hexecute
    unfold V1HardeningSourceSnapshot.postInit at hsnapshot
    simp only [Checks.check_ok_iff] at hsnapshot
    obtain ⟨-, -, -, -, -, hprofile, hbundle⟩ := hsnapshot
    have hprofile : request.order.monitoringSignalIds = V1Hardening.monitoringSignalIds :=
      of_decide_eq_true (eq_true_of_check hprofile)
    have hbundle : request.order.documentationIds = documentationRecordIds :=
      of_decide_eq_true (eq_true_of_check hbundle)
    have hrebuilt : (newArtifact setting env request artifactId observation).observation setting =
        observation := by
      have hsame : (newArtifact setting env request artifactId observation).snapshot =
          request.snapshot setting := by
        simp only [V1HardeningAcceptanceArtifact.snapshot, newArtifact, Request.snapshot, hsources,
          hsignals, hprofile, hdocuments, hbundle]
      rw [V1HardeningAcceptanceArtifact.observation, hsame, ← hdigest]
      simp only [HardeningEvidence.prohibited, List.all_cons, List.all_nil, Bool.and_true,
        Bool.and_eq_true, decide_eq_true_eq] at hzero
      rcases observation with ⟨⟨⟩⟩
      simp_all [newArtifact, Request.sources]
    exact ⟨hsources, hsignals.trans hprofile.symm, hchain, haudits,
      congrArg (·.digest setting) hrebuilt.symm⟩

/-- A file of the directory holds an artifact. -/
def Stores (setting : Setting Bytes) (world : World Bytes)
    (artifact : V1HardeningAcceptanceArtifact) : Prop :=
  ∃ directory name content, world = some directory ∧ directory.get name = some content ∧
    decode setting content = .ok artifact

/-- A step only stores what the call has assembled. -/
def StoresOnly (setting : Setting Bytes) (env : Environment) (request : Request)
    (before after : World Bytes) : Prop :=
  ∀ artifact, Stores setting after artifact →
    Stores setting before artifact ∨ assemble setting env request = .ok artifact

/-- Every step of a procedure only stores what the call has assembled. -/
def Guarded {α : Type} (setting : Setting Bytes) (env : Environment) (request : Request)
    (x : Storing Bytes α) : Prop :=
  ∀ world, Obeys (StoresOnly setting env request) x world (fun _ _ => True) fun _ _ => True

omit [DecidableEq Bytes]

theorem guarded_bind {α β : Type} {x : Storing Bytes α} {f : α → Storing Bytes β}
    (hx : Guarded setting env request x) (hf : ∀ a, Guarded setting env request (f a)) :
    Guarded setting env request (x >>= f) :=
  fun world => obeys_bind.mpr ((hx world).mono (fun a t _ => hf a t) fun _ _ _ => trivial)

theorem guarded_done {α : Type} (result : Except Error α) :
    Guarded setting env request (ofExcept result : Storing Bytes α) :=
  fun _ => obeys_ofExcept.mpr ⟨fun _ _ => trivial, fun _ _ => trivial⟩

theorem guarded_bind_done {α β : Type} {result : Except Error α} {f : α → Storing Bytes β}
    (hf : ∀ a, result = .ok a → Guarded setting env request (f a)) :
    Guarded setting env request (ofExcept result >>= f) := by
  cases result with
  | ok a => exact hf a rfl
  | error e => exact guarded_done (.error e)

theorem guarded_query {α : Type} (answer : World Bytes → Except Error α) :
    Guarded setting env request (query answer) :=
  fun world => obeys_query.mpr ⟨fun _ h => Or.inl h, guarded_done (answer world) world⟩

theorem guarded_ite {α : Type} {p : Prop} [Decidable p] {x y : Storing Bytes α}
    (hx : Guarded setting env request x) (hy : Guarded setting env request y) :
    Guarded setting env request (if p then x else y) := by
  split
  · exact hx
  · exact hy

theorem guarded_modify {effect : World Bytes → World Bytes}
    (h : ∀ world artifact, Stores setting (effect world) artifact →
      Stores setting world artifact ∨ assemble setting env request = .ok artifact) :
    Guarded setting env request (modify effect) :=
  fun world => obeys_modify.mpr ⟨h world, trivial⟩

theorem guarded_write {name : FileName} {replace : Bool}
    (h : assemble setting env request = .ok artifact) :
    Guarded setting env request (write name (payload setting artifact) replace) := by
  have hcounted (change : Nat → Nat) : Guarded setting env request
      (modify (Option.map fun directory =>
        { directory with temporaries := change directory.temporaries })) := by
    apply guarded_modify
    rintro (_ | directory) found ⟨_, name, content, hworld, hget, hdecode⟩
    · cases hworld
    · cases hworld
      exact Or.inl ⟨directory, name, content, rfl, by cases name <;> exact hget, hdecode⟩
  unfold write
  refine guarded_bind (hcounted (· + 1)) fun _ => guarded_bind (guarded_query _) fun _ =>
    guarded_ite (guarded_bind (hcounted (· - 1)) fun _ => guarded_done _) (guarded_modify ?_)
  rintro (_ | directory) found ⟨_, other, content, hworld, hget, hdecode⟩
  · cases hworld
  · cases hworld
    by_cases hname : other = name
    · have hcontent : content = payload setting artifact := by
        subst hname
        cases other <;> exact (Option.some.inj hget).symm
      rw [hcontent, decode_payload setting (construct_of_assemble h)] at hdecode
      exact Or.inr (h.trans hdecode)
    · have hold : directory.get other = some content := by
        cases name <;> cases other <;> first | exact hget | exact absurd rfl hname
      exact Or.inl ⟨directory, other, content, rfl, hold, hdecode⟩

theorem guarded_run [DecidableEq Bytes] :
    Guarded setting env request (run setting env request) := by
  have hload (key : Key) : Guarded setting env request (load setting key) :=
    guarded_bind (guarded_done _) fun _ => guarded_query _
  have hensure : Guarded setting env request
      (modify fun world : World Bytes => some (world.getD ⟨none, none, 0⟩)) := by
    apply guarded_modify
    rintro (_ | directory) found ⟨_, name, content, hworld, hget, hdecode⟩
    · cases hworld
      cases name <;> cases hget
    · cases hworld
      exact Or.inl ⟨directory, name, content, rfl, hget, hdecode⟩
  have hfind : Guarded setting env request (find setting request.key) := by
    intro world
    refine obeys_handle.mpr ((guarded_bind (hload _) fun _ => guarded_done _) world |>.mono
      (fun _ _ _ => trivial) fun error t _ => ?_)
    exact guarded_ite (guarded_done _) (guarded_done _) t
  unfold run
  refine guarded_bind hfind fun existing => ?_
  cases existing with
  | some existing => exact guarded_ite (guarded_done _) (guarded_done _)
  | none =>
    refine guarded_bind_done fun artifact hassemble => ?_
    have hsave : Guarded setting env request (save setting artifact) := by
      unfold save
      refine guarded_bind (guarded_done _) fun _ => guarded_bind hensure fun _ =>
        guarded_bind (guarded_query _) fun _ => guarded_ite ?_ ?_
      · exact guarded_bind (hload _) fun _ => guarded_ite (guarded_done _) (guarded_done _)
      · exact guarded_bind (guarded_write hassemble) fun _ =>
          guarded_bind (guarded_write hassemble) fun _ => guarded_bind (guarded_query _)
            fun _ => guarded_bind (guarded_query _) fun _ => guarded_done _
    exact guarded_bind hsave fun _ => guarded_bind (guarded_query _) fun _ => guarded_done _

/-- The record of a file carries the digest of the observation that its other fields spell. -/
def Spelled {Bytes : Type} (setting : Setting Bytes) (content : Bytes) : Prop :=
  ∀ envelope, setting.loads content = some envelope →
    setting.sha256 (setting.observationText (envelope.record.observation setting)) =
      envelope.record.providerOutputDigest

end Recovery

/-! ## An artifact -/

section Sample

open Ascos.ProductPilot (sampleDigest sampleCommit sampleTree samplePreviewUrl)

def sampleSetting : Setting Envelope where
  urlparse := ProductPilot.samplePreviewSetting.urlparse
  hasNetloc value := samplePreviewUrl.toList.isPrefixOf value.toList
  sha256 := sampleDigest
  orderText order := order.workOrderId
  authorityText authority := authority.authorityId
  pilotText pilot := pilot.artifactId
  policyText controlId _ := controlId
  documentationText digest := digest
  snapshotText snapshot := snapshot.controlSourceDigests.getLastD ""
  auditText receipt := receipt.controlId
  observationText observation := observation.snapshotDigest
  recordText artifact := artifact.providerOutputDigest
  dumps envelope := envelope
  loads envelope := some envelope
  loads_dumps _ := rfl

def sampleReceipts (previous : String) :
    List (String × String) → List HardeningControlReceipt
  | [] => []
  | control :: rest =>
    let receipt : HardeningControlReceipt :=
      { controlId := control.1
        sourceDigest := sampleDigest control.2
        state := control.2
        evidenceIds := ["evidence"]
        verifiedAt := 0
        previousAuditDigest := previous
        auditDigest := "" }
    let auditDigest := auditDigestFor sampleSetting receipt
    { receipt with auditDigest := auditDigest } :: sampleReceipts auditDigest rest

def samplePilot : EndToEndProductPilotArtifact :=
  ProductPilot.Pilot.newArtifact ProductPilot.sampleEnvironment ProductPilot.samplePilotRequest
    ProductPilot.samplePilotObservation "pilot" 4000

def sampleRequest : Request :=
  let order : V1HardeningWorkOrder :=
    { workOrderId := "hardening-order"
      tenantId := samplePilot.tenantId
      assignmentId := "hardening-assignment"
      pilotId := samplePilot.pilotId
      sourcePilotExecutionId := samplePilot.executionId
      sourcePilotArtifactDigest := pilotDigest sampleSetting samplePilot
      repositoryFullName := samplePilot.repositoryFullName
      featureBranch := samplePilot.featureBranch
      approvedCommit := samplePilot.approvedCommit
      approvedTree := samplePilot.approvedTree
      draftPullRequestNumber := samplePilot.draftPullRequestNumber
      previewUrl := samplePilot.previewUrl
      journeyIds := samplePilot.journeyIds
      controlSourceDigests :=
        hardeningPolicyDigestsFor sampleSetting (pilotDigest sampleSetting samplePilot)
      monitoringSignalIds := monitoringSignalIds
      documentationIds := documentationRecordIds
      objectives := []
      acceptanceChecks := []
      constraints := []
      issuedAt := 5000
      expiresAt := 9000 }
  { executionId := "hardening"
    order := order
    authority :=
      { authorityId := "hardening-authority"
        issuerId := "issuer"
        tenantId := order.tenantId
        assignmentId := order.assignmentId
        pilotId := order.pilotId
        workOrderDigest := order.digest sampleSetting
        sourcePilotArtifactDigest := order.sourcePilotArtifactDigest
        controlSourceDigests := order.controlSourceDigests
        allowedActionIds := v1HardeningActions
        allowedToolIds := v1HardeningToolIds
        issuedAt := 5000
        expiresAt := 9000 }
    pilot := samplePilot }

def sampleObservation : V1HardeningObservation where
  controlReceipts :=
    sampleReceipts genesisDigest (hardeningControlIds.zip hardeningControlStates)
  monitoringReceipts := monitoringSignalIds.map fun signalId =>
    ⟨signalId, "HEALTHY", sampleDigest signalId, 6000⟩
  documentationIds := documentationRecordIds
  providerId := "hardening-provider"
  pilotId := samplePilot.pilotId
  snapshotDigest := (sampleRequest.snapshot sampleSetting).digest sampleSetting

def sampleEnvironment : Environment where
  now := 6000
  pilots _ _ := .ok samplePilot
  providerId := "hardening-provider"
  execute _ _ _ := .ok sampleObservation

def sampleArtifact : V1HardeningAcceptanceArtifact :=
  newArtifact sampleSetting sampleEnvironment sampleRequest
    ((artifactIdFor sampleSetting sampleRequest.order.tenantId "hardening").toOption.getD "")
    sampleObservation

theorem sampleEvidence_valid : sampleObservation.construct sampleSetting = .ok () ∧
    sampleArtifact.construct sampleSetting = .ok () := by
  have hreceipts : sampleObservation.controlReceipts.forM (·.postInit sampleSetting) = .ok () := by
    decide +kernel
  have hsignals : sampleObservation.monitoringReceipts.forM (·.postInit) = .ok () := by
    decide +kernel
  refine ⟨Checks.check_ok_iff.mpr ⟨hreceipts, ?_⟩, Checks.check_ok_iff.mpr ⟨hreceipts, ?_⟩⟩
  · exact Checks.check_ok_iff.mpr ⟨hsignals, by decide +kernel⟩
  · exact Checks.check_ok_iff.mpr ⟨hsignals, by decide +kernel⟩

theorem sampleArtifact_assembled :
    assemble sampleSetting sampleEnvironment sampleRequest = .ok sampleArtifact := by
  have hsnapshot : (sampleRequest.snapshot sampleSetting).postInit sampleSetting = .ok () := by
    decide +kernel
  refine Checks.check_ok_iff.mpr ⟨by decide +kernel, ?_⟩
  refine Checks.bind_ok_iff.mpr ⟨samplePilot, rfl, ?_⟩
  refine Checks.check_ok_iff.mpr ⟨by decide +kernel, ?_⟩
  refine Checks.check_ok_iff.mpr ⟨by decide +kernel, ?_⟩
  refine Checks.check_ok_iff.mpr ⟨hsnapshot, ?_⟩
  refine Checks.bind_ok_iff.mpr ⟨sampleObservation, rfl, ?_⟩
  refine Checks.check_ok_iff.mpr ⟨sampleEvidence_valid.1, ?_⟩
  refine Checks.check_ok_iff.mpr ⟨by decide +kernel, ?_⟩
  refine Checks.bind_ok_iff.mpr ⟨sampleArtifact.artifactId, by decide +kernel, ?_⟩
  exact Checks.check_ok_iff.mpr ⟨sampleEvidence_valid.2, rfl⟩

/-- The evidence of the call can be had again after a save that dies at once or at its end. -/
theorem acceptance_evidence_recoverable_sample :
    Recoverable sampleSetting sampleEnvironment sampleRequest sampleArtifact
        ((save sampleSetting sampleArtifact).left 0 none) ∧
      Recoverable sampleSetting sampleEnvironment sampleRequest sampleArtifact
        ((save sampleSetting sampleArtifact).left 8 none) := by
  have hconstruct := construct_of_assemble sampleArtifact_assembled
  have hkey : sampleRequest.key = sampleArtifact.key := rfl
  exact ⟨((acceptance_evidence_recoverable_iff hconstruct hkey).1 0).mpr
      (.inr ⟨rfl, sampleArtifact, sampleArtifact_assembled⟩),
    ((acceptance_evidence_recoverable_iff hconstruct hkey).1 8).mpr (.inl le_rfl)⟩

/-- A save that dies once its directory is made leaves what nothing accepts. -/
theorem not_acceptance_evidence_recoverable :
    ¬Recoverable sampleSetting sampleEnvironment sampleRequest sampleArtifact
      ((save sampleSetting sampleArtifact).left 1 none) := by
  have hconstruct := construct_of_assemble sampleArtifact_assembled
  rw [left_save hconstruct]
  exact not_recoverable_spoiled rfl (directoryOf_key hconstruct) rfl

end Sample

end V1Hardening
end Ascos
