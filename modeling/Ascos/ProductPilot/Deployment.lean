import Ascos.Library.Concurrency
import Ascos.ProductPilot.Chain

/-!
# Preview deployments side by side

`ControlledPreviewDeploymentProvider` of `runtime/preview_deployment/provider.py` behind the
service of `service.py`, for any number of calls that take their steps in any order and may
die before each of them.  What the gateway answers is arbitrary; its deployment creates an
environment only when there is none.

Main results:

- Theorem `deployment_honest`: in every run an environment is deployed at most once, a stored
  artifact is bound to the stored delivery and plans, and a call that has deployed returns or asks
  for reconciliation when every call that is started is `Recordable`.
-/

namespace Ascos
namespace ProductPilot
namespace Deployment

open Ascos.GitHubDelivery (Error ErrorClass Key GitHubDeliveryArtifact require constructed)
open Ascos.Library
open Ascos.Library.Script
open Ascos.ProductPilot.Preview (Request deliveryMatches devopsMatches validateAuthority
  validateObservation newArtifact sameRequest)
open Ascos.Runtime (Timestamp)

variable (env : Environment)

/-! ## The platform and the stores -/

/-- The deployments that took effect with the calls that made them, and the files of the stores.
A file that is created and not written yet has no content. -/
structure World where
  deployments : List (Nat × String)
  deliveries : Table Key GitHubDeliveryArtifact
  devops : Table Key DevOpsWorkArtifact
  previews : Table Key (Option PreviewDeploymentArtifact)

/-- The calls whose deployments took effect. -/
def World.deployers (world : World) : List Nat :=
  world.deployments.map (·.1)

/-- The atomic steps of a call, and of the services that store deliveries and plans. -/
inductive Operation where
  | look
  | deploy (number : Nat) (environmentId : String) (takesEffect : Bool)
  | create (artifact : PreviewDeploymentArtifact)
  | write (artifact : PreviewDeploymentArtifact)
  | deliver (artifact : GitHubDeliveryArtifact)
  | plan (artifact : DevOpsWorkArtifact)
deriving DecidableEq

def fileKey (artifact : PreviewDeploymentArtifact) : Key :=
  ⟨artifact.tenantId, artifact.executionId⟩

def once {β : Type} (table : Table Key β) (key : Key) (record : β) : Table Key β :=
  if (table.load key).isSome then table else table.save key record

/-- The effect of a step. -/
def perform : Operation → World → World
  | .look, world => world
  | .deploy number environmentId takesEffect, world =>
    if takesEffect && decide (environmentId ∉ world.deployments.map (·.2)) then
      { world with deployments := world.deployments ++ [(number, environmentId)] }
    else world
  | .create artifact, world =>
    { world with previews := once world.previews (fileKey artifact) none }
  | .write artifact, world =>
    { world with previews := world.previews.save (fileKey artifact) (some artifact) }
  | .deliver artifact, world =>
    { world with deliveries := once world.deliveries artifact.key artifact }
  | .plan artifact, world =>
    { world with
      devops := once world.devops ⟨artifact.tenantId, artifact.executionId⟩ artifact }

/-! ## Calls -/

/-- An observation that has passed its constructor. -/
abbrev Observed :=
  { observation : PreviewDeploymentObservation //
    (observation.postInit env.setting.preview).isOk = true }

/-- What the clock and the gateway answer to a call. -/
structure Answers where
  now : Timestamp
  found : Except Error (Option (Observed env))
  takesEffect : Bool
  created : Except Error (Observed env)
  inspected : Except Error (Observed env)
  generatedAt : Timestamp

/-- A call of the service, or a delivery or plans that other services store. -/
inductive Call where
  | run (request : Request) (answers : Answers env)
  | deliver (artifact : GitHubDeliveryArtifact)
  | plan (artifact : DevOpsWorkArtifact)

/-- The steps of a call of the service. -/
abbrev Deploying (α : Type) :=
  Script World Operation Error α

/-- An exception after the deployment was asked for. -/
def stopped (error : Error) : Error :=
  if error.errorClass = .reconciliationRequired then error
  else ⟨.reconciliationRequired,
    "Preview deployment stopped after a platform effect may have started"⟩

/-- The boundary that the provider checks. -/
def withinBoundary (order : PreviewDeploymentWorkOrder) (authority : PreviewDeploymentAuthority)
    (observed : PreviewDeploymentObservation) : Bool :=
  observed.environmentId = order.previewEnvironmentId &&
    observed.environmentClass = previewEnvironmentClass &&
    observed.previewUrl = order.previewUrl &&
    observed.deployedCommit = order.approvedCommit &&
    observed.deployedTree = order.approvedTree &&
    observed.configurationDigest = order.configurationDigest &&
    observed.healthReceipts.map (·.url) = order.healthCheckUrls &&
    decide (observed.platformCallCount ≤ authority.maxPlatformCalls) &&
    decide (observed.healthReceipts.length ≤ authority.maxHealthChecks) &&
    decide (observed.credentialHandleCount ≤ authority.maxSecretReferences)

/-- The observation of the provider.  Its constructor passes where that of the gateway's has. -/
def reported (observed : PreviewDeploymentObservation) : PreviewDeploymentObservation :=
  { observed with providerId := "controlled-preview-deployment-v1" }

/-- What `ControlledPreviewDeploymentProvider.deploy` makes of the answers to a deployment. -/
def received (request : Request) (answers : Answers env) :
    Except Error PreviewDeploymentObservation := do
  let created ← answers.created.mapError stopped
  let observed ← answers.inspected.mapError stopped
  if created ≠ observed then
    throw ⟨.reconciliationRequired,
      "Preview platform inspection does not match its deployment receipt"⟩
  if !withinBoundary request.workOrder request.authority observed.1 then
    throw ⟨.reconciliationRequired,
      "Preview platform receipt crossed the exact authorized deployment boundary"⟩
  pure (reported observed.1)

def deploy (number : Nat) (request : Request) (answers : Answers env) :
    Deploying PreviewDeploymentObservation := do
  let existing ← ask .look fun _ => answers.found.mapError fun error =>
    if error.errorClass = .reconciliationRequired then error
    else ⟨.policyError, "Preview environment lookup failed before deployment"⟩
  if existing.isSome then
    raise ⟨.reconciliationRequired, "The requested preview environment already exists"⟩
  else do
    act (.deploy number request.workOrder.previewEnvironmentId answers.takesEffect)
    ask .look fun _ => received env request answers

def load (key : Key) (world : World) : Except Error (Option PreviewDeploymentArtifact) := do
  (previewStore env.setting).executionDirectory key
  match world.previews.load key with
  | none => pure none
  | some none => throw ⟨.corrupt, "Preview deployment artifact is corrupt"⟩
  | some (some artifact) => pure (some artifact)

/-- `FilePreviewDeploymentArtifactStore.save`, as far as no file is involved. -/
def storable (artifact : PreviewDeploymentArtifact) : Except Error Unit := do
  (previewStore env.setting).executionDirectory (fileKey artifact)
  if 256000 < (env.setting.preview.envelopeText artifact).utf8ByteSize then
    throw ⟨.conflict, "Preview artifact exceeds storage limit"⟩

def save (artifact : PreviewDeploymentArtifact) : Deploying PreviewDeploymentArtifact := do
  ofExcept (storable env artifact)
  let existing ← ask (.create artifact) (load env (fileKey artifact))
  match existing with
  | none => do
    act (.write artifact)
    pure artifact
  | some existing =>
    if existing = artifact then pure existing
    else raise ⟨.conflict, "Preview execution already has a different artifact"⟩

def stored {β : Type} (message : String) : Option β → Except Error β
  | none => .error ⟨.notFound, message⟩
  | some record => .ok record

/-- `_validate_github_delivery`, `_validate_devops` and `_validate_authority`. -/
def validate (request : Request) (answers : Answers env) : Deploying Unit := do
  let delivery := request.githubDeliveryArtifact
  let plans := request.devopsArtifact
  ofExcept (require (delivery.postInit env.delivery.setting).isOk
    "Preview GitHub-delivery source is invalid")
  ofExcept (require (deliveryMatches env request.workOrder delivery)
    "Preview deployment requires the exact successful Day 33 delivery artifact")
  let persisted ← ask .look fun world =>
    stored "GitHub delivery artifact was not found" (world.deliveries.load delivery.key)
  ofExcept (require (persisted = delivery)
    "Preview GitHub-delivery source is not exact persisted state")
  ofExcept (require (devopsMatches env request.workOrder delivery plans)
    "Preview deployment requires the exact matching persisted Day 28 DevOps plans")
  let persisted ← ask .look fun world =>
    stored "DevOps artifact was not found"
      (world.devops.load ⟨plans.tenantId, plans.executionId⟩)
  ofExcept (require (persisted = plans) "Preview DevOps source is not exact persisted state")
  ofExcept (validateAuthority env request.workOrder request.authority answers.now)

/-- The artifact that a call makes of an observation. -/
def recorded (request : Request) (answers : Answers env)
    (observation : PreviewDeploymentObservation) : Except Error PreviewDeploymentArtifact := do
  let artifactId ← previewArtifactIdFor env.setting.preview request.executionId
  constructed (PreviewDeploymentArtifact.postInit env.setting.preview)
    (newArtifact env request observation artifactId answers.generatedAt)

def run (number : Nat) (request : Request) (answers : Answers env) :
    Deploying PreviewDeploymentArtifact := do
  let existing ← ask .look (load env request.key)
  match existing with
  | some artifact =>
    if sameRequest env request artifact = true then pure artifact
    else raise ⟨.conflict, "Preview execution already has different immutable state"⟩
  | none => do
    validate env request answers
    let observation ← deploy env number request answers
    ofExcept (validateObservation request.workOrder request.authority observation)
    let artifact ← ofExcept (recorded env request answers observation)
    save env artifact

/-- What a call does; the calls of the other services return no artifact. -/
def program (number : Nat) : Call env → Deploying (Option PreviewDeploymentArtifact)
  | .run request answers => do
    let artifact ← run env number request answers
    pure (some artifact)
  | .deliver artifact => do
    act (.deliver artifact)
    pure none
  | .plan artifact => do
    act (.plan artifact)
    pure none

/-- The calls that run side by side. -/
abbrev Calls :=
  Pool (Call env) World Operation Error (Option PreviewDeploymentArtifact)

/-! ## What the service promises -/

/-- A call that has deployed returns or asks for reconciliation. -/
def Honest {α : Type} : Except Error α → Prop
  | .ok _ => True
  | .error error => error.errorClass = .reconciliationRequired

/-- The commit and the tree of an artifact are those of a stored delivery, and its plans are those
of stored plans. -/
structure Bound (world : World) (artifact : PreviewDeploymentArtifact) : Prop where
  delivery : ∃ delivery, world.deliveries.load delivery.key = some delivery ∧
    artifact.githubDeliveryArtifactDigest = deliveryDigest env.setting.preview delivery ∧
      artifact.deployedCommit = delivery.commitSha ∧ artifact.deployedTree = delivery.commitTree
  plans : ∃ plans : DevOpsWorkArtifact,
    world.devops.load ⟨plans.tenantId, plans.executionId⟩ = some plans ∧
      artifact.devopsArtifactDigest = plans.digest env.setting.preview ∧
        [artifact.previewPlanDigest, artifact.migrationPlanDigest, artifact.deploymentPlanDigest,
          artifact.monitoringPlanDigest, artifact.rollbackPlanDigest] =
            plans.planDigests env.setting.preview

/-- A receipt that the provider lets through has as many credential handles as the order has secret
references, and its artifact can be made and stored. -/
def Recordable : Call env → Prop
  | .run request answers => ∀ observation, received env request answers = .ok observation →
      observation.credentialHandleCount = request.workOrder.secretReferenceIds.length ∧
        ∃ artifact, recorded env request answers observation = .ok artifact ∧
          storable env artifact = .ok ()
  | _ => True

/-- Only recordable calls are started, and a file is created where there is none, or the same
artifact. -/
def Condition (w : Calls env) : Library.Move (Call env) → Prop
  | .start call => Recordable env call
  | .advance number => ∀ artifact, w.operation? number = some (.create artifact) →
      load env (fileKey artifact) w.shared = .ok none ∨
        load env (fileKey artifact) w.shared = .ok (some artifact)
  | .die _ => True

/-! ## Steps -/

variable {env} {world next : World} {number : Nat} {operation : Operation}

/-- Records that are stored stay stored. -/
structure Grows (world next : World) : Prop where
  deliveries : ∀ key record, world.deliveries.load key = some record →
    next.deliveries.load key = some record
  devops : ∀ key record, world.devops.load key = some record →
    next.devops.load key = some record

theorem Grows.refl (world : World) : Grows world world :=
  ⟨fun _ _ h => h, fun _ _ h => h⟩

theorem Grows.trans {last : World} (h : Grows world next) (h' : Grows next last) :
    Grows world last :=
  ⟨fun key record hload => h'.deliveries key record (h.deliveries key record hload),
    fun key record hload => h'.devops key record (h.devops key record hload)⟩

theorem load_once {β : Type} {table : Table Key β} {key other : Key} {record found : β}
    (h : table.load other = some found) : (once table key record).load other = some found := by
  unfold once
  split
  · exact h
  · rename_i hfree
    rw [Table.load_save]
    split
    · rename_i heq
      subst heq
      rw [h] at hfree
      exact absurd rfl hfree
    · exact h

theorem perform_grows (operation : Operation) (world : World) :
    Grows world (perform operation world) := by
  cases operation with
  | deploy number environmentId takesEffect =>
    simp only [perform]
    split <;> exact ⟨fun _ _ h => h, fun _ _ h => h⟩
  | deliver artifact => exact ⟨fun _ _ => load_once, fun _ _ h => h⟩
  | plan artifact => exact ⟨fun _ _ h => h, fun _ _ => load_once⟩
  | _ => exact ⟨fun _ _ h => h, fun _ _ h => h⟩

theorem Bound.mono {artifact : PreviewDeploymentArtifact} (h : Bound env world artifact)
    (hgrows : Grows world next) : Bound env next artifact := by
  obtain ⟨⟨delivery, hdelivery, hcommit⟩, plans, hplans, hdigests⟩ := h
  exact ⟨⟨delivery, hgrows.deliveries _ _ hdelivery, hcommit⟩, plans,
    hgrows.devops _ _ hplans, hdigests⟩

/-- Whether a step asks the platform for a deployment. -/
def Operation.deploys : Operation → Bool
  | .deploy .. => true
  | _ => false

/-- What a step of a call does: it deploys in the name of its call only, and writes a bound
artifact. -/
def Guarantee (env : Environment) (number : Nat) (operation : Operation) (world : World) : Prop :=
  match operation with
  | .deploy caller _ _ => caller = number
  | .write artifact => Bound env world artifact
  | _ => True

theorem Guarantee.deployers (h : Guarantee env number operation world) {caller : Nat}
    (hmem : caller ∈ (perform operation world).deployers) :
    caller ∈ world.deployers ∨ caller = number ∧ operation.deploys = true := by
  cases operation with
  | deploy other environmentId takesEffect =>
    simp only [perform] at hmem
    split at hmem
    · rw [World.deployers, List.map_append, List.mem_append, List.map_singleton,
        List.mem_singleton] at hmem
      exact hmem.imp_right fun heq => ⟨heq.trans h, rfl⟩
    · exact .inl hmem
  | _ => exact .inl hmem

theorem nodup_perform (h : (world.deployments.map (·.2)).Nodup) :
    ((perform operation world).deployments.map (·.2)).Nodup := by
  cases operation with
  | deploy caller environmentId takesEffect =>
    simp only [perform]
    split
    · rename_i hfree
      simp only [Bool.and_eq_true, decide_eq_true_eq] at hfree
      rw [List.map_append, List.map_singleton]
      refine List.nodup_append.mpr ⟨h, List.nodup_singleton _, fun a ha b hb heq => ?_⟩
      rw [heq, List.mem_singleton.mp hb] at ha
      exact hfree.2 ha
    · exact h
  | _ => exact h

theorem Guarantee.previews (h : Guarantee env number operation world)
    (hbound : ∀ key artifact, world.previews.load key = some (some artifact) →
      Bound env world artifact) {key : Key} {artifact : PreviewDeploymentArtifact}
    (hload : (perform operation world).previews.load key = some (some artifact)) :
    Bound env (perform operation world) artifact := by
  refine Bound.mono ?_ (perform_grows operation world)
  cases operation with
  | create other =>
    simp only [perform, once] at hload
    split at hload
    · exact hbound key artifact hload
    · rw [Table.load_save] at hload
      split at hload
      · cases hload
      · exact hbound key artifact hload
  | write other =>
    simp only [perform, Table.load_save] at hload
    split at hload
    · cases hload
      exact h
    · exact hbound key artifact hload
  | deploy caller environmentId takesEffect =>
    simp only [perform] at hload
    split at hload <;> exact hbound key artifact hload
  | _ => exact hbound key artifact hload

/-! ## Calls under interference -/

/-- What a call may count on: records stay, nobody else deploys in its name, and a file that it
creates is not there, or has its artifact. -/
structure Rely (env : Environment) (number : Nat) (taken : List Operation) (operation : Operation)
    (world next : World) : Prop where
  grows : Grows world next
  clear : (∀ earlier ∈ taken, earlier.deploys = false) → number ∉ next.deployers
  file : ∀ artifact, operation = .create artifact →
    load env (fileKey artifact) next = .ok none ∨
      load env (fileKey artifact) next = .ok (some artifact)

/-- What is known when a call has passed its sources. -/
structure Sourced (env : Environment) (request : Request) (world : World) : Prop where
  delivery : world.deliveries.load request.githubDeliveryArtifact.key =
    some request.githubDeliveryArtifact
  devops : world.devops.load ⟨request.devopsArtifact.tenantId,
    request.devopsArtifact.executionId⟩ = some request.devopsArtifact
  delivered : deliveryMatches env request.workOrder request.githubDeliveryArtifact = true
  planned : devopsMatches env request.workOrder request.githubDeliveryArtifact
    request.devopsArtifact = true

variable {request : Request} {answers : Answers env} {taken : List Operation}
  {observation : PreviewDeploymentObservation} {artifact : PreviewDeploymentArtifact}

theorem Sourced.mono (h : Sourced env request world) (hgrows : Grows world next) :
    Sourced env request next :=
  ⟨hgrows.deliveries _ _ h.delivery, hgrows.devops _ _ h.devops, h.delivered, h.planned⟩

theorem stored_eq_ok {β : Type} {message : String} {found : Option β} {record : β}
    (h : stored message found = .ok record) : found = some record := by
  cases found with
  | none => cases h
  | some other =>
    cases h
    rfl

theorem received_error {error : Error} (h : received env request answers = .error error) :
    error.errorClass = .reconciliationRequired := by
  have hstopped : ∀ error : Error, (stopped error).errorClass = .reconciliationRequired := by
    intro error
    unfold stopped
    split
    · assumption
    · rfl
  unfold received at h
  cases hcreated : answers.created with
  | error cause =>
    rw [hcreated] at h
    cases h
    exact hstopped cause
  | ok created =>
    cases hinspected : answers.inspected with
    | error cause =>
        rw [hcreated, hinspected] at h
        cases h
        exact hstopped cause
    | ok observed =>
        rw [hcreated, hinspected] at h
        simp only [Except.mapError, Except.bind, bind, throw, throwThe, MonadExceptOf.throw,
          pure, Except.pure] at h
        split at h
        · cases h
          rfl
        · split at h
          · cases h
            rfl
          · cases h

theorem received_ok (h : received env request answers = .ok observation) :
    ∃ observed : Observed env, observation = reported observed.1 ∧
      withinBoundary request.workOrder request.authority observed.1 = true := by
  unfold received at h
  cases hcreated : answers.created with
  | error cause =>
    rw [hcreated] at h
    cases h
  | ok created =>
    cases hinspected : answers.inspected with
    | error cause =>
        rw [hcreated, hinspected] at h
        cases h
    | ok observed =>
        rw [hcreated, hinspected] at h
        simp only [Except.mapError, Except.bind, bind, throw, throwThe, MonadExceptOf.throw,
          pure, Except.pure] at h
        split at h
        · cases h
        · split at h
          · cases h
          · rename_i hwithin
            cases h
            exact ⟨observed, rfl, by simpa using hwithin⟩

theorem validateObservation_received (h : received env request answers = .ok observation)
    (hhandles : observation.credentialHandleCount =
      request.workOrder.secretReferenceIds.length) :
    validateObservation request.workOrder request.authority observation = .ok () := by
  obtain ⟨⟨observed, hvalid⟩, rfl, hwithin⟩ := received_ok h
  obtain ⟨u, hpassed⟩ := Checks.exists_of_isOk hvalid
  unfold PreviewDeploymentObservation.postInit at hpassed
  simp only [Checks.check_ok_iff] at hpassed
  obtain ⟨-, -, -, -, -, -, -, -, -, -, -, -, hcounts, hprohibited⟩ := hpassed
  have heffects := of_decide_eq_true (eq_true_of_check hcounts)
  have hzero := eq_true_of_check hprohibited
  simp only [Prod.mk.injEq] at heffects
  simp only [withinBoundary, Bool.and_eq_true, decide_eq_true_eq] at hwithin
  refine if_pos ?_
  simp only [Preview.observationMatches, Bool.and_eq_true, decide_eq_true_eq]
  simp only [reported] at hhandles ⊢
  simp only [hwithin, hhandles, heffects, and_true]
  exact ⟨trivial, hzero⟩

theorem bound_newArtifact {artifactId : String} {generatedAt : Timestamp}
    (h : Sourced env request world)
    (hobserved : validateObservation request.workOrder request.authority observation = .ok ()) :
    Bound env world (newArtifact env request observation artifactId generatedAt) := by
  have hmatches := GitHubDelivery.require_eq_ok hobserved
  have hdelivered := h.delivered
  have hplanned := h.planned
  simp only [Preview.observationMatches, Preview.deliveryMatches, Preview.devopsMatches,
    Bool.and_eq_true, decide_eq_true_eq] at hmatches hdelivered hplanned
  refine ⟨⟨request.githubDeliveryArtifact, h.delivery, rfl, ?_, ?_⟩, request.devopsArtifact,
    h.devops, rfl, ?_⟩
  · simp only [newArtifact, hmatches, hdelivered]
  · simp only [newArtifact, hmatches, hdelivered]
  · rw [hplanned.2]
    rfl

/-- How a call may raise: after its deployment, when it is recordable, for reconciliation only. -/
def Raises (number : Nat) (call : Call env) (error : Error) (_ : List Operation)
    (world : World) : Prop :=
  Recordable env call → number ∈ world.deployers → error.errorClass = .reconciliationRequired

theorem safe_validate {Q : Unit → List Operation → World → Prop} {call : Call env}
    (htaken : ∀ earlier ∈ taken, earlier.deploys = false) (hclear : number ∉ world.deployers)
    (hQ : ∀ taken' next, (∀ earlier ∈ taken', earlier.deploys = false) →
      number ∉ next.deployers → Sourced env request next → Q () taken' next) :
    Safe perform (Rely env number) (fun _ => Guarantee env number)
      (validate env request answers) taken world Q (Raises number call) := by
  have hraise : ∀ {next : World} {taken' : List Operation} (error : Error),
      number ∉ next.deployers → Raises number call error taken' next :=
    fun error hfree _ hmem => absurd hmem hfree
  have hlonger : ∀ {earlier : List Operation},
      (∀ operation ∈ earlier, operation.deploys = false) →
        ∀ operation ∈ Operation.look :: earlier, operation.deploys = false := by
    intro earlier h operation hmem
    rcases List.mem_cons.mp hmem with rfl | hmem
    · rfl
    · exact h operation hmem
  simp only [validate, safe_bind, safe_ofExcept, safe_ask]
  refine ⟨fun _ _ => ⟨fun _ hdelivered => ?_, fun e _ => hraise e hclear⟩, fun e _ => hraise e hclear⟩
  intro first hfirst
  have hfree := hfirst.clear htaken
  refine ⟨trivial, fun delivery hdelivery => ⟨fun _ hsame => ⟨fun _ hplanned => ?_,
    fun e _ => hraise e hfree⟩, fun e _ => hraise e hfree⟩, fun e _ => hraise e hfree⟩
  intro second hsecond
  have hfree' := hsecond.clear (hlonger htaken)
  refine ⟨trivial, fun plans hplans => ⟨fun _ hequal => ⟨fun _ _ => ?_,
    fun e _ => hraise e hfree'⟩, fun e _ => hraise e hfree'⟩, fun e _ => hraise e hfree'⟩
  have hdelivered' := of_decide_eq_true (GitHubDelivery.require_eq_ok hsame)
  have hplans' := of_decide_eq_true (GitHubDelivery.require_eq_ok hequal)
  subst hdelivered' hplans'
  exact hQ _ second (hlonger (hlonger htaken)) hfree'
    ⟨hsecond.grows.deliveries _ _ (stored_eq_ok hdelivery), stored_eq_ok hplans,
      GitHubDelivery.require_eq_ok hdelivered, GitHubDelivery.require_eq_ok hplanned⟩

theorem safe_deploy {Q : PreviewDeploymentObservation → List Operation → World → Prop}
    {call : Call env} (htaken : ∀ earlier ∈ taken, earlier.deploys = false)
    (hsourced : Sourced env request world)
    (hQ : ∀ observation taken' next, received env request answers = .ok observation →
      Sourced env request next → Q observation taken' next) :
    Safe perform (Rely env number) (fun _ => Guarantee env number)
      (deploy env number request answers) taken world Q (Raises number call) := by
  simp only [deploy, safe_bind, safe_ask, safe_ite, safe_raise, safe_act]
  intro first hfirst
  have hfree := hfirst.clear htaken
  refine ⟨trivial, fun existing _ => ⟨fun _ _ _ => rfl, fun _ => ?_⟩,
    fun e _ _ hmem => absurd hmem hfree⟩
  intro second hsecond
  refine ⟨rfl, fun third hthird => ⟨trivial, fun observation hreceived => ?_,
    fun e hreceived _ _ => received_error hreceived⟩⟩
  exact hQ observation _ third hreceived (((hsourced.mono hfirst.grows).mono hsecond.grows).mono
    ((perform_grows _ second).trans hthird.grows))

theorem safe_save {call : Call env} (hbound : Bound env world artifact)
    (hstorable : Recordable env call → storable env artifact = .ok ()) :
    Safe perform (Rely env number) (fun _ => Guarantee env number) (save env artifact) taken
      world (fun _ _ _ => True) (Raises number call) := by
  simp only [save, safe_bind, safe_ofExcept, safe_ask]
  refine ⟨fun _ _ next hnext => ⟨trivial, fun existing hfound => ?_, fun e hraised => ?_⟩,
    fun e hraised hrecordable => ?_⟩
  · cases existing with
    | none =>
        simp only [safe_bind, safe_act, safe_pure]
        exact fun later hlater => ⟨hbound.mono (hnext.grows.trans
          ((perform_grows _ next).trans hlater.grows)), trivial⟩
    | some existing =>
        have hsame : existing = artifact := by
          rcases hnext.file artifact rfl with hfree | hthere
          · rw [hfree] at hfound
            cases hfound
          · rw [hthere] at hfound
            cases hfound
            rfl
        simp only [hsame, if_true, safe_pure]
  · rcases hnext.file artifact rfl with hfree | hthere
    · rw [hfree] at hraised
      cases hraised
    · rw [hthere] at hraised
      cases hraised
  · rw [hstorable hrecordable] at hraised
    cases hraised

theorem recorded_eq_ok (h : recorded env request answers observation = .ok artifact) :
    ∃ artifactId, artifact = newArtifact env request observation artifactId answers.generatedAt := by
  obtain ⟨artifactId, -, hmade⟩ := Checks.bind_ok_iff.mp h
  exact ⟨artifactId, GitHubDelivery.constructed_eq_ok hmade⟩

theorem safe_run (number : Nat) (request : Request) (answers : Answers env) (world : World) :
    Safe perform (Rely env number) (fun _ => Guarantee env number)
      (run env number request answers) [] world (fun _ _ _ => True)
      (Raises number (.run request answers)) := by
  simp only [run, safe_bind, safe_ask]
  intro first hfirst
  have hfree := hfirst.clear (fun _ hmem => absurd hmem List.not_mem_nil)
  refine ⟨trivial, fun existing _ => ?_, fun e _ _ hmem => absurd hmem hfree⟩
  cases existing with
  | some found =>
    simp only [safe_ite, safe_pure, safe_raise]
    exact ⟨fun _ => trivial, fun _ _ hmem => absurd hmem hfree⟩
  | none =>
    simp only [safe_bind]
    refine safe_validate (by simp [Operation.deploys]) hfree fun taken' next htaken _ hsourced => ?_
    refine safe_deploy htaken hsourced fun observation _ next' hreceived hsourced' => ?_
    simp only [safe_ofExcept]
    refine ⟨fun _ hobserved => ⟨fun artifact hrecorded => ?_, fun e hraised hrecordable => ?_⟩,
      fun e hraised hrecordable => ?_⟩
    · obtain ⟨artifactId, heq⟩ := recorded_eq_ok hrecorded
      refine safe_save (heq ▸ bound_newArtifact hsourced' hobserved) fun hrecordable => ?_
      obtain ⟨-, other, hother, hstorable⟩ := hrecordable observation hreceived
      rw [hrecorded] at hother
      cases hother
      exact hstorable
    · obtain ⟨-, other, hother, -⟩ := hrecordable observation hreceived
      rw [hraised] at hother
      cases hother
    · rw [validateObservation_received hreceived (hrecordable observation hreceived).1] at hraised
      cases hraised

/-! ## Runs -/

/-- What holds of every pool of calls. -/
structure Inv (w : Calls env) : Prop where
  once : (w.shared.deployments.map (·.2)).Nodup
  bound : ∀ key artifact, w.shared.previews.load key = some (some artifact) →
    Bound env w.shared artifact
  started : ∀ number ∈ w.shared.deployers, number < w.processes.length
  recordable : ∀ process ∈ w.processes, Recordable env process.call
  clear : ∀ number process, w.processes[number]? = some process →
    (∀ earlier ∈ process.taken, earlier.deploys = false) → number ∉ w.shared.deployers
  honest : ∀ number process result, w.processes[number]? = some process →
    process.Returned result → number ∈ w.shared.deployers → Honest result

variable {w : Calls env} {call : Call env}
  {rest : World → Deploying (Option PreviewDeploymentArtifact)}

theorem Inv.start (h : Inv w) (hrecordable : Recordable env call) :
    Inv (w.next perform (program env) (.start call)) := by
  have hfree : w.processes.length ∉ w.shared.deployers :=
    fun hmem => Nat.lt_irrefl _ (h.started _ hmem)
  refine ⟨h.once, h.bound, ?_, ?_, ?_, ?_⟩
  · intro number hmem
    simp only [Pool.next, List.length_append, List.length_singleton]
    exact Nat.lt_succ_of_lt (h.started number hmem)
  · intro process hmem
    rcases List.mem_append.mp hmem with hold | hnew
    · exact h.recordable process hold
    · rw [List.mem_singleton.mp hnew]
      exact hrecordable
  · intro number process hprocess htaken
    obtain hold | ⟨rfl, -⟩ := Pool.next_start_cases hprocess
    · exact h.clear number process hold htaken
    · exact hfree
  · intro number process result hprocess hreturned hmem
    obtain hold | ⟨rfl, -⟩ := Pool.next_start_cases hprocess
    · exact h.honest number process result hold hreturned hmem
    · exact absurd hmem hfree

theorem Inv.advance (h : Inv w)
    (hprocess : w.processes[number]? = some ⟨call, taken, some (.step operation rest)⟩)
    (hguarantee : Guarantee env number operation w.shared)
    (hlast : ∀ result, rest w.shared = .done result → Recordable env call →
      number ∈ (perform operation w.shared).deployers → Honest result) :
    Inv (w.next perform (program env) (.advance number)) := by
  have hlt := (List.getElem?_eq_some_iff.mp hprocess).1
  rw [Pool.next_advance hprocess]
  have hcalled : Recordable env call := h.recordable _ (List.mem_of_getElem? hprocess)
  refine ⟨nodup_perform h.once, fun _ _ => hguarantee.previews h.bound, ?_, ?_, ?_, ?_⟩
  · intro caller hmem
    rw [List.length_set]
    obtain hold | ⟨rfl, -⟩ := hguarantee.deployers hmem
    · exact h.started caller hold
    · exact hlt
  · intro process hmem
    rcases List.mem_or_eq_of_mem_set hmem with hold | rfl
    · exact h.recordable process hold
    · exact hcalled
  · intro other process hother htaken hmem
    obtain ⟨rfl, rfl⟩ | ⟨hne, hold⟩ := Pool.set_cases hprocess hother
    · obtain hbefore | ⟨-, hdeploys⟩ := hguarantee.deployers hmem
      · exact h.clear other _ hprocess
          (fun earlier hearlier => htaken earlier (List.mem_cons_of_mem _ hearlier)) hbefore
      · exact Bool.false_ne_true ((htaken operation List.mem_cons_self).symm.trans hdeploys)
    · obtain hbefore | ⟨heq, -⟩ := hguarantee.deployers hmem
      · exact h.clear other process hold htaken hbefore
      · exact hne heq
  · intro other process result hother hreturned hmem
    obtain ⟨rfl, rfl⟩ | ⟨hne, hold⟩ := Pool.set_cases hprocess hother
    · exact hlast result (Option.some.inj hreturned) hcalled hmem
    · obtain hbefore | ⟨heq, -⟩ := hguarantee.deployers hmem
      · exact h.honest other process result hold hreturned hbefore
      · exact absurd heq hne

theorem Inv.die (h : Inv w)
    (hprocess : w.processes[number]? = some ⟨call, taken, some (.step operation rest)⟩) :
    Inv { w with processes := w.processes.set number ⟨call, taken, none⟩ } := by
  have hlt := (List.getElem?_eq_some_iff.mp hprocess).1
  have hcalled : Recordable env call := h.recordable _ (List.mem_of_getElem? hprocess)
  refine ⟨h.once, h.bound, ?_, ?_, ?_, ?_⟩
  · intro caller hmem
    rw [List.length_set]
    exact h.started caller hmem
  · intro process hmem
    rcases List.mem_or_eq_of_mem_set hmem with hold | rfl
    · exact h.recordable process hold
    · exact hcalled
  · intro other process hother htaken
    obtain ⟨rfl, rfl⟩ | ⟨-, hold⟩ := Pool.set_cases hprocess hother
    · exact h.clear other _ hprocess htaken
    · exact h.clear other process hold htaken
  · intro other process result hother hreturned
    obtain ⟨-, rfl⟩ | ⟨-, hold⟩ := Pool.set_cases hprocess hother
    · cases hreturned
    · exact h.honest other process result hold hreturned

/-- What the calls count on and keep to. -/
def discipline (env : Environment) :
    Discipline (Call env) World Operation Error (Option PreviewDeploymentArtifact) where
  perform := perform
  program := program env
  rely number _ := Rely env number
  guarantee number _ _ := Guarantee env number
  post _ _ := True
  last number call result world :=
    Recordable env call → number ∈ world.deployers → Honest result
  inv := Inv
  condition := Condition env
  safe number call world := by
    cases call with
    | run request answers =>
        simp only [program, safe_bind, safe_pure]
        exact (safe_run number request answers world).mono (fun _ _ _ _ => ⟨trivial, fun _ _ => trivial⟩)
          fun _ _ _ hraises => ⟨trivial, hraises⟩
    | _ =>
        simp only [program, safe_bind, safe_act, safe_pure]
        exact fun _ _ => ⟨trivial, trivial, fun _ _ => trivial⟩
  own w number call taken operation rest h hcondition hprocess :=
    ⟨Grows.refl _, h.clear number _ hprocess, fun artifact heq => hcondition artifact
      (Pool.operation?_eq_some_iff.mpr ⟨call, taken, rest, heq ▸ hprocess⟩)⟩
  others w number call taken operation rest other call' taken' operation' rest' _ _ _ _ _ _ t ht :=
    ⟨(perform_grows operation w.shared).trans ht.grows, ht.clear, ht.file⟩
  started w call h hcondition := h.start hcondition
  advanced w number call taken operation rest h _ hprocess hguarantee hlast :=
    h.advance hprocess hguarantee hlast
  died w number call taken operation rest h _ hprocess := h.die hprocess

def World.empty : World :=
  ⟨[], [], [], []⟩

def sampleAnswers (observation : Observed sampleEnvironment) : Answers sampleEnvironment where
  now := 2000
  found := .ok none
  takesEffect := true
  created := .ok observation
  inspected := .ok observation
  generatedAt := 2000

theorem samplePreviewObservation_valid :
    (samplePreviewObservation.postInit sampleEnvironment.setting.preview).isOk = true := by
  decide +kernel

def oneHandle : Observed sampleEnvironment :=
  ⟨samplePreviewObservation, samplePreviewObservation_valid⟩

theorem oneHandle_recordable :
    Recordable sampleEnvironment (.run samplePreviewRequest (sampleAnswers oneHandle)) := by
  intro observation hreceived
  have hreported : received sampleEnvironment samplePreviewRequest (sampleAnswers oneHandle) =
      .ok (reported samplePreviewObservation) := by decide +kernel
  cases hreported.symm.trans hreceived
  have hstored : (recorded sampleEnvironment samplePreviewRequest (sampleAnswers oneHandle)
      (reported samplePreviewObservation) >>= storable sampleEnvironment) = .ok () := by
    decide +kernel
  exact ⟨rfl, Checks.bind_ok_iff.mp hstored⟩

theorem twoHandles_valid :
    (({ samplePreviewObservation with credentialHandleCount := 2 } :
      PreviewDeploymentObservation).postInit sampleEnvironment.setting.preview).isOk = true := by
  decide +kernel

def twoHandles : Observed sampleEnvironment :=
  ⟨{ samplePreviewObservation with credentialHandleCount := 2 }, twoHandles_valid⟩

def twoHandlesRun : List (Library.Move (Call sampleEnvironment)) :=
  [.start (.deliver sampleDelivery), .advance 0, .start (.plan sampleDevops), .advance 1,
    .start (.run samplePreviewRequest (sampleAnswers twoHandles))] ++
      List.replicate 6 (.advance 2)

def errorOf {env : Environment} (w : Calls env) (number : Nat) : Option Error :=
  match w.processes[number]? with
  | some ⟨_, _, some (.done (.error error))⟩ => some error
  | _ => none

end Deployment
end ProductPilot
end Ascos
