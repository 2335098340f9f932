import Ascos.CustomerPlanning.RequirementsAuthority
import Ascos.GitHubDelivery.Publication
import Ascos.Library.Checks
import Ascos.Library.Lineage
import Ascos.ProductPilot.Pilot

/-!
# The evidence chain of a pilot

What the artifacts of a pilot attest in every run of deliveries, previews, acceptances and
pilots, with arbitrary arguments, arbitrary answers of the providers and arbitrary changes of
what other components keep.

Main results:

- Theorem `chain_closed_iff`: in every run the stored artifacts name records that were
  stored and that belong together; what a call returns is of the records that it was given exactly
  when every call that is answered by a stored artifact supplies the records of that artifact.
-/

namespace Ascos
namespace ProductPilot

open Ascos.GitHubDelivery (Error Key GitHubDeliveryArtifact check require constructed
  constructed_eq_ok require_eq_ok)
open Ascos.Runtime (Timestamp)
open Ascos.CustomerPlanning (CustomerPrdDraft CustomerPrdApproval CustomerRoadmapDraft
  CustomerRoadmapApproval)
open Ascos.CustomerAcceptance (BrowserJourneyPlan)
open Ascos.Library
open Ascos.Library.Procedure

/-! ## What an artifact attests -/

variable (env : Environment)

/-- The digests of the seven records that a call supplies. -/
def Pilot.Request.digests (request : Pilot.Request) : List String :=
  let planning := env.setting.planning
  [request.productRequest.digest planning, request.prd.digest planning,
    request.prdApproval.digest planning, request.roadmap.digest planning,
    request.roadmapApproval.digest planning, request.preview.digest env.setting.preview,
    request.runtimeAcceptance.digest env.setting.acceptance]

/-- The digests of the seven records that an artifact names. -/
def EndToEndProductPilotArtifact.sourceDigests (artifact : EndToEndProductPilotArtifact) :
    List String :=
  [artifact.sourceRequestDigest, artifact.prdDigest, artifact.prdApprovalDigest,
    artifact.roadmapDigest, artifact.roadmapApprovalDigest, artifact.previewArtifactDigest,
    artifact.runtimeAcceptanceArtifactDigest]

/-- A preview was deployed from the commit of a delivery that was stored and stayed a draft. -/
structure Deployed (world : World) (preview : PreviewDeploymentArtifact)
    (delivery : GitHubDeliveryArtifact) : Prop where
  stored : ∃ sources ∈ world.known, sources.deliveries.load delivery.key = some delivery
  digest : preview.githubDeliveryArtifactDigest = deliveryDigest env.setting.preview delivery
  tenant : delivery.tenantId = preview.tenantId
  opportunity : delivery.opportunityId = preview.opportunityId
  repository : delivery.repositoryFullName = preview.repositoryFullName
  branch : delivery.featureBranch = preview.featureBranch
  commit : delivery.commitSha = preview.deployedCommit
  tree : delivery.commitTree = preview.deployedTree
  quiet : ∀ count ∈ [delivery.mergeCount, delivery.releaseCount, delivery.deploymentCount,
    delivery.secretValueExposureCount], count = 0

/-- An acceptance has a receipt for each journey of a browser plan that was stored. -/
structure Accepted (world : World) (acceptance : CompleteRuntimeAcceptanceArtifact)
    (plan : BrowserJourneyPlan) : Prop where
  stored : ∃ sources ∈ world.known,
    sources.archive.plans plan.productId plan.runId plan.planId = .ok plan
  digest : acceptance.browserPlanDigest = plan.digest env.setting.acceptance.browser
  journeys : acceptance.journeyReceipts.map (·.journeyId) = plan.journeys.map (·.journeyId)

/-- An artifact names records that were stored, belong together, and record nothing that is
prohibited. -/
structure Closed (world : World) (artifact : EndToEndProductPilotArtifact)
    (records : Pilot.Request) (delivery : GitHubDeliveryArtifact) (plan : BrowserJourneyPlan) :
    Prop where
  digests : artifact.sourceDigests = records.digests env
  planning : ∃ sources ∈ world.known,
    sources.archive.requests artifact.customerId artifact.requestId =
        .ok records.productRequest ∧
      sources.archive.prds artifact.customerId artifact.requestId = .ok records.prd ∧
      sources.archive.prdApprovals artifact.customerId artifact.requestId =
        .ok records.prdApproval ∧
      sources.archive.roadmaps artifact.customerId artifact.requestId = .ok records.roadmap ∧
      sources.archive.roadmapApprovals artifact.customerId artifact.requestId =
        .ok records.roadmapApproval
  preview : world.previews.load ⟨records.preview.tenantId, records.preview.executionId⟩ =
    some records.preview
  acceptance : world.acceptances.load
    ⟨records.runtimeAcceptance.tenantId, records.runtimeAcceptance.executionId⟩ =
      some records.runtimeAcceptance
  deployed : Deployed env world records.preview delivery
  accepted : Accepted env world records.runtimeAcceptance plan
  acceptedPreview : records.runtimeAcceptance.previewArtifactDigest =
    records.preview.digest env.setting.preview
  customer : ∀ id ∈ [records.productRequest.customerId, records.prd.customerId,
    records.prdApproval.customerId, records.roadmap.customerId,
    records.roadmapApproval.customerId], id = artifact.customerId
  tenant : ∀ id ∈ [delivery.tenantId, records.preview.tenantId,
    records.runtimeAcceptance.tenantId], id = artifact.tenantId
  opportunity : ∀ id ∈ [delivery.opportunityId, records.preview.opportunityId,
    records.runtimeAcceptance.opportunityId], id = artifact.opportunityId
  repository : ∀ name ∈ [delivery.repositoryFullName, records.preview.repositoryFullName,
    records.runtimeAcceptance.repositoryFullName], name = artifact.repositoryFullName
  branch : ∀ name ∈ [delivery.featureBranch, records.preview.featureBranch,
    records.runtimeAcceptance.featureBranch], name = artifact.featureBranch
  commit : ∀ sha ∈ [delivery.commitSha, records.preview.approvedCommit,
    records.preview.deployedCommit, records.runtimeAcceptance.approvedCommit],
      sha = artifact.approvedCommit
  tree : ∀ sha ∈ [delivery.commitTree, records.preview.approvedTree,
    records.preview.deployedTree, records.runtimeAcceptance.approvedTree],
      sha = artifact.approvedTree
  passed : ∀ journey ∈ plan.journeys, ∃ receipt ∈ records.runtimeAcceptance.journeyReceipts,
    receipt.journeyId = journey.journeyId ∧ receipt.outcome = "PASS"
  quiet : ∀ count ∈ [records.preview.mergeCount, records.preview.releaseCount,
    records.preview.productionDeploymentCount, records.preview.secretValueExposureCount,
    records.runtimeAcceptance.mergeCount, records.runtimeAcceptance.releaseCount,
    records.runtimeAcceptance.productionDeploymentCount,
    records.runtimeAcceptance.rawSecretExposureCount], count = 0

/-- What a call of the pilot service has to do if it ends: what it returns is of the records that
it was given, and is closed; or it raises and stores nothing. -/
def Closes (world : World) : Call × Option Nat → Prop
  | (.pilot request answers, none) =>
    (∀ artifact final, (Pilot.run env request answers).run world = (.ok artifact, final) →
      artifact.sourceDigests = request.digests env ∧
        ∃ records delivery plan, Closed env final artifact records delivery plan) ∧
      ∀ error final, (Pilot.run env request answers).run world = (.error error, final) →
        final = world
  | _ => True

/-- A call of the pilot service that a stored artifact answers supplies the records of that
artifact. -/
def Agrees (world : World) : Call × Option Nat → Prop
  | (.pilot request _, none) => ∀ artifact, world.pilots.load request.key = some artifact →
      Pilot.sameRequest env request artifact = true →
        artifact.sourceDigests = request.digests env
  | _ => True

/-! ## What a step can do -/

variable {env} {world next : World} {preview : PreviewDeploymentArtifact}
  {acceptance : CompleteRuntimeAcceptanceArtifact} {artifact : EndToEndProductPilotArtifact}
  {delivery : GitHubDeliveryArtifact} {plan : BrowserJourneyPlan} {records : Pilot.Request}

/-- What was stored stays known, and previews and acceptances stay stored. -/
structure Grows (world next : World) : Prop where
  known : ∀ sources ∈ world.known, sources ∈ next.known
  previews : ∀ key stored, world.previews.load key = some stored →
    next.previews.load key = some stored
  acceptances : ∀ key stored, world.acceptances.load key = some stored →
    next.acceptances.load key = some stored

theorem Grows.refl (world : World) : Grows world world :=
  ⟨fun _ h => h, fun _ _ h => h, fun _ _ h => h⟩

theorem Deployed.mono (h : Deployed env world preview delivery) (hgrows : Grows world next) :
    Deployed env next preview delivery := by
  obtain ⟨sources, hsources, hstored⟩ := h.stored
  exact { h with stored := ⟨sources, hgrows.known sources hsources, hstored⟩ }

theorem Accepted.mono (h : Accepted env world acceptance plan) (hgrows : Grows world next) :
    Accepted env next acceptance plan := by
  obtain ⟨sources, hsources, hstored⟩ := h.stored
  exact { h with stored := ⟨sources, hgrows.known sources hsources, hstored⟩ }

theorem Closed.mono (h : Closed env world artifact records delivery plan)
    (hgrows : Grows world next) : Closed env next artifact records delivery plan := by
  obtain ⟨sources, hsources, hstored⟩ := h.planning
  exact
    { h with
      planning := ⟨sources, hgrows.known sources hsources, hstored⟩
      preview := hgrows.previews _ _ h.preview
      acceptance := hgrows.acceptances _ _ h.acceptance
      deployed := h.deployed.mono hgrows
      accepted := h.accepted.mono hgrows }

/-- What a step of a call does to the world. -/
inductive Move (env : Environment) : World → World → Prop
  | idle (world : World) : Move env world world
  | preview (world : World) (artifact : PreviewDeploymentArtifact)
      (delivery : GitHubDeliveryArtifact)
      (hfree : world.previews.load ((previewStore env.setting).key artifact) = none)
      (hdeployed : Deployed env world artifact delivery) :
      Move env world ((previewStore env.setting).put artifact world)
  | accept (world : World) (artifact : CompleteRuntimeAcceptanceArtifact)
      (plan : BrowserJourneyPlan)
      (hfree : world.acceptances.load ((acceptanceStore env.setting).key artifact) = none)
      (haccepted : Accepted env world artifact plan) :
      Move env world ((acceptanceStore env.setting).put artifact world)
  | pilot (world : World) (artifact : EndToEndProductPilotArtifact) (records : Pilot.Request)
      (delivery : GitHubDeliveryArtifact) (plan : BrowserJourneyPlan)
      (hdirectory : (pilotStore env.setting).executionDirectory
        ((pilotStore env.setting).key artifact) = .ok ())
      (hclosed : Closed env world artifact records delivery plan) :
      Move env world ((pilotStore env.setting).put artifact world)

/-- What is known of a world. -/
structure Inv (env : Environment) (world : World) : Prop where
  previews : ∀ key preview, world.previews.load key = some preview →
    ∃ delivery, Deployed env world preview delivery
  acceptances : ∀ key acceptance, world.acceptances.load key = some acceptance →
    ∃ plan, Accepted env world acceptance plan
  pilots : ∀ key artifact, world.pilots.load key = some artifact →
    (pilotStore env.setting).key artifact = key ∧
      (pilotStore env.setting).executionDirectory key = .ok () ∧
        ∃ records delivery plan, Closed env world artifact records delivery plan

theorem load_save_of_load {κ β : Type} [DecidableEq κ] {table : Table κ β} {key other : κ}
    {value stored : β} (hfree : table.load key = none) (h : table.load other = some stored) :
    (table.save key value).load other = some stored := by
  have hne : other ≠ key := by
    rintro rfl
    rw [hfree] at h
    cases h
  rw [Table.load_save_of_ne hne, h]

theorem Move.grows (h : Move env world next) : Grows world next := by
  cases h with
  | idle => exact Grows.refl world
  | preview artifact delivery hfree hdeployed =>
    exact
      { known := fun _ h => h
        previews := fun _ _ h => load_save_of_load hfree h
        acceptances := fun _ _ h => h }
  | accept artifact plan hfree haccepted =>
    exact
      { known := fun _ h => h
        previews := fun _ _ h => h
        acceptances := fun _ _ h => load_save_of_load hfree h }
  | pilot artifact records delivery plan hdirectory hclosed =>
    exact ⟨fun _ h => h, fun _ _ h => h, fun _ _ h => h⟩

theorem Inv.grow (hinv : Inv env world) (hgrows : Grows world next)
    (hpreviews : next.previews = world.previews)
    (hacceptances : next.acceptances = world.acceptances) (hpilots : next.pilots = world.pilots) :
    Inv env next where
  previews key preview hstored := by
    rw [hpreviews] at hstored
    obtain ⟨delivery, hdeployed⟩ := hinv.previews key preview hstored
    exact ⟨delivery, hdeployed.mono hgrows⟩
  acceptances key acceptance hstored := by
    rw [hacceptances] at hstored
    obtain ⟨plan, haccepted⟩ := hinv.acceptances key acceptance hstored
    exact ⟨plan, haccepted.mono hgrows⟩
  pilots key artifact hstored := by
    rw [hpilots] at hstored
    obtain ⟨hkey, hdirectory, records, delivery, plan, hclosed⟩ :=
      hinv.pilots key artifact hstored
    exact ⟨hkey, hdirectory, records, delivery, plan, hclosed.mono hgrows⟩

theorem Move.inv (h : Move env world next) (hinv : Inv env world) : Inv env next := by
  have hgrows := h.grows
  cases h with
  | idle => exact hinv
  | preview artifact delivery hfree hdeployed =>
    refine
      { previews := fun key stored hstored => ?_
        acceptances := fun key stored hstored => ?_
        pilots := fun key stored hstored => ?_ }
    · change (Table.save world.previews _ artifact).load key = some stored at hstored
      by_cases hkey : key = (previewStore env.setting).key artifact
      · subst hkey
        rw [Table.load_save_self, Option.some_inj] at hstored
        exact hstored ▸ ⟨delivery, hdeployed.mono hgrows⟩
      · rw [Table.load_save_of_ne hkey] at hstored
        obtain ⟨delivery, hdeployed⟩ := hinv.previews key stored hstored
        exact ⟨delivery, hdeployed.mono hgrows⟩
    · obtain ⟨plan, haccepted⟩ := hinv.acceptances key stored hstored
      exact ⟨plan, haccepted.mono hgrows⟩
    · obtain ⟨hkey, hdirectory, records, delivery, plan, hclosed⟩ :=
        hinv.pilots key stored hstored
      exact ⟨hkey, hdirectory, records, delivery, plan, hclosed.mono hgrows⟩
  | accept artifact plan hfree haccepted =>
    refine
      { previews := fun key stored hstored => ?_
        acceptances := fun key stored hstored => ?_
        pilots := fun key stored hstored => ?_ }
    · obtain ⟨delivery, hdeployed⟩ := hinv.previews key stored hstored
      exact ⟨delivery, hdeployed.mono hgrows⟩
    · change (Table.save world.acceptances _ artifact).load key = some stored at hstored
      by_cases hkey : key = (acceptanceStore env.setting).key artifact
      · subst hkey
        rw [Table.load_save_self, Option.some_inj] at hstored
        exact hstored ▸ ⟨plan, haccepted.mono hgrows⟩
      · rw [Table.load_save_of_ne hkey] at hstored
        obtain ⟨plan, haccepted⟩ := hinv.acceptances key stored hstored
        exact ⟨plan, haccepted.mono hgrows⟩
    · obtain ⟨hkey, hdirectory, records, delivery, plan, hclosed⟩ :=
        hinv.pilots key stored hstored
      exact ⟨hkey, hdirectory, records, delivery, plan, hclosed.mono hgrows⟩
  | pilot artifact records delivery plan hdirectory hclosed =>
    refine
      { previews := fun key stored hstored => ?_
        acceptances := fun key stored hstored => ?_
        pilots := fun key stored hstored => ?_ }
    · obtain ⟨delivery, hdeployed⟩ := hinv.previews key stored hstored
      exact ⟨delivery, hdeployed.mono hgrows⟩
    · obtain ⟨plan, haccepted⟩ := hinv.acceptances key stored hstored
      exact ⟨plan, haccepted.mono hgrows⟩
    · change (Table.save world.pilots _ artifact).load key = some stored at hstored
      by_cases hkey : key = (pilotStore env.setting).key artifact
      · subst hkey
        rw [Table.load_save_self, Option.some_inj] at hstored
        subst hstored
        exact ⟨rfl, hdirectory, records, delivery, plan, hclosed.mono hgrows⟩
      · rw [Table.load_save_of_ne hkey] at hstored
        obtain ⟨hkey, hdirectory, records, delivery, plan, hclosed⟩ :=
          hinv.pilots key stored hstored
        exact ⟨hkey, hdirectory, records, delivery, plan, hclosed.mono hgrows⟩

/-! ## What an artifact is made of -/

theorem eq_true_of_check {accepted : Bool} {message : String} {u : Unit}
    (h : check accepted message = .ok u) : accepted = true := by
  unfold check at h
  by_cases haccepted : accepted = true
  · exact haccepted
  · rw [if_neg haccepted] at h
    cases h

theorem secretValueExposureCount_of_isOk {setting : GitHubDelivery.Setting}
    {artifact : GitHubDeliveryArtifact} (h : (artifact.postInit setting).isOk = true) :
    artifact.secretValueExposureCount = 0 := by
  obtain ⟨_, hmade⟩ := Checks.exists_of_isOk h
  unfold GitHubDeliveryArtifact.postInit at hmade
  simp only [Checks.bind_ok_iff, exists_and_right] at hmade
  have hobserved : ∃ u, artifact.toGitHubDeliveryObservation.postInit = .ok u := by
    simp only [hmade]
  obtain ⟨_, hobserved⟩ := hobserved
  unfold GitHubDelivery.GitHubDeliveryObservation.postInit at hobserved
  simp only [Checks.bind_ok_iff, exists_and_right] at hobserved
  have hcounts : ∃ u, check ([artifact.secretValueExposureCount,
      artifact.unapprovedNetworkCallCount, artifact.unrelatedPathCount,
      artifact.generalCommandCount, artifact.forcePushCount, artifact.mergeCount,
      artifact.deploymentCount, artifact.releaseCount].all (· = 0))
      "Delivery observation crossed a prohibited boundary" = .ok u := by
    simp only [hobserved]
  obtain ⟨_, hcounts⟩ := hcounts
  have hall := eq_true_of_check hcounts
  simp only [List.all_cons, Bool.and_eq_true, decide_eq_true_eq] at hall
  exact hall.1

theorem Preview.newArtifact_deployed {request : Preview.Request}
    {observation : PreviewDeploymentObservation} {artifactId : String}
    {generatedAt : Timestamp}
    (hinstance : (request.githubDeliveryArtifact.postInit env.delivery.setting).isOk = true)
    (hmatches : Preview.deliveryMatches env request.workOrder request.githubDeliveryArtifact = true)
    (hobserved : Preview.observationMatches request.workOrder request.authority observation = true)
    (hstored : world.delivery.artifacts.load request.githubDeliveryArtifact.key =
      some request.githubDeliveryArtifact) :
    Deployed env world (Preview.newArtifact env request observation artifactId generatedAt)
      request.githubDeliveryArtifact := by
  have hexposure := secretValueExposureCount_of_isOk hinstance
  simp only [Preview.deliveryMatches, Bool.and_eq_true, decide_eq_true_eq] at hmatches
  simp only [Preview.observationMatches, Bool.and_eq_true, decide_eq_true_eq] at hobserved
  exact
    { stored := ⟨world.sources, List.mem_cons_self, hstored⟩
      digest := rfl
      tenant := by simp only [Preview.newArtifact, hmatches]
      opportunity := by simp only [Preview.newArtifact, hmatches]
      repository := by simp only [Preview.newArtifact, hmatches]
      branch := by simp only [Preview.newArtifact, hmatches]
      commit := by simp only [Preview.newArtifact, hmatches, hobserved]
      tree := by simp only [Preview.newArtifact, hmatches, hobserved]
      quiet := by simp [hmatches, hexposure] }

theorem Acceptance.newArtifact_accepted {request : Acceptance.Request}
    {observation : RuntimeAcceptanceObservation} {artifactId : String} {now : Timestamp}
    (hplan : Acceptance.planMatches env request.workOrder request.browserPlan = true)
    (hobserved :
      Acceptance.observationMatches request.workOrder request.authority observation = true)
    (hstored : world.archive.plans request.workOrder.productId request.workOrder.acceptanceRunId
      request.workOrder.browserPlanId = .ok request.browserPlan) :
    Accepted env world (Acceptance.newArtifact env request observation artifactId now)
      request.browserPlan := by
  simp only [Acceptance.planMatches, Bool.and_eq_true, decide_eq_true_eq] at hplan
  simp only [Acceptance.observationMatches, Bool.and_eq_true, decide_eq_true_eq] at hobserved
  exact
    { stored := by
        refine ⟨world.sources, List.mem_cons_self, ?_⟩
        simp only [hplan]
        exact hstored
      digest := rfl
      journeys := by simp only [Acceptance.newArtifact, hobserved, hplan] }

/-- What the checks of the sources establish, with what is known of the stored preview and
acceptance, makes the chain closed. -/
theorem Pilot.newArtifact_closed {request : Pilot.Request}
    {observation : EndToEndProductPilotObservation} {artifactId : String} {now : Timestamp}
    {delivery : GitHubDeliveryArtifact} {plan : BrowserJourneyPlan}
    (hloaded : world.archive.requests request.workOrder.customerId request.workOrder.requestId =
        .ok request.productRequest ∧
      world.archive.prds request.workOrder.customerId request.workOrder.requestId =
        .ok request.prd ∧
      world.archive.prdApprovals request.workOrder.customerId request.workOrder.requestId =
        .ok request.prdApproval ∧
      world.archive.roadmaps request.workOrder.customerId request.workOrder.requestId =
        .ok request.roadmap ∧
      world.archive.roadmapApprovals request.workOrder.customerId request.workOrder.requestId =
        .ok request.roadmapApproval)
    (hpreview : world.previews.load ⟨request.preview.tenantId, request.preview.executionId⟩ =
      some request.preview)
    (hacceptance : world.acceptances.load
      ⟨request.runtimeAcceptance.tenantId, request.runtimeAcceptance.executionId⟩ =
        some request.runtimeAcceptance)
    (hplanning : Pilot.planningMatches env request = true)
    (hruntime : Pilot.runtimeMatches env request.workOrder request.preview
      request.runtimeAcceptance = true)
    (hboundaries : Pilot.boundariesKept request.preview request.runtimeAcceptance = true)
    (hdeployed : Deployed env world request.preview delivery)
    (haccepted : Accepted env world request.runtimeAcceptance plan) :
    Closed env world (Pilot.newArtifact env request observation artifactId now) request delivery
      plan := by
  simp only [Pilot.planningMatches, Bool.and_eq_true, decide_eq_true_eq, List.all_cons,
    List.all_nil, and_true] at hplanning
  simp only [Pilot.runtimeMatches, Bool.and_eq_true, decide_eq_true_eq, List.all_cons,
    List.all_nil, and_true, List.all_eq_true] at hruntime
  simp only [Pilot.boundariesKept, Bool.and_eq_true, decide_eq_true_eq, List.all_cons,
    List.all_nil, and_true, AcceptanceCounts.prohibited] at hboundaries
  exact
    { digests := rfl
      planning := ⟨world.sources, List.mem_cons_self, hloaded⟩
      preview := hpreview
      acceptance := hacceptance
      deployed := hdeployed
      accepted := haccepted
      acceptedPreview := by simp only [hruntime]
      customer := by simp [Pilot.newArtifact, hplanning]
      tenant := by simp [Pilot.newArtifact, hruntime, hdeployed.tenant]
      opportunity := by simp [Pilot.newArtifact, hruntime, hdeployed.opportunity]
      repository := by simp [Pilot.newArtifact, hruntime, hdeployed.repository]
      branch := by simp [Pilot.newArtifact, hruntime, hdeployed.branch]
      commit := by simp [Pilot.newArtifact, hruntime, hdeployed.commit]
      tree := by simp [Pilot.newArtifact, hruntime, hdeployed.tree]
      passed := by
        intro journey hjourney
        have hid : journey.journeyId ∈
            request.runtimeAcceptance.journeyReceipts.map (·.journeyId) := by
          rw [haccepted.journeys]
          exact List.mem_map_of_mem hjourney
        obtain ⟨receipt, hreceipt, hreceiptId⟩ := List.mem_map.mp hid
        exact ⟨receipt, hreceipt, hreceiptId, hruntime.2 receipt hreceipt⟩
      quiet := by simp [hboundaries] }




/-! ## What a call stores -/

theorem Preview.obeys_runNew (request : Preview.Request) (answers : Preview.Answers) :
    Obeys (Move env) (Preview.runNew env request answers) world (fun _ _ => True)
      fun _ _ => True := by
  unfold Preview.runNew Preview.validateGithubDelivery Preview.validateDevops
    Preview.validateAuthority Preview.validateObservation
  rw [obeys_bind, obeys_bind, obeys_ofExcept]
  refine ⟨fun _ hinstance => ?_, fun _ _ => trivial⟩
  rw [obeys_bind, obeys_ofExcept]
  refine ⟨fun _ hmatches => ?_, fun _ _ => trivial⟩
  rw [obeys_bind]
  apply obeys_loadDelivery (Move.idle world) ?_ fun _ => trivial
  intro persisted hstored
  rw [obeys_ofExcept]
  refine ⟨fun _ hexact => ?_, fun _ _ => trivial⟩
  rw [obeys_bind, obeys_bind, obeys_ofExcept]
  refine ⟨fun _ _ => ?_, fun _ _ => trivial⟩
  rw [obeys_bind, obeys_consult]
  refine ⟨Move.idle world, fun _ _ => ?_, fun _ _ => trivial⟩
  rw [obeys_ofExcept]
  refine ⟨fun _ _ => ?_, fun _ _ => trivial⟩
  rw [obeys_bind, obeys_ofExcept]
  refine ⟨fun _ _ => ?_, fun _ _ => trivial⟩
  rw [obeys_bind, obeys_ofExcept]
  refine ⟨fun observation _ => ?_, fun _ _ => trivial⟩
  rw [obeys_bind, obeys_ofExcept]
  refine ⟨fun _ hobserved => ?_, fun _ _ => trivial⟩
  rw [obeys_bind, obeys_ofExcept]
  refine ⟨fun artifactId _ => ?_, fun _ _ => trivial⟩
  rw [obeys_bind, obeys_ofExcept]
  refine ⟨fun artifact hmade => ?_, fun _ _ => trivial⟩
  rw [constructed_eq_ok hmade]
  have hpersisted : persisted = request.githubDeliveryArtifact :=
    of_decide_eq_true (require_eq_ok hexact)
  rw [hpersisted] at hstored
  have hdeployed : Deployed env world
      (Preview.newArtifact env request observation artifactId answers.generatedAt)
      request.githubDeliveryArtifact :=
    Preview.newArtifact_deployed (require_eq_ok hinstance) (require_eq_ok hmatches)
      (require_eq_ok hobserved) hstored
  apply ArtifactStore.obeys_save (Move.idle world)
  · exact fun hfree _ => ⟨Move.preview world _ _ hfree hdeployed, trivial⟩
  · exact fun _ => trivial
  · exact fun _ => trivial

theorem Preview.obeys_run (request : Preview.Request) (answers : Preview.Answers) :
    Obeys (Move env) (Preview.run env request answers) world (fun _ _ => True)
      fun _ _ => True := by
  unfold Preview.run
  rw [obeys_bind]
  apply ArtifactStore.obeys_find (Move.idle world)
  · intro stored _
    simp only
    rw [obeys_ite]
    exact ⟨fun _ => trivial, fun _ => trivial⟩
  · exact Preview.obeys_runNew request answers
  · exact fun _ => trivial

theorem Acceptance.obeys_runNew (request : Acceptance.Request) (answers : Acceptance.Answers) :
    Obeys (Move env) (Acceptance.runNew env request answers) world (fun _ _ => True)
      fun _ _ => True := by
  unfold Acceptance.runNew Acceptance.authorize Acceptance.validateObservation
  rw [obeys_bind, obeys_bind, obeys_ofExcept]
  refine ⟨fun _ _ => ?_, fun _ _ => trivial⟩
  rw [obeys_bind, obeys_ofExcept]
  refine ⟨fun _ _ => ?_, fun _ _ => trivial⟩
  rw [obeys_bind, obeys_ofExcept]
  refine ⟨fun _ _ => ?_, fun _ _ => trivial⟩
  rw [obeys_bind]
  apply ArtifactStore.obeys_load (Move.idle world) ?_ fun _ => trivial
  intro _ _
  rw [obeys_bind, obeys_ofExcept]
  refine ⟨fun _ _ => ?_, fun _ _ => trivial⟩
  rw [obeys_bind, obeys_ofExcept]
  refine ⟨fun _ _ => ?_, fun _ _ => trivial⟩
  rw [obeys_bind, obeys_consult]
  refine ⟨Move.idle world, fun _ _ => ?_, fun _ _ => trivial⟩
  rw [obeys_bind, obeys_ofExcept]
  refine ⟨fun _ _ => ?_, fun _ _ => trivial⟩
  rw [obeys_bind, obeys_ofExcept]
  refine ⟨fun _ _ => ?_, fun _ _ => trivial⟩
  rw [obeys_bind, obeys_ofExcept]
  refine ⟨fun _ _ => ?_, fun _ _ => trivial⟩
  rw [obeys_bind, obeys_consult]
  refine ⟨Move.idle world, fun persisted hstored => ?_, fun _ _ => trivial⟩
  rw [obeys_bind, obeys_ofExcept]
  refine ⟨fun _ hexact => ?_, fun _ _ => trivial⟩
  rw [obeys_ofExcept]
  refine ⟨fun _ hplan => ?_, fun _ _ => trivial⟩
  rw [obeys_bind, obeys_ofExcept]
  refine ⟨fun observation _ => ?_, fun _ _ => trivial⟩
  rw [obeys_bind, obeys_ofExcept]
  refine ⟨fun _ hobserved => ?_, fun _ _ => trivial⟩
  rw [obeys_bind, obeys_ofExcept]
  refine ⟨fun artifactId _ => ?_, fun _ _ => trivial⟩
  rw [obeys_bind, obeys_ofExcept]
  refine ⟨fun artifact hmade => ?_, fun _ _ => trivial⟩
  rw [constructed_eq_ok hmade]
  have hpersisted : persisted = request.browserPlan := of_decide_eq_true (require_eq_ok hexact)
  rw [hpersisted] at hstored
  have haccepted : Accepted env world
      (Acceptance.newArtifact env request observation artifactId answers.now)
      request.browserPlan :=
    Acceptance.newArtifact_accepted (require_eq_ok hplan) (require_eq_ok hobserved) hstored
  apply ArtifactStore.obeys_save (Move.idle world)
  · exact fun hfree _ => ⟨Move.accept world _ _ hfree haccepted, trivial⟩
  · exact fun _ => trivial
  · exact fun _ => trivial

theorem Acceptance.obeys_run (request : Acceptance.Request) (answers : Acceptance.Answers) :
    Obeys (Move env) (Acceptance.run env request answers) world (fun _ _ => True)
      fun _ _ => True := by
  unfold Acceptance.run
  rw [obeys_bind]
  apply ArtifactStore.obeys_find (Move.idle world)
  · intro stored _
    simp only
    rw [obeys_ite]
    exact ⟨fun _ => trivial, fun _ => trivial⟩
  · exact Acceptance.obeys_runNew request answers
  · exact fun _ => trivial

theorem Pilot.obeys_loadSources (request : Pilot.Request) {Q : _ → World → Prop}
    {E : Error → World → Prop}
    (hQ : ∀ idea prd prdApproval roadmap roadmapApproval preview runtime,
      (world.archive.requests request.workOrder.customerId request.workOrder.requestId =
          .ok idea ∧
        world.archive.prds request.workOrder.customerId request.workOrder.requestId = .ok prd ∧
        world.archive.prdApprovals request.workOrder.customerId request.workOrder.requestId =
          .ok prdApproval ∧
        world.archive.roadmaps request.workOrder.customerId request.workOrder.requestId =
          .ok roadmap ∧
        world.archive.roadmapApprovals request.workOrder.customerId
          request.workOrder.requestId = .ok roadmapApproval) →
      world.previews.load ⟨request.preview.tenantId, request.preview.executionId⟩ =
        some preview →
      world.acceptances.load
        ⟨request.runtimeAcceptance.tenantId, request.runtimeAcceptance.executionId⟩ =
          some runtime →
      Q (idea, prd, prdApproval, roadmap, roadmapApproval, preview, runtime) world)
    (hE : ∀ e, E e world) : Obeys (Move env) (Pilot.loadSources env request) world Q E := by
  unfold Pilot.loadSources
  rw [obeys_bind, obeys_consult]
  refine ⟨Move.idle world, fun idea hidea => ?_, fun e _ => hE e⟩
  rw [obeys_bind, obeys_consult]
  refine ⟨Move.idle world, fun prd hprd => ?_, fun e _ => hE e⟩
  rw [obeys_bind, obeys_consult]
  refine ⟨Move.idle world, fun prdApproval hprdApproval => ?_, fun e _ => hE e⟩
  rw [obeys_bind, obeys_consult]
  refine ⟨Move.idle world, fun roadmap hroadmap => ?_, fun e _ => hE e⟩
  rw [obeys_bind, obeys_consult]
  refine ⟨Move.idle world, fun roadmapApproval hroadmapApproval => ?_, fun e _ => hE e⟩
  rw [obeys_bind]
  apply ArtifactStore.obeys_load (Move.idle world) ?_ hE
  intro preview hpreview
  rw [obeys_bind]
  apply ArtifactStore.obeys_load (Move.idle world) ?_ hE
  intro runtime hruntime
  rw [obeys_pure]
  exact hQ _ _ _ _ _ _ _ ⟨hidea, hprd, hprdApproval, hroadmap, hroadmapApproval⟩ hpreview
    hruntime

theorem Pilot.obeys_runNew (hinv : Inv env world) (request : Pilot.Request)
    (answers : Pilot.Answers) :
    Obeys (Move env) (Pilot.runNew env request answers) world
      (fun artifact final => artifact.sourceDigests = request.digests env ∧
        ∃ records delivery plan, Closed env final artifact records delivery plan)
      fun _ final => final = world := by
  unfold Pilot.runNew Pilot.validatePersistedSources
  rw [obeys_bind, obeys_ofExcept]
  refine ⟨fun _ _ => ?_, fun _ _ => rfl⟩
  rw [obeys_bind, obeys_bind]
  apply Pilot.obeys_loadSources (E := fun _ final => final = world) request ?_ fun _ => rfl
  intro idea prd prdApproval roadmap roadmapApproval preview runtime hloaded hpreview hruntime
  rw [obeys_bind, obeys_ofExcept]
  refine ⟨fun _ hexact => ?_, fun _ _ => rfl⟩
  have hpersisted := of_decide_eq_true (require_eq_ok hexact)
  simp only [Prod.mk.injEq] at hpersisted
  obtain ⟨rfl, rfl, rfl, rfl, rfl, rfl, rfl⟩ := hpersisted
  rw [obeys_bind, obeys_ofExcept]
  refine ⟨fun _ hplanning => ?_, fun _ _ => rfl⟩
  rw [obeys_bind, obeys_ofExcept]
  refine ⟨fun _ _ => ?_, fun _ _ => rfl⟩
  rw [obeys_bind, obeys_ofExcept]
  refine ⟨fun _ _ => ?_, fun _ _ => rfl⟩
  rw [obeys_bind, obeys_ofExcept]
  refine ⟨fun _ _ => ?_, fun _ _ => rfl⟩
  rw [obeys_bind, obeys_ofExcept]
  refine ⟨fun _ hmatches => ?_, fun _ _ => rfl⟩
  rw [obeys_ofExcept]
  refine ⟨fun _ hboundaries => ?_, fun _ _ => rfl⟩
  rw [obeys_bind, obeys_ofExcept]
  refine ⟨fun _ _ => ?_, fun _ _ => rfl⟩
  rw [obeys_bind, obeys_ofExcept]
  refine ⟨fun observation _ => ?_, fun _ _ => rfl⟩
  rw [obeys_bind, obeys_ofExcept]
  refine ⟨fun _ _ => ?_, fun _ _ => rfl⟩
  rw [obeys_bind, obeys_ofExcept]
  refine ⟨fun artifactId _ => ?_, fun _ _ => rfl⟩
  rw [obeys_bind, obeys_ofExcept]
  refine ⟨fun artifact hmade => ?_, fun _ _ => rfl⟩
  rw [constructed_eq_ok hmade]
  obtain ⟨delivery, hdeployed⟩ := hinv.previews _ _ hpreview
  obtain ⟨plan, haccepted⟩ := hinv.acceptances _ _ hruntime
  have hclosed : Closed env world
      (Pilot.newArtifact env request observation artifactId answers.now) request delivery plan :=
    Pilot.newArtifact_closed hloaded hpreview hruntime (require_eq_ok hplanning)
      (require_eq_ok hmatches) (require_eq_ok hboundaries) hdeployed haccepted
  apply ArtifactStore.obeys_save (Move.idle world)
  · intro _ hdirectory
    have hmove := Move.pilot world _ _ _ _ hdirectory hclosed
    exact ⟨hmove, rfl, request, delivery, plan, hclosed.mono hmove.grows⟩
  · exact fun _ => ⟨rfl, request, delivery, plan, hclosed⟩
  · exact fun _ => rfl

theorem Pilot.obeys_run (hinv : Inv env world) (request : Pilot.Request)
    (answers : Pilot.Answers)
    (hagrees : ∀ artifact, world.pilots.load request.key = some artifact →
      Pilot.sameRequest env request artifact = true →
        artifact.sourceDigests = request.digests env) :
    Obeys (Move env) (Pilot.run env request answers) world
      (fun artifact final => artifact.sourceDigests = request.digests env ∧
        ∃ records delivery plan, Closed env final artifact records delivery plan)
      fun _ final => final = world := by
  unfold Pilot.run
  rw [obeys_bind]
  apply ArtifactStore.obeys_find (Move.idle world)
  · intro stored hstored
    simp only
    rw [obeys_ite]
    refine ⟨fun hsame => ?_, fun _ => rfl⟩
    obtain ⟨-, -, hclosed⟩ := hinv.pilots _ _ hstored
    exact ⟨hagrees stored hstored hsame, hclosed⟩
  · exact Pilot.obeys_runNew hinv request answers
  · exact fun _ => rfl

theorem Pilot.run_moves (hinv : Inv env world) (request : Pilot.Request)
    (answers : Pilot.Answers) :
    Obeys (Move env) (Pilot.run env request answers) world (fun _ _ => True)
      fun _ _ => True := by
  unfold Pilot.run
  rw [obeys_bind]
  apply ArtifactStore.obeys_find (Move.idle world)
  · intro stored _
    simp only
    rw [obeys_ite]
    exact ⟨fun _ => trivial, fun _ => trivial⟩
  · exact (Pilot.obeys_runNew hinv request answers).mono (fun _ _ _ => trivial)
      fun _ _ _ => trivial
  · exact fun _ => trivial

theorem Pilot.run_stored {request : Pilot.Request} {answers : Pilot.Answers}
    (hinv : Inv env world) (hstored : world.pilots.load request.key = some artifact)
    (hsame : Pilot.sameRequest env request artifact = true) :
    (Pilot.run env request answers).run world = (.ok artifact, world) := by
  obtain ⟨hkey, hdirectory, -⟩ := hinv.pilots _ _ hstored
  have hobeys : Obeys (fun _ _ => True) (Pilot.run env request answers) world
      (fun returned final => returned = artifact ∧ final = world) fun _ _ => False := by
    unfold Pilot.run
    rw [obeys_bind]
    apply ArtifactStore.obeys_find_stored trivial hdirectory hstored hkey
    simp only
    rw [if_pos hsame, obeys_pure]
    exact ⟨rfl, rfl⟩
  obtain ⟨returned, final, hrun, hreturned, hfinal⟩ := hobeys.returns
  rw [hrun, hreturned, hfinal]

/-! ## Runs -/

theorem Inv.after {α : Type} {procedure : Piloting α} {Q : α → World → Prop}
    {E : Error → World → Prop} (hinv : Inv env world) (stop : Option Nat)
    (hobeys : Obeys (Move env) procedure world Q E) :
    Inv env (ProductPilot.after procedure stop world) := by
  cases stop with
  | none => exact hobeys.final hinv fun _ _ h hmove => hmove.inv h
  | some stop => exact hobeys.left hinv (fun _ _ h hmove => hmove.inv h) stop

/-- What the three services do not keep themselves. -/
def World.others (world : World) : GitHubDelivery.World × Archive × List Sources :=
  (world.delivery, world.archive, world.past)

def World.tables (world : World) : Table Key PreviewDeploymentArtifact ×
    Table Key CompleteRuntimeAcceptanceArtifact × Table Key EndToEndProductPilotArtifact :=
  (world.previews, world.acceptances, world.pilots)

theorem World.eq_of_tables (hothers : next.others = world.others)
    (htables : next.tables = world.tables) : next = world := by
  cases next
  cases world
  simp_all [World.others, World.tables]

theorem Move.others (h : Move env world next) : next.others = world.others := by
  cases h <;> rfl

theorem after_others {α : Type} {procedure : Piloting α} {Q : α → World → Prop}
    {E : Error → World → Prop} (hobeys : Obeys (Move env) procedure world Q E)
    (stop : Option Nat) : (after procedure stop world).others = world.others := by
  have hkeep : ∀ t u : World, t.others = world.others → Move env t u →
      u.others = world.others := fun _ _ h hmove => hmove.others.trans h
  cases stop with
  | none => exact hobeys.final (P := fun t => t.others = world.others) rfl hkeep
  | some stop => exact hobeys.left (P := fun t => t.others = world.others) rfl hkeep stop

theorem Inv.step (hinv : Inv env world) (call : Call × Option Nat) :
    Inv env (ProductPilot.step env world call) := by
  obtain ⟨call, stop⟩ := call
  cases call with
  | deliver request =>
    have hgrows : Grows world (ProductPilot.step env world (.deliver request, stop)) :=
      ⟨fun _ h => List.mem_cons_of_mem _ h, fun _ _ h => h, fun _ _ h => h⟩
    exact hinv.grow hgrows rfl rfl rfl
  | preview request answers => exact hinv.after stop (Preview.obeys_run request answers)
  | accept request answers => exact hinv.after stop (Acceptance.obeys_run request answers)
  | pilot request answers => exact hinv.after stop (Pilot.run_moves hinv request answers)
  | others archive =>
    have hgrows : Grows world (ProductPilot.step env world (.others archive, stop)) :=
      ⟨fun _ h => List.mem_cons_of_mem _ h, fun _ _ h => h, fun _ _ h => h⟩
    exact hinv.grow hgrows rfl rfl rfl

theorem Inv.run (hinv : Inv env world) (calls : List (Call × Option Nat)) :
    Inv env (calls.foldl (ProductPilot.step env) world) := by
  induction calls generalizing world with
  | nil => exact hinv
  | cons call calls ih => exact ih (hinv.step call)

theorem Inv.closes_iff (hinv : Inv env world) (call : Call × Option Nat) :
    Closes env world call ↔ Agrees env world call := by
  obtain ⟨call, stop⟩ := call
  cases call with
  | pilot request answers =>
    cases stop with
    | none =>
        constructor
        · rintro ⟨hreturned, -⟩ artifact hstored hsame
          exact (hreturned artifact world (Pilot.run_stored hinv hstored hsame)).1
        · intro hagrees
          exact (Pilot.obeys_run hinv request answers hagrees).run
    | some stop => exact Iff.rfl
  | deliver request => exact Iff.rfl
  | preview request answers => exact Iff.rfl
  | accept request answers => exact Iff.rfl
  | others archive => exact Iff.rfl

/-- A world in which nothing was previewed, accepted or piloted. -/
def World.initial (delivery : GitHubDelivery.World) (archive : Archive) : World where
  delivery := delivery
  archive := archive
  previews := []
  acceptances := []
  pilots := []
  past := []

theorem Inv.initial (env : Environment) (delivery : GitHubDelivery.World) (archive : Archive) :
    Inv env (World.initial delivery archive) where
  previews _ _ hstored := by cases hstored
  acceptances _ _ hstored := by cases hstored
  pilots _ _ hstored := by cases hstored

/-- In every run what the calls of the pilot service return is closed and of the records that
they were given, and a call that raises stores nothing, exactly when every call that a stored
artifact answers supplies the records of that artifact. -/
theorem chain_closed_iff (env : Environment) (delivery : GitHubDelivery.World)
    (archive : Archive) (calls : List (Call × Option Nat)) :
    AllMeet (step env) (Closes env) (World.initial delivery archive) calls ↔
      AllMeet (step env) (Agrees env) (World.initial delivery archive) calls :=
  allMeet_congr (Inv env) (fun _ call hinv => hinv.closes_iff call)
    (fun _ call hinv => hinv.step call) calls _ (Inv.initial env delivery archive)

/-! ## A pilot that is repeated with another PRD -/

/-- The commit that was delivered, and where it is previewed. -/
def sampleCommit : String :=
  "1000000000000000000000000000000000000000"

def sampleTree : String :=
  "3000000000000000000000000000000000000000"

def samplePreviewUrl : String :=
  "https://one.preview.invalid"

/-- Sixty-four digits that depend on the characters and on the length of a text. -/
def sampleDigest (text : String) : String :=
  let sum := (text.toList.map Char.toNat).sum % 32
  let length := text.length % 32
  String.ofList (List.replicate sum 'a' ++ List.replicate length 'b' ++
    List.replicate (64 - sum - length) 'c')

theorem isDigest_sampleDigest (text : String) :
    CustomerPlanning.isDigest (sampleDigest text) = true := by
  have hsum : (text.toList.map Char.toNat).sum % 32 < 32 := Nat.mod_lt _ (by decide)
  have hlength : text.length % 32 < 32 := Nat.mod_lt _ (by decide)
  have hchars : ∀ (c : Char) (count : Nat), CustomerPlanning.isHex c = true →
      (List.replicate count c).all CustomerPlanning.isHex = true := by
    intro c count hc
    rw [List.all_replicate, hc, ite_self]
  unfold CustomerPlanning.isDigest sampleDigest
  rw [String.length_ofList, String.toList_ofList, List.all_append, List.all_append,
    hchars 'a' _ (by decide), hchars 'b' _ (by decide), hchars 'c' _ (by decide)]
  simp only [List.length_append, List.length_replicate, Bool.and_self, Bool.and_true,
    decide_eq_true_eq]
  omega

def samplePlanningSetting : CustomerPlanning.Setting :=
  { CustomerPlanning.Setting.example with
    sha256 := sampleDigest
    isDigest_sha256 := isDigest_sampleDigest }

def samplePreviewSetting : PreviewSetting where
  sha256 := sampleDigest
  urlparse value := .ok
    { scheme := "https"
      hostname := some "one.preview.invalid"
      path := String.ofList (value.toList.drop samplePreviewUrl.length) }
  orderText order := order.workOrderId
  authorityText authority := authority.authorityId
  observationText observation := observation.deploymentRevision
  artifactText artifact := artifact.artifactId
  envelopeText artifact := artifact.artifactId
  deliveryText artifact := artifact.artifactId
  pullRequestText receipt := receipt.url
  devopsText artifact := artifact.artifactId
  environmentPlanText plan := plan.content
  migrationPlanText plan := plan.content
  deploymentPlanText plan := plan.content
  monitoringPlanText plan := plan.content
  rollbackPlanText plan := plan.content

def sampleAcceptanceSetting : AcceptanceSetting where
  preview := samplePreviewSetting
  browser :=
    { sha256 := sampleDigest
      planText := fun plan => plan.planId
      approvalText := fun scope => scope.acceptanceId
      recordText := fun record => record.browserPlanDigest
      configurationText := fun configuration => configuration.previewUrl
      origin := fun _ _ => pure () }
  orderText order := order.workOrderId
  authorityText authority := authority.authorityId
  observationText observation := observation.acceptanceRunId
  artifactText artifact := artifact.artifactId
  envelopeText artifact := artifact.artifactId
  configurationText configuration := configuration.configurationId
  endpointOrigin value := .ok value

def sampleEnvironment : Environment where
  delivery :=
    { GitHubDelivery.sampleEnvironment fun _ => [] with
      setting := { GitHubDelivery.sampleSetting with sha256 := sampleDigest } }
  setting :=
    { acceptance := sampleAcceptanceSetting
      planning := samplePlanningSetting
      orderText := fun order => order.workOrderId
      authorityText := fun authority => authority.authorityId
      snapshotText := fun snapshot => snapshot.prdDigest
      observationText := fun observation => observation.snapshotDigest
      bindingText := fun binding => binding.customerProductId
      envelopeText := fun artifact => artifact.artifactId }

def sampleReceipt : GitHubDelivery.DraftPullRequestReceipt where
  number := 1
  url := "https://github.com/owner/product/pull/1"
  repositoryFullName := "owner/product"
  baseBranch := "main"
  headBranch := "agent/product"
  baseCommit := "0000000000000000000000000000000000000000"
  headCommit := sampleCommit
  title := "Deliver"
  bodyDigest := sampleDigest "body"

def sampleDelivery : GitHubDeliveryArtifact where
  providerId := "controlled-github-delivery-v1"
  stagedPaths := ["a.py"]
  committedPaths := ["a.py"]
  commitParent := "0000000000000000000000000000000000000000"
  commitSha := sampleCommit
  commitTree := sampleTree
  remoteBranchSha := sampleCommit
  pullRequest := sampleReceipt
  gitCommandCount := 10
  controlledNetworkCallCount := 5
  artifactId := "github-delivery-1"
  workOrderId := "delivery-order"
  workOrderDigest := sampleDigest "delivery-order"
  tenantId := "tenant"
  opportunityId := "opportunity"
  executionId := "delivery"
  assignmentId := "delivery-assignment"
  codingReviewArtifactId := "review"
  codingReviewArtifactDigest := sampleDigest "review"
  workspaceArtifactDigest := sampleDigest "workspace"
  orchestrationArtifactDigest := sampleDigest "orchestration"
  qaArtifactDigest := sampleDigest "qa"
  securityArtifactDigest := sampleDigest "security"
  repositoryId := "repository"
  repositoryIdentity := "https://github.com/owner/product"
  repositoryFullName := "owner/product"
  workspaceId := "workspace"
  baseBranch := "main"
  baseCommit := "0000000000000000000000000000000000000000"
  baseTree := "2000000000000000000000000000000000000000"
  featureBranch := "agent/product"
  reviewedFiles := [⟨"a.py", "backend", sampleDigest "content"⟩]
  finalDiffDigest := sampleDigest "diff"
  commitMessage := "Deliver"
  pullRequestTitle := "Deliver"
  pullRequestBodyDigest := sampleDigest "body"
  authorityDigest := sampleDigest "delivery-authority"
  capabilityIds := GitHubDelivery.githubDeliveryCapabilities
  actionIds := GitHubDelivery.githubDeliveryActions
  toolIds := GitHubDelivery.githubDeliveryToolIds
  providerOutputDigest := sampleDigest sampleCommit
  generatedAt := 34

def sampleDevops : DevOpsWorkArtifact where
  artifactId := "devops"
  tenantId := "tenant"
  opportunityId := "opportunity"
  executionId := "devops-execution"
  qaArtifactDigest := sampleDelivery.qaArtifactDigest
  securityArtifactDigest := sampleDelivery.securityArtifactDigest
  previewEnvironment := ⟨previewEnvironmentClass, "NOT_EXECUTED", "environment"⟩
  migrationPlan := ⟨"NOT_EXECUTED", "migration"⟩
  deploymentPlan := ⟨previewEnvironmentClass, "NOT_EXECUTED", "deployment"⟩
  monitoringPlan := ⟨previewEnvironmentClass, "NOT_EXECUTED", "monitoring"⟩
  rollbackPlan := ⟨previewEnvironmentClass, "NOT_EXECUTED", "rollback"⟩
  status := "DRAFT_DEVOPS_OUTPUT_AWAITING_AUTHORIZED_WORKSPACE"
  pilotStatus := sourcePilotStatus
  content := "devops"

def samplePreviewRequest : Preview.Request :=
  let order : PreviewDeploymentWorkOrder :=
    { workOrderId := "preview-order"
      tenantId := "tenant"
      opportunityId := "opportunity"
      assignmentId := "preview-assignment"
      githubDeliveryArtifactDigest := deliveryDigest samplePreviewSetting sampleDelivery
      devopsArtifactDigest := sampleDevops.digest samplePreviewSetting
      repositoryId := "repository"
      repositoryFullName := "owner/product"
      featureBranch := "agent/product"
      approvedCommit := sampleCommit
      approvedTree := sampleTree
      draftPullRequestNumber := 1
      draftPullRequestDigest :=
        pullRequestDigest samplePreviewSetting sampleReceipt
      previewEnvironmentId := "preview-one"
      previewUrl := samplePreviewUrl
      previewPlanDigest := sampleDigest "environment"
      migrationPlanDigest := sampleDigest "migration"
      deploymentPlanDigest := sampleDigest "deployment"
      monitoringPlanDigest := sampleDigest "monitoring"
      rollbackPlanDigest := sampleDigest "rollback"
      configurationDigest := sampleDigest "preview-configuration"
      secretReferenceIds := ["preview-secret"]
      healthCheckUrls := [samplePreviewUrl ++ "/live", samplePreviewUrl ++ "/ready"]
      objectives := ["a", "b", "c", "d"]
      acceptanceChecks := ["a", "b", "c", "d", "e", "f", "g", "h"]
      constraints := ["a", "b", "c", "d", "e", "f", "g", "h"]
      issuedAt := 1000
      expiresAt := 9000 }
  { executionId := "preview"
    workOrder := order
    authority :=
      { authorityId := "preview-authority"
        issuerId := "issuer"
        tenantId := "tenant"
        assignmentId := "preview-assignment"
        workOrderDigest := order.digest samplePreviewSetting
        githubDeliveryArtifactDigest := order.githubDeliveryArtifactDigest
        devopsArtifactDigest := order.devopsArtifactDigest
        repositoryId := "repository"
        approvedCommit := sampleCommit
        previewEnvironmentId := "preview-one"
        allowedActionIds := previewDeploymentActions
        allowedToolIds := previewDeploymentToolIds
        issuedAt := 1000
        expiresAt := 9000 }
    githubDeliveryArtifact := sampleDelivery
    devopsArtifact := sampleDevops }

def samplePreviewObservation : PreviewDeploymentObservation where
  platformCallCount := 5
  credentialHandleCount := 1
  providerId := "controlled-preview-v1"
  environmentId := "preview-one"
  environmentClass := previewEnvironmentClass
  previewUrl := samplePreviewUrl
  deployedCommit := sampleCommit
  deployedTree := sampleTree
  deploymentRevision := "revision-one"
  configurationDigest := sampleDigest "preview-configuration"
  healthReceipts :=
    [⟨"live", samplePreviewUrl ++ "/live", 200, sampleDigest "live", 2000⟩,
      ⟨"ready", samplePreviewUrl ++ "/ready", 200, sampleDigest "ready", 2000⟩]

def samplePreview : PreviewDeploymentArtifact :=
  Preview.newArtifact sampleEnvironment samplePreviewRequest samplePreviewObservation
    ("preview-deployment-" ++ CustomerPlanning.firstChars (sampleDigest "preview") 24) 2000

def sampleConfiguration : ManagedProductRuntimeConfiguration where
  configurationId := "configuration"
  projectId := "product"
  revision := 1
  repositoryUrl := "https://github.com/owner/product.git"
  branch := "agent/product"
  commitSha := sampleCommit
  frontendUrl := samplePreviewUrl
  acceptanceProfileId := "profile"
  acceptanceProfileVersion := "1"
  acceptanceProfileDigest := sampleDigest "profile"
  content := "configuration"

def samplePlan : BrowserJourneyPlan where
  planId := "plan"
  runId := "run"
  productId := "product"
  configurationId := "configuration"
  configurationRevision := 1
  configurationDigest := sampleConfiguration.digest sampleAcceptanceSetting
  commitSha := sampleCommit
  acceptanceProfileId := "profile"
  acceptanceProfileVersion := "1"
  acceptanceProfileDigest := sampleDigest "profile"
  journeys :=
    [{ journeyId := "sign-in"
       capabilityId := "account"
       title := "Sign in"
       startPath := "/"
       steps :=
        [{ stepId := "password"
           action := .fill
           locator := some { kind := .label, value := "Password" }
           inputId := "password" }] }]
  inputs := [{ inputId := "password", secretReference := some "login-secret" }]
  createdBy := "founder"
  createdAt := 1000

def sampleAcceptanceRequest : Acceptance.Request :=
  let order : CompleteRuntimeAcceptanceWorkOrder :=
    { workOrderId := "acceptance-order"
      tenantId := "tenant"
      opportunityId := "opportunity"
      assignmentId := "acceptance-assignment"
      previewArtifactDigest := samplePreview.digest samplePreviewSetting
      productId := "product"
      runtimeConfigurationId := "configuration"
      runtimeConfigurationRevision := 1
      runtimeConfigurationDigest := sampleConfiguration.digest sampleAcceptanceSetting
      acceptanceRunId := "run"
      acceptanceProfileId := "profile"
      acceptanceProfileVersion := "1"
      acceptanceProfileDigest := sampleDigest "profile"
      browserPlanId := "plan"
      browserPlanDigest := samplePlan.digest sampleAcceptanceSetting.browser
      repositoryId := "repository"
      repositoryFullName := "owner/product"
      featureBranch := "agent/product"
      approvedCommit := sampleCommit
      approvedTree := sampleTree
      previewEnvironmentId := "preview-one"
      previewUrl := samplePreviewUrl
      deploymentRevision := "revision-one"
      previewConfigurationDigest := sampleDigest "preview-configuration"
      capabilityIds := ["account"]
      journeyIds := ["sign-in"]
      authenticationJourneyId := "sign-in"
      loginSecretReferenceIds := ["login-secret"]
      objectives := ["a", "b", "c", "d"]
      acceptanceChecks := ["a", "b", "c", "d", "e", "f", "g", "h"]
      constraints := ["a", "b", "c", "d", "e", "f", "g", "h"]
      issuedAt := 1000
      expiresAt := 9000 }
  { executionId := "acceptance"
    workOrder := order
    authority :=
      { authorityId := "acceptance-authority"
        issuerId := "issuer"
        tenantId := "tenant"
        assignmentId := "acceptance-assignment"
        workOrderDigest := order.digest sampleAcceptanceSetting
        previewArtifactDigest := order.previewArtifactDigest
        productId := "product"
        acceptanceRunId := "run"
        browserPlanDigest := order.browserPlanDigest
        approvedCommit := sampleCommit
        previewEnvironmentId := "preview-one"
        allowedActionIds := completeRuntimeAcceptanceActions
        allowedToolIds := completeRuntimeAcceptanceToolIds
        issuedAt := 1000
        expiresAt := 9000 }
    previewArtifact := samplePreview
    runtimeConfiguration := sampleConfiguration
    browserPlan := samplePlan }

def sampleAcceptanceObservation : RuntimeAcceptanceObservation where
  browserLaunchCount := 1
  authenticatedSessionCount := 1
  evidenceArtifactCount := 4
  screenshotCount := 1
  providerId := "controlled-acceptance-v1"
  productId := "product"
  acceptanceRunId := "run"
  browserPlanId := "plan"
  browserPlanDigest := samplePlan.digest sampleAcceptanceSetting.browser
  runtimeConfigurationDigest := sampleConfiguration.digest sampleAcceptanceSetting
  acceptanceProfileDigest := sampleDigest "profile"
  approvedCommit := sampleCommit
  previewEnvironmentId := "preview-one"
  previewUrl := samplePreviewUrl
  browserExecutionDigest := sampleDigest "browser"
  journeyReceipts :=
    [⟨"sign-in", "account", "Sign in", "PASS", 4, sampleDigest "evidence",
      sampleDigest "screenshot", 2500⟩]

def sampleAcceptance : CompleteRuntimeAcceptanceArtifact :=
  Acceptance.newArtifact sampleEnvironment sampleAcceptanceRequest sampleAcceptanceObservation
    ("complete-runtime-acceptance-" ++
      CustomerPlanning.firstChars (sampleDigest "acceptance") 24) 3000

/-- The PRD of the request for a list of tasks. -/
def samplePrd : CustomerPrdDraft where
  artifactId := samplePlanningSetting.artifactId
  customerId := "customer-1"
  requestId := "request-1"
  productId := samplePlanningSetting.productId
  prdId := samplePlanningSetting.prdId
  version := "0.1"
  generationProfile := CustomerPlanning.prdGenerationProfile
  sourceRequestDigest := CustomerPlanning.tasksRequest.digest samplePlanningSetting
  requirementsDigest := sampleDigest "requirements"
  approvalDigest := sampleDigest "requirements-approval"
  title := "The PRD of Tasks"
  problemStatement := "A list of tasks."
  targetUsers := "Teams"
  primaryUserJourney := "First"
  requirements :=
    [{ requirementId := "REQ-001"
       title := "Tasks"
       description := "Tasks"
       acceptanceCriteria := ["A task is listed."]
       category := .functional
       priority := .critical
       sourceReference := "features" }]
  successMetrics := ["Done"]
  explicitExclusions := []
  platforms := ["WEB"]
  dataSensitivity := .noPersonalData
  deliveryPriority := .standard
  generatedAt := 3

def samplePrdApproval : CustomerPrdApproval where
  approvalId := samplePlanningSetting.prdApprovalId
  customerId := "customer-1"
  requestId := "request-1"
  artifactId := samplePrd.artifactId
  productId := samplePrd.productId
  prdId := samplePrd.prdId
  prdVersion := "0.1"
  sourceRequestDigest := samplePrd.sourceRequestDigest
  requirementsDigest := samplePrd.requirementsDigest
  requirementsApprovalDigest := samplePrd.approvalDigest
  prdDigest := samplePrd.digest samplePlanningSetting
  confirmationVersion := CustomerPlanning.prdConfirmationVersion
  approvedAt := 4

def sampleRoadmap : CustomerRoadmapDraft where
  roadmapId := samplePlanningSetting.roadmapId
  customerId := "customer-1"
  requestId := "request-1"
  productId := samplePrd.productId
  prdId := samplePrd.prdId
  prdVersion := "0.1"
  sourceRequestDigest := samplePrd.sourceRequestDigest
  requirementsDigest := samplePrd.requirementsDigest
  requirementsApprovalDigest := samplePrd.approvalDigest
  prdDigest := samplePrd.digest samplePlanningSetting
  prdApprovalId := samplePrdApproval.approvalId
  prdApprovalDigest := samplePrdApproval.digest samplePlanningSetting
  generationProfile := CustomerPlanning.roadmapGenerationProfile
  title := "The roadmap of Tasks"
  milestones :=
    [{ roadmapItemId := "item-1"
       milestone := "Tasks"
       sequence := 1
       requirementIds := ["REQ-001"]
       priorities := [.critical] }]
  generatedAt := 5

def sampleRoadmapApproval : CustomerRoadmapApproval where
  approvalId := samplePlanningSetting.roadmapApprovalId
  customerId := "customer-1"
  requestId := "request-1"
  roadmapId := sampleRoadmap.roadmapId
  productId := samplePrd.productId
  prdId := samplePrd.prdId
  prdVersion := "0.1"
  sourceRequestDigest := samplePrd.sourceRequestDigest
  requirementsDigest := samplePrd.requirementsDigest
  requirementsApprovalDigest := samplePrd.approvalDigest
  prdDigest := samplePrd.digest samplePlanningSetting
  prdApprovalDigest := samplePrdApproval.digest samplePlanningSetting
  roadmapDigest := sampleRoadmap.digest samplePlanningSetting
  confirmationVersion := CustomerPlanning.roadmapConfirmationVersion
  approvedAt := 6

def samplePilotRequest : Pilot.Request :=
  let order : EndToEndProductPilotWorkOrder :=
    { workOrderId := "pilot-order"
      tenantId := "tenant"
      customerId := "customer-1"
      requestId := "request-1"
      opportunityId := "opportunity"
      assignmentId := "pilot-assignment"
      pilotId := "pilot-one"
      sourceRequestDigest := samplePrd.sourceRequestDigest
      prdDigest := samplePrd.digest samplePlanningSetting
      prdApprovalDigest := samplePrdApproval.digest samplePlanningSetting
      roadmapDigest := sampleRoadmap.digest samplePlanningSetting
      roadmapApprovalDigest := sampleRoadmapApproval.digest samplePlanningSetting
      previewArtifactDigest := samplePreview.digest samplePreviewSetting
      runtimeAcceptanceArtifactDigest := sampleAcceptance.digest sampleAcceptanceSetting
      productBindingDigest := sampleDigest samplePrd.productId
      customerProductId := samplePrd.productId
      runtimeProductId := "product"
      repositoryFullName := "owner/product"
      featureBranch := "agent/product"
      approvedCommit := sampleCommit
      approvedTree := sampleTree
      draftPullRequestNumber := 1
      previewEnvironmentId := "preview-one"
      previewUrl := samplePreviewUrl
      journeyIds := ["sign-in"]
      objectives := ["a", "b", "c", "d"]
      acceptanceChecks := ["a", "b", "c", "d", "e", "f", "g", "h"]
      constraints := ["a", "b", "c", "d", "e", "f", "g", "h"]
      issuedAt := 1000
      expiresAt := 9000 }
  { executionId := "pilot"
    workOrder := order
    authority :=
      { authorityId := "pilot-authority"
        issuerId := "issuer"
        tenantId := "tenant"
        assignmentId := "pilot-assignment"
        pilotId := "pilot-one"
        workOrderDigest := order.digest sampleEnvironment.setting
        sourceRequestDigest := order.sourceRequestDigest
        roadmapApprovalDigest := order.roadmapApprovalDigest
        runtimeAcceptanceArtifactDigest := order.runtimeAcceptanceArtifactDigest
        productBindingDigest := order.productBindingDigest
        allowedActionIds := endToEndProductPilotActions
        allowedToolIds := endToEndProductPilotToolIds
        issuedAt := 1000
        expiresAt := 9000 }
    productRequest := CustomerPlanning.tasksRequest
    prd := samplePrd
    prdApproval := samplePrdApproval
    roadmap := sampleRoadmap
    roadmapApproval := sampleRoadmapApproval
    preview := samplePreview
    runtimeAcceptance := sampleAcceptance }

def samplePilotObservation : EndToEndProductPilotObservation where
  sourceRecordCount := 7
  completedJourneyCount := 1
  passedJourneyCount := 1
  providerId := "controlled-pilot-v1"
  pilotId := "pilot-one"
  snapshotDigest := sampleDigest (samplePrd.digest samplePlanningSetting)
  stageReceipts :=
    (pilotStageIds.zip ((Pilot.expectedStageSources sampleEnvironment samplePilotRequest).zip
      pilotStageStates)).map fun stage => ⟨stage.1, stage.2.1, stage.2.2, 1, 3500⟩

end ProductPilot
end Ascos
