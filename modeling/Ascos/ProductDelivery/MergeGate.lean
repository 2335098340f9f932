import Ascos.Library.Lineage
import Ascos.ProductDelivery.Service

/-!
# The merge gate

What a merge rests on is read off the calls that took effect since the milestone of the
project was created: the commit that was recorded last, what verification said about it, the
last review decision, who authorized a merge of which commit.  The invariant ties the fields
of a state to these calls.

Main results:

- Theorem `merge_gate`: in a run in which nobody authorizes a merge under the
  implementer's name without the blanks it was recorded with, and no milestone is merged
  again after its provider raised, a provider is asked to merge only what was verified,
  approved and authorized by others, and once.
-/

namespace Ascos
namespace ProductDelivery

open Ascos.Library
open Ascos.Persistence (Json)
open Ascos.Runtime (isBlank isSpace)

/-! ## What the calls say -/

/-- The call creates a milestone. -/
def Call.starts : Call → Bool
  | .planMilestone .. | .createNextMilestone .. => true
  | _ => false

/-- The calls of a project since its milestone was created, the latest one first. -/
def milestone (project : String) : List Call → List Call
  | [] => []
  | call :: log =>
    if call.project = project then
      if call.starts = true then [] else call :: milestone project log
    else milestone project log

/-- The commit that was recorded last. -/
def currentCommit : List Call → Option String
  | [] => none
  | .recordImplementation _ commit _ :: _ => some commit
  | _ :: calls => currentCommit calls

/-- What the last verification said, if it came after the last commit. -/
def verdict : List Call → Option Bool
  | [] => none
  | .recordImplementation .. :: _ => none
  | .recordVerification _ passed :: _ => some passed
  | _ :: calls => verdict calls

/-- The provider and the implementer that the milestone was dispatched to. -/
def parties : List Call → Option (String × String)
  | [] => none
  | .dispatch _ providerId implementer _ :: _ => some (providerId, implementer)
  | _ :: calls => parties calls

def lastDecision : List Call → Option (String × ReviewDecisionType × Option String)
  | [] => none
  | .approve _ reviewer _ _ :: calls => some (reviewer, .approved, currentCommit calls)
  | .requestChanges _ reviewer _ _ :: calls =>
      some (reviewer, .changesRequested, currentCommit calls)
  | _ :: calls => lastDecision calls

/-- Who authorized a merge last, and of which commit. -/
def authorization : List Call → Option (String × Option String)
  | [] => none
  | .authorizeMerge _ human :: calls => some (human, currentCommit calls)
  | _ :: calls => authorization calls

/-- What a merge has to rest on. -/
def Gated (casefold : String → String) (calls : List Call) : Prop :=
  ∃ commit providerId implementer reviewer human,
    currentCommit calls = some commit ∧ verdict calls = some true ∧
    parties calls = some (providerId, implementer) ∧
    lastDecision calls = some (reviewer, .approved, some commit) ∧
    identity casefold reviewer ≠ identity casefold implementer ∧
    identity casefold reviewer ≠ identity casefold providerId ∧
    authorization calls = some (human, some commit) ∧
    identity casefold human ≠ identity casefold implementer ∧
    ∀ call ∈ calls, call.isMerge = false

/-! ## The invariant -/

/-- The fields of a state say what the calls of its milestone say. -/
structure Evidence (casefold : String → String) (state : ProductDeliveryState)
    (calls : List Call) : Prop where
  commit : currentCommit calls = state.latestCommit
  provider : state.currentProvider = (parties calls).map (·.1)
  implementer : state.implementer = (parties calls).map (·.2)
  named : state.implementer ≠ some ""
  dispatched : state.reviewState ≠ .planned → state.reviewState ≠ .cancelled →
    (parties calls).isSome = true
  passed : state.reviewState = .implemented → state.verificationStatus = "PASSED" →
    verdict calls = some true
  tested : state.reviewState = .waitingForHumanReview ∨ state.reviewState = .approved →
    verdict calls = some true
  decided : state.reviewState = .approved → ∃ reviewer commit,
    state.latestCommit = some commit ∧
    lastDecision calls = some (reviewer, .approved, some commit) ∧
    sameIdentity casefold reviewer state.implementer = false ∧
    sameIdentity casefold reviewer state.currentProvider = false
  authorized : ∀ human, state.mergeAuthorizedBy = some human →
    state.reviewState ∈ [.approved, .merged, .cancelled] ∧
    authorization calls = some (human, state.latestCommit) ∧
    sameIdentity casefold human state.implementer = false
  merges : state.reviewState ≠ .merged →
    ∀ call ∈ calls, call.isMerge = true → call.mergeRaised = true

/-- Every state of a project can be saved. -/
def Savable (kind : StoreKind) (project : String) : Prop :=
  ∀ store state, state.project = project →
    save kind store state = .ok (store.save project (document kind state))

/-- Every stored document is that of a state which says what the calls say. -/
def Kept (casefold : String → String) (kind : StoreKind) (world : World) : Prop :=
  ∀ project value, world.store.load project = some value →
    ∃ state, value = document kind state ∧ state.project = project ∧ Savable kind project ∧
      Evidence casefold state (milestone project world.log)

/-- A call that does not lead past the gate.  Nobody authorizes a merge whose name differs
from the recorded implementer's in the blanks at the ends of the latter alone; no milestone is
merged again after its provider raised. -/
def Careful (casefold : String → String) (kind : StoreKind) (world : World) : Call → Prop
  | .authorizeMerge project human =>
    ∀ state implementer, get kind world.store project = .ok state →
      state.implementer = some implementer →
      identity casefold human = identity casefold implementer →
        identity casefold human = casefold implementer
  | .merge project _ => ∀ call ∈ milestone project world.log, call.mergeRaised = false
  | _ => True

/-! ## What each operation keeps -/

variable {casefold : String → String} {kind : StoreKind}

theorem savable_of_save {store saved : Table String Json} {state : ProductDeliveryState}
    (h : save kind store state = .ok saved) : Savable kind state.project := by
  unfold save at h
  simp only [Checks.guard_bind_ok_iff, Checks.bind_ok_iff, Checks.pure_ok_iff] at h
  obtain ⟨⟨⟩, htarget, hzero, -⟩ := h
  intro store' state' hproject
  unfold save
  rw [hproject, htarget, ok_bind, if_neg hzero]
  rfl

/-- What was saved is the document of the state. -/
theorem save_ok {store saved : Table String Json} {state : ProductDeliveryState}
    (h : save kind store state = .ok saved) :
    saved = store.save state.project (document kind state) := by
  have hsavable := savable_of_save h store state rfl
  rw [h] at hsavable
  cases hsavable
  rfl

/-- A state that was loaded is the one that the invariant speaks of. -/
theorem Kept.of_get {world : World} (hkept : Kept casefold kind world) {project : String}
    {state : ProductDeliveryState} (h : get kind world.store project = .ok state) :
    state.project = project ∧ Savable kind project ∧
      Evidence casefold state (milestone project world.log) := by
  unfold get load at h
  simp only [Checks.bind_ok_iff] at h
  obtain ⟨found, ⟨⟨⟩, -, hload⟩, h⟩ := h
  cases hvalue : world.store.load project with
  | none =>
    rw [hvalue] at hload
    cases hload
    cases h
  | some value =>
    obtain ⟨kept, rfl, hproject, hsavable, hevidence⟩ := hkept project value hvalue
    rw [hvalue] at hload
    simp only [deserialize_document, ok_bind] at hload
    cases hload
    cases h
    exact ⟨hproject, hsavable, hevidence⟩

/-- A new milestone has no calls. -/
theorem Evidence.fresh (project name branch : String) (mode : ProviderExecutionMode) :
    Evidence casefold
      { project, currentMilestone := name, currentBranch := branch, executionMode := mode } [] := by
  constructor <;> simp [currentCommit, parties]

variable {state next : ProductDeliveryState} {calls : List Call}

/-- An operation before the dispatch that changes nothing that a merge rests on. -/
theorem Evidence.of_planned (hevidence : Evidence casefold state calls)
    (hplanned : state.reviewState = .planned) {call : Call}
    (hcall : (∃ project snapshot, call = .captureKnowledge project snapshot) ∨
      ∃ project plan, call = .recordPlan project plan)
    (snapshot plan : Option String) (actions : List String) (progress : Int) :
    Evidence casefold
      { state with
        knowledgeSnapshot := snapshot
        implementationPlan := plan
        pendingActions := actions
        progress } (call :: calls) := by
  have hmerges : ∀ other ∈ call :: calls, other.isMerge = true → other.mergeRaised = true := by
    intro other hother hmerge
    rcases List.mem_cons.mp hother with rfl | hother
    · rcases hcall with ⟨_, _, rfl⟩ | ⟨_, _, rfl⟩ <;> cases hmerge
    · exact hevidence.merges (by simp [hplanned]) other hother hmerge
  rcases hcall with ⟨_, _, rfl⟩ | ⟨_, _, rfl⟩ <;>
    exact
      { commit := hevidence.commit
        provider := hevidence.provider
        implementer := hevidence.implementer
        named := hevidence.named
        dispatched := hevidence.dispatched
        passed := hevidence.passed
        tested := hevidence.tested
        decided := hevidence.decided
        authorized := hevidence.authorized
        merges := fun _ => hmerges }

theorem Evidence.knowledgeCaptured {project snapshot : String}
    (hevidence : Evidence casefold state calls)
    (h : knowledgeCaptured snapshot state = .ok next) :
    next.project = state.project ∧
      Evidence casefold next (.captureKnowledge project snapshot :: calls) := by
  unfold ProductDelivery.knowledgeCaptured requireStage requireText at h
  simp only [Checks.bind_ok_iff, Checks.guard_ok_iff, Checks.pure_ok_iff] at h
  obtain ⟨-, ⟨hstage, -⟩, -, -, rfl⟩ := h
  exact ⟨rfl, hevidence.of_planned (not_not.mp hstage) (.inl ⟨_, _, rfl⟩) _ _ _ _⟩

theorem Evidence.planRecorded {project plan : String}
    (hevidence : Evidence casefold state calls) (h : planRecorded plan state = .ok next) :
    next.project = state.project ∧
      Evidence casefold next (.recordPlan project plan :: calls) := by
  unfold ProductDelivery.planRecorded requireStage requireText at h
  simp only [Checks.bind_ok_iff, Checks.guard_bind_ok_iff, Checks.guard_ok_iff,
    Checks.pure_ok_iff] at h
  obtain ⟨-, ⟨hstage, -⟩, -, -, -, rfl⟩ := h
  exact ⟨rfl, hevidence.of_planned (not_not.mp hstage) (.inr ⟨_, _, rfl⟩) _ _ _ _⟩

theorem Evidence.merges_cons (hevidence : Evidence casefold state calls) {call : Call}
    (hstage : state.reviewState ≠ .merged) (hcall : call.isMerge = false) :
    ∀ other ∈ call :: calls, other.isMerge = true → other.mergeRaised = true := by
  intro other hother hmerge
  rcases List.mem_cons.mp hother with rfl | hother
  · rw [hcall] at hmerge
    cases hmerge
  · exact hevidence.merges hstage other hother hmerge

theorem Evidence.dispatch {project providerId implementer : String}
    {reply : Except Error String} (hevidence : Evidence casefold state calls)
    (h : ProductDelivery.dispatched providerId implementer state = .ok next) :
    next.project = state.project ∧
      Evidence casefold next (.dispatch project providerId implementer reply :: calls) := by
  unfold ProductDelivery.dispatched requireText at h
  simp only [Checks.bind_ok_iff, Checks.guard_bind_ok_iff, Checks.guard_ok_iff,
    Checks.pure_ok_iff] at h
  obtain ⟨-, -, hstage, -, ⟨hblank, -⟩, rfl⟩ := h
  have hplanned := not_not.mp hstage
  refine ⟨rfl, ?_⟩
  exact
    { commit := hevidence.commit
      provider := rfl
      implementer := rfl
      named := by
        intro hempty
        cases hempty
        exact hblank rfl
      dispatched := fun _ _ => rfl
      passed := by simp
      tested := by simp
      decided := by simp
      authorized := fun human hhuman =>
        absurd (hevidence.authorized human hhuman).1 (by simp [hplanned])
      merges := fun _ => hevidence.merges_cons (by simp [hplanned]) rfl }

theorem Evidence.implementationRecorded {project commit pullRequest : String}
    (hevidence : Evidence casefold state calls)
    (h : ProductDelivery.implementationRecorded commit pullRequest state = .ok next) :
    next.project = state.project ∧
      Evidence casefold next (.recordImplementation project commit pullRequest :: calls) := by
  unfold ProductDelivery.implementationRecorded requireText at h
  simp only [Checks.bind_ok_iff, Checks.guard_bind_ok_iff, Checks.guard_ok_iff,
    Checks.pure_ok_iff] at h
  obtain ⟨hstage, -, -, -, -, rfl⟩ := h
  have hreached := not_not.mp hstage
  have hdispatched : (parties calls).isSome = true := by
    apply hevidence.dispatched
    · intro hplanned
      simp [hplanned] at hreached
    · intro hcancelled
      simp [hcancelled] at hreached
  refine ⟨rfl, ?_⟩
  exact
    { commit := rfl
      provider := hevidence.provider
      implementer := hevidence.implementer
      named := hevidence.named
      dispatched := fun _ _ => hdispatched
      passed := by simp
      tested := by simp
      decided := by simp
      authorized := by simp
      merges := by
        intro _
        apply hevidence.merges_cons
        · intro hmerged
          simp [hmerged] at hreached
        · rfl }

theorem Evidence.verificationRecorded {project : String} {passed : Bool}
    (hevidence : Evidence casefold state calls)
    (h : ProductDelivery.verificationRecorded passed state = .ok next) :
    next.project = state.project ∧
      Evidence casefold next (.recordVerification project passed :: calls) := by
  unfold ProductDelivery.verificationRecorded at h
  simp only [Checks.guard_bind_ok_iff, Checks.pure_ok_iff] at h
  obtain ⟨hstage, rfl⟩ := h
  have himplemented := not_not.mp hstage
  refine ⟨rfl, ?_⟩
  exact
    { commit := hevidence.commit
      provider := hevidence.provider
      implementer := hevidence.implementer
      named := hevidence.named
      dispatched := hevidence.dispatched
      passed := by
        intro _ hstatus
        cases passed with
        | true => rfl
        | false => simp at hstatus
      tested := by simp [himplemented]
      decided := by simp [himplemented]
      authorized := fun human hhuman =>
        absurd (hevidence.authorized human hhuman).1 (by simp [himplemented])
      merges := fun _ => hevidence.merges_cons (by simp [himplemented]) rfl }

theorem Evidence.requestReview {project reviewer : String}
    (hevidence : Evidence casefold state calls)
    (h : ProductDelivery.requestReview casefold reviewer state = .ok next) :
    next.project = state.project ∧
      Evidence casefold next (.requestReview project reviewer :: calls) := by
  unfold ProductDelivery.requestReview reviewRequested requireIdentity at h
  simp only [Checks.bind_ok_iff, Checks.guard_bind_ok_iff, Checks.guard_ok_iff,
    Checks.pure_ok_iff] at h
  obtain ⟨-, reviewed, ⟨hstage, hverified, -, -, -, rfl⟩, rfl⟩ := h
  have himplemented := not_not.mp hstage
  push Not at hverified
  refine ⟨rfl, ?_⟩
  exact
    { commit := hevidence.commit
      provider := hevidence.provider
      implementer := hevidence.implementer
      named := hevidence.named
      dispatched := fun _ _ => hevidence.dispatched (by simp [himplemented]) (by simp [himplemented])
      passed := by simp
      tested := fun _ => hevidence.passed himplemented hverified.1
      decided := by simp
      authorized := fun human hhuman =>
        absurd (hevidence.authorized human hhuman).1 (by simp [himplemented])
      merges := fun _ => hevidence.merges_cons (by simp [himplemented]) rfl }

theorem decisionRecorded_ok {reviewer comments : String} {decision : ReviewDecisionType}
    {now : Option Moment}
    (h : decisionRecorded casefold reviewer decision comments now state = .ok next) :
    state.reviewState = .waitingForHumanReview ∧
      sameIdentity casefold reviewer state.implementer = false ∧
      sameIdentity casefold reviewer state.currentProvider = false ∧
      ∃ commit item, state.latestCommit = some commit ∧
        next = { state with
          reviewHistory := state.reviewHistory ++ [item]
          currentReviewer := some reviewer
          reviewState := if decision = .approved then .approved else .changesRequested } := by
  unfold decisionRecorded requireIdentity at h
  simp only [Checks.bind_ok_iff, Checks.guard_bind_ok_iff, Checks.guard_ok_iff,
    Checks.pure_ok_iff] at h
  obtain ⟨hstage, -, -, hother, -, h⟩ := h
  simp only [not_or, Bool.not_eq_true] at hother
  refine ⟨not_not.mp hstage, hother.1, hother.2, ?_⟩
  cases hcommit : state.latestCommit with
  | none => simp [hcommit] at h
  | some commit =>
    cases now with
    | none => simp [hcommit] at h
    | some moment =>
        simp only [hcommit, Checks.pure_ok_iff] at h
        exact ⟨commit, _, rfl, h.symm⟩

theorem Evidence.approve {project reviewer comments : String} {now : Option Moment}
    (hevidence : Evidence casefold state calls)
    (h : ProductDelivery.approve casefold reviewer comments now state = .ok next) :
    next.project = state.project ∧
      Evidence casefold next (.approve project reviewer comments now :: calls) := by
  unfold ProductDelivery.approve at h
  simp only [Checks.bind_ok_iff, Checks.pure_ok_iff] at h
  obtain ⟨decided, hdecided, rfl⟩ := h
  obtain ⟨hwaiting, himplementer, hprovider, commit, item, hcommit, rfl⟩ :=
    decisionRecorded_ok hdecided
  refine ⟨rfl, ?_⟩
  exact
    { commit := hevidence.commit
      provider := hevidence.provider
      implementer := hevidence.implementer
      named := hevidence.named
      dispatched := fun _ _ => hevidence.dispatched (by simp [hwaiting]) (by simp [hwaiting])
      passed := by simp
      tested := fun _ => hevidence.tested (.inl hwaiting)
      decided := by
        intro _
        refine ⟨reviewer, commit, hcommit, ?_, himplementer, hprovider⟩
        rw [lastDecision, hevidence.commit, hcommit]
      authorized := fun human hhuman =>
        absurd (hevidence.authorized human hhuman).1 (by simp [hwaiting])
      merges := fun _ => hevidence.merges_cons (by simp [hwaiting]) rfl }

theorem Evidence.requestChanges {project reviewer comments : String} {now : Option Moment}
    (hevidence : Evidence casefold state calls)
    (h : ProductDelivery.requestChanges casefold reviewer comments now state = .ok next) :
    next.project = state.project ∧
      Evidence casefold next (.requestChanges project reviewer comments now :: calls) := by
  unfold ProductDelivery.requestChanges at h
  simp only [Checks.bind_ok_iff, Checks.guard_bind_ok_iff, Checks.pure_ok_iff] at h
  obtain ⟨-, decided, hdecided, rfl⟩ := h
  obtain ⟨hwaiting, -, -, commit, item, -, rfl⟩ := decisionRecorded_ok hdecided
  refine ⟨rfl, ?_⟩
  exact
    { commit := hevidence.commit
      provider := hevidence.provider
      implementer := hevidence.implementer
      named := hevidence.named
      dispatched := fun _ _ => hevidence.dispatched (by simp [hwaiting]) (by simp [hwaiting])
      passed := by simp
      tested := by simp
      decided := by simp
      authorized := fun human hhuman =>
        absurd (hevidence.authorized human hhuman).1 (by simp [hwaiting])
      merges := fun _ => hevidence.merges_cons (by simp [hwaiting]) rfl }

/-- The comparison of `authorize_merge` finds everyone whom the comparison of identities
finds, as long as the two differ in nothing. -/
theorem sameIdentity_eq_false {human : String} (hnamed : state.implementer ≠ some "")
    (hself : selfAuthorized casefold human state.implementer = false)
    (hcareful : ∀ implementer, state.implementer = some implementer →
      identity casefold human = identity casefold implementer →
        identity casefold human = casefold implementer) :
    sameIdentity casefold human state.implementer = false := by
  cases himplementer : state.implementer with
  | none => rfl
  | some implementer =>
    rw [himplementer] at hself hnamed
    have hne : implementer ≠ "" := fun hempty => hnamed (by rw [hempty])
    by_contra hsame
    have hidentity : identity casefold human = identity casefold implementer := by
      simpa [sameIdentity] using hsame
    have hfound := hcareful implementer himplementer hidentity
    simp [selfAuthorized, hne, hfound] at hself

theorem Evidence.authorizeMerge {project human : String}
    (hevidence : Evidence casefold state calls)
    (hcareful : ∀ implementer, state.implementer = some implementer →
      identity casefold human = identity casefold implementer →
        identity casefold human = casefold implementer)
    (h : mergeAuthorized casefold human state = .ok next) :
    next.project = state.project ∧
      Evidence casefold next (.authorizeMerge project human :: calls) := by
  unfold mergeAuthorized requireText at h
  simp only [Checks.guard_bind_ok_iff] at h
  obtain ⟨hstage, h⟩ := h
  have happroved := not_not.mp hstage
  cases hlast : state.reviewHistory.getLast? with
  | none => simp [hlast] at h
  | some approval =>
    simp only [hlast, Checks.bind_ok_iff, Checks.guard_bind_ok_iff, Checks.guard_ok_iff,
      Checks.pure_ok_iff] at h
    obtain ⟨-, -, -, -, hself, rfl⟩ := h
    refine ⟨rfl, ?_⟩
    exact
      { commit := hevidence.commit
        provider := hevidence.provider
        implementer := hevidence.implementer
        named := hevidence.named
        dispatched := hevidence.dispatched
        passed := hevidence.passed
        tested := hevidence.tested
        decided := hevidence.decided
        authorized := by
          intro other hother
          cases hother
          refine ⟨by simp [happroved], ?_, ?_⟩
          · rw [authorization, hevidence.commit]
          · exact sameIdentity_eq_false hevidence.named (by simpa using hself) hcareful
        merges := fun _ => hevidence.merges_cons (by simp [happroved]) rfl }

theorem Evidence.cancel {project : String} (hevidence : Evidence casefold state calls)
    (h : ProductDelivery.cancelled state = .ok next) :
    next.project = state.project ∧ Evidence casefold next (.cancel project :: calls) := by
  unfold ProductDelivery.cancelled at h
  simp only [Checks.guard_bind_ok_iff, Checks.pure_ok_iff] at h
  obtain ⟨hstage, rfl⟩ := h
  refine ⟨rfl, ?_⟩
  exact
    { commit := hevidence.commit
      provider := hevidence.provider
      implementer := hevidence.implementer
      named := hevidence.named
      dispatched := by simp
      passed := by simp
      tested := by simp
      decided := by simp
      authorized := fun human hhuman =>
        ⟨by simp, (hevidence.authorized human hhuman).2⟩
      merges := by
        intro _
        apply hevidence.merges_cons
        · intro hmerged
          simp [hmerged] at hstage
        · rfl }

theorem mergeRequest_ok {request : String × String} (h : mergeRequest state = .ok request) :
    state.reviewState = .approved ∧ state.mergeAuthorizedBy = some request.2 := by
  unfold mergeRequest at h
  simp only [Checks.guard_bind_ok_iff] at h
  obtain ⟨hstage, h⟩ := h
  refine ⟨not_not.mp hstage, ?_⟩
  cases hhuman : state.mergeAuthorizedBy with
  | none => simp [hhuman] at h
  | some human =>
    cases hpr : state.currentPr with
    | none => simp [hhuman, hpr] at h
    | some pullRequest =>
        simp only [hhuman, hpr, Checks.guard_bind_ok_iff, Checks.pure_ok_iff] at h
        rw [← h.2]

theorem Evidence.merged {project text : String} (hevidence : Evidence casefold state calls)
    (happroved : state.reviewState = .approved) :
    Evidence casefold (ProductDelivery.merged state) (.merge project (.ok text) :: calls) :=
  { commit := hevidence.commit
    provider := hevidence.provider
    implementer := hevidence.implementer
    named := hevidence.named
    dispatched := fun _ _ => hevidence.dispatched (by simp [happroved]) (by simp [happroved])
    passed := by simp [ProductDelivery.merged]
    tested := by simp [ProductDelivery.merged]
    decided := by simp [ProductDelivery.merged]
    authorized := fun human hhuman =>
      ⟨by simp [ProductDelivery.merged], (hevidence.authorized human hhuman).2⟩
    merges := by simp [ProductDelivery.merged] }

theorem Evidence.mergeRaised {project : String} {e : Error}
    (hevidence : Evidence casefold state calls) :
    Evidence casefold state (.merge project (.error e) :: calls) :=
  { commit := hevidence.commit
    provider := hevidence.provider
    implementer := hevidence.implementer
    named := hevidence.named
    dispatched := hevidence.dispatched
    passed := hevidence.passed
    tested := hevidence.tested
    decided := hevidence.decided
    authorized := hevidence.authorized
    merges := by
      intro hstage other hother hmerge
      rcases List.mem_cons.mp hother with rfl | hother
      · rfl
      · exact hevidence.merges hstage other hother hmerge }

/-- Where the checks of `merge` pass, the calls of the milestone are all that a merge has to
rest on. -/
theorem Evidence.gated {request : String × String} (hevidence : Evidence casefold state calls)
    (h : mergeRequest state = .ok request)
    (hcareful : ∀ call ∈ calls, call.mergeRaised = false) : Gated casefold calls := by
  obtain ⟨happroved, hhuman⟩ := mergeRequest_ok h
  obtain ⟨reviewer, commit, hcommit, hdecided, himplementer, hprovider⟩ :=
    hevidence.decided happroved
  obtain ⟨-, hauthorized, hother⟩ := hevidence.authorized request.2 hhuman
  have hdispatched := hevidence.dispatched (by simp [happroved]) (by simp [happroved])
  obtain ⟨pair, hpair⟩ := Option.isSome_iff_exists.mp hdispatched
  have hpartyImplementer : state.implementer = some pair.2 := by
    rw [hevidence.implementer, hpair]
    rfl
  have hpartyProvider : state.currentProvider = some pair.1 := by
    rw [hevidence.provider, hpair]
    rfl
  rw [hpartyImplementer] at himplementer hother
  rw [hpartyProvider] at hprovider
  refine ⟨commit, pair.1, pair.2, reviewer, request.2, ?_, ?_, hpair, hdecided, ?_, ?_, ?_, ?_,
    ?_⟩
  · rw [hevidence.commit, hcommit]
  · exact hevidence.tested (.inr happroved)
  · simpa [sameIdentity] using himplementer
  · simpa [sameIdentity] using hprovider
  · rw [hauthorized, hcommit]
  · simpa [sameIdentity] using hother
  · intro call hcall
    by_contra hmerge
    have hraised := hevidence.merges (by simp [happroved]) call hcall (by simpa using hmerge)
    rw [hcareful call hcall] at hraised
    cases hraised

/-! ## Runs -/

theorem milestone_cons_of_ne {project : String} {call : Call} {log : List Call}
    (h : call.project ≠ project) : milestone project (call :: log) = milestone project log := by
  simp [milestone, h]

theorem milestone_cons_self {call : Call} {log : List Call} (h : call.starts = false) :
    milestone call.project (call :: log) = call :: milestone call.project log := by
  simp [milestone, h]

theorem milestone_cons_starts {call : Call} {log : List Call} (h : call.starts = true) :
    milestone call.project (call :: log) = [] := by
  simp [milestone, h]

/-- The next state of a project says what the calls say once its call is one of them. -/
theorem Kept.evidence_next {world : World} (hkept : Kept casefold kind world) {call : Call}
    (hcareful : Careful casefold kind world call) (hraised : call.mergeRaised = false)
    (h : call.next casefold kind world.store = .ok next) :
    next.project = call.project ∧
      Evidence casefold next (milestone call.project (call :: world.log)) := by
  cases call with
  | planMilestone project name branch mode =>
    unfold Call.next planned at h
    simp only [Checks.guard_bind_ok_iff, Checks.bind_ok_iff] at h
    obtain ⟨-, -, -, -, -, -, -, found, -, h⟩ := h
    cases found with
    | some other => cases h
    | none =>
        cases h
        refine ⟨rfl, ?_⟩
        rw [milestone_cons_starts rfl]
        exact Evidence.fresh project name branch mode
  | captureKnowledge project snapshot =>
    obtain ⟨state, hget, hnext⟩ := Checks.bind_ok_iff.mp h
    obtain ⟨rfl, -, hevidence⟩ := hkept.of_get hget
    rw [milestone_cons_self rfl]
    exact hevidence.knowledgeCaptured hnext
  | recordPlan project plan =>
    obtain ⟨state, hget, hnext⟩ := Checks.bind_ok_iff.mp h
    obtain ⟨rfl, -, hevidence⟩ := hkept.of_get hget
    rw [milestone_cons_self rfl]
    exact hevidence.planRecorded hnext
  | dispatch project providerId implementer reply =>
    obtain ⟨state, hget, hnext⟩ := Checks.bind_ok_iff.mp h
    obtain ⟨rfl, -, hevidence⟩ := hkept.of_get hget
    rw [milestone_cons_self rfl]
    exact hevidence.dispatch hnext
  | recordImplementation project commit pullRequest =>
    obtain ⟨state, hget, hnext⟩ := Checks.bind_ok_iff.mp h
    obtain ⟨rfl, -, hevidence⟩ := hkept.of_get hget
    rw [milestone_cons_self rfl]
    exact hevidence.implementationRecorded hnext
  | recordVerification project passed =>
    obtain ⟨state, hget, hnext⟩ := Checks.bind_ok_iff.mp h
    obtain ⟨rfl, -, hevidence⟩ := hkept.of_get hget
    rw [milestone_cons_self rfl]
    exact hevidence.verificationRecorded hnext
  | requestReview project reviewer =>
    obtain ⟨state, hget, hnext⟩ := Checks.bind_ok_iff.mp h
    obtain ⟨rfl, -, hevidence⟩ := hkept.of_get hget
    rw [milestone_cons_self rfl]
    exact hevidence.requestReview hnext
  | approve project reviewer comments now =>
    obtain ⟨state, hget, hnext⟩ := Checks.bind_ok_iff.mp h
    obtain ⟨rfl, -, hevidence⟩ := hkept.of_get hget
    rw [milestone_cons_self rfl]
    exact hevidence.approve hnext
  | requestChanges project reviewer comments now =>
    obtain ⟨state, hget, hnext⟩ := Checks.bind_ok_iff.mp h
    obtain ⟨rfl, -, hevidence⟩ := hkept.of_get hget
    rw [milestone_cons_self rfl]
    exact hevidence.requestChanges hnext
  | authorizeMerge project human =>
    obtain ⟨state, hget, hnext⟩ := Checks.bind_ok_iff.mp h
    obtain ⟨rfl, -, hevidence⟩ := hkept.of_get hget
    rw [milestone_cons_self rfl]
    exact hevidence.authorizeMerge
      (fun implementer himplementer => hcareful state implementer hget himplementer) hnext
  | merge project reply =>
    unfold Call.next at h
    simp only [Checks.bind_ok_iff, Checks.pure_ok_iff] at h
    obtain ⟨state, hget, request, hrequest, rfl⟩ := h
    obtain ⟨rfl, -, hevidence⟩ := hkept.of_get hget
    rw [milestone_cons_self rfl]
    cases reply with
    | error e => cases hraised
    | ok text => exact ⟨rfl, hevidence.merged (mergeRequest_ok hrequest).1⟩
  | createNextMilestone project name branch =>
    obtain ⟨state, hget, hnext⟩ := Checks.bind_ok_iff.mp h
    obtain ⟨rfl, -, -⟩ := hkept.of_get hget
    unfold nextMilestone at hnext
    simp only [Checks.guard_bind_ok_iff, Checks.bind_ok_iff, Checks.pure_ok_iff] at hnext
    obtain ⟨-, -, -, -, -, rfl⟩ := hnext
    refine ⟨rfl, ?_⟩
    rw [milestone_cons_starts rfl]
    exact Evidence.fresh state.project name branch state.executionMode
  | cancel project =>
    obtain ⟨state, hget, hnext⟩ := Checks.bind_ok_iff.mp h
    obtain ⟨rfl, -, hevidence⟩ := hkept.of_get hget
    rw [milestone_cons_self rfl]
    exact hevidence.cancel hnext

/-- The merges that providers were asked for were all gated. -/
def Sound (casefold : String → String) (log : List Call) : Prop :=
  ∀ project reply earlier, Call.merge project reply :: earlier <:+ log →
    Gated casefold (milestone project earlier)

theorem Sound.cons {log : List Call} (hsound : Sound casefold log) {call : Call}
    (hcall : ∀ project reply, call = .merge project reply →
      Gated casefold (milestone project log)) : Sound casefold (call :: log) := by
  intro project reply earlier hsuffix
  rcases List.suffix_cons_iff.mp hsuffix with heq | hsuffix
  · cases heq
    exact hcall project reply rfl
  · exact hsound project reply earlier hsuffix

/-- One call keeps the invariant and does not lead past the gate. -/
theorem Kept.step {world : World} (hkept : Kept casefold kind world)
    (hsound : Sound casefold world.log) {call : Call}
    (hcareful : Careful casefold kind world call) :
    Kept casefold kind (step casefold kind world call) ∧
      Sound casefold (step casefold kind world call).log := by
  obtain hstep | ⟨state, hnext, hcases⟩ := step_cases casefold kind world call
  · rw [hstep]
    exact ⟨hkept, hsound⟩
  have hgated : ∀ project reply, call = .merge project reply →
      Gated casefold (milestone project world.log) := by
    rintro project reply rfl
    unfold Call.next at hnext
    simp only [Checks.bind_ok_iff] at hnext
    obtain ⟨loaded, hget, request, hrequest, -⟩ := hnext
    exact (hkept.of_get hget).2.2.gated hrequest hcareful
  have hnextProject : ∀ project reply, call = .merge project reply → state.project = project := by
    rintro project reply rfl
    unfold Call.next at hnext
    simp only [Checks.bind_ok_iff, Checks.pure_ok_iff] at hnext
    obtain ⟨loaded, hget, request, -, rfl⟩ := hnext
    exact (hkept.of_get hget).1
  obtain ⟨hmerge, hfailed, hstep⟩ | ⟨hraised, store, hsave, hstep⟩ := hcases
  · rw [hstep]
    refine ⟨?_, hsound.cons hgated⟩
    intro project value hvalue
    obtain ⟨kept, hdocument, hproject, hsavable, hevidence⟩ := hkept project value hvalue
    refine ⟨kept, hdocument, hproject, hsavable, ?_⟩
    by_cases hsame : call.project = project
    · subst hsame
      cases call with
      | merge asked reply =>
          cases reply with
          | error e =>
              have hcalls : milestone asked (.merge asked (.error e) :: world.log) =
                  .merge asked (.error e) :: milestone asked world.log :=
                if_pos rfl
              change Evidence casefold kept (milestone asked (.merge asked (.error e) :: world.log))
              rw [hcalls]
              exact hevidence.mergeRaised
          | ok text =>
              obtain hraised | ⟨e, herror⟩ := hfailed
              · cases hraised
              · rw [hsavable world.store state (hnextProject asked _ rfl)] at herror
                cases herror
      | _ => cases hmerge
    · change Evidence casefold kept (milestone project (call :: world.log))
      rw [milestone_cons_of_ne hsame]
      exact hevidence
  · rw [hstep]
    refine ⟨?_, hsound.cons hgated⟩
    obtain ⟨hproject, hevidence⟩ := hkept.evidence_next hcareful hraised hnext
    have hsaved := save_ok hsave
    have hsavable := savable_of_save hsave
    intro project value hvalue
    change store.load project = some value at hvalue
    rw [hsaved, Table.load_save] at hvalue
    by_cases hsame : project = state.project
    · subst hsame
      rw [if_pos rfl] at hvalue
      cases hvalue
      refine ⟨state, rfl, rfl, hsavable, ?_⟩
      change Evidence casefold state (milestone state.project (call :: world.log))
      rw [hproject]
      exact hevidence
    · rw [if_neg hsame] at hvalue
      obtain ⟨kept, hdocument, hkeptProject, hkeptSavable, hkeptEvidence⟩ :=
        hkept project value hvalue
      refine ⟨kept, hdocument, hkeptProject, hkeptSavable, ?_⟩
      change Evidence casefold kept (milestone project (call :: world.log))
      rw [milestone_cons_of_ne]
      · exact hkeptEvidence
      · intro hcall
        exact hsame (by rw [hproject, hcall])

/-- In a careful run providers are asked to merge only what is gated, and a state that was
saved is loaded as it was. -/
theorem merge_gate (casefold : String → String) (kind : StoreKind) (calls : List Call)
    (hcareful : AllMeet (step casefold kind) (Careful casefold kind) .initial calls) :
    Sound casefold (calls.foldl (step casefold kind) .initial).log ∧
      ∀ store saved state, save kind store state = .ok saved →
        load kind saved state.project = .ok (some state) := by
  have hinitial : Kept casefold kind .initial ∧ Sound casefold World.initial.log := by
    constructor
    · intro project value hvalue
      cases hvalue
    · intro project reply earlier hsuffix
      cases List.suffix_nil.mp hsuffix
  have hinv := inv_of_allMeet
    (fun world => Kept casefold kind world ∧ Sound casefold world.log)
    (fun world call hworld hmeets => hworld.1.step hworld.2 hmeets) calls .initial hinitial
    hcareful _ (foldl_mem_scanl _ _ _)
  exact ⟨hinv.2, fun store saved state hsave => load_of_save hsave⟩

/-! ## A milestone from its plan to its merge -/

/-- The instant of a decision. -/
def decidedAt : Moment :=
  ⟨⟨2026, 1, 2, 3, 4, 5, 0⟩, by decide⟩

/-- A milestone whose merge alice authorizes. -/
def deliveryRun (implementer : String) : List Call :=
  [.planMilestone "p" "m" "b" .humanReviewedImplementation, .captureKnowledge "p" "k",
    .recordPlan "p" "plan", .dispatch "p" "codex" implementer (.ok "sent"),
    .recordImplementation "p" "c1" "pr1", .recordVerification "p" true,
    .requestReview "p" "bob", .approve "p" "bob" "" (some decidedAt), .authorizeMerge "p" "alice",
    .merge "p" (.ok "done")]

theorem merge_gate_carol :
    Sound id ((deliveryRun "carol").foldl (step id .memory) .initial).log ∧
      ∀ store saved state, save .memory store state = .ok saved →
        load .memory saved state.project = .ok (some state) := by
  apply merge_gate id .memory (deliveryRun "carol")
  refine ⟨trivial, trivial, trivial, trivial, trivial, trivial, trivial, trivial, ?_, ?_, trivial⟩
  · intro state implementer hget himplementer hsame
    have hloaded : (get .memory (((deliveryRun "carol").take 8).foldl
        (step id .memory) .initial).store "p").map (·.implementer) = .ok (some "carol") := rfl
    change get .memory (((deliveryRun "carol").take 8).foldl
        (step id .memory) .initial).store "p" = .ok state at hget
    rw [hget] at hloaded
    have hcarol : implementer = "carol" := by
      have hsome : state.implementer = some "carol" := Except.ok.inj hloaded
      rw [himplementer] at hsome
      exact Option.some_inj.mp hsome
    subst hcarol
    exact absurd hsame (by decide)
  · change ∀ call ∈ milestone "p" (((deliveryRun "carol").take 9).foldl
        (step id .memory) .initial).log, call.mergeRaised = false
    decide

/-- An implementer recorded as `"alice "` authorizes the merge of its own work. -/
theorem not_merge_gate :
    ¬∀ (casefold : String → String) (kind : StoreKind) (calls : List Call),
      Sound casefold (calls.foldl (step casefold kind) .initial).log ∧
        ∀ store saved state, save kind store state = .ok saved →
          load kind saved state.project = .ok (some state) := by
  intro h
  have hsound := (h id .memory (deliveryRun "alice ")).1
  have hlog : ((deliveryRun "alice ").foldl (step id .memory) .initial).log =
      (deliveryRun "alice ").reverse := rfl
  rw [hlog] at hsound
  obtain ⟨commit, providerId, implementer, reviewer, human, -, -, hparties, -, -, -,
    hauthorized, hother, -⟩ := hsound "p" (.ok "done") _ (List.suffix_refl _)
  cases hparties
  cases hauthorized
  exact hother (by decide)

end ProductDelivery
end Ascos
