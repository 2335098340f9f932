import Ascos.ProductDelivery.Model

/-!
# The delivery pipeline

The operations of `runtime/product_delivery/service.py` and the review policy of
`review.py`.  Every operation loads the state of a project, changes it and saves it;
what a provider answers and what the clock shows are part of the call.
-/

namespace Ascos
namespace ProductDelivery

open Ascos.Library
open Ascos.Persistence (Json)
open Ascos.Runtime (isBlank isSpace)

/-! ## Identities and texts -/

/-- `value.strip()`. -/
def stripped (value : String) : String :=
  strip isSpace value

/-- `value.strip().casefold()`. -/
def identity (casefold : String → String) (value : String) : String :=
  casefold (stripped value)

def sameIdentity (casefold : String → String) (first : String) : Option String → Bool
  | none => false
  | some second => identity casefold first = identity casefold second

def requireIdentity (value label : String) : Except Error Unit :=
  if isBlank value = true then throw (.review (label ++ " identity is required")) else pure ()

def requireText (value label : String) : Except Error Unit :=
  if isBlank value = true then throw (.delivery (label ++ " is required")) else pure ()

def requireStage (state : ProductDeliveryState) (expected : HumanReviewStage) :
    Except Error Unit :=
  if state.reviewState ≠ expected then
    throw (.delivery ("Delivery must be " ++ expected.value ++ " for this operation"))
  else pure ()

/-! ## The review policy -/

/-- `HumanReviewService.request_review`. -/
def reviewRequested (casefold : String → String) (reviewer : String)
    (state : ProductDeliveryState) : Except Error ProductDeliveryState := do
  if state.reviewState ≠ .implemented then
    throw (.review "Review requires an implemented milestone")
  if state.verificationStatus ≠ "PASSED" ∨ state.verifiedCommit ≠ state.latestCommit then
    throw (.review "Review requires successful verification")
  requireIdentity reviewer "Reviewer"
  if sameIdentity casefold reviewer state.implementer = true ∨
      sameIdentity casefold reviewer state.currentProvider = true then
    throw (.review "Implementer or provider cannot review their own work")
  pure { state with currentReviewer := some reviewer, reviewState := .waitingForHumanReview }

/-- A recorded reviewer, which is not the empty text, is another person. -/
def otherReviewer (casefold : String → String) (reviewer : String) : Option String → Bool
  | none => false
  | some assigned => assigned ≠ "" && !sameIdentity casefold reviewer (some assigned)

/-- `HumanReviewService._record`; the clock shows a time without a zone when there is none. -/
def decisionRecorded (casefold : String → String) (reviewer : String)
    (decision : ReviewDecisionType) (comments : String) (now : Option Moment)
    (state : ProductDeliveryState) : Except Error ProductDeliveryState := do
  if state.reviewState ≠ .waitingForHumanReview then
    throw (.review "A review must be requested before a decision")
  requireIdentity reviewer "Reviewer"
  if sameIdentity casefold reviewer state.implementer = true ∨
      sameIdentity casefold reviewer state.currentProvider = true then
    throw (.review "Self-approval is not permitted")
  if otherReviewer casefold reviewer state.currentReviewer = true then
    throw (.review "Decision must be made by the assigned reviewer")
  match state.latestCommit with
  | none => throw (.review "Review decision requires an implementation commit")
  | some commit =>
    match now with
    | none => throw (.review "Review timestamp must be timezone-aware")
    | some moment =>
        let item : ReviewDecision := ⟨reviewer, decision, moment, stripped comments, commit⟩
        pure
          { state with
            reviewHistory := state.reviewHistory ++ [item]
            currentReviewer := some reviewer
            reviewState := if decision = .approved then .approved else .changesRequested }

/-! ## What the operations do to a state -/

/-- `capture_knowledge`. -/
def knowledgeCaptured (snapshot : String) (state : ProductDeliveryState) :
    Except Error ProductDeliveryState := do
  requireStage state .planned
  requireText snapshot "Knowledge snapshot"
  pure
    { state with
      knowledgeSnapshot := some snapshot
      pendingActions := ["create implementation plan"]
      progress := 10 }

/-- `record_plan`. -/
def planRecorded (plan : String) (state : ProductDeliveryState) :
    Except Error ProductDeliveryState := do
  requireStage state .planned
  if state.knowledgeSnapshot = none then
    throw (.delivery "Knowledge snapshot is required before planning")
  requireText plan "Implementation plan"
  pure
    { state with
      implementationPlan := some plan
      pendingActions := ["dispatch provider"]
      progress := 20 }

/-- `dispatch`, up to the provider's part. -/
def dispatched (providerId implementer : String) (state : ProductDeliveryState) :
    Except Error ProductDeliveryState := do
  if state.implementationPlan = none then
    throw (.delivery "Implementation plan is required before dispatch")
  if state.executionMode.permitsImplementation = false then
    throw (.delivery "Planning-only mode cannot dispatch implementation")
  if state.reviewState ≠ .planned then
    throw (.delivery "Milestone is not ready for provider dispatch")
  requireText implementer "Implementer"
  pure
    { state with
      reviewState := .implementing
      currentProvider := some providerId
      implementer := some implementer
      pendingActions := ["complete implementation"]
      progress := 35 }

/-- `record_implementation`. -/
def implementationRecorded (commit pullRequest : String) (state : ProductDeliveryState) :
    Except Error ProductDeliveryState := do
  if state.reviewState ∉ [.implementing, .implemented, .changesRequested] then
    throw (.delivery "Provider dispatch or requested changes are required")
  requireText commit "Commit"
  requireText pullRequest "Pull request"
  pure
    { state with
      latestCommit := some commit
      currentPr := some pullRequest
      reviewState := .implemented
      verificationStatus := "NOT_RUN"
      verifiedCommit := none
      mergeAuthorizedBy := none
      mergeAuthorizedCommit := none
      pendingActions := ["run verification"]
      progress := 55 }

/-- `record_verification`. -/
def verificationRecorded (passed : Bool) (state : ProductDeliveryState) :
    Except Error ProductDeliveryState := do
  if state.reviewState ≠ .implemented then
    throw (.delivery "Implementation is required before verification")
  pure
    { state with
      verificationStatus := if passed then "PASSED" else "FAILED"
      verifiedCommit := if passed then state.latestCommit else none
      pendingActions := if passed then ["request human review"] else ["fix verification"]
      progress := if passed then 70 else 55 }

def requestReview (casefold : String → String) (reviewer : String)
    (state : ProductDeliveryState) : Except Error ProductDeliveryState := do
  if state.executionMode.requiresHumanReview = false then
    throw (.delivery "Execution mode does not include human review")
  let state ← reviewRequested casefold reviewer state
  pure { state with pendingActions := ["human review"], progress := 80 }

def approve (casefold : String → String) (reviewer comments : String) (now : Option Moment)
    (state : ProductDeliveryState) : Except Error ProductDeliveryState := do
  let state ← decisionRecorded casefold reviewer .approved comments now state
  pure { state with pendingActions := ["authorize merge"], progress := 90 }

def requestChanges (casefold : String → String) (reviewer comments : String)
    (now : Option Moment) (state : ProductDeliveryState) :
    Except Error ProductDeliveryState := do
  if isBlank comments = true then
    throw (.review "Change requests require review comments")
  let state ← decisionRecorded casefold reviewer .changesRequested comments now state
  pure { state with pendingActions := ["implement requested changes"], progress := 55 }

/-- The comparison of `authorize_merge`: the recorded implementer keeps its blanks. -/
def selfAuthorized (casefold : String → String) (human : String) : Option String → Bool
  | none => false
  | some implementer => implementer ≠ "" && identity casefold human = casefold implementer

/-- `authorize_merge`. -/
def mergeAuthorized (casefold : String → String) (human : String)
    (state : ProductDeliveryState) : Except Error ProductDeliveryState := do
  if state.reviewState ≠ .approved then
    throw (.delivery "Human approval is required before merge authorization")
  match state.reviewHistory.getLast? with
  | none => throw (.delivery "Approved review evidence is required")
  | some approval =>
    if some approval.reviewedCommit ≠ state.latestCommit then
      throw (.delivery "Review evidence is stale for the current commit")
    if state.verifiedCommit ≠ state.latestCommit then
      throw (.delivery "Verification evidence is stale for the current commit")
    requireText human "Merge authorizer"
    if selfAuthorized casefold human state.implementer = true then
      throw (.review "Self-authorization is not permitted")
    pure
      { state with
        mergeAuthorizedBy := some human
        mergeAuthorizedCommit := state.latestCommit
        pendingActions := ["merge pull request"]
        progress := 95 }

/-- The checks of `merge`, which end in what the provider is asked to do. -/
def mergeRequest (state : ProductDeliveryState) : Except Error (String × String) := do
  if state.reviewState ≠ .approved then
    throw (.delivery "Approved delivery is required before merge")
  match state.mergeAuthorizedBy, state.currentPr with
  | some human, some pullRequest =>
    if state.mergeAuthorizedCommit ≠ state.latestCommit then
      throw (.delivery "Merge authorization is stale for the current commit")
    pure (pullRequest, human)
  | _, _ => throw (.delivery "Explicit merge authorization is required")

/-- `merge`, after the provider's part. -/
def merged (state : ProductDeliveryState) : ProductDeliveryState :=
  { state with
    reviewState := .merged
    pendingActions := ["create next milestone"]
    progress := 100 }

/-- `create_next_milestone`. -/
def nextMilestone (milestone branch : String) (previous : ProductDeliveryState) :
    Except Error ProductDeliveryState := do
  if previous.reviewState ≠ .merged then
    throw (.delivery "Current milestone must be merged first")
  requireText milestone "Milestone"
  requireText branch "Branch"
  pure
    { project := previous.project, currentMilestone := milestone, currentBranch := branch,
      executionMode := previous.executionMode }

/-- `cancel`. -/
def cancelled (state : ProductDeliveryState) : Except Error ProductDeliveryState := do
  if state.reviewState ∈ [.merged, .cancelled] then
    throw (.delivery "Terminal delivery cannot be cancelled")
  pure { state with reviewState := .cancelled, pendingActions := [] }

/-! ## Calls -/

/-- A call of the pipeline, with what the provider answers and what the clock shows. -/
inductive Call where
  | planMilestone (project milestone branch : String) (mode : ProviderExecutionMode)
  | captureKnowledge (project snapshot : String)
  | recordPlan (project plan : String)
  | dispatch (project providerId implementer : String) (reply : Except Error String)
  | recordImplementation (project commit pullRequest : String)
  | recordVerification (project : String) (passed : Bool)
  | requestReview (project reviewer : String)
  | approve (project reviewer comments : String) (now : Option Moment)
  | requestChanges (project reviewer comments : String) (now : Option Moment)
  | authorizeMerge (project human : String)
  | merge (project : String) (reply : Except Error String)
  | createNextMilestone (project milestone branch : String)
  | cancel (project : String)

def Call.project : Call → String
  | .planMilestone project .. | .captureKnowledge project _ | .recordPlan project _
  | .dispatch project .. | .recordImplementation project .. | .recordVerification project _
  | .requestReview project _ | .approve project .. | .requestChanges project ..
  | .authorizeMerge project _ | .merge project _ | .createNextMilestone project ..
  | .cancel project => project

/-- What a store keeps, and the calls that took effect, the latest one first: they saved a
state or asked a provider to merge. -/
structure World where
  store : Table String Json
  log : List Call

/-- Nothing is stored and nothing has happened. -/
def World.initial : World :=
  ⟨[], []⟩

def get (kind : StoreKind) (store : Table String Json) (project : String) :
    Except Error ProductDeliveryState := do
  match ← load kind store project with
  | none => throw (.delivery ("Unknown project: " ++ project))
  | some state => pure state

/-- The state of a new project. -/
def planned (kind : StoreKind) (store : Table String Json) (project milestone branch : String)
    (mode : ProviderExecutionMode) : Except Error ProductDeliveryState := do
  if mode = .autonomousImplementation then
    throw (.delivery "Autonomous implementation is disabled")
  requireText project "Project"
  requireText milestone "Milestone"
  requireText branch "Branch"
  match ← load kind store project with
  | some _ => throw (.delivery "Project already has delivery state")
  | none =>
    pure
      { project, currentMilestone := milestone, currentBranch := branch, executionMode := mode }

/-- The state that a call saves; a merge saves it only after the provider's part. -/
def Call.next (casefold : String → String) (kind : StoreKind) (store : Table String Json) :
    Call → Except Error ProductDeliveryState
  | .planMilestone project milestone branch mode =>
    planned kind store project milestone branch mode
  | .captureKnowledge project snapshot => get kind store project >>= knowledgeCaptured snapshot
  | .recordPlan project plan => get kind store project >>= planRecorded plan
  | .dispatch project providerId implementer _ =>
    get kind store project >>= dispatched providerId implementer
  | .recordImplementation project commit pullRequest =>
    get kind store project >>= implementationRecorded commit pullRequest
  | .recordVerification project passed => get kind store project >>= verificationRecorded passed
  | .requestReview project reviewer =>
    get kind store project >>= ProductDelivery.requestReview casefold reviewer
  | .approve project reviewer comments now =>
    get kind store project >>= ProductDelivery.approve casefold reviewer comments now
  | .requestChanges project reviewer comments now =>
    get kind store project >>= ProductDelivery.requestChanges casefold reviewer comments now
  | .authorizeMerge project human => get kind store project >>= mergeAuthorized casefold human
  | .merge project _ => do
    let state ← get kind store project
    let _ ← mergeRequest state
    pure (merged state)
  | .createNextMilestone project milestone branch =>
    get kind store project >>= nextMilestone milestone branch
  | .cancel project => get kind store project >>= cancelled

/-- What the caller gets: a state, or the text of a provider. -/
inductive Answer where
  | state (value : ProductDeliveryState)
  | text (value : String)

/-- The world after a call that took effect. -/
def World.noted (world : World) (call : Call) (store : Table String Json) : World :=
  ⟨store, call :: world.log⟩

/-- A call of the pipeline.  The merge provider is asked before the state is saved, so
nothing is saved when it raises; the implementation provider is asked after that. -/
def Call.perform (casefold : String → String) (kind : StoreKind) (world : World) (call : Call) :
    Except Error Answer × World :=
  match call.next casefold kind world.store with
  | .error e => (.error e, world)
  | .ok state =>
    match call with
    | .merge _ (.error e) => (.error e, world.noted call world.store)
    | .merge _ (.ok text) =>
        match save kind world.store state with
        | .error e => (.error e, world.noted call world.store)
        | .ok store => (.ok (.text text), world.noted call store)
    | .dispatch _ _ _ reply =>
        match save kind world.store state with
        | .error e => (.error e, world)
        | .ok store => (reply.map .text, world.noted call store)
    | _ =>
        match save kind world.store state with
        | .error e => (.error e, world)
        | .ok store => (.ok (.state state), world.noted call store)

def step (casefold : String → String) (kind : StoreKind) (world : World) (call : Call) : World :=
  (call.perform casefold kind world).2

def Call.mergeRaised : Call → Bool
  | .merge _ (.error _) => true
  | _ => false

def Call.isMerge : Call → Bool
  | .merge _ _ => true
  | _ => false

/-- What one call does.  A merge whose state cannot be saved is like one that raised. -/
theorem step_cases (casefold : String → String) (kind : StoreKind) (world : World)
    (call : Call) :
    step casefold kind world call = world ∨
      ∃ state, call.next casefold kind world.store = .ok state ∧
        ((call.isMerge = true ∧
            (call.mergeRaised = true ∨ ∃ e, save kind world.store state = .error e) ∧
            step casefold kind world call = world.noted call world.store) ∨
          (call.mergeRaised = false ∧ ∃ store, save kind world.store state = .ok store ∧
            step casefold kind world call = world.noted call store)) := by
  unfold step Call.perform
  cases hnext : call.next casefold kind world.store with
  | error e => exact .inl rfl
  | ok state =>
    cases hsave : save kind world.store state with
    | error e =>
        cases call with
        | merge project reply =>
            refine .inr ⟨state, rfl, .inl ⟨rfl, .inr ⟨e, hsave⟩, ?_⟩⟩
            cases reply with
            | error e' => rfl
            | ok text => simp only [hsave]
        | _ => exact .inl (by simp only [hsave])
    | ok store =>
        cases call with
        | merge project reply =>
            cases reply with
            | error e' => exact .inr ⟨state, rfl, .inl ⟨rfl, .inl rfl, rfl⟩⟩
            | ok text =>
                exact .inr ⟨state, rfl, .inr ⟨rfl, store, hsave, by simp only [hsave]⟩⟩
        | _ => exact .inr ⟨state, rfl, .inr ⟨rfl, store, hsave, by simp only [hsave]⟩⟩

end ProductDelivery
end Ascos
