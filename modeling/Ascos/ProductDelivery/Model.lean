import Ascos.Library.Checks
import Ascos.Library.Table
import Ascos.Library.Texts
import Ascos.Persistence.Serializer
import Ascos.Runtime.Model

/-!
# Human-reviewed product delivery

The records of `runtime/product_delivery/models.py` and the stores of
`persistence.py`.  A stored state is a JSON value; the file store writes it with its
keys sorted.  An instant is given by the fields of a `datetime` in UTC.
-/

namespace Ascos
namespace ProductDelivery

open Ascos.Library
open Ascos.Persistence (Json sortMembers)
open Ascos.Runtime (isBlank isSpace)

/-! ## Instants -/

def daysInMonth (year month : Nat) : Nat :=
  if month = 2 then
    if year % 4 = 0 ∧ (year % 100 ≠ 0 ∨ year % 400 = 0) then 29 else 28
  else if month = 4 ∨ month = 6 ∨ month = 9 ∨ month = 11 then 30
  else 31

/-- The fields of a `datetime` in UTC. -/
structure MomentFields where
  year : Nat
  month : Nat
  day : Nat
  hour : Nat
  minute : Nat
  second : Nat
  microsecond : Nat
deriving DecidableEq

/-- The checks of the constructor. -/
def MomentFields.Valid (fields : MomentFields) : Prop :=
  (1 ≤ fields.year ∧ fields.year ≤ 9999) ∧ (1 ≤ fields.month ∧ fields.month ≤ 12) ∧
    (1 ≤ fields.day ∧ fields.day ≤ daysInMonth fields.year fields.month) ∧
    fields.hour ≤ 23 ∧ fields.minute ≤ 59 ∧ fields.second ≤ 59 ∧ fields.microsecond ≤ 999999

instance (fields : MomentFields) : Decidable fields.Valid := by
  unfold MomentFields.Valid
  infer_instance

/-- A `datetime` in UTC. -/
structure Moment extends MomentFields where
  valid : toMomentFields.Valid
deriving DecidableEq

/-- `datetime.isoformat` in UTC; microseconds are written when there are any. -/
def Moment.isoformat (moment : Moment) : String :=
  String.ofList
    (digits 4 moment.year ++ '-' :: (digits 2 moment.month ++ '-' :: (digits 2 moment.day ++
      'T' :: (digits 2 moment.hour ++ ':' :: (digits 2 moment.minute ++ ':' ::
        (digits 2 moment.second ++
          ((if moment.microsecond = 0 then [] else '.' :: digits 6 moment.microsecond) ++
            ['+', '0', '0', ':', '0', '0'])))))))

/-- The microseconds of a text after its seconds. -/
def readMicroseconds (chars : List Char) : Option (Nat × List Char) :=
  match readChar '.' chars with
  | some rest => readDigits 6 rest
  | none => some (0, chars)

/-- `datetime.fromisoformat` on the texts that `Moment.isoformat` writes. -/
def fromisoformat (value : String) : Option Moment := do
  let (year, rest) ← readDigits 4 value.toList
  let rest ← readChar '-' rest
  let (month, rest) ← readDigits 2 rest
  let rest ← readChar '-' rest
  let (day, rest) ← readDigits 2 rest
  let rest ← readChar 'T' rest
  let (hour, rest) ← readDigits 2 rest
  let rest ← readChar ':' rest
  let (minute, rest) ← readDigits 2 rest
  let rest ← readChar ':' rest
  let (second, rest) ← readDigits 2 rest
  let (microsecond, rest) ← readMicroseconds rest
  if rest = ['+', '0', '0', ':', '0', '0'] then
    let fields : MomentFields := ⟨year, month, day, hour, minute, second, microsecond⟩
    if valid : fields.Valid then some ⟨fields, valid⟩ else none
  else none

theorem daysInMonth_le (year month : Nat) : daysInMonth year month ≤ 31 := by
  unfold daysInMonth
  split_ifs <;> decide

theorem readMicroseconds_append {n : Nat} (h : n ≤ 999999) (rest : List Char) :
    readMicroseconds ((if n = 0 then [] else '.' :: digits 6 n) ++ '+' :: rest) =
      some (n, '+' :: rest) := by
  by_cases hn : n = 0
  · subst hn
    simp [readMicroseconds, readChar]
  · have hdigits := readDigits_append 6 n ('+' :: rest) (by omega)
    simp [readMicroseconds, hn, hdigits]

/-- An instant is read back from its text. -/
theorem fromisoformat_isoformat (moment : Moment) :
    fromisoformat moment.isoformat = some moment := by
  obtain ⟨fields, valid⟩ := moment
  have hvalid := valid
  obtain ⟨hyear, hmonth, hday, hhour, hminute, hsecond, hmicrosecond⟩ := valid
  have hdays := daysInMonth_le fields.year fields.month
  have h1 : fields.year < 10 ^ 4 := by omega
  have h2 : fields.month < 10 ^ 2 := by omega
  have h3 : fields.day < 10 ^ 2 := by omega
  have h4 : fields.hour < 10 ^ 2 := by omega
  have h5 : fields.minute < 10 ^ 2 := by omega
  have h6 : fields.second < 10 ^ 2 := by omega
  unfold fromisoformat Moment.isoformat
  simp only [String.toList_ofList, readDigits_append _ _ _ h1, readDigits_append _ _ _ h2,
    readDigits_append _ _ _ h3, readDigits_append _ _ _ h4, readDigits_append _ _ _ h5,
    readDigits_append _ _ _ h6, readChar_cons, readMicroseconds_append hmicrosecond,
    Option.bind_eq_bind, Option.bind_some, if_true]
  rw [dif_pos hvalid]

/-! ## Records -/

inductive HumanReviewStage where
  | planned
  | implementing
  | implemented
  | waitingForHumanReview
  | changesRequested
  | approved
  | merged
  | cancelled
deriving DecidableEq

def HumanReviewStage.value : HumanReviewStage → String
  | .planned => "PLANNED"
  | .implementing => "IMPLEMENTING"
  | .implemented => "IMPLEMENTED"
  | .waitingForHumanReview => "WAITING_FOR_HUMAN_REVIEW"
  | .changesRequested => "CHANGES_REQUESTED"
  | .approved => "APPROVED"
  | .merged => "MERGED"
  | .cancelled => "CANCELLED"

/-- The members of `HumanReviewStage`. -/
def HumanReviewStage.members : List HumanReviewStage :=
  [.planned, .implementing, .implemented, .waitingForHumanReview, .changesRequested, .approved,
    .merged, .cancelled]

inductive ProviderExecutionMode where
  | planningOnly
  | implementationOnly
  | humanReviewedImplementation
  | autonomousImplementation
deriving DecidableEq

def ProviderExecutionMode.value : ProviderExecutionMode → String
  | .planningOnly => "PLANNING_ONLY"
  | .implementationOnly => "IMPLEMENTATION_ONLY"
  | .humanReviewedImplementation => "HUMAN_REVIEWED_IMPLEMENTATION"
  | .autonomousImplementation => "AUTONOMOUS_IMPLEMENTATION"

/-- The members of `ProviderExecutionMode`. -/
def ProviderExecutionMode.members : List ProviderExecutionMode :=
  [.planningOnly, .implementationOnly, .humanReviewedImplementation, .autonomousImplementation]

def ProviderExecutionMode.permitsImplementation (mode : ProviderExecutionMode) : Bool :=
  mode ≠ .planningOnly

def ProviderExecutionMode.requiresHumanReview (mode : ProviderExecutionMode) : Bool :=
  mode = .humanReviewedImplementation

inductive ReviewDecisionType where
  | approved
  | changesRequested
deriving DecidableEq

def ReviewDecisionType.value : ReviewDecisionType → String
  | .approved => "APPROVED"
  | .changesRequested => "CHANGES_REQUESTED"

/-- The members of `ReviewDecisionType`. -/
def ReviewDecisionType.members : List ReviewDecisionType :=
  [.approved, .changesRequested]

structure ReviewDecision where
  reviewer : String
  decision : ReviewDecisionType
  decidedAt : Moment
  comments : String
  reviewedCommit : String
deriving DecidableEq

structure ProductDeliveryState where
  project : String
  currentMilestone : String
  currentBranch : String
  currentPr : Option String := none
  currentProvider : Option String := none
  executionMode : ProviderExecutionMode := .humanReviewedImplementation
  reviewState : HumanReviewStage := .planned
  currentReviewer : Option String := none
  reviewHistory : List ReviewDecision := []
  knowledgeSnapshot : Option String := none
  implementationPlan : Option String := none
  latestCommit : Option String := none
  verificationStatus : String := "NOT_RUN"
  verifiedCommit : Option String := none
  pendingActions : List String := ["capture knowledge"]
  progress : Int := 0
  implementer : Option String := none
  mergeAuthorizedBy : Option String := none
  mergeAuthorizedCommit : Option String := none
  nextMilestone : Option String := none
deriving DecidableEq

/-! ## Errors -/

/-- The classes of the exceptions that the operations raise. -/
inductive ErrorClass where
  | productDeliveryError
  | humanReviewError
  | valueError
  | keyError
  | typeError
  /-- An exception of a provider. -/
  | provider
deriving DecidableEq

/-- A raised exception with its message. -/
structure Error where
  errorClass : ErrorClass
  message : String
deriving DecidableEq

/-- `ProductDeliveryError(message)`. -/
def Error.delivery (message : String) : Error :=
  ⟨.productDeliveryError, message⟩

/-- `HumanReviewError(message)`. -/
def Error.review (message : String) : Error :=
  ⟨.humanReviewError, message⟩

/-! ## Documents -/

def optionalText : Option String → Json
  | none => .null
  | some value => .string value

def decisionMembers (item : ReviewDecision) : List (String × Json) :=
  [("reviewer", .string item.reviewer), ("decision", .string item.decision.value),
    ("decided_at", .string item.decidedAt.isoformat), ("comments", .string item.comments),
    ("reviewed_commit", .string item.reviewedCommit)]

def serializeDecision (item : ReviewDecision) : Json :=
  .object (decisionMembers item)

def documentMembers (state : ProductDeliveryState) (history : List Json) :
    List (String × Json) :=
  [("project", .string state.project), ("current_milestone", .string state.currentMilestone),
    ("current_branch", .string state.currentBranch),
    ("current_pr", optionalText state.currentPr),
    ("current_provider", optionalText state.currentProvider),
    ("execution_mode", .string state.executionMode.value),
    ("review_state", .string state.reviewState.value),
    ("current_reviewer", optionalText state.currentReviewer), ("review_history", .array history),
    ("knowledge_snapshot", optionalText state.knowledgeSnapshot),
    ("implementation_plan", optionalText state.implementationPlan),
    ("latest_commit", optionalText state.latestCommit),
    ("verification_status", .string state.verificationStatus),
    ("verified_commit", optionalText state.verifiedCommit),
    ("pending_actions", .array (state.pendingActions.map .string)),
    ("progress", .int state.progress), ("implementer", optionalText state.implementer),
    ("merge_authorized_by", optionalText state.mergeAuthorizedBy),
    ("merge_authorized_commit", optionalText state.mergeAuthorizedCommit),
    ("next_milestone", optionalText state.nextMilestone)]

def serialize (state : ProductDeliveryState) : Json :=
  .object (documentMembers state (state.reviewHistory.map serializeDecision))

/-- The names of the fields of `ProductDeliveryState`. -/
def fieldNames : List String :=
  ["project", "current_milestone", "current_branch", "current_pr", "current_provider",
    "execution_mode", "review_state", "current_reviewer", "review_history",
    "knowledge_snapshot", "implementation_plan", "latest_commit", "verification_status",
    "verified_commit", "pending_actions", "progress", "implementer", "merge_authorized_by",
    "merge_authorized_commit", "next_milestone"]

/-! ## Reading documents -/

/-- `data[key]`. -/
def member (members : List (String × Json)) (key : String) : Except Error Json :=
  match members.lookup key with
  | some value => pure value
  | none => throw ⟨.keyError, key⟩

/-- `data.get(key, default)`. -/
def memberOr (members : List (String × Json)) (key : String) (default : Json) : Json :=
  (members.lookup key).getD default

def readText : Json → Except Error String
  | .string value => pure value
  | _ => throw ⟨.typeError, "text"⟩

def readOptionalText : Json → Except Error (Option String)
  | .null => pure none
  | .string value => pure (some value)
  | _ => throw ⟨.typeError, "text"⟩

def readArray : Json → Except Error (List Json)
  | .array items => pure items
  | _ => throw ⟨.typeError, "array"⟩

/-- A whole number. -/
def readInt : Json → Except Error Int
  | .int value => pure value
  | _ => throw ⟨.typeError, "number"⟩

def readMember {α : Type} (value : α → String) (members : List α) (text : String) :
    Except Error α :=
  match members.find? (value · = text) with
  | some found => pure found
  | none => throw ⟨.valueError, text ++ " is not a valid member"⟩

/-- The review decision of a document; one without a commit is for the latest one. -/
def deserializeDecision (latest : Json) : Json → Except Error ReviewDecision
  | .object members => do
    let reviewer ← readText (← member members "reviewer")
    let decision ← readText (← member members "decision")
    let decision ← readMember ReviewDecisionType.value ReviewDecisionType.members decision
    let decidedAt ← readText (← member members "decided_at")
    let decidedAt ← match fromisoformat decidedAt with
      | some moment => pure moment
      | none => throw ⟨.valueError, "Invalid isoformat string"⟩
    let comments ← readText (← member members "comments")
    let reviewedCommit ← match memberOr members "reviewed_commit" latest with
      | .null => pure "None"
      | value => readText value
    pure ⟨reviewer, decision, decidedAt, comments, reviewedCommit⟩
  | _ => throw ⟨.typeError, "object"⟩

def deserialize : Json → Except Error ProductDeliveryState
  | .object members => do
    let executionMode ← readText (← member members "execution_mode")
    let executionMode ←
      readMember ProviderExecutionMode.value ProviderExecutionMode.members executionMode
    let reviewState ← readText (← member members "review_state")
    let reviewState ← readMember HumanReviewStage.value HumanReviewStage.members reviewState
    let history ← readArray (memberOr members "review_history" (.array []))
    let reviewHistory ←
      history.mapM (deserializeDecision (memberOr members "latest_commit" (.string "")))
    let pendingActions ← readArray (memberOr members "pending_actions" (.array []))
    let pendingActions ← pendingActions.mapM readText
    if ¬∀ entry ∈ members, entry.1 ∈ fieldNames then
      throw ⟨.typeError, "unexpected keyword argument"⟩
    let project ← readText (← member members "project")
    let currentMilestone ← readText (← member members "current_milestone")
    let currentBranch ← readText (← member members "current_branch")
    let currentPr ← readOptionalText (memberOr members "current_pr" .null)
    let currentProvider ← readOptionalText (memberOr members "current_provider" .null)
    let currentReviewer ← readOptionalText (memberOr members "current_reviewer" .null)
    let knowledgeSnapshot ← readOptionalText (memberOr members "knowledge_snapshot" .null)
    let implementationPlan ← readOptionalText (memberOr members "implementation_plan" .null)
    let latestCommit ← readOptionalText (memberOr members "latest_commit" .null)
    let verificationStatus ←
      readText (memberOr members "verification_status" (.string "NOT_RUN"))
    let verifiedCommit ← readOptionalText (memberOr members "verified_commit" .null)
    let progress ← readInt (memberOr members "progress" (.int 0))
    let implementer ← readOptionalText (memberOr members "implementer" .null)
    let mergeAuthorizedBy ← readOptionalText (memberOr members "merge_authorized_by" .null)
    let mergeAuthorizedCommit ←
      readOptionalText (memberOr members "merge_authorized_commit" .null)
    let nextMilestone ← readOptionalText (memberOr members "next_milestone" .null)
    pure
      { project, currentMilestone, currentBranch, currentPr, currentProvider, executionMode,
        reviewState, currentReviewer, reviewHistory, knowledgeSnapshot, implementationPlan,
        latestCommit, verificationStatus, verifiedCommit, pendingActions, progress,
        implementer, mergeAuthorizedBy, mergeAuthorizedCommit, nextMilestone }
  | _ => throw ⟨.typeError, "object"⟩

/-! ## The round trip -/

mutual

/-- `json.dumps` with `sort_keys=True`, read back. -/
def sortKeys : Json → Json
  | .array items => .array (sortKeysList items)
  | .object members => .object (sortMembers (sortKeysMembers members))
  | value => value

def sortKeysList : List Json → List Json
  | [] => []
  | item :: items => sortKeys item :: sortKeysList items

def sortKeysMembers : List (String × Json) → List (String × Json)
  | [] => []
  | (key, item) :: members => (key, sortKeys item) :: sortKeysMembers members

end

theorem lookup_cons_of_ne {β : Type} {key other : String} {value : β}
    {rest : List (String × β)} (h : key ≠ other) :
    ((other, value) :: rest).lookup key = rest.lookup key := by
  rw [List.lookup_cons, beq_eq_false_iff_ne.mpr h]

/-- In members with different keys the order does not matter. -/
theorem lookup_of_perm {β : Type} {members others : List (String × β)} (h : members.Perm others)
    (hkeys : (members.map (·.1)).Nodup) (key : String) :
    others.lookup key = members.lookup key := by
  induction h with
  | nil => rfl
  | cons entry _ ih =>
    rw [List.map_cons, List.nodup_cons] at hkeys
    rw [List.lookup_cons, List.lookup_cons, ih hkeys.2]
  | swap first second rest =>
    obtain ⟨firstKey, firstValue⟩ := first
    obtain ⟨secondKey, secondValue⟩ := second
    have hne : firstKey ≠ secondKey := by
      rintro rfl
      simp at hkeys
    by_cases hfirst : key = firstKey
    · subst hfirst
      rw [List.lookup_cons_self, lookup_cons_of_ne hne, List.lookup_cons_self]
    · by_cases hsecond : key = secondKey
      · subst hsecond
        rw [List.lookup_cons_self, lookup_cons_of_ne hfirst, List.lookup_cons_self]
      · simp only [lookup_cons_of_ne hfirst, lookup_cons_of_ne hsecond]
  | trans h₁ _ ih₁ ih₂ => rw [ih₂ ((h₁.map _).nodup_iff.mp hkeys), ih₁ hkeys]

theorem lookup_sortMembers {members : List (String × Json)}
    (hkeys : (members.map (·.1)).Nodup) (key : String) :
    (sortMembers members).lookup key = members.lookup key :=
  lookup_of_perm (List.perm_insertionSort _ members).symm hkeys key

@[simp]
theorem sortKeys_string (value : String) : sortKeys (.string value) = .string value := by
  simp [sortKeys]

@[simp]
theorem sortKeys_optionalText (value : Option String) :
    sortKeys (optionalText value) = optionalText value := by
  cases value <;> simp [optionalText, sortKeys]

theorem sortKeysList_map {α : Type} (f : α → Json) (items : List α) :
    sortKeysList (items.map f) = items.map fun item => sortKeys (f item) := by
  induction items with
  | nil => simp [sortKeysList]
  | cons item items ih => simp [sortKeysList, ih]

@[simp]
theorem readOptionalText_optionalText (value : Option String) :
    readOptionalText (optionalText value) = .ok value := by
  cases value <;> rfl

@[simp]
theorem readMember_stage (stage : HumanReviewStage) :
    readMember HumanReviewStage.value HumanReviewStage.members stage.value = .ok stage := by
  cases stage <;> rfl

@[simp]
theorem readMember_mode (mode : ProviderExecutionMode) :
    readMember ProviderExecutionMode.value ProviderExecutionMode.members mode.value =
      .ok mode := by
  cases mode <;> rfl

@[simp]
theorem readMember_decision (decision : ReviewDecisionType) :
    readMember ReviewDecisionType.value ReviewDecisionType.members decision.value =
      .ok decision := by
  cases decision <;> rfl

theorem ok_bind {ε α β : Type} (a : α) (f : α → Except ε β) : (Except.ok a >>= f) = f a :=
  rfl

theorem readText_string (value : String) : readText (.string value) = .ok value :=
  rfl

theorem readArray_array (items : List Json) : readArray (.array items) = .ok items :=
  rfl

theorem readInt_int (value : Int) : readInt (.int value) = .ok value :=
  rfl

theorem mapM_readText (values : List String) :
    (values.map Json.string).mapM readText = .ok values := by
  induction values with
  | nil => rfl
  | cons value values ih => rw [List.map_cons, List.mapM_cons, ih]; rfl

theorem member_of_lookup {members : List (String × Json)} {key : String} {value : Json}
    (h : members.lookup key = some value) : member members key = .ok value := by
  unfold member
  rw [h]
  rfl

theorem memberOr_of_lookup {members : List (String × Json)} {key : String} {value default : Json}
    (h : members.lookup key = some value) : memberOr members key default = value := by
  unfold memberOr
  rw [h]
  rfl

theorem deserializeDecision_of_lookup (latest : Json) (item : ReviewDecision)
    {members : List (String × Json)}
    (h : ∀ key, members.lookup key = (decisionMembers item).lookup key) :
    deserializeDecision latest (.object members) = .ok item := by
  have hreviewer : members.lookup "reviewer" = some (.string item.reviewer) := h _
  have hdecision : members.lookup "decision" = some (.string item.decision.value) := h _
  have hdecidedAt : members.lookup "decided_at" = some (.string item.decidedAt.isoformat) := h _
  have hcomments : members.lookup "comments" = some (.string item.comments) := h _
  have hcommit : members.lookup "reviewed_commit" = some (.string item.reviewedCommit) := h _
  unfold deserializeDecision
  simp only [member_of_lookup hreviewer, member_of_lookup hdecision, member_of_lookup hdecidedAt,
    member_of_lookup hcomments, memberOr_of_lookup hcommit, readText_string, ok_bind,
    readMember_decision, fromisoformat_isoformat]
  rfl

theorem deserialize_of_lookup (state : ProductDeliveryState) {history : List Json}
    {members : List (String × Json)}
    (hhistory : ∀ latest, history.mapM (deserializeDecision latest) = .ok state.reviewHistory)
    (hkeys : ∀ entry ∈ members, entry.1 ∈ fieldNames)
    (h : ∀ key, members.lookup key = (documentMembers state history).lookup key) :
    deserialize (.object members) = .ok state := by
  have h1 : members.lookup "project" = some (.string state.project) := h _
  have h2 : members.lookup "current_milestone" = some (.string state.currentMilestone) := h _
  have h3 : members.lookup "current_branch" = some (.string state.currentBranch) := h _
  have h4 : members.lookup "current_pr" = some (optionalText state.currentPr) := h _
  have h5 : members.lookup "current_provider" = some (optionalText state.currentProvider) := h _
  have h6 : members.lookup "execution_mode" = some (.string state.executionMode.value) := h _
  have h7 : members.lookup "review_state" = some (.string state.reviewState.value) := h _
  have h8 : members.lookup "current_reviewer" = some (optionalText state.currentReviewer) := h _
  have h9 : members.lookup "review_history" = some (.array history) := h _
  have h10 : members.lookup "knowledge_snapshot" =
    some (optionalText state.knowledgeSnapshot) := h _
  have h11 : members.lookup "implementation_plan" =
    some (optionalText state.implementationPlan) := h _
  have h12 : members.lookup "latest_commit" = some (optionalText state.latestCommit) := h _
  have h13 : members.lookup "verification_status" =
    some (.string state.verificationStatus) := h _
  have h14 : members.lookup "verified_commit" = some (optionalText state.verifiedCommit) := h _
  have h15 : members.lookup "pending_actions" =
    some (.array (state.pendingActions.map .string)) := h _
  have h16 : members.lookup "progress" = some (.int state.progress) := h _
  have h17 : members.lookup "implementer" = some (optionalText state.implementer) := h _
  have h18 : members.lookup "merge_authorized_by" =
    some (optionalText state.mergeAuthorizedBy) := h _
  have h19 : members.lookup "merge_authorized_commit" =
    some (optionalText state.mergeAuthorizedCommit) := h _
  have h20 : members.lookup "next_milestone" = some (optionalText state.nextMilestone) := h _
  have hactions : (state.pendingActions.map Json.string).mapM readText =
      (.ok state.pendingActions : Except Error _) := mapM_readText _
  unfold deserialize
  simp only [member_of_lookup h6, member_of_lookup h7, memberOr_of_lookup h9,
    memberOr_of_lookup h15, member_of_lookup h1, member_of_lookup h2, member_of_lookup h3,
    memberOr_of_lookup h4, memberOr_of_lookup h5, memberOr_of_lookup h8, memberOr_of_lookup h10,
    memberOr_of_lookup h11, memberOr_of_lookup h13, memberOr_of_lookup h14,
    memberOr_of_lookup h16, memberOr_of_lookup h17, memberOr_of_lookup h18,
    memberOr_of_lookup h19, memberOr_of_lookup h20, readText_string, readArray_array,
    readInt_int, readOptionalText_optionalText, readMember_mode, readMember_stage, ok_bind,
    hhistory, hactions]
  rw [if_neg (fun hnot => hnot hkeys)]
  simp only [memberOr_of_lookup h12, readOptionalText_optionalText, ok_bind]
  rfl

/-! ## Stores -/

inductive StoreKind where
  | memory
  | json
deriving DecidableEq

def document : StoreKind → ProductDeliveryState → Json
  | .memory, state => serialize state
  | .json, state => sortKeys (serialize state)

/-- `JsonProductStateStore._target` accepts the project. -/
def isSafe (project : String) : Bool :=
  decide (project ≠ "" ∧ project ≠ "." ∧ project ≠ "..") && !project.toList.contains '/'

/-- `_target` of a store. -/
def target (kind : StoreKind) (project : String) : Except Error Unit :=
  if kind = .json ∧ isSafe project = false then
    throw ⟨.valueError, "Project must be a non-empty filesystem-safe identifier"⟩
  else pure ()

def load (kind : StoreKind) (store : Table String Json) (project : String) :
    Except Error (Option ProductDeliveryState) := do
  target kind project
  match store.load project with
  | none => pure none
  | some value =>
    let state ← deserialize value
    pure (some state)

/-- `save`; no file name has a zero character. -/
def save (kind : StoreKind) (store : Table String Json) (state : ProductDeliveryState) :
    Except Error (Table String Json) := do
  target kind state.project
  if kind = .json ∧ state.project.toList.contains (Char.ofNat 0) = true then
    throw ⟨.valueError, "embedded null byte"⟩
  pure (store.save state.project (document kind state))

theorem deserializeDecision_serializeDecision (latest : Json) (item : ReviewDecision) :
    deserializeDecision latest (serializeDecision item) = .ok item :=
  deserializeDecision_of_lookup latest item fun _ => rfl

theorem deserializeDecision_sortKeys (latest : Json) (item : ReviewDecision) :
    deserializeDecision latest (sortKeys (serializeDecision item)) = .ok item := by
  have hsorted : sortKeysMembers (decisionMembers item) = decisionMembers item := by
    simp [decisionMembers, sortKeysMembers]
  have hdocument : sortKeys (serializeDecision item) =
      .object (sortMembers (decisionMembers item)) := by
    change sortKeys (.object (decisionMembers item)) = _
    rw [sortKeys, hsorted]
  rw [hdocument]
  apply deserializeDecision_of_lookup
  intro key
  apply lookup_sortMembers
  change ["reviewer", "decision", "decided_at", "comments", "reviewed_commit"].Nodup
  decide

theorem mapM_deserializeDecision {latest : Json} {f : ReviewDecision → Json}
    (h : ∀ item, deserializeDecision latest (f item) = .ok item) (items : List ReviewDecision) :
    (items.map f).mapM (deserializeDecision latest) = .ok items := by
  induction items with
  | nil => rfl
  | cons item items ih => rw [List.map_cons, List.mapM_cons, ih, h]; rfl

theorem keys_documentMembers (state : ProductDeliveryState) (history : List Json) :
    (documentMembers state history).map (·.1) = fieldNames :=
  rfl

theorem mem_fieldNames {state : ProductDeliveryState} {history : List Json}
    {entry : String × Json} (h : entry ∈ documentMembers state history) :
    entry.1 ∈ fieldNames := by
  rw [← keys_documentMembers state history]
  exact List.mem_map_of_mem h

theorem sortKeysMembers_documentMembers (state : ProductDeliveryState) (history : List Json) :
    sortKeysMembers (documentMembers state history) =
      documentMembers state (sortKeysList history) := by
  have hactions : sortKeysList (state.pendingActions.map .string) =
      state.pendingActions.map .string := by
    simp [sortKeysList_map]
  simp [documentMembers, sortKeysMembers, sortKeys, hactions]

theorem deserialize_document (kind : StoreKind) (state : ProductDeliveryState) :
    deserialize (document kind state) = .ok state := by
  cases kind with
  | memory =>
    apply deserialize_of_lookup state
    · exact fun latest => mapM_deserializeDecision
        (deserializeDecision_serializeDecision latest) state.reviewHistory
    · exact fun _ hentry => mem_fieldNames hentry
    · exact fun _ => rfl
  | json =>
    have hdocument : sortKeys (serialize state) =
        .object (sortMembers (documentMembers state
          (state.reviewHistory.map fun item => sortKeys (serializeDecision item)))) := by
      unfold serialize
      rw [sortKeys, sortKeysMembers_documentMembers, sortKeysList_map]
    change deserialize (sortKeys (serialize state)) = _
    rw [hdocument]
    apply deserialize_of_lookup state
    · exact fun latest => mapM_deserializeDecision
        (deserializeDecision_sortKeys latest) state.reviewHistory
    · intro entry hentry
      exact mem_fieldNames ((List.perm_insertionSort _ _).mem_iff.mp hentry)
    · intro key
      apply lookup_sortMembers
      rw [keys_documentMembers]
      decide

/-- A state that was saved is loaded as it was. -/
theorem load_of_save {kind : StoreKind} {store saved : Table String Json}
    {state : ProductDeliveryState} (h : save kind store state = .ok saved) :
    load kind saved state.project = .ok (some state) := by
  unfold save at h
  simp only [Checks.guard_bind_ok_iff, Checks.bind_ok_iff, Checks.pure_ok_iff] at h
  obtain ⟨⟨⟩, htarget, -, rfl⟩ := h
  unfold load
  rw [htarget, ok_bind, Table.load_save_self]
  simp only [deserialize_document, ok_bind]
  rfl

end ProductDelivery
end Ascos
