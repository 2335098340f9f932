import Ascos.Acceptance.Validation
import Ascos.Library.Checks
import Ascos.Library.Program

/-!
# The runtime acceptance service

A translation of `runtime/runtime_acceptance/service.py` and of the store in
`persistence.py`.  The store holds the current record of every run; a write replaces it
as a whole.  An operation loads a run, decides from it what to save, saves that, publishes an
event, and returns or raises.  What the event publisher answers is given with the call.
-/

namespace Ascos
namespace Acceptance

open Library Library.Program
open Ascos.Runtime (Timestamp)

variable (D : Digests)

/-! ## The store -/

/-- `RuntimeAcceptanceStore`: the current records, one for each product and run. -/
abbrev Store := List (RuntimeAcceptanceRun D)

/-- A method that works on the store, and may raise. -/
abbrev Operation (α : Type) := Program (Store D) Error α

/-- The condition of `_safe`: the text is the name of one path component. -/
def isSafe (value : String) : Bool :=
  value ≠ "" && value ≠ "." && value ≠ ".." && !value.toList.contains '/'

variable {D}

def RuntimeAcceptanceRun.isOf (run : RuntimeAcceptanceRun D) (productId runId : String) : Bool :=
  decide (run.productId = productId ∧ run.runId = runId)

/-- The current record of a run. -/
def Store.load (store : Store D) (productId runId : String) : Option (RuntimeAcceptanceRun D) :=
  store.find? (·.isOf productId runId)

/-- The store with the current record of a run written. -/
def Store.write (store : Store D) (run : RuntimeAcceptanceRun D) : Store D :=
  if (store.load run.productId run.runId).isSome = true then
    store.map fun item => if item.isOf run.productId run.runId = true then run else item
  else store ++ [run]

/-- The identity and the locked contract of a run: what `save` compares. -/
def RunFields.contract (run : RunFields) : RunFields :=
  { run with
    stage := .planned, updatedAt := 0, evidence := [], journeyResults := [],
    humanAcceptances := [], completedAt := none, evidenceDigest := "", blockers := [] }

/-- The checks of `save` against the record that exists. -/
def saveChecks (existing run : RuntimeAcceptanceRun D) : Except Error Unit := do
  if existing.contract ≠ run.contract then
    throw (.value "Runtime acceptance identity and locked contract are immutable")
  if existing.stage = .completed ∧ existing ≠ run then
    throw (.value "Completed runtime acceptance evidence is immutable")
  if run.updatedAt < existing.updatedAt then
    throw (.value "Runtime acceptance timestamps cannot move backwards")
  if run.stage ≠ existing.stage ∧ run.stage ∉ existing.stage.transitions then
    throw (.value "Runtime acceptance lifecycle cannot be skipped")
  if ¬existing.evidence <+: run.evidence then
    throw (.value "Runtime evidence history is immutable")
  if ¬existing.journeyResults <+: run.journeyResults then
    throw (.value "Journey result history is immutable")
  if ¬existing.humanAcceptances <+: run.humanAcceptances then
    throw (.value "Human acceptance history is immutable")

def raised {α : Type} (value : Except Error α) : Operation D α :=
  match value with
  | .ok value => pure value
  | .error error => throw error

def save (run : RuntimeAcceptanceRun D) : Operation D Unit := do
  if isSafe run.productId = false ∨ isSafe run.runId = false then
    throw (.value "Unsafe runtime acceptance identity")
  else
    match (← get).load run.productId run.runId with
    | some existing =>
        raised (saveChecks existing run)
        if existing = run then pure ()
        else modify fun store : Store D => store.write run
    | none =>
        if run.stage ≠ .planned then
          throw (.value "New runtime acceptance persistence starts PLANNED")
        else modify fun store : Store D => store.write run

/-- `RuntimeAcceptanceStore.find`; the parameter says which names `glob` finds for a
pattern. -/
def find (fnmatch : String → String → Bool) (store : Store D) (runId : String) :
    Except Error (Option (RuntimeAcceptanceRun D)) :=
  if isSafe runId = false then throw (.value "Unsafe runtime acceptance identity")
  else
    match store.filter fun run => fnmatch runId run.runId with
    | [] => pure none
    | [run] => pure (some run)
    | _ => throw (.value "Runtime acceptance run ID is ambiguous")

def load (productId runId : String) : Operation D (RuntimeAcceptanceRun D) := do
  if isSafe productId = false ∨ isSafe runId = false then
    throw (.value "Unsafe runtime acceptance identity")
  else
    match (← get).load productId runId with
    | some run => pure run
    | none => throw (.acceptance "Unknown runtime acceptance run")

/-! ## Evidence that is handed in -/

/-- The loop of `_validate_evidence`; the identifiers that were supplied before come first. -/
def validateEach (run : RunFields) : List String → List EvidenceArtifact → Except Error Unit
  | _, [] => pure ()
  | supplied, item :: rest => do
    if item.runId ≠ run.runId then
      throw (.acceptance "Evidence belongs to another run")
    if item.commitSha ≠ run.commitSha then
      throw (.acceptance "Evidence is stale for the current commit")
    if item.evidenceId ∈ run.evidence.map (·.evidenceId) ∨ item.evidenceId ∈ supplied then
      throw (.acceptance "Evidence IDs must be immutable and unique")
    match run.journey? item.journeyId with
    | none => throw (.acceptance "Evidence must bind a declared capability and journey")
    | some journey =>
        if item.capabilityId ∉ run.capabilities.map (·.capabilityId) then
          throw (.acceptance "Evidence must bind a declared capability and journey")
        if journey.capabilityId ≠ item.capabilityId then
          throw (.acceptance "Evidence capability does not own the declared journey")
        validateEach run (item.evidenceId :: supplied) rest

def validateEvidence (run : RunFields) (evidence : List EvidenceArtifact) :
    Except Error Unit :=
  if evidence = [] then throw (.acceptance "Evidence is required")
  else validateEach run [] evidence

/-- The loop of `_validate_results`. -/
def validateEachResult (run : RunFields) (availableEvidence : List String) :
    List String → List JourneyResult → Except Error Unit
  | _, [] => pure ()
  | supplied, result :: rest => do
    if result.journeyId ∉ run.journeys.map (·.journeyId) then
      throw (.acceptance "Journey result is not declared by the contract")
    if result.journeyId ∈ run.journeyResults.map (·.journeyId) ∨
        result.journeyId ∈ supplied then
      throw (.acceptance "Journey results cannot be overwritten")
    if ¬result.evidenceIds ⊆ availableEvidence then
      throw (.acceptance "Journey result references unavailable runtime evidence")
    validateEachResult run availableEvidence (result.journeyId :: supplied) rest

def validateResults (run : RunFields) (evidence : List EvidenceArtifact)
    (results : List JourneyResult) : Except Error Unit :=
  if results = [] then throw (.acceptance "Runtime journey results are required")
  else validateEachResult run ((run.evidence ++ evidence).map (·.evidenceId)) [] results

/-! ## What the operations decide -/

/-- What an operation saves, whether it publishes an event, and what it raises then. -/
structure Decision (D : Digests) where
  saved : RuntimeAcceptanceRun D
  publishes : Bool := true
  raises : Option Error := none

/-- `_advance`. -/
def advanced (target : AcceptanceStage) (now : Timestamp) (run : RuntimeAcceptanceRun D) :
    Except Error (Decision D) := do
  let value ← transition D run target now
  pure { saved := value }

/-- `record_automated_verification` after loading the run. -/
def automatedVerification (evidence : List EvidenceArtifact) (now : Timestamp)
    (run : RuntimeAcceptanceRun D) : Except Error (Decision D) := do
  if run.stage ≠ .implemented then
    throw (.acceptance "Implementation is required before automated verification")
  if run.evidence.any (·.outcome = .fail) = true then
    throw (.acceptance "Failed evidence requires a new acceptance run")
  validateEvidence run.toRunFields evidence
  let kinds := evidence.map (·.kind)
  if EvidenceKind.code ∉ kinds ∨ EvidenceKind.automatedTest ∉ kinds then
    throw (.acceptance "Code and automated test evidence are required")
  if kinds.any (fun kind => kind ≠ .code && kind ≠ .automatedTest) = true then
    throw (.acceptance "Runtime evidence cannot be recorded as automated verification")
  if evidence.any (·.outcome ≠ .pass) = true then
    let value ← RuntimeAcceptanceRun.new D
      { run.toRunFields with
        evidence := run.evidence ++ evidence
        blockers := ["FAILED_AUTOMATED_VERIFICATION"] }
    pure
      { saved := value
        raises := some (.acceptance "Failed automated verification blocks advancement") }
  else
    let value ← RuntimeAcceptanceRun.new D
      { run.toRunFields with evidence := run.evidence ++ evidence }
    let value ← transition D value .automatedVerified now
    pure { saved := value }

/-- `record_runtime_verification` after loading the run. -/
def runtimeVerification (evidence : List EvidenceArtifact) (results : List JourneyResult)
    (now : Timestamp) (run : RuntimeAcceptanceRun D) : Except Error (Decision D) := do
  if run.stage ≠ .automatedVerified then
    throw (.acceptance "Automated verification is required before runtime verification")
  if run.evidence.any (·.outcome = .fail) = true then
    throw (.acceptance "Failed evidence requires a new acceptance run")
  validateEvidence run.toRunFields evidence
  if evidence.any (fun item => item.kind = .code || item.kind = .automatedTest) = true then
    throw (.acceptance "Code and automated-test evidence belongs to automated verification")
  validateResults run.toRunFields evidence results
  if evidence.any (·.outcome ≠ .pass) = true ∨ results.any (·.outcome ≠ .pass) = true then
    let value ← RuntimeAcceptanceRun.new D
      { run.toRunFields with
        evidence := run.evidence ++ evidence
        journeyResults := run.journeyResults ++ results
        blockers := ["FAILED_RUNTIME_VERIFICATION"] }
    pure
      { saved := value
        raises := some (.acceptance "Failed runtime journey blocks advancement") }
  else
    if results.any (fun item => item.journeyId ∈ run.journeyResults.map (·.journeyId)) = true then
      throw (.acceptance "Journey results cannot be overwritten")
    let value ← RuntimeAcceptanceRun.new D
      { run.toRunFields with
        evidence := run.evidence ++ evidence
        journeyResults := run.journeyResults ++ results }
    let report := validateCompleteness D value.toRunFields
    if report.complete = false then
      let value ← RuntimeAcceptanceRun.new D
        { value.toRunFields with blockers := report.blockers }
      pure
        { saved := value
          publishes := false
          raises := some (.acceptance ("Runtime capability completeness failed: " ++
            ", ".intercalate report.blockers)) }
    else
      let value ← RuntimeAcceptanceRun.new D
        { value.toRunFields with blockers := [], evidenceDigest := report.evidenceDigest }
      let value ← transition D value .runtimeVerified now
      pure { saved := value }

/-- `request_human_acceptance` after loading the run. -/
def humanAcceptanceRequested (now : Timestamp) (run : RuntimeAcceptanceRun D) :
    Except Error (Decision D) := do
  if requiredHuman run.toRunFields = [] then
    throw (.acceptance "No locked capability requires human acceptance")
  advanced .humanAcceptanceRequired now run

/-- `record_human_acceptance` after loading the run. -/
def humanAcceptanceRecorded (acceptance : HumanAcceptance) (evidence : List EvidenceArtifact)
    (run : RuntimeAcceptanceRun D) : Except Error (Decision D) := do
  if run.stage ≠ .humanAcceptanceRequired then
    throw (.acceptance "Run is not waiting for human acceptance")
  if acceptance.capabilityId ∉ requiredHuman run.toRunFields then
    throw (.acceptance "Capability does not require human acceptance")
  if acceptance.capabilityId ∈ run.humanAcceptances.map (·.capabilityId) then
    throw (.acceptance "Human acceptance decision already exists")
  if acceptance.commitSha ≠ run.commitSha then
    throw (.acceptance "Human acceptance is stale for the current commit")
  if acceptance.acceptedAt < run.updatedAt then
    throw (.acceptance "Human acceptance predates runtime verification")
  if evidence = [] then
    throw (.acceptance "Human acceptance requires passing human UX evidence for the capability")
  validateEvidence run.toRunFields evidence
  if evidence.any (fun item => item.kind ≠ .humanUx ||
      item.capabilityId ≠ acceptance.capabilityId || item.outcome ≠ .pass) = true then
    throw (.acceptance "Human acceptance requires passing human UX evidence for the capability")
  let evidenceIds := evidence.map (·.evidenceId)
  if ¬(acceptance.evidenceIds ⊆ evidenceIds ∧ evidenceIds ⊆ acceptance.evidenceIds) then
    throw (.acceptance "Human acceptance must bind its exact UX evidence")
  let withEvidence ← RuntimeAcceptanceRun.new D
    { run.toRunFields with evidence := run.evidence ++ evidence, evidenceDigest := "" }
  if acceptance.evidenceDigest ≠ evidenceDigest D withEvidence.toRunFields then
    throw (.acceptance "Human acceptance evidence is stale")
  let value ← RuntimeAcceptanceRun.new D
    { withEvidence.toRunFields with
      humanAcceptances := run.humanAcceptances ++ [acceptance]
      evidenceDigest := acceptance.evidenceDigest }
  pure { saved := value }

/-- The decision on record for a capability, the last one of several. -/
def decision? (run : RunFields) (capabilityId : String) : Option String :=
  (run.humanAcceptances.reverse.find? (·.capabilityId = capabilityId)).map (·.decision)

/-- The checks of `accept` on the stage and on the human gates. -/
def gateChecks (run : RuntimeAcceptanceRun D) : Except Error Unit :=
  match run.stage with
  | .runtimeVerified =>
    if requiredHuman run.toRunFields ≠ [] then
      throw (.acceptance "Explicit human acceptance is required")
    else pure ()
  | .humanAcceptanceRequired =>
    if ¬∀ capabilityId ∈ requiredHuman run.toRunFields,
        decision? run.toRunFields capabilityId = some "ACCEPT" then
      throw (.acceptance "All required human gates must be accepted")
    else pure ()
  | _ => throw (.acceptance "Runtime verification is required before acceptance")

/-- `accept` after loading the run. -/
def acceptedRun (now : Timestamp) (run : RuntimeAcceptanceRun D) :
    Except Error (Decision D) := do
  gateChecks run
  let report := validateCompleteness D run.toRunFields
  if report.complete = false then
    throw (.acceptance ("Capability completeness blocks acceptance: " ++
      ", ".intercalate report.blockers))
  let value ← RuntimeAcceptanceRun.new D
    { run.toRunFields with evidenceDigest := report.evidenceDigest, blockers := [] }
  let value ← transition D value .accepted now
  pure { saved := value }

/-- `complete` after loading the run. -/
def completedRun (now : Timestamp) (run : RuntimeAcceptanceRun D) :
    Except Error (Decision D) := do
  if (validateCompleteness D run.toRunFields).complete = false then
    throw (.acceptance "Incomplete acceptance cannot be completed")
  advanced .completed now run

/-- The blockers of a contract that `plan` looks for. -/
def isStructural (blocker : String) : Bool :=
  ["JOURNEY_UNKNOWN_", "MISSING_REQUIRED_", "JOURNEY_CAPABILITY_"].any fun start =>
    start.toList.isPrefixOf blocker.toList

/-- The checks of `plan`. -/
def plannedRun (fnmatch : String → String → Bool) (run : RuntimeAcceptanceRun D)
    (store : Store D) : Except Error Unit := do
  if run.stage ≠ .planned then
    throw (.acceptance "New runtime acceptance runs start PLANNED")
  if run.evidence ≠ [] ∨ run.journeyResults ≠ [] ∨ run.humanAcceptances ≠ [] ∨
      run.completedAt ≠ none ∨ run.evidenceDigest ≠ "" ∨ run.blockers ≠ [] then
    throw (.acceptance "New runtime acceptance runs start empty")
  let found ← find fnmatch store run.runId
  if found ≠ none then
    throw (.acceptance "Runtime acceptance run already exists")
  let structuralBlockers :=
    (validateCompleteness D run.toRunFields).blockers.filter fun item => isStructural item
  if structuralBlockers ≠ [] then
    throw (.acceptance ("Acceptance contract is incomplete: " ++
      ", ".intercalate structuralBlockers))

/-! ## The operations -/

/-- Save what was decided, publish, and return or raise. -/
def settle (published : Except Error Unit) (decision : Decision D) :
    Operation D (RuntimeAcceptanceRun D) := do
  save decision.saved
  if decision.publishes = true then
    raised published
  match decision.raises with
  | some error => throw error
  | none => pure decision.saved

def operate (published : Except Error Unit) (productId runId : String)
    (decide : RuntimeAcceptanceRun D → Except Error (Decision D)) :
    Operation D (RuntimeAcceptanceRun D) := do
  let run ← load productId runId
  let decision ← raised (decide run)
  settle published decision

def plan (fnmatch : String → String → Bool) (published : Except Error Unit)
    (run : RuntimeAcceptanceRun D) : Operation D (RuntimeAcceptanceRun D) := do
  raised (plannedRun fnmatch run (← get))
  settle published { saved := run }

def markImplemented (published : Except Error Unit) (productId runId : String)
    (now : Timestamp) : Operation D (RuntimeAcceptanceRun D) :=
  operate published productId runId (advanced .implemented now)

def recordAutomatedVerification (published : Except Error Unit) (productId runId : String)
    (evidence : List EvidenceArtifact) (now : Timestamp) :
    Operation D (RuntimeAcceptanceRun D) :=
  operate published productId runId (automatedVerification evidence now)

def recordRuntimeVerification (published : Except Error Unit) (productId runId : String)
    (evidence : List EvidenceArtifact) (results : List JourneyResult) (now : Timestamp) :
    Operation D (RuntimeAcceptanceRun D) :=
  operate published productId runId (runtimeVerification evidence results now)

def requestHumanAcceptance (published : Except Error Unit) (productId runId : String)
    (now : Timestamp) : Operation D (RuntimeAcceptanceRun D) :=
  operate published productId runId (humanAcceptanceRequested now)

def recordHumanAcceptance (published : Except Error Unit) (productId runId : String)
    (acceptance : HumanAcceptance) (evidence : List EvidenceArtifact) :
    Operation D (RuntimeAcceptanceRun D) :=
  operate published productId runId (humanAcceptanceRecorded acceptance evidence)

def accept (published : Except Error Unit) (productId runId : String) (now : Timestamp) :
    Operation D (RuntimeAcceptanceRun D) :=
  operate published productId runId (acceptedRun now)

def complete (published : Except Error Unit) (productId runId : String) (now : Timestamp) :
    Operation D (RuntimeAcceptanceRun D) :=
  operate published productId runId (completedRun now)

/-! ## What a save does -/

section Saves

variable {store : Store D} {run existing : RuntimeAcceptanceRun D} {productId runId : String}

theorem isOf_iff : run.isOf productId runId = true ↔ run.productId = productId ∧ run.runId = runId :=
  decide_eq_true_iff

theorem isOf_self (run : RuntimeAcceptanceRun D) :
    run.isOf run.productId run.runId = true :=
  isOf_iff.mpr ⟨rfl, rfl⟩

theorem Store.load_cons (item : RuntimeAcceptanceRun D) (rest : Store D)
    (productId runId : String) :
    Store.load (item :: rest) productId runId =
      if item.isOf productId runId = true then some item else Store.load rest productId runId := by
  unfold load
  rw [List.find?_cons]
  cases item.isOf productId runId <;> rfl

theorem Store.mem_of_load (h : store.load productId runId = some run) :
    run ∈ store ∧ run.productId = productId ∧ run.runId = runId := by
  have hof : run.isOf productId runId = true :=
    List.find?_some (p := fun item : RuntimeAcceptanceRun D => item.isOf productId runId) h
  exact ⟨List.mem_of_find?_eq_some h, isOf_iff.mp hof⟩

theorem Store.load_append (store rest : Store D) (productId runId : String) :
    Store.load (store ++ rest) productId runId =
      (store.load productId runId).or (Store.load rest productId runId) :=
  List.find?_append

theorem Store.load_replace_self (store : Store D) (run : RuntimeAcceptanceRun D)
    (hexists : (store.load run.productId run.runId).isSome = true) :
    Store.load (store.map fun item =>
        if item.isOf run.productId run.runId = true then run else item)
      run.productId run.runId = some run := by
  induction store with
  | nil => cases hexists
  | cons item rest ih =>
    rw [List.map_cons, Store.load_cons]
    by_cases hitem : item.isOf run.productId run.runId = true
    · rw [if_pos hitem, if_pos (isOf_self run)]
    · rw [Store.load_cons, if_neg hitem] at hexists
      rw [if_neg hitem, if_neg hitem]
      exact ih hexists

theorem Store.load_replace_other (store : Store D) (run : RuntimeAcceptanceRun D)
    (hother : ¬run.isOf productId runId = true) :
    Store.load (store.map fun item =>
        if item.isOf run.productId run.runId = true then run else item) productId runId =
      store.load productId runId := by
  induction store with
  | nil => rfl
  | cons item rest ih =>
    rw [List.map_cons, Store.load_cons, Store.load_cons, ih]
    by_cases hitem : item.isOf run.productId run.runId = true
    · have hitem' : ¬item.isOf productId runId = true := by
        obtain ⟨hproduct, hrun⟩ := isOf_iff.mp hitem
        rw [isOf_iff, hproduct, hrun]
        exact fun h => hother (isOf_iff.mpr h)
      rw [if_pos hitem, if_neg hother, if_neg hitem']
    · rw [if_neg hitem]

/-- Writing a record changes what is loaded for its own run only. -/
theorem Store.load_write (store : Store D) (run : RuntimeAcceptanceRun D)
    (productId runId : String) :
    (store.write run).load productId runId =
      if run.isOf productId runId = true then some run else store.load productId runId := by
  unfold write
  by_cases hof : run.isOf productId runId = true
  · obtain ⟨rfl, rfl⟩ := isOf_iff.mp hof
    rw [if_pos hof]
    by_cases hexists : (store.load run.productId run.runId).isSome = true
    · rw [if_pos hexists]
      exact store.load_replace_self run hexists
    · rw [if_neg hexists, Store.load_append, Store.load_cons, if_pos hof]
      have hnone : store.load run.productId run.runId = none := by simpa using hexists
      rw [hnone, Option.none_or]
  · rw [if_neg hof]
    by_cases hexists : (store.load run.productId run.runId).isSome = true
    · rw [if_pos hexists]
      exact store.load_replace_other run hof
    · rw [if_neg hexists, Store.load_append, Store.load_cons, if_neg hof]
      exact Option.or_none

theorem Store.mem_write {item : RuntimeAcceptanceRun D} (h : item ∈ store.write run) :
    item = run ∨ item ∈ store := by
  unfold write at h
  split at h
  · obtain ⟨old, hold, rfl⟩ := List.mem_map.mp h
    split
    · exact .inl rfl
    · exact .inr hold
  · rcases List.mem_append.mp h with h | h
    · exact .inr h
    · exact .inl (List.mem_singleton.mp h)

/-- The store lets a record be saved over what is loaded for its run. -/
def Admits (store : Store D) (run : RuntimeAcceptanceRun D) : Prop :=
  isSafe run.productId = true ∧ isSafe run.runId = true ∧
    match store.load run.productId run.runId with
    | some existing => saveChecks existing run = .ok ()
    | none => run.stage = .planned

theorem saveChecks_ok_iff :
    saveChecks existing run = .ok () ↔
      existing.contract = run.contract ∧ (existing.stage = .completed → existing = run) ∧
        existing.updatedAt ≤ run.updatedAt ∧
        (run.stage = existing.stage ∨ run.stage ∈ existing.stage.transitions) ∧
        existing.evidence <+: run.evidence ∧ existing.journeyResults <+: run.journeyResults ∧
        existing.humanAcceptances <+: run.humanAcceptances := by
  unfold saveChecks
  simp only [Checks.guard_bind_ok_iff, Checks.guard_ok_iff, Checks.pure_ok_iff, not_not,
    not_and, Int.not_lt, and_true, ne_eq, or_iff_not_imp_left]

theorem exec_save_of_not_admits (h : ¬Admits store run) :
    ∃ error, exec (save run) store = (.error error, store) := by
  unfold save
  by_cases hsafe : isSafe run.productId = false ∨ isSafe run.runId = false
  · exact ⟨_, by simp [hsafe]; rfl⟩
  · have hnames : isSafe run.productId = true ∧ isSafe run.runId = true := by
      simpa using hsafe
    unfold Admits at h
    cases hload : store.load run.productId run.runId with
    | some existing =>
        cases hchecks : saveChecks existing run with
        | ok _ => exact absurd ⟨hnames.1, hnames.2, by rw [hload]; exact hchecks⟩ h
        | error error => exact ⟨error, by simp [hsafe, hload, hchecks, raised]⟩
    | none =>
        by_cases hplanned : run.stage = .planned
        · exact absurd ⟨hnames.1, hnames.2, by rw [hload]; exact hplanned⟩ h
        · exact ⟨_, by simp [hsafe, hload, hplanned]; rfl⟩

theorem exec_save_of_admits (h : Admits store run) :
    ∃ store', exec (save run) store = (.ok (), store') ∧
      (∀ productId runId, store'.load productId runId =
        if run.isOf productId runId = true then some run else store.load productId runId) ∧
      ∀ item ∈ store', item = run ∨ item ∈ store := by
  obtain ⟨hproduct, hrun, hchecks⟩ := h
  unfold save
  cases hload : store.load run.productId run.runId with
  | some existing =>
    rw [hload] at hchecks
    by_cases hsame : existing = run
    · subst hsame
      refine ⟨store, by simp [hproduct, hrun, hload, raised, hchecks], ?_, fun _ => .inr⟩
      intro productId runId
      split
      · rename_i hof
        obtain ⟨rfl, rfl⟩ := isOf_iff.mp hof
        exact hload
      · rfl
    · exact ⟨store.write run, by simp [hproduct, hrun, hload, raised, hchecks, hsame],
        store.load_write run, fun _ => Store.mem_write⟩
  | none =>
    rw [hload] at hchecks
    exact ⟨store.write run, by simp [hproduct, hrun, hload, hchecks], store.load_write run,
      fun _ => Store.mem_write⟩

theorem exec_operate (published : Except Error Unit) (productId runId : String)
    (decide : RuntimeAcceptanceRun D → Except Error (Decision D)) (store : Store D) :
    (∃ error, exec (operate published productId runId decide) store = (.error error, store)) ∨
      ∃ run decision, store.load productId runId = some run ∧ decide run = .ok decision ∧
        exec (operate published productId runId decide) store =
          exec (settle published decision) store := by
  unfold operate load
  by_cases hsafe : isSafe productId = false ∨ isSafe runId = false
  · exact .inl ⟨_, by simp [hsafe]; rfl⟩
  · cases hload : store.load productId runId with
    | none => exact .inl ⟨_, by simp [hsafe, hload]; rfl⟩
    | some run =>
        cases hdecide : decide run with
        | error error => exact .inl ⟨error, by simp [hsafe, hload, hdecide, raised]⟩
        | ok decision =>
            exact .inr ⟨run, decision, rfl, hdecide, by simp [hsafe, hload, hdecide, raised]⟩

theorem exec_operate_of_load (published : Except Error Unit) (hproduct : isSafe productId = true)
    (hrun : isSafe runId = true) (hload : store.load productId runId = some run)
    (decide : RuntimeAcceptanceRun D → Except Error (Decision D)) :
    exec (operate published productId runId decide) store =
      match decide run with
      | .ok decision => exec (settle published decision) store
      | .error error => (.error error, store) := by
  unfold operate load
  cases hdecide : decide run with
  | error error => simp [hproduct, hrun, hload, hdecide, raised]
  | ok decision => simp [hproduct, hrun, hload, hdecide, raised]

/-- What was decided without a raise returns when the store admits it and it is published. -/
theorem exec_settle_ok_iff (published : Except Error Unit) (saved : RuntimeAcceptanceRun D)
    (store : Store D) :
    (∃ value, (exec (settle published { saved }) store).1 = .ok value) ↔
      published = .ok () ∧ Admits store saved := by
  by_cases hadmits : Admits store saved
  · obtain ⟨store', hexec, -⟩ := exec_save_of_admits hadmits
    cases published with
    | error error => simp [settle, hexec, raised]
    | ok _ => simp [settle, hexec, raised, hadmits]
  · obtain ⟨error, hexec⟩ := exec_save_of_not_admits hadmits
    simp [settle, hexec, hadmits]

/-- Publishing and raising come after the save. -/
theorem exec_settle_snd (published : Except Error Unit) (decision : Decision D)
    (store : Store D) :
    (exec (settle published decision) store).2 = (exec (save decision.saved) store).2 := by
  unfold settle
  rw [exec_bind]
  rcases exec (save decision.saved) store with ⟨_ | _, store'⟩
  · rfl
  · cases decision.publishes <;> cases published <;> cases decision.raises <;> rfl

end Saves

end Acceptance
end Ascos
