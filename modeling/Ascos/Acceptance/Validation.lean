import Ascos.Acceptance.Model

/-!
# Capability completeness

A translation of `runtime/runtime_acceptance/validation.py`.  The dictionaries of the
code are keyed by identifiers that a run has only once, so a lookup finds the first entry.
-/

namespace Ascos
namespace Acceptance

/-! ## Lookups -/

/-- `capabilities.get(capability_id)`. -/
def RunFields.capability? (run : RunFields) (capabilityId : String) :
    Option CapabilityAcceptanceContract :=
  run.capabilities.find? (·.capabilityId = capabilityId)

/-- `journeys.get(journey_id)`. -/
def RunFields.journey? (run : RunFields) (journeyId : String) : Option AcceptanceJourney :=
  run.journeys.find? (·.journeyId = journeyId)

/-- `results.get(journey_id)`. -/
def RunFields.result? (run : RunFields) (journeyId : String) : Option JourneyResult :=
  run.journeyResults.find? (·.journeyId = journeyId)

/-- `evidence.get(evidence_id)`. -/
def RunFields.evidence? (run : RunFields) (evidenceId : String) : Option EvidenceArtifact :=
  run.evidence.find? (·.evidenceId = evidenceId)

/-! ## Blockers -/

/-- The blockers of the results whose journeys are not declared. -/
def resultBlockers (run : RunFields) : List String :=
  run.journeyResults.flatMap fun result =>
    if run.journey? result.journeyId = none then
      ["UNDECLARED_JOURNEY_RESULT:" ++ result.journeyId]
    else []

def artifactBlockers (run : RunFields) (artifact : EvidenceArtifact) : List String :=
  (if run.capability? artifact.capabilityId = none then
    ["EVIDENCE_UNKNOWN_CAPABILITY:" ++ artifact.evidenceId] else []) ++
  (match run.journey? artifact.journeyId with
    | none => ["EVIDENCE_UNKNOWN_JOURNEY:" ++ artifact.evidenceId]
    | some journey =>
        if journey.capabilityId ≠ artifact.capabilityId then
          ["EVIDENCE_CAPABILITY_MISMATCH:" ++ artifact.evidenceId]
        else []) ++
  (if artifact.outcome = .fail then ["FAILED_EVIDENCE:" ++ artifact.evidenceId] else [])

/-- The kinds of the evidence that passed. -/
def globalKinds (run : RunFields) : List EvidenceKind :=
  (run.evidence.filter (·.outcome = .pass)).map (·.kind)

/-- The kinds that every run needs. -/
def requiredGlobalKinds : List EvidenceKind :=
  [.code, .automatedTest, .serviceStartup, .readiness, .migration]

/-- The kinds that a run with a locked customer-facing capability needs. -/
def customerGlobalKinds : List EvidenceKind :=
  [.browser, .browserConsole, .browserNetwork, .screenshot]

/-- The blockers of the kinds that are missing among the evidence of the whole run. -/
def globalBlockers (run : RunFields) : List String :=
  let missing (kind : EvidenceKind) : List String :=
    if kind ∉ globalKinds run then ["MISSING_GLOBAL_" ++ kind.value] else []
  requiredGlobalKinds.flatMap missing ++
    (if run.capabilities.any (fun item => item.locked && item.customerFacing) = true then
      customerGlobalKinds.flatMap missing
    else [])

def declaredJourneyBlockers (run : RunFields) : List String :=
  run.journeys.flatMap fun journey =>
    if run.capability? journey.capabilityId = none then
      ["JOURNEY_UNKNOWN_CAPABILITY:" ++ journey.journeyId ++ ":" ++ journey.capabilityId]
    else []

/-- The blockers of the evidence that a passed or failed result names. -/
def linkedBlockers (run : RunFields) (capability : CapabilityAcceptanceContract)
    (journey : AcceptanceJourney) (journeyId : String) (linked : List EvidenceArtifact) :
    List String :=
  (linked.flatMap fun item =>
    (if item.commitSha ≠ run.commitSha then
      ["STALE_COMMIT_EVIDENCE:" ++ item.evidenceId] else []) ++
    (if item.runId ≠ run.runId ∨ item.journeyId ≠ journeyId then
      ["MISBOUND_EVIDENCE:" ++ item.evidenceId] else []) ++
    (if item.capabilityId ≠ capability.capabilityId then
      ["WRONG_CAPABILITY_EVIDENCE:" ++ item.evidenceId] else []) ++
    (if item.outcome ≠ .pass then ["FAILED_EVIDENCE:" ++ item.evidenceId] else [])) ++
  journey.requiredEvidence.flatMap fun kind =>
    if kind ∉ linked.map (·.kind) then ["MISSING_" ++ kind.value ++ ":" ++ journeyId] else []

def requiredJourneyBlockers (run : RunFields) (capability : CapabilityAcceptanceContract)
    (journeyId : String) : List String :=
  match run.journey? journeyId with
  | none => ["MISSING_REQUIRED_JOURNEY:" ++ capability.capabilityId ++ ":" ++ journeyId]
  | some journey =>
    if journey.capabilityId ≠ capability.capabilityId then
      ["JOURNEY_CAPABILITY_MISMATCH:" ++ capability.capabilityId ++ ":" ++ journeyId]
    else
      match run.result? journeyId with
      | none => ["MISSING_JOURNEY_RESULT:" ++ capability.capabilityId ++ ":" ++ journeyId]
      | some result =>
          (if result.outcome ≠ .pass then
            ["JOURNEY_FAILED:" ++ capability.capabilityId ++ ":" ++ journeyId] else []) ++
          match result.evidenceIds.mapM run.evidence? with
          | none => ["MISSING_EVIDENCE_ARTIFACT:" ++ journeyId]
          | some linked => linkedBlockers run capability journey journeyId linked

/-- The blockers of the journeys that the locked capabilities require. -/
def capabilityBlockers (run : RunFields) : List String :=
  run.capabilities.flatMap fun capability =>
    if capability.locked = true then
      capability.requiredJourneyIds.flatMap (requiredJourneyBlockers run capability)
    else []

/-- The blockers that neither the stage nor the human acceptances decide. -/
def evidenceBlockers (run : RunFields) : List String :=
  resultBlockers run ++ run.evidence.flatMap (artifactBlockers run) ++ globalBlockers run ++
    declaredJourneyBlockers run ++ capabilityBlockers run

/-- `required_human`: the locked capabilities that ask for a human. -/
def requiredHuman (run : RunFields) : List String :=
  (run.capabilities.filter fun item => item.locked && item.humanAcceptanceRequired).map
    (·.capabilityId)

variable (D : Digests)

/-- The condition of `accepted_human` on an acceptance. -/
def isAccepted (run : RunFields) (item : HumanAcceptance) : Bool :=
  item.decision == "ACCEPT" && item.commitSha == run.commitSha &&
    item.evidenceDigest == evidenceDigest D run && item.evidenceIds ≠ [] &&
    item.evidenceIds.all fun evidenceId =>
      (run.evidence? evidenceId).any fun artifact =>
        artifact.kind = .humanUx && artifact.outcome = .pass &&
          artifact.capabilityId = item.capabilityId

def acceptedHuman (run : RunFields) : List String :=
  (run.humanAcceptances.filter (isAccepted D run)).map (·.capabilityId)

/-- The stages in which every required human acceptance has to be there. -/
def needsHuman (stage : AcceptanceStage) : Bool :=
  stage ∈ [.humanAcceptanceRequired, .accepted, .completed]

def missingHumanBlockers (run : RunFields) : List String :=
  if needsHuman run.stage = true then
    (sortedSet (requiredHuman run)).flatMap fun capabilityId =>
      if capabilityId ∉ acceptedHuman D run then
        ["MISSING_HUMAN_ACCEPTANCE:" ++ capabilityId]
      else []
  else []

/-- The blockers of the human acceptances that nobody asked for. -/
def unexpectedHumanBlockers (run : RunFields) : List String :=
  run.humanAcceptances.flatMap fun acceptance =>
    if acceptance.capabilityId ∉ requiredHuman run then
      ["UNEXPECTED_HUMAN_ACCEPTANCE:" ++ acceptance.capabilityId]
    else []

structure CompletenessReport where
  complete : Bool
  blockers : List String
  capabilityIds : List String
  evidenceDigest : String
deriving DecidableEq

def validateCompleteness (run : RunFields) : CompletenessReport :=
  let unique := sortedSet
    (evidenceBlockers run ++ missingHumanBlockers D run ++ unexpectedHumanBlockers run)
  { complete := decide (unique = [])
    blockers := unique
    capabilityIds := sortedTexts (run.capabilities.map (·.capabilityId))
    evidenceDigest := evidenceDigest D run }

/-! ## Completeness in parts -/

section Parts

variable {D} {run : RunFields}

theorem sortedSet_eq_nil_iff {values : List String} : sortedSet values = [] ↔ values = [] := by
  unfold sortedSet sortedTexts
  rw [← List.length_eq_zero_iff, List.length_insertionSort, List.length_eq_zero_iff]
  exact List.dedup_eq_nil values

theorem mem_sortedSet {values : List String} {value : String} :
    value ∈ sortedSet values ↔ value ∈ values := by
  unfold sortedSet sortedTexts
  rw [List.mem_insertionSort, List.mem_dedup]

theorem flatMap_report_eq_nil_iff {α : Type} {values : List α} {bad : α → Prop}
    [DecidablePred bad] {message : α → String} :
    (values.flatMap fun value => if bad value then [message value] else []) = [] ↔
      ∀ value ∈ values, ¬bad value := by
  rw [List.flatMap_eq_nil_iff]
  refine forall₂_congr fun value _ => ?_
  split <;> simp_all

theorem completeness_iff :
    (validateCompleteness D run).complete = true ↔
      evidenceBlockers run = [] ∧
        (needsHuman run.stage = true →
          ∀ capabilityId ∈ requiredHuman run, capabilityId ∈ acceptedHuman D run) ∧
        ∀ acceptance ∈ run.humanAcceptances, acceptance.capabilityId ∈ requiredHuman run := by
  unfold validateCompleteness
  simp only [decide_eq_true_eq]
  rw [sortedSet_eq_nil_iff, List.append_eq_nil_iff, List.append_eq_nil_iff, and_assoc]
  refine and_congr_right fun _ => and_congr ?_ ?_
  · unfold missingHumanBlockers
    by_cases hneeds : needsHuman run.stage = true
    · rw [if_pos hneeds, flatMap_report_eq_nil_iff]
      simp [hneeds, mem_sortedSet]
    · simp [hneeds]
  · unfold unexpectedHumanBlockers
    rw [flatMap_report_eq_nil_iff]
    simp

end Parts

end Acceptance
end Ascos
