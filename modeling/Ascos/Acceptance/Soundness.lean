import Ascos.Acceptance.Service
import Ascos.Library.Lineage
import Mathlib.Logic.Relation

/-!
# Accepted runs

Runs of the runtime acceptance service from the empty store: what holds of every record, and
when a run that waits for its human gates can be accepted.
-/

namespace Ascos
namespace Acceptance

open Library Library.Program
open Ascos.Runtime (Timestamp)

variable {D : Digests}

/-! ## The invariant of a record -/

def namesEvidence (run : RunFields) (item : HumanAcceptance) : Bool :=
  item.evidenceIds.all fun evidenceId =>
    (run.evidence? evidenceId).any fun artifact =>
      artifact.kind = .humanUx && artifact.outcome = .pass &&
        artifact.capabilityId = item.capabilityId

/-- An acceptance that was recorded for a run, whatever its decision and its digest are. -/
structure Recorded (run : RunFields) (item : HumanAcceptance) : Prop where
  required : item.capabilityId ∈ requiredHuman run
  commit : item.commitSha = run.commitSha
  nonempty : item.evidenceIds ≠ []
  evidence : namesEvidence run item = true

theorem Recorded.of_eq {run run' : RunFields} {item : HumanAcceptance}
    (h : Recorded run item) (hevidence : run'.evidence = run.evidence)
    (hcapabilities : run'.capabilities = run.capabilities)
    (hcommit : run'.commitSha = run.commitSha) : Recorded run' item where
  required := by
    unfold requiredHuman
    rw [hcapabilities]
    exact h.required
  commit := h.commit.trans hcommit.symm
  nonempty := h.nonempty
  evidence := by
    unfold namesEvidence RunFields.evidence?
    rw [hevidence]
    exact h.evidence

/-- The stages before the one that waits for humans. -/
def early : List AcceptanceStage :=
  [.planned, .implemented, .automatedVerified, .runtimeVerified]

/-- What holds of every stored record. -/
structure Valid (D : Digests) (run : RunFields) : Prop where
  silent : run.stage ∈ early → run.humanAcceptances = []
  verified : run.stage ∉ [AcceptanceStage.planned, .implemented, .automatedVerified] →
    evidenceBlockers run = []
  recorded : ∀ item ∈ run.humanAcceptances, Recorded run item
  distinct : (run.humanAcceptances.map (·.capabilityId)).Nodup
  bound : ∀ item ∈ run.humanAcceptances.getLast?, item.evidenceDigest = evidenceDigest D run
  complete : run.stage = .accepted ∨ run.stage = .completed →
    (validateCompleteness D run).complete = true ∧
      run.evidenceDigest = evidenceDigest D run

theorem Valid.of_unverified {run : RunFields}
    (hstage : run.stage = .planned ∨ run.stage = .implemented ∨ run.stage = .automatedVerified)
    (hsilent : run.humanAcceptances = []) : Valid D run where
  silent _ := hsilent
  verified := by
    intro hlate
    rcases hstage with h | h | h <;> simp [h] at hlate
  recorded := by simp [hsilent]
  distinct := by simp [hsilent]
  bound := by simp [hsilent]
  complete := by
    intro hlate
    rcases hstage with h | h | h <;> simp [h] at hlate

theorem RuntimeAcceptanceRun.new_ok {fields : RunFields} {run : RuntimeAcceptanceRun D}
    (h : RuntimeAcceptanceRun.new D fields = .ok run) : run.toRunFields = fields := by
  unfold RuntimeAcceptanceRun.new at h
  split at h
  · cases h
    rfl
  · cases h

theorem transition_ok {run value : RuntimeAcceptanceRun D} {target : AcceptanceStage}
    {now : Timestamp} (h : transition D run target now = .ok value) :
    target ∈ run.stage.transitions ∧
      value.toRunFields =
        { run.toRunFields with
          stage := target
          updatedAt := now
          completedAt := if target = .completed then some now else run.completedAt } := by
  unfold transition at h
  split at h
  · rename_i htarget
    exact ⟨htarget, RuntimeAcceptanceRun.new_ok h⟩
  · cases h

/-! ## More evidence -/

section Evidence

variable {run : RunFields} {evidence : List EvidenceArtifact}

/-- The run with more evidence, and without the digest of the old one. -/
def RunFields.grown (run : RunFields) (evidence : List EvidenceArtifact) : RunFields :=
  { run with evidence := run.evidence ++ evidence, evidenceDigest := "" }

theorem evidence?_grown {evidenceId : String} {artifact : EvidenceArtifact}
    (h : run.evidence? evidenceId = some artifact) :
    (run.grown evidence).evidence? evidenceId = some artifact := by
  unfold RunFields.evidence? RunFields.grown at *
  rw [List.find?_append, h, Option.some_or]

theorem requiredJourneyBlockers_grown {capability : CapabilityAcceptanceContract}
    {journeyId : String} (h : requiredJourneyBlockers run capability journeyId = []) :
    requiredJourneyBlockers (run.grown evidence) capability journeyId = [] := by
  unfold requiredJourneyBlockers at h ⊢
  have hjourneys : (run.grown evidence).journey? journeyId = run.journey? journeyId := rfl
  rw [hjourneys]
  cases hjourney : run.journey? journeyId with
  | none => simp [hjourney] at h
  | some journey =>
    rw [hjourney] at h
    dsimp only at h ⊢
    split
    · rename_i hmismatch
      rw [if_pos hmismatch] at h
      exact h
    · rename_i hmatch
      rw [if_neg hmatch] at h
      have hresults : (run.grown evidence).result? journeyId = run.result? journeyId := rfl
      rw [hresults]
      cases hresult : run.result? journeyId with
      | none => simp [hresult] at h
      | some result =>
          rw [hresult] at h
          dsimp only at h ⊢
          cases hlinked : result.evidenceIds.mapM run.evidence? with
          | none => simp [hlinked] at h
          | some linked =>
              have hlinked' := Checks.mapM_some_mono
                (g := (run.grown evidence).evidence?) (fun _ _ _ => evidence?_grown) hlinked
              rw [hlinked] at h
              rw [hlinked']
              exact h

/-- What `_validate_evidence` has checked of every artifact. -/
structure Bindable (run : RunFields) (item : EvidenceArtifact) : Prop where
  fresh : item.evidenceId ∉ run.evidence.map (·.evidenceId)
  capability : item.capabilityId ∈ run.capabilities.map (·.capabilityId)
  journey : ∃ journey, run.journey? item.journeyId = some journey ∧
    journey.capabilityId = item.capabilityId

theorem bindable_of_validateEach {supplied : List String}
    (h : validateEach run supplied evidence = .ok ()) : ∀ item ∈ evidence, Bindable run item := by
  induction evidence generalizing supplied with
  | nil => simp
  | cons item rest ih =>
    unfold validateEach at h
    simp only [Checks.guard_bind_ok_iff] at h
    obtain ⟨-, -, hfresh, h⟩ := h
    cases hjourney : run.journey? item.journeyId with
    | none =>
        rw [hjourney] at h
        cases h
    | some journey =>
        rw [hjourney] at h
        simp only [Checks.guard_bind_ok_iff] at h
        obtain ⟨hcapability, howner, hrest⟩ := h
        intro other hother
        rcases List.mem_cons.mp hother with rfl | hother
        · exact ⟨fun hmem => hfresh (.inl hmem), not_not.mp hcapability, journey, hjourney,
            not_not.mp howner⟩
        · exact ih hrest other hother

theorem bindable_of_validateEvidence (h : validateEvidence run evidence = .ok ()) :
    ∀ item ∈ evidence, Bindable run item := by
  unfold validateEvidence at h
  rw [Checks.guard_ok_iff] at h
  exact bindable_of_validateEach h.2

theorem artifactBlockers_of_bindable {item : EvidenceArtifact} (hbindable : Bindable run item)
    (hpass : item.outcome = .pass) : artifactBlockers (run.grown evidence) item = [] := by
  obtain ⟨journey, hjourney, howner⟩ := hbindable.journey
  have hcapability : (run.grown evidence).capability? item.capabilityId ≠ none := by
    obtain ⟨capability, hmem, hid⟩ := List.mem_map.mp hbindable.capability
    intro hnone
    exact List.find?_eq_none.mp hnone capability hmem (by simpa using hid)
  have hjourney' : (run.grown evidence).journey? item.journeyId = some journey := hjourney
  unfold artifactBlockers
  rw [if_neg hcapability, hjourney', hpass]
  simp [howner]

theorem mem_globalKinds_grown {kind : EvidenceKind} (h : kind ∈ globalKinds run) :
    kind ∈ globalKinds (run.grown evidence) := by
  unfold globalKinds RunFields.grown at *
  rw [List.filter_append, List.map_append]
  exact List.mem_append_left _ h

theorem globalBlockers_grown (h : globalBlockers run = []) :
    globalBlockers (run.grown evidence) = [] := by
  have hmissing (kinds : List EvidenceKind)
      (hkinds : (kinds.flatMap fun kind =>
        if kind ∉ globalKinds run then ["MISSING_GLOBAL_" ++ kind.value] else []) = []) :
      (kinds.flatMap fun kind => if kind ∉ globalKinds (run.grown evidence) then
        ["MISSING_GLOBAL_" ++ kind.value] else []) = [] := by
    rw [flatMap_report_eq_nil_iff] at hkinds ⊢
    intro kind hkind habsent
    exact hkinds kind hkind fun hpresent => habsent (mem_globalKinds_grown hpresent)
  unfold globalBlockers at h ⊢
  rw [List.append_eq_nil_iff] at h ⊢
  refine ⟨hmissing _ h.1, ?_⟩
  change (if run.capabilities.any _ = true then _ else _) = _
  split
  · rename_i hcustomer
    rw [if_pos hcustomer] at h
    exact hmissing _ h.2
  · rfl

theorem capabilityBlockers_grown (h : capabilityBlockers run = []) :
    capabilityBlockers (run.grown evidence) = [] := by
  unfold capabilityBlockers at h ⊢
  rw [List.flatMap_eq_nil_iff] at h ⊢
  intro capability hmem
  have hcapability := h capability hmem
  split
  · rename_i hlocked
    rw [if_pos hlocked, List.flatMap_eq_nil_iff] at hcapability
    rw [List.flatMap_eq_nil_iff]
    exact fun journeyId hjourney => requiredJourneyBlockers_grown (hcapability journeyId hjourney)
  · rfl

theorem evidenceBlockers_grown (h : evidenceBlockers run = [])
    (hbindable : ∀ item ∈ evidence, Bindable run item)
    (hpass : ∀ item ∈ evidence, item.outcome = .pass) :
    evidenceBlockers (run.grown evidence) = [] := by
  unfold evidenceBlockers at h ⊢
  simp only [List.append_eq_nil_iff] at h ⊢
  obtain ⟨⟨⟨⟨hresults, hartifacts⟩, hglobal⟩, hjourneys⟩, hcapabilities⟩ := h
  refine ⟨⟨⟨⟨hresults, ?_⟩, globalBlockers_grown hglobal⟩, hjourneys⟩,
    capabilityBlockers_grown hcapabilities⟩
  rw [List.flatMap_eq_nil_iff] at hartifacts ⊢
  intro item hitem
  rcases List.mem_append.mp hitem with hold | hnew
  · exact hartifacts item hold
  · exact artifactBlockers_of_bindable (hbindable item hnew) (hpass item hnew)

theorem Recorded.grown {item : HumanAcceptance} (h : Recorded run item) :
    Recorded (run.grown evidence) item where
  required := h.required
  commit := h.commit
  nonempty := h.nonempty
  evidence := by
    have hnames := h.evidence
    unfold namesEvidence at hnames ⊢
    rw [List.all_eq_true] at hnames ⊢
    intro evidenceId hmem
    have hfound := hnames evidenceId hmem
    cases hartifact : run.evidence? evidenceId with
    | none => simp [hartifact] at hfound
    | some artifact =>
        rw [hartifact] at hfound
        rw [evidence?_grown hartifact]
        exact hfound

theorem namesEvidence_grown {item : HumanAcceptance}
    (hbindable : ∀ artifact ∈ evidence, Bindable run artifact)
    (hhuman : ∀ artifact ∈ evidence, artifact.kind = .humanUx ∧
      artifact.capabilityId = item.capabilityId ∧ artifact.outcome = .pass)
    (hids : item.evidenceIds ⊆ evidence.map (·.evidenceId)) :
    namesEvidence (run.grown evidence) item = true := by
  unfold namesEvidence
  rw [List.all_eq_true]
  intro evidenceId hmem
  obtain ⟨artifact, hartifact, hid⟩ := List.mem_map.mp (hids hmem)
  have hfresh : run.evidence? evidenceId = none := by
    unfold RunFields.evidence?
    rw [List.find?_eq_none]
    intro old hold hsame
    refine (hbindable artifact hartifact).fresh (List.mem_map.mpr ⟨old, hold, ?_⟩)
    exact (by simpa using hsame : old.evidenceId = evidenceId).trans hid.symm
  have hfound : (evidence.find? (·.evidenceId = evidenceId)).isSome = true := by
    rw [List.find?_isSome]
    exact ⟨artifact, hartifact, by simpa using hid⟩
  obtain ⟨first, hfirst⟩ := Option.isSome_iff_exists.mp hfound
  have hnew : (run.grown evidence).evidence? evidenceId = some first := by
    unfold RunFields.evidence? RunFields.grown at *
    rw [List.find?_append, hfresh, Option.none_or, hfirst]
  obtain ⟨hkind, hcapability, hpass⟩ := hhuman first (List.mem_of_find?_eq_some hfirst)
  rw [hnew]
  simp [hkind, hcapability, hpass]

end Evidence

/-! ## What the operations decide is valid -/

section Decisions

variable {run value : RuntimeAcceptanceRun D} {decision : Decision D} {now : Timestamp}

/-- Moving on to a stage that needs no completeness of its own. -/
theorem Valid.transition {target : AcceptanceStage} (hvalid : Valid D run.toRunFields)
    (h : transition D run target now = .ok value)
    (htarget : target = .implemented ∨ target = .humanAcceptanceRequired) :
    Valid D value.toRunFields := by
  obtain ⟨hmem, hvalue⟩ := transition_ok h
  rw [hvalue]
  rcases htarget with rfl | rfl
  · have hplanned : run.stage = .planned := by
      cases hstage : run.stage <;> simp [hstage, AcceptanceStage.transitions] at hmem ⊢
    exact .of_unverified (.inr (.inl rfl)) (hvalid.silent (by simp [hplanned, early]))
  · have hverified : run.stage = .runtimeVerified := by
      cases hstage : run.stage <;> simp [hstage, AcceptanceStage.transitions] at hmem ⊢
    have hsilent := hvalid.silent (by simp [hverified, early])
    refine ⟨fun _ => hsilent, fun _ => hvalid.verified (by simp [hverified]), ?_,
      hvalid.distinct, hvalid.bound, ?_⟩
    · simp [hsilent]
    · intro hlate
      rcases hlate with h | h <;> cases h

theorem advanced_ok {target : AcceptanceStage} (h : advanced target now run = .ok decision) :
    transition D run target now = .ok decision.saved := by
  unfold advanced at h
  rw [Checks.bind_ok_iff] at h
  obtain ⟨value, hvalue, h⟩ := h
  cases h
  exact hvalue

theorem automatedVerification_valid {evidence : List EvidenceArtifact}
    (hvalid : Valid D run.toRunFields)
    (h : automatedVerification evidence now run = .ok decision) :
    Valid D decision.saved.toRunFields := by
  unfold automatedVerification at h
  simp only [Checks.guard_bind_ok_iff, Checks.bind_ok_iff] at h
  obtain ⟨hstage, -, -, -, -, -, h⟩ := h
  have himplemented : run.stage = .implemented := not_not.mp hstage
  have hsilent := hvalid.silent (by simp [himplemented, early])
  split at h
  · rw [Checks.bind_ok_iff] at h
    obtain ⟨value, hvalue, h⟩ := h
    cases h
    rw [RuntimeAcceptanceRun.new_ok hvalue]
    exact .of_unverified (.inr (.inl himplemented)) hsilent
  · simp only [Checks.bind_ok_iff] at h
    obtain ⟨grown, hgrown, value, hvalue, h⟩ := h
    cases h
    rw [(transition_ok hvalue).2, RuntimeAcceptanceRun.new_ok hgrown]
    exact .of_unverified (.inr (.inr rfl)) hsilent

theorem runtimeVerification_valid {evidence : List EvidenceArtifact}
    {results : List JourneyResult} (hvalid : Valid D run.toRunFields)
    (h : runtimeVerification evidence results now run = .ok decision) :
    Valid D decision.saved.toRunFields := by
  unfold runtimeVerification at h
  simp only [Checks.guard_bind_ok_iff, Checks.bind_ok_iff] at h
  obtain ⟨hstage, -, -, -, -, -, -, h⟩ := h
  have hautomated : run.stage = .automatedVerified := not_not.mp hstage
  have hsilent := hvalid.silent (by simp [hautomated, early])
  split at h
  · rw [Checks.bind_ok_iff] at h
    obtain ⟨value, hvalue, h⟩ := h
    cases h
    rw [RuntimeAcceptanceRun.new_ok hvalue]
    exact .of_unverified (.inr (.inr hautomated)) hsilent
  · simp only [Checks.guard_bind_ok_iff, Checks.bind_ok_iff] at h
    obtain ⟨-, grown, hgrown, h⟩ := h
    have hgrown := RuntimeAcceptanceRun.new_ok hgrown
    split at h
    · rw [Checks.bind_ok_iff] at h
      obtain ⟨value, hvalue, h⟩ := h
      cases h
      rw [RuntimeAcceptanceRun.new_ok hvalue, hgrown]
      exact .of_unverified (.inr (.inr hautomated)) hsilent
    · rename_i hcomplete
      simp only [Checks.bind_ok_iff] at h
      obtain ⟨digested, hdigested, value, hvalue, h⟩ := h
      cases h
      have hblockers := (completeness_iff.mp (by simpa using hcomplete)).1
      rw [(transition_ok hvalue).2, RuntimeAcceptanceRun.new_ok hdigested, hgrown]
      rw [hgrown] at hblockers
      refine ⟨fun _ => hsilent, fun _ => hblockers, ?_, ?_, ?_, ?_⟩
      · simp [hsilent]
      · simp [hsilent]
      · simp [hsilent]
      · intro hlate
        rcases hlate with h | h <;> cases h

theorem humanAcceptanceRequested_valid (hvalid : Valid D run.toRunFields)
    (h : humanAcceptanceRequested now run = .ok decision) :
    Valid D decision.saved.toRunFields := by
  unfold humanAcceptanceRequested at h
  rw [Checks.guard_bind_ok_iff] at h
  exact hvalid.transition (advanced_ok h.2) (.inr rfl)

theorem humanAcceptanceRecorded_valid {acceptance : HumanAcceptance}
    {evidence : List EvidenceArtifact} (hvalid : Valid D run.toRunFields)
    (h : humanAcceptanceRecorded acceptance evidence run = .ok decision) :
    Valid D decision.saved.toRunFields := by
  unfold humanAcceptanceRecorded at h
  simp only [Checks.guard_bind_ok_iff, Checks.bind_ok_iff] at h
  obtain ⟨hstage, hrequired, hfresh, hcommit, -, hevidence, _, hvalidated, hhuman, hids, grown,
    hgrown, hdigest, value, hvalue, h⟩ := h
  cases h
  have hwaiting : run.stage = .humanAcceptanceRequired := not_not.mp hstage
  have hgrown := RuntimeAcceptanceRun.new_ok hgrown
  have hbindable := bindable_of_validateEvidence hvalidated
  have hhuman : ∀ artifact ∈ evidence, artifact.kind = .humanUx ∧
      artifact.capabilityId = acceptance.capabilityId ∧ artifact.outcome = .pass := by
    intro artifact hmem
    have hgood := fun hbad => hhuman (List.any_eq_true.mpr ⟨artifact, hmem, hbad⟩)
    simpa [and_assoc] using hgood
  have hblockers : evidenceBlockers (run.grown evidence) = [] :=
    evidenceBlockers_grown (hvalid.verified (by simp [hwaiting])) hbindable
      fun artifact hmem => (hhuman artifact hmem).2.2
  have hnew : Recorded (run.grown evidence) acceptance := by
    have hids := not_not.mp hids
    refine ⟨not_not.mp hrequired, not_not.mp hcommit, ?_,
      namesEvidence_grown hbindable hhuman hids.1⟩
    intro hnone
    obtain ⟨artifact, hmem⟩ := List.exists_mem_of_ne_nil _ hevidence
    have := hids.2 (List.mem_map.mpr ⟨artifact, hmem, rfl⟩)
    simp [hnone] at this
  rw [hgrown] at hdigest
  rw [RuntimeAcceptanceRun.new_ok hvalue, hgrown]
  refine ⟨?_, fun _ => hblockers, ?_, ?_, ?_, ?_⟩
  · intro hearly
    simp [hwaiting, early] at hearly
  · intro item hitem
    rcases List.mem_append.mp hitem with hold | hlast
    · exact (hvalid.recorded item hold).grown.of_eq rfl rfl rfl
    · obtain rfl := List.mem_singleton.mp hlast
      exact hnew.of_eq rfl rfl rfl
  · rw [List.map_append, List.nodup_append]
    refine ⟨hvalid.distinct, List.nodup_singleton _, ?_⟩
    rintro capabilityId hold _ hlast rfl
    rw [List.map_singleton, List.mem_singleton] at hlast
    exact hfresh (hlast ▸ hold)
  · intro item hitem
    rw [List.getLast?_concat] at hitem
    cases hitem
    exact not_not.mp hdigest
  · intro hlate
    simp [hwaiting] at hlate

/-- What a run that is accepted or completed becomes. -/
theorem Valid.close {run : RunFields} {stage : AcceptanceStage} {updatedAt : Timestamp}
    {completedAt : Option Timestamp} {digest : String} {blockers : List String}
    (hvalid : Valid D run) (hcomplete : (validateCompleteness D run).complete = true)
    (hhuman : needsHuman run.stage = true ∨ requiredHuman run = [])
    (hstage : stage = .accepted ∨ stage = .completed) (hdigest : digest = evidenceDigest D run) :
    Valid D
      { run with stage, updatedAt, completedAt, evidenceDigest := digest, blockers } := by
  obtain ⟨hblockers, haccepted, hexpected⟩ := completeness_iff.mp hcomplete
  have hlate : needsHuman stage = true := by
    rcases hstage with rfl | rfl <;> rfl
  refine ⟨?_, fun _ => hblockers, ?_, hvalid.distinct, hvalid.bound, ?_⟩
  · intro hearly
    rcases hstage with rfl | rfl <;> simp [early] at hearly
  · exact fun item hitem => (hvalid.recorded item hitem).of_eq rfl rfl rfl
  · intro _
    refine ⟨completeness_iff.mpr ⟨hblockers, ?_, hexpected⟩, hdigest⟩
    intro _ capabilityId hmem
    rcases hhuman with hneeds | hnone
    · exact haccepted hneeds capabilityId hmem
    · exact absurd (hnone ▸ hmem : capabilityId ∈ []) List.not_mem_nil

theorem acceptedRun_valid (hvalid : Valid D run.toRunFields)
    (h : acceptedRun now run = .ok decision) : Valid D decision.saved.toRunFields := by
  unfold acceptedRun at h
  simp only [Checks.guard_bind_ok_iff, Checks.bind_ok_iff] at h
  obtain ⟨_, hgates, hcomplete, digested, hdigested, value, hvalue, h⟩ := h
  cases h
  have hhuman : needsHuman run.stage = true ∨ requiredHuman run.toRunFields = [] := by
    unfold gateChecks at hgates
    split at hgates
    · rw [Checks.guard_ok_iff] at hgates
      exact .inr (not_not.mp hgates.1)
    · rename_i hwaiting
      exact .inl (by rw [hwaiting]; rfl)
    · cases hgates
  rw [(transition_ok hvalue).2, RuntimeAcceptanceRun.new_ok hdigested]
  exact hvalid.close (by simpa using hcomplete) hhuman (.inl rfl) rfl

theorem completedRun_valid (hvalid : Valid D run.toRunFields)
    (h : completedRun now run = .ok decision) : Valid D decision.saved.toRunFields := by
  unfold completedRun at h
  rw [Checks.guard_bind_ok_iff] at h
  obtain ⟨hmem, hvalue⟩ := transition_ok (advanced_ok h.2)
  have haccepted : run.stage = .accepted := by
    cases hstage : run.stage <;> simp [hstage, AcceptanceStage.transitions] at hmem ⊢
  obtain ⟨hcomplete, hdigest⟩ := hvalid.complete (.inl haccepted)
  rw [hvalue]
  refine hvalid.close hcomplete (.inl (by rw [haccepted]; rfl)) (.inr rfl) hdigest

end Decisions

/-! ## Calls -/

/-- A call of the service, with what the event publisher answers. -/
inductive Call (D : Digests) where
  | plan (published : Except Error Unit) (run : RuntimeAcceptanceRun D)
  | markImplemented (published : Except Error Unit) (productId runId : String) (now : Timestamp)
  | recordAutomatedVerification (published : Except Error Unit) (productId runId : String)
      (evidence : List EvidenceArtifact) (now : Timestamp)
  | recordRuntimeVerification (published : Except Error Unit) (productId runId : String)
      (evidence : List EvidenceArtifact) (results : List JourneyResult) (now : Timestamp)
  | requestHumanAcceptance (published : Except Error Unit) (productId runId : String)
      (now : Timestamp)
  | recordHumanAcceptance (published : Except Error Unit) (productId runId : String)
      (acceptance : HumanAcceptance) (evidence : List EvidenceArtifact)
  | accept (published : Except Error Unit) (productId runId : String) (now : Timestamp)
  | complete (published : Except Error Unit) (productId runId : String) (now : Timestamp)

variable (fnmatch : String → String → Bool)

def Call.operation : Call D → Operation D (RuntimeAcceptanceRun D)
  | .plan published run => Acceptance.plan fnmatch published run
  | .markImplemented published productId runId now =>
      Acceptance.markImplemented published productId runId now
  | .recordAutomatedVerification published productId runId evidence now =>
      Acceptance.recordAutomatedVerification published productId runId evidence now
  | .recordRuntimeVerification published productId runId evidence results now =>
      Acceptance.recordRuntimeVerification published productId runId evidence results now
  | .requestHumanAcceptance published productId runId now =>
      Acceptance.requestHumanAcceptance published productId runId now
  | .recordHumanAcceptance published productId runId acceptance evidence =>
      Acceptance.recordHumanAcceptance published productId runId acceptance evidence
  | .accept published productId runId now => Acceptance.accept published productId runId now
  | .complete published productId runId now => Acceptance.complete published productId runId now

/-- The store after a call, whether it returns or raises. -/
def Call.perform (store : Store D) (call : Call D) : Store D :=
  (exec (call.operation fnmatch) store).2

/-- Every record of the store is valid, and its names are safe. -/
def Sound (store : Store D) : Prop :=
  ∀ run ∈ store, Valid D run.toRunFields ∧ isSafe run.productId = true ∧
    isSafe run.runId = true

section Calls

variable {fnmatch} {store : Store D}

theorem operate_saves (hsound : Sound store) (published : Except Error Unit)
    (productId runId : String)
    (decide : RuntimeAcceptanceRun D → Except Error (Decision D))
    (hdecide : ∀ run decision, Valid D run.toRunFields → decide run = .ok decision →
      Valid D decision.saved.toRunFields) :
    (exec (operate published productId runId decide) store).2 = store ∨
      ∃ saved : RuntimeAcceptanceRun D, Valid D saved.toRunFields ∧
        (exec (operate published productId runId decide) store).2 = (exec (save saved) store).2 := by
  rcases exec_operate published productId runId decide store with
    ⟨error, hrefused⟩ | ⟨run, decision, hload, hdecision, hsettled⟩
  · exact .inl (by rw [hrefused])
  · have hvalid := (hsound run (Store.mem_of_load hload).1).1
    exact .inr ⟨decision.saved, hdecide run decision hvalid hdecision, by
      rw [hsettled, exec_settle_snd]⟩

theorem plan_saves (published : Except Error Unit) (run : RuntimeAcceptanceRun D) :
    (exec (plan fnmatch published run) store).2 = store ∨
      Valid D run.toRunFields ∧
        (exec (plan fnmatch published run) store).2 = (exec (save run) store).2 := by
  unfold plan
  rw [exec_bind, exec_get]
  cases hplanned : plannedRun fnmatch run store with
  | error error => exact .inl (by simp [hplanned, raised])
  | ok _ =>
    refine .inr ⟨?_, ?_⟩
    · unfold plannedRun at hplanned
      simp only [Checks.guard_bind_ok_iff] at hplanned
      obtain ⟨hstage, hempty, -⟩ := hplanned
      have hsilent : run.humanAcceptances = [] := by
        refine not_not.mp fun hsome => hempty ?_
        exact .inr (.inr (.inl hsome))
      exact .of_unverified (.inl (not_not.mp hstage)) hsilent
    · simp only [hplanned, raised, exec_bind, exec_pure]
      exact exec_settle_snd published _ store

theorem perform_saves (hsound : Sound store) (call : Call D) :
    call.perform fnmatch store = store ∨
      ∃ saved : RuntimeAcceptanceRun D, Valid D saved.toRunFields ∧
        call.perform fnmatch store = (exec (save saved) store).2 := by
  cases call with
  | plan published run => exact (plan_saves published run).imp_right fun h => ⟨run, h⟩
  | markImplemented published productId runId now =>
    exact operate_saves hsound published productId runId _ fun _ _ hvalid h =>
      hvalid.transition (advanced_ok h) (.inl rfl)
  | recordAutomatedVerification published productId runId evidence now =>
    exact operate_saves hsound published productId runId _ fun _ _ =>
      automatedVerification_valid
  | recordRuntimeVerification published productId runId evidence results now =>
    exact operate_saves hsound published productId runId _ fun _ _ => runtimeVerification_valid
  | requestHumanAcceptance published productId runId now =>
    exact operate_saves hsound published productId runId _ fun _ _ =>
      humanAcceptanceRequested_valid
  | recordHumanAcceptance published productId runId acceptance evidence =>
    exact operate_saves hsound published productId runId _ fun _ _ =>
      humanAcceptanceRecorded_valid
  | accept published productId runId now =>
    exact operate_saves hsound published productId runId _ fun _ _ => acceptedRun_valid
  | complete published productId runId now =>
    exact operate_saves hsound published productId runId _ fun _ _ => completedRun_valid

theorem Sound.perform (hsound : Sound store) (call : Call D) :
    Sound (call.perform fnmatch store) := by
  rcases perform_saves hsound call with hsame | ⟨saved, hvalid, hsaved⟩
  · rw [hsame]
    exact hsound
  · rw [hsaved]
    by_cases hadmits : Admits store saved
    · obtain ⟨store', hexec, -, hmembers⟩ := exec_save_of_admits hadmits
      rw [hexec]
      intro run hrun
      rcases hmembers run hrun with rfl | hold
      · exact ⟨hvalid, hadmits.1, hadmits.2.1⟩
      · exact hsound run hold
    · obtain ⟨error, hexec⟩ := exec_save_of_not_admits hadmits
      rw [hexec]
      exact hsound

/-- A later record of a run extends an earlier one. -/
structure Extends (old new : RunFields) : Prop where
  evidence : old.evidence <+: new.evidence
  journeyResults : old.journeyResults <+: new.journeyResults
  humanAcceptances : old.humanAcceptances <+: new.humanAcceptances

/-- The later store holds a record that extends each one of the earlier store. -/
def Grows (store store' : Store D) : Prop :=
  ∀ productId runId old, store.load productId runId = some old →
    ∃ new, store'.load productId runId = some new ∧ Extends old.toRunFields new.toRunFields

theorem Grows.refl (store : Store D) : Grows store store := by
  intro productId runId old hold
  exact ⟨old, hold, List.prefix_refl _, List.prefix_refl _, List.prefix_refl _⟩

instance : IsTrans (Store D) Grows where
  trans := by
    intro first second third h₁ h₂ productId runId old hold
    obtain ⟨middle, hmiddle, hfirst⟩ := h₁ productId runId old hold
    obtain ⟨new, hnew, hsecond⟩ := h₂ productId runId middle hmiddle
    exact ⟨new, hnew, hfirst.evidence.trans hsecond.evidence,
      hfirst.journeyResults.trans hsecond.journeyResults,
      hfirst.humanAcceptances.trans hsecond.humanAcceptances⟩

theorem grows_save (store : Store D) (saved : RuntimeAcceptanceRun D) :
    Grows store (exec (save saved) store).2 := by
  by_cases hadmits : Admits store saved
  · obtain ⟨store', hexec, hload', -⟩ := exec_save_of_admits hadmits
    rw [hexec]
    intro productId runId old hold
    rw [hload']
    by_cases hof : saved.isOf productId runId = true
    · rw [if_pos hof]
      obtain ⟨rfl, rfl⟩ := isOf_iff.mp hof
      obtain ⟨-, -, hchecks⟩ := hadmits
      rw [hold] at hchecks
      obtain ⟨-, -, -, -, hevidence, hresults, hacceptances⟩ := saveChecks_ok_iff.mp hchecks
      exact ⟨saved, rfl, hevidence, hresults, hacceptances⟩
    · rw [if_neg hof]
      exact ⟨old, hold, List.prefix_refl _, List.prefix_refl _, List.prefix_refl _⟩
  · obtain ⟨error, hexec⟩ := exec_save_of_not_admits hadmits
    rw [hexec]
    exact .refl store

theorem grows_perform (hsound : Sound store) (call : Call D) :
    Grows store (call.perform fnmatch store) := by
  rcases perform_saves hsound call with hsame | ⟨saved, -, hsaved⟩
  · rw [hsame]
    exact .refl store
  · rw [hsaved]
    exact grows_save store saved

end Calls

end Acceptance
end Ascos
