import Ascos.Acceptance.Soundness

/-!
# Accepting a run

When a run that has passed its runtime verification, and whose human gates have all answered
ACCEPT, can be accepted.

Main results:

- Theorem `accept_ok_iff`: exactly when it can.
- Theorem `runtime_acceptance`: what holds of every stored run, and when a run can be
  accepted, after any calls.
- Theorem `second_gate_blocks`: with two human gates, the second one undoes the first.
-/

namespace Ascos
namespace Acceptance

open Library Library.Program
open Ascos.Runtime (Timestamp)

variable {D : Digests}

/-! ## The constructor lets an accepted run through -/

section Constructor

variable {fields : RunFields}

theorem digestChecks_ok_iff :
    (if fields.evidenceDigest ≠ "" then do
        digest fields.evidenceDigest
        if fields.evidenceDigest ≠ evidenceDigest D fields then
          throw (.value "Stored runtime evidence digest does not match the run")
      else pure () : Except Error Unit) = .ok () ↔
      (fields.evidenceDigest ≠ "" →
        isDigest fields.evidenceDigest = true ∧
          fields.evidenceDigest = evidenceDigest D fields) := by
  by_cases hempty : fields.evidenceDigest ≠ ""
  · rw [if_pos hempty]
    unfold digest
    simp only [Checks.bind_ok_iff, Checks.guard_ok_iff, Checks.pure_ok_iff]
    simp [hempty]
  · rw [if_neg hempty]
    exact iff_of_true rfl fun h => absurd h hempty

theorem timeChecks_ok_iff :
    fields.timeChecks = .ok () ↔
      fields.createdAt ≤ fields.updatedAt ∧
        (fields.stage = .completed → fields.completedAt = some fields.updatedAt) ∧
        (fields.stage ≠ .completed → fields.completedAt = none) := by
  unfold RunFields.timeChecks
  rw [Checks.guard_bind_ok_iff, Int.not_lt]
  refine and_congr_right fun _ => ?_
  by_cases hcompleted : fields.stage = .completed
  · rw [if_pos hcompleted, Checks.guard_ok_iff]
    cases htime : fields.completedAt <;> simp [hcompleted, Checks.pure_ok_iff]
  · rw [if_neg hcompleted, Checks.guard_ok_iff]
    simp [hcompleted, Checks.pure_ok_iff]

theorem postInit_ok_iff :
    fields.postInit D = .ok () ↔
      text fields.runId "run ID" = .ok () ∧ text fields.productId "product ID" = .ok () ∧
        text fields.version "acceptance version" = .ok () ∧ sha fields.commitSha = .ok () ∧
        fields.timeChecks = .ok () ∧ fields.contentChecks D = .ok () ∧
        (fields.evidenceDigest ≠ "" → isDigest fields.evidenceDigest = true ∧
          fields.evidenceDigest = evidenceDigest D fields) := by
  unfold RunFields.postInit
  simp only [Checks.check_ok_iff, digestChecks_ok_iff]

theorem isHex_toLower {character : Char} (h : isHex character = true) :
    isHex character.toLower = true := by
  have hall : (['0', '1', '2', '3', '4', '5', '6', '7', '8', '9', 'a', 'b', 'c', 'd', 'e',
      'f'].all fun hex => isHex hex.toLower) = true := by decide
  refine List.all_eq_true.mp hall character ?_
  simpa [isHex] using h

theorem isDigest_of_isHexDigest {value : String} (h : isHexDigest value = true) :
    isDigest value = true := by
  obtain ⟨hlength, hhex⟩ : value.toList.length = 64 ∧ value.toList.all isHex = true := by
    simpa [isHexDigest, ← String.length_toList] using h
  have hbare : "sha256:".toList.isPrefixOf? value.toList = none := by
    cases hchars : value.toList with
    | nil => rfl
    | cons first rest =>
        rw [hchars, List.all_cons, Bool.and_eq_true] at hhex
        have hfirst : ('s' == first) = false := by
          refine Bool.eq_false_iff.mpr fun hs => ?_
          rw [← beq_iff_eq.mp hs] at hhex
          exact absurd hhex.1 (by decide)
        change (if ('s' == first) = true then _ else _) = _
        rw [if_neg (by simp [hfirst])]
  unfold isDigest
  rw [hbare, Option.getD_none, Bool.and_eq_true]
  refine ⟨by simpa using hlength, ?_⟩
  rw [List.all_eq_true] at hhex ⊢
  exact fun character hmem => isHex_toLower (hhex character hmem)

/-- A run may take the digest of its evidence, and another stage at a later time. -/
theorem postInit_close (run : RuntimeAcceptanceRun D) {stage : AcceptanceStage}
    {updatedAt : Timestamp} {completedAt : Option Timestamp} (blockers : List String)
    (htime : ({ run.toRunFields with stage, updatedAt, completedAt } : RunFields).timeChecks =
      .ok ()) :
    ({ run.toRunFields with
        stage, updatedAt, completedAt, blockers,
        evidenceDigest := evidenceDigest D run.toRunFields } : RunFields).postInit D = .ok () := by
  obtain ⟨hrun, hproduct, hversion, hsha, -, hcontent, -⟩ := postInit_ok_iff.mp run.checked
  refine postInit_ok_iff.mpr ⟨hrun, hproduct, hversion, hsha, htime, hcontent, fun _ => ?_⟩
  exact ⟨isDigest_of_isHexDigest (D.evidence_hex _), rfl⟩

end Constructor

/-! ## Deciding to accept -/

section Gates

variable {run : RuntimeAcceptanceRun D} {now : Timestamp}

/-- The run waits for nothing but its acceptance: no human gate is asked for, or each of them
has recorded an ACCEPT. -/
def Ready (run : RuntimeAcceptanceRun D) : Prop :=
  (run.stage = .runtimeVerified ∧ requiredHuman run.toRunFields = []) ∨
    (run.stage = .humanAcceptanceRequired ∧
      ∀ capabilityId ∈ requiredHuman run.toRunFields, ∃ item ∈ run.humanAcceptances,
        item.capabilityId = capabilityId ∧ item.decision = "ACCEPT")

/-- Every recorded acceptance is bound to the evidence as it is now. -/
def Current (run : RuntimeAcceptanceRun D) : Prop :=
  ∀ item ∈ run.humanAcceptances, item.evidenceDigest = evidenceDigest D run.toRunFields

theorem Valid.eq_of_capability (hvalid : Valid D run.toRunFields) {first second : HumanAcceptance}
    (hfirst : first ∈ run.humanAcceptances) (hsecond : second ∈ run.humanAcceptances)
    (hsame : first.capabilityId = second.capabilityId) : first = second :=
  List.inj_on_of_nodup_map hvalid.distinct hfirst hsecond hsame

theorem decision?_eq (hvalid : Valid D run.toRunFields) {item : HumanAcceptance}
    (hitem : item ∈ run.humanAcceptances) :
    decision? run.toRunFields item.capabilityId = some item.decision := by
  unfold decision?
  have hfound : (run.humanAcceptances.reverse.find?
      (·.capabilityId = item.capabilityId)).isSome = true := by
    rw [List.find?_isSome]
    exact ⟨item, List.mem_reverse.mpr hitem, by simp⟩
  obtain ⟨found, hsome⟩ := Option.isSome_iff_exists.mp hfound
  have hcapability : found.capabilityId = item.capabilityId := by
    simpa using List.find?_some hsome
  have hmem := List.mem_reverse.mp (List.mem_of_find?_eq_some hsome)
  rw [hsome, hvalid.eq_of_capability hmem hitem hcapability]
  rfl

/-- Every acceptance of a run whose gates have all answered ACCEPT is an ACCEPT. -/
theorem Ready.decision (hready : Ready run) (hvalid : Valid D run.toRunFields)
    {item : HumanAcceptance} (hitem : item ∈ run.humanAcceptances) :
    item.decision = "ACCEPT" := by
  rcases hready with ⟨hstage, -⟩ | ⟨-, hgates⟩
  · have hsilent := hvalid.silent (by simp [hstage, early])
    simp [hsilent] at hitem
  · obtain ⟨other, hother, hcapability, hdecision⟩ :=
      hgates item.capabilityId (hvalid.recorded item hitem).required
    rwa [hvalid.eq_of_capability hother hitem hcapability] at hdecision

theorem Ready.gateChecks (hready : Ready run) (hvalid : Valid D run.toRunFields) :
    gateChecks run = .ok () := by
  unfold Acceptance.gateChecks
  rcases hready with ⟨hstage, hnone⟩ | ⟨hstage, hgates⟩
  · rw [hstage]
    exact Checks.guard_ok_iff.mpr ⟨not_not.mpr hnone, rfl⟩
  · rw [hstage]
    refine Checks.guard_ok_iff.mpr ⟨not_not.mpr fun capabilityId hmem => ?_, rfl⟩
    obtain ⟨item, hitem, rfl, hdecision⟩ := hgates capabilityId hmem
    rw [decision?_eq hvalid hitem, hdecision]

theorem isAccepted_iff {item : HumanAcceptance} (hrecorded : Recorded run.toRunFields item)
    (hdecision : item.decision = "ACCEPT") :
    isAccepted D run.toRunFields item = true ↔
      item.evidenceDigest = evidenceDigest D run.toRunFields := by
  have hnames := hrecorded.evidence
  unfold namesEvidence at hnames
  unfold isAccepted
  rw [hnames, hdecision, hrecorded.commit]
  simp [hrecorded.nonempty]

theorem Ready.completeness_iff (hready : Ready run) (hvalid : Valid D run.toRunFields) :
    (validateCompleteness D run.toRunFields).complete = true ↔ Current run := by
  rw [Acceptance.completeness_iff]
  have hverified : evidenceBlockers run.toRunFields = [] := by
    refine hvalid.verified ?_
    rcases hready with ⟨hstage, -⟩ | ⟨hstage, -⟩ <;> simp [hstage]
  have hexpected : ∀ item ∈ run.humanAcceptances,
      item.capabilityId ∈ requiredHuman run.toRunFields :=
    fun item hitem => (hvalid.recorded item hitem).required
  constructor
  · rintro ⟨-, haccepted, -⟩ item hitem
    have hneeds : needsHuman run.stage = true := by
      rcases hready with ⟨hstage, -⟩ | ⟨hstage, -⟩
      · have hsilent := hvalid.silent (by simp [hstage, early])
        simp [hsilent] at hitem
      · rw [hstage]
        rfl
    have hmem := haccepted hneeds item.capabilityId (hexpected item hitem)
    obtain ⟨other, hother, hcapability⟩ := List.mem_map.mp hmem
    obtain ⟨hother, hisAccepted⟩ := List.mem_filter.mp hother
    rw [hvalid.eq_of_capability hother hitem hcapability] at hisAccepted
    exact (isAccepted_iff (hvalid.recorded item hitem) (hready.decision hvalid hitem)).mp
      hisAccepted
  · intro hcurrent
    refine ⟨hverified, fun hneeds capabilityId hmem => ?_, hexpected⟩
    rcases id hready with ⟨hstage, -⟩ | ⟨-, hgates⟩
    · rw [hstage] at hneeds
      cases hneeds
    · obtain ⟨item, hitem, rfl, hdecision⟩ := hgates capabilityId hmem
      refine List.mem_map.mpr ⟨item, List.mem_filter.mpr ⟨hitem, ?_⟩, rfl⟩
      exact (isAccepted_iff (hvalid.recorded item hitem) hdecision).mpr (hcurrent item hitem)

theorem RuntimeAcceptanceRun.new_eq {fields : RunFields} (h : fields.postInit D = .ok ()) :
    RuntimeAcceptanceRun.new D fields = .ok ⟨fields, h⟩ := by
  unfold RuntimeAcceptanceRun.new
  split
  · rfl
  · rename_i herror
    rw [h] at herror
    cases herror

theorem RuntimeAcceptanceRun.new_of_eq {fields : RunFields} (value : RuntimeAcceptanceRun D)
    (h : value.toRunFields = fields) : RuntimeAcceptanceRun.new D fields = .ok value := by
  subst h
  exact RuntimeAcceptanceRun.new_eq value.checked

def RunFields.accepted (D : Digests) (run : RunFields) (now : Timestamp) : RunFields :=
  { run with
    stage := .accepted, updatedAt := now, completedAt := none,
    evidenceDigest := Acceptance.evidenceDigest D run, blockers := [] }

theorem acceptedRun_ok_iff (hready : Ready run) (hvalid : Valid D run.toRunFields)
    {decision : Decision D} :
    acceptedRun now run = .ok decision ↔
      Current run ∧ run.createdAt ≤ now ∧
        ∃ value : RuntimeAcceptanceRun D, decision = { saved := value } ∧
          value.toRunFields = run.accepted D now := by
  have hopen : run.stage ≠ .completed ∧ AcceptanceStage.accepted ∈ run.stage.transitions := by
    rcases hready with ⟨hstage, -⟩ | ⟨hstage, -⟩ <;>
      simp [hstage, AcceptanceStage.transitions]
  obtain ⟨-, -, -, -, htimes, -⟩ := postInit_ok_iff.mp run.checked
  have hnever : run.completedAt = none := (timeChecks_ok_iff.mp htimes).2.2 hopen.1
  have hdigested := postInit_close run [] htimes
  unfold acceptedRun
  simp only [Checks.guard_bind_ok_iff, Checks.bind_ok_iff]
  constructor
  · rintro ⟨_, -, hcomplete, digested, hnew, value, hvalue, hdecision⟩
    have hcurrent := (hready.completeness_iff hvalid).mp (by simpa using hcomplete)
    have hfields := (transition_ok hvalue).2
    rw [RuntimeAcceptanceRun.new_ok hnew] at hfields
    have hlate := (timeChecks_ok_iff.mp (postInit_ok_iff.mp value.checked).2.2.2.2.1).1
    rw [hfields] at hlate
    refine ⟨hcurrent, hlate, value, ?_, ?_⟩
    · exact (Checks.pure_ok_iff.mp hdecision).symm
    · rw [hfields]
      unfold RunFields.accepted
      rw [← hnever]
      rfl
  · rintro ⟨hcurrent, hlate, value, rfl, hvalue⟩
    refine ⟨(), hready.gateChecks hvalid, ?_, ⟨_, hdigested⟩,
      RuntimeAcceptanceRun.new_eq hdigested, value, ?_, rfl⟩
    · simpa using (hready.completeness_iff hvalid).mpr hcurrent
    · unfold transition
      rw [if_pos hopen.2]
      refine RuntimeAcceptanceRun.new_of_eq value (hvalue.trans ?_)
      unfold RunFields.accepted
      rw [← hnever]
      rfl

theorem accepted_postInit (run : RuntimeAcceptanceRun D) (hlate : run.createdAt ≤ now) :
    (run.accepted D now).postInit D = .ok () := by
  refine postInit_close run [] (timeChecks_ok_iff.mpr ⟨hlate, ?_, fun _ => rfl⟩)
  intro hcompleted
  cases hcompleted

theorem admits_accepted_iff {store : Store D} {value : RuntimeAcceptanceRun D}
    (hsafe : isSafe run.productId = true ∧ isSafe run.runId = true)
    (hload : store.load run.productId run.runId = some run) (hready : Ready run)
    (hvalue : value.toRunFields = run.accepted D now) :
    Admits store value ↔ run.updatedAt ≤ now := by
  have hnames : value.productId = run.productId ∧ value.runId = run.runId := by
    rw [hvalue]
    exact ⟨rfl, rfl⟩
  have hopen : run.stage ≠ .completed ∧ AcceptanceStage.accepted ∈ run.stage.transitions := by
    rcases hready with ⟨hstage, -⟩ | ⟨hstage, -⟩ <;>
      simp [hstage, AcceptanceStage.transitions]
  unfold Admits
  rw [hnames.1, hnames.2, hload]
  dsimp only
  rw [saveChecks_ok_iff, hvalue]
  constructor
  · exact fun h => h.2.2.2.2.1
  · intro hlate
    exact ⟨hsafe.1, hsafe.2, rfl, fun hcompleted => absurd hcompleted hopen.1, hlate,
      .inr hopen.2, List.prefix_refl _, List.prefix_refl _, List.prefix_refl _⟩

theorem accept_ok_iff {store : Store D} (hsound : Sound store) {productId runId : String}
    (hload : store.load productId runId = some run) (hready : Ready run)
    (published : Except Error Unit) (now : Timestamp) :
    (∃ value, (exec (accept published productId runId now) store).1 = .ok value) ↔
      published = .ok () ∧ run.updatedAt ≤ now ∧ Current run := by
  obtain ⟨hmem, rfl, rfl⟩ := Store.mem_of_load hload
  obtain ⟨hvalid, hsafe⟩ := hsound run hmem
  have hborn := (timeChecks_ok_iff.mp (postInit_ok_iff.mp run.checked).2.2.2.2.1).1
  unfold accept
  rw [exec_operate_of_load published hsafe.1 hsafe.2 hload]
  constructor
  · rintro ⟨value, h⟩
    cases hdecision : acceptedRun now run with
    | error error =>
        rw [hdecision] at h
        cases h
    | ok decision =>
        rw [hdecision] at h
        obtain ⟨hcurrent, -, saved, rfl, hsaved⟩ :=
          (acceptedRun_ok_iff hready hvalid).mp hdecision
        obtain ⟨hpublished, hadmits⟩ := (exec_settle_ok_iff published saved store).mp ⟨value, h⟩
        exact ⟨hpublished, (admits_accepted_iff hsafe hload hready hsaved).mp hadmits, hcurrent⟩
  · rintro ⟨hpublished, hlate, hcurrent⟩
    have hchecked := accepted_postInit run (Int.le_trans hborn hlate)
    let saved : RuntimeAcceptanceRun D := ⟨run.accepted D now, hchecked⟩
    have hdecision : acceptedRun now run = .ok { saved := saved } :=
      (acceptedRun_ok_iff hready hvalid).mpr
        ⟨hcurrent, Int.le_trans hborn hlate, saved, rfl, rfl⟩
    rw [hdecision]
    exact (exec_settle_ok_iff published saved store).mpr
      ⟨hpublished, (admits_accepted_iff hsafe hload hready rfl).mpr hlate⟩

theorem current_of_one_gate (hvalid : Valid D run.toRunFields)
    (hone : (requiredHuman run.toRunFields).length ≤ 1) : Current run := by
  intro item hitem
  -- the last acceptance is current, and there is no other one
  obtain ⟨last, hlast⟩ := Option.isSome_iff_exists.mp
    (List.getLast?_isSome.mpr (List.ne_nil_of_mem hitem))
  have hbound := hvalid.bound last hlast
  have hrequired := (hvalid.recorded item hitem).required
  have hrequired' := (hvalid.recorded last (List.mem_of_getLast? hlast)).required
  have hsame : item.capabilityId = last.capabilityId := by
    match hgates : requiredHuman run.toRunFields with
    | [] => simp [hgates] at hrequired
    | [gate] =>
        rw [hgates, List.mem_singleton] at hrequired hrequired'
        exact hrequired.trans hrequired'.symm
    | _ :: _ :: _ => simp [hgates] at hone
  rw [hvalid.eq_of_capability hitem (List.mem_of_getLast? hlast) hsame]
  exact hbound

end Gates

/-! ## Every run of the service -/

theorem sound_empty : Sound ([] : Store D) := by
  intro run hrun
  cases hrun

/-- Every stored run that is accepted or completed is complete, digested and free of failed
evidence, later records extend earlier ones, and a run whose gates have all answered ACCEPT
can be accepted exactly when every acceptance is bound to the evidence as it is now. -/
theorem runtime_acceptance (D : Digests) (fnmatch : String → String → Bool)
    (calls : List (Call D)) :
    Forward (Call.perform fnmatch) Grows [] calls ∧
      ∀ store ∈ calls.scanl (Call.perform fnmatch) [],
        (∀ run ∈ store, run.stage = .accepted ∨ run.stage = .completed →
          (validateCompleteness D run.toRunFields).complete = true ∧
            run.evidenceDigest = evidenceDigest D run.toRunFields ∧
            ∀ item ∈ run.evidence, item.outcome ≠ .fail) ∧
        ∀ productId runId run, store.load productId runId = some run → Ready run →
          (∀ published now,
            (∃ value, (exec (accept published productId runId now) store).1 = .ok value) ↔
              published = .ok () ∧ run.updatedAt ≤ now ∧ Current run) ∧
          ((requiredHuman run.toRunFields).length ≤ 1 → Current run) := by
  have hperform : ∀ (store : Store D) (call : Call D), Sound store →
      Sound (call.perform fnmatch store) := fun _ call hsound => hsound.perform call
  refine ⟨forward_of_step Sound (fun _ call hsound => grows_perform hsound call) hperform calls
    [] sound_empty, ?_⟩
  intro store hstore
  have hsound := inv_of_mem_scanl Sound hperform calls [] sound_empty store hstore
  constructor
  · intro run hrun hlate
    obtain ⟨hcomplete, hdigest⟩ := (hsound run hrun).1.complete hlate
    refine ⟨hcomplete, hdigest, fun item hitem hfail => ?_⟩
    have hblockers := (completeness_iff.mp hcomplete).1
    unfold evidenceBlockers at hblockers
    simp only [List.append_eq_nil_iff] at hblockers
    have hartifact := List.flatMap_eq_nil_iff.mp hblockers.1.1.1.2 item hitem
    unfold artifactBlockers at hartifact
    simp [hfail] at hartifact
  · intro productId runId run hload hready
    exact ⟨accept_ok_iff hsound hload hready,
      current_of_one_gate (hsound run (Store.mem_of_load hload).1).1⟩

/-! ## Two human gates -/

/-- Digests that tell apart up to 64 pieces of evidence. -/
def countingDigests : Digests where
  contract _ := ""
  profile _ := ""
  evidence payload :=
    let count := min payload.evidence.length 64
    String.ofList (List.replicate count '1' ++ List.replicate (64 - count) '0')
  evidence_hex payload := by
    have hcount : min payload.evidence.length 64 ≤ 64 := Nat.min_le_right _ _
    simp [isHexDigest, isHex, hcount]

def exampleSha : String :=
  "aaaaaaaaaaaaaaaaaaaaaaaaaaaaaaaaaaaaaaaa"

/-- Two locked capabilities that ask for a human, with a journey each. -/
def twoGates : RuntimeAcceptanceRun countingDigests where
  runId := "run"
  productId := "product"
  version := "1.0"
  commitSha := exampleSha
  stage := .planned
  capabilities := [⟨"A", "1", "A", ["a"], [], true, false, true⟩,
    ⟨"B", "1", "B", ["b"], [], true, false, true⟩]
  journeys := [⟨"a", "A", "a", [.readiness], false⟩, ⟨"b", "B", "b", [.readiness], false⟩]
  createdAt := 0
  updatedAt := 0
  checked := by decide +kernel

def passed (evidenceId capabilityId journeyId : String) (kind : EvidenceKind) :
    EvidenceArtifact :=
  ⟨evidenceId, "run", capabilityId, journeyId, kind, .pass, exampleSha, "artifact", "", 0,
    "passed", []⟩

def acceptance (capabilityId evidenceDigest evidenceId : String) : HumanAcceptance :=
  ⟨capabilityId, "founder", "ACCEPT", "reviewed", exampleSha, evidenceDigest, 0, [evidenceId]⟩

/-- The digest of so many pieces of evidence. -/
def countDigest (count : Nat) : String :=
  String.ofList (List.replicate count '1' ++ List.replicate (64 - count) '0')

/-- The run passes its verifications, and both human gates answer ACCEPT. -/
def twoGatesCalls : List (Call countingDigests) :=
  [.plan (.ok ()) twoGates,
    .markImplemented (.ok ()) "product" "run" 0,
    .recordAutomatedVerification (.ok ()) "product" "run"
      [passed "e1" "A" "a" .code, passed "e2" "A" "a" .automatedTest] 0,
    .recordRuntimeVerification (.ok ()) "product" "run"
      [passed "e3" "A" "a" .serviceStartup, passed "e4" "A" "a" .migration,
        passed "e5" "A" "a" .readiness, passed "e6" "B" "b" .readiness]
      [⟨"a", .pass, ["e5"], 0⟩, ⟨"b", .pass, ["e6"], 0⟩] 0,
    .requestHumanAcceptance (.ok ()) "product" "run" 0,
    .recordHumanAcceptance (.ok ()) "product" "run" (acceptance "A" (countDigest 7) "e7")
      [passed "e7" "A" "a" .humanUx],
    .recordHumanAcceptance (.ok ()) "product" "run" (acceptance "B" (countDigest 8) "e8")
      [passed "e8" "B" "b" .humanUx]]

/-- After the second human gate has answered, the acceptance of the first one is stale, so that
the run cannot be accepted. -/
theorem second_gate_blocks :
    ¬∀ (D : Digests) (fnmatch : String → String → Bool) (calls : List (Call D))
      (store : Store D) (productId runId : String) (run : RuntimeAcceptanceRun D)
      (now : Timestamp),
      store ∈ calls.scanl (Call.perform fnmatch) [] →
      store.load productId runId = some run → Ready run → run.updatedAt ≤ now →
      ∃ value, (exec (accept (.ok ()) productId runId now) store).1 = .ok value := by
  intro hall
  let store := twoGatesCalls.foldl (Call.perform (· == ·)) []
  have hwaiting : (store.load "product" "run").any (fun run => decide
      ((run.stage = .humanAcceptanceRequired ∧
        ∀ capabilityId ∈ requiredHuman run.toRunFields, ∃ item ∈ run.humanAcceptances,
          item.capabilityId = capabilityId ∧ item.decision = "ACCEPT") ∧
        run.updatedAt = 0 ∧ ∃ item ∈ run.humanAcceptances,
          item.evidenceDigest ≠ evidenceDigest countingDigests run.toRunFields)) = true := by
    decide +kernel
  obtain ⟨run, hload, hgates⟩ := (Option.any_eq_true _ _).mp hwaiting
  obtain ⟨hwaits, htime, item, hitem, hstale⟩ := of_decide_eq_true hgates
  have hmem : store ∈ twoGatesCalls.scanl (Call.perform (· == ·)) [] :=
    foldl_mem_scanl _ twoGatesCalls []
  have hsound : Sound store := inv_of_mem_scanl Sound (fun _ call hsound => hsound.perform call)
    twoGatesCalls [] sound_empty store hmem
  have haccepted := hall countingDigests (· == ·) twoGatesCalls store "product" "run" run 0 hmem
    hload (.inr hwaits) (Int.le_of_eq htime)
  obtain ⟨-, -, hcurrent⟩ := (accept_ok_iff hsound hload (.inr hwaits) (.ok ()) 0).mp haccepted
  exact hstale (hcurrent item hitem)

end Acceptance
end Ascos
