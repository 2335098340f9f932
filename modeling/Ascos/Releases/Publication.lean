import Ascos.Releases.Records

/-!
# What is published was approved

A client holds the releases that calls returned and that it loaded, and may replace the
evidence of one between two calls.  What publication checks of a release is the runtime
acceptance of its locked capabilities, and that it has an approval and notes; that the approval
and the notes are about the evidence that is published is left to the client.

Main results:

- Theorem `covered_of_required`: what the readiness check says of a release.
- Theorem `published_as_approved`: every published release was approved and is covered;
  when the client leaves approved and described evidence alone, the approval and the notes are
  about what is published.
- Theorem `edit_after_approval`: evidence can be replaced after its approval.
-/

namespace Ascos
namespace Releases

open Library Library.Program
open Ascos.Acceptance (Digests RuntimeAcceptanceRun)
open Ascos.Runtime (Timestamp)

variable {D : Digests} {setting : Setting}

/-! ## Readiness -/

/-- Every locked capability is one of a completed acceptance run with valid evidence, of one of
the products of the release, at the commit of its last candidate. -/
def Covered (setting : Setting) (runs : Option (Acceptance.Store D)) (release : ReleaseFields) :
    Prop :=
  ∀ capabilityId ∈ release.lockedCapabilityIds, ∃ store run,
    runs = some store ∧
      (∃ runId ∈ release.runtimeAcceptanceRunIds, findRun setting store runId = .ok (some run)) ∧
      run.productId ∈ release.productIds ∧ release.candidateSha = some run.commitSha ∧
      run.stage = .completed ∧ hasValidEvidence run = true ∧
      ∃ capability ∈ run.capabilities,
        capability.locked = true ∧ capability.capabilityId = capabilityId

section Readiness

variable {release : ReleaseFields}

theorem readinessReport_ready_iff {blockers accepted : List String} :
    (readinessReport release blockers accepted).ready = true ↔
      blockers = [] ∧ ∀ capabilityId ∈ release.lockedCapabilityIds, capabilityId ∈ accepted := by
  unfold readinessReport
  rw [decide_eq_true_iff, Acceptance.sortedSet_eq_nil_iff, List.append_eq_nil_iff,
    Acceptance.flatMap_report_eq_nil_iff]
  simp

theorem runBlockers_eq_nil {runId : String} {found : Option (RuntimeAcceptanceRun D)}
    (h : runBlockers release runId found = []) :
    ∃ run, found = some run ∧ run.productId ∈ release.productIds ∧
      release.candidateSha = some run.commitSha ∧ run.stage = .completed := by
  cases found with
  | none => simp [runBlockers] at h
  | some run =>
    simp only [runBlockers, List.append_eq_nil_iff, ite_eq_right_iff, List.cons_ne_nil,
      imp_false, not_not] at h
    obtain ⟨⟨⟨hproduct, hcommit⟩, hstage⟩, -⟩ := h
    exact ⟨run, rfl, hproduct, hcommit, hstage⟩

theorem mem_acceptedBy {run : RuntimeAcceptanceRun D} {capabilityId : String}
    (h : capabilityId ∈ acceptedBy (some run)) :
    hasValidEvidence run = true ∧ ∃ capability ∈ run.capabilities,
      capability.locked = true ∧ capability.capabilityId = capabilityId := by
  simp only [acceptedBy] at h
  by_cases hvalid : hasValidEvidence run = true
  · rw [if_pos hvalid] at h
    obtain ⟨capability, hcapability, rfl⟩ := List.mem_map.mp h
    obtain ⟨hmem, hlocked⟩ := List.mem_filter.mp hcapability
    exact ⟨hvalid, capability, hmem, hlocked, rfl⟩
  · rw [if_neg hvalid] at h
    cases h

theorem covered_of_required {runs : Option (Acceptance.Store D)}
    (h : requireRuntimeAcceptance setting runs release = .ok ()) :
    Covered setting runs release := by
  unfold requireRuntimeAcceptance at h
  simp only [Checks.bind_ok_iff, Checks.guard_ok_iff] at h
  obtain ⟨report, hreport, hready, -⟩ := h
  rw [Bool.not_eq_false] at hready
  intro capabilityId hcapability
  unfold readiness at hreport
  rw [if_neg (List.ne_nil_of_mem hcapability)] at hreport
  cases runs with
  | none =>
    rw [Checks.pure_ok_iff] at hreport
    subst hreport
    have hblockers := (readinessReport_ready_iff.mp hready).1
    cases hblockers
  | some store =>
    simp only [Checks.bind_ok_iff, Checks.pure_ok_iff] at hreport
    obtain ⟨found, hfound, rfl⟩ := hreport
    obtain ⟨hblockers, haccepted⟩ := readinessReport_ready_iff.mp hready
    -- The capability was accepted by one of the runs that were found, and none has blockers.
    obtain ⟨item, hitem, haccepts⟩ := List.mem_flatMap.mp (haccepted capabilityId hcapability)
    have hclear := List.flatMap_eq_nil_iff.mp hblockers item hitem
    obtain ⟨run, hrun, hproduct, hcommit, hstage⟩ := runBlockers_eq_nil hclear
    rw [hrun] at haccepts
    obtain ⟨hvalid, hlocked⟩ := mem_acceptedBy haccepts
    obtain ⟨runId, hrunId, hpair⟩ := Checks.exists_of_mem_mapM_ok hfound item hitem
    simp only [Checks.bind_ok_iff, Checks.pure_ok_iff] at hpair
    obtain ⟨answer, hanswer, rfl⟩ := hpair
    subst hrun
    exact ⟨store, run, rfl, ⟨runId, hrunId, hanswer⟩, hproduct, hcommit, hstage, hvalid,
      hlocked⟩

end Readiness

/-! ## Clients -/

abbrev SelfApproval := String × ReleaseApproval

/-- The files, the releases that clients hold, and the self-approvals so far. -/
structure World where
  files : Files
  known : List Release
  selfApproved : List SelfApproval

def Request.selfApproved (releaseId : String) : Request D → List SelfApproval
  | .approve _ approval _ true => [(releaseId, approval)]
  | _ => []

def Call.selfApproved (setting : Setting) (files : Files) (call : Call D) : List SelfApproval :=
  match call.request.value setting files call.release with
  | .ok _ => call.request.selfApproved call.release.releaseId
  | .error _ => []

/-- The release that a call hands back, unless it raises. -/
def Call.returned (setting : Setting) (files : Files) (call : Call D) : Option Release :=
  (exec (call.operation setting) files).1.toOption

def World.take (setting : Setting) (world : World) (call : Call D) : World where
  files := call.perform setting world.files
  known := (call.returned setting world.files).toList ++ world.known
  selfApproved := call.selfApproved setting world.files ++ world.selfApproved

def Call.Creates (call : Call D) : Prop :=
  ∃ registered, call.request = .create registered

/-- What a client does not replace in a release: all but its evidence. -/
def Release.unedited (release : Release) : ReleaseFields :=
  { release.toReleaseFields with
    requirementIds := []
    milestoneIds := []
    commitShas := []
    pullRequestUrls := []
    decisionIds := []
    lockedCapabilityIds := []
    runtimeAcceptanceRunIds := []
    artifacts := [] }

/-- The worlds of the runs whose calls are given new releases, or releases that a client holds:
handed back by a call, loaded, or another one with its evidence replaced.  The parameters say
which releases may be created and which replacements are made. -/
inductive Reachable (D : Digests) (setting : Setting) (mayCreate : Release → Prop)
    (mayEdit : Release → Release → Prop) : World → Prop
  | start : Reachable D setting mayCreate mayEdit ⟨.empty, [], []⟩
  | call {world : World} (call : Call D) (before : Reachable D setting mayCreate mayEdit world)
      (given : call.release ∈ world.known ∨ (call.Creates ∧ mayCreate call.release)) :
      Reachable D setting mayCreate mayEdit (world.take setting call)
  | load {world : World} {releaseId : String} {release : Release}
      (before : Reachable D setting mayCreate mayEdit world)
      (found : world.files.load releaseId = some release) :
      Reachable D setting mayCreate mayEdit { world with known := release :: world.known }
  | loadSnapshot {world : World} {releaseId : String} {status : ReleaseStatus}
      {release : Release} (before : Reachable D setting mayCreate mayEdit world)
      (found : world.files.snapshot releaseId status = some release) :
      Reachable D setting mayCreate mayEdit { world with known := release :: world.known }
  | edit {world : World} {release edited : Release}
      (before : Reachable D setting mayCreate mayEdit world) (held : release ∈ world.known)
      (unedited : edited.unedited = release.unedited) (allowed : mayEdit release edited) :
      Reachable D setting mayCreate mayEdit { world with known := edited :: world.known }

structure Files.All (property : Release → Prop) (files : Files) : Prop where
  snapshots : ∀ releaseId status release,
    files.snapshot releaseId status = some release → property release
  current : ∀ release ∈ files.current, property release

/-- Every release that is held or stored has a property. -/
structure World.All (property : Release → Prop) (world : World) : Prop where
  known : ∀ release ∈ world.known, property release
  stored : world.files.All property

/-- A property of releases, given the self-approvals so far, that everything keeps. -/
structure Kept (D : Digests) (setting : Setting) (mayCreate : Release → Prop)
    (mayEdit : Release → Release → Prop) (property : List SelfApproval → Release → Prop) :
    Prop where
  mono : ∀ {before after : List SelfApproval} {release : Release},
    before ⊆ after → property before release → property after release
  create : ∀ {release : Release} (approvals : List SelfApproval),
    mayCreate release → release.status = .planned → property approvals release
  edit : ∀ {approvals : List SelfApproval} {release edited : Release},
    edited.unedited = release.unedited → mayEdit release edited →
      property approvals release → property approvals edited
  value : ∀ {approvals : List SelfApproval} {files : Files} {request : Request D}
    {release value : Release}, request.value setting files release = .ok value →
      property approvals release →
        property (request.selfApproved release.releaseId ++ approvals) value

section Invariants

variable {mayCreate : Release → Prop} {mayEdit : Release → Release → Prop}
  {property : List SelfApproval → Release → Prop} {world : World}

theorem returned_value {files : Files} {call : Call D} {release : Release}
    (h : call.returned setting files = some release) :
    call.request.value setting files call.release = .ok release := by
  obtain ⟨files', hrun⟩ : ∃ files', exec (call.operation setting) files = (.ok release, files') := by
    unfold Call.returned at h
    rcases hrun : exec (call.operation setting) files with ⟨_ | result, files'⟩
    · rw [hrun] at h
      cases h
    · rw [hrun] at h
      cases h
      exact ⟨files', rfl⟩
  unfold Call.operation at hrun
  obtain ⟨before, files₁, hget, hrun⟩ := exec_bind_ok hrun
  cases hget
  obtain ⟨value, files₂, hvalue, hrun⟩ := exec_bind_ok hrun
  have hsame : value = release := by
    obtain ⟨_, files₃, -, hrun⟩ := exec_bind_ok hrun
    split at hrun
    · obtain ⟨_, files₄, -, hrun⟩ := exec_bind_ok hrun
      cases hrun
      rfl
    · cases hrun
      rfl
  subst hsame
  cases hok : call.request.value setting files call.release with
  | error error =>
    rw [hok] at hvalue
    cases hvalue
  | ok value =>
    rw [hok] at hvalue
    cases hvalue
    rfl

theorem Files.All.mono {first second : Release → Prop} {files : Files} (h : files.All first)
    (himp : ∀ release, first release → second release) : files.All second where
  snapshots releaseId status release hrelease :=
    himp release (h.snapshots releaseId status release hrelease)
  current release hrelease := himp release (h.current release hrelease)

/-- The writes of a save store one release. -/
theorem Files.All.written {holds : Release → Prop} {files : Files} {value : Release}
    (h : files.All holds) (hvalue : holds value) (crashes : Bool) :
    (files.written crashes value).All holds := by
  have hsnapshots : ∀ releaseId status release,
      (files.writeSnapshot value).snapshot releaseId status = some release → holds release := by
    intro releaseId status release hrelease
    by_cases hsame : releaseId = value.releaseId ∧ status = value.status
    · simp only [Files.writeSnapshot, if_pos hsame] at hrelease
      cases hrelease
      exact hvalue
    · simp only [Files.writeSnapshot, if_neg hsame] at hrelease
      exact h.snapshots releaseId status release hrelease
  unfold Files.written
  cases crashes with
  | true => exact ⟨hsnapshots, h.current⟩
  | false =>
    refine ⟨hsnapshots, fun release hrelease => ?_⟩
    rcases List.mem_cons.mp hrelease with rfl | hrest
    · exact hvalue
    · exact h.current release (List.mem_of_mem_filter hrest)

/-- Whatever holds of the value of a call holds of everything that it hands back or stores. -/
theorem all_take (hkept : Kept D setting mayCreate mayEdit property) (call : Call D)
    (hworld : world.All (property world.selfApproved))
    (hvalue : ∀ value, call.request.value setting world.files call.release = .ok value →
      property (call.request.selfApproved call.release.releaseId ++ world.selfApproved) value) :
    (world.take setting call).All (property (world.take setting call).selfApproved) := by
  have hbefore : ∀ release, property world.selfApproved release →
      property (world.take setting call).selfApproved release :=
    fun release h => hkept.mono (List.subset_append_right _ _) h
  have hafter : ∀ value, call.request.value setting world.files call.release = .ok value →
      property (world.take setting call).selfApproved value := by
    intro value hok
    simp only [World.take, Call.selfApproved, hok]
    exact hvalue value hok
  constructor
  · intro release hrelease
    rcases List.mem_append.mp hrelease with hreturned | hheld
    · exact hafter release (returned_value (Option.mem_toList.mp hreturned))
    · exact hbefore release (hworld.known release hheld)
  · have hstored := hworld.stored.mono hbefore
    change (call.perform setting world.files).All _
    rcases perform_cases setting world.files call with ⟨value, hok, -, hwritten⟩ | ⟨hsame, -⟩
    · rw [hwritten]
      exact hstored.written (hafter value hok) call.crashes
    · rw [hsame]
      exact hstored

/-- What everything keeps holds of every release that is held or stored.  The induction is on
the run. -/
theorem Reachable.all (hkept : Kept D setting mayCreate mayEdit property)
    (h : Reachable D setting mayCreate mayEdit world) :
    world.All (property world.selfApproved) := by
  induction h with
  | start => exact ⟨by simp, by simp [Files.empty], by simp [Files.empty]⟩
  | call call before given ih =>
    refine all_take hkept call ih fun value hvalue => ?_
    rcases given with hheld | ⟨⟨registered, hrequest⟩, hmay⟩
    · exact hkept.value hvalue (ih.known _ hheld)
    · rw [hrequest] at hvalue
      obtain ⟨rfl, hplanned, -⟩ := created_ok hvalue
      exact hkept.create _ hmay hplanned
  | load before found ih =>
    have hloaded := ih.stored.current _ (List.mem_of_find?_eq_some found)
    exact ⟨List.forall_mem_cons.mpr ⟨hloaded, ih.known⟩, ih.stored⟩
  | loadSnapshot before found ih =>
    have hloaded := ih.stored.snapshots _ _ _ found
    exact ⟨List.forall_mem_cons.mpr ⟨hloaded, ih.known⟩, ih.stored⟩
  | edit before held unedited allowed ih =>
    have hedited := hkept.edit unedited allowed (ih.known _ held)
    exact ⟨List.forall_mem_cons.mpr ⟨hedited, ih.known⟩, ih.stored⟩

end Invariants

/-! ## What an approved release says -/

/-- The last decision is an approval by someone other than the creator, or a self-approval that
was allowed. -/
def Reviewed (setting : Setting) (selfApproved : List SelfApproval) (release : Release) : Prop :=
  ∃ approval, release.approvals.getLast? = some approval ∧ approval.decision = "APPROVE" ∧
    (setting.casefold approval.approver = setting.casefold release.createdBy →
      (release.releaseId, approval) ∈ selfApproved)

/-- The last approval is about the evidence of the release. -/
def Bound (setting : Setting) (release : Release) : Prop :=
  ∃ approval, release.approvals.getLast? = some approval ∧
    approval.evidenceDigest = evidenceDigest setting release.toReleaseFields

/-- The notes, if there are any, describe the release. -/
def Described (release : Release) : Prop :=
  ∀ notes, release.notes = some notes → notes = generateNotes release.toReleaseFields

/-- A new release comes without notes, or with the ones that describe it. -/
def CarefulCreation (release : Release) : Prop :=
  Described release

/-- The evidence that was approved is left alone, and so is what notes describe. -/
def CarefulEdit (setting : Setting) (release edited : Release) : Prop :=
  (release.status = .approved → evidenceDigest setting edited.toReleaseFields =
    evidenceDigest setting release.toReleaseFields) ∧
  (release.notes ≠ none → generateNotes edited.toReleaseFields =
    generateNotes release.toReleaseFields)

section Approved

variable {files : Files} {request : Request D} {release value edited : Release}

theorem approved_value (h : request.value setting files release = .ok value)
    (happroved : value.status = .approved) :
    (∃ runs approval now allowSelfApproval,
        request = .approve runs approval now allowSelfApproval ∧
          approved setting runs approval now allowSelfApproval release = .ok value) ∨
      (release.status = .approved ∧ value.releaseId = release.releaseId ∧
        value.approvals = release.approvals ∧ value.createdBy = release.createdBy ∧
        evidenceDigest setting value.toReleaseFields =
          evidenceDigest setting release.toReleaseFields) := by
  cases request with
  | create registered =>
    obtain ⟨rfl, -, -⟩ := created_ok h
    exact .inr ⟨happroved, rfl, rfl, rfl, rfl⟩
  | createCandidate candidate now =>
    rw [(withCandidate_ok h).2] at happroved
    cases happroved
  | submit runs now =>
    rw [(submitted_ok h).2] at happroved
    cases happroved
  | approve runs approval now allowSelfApproval =>
    exact .inl ⟨runs, approval, now, allowSelfApproval, rfl, h⟩
  | reject decision now =>
    rw [(rejected_ok h).2] at happroved
    cases happroved
  | publish runs now =>
    rw [(published_ok h).2.2.2.2] at happroved
    cases happroved
  | rollback record now =>
    rw [(rolledBack_ok h).2] at happroved
    cases happroved
  | supersede successorId now =>
    rw [(superseded_ok h).2] at happroved
    cases happroved
  | attachNotes =>
    obtain ⟨changelog, hvalue⟩ := withNotes_ok h
    rw [hvalue] at happroved ⊢
    exact .inr ⟨happroved, rfl, rfl, rfl, rfl⟩

/-- Every operation keeps the notes of a release and what they describe, or attaches the ones
that describe it. -/
theorem notes_value (h : request.value setting files release = .ok value) :
    (value.notes = release.notes ∨ value.notes = some (generateNotes release.toReleaseFields)) ∧
      generateNotes value.toReleaseFields = generateNotes release.toReleaseFields := by
  cases request with
  | create registered =>
    obtain ⟨rfl, -, -⟩ := created_ok h
    exact ⟨.inl rfl, rfl⟩
  | createCandidate candidate now =>
    rw [(withCandidate_ok h).2]
    exact ⟨.inl rfl, rfl⟩
  | submit runs now =>
    rw [(submitted_ok h).2]
    exact ⟨.inl rfl, rfl⟩
  | approve runs approval now allowSelfApproval =>
    rw [(approved_ok h).2.2]
    exact ⟨.inl rfl, rfl⟩
  | reject decision now =>
    rw [(rejected_ok h).2]
    exact ⟨.inl rfl, rfl⟩
  | publish runs now =>
    rw [(published_ok h).2.2.2.2]
    exact ⟨.inl rfl, rfl⟩
  | rollback record now =>
    rw [(rolledBack_ok h).2]
    exact ⟨.inl rfl, rfl⟩
  | supersede successorId now =>
    rw [(superseded_ok h).2]
    exact ⟨.inl rfl, rfl⟩
  | attachNotes =>
    obtain ⟨changelog, hvalue⟩ := withNotes_ok h
    rw [hvalue]
    exact ⟨.inr rfl, rfl⟩

/-- An edit replaces neither the identity of a release nor what its review recorded. -/
theorem of_unedited (h : edited.unedited = release.unedited) :
    edited.releaseId = release.releaseId ∧ edited.status = release.status ∧
      edited.createdBy = release.createdBy ∧ edited.approvals = release.approvals ∧
      edited.notes = release.notes := by
  have hreleaseId := congrArg ReleaseFields.releaseId h
  have hstatus := congrArg ReleaseFields.status h
  have hcreator := congrArg ReleaseFields.createdBy h
  have happrovals := congrArg ReleaseFields.approvals h
  have hnotes := congrArg ReleaseFields.notes h
  exact ⟨hreleaseId, hstatus, hcreator, happrovals, hnotes⟩

theorem kept_reviewed (D : Digests) (setting : Setting) (mayCreate : Release → Prop)
    (mayEdit : Release → Release → Prop) :
    Kept D setting mayCreate mayEdit fun selfApproved release =>
      release.status = .approved → Reviewed setting selfApproved release where
  mono hsubset h happroved := by
    obtain ⟨approval, hlast, hdecision, hself⟩ := h happroved
    exact ⟨approval, hlast, hdecision, fun hsame => hsubset (hself hsame)⟩
  create _ _ hplanned happroved := by
    rw [hplanned] at happroved
    cases happroved
  edit {_ release edited} hunedited _ h happroved := by
    obtain ⟨hreleaseId, hstatus, hcreator, happrovals, -⟩ := of_unedited hunedited
    unfold Reviewed
    rw [happrovals, hcreator, hreleaseId]
    exact h (hstatus ▸ happroved)
  value {selfApproved files request release value} hvalue h happroved := by
    rcases approved_value hvalue happroved with
      ⟨runs, approval, now, allowed, rfl, hok⟩ | ⟨hbefore, hreleaseId, happrovals, hcreator, -⟩
    · obtain ⟨⟨hdecision, hself, -⟩, -, hfields⟩ := approved_ok hok
      refine ⟨approval, by rw [hfields]; simp, hdecision, fun hsame => ?_⟩
      rw [hfields] at hsame ⊢
      have hallowed := hself hsame
      subst hallowed
      simp [Request.selfApproved]
    · obtain ⟨approval, hlast, hdecision, hself⟩ := h hbefore
      refine ⟨approval, happrovals ▸ hlast, hdecision, fun hsame => ?_⟩
      rw [hcreator] at hsame
      rw [hreleaseId]
      exact List.mem_append_right _ (hself hsame)

/-- In a careful run, an approved release is bound by its approval, and notes describe the
release that they are attached to. -/
theorem kept_faithful (D : Digests) (setting : Setting) :
    Kept D setting CarefulCreation (CarefulEdit setting) fun _ release =>
      (release.status = .approved → Bound setting release) ∧ Described release where
  mono _ h := h
  create _ hcareful hplanned := by
    refine ⟨fun happroved => ?_, hcareful⟩
    rw [hplanned] at happroved
    cases happroved
  edit {_ release edited} hunedited hcareful h := by
    obtain ⟨-, hstatus, -, happrovals, hnotes⟩ := of_unedited hunedited
    constructor
    · intro happroved
      rw [hstatus] at happroved
      unfold Bound
      rw [happrovals, hcareful.1 happroved]
      exact h.1 happroved
    · intro notes hattached
      rw [hnotes] at hattached
      rw [hcareful.2 (by simp [hattached])]
      exact h.2 notes hattached
  value {selfApproved files request release value} hvalue h := by
    constructor
    · intro happroved
      rcases approved_value hvalue happroved with
        ⟨runs, approval, now, allowed, rfl, hok⟩ | ⟨hbefore, -, happrovals, -, hdigest⟩
      · obtain ⟨⟨-, -, hdigest⟩, -, hfields⟩ := approved_ok hok
        refine ⟨approval, by rw [hfields]; simp, ?_⟩
        rw [hdigest, hfields]
        rfl
      · unfold Bound
        rw [happrovals, hdigest]
        exact h.1 hbefore
    · obtain ⟨hnotes, hdescribed⟩ := notes_value hvalue
      intro notes hattached
      rw [hdescribed]
      rcases hnotes with hsame | hnew
      · exact h.2 notes (hsame ▸ hattached)
      · exact Option.some.inj (hattached.symm.trans hnew)

end Approved

/-! ## Publication -/

/-- A client publishes a release that it holds, and the value is stored. -/
structure Publishes (setting : Setting) (world : World) (runs : Option (Acceptance.Store D))
    (now : Timestamp) (release value : Release) : Prop where
  held : release ∈ world.known
  accepted : published setting runs now release = .ok value
  stored : Writable world.files value

/-- In every run, a release that is published was reviewed and its locked capabilities are
covered.  In a run that leaves approved and described evidence alone, the approval and the notes
are about the published record. -/
theorem published_as_approved (D : Digests) (setting : Setting) :
    (∀ mayCreate mayEdit world, Reachable D setting mayCreate mayEdit world →
        ∀ (runs : Option (Acceptance.Store D)) now release value,
          Publishes setting world runs now release value →
            value.status = .released ∧ Reviewed setting world.selfApproved value ∧
              Covered setting runs value.toReleaseFields) ∧
      ∀ world, Reachable D setting CarefulCreation (CarefulEdit setting) world →
        ∀ (runs : Option (Acceptance.Store D)) now release value,
          Publishes setting world runs now release value →
            Bound setting value ∧ value.notes = some (generateNotes value.toReleaseFields) := by
  constructor
  · intro mayCreate mayEdit world hworld runs now release value hpublishes
    obtain ⟨hready, -, -, hmem, hfields⟩ := published_ok hpublishes.accepted
    have happroved : release.status = .approved := by
      cases hstatus : release.status <;> simp_all [ReleaseStatus.transitions]
    have hall := hworld.all (kept_reviewed D setting mayCreate mayEdit)
    have hreviewed := hall.known release hpublishes.held happroved
    have hcovered := covered_of_required hready
    refine ⟨by rw [hfields], ?_, ?_⟩
    · unfold Reviewed
      rw [hfields]
      exact hreviewed
    · rw [hfields]
      exact hcovered
  · intro world hworld runs now release value hpublishes
    obtain ⟨-, -, hnotes, hmem, hfields⟩ := published_ok hpublishes.accepted
    have happroved : release.status = .approved := by
      cases hstatus : release.status <;> simp_all [ReleaseStatus.transitions]
    have hall := hworld.all (kept_faithful D setting)
    obtain ⟨hbound, hdescribed⟩ := hall.known release hpublishes.held
    obtain ⟨notes, hattached⟩ := Option.ne_none_iff_exists'.mp hnotes
    constructor
    · unfold Bound
      rw [hfields]
      exact hbound happroved
    · rw [hfields]
      exact hattached.trans (congrArg some (hdescribed notes hattached))

/-! ## An edit after the approval -/

theorem Reachable.calls {mayCreate : Release → Prop} {mayEdit : Release → Release → Prop}
    (calls : List (Call D)) :
    ∀ world, Reachable D setting mayCreate mayEdit world →
      AllMeet (World.take setting) (fun world call =>
        call.release ∈ world.known ∨ (call.Creates ∧ mayCreate call.release)) world calls →
        Reachable D setting mayCreate mayEdit (calls.foldl (World.take setting) world) := by
  induction calls with
  | nil => exact fun world hworld _ => hworld
  | cons call calls ih =>
    intro world hworld hmeets
    exact ih _ (.call call hworld hmeets.1) hmeets.2

/-- The approval of the evidence under review. -/
def exampleApproval : ReleaseApproval :=
  ⟨"approval", "reviewer", "APPROVE", "Complete", 3,
    evidenceDigest exampleSetting submittedRelease.toReleaseFields⟩

def approvedRelease : Release where
  toReleaseFields :=
    { submittedRelease.toReleaseFields with
      status := .approved
      approvals := [exampleApproval]
      updatedAt := 3 }
  checked := by rfl

/-- The approved release with its notes. -/
def describedRelease : Release where
  toReleaseFields :=
    { approvedRelease.toReleaseFields with
      notes := some (generateNotes approvedRelease.toReleaseFields)
      changelog := some ⟨[]⟩ }
  checked := by rfl

/-- The same release with another requirement. -/
def editedRelease : Release where
  toReleaseFields := { describedRelease.toReleaseFields with requirementIds := ["late"] }
  checked := by rfl

/-- A release once it is published. -/
def releasedAt (release : Release) (now : Timestamp) : ReleaseFields :=
  { release.toReleaseFields with status := .released, updatedAt := now, releasedAt := some now }

/-- A release is proposed, submitted, approved and described. -/
def approvalCalls : List (Call Acceptance.countingDigests) :=
  [⟨.create (.ok ()), plannedRelease, false, .ok ()⟩,
    ⟨.createCandidate exampleCandidate 1, plannedRelease, false, .ok ()⟩,
    ⟨.submit none 2, candidateRelease, false, .ok ()⟩,
    ⟨.approve none exampleApproval 3 false, submittedRelease, false, .ok ()⟩,
    ⟨.attachNotes, approvedRelease, false, .ok ()⟩]

/-- The world in which a client holds the approved and described release. -/
def approvedWorld : World :=
  approvalCalls.foldl (World.take exampleSetting) ⟨.empty, [], []⟩

/-- The calls are given what earlier ones handed back, whatever may be created and edited. -/
theorem reachable_approvedWorld {mayCreate : Release → Prop}
    {mayEdit : Release → Release → Prop} (hcreate : mayCreate plannedRelease) :
    Reachable Acceptance.countingDigests exampleSetting mayCreate mayEdit approvedWorld := by
  refine Reachable.calls approvalCalls _ .start ?_
  simp only [AllMeet, approvalCalls, and_true]
  exact ⟨.inr ⟨⟨_, rfl⟩, hcreate⟩, .inl (by decide +kernel), .inl (by decide +kernel),
    .inl (by decide +kernel), .inl (by decide +kernel)⟩

/-- The release that was described is published as it was approved. -/
theorem published_as_approved_described :
    ∃ value, Publishes (D := Acceptance.countingDigests) exampleSetting approvedWorld none 4
        describedRelease value ∧
      value.notes = some (generateNotes value.toReleaseFields) := by
  let value : Release := ⟨releasedAt describedRelease 4, by rfl⟩
  have hpublishes : Publishes (D := Acceptance.countingDigests) exampleSetting approvedWorld none
      4 describedRelease value :=
    ⟨by decide +kernel, by rfl, by decide +kernel, by decide +kernel, fun existing h => by
      have hnone : approvedWorld.files.snapshot value.releaseId value.status = none := by
        decide +kernel
      rw [hnone] at h
      cases h⟩
  have hcareful : CarefulCreation plannedRelease := by
    intro notes hnotes
    cases hnotes
  exact ⟨value, hpublishes,
    ((published_as_approved Acceptance.countingDigests exampleSetting).2 approvedWorld
      (reachable_approvedWorld hcareful) none 4 describedRelease value hpublishes).2⟩

/-- A release whose requirements were replaced after its approval is published with the old
approval and the old notes. -/
theorem edit_after_approval :
    ¬∀ (D : Digests) (setting : Setting) (world : World),
      Reachable D setting (fun _ => True) (fun _ _ => True) world →
        ∀ (runs : Option (Acceptance.Store D)) now release value,
          Publishes setting world runs now release value →
            Bound setting value ∧
              value.notes = some (generateNotes value.toReleaseFields) := by
  intro hall
  let world : World := { approvedWorld with known := editedRelease :: approvedWorld.known }
  let value : Release := ⟨releasedAt editedRelease 4, by rfl⟩
  have hreachable :
      Reachable Acceptance.countingDigests exampleSetting (fun _ => True) (fun _ _ => True) world := by
    have hheld : describedRelease ∈ approvedWorld.known := by decide +kernel
    exact .edit (reachable_approvedWorld trivial) hheld rfl trivial
  have hpublishes : Publishes (D := Acceptance.countingDigests) exampleSetting world none 4
      editedRelease value :=
    ⟨List.mem_cons_self, by rfl, by decide +kernel, by decide +kernel, fun existing h => by
      have hnone : approvedWorld.files.snapshot value.releaseId value.status = none := by
        decide +kernel
      have hsome : approvedWorld.files.snapshot value.releaseId value.status = some existing := h
      rw [hnone] at hsome
      cases hsome⟩
  obtain ⟨⟨approval, hlast, hdigest⟩, -⟩ := hall _ _ world hreachable none 4 _ value hpublishes
  have happroval : approval = exampleApproval := (Option.some.inj hlast).symm
  rw [happroval] at hdigest
  exact absurd hdigest (by decide +kernel)

end Releases
end Ascos
