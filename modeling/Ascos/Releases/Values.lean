import Ascos.Releases.Service

/-!
# What the release operations make of a release

One lemma for each operation: what it has checked of the release, and which fields of it the
stored value changes.
-/

namespace Ascos
namespace Releases

open Library
open Ascos.Acceptance (Digests)
open Ascos.Runtime (Timestamp)

variable {D : Digests} {setting : Setting} {files : Files} {release value : Release}
  {now : Timestamp}

/-! ## The operations one by one -/

theorem created_ok {registered : Except Error Unit}
    (h : created registered files release = .ok value) :
    value = release ∧ release.status = .planned ∧ files.load release.releaseId = none := by
  unfold created at h
  simp only [Checks.guard_bind_ok_iff, Checks.bind_ok_iff, Checks.pure_ok_iff] at h
  obtain ⟨hstatus, -, hnew, -, _, -, rfl⟩ := h
  exact ⟨rfl, not_not.mp hstatus, not_not.mp hnew⟩

theorem withCandidate_ok {candidate : ReleaseCandidate}
    (h : withCandidate candidate now release = .ok value) :
    .releaseCandidate ∈ release.status.transitions ∧
      value.toReleaseFields =
        { release.toReleaseFields with
          candidates := release.candidates ++ [candidate]
          status := .releaseCandidate
          updatedAt := now } := by
  unfold withCandidate at h
  simp only [Checks.guard_bind_ok_iff, Checks.bind_ok_iff] at h
  obtain ⟨-, -, -, -, extended, hextended, htransition⟩ := h
  obtain ⟨hmem, hvalue⟩ := transition_ok htransition
  have hfields := Release.new_ok hextended
  rw [hfields] at hmem hvalue
  exact ⟨hmem, hvalue⟩

theorem submitted_ok {runs : Option (Acceptance.Store D)}
    (h : submitted setting runs now release = .ok value) :
    .underReview ∈ release.status.transitions ∧
      value.toReleaseFields =
        { release.toReleaseFields with status := .underReview, updatedAt := now } := by
  unfold submitted at h
  rw [Checks.check_ok_iff] at h
  exact transition_ok h.2

theorem approved_ok {runs : Option (Acceptance.Store D)} {approval : ReleaseApproval}
    {allowSelfApproval : Bool}
    (h : approved setting runs approval now allowSelfApproval release = .ok value) :
    (approval.decision = "APPROVE" ∧
        (setting.casefold approval.approver = setting.casefold release.createdBy →
          allowSelfApproval = true) ∧
        approval.evidenceDigest = evidenceDigest setting release.toReleaseFields) ∧
      .approved ∈ release.status.transitions ∧
      value.toReleaseFields =
        { release.toReleaseFields with
          approvals := release.approvals ++ [approval]
          status := .approved
          updatedAt := now } := by
  unfold approved at h
  simp only [Checks.guard_bind_ok_iff, Checks.bind_ok_iff] at h
  obtain ⟨_, -, hdecision, -, hself, hdigest, extended, hextended, htransition⟩ := h
  obtain ⟨hmem, hvalue⟩ := transition_ok htransition
  have hfields := Release.new_ok hextended
  rw [hfields] at hmem hvalue
  refine ⟨⟨not_not.mp hdecision, fun hsame => ?_, not_not.mp hdigest⟩, hmem, hvalue⟩
  exact Bool.eq_true_of_not_eq_false fun hforbidden => hself ⟨hsame, hforbidden⟩

theorem rejected_ok {decision : ReleaseApproval}
    (h : rejected decision now release = .ok value) :
    release.status = .underReview ∧
      value.toReleaseFields =
        { release.toReleaseFields with
          status := .releaseCandidate
          approvals := release.approvals ++ [decision]
          updatedAt := now } := by
  unfold rejected at h
  simp only [Checks.guard_bind_ok_iff] at h
  exact ⟨not_not.mp h.2.1, Release.new_ok h.2.2⟩

theorem published_ok {runs : Option (Acceptance.Store D)}
    (h : published setting runs now release = .ok value) :
    requireRuntimeAcceptance setting runs release.toReleaseFields = .ok () ∧
      release.approvals ≠ [] ∧ release.notes ≠ none ∧
      .released ∈ release.status.transitions ∧
      value.toReleaseFields =
        { release.toReleaseFields with
          status := .released
          updatedAt := now
          releasedAt := some now } := by
  unfold published at h
  rw [Checks.check_ok_iff, Checks.guard_bind_ok_iff] at h
  obtain ⟨hready, hcomplete, htransition⟩ := h
  obtain ⟨hmem, hvalue⟩ := transition_ok htransition
  exact ⟨hready, fun h => hcomplete (.inl h), fun h => hcomplete (.inr h), hmem, hvalue⟩

theorem rolledBack_ok {record : RollbackRecord}
    (h : rolledBack record now release = .ok value) :
    .rolledBack ∈ release.status.transitions ∧
      value.toReleaseFields =
        { release.toReleaseFields with
          rollbacks := release.rollbacks ++ [record]
          status := .rolledBack
          updatedAt := now } := by
  unfold rolledBack at h
  rw [Checks.bind_ok_iff] at h
  obtain ⟨extended, hextended, htransition⟩ := h
  obtain ⟨hmem, hvalue⟩ := transition_ok htransition
  have hfields := Release.new_ok hextended
  rw [hfields] at hmem hvalue
  exact ⟨hmem, hvalue⟩

theorem superseded_ok {successorId : String}
    (h : superseded files successorId now release = .ok value) :
    .superseded ∈ release.status.transitions ∧
      value.toReleaseFields =
        { release.toReleaseFields with
          supersededBy := some successorId
          status := .superseded
          updatedAt := now } := by
  unfold superseded at h
  rw [Checks.guard_bind_ok_iff] at h
  obtain ⟨-, h⟩ := h
  split at h
  · cases h
  · simp only [Checks.guard_bind_ok_iff, Checks.bind_ok_iff] at h
    obtain ⟨-, -, extended, hextended, htransition⟩ := h
    obtain ⟨hmem, hvalue⟩ := transition_ok htransition
    have hfields := Release.new_ok hextended
    rw [hfields] at hmem hvalue
    exact ⟨hmem, hvalue⟩

theorem withNotes_ok (h : withNotes release = .ok value) :
    ∃ changelog, value.toReleaseFields =
      { release.toReleaseFields with
        notes := some (generateNotes release.toReleaseFields)
        changelog := some changelog } :=
  ⟨_, Release.new_ok h⟩

/-! ## The same operation at another time -/

theorem Release.new_of_postInit {fields : ReleaseFields} (h : fields.postInit = .ok ()) :
    ∃ release, Release.new fields = .ok release := by
  unfold Release.new
  split
  · exact ⟨_, rfl⟩
  · rename_i hfailed
    rw [h] at hfailed
    cases hfailed

/-- The checks of a release look neither at its status nor at its times. -/
theorem transition_retime {target : ReleaseStatus}
    (h : transition release target now = .ok value) (later : Timestamp) :
    ∃ again, transition release target later = .ok again := by
  unfold transition
  rw [if_pos (transition_ok h).1]
  exact Release.new_of_postInit release.checked

theorem withCandidate_retime {candidate : ReleaseCandidate}
    (h : withCandidate candidate now release = .ok value) (later : Timestamp) :
    ∃ again, withCandidate candidate later release = .ok again := by
  unfold withCandidate at h ⊢
  simp only [Checks.guard_bind_ok_iff, Checks.bind_ok_iff] at h ⊢
  obtain ⟨hversion, hbase, hcommit, hunique, extended, hextended, htransition⟩ := h
  obtain ⟨again, hagain⟩ := transition_retime htransition later
  exact ⟨again, hversion, hbase, hcommit, hunique, extended, hextended, hagain⟩

theorem submitted_retime {runs : Option (Acceptance.Store D)}
    (h : submitted setting runs now release = .ok value) (later : Timestamp) :
    ∃ again, submitted setting runs later release = .ok again := by
  unfold submitted at h ⊢
  simp only [Checks.check_ok_iff] at h ⊢
  obtain ⟨hready, htransition⟩ := h
  obtain ⟨again, hagain⟩ := transition_retime htransition later
  exact ⟨again, hready, hagain⟩

theorem approved_retime {runs : Option (Acceptance.Store D)} {approval : ReleaseApproval}
    {allowSelfApproval : Bool}
    (h : approved setting runs approval now allowSelfApproval release = .ok value)
    (later : Timestamp) :
    ∃ again, approved setting runs approval later allowSelfApproval release = .ok again := by
  unfold approved at h ⊢
  simp only [Checks.guard_bind_ok_iff, Checks.bind_ok_iff] at h ⊢
  obtain ⟨_, hready, hdecision, hgiven, hself, hdigest, extended, hextended, htransition⟩ := h
  obtain ⟨again, hagain⟩ := transition_retime htransition later
  exact ⟨again, _, hready, hdecision, hgiven, hself, hdigest, extended, hextended, hagain⟩

theorem rejected_retime {decision : ReleaseApproval}
    (h : rejected decision now release = .ok value) (later : Timestamp) :
    ∃ again, rejected decision later release = .ok again := by
  have hchecked := value.checked
  rw [(rejected_ok h).2] at hchecked
  unfold rejected at h ⊢
  simp only [Checks.guard_bind_ok_iff] at h ⊢
  let fields : ReleaseFields :=
    { release.toReleaseFields with
      status := .releaseCandidate
      approvals := release.approvals ++ [decision]
      updatedAt := later }
  have hagainChecked : fields.postInit = .ok () := hchecked
  obtain ⟨again, hagain⟩ := Release.new_of_postInit hagainChecked
  exact ⟨again, h.1, h.2.1, hagain⟩

end Releases
end Ascos
