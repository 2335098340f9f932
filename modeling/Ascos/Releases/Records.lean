import Ascos.Acceptance.Attainability
import Ascos.Library.Lineage
import Ascos.Releases.Values
import Mathlib.Logic.Relation

/-!
# Release records move forward

What a run of calls makes of the current records, when every call is given a release that its
current record agrees with.  A call that is given a stale release can undo a decision.  A save
that is cut short between its two writes leaves a snapshot ahead of the current record; whether
calling the operation again completes it depends on the operation.

Main results:

- Theorem `records_move_forward`: the records of a run whose calls are up to date move
  forward, and the interrupted operations that a second call completes.
- Theorem `stale_submit_undoes_rejection`: a stale release undoes a rejection.
-/

namespace Ascos
namespace Releases

open Library
open Ascos.Acceptance (Digests isSafe)
open Ascos.Runtime (Timestamp)

variable {D : Digests} {setting : Setting}

/-! ## Moving forward -/

/-- What publication fixes of a release: all but its status, the time of its last change, and
what a rollback or a supersession records. -/
def Release.content (release : Release) : ReleaseFields :=
  { release.toReleaseFields with
    status := .released
    updatedAt := release.createdAt
    rollbacks := []
    supersededBy := none }

/-- A record and the one that a single step makes of it. -/
structure Release.Advances (old new : Release) : Prop where
  status : new.status = old.status ∨ new.status ∈ old.status.transitions
  approvals : old.approvals <+: new.approvals
  content : old.status.isFinal = true → new.content = old.content
  settled : old.status.isFinal = true → new.status = old.status → new = old

/-- A record and a later one. -/
structure Release.Precedes (old new : Release) : Prop where
  status : Relation.ReflTransGen (fun first second => second ∈ first.transitions)
    old.status new.status
  approvals : old.approvals <+: new.approvals
  content : old.status.isFinal = true → new.status.isFinal = true ∧ new.content = old.content

/-- Every current record is still there, and a relation holds between it and what it became. -/
def Files.Each (follows : Release → Release → Prop) (files later : Files) : Prop :=
  ∀ releaseId old, files.load releaseId = some old →
    ∃ new, later.load releaseId = some new ∧ follows old new

theorem Release.Advances.refl (release : Release) : release.Advances release where
  status := .inl rfl
  approvals := List.prefix_rfl
  content _ := rfl
  settled _ _ := rfl

theorem isFinal_of_transitions {status target : ReleaseStatus} (hfinal : status.isFinal = true)
    (htarget : target ∈ status.transitions) : target.isFinal = true := by
  cases status <;> cases target <;> simp_all [ReleaseStatus.isFinal, ReleaseStatus.transitions]

theorem Release.Advances.precedes {old new : Release} (h : old.Advances new) :
    old.Precedes new where
  status := by
    rcases h.status with hsame | hnext
    · rw [hsame]
    · exact .single hnext
  approvals := h.approvals
  content hfinal := by
    refine ⟨?_, h.content hfinal⟩
    rcases h.status with hsame | hnext
    · rw [hsame]
      exact hfinal
    · exact isFinal_of_transitions hfinal hnext

theorem Release.Precedes.trans {first second third : Release} (h₁ : first.Precedes second)
    (h₂ : second.Precedes third) : first.Precedes third where
  status := h₁.status.trans h₂.status
  approvals := h₁.approvals.trans h₂.approvals
  content hfinal := by
    have hsecond := h₁.content hfinal
    have hthird := h₂.content hsecond.1
    exact ⟨hthird.1, hthird.2.trans hsecond.2⟩

instance : IsTrans Files (Files.Each Release.Precedes) where
  trans _ _ _ h₁ h₂ releaseId old hold := by
    obtain ⟨middle, hmiddle, hfirst⟩ := h₁ releaseId old hold
    obtain ⟨new, hnew, hsecond⟩ := h₂ releaseId middle hmiddle
    exact ⟨new, hnew, hfirst.trans hsecond⟩

theorem Files.Each.mono {first second : Release → Release → Prop}
    (himp : ∀ old new, first old new → second old new) {files later : Files}
    (h : Files.Each first files later) : Files.Each second files later := by
  intro releaseId old hold
  obtain ⟨new, hnew, hfirst⟩ := h releaseId old hold
  exact ⟨new, hnew, himp old new hfirst⟩

/-! ## What the two writes change -/

section Writes

variable {files : Files} {release value current : Release} {releaseId : String}

@[simp]
theorem load_writeSnapshot (files : Files) (value : Release) (releaseId : String) :
    (files.writeSnapshot value).load releaseId = files.load releaseId :=
  rfl

@[simp]
theorem snapshot_writeCurrent (files : Files) (value : Release) :
    (files.writeCurrent value).snapshot = files.snapshot :=
  rfl

theorem load_writeCurrent_self (files : Files) (value : Release) :
    (files.writeCurrent value).load value.releaseId = some value := by
  simp [Files.load, Files.writeCurrent]

theorem load_writeCurrent_of_ne (files : Files) (h : releaseId ≠ value.releaseId) :
    (files.writeCurrent value).load releaseId = files.load releaseId := by
  have hvalue : decide (value.releaseId = releaseId) = false := by simpa using h.symm
  unfold Files.load Files.writeCurrent
  simp only [List.find?_cons, hvalue, List.find?_filter]
  congr 1
  funext item
  by_cases hitem : item.releaseId = releaseId
  · simp [hitem, h]
  · simp [hitem]

end Writes

/-! ## What an operation makes of a release -/

section Steps

variable {files : Files} {release value : Release} {request : Request D}

theorem final_transitions {status target : ReleaseStatus} (hfinal : status.isFinal = true)
    (htarget : target ∈ status.transitions) :
    target = .rolledBack ∨ target = .superseded ∨ target = .archived := by
  cases status <;> cases target <;> simp_all [ReleaseStatus.isFinal, ReleaseStatus.transitions]

/-- Every operation but `create` keeps the identity of the release that it is given, takes it
along one transition or leaves its status alone, and appends to its approvals; on a final one
it changes nothing that publication fixes. -/
structure Moves (release value : Release) : Prop where
  releaseId : value.releaseId = release.releaseId
  status : value.status = release.status ∨ value.status ∈ release.status.transitions
  approvals : release.approvals <+: value.approvals
  content : release.status.isFinal = true → value.status ∈ release.status.transitions →
    value.content = release.content

/-- A transition to a status that no final one has for a successor. -/
theorem Moves.of_review {target : ReleaseStatus}
    (htarget : target ∈ [.releaseCandidate, .underReview, .approved, .released])
    (hstatus : value.status = target) (hmem : target ∈ release.status.transitions)
    (hreleaseId : value.releaseId = release.releaseId)
    (happrovals : release.approvals <+: value.approvals) : Moves release value where
  releaseId := hreleaseId
  status := .inr (hstatus ▸ hmem)
  approvals := happrovals
  content hfinal _ := by
    rcases final_transitions hfinal hmem with rfl | rfl | rfl <;> simp at htarget

theorem value_moves (h : request.value setting files release = .ok value) :
    (value = release ∧ files.load release.releaseId = none) ∨ Moves release value := by
  cases request with
  | create registered =>
    obtain ⟨rfl, -, hnew⟩ := created_ok h
    exact .inl ⟨rfl, hnew⟩
  | createCandidate candidate now =>
    obtain ⟨hmem, hvalue⟩ := withCandidate_ok h
    exact .inr (.of_review (by simp) (by rw [hvalue]) hmem (by rw [hvalue]) (by simp [hvalue]))
  | submit runs now =>
    obtain ⟨hmem, hvalue⟩ := submitted_ok h
    exact .inr (.of_review (by simp) (by rw [hvalue]) hmem (by rw [hvalue]) (by simp [hvalue]))
  | approve runs approval now allowSelfApproval =>
    obtain ⟨-, hmem, hvalue⟩ := approved_ok h
    exact .inr (.of_review (by simp) (by rw [hvalue]) hmem (by rw [hvalue])
      (by simp [hvalue]))
  | reject decision now =>
    obtain ⟨hstatus, hvalue⟩ := rejected_ok h
    have hmem : .releaseCandidate ∈ release.status.transitions := by
      simp [hstatus, ReleaseStatus.transitions]
    exact .inr (.of_review (by simp) (by rw [hvalue]) hmem (by rw [hvalue])
      (by simp [hvalue]))
  | publish runs now =>
    obtain ⟨-, -, -, hmem, hvalue⟩ := published_ok h
    exact .inr (.of_review (by simp) (by rw [hvalue]) hmem (by rw [hvalue]) (by simp [hvalue]))
  | rollback record now =>
    obtain ⟨hmem, hvalue⟩ := rolledBack_ok h
    exact .inr ⟨by rw [hvalue], .inr (by rw [hvalue]; exact hmem), by simp [hvalue],
      fun _ _ => by simp [Release.content, hvalue]⟩
  | supersede successorId now =>
    obtain ⟨hmem, hvalue⟩ := superseded_ok h
    exact .inr ⟨by rw [hvalue], .inr (by rw [hvalue]; exact hmem), by simp [hvalue],
      fun _ _ => by simp [Release.content, hvalue]⟩
  | attachNotes =>
    obtain ⟨changelog, hvalue⟩ := withNotes_ok h
    have hstatus : value.status = release.status := by rw [hvalue]
    exact .inr ⟨by rw [hvalue], .inl hstatus, by simp [hvalue],
      fun _ hmem => absurd (hstatus ▸ hmem) (not_transitions_self _)⟩

end Steps

/-! ## What a call makes of the current records -/

/-- The current record of a release agrees with it: the same status and the same approvals,
and all of it once it is final. -/
def Files.Agrees (files : Files) (release : Release) : Prop :=
  ∃ current, files.load release.releaseId = some current ∧
    current.status = release.status ∧ current.approvals = release.approvals ∧
    (current.status.isFinal = true → current = release)

/-- The call creates a release, or is given one that the current record agrees with. -/
def UpToDate (files : Files) (call : Call D) : Prop :=
  match call.request with
  | .create _ => True
  | _ => files.Agrees call.release

/-- Every final current record is also the snapshot of its status. -/
def Files.Settled (files : Files) : Prop :=
  ∀ releaseId current, files.load releaseId = some current → current.status.isFinal = true →
    files.snapshot releaseId current.status = some current

section Calls

variable {files : Files} {value : Release} {call : Call D}

theorem snapshot_writeSnapshot_of_final {releaseId : String} {current : Release}
    (hwritable : Writable files value) (hfinal : current.status.isFinal = true)
    (h : files.snapshot releaseId current.status = some current) :
    (files.writeSnapshot value).snapshot releaseId current.status = some current := by
  by_cases hsame : releaseId = value.releaseId ∧ current.status = value.status
  · obtain ⟨hreleaseId, hstatus⟩ := hsame
    rw [hreleaseId, hstatus] at h
    have hopen := (hwritable.2.2 current h).1
    rw [hfinal] at hopen
    cases hopen
  · simpa [Files.writeSnapshot, hsame] using h

theorem settled_written (crashes : Bool) (h : files.Settled) (hwritable : Writable files value) :
    (files.written crashes value).Settled := by
  have hsnapshot : (files.writeSnapshot value).Settled := by
    intro releaseId current hcurrent hfinal
    exact snapshot_writeSnapshot_of_final hwritable hfinal (h releaseId current hcurrent hfinal)
  unfold Files.written
  cases crashes with
  | true => exact hsnapshot
  | false =>
    intro releaseId current hcurrent hfinal
    by_cases hreleaseId : releaseId = value.releaseId
    · subst hreleaseId
      rw [if_neg (by simp), load_writeCurrent_self] at hcurrent
      cases hcurrent
      simp [Files.writeSnapshot]
    · rw [if_neg (by simp), load_writeCurrent_of_ne _ hreleaseId] at hcurrent
      exact hsnapshot releaseId current hcurrent hfinal

/-- Every call keeps the snapshots of the final current records. -/
theorem settled_perform (h : files.Settled) (call : Call D) :
    (call.perform setting files).Settled := by
  rcases perform_cases setting files call with ⟨value, -, hwritable, hfiles⟩ | ⟨hfiles, -⟩
  · rw [hfiles]
    exact settled_written call.crashes h hwritable
  · rw [hfiles]
    exact h

/-- A record that agrees with the release of a call, and the value that the call writes. -/
theorem advances_of_moves {current : Release} (hsettled : files.Settled)
    (hcurrent : files.load call.release.releaseId = some current)
    (hagrees : files.Agrees call.release) (hmoves : Moves call.release value)
    (hwritable : Writable files value) : current.Advances value := by
  obtain ⟨other, hother, hstatus, happrovals, hfinal⟩ := hagrees
  cases hcurrent.symm.trans hother
  -- A final record is the snapshot of its status, so nothing else is written at that status.
  have hleaves : current.status.isFinal = true → value.status ≠ current.status := by
    intro hcurrentFinal hsame
    have hsnapshot := hsettled _ _ hcurrent hcurrentFinal
    rw [← hmoves.releaseId, ← hsame] at hsnapshot
    have hopen := (hwritable.2.2 current hsnapshot).1
    rw [hcurrentFinal] at hopen
    cases hopen
  refine ⟨hstatus ▸ hmoves.status, happrovals ▸ hmoves.approvals, fun hcurrentFinal => ?_,
    fun hcurrentFinal hsame => absurd hsame (hleaves hcurrentFinal)⟩
  have hsame := hfinal hcurrentFinal
  subst hsame
  rcases hmoves.status with hstays | hnext
  · exact absurd hstays (hleaves hcurrentFinal)
  · exact hmoves.content hcurrentFinal hnext

/-- A call that is up to date takes every current record at most one step forward. -/
theorem advances_perform (hsettled : files.Settled) (h : UpToDate files call) :
    files.Each Release.Advances (call.perform setting files) := by
  intro releaseId old hold
  rcases perform_cases setting files call with ⟨value, hvalue, hwritable, hfiles⟩ | ⟨hfiles, -⟩
  · rw [hfiles]
    unfold Files.written
    cases hcrashes : call.crashes with
    | true => exact ⟨old, hold, .refl old⟩
    | false =>
        rw [if_neg (by simp)]
        by_cases hreleaseId : releaseId = value.releaseId
        · subst hreleaseId
          refine ⟨value, load_writeCurrent_self _ _, ?_⟩
          rcases value_moves hvalue with ⟨rfl, hnew⟩ | hmoves
          · rw [hnew] at hold
            cases hold
          · rw [hmoves.releaseId] at hold
            unfold UpToDate at h
            split at h
            · rename_i registered hrequest
              rw [hrequest] at hvalue
              have hnew := (created_ok hvalue).2.2
              rw [hnew] at hold
              cases hold
            · exact advances_of_moves hsettled hold h hmoves hwritable
        · exact ⟨old, (load_writeCurrent_of_ne _ hreleaseId).trans hold, .refl old⟩
  · rw [hfiles]
    exact ⟨old, hold, .refl old⟩

end Calls

/-! ## Calling an interrupted operation again -/

/-- The operation at another time. -/
def Request.retime (later : Timestamp) : Request D → Request D
  | .create registered => .create registered
  | .createCandidate candidate _ => .createCandidate candidate later
  | .submit runs _ => .submit runs later
  | .approve runs approval _ allowSelfApproval => .approve runs approval later allowSelfApproval
  | .reject decision _ => .reject decision later
  | .publish runs _ => .publish runs later
  | .rollback record _ => .rollback record later
  | .supersede successorId _ => .supersede successorId later
  | .attachNotes => .attachNotes

/-- The same call once more, which is not cut short. -/
def Call.again (call : Call D) (later : Timestamp) : Call D :=
  { call with request := call.request.retime later, crashes := false }

/-- The call ends with the value of its operation as the current record. -/
def Completes (setting : Setting) (files : Files) (call : Call D) : Prop :=
  ∃ value, call.request.value setting files call.release = .ok value ∧
    (call.perform setting files).load value.releaseId = some value

/-- A call that was cut short can be completed: it proposes, submits, approves or rejects a
candidate, and is called again at another time; or it attaches the notes that the current
record already has. -/
def Resumable (files : Files) (call : Call D) (later : Timestamp) : Prop :=
  match call.request with
  | .createCandidate _ now | .submit _ now | .approve _ _ now _ | .reject _ now => later ≠ now
  | .attachNotes =>
    ∃ current, files.load call.release.releaseId = some current ∧
      withNotes call.release = .ok current
  | .create _ | .publish .. | .rollback .. | .supersede .. => False

section Interrupted

variable {files : Files} {value again : Release} {call : Call D} {later : Timestamp}

theorem writable_writeSnapshot_iff (hwritable : Writable files value)
    (hreleaseId : again.releaseId = value.releaseId) (hstatus : again.status = value.status)
    (happrovals : again.approvals = value.approvals) :
    Writable (files.writeSnapshot value) again ↔
      again ≠ value ∧ value.status.isFinal = false := by
  have hsnapshot :
      (files.writeSnapshot value).snapshot again.releaseId again.status = some value := by
    simp [Files.writeSnapshot, hreleaseId, hstatus]
  unfold Writable
  rw [hsnapshot, hreleaseId]
  constructor
  · rintro ⟨-, hother, hopen⟩
    exact ⟨fun hsame => hother (by rw [hsame]), (hopen value rfl).1⟩
  · rintro ⟨hother, hopen⟩
    refine ⟨hwritable.1, fun hsame => hother (Option.some.inj hsame).symm, ?_⟩
    rintro existing hexisting
    cases hexisting
    exact ⟨hopen, happrovals ▸ List.prefix_rfl⟩

/-- What a second call makes of the current record. -/
theorem completes_again_iff (hwritable : Writable files value) (hcrashes : call.crashes = true)
    (hfiles : call.perform setting files = files.written call.crashes value)
    (hagain : (call.again later).request.value setting (files.writeSnapshot value)
      call.release = .ok again)
    (hreleaseId : again.releaseId = value.releaseId) (hstatus : again.status = value.status)
    (happrovals : again.approvals = value.approvals) :
    Completes setting (call.perform setting files) (call.again later) ↔
      (again ≠ value ∧ value.status.isFinal = false) ∨
        files.load value.releaseId = some again := by
  have hcrashed : call.perform setting files = files.writeSnapshot value := by
    rw [hfiles, hcrashes]
    rfl
  have hwritten := writable_writeSnapshot_iff hwritable hreleaseId hstatus happrovals
  rw [hcrashed]
  unfold Completes
  have hvalues : ∀ other, (call.again later).request.value setting (files.writeSnapshot value)
      (call.again later).release = .ok other ↔ other = again := by
    intro other
    change (call.again later).request.value setting (files.writeSnapshot value)
      call.release = .ok other ↔ other = again
    rw [hagain]
    exact ⟨fun h => (Except.ok.inj h).symm, fun h => by rw [h]⟩
  simp only [hvalues, exists_eq_left]
  rcases perform_cases setting (files.writeSnapshot value) (call.again later) with
    ⟨other, hother, hotherWritable, hperformed⟩ | ⟨hperformed, hrefused⟩
  · cases (hvalues other).mp hother
    have hloaded : (((files.writeSnapshot value).written false again)).load again.releaseId =
        some again := load_writeCurrent_self _ _
    rw [hperformed]
    exact iff_of_true hloaded (.inl (hwritten.mp hotherWritable))
  · have hnotWritten := hwritten.not.mp (hrefused again ((hvalues again).mpr rfl))
    rw [hperformed, load_writeSnapshot, hreleaseId]
    simp [hnotWritten]

theorem completes_review_iff {now : Timestamp} (hwritable : Writable files value)
    (hcrashes : call.crashes = true)
    (hfiles : call.perform setting files = files.written call.crashes value)
    (hagain : (call.again later).request.value setting (files.writeSnapshot value)
      call.release = .ok again)
    (hfields : again.toReleaseFields = { value.toReleaseFields with updatedAt := later })
    (htime : value.updatedAt = now) (hopen : value.status.isFinal = false)
    (hcurrent : files.load value.releaseId ≠ some again) :
    Completes setting (call.perform setting files) (call.again later) ↔ later ≠ now := by
  have hiff := completes_again_iff hwritable hcrashes hfiles hagain
    (by rw [hfields]) (by rw [hfields]) (by rw [hfields])
  rw [hiff]
  constructor
  · rintro (⟨hother, -⟩ | hloaded) hsame
    · refine hother (Release.ext ?_)
      rw [hfields, hsame, ← htime]
    · exact hcurrent hloaded
  · intro hlater
    refine .inl ⟨fun hsame => hlater ?_, hopen⟩
    rw [← htime, ← hsame, hfields]

theorem not_completes_final (hwritable : Writable files value) (hcrashes : call.crashes = true)
    (hfiles : call.perform setting files = files.written call.crashes value)
    (hfinal : value.status.isFinal = true)
    (hagain : ∀ again, (call.again later).request.value setting (files.writeSnapshot value)
      call.release = .ok again →
        again.releaseId = value.releaseId ∧ again.status = value.status ∧
          again.approvals = value.approvals ∧ files.load value.releaseId ≠ some again) :
    ¬Completes setting (call.perform setting files) (call.again later) := by
  intro hcompletes
  have hcrashed : call.perform setting files = files.writeSnapshot value := by
    rw [hfiles, hcrashes]
    rfl
  have hsecond := hcompletes
  obtain ⟨again, hvalue, -⟩ := hsecond
  rw [hcrashed] at hvalue
  obtain ⟨hreleaseId, hstatus, happrovals, hcurrent⟩ := hagain again hvalue
  have hiff := completes_again_iff hwritable hcrashes hfiles hvalue hreleaseId hstatus happrovals
  rcases hiff.mp hcompletes with ⟨-, hopen⟩ | hloaded
  · rw [hfinal] at hopen
    cases hopen
  · exact hcurrent hloaded

theorem load_ne_of_transitions (hagrees : files.Agrees call.release)
    (hreleaseId : value.releaseId = call.release.releaseId)
    (hmem : again.status ∈ call.release.status.transitions) :
    files.load value.releaseId ≠ some again := by
  obtain ⟨current, hcurrent, hstatus, -, -⟩ := hagrees
  intro hloaded
  rw [hreleaseId, hcurrent] at hloaded
  cases hloaded
  rw [hstatus] at hmem
  exact not_transitions_self _ hmem

theorem completes_again_iff_resumable (huptodate : UpToDate files call)
    (hcrashes : call.crashes = true)
    (hvalue : call.request.value setting files call.release = .ok value)
    (hwritable : Writable files value) (later : Timestamp) :
    Completes setting (call.perform setting files) (call.again later) ↔
      Resumable files call later := by
  have hfiles : call.perform setting files = files.written call.crashes value := by
    rcases perform_cases setting files call with ⟨other, hother, -, hfiles⟩ | ⟨-, hrefused⟩
    · cases hvalue.symm.trans hother
      exact hfiles
    · exact absurd hwritable (hrefused value hvalue)
  obtain ⟨request, release, crashes, published⟩ := call
  cases request with
  | create registered =>
    obtain ⟨rfl, -, hnew⟩ := created_ok hvalue
    refine (completes_again_iff hwritable hcrashes hfiles hvalue rfl rfl rfl).trans ?_
    simp [hnew, Resumable]
  | createCandidate candidate now =>
    obtain ⟨hmem, hfields⟩ := withCandidate_ok hvalue
    obtain ⟨again, hagain⟩ := withCandidate_retime hvalue later
    have hagainFields := (withCandidate_ok hagain).2
    exact completes_review_iff hwritable hcrashes hfiles hagain
      (by rw [hagainFields, hfields]) (by rw [hfields]) (by rw [hfields]; rfl)
      (load_ne_of_transitions huptodate (by rw [hfields]) (by rw [hagainFields]; exact hmem))
  | submit runs now =>
    obtain ⟨hmem, hfields⟩ := submitted_ok hvalue
    obtain ⟨again, hagain⟩ := submitted_retime hvalue later
    have hagainFields := (submitted_ok hagain).2
    exact completes_review_iff hwritable hcrashes hfiles hagain
      (by rw [hagainFields, hfields]) (by rw [hfields]) (by rw [hfields]; rfl)
      (load_ne_of_transitions huptodate (by rw [hfields]) (by rw [hagainFields]; exact hmem))
  | approve runs approval now allowSelfApproval =>
    obtain ⟨-, hmem, hfields⟩ := approved_ok hvalue
    obtain ⟨again, hagain⟩ := approved_retime hvalue later
    have hagainFields := (approved_ok hagain).2.2
    exact completes_review_iff hwritable hcrashes hfiles hagain
      (by rw [hagainFields, hfields]) (by rw [hfields]) (by rw [hfields]; rfl)
      (load_ne_of_transitions huptodate (by rw [hfields]) (by rw [hagainFields]; exact hmem))
  | reject decision now =>
    obtain ⟨hstatus, hfields⟩ := rejected_ok hvalue
    obtain ⟨again, hagain⟩ := rejected_retime hvalue later
    have hagainFields := (rejected_ok hagain).2
    have hmem : .releaseCandidate ∈ release.status.transitions :=
      (hstatus : release.status = .underReview) ▸ List.mem_cons_self
    exact completes_review_iff hwritable hcrashes hfiles hagain
      (by rw [hagainFields, hfields]) (by rw [hfields]) (by rw [hfields]; rfl)
      (load_ne_of_transitions huptodate (by rw [hfields]) (by rw [hagainFields]; exact hmem))
  | publish runs now =>
    obtain ⟨-, -, -, hmem, hfields⟩ := published_ok hvalue
    refine iff_of_false (not_completes_final hwritable hcrashes hfiles
      (by rw [hfields]; rfl) fun again hagain => ?_) id
    have hagainFields := (published_ok hagain).2.2.2.2
    exact ⟨by rw [hagainFields, hfields], by rw [hagainFields, hfields],
      by rw [hagainFields, hfields], load_ne_of_transitions huptodate (by rw [hfields])
        (by rw [hagainFields]; exact hmem)⟩
  | rollback record now =>
    obtain ⟨hmem, hfields⟩ := rolledBack_ok hvalue
    refine iff_of_false (not_completes_final hwritable hcrashes hfiles
      (by rw [hfields]; rfl) fun again hagain => ?_) id
    have hagainFields := (rolledBack_ok hagain).2
    exact ⟨by rw [hagainFields, hfields], by rw [hagainFields, hfields],
      by rw [hagainFields, hfields], load_ne_of_transitions huptodate (by rw [hfields])
        (by rw [hagainFields]; exact hmem)⟩
  | supersede successorId now =>
    obtain ⟨hmem, hfields⟩ := superseded_ok hvalue
    refine iff_of_false (not_completes_final hwritable hcrashes hfiles
      (by rw [hfields]; rfl) fun again hagain => ?_) id
    have hagainFields := (superseded_ok hagain).2
    exact ⟨by rw [hagainFields, hfields], by rw [hagainFields, hfields],
      by rw [hagainFields, hfields], load_ne_of_transitions huptodate (by rw [hfields])
        (by rw [hagainFields]; exact hmem)⟩
  | attachNotes =>
    have hnotes : withNotes release = .ok value := hvalue
    have hreleaseId : value.releaseId = release.releaseId := by
      obtain ⟨changelog, hfields⟩ := withNotes_ok hnotes
      rw [hfields]
    refine (completes_again_iff hwritable hcrashes hfiles hvalue rfl rfl rfl).trans ?_
    rw [hreleaseId]
    simp [Resumable, hnotes]

end Interrupted

/-! ## Runs -/

theorem upToDate_of_current {files : Files} {call : Call D}
    (h : files.load call.release.releaseId = some call.release) : UpToDate files call := by
  unfold UpToDate
  split
  · trivial
  · exact ⟨call.release, h, rfl, rfl, fun _ => rfl⟩

theorem settled_empty : Files.empty.Settled := by
  intro releaseId current hcurrent
  cases hcurrent

/-- In a run whose calls are all up to date, every current record moves forward, one step at a
call; and a call that is cut short can be completed by calling its operation again exactly when
it is resumable. -/
theorem records_move_forward (setting : Setting) (calls : List (Call D))
    (h : AllMeet (Call.perform setting) UpToDate Files.empty calls) :
    (calls.scanl (Call.perform setting) Files.empty).IsChain (Files.Each Release.Advances) ∧
      Forward (Call.perform setting) (Files.Each Release.Precedes) Files.empty calls ∧
      ∀ files ∈ calls.scanl (Call.perform setting) Files.empty, ∀ (call : Call D) value,
        UpToDate files call → call.crashes = true →
          call.request.value setting files call.release = .ok value → Writable files value →
            ∀ later, Completes setting (call.perform setting files) (call.again later) ↔
              Resumable files call later := by
  have hchain :
      (calls.scanl (Call.perform setting) Files.empty).IsChain (Files.Each Release.Advances) := by
    refine chain_of_allMeet Files.Settled ?_ ?_ calls Files.empty settled_empty h
    · intro files call hsettled hmeets
      exact advances_perform hsettled hmeets
    · intro files call hsettled
      exact settled_perform hsettled call
  have hforward : Forward (Call.perform setting) (Files.Each Release.Precedes) Files.empty calls := by
    refine forward_of_chain ?_ hchain
    intro files later hnext
    exact hnext.mono fun _ _ hadvances => hadvances.precedes
  refine ⟨hchain, hforward, ?_⟩
  intro files _ call value huptodate hcrashes hvalue hwritable later
  exact completes_again_iff_resumable huptodate hcrashes hvalue hwritable later

/-! ## A stale submission -/

/-- A setting for the runs below: a digest that tells the lists of a payload apart, and
patterns that stand for themselves. -/
def exampleSetting : Setting where
  casefold := String.toLower
  digest payload := "/".intercalate
    (([payload.requirements, payload.milestones, payload.commits, payload.pullRequests,
      payload.decisions, payload.lockedCapabilities, payload.runtimeAcceptanceRuns].map
        fun values => ",".intercalate values) ++
      payload.artifacts.map fun item => item.1 ++ ":" ++ item.2)
  fnmatch pattern name := pattern == name

def plannedRelease : Release where
  releaseId := "release"
  productIds := ["product"]
  version := ⟨1, 0, 0, none⟩
  kind := .stable
  status := .planned
  title := "Release"
  createdBy := "owner"
  createdAt := 0
  updatedAt := 0
  commitShas := [Acceptance.exampleSha]
  checked := by rfl

def exampleCandidate : ReleaseCandidate :=
  ⟨"candidate", ⟨1, 0, 0, some 1⟩, Acceptance.exampleSha, "owner", 1⟩

def candidateRelease : Release where
  toReleaseFields :=
    { plannedRelease.toReleaseFields with
      status := .releaseCandidate
      candidates := [exampleCandidate]
      updatedAt := 1 }
  checked := by rfl

/-- The release under review. -/
def submittedRelease : Release where
  toReleaseFields :=
    { candidateRelease.toReleaseFields with status := .underReview, updatedAt := 2 }
  checked := by rfl

def exampleRejection : ReleaseApproval :=
  ⟨"review", "reviewer", "REJECT", "Not yet", 3, ""⟩

def rejectedRelease : Release where
  toReleaseFields :=
    { candidateRelease.toReleaseFields with approvals := [exampleRejection], updatedAt := 3 }
  checked := by rfl

/-- A release is proposed, submitted and rejected. -/
def reviewCalls : List (Call Acceptance.countingDigests) :=
  [⟨.create (.ok ()), plannedRelease, false, .ok ()⟩,
    ⟨.createCandidate exampleCandidate 1, plannedRelease, false, .ok ()⟩,
    ⟨.submit none 2, candidateRelease, false, .ok ()⟩,
    ⟨.reject exampleRejection 3, submittedRelease, false, .ok ()⟩]

/-- A run whose calls are up to date, up to a rejection. -/
theorem records_move_forward_review :
    (reviewCalls.foldl (Call.perform exampleSetting) Files.empty).load "release" =
        some rejectedRelease ∧
      Forward (Call.perform exampleSetting) (Files.Each Release.Precedes) Files.empty
        reviewCalls := by
  have huptodate :
      AllMeet (Call.perform exampleSetting) UpToDate Files.empty reviewCalls := by
    simp only [AllMeet, reviewCalls, and_true]
    exact ⟨trivial, upToDate_of_current (by decide +kernel),
      upToDate_of_current (by decide +kernel), upToDate_of_current (by decide +kernel)⟩
  exact ⟨by decide +kernel, (records_move_forward exampleSetting reviewCalls huptodate).2.1⟩

/-- The release from before the rejection, submitted again, undoes the rejection. -/
theorem stale_submit_undoes_rejection :
    ¬∀ (D : Digests) (setting : Setting) (calls : List (Call D)),
      Forward (Call.perform setting) (Files.Each Release.Precedes) Files.empty calls := by
  intro hforward
  let stale : Call Acceptance.countingDigests := ⟨.submit none 4, candidateRelease, false, .ok ()⟩
  have hrun := hforward _ exampleSetting (reviewCalls ++ [stale])
  simp only [reviewCalls, List.cons_append, List.nil_append, forward_cons_iff] at hrun
  obtain ⟨-, -, -, -, hlast, -⟩ := hrun
  obtain ⟨new, hnew, hprecedes⟩ := hlast "release" rejectedRelease (by decide +kernel)
  have happrovals : ((stale.perform exampleSetting
      (reviewCalls.foldl (Call.perform exampleSetting) Files.empty)).load "release").map
        (·.approvals) = some [] := by
    decide +kernel
  have hlost : new.approvals = [] := by
    have hmapped := congrArg (Option.map (·.approvals)) hnew
    exact (Option.some.inj (happrovals.symm.trans hmapped)).symm
  have hbegins := hprecedes.approvals
  rw [hlost] at hbegins
  exact absurd hbegins (by decide)

end Releases
end Ascos
