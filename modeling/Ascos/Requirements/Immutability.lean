import Ascos.Library.Checks
import Ascos.Library.Lineage
import Ascos.Requirements.Service
import Mathlib.Logic.Relation

/-!
# Locked versions

Runs of the service on the file of one version that holds a locked document.

Main results:

- Theorem `locked_forward_iff`: every later state of a run follows the earlier ones
  exactly when each call keeps the version.
- Theorem `supersede_rewrites`: superseding a locked version may replace its author.
-/

namespace Ascos
namespace Requirements

open Library Library.Program
open Ascos.Runtime (Timestamp isBlank)

/-! ## Following a locked document -/

/-- The steps of the status of a document that has been locked. -/
inductive Advances : RequirementStatus → RequirementStatus → Prop
  | implement : Advances .locked .implemented
  | supersede : Advances .locked .superseded
  | archiveImplemented : Advances .implemented .archived
  | archiveSuperseded : Advances .superseded .archived

/-- What may become of a document that has been locked. -/
structure Follows (old new : ProductRequirementsDocument) : Prop where
  requirements : new.requirements.map (·.content) = old.requirements.map (·.content)
  author : new.author = old.author
  approver : new.approver = old.approver
  lockedAt : new.lockedAt = old.lockedAt
  status : Relation.ReflTransGen Advances old.status new.status
  history : old.revisionHistory <+: new.revisionHistory

theorem Follows.refl (prd : ProductRequirementsDocument) : Follows prd prd :=
  ⟨rfl, rfl, rfl, rfl, .refl, List.prefix_refl _⟩

theorem Follows.trans {first second third : ProductRequirementsDocument}
    (h₁ : Follows first second) (h₂ : Follows second third) : Follows first third where
  requirements := h₂.requirements.trans h₁.requirements
  author := h₂.author.trans h₁.author
  approver := h₂.approver.trans h₁.approver
  lockedAt := h₂.lockedAt.trans h₁.lockedAt
  status := h₁.status.trans h₂.status
  history := h₁.history.trans h₂.history

/-- The document of the version in the later store follows the one in the earlier store. -/
def Lineage (key : Key) (store store' : Store) : Prop :=
  ∀ old, store key = some old → ∃ new, store' key = some new ∧ Follows old new

instance (key : Key) : IsTrans Store (Lineage key) where
  trans := by
    intro first second third h₁ h₂ old hold
    obtain ⟨middle, hmiddle, hfollows₁⟩ := h₁ old hold
    obtain ⟨new, hnew, hfollows₂⟩ := h₂ middle hmiddle
    exact ⟨new, hnew, hfollows₁.trans hfollows₂⟩

/-! ## The condition -/

variable (casefold : String → String)

/-- The file that a call is about. -/
def Call.target : Call → Key
  | .createPrd _ _ prd | .submitForReview prd _ _ | .approve _ prd _ _ | .lock _ prd _ _
  | .supersede prd _ _ _ => prd.key
  | .revise prd version _ _ _ => ⟨prd.productId, prd.prdId, version⟩

/-- The checks of the call let it through. -/
def Call.Passes (call : Call) : Prop :=
  ∃ prd, call.value casefold = .ok prd

/-- The value given to `supersede` is the stored one as far as it must not change, and
its history with the new record extends the stored history. -/
structure Agrees (old prd : ProductRequirementsDocument) (actor reason : String)
    (now : Timestamp) : Prop where
  requirements : prd.requirements.map (·.content) = old.requirements.map (·.content)
  author : prd.author = old.author
  approver : prd.approver = old.approver
  lockedAt : prd.lockedAt = old.lockedAt
  history : old.revisionHistory <+:
    prd.revisionHistory ++ [⟨prd.version, actor, "SUPERSEDED", reason, now⟩]

/-- A call about a version that has been locked does no harm: it is a supersession by a value
that agrees with the stored one, or it is no supersession and finds the version locked. -/
def Call.Harmless (old : ProductRequirementsDocument) : Call → Prop
  | .supersede prd actor reason now => Agrees old prd actor reason now
  | _ => old.status = .locked

/-- A call keeps the version when it does no harm, is about another one, or is refused by its
checks. -/
def Keeps (key : Key) (store : Store) (call : Call) : Prop :=
  ∀ old, store key = some old → key.isSafe = true → call.target = key →
    call.Passes casefold → call.Harmless old

/-! ## What the calls store -/

section Values

variable {casefold} {prd value : ProductRequirementsDocument} {store : Store} {key : Key}
  {call : Call}

theorem ProductRequirementsDocument.new_ok {fields : DocumentFields}
    (h : ProductRequirementsDocument.new fields = .ok value) :
    value.toDocumentFields = fields := by
  unfold ProductRequirementsDocument.new at h
  split at h
  · cases h
    rfl
  · cases h

theorem ProductRequirement.new_ok {fields : RequirementFields} {item : ProductRequirement}
    (h : ProductRequirement.new fields = .ok item) : item.toRequirementFields = fields := by
  unfold ProductRequirement.new at h
  split at h
  · cases h
    rfl
  · cases h

theorem revision_ok {version actor action reason : String} {now : Timestamp}
    {record : RevisionRecord} (h : revision version actor action reason now = .ok record) :
    record = ⟨version, actor, action, reason, now⟩ := by
  unfold revision at h
  rw [Checks.guard_ok_iff, Checks.pure_ok_iff] at h
  exact h.2.symm

/-- What `supersede` stores. -/
theorem superseded_ok {actor reason : String} {now : Timestamp}
    (h : superseded prd actor reason now = .ok value) :
    value.key = prd.key ∧ value.status = .superseded ∧
      value.requirements.map (·.content) = prd.requirements.map (·.content) ∧
      value.author = prd.author ∧ value.approver = prd.approver ∧
      value.lockedAt = prd.lockedAt ∧
      value.revisionHistory =
        prd.revisionHistory ++ [⟨prd.version, actor, "SUPERSEDED", reason, now⟩] := by
  unfold superseded at h
  simp only [Checks.guard_bind_ok_iff, Checks.bind_ok_iff] at h
  obtain ⟨-, requirements, hrequirements, record, hrecord, hvalue⟩ := h
  have hfields := ProductRequirementsDocument.new_ok hvalue
  have hcontent : requirements.map (·.content) = prd.requirements.map (·.content) := by
    refine Checks.map_eq_of_mapM_ok ?_ hrequirements
    intro item changed hchanged
    unfold ProductRequirement.content
    rw [ProductRequirement.new_ok hchanged]
  unfold ProductRequirementsDocument.key
  rw [hfields, revision_ok hrecord]
  exact ⟨rfl, rfl, hcontent, rfl, rfl, rfl, rfl⟩

theorem created_ok {registered : Except Error Unit}
    (h : created casefold registered prd = .ok value) :
    value.key = prd.key ∧ value.status = .draft := by
  unfold created at h
  simp only [Checks.guard_bind_ok_iff, Checks.bind_ok_iff, Checks.pure_ok_iff] at h
  obtain ⟨hdraft, -, -, -, -, rfl⟩ := h
  exact ⟨rfl, not_not.mp hdraft⟩

theorem transitioned_ok {target : RequirementStatus} {actor reason : String} {now : Timestamp}
    (h : transitioned prd target actor reason now = .ok value) :
    value.key = prd.key ∧ value.status = target := by
  unfold transitioned at h
  simp only [Checks.bind_ok_iff] at h
  obtain ⟨requirements, -, record, -, hvalue⟩ := h
  unfold ProductRequirementsDocument.key
  rw [ProductRequirementsDocument.new_ok hvalue]
  exact ⟨rfl, rfl⟩

theorem approved_ok {approver : String} {now : Timestamp}
    (h : approved casefold prd approver now = .ok value) :
    value.key = prd.key ∧ value.status = .approved := by
  unfold approved at h
  simp only [Checks.guard_bind_ok_iff, Checks.bind_ok_iff, Checks.pure_ok_iff] at h
  obtain ⟨-, requirements, -, record, -, _, hvalue, _, -, rfl⟩ := h
  unfold ProductRequirementsDocument.key
  rw [ProductRequirementsDocument.new_ok hvalue]
  exact ⟨rfl, rfl⟩

theorem locked_ok {approver : String} {now : Timestamp}
    (h : locked casefold prd approver now = .ok value) :
    value.key = prd.key ∧ value.status = .locked := by
  unfold locked at h
  simp only [Checks.guard_bind_ok_iff, Checks.bind_ok_iff, Checks.pure_ok_iff] at h
  obtain ⟨-, requirements, -, record, -, _, hvalue, _, -, rfl⟩ := h
  unfold ProductRequirementsDocument.key
  rw [ProductRequirementsDocument.new_ok hvalue]
  exact ⟨rfl, rfl⟩

theorem revised_ok {version author reason : String} {now : Timestamp}
    (h : revised prd version author reason now = .ok value) :
    value.key = ⟨prd.productId, prd.prdId, version⟩ ∧ value.status = .draft := by
  unfold revised at h
  simp only [Checks.guard_bind_ok_iff, Checks.bind_ok_iff] at h
  obtain ⟨-, requirements, -, record, -, hvalue⟩ := h
  unfold ProductRequirementsDocument.key
  rw [ProductRequirementsDocument.new_ok hvalue]
  exact ⟨rfl, rfl⟩

def Call.Supersedes : Call → Prop
  | .supersede .. => True
  | _ => False

/-- A status that no document which has been locked may take, or the locked one. -/
def Reopened (status : RequirementStatus) : Prop :=
  status = .draft ∨ status = .underReview ∨ status = .approved ∨ status = .locked

theorem Call.value_ok (h : call.value casefold = .ok value) :
    value.key = call.target ∧ (¬call.Supersedes → Reopened value.status) := by
  cases call with
  | createPrd registered published prd =>
    obtain ⟨hkey, hstatus⟩ := created_ok h
    exact ⟨hkey, fun _ => .inl hstatus⟩
  | submitForReview prd actor now =>
    obtain ⟨hkey, hstatus⟩ := transitioned_ok h
    exact ⟨hkey, fun _ => .inr (.inl hstatus)⟩
  | approve published prd approver now =>
    obtain ⟨hkey, hstatus⟩ := approved_ok h
    exact ⟨hkey, fun _ => .inr (.inr (.inl hstatus))⟩
  | lock published prd approver now =>
    obtain ⟨hkey, hstatus⟩ := locked_ok h
    exact ⟨hkey, fun _ => .inr (.inr (.inr hstatus))⟩
  | revise prd version author reason now =>
    obtain ⟨hkey, hstatus⟩ := revised_ok h
    exact ⟨hkey, fun _ => .inl hstatus⟩
  | supersede prd actor reason now =>
    exact ⟨(superseded_ok h).1, fun hother => absurd trivial hother⟩

theorem advances_from_superseded {status : RequirementStatus}
    (h : Relation.ReflTransGen Advances .superseded status) :
    status = .superseded ∨ status = .archived := by
  induction h with
  | refl => exact .inl rfl
  | tail _ hstep ih =>
    rcases ih with rfl | rfl <;> cases hstep
    exact .inr rfl

/-- A superseded document does not become an open one. -/
theorem not_reopened_of_follows {old new : ProductRequirementsDocument}
    (hold : old.status = .superseded) (hfollows : Follows old new) :
    ¬Reopened new.status := by
  have hlate := advances_from_superseded (hold ▸ hfollows.status)
  unfold Reopened
  rcases hlate with hlate | hlate <;> simp [hlate]

theorem saved_at (store : Store) (value : ProductRequirementsDocument) (key : Key) :
    store.saved value key =
      if value.key = key ∧ key.isSafe = true ∧ ∀ existing, store key = some existing →
          existing.status = .locked → value.status = .superseded then some value
      else store key := by
  unfold Store.saved
  by_cases hkey : value.key = key
  · subst hkey
    by_cases hguard : value.key.isSafe = true ∧ ∀ existing, store value.key = some existing →
        existing.status = .locked → value.status = .superseded
    · rw [if_pos (And.intro rfl hguard)]
      refine (congrFun (if_pos hguard) value.key).trans ?_
      exact if_pos rfl
    · rw [if_neg (fun h : _ ∧ _ => hguard h.2)]
      exact congrFun (if_neg hguard) value.key
  · rw [if_neg (fun h : value.key = key ∧ _ => hkey h.1)]
    split
    · exact if_neg (Ne.symm hkey)
    · rfl

/-- The document of a version after a call. -/
theorem perform_at (casefold : String → String) (store : Store) (key : Key) (call : Call) :
    call.perform casefold store key =
      match call.value casefold with
      | .ok value =>
          if call.target = key ∧ key.isSafe = true ∧ ∀ existing, store key = some existing →
              existing.status = .locked → value.status = .superseded then some value
          else store key
      | .error _ => store key := by
  rw [Call.perform_eq]
  cases hvalue : call.value casefold with
  | error _ => rfl
  | ok value =>
    dsimp only
    rw [saved_at, (Call.value_ok hvalue).1]

/-! ## One call -/

/-- The version holds a document that has been locked, and no status but these was ever
reached since. -/
def Governed (key : Key) (store : Store) : Prop :=
  ∃ old, store key = some old ∧ (old.status = .locked ∨ old.status = .superseded)

theorem Lineage.of_eq {store' : Store} (h : store' key = store key) :
    Lineage key store store' := by
  intro old hold
  exact ⟨old, h.trans hold, .refl old⟩

theorem perform_unwritten
    (hunwritten : ¬(key.isSafe = true ∧ call.target = key ∧ call.Passes casefold)) :
    call.perform casefold store key = store key := by
  rw [perform_at]
  cases hvalue : call.value casefold with
  | error _ => rfl
  | ok value => exact if_neg fun h => hunwritten ⟨h.2.1, h.1, value, hvalue⟩

/-- A supersession that passes its checks keeps the version exactly when it is given a value
that agrees with the stored one. -/
theorem lineage_supersede_iff {old : ProductRequirementsDocument} {actor reason : String}
    {now : Timestamp} (hstored : store key = some old)
    (hphase : old.status = .locked ∨ old.status = .superseded) (hsafe : key.isSafe = true)
    (htarget : prd.key = key) (hvalue : superseded prd actor reason now = .ok value) :
    Lineage key store ((Call.supersede prd actor reason now).perform casefold store) ↔
      Agrees old prd actor reason now := by
  obtain ⟨-, hstatus, hrequirements, hauthor, happrover, hlockedAt, hhistory⟩ :=
    superseded_ok hvalue
  have hwritten : (Call.supersede prd actor reason now).perform casefold store key =
      some value := by
    rw [perform_at]
    simp only [Call.value, hvalue]
    exact if_pos ⟨htarget, hsafe, fun _ _ _ => hstatus⟩
  constructor
  · intro hlineage
    obtain ⟨new, hnew, hfollows⟩ := hlineage old hstored
    cases hwritten.symm.trans hnew
    exact
      { requirements := hrequirements.symm.trans hfollows.requirements
        author := hauthor.symm.trans hfollows.author
        approver := happrover.symm.trans hfollows.approver
        lockedAt := hlockedAt.symm.trans hfollows.lockedAt
        history := hhistory ▸ hfollows.history }
  · intro hagrees old' hold'
    cases hstored.symm.trans hold'
    refine ⟨value, hwritten, ?_⟩
    exact
      { requirements := hrequirements.trans hagrees.requirements
        author := hauthor.trans hagrees.author
        approver := happrover.trans hagrees.approver
        lockedAt := hlockedAt.trans hagrees.lockedAt
        status := by
          rw [hstatus]
          rcases hphase with h | h <;> rw [h]
          exact .single .supersede
        history := hhistory ▸ hagrees.history }

/-- Another call that passes its checks keeps the version exactly when it finds it locked,
and then it writes nothing. -/
theorem lineage_other_iff {old : ProductRequirementsDocument} (hstored : store key = some old)
    (hphase : old.status = .locked ∨ old.status = .superseded) (hsafe : key.isSafe = true)
    (htarget : call.target = key) (hvalue : call.value casefold = .ok value)
    (hother : ¬call.Supersedes) :
    (Lineage key store (call.perform casefold store) ↔ old.status = .locked) ∧
      (old.status = .locked → call.perform casefold store key = store key) := by
  have hreopened := (Call.value_ok hvalue).2 hother
  have hopen : value.status ≠ .superseded := by
    rcases hreopened with h | h | h | h <;> simp [h]
  have hrefused : old.status = .locked → call.perform casefold store key = store key := by
    intro hlocked
    rw [perform_at, hvalue]
    exact if_neg fun h => hopen (h.2.2 old hstored hlocked)
  refine ⟨⟨?_, fun hlocked => .of_eq (hrefused hlocked)⟩, hrefused⟩
  intro hlineage
  refine hphase.resolve_right fun hsuperseded => ?_
  obtain ⟨new, hnew, hfollows⟩ := hlineage old hstored
  have hwritten : call.perform casefold store key = some value := by
    rw [perform_at, hvalue]
    refine if_pos ⟨htarget, hsafe, fun existing hexisting hlocked => ?_⟩
    cases hstored.symm.trans hexisting
    rw [hsuperseded] at hlocked
    cases hlocked
  cases hwritten.symm.trans hnew
  exact not_reopened_of_follows hsuperseded hfollows hreopened

theorem lineage_iff_keeps (hgoverned : Governed key store) :
    Lineage key store (call.perform casefold store) ↔ Keeps casefold key store call := by
  obtain ⟨old, hstored, hphase⟩ := hgoverned
  by_cases hwrites : key.isSafe = true ∧ call.target = key ∧ call.Passes casefold
  · have hkeeps : Keeps casefold key store call ↔ call.Harmless old := by
      constructor
      · exact fun h => h old hstored hwrites.1 hwrites.2.1 hwrites.2.2
      · intro h old' hold' _ _ _
        cases hstored.symm.trans hold'
        exact h
    rw [hkeeps]
    obtain ⟨hsafe, htarget, value, hvalue⟩ := hwrites
    cases call with
    | supersede prd actor reason now =>
        exact lineage_supersede_iff hstored hphase hsafe htarget hvalue
    | createPrd | submitForReview | approve | lock | revise =>
        exact (lineage_other_iff hstored hphase hsafe htarget hvalue not_false).1
  · refine iff_of_true (.of_eq (perform_unwritten hwrites)) ?_
    intro _ _ hsafe htarget hpasses
    exact absurd ⟨hsafe, htarget, hpasses⟩ hwrites

/-- A version that is kept is still one that has been locked. -/
theorem Governed.perform (hgoverned : Governed key store)
    (hkeeps : Keeps casefold key store call) :
    Governed key (call.perform casefold store) := by
  obtain ⟨old, hstored, hphase⟩ := hgoverned
  have hunchanged (h : call.perform casefold store key = store key) :
      Governed key (call.perform casefold store) := ⟨old, h.trans hstored, hphase⟩
  by_cases hwrites : key.isSafe = true ∧ call.target = key ∧ call.Passes casefold
  · have hharmless := hkeeps old hstored hwrites.1 hwrites.2.1 hwrites.2.2
    obtain ⟨hsafe, htarget, value, hvalue⟩ := hwrites
    cases call with
    | supersede prd actor reason now =>
        have hstatus := (superseded_ok hvalue).2.1
        refine ⟨value, ?_, .inr hstatus⟩
        rw [perform_at, hvalue]
        exact if_pos ⟨htarget, hsafe, fun _ _ _ => hstatus⟩
    | createPrd | submitForReview | approve | lock | revise =>
        exact hunchanged
          ((lineage_other_iff hstored hphase hsafe htarget hvalue not_false).2 hharmless)
  · exact hunchanged (perform_unwritten hwrites)

/-! ## Runs -/

/-- In every run from a store that holds the version locked, each document of the version
follows the earlier ones exactly when every call keeps the version. -/
theorem locked_forward_iff (casefold : String → String) (store : Store) (key : Key)
    (old : ProductRequirementsDocument) (hstored : store key = some old)
    (hlocked : old.status = .locked) (calls : List Call) :
    Forward (Call.perform casefold) (Lineage key) store calls ↔
      AllMeet (Call.perform casefold) (Keeps casefold key) store calls := by
  refine forward_iff_allMeet (Governed key) ?_ ?_ calls store ⟨old, hstored, .inl hlocked⟩
  · exact fun _ _ hgoverned => lineage_iff_keeps hgoverned
  · exact fun _ _ hgoverned hkeeps => hgoverned.perform hkeeps

end Values

/-! ## A locked version that is rewritten -/

def lockedRequirement : ProductRequirement where
  requirementId := "req-1"
  title := "Secure login"
  description := "Authenticate learners"
  rationale := "Protect learner data"
  acceptanceCriteria := ["Valid login succeeds"]
  priority := .critical
  milestone := "Milestone 1"
  status := .locked
  version := "1.0"
  author := "owner"
  approver := some "reviewer"
  createdAt := 0
  updatedAt := 2
  affectedProducts := ["product"]
  tags := ["security"]
  category := .security
  lockedAt := some 2
  checked := by rfl

def lockedDocument : ProductRequirementsDocument where
  prdId := "prd"
  productId := "product"
  title := "Product PRD"
  version := "1.0"
  status := .locked
  author := "owner"
  approver := some "reviewer"
  requirements := [lockedRequirement]
  explicitExclusions := []
  futureRoadmap := []
  revisionHistory := [⟨"1.0", "reviewer", "LOCKED", "Approved requirements frozen", 2⟩]
  createdAt := 0
  updatedAt := 2
  lockedAt := some 2
  checked := by rfl

/-- A locked version that is superseded as it is stored is kept. -/
theorem locked_forward_iff_superseded :
    Forward (Call.perform id) (Lineage lockedDocument.key) (fun _ => some lockedDocument)
      [.supersede lockedDocument "reviewer" "Version 2" 3] := by
  refine (locked_forward_iff id _ _ lockedDocument rfl rfl _).mpr ⟨?_, trivial⟩
  intro old hold _ _ _
  obtain rfl := Option.some.inj hold
  exact ⟨rfl, rfl, rfl, rfl, List.prefix_append _ _⟩

/-- The locked document with another author. -/
def rewrittenDocument : ProductRequirementsDocument :=
  { lockedDocument with author := "intruder", checked := by rfl }

/-- Superseding a locked version stores the given value, here one with another author. -/
theorem supersede_rewrites :
    ¬∀ (casefold : String → String) (store : Store) (key : Key)
      (old : ProductRequirementsDocument) (calls : List Call),
      store key = some old → old.status = .locked →
      Forward (Call.perform casefold) (Lineage key) store calls := by
  intro hforward
  let store : Store := fun _ => some lockedDocument
  have hrun := hforward id store lockedDocument.key lockedDocument
    [.supersede rewrittenDocument "intruder" "Cleanup" 3] rfl rfl
  rw [forward_cons_iff] at hrun
  obtain ⟨new, hnew, hfollows⟩ := hrun.1 lockedDocument rfl
  have hauthor : (Call.perform id store (.supersede rewrittenDocument "intruder" "Cleanup" 3)
      lockedDocument.key).map (·.author) = some "intruder" := by decide +kernel
  rw [hnew] at hauthor
  have hchanged := (Option.some.inj hauthor).symm.trans hfollows.author
  exact absurd hchanged (by decide)

end Requirements
end Ascos
