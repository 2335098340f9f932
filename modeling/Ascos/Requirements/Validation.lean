import Ascos.Requirements.Model
import Mathlib.Data.List.Perm.Subperm

/-!
# What validation reports

`validate_requirements` and `validate_superseding` of
`runtime/product_requirements/validation.py`, against the declarations of the requirements.

Main results:

- Theorem `complete_iff`: the reports are complete exactly when no declaration comes from the
  larger side alone and no cycle is hidden by a repeated identifier.
-/

namespace Ascos
namespace Requirements

open Library

variable {casefold : String → String} {requirements : List ProductRequirement}
variable {code title : String} {ids : List String}

/-! ## Declarations -/

/-- The identifier of some requirement. -/
def Known (requirements : List ProductRequirement) (id : String) : Prop :=
  ∃ item ∈ requirements, item.requirementId = id

/-- A requirement of this identifier names the other in `conflicts_with`. -/
def Declares (requirements : List ProductRequirement) (id target : String) : Prop :=
  ∃ item ∈ requirements, item.requirementId = id ∧ target ∈ item.conflictsWith

def Supersedes (requirements : List ProductRequirement) (id target : String) : Prop :=
  ∃ item ∈ requirements, item.requirementId = id ∧ item.supersedes = some target

/-- The identifiers of the requirements with this normalised title. -/
def titled (casefold : String → String) (requirements : List ProductRequirement)
    (title : String) : List String :=
  (requirements.filter fun item => normal casefold item.title = title).map (·.requirementId)

/-- An issue of this code is reported for these identifiers. -/
def Reports (issues : List ValidationIssue) (code : String) (ids : List String) : Prop :=
  ∃ issue ∈ issues, issue.code = code ∧ issue.requirementIds = ids

/-- The issues that the declarations call for. -/
structure Complete (casefold : String → String) (requirements : List ProductRequirement) :
    Prop where
  terminates : ∀ start, supersedingCycle (supersedingLinks requirements)
    ((supersedingLinks requirements).length + 1) start [] ≠ none
  conflicts : ∀ ids, Reports (validateRequirements casefold requirements)
    "CONFLICTING_REQUIREMENTS" ids ↔
      ∃ first second, ids = [first, second] ∧ first ≤ second ∧ Known requirements first ∧
        Known requirements second ∧
          (Declares requirements first second ∨ Declares requirements second first)
  unknown : ∀ ids, Reports (validateRequirements casefold requirements) "UNKNOWN_CONFLICT" ids ↔
    ∃ id target, ids = [id, target] ∧ Declares requirements id target ∧
      ¬ Known requirements target
  duplicates : ∀ ids, Reports (validateRequirements casefold requirements)
    "DUPLICATE_REQUIREMENT" ids ↔
      ∃ title, ids = titled casefold requirements title ∧ 1 < ids.length
  circular : (∃ ids, Reports (validateSuperseding requirements) "CIRCULAR_SUPERSEDING" ids) ↔
    ∃ id, Relation.TransGen (Supersedes requirements) id id
  clean : ∀ prd : ProductRequirementsDocument, prd.requirements = requirements →
    validatePrd casefold prd = [] → ∀ id target, ¬ Declares requirements id target

/-- Every conflict between requirements that the larger side declares is also declared by the
other side, and none is declared with itself. -/
def Answered (requirements : List ProductRequirement) : Prop :=
  ∀ first second, first ≤ second → Known requirements first →
    Declares requirements second first → first < second ∧ Declares requirements first second

/-- The target of the last requirement of this identifier that supersedes another. -/
def lastSuperseded (requirements : List ProductRequirement) (id : String) : Option String :=
  (requirements.reverse.find? fun item =>
    item.requirementId = id ∧ isAbsent item.supersedes = false).bind (·.supersedes)

/-- A cycle of the superseding graph remains when each identifier keeps its last link only. -/
def KeepsCycles (requirements : List ProductRequirement) : Prop :=
  (∃ id, Relation.TransGen (Supersedes requirements) id id) →
    ∃ id, Relation.TransGen (Leads (lastSuperseded requirements)) id id

/-! ## Issues of the requirements -/

theorem mem_validateRequirements {issue : ValidationIssue} :
    issue ∈ validateRequirements casefold requirements ↔
      (∃ item ∈ requirements,
        issue ∈ requirementIssues (requirements.map (·.requirementId)) item) ∨
      issue ∈ duplicateIssues casefold requirements := by
  simp [validateRequirements]

theorem mem_requirementIssues {knownIds : List String} {item : ProductRequirement}
    {issue : ValidationIssue}
    (hcode : issue.code = "CONFLICTING_REQUIREMENTS" ∨ issue.code = "UNKNOWN_CONFLICT") :
    issue ∈ requirementIssues knownIds item ↔ ∃ conflict ∈ item.conflictsWith,
      (conflict ∉ knownIds ∧ issue = ⟨"UNKNOWN_CONFLICT", "Conflict target is unknown",
        [item.requirementId, conflict]⟩) ∨
      (conflict ∈ knownIds ∧ item.requirementId < conflict ∧
        issue = ⟨"CONFLICTING_REQUIREMENTS", "Requirements explicitly conflict",
          [item.requirementId, conflict]⟩) := by
  have hinner : ∀ conflict, (issue ∈
      if conflict ∉ knownIds then
        [⟨"UNKNOWN_CONFLICT", "Conflict target is unknown", [item.requirementId, conflict]⟩]
      else if item.requirementId < conflict then
        [⟨"CONFLICTING_REQUIREMENTS", "Requirements explicitly conflict",
          [item.requirementId, conflict]⟩]
      else []) ↔
      (conflict ∉ knownIds ∧ issue = ⟨"UNKNOWN_CONFLICT", "Conflict target is unknown",
        [item.requirementId, conflict]⟩) ∨
      (conflict ∈ knownIds ∧ item.requirementId < conflict ∧
        issue = ⟨"CONFLICTING_REQUIREMENTS", "Requirements explicitly conflict",
          [item.requirementId, conflict]⟩) := by
    intro conflict
    by_cases hknown : conflict ∈ knownIds
    · by_cases hlt : item.requirementId < conflict
      · simp [hknown, hlt]
      · simp [hknown, hlt]
    · simp [hknown]
  unfold requirementIssues
  simp only [List.mem_append, List.mem_flatMap, hinner]
  constructor
  · rintro ((((h | h) | h) | h) | h)
    · simp [List.mem_singleton.mp (List.mem_ite_nil_right.mp h).2] at hcode
    · simp [List.mem_singleton.mp (List.mem_ite_nil_right.mp h).2] at hcode
    · simp [List.mem_singleton.mp (List.mem_ite_nil_right.mp h).2] at hcode
    · simp [List.mem_singleton.mp (List.mem_ite_nil_right.mp h).2] at hcode
    · exact h
  · exact .inr

theorem code_of_mem_requirementIssues {knownIds : List String} {item : ProductRequirement}
    {issue : ValidationIssue} (h : issue ∈ requirementIssues knownIds item) :
    issue.code ≠ "DUPLICATE_REQUIREMENT" := by
  intro hcode
  unfold requirementIssues at h
  simp only [List.mem_append, List.mem_flatMap] at h
  rcases h with (((h | h) | h) | h) | ⟨conflict, -, h⟩
  · simp [List.mem_singleton.mp (List.mem_ite_nil_right.mp h).2] at hcode
  · simp [List.mem_singleton.mp (List.mem_ite_nil_right.mp h).2] at hcode
  · simp [List.mem_singleton.mp (List.mem_ite_nil_right.mp h).2] at hcode
  · simp [List.mem_singleton.mp (List.mem_ite_nil_right.mp h).2] at hcode
  · by_cases hknown : conflict ∈ knownIds
    · simp only [hknown, not_true, if_false] at h
      simp [List.mem_singleton.mp (List.mem_ite_nil_right.mp h).2] at hcode
    · simp only [hknown, not_false_iff, if_true, List.mem_singleton] at h
      simp [h] at hcode

theorem mem_duplicateIssues {issue : ValidationIssue} :
    issue ∈ duplicateIssues casefold requirements ↔
      ∃ title, 1 < (titled casefold requirements title).length ∧
        issue = ⟨"DUPLICATE_REQUIREMENT", "Requirements have duplicate normalized titles",
          titled casefold requirements title⟩ := by
  simp only [duplicateIssues, List.mem_flatMap, ← titled.eq_def]
  constructor
  · rintro ⟨title, -, h⟩
    by_cases hlength : 1 < (titled casefold requirements title).length
    · rw [if_pos hlength, List.mem_singleton] at h
      exact ⟨title, hlength, h⟩
    · rw [if_neg hlength] at h
      simp at h
  · rintro ⟨title, hlength, rfl⟩
    refine ⟨title, ?_, by rw [if_pos hlength]; exact List.mem_singleton_self _⟩
    -- A shared title is the title of some requirement, and so it is one of the keys.
    have hne : titled casefold requirements title ≠ [] := by
      intro hnil
      simp [hnil] at hlength
    obtain ⟨id, hid⟩ := List.exists_mem_of_ne_nil _ hne
    simp only [titled, List.mem_map, List.mem_filter, decide_eq_true_eq] at hid
    obtain ⟨item, ⟨hitem, htitle⟩, -⟩ := hid
    rw [List.mem_eraseDups, List.mem_map]
    exact ⟨item, hitem, htitle⟩

theorem reports_conflict_iff : Reports (validateRequirements casefold requirements)
    "CONFLICTING_REQUIREMENTS" ids ↔
      ∃ first second, ids = [first, second] ∧ first < second ∧ Known requirements second ∧
        Declares requirements first second := by
  constructor
  · rintro ⟨issue, hissue, hcode, rfl⟩
    rcases mem_validateRequirements.mp hissue with ⟨item, hitem, h⟩ | h
    · obtain ⟨conflict, hconflict, ⟨-, rfl⟩ | ⟨hknown, hlt, rfl⟩⟩ :=
        (mem_requirementIssues (.inl hcode)).mp h
      · simp at hcode
      · exact ⟨item.requirementId, conflict, rfl, hlt, by simpa [Known] using hknown,
          item, hitem, rfl, hconflict⟩
    · obtain ⟨title, -, rfl⟩ := mem_duplicateIssues.mp h
      simp at hcode
  · rintro ⟨_, second, rfl, hlt, hknown, item, hitem, rfl, hconflict⟩
    refine ⟨⟨"CONFLICTING_REQUIREMENTS", "Requirements explicitly conflict",
      [item.requirementId, second]⟩, mem_validateRequirements.mpr (.inl ⟨item, hitem, ?_⟩), rfl,
      rfl⟩
    exact (mem_requirementIssues (.inl rfl)).mpr
      ⟨second, hconflict, .inr ⟨by simpa [Known] using hknown, hlt, rfl⟩⟩

theorem reports_unknown_iff : Reports (validateRequirements casefold requirements)
    "UNKNOWN_CONFLICT" ids ↔
      ∃ id target, ids = [id, target] ∧ Declares requirements id target ∧
        ¬ Known requirements target := by
  constructor
  · rintro ⟨issue, hissue, hcode, rfl⟩
    rcases mem_validateRequirements.mp hissue with ⟨item, hitem, h⟩ | h
    · obtain ⟨conflict, hconflict, ⟨hunknown, rfl⟩ | ⟨-, -, rfl⟩⟩ :=
        (mem_requirementIssues (.inr hcode)).mp h
      · exact ⟨item.requirementId, conflict, rfl, ⟨item, hitem, rfl, hconflict⟩,
          by simpa [Known] using hunknown⟩
      · simp at hcode
    · obtain ⟨title, -, rfl⟩ := mem_duplicateIssues.mp h
      simp at hcode
  · rintro ⟨_, target, rfl, ⟨item, hitem, rfl, hconflict⟩, hunknown⟩
    refine ⟨⟨"UNKNOWN_CONFLICT", "Conflict target is unknown", [item.requirementId, target]⟩,
      mem_validateRequirements.mpr (.inl ⟨item, hitem, ?_⟩), rfl, rfl⟩
    exact (mem_requirementIssues (.inr rfl)).mpr
      ⟨target, hconflict, .inl ⟨by simpa [Known] using hunknown, rfl⟩⟩

theorem reports_duplicate_iff : Reports (validateRequirements casefold requirements)
    "DUPLICATE_REQUIREMENT" ids ↔
      ∃ title, ids = titled casefold requirements title ∧ 1 < ids.length := by
  constructor
  · rintro ⟨issue, hissue, hcode, rfl⟩
    rcases mem_validateRequirements.mp hissue with ⟨item, hitem, h⟩ | h
    · exact absurd hcode (code_of_mem_requirementIssues h)
    · obtain ⟨title, hlength, rfl⟩ := mem_duplicateIssues.mp h
      exact ⟨title, rfl, hlength⟩
  · rintro ⟨title, rfl, hlength⟩
    exact ⟨_, mem_validateRequirements.mpr (.inr (mem_duplicateIssues.mpr ⟨title, hlength, rfl⟩)),
      rfl, rfl⟩

/-! ## Cycles of the superseding graph -/

theorem lookup_supersedingLinks (requirements : List ProductRequirement) (id : String) :
    List.lookup id (supersedingLinks requirements) = lastSuperseded requirements id := by
  unfold supersedingLinks lastSuperseded
  rw [← List.filterMap_reverse]
  induction requirements.reverse with
  | nil => rfl
  | cons item rest ih =>
    cases hsupersedes : item.supersedes with
    | none => simp [hsupersedes, ih, isAbsent]
    | some superseded =>
        by_cases hempty : superseded = ""
        · simp [hsupersedes, hempty, ih, isAbsent]
        · by_cases hid : item.requirementId = id
          · simp [hsupersedes, hempty, hid, isAbsent]
          · have hid' : id ≠ item.requirementId := Ne.symm hid
            simp [hsupersedes, hempty, hid, List.lookup_cons, beq_false_of_ne hid', ih]

/-- The last link of an identifier is an edge of the graph. -/
theorem supersedes_of_leads {first second : String}
    (h : Leads (lastSuperseded requirements) first second) :
    Supersedes requirements first second := by
  obtain ⟨item, hfind, hsupersedes⟩ := Option.bind_eq_some_iff.mp h
  have hitem : item ∈ requirements := List.mem_reverse.mp (List.mem_of_find?_eq_some hfind)
  have hfound := List.find?_some hfind
  simp only [decide_eq_true_eq] at hfound
  exact ⟨item, hitem, hfound.1, hsupersedes⟩

theorem mem_keys_of_leads {first second : String}
    (h : Leads (fun id => List.lookup id (supersedingLinks requirements)) first second) :
    first ∈ (supersedingLinks requirements).map Prod.fst := by
  obtain ⟨before, after, hlinks, -⟩ := List.lookup_eq_some_iff.mp h
  rw [hlinks]
  simp

/-- The loop from any identifier ends. -/
theorem supersedingCycle_ne_none (start : String) :
    supersedingCycle (supersedingLinks requirements)
      ((supersedingLinks requirements).length + 1) start [] ≠ none :=
  chase_ne_none (fun _ _ => mem_keys_of_leads) List.nodup_nil (List.nil_subset _) (by simp)

theorem reports_circular_iff :
    (∃ ids, Reports (validateSuperseding requirements) "CIRCULAR_SUPERSEDING" ids) ↔
      ∃ id, Relation.TransGen (Leads (lastSuperseded requirements)) id id := by
  have hlookup : (fun id => List.lookup id (supersedingLinks requirements)) =
      lastSuperseded requirements := funext (lookup_supersedingLinks requirements)
  rw [← hlookup, ← exists_chase_iff (fun _ _ => mem_keys_of_leads)
    (Nat.lt_succ_of_le (List.length_map _).le)]
  simp only [Reports, validateSuperseding, supersedingCycle, List.mem_mergeSort, List.mem_map,
    List.mem_dedup, List.mem_filterMap, Option.join_eq_some_iff]
  constructor
  · rintro ⟨_, _, ⟨cycle, ⟨link, hlink, hcycle⟩, rfl⟩, -, -⟩
    exact ⟨link.1, ⟨link, hlink, rfl⟩, cycle, hcycle⟩
  · rintro ⟨_, ⟨link, hlink, rfl⟩, cycle, hcycle⟩
    exact ⟨cycle, _, ⟨cycle, ⟨link, hlink, hcycle⟩, rfl⟩, rfl, rfl⟩

/-! ## Complete reports -/

theorem Declares.known {id target : String} (h : Declares requirements id target) :
    Known requirements id := by
  obtain ⟨item, hitem, hid, -⟩ := h
  exact ⟨item, hitem, hid⟩

theorem conflicts_iff_answered :
    (∀ ids, Reports (validateRequirements casefold requirements) "CONFLICTING_REQUIREMENTS" ids ↔
      ∃ first second, ids = [first, second] ∧ first ≤ second ∧ Known requirements first ∧
        Known requirements second ∧
          (Declares requirements first second ∨ Declares requirements second first)) ↔
      Answered requirements := by
  simp only [reports_conflict_iff]
  constructor
  · intro h first second hle hknown hdeclares
    obtain ⟨_, _, hids, hlt, -, hfirst⟩ :=
      (h [first, second]).mpr ⟨first, second, rfl, hle, hknown, hdeclares.known, .inr hdeclares⟩
    simp only [List.cons.injEq, and_true] at hids
    obtain ⟨rfl, rfl⟩ := hids
    exact ⟨hlt, hfirst⟩
  · intro hanswered ids
    constructor
    · rintro ⟨first, second, rfl, hlt, hknown, hdeclares⟩
      exact ⟨first, second, rfl, hlt.le, hdeclares.known, hknown, .inl hdeclares⟩
    · rintro ⟨first, second, rfl, hle, hfirst, hsecond, hdeclares | hdeclares⟩
      · rcases hle.lt_or_eq with hlt | rfl
        · exact ⟨first, second, rfl, hlt, hsecond, hdeclares⟩
        · exact absurd (hanswered first first le_rfl hfirst hdeclares).1 (lt_irrefl _)
      · obtain ⟨hlt, hback⟩ := hanswered first second hle hfirst hdeclares
        exact ⟨first, second, rfl, hlt, hsecond, hback⟩

/-- The reports are complete exactly when every declared conflict is also declared by the smaller
side and the repeated identifiers hide no cycle. -/
theorem complete_iff : Complete casefold requirements ↔
    Answered requirements ∧ KeepsCycles requirements := by
  constructor
  · intro hcomplete
    refine ⟨conflicts_iff_answered.mp hcomplete.conflicts, fun hcycle => ?_⟩
    exact reports_circular_iff.mp (hcomplete.circular.mpr hcycle)
  · rintro ⟨hanswered, hcycles⟩
    have hconflicts := (@conflicts_iff_answered casefold _).mpr hanswered
    refine ⟨supersedingCycle_ne_none, hconflicts, fun ids => reports_unknown_iff,
      fun ids => reports_duplicate_iff, ⟨fun hreport => ?_, fun hcycle => ?_⟩, ?_⟩
    · obtain ⟨id, hcycle⟩ := reports_circular_iff.mp hreport
      exact ⟨id, Relation.TransGen.mono (fun _ _ => supersedes_of_leads) _ _ hcycle⟩
    · exact reports_circular_iff.mpr (hcycles hcycle)
    · rintro prd rfl hclean id target hdeclares
      have hnone : ∀ code ids,
          ¬ Reports (validateRequirements casefold prd.requirements) code ids := by
        rintro code ids ⟨issue, hissue, -⟩
        have hmem : issue ∈ validatePrd casefold prd := by
          simp [validatePrd, hissue]
        rw [hclean] at hmem
        exact List.not_mem_nil hmem
      by_cases hknown : Known prd.requirements target
      · rcases le_total id target with hle | hle
        · exact hnone _ _ ((hconflicts _).mpr
            ⟨id, target, rfl, hle, hdeclares.known, hknown, .inl hdeclares⟩)
        · exact hnone _ _ ((hconflicts _).mpr
            ⟨target, id, rfl, hle, hknown, hdeclares.known, .inr hdeclares⟩)
      · exact hnone _ _ (reports_unknown_iff.mpr ⟨id, target, rfl, hdeclares, hknown⟩)

/-! ## A conflict that is not reported -/

def sampleRequirement (requirementId : String) (conflictsWith : List String)
    (checked : ({
      requirementId, title := requirementId, description := "Authenticate learners"
      rationale := "Protect learner data", acceptanceCriteria := ["Valid login succeeds"]
      priority := .critical, milestone := "Milestone 1", status := .draft, version := "1.0"
      author := "owner", approver := none, createdAt := 0, updatedAt := 0
      affectedProducts := [], tags := [], category := .security, conflictsWith } :
        RequirementFields).postInit = .ok ()) : ProductRequirement :=
  ⟨_, checked⟩

/-- The second requirement declares a conflict with the first one, and nothing is reported. -/
theorem not_complete : ¬ ∀ casefold requirements, Complete casefold requirements := by
  intro hcomplete
  have hanswered := conflicts_iff_answered.mp (hcomplete id
    [sampleRequirement "req-1" [] (by rfl), sampleRequirement "req-2" ["req-1"] (by rfl)]).conflicts
  obtain ⟨-, item, hitem, hid, hconflict⟩ := hanswered "req-1" "req-2" (by decide)
    ⟨_, List.mem_cons_self, rfl⟩ ⟨_, List.mem_cons_of_mem _ List.mem_cons_self, rfl, by decide⟩
  simp only [List.mem_cons, List.not_mem_nil, or_false] at hitem
  rcases hitem with rfl | rfl
  · exact absurd hconflict (by decide)
  · exact absurd hid (by decide)

end Requirements
end Ascos
