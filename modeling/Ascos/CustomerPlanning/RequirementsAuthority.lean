import Ascos.CustomerPlanning.Requirements

/-!
# What an approval of requirements binds

Calls that save drafts and calls that approve them, side by side on one request.  A save looks
for an approval before it writes its revision, and an approval reads the draft before its
receipt is written; nothing keeps the one from happening in between the other.  Where it does
not happen, an approval locks the requirements and binds the last of their revisions.

Main results:

- Theorems `saveRequirements_kept` and `approveRequirements_kept`: what the two calls
  keep, whatever runs between their operations.
- Theorem `requirements_authority`: the approval binds the latest draft in every run in
  which no receipt is created behind the back of a save and no revision behind that of an
  approval.
-/

namespace Ascos
namespace CustomerPlanning

open Ascos.Library

/-! ## Revisions by their numbers -/

/-- The numbers of the revisions in the directory. -/
def State.numbers (s : State) : List Nat :=
  s.revisions.map Prod.fst

def State.approval (s : State) : Option (Written CustomerRequirementsApproval) :=
  s.files .requirementsApproval

theorem isSome_revision {s : State} {k : Nat} :
    (s.revision k).isSome = true ↔ k ∈ s.numbers := by
  unfold State.revision State.numbers
  rw [List.lookup_isSome_iff, List.mem_map]
  constructor
  · rintro ⟨entry, hentry, hk⟩
    exact ⟨entry, hentry, (beq_iff_eq.mp hk).symm⟩
  · rintro ⟨entry, hentry, hk⟩
    exact ⟨entry, hentry, beq_iff_eq.mpr hk.symm⟩

theorem revision_createRevision (me m k : Nat) (s : State) :
    (perform (.createRevision me m) s).revision k =
      if k = m then Written.created me (s.revision k) else s.revision k := by
  rw [perform_createRevision]
  by_cases hm : (s.revision m).isSome = true
  · rw [if_pos hm]
    split
    · rename_i hk
      subst hk
      obtain ⟨file, hfile⟩ := Option.isSome_iff_exists.mp hm
      rw [hfile, Written.created_some]
    · rfl
  · rw [if_neg hm]
    unfold State.revision
    rw [List.lookup_append]
    by_cases hk : k = m
    · subst hk
      have hnone : List.lookup k s.revisions = none := by
        rw [← Option.not_isSome_iff_eq_none]
        exact hm
      rw [if_pos rfl, hnone, List.lookup_cons_self]
      rfl
    · have hsingle : List.lookup k [(m, (Written.begun me : Written CustomerRequirementsDraft))] = none := by
        rw [List.lookup_cons, beq_eq_false_iff_ne.mpr hk]
        rfl
      rw [if_neg hk, hsingle, Option.or_none]

theorem numbers_createRevision (me m : Nat) (s : State) :
    (perform (.createRevision me m) s).numbers =
      if (s.revision m).isSome then s.numbers else s.numbers ++ [m] := by
  rw [perform_createRevision]
  split
  · rfl
  · simp [State.numbers]

theorem lookup_map_written (me : Nat) (value : CustomerRequirementsDraft) (k : Nat)
    (revisions : List (Nat × Written CustomerRequirementsDraft)) :
    List.lookup k (revisions.map fun entry =>
        if entry.1 = value.revision ∧ entry.2 = .begun me then (entry.1, .whole value)
        else entry) =
      if k = value.revision then Written.written me value (List.lookup k revisions)
      else List.lookup k revisions := by
  induction revisions with
  | nil => split <;> rfl
  | cons entry revisions ih =>
    obtain ⟨m, file⟩ := entry
    rw [List.map_cons]
    by_cases hm : k = m
    · subst hm
      by_cases hwritten : k = value.revision ∧ file = .begun me
      · obtain ⟨hk, hfile⟩ := hwritten
        rw [if_pos ⟨hk, hfile⟩, if_pos hk, List.lookup_cons_self, List.lookup_cons_self, hfile,
          Written.written_begun]
      · rw [if_neg hwritten, List.lookup_cons_self, List.lookup_cons_self]
        split
        · rename_i hk
          cases file with
          | whole value' => rfl
          | begun writer =>
              rw [Written.written_of_ne]
              rintro rfl
              exact hwritten ⟨hk, rfl⟩
        · rfl
    · have hhead : ((if m = value.revision ∧ file = .begun me then (m, Written.whole value)
          else (m, file)) : Nat × Written CustomerRequirementsDraft).1 = m := by
        split <;> rfl
      rw [List.lookup_cons, List.lookup_cons, hhead]
      have hbeq : (k == m) = false := beq_eq_false_iff_ne.mpr hm
      simp only [hbeq]
      exact ih

theorem revision_writeRevision (me k : Nat) (value : CustomerRequirementsDraft) (s : State) :
    (perform (.writeRevision me value) s).revision k =
      if k = value.revision then Written.written me value (s.revision k) else s.revision k :=
  lookup_map_written me value k s.revisions

theorem numbers_writeRevision (me : Nat) (value : CustomerRequirementsDraft) (s : State) :
    (perform (.writeRevision me value) s).numbers = s.numbers := by
  change (s.revisions.map _).map Prod.fst = s.revisions.map Prod.fst
  rw [List.map_map]
  apply List.map_congr_left
  intro entry _
  dsimp only [Function.comp_apply]
  split <;> rfl

theorem files_setFile_self (s : State) (record : Record)
    (file : Option (Written record.Content)) : (s.setFile record file).files record = file := by
  unfold State.setFile
  exact Function.update_self record file s.files

namespace RequirementsLock

/-! ## What holds of the files -/

variable (setting : Setting)

/-- An approval binds the revision under the last number, and all revisions are there. -/
structure Approved (s : State) : Prop where
  there : 1 ≤ s.revisions.length
  whole : ∀ k, 1 ≤ k → k ≤ s.revisions.length → ∃ draft, s.revision k = some (.whole draft)
  binds : ∀ approval draft, s.approval = some (.whole approval) →
    s.revision s.revisions.length = some (.whole draft) →
      ∃ request, s.request = some request ∧ approval.bindsDraft setting request draft = true

/-- The revisions are numbered from one, each under its own number, and there is an approval
only of the last one. -/
structure Valid (s : State) : Prop where
  numbers : s.numbers = List.range' 1 s.revisions.length
  drafts : ∀ k draft, s.revision k = some (.whole draft) → draft.revision = k
  approved : s.approval.isSome = true → Approved setting s

/-- What the files may become: nothing is taken away, and under an approval no revision is
added. -/
structure Grew (s t : State) : Prop where
  request : t.request = s.request
  length : s.revisions.length ≤ t.revisions.length
  revision : ∀ k, Written.Grows (s.revision k) (t.revision k)
  approval : Written.Grows s.approval t.approval
  locked : s.approval.isSome = true → t.revisions.length = s.revisions.length

variable {setting} {s t u : State}

theorem Grew.refl (s : State) : Grew s s :=
  ⟨rfl, le_refl _, fun _ => Written.Grows.refl _, Written.Grows.refl _, fun _ => rfl⟩

theorem Grew.trans (h : Grew s t) (h' : Grew t u) : Grew s u where
  request := h'.request.trans h.request
  length := h.length.trans h'.length
  revision k := (h.revision k).trans (h'.revision k)
  approval := h.approval.trans h'.approval
  locked hs := (h'.locked (h.approval.isSome hs)).trans (h.locked hs)

theorem length_numbers (s : State) : s.numbers.length = s.revisions.length :=
  List.length_map Prod.fst

theorem Valid.isSome_revision (h : Valid setting s) {k : Nat} :
    (s.revision k).isSome = true ↔ 1 ≤ k ∧ k ≤ s.revisions.length := by
  rw [CustomerPlanning.isSome_revision, h.numbers, List.mem_range'_1]
  omega

/-! ## Operations -/

theorem Valid.createRevision (h : Valid setting s) (hnone : s.approval = none) {me k : Nat}
    (hk : 1 ≤ k) (hbefore : ∀ j, 1 ≤ j → j < k → (s.revision j).isSome = true) :
    Valid setting (perform (.createRevision me k) s) ∧
      Grew s (perform (.createRevision me k) s) := by
  by_cases hsome : (s.revision k).isSome = true
  · have hsame : perform (.createRevision me k) s = s := by
      rw [perform_createRevision, if_pos hsome]
    rw [hsame]
    exact ⟨h, Grew.refl s⟩
  · have hlast : k = s.revisions.length + 1 := by
      rw [h.isSome_revision] at hsome
      by_cases hone : k = 1
      · omega
      · have hprev := h.isSome_revision.mp (hbefore (k - 1) (by omega) (by omega))
        omega
    have happroval : (perform (.createRevision me k) s).approval = none := by
      rw [perform_createRevision, if_neg hsome]
      exact hnone
    have hlength : (perform (.createRevision me k) s).revisions.length =
        s.revisions.length + 1 := by
      rw [perform_createRevision, if_neg hsome]
      simp
    refine ⟨⟨?_, ?_, ?_⟩, ?_, by omega, ?_, ?_, ?_⟩
    · rw [numbers_createRevision, if_neg hsome, hlength, h.numbers, hlast,
        List.range'_1_concat]
      congr 2
      omega
    · intro j draft hj
      rw [revision_createRevision] at hj
      split at hj
      · rename_i hjk
        subst hjk
        rw [Option.not_isSome_iff_eq_none.mp hsome] at hj
        cases hj
      · exact h.drafts j draft hj
    · intro hsome'
      rw [happroval] at hsome'
      cases hsome'
    · rw [perform_createRevision, if_neg hsome]
    · intro j
      rw [revision_createRevision]
      split
      · exact Written.grows_created me _
      · exact Written.Grows.refl _
    · rw [hnone]
      exact Written.grows_none
    · intro hsome'
      rw [hnone] at hsome'
      cases hsome'

theorem Valid.writeRevision (h : Valid setting s) (hnone : s.approval = none) {me : Nat}
    {value : CustomerRequirementsDraft} :
    Valid setting (perform (.writeRevision me value) s) ∧
      Grew s (perform (.writeRevision me value) s) := by
  have hlength : (perform (.writeRevision me value) s).revisions.length =
      s.revisions.length := by
    rw [← length_numbers, numbers_writeRevision, length_numbers]
  refine ⟨⟨?_, ?_, ?_⟩, rfl, by omega, ?_, Written.Grows.refl _, fun _ => hlength⟩
  · rw [numbers_writeRevision, hlength]
    exact h.numbers
  · intro k draft hk
    rw [revision_writeRevision] at hk
    split at hk
    · rename_i hkey
      cases hfile : s.revision k with
      | none =>
          rw [hfile] at hk
          cases hk
      | some file =>
          cases file with
          | whole value' =>
              rw [hfile, Written.written_whole] at hk
              exact h.drafts k draft (hfile.trans hk)
          | begun writer =>
              rw [hfile] at hk
              by_cases hwriter : writer = me
              · subst hwriter
                rw [Written.written_begun] at hk
                cases hk
                exact hkey.symm
              · rw [Written.written_of_ne hwriter] at hk
                cases hk
    · exact h.drafts k draft hk
  · intro hsome
    have happroval : (perform (.writeRevision me value) s).approval = s.approval := rfl
    rw [happroval, hnone] at hsome
    cases hsome
  · intro k
    rw [revision_writeRevision]
    split
    · exact Written.grows_written me value _
    · exact Written.Grows.refl _

theorem Valid.setApproval (h : Valid setting s)
    {file : Option (Written CustomerRequirementsApproval)}
    (hgrows : Written.Grows s.approval file)
    (hthere : 1 ≤ s.revisions.length)
    (hwhole : ∀ k, 1 ≤ k → k ≤ s.revisions.length → ∃ draft, s.revision k = some (.whole draft))
    (hbinds : ∀ approval draft, file = some (.whole approval) →
      s.revision s.revisions.length = some (.whole draft) →
        ∃ request, s.request = some request ∧ approval.bindsDraft setting request draft = true) :
    Valid setting (s.setFile .requirementsApproval file) ∧
      Grew s (s.setFile .requirementsApproval file) := by
  have hfile : (s.setFile .requirementsApproval file).approval = file :=
    files_setFile_self s .requirementsApproval file
  refine ⟨⟨h.numbers, h.drafts, fun _ => ⟨hthere, hwhole, ?_⟩⟩, rfl, le_refl _,
    fun _ => Written.Grows.refl _, ?_, fun _ => rfl⟩
  · intro approval draft ha hd
    rw [hfile] at ha
    exact hbinds approval draft ha hd
  · rw [hfile]
    exact hgrows

/-! ## What calls count on -/

/-- What a call has looked at stays as it was: no receipt appears after a save has looked for
one, and no revision after an approval or a reading has listed them. -/
def Undisturbed (call : RequirementsCall) (taken : List Operation) (s t : State) : Prop :=
  match call with
  | .save _ => .probe .requirementsApproval ∈ taken → s.approval = none → t.approval = none
  | .approve _ | .context =>
      .listRevisions ∈ taken → t.revisions.length = s.revisions.length

/-- The moves of the others that a call counts on. -/
def rely (setting : Setting) (call : RequirementsCall) (taken : List Operation)
    (s t : State) : Prop :=
  Valid setting t ∧ Grew s t ∧ Undisturbed call taken s t

/-- What the operations of a call keep to themselves. -/
def guarantee (setting : Setting) (call : RequirementsCall) (taken : List Operation)
    (operation : Operation) (s : State) : Prop :=
  rely setting call (operation :: taken) s (perform operation s)

/-- What a call has seen happen since. -/
def Since (setting : Setting) (call : RequirementsCall) (taken : List Operation)
    (s t : State) : Prop :=
  (Valid setting s → Valid setting t) ∧ Grew s t ∧ Undisturbed call taken s t

/-- A script keeps to its part, and never takes an approval for one of other requirements. -/
abbrev Kept (setting : Setting) (call : RequirementsCall) {α : Type} (x : Planning α)
    (taken : List Operation) (s : State) (Q : α → List Operation → State → Prop) : Prop :=
  Script.Safe perform (fun taken _ => rely setting call taken) (guarantee setting call) x taken s Q
    fun e _ _ => e ≠ .doesNotBind

section
variable {call : RequirementsCall} {taken taken' : List Operation} {α β : Type}
  {x : Planning α} {f : α → Planning β} {P : α → List Operation → State → Prop}
  {Q : β → List Operation → State → Prop}

theorem Undisturbed.refl (call : RequirementsCall) (taken : List Operation) (s : State) :
    Undisturbed call taken s s := by
  cases call with
  | save form => exact fun _ hs => hs
  | approve form => exact fun _ => rfl
  | context => exact fun _ => rfl

theorem Undisturbed.trans (h : Undisturbed call taken s t) (h' : Undisturbed call taken t u) :
    Undisturbed call taken s u := by
  cases call with
  | save form => exact fun htaken hs => h' htaken (h htaken hs)
  | approve form => exact fun htaken => (h' htaken).trans (h htaken)
  | context => exact fun htaken => (h' htaken).trans (h htaken)

theorem Undisturbed.earlier (hsuffix : taken <:+ taken') (h : Undisturbed call taken' s t) :
    Undisturbed call taken s t := by
  cases call with
  | save form => exact fun htaken => h (hsuffix.subset htaken)
  | approve form => exact fun htaken => h (hsuffix.subset htaken)
  | context => exact fun htaken => h (hsuffix.subset htaken)

theorem Since.refl (s : State) : Since setting call taken s s :=
  ⟨id, Grew.refl s, Undisturbed.refl call taken s⟩

theorem Since.trans (h : Since setting call taken s t) (h' : Since setting call taken t u) :
    Since setting call taken s u :=
  ⟨fun hs => h'.1 (h.1 hs), h.2.1.trans h'.2.1, h.2.2.trans h'.2.2⟩

theorem rely.since (hsuffix : taken <:+ taken') (h : rely setting call taken' s t) :
    Since setting call taken s t :=
  ⟨fun _ => h.1, h.2.1, h.2.2.earlier hsuffix⟩

/-- A script knows at its end what has happened since it began. -/
theorem Kept.recall (h : Kept setting call x taken s P) :
    Kept setting call x taken s fun a taken' t =>
      taken <:+ taken' ∧ Since setting call taken s t ∧ P a taken' t := by
  have hsince := Script.Safe.since (B := Since setting call taken) Since.refl
    (fun t u v => Since.trans) (fun taken' _ t u => rely.since)
    (fun taken' operation t hsuffix hguarantee =>
      rely.since (hsuffix.trans (List.suffix_cons operation taken')) hguarantee) h
  exact hsince.mono (fun a taken' t ha => ha) fun e taken' t he => he.2.2

/-- One script after the other: the second one knows what has happened since. -/
theorem Kept.bind (h : Kept setting call x taken s P)
    (hf : ∀ a taken' t, taken <:+ taken' → Since setting call taken s t → P a taken' t →
      Kept setting call (f a) taken' t Q) : Kept setting call (x >>= f) taken s Q := by
  rw [Kept, Script.safe_bind]
  apply h.recall.mono
  · rintro a taken' t ⟨hsuffix, hB, hP⟩
    exact hf a taken' t hsuffix hB hP
  · exact fun e taken' t he => he

/-- A result that is none of the bad ones. -/
def Reports {α : Type} (result : Except Error α) (P : α → Prop) : Prop :=
  (∀ a, result = .ok a → P a) ∧ ∀ e, result = .error e → e ≠ .doesNotBind

theorem reports_ok {a : α} {P : α → Prop} (h : P a) : Reports (.ok a) P := by
  constructor
  · rintro b ⟨⟩
    exact h
  · rintro e ⟨⟩

theorem reports_error {e : Error} {P : α → Prop} (h : e ≠ .doesNotBind) :
    Reports (.error e) P := by
  constructor
  · rintro a ⟨⟩
  · rintro e' ⟨⟩
    exact h

/-- An operation that only reads. -/
theorem kept_ask {operation : Operation} {report : State → Except Error α}
    (hperform : ∀ t, perform operation t = t)
    (h : ∀ t, rely setting call taken s t →
      Reports (report t) fun a => P a (operation :: taken) t) :
    Kept setting call (Script.ask operation report) taken s P := by
  rw [Kept, Script.safe_ask]
  intro t ht
  unfold guarantee
  rw [hperform]
  exact ⟨⟨ht.1, Grew.refl t, Undisturbed.refl call _ t⟩, h t ht⟩

/-- A result that is computed from what was read. -/
theorem kept_ofExcept {result : Except Error α} (h : Reports result fun a => P a taken s) :
    Kept setting call (Script.ofExcept result) taken s P :=
  Script.safe_ofExcept.mpr h

/-! ### Readings -/

theorem getRequest_kept :
    Kept setting call (getRequest setting) taken s fun request _ t =>
      Valid setting t ∧ t.request = some request := by
  apply kept_ask (fun t => rfl)
  intro t ht
  split
  · exact reports_error (by decide)
  · split
    · exact reports_error (by decide)
    · cases hrequest : t.request with
      | none => exact reports_error (by decide)
      | some request => exact reports_ok ⟨ht.1, rfl⟩

theorem path_kept (record : Record) :
    Kept setting call (path setting record) taken s fun _ _ _ => True := by
  apply kept_ask (fun t => rfl)
  intro t ht
  split
  · exact reports_error (by cases record <;> decide)
  · split
    · exact reports_error (by decide)
    · exact reports_ok trivial

theorem load_kept (record : Record) :
    Kept setting call (load setting record) taken s fun value _ t =>
      t.files record = some (.whole value) := by
  apply (path_kept record).bind
  rintro - taken' t hsuffix hsince -
  apply kept_ask (fun t => rfl)
  intro t' ht'
  cases hfile : t'.files record with
  | none => exact reports_error (by cases record <;> decide)
  | some file =>
    cases file with
    | begun writer => exact reports_error (by cases record <;> decide)
    | whole value =>
        dsimp only
        split
        · exact reports_ok rfl
        · exact reports_error (by cases record <;> decide)

/-- A record that was not found was not there when its file was looked for. -/
theorem find_kept (record : Record) :
    Kept setting call (find setting record) taken s fun value taken' t =>
      .probe record ∈ taken' ∧ (value = none → t.files record = none) ∧
        ∀ content, value = some content → t.files record = some (.whole content) := by
  apply (path_kept record).bind
  rintro - taken' t hsuffix hsince -
  apply Kept.bind (P := fun there taken'' t =>
    .probe record ∈ taken'' ∧ there = (t.files record).isSome)
  · apply kept_ask (fun t => rfl)
    intro t' ht'
    exact reports_ok ⟨List.mem_cons_self, rfl⟩
  · rintro there taken'' t'' hsuffix' hsince' ⟨hprobe, hthere⟩
    cases there with
    | true =>
        rw [if_pos rfl]
        apply (load_kept record).bind
        intro value taken₃ t₃ hsuffix₃ hsince₃ hvalue
        refine ⟨hsuffix₃.subset hprobe, fun hnone => (by cases hnone), ?_⟩
        rintro content ⟨⟩
        exact hvalue
    | false =>
        rw [if_neg (by decide)]
        refine ⟨hprobe, fun _ => ?_, fun content hcontent => by cases hcontent⟩
        exact Option.not_isSome_iff_eq_none.mp (by rw [← hthere]; decide)

theorem isLocked_kept (record : Record) :
    Kept setting call (isLocked setting record) taken s fun locked taken' t =>
      .probe record ∈ taken' ∧ (locked = false → t.files record = none) := by
  apply (find_kept record).bind
  rintro value taken' t hsuffix hsince ⟨hprobe, hnone, -⟩
  refine ⟨hprobe, fun hlocked => hnone ?_⟩
  exact Option.not_isSome_iff_eq_none.mp (by rw [hlocked]; decide)

/-! ### Revisions -/

def Loaded (revisions : List Nat) (values : List CustomerRequirementsDraft) (s : State) : Prop :=
  List.Forall₂ (fun revision value => s.revision revision = some (.whole value)) revisions values

theorem Loaded.grew {revisions : List Nat} {values : List CustomerRequirementsDraft}
    (h : Loaded revisions values s) (hgrew : Grew s t) : Loaded revisions values t := by
  apply h.imp
  intro revision value hvalue
  have hgrows := hgrew.revision revision
  rw [hvalue] at hgrows
  exact hgrows.whole

theorem listRevisions_kept :
    Kept setting call listRevisions taken s fun revisions taken' t =>
      .listRevisions ∈ taken' ∧ revisions = List.range' 1 t.revisions.length := by
  apply kept_ask (fun t => rfl)
  intro t ht
  dsimp only
  split
  · exact reports_error (by decide)
  · split
    · exact reports_error (by decide)
    · rename_i hcontiguous
      refine reports_ok ⟨List.mem_cons_self, ?_⟩
      have hlength : ((t.revisions.map Prod.fst).insertionSort (· ≤ ·)).length =
          t.revisions.length := by
        rw [List.length_insertionSort, List.length_map]
      rw [not_ne_iff.mp hcontiguous, hlength]

theorem loadRevision_kept (revision : Nat) :
    Kept setting call (loadRevision setting revision) taken s fun value _ t =>
      t.revision revision = some (.whole value) := by
  apply kept_ask (fun t => rfl)
  intro t ht
  cases hfile : t.revision revision with
  | none => exact reports_error (by decide)
  | some file =>
    cases file with
    | begun writer => exact reports_error (by decide)
    | whole value =>
        dsimp only
        split
        · exact reports_ok rfl
        · exact reports_error (by decide)

theorem loadRevisions_kept (revisions : List Nat) :
    Kept setting call (loadRevisions setting revisions) taken s fun values _ t =>
      Loaded revisions values t := by
  induction revisions generalizing taken s with
  | nil => exact List.Forall₂.nil
  | cons revision revisions ih =>
    apply (loadRevision_kept revision).bind
    intro value taken' t hsuffix hsince hvalue
    apply ih.bind
    intro values taken'' t' hsuffix' hsince' hvalues
    have hgrows := hsince'.2.1.revision revision
    rw [hvalue] at hgrows
    exact List.Forall₂.cons hgrows.whole hvalues

/-- All revisions that were there when they were listed, in their order.  None is added as long
as nothing disturbs an approval or a reading. -/
theorem history_kept :
    Kept setting call (history setting) taken s fun values taken' t =>
      .listRevisions ∈ taken' ∧ Loaded (List.range' 1 values.length) values t ∧
        ((∀ form, call ≠ .save form) → t.revisions.length = values.length) := by
  apply listRevisions_kept.bind
  rintro revisions taken' t hsuffix hsince ⟨hlisted, rfl⟩
  apply (loadRevisions_kept _).recall.mono
  · rintro values taken'' t' ⟨hsuffix', hsince', hloaded⟩
    have hlength : values.length = t.revisions.length := by
      rw [← hloaded.length_eq, List.length_range']
    refine ⟨hsuffix'.subset hlisted, by rwa [hlength], fun hcall => ?_⟩
    rw [hlength]
    cases call with
    | save form => exact absurd rfl (hcall form)
    | approve form => exact hsince'.2.2 hlisted
    | context => exact hsince'.2.2 hlisted
  · exact fun e taken'' t' he => he

theorem Loaded.revision {values : List CustomerRequirementsDraft}
    (h : Loaded (List.range' 1 values.length) values s) {k : Nat} (hk : k < values.length) :
    s.revision (k + 1) = some (.whole values[k]) := by
  have hget := (List.forall₂_iff_get.mp h).2 k (by rwa [List.length_range']) hk
  simpa [Nat.add_comm] using hget

/-- The draft is the last revision, and all revisions are there. -/
structure Current (draft : Option CustomerRequirementsDraft) (s : State) : Prop where
  whole : ∀ k, 1 ≤ k → k ≤ s.revisions.length → ∃ draft, s.revision k = some (.whole draft)
  empty : draft = none → s.revisions.length = 0
  last : ∀ value, draft = some value →
    1 ≤ s.revisions.length ∧ s.revision s.revisions.length = some (.whole value)

theorem Current.grew {draft : Option CustomerRequirementsDraft} (h : Current draft s)
    (hgrew : Grew s t) (hlength : t.revisions.length = s.revisions.length) :
    Current draft t := by
  have hrevision : ∀ k value, s.revision k = some (.whole value) →
      t.revision k = some (.whole value) := by
    intro k value hvalue
    have hgrows := hgrew.revision k
    rw [hvalue] at hgrows
    exact hgrows.whole
  refine ⟨?_, ?_, ?_⟩
  · intro k hk hle
    rw [hlength] at hle
    obtain ⟨value, hvalue⟩ := h.whole k hk hle
    exact ⟨value, hrevision k value hvalue⟩
  · intro hnone
    rw [hlength]
    exact h.empty hnone
  · intro value hvalue
    obtain ⟨hone, hlast⟩ := h.last value hvalue
    rw [hlength]
    exact ⟨hone, hrevision _ value hlast⟩

theorem latest_kept :
    Kept setting call (latest setting) taken s fun draft taken' t =>
      .listRevisions ∈ taken' ∧ ((∀ form, call ≠ .save form) → Current draft t) := by
  apply history_kept.bind
  rintro values taken' t hsuffix hsince ⟨hlisted, hloaded, hlength⟩
  refine ⟨hlisted, fun hcall => ?_⟩
  have hlength := hlength hcall
  refine ⟨?_, ?_, ?_⟩
  · intro k hk hle
    have hloaded := hloaded.revision (k := k - 1) (by omega)
    rw [Nat.sub_add_cancel hk] at hloaded
    exact ⟨_, hloaded⟩
  · intro hnone
    rw [List.getLast?_eq_none_iff] at hnone
    rw [hlength, hnone]
    rfl
  · intro value hvalue
    rw [List.getLast?_eq_getElem?, List.getElem?_eq_some_iff] at hvalue
    obtain ⟨hlt, hlast⟩ := hvalue
    have hloaded := hloaded.revision hlt
    rw [Nat.sub_add_cancel (by omega), hlast] at hloaded
    rw [hlength]
    exact ⟨by omega, hloaded⟩

/-! ### Contexts -/

theorem requirementsContext_kept :
    Kept setting call (requirementsContext setting) taken s fun context taken' t =>
      Valid setting t ∧ t.request = some context.1 ∧ .listRevisions ∈ taken' ∧
        ((∀ form, call ≠ .save form) → Current context.2 t) := by
  apply getRequest_kept.bind
  rintro request taken' t hsuffix hsince ⟨hvalid, hrequest⟩
  apply latest_kept.bind
  rintro draft taken'' t' hsuffix' hsince' ⟨hlisted, hcurrent⟩
  apply Script.safe_ite.mpr
  constructor
  · intro _
    exact (by decide : Error.draftConflict "Requirements source request changed" ≠ .doesNotBind)
  · intro _
    exact ⟨hsince'.1 hvalid, hsince'.2.1.request.trans hrequest, hlisted, hcurrent⟩

theorem requirementsApprovalContext_kept (hcall : ∀ form, call ≠ .save form) :
    Kept setting call (requirementsApprovalContext setting) taken s fun context taken' t =>
      Valid setting t ∧ t.request = some context.1 ∧ .listRevisions ∈ taken' ∧
        Current context.2.1 t := by
  apply requirementsContext_kept.bind
  rintro context taken' t hsuffix hsince ⟨hvalid, hrequest, hlisted, hcurrent⟩
  apply (find_kept .requirementsApproval).bind
  rintro approval taken'' t' hsuffix' hsince' ⟨-, -, happroval⟩
  have hvalid' := hsince'.1 hvalid
  have hrequest' := hsince'.2.1.request.trans hrequest
  have hlength : t'.revisions.length = t.revisions.length := by
    cases call with
    | save form => exact absurd rfl (hcall form)
    | approve form => exact hsince'.2.2 hlisted
    | context => exact hsince'.2.2 hlisted
  have hcurrent' := (hcurrent hcall).grew hsince'.2.1 hlength
  apply Script.safe_ite.mpr
  constructor
  · intro _
    exact ⟨hvalid', hrequest', hsuffix'.subset hlisted, hcurrent'⟩
  · intro hbinds
    refine absurd ?_ hbinds
    cases approval with
    | none => rfl
    | some value =>
        have hfile : t'.approval = some (.whole value) := happroval value rfl
        have hbound := hvalid'.approved (by rw [hfile]; rfl)
        cases hdraft : context.2 with
        | none =>
            have hnone := hcurrent'.empty hdraft
            have hthere := hbound.there
            omega
        | some draft =>
            obtain ⟨hone, hlast⟩ := hcurrent'.last draft hdraft
            obtain ⟨request, hrequest'', hdraft'⟩ := hbound.binds value draft hfile hlast
            rw [hrequest'] at hrequest''
            cases hrequest''
            simpa using hdraft'

/-! ### Writes -/

/-- An operation that may write. -/
theorem kept_step {operation : Operation} {report : State → Except Error α}
    (h : ∀ t, rely setting call taken s t →
      guarantee setting call taken operation t ∧
        Reports (report t) fun a => P a (operation :: taken) (perform operation t)) :
    Kept setting call (Script.ask operation report) taken s P :=
  Script.safe_ask.mpr h

theorem kept_act {operation : Operation} {P : Unit → List Operation → State → Prop}
    (h : ∀ t, rely setting call taken s t →
      guarantee setting call taken operation t ∧
        P () (operation :: taken) (perform operation t)) :
    Kept setting call (Script.act operation) taken s P :=
  Script.safe_act.mpr h

theorem saveRevision_kept {form : DraftForm} {me : Nat} {value : CustomerRequirementsDraft}
    (hprobe : .probe .requirementsApproval ∈ taken) (hnone : s.approval = none) :
    Kept setting (.save form) (saveRevision setting me value) taken s fun _ _ _ => True := by
  apply history_kept.bind
  rintro values taken' t hsuffix hsince ⟨-, hloaded, -⟩
  have hprobe' := hsuffix.subset hprobe
  have hnone' : t.approval = none := hsince.2.2 hprobe hnone
  apply Script.safe_ite.mpr
  constructor
  · intro _
    exact (by decide : Error.draftConflict "Requirements revision is stale" ≠ .doesNotBind)
  · intro hrevision
    apply Kept.bind (P := fun _ _ t => t.approval = none)
    · apply kept_step
      intro t' ht'
      have happroval : t'.approval = none := ht'.2.2 hprobe' hnone'
      have hcreated : Valid setting (perform (.createRevision me value.revision) t') ∧
          Grew t' (perform (.createRevision me value.revision) t') :=
        ht'.1.createRevision happroval (by omega) (by
          intro j hj hlt
          have hthere := (hloaded.grew ht'.2.1).revision (k := j - 1) (by omega)
          rw [Nat.sub_add_cancel hj] at hthere
          rw [hthere]
          rfl)
      have hsame : (perform (.createRevision me value.revision) t').approval =
          t'.approval := by
        rw [perform_createRevision]
        split <;> rfl
      exact ⟨⟨hcreated.1, hcreated.2, fun _ h => hsame.trans h⟩,
        reports_ok (hsame.trans happroval)⟩
    · intro fresh taken'' t' hsuffix' hsince' hnone''
      have hprobe'' := hsuffix'.subset hprobe'
      apply Script.safe_ite.mpr
      constructor
      · intro _
        apply Kept.bind (P := fun _ _ _ => True)
        · apply kept_act
          intro u hu
          have happroval : u.approval = none := hu.2.2 hprobe'' hnone''
          have hwritten : Valid setting (perform (.writeRevision me value) u) ∧
              Grew u (perform (.writeRevision me value) u) := hu.1.writeRevision happroval
          exact ⟨⟨hwritten.1, hwritten.2, fun _ h => h⟩, trivial⟩
        · intro _ _ _ _ _ _
          trivial
      · intro _
        apply (loadRevision_kept value.revision).bind
        intro existing _ _ _ _ _
        apply Script.safe_ite.mpr
        exact ⟨fun _ => trivial, fun _ => (by decide :
          Error.draftConflict "Requirements revision already exists" ≠ .doesNotBind)⟩

theorem saveCandidate_kept {form : DraftForm} {me : Nat} {request : CustomerProductRequest}
    {latest : Option CustomerRequirementsDraft}
    (hprobe : .probe .requirementsApproval ∈ taken) (hnone : s.approval = none) :
    Kept setting (.save form) (saveCandidate setting me form request latest) taken s
      fun _ _ _ => True := by
  apply Script.safe_ite.mpr
  constructor
  · intro _
    exact (by decide : Error.value "Requirements platforms are invalid" ≠ .doesNotBind)
  · intro _
    apply Kept.bind (P := fun _ taken' t => taken' = taken ∧ t = s)
    · apply kept_ofExcept
      constructor
      · exact fun _ _ => ⟨rfl, rfl⟩
      · rintro e he rfl
        have hclass := constructed_raises
          (CustomerRequirementsDraft.postInit_raises setting.casefold _) _ he
        exact absurd hclass (by decide)
    · rintro candidate taken' t - - ⟨rfl, rfl⟩
      cases latest.filter fun value : CustomerRequirementsDraft =>
        decide (value.businessContent = candidate.businessContent) with
      | some value => trivial
      | none =>
          apply Script.safe_ite.mpr
          exact ⟨fun _ => (by decide :
            Error.draftConflict "Requirements form is stale" ≠ .doesNotBind),
            fun _ => saveRevision_kept hprobe hnone⟩

theorem saveRequirements_kept {form : DraftForm} {me : Nat} :
    Kept setting (.save form) (saveRequirements setting me form) taken s
      fun _ _ _ => True := by
  apply requirementsContext_kept.bind
  intro context taken' t hsuffix hsince _
  apply (isLocked_kept .requirementsApproval).bind
  rintro locked taken'' t' hsuffix' hsince' ⟨hprobe, hunlocked⟩
  apply Script.safe_ite.mpr
  constructor
  · intro _
    exact (by decide : (⟨.requirementsDraftLocked, "Approved requirements cannot be revised"⟩ :
      Error) ≠ .doesNotBind)
  · intro hlocked
    exact saveCandidate_kept hprobe (hunlocked (Bool.eq_false_iff.mpr hlocked))

theorem saveApproval_kept {form : ApprovalForm} {me : Nat} {request : CustomerProductRequest}
    {draft : CustomerRequirementsDraft} {value : CustomerRequirementsApproval}
    (hlisted : .listRevisions ∈ taken) (hrequest : s.request = some request)
    (hcurrent : Current (some draft) s) (hbinds : value.bindsDraft setting request draft = true) :
    Kept setting (.approve form) (save setting me .requirementsApproval value) taken s
      fun _ _ _ => True := by
  -- a change of the receipt's file binds the draft that is still the last one
  have hchange : ∀ t file, Valid setting t → t.request = some request →
      Current (some draft) t → Written.Grows t.approval file →
        (∀ approval, file = some (.whole approval) →
          t.approval = some (.whole approval) ∨ approval = value) →
            Valid setting (t.setFile .requirementsApproval file) ∧
              Grew t (t.setFile .requirementsApproval file) := by
    intro t file hvalid hrequest' hcurrent' hgrows hfile
    obtain ⟨hone, hlast⟩ := hcurrent'.last draft rfl
    apply hvalid.setApproval hgrows hone hcurrent'.whole
    intro approval draft' happroval hdraft'
    rw [hlast] at hdraft'
    cases hdraft'
    obtain hold | rfl := hfile approval happroval
    · exact (hvalid.approved (by rw [hold]; rfl)).binds approval draft hold hlast
    · exact ⟨request, hrequest', hbinds⟩
  apply (path_kept .requirementsApproval).bind
  rintro - taken' t hsuffix hsince -
  have hcurrent' := hcurrent.grew hsince.2.1 (hsince.2.2 hlisted)
  have hrequest' := hsince.2.1.request.trans hrequest
  have hlisted' := hsuffix.subset hlisted
  apply Kept.bind (P := fun _ _ t => Current (some draft) t ∧ t.request = some request)
  · apply kept_step
    intro u hu
    have hcurrent'' := hcurrent'.grew hu.2.1 (hu.2.2 hlisted')
    have hrequest'' := hu.2.1.request.trans hrequest'
    have hcreated := hchange u (Written.created me u.approval) hu.1 hrequest'' hcurrent''
      (Written.grows_created me _) (by
        intro approval happroval
        cases hfile : u.approval with
        | none =>
            rw [hfile] at happroval
            cases happroval
        | some file =>
            rw [hfile] at happroval
            exact .inl happroval)
    exact ⟨⟨hcreated.1, hcreated.2, fun _ => rfl⟩,
      reports_ok ⟨hcurrent''.grew hcreated.2 rfl, hrequest''⟩⟩
  · rintro fresh taken'' u hsuffix' hsince' ⟨hcurrent'', hrequest''⟩
    have hlisted'' := hsuffix'.subset hlisted'
    apply Script.safe_ite.mpr
    constructor
    · intro _
      apply Kept.bind (P := fun _ _ _ => True)
      · apply kept_act
        intro v hv
        have hwritten := hchange v (Written.written me value v.approval) hv.1
          (hv.2.1.request.trans hrequest'') (hcurrent''.grew hv.2.1 (hv.2.2 hlisted''))
          (Written.grows_written me value _) (by
            intro approval happroval
            exact Written.written_cases happroval)
        exact ⟨⟨hwritten.1, hwritten.2, fun _ => rfl⟩, trivial⟩
      · intro _ _ _ _ _ _
        trivial
    · intro _
      apply (load_kept .requirementsApproval).bind
      intro existing _ _ _ _ _
      apply Script.safe_ite.mpr
      exact ⟨fun _ => trivial, fun _ => (by decide :
        Record.conflict .requirementsApproval ≠ .doesNotBind)⟩

theorem approveRequirements_kept {form : ApprovalForm} {me : Nat} :
    Kept setting (.approve form) (approveRequirements setting me form) taken s
      fun _ _ _ => True := by
  apply Script.safe_ite.mpr
  constructor
  · intro _
    exact (by decide :
      Error.value "Explicit requirements confirmation is required" ≠ .doesNotBind)
  · intro _
    apply (requirementsApprovalContext_kept (by intro form' h; cases h)).bind
    rintro ⟨request, draft, existing⟩ taken' t hsuffix hsince
      ⟨hvalid, hrequest, hlisted, hcurrent⟩
    cases draft with
    | none =>
        exact (by decide :
          Error.approvalConflict "A saved requirements draft is required" ≠ .doesNotBind)
    | some draft =>
        apply Script.safe_ite.mpr
        constructor
        · intro _
          exact (by decide :
            Error.approvalConflict "Requirements approval form is stale" ≠ .doesNotBind)
        · intro _
          cases existing with
          | some existing => trivial
          | none =>
              apply Kept.bind (P := fun value taken'' u =>
                value = form.receipt setting request draft ∧ taken'' = taken' ∧ u = t)
              · apply kept_ofExcept
                constructor
                · intro value hvalue
                  unfold constructed at hvalue
                  rw [Checks.bind_ok_iff] at hvalue
                  obtain ⟨_, -, hvalue⟩ := hvalue
                  exact ⟨(Checks.pure_ok_iff.mp hvalue).symm, rfl, rfl⟩
                · rintro e he rfl
                  have hclass := constructed_raises
                    (CustomerRequirementsApproval.postInit_raises _) _ he
                  exact absurd hclass (by decide)
              · rintro value taken'' u - - ⟨rfl, rfl, rfl⟩
                exact saveApproval_kept hlisted hrequest hcurrent
                  (by simp [CustomerRequirementsApproval.bindsDraft, ApprovalForm.receipt])

/-- Every call keeps to its part. -/
theorem perform_kept (me : Nat) (call : RequirementsCall) :
    Kept setting call (call.perform setting me) taken s fun _ _ _ => True := by
  cases call with
  | save form =>
    apply saveRequirements_kept.bind
    intro _ _ _ _ _ _
    trivial
  | approve form =>
    apply approveRequirements_kept.bind
    intro _ _ _ _ _ _
    trivial
  | context =>
    apply (requirementsApprovalContext_kept (by intro form' h; cases h)).bind
    intro _ _ _ _ _ _
    trivial

end

/-! ## Runs -/

/-- The calls on the request, side by side. -/
abbrev RequirementsPool :=
  Pool RequirementsCall State Operation Error Unit

/-- A move that leaves alone what the other calls have looked at. -/
def Undisturbing (setting : Setting) (w : RequirementsPool) (move : Move RequirementsCall) :
    Prop :=
  ∀ (number : Nat) (process : Process RequirementsCall State Operation Error Unit),
    w.processes[number]? = some process → process.Active → move ≠ .advance number →
      Undisturbed process.call process.taken w.shared
        (w.next perform (fun me call => call.perform setting me) move).shared

/-- Calls that are made one after the other disturb nobody. -/
theorem undisturbing_of_oneAtATime {setting : Setting} {w : RequirementsPool}
    {move : Move RequirementsCall} (h : w.OneAtATime move) : Undisturbing setting w move := by
  intro number process hprocess hactive hmove
  obtain ⟨hlt, heq⟩ := List.getElem?_eq_some_iff.mp hprocess
  exact absurd (h ⟨number, hlt⟩ (by rw [Fin.getElem_fin, heq]; exact hactive)) hmove

/-- The parts that the calls keep to. -/
def discipline (setting : Setting) :
    Discipline RequirementsCall State Operation Error Unit where
  perform := perform
  program me call := call.perform setting me
  rely _ call taken _ := rely setting call taken
  guarantee _ call := guarantee setting call
  post _ result := result ≠ .error .doesNotBind
  last _ _ _ _ := True
  inv w := Valid setting w.shared
  condition := Undisturbing setting
  safe number call s := by
    apply (perform_kept number call).mono
    · intro a taken t _
      exact ⟨fun h => (by cases h), trivial⟩
    · intro e taken t he
      refine ⟨?_, trivial⟩
      rintro ⟨⟩
      exact he rfl
  own w number call taken operation rest hinv _ _ :=
    ⟨hinv, Grew.refl w.shared, Undisturbed.refl call taken w.shared⟩
  others w number call taken operation rest other call' taken' operation' rest' hinv hcondition
      hprocess hguarantee hne hother t ht := by
    have hmoved := hcondition other _ hother ⟨operation', rest', rfl⟩
      (fun h => hne (Move.advance.inj h).symm)
    rw [Pool.next_advance hprocess] at hmoved
    exact ⟨ht.1, hguarantee.2.1.trans ht.2.1, hmoved.trans ht.2.2⟩
  started w call hinv _ := hinv
  advanced w number call taken operation rest hinv _ hprocess hguarantee _ := by
    rw [Pool.next_advance hprocess]
    exact hguarantee.1
  died w number call taken operation rest hinv _ _ := hinv

end RequirementsLock

open RequirementsLock

/-- A request with no draft and no approval, on which no call runs. -/
def freshRequest (request : Option CustomerProductRequest) : RequirementsPool :=
  ⟨⟨request, [], fun _ => none, none⟩, []⟩

/-- The calls on the request after a run of moves. -/
def requirementsAfter (setting : Setting) (request : Option CustomerProductRequest)
    (moves : List (Move RequirementsCall)) : RequirementsPool :=
  (freshRequest request).after perform (fun me call => call.perform setting me) moves

/-- An approval is one of the revision with the last number. -/
def BindsLatest (setting : Setting) (s : State) : Prop :=
  ∀ approval, s.approval = some (.whole approval) →
    ∃ draft, s.revisions.getLast? = some (approval.draftRevision, .whole draft) ∧
      approval.requirementsDigest = draft.digest setting

/-- What an approval of the requirements has to guarantee in a run: under it the revisions
stay as they are, it binds the last of them, and neither a call nor a later reading finds that
it does not bind the requirements. -/
structure RequirementsAuthority (setting : Setting) (request : Option CustomerProductRequest)
    (moves : List (Move RequirementsCall)) : Prop where
  locked : ∀ before later, moves = before ++ later →
    (requirementsAfter setting request before).shared.approval.isSome = true →
      ∀ revision, (requirementsAfter setting request moves).shared.revision revision =
        (requirementsAfter setting request before).shared.revision revision
  latest : BindsLatest setting (requirementsAfter setting request moves).shared
  reading : ((requirementsApprovalContext setting).alone perform
    (requirementsAfter setting request moves).shared).1 ≠ .error .doesNotBind
  calls : ∀ (number : Nat) (process : Process RequirementsCall State Operation Error Unit),
    (requirementsAfter setting request moves).processes[number]? = some process →
      ¬process.Returned (.error .doesNotBind)

theorem freshRequest_coherent (setting : Setting) (request : Option CustomerProductRequest) :
    (discipline setting).Coherent (freshRequest request) := by
  apply Discipline.coherent_nil
  refine ⟨rfl, ?_, ?_⟩
  · intro k draft hk
    cases hk
  · intro hsome
    cases hsome

theorem RequirementsLock.Grew.revision_eq {setting : Setting} {s t : State} (hgrew : Grew s t)
    (hs : Valid setting s) (ht : Valid setting t) (hsome : s.approval.isSome = true)
    (k : Nat) : t.revision k = s.revision k := by
  have hlength := hgrew.locked hsome
  by_cases hthere : 1 ≤ k ∧ k ≤ s.revisions.length
  · obtain ⟨draft, hdraft⟩ := (hs.approved hsome).whole k hthere.1 hthere.2
    have hgrows := hgrew.revision k
    rw [hdraft] at hgrows ⊢
    exact hgrows.whole
  · have hnone : s.revision k = none := by
      rw [← Option.not_isSome_iff_eq_none, hs.isSome_revision]
      exact hthere
    have hnone' : t.revision k = none := by
      rw [← Option.not_isSome_iff_eq_none, ht.isSome_revision, hlength]
      exact hthere
    rw [hnone, hnone']

/-- An approval of the last revision is one of the last entry. -/
theorem RequirementsLock.Valid.bindsLatest {setting : Setting} {s : State}
    (h : Valid setting s) : BindsLatest setting s := by
  intro approval happroval
  obtain ⟨hthere, hwhole, hbinds⟩ := h.approved (by rw [happroval]; rfl)
  obtain ⟨draft, hdraft⟩ := hwhole s.revisions.length hthere (le_refl _)
  obtain ⟨request, -, hbound⟩ := hbinds approval draft happroval hdraft
  simp only [CustomerRequirementsApproval.bindsDraft, Bool.and_eq_true, decide_eq_true_eq]
    at hbound
  have hrevision : approval.draftRevision = s.revisions.length := by
    rw [← h.drafts _ draft hdraft]
    exact hbound.1.1.2
  refine ⟨draft, ?_, hbound.2⟩
  obtain ⟨before, later, hentries, -⟩ := List.lookup_eq_some_iff.mp hdraft
  have hnumbers := h.numbers
  have hordered := List.pairwise_lt_range' (s := 1) (n := s.revisions.length)
  rw [← hnumbers, State.numbers, hentries, List.map_append, List.map_cons,
    List.pairwise_append, List.pairwise_cons] at hordered
  -- an entry behind this one would have a number above the last
  have hlater : later = [] := by
    apply List.eq_nil_iff_forall_not_mem.mpr
    intro entry hentry
    have hlt := hordered.2.1.1 entry.1 (List.mem_map_of_mem hentry)
    have hmem : entry.1 ∈ s.numbers := by
      rw [State.numbers, hentries]
      exact List.mem_map_of_mem (List.mem_append_right _ (List.mem_cons_of_mem _ hentry))
    rw [hnumbers, List.mem_range'_1] at hmem
    omega
  rw [hrevision]
  conv_lhs => rw [hentries, hlater]
  exact List.getLast?_concat

/-- In a run whose moves leave alone what the calls have looked at, an approval locks the
requirements that it binds. -/
theorem requirements_authority (setting : Setting) (request : Option CustomerProductRequest)
    (moves : List (Move RequirementsCall))
    (h : Pool.Meets perform (fun me call => call.perform setting me) (Undisturbing setting)
      moves (freshRequest request)) : RequirementsAuthority setting request moves := by
  have hcoherent : (discipline setting).Coherent (requirementsAfter setting request moves) :=
    Discipline.coherent_after (freshRequest_coherent setting request) h
  refine ⟨?_, ?_, ?_, ?_⟩
  · rintro before later rfl hsome revision
    obtain ⟨hbefore, hlater⟩ := Pool.meets_append.mp h
    have hcoherent' : (discipline setting).Coherent (requirementsAfter setting request before) :=
      Discipline.coherent_after (freshRequest_coherent setting request) hbefore
    have hgrew : Grew (requirementsAfter setting request before).shared
        (requirementsAfter setting request (before ++ later)).shared := by
      unfold requirementsAfter
      rw [Pool.after_append]
      exact (discipline setting).along Grew.refl (fun _ _ _ => Grew.trans)
        (fun w number call taken operation rest hinv hcondition hprocess hguarantee =>
          hguarantee.2.1) hcoherent' hlater
    exact hgrew.revision_eq hcoherent'.1 hcoherent.1 hsome revision
  · exact hcoherent.1.bindsLatest
  · intro herror
    have hkept {s : State} : Kept setting .context (requirementsApprovalContext setting) [] s _ :=
      requirementsApprovalContext_kept (by intro form hform; cases hform)
    have halone := (Script.Safe.alone (P := Valid setting) hkept
      (fun taken _ t ht => ⟨ht, Grew.refl t, Undisturbed.refl _ taken t⟩)
      (fun taken operation t hguarantee => hguarantee.1) hcoherent.1).2
    obtain ⟨_, hne⟩ := halone .doesNotBind _ (Prod.ext herror rfl)
    exact hne rfl
  · intro number process hprocess hreturned
    exact hcoherent.post hprocess hreturned rfl

/-! ## Examples -/

def tasksRequest : CustomerProductRequest where
  requestId := "request-1"
  customerId := "customer-1"
  productName := "Tasks"
  productSummary := "A list of tasks."
  targetUsers := "Teams"
  features := ["Tasks"]
  constraints := []
  submittedAt := 0

def journeyForm (expectedRevision : Int) (journey : String) : DraftForm where
  expectedRevision
  primaryUserJourney := journey
  desiredOutcomes := ["Order"]
  mustHaveFeatures := ["Tasks"]
  successMetrics := ["Done"]
  nonGoals := []
  platforms := ["WEB"]
  dataSensitivity := .noPersonalData
  deliveryPriority := .standard
  now := 1

/-- The confirmation of the first journey. -/
def firstApproval : ApprovalForm where
  expectedRevision := 1
  expectedDigest := exampleHash "First"
  confirmed := true
  now := 2

/-- The moves of the save of a first revision. -/
def firstSaved : List (Move RequirementsCall) :=
  .start (.save (journeyForm 0 "First")) :: List.replicate 7 (.advance 0)

/-- The approval of the first revision once it is saved. -/
def firstApproved : List (Move RequirementsCall) :=
  firstSaved ++ .start (.approve firstApproval) :: List.replicate 8 (.advance 1)

/-- The save of a second revision that has found no approval when the first one is approved. -/
def firstOvertaken : List (Move RequirementsCall) :=
  firstSaved ++ .start (.save (journeyForm 1 "Second")) :: List.replicate 5 (.advance 1) ++
    .start (.approve firstApproval) :: List.replicate 8 (.advance 2) ++
      List.replicate 4 (.advance 1)

/-- A save and an approval after it. -/
theorem requirements_authority_first :
    RequirementsAuthority .example (some tasksRequest) firstApproved := by
  have honeAtATime : Pool.Meets perform
      (fun me call => RequirementsCall.perform .example me call) Pool.OneAtATime firstApproved
        (freshRequest (some tasksRequest)) := by decide +kernel
  exact requirements_authority .example (some tasksRequest) firstApproved
    (honeAtATime.mono fun w move => undisturbing_of_oneAtATime)

/-- The approval of the first revision does not bind the second one. -/
theorem not_requirements_authority :
    ¬∀ setting request moves, RequirementsAuthority setting request moves := by
  intro h
  have hlatest := (h .example (some tasksRequest) firstOvertaken).latest
  have hrun : (Written.content? (requirementsAfter .example (some tasksRequest)
      firstOvertaken).shared.approval).map (·.draftRevision) = some 1 ∧
        (requirementsAfter .example (some tasksRequest)
          firstOvertaken).shared.revisions.getLast?.map Prod.fst = some 2 := by decide +kernel
  obtain ⟨hreceipt, hlast⟩ := hrun
  obtain ⟨approval, happroval, hrevision⟩ := Option.map_eq_some_iff.mp hreceipt
  obtain ⟨draft, hdraft, -⟩ := hlatest approval (Written.content?_eq_some.mp happroval)
  rw [hdraft, hrevision] at hlast
  cases hlast

end CustomerPlanning
end Ascos
