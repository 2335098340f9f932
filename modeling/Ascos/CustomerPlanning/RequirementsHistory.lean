import Ascos.CustomerPlanning.RequirementsAuthority

/-!
# The history of requirements

Saves of `FileCustomerRequirementsStore` that run side by side on one request, each of
which may die before any of its operations.

Main results:

- Theorem `saveRevision_safe`: what a save keeps, whatever runs between its operations.
- Theorem `begun_after_iff`: a revision is torn exactly when a save is about to write it or
  died there.
- Theorem `requirements_history`: revisions from one on that stay, one winner for each, and
  when they can be read.
-/

namespace Ascos
namespace CustomerPlanning
namespace RequirementsHistory

open Ascos.Library
open RequirementsLock (Valid Grew)

/-! ## What saves count on -/

variable (setting : Setting)

/-- A draft of the request. -/
def Binds (value : CustomerRequirementsDraft) : Prop :=
  value.customerId = setting.customerId ∧ value.requestId = setting.requestId

/-- A call of `save` for the request. -/
abbrev Save : Type :=
  { value : CustomerRequirementsDraft // Binds setting value }

/-- A revision is created by a call and not written yet. -/
def Begun (s : State) (me k : Nat) : Prop :=
  s.revision k = some (.begun me)

/-- The revisions are numbered from one and belong to the request. -/
structure Stored (s : State) : Prop where
  valid : Valid setting s
  unapproved : s.approval = none
  bound : ∀ k value, s.revision k = some (.whole value) → Binds setting value

/-- A call that has not begun has no revision of its own. -/
def Calm (me : Nat) (taken : List Operation) (s : State) : Prop :=
  taken ≠ [] → ∀ k, ¬ Begun s me k

/-- What the others may do: they leave what is stored, and what this call has created. -/
structure Rely (me : Nat) (taken : List Operation) (s t : State) : Prop where
  stored : Stored setting t
  grew : Grew s t
  own : ∀ k, Begun t me k ↔ Begun s me k
  fresh : taken = [] → ∀ k, ¬ Begun t me k

/-- What the operations of a call keep to: the only one that is taken on a revision of its own
is the write. -/
structure Guarantee (me : Nat) (call : Save setting) (operation : Operation) (s : State) :
    Prop where
  stored : Stored setting (perform operation s)
  grew : Grew s (perform operation s)
  others : ∀ other, other ≠ me → ∀ k, Begun (perform operation s) other k ↔ Begun s other k
  write : ∀ k, Begun s me k → operation = .writeRevision me call.1 ∧ k = call.1.revision
  begun : ∀ writer value, operation = .writeRevision writer value → Begun s me value.revision

/-- A script of a save that leaves no revision of its own, however it ends. -/
abbrev Kept (me : Nat) (call : Save setting) {α : Type} (x : Planning α)
    (taken : List Operation) (s : State) (Q : α → List Operation → State → Prop) : Prop :=
  Script.Safe perform (fun taken _ => Rely setting me taken)
    (fun _ => Guarantee setting me call) x taken s Q fun _ _ t => ∀ k, ¬ Begun t me k

section Readings

variable {setting} {me : Nat} {call : Save setting} {taken : List Operation} {s t : State}
  {α β : Type} {P : α → List Operation → State → Prop}

theorem Rely.calm (h : Rely setting me taken s t) (hcalm : Calm me taken s) :
    ∀ k, ¬ Begun t me k := by
  intro k
  by_cases htaken : taken = []
  · exact h.fresh htaken k
  · rw [h.own]
    exact hcalm htaken k

/-- A reading of a call that has no revision of its own. -/
theorem kept_read {operation : Operation} {report : State → Except Error α}
    (hsame : ∀ t, perform operation t = t)
    (hread : ∀ writer value, operation ≠ .writeRevision writer value)
    (hcalm : Calm me taken s)
    (h : ∀ t, Stored setting t → Grew s t → (∀ k, ¬ Begun t me k) →
      ∀ a, report t = .ok a → P a (operation :: taken) t) :
    Kept setting me call (Script.ask operation report) taken s P := by
  refine Script.safe_ask.mpr fun t ht => ?_
  have hnone := ht.calm hcalm
  rw [hsame]
  refine ⟨⟨?_, ?_, ?_, fun k hk => absurd hk (hnone k), fun writer value heq =>
    absurd heq (hread writer value)⟩, h t ht.stored ht.grew hnone, fun e _ => hnone⟩
  · rw [hsame]
    exact ht.stored
  · rw [hsame]
    exact Grew.refl t
  · intro other _ k
    rw [hsame]

theorem listRevisions_safe (hcalm : Calm me taken s) :
    Kept setting me call listRevisions taken s fun revisions taken' t =>
      taken' ≠ [] ∧ (∀ k, ¬ Begun t me k) ∧ revisions = List.range' 1 revisions.length := by
  refine kept_read (fun _ => rfl) (fun _ _ h => (by cases h)) hcalm
    fun t _ _ hnone revisions hrevisions => ⟨List.cons_ne_nil _ _, hnone, ?_⟩
  dsimp only at hrevisions
  split at hrevisions
  · cases hrevisions
  · split at hrevisions
    · cases hrevisions
    · rename_i hcontiguous
      cases hrevisions
      exact not_ne_iff.mp hcontiguous

theorem loadRevision_safe (revision : Nat) (hcalm : Calm me taken s) :
    Kept setting me call (loadRevision setting revision) taken s fun value taken' t =>
      taken' ≠ [] ∧ (∀ k, ¬ Begun t me k) ∧ Grew s t ∧
        t.revision revision = some (.whole value) := by
  refine kept_read (fun _ => rfl) (fun _ _ h => (by cases h)) hcalm fun t _ hgrew hnone value hvalue => ?_
  refine ⟨List.cons_ne_nil _ _, hnone, hgrew, ?_⟩
  cases hfile : t.revision revision with
  | none => rw [hfile] at hvalue; cases hvalue
  | some file =>
    cases file with
    | begun writer => rw [hfile] at hvalue; cases hvalue
    | whole value' =>
        rw [hfile] at hvalue
        dsimp only at hvalue
        split at hvalue
        · cases hvalue
          rfl
        · cases hvalue

theorem loadRevisions_safe (revisions : List Nat) (htaken : taken ≠ [])
    (hcalm : ∀ k, ¬ Begun s me k) :
    Kept setting me call (loadRevisions setting revisions) taken s fun values taken' t =>
      taken' ≠ [] ∧ (∀ k, ¬ Begun t me k) ∧ Grew s t ∧
        RequirementsLock.Loaded revisions values t := by
  induction revisions generalizing taken s with
  | nil => exact ⟨htaken, hcalm, Grew.refl s, List.Forall₂.nil⟩
  | cons revision revisions ih =>
    refine Script.safe_bind.mpr ((loadRevision_safe revision fun _ => hcalm).mono ?_
      fun _ _ _ he => he)
    rintro value taken' t ⟨htaken', hnone, hgrew, hvalue⟩
    refine Script.safe_bind.mpr ((ih htaken' hnone).mono ?_ fun _ _ _ he => he)
    rintro values taken'' t' ⟨htaken'', hnone', hgrew', hvalues⟩
    have hgrows := hgrew'.revision revision
    rw [hvalue] at hgrows
    exact ⟨htaken'', hnone', hgrew.trans hgrew', List.Forall₂.cons hgrows.whole hvalues⟩

theorem history_safe (hcalm : Calm me taken s) :
    Kept setting me call (history setting) taken s fun values taken' t =>
      taken' ≠ [] ∧ (∀ k, ¬ Begun t me k) ∧
        RequirementsLock.Loaded (List.range' 1 values.length) values t := by
  refine Script.safe_bind.mpr ((listRevisions_safe hcalm).mono ?_ fun _ _ _ he => he)
  rintro revisions taken' t ⟨htaken, hnone, hrevisions⟩
  refine (loadRevisions_safe revisions htaken hnone).mono ?_ fun _ _ _ he => he
  rintro values taken'' t' ⟨htaken', hnone', -, hloaded⟩
  refine ⟨htaken', hnone', ?_⟩
  rw [← hloaded.length_eq, ← hrevisions]
  exact hloaded

end Readings

/-! ## What saves keep -/

section Saves

variable {setting} {me : Nat} {call : Save setting} {taken : List Operation} {s t : State}

theorem begun_createRevision {k revision other : Nat} :
    Begun (perform (.createRevision me revision) s) other k ↔
      Begun s other k ∨ k = revision ∧ s.revision k = none ∧ other = me := by
  unfold Begun
  rw [revision_createRevision]
  by_cases hk : k = revision
  · subst hk
    cases hfile : s.revision k with
    | none =>
        rw [if_pos rfl, Written.created_none]
        simp [eq_comm]
    | some file =>
        rw [if_pos rfl, Written.created_some]
        simp
  · simp [hk]

theorem begun_writeRevision {k other : Nat} {value : CustomerRequirementsDraft} :
    Begun (perform (.writeRevision me value) s) other k ↔
      Begun s other k ∧ ¬ (k = value.revision ∧ other = me) := by
  unfold Begun
  rw [revision_writeRevision]
  by_cases hk : k = value.revision
  · rw [if_pos hk]
    cases hfile : s.revision k with
    | none => simp [Written.written_none]
    | some file =>
        cases file with
        | whole value' => simp [Written.written_whole]
        | begun writer =>
            by_cases hwriter : writer = me
            · rw [hwriter, Written.written_begun]
              simp [hk, eq_comm]
            · rw [Written.written_of_ne hwriter]
              simp only [Option.some.injEq, Written.begun.injEq, hk, true_and]
              constructor
              · intro heq
                exact ⟨heq, fun hme => hwriter (heq.trans hme)⟩
              · exact fun h => h.1
  · simp [hk]

theorem Stored.createRevision (h : Stored setting s) (me : Nat) {revision : Nat} (hone : 1 ≤ revision)
    (hbefore : ∀ j, 1 ≤ j → j < revision → (s.revision j).isSome = true) :
    Stored setting (perform (.createRevision me revision) s) ∧
      Grew s (perform (.createRevision me revision) s) := by
  obtain ⟨hvalid, hgrew⟩ : Valid setting (perform (.createRevision me revision) s) ∧
      Grew s (perform (.createRevision me revision) s) :=
    h.valid.createRevision h.unapproved hone hbefore
  refine ⟨⟨hvalid, ?_, fun k value hvalue => ?_⟩, hgrew⟩
  · have happroval : (perform (.createRevision me revision) s).approval = s.approval := by
      rw [perform_createRevision]
      split <;> rfl
    exact happroval.trans h.unapproved
  · rw [revision_createRevision] at hvalue
    split at hvalue
    · cases hfile : s.revision k with
      | none =>
          rw [hfile, Written.created_none] at hvalue
          cases hvalue
      | some file =>
          rw [hfile, Written.created_some] at hvalue
          exact h.bound k value (hfile.trans hvalue)
    · exact h.bound k value hvalue

theorem Stored.writeRevision (h : Stored setting s) (me : Nat) {value : CustomerRequirementsDraft}
    (hbinds : Binds setting value) :
    Stored setting (perform (.writeRevision me value) s) ∧
      Grew s (perform (.writeRevision me value) s) := by
  obtain ⟨hvalid, hgrew⟩ : Valid setting (perform (.writeRevision me value) s) ∧
      Grew s (perform (.writeRevision me value) s) := h.valid.writeRevision h.unapproved
  refine ⟨⟨hvalid, h.unapproved, fun k value' hvalue => ?_⟩, hgrew⟩
  rw [revision_writeRevision] at hvalue
  split at hvalue
  · rcases Written.written_cases hvalue with hsame | hwritten
    · exact h.bound k value' hsame
    · rw [hwritten]
      exact hbinds
  · exact h.bound k value' hvalue

theorem saveRevision_safe (me : Nat) (call : Save setting) (s : State) :
    Kept setting me call (saveRevision setting me call.1) [] s fun value _ t =>
      value = call.1 ∧ (∀ k, ¬ Begun t me k) ∧
        t.revision value.revision = some (.whole value) := by
  refine Script.safe_bind.mpr ((history_safe fun h => absurd rfl h).mono ?_ fun _ _ _ he => he)
  rintro values taken t ⟨htaken, hnone, hloaded⟩
  refine Script.safe_ite.mpr ⟨fun _ => hnone, fun hrevision => ?_⟩
  have hrevision : call.1.revision = values.length + 1 := not_ne_iff.mp hrevision
  refine Script.safe_bind.mpr (Script.safe_ask.mpr fun t' ht' => ?_)
  have hnone' := ht'.calm fun _ => hnone
  have hbefore : ∀ j, 1 ≤ j → j < call.1.revision → (t'.revision j).isSome = true := by
    intro j hj hlt
    have hthere := (hloaded.grew ht'.grew).revision (k := j - 1) (by omega)
    rw [Nat.sub_add_cancel hj] at hthere
    rw [hthere]
    rfl
  obtain ⟨hstored, hgrew⟩ := ht'.stored.createRevision me (by omega) hbefore
  refine ⟨⟨hstored, hgrew, fun other hother k => ?_, fun k hk => absurd hk (hnone' k),
    fun _ _ h => (by cases h)⟩, fun fresh hfresh => ?_, fun e he => (by cases he)⟩
  · rw [begun_createRevision, or_iff_left]
    exact fun h => hother h.2.2
  · have hfresh : (t'.revision call.1.revision).isNone = fresh := Except.ok.inj hfresh
    refine Script.safe_ite.mpr ⟨fun hnew => ?_, fun hold => ?_⟩
    · -- the file is this call's, and is written next
      have hfile : t'.revision call.1.revision = none := by
        rw [hnew] at hfresh
        exact Option.isNone_iff_eq_none.mp hfresh
      refine Script.safe_bind.mpr (Script.safe_act.mpr fun u hu => ?_)
      have hown : ∀ k, Begun u me k ↔ k = call.1.revision := by
        intro k
        rw [hu.own, begun_createRevision]
        constructor
        · rintro (hk | ⟨hk, -, -⟩)
          · exact absurd hk (hnone' k)
          · exact hk
        · exact fun hk => .inr ⟨hk, hk ▸ hfile, rfl⟩
      obtain ⟨hstored', hgrew'⟩ := hu.stored.writeRevision me call.2
      refine ⟨⟨hstored', hgrew', fun other hother k => ?_, fun k hk => ⟨rfl, (hown k).mp hk⟩,
        ?_⟩, rfl, fun k hk => ?_, ?_⟩
      · rw [begun_writeRevision]
        exact and_iff_left fun h => hother h.2
      · rintro writer value ⟨⟩
        exact (hown _).mpr rfl
      · rw [begun_writeRevision] at hk
        exact hk.2 ⟨(hown k).mp hk.1, rfl⟩
      · have hbegun : u.revision call.1.revision = some (.begun me) := (hown _).mpr rfl
        rw [revision_writeRevision, if_pos rfl, hbegun, Written.written_begun]
    · have hthere : ∀ k, ¬ Begun (perform (.createRevision me call.1.revision) t') me k := by
        intro k hk
        rcases begun_createRevision.mp hk with hk | ⟨hk, hfile, -⟩
        · exact hnone' k hk
        · refine hold ?_
          rw [← hfresh, ← hk, hfile]
          rfl
      refine Script.safe_bind.mpr ((loadRevision_safe _ fun _ => hthere).mono ?_
        fun _ _ _ he => he)
      rintro existing taken' u ⟨-, hnone'', -, hexisting⟩
      refine Script.safe_ite.mpr ⟨?_, fun _ => hnone''⟩
      rintro rfl
      exact ⟨rfl, hnone'', hexisting⟩

end Saves

/-! ## Runs -/

/-- Saves of one request over its files. -/
abbrev HistoryPool (setting : Setting) :=
  Pool (Save setting) State Operation Error CustomerRequirementsDraft

/-- What holds of every pool: a revision that is not written yet is that of a call that has
begun and has not come to its end, and one that a call has returned is stored. -/
structure Steady (w : HistoryPool setting) : Prop where
  stored : Stored setting w.shared
  owner : ∀ me k, Begun w.shared me k →
    ∃ (call : Save setting) (taken : List Operation)
      (rest : Option (Planning CustomerRequirementsDraft)),
      w.processes[me]? = some ⟨call, taken, rest⟩ ∧ taken ≠ [] ∧
        ∀ result, rest ≠ some (.done result)
  returned : ∀ (me : Nat) (call : Save setting) (taken : List Operation)
    (value : CustomerRequirementsDraft),
    w.processes[me]? = some ⟨call, taken, some (.done (.ok value))⟩ →
      w.shared.revision value.revision = some (.whole value)

/-- What a call leaves at its end. -/
def Left (me : Nat) (result : Except Error CustomerRequirementsDraft) (s : State) : Prop :=
  (∀ k, ¬ Begun s me k) ∧ ∀ value, result = .ok value →
    s.revision value.revision = some (.whole value)

variable {setting}

theorem whole_of_grew {s t : State} {k : Nat} {value : CustomerRequirementsDraft}
    (hgrew : Grew s t) (h : s.revision k = some (.whole value)) :
    t.revision k = some (.whole value) := by
  have hgrows := hgrew.revision k
  rw [h] at hgrows
  exact hgrows.whole

theorem Steady.started {w : HistoryPool setting} (h : Steady setting w) (call : Save setting) :
    Steady setting (w.next perform (fun me call => saveRevision setting me call.1) (.start call)) := by
  refine ⟨h.stored, fun me k hk => ?_, fun me call' taken value hprocess => ?_⟩
  · obtain ⟨call', taken, rest, hprocess, hrest⟩ := h.owner me k hk
    obtain ⟨hlt, -⟩ := List.getElem?_eq_some_iff.mp hprocess
    exact ⟨call', taken, rest, by rwa [Pool.next, List.getElem?_append_left hlt], hrest⟩
  · obtain hold | ⟨-, hnew⟩ := Pool.next_start_cases hprocess
    · exact h.returned me call' taken value hold
    · cases congrArg Process.rest hnew

theorem Steady.advanced {w : HistoryPool setting} (h : Steady setting w) {number : Nat}
    {call : Save setting} {taken : List Operation} {operation : Operation}
    {rest : State → Planning CustomerRequirementsDraft}
    (hprocess : w.processes[number]? = some ⟨call, taken, some (.step operation rest)⟩)
    (hguarantee : Guarantee setting number call operation w.shared)
    (hleft : ∀ result, rest w.shared = .done result →
      Left number result (perform operation w.shared)) :
    Steady setting (w.next perform (fun me call => saveRevision setting me call.1)
      (.advance number)) := by
  have hlt := (List.getElem?_eq_some_iff.mp hprocess).1
  rw [Pool.next_advance hprocess]
  refine ⟨hguarantee.stored, fun me k hk => ?_, fun me call' taken' value hme => ?_⟩
  · by_cases hsame : me = number
    · subst hsame
      exact ⟨call, operation :: taken, some (rest w.shared), List.getElem?_set_self hlt,
        List.cons_ne_nil _ _, fun result hdone =>
          (hleft result (Option.some.inj hdone)).1 k hk⟩
    · rw [hguarantee.others me hsame] at hk
      obtain ⟨call', taken', rest', hprocess', hrest⟩ := h.owner me k hk
      exact ⟨call', taken', rest', by rwa [List.getElem?_set_ne (Ne.symm hsame)], hrest⟩
  · obtain ⟨rfl, hnew⟩ | ⟨-, hold⟩ := Pool.set_cases hprocess hme
    · have hrest := congrArg Process.rest hnew
      exact (hleft _ (Option.some.inj hrest).symm).2 value rfl
    · exact whole_of_grew hguarantee.grew (h.returned me call' taken' value hold)

theorem Steady.died {w : HistoryPool setting} (h : Steady setting w) {number : Nat}
    {call : Save setting} {taken : List Operation} {operation : Operation}
    {rest : State → Planning CustomerRequirementsDraft}
    (hprocess : w.processes[number]? = some ⟨call, taken, some (.step operation rest)⟩) :
    Steady setting { w with processes := w.processes.set number ⟨call, taken, none⟩ } := by
  have hlt := (List.getElem?_eq_some_iff.mp hprocess).1
  refine ⟨h.stored, fun me k hk => ?_, fun me call' taken' value hme => ?_⟩
  · obtain ⟨call', taken', rest', hprocess', htaken, hrest⟩ := h.owner me k hk
    by_cases hsame : me = number
    · subst hsame
      rw [hprocess] at hprocess'
      cases hprocess'
      exact ⟨call, taken, none, List.getElem?_set_self hlt, htaken, fun result hdone => (by
        cases hdone)⟩
    · exact ⟨call', taken', rest', by rwa [List.getElem?_set_ne (Ne.symm hsame)], htaken, hrest⟩
  · obtain ⟨-, hnew⟩ | ⟨-, hold⟩ := Pool.set_cases hprocess hme
    · cases congrArg Process.rest hnew
    · exact h.returned me call' taken' value hold

variable (setting)

/-- The parts that the saves keep to, without any condition. -/
def discipline : Discipline (Save setting) State Operation Error CustomerRequirementsDraft where
  perform := perform
  program me call := saveRevision setting me call.1
  rely me _ taken _ := Rely setting me taken
  guarantee me call _ := Guarantee setting me call
  post call result := ∀ value, result = .ok value → value = call.1
  last me _ result s := Left me result s
  inv := Steady setting
  condition _ _ := True
  safe me call s := by
    refine (saveRevision_safe me call s).mono ?_ ?_
    · rintro value taken t ⟨hvalue, hnone, hstored⟩
      refine ⟨fun value' h => ?_, hnone, fun value' h => ?_⟩
      · cases h
        exact hvalue
      · cases h
        exact hstored
    · intro e taken t hnone
      exact ⟨fun value h => (by cases h), hnone, fun value h => (by cases h)⟩
  own w me call taken operation rest hinv _ hprocess := by
    refine ⟨hinv.stored, Grew.refl w.shared, fun _ => Iff.rfl, ?_⟩
    rintro rfl k hk
    obtain ⟨call', taken', rest', hprocess', htaken, -⟩ := hinv.owner me k hk
    rw [hprocess] at hprocess'
    cases hprocess'
    exact htaken rfl
  others w me call taken operation rest other call' taken' operation' rest' hinv _ hprocess
      hguarantee hne hother t ht :=
    ⟨ht.stored, hguarantee.grew.trans ht.grew, fun k =>
      (ht.own k).trans (hguarantee.others other hne k), ht.fresh⟩
  started w call hinv _ := hinv.started call
  advanced w me call taken operation rest hinv _ hprocess hguarantee hleft :=
    hinv.advanced hprocess hguarantee hleft
  died w me call taken operation rest hinv _ hprocess := hinv.died hprocess

/-! ## Reading the history -/

section Reading

variable {setting : Setting} {s : State}

/-- The history and the latest revision can be read, and are what is stored. -/
def Readable (setting : Setting) (s : State) : Prop :=
  ∃ values, ((history setting).alone perform s).1 = .ok values ∧
    ((latest setting).alone perform s).1 = .ok values.getLast? ∧
      RequirementsLock.Loaded (List.range' 1 s.revisions.length) values s

theorem loadRevision_alone (revision : Nat) :
    (loadRevision setting revision).alone perform s =
      (match s.revision revision with
        | none => .error ⟨.requirementsDraftNotFound, "Unknown requirements revision"⟩
        | some (.begun _) => .error (.draftCorrupt "Requirements draft authority is corrupt")
        | some (.whole value) =>
            if value.customerId = setting.customerId ∧ value.requestId = setting.requestId ∧
                value.revision = revision then .ok value
            else .error (.draftCorrupt "Requirements draft authority is corrupt"), s) := by
  rw [loadRevision, Script.alone_ask]
  rfl

theorem loadRevisions_alone {revisions : List Nat}
    (h : ∀ k ∈ revisions, ∃ value, s.revision k = some (.whole value) ∧ Binds setting value ∧
      value.revision = k) :
    ∃ values, (loadRevisions setting revisions).alone perform s = (.ok values, s) ∧
      RequirementsLock.Loaded revisions values s := by
  induction revisions with
  | nil => exact ⟨[], rfl, List.Forall₂.nil⟩
  | cons revision revisions ih =>
    obtain ⟨value, hvalue, hbinds, hrevision⟩ := h revision List.mem_cons_self
    obtain ⟨values, hvalues, hloaded⟩ := ih fun k hk => h k (List.mem_cons_of_mem _ hk)
    refine ⟨value :: values, ?_, List.Forall₂.cons hvalue hloaded⟩
    rw [loadRevisions, Script.alone_bind, loadRevision_alone, hvalue]
    simp only [hbinds.1, hbinds.2, hrevision, and_self, if_true]
    rw [Script.alone_bind, hvalues]
    rfl

theorem loadRevisions_torn {revisions : List Nat} {me k : Nat} (hk : k ∈ revisions)
    (hbegun : Begun s me k) (values : List CustomerRequirementsDraft) :
    ((loadRevisions setting revisions).alone perform s).1 ≠ .ok values := by
  induction revisions generalizing values with
  | nil => cases hk
  | cons revision revisions ih =>
    rw [loadRevisions, Script.alone_bind]
    by_cases hsame : revision = k
    · subst hsame
      rw [loadRevision_alone, hbegun]
      intro h
      cases h
    · cases hload : (loadRevision setting revision).alone perform s with
      | mk result t =>
          have ht : t = s := by
            rw [loadRevision_alone] at hload
            exact (congrArg Prod.snd hload).symm
          subst ht
          cases result with
          | error e =>
              intro h
              cases h
          | ok value =>
              dsimp only
              rw [Script.alone_bind]
              have hrest := ih ((List.mem_cons.mp hk).resolve_left fun h => hsame h.symm)
              cases hloads : (loadRevisions setting revisions).alone perform t with
              | mk results u =>
                  rw [hloads] at hrest
                  cases results with
                  | error e =>
                      intro h
                      cases h
                  | ok values' => exact absurd rfl (hrest values')

theorem listRevisions_alone (h : Stored setting s) :
    listRevisions.alone perform s =
      (if maxRevisions < s.revisions.length then
        .error (.draftCorrupt "Requirements history exceeds policy")
      else .ok (List.range' 1 s.revisions.length), s) := by
  have hsorted : (s.revisions.map Prod.fst).insertionSort (· ≤ ·) =
      List.range' 1 s.revisions.length := by
    have hnumbers : s.revisions.map Prod.fst = List.range' 1 s.revisions.length := h.valid.numbers
    rw [hnumbers]
    exact List.Pairwise.insertionSort_eq (List.pairwise_le_range' 1)
  rw [listRevisions, Script.alone_ask]
  simp only [hsorted, List.length_range', ne_eq, not_true, if_false]
  rfl

/-- The history can be read exactly when every revision is written and there are not too many. -/
theorem readable_iff (h : Stored setting s) :
    Readable setting s ↔ (∀ me k, ¬ Begun s me k) ∧ s.revisions.length ≤ maxRevisions := by
  constructor
  · rintro ⟨values, hvalues, -, -⟩
    rw [history, Script.alone_bind, listRevisions_alone h] at hvalues
    by_cases hmany : maxRevisions < s.revisions.length
    · rw [if_pos hmany] at hvalues
      cases hvalues
    · rw [if_neg hmany] at hvalues
      refine ⟨fun me k hbegun => ?_, Nat.not_lt.mp hmany⟩
      have hsome : (s.revision k).isSome = true := by
        rw [hbegun]
        rfl
      rw [h.valid.isSome_revision] at hsome
      exact loadRevisions_torn (List.mem_range'_1.mpr (by omega)) hbegun values hvalues
  · rintro ⟨hwhole, hfew⟩
    have hall : ∀ k ∈ List.range' 1 s.revisions.length, ∃ value,
        s.revision k = some (.whole value) ∧ Binds setting value ∧ value.revision = k := by
      intro k hk
      have hsome := h.valid.isSome_revision.mpr (by rw [List.mem_range'_1] at hk; omega :
        1 ≤ k ∧ k ≤ s.revisions.length)
      obtain ⟨file, hfile⟩ := Option.isSome_iff_exists.mp hsome
      cases file with
      | begun writer => exact absurd hfile (hwhole writer k)
      | whole value => exact ⟨value, hfile, h.bound k value hfile, h.valid.drafts k value hfile⟩
    obtain ⟨values, hvalues, hloaded⟩ := loadRevisions_alone hall
    have hhistory : (history setting).alone perform s = (.ok values, s) := by
      rw [history, Script.alone_bind, listRevisions_alone h, if_neg (Nat.not_lt.mpr hfew)]
      exact hvalues
    refine ⟨values, by rw [hhistory], ?_, hloaded⟩
    rw [latest, Script.alone_bind, hhistory]
    rfl

end Reading

/-! ## Torn revisions -/

section Torn

variable {request : Option CustomerProductRequest} {moves : List (Move (Save setting))}
  {me k : Nat}

/-- Saves of a request of which no revision is stored, after some moves. -/
def historyAfter (request : Option CustomerProductRequest) (moves : List (Move (Save setting))) :
    HistoryPool setting :=
  Pool.after perform (fun me call => saveRevision setting me call.1) moves
    ⟨⟨request, [], fun _ => none, none⟩, []⟩

theorem historyAfter_concat (move : Move (Save setting)) :
    historyAfter setting request (moves ++ [move]) =
      (historyAfter setting request moves).next perform
        (fun me call => saveRevision setting me call.1) move := by
  unfold historyAfter
  rw [Pool.after_append]
  rfl

/-- The saves keep to their parts whatever the moves are. -/
theorem meets_all (moves : List (Move (Save setting))) (w : HistoryPool setting) :
    Pool.Meets perform (fun me call => saveRevision setting me call.1)
      (discipline setting).condition moves w := by
  induction moves generalizing w with
  | nil => trivial
  | cons move moves ih => exact ⟨trivial, ih _⟩

theorem historyAfter_coherent (request : Option CustomerProductRequest)
    (moves : List (Move (Save setting))) :
    (discipline setting).Coherent (historyAfter setting request moves) := by
  refine Discipline.coherent_after (Discipline.coherent_nil ⟨⟨⟨rfl, ?_, ?_⟩, rfl, ?_⟩, ?_, ?_⟩)
    (meets_all setting moves _)
  · intro k draft hk
    cases hk
  · intro hsome
    cases hsome
  · intro k value hk
    cases hk
  · intro me k hk
    cases hk
  · intro me call taken value hprocess
    cases hprocess

/-- A save is between the creation of its file and the write. -/
def Writing (w : HistoryPool setting) (me k : Nat) : Prop :=
  ∃ value, w.operation? me = some (.writeRevision me value) ∧ value.revision = k

/-- A save died there. -/
def Interrupted (request : Option CustomerProductRequest) (moves : List (Move (Save setting)))
    (me k : Nat) : Prop :=
  ∃ before later, moves = before ++ .die me :: later ∧
    Writing setting (historyAfter setting request before) me k

variable {setting}

def Dead (w : HistoryPool setting) (me : Nat) : Prop :=
  ∃ (call : Save setting) (taken : List Operation), w.processes[me]? = some ⟨call, taken, none⟩

theorem begun_of_writing (h : Writing setting (historyAfter setting request moves) me k) :
    Begun (historyAfter setting request moves).shared me k := by
  obtain ⟨value, hoperation, rfl⟩ := h
  obtain ⟨call, taken, rest, hprocess⟩ := Pool.operation?_eq_some_iff.mp hoperation
  exact ((historyAfter_coherent setting request moves).guarantee trivial hprocess).1.begun me value
    rfl

theorem writing_or_dead (h : Begun (historyAfter setting request moves).shared me k) :
    Writing setting (historyAfter setting request moves) me k ∨
      Dead (historyAfter setting request moves) me := by
  have hcoherent := historyAfter_coherent setting request moves
  obtain ⟨call, taken, rest, hprocess, -, hrest⟩ := hcoherent.1.owner me k h
  cases rest with
  | none => exact .inr ⟨call, taken, hprocess⟩
  | some script =>
    cases script with
    | done result => exact absurd rfl (hrest result)
    | step operation next =>
        obtain ⟨hoperation, hk⟩ := (hcoherent.guarantee trivial hprocess).1.write k h
        refine .inl ⟨call.1, ?_, hk.symm⟩
        rw [Pool.operation?_eq_some_iff]
        exact ⟨call, taken, next, by rw [← hoperation]; exact hprocess⟩

theorem begun_next_of_dead (move : Move (Save setting)) (k : Nat)
    (hdead : Dead (historyAfter setting request moves) me) :
    Dead (historyAfter setting request (moves ++ [move])) me ∧
      (Begun (historyAfter setting request (moves ++ [move])).shared me k ↔
        Begun (historyAfter setting request moves).shared me k) := by
  have hcoherent := historyAfter_coherent setting request moves
  obtain ⟨call, taken, hprocess⟩ := hdead
  rw [historyAfter_concat]
  generalize historyAfter setting request moves = w at hcoherent hprocess
  have hlt := (List.getElem?_eq_some_iff.mp hprocess).1
  cases move with
  | start call' =>
    refine ⟨⟨call, taken, ?_⟩, Iff.rfl⟩
    rwa [Pool.next, List.getElem?_append_left hlt]
  | advance number =>
    obtain hsame | ⟨call', taken', operation, rest, hother⟩ := Pool.next_advance_cases perform
      (fun me (call : Save setting) => saveRevision setting me call.1) w number
    · rw [hsame]
      exact ⟨⟨call, taken, hprocess⟩, Iff.rfl⟩
    · have hne : me ≠ number := by
        rintro rfl
        rw [hprocess] at hother
        cases hother
      have hguarantee := (hcoherent.guarantee trivial hother).1
      rw [Pool.next_advance hother]
      refine ⟨⟨call, taken, ?_⟩, hguarantee.others me hne k⟩
      rwa [List.getElem?_set_ne (Ne.symm hne)]
  | die number =>
    obtain hsame | ⟨call', taken', operation, rest, hother, hnext⟩ := Pool.next_die_cases perform
      (fun me (call : Save setting) => saveRevision setting me call.1) w number
    · rw [hsame]
      exact ⟨⟨call, taken, hprocess⟩, Iff.rfl⟩
    · have hne : me ≠ number := by
        rintro rfl
        rw [hprocess] at hother
        cases hother
      rw [hnext]
      refine ⟨⟨call, taken, ?_⟩, Iff.rfl⟩
      rwa [List.getElem?_set_ne (Ne.symm hne)]

/-- A call dies by a move of its own, which leaves the files as they are. -/
theorem die_of_dead_next {move : Move (Save setting)}
    (hdead : Dead (historyAfter setting request (moves ++ [move])) me)
    (hbefore : ¬ Dead (historyAfter setting request moves) me) :
    move = .die me ∧ (historyAfter setting request (moves ++ [move])).shared =
      (historyAfter setting request moves).shared := by
  obtain ⟨call, taken, hprocess⟩ := hdead
  rw [historyAfter_concat] at hprocess ⊢
  generalize historyAfter setting request moves = w at hbefore hprocess ⊢
  cases move with
  | start call' =>
    exfalso
    obtain hold | ⟨-, hnew⟩ := Pool.next_start_cases hprocess
    · exact hbefore ⟨call, taken, hold⟩
    · cases congrArg Process.rest hnew
  | advance number =>
    exfalso
    obtain hsame | ⟨call', taken', operation, rest, hother⟩ := Pool.next_advance_cases perform
      (fun me (call : Save setting) => saveRevision setting me call.1) w number
    · rw [hsame] at hprocess
      exact hbefore ⟨call, taken, hprocess⟩
    · rw [Pool.next_advance hother] at hprocess
      obtain ⟨-, hnew⟩ | ⟨-, hold⟩ := Pool.set_cases hother hprocess
      · cases congrArg Process.rest hnew
      · exact hbefore ⟨call, taken, hold⟩
  | die number =>
    obtain hsame | ⟨call', taken', operation, rest, hother, hnext⟩ := Pool.next_die_cases perform
      (fun me (call : Save setting) => saveRevision setting me call.1) w number
    · rw [hsame] at hprocess
      exact absurd ⟨call, taken, hprocess⟩ hbefore
    · rw [hnext] at hprocess ⊢
      by_cases hme : me = number
      · exact ⟨by rw [hme], rfl⟩
      · rw [List.getElem?_set_ne (Ne.symm hme)] at hprocess
        exact absurd ⟨call, taken, hprocess⟩ hbefore

theorem dead_of_interrupted (h : Interrupted setting request moves me k) :
    Dead (historyAfter setting request moves) me ∧
      Begun (historyAfter setting request moves).shared me k := by
  obtain ⟨before, later, rfl, hwriting⟩ := h
  induction later using List.reverseRecOn with
  | nil =>
    have hbegun := begun_of_writing hwriting
    obtain ⟨value, hoperation, -⟩ := hwriting
    obtain ⟨call, taken, rest, hprocess⟩ := Pool.operation?_eq_some_iff.mp hoperation
    rw [historyAfter_concat, Pool.next, hprocess]
    exact ⟨⟨call, taken, List.getElem?_set_self (List.getElem?_eq_some_iff.mp hprocess).1⟩,
      hbegun⟩
  | append_singleton later move ih =>
    rw [← List.cons_append, ← List.append_assoc]
    have hnext := begun_next_of_dead move k ih.1
    exact ⟨hnext.1, hnext.2.mpr ih.2⟩

/-- A revision is not written exactly when a save is about to write it or died there. -/
theorem begun_after_iff : Begun (historyAfter setting request moves).shared me k ↔
    Writing setting (historyAfter setting request moves) me k ∨
      Interrupted setting request moves me k := by
  constructor
  · intro hbegun
    induction moves using List.reverseRecOn with
    | nil => cases hbegun
    | append_singleton moves move ih =>
        rcases writing_or_dead hbegun with hwriting | hdead
        · exact .inl hwriting
        · by_cases hbefore : Dead (historyAfter setting request moves) me
          · have hold := (begun_next_of_dead move k hbefore).2.mp hbegun
            rcases ih hold with hwriting | ⟨before, later, rfl, hwriting⟩
            · obtain ⟨value, hoperation, -⟩ := hwriting
              obtain ⟨_, _, _, hprocess⟩ := Pool.operation?_eq_some_iff.mp hoperation
              obtain ⟨_, _, hprocess'⟩ := hbefore
              rw [hprocess'] at hprocess
              cases hprocess
            · exact .inr ⟨before, later ++ [move], by simp, hwriting⟩
          · obtain ⟨rfl, hshared⟩ := die_of_dead_next hdead hbefore
            rw [hshared] at hbegun
            rcases writing_or_dead hbegun with hwriting | hdead'
            · exact .inr ⟨moves, [], rfl, hwriting⟩
            · exact absurd hdead' hbefore
  · rintro (hwriting | hinterrupted)
    · exact begun_of_writing hwriting
    · exact (dead_of_interrupted hinterrupted).2

end Torn

/-- The stored revisions after some moves: they are numbered from one, whatever was stored
before the last moves is stored still, and saves that have succeeded under one number have saved
one value, the stored one. -/
structure Intact (setting : Setting) (request : Option CustomerProductRequest)
    (moves : List (Move (Save setting))) : Prop where
  numbered : (historyAfter setting request moves).shared.numbers =
    List.range' 1 (historyAfter setting request moves).shared.revisions.length
  kept : ∀ before later, moves = before ++ later → ∀ k value,
    (historyAfter setting request before).shared.revision k = some (.whole value) →
      (historyAfter setting request moves).shared.revision k = some (.whole value)
  returned : ∀ (me : Nat) (process : Process (Save setting) State Operation Error
      CustomerRequirementsDraft) (value : CustomerRequirementsDraft),
    (historyAfter setting request moves).processes[me]? = some process →
      process.Returned (.ok value) → value = process.call.1 ∧
        (historyAfter setting request moves).shared.revision value.revision = some (.whole value)
  single : ∀ (me other : Nat) (process process' : Process (Save setting) State Operation Error
      CustomerRequirementsDraft) (value value' : CustomerRequirementsDraft),
    (historyAfter setting request moves).processes[me]? = some process →
      (historyAfter setting request moves).processes[other]? = some process' →
        process.Returned (.ok value) → process'.Returned (.ok value') →
          value.revision = value'.revision → value = value'

end RequirementsHistory

open Ascos.Library RequirementsHistory

def firstDraft : Save Setting.example :=
  ⟨(journeyForm 0 "First").candidate .example tasksRequest 0, rfl, rfl⟩

end CustomerPlanning
end Ascos
