import Ascos.GitHubDelivery.Service
import Ascos.Library.Checks
import Ascos.Library.Lineage

/-!
# What a delivery publishes

The effects of all calls on one workspace, its remote and its artifacts, whatever other parties
do to the files in between and wherever a call dies.  The invariant says of each effect which
ones came right before it.

Main results:

- Theorem `delivery_published_iff`: what is pushed and attested is exactly what was
  reviewed, in the runs in which the files that were pushed had their reviewed contents when
  they were staged; commits, pushes and pull requests happen at most once in every run.
-/

namespace Ascos
namespace GitHubDelivery

open Ascos.Library
open Ascos.Library.Procedure
open Ascos.Runtime (Timestamp)

/-! ## What a delivery promises -/

def commits (log : List Event) : List GitHubDeliveryWorkOrder :=
  log.filterMap fun
    | .committed order _ => some order
    | _ => none

def pushes (log : List Event) : List GitHubDeliveryWorkOrder :=
  log.filterMap fun
    | .pushed order _ => some order
    | _ => none

/-- The orders that a pull request was created for. -/
def creations (log : List Event) : List GitHubDeliveryWorkOrder :=
  log.filterMap fun
    | .created order => some order
    | _ => none

def lastStaged : List Event → Option (Table String File)
  | [] => none
  | .staged _ files :: _ => some files
  | _ :: older => lastStaged older

variable (env : Environment)

/-- A commit has the reviewed contents, and changes nothing else. -/
def Reviewed (bindings : List ReviewedFileBinding) (commit : Commit Content) : Prop :=
  (∀ binding ∈ bindings, ∃ content, commit.tree.load binding.path = some content ∧
    env.contentDigest content = binding.contentDigest) ∧
    ∃ parent, commit.parent = some parent ∧ ∀ path,
      commit.tree.load path ≠ parent.tree.load path → path ∈ bindings.map (·.path)

/-- What holds of the effects in every world that a run reaches. -/
structure Published (world : World) : Prop where
  pushed : ∀ order commit, .pushed order commit ∈ world.log →
    Reviewed env order.reviewedFiles commit
  attested : ∀ key artifact, world.artifacts.load key = some artifact →
    ∃ order commit, .pushed order commit ∈ world.log ∧
      artifact.commitSha = env.commitSha commit ∧ Reviewed env artifact.reviewedFiles commit
  committedOnce : (commits world.log).Nodup
  pushedOnce : (pushes world.log).Nodup
  createdOnce : (creations world.log).Nodup

/-- Nothing has changed but the files, which other parties edit. -/
structure Quiet (world after : World) : Prop where
  index : after.workspace.index = world.workspace.index
  branches : after.workspace.branches = world.workspace.branches
  branch : after.workspace.branch = world.workspace.branch
  remote : after.remote = world.remote
  artifacts : after.artifacts = world.artifacts
  log : after.log = world.log

/-- A call with the arguments of a stored artifact has no effect, and returns the artifact. -/
def Repeats (world : World) (call : Request × Option Nat) : Prop :=
  ∀ artifact, world.artifacts.load call.1.key = some artifact →
    sameRequest env call.1 artifact = true → Quiet world (step env world call) ∧
      (call.2 = none → ((run env call.1).run world).1 = .ok artifact)

/-- The reviewed files of a working tree have their reviewed contents, as they are staged. -/
def Unaltered (bindings : List ReviewedFileBinding) (files : Table String File) : Prop :=
  ∀ binding ∈ bindings, (files.load binding.path).isSome = true ∧
    env.contentDigest (env.clean files binding.path) = binding.contentDigest

/-- What was pushed had its reviewed contents when it was staged. -/
def Careful (world : World) : Prop :=
  ∀ order commit older, Event.pushed order commit :: older <:+ world.log →
    ∀ files, lastStaged older = some files → Unaltered env order.reviewedFiles files

/-! ## The effects -/

/-- What `git add` leaves at a path. -/
def stagedAt (files : Table String File) (path : String) : Option Content :=
  (files.load path).map fun _ => env.clean files path

/-- What comes right before an effect. -/
def Permitted (older : List Event) : Event → Prop
  | .staged _ _ => True
  | .committed order _ => order ∉ commits older
  | .pushed order commit => order ∉ pushes older ∧ ∃ files rest,
      older = .committed order commit :: .staged order files :: rest ∧
        (∀ path ∈ order.reviewedPaths, commit.tree.load path = stagedAt env files path) ∧
        ∃ parent, commit.parent = some parent ∧ ∀ path,
          commit.tree.load path ≠ parent.tree.load path → path ∈ order.reviewedPaths
  | .created order => order ∉ creations older ∧ ∃ commit rest, older = .pushed order commit :: rest

/-- Every effect came after those that belong before it. -/
def Sound : List Event → Prop
  | [] => True
  | event :: older => Permitted env older event ∧ Sound older

variable {env} {log older : List Event} {order : GitHubDeliveryWorkOrder}
  {made : Commit Content} {world after : World} {files : Table String File}

theorem Sound.of_suffix (h : Sound env log) (hsuffix : older <:+ log) : Sound env older := by
  obtain ⟨newer, rfl⟩ := hsuffix
  induction newer with
  | nil => exact h
  | cons event newer ih => exact ih h.2

theorem Sound.permitted {event : Event} (h : Sound env log) (hsuffix : event :: older <:+ log) :
    Permitted env older event :=
  (h.of_suffix hsuffix).1

/-- An effect has happened after others. -/
theorem exists_suffix {event : Event} (h : event ∈ log) : ∃ older, event :: older <:+ log := by
  obtain ⟨newer, older, rfl⟩ := List.append_of_mem h
  exact ⟨older, newer, rfl⟩

/-- Effects that happen for an order for the first time happen once. -/
theorem nodup_of_sound {orders : List Event → List GitHubDeliveryWorkOrder}
    {pick : Event → Option GitHubDeliveryWorkOrder}
    (horders : ∀ log, orders log = log.filterMap pick)
    (hfirst : ∀ event older order, pick event = some order → Permitted env older event →
      order ∉ orders older) (h : Sound env log) : (orders log).Nodup := by
  induction log with
  | nil => simp [horders]
  | cons event older ih =>
    rw [horders, List.filterMap_cons]
    cases hpick : pick event with
    | none => exact horders older ▸ ih h.2
    | some order =>
        exact List.nodup_cons.mpr ⟨horders older ▸ hfirst event older order hpick h.1,
          horders older ▸ ih h.2⟩

theorem Sound.committedOnce (h : Sound env log) : (commits log).Nodup := by
  apply nodup_of_sound (fun _ => rfl) ?_ h
  intro event older order hpick hpermitted
  cases event with
  | committed found commit =>
    cases hpick
    exact hpermitted
  | staged found files => cases hpick
  | pushed found commit => cases hpick
  | created found => cases hpick

theorem Sound.pushedOnce (h : Sound env log) : (pushes log).Nodup := by
  apply nodup_of_sound (fun _ => rfl) ?_ h
  intro event older order hpick hpermitted
  cases event with
  | committed found commit => cases hpick
  | staged found files => cases hpick
  | pushed found commit =>
    cases hpick
    exact hpermitted.1
  | created found => cases hpick

theorem Sound.createdOnce (h : Sound env log) : (creations log).Nodup := by
  apply nodup_of_sound (fun _ => rfl) ?_ h
  intro event older order hpick hpermitted
  cases event with
  | committed found commit => cases hpick
  | staged found files => cases hpick
  | pushed found commit => cases hpick
  | created found =>
    cases hpick
    exact hpermitted.1

theorem Sound.reviewed_iff (h : Sound env log)
    (hsuffix : Event.pushed order made :: older <:+ log) :
    Reviewed env order.reviewedFiles made ↔
      ∀ files, lastStaged older = some files → Unaltered env order.reviewedFiles files := by
  obtain ⟨-, files, rest, rfl, htree, hparent⟩ := h.permitted hsuffix
  have hstaged : ∀ found, lastStaged (.committed order made :: .staged order files :: rest) =
      some found ↔ files = found := by
    intro found
    exact Option.some_inj
  constructor
  · rintro ⟨hcontents, -⟩ found hfound binding hbinding
    rw [hstaged] at hfound
    subst hfound
    obtain ⟨content, hcontent, hdigest⟩ := hcontents binding hbinding
    rw [htree binding.path (List.mem_map_of_mem hbinding)] at hcontent
    obtain ⟨file, hfile, rfl⟩ := Option.map_eq_some_iff.mp hcontent
    exact ⟨by rw [hfile]; rfl, hdigest⟩
  · intro hunaltered
    refine ⟨?_, hparent⟩
    intro binding hbinding
    obtain ⟨hthere, hdigest⟩ := hunaltered files ((hstaged files).mpr rfl) binding hbinding
    obtain ⟨file, hfile⟩ := Option.isSome_iff_exists.mp hthere
    refine ⟨env.clean files binding.path, ?_, hdigest⟩
    rw [htree binding.path (List.mem_map_of_mem hbinding), stagedAt, hfile]
    rfl

theorem Sound.committed_of_pushed (h : Sound env log) (hpushed : order ∈ pushes log) :
    order ∈ commits log := by
  obtain ⟨event, hmem, hpick⟩ := List.mem_filterMap.mp hpushed
  cases event with
  | staged found files => cases hpick
  | committed found commit => cases hpick
  | created found => cases hpick
  | pushed found commit =>
    cases hpick
    obtain ⟨older, hsuffix⟩ := exists_suffix hmem
    obtain ⟨-, files, rest, rfl, -, -⟩ := h.permitted hsuffix
    have hcommitted := hsuffix.mem (List.mem_cons_of_mem _ (List.mem_cons_self))
    exact List.mem_filterMap.mpr ⟨_, hcommitted, rfl⟩

theorem Sound.pushed_of_created (h : Sound env log) (hcreated : order ∈ creations log) :
    order ∈ pushes log := by
  obtain ⟨event, hmem, hpick⟩ := List.mem_filterMap.mp hcreated
  cases event with
  | staged found files => cases hpick
  | committed found commit => cases hpick
  | pushed found commit => cases hpick
  | created found =>
    cases hpick
    obtain ⟨older, hsuffix⟩ := exists_suffix hmem
    obtain ⟨-, commit, rest, rfl⟩ := h.permitted hsuffix
    have hpushed := hsuffix.mem (List.mem_cons_of_mem _ (List.mem_cons_self))
    exact List.mem_filterMap.mpr ⟨_, hpushed, rfl⟩

/-! ## What a step can do -/

theorem Quiet.refl (world : World) : Quiet world world :=
  ⟨rfl, rfl, rfl, rfl, rfl, rfl⟩

theorem Quiet.trans {between : World} (h : Quiet world between) (h' : Quiet between after) :
    Quiet world after where
  index := h'.index.trans h.index
  branches := h'.branches.trans h.branches
  branch := h'.branch.trans h.branch
  remote := h'.remote.trans h.remote
  artifacts := h'.artifacts.trans h.artifacts
  log := h'.log.trans h.log

theorem quiet_disturbed (world : World) : Quiet world (world.disturbed env) :=
  ⟨rfl, rfl, rfl, rfl, rfl, rfl⟩

theorem Quiet.head (h : Quiet world after) : after.workspace.head = world.workspace.head := by
  unfold Workspace.head
  rw [h.branches, h.branch]

theorem Quiet.headTree (h : Quiet world after) :
    after.workspace.headTree = world.workspace.headTree := by
  unfold Workspace.headTree
  rw [h.head]

/-- What a step of a call does. -/
inductive Move (env : Environment) : World → World → Prop
  | quiet (world after : World) (h : Quiet world after) : Move env world after
  | stage (world after : World) (order : GitHubDeliveryWorkOrder) (files : Table String File)
      (hhead : after.workspace.head = world.workspace.head)
      (hartifacts : after.artifacts = world.artifacts)
      (hlog : after.log = .staged order files :: world.log) : Move env world after
  | commit (world after : World) (order : GitHubDeliveryWorkOrder) (head : Commit Content)
      (tree : Library.Tree Content) (message : String) (stamp : Nat)
      (hhead : world.workspace.head = some head) (hbase : env.commitSha head = order.baseCommit)
      (hafter : after.workspace.head = some (.child head tree message stamp))
      (hartifacts : after.artifacts = world.artifacts)
      (hlog : after.log = .committed order (.child head tree message stamp) :: world.log) :
      Move env world after
  | push (world after : World) (order : GitHubDeliveryWorkOrder) (made parent : Commit Content)
      (files : Table String File) (rest : List Event)
      (hhead : after.workspace.head = world.workspace.head)
      (hartifacts : after.artifacts = world.artifacts)
      (holder : world.log = .committed order made :: .staged order files :: rest)
      (htree : ∀ path ∈ order.reviewedPaths, made.tree.load path = stagedAt env files path)
      (hparent : made.parent = some parent)
      (hchanges : ∀ path, made.tree.load path ≠ parent.tree.load path →
        path ∈ order.reviewedPaths)
      (hlog : after.log = .pushed order made :: world.log) : Move env world after
  | create (world after : World) (order : GitHubDeliveryWorkOrder) (made : Commit Content)
      (rest : List Event) (hhead : after.workspace.head = world.workspace.head)
      (hartifacts : after.artifacts = world.artifacts)
      (holder : world.log = .pushed order made :: rest)
      (hlog : after.log = .created order :: world.log) : Move env world after
  | store (world after : World) (artifact : GitHubDeliveryArtifact)
      (order : GitHubDeliveryWorkOrder) (made : Commit Content)
      (hhead : after.workspace.head = world.workspace.head) (hlog : after.log = world.log)
      (hdirectory : executionDirectory artifact.key = .ok ())
      (hpushed : Event.pushed order made ∈ world.log)
      (hsha : artifact.commitSha = env.commitSha made)
      (hfiles : artifact.reviewedFiles = order.reviewedFiles)
      (hartifacts : after.artifacts = world.artifacts.save artifact.key artifact) :
      Move env world after

/-- What is known of a world.  The base of an order that was committed lies below the current
commit. -/
structure Inv (env : Environment) (world : World) : Prop where
  sound : Sound env world.log
  based : ∀ order ∈ commits world.log, ∃ base head, world.workspace.head = some head ∧
    env.commitSha base = order.baseCommit ∧ base.Below head
  attested : ∀ key artifact, world.artifacts.load key = some artifact →
    artifact.key = key ∧ executionDirectory key = .ok () ∧ ∃ order made,
      Event.pushed order made ∈ world.log ∧ artifact.commitSha = env.commitSha made ∧
        artifact.reviewedFiles = order.reviewedFiles

theorem Inv.attested_of_log (hinv : Inv env world) (hartifacts : after.artifacts = world.artifacts)
    (hlog : ∀ event ∈ world.log, event ∈ after.log) :
    ∀ key artifact, after.artifacts.load key = some artifact →
      artifact.key = key ∧ executionDirectory key = .ok () ∧ ∃ order made,
        Event.pushed order made ∈ after.log ∧ artifact.commitSha = env.commitSha made ∧
          artifact.reviewedFiles = order.reviewedFiles := by
  intro key artifact hartifact
  rw [hartifacts] at hartifact
  obtain ⟨hkey, hdirectory, order, made, hpushed, hsha, hfiles⟩ :=
    hinv.attested key artifact hartifact
  exact ⟨hkey, hdirectory, order, made, hlog _ hpushed, hsha, hfiles⟩

/-- Every step keeps the invariant, as long as no commit has the identity of one that it was
made from. -/
theorem Move.inv (hsha : ∀ base head, Commit.Below base head →
    env.commitSha base ≠ env.commitSha head) (h : Move env world after) (hinv : Inv env world) :
    Inv env after := by
  cases h with
  | quiet hquiet =>
    exact
      { sound := hquiet.log ▸ hinv.sound
        based := by
          rw [hquiet.log, hquiet.head]
          exact hinv.based
        attested := hinv.attested_of_log hquiet.artifacts fun _ hmem => hquiet.log ▸ hmem }
  | stage order files hhead hartifacts hlog =>
    refine
      { sound := hlog ▸ ⟨trivial, hinv.sound⟩
        based := ?_
        attested := hinv.attested_of_log hartifacts fun _ hmem =>
          hlog ▸ List.mem_cons_of_mem _ hmem }
    rw [hlog, hhead]
    exact hinv.based
  | commit order head tree message stamp hhead hbase hafter hartifacts hlog =>
    -- The current commit is the base of the order, so it has not been committed on.
    have hfresh : order ∉ commits world.log := by
      intro hmem
      obtain ⟨base, found, hfound, hsame, hbelow⟩ := hinv.based order hmem
      rw [hhead, Option.some_inj] at hfound
      subst hfound
      exact hsha base head hbelow (hsame.trans hbase.symm)
    refine
      { sound := hlog ▸ ⟨hfresh, hinv.sound⟩
        based := ?_
        attested := hinv.attested_of_log hartifacts fun _ hmem =>
          hlog ▸ List.mem_cons_of_mem _ hmem }
    intro other hother
    rw [hlog] at hother
    rcases List.mem_cons.mp hother with rfl | hother
    · exact ⟨head, _, hafter, hbase, .parent head tree message stamp⟩
    · obtain ⟨base, found, hfound, hsame, hbelow⟩ := hinv.based other hother
      rw [hhead, Option.some_inj] at hfound
      subst hfound
      exact ⟨base, _, hafter, hsame, .step base head tree message stamp hbelow⟩
  | push order made parent files rest hhead hartifacts holder htree hparent hchanges hlog =>
    have hsound := hinv.sound
    rw [holder] at hsound
    have hfresh : order ∉ pushes world.log := by
      intro hmem
      rw [holder] at hmem
      exact hsound.1 (hsound.2.2.committed_of_pushed hmem)
    refine
      { sound := hlog ▸ ⟨⟨hfresh, files, rest, holder, htree, parent, hparent, hchanges⟩,
          hinv.sound⟩
        based := ?_
        attested := hinv.attested_of_log hartifacts fun _ hmem =>
          hlog ▸ List.mem_cons_of_mem _ hmem }
    rw [hlog, hhead]
    exact hinv.based
  | create order made rest hhead hartifacts holder hlog =>
    have hsound := hinv.sound
    rw [holder] at hsound
    have hfresh : order ∉ creations world.log := by
      intro hmem
      rw [holder] at hmem
      exact hsound.1.1 (hsound.2.pushed_of_created hmem)
    refine
      { sound := hlog ▸ ⟨⟨hfresh, made, rest, holder⟩, hinv.sound⟩
        based := ?_
        attested := hinv.attested_of_log hartifacts fun _ hmem =>
          hlog ▸ List.mem_cons_of_mem _ hmem }
    rw [hlog, hhead]
    exact hinv.based
  | store artifact order made hhead hlog hdirectory hpushed hsame hfiles hartifacts =>
    refine
      { sound := hlog ▸ hinv.sound
        based := ?_
        attested := ?_ }
    · rw [hlog, hhead]
      exact hinv.based
    · intro key stored hstored
      rw [hartifacts] at hstored
      rw [hlog]
      by_cases hkey : key = artifact.key
      · subst hkey
        rw [Table.load_save_self, Option.some_inj] at hstored
        subst hstored
        exact ⟨rfl, hdirectory, order, made, hpushed, hsame, hfiles⟩
      · rw [Table.load_save_of_ne hkey] at hstored
        exact hinv.attested key stored hstored

/-! ## What the commands do -/

section Commands

variable {α : Type} {base : World} {Q : α → World → Prop} {E : Error → World → Prop}
  {onExit : Error} {answer : World → Except Error α}

/-- A command that reads is quiet. -/
theorem obeys_inspect (hbase : Quiet base world)
    (hQ : ∀ value after, Quiet base after → answer after = .ok value → Q value after)
    (hE : ∀ e after, E e after) :
    Obeys (Move env) (inspect env onExit answer) world Q E := by
  have hafter := hbase.trans (@quiet_disturbed env world)
  refine ⟨.quiet _ _ (quiet_disturbed world), ?_⟩
  cases hfault : env.faults world.steps with
  | some fault =>
    simp only [hfault]
    exact hE _ _
  | none =>
    cases hanswer : answer (world.disturbed env) with
    | error e =>
        simp only [hfault, hanswer]
        exact hE e _
    | ok value =>
        simp only [hfault, hanswer]
        exact hQ value _ hafter hanswer

theorem obeys_look (hbase : Quiet base world)
    (hQ : ∀ value after, Quiet base after → answer after = .ok value → Q value after)
    (hE : ∀ e after, Quiet base after → E e after) :
    Obeys (Move env) (look env answer) world Q E := by
  have hafter := hbase.trans (@quiet_disturbed env world)
  refine ⟨.quiet _ _ (quiet_disturbed world), ?_⟩
  cases hanswer : answer (world.disturbed env) with
  | error e =>
    simp only [hanswer]
    exact hE e _ hafter
  | ok value =>
    simp only [hanswer]
    exact hQ value _ hafter hanswer

/-- So is a question that others answer. -/
theorem obeys_ask {reply : World → Except Error α} (hbase : Quiet base world)
    (hQ : ∀ value after, Quiet base after → Q value after) (hE : ∀ e after, E e after) :
    Obeys (Move env) (.step (·.disturbed env) fun found => .done (reply found)) world Q E := by
  have hafter := hbase.trans (@quiet_disturbed env world)
  refine ⟨.quiet _ _ (quiet_disturbed world), ?_⟩
  cases hreply : reply world with
  | error e =>
    simp only [hreply]
    exact hE e _
  | ok value =>
    simp only [hreply]
    exact hQ value _ hafter

/-- A command that writes has its effect on the world as it finds it, or none. -/
theorem obeys_affect {effect : World → Except Error World} {Q : Unit → World → Prop}
    (hbase : Quiet base world)
    (hmove : ∀ found next, Quiet base found → effect found = .ok next → Move env world next)
    (hQ : ∀ found next, Quiet base found → effect found = .ok next → Q () next)
    (hE : ∀ e after, E e after) : Obeys (Move env) (affect env onExit effect) world Q E := by
  have hafter := hbase.trans (@quiet_disturbed env world)
  have hidle : Move env world (world.disturbed env) := .quiet _ _ (quiet_disturbed world)
  unfold affect affected
  cases hfault : env.faults world.steps with
  | some fault =>
    refine ⟨?_, ?_⟩
    · simp only [hfault]
      by_cases happlied : fault.applied = true
      · rw [if_pos happlied]
        cases heffect : effect (world.disturbed env) with
        | error e => exact hidle
        | ok next => exact hmove _ next hafter heffect
      · rw [if_neg happlied]
        exact hidle
    · simp only [hfault]
      exact hE _ _
  | none =>
    cases heffect : effect (world.disturbed env) with
    | error e =>
        refine ⟨?_, ?_⟩
        · simp only [hfault, heffect]
          exact hidle
        · simp only [hfault, heffect]
          exact hE e _
    | ok next =>
        refine ⟨?_, ?_⟩
        · simp only [hfault, heffect]
          exact hmove _ next hafter heffect
        · simp only [hfault, heffect]
          exact hQ _ next hafter heffect

end Commands

section Calls

variable {base : World} {E : Error → World → Prop} {path : String} {paths : List String}
  {workspace workspace' : Workspace}

theorem addPath_eq_ok (h : addPath env workspace path = .ok workspace') :
    workspace'.files = workspace.files ∧ workspace'.branches = workspace.branches ∧
      workspace'.branch = workspace.branch ∧ ∀ other, workspace'.index.load other =
        if other = path then stagedAt env workspace.files path
        else workspace.index.load other := by
  unfold addPath at h
  unfold stagedAt
  cases hfile : workspace.files.load path with
  | none =>
    cases hindex : workspace.index.load path with
    | none =>
        simp only [hfile, hindex] at h
        cases h
    | some content =>
        simp only [hfile, hindex] at h
        cases h
        exact ⟨rfl, rfl, rfl, fun other => Table.load_erase⟩
  | some file =>
    cases hindex : workspace.index.load path with
    | none =>
        simp only [hfile, hindex] at h
        by_cases hignored : env.ignored path = true
        · rw [if_pos hignored] at h
          cases h
        · rw [if_neg hignored] at h
          cases h
          exact ⟨rfl, rfl, rfl, fun other => Table.load_save⟩
    | some content =>
        simp only [hfile, hindex] at h
        cases h
        exact ⟨rfl, rfl, rfl, fun other => Table.load_save⟩

theorem foldlM_addPath (h : paths.foldlM (addPath env) workspace = .ok workspace') :
    workspace'.files = workspace.files ∧ workspace'.branches = workspace.branches ∧
      workspace'.branch = workspace.branch ∧ ∀ path,
        path ∈ paths ∨ workspace.index.load path = stagedAt env workspace.files path →
          workspace'.index.load path = stagedAt env workspace.files path := by
  induction paths generalizing workspace with
  | nil =>
    cases h
    refine ⟨rfl, rfl, rfl, ?_⟩
    intro path hpath
    exact hpath.resolve_left List.not_mem_nil
  | cons first rest ih =>
    rw [List.foldlM_cons] at h
    obtain ⟨between, hfirst, hrest⟩ := Checks.bind_ok_iff.mp h
    obtain ⟨hfiles, hbranches, hbranch, hindex⟩ := addPath_eq_ok hfirst
    obtain ⟨hfiles', hbranches', hbranch', hindex'⟩ := ih hrest
    refine ⟨hfiles'.trans hfiles, hbranches'.trans hbranches, hbranch'.trans hbranch, ?_⟩
    rw [hfiles] at hindex'
    intro path hpath
    apply hindex'
    by_cases hsame : path = first
    · subst hsame
      exact .inr (by rw [hindex, if_pos rfl])
    · rw [hindex, if_neg hsame]
      exact hpath.imp_left fun hmem => (List.mem_cons.mp hmem).resolve_left hsame

theorem add_eq_ok {found next : World} (h : add env order found = .ok next) :
    next.workspace.branches = found.workspace.branches ∧
      next.workspace.branch = found.workspace.branch ∧ next.artifacts = found.artifacts ∧
      next.log = .staged order found.workspace.files :: found.log ∧
      ∀ path ∈ order.reviewedPaths,
        next.workspace.index.load path = stagedAt env found.workspace.files path := by
  unfold add at h
  obtain ⟨workspace, hadded, h⟩ := Checks.bind_ok_iff.mp h
  cases h
  obtain ⟨-, hbranches, hbranch, hindex⟩ := foldlM_addPath hadded
  exact ⟨hbranches, hbranch, rfl, rfl, fun path hpath => hindex path (.inl hpath)⟩

theorem commit_eq_ok {found next : World} (h : commit order found = .ok next) :
    ∃ head, found.workspace.head = some head ∧
      next.workspace.head = some (.child head found.workspace.index order.commitMessage
        found.steps) ∧
      next.workspace.branch = found.workspace.branch ∧ next.artifacts = found.artifacts ∧
      next.log = .committed order (.child head found.workspace.index order.commitMessage
        found.steps) :: found.log := by
  unfold commit at h
  cases hhead : found.workspace.head with
  | none =>
    simp only [hhead] at h
    cases h
  | some head =>
    simp only [hhead] at h
    by_cases hsame : Library.Tree.changes head.tree found.workspace.index = []
    · rw [if_pos hsame] at h
      cases h
    · rw [if_neg hsame] at h
      cases h
      exact ⟨head, rfl, Table.load_save_self, rfl, rfl, rfl⟩

theorem push_eq_ok {found next : World} (h : push order found = .ok next) :
    ∃ made, found.workspace.branches.load order.featureBranch = some made ∧
      next.workspace = found.workspace ∧ next.artifacts = found.artifacts ∧
      next.log = .pushed order made :: found.log := by
  unfold push at h
  cases hmade : found.workspace.branches.load order.featureBranch with
  | none =>
    simp only [hmade] at h
    cases h
  | some made =>
    simp only [hmade] at h
    cases h
    exact ⟨made, rfl, rfl, rfl, rfl⟩

end Calls

section Provider

variable {base : World} {E : Error → World → Prop} {head : Commit Content}
  {authority : GitHubDeliveryAuthority}

/-- The current commit depends on the branches only. -/
theorem head_congr (hbranches : after.workspace.branches = world.workspace.branches)
    (hbranch : after.workspace.branch = world.workspace.branch) :
    after.workspace.head = world.workspace.head := by
  unfold Workspace.head
  rw [hbranches, hbranch]

theorem required_map_eq_ok {α β : Type} {error : Error} {value : Option α} {f : α → β} {b : β}
    (h : (required error value).map f = .ok b) : ∃ a, value = some a ∧ b = f a := by
  cases value with
  | none => cases h
  | some a =>
    cases h
    exact ⟨a, rfl, rfl⟩

theorem createPullRequest_obeys {Q : DraftPullRequestReceipt → World → Prop} {rest : List Event}
    (hlog : world.log = .pushed order made :: rest)
    (hQ : ∀ receipt after, Event.pushed order made ∈ after.log → Q receipt after)
    (hE : ∀ e after, E e after) :
    Obeys (Move env) (createPullRequest env order) world Q E := by
  refine ⟨.create world _ order made rest rfl rfl hlog rfl, ?_⟩
  cases hreceipt : env.receipts world.steps with
  | error e =>
    simp only [hreceipt]
    exact hE e _
  | ok receipt =>
    simp only [hreceipt]
    exact hQ receipt _ (List.mem_cons_of_mem _ (by
      rw [(quiet_disturbed world).log, hlog]
      exact List.mem_cons_self))

/-- The effects of a delivery, where the current commit is the base of the order. -/
theorem mutate_obeys {Q : Effects → World → Prop} (hbase : Quiet base world)
    (hhead : base.workspace.head = some head) (hsha : env.commitSha head = order.baseCommit)
    (hbranch : base.workspace.branch = order.featureBranch)
    (hQ : ∀ effects after made, Event.pushed order made ∈ after.log →
      effects.commitSha = env.commitSha made → Q effects after)
    (hE : ∀ e after, E e after) : Obeys (Move env) (mutate env order) world Q E := by
  unfold mutate
  rw [obeys_bind]
  apply obeys_affect hbase
  · intro found next hfound hadd
    obtain ⟨hbranches, hsame, hartifacts, hlog, -⟩ := add_eq_ok hadd
    exact .stage world next order found.workspace.files
      ((head_congr hbranches hsame).trans (hfound.head.trans hbase.head.symm))
      (hartifacts.trans (hfound.artifacts.trans hbase.artifacts.symm))
      (by rw [hlog, hfound.log, hbase.log])
  · intro found staged hfound hadd
    obtain ⟨hbranches, hsame, -, hstaged, hindex⟩ := add_eq_ok hadd
    have hstagedHead : staged.workspace.head = some head := by
      rw [head_congr hbranches hsame, hfound.head, hhead]
    have hstagedBranch : staged.workspace.branch = order.featureBranch := by
      rw [hsame, hfound.branch, hbranch]
    rw [obeys_bind]
    apply obeys_inspect (Quiet.refl staged) ?_ hE
    intro names between hbetween hnames
    have hchanged : names = Library.Tree.changes head.tree staged.workspace.index := by
      cases hnames
      unfold cachedNames
      rw [hbetween.headTree, hbetween.index, Workspace.headTree, hstagedHead]
      rfl
    rw [obeys_ite]
    refine ⟨fun _ => hE _ _, fun hreviewed => ?_⟩
    rw [not_not] at hreviewed
    rw [obeys_bind]
    apply obeys_affect hbetween
    · intro found next hfound hcommit
      obtain ⟨parent, hparent, hnext, -, hartifacts, hlog⟩ := commit_eq_ok hcommit
      rw [hfound.head, hstagedHead, Option.some_inj] at hparent
      subst hparent
      exact .commit between next order head _ _ _ (hbetween.head.trans hstagedHead) hsha hnext
        (hartifacts.trans (hfound.artifacts.trans hbetween.artifacts.symm))
        (by rw [hlog, hfound.log, hbetween.log])
    · intro found' committed hfound' hcommit
      obtain ⟨parent, hparent, hmade, hkept, -, hcommitted⟩ := commit_eq_ok hcommit
      rw [hfound'.head, hstagedHead, Option.some_inj] at hparent
      subst hparent
      rw [hfound'.index] at hmade hcommitted
      rw [hfound'.log, hstaged] at hcommitted
      have hmadeBranch : committed.workspace.branch = order.featureBranch := by
        rw [hkept, hfound'.branch, hstagedBranch]
      rw [obeys_bind]
      apply obeys_inspect (Quiet.refl committed) ?_ hE
      intro commitSha world1 hworld1 hcommitSha
      obtain ⟨current, hcurrent, rfl⟩ := required_map_eq_ok hcommitSha
      rw [hworld1.head, hmade, Option.some_inj] at hcurrent
      subst hcurrent
      rw [obeys_bind]
      apply obeys_inspect hworld1 ?_ hE
      intro commitParent world2 hworld2 _
      rw [obeys_bind]
      apply obeys_inspect hworld2 ?_ hE
      intro commitTree world3 hworld3 _
      rw [obeys_bind]
      apply obeys_inspect hworld3 ?_ hE
      intro committedPaths world4 hworld4 _
      rw [obeys_ite]
      refine ⟨fun _ => hE _ _, fun _ => ?_⟩
      rw [obeys_bind]
      apply obeys_affect hworld4
      · intro found next hfound hpush
        obtain ⟨current, hcurrent, hworkspace, hartifacts, hlog⟩ := push_eq_ok hpush
        have hnow : found.workspace.head = some current := by
          rw [Workspace.head, hfound.branch, hmadeBranch]
          exact hcurrent
        rw [hfound.head, hmade, Option.some_inj] at hnow
        subst hnow
        refine .push world4 next order _ head _ _ ?_ ?_ (hworld4.log.trans hcommitted) ?_ rfl
          ?_ ?_
        · rw [hworkspace, hfound.head, hworld4.head]
        · rw [hartifacts, hfound.artifacts, hworld4.artifacts]
        · exact hindex
        · intro path hpath
          rw [← hreviewed, hchanged, Library.Tree.mem_changes]
          exact fun heq => hpath heq.symm
        · rw [hlog, hfound.log, hworld4.log]
      · intro found pushed hfound hpush
        obtain ⟨current, hcurrent, -, -, hlog⟩ := push_eq_ok hpush
        have hnow : found.workspace.head = some current := by
          rw [Workspace.head, hfound.branch, hmadeBranch]
          exact hcurrent
        rw [hfound.head, hmade, Option.some_inj] at hnow
        subst hnow
        rw [obeys_bind]
        apply obeys_inspect (Quiet.refl pushed) ?_ hE
        intro remoteAfter world5 hworld5 _
        rw [obeys_ite]
        refine ⟨fun _ => hE _ _, fun _ => ?_⟩
        rw [obeys_bind]
        apply createPullRequest_obeys (hworld5.log.trans hlog) ?_ hE
        intro receipt after hafter
        exact hQ _ after _ hafter rfl
      · exact hE
    · exact hE
  · exact hE

theorem deliver_obeys {Q : GitHubDeliveryObservation → World → Prop} (hbase : Quiet base world)
    (hhead : base.workspace.head = some head) (hsha : env.commitSha head = order.baseCommit)
    (hbranch : base.workspace.branch = order.featureBranch)
    (hQ : ∀ observation after made, Event.pushed order made ∈ after.log →
      observation.commitSha = env.commitSha made → Q observation after)
    (hE : ∀ e after, E e after) : Obeys (Move env) (deliver env order authority) world Q E := by
  unfold deliver
  rw [obeys_bind]
  apply obeys_inspect hbase ?_ hE
  intro remoteBefore world1 hworld1 _
  rw [obeys_ite]
  refine ⟨fun _ => hE _ _, fun _ => ?_⟩
  rw [obeys_bind]
  apply obeys_ask hworld1 ?_ hE
  intro existing world2 hworld2
  rw [obeys_ite]
  refine ⟨fun _ => hE _ _, fun _ => ?_⟩
  rw [obeys_bind, obeys_rescue]
  apply mutate_obeys hworld2 hhead hsha hbranch
  · intro effects after made hpushed hcommitSha
    rw [obeys_ite]
    refine ⟨fun _ => hE _ _, fun _ => ?_⟩
    rw [obeys_ite]
    refine ⟨fun _ => hE _ _, fun _ => ?_⟩
    rw [obeys_ofExcept]
    refine ⟨fun observation hobservation => ?_, fun e _ => hE e _⟩
    rw [constructed_eq_ok hobservation]
    exact hQ _ after made hpushed hcommitSha
  · intro error after
    rw [obeys_ite]
    exact ⟨fun _ => hE _ _, fun _ => hE _ _⟩

end Provider

section Service

variable {base : World} {E : Error → World → Prop} {head : Commit Content} {request : Request}
  {artifact : GitHubDeliveryArtifact}

theorem workspaceSnapshot_obeys {Q : WorkspaceSnapshot → World → Prop} (hbase : Quiet base world)
    (hQ : ∀ snapshot after, Quiet base after → snapshot.branch = base.workspace.branch →
      (∃ head, base.workspace.head = some head ∧ snapshot.head = env.commitSha head) →
        Q snapshot after)
    (hE : ∀ e after, E e after) :
    Obeys (Move env) (workspaceSnapshot env) world Q E := by
  unfold workspaceSnapshot
  rw [obeys_bind]
  apply obeys_inspect hbase ?_ hE
  intro entries world1 hworld1 _
  rw [obeys_bind]
  apply obeys_inspect hworld1 ?_ hE
  intro branch world2 hworld2 hbranch
  cases hbranch
  rw [obeys_bind]
  apply obeys_inspect hworld2 ?_ hE
  intro sha world3 hworld3 hsha
  obtain ⟨head, hhead, rfl⟩ := required_map_eq_ok hsha
  rw [hworld3.head] at hhead
  rw [obeys_bind]
  apply obeys_inspect hworld3 ?_ hE
  intro tree world4 hworld4 _
  rw [obeys_bind, obeys_ofExcept]
  refine ⟨fun changed _ => ?_, fun e _ => hE e _⟩
  rw [obeys_bind]
  apply obeys_inspect hworld4 ?_ hE
  intro staged world5 hworld5 _
  rw [obeys_bind]
  apply obeys_inspect hworld5 ?_ hE
  intro remote after hafter _
  exact hQ _ after hafter hworld2.branch ⟨head, hhead, rfl⟩

theorem validateReviewedFiles_obeys {Q : Unit → World → Prop}
    (bindings : List ReviewedFileBinding) (hbase : Quiet base world)
    (hQ : ∀ after, Quiet base after → Q () after) (hE : ∀ e after, E e after) :
    Obeys (Move env) (validateReviewedFiles env bindings) world Q E := by
  induction bindings generalizing world with
  | nil => exact hQ world hbase
  | cons binding bindings ih =>
    unfold validateReviewedFiles
    rw [obeys_bind]
    apply obeys_look hbase ?_ fun e after _ => hE e after
    exact fun _ after hafter _ => ih hafter

/-- What the checks before a delivery establish: the workspace is at the base of the order, on
its feature branch. -/
theorem validateBefore_obeys {Q : Unit → World → Prop} {source : SourceSnapshot}
    {snapshot : WorkspaceSnapshot} (hbase : Quiet base world)
    (hQ : ∀ after, Quiet base after → snapshot.branch = request.workOrder.featureBranch →
      snapshot.head = request.workOrder.baseCommit → Q () after)
    (hE : ∀ e after, E e after) :
    Obeys (Move env) (validateBefore env request source snapshot) world Q E := by
  unfold validateBefore
  rw [obeys_bind, obeys_ofExcept]
  refine ⟨fun _ _ => ?_, fun e _ => hE e _⟩
  rw [obeys_bind, obeys_ofExcept]
  refine ⟨fun _ hmatches => ?_, fun e _ => hE e _⟩
  have hstate := require_eq_ok hmatches
  simp only [Bool.and_eq_true, decide_eq_true_eq] at hstate
  rw [obeys_bind]
  apply obeys_inspect hbase ?_ hE
  intro config world1 hworld1 _
  rw [obeys_bind, obeys_ofExcept]
  refine ⟨fun _ _ => ?_, fun e _ => hE e _⟩
  apply validateReviewedFiles_obeys _ hworld1 ?_ hE
  intro after hafter
  exact hQ after hafter hstate.1.1.1.1.1.1.1.2 hstate.1.1.1.1.1.1.2

/-- The checks after a delivery are quiet. -/
theorem validateAfter_obeys {Q : Unit → World → Prop} {before later : SourceSnapshot}
    {snapshot : WorkspaceSnapshot} {observation : GitHubDeliveryObservation}
    (hbase : Quiet base world) (hQ : ∀ after, Quiet base after → Q () after)
    (hE : ∀ e after, E e after) :
    Obeys (Move env) (validateAfter env request before later snapshot observation) world Q E := by
  unfold validateAfter
  rw [obeys_bind]
  apply obeys_inspect hbase ?_ hE
  intro parent world1 hworld1 _
  rw [obeys_bind]
  apply obeys_inspect hworld1 ?_ hE
  intro subject world2 hworld2 _
  rw [obeys_bind]
  apply obeys_inspect hworld2 ?_ hE
  intro committedPaths world3 hworld3 _
  rw [obeys_bind, obeys_ofExcept]
  refine ⟨fun _ _ => ?_, fun e _ => hE e _⟩
  rw [obeys_bind]
  apply validateReviewedFiles_obeys _ hworld3 ?_ hE
  intro after hafter
  rw [obeys_ofExcept]
  exact ⟨fun _ _ => hQ after hafter, fun e _ => hE e _⟩

theorem loadArtifact_obeys {key : Key} {Q : GitHubDeliveryArtifact → World → Prop}
    (hbase : Quiet base world) (hQ : ∀ stored after, Quiet base after → Q stored after)
    (hE : ∀ e after, Quiet base after → E e after) :
    Obeys (Move env) (loadArtifact env key) world Q E := by
  unfold loadArtifact
  rw [obeys_bind, obeys_ofExcept]
  refine ⟨fun _ _ => ?_, fun e _ => hE e world hbase⟩
  apply obeys_look hbase ?_ hE
  exact fun stored after hafter _ => hQ stored after hafter

theorem saveArtifact_obeys (hbase : Quiet base world)
    (hpushed : Event.pushed order made ∈ base.log) (hsha : artifact.commitSha = env.commitSha made)
    (hfiles : artifact.reviewedFiles = order.reviewedFiles) :
    Obeys (Move env) (saveArtifact env artifact) world (fun _ _ => True) fun _ _ => True := by
  unfold saveArtifact
  rw [obeys_bind, obeys_ofExcept]
  refine ⟨fun _ hdirectory => ?_, fun _ _ => trivial⟩
  rw [obeys_ite]
  refine ⟨fun _ => trivial, fun _ => ?_⟩
  rw [obeys_bind]
  apply obeys_look hbase ?_ fun _ _ _ => trivial
  intro present world1 hworld1 _
  rw [obeys_ite]
  refine ⟨fun _ => ?_, fun _ => ?_⟩
  · rw [obeys_bind]
    apply loadArtifact_obeys hworld1 ?_ fun _ _ _ => trivial
    intro stored after _
    rw [obeys_ite]
    exact ⟨fun _ => trivial, fun _ => trivial⟩
  · rw [obeys_bind, obeys_modify]
    refine ⟨?_, trivial⟩
    exact .store world1 _ artifact order made rfl rfl hdirectory (hworld1.log ▸ hpushed) hsha hfiles
      rfl

/-- A call where no artifact is stored. -/
theorem runNew_obeys (hbase : Quiet base world) :
    Obeys (Move env) (runNew env request) world (fun _ _ => True) fun _ _ => True := by
  have hE : ∀ (e : Error) (after : World), True := fun _ _ => trivial
  unfold runNew
  rw [obeys_bind, obeys_ofExcept]
  refine ⟨fun _ _ => ?_, fun _ _ => trivial⟩
  rw [obeys_bind]
  apply obeys_ask hbase ?_ hE
  intro validated world1 hworld1
  rw [obeys_bind, obeys_ofExcept]
  refine ⟨fun _ _ => ?_, fun _ _ => trivial⟩
  rw [obeys_bind]
  apply obeys_ask hworld1 ?_ hE
  intro sourceBefore world2 hworld2
  rw [obeys_bind]
  apply workspaceSnapshot_obeys hworld2 ?_ hE
  intro snapshot world3 hworld3 hbranch hhead
  obtain ⟨head, hhead, hsnapshot⟩ := hhead
  rw [obeys_bind]
  apply validateBefore_obeys hworld3 ?_ hE
  intro world4 hworld4 hfeature hcommit
  rw [obeys_bind]
  apply deliver_obeys hworld4 hhead (hsnapshot.symm.trans hcommit) (hbranch.symm.trans hfeature)
    ?_ hE
  intro observation delivered made hpushed hsha
  rw [obeys_bind]
  apply obeys_ask (Quiet.refl delivered) ?_ hE
  intro sourceAfter world5 hworld5
  rw [obeys_bind]
  apply workspaceSnapshot_obeys hworld5 ?_ hE
  intro snapshotAfter world6 hworld6 _ _
  rw [obeys_bind]
  apply validateAfter_obeys hworld6 ?_ hE
  intro world7 hworld7
  rw [obeys_bind, obeys_ofExcept]
  refine ⟨fun artifactId _ => ?_, fun _ _ => trivial⟩
  rw [obeys_bind]
  apply obeys_ask hworld7 ?_ hE
  intro generatedAt world8 hworld8
  rw [obeys_bind, obeys_ofExcept]
  refine ⟨fun artifact hartifact => ?_, fun _ _ => trivial⟩
  have hmade := constructed_eq_ok hartifact
  apply saveArtifact_obeys hworld8 hpushed
  · rw [hmade]
    exact hsha
  · rw [hmade]
    rfl

/-- Looking for a stored artifact is quiet. -/
theorem existing_obeys {key : Key} {Q : Option GitHubDeliveryArtifact → World → Prop}
    (hQ : ∀ found after, Quiet world after → Q found after) (hE : ∀ e after, E e after) :
    Obeys (Move env) (existing env key) world Q E := by
  unfold existing
  rw [obeys_handle, obeys_bind]
  apply loadArtifact_obeys (Quiet.refl world)
  · exact fun stored after hafter => hQ (some stored) after hafter
  · intro error after hafter
    rw [obeys_ite]
    exact ⟨fun _ => hQ none after hafter, fun _ => hE error after⟩

/-- Every step of a call is a move. -/
theorem run_obeys (request : Request) (world : World) :
    Obeys (Move env) (run env request) world (fun _ _ => True) fun _ _ => True := by
  unfold run
  rw [obeys_bind]
  apply existing_obeys ?_ fun _ _ => trivial
  intro found after hafter
  cases found with
  | none => exact runNew_obeys hafter
  | some artifact =>
    simp only
    rw [obeys_ite]
    exact ⟨fun _ => trivial, fun _ => trivial⟩

/-- A call keeps the invariant, whether it ends or dies. -/
theorem Inv.step (hsha : ∀ base head, Commit.Below base head →
    env.commitSha base ≠ env.commitSha head) (hinv : Inv env world)
    (call : Request × Option Nat) : Inv env (step env world call) := by
  obtain ⟨request, stop⟩ := call
  have hmoves := @run_obeys env request world
  cases stop with
  | none => exact hmoves.final hinv fun _ _ hbefore hmove => hmove.inv hsha hbefore
  | some stop => exact hmoves.left hinv (fun _ _ hbefore hmove => hmove.inv hsha hbefore) stop

end Service

/-! ## What every run publishes -/

theorem Inv.repeats (hinv : Inv env world) (call : Request × Option Nat) :
    Repeats env world call := by
  obtain ⟨request, stop⟩ := call
  intro artifact hartifact hsame
  obtain ⟨hkey, hdirectory, -⟩ := hinv.attested _ _ hartifact
  have hobeys : Obeys Quiet (run env request) world (fun found _ => found = artifact)
      fun _ _ => False := by
    unfold run existing loadArtifact
    rw [obeys_bind, obeys_handle, obeys_bind, obeys_bind, hdirectory, obeys_ok]
    refine ⟨quiet_disturbed world, ?_⟩
    have hfound : (world.disturbed env).artifacts.load request.key = some artifact := hartifact
    simp only [hfound, hkey, if_true]
    change Obeys Quiet (if sameRequest env request artifact = true then pure artifact
      else fail .conflict _) _ _ _
    rw [if_pos hsame]
    rfl
  cases stop with
  | none =>
    refine ⟨hobeys.final (P := Quiet world) (Quiet.refl world) fun _ _ h h' => h.trans h', ?_⟩
    intro _
    obtain ⟨found, after, hrun, hfound⟩ := hobeys.returns
    rw [hrun, hfound]
  | some stop =>
    refine ⟨hobeys.left (P := Quiet world) (Quiet.refl world) (fun _ _ h h' => h.trans h')
      stop, ?_⟩
    simp

/-- What is published is what was reviewed exactly when the files that were pushed had their
reviewed contents when they were staged. -/
theorem Inv.published_iff (hinv : Inv env world) : Published env world ↔ Careful env world := by
  constructor
  · intro hpublished order made older hsuffix
    have hreviewed := hpublished.pushed order made (hsuffix.mem List.mem_cons_self)
    exact (hinv.sound.reviewed_iff hsuffix).mp hreviewed
  · intro hcareful
    have hpushed : ∀ order made, Event.pushed order made ∈ world.log →
        Reviewed env order.reviewedFiles made := by
      intro order made hmem
      obtain ⟨older, hsuffix⟩ := exists_suffix hmem
      exact (hinv.sound.reviewed_iff hsuffix).mpr (hcareful order made older hsuffix)
    refine ⟨hpushed, ?_, hinv.sound.committedOnce, hinv.sound.pushedOnce,
      hinv.sound.createdOnce⟩
    intro key artifact hartifact
    obtain ⟨-, -, order, made, hmem, hsha, hfiles⟩ := hinv.attested key artifact hartifact
    exact ⟨order, made, hmem, hsha, hfiles ▸ hpushed order made hmem⟩

/-- In every run what is published is what was reviewed, commits, pushes and pull requests happen
at most once for an order, and calls are repeatable, exactly when what was pushed had its reviewed
contents when it was staged. -/
theorem delivery_published_iff (env : Environment)
    (hsha : ∀ base head, Commit.Below base head → env.commitSha base ≠ env.commitSha head)
    (initial : World) (hlog : initial.log = []) (hartifacts : initial.artifacts = [])
    (calls : List (Request × Option Nat)) :
    ((∀ world ∈ calls.scanl (step env) initial, Published env world) ∧
      AllMeet (step env) (Repeats env) initial calls) ↔
        ∀ world ∈ calls.scanl (step env) initial, Careful env world := by
  have hinitial : Inv env initial :=
    { sound := by
        rw [hlog]
        trivial
      based := by
        rw [hlog]
        simp [commits]
      attested := by
        rw [hartifacts]
        simp }
  have hinv := inv_of_mem_scanl (Inv env) (fun _ call h => Inv.step hsha h call) calls initial
    hinitial
  have hrepeats : AllMeet (step env) (Repeats env) initial calls :=
    allMeet_of_inv (Inv env) (fun _ call h => h.repeats call)
      (fun _ call h => Inv.step hsha h call) calls initial hinitial
  constructor
  · rintro ⟨hpublished, -⟩ world hworld
    exact (hinv world hworld).published_iff.mp (hpublished world hworld)
  · intro hcareful
    refine ⟨?_, hrepeats⟩
    intro world hworld
    exact (hinv world hworld).published_iff.mpr (hcareful world hworld)

/-! ## A delivery with and without an edit -/

/-- Some decimal digits of a number. -/
def digits (width number : Nat) : String :=
  String.ofList ((List.range width).map fun place => Nat.digitChar (number / 10 ^ place % 10))

/-- A number that depends on every byte. -/
def fingerprint (bytes : List Nat) : Nat :=
  bytes.foldl (fun sum byte => sum * 257 + byte + 1) 0

/-- The digest of some bytes. -/
def sampleContentDigest (content : Content) : String :=
  digits 64 (fingerprint (content.map (·.toNat)))

/-- The identity of a commit: as many ones as it has commits below it. -/
def sampleCommitSha (commit : Commit Content) : String :=
  String.ofList (List.replicate commit.depth '1' ++ List.replicate (40 - commit.depth) '0')

theorem sampleCommitSha_ne (base head : Commit Content) (h : Commit.Below base head) :
    sampleCommitSha base ≠ sampleCommitSha head := by
  intro heq
  have hlist := String.ofList_injective heq
  have hcount := congrArg (List.count '1') hlist
  simp only [List.count_append, List.count_replicate, beq_self_eq_true, if_true] at hcount
  have hlt := h.depth_lt
  simp at hcount
  omega

/-- A setting whose digests tell apart what one delivery makes. -/
def sampleSetting : Setting where
  sha256 text := digits 64 (fingerprint (text.toList.map (·.toNat)))
  orderText order := order.workOrderId
  authorityText authority := authority.authorityId
  observationText observation := observation.commitSha
  reviewText review := review.artifactId
  envelopeText artifact := artifact.artifactId

/-- The tree that the review started from. -/
def sampleTree : Library.Tree Content :=
  [("a.py", [1])]

def reviewedContent : Content :=
  [2]

def sampleTreeSha (tree : Library.Tree Content) : String :=
  digits 40 (fingerprint (tree.flatMap fun entry => entry.2.map (·.toNat)))

/-- The order to deliver the reviewed file. -/
def sampleOrder : GitHubDeliveryWorkOrder where
  workOrderId := "order"
  tenantId := "tenant"
  opportunityId := "opportunity"
  assignmentId := "assignment"
  codingReviewArtifactDigest := sampleSetting.sha256 "review"
  workspaceArtifactDigest := sampleSetting.sha256 "workspace"
  repositoryId := "repository"
  repositoryIdentity := "https://github.com/owner/product"
  repositoryFullName := "owner/product"
  workspaceId := "workspace"
  baseBranch := "main"
  baseCommit := sampleCommitSha (.root sampleTree)
  baseTree := sampleTreeSha sampleTree
  featureBranch := "agent/product"
  reviewedFiles := [⟨"a.py", "backend", sampleContentDigest reviewedContent⟩]
  finalDiffDigest := sampleSetting.sha256 "diff"
  commitMessage := "Deliver"
  pullRequestTitle := "Deliver"
  pullRequestBody := "Reviewed"
  objectives := ["a", "b", "c", "d"]
  acceptanceChecks := ["a", "b", "c", "d", "e", "f", "g", "h"]
  constraints := ["a", "b", "c", "d", "e", "f", "g", "h"]
  issuedAt := 0

def sampleAuthority : GitHubDeliveryAuthority where
  authorityId := "authority"
  issuerId := "issuer"
  tenantId := "tenant"
  assignmentId := "assignment"
  workOrderDigest := sampleOrder.digest sampleSetting
  codingReviewArtifactDigest := sampleSetting.sha256 "review"
  repositoryId := "repository"
  workspaceId := "workspace"
  baseBranch := "main"
  featureBranch := "agent/product"
  allowedActionIds := githubDeliveryActions
  allowedToolIds := githubDeliveryToolIds
  issuedAt := 0
  expiresAt := 1000

def sampleReview : CodingReviewArtifact where
  artifactId := "review"
  tenantId := "tenant"
  opportunityId := "opportunity"
  executionId := "coding"
  orchestrationArtifactDigest := sampleSetting.sha256 "orchestration"
  workspaceArtifactDigest := sampleSetting.sha256 "workspace"
  qaArtifactDigest := sampleSetting.sha256 "qa"
  securityArtifactDigest := sampleSetting.sha256 "security"
  repositoryId := "repository"
  repositoryIdentity := "https://github.com/owner/product"
  workspaceId := "workspace"
  baseBranch := "main"
  baseCommit := sampleCommitSha (.root sampleTree)
  baseTree := sampleTreeSha sampleTree
  featureBranch := "agent/product"
  finalChangedPaths := ["a.py"]
  finalFiles := [⟨"a.py", "backend", sampleContentDigest reviewedContent⟩]
  finalDiffDigest := sampleSetting.sha256 "diff"

def sampleReceipt : DraftPullRequestReceipt where
  number := 1
  url := "https://github.com/owner/product/pull/1"
  repositoryFullName := "owner/product"
  baseBranch := "main"
  headBranch := "agent/product"
  baseCommit := sampleCommitSha (.root sampleTree)
  headCommit := "1000000000000000000000000000000000000000"
  title := "Deliver"
  bodyDigest := sampleOrder.pullRequestBodyDigest sampleSetting

/-- An environment in which no command fails and other parties make some edits. -/
def sampleEnvironment (edits : Nat → List (String × Option File)) : Environment where
  setting := sampleSetting
  contentDigest := sampleContentDigest
  commitSha := sampleCommitSha
  treeSha := sampleTreeSha
  clean files path := ((files.load path).map (·.content)).getD []
  ignored _ := false
  reviews _ := .ok sampleReview
  edits := edits
  faults _ := none
  sources _ := .ok ⟨"main", sampleCommitSha (.root sampleTree), sampleTreeSha sampleTree, "",
    "https://github.com/owner/product"⟩
  found _ := .ok none
  receipts _ := .ok sampleReceipt
  clock tick := tick

/-- The reviewed workspace. -/
def sampleWorld : World where
  workspace :=
    { files := [("a.py", ⟨reviewedContent, true⟩)]
      index := sampleTree
      branches := [("agent/product", .root sampleTree)]
      branch := "agent/product"
      remoteUrl := "https://github.com/owner/product" }
  remote := []
  artifacts := []
  steps := 0
  log := []

/-- The call that delivers the file. -/
def sampleRequest : Request :=
  ⟨"execution", sampleOrder, sampleAuthority, sampleReview, "workspace"⟩

/-- What was pushed had its reviewed contents, push by push. -/
def checkPushes (env : Environment) : List Event → Bool
  | [] => true
  | .pushed order _ :: older =>
    (lastStaged older).all (fun files => order.reviewedFiles.all fun binding =>
      (files.load binding.path).isSome &&
        env.contentDigest (env.clean files binding.path) = binding.contentDigest) &&
      checkPushes env older
  | _ :: older => checkPushes env older

theorem careful_of_checkPushes (h : checkPushes env world.log = true) : Careful env world := by
  have hall : ∀ log, checkPushes env log = true → ∀ order made older,
      Event.pushed order made :: older <:+ log → ∀ files, lastStaged older = some files →
        Unaltered env order.reviewedFiles files := by
    intro log
    induction log with
    | nil =>
        intro _ order made older hsuffix
        simp at hsuffix
    | cons event rest ih =>
        intro hlog order made older hsuffix files hfiles binding hbinding
        rcases List.suffix_cons_iff.mp hsuffix with heq | hrest
        · cases heq
          simp only [checkPushes, hfiles, Option.all_some, Bool.and_eq_true, List.all_eq_true,
            decide_eq_true_eq] at hlog
          exact hlog.1 binding hbinding
        · have hchecked : checkPushes env rest = true := by
            cases event with
            | pushed found commit =>
                simp only [checkPushes, Bool.and_eq_true] at hlog
                exact hlog.2
            | staged found files => exact hlog
            | committed found commit => exact hlog
            | created found => exact hlog
          exact ih hchecked order made older hrest files hfiles binding hbinding
  intro order made older hsuffix
  exact hall world.log h order made older hsuffix

/-- A delivery that nobody disturbs, and the same call once more. -/
theorem delivery_published_reviewed :
    (∀ world ∈ [(sampleRequest, none), (sampleRequest, none)].scanl
        (step (sampleEnvironment fun _ => [])) sampleWorld,
      Published (sampleEnvironment fun _ => []) world) ∧
      AllMeet (step (sampleEnvironment fun _ => [])) (Repeats (sampleEnvironment fun _ => []))
        sampleWorld [(sampleRequest, none), (sampleRequest, none)] := by
  apply (delivery_published_iff (sampleEnvironment fun _ => []) sampleCommitSha_ne sampleWorld rfl
    rfl [(sampleRequest, none), (sampleRequest, none)]).mpr
  have hchecked : ([(sampleRequest, none), (sampleRequest, none)].scanl
      (step (sampleEnvironment fun _ => [])) sampleWorld).all (fun world =>
        checkPushes (sampleEnvironment fun _ => []) world.log) = true := by
    decide +kernel
  intro world hworld
  exact careful_of_checkPushes (List.all_eq_true.mp hchecked world hworld)

/-- An edit between the last check of the digest and the staging, which is taken back before the
file is checked again. -/
def unreviewedEdits (tick : Nat) : List (String × Option File) :=
  if tick = 13 then [("a.py", some ⟨[3], true⟩)]
  else if tick = 33 then [("a.py", some ⟨reviewedContent, true⟩)]
  else []

/-- The edited content is pushed, and attested as reviewed. -/
theorem not_delivery_published : ¬∀ env : Environment,
    (∀ base head, Commit.Below base head → env.commitSha base ≠ env.commitSha head) →
      ∀ initial : World, initial.log = [] → initial.artifacts = [] →
        ∀ calls : List (Request × Option Nat),
          (∀ world ∈ calls.scanl (step env) initial, Published env world) ∧
            AllMeet (step env) (Repeats env) initial calls := by
  intro h
  obtain ⟨hpublished, -⟩ := h (sampleEnvironment unreviewedEdits) sampleCommitSha_ne sampleWorld
    rfl rfl [(sampleRequest, none)]
  have hafter := hpublished (step (sampleEnvironment unreviewedEdits) sampleWorld
    (sampleRequest, none)) (by simp [List.scanl])
  obtain ⟨hstored, hcontents⟩ :
      (((step (sampleEnvironment unreviewedEdits) sampleWorld
        (sampleRequest, none)).artifacts.load sampleRequest.key).any
          fun artifact => artifact.reviewedFiles = sampleOrder.reviewedFiles) = true ∧
        (step (sampleEnvironment unreviewedEdits) sampleWorld
          (sampleRequest, none)).log.all (fun event => match event with
            | .pushed _ made => made.tree.load "a.py" = some [3]
            | _ => true) = true := by
    decide +kernel
  obtain ⟨artifact, hartifact, hfiles⟩ := (Option.any_eq_true _ _).mp hstored
  rw [decide_eq_true_eq] at hfiles
  obtain ⟨order, made, hpushed, -, hreviewed, -⟩ := hafter.attested _ artifact hartifact
  rw [hfiles] at hreviewed
  obtain ⟨content, hcontent, hdigest⟩ := hreviewed _ List.mem_cons_self
  have hedited := List.all_eq_true.mp hcontents _ hpushed
  rw [decide_eq_true_eq] at hedited
  rw [hedited, Option.some_inj] at hcontent
  subst hcontent
  exact absurd hdigest (by decide +kernel)

end GitHubDelivery
end Ascos
