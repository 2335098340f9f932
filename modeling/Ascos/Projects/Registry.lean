import Ascos.Library.Checks
import Ascos.Library.Dictionary
import Ascos.Library.Lineage
import Ascos.Runtime.Model
import Mathlib.Data.String.Basic

/-!
# Project registries over one file

`InMemoryProjectRegistry` and `FileProjectRegistry` of
`runtime/projects/registry.py`: the steps of the calls on any number of registries that
share a file, in any order, with publications and saves that fail.

Main results:

- Theorem `load_payload`: a file that a registry has saved is loaded as it was saved.
- Theorem `next_inv`: a step that meets the condition keeps the invariant.
- Theorem `registrations_kept`: in a run whose steps meet the condition no registration is
  lost, and a call that raises leaves nothing behind.
-/

namespace Ascos
namespace Projects

open Library
open Ascos.Runtime (isBlank)

/-! ## Projects -/

inductive ProjectLifecycle where
  | registered
  | active
  | paused
  | archived
deriving DecidableEq

def ProjectLifecycle.value : ProjectLifecycle → String
  | .registered => "REGISTERED"
  | .active => "ACTIVE"
  | .paused => "PAUSED"
  | .archived => "ARCHIVED"

/-- `ProjectLifecycle(value)`. -/
def ProjectLifecycle.ofValue (value : String) : Option ProjectLifecycle :=
  [ProjectLifecycle.registered, .active, .paused, .archived].find? (·.value = value)

@[simp]
theorem ProjectLifecycle.ofValue_value (lifecycle : ProjectLifecycle) :
    ofValue lifecycle.value = some lifecycle := by
  cases lifecycle <;> decide

structure ManagedProject where
  projectId : String
  name : String
  description : String
  repositoryUrl : String
  defaultBranch : String
  localPath : Option String := none
  lifecycle : ProjectLifecycle := .registered
  tags : List String := []
deriving DecidableEq

inductive RegistryError where
  | validation (message : String)
  | duplicateProject (projectId : String)
  | duplicateRepository (projectId : String)
  | corrupt
  | publication
  | save
deriving DecidableEq

/-- The functions of the standard library that projects use: `str.casefold`, and whether
`urlparse` gives one of the three schemes and a location. -/
structure Setting where
  casefold : String → String
  isAbsoluteUrl : String → Bool

def validateRequiredString (value fieldName : String) : Except RegistryError Unit :=
  if isBlank value = true then
    throw (.validation (fieldName ++ " must be a non-empty string"))
  else pure ()

section Registries

variable (setting : Setting)

def ManagedProject.postInit (project : ManagedProject) : Except RegistryError Unit := do
  validateRequiredString project.projectId "ManagedProject.project_id"
  validateRequiredString project.name "ManagedProject.name"
  validateRequiredString project.description "ManagedProject.description"
  validateRequiredString project.repositoryUrl "ManagedProject.repository_url"
  if setting.isAbsoluteUrl project.repositoryUrl = false then
    throw (.validation "ManagedProject.repository_url must be an absolute HTTP(S) or SSH URL")
  validateRequiredString project.defaultBranch "ManagedProject.default_branch"
  project.localPath.forM fun value => validateRequiredString value "ManagedProject.local_path"
  project.tags.forM fun tag => validateRequiredString tag "ManagedProject.tags item"
  if ¬project.tags.Nodup then
    throw (.validation "ManagedProject.tags must be unique")

/-- A project that its constructor has accepted. -/
def Project : Type :=
  { project : ManagedProject // project.postInit setting = .ok () }

instance : DecidableEq (Project setting) :=
  inferInstanceAs (DecidableEq { project : ManagedProject // project.postInit setting = .ok () })

variable {setting}

def Project.id (project : Project setting) : String :=
  project.1.projectId

/-- `_repository_key` of the repository of a project: without slashes and one suffix at its
end. -/
def Project.repositoryKey (project : Project setting) : String :=
  let url := (project.1.repositoryUrl.toList.reverse.dropWhile (· = '/')).reverse
  setting.casefold (String.ofList
    (if ".git".toList <:+ url then url.take (url.length - 4) else url))

/-! ## Registries and files -/

variable (setting)

/-- The memory of a registry: both dictionaries. -/
structure Registry where
  projects : List (String × Project setting) := []
  repositories : List (String × String) := []
deriving DecidableEq

variable {setting}

/-- The JSON object of a project. -/
structure ProjectValue where
  projectId : String
  name : String
  description : String
  repositoryUrl : String
  defaultBranch : String
  localPath : Option String
  lifecycle : String
  tags : List String
deriving DecidableEq

/-- The JSON object of a registry. -/
structure Payload where
  schemaVersion : Int
  projects : List ProjectValue
deriving DecidableEq

def Project.encode (project : Project setting) : ProjectValue where
  projectId := project.1.projectId
  name := project.1.name
  description := project.1.description
  repositoryUrl := project.1.repositoryUrl
  defaultBranch := project.1.defaultBranch
  localPath := project.1.localPath
  lifecycle := project.1.lifecycle.value
  tags := project.1.tags

variable (setting)

/-- The project that is loaded for a JSON object. -/
def ProjectValue.decode (value : ProjectValue) : Option (Project setting) :=
  (ProjectLifecycle.ofValue value.lifecycle).bind fun lifecycle =>
    let project : ManagedProject :=
      { projectId := value.projectId, name := value.name, description := value.description,
        repositoryUrl := value.repositoryUrl, defaultBranch := value.defaultBranch,
        localPath := value.localPath, lifecycle := lifecycle, tags := value.tags }
    if h : project.postInit setting = .ok () then some ⟨project, h⟩ else none

def load : Option Payload → Except RegistryError (List (Project setting))
  | none => pure []
  | some payload =>
    if payload.schemaVersion = 1 then
      match payload.projects.mapM (ProjectValue.decode setting) with
      | some projects => pure projects
      | none => throw .corrupt
    else throw .corrupt

variable {setting}

def Registry.listProjects (registry : Registry setting) : List (Project setting) :=
  (registry.projects.map Prod.snd).insertionSort fun first second => first.id ≤ second.id

/-- What `_save` writes. -/
def Registry.payload (registry : Registry setting) : Payload where
  schemaVersion := 1
  projects := registry.listProjects.map Project.encode

/-- `dict.pop(key, None)`. -/
def pop {ν : Type} (key : String) (entries : List (String × ν)) : List (String × ν) :=
  entries.filter fun entry => decide (entry.1 ≠ key)

/-! ## Steps -/

variable (setting)

/-- What a call on a registry does next.  `replace` has written the temporary file. -/
inductive Phase where
  | checkProject
  | checkRepository
  | putProject
  | putRepository
  | publish
  | list
  | replace (payload : Payload)
  | popProject
  | popRepository
  | saved
  | returned
  | raised (error : RegistryError) (left : Registry setting)

/-- What a constructor has still to register, and the registrations that had returned when it
read the file. -/
structure Loading where
  rest : List (Project setting)
  known : List (Project setting)

/-- `register`, called by a user or by the constructor, with the memory at its start and whether
it has replaced the file. -/
structure Call where
  registry : Nat
  project : Project setting
  phase : Phase setting
  loading : Option (Loading setting)
  before : Registry setting
  replaced : Bool := false

/-- The file, the registries with the ones that publish, the calls, the registrations that have
returned, and the registries whose constructor has returned, with the registrations that had
returned when it read the file. -/
structure World where
  file : Option Payload := none
  registries : List (Registry setting) := []
  publishing : List Nat := []
  calls : List (Call setting) := []
  returned : List (Project setting) := []
  loaded : List (Nat × List (Project setting)) := []

/-- A registry is constructed, given a publisher, or asked to register a project, or a call takes
its next step, which may fail where it depends on others. -/
inductive Move where
  | construct
  | attach (registry : Nat)
  | register (registry : Nat) (project : Project setting)
  | advance (call : Nat) (fails : Bool)

variable {setting}

def Call.running (call : Call setting) : Bool :=
  match call.phase with
  | .returned => false
  | .raised _ _ => false
  | _ => true

/-- A step of a call up to the end of its save. -/
def Call.step (call : Call setting) (memory : Registry setting) (file : Option Payload)
    (publishes fails : Bool) : Call setting × Registry setting × Option Payload :=
  match call.phase with
  | .checkProject =>
    if call.project.id ∈ memory.projects.map Prod.fst then
      ({ call with phase := .raised (.duplicateProject call.project.id) memory }, memory, file)
    else ({ call with phase := .checkRepository }, memory, file)
  | .checkRepository =>
    match memory.repositories.find? (·.1 = call.project.repositoryKey) with
    | some entry =>
        ({ call with phase := .raised (.duplicateRepository entry.2) memory }, memory, file)
    | none => ({ call with phase := .putProject }, memory, file)
  | .putProject =>
    ({ call with phase := .putRepository },
      { memory with projects := Dictionary.set call.project.id call.project memory.projects },
      file)
  | .putRepository =>
    ({ call with phase := .publish },
      { memory with
        repositories :=
          Dictionary.set call.project.repositoryKey call.project.id memory.repositories },
      file)
  | .publish =>
    if publishes = true ∧ fails = true then
      ({ call with phase := .raised .publication memory }, memory, file)
    else ({ call with phase := .list }, memory, file)
  | .list =>
    if fails = true then ({ call with phase := .popProject }, memory, file)
    else ({ call with phase := .replace memory.payload }, memory, file)
  | .replace payload =>
    if fails = true then ({ call with phase := .popProject }, memory, file)
    else ({ call with phase := .saved, replaced := true }, memory, some payload)
  | .popProject =>
    ({ call with phase := .popRepository },
      { memory with projects := pop call.project.id memory.projects }, file)
  | .popRepository =>
    let left := { memory with
      repositories := pop call.project.repositoryKey memory.repositories }
    ({ call with phase := .raised .save left }, left, file)
  | _ => (call, memory, file)

def World.registry (w : World setting) (number : Nat) : Registry setting :=
  w.registries.getD number {}

/-- A call that has saved returns; a constructor goes on to the next project. -/
def World.finish (w : World setting) (number : Nat) (call : Call setting) : World setting :=
  match call.loading with
  | none =>
    { w with
      calls := w.calls.set number { call with phase := .returned }
      returned := w.returned ++ [call.project] }
  | some ⟨[], known⟩ =>
    { w with
      calls := w.calls.set number { call with phase := .returned }
      loaded := w.loaded ++ [(call.registry, known)] }
  | some ⟨project :: rest, known⟩ =>
    { w with
      calls := w.calls.set number
        { call with
          project := project
          phase := .checkProject
          loading := some ⟨rest, known⟩
          before := w.registry call.registry
          replaced := false } }

/-- The file as a new registry reads it; an empty one is constructed at once. -/
def World.construct (w : World setting) : World setting :=
  match load setting w.file with
  | .error _ => w
  | .ok [] =>
    { w with
      registries := w.registries ++ [{}]
      loaded := w.loaded ++ [(w.registries.length, w.returned)] }
  | .ok (project :: rest) =>
    { w with
      registries := w.registries ++ [{}]
      calls := w.calls ++
        [⟨w.registries.length, project, .checkProject, some ⟨rest, w.returned⟩, {}, false⟩] }

/-- What a step makes of the world. -/
def World.next (w : World setting) : Move setting → World setting
  | .construct => w.construct
  | .attach registry => { w with publishing := registry :: w.publishing }
  | .register registry project =>
    if registry ∈ w.loaded.map Prod.fst then
      { w with
        calls := w.calls ++
          [⟨registry, project, .checkProject, none, w.registry registry, false⟩] }
    else w
  | .advance number fails =>
    match w.calls[number]? with
    | none => w
    | some call =>
        match call.phase with
        | .saved => w.finish number call
        | _ =>
            -- the constructor has no publisher
            let publishes := call.loading.isNone && decide (call.registry ∈ w.publishing)
            let after := call.step (w.registry call.registry) w.file publishes fails
            { w with
              file := after.2.2
              registries := w.registries.set call.registry after.2.1
              calls := w.calls.set number after.1 }

/-! ## What a run keeps -/

/-- Identifiers and repositories of projects are in one-to-one correspondence. -/
structure Distinct (projects : List (Project setting)) : Prop where
  ids : (projects.map Project.id).Nodup
  keys : (projects.map Project.repositoryKey).Nodup

/-- The memory of a registry with the given projects. -/
def Registry.of (projects : List (Project setting)) : Registry setting where
  projects := projects.map fun project => (project.id, project)
  repositories := projects.map fun project => (project.repositoryKey, project.id)

/-- Both dictionaries of a registry are those of projects in one-to-one correspondence. -/
def Registry.OneToOne (registry : Registry setting) : Prop :=
  ∃ projects, Distinct projects ∧ registry = .of projects

/-- The projects of a file. -/
def filed : Option Payload → List ProjectValue
  | none => []
  | some payload => payload.projects

/-- No registration is lost: one that has returned is in the file and in every registry that was
loaded after it; the memory of a registry without a running call, and the file, are one-to-one,
so that the file loads again; and a call that has raised left the memory as it was and did not
touch the file. -/
structure World.Sound (w : World setting) : Prop where
  filed : ∀ project ∈ w.returned, project.encode ∈ filed w.file
  loaded : ∀ entry ∈ w.loaded, ∀ project ∈ entry.2,
    (project.id, project) ∈ (w.registry entry.1).projects
  memory : ∀ number, (∀ call ∈ w.calls, call.registry = number → call.running = false) →
    (w.registry number).OneToOne
  disk : ∃ projects, load setting w.file = .ok projects ∧ Distinct projects
  reload : ∀ call ∈ w.calls, call.loading ≠ none → ∀ error left,
    call.phase = .raised error left → error = .save
  raised : ∀ call ∈ w.calls, call.loading = none → ∀ error left,
    call.phase = .raised error left → left = call.before ∧ call.replaced = false

/-- The condition of a step of a call: a publication does not raise, and a file is replaced only
by one that has all of its projects. -/
def Phase.Fits (w : World setting) (registry : Nat) (fails : Bool) : Phase setting → Prop
  | .publish => registry ∈ w.publishing → fails = false
  | .replace payload => fails = false → ∀ value ∈ Projects.filed w.file, value ∈ payload.projects
  | _ => True

instance (w : World setting) (registry : Nat) (fails : Bool) :
    (phase : Phase setting) → Decidable (phase.Fits w registry fails)
  | .publish => inferInstanceAs (Decidable (registry ∈ w.publishing → fails = false))
  | .replace payload =>
    inferInstanceAs (Decidable (fails = false →
      ∀ value ∈ Projects.filed w.file, value ∈ payload.projects))
  | .checkProject => .isTrue trivial
  | .checkRepository => .isTrue trivial
  | .putProject => .isTrue trivial
  | .putRepository => .isTrue trivial
  | .list => .isTrue trivial
  | .popProject => .isTrue trivial
  | .popRepository => .isTrue trivial
  | .saved => .isTrue trivial
  | .returned => .isTrue trivial
  | .raised _ _ => .isTrue trivial

/-- The condition of a step: besides, calls on one registry do not overlap. -/
def World.Fits (w : World setting) : Move setting → Prop
  | .register registry _ =>
      ∀ call ∈ w.calls, call.registry = registry → call.running = false
  | .advance number fails =>
      ∀ call ∈ w.calls[number]?, call.phase.Fits w call.registry fails
  | _ => True

instance (w : World setting) : (move : Move setting) → Decidable (w.Fits move)
  | .construct => .isTrue trivial
  | .attach _ => .isTrue trivial
  | .register registry _ =>
    inferInstanceAs (Decidable (∀ call ∈ w.calls, call.registry = registry →
      call.running = false))
  | .advance number fails =>
    inferInstanceAs (Decidable (∀ call ∈ w.calls[number]?,
      call.phase.Fits w call.registry fails))

/-! ## Registries of projects -/

variable {projects others : List (Project setting)} {project : Project setting}

theorem Distinct.perm (h : Distinct projects) (hperm : projects.Perm others) : Distinct others :=
  ⟨(hperm.map Project.id).nodup_iff.mp h.ids, (hperm.map Project.repositoryKey).nodup_iff.mp h.keys⟩

theorem distinct_append_iff :
    Distinct (projects ++ [project]) ↔ Distinct projects ∧
      project.id ∉ projects.map Project.id ∧
        project.repositoryKey ∉ projects.map Project.repositoryKey := by
  constructor
  · rintro ⟨hids, hkeys⟩
    rw [List.map_append, List.nodup_append] at hids hkeys
    refine ⟨⟨hids.1, hkeys.1⟩, fun hmem => ?_, fun hmem => ?_⟩
    · exact hids.2.2 _ hmem _ (List.mem_singleton_self _) rfl
    · exact hkeys.2.2 _ hmem _ (List.mem_singleton_self _) rfl
  · rintro ⟨⟨hids, hkeys⟩, hid, hkey⟩
    constructor
    · rw [List.map_append, List.nodup_append]
      refine ⟨hids, List.nodup_singleton _, ?_⟩
      rintro id hmem _ hlast rfl
      exact hid (List.mem_singleton.mp hlast ▸ hmem)
    · rw [List.map_append, List.nodup_append]
      refine ⟨hkeys, List.nodup_singleton _, ?_⟩
      rintro key hmem _ hlast rfl
      exact hkey (List.mem_singleton.mp hlast ▸ hmem)

theorem Distinct.of_append (h : Distinct (projects ++ others)) : Distinct projects := by
  obtain ⟨hids, hkeys⟩ := h
  rw [List.map_append, List.nodup_append] at hids hkeys
  exact ⟨hids.1, hkeys.1⟩

@[simp]
theorem map_fst_projects : (Registry.of projects).projects.map Prod.fst =
    projects.map Project.id := by
  simp [Registry.of]

@[simp]
theorem map_fst_repositories : (Registry.of projects).repositories.map Prod.fst =
    projects.map Project.repositoryKey := by
  simp [Registry.of]

theorem mem_of_projects : (project.id, project) ∈ (Registry.of projects).projects ↔
    project ∈ projects := by
  simp [Registry.of]

theorem set_projects (h : project.id ∉ projects.map Project.id) :
    Dictionary.set project.id project (Registry.of projects).projects =
      (Registry.of (projects ++ [project])).projects := by
  rw [Dictionary.set_of_notMem (by rwa [map_fst_projects])]
  simp [Registry.of]

theorem set_repositories (h : project.repositoryKey ∉ projects.map Project.repositoryKey) :
    Dictionary.set project.repositoryKey project.id (Registry.of projects).repositories =
      (Registry.of (projects ++ [project])).repositories := by
  rw [Dictionary.set_of_notMem (by rwa [map_fst_repositories])]
  simp [Registry.of]

theorem pop_append {ν : Type} {key : String} {value : ν} {entries : List (String × ν)}
    (h : key ∉ entries.map Prod.fst) : pop key (entries ++ [(key, value)]) = entries := by
  unfold pop
  rw [List.filter_append, List.filter_eq_self.mpr]
  · simp
  · intro entry hentry
    exact decide_eq_true fun heq => h (heq ▸ List.mem_map_of_mem hentry)

theorem pop_projects (h : project.id ∉ projects.map Project.id) :
    pop project.id (Registry.of (projects ++ [project])).projects =
      (Registry.of projects).projects := by
  have happend : (Registry.of (projects ++ [project])).projects =
      (Registry.of projects).projects ++ [(project.id, project)] := by
    simp [Registry.of]
  rw [happend, pop_append (by rwa [map_fst_projects])]

theorem pop_repositories (h : project.repositoryKey ∉ projects.map Project.repositoryKey) :
    pop project.repositoryKey (Registry.of (projects ++ [project])).repositories =
      (Registry.of projects).repositories := by
  have happend : (Registry.of (projects ++ [project])).repositories =
      (Registry.of projects).repositories ++ [(project.repositoryKey, project.id)] := by
    simp [Registry.of]
  rw [happend, pop_append (by rwa [map_fst_repositories])]

/-! ## Saved files -/

@[simp]
theorem decode_encode (project : Project setting) :
    project.encode.decode setting = some project := by
  unfold ProjectValue.decode Project.encode
  rw [ProjectLifecycle.ofValue_value, Option.bind_some]
  exact dif_pos project.2

theorem encode_injective : Function.Injective (@Project.encode setting) := by
  intro first second h
  have hdecode := congrArg (ProjectValue.decode setting) h
  rw [decode_encode, decode_encode] at hdecode
  exact Option.some.inj hdecode

/-- A file that a registry has saved is loaded as it was saved. -/
theorem load_payload (projects : List (Project setting)) :
    load setting (some ⟨1, projects.map Project.encode⟩) = .ok projects := by
  have hmap : (projects.map Project.encode).mapM (ProjectValue.decode setting) =
      some projects := by
    induction projects with
    | nil => rfl
    | cons project projects ih =>
        rw [List.map_cons, List.mapM_cons, decode_encode, ih]
        rfl
  simp only [load, hmap]
  rfl

/-- What a registry saves are its projects, in some order. -/
theorem payload_of (h : Distinct projects) :
    ∃ sorted, projects.Perm sorted ∧ Distinct sorted ∧
      (Registry.of projects).payload = ⟨1, sorted.map Project.encode⟩ := by
  have hvalues : (Registry.of projects).projects.map Prod.snd = projects := by
    simp [Registry.of, Function.comp_def]
  have hperm := (List.perm_insertionSort
    (fun first second : Project setting => first.id ≤ second.id) projects).symm
  refine ⟨_, hperm, h.perm hperm, ?_⟩
  unfold Registry.payload Registry.listProjects
  rw [hvalues]

variable (setting) in
/-- A file that is not there, or that was saved with projects in one-to-one correspondence. -/
def Saved (file : Option Payload) : Prop :=
  file = none ∨ ∃ projects : List (Project setting), Distinct projects ∧
    file = some ⟨1, projects.map Project.encode⟩

/-! ## Where a call stands -/

/-- What the memory is in each phase of a call that started with the given projects. -/
def Call.Stage (call : Call setting) (projects : List (Project setting))
    (memory : Registry setting) (file : Option Payload) : Prop :=
  let added := Registry.of (projects ++ [call.project])
  match call.phase with
  | .checkProject => memory = .of projects
  | .checkRepository => memory = .of projects ∧ call.project.id ∉ projects.map Project.id
  | .putProject => memory = .of projects ∧ Distinct (projects ++ [call.project])
  | .putRepository =>
    memory = ⟨added.projects, (Registry.of projects).repositories⟩ ∧
      Distinct (projects ++ [call.project])
  | .replace payload =>
    memory = added ∧ Distinct (projects ++ [call.project]) ∧ payload = added.payload
  | .popRepository =>
    memory = ⟨(Registry.of projects).projects, added.repositories⟩ ∧
      Distinct (projects ++ [call.project])
  | .saved =>
    memory = added ∧ Distinct (projects ++ [call.project]) ∧ call.project.encode ∈ filed file
  | _ => memory = added ∧ Distinct (projects ++ [call.project])

/-- What a running call knows: the memory that it started with, where it stands, that it has not
replaced the file before its end, and what its constructor has still to register. -/
structure Call.Runs (call : Call setting) (projects : List (Project setting))
    (memory : Registry setting) (file : Option Payload) : Prop where
  before : call.before = .of projects
  distinct : Distinct projects
  stage : call.Stage projects memory file
  replaced : call.phase ≠ .saved → call.replaced = false
  loading : ∀ loading, call.loading = some loading →
    Distinct (projects ++ call.project :: loading.rest) ∧
      ∀ known ∈ loading.known, known ∈ projects ++ call.project :: loading.rest

/-- A file is saved again or stays: nothing that is in it goes. -/
def Grows (file later : Option Payload) : Prop :=
  later = file ∨ filed file ⊆ filed later ∧ Saved setting later

theorem Grows.subset {file later : Option Payload} (h : @Grows setting file later) :
    filed file ⊆ filed later := by
  obtain rfl | ⟨hsubset, -⟩ := h
  · exact List.Subset.refl _
  · exact hsubset

theorem Call.Runs.grows {call : Call setting} {memory : Registry setting}
    {file later : Option Payload} (h : call.Runs projects memory file)
    (hgrows : @Grows setting file later) : call.Runs projects memory later := by
  refine ⟨h.before, h.distinct, ?_, h.replaced, h.loading⟩
  have hstage := h.stage
  unfold Call.Stage at hstage ⊢
  cases hphase : call.phase <;> simp only [hphase] at hstage ⊢
  case saved => exact ⟨hstage.1, hstage.2.1, hgrows.subset hstage.2.2⟩
  all_goals exact hstage

/-- What a step of a running call leaves: the call runs on, or it has ended, and if it has raised
the memory is what it was. -/
structure Call.Stepped (call : Call setting) (projects : List (Project setting))
    (file : Option Payload) (after : Call setting × Registry setting × Option Payload) :
    Prop where
  registry : after.1.registry = call.registry
  loading : after.1.loading ≠ none → call.loading ≠ none
  ends : (after.1.running = true ∧ ∃ others, after.1.Runs others after.2.1 after.2.2) ∨
    after.1.running = false ∧ after.2.1.OneToOne ∧ ∀ error left,
      after.1.phase = .raised error left → left = after.1.before ∧ after.1.replaced = false ∧
        (call.loading ≠ none → error = .save)
  before : ∀ project ∈ projects, (project.id, project) ∈ after.1.before.projects
  grows : @Grows setting file after.2.2
  keeps : ∀ project ∈ projects, (project.id, project) ∈ after.2.1.projects

section Steps

variable {call : Call setting} {memory : Registry setting} {file : Option Payload}
  {publishes fails : Bool}

/-- A project that a constructor still registers is new. -/
theorem Call.Runs.fresh (h : call.Runs projects memory file) (hloading : call.loading ≠ none) :
    Distinct (projects ++ [call.project]) := by
  obtain ⟨loading, hsome⟩ := Option.ne_none_iff_exists'.mp hloading
  have hdistinct := (h.loading loading hsome).1
  rw [List.append_cons] at hdistinct
  exact hdistinct.of_append

theorem Call.Runs.mem_before (h : call.Runs projects memory file) :
    ∀ project ∈ projects, (project.id, project) ∈ call.before.projects := by
  intro project hproject
  rw [h.before]
  exact mem_of_projects.mpr hproject

theorem Call.Runs.stepped {phase : Phase setting} {memory' : Registry setting}
    (h : call.Runs projects memory file)
    (hrunning : ({ call with phase := phase } : Call setting).running = true)
    (hnow : call.phase ≠ .saved)
    (hstage : ({ call with phase := phase } : Call setting).Stage projects memory' file)
    (hkeeps : ∀ project ∈ projects, (project.id, project) ∈ memory'.projects) :
    call.Stepped projects file ({ call with phase := phase }, memory', file) where
  registry := rfl
  loading := id
  ends := .inl ⟨hrunning, projects, h.before, h.distinct, hstage, fun _ => h.replaced hnow,
    h.loading⟩
  before := h.mem_before
  grows := .inl rfl
  keeps := hkeeps

theorem Call.Runs.raised {error : RegistryError} (h : call.Runs projects memory file)
    (hnow : call.phase ≠ .saved) (herror : call.loading ≠ none → error = .save) :
    call.Stepped projects file
      ({ call with phase := .raised error (.of projects) }, .of projects, file) where
  registry := rfl
  loading := id
  ends := by
    refine .inr ⟨rfl, ⟨projects, h.distinct, rfl⟩, fun error' left hphase => ?_⟩
    cases hphase
    exact ⟨h.before.symm, h.replaced hnow, herror⟩
  before := h.mem_before
  grows := .inl rfl
  keeps _ hproject := mem_of_projects.mpr hproject

theorem mem_added (hproject : project ∈ projects) (last : Project setting) :
    (project.id, project) ∈ (Registry.of (projects ++ [last])).projects :=
  mem_of_projects.mpr (List.mem_append_left _ hproject)

/-- A repository that is not found is no repository of the memory. -/
theorem notMem_of_find?_eq_none {key : String}
    (h : (Registry.of projects).repositories.find? (·.1 = key) = none) :
    key ∉ projects.map Project.repositoryKey := by
  rw [← map_fst_repositories]
  intro hmem
  obtain ⟨entry, hentry, rfl⟩ := List.mem_map.mp hmem
  exact absurd (List.find?_eq_none.mp h entry hentry) (by simp)

theorem Call.Runs.step (h : call.Runs projects memory file) (hrunning : call.running = true)
    (hnow : call.phase ≠ .saved)
    (hpublish : call.phase = .publish → publishes = true → fails = false)
    (hreplace : ∀ payload, call.phase = .replace payload → fails = false →
      ∀ value ∈ filed file, value ∈ payload.projects) :
    call.Stepped projects file (call.step memory file publishes fails) := by
  have hstage := h.stage
  unfold Call.Stage at hstage
  unfold Call.step
  cases hphase : call.phase with
  | checkProject =>
    simp only [hphase] at hstage ⊢
    subst hstage
    by_cases hmem : call.project.id ∈ (Registry.of projects).projects.map Prod.fst
    · rw [if_pos hmem]
      rw [map_fst_projects] at hmem
      refine h.raised hnow fun hloading => ?_
      exact absurd hmem (distinct_append_iff.mp (h.fresh hloading)).2.1
    · rw [if_neg hmem]
      rw [map_fst_projects] at hmem
      exact h.stepped rfl hnow ⟨rfl, hmem⟩ fun _ hproject => mem_of_projects.mpr hproject
  | checkRepository =>
    simp only [hphase] at hstage ⊢
    obtain ⟨rfl, hid⟩ := hstage
    cases hfind : (Registry.of projects).repositories.find?
        (·.1 = call.project.repositoryKey) with
    | none =>
        exact h.stepped rfl hnow ⟨rfl, distinct_append_iff.mpr
          ⟨h.distinct, hid, notMem_of_find?_eq_none hfind⟩⟩
          fun _ hproject => mem_of_projects.mpr hproject
    | some entry =>
        refine h.raised hnow fun hloading => ?_
        have hmem := List.mem_map_of_mem (f := Prod.fst) (List.mem_of_find?_eq_some hfind)
        have hkey : entry.1 = call.project.repositoryKey := by
          simpa using List.find?_some hfind
        rw [map_fst_repositories, hkey] at hmem
        exact absurd hmem (distinct_append_iff.mp (h.fresh hloading)).2.2
  | putProject =>
    simp only [hphase] at hstage ⊢
    obtain ⟨rfl, hdistinct⟩ := hstage
    rw [set_projects (distinct_append_iff.mp hdistinct).2.1]
    exact h.stepped rfl hnow ⟨rfl, hdistinct⟩ fun _ hproject => mem_added hproject _
  | putRepository =>
    simp only [hphase] at hstage ⊢
    obtain ⟨rfl, hdistinct⟩ := hstage
    rw [set_repositories (distinct_append_iff.mp hdistinct).2.2]
    exact h.stepped rfl hnow ⟨rfl, hdistinct⟩ fun _ hproject => mem_added hproject _
  | publish =>
    simp only [hphase] at hstage ⊢
    obtain ⟨rfl, hdistinct⟩ := hstage
    have hno : ¬(publishes = true ∧ fails = true) := fun hboth =>
      absurd (hpublish hphase hboth.1) (by rw [hboth.2]; decide)
    rw [if_neg hno]
    exact h.stepped rfl hnow ⟨rfl, hdistinct⟩ fun _ hproject => mem_added hproject _
  | list =>
    simp only [hphase] at hstage ⊢
    obtain ⟨rfl, hdistinct⟩ := hstage
    by_cases hfails : fails = true
    · rw [if_pos hfails]
      exact h.stepped rfl hnow ⟨rfl, hdistinct⟩ fun _ hproject => mem_added hproject _
    · rw [if_neg hfails]
      exact h.stepped rfl hnow ⟨rfl, hdistinct, rfl⟩ fun _ hproject => mem_added hproject _
  | replace payload =>
    simp only [hphase] at hstage ⊢
    obtain ⟨rfl, hdistinct, rfl⟩ := hstage
    by_cases hfails : fails = true
    · rw [if_pos hfails]
      exact h.stepped rfl hnow ⟨rfl, hdistinct⟩ fun _ hproject => mem_added hproject _
    · rw [if_neg hfails]
      have hsubset := hreplace _ hphase (by simpa using hfails)
      obtain ⟨sorted, hperm, hsorted, hpayload⟩ := payload_of hdistinct
      rw [hpayload] at hsubset ⊢
      have hfiled : call.project.encode ∈ sorted.map Project.encode :=
        List.mem_map_of_mem (hperm.mem_iff.mp (by simp))
      refine ⟨rfl, id, .inl ⟨rfl, projects, h.before, h.distinct, ⟨rfl, hdistinct, hfiled⟩, ?_,
          h.loading⟩, h.mem_before, .inr ⟨hsubset, .inr ⟨sorted, hsorted, rfl⟩⟩,
        fun _ hproject => mem_added hproject _⟩
      exact fun hsaved => absurd rfl hsaved
  | popProject =>
    simp only [hphase] at hstage ⊢
    obtain ⟨rfl, hdistinct⟩ := hstage
    rw [pop_projects (distinct_append_iff.mp hdistinct).2.1]
    exact h.stepped rfl hnow ⟨rfl, hdistinct⟩ fun _ hproject => mem_of_projects.mpr hproject
  | popRepository =>
    simp only [hphase] at hstage ⊢
    obtain ⟨rfl, hdistinct⟩ := hstage
    rw [pop_repositories (distinct_append_iff.mp hdistinct).2.2]
    exact h.raised hnow fun _ => rfl
  | saved => exact absurd hphase hnow
  | returned =>
    rw [Call.running, hphase] at hrunning
    cases hrunning
  | raised error left =>
    rw [Call.running, hphase] at hrunning
    cases hrunning

end Steps

/-! ## The invariant -/

/-- What holds in every state: running calls stand where they say and never share a registry, a
registry that is still loading is nobody's, what was known when a registry was loaded is in its
memory and was there before any call on it, and the file and the memories are one-to-one. -/
structure World.Inv (w : World setting) : Prop where
  file : Saved setting w.file
  returned : ∀ project ∈ w.returned, project.encode ∈ filed w.file
  created : ∀ entry ∈ w.loaded, entry.1 < w.registries.length
  loaded : ∀ entry ∈ w.loaded, ∀ project ∈ entry.2,
    (project.id, project) ∈ (w.registry entry.1).projects ∧
      ∀ call ∈ w.calls, call.running = true → call.registry = entry.1 →
        (project.id, project) ∈ call.before.projects
  calls : ∀ call ∈ w.calls, call.running = true → call.registry < w.registries.length ∧
    (call.loading ≠ none → call.registry ∉ w.loaded.map Prod.fst) ∧
      ∃ projects, call.Runs projects (w.registry call.registry) w.file
  alone : ∀ (number other : Nat) (call call' : Call setting), w.calls[number]? = some call →
    w.calls[other]? = some call' → call.running = true → call'.running = true →
      call.registry = call'.registry → number = other
  memory : ∀ number, (∀ call ∈ w.calls, call.registry = number → call.running = false) →
    (w.registry number).OneToOne
  reload : ∀ call ∈ w.calls, call.loading ≠ none → ∀ error left,
    call.phase = .raised error left → error = .save
  raised : ∀ call ∈ w.calls, call.loading = none → ∀ error left,
    call.phase = .raised error left → left = call.before ∧ call.replaced = false

section Invariant

variable {w : World setting}

theorem oneToOne_nil : Registry.OneToOne ({} : Registry setting) :=
  ⟨[], ⟨List.nodup_nil, List.nodup_nil⟩, rfl⟩

/-- Nothing was done yet. -/
theorem inv_initial {file : Option Payload} (hfile : Saved setting file) :
    World.Inv ({ file := file } : World setting) where
  file := hfile
  returned _ h := absurd h List.not_mem_nil
  created _ h := absurd h List.not_mem_nil
  loaded _ h := absurd h List.not_mem_nil
  calls _ h := absurd h List.not_mem_nil
  alone number other call call' h := by simp at h
  memory _ _ := oneToOne_nil
  reload _ h := absurd h List.not_mem_nil
  raised _ h := absurd h List.not_mem_nil

/-- What a file loads. -/
theorem World.Inv.load (h : w.Inv) :
    ∃ projects, load setting w.file = .ok projects ∧ Distinct projects ∧
      filed w.file = projects.map Project.encode := by
  obtain hnone | ⟨projects, hdistinct, hsome⟩ := h.file
  · refine ⟨[], ?_, ⟨List.nodup_nil, List.nodup_nil⟩, ?_⟩
    · rw [hnone]
      rfl
    · rw [hnone]
      rfl
  · refine ⟨projects, ?_, hdistinct, ?_⟩
    · rw [hsome]
      exact load_payload projects
    · rw [hsome]
      rfl

/-- The invariant is what the states of a run are to be. -/
theorem World.Inv.sound (h : w.Inv) : w.Sound where
  filed := h.returned
  loaded entry hentry project hproject := (h.loaded entry hentry project hproject).1
  memory := h.memory
  disk := by
    obtain ⟨projects, hload, hdistinct, -⟩ := h.load
    exact ⟨projects, hload, hdistinct⟩
  reload := h.reload
  raised := h.raised

/-- Everything that returned is among what the file loads. -/
theorem World.Inv.known (h : w.Inv) {projects : List (Project setting)}
    (hload : Projects.load setting w.file = .ok projects) :
    ∀ project ∈ w.returned, project ∈ projects := by
  intro project hproject
  obtain ⟨others, hothers, -, hfiled⟩ := h.load
  rw [hload] at hothers
  cases hothers
  have hmem := h.returned project hproject
  rw [hfiled] at hmem
  obtain ⟨other, hother, heq⟩ := List.mem_map.mp hmem
  exact encode_injective heq ▸ hother

theorem registry_append (number : Nat) :
    ({ w with registries := w.registries ++ [{}] } : World setting).registry number =
      w.registry number := by
  unfold World.registry
  simp only [List.getD_eq_getElem?_getD]
  by_cases h : number < w.registries.length
  · rw [List.getElem?_append_left h]
  · have hlength : w.registries.length ≤ number := by omega
    rw [List.getElem?_eq_none hlength, List.getElem?_append_right hlength]
    cases number - w.registries.length with
    | zero => rfl
    | succ n => rfl

/-- A call that is added runs on a registry on which no call runs. -/
theorem alone_append (h : w.Inv) {call : Call setting}
    (hidle : ∀ other ∈ w.calls, other.registry = call.registry → other.running = false) :
    ∀ (number other : Nat) (first second : Call setting),
      (w.calls ++ [call])[number]? = some first → (w.calls ++ [call])[other]? = some second →
        first.running = true → second.running = true → first.registry = second.registry →
          number = other := by
  have hnew : ∀ (number : Nat) (first : Call setting),
      (w.calls ++ [call])[number]? = some first →
        w.calls[number]? = some first ∨ number = w.calls.length ∧ first = call := by
    intro number first hfirst
    by_cases hlt : number < w.calls.length
    · exact .inl (by rwa [List.getElem?_append_left hlt] at hfirst)
    · rw [List.getElem?_append_right (by omega), List.getElem?_singleton] at hfirst
      split at hfirst
      · cases hfirst
        exact .inr ⟨by omega, rfl⟩
      · cases hfirst
  intro number other first second hfirst hsecond hrunning hrunning' hsame
  obtain hold | ⟨rfl, rfl⟩ := hnew number first hfirst
  · obtain hold' | ⟨rfl, rfl⟩ := hnew other second hsecond
    · exact h.alone number other first second hold hold' hrunning hrunning' hsame
    · rw [hidle first (List.mem_of_getElem? hold) hsame] at hrunning
      cases hrunning
  · obtain hold' | ⟨rfl, rfl⟩ := hnew other second hsecond
    · rw [hidle second (List.mem_of_getElem? hold') hsame.symm] at hrunning'
      cases hrunning'
    · rfl

theorem World.Inv.construct (h : w.Inv) : w.construct.Inv := by
  obtain ⟨projects, hload, hdistinct, hfiled⟩ := h.load
  have hknown := h.known hload
  have hbound : ∀ call ∈ w.calls, call.running = true → call.registry ≠ w.registries.length :=
    fun call hcall hrunning => Nat.ne_of_lt (h.calls call hcall hrunning).1
  unfold World.construct
  rw [hload]
  cases projects with
  | nil =>
    refine ⟨h.file, h.returned, ?_, ?_, ?_, h.alone, ?_, h.reload, h.raised⟩
    · intro entry hentry
      rw [List.length_append, List.length_singleton]
      obtain hentry | hentry := List.mem_append.mp hentry
      · exact Nat.lt_succ_of_lt (h.created entry hentry)
      · rw [List.mem_singleton.mp hentry]
        exact Nat.lt_succ_self _
    · intro entry hentry project hproject
      obtain hentry | hentry := List.mem_append.mp hentry
      · exact (registry_append entry.1).symm ▸ h.loaded entry hentry project hproject
      · rw [List.mem_singleton.mp hentry] at hproject
        exact absurd (hknown project hproject) List.not_mem_nil
    · intro call hcall hrunning
      obtain ⟨hlt, hloading, projects, hruns⟩ := h.calls call hcall hrunning
      refine ⟨?_, fun hsome => ?_, projects, (registry_append call.registry).symm ▸ hruns⟩
      · rw [List.length_append, List.length_singleton]
        exact Nat.lt_succ_of_lt hlt
      · rw [List.map_append, List.mem_append, not_or]
        exact ⟨hloading hsome, fun hmem =>
          hbound call hcall hrunning (List.mem_singleton.mp hmem)⟩
    · intro number hidle
      exact (registry_append number).symm ▸ h.memory number hidle
  | cons project rest =>
    have hidle : ∀ other ∈ w.calls, other.registry = w.registries.length →
        other.running = false := by
      intro other hother hsame
      rw [← Bool.not_eq_true]
      exact fun hrunning => hbound other hother hrunning hsame
    have hempty : w.registry w.registries.length = {} := by
      unfold World.registry
      rw [List.getD_eq_getElem?_getD, List.getElem?_eq_none (le_refl _)]
      rfl
    refine ⟨h.file, h.returned, ?_, ?_, ?_, alone_append h hidle, ?_, ?_, ?_⟩
    · intro entry hentry
      rw [List.length_append, List.length_singleton]
      exact Nat.lt_succ_of_lt (h.created entry hentry)
    · intro entry hentry project' hproject
      have hold := h.loaded entry hentry project' hproject
      refine ⟨(registry_append entry.1).symm ▸ hold.1, fun call hcall hrunning hsame => ?_⟩
      obtain hcall | hcall := List.mem_append.mp hcall
      · exact hold.2 call hcall hrunning hsame
      · rw [List.mem_singleton.mp hcall] at hsame
        exact absurd hsame.symm (Nat.ne_of_lt (h.created entry hentry))
    · intro call hcall hrunning
      rw [List.length_append, List.length_singleton]
      obtain hcall | hcall := List.mem_append.mp hcall
      · obtain ⟨hlt, hloading, projects, hruns⟩ := h.calls call hcall hrunning
        exact ⟨Nat.lt_succ_of_lt hlt, hloading, projects,
          (registry_append call.registry).symm ▸ hruns⟩
      · rw [List.mem_singleton.mp hcall]
        refine ⟨Nat.lt_succ_self _, fun _ hmem => ?_, [], rfl,
          ⟨List.nodup_nil, List.nodup_nil⟩, ?_, fun _ => rfl, ?_⟩
        · obtain ⟨entry, hentry, heq⟩ := List.mem_map.mp hmem
          exact absurd heq (Nat.ne_of_lt (h.created entry hentry))
        · exact (registry_append w.registries.length).trans hempty
        · intro loading hsome
          cases hsome
          exact ⟨hdistinct, hknown⟩
    · intro number hnumber
      exact (registry_append number).symm ▸
        h.memory number fun call hcall => hnumber call (List.mem_append_left _ hcall)
    · intro call hcall hsome error left hphase
      obtain hcall | hcall := List.mem_append.mp hcall
      · exact h.reload call hcall hsome error left hphase
      · rw [List.mem_singleton.mp hcall] at hphase
        cases hphase
    · intro call hcall hnone error left hphase
      obtain hcall | hcall := List.mem_append.mp hcall
      · exact h.raised call hcall hnone error left hphase
      · rw [List.mem_singleton.mp hcall] at hphase
        cases hphase

theorem World.Inv.register (h : w.Inv) {registry : Nat} {project : Project setting}
    (hloaded : registry ∈ w.loaded.map Prod.fst)
    (hidle : ∀ call ∈ w.calls, call.registry = registry → call.running = false) :
    World.Inv { w with
      calls := w.calls ++
        [⟨registry, project, .checkProject, none, w.registry registry, false⟩] } := by
  obtain ⟨projects, hdistinct, hmemory⟩ := h.memory registry hidle
  refine ⟨h.file, h.returned, h.created, ?_, ?_, alone_append h hidle, ?_, ?_, ?_⟩
  · intro entry hentry known hknown
    have hold := h.loaded entry hentry known hknown
    refine ⟨hold.1, fun call hcall hrunning hsame => ?_⟩
    obtain hcall | hcall := List.mem_append.mp hcall
    · exact hold.2 call hcall hrunning hsame
    · rw [List.mem_singleton.mp hcall] at hsame ⊢
      subst hsame
      exact hold.1
  · intro call hcall hrunning
    obtain hcall | hcall := List.mem_append.mp hcall
    · exact h.calls call hcall hrunning
    · rw [List.mem_singleton.mp hcall]
      obtain ⟨entry, hentry, rfl⟩ := List.mem_map.mp hloaded
      refine ⟨h.created entry hentry, fun hsome => absurd rfl hsome, projects, hmemory, hdistinct,
        hmemory, fun _ => rfl, fun loading hsome => ?_⟩
      cases hsome
  · intro number hnumber
    exact h.memory number fun call hcall => hnumber call (List.mem_append_left _ hcall)
  · intro call hcall hsome error left hphase
    obtain hcall | hcall := List.mem_append.mp hcall
    · exact h.reload call hcall hsome error left hphase
    · rw [List.mem_singleton.mp hcall] at hphase
      cases hphase
  · intro call hcall hnone error left hphase
    obtain hcall | hcall := List.mem_append.mp hcall
    · exact h.raised call hcall hnone error left hphase
    · rw [List.mem_singleton.mp hcall] at hphase
      cases hphase

/-- A call of a list in which one was replaced. -/
theorem mem_calls_set {calls : List (Call setting)} {number : Nat} {after other : Call setting}
    (h : other ∈ calls.set number after) :
    other = after ∨ ∃ index, index ≠ number ∧ calls[index]? = some other := by
  obtain ⟨index, hindex⟩ := List.mem_iff_getElem?.mp h
  by_cases heq : index = number
  · subst heq
    rw [List.getElem?_set] at hindex
    split at hindex
    · split at hindex
      · cases hindex
        exact .inl rfl
      · cases hindex
    · rename_i hne
      exact absurd rfl hne
  · rw [List.getElem?_set_ne (Ne.symm heq)] at hindex
    exact .inr ⟨index, heq, hindex⟩

/-- A call on another registry stays. -/
theorem mem_calls_set_of_ne {calls : List (Call setting)} {number : Nat}
    {call after other : Call setting} (hcall : calls[number]? = some call)
    (hother : other ∈ calls) (hne : other.registry ≠ call.registry) :
    other ∈ calls.set number after := by
  obtain ⟨index, hindex⟩ := List.mem_iff_getElem?.mp hother
  apply List.mem_iff_getElem?.mpr
  refine ⟨index, ?_⟩
  rw [List.getElem?_set_ne]
  · exact hindex
  · rintro rfl
    rw [hcall] at hindex
    cases hindex
    exact hne rfl

section Running

variable {number : Nat} {call after : Call setting}

/-- A call that goes on or ends on its registry shares it with no running call. -/
theorem alone_set (h : w.Inv) (hcall : w.calls[number]? = some call)
    (hrunning : call.running = true) (hregistry : after.registry = call.registry) :
    ∀ (index other : Nat) (first second : Call setting),
      (w.calls.set number after)[index]? = some first →
        (w.calls.set number after)[other]? = some second → first.running = true →
          second.running = true → first.registry = second.registry → index = other := by
  have hold : ∀ (index : Nat) (first : Call setting),
      (w.calls.set number after)[index]? = some first → first.running = true →
        ∃ old, w.calls[index]? = some old ∧ old.running = true ∧
          old.registry = first.registry := by
    intro index first hfirst hfirstRunning
    by_cases heq : index = number
    · subst heq
      rw [List.getElem?_set_self (List.getElem?_eq_some_iff.mp hcall).1] at hfirst
      cases hfirst
      exact ⟨call, hcall, hrunning, hregistry.symm⟩
    · rw [List.getElem?_set_ne (Ne.symm heq)] at hfirst
      exact ⟨first, hfirst, hfirstRunning, rfl⟩
  intro index other first second hfirst hsecond hrunning₁ hrunning₂ hsame
  obtain ⟨old₁, hold₁, hr₁, hs₁⟩ := hold index first hfirst hrunning₁
  obtain ⟨old₂, hold₂, hr₂, hs₂⟩ := hold other second hsecond hrunning₂
  exact h.alone index other old₁ old₂ hold₁ hold₂ hr₁ hr₂ (hs₁.trans (hsame.trans hs₂.symm))

theorem registry_ne (h : w.Inv) (hcall : w.calls[number]? = some call)
    (hrunning : call.running = true) {index : Nat} {other : Call setting} (hne : index ≠ number)
    (hother : w.calls[index]? = some other) (hrunning' : other.running = true) :
    other.registry ≠ call.registry := fun hsame =>
  hne (h.alone index number other call hother hcall hrunning' hrunning hsame)

/-- A step before the end of the save. -/
theorem World.Inv.stepped (h : w.Inv) (hcall : w.calls[number]? = some call)
    (hrunning : call.running = true) {projects : List (Project setting)}
    (hruns : call.Runs projects (w.registry call.registry) w.file)
    {next : Call setting × Registry setting × Option Payload}
    (hstep : call.Stepped projects w.file next) :
    World.Inv { w with
      file := next.2.2
      registries := w.registries.set call.registry next.2.1
      calls := w.calls.set number next.1 } := by
  have hmem := List.mem_of_getElem? hcall
  have hlt := (h.calls call hmem hrunning).1
  have hself : (w.registries.set call.registry next.2.1).getD call.registry {} = next.2.1 := by
    rw [List.getD_eq_getElem?_getD, List.getElem?_set_self hlt]
    rfl
  have hothers : ∀ other, other ≠ call.registry →
      (w.registries.set call.registry next.2.1).getD other {} = w.registry other := by
    intro other hne
    rw [List.getD_eq_getElem?_getD, List.getElem?_set_ne (Ne.symm hne)]
    exact List.getD_eq_getElem?_getD.symm
  refine ⟨?_, ?_, ?_, ?_, ?_, alone_set h hcall hrunning hstep.registry, ?_, ?_, ?_⟩
  · obtain hsame | ⟨-, hsaved⟩ := hstep.grows
    · exact hsame.symm ▸ h.file
    · exact hsaved
  · exact fun project hproject => hstep.grows.subset (h.returned project hproject)
  · intro entry hentry
    rw [List.length_set]
    exact h.created entry hentry
  · intro entry hentry project hproject
    obtain ⟨hmemory, hcalls⟩ := h.loaded entry hentry project hproject
    -- what was loaded was there before the call, and no step takes it away
    have hkept : call.registry = entry.1 → project ∈ projects := by
      intro hsame
      have hold := hcalls call hmem hrunning hsame
      rw [hruns.before] at hold
      exact mem_of_projects.mp hold
    constructor
    · by_cases hsame : call.registry = entry.1
      · rw [← hsame]
        change (project.id, project) ∈ ((w.registries.set call.registry next.2.1).getD
          call.registry {}).projects
        rw [hself]
        exact hstep.keeps project (hkept hsame)
      · change (project.id, project) ∈ ((w.registries.set call.registry next.2.1).getD
          entry.1 {}).projects
        rw [hothers entry.1 (Ne.symm hsame)]
        exact hmemory
    · intro other hother hrunning' hsame
      obtain rfl | ⟨index, -, hindex⟩ := mem_calls_set hother
      · rw [hstep.registry] at hsame
        exact hstep.before project (hkept hsame)
      · exact hcalls other (List.mem_of_getElem? hindex) hrunning' hsame
  · intro other hother hrunning'
    change other.registry < (w.registries.set call.registry next.2.1).length ∧ _ ∧
      ∃ projects, other.Runs projects
        ((w.registries.set call.registry next.2.1).getD other.registry {}) next.2.2
    rw [List.length_set]
    obtain rfl | ⟨index, hne, hindex⟩ := mem_calls_set hother
    · rw [hstep.registry, hself]
      refine ⟨hlt, fun hsome => (h.calls call hmem hrunning).2.1 (hstep.loading hsome), ?_⟩
      obtain ⟨-, hruns'⟩ | ⟨hended, -⟩ := hstep.ends
      · exact hruns'
      · rw [hended] at hrunning'
        cases hrunning'
    · obtain ⟨hlt', hloading, others, hruns'⟩ :=
        h.calls other (List.mem_of_getElem? hindex) hrunning'
      refine ⟨hlt', hloading, others, ?_⟩
      rw [hothers other.registry (registry_ne h hcall hrunning hne hindex hrunning')]
      exact hruns'.grows hstep.grows
  · intro registry hidle
    change ((w.registries.set call.registry next.2.1).getD registry {}).OneToOne
    by_cases hsame : registry = call.registry
    · subst hsame
      rw [hself]
      obtain ⟨hgoes, -⟩ | ⟨-, hleft, -⟩ := hstep.ends
      · have hnext : next.1 ∈ w.calls.set number next.1 :=
          List.mem_set (List.getElem?_eq_some_iff.mp hcall).1 next.1
        rw [hidle next.1 hnext hstep.registry] at hgoes
        cases hgoes
      · exact hleft
    · rw [hothers registry hsame]
      apply h.memory registry
      rintro other hother rfl
      exact hidle other (mem_calls_set_of_ne hcall hother hsame) rfl
  · intro other hother hsome error left hphase
    obtain rfl | ⟨index, -, hindex⟩ := mem_calls_set hother
    · obtain ⟨hgoes, -⟩ | ⟨-, -, hraised⟩ := hstep.ends
      · rw [Call.running, hphase] at hgoes
        cases hgoes
      · exact (hraised error left hphase).2.2 (hstep.loading hsome)
    · exact h.reload other (List.mem_of_getElem? hindex) hsome error left hphase
  · intro other hother hnone error left hphase
    obtain rfl | ⟨index, -, hindex⟩ := mem_calls_set hother
    · obtain ⟨hgoes, -⟩ | ⟨-, -, hraised⟩ := hstep.ends
      · rw [Call.running, hphase] at hgoes
        cases hgoes
      · exact ⟨(hraised error left hphase).1, (hraised error left hphase).2.1⟩
    · exact h.raised other (List.mem_of_getElem? hindex) hnone error left hphase

theorem World.Inv.returned_append (h : w.Inv) {project : Project setting}
    (hfiled : project.encode ∈ filed w.file) :
    World.Inv { w with returned := w.returned ++ [project] } :=
  { h with
    returned := by
      intro other hother
      obtain hother | hother := List.mem_append.mp hother
      · exact h.returned other hother
      · exact List.mem_singleton.mp hother ▸ hfiled }

theorem World.Inv.loaded_append (h : w.Inv) {registry : Nat} {known : List (Project setting)}
    (hlt : registry < w.registries.length)
    (hidle : ∀ call ∈ w.calls, call.running = true → call.registry ≠ registry)
    (hknown : ∀ project ∈ known, (project.id, project) ∈ (w.registry registry).projects) :
    World.Inv { w with loaded := w.loaded ++ [(registry, known)] } :=
  { h with
    created := by
      intro entry hentry
      obtain hentry | hentry := List.mem_append.mp hentry
      · exact h.created entry hentry
      · rw [List.mem_singleton.mp hentry]
        exact hlt
    loaded := by
      intro entry hentry
      obtain hentry | hentry := List.mem_append.mp hentry
      · exact h.loaded entry hentry
      · rw [List.mem_singleton.mp hentry]
        exact fun project hproject => ⟨hknown project hproject, fun call hcall hrunning hsame =>
          absurd hsame (hidle call hcall hrunning)⟩
    calls := by
      intro call hcall hrunning
      obtain ⟨hlt', hloading, hruns⟩ := h.calls call hcall hrunning
      refine ⟨hlt', fun hsome => ?_, hruns⟩
      rw [List.map_append, List.mem_append, not_or]
      exact ⟨hloading hsome, fun hmem => hidle call hcall hrunning (List.mem_singleton.mp hmem)⟩ }

theorem set_registry (registry : Nat) :
    w.registries.set registry (w.registry registry) = w.registries := by
  apply List.ext_getElem?
  intro index
  rw [List.getElem?_set]
  split
  · rename_i heq
    subst heq
    split
    · rename_i hlt
      unfold World.registry
      rw [List.getD_eq_getElem?_getD, List.getElem?_eq_getElem hlt]
      rfl
    · rename_i hlt
      exact (List.getElem?_eq_none (by omega)).symm
  · rfl

/-- A call that has saved returns or goes on to the next project. -/
theorem World.Inv.finish (h : w.Inv) (hcall : w.calls[number]? = some call)
    (hsaved : call.phase = .saved) : (w.finish number call).Inv := by
  have hmem := List.mem_of_getElem? hcall
  have hrunning : call.running = true := by
    rw [Call.running, hsaved]
  obtain ⟨hlt, -, projects, hruns⟩ := h.calls call hmem hrunning
  have hstage := hruns.stage
  unfold Call.Stage at hstage
  simp only [hsaved] at hstage
  obtain ⟨hmemory, hdistinct, hfiled⟩ := hstage
  have hstep : ∀ after : Call setting, after.registry = call.registry →
      (after.loading ≠ none → call.loading ≠ none) →
      ((after.running = true ∧ ∃ others, after.Runs others (w.registry call.registry) w.file) ∨
        after.phase = .returned) →
      (after.before = call.before ∨ after.before = w.registry call.registry) →
        World.Inv { w with calls := w.calls.set number after } := by
    intro after hregistry hloading hends hbefore
    have hkeeps : ∀ project ∈ projects,
        (project.id, project) ∈ (w.registry call.registry).projects := by
      intro project hproject
      rw [hmemory]
      exact mem_added hproject _
    have hstepped : call.Stepped projects w.file (after, w.registry call.registry, w.file) := by
      refine ⟨hregistry, hloading, ?_, ?_, .inl rfl, hkeeps⟩
      · obtain hgoes | hreturned := hends
        · exact .inl hgoes
        · refine .inr ⟨by rw [Call.running, hreturned], ⟨_, hdistinct, hmemory⟩, ?_⟩
          intro error left hphase
          rw [hreturned] at hphase
          cases hphase
      · obtain hbefore | hbefore := hbefore
        · rw [hbefore]
          exact hruns.mem_before
        · rw [hbefore]
          exact hkeeps
    have hinv := h.stepped hcall hrunning hruns hstepped
    rwa [set_registry] at hinv
  have hreturned := hstep { call with phase := .returned } rfl id (.inr rfl) (.inl rfl)
  unfold World.finish
  cases hloading : call.loading with
  | none =>
    simp only [hloading] at hreturned
    exact hreturned.returned_append hfiled
  | some loading =>
    obtain ⟨hrest, hknown⟩ := hruns.loading loading hloading
    obtain ⟨rest, known⟩ := loading
    cases rest with
    | nil =>
        simp only [hloading] at hreturned
        refine hreturned.loaded_append hlt ?_ ?_
        · intro other hother hrunning'
          obtain rfl | ⟨index, hne, hindex⟩ := mem_calls_set hother
          · cases hrunning'
          · exact registry_ne h hcall hrunning hne hindex hrunning'
        · intro project hproject
          change (project.id, project) ∈ (w.registry call.registry).projects
          rw [hmemory]
          exact mem_of_projects.mpr (hknown project hproject)
    | cons project rest =>
        refine hstep _ rfl (fun _ => by rw [hloading]; exact Option.some_ne_none _)
          (.inl ⟨rfl, projects ++ [call.project], hmemory, hdistinct, hmemory, fun _ => rfl, ?_⟩)
          (.inr rfl)
        intro loading hsome
        cases hsome
        rw [← List.append_cons]
        exact ⟨hrest, hknown⟩

end Running

theorem next_saved {number : Nat} {call : Call setting} {fails : Bool}
    (hcall : w.calls[number]? = some call) (hsaved : call.phase = .saved) :
    w.next (.advance number fails) = w.finish number call := by
  simp only [World.next, hcall, hsaved]

theorem next_advance {number : Nat} {call : Call setting} {fails : Bool}
    (hcall : w.calls[number]? = some call) (hsaved : call.phase ≠ .saved) :
    w.next (.advance number fails) =
      let after := call.step (w.registry call.registry) w.file
        (call.loading.isNone && decide (call.registry ∈ w.publishing)) fails
      { w with
        file := after.2.2
        registries := w.registries.set call.registry after.2.1
        calls := w.calls.set number after.1 } := by
  simp only [World.next, hcall]

/-- A call that has ended does nothing. -/
theorem step_of_not_running {call : Call setting} {memory : Registry setting}
    {file : Option Payload} {publishes fails : Bool} (h : call.running = false) :
    call.step memory file publishes fails = (call, memory, file) := by
  unfold Call.running at h
  unfold Call.step
  cases hphase : call.phase <;> simp only [hphase] at h ⊢
  all_goals cases h

/-- A step that meets the condition keeps the invariant. -/
theorem next_inv (h : w.Inv) (move : Move setting) (hfits : w.Fits move) : (w.next move).Inv := by
  cases move with
  | construct => exact h.construct
  | attach registry => exact { h with }
  | register registry project =>
    by_cases hloaded : registry ∈ w.loaded.map Prod.fst
    · simp only [World.next, if_pos hloaded]
      exact h.register hloaded hfits
    · simp only [World.next, if_neg hloaded]
      exact h
  | advance number fails =>
    cases hcall : w.calls[number]? with
    | none =>
        simp only [World.next, hcall]
        exact h
    | some call =>
        have hfits' := hfits call hcall
        by_cases hsaved : call.phase = .saved
        · rw [next_saved hcall hsaved]
          exact h.finish hcall hsaved
        · rw [next_advance hcall hsaved]
          by_cases hrunning : call.running = true
          · obtain ⟨-, -, projects, hruns⟩ :=
              h.calls call (List.mem_of_getElem? hcall) hrunning
            refine h.stepped hcall hrunning hruns (hruns.step hrunning hsaved ?_ ?_)
            · intro hphase hpublishes
              rw [hphase] at hfits'
              rw [Bool.and_eq_true, decide_eq_true_eq] at hpublishes
              exact hfits' hpublishes.2
            · intro payload hphase
              rw [hphase] at hfits'
              exact hfits'
          · rw [step_of_not_running (by simpa using hrunning)]
            have hset : w.calls.set number call = w.calls := by
              obtain ⟨hlt, heq⟩ := List.getElem?_eq_some_iff.mp hcall
              rw [← heq]
              exact List.set_getElem_self hlt
            dsimp only
            rw [hset, set_registry]
            exact h

end Invariant

/-- In a run whose steps meet the condition no registration is lost, the memories and the file
stay one-to-one, and a call that raises leaves nothing behind. -/
theorem registrations_kept (file : Option Payload) (hfile : Saved setting file)
    (moves : List (Move setting))
    (hmeets : AllMeet World.next World.Fits { file := file } moves) :
    ∀ w ∈ moves.scanl World.next ({ file := file } : World setting), w.Sound :=
  fun w hw => (inv_of_allMeet World.Inv (fun _ move h hfits => next_inv h move hfits)
    moves _ (inv_initial hfile) hmeets w hw).sound

end Registries

/-! ## Runs of two registries -/

/-- ASCII, and the URLs of one scheme. -/
def asciiSetting : Setting where
  casefold value := String.ofList (value.toList.map Char.toLower)
  isAbsoluteUrl url := "https://".toList.isPrefixOf url.toList

/-- Two projects. -/
def alpha : Project asciiSetting :=
  ⟨{ projectId := "alpha", name := "Alpha", description := "First",
     repositoryUrl := "https://example.com/alpha", defaultBranch := "main" }, by decide⟩

/-- Another project. -/
def beta : Project asciiSetting :=
  ⟨{ projectId := "beta", name := "Beta", description := "Second",
     repositoryUrl := "https://example.com/beta", defaultBranch := "main" }, by decide⟩

/-- A registration from its start to its return. -/
def registration (call registry : Nat) (project : Project asciiSetting) :
    List (Move asciiSetting) :=
  .register registry project :: List.replicate 8 (.advance call false)

/-- One registry registers both projects; another one is constructed before. -/
def oneWriter : List (Move asciiSetting) :=
  [.construct, .construct] ++ registration 0 0 alpha ++ registration 1 0 beta

theorem registrations_kept_oneWriter :
    AllMeet World.next World.Fits ({} : World asciiSetting) oneWriter ∧
      ∀ w ∈ oneWriter.scanl World.next ({} : World asciiSetting), w.Sound :=
  ⟨by decide, registrations_kept none (.inl rfl) oneWriter (by decide)⟩

/-- Each of two registries registers one project. -/
def twoWriters : List (Move asciiSetting) :=
  [.construct, .construct] ++ registration 0 0 alpha ++ registration 1 1 beta

/-- The second registry overwrites what the first one has saved. -/
theorem not_registrations_kept :
    ¬∀ (setting : Setting) (moves : List (Move setting)),
      ∀ w ∈ moves.scanl World.next ({} : World setting), w.Sound := by
  intro h
  have hsound := h asciiSetting twoWriters (twoWriters.foldl World.next {})
    (List.mem_of_getLast? (by rw [List.getLast?_scanl]))
  have hfiled := hsound.filed alpha (by decide)
  exact absurd hfiled (by decide)

end Projects
end Ascos
