import Ascos.ManagedExecution.Policy
import Mathlib.Algebra.GroupWithZero.Nat
import Mathlib.Data.List.DropRight

/-!
# The validation of patches

`ControlledPatchApplier.validate` of `runtime/coding_providers/patching.py` with the
functions of `path_policy.py`, on a workspace that may hold links and special files.

Main results:

- Theorem `accepted_patch_sound_iff`: an accepted patch is sound exactly when no dot component
  hides the Git directory or a forbidden prefix, and paths that are spelled differently denote
  files apart from each other.
-/

namespace Ascos
namespace CodingProviders

/-! ## Patches -/

inductive FileOperationKind where
  | create
  | update
  | delete
deriving DecidableEq

structure FileOperation where
  kind : FileOperationKind
  path : String
  content : Option String := none
deriving DecidableEq

structure ManagedTask where
  projectTaskId : String
  allowedPaths : List String
  forbiddenPaths : List String
deriving DecidableEq

namespace PatchPolicy

open Library ManagedExecution

/-! ## Paths -/

/-- The two exception classes of the validation. -/
inductive PolicyError where
  | executionPolicyError (message : String)
  | providerPolicyError (message : String)
deriving DecidableEq

/-- A check of `runtime.managed_execution.policy`. -/
def ofExecution {α : Type} (result : Except ExecutionPolicyError α) : Except PolicyError α :=
  result.mapError fun error => .executionPolicyError error.message

/-- `raise ProviderPolicyError(message)` when a condition holds. -/
def reject (condition : Prop) [Decidable condition] (message : String) : Except PolicyError Unit :=
  if condition then throw (.providerPolicyError message) else pure ()

variable (setting : Setting)

/-- `normalized_parts`: the components of a relative path but empty ones and single dots. -/
def normalizedParts (value : String) : Except PolicyError (List (List Char)) := do
  let normalized ← ofExecution (safeRelativePath setting value)
  pure (withoutDots (splitParts normalized.toList))

/-- `text.rstrip("/")`. -/
def stripRight (text : String) : String :=
  String.ofList (text.toList.rdropWhile (· == '/'))

def matchesPrefix (path before : String) : Except PolicyError Bool := do
  let pathParts ← normalizedParts setting path
  let before := stripRight (withSlashes before)
  if before = "" then pure true
  else
    let prefixParts ← normalizedParts setting before
    pure (decide (pathParts.take prefixParts.length = prefixParts))

/-- `any(matches_prefix(path, prefix) for prefix in prefixes)`. -/
def matchesAny (path : String) : List String → Except PolicyError Bool
  | [] => pure false
  | before :: rest => do
    let found ← matchesPrefix setting path before
    if found = true then pure true else matchesAny path rest

/-- `not any(matches_prefix(path, prefix) for prefix in prefixes)`. -/
def matchesNone (path : String) (prefixes : List String) : Except PolicyError Bool := do
  let found ← matchesAny setting path prefixes
  pure (!found)

def allowedPath (path : String) (allowed forbidden : List String) : Except PolicyError Bool :=
  if allowed = [] then matchesNone setting path forbidden
  else do
    let permitted ← matchesAny setting path allowed
    if permitted = true then matchesNone setting path forbidden else pure false

/-! ## The workspace -/

/-- What `lstat` finds: a regular file, a directory, a link or reparse point, or another file. -/
inductive FileKind where
  | regular
  | directory
  | link
  | special
deriving DecidableEq

/-- What there is at each place below the root of a workspace. -/
abbrev Files := List (List Char) → Option FileKind

/-- The loop of `secure_destination` after some parts. -/
def walk (files : Files) : List (List Char) → List (List Char) → Except PolicyError Unit
  | _, [] => pure ()
  | above, part :: rest => do
    let current := above ++ [part]
    match files current with
    | none => walk files current rest
    | some kind => do
        reject (kind = .link) "Workspace path contains a link or reparse point"
        reject (rest ≠ [] ∧ kind ≠ .directory) "Workspace parent is not a directory"
        reject (rest = [] ∧ kind = .special) "Workspace path is a special file"
        walk files current rest

/-- `secure_destination`: the place below the root.  The parts hold no `..`, so the last check of
the source, that the place is below the root, always passes. -/
def secureDestination (files : Files) (relative : String) :
    Except PolicyError (List (List Char)) := do
  let parts ← normalizedParts setting relative
  walk files [] parts
  pure parts

/-! ## Validation -/

/-- The limits of a `ControlledPatchApplier`. -/
structure ControlledPatchApplier where
  maximumPatchBytes : Nat := 128000
  maximumFileBytes : Nat := 256000
  allowDeletions : Bool := false

/-- An operation with its destination and, unless it deletes, its content. -/
structure Validated where
  operation : FileOperation
  destination : List (List Char)
  content : Option String

/-- The checks of the path of one operation, after those on the earlier paths. -/
def validatePath (files : Files) (task : ManagedTask) (policy : ManagedExecution.ChangePolicy)
    (seen : List String) (path : String) : Except PolicyError (List (List Char)) := do
  reject (path ∈ seen ∨ path = ".git" ∨ ".git/".toList <+: path.toList)
    "Duplicate, conflicting, or Git-internal patch"
  let permitted ← allowedPath setting path task.allowedPaths task.forbiddenPaths
  reject (permitted = false) "Patch path is outside policy"
  ofExecution (validateChange setting path policy 0 0)
  secureDestination setting files path

/-- The checks of the content of one operation, after so many bytes: the content to write, and the
bytes so far. -/
def validateContent (applier : ControlledPatchApplier) (operation : FileOperation) (total : Nat) :
    Except PolicyError (Option String × Nat) :=
  if operation.kind = .delete then do
    reject (applier.allowDeletions = false) "File deletion is not permitted"
    pure (none, total)
  else
    match operation.content with
    | none => throw (.providerPolicyError "Patch content must be UTF-8 text")
    | some content => do
        reject ('\x00' ∈ content.toList) "Patch content must be UTF-8 text"
        reject (applier.maximumFileBytes < content.utf8ByteSize ∨
          applier.maximumPatchBytes < total + content.utf8ByteSize) "Patch size limit exceeded"
        pure (some content, total + content.utf8ByteSize)

/-- The loop of `ControlledPatchApplier.validate`. -/
def validateFrom (applier : ControlledPatchApplier) (files : Files) (task : ManagedTask)
    (policy : ManagedExecution.ChangePolicy) :
    List FileOperation → List String → Nat → Except PolicyError (List Validated)
  | [], _, _ => pure []
  | operation :: operations, seen, total => do
    let path ← ofExecution (safeRelativePath setting operation.path)
    let destination ← validatePath setting files task policy seen path
    let (content, total) ← validateContent applier operation total
    let rest ← validateFrom applier files task policy operations (path :: seen) total
    pure (⟨operation, destination, content⟩ :: rest)

def validate (applier : ControlledPatchApplier) (files : Files) (operations : List FileOperation)
    (task : ManagedTask) (policy : ManagedExecution.ChangePolicy) :
    Except PolicyError (List Validated) :=
  validateFrom setting applier files task policy operations [] 0

/-! ## The places that paths denote -/

/-- The place below the root that a path denotes. -/
def place (path : String) : List (List Char) :=
  withoutDots (components path)

/-- One of two places is the other or above it. -/
def Overlap (first second : String) : Prop :=
  place first <+: place second ∨ place second <+: place first

/-- The bytes that an operation writes. -/
def written (operation : FileOperation) : Nat :=
  if operation.kind = .delete then 0 else (operation.content.getD "").utf8ByteSize

/-- What an accepted patch is meant to keep to, by the files that its paths denote.  The prefixes
of the change policy are compared in any letter case. -/
structure Sound (applier : ControlledPatchApplier) (files : Files) (task : ManagedTask)
    (policy : ManagedExecution.ChangePolicy) (operations : List FileOperation) : Prop where
  git : ∀ operation ∈ operations, (place operation.path).head? ≠ some ".git".toList
  apart : operations.Pairwise fun first second => ¬ Overlap first.path second.path
  inside : ∀ operation ∈ operations, ['.', '.'] ∉ place operation.path
  linkless : ∀ operation ∈ operations, ∀ above, above <+: place operation.path → above ≠ [] →
    files above ≠ some .link
  allowed : ∀ operation ∈ operations,
    (task.allowedPaths ≠ [] → ∃ before ∈ task.allowedPaths,
      place before <+: place operation.path) ∧
    (policy.allowedPathPrefixes ≠ [] → ∃ before ∈ policy.allowedPathPrefixes,
      Under setting operation.path before)
  forbidden : ∀ operation ∈ operations,
    (∀ before ∈ task.forbiddenPaths, ¬ place before <+: place operation.path) ∧
    (∀ before ∈ policy.forbiddenPathPrefixes, ¬ Under setting operation.path before)
  bytes : (∀ operation ∈ operations, written operation ≤ applier.maximumFileBytes) ∧
    (operations.map written).sum ≤ applier.maximumPatchBytes

/-- Nothing about the paths of a patch is hidden by their spelling: no leading dot component
before the Git directory, no dot component in front of a forbidden prefix, no file that is spelled
in two ways, and no file above another one. -/
structure Plain (policy : ManagedExecution.ChangePolicy) (operations : List FileOperation) :
    Prop where
  git : ∀ operation ∈ operations, (components operation.path).head? = some ['.'] →
    (place operation.path).head? ≠ some ".git".toList
  spelled : operations.Pairwise fun first second =>
    withSlashes first.path ≠ withSlashes second.path → ¬ Overlap first.path second.path
  forbidden : ∀ operation ∈ operations, ∀ before ∈ policy.forbiddenPathPrefixes,
    ¬ HiddenByDot setting operation.path before

/-! ## What the checks find -/

section Checks

variable {setting} {path before : String} {files : Files} {parts : List (List Char)}

theorem ofExecution_ok_iff {α : Type} {result : Except ExecutionPolicyError α} {a : α} :
    ofExecution result = .ok a ↔ result = .ok a := by
  cases result <;> simp [ofExecution, Except.mapError]

theorem reject_ok_iff {condition : Prop} [Decidable condition] {message : String} :
    reject condition message = .ok () ↔ ¬condition := by
  unfold reject
  by_cases h : condition
  · simp [h, throw, throwThe, MonadExceptOf.throw]
  · simp [h, pure, Except.pure]

theorem normalizedParts_ok (h : normalizedParts setting path = .ok parts) :
    parts = place path ∧ path.toList.head? ≠ some '/' ∧ ['.', '.'] ∉ components path := by
  rw [normalizedParts, Checks.bind_ok_iff] at h
  obtain ⟨normalized, hsafe, h⟩ := h
  obtain ⟨hrelative, hinside, rfl⟩ := safeRelativePath_ok (ofExecution_ok_iff.mp hsafe)
  exact ⟨(Checks.pure_ok_iff.mp h).symm, hrelative, hinside⟩

theorem withSlashes_idem_on {chars : List Char}
    (h : chars <+: (withSlashes path).toList) :
    (withSlashes (String.ofList chars)).toList = chars := by
  rw [withSlashes, String.toList_ofList, String.toList_ofList]
  conv_rhs => rw [← List.map_id chars]
  refine List.map_congr_left fun c hc => ?_
  have hmem := h.subset hc
  rw [withSlashes, String.toList_ofList, List.mem_map] at hmem
  obtain ⟨d, -, rfl⟩ := hmem
  by_cases hd : d = '\\' <;> simp [hd]

theorem components_stripRight (before : String) :
    components (stripRight (withSlashes before)) = components before := by
  have hprefix : (withSlashes before).toList.rdropWhile (· == '/') <+:
      (withSlashes before).toList := List.rdropWhile_prefix _ _
  have hsplit : (withSlashes before).toList =
      (withSlashes before).toList.rdropWhile (· == '/') ++
        (withSlashes before).toList.rtakeWhile (· == '/') := by
    rw [List.rdropWhile, List.rtakeWhile, ← List.reverse_append, List.takeWhile_append_dropWhile,
      List.reverse_reverse]
  unfold components stripRight
  rw [withSlashes_idem_on hprefix]
  conv_rhs => rw [hsplit]
  refine (splitParts_append_slashes ?_ _).symm
  intro c hc
  have hslash := List.mem_rtakeWhile_imp hc
  simpa using hslash

theorem place_stripRight (before : String) :
    place (stripRight (withSlashes before)) = place before := by
  rw [place, components_stripRight, place]

theorem matchesPrefix_ok {found : Bool} (h : matchesPrefix setting path before = .ok found) :
    found = true ↔ place before <+: place path := by
  rw [matchesPrefix, Checks.bind_ok_iff] at h
  obtain ⟨pathParts, hpath, h⟩ := h
  obtain ⟨rfl, -⟩ := normalizedParts_ok hpath
  rw [← place_stripRight before]
  by_cases hempty : stripRight (withSlashes before) = ""
  · rw [if_pos hempty, Checks.pure_ok_iff] at h
    subst h
    have hplace : place "" = [] := by decide
    simp [hempty, hplace]
  · rw [if_neg hempty, Checks.bind_ok_iff] at h
    obtain ⟨prefixParts, hbefore, h⟩ := h
    rw [(normalizedParts_ok hbefore).1, Checks.pure_ok_iff] at h
    rw [← h, decide_eq_true_iff, List.prefix_iff_eq_take]
    exact eq_comm

theorem matchesAny_ok {prefixes : List String} {found : Bool}
    (h : matchesAny setting path prefixes = .ok found) :
    found = true ↔ ∃ before ∈ prefixes, place before <+: place path := by
  induction prefixes with
  | nil =>
    rw [matchesAny, Checks.pure_ok_iff] at h
    simp [← h]
  | cons before rest ih =>
    rw [matchesAny, Checks.bind_ok_iff] at h
    obtain ⟨first, hfirst, h⟩ := h
    have hfirst := matchesPrefix_ok hfirst
    cases first with
    | true =>
        simp only [if_true, Checks.pure_ok_iff] at h
        simp [← h, hfirst.mp rfl]
    | false =>
        rw [if_neg Bool.false_ne_true] at h
        have hnot : ¬ place before <+: place path := fun hprefix =>
          Bool.false_ne_true (hfirst.mpr hprefix)
        rw [ih h]
        simp [hnot]

theorem matchesNone_ok {prefixes : List String}
    (h : matchesNone setting path prefixes = .ok true) :
    ∀ before ∈ prefixes, ¬ place before <+: place path := by
  rw [matchesNone, Checks.bind_ok_iff] at h
  obtain ⟨found, hfound, h⟩ := h
  rw [Checks.pure_ok_iff] at h
  intro before hbefore hprefix
  rw [(matchesAny_ok hfound).mpr ⟨before, hbefore, hprefix⟩] at h
  cases h

theorem allowedPath_ok {allowed forbidden : List String}
    (h : allowedPath setting path allowed forbidden = .ok true) :
    (allowed ≠ [] → ∃ before ∈ allowed, place before <+: place path) ∧
      ∀ before ∈ forbidden, ¬ place before <+: place path := by
  unfold allowedPath at h
  by_cases hempty : allowed = []
  · rw [if_pos hempty] at h
    exact ⟨fun hne => absurd hempty hne, matchesNone_ok h⟩
  · rw [if_neg hempty, Checks.bind_ok_iff] at h
    obtain ⟨permitted, hpermitted, h⟩ := h
    cases permitted with
    | false => simp [pure, Except.pure] at h
    | true =>
        rw [if_pos rfl] at h
        exact ⟨fun _ => (matchesAny_ok hpermitted).mp rfl, matchesNone_ok h⟩

theorem walk_ok {above rest : List (List Char)} (h : walk files above rest = .ok ()) :
    ∀ part, part <+: rest → part ≠ [] → files (above ++ part) ≠ some .link := by
  induction rest generalizing above with
  | nil => exact fun part hpart hne => absurd (List.prefix_nil.mp hpart) hne
  | cons first rest ih =>
    have hfirst : files (above ++ [first]) ≠ some .link ∧
        walk files (above ++ [first]) rest = .ok () := by
      rw [walk] at h
      cases hkind : files (above ++ [first]) with
      | none => simpa [hkind] using h
      | some kind =>
          simp only [hkind, Checks.check_ok_iff, reject_ok_iff] at h
          refine ⟨?_, h.2.2.2⟩
          rintro ⟨rfl⟩
          exact h.1 rfl
    intro part hpart hne
    cases part with
    | nil => exact absurd rfl hne
    | cons c part =>
        obtain ⟨rfl, hpart⟩ := List.cons_prefix_cons.mp hpart
        cases part with
        | nil => exact hfirst.1
        | cons d part =>
            have hrest := ih hfirst.2 (d :: part) (by assumption) (by simp)
            rwa [List.append_assoc] at hrest

theorem withSlashes_withSlashes (path : String) :
    withSlashes (withSlashes path) = withSlashes path := by
  have h := withSlashes_idem_on (List.prefix_refl (withSlashes path).toList)
  rw [String.ofList_toList] at h
  exact String.toList_inj.mp h

/-- Characters that are no slashes make one component. -/
theorem splitParts_of_notMem {chars : List Char} (hne : chars ≠ []) (h : '/' ∉ chars) :
    splitParts chars = [chars] := by
  have hsplit := CaseFolding.splitOn_append h []
  rw [List.append_nil] at hsplit
  simp [splitParts, hsplit, hne]

/-- The first component of a path that does not start with a slash is the path, or is followed by
a slash. -/
theorem eq_of_head?_splitParts {chars part : List Char} (hrelative : chars.head? ≠ some '/')
    (h : (splitParts chars).head? = some part) : chars = part ∨ part ++ ['/'] <+: chars := by
  by_cases hslash : '/' ∈ chars
  · obtain ⟨before, after, rfl, hbefore⟩ := List.eq_append_cons_of_mem hslash
    have hne : before ≠ [] := by
      rintro rfl
      simp at hrelative
    rw [splitParts_append, splitParts_of_notMem hne hbefore, List.singleton_append,
      List.head?_cons] at h
    obtain rfl := Option.some.inj h
    exact .inr ⟨after, by simp⟩
  · by_cases hne : chars = []
    · rw [hne, splitParts_nil] at h
      cases h
    · rw [splitParts_of_notMem hne hslash, List.head?_cons] at h
      exact .inl (Option.some.inj h)

structure PathAccepted (setting : Setting) (files : Files) (task : ManagedTask)
    (policy : ManagedExecution.ChangePolicy) (seen : List String) (path : String) : Prop where
  fresh : path ∉ seen
  git : (place path).head? = some ".git".toList → (components path).head? = some ['.']
  inside : ['.', '.'] ∉ place path
  linkless : ∀ above, above <+: place path → above ≠ [] → files above ≠ some .link
  task_allowed : task.allowedPaths ≠ [] → ∃ before ∈ task.allowedPaths, place before <+: place path
  task_forbidden : ∀ before ∈ task.forbiddenPaths, ¬ place before <+: place path
  policy_allowed : policy.allowedPathPrefixes ≠ [] → ∃ before ∈ policy.allowedPathPrefixes,
    Under setting path before
  policy_forbidden : ∀ before ∈ policy.forbiddenPathPrefixes,
    Under setting path before → ['.'] ∈ components path ∨ ['.'] ∈ components before

theorem pathAccepted_of_validatePath {task : ManagedTask} {policy : ManagedExecution.ChangePolicy}
    {seen : List String}
    (h : validatePath setting files task policy seen (withSlashes path) = .ok parts) :
    PathAccepted setting files task policy seen (withSlashes path) := by
  rw [validatePath, Checks.check_ok_iff, reject_ok_iff, Checks.bind_ok_iff] at h
  obtain ⟨hrejected, permitted, hpermitted, h⟩ := h
  rw [Checks.check_ok_iff, reject_ok_iff, Checks.check_ok_iff, ofExecution_ok_iff] at h
  obtain ⟨htrue, hchange, hdestination⟩ := h
  rw [Bool.not_eq_false] at htrue
  rw [htrue] at hpermitted
  simp only [not_or] at hrejected
  obtain ⟨hfresh, hgit, hgitDirectory⟩ := hrejected
  obtain ⟨hallowed, hforbidden⟩ := allowedPath_ok hpermitted
  obtain ⟨hrelative, hinside, hpolicyAllowed, hpolicyForbidden, -⟩ := validateChange_ok hchange
  rw [secureDestination, Checks.bind_ok_iff] at hdestination
  obtain ⟨walked, hwalked, hdestination⟩ := hdestination
  rw [Checks.check_ok_iff] at hdestination
  have hwalk := walk_ok hdestination.1
  rw [(normalizedParts_ok hwalked).1] at hwalk
  refine ⟨hfresh, fun hhead => ?_, fun hmem => hinside (List.mem_filter.mp hmem).1, hwalk,
    hallowed, hforbidden, hpolicyAllowed, fun before hbefore hunder => ?_⟩
  · by_contra hdot
    -- The first component is not a dot, so it is also the first one of the place.
    have hfirst : (components (withSlashes path)).head? = some ".git".toList := by
      cases hparts : components (withSlashes path) with
      | nil => simp [place, hparts, withoutDots] at hhead
      | cons first rest =>
          rw [hparts, List.head?_cons, Option.some.injEq] at hdot
          simpa [place, hparts, withoutDots, hdot] using hhead
    rw [components, withSlashes_withSlashes] at hfirst
    rcases eq_of_head?_splitParts hrelative hfirst with hsame | hprefix
    · exact hgit (String.toList_inj.mp hsame)
    · exact hgitDirectory hprefix
  · by_contra hdots
    obtain ⟨hpath, hbeforeDots⟩ := not_or.mp hdots
    have hcovers := pathPrefix_of_under hunder hpath hbeforeDots
    rw [hpolicyForbidden before hbefore] at hcovers
    cases hcovers

theorem validateContent_ok {applier : ControlledPatchApplier} {operation : FileOperation}
    {total total' : Nat} {content : Option String}
    (h : validateContent applier operation total = .ok (content, total')) :
    total' = total + written operation ∧ written operation ≤ applier.maximumFileBytes ∧
      (total ≤ applier.maximumPatchBytes → total' ≤ applier.maximumPatchBytes) := by
  unfold validateContent at h
  unfold written
  by_cases hdelete : operation.kind = .delete
  · rw [if_pos hdelete, Checks.check_ok_iff, Checks.pure_ok_iff, Prod.mk.injEq] at h
    obtain ⟨-, -, rfl⟩ := h
    simp [hdelete]
  · rw [if_neg hdelete] at h
    rw [if_neg hdelete]
    cases hcontent : operation.content with
    | none =>
        rw [hcontent] at h
        cases h
    | some value =>
        rw [hcontent] at h
        simp only [Checks.check_ok_iff, reject_ok_iff, Checks.pure_ok_iff, Prod.mk.injEq,
          not_or, not_lt] at h
        obtain ⟨-, ⟨hfile, hpatch⟩, -, rfl⟩ := h
        exact ⟨rfl, hfile, fun _ => hpatch⟩

/-- What the loop found about all operations, after some paths and bytes. -/
theorem validateFrom_ok {applier : ControlledPatchApplier} {task : ManagedTask}
    {policy : ManagedExecution.ChangePolicy} {operations : List FileOperation}
    {seen : List String} {total : Nat} {validated : List Validated}
    (h : validateFrom setting applier files task policy operations seen total = .ok validated) :
    (∀ operation ∈ operations, ∃ earlier, seen ⊆ earlier ∧
      PathAccepted setting files task policy earlier (withSlashes operation.path)) ∧
    (operations.Pairwise fun first second => withSlashes first.path ≠ withSlashes second.path) ∧
    (∀ operation ∈ operations, written operation ≤ applier.maximumFileBytes) ∧
    (total ≤ applier.maximumPatchBytes →
      total + (operations.map written).sum ≤ applier.maximumPatchBytes) := by
  induction operations generalizing seen total validated with
  | nil => simp
  | cons operation operations ih =>
    rw [validateFrom, Checks.bind_ok_iff] at h
    obtain ⟨path, hsafe, h⟩ := h
    obtain ⟨-, -, rfl⟩ := safeRelativePath_ok (ofExecution_ok_iff.mp hsafe)
    rw [Checks.bind_ok_iff] at h
    obtain ⟨destination, hpath, h⟩ := h
    rw [Checks.bind_ok_iff] at h
    obtain ⟨⟨content, total'⟩, hcontent, h⟩ := h
    rw [Checks.bind_ok_iff] at h
    obtain ⟨rest, hrest, -⟩ := h
    have haccepted := pathAccepted_of_validatePath hpath
    obtain ⟨htotal, hfile, hpatch⟩ := validateContent_ok hcontent
    obtain ⟨hpaths, hpairs, hfiles, hbytes⟩ := ih hrest
    refine ⟨?_, List.pairwise_cons.mpr ⟨fun other hother hsame => ?_, hpairs⟩, ?_, fun hle => ?_⟩
    · rw [List.forall_mem_cons]
      refine ⟨⟨seen, List.Subset.refl _, haccepted⟩, fun other hother => ?_⟩
      obtain ⟨earlier, hsubset, hother⟩ := hpaths other hother
      exact ⟨earlier, fun path hpath => hsubset (List.mem_cons_of_mem _ hpath), hother⟩
    · obtain ⟨earlier, hsubset, hother⟩ := hpaths other hother
      exact hother.fresh (hsubset (hsame ▸ List.mem_cons_self))
    · exact List.forall_mem_cons.mpr ⟨hfile, hfiles⟩
    · have hsum := hbytes (hpatch hle)
      rw [List.map_cons, List.sum_cons]
      omega

end Checks

/-! ## Accepted patches -/

theorem place_withSlashes (path : String) : place (withSlashes path) = place path := by
  rw [place, components_withSlashes, place]

theorem under_withSlashes (path before : String) :
    Under setting (withSlashes path) before ↔ Under setting path before := by
  have hsame : location setting (withSlashes path) = location setting path := by
    rw [location, components_withSlashes, location]
  rw [Under, hsame, Under]

/-- An accepted patch is sound exactly when nothing about its paths is hidden by their spelling. -/
theorem accepted_patch_sound_iff (applier : ControlledPatchApplier) (files : Files)
    (operations : List FileOperation) (task : ManagedTask)
    (policy : ManagedExecution.ChangePolicy) (validated : List Validated)
    (h : validate setting applier files operations task policy = .ok validated) :
    Sound setting applier files task policy operations ↔ Plain setting policy operations := by
  obtain ⟨hpaths, hpairs, hfiles, hbytes⟩ := validateFrom_ok h
  constructor
  · intro hsound
    refine ⟨fun operation hoperation _ => hsound.git operation hoperation, ?_, ?_⟩
    · refine hsound.apart.imp ?_
      intro first second hapart _
      exact hapart
    · intro operation hoperation before hbefore hhidden
      exact (hsound.forbidden operation hoperation).2 before hbefore hhidden.2
  · intro hplain
    constructor
    · intro operation hoperation hgit
      obtain ⟨_, -, haccepted⟩ := hpaths operation hoperation
      have hdot := haccepted.git (by rwa [place_withSlashes])
      rw [components_withSlashes] at hdot
      exact hplain.git operation hoperation hdot hgit
    · exact (hplain.spelled.and hpairs).imp fun hboth => hboth.1 hboth.2
    · intro operation hoperation
      obtain ⟨_, -, haccepted⟩ := hpaths operation hoperation
      rw [← place_withSlashes]
      exact haccepted.inside
    · intro operation hoperation
      obtain ⟨_, -, haccepted⟩ := hpaths operation hoperation
      rw [← place_withSlashes]
      exact haccepted.linkless
    · intro operation hoperation
      obtain ⟨_, -, haccepted⟩ := hpaths operation hoperation
      have htask := haccepted.task_allowed
      have hpolicy := haccepted.policy_allowed
      rw [place_withSlashes] at htask
      simp only [under_withSlashes] at hpolicy
      exact ⟨htask, hpolicy⟩
    · intro operation hoperation
      obtain ⟨_, -, haccepted⟩ := hpaths operation hoperation
      have htask := haccepted.task_forbidden
      rw [place_withSlashes] at htask
      refine ⟨htask, fun before hbefore hunder => ?_⟩
      have hdots := haccepted.policy_forbidden before hbefore
        ((under_withSlashes setting operation.path before).mpr hunder)
      rw [components_withSlashes] at hdots
      exact hplain.forbidden operation hoperation before hbefore ⟨hdots, hunder⟩
    · exact ⟨hfiles, by simpa using hbytes (Nat.zero_le _)⟩

/-! ## A patch of the Git directory -/

def sampleOperation (path : String) : FileOperation :=
  { kind := .create, path, content := some "x" }

/-- A task without restrictions. -/
def sampleTask : ManagedTask :=
  { projectTaskId := "task-1", allowedPaths := [], forbiddenPaths := [] }

theorem source_patch_accepted : (validate plainSetting {} (fun _ => none)
    [sampleOperation "src/api.py", sampleOperation "src/db.py"] sampleTask
      ManagedExecution.samplePolicy).isOk = true := by
  decide +kernel

theorem git_patch_accepted : (validate plainSetting {} (fun _ => none)
    [sampleOperation "./.git/config"] sampleTask ManagedExecution.samplePolicy).isOk = true := by
  decide +kernel

/-- The condition and the property agree on a patch of two source files. -/
theorem source_patch_sound_iff :
    Sound plainSetting {} (fun _ => none) sampleTask ManagedExecution.samplePolicy
        [sampleOperation "src/api.py", sampleOperation "src/db.py"] ↔
      Plain plainSetting ManagedExecution.samplePolicy
        [sampleOperation "src/api.py", sampleOperation "src/db.py"] := by
  obtain ⟨validated, hvalidated⟩ := Checks.exists_of_isOk source_patch_accepted
  exact accepted_patch_sound_iff plainSetting {} (fun _ => none) _ sampleTask _ validated
    hvalidated

/-- A path that starts with a dot component is accepted, and denotes a file of the Git
directory. -/
theorem not_accepted_patch_sound : ¬ ∀ (setting : Setting) (applier : ControlledPatchApplier)
    (files : Files) (operations : List FileOperation) (task : ManagedTask)
    (policy : ManagedExecution.ChangePolicy) (validated : List Validated),
      validate setting applier files operations task policy = .ok validated →
        Sound setting applier files task policy operations := by
  intro h
  obtain ⟨validated, hvalidated⟩ := Checks.exists_of_isOk git_patch_accepted
  have hsound := h _ _ _ _ _ _ _ hvalidated
  exact hsound.git _ List.mem_cons_self (by decide +kernel)

end PatchPolicy
end CodingProviders
end Ascos
