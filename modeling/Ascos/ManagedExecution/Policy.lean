import Ascos.Library.Checks
import Ascos.Library.Texts
import Mathlib.Data.List.Infix

/-!
# The path policy of managed execution

The validation of changed paths in `runtime/managed_execution/policy.py`.  Prefixes are
compared component by component; a component that is a single dot is kept in that comparison,
but means nothing to the file system.

Main results:

- Theorem `accepted_path_sound_iff`: an accepted path keeps to the policy exactly when it does
  not start with a backslash and no dot component hides that it is under an excluded prefix.
-/

namespace Ascos
namespace ManagedExecution

open Library

/-! ## Settings -/

/-- `str.casefold`, character by character: nothing is folded away, and the characters that a
path is made of stay apart from all others. -/
structure CaseFolding where
  fold : Char → List Char
  nonempty : ∀ c, fold c ≠ []
  fixed : ∀ c ∈ ['/', '\\', '.'], fold c = [c]
  proper : ∀ c, ∀ special ∈ ['/', '\\', '.'], special ∈ fold c → c = special

/-- What the validation takes from Python: the representation of a text in an error, case folding,
and what `PureWindowsPath.is_absolute` says of a path. -/
structure Setting where
  folding : CaseFolding
  repr : String → String
  isWindowsAbsolute : String → Bool

structure ExecutionPolicyError where
  message : String
deriving DecidableEq

/-- `ChangePolicy`, as far as changes are validated by it. -/
structure ChangePolicy where
  allowedPathPrefixes : List String
  forbiddenPathPrefixes : List String
  maximumChangedFiles : Int := 25
  maximumAdditions : Int := 2000
  maximumDeletions : Int := 1000
  forbiddenFileTypes : List String := [".pem", ".key", ".p12", ".env"]
  protectedConfigurationFiles : List String :=
    [".github/workflows/", "deploy", "infrastructure", "payment", "migrations/"]

/-- `ManagedCodingRequest`, as far as results are validated by it. -/
structure ManagedCodingRequest where
  externalTaskId : String
  workspaceId : String
  allowedPaths : List String
  forbiddenPaths : List String
  qualityGates : List String
  maximumChangedFiles : Int
  maximumChangedLines : Int
  expectedArtifacts : List String

structure ValidatedCodingResult where
  externalTaskId : String
  workspaceId : String
  status : String
  changedFiles : List String
  additions : Int
  deletions : Int
  executedGates : List String
  artifacts : List String
  summary : String
  providerTaskId : String
  progressSequences : List Int

/-! ## Paths -/

/-- `value.replace("\\", "/")`. -/
def withSlashes (value : String) : String :=
  String.ofList (value.toList.map fun c => if c = '\\' then '/' else c)

/-- `tuple(part for part in value.split("/") if part)`. -/
def splitParts (chars : List Char) : List (List Char) :=
  (chars.splitOn '/').filter (· ≠ [])

def pathPrefix (path before : String) : Bool :=
  let stripped := stripChars (· == '/') (withSlashes before).toList
  if stripped = [] then true
  else
    let pathParts := splitParts (withSlashes path).toList
    let prefixParts := splitParts stripped
    pathParts.take prefixParts.length = prefixParts

variable (setting : Setting)

def casefold (value : String) : String :=
  String.ofList (value.toList.flatMap setting.folding.fold)

/-- Raise when a condition holds. -/
def refuse (condition : Prop) [Decidable condition] (message : String) :
    Except ExecutionPolicyError Unit :=
  if condition then throw ⟨message⟩ else pure ()

def safeRelativePath (value : String) : Except ExecutionPolicyError String := do
  refuse (value = "" ∨ value.toList.head? = some '/' ∨ setting.isWindowsAbsolute value = true ∨
      ['.', '.'] ∈ splitParts (withSlashes value).toList ∨ '\x00' ∈ value.toList)
    ("Unsafe relative path " ++ setting.repr value)
  pure (withSlashes value)

/-- Some prefix of a list covers a folded path. -/
def anyPrefix (lower : String) (prefixes : List String) : Bool :=
  prefixes.any fun before => pathPrefix lower (casefold setting before)

def validateChange (path : String) (policy : ChangePolicy) (additions deletions : Int) :
    Except ExecutionPolicyError Unit := do
  let normalized ← safeRelativePath setting path
  let lower := casefold setting normalized
  refuse (policy.allowedPathPrefixes ≠ [] ∧
      anyPrefix setting lower policy.allowedPathPrefixes = false)
    ("Path " ++ setting.repr path ++ " is outside the allow-list")
  refuse (anyPrefix setting lower policy.forbiddenPathPrefixes = true)
    ("Path " ++ setting.repr path ++ " is forbidden")
  refuse ((policy.forbiddenFileTypes.any fun suffix =>
      (casefold setting suffix).toList.isSuffixOf lower.toList) = true)
    ("File type for " ++ setting.repr path ++ " is forbidden")
  refuse (anyPrefix setting lower policy.protectedConfigurationFiles = true)
    ("Protected configuration path " ++ setting.repr path ++ " requires approval")
  refuse (policy.maximumAdditions < additions ∨ policy.maximumDeletions < deletions)
    "Change line limits exceeded"

/-- The loop of `validate_coding_result` over the changed files. -/
def validateChangedFile (request : ManagedCodingRequest) (result : ValidatedCodingResult)
    (policy : ChangePolicy) (path : String) : Except ExecutionPolicyError Unit := do
  let normalized ← safeRelativePath setting path
  let lower := casefold setting normalized
  refuse (request.allowedPaths ≠ [] ∧ anyPrefix setting lower request.allowedPaths = false)
    "Provider changed a path outside the task allow-list"
  refuse (anyPrefix setting lower request.forbiddenPaths = true)
    "Provider changed a forbidden path"
  validateChange setting path policy result.additions result.deletions

def codingStatuses : List String :=
  ["SUCCEEDED", "FAILED_RETRYABLE", "FAILED_PERMANENT", "TIMED_OUT", "CANCELLED"]

/-- `part in text`. -/
def containsText (part text : String) : Bool :=
  part.toList <:+: text.toList

def validateCodingResult (request : ManagedCodingRequest) (result : ValidatedCodingResult)
    (policy : ChangePolicy) : Except ExecutionPolicyError ValidatedCodingResult := do
  refuse (result.externalTaskId ≠ request.externalTaskId) "Coding result belongs to another task"
  refuse (result.workspaceId ≠ request.workspaceId) "Coding result belongs to another workspace"
  refuse (min request.maximumChangedFiles policy.maximumChangedFiles < result.changedFiles.length)
    "Changed-file limit exceeded"
  refuse (request.maximumChangedLines < result.additions + result.deletions)
    "Changed-line limit exceeded"
  refuse (result.progressSequences ≠
      (List.range' 1 result.progressSequences.length).map Int.ofNat)
    "Malformed provider progress sequence"
  refuse (result.status ∉ codingStatuses) "Unsupported coding-result status"
  refuse (∃ gate ∈ result.executedGates, gate ∉ request.qualityGates)
    "Result claims an unapproved quality gate"
  refuse (result.status = "SUCCEEDED" ∧
      ∃ artifact ∈ request.expectedArtifacts, artifact ∉ result.artifacts)
    "Required result artifacts are missing"
  result.changedFiles.forM (validateChangedFile setting request result policy)
  let summary := casefold setting result.summary
  refuse (containsText "merge" summary = true ∨ containsText "deploy" summary = true)
    "Provider result requests merge or deployment"
  pure result

/-! ## The file that a path denotes -/

/-- A component other than a single dot. -/
def withoutDots (parts : List (List Char)) : List (List Char) :=
  parts.filter (· ≠ ['.'])

/-- The components of a path, whichever way its slashes lean, that are not empty. -/
def components (path : String) : List (List Char) :=
  splitParts (withSlashes path).toList

/-- The place of the file that a path denotes, in any letter case. -/
def location (path : String) : List (List Char) :=
  (withoutDots (components path)).map fun part => part.flatMap setting.folding.fold

/-- The file that a path denotes is under a prefix. -/
def Under (path before : String) : Prop :=
  location setting before <+: location setting path

/-- What no changed path may be under. -/
def excludedPrefixes (request : ManagedCodingRequest) (policy : ChangePolicy) : List String :=
  policy.forbiddenPathPrefixes ++ request.forbiddenPaths ++ policy.protectedConfigurationFiles

/-- The file that a path denotes is where the request and the policy allow changes. -/
structure Sound (request : ManagedCodingRequest) (policy : ChangePolicy) (path : String) :
    Prop where
  relative : (withSlashes path).toList.head? ≠ some '/'
  inside : ['.', '.'] ∉ withoutDots (components path)
  allowed : policy.allowedPathPrefixes ≠ [] →
    ∃ before ∈ policy.allowedPathPrefixes, Under setting path before
  requested : request.allowedPaths ≠ [] → ∃ before ∈ request.allowedPaths,
    Under setting path before
  excluded : ∀ before ∈ excludedPrefixes request policy, ¬Under setting path before

/-- A path is under a prefix, and there is a dot component in one of the two. -/
def HiddenByDot (path before : String) : Prop :=
  (['.'] ∈ components path ∨ ['.'] ∈ components before) ∧ Under setting path before

/-! ## Splitting -/

theorem splitParts_append (before after : List Char) :
    splitParts (before ++ '/' :: after) = splitParts before ++ splitParts after := by
  unfold splitParts
  rw [List.splitOn_append_cons_self, List.filter_append]

theorem splitParts_nil : splitParts [] = [] := by
  simp [splitParts]

theorem splitParts_slashes_append {slashes : List Char} (h : ∀ c ∈ slashes, c = '/')
    (chars : List Char) : splitParts (slashes ++ chars) = splitParts chars := by
  induction slashes with
  | nil => rfl
  | cons c slashes ih =>
    obtain ⟨rfl, hrest⟩ := List.forall_mem_cons.mp h
    have hsplit := splitParts_append [] (slashes ++ chars)
    rw [splitParts_nil, List.nil_append, List.nil_append] at hsplit
    rw [List.cons_append, hsplit, ih hrest]

theorem splitParts_append_slashes {slashes : List Char} (h : ∀ c ∈ slashes, c = '/')
    (chars : List Char) : splitParts (chars ++ slashes) = splitParts chars := by
  induction slashes generalizing chars with
  | nil => rw [List.append_nil]
  | cons c slashes ih =>
    obtain ⟨rfl, hrest⟩ := List.forall_mem_cons.mp h
    rw [splitParts_append, ← List.nil_append slashes, ih hrest, splitParts_nil, List.append_nil]

/-- Slashes at the ends make no components. -/
theorem splitParts_stripChars (chars : List Char) :
    splitParts (stripChars (· == '/') chars) = splitParts chars := by
  have hslashes : ∀ list : List Char, ∀ c ∈ list.takeWhile (· == '/'), c = '/' := by
    intro list c hc
    simpa using List.all_eq_true.mp (List.all_takeWhile (l := list)) c hc
  have hfront : splitParts (chars.dropWhile (· == '/')) = splitParts chars := by
    rw [← splitParts_slashes_append (hslashes chars) (chars.dropWhile _),
      List.takeWhile_append_dropWhile]
  rw [← hfront, stripChars]
  generalize chars.dropWhile (· == '/') = rest
  have hback : rest = (rest.reverse.dropWhile (· == '/')).reverse ++
      (rest.reverse.takeWhile (· == '/')).reverse := by
    rw [← List.reverse_append, List.takeWhile_append_dropWhile, List.reverse_reverse]
  conv_rhs => rw [hback]
  refine (splitParts_append_slashes ?_ _).symm
  intro c hc
  exact hslashes _ c (List.mem_reverse.mp hc)

theorem pathPrefix_iff (path before : String) :
    pathPrefix path before = true ↔ components before <+: components path := by
  unfold components
  rw [← splitParts_stripChars (withSlashes before).toList]
  simp only [pathPrefix]
  split
  · rename_i hempty
    rw [hempty, splitParts_nil]
    simp
  · rw [decide_eq_true_eq, List.prefix_iff_eq_take]
    exact eq_comm

/-! ## Case folding -/

namespace CaseFolding

variable (folding : CaseFolding)

/-- Folding a component leaves a component that is not empty. -/
theorem flatMap_ne_nil {part : List Char} (h : part ≠ []) :
    part.flatMap folding.fold ≠ [] := by
  cases part with
  | nil => exact absurd rfl h
  | cons c part =>
    rw [List.flatMap_cons]
    exact fun hnil => folding.nonempty c (List.append_eq_nil_iff.mp hnil).1

theorem flatMap_eq_dot {part : List Char} : part.flatMap folding.fold = ['.'] ↔ part = ['.'] := by
  constructor
  · intro h
    cases part with
    | nil => cases h
    | cons c part =>
        rw [List.flatMap_cons, List.append_eq_singleton_iff] at h
        rcases h with ⟨hnil, -⟩ | ⟨hdot, hnil⟩
        · exact absurd hnil (folding.nonempty c)
        · have hc : c = '.' := folding.proper c '.' (by simp) (by simp [hdot])
          cases part with
          | nil => rw [hc]
          | cons d part => exact absurd hnil (folding.flatMap_ne_nil (by simp))
  · rintro rfl
    simp [folding.fixed '.' (by simp)]

theorem splitOn_append {before : List Char} (h : '/' ∉ before) (chars : List Char) :
    (before ++ chars).splitOn '/' = (chars.splitOn '/').modifyHead (before ++ ·) := by
  induction before with
  | nil =>
    cases hsplit : chars.splitOn '/' with
    | nil => rw [List.nil_append, hsplit, List.modifyHead_nil]
    | cons part parts => rw [List.nil_append, hsplit, List.modifyHead_cons, List.nil_append]
  | cons c before ih =>
    obtain ⟨hc, hrest⟩ := not_or.mp (mt List.mem_cons.mpr h)
    rw [List.cons_append, List.splitOn_cons_eq_if_modifyHead, if_neg (by simpa using Ne.symm hc),
      ih hrest]
    cases chars.splitOn '/' <;> rfl

theorem splitOn_flatMap (chars : List Char) :
    (chars.flatMap folding.fold).splitOn '/' =
      (chars.splitOn '/').map fun part => part.flatMap folding.fold := by
  induction chars with
  | nil => simp
  | cons c chars ih =>
    by_cases hc : c = '/'
    · subst hc
      have hsplit := List.splitOn_append_cons_self (a := '/') [] (chars.flatMap folding.fold)
      have hsplit' := List.splitOn_append_cons_self (a := '/') [] chars
      rw [List.flatMap_cons, folding.fixed '/' (by simp)]
      rw [List.nil_append] at hsplit hsplit'
      rw [List.singleton_append, hsplit, hsplit', ih]
      simp
    · have hfold : '/' ∉ folding.fold c := fun hmem => hc (folding.proper c '/' (by simp) hmem)
      have hsplit := @splitOn_append [c] (by simpa using Ne.symm hc) chars
      rw [List.singleton_append] at hsplit
      rw [List.flatMap_cons, splitOn_append hfold, ih, hsplit]
      cases chars.splitOn '/' with
      | nil => rfl
      | cons part parts => simp

/-- Folding a text folds its components. -/
theorem splitParts_flatMap (chars : List Char) :
    splitParts (chars.flatMap folding.fold) =
      (splitParts chars).map fun part => part.flatMap folding.fold := by
  unfold splitParts
  rw [folding.splitOn_flatMap, List.filter_map]
  congr 1
  refine List.filter_congr fun part _ => ?_
  by_cases hpart : part = []
  · simp [hpart]
  · simp [hpart, folding.flatMap_ne_nil hpart]

theorem withSlashes_flatMap (chars : List Char) :
    (chars.flatMap folding.fold).map (fun c => if c = '\\' then '/' else c) =
      (chars.map fun c => if c = '\\' then '/' else c).flatMap folding.fold := by
  induction chars with
  | nil => rfl
  | cons c chars ih =>
    rw [List.flatMap_cons, List.map_append, ih, List.map_cons, List.flatMap_cons]
    congr 1
    by_cases hc : c = '\\'
    · subst hc
      rw [if_pos rfl, folding.fixed '/' (by simp), folding.fixed '\\' (by simp)]
      rfl
    · rw [if_neg hc]
      have hkept : ∀ d ∈ folding.fold c, (if d = '\\' then '/' else d) = d := by
        intro d hd
        have hne : d ≠ '\\' := by
          rintro rfl
          exact hc (folding.proper c '\\' (by simp) hd)
        exact if_neg hne
      rw [List.map_congr_left hkept, List.map_id']

end CaseFolding

/-! ## What the comparison of components sees -/

variable {setting}

theorem components_withSlashes (path : String) :
    components (withSlashes path) = components path := by
  unfold components withSlashes
  rw [String.toList_ofList, String.toList_ofList, List.map_map]
  congr 1
  refine List.map_congr_left fun c _ => ?_
  by_cases hc : c = '\\' <;> simp [hc]

theorem components_casefold (value : String) :
    components (casefold setting value) =
      (components value).map fun part => part.flatMap setting.folding.fold := by
  unfold components casefold withSlashes
  rw [String.toList_ofList, String.toList_ofList, String.toList_ofList,
    setting.folding.withSlashes_flatMap, setting.folding.splitParts_flatMap]

/-- The place of a file is what is left of the folded components without dots. -/
theorem location_eq (path : String) : location setting path = withoutDots
    ((components path).map fun part => part.flatMap setting.folding.fold) := by
  unfold location withoutDots
  rw [List.filter_map]
  congr 1
  refine List.filter_congr fun part _ => ?_
  simp [setting.folding.flatMap_eq_dot]

theorem under_of_pathPrefix {path before : String}
    (h : pathPrefix (casefold setting (withSlashes path)) (casefold setting before) = true) :
    Under setting path before := by
  rw [pathPrefix_iff, components_casefold, components_casefold, components_withSlashes] at h
  unfold Under
  rw [location_eq, location_eq]
  exact h.filter _

theorem withoutDots_of_notMem {parts : List (List Char)} (h : ['.'] ∉ parts) :
    withoutDots parts = parts := by
  refine List.filter_eq_self.mpr fun part hpart => ?_
  exact decide_eq_true fun hdot => h (hdot ▸ hpart)

theorem pathPrefix_of_under {path before : String} (h : Under setting path before)
    (hpath : ['.'] ∉ components path) (hbefore : ['.'] ∉ components before) :
    pathPrefix (casefold setting (withSlashes path)) (casefold setting before) = true := by
  rw [pathPrefix_iff, components_casefold, components_casefold, components_withSlashes]
  unfold Under location at h
  rwa [withoutDots_of_notMem hpath, withoutDots_of_notMem hbefore] at h

theorem anyPrefix_iff {lower : String} {prefixes : List String} :
    anyPrefix setting lower prefixes = true ↔
      ∃ before ∈ prefixes, pathPrefix lower (casefold setting before) = true := by
  simp [anyPrefix]

theorem refuse_ok_iff {condition : Prop} [Decidable condition] {message : String} :
    refuse condition message = .ok () ↔ ¬condition := by
  unfold refuse
  by_cases h : condition
  · rw [if_pos h]
    simp [h, throw, throwThe, MonadExceptOf.throw]
  · rw [if_neg h]
    simp [h, pure, Except.pure]

/-! ## Accepted paths -/

/-- What the checks of an accepted path found. -/
structure Accepted (setting : Setting) (request : ManagedCodingRequest) (policy : ChangePolicy)
    (path : String) : Prop where
  relative : path.toList.head? ≠ some '/'
  inside : ['.', '.'] ∉ components path
  allowed : policy.allowedPathPrefixes ≠ [] → ∃ before ∈ policy.allowedPathPrefixes,
    Under setting path before
  requested : request.allowedPaths ≠ [] → ∃ before ∈ request.allowedPaths,
    Under setting path before
  excluded : ∀ before ∈ excludedPrefixes request policy,
    pathPrefix (casefold setting (withSlashes path)) (casefold setting before) = false

theorem safeRelativePath_ok {path normalized : String}
    (h : safeRelativePath setting path = .ok normalized) :
    path.toList.head? ≠ some '/' ∧ ['.', '.'] ∉ components path ∧
      normalized = withSlashes path := by
  rw [safeRelativePath, Checks.check_ok_iff, refuse_ok_iff, Checks.pure_ok_iff] at h
  obtain ⟨hrefused, heq⟩ := h
  simp only [not_or] at hrefused
  exact ⟨hrefused.2.1, hrefused.2.2.2.1, heq.symm⟩

theorem exists_under {path : String} {prefixes : List String}
    (h : ¬(prefixes ≠ [] ∧ anyPrefix setting (casefold setting (withSlashes path)) prefixes = false))
    (hprefixes : prefixes ≠ []) : ∃ before ∈ prefixes, Under setting path before := by
  have hany : anyPrefix setting (casefold setting (withSlashes path)) prefixes = true := by
    rw [← Bool.not_eq_false]
    exact fun hnone => h ⟨hprefixes, hnone⟩
  obtain ⟨before, hbefore, hcovers⟩ := anyPrefix_iff.mp hany
  exact ⟨before, hbefore, under_of_pathPrefix hcovers⟩

theorem forall_not_covers {lower : String} {prefixes : List String}
    (h : ¬anyPrefix setting lower prefixes = true) :
    ∀ before ∈ prefixes, pathPrefix lower (casefold setting before) = false := by
  intro before hbefore
  rw [← Bool.not_eq_true]
  exact fun hcovers => h (anyPrefix_iff.mpr ⟨before, hbefore, hcovers⟩)

theorem validateChange_ok {path : String} {policy : ChangePolicy} {additions deletions : Int}
    (h : validateChange setting path policy additions deletions = .ok ()) :
    path.toList.head? ≠ some '/' ∧ ['.', '.'] ∉ components path ∧
      (policy.allowedPathPrefixes ≠ [] → ∃ before ∈ policy.allowedPathPrefixes,
        Under setting path before) ∧
      (∀ before ∈ policy.forbiddenPathPrefixes,
        pathPrefix (casefold setting (withSlashes path)) (casefold setting before) = false) ∧
      ∀ before ∈ policy.protectedConfigurationFiles,
        pathPrefix (casefold setting (withSlashes path)) (casefold setting before) = false := by
  rw [validateChange, Checks.bind_ok_iff] at h
  obtain ⟨normalized, hsafe, h⟩ := h
  obtain ⟨hrelative, hinside, rfl⟩ := safeRelativePath_ok hsafe
  simp only [Checks.check_ok_iff, refuse_ok_iff] at h
  obtain ⟨hallowed, hforbidden, -, hprotected, -⟩ := h
  exact ⟨hrelative, hinside, exists_under hallowed, forall_not_covers hforbidden,
    forall_not_covers hprotected⟩

theorem accepted_of_validateChangedFile {request : ManagedCodingRequest}
    {result : ValidatedCodingResult} {policy : ChangePolicy} {path : String}
    (h : validateChangedFile setting request result policy path = .ok ()) :
    Accepted setting request policy path := by
  rw [validateChangedFile, Checks.bind_ok_iff] at h
  obtain ⟨normalized, hsafe, h⟩ := h
  obtain ⟨hrelative, hinside, rfl⟩ := safeRelativePath_ok hsafe
  simp only [Checks.check_ok_iff, refuse_ok_iff] at h
  obtain ⟨hrequested, hforbidden, hchange⟩ := h
  obtain ⟨-, -, hallowed, hpolicy, hprotected⟩ := validateChange_ok hchange
  constructor
  · exact hrelative
  · exact hinside
  · exact hallowed
  · exact exists_under hrequested
  · intro before hbefore
    rcases List.mem_append.mp hbefore with hbefore | hbefore
    · rcases List.mem_append.mp hbefore with hbefore | hbefore
      · exact hpolicy before hbefore
      · exact forall_not_covers hforbidden before hbefore
    · exact hprotected before hbefore

theorem accepted_of_validateCodingResult {request : ManagedCodingRequest}
    {result accepted : ValidatedCodingResult} {policy : ChangePolicy}
    (h : validateCodingResult setting request result policy = .ok accepted) {path : String}
    (hpath : path ∈ result.changedFiles) : Accepted setting request policy path := by
  unfold validateCodingResult at h
  simp only [Checks.check_ok_iff] at h
  have hfiles : result.changedFiles.forM (validateChangedFile setting request result policy) =
      .ok () := by
    simp only [h]
  exact accepted_of_validateChangedFile (Checks.forM_ok_iff.mp hfiles path hpath)

theorem head?_withSlashes {path : String} : (withSlashes path).toList.head? = some '/' ↔
    path.toList.head? = some '/' ∨ path.toList.head? = some '\\' := by
  rw [withSlashes, String.toList_ofList, List.head?_map]
  cases path.toList.head? with
  | none => simp
  | some c =>
      by_cases hc : c = '\\' <;> simp [hc]

/-- A path that the validation of a coding result accepted denotes a file where changes are
allowed exactly when it does not start with a backslash, and no dot component hides that it is
under an excluded prefix. -/
theorem accepted_path_sound_iff (setting : Setting) (request : ManagedCodingRequest)
    (result accepted : ValidatedCodingResult) (policy : ChangePolicy)
    (h : validateCodingResult setting request result policy = .ok accepted) (path : String)
    (hpath : path ∈ result.changedFiles) :
    Sound setting request policy path ↔ path.toList.head? ≠ some '\\' ∧
      ∀ before ∈ excludedPrefixes request policy, ¬HiddenByDot setting path before := by
  have haccepted := accepted_of_validateCodingResult h hpath
  constructor
  · intro hsound
    refine ⟨fun hback => hsound.relative (head?_withSlashes.mpr (.inr hback)), ?_⟩
    exact fun before hbefore hhidden => hsound.excluded before hbefore hhidden.2
  · rintro ⟨hback, hdots⟩
    constructor
    · intro hslash
      exact (head?_withSlashes.mp hslash).elim haccepted.relative hback
    · exact fun hmem => haccepted.inside (List.mem_filter.mp hmem).1
    · exact haccepted.allowed
    · exact haccepted.requested
    · intro before hbefore hunder
      by_cases hdot : ['.'] ∈ components path ∨ ['.'] ∈ components before
      · exact hdots before hbefore ⟨hdot, hunder⟩
      · obtain ⟨hpathDot, hbeforeDot⟩ := not_or.mp hdot
        have hcovers := pathPrefix_of_under hunder hpathDot hbeforeDot
        rw [haccepted.excluded before hbefore] at hcovers
        cases hcovers

/-! ## Examples -/

/-- A setting in which no letter has a case. -/
def plainSetting : Setting where
  folding :=
    { fold := fun c => [c]
      nonempty := by simp
      fixed := by simp
      proper := by simp [eq_comm] }
  repr := fun value => "'" ++ value ++ "'"
  isWindowsAbsolute := fun _ => false

/-- A policy with a forbidden directory. -/
def samplePolicy : ChangePolicy where
  allowedPathPrefixes := [""]
  forbiddenPathPrefixes := ["secrets/"]

/-- A request for changes in any directory. -/
def sampleRequest : ManagedCodingRequest where
  externalTaskId := "plan-1-task-1-attempt-1"
  workspaceId := "workspace-1"
  allowedPaths := []
  forbiddenPaths := []
  qualityGates := ["tests"]
  maximumChangedFiles := 5
  maximumChangedLines := 100
  expectedArtifacts := []

/-- A result that changed one file. -/
def resultFor (path : String) : ValidatedCodingResult where
  externalTaskId := "plan-1-task-1-attempt-1"
  workspaceId := "workspace-1"
  status := "SUCCEEDED"
  changedFiles := [path]
  additions := 3
  deletions := 1
  executedGates := ["tests"]
  artifacts := []
  summary := "add an endpoint"
  providerTaskId := "provider-1"
  progressSequences := [1, 2]

theorem source_file_accepted :
    (validateCodingResult plainSetting sampleRequest (resultFor "src/api.py")
      samplePolicy).isOk = true := by
  decide +kernel

theorem outside_file_accepted :
    (validateCodingResult plainSetting sampleRequest (resultFor "\\etc\\passwd")
      samplePolicy).isOk = true := by
  decide +kernel

/-- The condition and the property agree on a file in the source directory. -/
theorem source_file_sound_iff :
    Sound plainSetting sampleRequest samplePolicy "src/api.py" ↔
      "src/api.py".toList.head? ≠ some '\\' ∧
        ∀ before ∈ excludedPrefixes sampleRequest samplePolicy,
          ¬HiddenByDot plainSetting "src/api.py" before := by
  obtain ⟨accepted, haccepted⟩ := Checks.exists_of_isOk source_file_accepted
  exact accepted_path_sound_iff plainSetting sampleRequest (resultFor "src/api.py") accepted
    samplePolicy haccepted "src/api.py" List.mem_cons_self

/-- A path that starts with a backslash is accepted, and denotes a file outside of the
workspace. -/
theorem not_accepted_path_sound : ¬∀ (setting : Setting) (request : ManagedCodingRequest)
    (result accepted : ValidatedCodingResult) (policy : ChangePolicy),
      validateCodingResult setting request result policy = .ok accepted →
        ∀ path ∈ result.changedFiles, Sound setting request policy path := by
  intro h
  obtain ⟨accepted, haccepted⟩ := Checks.exists_of_isOk outside_file_accepted
  have hsound := h plainSetting sampleRequest (resultFor "\\etc\\passwd") accepted samplePolicy
    haccepted "\\etc\\passwd" List.mem_cons_self
  exact hsound.relative (head?_withSlashes.mpr (.inr (by decide +kernel)))

end ManagedExecution
end Ascos
