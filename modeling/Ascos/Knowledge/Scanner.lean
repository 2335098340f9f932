import Ascos.Library.Checks
import Ascos.Library.Segments
import Ascos.Library.Texts
import Mathlib.Data.List.Sort
import Mathlib.Data.Set.List
import Mathlib.Data.String.Basic

/-!
# The repository scanner

`RepositoryScanner.scan` of `runtime/knowledge/scanner.py`, on the content of a
repository that is placed at an absolute root and listed in any order.

Main results:

- Theorem `scan_ok_iff`: the files and the directories of a scan, entry by entry.
- Theorem `Scanned.faithful`: files in strictly increasing order, directories with their
  counts and all ancestors.
- Theorem `scan_independent_iff`: which roots make no difference to a content.
-/

namespace Ascos
namespace Knowledge

open Library

/-! ## What a scan yields -/

structure ImportReference where
  moduleName : String
  names : List String := []
  line : Option Nat := none
deriving DecidableEq

structure ExportReference where
  name : String
  line : Option Nat := none
deriving DecidableEq

structure Symbol where
  name : String
  kind : String
  qualifiedName : String
  line : Nat
  endLine : Option Nat := none
  parent : Option String := none
  decorators : List String := []
  docstring : Option String := none
  isPublic : Bool := true
deriving DecidableEq

structure DependencyEdge where
  source : String
  target : String
  kind : String := "import"
deriving DecidableEq

structure FileNode where
  path : String
  name : String
  language : String
  size : Nat
  lines : Nat
  category : String
  moduleName : Option String := none
  symbols : List Symbol := []
  imports : List ImportReference := []
  exports : List ExportReference := []
  malformed : Bool := false
deriving DecidableEq

structure DirectoryNode where
  path : String
  fileCount : Nat
deriving DecidableEq

structure RepositoryKnowledge where
  repositoryId : String
  root : String
  directories : List DirectoryNode
  files : List FileNode
  dependencies : List DependencyEdge
deriving DecidableEq

/-- What the analysis of a text adds to its file. -/
structure Analysis where
  symbols : List Symbol := []
  imports : List ImportReference := []
  exports : List ExportReference := []
  malformed : Bool := false

/-- The functions of the standard library that texts are read, matched and analysed with.  An
analysis may raise; `packages` reads the names under the dependency keys of a JSON object, and
no names at all where the text is malformed. -/
structure Setting where
  decode : List UInt8 → Option String
  decodeIgnoring : List UInt8 → String
  casefold : String → String
  lower : String → String
  blank : Char → Bool
  splitlines : String → List String
  fnmatch : String → String → Bool
  python : String → String → Except String Analysis
  javascript : String → String → Analysis
  packages : String → Except String (Option (List String))

/-! ## The content of a repository -/

/-- An entry by its names below the root: a file with its bytes, or a directory. -/
structure Entry where
  names : List String
  content : Option (List UInt8)
deriving DecidableEq

/-- A name that an entry of a directory can have. -/
def IsName (name : String) : Prop :=
  name ≠ "" ∧ '/' ∉ name.toList

/-- The entries below the root, in the order in which they are listed. -/
structure Content where
  entries : List Entry
  names_ne_nil : ∀ entry ∈ entries, entry.names ≠ []
  named : ∀ entry ∈ entries, ∀ name ∈ entry.names, IsName name
  nodup : (entries.map Entry.names).Nodup
  closed : ∀ entry ∈ entries, ∀ above, above ≠ [] → above <+: entry.names →
    above ≠ entry.names → ⟨above, none⟩ ∈ entries

/-- `as_posix` of a relative path. -/
def posix (names : List String) : String :=
  String.ofList (Segments.joined '/' (names.map String.toList))

/-- `as_posix` of an absolute path. -/
def absolute (names : List String) : String :=
  "/" ++ posix names

/-! ## Ignored paths -/

def alwaysIgnore : List String :=
  [".git", ".hg", ".svn", "__pycache__", "node_modules", ".pytest_cache", ".mypy_cache",
    ".ruff_cache", "dist", "build"]

/-- `str.startswith`. -/
def startsWith (text before : String) : Bool :=
  decide (before.toList <+: text.toList)

/-- `str.endswith`. -/
def endsWith (text after : String) : Bool :=
  decide (after.toList <:+ text.toList)

/-- The `in` of two texts. -/
def contains (text part : String) : Bool :=
  decide (part.toList <:+: text.toList)

section Functions

variable (setting : Setting)

/-- `str.lstrip` of the blanks. -/
def lstrip (value : String) : String :=
  String.ofList (value.toList.dropWhile setting.blank)

/-- The pattern of a line of a `.gitignore`. -/
def ignorePattern? (line : String) : Option String :=
  if strip setting.blank line ≠ "" ∧ startsWith (lstrip setting line) "#" = false ∧
      startsWith line "!" = false then
    some (String.ofList ((strip setting.blank line).toList.dropWhile (· = '/')))
  else none

def ignorePatterns (entries : List Entry) : List String :=
  match entries.find? (·.names = [".gitignore"]) with
  | some ⟨_, some bytes⟩ =>
      (setting.splitlines (setting.decodeIgnoring bytes)).filterMap (ignorePattern? setting)
  | _ => []

/-- `_ignored`; the parts of the path are those of its absolute form. -/
def ignored (root : List String) (patterns : List String) (names : List String) : Bool :=
  ("/" :: root ++ names).any (· ∈ alwaysIgnore) ||
    patterns.any fun pattern =>
      setting.fnmatch (posix names) pattern ||
        setting.fnmatch (posix names)
          (String.ofList (pattern.toList.reverse.dropWhile (· = '/')).reverse ++ "/**")

/-! ## Files -/

def binary (bytes : List UInt8) : Bool :=
  (bytes.take 4096).contains 0

/-- `PurePath.suffix` of a name. -/
def suffix (name : String) : String :=
  let after := name.toList.reverse.takeWhile (· ≠ '.')
  if after ≠ [] ∧ after.length + 1 < name.toList.length then
    String.ofList ('.' :: after.reverse)
  else ""

def languages : List (String × String) :=
  [(".py", "Python"), (".js", "JavaScript"), (".jsx", "JavaScript"), (".ts", "TypeScript"),
    (".tsx", "TypeScript"), (".json", "JSON"), (".yaml", "YAML"), (".yml", "YAML"),
    (".md", "Markdown"), (".toml", "TOML"), (".txt", "Text")]

def language (name : String) : String :=
  if startsWith (setting.lower name) "dockerfile" then "Dockerfile"
  else if startsWith (setting.lower name) "requirements" ∧ suffix name = ".txt" then
    "Requirements"
  else (languages.lookup (setting.lower (suffix name))).getD "Other"

def category (path name : String) : String :=
  let lower := setting.lower path
  let filename := setting.lower name
  if contains filename "test" ∨ contains ("/" ++ lower) "/tests/" then "test"
  else if startsWith filename "readme" ∨ endsWith lower ".md" ∨ endsWith lower ".rst" then
    "documentation"
  else if filename ∈ ["package.json", "pyproject.toml", "setup.py", "setup.cfg"] ∨
      startsWith filename "requirements" ∨ startsWith filename "dockerfile" ∨
      startsWith lower ".github/" ∨ startsWith lower ".gitlab-ci" then "configuration"
  else if contains lower "migration" then "migration"
  else if [".png", ".jpg", ".jpeg", ".gif", ".svg", ".ico"].any (endsWith lower) then "asset"
  else if endsWith lower ".env" ∨ endsWith lower ".env.example" then "environment"
  else "source"

/-- `text.split(separator)[0]`. -/
def before (separator : List Char) : List Char → List Char
  | [] => []
  | c :: chars =>
      if separator.isPrefixOf (c :: chars) then [] else c :: before separator chars

def requirement? (line : String) : Option ImportReference :=
  if strip setting.blank line ≠ "" ∧ startsWith (lstrip setting line) "#" = false ∧
      startsWith (lstrip setting line) "-" = false then
    some ⟨strip setting.blank (String.ofList (before ['>', '='] (before ['=', '=']
      (before [';'] line.toList)))), [], none⟩
  else none

/-- The analysis that `_file` chooses for a language. -/
def analysis (relative name language text : String) : Except String Analysis :=
  if language = "Python" then
    setting.python text (String.ofList (relative.toList.dropLast.dropLast.dropLast.map fun c =>
      if c = '/' then '.' else c))
  else if language = "JavaScript" ∨ language = "TypeScript" then
    pure (setting.javascript text relative)
  else if language = "JSON" then do
    match ← setting.packages text with
    | none => pure { malformed := true }
    | some packages =>
        if setting.lower name = "package.json" then
          pure { imports := (packages.mergeSort (· ≤ ·)).map fun value => ⟨value, [], none⟩ }
        else pure {}
  else if language = "Requirements" then
    pure { imports := (setting.splitlines text).filterMap (requirement? setting) }
  else pure {}

def file (names : List String) (text : String) : Except String FileNode := do
  let relative := posix names
  let name := names.getLastD ""
  let analysis ← analysis setting relative name (language setting name) text
  pure
    { path := relative
      name
      language := language setting name
      size := text.utf8ByteSize
      lines := (setting.splitlines text).length
      category := category setting relative name
      moduleName :=
        if language setting name = "Python" then
          some (String.ofList (relative.toList.dropLast.dropLast.dropLast.map fun c =>
            if c = '/' then '.' else c))
        else none
      symbols := analysis.symbols
      imports := analysis.imports
      exports := analysis.exports
      malformed := analysis.malformed }

/-! ## The scan -/

/-- The files and the set of the directories that a scan has found. -/
structure Found where
  files : List FileNode := []
  directories : List String := []

/-- The directories between a path and the root. -/
def parents (names : List String) : List (List String) :=
  names.dropLast.inits.filter (· ≠ [])

/-- The text that a scan reads from a file. -/
def text? (entry : Entry) : Option String :=
  entry.content.bind fun bytes => if binary bytes then none else setting.decode bytes

/-- One turn of the loop of `scan`. -/
def visit (root patterns : List String) (found : Found) (entry : Entry) :
    Except String Found :=
  if ignored setting root patterns entry.names then pure found
  else
    match entry.content with
    | none => pure { found with directories := found.directories.insert (posix entry.names) }
    | some _ =>
        match text? setting entry with
        | none => pure found
        | some text => do
            let node ← file setting entry.names text
            pure
              { files := found.files ++ [node]
                directories := (parents entry.names).foldl
                  (fun directories above => directories.insert (posix above))
                  found.directories }

/-- The key of the edges. -/
def DependencyEdge.before (edge other : DependencyEdge) : Bool :=
  decide (edge.source < other.source ∨ edge.source = other.source ∧
    (edge.target < other.target ∨ edge.target = other.target ∧ edge.kind ≤ other.kind))

/-- What `scan` makes of what its loop has found. -/
def Found.knowledge (found : Found) (repositoryId : String) (root : List String) :
    RepositoryKnowledge :=
  let files := found.files.mergeSort fun a b => decide (a.path ≤ b.path)
  { repositoryId
    root := absolute root
    directories := (found.directories.mergeSort (· ≤ ·)).map fun path =>
      ⟨path, files.countP fun item => startsWith item.path (path ++ "/")⟩
    files
    dependencies := (files.flatMap fun item => item.imports.map fun ref =>
      { source := item.path, target := ref.moduleName }).mergeSort DependencyEdge.before }

/-- `RepositoryScanner.scan` of the entries below a root. -/
def scan (repositoryId : String) (root : List String) (entries : List Entry) :
    Except String RepositoryKnowledge := do
  let sorted := entries.mergeSort fun a b =>
    decide (setting.casefold (absolute (root ++ a.names)) ≤
      setting.casefold (absolute (root ++ b.names)))
  let found ← sorted.foldlM (visit setting root (ignorePatterns setting entries)) {}
  pure (found.knowledge repositoryId root)

end Functions

/-! ## Paths -/

section Paths

variable {names names' : List String}

theorem plain_of_isName (h : ∀ name ∈ names, IsName name) :
    Segments.Plain '/' (names.map String.toList) := by
  intro segment hsegment
  obtain ⟨name, hname, rfl⟩ := List.mem_map.mp hsegment
  exact (h name hname).2

/-- Names are read back from the path that they are joined to. -/
theorem posix_inj (h : ∀ name ∈ names, IsName name) (h' : ∀ name ∈ names', IsName name)
    (hne : names ≠ []) (hne' : names' ≠ []) (heq : posix names = posix names') :
    names = names' := by
  have hjoined := Segments.joined_inj (plain_of_isName h) (plain_of_isName h')
    (by simpa using hne) (by simpa using hne') (String.ofList_injective heq)
  exact List.map_injective_iff.mpr (fun _ _ => String.toList_injective) hjoined

/-- A path and a slash begin exactly the paths of what lies below it. -/
theorem startsWith_posix_iff (h : ∀ name ∈ names, IsName name)
    (h' : ∀ name ∈ names', IsName name) (hne : names ≠ []) :
    startsWith (posix names') (posix names ++ "/") = true ↔
      ∃ more, more ≠ [] ∧ names' = names ++ more := by
  have hiff := Segments.joined_prefix_iff (plain_of_isName h) (plain_of_isName h')
    (by simpa using hne)
  have htext : (posix names ++ "/").toList =
      Segments.joined '/' (names.map String.toList) ++ ['/'] := by
    rw [String.toList_append, posix, String.toList_ofList]
    rfl
  rw [startsWith, decide_eq_true_eq, htext, posix, String.toList_ofList, hiff]
  constructor
  · rintro ⟨more, hmore, heq⟩
    obtain ⟨first, rest, rfl, hfirst, rfl⟩ := List.map_eq_append_iff.mp heq
    have hsame := List.map_injective_iff.mpr (fun _ _ => String.toList_injective) hfirst
    subst hsame
    exact ⟨rest, by simpa using hmore, rfl⟩
  · rintro ⟨more, hmore, rfl⟩
    exact ⟨more.map String.toList, by simpa using hmore, List.map_append⟩

theorem mem_parents_iff {above : List String} :
    above ∈ parents names ↔ above ≠ [] ∧ ∃ more, more ≠ [] ∧ names = above ++ more := by
  unfold parents
  rw [List.mem_filter, List.mem_inits, decide_eq_true_eq, and_comm]
  refine and_congr_right fun hne => ?_
  constructor
  · rintro ⟨rest, hrest⟩
    have hnames : names ≠ [] := by
      rintro rfl
      simp [hne] at hrest
    refine ⟨rest ++ [names.getLast hnames], by simp, ?_⟩
    rw [← List.append_assoc, hrest, List.dropLast_append_getLast]
  · rintro ⟨more, hmore, rfl⟩
    rw [List.dropLast_append_of_ne_nil hmore]
    exact List.prefix_append _ _

end Paths

/-! ## What the loop finds -/

section Loop

variable (setting : Setting) (root patterns : List String)

/-- The file that an entry adds, or its error. -/
def node? (entry : Entry) : Option (Except String FileNode) :=
  if ignored setting root patterns entry.names = true then none
  else (text? setting entry).map (file setting entry.names)

/-- The directories that an entry adds. -/
def listed (entry : Entry) : List (List String) :=
  if ignored setting root patterns entry.names = true then []
  else
    match entry.content with
    | none => [entry.names]
    | some _ => if (text? setting entry).isSome = true then parents entry.names else []

/-- Paths added to a set. -/
def insertAll (directories : List String) (added : List (List String)) : List String :=
  added.foldl (fun directories above => directories.insert (posix above)) directories

/-- The files and the directories that entries add to what is found. -/
structure Adds (entries : List Entry) (found found' : Found) : Prop where
  files : ∃ nodes, entries.filterMap (node? setting root patterns) = nodes.map .ok ∧
    found'.files = found.files ++ nodes
  directories : found'.directories =
    insertAll found.directories (entries.flatMap (listed setting root patterns))

variable {setting root patterns} {found found' : Found} {entry : Entry} {entries : List Entry}

/-- One turn adds what its entry adds, and fails as the analysis of its text does. -/
theorem visit_eq : visit setting root patterns found entry =
    match node? setting root patterns entry with
    | none => .ok ⟨found.files, insertAll found.directories (listed setting root patterns entry)⟩
    | some (.error e) => .error e
    | some (.ok node) => .ok ⟨found.files ++ [node],
        insertAll found.directories (listed setting root patterns entry)⟩ := by
  unfold visit node? listed
  by_cases hignored : ignored setting root patterns entry.names = true
  · simp only [hignored, if_true]
    rfl
  · simp only [hignored, if_false, Bool.false_eq_true]
    cases hcontent : entry.content with
    | none =>
        have htext : text? setting entry = none := by simp [text?, hcontent]
        rw [htext]
        rfl
    | some bytes =>
        cases htext : text? setting entry with
        | none => rfl
        | some text =>
            rw [Option.map_some]
            cases hfile : file setting entry.names text with
            | error e =>
                simp only [hfile]
                rfl
            | ok node =>
                simp only [hfile]
                rfl

theorem insertAll_append (directories : List String) (added more : List (List String)) :
    insertAll directories (added ++ more) = insertAll (insertAll directories added) more :=
  List.foldl_append

/-- The loop adds what its entries add. -/
theorem foldlM_visit_ok_iff :
    entries.foldlM (visit setting root patterns) found = .ok found' ↔
      Adds setting root patterns entries found found' := by
  induction entries generalizing found with
  | nil =>
    rw [List.foldlM_nil]
    constructor
    · rintro ⟨⟩
      exact ⟨⟨[], rfl, (List.append_nil _).symm⟩, rfl⟩
    · rintro ⟨⟨nodes, hnodes, hfiles⟩, hdirectories⟩
      obtain rfl : nodes = [] := by simpa using hnodes.symm
      obtain ⟨files, directories⟩ := found'
      rw [List.append_nil] at hfiles
      simp only at hfiles hdirectories
      rw [hfiles, hdirectories]
      rfl
  | cons entry entries ih =>
    rw [List.foldlM_cons, visit_eq]
    cases hnode : node? setting root patterns entry with
    | none =>
        refine Iff.trans ih ⟨fun ⟨hfiles, hdirectories⟩ => ?_, fun ⟨hfiles, hdirectories⟩ => ?_⟩
        · refine ⟨by rwa [List.filterMap_cons_none hnode], ?_⟩
          rw [hdirectories, List.flatMap_cons, insertAll_append]
        · refine ⟨by rwa [List.filterMap_cons_none hnode] at hfiles, ?_⟩
          rw [hdirectories, List.flatMap_cons, insertAll_append]
    | some result =>
        cases result with
        | error e =>
            refine ⟨fun h => (by cases h), fun ⟨⟨nodes, hnodes, _⟩, _⟩ => ?_⟩
            rw [List.filterMap_cons_some hnode] at hnodes
            cases nodes with
            | nil => cases hnodes
            | cons node nodes => cases (List.cons.inj hnodes).1
        | ok node =>
            refine Iff.trans ih ⟨fun ⟨hfiles, hdirectories⟩ => ?_,
              fun ⟨hfiles, hdirectories⟩ => ?_⟩
            · obtain ⟨nodes, hnodes, hfiles⟩ := hfiles
              refine ⟨⟨node :: nodes, ?_, ?_⟩, ?_⟩
              · rw [List.filterMap_cons_some hnode, hnodes]
                rfl
              · rw [hfiles, List.append_assoc]
                rfl
              · rw [hdirectories, List.flatMap_cons, insertAll_append]
            · obtain ⟨nodes, hnodes, hfiles⟩ := hfiles
              rw [List.filterMap_cons_some hnode] at hnodes
              cases nodes with
              | nil => cases hnodes
              | cons node' nodes =>
                  obtain ⟨hsame, hrest⟩ := List.cons.inj hnodes
                  cases hsame
                  refine ⟨⟨nodes, hrest, ?_⟩, ?_⟩
                  · rw [hfiles, List.append_assoc]
                    rfl
                  · rw [hdirectories, List.flatMap_cons, insertAll_append]

theorem mem_insertAll {directories : List String} {added : List (List String)} {path : String} :
    path ∈ insertAll directories added ↔
      path ∈ directories ∨ ∃ above ∈ added, path = posix above := by
  induction added generalizing directories with
  | nil => simp [insertAll]
  | cons first added ih =>
    have hfold : insertAll directories (first :: added) =
        insertAll (directories.insert (posix first)) added := rfl
    rw [hfold, ih, List.mem_insert_iff]
    constructor
    · rintro ((rfl | hold) | ⟨above, habove, rfl⟩)
      · exact .inr ⟨first, List.mem_cons_self, rfl⟩
      · exact .inl hold
      · exact .inr ⟨above, List.mem_cons_of_mem _ habove, rfl⟩
    · rintro (hold | ⟨above, habove, rfl⟩)
      · exact .inl (.inr hold)
      · rcases List.mem_cons.mp habove with rfl | habove
        · exact .inl (.inl rfl)
        · exact .inr ⟨above, habove, rfl⟩

theorem nodup_insertAll {directories : List String} (added : List (List String))
    (h : directories.Nodup) : (insertAll directories added).Nodup := by
  induction added generalizing directories with
  | nil => exact h
  | cons first added ih => exact ih h.insert

end Loop

/-! ## What a scan yields -/

section Scan

variable (setting : Setting) (root patterns : List String)

/-- What a scan has found: a file for every text that is not ignored, and each directory once. -/
structure Scanned (entries : List Entry) (found : Found) : Prop where
  files : (entries.filterMap (node? setting root patterns)).Perm (found.files.map .ok)
  directories : ∀ path, path ∈ found.directories ↔
    ∃ entry ∈ entries, ∃ above ∈ listed setting root patterns entry, path = posix above
  nodup : found.directories.Nodup

variable {setting root patterns} {repositoryId : String} {found found' : Found}
  {entries : List Entry} {knowledge : RepositoryKnowledge}

theorem Scanned.mem (h : Scanned setting root patterns entries found) {node : FileNode} :
    node ∈ found.files ↔
      ∃ entry ∈ entries, node? setting root patterns entry = some (.ok node) := by
  have hmem : node ∈ found.files ↔
      Except.ok node ∈ found.files.map (@Except.ok String FileNode) := by
    rw [List.mem_map]
    constructor
    · exact fun hnode => ⟨node, hnode, rfl⟩
    · rintro ⟨other, hother, heq⟩
      cases heq
      exact hother
  rw [hmem, ← h.files.mem_iff, List.mem_filterMap]

/-- The entries are listed in some order and visited in the order of their folded paths. -/
theorem scan_ok_iff : scan setting repositoryId root entries = .ok knowledge ↔
    ∃ found, Adds setting root (ignorePatterns setting entries)
      (entries.mergeSort fun a b =>
        decide (setting.casefold (absolute (root ++ a.names)) ≤
          setting.casefold (absolute (root ++ b.names)))) {} found ∧
        knowledge = found.knowledge repositoryId root := by
  unfold scan
  rw [Checks.bind_ok_iff]
  refine exists_congr fun found => ?_
  rw [foldlM_visit_ok_iff]
  exact and_congr_right fun _ => ⟨fun h => by cases h; rfl, fun h => by rw [h]; rfl⟩

/-- Whatever the order of the visits, a scan finds the same. -/
theorem Adds.scanned {sorted : List Entry} (hperm : sorted.Perm entries)
    (h : Adds setting root patterns sorted {} found) :
    Scanned setting root patterns entries found := by
  obtain ⟨⟨nodes, hnodes, hfiles⟩, hdirectories⟩ := h
  rw [List.nil_append] at hfiles
  refine ⟨?_, fun path => ?_, ?_⟩
  · rw [hfiles, ← hnodes]
    exact (hperm.filterMap _).symm
  · rw [hdirectories, mem_insertAll]
    simp only [List.not_mem_nil, false_or, List.mem_flatMap]
    constructor
    · rintro ⟨above, ⟨entry, hentry, habove⟩, rfl⟩
      exact ⟨entry, hperm.mem_iff.mp hentry, above, habove, rfl⟩
    · rintro ⟨entry, hentry, above, habove, rfl⟩
      exact ⟨above, ⟨entry, hperm.mem_iff.mpr hentry, habove⟩, rfl⟩
  · rw [hdirectories]
    exact nodup_insertAll _ List.nodup_nil

theorem scanned_of_scan (h : scan setting repositoryId root entries = .ok knowledge) :
    ∃ found, Scanned setting root (ignorePatterns setting entries) entries found ∧
      knowledge = found.knowledge repositoryId root := by
  obtain ⟨found, hadds, hknowledge⟩ := scan_ok_iff.mp h
  exact ⟨found, hadds.scanned (List.mergeSort_perm _ _), hknowledge⟩

theorem scan_isOk (h : ∀ entry ∈ entries, ∀ result,
    node? setting root (ignorePatterns setting entries) entry = some result →
      ∃ node, result = .ok node) :
    ∃ knowledge, scan setting repositoryId root entries = .ok knowledge := by
  obtain ⟨sorted, hsorted⟩ : ∃ sorted, sorted = entries.mergeSort fun a b =>
      decide (setting.casefold (absolute (root ++ a.names)) ≤
        setting.casefold (absolute (root ++ b.names))) := ⟨_, rfl⟩
  have hperm : sorted.Perm entries := hsorted ▸ List.mergeSort_perm _ _
  obtain ⟨nodes, hnodes⟩ : sorted.filterMap (node? setting root (ignorePatterns setting entries)) ∈
      Set.range (List.map Except.ok) := by
    rw [Set.range_list_map]
    intro result hresult
    obtain ⟨entry, hentry, hnode⟩ := List.mem_filterMap.mp hresult
    obtain ⟨node, rfl⟩ := h entry (hperm.mem_iff.mp hentry) result hnode
    exact ⟨node, rfl⟩
  have hadds : Adds setting root (ignorePatterns setting entries) sorted {}
      ⟨nodes, insertAll [] (sorted.flatMap
        (listed setting root (ignorePatterns setting entries)))⟩ :=
    ⟨⟨nodes, hnodes.symm, rfl⟩, rfl⟩
  rw [hsorted] at hadds
  exact ⟨_, scan_ok_iff.mpr ⟨_, hadds, rfl⟩⟩

end Scan

/-! ## Order, counts and ancestors -/

section Faithfulness

variable {setting : Setting} {root patterns : List String} {content : Content} {found : Found}
  {repositoryId : String} {knowledge : RepositoryKnowledge} {entry : Entry} {node : FileNode}

def Below (names : List String) (path : String) : Prop :=
  ∃ more, more ≠ [] ∧ (∀ name ∈ more, IsName name) ∧ path = posix (names ++ more)

/-- The files stand in strictly increasing order of their paths, and so do the directories; a
directory counts the files below it, and all directories above a file are there. -/
structure Faithful (knowledge : RepositoryKnowledge) : Prop where
  increasing : (knowledge.files.map FileNode.path).Pairwise (· < ·)
  directories_increasing : (knowledge.directories.map DirectoryNode.path).Pairwise (· < ·)
  counted : ∀ directory ∈ knowledge.directories, ∃ names, names ≠ [] ∧
    (∀ name ∈ names, IsName name) ∧ directory.path = posix names ∧
      ∃ below : FileNode → Bool, (∀ f ∈ knowledge.files, below f = true ↔ Below names f.path) ∧
        directory.fileCount = knowledge.files.countP below
  ancestors : ∀ f ∈ knowledge.files, ∃ names, (∀ name ∈ names, IsName name) ∧
    f.path = posix names ∧ ∀ above more, above ≠ [] → more ≠ [] → names = above ++ more →
      ∃ directory ∈ knowledge.directories, directory.path = posix above

theorem path_of_node? (h : node? setting root patterns entry = some (.ok node)) :
    node.path = posix entry.names := by
  unfold node? at h
  split at h
  · cases h
  · obtain ⟨text, -, hfile⟩ := Option.map_eq_some_iff.mp h
    unfold file at hfile
    obtain ⟨analysis, -, hnode⟩ := Checks.bind_ok_iff.mp hfile
    cases hnode
    rfl

theorem Scanned.nodup_paths (h : Scanned setting root patterns content.entries found) :
    (found.files.map FileNode.path).Nodup := by
  have hentries : content.entries.Pairwise fun a b => ∀ node, node? setting root patterns a =
      some (.ok node) → ∀ other, node? setting root patterns b = some (.ok other) →
        node.path ≠ other.path := by
    refine (List.pairwise_map.mp content.nodup).imp_of_mem fun {a b} ha hb hne => ?_
    intro node hnode other hother hpath
    rw [path_of_node? hnode, path_of_node? hother] at hpath
    exact hne (posix_inj (content.named a ha) (content.named b hb) (content.names_ne_nil a ha)
      (content.names_ne_nil b hb) hpath)
  have hresults : (content.entries.filterMap (node? setting root patterns)).Pairwise
      fun result other => ∀ node, result = .ok node → ∀ node', other = .ok node' →
        node.path ≠ node'.path := by
    refine hentries.filterMap _ ?_
    rintro a b hab result hresult other hother node rfl node' rfl
    exact hab node hresult node' hother
  have hfiles := (h.files.pairwise_iff fun hne node hnode node' hnode' heq =>
    hne node' hnode' node hnode heq.symm).mp hresults
  exact List.pairwise_map.mpr ((List.pairwise_map.mp hfiles).imp fun hne =>
    hne _ rfl _ rfl)

theorem sorted_files (files : List FileNode) :
    (files.mergeSort fun a b => decide (a.path ≤ b.path)).Pairwise fun a b => a.path ≤ b.path := by
  have hsorted := @List.pairwise_mergeSort _ (fun a b : FileNode => decide (a.path ≤ b.path))
    (fun a b c hab hbc => by
      rw [decide_eq_true_eq] at hab hbc ⊢
      exact le_trans hab hbc)
    (fun a b => by simpa using le_total a.path b.path) files
  exact hsorted.imp fun hle => of_decide_eq_true hle

theorem sorted_directories (directories : List String) :
    (directories.mergeSort (· ≤ ·)).Pairwise (· ≤ ·) := by
  have hsorted := @List.pairwise_mergeSort _ (fun a b : String => decide (a ≤ b))
    (fun a b c hab hbc => by
      rw [decide_eq_true_eq] at hab hbc ⊢
      exact le_trans hab hbc)
    (fun a b => by simpa using le_total a b) directories
  exact hsorted.imp fun hle => of_decide_eq_true hle

theorem prefix_of_mem_listed {above : List String}
    (h : above ∈ listed setting root patterns entry) (hne : entry.names ≠ []) :
    above ≠ [] ∧ above <+: entry.names := by
  unfold listed at h
  split at h
  · cases h
  · split at h
    · obtain rfl := List.mem_singleton.mp h
      exact ⟨hne, List.prefix_refl _⟩
    · split at h
      · obtain ⟨habove, more, -, hnames⟩ := mem_parents_iff.mp h
        exact ⟨habove, hnames ▸ List.prefix_append _ _⟩
      · cases h

/-- What a scan finds is ordered, counted and complete. -/
theorem Scanned.faithful (h : Scanned setting root patterns content.entries found) :
    Faithful (found.knowledge repositoryId root) := by
  have hperm : (found.files.mergeSort fun a b => decide (a.path ≤ b.path)).Perm found.files :=
    List.mergeSort_perm _ _
  have hnode : ∀ f ∈ found.files, ∃ entry ∈ content.entries,
      node? setting root patterns entry = some (.ok f) ∧ f.path = posix entry.names := by
    intro f hf
    obtain ⟨entry, hentry, hnode⟩ := h.mem.mp hf
    exact ⟨entry, hentry, hnode, path_of_node? hnode⟩
  constructor
  · have hne := (hperm.map FileNode.path).nodup_iff.mpr h.nodup_paths
    have hle := List.pairwise_map.mpr (sorted_files found.files)
    exact (hle.and hne).imp fun ⟨hle, hne⟩ => lt_of_le_of_ne hle hne
  · have hne := (List.mergeSort_perm found.directories (· ≤ ·)).nodup_iff.mpr h.nodup
    have hlt := ((sorted_directories found.directories).and hne).imp
      fun {a b} (hab : a ≤ b ∧ a ≠ b) => lt_of_le_of_ne hab.1 hab.2
    simpa [Found.knowledge, List.map_map, Function.comp_def] using hlt
  · intro directory hdirectory
    obtain ⟨path, hpath, rfl⟩ := List.mem_map.mp hdirectory
    obtain ⟨entry, hentry, above, habove, rfl⟩ :=
      (h.directories path).mp ((List.mergeSort_perm _ _).mem_iff.mp hpath)
    obtain ⟨hne, hbegins⟩ := prefix_of_mem_listed habove (content.names_ne_nil entry hentry)
    have hnamed : ∀ name ∈ above, IsName name := fun name hname =>
      content.named entry hentry name (hbegins.subset hname)
    refine ⟨above, hne, hnamed, rfl, fun item => startsWith item.path (posix above ++ "/"),
      fun f hf => ?_, rfl⟩
    obtain ⟨other, hother, -, hf⟩ := hnode f (hperm.mem_iff.mp hf)
    change startsWith f.path (posix above ++ "/") = true ↔ Below above f.path
    rw [hf, startsWith_posix_iff hnamed (content.named other hother) hne]
    constructor
    · rintro ⟨more, hmore, hnames⟩
      refine ⟨more, hmore, fun name hname => content.named other hother name ?_, by rw [hnames]⟩
      rw [hnames]
      exact List.mem_append_right _ hname
    · rintro ⟨more, hmore, hmore', hpath⟩
      refine ⟨more, hmore, posix_inj (content.named other hother) ?_
        (content.names_ne_nil other hother) (by simp [hne]) hpath⟩
      intro name hname
      rcases List.mem_append.mp hname with hname | hname
      · exact hnamed name hname
      · exact hmore' name hname
  · intro f hf
    obtain ⟨entry, hentry, hfound, hpath⟩ := hnode f (hperm.mem_iff.mp hf)
    refine ⟨entry.names, content.named entry hentry, hpath, ?_⟩
    intro above more habove hmore hnames
    have hlisted : above ∈ listed setting root patterns entry := by
      unfold node? at hfound
      split at hfound
      · cases hfound
      · rename_i hignored
        obtain ⟨text, htext, -⟩ := Option.map_eq_some_iff.mp hfound
        unfold listed
        rw [if_neg hignored]
        cases hcontent : entry.content with
        | none => simp [text?, hcontent] at htext
        | some bytes =>
            simp only [htext, Option.isSome_some, if_true]
            exact mem_parents_iff.mpr ⟨habove, more, hmore, hnames⟩
    have hmem := (h.directories (posix above)).mpr ⟨entry, hentry, above, hlisted, rfl⟩
    exact ⟨_, List.mem_map.mpr ⟨posix above, (List.mergeSort_perm _ _).mem_iff.mpr hmem, rfl⟩, rfl⟩

end Faithfulness

/-! ## Two roots -/

section Roots

variable {setting : Setting} {content content' : Content} {root root' : List String}
  {repositoryId : String} {patterns : List String}

/-- A root below a directory with one of the names that are always ignored. -/
def Hidden (root : List String) : Prop :=
  ∃ name ∈ root, name ∈ alwaysIgnore

instance (root : List String) : Decidable (Hidden root) :=
  inferInstanceAs (Decidable (∃ name ∈ root, name ∈ alwaysIgnore))

/-- Every entry is ignored wherever it is placed, or is a file without text. -/
def Blank (setting : Setting) (content : Content) : Prop :=
  ∀ entry ∈ content.entries,
    ignored setting [] (ignorePatterns setting content.entries) entry.names = true ∨
      entry.content ≠ none ∧ text? setting entry = none

/-- The files with their symbols and imports, the directories and the dependencies. -/
def RepositoryKnowledge.parts (knowledge : RepositoryKnowledge) :
    List FileNode × List DirectoryNode × List DependencyEdge :=
  (knowledge.files, knowledge.directories, knowledge.dependencies)

/-- What a scan yields, if it yields anything. -/
def yielded (result : Except String RepositoryKnowledge) :
    Option (List FileNode × List DirectoryNode × List DependencyEdge) :=
  result.toOption.map RepositoryKnowledge.parts

theorem ignored_eq (names : List String) : ignored setting root patterns names =
    (decide (Hidden root) || ignored setting [] patterns names) := by
  have hslash : decide ("/" ∈ alwaysIgnore) = false := by decide
  have hroot : root.any (fun name => decide (name ∈ alwaysIgnore)) = decide (Hidden root) := by
    rw [Bool.eq_iff_iff, List.any_eq_true, decide_eq_true_eq]
    simp only [decide_eq_true_eq]
    rfl
  unfold ignored
  rw [List.cons_append, List.cons_append, List.nil_append, List.any_cons, List.any_cons,
    List.any_append, hslash, hroot, Bool.false_or, Bool.false_or, Bool.or_assoc]

theorem ignored_congr (hsame : Hidden root ↔ Hidden root') (names : List String) :
    ignored setting root patterns names = ignored setting root' patterns names := by
  rw [ignored_eq, @ignored_eq setting root']
  simp only [hsame]

theorem ignorePatterns_perm (hperm : content.entries.Perm content'.entries) :
    ignorePatterns setting content.entries = ignorePatterns setting content'.entries := by
  have hfind : content.entries.find? (·.names = [".gitignore"]) =
      content'.entries.find? (·.names = [".gitignore"]) := by
    cases hfind : content.entries.find? (·.names = [".gitignore"]) with
    | none =>
        rw [List.find?_eq_none] at hfind
        exact (List.find?_eq_none.mpr fun entry hentry =>
          hfind entry (hperm.mem_iff.mpr hentry)).symm
    | some entry =>
        have hmem := hperm.mem_iff.mp (List.mem_of_find?_eq_some hfind)
        have hnames := List.find?_some hfind
        have hsome : (content'.entries.find? (·.names = [".gitignore"])).isSome = true :=
          List.find?_isSome.mpr ⟨entry, hmem, hnames⟩
        obtain ⟨other, hother⟩ := Option.isSome_iff_exists.mp hsome
        have hother' := List.find?_some hother
        rw [hother, List.inj_on_of_nodup_map content'.nodup hmem
          (List.mem_of_find?_eq_some hother)
          ((of_decide_eq_true hnames).trans (of_decide_eq_true hother').symm)]
  unfold ignorePatterns
  rw [hfind]

theorem scanned_perm {entries entries' : List Entry} {found found' : Found}
    (hperm : entries.Perm entries')
    (hignored : ∀ names, ignored setting root patterns names = ignored setting root' patterns names)
    (h : Scanned setting root patterns entries found)
    (h' : Scanned setting root' patterns entries' found') :
    found.files.Perm found'.files ∧ found.directories.Perm found'.directories := by
  have hnode : node? setting root patterns = node? setting root' patterns := by
    funext entry
    unfold node?
    rw [hignored]
  have hlisted : listed setting root patterns = listed setting root' patterns := by
    funext entry
    unfold listed
    rw [hignored]
  constructor
  · have hfiles := h.files.symm.trans ((hperm.filterMap _).trans (hnode ▸ h'.files))
    have hback : ∀ files : List FileNode,
        (files.map (@Except.ok String FileNode)).filterMap Except.toOption = files := by
      intro files
      rw [List.filterMap_map]
      exact List.filterMap_some
    rw [← hback found.files, ← hback found'.files]
    exact hfiles.filterMap _
  · refine (List.perm_ext_iff_of_nodup h.nodup h'.nodup).mpr fun path => ?_
    rw [h.directories, h'.directories, hlisted]
    exact exists_congr fun entry => and_congr_left fun _ => hperm.mem_iff

/-- Sorted, what two scans have found in different orders is the same. -/
theorem parts_eq {found found' : Found} (hfiles : found.files.Perm found'.files)
    (hpaths : (found.files.map FileNode.path).Nodup)
    (hdirectories : found.directories.Perm found'.directories) :
    (found.knowledge repositoryId root).parts = (found'.knowledge repositoryId root').parts := by
  have hfiles' : (found.files.mergeSort fun a b => decide (a.path ≤ b.path)) =
      found'.files.mergeSort fun a b => decide (a.path ≤ b.path) := by
    refine List.Perm.eq_of_pairwise (fun a b ha hb hab hba => ?_) (sorted_files _)
      (sorted_files _)
      ((List.mergeSort_perm _ _).trans (hfiles.trans (List.mergeSort_perm _ _).symm))
    exact List.inj_on_of_nodup_map hpaths ((List.mergeSort_perm _ _).mem_iff.mp ha)
      (hfiles.mem_iff.mpr ((List.mergeSort_perm _ _).mem_iff.mp hb)) (le_antisymm hab hba)
  have hdirectories' : found.directories.mergeSort (· ≤ ·) =
      found'.directories.mergeSort (· ≤ ·) :=
    List.Perm.eq_of_pairwise (fun a b _ _ hab hba => le_antisymm hab hba) (sorted_directories _)
      (sorted_directories _)
      ((List.mergeSort_perm _ _).trans (hdirectories.trans (List.mergeSort_perm _ _).symm))
  simp only [RepositoryKnowledge.parts, Found.knowledge, hfiles', hdirectories']

/-- Roots that are both hidden or both not make no difference. -/
theorem yielded_congr (hperm : content.entries.Perm content'.entries)
    (hsame : Hidden root ↔ Hidden root') :
    yielded (scan setting repositoryId root content.entries) =
      yielded (scan setting repositoryId root' content'.entries) := by
  have hpatterns := @ignorePatterns_perm setting _ _ hperm
  have hignored := @ignored_congr setting _ _ (ignorePatterns setting content.entries) hsame
  have hnode : ∀ entry, node? setting root (ignorePatterns setting content.entries) entry =
      node? setting root' (ignorePatterns setting content'.entries) entry := by
    intro entry
    unfold node?
    rw [hignored, hpatterns]
  cases hscan : scan setting repositoryId root content.entries with
  | ok knowledge =>
    obtain ⟨found, hscanned, rfl⟩ := scanned_of_scan hscan
    obtain ⟨knowledge', hscan'⟩ : ∃ knowledge',
        scan setting repositoryId root' content'.entries = .ok knowledge' := by
      refine scan_isOk fun entry hentry result hresult => ?_
      rw [← hnode] at hresult
      have hmem := hscanned.files.mem_iff.mp
        (List.mem_filterMap.mpr ⟨entry, hperm.mem_iff.mpr hentry, hresult⟩)
      obtain ⟨node, -, rfl⟩ := List.mem_map.mp hmem
      exact ⟨node, rfl⟩
    obtain ⟨found', hscanned', rfl⟩ := scanned_of_scan hscan'
    rw [← hpatterns] at hscanned'
    obtain ⟨hfiles, hdirectories⟩ := scanned_perm hperm hignored hscanned hscanned'
    rw [hscan']
    exact congrArg some (parts_eq hfiles hscanned.nodup_paths hdirectories)
  | error e =>
    cases hscan' : scan setting repositoryId root' content'.entries with
    | error e' => rfl
    | ok knowledge' =>
        exfalso
        obtain ⟨found', hscanned', -⟩ := scanned_of_scan hscan'
        obtain ⟨knowledge, hok⟩ : ∃ knowledge,
            scan setting repositoryId root content.entries = .ok knowledge := by
          refine scan_isOk fun entry hentry result hresult => ?_
          rw [hnode] at hresult
          have hmem := hscanned'.files.mem_iff.mp
            (List.mem_filterMap.mpr ⟨entry, hperm.mem_iff.mp hentry, hresult⟩)
          obtain ⟨node, -, rfl⟩ := List.mem_map.mp hmem
          exact ⟨node, rfl⟩
        rw [hscan] at hok
        cases hok

theorem yielded_eq_some {result : Except String RepositoryKnowledge}
    {parts : List FileNode × List DirectoryNode × List DependencyEdge} :
    yielded result = some parts ↔
      ∃ knowledge, result = .ok knowledge ∧ knowledge.parts = parts := by
  cases result with
  | ok knowledge => simp [yielded, Except.toOption]
  | error e => simp [yielded, Except.toOption]

theorem parts_nil_iff {found : Found} :
    (found.knowledge repositoryId root).parts = ([], [], []) ↔
      found.files = [] ∧ found.directories = [] := by
  have hfiles := (List.mergeSort_perm found.files fun a b => decide (a.path ≤ b.path)).length_eq
  have hdirectories := (List.mergeSort_perm found.directories (· ≤ ·)).length_eq
  constructor
  · intro h
    have hfiles' : (found.files.mergeSort fun a b => decide (a.path ≤ b.path)) = [] :=
      congrArg Prod.fst h
    have hdirectories' := congrArg (fun parts => parts.2.1) h
    rw [hfiles'] at hfiles
    rw [List.map_eq_nil_iff.mp hdirectories'] at hdirectories
    exact ⟨List.length_eq_zero_iff.mp hfiles.symm, List.length_eq_zero_iff.mp hdirectories.symm⟩
  · rintro ⟨hfiles, hdirectories⟩
    simp [RepositoryKnowledge.parts, Found.knowledge, hfiles, hdirectories]

/-- Nothing is found exactly where every entry is ignored or is a file without text. -/
theorem yielded_nil_iff {entries : List Entry} :
    yielded (scan setting repositoryId root entries) = some ([], [], []) ↔
      ∀ entry ∈ entries,
        ignored setting root (ignorePatterns setting entries) entry.names = true ∨
          entry.content ≠ none ∧ text? setting entry = none := by
  rw [yielded_eq_some]
  constructor
  · rintro ⟨knowledge, hscan, hparts⟩ entry hentry
    obtain ⟨found, hscanned, rfl⟩ := scanned_of_scan hscan
    obtain ⟨hfiles, hdirectories⟩ := parts_nil_iff.mp hparts
    by_cases hignored : ignored setting root (ignorePatterns setting entries) entry.names = true
    · exact .inl hignored
    · refine .inr ⟨fun hcontent => ?_, ?_⟩
      · have hmem := (hscanned.directories (posix entry.names)).mpr ⟨entry, hentry, entry.names,
          by simp [listed, hignored, hcontent], rfl⟩
        rw [hdirectories] at hmem
        cases hmem
      · cases htext : text? setting entry with
        | none => rfl
        | some text =>
            have hmem := hscanned.files.mem_iff.mp (List.mem_filterMap.mpr
              ⟨entry, hentry, by rw [node?, if_neg hignored, htext]; rfl⟩)
            rw [hfiles] at hmem
            cases hmem
  · intro hblank
    have hnode : ∀ entry ∈ entries,
        node? setting root (ignorePatterns setting entries) entry = none := by
      intro entry hentry
      rcases hblank entry hentry with hignored | ⟨-, htext⟩
      · rw [node?, if_pos hignored]
      · rw [node?, htext, Option.map_none, ite_self]
    have hlisted : ∀ entry ∈ entries,
        listed setting root (ignorePatterns setting entries) entry = [] := by
      intro entry hentry
      rcases hblank entry hentry with hignored | ⟨hcontent, htext⟩
      · rw [listed, if_pos hignored]
      · obtain ⟨bytes, hbytes⟩ := Option.ne_none_iff_exists'.mp hcontent
        simp [listed, hbytes, htext]
    obtain ⟨knowledge, hscan⟩ := @scan_isOk setting root repositoryId entries
      fun entry hentry result hresult => by
        rw [hnode entry hentry] at hresult
        cases hresult
    obtain ⟨found, hscanned, rfl⟩ := scanned_of_scan hscan
    refine ⟨_, hscan, parts_nil_iff.mpr ⟨?_, ?_⟩⟩
    · refine List.eq_nil_iff_forall_not_mem.mpr fun node hmem => ?_
      obtain ⟨entry, hentry, hsome⟩ := hscanned.mem.mp hmem
      rw [hnode entry hentry] at hsome
      cases hsome
    · refine List.eq_nil_iff_forall_not_mem.mpr fun path hpath => ?_
      obtain ⟨entry, hentry, above, habove, -⟩ := (hscanned.directories path).mp hpath
      rw [hlisted entry hentry] at habove
      cases habove

theorem yielded_hidden (hhidden : Hidden root) (entries : List Entry) :
    yielded (scan setting repositoryId root entries) = some ([], [], []) :=
  yielded_nil_iff.mpr fun entry _ => .inl (by
    rw [ignored_eq, decide_eq_true hhidden, Bool.true_or])

/-- Below any other root nothing is found exactly in a blank content. -/
theorem yielded_clear_iff (hclear : ¬ Hidden root) :
    yielded (scan setting repositoryId root content.entries) = some ([], [], []) ↔
      Blank setting content := by
  rw [yielded_nil_iff]
  refine forall₂_congr fun entry _ => ?_
  rw [ignored_eq, decide_eq_false hclear, Bool.false_or]

theorem blank_perm (hperm : content.entries.Perm content'.entries) :
    Blank setting content ↔ Blank setting content' := by
  unfold Blank
  rw [@ignorePatterns_perm setting _ _ hperm]
  exact forall_congr' fun entry => imp_congr_left hperm.mem_iff

end Roots

/-- A content placed at two roots, and listed in any order at each, yields the same files,
directories and dependencies, all of them ordered, counted and complete, exactly if both roots
are hidden, neither is, or the content is blank. -/
theorem scan_independent_iff (setting : Setting) (repositoryId : String)
    (content content' : Content) (hperm : content.entries.Perm content'.entries)
    (root root' : List String) :
    (yielded (scan setting repositoryId root content.entries) =
        yielded (scan setting repositoryId root' content'.entries) ∧
      (∀ knowledge, scan setting repositoryId root content.entries = .ok knowledge →
        Faithful knowledge) ∧
      ∀ knowledge, scan setting repositoryId root' content'.entries = .ok knowledge →
        Faithful knowledge) ↔
      ((Hidden root ↔ Hidden root') ∨ Blank setting content) := by
  have hfaithful : ∀ (content : Content) (root : List String) (knowledge : RepositoryKnowledge),
      scan setting repositoryId root content.entries = .ok knowledge → Faithful knowledge := by
    intro content root knowledge hscan
    obtain ⟨found, hscanned, rfl⟩ := scanned_of_scan hscan
    exact hscanned.faithful
  rw [and_iff_left ⟨hfaithful content root, hfaithful content' root'⟩]
  by_cases hsame : Hidden root ↔ Hidden root'
  · exact iff_of_true (yielded_congr hperm hsame) (.inl hsame)
  · rw [or_iff_right hsame]
    by_cases hhidden : Hidden root
    · have hclear : ¬ Hidden root' := fun h => hsame (iff_of_true hhidden h)
      rw [yielded_hidden hhidden, eq_comm, yielded_clear_iff hclear, blank_perm hperm]
    · have hhidden' : Hidden root' := by_contra fun h => hsame (iff_of_false hhidden h)
      rw [yielded_hidden hhidden', yielded_clear_iff hhidden]

/-! ## A checkout below a directory of builds -/

/-- Functions that read bytes as ASCII and analyse nothing. -/
def plainSetting : Setting where
  decode bytes := some (String.ofList (bytes.map fun byte => Char.ofNat byte.toNat))
  decodeIgnoring bytes := String.ofList (bytes.map fun byte => Char.ofNat byte.toNat)
  casefold value := value
  lower value := value
  blank c := c = ' '
  splitlines value := [value]
  fnmatch path pattern := path = pattern
  python _ _ := pure {}
  javascript _ _ := {}
  packages _ := pure (some [])

/-- A repository with one text. -/
def readme : Content where
  entries := [⟨["README.md"], some [104, 105]⟩]
  names_ne_nil entry hentry := by
    obtain rfl := List.mem_singleton.mp hentry
    exact List.cons_ne_nil _ _
  named entry hentry name hname := by
    obtain rfl := List.mem_singleton.mp hentry
    obtain rfl := List.mem_singleton.mp hname
    exact ⟨by decide, by decide⟩
  nodup := List.nodup_singleton _
  closed entry hentry above hne hbegins hproper := by
    obtain rfl := List.mem_singleton.mp hentry
    rcases List.prefix_cons_iff.mp hbegins with rfl | ⟨rest, rfl, hrest⟩
    · exact absurd rfl hne
    · rw [List.prefix_nil.mp hrest] at hproper
      exact absurd rfl hproper

theorem readme_not_blank : ¬ Blank plainSetting readme := by
  intro hblank
  rcases hblank _ List.mem_cons_self with hignored | ⟨-, htext⟩
  · exact absurd hignored (by decide)
  · cases htext

/-- Two roots that are not hidden. -/
theorem scan_independent_readme :
    yielded (scan plainSetting "app" ["srv", "app"] readme.entries) =
      yielded (scan plainSetting "app" ["home", "app"] readme.entries) :=
  ((scan_independent_iff plainSetting "app" readme readme (List.Perm.refl _) ["srv", "app"]
    ["home", "app"]).mpr (.inl (by decide))).1

/-- The text is found in one place, and not below a directory of builds. -/
theorem not_scan_independent :
    ¬ ∀ (setting : Setting) (repositoryId : String) (content content' : Content)
      (root root' : List String), content.entries.Perm content'.entries →
      yielded (scan setting repositoryId root content.entries) =
        yielded (scan setting repositoryId root' content'.entries) := by
  intro h
  have hsame := h plainSetting "app" readme readme ["build", "app"] ["srv", "app"]
    (List.Perm.refl _)
  rw [yielded_hidden (by decide), eq_comm, yielded_clear_iff (by decide)] at hsame
  exact readme_not_blank hsame

end Knowledge
end Ascos
