import Ascos.Library.Texts
import Ascos.Tools.CommandRunner
import Mathlib.Algebra.GroupWithZero.Nat

/-!
# The status of a working tree

`LocalGitProvider.status` of `runtime/integrations/git/local_provider.py` over the
command runner, for what `git status --porcelain` prints of any changes.

Main results:

- Theorem `splitLines_listing`: the lines of a listing are its entries.
- Theorem `payloads_perm_iff`: what follows the letters is the files' paths exactly for
  plain files.
- Theorem `status_faithful_iff`: when the returned paths are the paths of the changed files.
-/

namespace Ascos
namespace Tools

open Library

/-! ## What git prints -/

/-- The path of a file: it is not empty and does not end with a slash. -/
structure FilePath where
  text : String
  file : ∃ c ∈ text.toList.getLast?, c ≠ '/'

inductive Letter where
  | blank
  | modified
  | typeChanged
  | added
  | deleted
  | renamed
  | unmerged
  | untracked
deriving DecidableEq

def Letter.char : Letter → Char
  | .blank => ' '
  | .modified => 'M'
  | .typeChanged => 'T'
  | .added => 'A'
  | .deleted => 'D'
  | .renamed => 'R'
  | .unmerged => 'U'
  | .untracked => '?'

/-- What has changed: a file, one that has another path now, or an untracked directory with all
of its files. -/
inductive Change where
  | file (index tree : Letter) (path : FilePath)
  | renamed (index tree : Letter) (old new : FilePath)
  | directory (index tree : Letter) (path : String) (inside : List FilePath)
      (inside_ne_nil : inside ≠ [])

/-- The paths of the changed, added, deleted and untracked files. -/
def Change.files : Change → List String
  | .file _ _ path => [path.text]
  | .renamed _ _ old new => [old.text, new.text]
  | .directory _ _ path inside _ => inside.map fun f => path ++ "/" ++ f.text

/-- The characters at which `str.splitlines` ends a line. -/
def isLineBreak (c : Char) : Bool :=
  c ∈ ['\n', '\r', '\x0b', '\x0c', '\x1c', '\x1d', '\x1e', '\u0085', '\u2028', '\u2029']

/-- How git quotes a path: as a string literal of C if it has special characters, and otherwise
not at all. -/
structure Quoting where
  special : String → Bool
  escape : Char → List Char
  special_of_quote : ∀ path, '"' ∈ path.toList → special path = true
  escape_quote : escape '"' = ['\\', '"']
  escape_backslash : escape '\\' = ['\\', '\\']
  escape_line : ∀ c, ∀ d ∈ escape c, isLineBreak d = false
  plain_line : ∀ path, special path = false → ∀ c ∈ path.toList, isLineBreak c = false

section Listing

variable (quoting : Quoting)

def Quoting.quoted (path : String) : String :=
  String.ofList ('"' :: path.toList.flatMap quoting.escape ++ ['"'])

/-- A path as git prints it. -/
def Quoting.shown (path : String) : String :=
  if quoting.special path = true then quoting.quoted path else path

/-- What follows the letters of an entry. -/
def Change.payload : Change → String
  | .file _ _ path => quoting.shown path.text
  | .renamed _ _ old new => quoting.shown old.text ++ " -> " ++ quoting.shown new.text
  | .directory _ _ path _ _ => quoting.shown (path ++ "/")

/-- The two letters of an entry and a blank. -/
def Change.letters : Change → List Char
  | .file index tree _ | .renamed index tree _ _ | .directory index tree _ _ _ =>
      [index.char, tree.char, ' ']

def Change.line (change : Change) : List Char :=
  change.letters ++ (change.payload quoting).toList

/-- `git status --porcelain`. -/
def listing (changes : List Change) : String :=
  String.ofList (changes.flatMap fun change => change.line quoting ++ ['\n'])

end Listing

/-! ## The provider -/

structure GitStatus where
  branch : String
  clean : Bool
  changedPaths : List String
deriving DecidableEq

/-- What the provider raises. -/
inductive GitError where
  | command (error : CommandError)
  | repository (message : String)
  | provider (message : String)
deriving DecidableEq

/-- `str.splitlines` from a place on, with the beginning of the current line. -/
def splitLines (current : List Char) : List Char → List (List Char)
  | [] => if current = [] then [] else [current]
  | c :: text =>
    if isLineBreak c = true then
      current :: splitLines [] (if c = '\r' ∧ text.head? = some '\n' then text.tail else text)
    else splitLines (current ++ [c]) text
termination_by text => text.length
decreasing_by
  · split
    · simp only [List.length_tail, List.length_cons]
      omega
    · simp
  · simp

/-- The provider of one repository: its path or why it is refused, and what git does for some
arguments. -/
structure LocalGitProvider where
  runner : LocalCommandRunner
  repository : Except GitError (List String)
  git : List String → Process
  blank : Char → Bool

section Provider

variable (setting : Setting) (provider : LocalGitProvider)

def gitRequest (path : List String) (arguments : List String) : CommandRequest where
  executable := "git"
  arguments
  workingDirectory := some path
  environment := []
  environment_nodup := List.nodup_nil

def LocalGitProvider.run (path arguments : List String) : Except GitError CommandResult :=
  match provider.runner.execute setting (gitRequest path arguments) (provider.git arguments) with
  | .error error => throw (.command error)
  | .ok result =>
    if result.exitCode ≠ 0 then
      throw (.provider s!"Git operation failed with exit code {result.exitCode}")
    else pure result

def LocalGitProvider.currentBranch : Except GitError String := do
  let path ← provider.repository
  let result ← provider.run setting path ["branch", "--show-current"]
  pure (strip provider.blank result.stdout)

def LocalGitProvider.status : Except GitError GitStatus := do
  let path ← provider.repository
  let result ← provider.run setting path ["status", "--porcelain"]
  let branch ← provider.currentBranch setting
  let changed := (splitLines [] result.stdout.toList).map fun line => String.ofList (line.drop 3)
  pure ⟨branch, changed.isEmpty, changed⟩

end Provider

/-! ## Lines -/

section Lines

variable {quoting : Quoting} {changes : List Change}

theorem splitLines_line {current line text : List Char}
    (hline : ∀ c ∈ line, isLineBreak c = false) :
    splitLines current (line ++ '\n' :: text) = (current ++ line) :: splitLines [] text := by
  induction line generalizing current with
  | nil =>
    rw [List.nil_append, splitLines, if_pos (by decide), if_neg (by simp), List.append_nil]
  | cons c line ih =>
    have hc := hline c List.mem_cons_self
    rw [List.cons_append, splitLines, if_neg (by simp [hc]),
      ih fun d hd => hline d (List.mem_cons_of_mem c hd), List.append_assoc,
      List.singleton_append]

theorem splitLines_lines {lines : List (List Char)}
    (hlines : ∀ line ∈ lines, ∀ c ∈ line, isLineBreak c = false) :
    splitLines [] (lines.flatMap (· ++ ['\n'])) = lines := by
  induction lines with
  | nil =>
    rw [List.flatMap_nil, splitLines]
    rfl
  | cons line lines ih =>
    rw [List.flatMap_cons, List.append_assoc, List.singleton_append,
      splitLines_line (hlines line List.mem_cons_self), List.nil_append,
      ih fun other hother => hlines other (List.mem_cons_of_mem line hother)]

theorem isLineBreak_shown (path : String) :
    ∀ c ∈ (quoting.shown path).toList, isLineBreak c = false := by
  unfold Quoting.shown
  split
  · intro c hc
    rw [Quoting.quoted, String.toList_ofList, List.mem_append, List.mem_cons,
      List.mem_singleton, List.mem_flatMap] at hc
    obtain (rfl | ⟨d, -, hd⟩) | rfl := hc
    · decide
    · exact quoting.escape_line d c hd
    · decide
  · rename_i hspecial
    exact quoting.plain_line path (by simpa using hspecial)

theorem isLineBreak_letter (letter : Letter) : isLineBreak letter.char = false := by
  cases letter <;> decide

theorem isLineBreak_line (change : Change) : ∀ c ∈ change.line quoting, isLineBreak c = false := by
  have hblank : isLineBreak ' ' = false := by decide
  intro c hc
  unfold Change.line at hc
  rcases List.mem_append.mp hc with hc | hc
  · cases change <;>
    · simp only [Change.letters, List.mem_cons, List.not_mem_nil, or_false] at hc
      rcases hc with rfl | rfl | rfl
      · exact isLineBreak_letter _
      · exact isLineBreak_letter _
      · exact hblank
  · cases change with
    | file index tree path => exact isLineBreak_shown _ c hc
    | directory index tree path inside hinside => exact isLineBreak_shown _ c hc
    | renamed index tree old new =>
        simp only [Change.payload, String.toList_append, List.mem_append] at hc
        obtain (hc | hc) | hc := hc
        · exact isLineBreak_shown _ c hc
        · have harrow : " -> ".toList.all (!isLineBreak ·) = true := by decide +kernel
          exact (Bool.not_eq_true' _).mp (List.all_eq_true.mp harrow c hc)
        · exact isLineBreak_shown _ c hc

theorem splitLines_listing :
    splitLines [] (listing quoting changes).toList = changes.map (Change.line quoting) := by
  have hflat : (listing quoting changes).toList =
      (changes.map (Change.line quoting)).flatMap (· ++ ['\n']) := by
    rw [listing, String.toList_ofList, List.flatMap_map]
  rw [hflat, splitLines_lines]
  intro line hline
  obtain ⟨change, -, rfl⟩ := List.mem_map.mp hline
  exact isLineBreak_line change

theorem drop_line (change : Change) :
    String.ofList ((change.line quoting).drop 3) = change.payload quoting := by
  have hletters : change.letters.length = 3 := by cases change <;> rfl
  rw [Change.line, List.drop_left' hletters, String.ofList_toList]

end Lines

/-! ## Payloads and files -/

section Payloads

variable {quoting : Quoting} {changes : List Change}

/-- A file whose path is printed as it is. -/
def Change.Plain (quoting : Quoting) (change : Change) : Prop :=
  ∃ index tree path, change = .file index tree path ∧ quoting.special path.text = false

/-- The characters that are escaped in string literals. -/
def isEscaped (c : Char) : Bool :=
  c = '"' || c = '\\'

/-- The number of escaped characters that a text starts with. -/
def lead (text : String) : Nat :=
  (text.toList.takeWhile isEscaped).length

theorem length_takeWhile_escape (chars : List Char) (rest : List Char) :
    (chars.takeWhile isEscaped).length ≤
      ((chars.flatMap quoting.escape ++ rest).takeWhile isEscaped).length := by
  induction chars with
  | nil => exact Nat.zero_le _
  | cons c chars ih =>
    by_cases hc : isEscaped c = true
    · have hescape : quoting.escape c = ['\\', c] := by
        rcases Bool.or_eq_true_iff.mp hc with hquote | hbackslash
        · rw [of_decide_eq_true hquote, quoting.escape_quote]
        · rw [of_decide_eq_true hbackslash, quoting.escape_backslash]
      rw [List.flatMap_cons, hescape, List.takeWhile_cons_of_pos hc]
      simp only [List.cons_append, List.nil_append]
      rw [List.takeWhile_cons_of_pos (by decide), List.takeWhile_cons_of_pos hc]
      simp only [List.length_cons]
      omega
    · rw [List.takeWhile_cons_of_neg hc]
      exact Nat.zero_le _

theorem lead_lt_quoted (path : String) : lead path < lead (quoting.quoted path) := by
  have hescape := @length_takeWhile_escape quoting path.toList ['"']
  unfold lead Quoting.quoted
  rw [String.toList_ofList, List.cons_append, List.takeWhile_cons_of_pos (by decide),
    List.length_cons]
  exact Nat.lt_succ_of_le hescape

theorem special_quoted (path : String) : quoting.special (quoting.quoted path) = true := by
  refine quoting.special_of_quote _ ?_
  rw [Quoting.quoted, String.toList_ofList, List.cons_append]
  exact List.mem_cons_self

theorem lead_below (path below : String) : lead (path ++ "/" ++ below) = lead (path ++ "/") := by
  have htake : ∀ chars rest : List Char, (chars ++ '/' :: rest).takeWhile isEscaped =
      (chars ++ ['/']).takeWhile isEscaped := by
    intro chars rest
    induction chars with
    | nil =>
        have hslash : ¬ isEscaped '/' = true := by decide
        rw [List.nil_append, List.nil_append, List.takeWhile_cons_of_neg hslash,
          List.takeWhile_cons_of_neg hslash]
    | cons c chars ih =>
        rw [List.cons_append, List.cons_append, List.takeWhile_cons, List.takeWhile_cons, ih]
  unfold lead
  have hchars : (path ++ "/" ++ below).toList = path.toList ++ '/' :: below.toList := by simp
  have hchars' : (path ++ "/").toList = path.toList ++ ['/'] := by simp
  rw [hchars, hchars', htake]

theorem file_of_mem_files {change : Change} {path : String} (h : path ∈ change.files) :
    ∃ c ∈ path.toList.getLast?, c ≠ '/' := by
  cases change with
  | file index tree path' =>
    obtain rfl := List.mem_singleton.mp h
    exact path'.file
  | renamed index tree old new =>
    rcases List.mem_cons.mp h with rfl | h
    · exact old.file
    · obtain rfl := List.mem_singleton.mp h
      exact new.file
  | directory index tree path' inside hinside =>
    obtain ⟨f, -, rfl⟩ := List.mem_map.mp h
    obtain ⟨c, hc, hslash⟩ := f.file
    refine ⟨c, ?_, hslash⟩
    rw [String.toList_append, List.getLast?_append, Option.mem_def.mp hc]
    rfl

theorem slash_notMem_files {path : String} : path ++ "/" ∉ changes.flatMap Change.files := by
  intro h
  obtain ⟨change, -, hpath⟩ := List.mem_flatMap.mp h
  obtain ⟨c, hc, hslash⟩ := file_of_mem_files hpath
  rw [String.toList_append, List.getLast?_append] at hc
  exact hslash (Option.some.inj hc).symm

theorem files_ne_nil (change : Change) : change.files ≠ [] := by
  cases change with
  | file => exact List.cons_ne_nil _ _
  | renamed => exact List.cons_ne_nil _ _
  | directory index tree path inside hinside => simpa [Change.files] using hinside

theorem length_le_files : changes.length ≤ (changes.flatMap Change.files).length := by
  induction changes with
  | nil => exact Nat.le_refl 0
  | cons change changes ih =>
    have hpositive := List.length_pos_iff.mpr (files_ne_nil change)
    rw [List.flatMap_cons, List.length_append, List.length_cons]
    omega

theorem files_eq_singleton (h : changes.length = (changes.flatMap Change.files).length) :
    ∀ change ∈ changes, ∃ path, change.files = [path] := by
  induction changes with
  | nil => simp
  | cons first changes ih =>
    have hpositive := List.length_pos_iff.mpr (files_ne_nil first)
    have hrest := @length_le_files changes
    rw [List.flatMap_cons, List.length_append, List.length_cons] at h
    intro change hchange
    rcases List.mem_cons.mp hchange with rfl | hchange
    · exact List.length_eq_one_iff.mp (by omega)
    · exact ih (by omega) change hchange

theorem exists_special_above
    (hperm : (changes.map (Change.payload quoting)).Perm (changes.flatMap Change.files))
    {path : String} (hpath : path ∈ changes.flatMap Change.files)
    (hspecial : quoting.special path = true) :
    ∃ path' ∈ changes.flatMap Change.files, quoting.special path' = true ∧
      lead path < lead path' := by
  have hlength : changes.length = (changes.flatMap Change.files).length := by
    rw [← hperm.length_eq, List.length_map]
  obtain ⟨change, hchange, hmem⟩ := List.mem_flatMap.mp hpath
  obtain ⟨only, honly⟩ := files_eq_singleton hlength change hchange
  have hpayload := hperm.mem_iff.mp (List.mem_map_of_mem hchange)
  rw [honly, List.mem_singleton] at hmem
  subst hmem
  cases change with
  | file index tree path' =>
    obtain rfl : path'.text = path := List.singleton_inj.mp honly
    rw [Change.payload, Quoting.shown, if_pos hspecial] at hpayload
    exact ⟨_, hpayload, special_quoted _, lead_lt_quoted _⟩
  | renamed index tree old new => simp [Change.files] at honly
  | directory index tree path' inside hinside =>
    rw [Change.payload, Quoting.shown] at hpayload
    split at hpayload
    · obtain ⟨f, -, rfl⟩ : ∃ f ∈ inside, path' ++ "/" ++ f.text = path := by
        have hmem : path ∈ (Change.directory index tree path' inside hinside).files := by
          rw [honly]
          exact List.mem_singleton_self _
        exact List.mem_map.mp hmem
      refine ⟨_, hpayload, special_quoted _, ?_⟩
      rw [lead_below]
      exact lead_lt_quoted _
    · exact absurd hpayload slash_notMem_files

/-- What follows the letters of the entries is the paths of the files exactly when all entries
are files whose paths are printed as they are. -/
theorem payloads_perm_iff :
    (changes.map (Change.payload quoting)).Perm (changes.flatMap Change.files) ↔
      ∀ change ∈ changes, change.Plain quoting := by
  constructor
  · intro hperm
    have hplain : ∀ path ∈ changes.flatMap Change.files, quoting.special path = false := by
      -- a special path would give rise to ones with more and more escaped characters
      intro path hpath
      by_contra hspecial
      have hladder : ∀ count, ∃ path' ∈ changes.flatMap Change.files,
          quoting.special path' = true ∧ count ≤ lead path' := by
        intro count
        induction count with
        | zero => exact ⟨path, hpath, by simpa using hspecial, Nat.zero_le _⟩
        | succ count ih =>
            obtain ⟨path', hpath', hspecial', hcount⟩ := ih
            obtain ⟨next, hnext, hspecial'', hlt⟩ := exists_special_above hperm hpath' hspecial'
            exact ⟨next, hnext, hspecial'', Nat.le_trans (Nat.succ_le_succ hcount) hlt⟩
      obtain ⟨bound, hbound⟩ : ∃ bound, ∀ path' ∈ changes.flatMap Change.files,
          lead path' ≤ bound := by
        generalize changes.flatMap Change.files = paths
        induction paths with
        | nil => exact ⟨0, by simp⟩
        | cons first paths ih =>
            obtain ⟨bound, hbound⟩ := ih
            refine ⟨max (lead first) bound, fun path' hpath' => ?_⟩
            rcases List.mem_cons.mp hpath' with rfl | hpath'
            · exact Nat.le_max_left _ _
            · exact Nat.le_trans (hbound path' hpath') (Nat.le_max_right _ _)
      obtain ⟨path', hpath', -, hcount⟩ := hladder (bound + 1)
      exact absurd (hbound path' hpath') (by omega)
    have hlength : changes.length = (changes.flatMap Change.files).length := by
      rw [← hperm.length_eq, List.length_map]
    intro change hchange
    obtain ⟨only, honly⟩ := files_eq_singleton hlength change hchange
    have hpayload := hperm.mem_iff.mp (List.mem_map_of_mem hchange)
    cases change with
    | file index tree path =>
        exact ⟨index, tree, path, rfl, hplain path.text
          (List.mem_flatMap.mpr ⟨_, hchange, List.mem_singleton_self _⟩)⟩
    | renamed index tree old new => simp [Change.files] at honly
    | directory index tree path inside hinside =>
        exfalso
        rw [Change.payload, Quoting.shown] at hpayload
        split at hpayload
        · exact absurd (hplain _ hpayload) (by rw [special_quoted]; decide)
        · exact slash_notMem_files hpayload
  · intro hplain
    have hsame : changes.map (Change.payload quoting) = changes.flatMap Change.files := by
      induction changes with
      | nil => rfl
      | cons change changes ih =>
          obtain ⟨index, tree, path, rfl, hspecial⟩ := hplain change List.mem_cons_self
          rw [List.map_cons, List.flatMap_cons,
            ih fun other hother => hplain other (List.mem_cons_of_mem _ hother)]
          simp [Change.payload, Change.files, Quoting.shown, hspecial]
    rw [hsame]

end Payloads

/-! ## The returned paths -/

section Status

variable {setting : Setting} {provider : LocalGitProvider} {quoting : Quoting}
  {changes : List Change} {status : GitStatus}

/-- What a status is meant to be: the listing was neither cut nor redacted, the paths are those
of the changed files, and a clean tree has none. -/
structure FaithfulStatus (runner : LocalCommandRunner) (quoting : Quoting)
    (changes : List Change) (status : GitStatus) : Prop where
  whole : (bytes (listing quoting changes)).length ≤ runner.maxOutputBytes
  unredacted : ∀ value ∈ runner.baseEnvironment.map Prod.snd, value ≠ "" →
    ¬ Occurs value (listing quoting changes)
  paths : status.changedPaths.Perm (changes.flatMap Change.files)
  clean : status.clean = true → changes.flatMap Change.files = []

/-- Git prints the changes of the tree, if it succeeds. -/
def Prints (provider : LocalGitProvider) (quoting : Quoting) (changes : List Change) : Prop :=
  ∀ stdout stderr, (provider.git ["status", "--porcelain"]).outcome = .completed 0 stdout stderr →
    stdout = bytes (listing quoting changes)

theorem run_ok {path arguments : List String} {result : CommandResult}
    (h : provider.run setting path arguments = .ok result) :
    provider.runner.execute setting (gitRequest path arguments) (provider.git arguments) =
      .ok result ∧ result.exitCode = 0 := by
  unfold LocalGitProvider.run at h
  split at h
  · cases h
  · rename_i result' hresult
    split at h
    · cases h
    · rename_i hcode
      cases h
      exact ⟨hresult, not_not.mp hcode⟩

theorem status_ok (h : provider.status setting = .ok status) :
    ∃ path result, provider.run setting path ["status", "--porcelain"] = .ok result ∧
      status.changedPaths =
        (splitLines [] result.stdout.toList).map (fun line => String.ofList (line.drop 3)) ∧
      status.clean = status.changedPaths.isEmpty := by
  unfold LocalGitProvider.status at h
  obtain ⟨path, -, h⟩ := Checks.bind_ok_iff.mp h
  obtain ⟨result, hresult, h⟩ := Checks.bind_ok_iff.mp h
  obtain ⟨branch, -, h⟩ := Checks.bind_ok_iff.mp h
  cases h
  exact ⟨path, result, hresult, rfl, rfl⟩

/-- The paths of a listing that is neither cut nor redacted follow the letters of its entries. -/
theorem changedPaths_eq (hgit : Prints provider quoting changes)
    (h : provider.status setting = .ok status)
    (hwhole : (bytes (listing quoting changes)).length ≤ provider.runner.maxOutputBytes)
    (hunredacted : ∀ value ∈ provider.runner.baseEnvironment.map Prod.snd, value ≠ "" →
      ¬ Occurs value (listing quoting changes)) :
    status.changedPaths = changes.map (Change.payload quoting) := by
  obtain ⟨path, result, hrun, hpaths, -⟩ := status_ok h
  obtain ⟨hexecute, hcode⟩ := run_ok hrun
  obtain ⟨environment, exitCode, stdout, stderr, henvironment, houtcome, hexit, hstdout, -, -⟩ :=
    execute_ok hexecute
  rw [hcode] at hexit
  rw [← hexit] at houtcome
  have htake : (bytes (listing quoting changes)).take provider.runner.maxOutputBytes =
      bytes (listing quoting changes) := List.take_of_length_le hwhole
  have habsent : ∀ value ∈ provider.runner.redactions environment,
      ¬ Occurs value (listing quoting changes) := by
    intro value hvalue
    obtain ⟨hne, hbase | hrequest⟩ := (mem_redactions_iff henvironment).mp hvalue
    · exact hunredacted value hbase hne
    · exact absurd hrequest List.not_mem_nil
  rw [hgit stdout stderr houtcome, bounded_of_absent, htake, bytes, setting.decode_toUTF8]
    at hstdout
  · rw [hpaths, hstdout, splitLines_listing, List.map_map]
    exact List.map_congr_left fun change _ => drop_line change
  · rw [htake, bytes, setting.decode_toUTF8]
    exact habsent

end Status

/-- A returned status is what it is meant to be exactly when the listing fits into the limit, holds
no value of the environment, and has only entries of single files whose paths need no quotes. -/
theorem status_faithful_iff (setting : Setting) (provider : LocalGitProvider) (quoting : Quoting)
    (changes : List Change) (status : GitStatus) (hgit : Prints provider quoting changes)
    (h : provider.status setting = .ok status) :
    FaithfulStatus provider.runner quoting changes status ↔
      (bytes (listing quoting changes)).length ≤ provider.runner.maxOutputBytes ∧
      (∀ value ∈ provider.runner.baseEnvironment.map Prod.snd, value ≠ "" →
        ¬ Occurs value (listing quoting changes)) ∧
      ∀ change ∈ changes, change.Plain quoting := by
  constructor
  · rintro ⟨hwhole, hunredacted, hpaths, -⟩
    rw [changedPaths_eq hgit h hwhole hunredacted] at hpaths
    exact ⟨hwhole, hunredacted, payloads_perm_iff.mp hpaths⟩
  · rintro ⟨hwhole, hunredacted, hplain⟩
    have hpaths := changedPaths_eq hgit h hwhole hunredacted
    refine ⟨hwhole, hunredacted, ?_, fun hclean => ?_⟩
    · rw [hpaths]
      exact payloads_perm_iff.mpr hplain
    · obtain ⟨-, -, -, -, hempty⟩ := status_ok h
      rw [hempty, hpaths, List.isEmpty_iff, List.map_eq_nil_iff] at hclean
      rw [hclean]
      rfl

/-! ## A renamed file -/

/-- Paths with a blank or a quotation mark are quoted, those with a line break too. -/
def plainQuoting : Quoting where
  special path := path.toList.any fun c => c = ' ' || isEscaped c || isLineBreak c
  escape c := if isEscaped c then ['\\', c] else if isLineBreak c then ['\\', 'n'] else [c]
  special_of_quote path h := List.any_eq_true.mpr ⟨'"', h, by decide⟩
  escape_quote := by decide
  escape_backslash := by decide
  escape_line c d hd := by
    have hbackslash : isLineBreak '\\' = false := by decide
    have hn : isLineBreak 'n' = false := by decide
    by_cases hescaped : isEscaped c = true
    · rw [if_pos hescaped] at hd
      rcases List.mem_cons.mp hd with rfl | hd
      · exact hbackslash
      · obtain rfl := List.mem_singleton.mp hd
        rcases Bool.or_eq_true_iff.mp hescaped with hquote | hslash
        · rw [of_decide_eq_true hquote]
          decide
        · rw [of_decide_eq_true hslash]
          decide
    · rw [if_neg hescaped] at hd
      by_cases hline : isLineBreak c = true
      · rw [if_pos hline] at hd
        rcases List.mem_cons.mp hd with rfl | hd
        · exact hbackslash
        · obtain rfl := List.mem_singleton.mp hd
          exact hn
      · rw [if_neg hline] at hd
        obtain rfl := List.mem_singleton.mp hd
        simpa using hline
  plain_line path h c hc := by
    rw [List.any_eq_false] at h
    have hc' := h c hc
    simp only [Bool.or_eq_true, not_or] at hc'
    simpa using hc'.2

/-- A file with a short name. -/
def fileA : FilePath := ⟨"a", 'a', by decide, by decide⟩

/-- Another one. -/
def fileB : FilePath := ⟨"b", 'b', by decide, by decide⟩

def printing (changes : List Change) : LocalGitProvider where
  runner :=
    { workspaceRoot := ["work"]
      allowedExecutables := ["git"]
      baseEnvironment := [("PATH", "/usr/bin")] }
  repository := .ok ["work"]
  git arguments :=
    { outcome := .completed 0
        (bytes (if arguments = ["status", "--porcelain"] then listing plainQuoting changes
          else "main\n")) [] }
  blank c := c = ' ' || c = '\n'

theorem prints_printing (changes : List Change) :
    Prints (printing changes) plainQuoting changes := by
  intro stdout stderr h
  cases h
  rfl

/-- A modified file is returned as it is. -/
theorem status_faithful_modified : ∃ status,
    (printing [.file .blank .modified fileA]).status plainSystem = .ok status ∧
      FaithfulStatus (printing [.file .blank .modified fileA]).runner plainQuoting
        [.file .blank .modified fileA] status := by
  obtain ⟨status, h⟩ : ∃ status,
      (printing [.file .blank .modified fileA]).status plainSystem = .ok status := ⟨_, rfl⟩
  refine ⟨status, h, (status_faithful_iff plainSystem _ plainQuoting _ status
    (prints_printing _) h).mpr ⟨by decide, ?_, ?_⟩⟩
  · intro value hvalue _
    obtain rfl := List.mem_singleton.mp hvalue
    decide
  · intro change hchange
    obtain rfl := List.mem_singleton.mp hchange
    exact ⟨_, _, _, rfl, by decide⟩

/-- A rename is returned as one path that no file has. -/
theorem not_status_faithful :
    ¬ ∀ (setting : Setting) (provider : LocalGitProvider) (quoting : Quoting)
      (changes : List Change) (status : GitStatus), Prints provider quoting changes →
      provider.status setting = .ok status →
      FaithfulStatus provider.runner quoting changes status := by
  intro h
  have hstatus : (printing [.renamed .renamed .blank fileA fileB]).status plainSystem = .ok _ :=
    rfl
  obtain ⟨hwhole, hunredacted, hpaths, -⟩ := h plainSystem _ plainQuoting _ _
    (prints_printing [.renamed .renamed .blank fileA fileB]) hstatus
  have hlength := hpaths.length_eq
  rw [changedPaths_eq (prints_printing _) hstatus hwhole hunredacted] at hlength
  exact absurd hlength (by decide)

end Tools
end Ascos
