import Ascos.Library.Joined
import Ascos.Persistence.Stream

/-!
# Checkpoint files

The file provider of `runtime/persistence/file_store.py`.  A checkpoint is one file, whose
name joins the identifier of its runtime and its own; files are found by patterns for the
beginning or the end of a name.

Main results:

- Theorem `namespace_exact_iff`: the names tell the checkpoints of any saves apart exactly
  when no name can be read with another runtime, and no identifier ends like another one.
-/

namespace Ascos
namespace Persistence

open Library

/-! ## Names -/

/-- A character of `SAFE_ID`. -/
def isSafeChar (c : Char) : Bool :=
  c.isAlphanum || c == '_' || c == '.' || c == '-'

/-- `SAFE_ID.fullmatch`. -/
def matchesSafeId : List Char → Bool
  | [] => false
  | first :: rest => first.isAlphanum && rest.length ≤ 127 && rest.all isSafeChar

def validateId (value name : String) : Except Failure Unit := do
  if matchesSafeId value.toList = false then
    throw (.persistenceConfiguration s!"Unsafe {name}")
  if ['.', '.'] <:+: value.toList then
    throw (.persistenceConfiguration s!"Unsafe {name}")

/-- The end of every name. -/
def checkpointSuffix : String := ".checkpoint.json"

/-- The name that `_path` gives a checkpoint. -/
def checkpointName (runtimeId checkpointId : String) : String :=
  runtimeId ++ "--" ++ checkpointId ++ checkpointSuffix

/-- A file of the storage directory. -/
structure CheckpointFile where
  name : String
  document : Document
  modified : Nat

/-- A name matches the pattern of a text, an asterisk and another text. -/
def globMatches (front back name : String) : Prop :=
  front.toList <+: name.toList ∧ back.toList <:+ name.toList ∧
    front.length + back.length ≤ name.length

instance (front back name : String) : Decidable (globMatches front back name) :=
  inferInstanceAs (Decidable (_ ∧ _))

/-- `sorted(glob(...))`. -/
def sortedGlob (front back : String) (files : List CheckpointFile) : List CheckpointFile :=
  (files.filter fun file => globMatches front back file.name).insertionSort
    fun a b => a.name ≤ b.name

/-! ## The provider -/

/-- `save_checkpoint`, at a modification time. -/
def saveCheckpoint (files : List CheckpointFile) (checkpoint : CheckpointFields)
    (modified : Nat) : Except Failure (List CheckpointFile) := do
  validateId checkpoint.runtimeId "runtime_id"
  validateId checkpoint.id "checkpoint_id"
  let name := checkpointName checkpoint.runtimeId checkpoint.id
  if ∃ file ∈ files, file.name = name then
    throw (.duplicateCheckpoint s!"Checkpoint '{checkpoint.id}' already exists")
  pure (files ++ [{ name, document := toDocument checkpoint, modified }])

variable (P : Platform)

/-- `_read`. -/
def readFile (file : CheckpointFile) : Except Failure CheckpointFields :=
  fromDocument P file.document

def loadCheckpoint (files : List CheckpointFile) (checkpointId : String) :
    Except Failure CheckpointFields := do
  validateId checkpointId "checkpoint_id"
  match sortedGlob "" ("--" ++ checkpointId ++ checkpointSuffix) files with
  | [file] => readFile P file
  | _ => throw (.checkpointNotFound s!"Checkpoint '{checkpointId}' was not found")

/-- The files that `list_checkpoints` and `select_latest_checkpoint` look at. -/
def runtimeFiles (files : List CheckpointFile) (runtimeId : String) : List CheckpointFile :=
  sortedGlob (runtimeId ++ "--") checkpointSuffix files

/-! ## What the names have to keep apart -/

variable {P}

/-- The files after some saves, of which some may be refused. -/
def savedFiles (saves : List (RuntimeCheckpoint P × Nat)) : List CheckpointFile :=
  saves.foldl (fun files save =>
    match saveCheckpoint files save.1.toCheckpointFields save.2 with
    | .ok files' => files'
    | .error _ => files) []

/-- The names tell the saved checkpoints apart, for every accepted identifier. -/
structure NamespaceExact (P : Platform) (files : List CheckpointFile) : Prop where
  /-- A pair of identifiers that was not saved has a name that is free. -/
  distinct : ∀ runtimeId checkpointId, validateId runtimeId "runtime_id" = .ok () →
    validateId checkpointId "checkpoint_id" = .ok () →
      (∀ file ∈ files, file.document.runtimeId = runtimeId → file.document.id ≠ checkpointId) →
        ∀ file ∈ files, file.name ≠ checkpointName runtimeId checkpointId
  /-- Listing and selection look at the files of the runtime. -/
  considered : ∀ runtimeId, validateId runtimeId "runtime_id" = .ok () →
    ∀ file ∈ files, file ∈ runtimeFiles files runtimeId ↔ file.document.runtimeId = runtimeId
  /-- The only checkpoint with an identifier is found. -/
  loaded : ∀ checkpointId, validateId checkpointId "checkpoint_id" = .ok () →
    ∀ file ∈ files, file.document.id = checkpointId →
      (∀ other ∈ files, other.document.id = checkpointId → other = file) →
        loadCheckpoint P files checkpointId = readFile P file

/-- There are no two hyphens in a row in the identifier of the runtime with the separator's first
one, and none in the identifier of the checkpoint that are near enough to the beginning of the
name to follow an identifier of a runtime. -/
def Separable (runtimeId checkpointId : String) : Prop :=
  ¬['-', '-'] <:+: runtimeId.toList ++ ['-'] ∧
    ∀ middle right, checkpointId.toList = Joined.join '-' middle right →
      128 < runtimeId.toList.length + middle.length + 2

/-- Every saved pair of identifiers is separable, and the identifier of a single checkpoint is
not what another identifier ends with after two hyphens. -/
def Distinguishable (files : List CheckpointFile) : Prop :=
  (∀ file ∈ files, Separable file.document.runtimeId file.document.id) ∧
    ∀ file ∈ files, (∀ other ∈ files, other.document.id = file.document.id → other = file) →
      ∀ other ∈ files, ¬ '-' :: '-' :: file.document.id.toList <:+ other.document.id.toList

/-! ## Safe identifiers -/

/-- Characters that make an accepted identifier. -/
def SafeChars (chars : List Char) : Prop :=
  matchesSafeId chars = true ∧ ¬['.', '.'] <:+: chars

theorem validateId_ok_iff {value name : String} :
    validateId value name = .ok () ↔ SafeChars value.toList := by
  unfold validateId SafeChars
  by_cases hsafe : matchesSafeId value.toList = true
  · by_cases hdots : ['.', '.'] <:+: value.toList
    · simp [hsafe, hdots, throw, throwThe, MonadExceptOf.throw]
    · simp [hsafe, hdots, pure, Except.pure]
  · simp [hsafe, bind, Except.bind, throw, throwThe, MonadExceptOf.throw]

theorem matchesSafeId_iff {chars : List Char} :
    matchesSafeId chars = true ↔ (∃ first, chars.head? = some first ∧ first.isAlphanum = true) ∧
      chars.length ≤ 128 ∧ ∀ c ∈ chars, isSafeChar c = true := by
  cases chars with
  | nil => simp [matchesSafeId]
  | cons first rest =>
    have hfirst : first.isAlphanum = true → isSafeChar first = true := by
      intro h
      simp [isSafeChar, h]
    simp only [matchesSafeId, Bool.and_eq_true, decide_eq_true_eq, List.all_eq_true,
      List.head?_cons, Option.some.injEq, exists_eq_left', List.length_cons,
      List.forall_mem_cons]
    constructor
    · rintro ⟨⟨halnum, hlength⟩, hrest⟩
      exact ⟨halnum, by omega, hfirst halnum, hrest⟩
    · rintro ⟨halnum, hlength, -, hrest⟩
      exact ⟨⟨halnum, by omega⟩, hrest⟩

/-- An identifier does not start with a hyphen. -/
theorem SafeChars.head?_ne {chars : List Char} (h : SafeChars chars) :
    chars.head? ≠ some '-' := by
  obtain ⟨⟨first, hfirst, halnum⟩, -, -⟩ := matchesSafeId_iff.mp h.1
  rw [hfirst]
  rintro ⟨rfl⟩
  exact absurd halnum (by decide)

theorem SafeChars.length_le {chars : List Char} (h : SafeChars chars) : chars.length ≤ 128 :=
  (matchesSafeId_iff.mp h.1).2.1

/-- The beginning of a joined name up to two hyphens is an identifier, unless it is too long. -/
theorem SafeChars.of_reading {first second left right : List Char} (hfirst : SafeChars first)
    (hsecond : SafeChars second)
    (h : Joined.join '-' left right = Joined.join '-' first second) (hlength : left.length ≤ 128) :
    SafeChars left := by
  obtain ⟨⟨initial, hinitial, halnum⟩, -, hchars⟩ := matchesSafeId_iff.mp hfirst.1
  obtain ⟨-, -, hchars'⟩ := matchesSafeId_iff.mp hsecond.1
  have hmem : ∀ c ∈ left, c ∈ Joined.join '-' first second := by
    intro c hc
    rw [← h]
    exact List.mem_append_left _ hc
  refine ⟨matchesSafeId_iff.mpr ⟨?_, hlength, ?_⟩, ?_⟩
  · cases left with
    | nil =>
        have hhead := congrArg List.head? h
        simp only [Joined.join, List.nil_append, List.head?_cons, List.head?_append, hinitial,
          Option.some_or] at hhead
        rw [← Option.some.inj hhead] at halnum
        exact absurd halnum (by decide)
    | cons c left =>
        have hhead := congrArg List.head? h
        simp only [Joined.join, List.cons_append, List.head?_cons, List.head?_append, hinitial,
          Option.some_or] at hhead
        exact ⟨initial, hhead, halnum⟩
  · intro c hc
    rcases List.mem_append.mp (hmem c hc) with hc | hc
    · exact hchars c hc
    · rcases List.mem_cons.mp hc with rfl | hc
      · rfl
      · rcases List.mem_cons.mp hc with rfl | hc
        · rfl
        · exact hchars' c hc
  · intro hdots
    have hall : ['.', '.'] <:+: first ++ '-' :: '-' :: second := by
      refine hdots.trans (List.IsPrefix.isInfix ⟨'-' :: '-' :: right, ?_⟩)
      exact h
    rcases Joined.pair_infix_append_cons (by decide) hall with hdots | hdots
    · exact hfirst.2 hdots
    · rcases @Joined.pair_infix_append_cons _ [] _ _ _ (by decide) hdots with hdots | hdots
      · simp at hdots
      · exact hsecond.2 hdots

/-! ## Patterns -/

theorem toList_checkpointName (runtimeId checkpointId : String) :
    (checkpointName runtimeId checkpointId).toList =
      Joined.join '-' runtimeId.toList checkpointId.toList ++ checkpointSuffix.toList := by
  simp [checkpointName, Joined.join]

theorem globMatches_iff {front back name : String} :
    globMatches front back name ↔
      ∃ middle, name.toList = front.toList ++ middle ++ back.toList := by
  unfold globMatches
  constructor
  · rintro ⟨⟨rest, hrest⟩, hback, hlength⟩
    rw [← String.length_toList, ← String.length_toList, ← String.length_toList] at hlength
    have hsuffix : back.toList <:+ rest := by
      rw [← hrest] at hback hlength
      rw [List.length_append] at hlength
      exact List.suffix_of_suffix_length_le hback (List.suffix_append _ _) (by omega)
    obtain ⟨middle, rfl⟩ := hsuffix
    exact ⟨middle, by rw [← hrest, List.append_assoc]⟩
  · rintro ⟨middle, hname⟩
    rw [← String.length_toList, ← String.length_toList, ← String.length_toList, hname]
    refine ⟨⟨middle ++ back.toList, by simp⟩, ⟨front.toList ++ middle, rfl⟩, ?_⟩
    simp only [List.length_append]
    omega

theorem globMatches_runtime {runtimeId otherRuntime other : String} :
    globMatches (runtimeId ++ "--") checkpointSuffix (checkpointName otherRuntime other) ↔
      ∃ right, Joined.join '-' runtimeId.toList right =
        Joined.join '-' otherRuntime.toList other.toList := by
  rw [globMatches_iff, toList_checkpointName]
  refine exists_congr fun right => ?_
  rw [List.append_cancel_right_eq, String.toList_append, eq_comm]
  simp [Joined.join]

theorem globMatches_checkpoint {checkpointId otherRuntime other : String} :
    globMatches "" ("--" ++ checkpointId ++ checkpointSuffix) (checkpointName otherRuntime other) ↔
      ∃ left, Joined.join '-' left checkpointId.toList =
        Joined.join '-' otherRuntime.toList other.toList := by
  rw [globMatches_iff, toList_checkpointName]
  refine exists_congr fun left => ?_
  rw [String.toList_append, String.toList_append, ← List.append_assoc,
    List.append_cancel_right_eq, eq_comm]
  simp [Joined.join]

theorem mem_sortedGlob {front back : String} {files : List CheckpointFile}
    {file : CheckpointFile} : file ∈ sortedGlob front back files ↔
      file ∈ files ∧ globMatches front back file.name := by
  rw [sortedGlob, List.mem_insertionSort, List.mem_filter, decide_eq_true_eq]

/-! ## What saving keeps -/

/-- Files have the names of their checkpoints, whose identifiers are accepted, and no two have
the same name. -/
structure Named (files : List CheckpointFile) : Prop where
  named : ∀ file ∈ files, file.name = checkpointName file.document.runtimeId file.document.id
  safe : ∀ file ∈ files, SafeChars file.document.runtimeId.toList ∧
    SafeChars file.document.id.toList
  unique : files.Pairwise fun file other => file.name ≠ other.name

theorem Named.save {files files' : List CheckpointFile} (h : Named files)
    {checkpoint : CheckpointFields} {modified : Nat}
    (hsave : saveCheckpoint files checkpoint modified = .ok files') : Named files' := by
  rw [saveCheckpoint, Checks.check_ok_iff, Checks.check_ok_iff] at hsave
  obtain ⟨hruntime, hid, hsave⟩ := hsave
  obtain ⟨hfree, hfiles⟩ := Checks.guard_ok_iff.mp hsave
  obtain rfl := Checks.pure_ok_iff.mp hfiles
  constructor
  · intro file hfile
    rcases List.mem_append.mp hfile with hfile | hfile
    · exact h.named file hfile
    · obtain rfl := List.mem_singleton.mp hfile
      rfl
  · intro file hfile
    rcases List.mem_append.mp hfile with hfile | hfile
    · exact h.safe file hfile
    · obtain rfl := List.mem_singleton.mp hfile
      exact ⟨validateId_ok_iff.mp hruntime, validateId_ok_iff.mp hid⟩
  · refine List.pairwise_append.mpr ⟨h.unique, List.pairwise_singleton _ _, ?_⟩
    intro file hfile new hnew heq
    obtain rfl := List.mem_singleton.mp hnew
    exact hfree ⟨file, hfile, heq⟩

theorem named_savedFiles (saves : List (RuntimeCheckpoint P × Nat)) :
    Named (savedFiles saves) := by
  have hfold : ∀ files : List CheckpointFile, Named files →
      Named (saves.foldl (fun files save =>
        match saveCheckpoint files save.1.toCheckpointFields save.2 with
        | .ok files' => files'
        | .error _ => files) files) := by
    induction saves with
    | nil => exact fun _ h => h
    | cons save saves ih =>
        intro files h
        rw [List.foldl_cons]
        apply ih
        cases hsave : saveCheckpoint files save.1.toCheckpointFields save.2 with
        | ok files' => exact h.save hsave
        | error failure => exact h
  refine hfold [] ⟨?_, ?_, List.Pairwise.nil⟩
  · exact fun _ hfile => absurd hfile List.not_mem_nil
  · exact fun _ hfile => absurd hfile List.not_mem_nil

/-! ## Readings of a name -/

theorem Separable.reading {runtimeId checkpointId : String} (h : Separable runtimeId checkpointId)
    (hsafe : SafeChars checkpointId.toList) {left right : List Char} (hleft : left.length ≤ 128)
    (heq : Joined.join '-' left right = Joined.join '-' runtimeId.toList checkpointId.toList) :
    left = runtimeId.toList ∧ right = checkpointId.toList := by
  rcases Joined.reading_cases hsafe.head?_ne heq with hsame | ⟨-, hinfix⟩ | ⟨middle, rfl, hright⟩
  · exact hsame
  · exact absurd hinfix h.1
  · have hlength := h.2 middle right hright
    rw [Joined.length_join] at hleft
    omega

theorem separable_of_reading {runtimeId checkpointId : String}
    (hruntime : SafeChars runtimeId.toList)
    (h : ∀ left right, left.length ≤ 128 →
      Joined.join '-' left right = Joined.join '-' runtimeId.toList checkpointId.toList →
        left = runtimeId.toList) : Separable runtimeId checkpointId := by
  constructor
  · intro hinfix
    obtain ⟨left, right, heq, hlength⟩ :=
      Joined.exists_reading_of_infix hinfix checkpointId.toList
    have hsame := h left right (hlength.le.trans hruntime.length_le) heq
    rw [hsame] at hlength
    exact Nat.lt_irrefl _ hlength
  · intro middle right hright
    by_contra hshort
    have hlength : (Joined.join '-' runtimeId.toList middle).length ≤ 128 := by
      rw [Joined.length_join]
      omega
    have hsame := h _ right hlength (by rw [Joined.join_assoc, hright])
    have hlonger := congrArg List.length hsame
    rw [Joined.length_join] at hlonger
    omega

theorem raises_requireString {p : Failure → Prop} (hp : ∀ text, p (.validation text))
    (value fieldName : String) : Checks.Raises p (requireString value fieldName) := by
  unfold requireString
  exact Checks.Raises.ite (Checks.raises_throw (hp _)) Checks.raises_pure

theorem raises_check {p : Failure → Prop} (hvalidation : ∀ text, p (.validation text))
    (hversion : ∀ text, p (.unsupportedCheckpointVersion text))
    (hintegrity : ∀ text, p (.persistenceIntegrity text)) (P : Platform)
    (fields : CheckpointFields) : Checks.Raises p (fields.check P) := by
  unfold CheckpointFields.check
  refine (raises_requireString hvalidation _ _).bind fun _ => ?_
  refine (raises_requireString hvalidation _ _).bind fun _ => ?_
  refine (raises_requireString hvalidation _ _).bind fun _ => ?_
  refine Checks.Raises.guard (hversion _) ?_
  refine Checks.Raises.guard (hintegrity _) ?_
  refine Checks.Raises.guard (hintegrity _) ?_
  exact Checks.Raises.ite (Checks.raises_throw (hintegrity _)) Checks.raises_pure

theorem readFile_ne_notFound (P : Platform) (file : CheckpointFile) (message : String) :
    readFile P file ≠ .error (.checkpointNotFound message) := by
  have hraises : Checks.Raises (· ≠ .checkpointNotFound message) (readFile P file) := by
    unfold readFile fromDocument
    refine Checks.Raises.ite (Checks.raises_throw (by simp)) ?_
    split
    · exact Checks.raises_throw (by simp)
    · exact (raises_check (by simp) (by simp) (by simp) P _).bind fun _ => Checks.raises_pure
    · exact Checks.raises_throw (by simp)
  exact fun h => hraises _ h rfl

/-- The only file that a pattern matches. -/
theorem sortedGlob_eq_singleton {files : List CheckpointFile} {front back : String}
    {file : CheckpointFile} (hunique : files.Pairwise fun file other => file.name ≠ other.name)
    (hfile : file ∈ files) (hmatch : globMatches front back file.name)
    (honly : ∀ other ∈ files, globMatches front back other.name → other = file) :
    sortedGlob front back files = [file] := by
  have hmem : file ∈ sortedGlob front back files := mem_sortedGlob.mpr ⟨hfile, hmatch⟩
  have hsame : ∀ other ∈ sortedGlob front back files, other = file := by
    intro other hother
    obtain ⟨hfiles, hglob⟩ := mem_sortedGlob.mp hother
    exact honly other hfiles hglob
  have hnodup : (sortedGlob front back files).Nodup := by
    refine (List.perm_insertionSort _ _).nodup_iff.mpr ?_
    exact (hunique.imp fun hne heq => hne (congrArg CheckpointFile.name heq)).filter _
  match hlist : sortedGlob front back files, hmem, hsame, hnodup with
  | [], hmem, _, _ => cases hmem
  | [other], _, hsame, _ => rw [hsame other List.mem_cons_self]
  | first :: second :: rest, _, hsame, hnodup =>
    have hfirst := hsame first List.mem_cons_self
    have hsecond := hsame second (List.mem_cons_of_mem _ List.mem_cons_self)
    rw [hfirst, hsecond] at hnodup
    exact absurd List.mem_cons_self (List.nodup_cons.mp hnodup).1

/-! ## When the names are exact -/

theorem Named.distinguishable {files : List CheckpointFile} (hnamed : Named files)
    (h : NamespaceExact P files) : Distinguishable files := by
  constructor
  · intro file hfile
    obtain ⟨hruntime, hid⟩ := hnamed.safe file hfile
    refine separable_of_reading hruntime fun left right hlength heq => ?_
    have hleft := hruntime.of_reading hid heq hlength
    have hvalid : validateId (String.ofList left) "runtime_id" = .ok () :=
      validateId_ok_iff.mpr (by rwa [String.toList_ofList])
    -- the file is one of the files of the runtime that the reading gives
    have hmem : file ∈ runtimeFiles files (String.ofList left) := by
      refine mem_sortedGlob.mpr ⟨hfile, ?_⟩
      rw [hnamed.named file hfile]
      exact globMatches_runtime.mpr ⟨right, by rwa [String.toList_ofList]⟩
    rw [(h.considered _ hvalid file hfile).mp hmem, String.toList_ofList]
  · intro file hfile halone other hother hsuffix
    obtain ⟨hruntime, hid⟩ := hnamed.safe file hfile
    have hload := h.loaded file.document.id (validateId_ok_iff.mpr hid) file hfile rfl halone
    have hfound : file ∈ sortedGlob "" ("--" ++ file.document.id ++ checkpointSuffix) files := by
      refine mem_sortedGlob.mpr ⟨hfile, ?_⟩
      rw [hnamed.named file hfile]
      exact globMatches_checkpoint.mpr ⟨_, rfl⟩
    obtain ⟨middle, hmiddle⟩ := hsuffix
    have hother' : other ∈ sortedGlob "" ("--" ++ file.document.id ++ checkpointSuffix) files := by
      refine mem_sortedGlob.mpr ⟨hother, ?_⟩
      rw [hnamed.named other hother]
      refine globMatches_checkpoint.mpr
        ⟨Joined.join '-' other.document.runtimeId.toList middle, ?_⟩
      rw [Joined.join_assoc]
      exact congrArg (Joined.join '-' _) hmiddle
    rw [loadCheckpoint, validateId_ok_iff.mpr hid] at hload
    revert hload
    match sortedGlob "" ("--" ++ file.document.id ++ checkpointSuffix) files, hfound, hother' with
    | [], hfound, _ => cases hfound
    | [single], hfound, hother' =>
        intro _
        have hsame : other = file :=
          (List.mem_singleton.mp hother').trans (List.mem_singleton.mp hfound).symm
        have hlength := congrArg List.length hmiddle
        rw [hsame] at hlength
        simp only [List.length_append, List.length_cons] at hlength
        omega
    | _ :: _ :: _, _, _ => exact fun hload => readFile_ne_notFound P file _ hload.symm

theorem Named.exact {files : List CheckpointFile} (hnamed : Named files)
    (h : Distinguishable files) : NamespaceExact P files := by
  obtain ⟨hseparable, hends⟩ := h
  constructor
  · intro runtimeId checkpointId hruntime hid hnew file hfile hname
    rw [hnamed.named file hfile] at hname
    have hjoined := congrArg String.toList hname
    rw [toList_checkpointName, toList_checkpointName, List.append_cancel_right_eq] at hjoined
    obtain ⟨hsame, hsame'⟩ := (hseparable file hfile).reading (hnamed.safe file hfile).2
      (validateId_ok_iff.mp hruntime).length_le hjoined.symm
    exact hnew file hfile (String.toList_inj.mp hsame).symm (String.toList_inj.mp hsame').symm
  · intro runtimeId hruntime file hfile
    rw [runtimeFiles, mem_sortedGlob, hnamed.named file hfile, globMatches_runtime]
    constructor
    · rintro ⟨-, right, hright⟩
      have hreading := (hseparable file hfile).reading (hnamed.safe file hfile).2
        (validateId_ok_iff.mp hruntime).length_le hright
      exact (String.toList_inj.mp hreading.1).symm
    · rintro rfl
      exact ⟨hfile, _, rfl⟩
  · rintro checkpointId hid file hfile rfl halone
    have honly : ∀ other ∈ files,
        globMatches "" ("--" ++ file.document.id ++ checkpointSuffix) other.name → other = file := by
      intro other hother hmatch
      rw [hnamed.named other hother, globMatches_checkpoint] at hmatch
      obtain ⟨left, hleft⟩ := hmatch
      rcases Joined.reading_cases (hnamed.safe other hother).2.head?_ne hleft with
        ⟨-, hsame⟩ | ⟨-, hinfix⟩ | ⟨middle, -, hmiddle⟩
      · exact halone other hother (String.toList_inj.mp hsame).symm
      · exact absurd hinfix (hseparable other hother).1
      · exact absurd ⟨middle, hmiddle.symm⟩ (hends file hfile halone other hother)
    have hglob : sortedGlob "" ("--" ++ file.document.id ++ checkpointSuffix) files = [file] := by
      refine sortedGlob_eq_singleton hnamed.unique hfile ?_ honly
      rw [hnamed.named file hfile]
      exact globMatches_checkpoint.mpr ⟨_, rfl⟩
    rw [loadCheckpoint, hid, hglob]
    rfl

/-- After any saves, the names tell the checkpoints apart exactly when the saved identifiers are
distinguishable. -/
theorem namespace_exact_iff (P : Platform) (saves : List (RuntimeCheckpoint P × Nat)) :
    NamespaceExact P (savedFiles saves) ↔ Distinguishable (savedFiles saves) :=
  ⟨(named_savedFiles saves).distinguishable, (named_savedFiles saves).exact⟩

theorem hyphenFields_checked :
    (sealedFields "a--b" 0 (notePayload (.text "dark"))).check .literal = .ok () :=
  sealedFields_checked (by decide +kernel) rfl

theorem hyphenPayload_canonical :
    (Value.mapping (notePayload (.text "dark"))).Canonical :=
  notePayload_canonical trivial

/-- A checkpoint of a runtime whose identifier has two hyphens in a row. -/
def hyphenCheckpoint : RuntimeCheckpoint .literal where
  toCheckpointFields := sealedFields "a--b" 0 (notePayload (.text "dark"))
  checked := hyphenFields_checked
  canonical := hyphenPayload_canonical

theorem hyphenCheckpoint_saved : ∃ file ∈ savedFiles [(hyphenCheckpoint, 0)],
    file.document.runtimeId = "a--b" := by
  have hruntime : validateId hyphenCheckpoint.runtimeId "runtime_id" = .ok () :=
    validateId_ok_iff.mpr ⟨by decide +kernel, by decide +kernel⟩
  have hid : validateId hyphenCheckpoint.id "checkpoint_id" = .ok () :=
    validateId_ok_iff.mpr ⟨by decide +kernel, by decide +kernel⟩
  have hsave : saveCheckpoint [] hyphenCheckpoint.toCheckpointFields 0 = .ok
      [{ name := checkpointName hyphenCheckpoint.runtimeId hyphenCheckpoint.id
         document := toDocument hyphenCheckpoint.toCheckpointFields
         modified := 0 }] := by
    rw [saveCheckpoint, hruntime, hid]
    rfl
  have hfiles : savedFiles [(hyphenCheckpoint, 0)] =
      [{ name := checkpointName hyphenCheckpoint.runtimeId hyphenCheckpoint.id
         document := toDocument hyphenCheckpoint.toCheckpointFields
         modified := 0 }] := by
    rw [savedFiles, List.foldl_cons, hsave]
    rfl
  rw [hfiles]
  exact ⟨_, List.mem_singleton.mpr rfl, rfl⟩

/-- A checkpoint of `a--b` is a file of the runtime `a` too. -/
theorem not_namespace_exact : ¬∀ (P : Platform) (saves : List (RuntimeCheckpoint P × Nat)),
    NamespaceExact P (savedFiles saves) := by
  intro h
  obtain ⟨file, hfile, hruntime⟩ := hyphenCheckpoint_saved
  have hseparable := ((named_savedFiles _).distinguishable (h .literal _)).1 file hfile
  rw [hruntime] at hseparable
  exact hseparable.1 (by decide +kernel)

end Persistence
end Ascos
