import Ascos.Library.Segments

/-!
# Paths

Texts read as paths: their names, their drives, and whether following them leaves the directory
that they start in.
-/

namespace Ascos
namespace Library
namespace Paths

variable {sep : Char → Bool} {a b : Char} {chars : List Char} {names : List (List Char)}

/-- The separator of POSIX paths. -/
def isSlash (c : Char) : Bool :=
  c == '/'

/-- The separators of Windows paths. -/
def isWindowsSlash (c : Char) : Bool :=
  c == '/' || c == '\\'

def parent : List Char :=
  ['.', '.']

/-- What a POSIX path starts with: exactly two slashes are kept. -/
def root : List Char → List Char
  | '/' :: '/' :: '/' :: _ => ['/']
  | '/' :: '/' :: _ => ['/', '/']
  | '/' :: _ => ['/']
  | _ => []

def parts (chars : List Char) : List (List Char) :=
  (if root chars = [] then [] else [root chars]) ++
    (chars.splitOnP isSlash).filter fun name => decide (name ≠ [] ∧ name ≠ ['.'])

/-- `str` of a `PurePosixPath`. -/
def canonical (chars : List Char) : List Char :=
  if parts chars = [] then ['.']
  else root chars ++ Segments.joined '/'
    ((chars.splitOnP isSlash).filter fun name => decide (name ≠ [] ∧ name ≠ ['.']))

/-- A Windows path has a drive: a letter and a colon, or two separators. -/
def hasDrive : List Char → Bool
  | first :: second :: _ =>
    (isWindowsSlash first && isWindowsSlash second) ||
      (!isWindowsSlash first && second == ':')
  | _ => false

/-- `PureWindowsPath.is_absolute`: a drive, and a separator after it. -/
def isWindowsAbsolute (chars : List Char) : Bool :=
  hasDrive chars &&
    match chars with
    | first :: _ :: third :: _ => isWindowsSlash first || isWindowsSlash third
    | _ => false

/-- Following the names from the given depth goes above the directory at depth zero. -/
def leaves : Nat → List (List Char) → Bool
  | _, [] => false
  | depth, name :: names =>
    if name = [] ∨ name = ['.'] then leaves depth names
    else if name = parent then
      match depth with
      | 0 => true
      | depth + 1 => leaves depth names
    else leaves (depth + 1) names

/-- A path is absolute or leads out of the directory that it starts in, for POSIX or for
Windows. -/
def Outside (chars : List Char) : Prop :=
  isWindowsSlash (chars.headD ' ') = true ∨ hasDrive chars = true ∨
    leaves 0 (chars.splitOnP isSlash) = true ∨ leaves 0 (chars.splitOnP isWindowsSlash) = true

instance (chars : List Char) : Decidable (Outside chars) :=
  inferInstanceAs (Decidable (_ ∨ _ ∨ _ ∨ _))

theorem parent_mem_of_leaves {depth : Nat} (h : leaves depth names = true) : parent ∈ names := by
  induction names generalizing depth with
  | nil => cases h
  | cons name names ih =>
    unfold leaves at h
    by_cases hskip : name = [] ∨ name = ['.']
    · rw [if_pos hskip] at h
      exact List.mem_cons_of_mem _ (ih h)
    · rw [if_neg hskip] at h
      by_cases hparent : name = parent
      · rw [hparent]
        exact List.mem_cons_self
      · rw [if_neg hparent] at h
        exact List.mem_cons_of_mem _ (ih h)

theorem leaves_parent : leaves 0 (parent :: names) = true :=
  rfl

/-- Two characters in front of a path stand in its first name. -/
theorem splitOnP_cons_cons (ha : sep a = false) (hb : sep b = false) :
    ∃ name names, chars.splitOnP sep = name :: names ∧
      (a :: b :: chars).splitOnP sep = (a :: b :: name) :: names := by
  cases hsplit : chars.splitOnP sep with
  | nil => exact absurd hsplit (List.splitOnP_ne_nil sep chars)
  | cons name names =>
    refine ⟨name, names, rfl, ?_⟩
    rw [List.splitOnP_cons_eq_if_modifyHead, if_neg (by simp [ha]),
      List.splitOnP_cons_eq_if_modifyHead, if_neg (by simp [hb]), hsplit]
    rfl

/-- Without a backslash the two ways to read a path agree. -/
theorem splitOnP_windows (h : '\\' ∉ chars) :
    chars.splitOnP isWindowsSlash = chars.splitOnP isSlash := by
  induction chars with
  | nil => rfl
  | cons c chars ih =>
    have hc : c ≠ '\\' := fun heq => h (heq ▸ List.mem_cons_self)
    have hsame : isWindowsSlash c = isSlash c := by
      simp [isWindowsSlash, isSlash, hc]
    rw [List.splitOnP_cons_eq_if_modifyHead, List.splitOnP_cons_eq_if_modifyHead, hsame,
      ih fun hmem => h (List.mem_cons_of_mem _ hmem)]

theorem parent_mem_parts (h : parent ∈ chars.splitOnP isSlash) : parent ∈ parts chars :=
  List.mem_append_right _ (List.mem_filter.mpr ⟨h, by decide⟩)

theorem lawfulBEq_text : LawfulBEq (List Char) :=
  inferInstance

end Paths
end Library
end Ascos
