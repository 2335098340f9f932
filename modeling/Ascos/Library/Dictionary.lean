import Mathlib.Data.List.Nodup
import Mathlib.Data.List.Sort
import Mathlib.Order.Basic

/-!
# Dictionaries as lists of entries

A dictionary that keeps its entries in the order in which their keys were first set, as lists
of pairs, and its entries in the order of their keys.
-/

namespace Ascos
namespace Library
namespace Dictionary

variable {κ ν μ : Type*}

section Entries

variable [DecidableEq κ] {key other : κ} {value : ν} {entries : List (κ × ν)}

/-- Set the value of a key; a key that is there keeps its place. -/
def set (key : κ) (value : ν) : List (κ × ν) → List (κ × ν)
  | [] => [(key, value)]
  | entry :: rest =>
      if entry.1 = key then (key, value) :: rest else entry :: set key value rest

/-- The dictionary made of some entries, in which the last entry of a key counts. -/
def ofEntries (entries : List (κ × ν)) : List (κ × ν) :=
  entries.foldl (fun dictionary entry => set entry.1 entry.2 dictionary) []

theorem mem_keys_set :
    other ∈ (set key value entries).map (·.1) ↔ other = key ∨ other ∈ entries.map (·.1) := by
  induction entries with
  | nil => simp [set]
  | cons entry rest ih =>
    unfold set
    split
    · rename_i hsame
      simp [hsame]
    · rw [List.map_cons, List.mem_cons, ih, List.map_cons, List.mem_cons]
      tauto

theorem nodup_set (hnodup : (entries.map (·.1)).Nodup) :
    ((set key value entries).map (·.1)).Nodup := by
  induction entries with
  | nil => simp [set]
  | cons entry rest ih =>
    rw [List.map_cons, List.nodup_cons] at hnodup
    unfold set
    split
    · rename_i hsame
      rw [List.map_cons, List.nodup_cons, ← hsame]
      exact hnodup
    · rename_i hother
      rw [List.map_cons, List.nodup_cons, mem_keys_set, not_or]
      exact ⟨⟨hother, hnodup.1⟩, ih hnodup.2⟩

theorem mem_set {entry : κ × ν} (h : entry ∈ set key value entries) :
    entry = (key, value) ∨ entry ∈ entries := by
  induction entries with
  | nil => exact .inl (List.mem_singleton.mp h)
  | cons first rest ih =>
    unfold set at h
    split at h
    · rcases List.mem_cons.mp h with hsame | hrest
      · exact .inl hsame
      · exact .inr (List.mem_cons_of_mem _ hrest)
    · rcases List.mem_cons.mp h with hsame | hrest
      · exact .inr (hsame ▸ List.mem_cons_self)
      · exact (ih hrest).imp_right (List.mem_cons_of_mem _)

theorem set_of_notMem (hnew : key ∉ entries.map (·.1)) :
    set key value entries = entries ++ [(key, value)] := by
  induction entries with
  | nil => rfl
  | cons entry rest ih =>
    rw [List.map_cons, List.mem_cons, not_or] at hnew
    unfold set
    rw [if_neg (Ne.symm hnew.1), ih hnew.2]
    rfl

/-- A dictionary has no key twice. -/
theorem nodup_ofEntries (entries : List (κ × ν)) : ((ofEntries entries).map (·.1)).Nodup := by
  have hfold : ∀ dictionary : List (κ × ν), (dictionary.map (·.1)).Nodup →
      ((entries.foldl (fun dictionary entry => set entry.1 entry.2 dictionary) dictionary).map
        (·.1)).Nodup := by
    induction entries with
    | nil => exact fun _ h => h
    | cons entry rest ih => exact fun dictionary h => ih _ (nodup_set h)
  exact hfold [] List.nodup_nil

theorem mem_of_mem_ofEntries {entry : κ × ν} (h : entry ∈ ofEntries entries) :
    entry ∈ entries := by
  have hfold : ∀ dictionary : List (κ × ν),
      entry ∈ entries.foldl (fun dictionary entry => set entry.1 entry.2 dictionary) dictionary →
        entry ∈ entries ∨ entry ∈ dictionary := by
    clear h
    induction entries with
    | nil => exact fun _ h => .inr h
    | cons first rest ih =>
        intro dictionary h
        obtain hrest | hset := ih _ h
        · exact .inl (List.mem_cons_of_mem _ hrest)
        · obtain hsame | hbefore := mem_set hset
          · exact .inl (hsame ▸ List.mem_cons_self)
          · exact .inr hbefore
  exact (hfold [] h).resolve_right List.not_mem_nil

theorem ofEntries_of_nodup (hnodup : (entries.map (·.1)).Nodup) :
    ofEntries entries = entries := by
  have hfold : ∀ dictionary : List (κ × ν), ((dictionary ++ entries).map (·.1)).Nodup →
      entries.foldl (fun dictionary entry => set entry.1 entry.2 dictionary) dictionary =
        dictionary ++ entries := by
    induction entries with
    | nil => exact fun dictionary _ => (List.append_nil dictionary).symm
    | cons entry rest ih =>
        intro dictionary hall
        rw [List.map_cons, List.nodup_cons] at hnodup
        have hnew : entry.1 ∉ dictionary.map (·.1) := by
          intro hmem
          rw [List.map_append, List.nodup_append] at hall
          exact hall.2.2 _ hmem _ List.mem_cons_self rfl
        rw [List.foldl_cons, set_of_notMem hnew, ih hnodup.2]
        · rw [List.append_assoc]
          rfl
        · rw [List.append_assoc]
          exact hall
  exact hfold [] hnodup

end Entries

/-! ## The order of keys -/

section Sorted

variable [LinearOrder κ] {entries : List (κ × ν)}

/-- The entries in the order of their keys. -/
def sort (entries : List (κ × ν)) : List (κ × ν) :=
  entries.insertionSort fun a b => a.1 ≤ b.1

theorem perm_sort (entries : List (κ × ν)) : (sort entries).Perm entries :=
  List.perm_insertionSort _ entries

@[simp]
theorem mem_sort {entry : κ × ν} : entry ∈ sort entries ↔ entry ∈ entries :=
  (perm_sort entries).mem_iff

theorem nodup_sort (hnodup : (entries.map (·.1)).Nodup) : ((sort entries).map (·.1)).Nodup :=
  ((perm_sort entries).map _).nodup_iff.mpr hnodup

/-- Sorting looks at the keys only. -/
theorem sort_map (f : ν → μ) (entries : List (κ × ν)) :
    sort (entries.map fun entry => (entry.1, f entry.2)) =
      (sort entries).map fun entry => (entry.1, f entry.2) := by
  unfold sort
  exact (List.map_insertionSort _ _ (fun entry : κ × ν => (entry.1, f entry.2)) entries
    fun _ _ _ _ => Iff.rfl).symm

/-- Sorted entries are sorted once and for all. -/
@[simp]
theorem sort_sort (entries : List (κ × ν)) : sort (sort entries) = sort entries := by
  have htotal : Std.Total fun a b : κ × ν => a.1 ≤ b.1 := ⟨fun a b => le_total a.1 b.1⟩
  have htrans : IsTrans (κ × ν) fun a b => a.1 ≤ b.1 := ⟨fun _ _ _ h h' => le_trans h h'⟩
  exact (List.pairwise_insertionSort _ entries).insertionSort_eq

/-- The sorted entries of a dictionary are in the strict order of their keys. -/
theorem pairwise_sort (hnodup : (entries.map (·.1)).Nodup) :
    (sort entries).Pairwise fun a b => a.1 < b.1 := by
  have htotal : Std.Total fun a b : κ × ν => a.1 ≤ b.1 := ⟨fun a b => le_total a.1 b.1⟩
  have htrans : IsTrans (κ × ν) fun a b => a.1 ≤ b.1 := ⟨fun _ _ _ h h' => le_trans h h'⟩
  have hle : (sort entries).Pairwise fun a b => a.1 ≤ b.1 := List.pairwise_insertionSort _ entries
  have hne : (sort entries).Pairwise fun a b => a.1 ≠ b.1 := List.pairwise_map.mp (nodup_sort hnodup)
  exact hle.imp₂ (fun _ _ hle hne => lt_of_le_of_ne hle hne) hne

/-- Entries in the strict order of their keys have no key twice. -/
theorem nodup_of_pairwise (h : entries.Pairwise fun a b => a.1 < b.1) :
    (entries.map (·.1)).Nodup :=
  List.pairwise_map.mpr (h.imp fun hlt => ne_of_lt hlt)

/-- Entries in the strict order of their keys stay as they are. -/
theorem sort_of_pairwise (h : entries.Pairwise fun a b => a.1 < b.1) : sort entries = entries :=
  (h.imp fun hlt => le_of_lt hlt).insertionSort_eq

end Sorted

end Dictionary
end Library
end Ascos
