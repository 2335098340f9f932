import Mathlib.Data.List.Basic

/-!
# Tables

A finite map as the list of its entries, of which the first one with a key counts.
-/

namespace Ascos
namespace Library

/-- A finite map. -/
abbrev Table (κ β : Type) := List (κ × β)

namespace Table

variable {κ β : Type} [DecidableEq κ] {table : Table κ β} {key other : κ} {value : β}

/-- The value of a key. -/
def load (table : Table κ β) (key : κ) : Option β :=
  (table.find? (·.1 = key)).map (·.2)

def erase (table : Table κ β) (key : κ) : Table κ β :=
  table.filter (·.1 ≠ key)

def save (table : Table κ β) (key : κ) (value : β) : Table κ β :=
  (key, value) :: table.erase key

theorem load_erase : (table.erase key).load other =
    if other = key then none else table.load other := by
  unfold load erase
  rw [List.find?_filter]
  by_cases h : other = key
  · subst h
    simp
  · rw [if_neg h]
    congr 2
    funext entry
    by_cases hentry : entry.1 = other
    · simp [hentry, h]
    · simp [hentry]

@[simp]
theorem load_erase_self : (table.erase key).load key = none := by
  simp [load_erase]

theorem load_erase_of_ne (h : other ≠ key) : (table.erase key).load other = table.load other := by
  simp [load_erase, h]

theorem load_save : (table.save key value).load other =
    if other = key then some value else table.load other := by
  by_cases h : other = key
  · simp [load, save, h]
  · have hne : ¬key = other := fun hsame => h hsame.symm
    have hrest : (table.erase key).load other = table.load other := load_erase_of_ne h
    simpa [load, save, h, hne] using hrest

@[simp]
theorem load_save_self : (table.save key value).load key = some value := by
  simp [load_save]

theorem load_save_of_ne (h : other ≠ key) :
    (table.save key value).load other = table.load other := by
  simp [load_save, h]

@[simp]
theorem load_nil : load ([] : Table κ β) key = none :=
  rfl

/-- The key of an entry has a value. -/
theorem load_ne_none {entry : κ × β} (h : entry ∈ table) : table.load entry.1 ≠ none := by
  unfold load
  rw [Ne, Option.map_eq_none_iff, List.find?_eq_none]
  exact fun hnone => hnone entry h (by simp)

/-- A value that a key has is an entry of the table. -/
theorem mem_of_load (h : table.load key = some value) : (key, value) ∈ table := by
  unfold load at h
  obtain ⟨entry, hfind, rfl⟩ := Option.map_eq_some_iff.mp h
  have hkey : entry.1 = key := by simpa using List.find?_some hfind
  rw [← hkey]
  exact List.mem_of_find?_eq_some hfind

theorem mem_keys_of_load (h : table.load key = some value) : key ∈ table.map (·.1) :=
  List.mem_map.mpr ⟨_, mem_of_load h, rfl⟩

/-- Every value of the table is still the one of its key. -/
def Extended (table later : Table κ β) : Prop :=
  ∀ key value, table.load key = some value → later.load key = some value

theorem Extended.trans {later last : Table κ β} (h : table.Extended later)
    (h' : later.Extended last) : table.Extended last :=
  fun key value hload => h' key value (h key value hload)

/-- A key without a value may be given one, and then another one. -/
theorem Extended.put {later : Table κ β} (h : table.Extended later)
    (hnone : later.load key = none) : (∀ value, table.Extended (later.save key value)) ∧
      ∀ value value', table.Extended ((later.save key value).save key value') := by
  have hne {other : κ} {stored : β} (hload : table.load other = some stored) : other ≠ key := by
    rintro rfl
    rw [h other stored hload] at hnone
    cases hnone
  refine ⟨fun value other stored hload => ?_, fun value value' other stored hload => ?_⟩
  · rw [load_save_of_ne (hne hload)]
    exact h other stored hload
  · rw [load_save_of_ne (hne hload), load_save_of_ne (hne hload)]
    exact h other stored hload

end Table
end Library
end Ascos
