import Mathlib.Data.List.Nodup
import Mathlib.Logic.Relation

/-!
# Lists of records with keys

A list of records, each with a key of its own, that grows at its end and whose records are
replaced by ones with the same key; and records that need earlier ones.
-/

namespace Ascos
namespace Library
namespace Keyed

variable {α κ : Type*} [DecidableEq κ] {key : α → κ} {items : List α} {item other : α} {k : κ}

/-! ## Looking up and replacing -/

/-- The record with a key. -/
def lookup (key : α → κ) (items : List α) (k : κ) : Option α :=
  items.find? (key · = k)

/-- The records with one of them replaced. -/
def replaced (key : α → κ) (item : α) (items : List α) : List α :=
  items.map fun x => if key x = key item then item else x

theorem mem_of_lookup (h : lookup key items k = some item) : item ∈ items ∧ key item = k :=
  ⟨List.mem_of_find?_eq_some h, by simpa using List.find?_some h⟩

/-- With unique keys a lookup finds the record with the key. -/
theorem lookup_eq_some_iff (hnodup : (items.map key).Nodup) :
    lookup key items k = some item ↔ item ∈ items ∧ key item = k := by
  constructor
  · exact mem_of_lookup
  · rintro ⟨hmem, rfl⟩
    induction items with
    | nil => cases hmem
    | cons first rest ih =>
        rw [List.map_cons, List.nodup_cons] at hnodup
        unfold lookup
        rcases List.mem_cons.mp hmem with rfl | hrest
        · simp
        · have hne : key first ≠ key item := by
            intro hsame
            exact hnodup.1 (hsame ▸ List.mem_map_of_mem hrest)
          rw [List.find?_cons_of_neg (by simpa using hne)]
          exact ih hnodup.2 hrest

omit [DecidableEq κ] in
/-- Records with unique keys are told apart by their keys. -/
theorem eq_of_key_eq (hnodup : (items.map key).Nodup) (hitem : item ∈ items)
    (hother : other ∈ items) (h : key item = key other) : item = other :=
  List.inj_on_of_nodup_map hnodup hitem hother h

@[simp]
theorem map_key_replaced : (replaced key item items).map key = items.map key := by
  unfold replaced
  rw [List.map_map]
  refine List.map_congr_left fun x _ => ?_
  by_cases h : key x = key item
  · simp [h]
  · simp [h]

/-- After a replacement there are the other records and, if its key was there, the new one. -/
theorem mem_replaced_iff : other ∈ replaced key item items ↔
    (other = item ∧ key item ∈ items.map key) ∨ (other ∈ items ∧ key other ≠ key item) := by
  unfold replaced
  rw [List.mem_map]
  constructor
  · rintro ⟨x, hx, rfl⟩
    by_cases h : key x = key item
    · rw [if_pos h]
      exact .inl ⟨rfl, h ▸ List.mem_map_of_mem hx⟩
    · rw [if_neg h]
      exact .inr ⟨hx, h⟩
  · rintro (⟨rfl, hkey⟩ | ⟨hmem, hne⟩)
    · obtain ⟨x, hx, hsame⟩ := List.mem_map.mp hkey
      exact ⟨x, hx, if_pos hsame⟩
    · exact ⟨other, hmem, if_neg hne⟩

theorem lookup_replaced_self (h : lookup key items (key item) = some other) :
    lookup key (replaced key item items) (key item) = some item := by
  induction items with
  | nil => cases h
  | cons first rest ih =>
    by_cases hkey : key first = key item
    · simp [lookup, replaced, hkey]
    · have hrest : lookup key rest (key item) = some other := by
        simpa [lookup, hkey] using h
      simpa [lookup, replaced, hkey] using ih hrest

theorem lookup_replaced_of_ne (h : k ≠ key item) :
    lookup key (replaced key item items) k = lookup key items k := by
  induction items with
  | nil => rfl
  | cons first rest ih =>
    by_cases hkey : key first = key item
    · have hfirst : key first ≠ k := hkey ▸ h.symm
      simpa [lookup, replaced, hkey, hfirst, h.symm] using ih
    · by_cases hfirst : key first = k
      · simp [lookup, replaced, hfirst, h]
      · simpa [lookup, replaced, hkey, hfirst] using ih

/-- Records that are added at the end hide nothing. -/
theorem lookup_append_of_some {rest : List α} (h : lookup key items k = some item) :
    lookup key (items ++ rest) k = some item := by
  unfold lookup at h ⊢
  rw [List.find?_append, h]
  rfl

omit [DecidableEq κ] in
/-- A record whose key is not there is the only one to have it. -/
theorem nodup_append_singleton (hnodup : (items.map key).Nodup) (h : key item ∉ items.map key) :
    ((items ++ [item]).map key).Nodup := by
  rw [List.map_append, List.nodup_append]
  refine ⟨hnodup, by simp, ?_⟩
  intro k hk l hl
  rw [List.map_singleton, List.mem_singleton] at hl
  subst hl
  exact fun hsame => h (hsame ▸ hk)

theorem replaced_of_notMem (h : key item ∉ items.map key) : replaced key item items = items := by
  have hsame : ∀ x ∈ items, (if key x = key item then item else x) = id x := by
    intro x hx
    have hne : key x ≠ key item := fun hkey => h (hkey ▸ List.mem_map_of_mem hx)
    exact if_neg hne
  unfold replaced
  rw [List.map_congr_left hsame, List.map_id]

/-- Where a replacement adds to one record's part of a list, that is added to the whole. -/
theorem flatMap_replaced_perm {β : Type*} {part : α → List β} {extra : List β}
    (hnodup : (items.map key).Nodup) (hmem : other ∈ items) (hkey : key other = key item)
    (hpart : (part item).Perm (part other ++ extra)) :
    ((replaced key item items).flatMap part).Perm (items.flatMap part ++ extra) := by
  induction items with
  | nil => cases hmem
  | cons first rest ih =>
    rw [List.map_cons, List.nodup_cons] at hnodup
    have hcons : replaced key item (first :: rest) =
        (if key first = key item then item else first) :: replaced key item rest := rfl
    rw [hcons]
    rcases List.mem_cons.mp hmem with rfl | hrest
    · have hnew : key item ∉ rest.map key := hkey ▸ hnodup.1
      rw [if_pos hkey, replaced_of_notMem hnew, List.flatMap_cons, List.flatMap_cons]
      have hlast : (part other ++ extra ++ rest.flatMap part).Perm
          (part other ++ rest.flatMap part ++ extra) := by
        rw [List.append_assoc, List.append_assoc]
        exact List.perm_append_comm.append_left _
      exact (hpart.append_right _).trans hlast
    · have hfirst : key first ≠ key item := by
        intro hsame
        exact hnodup.1 (hsame ▸ hkey ▸ List.mem_map_of_mem hrest)
      rw [if_neg hfirst, List.flatMap_cons, List.flatMap_cons, List.append_assoc]
      exact (ih hnodup.2 hrest).append_left _

/-! ## Records that need earlier ones -/

variable {needs : α → List κ}

/-- Every record needs only records before it. -/
inductive Ordered (key : α → κ) (needs : α → List κ) : List α → Prop
  | nil : Ordered key needs []
  | snoc {items : List α} {item : α} (before : Ordered key needs items)
      (found : ∀ k ∈ needs item, k ∈ items.map key) : Ordered key needs (items ++ [item])

def Needs (key : α → κ) (needs : α → List κ) (items : List α) (k l : κ) : Prop :=
  ∃ item ∈ items, key item = k ∧ l ∈ needs item

omit [DecidableEq κ] in
/-- What a record needs is there. -/
theorem Ordered.found (h : Ordered key needs items) :
    ∀ item ∈ items, ∀ k ∈ needs item, k ∈ items.map key := by
  induction h with
  | nil => simp
  | @snoc items last before found ih =>
    intro item hitem k hk
    rw [List.map_append, List.mem_append]
    rcases List.mem_append.mp hitem with hbefore | hlast
    · exact .inl (ih item hbefore k hk)
    · rw [List.mem_singleton] at hlast
      subst hlast
      exact .inl (found k hk)

omit [DecidableEq κ] in
/-- Records that keep their keys and their needs keep their order. -/
theorem Ordered.map {f : α → α} (h : Ordered key needs items)
    (hkey : ∀ item ∈ items, key (f item) = key item)
    (hneeds : ∀ item ∈ items, needs (f item) = needs item) :
    Ordered key needs (items.map f) := by
  induction h with
  | nil => exact .nil
  | @snoc items last before found ih =>
    rw [List.map_append]
    have hkeys : (items.map f).map key = items.map key := by
      rw [List.map_map]
      exact List.map_congr_left fun item hitem => hkey item (List.mem_append_left _ hitem)
    refine .snoc (ih (fun item hitem => hkey item (List.mem_append_left _ hitem))
      fun item hitem => hneeds item (List.mem_append_left _ hitem)) ?_
    rw [hneeds last (by simp), hkeys]
    exact found

theorem Ordered.replaced (h : Ordered key needs items)
    (hneeds : ∀ other ∈ items, key other = key item → needs item = needs other) :
    Ordered key needs (replaced key item items) := by
  refine h.map (fun other hother => ?_) fun other hother => ?_
  · by_cases hkey : key other = key item
    · simp [hkey]
    · simp [hkey]
  · by_cases hkey : key other = key item
    · rw [if_pos hkey]
      exact hneeds other hother hkey
    · rw [if_neg hkey]

/-- What a record needs stands before it. -/
theorem Ordered.idxOf_lt (h : Ordered key needs items) (hnodup : (items.map key).Nodup) {k l : κ}
    (hneeds : Needs key needs items k l) :
    (items.map key).idxOf l < (items.map key).idxOf k := by
  induction h with
  | nil =>
    obtain ⟨_, hitem, -⟩ := hneeds
    cases hitem
  | @snoc items last before found ih =>
    rw [List.map_append, List.nodup_append] at hnodup
    obtain ⟨hbefore, -, hdisjoint⟩ := hnodup
    obtain ⟨item, hitem, rfl, hl⟩ := hneeds
    rw [List.map_append]
    rcases List.mem_append.mp hitem with hmem | hlast
    · have hkey : key item ∈ items.map key := List.mem_map_of_mem hmem
      have hfound := before.found item hmem l hl
      rw [List.idxOf_append_of_mem hkey, List.idxOf_append_of_mem hfound]
      exact ih hbefore ⟨item, hmem, rfl, hl⟩
    · rw [List.mem_singleton] at hlast
      subst hlast
      have hfound := found l hl
      have hnew : key item ∉ items.map key := by
        intro hold
        exact hdisjoint _ hold _ (by simp) rfl
      rw [List.idxOf_append_of_mem hfound, List.idxOf_append_of_notMem hnew]
      have hlength := List.idxOf_lt_length_of_mem hfound
      omega

/-- No record needs itself, however indirectly. -/
theorem Ordered.acyclic (h : Ordered key needs items) (hnodup : (items.map key).Nodup) (k : κ) :
    ¬Relation.TransGen (Needs key needs items) k k := by
  intro hcycle
  have hsmaller : ∀ l, Relation.TransGen (Needs key needs items) k l →
      (items.map key).idxOf l < (items.map key).idxOf k := by
    intro l hpath
    induction hpath with
    | single hneeds => exact h.idxOf_lt hnodup hneeds
    | tail _ hneeds ih => exact Nat.lt_trans (h.idxOf_lt hnodup hneeds) ih
  exact absurd (hsmaller k hcycle) (Nat.lt_irrefl _)

end Keyed
end Library
end Ascos
