import Mathlib.Data.List.Nodup
import Mathlib.Data.List.Perm.Subperm
import Mathlib.Logic.Relation

/-!
# Schedules

Items that depend on each other, and lists of items that are worked on one after the other.
-/

namespace Ascos
namespace Library
namespace Schedules

variable {α : Type*} {depends : α → α → Prop} {items listed : List α} {waves : List (List α)}
  {a b : α} {i j : Nat}

/-- A relation along which a rank goes down has no cycle. -/
theorem acyclic_of_rank (rank : α → Nat) (h : ∀ a b, depends a b → rank b < rank a) (a : α) :
    ¬Relation.TransGen depends a a := by
  intro hcycle
  have hdown : ∀ b, Relation.TransGen depends a b → rank b < rank a := by
    intro b hb
    induction hb with
    | single hdepends => exact h _ _ hdepends
    | tail _ hdepends ih => exact Nat.lt_trans (h _ _ hdepends) ih
  exact Nat.lt_irrefl _ (hdown a hcycle)

/-- A list as long as the different items that it covers repeats none. -/
theorem nodup_of_covers (hitems : items.Nodup) (hcovers : ∀ a ∈ items, a ∈ listed)
    (hlength : listed.length = items.length) : listed.Nodup := by
  have hsubperm : items.Subperm listed := List.subperm_of_subset hitems hcovers
  exact (hsubperm.perm_of_length_le (Nat.le_of_eq hlength)).nodup_iff.mp hitems

def InWave (waves : List (List α)) (i : Nat) (a : α) : Prop :=
  ∃ wave, waves[i]? = some wave ∧ a ∈ wave

theorem exists_inWave (h : a ∈ waves.flatten) : ∃ i, InWave waves i a := by
  obtain ⟨wave, hwave, ha⟩ := List.mem_flatten.mp h
  obtain ⟨i, hi⟩ := List.mem_iff_getElem?.mp hwave
  exact ⟨i, wave, hi, ha⟩

/-- In waves that repeat no item two waves share none. -/
theorem inWave_inj (hnodup : waves.flatten.Nodup) (hi : InWave waves i a)
    (hj : InWave waves j a) : i = j := by
  obtain ⟨wave, hwave, ha⟩ := hi
  obtain ⟨other, hother, ha'⟩ := hj
  obtain ⟨hltI, rfl⟩ := List.getElem?_eq_some_iff.mp hwave
  obtain ⟨hltJ, rfl⟩ := List.getElem?_eq_some_iff.mp hother
  have hpairwise := List.pairwise_iff_getElem.mp (List.nodup_flatten.mp hnodup).2
  rcases Nat.lt_trichotomy i j with hlt | heq | hgt
  · exact absurd ha' (hpairwise i j hltI hltJ hlt ha)
  · exact heq
  · exact absurd ha (hpairwise j i hltJ hltI hgt ha')

/-- An item of waves that repeat none is in exactly one of them. -/
theorem existsUnique_wave (hnodup : waves.flatten.Nodup) (h : a ∈ waves.flatten) :
    ∃! i, InWave waves i a := by
  obtain ⟨i, hi⟩ := exists_inWave h
  exact ⟨i, hi, fun j hj => inWave_inj hnodup hj hi⟩

variable [DecidableEq α]

/-- The first wave with an item. -/
def waveOf (waves : List (List α)) (a : α) : Nat :=
  waves.findIdx fun wave => decide (a ∈ wave)

theorem waveOf_eq (hnodup : waves.flatten.Nodup) (hi : InWave waves i a) :
    waveOf waves a = i := by
  obtain ⟨wave, hwave, ha⟩ := id hi
  have hlt : waveOf waves a < waves.length :=
    List.findIdx_lt_length_of_exists
      ⟨wave, List.mem_of_getElem? hwave, decide_eq_true ha⟩
  apply inWave_inj hnodup _ hi
  refine ⟨waves[waveOf waves a], List.getElem?_eq_getElem hlt, ?_⟩
  exact of_decide_eq_true (List.findIdx_getElem (w := hlt))

end Schedules
end Library
end Ascos
