import Mathlib.Data.List.Infix

/-!
# Replacement

All occurrences of a list are replaced by a marker, from left to right and without overlap; then
those of the next list, in what the replacement has left.
-/

namespace Ascos
namespace Library
namespace Replacement

variable {α : Type*} [DecidableEq α]

/-- The replacement from a place on; the first elements are still covered by a match. -/
def replaceFrom (old marker : List α) : Nat → List α → List α
  | _, [] => []
  | skip + 1, _ :: text => replaceFrom old marker skip text
  | 0, a :: text =>
    if old.isPrefixOf (a :: text) = true then
      marker ++ replaceFrom old marker (old.length - 1) text
    else a :: replaceFrom old marker 0 text

def replace (old marker text : List α) : List α :=
  replaceFrom old marker 0 text

/-- The replacements of several lists one after the other. -/
def replaceAll (olds : List (List α)) (marker text : List α) : List α :=
  olds.foldl (fun text old => replace old marker text) text

/-- A list that can be spelled with a part of the marker and something else. -/
def Touches (marker value : List α) : Prop :=
  marker <:+: value ∨ ∃ before after, before ≠ [] ∧ after ≠ [] ∧ value = before ++ after ∧
    (after <+: marker ∨ before <:+ marker)

variable {marker old value text : List α} {olds : List (List α)}

theorem replaceFrom_eq (skip : Nat) (text : List α) :
    replaceFrom old marker skip text = replace old marker (text.drop skip) := by
  induction text generalizing skip with
  | nil => simp [replaceFrom, replace]
  | cons a text ih =>
    cases skip with
    | zero => rfl
    | succ skip => exact ih skip

@[simp]
theorem replace_nil : replace old marker [] = [] :=
  rfl

theorem replace_append (hne : old ≠ []) (text : List α) :
    replace old marker (old ++ text) = marker ++ replace old marker text := by
  obtain ⟨a, rest, rfl⟩ := List.exists_cons_of_ne_nil hne
  have hprefix : (a :: rest).isPrefixOf (a :: (rest ++ text)) = true :=
    List.isPrefixOf_iff_prefix.mpr ⟨text, rfl⟩
  rw [List.cons_append, replace, replaceFrom, if_pos hprefix, replaceFrom_eq]
  simp

theorem replace_cons {a : α} (h : ¬ old <+: a :: text) :
    replace old marker (a :: text) = a :: replace old marker text := by
  have hprefix : ¬ old.isPrefixOf (a :: text) = true := fun hold =>
    h (List.isPrefixOf_iff_prefix.mp hold)
  rw [replace, replaceFrom, if_neg hprefix]
  rfl

theorem replace_eq_self (h : ¬ old <:+: text) : replace old marker text = text := by
  induction text with
  | nil => rfl
  | cons a text ih =>
    rw [List.infix_cons_iff, not_or] at h
    rw [replace_cons h.1, ih h.2]

/-- What follows the first elements of a list that does not touch the marker is not spelled with
the marker. -/
theorem prefix_of_prefix_replace (hne : old ≠ []) (htouches : ¬ Touches marker value)
    {before after : List α} (hbefore : before ≠ []) (hvalue : value = before ++ after)
    (h : after <+: replace old marker text) : after <+: text := by
  induction text generalizing before after with
  | nil => exact h
  | cons a text ih =>
    by_cases hold : old <+: a :: text
    · obtain ⟨rest, hrest⟩ := hold
      rw [← hrest, replace_append hne] at h
      by_cases hafter : after = []
      · rw [hafter]
        exact List.nil_prefix
      · exfalso
        rcases List.prefix_or_prefix_of_prefix h (List.prefix_append marker _) with hend | hall
        · exact htouches (.inr ⟨before, after, hbefore, hafter, hvalue, .inl hend⟩)
        · rw [hvalue] at htouches
          exact htouches (.inl (hall.isInfix.trans (List.suffix_append before after).isInfix))
    · rw [replace_cons hold] at h
      rcases List.prefix_cons_iff.mp h with rfl | ⟨after', rfl, hafter'⟩
      · exact List.nil_prefix
      · have hrest := @ih (before ++ [a]) after' (by simp) (by simp [hvalue]) hafter'
        exact List.cons_prefix_cons.mpr ⟨rfl, hrest⟩

/-- A list that does not touch the marker occurs after a replacement only where it occurred
before, and never where it was replaced itself. -/
theorem infix_of_infix_replace (hne : old ≠ []) (hvalue : value ≠ [])
    (hmarker : ¬ value <:+: marker) (htouches : ¬ Touches marker value)
    (h : value <:+: replace old marker text) : value <:+: text ∧ value ≠ old := by
  obtain ⟨length, hlength⟩ : ∃ length, text.length ≤ length := ⟨_, Nat.le_refl _⟩
  induction length generalizing text with
  | zero =>
    rw [List.length_eq_zero_iff.mp (Nat.le_zero.mp hlength), replace_nil] at h
    exact absurd (List.infix_nil.mp h) hvalue
  | succ length ih =>
    cases text with
    | nil => exact absurd (List.infix_nil.mp h) hvalue
    | cons a text =>
        by_cases hold : old <+: a :: text
        · -- the marker is written, and the replacement goes on behind the match
          obtain ⟨rest, hrest⟩ := hold
          rw [← hrest, replace_append hne] at h
          rcases List.infix_append_iff_ne_nil.mp h with
            h | h | ⟨before, after, hbefore, hafter, hsplit, hsuffix, -⟩
          · exact absurd h hmarker
          · have hshorter : rest.length ≤ length := by
              have hlengths := congrArg List.length hrest
              have hpositive := List.length_pos_iff.mpr hne
              rw [List.length_append, List.length_cons] at hlengths
              rw [List.length_cons] at hlength
              omega
            obtain ⟨hpart, hother⟩ := ih h hshorter
            exact ⟨hpart.trans (hrest ▸ (List.suffix_append old rest).isInfix), hother⟩
          · exact absurd (.inr ⟨before, after, hbefore, hafter, hsplit, .inr hsuffix⟩) htouches
        · rw [replace_cons hold] at h
          rcases List.infix_cons_iff.mp h with hprefix | hpart
          · rcases List.prefix_cons_iff.mp hprefix with hnil | ⟨after, hsplit, hafter⟩
            · exact absurd hnil hvalue
            · have hrest := @prefix_of_prefix_replace _ _ marker old value text hne htouches [a]
                after (List.cons_ne_nil _ _) hsplit hafter
              have htext : value <+: a :: text := by
                rw [hsplit]
                exact List.cons_prefix_cons.mpr ⟨rfl, hrest⟩
              exact ⟨htext.isInfix, fun heq => hold (heq ▸ htext)⟩
          · have hshorter : text.length ≤ length := by
              rw [List.length_cons] at hlength
              omega
            obtain ⟨hpart, hother⟩ := ih hpart hshorter
            exact ⟨hpart.trans (List.suffix_cons a text).isInfix, hother⟩

theorem not_infix_replaceAll (hne : ∀ old ∈ olds, old ≠ [])
    (hmarker : ∀ old ∈ olds, ¬ old <:+: marker) (htouches : ∀ old ∈ olds, ¬ Touches marker old)
    (hvalue : value ∈ olds) : ¬ value <:+: replaceAll olds marker text := by
  have hkept : ∀ (olds' : List (List α)) (text : List α), (∀ old ∈ olds', old ∈ olds) →
      value <:+: replaceAll olds' marker text → value <:+: text ∧ value ∉ olds' := by
    intro olds'
    induction olds' with
    | nil => exact fun text _ h => ⟨h, List.not_mem_nil⟩
    | cons old olds' ih =>
        intro text hall h
        obtain ⟨hpart, hlater⟩ := ih (replace old marker text)
          (fun other hother => hall other (List.mem_cons_of_mem _ hother)) h
        obtain ⟨htext, hother⟩ := infix_of_infix_replace (hne old (hall old List.mem_cons_self))
          (hne value hvalue) (hmarker value hvalue) (htouches value hvalue) hpart
        exact ⟨htext, fun hmem => (List.mem_cons.mp hmem).elim hother hlater⟩
  exact fun h => (hkept olds text (fun _ hold => hold) h).2 hvalue

theorem replaceAll_eq_self (h : ∀ old ∈ olds, ¬ old <:+: text) :
    replaceAll olds marker text = text := by
  induction olds with
  | nil => rfl
  | cons old olds ih =>
    have hfirst : replace old marker text = text := replace_eq_self (h old List.mem_cons_self)
    rw [replaceAll, List.foldl_cons, hfirst]
    exact ih fun other hother => h other (List.mem_cons_of_mem _ hother)

end Replacement
end Library
end Ascos
