import Mathlib.Data.List.Infix

/-!
# Segments

Lists written one after the other with a separator between them, like the names of a path.
-/

namespace Ascos
namespace Library
namespace Segments

variable {α : Type*} {sep : α} {first : List α} {segments others : List (List α)}

/-- The segments with the separator between them. -/
def joined (sep : α) : List (List α) → List α
  | [] => []
  | [segment] => segment
  | segment :: segments => segment ++ sep :: joined sep segments

/-- The separator occurs in no segment. -/
def Plain (sep : α) (segments : List (List α)) : Prop :=
  ∀ segment ∈ segments, sep ∉ segment

@[simp]
theorem joined_singleton (segment : List α) : joined sep [segment] = segment :=
  rfl

theorem joined_cons (hsegments : segments ≠ []) :
    joined sep (first :: segments) = first ++ sep :: joined sep segments := by
  cases segments with
  | nil => exact absurd rfl hsegments
  | cons segment segments => rfl

/-- What stands before the first separator is determined. -/
theorem append_sep_inj {left right rest rest' : List α} (hleft : sep ∉ left)
    (hright : sep ∉ right) (h : left ++ sep :: rest = right ++ sep :: rest') :
    left = right ∧ rest = rest' := by
  induction left generalizing right with
  | nil =>
    cases right with
    | nil => simpa using h
    | cons b right =>
        have hb : sep = b := (List.cons.inj h).1
        exact absurd (hb ▸ List.mem_cons_self) hright
  | cons a left ih =>
    cases right with
    | nil =>
        have ha : a = sep := (List.cons.inj h).1
        exact absurd (ha ▸ List.mem_cons_self) hleft
    | cons b right =>
        obtain ⟨rfl, htail⟩ := List.cons.inj h
        obtain ⟨rfl, hrest⟩ := ih (fun hmem => hleft (List.mem_cons_of_mem _ hmem))
          (fun hmem => hright (List.mem_cons_of_mem _ hmem)) htail
        exact ⟨rfl, hrest⟩

/-- Segments are read back from the list that they are joined to. -/
theorem joined_inj (hplain : Plain sep segments) (hplain' : Plain sep others)
    (hne : segments ≠ []) (hne' : others ≠ [])
    (h : joined sep segments = joined sep others) : segments = others := by
  induction segments generalizing others with
  | nil => exact absurd rfl hne
  | cons first segments ih =>
    obtain ⟨other, others, rfl⟩ := List.exists_cons_of_ne_nil hne'
    have hfirst : sep ∉ first := hplain first List.mem_cons_self
    have hother : sep ∉ other := hplain' other List.mem_cons_self
    by_cases hsegments : segments = []
    · subst hsegments
      by_cases hothers : others = []
      · subst hothers
        rw [joined_singleton, joined_singleton] at h
        rw [h]
      · rw [joined_singleton, joined_cons hothers] at h
        exact absurd (h ▸ List.mem_append_right _ List.mem_cons_self) hfirst
    · by_cases hothers : others = []
      · subst hothers
        rw [joined_singleton, joined_cons hsegments] at h
        exact absurd (h ▸ List.mem_append_right _ List.mem_cons_self) hother
      · rw [joined_cons hsegments, joined_cons hothers] at h
        obtain ⟨rfl, hrest⟩ := append_sep_inj hfirst hother h
        rw [ih (fun segment hsegment => hplain segment (List.mem_cons_of_mem _ hsegment))
          (fun segment hsegment => hplain' segment (List.mem_cons_of_mem _ hsegment))
          hsegments hothers hrest]

/-- A joined list and a separator begin what the segments begin with more segments. -/
theorem joined_prefix (hne : segments ≠ []) (hothers : others ≠ []) :
    joined sep segments ++ [sep] <+: joined sep (segments ++ others) := by
  induction segments with
  | nil => exact absurd rfl hne
  | cons first segments ih =>
    by_cases hsegments : segments = []
    · subst hsegments
      rw [joined_singleton, List.singleton_append, joined_cons hothers]
      exact ⟨joined sep others, by simp⟩
    · rw [joined_cons hsegments, List.cons_append, joined_cons (by simp [hothers])]
      obtain ⟨rest, hrest⟩ := ih hsegments
      exact ⟨rest, by rw [← hrest]; simp⟩

/-- A joined list and a separator begin another joined list exactly when the segments begin the
other ones, and more follow. -/
theorem joined_prefix_iff (hplain : Plain sep segments) (hplain' : Plain sep others)
    (hne : segments ≠ []) :
    joined sep segments ++ [sep] <+: joined sep others ↔
      ∃ more, more ≠ [] ∧ others = segments ++ more := by
  constructor
  · intro h
    induction segments generalizing others with
    | nil => exact absurd rfl hne
    | cons first segments ih =>
        have hfirst : sep ∉ first := hplain first List.mem_cons_self
        obtain ⟨rest, hrest⟩ := h
        cases others with
        | nil => simp [joined] at hrest
        | cons other others =>
            have hother : sep ∉ other := hplain' other List.mem_cons_self
            by_cases hothers : others = []
            · -- the separator would stand in the only segment
              subst hothers
              rw [joined_singleton] at hrest
              exact absurd (hrest ▸ by simp) hother
            · rw [joined_cons hothers] at hrest
              by_cases hsegments : segments = []
              · subst hsegments
                rw [joined_singleton, List.append_assoc, List.singleton_append] at hrest
                obtain ⟨rfl, -⟩ := append_sep_inj hfirst hother hrest
                exact ⟨others, hothers, rfl⟩
              · rw [joined_cons hsegments, List.append_assoc, List.append_assoc,
                  List.cons_append] at hrest
                obtain ⟨rfl, htail⟩ := append_sep_inj hfirst hother hrest
                obtain ⟨more, hmore, rfl⟩ := ih
                  (fun segment hsegment => hplain segment (List.mem_cons_of_mem _ hsegment))
                  (fun segment hsegment => hplain' segment (List.mem_cons_of_mem _ hsegment))
                  hsegments ⟨rest, by rw [List.append_assoc]; exact htail⟩
                exact ⟨more, hmore, rfl⟩
  · rintro ⟨more, hmore, rfl⟩
    exact joined_prefix hne hmore

end Segments
end Library
end Ascos
