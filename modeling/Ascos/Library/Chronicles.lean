import Mathlib.Data.List.Induction

/-!
# Chronicles

A list in which every entry stands in a given relation to the entries before it.  Such a list
is built entry by entry, and each entry has to be justified once, when it is put behind the
others.
-/

namespace Ascos
namespace Library

variable {α : Type} {P : List α → α → Prop} {entries : List α}

/-- Every entry stands in a relation to the entries before it. -/
def Chronicle (P : List α → α → Prop) (entries : List α) : Prop :=
  ∀ earlier entry later, entries = earlier ++ entry :: later → P earlier entry

theorem Chronicle.nil : Chronicle P [] := by
  intro earlier entry later h
  simp at h

theorem Chronicle.of_append {more : List α} (h : Chronicle P (entries ++ more)) :
    Chronicle P entries := by
  intro earlier entry later hentries
  exact h earlier entry (later ++ more) (by rw [hentries]; simp)

/-- One more entry has to be justified by the entries before it. -/
theorem chronicle_concat {entry : α} :
    Chronicle P (entries ++ [entry]) ↔ Chronicle P entries ∧ P entries entry := by
  constructor
  · intro h
    exact ⟨h.of_append, h entries entry [] rfl⟩
  · rintro ⟨hentries, hentry⟩ earlier other later hsplit
    rcases List.eq_nil_or_concat later with rfl | ⟨later, last, rfl⟩
    · obtain ⟨rfl, hother⟩ := List.append_inj' hsplit rfl
      rw [List.singleton_inj] at hother
      rwa [← hother]
    · have hsplit' : entries ++ [entry] = (earlier ++ other :: later) ++ [last] := by
        rw [hsplit]
        simp
      exact hentries earlier other later (List.append_inj' hsplit' rfl).1

/-- More entries, each of which is justified wherever it may stand. -/
theorem Chronicle.append {more : List α} (h : Chronicle P entries)
    (hmore : ∀ entry ∈ more, ∀ earlier, P earlier entry) : Chronicle P (entries ++ more) := by
  induction more using List.reverseRecOn with
  | nil => rwa [List.append_nil]
  | append_singleton more entry ih =>
    rw [← List.append_assoc]
    refine chronicle_concat.mpr ⟨ih fun other hother => ?_, ?_⟩
    · exact hmore other (List.mem_append_left _ hother)
    · exact hmore entry (List.mem_append_right _ (List.mem_singleton_self _)) _

end Library
end Ascos
