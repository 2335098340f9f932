import Mathlib.Data.List.Infix

/-!
# Lists joined by a doubled separator

Two lists are joined by writing a separator twice between them.  A joined list can be read in
more than one way when a part holds the separator itself.
-/

namespace Ascos
namespace Library
namespace Joined

variable {α : Type*} {sep : α} {first second left right : List α}

/-- Two lists with a doubled separator between them. -/
def join (sep : α) (first second : List α) : List α :=
  first ++ sep :: sep :: second

theorem length_join : (join sep first second).length = first.length + second.length + 2 := by
  simp only [join, List.length_append, List.length_cons]
  omega

theorem join_assoc (middle : List α) :
    join sep (join sep first middle) second = join sep first (join sep middle second) := by
  simp [join]

/-- A reading of a joined list whose second part does not start with the separator is the one
that it was joined by, or it lies in the first part, or in the second. -/
theorem reading_cases (hsecond : second.head? ≠ some sep)
    (h : join sep left right = join sep first second) :
    (left = first ∧ right = second) ∨
      (left.length < first.length ∧ [sep, sep] <:+: first ++ [sep]) ∨
        ∃ middle, left = join sep first middle ∧ second = join sep middle right := by
  unfold join at h
  rcases List.append_eq_append_iff.mp h with ⟨rest, hfirst, hright⟩ | ⟨rest, hleft, hsecond'⟩
  · -- the reading ends no later than the first part
    match rest, hfirst, hright with
    | [], hfirst, hright =>
        rw [List.append_nil] at hfirst
        rw [List.nil_append] at hright
        exact .inl ⟨hfirst.symm, (List.cons.inj (List.cons.inj hright).2).2⟩
    | [a], hfirst, hright =>
        obtain ⟨rfl, hright⟩ := List.cons.inj hright
        refine .inr (.inl ⟨by simp [hfirst], left, [], ?_⟩)
        simp [hfirst]
    | a :: b :: rest, hfirst, hright =>
        obtain ⟨ha, hright⟩ := List.cons.inj hright
        obtain ⟨hb, hright⟩ := List.cons.inj hright
        refine .inr (.inl ⟨by simp [hfirst], left, rest ++ [sep], ?_⟩)
        simp [hfirst, ← ha, ← hb]
  · -- the reading ends after the first part
    match rest, hleft, hsecond' with
    | [], hleft, hsecond' =>
        rw [List.append_nil] at hleft
        rw [List.nil_append] at hsecond'
        exact .inl ⟨hleft, (List.cons.inj (List.cons.inj hsecond').2).2.symm⟩
    | [a], hleft, hsecond' =>
        obtain ⟨-, hsecond'⟩ := List.cons.inj hsecond'
        obtain ⟨-, hsecond'⟩ := List.cons.inj hsecond'
        exact absurd (congrArg List.head? hsecond') hsecond
    | a :: b :: rest, hleft, hsecond' =>
        obtain ⟨ha, hsecond'⟩ := List.cons.inj hsecond'
        obtain ⟨hb, hsecond'⟩ := List.cons.inj hsecond'
        rw [← ha, ← hb] at hleft
        exact .inr (.inr ⟨rest, hleft, hsecond'⟩)

/-- A first part that holds the doubled separator, or would with one more, has another reading
before its end. -/
theorem exists_reading_of_infix (h : [sep, sep] <:+: first ++ [sep]) (second : List α) :
    ∃ left right, join sep left right = join sep first second ∧ left.length < first.length := by
  obtain ⟨left, right, heq⟩ := h
  refine ⟨left, right ++ sep :: second, ?_, ?_⟩
  · have htail := congrArg (· ++ sep :: second) heq
    simpa [join] using htail
  · have hlength := congrArg List.length heq
    simp only [List.length_append, List.length_cons, List.length_nil] at hlength
    omega

/-- A doubled element of a list is on one side of any other element. -/
theorem pair_infix_append_cons {a x : α} (hne : x ≠ a) (h : [a, a] <:+: left ++ x :: right) :
    [a, a] <:+: left ∨ [a, a] <:+: right := by
  induction left with
  | nil =>
    rcases List.infix_cons_iff.mp h with hprefix | hinfix
    · exact absurd (List.cons_prefix_cons.mp hprefix).1.symm hne
    · exact .inr hinfix
  | cons b left ih =>
    rw [List.cons_append] at h
    rcases List.infix_cons_iff.mp h with hprefix | hinfix
    · obtain ⟨hb, hprefix⟩ := List.cons_prefix_cons.mp hprefix
      cases left with
      | nil => exact absurd (List.cons_prefix_cons.mp hprefix).1.symm hne
      | cons c left =>
          obtain ⟨hc, -⟩ := List.cons_prefix_cons.mp hprefix
          exact .inl ⟨[], left, by simp [← hb, ← hc]⟩
    · exact (ih hinfix).imp_left fun hleft => hleft.trans (List.suffix_cons b left).isInfix

end Joined
end Library
end Ascos
