import Ascos.Library.Program

/-!
# Lock-step simulation of programs

Two programs over different states run in lock step when related states lead to
related outcomes and related states.  Both return or both raise the same error,
and handlers may continue from the states a raise left.
-/

namespace Ascos
namespace Library
namespace Program

variable {σ τ ε α β α' β' : Type}

/-- Both outcomes return related values, or both raise the same error. -/
def RelatedOutcomes (R : α → β → Prop) : Except ε α → Except ε β → Prop
  | .ok a, .ok b => R a b
  | .error e, .error e' => e = e'
  | _, _ => False

/-- From related states the programs reach related outcomes and related states. -/
def Simulates (S : σ → τ → Prop) (R : α → β → Prop) (x : Program σ ε α)
    (y : Program τ ε β) : Prop :=
  ∀ s t, S s t → RelatedOutcomes R (exec x s).1 (exec y t).1 ∧ S (exec x s).2 (exec y t).2

namespace Simulates

variable {S : σ → τ → Prop} {R : α → β → Prop} {R' : α' → β' → Prop}

theorem pure {a : α} {b : β} (h : R a b) :
    Simulates S R (pure a : Program σ ε α) (pure b : Program τ ε β) :=
  fun _ _ hst => ⟨h, hst⟩

theorem throw (e : ε) :
    Simulates S R (throw e : Program σ ε α) (throw e : Program τ ε β) :=
  fun _ _ hst => ⟨rfl, hst⟩

theorem bind {x : Program σ ε α} {y : Program τ ε β} {f : α → Program σ ε α'}
    {g : β → Program τ ε β'} (hxy : Simulates S R x y)
    (hfg : ∀ a b, R a b → Simulates S R' (f a) (g b)) :
    Simulates S R' (x >>= f) (y >>= g) := by
  intro s t hst
  obtain ⟨hrel, hstate⟩ := hxy s t hst
  rw [exec_bind, exec_bind]
  rcases hx : exec x s with ⟨e | a, s'⟩ <;> rcases hy : exec y t with ⟨e' | b, t'⟩ <;>
    rw [hx, hy] at hrel hstate
  · exact ⟨hrel, hstate⟩
  · exact hrel.elim
  · exact hrel.elim
  · exact hfg a b hrel s' t' hstate

theorem tryCatch {x : Program σ ε α} {y : Program τ ε β} {f : ε → Program σ ε α}
    {g : ε → Program τ ε β} (hxy : Simulates S R x y)
    (hfg : ∀ e, Simulates S R (f e) (g e)) :
    Simulates S R (tryCatch x f) (tryCatch y g) := by
  intro s t hst
  obtain ⟨hrel, hstate⟩ := hxy s t hst
  rw [exec_tryCatch, exec_tryCatch]
  rcases hx : exec x s with ⟨e | a, s'⟩ <;> rcases hy : exec y t with ⟨e' | b, t'⟩ <;>
    rw [hx, hy] at hrel hstate
  · obtain rfl : e = e' := hrel
    exact hfg e s' t' hstate
  · exact hrel.elim
  · exact hrel.elim
  · exact ⟨hrel, hstate⟩

/-- Parts that return the same value. -/
theorem bind_eq {x : Program σ ε α} {y : Program τ ε α} {f : α → Program σ ε α'}
    {g : α → Program τ ε β'} (hxy : Simulates S Eq x y)
    (hfg : ∀ a, Simulates S R' (f a) (g a)) : Simulates S R' (x >>= f) (y >>= g) := by
  refine hxy.bind ?_
  rintro a _ rfl
  exact hfg a

/-- Reading the states gives related states. -/
theorem get : Simulates S S (get : Program σ ε σ) (get : Program τ ε τ) :=
  fun _ _ hst => ⟨hst, hst⟩

theorem set {s : σ} {t : τ} (h : S s t) :
    Simulates S Eq (set s : Program σ ε PUnit) (set t : Program τ ε PUnit) :=
  fun _ _ _ => ⟨rfl, h⟩

theorem modify {f : σ → σ} {g : τ → τ} (h : ∀ s t, S s t → S (f s) (g t)) :
    Simulates S Eq (modify f : Program σ ε PUnit) (modify g : Program τ ε PUnit) :=
  fun s t hst => ⟨rfl, h s t hst⟩

/-- Mapping the same function over equal results. -/
theorem map_eq {x : Program σ ε α} {y : Program τ ε α} (f : α → α')
    (hxy : Simulates S Eq x y) : Simulates S Eq (f <$> x) (f <$> y) := by
  rw [← bind_pure_comp, ← bind_pure_comp]
  exact hxy.bind_eq fun a => .pure rfl

/-- Programs in lock step that return equal values have the same outcome. -/
theorem outcome_eq {x : Program σ ε α} {y : Program τ ε α} (hxy : Simulates S Eq x y) {s : σ}
    {t : τ} (hst : S s t) : (exec x s).1 = (exec y t).1 := by
  have hrel := (hxy s t hst).1
  rcases hx : (exec x s).1 with e | a <;> rcases hy : (exec y t).1 with e' | b <;>
    rw [hx, hy] at hrel
  · exact congrArg Except.error hrel
  · exact hrel.elim
  · exact hrel.elim
  · exact congrArg Except.ok hrel

end Simulates
end Program
end Library
end Ascos
