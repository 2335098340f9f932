import Mathlib.Data.List.Forall2

/-!
# Computations that check before they go on

Inversion of a computation in `Except` that returned: each of its parts returned, and
none of its guards was true.
-/

namespace Ascos
namespace Library
namespace Checks

variable {ε α β : Type}

/-- A sequence returns when both of its parts do. -/
theorem bind_ok_iff {x : Except ε α} {f : α → Except ε β} {b : β} :
    (x >>= f) = .ok b ↔ ∃ a, x = .ok a ∧ f a = .ok b := by
  cases x with
  | error e =>
    constructor
    · intro h
      cases h
    · rintro ⟨a, hx, -⟩
      cases hx
  | ok a =>
    constructor
    · exact fun h => ⟨a, rfl, h⟩
    · rintro ⟨a', hx, h⟩
      cases hx
      exact h

/-- A computation that did not raise returned something. -/
theorem exists_of_isOk {x : Except ε α} (h : x.isOk = true) : ∃ a, x = .ok a := by
  cases x with
  | ok a => exact ⟨a, rfl⟩
  | error e => cases h

theorem check_ok_iff {x : Except ε Unit} {f : Unit → Except ε β} {b : β} :
    (x >>= f) = .ok b ↔ x = .ok () ∧ f () = .ok b := by
  rw [bind_ok_iff]
  constructor
  · rintro ⟨⟨⟩, hx, h⟩
    exact ⟨hx, h⟩
  · exact fun h => ⟨(), h⟩

/-- A guard that raises lets the rest go on when its condition is false. -/
theorem guard_ok_iff {c : Prop} [Decidable c] {e : ε} {x : Except ε β} {b : β} :
    (if c then throw e else x) = .ok b ↔ ¬c ∧ x = .ok b := by
  by_cases hc : c
  · rw [if_pos hc]
    constructor
    · intro h
      cases h
    · exact fun h => absurd hc h.1
  · rw [if_neg hc]
    exact ⟨fun h => ⟨hc, h⟩, fun h => h.2⟩

/-- The guard in the middle of a sequence, where the raise skips what follows it. -/
theorem guard_bind_ok_iff {c : Prop} [Decidable c] {e : ε} {rest : α → Except ε β}
    {x : Except ε β} {b : β} :
    (if c then throw e >>= rest else x) = .ok b ↔ ¬c ∧ x = .ok b :=
  guard_ok_iff

theorem pure_ok_iff {a b : α} : (pure a : Except ε α) = .ok b ↔ a = b := by
  constructor
  · intro h
    cases h
    rfl
  · rintro rfl
    rfl

/-- A traversal that returns turned each element into the one at its place. -/
theorem forall₂_of_mapM_ok {f : α → Except ε β} {xs : List α} :
    ∀ {ys : List β}, xs.mapM f = .ok ys → List.Forall₂ (fun x y => f x = .ok y) xs ys := by
  induction xs with
  | nil =>
    intro ys h
    rw [List.mapM_nil, pure_ok_iff] at h
    subst h
    exact .nil
  | cons x xs ih =>
    intro ys h
    rw [List.mapM_cons, bind_ok_iff] at h
    obtain ⟨y, hy, h⟩ := h
    rw [bind_ok_iff] at h
    obtain ⟨rest, hrest, h⟩ := h
    rw [pure_ok_iff] at h
    subst h
    exact .cons hy (ih hrest)

/-- What a traversal returns came from one of its elements. -/
theorem exists_of_mem_mapM_ok {f : α → Except ε β} {xs : List α} {ys : List β}
    (h : xs.mapM f = .ok ys) : ∀ y ∈ ys, ∃ x ∈ xs, f x = .ok y := by
  have hpairs := forall₂_of_mapM_ok h
  clear h
  induction hpairs with
  | nil => simp
  | cons hxy _ ih =>
    intro y hy
    rcases List.mem_cons.mp hy with rfl | hy
    · exact ⟨_, List.mem_cons_self, hxy⟩
    · obtain ⟨x, hx, hf⟩ := ih y hy
      exact ⟨x, List.mem_cons_of_mem _ hx, hf⟩

/-- A traversal that returns met no element that raises. -/
theorem exists_of_mapM_ok {f : α → Except ε β} {xs : List α} {ys : List β}
    (h : xs.mapM f = .ok ys) : ∀ x ∈ xs, ∃ y ∈ ys, f x = .ok y := by
  have hpairs := forall₂_of_mapM_ok h
  clear h
  induction hpairs with
  | nil => simp
  | cons hxy _ ih =>
    intro x hx
    rcases List.mem_cons.mp hx with rfl | hx
    · exact ⟨_, List.mem_cons_self, hxy⟩
    · obtain ⟨y, hy, hf⟩ := ih x hx
      exact ⟨y, List.mem_cons_of_mem _ hy, hf⟩

/-- A traversal none of whose elements raises returns. -/
theorem mapM_ok_of_forall {f : α → Except ε β} {xs : List α} (h : ∀ x ∈ xs, ∃ y, f x = .ok y) :
    ∃ ys, xs.mapM f = .ok ys := by
  induction xs with
  | nil => exact ⟨[], by simp [pure, Except.pure]⟩
  | cons x xs ih =>
    obtain ⟨y, hy⟩ := h x List.mem_cons_self
    obtain ⟨ys, hys⟩ := ih fun z hz => h z (List.mem_cons_of_mem _ hz)
    refine ⟨y :: ys, ?_⟩
    rw [List.mapM_cons, bind_ok_iff]
    refine ⟨y, hy, ?_⟩
    rw [bind_ok_iff]
    exact ⟨ys, hys, rfl⟩

/-- A check of each element passes when every element does. -/
theorem forM_ok_iff {f : α → Except ε Unit} {xs : List α} :
    xs.forM f = .ok () ↔ ∀ x ∈ xs, f x = .ok () := by
  induction xs with
  | nil => simp [List.forM, pure, Except.pure]
  | cons x xs ih =>
    have hcons : (x :: xs).forM f = f x >>= fun _ => xs.forM f := rfl
    rw [hcons, List.forall_mem_cons, ← ih, bind_ok_iff]
    constructor
    · rintro ⟨_, hx, hxs⟩
      exact ⟨hx, hxs⟩
    · rintro ⟨hx, hxs⟩
      exact ⟨(), hx, hxs⟩

/-- A view that no element loses on its way is kept by the traversal. -/
theorem map_eq_of_mapM_ok {γ : Type} {f : α → Except ε β} {before : α → γ} {after : β → γ}
    (hkeeps : ∀ x y, f x = .ok y → after y = before x) {xs : List α} {ys : List β}
    (h : xs.mapM f = .ok ys) : ys.map after = xs.map before := by
  have hpairs := forall₂_of_mapM_ok h
  clear h
  induction hpairs with
  | nil => rfl
  | cons hxy _ ih => rw [List.map_cons, List.map_cons, hkeeps _ _ hxy, ih]

/-- A traversal that finds everything finds the same where more can be found. -/
theorem mapM_some_mono {f g : α → Option β} {xs : List α}
    (hmono : ∀ x ∈ xs, ∀ y, f x = some y → g x = some y) :
    ∀ {ys : List β}, xs.mapM f = some ys → xs.mapM g = some ys := by
  induction xs with
  | nil => exact id
  | cons x xs ih =>
    intro ys h
    rw [List.mapM_cons] at h ⊢
    cases hx : f x with
    | none => simp [hx] at h
    | some y =>
        cases hxs : xs.mapM f with
        | none => simp [hx, hxs] at h
        | some rest =>
            have hx' := hmono x (List.mem_cons_self ..) y hx
            have hxs' := ih (fun z hz => hmono z (List.mem_cons_of_mem _ hz)) hxs
            rw [hx, hxs] at h
            rw [hx', hxs']
            exact h

/-! ## What a computation can raise -/

/-- Every exception that a computation can raise has a property. -/
def Raises (p : ε → Prop) (x : Except ε α) : Prop :=
  ∀ e, x = .error e → p e

variable {p : ε → Prop}

theorem raises_pure {a : α} : Raises p (pure a : Except ε α) := by
  rintro e ⟨⟩

theorem raises_throw {e : ε} (h : p e) : Raises p (throw e : Except ε α) := by
  rintro e' ⟨⟩
  exact h

theorem Raises.bind {x : Except ε α} {f : α → Except ε β} (hx : Raises p x)
    (hf : ∀ a, Raises p (f a)) : Raises p (x >>= f) := by
  cases x with
  | error e =>
    rintro e' ⟨⟩
    exact hx e rfl
  | ok a => exact hf a

theorem Raises.ite {c : Prop} [Decidable c] {x y : Except ε α} (hx : Raises p x)
    (hy : Raises p y) : Raises p (if c then x else y) := by
  split
  · exact hx
  · exact hy

theorem Raises.guard {c : Prop} [Decidable c] {e : ε} {rest : α → Except ε β}
    {x : Except ε β} (he : p e) (hx : Raises p x) :
    Raises p (if c then throw e >>= rest else x) := by
  apply Raises.ite _ hx
  rintro e' ⟨⟩
  exact he

theorem raises_forM {f : α → Except ε PUnit} {xs : List α} (h : ∀ x, Raises p (f x)) :
    Raises p (xs.forM f) := by
  induction xs with
  | nil => exact raises_pure
  | cons x xs ih =>
    change Raises p (f x >>= fun _ => xs.forM f)
    exact (h x).bind fun _ => ih

end Checks
end Library
end Ascos
