import Mathlib.Tactic.Common

/-!
# Programs with state and raised errors

A `Program σ ε α` reads and writes a state `σ` and either returns an
`α` or raises an `ε`.  A raise keeps the writes made before it, as an
exception does in an imperative language with mutable objects; nothing is undone
unless a handler undoes it.

The module gives the execution equations of the program constructors, and what it
means for a program to leave the state alone, always or when it raises.
-/

namespace Ascos
namespace Library

/-- A stateful program that returns or raises; a raise keeps earlier writes. -/
abbrev Program (σ ε α : Type) := ExceptT ε (StateM σ) α

namespace Program

variable {σ ε α β : Type}

/-- Run a program from a state, giving its outcome and the state it leaves. -/
def exec (x : Program σ ε α) (s : σ) : Except ε α × σ :=
  x.run.run s

@[simp]
theorem exec_pure (a : α) (s : σ) :
    exec (pure a : Program σ ε α) s = (.ok a, s) :=
  rfl

@[simp]
theorem exec_throw (e : ε) (s : σ) :
    exec (throw e : Program σ ε α) s = (.error e, s) :=
  rfl

@[simp]
theorem exec_get (s : σ) : exec (get : Program σ ε σ) s = (.ok s, s) :=
  rfl

@[simp]
theorem exec_set (s t : σ) : exec (set t : Program σ ε PUnit) s = (.ok ⟨⟩, t) :=
  rfl

@[simp]
theorem exec_modify (f : σ → σ) (s : σ) :
    exec (modify f : Program σ ε PUnit) s = (.ok ⟨⟩, f s) :=
  rfl

/-- A sequence stops at the first raise and keeps what was written before it. -/
@[simp]
theorem exec_bind (x : Program σ ε α) (f : α → Program σ ε β) (s : σ) :
    exec (x >>= f) s =
      match exec x s with
      | (.ok a, s') => exec (f a) s'
      | (.error e, s') => (.error e, s') := by
  change (ExceptT.run (x >>= f)).run s = _
  simp only [exec, ExceptT.run_bind, StateT.run_bind]
  rcases x.run.run s with ⟨_ | _, s'⟩ <;> rfl

/-- A sequence that returns went through its first part. -/
theorem exec_bind_ok {x : Program σ ε α} {f : α → Program σ ε β} {s s' : σ} {b : β}
    (h : exec (x >>= f) s = (.ok b, s')) :
    ∃ a t, exec x s = (.ok a, t) ∧ exec (f a) t = (.ok b, s') := by
  rw [exec_bind] at h
  rcases hx : exec x s with ⟨e | a, t⟩ <;> rw [hx] at h
  · cases h
  · exact ⟨a, t, rfl, h⟩

@[simp]
theorem exec_map (f : α → β) (x : Program σ ε α) (s : σ) :
    exec (f <$> x) s =
      match exec x s with
      | (.ok a, s') => (.ok (f a), s')
      | (.error e, s') => (.error e, s') := by
  rw [← bind_pure_comp, exec_bind]
  rfl

/-- A mapped program that returns comes from the program returning. -/
theorem exec_map_ok {f : α → β} {x : Program σ ε α} {s s' : σ} {b : β}
    (h : exec (f <$> x) s = (.ok b, s')) : ∃ a, exec x s = (.ok a, s') ∧ b = f a := by
  rw [exec_map] at h
  rcases hx : exec x s with ⟨e | a, t⟩ <;> rw [hx] at h <;> cases h
  exact ⟨a, rfl, rfl⟩

/-- A handler starts from the state the failed program left. -/
@[simp]
theorem exec_tryCatch (x : Program σ ε α) (h : ε → Program σ ε α) (s : σ) :
    exec (tryCatch x h) s =
      match exec x s with
      | (.ok a, s') => (.ok a, s')
      | (.error e, s') => exec (h e) s' := by
  change (ExceptT.run (tryCatch x h)).run s = _
  rw [ExceptT.run_tryCatch]
  simp only [exec, StateT.run_bind]
  rcases x.run.run s with ⟨_ | _, s'⟩ <;> rfl

@[simp]
theorem exec_ite (c : Prop) [Decidable c] (x y : Program σ ε α) (s : σ) :
    exec (if c then x else y) s = if c then exec x s else exec y s := by
  split <;> rfl

/-! ## Raising without writing -/

/-- A program that leaves the state alone, whatever its outcome. -/
def ReadOnly (x : Program σ ε α) : Prop :=
  ∀ s, (exec x s).2 = s

/-- A program that never raises. -/
def Total (x : Program σ ε α) : Prop :=
  ∀ s, ∃ a s', exec x s = (.ok a, s')

/-- A program that leaves the state alone whenever it raises. -/
def RaisesUnchanged (x : Program σ ε α) : Prop :=
  ∀ s e s', exec x s = (.error e, s') → s' = s

theorem RaisesUnchanged.throw (e : ε) : RaisesUnchanged (throw e : Program σ ε α) := by
  intro s e' s' h
  rw [exec_throw, Prod.mk.injEq] at h
  exact h.2.symm

theorem Total.raisesUnchanged {x : Program σ ε α} (hx : Total x) : RaisesUnchanged x := by
  intro s e s' h
  obtain ⟨a, t, hok⟩ := hx s
  rw [hok] at h
  simp at h

/-- Reading first keeps the property of what follows. -/
theorem RaisesUnchanged.bind {x : Program σ ε α} {f : α → Program σ ε β}
    (hx : ReadOnly x) (hf : ∀ a, RaisesUnchanged (f a)) : RaisesUnchanged (x >>= f) := by
  intro s e s' h
  have hstate := hx s
  rw [exec_bind] at h
  rcases hexec : exec x s with ⟨_ | a, t⟩
  · rw [hexec] at h hstate
    simp only [Prod.mk.injEq] at h
    exact h.2.symm.trans hstate
  · rw [hexec] at h hstate
    exact (hf a t e s' h).trans hstate

theorem RaisesUnchanged.map {x : Program σ ε α} (f : α → β) (hx : RaisesUnchanged x) :
    RaisesUnchanged (f <$> x) := by
  intro s e s' h
  rw [exec_map] at h
  rcases hexec : exec x s with ⟨e' | a, t⟩
  · rw [hexec] at h
    simp only [Prod.mk.injEq] at h
    rw [← h.2]
    exact hx s e' t hexec
  · rw [hexec] at h
    simp at h

theorem exec_map_snd (f : α → β) (x : Program σ ε α) (s : σ) :
    (exec (f <$> x) s).2 = (exec x s).2 := by
  rw [exec_map]
  rcases exec x s with ⟨_ | _, _⟩ <;> rfl

/-- A continuation that only reads leaves the state of the first program. -/
theorem exec_bind_snd_of_readOnly {x : Program σ ε α} {f : α → Program σ ε β}
    (hf : ∀ a, ReadOnly (f a)) (s : σ) : (exec (x >>= f) s).2 = (exec x s).2 := by
  rw [exec_bind]
  rcases exec x s with ⟨e | a, s'⟩
  · rfl
  · exact hf a s'

/-- Mapping the result does not hide a write. -/
theorem RaisesUnchanged.of_map {f : α → β} {x : Program σ ε α}
    (hx : RaisesUnchanged (f <$> x)) : RaisesUnchanged x := by
  intro s e s' h
  refine hx s e s' ?_
  rw [exec_map, h]

/-! ## Moving along a relation -/

/-- Whatever its outcome, the program leaves a state that is related to the one it started
from. -/
def Moves (R : σ → σ → Prop) (x : Program σ ε α) : Prop :=
  ∀ s, R s (exec x s).2

section Moves

variable {R : σ → σ → Prop}

theorem Moves.pure (hrefl : ∀ s, R s s) (a : α) : Moves R (pure a : Program σ ε α) :=
  hrefl

theorem Moves.throw (hrefl : ∀ s, R s s) (e : ε) : Moves R (throw e : Program σ ε α) :=
  hrefl

theorem Moves.bind (htrans : ∀ s t u, R s t → R t u → R s u) {x : Program σ ε α}
    {f : α → Program σ ε β} (hx : Moves R x) (hf : ∀ a, Moves R (f a)) :
    Moves R (x >>= f) := by
  intro s
  have hfirst := hx s
  rw [exec_bind]
  rcases hexec : exec x s with ⟨e | a, t⟩ <;> rw [hexec] at hfirst
  · exact hfirst
  · exact htrans s t _ hfirst (hf a t)

theorem Moves.tryCatch (htrans : ∀ s t u, R s t → R t u → R s u) {x : Program σ ε α}
    {h : ε → Program σ ε α} (hx : Moves R x) (hh : ∀ e, Moves R (h e)) :
    Moves R (tryCatch x h) := by
  intro s
  have hfirst := hx s
  rw [exec_tryCatch]
  rcases hexec : exec x s with ⟨e | a, t⟩ <;> rw [hexec] at hfirst
  · exact htrans s t _ hfirst (hh e t)
  · exact hfirst

end Moves

/-- Whatever the program returns satisfies a condition. -/
def Returns (P : α → Prop) (x : Program σ ε α) : Prop :=
  ∀ s a s', exec x s = (.ok a, s') → P a

section Returns

variable {P : β → Prop}

theorem Returns.pure {b : β} (hb : P b) : Returns P (pure b : Program σ ε β) := by
  rintro s b' s' h
  cases h
  exact hb

theorem Returns.throw (e : ε) : Returns P (throw e : Program σ ε β) := by
  rintro s b s' h
  cases h

theorem Returns.bind {x : Program σ ε α} {f : α → Program σ ε β}
    (hf : ∀ a, Returns P (f a)) : Returns P (x >>= f) := by
  intro s b s' h
  rw [exec_bind] at h
  rcases hexec : exec x s with ⟨e | a, t⟩ <;> rw [hexec] at h
  · cases h
  · exact hf a t b s' h

theorem Returns.tryCatch {x : Program σ ε β} {h : ε → Program σ ε β} (hx : Returns P x)
    (hh : ∀ e, Returns P (h e)) : Returns P (tryCatch x h) := by
  intro s b s' hexec
  rw [exec_tryCatch] at hexec
  rcases hfirst : exec x s with ⟨e | a, t⟩ <;> rw [hfirst] at hexec
  · exact hh e t b s' hexec
  · cases hexec
    exact hx s _ _ hfirst

end Returns

end Program
end Library
end Ascos
