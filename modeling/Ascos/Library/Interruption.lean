import Mathlib.Data.List.Chain

/-!
# Procedures that may be cut short

A procedure takes atomic steps, each of which changes the state as a whole, until it returns
or raises.  The process that runs it may die before any of its steps; what is left is the
state after the steps that it took.  No handler runs then.
-/

namespace Ascos
namespace Library

/-- A procedure of atomic steps.  What follows a step may depend on the state that the step
has found. -/
inductive Procedure (σ ε α : Type) where
  | done (result : Except ε α)
  | step (effect : σ → σ) (next : σ → Procedure σ ε α)

namespace Procedure

variable {σ ε δ α β κ : Type}

/-! ## Constructors -/

/-- One procedure after the other; a raise ends the sequence. -/
protected def bind (x : Procedure σ ε α) (f : α → Procedure σ ε β) : Procedure σ ε β :=
  match x with
  | .done (.ok a) => f a
  | .done (.error e) => .done (.error e)
  | .step effect next => .step effect fun s => (next s).bind f

instance : Monad (Procedure σ ε) where
  pure a := .done (.ok a)
  bind := Procedure.bind

def raise (e : ε) : Procedure σ ε α :=
  .done (.error e)

def ofExcept (result : Except ε α) : Procedure σ ε α :=
  .done result

def handle (x : Procedure σ ε α) (handler : ε → Procedure σ ε α) : Procedure σ ε α :=
  match x with
  | .done (.ok a) => .done (.ok a)
  | .done (.error e) => handler e
  | .step effect next => .step effect fun s => (next s).handle handler

/-- A handler of what a procedure raises that may raise something else. -/
def rescue (x : Procedure σ ε α) (handler : ε → Procedure σ δ α) : Procedure σ δ α :=
  match x with
  | .done (.ok a) => .done (.ok a)
  | .done (.error e) => handler e
  | .step effect next => .step effect fun s => (next s).rescue handler

/-- A step that answers from the state that it finds. -/
def query (answer : σ → Except ε α) : Procedure σ ε α :=
  .step id fun s => .done (answer s)

/-- A step that changes the state. -/
def modify (effect : σ → σ) : Procedure σ ε Unit :=
  .step effect fun _ => .done (.ok ())

/-- A step that changes the state or raises and leaves it. -/
def attempt (effect : σ → Except ε σ) : Procedure σ ε Unit :=
  .step (fun s => ((effect s).toOption).getD s) fun s => .done ((effect s).map fun _ => ())

/-! ## Runs -/

def run : Procedure σ ε α → σ → Except ε α × σ
  | .done result, s => (result, s)
  | .step effect next, s => (next s).run (effect s)

/-- The state that is left when the process dies after some steps; a procedure that takes no
more steps than that has ended. -/
def left : Procedure σ ε α → Nat → σ → σ
  | .done _, _, s => s
  | .step _ _, 0, s => s
  | .step effect next, n + 1, s => (next s).left n (effect s)

/-- What follows a procedure that returns runs from the state that it leaves. -/
theorem run_bind_of_ok {x : Procedure σ ε α} {f : α → Procedure σ ε β} {s t : σ} {a : α}
    (h : x.run s = (.ok a, t)) : (x >>= f).run s = (f a).run t := by
  induction x generalizing s with
  | done result =>
    cases h
    rfl
  | step effect next ih => exact ih s h

/-- A procedure that raises ends the sequence. -/
theorem run_bind_of_error {x : Procedure σ ε α} {f : α → Procedure σ ε β} {s t : σ} {e : ε}
    (h : x.run s = (.error e, t)) : (x >>= f).run s = (.error e, t) := by
  induction x generalizing s with
  | done result =>
    cases h
    rfl
  | step effect next ih => exact ih s h

/-- A look at the state leaves it, wherever it is cut short. -/
theorem left_query {answer : σ → Except ε α} {s : σ} (stop : Nat) :
    (query answer).left stop s = s := by
  cases stop with
  | zero => rfl
  | succ stop => rfl

/-- What is made of a result takes no step. -/
theorem left_bind_pure {x : Procedure σ ε α} {f : α → β} {s : σ} (stop : Nat) :
    (x >>= fun a => pure (f a)).left stop s = x.left stop s := by
  induction x generalizing s stop with
  | done result => cases result <;> rfl
  | step effect next ih =>
    cases stop with
    | zero => rfl
    | succ n => exact ih s n

/-! ## Guarantees -/

/-- Every step of the procedure stands in a relation, and it returns or raises as the
postconditions say. -/
def Obeys (guarantee : σ → σ → Prop) (x : Procedure σ ε α) (s : σ) (Q : α → σ → Prop)
    (E : ε → σ → Prop) : Prop :=
  match x with
  | .done (.ok a) => Q a s
  | .done (.error e) => E e s
  | .step effect next => guarantee s (effect s) ∧ Obeys guarantee (next s) (effect s) Q E

variable {guarantee other : σ → σ → Prop} {x : Procedure σ ε α} {s : σ} {Q Q' : α → σ → Prop}
  {E E' : ε → σ → Prop} {R : β → σ → Prop}

@[simp]
theorem obeys_pure {a : α} : Obeys guarantee (pure a : Procedure σ ε α) s Q E ↔ Q a s :=
  Iff.rfl

@[simp]
theorem obeys_raise {e : ε} : Obeys guarantee (raise e : Procedure σ ε α) s Q E ↔ E e s :=
  Iff.rfl

@[simp]
theorem obeys_ok {a : α} :
    Obeys guarantee (ofExcept (.ok a) : Procedure σ ε α) s Q E ↔ Q a s :=
  Iff.rfl

@[simp]
theorem obeys_error {e : ε} :
    Obeys guarantee (ofExcept (.error e) : Procedure σ ε α) s Q E ↔ E e s :=
  Iff.rfl

/-- Both ends of a result. -/
theorem obeys_ofExcept {result : Except ε α} : Obeys guarantee (ofExcept result) s Q E ↔
    (∀ a, result = .ok a → Q a s) ∧ ∀ e, result = .error e → E e s := by
  cases result with
  | ok a => simp
  | error e => simp

@[simp]
theorem obeys_query {answer : σ → Except ε α} : Obeys guarantee (query answer) s Q E ↔
    guarantee s s ∧ Obeys guarantee (ofExcept (answer s)) s Q E :=
  Iff.rfl

@[simp]
theorem obeys_modify {effect : σ → σ} {Q : Unit → σ → Prop} :
    Obeys guarantee (modify effect : Procedure σ ε Unit) s Q E ↔
      guarantee s (effect s) ∧ Q () (effect s) :=
  Iff.rfl

theorem obeys_attempt {effect : σ → Except ε σ} {Q : Unit → σ → Prop} :
    Obeys guarantee (attempt effect) s Q E ↔
      (∀ t, effect s = .ok t → guarantee s t ∧ Q () t) ∧
        ∀ e, effect s = .error e → guarantee s s ∧ E e s := by
  unfold attempt
  cases heffect : effect s with
  | ok t => simp [Obeys, heffect, Except.toOption, Except.map]
  | error e => simp [Obeys, heffect, Except.toOption, Except.map]

/-- The second procedure starts where the first one returns. -/
@[simp]
theorem obeys_bind {f : α → Procedure σ ε β} : Obeys guarantee (x >>= f) s R E ↔
    Obeys guarantee x s (fun a t => Obeys guarantee (f a) t R E) E := by
  induction x generalizing s with
  | done result => cases result <;> exact Iff.rfl
  | step effect next ih => exact and_congr_right fun _ => ih s

@[simp]
theorem obeys_handle {handler : ε → Procedure σ ε α} :
    Obeys guarantee (x.handle handler) s Q E ↔
      Obeys guarantee x s Q fun e t => Obeys guarantee (handler e) t Q E := by
  induction x generalizing s with
  | done result => cases result <;> exact Iff.rfl
  | step effect next ih => exact and_congr_right fun _ => ih s

/-- The handler starts where the procedure raises, whatever it may raise itself. -/
@[simp]
theorem obeys_rescue {handler : ε → Procedure σ δ α} {D : δ → σ → Prop} :
    Obeys guarantee (x.rescue handler) s Q D ↔
      Obeys guarantee x s Q fun e t => Obeys guarantee (handler e) t Q D := by
  induction x generalizing s with
  | done result => cases result <;> exact Iff.rfl
  | step effect next ih => exact and_congr_right fun _ => ih s

theorem obeys_ite {p : Prop} [Decidable p] {y : Procedure σ ε α} :
    Obeys guarantee (if p then x else y) s Q E ↔
      (p → Obeys guarantee x s Q E) ∧ (¬p → Obeys guarantee y s Q E) := by
  by_cases hp : p
  · simp [hp]
  · simp [hp]

theorem Obeys.mono (h : Obeys guarantee x s Q E) (hQ : ∀ a t, Q a t → Q' a t)
    (hE : ∀ e t, E e t → E' e t) : Obeys guarantee x s Q' E' := by
  induction x generalizing s with
  | done result =>
    cases result with
    | ok a => exact hQ a s h
    | error e => exact hE e s h
  | step effect next ih => exact ⟨h.1, ih s h.2⟩

/-! ## What the guarantee says about runs -/

theorem Obeys.run (h : Obeys guarantee x s Q E) :
    (∀ a t, x.run s = (.ok a, t) → Q a t) ∧ ∀ e t, x.run s = (.error e, t) → E e t := by
  induction x generalizing s with
  | done result =>
    cases result with
    | ok a =>
        refine ⟨fun a' t hrun => ?_, fun e t hrun => ?_⟩
        · cases hrun
          exact h
        · cases hrun
    | error e =>
        refine ⟨fun a t hrun => ?_, fun e' t hrun => ?_⟩
        · cases hrun
        · cases hrun
          exact h
  | step effect next ih => exact ih s h.2

theorem Obeys.returns (h : Obeys guarantee x s Q fun _ _ => False) :
    ∃ a t, x.run s = (.ok a, t) ∧ Q a t := by
  obtain ⟨hok, herror⟩ := h.run
  cases hrun : x.run s with
  | mk result t =>
    cases result with
    | ok a => exact ⟨a, t, rfl, hok a t hrun⟩
    | error e => exact (herror e t hrun).elim

/-- A property that the steps keep holds in the state that is left. -/
theorem Obeys.left {P : σ → Prop} (h : Obeys guarantee x s Q E) (hs : P s)
    (hkeep : ∀ t u, P t → guarantee t u → P u) (stop : Nat) : P (x.left stop s) := by
  induction x generalizing s stop with
  | done result => exact hs
  | step effect next ih =>
    cases stop with
    | zero => exact hs
    | succ n => exact ih s h.2 (hkeep _ _ hs h.1) n

/-- A property that the steps keep holds at the end of a run to the end. -/
theorem Obeys.final {P : σ → Prop} (h : Obeys guarantee x s Q E) (hs : P s)
    (hkeep : ∀ t u, P t → guarantee t u → P u) : P (x.run s).2 := by
  induction x generalizing s with
  | done result => exact hs
  | step effect next ih => exact ih s h.2 (hkeep _ _ hs h.1)

end Procedure
end Library
end Ascos
