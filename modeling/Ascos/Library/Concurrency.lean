import Mathlib.Data.List.Basic

/-!
# Calls that run side by side

A call is a script of atomic operations on a state that it shares with other calls; what
follows an operation may depend on the state that the operation has found.  A pool runs any
number of calls, each of which may die before any of its operations.
-/

namespace Ascos
namespace Library

/-- A call as its atomic operations. -/
inductive Script (σ ο ε α : Type) where
  | done (result : Except ε α)
  | step (operation : ο) (next : σ → Script σ ο ε α)

namespace Script

variable {σ ο ε α β : Type}

/-! ## Constructors -/

/-- One script after the other; a raise ends the sequence. -/
protected def bind (x : Script σ ο ε α) (f : α → Script σ ο ε β) : Script σ ο ε β :=
  match x with
  | .done (.ok a) => f a
  | .done (.error e) => .done (.error e)
  | .step operation next => .step operation fun s => (next s).bind f

instance : Monad (Script σ ο ε) where
  pure a := .done (.ok a)
  bind := Script.bind

def raise (e : ε) : Script σ ο ε α :=
  .done (.error e)

def ofExcept (result : Except ε α) : Script σ ο ε α :=
  .done result

def handle (x : Script σ ο ε α) (handler : ε → Script σ ο ε α) : Script σ ο ε α :=
  match x with
  | .done (.ok a) => .done (.ok a)
  | .done (.error e) => handler e
  | .step operation next => .step operation fun s => (next s).handle handler

/-- An operation and what it reports about the state that it found. -/
def ask (operation : ο) (report : σ → Except ε α) : Script σ ο ε α :=
  .step operation fun s => .done (report s)

/-- An operation that reports nothing. -/
def act (operation : ο) : Script σ ο ε Unit :=
  .step operation fun _ => .done (.ok ())

/-- The run of a script that no other call disturbs. -/
def alone (perform : ο → σ → σ) : Script σ ο ε α → σ → Except ε α × σ
  | .done result, s => (result, s)
  | .step operation next, s => (next s).alone perform (perform operation s)

theorem alone_ask {perform : ο → σ → σ} {operation : ο} {report : σ → Except ε α} {s : σ} :
    (ask operation report : Script σ ο ε α).alone perform s = (report s, perform operation s) :=
  rfl

/-- The second script starts in the state that the first one leaves. -/
theorem alone_bind {perform : ο → σ → σ} {x : Script σ ο ε α} {f : α → Script σ ο ε β} {s : σ} :
    (x >>= f).alone perform s =
      match x.alone perform s with
      | (.ok a, t) => (f a).alone perform t
      | (.error e, t) => (.error e, t) := by
  induction x generalizing s with
  | done result => cases result <;> rfl
  | step operation next ih => exact ih s

/-! ## Specifications under interference -/

/-- Before each operation others may move the state as the rely says; the operation then keeps
the guarantee, and the script ends as the postconditions say.  All of them know which
operations the script has taken, the latest first; the rely knows the one to come as well. -/
def Safe (perform : ο → σ → σ) (rely : List ο → ο → σ → σ → Prop)
    (guarantee : List ο → ο → σ → Prop) (x : Script σ ο ε α) (taken : List ο) (s : σ)
    (Q : α → List ο → σ → Prop) (E : ε → List ο → σ → Prop) : Prop :=
  match x with
  | .done (.ok a) => Q a taken s
  | .done (.error e) => E e taken s
  | .step operation next => ∀ t, rely taken operation s t →
      guarantee taken operation t ∧
        Safe perform rely guarantee (next t) (operation :: taken) (perform operation t) Q E

variable {perform : ο → σ → σ} {rely : List ο → ο → σ → σ → Prop}
  {guarantee : List ο → ο → σ → Prop} {x : Script σ ο ε α} {taken : List ο} {s t : σ}
  {Q Q' : α → List ο → σ → Prop} {E E' : ε → List ο → σ → Prop} {R : β → List ο → σ → Prop}

@[simp]
theorem safe_pure {a : α} :
    Safe perform rely guarantee (pure a : Script σ ο ε α) taken s Q E ↔ Q a taken s :=
  Iff.rfl

@[simp]
theorem safe_raise {e : ε} :
    Safe perform rely guarantee (raise e : Script σ ο ε α) taken s Q E ↔ E e taken s :=
  Iff.rfl

/-- Both ends of a result. -/
theorem safe_ofExcept {result : Except ε α} :
    Safe perform rely guarantee (ofExcept result) taken s Q E ↔
      (∀ a, result = .ok a → Q a taken s) ∧ ∀ e, result = .error e → E e taken s := by
  cases result with
  | ok a => simp [ofExcept, Safe]
  | error e => simp [ofExcept, Safe]

/-- An operation that reports. -/
theorem safe_ask {operation : ο} {report : σ → Except ε α} :
    Safe perform rely guarantee (ask operation report) taken s Q E ↔
      ∀ t, rely taken operation s t → guarantee taken operation t ∧
        (∀ a, report t = .ok a → Q a (operation :: taken) (perform operation t)) ∧
          ∀ e, report t = .error e → E e (operation :: taken) (perform operation t) := by
  unfold ask
  exact forall_congr' fun t => imp_congr_right fun _ => and_congr_right fun _ => safe_ofExcept

/-- An operation that reports nothing. -/
theorem safe_act {operation : ο} {Q : Unit → List ο → σ → Prop} :
    Safe perform rely guarantee (act operation : Script σ ο ε Unit) taken s Q E ↔
      ∀ t, rely taken operation s t → guarantee taken operation t ∧
        Q () (operation :: taken) (perform operation t) :=
  Iff.rfl

/-- The second script starts where the first one returns. -/
@[simp]
theorem safe_bind {f : α → Script σ ο ε β} :
    Safe perform rely guarantee (x >>= f) taken s R E ↔
      Safe perform rely guarantee x taken s
        (fun a taken' t => Safe perform rely guarantee (f a) taken' t R E) E := by
  induction x generalizing taken s with
  | done result => cases result <;> exact Iff.rfl
  | step operation next ih =>
      exact forall_congr' fun t => imp_congr_right fun _ => and_congr_right fun _ => ih t

theorem safe_ite {p : Prop} [Decidable p] {y : Script σ ο ε α} :
    Safe perform rely guarantee (if p then x else y) taken s Q E ↔
      (p → Safe perform rely guarantee x taken s Q E) ∧
        (¬p → Safe perform rely guarantee y taken s Q E) := by
  by_cases hp : p
  · simp [hp]
  · simp [hp]

theorem Safe.mono (h : Safe perform rely guarantee x taken s Q E)
    (hQ : ∀ a taken t, Q a taken t → Q' a taken t)
    (hE : ∀ e taken t, E e taken t → E' e taken t) :
    Safe perform rely guarantee x taken s Q' E' := by
  induction x generalizing taken s with
  | done result =>
    cases result with
    | ok a => exact hQ a taken s h
    | error e => exact hE e taken s h
  | step operation next ih =>
    intro t ht
    exact ⟨(h t ht).1, ih t (h t ht).2⟩

/-- A script that is about to take an operation still keeps to its specification after a move
of the others that leaves it no more than it had to reckon with. -/
theorem Safe.moved {operation : ο} {next : σ → Script σ ο ε α}
    (h : Safe perform rely guarantee (.step operation next) taken s Q E)
    (hmoved : ∀ u, rely taken operation t u → rely taken operation s u) :
    Safe perform rely guarantee (.step operation next) taken t Q E :=
  fun u hu => h u (hmoved u hu)

/-- What every move of the others and every operation of a script does to the state, the script
does, and the operations that it took stay on record. -/
theorem Safe.since {B : σ → σ → Prop} (hrefl : ∀ t, B t t)
    (htrans : ∀ t u v, B t u → B u v → B t v)
    (hrely : ∀ taken' operation t u, taken <:+ taken' → rely taken' operation t u → B t u)
    (hguarantee : ∀ taken' operation t, taken <:+ taken' → guarantee taken' operation t →
      B t (perform operation t))
    (h : Safe perform rely guarantee x taken s Q E) :
    Safe perform rely guarantee x taken s
      (fun a taken' t => taken <:+ taken' ∧ B s t ∧ Q a taken' t)
      fun e taken' t => taken <:+ taken' ∧ B s t ∧ E e taken' t := by
  induction x generalizing taken s with
  | done result => cases result <;> exact ⟨List.suffix_refl taken, hrefl s, h⟩
  | step operation next ih =>
    intro t ht
    obtain ⟨hstep, hrest⟩ := h t ht
    have hbefore : B s t := hrely taken operation s t (List.suffix_refl taken) ht
    have hmoved : B t (perform operation t) :=
      hguarantee taken operation t (List.suffix_refl taken) hstep
    have hlonger : taken <:+ operation :: taken := List.suffix_cons operation taken
    refine ⟨hstep, ?_⟩
    apply (ih t (fun taken' op u v hsuffix => hrely taken' op u v (hlonger.trans hsuffix))
      (fun taken' op u hsuffix => hguarantee taken' op u (hlonger.trans hsuffix)) hrest).mono
    · rintro a taken' u ⟨hsuffix, hB, hQ⟩
      exact ⟨hlonger.trans hsuffix,
        htrans s t u hbefore (htrans _ _ u hmoved hB), hQ⟩
    · rintro e taken' u ⟨hsuffix, hB, hE⟩
      exact ⟨hlonger.trans hsuffix,
        htrans s t u hbefore (htrans _ _ u hmoved hB), hE⟩

/-- A script that runs alone is disturbed by nobody, as long as its own operations keep what it
counts on. -/
theorem Safe.alone {P : σ → Prop} (h : Safe perform rely guarantee x taken s Q E)
    (hrefl : ∀ taken operation t, P t → rely taken operation t t)
    (hkeep : ∀ taken operation t, guarantee taken operation t → P (perform operation t))
    (hs : P s) :
    (∀ a t, x.alone perform s = (.ok a, t) → ∃ taken, Q a taken t) ∧
      ∀ e t, x.alone perform s = (.error e, t) → ∃ taken, E e taken t := by
  induction x generalizing taken s with
  | done result =>
    cases result with
    | ok a =>
        refine ⟨fun a' t hrun => ?_, fun e t hrun => ?_⟩
        · cases hrun
          exact ⟨taken, h⟩
        · cases hrun
    | error e =>
        refine ⟨fun a t hrun => ?_, fun e' t hrun => ?_⟩
        · cases hrun
        · cases hrun
          exact ⟨taken, h⟩
  | step operation next ih =>
    obtain ⟨hstep, hrest⟩ := h s (hrefl taken operation s hs)
    exact ih s hrest (hkeep taken operation s hstep)

end Script

/-! ## Pools -/

/-- A call with the operations that it took, the latest first, and what it has still to do,
which is lost when it dies. -/
structure Process (κ σ ο ε α : Type) where
  call : κ
  taken : List ο
  rest : Option (Script σ ο ε α)

/-- The shared state and the calls that were started, by their numbers. -/
structure Pool (κ σ ο ε α : Type) where
  shared : σ
  processes : List (Process κ σ ο ε α)

/-- A call is started, takes its next operation, or dies. -/
inductive Move (κ : Type) where
  | start (call : κ)
  | advance (number : Nat)
  | die (number : Nat)
deriving DecidableEq

variable {κ σ ο ε α : Type}

/-- A call that has still something to do. -/
def Process.Active (process : Process κ σ ο ε α) : Prop :=
  ∃ operation next, process.rest = some (.step operation next)

instance (process : Process κ σ ο ε α) : Decidable process.Active :=
  match h : process.rest with
  | some (.step operation next) => .isTrue ⟨operation, next, h⟩
  | some (.done _) => .isFalse fun ⟨_, _, h'⟩ => by rw [h] at h'; cases h'
  | none => .isFalse fun ⟨_, _, h'⟩ => by rw [h] at h'; cases h'

/-- A call that came to its end. -/
def Process.Returned (process : Process κ σ ο ε α) (result : Except ε α) : Prop :=
  process.rest = some (.done result)

namespace Pool

variable (perform : ο → σ → σ) (program : Nat → κ → Script σ ο ε α)

/-- What a move makes of a pool; a call that is not there, has ended or is dead does not
move. -/
def next (w : Pool κ σ ο ε α) : Move κ → Pool κ σ ο ε α
  | .start call =>
    { w with
      processes := w.processes ++ [⟨call, [], some (program w.processes.length call)⟩] }
  | .advance number =>
    match w.processes[number]? with
    | some ⟨call, taken, some (.step operation rest)⟩ =>
        ⟨perform operation w.shared,
          w.processes.set number ⟨call, operation :: taken, some (rest w.shared)⟩⟩
    | _ => w
  | .die number =>
    match w.processes[number]? with
    | some ⟨call, taken, some (.step _ _)⟩ =>
        { w with processes := w.processes.set number ⟨call, taken, none⟩ }
    | _ => w

/-- The operation that a call takes when it advances. -/
def operation? (w : Pool κ σ ο ε α) (number : Nat) : Option ο :=
  match w.processes[number]? with
  | some ⟨_, _, some (.step operation _)⟩ => some operation
  | _ => none

def after (moves : List (Move κ)) (w : Pool κ σ ο ε α) : Pool κ σ ο ε α :=
  moves.foldl (next perform program) w

/-- Every move of a run is made where a condition on the pool and the move holds. -/
def Meets (condition : Pool κ σ ο ε α → Move κ → Prop) :
    List (Move κ) → Pool κ σ ο ε α → Prop
  | [], _ => True
  | move :: moves, w => condition w move ∧ Meets condition moves (next perform program w move)

variable {perform program} {condition : Pool κ σ ο ε α → Move κ → Prop}
  {w : Pool κ σ ο ε α} {call : κ} {number : Nat} {taken : List ο} {operation : ο}
  {rest : σ → Script σ ο ε α}

theorem next_advance
    (h : w.processes[number]? = some ⟨call, taken, some (.step operation rest)⟩) :
    next perform program w (.advance number) =
      ⟨perform operation w.shared,
        w.processes.set number ⟨call, operation :: taken, some (rest w.shared)⟩⟩ := by
  simp only [next, h]

theorem operation?_eq_some_iff {w : Pool κ σ ο ε α} {number : Nat} {operation : ο} :
    w.operation? number = some operation ↔ ∃ call taken rest,
      w.processes[number]? = some ⟨call, taken, some (.step operation rest)⟩ := by
  unfold operation?
  split
  · rename_i call taken operation' rest heq
    simp only [heq, Option.some.injEq, Process.mk.injEq, Script.step.injEq]
    constructor
    · rintro rfl
      exact ⟨call, taken, rest, rfl, rfl, rfl, rfl⟩
    · rintro ⟨_, _, _, -, -, rfl, -⟩
      rfl
  · rename_i hother
    constructor
    · intro h
      cases h
    · rintro ⟨call, taken, rest, heq⟩
      exact absurd heq (hother call taken operation rest)

/-- A call that advances takes an operation, unless it has none to take. -/
theorem next_advance_cases (perform : ο → σ → σ) (program : Nat → κ → Script σ ο ε α)
    (w : Pool κ σ ο ε α) (number : Nat) :
    next perform program w (.advance number) = w ∨
      ∃ call taken operation rest,
        w.processes[number]? = some ⟨call, taken, some (.step operation rest)⟩ := by
  cases hprocess : w.processes[number]? with
  | none => exact .inl (by simp only [next, hprocess])
  | some process =>
    obtain ⟨call, taken, rest⟩ := process
    cases rest with
    | none => exact .inl (by simp only [next, hprocess])
    | some script =>
        cases script with
        | done result => exact .inl (by simp only [next, hprocess])
        | step operation next => exact .inr ⟨call, taken, operation, next, rfl⟩

/-- A call that dies loses what it had still to do, unless it has nothing to lose. -/
theorem next_die_cases (perform : ο → σ → σ) (program : Nat → κ → Script σ ο ε α)
    (w : Pool κ σ ο ε α) (number : Nat) :
    next perform program w (.die number) = w ∨
      ∃ call taken operation rest,
        w.processes[number]? = some ⟨call, taken, some (.step operation rest)⟩ ∧
          next perform program w (.die number) =
            { w with processes := w.processes.set number ⟨call, taken, none⟩ } := by
  cases hprocess : w.processes[number]? with
  | none => exact .inl (by simp only [next, hprocess])
  | some process =>
    obtain ⟨call, taken, rest⟩ := process
    cases rest with
    | none => exact .inl (by simp only [next, hprocess])
    | some script =>
        cases script with
        | done result => exact .inl (by simp only [next, hprocess])
        | step operation next =>
            exact .inr ⟨call, taken, operation, next, rfl, by simp only [Pool.next, hprocess]⟩

/-- The calls after a start: those before, and the new one behind them. -/
theorem next_start_cases {process : Process κ σ ο ε α}
    (h : (next perform program w (.start call)).processes[number]? = some process) :
    w.processes[number]? = some process ∨ number = w.processes.length ∧
      process = ⟨call, [], some (program w.processes.length call)⟩ := by
  simp only [next, List.getElem?_append, List.getElem?_singleton] at h
  split at h
  · exact .inl h
  · split at h
    · cases h
      exact .inr ⟨by omega, rfl⟩
    · cases h

/-- The calls after a move of one of them: that one as the move leaves it, and the others. -/
theorem set_cases {old new process : Process κ σ ο ε α} {other : Nat}
    (hold : w.processes[number]? = some old)
    (h : (w.processes.set number new)[other]? = some process) :
    other = number ∧ process = new ∨ other ≠ number ∧ w.processes[other]? = some process := by
  by_cases heq : other = number
  · subst heq
    rw [List.getElem?_set_self (List.getElem?_eq_some_iff.mp hold).1] at h
    exact .inl ⟨rfl, (Option.some.inj h).symm⟩
  · rw [List.getElem?_set_ne (Ne.symm heq)] at h
    exact .inr ⟨heq, h⟩

theorem meets_append {before later : List (Move κ)} :
    Meets perform program condition (before ++ later) w ↔
      Meets perform program condition before w ∧
        Meets perform program condition later (after perform program before w) := by
  induction before generalizing w with
  | nil => simp [Meets, after]
  | cons move before ih =>
    rw [List.cons_append]
    simp only [Meets, ih, and_assoc]
    exact Iff.rfl

theorem after_append (before later : List (Move κ)) :
    after perform program (before ++ later) w =
      after perform program later (after perform program before w) :=
  List.foldl_append

instance [∀ w move, Decidable (condition w move)] :
    (moves : List (Move κ)) → (w : Pool κ σ ο ε α) →
      Decidable (Meets perform program condition moves w)
  | [], _ => .isTrue trivial
  | move :: moves, w =>
    letI : Decidable (Meets perform program condition moves (next perform program w move)) :=
      instDecidableMeets moves (next perform program w move)
    inferInstanceAs (Decidable (condition w move ∧ _))

/-- Nobody but the call that moves has something to do. -/
def OneAtATime (w : Pool κ σ ο ε α) (move : Move κ) : Prop :=
  ∀ number : Fin w.processes.length,
    w.processes[number].Active → move = .advance number

instance [DecidableEq κ] (move : Move κ) : Decidable (OneAtATime w move) :=
  inferInstanceAs (Decidable (∀ _ : Fin w.processes.length, _ → _))

theorem Meets.mono {other : Pool κ σ ο ε α → Move κ → Prop} {moves : List (Move κ)}
    (h : Meets perform program condition moves w)
    (himp : ∀ w move, condition w move → other w move) :
    Meets perform program other moves w := by
  induction moves generalizing w with
  | nil => trivial
  | cons move moves ih => exact ⟨himp w move h.1, ih h.2⟩

end Pool

/-! ## Disciplines -/

/-- What every call may count on and keeps to, with what holds of every pool: the calls keep
to it alone, a call that moves finds what it may count on, and its move leaves the others what
they may count on.  What a call says of the state when it ends may be over after the next
move; what it says of its result stays. -/
structure Discipline (κ σ ο ε α : Type) where
  perform : ο → σ → σ
  program : Nat → κ → Script σ ο ε α
  rely : Nat → κ → List ο → ο → σ → σ → Prop
  guarantee : Nat → κ → List ο → ο → σ → Prop
  post : κ → Except ε α → Prop
  last : Nat → κ → Except ε α → σ → Prop
  inv : Pool κ σ ο ε α → Prop
  condition : Pool κ σ ο ε α → Move κ → Prop
  safe : ∀ number call s,
    Script.Safe perform (rely number call) (guarantee number call) (program number call) [] s
      (fun a _ t => post call (.ok a) ∧ last number call (.ok a) t)
      fun e _ t => post call (.error e) ∧ last number call (.error e) t
  own : ∀ w number call taken operation rest, inv w → condition w (.advance number) →
    w.processes[number]? = some ⟨call, taken, some (.step operation rest)⟩ →
      rely number call taken operation w.shared w.shared
  others : ∀ w number call taken operation rest other call' taken' operation' rest', inv w →
    condition w (.advance number) →
      w.processes[number]? = some ⟨call, taken, some (.step operation rest)⟩ →
        guarantee number call taken operation w.shared → other ≠ number →
          w.processes[other]? = some ⟨call', taken', some (.step operation' rest')⟩ →
            ∀ t, rely other call' taken' operation' (perform operation w.shared) t →
              rely other call' taken' operation' w.shared t
  started : ∀ w call, inv w → condition w (.start call) →
    inv (w.next perform program (.start call))
  advanced : ∀ w number call taken operation rest, inv w → condition w (.advance number) →
    w.processes[number]? = some ⟨call, taken, some (.step operation rest)⟩ →
      guarantee number call taken operation w.shared →
        (∀ result, rest w.shared = .done result →
          last number call result (perform operation w.shared)) →
            inv (w.next perform program (.advance number))
  died : ∀ w number call taken operation rest, inv w → condition w (.die number) →
    w.processes[number]? = some ⟨call, taken, some (.step operation rest)⟩ →
      inv { w with processes := w.processes.set number ⟨call, taken, none⟩ }

namespace Discipline

variable (d : Discipline κ σ ο ε α)

/-- A call keeps to its specification from the shared state on. -/
def Keeps (number : Nat) (call : κ) (taken : List ο) (script : Script σ ο ε α) (s : σ) : Prop :=
  Script.Safe d.perform (d.rely number call) (d.guarantee number call) script taken s
    (fun a _ t => d.post call (.ok a) ∧ d.last number call (.ok a) t)
    fun e _ t => d.post call (.error e) ∧ d.last number call (.error e) t

/-- The invariant of a pool, that every call that is still running keeps to its specification,
and that every other one ended as it says. -/
def Coherent (w : Pool κ σ ο ε α) : Prop :=
  d.inv w ∧ ∀ (number : Nat) (call : κ) (taken : List ο) (script : Script σ ο ε α),
    w.processes[number]? = some ⟨call, taken, some script⟩ →
      (∀ operation next, script = .step operation next →
        d.Keeps number call taken script w.shared) ∧
          ∀ result, script = .done result → d.post call result

theorem Keeps.done {d : Discipline κ σ ο ε α} {number : Nat} {call : κ} {taken : List ο}
    {script : Script σ ο ε α} {s : σ} {result : Except ε α}
    (h : d.Keeps number call taken script s) (hscript : script = .done result) :
    d.post call result ∧ d.last number call result s := by
  subst hscript
  cases result with
  | ok a => exact h
  | error e => exact h

variable {d} {w : Pool κ σ ο ε α} {move : Move κ} {moves : List (Move κ)}

/-- A pool in which nothing was started. -/
theorem coherent_nil {s : σ} (h : d.inv ⟨s, []⟩) : d.Coherent ⟨s, []⟩ :=
  ⟨h, fun _ _ _ _ hprocess => by simp at hprocess⟩

theorem Coherent.guarantee (h : d.Coherent w) {number : Nat} {call : κ} {taken : List ο}
    {operation : ο} {rest : σ → Script σ ο ε α} (hcondition : d.condition w (.advance number))
    (hprocess : w.processes[number]? = some ⟨call, taken, some (.step operation rest)⟩) :
    d.guarantee number call taken operation w.shared ∧
      d.Keeps number call (operation :: taken) (rest w.shared) (d.perform operation w.shared) :=
  (h.2 number call taken _ hprocess).1 operation rest rfl w.shared
    (d.own w number call taken operation rest h.1 hcondition hprocess)

/-- A move where the condition holds keeps the discipline.  What the others may still count on
is the matter of their relies; a call that has ended counts on nothing. -/
theorem Coherent.next (h : d.Coherent w) (hcondition : d.condition w move) :
    d.Coherent (w.next d.perform d.program move) := by
  cases move with
  | start call =>
    refine ⟨d.started w call h.1 hcondition, ?_⟩
    intro number call' taken script hprocess
    obtain hold | ⟨rfl, hnew⟩ := Pool.next_start_cases hprocess
    · exact h.2 number call' taken script hold
    · cases hnew
      have hsafe : d.Keeps w.processes.length call []
          (d.program w.processes.length call) w.shared :=
        d.safe w.processes.length call w.shared
      exact ⟨fun operation next _ => hsafe, fun result hdone => (hsafe.done hdone).1⟩
  | advance number =>
    obtain hsame | ⟨call, taken, operation, rest, hprocess⟩ :=
      Pool.next_advance_cases d.perform d.program w number
    · rw [hsame]
      exact h
    · obtain ⟨hguarantee, hkeeps⟩ := h.guarantee hcondition hprocess
      refine ⟨d.advanced w number call taken operation rest h.1 hcondition hprocess hguarantee
        (fun result hdone => (hkeeps.done hdone).2), ?_⟩
      rw [Pool.next_advance hprocess]
      intro other call' taken' script hother
      obtain ⟨rfl, hnew⟩ | ⟨heq, hother⟩ := Pool.set_cases hprocess hother
      · cases hnew
        exact ⟨fun operation next _ => hkeeps, fun result hdone => (hkeeps.done hdone).1⟩
      · have hold := h.2 other call' taken' script hother
        refine ⟨?_, hold.2⟩
        rintro operation' next rfl
        exact Script.Safe.moved (hold.1 operation' next rfl)
          (d.others w number call taken operation rest other call' taken' operation' next h.1
            hcondition hprocess hguarantee heq hother)
  | die number =>
    obtain hsame | ⟨call, taken, operation, rest, hprocess, hnext⟩ :=
      Pool.next_die_cases d.perform d.program w number
    · rw [hsame]
      exact h
    · rw [hnext]
      refine ⟨d.died w number call taken operation rest h.1 hcondition hprocess, ?_⟩
      intro other call' taken' script hother
      obtain ⟨-, hnew⟩ | ⟨-, hother⟩ := Pool.set_cases hprocess hother
      · cases hnew
      · exact h.2 other call' taken' script hother

/-- In a run whose moves meet the condition every pool keeps the discipline. -/
theorem coherent_after (h : d.Coherent w)
    (hmeets : Pool.Meets d.perform d.program d.condition moves w) :
    d.Coherent (w.after d.perform d.program moves) := by
  induction moves generalizing w with
  | nil => exact h
  | cons move moves ih => exact ih (h.next hmeets.1) hmeets.2

/-- What every operation of a coherent pool does to the shared state, a run does. -/
theorem along {R : σ → σ → Prop} (hrefl : ∀ s, R s s) (htrans : ∀ s t u, R s t → R t u → R s u)
    (hstep : ∀ w number call taken operation rest, d.inv w → d.condition w (.advance number) →
      w.processes[number]? = some ⟨call, taken, some (.step operation rest)⟩ →
        d.guarantee number call taken operation w.shared →
          R w.shared (d.perform operation w.shared))
    (h : d.Coherent w) (hmeets : Pool.Meets d.perform d.program d.condition moves w) :
    R w.shared (w.after d.perform d.program moves).shared := by
  induction moves generalizing w with
  | nil => exact hrefl w.shared
  | cons move moves ih =>
    apply htrans _ (w.next d.perform d.program move).shared
    · cases move with
      | start call => exact hrefl w.shared
      | advance number =>
          obtain hsame | ⟨call, taken, operation, rest, hprocess⟩ :=
            Pool.next_advance_cases d.perform d.program w number
          · rw [hsame]
            exact hrefl w.shared
          · have hguarantee := (h.guarantee hmeets.1 hprocess).1
            rw [Pool.next_advance hprocess]
            exact hstep w number call taken operation rest h.1 hmeets.1 hprocess hguarantee
      | die number =>
          obtain hsame | ⟨call, taken, operation, rest, -, hnext⟩ :=
            Pool.next_die_cases d.perform d.program w number
          · rw [hsame]
            exact hrefl w.shared
          · rw [hnext]
            exact hrefl w.shared
    · exact ih (h.next hmeets.1) hmeets.2

/-- A call that has returned did so as its specification says. -/
theorem Coherent.post (h : d.Coherent w) {number : Nat} {process : Process κ σ ο ε α}
    {result : Except ε α} (hprocess : w.processes[number]? = some process)
    (hreturned : process.Returned result) : d.post process.call result := by
  obtain ⟨call, taken, rest⟩ := process
  rw [Process.Returned] at hreturned
  dsimp only at hreturned
  subst hreturned
  exact (h.2 number call taken _ hprocess).2 result rfl

end Discipline
end Library
end Ascos
