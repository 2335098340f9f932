import Mathlib.Tactic.Common

/-!
# Programs over mutable cells with joinable transactions

A host program keeps its mutable objects in cells, one per location, and a durable
list of events.  A transaction copies the cells of chosen locations when it is opened,
collects staged events while it runs, and either appends all of them or puts the copied
cells back.  Opening a transaction inside another one joins it.

An `Action` is a program step together with the proof of what it may do to a
transaction it runs in: it leaves the durable events and the copies alone and only adds
staged events.  The actions built by the constructors of this module carry that proof,
so no operation has to be checked for it again.
-/

namespace Ascos
namespace Library

/-- What a host program stores, records, raises and reads from outside. -/
structure Signature where
  Loc : Type
  decEqLoc : DecidableEq Loc
  Cell : Loc → Type
  Event : Type
  Error : Type
  Reading : Type

attribute [instance] Signature.decEqLoc

variable {S : Signature} {α β : Type}

/-! ## Cells -/

/-- The contents of every location. -/
abbrev Heap (S : Signature) : Type :=
  (l : S.Loc) → S.Cell l

/-- Replace the contents of one location. -/
def Heap.write (h : Heap S) (l : S.Loc) (v : S.Cell l) : Heap S :=
  Function.update h l v

@[simp]
theorem Heap.write_same (h : Heap S) (l : S.Loc) (v : S.Cell l) : h.write l v l = v :=
  Function.update_self l v h

@[simp]
theorem Heap.write_of_ne (h : Heap S) {l m : S.Loc} (v : S.Cell l) (hne : m ≠ l) :
    h.write l v m = h m :=
  Function.update_of_ne hne v h

@[simp]
theorem Heap.write_write (h : Heap S) (l : S.Loc) (u v : S.Cell l) :
    (h.write l u).write l v = h.write l v :=
  Function.update_idem u v h

/-! ## Copies of cells -/

/-- A copy of the contents of one location. -/
abbrev Snapshot (S : Signature) : Type :=
  Sigma S.Cell

/-- Copy one location unless a copy of it was already taken. -/
def register (h : Heap S) (snapshots : List (Snapshot S)) (l : S.Loc) :
    List (Snapshot S) :=
  if l ∈ snapshots.map Sigma.fst then snapshots else snapshots ++ [⟨l, h l⟩]

/-- Copy every listed location once, in order. -/
def capture (h : Heap S) (targets : List S.Loc) : List (Snapshot S) :=
  targets.foldl (register h) []

/-- Put the copies back, the last one taken first. -/
def restore (snapshots : List (Snapshot S)) (h : Heap S) : Heap S :=
  snapshots.foldr (fun snapshot heap => heap.write snapshot.1 snapshot.2) h

theorem mem_register {h : Heap S} {snapshots : List (Snapshot S)} {l : S.Loc}
    {snapshot : Snapshot S} (hmem : snapshot ∈ register h snapshots l) :
    snapshot ∈ snapshots ∨ snapshot = ⟨l, h l⟩ := by
  unfold register at hmem
  split at hmem
  · exact .inl hmem
  · simpa using hmem

theorem fst_mem_register (h : Heap S) (snapshots : List (Snapshot S)) (l m : S.Loc) :
    m ∈ (register h snapshots l).map Sigma.fst ↔ m ∈ snapshots.map Sigma.fst ∨ m = l := by
  unfold register
  split
  · rename_i hl
    constructor
    · exact .inl
    · rintro (hm | rfl)
      · exact hm
      · exact hl
  · simp

theorem foldl_register (h : Heap S) (targets : List S.Loc) (snapshots : List (Snapshot S))
    (hold : ∀ snapshot ∈ snapshots, snapshot.2 = h snapshot.1) :
    (∀ snapshot ∈ targets.foldl (register h) snapshots, snapshot.2 = h snapshot.1) ∧
      ∀ m, m ∈ (targets.foldl (register h) snapshots).map Sigma.fst ↔
        m ∈ snapshots.map Sigma.fst ∨ m ∈ targets := by
  induction targets generalizing snapshots with
  | nil => exact ⟨hold, by simp⟩
  | cons l targets ih =>
    have hnext : ∀ snapshot ∈ register h snapshots l, snapshot.2 = h snapshot.1 := by
      intro snapshot hmem
      rcases mem_register hmem with hmem | rfl
      · exact hold snapshot hmem
      · rfl
    obtain ⟨hvalue, hfst⟩ := ih (register h snapshots l) hnext
    refine ⟨hvalue, fun m => ?_⟩
    rw [List.foldl_cons, hfst, fst_mem_register, List.mem_cons, or_assoc]

/-- Every copy holds the contents its location had. -/
theorem capture_value (h : Heap S) (targets : List S.Loc) {snapshot : Snapshot S}
    (hmem : snapshot ∈ capture h targets) : snapshot.2 = h snapshot.1 :=
  (foldl_register h targets [] (by simp)).1 snapshot hmem

/-- The copied locations are the listed ones. -/
theorem mem_capture_fst (h : Heap S) (targets : List S.Loc) (m : S.Loc) :
    m ∈ (capture h targets).map Sigma.fst ↔ m ∈ targets := by
  have hfold := (foldl_register h targets [] (by simp)).2 m
  rw [List.map_nil] at hfold
  exact hfold.trans (or_iff_right List.not_mem_nil)

theorem restore_apply (original : Heap S) (snapshots : List (Snapshot S))
    (hvalue : ∀ snapshot ∈ snapshots, snapshot.2 = original snapshot.1)
    (h : Heap S) (m : S.Loc) :
    restore snapshots h m =
      if m ∈ snapshots.map Sigma.fst then original m else h m := by
  induction snapshots with
  | nil => simp [restore]
  | cons snapshot snapshots ih =>
    have ih := ih (fun s hs => hvalue s (List.mem_cons_of_mem _ hs))
    change (restore snapshots h).write snapshot.1 snapshot.2 m = _
    by_cases hm : m = snapshot.1
    · subst hm
      rw [Heap.write_same, hvalue snapshot (List.mem_cons_self ..)]
      simp
    · have hmem : m ∈ (snapshot :: snapshots).map Sigma.fst ↔ m ∈ snapshots.map Sigma.fst := by
        rw [List.map_cons, List.mem_cons]
        exact or_iff_right hm
      rw [Heap.write_of_ne _ _ hm, ih]
      simp only [hmem]

/-- Putting the copies back restores the listed locations and leaves the others. -/
theorem restore_capture (original h : Heap S) (targets : List S.Loc) (m : S.Loc) :
    restore (capture original targets) h m =
      if m ∈ targets then original m else h m := by
  rw [restore_apply original _ (fun _ hs => capture_value original targets hs)]
  simp only [mem_capture_fst]

/-! ## Transactions and worlds -/

/-- An open transaction: the copies taken at its start and the events staged so far. -/
structure Transaction (S : Signature) where
  snapshots : List (Snapshot S)
  stagedEvents : List S.Event

/-- The state of a host program between two steps. -/
structure World (S : Signature) where
  heap : Heap S
  eventStore : List S.Event
  current : Option (Transaction S)
  /-- How many readings of the outside were taken. -/
  readings : Nat

/-- What a step may do to the transaction it runs in: nothing to the durable events and
to the copies, and only additions to the staged events.  It opens and closes its own
transactions. -/
def Within (w w' : World S) : Prop :=
  match w.current with
  | none => w'.current = none
  | some t => w'.eventStore = w.eventStore ∧
      ∃ t', w'.current = some t' ∧ t'.snapshots = t.snapshots ∧
        t.stagedEvents <+: t'.stagedEvents

theorem Within.refl (w : World S) : Within w w := by
  unfold Within
  split
  · assumption
  · rename_i t ht
    exact ⟨rfl, t, ht, rfl, List.prefix_rfl⟩

theorem Within.trans {w₁ w₂ w₃ : World S} (h₁ : Within w₁ w₂) (h₂ : Within w₂ w₃) :
    Within w₁ w₃ := by
  unfold Within at *
  cases hcurrent : w₁.current with
  | none =>
    simp only [hcurrent] at h₁ ⊢
    simpa only [h₁] using h₂
  | some t =>
    simp only [hcurrent] at h₁ ⊢
    obtain ⟨hstore₁, t₁, ht₁, hsnap₁, hstaged₁⟩ := h₁
    simp only [ht₁] at h₂
    obtain ⟨hstore₂, t₂, ht₂, hsnap₂, hstaged₂⟩ := h₂
    exact ⟨hstore₂.trans hstore₁, t₂, ht₂, hsnap₂.trans hsnap₁, hstaged₁.trans hstaged₂⟩

/-- A step that leaves the events and the transaction alone. -/
theorem Within.of_same {w w' : World S} (hstore : w'.eventStore = w.eventStore)
    (hcurrent : w'.current = w.current) : Within w w' := by
  unfold Within
  split
  · rename_i hnone
    exact hcurrent.trans hnone
  · rename_i t ht
    exact ⟨hstore, t, hcurrent.trans ht, rfl, List.prefix_rfl⟩

/-! ## Actions -/

/-- A program step that returns or raises, with the proof that it respects the
transaction it runs in. -/
structure Action (S : Signature) (α : Type) where
  run : (Nat → S.Reading) → World S → Except S.Error α × World S
  within : ∀ env w, Within w (run env w).2

namespace Action

variable {x : Action S α} {env : Nat → S.Reading} {w w' : World S}

/-- Do nothing and return a value. -/
protected def pure (a : α) : Action S α where
  run _ w := (.ok a, w)
  within _ w := Within.refl w

/-- Run one action and, when it returns, the next. -/
protected def bind (x : Action S α) (f : α → Action S β) : Action S β where
  run env w :=
    match x.run env w with
    | (.ok a, w') => (f a).run env w'
    | (.error e, w') => (.error e, w')
  within env w := by
    have hx := x.within env w
    rcases hrun : x.run env w with ⟨_ | a, w'⟩
    · rw [hrun] at hx
      exact hx
    · rw [hrun] at hx
      exact hx.trans ((f a).within env w')

/-- Raise an error; writes made before it stay. -/
def raise (e : S.Error) : Action S α where
  run _ w := (.error e, w)
  within _ w := Within.refl w

/-- Run a handler from the world that the failed action left. -/
def tryExcept (x : Action S α) (handler : S.Error → Action S α) : Action S α where
  run env w :=
    match x.run env w with
    | (.ok a, w') => (.ok a, w')
    | (.error e, w') => (handler e).run env w'
  within env w := by
    have hx := x.within env w
    rcases hrun : x.run env w with ⟨e | _, w'⟩
    · rw [hrun] at hx
      exact hx.trans ((handler e).within env w')
    · rw [hrun] at hx
      exact hx

instance : Monad (Action S) where
  pure := Action.pure
  bind := Action.bind

theorem run_bind (x : Action S α) (f : α → Action S β) (env : Nat → S.Reading)
    (w : World S) :
    (x >>= f).run env w =
      match x.run env w with
      | (.ok a, w') => (f a).run env w'
      | (.error e, w') => (.error e, w') :=
  rfl

theorem run_map (f : α → β) (x : Action S α) (env : Nat → S.Reading) (w : World S) :
    (f <$> x).run env w =
      match x.run env w with
      | (.ok a, w') => (.ok (f a), w')
      | (.error e, w') => (.error e, w') :=
  rfl

theorem run_tryExcept (x : Action S α) (handler : S.Error → Action S α)
    (env : Nat → S.Reading) (w : World S) :
    (tryExcept x handler).run env w =
      match x.run env w with
      | (.ok a, w') => (.ok a, w')
      | (.error e, w') => (handler e).run env w' :=
  rfl

theorem eq_of_run {x y : Action S α} (h : ∀ env w, x.run env w = y.run env w) : x = y := by
  have hrun : x.run = y.run := funext fun env => funext fun w => h env w
  cases x
  cases y
  cases hrun
  rfl

theorem bind_assoc {γ : Type} (x : Action S α) (f : α → Action S β) (g : β → Action S γ) :
    (x >>= f) >>= g = x >>= fun a => f a >>= g := by
  refine eq_of_run fun env w => ?_
  simp only [run_bind]
  rcases x.run env w with ⟨error | a, w'⟩ <;> rfl

theorem pure_bind (a : α) (f : α → Action S β) : (pure a >>= f) = f a :=
  rfl

theorem raise_bind (e : S.Error) (f : α → Action S β) : (raise e >>= f) = raise e :=
  rfl

/-- The contents of a location. -/
def read (l : S.Loc) : Action S (S.Cell l) where
  run _ w := (.ok (w.heap l), w)
  within _ w := Within.refl w

/-- The contents of every location. -/
def readAll : Action S (Heap S) where
  run _ w := (.ok w.heap, w)
  within _ w := Within.refl w

/-- Replace the contents of a location. -/
def write (l : S.Loc) (v : S.Cell l) : Action S Unit where
  run _ w := (.ok (), { w with heap := w.heap.write l v })
  within _ _ := Within.of_same rfl rfl

/-- Rewrite the contents of many locations at once. -/
def modifyAll (f : Heap S → Heap S) : Action S Unit where
  run _ w := (.ok (), { w with heap := f w.heap })
  within _ _ := Within.of_same rfl rfl

/-- The next reading of the outside. -/
def ask : Action S S.Reading where
  run env w := (.ok (env w.readings), { w with readings := w.readings + 1 })
  within _ _ := Within.of_same rfl rfl

/-- The durable events and the events staged by the open transaction. -/
def loggedEvents : Action S (List S.Event × List S.Event) where
  run _ w := (.ok (w.eventStore, (w.current.map Transaction.stagedEvents).getD []), w)
  within _ w := Within.refl w

/-- Raise an error when a condition holds. -/
def raiseIf (c : Prop) [Decidable c] (e : S.Error) : Action S Unit :=
  if c then raise e else pure ()

end Action

/-! ## Bodies -/

namespace Action

/-- Actions one after another; whoever performs them may catch what one raises. -/
def performAll : List (Action S Unit) → Action S Unit
  | [] => pure ()
  | x :: xs => do
    tryExcept x fun _ => pure ()
    performAll xs

/-- The body of a transaction: actions, and then a raise or a return. -/
def body (xs : List (Action S Unit)) (ending : Option S.Error) : Action S Unit := do
  performAll xs
  match ending with
  | none => pure ()
  | some error => raise error

/-- An action whose error is caught leaves what it leaves. -/
theorem performAll_cons (x : Action S Unit) (xs : List (Action S Unit))
    (env : Nat → S.Reading) (w : World S) :
    (performAll (x :: xs)).run env w = (performAll xs).run env (x.run env w).2 := by
  rw [performAll, run_bind, run_tryExcept]
  rcases x.run env w with ⟨error | a, w'⟩ <;> rfl

theorem performAll_returns (xs : List (Action S Unit)) (env : Nat → S.Reading)
    (w : World S) : ((performAll xs).run env w).1 = .ok () := by
  induction xs generalizing w with
  | nil => rfl
  | cons x xs ih =>
    rw [performAll_cons]
    exact ih _

theorem body_run_snd (xs : List (Action S Unit)) (ending : Option S.Error)
    (env : Nat → S.Reading) (w : World S) :
    ((body xs ending).run env w).2 = ((performAll xs).run env w).2 := by
  have hreturns := performAll_returns xs env w
  rcases hrun : (performAll xs).run env w with ⟨error | a, w'⟩
  · rw [hrun] at hreturns
    cases hreturns
  · unfold body
    rw [run_bind, hrun]
    cases ending <;> rfl

end Action

/-! ## Opening, committing and rolling back -/

/-- How a host program coordinates its transactions: which locations it copies, how it
appends a batch of events, and how it reports a failed append. -/
structure Coordinator (S : Signature) where
  targets : Heap S → List S.Loc
  addEvents : S.Reading → List S.Event → List S.Event → Except S.Error Unit × List S.Event
  commitError : S.Error → S.Error
  /-- An accepted batch is appended in order. -/
  addEvents_ok : ∀ {reading events batch result},
    addEvents reading events batch = (.ok (), result) → result = events ++ batch
  /-- A refused batch leaves the events as they were. -/
  addEvents_error : ∀ {reading events batch error result},
    addEvents reading events batch = (.error error, result) → result = events

namespace Coordinator

variable (c : Coordinator S)

/-- Open a transaction: copy every target. -/
def opened (w : World S) : World S :=
  { w with current := some ⟨capture w.heap (c.targets w.heap), []⟩ }

/-- Put the copies back and close the transaction. -/
def rolledBack (w : World S) (t : Transaction S) : World S :=
  { w with heap := restore t.snapshots w.heap, current := none }

/-- Append the staged events and close the transaction; a failed append rolls back. -/
def commit (env : Nat → S.Reading) (a : α) (w : World S) (t : Transaction S) :
    Except S.Error α × World S :=
  match c.addEvents (env w.readings) w.eventStore t.stagedEvents with
  | (.ok _, events) =>
    (.ok a, { w with eventStore := events, current := none, readings := w.readings + 1 })
  | (.error e, events) =>
    (.error (c.commitError e),
      { rolledBack w t with eventStore := events, readings := w.readings + 1 })

/-- Close the transaction that the body of an outermost one ran in. -/
def close (env : Nat → S.Reading) (result : Except S.Error α × World S) :
    Except S.Error α × World S :=
  match result.2.current with
  | none => result
  | some t =>
    match result.1 with
    | .ok a => c.commit env a result.2 t
    | .error e => (.error e, rolledBack result.2 t)

@[simp]
theorem commit_current (env : Nat → S.Reading) (a : α) (w : World S) (t : Transaction S) :
    (c.commit env a w t).2.current = none := by
  unfold commit
  split <;> rfl

/-- What committing does: the events are appended, or everything is put back. -/
theorem commit_eq (env : Nat → S.Reading) (a : α) (w : World S) (t : Transaction S) :
    c.commit env a w t =
        (.ok a, { w with
          eventStore := w.eventStore ++ t.stagedEvents, current := none,
          readings := w.readings + 1 }) ∨
      ∃ e, c.commit env a w t =
        (.error (c.commitError e), { rolledBack w t with readings := w.readings + 1 }) := by
  unfold commit
  rcases hadd : c.addEvents (env w.readings) w.eventStore t.stagedEvents with ⟨e | u, events⟩
  · have hstore := c.addEvents_error hadd
    subst hstore
    exact .inr ⟨e, rfl⟩
  · have hstore := c.addEvents_ok hadd
    subst hstore
    exact .inl rfl

theorem close_error (env : Nat → S.Reading) (e : S.Error) {w : World S}
    {t : Transaction S} (ht : w.current = some t) :
    c.close env ((.error e, w) : Except S.Error α × World S) = (.error e, rolledBack w t) := by
  unfold close
  simp only [ht]

theorem close_ok (env : Nat → S.Reading) (a : α) {w : World S} {t : Transaction S}
    (ht : w.current = some t) : c.close env (.ok a, w) = c.commit env a w t := by
  unfold close
  simp only [ht]

theorem close_current (env : Nat → S.Reading) (result : Except S.Error α × World S) :
    (c.close env result).2.current = none := by
  unfold close
  split
  · assumption
  · split
    · exact c.commit_current env _ _ _
    · rfl

end Coordinator

namespace Action

/-- Run a body in a transaction, joining the open one if there is one. -/
def atomic (c : Coordinator S) (x : Action S α) : Action S α where
  run env w :=
    match w.current with
    | some _ => x.run env w
    | none => c.close env (x.run env (c.opened w))
  within env w := by
    cases hcurrent : w.current with
    | some t => exact x.within env w
    | none =>
        unfold Within
        rw [hcurrent]
        exact c.close_current env _

/-- Stage an event in the open transaction, or append it at once when none is open. -/
def emit (c : Coordinator S) (event : S.Event) : Action S Unit where
  run env w :=
    match w.current with
    | some t =>
        (.ok (), { w with current := some { t with stagedEvents := t.stagedEvents ++ [event] } })
    | none =>
        match c.addEvents (env w.readings) w.eventStore [event] with
        | (outcome, events) =>
            (outcome, { w with eventStore := events, readings := w.readings + 1 })
  within env w := by
    unfold Within
    split
    · rename_i hnone
      simp only [hnone]
    · rename_i t ht
      simp only [ht]
      exact ⟨trivial, _, rfl, rfl, List.prefix_append _ _⟩

variable (c : Coordinator S) {x : Action S α} {env : Nat → S.Reading} {w w' : World S}

theorem atomic_run_nested {t : Transaction S} (ht : w.current = some t) :
    (atomic c x).run env w = x.run env w := by
  simp only [atomic, ht]

theorem atomic_run_outermost (hnone : w.current = none) :
    (atomic c x).run env w = c.close env (x.run env (c.opened w)) := by
  simp only [atomic, hnone]

/-- The body of an outermost transaction still has it open at its end, with the copies
taken at the start and the durable events untouched. -/
theorem body_of_opened (x : Action S α) (env : Nat → S.Reading) (w : World S) :
    (x.run env (c.opened w)).2.eventStore = w.eventStore ∧
      ∃ t, (x.run env (c.opened w)).2.current = some t ∧
        t.snapshots = capture w.heap (c.targets w.heap) := by
  have hwithin := x.within env (c.opened w)
  obtain ⟨hstore, t, ht, hsnap, -⟩ := hwithin
  exact ⟨hstore, t, ht, hsnap⟩

/-- An outermost transaction that raises leaves the events as they were, and puts the
copies back over what its body wrote. -/
theorem atomic_raised_heap (hnone : w.current = none) {e : S.Error}
    (hrun : (atomic c x).run env w = (.error e, w')) :
    w'.eventStore = w.eventStore ∧
      w'.heap = restore (capture w.heap (c.targets w.heap))
        (x.run env (c.opened w)).2.heap := by
  rw [atomic_run_outermost c hnone] at hrun
  obtain ⟨hstore, t, ht, hsnap⟩ := body_of_opened c x env w
  rcases hbody : x.run env (c.opened w) with ⟨e' | a, w₁⟩
  · -- the body raised
    rw [hbody] at hrun hstore ht
    rw [c.close_error env e' ht, Prod.mk.injEq] at hrun
    rw [← hrun.2, ← hsnap]
    exact ⟨hstore, rfl⟩
  · -- the body returned and the append failed
    rw [hbody] at hrun hstore ht
    rw [c.close_ok env a ht] at hrun
    rcases c.commit_eq env a w₁ t with hcommit | ⟨e', hcommit⟩
    · rw [hcommit] at hrun
      simp at hrun
    · rw [hcommit, Prod.mk.injEq] at hrun
      rw [← hrun.2, ← hsnap]
      exact ⟨hstore, rfl⟩

/-- An outermost transaction that raises leaves the events and every target as they
were. -/
theorem atomic_raised (hnone : w.current = none) {e : S.Error}
    (hrun : (atomic c x).run env w = (.error e, w')) :
    w'.eventStore = w.eventStore ∧ ∀ l ∈ c.targets w.heap, w'.heap l = w.heap l := by
  obtain ⟨hstore, hheap⟩ := atomic_raised_heap c hnone hrun
  refine ⟨hstore, fun l hl => ?_⟩
  rw [hheap, restore_capture, if_pos hl]

theorem atomic_error (hnone : w.current = none) {e : S.Error}
    (hrun : (atomic c x).run env w = (.error e, w')) :
    (∃ w₁, x.run env (c.opened w) = (.error e, w₁)) ∨ ∃ e', e = c.commitError e' := by
  rw [atomic_run_outermost c hnone] at hrun
  obtain ⟨-, t, ht, -⟩ := body_of_opened c x env w
  rcases hbody : x.run env (c.opened w) with ⟨e' | a, w₁⟩
  · rw [hbody] at hrun ht
    rw [c.close_error env e' ht, Prod.mk.injEq, Except.error.injEq] at hrun
    exact .inl ⟨w₁, by rw [hrun.1]⟩
  · rw [hbody] at hrun ht
    rw [c.close_ok env a ht] at hrun
    rcases c.commit_eq env a w₁ t with hcommit | ⟨e', hcommit⟩
    · rw [hcommit] at hrun
      simp at hrun
    · rw [hcommit, Prod.mk.injEq, Except.error.injEq] at hrun
      exact .inr ⟨e', hrun.1.symm⟩

/-- An outermost transaction that returns keeps what its body wrote and appends exactly
the events that its body staged. -/
theorem atomic_returned (hnone : w.current = none) {a : α}
    (hrun : (atomic c x).run env w = (.ok a, w')) :
    ∃ w₁ t, x.run env (c.opened w) = (.ok a, w₁) ∧ w₁.current = some t ∧
      w'.heap = w₁.heap ∧ w'.eventStore = w.eventStore ++ t.stagedEvents := by
  rw [atomic_run_outermost c hnone] at hrun
  obtain ⟨hstore, t, ht, -⟩ := body_of_opened c x env w
  rcases hbody : x.run env (c.opened w) with ⟨e' | a', w₁⟩
  · rw [hbody] at hrun ht
    rw [c.close_error env e' ht] at hrun
    simp at hrun
  · rw [hbody] at hrun hstore ht
    rw [c.close_ok env a' ht] at hrun
    rcases c.commit_eq env a' w₁ t with hcommit | ⟨e', hcommit⟩
    · rw [hcommit] at hrun
      simp only [Prod.mk.injEq, Except.ok.injEq] at hrun
      obtain ⟨rfl, rfl⟩ := hrun
      refine ⟨w₁, t, rfl, ht, rfl, ?_⟩
      rw [← hstore]
    · rw [hcommit] at hrun
      simp at hrun

end Action
end Library
end Ascos
