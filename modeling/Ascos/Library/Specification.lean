import Ascos.Library.Transaction

/-!
# Specifications of actions inside a transaction

`Meets env x h Q E` says that the action `x`, run in any open transaction over
the cells `h`, either returns with the cells in `Q` or raises with the cells in
`E`.  The events and the copies of the transaction play no part in it, so the rules
speak of cells only.
-/

namespace Ascos
namespace Library

open Action

variable {S : Signature} {α β : Type} {env : Nat → S.Reading} {h : Heap S}

/-- The cells of an outcome satisfy the postcondition for returning or for raising. -/
def Satisfies (Q : α → Heap S → Prop) (E : S.Error → Heap S → Prop) :
    Except S.Error α × World S → Prop
  | (.ok a, w) => Q a w.heap
  | (.error e, w) => E e w.heap

/-- The specification of an action run inside an open transaction. -/
def Meets (env : Nat → S.Reading) (x : Action S α) (h : Heap S)
    (Q : α → Heap S → Prop) (E : S.Error → Heap S → Prop) : Prop :=
  ∀ w : World S, w.heap = h → w.current.isSome → Satisfies Q E (x.run env w)

variable {x : Action S α} {f : α → Action S β} {Q : α → Heap S → Prop}
  {R : β → Heap S → Prop} {E : S.Error → Heap S → Prop}

/-- A transaction that is open stays open. -/
theorem isSome_run (x : Action S α) (env : Nat → S.Reading) {w : World S}
    (hopen : w.current.isSome) : (x.run env w).2.current.isSome := by
  obtain ⟨t, ht⟩ := Option.isSome_iff_exists.mp hopen
  have hwithin := x.within env w
  unfold Within at hwithin
  rw [ht] at hwithin
  obtain ⟨-, t', ht', -⟩ := hwithin
  rw [ht']
  rfl

theorem exists_open (h : Heap S) : ∃ w : World S, w.heap = h ∧ w.current.isSome :=
  ⟨⟨h, [], some ⟨[], []⟩, 0⟩, rfl, rfl⟩

/-! ## Frames -/

/-- Only the listed locations may differ. -/
def SameOutside (locs : List S.Loc) (h h' : Heap S) : Prop :=
  ∀ l, l ∉ locs → h' l = h l

namespace SameOutside

variable {locs locs' : List S.Loc} {h₁ h₂ h₃ : Heap S}

@[simp]
theorem refl (locs : List S.Loc) (h : Heap S) : SameOutside locs h h := by
  intro l _
  rfl

theorem trans (h₁₂ : SameOutside locs h₁ h₂) (h₂₃ : SameOutside locs h₂ h₃) :
    SameOutside locs h₁ h₃ := by
  intro l hl
  exact (h₂₃ l hl).trans (h₁₂ l hl)

theorem mono (hsame : SameOutside locs h₁ h₂) (hsub : locs ⊆ locs') :
    SameOutside locs' h₁ h₂ := by
  intro l hl
  exact hsame l fun hmem => hl (hsub hmem)

@[simp]
theorem write_iff {l : S.Loc} (hl : l ∈ locs) (v : S.Cell l) :
    SameOutside locs h₁ (h₂.write l v) ↔ SameOutside locs h₁ h₂ := by
  have hother : ∀ m, m ∉ locs → h₂.write l v m = h₂ m := by
    intro m hm
    have hne : m ≠ l := by
      rintro rfl
      exact hm hl
    exact Heap.write_of_ne _ _ hne
  constructor
  · intro hsame m hm
    rw [← hother m hm]
    exact hsame m hm
  · intro hsame m hm
    rw [hother m hm]
    exact hsame m hm

end SameOutside

/-! ## Structural rules -/

theorem Meets.mono {Q' : α → Heap S → Prop} {E' : S.Error → Heap S → Prop}
    (hx : Meets env x h Q E) (hQ : ∀ a h', Q a h' → Q' a h')
    (hE : ∀ e h', E e h' → E' e h') : Meets env x h Q' E' := by
  intro w hw hopen
  have hx := hx w hw hopen
  rcases hrun : x.run env w with ⟨e | a, w'⟩
  · rw [hrun] at hx
    exact hE e _ hx
  · rw [hrun] at hx
    exact hQ a _ hx

theorem Meets.and {Q' : α → Heap S → Prop} {E' : S.Error → Heap S → Prop}
    (hx : Meets env x h Q E) (hx' : Meets env x h Q' E') :
    Meets env x h (fun a h' => Q a h' ∧ Q' a h') (fun e h' => E e h' ∧ E' e h') := by
  intro w hw hopen
  have hx := hx w hw hopen
  have hx' := hx' w hw hopen
  rcases hrun : x.run env w with ⟨e | a, w'⟩ <;> rw [hrun] at hx hx' <;> exact ⟨hx, hx'⟩

@[simp]
theorem meets_pure {a : α} : Meets env (pure a : Action S α) h Q E ↔ Q a h := by
  constructor
  · intro hpure
    obtain ⟨w, rfl, hopen⟩ := exists_open h
    exact hpure w rfl hopen
  · rintro hQ w rfl -
    exact hQ

@[simp]
theorem meets_raise {e : S.Error} :
    Meets env (raise e : Action S α) h Q E ↔ E e h := by
  constructor
  · intro hraise
    obtain ⟨w, rfl, hopen⟩ := exists_open h
    exact hraise w rfl hopen
  · rintro hE w rfl -
    exact hE

/-- A sequence meets a specification when what follows the first action does so from
wherever the first action returns. -/
theorem Meets.bind (hx : Meets env x h (fun a h' => Meets env (f a) h' R E) E) :
    Meets env (x >>= f) h R E := by
  intro w hw hopen
  have hx := hx w hw hopen
  have hopen' := isSome_run x env hopen
  rw [run_bind]
  rcases hrun : x.run env w with ⟨e | a, w'⟩
  · rw [hrun] at hx
    exact hx
  · rw [hrun] at hx hopen'
    exact hx w' rfl hopen'

/-- Sequencing after an action whose specification is known. -/
theorem Meets.seq {P : α → Heap S → Prop} (hx : Meets env x h P E)
    (hf : ∀ a h', P a h' → Meets env (f a) h' R E) : Meets env (x >>= f) h R E :=
  Meets.bind (hx.mono hf fun _ _ hE => hE)

/-- A handler takes over wherever the failed action raised. -/
theorem Meets.tryExcept {handler : S.Error → Action S α}
    (hx : Meets env x h Q fun e h' => Meets env (handler e) h' Q E) :
    Meets env (tryExcept x handler) h Q E := by
  intro w hw hopen
  have hx := hx w hw hopen
  have hopen' := isSome_run x env hopen
  rw [run_tryExcept]
  rcases hrun : x.run env w with ⟨e | a, w'⟩
  · rw [hrun] at hx hopen'
    exact hx w' rfl hopen'
  · rw [hrun] at hx
    exact hx

theorem Meets.map {g : α → β} (hx : Meets env x h (fun a h' => R (g a) h') E) :
    Meets env (g <$> x) h R E := by
  intro w hw hopen
  have hx := hx w hw hopen
  rw [run_map]
  rcases hrun : x.run env w with ⟨e | a, w'⟩ <;> rw [hrun] at hx <;> exact hx

theorem meets_ite {p : Prop} [Decidable p] {y : Action S α} :
    Meets env (if p then x else y) h Q E ↔
      (p → Meets env x h Q E) ∧ (¬p → Meets env y h Q E) := by
  split <;> simp_all

/-! ## The steps of a method -/

@[simp]
theorem meets_pure_bind {a : α} :
    Meets env ((pure a : Action S α) >>= f) h R E ↔ Meets env (f a) h R E :=
  Iff.rfl

@[simp]
theorem meets_bind_assoc {γ : Type} {g : β → Action S γ} {R : γ → Heap S → Prop} :
    Meets env ((x >>= f) >>= g) h R E ↔ Meets env (x >>= fun a => f a >>= g) h R E := by
  have hrun : ∀ w : World S,
      ((x >>= f) >>= g).run env w = (x >>= fun a => f a >>= g).run env w := by
    intro w
    simp only [run_bind]
    rcases x.run env w with ⟨_ | _, _⟩ <;> rfl
  unfold Meets
  simp only [hrun]

/-- An action may be followed by a return of its result. -/
theorem meets_bind_pure : Meets env (x >>= pure) h Q E ↔ Meets env x h Q E := by
  have hrun : ∀ w : World S, (x >>= pure).run env w = x.run env w := by
    intro w
    rw [run_bind]
    rcases x.run env w with ⟨_ | _, _⟩ <;> rfl
  unfold Meets
  simp only [hrun]

@[simp]
theorem meets_raise_bind {e : S.Error} :
    Meets env ((raise e : Action S α) >>= f) h R E ↔ E e h := by
  constructor
  · intro hraise
    obtain ⟨w, rfl, hopen⟩ := exists_open h
    exact hraise w rfl hopen
  · rintro hE w rfl -
    exact hE

-- the type of a cell is kept out of the index, where it would appear unreduced
@[simp]
theorem meets_read_bind {l : S.Loc} {f : S.Cell l → Action S β} :
    Meets env (bind (α := no_index (S.Cell l)) (read l) f) h R E ↔
      Meets env (f (h l)) h R E := by
  constructor
  · rintro hread w rfl hopen
    exact hread w rfl hopen
  · rintro hf w rfl hopen
    exact hf w rfl hopen

@[simp]
theorem meets_read {l : S.Loc} {Q : S.Cell l → Heap S → Prop} :
    Meets (α := no_index (S.Cell l)) env (read l) h Q E ↔ Q (h l) h := by
  constructor
  · intro hread
    obtain ⟨w, rfl, hopen⟩ := exists_open h
    exact hread w rfl hopen
  · rintro hQ w rfl -
    exact hQ

@[simp]
theorem meets_readAll_bind {f : Heap S → Action S β} :
    Meets env (readAll >>= f) h R E ↔ Meets env (f h) h R E := by
  constructor
  · rintro hread w rfl hopen
    exact hread w rfl hopen
  · rintro hf w rfl hopen
    exact hf w rfl hopen

@[simp]
theorem meets_write {l : S.Loc} {v : S.Cell l} {Q : Unit → Heap S → Prop} :
    Meets env (write l v) h Q E ↔ Q () (h.write l v) := by
  constructor
  · intro hwrite
    obtain ⟨w, rfl, hopen⟩ := exists_open h
    exact hwrite w rfl hopen
  · rintro hQ w rfl -
    exact hQ

@[simp]
theorem meets_write_bind {l : S.Loc} {v : S.Cell l} {f : Unit → Action S β} :
    Meets env (write l v >>= f) h R E ↔ Meets env (f ()) (h.write l v) R E := by
  constructor
  · intro hwrite w hw hopen
    have hrun := hwrite { w with heap := h } rfl hopen
    change Satisfies R E ((f ()).run env { w with heap := h.write l v }) at hrun
    rw [← hw] at hrun
    exact hrun
  · rintro hf w rfl hopen
    exact hf { w with heap := w.heap.write l v } rfl hopen

@[simp]
theorem meets_raiseIf_bind {p : Prop} [Decidable p] {e : S.Error}
    {f : Unit → Action S β} :
    Meets env (raiseIf p e >>= f) h R E ↔ (p → E e h) ∧ (¬p → Meets env (f ()) h R E) := by
  unfold raiseIf
  by_cases hp : p
  · rw [if_pos hp, meets_raise_bind]
    simp [hp]
  · rw [if_neg hp, meets_pure_bind]
    simp [hp]

/-- A reading may be any that the environment can give. -/
theorem Meets.ask_bind {f : S.Reading → Action S β}
    (hf : ∀ n, Meets env (f (env n)) h R E) : Meets env (ask >>= f) h R E := by
  rintro w rfl hopen
  exact hf w.readings { w with readings := w.readings + 1 } rfl hopen

theorem Meets.loggedEvents_bind {f : List S.Event × List S.Event → Action S β}
    (hf : ∀ events, Meets env (f events) h R E) : Meets env (loggedEvents >>= f) h R E := by
  rintro w rfl hopen
  exact hf (w.eventStore, (w.current.map Transaction.stagedEvents).getD []) w rfl hopen

/-! ## Transactions -/

variable (c : Coordinator S)

/-- Joining the open transaction changes nothing. -/
theorem Meets.atomic_nested (hx : Meets env x h Q E) : Meets env (atomic c x) h Q E := by
  intro w hw hopen
  obtain ⟨t, ht⟩ := Option.isSome_iff_exists.mp hopen
  rw [atomic_run_nested c ht]
  exact hx w hw hopen

/-- Staging an event in the open transaction cannot fail. -/
theorem Meets.emit_bind {event : S.Event} {f : Unit → Action S β}
    (hf : Meets env (f ()) h R E) : Meets env (emit c event >>= f) h R E := by
  rintro w rfl hopen
  obtain ⟨t, ht⟩ := Option.isSome_iff_exists.mp hopen
  rw [run_bind]
  simp only [emit, ht]
  exact hf _ rfl rfl

theorem Meets.emit {event : S.Event} {Q : Unit → Heap S → Prop} (hQ : Q () h) :
    Meets env (Action.emit c event) h Q E := by
  rintro w rfl hopen
  obtain ⟨t, ht⟩ := Option.isSome_iff_exists.mp hopen
  simp only [Action.emit, ht]
  exact hQ

/-- The cells that an outermost transaction leaves when it returns are those that its
body left. -/
theorem Meets.atomic_outermost {w w' : World S} {a : α} (hx : Meets env x w.heap Q E)
    (hnone : w.current = none) (hrun : (atomic c x).run env w = (.ok a, w')) :
    Q a w'.heap := by
  obtain ⟨w₁, t, hbody, -, hheap, -⟩ := atomic_returned c hnone hrun
  have hpost := hx (c.opened w) rfl rfl
  rw [hbody] at hpost
  rw [hheap]
  exact hpost

end Library
end Ascos
