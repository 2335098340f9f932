import Mathlib.Data.List.Chain
import Mathlib.Order.Defs.Unbundled

/-!
# Runs that only move forward

A deterministic machine takes one input after the other.  A relation between an earlier and
a later state says what must not be lost; a run is forward when it holds between any two
states of the run.
-/

namespace Ascos
namespace Library

variable {σ κ : Type*}

/-- Every input of the run meets a condition in the state in which it is taken. -/
def AllMeet (step : σ → κ → σ) (meets : σ → κ → Prop) : σ → List κ → Prop
  | _, [] => True
  | s, input :: inputs => meets s input ∧ AllMeet step meets (step s input) inputs

instance {step : σ → κ → σ} {meets : σ → κ → Prop} [∀ s input, Decidable (meets s input)] :
    (s : σ) → (inputs : List κ) → Decidable (AllMeet step meets s inputs)
  | _, [] => .isTrue trivial
  | s, input :: inputs =>
    letI : Decidable (AllMeet step meets (step s input) inputs) :=
      instDecidableAllMeet (step s input) inputs
    inferInstanceAs (Decidable (meets s input ∧ _))

/-- A later state of the run follows every earlier one. -/
def Forward (step : σ → κ → σ) (follows : σ → σ → Prop) (s : σ) (inputs : List κ) : Prop :=
  (inputs.scanl step s).Pairwise follows

variable {step : σ → κ → σ} {follows : σ → σ → Prop} {meets : σ → κ → Prop}

/-- For a transitive relation it is enough to look at neighbours. -/
theorem forward_cons_iff [IsTrans σ follows] (s : σ) (input : κ) (inputs : List κ) :
    Forward step follows s (input :: inputs) ↔
      follows s (step s input) ∧ Forward step follows (step s input) inputs := by
  unfold Forward
  rw [← List.isChain_iff_pairwise, ← List.isChain_iff_pairwise, List.scanl_cons]
  cases inputs with
  | nil => simp
  | cons next rest => simp [List.scanl_cons]

/-- A run is forward exactly when each of its steps meets the condition under which a single
step is.  The induction is on the inputs; the invariant is what makes the condition exact. -/
theorem forward_iff_allMeet [IsTrans σ follows] (inv : σ → Prop)
    (hstep : ∀ s input, inv s → (follows s (step s input) ↔ meets s input))
    (hinv : ∀ s input, inv s → meets s input → inv (step s input)) (inputs : List κ) :
    ∀ s, inv s → (Forward step follows s inputs ↔ AllMeet step meets s inputs) := by
  induction inputs with
  | nil =>
    intro s _
    simp [Forward, AllMeet]
  | cons input inputs ih =>
    intro s hs
    rw [forward_cons_iff, hstep s input hs]
    constructor
    · rintro ⟨hmeets, hrest⟩
      exact ⟨hmeets, (ih _ (hinv s input hs hmeets)).mp hrest⟩
    · rintro ⟨hmeets, hrest⟩
      exact ⟨hmeets, (ih _ (hinv s input hs hmeets)).mpr hrest⟩

/-- In a run whose inputs meet the condition, neighbouring states are related as a single step
relates them. -/
theorem chain_of_allMeet {next : σ → σ → Prop} (inv : σ → Prop)
    (hstep : ∀ s input, inv s → meets s input → next s (step s input))
    (hinv : ∀ s input, inv s → inv (step s input)) (inputs : List κ) :
    ∀ s, inv s → AllMeet step meets s inputs → (inputs.scanl step s).IsChain next := by
  induction inputs with
  | nil =>
    intro s _ _
    simp
  | cons input inputs ih =>
    intro s hs hmeets
    have hrest := ih _ (hinv s input hs) hmeets.2
    have hnext := hstep s input hs hmeets.1
    cases inputs with
    | nil => simpa [List.scanl_cons] using hnext
    | cons other inputs =>
        rw [List.scanl_cons] at hrest
        rw [List.scanl_cons, List.scanl_cons]
        exact List.IsChain.cons_cons hnext hrest

theorem forward_of_chain {next : σ → σ → Prop} [IsTrans σ follows]
    (himp : ∀ s t, next s t → follows s t) {s : σ} {inputs : List κ}
    (h : (inputs.scanl step s).IsChain next) : Forward step follows s inputs :=
  List.isChain_iff_pairwise.mp (h.imp himp)

/-- A run meets a condition when its first and its last part do. -/
theorem allMeet_append (inputs rest : List κ) : ∀ s,
    (AllMeet step meets s (inputs ++ rest) ↔
      AllMeet step meets s inputs ∧ AllMeet step meets (inputs.foldl step s) rest) := by
  induction inputs with
  | nil => exact fun s => (iff_of_eq (true_and _)).symm
  | cons input inputs ih =>
    intro s
    rw [List.cons_append, List.foldl_cons, AllMeet, AllMeet, ih, and_assoc]

/-- A condition that follows from an invariant is met by every run. -/
theorem allMeet_of_inv (inv : σ → Prop) (hmeets : ∀ s input, inv s → meets s input)
    (hinv : ∀ s input, inv s → inv (step s input)) (inputs : List κ) :
    ∀ s, inv s → AllMeet step meets s inputs := by
  induction inputs with
  | nil => exact fun _ _ => trivial
  | cons input inputs ih => exact fun s hs => ⟨hmeets s input hs, ih _ (hinv s input hs)⟩

/-- Two conditions that agree wherever an invariant holds are met by the same runs. -/
theorem allMeet_congr {other : σ → κ → Prop} (inv : σ → Prop)
    (hstep : ∀ s input, inv s → (meets s input ↔ other s input))
    (hinv : ∀ s input, inv s → inv (step s input)) (inputs : List κ) :
    ∀ s, inv s → (AllMeet step meets s inputs ↔ AllMeet step other s inputs) := by
  induction inputs with
  | nil => exact fun s _ => Iff.rfl
  | cons input inputs ih =>
      exact fun s hs => and_congr (hstep s input hs) (ih _ (hinv s input hs))

/-- An invariant that every step keeps holds in every state of a run. -/
theorem inv_of_mem_scanl (inv : σ → Prop) (hinv : ∀ s input, inv s → inv (step s input))
    (inputs : List κ) : ∀ s, inv s → ∀ t ∈ inputs.scanl step s, inv t := by
  induction inputs with
  | nil =>
    intro s hs t ht
    rw [List.scanl_nil, List.mem_singleton] at ht
    exact ht ▸ hs
  | cons input inputs ih =>
    intro s hs t ht
    rw [List.scanl_cons] at ht
    rcases List.mem_cons.mp ht with rfl | ht
    · exact hs
    · exact ih _ (hinv s input hs) t ht

/-- An invariant that the steps keep that meet a condition holds in every state of a run whose
steps meet it. -/
theorem inv_of_allMeet (inv : σ → Prop)
    (hinv : ∀ s input, inv s → meets s input → inv (step s input)) (inputs : List κ) :
    ∀ s, inv s → AllMeet step meets s inputs → ∀ t ∈ inputs.scanl step s, inv t := by
  induction inputs with
  | nil =>
    intro s hs _ t ht
    rw [List.scanl_nil, List.mem_singleton] at ht
    exact ht ▸ hs
  | cons input inputs ih =>
    intro s hs hmeets t ht
    rw [List.scanl_cons] at ht
    rcases List.mem_cons.mp ht with rfl | ht
    · exact hs
    · exact ih _ (hinv s input hs hmeets.1) hmeets.2 t ht

/-- Every state of a run is good exactly when each of its steps meets the condition under which a
step keeps a good state good. -/
theorem forall_mem_scanl_iff_allMeet (inv good : σ → Prop)
    (hstep : ∀ s input, inv s → good s → (good (step s input) ↔ meets s input))
    (hinv : ∀ s input, inv s → inv (step s input)) (inputs : List κ) :
    ∀ s, inv s → good s → ((∀ t ∈ inputs.scanl step s, good t) ↔ AllMeet step meets s inputs) := by
  induction inputs with
  | nil =>
    intro s _ hgood
    simpa [AllMeet] using hgood
  | cons input inputs ih =>
    intro s hs hgood
    rw [List.scanl_cons, List.forall_mem_cons, AllMeet]
    constructor
    · rintro ⟨-, hrest⟩
      have hnext : good (step s input) := by
        cases inputs with
        | nil => exact hrest _ (by simp)
        | cons other inputs => exact hrest _ (by simp [List.scanl_cons])
      exact ⟨(hstep s input hs hgood).mp hnext, (ih _ (hinv s input hs) hnext).mp hrest⟩
    · rintro ⟨hmeets, hrest⟩
      have hnext := (hstep s input hs hgood).mpr hmeets
      exact ⟨hgood, (ih _ (hinv s input hs) hnext).mpr hrest⟩

/-- A run whose steps meet a condition under which a step is forward is forward, as long as
the condition keeps an invariant. -/
theorem forward_of_allMeet [IsTrans σ follows] (inv : σ → Prop)
    (hstep : ∀ s input, inv s → meets s input → follows s (step s input))
    (hinv : ∀ s input, inv s → meets s input → inv (step s input)) (inputs : List κ) :
    ∀ s, inv s → AllMeet step meets s inputs → Forward step follows s inputs := by
  induction inputs with
  | nil =>
    intro s _ _
    simp [Forward]
  | cons input inputs ih =>
    intro s hs hmeets
    rw [forward_cons_iff]
    exact ⟨hstep s input hs hmeets.1, ih _ (hinv s input hs hmeets.1) hmeets.2⟩

/-- The state that a run ends in is one of its states. -/
theorem foldl_mem_scanl (step : σ → κ → σ) (inputs : List κ) :
    ∀ s, inputs.foldl step s ∈ inputs.scanl step s := by
  induction inputs with
  | nil => simp
  | cons input inputs ih =>
    intro s
    rw [List.foldl_cons, List.scanl_cons]
    exact List.mem_cons_of_mem _ (ih _)

theorem forward_of_step [IsTrans σ follows] (inv : σ → Prop)
    (hstep : ∀ s input, inv s → follows s (step s input))
    (hinv : ∀ s input, inv s → inv (step s input)) (inputs : List κ) :
    ∀ s, inv s → Forward step follows s inputs := by
  induction inputs with
  | nil =>
    intro s _
    simp [Forward]
  | cons input inputs ih =>
    intro s hs
    exact (forward_cons_iff s input inputs).mpr ⟨hstep s input hs, ih _ (hinv s input hs)⟩

end Library
end Ascos
