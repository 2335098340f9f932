import Mathlib.Data.List.Chain
import Mathlib.Data.List.Perm.Subperm
import Mathlib.Logic.Relation

/-!
# Chasing a partial function

The loop that follows a partial function until it ends or comes back, with the list of what it
has seen.
-/

namespace Ascos
namespace Library

variable {α : Type*} [DecidableEq α]

/-- Follow `next` from `current`.  The result is `none` when the steps run out, `some none` when
the walk ends, and otherwise the cycle it has run into, closed by its first element. -/
def chase (next : α → Option α) : Nat → α → List α → Option (Option (List α))
  | 0, _, _ => none
  | fuel + 1, current, seen =>
    match next current with
    | none => some none
    | some after =>
        if current ∈ seen then some (some (seen.drop (seen.idxOf current) ++ [current]))
        else chase next fuel after (seen ++ [current])

/-- The graph of a partial function. -/
def Leads (next : α → Option α) (first second : α) : Prop :=
  next first = some second

variable {next : α → Option α} {keys seen cycle : List α} {current : α} {fuel : Nat}

omit [DecidableEq α] in
theorem cycle_next {first second : α} (hcycle : Relation.TransGen (Leads next) first first)
    (h : Leads next first second) : Relation.TransGen (Leads next) second second := by
  obtain ⟨third, hthird, hback⟩ := Relation.TransGen.head'_iff.mp hcycle
  have hsame : second = third := Option.some.inj (h.symm.trans hthird)
  rw [hsame]
  exact Relation.TransGen.tail' hback hthird

/-- The loop does not run out of steps: it sees each key at most once. -/
theorem chase_ne_none (hkeys : ∀ first second, Leads next first second → first ∈ keys)
    (hnodup : seen.Nodup) (hseen : seen ⊆ keys) (hfuel : keys.length < fuel + seen.length) :
    chase next fuel current seen ≠ none := by
  induction fuel generalizing current seen with
  | zero =>
    have hle : seen.length ≤ keys.length := (hnodup.subperm hseen).length_le
    omega
  | succ fuel ih =>
    cases hnext : next current with
    | none => simp [chase, hnext]
    | some after =>
        by_cases hmem : current ∈ seen
        · simp [chase, hnext, hmem]
        · simp only [chase, hnext, hmem, if_false]
          refine ih ?_ ?_ ?_
          · refine List.nodup_append.mpr ⟨hnodup, by simp, ?_⟩
            rintro first hfirst last hlast rfl
            rw [List.mem_singleton.mp hlast] at hfirst
            exact hmem hfirst
          · exact List.append_subset.mpr ⟨hseen, by simpa using hkeys _ _ hnext⟩
          · simp only [List.length_append, List.length_singleton]
            omega

theorem chase_ne_end (hcycle : Relation.TransGen (Leads next) current current) :
    chase next fuel current seen ≠ some none := by
  induction fuel generalizing current seen with
  | zero => simp [chase]
  | succ fuel ih =>
    obtain ⟨after, hnext, -⟩ := Relation.TransGen.head'_iff.mp hcycle
    have hnext : next current = some after := hnext
    by_cases hmem : current ∈ seen
    · simp [chase, hnext, hmem]
    · simp only [chase, hnext, hmem, if_false]
      exact ih (cycle_next hcycle hnext)

/-- What the loop has run into is a closed walk: it ends where it starts. -/
theorem chase_closed (hseen : (seen ++ [current]).IsChain (Leads next))
    (h : chase next fuel current seen = some (some cycle)) :
    cycle.IsChain (Leads next) ∧ 1 < cycle.length ∧ cycle.head? = cycle.getLast? := by
  induction fuel generalizing current seen with
  | zero => simp [chase] at h
  | succ fuel ih =>
    cases hnext : next current with
    | none => simp [chase, hnext] at h
    | some after =>
        by_cases hmem : current ∈ seen
        · simp only [chase, hnext, hmem, if_true, Option.some.injEq] at h
          have hlt : seen.idxOf current < seen.length := List.idxOf_lt_length_iff.mpr hmem
          have hdrop : seen.drop (seen.idxOf current) ++ [current] =
              (seen ++ [current]).drop (seen.idxOf current) := by
            rw [List.drop_append_of_le_length hlt.le]
          have hhead : (seen.drop (seen.idxOf current)).head? = some current := by
            rw [List.head?_drop, List.getElem?_eq_getElem hlt, List.getElem_idxOf]
          subst h
          refine ⟨?_, ?_, ?_⟩
          · rw [hdrop]
            exact hseen.drop _
          · simp only [List.length_append, List.length_drop, List.length_singleton]
            omega
          · simp [List.head?_append, hhead]
        · simp only [chase, hnext, hmem, if_false] at h
          refine ih ?_ h
          rw [List.append_assoc]
          simpa [List.isChain_append, Leads, hnext] using hseen

omit [DecidableEq α] in
theorem exists_cycle_of_closed (hwalk : cycle.IsChain (Leads next)) (hlength : 1 < cycle.length)
    (hclosed : cycle.head? = cycle.getLast?) :
    ∃ first, Relation.TransGen (Leads next) first first := by
  rcases cycle with _ | ⟨first, _ | ⟨second, rest⟩⟩
  · simp at hlength
  · simp at hlength
  · have hlast : (second :: rest).getLast (by simp) = first := by
      rw [← Option.some.injEq, ← List.getLast?_eq_getLast_of_ne_nil, ← List.getLast?_cons_cons,
        ← hclosed]
      rfl
    have hchain := List.isChain_cons_cons.mp hwalk
    refine ⟨first, Relation.TransGen.head' hchain.1 ?_⟩
    exact List.relationReflTransGen_of_exists_isChain_cons rest hchain.2 hlast

/-- The loop comes back from some key exactly when there is a cycle. -/
theorem exists_chase_iff (hkeys : ∀ first second, Leads next first second → first ∈ keys)
    (hfuel : keys.length < fuel) :
    (∃ start ∈ keys, ∃ cycle, chase next fuel start [] = some (some cycle)) ↔
      ∃ first, Relation.TransGen (Leads next) first first := by
  constructor
  · rintro ⟨start, -, cycle, h⟩
    obtain ⟨hwalk, hlength, hclosed⟩ := chase_closed (by simp) h
    exact exists_cycle_of_closed hwalk hlength hclosed
  · rintro ⟨first, hcycle⟩
    obtain ⟨second, hnext, -⟩ := Relation.TransGen.head'_iff.mp hcycle
    refine ⟨first, hkeys _ _ hnext, ?_⟩
    have hsteps : chase next fuel first [] ≠ none :=
      chase_ne_none hkeys List.nodup_nil (by simp) (by simpa using hfuel)
    rcases hresult : chase next fuel first [] with _ | _ | cycle
    · exact absurd hresult hsteps
    · exact absurd hresult (chase_ne_end hcycle)
    · exact ⟨cycle, rfl⟩

end Library
end Ascos
