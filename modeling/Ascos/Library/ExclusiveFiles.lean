import Ascos.Library.Interruption

/-!
# Files that are created once

An exclusive creation makes an empty file and raises when there is one; the content is written
into it afterwards.  A process that dies in between leaves a file without its content.
-/

namespace Ascos
namespace Library

inductive File (β : Type) where
  | torn
  | whole (value : β)
deriving DecidableEq

/-- Where a file is kept in a state. -/
structure Place (σ β : Type) where
  get : σ → Option (File β)
  put : File β → σ → σ

namespace Place

variable {σ ε β : Type} {guarantee : σ → σ → Prop} {s : σ} {Q : Bool → σ → Prop}
  {E : ε → σ → Prop}

/-- The exclusive creation of a file and the write of its content; false when there already is
one. -/
def exclusiveWrite (place : Place σ β) (value : β) : Procedure σ ε Bool :=
  .step (fun s => if (place.get s).isSome then s else place.put .torn s) fun found =>
    if (place.get found).isSome then .done (.ok false)
    else .step (place.put (.whole value)) fun _ => .done (.ok true)

/-- A write that finds a file changes nothing; another one takes its two steps. -/
theorem obeys_exclusiveWrite {place : Place σ β} {value : β}
    (hfound : (place.get s).isSome = true → guarantee s s ∧ Q false s)
    (hcreated : place.get s = none →
      guarantee s (place.put .torn s) ∧
        guarantee (place.put .torn s) (place.put (.whole value) (place.put .torn s)) ∧
          Q true (place.put (.whole value) (place.put .torn s))) :
    Procedure.Obeys guarantee (place.exclusiveWrite value : Procedure σ ε Bool) s Q E := by
  unfold exclusiveWrite Procedure.Obeys
  cases hget : place.get s with
  | none =>
    obtain ⟨hfirst, hsecond, hQ⟩ := hcreated hget
    simp only [hget, Option.isSome_none, Bool.false_eq_true, if_false]
    exact ⟨hfirst, hsecond, hQ⟩
  | some file =>
    obtain ⟨hsame, hQ⟩ := hfound (by rw [hget]; rfl)
    simp only [hget, Option.isSome_some, if_true]
    exact ⟨hsame, hQ⟩

end Place
end Library
end Ascos
