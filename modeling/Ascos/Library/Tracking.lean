import Ascos.Library.Specification

/-!
# Cells and events together

`Library.Meets` speaks of cells only.  Where a claim relates what the cells hold to
what the events say, the two have to be followed together: a ledger is the cells with the
events that are durable or staged.
-/

namespace Ascos
namespace Library

open Action

variable {S : Signature} {α : Type} {env : Nat → S.Reading}

/-! ## Ledgers -/

/-- Cells, and the events that are durable or staged. -/
@[ext]
structure Ledger (S : Signature) where
  cells : Heap S
  events : List S.Event

def World.ledger (w : World S) : Ledger S where
  cells := w.heap
  events := w.eventStore ++ (w.current.map Transaction.stagedEvents).getD []

/-- Between two transactions every event is durable. -/
theorem World.ledger_of_none {w : World S} (hnone : w.current = none) :
    w.ledger = ⟨w.heap, w.eventStore⟩ := by
  unfold World.ledger
  rw [hnone]
  simp

variable {x : Action S α} {f : α → Action S β} {d : Ledger S} {Q : α → Ledger S → Prop}
  {R : β → Ledger S → Prop} {E : S.Error → Ledger S → Prop}

/-! ## Structural rules -/

/-! ## The steps of a method -/

-- the type of a cell is kept out of the index, where it would appear unreduced
/-! ## Transactions -/

variable (c : Coordinator S)

/-- The ledger after an outermost transaction: that of its body, or the copies put back over
what the body wrote, with the events as they were. -/
theorem atomic_ledger {w : World S} (hnone : w.current = none) :
    (∃ a, ((atomic c x).run env w).1 = .ok a ∧ (x.run env (c.opened w)).1 = .ok a ∧
        ((atomic c x).run env w).2.ledger = (x.run env (c.opened w)).2.ledger) ∨
      ∃ e, ((atomic c x).run env w).1 = .error e ∧ ((atomic c x).run env w).2.ledger =
        ⟨restore (capture w.heap (c.targets w.heap)) (x.run env (c.opened w)).2.heap,
          w.eventStore⟩ := by
  have hclosed := (atomic c x).within env w
  unfold Within at hclosed
  rw [hnone] at hclosed
  rcases hrun : (atomic c x).run env w with ⟨e | a, w'⟩
  · rw [hrun] at hclosed
    obtain ⟨hstore, hheap⟩ := atomic_raised_heap c hnone hrun
    refine .inr ⟨e, rfl, ?_⟩
    rw [World.ledger_of_none hclosed, hheap, hstore]
  · rw [hrun] at hclosed
    obtain ⟨w₁, t, hbody, ht, hheap, hstore⟩ := atomic_returned c hnone hrun
    have hkept := (body_of_opened c x env w).1
    rw [hbody] at hkept
    refine .inl ⟨a, rfl, by rw [hbody], ?_⟩
    rw [World.ledger_of_none hclosed, hbody, hheap, hstore, ← hkept]
    unfold World.ledger
    rw [ht]
    rfl

theorem opened_ledger {w : World S} (hnone : w.current = none) :
    (c.opened w).ledger = w.ledger := by
  unfold World.ledger Coordinator.opened
  simp [hnone]

/-! ## What an action says -/

/-- Events were added, all of which satisfy a condition. -/
def Adds (P : S.Event → Prop) (d d' : Ledger S) : Prop :=
  ∃ events, (∀ event ∈ events, P event) ∧ d'.events = d.events ++ events

/-- What two actions say, one after the other. -/
theorem Adds.trans {P : S.Event → Prop} {d d' d'' : Ledger S} (h : Adds P d d')
    (h' : Adds P d' d'') : Adds P d d'' := by
  obtain ⟨events, hevents, hlog⟩ := h
  obtain ⟨more, hmore, hlog'⟩ := h'
  refine ⟨events ++ more, ?_, ?_⟩
  · intro event hevent
    exact (List.mem_append.mp hevent).elim (hevents event) (hmore event)
  · rw [hlog', hlog, List.append_assoc]

theorem Adds.of_eq {P : S.Event → Prop} {d d' : Ledger S} (h : d'.events = d.events) :
    Adds P d d' :=
  ⟨[], by simp, by rw [h, List.append_nil]⟩

end Library
end Ascos
