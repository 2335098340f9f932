import Ascos.Library.Table
import Mathlib.Data.List.Dedup
import Mathlib.Data.List.Sort
import Mathlib.Data.String.Basic

/-!
# Versions of trees

A tree says what is at each of its paths.  A commit is a tree with the commit that it was made
from, so that a commit holds its whole history.
-/

namespace Ascos
namespace Library

/-- What is at each path. -/
abbrev Tree (β : Type) := Table String β

/-- A tree, the commit that it was made from, if any, and when it was made. -/
inductive Commit (β : Type) where
  | root (tree : Tree β)
  | child (parent : Commit β) (tree : Tree β) (message : String) (stamp : Nat)
deriving DecidableEq

namespace Commit

variable {β : Type}

def tree : Commit β → Tree β
  | .root tree => tree
  | .child _ tree _ _ => tree

/-- The commit that it was made from. -/
def parent : Commit β → Option (Commit β)
  | .root _ => none
  | .child parent _ _ _ => some parent

def message : Commit β → String
  | .root _ => ""
  | .child _ _ message _ => message

/-- How many commits it was made from. -/
def depth : Commit β → Nat
  | .root _ => 0
  | .child parent _ _ _ => parent.depth + 1

/-- A commit is among those that another one was made from. -/
inductive Below : Commit β → Commit β → Prop
  | parent (commit : Commit β) (tree : Tree β) (message : String) (stamp : Nat) :
      Below commit (.child commit tree message stamp)
  | step (commit parent : Commit β) (tree : Tree β) (message : String) (stamp : Nat)
      (h : Below commit parent) : Below commit (.child parent tree message stamp)

theorem Below.depth_lt {commit other : Commit β} (h : Below commit other) :
    commit.depth < other.depth := by
  induction h with
  | parent tree message stamp => exact Nat.lt_succ_self _
  | step parent tree message stamp _ ih => exact Nat.lt_succ_of_lt ih

end Commit

namespace Tree

variable {β : Type} [DecidableEq β] {old new : Tree β} {path : String}

/-- The paths at which two trees differ, in order. -/
def changes (old new : Tree β) : List String :=
  (((old ++ new).map (·.1)).dedup.filter fun path => old.load path ≠ new.load path).insertionSort
    (· ≤ ·)

theorem mem_changes : path ∈ changes old new ↔ old.load path ≠ new.load path := by
  unfold changes
  rw [List.mem_insertionSort, List.mem_filter, List.mem_dedup, decide_eq_true_iff]
  constructor
  · exact fun h => h.2
  · intro hne
    refine ⟨?_, hne⟩
    rw [List.map_append, List.mem_append]
    cases hold : old.load path with
    | some value => exact .inl (Table.mem_keys_of_load hold)
    | none =>
        cases hnew : new.load path with
        | some value => exact .inr (Table.mem_keys_of_load hnew)
        | none => exact absurd (hold.trans hnew.symm) hne

end Tree
end Library
end Ascos
