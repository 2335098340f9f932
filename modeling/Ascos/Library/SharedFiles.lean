import Ascos.Library.Concurrency

/-!
# Files of calls that run side by side

An exclusive creation makes an empty file and fails when there is one; the call that has made
it writes its content afterwards.  A file that is there is never taken away, and one that has
its content keeps it.
-/

namespace Ascos
namespace Library

/-- A file: some call has created it and not yet written its content, or the content is
there. -/
inductive Written (β : Type) where
  | begun (writer : Nat)
  | whole (value : β)
deriving DecidableEq

namespace Written

variable {β : Type}

/-- The exclusive creation of a file by a call. -/
def created (me : Nat) : Option (Written β) → Option (Written β)
  | none => some (.begun me)
  | some file => some file

/-- The write of a call, which goes to the file that it has created. -/
def written (me : Nat) (value : β) : Option (Written β) → Option (Written β)
  | some (.begun writer) => if writer = me then some (.whole value) else some (.begun writer)
  | file => file

/-- The content of a file that is whole. -/
def content? : Option (Written β) → Option β
  | some (.whole value) => some value
  | _ => none

/-- What can become of a file: one that is there stays, one with its content keeps it. -/
def Grows : Option (Written β) → Option (Written β) → Prop
  | none, _ => True
  | some (.begun writer), later => later = some (.begun writer) ∨ ∃ value, later = some (.whole value)
  | some (.whole value), later => later = some (.whole value)

variable {file later last : Option (Written β)} {value : β} {me writer : Nat}

theorem content?_eq_some : content? file = some value ↔ file = some (.whole value) := by
  cases file with
  | none => simp [content?]
  | some file => cases file <;> simp [content?]

@[simp]
theorem Grows.refl (file : Option (Written β)) : Grows file file := by
  cases file with
  | none => trivial
  | some file =>
    cases file with
    | begun writer => exact .inl rfl
    | whole value => rfl

theorem Grows.trans (h : Grows file later) (h' : Grows later last) : Grows file last := by
  cases file with
  | none => trivial
  | some file =>
    cases file with
    | begun writer =>
        obtain rfl | ⟨value, rfl⟩ := h
        · exact h'
        · exact .inr ⟨value, h'⟩
    | whole value =>
        cases h
        exact h'

theorem grows_none : Grows none file :=
  trivial

theorem Grows.whole (h : Grows (some (.whole value)) later) : later = some (.whole value) :=
  h

/-- A file that is there stays. -/
theorem Grows.isSome (h : Grows file later) (hfile : file.isSome = true) :
    later.isSome = true := by
  cases file with
  | none => cases hfile
  | some file =>
    cases file with
    | begun writer =>
        obtain rfl | ⟨value, rfl⟩ := h
        · rfl
        · rfl
    | whole value =>
        cases h
        rfl

@[simp]
theorem grows_created (me : Nat) (file : Option (Written β)) : Grows file (created me file) := by
  cases file with
  | none => trivial
  | some file => exact Grows.refl _

@[simp]
theorem grows_written (me : Nat) (value : β) (file : Option (Written β)) :
    Grows file (written me value file) := by
  cases file with
  | none => trivial
  | some file =>
    cases file with
    | whole value' => rfl
    | begun writer =>
        by_cases hwriter : writer = me
        · exact .inr ⟨value, by simp [written, hwriter]⟩
        · exact .inl (by simp [written, hwriter])

/-- The write of the call that has created the file gives it its content. -/
theorem written_begun (me : Nat) (value : β) :
    written me value (some (.begun me)) = some (.whole value) := by
  simp [written]

theorem written_cases {value' : β} (h : written me value file = some (.whole value')) :
    file = some (.whole value') ∨ value' = value := by
  cases file with
  | none => cases h
  | some file =>
    cases file with
    | whole content => exact .inl h
    | begun writer =>
        by_cases hwriter : writer = me
        · subst hwriter
          rw [written_begun] at h
          cases h
          exact .inr rfl
        · rw [written, if_neg hwriter] at h
          cases h

/-- A write changes no file that another call has created. -/
theorem written_of_ne (h : writer ≠ me) :
    written me value (some (.begun writer)) = some (.begun writer) := by
  simp [written, h]

@[simp]
theorem written_whole (value value' : β) :
    written me value (some (.whole value')) = some (.whole value') :=
  rfl

@[simp]
theorem written_none (value : β) : written me value none = none :=
  rfl

@[simp]
theorem created_none : created me (none : Option (Written β)) = some (.begun me) :=
  rfl

@[simp]
theorem created_some (content : Written β) : created me (some content) = some content :=
  rfl

end Written
end Library
end Ascos
