import Mathlib.Data.List.Basic
import Mathlib.Data.String.Basic

/-!
# Texts

Texts without the blanks at their ends, and numbers written with a fixed number of digits.
-/

namespace Ascos
namespace Library

/-! ## Blanks at the ends -/

/-- Characters without the blanks at both ends. -/
def stripChars (blank : Char → Bool) (chars : List Char) : List Char :=
  ((chars.dropWhile blank).reverse.dropWhile blank).reverse

/-- A text without the blanks at both ends. -/
def strip (blank : Char → Bool) (value : String) : String :=
  String.ofList (stripChars blank value.toList)

theorem dropWhile_head {blank : Char → Bool} {chars : List Char} {c : Char}
    (h : (chars.dropWhile blank).head? = some c) : blank c = false := by
  have hhead := List.head?_dropWhile_not blank chars
  rw [h] at hhead
  exact hhead

theorem dropWhile_eq_self {blank : Char → Bool} {chars : List Char}
    (h : ∀ c, chars.head? = some c → blank c = false) : chars.dropWhile blank = chars := by
  cases chars with
  | nil => rfl
  | cons c chars =>
    have hc := h c rfl
    rw [List.dropWhile_cons_of_neg (by simp [hc])]

/-- A stripped list of characters starts and ends with no blank. -/
theorem stripChars_eq_self {blank : Char → Bool} {chars : List Char}
    (hfirst : ∀ c, chars.head? = some c → blank c = false)
    (hlast : ∀ c, chars.getLast? = some c → blank c = false) : stripChars blank chars = chars := by
  unfold stripChars
  rw [dropWhile_eq_self hfirst, dropWhile_eq_self, List.reverse_reverse]
  intro c hc
  rw [List.head?_reverse] at hc
  exact hlast c hc

theorem getLast?_stripChars {blank : Char → Bool} {chars : List Char} {c : Char}
    (h : (stripChars blank chars).getLast? = some c) : blank c = false := by
  unfold stripChars at h
  rw [List.getLast?_reverse] at h
  exact dropWhile_head h

theorem head?_stripChars {blank : Char → Bool} {chars : List Char} {c : Char}
    (h : (stripChars blank chars).head? = some c) : blank c = false := by
  have hprefix : stripChars blank chars <+: chars.dropWhile blank := by
    have hsuffix := List.dropWhile_suffix blank (l := (chars.dropWhile blank).reverse)
    have hreversed := List.reverse_prefix.mpr hsuffix
    rwa [List.reverse_reverse] at hreversed
  obtain ⟨rest, hrest⟩ := hprefix
  apply @dropWhile_head blank chars c
  rw [← hrest, List.head?_append, h]
  rfl

theorem strip_strip (blank : Char → Bool) (value : String) :
    strip blank (strip blank value) = strip blank value := by
  unfold strip
  rw [String.toList_ofList, stripChars_eq_self]
  · exact fun c h => head?_stripChars h
  · exact fun c h => getLast?_stripChars h

/-! ## Digits -/

def decimalDigit (n : Nat) : Char :=
  Char.ofNat (48 + n)

def decimalValue (c : Char) : Option Nat :=
  if 48 ≤ c.toNat ∧ c.toNat ≤ 57 then some (c.toNat - 48) else none

/-- The last digits of a number. -/
def digits : Nat → Nat → List Char
  | 0, _ => []
  | width + 1, n => digits width (n / 10) ++ [decimalDigit (n % 10)]

/-- The number that digits are written for, after a number that is already read. -/
def numberFrom (start : Nat) (chars : List Char) : Option Nat :=
  chars.foldlM (fun n c => (decimalValue c).map fun d => 10 * n + d) start

/-- The number in the first characters, and what follows them. -/
def readDigits (width : Nat) (chars : List Char) : Option (Nat × List Char) :=
  if chars.length < width then none
  else (numberFrom 0 (chars.take width)).map fun n => (n, chars.drop width)

/-- What follows an expected character. -/
def readChar (expected : Char) : List Char → Option (List Char)
  | [] => none
  | c :: rest => if c = expected then some rest else none

theorem decimalValue_decimalDigit : ∀ n < 10, decimalValue (decimalDigit n) = some n := by
  decide

@[simp]
theorem length_digits (width n : Nat) : (digits width n).length = width := by
  induction width generalizing n with
  | zero => rfl
  | succ width ih => simp [digits, ih]

theorem numberFrom_digits (width n : Nat) (h : n < 10 ^ width) :
    numberFrom 0 (digits width n) = some n := by
  induction width generalizing n with
  | zero =>
    have hn : n = 0 := by simpa using h
    rw [hn]
    rfl
  | succ width ih =>
    have hquotient : n / 10 < 10 ^ width := by
      rw [Nat.div_lt_iff_lt_mul (by decide), ← pow_succ]
      exact h
    have hlast := decimalValue_decimalDigit (n % 10) (Nat.mod_lt n (by decide))
    have hfront := ih (n / 10) hquotient
    unfold numberFrom at hfront ⊢
    simp only [digits, List.foldlM_append, hfront, List.foldlM_cons, List.foldlM_nil, hlast,
      Option.map_some, Option.bind_eq_bind, Option.bind_some]
    change some _ = some n
    rw [Nat.div_add_mod]

@[simp]
theorem readDigits_append (width n : Nat) (rest : List Char) (h : n < 10 ^ width) :
    readDigits width (digits width n ++ rest) = some (n, rest) := by
  unfold readDigits
  rw [List.take_left' (length_digits width n), List.drop_left' (length_digits width n),
    numberFrom_digits width n h]
  simp

@[simp]
theorem readChar_cons (c : Char) (rest : List Char) : readChar c (c :: rest) = some rest := by
  simp [readChar]

end Library
end Ascos
