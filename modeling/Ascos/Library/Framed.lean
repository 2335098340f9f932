import Mathlib.Data.Nat.Notation
import Mathlib.Tactic.Common

/-!
# Texts behind their lengths

A text can be put behind its length and a colon, and such a piece can be put before any other
text without becoming ambiguous: a numeral is read up to the colon, and then as many
characters as it says.
-/

namespace Ascos
namespace Library

/-! ## Numerals before a colon -/

theorem append_colon_inj {digits digits' rest rest' : List Char}
    (hdigits : ∀ c ∈ digits, c.isDigit = true) (hdigits' : ∀ c ∈ digits', c.isDigit = true)
    (h : digits ++ ':' :: rest = digits' ++ ':' :: rest') : digits = digits' ∧ rest = rest' := by
  induction digits generalizing digits' with
  | nil =>
    cases digits' with
    | nil => exact ⟨rfl, (List.cons.inj h).2⟩
    | cons c others =>
        have hcolon : ':' = c := (List.cons.inj h).1
        have hdigit := hdigits' c List.mem_cons_self
        rw [← hcolon] at hdigit
        exact absurd hdigit (by decide)
  | cons c others ih =>
    cases digits' with
    | nil =>
        have hcolon : c = ':' := (List.cons.inj h).1
        have hdigit := hdigits c List.mem_cons_self
        rw [hcolon] at hdigit
        exact absurd hdigit (by decide)
    | cons c' others' =>
        obtain ⟨hhead, htail⟩ := List.cons.inj h
        obtain ⟨hothers, hrest⟩ := ih (fun d hd => hdigits d (List.mem_cons_of_mem _ hd))
          (fun d hd => hdigits' d (List.mem_cons_of_mem _ hd)) htail
        exact ⟨by rw [hhead, hothers], hrest⟩

theorem numeral_append_inj {m n : Nat} {rest rest' : List Char}
    (h : (toString m).toList ++ ':' :: rest = (toString n).toList ++ ':' :: rest') :
    m = n ∧ rest = rest' := by
  have hrepr : ∀ k : Nat, (toString k).toList = Nat.toDigits 10 k := fun k => Nat.toList_repr
  have hdigits : ∀ k : Nat, ∀ c ∈ Nat.toDigits 10 k, c.isDigit = true := fun k c hc =>
    Nat.isDigit_of_mem_toDigits (by decide) (by decide) hc
  rw [hrepr, hrepr] at h
  obtain ⟨hnumeral, hrest⟩ := append_colon_inj (hdigits m) (hdigits n) h
  have hvalue := congrArg (fun digits => Nat.ofDigitChars 10 digits 0) hnumeral
  refine ⟨?_, hrest⟩
  simpa only [Nat.ofDigitChars_ten_toDigits] using hvalue

/-! ## Framed texts -/

/-- A text behind its length and a colon. -/
def framed (value : String) : String :=
  s!"{value.length}:{value}"

theorem toList_framed (value : String) :
    (framed value).toList = (toString value.length).toList ++ ':' :: value.toList := by
  have hcolon : ":".toList = [':'] := by decide
  have htext : ∀ text : String, toString text = text := fun _ => rfl
  simp only [framed, String.toList_append, htext, hcolon, List.append_assoc,
    List.cons_append, List.nil_append]

/-- A framed text before any other characters can be read back. -/
theorem framed_append_inj {first second : String} {rest rest' : List Char}
    (h : (framed first).toList ++ rest = (framed second).toList ++ rest') :
    first = second ∧ rest = rest' := by
  rw [toList_framed, toList_framed, List.append_assoc, List.append_assoc, List.cons_append,
    List.cons_append] at h
  obtain ⟨hlength, hrest⟩ := numeral_append_inj h
  obtain ⟨hvalue, hrest⟩ := List.append_inj hrest
    (by rw [String.length_toList, String.length_toList, hlength])
  exact ⟨String.toList_injective hvalue, hrest⟩

end Library
end Ascos
