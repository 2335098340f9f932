import Ascos.Releases.Model
import Mathlib.Data.List.Lex
import Mathlib.Order.Lattice

/-!
# The texts and the order of versions

`Version.parse`, `Version.__str__` and `Version.precedence` of
`runtime/release_management/models.py`.  A digit of the pattern is any decimal digit of
Unicode, and the interpreter bounds how many digits it converts.

Main results:

- Theorem `version_texts_and_order`: a version that is parsed is written as the text exactly
  when the text is ASCII, a version is parsed from its own text exactly when the text can be
  written, and precedence is a strict total order in which a candidate stands between the smaller
  stable versions and its own.
-/

namespace Ascos
namespace Releases

open Library Library.Checks

/-! ## Numerals -/

/-- The decimal digits that the pattern matches and `int` reads, and how many digits the
interpreter converts at most. -/
structure Numerals where
  value : Char → Option Nat
  limit : Option Nat
  value_lt : ∀ c d, value c = some d → d < 10
  value_ascii : ∀ c : Char, c.toNat < 128 →
    value c = if c.isDigit = true then some (c.toNat - 48) else none

variable (numerals : Numerals)

/-- The conversion of so many digits is refused. -/
def Numerals.refuses (count : Nat) : Bool :=
  numerals.limit.any (· < count)

/-- `int` of a text of digits. -/
def Numerals.int (digits : List Char) : Except Error Nat :=
  if numerals.refuses digits.length = true then
    throw (.value (s!"Exceeds the limit ({numerals.limit.getD 0} digits) for integer string " ++
      s!"conversion: value has {digits.length} digits; use sys.set_int_max_str_digits() to " ++
      "increase the limit"))
  else pure (digits.foldl (fun n c => 10 * n + (numerals.value c).getD 0) 0)

/-- `str` of a natural number. -/
def Numerals.str (n : Nat) : Except Error String :=
  if numerals.refuses (Nat.toDigits 10 n).length = true then
    throw (.value (s!"Exceeds the limit ({numerals.limit.getD 0} digits) for integer string " ++
      "conversion; use sys.set_int_max_str_digits() to increase the limit"))
  else pure n.repr

/-! ## Parsing and writing -/

/-- The group `(0|[1-9]\d*)` at the front, and what follows it. -/
def Numerals.read : List Char → Option (List Char × List Char)
  | [] => none
  | c :: rest =>
    if c = '0' then some ([c], rest)
    else if '1' ≤ c ∧ c ≤ '9' then
      some (c :: rest.takeWhile fun d => (numerals.value d).isSome,
        rest.dropWhile fun d => (numerals.value d).isSome)
    else none

/-- A literal at the front, and what follows it. -/
def readLiteral : List Char → List Char → Option (List Char)
  | [], chars => some chars
  | _ :: _, [] => none
  | c :: expected, d :: rest => if c = d then readLiteral expected rest else none

/-- `match.groups()` of the pattern of a version. -/
def versionGroups (chars : List Char) :
    Option (List Char × List Char × List Char × Option (List Char)) := do
  let (major, rest) ← numerals.read chars
  let rest ← readLiteral ['.'] rest
  let (minor, rest) ← numerals.read rest
  let rest ← readLiteral ['.'] rest
  let (patch, rest) ← numerals.read rest
  if rest = [] then pure (major, minor, patch, none)
  else
    let rest ← readLiteral ['-', 'r', 'c', '.'] rest
    let (candidate, rest) ← numerals.read rest
    if rest = [] then pure (major, minor, patch, some candidate) else none

def Version.parse (value : String) : Except Error Version :=
  match versionGroups numerals value.toList with
  | none => throw (.value "Version must use major.minor.patch or major.minor.patch-rc.N")
  | some (major, minor, patch, candidate) => do
    let major ← numerals.int major
    let minor ← numerals.int minor
    let patch ← numerals.int patch
    match candidate with
    | none => pure ⟨major, minor, patch, none⟩
    | some candidate =>
        let candidate ← numerals.int candidate
        pure ⟨major, minor, patch, some candidate⟩

/-- `Version.__str__`, which fails where a component has more digits than the interpreter
converts. -/
def Version.str (version : Version) : Except Error String := do
  let major ← numerals.str version.major
  let minor ← numerals.str version.minor
  let patch ← numerals.str version.patch
  let stable := major ++ "." ++ minor ++ "." ++ patch
  match version.releaseCandidate with
  | none => pure stable
  | some candidate =>
    let candidate ← numerals.str candidate
    pure (stable ++ "-rc." ++ candidate)

/-- No component has more digits than the interpreter converts. -/
def Version.Fits (version : Version) : Prop :=
  ∀ n ∈ [version.major, version.minor, version.patch] ++ version.releaseCandidate.toList,
    numerals.refuses (Nat.toDigits 10 n).length = false

/-! ## Numerals and their values -/

section Numerals

variable {numerals} {c : Char} {chars rest group : List Char} {n : Nat}

def Numerals.IsGroup (numerals : Numerals) (group : List Char) : Prop :=
  group = ['0'] ∨ ∃ c digits, group = c :: digits ∧ ('1' ≤ c ∧ c ≤ '9') ∧
    ∀ d ∈ digits, (numerals.value d).isSome = true

theorem eq_append_of_readLiteral {expected : List Char}
    (h : readLiteral expected chars = some rest) : chars = expected ++ rest := by
  induction expected generalizing chars with
  | nil => simpa [readLiteral] using h
  | cons c expected ih =>
    cases chars with
    | nil => simp [readLiteral] at h
    | cons d chars =>
        by_cases hc : c = d
        · simp only [readLiteral, hc, if_true] at h
          simp [hc, ih h]
        · simp [readLiteral, hc] at h

theorem Numerals.read_some (h : numerals.read chars = some (group, rest)) :
    chars = group ++ rest ∧ numerals.IsGroup group := by
  cases chars with
  | nil => simp [read] at h
  | cons c chars =>
    simp only [read] at h
    by_cases hzero : c = '0'
    · simp only [hzero, if_true, Option.some.injEq, Prod.mk.injEq] at h
      obtain ⟨rfl, rfl⟩ := h
      exact ⟨by rw [hzero]; rfl, .inl rfl⟩
    · rw [if_neg hzero] at h
      by_cases hdigit : '1' ≤ c ∧ c ≤ '9'
      · simp only [hdigit, and_self, if_true, Option.some.injEq, Prod.mk.injEq] at h
        obtain ⟨rfl, rfl⟩ := h
        refine ⟨by simp, .inr ⟨c, _, rfl, hdigit, fun d hd => ?_⟩⟩
        exact List.all_eq_true.mp List.all_takeWhile d hd
      · simp [hdigit] at h

theorem isDigit_of_bounds (h : '1' ≤ c ∧ c ≤ '9') : c.isDigit = true := by
  rw [Char.isDigit_iff_toNat]
  have hlow : '1'.toNat ≤ c.toNat := h.1
  have hhigh : c.toNat ≤ '9'.toNat := h.2
  exact ⟨Nat.le_trans (by decide) hlow, hhigh⟩

theorem Numerals.value_of_isDigit (h : c.isDigit = true) :
    numerals.value c = some (c.toNat - 48) := by
  have hrange := Char.isDigit_iff_toNat.mp h
  have hhigh : c.toNat ≤ 57 := hrange.2
  rw [numerals.value_ascii c (by omega), if_pos h]

theorem toDigits_of_isDigit (h : c.isDigit = true) :
    c.toNat - 48 < 10 ∧ Nat.toDigits 10 (c.toNat - 48) = [c] := by
  obtain ⟨hlow, hhigh⟩ := Char.isDigit_iff_toNat.mp h
  have hlow : 48 ≤ c.toNat := hlow
  have hhigh : c.toNat ≤ 57 := hhigh
  have hlt : c.toNat - 48 < 10 := by omega
  refine ⟨hlt, ?_⟩
  rw [Nat.toDigits_of_lt_base hlt, List.cons.injEq, ← Char.toNat_inj,
    Nat.toNat_digitChar_of_lt_ten hlt]
  exact ⟨by omega, rfl⟩

/-- The value of a text of digits after a number. -/
def Numerals.fold (numerals : Numerals) (n : Nat) (digits : List Char) : Nat :=
  digits.foldl (fun n c => 10 * n + (numerals.value c).getD 0) n

theorem toDigits_fold (hn : 0 < n) (hchars : ∀ d ∈ chars, d.isDigit = true) :
    Nat.toDigits 10 (numerals.fold n chars) = Nat.toDigits 10 n ++ chars := by
  induction chars generalizing n with
  | nil => simp [Numerals.fold]
  | cons d chars ih =>
    have hdigit : d.isDigit = true := hchars d List.mem_cons_self
    obtain ⟨hlt, hd⟩ := toDigits_of_isDigit hdigit
    have hstep : numerals.fold n (d :: chars) =
        numerals.fold (10 * n + (d.toNat - 48)) chars := by
      simp [Numerals.fold, Numerals.value_of_isDigit hdigit]
    rw [hstep, ih (by omega) fun e he => hchars e (List.mem_cons_of_mem _ he),
      ← Nat.toDigits_append_toDigits (by decide) hn hlt, hd, List.append_assoc]
    rfl

theorem toDigits_group (hgroup : numerals.IsGroup group)
    (hascii : ∀ d ∈ group, d.toNat < 128) :
    Nat.toDigits 10 (numerals.fold 0 group) = group := by
  rcases hgroup with rfl | ⟨c, digits, rfl, hbounds, hdigits⟩
  · simp [Numerals.fold, @Numerals.value_of_isDigit numerals '0' rfl]
  · have hc := isDigit_of_bounds hbounds
    have hpositive : 0 < c.toNat - 48 := by
      have hlow : 49 ≤ c.toNat := hbounds.1
      omega
    have hrest : ∀ d ∈ digits, d.isDigit = true := by
      intro d hd
      have hvalue := hdigits d hd
      rw [numerals.value_ascii d (hascii d (List.mem_cons_of_mem _ hd))] at hvalue
      by_contra hne
      simp [hne] at hvalue
    have hfold : numerals.fold 0 (c :: digits) = numerals.fold (c.toNat - 48) digits := by
      simp [Numerals.fold, Numerals.value_of_isDigit hc]
    rw [hfold, toDigits_fold hpositive hrest, (toDigits_of_isDigit hc).2]
    rfl

theorem toDigits_cons (hn : 0 < n) : ∃ c digits, Nat.toDigits 10 n = c :: digits ∧
    ('1' ≤ c ∧ c ≤ '9') ∧ ∀ d ∈ digits, d.isDigit = true := by
  induction n using Nat.base_induction 10 (by decide) with
  | single m hm =>
    refine ⟨m.digitChar, [], Nat.toDigits_of_lt_base hm, ?_, by simp⟩
    have hcases : ∀ k < 10, 0 < k → '1' ≤ k.digitChar ∧ k.digitChar ≤ '9' := by decide
    exact hcases m hm hn
  | digit m k hk hm ih =>
    obtain ⟨c, digits, hdigits, hbounds, hrest⟩ := ih hm
    rw [← Nat.toDigits_append_toDigits (by decide) hm hk, hdigits,
      Nat.toDigits_of_lt_base hk]
    refine ⟨c, digits ++ [k.digitChar], rfl, hbounds, fun d hd => ?_⟩
    rcases List.mem_append.mp hd with hd | hd
    · exact hrest d hd
    · rw [List.mem_singleton.mp hd, Nat.isDigit_digitChar, decide_eq_true_eq]
      exact hk

theorem Numerals.read_toDigits (hrest : ∀ d ∈ rest.head?, numerals.value d = none) :
    numerals.read (Nat.toDigits 10 n ++ rest) = some (Nat.toDigits 10 n, rest) := by
  rcases Nat.eq_zero_or_pos n with rfl | hn
  · simp [read]
  · obtain ⟨c, digits, hdigits, hbounds, hall⟩ := toDigits_cons hn
    have hzero : c ≠ '0' := by
      rintro rfl
      exact absurd hbounds.1 (by decide)
    have hsome : ∀ d ∈ digits, (numerals.value d).isSome = true := by
      intro d hd
      rw [value_of_isDigit (hall d hd)]
      rfl
    have hend : rest.takeWhile (fun d => (numerals.value d).isSome) = [] ∧
        rest.dropWhile (fun d => (numerals.value d).isSome) = rest := by
      cases rest with
      | nil => exact ⟨rfl, rfl⟩
      | cons d rest => simp [hrest d rfl]
    rw [hdigits]
    simp [read, hzero, hbounds, List.takeWhile_append_of_pos hsome,
      List.dropWhile_append_of_pos hsome, hend]

theorem Numerals.int_eq_ok {n : Nat} : numerals.int group = .ok n ↔
    numerals.refuses group.length = false ∧ numerals.fold 0 group = n := by
  unfold int
  by_cases hrefused : numerals.refuses group.length = true
  · simp [hrefused, throw, throwThe, MonadExceptOf.throw]
  · rw [Bool.not_eq_true] at hrefused
    simp [hrefused, Numerals.fold, pure, Except.pure]

theorem Numerals.str_eq_ok {text : String} : numerals.str n = .ok text ↔
    numerals.refuses (Nat.toDigits 10 n).length = false ∧ n.repr = text := by
  unfold str
  by_cases hrefused : numerals.refuses (Nat.toDigits 10 n).length = true
  · simp [hrefused, throw, throwThe, MonadExceptOf.throw]
  · rw [Bool.not_eq_true] at hrefused
    simp [hrefused, pure, Except.pure]

/-- A number that can be written is read again. -/
theorem Numerals.int_toDigits (hfits : numerals.refuses (Nat.toDigits 10 n).length = false) :
    numerals.int (Nat.toDigits 10 n) = .ok n := by
  refine int_eq_ok.mpr ⟨hfits, ?_⟩
  have hfold : numerals.fold 0 (Nat.toDigits 10 n) = Nat.ofDigitChars 10 (Nat.toDigits 10 n) 0 := by
    rw [Nat.ofDigitChars_eq_foldl]
    refine List.foldl_ext _ _ _ fun a d hd => ?_
    rw [value_of_isDigit (Nat.isDigit_of_mem_toDigits (by decide) (by decide) hd)]
    rfl
  rw [hfold, Nat.ofDigitChars_ten_toDigits]

end Numerals

/-! ## Versions and their texts -/

section Texts

variable {numerals} {version : Version} {text : String}

/-- The characters of groups as the pattern puts them together. -/
def joinGroups (major minor patch : List Char) (candidate : Option (List Char)) : List Char :=
  major ++ '.' :: (minor ++ '.' :: (patch ++
    candidate.elim [] fun candidate => '-' :: 'r' :: 'c' :: '.' :: candidate))

theorem versionGroups_some {chars major minor patch : List Char} {candidate : Option (List Char)}
    (h : versionGroups numerals chars = some (major, minor, patch, candidate)) :
    chars = joinGroups major minor patch candidate ∧
      ∀ group ∈ [major, minor, patch] ++ candidate.toList, numerals.IsGroup group := by
  simp only [versionGroups, Option.bind_eq_bind, Option.bind_eq_some_iff, Prod.exists] at h
  obtain ⟨m, r1, hmajor, r2, hdot, n, r3, hminor, r4, hdot', p, r5, hpatch, hend⟩ := h
  obtain ⟨rfl, hm⟩ := Numerals.read_some hmajor
  obtain rfl := eq_append_of_readLiteral hdot
  obtain ⟨rfl, hn⟩ := Numerals.read_some hminor
  obtain rfl := eq_append_of_readLiteral hdot'
  obtain ⟨rfl, hp⟩ := Numerals.read_some hpatch
  by_cases hstable : r5 = []
  · simp only [hstable, if_true, pure, Option.some.injEq, Prod.mk.injEq] at hend
    obtain ⟨rfl, rfl, rfl, rfl⟩ := hend
    exact ⟨by simp [joinGroups, hstable], by simp [hm, hn, hp]⟩
  · simp only [hstable, if_false, Option.bind_eq_some_iff, Prod.exists] at hend
    obtain ⟨r6, hliteral, c, r7, hcandidate, hlast⟩ := hend
    obtain rfl := eq_append_of_readLiteral hliteral
    obtain ⟨rfl, hc⟩ := Numerals.read_some hcandidate
    by_cases hr7 : r7 = []
    · simp only [hr7, if_true, pure, Option.some.injEq, Prod.mk.injEq] at hlast
      obtain ⟨rfl, rfl, rfl, rfl⟩ := hlast
      exact ⟨by simp [joinGroups, hr7], by simp [hm, hn, hp, hc]⟩
    · simp [hr7] at hlast

theorem versionGroups_join (major minor patch : Nat) (candidate : Option Nat) :
    versionGroups numerals (joinGroups (Nat.toDigits 10 major) (Nat.toDigits 10 minor)
      (Nat.toDigits 10 patch) (candidate.map (Nat.toDigits 10))) =
      some (Nat.toDigits 10 major, Nat.toDigits 10 minor, Nat.toDigits 10 patch,
        candidate.map (Nat.toDigits 10)) := by
  have hdot : numerals.value '.' = none := numerals.value_ascii '.' (by decide)
  have hdash : numerals.value '-' = none := numerals.value_ascii '-' (by decide)
  unfold versionGroups joinGroups
  rw [Numerals.read_toDigits (by simp [hdot])]
  simp only [Option.bind_eq_bind, Option.bind_some, readLiteral, if_true]
  rw [Numerals.read_toDigits (by simp [hdot])]
  simp only [Option.bind_some, readLiteral, if_true]
  cases candidate with
  | none =>
    rw [Numerals.read_toDigits (by simp)]
    simp
  | some candidate =>
    rw [Numerals.read_toDigits (by simp [hdash])]
    have hread := @Numerals.read_toDigits numerals [] candidate
      (by simp)
    rw [List.append_nil] at hread
    simp [readLiteral, hread]

/-- The text of a version is that of its digits. -/
def Version.chars (version : Version) : List Char :=
  joinGroups (Nat.toDigits 10 version.major) (Nat.toDigits 10 version.minor)
    (Nat.toDigits 10 version.patch) (version.releaseCandidate.map (Nat.toDigits 10))

theorem Version.str_eq_ok : version.str numerals = .ok text ↔
    version.Fits numerals ∧ text = String.ofList version.chars := by
  obtain ⟨major, minor, patch, candidate⟩ := version
  have hrepr : ∀ n : Nat, n.repr = String.ofList (Nat.toDigits 10 n) :=
    fun n => Nat.repr_eq_ofList_toDigits
  unfold str
  cases candidate with
  | none =>
    simp only [bind_ok_iff, Numerals.str_eq_ok, Fits, chars, joinGroups, pure_ok_iff,
      Option.toList_none, List.append_nil, List.forall_mem_cons, Option.map_none,
      Option.elim_none]
    constructor
    · rintro ⟨_, ⟨hmajor, rfl⟩, _, ⟨hminor, rfl⟩, _, ⟨hpatch, rfl⟩, rfl⟩
      refine ⟨⟨hmajor, hminor, hpatch, by simp⟩, ?_⟩
      simp [hrepr, ← String.toList_inj]
    · rintro ⟨⟨hmajor, hminor, hpatch, -⟩, rfl⟩
      refine ⟨_, ⟨hmajor, rfl⟩, _, ⟨hminor, rfl⟩, _, ⟨hpatch, rfl⟩, ?_⟩
      simp [hrepr, ← String.toList_inj]
  | some candidate =>
    simp only [bind_ok_iff, Numerals.str_eq_ok, Fits, chars, joinGroups, pure_ok_iff,
      Option.toList_some, List.cons_append, List.nil_append, List.forall_mem_cons,
      Option.map_some, Option.elim_some]
    constructor
    · rintro ⟨_, ⟨hmajor, rfl⟩, _, ⟨hminor, rfl⟩, _, ⟨hpatch, rfl⟩, _, ⟨hcandidate, rfl⟩, rfl⟩
      refine ⟨⟨hmajor, hminor, hpatch, hcandidate, by simp⟩, ?_⟩
      simp [hrepr, ← String.toList_inj]
    · rintro ⟨⟨hmajor, hminor, hpatch, hcandidate, -⟩, rfl⟩
      refine ⟨_, ⟨hmajor, rfl⟩, _, ⟨hminor, rfl⟩, _, ⟨hpatch, rfl⟩, _, ⟨hcandidate, rfl⟩, ?_⟩
      simp [hrepr, ← String.toList_inj]

theorem Version.parse_eq_ok : Version.parse numerals text = .ok version ↔
    ∃ major minor patch candidate,
      versionGroups numerals text.toList = some (major, minor, patch, candidate) ∧
        numerals.int major = .ok version.major ∧ numerals.int minor = .ok version.minor ∧
          numerals.int patch = .ok version.patch ∧
            candidate.mapM numerals.int = .ok version.releaseCandidate := by
  unfold parse
  cases hgroups : versionGroups numerals text.toList with
  | none => simp [throw, throwThe, MonadExceptOf.throw]
  | some groups =>
    obtain ⟨major, minor, patch, candidate⟩ := groups
    obtain ⟨vmajor, vminor, vpatch, vcandidate⟩ := version
    cases candidate with
    | none =>
        simp only [bind_ok_iff, pure_ok_iff, Option.some.injEq, Prod.mk.injEq]
        constructor
        · rintro ⟨_, hmajor, _, hminor, _, hpatch, hversion⟩
          cases hversion
          exact ⟨_, _, _, _, ⟨rfl, rfl, rfl, rfl⟩, hmajor, hminor, hpatch, rfl⟩
        · rintro ⟨_, _, _, _, ⟨rfl, rfl, rfl, rfl⟩, hmajor, hminor, hpatch, hcandidate⟩
          cases hcandidate
          exact ⟨_, hmajor, _, hminor, _, hpatch, rfl⟩
    | some candidate =>
        simp only [bind_ok_iff, pure_ok_iff, Option.some.injEq, Prod.mk.injEq]
        constructor
        · rintro ⟨_, hmajor, _, hminor, _, hpatch, n, hcandidate, hversion⟩
          cases hversion
          refine ⟨_, _, _, _, ⟨rfl, rfl, rfl, rfl⟩, hmajor, hminor, hpatch, ?_⟩
          simp [hcandidate]
        · rintro ⟨_, _, _, _, ⟨rfl, rfl, rfl, rfl⟩, hmajor, hminor, hpatch, hcandidate⟩
          cases hread : numerals.int candidate with
          | error error => simp [hread] at hcandidate
          | ok n =>
              simp only [Option.mapM_some, hread] at hcandidate
              cases hcandidate
              exact ⟨_, hmajor, _, hminor, _, hpatch, _, rfl, rfl⟩

theorem Version.chars_ascii {c : Char} (h : c ∈ version.chars) : c.toNat < 128 := by
  have hdigit : ∀ n, ∀ d ∈ Nat.toDigits 10 n, d.toNat < 128 := by
    intro n d hd
    have hbounds := Char.isDigit_iff_toNat.mp
      (Nat.isDigit_of_mem_toDigits (by decide) (by decide) hd)
    have hhigh : d.toNat ≤ 57 := hbounds.2
    omega
  unfold Version.chars joinGroups at h
  cases hcandidate : version.releaseCandidate with
  | none =>
    simp only [hcandidate, Option.map_none, Option.elim_none, List.mem_append, List.mem_cons,
      List.not_mem_nil, or_false] at h
    rcases h with h | rfl | h | rfl | h
    all_goals first | exact hdigit _ _ h | decide
  | some candidate =>
    simp only [hcandidate, Option.map_some, Option.elim_some, List.mem_append,
      List.mem_cons] at h
    rcases h with h | rfl | h | rfl | h | rfl | rfl | rfl | rfl | h
    all_goals first | exact hdigit _ _ h | decide

theorem Numerals.toDigits_int {group : List Char} {n : Nat} (hgroup : numerals.IsGroup group)
    (hascii : ∀ d ∈ group, d.toNat < 128) (h : numerals.int group = .ok n) :
    Nat.toDigits 10 n = group ∧ numerals.refuses (Nat.toDigits 10 n).length = false := by
  obtain ⟨hfits, rfl⟩ := int_eq_ok.mp h
  have hdigits := toDigits_group hgroup hascii
  exact ⟨hdigits, by rw [hdigits]; exact hfits⟩

theorem Version.str_of_parse (hascii : ∀ c ∈ text.toList, c.toNat < 128)
    (h : Version.parse numerals text = .ok version) : version.str numerals = .ok text := by
  obtain ⟨major, minor, patch, candidate, hgroups, hmajor, hminor, hpatch, hcandidate⟩ :=
    parse_eq_ok.mp h
  obtain ⟨htext, hall⟩ := versionGroups_some hgroups
  rw [htext] at hascii
  have hgroup : ∀ group ∈ [major, minor, patch] ++ candidate.toList, ∀ n,
      numerals.int group = .ok n →
        Nat.toDigits 10 n = group ∧ numerals.refuses (Nat.toDigits 10 n).length = false := by
    intro group hmem n hn
    refine Numerals.toDigits_int (hall group hmem) (fun d hd => hascii d ?_) hn
    cases candidate with
    | none =>
        simp only [Option.toList_none, List.append_nil, List.mem_cons, List.not_mem_nil,
          or_false] at hmem
        rcases hmem with rfl | rfl | rfl <;> simp [joinGroups, hd]
    | some candidate =>
        simp only [Option.toList_some, List.cons_append, List.nil_append, List.mem_cons,
          List.not_mem_nil, or_false] at hmem
        rcases hmem with rfl | rfl | rfl | rfl <;> simp [joinGroups, hd]
  obtain ⟨hm, hmfits⟩ := hgroup major (by simp) _ hmajor
  obtain ⟨hn, hnfits⟩ := hgroup minor (by simp) _ hminor
  obtain ⟨hp, hpfits⟩ := hgroup patch (by simp) _ hpatch
  rw [str_eq_ok, Fits, chars, hm, hn, hp, ← String.toList_inj, String.toList_ofList, htext]
  cases candidate with
  | none =>
    have hnone : version.releaseCandidate = none := (Except.ok.inj hcandidate).symm
    simp [hnone, hmfits, hnfits, hpfits]
  | some candidate =>
    cases hread : numerals.int candidate with
    | error error => simp [hread] at hcandidate
    | ok n =>
        have hsome : version.releaseCandidate = some n := by
          simpa [hread] using hcandidate.symm
        obtain ⟨hc, hcfits⟩ := hgroup candidate (by simp) _ hread
        rw [hc] at hcfits
        simp [hsome, hc, hcfits, hmfits, hnfits, hpfits]

theorem Version.parse_chars (hfits : version.Fits numerals) :
    Version.parse numerals (String.ofList version.chars) = .ok version := by
  have hint : ∀ n ∈ [version.major, version.minor, version.patch] ++
      version.releaseCandidate.toList, numerals.int (Nat.toDigits 10 n) = .ok n :=
    fun n hn => Numerals.int_toDigits (hfits n hn)
  refine parse_eq_ok.mpr ⟨Nat.toDigits 10 version.major, Nat.toDigits 10 version.minor,
    Nat.toDigits 10 version.patch, version.releaseCandidate.map (Nat.toDigits 10), ?_,
    hint _ (by simp), hint _ (by simp), hint _ (by simp), ?_⟩
  · rw [String.toList_ofList, chars, versionGroups_join]
  · cases hcandidate : version.releaseCandidate with
    | none => rfl
    | some candidate =>
        have hread := hint candidate (by simp [hcandidate])
        simp [hread]

end Texts

/-! ## Precedence -/

section Precedence

variable {first second : Version}

theorem Version.lt_iff : first.lt second = true ↔ first.precedence < second.precedence := by
  simp [lt]

theorem Version.precedence_injective (h : first.precedence = second.precedence) :
    first = second := by
  obtain ⟨major, minor, patch, candidate⟩ := first
  obtain ⟨major', minor', patch', candidate'⟩ := second
  simp only [precedence, List.cons.injEq, and_true] at h
  obtain ⟨rfl, rfl, rfl, hstable, hcandidate⟩ := h
  -- The fourth place keeps a missing candidate apart from the candidate 0.
  cases candidate with
  | none =>
    cases candidate' with
    | none => rfl
    | some candidate' => simp at hstable
  | some candidate =>
    cases candidate' with
    | none => simp at hstable
    | some candidate' => simp only [Option.getD_some] at hcandidate; rw [hcandidate]

def Version.stable (version : Version) : Version :=
  { version with releaseCandidate := none }

theorem Version.stable_lt_of_lt (hfirst : first.releaseCandidate = none)
    (hlt : first.lt second.stable = true) : first.lt second = true := by
  obtain ⟨major, minor, patch, candidate⟩ := first
  obtain rfl : candidate = none := hfirst
  simp only [lt_iff, precedence, stable, List.cons_lt_cons_iff] at hlt ⊢
  simp only [if_true, Option.getD_none, lt_irrefl, and_false, or_false] at hlt
  grind

end Precedence

/-- Texts and versions round trip exactly for ASCII texts and for versions whose components are
written, and precedence is a strict total order with each candidate just below its own stable
version. -/
theorem version_texts_and_order :
    (∀ text version, Version.parse numerals text = .ok version →
      (version.str numerals = .ok text ↔ ∀ c ∈ text.toList, c.toNat < 128)) ∧
    (∀ version : Version,
      (∃ text, version.str numerals = .ok text ∧ Version.parse numerals text = .ok version) ↔
        version.Fits numerals) ∧
    (∀ version : Version, version.lt version = false) ∧
    (∀ first second third : Version, first.lt second = true → second.lt third = true →
      first.lt third = true) ∧
    (∀ first second : Version, first.lt second = true ∨ first = second ∨
      second.lt first = true) ∧
    ∀ candidate : Version, candidate.releaseCandidate.isSome = true →
      candidate.lt candidate.stable = true ∧
        ∀ smaller : Version, smaller.releaseCandidate = none →
          smaller.lt candidate.stable = true → smaller.lt candidate = true := by
  refine ⟨fun text version hparse => ⟨fun hstr => ?_, fun hascii => ?_⟩, fun version =>
    ⟨?_, fun hfits => ?_⟩, fun version => ?_, fun first second third hfirst hsecond => ?_,
    fun first second => ?_, fun candidate hcandidate => ⟨?_, fun smaller hstable hlt => ?_⟩⟩
  · obtain ⟨-, rfl⟩ := Version.str_eq_ok.mp hstr
    intro c hc
    rw [String.toList_ofList] at hc
    exact Version.chars_ascii hc
  · exact Version.str_of_parse hascii hparse
  · rintro ⟨text, hstr, -⟩
    exact (Version.str_eq_ok.mp hstr).1
  · exact ⟨_, Version.str_eq_ok.mpr ⟨hfits, rfl⟩, Version.parse_chars hfits⟩
  · simp [Version.lt]
  · rw [Version.lt_iff] at hfirst hsecond ⊢
    exact lt_trans hfirst hsecond
  · simp only [Version.lt_iff]
    rcases lt_trichotomy first.precedence second.precedence with h | h | h
    · exact .inl h
    · exact .inr (.inl (Version.precedence_injective h))
    · exact .inr (.inr h)
  · obtain ⟨major, minor, patch, releaseCandidate⟩ := candidate
    obtain ⟨n, rfl⟩ := Option.isSome_iff_exists.mp hcandidate
    simp [Version.lt_iff, Version.precedence, Version.stable, List.cons_lt_cons_iff]
  · exact Version.stable_lt_of_lt hstable hlt

/-! ## A digit that is not ASCII -/

/-- The digits of ASCII and the Arabic-Indic ones, with the interpreter's default bound. -/
def sampleNumerals : Numerals where
  value c :=
    if c.isDigit = true then some (c.toNat - 48)
    else if 0x660 ≤ c.toNat ∧ c.toNat ≤ 0x669 then some (c.toNat - 0x660) else none
  limit := some 4300
  value_lt := by
    intro c d h
    by_cases hdigit : c.isDigit = true
    · obtain ⟨-, hhigh⟩ := Char.isDigit_iff_toNat.mp hdigit
      have hhigh : c.toNat ≤ 57 := hhigh
      rw [if_pos hdigit, Option.some.injEq] at h
      omega
    · rw [if_neg hdigit] at h
      by_cases harabic : 0x660 ≤ c.toNat ∧ c.toNat ≤ 0x669
      · rw [if_pos harabic, Option.some.injEq] at h
        omega
      · simp [harabic] at h
  value_ascii := by
    intro c hc
    have harabic : ¬ (0x660 ≤ c.toNat ∧ c.toNat ≤ 0x669) := by omega
    simp [harabic]

/-- The text of a version with a digit that is not ASCII is not its own. -/
theorem not_version_texts :
    ¬ ∀ text version, Version.parse sampleNumerals text = .ok version →
      version.str sampleNumerals = .ok text := by
  intro h
  have hstr := h "1٠.0.0" ⟨10, 0, 0, none⟩ (by decide +kernel)
  exact absurd hstr (by decide +kernel)

end Releases
end Ascos
