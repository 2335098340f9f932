import Ascos.Library.Checks
import Ascos.Library.Paths
import Mathlib

/-!
# The commands of a managed product

`CommandSpec` of `runtime/managed_product_runtime/models.py`: which arguments a
command may have, and what an interpreter reads in them.

Main results:

- Theorem `outside_candidate`: the text that is checked for paths is none that leads out.
- Theorem `outside_short_iff`: what an option without an equals sign can still carry.
- Theorem `command_sound_iff`: when an accepted command has no inline code and no path that
  leads out of its directory.
-/

namespace Ascos
namespace ManagedProduct

open Library

/-! ## Commands -/

/-- Lower case, for ASCII. -/
def lower (value : String) : String :=
  String.ofList (value.toList.map Char.toLower)

/-- The tables and patterns that a command is checked with: `str.casefold`, the two patterns for
secrets, and a user or a password in a URL. -/
structure Tables where
  casefold : String → String
  secretValue : String → Bool
  secretName : String → Bool
  userinfo : String → Bool
  casefold_ascii : ∀ value : String, (∀ c ∈ value.toList, c.toNat < 128) →
    casefold value = lower value

structure CommandSpec where
  executable : String
  arguments : List String := []
  workingDirectory : String := "."
deriving DecidableEq

def shellExecutables : List String :=
  ["bash", "cmd", "cmd.exe", "dash", "fish", "ksh", "powershell", "powershell.exe", "pwsh", "sh",
    "zsh"]

def interpreterCodeFlags : List String :=
  ["-c", "-e", "--eval"]

def shellTokens : List String :=
  ["&&", "||", ";", "|", ">", ">>", "<", "2>", "2>&1"]

/-- What stands for a secret in front of its value. -/
def secretMarkers : List String :=
  ["password=", "token=", "secret=", "client_secret=", "api_key=", "access_key=",
    "authorization="]

/-- `_EXECUTABLE`. -/
def isExecutable (value : String) : Bool :=
  decide (1 ≤ value.toList.length ∧ value.toList.length ≤ 128) &&
    value.toList.all fun c => c.isAlphanum || c ∈ ['_', '.', '+', '-']

def hasControl (value : String) : Bool :=
  value.toList.any fun c => decide (c.toNat < 32 ∨ c.toNat = 127)

/-- Whether a text stands in another one. -/
def contains (value part : String) : Bool :=
  value.toList.tails.any fun rest => part.toList.isPrefixOf rest

/-- `str.removesuffix`. -/
def removeSuffix (value suffix : String) : String :=
  if suffix.toList <:+ value.toList then
    String.ofList (value.toList.take (value.toList.length - suffix.toList.length))
  else value

section Checks

variable (tables : Tables)

def looksSecret (value : String) : Bool :=
  tables.secretValue value || secretMarkers.any (contains (tables.casefold value)) ||
    (contains value "://" && tables.userinfo value)

def secretOption (value : String) : Bool :=
  let option := value.toList.takeWhile (· ≠ '=')
  decide (option.head? = some '-') &&
    tables.secretName (String.ofList
      ((option.dropWhile (· = '-')).map fun c => if c = '-' then '_' else c))

/-- The part of an argument that is read as a path. -/
def candidate (value : List Char) : List Char :=
  if value.head? = some '-' ∧ '=' ∈ value then (value.dropWhile (· ≠ '=')).tail else value

attribute [local instance] Library.Paths.lawfulBEq_text

/-- `_unsafe_argument_path`. -/
def isUnsafeArgumentPath (value : String) : Bool :=
  let path := candidate value.toList
  let lowered := tables.casefold (String.ofList path)
  decide (path.head? = some '/' ∨ path.head? = some '~') || decide ('\\' ∈ path) ||
    decide (Paths.root path ≠ []) || Paths.isWindowsAbsolute path || Paths.hasDrive path ||
    decide (Paths.parent ∈ Paths.parts path) || ["%2e", "%2f", "%5c"].any (contains lowered)

def relativeDirectory (value : String) : Except String Unit := do
  if value = "" ∨ '\\' ∈ value.toList ∨ hasControl value = true then
    throw "Runtime working directory is unsafe"
  if Paths.root value.toList ≠ [] ∨ Paths.isWindowsAbsolute value.toList = true ∨
      Paths.hasDrive value.toList = true ∨ Paths.parent ∈ Paths.parts value.toList ∨
      (Paths.parts value.toList).any (fun part =>
        tables.casefold (String.ofList part) = ".git") = true ∨
      value.toList ≠ Paths.canonical value.toList then
    throw "Runtime working directory is unsafe"

def isUnsafeArgument (argument : String) : Bool :=
  decide (2048 < argument.toList.length) || hasControl argument ||
    decide (argument ∈ shellTokens) || looksSecret tables argument ||
    secretOption tables argument || isUnsafeArgumentPath tables argument

def isInterpreter (executable : String) : Bool :=
  let lowered := removeSuffix (tables.casefold executable) ".exe"
  "python".toList.isPrefixOf lowered.toList || decide (lowered ∈ ["node", "perl", "ruby"])

def CommandSpec.postInit (spec : CommandSpec) : Except String Unit := do
  if isExecutable spec.executable = false ∨
      tables.casefold spec.executable ∈ shellExecutables then
    throw "Runtime command executable is unsafe"
  if 32 < spec.arguments.length then
    throw "Runtime command arguments must be a bounded tuple"
  if spec.arguments.any (isUnsafeArgument tables) = true then
    throw "Runtime command argument is unsafe"
  if isInterpreter tables spec.executable = true ∧
      (spec.arguments.head?.map tables.casefold).any (· ∈ interpreterCodeFlags) = true then
    throw "Inline interpreter commands are prohibited"
  relativeDirectory tables spec.workingDirectory

end Checks

/-! ## What an interpreter and a file system read -/

/-- An argument is read as an option. -/
def isOption (argument : String) : Bool :=
  decide (argument.toList.head? = some '-') && decide (argument ≠ "-") &&
    decide (argument ≠ "--")

/-- The options before the first argument that is none. -/
def leading (arguments : List String) : List String :=
  arguments.takeWhile isOption

/-- Among short flags that are written together, one that reads code: those before it take no
value, and what follows it is the code. -/
def readsCode (flags : Char → Bool) : List Char → Bool
  | [] => false
  | c :: rest => c == 'c' || c == 'e' || (flags c && readsCode flags rest)

/-- An argument is an inline-code flag, alone, with other short flags, or with its code. -/
def IsInline (flags : Char → Bool) (argument : String) : Prop :=
  argument = "--eval" ∨ "--eval=".toList <+: argument.toList ∨
    ∃ cluster, argument.toList = '-' :: cluster ∧ readsCode flags cluster = true

/-- An option written with its value. -/
inductive Attached : List Char → List Char → Prop
  | short (option : Char) (value : List Char) (hoption : option.isAlphanum = true) :
      Attached ('-' :: option :: value) value
  | long (name value : List Char) (hname : '=' ∉ name) :
      Attached ('-' :: '-' :: name ++ '=' :: value) value

/-- No inline code and no path that leads out: what the options of the interpreter are that take
no value is a parameter. -/
structure CommandSpec.Sound (tables : Tables) (flags : Char → Bool) (spec : CommandSpec) :
    Prop where
  code : isInterpreter tables spec.executable = true →
    ∀ argument ∈ leading spec.arguments, ¬IsInline flags argument
  paths : ∀ argument ∈ spec.arguments, ¬Paths.Outside argument.toList
  values : ∀ argument ∈ spec.arguments, ∀ value, Attached argument.toList value →
    ¬Paths.Outside value

/-- What the checks do not see of an argument: of an option with an equals sign what stands
before it, and of a short option without one the start of its value. -/
def Unseen (argument : List Char) : Prop :=
  argument.head? = some '-' ∧
    (('=' ∈ argument ∧ (Paths.Outside argument ∨
        ∃ option value, argument = '-' :: option :: value ∧ option.isAlphanum = true ∧
          Paths.Outside value)) ∨
      ('=' ∉ argument ∧ ∃ option value, argument = '-' :: option :: value ∧
        option.isAlphanum = true ∧ (value.head? = some '/' ∨ Paths.hasDrive value = true ∨
          (value.splitOnP Paths.isSlash).head? = some Paths.parent)))

/-- The checks see the inline code and the paths of a command. -/
structure CommandSpec.Plain (tables : Tables) (flags : Char → Bool) (spec : CommandSpec) :
    Prop where
  code : isInterpreter tables spec.executable = true →
    ∀ i argument, (leading spec.arguments)[i]? = some argument → IsInline flags argument →
      i = 0 ∧ argument ∈ interpreterCodeFlags
  paths : ∀ argument ∈ spec.arguments, ¬Unseen argument.toList

section Accepted

variable {tables : Tables} {spec : CommandSpec} {argument : String}

/-- What the checks of a command that is accepted say. -/
theorem postInit_ok (h : spec.postInit tables = .ok ()) :
    (∀ argument ∈ spec.arguments, isUnsafeArgumentPath tables argument = false) ∧
      (isInterpreter tables spec.executable = true →
        ∀ argument, spec.arguments.head? = some argument →
          tables.casefold argument ∉ interpreterCodeFlags) := by
  unfold CommandSpec.postInit at h
  obtain ⟨-, h⟩ := Checks.guard_bind_ok_iff.mp h
  obtain ⟨-, h⟩ := Checks.guard_bind_ok_iff.mp h
  obtain ⟨harguments, h⟩ := Checks.guard_bind_ok_iff.mp h
  obtain ⟨hflag, -⟩ := Checks.guard_bind_ok_iff.mp h
  constructor
  · intro argument hargument
    have hnot : isUnsafeArgument tables argument = false := by
      rw [← Bool.not_eq_true]
      exact fun hbad => harguments (List.any_eq_true.mpr ⟨argument, hargument, hbad⟩)
    exact (Bool.or_eq_false_iff.mp hnot).2
  · intro hinterpreter argument hhead hmem
    apply hflag
    rw [hhead]
    exact ⟨hinterpreter, by simpa using hmem⟩

/-- The text that is checked for paths is none that leads out. -/
theorem outside_candidate (h : isUnsafeArgumentPath tables argument = false) :
    ¬Paths.Outside (candidate argument.toList) := by
  unfold isUnsafeArgumentPath at h
  simp only [Bool.or_eq_false_iff, decide_eq_false_iff_not] at h
  obtain ⟨⟨⟨⟨⟨⟨hstart, hbackslash⟩, -⟩, -⟩, hdrive⟩, hparent⟩, -⟩ := h
  have hnames : Paths.parent ∉ (candidate argument.toList).splitOnP Paths.isSlash :=
    fun hmem => hparent (Paths.parent_mem_parts hmem)
  rintro (hslash | hout | hleaves | hleaves)
  · cases hchars : candidate argument.toList with
    | nil =>
        rw [hchars] at hslash
        exact absurd hslash (by decide)
    | cons c chars =>
        rw [hchars] at hslash hstart hbackslash
        have hc : c = '/' ∨ c = '\\' := by
          simpa [Paths.isWindowsSlash] using hslash
        cases hc with
        | inl hc => exact hstart (.inl (by rw [hc]; rfl))
        | inr hc => exact hbackslash (hc ▸ List.mem_cons_self)
  · exact absurd hout (by rw [hdrive]; decide)
  · exact hnames (Paths.parent_mem_of_leaves hleaves)
  · rw [Paths.splitOnP_windows hbackslash] at hleaves
    exact hnames (Paths.parent_mem_of_leaves hleaves)

theorem candidate_long {name value : List Char} (hname : '=' ∉ name) :
    candidate ('-' :: '-' :: name ++ '=' :: value) = value := by
  have hdrop : (name ++ '=' :: value).dropWhile (· ≠ '=') = '=' :: value := by
    rw [List.dropWhile_append_of_pos]
    · rfl
    · intro c hc
      exact decide_eq_true fun heq => hname (heq ▸ hc)
  unfold candidate
  rw [if_pos ⟨rfl, by simp⟩]
  change ((name ++ '=' :: value).dropWhile (· ≠ '=')).tail = value
  rw [hdrop]
  rfl

/-- The value of a short option without an equals sign leads out exactly when it starts so. -/
theorem outside_short_iff {option : Char} {value : List Char}
    (h : isUnsafeArgumentPath tables argument = false)
    (hargument : argument.toList = '-' :: option :: value) (hequals : '=' ∉ argument.toList)
    (hoption : option.isAlphanum = true) :
    Paths.Outside value ↔ value.head? = some '/' ∨ Paths.hasDrive value = true ∨
      (value.splitOnP Paths.isSlash).head? = some Paths.parent := by
  have hslash : Paths.isSlash option = false := by
    cases hs : Paths.isSlash option with
    | false => rfl
    | true =>
        have heq : option = '/' := by simpa [Paths.isSlash] using hs
        rw [heq] at hoption
        exact absurd hoption (by decide)
  unfold isUnsafeArgumentPath at h
  simp only [Bool.or_eq_false_iff, decide_eq_false_iff_not] at h
  obtain ⟨⟨⟨⟨⟨⟨-, hbackslash⟩, -⟩, -⟩, -⟩, hparent⟩, -⟩ := h
  have hself : candidate argument.toList = argument.toList := if_neg fun hc => hequals hc.2
  rw [hself, hargument] at hbackslash hparent
  have hvalue : '\\' ∉ value := fun hmem =>
    hbackslash (List.mem_cons_of_mem _ (List.mem_cons_of_mem _ hmem))
  obtain ⟨name, names, hsplit, hwhole⟩ :=
    @Paths.splitOnP_cons_cons Paths.isSlash '-' option value (by decide) hslash
  have hrest : Paths.parent ∉ names := by
    intro hmem
    apply hparent
    apply Paths.parent_mem_parts
    rw [hwhole]
    exact List.mem_cons_of_mem _ hmem
  have hleaves : Paths.leaves 0 (value.splitOnP Paths.isSlash) = true ↔
      (value.splitOnP Paths.isSlash).head? = some Paths.parent := by
    rw [hsplit]
    constructor
    · intro hleaves
      have hmem := Paths.parent_mem_of_leaves hleaves
      cases List.mem_cons.mp hmem with
      | inl heq => rw [heq]; rfl
      | inr hmem => exact absurd hmem hrest
    · intro hhead
      have hname : name = Paths.parent := Option.some.inj hhead
      rw [hname]
      exact Paths.leaves_parent
  have hstart : Paths.isWindowsSlash (value.headD ' ') = true ↔ value.head? = some '/' := by
    cases value with
    | nil => decide
    | cons c value =>
        have hc : c ≠ '\\' := fun heq => hvalue (heq ▸ List.mem_cons_self)
        simp [Paths.isWindowsSlash, hc]
  unfold Paths.Outside
  rw [Paths.splitOnP_windows hvalue, or_self, hleaves, hstart]

end Accepted

/-! ## When accepted commands are sound -/

section Soundness

variable {tables : Tables} {flags : Char → Bool} {spec : CommandSpec}

theorem not_flag_first (h : spec.postInit tables = .ok ())
    (hinterpreter : isInterpreter tables spec.executable = true) {argument : String}
    (hfirst : (leading spec.arguments)[0]? = some argument) :
    argument ∉ interpreterCodeFlags := by
  have hhead : spec.arguments.head? = some argument := by
    unfold leading at hfirst
    cases harguments : spec.arguments with
    | nil => simp [harguments] at hfirst
    | cons first rest =>
        rw [harguments, List.takeWhile_cons] at hfirst
        by_cases hoption : isOption first = true
        · rw [if_pos hoption] at hfirst
          exact hfirst
        · rw [if_neg hoption] at hfirst
          cases hfirst
  intro hmem
  have hascii : ∀ flag ∈ interpreterCodeFlags, ∀ c ∈ flag.toList, c.toNat < 128 := by
    have hall : interpreterCodeFlags.all (fun flag =>
        flag.toList.all fun c => decide (c.toNat < 128)) = true := by decide +kernel
    exact fun flag hflag c hc => of_decide_eq_true
      (List.all_eq_true.mp (List.all_eq_true.mp hall flag hflag) c hc)
  have hlower : ∀ flag ∈ interpreterCodeFlags, lower flag = flag := by decide
  apply (postInit_ok h).2 hinterpreter argument hhead
  rw [tables.casefold_ascii argument (hascii argument hmem), hlower argument hmem]
  exact hmem

/-- No argument leads out when the checks see its paths. -/
theorem inside_of_not_unseen {argument : String}
    (h : isUnsafeArgumentPath tables argument = false) (hseen : ¬Unseen argument.toList) :
    ¬Paths.Outside argument.toList ∧
      ∀ value, Attached argument.toList value → ¬Paths.Outside value := by
  constructor
  · intro hout
    by_cases hoption : argument.toList.head? = some '-' ∧ '=' ∈ argument.toList
    · exact hseen ⟨hoption.1, .inl ⟨hoption.2, .inl hout⟩⟩
    · have hself : candidate argument.toList = argument.toList := if_neg hoption
      exact outside_candidate h (by rw [hself]; exact hout)
  · intro value hattached hout
    generalize hchars : argument.toList = chars at hattached
    cases hattached with
    | short option value hoption =>
        apply hseen
        rw [hchars]
        by_cases hequals : '=' ∈ '-' :: option :: value
        · exact ⟨rfl, .inl ⟨hequals, .inr ⟨option, value, rfl, hoption, hout⟩⟩⟩
        · have hstart := (outside_short_iff h hchars (hchars ▸ hequals) hoption).mp hout
          exact ⟨rfl, .inr ⟨hequals, option, value, rfl, hoption, hstart⟩⟩
    | long name value hname =>
        have hcandidate := outside_candidate h
        rw [hchars, candidate_long hname] at hcandidate
        exact hcandidate hout

/-- What the checks do not see leads out. -/
theorem outside_of_unseen {argument : String}
    (h : isUnsafeArgumentPath tables argument = false) (hunseen : Unseen argument.toList) :
    Paths.Outside argument.toList ∨
      ∃ value, Attached argument.toList value ∧ Paths.Outside value := by
  obtain ⟨-, ⟨-, hout | ⟨option, value, hargument, hoption, hout⟩⟩ |
    ⟨hequals, option, value, hargument, hoption, hstart⟩⟩ := hunseen
  · exact .inl hout
  · exact .inr ⟨value, hargument ▸ .short option value hoption, hout⟩
  · have hout := (outside_short_iff h hargument hequals hoption).mpr hstart
    exact .inr ⟨value, hargument ▸ .short option value hoption, hout⟩

end Soundness

def asciiTables : Tables where
  casefold := lower
  secretValue _ := false
  secretName _ := false
  userinfo _ := false
  casefold_ascii _ _ := rfl

/-- The short options of Python that take no value. -/
def pythonFlags (c : Char) : Bool :=
  decide (c ∈ ['b', 'B', 'd', 'E', 'h', 'i', 'I', 'O', 'P', 'q', 'R', 's', 'S', 'u', 'v', 'V', 'x'])

/-- `CommandSpec("python", ("-m", "backend.app"), "backend")`. -/
def moduleCommand : CommandSpec :=
  { executable := "python", arguments := ["-m", "backend.app"], workingDirectory := "backend" }

/-- `CommandSpec("python", ("-I", "-c", "print(1)"))`. -/
def inlineCommand : CommandSpec :=
  { executable := "python", arguments := ["-I", "-c", "print(1)"] }

end ManagedProduct
end Ascos
