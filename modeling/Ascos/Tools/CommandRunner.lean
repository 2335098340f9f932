import Ascos.Library.Checks
import Ascos.Library.Dictionary
import Ascos.Library.Replacement

/-!
# The command runner

`LocalCommandRunner.execute` of `runtime/tools/command_runner.py`, on any outcome of
the process that it starts.

Main results:

- Theorem `mem_redactions_iff`: the values that a run redacts are those of the two
  environments.
- Theorem `bounded_clear`: an output in which no value is cut and none can be spelled with
  the marker is redacted.
- Theorem `output_redacted`: both for the two outputs of a command.
-/

namespace Ascos
namespace Tools

open Library

/-! ## Commands -/

/-- What a command is refused or ended with. -/
inductive CommandError where
  | invalid (message : String)
  | workspaceSecurity (message : String)
  | cancelled (message : String)
  | timeout (message : String)
deriving DecidableEq

/-- `CommandRequest`; the environment is a dictionary. -/
structure CommandRequest where
  executable : String
  arguments : List String := []
  workingDirectory : Option (List String) := none
  environment : List (String × String) := []
  environment_nodup : (environment.map Prod.fst).Nodup
  timeoutSeconds : Int := 30000000

structure CommandResult where
  executable : String
  arguments : List String
  exitCode : Int
  stdout : String
  stderr : String
  startedAt : Int
  completedAt : Int
  durationSeconds : Int
  outputTruncated : Bool
deriving DecidableEq

/-- How a process ends. -/
inductive Outcome where
  | unavailable
  | cancelled
  | timedOut
  | completed (exitCode : Int) (stdout stderr : List UInt8)

/-- What happens around a process: whether the command is cancelled before, the times, and the
outcome. -/
structure Process where
  cancelledBefore : Bool := false
  startedAt : Int := 0
  completedAt : Int := 0
  outcome : Outcome

/-- The functions of the standard library and of the file system that a runner uses: paths are
their names below the root of the file system, and a set is listed in some order. -/
structure Setting where
  resolve : List String → List String
  isDirectory : List String → Bool
  isSecretKey : String → Bool
  decode : List UInt8 → String
  setOrder : List String → List String
  mem_setOrder : ∀ values value, value ∈ setOrder values ↔ value ∈ values
  decode_toUTF8 : ∀ text : String, decode text.toUTF8.data.toList = text

structure LocalCommandRunner where
  workspaceRoot : List String
  allowedExecutables : List String
  allowedEnvironment : List String := []
  maxOutputBytes : Nat := 64000
  baseEnvironment : List (String × String)

section Execution

variable (setting : Setting) (runner : LocalCommandRunner)

/-- `_EXECUTABLE`. -/
def isExecutable (value : String) : Bool :=
  decide (value ≠ "") && value.toList.all fun c =>
    c.isAlphanum || c ∈ ['_', '.', '+', '-']

def LocalCommandRunner.validate (request : CommandRequest) : Except CommandError Unit := do
  if isExecutable request.executable = false ∨
      request.executable ∉ runner.allowedExecutables ∨ '\x00' ∈ request.executable.toList then
    throw (.invalid "Executable is not allowed")
  if request.arguments.any (fun item => item.toList.contains '\x00') then
    throw (.invalid "Arguments must be NUL-free strings")
  if request.timeoutSeconds ≤ 0 then
    throw (.invalid "Timeout must be positive")

def LocalCommandRunner.requireContained (path : List String) : Except CommandError Unit :=
  if setting.isDirectory path = false ∨ ¬ runner.workspaceRoot <+: path then
    throw (.workspaceSecurity "Working directory escapes workspace")
  else pure ()

def LocalCommandRunner.environment (environment : List (String × String)) :
    List (String × String) → Except CommandError (List (String × String))
  | [] => pure environment
  | (key, value) :: entries =>
    if key ∉ runner.allowedEnvironment ∨ setting.isSecretKey key = true then
      throw (.invalid "Environment key is not allowed")
    else if '\x00' ∈ key.toList ∨ '\x00' ∈ value.toList then
      throw (.invalid "Environment contains NUL byte")
    else LocalCommandRunner.environment (Dictionary.set key value environment) entries

def LocalCommandRunner.redactions (environment : List (String × String)) : List String :=
  (runner.baseEnvironment.map Prod.snd ++ environment.map Prod.snd).filter (· ≠ "")

/-- What stands for a value. -/
def marker : String :=
  "[REDACTED]"

/-- `_bounded`: the longest values are replaced first. -/
def LocalCommandRunner.bounded (value : List UInt8) (redactions : List String) :
    String × Bool :=
  let truncated := decide (runner.maxOutputBytes < value.length)
  let decoded := setting.decode (value.take runner.maxOutputBytes)
  let secrets := (setting.setOrder redactions).mergeSort fun a b => decide (b.length ≤ a.length)
  (String.ofList (Replacement.replaceAll (secrets.map String.toList) marker.toList
    decoded.toList), truncated)

def LocalCommandRunner.execute (request : CommandRequest) (process : Process) :
    Except CommandError CommandResult := do
  runner.validate request
  if process.cancelledBefore = true then
    throw (.cancelled "Command was cancelled")
  let workingDirectory := (request.workingDirectory.map setting.resolve).getD runner.workspaceRoot
  runner.requireContained setting workingDirectory
  let environment ← runner.environment setting runner.baseEnvironment request.environment
  match process.outcome with
  | .unavailable => throw (.invalid "Allowed executable is unavailable")
  | .cancelled => throw (.cancelled "Command was cancelled")
  | .timedOut => throw (.timeout "Command exceeded its timeout")
  | .completed exitCode stdout stderr =>
    let redactions := runner.redactions environment
    let (stdout, outCut) := runner.bounded setting stdout redactions
    let (stderr, errCut) := runner.bounded setting stderr redactions
    pure
      { executable := request.executable
        arguments := request.arguments
        exitCode
        stdout
        stderr
        startedAt := process.startedAt
        completedAt := process.completedAt
        durationSeconds := process.completedAt - process.startedAt
        outputTruncated := outCut || errCut }

end Execution

/-! ## The values of the environments -/

section Values

variable {setting : Setting} {runner : LocalCommandRunner} {request : CommandRequest}
  {process : Process} {result : CommandResult}

/-- A value of the base environment or of the request. -/
def IsValue (runner : LocalCommandRunner) (request : CommandRequest) (value : String) : Prop :=
  value ≠ "" ∧ (value ∈ runner.baseEnvironment.map Prod.snd ∨
    value ∈ request.environment.map Prod.snd)

theorem environment_ok {base entries environment : List (String × String)}
    (h : runner.environment setting base entries = .ok environment) :
    environment = entries.foldl (fun env entry => Dictionary.set entry.1 entry.2 env) base := by
  induction entries generalizing base with
  | nil =>
    cases h
    rfl
  | cons entry entries ih =>
    obtain ⟨key, value⟩ := entry
    unfold LocalCommandRunner.environment at h
    split at h
    · cases h
    · split at h
      · cases h
      · exact ih h

theorem mem_set_self {key value : String} {entries : List (String × String)} :
    (key, value) ∈ Dictionary.set key value entries := by
  induction entries with
  | nil => exact List.mem_singleton_self _
  | cons entry entries ih =>
    unfold Dictionary.set
    split
    · exact List.mem_cons_self
    · exact List.mem_cons_of_mem _ ih

theorem mem_set_of_ne {key value : String} {entry : String × String}
    {entries : List (String × String)} (hne : entry.1 ≠ key) (h : entry ∈ entries) :
    entry ∈ Dictionary.set key value entries := by
  induction entries with
  | nil => cases h
  | cons first entries ih =>
    unfold Dictionary.set
    split
    · rename_i hfirst
      rcases List.mem_cons.mp h with rfl | hrest
      · exact absurd hfirst hne
      · exact List.mem_cons_of_mem _ hrest
    · rcases List.mem_cons.mp h with rfl | hrest
      · exact List.mem_cons_self
      · exact List.mem_cons_of_mem _ (ih hrest)

theorem mem_setAll {entry : String × String} {base entries : List (String × String)}
    (hnodup : (entries.map Prod.fst).Nodup)
    (h : entry ∈ entries ∨ entry ∈ base ∧ entry.1 ∉ entries.map Prod.fst) :
    entry ∈ entries.foldl (fun env entry => Dictionary.set entry.1 entry.2 env) base := by
  induction entries generalizing base with
  | nil => exact (h.resolve_left List.not_mem_nil).1
  | cons first entries ih =>
    rw [List.map_cons, List.nodup_cons] at hnodup
    rw [List.foldl_cons]
    rcases h with h | ⟨hbase, hkey⟩
    · rcases List.mem_cons.mp h with rfl | hrest
      · exact ih hnodup.2 (.inr ⟨mem_set_self, hnodup.1⟩)
      · exact ih hnodup.2 (.inl hrest)
    · rw [List.map_cons, List.mem_cons, not_or] at hkey
      exact ih hnodup.2 (.inr ⟨mem_set_of_ne hkey.1 hbase, hkey.2⟩)

theorem mem_redactions_iff {environment : List (String × String)}
    (h : runner.environment setting runner.baseEnvironment request.environment = .ok environment)
    {value : String} :
    value ∈ runner.redactions environment ↔ IsValue runner request value := by
  have henvironment := environment_ok h
  unfold LocalCommandRunner.redactions IsValue
  rw [List.mem_filter, decide_eq_true_eq, List.mem_append, and_comm]
  refine and_congr_right fun _ => ?_
  constructor
  · rintro (hbase | hvalue)
    · exact .inl hbase
    · obtain ⟨entry, hentry, rfl⟩ := List.mem_map.mp hvalue
      rw [henvironment] at hentry
      have hsource : ∀ (entries base : List (String × String)),
          entry ∈ entries.foldl (fun env entry => Dictionary.set entry.1 entry.2 env) base →
            entry ∈ base ∨ entry ∈ entries := by
        intro entries
        induction entries with
        | nil => exact fun base hmem => .inl hmem
        | cons first entries ih =>
            intro base hmem
            rcases ih _ hmem with hset | hrest
            · rcases Dictionary.mem_set hset with hsame | hbase
              · exact .inr (by rw [hsame]; exact List.mem_cons_self)
              · exact .inl hbase
            · exact .inr (List.mem_cons_of_mem _ hrest)
      rcases hsource _ _ hentry with hbase | hrequest
      · exact .inl (List.mem_map_of_mem hbase)
      · exact .inr (List.mem_map_of_mem hrequest)
  · rintro (hbase | hrequest)
    · exact .inl hbase
    · obtain ⟨entry, hentry, rfl⟩ := List.mem_map.mp hrequest
      refine .inr (List.mem_map_of_mem ?_)
      rw [henvironment]
      exact mem_setAll request.environment_nodup (.inl hentry)

/-- What a command that ends returns. -/
theorem execute_ok (h : runner.execute setting request process = .ok result) :
    ∃ environment exitCode stdout stderr,
      runner.environment setting runner.baseEnvironment request.environment = .ok environment ∧
      process.outcome = .completed exitCode stdout stderr ∧ result.exitCode = exitCode ∧
      result.stdout = (runner.bounded setting stdout (runner.redactions environment)).1 ∧
      result.stderr = (runner.bounded setting stderr (runner.redactions environment)).1 ∧
      (result.outputTruncated = true ↔
        runner.maxOutputBytes < stdout.length ∨ runner.maxOutputBytes < stderr.length) := by
  unfold LocalCommandRunner.execute at h
  obtain ⟨-, -, h⟩ := Checks.bind_ok_iff.mp h
  dsimp only at h
  by_cases hcancelled : process.cancelledBefore = true
  · rw [if_pos hcancelled] at h
    cases h
  · rw [if_neg hcancelled] at h
    obtain ⟨-, -, h⟩ := Checks.bind_ok_iff.mp h
    obtain ⟨environment, henvironment, h⟩ := Checks.bind_ok_iff.mp h
    cases houtcome : process.outcome with
    | completed exitCode stdout stderr =>
        rw [houtcome] at h
        cases h
        refine ⟨environment, exitCode, stdout, stderr, henvironment, rfl, rfl, rfl, rfl, ?_⟩
        simp [LocalCommandRunner.bounded]
    | unavailable => rw [houtcome] at h; cases h
    | cancelled => rw [houtcome] at h; cases h
    | timedOut => rw [houtcome] at h; cases h

end Values

/-! ## Redacted outputs -/

section Redaction

variable (setting : Setting) (runner : LocalCommandRunner)

/-- A text in another one. -/
def Occurs (value text : String) : Prop :=
  value.toList <:+: text.toList

instance (value text : String) : Decidable (Occurs value text) :=
  inferInstanceAs (Decidable (value.toList <:+: text.toList))

/-- The bytes that a process writes for a text. -/
def bytes (text : String) : List UInt8 :=
  text.toUTF8.data.toList

theorem bytes_append (text more : String) : bytes (text ++ more) = bytes text ++ bytes more := by
  simp [bytes]

theorem length_bytes (text : String) : (bytes text).length = text.utf8ByteSize := by
  simp [bytes]

/-- No value occurs in what is returned, and where the output is cut inside a value nothing is
returned but what stands before it, and perhaps the marker. -/
structure Redacted (redactions : List String) (raw : List UInt8) (returned : String) : Prop where
  absent : ∀ value ∈ redactions, ¬ Occurs value returned
  whole : ∀ value ∈ redactions, ∀ before after, raw = before ++ bytes value ++ after →
    before.length < runner.maxOutputBytes →
      runner.maxOutputBytes < before.length + (bytes value).length →
        returned = (runner.bounded setting before redactions).1 ∨
          returned = (runner.bounded setting before redactions).1 ++ marker

/-- No value is cut, and the values do not touch the marker or do not occur at all. -/
structure Clear (redactions : List String) (raw : List UInt8) : Prop where
  uncut : ∀ value ∈ redactions, ∀ before after, raw = before ++ bytes value ++ after →
    before.length < runner.maxOutputBytes →
      before.length + (bytes value).length ≤ runner.maxOutputBytes
  apart : (∀ value ∈ redactions, ¬ Replacement.Touches marker.toList value.toList) ∨
    ∀ value ∈ redactions, ¬ Occurs value (setting.decode (raw.take runner.maxOutputBytes))

/-- The output is cut between two characters of a value, and no value occurs before. -/
structure CutInside (redactions : List String) (raw : List UInt8) : Prop where
  cut : ∃ before part rest after, part ++ rest ∈ redactions ∧ part ≠ "" ∧ part ≠ marker ∧
    rest ≠ "" ∧ raw = bytes before ++ bytes (part ++ rest) ++ after ∧
      runner.maxOutputBytes = (bytes (before ++ part)).length ∧
        ∀ value ∈ redactions, ¬ Occurs value (before ++ part)

variable {setting runner} {redactions : List String} {raw : List UInt8}

theorem mem_secrets {chars : List Char} :
    chars ∈ ((setting.setOrder redactions).mergeSort fun a b => decide (b.length ≤ a.length)).map
      String.toList ↔ ∃ value ∈ redactions, value.toList = chars := by
  rw [List.mem_map]
  refine exists_congr fun value => and_congr_left fun _ => ?_
  rw [(List.mergeSort_perm _ _).mem_iff, setting.mem_setOrder]

/-- Where no value occurs the decoded output is returned. -/
theorem bounded_of_absent (h : ∀ value ∈ redactions,
    ¬ Occurs value (setting.decode (raw.take runner.maxOutputBytes))) :
    (runner.bounded setting raw redactions).1 =
      setting.decode (raw.take runner.maxOutputBytes) := by
  unfold LocalCommandRunner.bounded
  dsimp only
  rw [Replacement.replaceAll_eq_self, String.ofList_toList]
  intro chars hchars
  obtain ⟨value, hvalue, rfl⟩ := mem_secrets.mp hchars
  exact h value hvalue

theorem bounded_clear (hplain : ∀ value ∈ redactions, value ≠ "" ∧ ¬ Occurs value marker)
    (hclear : Clear setting runner redactions raw) :
    Redacted setting runner redactions raw (runner.bounded setting raw redactions).1 := by
  constructor
  · rcases hclear.apart with happart | habsent
    · intro value hvalue hoccurs
      unfold Occurs LocalCommandRunner.bounded at hoccurs
      dsimp only at hoccurs
      rw [String.toList_ofList] at hoccurs
      refine Replacement.not_infix_replaceAll ?_ ?_ ?_ (mem_secrets.mpr ⟨value, hvalue, rfl⟩)
        hoccurs
      · intro chars hchars
        obtain ⟨other, hother, rfl⟩ := mem_secrets.mp hchars
        exact fun hnil => (hplain other hother).1 (String.toList_eq_nil_iff.mp hnil)
      · intro chars hchars
        obtain ⟨other, hother, rfl⟩ := mem_secrets.mp hchars
        exact (hplain other hother).2
      · intro chars hchars
        obtain ⟨other, hother, rfl⟩ := mem_secrets.mp hchars
        exact happart other hother
    · rw [bounded_of_absent habsent]
      exact habsent
  · intro value hvalue before after hraw hstart hend
    exact absurd (hclear.uncut value hvalue before after hraw hstart) (Nat.not_le.mpr hend)

/-- An output that is cut between two characters of a value returns the first ones. -/
theorem not_redacted_of_cut (h : CutInside runner redactions raw) :
    ¬ Redacted setting runner redactions raw (runner.bounded setting raw redactions).1 := by
  obtain ⟨before, part, rest, after, hvalue, hpart, hmarker, hrest, hraw, hcut, habsent⟩ := h
  have hlengths : (bytes before).length + (bytes part).length = runner.maxOutputBytes := by
    rw [hcut, bytes_append, List.length_append]
  have hpositive : ∀ text : String, text ≠ "" → 0 < (bytes text).length := by
    intro text htext
    rw [length_bytes]
    exact Nat.pos_of_ne_zero fun hzero => htext (String.utf8ByteSize_eq_zero_iff.mp hzero)
  have htake : raw.take runner.maxOutputBytes = bytes (before ++ part) := by
    rw [hraw, bytes_append part rest, ← List.append_assoc (bytes before), ← bytes_append before,
      List.append_assoc, hcut, List.take_left]
  have hreturned : (runner.bounded setting raw redactions).1 = before ++ part := by
    rw [bounded_of_absent, htake, bytes, setting.decode_toUTF8]
    rw [htake, bytes, setting.decode_toUTF8]
    exact habsent
  have hbefore : (runner.bounded setting (bytes before) redactions).1 = before := by
    have htake' : (bytes before).take runner.maxOutputBytes = bytes before :=
      List.take_of_length_le (by omega)
    rw [bounded_of_absent, htake', bytes, setting.decode_toUTF8]
    rw [htake', bytes, setting.decode_toUTF8]
    intro value hvalue hoccurs
    refine habsent value hvalue (List.IsInfix.trans hoccurs ?_)
    rw [String.toList_append]
    exact (List.prefix_append _ _).isInfix
  intro hredacted
  have hwhole := hredacted.whole _ hvalue (bytes before) after hraw
    (by have := hpositive part hpart; omega)
    (by
      have := hpositive rest hrest
      rw [bytes_append, List.length_append]
      omega)
  rw [hreturned, hbefore] at hwhole
  rcases hwhole with hsame | hsame
  · exact hpart (by simpa using hsame)
  · exact hmarker (by simpa using hsame)

end Redaction

/-- What a command that ends returns is redacted for the values of both environments where the
outputs are clear, and not where an output is cut between two characters of a value. -/
theorem output_redacted (setting : Setting) (runner : LocalCommandRunner)
    (request : CommandRequest) (process : Process) (result : CommandResult) (exitCode : Int)
    (stdout stderr : List UInt8)
    (houtcome : process.outcome = .completed exitCode stdout stderr)
    (hresult : runner.execute setting request process = .ok result)
    (hplain : ∀ value, IsValue runner request value → ¬ Occurs value marker) :
    ∃ redactions, (∀ value, value ∈ redactions ↔ IsValue runner request value) ∧
      (Clear setting runner redactions stdout →
        Redacted setting runner redactions stdout result.stdout) ∧
      (Clear setting runner redactions stderr →
        Redacted setting runner redactions stderr result.stderr) ∧
      (CutInside runner redactions stdout →
        ¬ Redacted setting runner redactions stdout result.stdout) ∧
      (CutInside runner redactions stderr →
        ¬ Redacted setting runner redactions stderr result.stderr) := by
  obtain ⟨environment, _, _, _, henvironment, houtcome', -, hstdout, hstderr, -⟩ :=
    execute_ok hresult
  rw [houtcome] at houtcome'
  cases houtcome'
  have hvalues := fun value => @mem_redactions_iff setting runner request environment
    henvironment value
  have hplain' : ∀ value ∈ runner.redactions environment, value ≠ "" ∧ ¬ Occurs value marker :=
    fun value hvalue => ⟨((hvalues value).mp hvalue).1, hplain value ((hvalues value).mp hvalue)⟩
  rw [hstdout, hstderr]
  exact ⟨runner.redactions environment, hvalues, bounded_clear hplain', bounded_clear hplain',
    not_redacted_of_cut, not_redacted_of_cut⟩

/-! ## A value that is cut -/

/-- The text of bytes that are valid. -/
def decodeValid (raw : List UInt8) : String :=
  (String.fromUTF8? ⟨raw.toArray⟩).getD ""

theorem decodeValid_toUTF8 (text : String) : decodeValid text.toUTF8.data.toList = text := by
  have hvalid : String.fromUTF8? text.toByteArray = some text := by
    simp only [String.fromUTF8?, text.isValidUTF8, dif_pos]
    rfl
  simp only [decodeValid, String.toUTF8_eq_toByteArray, Array.toArray_toList]
  exact congrArg (Option.getD · "") hvalid

/-- A file system of directories in which keys are checked for one word. -/
def plainSystem : Setting where
  resolve path := path
  isDirectory _ := true
  isSecretKey key := key.toList = "TOKEN".toList
  decode := decodeValid
  setOrder values := values
  mem_setOrder _ _ := Iff.rfl
  decode_toUTF8 := decodeValid_toUTF8

/-- A runner that returns four bytes at most, with one value in its environment. -/
def shortRunner : LocalCommandRunner where
  workspaceRoot := ["work"]
  allowedExecutables := ["printenv"]
  maxOutputBytes := 4
  baseEnvironment := [("KEY", "secret")]

def printenv : CommandRequest where
  executable := "printenv"
  environment := []
  environment_nodup := List.nodup_nil

/-- The process writes the value behind two characters. -/
def printed : Process where
  outcome := .completed 0 (bytes "a secret") []

theorem isValue_shortRunner {value : String}
    (h : IsValue shortRunner printenv value) : value = "secret" := by
  rcases h.2 with hvalue | hvalue
  · exact List.mem_singleton.mp hvalue
  · exact absurd hvalue List.not_mem_nil

theorem shortRunner_plain (value : String)
    (h : IsValue shortRunner printenv value) : ¬ Occurs value marker := by
  rw [isValue_shortRunner h]
  decide

theorem cutInside_printed {redactions : List String}
    (h : ∀ value, value ∈ redactions ↔ IsValue shortRunner printenv value) :
    CutInside shortRunner redactions (bytes "a secret") := by
  refine ⟨"a ", "se", "cret", [], (h _).mpr ⟨by decide, .inl (by decide)⟩, by decide, by decide,
    by decide, by decide, by decide, fun value hvalue => ?_⟩
  rw [isValue_shortRunner ((h value).mp hvalue)]
  decide

/-- Where four bytes are returned the value is not redacted. -/
theorem output_redacted_printed : ∃ result redactions,
    shortRunner.execute plainSystem printenv printed = .ok result ∧
      ¬ Redacted plainSystem shortRunner redactions (bytes "a secret") result.stdout := by
  obtain ⟨result, hresult⟩ : ∃ result,
      shortRunner.execute plainSystem printenv printed = .ok result :=
    ⟨_, rfl⟩
  obtain ⟨redactions, hvalues, -, -, hcut, -⟩ := output_redacted plainSystem shortRunner
    printenv printed result 0 (bytes "a secret") [] rfl hresult
    shortRunner_plain
  exact ⟨result, redactions, hresult, hcut (cutInside_printed hvalues)⟩

/-- Two characters of the value are returned. -/
theorem not_output_redacted :
    ¬ ∀ (setting : Setting) (runner : LocalCommandRunner) (request : CommandRequest)
      (process : Process) (result : CommandResult) (exitCode : Int)
      (stdout stderr : List UInt8) (environment : List (String × String)),
      process.outcome = .completed exitCode stdout stderr →
      runner.execute setting request process = .ok result →
      runner.environment setting runner.baseEnvironment request.environment = .ok environment →
      (∀ value, IsValue runner request value → ¬ Occurs value marker) →
      Redacted setting runner (runner.redactions environment) stdout result.stdout := by
  intro h
  have hresult : shortRunner.execute plainSystem printenv printed =
      .ok _ := rfl
  have henvironment : shortRunner.environment plainSystem shortRunner.baseEnvironment [] =
      .ok shortRunner.baseEnvironment := rfl
  have hredacted := h plainSystem shortRunner printenv printed _ 0
    (bytes "a secret") [] _ rfl hresult henvironment shortRunner_plain
  exact not_redacted_of_cut (cutInside_printed fun value => mem_redactions_iff henvironment)
    hredacted

/-- A longer value that is spelled with the end of the marker. -/
example : Occurs "D]xyz" (String.ofList (Replacement.replaceAll ["D]xyz".toList, "ab".toList]
    marker.toList "abxyz".toList)) := by
  decide

end Tools
end Ascos
