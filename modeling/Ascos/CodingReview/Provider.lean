import Ascos.CodingReview.Model
import Ascos.Library.Dictionary
import Ascos.Library.Lineage
import Mathlib.Data.List.Dedup
import Mathlib.Data.List.Sort
import Mathlib.Data.String.Basic

/-!
# The coding-review loop

`LocalDeterministicCodingReviewProvider.execute` of `runtime/coding_review/provider.py`:
each round writes the patches of its plan, runs the tests, and reviews the files.  What the
directories, the tests and the writes do is given with each round.

Main results:

- Theorem `written_writePatches`: what a round has written, wherever its writes stop.
- Theorem `recordFields_ok`: when the record of a round is accepted.
- Theorem `coding_review_loop`: what holds in every run whose rounds stay in the budget and
  find no code in two files.
-/

namespace Ascos
namespace CodingReview

open Library

variable {Content : Type}

/-! ## Files and sources -/

abbrev Files (Content : Type) := List (String × Content)

/-- The file that a patch is written to. -/
def destination (path : String) : String :=
  String.ofList (Paths.canonical (slashed path))

/-- The file that is read for a path. -/
def target (path : String) : String :=
  String.ofList (Paths.canonical path.toList)

/-- The nodes of a source that the security review looks at. -/
inductive Node where
  | imports (names : List String)
  | importFrom (module : Option String)
  | call (function : String)
  | assign (targets : List String) (value : String)

/-- The functions of the standard library: the bytes of a text, the nodes of a source in the order
of `ast.walk` (none when it is invalid), the digests, the names of standard modules, and the
pattern for secret names. -/
structure Setting (Content : Type) where
  encode : String → Content
  parse : Content → Except Error (Option (List Node))
  contentDigest : Content → String
  stateDigest : List (String × Content) → String
  isStandard : String → Bool
  isSecretName : String → Bool
  stateDigest_digest : ∀ entries, isDigest (stateDigest entries) = true

/-- How the write of a patch ends; when it fails, the file may have been replaced already. -/
inductive WriteOutcome where
  | done
  | failed (replaced : Bool) (error : Error)

structure TestRun where
  passed : Bool
  count : Nat
  digest : String
  digest_ok : isDigest digest = true

/-- A round: its plan, whether the destination of a path is a regular file or free, how writes
end, what the tests say, and what they do to the files. -/
structure RoundInput (Content : Type) where
  plan : CodingRoundPlan
  checkDestination : String → Except Error Unit
  write : String → WriteOutcome
  test : Except Error TestRun
  runTests : Files Content → Files Content

/-- The loop between two rounds: the files, what is recorded, and how it has ended.  Besides, the
number of files that were replaced, the files of the last test run, and the fields that were given
to the constructor of a record. -/
structure Loop (Content : Type) where
  files : Files Content
  remaining : Nat
  records : List CodingRoundRecord := []
  routes : List FailureRoute := []
  changed : List String := []
  writes : Nat := 0
  commands : Nat := 0
  previousCodes : List String := []
  ended : Option (Except Error Unit) := none
  written : Nat := 0
  tested : Files Content := []
  offered : List RecordFields := []

/-! ## Security -/

/-- The codes of the security review. -/
inductive SecurityCode where
  | invalidPythonSource
  | forbiddenRuntimeCapability
  | unapprovedDependency
  | unsafeDynamicExecution
  | hardcodedSecret
deriving DecidableEq

def SecurityCode.value : SecurityCode → String
  | .invalidPythonSource => "INVALID_PYTHON_SOURCE"
  | .forbiddenRuntimeCapability => "FORBIDDEN_RUNTIME_CAPABILITY"
  | .unapprovedDependency => "UNAPPROVED_DEPENDENCY"
  | .unsafeDynamicExecution => "UNSAFE_DYNAMIC_EXECUTION"
  | .hardcodedSecret => "HARDCODED_SECRET"

def SecurityCode.severity : SecurityCode → String
  | .invalidPythonSource => "HIGH"
  | .unapprovedDependency => "HIGH"
  | _ => "CRITICAL"

def SecurityCode.summary : SecurityCode → String
  | .invalidPythonSource => "Static Security review could not parse the changed Python source"
  | .forbiddenRuntimeCapability =>
      "Changed source imports a forbidden command or network capability"
  | .unapprovedDependency => "Changed source imports a dependency outside the approved environment"
  | .unsafeDynamicExecution => "Changed source contains forbidden dynamic execution"
  | .hardcodedSecret => "Changed source contains a hard-coded secret-like value"

def SecurityCode.finding (code : SecurityCode) (responsibleRole path : String) : ReviewFinding :=
  ⟨code.value, securityRole, responsibleRole, path, code.severity, code.summary⟩

def forbiddenImports : List String :=
  ["ftplib", "http", "requests", "socket", "subprocess", "urllib"]

def forbiddenCalls : List String :=
  ["compile", "eval", "exec", "__import__"]

def baseName (path : String) : List Char :=
  (target path).toList.reverse.takeWhile (· ≠ '/') |>.reverse

/-- The suffix of a path is `.py`. -/
def isPython (path : String) : Bool :=
  ".py".toList.isSuffixOf (baseName path) && decide (3 < (baseName path).length)

/-- `Path(path).stem`, for a path that ends in `.py`. -/
def stem (path : String) : String :=
  String.ofList (if isPython path then (baseName path).dropLast.dropLast.dropLast
    else baseName path)

def localModules (workOrder : CodingReviewWorkOrder) : List String :=
  (workOrder.allowedPaths.filter fun path => ".py".toList.isSuffixOf path.toList).map stem

section Loops

variable (setting : Setting Content) (workOrder : CodingReviewWorkOrder)

def importCodes (name : String) : List SecurityCode :=
  let first := String.ofList (name.toList.takeWhile (· ≠ '.'))
  if first ∈ forbiddenImports then [.forbiddenRuntimeCapability]
  else if first ≠ "" ∧ first ∉ localModules workOrder ∧ first ≠ "pytest" ∧
      setting.isStandard first = false then
    [.unapprovedDependency]
  else []

def nodeCodes : Node → List SecurityCode
  | .imports names => names.flatMap (importCodes setting workOrder)
  | .importFrom module => importCodes setting workOrder (module.getD "")
  | .call function => if function ∈ forbiddenCalls then [.unsafeDynamicExecution] else []
  | .assign targets value =>
      if value ≠ "" ∧ targets.any setting.isSecretName = true then [.hardcodedSecret] else []

def fileCodes (files : Files Content) (path : String) : Except Error (List SecurityCode) :=
  match files.lookup (target path) with
  | some content =>
    if isPython path = true then do
      match ← setting.parse content with
      | none => pure [.invalidPythonSource]
      | some nodes => pure (nodes.flatMap (nodeCodes setting workOrder))
    else pure []
  | none => pure []

/-- The order of the findings: by code, then by path. -/
def findingLe (first second : SecurityCode × String) : Prop :=
  first.1.value < second.1.value ∨
    (first.1.value = second.1.value ∧ first.2 ≤ second.2)

instance (first second : SecurityCode × String) : Decidable (findingLe first second) :=
  inferInstanceAs (Decidable (_ ∨ _))

def security (files : Files Content) (failureOwnerRole : String) :
    Except Error (List ReviewFinding) := do
  let found ← workOrder.allowedPaths.mapM fun path => do
    let codes ← fileCodes setting workOrder files path
    pure (codes.map fun code => (code, path))
  (found.flatten.dedup.insertionSort findingLe).mapM fun entry => do
    let finding := entry.1.finding failureOwnerRole entry.2
    finding.postInit
    pure finding

/-- The finding of a test run that failed. -/
def qaFinding (failureOwnerRole : String) : ReviewFinding :=
  ⟨"QA_TEST_FAILURE", qaRole, failureOwnerRole, workOrder.qaTestPaths.headD "", "HIGH",
    "The isolated product test suite did not pass"⟩

/-! ## A round -/

/-- The loop is left by an exception. -/
def Loop.stop (loop : Loop Content) (error : Error) : Loop Content :=
  { loop with ended := some (.error error) }

def validatePatches (input : RoundInput Content) : Except Error Unit :=
  input.plan.patches.forM fun patch =>
    match workOrder.ownerFor patch.path with
    | .error _ => throw (.policy "Patch path is outside the work order")
    | .ok owner =>
        if owner ≠ patch.ownerRole then
          throw (.policy "Patch role does not own its target path")
        else input.checkDestination patch.path

def Loop.replace (loop : Loop Content) (patch : TextPatch) : Loop Content :=
  { loop with
    files := Dictionary.set (destination patch.path) (setting.encode patch.content) loop.files
    written := loop.written + 1 }

def Loop.count (loop : Loop Content) (patch : TextPatch) : Loop Content :=
  { loop with changed := loop.changed.insert patch.path, writes := loop.writes + 1 }

/-- The writes of a round, and the error that they stop with. -/
def writePatches (write : String → WriteOutcome) :
    List TextPatch → Loop Content → Option Error × Loop Content
  | [], loop => (none, loop)
  | patch :: patches, loop =>
    match write patch.path with
    | .done =>
        writePatches write patches ((loop.replace setting patch).count patch)
    | .failed replaced error =>
        (some error, if replaced = true then loop.replace setting patch else loop)

/-- `sorted(values)`. -/
def sorted (values : List String) : List String :=
  values.insertionSort (· ≤ ·)

def readFile (files : Files Content) (path : String) : Except Error Content :=
  match files.lookup (target path) with
  | some content => pure content
  | none => throw ⟨.other "FileNotFoundError", path⟩

def contentStateDigest (files : Files Content) (names : List String) : Except Error String := do
  let entries ← names.mapM fun path => do
    let content ← readFile files path
    pure (path, content)
  pure (setting.stateDigest entries)

def recordFields (plan : PlanFields) (test : TestRun) (findings : List ReviewFinding)
    (securityStatus diffDigest : String) : RecordFields where
  roundNumber := plan.roundNumber
  resolvedFeedbackCodes := plan.resolvesFeedbackCodes
  changedPaths := sorted (plan.patches.map TextPatch.path)
  qaStatus := if test.passed = true then "PASS" else "FAIL"
  qaTestCount := test.count
  qaResultDigest := test.digest
  securityStatus
  findings
  diffDigest
  fileWriteCount := plan.patches.length
  specializedCommandCount := if test.passed = true then 2 else 1

def failureRoute (roundNumber : Nat) (finding : ReviewFinding) : Except Error FailureRoute := do
  let route : FailureRoute :=
    { routeId := "route-round-" ++ toString roundNumber ++ "-" ++
        String.ofList (finding.code.toList.map Char.toLower)
      roundNumber
      findingCode := finding.code
      reviewerRole := finding.reviewerRole
      responsibleRole := finding.responsibleRole }
  route.postInit
  pure route

/-- The record of a round, and whether both reviews passed. -/
def Loop.record (loop : Loop Content) (plan : PlanFields) (test : TestRun)
    (findings : List ReviewFinding) (securityStatus : String) : Loop Content :=
  match contentStateDigest setting loop.files (sorted loop.changed) with
  | .error error => loop.stop error
  | .ok diffDigest =>
    let fields := recordFields plan test findings securityStatus diffDigest
    let offered : Loop Content := { loop with offered := loop.offered ++ [fields] }
    match CodingRoundRecord.new fields with
    | .error error => offered.stop error
    | .ok record =>
        let recorded : Loop Content := { offered with records := offered.records ++ [record] }
        match findings.mapM (failureRoute plan.roundNumber) with
        | .error error => recorded.stop error
        | .ok routes =>
            let next : Loop Content :=
              { recorded with
                routes := recorded.routes ++ routes
                previousCodes := fields.failureCodes
                remaining := recorded.remaining - 1 }
            if test.passed = true ∧ securityStatus = "PASS" then
              if next.remaining ≠ 0 then
                next.stop (.policy "Coding-review plan contains work after both reviews passed")
              else { next with ended := some (.ok ()) }
            else next

/-- The tests and the security review of a round. -/
def Loop.review (loop : Loop Content) (input : RoundInput Content) : Loop Content :=
  if workOrder.qaTestPaths.any (fun path => (loop.files.lookup (target path)).isNone) = true then
    loop.stop (.policy "QA test materialization is incomplete")
  else
    let after : Loop Content :=
      { loop with
        tested := loop.files, files := input.runTests loop.files, commands := loop.commands + 1 }
    match input.test with
    | .error error => after.stop error
    | .ok test =>
        if test.passed = true then
          match security setting workOrder after.files input.plan.failureOwnerRole with
          | .error error => after.stop error
          | .ok findings =>
              ({ after with commands := after.commands + 1 } : Loop Content).record setting
                input.plan.toPlanFields test findings (if findings = [] then "PASS" else "FAIL")
        else
          let finding := qaFinding workOrder input.plan.failureOwnerRole
          match finding.postInit with
          | .error error => after.stop error
          | .ok () =>
              after.record setting input.plan.toPlanFields test [finding] "NOT_RUN_QA_FAILED"

variable (authority : CodingReviewAuthority)

def Loop.round (loop : Loop Content) (input : RoundInput Content) : Loop Content :=
  if loop.ended.isSome = true then loop
  else if input.plan.resolvesFeedbackCodes ≠ loop.previousCodes then
    loop.stop (.policy "Coding round does not consume the exact returned review feedback")
  else
    match validatePatches workOrder input with
    | .error error => loop.stop error
    | .ok () =>
        match writePatches setting input.write input.plan.patches loop with
        | (some error, written) => written.stop error
        | (none, written) =>
            if authority.maxFileWrites < written.writes then
              written.stop (.policy "Coding-review file-write budget was exceeded")
            else written.review setting workOrder input

/-! ## The whole loop -/

def observedFile (files : Files Content) (path : String) : Except Error ObservedProductFile := do
  let owner ← workOrder.ownerFor path
  let content ← readFile files path
  CodingReview.path path "observed product path"
  if owner ∉ patchRoles then throw (.value "Observed product owner is invalid")
  digest (setting.contentDigest content) "observed product content digest"
  pure ⟨path, owner, setting.contentDigest content⟩

def Loop.observe (loop : Loop Content) : Except Error CodingReviewObservation := do
  if authority.maxToolCalls < loop.commands + loop.writes then
    throw (.policy "Coding-review tool-call budget was exceeded")
  let finalPaths := sorted loop.changed
  let finalFiles ← finalPaths.mapM (observedFile setting workOrder loop.files)
  let observation : CodingReviewObservation :=
    { providerId := "local-deterministic-coding-review-v1"
      rounds := loop.records
      failureRoutes := loop.routes
      finalChangedPaths := finalPaths
      finalFiles
      finalDiffDigest := String.ofList (List.replicate 64 '0')
      qaExecutionCount := loop.records.length
      securityExecutionCount :=
        loop.records.countP fun record => record.securityStatus ≠ "NOT_RUN_QA_FAILED"
      productFileWriteCount := loop.writes
      specializedCommandCount := loop.commands }
  observation.postInit
  pure observation

def Loop.start (files : Files Content) (inputs : List (RoundInput Content)) : Loop Content where
  files
  remaining := inputs.length

/-- `execute`: what it answers, and the loop at its end. -/
def execute (workspace : Except Error Unit) (files : Files Content)
    (inputs : List (RoundInput Content)) : Except Error CodingReviewObservation × Loop Content :=
  match workspace with
  | .error error => (.error error, .start files inputs)
  | .ok () =>
    if ¬(1 ≤ inputs.length ∧ inputs.length ≤ authority.maxReviewRounds) then
      (.error (.policy "Coding-review plan exceeds the round budget"), .start files inputs)
    else if inputs.map (·.plan.roundNumber) ≠ List.range' 1 inputs.length then
      (.error (.policy "Coding-review plans are out of order"), .start files inputs)
    else
      let loop := inputs.foldl (Loop.round setting workOrder authority) (.start files inputs)
      match loop.ended with
      | some (.error error) => (.error error, loop)
      | some (.ok ()) => (loop.observe setting workOrder authority, loop)
      | none =>
          (.error ⟨.codingReviewFailed,
            "Coding-review rounds ended without QA and Security pass"⟩, loop)

end Loops

/-! ## What a round writes -/

section Rounds

variable {setting : Setting Content} {workOrder : CodingReviewWorkOrder}
  {authority : CodingReviewAuthority} {loop next : Loop Content} {input : RoundInput Content}

/-- The number of files that the writes of a round replace. -/
def replaced (write : String → WriteOutcome) : List TextPatch → Nat
  | [] => 0
  | patch :: patches =>
    match write patch.path with
    | .done => replaced write patches + 1
    | .failed true _ => 1
    | .failed false _ => 0

/-- What a round changes besides the files and what it counts. -/
structure SameRecords (loop next : Loop Content) : Prop where
  records : next.records = loop.records
  offered : next.offered = loop.offered
  ended : next.ended = loop.ended

theorem written_writePatches {write : String → WriteOutcome} (patches : List TextPatch) :
    ∀ loop : Loop Content, SameRecords loop (writePatches setting write patches loop).2 ∧
      (writePatches setting write patches loop).2.written =
        loop.written + replaced write patches ∧
      ((writePatches setting write patches loop).1 = none →
        (writePatches setting write patches loop).2.writes =
          loop.writes + replaced write patches) := by
  induction patches with
  | nil => exact fun loop => ⟨⟨rfl, rfl, rfl⟩, rfl, fun _ => rfl⟩
  | cons patch patches ih =>
    intro loop
    unfold writePatches replaced
    cases hwrite : write patch.path with
    | done =>
        obtain ⟨⟨hrecords, hoffered, hended⟩, hwritten, hwrites⟩ :=
          ih ((loop.replace setting patch).count patch)
        refine ⟨⟨hrecords, hoffered, hended⟩, ?_, fun hnone => ?_⟩
        · exact hwritten.trans (Nat.add_right_comm loop.written 1 _)
        · exact (hwrites hnone).trans (Nat.add_right_comm loop.writes 1 _)
    | failed replaced error =>
        cases replaced
        · exact ⟨⟨rfl, rfl, rfl⟩, rfl, fun h => nomatch h⟩
        · exact ⟨⟨rfl, rfl, rfl⟩, rfl, fun h => nomatch h⟩

/-! ## Which records are accepted -/

theorem code_of_mem_security {files : Files Content} {role : String}
    {findings : List ReviewFinding} (h : security setting workOrder files role = .ok findings) :
    ∀ finding ∈ findings, finding.reviewerRole = securityRole ∧
      ∃ code : SecurityCode, finding.code = code.value := by
  unfold security at h
  obtain ⟨found, -, h⟩ := Checks.bind_ok_iff.mp h
  intro finding hfinding
  obtain ⟨entry, -, hentry⟩ := Checks.exists_of_mem_mapM_ok h finding hfinding
  obtain ⟨-, hentry⟩ := Checks.check_ok_iff.mp hentry
  cases hentry
  exact ⟨rfl, entry.1, rfl⟩

/-- All texts of the codes. -/
def codeValues : List String :=
  ["INVALID_PYTHON_SOURCE", "FORBIDDEN_RUNTIME_CAPABILITY", "UNAPPROVED_DEPENDENCY",
    "UNSAFE_DYNAMIC_EXECUTION", "HARDCODED_SECRET"]

theorem value_mem_codeValues (code : SecurityCode) : code.value ∈ codeValues := by
  cases code <;> decide

theorem length_le_five {findings : List ReviewFinding}
    (hcodes : ∀ finding ∈ findings, ∃ code : SecurityCode, finding.code = code.value)
    (hnodup : (findings.map ReviewFinding.code).Nodup) : findings.length ≤ 5 := by
  have hsubset : findings.map ReviewFinding.code ⊆ codeValues := by
    intro value hvalue
    obtain ⟨finding, hfinding, rfl⟩ := List.mem_map.mp hvalue
    obtain ⟨code, hcode⟩ := hcodes finding hfinding
    rw [hcode]
    exact value_mem_codeValues code
  have hlength := (List.subperm_of_subset hnodup hsubset).length_le
  rwa [List.length_map] at hlength

/-- What the constructor of a plan has checked. -/
structure PlanSound (plan : PlanFields) : Prop where
  roundNumber : ¬plan.roundNumber < 1
  patches : 1 ≤ plan.patches.length ∧ plan.patches.length ≤ 16
  nodup : (plan.patches.map TextPatch.path).Nodup
  codes : items plan.resolvesFeedbackCodes "resolved feedback codes" 0 8 128 = .ok ()
  owner : plan.failureOwnerRole ∈ engineeringRoles

theorem plan_ok_iff {plan : PlanFields} : plan.postInit = .ok () ↔ PlanSound plan := by
  unfold PlanFields.postInit
  constructor
  · intro h
    obtain ⟨hround, h⟩ := Checks.guard_bind_ok_iff.mp h
    obtain ⟨hpatches, h⟩ := Checks.check_ok_iff.mp h
    obtain ⟨hnodup, h⟩ := Checks.guard_bind_ok_iff.mp h
    obtain ⟨hcodes, h⟩ := Checks.check_ok_iff.mp h
    obtain ⟨howner, -⟩ := Checks.guard_ok_iff.mp h
    exact ⟨hround, sized_ok_iff.mp hpatches, not_not.mp hnodup, hcodes, not_not.mp howner⟩
  · rintro ⟨hround, hpatches, hnodup, hcodes, howner⟩
    refine Checks.guard_bind_ok_iff.mpr ⟨hround, Checks.check_ok_iff.mpr
      ⟨sized_ok_iff.mpr hpatches, Checks.guard_bind_ok_iff.mpr ⟨not_not.mpr hnodup, ?_⟩⟩⟩
    exact Checks.check_ok_iff.mpr ⟨hcodes, Checks.guard_ok_iff.mpr ⟨not_not.mpr howner, rfl⟩⟩

/-- The outcome of a round: the tests failed, or they passed and the review has findings or
none. -/
inductive Outcome (test : TestRun) (findings : List ReviewFinding) : String → Prop
  | untested (hfailed : test.passed = false) (hne : findings ≠ [])
      (hroles : ∀ finding ∈ findings, finding.reviewerRole = qaRole) :
      Outcome test findings "NOT_RUN_QA_FAILED"
  | failed (hpassed : test.passed = true) (hne : findings ≠ [])
      (hroles : ∀ finding ∈ findings, finding.reviewerRole = securityRole) :
      Outcome test findings "FAIL"
  | passed (hpassed : test.passed = true) (hnone : findings = []) : Outcome test findings "PASS"

theorem outcomeChecks_ok (plan : PlanFields) {test : TestRun} {findings : List ReviewFinding}
    {status diffDigest : String} (houtcome : Outcome test findings status) :
    (recordFields plan test findings status diffDigest).outcomeChecks = .ok () := by
  have hroles : ∀ {role : String}, (∀ finding ∈ findings, finding.reviewerRole = role) →
      ¬findings.any (fun item => item.reviewerRole ≠ role) = true := by
    intro role hall hany
    obtain ⟨finding, hfinding, hne⟩ := List.any_eq_true.mp hany
    exact of_decide_eq_true hne (hall finding hfinding)
  unfold RecordFields.outcomeChecks
  cases houtcome with
  | untested hfailed hne hqa =>
    simp only [recordFields, hfailed]
    refine Checks.guard_bind_ok_iff.mpr ⟨?_, Checks.guard_ok_iff.mpr ⟨hroles hqa, rfl⟩⟩
    exact not_or.mpr ⟨not_not.mpr rfl, hne⟩
  | failed hpassed hne hsecurity =>
    simp only [recordFields, hpassed, if_true]
    rw [if_neg (by decide)]
    exact Checks.guard_ok_iff.mpr ⟨not_or.mpr ⟨hne, hroles hsecurity⟩, rfl⟩
  | passed hpassed hnone =>
    simp only [recordFields, hpassed, if_true]
    rw [if_neg (by decide), if_neg (by decide)]
    exact Checks.guard_ok_iff.mpr ⟨fun h => h.2 hnone, rfl⟩

theorem recordFields_ok (plan : CodingRoundPlan) {test : TestRun} {findings : List ReviewFinding}
    {status diffDigest : String} (hdiff : isDigest diffDigest = true)
    (hlength : findings.length ≤ 8) (houtcome : Outcome test findings status) :
    (recordFields plan.toPlanFields test findings status diffDigest).postInit = .ok () := by
  obtain ⟨hround, hpatches, hnodup, hcodes, -⟩ := plan_ok_iff.mp plan.checked
  have hperm := List.perm_insertionSort (· ≤ ·) (plan.patches.map TextPatch.path)
  have hpaths : paths (sorted (plan.patches.map TextPatch.path)) "round changed paths" 1 16 =
      .ok () := by
    refine paths_ok_iff.mpr ⟨?_, ?_, hperm.nodup_iff.mpr hnodup⟩
    · rw [sorted, hperm.length_eq, List.length_map]
      exact hpatches
    · intro value hvalue
      obtain ⟨patch, -, rfl⟩ := List.mem_map.mp (hperm.mem_iff.mp hvalue)
      exact patch.path_ok
  have hstatus : ∀ passed : Bool, (if passed = true then "PASS" else "FAIL") ∈
      ["PASS", "FAIL"] := by decide
  have hcommands : ∀ passed : Bool, (if passed = true then 2 else 1) ∈ [1, 2] := by decide
  have hsecurity : status ∈ ["PASS", "FAIL", "NOT_RUN_QA_FAILED"] := by
    cases houtcome <;> simp
  unfold RecordFields.postInit
  refine Checks.guard_bind_ok_iff.mpr ⟨hround, Checks.check_ok_iff.mpr
    ⟨items_ok_iff.mpr (items_ok_iff.mp hcodes), Checks.check_ok_iff.mpr ⟨hpaths, ?_⟩⟩⟩
  refine Checks.guard_bind_ok_iff.mpr ⟨not_not.mpr (hstatus _), Checks.guard_bind_ok_iff.mpr
    ⟨not_not.mpr hsecurity, Checks.check_ok_iff.mpr ⟨digest_ok_iff.mpr test.digest_ok, ?_⟩⟩⟩
  refine Checks.check_ok_iff.mpr ⟨digest_ok_iff.mpr hdiff, Checks.check_ok_iff.mpr
    ⟨sized_ok_iff.mpr ⟨Nat.zero_le _, hlength⟩, Checks.check_ok_iff.mpr
      ⟨outcomeChecks_ok plan.toPlanFields houtcome, ?_⟩⟩⟩
  refine Checks.guard_ok_iff.mpr ⟨?_, rfl⟩
  rw [not_or, not_not, not_not]
  exact ⟨hpatches, hcommands _⟩

/-! ## Runs of rounds -/

/-- Both reviews of the last round passed on the files as they are: the tests on the contents of
the changed files, and the security review on all of the files. -/
structure Reviewed (setting : Setting Content) (workOrder : CodingReviewWorkOrder)
    (loop : Loop Content) : Prop where
  statuses : ∃ record, loop.records.getLast? = some record ∧ record.qaStatus = "PASS" ∧
    record.securityStatus = "PASS"
  secure : ∃ role, security setting workOrder loop.files role = .ok []
  tested : ∀ path ∈ loop.changed,
    loop.tested.lookup (target path) = loop.files.lookup (target path)

/-- What the loop promises after each round: the files that were written stay in the budget, every
record is accepted, the feedback of every failing round can be consumed, and a loop that has ended
well is reviewed. -/
structure LoopSound (setting : Setting Content) (workOrder : CodingReviewWorkOrder)
    (authority : CodingReviewAuthority) (loop : Loop Content) : Prop where
  budget : loop.written ≤ authority.maxFileWrites
  accepted : ∀ fields ∈ loop.offered, fields.postInit = .ok ()
  consumable : ∀ record ∈ loop.records, record.findings ≠ [] →
    ∃ plan : CodingRoundPlan, plan.roundNumber = record.roundNumber + 1 ∧
      plan.resolvesFeedbackCodes = record.failureCodes
  reviewed : loop.ended = some (.ok ()) → Reviewed setting workOrder loop

/-- What keeps a loop sound, besides: the loop has counted what it wrote. -/
structure Inv (setting : Setting Content) (workOrder : CodingReviewWorkOrder)
    (authority : CodingReviewAuthority) (loop : Loop Content) : Prop
    extends LoopSound setting workOrder authority loop where
  counted : loop.ended = none → loop.writes = loop.written

/-- A round that is not refused stays in the budget; and when its tests pass, they leave the files
that were changed as they are, and the security review finds no code in two files. -/
def Fits (setting : Setting Content) (workOrder : CodingReviewWorkOrder)
    (authority : CodingReviewAuthority) (loop : Loop Content) (input : RoundInput Content) : Prop :=
  loop.ended = none → input.plan.resolvesFeedbackCodes = loop.previousCodes →
    validatePatches workOrder input = .ok () →
      loop.writes + replaced input.write input.plan.patches ≤ authority.maxFileWrites ∧
        ∀ test, input.test = .ok test → test.passed = true →
          let written := (writePatches setting input.write input.plan.patches loop).2
          (∀ path ∈ written.changed, written.files.lookup (target path) =
            (input.runTests written.files).lookup (target path)) ∧
          ∀ findings, security setting workOrder (input.runTests written.files)
              input.plan.failureOwnerRole = .ok findings →
            (findings.map ReviewFinding.code).Nodup

theorem Inv.stop (h : LoopSound setting workOrder authority loop) (error : Error) :
    Inv setting workOrder authority (loop.stop error) :=
  ⟨⟨h.budget, h.accepted, h.consumable, fun hended => nomatch hended⟩, fun hended => nomatch hended⟩

theorem LoopSound.of_same (h : LoopSound setting workOrder authority loop)
    (hrecords : next.records = loop.records) (hoffered : next.offered = loop.offered)
    (hended : next.ended = none) (hbudget : next.written ≤ authority.maxFileWrites) :
    LoopSound setting workOrder authority next := by
  refine ⟨hbudget, hoffered ▸ h.accepted, hrecords ▸ h.consumable, fun hok => ?_⟩
  rw [hended] at hok
  cases hok

theorem new_ok {fields : RecordFields} (h : fields.postInit = .ok ()) :
    CodingRoundRecord.new fields = .ok ⟨fields, h⟩ := by
  unfold CodingRoundRecord.new
  split
  · rfl
  · rename_i error herror
    rw [h] at herror
    cases herror

theorem plan_of_codes (plan : CodingRoundPlan) {codes : List String}
    (hcodes : items codes "resolved feedback codes" 0 8 128 = .ok ()) :
    ∃ other : CodingRoundPlan, other.roundNumber = plan.roundNumber + 1 ∧
      other.resolvesFeedbackCodes = codes := by
  obtain ⟨-, hpatches, hnodup, -, howner⟩ := plan_ok_iff.mp plan.checked
  exact ⟨⟨⟨plan.roundNumber + 1, plan.patches, codes, plan.failureOwnerRole⟩,
    plan_ok_iff.mpr ⟨by simp, hpatches, hnodup, hcodes, howner⟩⟩, rfl, rfl⟩

theorem Inv.record (hinv : Inv setting workOrder authority loop) (hended : loop.ended = none)
    (plan : CodingRoundPlan) {test : TestRun} {findings : List ReviewFinding} {status : String}
    (houtcome : Outcome test findings status)
    (hcodes : items (findings.map ReviewFinding.code) "resolved feedback codes" 0 8 128 = .ok ())
    (hpassed : status = "PASS" → (∃ role, security setting workOrder loop.files role = .ok []) ∧
      ∀ path ∈ loop.changed,
        loop.tested.lookup (target path) = loop.files.lookup (target path)) :
    Inv setting workOrder authority
      (loop.record setting plan.toPlanFields test findings status) := by
  unfold Loop.record
  split
  · exact Inv.stop hinv.toLoopSound _
  · rename_i diffDigest hdigest
    obtain ⟨entries, -, hdigest⟩ := Checks.bind_ok_iff.mp hdigest
    have hdiff : isDigest diffDigest = true := by
      cases hdigest
      exact setting.stateDigest_digest entries
    have hlength : findings.length ≤ 8 := by
      have h := (items_ok_iff.mp hcodes).1.2
      rwa [List.length_map] at h
    have hok := recordFields_ok plan hdiff hlength houtcome
    have hplan := plan_of_codes plan hcodes
    have hsound : ∀ next : Loop Content,
        next.records = loop.records ++ [⟨_, hok⟩] →
        next.offered = loop.offered ++ [recordFields plan.toPlanFields test findings status
          diffDigest] →
        next.written = loop.written →
        (next.ended = some (.ok ()) → Reviewed setting workOrder next) →
          LoopSound setting workOrder authority next := by
      intro next hrecords hoffered hwritten hreviewed
      refine ⟨hwritten ▸ hinv.budget, ?_, ?_, hreviewed⟩
      · intro fields hfields
        rw [hoffered] at hfields
        rcases List.mem_append.mp hfields with hfields | hfields
        · exact hinv.accepted fields hfields
        · rw [List.mem_singleton.mp hfields]
          exact hok
      · intro record hrecord
        rw [hrecords] at hrecord
        rcases List.mem_append.mp hrecord with hrecord | hrecord
        · exact hinv.consumable record hrecord
        · rw [List.mem_singleton.mp hrecord]
          exact fun _ => hplan
    dsimp only
    rw [new_ok hok]
    dsimp only
    split
    · apply Inv.stop
      exact hsound _ rfl rfl rfl fun h => by rw [hended] at h; cases h
    · rename_i routes hroutes
      have hopen : LoopSound setting workOrder authority
          { loop with
            offered := loop.offered ++ [recordFields plan.toPlanFields test findings status
              diffDigest]
            records := loop.records ++ [⟨_, hok⟩]
            routes := loop.routes ++ routes
            previousCodes := RecordFields.failureCodes
              (recordFields plan.toPlanFields test findings status diffDigest)
            remaining := loop.remaining - 1 } :=
        hsound _ rfl rfl rfl fun h => by rw [hended] at h; cases h
      split
      · rename_i hpass
        split
        · exact Inv.stop hopen _
        · obtain ⟨hsecure, htested⟩ := hpassed hpass.2
          refine ⟨?_, fun h => nomatch h⟩
          refine hsound _ rfl rfl rfl fun _ => ⟨⟨_, List.getLast?_concat, ?_, hpass.2⟩, hsecure,
            htested⟩
          exact if_pos hpass.1
      · exact ⟨hopen, fun _ => hinv.counted hended⟩

theorem codes_ok {findings : List ReviewFinding}
    (hcodes : ∀ finding ∈ findings, ∃ code : SecurityCode, finding.code = code.value)
    (hnodup : (findings.map ReviewFinding.code).Nodup) :
    items (findings.map ReviewFinding.code) "resolved feedback codes" 0 8 128 = .ok () := by
  have htexts : ∀ code : SecurityCode, isText 128 code.value = true := by
    intro code
    cases code <;> decide
  refine items_ok_iff.mpr ⟨⟨Nat.zero_le _, ?_⟩, ?_, hnodup⟩
  · rw [List.length_map]
    exact (length_le_five hcodes hnodup).trans (by decide)
  · intro value hvalue
    obtain ⟨finding, hfinding, rfl⟩ := List.mem_map.mp hvalue
    obtain ⟨code, hcode⟩ := hcodes finding hfinding
    rw [hcode]
    exact htexts code

theorem Inv.review (hinv : Inv setting workOrder authority loop) (hended : loop.ended = none)
    (hfits : ∀ test, input.test = .ok test → test.passed = true →
      (∀ path ∈ loop.changed, loop.files.lookup (target path) =
        (input.runTests loop.files).lookup (target path)) ∧
      ∀ findings, security setting workOrder (input.runTests loop.files)
          input.plan.failureOwnerRole = .ok findings →
        (findings.map ReviewFinding.code).Nodup) :
    Inv setting workOrder authority (loop.review setting workOrder input) := by
  have hsame : ∀ next : Loop Content, next.records = loop.records → next.offered = loop.offered →
      next.ended = loop.ended → next.written = loop.written → next.writes = loop.writes →
        Inv setting workOrder authority next := by
    intro next hrecords hoffered hsame hwritten hwrites
    refine ⟨hinv.of_same hrecords hoffered (hsame.trans hended) (hwritten ▸ hinv.budget),
      fun _ => ?_⟩
    rw [hwrites, hwritten]
    exact hinv.counted hended
  unfold Loop.review
  split
  · exact Inv.stop hinv.toLoopSound _
  · dsimp only
    split
    · apply Inv.stop
      exact Inv.toLoopSound (hsame _ rfl rfl rfl rfl rfl)
    · rename_i test htest
      split
      · rename_i hpassed
        obtain ⟨hkept, hnodup⟩ := hfits test htest hpassed
        split
        · apply Inv.stop
          exact Inv.toLoopSound (hsame _ rfl rfl rfl rfl rfl)
        · rename_i findings hfindings
          have hcodes := code_of_mem_security hfindings
          have hitems := codes_ok (fun finding h => (hcodes finding h).2) (hnodup _ hfindings)
          refine @Inv.record _ _ _ _ _ ?_ ?_ input.plan _ _ _ ?_ hitems ?_
          · exact hsame _ rfl rfl rfl rfl rfl
          · exact hended
          · by_cases hnone : findings = []
            · rw [if_pos hnone]
              exact .passed hpassed hnone
            · rw [if_neg hnone]
              exact .failed hpassed hnone fun finding h => (hcodes finding h).1
          · intro hstatus
            by_cases hnone : findings = []
            · rw [hnone] at hfindings
              exact ⟨⟨_, hfindings⟩, hkept⟩
            · rw [if_neg hnone] at hstatus
              exact absurd hstatus (by decide)
      · rename_i hfailed
        split
        · apply Inv.stop
          exact Inv.toLoopSound (hsame _ rfl rfl rfl rfl rfl)
        · refine @Inv.record _ _ _ _ _ ?_ ?_ input.plan _ _ _ ?_ ?_ ?_
          · exact hsame _ rfl rfl rfl rfl rfl
          · exact hended
          · refine .untested (Bool.eq_false_of_not_eq_true hfailed) (List.cons_ne_nil _ _) ?_
            intro finding hfinding
            rw [List.mem_singleton.mp hfinding]
            rfl
          · change items ["QA_TEST_FAILURE"] _ 0 8 128 = .ok ()
            exact items_ok_iff.mpr ⟨by decide, by decide, List.nodup_singleton _⟩
          · exact fun hstatus => absurd hstatus (by decide)

theorem Inv.round (hinv : Inv setting workOrder authority loop)
    (hfits : Fits setting workOrder authority loop input) :
    Inv setting workOrder authority (loop.round setting workOrder authority input) := by
  unfold Loop.round
  split
  · exact hinv
  · rename_i hopen
    have hended : loop.ended = none := Option.not_isSome_iff_eq_none.mp hopen
    split
    · exact Inv.stop hinv.toLoopSound _
    · rename_i hfeedback
      split
      · exact Inv.stop hinv.toLoopSound _
      · rename_i hvalid
        obtain ⟨hbudget, hreview⟩ := hfits hended (not_not.mp hfeedback) hvalid
        obtain ⟨⟨hrecords, hoffered, hsame⟩, hwritten, hwrites⟩ :=
          @written_writePatches _ setting input.write input.plan.patches loop
        have hsound : LoopSound setting workOrder authority
            (writePatches setting input.write input.plan.patches loop).2 := by
          refine hinv.of_same hrecords hoffered (hsame.trans hended) ?_
          rw [hwritten, ← hinv.counted hended]
          exact hbudget
        split
        · rename_i error written hwrite
          rw [hwrite] at hsound
          exact Inv.stop hsound _
        · rename_i written hwrite
          rw [hwrite] at hsound hsame hwritten hwrites hreview
          split
          · exact Inv.stop hsound _
          · refine Inv.review ⟨hsound, fun _ => ?_⟩ (hsame.trans hended) hreview
            rw [hwrites rfl, hwritten, hinv.counted hended]

theorem Inv.start (files : Files Content) (inputs : List (RoundInput Content)) :
    Inv setting workOrder authority (.start files inputs) := by
  refine ⟨⟨Nat.zero_le _, ?_, ?_, fun h => nomatch h⟩, fun _ => rfl⟩
  · intro fields h
    cases h
  · intro record h
    cases h

/-- What is observed of a loop: its records, and the contents that both reviews passed on. -/
structure Observed (setting : Setting Content) (workOrder : CodingReviewWorkOrder)
    (loop : Loop Content) (observation : CodingReviewObservation) : Prop
    extends Reviewed setting workOrder loop where
  rounds : observation.rounds = loop.records
  finalFiles : ∀ file ∈ observation.finalFiles, ∃ content,
    loop.files.lookup (target file.path) = some content ∧
      loop.tested.lookup (target file.path) = some content ∧
        file.contentDigest = setting.contentDigest content

theorem observed_of_observe {observation : CodingReviewObservation}
    (hreviewed : Reviewed setting workOrder loop)
    (h : loop.observe setting workOrder authority = .ok observation) :
    Observed setting workOrder loop observation := by
  unfold Loop.observe at h
  obtain ⟨-, h⟩ := Checks.guard_bind_ok_iff.mp h
  obtain ⟨finalFiles, hfiles, h⟩ := Checks.bind_ok_iff.mp h
  obtain ⟨-, h⟩ := Checks.check_ok_iff.mp h
  cases h
  refine ⟨hreviewed, rfl, fun file hfile => ?_⟩
  obtain ⟨path, hpath, hobserved⟩ := Checks.exists_of_mem_mapM_ok hfiles file hfile
  unfold observedFile at hobserved
  obtain ⟨owner, -, hobserved⟩ := Checks.bind_ok_iff.mp hobserved
  obtain ⟨content, hcontent, hobserved⟩ := Checks.bind_ok_iff.mp hobserved
  obtain ⟨-, hobserved⟩ := Checks.check_ok_iff.mp hobserved
  obtain ⟨-, hobserved⟩ := Checks.guard_bind_ok_iff.mp hobserved
  obtain ⟨-, hobserved⟩ := Checks.check_ok_iff.mp hobserved
  cases hobserved
  have hlookup : loop.files.lookup (target path) = some content := by
    unfold readFile at hcontent
    split at hcontent
    · rename_i found hfound
      cases hcontent
      exact hfound
    · cases hcontent
  have hchanged := (List.perm_insertionSort (· ≤ ·) loop.changed).mem_iff.mp hpath
  exact ⟨content, hlookup, (hreviewed.tested path hchanged).trans hlookup, rfl⟩

/-- In every run whose rounds fit, every loop that is reached is sound; the loop with which
`execute` ends is one of them, and what it returns is observed of that loop. -/
theorem coding_review_loop (files : Files Content) (inputs : List (RoundInput Content))
    (hfits : AllMeet (Loop.round setting workOrder authority) (Fits setting workOrder authority)
      (.start files inputs) inputs) :
    (∀ loop ∈ inputs.scanl (Loop.round setting workOrder authority) (.start files inputs),
      LoopSound setting workOrder authority loop) ∧
    ∀ workspace : Except Error Unit,
      (execute setting workOrder authority workspace files inputs).2 ∈
        inputs.scanl (Loop.round setting workOrder authority) (.start files inputs) ∧
      ∀ observation,
        (execute setting workOrder authority workspace files inputs).1 = .ok observation →
          Observed setting workOrder
            (execute setting workOrder authority workspace files inputs).2 observation := by
  have hall := inv_of_allMeet (Inv setting workOrder authority)
    (fun _ _ hinv hmeets => hinv.round hmeets) inputs (.start files inputs)
    (Inv.start files inputs) hfits
  refine ⟨fun loop hloop => (hall loop hloop).toLoopSound, fun workspace => ?_⟩
  have hfirst : Loop.start files inputs ∈
      inputs.scanl (Loop.round setting workOrder authority) (.start files inputs) := by
    cases inputs with
    | nil => exact List.mem_singleton_self _
    | cons input inputs =>
        rw [List.scanl_cons]
        exact List.mem_cons_self
  have hlast := foldl_mem_scanl (Loop.round setting workOrder authority) inputs
    (.start files inputs)
  unfold execute
  split
  · exact ⟨hfirst, fun _ h => nomatch h⟩
  · split
    · exact ⟨hfirst, fun _ h => nomatch h⟩
    · split
      · exact ⟨hfirst, fun _ h => nomatch h⟩
      · dsimp only
        split
        · exact ⟨hlast, fun _ h => nomatch h⟩
        · rename_i hended
          exact ⟨hlast, fun observation h =>
            observed_of_observe ((hall _ hlast).reviewed hended) h⟩
        · exact ⟨hlast, fun _ h => nomatch h⟩

end Rounds

/-! ## A round of empty files -/

/-- SHA-256 of no bytes. -/
def emptyDigest : String :=
  "e3b0c44298fc1c149afbf4c8996fb92427ae41e4649b934ca495991b7852b855"

/-- The setting of files that are empty, of which only `a1` is changed. -/
def emptySetting : Setting String where
  encode := id
  parse _ := .ok (some [])
  contentDigest _ := emptyDigest
  stateDigest _ := "a7f6c49beb29b51da160ae2322b9cf534a6e55acfe0fa44b4e4573dca7901d9a"
  isStandard _ := false
  isSecretName _ := false
  stateDigest_digest _ := by decide

def emptyAssignment (role : String) (names : List String)
    (h : paths names "coding assignment paths" 1 8 = .ok ()) : CodingAssignment :=
  ⟨role, names, h⟩

/-- The backend has seven files, everybody else has one. -/
def emptyWorkOrder : CodingReviewWorkOrder where
  assignments :=
    [emptyAssignment "BACKEND_ENGINEER" ["a1", "a2", "a3", "a4", "a5", "a6", "a7"]
        (by decide +kernel),
      emptyAssignment "FRONTEND_ENGINEER" ["b"] (by decide +kernel),
      emptyAssignment "AI_ENGINEER" ["c"] (by decide +kernel),
      emptyAssignment "DATA_ENGINEER" ["d"] (by decide +kernel)]
  qaTestPaths := ["t.py"]
  roles := rfl
  engineering_nodup := by decide
  qaTestPaths_ok := by decide +kernel
  disjoint := by decide

/-- At most six files may be written. -/
def sixWrites : CodingReviewAuthority where
  maxFileWrites := 6
  rounds_ok := by decide
  effects_ok := by decide

/-- An empty file of the backend. -/
def emptyPatch (path : String) (h : isPath path = true) : TextPatch :=
  ⟨"BACKEND_ENGINEER", path, "", by decide, h, by decide⟩

/-- The first round, with these patches; the tests pass and leave the files alone. -/
def emptyRound (patches : List TextPatch)
    (h : PlanFields.postInit ⟨1, patches, [], "BACKEND_ENGINEER"⟩ = .ok ()) :
    RoundInput String where
  plan := ⟨_, h⟩
  checkDestination _ := .ok ()
  write _ := .done
  test := .ok ⟨true, 1, emptyDigest, by decide⟩
  runTests := id

def oneFile : RoundInput String :=
  emptyRound [emptyPatch "a1" (by decide +kernel)] (by decide +kernel)

def sevenFiles : RoundInput String :=
  emptyRound [emptyPatch "a1" (by decide +kernel), emptyPatch "a2" (by decide +kernel),
    emptyPatch "a3" (by decide +kernel), emptyPatch "a4" (by decide +kernel),
    emptyPatch "a5" (by decide +kernel), emptyPatch "a6" (by decide +kernel),
    emptyPatch "a7" (by decide +kernel)] (by decide +kernel)

theorem coding_review_loop_oneFile :
    (∀ loop ∈ [oneFile].scanl (Loop.round emptySetting emptyWorkOrder sixWrites)
        (.start [("t.py", "")] [oneFile]),
      LoopSound emptySetting emptyWorkOrder sixWrites loop) ∧
      (execute emptySetting emptyWorkOrder sixWrites (.ok ()) [("t.py", "")] [oneFile]).1.isOk =
        true := by
  have hsecurity : security emptySetting emptyWorkOrder [("t.py", ""), ("a1", "")]
      "BACKEND_ENGINEER" = .ok [] := by
    decide +kernel
  have hfits : AllMeet (Loop.round emptySetting emptyWorkOrder sixWrites)
      (Fits emptySetting emptyWorkOrder sixWrites) (.start [("t.py", "")] [oneFile])
      [oneFile] := by
    refine ⟨fun _ _ _ => ⟨by decide, fun test _ _ => ⟨fun _ _ => rfl, ?_⟩⟩, trivial⟩
    intro findings hfindings
    have hnone : findings = [] := Except.ok.inj (hfindings.symm.trans hsecurity)
    rw [hnone]
    exact List.nodup_nil
  exact ⟨(coding_review_loop _ _ hfits).1, by decide +kernel⟩

/-- Seven files are written where six may be: they are counted afterwards. -/
theorem not_coding_review_loop : ¬∀ (setting : Setting String)
    (workOrder : CodingReviewWorkOrder) (authority : CodingReviewAuthority)
    (files : Files String) (inputs : List (RoundInput String)),
    ∀ loop ∈ inputs.scanl (Loop.round setting workOrder authority) (.start files inputs),
      LoopSound setting workOrder authority loop := by
  intro hall
  have hsound := hall emptySetting emptyWorkOrder sixWrites [("t.py", "")] [sevenFiles] _
    (foldl_mem_scanl _ _ _)
  exact absurd hsound.budget (by decide +kernel)

end CodingReview
end Ascos
