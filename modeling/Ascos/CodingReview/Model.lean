import Ascos.Library.Checks
import Ascos.Library.Paths
import Ascos.Library.Texts
import Ascos.Runtime.Model
import Mathlib

/-!
# Coding review records

The records of `runtime/coding_review/models.py` that a coding-review loop reads and builds,
each with the checks of its constructor.
-/

namespace Ascos
namespace CodingReview

open Library
open Ascos.Runtime (isSpace)

/-! ## Errors and texts -/

/-- The exception classes of a loop, and any class of other code. -/
inductive ErrorClass where
  | codingReviewPolicyError
  | codingReviewFailed
  | codingReviewReconciliationRequired
  | valueError
  | other (name : String)
deriving DecidableEq

/-- A raised exception with its message. -/
structure Error where
  errorClass : ErrorClass
  message : String
deriving DecidableEq

/-- `ValueError(message)`. -/
def Error.value (message : String) : Error :=
  ⟨.valueError, message⟩

/-- `CodingReviewPolicyError(message)`. -/
def Error.policy (message : String) : Error :=
  ⟨.codingReviewPolicyError, message⟩

/-- `_IDENTIFIER`. -/
def isIdentifier (value : String) : Bool :=
  match value.toList with
  | [] => false
  | first :: rest =>
    first.isAlphanum && decide (rest.length ≤ 127) &&
      rest.all fun c => c.isAlphanum || c ∈ ['_', '.', ':', '-']

def identifier (value label : String) : Except Error Unit :=
  if isIdentifier value = false then throw (.value (label ++ " is invalid")) else pure ()

/-- `_DIGEST`. -/
def isDigest (value : String) : Bool :=
  value.toList.length == 64 && value.toList.all (· ∈ "0123456789abcdef".toList)

def digest (value label : String) : Except Error Unit :=
  if isDigest value = false then throw (.value ("Coding-review " ++ label ++ " is invalid"))
  else pure ()

/-- What `_text` accepts. -/
def isText (maximum : Nat) (value : String) : Bool :=
  decide (strip isSpace value = value ∧ value ≠ "" ∧ value.toList.length ≤ maximum) &&
    value.toList.all fun c => decide (32 ≤ c.toNat)

def text (value label : String) (maximum : Nat) : Except Error Unit :=
  if isText maximum value = false then throw (.value (label ++ " is invalid")) else pure ()

/-- The names of a path with backslashes read as slashes. -/
def slashed (value : String) : List Char :=
  value.toList.map fun c => if c = '\\' then '/' else c

attribute [local instance] Library.Paths.lawfulBEq_text

/-- What `_path` accepts. -/
def isPath (value : String) : Bool :=
  let chars := slashed value
  let path := Paths.canonical chars
  decide (Paths.root chars = [] ∧ Paths.parent ∉ Paths.parts chars) &&
    decide (path ∉ [[], ['.'], ".git".toList]) && !".git/".toList.isPrefixOf path &&
      decide (path.length ≤ 240)

def path (value label : String) : Except Error Unit :=
  if isPath value = false then throw (.value (label ++ " is invalid")) else pure ()

/-- The bounds of `_typed`, `_paths` and `_items`. -/
def sized {α : Type} (values : List α) (label : String) (minimum maximum : Nat) :
    Except Error Unit :=
  if ¬(minimum ≤ values.length ∧ values.length ≤ maximum) then
    throw (.value (label ++ " are invalid"))
  else pure ()

/-- The last check of `_paths` and `_items`. -/
def distinct (values : List String) (label : String) : Except Error Unit :=
  if ¬values.Nodup then throw (.value (label ++ " contain duplicates")) else pure ()

def paths (values : List String) (label : String) (minimum maximum : Nat) : Except Error Unit := do
  sized values label minimum maximum
  values.forM (path · label)
  distinct values label

def items (values : List String) (label : String) (minimum maximum itemMaximum : Nat) :
    Except Error Unit := do
  sized values label minimum maximum
  values.forM (text · label itemMaximum)
  distinct values label

section Checks

variable {value label : String} {values : List String} {minimum maximum itemMaximum : Nat}

theorem digest_ok_iff : digest value label = .ok () ↔ isDigest value = true := by
  unfold digest
  rw [Checks.guard_ok_iff]
  simp [pure, Except.pure]

theorem text_ok_iff : text value label maximum = .ok () ↔ isText maximum value = true := by
  unfold text
  rw [Checks.guard_ok_iff]
  simp [pure, Except.pure]

theorem path_ok_iff : path value label = .ok () ↔ isPath value = true := by
  unfold path
  rw [Checks.guard_ok_iff]
  simp [pure, Except.pure]

theorem sized_ok_iff {α : Type} {values : List α} : sized values label minimum maximum = .ok () ↔
    minimum ≤ values.length ∧ values.length ≤ maximum := by
  unfold sized
  rw [Checks.guard_ok_iff, not_not]
  simp [pure, Except.pure]

theorem distinct_ok_iff : distinct values label = .ok () ↔ values.Nodup := by
  unfold distinct
  rw [Checks.guard_ok_iff, not_not]
  simp [pure, Except.pure]

theorem paths_ok_iff : paths values label minimum maximum = .ok () ↔
    (minimum ≤ values.length ∧ values.length ≤ maximum) ∧
      (∀ value ∈ values, isPath value = true) ∧ values.Nodup := by
  unfold paths
  rw [Checks.check_ok_iff, Checks.check_ok_iff, sized_ok_iff, Checks.forM_ok_iff, distinct_ok_iff]
  simp only [path_ok_iff]

theorem items_ok_iff : items values label minimum maximum itemMaximum = .ok () ↔
    (minimum ≤ values.length ∧ values.length ≤ maximum) ∧
      (∀ value ∈ values, isText itemMaximum value = true) ∧ values.Nodup := by
  unfold items
  rw [Checks.check_ok_iff, Checks.check_ok_iff, sized_ok_iff, Checks.forM_ok_iff, distinct_ok_iff]
  simp only [text_ok_iff]

end Checks

/-! ## Roles -/

def engineeringRoles : List String :=
  ["BACKEND_ENGINEER", "FRONTEND_ENGINEER", "AI_ENGINEER", "DATA_ENGINEER"]

def qaRole : String :=
  "QA_ENGINEER"

def securityRole : String :=
  "SECURITY_ENGINEER"

def patchRoles : List String :=
  engineeringRoles ++ [qaRole]

/-! ## Authorities -/

/-- What the loop reads of a `CodingAssignment`. -/
structure CodingAssignment where
  ownerRole : String
  allowedPaths : List String
  allowedPaths_ok : paths allowedPaths "coding assignment paths" 1 8 = .ok ()

/-- What the loop reads of a `CodingReviewWorkOrder`. -/
structure CodingReviewWorkOrder where
  assignments : List CodingAssignment
  qaTestPaths : List String
  roles : assignments.map CodingAssignment.ownerRole = engineeringRoles
  engineering_nodup : (assignments.flatMap CodingAssignment.allowedPaths).Nodup
  qaTestPaths_ok : paths qaTestPaths "QA test paths" 1 4 = .ok ()
  disjoint : ∀ path ∈ assignments.flatMap CodingAssignment.allowedPaths, path ∉ qaTestPaths

def CodingReviewWorkOrder.allowedPaths (workOrder : CodingReviewWorkOrder) : List String :=
  workOrder.assignments.flatMap CodingAssignment.allowedPaths ++ workOrder.qaTestPaths

def CodingReviewWorkOrder.ownerFor (workOrder : CodingReviewWorkOrder) (path : String) :
    Except Error String :=
  if path ∈ workOrder.qaTestPaths then pure qaRole
  else
    match workOrder.assignments.find? fun assignment => path ∈ assignment.allowedPaths with
    | some assignment => pure assignment.ownerRole
    | none => throw (.value "Path does not belong to a coding assignment")

/-- What the loop reads of a `CodingReviewAuthority`. -/
structure CodingReviewAuthority where
  maxReviewRounds : Nat := 3
  maxFileWrites : Nat := 16
  maxToolCalls : Nat := 64
  rounds_ok : 1 ≤ maxReviewRounds ∧ maxReviewRounds ≤ 5
  effects_ok : 6 ≤ maxFileWrites ∧ maxFileWrites ≤ 32 ∧ 16 ≤ maxToolCalls ∧ maxToolCalls ≤ 96

/-! ## Plans -/

structure TextPatch where
  ownerRole : String
  path : String
  content : String
  ownerRole_ok : ownerRole ∈ patchRoles
  path_ok : isPath path = true
  content_ok : '\x00' ∉ content.toList ∧ content.utf8ByteSize ≤ 128000

/-- The fields of `CodingRoundPlan`. -/
structure PlanFields where
  roundNumber : Nat
  patches : List TextPatch
  resolvesFeedbackCodes : List String
  failureOwnerRole : String

def PlanFields.postInit (plan : PlanFields) : Except Error Unit := do
  if plan.roundNumber < 1 then throw (.value "Coding round number is invalid")
  sized plan.patches "text patches" 1 16
  if ¬(plan.patches.map TextPatch.path).Nodup then
    throw (.value "Coding round contains duplicate paths")
  items plan.resolvesFeedbackCodes "resolved feedback codes" 0 8 128
  if plan.failureOwnerRole ∉ engineeringRoles then
    throw (.value "Coding round failure owner is invalid")

structure CodingRoundPlan extends PlanFields where
  checked : toPlanFields.postInit = .ok ()

/-! ## Findings and records -/

structure ReviewFinding where
  code : String
  reviewerRole : String
  responsibleRole : String
  path : String
  severity : String
  summary : String
deriving DecidableEq

def ReviewFinding.postInit (finding : ReviewFinding) : Except Error Unit := do
  identifier finding.code "review finding code"
  if finding.reviewerRole ∉ [qaRole, securityRole] then
    throw (.value "Review finding reviewer is invalid")
  if finding.responsibleRole ∉ engineeringRoles then
    throw (.value "Review finding responsible role is invalid")
  CodingReview.path finding.path "review finding path"
  if finding.severity ∉ ["LOW", "MEDIUM", "HIGH", "CRITICAL"] then
    throw (.value "Review finding severity is invalid")
  text finding.summary "review finding summary" 500

/-- The fields of `CodingRoundRecord`. -/
structure RecordFields where
  roundNumber : Nat
  resolvedFeedbackCodes : List String
  changedPaths : List String
  qaStatus : String
  qaTestCount : Nat
  qaResultDigest : String
  securityStatus : String
  findings : List ReviewFinding
  diffDigest : String
  fileWriteCount : Nat
  specializedCommandCount : Nat
deriving DecidableEq

def RecordFields.outcomeChecks (record : RecordFields) : Except Error Unit :=
  if record.qaStatus = "FAIL" then do
    if record.securityStatus ≠ "NOT_RUN_QA_FAILED" ∨ record.findings = [] then
      throw (.value "Failed QA round must route findings before Security")
    if record.findings.any (fun item => item.reviewerRole ≠ qaRole) = true then
      throw (.value "Failed QA round findings are invalid")
  else if record.securityStatus = "FAIL" then
    if record.findings = [] ∨
        record.findings.any (fun item => item.reviewerRole ≠ securityRole) = true then
      throw (.value "Failed Security round findings are invalid")
    else pure ()
  else if record.securityStatus = "PASS" ∧ record.findings ≠ [] then
    throw (.value "Passing review round cannot contain findings")
  else pure ()

def RecordFields.postInit (record : RecordFields) : Except Error Unit := do
  if record.roundNumber < 1 then throw (.value "Coding round record number is invalid")
  items record.resolvedFeedbackCodes "round resolved feedback" 0 8 128
  paths record.changedPaths "round changed paths" 1 16
  if record.qaStatus ∉ ["PASS", "FAIL"] then throw (.value "Coding round QA state is invalid")
  if record.securityStatus ∉ ["PASS", "FAIL", "NOT_RUN_QA_FAILED"] then
    throw (.value "Coding round Security state is invalid")
  digest record.qaResultDigest "QA result"
  digest record.diffDigest "round diff"
  sized record.findings "review findings" 0 8
  record.outcomeChecks
  if ¬(1 ≤ record.fileWriteCount ∧ record.fileWriteCount ≤ 16) ∨
      record.specializedCommandCount ∉ [1, 2] then
    throw (.value "Coding round effect counts are invalid")

structure CodingRoundRecord extends RecordFields where
  checked : toRecordFields.postInit = .ok ()
deriving DecidableEq

/-- The constructor of `CodingRoundRecord`. -/
def CodingRoundRecord.new (fields : RecordFields) : Except Error CodingRoundRecord :=
  match h : fields.postInit with
  | .ok () => .ok ⟨fields, h⟩
  | .error error => .error error

def RecordFields.failureCodes (record : RecordFields) : List String :=
  record.findings.map ReviewFinding.code

structure FailureRoute where
  routeId : String
  roundNumber : Nat
  findingCode : String
  reviewerRole : String
  responsibleRole : String
deriving DecidableEq

/-- `FailureRoute.__post_init__`, for a round that has a number. -/
def FailureRoute.postInit (route : FailureRoute) : Except Error Unit := do
  identifier route.routeId "failure route ID"
  identifier route.findingCode "failure route finding code"
  if route.reviewerRole ∉ [qaRole, securityRole] then
    throw (.value "Failure route reviewer is invalid")
  if route.responsibleRole ∉ engineeringRoles then
    throw (.value "Failure route target or state is invalid")

/-! ## Observations -/

structure ObservedProductFile where
  path : String
  ownerRole : String
  contentDigest : String
deriving DecidableEq

/-- `CodingReviewObservation`, without the counts that are zero. -/
structure CodingReviewObservation where
  providerId : String
  rounds : List CodingRoundRecord
  failureRoutes : List FailureRoute
  finalChangedPaths : List String
  finalFiles : List ObservedProductFile
  finalDiffDigest : String
  qaExecutionCount : Nat
  securityExecutionCount : Nat
  productFileWriteCount : Nat
  specializedCommandCount : Nat
deriving DecidableEq

/-- What the routes and the findings of a round have in common. -/
abbrev RouteKey := Nat × String × String × String

/-- The routes that the rounds of an observation ask for. -/
def expectedRoutes (rounds : List CodingRoundRecord) : List RouteKey :=
  rounds.flatMap fun record => record.findings.map fun finding =>
    (record.roundNumber, finding.code, finding.reviewerRole, finding.responsibleRole)

def CodingReviewObservation.postInit (value : CodingReviewObservation) : Except Error Unit := do
  identifier value.providerId "coding-review provider ID"
  sized value.rounds "coding rounds" 1 5
  if value.rounds.map (·.roundNumber) ≠ List.range' 1 value.rounds.length then
    throw (.value "Coding review round order is invalid")
  if value.rounds.getLast?.any (fun record =>
      record.qaStatus = "PASS" ∧ record.securityStatus = "PASS") = false then
    throw (.value "Coding review did not finish with QA and Security pass")
  sized value.failureRoutes "failure routes" 0 16
  if value.failureRoutes.map (fun item =>
      (item.roundNumber, item.findingCode, item.reviewerRole, item.responsibleRole)) ≠
        expectedRoutes value.rounds then
    throw (.value "Coding review failure routes are incomplete")
  paths value.finalChangedPaths "final changed paths" 1 32
  sized value.finalFiles "final files" 1 32
  if value.finalFiles.map ObservedProductFile.path ≠ value.finalChangedPaths then
    throw (.value "Final file evidence does not match changed paths")
  digest value.finalDiffDigest "final diff digest"
  if value.qaExecutionCount ≠ value.rounds.length ∨ value.securityExecutionCount ≠
      value.rounds.countP (fun record => record.securityStatus ≠ "NOT_RUN_QA_FAILED") then
    throw (.value "Coding review execution counts are invalid")
  if value.productFileWriteCount ≠ (value.rounds.map (·.fileWriteCount)).foldl (· + ·) 0 then
    throw (.value "Coding review file-write count is invalid")
  if value.specializedCommandCount ≠
      (value.rounds.map (·.specializedCommandCount)).foldl (· + ·) 0 then
    throw (.value "Coding review command count is invalid")

end CodingReview
end Ascos
