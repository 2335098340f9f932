import Ascos.Library.Keyed
import Ascos.Runtime.Model

/-!
# Project-management state

The records of `runtime/project_manager/models.py` with the checks of their constructors,
and the errors of `errors.py`.  Every instant is in UTC.  A dictionary lists its items in
the order of their keys, so that two of them are equal exactly when their lists are.
-/

namespace Ascos
namespace ProjectManager

open Library
open Ascos.Runtime (Timestamp Message Fragment isBlank)

/-! ## Python values -/

/-- A value of a metadata dictionary. -/
inductive Value where
  | null
  | bool (value : Bool)
  | int (value : Int)
  | str (value : String)
  | list (items : List Value)
  | tuple (items : List Value)
  | dict (items : List (String × Value))

/-- `dict[str, Any]`. -/
abbrev Dict := List (String × Value)

mutual

/-- `==` of two values; a tuple is no list. -/
def Value.beq : Value → Value → Bool
  | .null, .null => true
  | .bool first, .bool second => first == second
  | .int first, .int second => first == second
  | .str first, .str second => first == second
  | .list first, .list second => Value.beqItems first second
  | .tuple first, .tuple second => Value.beqItems first second
  | .dict first, .dict second => Value.beqEntries first second
  | _, _ => false

/-- `==` of the items of two lists or tuples. -/
def Value.beqItems : List Value → List Value → Bool
  | [], [] => true
  | first :: rest, second :: others =>
      Value.beq first second && Value.beqItems rest others
  | _, _ => false

/-- `==` of the items of two dictionaries. -/
def Value.beqEntries : Dict → Dict → Bool
  | [], [] => true
  | (key, first) :: rest, (otherKey, second) :: others =>
      key == otherKey && Value.beq first second && Value.beqEntries rest others
  | _, _ => false

end

mutual

theorem Value.beq_iff : ∀ first second : Value, Value.beq first second = true ↔ first = second
  | .null, second => by cases second <;> simp [Value.beq]
  | .bool _, second => by cases second <;> simp [Value.beq]
  | .int _, second => by cases second <;> simp [Value.beq]
  | .str _, second => by cases second <;> simp [Value.beq]
  | .list items, second => by cases second <;> simp [Value.beq, Value.beqItems_iff items]
  | .tuple items, second => by cases second <;> simp [Value.beq, Value.beqItems_iff items]
  | .dict items, second => by cases second <;> simp [Value.beq, Value.beqEntries_iff items]

theorem Value.beqItems_iff :
    ∀ first second : List Value, Value.beqItems first second = true ↔ first = second
  | [], second => by cases second <;> simp [Value.beqItems]
  | value :: rest, second => by
      cases second <;> simp [Value.beqItems, Value.beq_iff value, Value.beqItems_iff rest]

theorem Value.beqEntries_iff :
    ∀ first second : Dict, Value.beqEntries first second = true ↔ first = second
  | [], second => by cases second <;> simp [Value.beqEntries]
  | (_, value) :: rest, second => by
    cases second <;>
      simp [Value.beqEntries, Value.beq_iff value, Value.beqEntries_iff rest, Prod.ext_iff]

end

instance : DecidableEq Value :=
  fun first second => decidable_of_iff _ (Value.beq_iff first second)

/-! ## Errors -/

/-- The exception classes that the operations raise, and any class of other code. -/
inductive ErrorClass where
  | validationError
  | projectManagerError
  | duplicateMilestoneError
  | unknownMilestoneError
  | duplicateTaskError
  | unknownTaskError
  | unknownDependencyError
  | invalidTaskTransitionError
  | invalidMilestoneTransitionError
  | unmetTaskDependenciesError
  | incompleteMilestoneError
  | managerStateCorruptError
  | unsupportedManagerSchemaError
  | other (name : String)
deriving DecidableEq

/-- A raised exception with its message. -/
structure Error where
  errorClass : ErrorClass
  message : Message
deriving DecidableEq

/-- `ValidationError(message)`. -/
def Error.validation (message : String) : Error :=
  ⟨.validationError, message⟩

/-- An error whose message shows one identifier. -/
def Error.about (errorClass : ErrorClass) (before identifier after : String) : Error :=
  ⟨errorClass, [.text before, .quoted identifier, .text after]⟩

/-- `repr` of a list of identifiers. -/
def showIds (identifiers : List String) : Message :=
  [Fragment.text "["] ++
    List.intercalate [Fragment.text ", "]
      (identifiers.map fun identifier => [Fragment.quoted identifier]) ++
    [Fragment.text "]"]

def validateRequiredString (value fieldName : String) : Except Error Unit :=
  if isBlank value = true then
    throw (.validation (fieldName ++ " must be a non-empty string"))
  else pure ()

/-! ## Tasks -/

inductive TaskStatus where
  | todo
  | inProgress
  | done
  | blocked
  | skipped
deriving DecidableEq

def TaskStatus.value : TaskStatus → String
  | .todo => "TODO"
  | .inProgress => "IN_PROGRESS"
  | .done => "DONE"
  | .blocked => "BLOCKED"
  | .skipped => "SKIPPED"

/-- The status is `DONE` or `SKIPPED`. -/
def TaskStatus.isFinished (status : TaskStatus) : Bool :=
  status ∈ [.done, .skipped]

/-- The fields of `Task`. -/
structure TaskFields where
  taskId : String
  title : String
  description : Option String := none
  status : TaskStatus := .todo
  dependencies : List String := []
  owner : Option String := none
  estimatedEffort : Option String := none
  actualEffort : Option String := none
  blockerReason : Option String := none
  createdAt : Timestamp
  updatedAt : Timestamp
  startedAt : Option Timestamp := none
  completedAt : Option Timestamp := none
  metadata : Dict := []
deriving DecidableEq

def TaskFields.postInit (task : TaskFields) : Except Error Unit := do
  validateRequiredString task.taskId "Task.task_id"
  validateRequiredString task.title "Task.title"
  if task.taskId ∈ task.dependencies then
    throw (.validation "A task cannot depend on itself")
  if ¬task.dependencies.Nodup then
    throw (.validation "Task dependencies must be unique")
  if task.status = .blocked ∧ (task.blockerReason = none ∨ task.blockerReason = some "") then
    throw (.validation "A blocked task requires a blocker reason")

structure Task extends TaskFields where
  checked : toTaskFields.postInit = .ok ()
deriving DecidableEq

/-- The constructor of `Task`, which `replace` calls again. -/
def Task.new (fields : TaskFields) : Except Error Task :=
  match h : fields.postInit with
  | .ok () => .ok ⟨fields, h⟩
  | .error error => .error error

/-! ## Milestones -/

inductive MilestoneStatus where
  | notStarted
  | active
  | completed
  | blocked
deriving DecidableEq

def MilestoneStatus.value : MilestoneStatus → String
  | .notStarted => "NOT_STARTED"
  | .active => "ACTIVE"
  | .completed => "COMPLETED"
  | .blocked => "BLOCKED"

/-- The fields of `Milestone`. -/
structure MilestoneFields where
  milestoneId : String
  title : String
  goal : Option String := none
  status : MilestoneStatus := .notStarted
  taskIds : List String := []
  dependencies : List String := []
  createdAt : Timestamp
  updatedAt : Timestamp
  startedAt : Option Timestamp := none
  completedAt : Option Timestamp := none
  metadata : Dict := []
deriving DecidableEq

def MilestoneFields.postInit (milestone : MilestoneFields) : Except Error Unit := do
  validateRequiredString milestone.milestoneId "Milestone.milestone_id"
  validateRequiredString milestone.title "Milestone.title"
  if milestone.milestoneId ∈ milestone.dependencies then
    throw (.validation "A milestone cannot depend on itself")
  if ¬milestone.taskIds.Nodup then
    throw (.validation "Milestone task IDs must be unique")
  if ¬milestone.dependencies.Nodup then
    throw (.validation "Milestone dependencies must be unique")

structure Milestone extends MilestoneFields where
  checked : toMilestoneFields.postInit = .ok ()
deriving DecidableEq

/-- The constructor of `Milestone`, which `replace` calls again. -/
def Milestone.new (fields : MilestoneFields) : Except Error Milestone :=
  match h : fields.postInit with
  | .ok () => .ok ⟨fields, h⟩
  | .error error => .error error

/-! ## Records -/

structure Decision where
  decisionId : String
  title : String
  rationale : String
  timestamp : Timestamp
  author : Option String := none
  metadata : Dict := []
deriving DecidableEq

structure Note where
  noteId : String
  content : String
  timestamp : Timestamp
  author : Option String := none
  metadata : Dict := []
deriving DecidableEq

inductive RiskSeverity where
  | low
  | medium
  | high
  | critical
deriving DecidableEq

def RiskSeverity.value : RiskSeverity → String
  | .low => "LOW"
  | .medium => "MEDIUM"
  | .high => "HIGH"
  | .critical => "CRITICAL"

inductive RiskStatus where
  | «open»
  | mitigated
  | closed
deriving DecidableEq

def RiskStatus.value : RiskStatus → String
  | .open => "OPEN"
  | .mitigated => "MITIGATED"
  | .closed => "CLOSED"

structure Risk where
  riskId : String
  title : String
  description : String
  severity : RiskSeverity
  status : RiskStatus := .open
  mitigation : Option String := none
  timestamp : Timestamp
  metadata : Dict := []
deriving DecidableEq

/-! ## State -/

inductive ProjectManagementStatus where
  | planned
  | active
  | blocked
  | completed
deriving DecidableEq

def ProjectManagementStatus.value : ProjectManagementStatus → String
  | .planned => "PLANNED"
  | .active => "ACTIVE"
  | .blocked => "BLOCKED"
  | .completed => "COMPLETED"

structure ProjectManagerState where
  projectId : String
  schemaVersion : Nat := 1
  status : ProjectManagementStatus := .planned
  milestones : List Milestone := []
  tasks : List Task := []
  activeMilestoneId : Option String := none
  decisions : List Decision := []
  notes : List Note := []
  risks : List Risk := []
  createdAt : Timestamp
  updatedAt : Timestamp
  metadata : Dict := []
deriving DecidableEq

def ProjectManagerState.task (state : ProjectManagerState) (taskId : String) :
    Except Error Task :=
  match Keyed.lookup (·.taskId) state.tasks taskId with
  | some task => pure task
  | none => throw (.about .unknownTaskError "Task " taskId " does not exist")

def ProjectManagerState.milestone (state : ProjectManagerState) (milestoneId : String) :
    Except Error Milestone :=
  match Keyed.lookup (·.milestoneId) state.milestones milestoneId with
  | some milestone => pure milestone
  | none => throw (.about .unknownMilestoneError "Milestone " milestoneId " does not exist")

def ProjectManagerState.withTask (state : ProjectManagerState) (task : Task) (now : Timestamp) :
    ProjectManagerState :=
  { state with tasks := Keyed.replaced (·.taskId) task state.tasks, updatedAt := now }

/-! ## Small facts -/

theorem Task.new_ok {fields : TaskFields} {task : Task} (h : Task.new fields = .ok task) :
    task.toTaskFields = fields := by
  unfold Task.new at h
  split at h
  · cases h
    rfl
  · cases h

theorem Milestone.new_ok {fields : MilestoneFields} {milestone : Milestone}
    (h : Milestone.new fields = .ok milestone) : milestone.toMilestoneFields = fields := by
  unfold Milestone.new at h
  split at h
  · cases h
    rfl
  · cases h

theorem task_ok_iff {state : ProjectManagerState} {taskId : String} {task : Task} :
    state.task taskId = .ok task ↔
      Keyed.lookup (·.taskId) state.tasks taskId = some task := by
  unfold ProjectManagerState.task
  split
  · rename_i found hfound
    rw [hfound]
    exact ⟨fun h => by cases h; rfl, fun h => by cases h; rfl⟩
  · rename_i hnone
    rw [hnone]
    exact ⟨fun h => (nomatch h), fun h => (nomatch h)⟩

theorem milestone_ok_iff {state : ProjectManagerState} {milestoneId : String}
    {milestone : Milestone} : state.milestone milestoneId = .ok milestone ↔
      Keyed.lookup (·.milestoneId) state.milestones milestoneId = some milestone := by
  unfold ProjectManagerState.milestone
  split
  · rename_i found hfound
    rw [hfound]
    exact ⟨fun h => by cases h; rfl, fun h => by cases h; rfl⟩
  · rename_i hnone
    rw [hnone]
    exact ⟨fun h => (nomatch h), fun h => (nomatch h)⟩

end ProjectManager
end Ascos
