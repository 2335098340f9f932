import Ascos.ProjectManager.Manager

/-!
# The stored state of a project manager

A translation of `runtime/project_manager/storage.py`: the value that is written as JSON,
and the state that is built from it again.  What `json.dump` writes of a value without
tuples, `json.loads` reads back as it is.
-/

namespace Ascos
namespace ProjectManager

open Library
open Ascos.Runtime (Timestamp)

/-! ## Encoding of metadata -/

mutual

/-- `_encode` of a metadata value. -/
def Value.encode : Value → Value
  | .null => .null
  | .bool value => .bool value
  | .int value => .int value
  | .str value => .str value
  | .list items => .list (Value.encodeItems items)
  | .tuple items => .list (Value.encodeItems items)
  | .dict items => .dict (Value.encodeEntries items)

/-- `_encode` of the items of a list or a tuple. -/
def Value.encodeItems : List Value → List Value
  | [] => []
  | value :: rest => Value.encode value :: Value.encodeItems rest

/-- `_encode` of the items of a dictionary. -/
def Value.encodeEntries : Dict → Dict
  | [] => []
  | (key, value) :: rest => (key, Value.encode value) :: Value.encodeEntries rest

end

mutual

def Value.isPlain : Value → Bool
  | .null | .bool _ | .int _ | .str _ => true
  | .list items => Value.arePlain items
  | .tuple _ => false
  | .dict items => Value.haveOnlyPlain items

/-- The items have no tuple in them. -/
def Value.arePlain : List Value → Bool
  | [] => true
  | value :: rest => Value.isPlain value && Value.arePlain rest

/-- The values of a dictionary have no tuple in them. -/
def Value.haveOnlyPlain : Dict → Bool
  | [] => true
  | (_, value) :: rest => Value.isPlain value && Value.haveOnlyPlain rest

end

mutual

theorem Value.encode_eq_iff : ∀ value : Value, value.encode = value ↔ value.isPlain = true
  | .null => by simp [Value.encode, Value.isPlain]
  | .bool _ => by simp [Value.encode, Value.isPlain]
  | .int _ => by simp [Value.encode, Value.isPlain]
  | .str _ => by simp [Value.encode, Value.isPlain]
  | .list items => by simp [Value.encode, Value.isPlain, Value.encodeItems_eq_iff items]
  | .tuple _ => by simp [Value.encode, Value.isPlain]
  | .dict items => by simp [Value.encode, Value.isPlain, Value.encodeEntries_eq_iff items]

theorem Value.encodeItems_eq_iff :
    ∀ items : List Value, Value.encodeItems items = items ↔ Value.arePlain items = true
  | [] => by simp [Value.encodeItems, Value.arePlain]
  | value :: rest => by
    simp [Value.encodeItems, Value.arePlain, Value.encode_eq_iff value,
      Value.encodeItems_eq_iff rest]

theorem Value.encodeEntries_eq_iff :
    ∀ items : Dict, Value.encodeEntries items = items ↔ Value.haveOnlyPlain items = true
  | [] => by simp [Value.encodeEntries, Value.haveOnlyPlain]
  | (_, value) :: rest => by
    simp [Value.encodeEntries, Value.haveOnlyPlain, Value.encode_eq_iff value,
      Value.encodeEntries_eq_iff rest]

end

/-! ## Encoding of records -/

/-- The standard library's text form of an instant, and that it reads what it writes. -/
structure Clock where
  isoformat : Timestamp → String
  fromisoformat : String → Option Timestamp
  isoformat_ne : ∀ time, isoformat time ≠ ""
  fromisoformat_isoformat : ∀ time, fromisoformat (isoformat time) = some time

variable (clock : Clock)

/-- `_encode` of an instant. -/
def encodeTime (time : Timestamp) : Value :=
  .str (clock.isoformat time)

/-- `_encode` of a field that may be `None`. -/
def encodeOption {α : Type} (encode : α → Value) : Option α → Value
  | none => .null
  | some value => encode value

/-- `_encode` of a tuple of texts. -/
def encodeTexts (texts : List String) : Value :=
  .list (texts.map .str)

/-- `_encode(asdict(task))`. -/
def encodeTask (task : Task) : Value :=
  .dict
    [("task_id", .str task.taskId),
      ("title", .str task.title),
      ("description", encodeOption .str task.description),
      ("status", .str task.status.value),
      ("dependencies", encodeTexts task.dependencies),
      ("owner", encodeOption .str task.owner),
      ("estimated_effort", encodeOption .str task.estimatedEffort),
      ("actual_effort", encodeOption .str task.actualEffort),
      ("blocker_reason", encodeOption .str task.blockerReason),
      ("created_at", encodeTime clock task.createdAt),
      ("updated_at", encodeTime clock task.updatedAt),
      ("started_at", encodeOption (encodeTime clock) task.startedAt),
      ("completed_at", encodeOption (encodeTime clock) task.completedAt),
      ("metadata", .dict (Value.encodeEntries task.metadata))]

/-- `_encode(asdict(milestone))`. -/
def encodeMilestone (milestone : Milestone) : Value :=
  .dict
    [("milestone_id", .str milestone.milestoneId),
      ("title", .str milestone.title),
      ("goal", encodeOption .str milestone.goal),
      ("status", .str milestone.status.value),
      ("task_ids", encodeTexts milestone.taskIds),
      ("dependencies", encodeTexts milestone.dependencies),
      ("created_at", encodeTime clock milestone.createdAt),
      ("updated_at", encodeTime clock milestone.updatedAt),
      ("started_at", encodeOption (encodeTime clock) milestone.startedAt),
      ("completed_at", encodeOption (encodeTime clock) milestone.completedAt),
      ("metadata", .dict (Value.encodeEntries milestone.metadata))]

/-- `_encode(asdict(decision))`. -/
def encodeDecision (decision : Decision) : Value :=
  .dict
    [("decision_id", .str decision.decisionId),
      ("title", .str decision.title),
      ("rationale", .str decision.rationale),
      ("timestamp", encodeTime clock decision.timestamp),
      ("author", encodeOption .str decision.author),
      ("metadata", .dict (Value.encodeEntries decision.metadata))]

/-- `_encode(asdict(note))`. -/
def encodeNote (note : Note) : Value :=
  .dict
    [("note_id", .str note.noteId),
      ("content", .str note.content),
      ("timestamp", encodeTime clock note.timestamp),
      ("author", encodeOption .str note.author),
      ("metadata", .dict (Value.encodeEntries note.metadata))]

/-- `_encode(asdict(risk))`. -/
def encodeRisk (risk : Risk) : Value :=
  .dict
    [("risk_id", .str risk.riskId),
      ("title", .str risk.title),
      ("description", .str risk.description),
      ("severity", .str risk.severity.value),
      ("status", .str risk.status.value),
      ("mitigation", encodeOption .str risk.mitigation),
      ("timestamp", encodeTime clock risk.timestamp),
      ("metadata", .dict (Value.encodeEntries risk.metadata))]

/-- `_encode(asdict(state))`. -/
def encodeState (state : ProjectManagerState) : Value :=
  .dict
    [("project_id", .str state.projectId),
      ("schema_version", .int state.schemaVersion),
      ("status", .str state.status.value),
      ("milestones", .list (state.milestones.map (encodeMilestone clock))),
      ("tasks", .list (state.tasks.map (encodeTask clock))),
      ("active_milestone_id", encodeOption .str state.activeMilestoneId),
      ("decisions", .list (state.decisions.map (encodeDecision clock))),
      ("notes", .list (state.notes.map (encodeNote clock))),
      ("risks", .list (state.risks.map (encodeRisk clock))),
      ("created_at", encodeTime clock state.createdAt),
      ("updated_at", encodeTime clock state.updatedAt),
      ("metadata", .dict (Value.encodeEntries state.metadata))]

/-! ## Decoding -/

/-- `d[name]`; every exception of the decoding ends it. -/
def Value.field (value : Value) (name : String) : Option Value :=
  match value with
  | .dict items => (items.find? (·.1 = name)).map (·.2)
  | _ => none

def Value.asText : Value → Option String
  | .str value => some value
  | _ => none

def Value.asItems : Value → Option (List Value)
  | .list items => some items
  | _ => none

/-- The items of a dictionary. -/
def Value.asDict : Value → Option Dict
  | .dict items => some items
  | _ => none

/-- A field that may be `None`. -/
def Value.asOption {α : Type} (decode : Value → Option α) : Value → Option (Option α)
  | .null => some none
  | value => (decode value).map some

/-- `_dt` of a field that is an instant. -/
def decodeTime (value : Value) : Option Timestamp := do
  clock.fromisoformat (← value.asText)

/-- `_dt` of a field that may be `None`. -/
def decodeOptionalTime : Value → Option (Option Timestamp)
  | .null => some none
  | .str text => if text = "" then some none else (clock.fromisoformat text).map some
  | _ => none

/-- `tuple(texts)`. -/
def decodeTexts (value : Value) : Option (List String) := do
  (← value.asItems).mapM Value.asText

def member {α : Type} (members : List α) (value : α → String) (text : String) : Option α :=
  members.find? (value · = text)

/-- `TaskStatus(text)`. -/
def TaskStatus.ofValue : String → Option TaskStatus :=
  member [.todo, .inProgress, .done, .blocked, .skipped] TaskStatus.value

/-- `MilestoneStatus(text)`. -/
def MilestoneStatus.ofValue : String → Option MilestoneStatus :=
  member [.notStarted, .active, .completed, .blocked] MilestoneStatus.value

/-- `RiskSeverity(text)`. -/
def RiskSeverity.ofValue : String → Option RiskSeverity :=
  member [.low, .medium, .high, .critical] RiskSeverity.value

/-- `RiskStatus(text)`. -/
def RiskStatus.ofValue : String → Option RiskStatus :=
  member [.open, .mitigated, .closed] RiskStatus.value

/-- `ProjectManagementStatus(text)`. -/
def ProjectManagementStatus.ofValue : String → Option ProjectManagementStatus :=
  member [.planned, .active, .blocked, .completed] ProjectManagementStatus.value

/-- The task that `_state` makes of an item. -/
def decodeTask (item : Value) : Option Task := do
  let fields : TaskFields :=
    { taskId := ← (← item.field "task_id").asText
      title := ← (← item.field "title").asText
      description := ← (← item.field "description").asOption Value.asText
      status := ← TaskStatus.ofValue (← (← item.field "status").asText)
      dependencies := ← decodeTexts (← item.field "dependencies")
      owner := ← (← item.field "owner").asOption Value.asText
      estimatedEffort := ← (← item.field "estimated_effort").asOption Value.asText
      actualEffort := ← (← item.field "actual_effort").asOption Value.asText
      blockerReason := ← (← item.field "blocker_reason").asOption Value.asText
      createdAt := ← decodeTime clock (← item.field "created_at")
      updatedAt := ← decodeTime clock (← item.field "updated_at")
      startedAt := ← decodeOptionalTime clock (← item.field "started_at")
      completedAt := ← decodeOptionalTime clock (← item.field "completed_at")
      metadata := ← (← item.field "metadata").asDict }
  (Task.new fields).toOption

/-- The milestone that `_state` makes of an item. -/
def decodeMilestone (item : Value) : Option Milestone := do
  let fields : MilestoneFields :=
    { milestoneId := ← (← item.field "milestone_id").asText
      title := ← (← item.field "title").asText
      goal := ← (← item.field "goal").asOption Value.asText
      status := ← MilestoneStatus.ofValue (← (← item.field "status").asText)
      taskIds := ← decodeTexts (← item.field "task_ids")
      dependencies := ← decodeTexts (← item.field "dependencies")
      createdAt := ← decodeTime clock (← item.field "created_at")
      updatedAt := ← decodeTime clock (← item.field "updated_at")
      startedAt := ← decodeOptionalTime clock (← item.field "started_at")
      completedAt := ← decodeOptionalTime clock (← item.field "completed_at")
      metadata := ← (← item.field "metadata").asDict }
  (Milestone.new fields).toOption

/-- The decision that `_state` makes of an item. -/
def decodeDecision (item : Value) : Option Decision := do
  pure
    { decisionId := ← (← item.field "decision_id").asText
      title := ← (← item.field "title").asText
      rationale := ← (← item.field "rationale").asText
      timestamp := ← decodeTime clock (← item.field "timestamp")
      author := ← (← item.field "author").asOption Value.asText
      metadata := ← (← item.field "metadata").asDict }

/-- The note that `_state` makes of an item. -/
def decodeNote (item : Value) : Option Note := do
  pure
    { noteId := ← (← item.field "note_id").asText
      content := ← (← item.field "content").asText
      timestamp := ← decodeTime clock (← item.field "timestamp")
      author := ← (← item.field "author").asOption Value.asText
      metadata := ← (← item.field "metadata").asDict }

/-- The risk that `_state` makes of an item. -/
def decodeRisk (item : Value) : Option Risk := do
  pure
    { riskId := ← (← item.field "risk_id").asText
      title := ← (← item.field "title").asText
      description := ← (← item.field "description").asText
      severity := ← RiskSeverity.ofValue (← (← item.field "severity").asText)
      status := ← RiskStatus.ofValue (← (← item.field "status").asText)
      mitigation := ← (← item.field "mitigation").asOption Value.asText
      timestamp := ← decodeTime clock (← item.field "timestamp")
      metadata := ← (← item.field "metadata").asDict }

/-- `_state`, whose schema version has been checked. -/
def decodeState (schemaVersion : Nat) (data : Value) : Option ProjectManagerState := do
  pure
    { projectId := ← (← data.field "project_id").asText
      schemaVersion
      status := ← ProjectManagementStatus.ofValue (← (← data.field "status").asText)
      milestones := ← (← (← data.field "milestones").asItems).mapM (decodeMilestone clock)
      tasks := ← (← (← data.field "tasks").asItems).mapM (decodeTask clock)
      activeMilestoneId := ← (← data.field "active_milestone_id").asOption Value.asText
      decisions := ← (← (← data.field "decisions").asItems).mapM (decodeDecision clock)
      notes := ← (← (← data.field "notes").asItems).mapM (decodeNote clock)
      risks := ← (← (← data.field "risks").asItems).mapM (decodeRisk clock)
      createdAt := ← decodeTime clock (← data.field "created_at")
      updatedAt := ← decodeTime clock (← data.field "updated_at")
      metadata := ← (← data.field "metadata").asDict }

def schemaVersion : Nat := 1

/-- The error of a file that cannot be decoded. -/
def corrupt (path : String) : Error :=
  ⟨.managerStateCorruptError, "Manager state " ++ path ++ " cannot be safely loaded"⟩

/-- `ManagerStateStore.load` of a file that is there. -/
def loadState (path : String) (data : Value) : Except Error ProjectManagerState :=
  match data with
  | .dict items =>
    if (Value.dict items).field "schema_version" ≠ some (.int schemaVersion) then
      throw ⟨.unsupportedManagerSchemaError, "Unsupported manager schema"⟩
    else
      match decodeState clock schemaVersion (.dict items) with
      | some state => pure state
      | none => throw (corrupt path)
  | _ => throw (corrupt path)

/-! ## What is read back -/

def Task.encoded (task : Task) : Task :=
  ⟨{ task.toTaskFields with metadata := Value.encodeEntries task.metadata }, task.checked⟩

def Milestone.encoded (milestone : Milestone) : Milestone :=
  ⟨{ milestone.toMilestoneFields with metadata := Value.encodeEntries milestone.metadata },
    milestone.checked⟩

def ProjectManagerState.encoded (state : ProjectManagerState) : ProjectManagerState :=
  { state with
    milestones := state.milestones.map Milestone.encoded
    tasks := state.tasks.map Task.encoded
    decisions := state.decisions.map fun decision =>
      { decision with metadata := Value.encodeEntries decision.metadata }
    notes := state.notes.map fun note =>
      { note with metadata := Value.encodeEntries note.metadata }
    risks := state.risks.map fun risk =>
      { risk with metadata := Value.encodeEntries risk.metadata }
    metadata := Value.encodeEntries state.metadata }

section RoundTrip

variable {clock}

@[simp]
theorem field_dict_cons (name other : String) (value : Value) (items : Dict) :
    (Value.dict ((name, value) :: items)).field other =
      if name = other then some value else (Value.dict items).field other := by
  unfold Value.field
  by_cases h : name = other
  · simp [h]
  · simp [h]

@[simp]
theorem asOption_encodeOption_str (value : Option String) :
    (encodeOption .str value).asOption Value.asText = some value := by
  cases value <;> rfl

@[simp]
theorem decodeTime_encodeTime (time : Timestamp) :
    decodeTime clock (encodeTime clock time) = some time :=
  clock.fromisoformat_isoformat time

@[simp]
theorem decodeOptionalTime_encodeOption (time : Option Timestamp) :
    decodeOptionalTime clock (encodeOption (encodeTime clock) time) = some time := by
  cases time with
  | none => rfl
  | some time =>
    simp [encodeOption, encodeTime, decodeOptionalTime, clock.isoformat_ne,
      clock.fromisoformat_isoformat]

/-- A traversal of encoded items that decodes each of them. -/
theorem mapM_map_some {α β γ : Type} {encode : α → γ} {decode : γ → Option β} {result : α → β}
    (h : ∀ item, decode (encode item) = some (result item)) (items : List α) :
    (items.map encode).mapM decode = some (items.map result) := by
  induction items with
  | nil => rfl
  | cons item items ih =>
    rw [List.map_cons, List.mapM_cons, h, ih]
    rfl

@[simp]
theorem decodeTexts_encodeTexts (texts : List String) :
    decodeTexts (encodeTexts texts) = some texts := by
  have htext : ∀ text, Value.asText (.str text) = some (id text) := fun _ => rfl
  have hitems : (texts.map Value.str).mapM Value.asText = some (texts.map id) :=
    mapM_map_some htext texts
  simpa [decodeTexts, encodeTexts, Value.asItems] using hitems

@[simp]
theorem TaskStatus.ofValue_value (status : TaskStatus) : ofValue status.value = some status := by
  cases status <;> decide

@[simp]
theorem MilestoneStatus.ofValue_value (status : MilestoneStatus) :
    ofValue status.value = some status := by
  cases status <;> decide

@[simp]
theorem RiskSeverity.ofValue_value (severity : RiskSeverity) :
    ofValue severity.value = some severity := by
  cases severity <;> decide

@[simp]
theorem RiskStatus.ofValue_value (status : RiskStatus) : ofValue status.value = some status := by
  cases status <;> decide

@[simp]
theorem ProjectManagementStatus.ofValue_value (status : ProjectManagementStatus) :
    ofValue status.value = some status := by
  cases status <;> decide

theorem Task.new_of_postInit {fields : TaskFields} (h : fields.postInit = .ok ()) :
    Task.new fields = .ok ⟨fields, h⟩ := by
  unfold Task.new
  split
  · rfl
  · rename_i hfailed
    rw [h] at hfailed
    cases hfailed

theorem Milestone.new_of_postInit {fields : MilestoneFields} (h : fields.postInit = .ok ()) :
    Milestone.new fields = .ok ⟨fields, h⟩ := by
  unfold Milestone.new
  split
  · rfl
  · rename_i hfailed
    rw [h] at hfailed
    cases hfailed

theorem decodeTask_encodeTask (task : Task) :
    decodeTask clock (encodeTask clock task) = some task.encoded := by
  have hnew : Task.new task.encoded.toTaskFields = .ok task.encoded :=
    Task.new_of_postInit task.encoded.checked
  have hfields : decodeTask clock (encodeTask clock task) =
      (Task.new task.encoded.toTaskFields).toOption := by
    simp [decodeTask, encodeTask, Value.asText, Value.asDict, Task.encoded]
  rw [hfields, hnew]
  rfl

theorem decodeMilestone_encodeMilestone (milestone : Milestone) :
    decodeMilestone clock (encodeMilestone clock milestone) = some milestone.encoded := by
  have hnew : Milestone.new milestone.encoded.toMilestoneFields = .ok milestone.encoded :=
    Milestone.new_of_postInit milestone.encoded.checked
  have hfields : decodeMilestone clock (encodeMilestone clock milestone) =
      (Milestone.new milestone.encoded.toMilestoneFields).toOption := by
    simp [decodeMilestone, encodeMilestone, Value.asText, Value.asDict, Milestone.encoded]
  rw [hfields, hnew]
  rfl

theorem decodeDecision_encodeDecision (decision : Decision) :
    decodeDecision clock (encodeDecision clock decision) =
      some { decision with metadata := Value.encodeEntries decision.metadata } := by
  simp [decodeDecision, encodeDecision, Value.asText, Value.asDict]

theorem decodeNote_encodeNote (note : Note) :
    decodeNote clock (encodeNote clock note) =
      some { note with metadata := Value.encodeEntries note.metadata } := by
  simp [decodeNote, encodeNote, Value.asText, Value.asDict]

theorem decodeRisk_encodeRisk (risk : Risk) :
    decodeRisk clock (encodeRisk clock risk) =
      some { risk with metadata := Value.encodeEntries risk.metadata } := by
  simp [decodeRisk, encodeRisk, Value.asText, Value.asDict]

theorem decode_encode (state : ProjectManagerState) :
    decodeState clock state.schemaVersion (encodeState clock state) = some state.encoded := by
  have hmilestones : (state.milestones.map (encodeMilestone clock)).mapM (decodeMilestone clock) =
      some (state.milestones.map Milestone.encoded) :=
    mapM_map_some decodeMilestone_encodeMilestone state.milestones
  have htasks : (state.tasks.map (encodeTask clock)).mapM (decodeTask clock) =
      some (state.tasks.map Task.encoded) :=
    mapM_map_some decodeTask_encodeTask state.tasks
  have hdecisions : (state.decisions.map (encodeDecision clock)).mapM (decodeDecision clock) =
      some (state.decisions.map fun decision =>
        { decision with metadata := Value.encodeEntries decision.metadata }) :=
    mapM_map_some decodeDecision_encodeDecision state.decisions
  have hnotes : (state.notes.map (encodeNote clock)).mapM (decodeNote clock) =
      some (state.notes.map fun note =>
        { note with metadata := Value.encodeEntries note.metadata }) :=
    mapM_map_some decodeNote_encodeNote state.notes
  have hrisks : (state.risks.map (encodeRisk clock)).mapM (decodeRisk clock) =
      some (state.risks.map fun risk =>
        { risk with metadata := Value.encodeEntries risk.metadata }) :=
    mapM_map_some decodeRisk_encodeRisk state.risks
  simp [decodeState, encodeState, Value.asText, Value.asDict, Value.asItems, hmilestones, htasks,
    hdecisions, hnotes, hrisks, ProjectManagerState.encoded]

/-! ## States that are read back as they were -/

/-- No metadata of the state has a tuple in it. -/
structure ProjectManagerState.Plain (state : ProjectManagerState) : Prop where
  milestones : ∀ milestone ∈ state.milestones, Value.haveOnlyPlain milestone.metadata = true
  tasks : ∀ task ∈ state.tasks, Value.haveOnlyPlain task.metadata = true
  decisions : ∀ decision ∈ state.decisions, Value.haveOnlyPlain decision.metadata = true
  notes : ∀ note ∈ state.notes, Value.haveOnlyPlain note.metadata = true
  risks : ∀ risk ∈ state.risks, Value.haveOnlyPlain risk.metadata = true
  metadata : Value.haveOnlyPlain state.metadata = true

theorem map_eq_self_iff {α : Type} {f : α → α} {items : List α} :
    items.map f = items ↔ ∀ item ∈ items, f item = item := by
  induction items with
  | nil => simp
  | cons item items ih => simp [ih]

theorem Task.encoded_eq_iff {task : Task} :
    task.encoded = task ↔ Value.haveOnlyPlain task.metadata = true := by
  rw [← Value.encodeEntries_eq_iff]
  constructor
  · intro h
    exact congrArg (fun task : Task => task.metadata) h
  · intro h
    cases task
    simp_all [Task.encoded]

theorem Milestone.encoded_eq_iff {milestone : Milestone} :
    milestone.encoded = milestone ↔ Value.haveOnlyPlain milestone.metadata = true := by
  rw [← Value.encodeEntries_eq_iff]
  constructor
  · intro h
    exact congrArg (fun milestone : Milestone => milestone.metadata) h
  · intro h
    cases milestone
    simp_all [Milestone.encoded]

/-- The encoding leaves alone exactly the states without tuples in their metadata. -/
theorem encoded_eq_iff {state : ProjectManagerState} : state.encoded = state ↔ state.Plain := by
  have hparts : state.encoded = state ↔
      state.milestones.map Milestone.encoded = state.milestones ∧
      state.tasks.map Task.encoded = state.tasks ∧
      (state.decisions.map fun decision =>
        { decision with metadata := Value.encodeEntries decision.metadata }) = state.decisions ∧
      (state.notes.map fun note =>
        { note with metadata := Value.encodeEntries note.metadata }) = state.notes ∧
      (state.risks.map fun risk =>
        { risk with metadata := Value.encodeEntries risk.metadata }) = state.risks ∧
      Value.encodeEntries state.metadata = state.metadata := by
    cases state
    simp [ProjectManagerState.encoded]
  rw [hparts]
  simp only [map_eq_self_iff, Task.encoded_eq_iff, Milestone.encoded_eq_iff]
  constructor
  · rintro ⟨hmilestones, htasks, hdecisions, hnotes, hrisks, hmetadata⟩
    refine ⟨hmilestones, htasks, fun decision hmem => ?_, fun note hmem => ?_,
      fun risk hmem => ?_, (Value.encodeEntries_eq_iff _).mp hmetadata⟩
    · exact (Value.encodeEntries_eq_iff _).mp (congrArg Decision.metadata (hdecisions decision hmem))
    · exact (Value.encodeEntries_eq_iff _).mp (congrArg Note.metadata (hnotes note hmem))
    · exact (Value.encodeEntries_eq_iff _).mp (congrArg Risk.metadata (hrisks risk hmem))
  · intro hplain
    refine ⟨hplain.milestones, hplain.tasks, fun decision hmem => ?_, fun note hmem => ?_,
      fun risk hmem => ?_, (Value.encodeEntries_eq_iff _).mpr hplain.metadata⟩
    · rw [(Value.encodeEntries_eq_iff _).mpr (hplain.decisions decision hmem)]
    · rw [(Value.encodeEntries_eq_iff _).mpr (hplain.notes note hmem)]
    · rw [(Value.encodeEntries_eq_iff _).mpr (hplain.risks risk hmem)]

/-- A state is loaded as it was saved exactly when its metadata has no tuple in it. -/
theorem load_save_iff {state : ProjectManagerState} (path : String)
    (hversion : state.schemaVersion = schemaVersion) :
    loadState clock path (encodeState clock state) = .ok state ↔ state.Plain := by
  have hload : loadState clock path (encodeState clock state) = .ok state.encoded := by
    have hdecoded : decodeState clock state.schemaVersion (encodeState clock state) =
        some state.encoded := decode_encode state
    rw [hversion] at hdecoded
    unfold loadState
    simp only [encodeState] at hdecoded ⊢
    rw [if_neg (by simp [hversion]), hdecoded]
    rfl
  rw [hload, ← encoded_eq_iff]
  exact ⟨fun h => Except.ok.inj h, fun h => by rw [h]⟩

end RoundTrip

end ProjectManager
end Ascos
