import Ascos.Library.Checks
import Ascos.Library.Schedules
import Ascos.Runtime.Model

/-!
# Orchestration plans

The records of `runtime/workforce_orchestration/models.py` that a planning provider returns,
and `MultiAgentOrchestrationService._validate_draft`, which accepts or refuses them.

Main results:

- Theorem `acyclic_of_validateDraft`: the dependencies of an accepted plan have no cycle.
- Theorem `scheduled_of_validateDraft`: every node of an accepted plan is in exactly one
  working wave.
- Theorem `plan_executable_iff`: when an accepted plan can be executed.
-/

namespace Ascos
namespace Orchestration

open Library
open Ascos.Runtime (isSpace)

/-! ## Records -/

/-- `_IDENTIFIER`. -/
def isIdentifier (value : String) : Bool :=
  match value.toList with
  | [] => false
  | first :: rest =>
    first.isAlphanum && decide (rest.length ≤ 127) &&
      rest.all fun c => c.isAlphanum || decide (c ∈ ['_', '.', ':', '-'])

/-- `_DIGEST`. -/
def isDigest (value : String) : Bool :=
  decide (value.toList.length = 64) &&
    value.toList.all fun c => c.isDigit || decide (c ∈ ['a', 'b', 'c', 'd', 'e', 'f'])

/-- What `_text` accepts. -/
def isText (value : String) (maximum : Nat) : Bool :=
  decide (value ≠ "" ∧ value.toList.length ≤ maximum) &&
    !(value.toList.head?.any isSpace || value.toList.getLast?.any isSpace) &&
    value.toList.all fun c =>
      (decide (32 ≤ c.toNat) || decide (c = '\n') || decide (c = '\t')) && decide (c.toNat ≠ 127)

def identifier (value label : String) : Except String Unit :=
  if isIdentifier value = false then throw (label ++ " is invalid") else pure ()

def digest (value label : String) : Except String Unit :=
  if isDigest value = false then throw (label ++ " is invalid") else pure ()

def digests (values : List String) (label : String) (minimum maximum : Nat) :
    Except String Unit := do
  if values.length < minimum ∨ maximum < values.length then
    throw ("Orchestration " ++ label ++ " are invalid")
  values.forM fun value => digest value ("Orchestration " ++ label)
  if ¬values.Nodup then throw ("Orchestration " ++ label ++ " contain duplicates")

/-- `_items`, of identifiers or of texts. -/
def items (values : List String) (label : String) (minimum maximum itemMaximum : Nat)
    (identifiers : Bool) : Except String Unit := do
  if values.length < minimum ∨ maximum < values.length then
    throw ("Orchestration " ++ label ++ " are invalid")
  values.forM fun value =>
    if identifiers = true then identifier value label
    else if isText value itemMaximum = false then
      throw ("Orchestration " ++ label ++ " is invalid")
    else pure ()
  if ¬values.Nodup then throw ("Orchestration " ++ label ++ " contain duplicates")

structure SourceBinding where
  artifactId : String
  artifactDigest : String
  status : String
deriving DecidableEq

structure DependencyNode where
  nodeId : String
  dependencyNodeIds : List String
  sourceArtifactDigests : List String
deriving DecidableEq

def DependencyNode.postInit (node : DependencyNode) : Except String Unit := do
  identifier node.nodeId "dependency node ID"
  items node.dependencyNodeIds "dependency node dependencies" 0 10 128 true
  digests node.sourceArtifactDigests "dependency node sources" 1 11
  if node.nodeId ∈ node.dependencyNodeIds then throw "Dependency node state is invalid"

structure ParallelWave where
  waveId : String
  sequence : Int
  nodeIds : List String
  entryChecks : List String
  exitChecks : List String
  maxParallelism : Int
deriving DecidableEq

def ParallelWave.postInit (wave : ParallelWave) : Except String Unit := do
  identifier wave.waveId "parallel wave ID"
  if wave.sequence < 1 then throw "Parallel wave sequence is invalid"
  items wave.nodeIds "parallel wave nodes" 1 8 128 true
  items wave.entryChecks "parallel wave entry checks" 1 6 240 false
  items wave.exitChecks "parallel wave exit checks" 1 6 240 false
  if wave.maxParallelism < 1 ∨ wave.nodeIds.length < wave.maxParallelism then
    throw "Parallel wave state is invalid"

structure ContextPackage where
  contextId : String
  targetNodeId : String
  allowedSourceDigests : List String
  includedFields : List String
  excludedDataClasses : List String
  contextDigest : String
deriving DecidableEq

def ContextPackage.postInit (context : ContextPackage) : Except String Unit := do
  identifier context.contextId "context package ID"
  identifier context.targetNodeId "context target node ID"
  digests context.allowedSourceDigests "context sources" 1 11
  items context.includedFields "context included fields" 2 12 120 false
  items context.excludedDataClasses "context exclusions" 4 8 120 false
  digest context.contextDigest "context package digest"

structure HandoffRecord where
  handoffId : String
  sourceNodeIds : List String
  targetNodeIds : List String
  artifactDigests : List String
  acceptanceChecks : List String
deriving DecidableEq

def HandoffRecord.postInit (handoff : HandoffRecord) : Except String Unit := do
  identifier handoff.handoffId "handoff ID"
  items handoff.sourceNodeIds "handoff sources" 1 8 128 true
  items handoff.targetNodeIds "handoff targets" 1 8 128 true
  digests handoff.artifactDigests "handoff artifacts" 1 11
  items handoff.acceptanceChecks "handoff acceptance checks" 2 6 240 false
  if handoff.sourceNodeIds.any (· ∈ handoff.targetNodeIds) = true then
    throw "Handoff state is invalid"

structure ConflictRoute where
  conflictId : String
  participantNodeIds : List String
deriving DecidableEq

def ConflictRoute.postInit (conflict : ConflictRoute) : Except String Unit := do
  identifier conflict.conflictId "conflict ID"
  items conflict.participantNodeIds "conflict participants" 2 8 128 true

structure EscalationRecord where
  escalationId : String
  requiredEvidenceDigests : List String
deriving DecidableEq

def EscalationRecord.postInit (escalation : EscalationRecord) : Except String Unit := do
  identifier escalation.escalationId "escalation ID"
  digests escalation.requiredEvidenceDigests "escalation evidence" 1 11

structure OrchestrationDraft where
  dependencyNodes : List DependencyNode
  parallelWaves : List ParallelWave
  contextPackages : List ContextPackage
  handoffs : List HandoffRecord
  conflicts : List ConflictRoute
  escalations : List EscalationRecord

/-- `_typed`, after the constructors of the values. -/
def typed {α : Type} (postInit : α → Except String Unit) (values : List α) (label : String)
    (count : Nat) : Except String Unit := do
  values.forM postInit
  if values.length ≠ count then throw ("Orchestration " ++ label ++ " are invalid")

/-- The constructors of a draft and of its records. -/
def OrchestrationDraft.postInit (draft : OrchestrationDraft) : Except String Unit := do
  typed DependencyNode.postInit draft.dependencyNodes "dependency nodes" 11
  typed ParallelWave.postInit draft.parallelWaves "parallel waves" 9
  typed ContextPackage.postInit draft.contextPackages "context packages" 11
  typed HandoffRecord.postInit draft.handoffs "handoffs" 7
  typed ConflictRoute.postInit draft.conflicts "conflicts" 3
  typed EscalationRecord.postInit draft.escalations "escalations" 3

/-! ## Validation -/

/-- `set(values) <= set(allowed)`. -/
def within (values allowed : List String) : Bool :=
  values.all (· ∈ allowed)

/-- The loop over the nodes. -/
def validateNodes (sourceDigests : List String) (seen : List String) :
    List DependencyNode → Except String Unit
  | [] => pure ()
  | node :: nodes => do
    if within node.dependencyNodeIds seen = false then
      throw "Orchestration graph is not acyclic and ordered"
    if within node.sourceArtifactDigests sourceDigests = false then
      throw "Orchestration node crossed its source boundary"
    validateNodes sourceDigests (seen ++ [node.nodeId]) nodes

/-- The nodes of the working waves: all but the last one. -/
def OrchestrationDraft.workingWaves (draft : OrchestrationDraft) : List (List String) :=
  draft.parallelWaves.dropLast.map ParallelWave.nodeIds

def validateContext (nodes : List DependencyNode) (context : ContextPackage) :
    Except String Unit := do
  -- the last node with an identifier is the one that a dictionary keeps
  if (nodes.reverse.find? (·.nodeId = context.targetNodeId)).map
      DependencyNode.sourceArtifactDigests ≠ some context.allowedSourceDigests then
    throw "Orchestration context source boundary drifted"
  let excluded := ["credentials", "secrets", "raw customer data", "local paths"]
  if within context.excludedDataClasses excluded = false ∨
      within excluded context.excludedDataClasses = false then
    throw "Orchestration context exclusions are incomplete"

def validateHandoff (nodeIds sourceDigests : List String) (handoff : HandoffRecord) :
    Except String Unit := do
  if within (handoff.sourceNodeIds ++ handoff.targetNodeIds) nodeIds = false then
    throw "Orchestration handoff references an unknown node"
  if within handoff.artifactDigests sourceDigests = false then
    throw "Orchestration handoff crossed its source boundary"

/-- `_validate_draft`; of the authority it reads the limit of parallel work. -/
def validateDraft (draft : OrchestrationDraft) (bindings : List SourceBinding)
    (maxParallelWorkstreams : Int) : Except String Unit := do
  let sourceDigests := bindings.map SourceBinding.artifactDigest
  let nodeIds := draft.dependencyNodes.map DependencyNode.nodeId
  if ¬nodeIds.Nodup then throw "Orchestration dependency nodes are duplicated"
  validateNodes sourceDigests [] draft.dependencyNodes
  let waveNodes := draft.workingWaves.flatten
  if draft.parallelWaves.map ParallelWave.sequence ≠ [1, 2, 3, 4, 5, 6, 7, 8, 9] ∨
      ¬(within waveNodes nodeIds = true ∧ within nodeIds waveNodes = true) ∨
      waveNodes.length ≠ nodeIds.length ∨
      draft.parallelWaves.getLast?.map ParallelWave.nodeIds ≠ some ["node-human-review"] ∨
      draft.parallelWaves.any (fun wave => maxParallelWorkstreams < wave.maxParallelism) = true ∨
      draft.parallelWaves.all (fun wave => wave.maxParallelism < 2) = true then
    throw "Orchestration parallel-wave plan is invalid"
  if draft.contextPackages.map ContextPackage.targetNodeId ≠ nodeIds then
    throw "Orchestration context coverage is invalid"
  draft.contextPackages.forM (validateContext draft.dependencyNodes)
  draft.handoffs.forM (validateHandoff nodeIds sourceDigests)
  if draft.conflicts.any (fun item => !within item.participantNodeIds nodeIds) = true then
    throw "Orchestration conflict route is invalid"
  if draft.escalations.any (fun item =>
      !within item.requiredEvidenceDigests sourceDigests) = true then
    throw "Orchestration escalation evidence is invalid"

/-! ## Plans that can be executed -/

/-- A node names another one as a dependency. -/
def OrchestrationDraft.DependsOn (draft : OrchestrationDraft) (first second : String) : Prop :=
  ∃ node ∈ draft.dependencyNodes, node.nodeId = first ∧ second ∈ node.dependencyNodeIds

/-- The first node is in an earlier working wave than the second one. -/
def OrchestrationDraft.Before (draft : OrchestrationDraft) (first second : String) : Prop :=
  ∃ i j, Schedules.InWave draft.workingWaves i first ∧
    Schedules.InWave draft.workingWaves j second ∧ i < j

/-- The dependencies have no cycle, every node is in exactly one working wave, after its
dependencies, every context has its digest, and handoffs go to later waves. -/
structure OrchestrationDraft.Executable
    (contextDigest : String → List String → List String → String)
    (draft : OrchestrationDraft) : Prop where
  acyclic : ∀ nodeId, ¬Relation.TransGen draft.DependsOn nodeId nodeId
  scheduled : ∀ node ∈ draft.dependencyNodes,
    ∃! i, Schedules.InWave draft.workingWaves i node.nodeId
  dependencies : ∀ node ∈ draft.dependencyNodes, ∀ dependency ∈ node.dependencyNodeIds,
    draft.Before dependency node.nodeId
  contexts : ∀ context ∈ draft.contextPackages, context.contextDigest =
    contextDigest context.targetNodeId context.allowedSourceDigests context.includedFields
  handoffs : ∀ handoff ∈ draft.handoffs, ∀ source ∈ handoff.sourceNodeIds,
    ∀ target ∈ handoff.targetNodeIds, draft.Before source target

/-- The number of the first working wave that lists a node. -/
def OrchestrationDraft.waveOf (draft : OrchestrationDraft) (nodeId : String) : Nat :=
  Schedules.waveOf draft.workingWaves nodeId

/-- The three comparisons that the validation does not make: of the waves of nodes and their
dependencies, of the waves of handoffs, and of the digests of contexts. -/
structure OrchestrationDraft.Compared
    (contextDigest : String → List String → List String → String) (draft : OrchestrationDraft) :
    Prop where
  dependencies : ∀ node ∈ draft.dependencyNodes, ∀ dependency ∈ node.dependencyNodeIds,
    draft.waveOf dependency < draft.waveOf node.nodeId
  handoffs : ∀ handoff ∈ draft.handoffs, ∀ source ∈ handoff.sourceNodeIds,
    ∀ target ∈ handoff.targetNodeIds, draft.waveOf source < draft.waveOf target
  contexts : ∀ context ∈ draft.contextPackages, context.contextDigest =
    contextDigest context.targetNodeId context.allowedSourceDigests context.includedFields

section Validation

variable {draft : OrchestrationDraft} {bindings : List SourceBinding} {limit : Int}
  {sourceDigests seen values allowed : List String} {nodes : List DependencyNode}

theorem within_eq_true_iff : within values allowed = true ↔ ∀ value ∈ values, value ∈ allowed := by
  simp [within]

theorem earlier_of_validateNodes (h : validateNodes sourceDigests seen nodes = .ok ()) :
    ∀ (before after : List DependencyNode) (node : DependencyNode),
      nodes = before ++ node :: after → ∀ dependency ∈ node.dependencyNodeIds,
        dependency ∈ seen ++ before.map DependencyNode.nodeId := by
  induction nodes generalizing seen with
  | nil => intro before after node hnodes; simp at hnodes
  | cons first nodes ih =>
    unfold validateNodes at h
    obtain ⟨hseen, h⟩ := Checks.guard_bind_ok_iff.mp h
    obtain ⟨-, h⟩ := Checks.guard_bind_ok_iff.mp h
    rw [Bool.not_eq_false, within_eq_true_iff] at hseen
    intro before after node hnodes dependency hdependency
    cases before with
    | nil =>
        obtain ⟨rfl, -⟩ := List.cons.inj hnodes
        rw [List.map_nil, List.append_nil]
        exact hseen dependency hdependency
    | cons other before =>
        obtain ⟨rfl, hrest⟩ := List.cons.inj hnodes
        have hmem := ih h before after node hrest dependency hdependency
        rw [List.append_assoc] at hmem
        exact hmem

/-- What an accepted plan has passed. -/
structure OrchestrationDraft.Accepted (draft : OrchestrationDraft) : Prop where
  distinct : (draft.dependencyNodes.map DependencyNode.nodeId).Nodup
  earlier : ∀ (before after : List DependencyNode) (node : DependencyNode),
    draft.dependencyNodes = before ++ node :: after → ∀ dependency ∈ node.dependencyNodeIds,
      dependency ∈ before.map DependencyNode.nodeId
  listed : ∀ nodeId ∈ draft.dependencyNodes.map DependencyNode.nodeId,
    nodeId ∈ draft.workingWaves.flatten
  length : draft.workingWaves.flatten.length =
    (draft.dependencyNodes.map DependencyNode.nodeId).length
  handoffs : ∀ handoff ∈ draft.handoffs,
    ∀ nodeId ∈ handoff.sourceNodeIds ++ handoff.targetNodeIds,
      nodeId ∈ draft.dependencyNodes.map DependencyNode.nodeId

theorem accepted_of_validateDraft (h : validateDraft draft bindings limit = .ok ()) :
    draft.Accepted := by
  unfold validateDraft at h
  obtain ⟨hdistinct, h⟩ := Checks.guard_bind_ok_iff.mp h
  obtain ⟨hnodes, h⟩ := Checks.check_ok_iff.mp h
  obtain ⟨hwaves, h⟩ := Checks.guard_bind_ok_iff.mp h
  obtain ⟨-, h⟩ := Checks.guard_bind_ok_iff.mp h
  obtain ⟨-, h⟩ := Checks.check_ok_iff.mp h
  obtain ⟨hhandoffs, -⟩ := Checks.check_ok_iff.mp h
  simp only [not_or, not_not] at hwaves hdistinct
  obtain ⟨-, hcovers, hlength, -⟩ := hwaves
  refine ⟨hdistinct, earlier_of_validateNodes hnodes, within_eq_true_iff.mp hcovers.2, hlength, ?_⟩
  intro handoff hhandoff
  have hcheck := Checks.forM_ok_iff.mp hhandoffs handoff hhandoff
  unfold validateHandoff at hcheck
  obtain ⟨hknown, -⟩ := Checks.guard_bind_ok_iff.mp hcheck
  rw [Bool.not_eq_false] at hknown
  exact within_eq_true_iff.mp hknown

section Plans

variable (h : draft.Accepted)
include h

theorem OrchestrationDraft.Accepted.nodup : draft.workingWaves.flatten.Nodup :=
  Schedules.nodup_of_covers h.distinct h.listed h.length

/-- A dependency stands before the node that names it. -/
theorem OrchestrationDraft.Accepted.idxOf_lt {first second : String}
    (hdepends : draft.DependsOn first second) :
    (draft.dependencyNodes.map DependencyNode.nodeId).idxOf second <
      (draft.dependencyNodes.map DependencyNode.nodeId).idxOf first := by
  obtain ⟨node, hnode, rfl, hmem⟩ := hdepends
  obtain ⟨before, after, hsplit⟩ := List.append_of_mem hnode
  have hbefore := h.earlier before after node hsplit second hmem
  have hdistinct := h.distinct
  rw [hsplit, List.map_append, List.map_cons] at hdistinct ⊢
  have hnot : node.nodeId ∉ before.map DependencyNode.nodeId := by
    intro hin
    exact (List.nodup_append.mp hdistinct).2.2 _ hin _ List.mem_cons_self rfl
  rw [List.idxOf_append_of_mem hbefore, List.idxOf_append_of_notMem hnot]
  exact Nat.lt_of_lt_of_le (List.idxOf_lt_length_iff.mpr hbefore) (Nat.le_add_right _ _)

theorem OrchestrationDraft.Accepted.dependency_mem {node : DependencyNode}
    (hnode : node ∈ draft.dependencyNodes) {dependency : String}
    (hdependency : dependency ∈ node.dependencyNodeIds) :
    dependency ∈ draft.dependencyNodes.map DependencyNode.nodeId := by
  obtain ⟨before, after, hsplit⟩ := List.append_of_mem hnode
  have hbefore := h.earlier before after node hsplit dependency hdependency
  rw [hsplit, List.map_append]
  exact List.mem_append_left _ hbefore

theorem OrchestrationDraft.Accepted.before_iff {first second : String}
    (hfirst : first ∈ draft.dependencyNodes.map DependencyNode.nodeId)
    (hsecond : second ∈ draft.dependencyNodes.map DependencyNode.nodeId) :
    draft.Before first second ↔ draft.waveOf first < draft.waveOf second := by
  constructor
  · rintro ⟨i, j, hi, hj, hlt⟩
    unfold OrchestrationDraft.waveOf
    rwa [Schedules.waveOf_eq h.nodup hi, Schedules.waveOf_eq h.nodup hj]
  · intro hlt
    obtain ⟨i, hi⟩ := Schedules.exists_inWave (h.listed first hfirst)
    obtain ⟨j, hj⟩ := Schedules.exists_inWave (h.listed second hsecond)
    unfold OrchestrationDraft.waveOf at hlt
    rw [Schedules.waveOf_eq h.nodup hi, Schedules.waveOf_eq h.nodup hj] at hlt
    exact ⟨i, j, hi, hj, hlt⟩

end Plans

/-- The dependencies of an accepted plan have no cycle. -/
theorem acyclic_of_validateDraft (h : validateDraft draft bindings limit = .ok ())
    (nodeId : String) : ¬Relation.TransGen draft.DependsOn nodeId nodeId :=
  Schedules.acyclic_of_rank _
    (fun _ _ hdepends => (accepted_of_validateDraft h).idxOf_lt hdepends) nodeId

/-- Every node of an accepted plan is in exactly one working wave. -/
theorem scheduled_of_validateDraft (h : validateDraft draft bindings limit = .ok ())
    {node : DependencyNode} (hnode : node ∈ draft.dependencyNodes) :
    ∃! i, Schedules.InWave draft.workingWaves i node.nodeId := by
  have haccepted := accepted_of_validateDraft h
  exact Schedules.existsUnique_wave haccepted.nodup
    (haccepted.listed node.nodeId (List.mem_map_of_mem hnode))

end Validation

/-- An accepted plan can be executed exactly when the waves go with its dependencies and its
handoffs, and the digests of its contexts are right. -/
theorem plan_executable_iff (contextDigest : String → List String → List String → String)
    (draft : OrchestrationDraft) (bindings : List SourceBinding) (maxParallelWorkstreams : Int)
    (h : validateDraft draft bindings maxParallelWorkstreams = .ok ()) :
    draft.Executable contextDigest ↔ draft.Compared contextDigest := by
  have haccepted := accepted_of_validateDraft h
  have hdependency : ∀ node ∈ draft.dependencyNodes, ∀ dependency ∈ node.dependencyNodeIds,
      (draft.Before dependency node.nodeId ↔
        draft.waveOf dependency < draft.waveOf node.nodeId) := fun node hnode dependency hmem =>
    haccepted.before_iff (haccepted.dependency_mem hnode hmem) (List.mem_map_of_mem hnode)
  have hhandoff : ∀ handoff ∈ draft.handoffs, ∀ source ∈ handoff.sourceNodeIds,
      ∀ target ∈ handoff.targetNodeIds, (draft.Before source target ↔
        draft.waveOf source < draft.waveOf target) := fun handoff hhandoff source hs target ht =>
    haccepted.before_iff (haccepted.handoffs handoff hhandoff source (List.mem_append_left _ hs))
      (haccepted.handoffs handoff hhandoff target (List.mem_append_right _ ht))
  constructor
  · intro hexecutable
    exact ⟨fun node hnode dependency hmem => (hdependency node hnode dependency hmem).mp
        (hexecutable.dependencies node hnode dependency hmem),
      fun handoff hmem source hs target ht => (hhandoff handoff hmem source hs target ht).mp
        (hexecutable.handoffs handoff hmem source hs target ht), hexecutable.contexts⟩
  · intro hcompared
    exact ⟨acyclic_of_validateDraft h, fun node hnode => scheduled_of_validateDraft h hnode,
      fun node hnode dependency hmem => (hdependency node hnode dependency hmem).mpr
        (hcompared.dependencies node hnode dependency hmem), hcompared.contexts,
      fun handoff hmem source hs target ht => (hhandoff handoff hmem source hs target ht).mpr
        (hcompared.handoffs handoff hmem source hs target ht)⟩

/-! ## Two plans -/

def sampleDigest (c : Char) : String :=
  String.ofList (List.replicate 64 c)

def sampleNode (nodeId : String) (dependencies : List String) : DependencyNode :=
  { nodeId := nodeId, dependencyNodeIds := dependencies,
    sourceArtifactDigests := [sampleDigest 'a'] }

def sampleWave (sequence : Nat) (nodeIds : List String) (maxParallelism : Int) : ParallelWave :=
  { waveId := "wave", sequence := sequence, nodeIds := nodeIds, entryChecks := ["Entry"],
    exitChecks := ["Exit"], maxParallelism := maxParallelism }

/-- Eleven nodes, of which all but the first depend on the first. -/
def sampleNodes : List DependencyNode :=
  sampleNode "ceo" [] ::
    ["pm", "arch", "back", "front", "ai", "data", "qa", "sec", "ops", "docs"].map
      fun nodeId => sampleNode nodeId ["ceo"]

/-- A plan with the given first two waves. -/
def samplePlan (first second : List String) : OrchestrationDraft where
  dependencyNodes := sampleNodes
  parallelWaves :=
    [sampleWave 1 first 1, sampleWave 2 second 1, sampleWave 3 ["arch"] 1,
      sampleWave 4 ["back", "front", "ai", "data"] 4, sampleWave 5 ["qa"] 1,
      sampleWave 6 ["sec"] 1, sampleWave 7 ["ops"] 1, sampleWave 8 ["docs"] 1,
      sampleWave 9 ["node-human-review"] 1]
  contextPackages := sampleNodes.map fun node =>
    { contextId := "context", targetNodeId := node.nodeId,
      allowedSourceDigests := node.sourceArtifactDigests,
      includedFields := ["artifact_id", "status"],
      excludedDataClasses := ["credentials", "secrets", "raw customer data", "local paths"],
      contextDigest := sampleDigest '0' }
  handoffs := List.replicate 7
    { handoffId := "handoff", sourceNodeIds := ["arch"], targetNodeIds := ["qa"],
      artifactDigests := [sampleDigest 'a'], acceptanceChecks := ["First", "Second"] }
  conflicts := List.replicate 3 { conflictId := "conflict", participantNodeIds := ["qa", "sec"] }
  escalations := List.replicate 3
    { escalationId := "escalation", requiredEvidenceDigests := [sampleDigest 'a'] }

def sampleBindings : List SourceBinding :=
  [⟨"artifact", sampleDigest 'a', "DRAFT"⟩]

theorem validateDraft_inOrder :
    validateDraft (samplePlan ["ceo"] ["pm"]) sampleBindings 4 = .ok () := by
  decide +kernel

theorem plan_executable_inOrder :
    validateDraft (samplePlan ["ceo"] ["pm"]) sampleBindings 4 = .ok () ∧
      ((samplePlan ["ceo"] ["pm"]).Executable (fun _ _ _ => sampleDigest '0') ↔
        (samplePlan ["ceo"] ["pm"]).Compared fun _ _ _ => sampleDigest '0') :=
  ⟨validateDraft_inOrder, plan_executable_iff _ _ sampleBindings 4 validateDraft_inOrder⟩

/-- A plan is accepted in which a node is in the wave before the one that it depends on. -/
theorem not_plan_executable :
    ¬∀ (contextDigest : String → List String → List String → String)
      (draft : OrchestrationDraft) (bindings : List SourceBinding) (limit : Int),
      draft.postInit = .ok () → validateDraft draft bindings limit = .ok () →
        draft.Executable contextDigest := by
  intro h
  have hexecutable := h (fun _ _ _ => sampleDigest '0') (samplePlan ["pm"] ["ceo"])
    sampleBindings 4 (by decide +kernel) (by decide +kernel)
  obtain ⟨i, j, hi, hj, hlt⟩ := hexecutable.dependencies (sampleNode "pm" ["ceo"])
    (by decide +kernel) "ceo" (by decide)
  have hnodup : (samplePlan ["pm"] ["ceo"]).workingWaves.flatten.Nodup := by decide +kernel
  have hone : i = 1 := Schedules.inWave_inj hnodup hi ⟨["ceo"], by rfl, by decide⟩
  have hzero : j = 0 := Schedules.inWave_inj hnodup hj ⟨["pm"], by rfl, by decide⟩
  rw [hone, hzero] at hlt
  exact absurd hlt (by decide)

end Orchestration
end Ascos
