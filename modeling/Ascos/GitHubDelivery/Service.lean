import Ascos.GitHubDelivery.Model
import Ascos.Library.Interruption

/-!
# Delivering reviewed files

The provider of `runtime/github_delivery/provider.py` and the service of
`service.py`, over a workspace whose files other parties edit between any two commands.
A command may fail, and one that changes something may have changed it all the same.
-/

namespace Ascos
namespace GitHubDelivery

open Ascos.Library
open Ascos.Runtime (Timestamp)

/-! ## Workspaces -/

/-- The bytes of a file. -/
abbrev Content := List UInt8

/-- What is at a path of a working tree. -/
structure File where
  content : Content
  /-- It is a regular file and no link. -/
  regular : Bool := true
deriving DecidableEq

/-- A clone of a repository: its working tree, its index and its branches. -/
structure Workspace where
  files : Table String File
  index : Library.Tree Content
  branches : Table String (Commit Content)
  branch : String
  remoteUrl : String
  /-- The executable or credential configuration. -/
  unsafeConfig : String := ""

/-- The commit of the current branch. -/
def Workspace.head (workspace : Workspace) : Option (Commit Content) :=
  workspace.branches.load workspace.branch

/-- The state of the source repository, as the service compares it. -/
structure SourceSnapshot where
  branch : String
  head : String
  tree : String
  status : String
  remote : String
deriving DecidableEq

/-! ## The world -/

/-- The effects of a delivery. -/
inductive Event where
  /-- The reviewed files were staged from this working tree. -/
  | staged (order : GitHubDeliveryWorkOrder) (files : Table String File)
  | committed (order : GitHubDeliveryWorkOrder) (commit : Commit Content)
  | pushed (order : GitHubDeliveryWorkOrder) (commit : Commit Content)
  | created (order : GitHubDeliveryWorkOrder)

/-- The tenant and the execution that an artifact is kept for. -/
structure Key where
  tenantId : String
  executionId : String
deriving DecidableEq

/-- The workspace, the remote branches, the artifacts, how many commands were run, and the
effects, the latest first. -/
structure World where
  workspace : Workspace
  remote : Table String (Commit Content)
  artifacts : Table Key GitHubDeliveryArtifact
  steps : Nat
  log : List Event

/-- A command that fails: it returns an exit code, or the call of it raises; and it may have
had its effect. -/
structure Fault where
  raised : Option Error := none
  applied : Bool := false

/-- What the service and the provider are built with, and what the others do and answer at each
step. -/
structure Environment where
  setting : Setting
  contentDigest : Content → String
  commitSha : Commit Content → String
  treeSha : Library.Tree Content → String
  /-- What `git add` puts into the index for a path of a working tree. -/
  clean : Table String File → String → Content
  /-- The path is ignored. -/
  ignored : String → Bool
  reviews : Key → Except Error CodingReviewArtifact
  edits : Nat → List (String × Option File)
  faults : Nat → Option Fault
  sources : Nat → Except Error SourceSnapshot
  found : Nat → Except Error (Option DraftPullRequestReceipt)
  receipts : Nat → Except Error DraftPullRequestReceipt
  clock : Nat → Timestamp

variable (env : Environment)

/-- A working tree after some edits. -/
def edited (edits : List (String × Option File)) (files : Table String File) :
    Table String File :=
  edits.foldl (fun files edit =>
    match edit.2 with
    | none => files.erase edit.1
    | some file => files.save edit.1 file) files

/-- The world as a command finds it: other parties have edited files since the last one. -/
def World.disturbed (world : World) : World :=
  { world with
    workspace :=
      { world.workspace with files := edited (env.edits world.steps) world.workspace.files }
    steps := world.steps + 1 }

/-- The calls of the package. -/
abbrev Delivery (α : Type) :=
  Procedure World Error α

/-- The raise of an exception. -/
def fail {α : Type} (errorClass : ErrorClass) (message : String) : Delivery α :=
  .raise ⟨errorClass, message⟩

/-- A look at the world; what is looked at may answer with an error. -/
def look {α : Type} (answer : World → Except Error α) : Delivery α :=
  .step (·.disturbed env) fun world => .done (answer (world.disturbed env))

/-- A Git command that reads. -/
def inspect {α : Type} (onExit : Error) (answer : World → Except Error α) : Delivery α :=
  .step (·.disturbed env) fun world => .done
    (match env.faults world.steps with
    | some fault => .error (fault.raised.getD onExit)
    | none => answer (world.disturbed env))

/-- What a Git command that writes leaves. -/
def affected (effect : World → Except Error World) (world : World) : World :=
  let found := world.disturbed env
  match env.faults world.steps with
  | some fault => if fault.applied = true then ((effect found).toOption).getD found else found
  | none => ((effect found).toOption).getD found

/-- A Git command that writes. -/
def affect (onExit : Error) (effect : World → Except Error World) : Delivery Unit :=
  .step (affected env effect) fun world => .done
    (match env.faults world.steps with
    | some fault => .error (fault.raised.getD onExit)
    | none => (effect (world.disturbed env)).map fun _ => ())

/-! ## What Git answers -/

/-- The message of a command of the service that fails. -/
def inspectionFailed : Error :=
  ⟨.policyError, "Bounded GitHub delivery inspection failed"⟩

/-- The message of a local command of the provider that fails. -/
def localFailed : Error :=
  ⟨.policyError, "A bounded local Git operation failed"⟩

/-- The message of a remote command of the provider that fails. -/
def remoteFailed : Error :=
  ⟨.reconciliationRequired, "A controlled remote Git operation failed"⟩

def required {α : Type} (error : Error) : Option α → Except Error α
  | none => .error error
  | some value => .ok value

/-- `git rev-parse HEAD`. -/
def revParseHead (onExit : Error) (world : World) : Except Error String :=
  (required onExit world.workspace.head).map env.commitSha

/-- `git rev-parse HEAD^`. -/
def revParseParent (onExit : Error) (world : World) : Except Error String :=
  (required onExit (world.workspace.head.bind (·.parent))).map env.commitSha

/-- `git rev-parse HEAD^{tree}`. -/
def revParseTree (onExit : Error) (world : World) : Except Error String :=
  (required onExit world.workspace.head).map fun commit => env.treeSha commit.tree

/-- The tree of the current commit. -/
def Workspace.headTree (workspace : Workspace) : Library.Tree Content :=
  workspace.head.elim [] (·.tree)

/-- `git diff --cached --name-only`. -/
def cachedNames (world : World) : List String :=
  Library.Tree.changes world.workspace.headTree world.workspace.index

/-- `git diff-tree --name-only HEAD`, which shows nothing for a first commit. -/
def diffTree (onExit : Error) (world : World) : Except Error (List String) :=
  (required onExit world.workspace.head).map fun commit =>
    commit.parent.elim [] fun parent => Library.Tree.changes parent.tree commit.tree

/-- The two letters of `git status --porcelain` for a path. -/
def statusCode (workspace : Workspace) (path : String) : Char × Char :=
  let staged := match workspace.headTree.load path, workspace.index.load path with
    | none, some _ => 'A'
    | some _, none => 'D'
    | some old, some new => if old = new then ' ' else 'M'
    | none, none => ' '
  match workspace.index.load path, workspace.files.load path with
  | some _, none => (staged, 'D')
  | some content, some _ =>
    (staged, if env.clean workspace.files path = content then ' ' else 'M')
  | none, some _ =>
    if staged = ' ' then (if env.ignored path = true then (' ', ' ') else ('?', '?'))
    else (staged, ' ')
  | none, none => (staged, ' ')

/-- `git status --porcelain=v1`: the paths that differ from the current commit. -/
def status (world : World) : List ((Char × Char) × String) :=
  let workspace := world.workspace
  let paths := (workspace.headTree.map (·.1) ++ workspace.index.map (·.1) ++
    workspace.files.map (·.1)).dedup.insertionSort (· ≤ ·)
  (paths.map fun path => (statusCode env workspace path, path)).filter (·.1 ≠ (' ', ' '))

def statusPaths (entries : List ((Char × Char) × String)) : Except Error (List String) :=
  if entries.any fun entry => [entry.1.1, entry.1.2].any (· ∈ ['R', 'C', 'D', 'U']) then
    throw ⟨.policyError, "GitHub delivery deletion or rename is forbidden"⟩
  else pure ((entries.map (·.2)).insertionSort (· ≤ ·))

/-! ## What Git does -/

/-- The index after `git add` of one path. -/
def addPath (workspace : Workspace) (path : String) : Except Error Workspace :=
  match workspace.files.load path, workspace.index.load path with
  | some _, none =>
    if env.ignored path = true then .error localFailed
    else .ok { workspace with
      index := workspace.index.save path (env.clean workspace.files path) }
  | some _, some _ => .ok { workspace with
      index := workspace.index.save path (env.clean workspace.files path) }
  | none, some _ => .ok { workspace with index := workspace.index.erase path }
  | none, none => .error localFailed

/-- `git add --`. -/
def add (order : GitHubDeliveryWorkOrder) (world : World) : Except Error World := do
  let workspace ← order.reviewedPaths.foldlM (addPath env) world.workspace
  pure { world with
    workspace := workspace
    log := .staged order world.workspace.files :: world.log }

/-- `git commit -m`. -/
def commit (order : GitHubDeliveryWorkOrder) (world : World) : Except Error World :=
  match world.workspace.head with
  | none => .error localFailed
  | some head =>
    if Library.Tree.changes head.tree world.workspace.index = [] then .error localFailed
    else
      let made := Commit.child head world.workspace.index order.commitMessage world.steps
      .ok { world with
        workspace :=
          { world.workspace with
            branches := world.workspace.branches.save world.workspace.branch made }
        log := .committed order made :: world.log }

/-- `git push` of the feature branch. -/
def push (order : GitHubDeliveryWorkOrder) (world : World) : Except Error World :=
  match world.workspace.branches.load order.featureBranch with
  | none => .error remoteFailed
  | some made => .ok { world with
      remote := world.remote.save order.featureBranch made
      log := .pushed order made :: world.log }

/-- `git ls-remote --heads`. -/
def remoteHead (order : GitHubDeliveryWorkOrder) (world : World) : Except Error (Option String) :=
  .ok ((world.remote.load order.featureBranch).map env.commitSha)

/-! ## The provider -/

/-- The Git commands of a delivery that gets to its end. -/
def gitCommandCount : Nat :=
  10

/-- Its calls over the network: two lookups of the remote branch, the push, and the lookup and
the creation of the pull request. -/
def controlledNetworkCallCount : Nat :=
  5

/-- `gateway.create`. -/
def createPullRequest (order : GitHubDeliveryWorkOrder) : Delivery DraftPullRequestReceipt :=
  .step (fun world =>
      { world.disturbed env with log := .created order :: (world.disturbed env).log })
    fun world => .done (env.receipts world.steps)

/-- What the effects of a delivery report. -/
structure Effects where
  staged : List String
  commitSha : String
  commitParent : String
  commitTree : String
  committedPaths : List String
  remoteAfter : Option String
  receipt : DraftPullRequestReceipt

/-- The part of `deliver` from the first effect on. -/
def mutate (order : GitHubDeliveryWorkOrder) : Delivery Effects := do
  affect env localFailed (add env order)
  let staged ← inspect env localFailed fun world => .ok (cachedNames world)
  if staged ≠ order.reviewedPaths then
    fail .reconciliationRequired "The Git index does not contain the exact reviewed paths"
  else
    affect env localFailed (commit order)
    let commitSha ← inspect env localFailed (revParseHead env localFailed)
    let commitParent ← inspect env localFailed (revParseParent env localFailed)
    let commitTree ← inspect env localFailed (revParseTree env localFailed)
    let committedPaths ← inspect env localFailed (diffTree localFailed)
    if commitParent ≠ order.baseCommit ∨ committedPaths ≠ staged then
      fail .reconciliationRequired
        "The created commit is not the exact reviewed single-parent commit"
    else
      affect env remoteFailed (push order)
      let remoteAfter ← inspect env remoteFailed (remoteHead env order)
      if remoteAfter ≠ some commitSha then
        fail .reconciliationRequired "The remote feature branch does not match the reviewed commit"
      else
        let receipt ← createPullRequest env order
        pure ⟨staged, commitSha, commitParent, commitTree, committedPaths, remoteAfter, receipt⟩

def deliver (order : GitHubDeliveryWorkOrder) (authority : GitHubDeliveryAuthority) :
    Delivery GitHubDeliveryObservation := do
  let remoteBefore ← inspect env remoteFailed (remoteHead env order)
  if remoteBefore.isSome = true then
    fail .reconciliationRequired "The product feature branch already exists remotely"
  else
    let existing ← Procedure.step (·.disturbed env) fun world => .done (env.found world.steps)
    if existing.isSome = true then
      fail .reconciliationRequired "A matching product pull request already exists"
    else
      let effects ← (mutate env order).rescue fun error =>
        if error.errorClass = .reconciliationRequired then .raise error
        else fail .reconciliationRequired "Controlled delivery stopped after a repository effect"
      if authority.maxGitCommands < gitCommandCount then
        fail .reconciliationRequired "Delivery Git-command budget was exceeded"
      else if authority.maxControlledNetworkCalls < controlledNetworkCallCount then
        fail .reconciliationRequired "Delivery controlled-network budget was exceeded"
      else
        Procedure.ofExcept (constructed GitHubDeliveryObservation.postInit
          { providerId := "controlled-github-delivery-v1"
            stagedPaths := effects.staged
            committedPaths := effects.committedPaths
            commitParent := effects.commitParent
            commitSha := effects.commitSha
            commitTree := effects.commitTree
            remoteBranchSha := effects.remoteAfter.getD ""
            pullRequest := effects.receipt
            gitCommandCount := gitCommandCount
            controlledNetworkCallCount := controlledNetworkCallCount })

/-! ## The store -/

/-- The path parts that `_execution_directory` refuses. -/
def isPathPart (value : String) : Bool :=
  value ∉ ["", ".", ".."] && '/' ∉ value.toList && '\\' ∉ value.toList

def executionDirectory (key : Key) : Except Error Unit :=
  if isPathPart key.tenantId = false then
    throw ⟨.corrupt, "GitHub delivery tenant path is invalid"⟩
  else if isPathPart key.executionId = false then
    throw ⟨.corrupt, "GitHub delivery execution path is invalid"⟩
  else pure ()

def GitHubDeliveryArtifact.key (artifact : GitHubDeliveryArtifact) : Key :=
  ⟨artifact.tenantId, artifact.executionId⟩

/-- `FileGitHubDeliveryArtifactStore.load`. -/
def loadArtifact (key : Key) : Delivery GitHubDeliveryArtifact := do
  Procedure.ofExcept (executionDirectory key)
  look env fun world =>
    match world.artifacts.load key with
    | none => .error ⟨.notFound, "GitHub delivery artifact was not found"⟩
    | some artifact =>
        if artifact.key = key then .ok artifact
        else .error ⟨.corrupt, "GitHub delivery artifact is corrupt"⟩

/-- `FileGitHubDeliveryArtifactStore.save`. -/
def saveArtifact (artifact : GitHubDeliveryArtifact) : Delivery GitHubDeliveryArtifact := do
  Procedure.ofExcept (executionDirectory artifact.key)
  if 256000 < (env.setting.envelopeText artifact).utf8ByteSize then
    fail .conflict "GitHub delivery artifact exceeds storage limit"
  else
    let present ← look env fun world => .ok (world.artifacts.load artifact.key).isSome
    if present = true then
      let existing ← loadArtifact env artifact.key
      if existing ≠ artifact then
        fail .conflict "GitHub delivery execution already has a different artifact"
      else pure existing
    else
      Procedure.modify fun world =>
        { world with artifacts := world.artifacts.save artifact.key artifact }
      pure artifact

/-! ## The checks of the service -/

/-- The arguments of a call. -/
structure Request where
  executionId : String
  workOrder : GitHubDeliveryWorkOrder
  authority : GitHubDeliveryAuthority
  review : CodingReviewArtifact
  workspaceName : String

/-- The key of the artifact that a call is for. -/
def Request.key (request : Request) : Key :=
  ⟨request.workOrder.tenantId, request.executionId⟩

def existing (key : Key) : Delivery (Option GitHubDeliveryArtifact) :=
  (loadArtifact env key >>= fun artifact => pure (some artifact)).handle fun error =>
    if error.errorClass = .notFound then pure none else .raise error

/-- A check of the service. -/
def require (condition : Bool) (message : String) : Except Error Unit :=
  if condition = true then .ok () else .error ⟨.policyError, message⟩

theorem require_eq_ok {condition : Bool} {message : String}
    (h : require condition message = .ok ()) : condition = true := by
  unfold require at h
  by_cases hcondition : condition = true
  · exact hcondition
  · rw [if_neg hcondition] at h
    cases h

def reviewMatches (order : GitHubDeliveryWorkOrder) (review : CodingReviewArtifact) : Bool :=
  review.digest env.setting = order.codingReviewArtifactDigest &&
    review.tenantId = order.tenantId && review.opportunityId = order.opportunityId &&
    review.workspaceArtifactDigest = order.workspaceArtifactDigest &&
    review.repositoryId = order.repositoryId &&
    review.repositoryIdentity = order.repositoryIdentity &&
    review.workspaceId = order.workspaceId && review.baseBranch = order.baseBranch &&
    review.baseCommit = order.baseCommit && review.baseTree = order.baseTree &&
    review.featureBranch = order.featureBranch && review.finalFiles = order.reviewedFiles &&
    review.finalDiffDigest = order.finalDiffDigest &&
    review.status = "CODING_AND_REVIEWS_PASSED_AWAITING_CONTROLLED_GITHUB_DELIVERY" &&
    review.sourceState = "CLEAN_AND_UNCHANGED" &&
    review.workspaceState = "DIRTY_REVIEWED_NOT_COMMITTED" && review.qaState = "PASS" &&
    review.securityState = "PASS" && review.deliveryState = "NOT_STARTED" &&
    review.commitCount = 0 && review.pushCount = 0 && review.pullRequestCount = 0 &&
    review.pilotStatus = "NOT_SELECTED"

def validateSourceArtifact (order : GitHubDeliveryWorkOrder) (review : CodingReviewArtifact) :
    Except Error Unit := do
  require (reviewMatches env order review)
    "GitHub delivery requires the exact successful persisted Day 32 review artifact"
  let persisted ← env.reviews ⟨review.tenantId, review.executionId⟩
  require (persisted = review) "GitHub delivery source is not exact persisted state"

def validateAuthority (order : GitHubDeliveryWorkOrder) (authority : GitHubDeliveryAuthority)
    (now : Timestamp) : Except Error Unit :=
  require (authority.tenantId = order.tenantId && authority.assignmentId = order.assignmentId &&
    authority.workOrderDigest = order.digest env.setting &&
    authority.codingReviewArtifactDigest = order.codingReviewArtifactDigest &&
    authority.repositoryId = order.repositoryId && authority.workspaceId = order.workspaceId &&
    authority.baseBranch = order.baseBranch && authority.featureBranch = order.featureBranch &&
    authority.allowedActionIds = githubDeliveryActions &&
    authority.allowedToolIds = githubDeliveryToolIds &&
    decide (order.reviewedFiles.length ≤ authority.maxReviewedPaths) &&
    authority.repositoryWriteAllowed && authority.controlledNetworkAllowed &&
    authority.scopedCredentialHandleAllowed && authority.commitAllowed &&
    authority.pushAllowed && authority.pullRequestAllowed && authority.draftOnly &&
    !authority.forcePushAllowed && !authority.mergeAllowed && !authority.deploymentAllowed &&
    !authority.releaseAllowed &&
    decide (authority.issuedAt ≤ order.issuedAt ∧ order.issuedAt ≤ authority.expiresAt) &&
    decide (authority.issuedAt ≤ now ∧ now ≤ authority.expiresAt))
    "GitHub delivery authority or time boundary does not match"

/-- `_workspace_snapshot`. -/
structure WorkspaceSnapshot where
  branch : String
  head : String
  tree : String
  clean : Bool
  changed : List String
  staged : List String
  remote : String

/-- `_workspace_snapshot`, command by command. -/
def workspaceSnapshot : Delivery WorkspaceSnapshot := do
  let entries ← inspect env inspectionFailed fun world => .ok (status env world)
  let branch ← inspect env inspectionFailed fun world => .ok world.workspace.branch
  let head ← inspect env inspectionFailed (revParseHead env inspectionFailed)
  let tree ← inspect env inspectionFailed (revParseTree env inspectionFailed)
  let changed ← Procedure.ofExcept (statusPaths entries)
  let staged ← inspect env inspectionFailed fun world => .ok (cachedNames world)
  let remote ← inspect env inspectionFailed fun world => .ok world.workspace.remoteUrl
  pure ⟨branch, head, tree, entries.isEmpty, changed, staged, remote⟩

def sourceSnapshot : Delivery SourceSnapshot :=
  .step (·.disturbed env) fun world => .done (env.sources world.steps)

def validateReviewedFile (binding : ReviewedFileBinding) : Delivery Unit :=
  look env fun world =>
    match world.workspace.files.load binding.path with
    | none => .error ⟨.policyError, "A reviewed file is missing"⟩
    | some file =>
        if file.regular = false then .error ⟨.policyError, "A reviewed file is unsafe"⟩
        else if env.contentDigest file.content ≠ binding.contentDigest then
          .error ⟨.policyError, "A reviewed file digest changed"⟩
        else .ok ()

def validateReviewedFiles : List ReviewedFileBinding → Delivery Unit
  | [] => pure ()
  | binding :: bindings => do
    validateReviewedFile env binding
    validateReviewedFiles bindings

def validateBefore (request : Request) (source : SourceSnapshot)
    (workspace : WorkspaceSnapshot) : Delivery Unit := do
  let order := request.workOrder
  Procedure.ofExcept (require (request.workspaceName = order.workspaceId)
    "GitHub delivery workspace identity does not match")
  Procedure.ofExcept (require (source.branch = order.baseBranch &&
    source.head = order.baseCommit && source.tree = order.baseTree && source.status = "" &&
    source.remote = order.repositoryIdentity && workspace.branch = order.featureBranch &&
    workspace.head = order.baseCommit && workspace.tree = order.baseTree &&
    !workspace.clean && workspace.changed = order.reviewedPaths &&
    order.reviewedPaths = request.review.finalChangedPaths && workspace.staged = [] &&
    workspace.remote = order.repositoryIdentity)
    "GitHub delivery source or workspace is not the exact reviewed Day 32 state")
  let config ← inspect env inspectionFailed fun world => .ok world.workspace.unsafeConfig
  Procedure.ofExcept (require (config = "")
    "GitHub delivery repository has executable or credential Git configuration")
  validateReviewedFiles env order.reviewedFiles

/-- The comparison of `_validate_after`. -/
def afterMatches (order : GitHubDeliveryWorkOrder) (authority : GitHubDeliveryAuthority)
    (sourceBefore sourceAfter : SourceSnapshot) (workspace : WorkspaceSnapshot)
    (parent subject : String) (committedPaths : List String)
    (observation : GitHubDeliveryObservation) : Bool :=
  let receipt := observation.pullRequest
  sourceAfter = sourceBefore && workspace.branch = order.featureBranch &&
    workspace.head = observation.commitSha && workspace.tree = observation.commitTree &&
    workspace.clean && workspace.changed = [] && workspace.staged = [] &&
    workspace.remote = order.repositoryIdentity && parent = observation.commitParent &&
    observation.commitParent = order.baseCommit && subject = order.commitMessage &&
    committedPaths = observation.committedPaths &&
    observation.committedPaths = order.reviewedPaths &&
    observation.stagedPaths = order.reviewedPaths &&
    observation.remoteBranchSha = observation.commitSha &&
    receipt.repositoryFullName = order.repositoryFullName &&
    receipt.baseBranch = order.baseBranch && receipt.headBranch = order.featureBranch &&
    receipt.baseCommit = order.baseCommit && receipt.headCommit = observation.commitSha &&
    receipt.title = order.pullRequestTitle &&
    receipt.bodyDigest = order.pullRequestBodyDigest env.setting && receipt.draft &&
    receipt.state = "OPEN" && !receipt.merged &&
    decide (observation.gitCommandCount ≤ authority.maxGitCommands) &&
    decide (observation.controlledNetworkCallCount ≤ authority.maxControlledNetworkCalls) &&
    decide (observation.credentialHandleCount ≤ 2) &&
    [observation.secretValueExposureCount, observation.unapprovedNetworkCallCount,
      observation.unrelatedPathCount, observation.generalCommandCount,
      observation.forcePushCount, observation.mergeCount, observation.deploymentCount,
      observation.releaseCount].all (· = 0) &&
    [observation.commitCount, observation.pushCount, observation.pullRequestCount].all (· = 1)

def validateAfter (request : Request) (sourceBefore sourceAfter : SourceSnapshot)
    (workspace : WorkspaceSnapshot) (observation : GitHubDeliveryObservation) :
    Delivery Unit := do
  let order := request.workOrder
  let parent ← inspect env inspectionFailed (revParseParent env inspectionFailed)
  let subject ← inspect env inspectionFailed fun world =>
    (required inspectionFailed world.workspace.head).map (·.message)
  let committedPaths ← inspect env inspectionFailed (diffTree inspectionFailed)
  Procedure.ofExcept (require (afterMatches env order request.authority sourceBefore sourceAfter
    workspace parent subject committedPaths observation)
    "GitHub delivery provider crossed its commit, push, draft-PR, or stop boundary")
  validateReviewedFiles env order.reviewedFiles
  Procedure.ofExcept (require (request.review.finalDiffDigest = order.finalDiffDigest)
    "Reviewed diff binding changed during delivery")

def newArtifact (request : Request) (observation : GitHubDeliveryObservation)
    (artifactId : String) (generatedAt : Timestamp) : GitHubDeliveryArtifact :=
  let order := request.workOrder
  let review := request.review
  { observation with
    artifactId := artifactId
    workOrderId := order.workOrderId
    workOrderDigest := order.digest env.setting
    tenantId := order.tenantId
    opportunityId := order.opportunityId
    executionId := request.executionId
    assignmentId := order.assignmentId
    codingReviewArtifactId := review.artifactId
    codingReviewArtifactDigest := review.digest env.setting
    workspaceArtifactDigest := review.workspaceArtifactDigest
    orchestrationArtifactDigest := review.orchestrationArtifactDigest
    qaArtifactDigest := review.qaArtifactDigest
    securityArtifactDigest := review.securityArtifactDigest
    repositoryId := order.repositoryId
    repositoryIdentity := order.repositoryIdentity
    repositoryFullName := order.repositoryFullName
    workspaceId := order.workspaceId
    baseBranch := order.baseBranch
    baseCommit := order.baseCommit
    baseTree := order.baseTree
    featureBranch := order.featureBranch
    reviewedFiles := order.reviewedFiles
    finalDiffDigest := order.finalDiffDigest
    commitMessage := order.commitMessage
    pullRequestTitle := order.pullRequestTitle
    pullRequestBodyDigest := order.pullRequestBodyDigest env.setting
    authorityDigest := request.authority.digest env.setting
    capabilityIds := githubDeliveryCapabilities
    actionIds := githubDeliveryActions
    toolIds := githubDeliveryToolIds
    providerOutputDigest := observation.digest env.setting
    generatedAt := generatedAt }

/-- A reading of the clock. -/
def now : Delivery Timestamp :=
  .step (·.disturbed env) fun world => .done (.ok (env.clock world.steps))

/-- The stored artifact is that of a call with the same arguments. -/
def sameRequest (request : Request) (artifact : GitHubDeliveryArtifact) : Bool :=
  artifact.workOrderDigest = request.workOrder.digest env.setting &&
    artifact.authorityDigest = request.authority.digest env.setting &&
    artifact.codingReviewArtifactDigest = request.review.digest env.setting

/-- `run`, where no artifact is stored. -/
def runNew (request : Request) : Delivery GitHubDeliveryArtifact := do
  Procedure.ofExcept (validateSourceArtifact env request.workOrder request.review)
  let validated ← now env
  Procedure.ofExcept (validateAuthority env request.workOrder request.authority validated)
  let sourceBefore ← sourceSnapshot env
  let workspaceBefore ← workspaceSnapshot env
  validateBefore env request sourceBefore workspaceBefore
  let observation ← deliver env request.workOrder request.authority
  let sourceAfter ← sourceSnapshot env
  let workspaceAfter ← workspaceSnapshot env
  validateAfter env request sourceBefore sourceAfter workspaceAfter observation
  let artifactId ← Procedure.ofExcept (artifactIdFor env.setting request.executionId)
  let generatedAt ← now env
  let artifact ← Procedure.ofExcept (constructed (GitHubDeliveryArtifact.postInit env.setting)
    (newArtifact env request observation artifactId generatedAt))
  saveArtifact env artifact

def run (request : Request) : Delivery GitHubDeliveryArtifact := do
  let found ← existing env request.key
  match found with
  | some artifact =>
    if sameRequest env request artifact = true then pure artifact
    else fail .conflict "GitHub delivery execution already has different immutable state"
  | none => runNew env request

/-- The world after a call that ends, or that dies after some of its steps. -/
def step (world : World) (call : Request × Option Nat) : World :=
  match call.2 with
  | none => ((run env call.1).run world).2
  | some stop => (run env call.1).left stop world

end GitHubDelivery
end Ascos
