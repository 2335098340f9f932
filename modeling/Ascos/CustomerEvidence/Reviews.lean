import Ascos.Acceptance.Model
import Ascos.CustomerPlanning.Model
import Ascos.Library.ExclusiveFiles
import Ascos.Library.Lineage
import Ascos.Library.Table

/-!
# Customer requests and preview reviews

The services and file stores of `runtime/customer_application` and
`runtime/customer_evidence`: product requests, one package of preview evidence for each
request, and the review of the customer.  Each record is created once, by an exclusive creation
and a write; a process may die in between.

Main results:

- Theorem `customer_records_kept`: in every run whose clock advances, in which no process
  dies between the creation and the write and in which no publication is repeated, every customer
  can list the requests, every record is stored or can be, and a review is returned again.
- Theorem `crash_final`: no call ever changes a file, also one that a crash left empty.
-/

namespace Ascos
namespace CustomerEvidence

open Ascos.Acceptance (EvidenceArtifact EvidenceKind EvidenceOutcome)
open Ascos.CustomerPlanning (CustomerProductRequest Error identifier matching firstChars)
open Ascos.Library
open Ascos.Library.Procedure
open Ascos.Runtime (Timestamp isSpace)

/-! ## Records -/

/-- `CustomerEvidenceConflict(message)`. -/
def conflict (message : String) : Error :=
  ⟨.other "CustomerEvidenceConflict", message⟩

/-- `CustomerEvidenceCorrupt(message)`. -/
def corrupt (message : String) : Error :=
  ⟨.other "CustomerEvidenceCorrupt", message⟩

structure CustomerPreviewEvidencePackage where
  packageId : String
  customerId : String
  requestId : String
  productId : String
  progressId : String
  progressDigest : String
  roadmapDigest : String
  estimateDigest : String
  previewLabel : String
  previewUrl : String
  commitSha : String
  evidence : List EvidenceArtifact
  publishedAt : Timestamp
deriving DecidableEq

structure CustomerPreviewReview where
  reviewId : String
  packageId : String
  customerId : String
  requestId : String
  packageDigest : String
  progressDigest : String
  decision : String
  comments : String
  confirmationVersion : String
  reviewedAt : Timestamp
deriving DecidableEq

/-- What the service reads of a `CustomerProjectProgressSnapshot`. -/
structure Snapshot where
  productId : String
  progressId : String
  digest : String
  roadmapDigest : String
  estimateDigest : String
deriving DecidableEq

def requiredEvidenceKinds : List EvidenceKind :=
  [.automatedTest, .browser, .browserConsole, .browserNetwork, .screenshot, .security]

def reviewConfirmationVersion : String :=
  "ascos-customer-preview-review-v1"

/-- What `urlsplit` finds in a URL. -/
structure SplitUrl where
  scheme : String
  netloc : String
  hostname : Option String
  port : Except String (Option Nat)
  username : Option String
  password : Option String
  path : String
  query : String
  fragment : String

/-- The functions of the standard library that the services use, and their policy. -/
structure Setting where
  casefold : String → String
  sha256 : String → String
  urlsplit : String → Except String SplitUrl
  packageText : CustomerPreviewEvidencePackage → String
  allowedPreviewOrigins : List String

variable (setting : Setting)

def packageIdFor (requestId : String) : Except Error String := do
  identifier requestId "preview package request ID"
  pure ("customer-evidence-" ++
    firstChars (setting.sha256 ("customer-preview-evidence:" ++ requestId)) 24)

def reviewIdFor (requestId : String) : Except Error String := do
  identifier requestId "preview review request ID"
  pure ("customer-review-" ++
    firstChars (setting.sha256 ("customer-preview-review:" ++ requestId)) 24)

def CustomerPreviewEvidencePackage.digest (package : CustomerPreviewEvidencePackage) : String :=
  setting.sha256 (setting.packageText package)

def CustomerPreviewEvidencePackage.allRequiredEvidencePassed
    (package : CustomerPreviewEvidencePackage) : Bool :=
  package.evidence.all fun item => item.kind ∉ requiredEvidenceKinds || item.outcome = .pass

/-- A check that raises a `ValueError`. -/
def check (accepted : Bool) (message : String) : Except Error Unit :=
  if accepted = true then pure () else throw (.value message)

/-- `_safe_url`. -/
def safeUrl (value label : String) (allowArtifact : Bool) : Except Error Unit := do
  matching (value ≠ "" && decide (value.length ≤ 2048)) label
  let parsed ← (setting.urlsplit value).mapError .value
  let loopback := parsed.scheme = "http" &&
    parsed.hostname ∈ [some "127.0.0.1", some "localhost", some "::1"]
  let allowed :=
    parsed.scheme = "https" || (allowArtifact && parsed.scheme = "artifact") || loopback
  check (allowed && parsed.netloc ≠ "" && parsed.username = none && parsed.password = none &&
    parsed.query = "" && parsed.fragment = "" && parsed.path.toList.head? = some '/')
    (label ++ " is unsafe")

def previewOrigin (value : String) : Except Error String := do
  safeUrl setting value "preview URL" false
  let parsed ← (setting.urlsplit value).mapError .value
  let host := parsed.hostname.getD ""
  let authority ← match parsed.port with
    | .error message => throw (.value message)
    | .ok none => pure host
    | .ok (some port) =>
        if (parsed.scheme = "https" ∧ port = 443) ∨ (parsed.scheme = "http" ∧ port = 80) then
          pure host
        else pure (host ++ ":" ++ toString port)
  pure (parsed.scheme ++ "://" ++ authority)

def CustomerPreviewEvidencePackage.postInit (package : CustomerPreviewEvidencePackage) :
    Except Error Unit := do
  identifier package.packageId "evidence package ID"
  identifier package.customerId "evidence customer ID"
  identifier package.requestId "evidence request ID"
  identifier package.productId "evidence product ID"
  identifier package.progressId "evidence progress ID"
  CustomerPlanning.digest package.progressDigest "evidence progress digest"
  CustomerPlanning.digest package.roadmapDigest "evidence roadmap digest"
  CustomerPlanning.digest package.estimateDigest "evidence estimate digest"
  matching (!package.previewLabel.toList.all isSpace && decide (package.previewLabel.length ≤ 200))
    "preview label"
  safeUrl setting package.previewUrl "preview URL" false
  matching (decide (package.commitSha.length = 40) &&
    package.commitSha.toList.all CustomerPlanning.isHex) "preview commit SHA"
  check (package.evidence ≠ [] && decide (package.evidence.map (·.evidenceId)).Nodup &&
    requiredEvidenceKinds.all (fun kind => package.evidence.any (·.kind = kind)) &&
      package.evidence.all (·.commitSha = package.commitSha))
    "Preview evidence is incomplete or belongs to another commit"
  package.evidence.forM fun item =>
    safeUrl setting item.artifactUri "evidence artifact URI" true

def CustomerPreviewReview.postInit (review : CustomerPreviewReview) : Except Error Unit := do
  identifier review.reviewId "preview review ID"
  identifier review.packageId "preview review package ID"
  identifier review.customerId "preview review customer ID"
  identifier review.requestId "preview review request ID"
  CustomerPlanning.digest review.packageDigest "preview review package digest"
  CustomerPlanning.digest review.progressDigest "preview review progress digest"
  check (review.decision ∈ ["ACCEPT", "REVISE"]) "Preview review decision is invalid"
  check (decide (review.comments.length ≤ 2000)) "Preview review comments are invalid"
  check (review.decision ≠ "REVISE" || !review.comments.toList.all isSpace)
    "REVISE requires customer comments"
  check (review.confirmationVersion = reviewConfirmationVersion)
    "Preview review confirmation contract is invalid"

/-! ## The stores -/

/-- A customer and a request. -/
abbrev Key := String × String

/-- The files of the stores, and when the latest call was made. -/
structure World where
  requests : Table Key (File CustomerProductRequest)
  packages : Table Key (File CustomerPreviewEvidencePackage)
  reviews : Table Key (File CustomerPreviewReview)
  clock : Timestamp

/-- The calls of the services. -/
abbrev Recording (α : Type) :=
  Procedure World Error α

/-- What a file holds; one whose content is not all there is corrupt. -/
def content {α : Type} (missing torn : Error) : Option (File α) → Except Error α
  | none => .error missing
  | some .torn => .error torn
  | some (.whole value) => .ok value

/-- What a file holds, if there is one. -/
def found {α : Type} (torn : Error) : Option (File α) → Except Error (Option α)
  | none => .ok none
  | some .torn => .error torn
  | some (.whole value) => .ok (some value)

theorem found_ok_none_iff {α : Type} {torn : Error} {file : Option (File α)} :
    found torn file = .ok none ↔ file = none := by
  cases file with
  | none => simp [found]
  | some file => cases file <;> simp [found]

theorem found_ok_some_iff {α : Type} {torn : Error} {file : Option (File α)} {value : α} :
    found torn file = .ok (some value) ↔ file = some (.whole value) := by
  cases file with
  | none => simp [found]
  | some file => cases file <;> simp [found]

/-- An exclusive write; where there is a file already, it has to hold the same. -/
def saveOnce {α : Type} [DecidableEq α] (place : Place World α) (value : α)
    (missing torn different : Error) : Recording α := do
  if ← place.exclusiveWrite value then pure value
  else
    let existing ← query fun world => content missing torn (place.get world)
    if existing = value then pure existing else raise different

def requestPlace (key : Key) : Place World CustomerProductRequest where
  get world := world.requests.load key
  put file world := { world with requests := world.requests.save key file }

def packagePlace (key : Key) : Place World CustomerPreviewEvidencePackage where
  get world := world.packages.load key
  put file world := { world with packages := world.packages.save key file }

def reviewPlace (key : Key) : Place World CustomerPreviewReview where
  get world := world.reviews.load key
  put file world := { world with reviews := world.reviews.save key file }

def requestMissing : Error :=
  ⟨.productRequestNotFound, "Unknown customer product request"⟩

def requestCorrupt : Error :=
  ⟨.other "ProductRequestCorrupt", "Product request authority is corrupt"⟩

def requestConflict : Error :=
  ⟨.other "ProductRequestConflict",
    "Product request identity already has different immutable content"⟩

def loadRequest (world : World) (key : Key) : Except Error CustomerProductRequest :=
  content requestMissing requestCorrupt (world.requests.load key)

/-- `load` under the handler of `ProductRequestNotFound`. -/
def findRequest (key : Key) (world : World) : Except Error (Option CustomerProductRequest) :=
  found requestCorrupt (world.requests.load key)

/-- `list_for_customer`. -/
def listForCustomer (world : World) (customerId : String) :
    Except Error (List CustomerProductRequest) := do
  identifier customerId "customer ID"
  let values ← (world.requests.filter (·.1.1 = customerId)).mapM fun entry =>
    loadRequest world entry.1
  pure (values.mergeSort fun a b => decide (a.submittedAt < b.submittedAt) ||
    (a.submittedAt = b.submittedAt && decide (a.requestId ≤ b.requestId)))

/-! ## The services -/

/-- `business_identity` is the request without the time of its submission. -/
def businessIdentity (request : CustomerProductRequest) : CustomerProductRequest :=
  { request with submittedAt := 0 }

/-- The end of `submit`. -/
def answered (candidate existing : CustomerProductRequest) : Recording CustomerProductRequest :=
  if businessIdentity existing = businessIdentity candidate then pure existing
  else raise requestConflict

/-- `submit`, with the candidate that its arguments and the clock make. -/
def submit (candidate : CustomerProductRequest) : Recording CustomerProductRequest := do
  ofExcept (candidate.postInit setting.casefold)
  let key := (candidate.customerId, candidate.requestId)
  match ← query (findRequest key) with
  | some existing => answered candidate existing
  | none =>
    (saveOnce (requestPlace key) candidate requestMissing requestCorrupt requestConflict).handle
      fun error =>
        -- another process has created the file in between
        if error.errorClass = requestConflict.errorClass then do
          answered candidate (← query (loadRequest · key))
        else raise error

/-- The arguments of `publish`. -/
structure Publication where
  customerId : String
  requestId : String
  previewLabel : String
  previewUrl : String
  commitSha : String
  evidence : List EvidenceArtifact
deriving DecidableEq

def newPackage (args : Publication) (view : Except Error Snapshot) (now : Timestamp) :
    Except Error CustomerPreviewEvidencePackage := do
  let snapshot ← view
  let origin ← previewOrigin setting args.previewUrl
  if origin ∉ setting.allowedPreviewOrigins then
    throw (conflict "Preview origin is outside customer evidence policy")
  let packageId ← packageIdFor setting args.requestId
  let package : CustomerPreviewEvidencePackage :=
    { packageId := packageId
      customerId := args.customerId
      requestId := args.requestId
      productId := snapshot.productId
      progressId := snapshot.progressId
      progressDigest := snapshot.digest
      roadmapDigest := snapshot.roadmapDigest
      estimateDigest := snapshot.estimateDigest
      previewLabel := args.previewLabel
      previewUrl := args.previewUrl
      commitSha := args.commitSha
      evidence := args.evidence
      publishedAt := now }
  package.postInit setting
  pure package

def packageCorrupt : Error :=
  corrupt "Preview evidence envelope is corrupt"

/-- `publish`, where `view` is what the progress service answers. -/
def publish (args : Publication) (view : Except Error Snapshot) (now : Timestamp) :
    Recording CustomerPreviewEvidencePackage := do
  let package ← ofExcept (newPackage setting args view now)
  saveOnce (packagePlace (args.customerId, args.requestId)) package
    ⟨.other "CustomerEvidenceNotFound", "Preview evidence record does not exist"⟩ packageCorrupt
    (conflict "A different preview evidence package already exists")

/-- The arguments of `review`. -/
structure Decision where
  customerId : String
  requestId : String
  expectedPackageDigest : String
  decision : String
  comments : String
  confirmed : Bool
deriving DecidableEq

/-- The package still belongs to the project. -/
def packageBound (args : Decision) (snapshot : Snapshot)
    (package : CustomerPreviewEvidencePackage) : Bool :=
  package.customerId = args.customerId && package.requestId = args.requestId &&
    package.productId = snapshot.productId && package.progressId = snapshot.progressId &&
      package.progressDigest = snapshot.digest && package.roadmapDigest = snapshot.roadmapDigest &&
        package.estimateDigest = snapshot.estimateDigest

/-- The review still belongs to the package. -/
def reviewBound (snapshot : Snapshot) (package : CustomerPreviewEvidencePackage)
    (review : CustomerPreviewReview) : Bool :=
  review.packageId = package.packageId && review.packageDigest = package.digest setting &&
    review.progressDigest = snapshot.digest && decide (package.publishedAt ≤ review.reviewedAt)

/-- `context`, after the view. -/
def context (args : Decision) (snapshot : Snapshot) (world : World) :
    Except Error (Option CustomerPreviewEvidencePackage × Option CustomerPreviewReview) := do
  let key := (args.customerId, args.requestId)
  let _ ← packageIdFor setting args.customerId
  let _ ← packageIdFor setting args.requestId
  let package ← found packageCorrupt (world.packages.load key)
  let review ← found packageCorrupt (world.reviews.load key)
  match package, review with
  | none, some _ => throw (corrupt "Preview review exists without its package")
  | none, none => pure (none, none)
  | some package, review =>
    let unbound := corrupt "Preview evidence no longer binds the exact governed project"
    if packageBound args snapshot package = false then throw unbound
    if (← previewOrigin setting package.previewUrl) ∉ setting.allowedPreviewOrigins then
      throw unbound
    if review.any (fun review => !reviewBound setting snapshot package review) = true then
      throw (corrupt "Preview review no longer binds its exact package")
    pure (some package, review)

def newReview (args : Decision) (snapshot : Snapshot) (package : CustomerPreviewEvidencePackage)
    (now : Timestamp) : Except Error CustomerPreviewReview := do
  let reviewId ← reviewIdFor setting args.requestId
  let review : CustomerPreviewReview :=
    { reviewId := reviewId
      packageId := package.packageId
      customerId := args.customerId
      requestId := args.requestId
      packageDigest := package.digest setting
      progressDigest := snapshot.digest
      decision := args.decision
      comments := strip isSpace args.comments
      confirmationVersion := reviewConfirmationVersion
      reviewedAt := now }
  review.postInit
  pure review

/-- What `review` decides from what it has found: the stored review, or a new one. -/
def decided (args : Decision) (snapshot : Snapshot) (now : Timestamp) :
    Option CustomerPreviewEvidencePackage × Option CustomerPreviewReview →
      Except Error (CustomerPreviewReview × Bool)
  | (none, _) => .error (conflict "No preview evidence package is ready for review")
  | (some package, existing) => do
    let stale := conflict "Preview evidence review is stale or unconfirmed"
    if args.confirmed = false then throw stale
    -- `hmac.compare_digest` takes no other texts
    if args.expectedPackageDigest.toList.all (·.toNat < 128) = false then
      throw ⟨.other "TypeError",
        "comparing strings with non-ASCII characters is not supported"⟩
    if package.digest setting ≠ args.expectedPackageDigest then throw stale
    match existing with
    | some review =>
        if review.decision = args.decision ∧ review.comments = strip isSpace args.comments ∧
            review.packageDigest = args.expectedPackageDigest then
          pure (review, true)
        else throw (conflict "The exact preview evidence was already reviewed")
    | none =>
        if args.decision = "ACCEPT" ∧ package.allRequiredEvidencePassed = false then
          throw (conflict "Failed required evidence cannot be accepted")
        match newReview setting args snapshot package now with
        | .ok review => pure (review, false)
        | .error _ => throw (conflict "Customer preview decision is invalid")

/-- What `review` does before it stores something; true for a review that is stored. -/
def judge (args : Decision) (snapshot : Snapshot) (now : Timestamp) (world : World) :
    Except Error (CustomerPreviewReview × Bool) := do
  decided setting args snapshot now (← context setting args snapshot world)

/-- `review`, where `view` is what the progress service answers. -/
def review (args : Decision) (view : Except Error Snapshot) (now : Timestamp) :
    Recording CustomerPreviewReview := do
  let snapshot ← ofExcept view
  let (value, stored) ← query (judge setting args snapshot now)
  if stored then pure value
  else
    saveOnce (reviewPlace (args.customerId, args.requestId)) value
      ⟨.other "CustomerEvidenceNotFound", "Preview evidence record does not exist"⟩ packageCorrupt
      (conflict "A customer preview review already exists for this package")

/-! ## Runs -/

inductive Call where
  | submit (candidate : CustomerProductRequest)
  | publish (args : Publication) (view : Except Error Snapshot)
  | review (args : Decision) (view : Except Error Snapshot)

/-- A call, its instant, and after how many steps the process dies, if it does. -/
structure Entry where
  call : Call
  now : Timestamp
  stop : Option Nat

/-- The state in which a procedure ends. -/
def ended {α : Type} (stop : Option Nat) (procedure : Recording α) (world : World) : World :=
  match stop with
  | none => (procedure.run world).2
  | some stop => procedure.left stop world

def Entry.perform (entry : Entry) (world : World) : World :=
  match entry.call with
  | .submit candidate =>
      ended entry.stop (submit setting { candidate with submittedAt := entry.now }) world
  | .publish args view => ended entry.stop (publish setting args view entry.now) world
  | .review args view => ended entry.stop (review setting args view entry.now) world

def step (world : World) (entry : Entry) : World :=
  { entry.perform setting world with clock := entry.now }

/-- The stores before the first call. -/
def World.new (clock : Timestamp) : World :=
  ⟨[], [], [], clock⟩

def Call.Creates (world : World) (now : Timestamp) : Call → Prop
  | .submit candidate =>
    { candidate with submittedAt := now }.postInit setting.casefold = .ok () ∧
      world.requests.load (candidate.customerId, candidate.requestId) = none
  | .publish args view =>
    (newPackage setting args view now).isOk = true ∧
      world.packages.load (args.customerId, args.requestId) = none
  | .review args view =>
    ∃ snapshot review, view = .ok snapshot ∧
      judge setting args snapshot now world = .ok (review, false)

/-- The steps after which a call that creates a file has not written into it. -/
def Call.tornAfter : Call → Nat
  | .submit _ | .review _ _ => 2
  | .publish _ _ => 1

/-- The call is not a publication whose package is stored. -/
def Call.New (world : World) : Call → Prop
  | .publish args view => ∀ package,
      world.packages.load (args.customerId, args.requestId) = some (.whole package) →
        newPackage setting args view package.publishedAt ≠ .ok package
  | _ => True

/-- The clock advances, no process dies between the creation of a file and the write of its
content, and no publication is repeated. -/
structure Meets (world : World) (entry : Entry) : Prop where
  clock : world.clock < entry.now
  whole : entry.call.Creates setting world entry.now → entry.stop ≠ some entry.call.tornAfter
  new : entry.call.New setting world

/-! ## What a step leaves -/

section Ended

variable {α β : Type} {world : World} {stop : Option Nat}

theorem ended_ofExcept (result : Except Error α) : ended stop (ofExcept result) world = world := by
  cases stop <;> rfl

/-- A look at the stores that raises leaves them. -/
theorem ended_query_error {answer : World → Except Error α} {f : α → Recording β} {error : Error}
    (h : answer world = .error error) : ended stop (query answer >>= f) world = world := by
  have hrest : Procedure.bind (.done (answer world)) f = .done (.error error) := by rw [h]; rfl
  cases stop with
  | none => exact congrArg (fun x => (x.run world).2) hrest
  | some stop =>
    cases stop with
    | zero => rfl
    | succ stop => exact congrArg (fun x => x.left stop world) hrest

/-- What follows a look at the stores has one step less to take. -/
theorem ended_query_ok {answer : World → Except Error α} {f : α → Recording β} {a : α}
    (h : answer world = .ok a) : ended stop (query answer >>= f) world = world ∨
      ∃ fewer, (∀ n, fewer = some n → stop = some (n + 1)) ∧
        ended stop (query answer >>= f) world = ended fewer (f a) world := by
  have hrest : Procedure.bind (.done (answer world)) f = f a := by rw [h]; rfl
  cases stop with
  | none => exact .inr ⟨none, by simp, congrArg (fun x => (x.run world).2) hrest⟩
  | some stop =>
    cases stop with
    | zero => exact .inl rfl
    | succ stop =>
        exact .inr ⟨some stop, by simp, congrArg (fun x => x.left stop world) hrest⟩

variable [DecidableEq α] {place : Place World α} {value : α} {missing torn different : Error}

theorem run_saveOnce (hnone : place.get world = none) :
    (saveOnce place value missing torn different).run world =
      (.ok value, place.put (.whole value) (place.put .torn world)) := by
  unfold saveOnce Place.exclusiveWrite
  simp only [Procedure.run, bind, Procedure.bind, hnone, Option.isSome_none, Bool.false_eq_true,
    if_false, if_true]
  rfl

/-- Unless the process dies before it is written. -/
theorem ended_saveOnce (hnone : place.get world = none) (hstop : stop ≠ some 1) :
    ended stop (saveOnce place value missing torn different) world = world ∨
      ended stop (saveOnce place value missing torn different) world =
        place.put (.whole value) (place.put .torn world) := by
  match stop, hstop with
  | none, _ => exact .inr (congrArg Prod.snd (run_saveOnce hnone))
  | some 0, _ => exact .inl rfl
  | some (stop + 2), _ =>
    right
    unfold saveOnce Place.exclusiveWrite
    simp only [ended, Procedure.left, bind, Procedure.bind, hnone, Option.isSome_none,
      Bool.false_eq_true, if_false, if_true]
    cases stop <;> rfl

theorem ended_saveOnce_of_some {file : File α} (h : place.get world = some file) :
    ended stop (saveOnce place value missing torn different) world = world := by
  have hquiet : Obeys (fun _ t => t = world) (saveOnce place value missing torn different) world
      (fun _ _ => True) fun _ _ => True := by
    unfold saveOnce
    rw [obeys_bind]
    refine Place.obeys_exclusiveWrite (fun _ => ⟨rfl, ?_⟩) fun hnone => by simp [hnone] at h
    simp only [Bool.false_eq_true, if_false, obeys_bind, obeys_query, obeys_ofExcept, obeys_ite,
      obeys_pure, obeys_raise]
    simp
  cases stop with
  | none => exact hquiet.final (P := (· = world)) rfl fun _ _ _ h => h
  | some stop => exact hquiet.left (P := (· = world)) rfl (fun _ _ _ h => h) stop

theorem run_saveOnce_of_whole {existing : α} (h : place.get world = some (.whole existing)) :
    ((saveOnce place value missing torn different).run world).1 =
      if existing = value then .ok existing else .error different := by
  unfold saveOnce Place.exclusiveWrite
  simp only [Procedure.run, bind, Procedure.bind, h, Option.isSome_some, Bool.false_eq_true,
    if_false, if_true, query, content]
  split <;> rfl

omit [DecidableEq α] in
theorem ended_handle {x : Recording α} {handler : Error → Recording α} {a : α}
    (h : (x.run world).1 = .ok a) : ended stop (x.handle handler) world = ended stop x world := by
  induction x generalizing world stop with
  | done result =>
    change result = .ok a at h
    subst h
    rfl
  | step effect next ih =>
    cases stop with
    | none =>
      have hrest : ended none ((next world).handle handler) (effect world) =
        ended none (next world) (effect world) := ih world h
      exact hrest
    | some stop =>
        cases stop with
        | zero => rfl
        | succ stop =>
          have hrest : ended (some stop) ((next world).handle handler) (effect world) =
            ended (some stop) (next world) (effect world) := ih world h
          exact hrest

end Ended

/-! ## What a review looks at -/

section Context

variable {args : Decision} {snapshot : Snapshot} {now : Timestamp} {world : World}
  {package : CustomerPreviewEvidencePackage} {existing : Option CustomerPreviewReview}

/-- What `context` has found and checked. -/
structure Found (args : Decision) (snapshot : Snapshot) (world : World)
    (package : CustomerPreviewEvidencePackage) (existing : Option CustomerPreviewReview) :
    Prop where
  customer : ∃ id, packageIdFor setting args.customerId = .ok id
  request : ∃ id, packageIdFor setting args.requestId = .ok id
  packageFound : found packageCorrupt (world.packages.load (args.customerId, args.requestId)) =
    .ok (some package)
  reviewFound : found packageCorrupt (world.reviews.load (args.customerId, args.requestId)) =
    .ok existing
  bound : packageBound args snapshot package = true
  origin : ∃ origin, previewOrigin setting package.previewUrl = .ok origin ∧
    origin ∈ setting.allowedPreviewOrigins
  review : existing.any (fun review => !reviewBound setting snapshot package review) = false

theorem context_ok_iff : context setting args snapshot world = .ok (some package, existing) ↔
    Found setting args snapshot world package existing := by
  unfold context
  simp only [Checks.bind_ok_iff]
  constructor
  · rintro ⟨_, hcustomer, _, hrequest, stored, hpackage, review, hreview, h⟩
    cases stored with
    | none => cases review <;> cases h
    | some stored =>
        obtain ⟨hbound, h⟩ := Checks.guard_bind_ok_iff.mp h
        obtain ⟨origin, horigin, h⟩ := Checks.bind_ok_iff.mp h
        obtain ⟨hallowed, h⟩ := Checks.guard_bind_ok_iff.mp h
        obtain ⟨hreviewBound, h⟩ := Checks.guard_bind_ok_iff.mp h
        cases h
        exact ⟨⟨_, hcustomer⟩, ⟨_, hrequest⟩, hpackage, hreview, by simpa using hbound,
          ⟨origin, horigin, by simpa using hallowed⟩, by simpa using hreviewBound⟩
  · rintro ⟨⟨_, hcustomer⟩, ⟨_, hrequest⟩, hpackage, hreview, hbound, ⟨origin, horigin, hallowed⟩,
      hreviewBound⟩
    refine ⟨_, hcustomer, _, hrequest, _, hpackage, _, hreview, ?_⟩
    refine Checks.guard_bind_ok_iff.mpr ⟨by simp [hbound], ?_⟩
    refine Checks.bind_ok_iff.mpr ⟨origin, horigin, ?_⟩
    refine Checks.guard_bind_ok_iff.mpr ⟨by simp [hallowed], ?_⟩
    exact Checks.guard_bind_ok_iff.mpr ⟨by simp [hreviewBound], rfl⟩

structure Confirmed (args : Decision) (package : CustomerPreviewEvidencePackage) : Prop where
  confirmed : args.confirmed = true
  ascii : args.expectedPackageDigest.toList.all (·.toNat < 128) = true
  digest : package.digest setting = args.expectedPackageDigest

/-- The review is the one that the arguments ask for. -/
abbrev Decision.Asks (args : Decision) (review : CustomerPreviewReview) : Prop :=
  review.decision = args.decision ∧ review.comments = strip isSpace args.comments ∧
    review.packageDigest = args.expectedPackageDigest

variable {review stored : CustomerPreviewReview} {known : Bool}

theorem decided_stored_iff :
    decided setting args snapshot now (some package, some stored) = .ok (review, known) ↔
      Confirmed setting args package ∧ args.Asks stored ∧ stored = review ∧ known = true := by
  unfold decided
  rw [Checks.guard_bind_ok_iff, Checks.guard_bind_ok_iff, Checks.guard_bind_ok_iff]
  dsimp only
  by_cases hasks : args.Asks stored
  · rw [if_pos hasks, Checks.pure_ok_iff, Prod.mk.injEq]
    constructor
    · rintro ⟨hconfirmed, hascii, hdigest, rfl, rfl⟩
      exact ⟨⟨by simpa using hconfirmed, by simpa using hascii, by simpa using hdigest⟩, hasks,
        rfl, rfl⟩
    · rintro ⟨⟨hconfirmed, hascii, hdigest⟩, -, rfl, rfl⟩
      exact ⟨by simp [hconfirmed], by simpa using hascii, by simp [hdigest], rfl, rfl⟩
  · rw [if_neg hasks]
    constructor
    · rintro ⟨-, -, -, h⟩
      cases h
    · exact fun h => absurd h.2.1 hasks

theorem decided_new
    (h : decided setting args snapshot now (some package, none) = .ok (review, known)) :
    known = false ∧ Confirmed setting args package ∧
      (args.decision = "ACCEPT" → package.allRequiredEvidencePassed = true) ∧
        newReview setting args snapshot package now = .ok review := by
  unfold decided at h
  rw [Checks.guard_bind_ok_iff, Checks.guard_bind_ok_iff, Checks.guard_bind_ok_iff] at h
  obtain ⟨hconfirmed, hascii, hdigest, h⟩ := h
  obtain ⟨hpassed, h⟩ := Checks.guard_bind_ok_iff.mp h
  cases hnew : newReview setting args snapshot package now with
  | error error =>
    rw [hnew] at h
    cases h
  | ok value =>
    rw [hnew] at h
    cases h
    exact ⟨rfl, ⟨by simpa using hconfirmed, by simpa using hascii, by simpa using hdigest⟩,
      by simpa using hpassed, rfl⟩

theorem newReview_ok (h : newReview setting args snapshot package now = .ok review) :
    review.packageId = package.packageId ∧ review.packageDigest = package.digest setting ∧
      review.progressDigest = snapshot.digest ∧ review.decision = args.decision ∧
        review.comments = strip isSpace args.comments ∧ review.reviewedAt = now := by
  unfold newReview at h
  obtain ⟨reviewId, -, h⟩ := Checks.bind_ok_iff.mp h
  obtain ⟨-, h⟩ := Checks.check_ok_iff.mp h
  obtain rfl := Checks.pure_ok_iff.mp h
  exact ⟨rfl, rfl, rfl, rfl, rfl, rfl⟩

/-- The review that the arguments ask for is stored. -/
structure Recorded (args : Decision) (snapshot : Snapshot) (review : CustomerPreviewReview)
    (package : CustomerPreviewEvidencePackage) (world : World) : Prop where
  found : Found setting args snapshot world package (some review)
  confirmed : Confirmed setting args package
  asks : args.Asks review

theorem judge_stored_iff : judge setting args snapshot now world = .ok (review, true) ↔
    ∃ package, Recorded setting args snapshot review package world := by
  unfold judge
  rw [Checks.bind_ok_iff]
  constructor
  · rintro ⟨⟨package, existing⟩, hcontext, h⟩
    cases package with
    | none => cases h
    | some package =>
      have hfound := (context_ok_iff setting).mp hcontext
      cases existing with
      | none => exact absurd (decided_new setting h).1 (by simp)
      | some stored =>
          obtain ⟨hconfirmed, hasks, rfl, -⟩ := (decided_stored_iff setting).mp h
          exact ⟨package, hfound, hconfirmed, hasks⟩
  · rintro ⟨package, hfound, hconfirmed, hasks⟩
    exact ⟨_, (context_ok_iff setting).mpr hfound,
      (decided_stored_iff setting).mpr ⟨hconfirmed, hasks, rfl, rfl⟩⟩

theorem judge_new (h : judge setting args snapshot now world = .ok (review, false)) :
    ∃ package, Found setting args snapshot world package none ∧ Confirmed setting args package ∧
      (args.decision = "ACCEPT" → package.allRequiredEvidencePassed = true) ∧
        newReview setting args snapshot package now = .ok review := by
  obtain ⟨⟨package, existing⟩, hcontext, h⟩ := Checks.bind_ok_iff.mp h
  cases package with
  | none => cases h
  | some package =>
    have hfound := (context_ok_iff setting).mp hcontext
    cases existing with
    | none => exact ⟨package, hfound, (decided_new setting h).2⟩
    | some stored => exact absurd ((decided_stored_iff setting).mp h).2.2.2 (by simp)

end Context

/-- What a call does to the stores: it leaves them, or creates one file with its content. -/
inductive Effect (world : World) (now : Timestamp) : World → Prop
  | unchanged : Effect world now world
  | request (request : CustomerProductRequest) (key : Key)
      (hnone : world.requests.load key = none) :
      Effect world now
        ((requestPlace key).put (.whole request) ((requestPlace key).put .torn world))
  | package (key : Key) (package : CustomerPreviewEvidencePackage)
      (hdate : package.publishedAt = now) (hnone : world.packages.load key = none) :
      Effect world now
        ((packagePlace key).put (.whole package) ((packagePlace key).put .torn world))
  | review (args : Decision) (snapshot : Snapshot) (review : CustomerPreviewReview)
      (hjudge : judge setting args snapshot now world = .ok (review, false)) :
      Effect world now ((reviewPlace (args.customerId, args.requestId)).put (.whole review)
        ((reviewPlace (args.customerId, args.requestId)).put .torn world))

variable {setting} {world : World} {now : Timestamp} {stop : Option Nat}

theorem Effect.of_eq {after : World} (h : after = world) : Effect setting world now after :=
  h ▸ .unchanged

theorem newPackage_publishedAt {args : Publication} {view : Except Error Snapshot}
    {package : CustomerPreviewEvidencePackage}
    (h : newPackage setting args view now = .ok package) : package.publishedAt = now := by
  unfold newPackage at h
  obtain ⟨snapshot, -, h⟩ := Checks.bind_ok_iff.mp h
  obtain ⟨origin, -, h⟩ := Checks.bind_ok_iff.mp h
  obtain ⟨-, h⟩ := Checks.guard_bind_ok_iff.mp h
  obtain ⟨packageId, -, h⟩ := Checks.bind_ok_iff.mp h
  obtain ⟨-, h⟩ := Checks.check_ok_iff.mp h
  obtain rfl := Checks.pure_ok_iff.mp h
  rfl

theorem submit_effect {candidate : CustomerProductRequest}
    (hwhole : candidate.postInit setting.casefold = .ok () →
      world.requests.load (candidate.customerId, candidate.requestId) = none → stop ≠ some 2) :
    Effect setting world now (ended stop (submit setting candidate) world) := by
  unfold submit
  cases hvalid : candidate.postInit setting.casefold with
  | error error => exact .of_eq (ended_ofExcept (.error error))
  | ok _ =>
    -- the constructor takes no step
    change Effect setting world now (ended stop (query _ >>= _) world)
    cases hload : world.requests.load (candidate.customerId, candidate.requestId) with
    | none =>
        have hget : (requestPlace (candidate.customerId, candidate.requestId)).get world = none :=
          hload
        have hfound : findRequest (candidate.customerId, candidate.requestId) world = .ok none := by
          rw [findRequest, hload, found]
        rcases ended_query_ok hfound with h | ⟨fewer, hfewer, h⟩
        · exact .of_eq h
        · rw [h, ended_handle (congrArg Prod.fst (run_saveOnce hget))]
          have hstop : fewer ≠ some 1 := fun h => hwhole hvalid hload (hfewer 1 h)
          rcases ended_saveOnce hget hstop with h | h
          · exact .of_eq h
          · exact h ▸ .request _ _ hload
    | some file =>
      cases file with
      | torn =>
          have hfound : findRequest (candidate.customerId, candidate.requestId) world =
              .error requestCorrupt := by
            rw [findRequest, hload, found]
          exact .of_eq (ended_query_error hfound)
      | whole existing =>
          have hfound : findRequest (candidate.customerId, candidate.requestId) world =
              .ok (some existing) := by
            rw [findRequest, hload, found]
          rcases ended_query_ok hfound with h | ⟨_, -, h⟩
          · exact .of_eq h
          · rw [h]
            change Effect setting world now (ended _ (answered candidate existing) world)
            unfold answered
            split
            · exact .of_eq (ended_ofExcept (.ok existing))
            · exact .of_eq (ended_ofExcept (.error requestConflict))

theorem publish_effect {args : Publication} {view : Except Error Snapshot}
    (hwhole : (newPackage setting args view now).isOk = true →
      world.packages.load (args.customerId, args.requestId) = none → stop ≠ some 1) :
    Effect setting world now (ended stop (publish setting args view now) world) := by
  unfold publish
  cases hnew : newPackage setting args view now with
  | error error => exact .of_eq (ended_ofExcept (.error error))
  | ok package =>
    change Effect setting world now (ended stop (saveOnce _ package _ _ _) world)
    cases hload : world.packages.load (args.customerId, args.requestId) with
    | none =>
        have hget : (packagePlace (args.customerId, args.requestId)).get world = none := hload
        rcases ended_saveOnce hget (hwhole (by rw [hnew]; rfl) hload) with h | h
        · exact .of_eq h
        · exact h ▸ .package _ _ (newPackage_publishedAt hnew) hload
    | some file =>
        have hget : (packagePlace (args.customerId, args.requestId)).get world = some file := hload
        exact .of_eq (ended_saveOnce_of_some hget)

theorem review_absent {args : Decision} {snapshot : Snapshot} {review : CustomerPreviewReview}
    (h : judge setting args snapshot now world = .ok (review, false)) :
    world.reviews.load (args.customerId, args.requestId) = none := by
  obtain ⟨_, hfound, -⟩ := judge_new setting h
  exact found_ok_none_iff.mp hfound.reviewFound

theorem review_effect {args : Decision} {view : Except Error Snapshot}
    (hwhole : (Call.review args view).Creates setting world now → stop ≠ some 2) :
    Effect setting world now (ended stop (review setting args view now) world) := by
  unfold review
  cases view with
  | error error => exact .of_eq (ended_ofExcept (.error error))
  | ok snapshot =>
    change Effect setting world now (ended stop (query _ >>= _) world)
    cases hjudge : judge setting args snapshot now world with
    | error error => exact .of_eq (ended_query_error hjudge)
    | ok decision =>
      obtain ⟨value, stored⟩ := decision
      rcases ended_query_ok hjudge with h | ⟨fewer, hfewer, h⟩
      · exact .of_eq h
      · rw [h]
        cases stored with
        | true => exact .of_eq (ended_ofExcept (.ok value))
        | false =>
            have hget : (reviewPlace (args.customerId, args.requestId)).get world = none :=
              review_absent hjudge
            have hstop : fewer ≠ some 1 := fun h =>
              hwhole ⟨snapshot, value, rfl, hjudge⟩ (hfewer 1 h)
            change Effect setting world now (ended fewer (saveOnce _ value _ _ _) world)
            rcases ended_saveOnce hget hstop with h | h
            · exact .of_eq h
            · exact h ▸ .review _ _ _ hjudge

theorem perform_effect {entry : Entry} (h : Meets setting world entry) :
    Effect setting world entry.now (entry.perform setting world) := by
  obtain ⟨call, now, stop⟩ := entry
  cases call with
  | submit candidate => exact submit_effect fun hvalid hnone => h.whole ⟨hvalid, hnone⟩
  | publish args view => exact publish_effect fun hnew hnone => h.whole ⟨hnew, hnone⟩
  | review args view => exact review_effect h.whole

/-- What is stored stays as it is. -/
structure Grows (world later : World) : Prop where
  requests : ∀ key request, world.requests.load key = some (.whole request) →
    later.requests.load key = some (.whole request)
  packages : ∀ key package, world.packages.load key = some (.whole package) →
    later.packages.load key = some (.whole package)
  reviews : ∀ key review, world.reviews.load key = some (.whole review) →
    later.reviews.load key = some (.whole review)

instance : IsTrans World Grows where
  trans _ _ _ h h' := {
    requests := fun key request hload => h'.requests key request (h.requests key request hload)
    packages := fun key package hload => h'.packages key package (h.packages key package hload)
    reviews := fun key review hload => h'.reviews key review (h.reviews key review hload) }

theorem load_written {β : Type} {table : Table Key (File β)} {key other : Key} {value : β} :
    ((table.save key .torn).save key (.whole value)).load other =
      if other = key then some (.whole value) else table.load other := by
  rw [Table.load_save, Table.load_save]
  split <;> rfl

theorem load_written_of_whole {β : Type} {table : Table Key (File β)} {key other : Key}
    {value old : β} (hnone : table.load key = none) (h : table.load other = some (.whole old)) :
    ((table.save key .torn).save key (.whole value)).load other = some (.whole old) := by
  have hne : other ≠ key := fun hsame => by simp [hsame, hnone] at h
  rw [load_written, if_neg hne, h]

theorem Effect.grows {after : World} (h : Effect setting world now after) : Grows world after := by
  cases h with
  | unchanged => exact ⟨fun _ _ h => h, fun _ _ h => h, fun _ _ h => h⟩
  | request request key hnone =>
    exact ⟨fun _ _ => load_written_of_whole hnone, fun _ _ h => h, fun _ _ h => h⟩
  | package key package hdate hnone =>
    exact ⟨fun _ _ h => h, fun _ _ => load_written_of_whole hnone, fun _ _ h => h⟩
  | review args snapshot review hjudge =>
    exact ⟨fun _ _ h => h, fun _ _ h => h,
      fun _ _ => load_written_of_whole (review_absent hjudge)⟩

variable (setting) in
/-- A stored review is of the package that is stored, and an acceptance has its evidence. -/
def Accepted (world : World) : Prop :=
  ∀ key review, world.reviews.load key = some (.whole review) →
    ∃ package, world.packages.load key = some (.whole package) ∧
      review.packageDigest = package.digest setting ∧
        (review.decision = "ACCEPT" → package.allRequiredEvidencePassed = true)

variable (setting) in
/-- No file is without its content, and no package is of the future. -/
structure Sound (world : World) : Prop where
  requests : ∀ key, world.requests.load key ≠ some .torn
  packages : ∀ key, world.packages.load key ≠ some .torn
  reviews : ∀ key, world.reviews.load key ≠ some .torn
  dated : ∀ key package, world.packages.load key = some (.whole package) →
    package.publishedAt ≤ world.clock
  accepted : Accepted setting world

theorem written_ne_torn {β : Type} {table : Table Key (File β)} {key other : Key} {value : β}
    (h : table.load other ≠ some .torn) :
    ((table.save key .torn).save key (.whole value)).load other ≠ some .torn := by
  rw [load_written]
  split
  · simp
  · exact h

theorem Effect.sound {after : World} (hs : Sound setting world) (hclock : world.clock < now)
    (h : Effect setting world now after) : Sound setting { after with clock := now } := by
  have hdated : ∀ key package, world.packages.load key = some (.whole package) →
      package.publishedAt ≤ now := fun key package hload =>
    (hs.dated key package hload).trans hclock.le
  cases h with
  | unchanged => exact ⟨hs.requests, hs.packages, hs.reviews, hdated, hs.accepted⟩
  | request request key hnone =>
    exact ⟨fun key => written_ne_torn (hs.requests key), hs.packages, hs.reviews, hdated,
      hs.accepted⟩
  | package key package hdate hnone =>
    refine ⟨hs.requests, fun key => written_ne_torn (hs.packages key), hs.reviews, ?_, ?_⟩
    · intro other stored hload
      rcases eq_or_ne other key with rfl | hne
      · obtain rfl : package = stored := by simpa [packagePlace] using hload
        exact hdate.le
      · exact hdated other stored (by simpa [packagePlace, load_written, hne] using hload)
    · intro other review hload
      obtain ⟨stored, hstored, h⟩ := hs.accepted other review hload
      exact ⟨stored, load_written_of_whole hnone hstored, h⟩
  | review args snapshot review hjudge =>
    refine ⟨hs.requests, hs.packages, fun key => written_ne_torn (hs.reviews key), hdated, ?_⟩
    intro other stored hload
    rcases eq_or_ne other (args.customerId, args.requestId) with rfl | hne
    · obtain rfl : review = stored := by simpa [reviewPlace] using hload
      obtain ⟨package, hfound, -, hpassed, hnew⟩ := judge_new setting hjudge
      obtain ⟨-, hdigest, -, hdecision, -⟩ := newReview_ok setting hnew
      exact ⟨package, found_ok_some_iff.mp hfound.packageFound, hdigest, hdecision ▸ hpassed⟩
    · exact hs.accepted other stored (by simpa [reviewPlace, load_written, hne] using hload)

theorem step_grows {entry : Entry} (h : Meets setting world entry) :
    Grows world (step setting world entry) :=
  have hgrows := (perform_effect h).grows
  ⟨hgrows.requests, hgrows.packages, hgrows.reviews⟩

theorem step_sound {entry : Entry} (hs : Sound setting world) (h : Meets setting world entry) :
    Sound setting (step setting world entry) :=
  (perform_effect h).sound hs h.clock

/-! ## What holds in every state -/

/-- A record is stored, or a save stores it. -/
def Recordable {α : Type} [DecidableEq α] (place : Place World α) (world : World) : Prop :=
  (∃ value, place.get world = some (.whole value)) ∨
    ∀ value missing torn different,
      place.get ((saveOnce place value missing torn different).run world).2 = some (.whole value)

variable (setting) in
/-- The requests of every customer can be listed, every record can be stored, and the reviews are
of the stored packages. -/
structure Intact (world : World) : Prop where
  listed : ∀ customerId, Authentication.isIdentifier customerId = true →
    ∃ requests, listForCustomer world customerId = .ok requests
  request : ∀ key, Recordable (requestPlace key) world
  package : ∀ key, Recordable (packagePlace key) world
  review : ∀ key, Recordable (reviewPlace key) world
  accepted : Accepted setting world

theorem recordable {α : Type} [DecidableEq α] {place : Place World α}
    (hput : ∀ file world, place.get (place.put file world) = some file)
    (h : place.get world ≠ some .torn) : Recordable place world := by
  cases hget : place.get world with
  | none =>
    refine .inr fun value missing torn different => ?_
    rw [run_saveOnce hget, hput]
  | some file =>
    cases file with
    | torn => exact absurd hget h
    | whole value => exact .inl ⟨value, hget⟩

theorem Sound.listed (hs : Sound setting world) {customerId : String}
    (h : Authentication.isIdentifier customerId = true) :
    ∃ requests, listForCustomer world customerId = .ok requests := by
  have hload : ∀ entry ∈ world.requests.filter (·.1.1 = customerId),
      ∃ request, loadRequest world entry.1 = .ok request := by
    intro entry hentry
    unfold loadRequest
    cases hload : world.requests.load entry.1 with
    | none => exact absurd hload (Table.load_ne_none (List.mem_of_mem_filter hentry))
    | some file =>
        cases file with
        | torn => exact absurd hload (hs.requests entry.1)
        | whole request => exact ⟨request, rfl⟩
  obtain ⟨values, hvalues⟩ := Checks.mapM_ok_of_forall hload
  refine ⟨_, Checks.check_ok_iff.mpr ⟨?_, Checks.bind_ok_iff.mpr ⟨values, hvalues, rfl⟩⟩⟩
  unfold identifier matching
  rw [if_pos h]
  rfl

theorem Sound.intact (hs : Sound setting world) : Intact setting world where
  listed _ := hs.listed
  request key := recordable (fun _ _ => Table.load_save_self) (hs.requests key)
  package key := recordable (fun _ _ => Table.load_save_self) (hs.packages key)
  review key := recordable (fun _ _ => Table.load_save_self) (hs.reviews key)
  accepted := hs.accepted

variable {args : Decision} {view : Except Error Snapshot} {stored : CustomerPreviewReview}

theorem recorded_of_review (hs : Sound setting world) (hclock : world.clock < now)
    (h : ((review setting args view now).run world).1 = .ok stored) :
    ∃ snapshot package, view = .ok snapshot ∧ Recorded setting args snapshot stored package
      ((review setting args view now).run world).2 := by
  unfold review at h ⊢
  cases view with
  | error error => cases h
  | ok snapshot =>
    change ((query (judge setting args snapshot now) >>= _ : Recording _).run world).1 = _ at h
    change ∃ snapshot' package, _ ∧ Recorded setting args snapshot' stored package
      ((query (judge setting args snapshot now) >>= _ : Recording _).run world).2
    have hrun : (query (judge setting args snapshot now) : Recording _).run world =
      (judge setting args snapshot now world, world) := rfl
    cases hjudge : judge setting args snapshot now world with
    | error error =>
        rw [run_bind_of_error (hjudge ▸ hrun)] at h
        cases h
    | ok decision =>
      obtain ⟨value, known⟩ := decision
      rw [run_bind_of_ok (hjudge ▸ hrun)] at h ⊢
      cases known with
      | true =>
          cases h
          obtain ⟨package, hrecorded⟩ := (judge_stored_iff setting).mp hjudge
          exact ⟨snapshot, package, rfl, hrecorded⟩
      | false =>
          have hget : (reviewPlace (args.customerId, args.requestId)).get world = none :=
            review_absent hjudge
          change ((saveOnce _ value _ _ _).run world).1 = _ at h
          change ∃ snapshot' package, _ ∧ Recorded setting args snapshot' stored package
            ((saveOnce (reviewPlace (args.customerId, args.requestId)) value _ _ _).run world).2
          rw [run_saveOnce hget] at h ⊢
          cases h
          obtain ⟨package, hfound, hconfirmed, -, hnew⟩ := judge_new setting hjudge
          obtain ⟨hid, hdigest, hprogress, hdecision, hcomments, hdate⟩ := newReview_ok setting hnew
          have hdated := hs.dated _ _ (found_ok_some_iff.mp hfound.packageFound)
          have hpublished := hdated.trans hclock.le
          refine ⟨snapshot, package, rfl, { hfound with reviewFound := ?_, review := ?_ },
            hconfirmed, hdecision, hcomments, hdigest.trans hconfirmed.digest⟩
          · exact found_ok_some_iff.mpr Table.load_save_self
          · simp [reviewBound, hid, hdigest, hprogress, hdate, hpublished]

theorem Recorded.again {snapshot : Snapshot} {package : CustomerPreviewEvidencePackage}
    (h : Recorded setting args snapshot stored package world) :
    ((review setting args (.ok snapshot) now).run world).1 = .ok stored := by
  have hjudge : judge setting args snapshot now world = .ok (stored, true) :=
    (judge_stored_iff setting).mpr ⟨package, h⟩
  have hrun : (query (judge setting args snapshot now) : Recording _).run world =
    (judge setting args snapshot now world, world) := rfl
  change ((query (judge setting args snapshot now) >>= _ : Recording _).run world).1 = _
  rw [run_bind_of_ok (hjudge ▸ hrun)]
  rfl

theorem Recorded.mono {snapshot : Snapshot} {package : CustomerPreviewEvidencePackage}
    {later : World} (h : Recorded setting args snapshot stored package world)
    (hgrows : Grows world later) : Recorded setting args snapshot stored package later :=
  ⟨{ h.found with
      packageFound := found_ok_some_iff.mpr
        (hgrows.packages _ _ (found_ok_some_iff.mp h.found.packageFound))
      reviewFound := found_ok_some_iff.mpr
        (hgrows.reviews _ _ (found_ok_some_iff.mp h.found.reviewFound)) }, h.confirmed, h.asks⟩

variable (setting) in
/-- A review that was returned is returned again in every later state of the run. -/
def Repeatable (start : World) (entries : List Entry) : Prop :=
  ∀ before later args view now again stored,
    before ++ ⟨.review args view, now, none⟩ :: later <+: entries →
      ((review setting args view now).run (before.foldl (step setting) start)).1 = .ok stored →
        ((review setting args view again).run
          ((before ++ ⟨.review args view, now, none⟩ :: later).foldl (step setting) start)).1 =
            .ok stored

theorem sound_new (clock : Timestamp) : Sound setting (.new clock) where
  requests := by simp [World.new]
  packages := by simp [World.new]
  reviews := by simp [World.new]
  dated := by simp [World.new]
  accepted := by simp [World.new, Accepted]

theorem repeatable {start : World} {entries : List Entry} (hstart : Sound setting start)
    (h : AllMeet (step setting) (Meets setting) start entries) :
    Repeatable setting start entries := by
  rintro before later args view now again stored ⟨rest, rfl⟩ hreturned
  rw [List.append_assoc, allMeet_append] at h
  obtain ⟨hbefore, hmeets, hlater⟩ := h
  have hs := inv_of_allMeet _ (fun _ _ => step_sound) before _ hstart hbefore _
    (foldl_mem_scanl ..)
  obtain ⟨snapshot, package, rfl, hrecorded⟩ := recorded_of_review hs hmeets.clock hreturned
  rw [List.foldl_append, List.foldl_cons]
  have hmono : ∀ world entry, Recorded setting args snapshot stored package world →
      Meets setting world entry →
        Recorded setting args snapshot stored package (step setting world entry) :=
    fun _ _ h hmeets => h.mono (step_grows hmeets)
  have hafter : Recorded setting args snapshot stored package (step setting
      (before.foldl (step setting) start) ⟨.review args (.ok snapshot), now, none⟩) :=
    hrecorded.mono ⟨fun _ _ h => h, fun _ _ h => h, fun _ _ h => h⟩
  exact (inv_of_allMeet _ hmono later _ hafter ((allMeet_append later rest _).mp hlater).1 _
    (foldl_mem_scanl ..)).again

theorem newPackage_later {args : Publication} {package : CustomerPreviewEvidencePackage}
    {later : Timestamp} (h : newPackage setting args view now = .ok package) :
    newPackage setting args view later = .ok { package with publishedAt := later } := by
  unfold newPackage at h ⊢
  obtain ⟨snapshot, hview, h⟩ := Checks.bind_ok_iff.mp h
  obtain ⟨origin, horigin, h⟩ := Checks.bind_ok_iff.mp h
  obtain ⟨hallowed, h⟩ := Checks.guard_bind_ok_iff.mp h
  obtain ⟨packageId, hid, h⟩ := Checks.bind_ok_iff.mp h
  obtain ⟨hvalid, h⟩ := Checks.check_ok_iff.mp h
  obtain rfl := Checks.pure_ok_iff.mp h
  refine Checks.bind_ok_iff.mpr ⟨snapshot, hview, Checks.bind_ok_iff.mpr ⟨origin, horigin, ?_⟩⟩
  refine Checks.guard_bind_ok_iff.mpr ⟨hallowed, Checks.bind_ok_iff.mpr ⟨packageId, hid, ?_⟩⟩
  exact Checks.check_ok_iff.mpr ⟨hvalid, rfl⟩

theorem publish_again {args : Publication} {package : CustomerPreviewEvidencePackage}
    (hnew : newPackage setting args view package.publishedAt = .ok package)
    (hload : world.packages.load (args.customerId, args.requestId) = some (.whole package))
    (hnow : package.publishedAt < now) : ((publish setting args view now).run world).1 =
      .error (conflict "A different preview evidence package already exists") := by
  have hne : package ≠ { package with publishedAt := now } := fun hsame =>
    hnow.ne (congrArg CustomerPreviewEvidencePackage.publishedAt hsame)
  have hget : (packagePlace (args.customerId, args.requestId)).get world = some (.whole package) :=
    hload
  unfold publish
  rw [newPackage_later hnew]
  exact (run_saveOnce_of_whole hget).trans (if_neg hne)

def sampleSetting : Setting where
  casefold text := text
  sha256 _ := "0"
  urlsplit _ := .error ""
  packageText _ := ""
  allowedPreviewOrigins := []

def sampleRequest (requestId : String) : CustomerProductRequest where
  requestId := requestId
  customerId := "customer"
  productName := "Booking"
  productSummary := "Books rooms"
  targetUsers := "Hotels"
  features := ["Calendar"]
  constraints := []
  submittedAt := 1

section Crash

variable {setting : Setting} {α : Type} {world later : World}

/-- Every file is still there, with the same content or without it. -/
structure Stays (world later : World) : Prop where
  requests : world.requests.Extended later.requests
  packages : world.packages.Extended later.packages
  reviews : world.reviews.Extended later.reviews

theorem Stays.refl (world : World) : Stays world world :=
  ⟨fun _ _ h => h, fun _ _ h => h, fun _ _ h => h⟩

instance : IsTrans World Stays where
  trans _ _ _ h h' := ⟨h.requests.trans h'.requests, h.packages.trans h'.packages,
    h.reviews.trans h'.reviews⟩

/-- A file may be put, and put again, where there was none. -/
def Additive (place : Place World α) : Prop :=
  ∀ ⦃world later⦄, Stays world later → place.get later = none → ∀ file file',
    Stays world (place.put file later) ∧ Stays world (place.put file' (place.put file later))

theorem requestPlace_additive (key : Key) : Additive (requestPlace key) := by
  intro world later h hnone file file'
  have hput := h.requests.put hnone
  exact ⟨⟨hput.1 file, h.packages, h.reviews⟩, ⟨hput.2 file file', h.packages, h.reviews⟩⟩

theorem packagePlace_additive (key : Key) : Additive (packagePlace key) := by
  intro world later h hnone file file'
  have hput := h.packages.put hnone
  exact ⟨⟨h.requests, hput.1 file, h.reviews⟩, ⟨h.requests, hput.2 file file', h.reviews⟩⟩

theorem reviewPlace_additive (key : Key) : Additive (reviewPlace key) := by
  intro world later h hnone file file'
  have hput := h.reviews.put hnone
  exact ⟨⟨h.requests, h.packages, hput.1 file⟩, ⟨h.requests, h.packages, hput.2 file file'⟩⟩

/-- Every step of the procedure leaves the files of a world. -/
abbrev Leaves (world : World) (x : Recording α) (later : World) : Prop :=
  Obeys (fun _ next => Stays world next) x later (fun _ => Stays world) fun _ => Stays world

theorem leaves_query_bind {β : Type} (h : Stays world later) {answer : World → Except Error α}
    {f : α → Recording β} (hf : ∀ a, Leaves world (f a) later) :
    Leaves world (query answer >>= f) later :=
  obeys_bind.mpr (obeys_query.mpr ⟨h, obeys_ofExcept.mpr ⟨fun a _ => hf a, fun _ _ => h⟩⟩)

theorem leaves_saveOnce [DecidableEq α] {place : Place World α} (hplace : Additive place)
    (h : Stays world later) {value : α} {missing torn different : Error} :
    Leaves world (saveOnce place value missing torn different) later := by
  refine obeys_bind.mpr (Place.obeys_exclusiveWrite (fun _ => ⟨h, ?_⟩) fun hnone => ?_)
  · refine leaves_query_bind h fun existing => ?_
    split
    · exact h
    · exact h
  · obtain ⟨hfirst, hsecond⟩ := hplace h hnone .torn (.whole value)
    exact ⟨hfirst, hsecond, hsecond⟩

theorem answered_leaves (h : Stays world later) (candidate existing : CustomerProductRequest) :
    Leaves world (answered candidate existing) later := by
  unfold answered
  split
  · exact h
  · exact h

theorem submit_leaves (candidate : CustomerProductRequest) :
    Leaves world (submit setting candidate) world := by
  have h := Stays.refl world
  refine obeys_bind.mpr (obeys_ofExcept.mpr ⟨fun _ _ => ?_, fun _ _ => h⟩)
  refine leaves_query_bind h fun existing => ?_
  cases existing with
  | some existing => exact answered_leaves h candidate existing
  | none =>
    refine obeys_handle.mpr ((leaves_saveOnce (requestPlace_additive _) h).mono
      (fun _ _ h => h) fun e later h => ?_)
    split
    · exact leaves_query_bind h fun existing => answered_leaves h candidate existing
    · exact h

theorem publish_leaves (args : Publication) (view : Except Error Snapshot) (now : Timestamp) :
    Leaves world (publish setting args view now) world := by
  have h := Stays.refl world
  refine obeys_bind.mpr (obeys_ofExcept.mpr ⟨fun _ _ => ?_, fun _ _ => h⟩)
  exact leaves_saveOnce (packagePlace_additive _) h

theorem review_leaves (args : Decision) (view : Except Error Snapshot) (now : Timestamp) :
    Leaves world (review setting args view now) world := by
  have h := Stays.refl world
  refine obeys_bind.mpr (obeys_ofExcept.mpr ⟨fun _ _ => ?_, fun _ _ => h⟩)
  refine leaves_query_bind h fun found => ?_
  obtain ⟨value, stored⟩ := found
  cases stored with
  | true => exact h
  | false => exact leaves_saveOnce (reviewPlace_additive _) h

theorem Leaves.ended {x : Recording α} (hx : Leaves world x world) (stop : Option Nat) :
    Stays world (ended stop x world) := by
  have hkeep : ∀ t u : World, Stays world t → Stays world u → Stays world u := fun _ _ _ h => h
  cases stop with
  | none => exact Obeys.final hx (.refl world) hkeep
  | some stop => exact Obeys.left hx (.refl world) hkeep stop

/-- No call takes a file away or changes it, wherever its process dies. -/
theorem step_stays (world : World) (entry : Entry) : Stays world (step setting world entry) := by
  have hperform : Stays world (entry.perform setting world) := by
    obtain ⟨call, now, stop⟩ := entry
    cases call with
    | submit candidate => exact (submit_leaves _).ended stop
    | publish args view => exact (publish_leaves args view now).ended stop
    | review args view => exact (review_leaves args view now).ended stop
  exact ⟨hperform.requests, hperform.packages, hperform.reviews⟩

theorem not_listed {key : Key} (hload : world.requests.load key = some .torn) :
    (listForCustomer world key.1).isOk = false := by
  cases hlist : listForCustomer world key.1 with
  | error error => rfl
  | ok values =>
    obtain ⟨-, hlist⟩ := Checks.check_ok_iff.mp hlist
    obtain ⟨requests, hrequests, -⟩ := Checks.bind_ok_iff.mp hlist
    have hmem : (key, File.torn) ∈ world.requests.filter (·.1.1 = key.1) :=
      List.mem_filter.mpr ⟨Table.mem_of_load hload, by simp⟩
    obtain ⟨request, -, hrequest⟩ := Checks.exists_of_mapM_ok hrequests _ hmem
    rw [loadRequest, hload] at hrequest
    cases hrequest

theorem not_submitted {candidate : CustomerProductRequest}
    (hload : world.requests.load (candidate.customerId, candidate.requestId) = some .torn) :
    ((submit setting candidate).run world).1.isOk = false := by
  unfold submit
  cases candidate.postInit setting.casefold with
  | error error => rfl
  | ok _ =>
    have hfound : findRequest (candidate.customerId, candidate.requestId) world =
        .error requestCorrupt := by
      rw [findRequest, hload, found]
    have hquery : (query (findRequest (candidate.customerId, candidate.requestId)) :
        Recording _).run world = (.error requestCorrupt, world) :=
      congrArg (·, world) hfound
    change ((query _ >>= _ : Recording CustomerProductRequest).run world).1.isOk = false
    rw [run_bind_of_error hquery]
    rfl

/-- Whatever calls follow, and wherever they die, every file stays as it is: where a crash has
left a request without its content, its customer's requests are never listed again and no call
submits it. -/
theorem crash_final (start : World) (entries : List Entry) :
    Forward (step setting) Stays start entries ∧
      ∀ world ∈ entries.scanl (step setting) start, ∀ key,
        start.requests.load key = some .torn →
          (listForCustomer world key.1).isOk = false ∧
            ∀ candidate : CustomerProductRequest,
              (candidate.customerId, candidate.requestId) = key →
                ((submit setting candidate).run world).1.isOk = false := by
  refine ⟨forward_of_step (fun _ => True) (fun world entry _ => step_stays world entry)
    (fun _ _ _ => trivial) entries start trivial, fun world hworld key htorn => ?_⟩
  have hstays := inv_of_mem_scanl (Stays start)
    (fun world entry h => IsTrans.trans _ _ _ h (step_stays world entry)) entries start
    (.refl start) world hworld
  have hload := hstays.requests key _ htorn
  refine ⟨not_listed hload, ?_⟩
  rintro candidate rfl
  exact not_submitted hload

end Crash

end CustomerEvidence
end Ascos
