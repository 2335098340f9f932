import Ascos.Outbox.Application
import Ascos.Outbox.Fencing

/-!
# Interleaved dispatch workers

Any number of `OutboxWorker`s share one repository and one result application.  A
`run_one` is cut at every call it makes, so between two calls of one worker any other
worker, and any other caller of the repository, may run and time may pass; in particular
while a provider is at work.

A worker is stale when its claim does not pass validation any more.  Two branches of
`run_one` act without validating the claim: applying a returned result without an event
publisher, and assigning the failure fields of an operation before dead-lettering it.

Main results:

- Theorem `stays_stale`: a stale claim stays stale, whatever anybody does.
- Theorem `stale_workers_powerless`: in every interleaving in which no stale worker
  takes one of the two branches, a stale worker changes nothing.
- Theorem `stale_worker_writes`: a stale worker that takes one does.
-/

namespace Ascos
namespace Outbox

open Library
open Ascos.Library.Program (Moves Returns exec exec_bind exec_get exec_map_snd exec_pure
  exec_tryCatch)

/-! ## The shared state -/

structure Shared where
  repository : Repository
  results : Results

/-- Call a method of the shared repository. -/
def call (D : Digests) (command : Command) : Program Shared Failure Response := do
  let shared ← get
  match exec (command.run D) shared.repository with
  | (.ok response, repository) => set { shared with repository }; pure response
  | (.error error, repository) => set { shared with repository }; throw (.outbox error)

def onResults {α : Type} (method : Program Results Failure α) : Program Shared Failure α := do
  let shared ← get
  match exec method shared.results with
  | (.ok a, results) => set { shared with results }; pure a
  | (.error error, results) => set { shared with results }; throw error

def operationObject (operationId : String) : Program Shared Failure OutboxOperation := do
  match (← get).repository.operations.get? operationId with
  | some operation => pure operation
  | none => throw (.outbox (.operationNotFound operationId))

def assignFields (operation : OutboxOperation) : Program Shared Failure Unit :=
  modify fun shared =>
    { shared with
      repository :=
        { shared.repository with operations := shared.repository.operations.put operation } }

/-- What a rollback restores: the dictionaries and the operation objects.  The list objects
of attempts are no snapshot targets, so those that were on file keep what was written. -/
def Repository.rolledBack (before after : Repository) : Repository :=
  { before with attempts := after.attempts.filter fun id _ => before.attempts.contains id }

/-- What a rollback of a worker's transaction restores. -/
def Shared.rolledBack (before after : Shared) : Shared where
  repository := before.repository.rolledBack after.repository
  results := before.results

/-- `with self.event_publisher.atomic()` outside any transaction: commit, or put back. -/
def transacted {α : Type} (committed : Except Failure Unit) (body : Program Shared Failure α) :
    Program Shared Failure α := do
  let before ← get
  tryCatch (do let a ← body; outside committed; pure a) fun error => do
    modify before.rolledBack
    throw error

/-! ## One worker -/

/-- Where a worker is in `run_one`, between two calls. -/
inductive Stage where
  /-- Not in `run_one`. -/
  | idle
  /-- Holding a new claim. -/
  | claimed (claim : OutboxClaim)
  /-- Waiting for the provider. -/
  | dispatching (claim : OutboxClaim)
  /-- The provider has returned a result. -/
  | returned (claim : OutboxClaim) (result : ProviderDispatchResult)
  /-- The result was applied outside any transaction. -/
  | applied (claim : OutboxClaim) (result : ProviderDispatchResult)
  /-- In the inner handler. -/
  | unconfirmed (claim : OutboxClaim)
  /-- In the outer handler. -/
  | raised (claim : OutboxClaim) (error : Failure)
  /-- The failure fields are assigned. -/
  | condemned (claim : OutboxClaim) (code : String)

/-- The claim of the `run_one` that a worker is in. -/
def Stage.claim : Stage → Option OutboxClaim
  | .idle => none
  | .claimed claim | .dispatching claim | .returned claim _ | .applied claim _
  | .unconfirmed claim | .raised claim _ | .condemned claim _ => some claim

/-- What surrounds one step of a worker: the drawn token, what handlers, providers, guard,
publisher and commit do, and the clock readings. -/
structure Surroundings where
  token : String := ""
  /-- `handlers.get`, `providers.get` and `supports`. -/
  resolved : Except Failure Unit := .ok ()
  /-- The publication of the event of this step. -/
  emitted : Except Failure Unit := .ok ()
  /-- `handler.dispatch`. -/
  outcome : Except Failure ProviderDispatchResult := .error (.other "RuntimeError")
  /-- `result_guard`. -/
  guarded : Except Failure Unit := .ok ()
  committed : Except Failure Unit := .ok ()
  /-- The system clock in the result application. -/
  firstDispatchAt : Timestamp := 0
  completionTime : Timestamp := 0
  /-- The worker's clock, and the repository's: validation's reading and the method's. -/
  classified : Timestamp
  retried : Timestamp
  t₀ : Timestamp
  now : Timestamp

/-- The readings of the clock that the worker and the repository share. -/
def Surroundings.readings (s : Surroundings) : List Timestamp :=
  [s.classified, s.retried, s.t₀, s.now]

/-- A worker and whether it has an event publisher. -/
structure Member where
  worker : OutboxWorker
  published : Bool

def Member.emit (member : Member) (s : Surroundings) : Program Shared Failure Unit :=
  if member.published = true then outside s.emitted else pure ()

variable (D : ApplicationDigests)

/-- `result_application.apply` on the operation object of a claim. -/
def applyTo (claim : OutboxClaim) (result : ProviderDispatchResult) (s : Surroundings) :
    Program Shared Failure Unit := do
  let operation ← operationObject claim.operationId
  let _ ← onResults (applyResult D operation result s.firstDispatchAt s.completionTime)
  pure ()

/-- One step of `run_one`, from one call to the next; a raise leaves it. -/
def Member.advance (member : Member) (s : Surroundings) :
    Stage → Program Shared Failure Stage
  | .idle => do
    match ← call D.toDigests (.claimNext member.worker.workerId s.token
        member.worker.claimTtlSeconds s.now) with
    | .claim (some claim) =>
        member.emit s
        pure (.claimed claim)
    | _ => pure .idle
  | .claimed claim =>
    tryCatch
      (do outside s.resolved
          let _ ← call D.toDigests (.markDispatching claim s.t₀ s.now)
          member.emit s
          pure (.dispatching claim))
      fun error => pure (.raised claim error)
  | .dispatching claim =>
    match s.outcome with
    | .ok result => pure (.returned claim result)
    | .error error => pure (.raised claim error)
  | .returned claim result =>
    if member.published = true then
      tryCatch
        (do outside s.guarded
            transacted s.committed do
              applyTo D claim result s
              let _ ← call D.toDigests
                (.markSucceeded claim result.resultReference s.t₀ s.now)
              member.emit s
            pure .idle)
        fun _ => pure (.unconfirmed claim)
    else
      tryCatch
        (do outside s.guarded
            applyTo D claim result s
            pure (.applied claim result))
        fun _ => pure (.unconfirmed claim)
  | .applied claim result =>
    tryCatch
      (do let _ ← call D.toDigests
            (.markSucceeded claim result.resultReference s.t₀ s.now)
          pure .idle)
      fun _ => pure (.unconfirmed claim)
  | .unconfirmed claim =>
    tryCatch
      (do let _ ← call D.toDigests
            (.markReconciliationRequired claim "LOCAL_RESULT_UNCONFIRMED" s.t₀ s.now)
          pure .idle)
      fun error => pure (.raised claim error)
  | .raised claim error => do
    let operation ← operationObject claim.operationId
    let decision := member.worker.retryPolicy.classify error operation s.classified
    match decision.category with
    | .reconciliationRequired =>
        let _ ← call D.toDigests
          (.markReconciliationRequired claim decision.code s.t₀ s.now)
        member.emit s
        pure .idle
    | .retryableImmediate | .retryableBackoff | .rateLimited =>
        let _ ← call D.toDigests (.markRetryWait claim decision.category decision.code
          (decision.retryAt.getD s.retried) s.t₀ s.now)
        member.emit s
        pure .idle
    | .nonRetryable | .unknown =>
        assignFields (failedRecord decision.category decision.code operation)
        pure (.condemned claim decision.code)
  | .condemned claim code => do
    let _ ← call D.toDigests (.markDeadLetter claim code s.t₀ s.now)
    member.emit s
    pure .idle

/-! ## Interleavings -/

/-- The state that the workers share, the time, and where each worker is. -/
structure Floor where
  shared : Shared
  clock : Timestamp
  stages : Nat → Stage

/-- A worker's step, or a call of the repository by anyone else. -/
inductive Label where
  | worker (i : Nat) (s : Surroundings)
  | other (command : Command)

/-- The clock readings of a call. -/
def Command.readings : Command → List Timestamp
  | .addOperation _ | .setProviderPause _ _ => []
  | .claimNext _ _ _ now | .claimReconciliation _ _ _ now => [now]
  | .renewClaim _ _ t₀ now | .markDispatching _ t₀ now | .markSucceeded _ _ t₀ now
  | .markRetryWait _ _ _ _ t₀ now | .markReconciliationRequired _ _ t₀ now
  | .markDeadLetter _ _ t₀ now => [t₀, now]
  | .releaseClaim _ t₀ => [t₀]
  | .cancelOperation _ now | .abandonOperation _ _ now | .recoverExpired now
  | .retryDeadLetter _ now => [now]

def Label.readings : Label → List Timestamp
  | .worker _ s => s.readings
  | .other command => command.readings

variable (team : Nat → Member)

/-- The floor after a step; a worker whose step raises has left `run_one`. -/
def Floor.after (floor : Floor) (clock : Timestamp) : Label → Floor
  | .worker i s =>
    match exec ((team i).advance D s (floor.stages i)) floor.shared with
    | (.ok stage, shared) =>
        { shared, clock, stages := Function.update floor.stages i stage }
    | (.error _, shared) =>
        { shared, clock, stages := Function.update floor.stages i .idle }
  | .other command =>
    { floor with
      shared :=
        { floor.shared with
          repository := (record D.toDigests floor.shared.repository command).post }
      clock }

structure Step where
  pre : Floor
  label : Label
  post : Floor

/-- The interleavings: from any shared state with every worker idle, steps of anyone in any
order under a clock that does not go back. -/
inductive Run : List Step → Floor → Prop
  | start (shared : Shared) (clock : Timestamp) :
      Run [] { shared, clock, stages := fun _ => .idle }
  | step {steps : List Step} {floor : Floor} (hrun : Run steps floor) (label : Label)
      (clock : Timestamp) (hlater : floor.clock ≤ clock)
      (hreadings : ∀ t ∈ label.readings, floor.clock ≤ t ∧ t ≤ clock) :
      Run (⟨floor, label, floor.after D team clock label⟩ :: steps)
        (floor.after D team clock label)

/-- The claim of a worker does not pass any more. -/
def Stale (floor : Floor) (claim : OutboxClaim) : Prop :=
  ¬Passes D.toDigests floor.shared.repository claim floor.clock

/-! ## Stale claims stay stale -/

variable {D} {r r' : Repository} {t : Timestamp}

theorem Passes.earlier {D : Digests} {claim : OutboxClaim} {t' : Timestamp} (hle : t ≤ t')
    (hpasses : Passes D r claim t') : Passes D r claim t := by
  obtain ⟨operation, hverdict⟩ := hpasses
  obtain ⟨hget, hrecord, expiry, hexpiry, hlive⟩ := claimVerdict_ok_iff.mp hverdict
  exact ⟨operation, claimVerdict_ok_iff.mpr ⟨hget, hrecord, expiry, hexpiry, lt_of_le_of_lt hle hlive⟩⟩

/-- The operation of the claim is filed, and no earlier claim of it is on record. -/
def Held (r : Repository) (claim : OutboxClaim) : Prop :=
  ∃ operation, r.operations.get? claim.operationId = some operation ∧
    claim.fencingToken ≤ operation.fencingToken

theorem RecordStep.live_before {D : Digests} {command : Command} {response : Response}
    {before after : OutboxOperation} (hstep : RecordStep D r command response before after)
    (hreadings : ∀ u ∈ command.readings, t ≤ u) {identity : Identity}
    (hrecord : onRecord after = some identity) {expiry : Timestamp}
    (hexpiry : after.claimExpiresAt = some expiry) (hlive : t < expiry) :
    before.fencingToken < identity.fencingToken ∨
      onRecord before = some identity ∧
        ∃ earlier, before.claimExpiresAt = some earlier ∧ t < earlier := by
  have hcleared : ∀ {operation : OutboxOperation},
      onRecord (clearClaim operation) = some identity → False := by
    intro operation h
    rw [onRecord_clearClaim] at h
    cases h
  have hrecovered : ∀ now, onRecord (recoverOne now before) = some identity →
      (recoverOne now before).claimExpiresAt = some expiry →
        onRecord before = some identity ∧
          ∃ earlier, before.claimExpiresAt = some earlier ∧ t < earlier := by
    intro now hrecord hexpiry
    unfold recoverOne at hrecord hexpiry
    split at hrecord
    · exact (hcleared hrecord).elim
    · rename_i hkept
      rw [if_neg hkept] at hexpiry
      exact ⟨hrecord, expiry, hexpiry, hlive⟩
  cases hstep with
  | untouched => exact .inr ⟨hrecord, expiry, hexpiry, hlive⟩
  | recovered now => exact .inr (hrecovered now hrecord hexpiry)
  | recoveredFirst ownerId token ttlSeconds now =>
    exact .inr (hrecovered now hrecord hexpiry)
  | claimed =>
    have hfence := fencingToken_of_onRecord hrecord
    simp only [claimedRecord, recoverOne_fencingToken] at hfence
    exact .inl (by omega)
  | claimedReconciliation =>
    have hfence := fencingToken_of_onRecord hrecord
    simp only [claimedRecord] at hfence
    exact .inl (by omega)
  | renewed claim ttlSeconds t₀ now _ hverdict =>
    -- a renewal keeps the identity of a claim that passed
    obtain ⟨-, hbefore, earlier, hearlier, hpassed⟩ := claimVerdict_ok_iff.mp hverdict
    obtain ⟨-, howner, hhash, hfence⟩ := onRecord_eq_some_iff.mp hrecord
    refine .inr ⟨onRecord_eq_some_iff.mpr ⟨⟨earlier, hearlier⟩, howner, hhash, hfence⟩,
      earlier, hearlier, lt_of_le_of_lt ?_ hpassed⟩
    exact hreadings t₀ (by simp [Command.readings])
  | dispatched => exact .inr ⟨hrecord, expiry, hexpiry, hlive⟩
  | cancelled => exact .inr ⟨hrecord, expiry, hexpiry, hlive⟩
  | abandoned => exact .inr ⟨hrecord, expiry, hexpiry, hlive⟩
  | retried => exact .inr ⟨hrecord, expiry, hexpiry, hlive⟩
  | released => simp [onRecord, clearClaim] at hrecord
  | succeeded => exact (hcleared hrecord).elim
  | exhausted => exact (hcleared hrecord).elim
  | waiting => exact (hcleared hrecord).elim
  | uncertain => exact (hcleared hrecord).elim
  | deadLettered => exact (hcleared hrecord).elim

/-- From one repository to a later one, claims stay held and stale claims stale. -/
structure Ages (D : Digests) (t : Timestamp) (r r' : Repository) : Prop where
  held : ∀ claim, Held r claim → Held r' claim
  stale : ∀ claim, Held r claim → ¬Passes D r claim t → ¬Passes D r' claim t

theorem Ages.trans {D : Digests} {r'' : Repository} (hfirst : Ages D t r r')
    (hsecond : Ages D t r' r'') : Ages D t r r'' where
  held := fun claim hheld => hsecond.held claim (hfirst.held claim hheld)
  stale := fun claim hheld hstale =>
    hsecond.stale claim (hfirst.held claim hheld) (hfirst.stale claim hheld hstale)

theorem Ages.of_operations {D : Digests} (h : r'.operations = r.operations) :
    Ages D t r r' where
  held := fun claim hheld => by rwa [Held, h]
  stale := fun claim _ hstale ⟨operation, hverdict⟩ =>
    hstale ⟨operation, by rwa [claimVerdict, h] at hverdict⟩

theorem Ages.call {D : Digests} (r : Repository) {command : Command}
    (hreadings : ∀ u ∈ command.readings, t ≤ u) : Ages D t r (record D r command).post where
  held := by
    rintro claim ⟨before, hbefore, hle⟩
    obtain ⟨after, hafter, hstep⟩ := get?_record_post D r command hbefore
    exact ⟨after, hafter, hle.trans hstep.fencingToken_le⟩
  stale := by
    rintro claim ⟨before, hbefore, hle⟩ hstale ⟨after, hverdict⟩
    obtain ⟨hafter, hrecord, expiry, hexpiry, hlive⟩ := claimVerdict_ok_iff.mp hverdict
    refine hstale ⟨before, claimVerdict_ok_iff.mpr ⟨hbefore, ?_⟩⟩
    rcases record_inv D r command hafter with
      ⟨-, -, hsame⟩ | ⟨response, -, ⟨found, hfound, hstep⟩ | ⟨hnew, -⟩⟩
    · rw [hbefore, Option.some.injEq] at hsame
      subst hsame
      exact ⟨hrecord, expiry, hexpiry, hlive⟩
    · rw [hbefore, Option.some.injEq] at hfound
      subst hfound
      rcases hstep.live_before hreadings hrecord hexpiry hlive with hlt | hbeforeLive
      · simp only [OutboxClaim.identity] at hlt
        omega
      · exact hbeforeLive
    · rw [hbefore] at hnew
      cases hnew

theorem Ages.assign {D : Digests} {operation : OutboxOperation} (category : FailureCategory)
    (code : String) (hfiled : r.operations.get? operation.operationId = some operation) :
    Ages D t r
      { r with operations := r.operations.put (failedRecord category code operation) } := by
  have hget : ∀ {id found}, r.operations.get? id = some found →
      ∃ later, (r.operations.put (failedRecord category code operation)).get? id =
          some later ∧ later.fencingToken = found.fencingToken ∧
            onRecord later = onRecord found ∧
              later.claimExpiresAt = found.claimExpiresAt := by
    intro id found hfound
    rw [OperationTable.get?_put]
    split
    · rename_i hid
      obtain rfl : operation.operationId = id := hid
      rw [hfiled, Option.some.injEq] at hfound
      subst hfound
      exact ⟨_, rfl, rfl, rfl, rfl⟩
    · exact ⟨found, hfound, rfl, rfl, rfl⟩
  constructor
  · rintro claim ⟨before, hbefore, hle⟩
    obtain ⟨later, hlater, hfence, -, -⟩ := hget hbefore
    exact ⟨later, hlater, hfence ▸ hle⟩
  · rintro claim ⟨before, hbefore, -⟩ hstale ⟨after, hverdict⟩
    obtain ⟨hafter, hrecord, expiry, hexpiry, hlive⟩ := claimVerdict_ok_iff.mp hverdict
    obtain ⟨later, hlater, -, hsame, hsameExpiry⟩ := hget hbefore
    obtain rfl : later = after := Option.some.inj (hlater.symm.trans hafter)
    exact hstale ⟨before, claimVerdict_ok_iff.mpr
      ⟨hbefore, hsame ▸ hrecord, expiry, hsameExpiry ▸ hexpiry, hlive⟩⟩

/-! ## What a call can reach -/

/-- Two repositories agree on every other operation and its attempts. -/
structure SameElsewhere (operationId : String) (r r' : Repository) : Prop where
  operations : ∀ id, id ≠ operationId → r'.operations.get? id = r.operations.get? id
  attempts : ∀ id, id ≠ operationId → r'.attempts[id]? = r.attempts[id]?

theorem SameElsewhere.refl (operationId : String) (r : Repository) :
    SameElsewhere operationId r r :=
  ⟨fun _ _ => rfl, fun _ _ => rfl⟩

theorem SameElsewhere.trans {operationId : String} {r'' : Repository}
    (hfirst : SameElsewhere operationId r r') (hsecond : SameElsewhere operationId r' r'') :
    SameElsewhere operationId r r'' where
  operations := fun id hid => (hsecond.operations id hid).trans (hfirst.operations id hid)
  attempts := fun id hid => (hsecond.attempts id hid).trans (hfirst.attempts id hid)

theorem SameElsewhere.of_put {operationId : String} {written : OutboxOperation}
    (hoperations : r'.operations = r.operations.put written)
    (hkey : written.operationId = operationId)
    (hattempts : ∀ id, id ≠ operationId → r'.attempts[id]? = r.attempts[id]?) :
    SameElsewhere operationId r r' where
  operations := fun id hid => by
    rw [hoperations, OperationTable.get?_put, hkey, if_neg (Ne.symm hid)]
  attempts := hattempts

theorem SameElsewhere.call {D : Digests} {r : Repository} {command : Command}
    {claim : OutboxClaim} {t₀ : Timestamp} (hpresented : command.presented = some (claim, t₀)) :
    SameElsewhere claim.operationId r (record D r command).post := by
  by_cases hpasses : Passes D r claim t₀
  · obtain ⟨operation, hverdict⟩ := hpasses
    obtain ⟨hid, -⟩ := onRecord_of_claimVerdict hverdict
    rw [hid]
    have hinsert : ∀ (attempts : List OutboxAttempt) (id : String),
        id ≠ operation.operationId →
          (r.attempts.insert operation.operationId attempts)[id]? = r.attempts[id]? := by
      intro attempts id hne
      simp [Std.ExtTreeMap.getElem?_insert, Ne.symm hne]
    have hmodify : ∀ (f : List OutboxAttempt → List OutboxAttempt) (id : String),
        id ≠ operation.operationId →
          (r.attempts.modify operation.operationId f)[id]? = r.attempts[id]? := by
      intro f id hne
      simp [Std.ExtTreeMap.getElem?_modify, Ne.symm hne]
    cases command <;> simp only [Command.presented, Option.some.injEq, Prod.mk.injEq,
      reduceCtorEq] at hpresented
    all_goals obtain ⟨rfl, rfl⟩ := hpresented
    all_goals simp only [record, Command.run, renewClaim, releaseClaim, markDispatching,
      markSucceeded, markRetryWait, markReconciliationRequired, markDeadLetter, deadLetter,
      exec_map_snd, exec_bind, exec_validateClaim, hverdict]
    case renewClaim => exact .of_put rfl rfl fun _ _ => rfl
    case releaseClaim =>
      split_ifs
      · exact .refl _ r
      · exact .of_put rfl rfl fun _ _ => rfl
    case markDispatching =>
      split_ifs
      · exact .refl _ r
      · exact .of_put rfl rfl (hinsert _)
    case markSucceeded =>
      split_ifs
      · exact .refl _ r
      · exact .refl _ r
      · exact .of_put rfl rfl (hmodify _)
    case markRetryWait =>
      split_ifs
      · exact .of_put rfl rfl (hmodify _)
      · exact .of_put rfl rfl (hmodify _)
    case markReconciliationRequired => exact .of_put rfl rfl (hmodify _)
    case markDeadLetter => exact .of_put rfl rfl (hmodify _)
  · obtain ⟨error, hexec⟩ := refused_of_not_passes hpresented hpasses
    rw [record, hexec]
    exact .refl _ r

theorem SameElsewhere.rolledBack {operationId : String} (h : SameElsewhere operationId r r') :
    SameElsewhere operationId r (r.rolledBack r') where
  operations := fun _ _ => rfl
  attempts := by
    intro id hid
    simp only [Repository.rolledBack, Std.ExtTreeMap.getElem?_filter', h.attempts id hid,
      Std.ExtTreeMap.contains_eq_isSome_getElem?]
    cases r.attempts[id]? <;> rfl

theorem Repository.rolledBack_self (r : Repository) : r.rolledBack r = r := by
  have hattempts : r.attempts.filter (fun id _ => r.attempts.contains id) = r.attempts := by
    refine Std.ExtTreeMap.ext_getElem? fun {id} => ?_
    rw [Std.ExtTreeMap.getElem?_filter', Std.ExtTreeMap.contains_eq_isSome_getElem?]
    cases r.attempts[id]? <;> rfl
  rw [Repository.rolledBack, hattempts]

/-! ## The steps of a worker -/

@[simp]
theorem exec_call (D : Digests) (command : Command) (shared : Shared) :
    exec (call D command) shared =
      ((record D shared.repository command).outcome.mapError Failure.outbox,
        { shared with repository := (record D shared.repository command).post }) := by
  simp only [call, record, exec_bind, exec_get]
  rcases exec (command.run D) shared.repository with ⟨error | response, after⟩ <;> rfl

@[simp]
theorem exec_onResults {α : Type} (method : Program Results Failure α) (shared : Shared) :
    exec (onResults method) shared =
      ((exec method shared.results).1,
        { shared with results := (exec method shared.results).2 }) := by
  simp only [onResults, exec_bind, exec_get]
  rcases exec method shared.results with ⟨error | a, after⟩ <;> rfl

@[simp]
theorem exec_operationObject (operationId : String) (shared : Shared) :
    exec (operationObject operationId) shared =
      match shared.repository.operations.get? operationId with
      | some operation => (.ok operation, shared)
      | none => (.error (.outbox (.operationNotFound operationId)), shared) := by
  simp only [operationObject, exec_bind, exec_get]
  cases shared.repository.operations.get? operationId <;> rfl

@[simp]
theorem exec_emit (member : Member) (s : Surroundings) (shared : Shared) :
    exec (member.emit s) shared =
      (if member.published = true then s.emitted else .ok (), shared) := by
  unfold Member.emit
  split
  · exact exec_outside _ _
  · rfl

/-- The calls that a worker can make from a stage: with its claim if it has one, and at
its own readings of the clock. -/
def Stage.Calls (stage : Stage) (s : Surroundings) (command : Command) : Prop :=
  (∀ u ∈ command.readings, u ∈ s.readings) ∧
    ∀ claim, stage.claim = some claim → ∃ t₀, command.presented = some (claim, t₀)

/-- A relation on repositories that the calls of a worker, the assignment of failure fields
and a rollback keep to. -/
structure Kept (D : ApplicationDigests) (s : Surroundings) (stage : Stage)
    (R : Repository → Repository → Prop) : Prop where
  refl : ∀ r, R r r
  trans : ∀ r r' r'', R r r' → R r' r'' → R r r''
  called : ∀ command, stage.Calls s command → ∀ r, R r (record D.toDigests r command).post
  assigned : ∀ claim, stage.claim = some claim → ∀ (r : Repository) operation category code,
    r.operations.get? claim.operationId = some operation →
      R r { r with operations := r.operations.put (failedRecord category code operation) }
  rolledBack : ∀ r r', R r r' → R r (r.rolledBack r')

/-- A relation on repositories, for the state that the workers share. -/
def OnRepository (R : Repository → Repository → Prop) (a b : Shared) : Prop :=
  R a.repository b.repository

section Kept

variable {D : ApplicationDigests} {s : Surroundings} {stage : Stage}
variable {R : Repository → Repository → Prop} {α β : Type}

theorem Kept.of_pure (hkept : Kept D s stage R) (a : α) :
    Moves (OnRepository R) (pure a : Program Shared Failure α) :=
  fun _ => hkept.refl _

theorem Kept.of_bind (hkept : Kept D s stage R) {x : Program Shared Failure α}
    {f : α → Program Shared Failure β} (hx : Moves (OnRepository R) x)
    (hf : ∀ a, Moves (OnRepository R) (f a)) :
    Moves (OnRepository R) (x >>= f) :=
  .bind (R := OnRepository R) (fun _ _ _ => hkept.trans _ _ _) hx hf

theorem Kept.of_tryCatch (hkept : Kept D s stage R) {x : Program Shared Failure α}
    {h : Failure → Program Shared Failure α} (hx : Moves (OnRepository R) x)
    (hh : ∀ error, Moves (OnRepository R) (h error)) :
    Moves (OnRepository R) (tryCatch x h) :=
  .tryCatch (R := OnRepository R) (fun _ _ _ => hkept.trans _ _ _) hx hh

theorem Kept.of_outside (hkept : Kept D s stage R) (result : Except Failure α) :
    Moves (OnRepository R) (outside result) := by
  intro shared
  rw [exec_outside]
  exact hkept.refl _

theorem Kept.of_emit (hkept : Kept D s stage R) (member : Member) :
    Moves (OnRepository R) (member.emit s) := by
  unfold Member.emit
  split
  · exact hkept.of_outside _
  · exact hkept.of_pure _

theorem Kept.of_call (hkept : Kept D s stage R) {command : Command}
    (hcalls : stage.Calls s command) :
    Moves (OnRepository R) (call D.toDigests command) := by
  intro shared
  rw [exec_call]
  exact hkept.called command hcalls _

theorem Kept.of_applyTo (hkept : Kept D s stage R) (claim : OutboxClaim)
    (result : ProviderDispatchResult) :
    Moves (OnRepository R) (applyTo D claim result s) := by
  refine hkept.of_bind (fun shared => ?_) fun operation => hkept.of_bind (fun shared => ?_)
    fun _ => hkept.of_pure _
  · rw [exec_operationObject]
    split <;> exact hkept.refl _
  · rw [exec_onResults]
    exact hkept.refl _

/-- A rollback is the only thing that undoes anything. -/
theorem Kept.of_transacted (hkept : Kept D s stage R) (committed : Except Failure Unit)
    {body : Program Shared Failure α} (hbody : Moves (OnRepository R) body) :
    Moves (OnRepository R) (transacted committed body) := by
  intro shared
  have hall := hkept.of_bind hbody fun a => hkept.of_bind (hkept.of_outside committed) fun _ =>
    hkept.of_pure a
  have hreach := hall shared
  simp only [transacted, exec_bind (x := get), exec_get]
  rw [exec_tryCatch]
  rcases hexec : exec (do let a ← body; outside committed; pure a) shared with
    ⟨error | a, after⟩ <;> rw [hexec] at hreach
  · exact hkept.rolledBack _ _ hreach
  · exact hreach

/-- A step of a worker keeps to the relation. -/
theorem Kept.of_advance (hkept : Kept D s stage R) (member : Member) :
    Moves (OnRepository R) (member.advance D s stage) := by
  cases stage with
  | idle =>
    refine hkept.of_bind (hkept.of_call ⟨by simp [Command.readings, Surroundings.readings],
      by simp [Stage.claim]⟩) fun response => ?_
    split
    · exact hkept.of_bind (hkept.of_emit member) fun _ => hkept.of_pure _
    · exact hkept.of_pure _
  | claimed claim =>
    have hcalls : Stage.Calls (.claimed claim) s (.markDispatching claim s.t₀ s.now) :=
      ⟨by simp [Command.readings, Surroundings.readings],
        by simp [Stage.claim, Command.presented]⟩
    exact hkept.of_tryCatch (hkept.of_bind (hkept.of_outside _) fun _ =>
      hkept.of_bind (hkept.of_call hcalls) fun _ =>
        hkept.of_bind (hkept.of_emit member) fun _ => hkept.of_pure _) fun _ => hkept.of_pure _
  | dispatching claim =>
    simp only [Member.advance]
    split
    · exact hkept.of_pure _
    · exact hkept.of_pure _
  | returned claim result =>
    have hcalls : Stage.Calls (.returned claim result) s
        (.markSucceeded claim result.resultReference s.t₀ s.now) :=
      ⟨by simp [Command.readings, Surroundings.readings],
        by simp [Stage.claim, Command.presented]⟩
    simp only [Member.advance]
    split
    · exact hkept.of_tryCatch (hkept.of_bind (hkept.of_outside _) fun _ =>
        hkept.of_bind (hkept.of_transacted _ (hkept.of_bind (hkept.of_applyTo claim result)
          fun _ => hkept.of_bind (hkept.of_call hcalls) fun _ => hkept.of_emit member))
          fun _ => hkept.of_pure _) fun _ => hkept.of_pure _
    · exact hkept.of_tryCatch (hkept.of_bind (hkept.of_outside _) fun _ =>
        hkept.of_bind (hkept.of_applyTo claim result) fun _ => hkept.of_pure _)
        fun _ => hkept.of_pure _
  | applied claim result =>
    have hcalls : Stage.Calls (.applied claim result) s
        (.markSucceeded claim result.resultReference s.t₀ s.now) :=
      ⟨by simp [Command.readings, Surroundings.readings],
        by simp [Stage.claim, Command.presented]⟩
    exact hkept.of_tryCatch (hkept.of_bind (hkept.of_call hcalls) fun _ => hkept.of_pure _)
      fun _ => hkept.of_pure _
  | unconfirmed claim =>
    have hcalls : Stage.Calls (.unconfirmed claim) s
        (.markReconciliationRequired claim "LOCAL_RESULT_UNCONFIRMED" s.t₀ s.now) :=
      ⟨by simp [Command.readings, Surroundings.readings],
        by simp [Stage.claim, Command.presented]⟩
    exact hkept.of_tryCatch (hkept.of_bind (hkept.of_call hcalls) fun _ => hkept.of_pure _)
      fun _ => hkept.of_pure _
  | raised claim error =>
    intro shared
    simp only [Member.advance]
    rw [exec_bind, exec_operationObject]
    cases hget : shared.repository.operations.get? claim.operationId with
    | none => exact hkept.refl _
    | some operation =>
        have hcalls : ∀ command t₀, command.presented = some (claim, t₀) →
            (∀ u ∈ command.readings, u = s.t₀ ∨ u = s.now) →
              Stage.Calls (.raised claim error) s command := by
          intro command t₀ hpresented hreadings
          refine ⟨fun u hu => ?_, by simp [Stage.claim, hpresented]⟩
          rcases hreadings u hu with rfl | rfl <;> simp [Surroundings.readings]
        dsimp only
        split
        case h_1 | h_2 | h_3 | h_4 =>
          exact hkept.of_bind (hkept.of_call (hcalls _ _ rfl (by simp [Command.readings])))
            (fun _ => hkept.of_bind (hkept.of_emit member) fun _ => hkept.of_pure _) shared
        case h_5 | h_6 => exact hkept.assigned claim rfl shared.repository operation _ _ hget
  | condemned claim code =>
    have hcalls : Stage.Calls (.condemned claim code) s
        (.markDeadLetter claim code s.t₀ s.now) :=
      ⟨by simp [Command.readings, Surroundings.readings],
        by simp [Stage.claim, Command.presented]⟩
    exact hkept.of_bind (hkept.of_call hcalls) fun _ =>
      hkept.of_bind (hkept.of_emit member) fun _ => hkept.of_pure _

end Kept

/-! ## Workers with a stale claim -/

section StaleWorker

variable {D : ApplicationDigests} {s : Surroundings} {shared : Shared} {claim : OutboxClaim}

/-- The steps that write without validating the claim: a result is filed outside any
transaction, or the failure fields of the operation are assigned. -/
def Member.WritesUnvalidated (D : ApplicationDigests) (member : Member) (s : Surroundings)
    (shared : Shared) : Stage → Prop
  | .returned claim _ =>
    member.published = false ∧ s.guarded = .ok () ∧
      ∃ operation, shared.repository.operations.get? claim.operationId = some operation ∧
        shared.results.accepts D operation = true
  | .raised claim error =>
    ∃ operation, shared.repository.operations.get? claim.operationId = some operation ∧
      let decision := member.worker.retryPolicy.classify error operation s.classified
      (decision.category = .nonRetryable ∨ decision.category = .unknown) ∧
        failedRecord decision.category decision.code operation ≠ operation
  | _ => False

theorem exec_call_refused (hstale : ¬Passes D.toDigests shared.repository claim t)
    (command : Command) {t₀ : Timestamp} (hpresented : command.presented = some (claim, t₀))
    (hlater : t ≤ t₀) :
    ∃ error, exec (call D.toDigests command) shared = (.error error, shared) := by
  obtain ⟨error, hexec⟩ := refused_of_not_passes hpresented
    fun hpasses => hstale (hpasses.earlier hlater)
  refine ⟨.outbox error, ?_⟩
  rw [exec_call, record, hexec]
  rfl

theorem exec_transacted_error {α : Type} {committed : Except Failure Unit}
    {body : Program Shared Failure α} {error : Failure} {after : Shared}
    (hbody : exec body shared = (.error error, after)) :
    exec (transacted committed body) shared =
      (.error error, shared.rolledBack after) := by
  simp [transacted, hbody]

theorem Shared.rolledBack_of_repository {after : Shared}
    (h : after.repository = shared.repository) : shared.rolledBack after = shared := by
  rw [Shared.rolledBack, h, Repository.rolledBack_self]

theorem exec_applyTo (result : ProviderDispatchResult) :
    ∃ outcome results, exec (applyTo D claim result s) shared =
        (outcome, { shared with results }) ∧
      ((∀ operation, shared.repository.operations.get? claim.operationId = some operation →
        shared.results.accepts D operation = false) → shared.results.SameFiled results) := by
  simp only [applyTo, exec_bind, exec_operationObject]
  cases hget : shared.repository.operations.get? claim.operationId with
  | none => exact ⟨_, shared.results, rfl, fun _ => .refl _⟩
  | some operation =>
    have hnothing : shared.results.accepts D operation = false → shared.results.SameFiled _ :=
      applyResult_files_nothing result s.firstDispatchAt s.completionTime
    simp only [exec_onResults, exec_pure]
    rcases hexec : exec
        (applyResult D operation result s.firstDispatchAt s.completionTime) shared.results
      with ⟨error | applied, results⟩ <;> rw [hexec] at hnothing
    · exact ⟨_, results, rfl, fun hrejected => hnothing (hrejected operation rfl)⟩
    · exact ⟨_, results, rfl, fun hrejected => hnothing (hrejected operation rfl)⟩

theorem OperationTable.put_filed {table : OperationTable} {operation : OutboxOperation}
    (hfiled : table.get? operation.operationId = some operation) :
    table.put operation = table := by
  refine ext_get? fun id => ?_
  rw [get?_put]
  split
  · rename_i hid
    rw [← hid, hfiled]
  · rfl

/-- A step of a worker whose claim is stale changes nothing, unless it writes unvalidated. -/
theorem Member.stale_unchanged (member : Member) {stage : Stage}
    (hclaim : stage.claim = some claim)
    (hstale : ¬Passes D.toDigests shared.repository claim t)
    (hreadings : ∀ u ∈ s.readings, t ≤ u)
    (hvalidated : ¬member.WritesUnvalidated D s shared stage) :
    (exec (member.advance D s stage) shared).2.repository = shared.repository ∧
      shared.results.SameFiled
        (exec (member.advance D s stage) shared).2.results := by
  have ht₀ : t ≤ s.t₀ := hreadings _ (by simp [Surroundings.readings])
  -- a step that leaves the shared state as it was
  have hsame : ∀ {x : Program Shared Failure Stage}, (exec x shared).2 = shared →
      (exec x shared).2.repository = shared.repository ∧
        shared.results.SameFiled (exec x shared).2.results := by
    intro x hx
    rw [hx]
    exact ⟨rfl, .refl _⟩
  cases stage with
  | idle => cases hclaim
  | claimed claim =>
    cases hclaim
    obtain ⟨error, hrefused⟩ := exec_call_refused hstale
      (.markDispatching claim s.t₀ s.now) rfl ht₀
    refine hsame ?_
    cases hresolved : s.resolved <;> simp [Member.advance, hrefused, hresolved]
  | dispatching claim =>
    refine hsame ?_
    simp only [Member.advance]
    split <;> rfl
  | returned claim result =>
    cases hclaim
    obtain ⟨outcome, results, happly, hrejected⟩ :=
      @exec_applyTo D s shared claim result
    cases hguarded : s.guarded with
    | error error =>
        refine hsame ?_
        cases hpublished : member.published <;>
          simp [Member.advance, hpublished, hguarded]
    | ok _ =>
        cases hpublished : member.published with
        | true =>
            -- the confirmation is refused, and the rollback takes the result back
            obtain ⟨error, hrefused⟩ := exec_call_refused
              (show ¬Passes D.toDigests { shared with results }.repository claim t from hstale)
              (.markSucceeded claim result.resultReference s.t₀ s.now) rfl ht₀
            refine hsame ?_
            obtain ⟨error, after, hbody, hrepository⟩ : ∃ error after,
                exec (do
                  applyTo D claim result s
                  let _ ← call D.toDigests
                    (.markSucceeded claim result.resultReference s.t₀ s.now)
                  member.emit s) shared = (.error error, after) ∧
                  after.repository = shared.repository := by
              rw [exec_bind, happly]
              cases outcome with
              | error error => exact ⟨error, _, rfl, rfl⟩
              | ok _ =>
                  refine ⟨error, { shared with results }, ?_, rfl⟩
                  simp only [exec_bind, hrefused]
            simp only [Member.advance, hpublished, if_true, hguarded, exec_tryCatch,
              exec_bind, exec_outside, exec_transacted_error hbody]
            exact Shared.rolledBack_of_repository hrepository
        | false =>
            have hfiled := hrejected fun operation hget => by
              by_contra haccepts
              exact hvalidated ⟨hpublished, hguarded, operation, hget, by simpa using haccepts⟩
            cases outcome <;> simp [Member.advance, hpublished, hguarded, happly, hfiled]
  | applied claim result =>
    cases hclaim
    obtain ⟨error, hrefused⟩ := exec_call_refused hstale
      (.markSucceeded claim result.resultReference s.t₀ s.now) rfl ht₀
    exact hsame (by simp [Member.advance, hrefused])
  | unconfirmed claim =>
    cases hclaim
    obtain ⟨error, hrefused⟩ := exec_call_refused hstale
      (.markReconciliationRequired claim "LOCAL_RESULT_UNCONFIRMED" s.t₀ s.now)
      rfl ht₀
    exact hsame (by simp [Member.advance, hrefused])
  | raised claim error =>
    cases hclaim
    refine hsame ?_
    have hrefused : ∀ command (f : Response → Program Shared Failure Stage),
        command.presented = some (claim, s.t₀) →
          (exec (call D.toDigests command >>= f) shared).2 = shared := by
      intro command f hpresented
      obtain ⟨error, hrefused⟩ := exec_call_refused hstale command hpresented ht₀
      rw [exec_bind, hrefused]
    simp only [Member.advance]
    rw [exec_bind, exec_operationObject]
    cases hget : shared.repository.operations.get? claim.operationId with
    | none => rfl
    | some operation =>
        have hkept : ∀ category, (category = .nonRetryable ∨ category = .unknown) →
            (member.worker.retryPolicy.classify error operation s.classified).category =
              category → failedRecord
                (member.worker.retryPolicy.classify error operation s.classified).category
                (member.worker.retryPolicy.classify error operation s.classified).code
                operation = operation := by
          intro category hcategory hdecision
          by_contra hdiffers
          exact hvalidated ⟨operation, hget, hdecision ▸ hcategory, hdiffers⟩
        dsimp only
        split
        case h_1 | h_2 | h_3 | h_4 => exact hrefused _ _ rfl
        case h_5 | h_6 =>
          rename_i hdecision
          rw [hkept _ (by simp) hdecision]
          have hfiled := OperationTable.operationId_of_get? hget ▸ hget
          simp [assignFields, OperationTable.put_filed hfiled]
  | condemned claim code =>
    cases hclaim
    obtain ⟨error, hrefused⟩ := exec_call_refused hstale
      (.markDeadLetter claim code s.t₀ s.now) rfl ht₀
    exact hsame (by simp [Member.advance, hrefused])

end StaleWorker

/-! ## Every interleaving -/

section Interleaving

variable {D : ApplicationDigests} {team : Nat → Member} {s : Surroundings} {stage : Stage}

theorem kept_ages (hreadings : ∀ u ∈ s.readings, t ≤ u) :
    Kept D s stage (Ages D.toDigests t) where
  refl := fun _ => .of_operations rfl
  trans := fun _ _ _ => Ages.trans
  called := fun _ hcalls r => Ages.call r fun u hu => hreadings u (hcalls.1 u hu)
  assigned := fun _ _ _ _ category code hget =>
    Ages.assign category code (OperationTable.operationId_of_get? hget ▸ hget)
  rolledBack := fun _ _ _ => .of_operations rfl

theorem kept_sameElsewhere {claim : OutboxClaim} (hclaim : stage.claim = some claim) :
    Kept D s stage (SameElsewhere claim.operationId) where
  refl := SameElsewhere.refl _
  trans := fun _ _ _ => SameElsewhere.trans
  called := by
    intro command hcalls r
    obtain ⟨t₀, hpresented⟩ := hcalls.2 claim hclaim
    exact .call hpresented
  assigned := by
    intro own hown r operation category code hget
    rw [hclaim, Option.some.injEq] at hown
    subst hown
    have hkey : operation.operationId = claim.operationId :=
      OperationTable.operationId_of_get? hget
    exact .of_put rfl hkey fun _ _ => rfl
  rolledBack := fun _ _ => SameElsewhere.rolledBack

theorem Member.advance_claim (member : Member) {claim : OutboxClaim}
    (hclaim : stage.claim = some claim) :
    Returns (fun next : Stage => next.claim = none ∨ next.claim = some claim)
      (member.advance D s stage) := by
  cases stage with
  | idle => cases hclaim
  | claimed claim =>
    cases hclaim
    exact .tryCatch (.bind fun _ => .bind fun _ => .bind fun _ => .pure (.inr rfl))
      fun _ => .pure (.inr rfl)
  | dispatching claim =>
    cases hclaim
    simp only [Member.advance]
    split <;> exact .pure (.inr rfl)
  | returned claim result =>
    cases hclaim
    simp only [Member.advance]
    split
    · exact .tryCatch (.bind fun _ => .bind fun _ => .pure (.inl rfl))
        fun _ => .pure (.inr rfl)
    · exact .tryCatch (.bind fun _ => .bind fun _ => .pure (.inr rfl))
        fun _ => .pure (.inr rfl)
  | applied claim result =>
    cases hclaim
    exact .tryCatch (.bind fun _ => .pure (.inl rfl)) fun _ => .pure (.inr rfl)
  | unconfirmed claim =>
    cases hclaim
    exact .tryCatch (.bind fun _ => .pure (.inl rfl)) fun _ => .pure (.inr rfl)
  | raised claim error =>
    cases hclaim
    refine .bind fun operation => ?_
    dsimp only
    split
    case h_1 | h_2 | h_3 | h_4 => exact .bind fun _ => .bind fun _ => .pure (.inl rfl)
    case h_5 | h_6 => exact .bind fun _ => .pure (.inr rfl)
  | condemned claim code =>
    exact .bind fun _ => .bind fun _ => .pure (.inl rfl)

theorem Member.idle_claim (member : Member) {shared shared' : Shared} {next : Stage}
    (hexec : exec (member.advance D s .idle) shared = (.ok next, shared'))
    {claim : OutboxClaim} (hclaim : next.claim = some claim) :
    Held shared'.repository claim := by
  let command : Command :=
    .claimNext member.worker.workerId s.token member.worker.claimTtlSeconds s.now
  have hcommand : (record D.toDigests shared.repository command).command = command := rfl
  simp only [Member.advance, exec_bind, exec_call] at hexec
  rcases houtcome : (record D.toDigests shared.repository command).outcome with
    error | response <;> simp only [command] at houtcome <;> rw [houtcome] at hexec
  · cases hexec
  rcases response with _ | _ | _ | _ | issued
  case some =>
    -- the event is published after the claim was issued
    simp only [Except.mapError, exec_bind, exec_emit, exec_pure] at hexec
    cases hemitted : (if member.published = true then s.emitted else .ok ()) with
    | error error =>
        rw [hemitted] at hexec
        cases hexec
    | ok _ =>
        rw [hemitted] at hexec
        cases hexec
        cases hclaim
        have hissued : (record D.toDigests shared.repository command).issued = some claim := by
          simp only [Event.issued, hcommand, command, houtcome]
        obtain ⟨-, after, hafter, hfence⟩ := filed_of_issued hissued
        exact ⟨after, hafter, hfence.ge⟩
  all_goals
    cases hexec
    cases hclaim

variable {floor : Floor} {clock : Timestamp}

theorem Floor.after_shared (i : Nat) :
    (floor.after D team clock (.worker i s)).shared =
      (exec ((team i).advance D s (floor.stages i)) floor.shared).2 := by
  simp only [Floor.after]
  split <;> rename_i hexec <;> rw [hexec]

theorem Floor.after_stages_of_ne {i j : Nat} (hij : j ≠ i) :
    (floor.after D team clock (.worker i s)).stages j = floor.stages j := by
  simp only [Floor.after]
  split <;> exact Function.update_of_ne hij _ _

/-- A worker that holds a claim after its step has returned from it. -/
theorem Floor.after_stages_self {i : Nat} {claim : OutboxClaim}
    (hclaim : ((floor.after D team clock (.worker i s)).stages i).claim = some claim) :
    ∃ next shared, exec ((team i).advance D s (floor.stages i)) floor.shared =
      (.ok next, shared) ∧ next.claim = some claim := by
  simp only [Floor.after] at hclaim
  split at hclaim <;> rename_i hexec
  · exact ⟨_, _, hexec, by simpa using hclaim⟩
  · simp [Stage.claim] at hclaim

theorem Floor.ages_after {label : Label} (hreadings : ∀ u ∈ label.readings, floor.clock ≤ u) :
    Ages D.toDigests floor.clock floor.shared.repository
      (floor.after D team clock label).shared.repository := by
  cases label with
  | other command => exact Ages.call _ hreadings
  | worker i s =>
    rw [Floor.after_shared]
    exact (kept_ages hreadings).of_advance (team i) floor.shared

/-- Every worker's claim is held. -/
def Floor.Sound (floor : Floor) : Prop :=
  ∀ i claim, (floor.stages i).claim = some claim → Held floor.shared.repository claim

/-- A step keeps every worker's claim held. -/
theorem Floor.Sound.after (hsound : floor.Sound) {label : Label}
    (hreadings : ∀ u ∈ label.readings, floor.clock ≤ u) :
    (floor.after D team clock label).Sound := by
  have hages : Ages D.toDigests floor.clock floor.shared.repository
      (floor.after D team clock label).shared.repository :=
    Floor.ages_after hreadings
  intro j claim hclaim
  cases label with
  | other command => exact hages.held claim (hsound j claim hclaim)
  | worker i s =>
    by_cases hij : j = i
    · subst hij
      obtain ⟨next, shared, hexec, hnext⟩ := Floor.after_stages_self hclaim
      cases hstage : (floor.stages j).claim with
      | none =>
          have hidle : floor.stages j = .idle := by
            cases hj : floor.stages j <;> rw [hj] at hstage <;> first | rfl | cases hstage
          rw [hidle] at hexec
          rw [Floor.after_shared, hidle, hexec]
          exact (team j).idle_claim hexec hnext
      | some own =>
          have hown := (team j).advance_claim hstage floor.shared next shared hexec
          obtain rfl : own = claim := by simpa [hnext, eq_comm] using hown
          exact hages.held own (hsound j own hstage)
    · rw [Floor.after_stages_of_ne hij] at hclaim
      exact hages.held claim (hsound j claim hclaim)

theorem Run.sound {steps : List Step} (run : Run D team steps floor) : floor.Sound := by
  induction run with
  | start shared clock =>
    intro i claim hclaim
    cases hclaim
  | step run label clock hlater hreadings ih =>
    exact ih.after fun u hu => (hreadings u hu).1

end Interleaving

variable (D)

/-- No worker with a stale claim takes a step that writes unvalidated. -/
def Harmless (step : Step) : Prop :=
  ∀ i s claim, step.label = .worker i s → (step.pre.stages i).claim = some claim →
    Stale D step.pre claim →
      ¬(team i).WritesUnvalidated D s step.pre.shared (step.pre.stages i)

/-- What is promised of workers in one step. -/
structure Powerless (step : Step) : Prop where
  /-- A worker whose claim is stale changes no operation and files no result. -/
  stale_unchanged : ∀ i s claim, step.label = .worker i s →
    (step.pre.stages i).claim = some claim → Stale D step.pre claim →
      step.post.shared.repository = step.pre.shared.repository ∧
        step.pre.shared.results.SameFiled step.post.shared.results
  /-- It stays stale, whoever makes the step. -/
  stays_stale : ∀ i claim, (step.pre.stages i).claim = some claim →
    Stale D step.pre claim → Stale D step.post claim
  /-- An operation that a worker changes is the one its claim is for, and the claim is not
  stale. -/
  by_holder : ∀ i s claim id, step.label = .worker i s →
    (step.pre.stages i).claim = some claim →
      step.post.shared.repository.operations.get? id ≠
          step.pre.shared.repository.operations.get? id ∨
        step.post.shared.repository.attempts[id]? ≠
          step.pre.shared.repository.attempts[id]? →
        id = claim.operationId ∧ ¬Stale D step.pre claim

variable {D} {team}

theorem stays_stale {floor : Floor} (hsound : floor.Sound) {label : Label} {clock : Timestamp}
    (hlater : floor.clock ≤ clock) (hreadings : ∀ u ∈ label.readings, floor.clock ≤ u)
    {i : Nat} {claim : OutboxClaim} (hclaim : (floor.stages i).claim = some claim)
    (hstale : Stale D floor claim) : Stale D (floor.after D team clock label) claim := by
  have hages : Ages D.toDigests floor.clock floor.shared.repository
      (floor.after D team clock label).shared.repository :=
    Floor.ages_after hreadings
  have hclock : (floor.after D team clock label).clock = clock := by
    cases label with
    | other command => rfl
    | worker j s =>
        simp only [Floor.after]
        split <;> rfl
  intro hpasses
  rw [hclock] at hpasses
  exact hages.stale claim (hsound i claim hclaim) hstale (hpasses.earlier hlater)

theorem Floor.Sound.powerless {floor : Floor} (hsound : floor.Sound) {label : Label}
    {clock : Timestamp} (hlater : floor.clock ≤ clock)
    (hreadings : ∀ u ∈ label.readings, floor.clock ≤ u)
    (hharmless : Harmless D team ⟨floor, label, floor.after D team clock label⟩) :
    Powerless D ⟨floor, label, floor.after D team clock label⟩ := by
  have hunchanged : ∀ i s claim, label = .worker i s → (floor.stages i).claim = some claim →
      Stale D floor claim →
        (floor.after D team clock label).shared.repository = floor.shared.repository ∧
          floor.shared.results.SameFiled (floor.after D team clock label).shared.results := by
    rintro i s claim rfl hclaim hstale
    rw [Floor.after_shared]
    exact (team i).stale_unchanged hclaim hstale hreadings
      (hharmless i s claim rfl hclaim hstale)
  constructor
  · exact hunchanged
  · intro i claim hclaim hstale
    exact stays_stale hsound hlater hreadings hclaim hstale
  · rintro i s claim id rfl hclaim hchanged
    dsimp only at hclaim hchanged
    have helsewhere := (kept_sameElsewhere (D := D) (s := s) hclaim).of_advance (team i)
      floor.shared
    constructor
    · by_contra hid
      rw [Floor.after_shared] at hchanged
      exact hchanged.elim (fun h => h (helsewhere.operations id hid))
        fun h => h (helsewhere.attempts id hid)
    · intro hstale
      have hsame := (hunchanged i s claim rfl hclaim hstale).1
      rw [hsame] at hchanged
      exact hchanged.elim (fun h => h rfl) fun h => h rfl

/-- In every interleaving without a harmful step, stale workers are powerless. -/
theorem stale_workers_powerless {steps : List Step} {floor : Floor}
    (run : Run D team steps floor) (hharmless : ∀ step ∈ steps, Harmless D team step) :
    ∀ step ∈ steps, Powerless D step := by
  induction run with
  | start => simp
  | step run label clock hlater hreadings ih =>
    intro step hstep
    rcases List.mem_cons.mp hstep with rfl | hearlier
    · exact run.sound.powerless hlater (fun u hu => (hreadings u hu).1)
        (hharmless _ List.mem_cons_self)
    · exact ih (fun step hstep => hharmless step (List.mem_cons_of_mem _ hstep)) step hearlier

/-! ## Rehearsed interleavings -/

/-- The clock after some steps. -/
def clockAfter (start : Timestamp) : List (Label × Timestamp) → Timestamp
  | [] => start
  | (_, clock) :: _ => clock

/-- Take steps in order, from the last one of the list to the first. -/
def rehearse (D : ApplicationDigests) (team : Nat → Member) (shared : Shared)
    (start : Timestamp) : List (Label × Timestamp) → List Step × Floor
  | [] => ([], { shared, clock := start, stages := fun _ => .idle })
  | (label, clock) :: earlier =>
    let (steps, floor) := rehearse D team shared start earlier
    (⟨floor, label, floor.after D team clock label⟩ :: steps, floor.after D team clock label)

/-- The clock does not go back, and the readings of each step are taken during it. -/
def Timed (start : Timestamp) : List (Label × Timestamp) → Prop
  | [] => True
  | (label, clock) :: earlier =>
    clockAfter start earlier ≤ clock ∧
      (∀ t ∈ label.readings, clockAfter start earlier ≤ t ∧ t ≤ clock) ∧ Timed start earlier

instance Timed.instDecidable (start : Timestamp) : ∀ steps, Decidable (Timed start steps)
  | [] => .isTrue trivial
  | (_, _) :: earlier =>
    let _ := Timed.instDecidable start earlier
    inferInstanceAs (Decidable (_ ∧ _ ∧ _))

theorem clock_rehearse (shared : Shared) (start : Timestamp) (steps : List (Label × Timestamp)) :
    (rehearse D team shared start steps).2.clock = clockAfter start steps := by
  cases steps with
  | nil => rfl
  | cons step earlier =>
    obtain ⟨label, clock⟩ := step
    cases label with
    | other command => rfl
    | worker i s =>
        simp only [rehearse, Floor.after, clockAfter]
        split <;> rfl

theorem run_rehearse (shared : Shared) (start : Timestamp) {steps : List (Label × Timestamp)}
    (htimed : Timed start steps) :
    Run D team (rehearse D team shared start steps).1 (rehearse D team shared start steps).2 := by
  induction steps with
  | nil => exact .start shared start
  | cons step earlier ih =>
    obtain ⟨label, clock⟩ := step
    obtain ⟨hlater, hreadings, hearlier⟩ := htimed
    have hclock : (rehearse D team shared start earlier).2.clock = clockAfter start earlier :=
      clock_rehearse shared start earlier
    rw [← hclock] at hlater hreadings
    exact .step (ih hearlier) label clock hlater hreadings

def Surroundings.reading (t : Timestamp) : Surroundings where
  classified := t
  retried := t
  t₀ := t
  now := t

def sampleApplicationDigests : ApplicationDigests :=
  { sampleDigests with resultFingerprint := fun _ => .ok "result" }

/-- Workers without an event publisher. -/
def sampleTeam (i : Nat) : Member where
  worker := { workerId := s!"worker-{i}", retryPolicy := {} }
  published := false

/-- A dispatch that takes 38 seconds under a claim of 30 and then raises. -/
def lateFailure (error : Failure) : List (Label × Timestamp) :=
  [(.worker 0 (.reading (timedelta 40)), timedelta 40),
    (.worker 0 { Surroundings.reading (timedelta 40) with outcome := .error error },
      timedelta 40),
    (.worker 0 (.reading (timedelta 2)), timedelta 2),
    (.worker 0 (.reading (timedelta 1)), timedelta 1),
    (.other (.addOperation sampleOperation), 0)]

/-- The state that the rehearsals start from. -/
def sampleShared : Shared where
  repository := Repository.init
  results := Results.init


/-- A worker at this stage cannot write unvalidated: a rate limit is retried. -/
def Stage.validates : Stage → Bool
  | .idle | .claimed _ | .dispatching _ | .raised _ (.rateLimit _) => true
  | _ => false

theorem Stage.not_writesUnvalidated {stage : Stage} (h : stage.validates = true)
    (member : Member) (s : Surroundings) (shared : Shared) :
    ¬member.WritesUnvalidated D s shared stage := by
  cases stage with
  | idle => exact id
  | claimed claim => exact id
  | dispatching claim => exact id
  | raised claim error =>
    cases error <;> cases h
    rintro ⟨operation, -, hcategory, -⟩
    simp [RetryPolicy.classify] at hcategory
  | returned => cases h
  | applied => cases h
  | unconfirmed => cases h
  | condemned => cases h

def lateRun (error : Failure) : List Step × Floor :=
  rehearse sampleApplicationDigests sampleTeam sampleShared 0 (lateFailure error)

theorem run_lateRun (error : Failure) :
    Run sampleApplicationDigests sampleTeam (lateRun error).1 (lateRun error).2 :=
  run_rehearse sampleShared 0 (by
    simp [lateFailure, Timed, clockAfter, Label.readings, Surroundings.readings,
      Surroundings.reading, Command.readings, timedelta])

/-- A worker whose dispatch was rate limited after its claim expired changes nothing. -/
theorem stale_workers_powerless_rateLimit :
    Run sampleApplicationDigests sampleTeam (lateRun (.rateLimit none)).1
        (lateRun (.rateLimit none)).2 ∧
      ∀ step ∈ (lateRun (.rateLimit none)).1, Powerless sampleApplicationDigests step := by
  refine ⟨run_lateRun _, stale_workers_powerless (run_lateRun _) ?_⟩
  have hvalidates : ∀ step ∈ (lateRun (.rateLimit none)).1, (step.pre.stages
      (match step.label with | .worker i _ => i | .other _ => 0)).validates = true := by
    decide +kernel
  intro step hstep i s claim hlabel _ _
  have hstage := hvalidates step hstep
  rw [hlabel] at hstage
  exact Stage.not_writesUnvalidated hstage _ s _

def lateClaim : OutboxClaim where
  operationId := "op-1"
  ownerId := "worker-0"
  token := ""
  claimedAt := timedelta 1
  expiresAt := timedelta 31
  fencingToken := 1

instance (D : Digests) (r : Repository) (claim : OutboxClaim) (t : Timestamp) :
    Decidable (Passes D r claim t) :=
  match h : claimVerdict D r claim t with
  | .ok operation => .isTrue ⟨operation, h⟩
  | .error _ => .isFalse fun ⟨_, hok⟩ => by rw [h] at hok; cases hok

instance (D : ApplicationDigests) (floor : Floor) (claim : OutboxClaim) :
    Decidable (Stale D floor claim) :=
  inferInstanceAs (Decidable (¬_))

/-- A worker whose dispatch failed after its claim expired writes on the record. -/
theorem stale_worker_writes :
    ¬∀ (D : ApplicationDigests) (team : Nat → Member) (steps : List Step) (floor : Floor),
      Run D team steps floor → ∀ step ∈ steps, Powerless D step := by
  intro hpowerless
  have hrun := hpowerless _ _ _ _ (run_lateRun .authentication)
  obtain ⟨step, hstep, hlabel, claim, hclaim, hstale, hwritten⟩ :
      ∃ step ∈ (lateRun .authentication).1,
        step.label = .worker 0 (.reading (timedelta 40)) ∧
          ∃ claim, (step.pre.stages 0).claim = some claim ∧
            Stale sampleApplicationDigests step.pre claim ∧
              (step.pre.shared.repository.operations.get? "op-1").map (·.failureCode) ≠
                (step.post.shared.repository.operations.get? "op-1").map (·.failureCode) := by
    refine ⟨_, List.mem_cons_self, rfl, lateClaim, ?_, ?_, ?_⟩
    · decide +kernel
    · decide +kernel
    · decide +kernel
  have hsame := ((hrun step hstep).stale_unchanged 0 _ claim hlabel hclaim hstale).1
  rw [hsame] at hwritten
  exact hwritten rfl

end Outbox
end Ascos
