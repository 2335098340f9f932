import Ascos.Outbox.Fencing

/-!
# No blind redispatch

An operation that was dispatched and whose outcome became uncertain may reach its
provider again only after reconciliation has found that it was not executed.  The
module follows the uncertainty of an operation through a history: it begins when
a dispatched operation enters `RECONCILIATION_REQUIRED`, and it ends when the
holder of a claim obtained from `claim_reconciliation` releases it.

The repository does not keep this discipline by itself.  Dispatch claims and
reconciliation claims share the status `CLAIMED`, so `recover_expired`
sends an expired reconciliation claim back to `PENDING`, and
`mark_dispatching` and `mark_retry_wait` accept a reconciliation claim.

Main results:

- Theorem `redispatch_after_expiry`: a history without operator retries in
  which an uncertain operation is dispatched again.
- Theorem `no_blind_redispatch`: a history in which no reconciliation claim of
  an uncertain operation expires into recovery or is presented as a dispatch claim
  never redispatches blindly.
-/

namespace Ascos
namespace Outbox

open Library

variable {D : Digests} {r : Repository} {events earlier : List Event} {event : Event}
variable {id : String}

/-! ## Uncertain operations -/

/-- The status of an operation before a recorded call. -/
def Event.statusBefore (event : Event) (id : String) : Option OutboxStatus :=
  (event.pre.operations.get? id).map (·.status)

/-- The status of an operation after a recorded call. -/
def Event.statusAfter (event : Event) (id : String) : Option OutboxStatus :=
  (event.post.operations.get? id).map (·.status)

/-- The call moved the operation into `RECONCILIATION_REQUIRED`. -/
def Event.EnteredReconciliation (event : Event) (id : String) : Prop :=
  event.statusBefore id ≠ some .reconciliationRequired ∧
    event.statusAfter id = some .reconciliationRequired

/-- The operation has been `DISPATCHING`. -/
def HasBeenDispatching (events : List Event) (id : String) : Prop :=
  ∃ event ∈ events, event.statusAfter id = some .dispatching

/-- The claim that a recorded call of `claim_reconciliation` issued. -/
def Event.issuedForReconciliation (event : Event) : Option OutboxClaim :=
  match event.command, event.outcome with
  | .claimReconciliation _ _ _ _, .ok (.claim claim) => claim
  | _, _ => none

/-- The claim was obtained from `claim_reconciliation`, or renews one that was. -/
def ObtainedForReconciliation (D : Digests) (events : List Event) (claim : OutboxClaim) :
    Prop :=
  ∃ issued ∈ events.filterMap Event.issuedForReconciliation,
    issued.operationId = claim.operationId ∧ issued.identity D = claim.identity D

/-- The claim that a successful call of `release_claim` released. -/
def Event.released (event : Event) : Option OutboxClaim :=
  match event.command, event.outcome with
  | .releaseClaim claim _, .ok _ => some claim
  | _, _ => none

/-- The call released the operation for another dispatch: its claim was live and came
from `claim_reconciliation`. -/
def ReleasedUnexecuted (D : Digests) (earlier : List Event) (event : Event) (id : String) :
    Prop :=
  ∃ claim ∈ event.released, claim.operationId = id ∧
    ObtainedForReconciliation D earlier claim

/-- The operation was dispatched, its outcome became uncertain, and it has not been
released for another dispatch since. -/
def Uncertain (D : Digests) : List Event → String → Prop
  | [], _ => False
  | event :: earlier, id =>
    HasBeenDispatching earlier id ∧ event.EnteredReconciliation id ∨
      Uncertain D earlier id ∧ ¬ ReleasedUnexecuted D earlier event id

/-- The operation that a successful call of `mark_dispatching` dispatched. -/
def Event.dispatched (event : Event) : Option String :=
  match event.command, event.outcome with
  | .markDispatching claim _ _, .ok _ => some claim.operationId
  | _, _ => none

/-- The operation that a successful call of `claim_next` claimed. -/
def Event.claimedNext (event : Event) : Option String :=
  match event.command, event.outcome with
  | .claimNext _ _ _ _, .ok (.claim (some claim)) => some claim.operationId
  | _, _ => none

/-- No uncertain operation is dispatched again, nor claimed for dispatch. -/
def NoBlindRedispatch (D : Digests) (events : List Event) : Prop :=
  ∀ event earlier, event :: earlier <:+ events →
    ∀ id, event.dispatched = some id ∨ event.claimedNext = some id →
      ¬ Uncertain D earlier id

def Command.isOperatorRetry : Command → Bool
  | .retryDeadLetter _ _ => true
  | _ => false

/-! ## The condition -/

/-- The operation is claimed by a claim obtained from `claim_reconciliation`. -/
def HeldForReconciliation (D : Digests) (events : List Event)
    (operation : OutboxOperation) : Prop :=
  operation.status = .claimed ∧
    ∃ issued ∈ events.filterMap Event.issuedForReconciliation,
      issued.operationId = operation.operationId ∧
        onRecord operation = some (issued.identity D)

/-- No reconciliation claim of an uncertain operation has expired. -/
def ReconciliationLive (D : Digests) (earlier : List Event) (r : Repository)
    (now : Timestamp) : Prop :=
  ∀ operation ∈ r.operations.values, Uncertain D earlier operation.operationId →
    HeldForReconciliation D earlier operation → hasExpired now operation = false

/-- The calls that respect what the repository cannot tell: recovery runs while every
reconciliation claim is live, a reconciliation claim is not presented as a dispatch
claim, and no operator retries a dead letter. -/
def CarefulStep (D : Digests) (earlier : List Event) (r : Repository) : Command → Prop
  | .recoverExpired now => ReconciliationLive D earlier r now
  | .claimNext _ _ _ now => ReconciliationLive D earlier r now
  | .markDispatching claim _ _ =>
      Uncertain D earlier claim.operationId → ¬ ObtainedForReconciliation D earlier claim
  | .markRetryWait claim _ _ _ _ _ =>
      Uncertain D earlier claim.operationId → ¬ ObtainedForReconciliation D earlier claim
  | .retryDeadLetter _ _ => False
  | _ => True

/-- Every call of the history is a `CarefulStep`. -/
def Careful (D : Digests) : List Event → Prop
  | [] => True
  | event :: earlier => CarefulStep D earlier event.pre event.command ∧ Careful D earlier

theorem Careful.of_suffix (hcareful : Careful D events)
    (h : event :: earlier <:+ events) :
    CarefulStep D earlier event.pre event.command ∧ Careful D earlier := by
  induction events with
  | nil => simp at h
  | cons newest older ih =>
    rcases List.suffix_cons_iff.mp h with heq | htail
    · obtain ⟨rfl, rfl⟩ := List.cons.inj heq
      exact hcareful
    · exact ih hcareful.2 htail

/-! ## Following one operation -/

/-- The records an uncertain operation can have: out of every claim's reach, or held for
reconciliation. -/
def Guarded (D : Digests) (events : List Event) (operation : OutboxOperation) : Prop :=
  (operation.status = .reconciliationRequired ∨ operation.status = .succeeded ∨
      operation.status = .deadLetter) ∧ operation.claimExpiresAt = none ∨
    HeldForReconciliation D events operation

theorem HeldForReconciliation.weaken {operation : OutboxOperation}
    (hheld : HeldForReconciliation D events operation) :
    HeldForReconciliation D (event :: events) operation := by
  obtain ⟨hstatus, issued, hissued, hmatch⟩ := hheld
  refine ⟨hstatus, issued, ?_, hmatch⟩
  rw [List.mem_filterMap] at hissued ⊢
  obtain ⟨source, hsource, hclaim⟩ := hissued
  exact ⟨source, List.mem_cons_of_mem _ hsource, hclaim⟩

theorem Guarded.weaken {operation : OutboxOperation} (hguarded : Guarded D events operation) :
    Guarded D (event :: events) operation :=
  hguarded.imp_right HeldForReconciliation.weaken

theorem Guarded.of_claimVerdict {operation : OutboxOperation} {claim : OutboxClaim}
    {t₀ : Timestamp} (hguarded : Guarded D events operation)
    (hverdict : claimVerdict D r claim t₀ = .ok operation) :
    operation.status = .claimed ∧ ObtainedForReconciliation D events claim := by
  obtain ⟨hid, hrecord⟩ := onRecord_of_claimVerdict hverdict
  rcases hguarded with ⟨-, hnone⟩ | ⟨hstatus, issued, hissued, hissuedId, hmatch⟩
  · obtain ⟨-, -, expiry, hexpiry, -⟩ := claimVerdict_ok_iff.mp hverdict
    rw [hnone] at hexpiry
    cases hexpiry
  · rw [hrecord, Option.some.injEq] at hmatch
    exact ⟨hstatus, issued, hissued, hissuedId.trans hid.symm, hmatch.symm⟩

theorem Guarded.recoverOne {operation : OutboxOperation} {now : Timestamp}
    (hguarded : Guarded D events operation)
    (hlive : HeldForReconciliation D events operation → hasExpired now operation = false) :
    recoverOne now operation = operation := by
  have hnot : hasExpired now operation = false := by
    rcases hguarded with ⟨-, hnone⟩ | hheld
    · simp [hasExpired, hnone]
    · exact hlive hheld
  simp [Outbox.recoverOne, hnot]

theorem Guarded.not_due {operation : OutboxOperation}
    (hguarded : Guarded D events operation) :
    ¬ (operation.status = .pending ∨ operation.status = .retryWait) := by
  rcases hguarded with ⟨hstatus | hstatus | hstatus, -⟩ | ⟨hstatus, -⟩ <;> simp [hstatus]

theorem Guarded.of_recordStep {command : Command} {response : Response}
    {before after : OutboxOperation} (hguarded : Guarded D earlier before)
    (hfiled : r.operations.get? before.operationId = some before)
    (huncertain : Uncertain D earlier before.operationId)
    (hcareful : CarefulStep D earlier r command)
    (hcommand : event.command = command) (houtcome : event.outcome = .ok response)
    (hkept : ¬ ReleasedUnexecuted D earlier event before.operationId)
    (hstep : RecordStep D r command response before after) :
    Guarded D (event :: earlier) after := by
  have hlive : ∀ {now}, ReconciliationLive D earlier r now →
      HeldForReconciliation D earlier before → hasExpired now before = false :=
    fun hlive => hlive before (OperationTable.mem_values.mpr hfiled) huncertain
  cases hstep with
  | untouched => exact hguarded.weaken
  | recovered now =>
    rw [hguarded.recoverOne (hlive hcareful)]
    exact hguarded.weaken
  | recoveredFirst ownerId token ttlSeconds now =>
    rw [hguarded.recoverOne (hlive hcareful)]
    exact hguarded.weaken
  | claimed ownerId token ttlSeconds now _ hstatus =>
    rw [hguarded.recoverOne (hlive hcareful)] at hstatus
    exact absurd hstatus hguarded.not_due
  | claimedReconciliation ownerId token ttlSeconds now _ hstatus =>
    refine .inr ⟨rfl, issuedClaim ownerId token now ttlSeconds before, ?_, rfl, rfl⟩
    refine List.mem_filterMap.mpr ⟨event, List.mem_cons_self, ?_⟩
    simp only [Event.issuedForReconciliation, hcommand, houtcome]
  | renewed claim ttlSeconds t₀ now _ hverdict =>
    obtain ⟨-, hrecord⟩ := onRecord_of_claimVerdict hverdict
    obtain ⟨hstatus, issued, hissued, hid, hidentity⟩ := hguarded.of_claimVerdict hverdict
    refine .inr (HeldForReconciliation.weaken ⟨hstatus, issued, hissued, ?_, ?_⟩)
    · exact hid.trans (onRecord_of_claimVerdict hverdict).1
    · obtain ⟨-, howner, hhash, hfence⟩ := onRecord_eq_some_iff.mp hrecord
      rw [hidentity]
      exact onRecord_eq_some_iff.mpr ⟨⟨_, rfl⟩, howner, hhash, hfence⟩
  | released claim t₀ _ _ hverdict =>
    have hobtained := (hguarded.of_claimVerdict hverdict).2
    refine absurd ⟨claim, ?_, (onRecord_of_claimVerdict hverdict).1, hobtained⟩ hkept
    simp only [Event.released, hcommand, houtcome, Option.mem_def]
  | dispatched claim t₀ now _ _ hverdict =>
    have hobtained := (hguarded.of_claimVerdict hverdict).2
    rw [← (onRecord_of_claimVerdict hverdict).1] at huncertain
    exact absurd hobtained (hcareful huncertain)
  | exhausted claim category code availableAt t₀ now _ _ hverdict =>
    exact .inl ⟨.inr (.inr rfl), rfl⟩
  | waiting claim category code availableAt t₀ now _ _ hverdict =>
    have hobtained := (hguarded.of_claimVerdict hverdict).2
    rw [← (onRecord_of_claimVerdict hverdict).1] at huncertain
    exact absurd hobtained (hcareful huncertain)
  | succeeded => exact .inl ⟨.inr (.inl rfl), rfl⟩
  | uncertain => exact .inl ⟨.inl rfl, rfl⟩
  | deadLettered => exact .inl ⟨.inr (.inr rfl), rfl⟩
  | cancelled operationId now _ _ hstatus => exact absurd hstatus hguarded.not_due
  | abandoned operationId reason now _ _ hstatus =>
    rcases hguarded with ⟨-, hnone⟩ | ⟨hclaimed, -⟩
    · exact .inl ⟨.inr (.inr rfl), hnone⟩
    · exact absurd hclaimed hstatus.1
  | retried => exact hcareful.elim

theorem RecordStep.claimExpiresAt_of_entered {command : Command} {response : Response}
    {before after : OutboxOperation} (hstep : RecordStep D r command response before after)
    (hbefore : before.status ≠ .reconciliationRequired)
    (hafter : after.status = .reconciliationRequired) : after.claimExpiresAt = none := by
  have hrecovered : ∀ now, (Outbox.recoverOne now before).status = .reconciliationRequired →
      (Outbox.recoverOne now before).claimExpiresAt = none := by
    intro now h
    unfold Outbox.recoverOne at h ⊢
    split at h
    · rw [if_pos ‹_›]
      rfl
    · exact absurd h hbefore
  cases hstep with
  | untouched => exact absurd hafter hbefore
  | recovered now => exact hrecovered now hafter
  | recoveredFirst ownerId token ttlSeconds now => exact hrecovered now hafter
  | renewed => exact absurd hafter hbefore
  | uncertain => rfl
  | _ => cases hafter

theorem History.filed_of_dispatching (history : History D events r)
    (hdispatching : HasBeenDispatching events id) :
    ∃ operation, r.operations.get? id = some operation := by
  induction history with
  | start =>
    obtain ⟨event, hevent, -⟩ := hdispatching
    cases hevent
  | @call events r history command ih =>
    obtain ⟨event, hevent, hstatus⟩ := hdispatching
    rcases List.mem_cons.mp hevent with rfl | hearlier
    · obtain ⟨operation, hfiled, -⟩ := Option.map_eq_some_iff.mp hstatus
      exact ⟨operation, hfiled⟩
    · obtain ⟨before, hbefore⟩ := ih ⟨event, hearlier, hstatus⟩
      exact record_stays_filed D r command hbefore

theorem History.guarded (history : History D events r) (hcareful : Careful D events)
    (huncertain : Uncertain D events id) :
    ∃ operation, r.operations.get? id = some operation ∧ Guarded D events operation := by
  induction history with
  | start => exact huncertain.elim
  | @call events r history command ih =>
    obtain ⟨hstep, hearlier⟩ := hcareful
    rcases huncertain with ⟨hdispatching, hleft, hentered⟩ | ⟨hbefore, hkept⟩
    · -- the outcome has just become uncertain
      obtain ⟨before, hfiled⟩ := history.filed_of_dispatching hdispatching
      obtain ⟨after, hafter, hstatus⟩ := Option.map_eq_some_iff.mp hentered
      have hother : before.status ≠ .reconciliationRequired := by
        intro hsame
        refine hleft ?_
        simp [Event.statusBefore, record, hfiled, hsame]
      refine ⟨after, hafter, .inl ⟨.inl hstatus, ?_⟩⟩
      rcases record_inv D r command hafter with
        ⟨error, -, hsame⟩ | ⟨response, -, ⟨found, hfound, hrecord⟩ | ⟨hnew, -⟩⟩
      · rw [hfiled, Option.some.injEq] at hsame
        subst hsame
        exact absurd hstatus hother
      · rw [hfiled, Option.some.injEq] at hfound
        subst hfound
        exact hrecord.claimExpiresAt_of_entered hother hstatus
      · rw [hfiled] at hnew
        cases hnew
    · -- it was uncertain before the call
      obtain ⟨before, hfiled, hguarded⟩ := ih hearlier hbefore
      obtain ⟨after, hafter⟩ := record_stays_filed D r command hfiled
      refine ⟨after, hafter, ?_⟩
      have hkey := OperationTable.operationId_of_get? hfiled
      rcases record_inv D r command hafter with
        ⟨error, -, hsame⟩ | ⟨response, houtcome, ⟨found, hfound, hrecord⟩ | ⟨hnew, -⟩⟩
      · rw [hfiled, Option.some.injEq] at hsame
        subst hsame
        exact hguarded.weaken
      · rw [hfiled, Option.some.injEq] at hfound
        subst hfound
        exact hguarded.of_recordStep (filed_of_get? hfiled) (hkey ▸ hbefore) hstep rfl
          houtcome (hkey ▸ hkept) hrecord
      · rw [hfiled] at hnew
        cases hnew

/-! ## Redispatch -/

/-- A history of careful calls never redispatches an uncertain operation blindly. -/
theorem no_blind_redispatch (history : History D events r) (hcareful : Careful D events) :
    NoBlindRedispatch D events := by
  intro event earlier hsuffix id hnext huncertain
  obtain ⟨hearlier, hrecorded⟩ := history.of_suffix hsuffix
  obtain ⟨hstep, hbefore⟩ := hcareful.of_suffix hsuffix
  obtain ⟨operation, hfiled, hguarded⟩ := hearlier.guarded hbefore huncertain
  have heffect : ∀ {response}, event.outcome = .ok response →
      Effect D event.pre event.post.operations event.command response := by
    intro response houtcome
    rw [hrecorded] at houtcome ⊢
    rcases record_cases D event.pre event.command with ⟨error, herror, -⟩ | ⟨found, hok, h⟩
    · rw [herror] at houtcome
      cases houtcome
    · rw [hok, Except.ok.injEq] at houtcome
      exact houtcome ▸ h
  rcases hnext with hdispatched | hclaimed
  · unfold Event.dispatched at hdispatched
    split at hdispatched
    · rename_i claim t₀ now response hcommand houtcome
      obtain rfl := Option.some.inj hdispatched
      have hcall := heffect houtcome
      rw [hcommand] at hcall hstep
      obtain ⟨found, hverdict, -⟩ := hcall
      rw [(claimVerdict_ok_iff.mp hverdict).1, Option.some.injEq] at hfiled
      subst hfiled
      exact hstep huncertain (hguarded.of_claimVerdict hverdict).2
    · cases hdispatched
  · unfold Event.claimedNext at hclaimed
    split at hclaimed
    · rename_i ownerId token ttlSeconds now claim hcommand houtcome
      obtain rfl := Option.some.inj hclaimed
      have hcall := heffect houtcome
      rw [hcommand] at hcall hstep
      obtain ⟨found, helig, rfl, -⟩ := hcall
      obtain ⟨hfound, hdue, -⟩ := mem_eligible.mp helig
      change event.pre.operations.get? found.operationId = some operation at hfiled
      rw [get?_recover, hfiled, Option.map_some, Option.some.injEq] at hfound
      have hkey := OperationTable.operationId_of_get? hfiled
      rw [hguarded.recoverOne fun hheld =>
        hstep operation (OperationTable.mem_values.mpr (filed_of_get? hfiled))
          (hkey ▸ huncertain) hheld] at hfound
      exact hguarded.not_due (hfound ▸ hdue)
    · cases hclaimed

instance (event : Event) (id : String) : Decidable (event.EnteredReconciliation id) :=
  inferInstanceAs (Decidable (_ ∧ _))

instance (events : List Event) (id : String) : Decidable (HasBeenDispatching events id) :=
  inferInstanceAs (Decidable (∃ event ∈ events, _))

instance (events : List Event) (claim : OutboxClaim) :
    Decidable (ObtainedForReconciliation D events claim) :=
  inferInstanceAs (Decidable (∃ issued ∈ events.filterMap _, _))

instance (earlier : List Event) (event : Event) (id : String) :
    Decidable (ReleasedUnexecuted D earlier event id) :=
  inferInstanceAs (Decidable (∃ claim ∈ event.released, _))

instance decidableUncertain : (events : List Event) → (id : String) →
    Decidable (Uncertain D events id)
  | [], _ => inferInstanceAs (Decidable False)
  | event :: earlier, id =>
    have := decidableUncertain earlier id
    inferInstanceAs (Decidable (_ ∧ event.EnteredReconciliation id ∨ _ ∧ ¬ _))

instance (events : List Event) (operation : OutboxOperation) :
    Decidable (HeldForReconciliation D events operation) :=
  inferInstanceAs (Decidable (_ ∧ ∃ issued ∈ events.filterMap _, _))

instance (earlier : List Event) (r : Repository) (now : Timestamp) :
    Decidable (ReconciliationLive D earlier r now) :=
  inferInstanceAs (Decidable (∀ operation ∈ r.operations.values, _ → _ → _))

instance (earlier : List Event) (r : Repository) :
    (command : Command) → Decidable (CarefulStep D earlier r command)
  | .recoverExpired now => inferInstanceAs (Decidable (ReconciliationLive D earlier r now))
  | .claimNext _ _ _ now => inferInstanceAs (Decidable (ReconciliationLive D earlier r now))
  | .markDispatching _ _ _ => inferInstanceAs (Decidable (_ → _))
  | .markRetryWait _ _ _ _ _ _ => inferInstanceAs (Decidable (_ → _))
  | .retryDeadLetter _ _ => inferInstanceAs (Decidable False)
  | .addOperation _ | .claimReconciliation _ _ _ _ | .renewClaim _ _ _ _
  | .releaseClaim _ _ | .markSucceeded _ _ _ _ | .markReconciliationRequired _ _ _ _
  | .markDeadLetter _ _ _ _ | .cancelOperation _ _ | .abandonOperation _ _ _
  | .setProviderPause _ _ => inferInstanceAs (Decidable True)

instance decidableCareful : (events : List Event) → Decidable (Careful D events)
  | [] => inferInstanceAs (Decidable True)
  | event :: earlier =>
    have := decidableCareful earlier
    inferInstanceAs (Decidable (CarefulStep D earlier event.pre event.command ∧ _))

/-- A dispatch whose outcome is lost: added, claimed, dispatched, declared uncertain and
taken up for reconciliation at second 10, with a claim that lasts until second 40. -/
def underReconciliation : List Command :=
  [.claimReconciliation "reconciler" "t2" 30 (timedelta 10),
    .markReconciliationRequired
      { operationId := "op-1", ownerId := "worker-1", token := "t1", claimedAt := 0,
        expiresAt := timedelta 30, fencingToken := 1 } "TIMEOUT" (timedelta 2) (timedelta 2),
    .markDispatching
      { operationId := "op-1", ownerId := "worker-1", token := "t1", claimedAt := 0,
        expiresAt := timedelta 30, fencingToken := 1 } (timedelta 1) (timedelta 1),
    .claimNext "worker-1" "t1" 30 0, .addOperation sampleOperation]

/-- The claim that `underReconciliation` ends with. -/
def reconciliationClaim : OutboxClaim where
  operationId := "op-1"
  ownerId := "reconciler"
  token := "t2"
  claimedAt := timedelta 10
  expiresAt := timedelta 40
  fencingToken := 2

/-- The reconciler finds the operation not executed and releases it, and a worker
dispatches it again. -/
def releasedUnexecuted : List Command :=
  [.markDispatching
      { operationId := "op-1", ownerId := "worker-2", token := "t3",
        claimedAt := timedelta 20, expiresAt := timedelta 50, fencingToken := 3 }
      (timedelta 21) (timedelta 21),
    .claimNext "worker-2" "t3" 30 (timedelta 20),
    .releaseClaim reconciliationClaim (timedelta 15)] ++ underReconciliation

/-- The released operation is redispatched in a careful history. -/
theorem no_blind_redispatch_released :
    Careful sampleDigests (play sampleDigests releasedUnexecuted).1 ∧
      (play sampleDigests releasedUnexecuted).1.head?.bind Event.dispatched = some "op-1" ∧
      NoBlindRedispatch sampleDigests (play sampleDigests releasedUnexecuted).1 := by
  have hcareful : Careful sampleDigests (play sampleDigests releasedUnexecuted).1 := by
    decide +kernel
  exact ⟨hcareful, by decide +kernel,
    no_blind_redispatch (history_play sampleDigests releasedUnexecuted) hcareful⟩

/-- The reconciler stalls until its claim has expired, and a worker claims and dispatches
the operation at second 50. -/
def stalledReconciler : List Command :=
  .markDispatching
      { operationId := "op-1", ownerId := "worker-2", token := "t3",
        claimedAt := timedelta 50, expiresAt := timedelta 80, fencingToken := 3 }
      (timedelta 51) (timedelta 51) ::
    .claimNext "worker-2" "t3" 30 (timedelta 50) :: underReconciliation

/-- Without the condition the repository redispatches blindly: an expired reconciliation
claim makes the uncertain operation eligible again. -/
theorem redispatch_after_expiry :
    ¬ ∀ (D : Digests) (events : List Event) (r : Repository), History D events r →
      (∀ event ∈ events, event.command.isOperatorRetry = false) → NoBlindRedispatch D events := by
  intro hclaim
  have hblind := hclaim sampleDigests _ _ (history_play sampleDigests stalledReconciler)
    (by decide +kernel)
  refine hblind _ _ List.suffix_rfl "op-1" (.inl ?_) ?_
  · decide +kernel
  · decide +kernel

end Outbox
end Ascos
