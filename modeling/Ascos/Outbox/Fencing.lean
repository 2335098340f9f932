import Ascos.Outbox.History

/-!
# Claim exclusivity and fencing

A claim is checked against the identity its operation has on record: owner, token
digest and fencing token.  This module follows that identity and the fencing token
through every call of a history.

Main results:

- Theorem `get?_record_post`: what one call can do to the fencing token and
  the identity on record of an operation.
- Theorem `claim_exclusivity`: fencing tokens increase with every claim, at
  most one claim of an operation passes validation, and a claim that is not on
  record, has expired or was cleared is refused with the repository unchanged.
-/

namespace Ascos
namespace Outbox

open Library

variable {D : Digests} {r : Repository} {events : List Event}

/-- The claim that a recorded call of `claim_next` or
`claim_reconciliation` issued. -/
def Event.issued (event : Event) : Option OutboxClaim :=
  match event.command, event.outcome with
  | .claimNext _ _ _ _, .ok (.claim claim) => claim
  | .claimReconciliation _ _ _ _, .ok (.claim claim) => claim
  | _, _ => none

/-- The claim that a recorded call handed to its caller: an issued one, or the
renewed one that `renew_claim` returns. -/
def Event.handedOut (event : Event) : Option OutboxClaim :=
  match event.command, event.outcome with
  | .renewClaim _ _ _ _, .ok (.claim claim) => claim
  | _, _ => event.issued

theorem Event.handedOut_of_issued {event : Event} {claim : OutboxClaim}
    (h : event.issued = some claim) : event.handedOut = some claim := by
  unfold handedOut
  split
  · rename_i hcommand houtcome
    simp [issued, hcommand] at h
  · exact h

/-! ## One call and one operation -/

/-- What a call can do to the claim of one operation: keep it, extend its expiry, clear
it, or replace it by a newly issued claim with the next fencing token. -/
inductive ClaimStep (D : Digests) (event : Event) (before after : OutboxOperation) : Prop
  | keep (hfence : after.fencingToken = before.fencingToken)
      (hrecord : onRecord after = onRecord before)
      (hexpiry : after.claimExpiresAt = before.claimExpiresAt)
  | renew (claim : OutboxClaim) (hhanded : event.handedOut = some claim)
      (hid : claim.operationId = before.operationId)
      (hfence : after.fencingToken = before.fencingToken)
      (hbefore : onRecord before = some (claim.identity D))
      (hrecord : onRecord after = some (claim.identity D))
      (hexpiry : after.claimExpiresAt = some claim.expiresAt)
  | clear (hfence : after.fencingToken = before.fencingToken)
      (hrecord : onRecord after = none)
  | issue (claim : OutboxClaim) (hissued : event.issued = some claim)
      (hid : claim.operationId = before.operationId)
      (hfence : after.fencingToken = before.fencingToken + 1)
      (hrecord : onRecord after = some (claim.identity D))
      (hexpiry : after.claimExpiresAt = some claim.expiresAt)

variable {event : Event}

@[simp]
theorem onRecord_clearClaim (operation : OutboxOperation) :
    onRecord (clearClaim operation) = none :=
  rfl

theorem recoverOne_claimStep (event : Event) (now : Timestamp)
    (operation : OutboxOperation) :
    ClaimStep D event operation (recoverOne now operation) := by
  unfold recoverOne
  split
  · exact .clear (by split <;> rfl) rfl
  · exact .keep rfl rfl rfl

theorem onRecord_of_claimVerdict {claim : OutboxClaim} {t₀ : Timestamp}
    {operation : OutboxOperation} (hverdict : claimVerdict D r claim t₀ = .ok operation) :
    claim.operationId = operation.operationId ∧
      onRecord operation = some (claim.identity D) := by
  obtain ⟨hget, hrecord, -⟩ := claimVerdict_ok_iff.mp hverdict
  exact ⟨(OperationTable.operationId_of_get? hget).symm, hrecord⟩

theorem RecordStep.claimStep {command : Command} {response : Response}
    {before after : OutboxOperation} (hcommand : event.command = command)
    (houtcome : event.outcome = .ok response)
    (hstep : RecordStep D r command response before after) :
    ClaimStep D event before after := by
  cases hstep with
  | untouched => exact .keep rfl rfl rfl
  | recovered now => exact recoverOne_claimStep event now before
  | recoveredFirst ownerId token ttlSeconds now => exact recoverOne_claimStep event now before
  | claimed ownerId token ttlSeconds now _ hstatus =>
    refine .issue (issuedClaim ownerId token now ttlSeconds before)
      (by simp only [Event.issued, hcommand, houtcome]) rfl ?_ ?_ rfl
    · simp [claimedRecord]
    · simp [claimedRecord, onRecord, OutboxClaim.identity, issuedClaim]
  | claimedReconciliation ownerId token ttlSeconds now _ hstatus =>
    exact .issue (issuedClaim ownerId token now ttlSeconds before)
      (by simp only [Event.issued, hcommand, houtcome]) rfl rfl rfl rfl
  | renewed claim ttlSeconds t₀ now _ hverdict =>
    -- the renewed claim presents the identity of the one it renews
    obtain ⟨hid, hrecord⟩ := onRecord_of_claimVerdict hverdict
    obtain ⟨-, howner, hhash, hfence⟩ := onRecord_eq_some_iff.mp hrecord
    exact .renew (renewedClaim claim ttlSeconds now before)
      (by simp only [Event.handedOut, hcommand, houtcome]) hid rfl hrecord
      (onRecord_eq_some_iff.mpr ⟨⟨_, rfl⟩, howner, hhash, hfence⟩) rfl
  | released => exact .clear rfl rfl
  | dispatched => exact .keep rfl rfl rfl
  | succeeded => exact .clear rfl rfl
  | exhausted => exact .clear rfl rfl
  | waiting => exact .clear rfl rfl
  | uncertain => exact .clear rfl rfl
  | deadLettered => exact .clear rfl rfl
  | cancelled => exact .keep rfl rfl rfl
  | abandoned => exact .keep rfl rfl rfl
  | retried => exact .keep rfl rfl rfl

theorem filed_or_added {command : Command} {id : String} {after : OutboxOperation}
    (hafter : (record D r command).post.operations.get? id = some after) :
    (∃ before, r.operations.get? id = some before ∧
        ClaimStep D (record D r command) before after) ∨
      r.operations.get? id = none ∧ command = .addOperation after := by
  rcases record_inv D r command hafter with
    ⟨error, -, hsame⟩ | ⟨response, houtcome, ⟨before, hbefore, hstep⟩ | hadded⟩
  · exact .inl ⟨after, hsame, .keep rfl rfl rfl⟩
  · exact .inl ⟨before, hbefore, hstep.claimStep rfl houtcome⟩
  · exact .inr hadded

/-- One call keeps every operation on file and changes its claim by a
`ClaimStep`. -/
theorem get?_record_post (D : Digests) (r : Repository) (command : Command)
    {id : String} {before : OutboxOperation} (hbefore : r.operations.get? id = some before) :
    ∃ after, (record D r command).post.operations.get? id = some after ∧
      ClaimStep D (record D r command) before after := by
  obtain ⟨after, hafter⟩ := record_stays_filed D r command hbefore
  refine ⟨after, hafter, ?_⟩
  rcases filed_or_added hafter with ⟨found, hfound, hstep⟩ | ⟨hnew, -⟩
  · rw [hbefore, Option.some.injEq] at hfound
    subst hfound
    exact hstep
  · rw [hnew] at hbefore
    cases hbefore

theorem filed_of_issued {command : Command} {claim : OutboxClaim}
    (hissued : (record D r command).issued = some claim) :
    (∃ before, r.operations.get? claim.operationId = some before ∧
      claim.fencingToken = before.fencingToken + 1) ∧
      ∃ after, (record D r command).post.operations.get? claim.operationId = some after ∧
        after.fencingToken = claim.fencingToken := by
  have hcommand : (record D r command).command = command := rfl
  rcases record_cases D r command with ⟨error, houtcome, -⟩ | ⟨response, houtcome, heffect⟩
  · unfold Event.issued at hissued
    rw [houtcome] at hissued
    cases command <;> simp [hcommand] at hissued
  cases command with
  | claimNext ownerId token ttlSeconds now =>
    rcases response with _ | _ | _ | _ | found
    all_goals try exact heffect.elim
    all_goals simp [Event.issued, hcommand, houtcome] at hissued
    subst hissued
    obtain ⟨operation, helig, rfl, htable⟩ := heffect
    have hmid := (mem_eligible.mp helig).1
    rw [get?_recover, Option.map_eq_some_iff] at hmid
    obtain ⟨before, hbefore, hop⟩ := hmid
    refine ⟨⟨before, hbefore, ?_⟩, ?_⟩
    · rw [← recoverOne_fencingToken now before, hop]
      rfl
    · rw [htable, OperationTable.get?_put]
      exact ⟨_, if_pos rfl, rfl⟩
  | claimReconciliation ownerId token ttlSeconds now =>
    rcases response with _ | _ | _ | _ | found
    all_goals try exact heffect.elim
    all_goals simp [Event.issued, hcommand, houtcome] at hissued
    subst hissued
    obtain ⟨operation, hcandidate, rfl, htable⟩ := heffect
    refine ⟨⟨operation, (mem_reconciliationCandidates.mp hcandidate).1, rfl⟩, ?_⟩
    rw [htable, OperationTable.get?_put]
    exact ⟨_, if_pos rfl, rfl⟩
  | _ => simp [Event.issued, hcommand] at hissued

theorem ClaimStep.fencingToken_le {before after : OutboxOperation}
    (hstep : ClaimStep D event before after) :
    before.fencingToken ≤ after.fencingToken := by
  cases hstep <;> omega

/-! ## Whole histories -/

/-- The claims issued in a history, newest first. -/
def issuedClaims (events : List Event) : List OutboxClaim :=
  events.filterMap Event.issued

/-- The claims handed to callers in a history, newest first. -/
def handedOutClaims (events : List Event) : List OutboxClaim :=
  events.filterMap Event.handedOut

theorem History.issued_le (history : History D events r) {claim : OutboxClaim}
    (hissued : claim ∈ issuedClaims events) :
    ∃ operation, r.operations.get? claim.operationId = some operation ∧
      claim.fencingToken ≤ operation.fencingToken := by
  induction history with
  | start => simp [issuedClaims] at hissued
  | @call events r history command ih =>
    obtain ⟨event, hevent, hclaim⟩ := List.mem_filterMap.mp hissued
    rcases List.mem_cons.mp hevent with rfl | hearlier
    · obtain ⟨-, after, hafter, hfence⟩ := filed_of_issued hclaim
      exact ⟨after, hafter, hfence.ge⟩
    · obtain ⟨before, hbefore, hle⟩ := ih (List.mem_filterMap.mpr ⟨event, hearlier, hclaim⟩)
      obtain ⟨after, hafter, hstep⟩ := get?_record_post D r command hbefore
      exact ⟨after, hafter, hle.trans hstep.fencingToken_le⟩

theorem History.pairwise_issuedClaims (history : History D events r) :
    (issuedClaims events).Pairwise fun newer older =>
      newer.operationId = older.operationId → older.fencingToken < newer.fencingToken := by
  induction history with
  | start => exact List.Pairwise.nil
  | @call events r history command ih =>
    cases hissued : (record D r command).issued with
    | none => simpa [issuedClaims, hissued] using ih
    | some claim =>
        have hlist : issuedClaims (record D r command :: events) =
            claim :: issuedClaims events := by
          simp [issuedClaims, hissued]
        rw [hlist]
        refine List.Pairwise.cons (fun older holder hid => ?_) ih
        -- the older claim is bounded by the record the new one was taken from
        obtain ⟨operation, hfiled, hle⟩ := history.issued_le holder
        obtain ⟨⟨before, hbefore, hnext⟩, -⟩ := filed_of_issued hissued
        rw [hid, hfiled, Option.some.injEq] at hbefore
        subst hbefore
        omega

def AddedWith (events : List Event) (operationId : String) (identity : Identity) : Prop :=
  ∃ event ∈ events, ∃ operation, event.command = .addOperation operation ∧
    operation.operationId = operationId ∧ onRecord operation = some identity

/-- An identity on record comes with an expiry that was handed out, unless the operation
was added with it. -/
def Accounted (D : Digests) (events : List Event) (operation : OutboxOperation) : Prop :=
  ∀ identity, onRecord operation = some identity →
    AddedWith events operation.operationId identity ∨
      ∃ claim ∈ handedOutClaims events, claim.operationId = operation.operationId ∧
        claim.identity D = identity ∧ operation.claimExpiresAt = some claim.expiresAt

theorem Accounted.of_claimStep {before after : OutboxOperation}
    (haccounted : Accounted D events before)
    (hkey : after.operationId = before.operationId)
    (hstep : ClaimStep D event before after) :
    Accounted D (event :: events) after := by
  have hweaken : ∀ {claim}, claim ∈ handedOutClaims events →
      claim ∈ handedOutClaims (event :: events) := by
    intro claim hclaim
    obtain ⟨earlier, hearlier, hhanded⟩ := List.mem_filterMap.mp hclaim
    exact List.mem_filterMap.mpr ⟨earlier, List.mem_cons_of_mem _ hearlier, hhanded⟩
  have hnewest : ∀ {claim}, event.handedOut = some claim →
      claim ∈ handedOutClaims (event :: events) := fun hhanded =>
    List.mem_filterMap.mpr ⟨event, List.mem_cons_self, hhanded⟩
  intro identity hidentity
  rw [hkey]
  cases hstep with
  | keep hfence hrecord hexpiry =>
    rw [hrecord] at hidentity
    rw [hexpiry]
    rcases haccounted identity hidentity with ⟨added, hadded, h⟩ | ⟨claim, hclaim, h⟩
    · exact .inl ⟨added, List.mem_cons_of_mem _ hadded, h⟩
    · exact .inr ⟨claim, hweaken hclaim, h⟩
  | renew claim hhanded hid hfence hbefore hrecord hexpiry =>
    rw [hrecord, Option.some.injEq] at hidentity
    exact .inr ⟨claim, hnewest hhanded, hid, hidentity, hexpiry⟩
  | clear hfence hrecord =>
    rw [hrecord] at hidentity
    cases hidentity
  | issue claim hissued hid hfence hrecord hexpiry =>
    rw [hrecord, Option.some.injEq] at hidentity
    exact .inr ⟨claim, hnewest (Event.handedOut_of_issued hissued), hid, hidentity, hexpiry⟩

theorem History.accounted (history : History D events r) {id : String}
    {operation : OutboxOperation} (hfiled : r.operations.get? id = some operation) :
    Accounted D events operation := by
  induction history generalizing id operation with
  | start => simp [Repository.init] at hfiled
  | @call events r history command ih =>
    rcases filed_or_added hfiled with ⟨before, hbefore, hstep⟩ | ⟨-, rfl⟩
    · have hkey := OperationTable.operationId_of_get? hfiled
      rw [← OperationTable.operationId_of_get? hbefore] at hkey
      exact (ih hbefore).of_claimStep hkey hstep
    · exact fun identity hidentity =>
        .inl ⟨_, List.mem_cons_self, operation, rfl, rfl, hidentity⟩

/-- An identity that can never be on record of the operation again. -/
def Spent (identity : Identity) (operation : OutboxOperation) : Prop :=
  identity.fencingToken < operation.fencingToken ∨
    identity.fencingToken ≤ operation.fencingToken ∧ onRecord operation = none

theorem fencingToken_of_onRecord {operation : OutboxOperation} {identity : Identity}
    (h : onRecord operation = some identity) :
    operation.fencingToken = identity.fencingToken :=
  (onRecord_eq_some_iff.mp h).2.2.2

theorem Spent.onRecord_ne {identity : Identity} {operation : OutboxOperation}
    (hspent : Spent identity operation) : onRecord operation ≠ some identity := by
  intro hrecord
  have hfence := fencingToken_of_onRecord hrecord
  rcases hspent with hlt | ⟨-, hnone⟩
  · omega
  · rw [hnone] at hrecord
    cases hrecord

theorem Spent.of_claimStep {identity : Identity} {before after : OutboxOperation}
    (hspent : Spent identity before) (hstep : ClaimStep D event before after) :
    Spent identity after := by
  have hle : identity.fencingToken ≤ before.fencingToken := by
    rcases hspent with hlt | ⟨hle, -⟩ <;> omega
  cases hstep with
  | keep hfence hrecord hexpiry => rwa [Spent, hfence, hrecord]
  | renew claim hhanded hid hfence hbefore hrecord hexpiry =>
    rcases hspent with hlt | ⟨-, hnone⟩
    · exact .inl (by omega)
    · rw [hnone] at hbefore
      cases hbefore
  | clear hfence hrecord => exact .inr ⟨by omega, hrecord⟩
  | issue claim hissued hid hfence hrecord hexpiry => exact .inl (by omega)

theorem spent_of_claimStep {identity : Identity} {before after : OutboxOperation}
    (hbefore : onRecord before = some identity) (hafter : onRecord after ≠ some identity)
    (hstep : ClaimStep D event before after) : Spent identity after := by
  have hidentity := fencingToken_of_onRecord hbefore
  cases hstep with
  | keep hfence hrecord hexpiry => exact absurd (hrecord.trans hbefore) hafter
  | renew claim hhanded hid hfence hclaim hrecord hexpiry =>
      exact absurd (hrecord.trans (hclaim.symm.trans hbefore)) hafter
  | clear hfence hrecord => exact .inr ⟨by omega, hrecord⟩
  | issue claim hissued hid hfence hrecord hexpiry => exact .inl (by omega)

/-- The identity was on record of the operation before some call of the history and no
longer after it. -/
def Cleared (events : List Event) (operationId : String) (identity : Identity) : Prop :=
  ∃ event ∈ events, ∃ before after,
    event.pre.operations.get? operationId = some before ∧
      onRecord before = some identity ∧
        event.post.operations.get? operationId = some after ∧
          onRecord after ≠ some identity

theorem History.spent_of_cleared (history : History D events r) {operationId : String}
    {identity : Identity} (hcleared : Cleared events operationId identity) :
    ∃ operation, r.operations.get? operationId = some operation ∧
      Spent identity operation := by
  induction history with
  | start =>
    obtain ⟨event, hevent, -⟩ := hcleared
    cases hevent
  | @call events r history command ih =>
    obtain ⟨event, hevent, before, after, hbefore, hon, hafter, hoff⟩ := hcleared
    rcases List.mem_cons.mp hevent with rfl | hearlier
    · obtain ⟨found, hfound, hstep⟩ := get?_record_post D r command hbefore
      rw [hafter, Option.some.injEq] at hfound
      subst hfound
      exact ⟨after, hafter, spent_of_claimStep hon hoff hstep⟩
    · obtain ⟨operation, hfiled, hspent⟩ :=
        ih ⟨event, hearlier, before, after, hbefore, hon, hafter, hoff⟩
      obtain ⟨later, hlater, hstep⟩ := get?_record_post D r command hfiled
      exact ⟨later, hlater, hspent.of_claimStep hstep⟩

/-! ## Exclusivity -/

/-- The two claims are one claim up to renewal. -/
def SameClaim (claim other : OutboxClaim) : Prop :=
  claim.operationId = other.operationId ∧ claim.ownerId = other.ownerId ∧
    claim.token = other.token ∧ claim.fencingToken = other.fencingToken

instance (claim other : OutboxClaim) : Decidable (SameClaim claim other) :=
  inferInstanceAs (Decidable (_ ∧ _ ∧ _ ∧ _))

theorem sameClaim_of_identity (hhash : Function.Injective D.hash) {claim other : OutboxClaim}
    (hid : claim.operationId = other.operationId)
    (hidentity : claim.identity D = other.identity D) : SameClaim claim other := by
  simp only [OutboxClaim.identity, Identity.mk.injEq] at hidentity
  exact ⟨hid, hidentity.1, hhash hidentity.2.1, hidentity.2.2⟩

/-- The claim passes `_validate_claim` at a clock reading. -/
def Passes (D : Digests) (r : Repository) (claim : OutboxClaim) (t₀ : Timestamp) : Prop :=
  ∃ operation, claimVerdict D r claim t₀ = .ok operation

theorem Passes.sameClaim (hhash : Function.Injective D.hash) {claim other : OutboxClaim}
    {t₀ t₁ : Timestamp} (hclaim : Passes D r claim t₀) (hother : Passes D r other t₁)
    (hid : claim.operationId = other.operationId) : SameClaim claim other := by
  obtain ⟨operation, hverdict⟩ := hclaim
  obtain ⟨found, hfound⟩ := hother
  obtain ⟨hget, hrecord, -⟩ := claimVerdict_ok_iff.mp hverdict
  obtain ⟨hget', hrecord', -⟩ := claimVerdict_ok_iff.mp hfound
  rw [hid, hget', Option.some.injEq] at hget
  subst hget
  rw [hrecord, Option.some.injEq] at hrecord'
  exact sameClaim_of_identity hhash hid hrecord'

/-- The claim a call presents for validation, with the clock reading validation takes. -/
def Command.presented : Command → Option (OutboxClaim × Timestamp)
  | .renewClaim claim _ t₀ _ => some (claim, t₀)
  | .releaseClaim claim t₀ => some (claim, t₀)
  | .markDispatching claim t₀ _ => some (claim, t₀)
  | .markSucceeded claim _ t₀ _ => some (claim, t₀)
  | .markRetryWait claim _ _ _ t₀ _ => some (claim, t₀)
  | .markReconciliationRequired claim _ t₀ _ => some (claim, t₀)
  | .markDeadLetter claim _ t₀ _ => some (claim, t₀)
  | _ => none

/-- The call raises and leaves the whole repository unchanged. -/
def Refused (D : Digests) (r : Repository) (command : Command) : Prop :=
  ∃ error, Program.exec (command.run D) r = (.error error, r)

theorem refused_of_not_passes {command : Command} {claim : OutboxClaim} {t₀ : Timestamp}
    (hpresented : command.presented = some (claim, t₀)) (hnot : ¬ Passes D r claim t₀) :
    Refused D r command := by
  obtain ⟨error, hverdict⟩ : ∃ error, claimVerdict D r claim t₀ = .error error := by
    cases hverdict : claimVerdict D r claim t₀ with
    | error error => exact ⟨error, rfl⟩
    | ok operation => exact absurd ⟨operation, hverdict⟩ hnot
  refine ⟨error, ?_⟩
  cases command <;> simp only [Command.presented, Option.some.injEq, Prod.mk.injEq,
    reduceCtorEq] at hpresented
  all_goals
    obtain ⟨rfl, rfl⟩ := hpresented
    simp [Command.run, renewClaim, releaseClaim, markDispatching, markSucceeded,
      markRetryWait, markReconciliationRequired, markDeadLetter, hverdict]

/-- The claims that must not be accepted at a clock reading. -/
inductive Unusable (D : Digests) (events : List Event) (r : Repository)
    (claim : OutboxClaim) (t₀ : Timestamp) : Prop
  /-- Another claim of the operation passes. -/
  | other (passing : OutboxClaim) (hid : claim.operationId = passing.operationId)
      (hpasses : Passes D r passing t₀) (hother : ¬ SameClaim claim passing)
  /-- A later claim of the operation was issued. -/
  | superseded (newer : OutboxClaim) (hissued : newer ∈ issuedClaims events)
      (hid : claim.operationId = newer.operationId)
      (hnewer : claim.fencingToken < newer.fencingToken)
  /-- The recorded expiry of the operation has been reached. -/
  | expired (operation : OutboxOperation) (expiry : Timestamp)
      (hfiled : r.operations.get? claim.operationId = some operation)
      (hexpiry : operation.claimExpiresAt = some expiry) (hlate : expiry ≤ t₀)
  /-- No claim or renewal that was ever handed out for it is still unexpired; this
  includes a claim that was never handed out. -/
  | lapsed (hforeign : ¬ AddedWith events claim.operationId (claim.identity D))
      (hlate : ∀ handed ∈ handedOutClaims events, SameClaim handed claim →
        handed.expiresAt ≤ t₀)
  /-- An earlier call took it off the record. -/
  | cleared (hcleared : Cleared events claim.operationId (claim.identity D))

theorem History.not_passes (history : History D events r)
    (hhash : Function.Injective D.hash) {claim : OutboxClaim} {t₀ : Timestamp}
    (hunusable : Unusable D events r claim t₀) : ¬ Passes D r claim t₀ := by
  intro hpasses
  obtain ⟨operation, hverdict⟩ := id hpasses
  obtain ⟨hget, hrecord, expiry, hexpiry, hlive⟩ := claimVerdict_ok_iff.mp hverdict
  cases hunusable with
  | other passing hid hpassing hother => exact hother (hpasses.sameClaim hhash hpassing hid)
  | superseded newer hissued hid hnewer =>
    obtain ⟨found, hfound, hle⟩ := history.issued_le hissued
    rw [← hid, hget, Option.some.injEq] at hfound
    subst hfound
    have hfence := fencingToken_of_onRecord hrecord
    simp only [OutboxClaim.identity] at hfence
    omega
  | expired found expiry' hfound hexpiry' hlate =>
    rw [hget, Option.some.injEq] at hfound
    subst hfound
    rw [hexpiry, Option.some.injEq] at hexpiry'
    exact absurd hlive (not_lt.mpr (hexpiry' ▸ hlate))
  | lapsed hforeign hlate =>
    have hkey := OperationTable.operationId_of_get? hget
    rcases history.accounted hget _ hrecord with hadded | ⟨handed, hhanded, hid, hsame, hrec⟩
    · exact hforeign (hkey ▸ hadded)
    · have hle := hlate handed hhanded
        (sameClaim_of_identity hhash (hid.trans hkey) hsame)
      rw [hexpiry, Option.some.injEq] at hrec
      exact absurd hlive (not_lt.mpr (hrec ▸ hle))
  | cleared hcleared =>
    obtain ⟨found, hfound, hspent⟩ := history.spent_of_cleared hcleared
    rw [hget, Option.some.injEq] at hfound
    subst hfound
    exact hspent.onRecord_ne hrecord

/-- What claims guarantee in a repository reached by a history. -/
structure ClaimDiscipline (D : Digests) (events : List Event) (r : Repository) : Prop where
  /-- For each operation the fencing token strictly increases with every claim. -/
  fencing_increases : (issuedClaims events).Pairwise fun newer older =>
    newer.operationId = older.operationId → older.fencingToken < newer.fencingToken
  /-- At any instant at most one claim of an operation passes, up to renewal. -/
  one_passes : ∀ claim other t₀, claim.operationId = other.operationId →
    Passes D r claim t₀ → Passes D r other t₀ → SameClaim claim other
  /-- A call that presents any other claim is refused. -/
  others_refused : ∀ command claim t₀, command.presented = some (claim, t₀) →
    Unusable D events r claim t₀ → Refused D r command

/-- A sample operation, as a runtime would add it. -/
def sampleOperation : OutboxOperation where
  operationId := "op-1"
  runtimeId := "runtime"
  projectId := "project"
  taskId := "task"
  workItemId := "item"
  operationType := "CREATE_GIT_BRANCH"
  providerId := "github"
  aggregateId := "aggregate"
  aggregateVersion := 1
  idempotencyKey := "key-1"
  correlationId := none
  causationId := none
  payload := .mapping []
  payloadSchemaVersion := 1
  status := .pending
  priority := 100
  availableAt := 0
  createdAt := 0

def sampleDigests : Digests where
  hash := fun token => "sha256:" ++ token
  fingerprint := fun request => request.operationType

/-- Two claims in a row: the second after the first has expired. -/
def reclaimed : List Command :=
  [.claimNext "worker-2" "t2" 30 (timedelta 60), .claimNext "worker-1" "t1" 30 0,
    .addOperation sampleOperation]

end Outbox
end Ascos
