import Ascos.Outbox.Budget
import Ascos.Outbox.ProviderEquivalence
import Mathlib.Logic.Relation

/-!
# The lifecycle of an operation

What any sequence of calls, those of operators among them, makes of an operation on file.

Main results:

- Theorem `operation_lifecycle`: an operation stays on file with its request, its status
  only takes the ways of `OutboxStatus.followers`, and it has a claim only in two of them.
-/

namespace Ascos
namespace Outbox

variable {D : Digests} {r : Repository} {command : Command} {response : Response} {id : String}
  {before after : OutboxOperation}

/-- Where one call may take the status of an operation. -/
def OutboxStatus.followers : OutboxStatus → List OutboxStatus
  | .pending | .retryWait => [.claimed, .cancelled, .deadLetter]
  | .claimed =>
      [.pending, .dispatching, .succeeded, .retryWait, .reconciliationRequired, .deadLetter]
  | .dispatching => [.succeeded, .retryWait, .reconciliationRequired, .deadLetter]
  | .reconciliationRequired => [.claimed, .deadLetter]
  | .deadLetter => [.pending]
  | .cancelled => [.deadLetter]
  | .succeeded => []

/-- The statuses that calls lead to one after the other. -/
abbrev OutboxStatus.Leads : OutboxStatus → OutboxStatus → Prop :=
  Relation.ReflTransGen fun status next => next ∈ status.followers

theorem leads_recoverOne (now : Timestamp) (operation : OutboxOperation) :
    operation.status.Leads (recoverOne now operation).status := by
  rcases recoverOne_cases now operation with
    hsame | ⟨-, -, ⟨hstatus, hnext, -⟩ | ⟨hstatus, hnext, -⟩⟩
  · rw [hsame]
  · rw [hstatus, hnext]
    exact .single (by decide)
  · rw [hstatus, hnext]
    exact .single (by decide)

theorem RecordStep.leads (hstep : RecordStep D r command response before after)
    (hunclaimed : before.Unclaimed) : before.status.Leads after.status := by
  have hheld {claim : OutboxClaim} {t₀ : Timestamp}
      (hverdict : claimVerdict D r claim t₀ = .ok before) (status : OutboxStatus)
      (hnext : status ∈ OutboxStatus.followers .claimed ∧
        status ∈ OutboxStatus.followers .dispatching) : before.status.Leads status := by
    rcases hunclaimed (isSome_of_claimVerdict hverdict) with h | h
    · rw [h]
      exact .single hnext.1
    · rw [h]
      exact .single hnext.2
  cases hstep with
  | untouched => exact .refl
  | recovered now => exact leads_recoverOne now before
  | recoveredFirst ownerId token ttlSeconds now => exact leads_recoverOne now before
  | claimed ownerId token ttlSeconds now _ hstatus =>
    refine (leads_recoverOne now before).tail ?_
    rcases hstatus with h | h
    · rw [h]
      exact List.mem_cons_self
    · rw [h]
      exact List.mem_cons_self
  | claimedReconciliation _ _ _ _ _ hstatus =>
    rw [hstatus]
    exact .single List.mem_cons_self
  | renewed => exact .refl
  | released _ _ _ _ _ hstatus =>
    rw [hstatus]
    exact .single List.mem_cons_self
  | dispatched _ _ _ _ _ _ hstatus =>
    rw [hstatus]
    exact .single (List.mem_cons_of_mem _ List.mem_cons_self)
  | succeeded _ _ _ _ _ _ hverdict => exact hheld hverdict .succeeded (by decide)
  | exhausted _ _ _ _ _ _ _ _ hverdict => exact hheld hverdict .deadLetter (by decide)
  | waiting _ _ _ _ _ _ _ _ hverdict => exact hheld hverdict .retryWait (by decide)
  | uncertain _ _ _ _ _ _ hverdict => exact hheld hverdict .reconciliationRequired (by decide)
  | deadLettered _ _ _ _ _ _ hverdict => exact hheld hverdict .deadLetter (by decide)
  | cancelled _ _ _ _ hstatus =>
    change before.status.Leads .cancelled
    rcases hstatus with h | h
    · rw [h]
      exact .single (by decide)
    · rw [h]
      exact .single (by decide)
  | abandoned _ _ _ _ _ hstatus =>
    change before.status.Leads .deadLetter
    cases h : before.status with
    | claimed => exact absurd h hstatus.1
    | dispatching => exact absurd h hstatus.2.1
    | succeeded => exact absurd h hstatus.2.2
    | deadLetter => exact .refl
    | _ => exact .single (by decide)
  | retried _ _ _ _ hstatus =>
    rw [hstatus]
    exact .single List.mem_cons_self

/-- The calls add operations without a claim. -/
def AddsUnclaimed (commands : List Command) : Prop :=
  ∀ operation, Command.addOperation operation ∈ commands → operation.claimExpiresAt = none

theorem unclaimed_play {commands : List Command} (hadded : AddsUnclaimed commands)
    (hfiled : (play D commands).2.operations.get? id = some after) : after.Unclaimed := by
  induction commands generalizing after with
  | nil =>
    rw [play, Repository.init, OperationTable.get?_empty] at hfiled
    cases hfiled
  | cons command earlier ih =>
    have hadded' : AddsUnclaimed earlier :=
      fun operation hmem => hadded operation (List.mem_cons_of_mem _ hmem)
    rcases record_inv D _ command hfiled with
      ⟨-, -, hsame⟩ | ⟨_, -, ⟨before, hbefore, hstep⟩ | ⟨-, rfl⟩⟩
    · exact ih hadded' hsame
    · exact hstep.unclaimed (ih hadded' hbefore)
    · intro hsome
      rw [hadded after List.mem_cons_self] at hsome
      cases hsome

/-- An operation on file stays there with its request, its status only takes the ways that calls
can lead it, and it has a claim only while it is claimed or dispatched. -/
theorem operation_lifecycle (D : Digests) (later earlier : List Command)
    (hadded : AddsUnclaimed (later ++ earlier))
    (hfiled : (play D earlier).2.operations.get? id = some before) :
    ∃ after, (play D (later ++ earlier)).2.operations.get? id = some after ∧
      after.request = before.request ∧ before.status.Leads after.status ∧ after.Unclaimed := by
  induction later with
  | nil => exact ⟨before, hfiled, rfl, .refl, unclaimed_play hadded hfiled⟩
  | cons command later ih =>
    have hadded' : AddsUnclaimed (later ++ earlier) :=
      fun operation hmem => hadded operation (List.mem_cons_of_mem _ hmem)
    obtain ⟨middle, hmiddle, hrequest, hleads, hunclaimed⟩ := ih hadded'
    obtain ⟨after, hafter⟩ := record_stays_filed D _ command hmiddle
    refine ⟨after, hafter, and_assoc.mp ⟨?_, unclaimed_play hadded hafter⟩⟩
    rcases record_inv D _ command hafter with
      ⟨-, -, hsame⟩ | ⟨_, -, ⟨found, hfound, hstep⟩ | ⟨hnew, -⟩⟩
    · cases hmiddle.symm.trans hsame
      exact ⟨hrequest, hleads⟩
    · cases hmiddle.symm.trans hfound
      exact ⟨hstep.request_eq.trans hrequest,
        hleads.trans (hstep.leads hunclaimed)⟩
    · cases hmiddle.symm.trans hnew

/-- An operation that is added and claimed twice. -/
theorem operation_lifecycle_reclaimed :
    ∃ before after, (play sampleDigests [.addOperation sampleOperation]).2.operations.get? "op-1" =
        some before ∧
      (play sampleDigests reclaimed).2.operations.get? "op-1" = some after ∧
        after.request = before.request ∧ before.status.Leads after.status ∧
          after.Unclaimed := by
  have hsome : ((play sampleDigests [.addOperation sampleOperation]).2.operations.get?
      "op-1").isSome = true := by decide +kernel
  obtain ⟨before, hbefore⟩ := Option.isSome_iff_exists.mp hsome
  obtain ⟨after, hafter⟩ := operation_lifecycle sampleDigests
    [.claimNext "worker-2" "t2" 30 (timedelta 60), .claimNext "worker-1" "t1" 30 0]
    [.addOperation sampleOperation] (by simp [AddsUnclaimed, sampleOperation]) hbefore
  exact ⟨before, after, hbefore, hafter⟩

end Outbox
end Ascos
