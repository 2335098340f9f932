import Ascos.Persistence.History

/-!
# Lease fencing of durable commits

A commit under a lease is fenced by the token that the lease was handed out with.  The
module says what a fenced database owes to its callers in terms of what the calls
returned, `LeaseDiscipline`, and proves it of every run in which the second statement
of `renew_lease` finds the row that its first statement read, or no row.  That statement
names the runtime only: when another owner acquires a lease in between, it moves the expiry
of the other owner's row.

Main results:

- Theorem `leaseEffect_record`: what one step does to the leases.
- Theorem `lease_fencing`: the discipline holds of every run whose renewals are
  undisturbed.
- Theorem `renewal_moves_foreign_expiry`: without that condition it does not hold.
-/

namespace Ascos
namespace Persistence

open Library
open Outbox (Timestamp timedelta)

/-! ## What the calls returned -/

/-- One lease, whatever its expiry. -/
def RuntimeLease.Same (P : Platform) (lease other : RuntimeLease) : Prop :=
  lease.runtimeId = other.runtimeId ∧ lease.ownerId = other.ownerId ∧
    P.sha256 lease.leaseToken = P.sha256 other.leaseToken ∧
      lease.fencingToken = other.fencingToken

instance (P : Platform) (lease other : RuntimeLease) : Decidable (lease.Same P other) :=
  inferInstanceAs (Decidable (_ ∧ _ ∧ _ ∧ _))

variable {P : Platform}

/-- The lease that a step handed out to a new owner. -/
def Event.acquired (event : Event P) : Option RuntimeLease :=
  match event.call, event.outcome with
  | .acquire _ _ _ _ _, .ok (.lease lease) => some lease
  | _, _ => none

/-- The lease that a step committed under, with its reading of the clock. -/
def Event.committedUnder (event : Event P) : Option (RuntimeLease × Timestamp) :=
  match event.call, event.outcome with
  | .commit _ _ (some lease) _ env, .ok _ => some (lease, env.now)
  | _, _ => none

/-- The lease that stands for a runtime by what the calls returned: the last one acquired,
as it was last renewed, unless it was released or broken. -/
def granted (P : Platform) (runtimeId : String) : List (Event P) → Option RuntimeLease
  | [] => none
  | event :: older =>
    match event.call, event.outcome with
    | .acquire id _ _ _ _, .ok (.lease lease) =>
        if id = runtimeId then some lease else granted P runtimeId older
    | .update _, .ok (.lease renewed) =>
        (granted P runtimeId older).map fun held =>
          if renewed.Same P held then renewed else held
    | .release lease, .ok _ =>
        if lease.runtimeId = runtimeId then none else granted P runtimeId older
    | .breakExpired id _, .ok (.broken true) =>
        if id = runtimeId then none else granted P runtimeId older
    | _, _ => granted P runtimeId older

/-- What a fenced database owes to its callers. -/
structure LeaseDiscipline (P : Platform) (history : List (Event P)) : Prop where
  acquired : history.Pairwise fun later earlier =>
    ∀ lease ∈ later.acquired, ∀ other ∈ earlier.acquired,
      lease.runtimeId = other.runtimeId → other.fencingToken < lease.fencingToken
  committed : history.Pairwise fun later earlier =>
    ∀ lease ∈ later.committedUnder, ∀ other ∈ earlier.committedUnder,
      lease.1.runtimeId = other.1.runtimeId → other.1.fencingToken ≤ lease.1.fencingToken
  standing : ∀ newer event older, history = newer ++ event :: older →
    ∀ lease ∈ event.committedUnder, ∃ held ∈ granted P lease.1.runtimeId older,
      lease.1.Same P held ∧ lease.2 < held.expiresAt
  extended : ∀ event ∈ history, ∀ runtimeId before after,
    event.before.db.leases[runtimeId]? = some before →
      event.after.db.leases[runtimeId]? = some after → before.expiresAt ≠ after.expiresAt →
        (∃ lease ∈ event.acquired, lease.runtimeId = runtimeId) ∨
          ∃ renewal, event.call = .update renewal ∧ renewal.lease.runtimeId = runtimeId ∧
            before.Stores P renewal.lease

/-- The second statement of a renewal finds the row that the first one read, or none. -/
def Event.Undisturbed (event : Event P) : Prop :=
  ∀ renewal, event.call = .update renewal → ∀ row,
    event.before.db.leases[renewal.lease.runtimeId]? = some row →
      row.fencingToken = renewal.lease.fencingToken

/-! ## What one step does -/

/-- The fencing token that a runtime handed out last. -/
def Database.fencing (db : Database) (runtimeId : String) : Nat :=
  db.counter InstanceRow.latestFencingToken runtimeId

inductive LeaseEffect (event : Event P) : Prop
  | kept
      (hfencing : ∀ runtimeId, event.after.db.fencing runtimeId =
        event.before.db.fencing runtimeId)
      (hleases : event.after.db.leases = event.before.db.leases)
      (hrenewals : ∀ renewal ∈ event.after.renewals, renewal ∈ event.before.renewals ∨
        ∃ row, event.before.db.leases[renewal.lease.runtimeId]? = some row ∧
          row.Stores P renewal.lease)
      (hacquired : event.acquired = none)
      (hcommitted : ∀ lease ∈ event.committedUnder,
        LeaseValid P event.before.db lease.1 lease.2
          (event.before.db.fencing lease.1.runtimeId))
      (hgranted : ∀ runtimeId older,
        granted P runtimeId (event :: older) = granted P runtimeId older)
  | issued (lease : RuntimeLease)
      (hfencing : ∀ runtimeId, event.after.db.fencing runtimeId =
        if runtimeId = lease.runtimeId then event.before.db.fencing runtimeId + 1
        else event.before.db.fencing runtimeId)
      (htoken : lease.fencingToken = event.before.db.fencing lease.runtimeId + 1)
      (hleases : event.after.db.leases =
        event.before.db.leases.insert lease.runtimeId (leaseRow P lease))
      (hrenewals : event.after.renewals = event.before.renewals)
      (hacquired : event.acquired = some lease)
      (hcommitted : event.committedUnder = none)
      (hgranted : ∀ runtimeId older, granted P runtimeId (event :: older) =
        if lease.runtimeId = runtimeId then some lease else granted P runtimeId older)
  | renewed (renewal : Renewal)
      (hcall : event.call = .update renewal)
      (hfencing : ∀ runtimeId, event.after.db.fencing runtimeId =
        event.before.db.fencing runtimeId)
      (hleases : event.after.db.leases =
        event.before.db.leases.modify renewal.lease.runtimeId fun row =>
          { row with renewedAt := renewal.now, expiresAt := renewal.expires })
      (hrenewals : event.after.renewals = event.before.renewals.erase renewal)
      (hacquired : event.acquired = none)
      (hcommitted : event.committedUnder = none)
      (hgranted : ∀ runtimeId older, granted P runtimeId (event :: older) =
        (granted P runtimeId older).map fun held =>
          if (renewedLease renewal.lease renewal.now renewal.ttlSeconds).Same P held then
            renewedLease renewal.lease renewal.now renewal.ttlSeconds
          else held)
  | dropped (id : String)
      (hfencing : ∀ runtimeId, event.after.db.fencing runtimeId =
        event.before.db.fencing runtimeId)
      (hleases : event.after.db.leases = event.before.db.leases.erase id)
      (hrenewals : event.after.renewals = event.before.renewals)
      (hacquired : event.acquired = none)
      (hcommitted : event.committedUnder = none)
      (hgranted : ∀ runtimeId older, granted P runtimeId (event :: older) =
        if id = runtimeId then none else granted P runtimeId older)

theorem leaseEffect_raised {world : World} {call : Call P} {failure : Failure}
    (h : (call.exec world).1 = .error failure) : LeaseEffect (record world call) := by
  have hafter : (record world call).after = world := Call.exec_unchanged h
  have houtcome : (record world call).outcome = .error failure := h
  refine .kept ?_ ?_ ?_ ?_ ?_ ?_
  · intro runtimeId
    rw [hafter]
    rfl
  · rw [hafter]
    rfl
  · intro renewal hrenewal
    rw [hafter] at hrenewal
    exact .inl hrenewal
  · unfold Event.acquired
    rw [houtcome]
    cases call <;> rfl
  · unfold Event.committedUnder
    rw [houtcome]
    intro lease hlease
    split at hlease
    · rename_i hok
      cases hok
    · cases hlease
  · intro runtimeId older
    rw [granted, houtcome]
    cases call <;> rfl

theorem latestFencingToken_instanceOr (db : Database) (now : Timestamp) (runtimeId : String) :
    (db.instanceOr now runtimeId).latestFencingToken = db.fencing runtimeId :=
  counter_instanceOr (fun _ => rfl) db now runtimeId

theorem leaseEffect_returned {world : World} {call : Call P} {reply : Reply}
    (h : (call.exec world).1 = .ok reply) : LeaseEffect (record world call) := by
  obtain ⟨db, hprogram, hrecord⟩ := Call.exec_ok h
  rw [hrecord]
  cases call with
  | commit checkpoint expectedStateVersion lease operationId env =>
    obtain ⟨result, hexec, rfl⟩ := Program.exec_map_ok hprogram
    obtain ⟨events, documents, rows, hcommitted, -, rfl⟩ := commitCheckpoint_returned hexec
    refine .kept (counter_of_insert_kept (fun _ => rfl) rfl rfl) rfl
      (fun renewal hrenewal => .inl hrenewal) rfl ?_ fun _ _ => rfl
    · intro held hheld
      cases lease with
      | none => cases hheld
      | some lease =>
          cases hheld
          obtain ⟨hruntime, hvalid⟩ := hcommitted.leased lease rfl
          rw [latestFencingToken_instanceOr, ← hruntime] at hvalid
          exact hvalid
  | append runtimeId events env =>
    obtain ⟨positions, hexec, rfl⟩ := Program.exec_map_ok hprogram
    obtain ⟨rows, happends, hpositions, rfl⟩ := appendEventBatch_returned hexec
    refine .kept (counter_of_insert_kept (fun _ => rfl) rfl rfl) rfl
      (fun renewal hrenewal => .inl hrenewal) rfl ?_ fun _ _ => rfl
    · intro held hheld
      cases hheld
  | acquire runtimeId ownerId token ttlSeconds env =>
    obtain ⟨lease, hexec, rfl⟩ := Program.exec_map_ok hprogram
    obtain ⟨hfree, rfl, rfl⟩ := acquireLease_returned hexec
    refine .issued _ ?_ ?_ rfl rfl rfl rfl fun _ _ => rfl
    · intro other
      rw [Database.fencing, counter_of_insert rfl]
      simp only [issuedLease, latestFencingToken_instanceOr]
      split
      · rename_i hsame
        rw [hsame]
      · rfl
    · exact congrArg (· + 1) (latestFencingToken_instanceOr _ _ _)
  | check renewal =>
    obtain ⟨_, hexec, rfl⟩ := Program.exec_map_ok hprogram
    obtain ⟨⟨row, hrow, hstores, hexpiry⟩, rfl⟩ := exec_checkRenewal_ok hexec
    refine .kept (fun _ => rfl) rfl ?_ rfl ?_ fun _ _ => rfl
    · intro other hother
      rcases List.mem_cons.mp hother with rfl | hother
      · exact .inr ⟨row, hrow, hstores⟩
      · exact .inl hother
    · intro held hheld
      cases hheld
  | update renewal =>
    cases hprogram
    exact .renewed renewal rfl (fun _ => rfl) rfl rfl rfl rfl fun _ _ => rfl
  | release lease =>
    obtain ⟨_, hexec, rfl⟩ := Program.exec_map_ok hprogram
    obtain ⟨hstored, rfl⟩ := exec_releaseLease_ok hexec
    exact .dropped lease.runtimeId (fun _ => rfl) rfl rfl rfl rfl fun _ _ => rfl
  | breakExpired runtimeId now =>
    obtain ⟨broken, hexec, rfl⟩ := Program.exec_map_ok hprogram
    rcases exec_breakExpiredLease_ok hexec with ⟨rfl, hexpired, rfl⟩ | ⟨rfl, rfl⟩
    · exact .dropped runtimeId (fun _ => rfl) rfl rfl rfl rfl fun _ _ => rfl
    · refine .kept (fun _ => rfl) rfl (fun renewal hrenewal => .inl hrenewal) rfl ?_
        fun _ _ => rfl
      intro held hheld
      cases hheld
  | stateVersion runtimeId now =>
    obtain ⟨version, hexec, rfl⟩ := Program.exec_map_ok hprogram
    rw [exec_getStateVersion] at hexec
    cases hexec
    refine .kept (counter_ensured (fun _ => rfl) _ _ _) ?_ (fun renewal hrenewal => .inl hrenewal) rfl ?_
        fun _ _ => rfl
    · exact Database.leases_ensured _ _ _
    · intro held hheld
      cases hheld

theorem leaseEffect_record (world : World) (call : Call P) :
    LeaseEffect (record world call) := by
  cases h : (call.exec world).1 with
  | error failure => exact leaseEffect_raised h
  | ok reply => exact leaseEffect_returned h

/-! ## What a run keeps -/

/-- The lease rows are the granted leases, tokens never pass the latest one, and a renewal
between its statements is about the row with its token or about an older one. -/
structure Fenced (history : List (Event P)) (world : World) : Prop where
  stored : ∀ runtimeId row, world.db.leases[runtimeId]? = some row →
    ∃ held, granted P runtimeId history = some held ∧ held.runtimeId = runtimeId ∧
      row.Stores P held ∧ row.expiresAt = held.expiresAt ∧
        row.fencingToken = world.db.fencing runtimeId
  pending : ∀ renewal ∈ world.renewals,
    renewal.lease.fencingToken ≤ world.db.fencing renewal.lease.runtimeId ∧
      ∀ row, world.db.leases[renewal.lease.runtimeId]? = some row →
        row.fencingToken = renewal.lease.fencingToken → row.Stores P renewal.lease
  acquired : ∀ event ∈ history, ∀ lease ∈ event.acquired,
    lease.fencingToken ≤ world.db.fencing lease.runtimeId
  committed : ∀ event ∈ history, ∀ lease ∈ event.committedUnder,
    lease.1.fencingToken ≤ world.db.fencing lease.1.runtimeId

theorem LeaseEffect.fencing_le {event : Event P} (heffect : LeaseEffect event)
    (runtimeId : String) :
    event.before.db.fencing runtimeId ≤ event.after.db.fencing runtimeId := by
  cases heffect with
  | kept hfencing => rw [hfencing]
  | issued lease hfencing =>
    rw [hfencing]
    split <;> omega
  | renewed renewal hcall hfencing => rw [hfencing]
  | dropped id hfencing => rw [hfencing]

theorem LeaseRow.Stores.same {row : LeaseRow} {lease other : RuntimeLease}
    (h : row.Stores P lease) (hother : row.Stores P other)
    (hruntime : lease.runtimeId = other.runtimeId) : lease.Same P other :=
  ⟨hruntime, h.1.symm.trans hother.1, h.2.1.symm.trans hother.2.1, h.2.2.symm.trans hother.2.2⟩

theorem leaseRow_stores (lease : RuntimeLease) : (leaseRow P lease).Stores P lease :=
  ⟨rfl, rfl, rfl⟩

section Step

variable {history : List (Event P)} {event : Event P}

theorem Fenced.stores_renewal (hfenced : Fenced history event.before)
    {renewal : Renewal} (hpending : renewal ∈ event.before.renewals)
    (hcall : event.call = .update renewal) (hundisturbed : event.Undisturbed) {row : LeaseRow}
    (hrow : event.before.db.leases[renewal.lease.runtimeId]? = some row) :
    row.Stores P renewal.lease :=
  (hfenced.pending renewal hpending).2 row hrow (hundisturbed renewal hcall row hrow)

/-- The rows stay the granted leases. -/
theorem Fenced.stored_step (hfenced : Fenced history event.before)
    (heffect : LeaseEffect event)
    (henabled : ∀ renewal, event.call = .update renewal → renewal ∈ event.before.renewals)
    (hundisturbed : event.Undisturbed) (runtimeId : String) (row : LeaseRow)
    (hrow : event.after.db.leases[runtimeId]? = some row) :
    ∃ held, granted P runtimeId (event :: history) = some held ∧ held.runtimeId = runtimeId ∧
      row.Stores P held ∧ row.expiresAt = held.expiresAt ∧
        row.fencingToken = event.after.db.fencing runtimeId := by
  cases heffect with
  | kept hfencing hleases hrenewals hacquired hcommitted hgranted =>
    rw [hleases] at hrow
    rw [hfencing, hgranted]
    exact hfenced.stored runtimeId row hrow
  | issued lease hfencing htoken hleases hrenewals hacquired hcommitted hgranted =>
    rw [hleases, Std.ExtTreeMap.getElem?_insert] at hrow
    rw [hgranted, hfencing]
    by_cases hruntime : lease.runtimeId = runtimeId
    · subst hruntime
      simp only [Std.compare_eq_iff_eq, if_true, Option.some.injEq] at hrow
      subst hrow
      exact ⟨lease, if_pos rfl, rfl, leaseRow_stores lease, rfl, by simp [leaseRow, htoken]⟩
    · rw [if_neg (by simpa using hruntime)] at hrow
      rw [if_neg hruntime, if_neg (Ne.symm hruntime)]
      exact hfenced.stored runtimeId row hrow
  | renewed renewal hcall hfencing hleases hrenewals hacquired hcommitted hgranted =>
    rw [hleases, Std.ExtTreeMap.getElem?_modify] at hrow
    rw [hgranted, hfencing]
    by_cases hruntime : renewal.lease.runtimeId = runtimeId
    · subst hruntime
      simp only [Std.compare_eq_iff_eq, if_true, Option.map_eq_some_iff] at hrow
      obtain ⟨found, hfound, rfl⟩ := hrow
      have hstores := hfenced.stores_renewal (henabled renewal hcall) hcall hundisturbed hfound
      obtain ⟨held, hheld, hid, hsame, hexpires, htoken⟩ := hfenced.stored _ found hfound
      -- the granted lease is the renewed one, so it takes the new expiry
      have hrenewed : (renewedLease renewal.lease renewal.now renewal.ttlSeconds).Same P held :=
        hstores.same hsame hid.symm
      refine ⟨renewedLease renewal.lease renewal.now renewal.ttlSeconds, ?_, rfl, hstores,
        rfl, htoken⟩
      rw [hheld, Option.map_some, if_pos hrenewed]
    · rw [if_neg (by simpa using hruntime)] at hrow
      obtain ⟨held, hheld, hid, hstored⟩ := hfenced.stored runtimeId row hrow
      have hother : ¬(renewedLease renewal.lease renewal.now renewal.ttlSeconds).Same P held :=
        fun hsame => hruntime (hsame.1.trans hid)
      exact ⟨held, by rw [hheld, Option.map_some, if_neg hother], hid, hstored⟩
  | dropped id hfencing hleases hrenewals hacquired hcommitted hgranted =>
    rw [hleases, Std.ExtTreeMap.getElem?_erase] at hrow
    split at hrow
    · cases hrow
    · rename_i hother
      rw [hgranted, hfencing, if_neg (by simpa using hother)]
      exact hfenced.stored runtimeId row hrow

/-- A renewal between its statements stays behind every row that replaces its own. -/
theorem Fenced.pending_step (hfenced : Fenced history event.before)
    (heffect : LeaseEffect event) (renewal : Renewal)
    (hrenewal : renewal ∈ event.after.renewals) :
    renewal.lease.fencingToken ≤ event.after.db.fencing renewal.lease.runtimeId ∧
      ∀ row, event.after.db.leases[renewal.lease.runtimeId]? = some row →
        row.fencingToken = renewal.lease.fencingToken → row.Stores P renewal.lease := by
  cases heffect with
  | kept hfencing hleases hrenewals hacquired hcommitted hgranted =>
    rw [hfencing, hleases]
    rcases hrenewals renewal hrenewal with hrenewal | ⟨row, hrow, hstores⟩
    · exact hfenced.pending renewal hrenewal
    · obtain ⟨held, hheld, hid, hsame, hexpires, htoken⟩ := hfenced.stored _ row hrow
      refine ⟨le_of_eq (hstores.2.2.symm.trans htoken), ?_⟩
      intro found hfound _
      rw [hrow, Option.some.injEq] at hfound
      rwa [← hfound]
  | issued lease hfencing htoken hleases hrenewals hacquired hcommitted hgranted =>
    rw [hrenewals] at hrenewal
    obtain ⟨hle, hstores⟩ := hfenced.pending renewal hrenewal
    rw [hfencing, hleases, Std.ExtTreeMap.getElem?_insert]
    by_cases hruntime : lease.runtimeId = renewal.lease.runtimeId
    · rw [if_pos hruntime.symm, if_pos (by simpa using hruntime)]
      refine ⟨by omega, ?_⟩
      rintro row hrow hold
      -- the new row has a token that no renewal can have seen
      cases hrow
      rw [← hruntime] at hle
      simp only [leaseRow, htoken] at hold
      omega
    · rw [if_neg (Ne.symm hruntime), if_neg (by simpa using hruntime)]
      exact ⟨hle, hstores⟩
  | renewed other hcall hfencing hleases hrenewals hacquired hcommitted hgranted =>
    rw [hrenewals] at hrenewal
    obtain ⟨hle, hstores⟩ := hfenced.pending renewal (List.mem_of_mem_erase hrenewal)
    rw [hfencing, hleases, Std.ExtTreeMap.getElem?_modify]
    refine ⟨hle, ?_⟩
    intro row hrow htoken
    split at hrow
    · rename_i hruntime
      obtain ⟨found, hfound, rfl⟩ := Option.map_eq_some_iff.mp hrow
      rw [show other.lease.runtimeId = renewal.lease.runtimeId by simpa using hruntime]
        at hfound
      exact hstores found hfound htoken
    · exact hstores row hrow htoken
  | dropped id hfencing hleases hrenewals hacquired hcommitted hgranted =>
    rw [hrenewals] at hrenewal
    obtain ⟨hle, hstores⟩ := hfenced.pending renewal hrenewal
    rw [hfencing, hleases, Std.ExtTreeMap.getElem?_erase]
    refine ⟨hle, ?_⟩
    intro row hrow htoken
    split at hrow
    · cases hrow
    · exact hstores row hrow htoken

theorem LeaseEffect.acquired_fencing (heffect : LeaseEffect event) {lease : RuntimeLease}
    (h : lease ∈ event.acquired) :
    lease.fencingToken = event.before.db.fencing lease.runtimeId + 1 ∧
      lease.fencingToken = event.after.db.fencing lease.runtimeId := by
  cases heffect with
  | kept hfencing hleases hrenewals hacquired => rw [hacquired] at h; cases h
  | issued issued hfencing htoken hleases hrenewals hacquired =>
    rw [hacquired] at h
    cases h
    exact ⟨htoken, by rw [hfencing, if_pos rfl, htoken]⟩
  | renewed renewal hcall hfencing hleases hrenewals hacquired => rw [hacquired] at h; cases h
  | dropped id hfencing hleases hrenewals hacquired => rw [hacquired] at h; cases h

theorem LeaseEffect.committed_valid (heffect : LeaseEffect event)
    {lease : RuntimeLease × Timestamp} (h : lease ∈ event.committedUnder) :
    LeaseValid P event.before.db lease.1 lease.2
      (event.before.db.fencing lease.1.runtimeId) := by
  cases heffect with
  | kept hfencing hleases hrenewals hacquired hcommitted => exact hcommitted lease h
  | issued issued hfencing htoken hleases hrenewals hacquired hcommitted =>
    rw [hcommitted] at h
    cases h
  | renewed renewal hcall hfencing hleases hrenewals hacquired hcommitted =>
    rw [hcommitted] at h
    cases h
  | dropped id hfencing hleases hrenewals hacquired hcommitted => rw [hcommitted] at h; cases h

theorem Fenced.step (hfenced : Fenced history event.before) (heffect : LeaseEffect event)
    (henabled : ∀ renewal, event.call = .update renewal → renewal ∈ event.before.renewals)
    (hundisturbed : event.Undisturbed) : Fenced (event :: history) event.after where
  stored := hfenced.stored_step heffect henabled hundisturbed
  pending := hfenced.pending_step heffect
  acquired := by
    intro other hother lease hlease
    rcases List.mem_cons.mp hother with rfl | hother
    · exact le_of_eq (heffect.acquired_fencing hlease).2
    · exact (hfenced.acquired other hother lease hlease).trans (heffect.fencing_le _)
  committed := by
    intro other hother lease hlease
    rcases List.mem_cons.mp hother with rfl | hother
    · exact (le_of_eq (heffect.committed_valid hlease).latest).trans (heffect.fencing_le _)
    · exact (hfenced.committed other hother lease hlease).trans (heffect.fencing_le _)

/-- A commit under a lease finds the lease granted and not expired. -/
theorem Fenced.standing (hfenced : Fenced history event.before) (heffect : LeaseEffect event)
    {lease : RuntimeLease × Timestamp} (h : lease ∈ event.committedUnder) :
    ∃ held ∈ granted P lease.1.runtimeId history,
      lease.1.Same P held ∧ lease.2 < held.expiresAt := by
  obtain ⟨row, hrow, howner, hhash, htoken, hexpiry⟩ := (heffect.committed_valid h).stored
  obtain ⟨held, hheld, hid, hstores, hexpires, hlatest⟩ := hfenced.stored _ row hrow
  refine ⟨held, hheld, ?_, hexpires ▸ hexpiry⟩
  exact LeaseRow.Stores.same ⟨howner, hhash, htoken⟩ hstores hid.symm

/-- The expiry of a row changes by a renewal of its own lease. -/
theorem Fenced.extended (hfenced : Fenced history event.before) (heffect : LeaseEffect event)
    (henabled : ∀ renewal, event.call = .update renewal → renewal ∈ event.before.renewals)
    (hundisturbed : event.Undisturbed) {runtimeId : String} {before after : LeaseRow}
    (hbefore : event.before.db.leases[runtimeId]? = some before)
    (hafter : event.after.db.leases[runtimeId]? = some after)
    (hmoved : before.expiresAt ≠ after.expiresAt) :
    (∃ lease ∈ event.acquired, lease.runtimeId = runtimeId) ∨
      ∃ renewal, event.call = .update renewal ∧ renewal.lease.runtimeId = runtimeId ∧
        before.Stores P renewal.lease := by
  -- a row that the step left alone has not moved
  have hsame : event.before.db.leases[runtimeId]? = some after → False := by
    intro hsame
    rw [hbefore, Option.some.injEq] at hsame
    exact hmoved (by rw [hsame])
  cases heffect with
  | kept hfencing hleases =>
    rw [hleases] at hafter
    exact (hsame hafter).elim
  | issued lease hfencing htoken hleases hrenewals hacquired =>
    rw [hleases, Std.ExtTreeMap.getElem?_insert] at hafter
    split at hafter
    · rename_i hruntime
      exact .inl ⟨lease, hacquired, by simpa using hruntime⟩
    · exact (hsame hafter).elim
  | renewed renewal hcall hfencing hleases =>
    rw [hleases, Std.ExtTreeMap.getElem?_modify] at hafter
    split at hafter
    · rename_i hruntime
      obtain rfl : renewal.lease.runtimeId = runtimeId := by simpa using hruntime
      exact .inr ⟨renewal, hcall, rfl,
        hfenced.stores_renewal (henabled renewal hcall) hcall hundisturbed hbefore⟩
    · exact (hsame hafter).elim
  | dropped id hfencing hleases =>
    rw [hleases, Std.ExtTreeMap.getElem?_erase] at hafter
    split at hafter
    · cases hafter
    · exact (hsame hafter).elim

end Step

theorem Fenced.init : Fenced ([] : List (Event P)) .init where
  stored := by
    intro runtimeId row hrow
    simp [World.init, Database.init] at hrow
  pending := by
    intro renewal hrenewal
    cases hrenewal
  acquired := by
    intro event hevent
    cases hevent
  committed := by
    intro event hevent
    cases hevent

theorem LeaseDiscipline.nil : LeaseDiscipline P [] where
  acquired := .nil
  committed := .nil
  standing := by
    intro newer event older hhistory
    cases newer <;> cases hhistory
  extended := by
    intro event hevent
    cases hevent

theorem LeaseDiscipline.cons {history : List (Event P)} {event : Event P}
    (hdiscipline : LeaseDiscipline P history) (hfenced : Fenced history event.before)
    (heffect : LeaseEffect event)
    (henabled : ∀ renewal, event.call = .update renewal → renewal ∈ event.before.renewals)
    (hundisturbed : event.Undisturbed) : LeaseDiscipline P (event :: history) where
  acquired := by
    refine .cons ?_ hdiscipline.acquired
    intro earlier hearlier lease hlease other hother hruntime
    have hle := hfenced.acquired earlier hearlier other hother
    have htoken := (heffect.acquired_fencing hlease).1
    rw [← hruntime] at hle
    omega
  committed := by
    refine .cons ?_ hdiscipline.committed
    intro earlier hearlier lease hlease other hother hruntime
    have hle := hfenced.committed earlier hearlier other hother
    rwa [← hruntime, ← (heffect.committed_valid hlease).latest] at hle
  standing := by
    intro newer found older hhistory
    cases newer with
    | nil =>
        cases hhistory
        intro lease hlease
        exact hfenced.standing heffect hlease
    | cons newest newer =>
        rw [List.cons_append, List.cons.injEq] at hhistory
        exact hdiscipline.standing newer found older hhistory.2
  extended := by
    intro found hfound runtimeId before after hbefore hafter hmoved
    rcases List.mem_cons.mp hfound with rfl | hfound
    · exact hfenced.extended heffect henabled hundisturbed hbefore hafter hmoved
    · exact hdiscipline.extended found hfound runtimeId before after hbefore hafter hmoved

theorem Fenced.of_run {history : List (Event P)} {world : World} (hrun : Run P history world)
    (hundisturbed : ∀ event ∈ history, event.Undisturbed) : Fenced history world := by
  induction hrun with
  | init => exact .init
  | @step history world call hrun henabled ih =>
    have hfenced : Fenced history (record world call).before :=
      ih fun event hevent => hundisturbed event (List.mem_cons_of_mem _ hevent)
    refine hfenced.step (leaseEffect_record world call) ?_
      (hundisturbed _ List.mem_cons_self)
    rintro renewal hcall
    cases (hcall : call = .update renewal)
    exact henabled

/-- Durable commits are fenced in every run whose renewals are undisturbed. -/
theorem lease_fencing {history : List (Event P)} {world : World} (hrun : Run P history world)
    (hundisturbed : ∀ event ∈ history, event.Undisturbed) : LeaseDiscipline P history := by
  induction hrun with
  | init => exact .nil
  | @step history world call hrun henabled ih =>
    have holder : ∀ event ∈ history, event.Undisturbed :=
      fun event hevent => hundisturbed event (List.mem_cons_of_mem _ hevent)
    refine (ih holder).cons (Fenced.of_run hrun holder) (leaseEffect_record world call) ?_
      (hundisturbed _ List.mem_cons_self)
    rintro renewal hcall
    cases (hcall : call = .update renewal)
    exact henabled

/-! ## A renewal that is overtaken -/

/-- `owner-a` renews its lease of 30 seconds after 10 seconds. -/
def renewalOfA : Renewal where
  lease := issuedLease "runtime-1" "owner-a" "token-a" 30 0 0
  ttlSeconds := 30
  now := timedelta 10

/-- The lease is acquired and renewed without interruption. -/
def calmCalls : List (Call Platform.literal) :=
  [.acquire "runtime-1" "owner-a" "token-a" 30 (.at 0), .check renewalOfA,
    .update renewalOfA]

/-- Between the two statements of the renewal the lease expires and `owner-b` acquires one
of five seconds. -/
def overtakenCalls : List (Call Platform.literal) :=
  [.acquire "runtime-1" "owner-a" "token-a" 30 (.at 0), .check renewalOfA,
    .acquire "runtime-1" "owner-b" "token-b" 5 (.at (timedelta 31)), .update renewalOfA]

/-- The hypotheses of `lease_fencing` hold of a lease that is acquired and renewed. -/
theorem lease_fencing_calm : LeaseDiscipline Platform.literal (play .init calmCalls).1 := by
  have hplayable : Playable .init calmCalls :=
    ⟨trivial, trivial, List.mem_cons_self, trivial⟩
  have hrun := Run.init.append hplayable
  rw [List.append_nil] at hrun
  refine lease_fencing hrun ?_
  intro event hevent renewal hcall row hrow
  simp only [calmCalls, play, List.nil_append, List.cons_append, List.mem_cons,
    List.not_mem_nil, or_false] at hevent
  rcases hevent with rfl | rfl | rfl
  · cases hcall
    have htoken : ((play .init (calmCalls.take 2)).2.db.leases["runtime-1"]?).map
        LeaseRow.fencingToken = some 1 := by
      decide +kernel
    exact Option.some.inj ((congrArg (Option.map LeaseRow.fencingToken) hrow).symm.trans htoken)
  · cases hcall
  · cases hcall

/-- The row of `owner-b` before the late statement of `owner-a`. -/
def rowOfB : LeaseRow where
  leaseOwnerId := "owner-b"
  leaseTokenHash := "token-b"
  acquiredAt := timedelta 31
  renewedAt := timedelta 31
  expiresAt := timedelta 36
  fencingToken := 2

/-- A renewal that is overtaken moves the expiry of another owner's row. -/
theorem renewal_moves_foreign_expiry :
    ¬∀ (P : Platform) (history : List (Event P)) (world : World),
      Run P history world → LeaseDiscipline P history := by
  intro hall
  have hplayable : Playable .init overtakenCalls :=
    ⟨trivial, trivial, trivial, List.mem_cons_self, trivial⟩
  have hrun := Run.init.append hplayable
  rw [List.append_nil] at hrun
  have hbefore : (play .init (overtakenCalls.take 3)).2.db.leases["runtime-1"]? =
      some rowOfB := by
    decide +kernel
  have hafter : (play .init overtakenCalls).2.db.leases["runtime-1"]? =
      some { rowOfB with renewedAt := timedelta 10, expiresAt := timedelta 40 } := by
    decide +kernel
  rcases (hall _ _ _ hrun).extended _ List.mem_cons_self "runtime-1" _ _ hbefore hafter
    (by decide) with ⟨lease, hlease, _⟩ | ⟨renewal, hcall, _, hstores⟩
  · cases hlease
  · cases hcall
    exact absurd hstores.1 (by decide)

end Persistence
end Ascos
