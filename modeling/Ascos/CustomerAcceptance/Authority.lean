import Ascos.CustomerAcceptance.Service
import Ascos.Library.Checks
import Ascos.Library.Lineage
import Mathlib

/-!
# The authority of an acceptance

What happens to the two stores in every run of calls, each of which may die between two writes.
The events of a run say which records were stored and which executions were started; the
invariant ties the stored records to them.

Main results:

- Theorem `acceptance_repeatable_iff`: in every run executions happen at most once and as
  approved, and records move forward; the calls to prepare are repeatable exactly when none is
  made after a plan was stored.
-/

namespace Ascos
namespace CustomerAcceptance

open Ascos.Library
open Ascos.Library.Procedure
open Ascos.Runtime (Timestamp)

/-! ## What the service promises -/

/-- How far an acceptance has come. -/
def CustomerAcceptanceStatus.rank : CustomerAcceptanceStatus → Nat
  | .awaitingApproval => 0
  | .approved => 1
  | .executionInProgress => 2
  | .evidenceReady => 3
  | .reconciliationRequired => 3

/-- A record follows another one: its approval digest is the same, and its status is further. -/
structure Later (setting : Setting) (earlier later : CustomerAcceptanceRecord) : Prop where
  approval : later.approvalDigest setting = earlier.approvalDigest setting
  forward : earlier.status.rank < later.status.rank

/-- The records that were stored for a key, the latest first. -/
def history (key : Key) (log : List Event) : List CustomerAcceptanceRecord :=
  log.filterMap fun
    | .recorded record => if record.key = key then some record else none
    | .executed _ _ _ => none

/-- The record that was stored last. -/
def latest (key : Key) (log : List Event) : Option CustomerAcceptanceRecord :=
  (history key log).head?

/-- The adapter was asked to execute a record of the key. -/
def Executed (key : Key) (log : List Event) : Prop :=
  ∃ confirmed record plan, Event.executed confirmed record plan ∈ log ∧ record.key = key

/-- What may happen after these events.  A record follows the one before it; the adapter is asked
once, for a record that has just been taken from its approval, as confirmed, into execution. -/
def Permitted (setting : Setting) (older : List Event) : Event → Prop
  | .recorded record => ∀ earlier, latest record.key older = some earlier →
      Later setting earlier record
  | .executed confirmed record _ => ¬Executed record.key older ∧
      record.status = .executionInProgress ∧ ∃ approved rest,
        history record.key older = record :: approved :: rest ∧ approved.status = .approved ∧
          approved.approvalDigest setting = confirmed

/-- All that happened was permitted. -/
def Sound (setting : Setting) : List Event → Prop
  | [] => True
  | event :: older => Permitted setting older event ∧ Sound setting older

/-- What the service has to keep in every world that a run reaches. -/
structure Authority (setting : Setting) (world : World) : Prop where
  sound : Sound setting world.log
  stored : ∀ key, world.records.load key = latest key world.log

variable (env : Environment)

/-- The configuration, the delivery and the constructors accept a request at a time. -/
def Accepted (key : Key) (created : Timestamp) : Prop :=
  ∃ configuration delivery commitSha treeSha plan record,
    requireConfiguration env = .ok configuration ∧ requireDelivery env key = .ok delivery ∧
      deliveredIdentities delivery = .ok (commitSha, treeSha) ∧
      newPlan env key configuration delivery commitSha created = .ok plan ∧
      newRecord env key configuration delivery treeSha plan = .ok record

/-- A call to prepare returns a record if its request is accepted: the stored one, if there is
one.  It does not fail because of what an earlier call has stored. -/
def Repeats (world : World) : Call × Option Nat → Prop
  | (.prepare key, none) => Accepted env key (env.clock world.ticks) →
      ∃ record after, (prepare env key).run world = (.ok record, after) ∧
        ∀ stored, world.records.load key = some stored → record = stored
  | _ => True

/-- The plan that is kept for a request. -/
def planKey (key : Key) (delivery : CustomerDeliveryReview) : Except Error PlanKey := do
  let runId ← acceptanceIdFor env key.requestId
  let planId ← browserPlanIdFor env key.requestId
  pure ⟨delivery.productId, runId, planId⟩

/-- No plan has been stored for a request that is to be prepared. -/
def Unplanned (world : World) : Call × Option Nat → Prop
  | (.prepare key, none) => Accepted env key (env.clock world.ticks) →
      ∀ delivery place, requireDelivery env key = .ok delivery →
        planKey env key delivery = .ok place → world.plans.load place = none
  | _ => True

/-! ## The events -/

variable {env} {setting : Setting} {key other : Key} {log older : List Event}
  {record earlier current : CustomerAcceptanceRecord} {plan : BrowserJourneyPlan}
  {confirmed : String} {world after : World}

@[simp]
theorem history_executed :
    history key (.executed confirmed record plan :: log) = history key log :=
  rfl

theorem history_recorded : history key (.recorded record :: log) =
    if record.key = key then record :: history key log else history key log := by
  by_cases hkey : record.key = key
  · simp [history, hkey]
  · simp [history, hkey]

@[simp]
theorem history_recorded_self :
    history record.key (.recorded record :: log) = record :: history record.key log := by
  simp [history_recorded]

theorem history_recorded_of_ne (h : record.key ≠ key) :
    history key (.recorded record :: log) = history key log := by
  simp [history_recorded, h]

theorem executed_recorded (h : Executed key (.recorded record :: log)) : Executed key log := by
  obtain ⟨confirmed, executed, plan, hmem, hkey⟩ := h
  rcases List.mem_cons.mp hmem with heq | hmem
  · cases heq
  · exact ⟨confirmed, executed, plan, hmem, hkey⟩

theorem Sound.executed (hsound : Sound setting log) (h : Executed key log) :
    ∃ stored, latest key log = some stored ∧
      CustomerAcceptanceStatus.executionInProgress.rank ≤ stored.status.rank := by
  induction log with
  | nil =>
    obtain ⟨confirmed, record, plan, hmem, -⟩ := h
    cases hmem
  | cons event older ih =>
    obtain ⟨hpermitted, hsound⟩ := hsound
    cases event with
    | recorded record =>
        obtain ⟨stored, hstored, hrank⟩ := ih hsound (executed_recorded h)
        by_cases hkey : record.key = key
        · subst hkey
          have hlater := (hpermitted stored hstored).forward
          exact ⟨record, by simp [latest], by omega⟩
        · exact ⟨stored, by rwa [latest, history_recorded_of_ne hkey], hrank⟩
    | executed confirmed record plan =>
        obtain ⟨-, hstatus, approved, rest, hhistory, -⟩ := hpermitted
        by_cases hkey : record.key = key
        · subst hkey
          exact ⟨record, by simp [latest, hhistory], by rw [hstatus]⟩
        · obtain ⟨confirmed', other, plan', hmem, hother⟩ := h
          have hne : Event.executed confirmed' other plan' ≠
              .executed confirmed record plan := by
            rintro heq
            cases heq
            exact hkey hother
          have hbefore := ih hsound
            ⟨confirmed', other, plan', (List.mem_cons.mp hmem).resolve_left hne, hother⟩
          exact hbefore

/-! ## What a step can do -/

/-- What a step of a call does to the world. -/
inductive Move (env : Environment) : World → World → Prop
  | idle (world : World) : Move env world world
  | tick (world : World) : Move env world world.tick
  | plan (world : World) (plan : BrowserJourneyPlan) (tick : Nat)
      (hbefore : tick < world.ticks) (htime : plan.createdAt = env.clock tick) :
      Move env world (world.savePlan plan)
  | create (world : World) (record : CustomerAcceptanceRecord)
      (delivery : CustomerDeliveryReview) (place : PlanKey)
      (hfree : world.records.load record.key = none)
      (hdelivery : requireDelivery env record.key = .ok delivery)
      (hplace : planKey env record.key delivery = .ok place)
      (hplan : (world.plans.load place).isSome = true) :
      Move env world (world.saveRecord record)
  | replace (world : World) (earlier record : CustomerAcceptanceRecord)
      (hstored : world.records.load record.key = some earlier)
      (hlater : Later env.setting earlier record) : Move env world (world.saveRecord record)
  | execute (world : World) (confirmed : String) (approved record : CustomerAcceptanceRecord)
      (plan : BrowserJourneyPlan) (older : List Event)
      (hlog : world.log = .recorded record :: older)
      (hstatus : record.status = .executionInProgress)
      (hkey : latest record.key older = some approved)
      (happroved : approved.status = .approved)
      (hconfirmed : approved.approvalDigest env.setting = confirmed) :
      Move env world (world.execute confirmed record plan)

/-- What is known of a world. -/
structure Inv (env : Environment) (world : World) : Prop
    extends Authority env.setting world where
  timed : ∀ place plan, world.plans.load place = some plan →
    ∃ tick < world.ticks, plan.createdAt = env.clock tick
  planned : ∀ key record, world.records.load key = some record →
    ∃ delivery place, requireDelivery env key = .ok delivery ∧
      planKey env key delivery = .ok place ∧ (world.plans.load place).isSome = true

theorem Inv.initial : Inv env .initial where
  sound := trivial
  stored _ := rfl
  timed _ _ h := by cases h
  planned _ _ h := by cases h

theorem Inv.saveRecord (hinv : Inv env world)
    (hlater : ∀ earlier, world.records.load record.key = some earlier →
      Later env.setting earlier record)
    (hplanned : ∃ delivery place, requireDelivery env record.key = .ok delivery ∧
      planKey env record.key delivery = .ok place ∧
        (world.plans.load place).isSome = true) : Inv env (world.saveRecord record) where
  sound := by
    refine ⟨?_, hinv.sound⟩
    intro earlier hearlier
    exact hlater earlier ((hinv.stored record.key).trans hearlier)
  stored key := by
    by_cases hkey : key = record.key
    · subst hkey
      simp [World.saveRecord, latest]
    · have hne : record.key ≠ key := Ne.symm hkey
      simp [World.saveRecord, latest, Table.load_save_of_ne hkey, history_recorded_of_ne hne,
        hinv.stored key]
  timed := hinv.timed
  planned key stored hstored := by
    by_cases hkey : key = record.key
    · subst hkey
      exact hplanned
    · simp only [World.saveRecord, Table.load_save_of_ne hkey] at hstored
      exact hinv.planned key stored hstored

/-- Every step keeps the invariant. -/
theorem Move.inv (h : Move env world after) (hinv : Inv env world) : Inv env after := by
  cases h with
  | idle => exact hinv
  | tick =>
    exact
      { sound := hinv.sound
        stored := hinv.stored
        timed := fun place plan hplan => by
          obtain ⟨tick, hlt, htime⟩ := hinv.timed place plan hplan
          exact ⟨tick, Nat.lt_succ_of_lt hlt, htime⟩
        planned := hinv.planned }
  | plan plan tick hbefore htime =>
    exact
      { sound := hinv.sound
        stored := hinv.stored
        timed := fun place stored hstored => by
          by_cases hplace : place = plan.key
          · subst hplace
            simp only [World.savePlan, Table.load_save_self, Option.some_inj] at hstored
            exact hstored ▸ ⟨tick, hbefore, htime⟩
          · simp only [World.savePlan, Table.load_save_of_ne hplace] at hstored
            exact hinv.timed place stored hstored
        planned := fun key record hrecord => by
          obtain ⟨delivery, place, hdelivery, hplace, hplan⟩ := hinv.planned key record hrecord
          refine ⟨delivery, place, hdelivery, hplace, ?_⟩
          by_cases hsame : place = plan.key
          · subst hsame
            simp [World.savePlan]
          · simpa [World.savePlan, Table.load_save_of_ne hsame] using hplan }
  | create record delivery place hfree hdelivery hplace hplan =>
    refine hinv.saveRecord ?_ ⟨delivery, place, hdelivery, hplace, hplan⟩
    intro earlier hearlier
    rw [hfree] at hearlier
    cases hearlier
  | replace earlier record hstored hlater =>
    refine hinv.saveRecord ?_ (hinv.planned record.key earlier hstored)
    intro found hfound
    rw [hstored, Option.some_inj] at hfound
    exact hfound ▸ hlater
  | execute confirmed approved record plan older hlog hstatus hkey happroved hconfirmed =>
    refine
      { sound := ⟨⟨?_, hstatus, ?_⟩, hinv.sound⟩
        stored := hinv.stored
        timed := hinv.timed
        planned := hinv.planned }
    · -- An earlier execution would have left no approved record behind.
      intro hexecuted
      have hsound := hinv.sound
      rw [hlog] at hexecuted hsound
      obtain ⟨stored, hlast, hrank⟩ := hsound.2.executed (executed_recorded hexecuted)
      rw [hkey, Option.some_inj] at hlast
      subst hlast
      rw [happroved] at hrank
      exact absurd hrank (by decide)
    · rw [hlog, history_recorded_self]
      unfold latest at hkey
      cases hhistory : history record.key older with
      | nil =>
          rw [hhistory] at hkey
          cases hkey
      | cons first rest =>
          rw [hhistory, List.head?_cons, Option.some_inj] at hkey
          subst hkey
          exact ⟨first, rest, rfl, happroved, hconfirmed⟩

/-! ## What the calls do -/

variable {Q : CustomerAcceptanceRecord → World → Prop} {E : Error → World → Prop}
  {guarantee : World → World → Prop} {expected : String}

/-- A reading of the clock is a step. -/
theorem obeys_now {Q : Timestamp → World → Prop} :
    Obeys guarantee (now env) world Q E ↔
      guarantee world world.tick ∧ Q (env.clock world.ticks) world.tick :=
  Iff.rfl

/-- What a record that was loaded is. -/
theorem obeys_load (hidle : guarantee world world)
    (hQ : ∀ record, world.records.load key = some record → record.key = key → Q record world)
    (hE : ∀ e, E e world) : Obeys guarantee (load env key) world Q E := by
  unfold load
  rw [obeys_bind, obeys_ofExcept]
  refine ⟨fun _ _ => ?_, fun e _ => hE e⟩
  rw [obeys_query, obeys_ofExcept]
  refine ⟨hidle, fun record hrecord => ?_, fun e _ => hE e⟩
  cases hstored : world.records.load key with
  | none =>
    rw [hstored] at hrecord
    cases hrecord
  | some stored =>
    simp only [hstored] at hrecord
    by_cases hbinds : stored.key = key ∧
        acceptanceIdFor env key.requestId = .ok stored.acceptanceId
    · rw [if_pos hbinds] at hrecord
      cases hrecord
      exact hQ _ hstored hbinds.1
    · rw [if_neg hbinds] at hrecord
      cases hrecord

/-- A replacement stores a record with the approval digest of the stored one, or raises and
leaves the stores alone. -/
theorem obeys_replace (hidle : guarantee world world)
    (hsave : ∀ earlier, world.records.load record.key = some earlier →
      record.approvalDigest env.setting = earlier.approvalDigest env.setting →
        guarantee world (world.saveRecord record) ∧ Q record (world.saveRecord record))
    (hE : ∀ e, E e world) : Obeys guarantee (replace env record expected) world Q E := by
  unfold replace
  rw [obeys_bind]
  apply obeys_load hidle
  · intro earlier hearlier _
    rw [obeys_ite]
    refine ⟨fun _ => hE _, fun _ => ?_⟩
    rw [obeys_ite]
    refine ⟨fun _ => hE _, fun happroval => ?_⟩
    rw [obeys_bind, obeys_modify, obeys_pure]
    exact hsave earlier hearlier (not_not.mp happroval).symm
  · exact hE

theorem obeys_savePlan {Q : BrowserJourneyPlan → World → Prop} (hidle : guarantee world world)
    (hsave : world.plans.load plan.key = none →
      guarantee world (world.savePlan plan) ∧ Q plan (world.savePlan plan))
    (hsame : world.plans.load plan.key = some plan → Q plan world)
    (hE : ∀ e, (world.plans.load plan.key).isSome = true → E e world) :
    Obeys guarantee (savePlan plan) world Q E := by
  unfold savePlan
  rw [obeys_bind, obeys_query, obeys_ok]
  refine ⟨hidle, ?_⟩
  cases hstored : world.plans.load plan.key with
  | none =>
    rw [hstored] at hsave
    rw [Option.isSome_none, if_neg (by decide), obeys_bind, obeys_modify, obeys_pure]
    exact hsave rfl
  | some stored =>
    rw [hstored] at hE
    rw [Option.isSome_some, if_pos rfl, obeys_bind]
    unfold loadPlan
    rw [obeys_query]
    simp only [hstored]
    by_cases hkey : stored.key = plan.key
    · rw [if_pos hkey, obeys_ok, obeys_ite]
      refine ⟨hidle, fun _ => hE _ rfl, fun hne => ?_⟩
      rw [not_not] at hne
      subst hne
      exact hsame hstored
    · rw [if_neg hkey]
      exact ⟨hidle, hE _ rfl⟩

theorem obeys_create (hidle : guarantee world world)
    (hsave : world.records.load record.key = none →
      guarantee world (world.saveRecord record) ∧ Q record (world.saveRecord record))
    (hsame : ∀ stored, world.records.load record.key = some stored → Q stored world)
    (hE : ∀ e, world.records.load record.key = none → storePath env record.key = .error e →
      E e world)
    (hE' : ∀ e, (world.records.load record.key).isSome = true → E e world) :
    Obeys guarantee (create env record) world Q E := by
  unfold create
  rw [obeys_bind, obeys_ofExcept]
  refine ⟨fun _ _ => ?_, fun e he => ?_⟩
  · rw [obeys_bind, obeys_query, obeys_ok]
    refine ⟨hidle, ?_⟩
    cases hstored : world.records.load record.key with
    | none =>
        rw [Option.isNone_none, if_pos rfl, obeys_bind, obeys_modify, obeys_pure]
        exact hsave hstored
    | some stored =>
        rw [hstored] at hE'
        rw [Option.isNone_some, if_neg (by decide), obeys_bind]
        apply obeys_load hidle
        · intro existing hexisting _
          rw [obeys_ite]
          exact ⟨fun _ => hsame existing hexisting, fun _ => hE' _ rfl⟩
        · exact fun e => hE' e rfl
  · cases hstored : world.records.load record.key with
    | none => exact hE e hstored he
    | some stored => exact hE' e (by rw [hstored]; rfl)

theorem obeys_loadBoundPlan {Q : BrowserJourneyPlan → World → Prop}
    (hidle : guarantee world world) (hQ : ∀ plan, Q plan world) (hE : ∀ e, E e world) :
    Obeys guarantee (loadBoundPlan env record) world Q E := by
  unfold loadBoundPlan loadPlan
  rw [obeys_bind, obeys_query, obeys_ofExcept]
  refine ⟨hidle, fun plan _ => ?_, fun e _ => hE e⟩
  rw [obeys_ite]
  exact ⟨fun _ => hQ plan, fun _ => hE _⟩

section Preparing

variable {configuration : CustomerAcceptanceConfiguration} {delivery : CustomerDeliveryReview}
  {commitSha treeSha : String} {created : Timestamp}

theorem newPlan_eq_ok (h : newPlan env key configuration delivery commitSha created = .ok plan) :
    plan.createdAt = created ∧ planKey env key delivery = .ok plan.key := by
  unfold newPlan at h
  obtain ⟨runId, hrun, h⟩ := Checks.bind_ok_iff.mp h
  obtain ⟨planId, hplan, h⟩ := Checks.bind_ok_iff.mp h
  have hmade := constructed_eq_ok h
  unfold planKey
  rw [hrun, hplan, hmade]
  exact ⟨rfl, rfl⟩

theorem newRecord_eq_ok
    (h : newRecord env key configuration delivery treeSha plan = .ok record) :
    record.key = key := by
  unfold newRecord at h
  obtain ⟨journeys, -, h⟩ := Checks.bind_ok_iff.mp h
  rw [constructed_eq_ok h]
  rfl

theorem prepare_moves (world : World) :
    Obeys (Move env) (prepare env key) world (fun _ _ => True) fun _ _ => True := by
  unfold prepare
  rw [obeys_bind, obeys_ofExcept]
  refine ⟨fun configuration _ => ?_, fun _ _ => trivial⟩
  rw [obeys_bind, obeys_ofExcept]
  refine ⟨fun delivery hdelivery => ?_, fun _ _ => trivial⟩
  rw [obeys_bind, obeys_ofExcept]
  refine ⟨fun identities _ => ?_, fun _ _ => trivial⟩
  obtain ⟨commitSha, treeSha⟩ := identities
  rw [obeys_bind, obeys_now]
  refine ⟨.tick world, ?_⟩
  rw [obeys_bind, obeys_ofExcept]
  refine ⟨fun plan hplan => ?_, fun _ _ => trivial⟩
  obtain ⟨htime, hplace⟩ := newPlan_eq_ok hplan
  have hcreate : ∀ after : World, (after.plans.load plan.key).isSome = true →
      Obeys (Move env) (do
        let record ← Procedure.ofExcept (newRecord env key configuration delivery treeSha plan)
        create env record) after (fun _ _ => True) fun _ _ => True := by
    intro after hthere
    rw [obeys_bind, obeys_ofExcept]
    refine ⟨fun record hrecord => ?_, fun _ _ => trivial⟩
    have hkey := newRecord_eq_ok hrecord
    subst hkey
    apply obeys_create (.idle after)
    · exact fun hfree =>
        ⟨.create after record delivery plan.key hfree hdelivery hplace hthere, trivial⟩
    · exact fun _ _ => trivial
    · exact fun _ _ _ => trivial
    · exact fun _ _ => trivial
  rw [obeys_bind]
  apply obeys_savePlan (.idle world.tick)
  · intro _
    refine ⟨.plan world.tick plan world.ticks (Nat.lt_succ_self _) htime, ?_⟩
    exact hcreate _ (by simp [World.savePlan])
  · intro hstored
    exact hcreate _ (by rw [hstored]; rfl)
  · exact fun _ _ => trivial

end Preparing

theorem approve_moves (world : World) (confirm : Bool) :
    Obeys (Move env) (approve env key expected confirm) world (fun _ _ => True)
      fun _ _ => True := by
  unfold approve
  rw [obeys_ite]
  refine ⟨fun _ => trivial, fun _ => ?_⟩
  rw [obeys_bind, obeys_ofExcept]
  refine ⟨fun delivery _ => ?_, fun _ _ => trivial⟩
  rw [obeys_bind]
  apply obeys_load (.idle world)
  · intro record hrecord hkey
    rw [obeys_bind, obeys_ofExcept]
    refine ⟨fun _ _ => ?_, fun _ _ => trivial⟩
    rw [obeys_ite]
    refine ⟨fun _ => ?_, fun _ => ?_⟩
    · rw [obeys_ite]
      exact ⟨fun _ => trivial, fun _ => trivial⟩
    · rw [obeys_ite]
      refine ⟨fun _ => trivial, fun hstatus => ?_⟩
      rw [obeys_ite]
      refine ⟨fun _ => trivial, fun _ => ?_⟩
      rw [obeys_bind, obeys_now]
      refine ⟨.tick world, ?_⟩
      rw [obeys_bind, obeys_ofExcept]
      refine ⟨fun approved happroved => ?_, fun _ _ => trivial⟩
      have hmade := constructed_eq_ok happroved
      have hsame : approved.key = record.key := by rw [hmade]; rfl
      apply obeys_replace (.idle world.tick)
      · intro earlier hearlier happroval
        have hloaded : earlier = record := by
          rw [hsame, hkey] at hearlier
          exact Option.some_inj.mp (hearlier.symm.trans hrecord)
        refine ⟨.replace world.tick earlier approved hearlier ⟨happroval, ?_⟩, trivial⟩
        rw [hloaded, not_not.mp hstatus, hmade]
        exact Nat.lt_succ_self 0
      · exact fun _ => trivial
  · exact fun _ => trivial

/-- A record in execution leads to its evidence, or to a reconciliation. -/
theorem giveUp_moves (error : Error) (hrecord : world.records.load key = some record)
    (hstatus : record.status = .executionInProgress) :
    Obeys (Move env) (giveUp env key error) world (fun _ _ => True) fun _ _ => True := by
  unfold giveUp
  rw [obeys_bind]
  apply obeys_load (.idle world)
  · intro current hcurrent hkey
    have hloaded : current = record := Option.some_inj.mp (hcurrent.symm.trans hrecord)
    rw [obeys_bind, obeys_now]
    refine ⟨.tick world, ?_⟩
    rw [obeys_bind, obeys_ofExcept]
    refine ⟨fun failed hfailed => ?_, fun _ _ => trivial⟩
    have hmade := constructed_eq_ok hfailed
    have hsame : failed.key = current.key := by rw [hmade]; rfl
    rw [obeys_bind]
    apply obeys_replace (.idle world.tick)
    · intro earlier hearlier happroval
      have hearly : earlier = record := by
        rw [hsame, hkey] at hearlier
        exact Option.some_inj.mp (hearlier.symm.trans hrecord)
      refine ⟨.replace world.tick earlier failed hearlier ⟨happroval, ?_⟩, trivial⟩
      rw [hearly, hstatus, hmade]
      exact Nat.lt_succ_self 2
    · exact fun _ => trivial
  · exact fun _ => trivial

theorem effects_moves (answers : Answers) {approved : CustomerAcceptanceRecord}
    (hlog : world.log = .recorded record :: older) (hstatus : record.status = .executionInProgress)
    (hlatest : latest record.key older = some approved) (happroved : approved.status = .approved)
    (hconfirmed : approved.approvalDigest env.setting = confirmed)
    (hrecord : world.records.load record.key = some record) :
    Obeys (Move env) (effects env confirmed record plan answers) world (fun _ _ => True)
      fun _ after => after.records = world.records := by
  unfold effects
  rw [obeys_bind, obeys_modify]
  refine ⟨.execute world confirmed approved record plan older hlog hstatus hlatest happroved
    hconfirmed, ?_⟩
  rw [obeys_bind, obeys_ofExcept]
  refine ⟨fun outcome _ => ?_, fun _ _ => rfl⟩
  rw [obeys_bind, obeys_ofExcept]
  refine ⟨fun package _ => ?_, fun _ _ => rfl⟩
  rw [obeys_bind, obeys_now]
  refine ⟨.tick _, ?_⟩
  rw [obeys_bind, obeys_ofExcept]
  refine ⟨fun ready hready => ?_, fun _ _ => rfl⟩
  have hmade := constructed_eq_ok hready
  have hsame : ready.key = record.key := by rw [hmade]; rfl
  apply obeys_replace (.idle _)
  · intro earlier hearlier happroval
    have hloaded : earlier = record := by
      rw [hsame] at hearlier
      exact Option.some_inj.mp (hearlier.symm.trans hrecord)
    refine ⟨.replace _ earlier ready hearlier ⟨happroval, ?_⟩, trivial⟩
    rw [hloaded, hstatus, hmade]
    exact Nat.lt_succ_self 2
  · exact fun _ => rfl

theorem execute_moves (hinv : Inv env world) (deploy browse : Bool) (answers : Answers) :
    Obeys (Move env) (execute env key expected deploy browse answers) world (fun _ _ => True)
      fun _ _ => True := by
  unfold execute
  rw [obeys_bind, obeys_ofExcept]
  refine ⟨fun _ _ => ?_, fun _ _ => trivial⟩
  rw [obeys_ite]
  refine ⟨fun _ => trivial, fun _ => ?_⟩
  rw [obeys_ite]
  refine ⟨fun _ => trivial, fun _ => ?_⟩
  rw [obeys_bind, obeys_ofExcept]
  refine ⟨fun delivery _ => ?_, fun _ _ => trivial⟩
  rw [obeys_bind]
  apply obeys_load (.idle world)
  · intro record hrecord hkey
    rw [obeys_bind, obeys_ofExcept]
    refine ⟨fun _ _ => ?_, fun _ _ => trivial⟩
    rw [obeys_ite]
    refine ⟨fun _ => ?_, fun _ => ?_⟩
    · rw [obeys_ite]
      exact ⟨fun _ => trivial, fun _ => trivial⟩
    · rw [obeys_ite]
      refine ⟨fun _ => trivial, fun hstatus => ?_⟩
      rw [obeys_ite]
      refine ⟨fun _ => trivial, fun hexpected => ?_⟩
      rw [obeys_bind]
      apply obeys_loadBoundPlan (.idle world)
      · intro plan
        rw [obeys_bind, obeys_ofExcept]
        refine ⟨fun _ _ => ?_, fun _ _ => trivial⟩
        rw [obeys_bind, obeys_now]
        refine ⟨.tick world, ?_⟩
        rw [obeys_bind, obeys_ofExcept]
        refine ⟨fun started hstarted => ?_, fun _ _ => trivial⟩
        have hmade := constructed_eq_ok hstarted
        have hsame : started.key = record.key := by rw [hmade]; rfl
        rw [obeys_bind]
        apply obeys_replace (.idle world.tick)
        · intro earlier hearlier happroval
          have hloaded : earlier = record := by
            rw [hsame, hkey] at hearlier
            exact Option.some_inj.mp (hearlier.symm.trans hrecord)
          subst hloaded
          refine ⟨.replace world.tick earlier started hearlier ⟨happroval, ?_⟩, ?_⟩
          · rw [not_not.mp hstatus, hmade]
            exact Nat.lt_succ_self 1
          · rw [obeys_handle]
            have hrun := @effects_moves env _ started plan _ (world.tick.saveRecord started)
              answers earlier rfl
              (by rw [hmade]) ((hinv.stored started.key).symm.trans hearlier)
              (not_not.mp hstatus) (not_not.mp hexpected)
              (by simp [World.saveRecord])
            refine hrun.mono (fun _ _ _ => trivial) fun error after hafter => ?_
            refine @giveUp_moves env _ started _ error ?_ ?_
            · rw [hafter, ← hkey, ← hsame]
              simp [World.saveRecord]
            · rw [hmade]
        · exact fun _ => trivial
      · exact fun _ => trivial
  · exact fun _ => trivial

theorem perform_moves (hinv : Inv env world) (call : Call) :
    Obeys (Move env) (call.perform env) world (fun _ _ => True) fun _ _ => True := by
  cases call with
  | prepare key => exact prepare_moves world
  | approve key expected confirm => exact approve_moves world confirm
  | execute key expected deploy browse answers => exact execute_moves hinv deploy browse answers

/-- A call keeps the invariant, whether it ends or dies. -/
theorem Inv.step (hinv : Inv env world) (call : Call × Option Nat) :
    Inv env (step env world call) := by
  obtain ⟨call, stop⟩ := call
  have hmoves := perform_moves hinv call
  cases stop with
  | none => exact hmoves.final hinv fun _ _ hbefore hmove => hmove.inv hbefore
  | some stop => exact hmoves.left hinv (fun _ _ hbefore hmove => hmove.inv hbefore) stop

/-! ## Repeated preparation -/

/-- The constructor of a record accepts its identities. -/
theorem storePath_of_postInit (h : record.postInit env.setting = .ok ()) :
    storePath env record.key = .ok () := by
  unfold CustomerAcceptanceRecord.postInit at h
  obtain ⟨-, h⟩ := Checks.check_ok_iff.mp h
  obtain ⟨hcustomer, h⟩ := Checks.check_ok_iff.mp h
  obtain ⟨hrequest, -⟩ := Checks.check_ok_iff.mp h
  have hlabel : ∀ {value label other : String}, identifier value label = .ok () →
      identifier value other = .ok () := by
    intro value label other hchecked
    unfold identifier check at hchecked ⊢
    by_cases haccepted : Authentication.isIdentifier value = true
    · rw [if_pos haccepted]
      rfl
    · rw [if_neg haccepted] at hchecked
      cases hchecked
  unfold storePath acceptanceIdFor
  rw [show record.key.customerId = record.customerId from rfl,
    show record.key.requestId = record.requestId from rfl, hlabel hcustomer, hlabel hrequest]
  rfl

theorem postInit_of_newRecord {configuration : CustomerAcceptanceConfiguration}
    {delivery : CustomerDeliveryReview} {treeSha : String}
    (h : newRecord env key configuration delivery treeSha plan = .ok record) :
    record.postInit env.setting = .ok () := by
  unfold newRecord at h
  obtain ⟨journeys, -, h⟩ := Checks.bind_ok_iff.mp h
  have hmade := constructed_eq_ok h
  unfold constructed at h
  rw [← hmade] at h
  exact (Checks.check_ok_iff.mp h).1

section Repeating

variable {configuration : CustomerAcceptanceConfiguration} {delivery : CustomerDeliveryReview}
  {commitSha treeSha : String}

theorem obeys_prepare (hconfiguration : requireConfiguration env = .ok configuration)
    (hdelivery : requireDelivery env key = .ok delivery)
    (hidentities : deliveredIdentities delivery = .ok (commitSha, treeSha))
    (hplan : newPlan env key configuration delivery commitSha (env.clock world.ticks) = .ok plan) :
    Obeys guarantee (prepare env key) world Q E ↔
      guarantee world world.tick ∧ Obeys guarantee (do
        let _ ← savePlan plan
        let record ← Procedure.ofExcept (newRecord env key configuration delivery treeSha plan)
        create env record) world.tick Q E := by
  unfold prepare
  rw [hconfiguration, obeys_bind, obeys_ok, hdelivery, obeys_bind, obeys_ok, hidentities,
    obeys_bind, obeys_ok, obeys_bind, obeys_now]
  simp only [hplan]
  rw [obeys_bind, obeys_ok]

theorem prepare_returns (hinv : Inv env world)
    (haccepted : Accepted env key (env.clock world.ticks))
    (hfree : ∀ delivery place, requireDelivery env key = .ok delivery →
      planKey env key delivery = .ok place → world.plans.load place = none) :
    ∃ record after, (prepare env key).run world = (.ok record, after) ∧
      ∀ stored, world.records.load key = some stored → record = stored := by
  obtain ⟨configuration, delivery, commitSha, treeSha, plan, record, hconfiguration, hdelivery,
    hidentities, hplan, hrecord⟩ := haccepted
  obtain ⟨-, hplace⟩ := newPlan_eq_ok hplan
  have hnone := hfree delivery plan.key hdelivery hplace
  have hunrecorded : world.records.load key = none := by
    rw [Option.eq_none_iff_forall_ne_some]
    intro stored hstored
    obtain ⟨found, place, hfound, hat, hthere⟩ := hinv.planned key stored hstored
    rw [hfree found place hfound hat] at hthere
    cases hthere
  have hkey := newRecord_eq_ok hrecord
  have hobeys : Obeys (fun _ _ => True) (prepare env key) world (fun _ _ => True)
      fun _ _ => False := by
    rw [obeys_prepare hconfiguration hdelivery hidentities hplan]
    refine ⟨trivial, ?_⟩
    rw [obeys_bind]
    apply obeys_savePlan trivial
    · intro _
      refine ⟨trivial, ?_⟩
      rw [hrecord, obeys_bind, obeys_ok]
      apply obeys_create trivial
      · exact fun _ => ⟨trivial, trivial⟩
      · exact fun _ _ => trivial
      · intro e _ hpath
        rw [storePath_of_postInit (postInit_of_newRecord hrecord)] at hpath
        cases hpath
      · intro e hthere
        rw [hkey] at hthere
        change (world.records.load key).isSome = true at hthere
        rw [hunrecorded] at hthere
        cases hthere
    · intro hstored
      change world.plans.load plan.key = some plan at hstored
      rw [hnone] at hstored
      cases hstored
    · intro e hthere
      change (world.plans.load plan.key).isSome = true at hthere
      rw [hnone] at hthere
      cases hthere
  obtain ⟨made, after, hrun, -⟩ := hobeys.returns
  refine ⟨made, after, hrun, ?_⟩
  intro stored hstored
  rw [hunrecorded] at hstored
  cases hstored

theorem prepare_raises (hinv : Inv env world) (hclock : StrictMono env.clock)
    (haccepted : Accepted env key (env.clock world.ticks)) {delivery : CustomerDeliveryReview}
    {place : PlanKey} (hdelivery : requireDelivery env key = .ok delivery)
    (hplace : planKey env key delivery = .ok place) (hthere : world.plans.load place ≠ none) :
    ∀ record after, (prepare env key).run world ≠ (.ok record, after) := by
  obtain ⟨configuration, found, commitSha, treeSha, plan, record, hconfiguration, hfound,
    hidentities, hplan, -⟩ := haccepted
  obtain rfl : found = delivery := by
    rw [hdelivery] at hfound
    exact (Except.ok.inj hfound).symm
  obtain ⟨htime, hat⟩ := newPlan_eq_ok hplan
  obtain rfl : plan.key = place := by
    rw [hplace] at hat
    exact (Except.ok.inj hat).symm
  obtain ⟨stored, hstored⟩ := Option.ne_none_iff_exists'.mp hthere
  have hobeys : Obeys (fun _ _ => True) (prepare env key) world (fun _ _ => False)
      fun _ _ => True := by
    rw [obeys_prepare hconfiguration hdelivery hidentities hplan]
    refine ⟨trivial, ?_⟩
    rw [obeys_bind]
    apply obeys_savePlan trivial
    · intro hnone
      change world.plans.load plan.key = none at hnone
      rw [hstored] at hnone
      cases hnone
    · intro hsame
      change world.plans.load plan.key = some plan at hsame
      obtain ⟨tick, hlt, hearlier⟩ := hinv.timed plan.key plan hsame
      rw [htime] at hearlier
      exact absurd hearlier (ne_of_gt (hclock hlt))
    · exact fun _ _ => trivial
  intro made after hrun
  exact hobeys.run.1 made after hrun

end Repeating

theorem repeats_iff_unplanned (hinv : Inv env world) (hclock : StrictMono env.clock)
    (call : Call × Option Nat) : Repeats env world call ↔ Unplanned env world call := by
  obtain ⟨call, stop⟩ := call
  cases call with
  | approve key expected confirm => exact Iff.rfl
  | execute key expected deploy browse answers => exact Iff.rfl
  | prepare key =>
    cases stop with
    | some stop => exact Iff.rfl
    | none =>
        constructor
        · intro hrepeats haccepted delivery place hdelivery hplace
          by_contra hthere
          obtain ⟨record, after, hrun, -⟩ := hrepeats haccepted
          exact prepare_raises hinv hclock haccepted hdelivery hplace hthere record after hrun
        · exact fun hunplanned haccepted =>
            prepare_returns hinv haccepted (hunplanned haccepted)

/-- In every run records move forward and each is executed at most once, as it was approved; and
its calls to prepare are repeatable exactly when none is made after a plan was stored. -/
theorem acceptance_repeatable_iff (env : Environment) (hclock : StrictMono env.clock)
    (calls : List (Call × Option Nat)) :
    (AllMeet (step env) (Repeats env) .initial calls ∧
      ∀ world ∈ calls.scanl (step env) .initial, Authority env.setting world) ↔
        AllMeet (step env) (Unplanned env) .initial calls := by
  have hcalls := allMeet_congr (Inv env)
    (fun world call hinv => repeats_iff_unplanned hinv hclock call)
    (fun world call hinv => hinv.step call) calls .initial Inv.initial
  have hauthority : ∀ world ∈ calls.scanl (step env) .initial, Authority env.setting world := by
    intro world hworld
    exact (inv_of_mem_scanl (Inv env) (fun world call hinv => hinv.step call) calls .initial
      Inv.initial world hworld).toAuthority
  rw [hcalls]
  exact and_iff_left hauthority

/-! ## A delivery that is prepared twice -/

/-- Sixty-four digits that depend on a text. -/
def checksum (text : String) : String :=
  let sum := text.toList.foldl (fun sum c => (sum * 31 + c.toNat) % 2 ^ 128) 7
  String.ofList (((List.range 64).map fun place => Nat.digitChar (sum / 10 ^ place % 10)))

/-- A setting whose digests tell apart what the calls of one request make. -/
def sampleSetting : Setting where
  sha256 := checksum
  planText plan := plan.planId ++ toString plan.createdAt
  approvalText scope := scope.acceptanceId ++ scope.browserPlanDigest
  recordText record := record.browserPlanDigest ++ toString record.updatedAt
  configurationText configuration := configuration.previewUrl
  origin _ _ := pure ()

def sampleJourney : BrowserJourneySpecification :=
  { journeyId := "open", capabilityId := "home", title := "Open the page", startPath := "/",
    steps := [{ stepId := "reload", action := .reload }] }

def sampleConfiguration : CustomerAcceptanceConfiguration where
  previewEnvironmentId := "preview-one"
  previewUrl := "https://preview.example"
  workflowFile := ".github/workflows/preview.yml"
  automatedTestJob := "tests"
  securityJob := "security"
  acceptanceProfileId := "profile"
  acceptanceProfileVersion := "1"
  allowedOrigins := ["https://preview.example"]
  journeys := [sampleJourney]
  enabled := true
  previewDeploymentConfirmed := true
  browserExecutionConfirmed := true

def sampleDelivery : CustomerDeliveryReview where
  deliveryId := "delivery"
  customerId := "customer"
  requestId := "request"
  productId := "product"
  digest := checksum "delivery"
  reviewDigest := checksum "review"
  repositoryFullName := "owner/product"
  baseBranch := "main"
  workspaceBranch := "agent/product"
  status := .draftPrCreated
  commitSha := some "0123456789012345678901234567890123456789"
  treeSha := some "9876543210987654321098765432109876543210"
  pullRequestNumber := some 1
  pullRequestUrl := some "https://github.com/owner/product/pull/1"

def sampleKey : Key :=
  ⟨"customer", "request"⟩

def sampleEnvironment : Environment where
  setting := sampleSetting
  configuration := some sampleConfiguration
  adapter := true
  deliveries key := if key = sampleKey then some sampleDelivery else none
  clock tick := tick

theorem sampleEnvironment_clock : StrictMono sampleEnvironment.clock :=
  fun _ _ h => Int.ofNat_lt.mpr h

def sampleAnswers : Answers where
  preflight := .ok ()
  executed := .ok ⟨1, "https://github.com/owner/product/actions/runs/1", "revision", "d", "b"⟩
  published := .ok ⟨"package", "p"⟩

/-- The approval digest of the record that is prepared first. -/
def sampleDigest : String :=
  ((step sampleEnvironment .initial (.prepare sampleKey, none)).records.load sampleKey).elim ""
    (·.approvalDigest sampleSetting)

/-- A preparation that is approved and executed; the call dies, and the execution is asked for
once more. -/
def preparedOnce : List (Call × Option Nat) :=
  [(.prepare sampleKey, none), (.approve sampleKey sampleDigest true, none),
    (.execute sampleKey sampleDigest true true sampleAnswers, some 6),
    (.execute sampleKey sampleDigest true true sampleAnswers, none)]

theorem acceptance_repeatable_prepared :
    AllMeet (step sampleEnvironment) (Repeats sampleEnvironment) .initial preparedOnce ∧
      ∀ world ∈ preparedOnce.scanl (step sampleEnvironment) .initial,
        Authority sampleSetting world := by
  apply (acceptance_repeatable_iff sampleEnvironment sampleEnvironment_clock preparedOnce).mpr
  refine ⟨?_, trivial, trivial, trivial, trivial⟩
  intro _ delivery place _ _
  rfl

/-- The same request prepared at two times. -/
def preparedTwice : List (Call × Option Nat) :=
  [(.prepare sampleKey, none), (.prepare sampleKey, none)]

theorem accepted_of_isOk {created : Timestamp} (h : (do
    let configuration ← requireConfiguration env
    let delivery ← requireDelivery env key
    let identities ← deliveredIdentities delivery
    let plan ← newPlan env key configuration delivery identities.1 created
    newRecord env key configuration delivery identities.2 plan).isOk = true) :
    Accepted env key created := by
  obtain ⟨record, hrecord⟩ := Checks.exists_of_isOk h
  obtain ⟨configuration, hconfiguration, hrecord⟩ := Checks.bind_ok_iff.mp hrecord
  obtain ⟨delivery, hdelivery, hrecord⟩ := Checks.bind_ok_iff.mp hrecord
  obtain ⟨identities, hidentities, hrecord⟩ := Checks.bind_ok_iff.mp hrecord
  obtain ⟨plan, hplan, hrecord⟩ := Checks.bind_ok_iff.mp hrecord
  exact ⟨configuration, delivery, identities.1, identities.2, plan, record, hconfiguration,
    hdelivery, hidentities, hplan, hrecord⟩

/-- The second call to prepare fails because of the plan that the first one stored. -/
theorem not_acceptance_repeatable : ¬∀ (env : Environment), StrictMono env.clock →
    ∀ calls : List (Call × Option Nat),
      AllMeet (step env) (Repeats env) .initial calls ∧
        ∀ world ∈ calls.scanl (step env) .initial, Authority env.setting world := by
  intro h
  obtain ⟨⟨-, hsecond, -⟩, -⟩ := h sampleEnvironment sampleEnvironment_clock preparedTwice
  have hinv : Inv sampleEnvironment
      (step sampleEnvironment .initial (.prepare sampleKey, none)) := Inv.initial.step _
  obtain ⟨hticks, hrecorded⟩ :
      (step sampleEnvironment .initial (.prepare sampleKey, none)).ticks = 1 ∧
        ((step sampleEnvironment .initial (.prepare sampleKey, none)).records.load
          sampleKey).isSome = true := by
    decide +kernel
  obtain ⟨stored, hstored⟩ := Option.isSome_iff_exists.mp hrecorded
  obtain ⟨delivery, place, hdelivery, hplace, hthere⟩ := hinv.planned sampleKey stored hstored
  have haccepted : Accepted sampleEnvironment sampleKey (sampleEnvironment.clock
      (step sampleEnvironment .initial (.prepare sampleKey, none)).ticks) := by
    rw [hticks]
    exact accepted_of_isOk (by decide +kernel)
  obtain ⟨record, after, hrun, -⟩ := hsecond haccepted
  exact prepare_raises hinv sampleEnvironment_clock haccepted hdelivery hplace
    (Option.isSome_iff_ne_none.mp hthere) record after hrun

end CustomerAcceptance
end Ascos
