import Ascos.Authentication.Service
import Ascos.Library.Checks
import Ascos.Library.Lineage

/-!
# What a token and an account are good for

The events of a run say which tokens stand: issued by a call that returned, and since then
neither logged out nor rejected as expired.  The invariant ties the files to them.

Main results:

- Theorem `customer_authority`: in a run in which no process dies while it writes a file,
  a token authenticates exactly while it stands, a well-formed token can be logged out, and
  each address is free or has an account whose password logs in.
-/

namespace Ascos
namespace Authentication

open Ascos.Library
open Ascos.Library.Procedure
open Ascos.Runtime (Timestamp)

/-! ## What the events say -/

/-- For whom a token stands and until when: it was issued, and nothing has ended it since. -/
def standing (token : String) : List Event → Option (String × Timestamp)
  | [] => none
  | .issued issued customerId expiresAt :: log =>
      if issued = token then some (customerId, expiresAt) else standing token log
  | .loggedOut ended :: log => if ended = token then none else standing token log
  | .rejected ended :: log => if ended = token then none else standing token log
  | .registering _ _ :: log => standing token log

/-- The next tokens of the factory have the form that sessions and accounts ask for. -/
def Usable (setting : Setting) (drawn count : Nat) : Prop :=
  ∀ k, drawn ≤ k → k < drawn + count → isToken setting (setting.tokenFactory k) = true ∧
    isCsrf (setting.tokenFactory k) = true ∧
    isIdentifier ("customer-" ++ setting.tokenFactory k) = true

/-- A token authenticates to a customer exactly while it stands for it and has not expired. -/
def TokensBind (setting : Setting) (world : World) : Prop :=
  ∀ token customerId,
    (∃ session after, ((Call.authenticate token).perform setting).run world =
        (.ok (.session session), after) ∧ session.customerId = customerId) ↔
      ∃ expiresAt, standing token world.log = some (customerId, expiresAt) ∧
        setting.clock world.ticks < expiresAt

/-- Exactly the tokens of the right form can be logged out without an exception. -/
def LogoutReturns (setting : Setting) (world : World) : Prop :=
  ∀ token, (∃ answer after, ((Call.logout token).perform setting).run world =
    (.ok answer, after)) ↔ isToken setting token = true

/-- Each address can still be registered, or the password of its registration logs in. -/
def AddressesUsable (setting : Setting) (world : World) : Prop :=
  ∀ email, normalizeEmail setting email = .ok email →
    (∀ password salt, passwordPolicy setting password = .ok () → salt.length = 16 →
      ∃ answer after, ((Call.register email password salt).perform setting).run world =
        (.ok answer, after)) ∨
    ∃ given password account, .registering given password ∈ world.log ∧
      normalizeEmail setting given = .ok email ∧
      world.accounts.load (setting.sha256 email) = some (.whole account) ∧
      ∃ issued after, ((Call.login email password).perform setting).run world =
        (.ok (.issued issued), after) ∧ issued.session.customerId = account.customerId

/-- An account that exists stays as it is. -/
def KeepsAccounts (before after : World) : Prop :=
  ∀ key account, before.accounts.load key = some (.whole account) →
    after.accounts.load key = some (.whole account)

/-- The process does not die while it writes a file: none is left without its content, and no
session or marker is there whose call has not returned. -/
def Unbroken (setting : Setting) (world : World) (call : Call × Nat) : Prop :=
  (step setting world call).writing = false

instance : IsTrans World KeepsAccounts :=
  ⟨fun _ _ _ h₁ h₂ key account h => h₂ key account (h₁ key account h)⟩

/-! ## The invariant -/

def Registered (setting : Setting) (world : World) (key : String) (account : CustomerAccount) :
    Prop :=
  key = setting.sha256 account.email ∧ account.check setting = .ok () ∧
    ∃ given password, .registering given password ∈ world.log ∧
      normalizeEmail setting given = .ok account.email ∧
      account.passwordDigest = setting.scrypt password account.passwordSalt

/-- A session with the token that it was issued for; its marker says whether the token still
stands. -/
def IssuedFor (setting : Setting) (world : World) (key : String) (session : CustomerSession) :
    Prop :=
  ∃ k, k < world.drawn ∧ isToken setting (setting.tokenFactory k) = true ∧
    key = setting.sha256 (setting.tokenFactory k) ∧ session.tokenDigest = key ∧
    standing (setting.tokenFactory k) world.log =
      if (world.revoked.load key).isSome = true then none
      else some (session.customerId, session.expiresAt)

/-- The invariant of a world in which nothing is being written. -/
structure Inv (setting : Setting) (world : World) : Prop where
  accounts : ∀ key file, world.accounts.load key = some file →
    ∃ account, file = .whole account ∧ Registered setting world key account
  sessions : ∀ key file, world.sessions.load key = some file →
    ∃ session, file = .whole session ∧ IssuedFor setting world key session
  markers : ∀ key file, world.revoked.load key = some file →
    (∃ marker, file = .whole marker ∧ marker.tokenDigest = key) ∧
      (world.sessions.load key).isSome = true
  known : ∀ token entry, standing token world.log = some entry →
    isToken setting token = true ∧ (world.sessions.load (setting.sha256 token)).isSome = true

/-- A world in which nothing is being written, and of which the invariant holds. -/
structure Calm (setting : Setting) (world : World) : Prop where
  inv : Inv setting world
  idle : world.writing = false

/-- What every step of a call guarantees. -/
def Guarantee (setting : Setting) (before after : World) : Prop :=
  (after.writing = false → Inv setting after) ∧ KeepsAccounts before after

variable {setting : Setting} {world : World}

/-- Reading the clock and drawing tokens does not touch the invariant. -/
theorem Inv.advance (hinv : Inv setting world) {other : World}
    (haccounts : other.accounts = world.accounts) (hsessions : other.sessions = world.sessions)
    (hrevoked : other.revoked = world.revoked) (hlog : other.log = world.log)
    (hdrawn : world.drawn ≤ other.drawn) : Inv setting other := by
  refine ⟨?_, ?_, ?_, ?_⟩
  · rw [haccounts]
    intro key file hfile
    obtain ⟨account, hwhole, hkey, hcheck, given, password, hasked, hrest⟩ :=
      hinv.accounts key file hfile
    exact ⟨account, hwhole, hkey, hcheck, given, password, hlog ▸ hasked, hrest⟩
  · rw [hsessions]
    intro key file hfile
    obtain ⟨session, hwhole, k, hk, hrest⟩ := hinv.sessions key file hfile
    refine ⟨session, hwhole, k, lt_of_lt_of_le hk hdrawn, ?_⟩
    rw [hlog, hrevoked]
    exact hrest
  · rw [hrevoked, hsessions]
    exact hinv.markers
  · rw [hlog, hsessions]
    exact hinv.known

theorem Calm.tick (hcalm : Calm setting world) (ticks : Nat) :
    Calm setting { world with ticks := ticks } :=
  ⟨hcalm.inv.advance rfl rfl rfl rfl le_rfl, hcalm.idle⟩

theorem Calm.drew (hcalm : Calm setting world) :
    Calm setting { world with drawn := world.drawn + 1 } :=
  ⟨hcalm.inv.advance rfl rfl rfl rfl (Nat.le_succ _), hcalm.idle⟩

theorem KeepsAccounts.refl (world : World) : KeepsAccounts world world :=
  fun _ _ h => h

theorem Calm.guarantee (hcalm : Calm setting world) (before : World)
    (hkeeps : KeepsAccounts before world) : Guarantee setting before world :=
  ⟨fun _ => hcalm.inv, hkeeps⟩

/-- A step inside a write. -/
theorem guarantee_of_writing {before after : World} (hwriting : after.writing = true)
    (hkeeps : KeepsAccounts before after) : Guarantee setting before after := by
  refine ⟨fun hidle => ?_, hkeeps⟩
  rw [hwriting] at hidle
  cases hidle

/-! ## Steps that write no file -/

theorem obeys_now {Q : Timestamp → World → Prop} {E : Error → World → Prop}
    (hcalm : Calm setting world)
    (hQ : Q (setting.clock world.ticks) { world with ticks := world.ticks + 1 }) :
    Obeys (Guarantee setting) (now setting) world Q E :=
  ⟨(hcalm.tick _).guarantee _ (KeepsAccounts.refl _), hQ⟩

theorem obeys_draw {Q : String → World → Prop} {E : Error → World → Prop}
    (hcalm : Calm setting world)
    (hQ : Q (setting.tokenFactory world.drawn) { world with drawn := world.drawn + 1 }) :
    Obeys (Guarantee setting) (draw setting) world Q E :=
  ⟨hcalm.drew.guarantee _ (KeepsAccounts.refl _), hQ⟩

theorem obeys_note {event : Event} {Q : Unit → World → Prop} {E : Error → World → Prop}
    (hinv : Inv setting { world with log := event :: world.log, writing := false })
    (hQ : Calm setting { world with log := event :: world.log, writing := false } →
      Q () { world with log := event :: world.log, writing := false }) :
    Obeys (Guarantee setting) (note event) world Q E := by
  unfold note
  rw [obeys_modify]
  exact ⟨⟨fun _ => hinv, fun _ _ h => h⟩, hQ ⟨hinv, rfl⟩⟩

theorem obeys_query {α : Type} {answer : World → Except Error α} {Q : α → World → Prop}
    {E : Error → World → Prop} (hcalm : Calm setting world)
    (hQ : ∀ a, answer world = .ok a → Q a world)
    (hE : ∀ e, answer world = .error e → E e world) :
    Obeys (Guarantee setting) (.query answer) world Q E := by
  rw [Procedure.obeys_query, obeys_ofExcept]
  exact ⟨hcalm.guarantee _ (KeepsAccounts.refl _), hQ, hE⟩

/-! ## Issuing a session -/

/-- The hash function and the token factory never give the same value twice. -/
structure Distinct (setting : Setting) : Prop where
  sha256 : Function.Injective setting.sha256
  tokens : Function.Injective setting.tokenFactory

/-- No session has the digest of a token that is still to be drawn. -/
theorem Inv.fresh (hinv : Inv setting world) (hdistinct : Distinct setting) {k : Nat}
    (hk : world.drawn ≤ k) :
    world.sessions.load (setting.sha256 (setting.tokenFactory k)) = none := by
  by_contra hfound
  obtain ⟨file, hfile⟩ := Option.ne_none_iff_exists'.mp hfound
  obtain ⟨session, -, k', hk', -, hkey, -⟩ := hinv.sessions _ file hfile
  have hsame := hdistinct.tokens (hdistinct.sha256 hkey)
  omega

/-- The world once a session is written and the call that issues it has returned. -/
def issuedWorld (world : World) (token : String) (session : CustomerSession) : World :=
  { world with
    sessions :=
      (world.sessions.save session.tokenDigest .torn).save session.tokenDigest (.whole session)
    log := .issued token session.customerId session.expiresAt :: world.log
    writing := false }

theorem load_twice {β : Type} (table : Table String (File β)) (key other : String)
    (file : File β) : ((table.save key .torn).save key file).load other =
      if other = key then some file else table.load other := by
  rw [Table.load_save, Table.load_save]
  by_cases h : other = key
  · simp [h]
  · simp [h]

/-- A session for the token that was drawn last but one. -/
theorem Inv.issue (hinv : Inv setting world) (hdistinct : Distinct setting) {k : Nat}
    (hk : k < world.drawn) {session : CustomerSession}
    (htoken : isToken setting (setting.tokenFactory k) = true)
    (hdigest : session.tokenDigest = setting.sha256 (setting.tokenFactory k))
    (hfresh : world.sessions.load session.tokenDigest = none) :
    Inv setting (issuedWorld world (setting.tokenFactory k) session) := by
  have hmarker : world.revoked.load session.tokenDigest = none := by
    by_contra hfound
    obtain ⟨file, hfile⟩ := Option.ne_none_iff_exists'.mp hfound
    have hsession := (hinv.markers _ file hfile).2
    rw [hfresh] at hsession
    cases hsession
  refine ⟨?_, ?_, ?_, ?_⟩
  · intro key file hfile
    obtain ⟨account, hwhole, hkey, hcheck, given, password, hasked, hrest⟩ :=
      hinv.accounts key file hfile
    exact ⟨account, hwhole, hkey, hcheck, given, password, List.mem_cons_of_mem _ hasked, hrest⟩
  · intro key file hfile
    change ((world.sessions.save _ .torn).save _ _).load key = some file at hfile
    rw [load_twice] at hfile
    by_cases hkey : key = session.tokenDigest
    · rw [if_pos hkey] at hfile
      cases hfile
      refine ⟨session, rfl, k, hk, htoken, hkey.trans hdigest, hkey.symm, ?_⟩
      subst hkey
      change standing _ (.issued _ _ _ :: world.log) = if (world.revoked.load _).isSome = true then
        none else _
      rw [hmarker]
      simp [standing]
    · rw [if_neg hkey] at hfile
      obtain ⟨other, hwhole, k', hk', htoken', hkey', hdigest', hstanding⟩ :=
        hinv.sessions key file hfile
      refine ⟨other, hwhole, k', hk', htoken', hkey', hdigest', ?_⟩
      have hne : setting.tokenFactory k ≠ setting.tokenFactory k' := by
        intro hsame
        exact hkey (by rw [hkey', hdigest, hsame])
      change standing _ (.issued _ _ _ :: world.log) = _
      rw [standing, if_neg hne]
      exact hstanding
  · intro key file hfile
    obtain ⟨hwhole, hsession⟩ := hinv.markers key file hfile
    refine ⟨hwhole, ?_⟩
    change (((world.sessions.save _ .torn).save _ _).load key).isSome = true
    rw [load_twice]
    by_cases hkey : key = session.tokenDigest
    · rw [if_pos hkey]
      rfl
    · rw [if_neg hkey]
      exact hsession
  · intro token entry hstanding
    change standing token (.issued _ _ _ :: world.log) = some entry at hstanding
    change _ ∧ (((world.sessions.save _ .torn).save _ _).load _).isSome = true
    rw [load_twice]
    rw [standing] at hstanding
    by_cases hsame : setting.tokenFactory k = token
    · subst hsame
      refine ⟨htoken, ?_⟩
      rw [if_pos hdigest.symm]
      rfl
    · rw [if_neg hsame] at hstanding
      obtain ⟨htoken', hsession⟩ := hinv.known token entry hstanding
      refine ⟨htoken', ?_⟩
      have hne : setting.sha256 token ≠ session.tokenDigest := by
        rw [hdigest]
        exact fun h => hsame (hdistinct.sha256 h).symm
      rw [if_neg hne]
      exact hsession

theorem Sessions.obeys_create {session : CustomerSession} {Q : CustomerSession → World → Prop}
    {E : Error → World → Prop} (hfresh : world.sessions.load session.tokenDigest = none)
    (hQ : Q session ((sessionPlace session.tokenDigest).put (.whole session)
      ((sessionPlace session.tokenDigest).put .torn world))) :
    Obeys (Guarantee setting) (Sessions.create session) world Q E := by
  unfold Sessions.create
  rw [obeys_bind]
  apply Place.obeys_exclusiveWrite
  · intro hfound
    change (world.sessions.load session.tokenDigest).isSome = true at hfound
    rw [hfresh] at hfound
    cases hfound
  · intro _
    refine ⟨guarantee_of_writing rfl fun _ _ h => h, guarantee_of_writing rfl fun _ _ h => h, ?_⟩
    exact hQ

theorem check_issued {digest customerId csrf : String} {issuedAt : Timestamp}
    (hcustomer : isIdentifier customerId = true) (hcsrf : isCsrf csrf = true) :
    CustomerSession.check ⟨digest, customerId, csrf, issuedAt, issuedAt + sessionLifetime⟩ =
      .ok () := by
  have hbounds : ∀ t : Int, ¬(t + 12 * 3600 * 1000000 ≤ t ∨
      30 * 24 * 3600 * 1000000 < t + 12 * 3600 * 1000000 - t) := by
    intro t
    omega
  have hlifetime : ¬(issuedAt + sessionLifetime ≤ issuedAt ∨
      30 * 24 * 3600 * 1000000 < issuedAt + sessionLifetime - issuedAt) := hbounds issuedAt
  unfold CustomerSession.check
  simp only [hcustomer, hcsrf, Bool.true_eq_false, if_false, if_neg hlifetime]
  rfl

theorem obeys_issue {customerId : String} (hcalm : Calm setting world)
    (hdistinct : Distinct setting) :
    Obeys (Guarantee setting) (issue setting customerId) world
      (fun issued after => issued.session.customerId = customerId ∧
        Inv setting { after with
          log := .issued issued.token issued.session.customerId issued.session.expiresAt ::
            after.log
          writing := false })
      (fun _ _ => ¬(Usable setting world.drawn 2 ∧ isIdentifier customerId = true)) := by
  unfold issue
  rw [obeys_bind]
  apply obeys_draw hcalm
  rw [obeys_bind]
  apply obeys_draw hcalm.drew
  dsimp only
  rw [obeys_ite]
  constructor
  · intro hsame
    have hnumber := hdistinct.tokens hsame
    omega
  intro _
  rw [obeys_bind]
  apply obeys_now hcalm.drew.drew
  rw [obeys_bind, obeys_ofExcept]
  constructor
  · intro digest hdigest
    unfold tokenDigest at hdigest
    by_cases htoken : isToken setting (setting.tokenFactory world.drawn) = true
    · rw [if_pos htoken] at hdigest
      cases hdigest
      dsimp only
      rw [obeys_bind, obeys_ofExcept]
      constructor
      · intro _ _
        rw [obeys_bind]
        have hfresh := hcalm.inv.fresh hdistinct le_rfl
        apply Sessions.obeys_create hfresh
        have hready := (hcalm.drew.drew.tick (world.ticks + 1)).inv
        refine ⟨rfl, ?_⟩
        exact hready.issue hdistinct (k := world.drawn) (by change _ < world.drawn + 1 + 1; omega)
          htoken rfl hfresh
      · intro e herror husable
        rw [check_issued husable.2 (husable.1 (world.drawn + 1) (by omega) (by omega)).2.1] at herror
        cases herror
    · rw [if_neg htoken] at hdigest
      cases hdigest
  · intro e herror husable
    unfold tokenDigest at herror
    rw [if_pos (husable.1 world.drawn (by omega) (by omega)).1] at herror
    cases herror

/-! ## Ending a session -/

theorem standing_ended {token : String} {event : Event} {log : List Event}
    (hevent : event = .loggedOut token ∨ event = .rejected token) (other : String) :
    standing other (event :: log) = if token = other then none else standing other log := by
  rcases hevent with rfl | rfl <;> rfl

theorem Inv.ended (hinv : Inv setting world) (hdistinct : Distinct setting) {token : String}
    {event : Event} {revoked : Table String (File Revocation)}
    (hevent : event = .loggedOut token ∨ event = .rejected token)
    (hother : ∀ key, key ≠ setting.sha256 token → revoked.load key = world.revoked.load key)
    (hmarker : (∃ marker, revoked.load (setting.sha256 token) = some (.whole marker) ∧
        marker.tokenDigest = setting.sha256 token ∧
        (world.sessions.load (setting.sha256 token)).isSome = true) ∨
      (revoked.load (setting.sha256 token) = none ∧
        world.sessions.load (setting.sha256 token) = none)) :
    Inv setting
      { world with revoked := revoked, log := event :: world.log, writing := false } := by
  refine ⟨?_, ?_, ?_, ?_⟩
  · intro key file hfile
    obtain ⟨account, hwhole, hkey, hcheck, given, password, hasked, hrest⟩ :=
      hinv.accounts key file hfile
    exact ⟨account, hwhole, hkey, hcheck, given, password, List.mem_cons_of_mem _ hasked, hrest⟩
  · intro key file hfile
    obtain ⟨session, hwhole, k, hk, htoken, hkey, hdigest, hstanding⟩ :=
      hinv.sessions key file hfile
    refine ⟨session, hwhole, k, hk, htoken, hkey, hdigest, ?_⟩
    change standing _ (event :: world.log) = if (revoked.load key).isSome = true then none else _
    rw [standing_ended hevent]
    by_cases hsame : token = setting.tokenFactory k
    · rw [if_pos hsame]
      subst hsame
      subst hkey
      rcases hmarker with ⟨marker, hload, -, -⟩ | ⟨-, hnone⟩
      · rw [hload]
        rfl
      · change world.sessions.load _ = some file at hfile
        rw [hnone] at hfile
        cases hfile
    · have hne : key ≠ setting.sha256 token := by
        rw [hkey]
        exact fun h => hsame (hdistinct.sha256 h).symm
      rw [if_neg hsame, hother key hne]
      exact hstanding
  · intro key file hfile
    change revoked.load key = some file at hfile
    by_cases hsame : key = setting.sha256 token
    · subst hsame
      rcases hmarker with ⟨marker, hload, hdigest, hsession⟩ | ⟨hnone, -⟩
      · rw [hload] at hfile
        cases hfile
        exact ⟨⟨marker, rfl, hdigest⟩, hsession⟩
      · rw [hnone] at hfile
        cases hfile
    · rw [hother key hsame] at hfile
      exact hinv.markers key file hfile
  · intro other entry hstanding
    change standing other (event :: world.log) = some entry at hstanding
    rw [standing_ended hevent] at hstanding
    by_cases hsame : token = other
    · rw [if_pos hsame] at hstanding
      cases hstanding
    · rw [if_neg hsame] at hstanding
      exact hinv.known other entry hstanding

/-- What the store makes of the files of a token. -/
theorem Inv.readSession_cases (hinv : Inv setting world) (key : String) :
    (∃ session, world.sessions.load key = some (.whole session) ∧
        world.revoked.load key = none ∧
        readSession key (world.revoked.load key) (world.sessions.load key) = .ok session) ∨
      (((∃ marker, world.revoked.load key = some (.whole marker) ∧ marker.tokenDigest = key ∧
          (world.sessions.load key).isSome = true) ∨
        (world.revoked.load key = none ∧ world.sessions.load key = none)) ∧
        ∃ message, readSession key (world.revoked.load key) (world.sessions.load key) =
          .error (.session message)) := by
  cases hmarker : world.revoked.load key with
  | some file =>
    obtain ⟨⟨marker, rfl, hdigest⟩, hsession⟩ := hinv.markers key file hmarker
    refine .inr ⟨.inl ⟨marker, rfl, hdigest, hsession⟩, "Customer session is revoked", ?_⟩
    simp only [readSession, readMarker, hdigest, ne_eq, not_true_eq_false, if_false]
    rfl
  | none =>
    cases hsession : world.sessions.load key with
    | none => exact .inr ⟨.inr ⟨rfl, rfl⟩, "Unknown customer session", rfl⟩
    | some file =>
        obtain ⟨session, rfl, -, -, -, -, hdigest, -⟩ := hinv.sessions key file hsession
        refine .inl ⟨session, rfl, rfl, ?_⟩
        simp only [readSession, hdigest, ne_eq, not_true_eq_false, if_false]
        rfl

theorem obeys_revoke {token : String} {event : Event} {revokedAt : Timestamp}
    {E : Error → World → Prop} (hcalm : Calm setting world) (hdistinct : Distinct setting)
    (hevent : event = .loggedOut token ∨ event = .rejected token) :
    Obeys (Guarantee setting)
      (ignoreInvalidSession (Sessions.revoke (setting.sha256 token) revokedAt)) world
      (fun _ after => after.ticks = world.ticks ∧ Inv setting
        { after with log := event :: after.log, writing := false }) E := by
  unfold ignoreInvalidSession
  rw [obeys_handle]
  unfold Sessions.revoke Sessions.load
  rw [obeys_bind]
  apply obeys_query hcalm
  · intro session hload
    rcases hcalm.inv.readSession_cases (setting.sha256 token) with
      ⟨found, hfile, hnone, -⟩ | ⟨-, message, herror⟩
    · rw [obeys_bind]
      apply Place.obeys_exclusiveWrite
      · intro hfound
        change (world.revoked.load (setting.sha256 token)).isSome = true at hfound
        rw [hnone] at hfound
        cases hfound
      · intro _
        refine ⟨guarantee_of_writing rfl fun _ _ h => h,
          guarantee_of_writing rfl fun _ _ h => h, rfl, ?_⟩
        apply hcalm.inv.ended hdistinct hevent
        · intro key hkey
          change ((world.revoked.save _ .torn).save _ _).load key = _
          rw [load_twice, if_neg hkey]
        · refine .inl ⟨⟨setting.sha256 token, revokedAt⟩, ?_, rfl, ?_⟩
          · change ((world.revoked.save _ .torn).save _ _).load _ = _
            rw [load_twice, if_pos rfl]
          · rw [hfile]
            rfl
    · rw [herror] at hload
      cases hload
  · intro e hload
    rcases hcalm.inv.readSession_cases (setting.sha256 token) with
      ⟨found, -, -, hok⟩ | ⟨hmarker, message, herror⟩
    · rw [hok] at hload
      cases hload
    · rw [herror] at hload
      cases hload
      have hclass : (Error.session message).errorClass = .invalidSession := rfl
      rw [if_pos hclass]
      exact ⟨rfl, hcalm.inv.ended hdistinct hevent (fun _ _ => rfl) hmarker⟩

theorem tokenDigest_ok_iff {token digest : String} : tokenDigest setting token = .ok digest ↔
    isToken setting token = true ∧ setting.sha256 token = digest := by
  unfold tokenDigest
  by_cases h : isToken setting token = true
  · rw [if_pos h, Checks.pure_ok_iff]
    exact ⟨fun hsame => ⟨h, hsame⟩, fun hboth => hboth.2⟩
  · rw [if_neg h]
    constructor
    · intro hok
      cases hok
    · exact fun hboth => absurd hboth.1 h

/-- Logging out ends the token, and raises only for what has not the form of one. -/
theorem obeys_logout {token : String} (hcalm : Calm setting world)
    (hdistinct : Distinct setting) :
    Obeys (Guarantee setting) (logout setting token) world
      (fun _ after => isToken setting token = true ∧ Inv setting
        { after with log := .loggedOut token :: after.log, writing := false })
      (fun _ _ => isToken setting token ≠ true) := by
  unfold logout
  rw [obeys_bind, obeys_ofExcept]
  constructor
  · intro digest hdigest
    obtain ⟨htoken, rfl⟩ := tokenDigest_ok_iff.mp hdigest
    rw [obeys_bind]
    apply obeys_now hcalm
    exact (obeys_revoke (hcalm.tick _) hdistinct (.inl rfl)).mono
      (fun _ _ h => ⟨htoken, h.2⟩) fun _ _ h => h
  · intro e herror htoken
    rw [tokenDigest_ok_iff.mpr ⟨htoken, rfl⟩] at herror
    cases herror

/-! ## Authenticating -/

theorem Inv.standing_of_marker (hinv : Inv setting world) (hdistinct : Distinct setting)
    {token : String}
    (hmarker : (∃ marker, world.revoked.load (setting.sha256 token) = some (.whole marker) ∧
        marker.tokenDigest = setting.sha256 token ∧
        (world.sessions.load (setting.sha256 token)).isSome = true) ∨
      (world.revoked.load (setting.sha256 token) = none ∧
        world.sessions.load (setting.sha256 token) = none)) :
    standing token world.log = none := by
  rcases hmarker with ⟨marker, hload, -, hsession⟩ | ⟨-, hnone⟩
  · obtain ⟨file, hfile⟩ := Option.isSome_iff_exists.mp hsession
    obtain ⟨session, -, k, -, -, hkey, -, hstanding⟩ := hinv.sessions _ file hfile
    rw [hdistinct.sha256 hkey, hstanding, hload]
    rfl
  · by_contra hstanding
    obtain ⟨entry, hentry⟩ := Option.ne_none_iff_exists'.mp hstanding
    have hsession := (hinv.known token entry hentry).2
    rw [hnone] at hsession
    cases hsession

theorem Inv.standing_of_session (hinv : Inv setting world) (hdistinct : Distinct setting)
    {token : String} {session : CustomerSession}
    (hsession : world.sessions.load (setting.sha256 token) = some (.whole session))
    (hmarker : world.revoked.load (setting.sha256 token) = none) :
    standing token world.log = some (session.customerId, session.expiresAt) := by
  obtain ⟨found, hwhole, k, -, -, hkey, -, hstanding⟩ := hinv.sessions _ _ hsession
  cases hwhole
  rw [hdistinct.sha256 hkey, hstanding, hmarker]
  rfl

theorem obeys_authenticate {token : String} (hcalm : Calm setting world)
    (hdistinct : Distinct setting) :
    Obeys (Guarantee setting) (authenticate setting token) world
      (fun session _ => standing token world.log = some (session.customerId, session.expiresAt) ∧
        setting.clock world.ticks < session.expiresAt)
      (fun _ _ => ∀ customerId expiresAt, standing token world.log = some (customerId, expiresAt) →
        expiresAt ≤ setting.clock world.ticks) := by
  unfold authenticate
  rw [obeys_bind, obeys_ofExcept]
  constructor
  · intro digest hdigest
    obtain ⟨-, rfl⟩ := tokenDigest_ok_iff.mp hdigest
    unfold Sessions.load
    rw [obeys_bind]
    apply obeys_query hcalm
    · intro session hload
      rcases hcalm.inv.readSession_cases (setting.sha256 token) with
        ⟨found, hfile, hnone, hok⟩ | ⟨-, message, herror⟩
      · rw [hok] at hload
        cases hload
        have hstanding := hcalm.inv.standing_of_session hdistinct hfile hnone
        rw [obeys_bind]
        apply obeys_now hcalm
        rw [obeys_ite]
        constructor
        · intro hexpired
          rw [obeys_bind]
          apply obeys_now (hcalm.tick _)
          rw [obeys_bind]
          apply (obeys_revoke ((hcalm.tick _).tick _) hdistinct (.inr rfl)).mono
          · rintro _ after ⟨-, hinv⟩
            rw [obeys_bind]
            apply obeys_note hinv
            intro _ customerId expiresAt hother
            rw [hstanding] at hother
            cases hother
            exact hexpired
          · exact fun _ _ h => h
        · exact fun hvalid => ⟨hstanding, lt_of_not_ge hvalid⟩
      · rw [herror] at hload
        cases hload
    · intro e hload customerId expiresAt hstanding
      rcases hcalm.inv.readSession_cases (setting.sha256 token) with
        ⟨found, -, -, hok⟩ | ⟨hmarker, -⟩
      · rw [hok] at hload
        cases hload
      · rw [hcalm.inv.standing_of_marker hdistinct hmarker] at hstanding
        cases hstanding
  · intro e herror customerId expiresAt hstanding
    have htoken := (hcalm.inv.known token _ hstanding).1
    rw [tokenDigest_ok_iff.mpr ⟨htoken, rfl⟩] at herror
    cases herror

/-! ## Accounts -/

theorem check_ok {account : CustomerAccount} (h : account.check setting = .ok ()) :
    isIdentifier account.customerId = true ∧
      normalizeEmail setting account.email = .ok account.email := by
  unfold CustomerAccount.check at h
  simp only [Checks.guard_bind_ok_iff, Checks.bind_ok_iff, Checks.guard_ok_iff] at h
  obtain ⟨hid, canonical, hcanonical, hsame, -⟩ := h
  refine ⟨by simpa using hid, ?_⟩
  rw [hcanonical, not_not.mp hsame]

theorem check_of (account : CustomerAccount) (hid : isIdentifier account.customerId = true)
    (hemail : normalizeEmail setting account.email = .ok account.email) :
    account.check setting = .ok () := by
  unfold CustomerAccount.check
  simp only [hid, Bool.true_eq_false, if_false]
  rw [hemail]
  exact if_neg (not_not.mpr rfl)

theorem accountKey_ok_iff {email canonical : String}
    (hcanonical : normalizeEmail setting email = .ok canonical) {key : String} :
    accountKey setting email = .ok key ↔ setting.sha256 canonical = key := by
  unfold accountKey
  rw [hcanonical, Checks.bind_ok_iff]
  constructor
  · rintro ⟨found, hfound, hkey⟩
    cases hfound
    exact Checks.pure_ok_iff.mp hkey
  · exact fun hkey => ⟨canonical, rfl, Checks.pure_ok_iff.mpr hkey⟩

theorem obeys_loadAccount {email : String} (hcalm : Calm setting world)
    (hdistinct : Distinct setting) :
    Obeys (Guarantee setting) (loadAccount setting email) world
      (fun account after => after = world ∧
        (∃ key, world.accounts.load key = some (.whole account)) ∧
        ∀ canonical, normalizeEmail setting email = .ok canonical →
          normalizeEmail setting canonical = .ok canonical →
            world.accounts.load (setting.sha256 canonical) = some (.whole account))
      (fun _ after => after = world ∧ ∀ canonical, normalizeEmail setting email = .ok canonical →
        normalizeEmail setting canonical = .ok canonical →
          world.accounts.load (setting.sha256 canonical) = none) := by
  unfold loadAccount
  rw [obeys_bind, obeys_ofExcept]
  constructor
  · intro canonical hcanonical
    rw [obeys_bind, obeys_ofExcept]
    constructor
    · intro key hkey
      apply obeys_query hcalm
      · intro account hread
        have hload : world.accounts.load key = some (.whole account) := by
          cases hfile : world.accounts.load key with
          | none =>
              rw [hfile] at hread
              cases hread
          | some file =>
              obtain ⟨found, rfl, -⟩ := hcalm.inv.accounts key file hfile
              rw [hfile] at hread
              simp only [readAccount, Checks.guard_ok_iff, Checks.pure_ok_iff] at hread
              rw [hread.2]
        refine ⟨rfl, ⟨key, hload⟩, ?_⟩
        intro other hother hidempotent
        rw [hcanonical] at hother
        cases hother
        rw [(accountKey_ok_iff hidempotent).mp hkey]
        exact hload
      · intro e hread
        refine ⟨rfl, ?_⟩
        intro other hother hidempotent
        rw [hcanonical] at hother
        cases hother
        have hsame := (accountKey_ok_iff hidempotent).mp hkey
        rw [hsame]
        by_contra hfound
        obtain ⟨file, hfile⟩ := Option.ne_none_iff_exists'.mp hfound
        obtain ⟨account, rfl, hregistered, -⟩ := hcalm.inv.accounts key file hfile
        have hemail := hdistinct.sha256 (hsame.trans hregistered)
        rw [hfile] at hread
        simp only [readAccount, ← hemail, ne_eq, not_true_eq_false, if_false] at hread
        cases hread
    · intro e herror
      refine ⟨rfl, ?_⟩
      intro other hother hidempotent
      rw [hcanonical] at hother
      cases hother
      rw [(accountKey_ok_iff hidempotent).mpr rfl] at herror
      cases herror
  · intro e herror
    refine ⟨rfl, ?_⟩
    intro canonical hcanonical
    rw [hcanonical] at herror
    cases herror

theorem Inv.register (hinv : Inv setting world) {account : CustomerAccount}
    (hregistered : Registered setting world (setting.sha256 account.email) account) :
    Inv setting
      { world with
        accounts := (world.accounts.save (setting.sha256 account.email) .torn).save
          (setting.sha256 account.email) (.whole account)
        writing := false } := by
  refine ⟨?_, hinv.sessions, hinv.markers, hinv.known⟩
  intro key file hfile
  change ((world.accounts.save _ .torn).save _ _).load key = some file at hfile
  rw [load_twice] at hfile
  by_cases hkey : key = setting.sha256 account.email
  · rw [if_pos hkey] at hfile
    cases hfile
    exact ⟨account, rfl, hkey ▸ hregistered⟩
  · rw [if_neg hkey] at hfile
    exact hinv.accounts key file hfile

theorem obeys_createAccount {account : CustomerAccount} (hcalm : Calm setting world)
    (hdistinct : Distinct setting)
    (hregistered : Registered setting world (setting.sha256 account.email) account) :
    Obeys (Guarantee setting) (createAccount setting account) world
      (fun _ after => Calm setting after ∧ after.drawn = world.drawn)
      (fun _ _ => world.accounts.load (setting.sha256 account.email) ≠ none) := by
  have hcanonical := (check_ok hregistered.2.1).2
  unfold createAccount
  rw [obeys_bind, obeys_ofExcept]
  constructor
  · intro key hkey
    obtain rfl := (accountKey_ok_iff hcanonical).mp hkey
    rw [obeys_bind]
    apply Place.obeys_exclusiveWrite
    · intro hfound
      have hexists : world.accounts.load (setting.sha256 account.email) ≠ none := by
        intro hnone
        change (world.accounts.load _).isSome = true at hfound
        rw [hnone] at hfound
        cases hfound
      refine ⟨hcalm.guarantee _ (KeepsAccounts.refl _), ?_⟩
      rw [obeys_ite]
      refine ⟨fun hfalse => absurd hfalse (by decide), fun _ => ?_⟩
      rw [obeys_bind]
      apply (obeys_loadAccount hcalm hdistinct).mono
      · rintro existing after ⟨rfl, -, -⟩
        rw [obeys_ite]
        exact ⟨fun _ => ⟨hcalm, rfl⟩, fun _ => hexists⟩
      · exact fun _ _ _ => hexists
    · intro hnone
      have hinv := hcalm.inv.register hregistered
      refine ⟨guarantee_of_writing rfl ?_, ⟨fun _ => hinv, ?_⟩, ?_⟩
      · intro other found hother
        change (world.accounts.save _ .torn).load other = _
        by_cases hsame : other = setting.sha256 account.email
        · subst hsame
          change world.accounts.load _ = none at hnone
          rw [hnone] at hother
          cases hother
        · rw [Table.load_save_of_ne hsame]
          exact hother
      · intro other found hother
        change (world.accounts.save _ .torn).load other = _ at hother
        change ((world.accounts.save _ .torn).save _ _).load other = _
        by_cases hsame : other = setting.sha256 account.email
        · subst hsame
          rw [Table.load_save_self] at hother
          cases hother
        · rw [Table.load_save_of_ne hsame]
          exact hother
      · rw [obeys_ite]
        exact ⟨fun _ => ⟨⟨hinv, rfl⟩, rfl⟩, fun hnot => absurd rfl hnot⟩
  · intro e herror
    rw [(accountKey_ok_iff hcanonical).mpr rfl] at herror
    cases herror

/-! ## Calls -/

theorem obeys_noteIssued {issued : IssuedCustomerSession} {Q : Answer → World → Prop}
    {E : Error → World → Prop}
    (hinv : Inv setting { world with
      log := .issued issued.token issued.session.customerId issued.session.expiresAt :: world.log
      writing := false })
    (hQ : ∀ after, Q (.issued issued) after) :
    Obeys (Guarantee setting) (noteIssued issued) world Q E := by
  unfold noteIssued
  rw [obeys_bind]
  exact obeys_note hinv fun _ => hQ _

/-- Registering an address leads to a session, unless something is wrong with the values or
the address is taken. -/
theorem obeys_register {email password : String} {salt : List UInt8}
    (hcalm : Calm setting world) (hdistinct : Distinct setting) :
    Obeys (Guarantee setting) ((Call.register email password salt).perform setting) world
      (fun _ _ => True)
      (fun _ _ => ¬(Usable setting world.drawn 3 ∧ normalizeEmail setting email = .ok email ∧
        passwordPolicy setting password = .ok () ∧ salt.length = 16 ∧
        world.accounts.load (setting.sha256 email) = none)) := by
  have hnoted : Inv setting
      { world with log := .registering email password :: world.log, writing := false } := by
    refine ⟨?_, hcalm.inv.sessions, hcalm.inv.markers, hcalm.inv.known⟩
    intro key file hfile
    obtain ⟨account, hwhole, hkey, hcheck, given, found, hasked, hrest⟩ :=
      hcalm.inv.accounts key file hfile
    exact ⟨account, hwhole, hkey, hcheck, given, found, List.mem_cons_of_mem _ hasked, hrest⟩
  unfold Call.perform
  rw [obeys_bind]
  apply obeys_note hnoted
  intro hstart
  rw [obeys_bind]
  unfold register
  rw [obeys_bind, obeys_ofExcept]
  constructor
  · intro canonical hcanonical
    rw [obeys_bind, obeys_ofExcept]
    constructor
    · intro _ _
      rw [obeys_ite]
      constructor
      · exact fun hlength hgood => hlength hgood.2.2.2.1
      intro _
      rw [obeys_bind]
      apply obeys_draw hstart
      rw [obeys_bind]
      apply obeys_now hstart.drew
      dsimp only
      rw [obeys_bind, obeys_ofExcept]
      constructor
      · intro _ hcheck
        rw [obeys_bind]
        apply (obeys_createAccount ((hstart.drew).tick _) hdistinct
          ⟨rfl, hcheck, email, password, List.mem_cons_self, hcanonical, rfl⟩).mono
        · rintro _ after ⟨hafter, hdrawn⟩
          change after.drawn = world.drawn + 1 at hdrawn
          apply (obeys_issue hafter hdistinct).mono
          · rintro issued after ⟨-, hinv⟩
            exact obeys_noteIssued hinv fun _ => trivial
          · intro _ _ hnot hgood
            refine hnot ⟨?_, (check_ok hcheck).1⟩
            rw [hdrawn]
            exact fun k hfirst hlast => hgood.1 k (by omega) (by omega)
        · rintro _ _ hexists ⟨-, hemail, -, -, hnone⟩
          rw [hemail] at hcanonical
          cases hcanonical
          exact hexists hnone
      · rintro e herror ⟨husable, hemail, -⟩
        rw [hemail] at hcanonical
        cases hcanonical
        have hok := check_of (newAccount setting email password salt
          (setting.tokenFactory world.drawn) (setting.clock world.ticks))
          (husable world.drawn (by omega) (by omega)).2.2 hemail
        exact absurd (hok.symm.trans herror) (by simp)
    · rintro e herror ⟨-, -, hpolicy, -⟩
      rw [hpolicy] at herror
      cases herror
  · rintro e herror ⟨-, hemail, -⟩
    rw [hemail] at herror
    cases herror

/-- Logging in leads to a session of the account, unless there is none with these
credentials. -/
theorem obeys_login {email password : String} (hcalm : Calm setting world)
    (hdistinct : Distinct setting) :
    Obeys (Guarantee setting) ((Call.login email password).perform setting) world
      (fun answer _ => ∃ issued, answer = .issued issued ∧
        ∀ account, normalizeEmail setting email = .ok email →
          world.accounts.load (setting.sha256 email) = some (.whole account) →
            issued.session.customerId = account.customerId)
      (fun _ _ => ¬∃ account, Usable setting world.drawn 2 ∧ normalizeEmail setting email = .ok email ∧
        world.accounts.load (setting.sha256 email) = some (.whole account) ∧
        account.passwordDigest = setting.scrypt password account.passwordSalt) := by
  unfold Call.perform
  rw [obeys_bind]
  unfold login
  rw [obeys_bind, obeys_handle, obeys_bind, obeys_ofExcept]
  constructor
  · intro canonical hcanonical
    apply (obeys_loadAccount hcalm hdistinct).mono
    · rintro account after ⟨rfl, ⟨key, hfile⟩, hloaded⟩
      dsimp only
      rw [obeys_ite]
      constructor
      · rintro hwrong ⟨found, -, hemail, hfound, hdigest⟩
        rw [hemail] at hcanonical
        cases hcanonical
        rw [hloaded email hemail hemail] at hfound
        cases hfound
        exact hwrong hdigest.symm
      intro _
      apply (obeys_issue hcalm hdistinct).mono
      · rintro issued after ⟨hcustomer, hinv⟩
        apply obeys_noteIssued hinv
        intro _
        refine ⟨issued, rfl, ?_⟩
        intro found hemail hfound
        rw [hemail] at hcanonical
        cases hcanonical
        rw [hloaded email hemail hemail] at hfound
        cases hfound
        exact hcustomer
      · rintro _ _ hnot ⟨found, husable, -⟩
        obtain ⟨registered, hwhole, hkey, hcheck, -⟩ := hcalm.inv.accounts key _ hfile
        cases hwhole
        exact hnot ⟨husable, (check_ok hcheck).1⟩
    · rintro _ after ⟨rfl, hnone⟩ ⟨account, -, hemail, hfile, -⟩
      rw [hemail] at hcanonical
      cases hcanonical
      rw [hnone email hemail hemail] at hfile
      cases hfile
  · rintro e herror ⟨account, -, hemail, -⟩
    rw [hemail] at herror
    cases herror

/-- A call of the service keeps its guarantee. -/
theorem obeys_perform {call : Call} (hcalm : Calm setting world) (hdistinct : Distinct setting) :
    Obeys (Guarantee setting) (call.perform setting) world (fun _ _ => True)
      (fun _ _ => True) := by
  cases call with
  | register email password salt =>
    exact (obeys_register hcalm hdistinct).mono (fun _ _ _ => trivial) fun _ _ _ => trivial
  | login email password =>
    exact (obeys_login hcalm hdistinct).mono (fun _ _ _ => trivial) fun _ _ _ => trivial
  | authenticate token =>
    unfold Call.perform
    rw [obeys_bind]
    exact (obeys_authenticate hcalm hdistinct).mono (fun _ _ _ => trivial) fun _ _ _ => trivial
  | logout token =>
    unfold Call.perform
    rw [obeys_bind]
    apply (obeys_logout hcalm hdistinct).mono
    · rintro _ after ⟨-, hinv⟩
      rw [obeys_bind]
      exact obeys_note hinv fun _ => trivial
    · exact fun _ _ _ => trivial

/-! ## What the invariant says about calls -/

theorem Calm.tokensBind (hcalm : Calm setting world) (hdistinct : Distinct setting) :
    TokensBind setting world := by
  have hobeys : ∀ token, Obeys (Guarantee setting) ((Call.authenticate token).perform setting)
      world
      (fun answer _ => ∃ session, answer = .session session ∧
        standing token world.log = some (session.customerId, session.expiresAt) ∧
        setting.clock world.ticks < session.expiresAt)
      (fun _ _ => ∀ customerId expiresAt, standing token world.log = some (customerId, expiresAt) →
        expiresAt ≤ setting.clock world.ticks) := by
    intro token
    unfold Call.perform
    rw [obeys_bind]
    exact (obeys_authenticate hcalm hdistinct).mono
      (fun session _ h => ⟨session, rfl, h⟩) fun _ _ h => h
  intro token customerId
  obtain ⟨hok, herror⟩ := (hobeys token).run
  constructor
  · rintro ⟨session, after, hrun, rfl⟩
    obtain ⟨found, hfound, hstanding, hvalid⟩ := hok _ _ hrun
    cases hfound
    exact ⟨session.expiresAt, hstanding, hvalid⟩
  · rintro ⟨expiresAt, hstanding, hvalid⟩
    cases hrun : ((Call.authenticate token).perform setting).run world with
    | mk result after =>
        cases result with
        | ok answer =>
            obtain ⟨session, rfl, hfound, -⟩ := hok _ _ hrun
            rw [hstanding] at hfound
            cases hfound
            exact ⟨session, after, rfl, rfl⟩
        | error e => exact absurd hvalid (not_lt.mpr (herror _ _ hrun _ _ hstanding))

theorem Calm.logoutReturns (hcalm : Calm setting world) (hdistinct : Distinct setting) :
    LogoutReturns setting world := by
  have hobeys : ∀ token, Obeys (Guarantee setting) ((Call.logout token).perform setting) world
      (fun _ _ => isToken setting token = true) (fun _ _ => isToken setting token ≠ true) := by
    intro token
    unfold Call.perform
    rw [obeys_bind]
    apply (obeys_logout hcalm hdistinct).mono
    · rintro _ after ⟨htoken, hinv⟩
      rw [obeys_bind]
      exact obeys_note hinv fun _ => htoken
    · exact fun _ _ h => h
  intro token
  obtain ⟨hok, herror⟩ := (hobeys token).run
  constructor
  · rintro ⟨answer, after, hrun⟩
    exact hok _ _ hrun
  · intro htoken
    cases hrun : ((Call.logout token).perform setting).run world with
    | mk result after =>
        cases result with
        | ok answer => exact ⟨answer, after, rfl⟩
        | error e => exact absurd htoken (herror _ _ hrun)

theorem Calm.addressesUsable (hcalm : Calm setting world) (hdistinct : Distinct setting)
    (husable : Usable setting world.drawn 3) : AddressesUsable setting world := by
  intro email hemail
  cases hfile : world.accounts.load (setting.sha256 email) with
  | none =>
    refine .inl fun password salt hpolicy hsalt => ?_
    have hregister : Obeys (Guarantee setting)
        ((Call.register email password salt).perform setting) world (fun _ _ => True)
        fun _ _ => False :=
      (obeys_register hcalm hdistinct).mono (fun _ _ h => h)
        fun _ _ hnot => hnot ⟨husable, hemail, hpolicy, hsalt, hfile⟩
    obtain ⟨answer, after, hrun, -⟩ := hregister.returns
    exact ⟨answer, after, hrun⟩
  | some file =>
    obtain ⟨account, rfl, hkey, -, given, password, hasked, hgiven, hdigest⟩ :=
      hcalm.inv.accounts _ file hfile
    have hsame := hdistinct.sha256 hkey
    refine .inr ⟨given, password, account, hasked, hsame ▸ hgiven, rfl, ?_⟩
    have hlogin : Obeys (Guarantee setting) ((Call.login email password).perform setting) world
        (fun answer _ => ∃ issued, answer = .issued issued ∧
          issued.session.customerId = account.customerId) fun _ _ => False := by
      apply (obeys_login hcalm hdistinct).mono
      · rintro answer _ ⟨issued, hanswer, hcustomer⟩
        exact ⟨issued, hanswer, hcustomer account hemail hfile⟩
      · intro _ _ hnot
        exact hnot ⟨account, fun k hfirst hlast => husable k hfirst (by omega), hemail, hfile,
          hdigest⟩
    obtain ⟨answer, after, hrun, issued, rfl, hcustomer⟩ := hlogin.returns
    exact ⟨issued, after, hrun, hcustomer⟩

/-! ## Runs -/

/-- A call that may be cut short keeps the accounts, and once nothing is being written it
keeps the invariant. -/
theorem Calm.step (hcalm : Calm setting world) (hdistinct : Distinct setting)
    (call : Call × Nat) :
    ((step setting world call).writing = false → Inv setting (step setting world call)) ∧
      KeepsAccounts world (step setting world call) := by
  apply (obeys_perform hcalm hdistinct).left
    (P := fun after => (after.writing = false → Inv setting after) ∧ KeepsAccounts world after)
  · exact ⟨fun _ => hcalm.inv, KeepsAccounts.refl _⟩
  · intro before after hbefore hstep
    refine ⟨hstep.1, ?_⟩
    intro key account h
    exact hstep.2 key account (hbefore.2 key account h)

/-- In a run in which no process dies while it writes a file, tokens and accounts are good for
what they were issued for, and accounts stay. -/
theorem customer_authority (setting : Setting) (hdistinct : Distinct setting)
    (calls : List (Call × Nat))
    (hunbroken : AllMeet (step setting) (Unbroken setting) .initial calls) :
    Forward (step setting) KeepsAccounts .initial calls ∧
      ∀ world ∈ calls.scanl (step setting) .initial,
        TokensBind setting world ∧ LogoutReturns setting world ∧
          (Usable setting world.drawn 3 → AddressesUsable setting world) := by
  have hinitial : Calm setting .initial := by
    refine ⟨⟨?_, ?_, ?_, ?_⟩, rfl⟩
    · intro key file hfile
      cases hfile
    · intro key file hfile
      cases hfile
    · intro key file hfile
      cases hfile
    · intro token entry hentry
      cases hentry
  have hnext : ∀ world call, Calm setting world → Unbroken setting world call →
      Calm setting (step setting world call) :=
    fun world call hcalm hmeets => ⟨(hcalm.step hdistinct call).1 hmeets, hmeets⟩
  constructor
  · exact forward_of_allMeet (Calm setting)
      (fun world call hcalm _ => (hcalm.step hdistinct call).2) hnext calls .initial hinitial
      hunbroken
  · intro world hworld
    have hcalm := inv_of_allMeet (Calm setting) hnext calls .initial hinitial hunbroken world
      hworld
    exact ⟨hcalm.tokensBind hdistinct, hcalm.logoutReturns hdistinct,
      hcalm.addressesUsable hdistinct⟩

/-! ## A registration -/

/-- A service whose hash functions give back what they get, and whose tokens have different
lengths. -/
def plainSetting : Setting where
  casefold := id
  lower := id
  isAlnum := Char.isAlphanum
  isLower := Char.isLower
  isUpper := Char.isUpper
  isDigit := Char.isDigit
  sha256 := id
  scrypt := fun password _ => password
  clock := fun _ => 0
  tokenFactory := fun k => String.ofList (List.replicate (32 + k) 'a')

theorem distinct_plainSetting : Distinct plainSetting := by
  refine ⟨fun _ _ h => h, ?_⟩
  intro k l h
  have hlength := congrArg String.length h
  simp only [plainSetting, String.length_ofList, List.length_replicate] at hlength
  omega

def registration : Call :=
  .register "a@b.co" "Password1234" (List.replicate 16 0)

theorem customer_authority_registered :
    Forward (step plainSetting) KeepsAccounts .initial
        [(registration, 100), (.logout "x", 100)] ∧
      ∀ world ∈ [(registration, 100), (.logout "x", 100)].scanl (step plainSetting) .initial,
        TokensBind plainSetting world ∧ LogoutReturns plainSetting world ∧
          (Usable plainSetting world.drawn 3 → AddressesUsable plainSetting world) :=
  customer_authority plainSetting distinct_plainSetting [(registration, 100), (.logout "x", 100)]
    ⟨rfl, rfl, trivial⟩

/-- A registration that dies once the file of the account is created, before its content is
written. -/
theorem not_customer_authority :
    ¬∀ setting, Distinct setting → ∀ calls : List (Call × Nat),
      Forward (step setting) KeepsAccounts .initial calls ∧
        ∀ world ∈ calls.scanl (step setting) .initial,
          TokensBind setting world ∧ LogoutReturns setting world ∧
            (Usable setting world.drawn 3 → AddressesUsable setting world) := by
  intro h
  have husable : Usable plainSetting 1 3 := by
    intro k hfirst hlast
    have hcases : k = 1 ∨ k = 2 ∨ k = 3 := by omega
    rcases hcases with rfl | rfl | rfl
    · decide
    · decide
    · decide
  obtain ⟨-, -, haddresses⟩ := (h plainSetting distinct_plainSetting [(registration, 4)]).2 _
    (foldl_mem_scanl _ _ _)
  rcases haddresses husable "a@b.co" rfl with hfree | ⟨given, password, account, -, -, hfile, -⟩
  · obtain ⟨answer, after, hrun⟩ := hfree "Password1234" (List.replicate 16 0) rfl rfl
    have hraised : ((registration.perform plainSetting).run
        (step plainSetting .initial (registration, 4))).1 =
          .error (.corrupt "Authentication authority is corrupt") := rfl
    have hreturned : ((registration.perform plainSetting).run
        (step plainSetting .initial (registration, 4))).1 = .ok answer := congrArg Prod.fst hrun
    rw [hreturned] at hraised
    cases hraised
  · have htorn : (step plainSetting .initial (registration, 4)).accounts.load "a@b.co" =
        some .torn := rfl
    have hwhole : (step plainSetting .initial (registration, 4)).accounts.load "a@b.co" =
        some (.whole account) := hfile
    rw [htorn] at hwhole
    cases hwhole

end Authentication
end Ascos
