import Ascos.GitHubDelivery.Model
import Ascos.Library.Lineage
import Ascos.Library.Table
import Mathlib

/-!
# The PostgreSQL runtime repository

`PostgreSQLRuntimeRepository` of `runtime/persistence/postgresql/runtime_repository.py` over
the tables of `migrations.py`.  Transactions of any number of connections take their
statements in any order.  A transaction shows its rows when it commits; it keeps the row of its
runtime locked, and an insertion waits for a transaction that has inserted the same key.

Main results:

- Theorem `commits_serial_iff`: in every run each runtime is serial and a commit that fails
  changes nothing; what a statement does depends on the rows of its own runtime alone exactly
  when no inserted event has an identifier that another runtime has stored.
-/

namespace Ascos
namespace Persistence
namespace Postgres

open Ascos.GitHubDelivery (isIdentifier)
open Ascos.Library

variable {Json Time : Type}

/-! ## Tables -/

/-- `PostgreSQLRuntimeState`, a row of `runtime_instances`. -/
structure PostgreSQLRuntimeState (Json Time : Type) where
  runtimeId : String
  stateVersion : Int
  checkpoint : Json
  updatedAt : Time
deriving DecidableEq

/-- `PostgreSQLRuntimeEventInput`; a time without a timezone is none. -/
structure PostgreSQLRuntimeEventInput (Json Time : Type) where
  eventId : String
  aggregateId : String
  aggregateSequence : Int
  payload : Json
  createdAt : Option Time
deriving DecidableEq

/-- `PostgreSQLRuntimeEventRecord`, a row of `runtime_events`. -/
structure PostgreSQLRuntimeEventRecord (Json Time : Type) extends
    PostgreSQLRuntimeEventInput Json Time where
  runtimeId : String
  globalPosition : Nat
deriving DecidableEq

/-- The two uniqueness constraints of `runtime_events`, the second one within a runtime. -/
def clashes (rows : List (PostgreSQLRuntimeEventRecord Json Time))
    (row : PostgreSQLRuntimeEventRecord Json Time) : Bool :=
  rows.any fun other => decide (other.eventId = row.eventId ∨
    other.runtimeId = row.runtimeId ∧ other.aggregateId = row.aggregateId ∧
      other.aggregateSequence = row.aggregateSequence)

/-! ## Calls -/

/-- A call that writes; the time is the reading of its clock. -/
inductive Call (Json Time : Type) where
  | initializeRuntime (runtimeId : String) (checkpoint : Json) (now : Time)
  | commit (runtimeId : String) (expectedVersion : Int) (checkpoint : Json)
      (events : List (PostgreSQLRuntimeEventInput Json Time)) (now : Time)

def Call.runtimeId : Call Json Time → String
  | .initializeRuntime runtimeId .. => runtimeId
  | .commit runtimeId .. => runtimeId

def validateEvent (event : PostgreSQLRuntimeEventInput Json Time) : Bool :=
  isIdentifier event.eventId && isIdentifier event.aggregateId &&
    decide (0 ≤ event.aggregateSequence) && event.createdAt.isSome

/-- The checks before a connection is opened. -/
def Call.valid : Call Json Time → Bool
  | .initializeRuntime runtimeId _ _ => isIdentifier runtimeId
  | .commit runtimeId expectedVersion _ events _ =>
      isIdentifier runtimeId && decide (0 ≤ expectedVersion) && events.all validateEvent

/-- How a call ends. -/
inductive Outcome (Json Time : Type) where
  | committed (version : Int)
  | state (row : PostgreSQLRuntimeState Json Time)
  | versionConflict
  | uniqueViolation
  | dataError
  | aborted

/-! ## Transactions -/

/-- What a transaction has written: the row of its runtime and its events, with the events that
are left and the position that was drawn for the next one. -/
structure Held (Json Time : Type) where
  row : PostgreSQLRuntimeState Json Time
  rows : List (PostgreSQLRuntimeEventRecord Json Time)
  rest : List (PostgreSQLRuntimeEventInput Json Time)
  drawn : Option Nat

/-- An open transaction; before its first statement it holds nothing. -/
structure Session (Json Time : Type) where
  call : Call Json Time
  held : Option (Held Json Time)

structure Committed (Json Time : Type) where
  runtimeId : String
  version : Int
  checkpoint : Json
  events : List (PostgreSQLRuntimeEventInput Json Time)

/-- The committed tables, the sequence of positions, the open transactions by their connections,
and the outcomes and successful commits so far. -/
structure World (Json Time : Type) where
  instances : Table String (PostgreSQLRuntimeState Json Time) := []
  events : List (PostgreSQLRuntimeEventRecord Json Time) := []
  nextval : Nat := 1
  sessions : Table Nat (Session Json Time) := []
  outcomes : List (Nat × Outcome Json Time) := []
  log : List (Committed Json Time) := []

/-- The events of a runtime in the order of their commits. -/
def World.own (w : World Json Time) (runtimeId : String) :
    List (PostgreSQLRuntimeEventRecord Json Time) :=
  w.events.filter (·.runtimeId = runtimeId)

def World.listEvents (w : World Json Time) (runtimeId : String) :
    List (PostgreSQLRuntimeEventRecord Json Time) :=
  (w.own runtimeId).mergeSort fun a b => decide (a.globalPosition ≤ b.globalPosition)

def Session.runtimeId (session : Session Json Time) : String :=
  session.call.runtimeId

/-- The row that a transaction is about to put into the table of events. -/
def Session.inserting (session : Session Json Time) :
    Option (PostgreSQLRuntimeEventRecord Json Time) := do
  let held ← session.held
  let event ← held.rest.head?
  let position ← held.drawn
  pure { event with runtimeId := session.runtimeId, globalPosition := position }

/-- The events that a transaction has inserted. -/
def Session.rows (session : Session Json Time) : List (PostgreSQLRuntimeEventRecord Json Time) :=
  (session.held.map (·.rows)).getD []

section Steps

variable (accepts : Json → Bool)

/-- Whether PostgreSQL takes the values of an event. -/
def insertable (event : PostgreSQLRuntimeEventInput Json Time) : Bool :=
  accepts event.payload && decide (event.aggregateSequence < 2 ^ 63)

/-- How the next statement of a transaction ends the call, given the committed row of its runtime
and the committed events. -/
def Session.verdict (session : Session Json Time)
    (found : Option (PostgreSQLRuntimeState Json Time))
    (events : List (PostgreSQLRuntimeEventRecord Json Time)) : Option (Outcome Json Time) :=
  match session.held with
  | none =>
    match session.call, found with
    | .initializeRuntime _ checkpoint _, found =>
        if accepts checkpoint then found.map .state else some .dataError
    | .commit _ expectedVersion checkpoint _ _, some row =>
        if accepts checkpoint then
          if row.stateVersion = expectedVersion then none else some .versionConflict
        else some .dataError
    | .commit _ _ checkpoint _ _, none =>
        if accepts checkpoint then some .versionConflict else some .dataError
  | some held =>
    match session.inserting with
    | some row => if clashes (events ++ held.rows) row then some .uniqueViolation else none
    | none => if held.rest.head?.all (insertable accepts) then none else some .dataError

/-- Whether the next statement waits for the transaction of another connection: for the row of its
runtime, or because that one has inserted the same key. -/
def World.blocks (w : World Json Time) (connection : Nat) (session : Session Json Time)
    (other : Nat) : Bool :=
  decide (other ≠ connection) && (w.sessions.load other).any fun holder =>
    match session.held with
    | none => holder.held.isSome && decide (holder.runtimeId = session.runtimeId)
    | some _ => session.inserting.any (clashes holder.rows)

/-- Whether the next statement waits. -/
def World.waits (w : World Json Time) (connection : Nat) (session : Session Json Time) : Bool :=
  w.sessions.any fun entry => w.blocks connection session entry.1

/-- Whether each connection on the way waits for the next one, and the last one for the first. -/
def World.deadlocked (w : World Json Time) (connection : Nat) (way : List Nat) : Bool :=
  decide ((connection :: (way ++ [connection])).IsChain fun i j =>
    (w.sessions.load i).any (w.blocks i · j) = true)

/-- The end of a transaction that leaves the tables as they are. -/
def World.close (w : World Json Time) (connection : Nat) (outcome : Outcome Json Time) :
    World Json Time :=
  { w with
    sessions := w.sessions.erase connection
    outcomes := w.outcomes ++ [(connection, outcome)] }

/-- A transaction has written something. -/
def World.hold (w : World Json Time) (connection : Nat) (session : Session Json Time)
    (held : Held Json Time) : World Json Time :=
  { w with sessions := w.sessions.save connection { session with held := some held } }

/-- `COMMIT`. -/
def World.publish (w : World Json Time) (connection : Nat) (session : Session Json Time)
    (held : Held Json Time) : World Json Time :=
  let shown : World Json Time := { w with
    instances := w.instances.save session.runtimeId held.row
    events := w.events ++ held.rows }
  match session.call with
  | .initializeRuntime .. => shown.close connection (.state held.row)
  | .commit runtimeId _ checkpoint events _ =>
    { shown.close connection (.committed held.row.stateVersion) with
      log := w.log ++ [⟨runtimeId, held.row.stateVersion, checkpoint, events⟩] }

/-- The next statement of a transaction that neither fails nor waits: the write of the row of its
runtime, the drawing of a position, the insertion of an event, or the commit. -/
def World.advance (w : World Json Time) (connection : Nat) (session : Session Json Time) :
    World Json Time :=
  match session.held with
  | none =>
    match session.call, w.instances.load session.runtimeId with
    | .initializeRuntime runtimeId checkpoint now, _ =>
        w.hold connection session ⟨⟨runtimeId, 0, checkpoint, now⟩, [], [], none⟩
    | .commit _ _ checkpoint events now, some row =>
        w.hold connection session
          ⟨{ row with
              stateVersion := row.stateVersion + 1, checkpoint := checkpoint, updatedAt := now },
            [], events, none⟩
    | .commit .., none => w
  | some held =>
    match session.inserting with
    | some row =>
        w.hold connection session
          { held with rows := held.rows ++ [row], rest := held.rest.tail, drawn := none }
    | none =>
        match held.rest with
        | [] => w.publish connection session held
        | _ :: _ =>
            { w.hold connection session { held with drawn := some w.nextval } with
              nextval := w.nextval + 1 }

/-- What happens next: a call opens a connection, a transaction takes its next statement, or one
is cut off by a failure of its process or to break a deadlock. -/
inductive Act (Json Time : Type) where
  | start (connection : Nat) (call : Call Json Time)
  | next (connection : Nat)
  | abort (connection : Nat)
  | deadlock (connection : Nat) (way : List Nat)

def step (w : World Json Time) : Act Json Time → World Json Time
  | .start connection call =>
    if call.valid ∧ (w.sessions.load connection).isNone then
      { w with sessions := w.sessions.save connection ⟨call, none⟩ }
    else w
  | .next connection =>
    match w.sessions.load connection with
    | none => w
    | some session =>
        match session.verdict accepts (w.instances.load session.runtimeId) w.events with
        | some outcome => w.close connection outcome
        | none =>
            if w.waits connection session then w else w.advance connection session
  | .abort connection =>
    if (w.sessions.load connection).isSome then w.close connection .aborted else w
  | .deadlock connection way =>
    if w.deadlocked connection way then w.close connection .aborted else w

end Steps

/-! ## What the repository promises -/

/-- The successful commits of a runtime in their order. -/
def World.commits (w : World Json Time) (runtimeId : String) : List (Committed Json Time) :=
  w.log.filter (·.runtimeId = runtimeId)

/-- A runtime is what its successful commits made of it, one after the other. -/
structure Serial (w : World Json Time) (runtimeId : String) : Prop where
  versions : (w.commits runtimeId).map (·.version) =
    (List.range (w.commits runtimeId).length).map fun k : Nat => (k : Int) + 1
  version : ∀ row, w.instances.load runtimeId = some row →
    row.stateVersion = (w.commits runtimeId).length
  checkpoint : ∀ last, (w.commits runtimeId).getLast? = some last →
    (w.instances.load runtimeId).map (·.checkpoint) = some last.checkpoint
  events : (w.listEvents runtimeId).map (·.toPostgreSQLRuntimeEventInput) =
    (w.commits runtimeId).flatMap (·.events)

/-- An outcome of a call that did not fail. -/
def Outcome.succeeded : Outcome Json Time → Bool
  | .committed _ => true
  | .state _ => true
  | _ => false

/-- A step at which a call fails leaves the committed tables alone. -/
def Atomic (accepts : Json → Bool) (w : World Json Time) (act : Act Json Time) : Prop :=
  ∀ connection outcome, (step accepts w act).outcomes = w.outcomes ++ [(connection, outcome)] →
    outcome.succeeded = false →
      (step accepts w act).instances = w.instances ∧ (step accepts w act).events = w.events

/-- The next statement goes on or ends the call as it would if the tables had the rows of its own
runtime only, and no call ends because others wait for it. -/
def OwnVerdict (accepts : Json → Bool) (w : World Json Time) : Act Json Time → Prop
  | .next connection => ∀ session, w.sessions.load connection = some session →
      session.verdict accepts (w.instances.load session.runtimeId) w.events =
        session.verdict accepts (w.instances.load session.runtimeId) (w.own session.runtimeId)
  | .deadlock connection way => w.deadlocked connection way = false
  | _ => True

/-- An event is inserted only when no other runtime has stored its identifier, unless the rows of
its own runtime refuse it, and no transactions wait for each other. -/
def Distinct (w : World Json Time) : Act Json Time → Prop
  | .next connection => ∀ session, w.sessions.load connection = some session →
      ∀ row, session.inserting = some row → ∀ other ∈ w.events, other.eventId = row.eventId →
        other.runtimeId = session.runtimeId ∨
          clashes (w.own session.runtimeId ++ session.rows) row = true
  | .deadlock connection way => w.deadlocked connection way = false
  | _ => True

/-! ## The invariant -/

variable {w w' : World Json Time} {session : Session Json Time} {held : Held Json Time}
  {connection : Nat} {runtimeId : String}

/-- Rows in the order of their positions. -/
def InOrder (rows : List (PostgreSQLRuntimeEventRecord Json Time)) : Prop :=
  rows.Pairwise fun a b => a.globalPosition < b.globalPosition

/-- What holds of the committed rows of a runtime. -/
structure RuntimeInv (w : World Json Time) (runtimeId : String) : Prop where
  ordered : InOrder (w.own runtimeId)
  bound : ∀ row ∈ w.own runtimeId, row.globalPosition < w.nextval
  versions : (w.commits runtimeId).map (·.version) =
    (List.range (w.commits runtimeId).length).map fun k : Nat => (k : Int) + 1
  version : ∀ row, w.instances.load runtimeId = some row →
    row.stateVersion = (w.commits runtimeId).length
  absent : w.instances.load runtimeId = none → w.commits runtimeId = []
  checkpoint : ∀ last, (w.commits runtimeId).getLast? = some last →
    (w.instances.load runtimeId).map (·.checkpoint) = some last.checkpoint
  events : (w.own runtimeId).map (·.toPostgreSQLRuntimeEventInput) =
    (w.commits runtimeId).flatMap (·.events)

/-- What a transaction that has written something still has to do. -/
def Started (w : World Json Time) (held : Held Json Time) : Call Json Time → Prop
  | .initializeRuntime runtimeId _ _ =>
    w.instances.load runtimeId = none ∧ held.row.stateVersion = 0 ∧ held.rows = [] ∧
      held.rest = []
  | .commit runtimeId _ checkpoint events _ =>
    ∃ row, w.instances.load runtimeId = some row ∧
      held.row.stateVersion = row.stateVersion + 1 ∧ held.row.checkpoint = checkpoint ∧
        held.rows.map (·.toPostgreSQLRuntimeEventInput) ++ held.rest = events

/-- What holds of a transaction that has written something. -/
structure SessionInv (w : World Json Time) (session : Session Json Time)
    (held : Held Json Time) : Prop where
  started : Started w held session.call
  runtime : ∀ row ∈ held.rows, row.runtimeId = session.runtimeId
  ordered : InOrder (w.own session.runtimeId ++ held.rows)
  bound : ∀ row ∈ w.own session.runtimeId ++ held.rows,
    row.globalPosition < held.drawn.getD w.nextval
  drawn : ∀ position, held.drawn = some position → position < w.nextval

/-- Transactions that have written something work for different runtimes. -/
def Alone (w : World Json Time) : Prop :=
  ∀ i j s t, w.sessions.load i = some s → w.sessions.load j = some t → s.held ≠ none →
    t.held ≠ none → s.runtimeId = t.runtimeId → i = j

/-- What holds of every reachable world. -/
structure Inv (w : World Json Time) : Prop where
  runtimes : ∀ runtimeId, RuntimeInv w runtimeId
  alone : Alone w
  sessions : ∀ i s h, w.sessions.load i = some s → s.held = some h → SessionInv w s h

/-- The committed rows of a runtime are the same, and positions may have been drawn. -/
structure SameRows (w w' : World Json Time) (runtimeId : String) : Prop where
  found : w'.instances.load runtimeId = w.instances.load runtimeId
  own : w'.own runtimeId = w.own runtimeId
  commits : w'.commits runtimeId = w.commits runtimeId
  nextval : w.nextval ≤ w'.nextval

theorem SameRows.runtime (h : SameRows w w' runtimeId) (hinv : RuntimeInv w runtimeId) :
    RuntimeInv w' runtimeId := by
  obtain ⟨hordered, hbound, hversions, hversion, habsent, hcheckpoint, hevents⟩ := hinv
  refine ⟨?_, ?_, ?_, ?_, ?_, ?_, ?_⟩
  all_goals simp only [h.own, h.commits, h.found]
  · exact hordered
  · exact fun row hrow => (hbound row hrow).trans_le h.nextval
  all_goals assumption

theorem SameRows.transaction (h : SameRows w w' session.runtimeId)
    (hinv : SessionInv w session held) : SessionInv w' session held := by
  obtain ⟨hstarted, hruntime, hordered, hbound, hdrawn⟩ := hinv
  have hlater : held.drawn.getD w.nextval ≤ held.drawn.getD w'.nextval := by
    cases held.drawn with
    | none => exact h.nextval
    | some position => exact le_rfl
  refine ⟨?_, hruntime, ?_, ?_, ?_⟩
  · have hfound : w'.instances.load session.call.runtimeId =
        w.instances.load session.call.runtimeId := h.found
    unfold Started at hstarted ⊢
    cases hcall : session.call
    all_goals
      simp only [hcall, Call.runtimeId] at hfound hstarted ⊢
      rwa [hfound]
  · rwa [h.own]
  · rw [h.own]
    exact fun row hrow => (hbound row hrow).trans_le hlater
  · exact fun position hposition => (hdrawn position hposition).trans_le h.nextval

theorem SessionInv.drawn_le (h : SessionInv w session held) :
    held.drawn.getD w.nextval ≤ w.nextval := by
  cases hposition : held.drawn with
  | none => exact le_rfl
  | some position => exact (h.drawn position hposition).le

theorem Inv.same_tables (h : Inv w) (hsame : ∀ runtimeId, SameRows w w' runtimeId)
    (halone : Alone w')
    (hsessions : ∀ i s held, w'.sessions.load i = some s → s.held = some held →
      w.sessions.load i = some s ∨ SessionInv w' s held) : Inv w' where
  runtimes runtimeId := (hsame runtimeId).runtime (h.runtimes runtimeId)
  alone := halone
  sessions i s held hload hheld := by
    obtain hold | hnew := hsessions i s held hload hheld
    · exact (hsame _).transaction (h.sessions i s held hold hheld)
    · exact hnew

theorem load_of_erase {i : Nat} (hload : (w.sessions.erase connection).load i = some session) :
    w.sessions.load i = some session := by
  rw [Table.load_erase] at hload
  split at hload
  · cases hload
  · exact hload

theorem Inv.close (h : Inv w) (outcome : Outcome Json Time) : Inv (w.close connection outcome) :=
  h.same_tables (fun _ => ⟨rfl, rfl, rfl, le_rfl⟩)
    (fun i j s t hi hj => h.alone i j s t (load_of_erase hi) (load_of_erase hj))
    fun _ _ _ hload _ => .inl (load_of_erase hload)

/-- A transaction that goes on keeps the invariant when no other one works for its runtime. -/
theorem Inv.hold (h : Inv w) (hsame : ∀ runtimeId, SameRows w w' runtimeId)
    {next : Held Json Time}
    (hsaved : w'.sessions = w.sessions.save connection { session with held := some next })
    (halone : ∀ i t, i ≠ connection → w.sessions.load i = some t → t.held ≠ none →
      t.runtimeId ≠ session.runtimeId)
    (hnext : SessionInv w' { session with held := some next } next) : Inv w' := by
  refine h.same_tables hsame ?_ ?_
  · intro i j s t hi hj hs ht hruntime
    rw [hsaved, Table.load_save] at hi hj
    split at hi <;> split at hj
    · rename_i hii hjj
      rw [hii, hjj]
    · rename_i hne
      cases hi
      exact absurd hruntime.symm (halone j t hne hj ht)
    · rename_i hne _
      cases hj
      exact absurd hruntime (halone i s hne hi hs)
    · exact h.alone i j s t hi hj hs ht hruntime
  · intro i s held hload hheld
    rw [hsaved, Table.load_save] at hload
    split at hload
    · cases hload
      cases hheld
      exact .inr hnext
    · exact .inl hload

theorem Inv.others (h : Inv w) (hload : w.sessions.load connection = some session)
    (hheld : session.held ≠ none) (i : Nat) (t : Session Json Time) (hne : i ≠ connection)
    (hi : w.sessions.load i = some t) (ht : t.held ≠ none) : t.runtimeId ≠ session.runtimeId :=
  fun hruntime => hne (h.alone i connection t session hi hload ht hheld hruntime)

/-- A first statement that does not wait finds no other transaction of its runtime. -/
theorem others_of_waits (hwaits : ¬w.waits connection session = true) (hheld : session.held = none)
    (i : Nat) (t : Session Json Time) (hne : i ≠ connection) (hi : w.sessions.load i = some t)
    (ht : t.held ≠ none) : t.runtimeId ≠ session.runtimeId := by
  intro hruntime
  apply hwaits
  unfold World.waits
  rw [List.any_eq_true]
  refine ⟨(i, t), Table.mem_of_load hi, ?_⟩
  simp [World.blocks, hi, hheld, hne, hruntime, Option.isSome_iff_ne_none.mpr ht]

/-! ## Steps -/

theorem inserting_eq_some {row : PostgreSQLRuntimeEventRecord Json Time}
    (hheld : session.held = some held) (h : session.inserting = some row) :
    ∃ event rest position, held.rest = event :: rest ∧ held.drawn = some position ∧
      row = { event with runtimeId := session.runtimeId, globalPosition := position } := by
  unfold Session.inserting at h
  rw [hheld] at h
  simp only [Option.bind_eq_bind, Option.bind_some, Option.bind_eq_some_iff, Option.pure_def,
    Option.some.injEq] at h
  obtain ⟨event, hevent, position, hposition, rfl⟩ := h
  obtain ⟨rest, hrest⟩ := List.head?_eq_some_iff.mp hevent
  exact ⟨event, rest, position, hrest, hposition, rfl⟩

theorem Inv.first {accepts : Json → Bool} (h : Inv w)
    (hheld : session.held = none)
    (hverdict : session.verdict accepts (w.instances.load session.runtimeId) w.events = none)
    (hwaits : ¬w.waits connection session = true) : Inv (w.advance connection session) := by
  have hothers := others_of_waits hwaits hheld
  have hruntime := h.runtimes session.runtimeId
  have hnew : ∀ row rest, Started w ⟨row, [], rest, none⟩ session.call →
      Inv (w.hold connection session ⟨row, [], rest, none⟩) := by
    intro row rest hstarted
    refine h.hold (fun _ => ⟨rfl, rfl, rfl, le_rfl⟩) rfl hothers
      ⟨hstarted, fun _ hrow => absurd hrow (by simp), ?_, ?_, nofun⟩
    · exact (List.append_nil (w.own session.runtimeId)).symm ▸ hruntime.ordered
    · exact (List.append_nil (w.own session.runtimeId)).symm ▸ hruntime.bound
  obtain ⟨call, sessionHeld⟩ := session
  obtain rfl : sessionHeld = none := hheld
  cases call with
  | initializeRuntime runtimeId checkpoint now =>
    simp only [Session.verdict] at hverdict
    split at hverdict
    · exact hnew _ _ ⟨Option.map_eq_none_iff.mp hverdict, rfl, rfl, rfl⟩
    · cases hverdict
  | commit runtimeId expectedVersion checkpoint events now =>
    cases hfound : w.instances.load runtimeId with
    | none =>
        simp only [World.advance, Session.runtimeId, Call.runtimeId, hfound]
        exact h
    | some row =>
        simp only [World.advance, Session.runtimeId, Call.runtimeId, hfound]
        exact hnew _ _ ⟨row, hfound, rfl, rfl, rfl⟩

/-- A position is drawn for the next event. -/
theorem Inv.draw (h : Inv w) (hload : w.sessions.load connection = some session)
    (hheld : session.held = some held) :
    Inv { w.hold connection session { held with drawn := some w.nextval } with
      nextval := w.nextval + 1 } := by
  have hsession := h.sessions connection session held hload hheld
  refine h.hold (fun _ => ⟨rfl, rfl, rfl, Nat.le_succ _⟩) rfl
    (h.others hload (by rw [hheld]; exact Option.some_ne_none _))
    ⟨hsession.started, hsession.runtime, hsession.ordered, ?_, ?_⟩
  · exact fun row hrow => (hsession.bound row hrow).trans_le hsession.drawn_le
  · intro position hposition
    cases hposition
    exact Nat.lt_succ_self _

theorem Inv.insert {row : PostgreSQLRuntimeEventRecord Json Time} (h : Inv w)
    (hload : w.sessions.load connection = some session) (hheld : session.held = some held)
    (hinserting : session.inserting = some row) :
    Inv (w.hold connection session
      { held with rows := held.rows ++ [row], rest := held.rest.tail, drawn := none }) := by
  obtain ⟨hstarted, hruntime, hordered, hbound, hdrawn⟩ := h.sessions connection session held
    hload hheld
  obtain ⟨event, rest, position, hrest, hposition, rfl⟩ := inserting_eq_some hheld hinserting
  have hearlier := hdrawn position hposition
  rw [hposition] at hbound
  refine h.hold (fun _ => ⟨rfl, rfl, rfl, le_rfl⟩) rfl
    (h.others hload (by rw [hheld]; exact Option.some_ne_none _)) ⟨?_, ?_, ?_, ?_, nofun⟩
  · cases hcall : session.call with
    | initializeRuntime runtimeId checkpoint now =>
        rw [hcall] at hstarted
        exact absurd hrest (by simp [hstarted.2.2.2])
    | commit runtimeId expectedVersion checkpoint events now =>
        rw [hcall] at hstarted
        obtain ⟨row, hfound, hversion, hcheckpoint, hevents⟩ := hstarted
        refine ⟨row, hfound, hversion, hcheckpoint, ?_⟩
        rw [← hevents, hrest]
        simp
  · intro other hother
    rcases List.mem_append.mp hother with hold | hnew
    · exact hruntime other hold
    · rw [List.mem_singleton.mp hnew]
      rfl
  · rw [← List.append_assoc]
    refine List.pairwise_append.mpr ⟨hordered, List.pairwise_singleton _ _, ?_⟩
    intro other hother last hlast
    rw [List.mem_singleton.mp hlast]
    exact hbound other hother
  · rw [← List.append_assoc]
    intro other hother
    rcases List.mem_append.mp hother with hold | hnew
    · exact (hbound other hold).trans hearlier
    · rw [List.mem_singleton.mp hnew]
      exact hearlier

theorem publish_fields (connection : Nat) (session : Session Json Time) (held : Held Json Time) :
    (w.publish connection session held).instances = w.instances.save session.runtimeId held.row ∧
    (w.publish connection session held).events = w.events ++ held.rows ∧
    (w.publish connection session held).sessions = w.sessions.erase connection ∧
    (w.publish connection session held).nextval = w.nextval := by
  unfold World.publish
  cases session.call <;> exact ⟨rfl, rfl, rfl, rfl⟩

/-- The rows of other runtimes stay as they are. -/
theorem SessionInv.publish_of_ne (h : SessionInv w session held)
    (hne : runtimeId ≠ session.runtimeId) :
    SameRows w (w.publish connection session held) runtimeId := by
  obtain ⟨hinstances, hevents, -, hnextval⟩ :=
    publish_fields (w := w) connection session held
  refine ⟨?_, ?_, ?_, hnextval.ge⟩
  · rw [hinstances, Table.load_save_of_ne hne]
  · have hrows : held.rows.filter (·.runtimeId = runtimeId) = [] := by
      rw [List.filter_eq_nil_iff]
      intro row hrow
      rw [decide_eq_true_eq, h.runtime row hrow]
      exact hne.symm
    unfold World.own
    rw [hevents, List.filter_append, hrows, List.append_nil]
  · unfold World.commits World.publish
    unfold Session.runtimeId Call.runtimeId at hne
    cases hcall : session.call with
    | initializeRuntime => rfl
    | commit =>
        rw [hcall] at hne
        simp [hne.symm]

theorem Inv.publish_own (h : Inv w) (hsession : SessionInv w session held)
    (hrest : held.rest = []) :
    RuntimeInv (w.publish connection session held) session.runtimeId := by
  obtain ⟨hinstances, hevents, -, hnextval⟩ :=
    publish_fields (w := w) connection session held
  obtain ⟨-, -, hversions, hversion, habsent, -, hbatches⟩ := h.runtimes session.runtimeId
  have hfound : (w.publish connection session held).instances.load session.runtimeId =
      some held.row := by
    rw [hinstances, Table.load_save_self]
  have hown : (w.publish connection session held).own session.runtimeId =
      w.own session.runtimeId ++ held.rows := by
    have hrows : held.rows.filter (·.runtimeId = session.runtimeId) = held.rows :=
      List.filter_eq_self.mpr fun row hrow => decide_eq_true (hsession.runtime row hrow)
    unfold World.own
    rw [hevents, List.filter_append, hrows]
  have hbound : ∀ row ∈ w.own session.runtimeId ++ held.rows, row.globalPosition < w.nextval :=
    fun row hrow => (hsession.bound row hrow).trans_le hsession.drawn_le
  have hstarted := hsession.started
  cases hcall : session.call with
  | initializeRuntime runtimeId checkpoint now =>
    rw [hcall] at hstarted
    obtain ⟨hnone, hzero, hrows, -⟩ := hstarted
    have hbefore : w.commits session.runtimeId = [] := by
      refine habsent ?_
      rw [Session.runtimeId, hcall]
      exact hnone
    have hcommits : (w.publish connection session held).commits session.runtimeId = [] := by
      rw [← hbefore]
      unfold World.commits World.publish
      rw [hcall]
      rfl
    refine ⟨?_, ?_, ?_, ?_, ?_, ?_, ?_⟩
    all_goals simp only [hown, hcommits, hfound, hnextval]
    · exact hsession.ordered
    · exact hbound
    · rfl
    · intro row hrow
      cases hrow
      exact hzero
    · intro hnone
      cases hnone
    · intro last hlast
      cases hlast
    · rw [hrows, List.append_nil, hbatches, hbefore]
  | commit runtimeId expectedVersion checkpoint events now =>
    rw [hcall] at hstarted
    obtain ⟨row, hrow, hnext, hcheckpoint, hinserted⟩ := hstarted
    have hlength : row.stateVersion = (w.commits session.runtimeId).length :=
      hversion row (by rw [Session.runtimeId, hcall]; exact hrow)
    have hcommits : (w.publish connection session held).commits session.runtimeId =
        w.commits session.runtimeId ++
          [⟨runtimeId, held.row.stateVersion, checkpoint, events⟩] := by
      unfold World.commits World.publish
      simp [hcall, Session.runtimeId, Call.runtimeId]
    refine ⟨?_, ?_, ?_, ?_, ?_, ?_, ?_⟩
    all_goals simp only [hown, hcommits, hfound, hnextval]
    · exact hsession.ordered
    · exact hbound
    · rw [List.map_append, hversions, List.length_append, List.length_singleton,
        List.range_succ, List.map_append, hnext, hlength]
      rfl
    · intro last hlast
      cases hlast
      rw [hnext, hlength, List.length_append]
      rfl
    · intro hnone
      cases hnone
    · intro last hlast
      rw [List.getLast?_concat, Option.some.injEq] at hlast
      rw [← hlast]
      exact congrArg some hcheckpoint
    · rw [List.map_append, hbatches, List.flatMap_append, ← hinserted, hrest, List.append_nil]
      simp

/-- A transaction commits. -/
theorem Inv.publish (h : Inv w) (hload : w.sessions.load connection = some session)
    (hheld : session.held = some held) (hrest : held.rest = []) :
    Inv (w.publish connection session held) := by
  have hsession := h.sessions connection session held hload hheld
  have hsessions := (publish_fields (w := w) connection session held).2.2.1
  refine ⟨?_, ?_, ?_⟩
  · intro runtimeId
    by_cases heq : runtimeId = session.runtimeId
    · rw [heq]
      exact h.publish_own hsession hrest
    · exact (hsession.publish_of_ne heq).runtime (h.runtimes runtimeId)
  · intro i j s t hi hj
    rw [hsessions] at hi hj
    exact h.alone i j s t (load_of_erase hi) (load_of_erase hj)
  · intro i s other hi hs
    rw [hsessions] at hi
    have hne : i ≠ connection := by
      rintro rfl
      rw [Table.load_erase_self] at hi
      cases hi
    have hruntime := h.others hload (by rw [hheld]; exact Option.some_ne_none _) i s hne
      (load_of_erase hi) (by rw [hs]; exact Option.some_ne_none _)
    exact (hsession.publish_of_ne hruntime).transaction (h.sessions i s other (load_of_erase hi) hs)

/-- Every act keeps the invariant. -/
theorem Inv.step {accepts : Json → Bool} (h : Inv w) (act : Act Json Time) :
    Inv (step accepts w act) := by
  cases act with
  | start connection call =>
    simp only [Postgres.step]
    split
    · refine h.same_tables (fun _ => ⟨rfl, rfl, rfl, le_rfl⟩) ?_ ?_
      · intro i j s t hi hj hs ht hruntime
        rw [Table.load_save] at hi hj
        split at hi
        · cases hi
          exact absurd rfl hs
        · split at hj
          · cases hj
            exact absurd rfl ht
          · exact h.alone i j s t hi hj hs ht hruntime
      · intro i s held hi hs
        rw [Table.load_save] at hi
        split at hi
        · cases hi
          cases hs
        · exact .inl hi
    · exact h
  | next connection =>
    simp only [Postgres.step]
    cases hload : w.sessions.load connection with
    | none => exact h
    | some session =>
        dsimp only
        split
        · exact h.close _
        · rename_i hverdict
          split
          · exact h
          · rename_i hwaits
            cases hheld : session.held with
            | none => exact h.first hheld hverdict hwaits
            | some held =>
                simp only [World.advance, hheld]
                split
                · rename_i hinserting
                  exact h.insert hload hheld hinserting
                · split
                  · rename_i hrest
                    exact h.publish hload hheld hrest
                  · exact h.draw hload hheld
  | abort connection =>
    simp only [Postgres.step]
    split
    · exact h.close _
    · exact h
  | deadlock connection way =>
    simp only [Postgres.step]
    split
    · exact h.close _
    · exact h

/-! ## Runs -/

theorem inv_init : Inv ({} : World Json Time) where
  runtimes _ :=
    ⟨.nil, nofun, rfl, nofun, fun _ => rfl, nofun, rfl⟩
  alone := nofun
  sessions := nofun

/-- The order of the positions is the order of the commits. -/
theorem RuntimeInv.serial (h : RuntimeInv w runtimeId) : Serial w runtimeId := by
  refine ⟨h.versions, h.version, h.checkpoint, ?_⟩
  have hsorted : w.listEvents runtimeId = w.own runtimeId :=
    List.mergeSort_of_pairwise (h.ordered.imp fun hlt => decide_eq_true hlt.le)
  rw [hsorted, h.events]

theorem atomic (accepts : Json → Bool) (w : World Json Time) (act : Act Json Time) :
    Atomic accepts w act := by
  have hpublish : ∀ connection session held i outcome,
      (w.publish connection session held).outcomes = w.outcomes ++ [(i, outcome)] →
        outcome.succeeded ≠ false := by
    intro connection session held i outcome houtcomes
    unfold World.publish at houtcomes
    split at houtcomes
    all_goals
      have hlast := List.append_cancel_left houtcomes
      cases hlast
      exact Bool.true_eq_false_eq_False
  intro i outcome houtcomes hfailed
  cases act with
  | next connection =>
    revert houtcomes
    simp only [step]
    split
    · exact fun _ => ⟨rfl, rfl⟩
    · split
      · exact fun _ => ⟨rfl, rfl⟩
      · split
        · exact fun _ => ⟨rfl, rfl⟩
        · unfold World.advance
          repeat' split
          all_goals first
            | exact fun _ => ⟨rfl, rfl⟩
            | exact fun houtcomes => absurd hfailed (hpublish _ _ _ _ _ houtcomes)
  | _ =>
    simp only [step]
    split <;> exact ⟨rfl, rfl⟩

theorem ownVerdict_iff_distinct (accepts : Json → Bool) (w : World Json Time)
    (act : Act Json Time) : OwnVerdict accepts w act ↔ Distinct w act := by
  cases act with
  | next connection =>
    refine forall_congr' fun session => ?_
    cases hinserting : session.inserting with
    | none =>
        refine imp_congr_right fun _ => ⟨fun _ _ => nofun, fun _ => ?_⟩
        unfold Session.verdict
        rw [hinserting]
    | some row =>
        cases hheld : session.held with
        | none => simp [Session.inserting, hheld] at hinserting
        | some held =>
            have hruntime : row.runtimeId = session.runtimeId := by
              obtain ⟨event, rest, position, -, -, rfl⟩ := inserting_eq_some hheld hinserting
              rfl
            have hrows : session.rows = held.rows := by simp [Session.rows, hheld]
            have hverdict : ∀ events, session.verdict accepts
                (w.instances.load session.runtimeId) events =
                  if clashes (events ++ held.rows) row then some .uniqueViolation else none := by
              intro events
              simp only [Session.verdict, hheld, hinserting]
            have hown : clashes (w.own session.runtimeId ++ held.rows) row = true →
                clashes (w.events ++ held.rows) row = true := by
              unfold clashes World.own
              simp only [List.any_append, Bool.or_eq_true]
              refine Or.imp_left fun hany => ?_
              obtain ⟨other, hother, hclash⟩ := List.any_eq_true.mp hany
              exact List.any_eq_true.mpr ⟨other, (List.mem_filter.mp hother).1, hclash⟩
            simp only [hverdict, Option.some.injEq, forall_eq', hrows]
            refine imp_congr_right fun _ => ⟨fun hequal other hother hid => ?_, fun hother => ?_⟩
            · right
              by_contra hclear
              rw [if_neg hclear] at hequal
              have hclash : clashes (w.events ++ held.rows) row = true :=
                List.any_eq_true.mpr
                  ⟨other, List.mem_append_left _ hother, decide_eq_true (.inl hid)⟩
              rw [if_pos hclash] at hequal
              cases hequal
            · have hback : clashes (w.events ++ held.rows) row = true →
                  clashes (w.own session.runtimeId ++ held.rows) row = true := by
                intro hclash
                obtain ⟨other, hmem, hkeys⟩ := List.any_eq_true.mp hclash
                by_cases hsame : other.runtimeId = session.runtimeId
                · refine List.any_eq_true.mpr ⟨other, ?_, hkeys⟩
                  rcases List.mem_append.mp hmem with hevent | hrow
                  · exact List.mem_append_left _
                      (List.mem_filter.mpr ⟨hevent, decide_eq_true hsame⟩)
                  · exact List.mem_append_right _ hrow
                · rcases List.mem_append.mp hmem with hevent | hrow
                  · have hid : other.eventId = row.eventId := by
                      rcases of_decide_eq_true hkeys with hid | hkey
                      · exact hid
                      · exact absurd (hkey.1.trans hruntime) hsame
                    exact (hother other hevent hid).resolve_left hsame
                  · exact List.any_eq_true.mpr
                      ⟨other, List.mem_append_right _ hrow, hkeys⟩
              rw [Bool.eq_iff_iff.mpr ⟨hback, hown⟩]
  | _ => exact Iff.rfl

/-- In every run each runtime is what its successful commits made of it and a failing call leaves
the tables alone; the fate of a call depends on its own runtime exactly when no event is inserted
whose identifier another runtime has stored and no deadlock is broken. -/
theorem commits_serial_iff (accepts : Json → Bool) (acts : List (Act Json Time)) :
    ((∀ w ∈ acts.scanl (step accepts) {}, ∀ runtimeId, Serial w runtimeId) ∧
      AllMeet (step accepts) (Atomic accepts) {} acts ∧
        AllMeet (step accepts) (OwnVerdict accepts) {} acts) ↔
      AllMeet (step accepts) Distinct ({} : World Json Time) acts := by
  have hserial : ∀ w ∈ acts.scanl (step accepts) {}, ∀ runtimeId,
      Serial (w : World Json Time) runtimeId := by
    intro w hw runtimeId
    have hinv := inv_of_mem_scanl Inv (fun _ act h => h.step act) acts {} inv_init w hw
    exact (hinv.runtimes runtimeId).serial
  have hatomic : AllMeet (step accepts) (Atomic accepts) ({} : World Json Time) acts :=
    allMeet_of_inv (fun _ => True) (fun w act _ => atomic accepts w act) (fun _ _ _ => trivial)
      acts {} trivial
  have hown : AllMeet (step accepts) (OwnVerdict accepts) ({} : World Json Time) acts ↔
      AllMeet (step accepts) Distinct {} acts :=
    allMeet_congr (fun _ => True) (fun w act _ => ownVerdict_iff_distinct accepts w act)
      (fun _ _ _ => trivial) acts {} trivial
  exact ⟨fun h => hown.mp h.2.2, fun h => ⟨hserial, hatomic, hown.mpr h⟩⟩

/-- The calls of two runtimes that commit an event of the same identifier. -/
def sharedIdentifier : List (Act Unit Unit) :=
  let event : PostgreSQLRuntimeEventInput Unit Unit := ⟨"event", "order", 0, (), some ()⟩
  [.start 0 (.initializeRuntime "a" () ()), .next 0, .next 0,
    .start 0 (.initializeRuntime "b" () ()), .next 0, .next 0,
    .start 0 (.commit "a" 0 () [event] ()), .next 0, .next 0, .next 0, .next 0,
    .start 0 (.commit "b" 0 () [event] ()), .next 0, .next 0, .next 0]

/-- The commit of the second runtime fails, although its own history takes it. -/
theorem not_commits_serial :
    ¬AllMeet (step fun _ => true) (OwnVerdict fun _ => true) {} sharedIdentifier := by
  intro h
  have hlast := ((allMeet_append sharedIdentifier.dropLast [.next 0] _).mp h).2.1
  have hverdict : some Outcome.uniqueViolation = none := hlast _ rfl
  cases hverdict

end Postgres
end Persistence
end Ascos
