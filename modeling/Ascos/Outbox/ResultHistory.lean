import Ascos.Library.Dictionary
import Ascos.Library.Framed
import Ascos.Outbox.Interleaving

/-!
# Histories of applied results

A result is applied once for each idempotency key and in the order of the versions of its
aggregate, also when the service is restored from a snapshot that went through JSON.  What JSON
does to a payload is made explicit: a tuple comes back as a list, and the keys of a dictionary
come back as texts.

Main results:

- Theorem `ResultValue.json_json`: a payload that went through JSON goes through it
  unchanged.
- Theorem `aggregateKey_eq_iff`: two aggregates share a version counter only if they are
  the same.
- Theorem `applied_in_order`: what holds after any calls of the service.
-/

namespace Ascos
namespace Outbox

open Library
open Ascos.Library.Program (exec exec_bind exec_get exec_modify exec_pure exec_set exec_throw)

/-! ## Payloads through JSON -/

/-- The text of a key, unless `json.dumps` refuses it. -/
def ResultKey.json : ResultKey → Option String
  | .null => some "null"
  | .bool true => some "true"
  | .bool false => some "false"
  | .int value => some (toString value)
  | .float literal => some literal
  | .text value => some value
  | .other _ => none

mutual

/-- `json.loads` of `json.dumps` of a value. -/
def ResultValue.json : ResultValue → Option ResultValue
  | .null => some .null
  | .bool value => some (.bool value)
  | .int value => some (.int value)
  | .float literal => some (.float literal)
  | .text value => some (.text value)
  | .list items => (jsonItems items).map .list
  | .tuple items => (jsonItems items).map .list
  | .mapping entries => (jsonEntries entries).map fun loaded => .mapping (Dictionary.ofEntries loaded)
  | .other _ => none

def jsonItems : List ResultValue → Option (List ResultValue)
  | [] => some []
  | item :: rest =>
    match item.json, jsonItems rest with
    | some value, some values => some (value :: values)
    | _, _ => none

/-- The entries of an object, as they are written. -/
def jsonEntries : List (ResultKey × ResultValue) → Option (List (ResultKey × ResultValue))
  | [] => some []
  | (key, item) :: rest =>
    match key.json, item.json, jsonEntries rest with
    | some text, some value, some values => some ((.text text, value) :: values)
    | _, _, _ => none

end

def ResultKey.IsText : ResultKey → Prop
  | .text _ => True
  | _ => False

mutual

def ResultValue.IsJson : ResultValue → Prop
  | .null | .bool _ | .int _ | .float _ | .text _ => True
  | .list items => itemsAreJson items
  | .mapping entries => entriesAreJson entries ∧ (entries.map (·.1)).Nodup
  | .tuple _ | .other _ => False

def itemsAreJson : List ResultValue → Prop
  | [] => True
  | item :: rest => item.IsJson ∧ itemsAreJson rest

def entriesAreJson : List (ResultKey × ResultValue) → Prop
  | [] => True
  | (key, item) :: rest => key.IsText ∧ item.IsJson ∧ entriesAreJson rest

end

theorem entriesAreJson_iff {entries : List (ResultKey × ResultValue)} :
    entriesAreJson entries ↔ ∀ entry ∈ entries, entry.1.IsText ∧ entry.2.IsJson := by
  induction entries with
  | nil => simp [entriesAreJson]
  | cons entry rest ih =>
    rw [List.forall_mem_cons, ← ih]
    constructor
    · rintro ⟨htext, hvalue, hrest⟩
      exact ⟨⟨htext, hvalue⟩, hrest⟩
    · rintro ⟨⟨htext, hvalue⟩, hrest⟩
      exact ⟨htext, hvalue, hrest⟩

theorem entriesAreJson_ofEntries {entries : List (ResultKey × ResultValue)}
    (h : entriesAreJson entries) : entriesAreJson (Dictionary.ofEntries entries) := by
  rw [entriesAreJson_iff] at h ⊢
  exact fun entry hentry => h entry (Dictionary.mem_of_mem_ofEntries hentry)

mutual

theorem ResultValue.isJson_of_json : ∀ {value loaded : ResultValue},
    value.json = some loaded → loaded.IsJson
  | .null, _, h | .bool _, _, h | .int _, _, h | .float _, _, h | .text _, _, h => by
    cases h
    trivial
  | .list items, _, h | .tuple items, _, h => by
    obtain ⟨values, hvalues, rfl⟩ := Option.map_eq_some_iff.mp h
    exact itemsAreJson_of_json hvalues
  | .mapping entries, _, h => by
    obtain ⟨written, hwritten, rfl⟩ := Option.map_eq_some_iff.mp h
    exact ⟨entriesAreJson_ofEntries (entriesAreJson_of_json hwritten),
      Dictionary.nodup_ofEntries written⟩
  | .other _, _, h => by cases h

theorem itemsAreJson_of_json : ∀ {items values : List ResultValue},
    jsonItems items = some values → itemsAreJson values
  | [], _, h => by
    cases h
    trivial
  | item :: rest, _, h => by
    unfold jsonItems at h
    split at h
    · rename_i value values hvalue hvalues
      cases h
      exact ⟨ResultValue.isJson_of_json hvalue, itemsAreJson_of_json hvalues⟩
    · cases h

theorem entriesAreJson_of_json : ∀ {entries written : List (ResultKey × ResultValue)},
    jsonEntries entries = some written → entriesAreJson written
  | [], _, h => by
    cases h
    trivial
  | (key, item) :: rest, _, h => by
    unfold jsonEntries at h
    split at h
    · rename_i text value values htext hvalue hvalues
      cases h
      exact ⟨trivial, ResultValue.isJson_of_json hvalue, entriesAreJson_of_json hvalues⟩
    · cases h

end

mutual

theorem ResultValue.json_of_isJson : ∀ {value : ResultValue},
    value.IsJson → value.json = some value
  | .null, _ | .bool _, _ | .int _, _ | .float _, _ | .text _, _ => rfl
  | .list items, h => by
    rw [ResultValue.json, jsonItems_of_isJson h]
    rfl
  | .mapping entries, h => by
    rw [ResultValue.json, jsonEntries_of_isJson h.1, Option.map_some,
      Dictionary.ofEntries_of_nodup h.2]
  | .tuple _, h | .other _, h => h.elim

theorem jsonItems_of_isJson : ∀ {items : List ResultValue},
    itemsAreJson items → jsonItems items = some items
  | [], _ => rfl
  | item :: rest, h => by
      rw [jsonItems, ResultValue.json_of_isJson h.1, jsonItems_of_isJson h.2]

theorem jsonEntries_of_isJson : ∀ {entries : List (ResultKey × ResultValue)},
    entriesAreJson entries → jsonEntries entries = some entries
  | [], _ => rfl
  | (.text text, item) :: rest, h => by
    rw [jsonEntries, ResultKey.json, ResultValue.json_of_isJson h.2.1,
      jsonEntries_of_isJson h.2.2]

end

theorem ResultValue.json_json {value loaded : ResultValue} (h : value.json = some loaded) :
    loaded.json = some loaded :=
  json_of_isJson (isJson_of_json h)

def ResultPayload.json (payload : ResultPayload) : Option ResultPayload :=
  (jsonEntries payload).map Dictionary.ofEntries

def ResultPayload.IsJson (payload : ResultPayload) : Prop :=
  entriesAreJson payload ∧ (payload.map (·.1)).Nodup

theorem ResultPayload.json_of_isJson {payload : ResultPayload} (h : payload.IsJson) :
    payload.json = some payload := by
  rw [ResultPayload.json, jsonEntries_of_isJson h.1, Option.map_some, Dictionary.ofEntries_of_nodup h.2]

theorem ResultPayload.isJson_of_json {payload loaded : ResultPayload}
    (h : payload.json = some loaded) : loaded.IsJson := by
  obtain ⟨written, hwritten, rfl⟩ := Option.map_eq_some_iff.mp h
  exact ⟨entriesAreJson_ofEntries (entriesAreJson_of_json hwritten),
    Dictionary.nodup_ofEntries written⟩

def AppliedResult.json (value : AppliedResult) : Option AppliedResult :=
  value.result.json.map fun result => { value with result }

theorem AppliedResult.json_of_isJson {value : AppliedResult} (h : value.result.IsJson) :
    value.json = some value := by
  rw [AppliedResult.json, ResultPayload.json_of_isJson h]
  rfl

theorem AppliedResult.json_json {value loaded : AppliedResult} (h : value.json = some loaded) :
    loaded.json = some loaded := by
  obtain ⟨result, hresult, rfl⟩ := Option.map_eq_some_iff.mp h
  exact AppliedResult.json_of_isJson (ResultPayload.isJson_of_json hresult)

/-! ## Snapshots -/

/-- What `snapshot` returns; the texts of times stand for their instants. -/
structure ResultsDocument where
  applied : Records AppliedResult
  idempotency : Records IdempotencyRecord
  duplicateSuppressions : Nat
  aggregateVersions : Records Nat

def Results.snapshot (results : Results) : ResultsDocument where
  applied := results.applied
  idempotency := results.records
  duplicateSuppressions := results.duplicateSuppressions
  aggregateVersions := results.aggregateVersions

/-- A snapshot through JSON, which raises when a value cannot be written. -/
def ResultsDocument.json (value : ResultsDocument) : Option ResultsDocument :=
  (decodeRecords AppliedResult.json value.applied).map fun applied => { value with applied }

/-- `restore`. -/
def restoreResults (value : ResultsDocument) : Results where
  records := value.idempotency
  applied := value.applied
  aggregateVersions := value.aggregateVersions
  duplicateSuppressions := value.duplicateSuppressions

theorem getElem?_decodeRecords {α β : Type} {decode : α → Option β} {records : Records α}
    {decoded : Records β} (h : decodeRecords decode records = some decoded) (id : String) :
    decoded[id]? = (records[id]?).bind decode ∧
      ∀ value, records[id]? = some value → (decode value).isSome = true := by
  unfold decodeRecords at h
  split at h
  · rename_i hall
    rw [Option.some.injEq] at h
    subst h
    constructor
    · rw [Std.ExtTreeMap.getElem?_filterMap']
    · intro value hvalue
      have hmem : (id, value) ∈ records.toList :=
        Std.ExtTreeMap.mem_toList_iff_getElem?_eq_some.mpr hvalue
      exact List.all_eq_true.mp hall (id, value) hmem
  · cases h

/-! ## Aggregates -/

theorem toList_aggregateKey (operation : OutboxOperation) :
    (aggregateKey operation).toList =
      (toString operation.runtimeId.length).toList ++
        ':' :: (operation.runtimeId.toList ++ ':' :: operation.aggregateId.toList) := by
  have hcolon : ":".toList = [':'] := by decide
  have htext : ∀ s : String, toString s = s := fun _ => rfl
  simp only [aggregateKey, String.toList_append, htext, hcolon, List.append_assoc,
    List.cons_append, List.nil_append]

theorem aggregateKey_eq_iff (a b : OutboxOperation) :
    aggregateKey a = aggregateKey b ↔
      a.runtimeId = b.runtimeId ∧ a.aggregateId = b.aggregateId := by
  constructor
  · intro h
    have hlist := congrArg String.toList h
    rw [toList_aggregateKey, toList_aggregateKey] at hlist
    obtain ⟨hsize, hrest⟩ := numeral_append_inj hlist
    obtain ⟨hruntime, haggregate⟩ := List.append_inj hrest
      (by rw [String.length_toList, String.length_toList, hsize])
    exact ⟨String.toList_injective hruntime,
      String.toList_injective (List.cons.inj haggregate).2⟩
  · rintro ⟨hruntime, haggregate⟩
    rw [aggregateKey, aggregateKey, hruntime, haggregate]

/-! ## What one call does -/

section Apply

variable {D : ApplicationDigests} {results : Results} {operation : OutboxOperation}
variable {result : ProviderDispatchResult} {firstDispatchAt completionTime : Timestamp}

/-- A call of `apply`. -/
abbrev applied (D : ApplicationDigests) (results : Results) (operation : OutboxOperation)
    (result : ProviderDispatchResult) (firstDispatchAt completionTime : Timestamp) :
    Except Failure (Option AppliedResult × Bool) × Results :=
  exec (applyResult D operation result firstDispatchAt completionTime) results

/-- The outcome of a call and the state it leaves. -/
inductive Applies (results : Results) (operation : OutboxOperation)
    (result : ProviderDispatchResult) :
    Except Failure (Option AppliedResult × Bool) × Results → Prop
  | filed (after : Results)
      (hfresh : ∀ existing, results.records[operation.idempotencyKey]? = some existing →
        existing.status ≠ .succeeded)
      (hversion : results.aggregateVersions[aggregateKey operation]?.getD 0 =
        operation.aggregateVersion)
      (happlied : after.applied =
        results.applied.insert operation.idempotencyKey (appliedResult operation result))
      (hversions : after.aggregateVersions =
        results.aggregateVersions.insert (aggregateKey operation)
          (operation.aggregateVersion + 1))
      (hrecord : ∃ record, after.records[operation.idempotencyKey]? = some record ∧
        record.status = .succeeded)
      (hrecords : ∀ key : String, key ≠ operation.idempotencyKey →
        after.records[key]? = results.records[key]?) :
      Applies results operation result
        (.ok (some (appliedResult operation result), true), after)
  | unfiled (outcome : Except Failure (Option AppliedResult × Bool)) (after : Results)
      (hnot : ∀ value, outcome ≠ .ok (value, true))
      (happlied : after.applied = results.applied)
      (hversions : after.aggregateVersions = results.aggregateVersions)
      (hrecords : ∀ (key : String) (record : IdempotencyRecord),
        results.records[key]? = some record → after.records[key]? = some record) :
      Applies results operation result (outcome, after)

/-- Records may have been begun, and nothing else has happened. -/
structure Results.Begun (results after : Results) : Prop where
  applied : after.applied = results.applied
  versions : after.aggregateVersions = results.aggregateVersions
  records : ∀ (key : String) (record : IdempotencyRecord),
    results.records[key]? = some record → after.records[key]? = some record

theorem Results.Begun.refl (results : Results) : results.Begun results :=
  ⟨rfl, rfl, fun _ _ h => h⟩

theorem beginRecord_cases (D : ApplicationDigests) (results : Results)
    (operation : OutboxOperation) (firstDispatchAt : Timestamp) :
    (∃ error, exec (beginRecord D operation firstDispatchAt) results =
        (.error error, results)) ∨
      ∃ record after,
        exec (beginRecord D operation firstDispatchAt) results = (.ok record, after) ∧
          results.Begun after ∧ after.records[operation.idempotencyKey]? = some record ∧
          (∀ key : String, key ≠ operation.idempotencyKey →
            after.records[key]? = results.records[key]?) ∧
          (after = results ∨ record.status = .dispatching) := by
  cases hrecord : results.records[operation.idempotencyKey]? with
  | none =>
    right
    simp only [beginRecord, hrecord, exec_bind, exec_get, exec_set,
      exec_pure]
    refine ⟨_, _, rfl, ⟨rfl, rfl, fun key found hfound => ?_⟩,
      Std.ExtTreeMap.getElem?_insert_self, fun key hkey => ?_, .inr rfl⟩
    · rw [Std.ExtTreeMap.getElem?_insert, if_neg]
      · exact hfound
      · intro hsame
        have hkey : operation.idempotencyKey = key := by simpa using hsame
        rw [← hkey, hrecord] at hfound
        cases hfound
    · rw [Std.ExtTreeMap.getElem?_insert, if_neg (by simpa using hkey.symm)]
  | some existing =>
    by_cases hrequest :
        existing.requestFingerprint = operation.requestFingerprint D.toDigests
    · refine .inr ⟨existing, results, ?_, .refl results, hrecord, fun _ _ => rfl, .inl rfl⟩
      simp [beginRecord, hrecord, hrequest]
    · refine .inl ⟨.outbox (.idempotencyConflict "Idempotency fingerprint changed"), ?_⟩
      simp [beginRecord, hrecord, hrequest]

theorem completeRecord_cases (D : ApplicationDigests) (results : Results)
    (operation : OutboxOperation) (result : ProviderDispatchResult)
    (firstDispatchAt completionTime : Timestamp) :
    (∃ error after,
        exec (completeRecord D operation result firstDispatchAt completionTime) results =
          (.error error, after) ∧ results.Begun after) ∨
      (∃ record,
        exec (completeRecord D operation result firstDispatchAt completionTime) results =
          (.ok (record, false), results)) ∨
      ∃ record after,
        exec (completeRecord D operation result firstDispatchAt completionTime) results =
            (.ok (record, true), after) ∧
          after.applied = results.applied ∧
          after.aggregateVersions = results.aggregateVersions ∧
          after.records[operation.idempotencyKey]? = some record ∧
          record.status = .succeeded ∧
          (∀ key : String, key ≠ operation.idempotencyKey →
            after.records[key]? = results.records[key]?) ∧
          ∀ existing, results.records[operation.idempotencyKey]? = some existing →
            existing.status ≠ .succeeded := by
  unfold completeRecord
  rcases beginRecord_cases D results operation firstDispatchAt with
    ⟨error, hbegin⟩ | ⟨existing, begun, hbegin, hbegun, hfound, hothers, hexisting⟩
  · exact .inl ⟨error, results, by simp [hbegin], .refl results⟩
  cases hdigest : D.resultFingerprint result.resultPayload with
  | error error => exact .inl ⟨error, begun, by simp [hbegin], hbegun⟩
  | ok fingerprint =>
    by_cases hsucceeded : existing.status = .succeeded
    · have hsame : begun = results := by
        obtain hsame | hdispatching := hexisting
        · exact hsame
        · rw [hsucceeded] at hdispatching
          cases hdispatching
      subst hsame
      by_cases hresult : existing.resultFingerprint = some fingerprint
      · exact .inr (.inl ⟨existing, by simp [hbegin, hsucceeded, hresult]⟩)
      · refine .inl ⟨.outbox (.idempotencyConflict "Provider result changed"), begun, ?_,
          .refl begun⟩
        simp [hbegin, hsucceeded, hresult]
    · right
      right
      simp only [hbegin, hsucceeded, exec_bind, exec_modify,
        exec_pure, if_false]
      refine ⟨_, _, rfl, hbegun.applied, hbegun.versions,
        Std.ExtTreeMap.getElem?_insert_self, rfl, fun key hkey => ?_, fun prior hprior => ?_⟩
      · rw [Std.ExtTreeMap.getElem?_insert, if_neg (by simpa using hkey.symm)]
        exact hothers key hkey
      · have hsame := hbegun.records _ _ hprior
        rw [hfound, Option.some.injEq] at hsame
        exact hsame ▸ hsucceeded

/-- What a call does. -/
theorem applies (D : ApplicationDigests) (results : Results) (operation : OutboxOperation)
    (result : ProviderDispatchResult) (firstDispatchAt completionTime : Timestamp) :
    Applies results operation result
      (applied D results operation result firstDispatchAt completionTime) := by
  have hunfiled : ∀ {error : Failure} {after : Results}, results.Begun after →
      Applies results operation result (.error error, after) := fun {error after} hbegun =>
    .unfiled _ after (fun _ h => by cases h) hbegun.applied hbegun.versions hbegun.records
  have hsuppressed : ∀ value, Applies results operation result
      (.ok (value, false),
        { results with duplicateSuppressions := results.duplicateSuppressions + 1 }) :=
    fun value => .unfiled _ _ (fun _ h => by cases h) rfl rfl fun _ _ h => h
  unfold applied applyResult
  have hcompletes := completeRecord_cases D results operation result firstDispatchAt
    completionTime
  by_cases hsucceeded :
      results.records[operation.idempotencyKey]?.any (·.status == .succeeded) = true
  · simp only [exec_bind, exec_get, if_pos hsucceeded]
    rcases hcompletes with
      ⟨error, after, hrun, hbegun⟩ | ⟨record, hrun⟩ |
        ⟨record, after, hrun, -, -, -, -, -, hfresh⟩
    · simp only [hrun]
      exact hunfiled hbegun
    · simp only [hrun, suppressDuplicate, exec_modify, exec_pure]
      exact hsuppressed _
    -- a record that succeeded is not completed again
    · cases hfound : results.records[operation.idempotencyKey]? with
      | none =>
          rw [hfound] at hsucceeded
          cases hsucceeded
      | some existing =>
          rw [hfound] at hsucceeded
          exact absurd (by simpa using hsucceeded) (hfresh existing hfound)
  · simp only [exec_bind, exec_get, if_neg hsucceeded]
    by_cases hversion : results.aggregateVersions[aggregateKey operation]?.getD 0 =
        operation.aggregateVersion
    · simp only [ne_eq, hversion, not_true_eq_false, if_false, exec_bind]
      rcases hcompletes with
        ⟨error, after, hrun, hbegun⟩ | ⟨record, hrun⟩ |
          ⟨record, after, hrun, happlied, hversions, hfound, hstatus, hothers, hfresh⟩
      · simp only [hrun]
        exact hunfiled hbegun
      · simp only [hrun, suppressDuplicate, if_true, exec_bind, exec_modify,
          exec_get, exec_pure]
        exact hsuppressed _
      · simp only [hrun, Bool.true_eq_false, if_false, exec_bind, exec_modify,
          exec_pure]
        refine .filed _ hfresh hversion ?_ ?_ ⟨record, hfound, hstatus⟩ hothers
        · rw [happlied]
        · rw [hversions]
    · simp only [ne_eq, hversion, not_false_eq_true, if_true, exec_throw,
        exec_bind]
      exact hunfiled (.refl results)

end Apply

/-! ## Sessions -/

/-- A call that applied a result. -/
structure Application where
  idempotencyKey : String
  runtimeId : String
  aggregateId : String
  version : Nat
  value : AppliedResult

/-- The application that a call made, if it made one. -/
def application (operation : OutboxOperation) :
    Except Failure (Option AppliedResult × Bool) → Option Application
  | .ok (some value, true) => some
      { idempotencyKey := operation.idempotencyKey
        runtimeId := operation.runtimeId
        aggregateId := operation.aggregateId
        version := operation.aggregateVersion
        value }
  | _ => none

/-- The state of a service, the applications that led to it, newest first, and the snapshots
that were taken, each with the applications that led to it. -/
structure Session where
  results : Results
  history : List Application
  saved : List (ResultsDocument × List Application)

/-- A new service. -/
def Session.init : Session where
  results := Results.init
  history := []
  saved := []

inductive SessionCall where
  | apply (operation : OutboxOperation) (result : ProviderDispatchResult)
      (firstDispatchAt completionTime : Timestamp)
  /-- Write a snapshot as JSON. -/
  | snapshot
  /-- Restore the service from one of the snapshots that were written. -/
  | restore (index : Nat)

/-- The session after a call; a snapshot that cannot be written is not saved. -/
def Session.after (D : ApplicationDigests) (session : Session) : SessionCall → Session
  | .apply operation result firstDispatchAt completionTime =>
    let (outcome, results) :=
      applied D session.results operation result firstDispatchAt completionTime
    { session with
      results
      history := (application operation outcome).toList ++ session.history }
  | .snapshot =>
    match session.results.snapshot.json with
    | some value => { session with saved := session.saved ++ [(value, session.history)] }
    | none => session
  | .restore index =>
    match session.saved[index]? with
    | some (value, history) => { session with results := restoreResults value, history }
    | none => session

/-- The session after some calls of a new service, oldest call first. -/
def Session.play (D : ApplicationDigests) (calls : List SessionCall) : Session :=
  calls.foldl (Session.after D) Session.init

/-- The versions applied to the aggregate of an operation, oldest first. -/
def versionsOf (history : List Application) (operation : OutboxOperation) : List Nat :=
  (history.reverse.filter fun entry =>
    entry.runtimeId = operation.runtimeId ∧ entry.aggregateId = operation.aggregateId).map
      (·.version)

/-- What is promised of the applications that led to a state.  An applied value comes back from
a snapshot as JSON represents it, and is otherwise never changed. -/
structure AppliedInOrder (history : List Application) (results : Results) : Prop where
  once : (history.map (·.idempotencyKey)).Nodup
  kept : ∀ entry ∈ history, ∃ value, results.applied[entry.idempotencyKey]? = some value ∧
    (value = entry.value ∨ entry.value.json = some value)
  only : ∀ key value, results.applied[key]? = some value →
    ∃ entry ∈ history, entry.idempotencyKey = key
  versions : ∀ operation : OutboxOperation,
    versionsOf history operation = List.range (versionsOf history operation).length
  counter : ∀ operation : OutboxOperation,
    results.aggregateVersions[aggregateKey operation]?.getD 0 =
      (versionsOf history operation).length

/-- The records next to the applications: what was applied has succeeded. -/
structure Recorded (history : List Application) (results : Results) : Prop
    extends AppliedInOrder history results where
  succeeded : ∀ entry ∈ history, ∃ record,
    results.records[entry.idempotencyKey]? = some record ∧ record.status = .succeeded

variable {history : List Application} {results : Results} {session : Session}

/-- A value that JSON represents exactly is never changed. -/
theorem AppliedInOrder.unchanged (h : AppliedInOrder history results) {entry : Application}
    (hentry : entry ∈ history) (hjson : entry.value.result.IsJson) :
    results.applied[entry.idempotencyKey]? = some entry.value := by
  obtain ⟨value, hvalue, hsame | hloaded⟩ := h.kept entry hentry
  · rw [hvalue, hsame]
  · rw [AppliedResult.json_of_isJson hjson] at hloaded
    rw [hvalue, hloaded]

theorem Recorded.init : Recorded [] Results.init where
  once := List.nodup_nil
  kept := fun _ h => by cases h
  only := fun key value h => by simp [Results.init] at h
  versions := fun _ => rfl
  counter := fun operation => by simp [Results.init, versionsOf]
  succeeded := fun _ h => by cases h

theorem versionsOf_cons (entry : Application) (history : List Application)
    (operation : OutboxOperation) :
    versionsOf (entry :: history) operation =
      versionsOf history operation ++
        if entry.runtimeId = operation.runtimeId ∧ entry.aggregateId = operation.aggregateId then
          [entry.version]
        else [] := by
  unfold versionsOf
  rw [List.reverse_cons, List.filter_append, List.map_append]
  congr 1
  by_cases hsame : entry.runtimeId = operation.runtimeId ∧
      entry.aggregateId = operation.aggregateId
  · simp [hsame]
  · rw [if_neg hsame]
    simp [hsame]

/-- A call that applies a result adds to the applications. -/
theorem Recorded.filed {operation : OutboxOperation} {result : ProviderDispatchResult}
    {after : Results} (h : Recorded history results)
    (hfresh : ∀ existing, results.records[operation.idempotencyKey]? = some existing →
      existing.status ≠ .succeeded)
    (hversion : results.aggregateVersions[aggregateKey operation]?.getD 0 =
      operation.aggregateVersion)
    (happlied : after.applied =
      results.applied.insert operation.idempotencyKey (appliedResult operation result))
    (hversions : after.aggregateVersions =
      results.aggregateVersions.insert (aggregateKey operation)
        (operation.aggregateVersion + 1))
    (hrecord : ∃ record, after.records[operation.idempotencyKey]? = some record ∧
      record.status = .succeeded)
    (hrecords : ∀ key : String, key ≠ operation.idempotencyKey →
      after.records[key]? = results.records[key]?) :
    Recorded
      ({ idempotencyKey := operation.idempotencyKey
         runtimeId := operation.runtimeId
         aggregateId := operation.aggregateId
         version := operation.aggregateVersion
         value := appliedResult operation result } :: history) after := by
  have hother : ∀ entry ∈ history, entry.idempotencyKey ≠ operation.idempotencyKey := by
    intro entry hentry hsame
    obtain ⟨record, hfound, hstatus⟩ := h.succeeded entry hentry
    rw [hsame] at hfound
    exact hfresh record hfound hstatus
  have hkept : ∀ key : String, key ≠ operation.idempotencyKey →
      after.applied[key]? = results.applied[key]? := by
    intro key hkey
    rw [happlied, Std.ExtTreeMap.getElem?_insert, if_neg (by simpa using hkey.symm)]
  have hlength : (versionsOf history operation).length = operation.aggregateVersion := by
    rw [← h.counter operation, hversion]
  have hsamePair : ∀ other : OutboxOperation,
      operation.runtimeId = other.runtimeId ∧ operation.aggregateId = other.aggregateId →
        versionsOf history other = versionsOf history operation := by
    rintro other ⟨hruntime, haggregate⟩
    simp only [versionsOf, hruntime, haggregate]
  constructor
  · constructor
    · rw [List.map_cons, List.nodup_cons]
      refine ⟨fun hmem => ?_, h.once⟩
      obtain ⟨entry, hentry, hsame⟩ := List.mem_map.mp hmem
      exact hother entry hentry hsame
    · intro entry hentry
      rcases List.mem_cons.mp hentry with rfl | hold
      · exact ⟨_, by rw [happlied, Std.ExtTreeMap.getElem?_insert_self], .inl rfl⟩
      · rw [hkept _ (hother entry hold)]
        exact h.kept entry hold
    · intro key value hvalue
      by_cases hkey : key = operation.idempotencyKey
      · exact ⟨_, List.mem_cons_self, hkey.symm⟩
      · rw [hkept key hkey] at hvalue
        obtain ⟨entry, hentry, hsame⟩ := h.only key value hvalue
        exact ⟨entry, List.mem_cons_of_mem _ hentry, hsame⟩
    · intro other
      rw [versionsOf_cons]
      split
      · rename_i hpair
        rw [hsamePair other hpair, List.length_append, List.length_singleton,
          List.range_succ, ← h.versions operation, hlength]
      · rw [List.append_nil]
        exact h.versions other
    · intro other
      rw [versionsOf_cons, hversions, Std.ExtTreeMap.getElem?_insert]
      by_cases hpair : operation.runtimeId = other.runtimeId ∧
          operation.aggregateId = other.aggregateId
      · have hkey := (aggregateKey_eq_iff operation other).mpr hpair
        rw [if_pos (by simpa using hkey), if_pos hpair, hsamePair other hpair]
        simp [hlength]
      · have hkey : aggregateKey operation ≠ aggregateKey other :=
          fun hsame => hpair ((aggregateKey_eq_iff operation other).mp hsame)
        rw [if_neg (by simpa using hkey), if_neg hpair, List.append_nil]
        exact h.counter other
  · intro entry hentry
    rcases List.mem_cons.mp hentry with rfl | hold
    · exact hrecord
    · rw [hrecords _ (hother entry hold)]
      exact h.succeeded entry hold

/-- A call that applies nothing leaves the applications as they are. -/
theorem Recorded.unfiled {after : Results} (h : Recorded history results)
    (happlied : after.applied = results.applied)
    (hversions : after.aggregateVersions = results.aggregateVersions)
    (hrecords : ∀ (key : String) (record : IdempotencyRecord),
      results.records[key]? = some record → after.records[key]? = some record) :
    Recorded history after where
  once := h.once
  kept := by
    rw [happlied]
    exact h.kept
  only := by
    rw [happlied]
    exact h.only
  versions := h.versions
  counter := by
    rw [hversions]
    exact h.counter
  succeeded := by
    intro entry hentry
    obtain ⟨record, hfound, hstatus⟩ := h.succeeded entry hentry
    exact ⟨record, hrecords _ _ hfound, hstatus⟩

theorem application_of_not {operation : OutboxOperation}
    {outcome : Except Failure (Option AppliedResult × Bool)}
    (hnot : ∀ value, outcome ≠ .ok (value, true)) : application operation outcome = none := by
  unfold application
  split
  · exact absurd rfl (hnot _)
  · rfl

theorem Recorded.applied (h : Recorded history results) (D : ApplicationDigests)
    (operation : OutboxOperation) (result : ProviderDispatchResult)
    (firstDispatchAt completionTime : Timestamp) :
    Recorded
      ((application operation
          (Outbox.applied D results operation result firstDispatchAt completionTime).1).toList ++
        history)
      (Outbox.applied D results operation result firstDispatchAt completionTime).2 := by
  have happlies := applies D results operation result firstDispatchAt completionTime
  generalize Outbox.applied D results operation result firstDispatchAt completionTime = run
    at happlies ⊢
  cases happlies with
  | filed after hfresh hversion happlied hversions hrecord hrecords =>
    exact h.filed hfresh hversion happlied hversions hrecord hrecords
  | unfiled outcome after hnot happlied hversions hrecords =>
    rw [application_of_not hnot]
    exact h.unfiled happlied hversions hrecords

theorem Recorded.restored (h : Recorded history results) {value : ResultsDocument}
    (hjson : results.snapshot.json = some value) : Recorded history (restoreResults value) := by
  obtain ⟨loaded, hloaded, rfl⟩ := Option.map_eq_some_iff.mp hjson
  have hentries := getElem?_decodeRecords hloaded
  constructor
  · constructor
    · exact h.once
    · intro entry hentry
      obtain ⟨value, hvalue, hsame⟩ := h.kept entry hentry
      obtain ⟨hdecoded, hwritten⟩ := hentries entry.idempotencyKey
      obtain ⟨written, hjson⟩ := Option.isSome_iff_exists.mp (hwritten value hvalue)
      refine ⟨written, ?_, .inr ?_⟩
      · change loaded[entry.idempotencyKey]? = some written
        rw [hdecoded]
        change (results.applied[entry.idempotencyKey]?).bind _ = _
        rw [hvalue]
        exact hjson
      · obtain rfl | hbefore := hsame
        · exact hjson
        · rw [AppliedResult.json_json hbefore, Option.some.injEq] at hjson
          rw [← hjson]
          exact hbefore
    · intro key value hvalue
      obtain ⟨hdecoded, -⟩ := hentries key
      change loaded[key]? = some value at hvalue
      rw [hdecoded] at hvalue
      obtain ⟨written, hfound, -⟩ := Option.bind_eq_some_iff.mp hvalue
      exact h.only key written hfound
    · exact h.versions
    · exact h.counter
  · exact h.succeeded

/-- Every state of a session and every snapshot in it is the outcome of its applications. -/
structure Session.Sound (session : Session) : Prop where
  current : Recorded session.history session.results
  saved : ∀ entry ∈ session.saved, Recorded entry.2 (restoreResults entry.1)

theorem Session.Sound.after (h : session.Sound) (D : ApplicationDigests) (call : SessionCall) :
    (session.after D call).Sound := by
  cases call with
  | apply operation result firstDispatchAt completionTime =>
    exact ⟨h.current.applied D operation result firstDispatchAt completionTime, h.saved⟩
  | snapshot =>
    unfold Session.after
    cases hjson : session.results.snapshot.json with
    | none => exact h
    | some value =>
        refine ⟨h.current, fun entry hentry => ?_⟩
        rcases List.mem_append.mp hentry with hold | hnew
        · exact h.saved entry hold
        · rw [List.mem_singleton.mp hnew]
          exact h.current.restored hjson
  | restore index =>
    cases hsaved : session.saved[index]? with
    | none =>
        simp only [Session.after, hsaved]
        exact h
    | some entry =>
        simp only [Session.after, hsaved]
        exact ⟨h.saved entry (List.mem_of_getElem? hsaved), h.saved⟩

theorem Session.Sound.play (D : ApplicationDigests) (calls : List SessionCall) :
    (Session.play D calls).Sound := by
  have hfold : ∀ session : Session, session.Sound →
      (calls.foldl (Session.after D) session).Sound := by
    induction calls with
    | nil => exact fun _ h => h
    | cons call rest ih => exact fun session h => ih _ (h.after D call)
  exact hfold Session.init ⟨Recorded.init, fun _ h => by cases h⟩

/-- Results are applied once and in order, whatever is called: the applications that led to the
state of a service are in order, a call that raises files nothing, and aggregates do not share
version counters. -/
theorem applied_in_order (D : ApplicationDigests) (calls : List SessionCall) :
    let session := Session.play D calls
    AppliedInOrder session.history session.results ∧
      (∀ entry ∈ session.history, entry.value.result.IsJson →
        session.results.applied[entry.idempotencyKey]? = some entry.value) ∧
      (∀ operation result firstDispatchAt completionTime error after,
        applied D session.results operation result firstDispatchAt completionTime =
            (.error error, after) →
          after.applied = session.results.applied ∧
            after.aggregateVersions = session.results.aggregateVersions) ∧
      ∀ a b : OutboxOperation, aggregateKey a = aggregateKey b ↔
        a.runtimeId = b.runtimeId ∧ a.aggregateId = b.aggregateId := by
  intro session
  have hsound : session.Sound := Session.Sound.play D calls
  have horder := hsound.current.toAppliedInOrder
  refine ⟨horder, fun entry hentry hjson => horder.unchanged hentry hjson, ?_, aggregateKey_eq_iff⟩
  intro operation result firstDispatchAt completionTime error after hrun
  have happlies := applies D session.results operation result firstDispatchAt completionTime
  rw [hrun] at happlies
  cases happlies with
  | unfiled _ _ hnot happlied hversions hrecords => exact ⟨happlied, hversions⟩

def firstOperation : OutboxOperation :=
  { sampleOperation with aggregateVersion := 0 }

/-- A result whose payload holds a tuple. -/
def tupleResult : ProviderDispatchResult where
  resultReference := "reference"
  resultPayload := [(.text "ids", .tuple [.int 1])]

def restartedTuple : List SessionCall :=
  [.apply firstOperation tupleResult 0 0, .snapshot, .restore 0]

/-- The service goes back to a snapshot of the time before it applied the result. -/
def rewound : List SessionCall :=
  [.snapshot, .apply firstOperation tupleResult 0 0, .restore 0]

/-- The only entry of the payload is a tuple. -/
def AppliedResult.holdsTuple (value : AppliedResult) : Bool :=
  match value.result with
  | [(_, .tuple _)] => true
  | _ => false

/-- A restart makes a list of an applied tuple, and a result is applied once more after the
service has gone back to an older snapshot. -/
theorem not_applied_unchanged :
    (¬∀ (D : ApplicationDigests) (calls : List SessionCall),
        ∀ entry ∈ (Session.play D calls).history,
          (Session.play D calls).results.applied[entry.idempotencyKey]? = some entry.value) ∧
      (application firstOperation
        (applied sampleApplicationDigests
          (Session.play sampleApplicationDigests rewound).results firstOperation tupleResult
            0 0).1).isSome = true := by
  refine ⟨fun hclaim => ?_, by decide +kernel⟩
  have hsession := hclaim sampleApplicationDigests restartedTuple
  have hhistory : (Session.play sampleApplicationDigests restartedTuple).history.map
      (fun entry => (entry.idempotencyKey, entry.value.holdsTuple)) =
        [(firstOperation.idempotencyKey, true)] := by decide +kernel
  have hstored : ((Session.play sampleApplicationDigests restartedTuple).results.applied[
      firstOperation.idempotencyKey]?).map (·.holdsTuple) = some false := by decide +kernel
  obtain ⟨entry, hentries, hentry⟩ := List.map_eq_singleton_iff.mp hhistory
  obtain ⟨hkey, htuple⟩ := Prod.mk.inj hentry
  have hkept := hsession entry (by rw [hentries]; exact List.mem_singleton_self _)
  rw [hkey] at hkept
  rw [hkept, Option.map_some, htuple] at hstored
  cases hstored

end Outbox
end Ascos
