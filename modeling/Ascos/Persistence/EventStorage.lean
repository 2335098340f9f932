import Ascos.Library.Lineage
import Ascos.Persistence.EventPayload
import Ascos.Persistence.Stream

/-!
# Stored events

Events go into the database on two paths: `append_event_batch` is given the events, and
`commit_checkpoint` the mappings that `_capture` made of them.  Both encode the payload
that they are given; the payload of a captured event has been encoded already.

Main results:

- Theorem `events_read_back_iff`: every event of a run is read back as it was published
  exactly when no event is committed through a checkpoint and every appended payload can be
  restored.
- Theorem `rowToEvent_captured`: what is read for an event that a checkpoint committed.
-/

namespace Ascos
namespace Persistence

open Library
open Outbox (Timestamp)

/-! ## Events -/

/-- The values of `EventType`. -/
def eventTypeValues : List String :=
  (enumTypes.lookup "EventType").getD []

/-- A member of `EventType`. -/
structure EventType where
  value : String
  registered : value ∈ eventTypeValues

/-- `EventType(value)`. -/
def EventType.ofValue (value : String) : Except Failure EventType :=
  if h : value ∈ eventTypeValues then pure ⟨value, h⟩ else throw .malformed

/-- What the constructor of an event is given. -/
structure EventFields where
  id : String
  eventType : EventType
  aggregateType : String
  aggregateId : String
  sequenceNumber : Int
  payload : Object
  occurredAt : String
  correlationId : Option String
  causationId : Option String

/-- What the constructor of an event leaves behind. -/
structure EventData where
  id : String
  eventType : EventType
  aggregateType : String
  aggregateId : String
  sequenceNumber : Int
  payload : EventPayload
  occurredAt : String
  correlationId : Option String
  causationId : Option String

/-- `validate_optional_string`. -/
def optionalString (value : Option String) (fieldName : String) : Except Failure Unit :=
  match value with
  | none => pure ()
  | some value => requireString value fieldName

/-- The checks of `RuntimeEvent.__post_init__` before it freezes the payload. -/
def EventFields.check (P : Platform) (fields : EventFields) : Except Failure Unit := do
  requireString fields.id "RuntimeEvent.id"
  requireString fields.aggregateType "RuntimeEvent.aggregate_type"
  requireString fields.aggregateId "RuntimeEvent.aggregate_id"
  if fields.sequenceNumber < 1 then
    throw (.validation "RuntimeEvent.sequence_number must be a positive integer")
  if P.utc fields.occurredAt = false then
    throw (.validation "RuntimeEvent.occurred_at must be timezone-aware UTC")
  optionalString fields.correlationId "RuntimeEvent.correlation_id"
  optionalString fields.causationId "RuntimeEvent.causation_id"

def EventFields.postInit (P : Platform) (fields : EventFields) : Except Failure EventData := do
  fields.check P
  let payload ← frozenPayload fields.payload
  pure { fields with payload }

/-- The arguments that differ from an event in its payload. -/
def EventData.withObject (event : EventData) (object : Object) : EventFields :=
  { event with payload := object }

/-- `RuntimeEvent`: its construction succeeded. -/
structure RuntimeEvent (P : Platform) extends EventData where
  constructed : ∃ object, (toEventData.withObject object).postInit P = .ok toEventData

variable {P : Platform}

/-! ## The two writers -/

/-- What `append_event_batch` stores of an event. -/
def EventData.document (event : EventData) : EventDocument where
  id := event.id
  aggregateType := event.aggregateType
  aggregateId := event.aggregateId
  sequenceNumber := event.sequenceNumber
  eventType := event.eventType.value
  occurredAt := event.occurredAt
  correlationId := event.correlationId
  causationId := event.causationId
  payload := event.payload.value

mutual

def Json.value : Json → Value
  | .null => .null
  | .bool value => .bool value
  | .int value => .int value
  | .float literal => .float literal
  | .string value => .text value
  | .array items => .sequence (arrayValues items)
  | .object members => .mapping (memberValues members)

def arrayValues : List Json → List Value
  | [] => []
  | item :: items => item.value :: arrayValues items

def memberValues : List (String × Json) → List (String × Value)
  | [] => []
  | (key, item) :: members => (key, item.value) :: memberValues members

end

/-- A text or `None`. -/
def optionalText : Option String → Value
  | none => .null
  | some value => .text value

/-- The mapping that `_capture` makes of an event, with its keys in order. -/
def EventData.captured (event : EventData) : Value :=
  .mapping
    [("aggregate_id", .text event.aggregateId),
      ("aggregate_type", .text event.aggregateType),
      ("causation_id", optionalText event.causationId),
      ("correlation_id", optionalText event.correlationId),
      ("event_type", .text event.eventType.value),
      ("id", .text event.id),
      ("occurred_at", .text event.occurredAt),
      ("payload", (encodeValue event.payload.value).value),
      ("sequence_number", .int event.sequenceNumber)]

/-- What `commit_checkpoint` stores of a captured event. -/
def EventData.capturedDocument (event : EventData) : EventDocument :=
  { event.document with payload := (encodeValue event.payload.value).value }

theorem readEvent_captured (event : EventData) :
    readEvent event.captured = .ok event.capturedDocument := by
  unfold EventData.captured EventData.capturedDocument EventData.document
  cases event.causationId <;> cases event.correlationId <;> rfl

/-! ## The readers -/

def rowToEvent (P : Platform) (aware : AwareTime) (row : EventRow) : Except Failure EventData := do
  let payload ← decoded aware row.canonicalPayload
  let eventType ← EventType.ofValue row.eventType
  EventFields.postInit P
    { id := row.eventId
      aggregateType := row.aggregateType
      aggregateId := row.aggregateId
      sequenceNumber := row.aggregateSequence
      eventType
      occurredAt := row.occurredAt
      correlationId := row.correlationId
      causationId := row.causationId
      payload := payload.object }

def getEvent (P : Platform) (aware : AwareTime) (db : Database) (eventId : String) :
    Except Failure EventData :=
  match db.events.find? fun row => row.eventId = eventId with
  | none => throw (.eventNotFound eventId)
  | some row => rowToEvent P aware row

def listEvents (P : Platform) (aware : AwareTime) (db : Database) (runtimeId : String)
    (afterPosition : Nat) : Except Failure (List EventData) :=
  ((db.stream runtimeId).filter fun row => afterPosition < row.globalPosition).mapM
    (rowToEvent P aware)

/-! ## Events that are read back -/

/-- An event was constructed when its checks passed and its payload is a frozen one. -/
theorem postInit_ok_iff {event : EventData} {object : Object} {data : EventData} :
    (event.withObject object).postInit P = .ok data ↔
      (event.withObject object).check P = .ok () ∧
        ∃ payload, frozenPayload object = .ok payload ∧ { event with payload } = data := by
  rw [EventFields.postInit, Checks.check_ok_iff, Checks.bind_ok_iff]
  simp only [Checks.pure_ok_iff]
  rfl

theorem EventType.ofValue_value (eventType : EventType) :
    EventType.ofValue eventType.value = .ok eventType :=
  dif_pos eventType.registered

theorem rowToEvent_row (aware : AwareTime) (event : EventData) (runtimeId : String)
    (position sequence : Nat) (hsequence : event.sequenceNumber = sequence)
    (payload : Value) :
    rowToEvent P aware (eventRow runtimeId position sequence { event.document with payload }) =
      (do let decodedPayload ← decoded aware (encodeValue payload)
          (event.withObject decodedPayload.object).postInit P) := by
  unfold rowToEvent
  simp only [eventRow, EventData.document, EventType.ofValue_value]
  rw [← hsequence]
  cases decoded aware (encodeValue payload) <;> rfl

theorem RuntimeEvent.payload_frozen (event : RuntimeEvent P) :
    ∃ object, frozenPayload object = .ok event.payload := by
  obtain ⟨object, hconstructed⟩ := event.constructed
  obtain ⟨-, payload, hpayload, heq⟩ := postInit_ok_iff.mp hconstructed
  have hsame : payload = event.payload := congrArg EventData.payload heq
  exact ⟨object, hsame ▸ hpayload⟩

theorem RuntimeEvent.postInit_withObject (event : RuntimeEvent P) {object : Object}
    {payload : EventPayload} (h : frozenPayload object = .ok payload) :
    (event.withObject object).postInit P = .ok { event.toEventData with payload } := by
  obtain ⟨_, hconstructed⟩ := event.constructed
  exact postInit_ok_iff.mpr ⟨(postInit_ok_iff.mp hconstructed).1, payload, h, rfl⟩

theorem rowToEvent_document {aware : AwareTime} (event : RuntimeEvent P) (runtimeId : String)
    (position sequence : Nat) (hsequence : event.sequenceNumber = sequence)
    (h : event.payload.Readable aware) :
    rowToEvent P aware (eventRow runtimeId position sequence event.document) =
      .ok event.toEventData := by
  obtain ⟨object, hfrozen⟩ := event.payload_frozen
  obtain ⟨hdecoded, hobject⟩ := h.decoded hfrozen
  rw [show event.document = { event.document with payload := event.payload.value } from rfl,
    rowToEvent_row aware _ _ _ _ hsequence, hdecoded]
  exact event.postInit_withObject hobject

theorem readable_of_rowToEvent {aware : AwareTime} {event data : EventData} {runtimeId : String}
    {position sequence : Nat} (hsequence : event.sequenceNumber = sequence) {payload : Value}
    (h : rowToEvent P aware
      (eventRow runtimeId position sequence { event.document with payload }) = .ok data) :
    data.payload.Readable aware := by
  rw [rowToEvent_row aware _ _ _ _ hsequence, Checks.bind_ok_iff] at h
  obtain ⟨value, hdecoded, hconstructed⟩ := h
  obtain ⟨-, frozen, hfrozen, rfl⟩ := postInit_ok_iff.mp hconstructed
  exact readable_of_decoded hdecoded hfrozen

/-! ## Payloads that are encoded twice -/

mutual

def Json.payload : Json → EventPayload
  | .null => .null
  | .bool value => .bool value
  | .int value => .int value
  | .float literal => .float literal
  | .string value => .text value
  | .array items => .tuple (arrayPayloads items)
  | .object members => .mapping (memberPayloads members)

def arrayPayloads : List Json → List EventPayload
  | [] => []
  | item :: items => item.payload :: arrayPayloads items

def memberPayloads : List (String × Json) → List (String × EventPayload)
  | [] => []
  | (key, item) :: members => (key, item.payload) :: memberPayloads members

end

mutual

theorem Json.value_payload (json : Json) : json.payload.value = json.value := by
  match json with
  | .null => rfl
  | .bool _ => rfl
  | .int _ => rfl
  | .float _ => rfl
  | .string _ => rfl
  | .array items => exact congrArg Value.sequence (arrayValues_payloads items)
  | .object members => exact congrArg Value.mapping (memberValues_payloads members)

theorem arrayValues_payloads (items : List Json) :
    listValues (arrayPayloads items) = arrayValues items := by
  match items with
  | [] => rfl
  | item :: items =>
      exact congrArg₂ List.cons (Json.value_payload item) (arrayValues_payloads items)

theorem memberValues_payloads (members : List (String × Json)) :
    itemValues (memberPayloads members) = memberValues members := by
  match members with
  | [] => rfl
  | (key, item) :: members =>
    exact congrArg₂ (fun value rest => (key, value) :: rest) (Json.value_payload item)
      (memberValues_payloads members)

end

mutual

theorem Json.readable_payload (aware : AwareTime) (json : Json) :
    json.payload.Readable aware := by
  match json with
  | .null => trivial
  | .bool _ => trivial
  | .int _ => trivial
  | .float _ => trivial
  | .string _ => trivial
  | .array items => exact arrayPayloads_readable aware items
  | .object members => exact memberPayloads_readable aware members

theorem arrayPayloads_readable (aware : AwareTime) (items : List Json) :
    ListReadable aware (arrayPayloads items) := by
  match items with
  | [] => trivial
  | item :: items =>
      exact ⟨Json.readable_payload aware item, arrayPayloads_readable aware items⟩

theorem memberPayloads_readable (aware : AwareTime) (members : List (String × Json)) :
    ItemsReadable aware (memberPayloads members) := by
  match members with
  | [] => trivial
  | (_, item) :: members =>
      exact ⟨Json.readable_payload aware item, memberPayloads_readable aware members⟩

end

theorem mem_memberPayloads {members : List (String × Json)} {item : String × EventPayload}
    (h : item ∈ memberPayloads members) : ∃ member ∈ members, member.1 = item.1 := by
  induction members with
  | nil => cases h
  | cons member members ih =>
    rcases List.mem_cons.mp h with rfl | hrest
    · exact ⟨member, List.mem_cons_self, rfl⟩
    · obtain ⟨found, hfound, hkey⟩ := ih hrest
      exact ⟨found, List.mem_cons_of_mem _ hfound, hkey⟩

theorem pairwise_memberPayloads {items : List (String × Value)}
    (h : items.Pairwise fun a b => a.1 < b.1) :
    (memberPayloads (encodeItems items)).Pairwise fun a b => a.1 < b.1 := by
  induction items with
  | nil => exact List.Pairwise.nil
  | cons item items ih =>
    obtain ⟨hhead, htail⟩ := List.pairwise_cons.mp h
    refine List.Pairwise.cons (fun other hother => ?_) (ih htail)
    obtain ⟨member, hmember, hkey⟩ := mem_memberPayloads hother
    obtain ⟨found, hfound, hsame⟩ := mem_encodeItems hmember
    exact hkey ▸ hsame ▸ hhead found hfound

theorem ordered_typed (kind key : String) (payload : EventPayload) (hkey : "$type" < key)
    (h : payload.Ordered) :
    (EventPayload.mapping [("$type", .text kind), (key, payload)]).Ordered :=
  ⟨List.pairwise_pair.mpr hkey, trivial, h, trivial⟩

mutual

theorem ordered_encodeValue (aware : AwareTime) (value : Value) (hcanonical : value.Canonical)
    (hlegible : value.Legible aware) : (encodeValue value).payload.Ordered := by
  match value, hcanonical, hlegible with
  | .null, _, _ => trivial
  | .bool _, _, _ => trivial
  | .int _, _, _ => trivial
  | .float _, _, _ => trivial
  | .text _, _, _ => trivial
  | .datetime _, _, _ => exact ordered_typed _ _ _ (by decide +kernel) trivial
  | .bytes _, _, _ => exact ordered_typed _ _ _ (by decide +kernel) trivial
  | .mapping items, hcanonical, hlegible =>
    refine ordered_typed _ _ _ (by decide +kernel) ?_
    rw [sortMembers_encodeItems hcanonical.1]
    exact ⟨pairwise_memberPayloads hcanonical.1,
      ordered_encodeItems aware items hcanonical.2 hlegible⟩
  | .sequence items, hcanonical, hlegible =>
    exact ordered_typed _ _ _ (by decide +kernel)
      (ordered_encodeList aware items hcanonical hlegible)
  | .set items, hcanonical, hlegible =>
    refine ordered_typed _ _ _ (by decide +kernel) ?_
    rw [sortTexts_encodeList hcanonical.1]
    exact ordered_encodeList aware items hcanonical.2 hlegible

theorem ordered_encodeItems (aware : AwareTime) (items : List (String × Value))
    (hcanonical : CanonicalItems items) (hlegible : LegibleItems aware items) :
    ItemsOrdered (memberPayloads (encodeItems items)) := by
  match items, hcanonical, hlegible with
  | [], _, _ => trivial
  | (_, item) :: items, hcanonical, hlegible =>
    exact ⟨ordered_encodeValue aware item hcanonical.1 hlegible.1,
      ordered_encodeItems aware items hcanonical.2 hlegible.2⟩

theorem ordered_encodeList (aware : AwareTime) (items : List Value)
    (hcanonical : CanonicalList items) (hlegible : LegibleList aware items) :
    ListOrdered (arrayPayloads (encodeList items)) := by
  match items, hcanonical, hlegible with
  | [], _, _ => trivial
  | item :: items, hcanonical, hlegible =>
    exact ⟨ordered_encodeValue aware item hcanonical.1 hlegible.1,
      ordered_encodeList aware items hcanonical.2 hlegible.2⟩

end

mutual

def Value.size : Value → Nat
  | .mapping items => itemsSize items + 1
  | .sequence items | .set items => listSize items + 1
  | _ => 1

def itemsSize : List (String × Value) → Nat
  | [] => 0
  | (_, item) :: items => item.size + itemsSize items

def listSize : List Value → Nat
  | [] => 0
  | item :: items => item.size + listSize items

end

theorem size_typed (kind key : String) (json : Json) :
    (typed kind [(key, json)]).value.size = json.value.size + 2 := by
  simp only [typed, Json.value, memberValues, Value.size, itemsSize]
  omega

mutual

theorem size_encodeValue (aware : AwareTime) (value : Value) (hcanonical : value.Canonical)
    (hlegible : value.Legible aware) : value.size ≤ (encodeValue value).value.size := by
  match value, hcanonical, hlegible with
  | .null, _, _ => exact Nat.le_refl _
  | .bool _, _, _ => exact Nat.le_refl _
  | .int _, _, _ => exact Nat.le_refl _
  | .float _, _, _ => exact Nat.le_refl _
  | .text _, _, _ => exact Nat.le_refl _
  | .datetime _, _, _ =>
    rw [encodeValue, size_typed]
    exact Nat.le_add_left 1 _
  | .bytes _, _, _ =>
    rw [encodeValue, size_typed]
    exact Nat.le_add_left 1 _
  | .mapping items, hcanonical, hlegible =>
    have hitems := size_encodeItems aware items hcanonical.2 hlegible
    rw [encodeValue, size_typed, sortMembers_encodeItems hcanonical.1]
    simp only [Json.value, Value.size]
    omega
  | .sequence items, hcanonical, hlegible =>
    have hitems := size_encodeList aware items hcanonical hlegible
    rw [encodeValue, size_typed]
    simp only [Json.value, Value.size]
    omega
  | .set items, hcanonical, hlegible =>
    have hitems := size_encodeList aware items hcanonical.2 hlegible
    rw [encodeValue, size_typed, sortTexts_encodeList hcanonical.1]
    simp only [Json.value, Value.size]
    omega

theorem size_encodeItems (aware : AwareTime) (items : List (String × Value))
    (hcanonical : CanonicalItems items) (hlegible : LegibleItems aware items) :
    itemsSize items ≤ itemsSize (memberValues (encodeItems items)) := by
  match items, hcanonical, hlegible with
  | [], _, _ => exact Nat.le_refl _
  | (key, item) :: items, hcanonical, hlegible =>
    exact Nat.add_le_add (size_encodeValue aware item hcanonical.1 hlegible.1)
      (size_encodeItems aware items hcanonical.2 hlegible.2)

theorem size_encodeList (aware : AwareTime) (items : List Value)
    (hcanonical : CanonicalList items) (hlegible : LegibleList aware items) :
    listSize items ≤ listSize (arrayValues (encodeList items)) := by
  match items, hcanonical, hlegible with
  | [], _, _ => exact Nat.le_refl _
  | item :: items, hcanonical, hlegible =>
    exact Nat.add_le_add (size_encodeValue aware item hcanonical.1 hlegible.1)
      (size_encodeList aware items hcanonical.2 hlegible.2)

end

theorem size_encodeValue_mapping {aware : AwareTime} {items : List (String × Value)}
    (hcanonical : (Value.mapping items).Canonical)
    (hlegible : (Value.mapping items).Legible aware) :
    (Value.mapping items).size < (encodeValue (.mapping items)).value.size := by
  have hitems := size_encodeItems aware items hcanonical.2 hlegible
  rw [encodeValue, size_typed, sortMembers_encodeItems hcanonical.1]
  simp only [Json.value, Value.size]
  omega

/-! ## Captured events -/

/-- The event whose payload is what the encoder makes of the payload of an event. -/
def EventData.tagged (event : EventData) : EventData :=
  { event with payload := (encodeValue event.payload.value).payload }

theorem capturedDocument_eq (event : EventData) :
    event.capturedDocument = event.tagged.document := by
  unfold EventData.capturedDocument EventData.tagged EventData.document
  rw [Json.value_payload]

theorem frozenPayload_tagged {aware : AwareTime} {payload : EventPayload} {object : Object}
    (hfrozen : frozenPayload object = .ok payload) (hreadable : payload.Readable aware) :
    frozenPayload (encodeValue payload.value).payload.value.object =
      .ok (encodeValue payload.value).payload := by
  have hordered := ordered_of_freeze object payload (frozenPayload_ok hfrozen)
  have htagged := ordered_encodeValue aware payload.value
    (hreadable.canonical payload hordered) (hreadable.legible payload)
  have hobject := (Json.readable_payload aware (encodeValue payload.value)).freeze_object _ htagged
  obtain ⟨items, rfl⟩ := exists_mapping_of_frozenPayload hfrozen
  exact hobject

theorem RuntimeEvent.tagged_ne {aware : AwareTime} (event : RuntimeEvent P)
    (hreadable : event.payload.Readable aware) : event.tagged ≠ event.toEventData := by
  obtain ⟨object, hfrozen⟩ := event.payload_frozen
  have hordered := ordered_of_freeze object _ (frozenPayload_ok hfrozen)
  have hcanonical := hreadable.canonical _ hordered
  have hlegible := hreadable.legible
  intro heq
  have hsame : (encodeValue event.payload.value).payload = event.payload :=
    congrArg EventData.payload heq
  have hsize : event.payload.value.size < (encodeValue event.payload.value).value.size := by
    obtain ⟨items, hitems⟩ := exists_mapping_of_frozenPayload hfrozen
    rw [hitems] at hcanonical hlegible ⊢
    exact size_encodeValue_mapping hcanonical hlegible
  rw [← Json.value_payload, hsame] at hsize
  exact Nat.lt_irrefl _ hsize

/-- An event with a readable payload that a checkpoint committed is read back with its encoded
payload. -/
theorem rowToEvent_captured {aware : AwareTime} (event : RuntimeEvent P) (runtimeId : String)
    (position sequence : Nat) (hsequence : event.sequenceNumber = sequence)
    (h : event.payload.Readable aware) :
    rowToEvent P aware (eventRow runtimeId position sequence event.capturedDocument) =
      .ok event.tagged := by
  obtain ⟨object, hfrozen⟩ := event.payload_frozen
  have htagged := frozenPayload_tagged hfrozen h
  -- the row is the one that is appended for the event with the encoded payload
  let tagged : RuntimeEvent P := ⟨event.tagged, _, event.postInit_withObject htagged⟩
  rw [capturedDocument_eq]
  exact rowToEvent_document tagged runtimeId position sequence hsequence
    (Json.readable_payload aware _)

theorem rowToEvent_captured_ne {aware : AwareTime} (event : RuntimeEvent P) (runtimeId : String)
    (position sequence : Nat) (hsequence : event.sequenceNumber = sequence) :
    rowToEvent P aware (eventRow runtimeId position sequence event.capturedDocument) ≠
      .ok event.toEventData := by
  intro hread
  have hreadable : event.payload.Readable aware := readable_of_rowToEvent hsequence hread
  rw [rowToEvent_captured event runtimeId position sequence hsequence hreadable] at hread
  exact event.tagged_ne hreadable (Except.ok.inj hread)

/-! ## Runs -/

/-- A checkpoint that `_capture` made of the events of a store; its digest was computed, so what
it holds can be written. -/
structure CapturedCheckpoint (P : Platform) where
  checkpoint : RuntimeCheckpoint P
  events : List (RuntimeEvent P)
  captured : payloadEvents checkpoint.payload =
    .ok (events.map fun event => event.captured)
  writable : ∀ event ∈ events, event.payload.writable = true

/-- The call inserts events. -/
def Call.writes : Call P → Bool
  | .commit _ _ _ _ _ => true
  | .append _ _ _ => true
  | _ => false

/-- One call of the provider: an appended batch, a captured checkpoint, or a call that writes no
events. -/
inductive StorageCall (P : Platform) where
  | append (runtimeId : String) (events : List (RuntimeEvent P)) (env : Environment)
  | checkpoint (captured : CapturedCheckpoint P) (expectedStateVersion : Int)
      (lease : Option RuntimeLease) (operationId : String) (env : Environment)
  | other (call : Call P) (h : call.writes = false)

def StorageCall.runtimeId : StorageCall P → String
  | .append runtimeId _ _ => runtimeId
  | .checkpoint captured _ _ _ _ => captured.checkpoint.runtimeId
  | .other call _ => call.runtimeId

/-- Run a call.  A payload that `dumps` refuses ends an append. -/
def StorageCall.exec : StorageCall P → World → Except Failure Reply × World
  | .append runtimeId events env, world =>
    if events.all fun event => event.payload.writable then
      (Call.append (P := P) runtimeId (events.map fun event => event.document) env).exec world
    else (.error .malformed, world)
  | .checkpoint captured expectedStateVersion lease operationId env, world =>
    (Call.commit captured.checkpoint expectedStateVersion lease operationId env).exec world
  | .other call _, world => call.exec world

/-- The events that a call inserts when it returns: a checkpoint inserts those past the durable
position. -/
def StorageCall.inserts (db : Database) : StorageCall P → List (RuntimeEvent P)
  | .append _ events _ => events
  | .checkpoint captured _ _ _ _ =>
      captured.events.drop (db.position captured.checkpoint.runtimeId)
  | .other _ _ => []

def StorageCall.document : StorageCall P → RuntimeEvent P → EventDocument
  | .checkpoint _ _ _ _ _, event => event.capturedDocument
  | _, event => event.document

/-- The world with the events that were committed, each with its runtime. -/
structure Ledger (P : Platform) where
  world : World
  committed : List (String × RuntimeEvent P)

/-- A migrated database. -/
def Ledger.init : Ledger P where
  world := .init
  committed := []

/-- A call, whose events are committed when it returns. -/
def Ledger.step (ledger : Ledger P) (call : StorageCall P) : Ledger P where
  world := (call.exec ledger.world).2
  committed :=
    match (call.exec ledger.world).1 with
    | .ok _ =>
        ledger.committed ++
          (call.inserts ledger.world.db).map fun event => (call.runtimeId, event)
    | .error _ => ledger.committed

/-- What the database owes to the readers of a committed event. -/
structure ReadsBack (aware : AwareTime) (db : Database) (runtimeId : String)
    (event : RuntimeEvent P) : Prop where
  found : getEvent P aware db event.id = .ok event.toEventData
  listed : ∃ events, listEvents P aware db runtimeId 0 = .ok events ∧ event.toEventData ∈ events
  /-- The row is the one that the append path writes. -/
  stored : ∃ position sequence, eventRow runtimeId position sequence event.document ∈ db.events

def Ledger.AllReadBack (aware : AwareTime) (ledger : Ledger P) : Prop :=
  ∀ entry ∈ ledger.committed, ReadsBack aware ledger.world.db entry.1 entry.2

/-- The call commits no event through a checkpoint, and none with a payload that cannot be
restored. -/
def StorageCall.Faithful (aware : AwareTime) (ledger : Ledger P) (call : StorageCall P) : Prop :=
  ∀ reply, (call.exec ledger.world).1 = .ok reply →
    ∀ event ∈ call.inserts ledger.world.db,
      (∀ captured expectedStateVersion lease operationId env,
        call ≠ .checkpoint captured expectedStateVersion lease operationId env) ∧
      event.payload.Restorable aware

/-! ## What a call inserts -/

theorem Appends.mem_rows {runtimeId : String} {events rows : List EventRow} {position : Nat}
    {documents : List EventDocument} (h : Appends runtimeId events position documents rows) :
    ∀ row ∈ rows, ∃ document ∈ documents, ∃ position sequence,
      row = eventRow runtimeId (position + 1) sequence document ∧
        document.sequenceNumber = sequence := by
  induction h with
  | nil => exact fun _ hrow => absurd hrow List.not_mem_nil
  | @cons events position document documents row rows hrow hsequence hfresh hrest ih =>
    intro other hother
    rcases List.mem_cons.mp hother with rfl | hother
    · refine ⟨document, List.mem_cons_self, position, _, hrow, ?_⟩
      rw [hsequence, hrow]
      rfl
    · obtain ⟨found, hfound, hother⟩ := ih other hother
      exact ⟨found, List.mem_cons_of_mem _ hfound, hother⟩

theorem Appends.mem_documents {runtimeId : String} {events rows : List EventRow}
    {position : Nat} {documents : List EventDocument}
    (h : Appends runtimeId events position documents rows) :
    ∀ document ∈ documents, ∃ position sequence,
      eventRow runtimeId position sequence document ∈ rows ∧
        document.sequenceNumber = sequence := by
  induction h with
  | nil => exact fun _ hdocument => absurd hdocument List.not_mem_nil
  | @cons events position document documents row rows hrow hsequence hfresh hrest ih =>
    intro other hother
    rcases List.mem_cons.mp hother with rfl | hother
    · refine ⟨position + 1, _, List.mem_cons.mpr (.inl hrow.symm), ?_⟩
      rw [hsequence, hrow]
      rfl
    · obtain ⟨position, sequence, hmem, hsame⟩ := ih other hother
      exact ⟨position, sequence, List.mem_cons_of_mem _ hmem, hsame⟩

/-- No two rows have the same identifier. -/
def UniqueIds (events : List EventRow) : Prop :=
  events.Pairwise fun row other => row.eventId ≠ other.eventId

theorem Appends.uniqueIds {runtimeId : String} {events rows : List EventRow} {position : Nat}
    {documents : List EventDocument} (h : Appends runtimeId events position documents rows)
    (hunique : UniqueIds events) : UniqueIds (events ++ rows) := by
  induction h with
  | nil => rwa [List.append_nil]
  | @cons events position document documents row rows hrow hsequence hfresh hrest ih =>
    have hnext : UniqueIds (events ++ [row]) := by
      refine List.pairwise_append.mpr ⟨hunique, List.pairwise_singleton _ _, ?_⟩
      intro other hother new hnew heq
      obtain rfl := List.mem_singleton.mp hnew
      exact hfresh other hother (.inl heq.symm)
    simpa using ih hnext

theorem Call.events_kept {call : Call P} (hwrites : call.writes = false) (world : World) :
    (call.exec world).2.db.events = world.db.events := by
  cases h : (call.exec world).1 with
  | error failure => rw [Call.exec_unchanged h]
  | ok reply =>
    obtain ⟨db, hprogram, hrecord⟩ := Call.exec_ok h
    have hafter : (call.exec world).2.db = db := congrArg (fun e => e.after.db) hrecord
    rw [hafter]
    cases call with
    | commit checkpoint expectedStateVersion lease operationId env => cases hwrites
    | append id events env => cases hwrites
    | acquire id ownerId token ttlSeconds env =>
        obtain ⟨lease, hexec, rfl⟩ := Program.exec_map_ok hprogram
        obtain ⟨hfree, rfl, rfl⟩ := acquireLease_returned hexec
        rfl
    | check renewal =>
        obtain ⟨_, hexec, rfl⟩ := Program.exec_map_ok hprogram
        obtain ⟨hchecked, rfl⟩ := exec_checkRenewal_ok hexec
        rfl
    | update renewal =>
        cases hprogram
        rfl
    | release lease =>
        obtain ⟨_, hexec, rfl⟩ := Program.exec_map_ok hprogram
        obtain ⟨hstored, rfl⟩ := exec_releaseLease_ok hexec
        rfl
    | breakExpired id now =>
        obtain ⟨broken, hexec, rfl⟩ := Program.exec_map_ok hprogram
        rcases exec_breakExpiredLease_ok hexec with ⟨-, -, rfl⟩ | ⟨-, rfl⟩ <;> rfl
    | stateVersion id now =>
        obtain ⟨version, hexec, rfl⟩ := Program.exec_map_ok hprogram
        rw [exec_getStateVersion] at hexec
        cases hexec
        exact Database.events_ensured _ _ _

theorem documents_of_captured {events : List (RuntimeEvent P)} {documents : List EventDocument}
    (h : (events.map fun event => event.captured).map readEvent = documents.map .ok) :
    documents = events.map fun event => event.capturedDocument := by
  rw [List.map_map] at h
  have hread : (readEvent ∘ fun event : RuntimeEvent P => event.captured) =
      fun event => .ok event.capturedDocument :=
    funext fun event => readEvent_captured event.toEventData
  rw [hread] at h
  have hmap : (events.map fun event => event.capturedDocument).map Except.ok =
      documents.map (Except.ok (ε := Failure)) := by
    rw [List.map_map]
    exact h
  exact (List.map_injective_iff.mpr (fun _ _ hok => Except.ok.inj hok) hmap).symm

theorem StorageCall.exec_append_ok {id : String} {events : List (RuntimeEvent P)}
    {env : Environment} {world : World} {reply : Reply}
    (h : ((StorageCall.append id events env).exec world).1 = .ok reply) :
    (∀ event ∈ events, event.payload.writable = true) ∧
      (StorageCall.append id events env).exec world =
        (Call.append (P := P) id (events.map fun event => event.document) env).exec world := by
  by_cases hwritable : (events.all fun event => event.payload.writable) = true
  · exact ⟨List.all_eq_true.mp hwritable, by rw [StorageCall.exec, if_pos hwritable]⟩
  · rw [StorageCall.exec, if_neg hwritable] at h
    cases h

theorem StorageCall.exec_ok {call : StorageCall P} {world : World} {reply : Reply}
    (h : (call.exec world).1 = .ok reply) :
    ∃ position rows, Appends call.runtimeId world.db.events position
        ((call.inserts world.db).map call.document) rows ∧
      (call.exec world).2.db.events = world.db.events ++ rows := by
  cases call with
  | append id events env =>
    have happend := (exec_append_ok h).2
    rw [happend] at h ⊢
    obtain ⟨db, hprogram, hrecord⟩ := Call.exec_ok h
    have hafter := congrArg (fun event => event.after.db) hrecord
    obtain ⟨positions, hexec, rfl⟩ := Program.exec_map_ok hprogram
    obtain ⟨rows, happends, -, rfl⟩ := appendEventBatch_returned hexec
    exact ⟨_, rows, happends, congrArg Database.events hafter⟩
  | checkpoint captured expectedStateVersion lease operationId env =>
    obtain ⟨db, hprogram, hrecord⟩ := Call.exec_ok h
    have hafter := congrArg (fun event => event.after.db) hrecord
    obtain ⟨result, hexec, rfl⟩ := Program.exec_map_ok hprogram
    obtain ⟨events, documents, rows, hcommitted, rfl, rfl⟩ := commitCheckpoint_returned hexec
    obtain rfl := Except.ok.inj (captured.captured.symm.trans hcommitted.payload)
    have hread := hcommitted.read
    rw [← List.map_drop] at hread
    have happends := hcommitted.appends
    rw [documents_of_captured hread, latestEventPosition_instanceOr] at happends
    exact ⟨_, rows, happends, congrArg Database.events hafter⟩
  | other call hwrites =>
    exact ⟨0, [], .nil _ _, (Call.events_kept hwrites world).trans (List.append_nil _).symm⟩

theorem StorageCall.exec_unchanged {call : StorageCall P} {world : World} {failure : Failure}
    (h : (call.exec world).1 = .error failure) : (call.exec world).2 = world := by
  cases call with
  | append id events env =>
    simp only [StorageCall.exec] at h ⊢
    split_ifs at h ⊢
    · exact Call.exec_unchanged h
    · rfl
  | checkpoint captured expectedStateVersion lease operationId env => exact Call.exec_unchanged h
  | other call hwrites => exact Call.exec_unchanged h

/-! ## What a run keeps -/

/-- Identifiers are unique, positions start at one, and every row belongs to a committed
event. -/
structure Ledger.Inv (ledger : Ledger P) : Prop where
  unique : UniqueIds ledger.world.db.events
  positive : ∀ row ∈ ledger.world.db.events, 0 < row.globalPosition
  journaled : ∀ row ∈ ledger.world.db.events, ∃ entry ∈ ledger.committed,
    entry.2.id = row.eventId ∧ entry.1 = row.runtimeId

theorem Ledger.inv_init : (Ledger.init (P := P)).Inv where
  unique := List.Pairwise.nil
  positive _ hrow := absurd hrow List.not_mem_nil
  journaled _ hrow := absurd hrow List.not_mem_nil

theorem Ledger.step_error {ledger : Ledger P} {call : StorageCall P} {failure : Failure}
    (h : (call.exec ledger.world).1 = .error failure) : ledger.step call = ledger := by
  unfold Ledger.step
  rw [StorageCall.exec_unchanged h, h]

theorem Ledger.committed_step {ledger : Ledger P} {call : StorageCall P} {reply : Reply}
    (h : (call.exec ledger.world).1 = .ok reply) :
    (ledger.step call).committed = ledger.committed ++
      (call.inserts ledger.world.db).map fun event => (call.runtimeId, event) := by
  unfold Ledger.step
  rw [h]

@[simp]
theorem StorageCall.document_id (call : StorageCall P) (event : RuntimeEvent P) :
    (call.document event).id = event.id := by
  cases call <;> rfl

@[simp]
theorem StorageCall.document_sequenceNumber (call : StorageCall P) (event : RuntimeEvent P) :
    (call.document event).sequenceNumber = event.sequenceNumber := by
  cases call <;> rfl

theorem Ledger.Inv.step {ledger : Ledger P} (h : ledger.Inv) (call : StorageCall P) :
    (ledger.step call).Inv := by
  cases hexec : (call.exec ledger.world).1 with
  | error failure => rwa [Ledger.step_error hexec]
  | ok reply =>
    obtain ⟨position, rows, happends, hevents⟩ := StorageCall.exec_ok hexec
    have hstep : (ledger.step call).world.db.events = ledger.world.db.events ++ rows := hevents
    constructor
    · rw [hstep]
      exact happends.uniqueIds h.unique
    · rw [hstep]
      intro row hrow
      rcases List.mem_append.mp hrow with hrow | hrow
      · exact h.positive row hrow
      · obtain ⟨document, -, position, sequence, rfl, -⟩ := happends.mem_rows row hrow
        exact Nat.succ_pos position
    · rw [hstep, Ledger.committed_step hexec]
      intro row hrow
      rcases List.mem_append.mp hrow with hrow | hrow
      · obtain ⟨entry, hentry, hsame⟩ := h.journaled row hrow
        exact ⟨entry, List.mem_append_left _ hentry, hsame⟩
      · obtain ⟨document, hdocument, position, sequence, rfl, -⟩ :=
          happends.mem_rows row hrow
        obtain ⟨event, hevent, rfl⟩ := List.mem_map.mp hdocument
        exact ⟨_, List.mem_append_right _ (List.mem_map_of_mem hevent),
          (call.document_id event).symm, rfl⟩

theorem getEvent_of_mem {aware : AwareTime} {db : Database} (hunique : UniqueIds db.events)
    {row : EventRow} (hrow : row ∈ db.events) :
    getEvent P aware db row.eventId = rowToEvent P aware row := by
  have hfind : (db.events.find? fun other => other.eventId = row.eventId) = some row := by
    cases hfound : db.events.find? fun other => other.eventId = row.eventId with
    | none => simpa using List.find?_eq_none.mp hfound row hrow
    | some other =>
        have hid : other.eventId = row.eventId := by simpa using List.find?_some hfound
        have hother := List.mem_of_find?_eq_some hfound
        have hsymm : Std.Symm fun row other : EventRow => row.eventId ≠ other.eventId :=
          ⟨fun _ _ hne => Ne.symm hne⟩
        by_contra hne
        exact hunique.forall hother hrow (fun heq => hne (congrArg some heq)) hid
  rw [getEvent, hfind]

/-- A runtime all of whose rows can be read lists each of them. -/
theorem listEvents_of_readable {aware : AwareTime} {db : Database} {runtimeId : String}
    (hpositive : ∀ row ∈ db.events, 0 < row.globalPosition)
    (hreadable : ∀ row ∈ db.events, ∃ event, rowToEvent P aware row = .ok event)
    {row : EventRow} (hrow : row ∈ db.events) (hruntime : row.runtimeId = runtimeId)
    {event : EventData} (hevent : rowToEvent P aware row = .ok event) :
    ∃ events, listEvents P aware db runtimeId 0 = .ok events ∧ event ∈ events := by
  have hmem : ∀ other, other ∈ (db.stream runtimeId).filter (fun row => 0 < row.globalPosition) ↔
      other ∈ db.events ∧ other.runtimeId = runtimeId := by
    intro other
    rw [List.mem_filter, Database.stream, List.mem_insertionSort, List.mem_filter]
    simp only [decide_eq_true_eq]
    exact ⟨And.left, fun h => ⟨h, hpositive other h.1⟩⟩
  obtain ⟨events, hevents⟩ := Checks.mapM_ok_of_forall fun other hother =>
    hreadable other ((hmem other).mp hother).1
  obtain ⟨found, hfound, hread⟩ :=
    Checks.exists_of_mapM_ok hevents row ((hmem row).mpr ⟨hrow, hruntime⟩)
  obtain rfl := Except.ok.inj (hevent.symm.trans hread)
  exact ⟨events, hevents, hfound⟩

theorem ReadsBack.row {aware : AwareTime} {db : Database} {runtimeId : String}
    {event : RuntimeEvent P} (h : ReadsBack aware db runtimeId event)
    (hunique : UniqueIds db.events) :
    ∃ position sequence, eventRow runtimeId position sequence event.document ∈ db.events ∧
      rowToEvent P aware (eventRow runtimeId position sequence event.document) =
        .ok event.toEventData := by
  obtain ⟨position, sequence, hrow⟩ := h.stored
  exact ⟨position, sequence, hrow, (getEvent_of_mem hunique hrow).symm.trans h.found⟩

theorem Ledger.Inv.allReadBack {aware : AwareTime} {ledger : Ledger P} (hinv : ledger.Inv)
    (h : ∀ entry ∈ ledger.committed, ∃ position sequence,
      eventRow entry.1 position sequence entry.2.document ∈ ledger.world.db.events ∧
        rowToEvent P aware (eventRow entry.1 position sequence entry.2.document) =
          .ok entry.2.toEventData) :
    ledger.AllReadBack aware := by
  have hreadable : ∀ row ∈ ledger.world.db.events, ∃ event,
      rowToEvent P aware row = .ok event := by
    intro row hrow
    obtain ⟨entry, hentry, hid, -⟩ := hinv.journaled row hrow
    obtain ⟨position, sequence, hstored, hread⟩ := h entry hentry
    have hfound := @getEvent_of_mem P aware _ hinv.unique _ hstored
    rw [hread] at hfound
    refine ⟨entry.2.toEventData, ?_⟩
    rw [← getEvent_of_mem hinv.unique hrow, ← hid]
    exact hfound
  intro entry hentry
  obtain ⟨position, sequence, hstored, hread⟩ := h entry hentry
  constructor
  · exact (getEvent_of_mem hinv.unique hstored).trans hread
  · exact listEvents_of_readable hinv.positive hreadable hstored rfl hread
  · exact ⟨position, sequence, hstored⟩

theorem Ledger.Inv.step_iff {aware : AwareTime} {ledger : Ledger P} (hinv : ledger.Inv)
    (hgood : ledger.AllReadBack aware) (call : StorageCall P) :
    (ledger.step call).AllReadBack aware ↔ call.Faithful aware ledger := by
  have hnext := hinv.step call
  constructor
  · intro hback reply hexec event hevent
    obtain ⟨position, rows, happends, hevents⟩ := StorageCall.exec_ok hexec
    have hcommitted := Ledger.committed_step hexec
    have hentry : (call.runtimeId, event) ∈ (ledger.step call).committed := by
      rw [hcommitted]
      exact List.mem_append_right _ (List.mem_map_of_mem hevent)
    obtain ⟨position, sequence, hrow, hsequence⟩ :=
      happends.mem_documents _ (List.mem_map_of_mem hevent)
    have hmem : eventRow call.runtimeId position sequence (call.document event) ∈
        (ledger.step call).world.db.events := by
      rw [show (ledger.step call).world.db.events = ledger.world.db.events ++ rows from hevents]
      exact List.mem_append_right _ hrow
    -- the row that was inserted is the one that the event is found by
    have hread : rowToEvent P aware
        (eventRow call.runtimeId position sequence (call.document event)) =
          .ok event.toEventData := by
      rw [← getEvent_of_mem hnext.unique hmem]
      exact (congrArg _ (call.document_id event)).trans (hback _ hentry).found
    rw [call.document_sequenceNumber] at hsequence
    cases call with
    | append id events env =>
        refine ⟨by simp, (StorageCall.exec_append_ok hexec).1 event hevent, ?_⟩
        exact readable_of_rowToEvent hsequence hread
    | checkpoint captured expectedStateVersion lease operationId env =>
        exact absurd hread (rowToEvent_captured_ne event _ _ _ hsequence)
    | other call hwrites => exact absurd hevent List.not_mem_nil
  · intro hfaithful
    cases hexec : (call.exec ledger.world).1 with
    | error failure => rwa [Ledger.step_error hexec]
    | ok reply =>
        obtain ⟨position, rows, happends, hevents⟩ := StorageCall.exec_ok hexec
        have hstep : (ledger.step call).world.db.events = ledger.world.db.events ++ rows :=
          hevents
        refine hnext.allReadBack fun entry hentry => ?_
        rw [hstep]
        rw [Ledger.committed_step hexec] at hentry
        rcases List.mem_append.mp hentry with hentry | hentry
        · obtain ⟨position, sequence, hstored, hread⟩ := (hgood entry hentry).row hinv.unique
          exact ⟨position, sequence, List.mem_append_left _ hstored, hread⟩
        · obtain ⟨event, hevent, rfl⟩ := List.mem_map.mp hentry
          obtain ⟨hpath, hrestorable⟩ := hfaithful reply hexec event hevent
          obtain ⟨position, sequence, hrow, hsequence⟩ :=
            happends.mem_documents _ (List.mem_map_of_mem hevent)
          rw [call.document_sequenceNumber] at hsequence
          have hdocument : call.document event = event.document := by
            cases call with
            | append id events env => rfl
            | checkpoint captured expectedStateVersion lease operationId env =>
                exact absurd rfl (hpath captured expectedStateVersion lease operationId env)
            | other call hwrites => rfl
          rw [hdocument] at hrow
          exact ⟨position, sequence, List.mem_append_right _ hrow,
            rowToEvent_document event _ _ _ hsequence hrestorable.2⟩

/-- The work item was created. -/
def sampleData : EventData where
  id := "event-1"
  eventType := ⟨"WORK_ITEM_CREATED", by decide +kernel⟩
  aggregateType := "WORK_ITEM"
  aggregateId := "package-1:item-1"
  sequenceNumber := 1
  payload := .mapping [("title", .text "Plan")]
  occurredAt := "2024-01-01T00:00:00+00:00"
  correlationId := none
  causationId := none

/-- The event is constructed from a mapping of texts. -/
def sampleEvent : RuntimeEvent .literal where
  toEventData := sampleData
  constructed := ⟨.mapping [("title", .text "Plan")],
    postInit_ok_iff.mpr ⟨by decide +kernel, _, rfl, rfl⟩⟩

/-- The payload of a checkpoint with one event. -/
def samplePayloadItems : List (String × Value) :=
  [("events", .sequence [sampleData.captured])]

theorem samplePayloadItems_canonical : (Value.mapping samplePayloadItems).Canonical := by
  have hkeys : ["aggregate_id", "aggregate_type", "causation_id", "correlation_id", "event_type",
      "id", "occurred_at", "payload", "sequence_number"].Pairwise fun a b => a < b := by
    decide +kernel
  have htyped : ["$type", "items"].Pairwise fun a b => a < b := by
    decide +kernel
  have hpayload : (encodeValue sampleData.payload.value).value.Canonical :=
    ⟨List.Pairwise.of_map Prod.fst (fun _ _ hlt => hlt) htyped, trivial,
      ⟨List.pairwise_singleton _ _, trivial, trivial⟩, trivial⟩
  have hcaptured : sampleData.captured.Canonical :=
    ⟨List.Pairwise.of_map Prod.fst (fun _ _ hlt => hlt) hkeys, trivial, trivial, trivial, trivial,
      trivial, trivial, trivial, hpayload, trivial, trivial⟩
  exact ⟨List.pairwise_singleton _ _, ⟨hcaptured, trivial⟩, trivial⟩

theorem sampleFields_checked :
    (sealedFields "runtime-1" 1 samplePayloadItems).check .literal = .ok () :=
  sealedFields_checked (by decide +kernel) (by decide +kernel)

theorem sampleEvents_writable : ∀ event ∈ [sampleEvent], event.payload.writable = true := by
  simp [sampleEvent, sampleData, EventPayload.writable, itemsWritable]

def sampleCheckpoint : CapturedCheckpoint .literal where
  checkpoint :=
    { toCheckpointFields := sealedFields "runtime-1" 1 samplePayloadItems
      checked := sampleFields_checked
      canonical := samplePayloadItems_canonical }
  events := [sampleEvent]
  captured := rfl
  writable := sampleEvents_writable

def sampleCommit : StorageCall .literal :=
  .checkpoint sampleCheckpoint 0 none "operation-1" (.at 0)

theorem sampleCommit_returns : (sampleCommit.exec .init).1.isOk = true := by
  decide +kernel

end Persistence
end Ascos
