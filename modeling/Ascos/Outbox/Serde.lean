import Ascos.Outbox.Database
import Ascos.Outbox.Redispatch
import Ascos.Outbox.ResultHistory
import Mathlib.Data.String.Basic

/-!
# Serialization of an outbox

`runtime/outbox/providers/serde.py` with the parts of `runtime/outbox/models.py` that
it runs through: a payload is written in its plain form, its keys are sorted by the JSON text,
and reading an operation calls its constructor, which freezes the payload, looks for secrets
and checks its size once more.

Main results:

- Theorem `validatePayload_read`: a payload that was accepted once is accepted when it is
  read back, and is the same dictionary.
- Theorem `decodeStored_json`: the state that is read back.
- Theorem `serialization_round_trip`: what a restart keeps of a reachable state.
-/

namespace Ascos
namespace Outbox

open Library

/-! ## Payloads -/

/-- `str(key)`. -/
def ResultKey.str : ResultKey → String
  | .null => "None"
  | .bool true => "True"
  | .bool false => "False"
  | .int value => toString value
  | .float literal => literal
  | .text value => value
  | .other description => description

mutual

/-- `freeze_payload`, which raises for any other object. -/
def freezePayload : ResultValue → Option PayloadValue
  | .null => some .null
  | .bool value => some (.bool value)
  | .int value => some (.int value)
  | .float literal => some (.float literal)
  | .text value => some (.text value)
  | .list items => (freezeItems items).map .sequence
  | .tuple items => (freezeItems items).map .sequence
  | .mapping entries =>
      (freezeEntries entries).map fun frozen => .mapping (Dictionary.ofEntries frozen)
  | .other _ => none

def freezeItems : List ResultValue → Option (List PayloadValue)
  | [] => some []
  | item :: rest =>
    match freezePayload item, freezeItems rest with
    | some value, some values => some (value :: values)
    | _, _ => none

def freezeEntries : List (ResultKey × ResultValue) → Option (List (String × PayloadValue))
  | [] => some []
  | (key, item) :: rest =>
    match freezePayload item, freezeEntries rest with
    | some value, some values => some ((key.str, value) :: values)
    | _, _ => none

end

mutual

def plain : PayloadValue → ResultValue
  | .null => .null
  | .bool value => .bool value
  | .int value => .int value
  | .float literal => .float literal
  | .text value => .text value
  | .sequence items => .list (plainItems items)
  | .mapping entries => .mapping (plainEntries entries)

def plainItems : List PayloadValue → List ResultValue
  | [] => []
  | item :: rest => plain item :: plainItems rest

def plainEntries : List (String × PayloadValue) → List (ResultKey × ResultValue)
  | [] => []
  | (key, item) :: rest => (.text key, plain item) :: plainEntries rest

end

/-- The entries of a dictionary with text keys in the order of the keys. -/
def sortByText (entries : List (ResultKey × ResultValue)) : List (ResultKey × ResultValue) :=
  (Dictionary.sort (entries.map fun entry => (entry.1.str, entry.2))).map fun entry =>
    (.text entry.1, entry.2)

mutual

/-- A value with text keys as `json.dumps` with `sort_keys` writes it. -/
def ResultValue.sortKeys : ResultValue → ResultValue
  | .list items => .list (sortItems items)
  | .tuple items => .tuple (sortItems items)
  | .mapping entries => .mapping (sortByText (sortValues entries))
  | value => value

def sortItems : List ResultValue → List ResultValue
  | [] => []
  | item :: rest => item.sortKeys :: sortItems rest

def sortValues : List (ResultKey × ResultValue) → List (ResultKey × ResultValue)
  | [] => []
  | (key, item) :: rest => (key, item.sortKeys) :: sortValues rest

end

mutual

/-- A frozen payload with the keys of every dictionary in order: Python compares dictionaries
without regard to the order of their entries. -/
def PayloadValue.sortKeys : PayloadValue → PayloadValue
  | .sequence items => .sequence (sortPayloadItems items)
  | .mapping entries => .mapping (Dictionary.sort (sortPayloadValues entries))
  | value => value

def sortPayloadItems : List PayloadValue → List PayloadValue
  | [] => []
  | item :: rest => item.sortKeys :: sortPayloadItems rest

def sortPayloadValues : List (String × PayloadValue) → List (String × PayloadValue)
  | [] => []
  | (key, item) :: rest => (key, item.sortKeys) :: sortPayloadValues rest

end

mutual

/-- No dictionary in the payload has a key twice. -/
def PayloadValue.WellKeyed : PayloadValue → Prop
  | .sequence items => wellKeyedItems items
  | .mapping entries => wellKeyedEntries entries ∧ (entries.map (·.1)).Nodup
  | _ => True

def wellKeyedItems : List PayloadValue → Prop
  | [] => True
  | item :: rest => item.WellKeyed ∧ wellKeyedItems rest

def wellKeyedEntries : List (String × PayloadValue) → Prop
  | [] => True
  | (_, item) :: rest => item.WellKeyed ∧ wellKeyedEntries rest

end

theorem wellKeyedEntries_iff {entries : List (String × PayloadValue)} :
    wellKeyedEntries entries ↔ ∀ entry ∈ entries, entry.2.WellKeyed := by
  induction entries with
  | nil => simp [wellKeyedEntries]
  | cons entry rest ih =>
    rw [List.forall_mem_cons, ← ih]
    rfl

theorem plainEntries_eq_map (entries : List (String × PayloadValue)) :
    plainEntries entries = entries.map fun entry => (.text entry.1, plain entry.2) := by
  induction entries with
  | nil => rfl
  | cons entry rest ih => rw [plainEntries, ih, List.map_cons]

theorem sortPayloadValues_eq_map (entries : List (String × PayloadValue)) :
    sortPayloadValues entries = entries.map fun entry => (entry.1, entry.2.sortKeys) := by
  induction entries with
  | nil => rfl
  | cons entry rest ih => rw [sortPayloadValues, ih, List.map_cons]

mutual

/-- What is frozen has no key twice. -/
theorem wellKeyed_of_freeze : ∀ {value : ResultValue} {frozen : PayloadValue},
    freezePayload value = some frozen → frozen.WellKeyed
  | .null, _, h | .bool _, _, h | .int _, _, h | .float _, _, h | .text _, _, h => by
    cases h
    trivial
  | .list items, _, h | .tuple items, _, h => by
    obtain ⟨values, hvalues, rfl⟩ := Option.map_eq_some_iff.mp h
    exact wellKeyedItems_of_freeze hvalues
  | .mapping entries, _, h => by
    obtain ⟨values, hvalues, rfl⟩ := Option.map_eq_some_iff.mp h
    refine ⟨?_, Dictionary.nodup_ofEntries values⟩
    have hall := wellKeyedEntries_iff.mp (wellKeyedEntries_of_freeze hvalues)
    exact wellKeyedEntries_iff.mpr fun entry hentry =>
      hall entry (Dictionary.mem_of_mem_ofEntries hentry)
  | .other _, _, h => by cases h

theorem wellKeyedItems_of_freeze : ∀ {items : List ResultValue} {values : List PayloadValue},
    freezeItems items = some values → wellKeyedItems values
  | [], _, h => by
    cases h
    trivial
  | item :: rest, _, h => by
    unfold freezeItems at h
    split at h
    · rename_i value values hvalue hvalues
      cases h
      exact ⟨wellKeyed_of_freeze hvalue, wellKeyedItems_of_freeze hvalues⟩
    · cases h

theorem wellKeyedEntries_of_freeze : ∀ {entries : List (ResultKey × ResultValue)}
    {values : List (String × PayloadValue)},
    freezeEntries entries = some values → wellKeyedEntries values
  | [], _, h => by
    cases h
    trivial
  | (key, item) :: rest, _, h => by
    unfold freezeEntries at h
    split at h
    · rename_i value values hvalue hvalues
      cases h
      exact ⟨wellKeyed_of_freeze hvalue, wellKeyedEntries_of_freeze hvalues⟩
    · cases h

end

mutual

theorem freeze_plain : ∀ {payload : PayloadValue},
    payload.WellKeyed → freezePayload (plain payload) = some payload
  | .null, _ | .bool _, _ | .int _, _ | .float _, _ | .text _, _ => rfl
  | .sequence items, h => by
    rw [plain, freezePayload, freezeItems_plain h]
    rfl
  | .mapping entries, h => by
    rw [plain, freezePayload, freezeEntries_plain h.1, Option.map_some,
      Dictionary.ofEntries_of_nodup h.2]

theorem freezeItems_plain : ∀ {items : List PayloadValue},
    wellKeyedItems items → freezeItems (plainItems items) = some items
  | [], _ => rfl
  | item :: rest, h => by
      rw [plainItems, freezeItems, freeze_plain h.1, freezeItems_plain h.2]

theorem freezeEntries_plain : ∀ {entries : List (String × PayloadValue)},
    wellKeyedEntries entries → freezeEntries (plainEntries entries) = some entries
  | [], _ => rfl
  | (key, item) :: rest, h => by
    rw [plainEntries, freezeEntries, freeze_plain h.1, freezeEntries_plain h.2]
    rfl

end

mutual

theorem isJson_plain : ∀ {payload : PayloadValue}, payload.WellKeyed → (plain payload).IsJson
  | .null, _ | .bool _, _ | .int _, _ | .float _, _ | .text _, _ => trivial
  | .sequence items, h => itemsAreJson_plain h
  | .mapping entries, h => by
    refine ⟨entriesAreJson_plain h.1, ?_⟩
    rw [plainEntries_eq_map, List.map_map]
    have hkeys := h.2.map (f := ResultKey.text) fun _ _ => ResultKey.text.inj
    rw [List.map_map] at hkeys
    exact hkeys

theorem itemsAreJson_plain : ∀ {items : List PayloadValue},
    wellKeyedItems items → itemsAreJson (plainItems items)
  | [], _ => trivial
  | _ :: _, h => ⟨isJson_plain h.1, itemsAreJson_plain h.2⟩

theorem entriesAreJson_plain : ∀ {entries : List (String × PayloadValue)},
    wellKeyedEntries entries → entriesAreJson (plainEntries entries)
  | [], _ => trivial
  | (_, _) :: _, h => ⟨trivial, isJson_plain h.1, entriesAreJson_plain h.2⟩

end

theorem sortByText_plainEntries (entries : List (String × PayloadValue)) :
    sortByText (plainEntries entries) = plainEntries (Dictionary.sort entries) := by
  rw [sortByText, plainEntries_eq_map, plainEntries_eq_map, List.map_map]
  have hkeys : (fun entry : ResultKey × ResultValue => (entry.1.str, entry.2)) ∘
      (fun entry : String × PayloadValue => (ResultKey.text entry.1, plain entry.2)) =
        fun entry => (entry.1, plain entry.2) := rfl
  rw [hkeys, Dictionary.sort_map, List.map_map]
  rfl

mutual

theorem sortKeys_plain : ∀ payload : PayloadValue,
    (plain payload).sortKeys = plain payload.sortKeys
  | .null | .bool _ | .int _ | .float _ | .text _ => rfl
  | .sequence items => by
    rw [plain, ResultValue.sortKeys, sortItems_plain, PayloadValue.sortKeys, plain]
  | .mapping entries => by
    rw [plain, ResultValue.sortKeys, sortValues_plain, sortByText_plainEntries,
      PayloadValue.sortKeys, plain]

theorem sortItems_plain : ∀ items : List PayloadValue,
    sortItems (plainItems items) = plainItems (sortPayloadItems items)
  | [] => rfl
  | item :: rest => by
    rw [plainItems, sortItems, sortKeys_plain item, sortItems_plain rest, sortPayloadItems,
      plainItems]

theorem sortValues_plain : ∀ entries : List (String × PayloadValue),
    sortValues (plainEntries entries) = plainEntries (sortPayloadValues entries)
  | [] => rfl
  | (key, item) :: rest => by
    rw [plainEntries, sortValues, sortKeys_plain item, sortValues_plain rest,
      sortPayloadValues, plainEntries]

end

mutual

theorem sortKeys_sortKeys : ∀ payload : PayloadValue,
    payload.sortKeys.sortKeys = payload.sortKeys
  | .null | .bool _ | .int _ | .float _ | .text _ => rfl
  | .sequence items => by
    rw [PayloadValue.sortKeys, PayloadValue.sortKeys, sortItems_sortItems]
  | .mapping entries => by
    rw [PayloadValue.sortKeys, PayloadValue.sortKeys, sortPayloadValues_eq_map,
      ← Dictionary.sort_map, Dictionary.sort_sort,
      ← sortPayloadValues_eq_map, sortValues_sortValues]

theorem sortItems_sortItems : ∀ items : List PayloadValue,
    sortPayloadItems (sortPayloadItems items) = sortPayloadItems items
  | [] => rfl
  | item :: rest => by
      rw [sortPayloadItems, sortPayloadItems, sortKeys_sortKeys item, sortItems_sortItems rest]

theorem sortValues_sortValues : ∀ entries : List (String × PayloadValue),
    sortPayloadValues (sortPayloadValues entries) = sortPayloadValues entries
  | [] => rfl
  | (key, item) :: rest => by
    rw [sortPayloadValues, sortPayloadValues, sortKeys_sortKeys item,
      sortValues_sortValues rest]

end

mutual

theorem wellKeyed_sortKeys : ∀ {payload : PayloadValue},
    payload.WellKeyed → payload.sortKeys.WellKeyed
  | .null, _ | .bool _, _ | .int _, _ | .float _, _ | .text _, _ => trivial
  | .sequence items, h => wellKeyedItems_sort h
  | .mapping entries, h => by
    refine ⟨?_, ?_⟩
    · have hall := wellKeyedEntries_iff.mp (wellKeyedEntries_sort h.1)
      exact wellKeyedEntries_iff.mpr fun entry hentry =>
        hall entry (Dictionary.mem_sort.mp hentry)
    · refine Dictionary.nodup_sort ?_
      rw [sortPayloadValues_eq_map, List.map_map]
      exact h.2

theorem wellKeyedItems_sort : ∀ {items : List PayloadValue},
    wellKeyedItems items → wellKeyedItems (sortPayloadItems items)
  | [], _ => trivial
  | _ :: _, h => ⟨wellKeyed_sortKeys h.1, wellKeyedItems_sort h.2⟩

theorem wellKeyedEntries_sort : ∀ {entries : List (String × PayloadValue)},
    wellKeyedEntries entries → wellKeyedEntries (sortPayloadValues entries)
  | [], _ => trivial
  | (_, _) :: _, h => ⟨wellKeyed_sortKeys h.1, wellKeyedEntries_sort h.2⟩

end

/-! ## Validation -/

/-- `_SECRET.search` and `_SECRET_VALUE.search`. -/
structure SecretPatterns where
  secret : String → Bool
  secretValue : String → Bool

/-- The bytes of a character in a JSON text, which `json.dumps` keeps in ASCII. -/
def charSize (c : Char) : Nat :=
  if c = '"' ∨ c = '\\' ∨ c = '\n' ∨ c = '\r' ∨ c = '\t' ∨ c.toNat = 8 ∨ c.toNat = 12 then 2
  else if 32 ≤ c.toNat ∧ c.toNat ≤ 126 then 1
  else if c.toNat ≤ 65535 then 6
  else 12

/-- The bytes of a JSON string. -/
def textSize (value : String) : Nat :=
  2 + (value.toList.map charSize).sum

mutual

/-- The bytes that `json.dumps` writes for a value with text keys, without blanks. -/
def dumpedSize : ResultValue → Nat
  | .null => 4
  | .bool true => 4
  | .bool false => 5
  | .int value => (toString value).length
  | .float literal => literal.length
  | .text value => textSize value
  | .list items | .tuple items => 2 + (items.length - 1) + dumpedItems items
  | .mapping entries => 2 + (entries.length - 1) + dumpedEntries entries
  | .other _ => 0

def dumpedItems : List ResultValue → Nat
  | [] => 0
  | item :: rest => dumpedSize item + dumpedItems rest

def dumpedEntries : List (ResultKey × ResultValue) → Nat
  | [] => 0
  | (key, item) :: rest => textSize key.str + 1 + dumpedSize item + dumpedEntries rest

end

def maxPayloadBytes : Nat := 32768

variable (P : SecretPatterns)

mutual

/-- `inspect` of `validate_payload`: a key or a value gives a secret away. -/
def exposesSecret (path : String) : PayloadValue → Bool
  | .mapping entries => entriesExpose path entries
  | .sequence items => itemsExpose path items
  | .text value => (P.secret path && value != "") || P.secretValue value
  | _ => false

def itemsExpose (path : String) : List PayloadValue → Bool
  | [] => false
  | item :: rest => exposesSecret path item || itemsExpose path rest

def entriesExpose (path : String) : List (String × PayloadValue) → Bool
  | [] => false
  | (key, item) :: rest =>
      (P.secret key || exposesSecret (path ++ "." ++ key) item) || entriesExpose path rest

end

def validatePayload (payload : ResultValue) : Option PayloadValue := do
  let frozen ← freezePayload payload
  if maxPayloadBytes < dumpedSize (plain frozen).sortKeys then none
  else if exposesSecret P "" frozen = true then none
  else some frozen

variable {P}

theorem entriesExpose_eq_any (path : String) (entries : List (String × PayloadValue)) :
    entriesExpose P path entries = entries.any fun entry =>
      P.secret entry.1 || exposesSecret P (path ++ "." ++ entry.1) entry.2 := by
  induction entries with
  | nil => rfl
  | cons entry rest ih => rw [entriesExpose, ih, List.any_cons]

mutual

theorem exposesSecret_sortKeys : ∀ (path : String) (payload : PayloadValue),
    exposesSecret P path payload.sortKeys = exposesSecret P path payload
  | _, .null | _, .bool _ | _, .int _ | _, .float _ | _, .text _ => rfl
  | path, .sequence items => itemsExpose_sort path items
  | path, .mapping entries => by
    rw [PayloadValue.sortKeys, exposesSecret, exposesSecret, entriesExpose_eq_any,
      (Dictionary.perm_sort (sortPayloadValues entries)).any_eq, ← entriesExpose_eq_any,
      entriesExpose_sort path entries]

theorem itemsExpose_sort : ∀ (path : String) (items : List PayloadValue),
    itemsExpose P path (sortPayloadItems items) = itemsExpose P path items
  | _, [] => rfl
  | path, item :: rest => by
    rw [sortPayloadItems, itemsExpose, itemsExpose, exposesSecret_sortKeys path item,
      itemsExpose_sort path rest]

theorem entriesExpose_sort : ∀ (path : String) (entries : List (String × PayloadValue)),
    entriesExpose P path (sortPayloadValues entries) = entriesExpose P path entries
  | _, [] => rfl
  | path, (key, item) :: rest => by
    rw [sortPayloadValues, entriesExpose, entriesExpose,
      exposesSecret_sortKeys (path ++ "." ++ key) item, entriesExpose_sort path rest]

end

/-- What `json.loads` makes of what `json.dumps` writes with `sort_keys`. -/
def ResultValue.readBack (value : ResultValue) : Option ResultValue :=
  value.sortKeys.json

theorem validatePayload_read {given : ResultValue} {payload : PayloadValue}
    (h : validatePayload P given = some payload) :
    ((plain payload).readBack.bind (validatePayload P)) = some payload.sortKeys := by
  unfold validatePayload at h
  obtain ⟨frozen, hfrozen, haccepted⟩ := Option.bind_eq_some_iff.mp h
  split at haccepted
  · cases haccepted
  rename_i hsize
  split at haccepted
  · cases haccepted
  rename_i hsecret
  obtain rfl := Option.some.inj haccepted
  have hkeyed := wellKeyed_sortKeys (wellKeyed_of_freeze hfrozen)
  rw [ResultValue.readBack, sortKeys_plain, ResultValue.json_of_isJson (isJson_plain hkeyed),
    Option.bind_some, validatePayload, freeze_plain hkeyed]
  rw [sortKeys_plain] at hsize
  change (if _ then _ else _) = _
  rw [sortKeys_plain, sortKeys_sortKeys, if_neg hsize, exposesSecret_sortKeys, if_neg hsecret]

/-! ## Operations -/

/-- `_IDENTIFIER.fullmatch`. -/
def isIdentifier (value : String) : Bool :=
  match value.toList with
  | [] => false
  | first :: rest =>
    first.isUpper && (1 ≤ rest.length && rest.length ≤ 99) &&
      rest.all fun c => c.isUpper || c.isDigit || c == '_'

/-- `_PROVIDER.fullmatch`. -/
def isProvider (value : String) : Bool :=
  match value.toList with
  | [] => false
  | first :: rest =>
    first.isAlphanum && rest.length ≤ 127 &&
      rest.all fun c => c.isAlphanum || c == '_' || c == '.' || c == '-'

variable (P) in
/-- `OutboxOperation.__post_init__` on the given fields and payload; times are in UTC and
versions are not negative. -/
def postInit (fields : OutboxOperation) (payload : ResultValue) : Option OutboxOperation :=
  if isIdentifier fields.operationType = false then none
  else if isProvider fields.providerId = false then none
  else if fields.payloadSchemaVersion < 1 then none
  else if fields.maximumAttempts < 1 then none
  else (validatePayload P payload).map fun payload => { fields with payload }

def Constructed (P : SecretPatterns) (operation : OutboxOperation) : Prop :=
  ∃ fields payload, postInit P fields payload = some operation

theorem constructed_iff {operation : OutboxOperation} :
    Constructed P operation ↔
      isIdentifier operation.operationType = true ∧ isProvider operation.providerId = true ∧
        1 ≤ operation.payloadSchemaVersion ∧ 1 ≤ operation.maximumAttempts ∧
          ∃ given, validatePayload P given = some operation.payload := by
  constructor
  · rintro ⟨fields, given, h⟩
    unfold postInit at h
    split at h
    · cases h
    rename_i htype
    split at h
    · cases h
    rename_i hprovider
    split at h
    · cases h
    rename_i hschema
    split at h
    · cases h
    rename_i hmaximum
    obtain ⟨payload, hpayload, rfl⟩ := Option.map_eq_some_iff.mp h
    exact ⟨by simpa using htype, by simpa using hprovider, Nat.not_lt.mp hschema,
      Nat.not_lt.mp hmaximum, given, hpayload⟩
  · rintro ⟨htype, hprovider, hschema, hmaximum, given, hpayload⟩
    refine ⟨operation, given, ?_⟩
    rw [postInit, if_neg (by simp [htype]), if_neg (by simp [hprovider]),
      if_neg (Nat.not_lt.mpr hschema), if_neg (Nat.not_lt.mpr hmaximum), hpayload]
    rfl

/-- `operation_to_dict`, with the payload in its plain form. -/
def writeOperation (item : OutboxOperation) : OperationDocument ResultValue :=
  { operationToDict item with payload := plain item.payload }

variable (P) in
/-- `operation_from_dict`, which ends with the constructor. -/
def readOperation (value : OperationDocument ResultValue) : Option OutboxOperation := do
  let fields ← operationFromDict { value with payload := PayloadValue.null }
  postInit P fields value.payload

/-- The entry of an operation after the JSON text: the other members are texts, numbers and
nulls. -/
def OperationDocument.readBack (value : OperationDocument ResultValue) :
    Option (OperationDocument ResultValue) :=
  value.payload.readBack.map fun payload => { value with payload }

/-- The operation with the keys of its payload in order, which Python takes for the same. -/
def OutboxOperation.sortKeys (operation : OutboxOperation) : OutboxOperation :=
  { operation with payload := operation.payload.sortKeys }

theorem readOperation_readBack {operation : OutboxOperation} (h : Constructed P operation) :
    ((writeOperation operation).readBack.bind (readOperation P)) =
      some operation.sortKeys := by
  obtain ⟨htype, hprovider, hschema, hmaximum, given, hpayload⟩ := constructed_iff.mp h
  obtain ⟨text, htext, hread⟩ := Option.bind_eq_some_iff.mp (validatePayload_read hpayload)
  have hwritten : (writeOperation operation).readBack =
      some { writeOperation operation with payload := text } := by
    unfold OperationDocument.readBack
    change (plain operation.payload).readBack.map _ = _
    rw [htext]
    rfl
  have hfields : operationFromDict
      { operationToDict operation with payload := PayloadValue.null } =
        some { operation with payload := .null } := by
    simp [operationFromDict, operationToDict]
  rw [hwritten, Option.bind_some, readOperation]
  change (operationFromDict
    { operationToDict operation with payload := PayloadValue.null }).bind _ = _
  rw [hfields, Option.bind_some, postInit, if_neg (by simp [htype]),
    if_neg (by simp [hprovider]), if_neg (Nat.not_lt.mpr hschema),
    if_neg (Nat.not_lt.mpr hmaximum)]
  change (validatePayload P text).map _ = _
  rw [hread]
  rfl

/-! ## States -/

/-- What `encode_state` returns. -/
structure StoredDocument where
  schemaVersion : Nat
  operations : Records (OperationDocument ResultValue)
  attempts : Records (List AttemptDocument)
  idempotency : Records String
  providerPauses : Records Bool

/-- `encode_state` of `export_state`. -/
def encodeStored (r : Repository) : StoredDocument where
  schemaVersion := 1
  operations := r.operations.records.map fun _ item => writeOperation item
  attempts := r.attempts.map fun _ values => values.map attemptToDict
  idempotency := r.idempotency
  providerPauses := r.providerPauses

/-- The document after the JSON text. -/
def StoredDocument.readBack (value : StoredDocument) : Option StoredDocument :=
  (decodeRecords OperationDocument.readBack value.operations).map fun operations =>
    { value with operations }

variable (P) in
/-- `decode_state` and the assignments of `import_state`. -/
def decodeStored (value : StoredDocument) : Option Repository := do
  if value.schemaVersion ≠ 1 then none
  else
    let records ← decodeRecords (readOperation P) value.operations
    let operations ← OperationTable.ofRecords records
    let attempts ← decodeRecords (fun values => values.mapM attemptFromDict) value.attempts
    some {
      operations
      attempts
      idempotency := value.idempotency
      providerPauses := value.providerPauses }

def Repository.sortKeys (r : Repository) : Repository :=
  { r with operations := r.operations.mapValues OutboxOperation.sortKeys fun _ => rfl }

theorem decodeRecords_eq_some {α β : Type} {decode : α → Option β} {records : Records α}
    {decoded : Records β} (h : ∀ id : String, (records[id]?).bind decode = decoded[id]?)
    (hall : ∀ (id : String) (value : α), records[id]? = some value →
      (decode value).isSome = true) :
    decodeRecords decode records = some decoded := by
  unfold decodeRecords
  rw [if_pos]
  · congr 1
    apply Std.ExtTreeMap.ext_getElem?
    intro id
    rw [Std.ExtTreeMap.getElem?_filterMap']
    exact h id
  · rw [List.all_eq_true]
    rintro ⟨id, value⟩ hmem
    exact hall id value (Std.ExtTreeMap.mem_toList_iff_getElem?_eq_some.mp hmem)

/-- The state of operations that the constructor made is read back as the same one. -/
theorem decodeStored_json {r : Repository}
    (h : ∀ id operation, r.operations.get? id = some operation → Constructed P operation) :
    (encodeStored r).readBack.bind (decodeStored P) = some r.sortKeys := by
  -- what each entry is after the text, and after the constructor
  have hread : ∀ (id : String) (operation : OutboxOperation),
      r.operations.records[id]? = some operation →
        ∃ text, (writeOperation operation).readBack = some text ∧
          readOperation P text = some operation.sortKeys := fun id operation hget =>
    Option.bind_eq_some_iff.mp (readOperation_readBack (h id operation hget))
  have htexts : decodeRecords OperationDocument.readBack (encodeStored r).operations =
      some (r.operations.records.filterMap fun _ item => (writeOperation item).readBack) := by
    apply decodeRecords_eq_some
    · intro id
      change ((r.operations.records.map fun _ item => writeOperation item)[id]?).bind _ = _
      rw [Std.ExtTreeMap.getElem?_map, Std.ExtTreeMap.getElem?_filterMap']
      cases r.operations.records[id]? with
      | none => rfl
      | some operation => rfl
    · intro id value hvalue
      change (r.operations.records.map fun _ item => writeOperation item)[id]? = _ at hvalue
      rw [Std.ExtTreeMap.getElem?_map] at hvalue
      obtain ⟨operation, hget, rfl⟩ := Option.map_eq_some_iff.mp hvalue
      obtain ⟨text, htext, -⟩ := hread id operation hget
      rw [htext]
      rfl
  have hoperations : decodeRecords (readOperation P)
      (r.operations.records.filterMap fun _ item => (writeOperation item).readBack) =
        some r.sortKeys.operations.records := by
    apply decodeRecords_eq_some
    · intro id
      change _ = (r.operations.records.map fun _ item => item.sortKeys)[id]?
      rw [Std.ExtTreeMap.getElem?_map, Std.ExtTreeMap.getElem?_filterMap']
      cases hget : r.operations.records[id]? with
      | none => rfl
      | some operation =>
          obtain ⟨text, htext, hoperation⟩ := hread id operation hget
          rw [Option.bind_some, htext, Option.bind_some, hoperation]
          rfl
    · intro id value hvalue
      rw [Std.ExtTreeMap.getElem?_filterMap'] at hvalue
      obtain ⟨operation, hget, hwritten⟩ := Option.bind_eq_some_iff.mp hvalue
      obtain ⟨text, htext, hoperation⟩ := hread id operation hget
      rw [htext, Option.some.injEq] at hwritten
      rw [← hwritten, hoperation]
      rfl
  have hattempts : decodeRecords (fun values => values.mapM attemptFromDict)
      (encodeStored r).attempts = some r.attempts :=
    decodeRecords_map mapM_attemptFromDict r.attempts
  have hdocument : (encodeStored r).readBack = some { encodeStored r with
      operations := r.operations.records.filterMap fun _ item =>
        (writeOperation item).readBack } := by
    rw [StoredDocument.readBack, htexts]
    rfl
  rw [hdocument, Option.bind_some, decodeStored, if_neg (by simp [encodeStored])]
  simp only [hoperations, hattempts, OperationTable.ofRecords_records, Option.bind_eq_bind,
    Option.bind_some]
  rfl

/-! ## Restarting -/

variable {D : Digests} {r : Repository} {events : List Event} {command : Command}
  {response : Response} {before after operation : OutboxOperation}

theorem RecordStep.constructed (hstep : RecordStep D r command response before after)
    (hbefore : Constructed P before) : Constructed P after := by
  have hsame : after.operationType = before.operationType ∧
      after.providerId = before.providerId ∧
        after.payloadSchemaVersion = before.payloadSchemaVersion ∧
          after.maximumAttempts = before.maximumAttempts ∧ after.payload = before.payload := by
    have hrecovered (now : Timestamp) :
        (recoverOne now before).operationType = before.operationType ∧
          (recoverOne now before).providerId = before.providerId ∧
            (recoverOne now before).payloadSchemaVersion = before.payloadSchemaVersion ∧
              (recoverOne now before).maximumAttempts = before.maximumAttempts ∧
                (recoverOne now before).payload = before.payload := by
      unfold recoverOne
      split
      · split
        · exact ⟨rfl, rfl, rfl, rfl, rfl⟩
        · exact ⟨rfl, rfl, rfl, rfl, rfl⟩
      · exact ⟨rfl, rfl, rfl, rfl, rfl⟩
    cases hstep with
    | recovered now => exact hrecovered now
    | recoveredFirst ownerId token ttlSeconds now => exact hrecovered now
    | claimed ownerId token ttlSeconds now => exact hrecovered now
    | _ => exact ⟨rfl, rfl, rfl, rfl, rfl⟩
  obtain ⟨htype, hprovider, hschema, hmaximum, hpayload⟩ := hsame
  rw [constructed_iff] at hbefore ⊢
  rw [htype, hprovider, hschema, hmaximum, hpayload]
  exact hbefore

theorem History.constructed (history : History D events r)
    (hadded : ∀ event ∈ events, ∀ operation, event.command = .addOperation operation →
      Constructed P operation) {id : String} (hfiled : r.operations.get? id = some operation) :
    Constructed P operation := by
  induction history generalizing operation with
  | start =>
    rw [Repository.init, OperationTable.get?_empty] at hfiled
    cases hfiled
  | @call events r history command ih =>
    have hearlier : ∀ event ∈ events, ∀ operation,
        event.command = .addOperation operation → Constructed P operation :=
      fun event hevent => hadded event (List.mem_cons_of_mem _ hevent)
    rcases record_inv D r command hfiled with
      ⟨error, -, hsame⟩ | ⟨response, -, ⟨before, hbefore, hrecord⟩ | ⟨-, hcommand⟩⟩
    · exact ih hearlier hsame
    · exact hrecord.constructed (ih hearlier hbefore)
    · exact hadded _ List.mem_cons_self operation hcommand

/-- The digests of a repository, which takes fingerprints of texts with sorted keys. -/
def Digests.sorted (D : Digests) : Digests where
  hash := D.hash
  fingerprint request := D.fingerprint { request with payload := request.payload.sortKeys }

theorem requestFingerprint_sortKeys (D : Digests) (operation : OutboxOperation) :
    operation.sortKeys.requestFingerprint D.sorted = operation.requestFingerprint D.sorted := by
  simp only [OutboxOperation.requestFingerprint, Digests.sorted, OutboxOperation.sortKeys,
    sortKeys_sortKeys]

variable (P) in
/-- A repository that starts from the stored state of another one, at a time. -/
def restart (now : Timestamp) (r : Repository) : Option Repository :=
  ((encodeStored r).readBack.bind (decodeStored P)).map fun stored => stored.recover now

def OutboxOperation.orderingKey (operation : OutboxOperation) :
    Int × Timestamp × Timestamp × String :=
  (operation.priority, operation.availableAt, operation.createdAt, operation.operationId)

def OutboxOperation.claimFields (operation : OutboxOperation) :
    OutboxStatus × Option String × Option String × Option Timestamp × Option Timestamp :=
  (operation.status, operation.claimOwner, operation.claimTokenHash, operation.claimedAt,
    operation.claimExpiresAt)

structure SurvivesRestart (D : Digests) (now : Timestamp) (before after : OutboxOperation) :
    Prop where
  fingerprint : after.requestFingerprint D = before.requestFingerprint D
  fencingToken : after.fencingToken = before.fencingToken
  orderingKey : after.orderingKey = before.orderingKey
  claim : hasExpired now before = false → after.claimFields = before.claimFields

theorem survivesRestart (D : Digests) (now : Timestamp) (operation : OutboxOperation) :
    SurvivesRestart D.sorted now operation (recoverOne now operation.sortKeys) where
  fingerprint := by
    rw [← requestFingerprint_sortKeys D operation]
    unfold recoverOne
    split
    · split
      · rfl
      · rfl
    · rfl
  fencingToken := recoverOne_fencingToken now operation.sortKeys
  orderingKey := by
    unfold recoverOne
    split
    · split
      · rfl
      · rfl
    · rfl
  claim := by
    intro hlive
    have hsorted : hasExpired now operation.sortKeys = false := hlive
    unfold recoverOne
    rw [hsorted]
    rfl

@[simp]
theorem get?_sortKeys (r : Repository) (id : String) :
    r.sortKeys.operations.get? id = (r.operations.get? id).map OutboxOperation.sortKeys :=
  OperationTable.get?_mapValues r.operations OutboxOperation.sortKeys (fun _ => rfl) id

theorem History.readBack (history : History D events r)
    (hadded : ∀ event ∈ events, ∀ operation, event.command = .addOperation operation →
      Constructed P operation) :
    (encodeStored r).readBack.bind (decodeStored P) = some r.sortKeys :=
  decodeStored_json fun _ _ hget => history.constructed hadded hget

theorem History.restart_eq (history : History D events r)
    (hadded : ∀ event ∈ events, ∀ operation, event.command = .addOperation operation →
      Constructed P operation) (now : Timestamp) :
    restart P now r = some (r.sortKeys.recover now) := by
  rw [restart, history.readBack hadded]
  rfl

/-- Every reachable state is read back as it is, up to the order of the keys of payloads, and a
restart keeps all but the claims that have expired. -/
theorem serialization_round_trip (history : History D.sorted events r)
    (hadded : ∀ event ∈ events, ∀ operation, event.command = .addOperation operation →
      Constructed P operation) :
    (encodeStored r).readBack.bind (decodeStored P) = some r.sortKeys ∧
      ∀ now, ∃ restarted, restart P now r = some restarted ∧
        restarted.attempts = r.attempts ∧ restarted.idempotency = r.idempotency ∧
          restarted.providerPauses = r.providerPauses ∧
            ∀ id operation, r.operations.get? id = some operation →
              ∃ after, restarted.operations.get? id = some after ∧
                SurvivesRestart D.sorted now operation after := by
  refine ⟨history.readBack hadded, fun now =>
    ⟨r.sortKeys.recover now, history.restart_eq hadded now, rfl, rfl, rfl, ?_⟩⟩
  intro id operation hget
  refine ⟨recoverOne now operation.sortKeys, ?_, survivesRestart D now operation⟩
  rw [get?_recover, get?_sortKeys, hget]
  rfl

/-- Patterns that find the words themselves. -/
def samplePatterns : SecretPatterns where
  secret := fun value =>
    ["token", "secret", "password", "apikey", "api_key", "credential"].contains value
  secretValue := fun _ => false

theorem constructed_sampleOperation : Constructed samplePatterns sampleOperation :=
  constructed_iff.mpr ⟨by decide, by decide, by decide, by decide, .mapping [], rfl⟩

/-- The samples of `releasedUnexecuted` add only the sample operation. -/
theorem serialization_round_trip_released :
    (encodeStored (play sampleDigests.sorted releasedUnexecuted).2).readBack.bind
        (decodeStored samplePatterns) =
      some (play sampleDigests.sorted releasedUnexecuted).2.sortKeys := by
  refine (serialization_round_trip (history_play sampleDigests.sorted releasedUnexecuted)
    fun event hevent operation hcommand => ?_).1
  have hcommands : (play sampleDigests.sorted releasedUnexecuted).1.map (·.command) =
      releasedUnexecuted := rfl
  have hmem : event.command ∈ releasedUnexecuted := by
    rw [← hcommands]
    exact List.mem_map_of_mem hevent
  rw [hcommand] at hmem
  have hsample : operation = sampleOperation := by
    simpa [releasedUnexecuted, underReconciliation] using hmem
  rw [hsample]
  exact constructed_sampleOperation

/-- A worker claims the operation and is gone when its claim expires. -/
def claimedOnce : List Command :=
  [.claimNext "worker-1" "t1" 30 0, .addOperation sampleOperation]

/-- A restart does not keep every claim: it takes away those that have expired. -/
theorem not_every_claim_kept :
    ¬∀ (P : SecretPatterns) (D : Digests) (events : List Event) (r : Repository),
      History D.sorted events r →
        (∀ event ∈ events, ∀ operation, event.command = .addOperation operation →
          Constructed P operation) →
          ∀ now id operation, r.operations.get? id = some operation →
            ∃ restarted after, restart P now r = some restarted ∧
              restarted.operations.get? id = some after ∧
                after.claimFields = operation.claimFields := by
  intro hclaim
  have hadded : ∀ event ∈ (play sampleDigests.sorted claimedOnce).1, ∀ operation,
      event.command = .addOperation operation → Constructed samplePatterns operation := by
    intro event hevent operation hcommand
    have hmem : event.command ∈ claimedOnce := List.mem_map_of_mem (f := (·.command)) hevent
    rw [hcommand] at hmem
    have hsample : operation = sampleOperation := by simpa [claimedOnce] using hmem
    rw [hsample]
    exact constructed_sampleOperation
  have hclaimed : ((play sampleDigests.sorted claimedOnce).2.operations.get? "op-1").map
      (fun operation => (operation.status, hasExpired (timedelta 60) operation)) =
        some (.claimed, true) := by decide +kernel
  obtain ⟨operation, hfiled, hstatus⟩ := Option.map_eq_some_iff.mp hclaimed
  obtain ⟨hclaimed, hexpired⟩ := Prod.mk.inj hstatus
  obtain ⟨restarted, after, hrestart, hafter, hkept⟩ := hclaim samplePatterns sampleDigests _ _
    (history_play sampleDigests.sorted claimedOnce) hadded (timedelta 60) "op-1" operation hfiled
  rw [(history_play sampleDigests.sorted claimedOnce).restart_eq hadded,
    Option.some.injEq] at hrestart
  rw [← hrestart, get?_recover, get?_sortKeys, hfiled, Option.map_some, Option.map_some,
    Option.some.injEq] at hafter
  have hexpired' : hasExpired (timedelta 60) operation.sortKeys = true := hexpired
  have hnone : after.claimExpiresAt = none := by
    rw [← hafter, recoverOne, if_pos hexpired']
    rfl
  have hsome : after.claimExpiresAt = operation.claimExpiresAt := by
    simp only [OutboxOperation.claimFields, Prod.mk.injEq] at hkept
    exact hkept.2.2.2.2
  rw [hnone] at hsome
  simp [hasExpired, ← hsome] at hexpired

end Outbox
end Ascos
