import Ascos.Library.Checks
import Mathlib.Data.List.Sort
import Mathlib.Data.String.Basic
import Mathlib.Tactic.Common

/-!
# The canonical serializer

A translation of `runtime/persistence/serializer.py`.  Payload values are encoded as
typed JSON values, in which every mapping, sequence, set, byte string, time and enumeration
member carries its kind.  The JSON text itself is written by `Json.dumps`; reading it
back is the inverse in the standard library, so stored documents are kept as JSON values.
-/

namespace Ascos
namespace Persistence

/-- A JSON value; an object has its members in the order of the text. -/
inductive Json where
  | null
  | bool (value : Bool)
  | int (value : Int)
  | float (literal : String)
  | string (value : String)
  | array (items : List Json)
  | object (members : List (String × Json))

/-- A payload value, with mappings and sets as lists. -/
inductive Value where
  | null
  | bool (value : Bool)
  | int (value : Int)
  | float (literal : String)
  | text (value : String)
  | datetime (isoformat : String)
  | enum (className : String) (value : Json)
  | bytes (data : List UInt8)
  | mapping (items : List (String × Value))
  | sequence (items : List Value)
  | set (items : List Value)

/-! ## JSON text -/

def hexDigit (n : Nat) : Char :=
  if n < 10 then Char.ofNat (48 + n) else Char.ofNat (87 + n)

/-- A character inside a JSON text, as `json.dumps` with `ensure_ascii=False` writes it. -/
def escapeChar (c : Char) : List Char :=
  if c = '"' then ['\\', '"']
  else if c = '\\' then ['\\', '\\']
  else if c = '\n' then ['\\', 'n']
  else if c = '\r' then ['\\', 'r']
  else if c = '\t' then ['\\', 't']
  else if c.toNat = 8 then ['\\', 'b']
  else if c.toNat = 12 then ['\\', 'f']
  else if c.toNat < 32 then
    ['\\', 'u', '0', '0', hexDigit (c.toNat / 16), hexDigit (c.toNat % 16)]
  else [c]

/-- A JSON string. -/
def quote (value : String) : String :=
  String.ofList ('"' :: value.toList.flatMap escapeChar ++ ['"'])

/-- The members of an object in the order of their keys. -/
def sortMembers {ν : Type} (members : List (String × ν)) : List (String × ν) :=
  members.insertionSort fun a b => a.1 ≤ b.1

mutual

/-- `CanonicalSerializer.dumps`, without `sort_keys`: keys are written in the order of the
value, which every encoded value has sorted. -/
def Json.dumps : Json → String
  | .null => "null"
  | .bool value => if value then "true" else "false"
  | .int value => toString value
  | .float literal => literal
  | .string value => quote value
  | .array items => "[" ++ ",".intercalate (dumpsList items) ++ "]"
  | .object members => "\x7b" ++ ",".intercalate (dumpsMembers members) ++ "\x7d"

def dumpsList : List Json → List String
  | [] => []
  | item :: items => item.dumps :: dumpsList items

def dumpsMembers : List (String × Json) → List String
  | [] => []
  | (key, item) :: members => (quote key ++ ":" ++ item.dumps) :: dumpsMembers members

end

/-! ## Encoding -/

/-- `bytes.hex`. -/
def hexText (data : List UInt8) : String :=
  String.ofList (data.flatMap fun byte =>
    [hexDigit (byte.toNat / 16), hexDigit (byte.toNat % 16)])

def typed (kind : String) (members : List (String × Json)) : Json :=
  .object (("$type", .string kind) :: members)

/-- Encoded set members in the order of their texts. -/
def sortTexts (items : List Json) : List Json :=
  items.insertionSort fun a b => a.dumps ≤ b.dumps

mutual

def encodeValue : Value → Json
  | .null => .null
  | .bool value => .bool value
  | .int value => .int value
  | .float literal => .float literal
  | .text value => .string value
  | .datetime isoformat => typed "datetime" [("value", .string isoformat)]
  | .enum className value => typed "enum" [("enum", .string className), ("value", value)]
  | .bytes data => typed "bytes" [("value", .string (hexText data))]
  | .mapping items => typed "mapping" [("items", .object (sortMembers (encodeItems items)))]
  | .sequence items => typed "sequence" [("items", .array (encodeList items))]
  | .set items => typed "set" [("items", .array (sortTexts (encodeList items)))]

def encodeList : List Value → List Json
  | [] => []
  | item :: items => encodeValue item :: encodeList items

def encodeItems : List (String × Value) → List (String × Json)
  | [] => []
  | (key, item) :: items => (key, encodeValue item) :: encodeItems items

end

mutual

/-- The checkpoint's `_freeze` accepts the value: there is no time in it. -/
def Value.freezable : Value → Bool
  | .datetime _ => false
  | .mapping items => freezableItems items
  | .sequence items | .set items => freezableList items
  | _ => true

def freezableItems : List (String × Value) → Bool
  | [] => true
  | (_, item) :: items => item.freezable && freezableItems items

def freezableList : List Value → Bool
  | [] => true
  | item :: items => item.freezable && freezableList items

end

/-! ## Decoding -/

/-- What decoding can raise. -/
inductive SerializerError where
  | checkpointCorrupted (message : String)
deriving DecidableEq

/-- `ENUM_TYPES`: the values of each registered enumeration. -/
def enumTypes : List (String × List String) :=
  [("AgentRole",
      ["CEO", "PROJECT_MANAGER", "SOFTWARE_ARCHITECT", "BACKEND_ENGINEER", "FRONTEND_ENGINEER",
       "QA_ENGINEER", "DEVOPS_ENGINEER", "SECURITY_ENGINEER", "DATA_ENGINEER", "AI_ENGINEER",
       "DOCUMENTATION_ENGINEER"]),
   ("AgentState",
      ["REGISTERED", "AVAILABLE", "BUSY", "OFFLINE", "DISABLED"]),
   ("EventType",
      ["WORK_PACKAGE_CREATED", "WORK_ITEM_CREATED", "WORK_ITEM_STATE_CHANGED",
       "AGENT_REGISTERED", "AGENT_STATE_CHANGED", "PROJECT_REGISTERED",
       "MANAGED_PRODUCT_RUNTIME_CONFIGURATION_CREATED",
       "MANAGED_PRODUCT_RUNTIME_CONFIGURATION_REVISED", "REQUIREMENT_PRD_CREATED",
       "REQUIREMENT_PRD_APPROVED", "REQUIREMENT_PRD_LOCKED", "RELEASE_PLANNED",
       "RELEASE_APPROVED", "RELEASE_PUBLISHED", "RELEASE_ROLLED_BACK",
       "RUNTIME_ACCEPTANCE_PLANNED", "RUNTIME_ACCEPTANCE_IMPLEMENTED",
       "AUTOMATED_VERIFICATION_PASSED", "AUTOMATED_VERIFICATION_FAILED",
       "RUNTIME_VERIFICATION_PASSED", "RUNTIME_VERIFICATION_FAILED",
       "RUNTIME_ACCEPTANCE_HUMAN_ACCEPTANCE_REQUIRED", "HUMAN_ACCEPTANCE_RECORDED",
       "RUNTIME_ACCEPTANCE_ACCEPTED", "RUNTIME_ACCEPTANCE_COMPLETED", "ASSIGNMENT_CREATED",
       "ASSIGNMENT_COMPLETED", "ASSIGNMENT_CANCELLED", "EXECUTION_STARTED",
       "EXECUTION_SUCCEEDED", "EXECUTION_FAILED", "EXECUTION_CANCELLED",
       "EXECUTION_RECOVERY_RETRIED", "EXECUTION_RECOVERY_RESET",
       "EXECUTION_RECOVERY_CANCELLED", "SOFTWARE_REQUEST_SUBMITTED",
       "SOFTWARE_REQUEST_PLANNED", "SOFTWARE_WORK_ASSIGNED", "SOFTWARE_EXECUTION_STARTED",
       "SOFTWARE_EXECUTION_SUCCEEDED", "SOFTWARE_EXECUTION_FAILED",
       "SOFTWARE_REVIEW_SUBMITTED", "SOFTWARE_WORK_APPROVED", "SOFTWARE_WORK_REJECTED",
       "SOFTWARE_WORK_COMPLETED", "SOFTWARE_WORK_RELEASED", "SOFTWARE_WORKFLOW_CANCELLED",
       "SOFTWARE_EXECUTION_RECOVERED", "EXTERNAL_TASK_CREATED", "EXTERNAL_TASK_QUEUED",
       "EXTERNAL_TASK_STARTED", "EXTERNAL_TASK_PROGRESS_RECORDED",
       "EXTERNAL_TASK_PROVIDER_SELECTED", "EXTERNAL_TASK_WORKSPACE_CREATED",
       "EXTERNAL_TASK_BRANCH_CREATED", "EXTERNAL_OPERATION_PLANNED",
       "EXTERNAL_OPERATION_STARTED", "EXTERNAL_OPERATION_SUCCEEDED",
       "EXTERNAL_OPERATION_FAILED", "EXTERNAL_OPERATION_RECONCILIATION_REQUIRED",
       "EXTERNAL_TASK_COMPLETED", "EXTERNAL_TASK_FAILED", "EXTERNAL_TASK_RETRY_REQUESTED",
       "EXTERNAL_TASK_CANCELLED", "EXTERNAL_TASK_REVIEW_REQUESTED", "EXTERNAL_TASK_APPROVED",
       "EXTERNAL_TASK_REJECTED", "EXTERNAL_TASK_CHANGES_REQUESTED",
       "EXTERNAL_PULL_REQUEST_CREATED", "EXTERNAL_CI_STATUS_OBSERVED",
       "OUTBOX_OPERATION_CREATED", "OUTBOX_OPERATION_CLAIMED", "OUTBOX_CLAIM_RENEWED",
       "OUTBOX_CLAIM_RELEASED", "OUTBOX_DISPATCH_STARTED", "OUTBOX_DISPATCH_SUCCEEDED",
       "OUTBOX_DISPATCH_FAILED", "OUTBOX_RETRY_SCHEDULED", "OUTBOX_RECONCILIATION_REQUIRED",
       "OUTBOX_RECONCILIATION_STARTED", "OUTBOX_RECONCILIATION_SUCCEEDED",
       "OUTBOX_RECONCILIATION_FAILED", "OUTBOX_OPERATION_DEAD_LETTERED",
       "OUTBOX_DEAD_LETTER_RETRY_REQUESTED", "OUTBOX_OPERATION_CANCELLED",
       "OUTBOX_OPERATOR_ACTION_RECORDED", "OUTBOX_PROVIDER_DISPATCH_PAUSED",
       "OUTBOX_PROVIDER_DISPATCH_RESUMED"]),
   ("ExecutionStatus",
      ["CREATED", "RUNNING", "SUCCEEDED", "FAILED", "CANCELLED"]),
   ("RecoveryAction",
      ["RETRY", "RESET_TO_ASSIGNED", "CANCEL_ASSIGNMENT"]),
   ("LifecycleState",
      ["CREATED", "READY", "ASSIGNED", "RUNNING", "REVIEW", "APPROVED", "REJECTED",
       "COMPLETED", "RELEASED"]),
   ("AssignmentStatus",
      ["CREATED", "ACTIVE", "COMPLETED", "CANCELLED"]),
   ("WorkflowStage",
      ["INTAKE", "PLANNING", "READY", "ASSIGNED", "EXECUTING", "REVIEW", "APPROVAL",
       "COMPLETED", "RELEASED", "FAILED", "CANCELLED"])]

/-- `enum_type(value)` for a registered enumeration; its members are texts. -/
def enumMember (className : String) (value : Json) : Option Value :=
  match enumTypes.lookup className, value with
  | some values, .string text => if text ∈ values then some (.text text) else none
  | _, _ => none

def digitValue (c : Char) : Option Nat :=
  if '0' ≤ c ∧ c ≤ '9' then some (c.toNat - 48)
  else if 'a' ≤ c ∧ c ≤ 'f' then some (c.toNat - 87)
  else if 'A' ≤ c ∧ c ≤ 'F' then some (c.toNat - 55)
  else none

/-- `bytes.fromhex` on digits without blanks. -/
def fromHexDigits : List Char → Option (List UInt8)
  | [] => some []
  | [_] => none
  | high :: low :: rest => do
    let h ← digitValue high
    let l ← digitValue low
    let data ← fromHexDigits rest
    pure (UInt8.ofNat (16 * h + l) :: data)

/-- `datetime.fromisoformat` accepts a text and finds a time zone in it. -/
abbrev AwareTime := String → Bool

mutual

def decodeValue (aware : AwareTime) : Json → Except SerializerError Value
  | .null => pure .null
  | .bool value => pure (.bool value)
  | .int value => pure (.int value)
  | .float literal => pure (.float literal)
  | .string value => pure (.text value)
  | .array _ => throw (.checkpointCorrupted "Malformed typed persistence value")
  | .object members =>
    match members.lookup "$type" with
    | none => throw (.checkpointCorrupted "Malformed typed persistence value")
    | some (.string "datetime") =>
        match members.lookup "value" with
        | some (.string isoformat) =>
            if aware isoformat then pure (.datetime isoformat)
            else throw (.checkpointCorrupted "Malformed persistence value")
        | _ => throw (.checkpointCorrupted "Malformed persistence value")
    | some (.string "enum") =>
        match members.lookup "enum", members.lookup "value" with
        | some (.string className), some value =>
            match enumMember className value with
            | some member => pure member
            | none => throw (.checkpointCorrupted "Malformed persistence value")
        | _, _ => throw (.checkpointCorrupted "Malformed persistence value")
    | some (.string "bytes") =>
        match members.lookup "value" with
        | some (.string text) =>
            match fromHexDigits text.toList with
            | some data => pure (.bytes data)
            | none => throw (.checkpointCorrupted "Malformed persistence value")
        | _ => throw (.checkpointCorrupted "Malformed persistence value")
    | some (.string "mapping") => Value.mapping <$> decodeMapping aware members
    | some (.string "sequence") => Value.sequence <$> decodeSequence aware members
    | some (.string "set") => Value.set <$> decodeSequence aware members
    | some _ => throw (.checkpointCorrupted "Unknown persistence type discriminator")

/-- The decoded members of `value["items"]`, an object. -/
def decodeMapping (aware : AwareTime) :
    List (String × Json) → Except SerializerError (List (String × Value))
  | [] => throw (.checkpointCorrupted "Malformed persistence value")
  | (key, value) :: members =>
    if key = "items" then
      match value with
      | .object items => decodeItems aware items
      | _ => throw (.checkpointCorrupted "Malformed persistence value")
    else decodeMapping aware members

/-- The decoded items of `value["items"]`, an array. -/
def decodeSequence (aware : AwareTime) :
    List (String × Json) → Except SerializerError (List Value)
  | [] => throw (.checkpointCorrupted "Malformed persistence value")
  | (key, value) :: members =>
    if key = "items" then
      match value with
      | .array items => decodeList aware items
      | _ => throw (.checkpointCorrupted "Malformed persistence value")
    else decodeSequence aware members

def decodeItems (aware : AwareTime) :
    List (String × Json) → Except SerializerError (List (String × Value))
  | [] => pure []
  | (key, item) :: items => do
    let value ← decodeValue aware item
    let rest ← decodeItems aware items
    pure ((key, value) :: rest)

def decodeList (aware : AwareTime) : List Json → Except SerializerError (List Value)
  | [] => pure []
  | item :: items => do
    let value ← decodeValue aware item
    let rest ← decodeList aware items
    pure (value :: rest)

end

/-! ## The round trip -/

mutual

/-- The representation of a value: mappings are listed in the order of their keys and sets
in the order of their texts, since neither order can be observed. -/
def Value.Canonical : Value → Prop
  | .mapping items => items.Pairwise (fun a b => a.1 < b.1) ∧ CanonicalItems items
  | .sequence items => CanonicalList items
  | .set items =>
      (encodeList items).Pairwise (fun a b => a.dumps ≤ b.dumps) ∧ CanonicalList items
  | _ => True

def CanonicalItems : List (String × Value) → Prop
  | [] => True
  | (_, item) :: items => item.Canonical ∧ CanonicalItems items

def CanonicalList : List Value → Prop
  | [] => True
  | item :: items => item.Canonical ∧ CanonicalList items

end

mutual

/-- A value without enumeration members and times. -/
def Value.Plain : Value → Prop
  | .enum _ _ | .datetime _ => False
  | .mapping items => PlainItems items
  | .sequence items | .set items => PlainList items
  | _ => True

def PlainItems : List (String × Value) → Prop
  | [] => True
  | (_, item) :: items => item.Plain ∧ PlainItems items

def PlainList : List Value → Prop
  | [] => True
  | item :: items => item.Plain ∧ PlainList items

end

mutual

/-- A value without enumeration members, whose times have a zone. -/
def Value.Legible (aware : AwareTime) : Value → Prop
  | .enum _ _ => False
  | .datetime isoformat => aware isoformat = true
  | .mapping items => LegibleItems aware items
  | .sequence items | .set items => LegibleList aware items
  | _ => True

def LegibleItems (aware : AwareTime) : List (String × Value) → Prop
  | [] => True
  | (_, item) :: items => item.Legible aware ∧ LegibleItems aware items

def LegibleList (aware : AwareTime) : List Value → Prop
  | [] => True
  | item :: items => item.Legible aware ∧ LegibleList aware items

end

mutual

theorem Value.Plain.legible (aware : AwareTime) (value : Value) (h : value.Plain) :
    value.Legible aware := by
  cases value with
  | mapping items => exact PlainItems.legible aware items h
  | sequence items => exact PlainList.legible aware items h
  | set items => exact PlainList.legible aware items h
  | datetime isoformat => exact h.elim
  | enum className value => exact h.elim
  | null => trivial
  | bool value => trivial
  | int value => trivial
  | float literal => trivial
  | text value => trivial
  | bytes data => trivial

theorem PlainItems.legible (aware : AwareTime) (items : List (String × Value))
    (h : PlainItems items) : LegibleItems aware items := by
  match items, h with
  | [], _ => trivial
  | (_, item) :: items, h =>
      exact ⟨Value.Plain.legible aware item h.1, PlainItems.legible aware items h.2⟩

theorem PlainList.legible (aware : AwareTime) (items : List Value) (h : PlainList items) :
    LegibleList aware items := by
  match items, h with
  | [], _ => trivial
  | item :: items, h =>
      exact ⟨Value.Plain.legible aware item h.1, PlainList.legible aware items h.2⟩

end

theorem digitValue_hexDigit : ∀ n < 16, digitValue (hexDigit n) = some n := by
  decide

theorem fromHexDigits_hexText (data : List UInt8) :
    fromHexDigits (hexText data).toList = some data := by
  rw [hexText, String.toList_ofList]
  induction data with
  | nil => rfl
  | cons byte data ih =>
    have hbyte : byte.toNat < 256 := byte.toNat_lt
    have hhigh := digitValue_hexDigit (byte.toNat / 16) (by omega)
    have hlow := digitValue_hexDigit (byte.toNat % 16) (by omega)
    have hsum : 16 * (byte.toNat / 16) + byte.toNat % 16 = byte.toNat := by omega
    simp only [List.flatMap_cons, List.cons_append, List.nil_append, fromHexDigits, hhigh,
      hlow, ih, Option.bind_eq_bind, Option.bind_some, hsum, UInt8.ofNat_toNat]
    rfl

theorem mem_encodeItems {items : List (String × Value)} {member : String × Json}
    (h : member ∈ encodeItems items) : ∃ item ∈ items, item.1 = member.1 := by
  induction items with
  | nil => cases h
  | cons item items ih =>
    rcases List.mem_cons.mp h with rfl | htail
    · exact ⟨item, List.mem_cons_self, rfl⟩
    · obtain ⟨found, hfound, hkey⟩ := ih htail
      exact ⟨found, List.mem_cons_of_mem _ hfound, hkey⟩

theorem pairwise_encodeItems {items : List (String × Value)}
    (h : items.Pairwise fun a b => a.1 < b.1) :
    (encodeItems items).Pairwise fun a b => a.1 ≤ b.1 := by
  induction items with
  | nil => exact List.Pairwise.nil
  | cons item items ih =>
    obtain ⟨hhead, htail⟩ := List.pairwise_cons.mp h
    refine List.Pairwise.cons (fun member hmember => ?_) (ih htail)
    obtain ⟨found, hfound, hkey⟩ := mem_encodeItems hmember
    exact hkey ▸ (hhead found hfound).le

theorem sortMembers_encodeItems {items : List (String × Value)}
    (h : items.Pairwise fun a b => a.1 < b.1) :
    sortMembers (encodeItems items) = encodeItems items :=
  (pairwise_encodeItems h).insertionSort_eq

theorem sortTexts_encodeList {items : List Value}
    (h : (encodeList items).Pairwise fun a b => a.dumps ≤ b.dumps) :
    sortTexts (encodeList items) = encodeList items :=
  h.insertionSort_eq

@[simp]
theorem lookup_typed (kind : String) (members : List (String × Json)) :
    (("$type", Json.string kind) :: members).lookup "$type" = some (.string kind) :=
  List.lookup_cons_self

mutual

theorem decodeValue_encodeValue (aware : AwareTime) (value : Value)
    (hcanonical : value.Canonical) (hlegible : value.Legible aware) :
    decodeValue aware (encodeValue value) = .ok value := by
  cases value with
  | null => rfl
  | bool value => rfl
  | int value => rfl
  | float literal => rfl
  | text value => rfl
  | datetime isoformat =>
    have haware : aware isoformat = true := hlegible
    have hvalue : [("$type", Json.string "datetime"), ("value", .string isoformat)].lookup
        "value" = some (.string isoformat) := rfl
    simp only [encodeValue, typed, decodeValue, lookup_typed, hvalue, haware, if_true]
    rfl
  | enum className value => exact hlegible.elim
  | bytes data =>
    have hvalue : [("$type", Json.string "bytes"), ("value", .string (hexText data))].lookup
        "value" = some (.string (hexText data)) := rfl
    simp only [encodeValue, typed, decodeValue, lookup_typed, hvalue, fromHexDigits_hexText]
    rfl
  | mapping items =>
    simp only [encodeValue, typed, decodeValue, lookup_typed,
      sortMembers_encodeItems hcanonical.1]
    simp [decodeMapping, decodeItems_encodeItems aware items hcanonical.2 hlegible]
  | sequence items =>
    simp only [encodeValue, typed, decodeValue, lookup_typed]
    simp [decodeSequence, decodeList_encodeList aware items hcanonical hlegible]
  | set items =>
    simp only [encodeValue, typed, decodeValue, lookup_typed,
      sortTexts_encodeList hcanonical.1]
    simp [decodeSequence, decodeList_encodeList aware items hcanonical.2 hlegible]

theorem decodeItems_encodeItems (aware : AwareTime) (items : List (String × Value))
    (hcanonical : CanonicalItems items) (hlegible : LegibleItems aware items) :
    decodeItems aware (encodeItems items) = .ok items := by
  match items, hcanonical, hlegible with
  | [], _, _ => rfl
  | (key, item) :: items, hcanonical, hlegible =>
    simp only [encodeItems, decodeItems,
      decodeValue_encodeValue aware item hcanonical.1 hlegible.1,
      decodeItems_encodeItems aware items hcanonical.2 hlegible.2]
    rfl

theorem decodeList_encodeList (aware : AwareTime) (items : List Value)
    (hcanonical : CanonicalList items) (hlegible : LegibleList aware items) :
    decodeList aware (encodeList items) = .ok items := by
  match items, hcanonical, hlegible with
  | [], _, _ => rfl
  | item :: items, hcanonical, hlegible =>
    simp only [encodeList, decodeList,
      decodeValue_encodeValue aware item hcanonical.1 hlegible.1,
      decodeList_encodeList aware items hcanonical.2 hlegible.2]
    rfl

end

/-! ## What decoding returns -/

theorem map_ok {ε α β : Type} {f : α → β} {x : Except ε α} {b : β} (h : f <$> x = .ok b) :
    ∃ a, x = .ok a ∧ f a = b := by
  cases x with
  | error e => cases h
  | ok a => exact ⟨a, rfl, Except.ok.inj h⟩

mutual

theorem legible_of_decodeValue (aware : AwareTime) (stored : Json) (value : Value)
    (h : decodeValue aware stored = .ok value) : value.Legible aware := by
  match stored, h with
  | .null, h =>
    cases h
    trivial
  | .bool _, h =>
    cases h
    trivial
  | .int _, h =>
    cases h
    trivial
  | .float _, h =>
    cases h
    trivial
  | .string _, h =>
    cases h
    trivial
  | .array _, h => cases h
  | .object members, h =>
    unfold decodeValue at h
    split at h
    · cases h
    · split at h
      · split_ifs at h with haware
        cases h
        exact haware
      · cases h
    · split at h
      · split at h
        · rename_i member hmember
          cases h
          unfold enumMember at hmember
          split at hmember
          · split_ifs at hmember
            cases hmember
            trivial
          · cases hmember
        · cases h
      · cases h
    · split at h
      · split at h
        · cases h
          trivial
        · cases h
      · cases h
    · obtain ⟨items, hitems, rfl⟩ := map_ok h
      exact legible_of_decodeMapping aware members items hitems
    · obtain ⟨items, hitems, rfl⟩ := map_ok h
      exact legible_of_decodeSequence aware members items hitems
    · obtain ⟨items, hitems, rfl⟩ := map_ok h
      exact legible_of_decodeSequence aware members items hitems
    · cases h

theorem legible_of_decodeMapping (aware : AwareTime) (members : List (String × Json))
    (items : List (String × Value)) (h : decodeMapping aware members = .ok items) :
    LegibleItems aware items := by
  match members, h with
  | [], h => cases h
  | (key, .object stored) :: members, h =>
    simp only [decodeMapping] at h
    split_ifs at h
    · exact legible_of_decodeItems aware stored items h
    · exact legible_of_decodeMapping aware members items h
  | (key, .null) :: members, h
  | (key, .bool _) :: members, h
  | (key, .int _) :: members, h
  | (key, .float _) :: members, h
  | (key, .string _) :: members, h
  | (key, .array _) :: members, h =>
    simp only [decodeMapping] at h
    split_ifs at h
    exact legible_of_decodeMapping aware members items h

theorem legible_of_decodeSequence (aware : AwareTime) (members : List (String × Json))
    (items : List Value) (h : decodeSequence aware members = .ok items) :
    LegibleList aware items := by
  match members, h with
  | [], h => cases h
  | (key, .array stored) :: members, h =>
    simp only [decodeSequence] at h
    split_ifs at h
    · exact legible_of_decodeList aware stored items h
    · exact legible_of_decodeSequence aware members items h
  | (key, .null) :: members, h
  | (key, .bool _) :: members, h
  | (key, .int _) :: members, h
  | (key, .float _) :: members, h
  | (key, .string _) :: members, h
  | (key, .object _) :: members, h =>
    simp only [decodeSequence] at h
    split_ifs at h
    exact legible_of_decodeSequence aware members items h

theorem legible_of_decodeItems (aware : AwareTime) (stored : List (String × Json))
    (items : List (String × Value)) (h : decodeItems aware stored = .ok items) :
    LegibleItems aware items := by
  match stored, h with
  | [], h =>
    cases h
    trivial
  | (key, item) :: stored, h =>
    simp only [decodeItems, Library.Checks.bind_ok_iff] at h
    obtain ⟨value, hvalue, rest, hrest, heq⟩ := h
    cases heq
    exact ⟨legible_of_decodeValue aware item value hvalue,
      legible_of_decodeItems aware stored rest hrest⟩

theorem legible_of_decodeList (aware : AwareTime) (stored : List Json) (items : List Value)
    (h : decodeList aware stored = .ok items) : LegibleList aware items := by
  match stored, h with
  | [], h =>
    cases h
    trivial
  | item :: stored, h =>
    simp only [decodeList, Library.Checks.bind_ok_iff] at h
    obtain ⟨value, hvalue, rest, hrest, heq⟩ := h
    cases heq
    exact ⟨legible_of_decodeValue aware item value hvalue,
      legible_of_decodeList aware stored rest hrest⟩

end

end Persistence
end Ascos
