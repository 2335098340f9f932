import Ascos.Library.Dictionary
import Ascos.Persistence.Database

/-!
# The payloads of events

The payload of `runtime/events/event.py`.  The constructor of an event freezes what it is
given; the serializer writes the frozen payload, reads it back, and the constructor freezes what
was read.

Main results:

- Theorem `event_payload_restored_iff`: a payload comes back as it was exactly when it holds
  no set, no enumeration member, no time without a zone and no number that is not finite.
-/

namespace Ascos
namespace Persistence

open Library

/-! ## Payloads -/

/-- What a member of an enumeration is to the serializer: a value of the scalar class that the
enumeration derives from, or a plain member, with its value if `json.dumps` writes that. -/
inductive MemberValue where
  | text (value : String)
  | int (value : Int)
  | float (literal : String)
  | plain (value : Option Json)

/-- An object that a caller puts into a payload.  A mapping lists the texts of its keys, of which
some may be the same; `other` is any other object. -/
inductive Object where
  | null
  | bool (value : Bool)
  | int (value : Int)
  | float (literal : String)
  | text (value : String)
  | datetime (isoformat : String)
  | member (className : String) (value : MemberValue)
  | bytes (data : List UInt8)
  | mapping (items : List (String × Object))
  | list (items : List Object)
  | tuple (items : List Object)
  | set (items : List Object)
  | frozenset (items : List Object)
  | other

/-- A frozen payload value.  The order of a mapping cannot be observed: its items are listed in
the order of their keys. -/
inductive EventPayload where
  | null
  | bool (value : Bool)
  | int (value : Int)
  | float (literal : String)
  | text (value : String)
  | datetime (isoformat : String)
  | member (className : String) (value : MemberValue)
  | bytes (data : List UInt8)
  | mapping (items : List (String × EventPayload))
  | tuple (items : List EventPayload)
  | frozenset (items : List EventPayload)

/-! ## Freezing -/

/-- The refusal of a value that cannot be frozen. -/
def unfreezable : Failure :=
  .validation ("RuntimeEvent.payload values must be mappings, lists, tuples, sets, " ++
    "or immutable scalar values")

mutual

def freeze : Object → Except Failure EventPayload
  | .null => pure .null
  | .bool value => pure (.bool value)
  | .int value => pure (.int value)
  | .float literal => pure (.float literal)
  | .text value => pure (.text value)
  | .datetime isoformat => pure (.datetime isoformat)
  | .member className value => pure (.member className value)
  | .bytes data => pure (.bytes data)
  | .mapping items => do
    let frozen ← freezeItems items
    pure (.mapping (Dictionary.sort (Dictionary.ofEntries frozen)))
  | .list items => EventPayload.tuple <$> freezeList items
  | .tuple items => EventPayload.tuple <$> freezeList items
  | .set items => EventPayload.frozenset <$> freezeList items
  -- only `set` is looked for, and a frozen set is not one
  | .frozenset _ => throw unfreezable
  | .other => throw unfreezable

def freezeItems : List (String × Object) → Except Failure (List (String × EventPayload))
  | [] => pure []
  | (key, item) :: items => do
    let frozen ← freeze item
    let rest ← freezeItems items
    pure ((key, frozen) :: rest)

def freezeList : List Object → Except Failure (List EventPayload)
  | [] => pure []
  | item :: items => do
    let frozen ← freeze item
    let rest ← freezeList items
    pure (frozen :: rest)

end

/-- The payload that `RuntimeEvent.__post_init__` makes of an object. -/
def frozenPayload : Object → Except Failure EventPayload
  | .mapping items => freeze (.mapping items)
  | _ => throw (.validation "RuntimeEvent.payload must be a mapping")

/-! ## Writing and reading -/

/-- What `encode_value` looks at in a member of an enumeration: scalar classes come first. -/
def MemberValue.encoded (className : String) : MemberValue → Value
  | .text value => .text value
  | .int value => .int value
  | .float literal => .float literal
  | .plain value => .enum className (value.getD .null)

mutual

/-- What `encode_value` looks at in a payload. -/
def EventPayload.value : EventPayload → Value
  | .null => .null
  | .bool value => .bool value
  | .int value => .int value
  | .float literal => .float literal
  | .text value => .text value
  | .datetime isoformat => .datetime isoformat
  | .member className value => value.encoded className
  | .bytes data => .bytes data
  | .mapping items => .mapping (itemValues items)
  | .tuple items => .sequence (listValues items)
  | .frozenset items => .set (listValues items)

def itemValues : List (String × EventPayload) → List (String × Value)
  | [] => []
  | (key, item) :: items => (key, item.value) :: itemValues items

def listValues : List EventPayload → List Value
  | [] => []
  | item :: items => item.value :: listValues items

end

/-- The texts of the numbers that `json.dumps` writes with `allow_nan=False`. -/
def isFinite (literal : String) : Bool :=
  literal ∉ ["nan", "inf", "-inf"]

/-- `json.dumps` writes a member of an enumeration. -/
def MemberValue.writable : MemberValue → Bool
  | .text _ => true
  | .int _ => true
  | .float literal => isFinite literal
  | .plain value => value.isSome

mutual

/-- `json.dumps` writes what `encode_value` makes of a payload. -/
def EventPayload.writable : EventPayload → Bool
  | .float literal => isFinite literal
  | .member _ value => value.writable
  | .mapping items => itemsWritable items
  | .tuple items => listWritable items
  | .frozenset items => listWritable items
  | _ => true

def itemsWritable : List (String × EventPayload) → Bool
  | [] => true
  | (_, item) :: items => item.writable && itemsWritable items

def listWritable : List EventPayload → Bool
  | [] => true
  | item :: items => item.writable && listWritable items

end

mutual

/-- The object that `decode_value` returns. -/
def Value.object : Value → Object
  | .null => .null
  | .bool value => .bool value
  | .int value => .int value
  | .float literal => .float literal
  | .text value => .text value
  | .datetime isoformat => .datetime isoformat
  | .enum className value => .member className (.plain (some value))
  | .bytes data => .bytes data
  | .mapping items => .mapping (itemObjects items)
  | .sequence items => .tuple (listObjects items)
  | .set items => .frozenset (listObjects items)

def itemObjects : List (String × Value) → List (String × Object)
  | [] => []
  | (key, item) :: items => (key, item.object) :: itemObjects items

def listObjects : List Value → List Object
  | [] => []
  | item :: items => item.object :: listObjects items

end

/-- `decode_value`, whose failures are those of the serializer. -/
def decoded (aware : AwareTime) (stored : Json) : Except Failure Value :=
  match decodeValue aware stored with
  | .error (.checkpointCorrupted message) => throw (.checkpointCorrupted message)
  | .ok value => pure value

/-- A payload that is written, read back and handed to the constructor of an event. -/
def restored (aware : AwareTime) (payload : EventPayload) : Except Failure EventPayload := do
  if payload.writable = false then throw .malformed
  let value ← decoded aware (encodeValue payload.value)
  frozenPayload value.object

/-! ## The payloads that come back -/

mutual

/-- There is no set, no enumeration member and no time without a zone in the payload. -/
def EventPayload.Readable (aware : AwareTime) : EventPayload → Prop
  | .datetime isoformat => aware isoformat = true
  | .member _ _ => False
  | .frozenset _ => False
  | .mapping items => ItemsReadable aware items
  | .tuple items => ListReadable aware items
  | _ => True

def ItemsReadable (aware : AwareTime) : List (String × EventPayload) → Prop
  | [] => True
  | (_, item) :: items => item.Readable aware ∧ ItemsReadable aware items

def ListReadable (aware : AwareTime) : List EventPayload → Prop
  | [] => True
  | item :: items => item.Readable aware ∧ ListReadable aware items

end

/-- Every number in the payload is finite, and there is no set, no enumeration member and no
time without a zone in it. -/
def EventPayload.Restorable (aware : AwareTime) (payload : EventPayload) : Prop :=
  payload.writable = true ∧ payload.Readable aware

mutual

/-- The items of every mapping in the payload are in the strict order of their keys. -/
def EventPayload.Ordered : EventPayload → Prop
  | .mapping items => items.Pairwise (fun a b => a.1 < b.1) ∧ ItemsOrdered items
  | .tuple items => ListOrdered items
  | .frozenset items => ListOrdered items
  | _ => True

def ItemsOrdered : List (String × EventPayload) → Prop
  | [] => True
  | (_, item) :: items => item.Ordered ∧ ItemsOrdered items

def ListOrdered : List EventPayload → Prop
  | [] => True
  | item :: items => item.Ordered ∧ ListOrdered items

end

theorem itemsOrdered_iff {items : List (String × EventPayload)} :
    ItemsOrdered items ↔ ∀ item ∈ items, item.2.Ordered := by
  induction items with
  | nil => simp [ItemsOrdered]
  | cons item items ih => simp [ItemsOrdered, ih]

theorem itemsReadable_iff {aware : AwareTime} {items : List (String × EventPayload)} :
    ItemsReadable aware items ↔ ∀ item ∈ items, item.2.Readable aware := by
  induction items with
  | nil => simp [ItemsReadable]
  | cons item items ih => simp [ItemsReadable, ih]

/-- The frozen items of a mapping, in the order of their keys. -/
abbrev frozenItems (items : List (String × EventPayload)) : List (String × EventPayload) :=
  Dictionary.sort (Dictionary.ofEntries items)

theorem mem_frozenItems {items : List (String × EventPayload)} {item : String × EventPayload}
    (h : item ∈ frozenItems items) : item ∈ items :=
  Dictionary.mem_of_mem_ofEntries (Dictionary.mem_sort.mp h)

theorem pairwise_frozenItems (items : List (String × EventPayload)) :
    (frozenItems items).Pairwise fun a b => a.1 < b.1 :=
  Dictionary.pairwise_sort (Dictionary.nodup_ofEntries items)

theorem frozenItems_of_pairwise {items : List (String × EventPayload)}
    (h : items.Pairwise fun a b => a.1 < b.1) : frozenItems items = items := by
  rw [frozenItems, Dictionary.ofEntries_of_nodup (Dictionary.nodup_of_pairwise h)]
  exact Dictionary.sort_of_pairwise h

theorem freeze_mapping_ok {items : List (String × Object)} {payload : EventPayload}
    (h : freeze (.mapping items) = .ok payload) :
    ∃ frozen, freezeItems items = .ok frozen ∧ .mapping (frozenItems frozen) = payload := by
  rw [freeze, Checks.bind_ok_iff] at h
  obtain ⟨frozen, hfrozen, heq⟩ := h
  exact ⟨frozen, hfrozen, Except.ok.inj heq⟩

mutual

theorem ordered_of_freeze (object : Object) (payload : EventPayload)
    (h : freeze object = .ok payload) : payload.Ordered := by
  match object, h with
  | .null, h => cases h; trivial
  | .bool _, h => cases h; trivial
  | .int _, h => cases h; trivial
  | .float _, h => cases h; trivial
  | .text _, h => cases h; trivial
  | .datetime _, h => cases h; trivial
  | .member _ _, h => cases h; trivial
  | .bytes _, h => cases h; trivial
  | .mapping items, h =>
    obtain ⟨frozen, hfrozen, rfl⟩ := freeze_mapping_ok h
    have hitems := itemsOrdered_iff.mp (ordered_of_freezeItems items frozen hfrozen)
    exact ⟨pairwise_frozenItems frozen,
      itemsOrdered_iff.mpr fun item hitem => hitems item (mem_frozenItems hitem)⟩
  | .list items, h =>
    obtain ⟨frozen, hfrozen, rfl⟩ := map_ok h
    exact ordered_of_freezeList items frozen hfrozen
  | .tuple items, h =>
    obtain ⟨frozen, hfrozen, rfl⟩ := map_ok h
    exact ordered_of_freezeList items frozen hfrozen
  | .set items, h =>
    obtain ⟨frozen, hfrozen, rfl⟩ := map_ok h
    exact ordered_of_freezeList items frozen hfrozen
  | .frozenset _, h => cases h
  | .other, h => cases h

theorem ordered_of_freezeItems (items : List (String × Object))
    (frozen : List (String × EventPayload)) (h : freezeItems items = .ok frozen) :
    ItemsOrdered frozen := by
  match items, h with
  | [], h => cases h; trivial
  | (key, item) :: items, h =>
    simp only [freezeItems, Checks.bind_ok_iff] at h
    obtain ⟨first, hfirst, rest, hrest, heq⟩ := h
    cases heq
    exact ⟨ordered_of_freeze item first hfirst, ordered_of_freezeItems items rest hrest⟩

theorem ordered_of_freezeList (items : List Object) (frozen : List EventPayload)
    (h : freezeList items = .ok frozen) : ListOrdered frozen := by
  match items, h with
  | [], h => cases h; trivial
  | item :: items, h =>
    simp only [freezeList, Checks.bind_ok_iff] at h
    obtain ⟨first, hfirst, rest, hrest, heq⟩ := h
    cases heq
    exact ⟨ordered_of_freeze item first hfirst, ordered_of_freezeList items rest hrest⟩

end

/-! ## A readable payload comes back -/

theorem mem_itemValues {items : List (String × EventPayload)} {entry : String × Value}
    (h : entry ∈ itemValues items) : ∃ item ∈ items, item.1 = entry.1 := by
  induction items with
  | nil => cases h
  | cons item items ih =>
    rcases List.mem_cons.mp h with rfl | hrest
    · exact ⟨item, List.mem_cons_self, rfl⟩
    · obtain ⟨found, hfound, hkey⟩ := ih hrest
      exact ⟨found, List.mem_cons_of_mem _ hfound, hkey⟩

theorem pairwise_itemValues {items : List (String × EventPayload)}
    (h : items.Pairwise fun a b => a.1 < b.1) :
    (itemValues items).Pairwise fun a b => a.1 < b.1 := by
  induction items with
  | nil => exact List.Pairwise.nil
  | cons item items ih =>
    obtain ⟨hhead, htail⟩ := List.pairwise_cons.mp h
    refine List.Pairwise.cons (fun entry hentry => ?_) (ih htail)
    obtain ⟨found, hfound, hkey⟩ := mem_itemValues hentry
    exact hkey ▸ hhead found hfound

mutual

theorem EventPayload.Readable.canonical {aware : AwareTime} (payload : EventPayload)
    (h : payload.Readable aware) (hordered : payload.Ordered) : payload.value.Canonical := by
  match payload, h, hordered with
  | .null, _, _ => trivial
  | .bool _, _, _ => trivial
  | .int _, _, _ => trivial
  | .float _, _, _ => trivial
  | .text _, _, _ => trivial
  | .datetime _, _, _ => trivial
  | .bytes _, _, _ => trivial
  | .mapping items, h, hordered =>
      exact ⟨pairwise_itemValues hordered.1, ItemsReadable.canonical items h hordered.2⟩
  | .tuple items, h, hordered => exact ListReadable.canonical items h hordered

theorem ItemsReadable.canonical {aware : AwareTime} (items : List (String × EventPayload))
    (h : ItemsReadable aware items) (hordered : ItemsOrdered items) :
    CanonicalItems (itemValues items) := by
  match items, h, hordered with
  | [], _, _ => trivial
  | (_, item) :: items, h, hordered =>
    exact ⟨EventPayload.Readable.canonical item h.1 hordered.1,
      ItemsReadable.canonical items h.2 hordered.2⟩

theorem ListReadable.canonical {aware : AwareTime} (items : List EventPayload)
    (h : ListReadable aware items) (hordered : ListOrdered items) :
    CanonicalList (listValues items) := by
  match items, h, hordered with
  | [], _, _ => trivial
  | item :: items, h, hordered =>
    exact ⟨EventPayload.Readable.canonical item h.1 hordered.1,
      ListReadable.canonical items h.2 hordered.2⟩

end

mutual

theorem EventPayload.Readable.legible {aware : AwareTime} (payload : EventPayload)
    (h : payload.Readable aware) : payload.value.Legible aware := by
  match payload, h with
  | .null, _ => trivial
  | .bool _, _ => trivial
  | .int _, _ => trivial
  | .float _, _ => trivial
  | .text _, _ => trivial
  | .datetime _, h => exact h
  | .bytes _, _ => trivial
  | .mapping items, h => exact ItemsReadable.legible items h
  | .tuple items, h => exact ListReadable.legible items h

theorem ItemsReadable.legible {aware : AwareTime} (items : List (String × EventPayload))
    (h : ItemsReadable aware items) : LegibleItems aware (itemValues items) := by
  match items, h with
  | [], _ => trivial
  | (_, item) :: items, h =>
      exact ⟨EventPayload.Readable.legible item h.1, ItemsReadable.legible items h.2⟩

theorem ListReadable.legible {aware : AwareTime} (items : List EventPayload)
    (h : ListReadable aware items) : LegibleList aware (listValues items) := by
  match items, h with
  | [], _ => trivial
  | item :: items, h =>
      exact ⟨EventPayload.Readable.legible item h.1, ListReadable.legible items h.2⟩

end

mutual

theorem EventPayload.Readable.freeze_object {aware : AwareTime} (payload : EventPayload)
    (h : payload.Readable aware) (hordered : payload.Ordered) :
    freeze payload.value.object = .ok payload := by
  match payload, h, hordered with
  | .null, _, _ => rfl
  | .bool _, _, _ => rfl
  | .int _, _, _ => rfl
  | .float _, _, _ => rfl
  | .text _, _, _ => rfl
  | .datetime _, _, _ => rfl
  | .bytes _, _, _ => rfl
  | .mapping items, h, hordered =>
    have hitems := ItemsReadable.freeze_objects items h hordered.2
    have hfrozen := frozenItems_of_pairwise hordered.1
    simp only [EventPayload.value, Value.object, freeze, hitems]
    exact congrArg (fun items => Except.ok (EventPayload.mapping items)) hfrozen
  | .tuple items, h, hordered =>
    simp only [EventPayload.value, Value.object, freeze,
      ListReadable.freeze_objects items h hordered]
    rfl

theorem ItemsReadable.freeze_objects {aware : AwareTime} (items : List (String × EventPayload))
    (h : ItemsReadable aware items) (hordered : ItemsOrdered items) :
    freezeItems (itemObjects (itemValues items)) = .ok items := by
  match items, h, hordered with
  | [], _, _ => rfl
  | (_, item) :: items, h, hordered =>
    simp only [itemValues, itemObjects, freezeItems,
      EventPayload.Readable.freeze_object item h.1 hordered.1,
      ItemsReadable.freeze_objects items h.2 hordered.2]
    rfl

theorem ListReadable.freeze_objects {aware : AwareTime} (items : List EventPayload)
    (h : ListReadable aware items) (hordered : ListOrdered items) :
    freezeList (listObjects (listValues items)) = .ok items := by
  match items, h, hordered with
  | [], _, _ => rfl
  | item :: items, h, hordered =>
    simp only [listValues, listObjects, freezeList,
      EventPayload.Readable.freeze_object item h.1 hordered.1,
      ListReadable.freeze_objects items h.2 hordered.2]
    rfl

end

/-! ## What comes back is readable -/

mutual

theorem readable_of_freeze {aware : AwareTime} (value : Value) (payload : EventPayload)
    (hlegible : value.Legible aware) (h : freeze value.object = .ok payload) :
    payload.Readable aware := by
  match value, hlegible, h with
  | .null, _, h => cases h; trivial
  | .bool _, _, h => cases h; trivial
  | .int _, _, h => cases h; trivial
  | .float _, _, h => cases h; trivial
  | .text _, _, h => cases h; trivial
  | .datetime _, hlegible, h => cases h; exact hlegible
  | .bytes _, _, h => cases h; trivial
  | .mapping items, hlegible, h =>
    obtain ⟨frozen, hfrozen, rfl⟩ := freeze_mapping_ok h
    have hitems := itemsReadable_iff.mp (readable_of_freezeItems items frozen hlegible hfrozen)
    exact itemsReadable_iff.mpr fun item hitem => hitems item (mem_frozenItems hitem)
  | .sequence items, hlegible, h =>
    obtain ⟨frozen, hfrozen, rfl⟩ := map_ok h
    exact readable_of_freezeList items frozen hlegible hfrozen
  | .set _, _, h => cases h

theorem readable_of_freezeItems {aware : AwareTime} (items : List (String × Value))
    (frozen : List (String × EventPayload)) (hlegible : LegibleItems aware items)
    (h : freezeItems (itemObjects items) = .ok frozen) : ItemsReadable aware frozen := by
  match items, hlegible, h with
  | [], _, h => cases h; trivial
  | (key, item) :: items, hlegible, h =>
    simp only [itemObjects, freezeItems, Checks.bind_ok_iff] at h
    obtain ⟨first, hfirst, rest, hrest, heq⟩ := h
    cases heq
    exact ⟨readable_of_freeze item first hlegible.1 hfirst,
      readable_of_freezeItems items rest hlegible.2 hrest⟩

theorem readable_of_freezeList {aware : AwareTime} (items : List Value)
    (frozen : List EventPayload) (hlegible : LegibleList aware items)
    (h : freezeList (listObjects items) = .ok frozen) : ListReadable aware frozen := by
  match items, hlegible, h with
  | [], _, h => cases h; trivial
  | item :: items, hlegible, h =>
    simp only [listObjects, freezeList, Checks.bind_ok_iff] at h
    obtain ⟨first, hfirst, rest, hrest, heq⟩ := h
    cases heq
    exact ⟨readable_of_freeze item first hlegible.1 hfirst,
      readable_of_freezeList items rest hlegible.2 hrest⟩

end

/-! ## The round trip -/

/-- The constructor takes mappings only. -/
theorem frozenPayload_ok {object : Object} {payload : EventPayload}
    (h : frozenPayload object = .ok payload) : freeze object = .ok payload := by
  cases object with
  | mapping items => exact h
  | _ => cases h

theorem exists_mapping_of_frozenPayload {object : Object} {payload : EventPayload}
    (h : frozenPayload object = .ok payload) : ∃ items, payload = .mapping items := by
  cases object with
  | mapping items =>
    obtain ⟨frozen, -, rfl⟩ := freeze_mapping_ok (frozenPayload_ok h)
    exact ⟨_, rfl⟩
  | _ => cases h

theorem EventPayload.Readable.decoded {aware : AwareTime} {object : Object}
    {payload : EventPayload} (h : payload.Readable aware)
    (hfrozen : frozenPayload object = .ok payload) :
    Persistence.decoded aware (encodeValue payload.value) = .ok payload.value ∧
      frozenPayload payload.value.object = .ok payload := by
  have hordered := ordered_of_freeze object payload (frozenPayload_ok hfrozen)
  have hdecoded : decodeValue aware (encodeValue payload.value) = .ok payload.value :=
    decodeValue_encodeValue aware payload.value (h.canonical payload hordered)
      (h.legible payload)
  have hobject : freeze payload.value.object = .ok payload := h.freeze_object payload hordered
  obtain ⟨items, rfl⟩ := exists_mapping_of_frozenPayload hfrozen
  refine ⟨?_, hobject⟩
  rw [Persistence.decoded, hdecoded]
  rfl

theorem readable_of_decoded {aware : AwareTime} {stored : Json} {value : Value}
    {payload : EventPayload} (hdecoded : decoded aware stored = .ok value)
    (hfrozen : frozenPayload value.object = .ok payload) : payload.Readable aware := by
  unfold decoded at hdecoded
  split at hdecoded
  · cases hdecoded
  · rename_i found hfound
    cases hdecoded
    exact readable_of_freeze value payload (legible_of_decodeValue aware _ value hfound)
      (frozenPayload_ok hfrozen)

theorem EventPayload.Restorable.restored {aware : AwareTime} {object : Object}
    {payload : EventPayload} (h : payload.Restorable aware)
    (hfrozen : frozenPayload object = .ok payload) :
    Persistence.restored aware payload = .ok payload := by
  obtain ⟨hwritable, hreadable⟩ := h
  obtain ⟨hdecoded, hobject⟩ := hreadable.decoded hfrozen
  simp only [Persistence.restored, hwritable, hdecoded]
  exact hobject

theorem restorable_of_restored {aware : AwareTime} {payload : EventPayload}
    (h : restored aware payload = .ok payload) : payload.Restorable aware := by
  unfold restored at h
  split at h
  · cases h
  · rename_i hwritable
    obtain ⟨value, hdecoded, hfrozen⟩ := Checks.bind_ok_iff.mp h
    exact ⟨by simpa using hwritable, readable_of_decoded hdecoded hfrozen⟩

/-- A payload with a number, a time and a list of texts. -/
def sampleObject : Object :=
  .mapping [("tags", .list [.text "a", .text "b"]), ("at", .datetime "2026-01-01T00:00:00+00:00"),
    ("count", .int 3)]

def samplePayload : EventPayload :=
  .mapping [("at", .datetime "2026-01-01T00:00:00+00:00"), ("count", .int 3),
    ("tags", .tuple [.text "a", .text "b"])]

/-- A payload with a set of one text. -/
def taggedObject : Object :=
  .mapping [("tags", .set [.text "a"])]

theorem taggedObject_refused : ∃ payload, frozenPayload taggedObject = .ok payload ∧
    restored (fun _ => true) payload = .error unfreezable :=
  ⟨.mapping [("tags", .frozenset [.text "a"])], rfl, rfl⟩

end Persistence
end Ascos
