/-
# SomeServer.Discovery.Snapshots — a snapshot of the members as a text

The backend of discovery hands over a range of etcd as a JSON text that it writes itself, with the keys and the
values in Base64; `EtcdDiscovery` reads it, and each value as a descriptor. Here is the way of the descriptors from
`RegisterSelf` into etcd and from there into the table of a process that reads them.

JSON is read, and descriptors are written, by a library: it is taken to read a text that JSON says is such an answer
as that answer (`Glaze.Lawful`), and a descriptor that it has written as that descriptor.
-/
import SomeServer.Lib.JsonText
import SomeServer.Discovery.Base64
import SomeServer.Discovery.Events
import SomeServer.Discovery.Ranges
import SomeServer.Lib.Decimal
import SomeServer.Lib.OrderedMap
import Mathlib.Data.Set.List
import Mathlib.Data.List.Forall2

namespace SomeServer

open Lib Lib.JsonText

/-! ## The text -/

/-- A digit of `std::hex << std::uppercase`. -/
def hexDigit (n : Nat) : UInt8 := if n < 10 then UInt8.ofNat (0x30 + n) else UInt8.ofNat (0x37 + n)

/-- What `JsonEscape` writes for one character. -/
def jsonEscapeChar (ch : UInt8) : Bytes :=
  if ch = 0x5C then [0x5C, 0x5C]
  else if ch = 0x22 then [0x5C, 0x22]
  else if ch = 0x08 then [0x5C, 0x62]
  else if ch = 0x0C then [0x5C, 0x66]
  else if ch = 0x0A then [0x5C, 0x6E]
  else if ch = 0x0D then [0x5C, 0x72]
  else if ch = 0x09 then [0x5C, 0x74]
  -- `\u` and four digits
  else if ch < 0x20 then [0x5C, 0x75, 0x30, 0x30, hexDigit (ch.toNat / 16), hexDigit (ch.toNat % 16)]
  else [ch]

/-- `JsonEscape`. -/
def jsonEscape (value : Bytes) : Bytes := value.flatMap jsonEscapeChar

/-- A key and its value in etcd. -/
structure KeyValue where
  key : Bytes
  value : Bytes
deriving DecidableEq, Repr

/-- The loop of `GetPrefix` over what the response has, from `index` on. -/
def appendKvs : Nat → List KeyValue → Bytes
  | _, [] => []
  | index, kv :: kvs =>
      (if index > 0 then [0x2C] else []) ++
      (bytesOf "\x7b\"key\":\"" ++ jsonEscape (base64Encode kv.key) ++ bytesOf "\",\"value\":\"" ++
        jsonEscape (base64Encode kv.value) ++ bytesOf "\"\x7d") ++
      appendKvs (index + 1) kvs

/-- The output of `GetPrefix`. -/
def snapshotText (kvs : List KeyValue) : Bytes := bytesOf "\x7b\"kvs\":[" ++ appendKvs 0 kvs ++ bytesOf "]\x7d"

/-! ### What it says -/

/-- One entry of the array. -/
def KeyValue.json (kv : KeyValue) : Value :=
  .object [(bytesOf "key", .string (base64Encode kv.key)), (bytesOf "value", .string (base64Encode kv.value))]

section Texts

variable {frames : List Frame} {items : List Value} {place : Place}

theorem hexValue_hexDigit : ∀ n < 16, hexValue (hexDigit n) = some n := by decide

theorem ofCodeUnit_control : ∀ n < 32, ofCodeUnit n = some [UInt8.ofNat n] := by decide

/-- A control character, as its code unit. -/
theorem run_codeUnit {ch : UInt8} (h : ch < 0x20) (text : Bytes) :
    scanner.run (.string text) [0x5C, 0x75, 0x30, 0x30, hexDigit (ch.toNat / 16), hexDigit (ch.toNat % 16)] =
      some ([], .string (text ++ [ch])) := by
  have hlt : ch.toNat < 32 := UInt8.lt_iff_toNat_lt.mp h
  have hfront : scanner.run (.string text) [0x5C, 0x75, 0x30, 0x30] = some ([], .codeUnit text 2 0) := rfl
  have hupper : scanner.step (.codeUnit text 2 0) (hexDigit (ch.toNat / 16)) =
      some ([], .codeUnit text 3 (ch.toNat / 16)) := by
    show (hexValue _).bind _ = _
    rw [hexValue_hexDigit _ (by omega), Option.bind_some, if_pos (by decide), Nat.zero_mul, Nat.zero_add]
  have hlower : scanner.step (.codeUnit text 3 (ch.toNat / 16)) (hexDigit (ch.toNat % 16)) =
      some ([], .string (text ++ [ch])) := by
    show (hexValue _).bind _ = _
    rw [hexValue_hexDigit _ (by omega), Option.bind_some, if_neg (by decide),
      show ch.toNat / 16 * 16 + ch.toNat % 16 = ch.toNat by omega, ofCodeUnit_control _ hlt, UInt8.ofNat_toNat]
    rfl
  exact Scanner.run_append_eq hfront (Scanner.run_append_eq (Scanner.run_singleton hupper) (Scanner.run_singleton hlower))

/-- A character is read back from what is written for it. -/
theorem run_jsonEscapeChar (ch : UInt8) (text : Bytes) :
    scanner.run (.string text) (jsonEscapeChar ch) = some ([], .string (text ++ [ch])) := by
  unfold jsonEscapeChar
  split
  · next h => rw [h]; rfl
  split
  · next h => rw [h]; rfl
  split
  · next h => rw [h]; rfl
  split
  · next h => rw [h]; rfl
  split
  · next h => rw [h]; rfl
  split
  · next h => rw [h]; rfl
  split
  · next h => rw [h]; rfl
  split
  · next h => exact run_codeUnit h text
  · next hbackslash hquote _ _ _ _ _ hcontrol =>
    have hquotation : ch ≠ quotation := hquote
    have hescape : ch ≠ backslash := hbackslash
    apply Scanner.run_singleton
    show Mode.step (.string text) ch = _
    rw [Mode.step, if_neg hquotation, if_neg hescape, if_neg hcontrol]

/-- A text is read back from what is written for it, whatever its bytes are. -/
theorem run_jsonEscape (value : Bytes) : scanner.run (.string []) (jsonEscape value) = some ([], .string value) := by
  rw [jsonEscape, List.flatMap_def]
  refine Scanner.run_pieces ?_ []
  rw [List.forall₂_map_right_iff, List.forall₂_same]
  exact fun ch _ text => run_jsonEscapeChar ch text

/-- An entry is read where a value may come. -/
theorem reads_entry (hplace : place = .item ∨ place = .value) (kv : KeyValue) :
    scanner.Reads next (.plain, .array items :: frames, place)
      (bytesOf "\x7b\"key\":\"" ++ jsonEscape (base64Encode kv.key) ++ bytesOf "\",\"value\":\"" ++
        jsonEscape (base64Encode kv.value) ++ bytesOf "\"\x7d")
      (.plain, .array (items ++ [kv.json]) :: frames, .after) := by
  have hopen : scanner.Reads next (.plain, .array items :: frames, place) (bytesOf "\x7b\"key\":\"")
      (.string [], .object [] (bytesOf "key") :: .array items :: frames, .value) := by
    rcases hplace with rfl | rfl
    · exact ⟨_, rfl, rfl⟩
    · exact ⟨_, rfl, rfl⟩
  have hbetween : scanner.Reads next
      (.string (base64Encode kv.key), .object [] (bytesOf "key") :: .array items :: frames, .value)
      (bytesOf "\",\"value\":\"")
      (.string [], .object [(bytesOf "key", .string (base64Encode kv.key))] (bytesOf "value") :: .array items :: frames,
        .value) := ⟨_, rfl, rfl⟩
  have hclose : scanner.Reads next
      (.string (base64Encode kv.value),
        .object [(bytesOf "key", .string (base64Encode kv.key))] (bytesOf "value") :: .array items :: frames, .value)
      (bytesOf "\"\x7d") (.plain, .array (items ++ [kv.json]) :: frames, .after) := ⟨_, rfl, rfl⟩
  exact (((hopen.append (.of_run (run_jsonEscape _))).append hbetween).append (.of_run (run_jsonEscape _))).append hclose

/-- The entries from the second on. -/
theorem reads_appendKvs (kvs : List KeyValue) (index : Nat) :
    scanner.Reads next (.plain, .array items :: frames, .after) (appendKvs (index + 1) kvs)
      (.plain, .array (items ++ kvs.map KeyValue.json) :: frames, .after) := by
  induction kvs generalizing items index with
  | nil =>
      rw [List.map_nil, List.append_nil]
      exact ⟨[], rfl, rfl⟩
  | cons kv kvs ih =>
      have hcomma : scanner.Reads next (.plain, .array items :: frames, .after) [0x2C]
          (.plain, .array items :: frames, .value) := ⟨_, rfl, rfl⟩
      have hrest : scanner.Reads next (.plain, .array (items ++ [kv.json]) :: frames, .after)
          (appendKvs (index + 2) kvs)
          (.plain, .array (items ++ [kv.json] ++ kvs.map KeyValue.json) :: frames, .after) := ih (index + 1)
      rw [List.append_assoc] at hrest
      exact (hcomma.append (reads_entry (.inr rfl) kv)).append hrest

/-- The text of a snapshot is JSON, and says which keys and values there are. -/
theorem read_snapshotText (kvs : List KeyValue) :
    read (snapshotText kvs) = some (.object [(bytesOf "kvs", .array (kvs.map KeyValue.json))]) := by
  apply read_eq
  have hopen : scanner.Reads next (.plain, [], .value) (bytesOf "\x7b\"kvs\":[")
      (.plain, [.array [], .object [] (bytesOf "kvs")], .item) := ⟨_, rfl, rfl⟩
  cases kvs with
  | nil =>
      have hclose : scanner.Reads next (.plain, [.array [], .object [] (bytesOf "kvs")], .item) (bytesOf "]\x7d")
          (.plain, [], .done (.object [(bytesOf "kvs", .array [])])) := ⟨_, rfl, rfl⟩
      rw [snapshotText, appendKvs, List.append_nil]
      exact hopen.append hclose
  | cons kv kvs =>
      have hclose : scanner.Reads next
          (.plain, [.array ([kv.json] ++ kvs.map KeyValue.json), .object [] (bytesOf "kvs")], .after) (bytesOf "]\x7d")
          (.plain, [], .done (.object [(bytesOf "kvs", .array ((kv :: kvs).map KeyValue.json))])) := ⟨_, rfl, rfl⟩
      exact (hopen.append ((reads_entry (.inl rfl) kv).append (reads_appendKvs kvs 0))).append hclose

end Texts

/-! ## Descriptors -/

namespace Members

/-- `SerializableProcessDescriptor`. -/
structure SerializableProcessDescriptor where
  serviceType : ServiceType := 0
  instanceId : UInt32 := 0
  incarnationId : UInt64 := 0
  serviceName : String := ""
  host : String := ""
  port : UInt16 := 0
  protocolVersion : UInt32 := 0
  startTimeUnixMs : UInt64 := 0
  relayCapabilities : List ServiceType := []
  labels : StringMap := []
deriving DecidableEq, Repr

def serializable (process : Descriptor) : SerializableProcessDescriptor where
  serviceType := process.process.processId.serviceType
  instanceId := process.process.processId.instanceId
  incarnationId := process.process.incarnationId
  serviceName := process.serviceName
  host := process.listenEndpoint.host
  port := process.listenEndpoint.port
  protocolVersion := process.protocolVersion
  startTimeUnixMs := process.startTimeUnixMs
  relayCapabilities := process.relayCapabilities
  labels := process.labels

def SerializableProcessDescriptor.descriptor (serializable : SerializableProcessDescriptor) : Descriptor where
  process := ⟨⟨serializable.serviceType, serializable.instanceId⟩, serializable.incarnationId⟩
  labels := serializable.labels
  serviceName := serializable.serviceName
  listenEndpoint := ⟨serializable.host, serializable.port⟩
  protocolVersion := serializable.protocolVersion
  startTimeUnixMs := serializable.startTimeUnixMs
  relayCapabilities := serializable.relayCapabilities

/-- What the JSON library reads and writes: an error is a text, and a `JsonGetResponse` is its keys and values. -/
structure Glaze where
  readGetResponse : Bytes → Except String (List (Bytes × Bytes))
  writeDescriptor : SerializableProcessDescriptor → Bytes
  readDescriptor : Bytes → Except String SerializableProcessDescriptor

/-- The library reads what JSON says that a text is, and the descriptors that it has written itself. -/
structure Glaze.Lawful (glaze : Glaze) (valid : SerializableProcessDescriptor → Prop) : Prop where
  response : ∀ text kvs,
    read text = some (.object [(bytesOf "kvs", .array (kvs.map fun kv =>
      .object [(bytesOf "key", .string kv.1), (bytesOf "value", .string kv.2)]))]) →
    glaze.readGetResponse text = .ok kvs
  descriptor : ∀ serializable, valid serializable →
    glaze.readDescriptor (glaze.writeDescriptor serializable) = .ok serializable

/-- `SerializeDescriptor`. -/
def serializeDescriptor (glaze : Glaze) (process : Descriptor) : Bytes := glaze.writeDescriptor (serializable process)

/-- `DeserializeDescriptor`. -/
def deserializeDescriptor (glaze : Glaze) (json : Bytes) : Except String Descriptor :=
  (glaze.readDescriptor json).map SerializableProcessDescriptor.descriptor

/-- `ParseSnapshot`. -/
def parseSnapshot (glaze : Glaze) (output : Bytes) : Except String MemberTable := do
  let kvs ← glaze.readGetResponse output
  kvs.foldlM (fun refreshed kv => do
    let descriptor ← deserializeDescriptor glaze (base64Decode kv.2)
    return refreshed.set descriptor) .empty

/-! ## The store -/

/-- etcd, as far as keys and values go. -/
abbrev EtcdEntries : Type := OrderedMap Bytes Bytes

namespace EtcdEntries

def put (entries : EtcdEntries) (key value : Bytes) : EtcdEntries :=
  ⟨Ordered.assign key value entries.entries, entries.increasing.assign⟩

def delete (entries : EtcdEntries) (key : Bytes) : EtcdEntries :=
  ⟨Ordered.erase key entries.entries, entries.increasing.erase⟩

/-- What a request for a range is answered with. -/
def range (entries : EtcdEntries) (start rangeEnd : Bytes) : List KeyValue :=
  (entries.entries.filter fun e => inRange start rangeEnd e.1).map fun e => ⟨e.1, e.2⟩

end EtcdEntries

/-- The prefix of the members. -/
def membersPrefix (options : EtcdDiscoveryOptions) : Bytes := bytesOf (options.keyPrefix ++ "/members/")

/-- `GetPrefix` for the members. -/
def getMembers (options : EtcdDiscoveryOptions) (entries : EtcdEntries) : Bytes :=
  snapshotText (entries.range (membersPrefix options) (prefixRangeEnd (membersPrefix options)))

/-- What befalls etcd: the put of a `RegisterSelf`, the delete of a `Remove` or the end of a lease, and what others
do, which use other keys. -/
inductive EtcdChange where
  | register (self : Descriptor)
  | remove (id : ProcessId)
  | otherPut (key value : Bytes)
  | otherDelete (key : Bytes)

namespace EtcdChange

def apply (glaze : Glaze) (options : EtcdDiscoveryOptions) (entries : EtcdEntries) : EtcdChange → EtcdEntries
  | register self =>
      entries.put (bytesOf (options.memberKey self.process.processId)) (serializeDescriptor glaze self)
  | remove id => entries.delete (bytesOf (options.memberKey id))
  | otherPut key value => entries.put key value
  | otherDelete key => entries.delete key

/-- What is registered can be written, and the keys of others do not begin with the prefix. -/
def Allowed (valid : SerializableProcessDescriptor → Prop) (options : EtcdDiscoveryOptions) : EtcdChange → Prop
  | register self => valid (serializable self)
  | remove _ => True
  | otherPut key _ | otherDelete key => ¬ membersPrefix options <+: key

/-- Who is a member, and as what. -/
def members (before : ProcessId → Option Descriptor) : EtcdChange → ProcessId → Option Descriptor
  | register self => Function.update before self.process.processId (some self)
  | remove id => Function.update before id none
  | otherPut _ _ | otherDelete _ => before

end EtcdChange

/-! ### Keys -/

section Keys

variable {options : EtcdDiscoveryOptions} {id id' : ProcessId}

theorem bytesOf_injective {a b : String} (h : bytesOf a = bytesOf b) : a = b := by
  apply String.toByteArray_inj.mp
  apply ByteArray.ext
  exact Array.toList_inj.mp h

theorem memberKey_injective (h : options.memberKey id = options.memberKey id') : id = id' := by
  simp only [EtcdDiscoveryOptions.memberKey, String.append_assoc, String.append_right_inj] at h
  have hlist := congrArg String.toList h
  simp only [String.toList_append] at hlist
  obtain ⟨hservice, hinstance⟩ := Decimal.repr_append_cons_inj (c := '/') rfl hlist
  have hid : id.instanceId = id'.instanceId :=
    UInt32.toNat_inj.mp (Decimal.repr_injective (String.toList_injective hinstance))
  cases id
  cases id'
  cases UInt32.toNat_inj.mp hservice
  cases hid
  rfl

theorem membersPrefix_prefix : membersPrefix options <+: bytesOf (options.memberKey id) := by
  rw [EtcdDiscoveryOptions.memberKey, String.append_assoc, String.append_assoc, bytesOf_append]
  exact List.prefix_append _ _

end Keys

/-! ### What is filed -/

section Filed

variable {glaze : Glaze} {valid : SerializableProcessDescriptor → Prop} {options : EtcdDiscoveryOptions}
  {entries : EtcdEntries} {members : ProcessId → Option Descriptor}

/-- The entries with the prefix are those of the members, each under the key of its process. -/
structure Filed (glaze : Glaze) (valid : SerializableProcessDescriptor → Prop) (options : EtcdDiscoveryOptions)
    (entries : EtcdEntries) (members : ProcessId → Option Descriptor) : Prop where
  find : ∀ id, entries.find? (bytesOf (options.memberKey id)) = (members id).map (serializeDescriptor glaze)
  known : ∀ key, membersPrefix options <+: key → (entries.find? key).isSome = true →
    ∃ id, key = bytesOf (options.memberKey id)
  own : ∀ id process, members id = some process → process.process.processId = id ∧ valid (serializable process)

theorem Filed.initial : Filed glaze valid options {} fun _ => none where
  find _ := rfl
  known _ _ h := by cases h
  own _ _ h := by cases h

theorem EtcdEntries.find?_put_self {key value : Bytes} : (entries.put key value).find? key = some value :=
  Ordered.lookup_assign_self

theorem EtcdEntries.find?_put_of_ne {key key' value : Bytes} (h : key' ≠ key) :
    (entries.put key value).find? key' = entries.find? key' := Ordered.lookup_assign_of_ne h

theorem EtcdEntries.find?_delete_self {key : Bytes} : (entries.delete key).find? key = none :=
  Ordered.lookup_erase_self

theorem EtcdEntries.find?_delete_of_ne {key key' : Bytes} (h : key' ≠ key) :
    (entries.delete key).find? key' = entries.find? key' := Ordered.lookup_erase_of_ne h

theorem memberKey_ne {id id' : ProcessId} (h : id' ≠ id) :
    bytesOf (options.memberKey id') ≠ bytesOf (options.memberKey id) := fun hkey =>
  h (memberKey_injective (bytesOf_injective hkey))

/-- A key without the prefix is no member's. -/
theorem memberKey_ne_of_apart {key : Bytes} (h : ¬ membersPrefix options <+: key) (id : ProcessId) :
    bytesOf (options.memberKey id) ≠ key := by
  rintro rfl
  exact h membersPrefix_prefix

/-- The entry of one member changes. -/
theorem Filed.changed {entries' : EtcdEntries} (hfiled : Filed glaze valid options entries members) {id : ProcessId}
    {process : Option Descriptor}
    (hown : ∀ self, process = some self → self.process.processId = id ∧ valid (serializable self))
    (hself : entries'.find? (bytesOf (options.memberKey id)) = process.map (serializeDescriptor glaze))
    (hsame : ∀ key, key ≠ bytesOf (options.memberKey id) → entries'.find? key = entries.find? key) :
    Filed glaze valid options entries' (Function.update members id process) := by
  refine ⟨fun id' => ?_, fun key hkey hfound => ?_, fun id' process' h => ?_⟩
  · by_cases hid : id' = id
    · subst hid
      rw [Function.update_self, hself]
    · rw [Function.update_of_ne hid, hsame _ (memberKey_ne hid), hfiled.find]
  · by_cases hid : key = bytesOf (options.memberKey id)
    · exact ⟨id, hid⟩
    · exact hfiled.known key hkey (by rwa [← hsame key hid])
  · by_cases hid : id' = id
    · subst hid
      rw [Function.update_self] at h
      exact hown process' h
    · rw [Function.update_of_ne hid] at h
      exact hfiled.own id' process' h

/-- Another entry changes. -/
theorem Filed.apart {entries' : EtcdEntries} (hfiled : Filed glaze valid options entries members) {key : Bytes}
    (hkey : ¬ membersPrefix options <+: key) (hsame : ∀ key', key' ≠ key → entries'.find? key' = entries.find? key') :
    Filed glaze valid options entries' members where
  find id := (hsame _ (memberKey_ne_of_apart hkey id)).trans (hfiled.find id)
  known key' hkey' hfound := by
    have hne : key' ≠ key := fun h => hkey (h ▸ hkey')
    exact hfiled.known key' hkey' (by rwa [← hsame key' hne])
  own := hfiled.own

theorem Filed.apply (hfiled : Filed glaze valid options entries members) {change : EtcdChange}
    (hchange : change.Allowed valid options) :
    Filed glaze valid options (change.apply glaze options entries) (change.members members) := by
  cases change with
  | register self =>
      refine hfiled.changed (fun self' h => ?_) EtcdEntries.find?_put_self fun key => EtcdEntries.find?_put_of_ne
      cases h
      exact ⟨rfl, hchange⟩
  | remove id =>
      refine hfiled.changed (fun self h => ?_) EtcdEntries.find?_delete_self fun key => EtcdEntries.find?_delete_of_ne
      cases h
  | otherPut key value => exact hfiled.apart hchange fun key' => EtcdEntries.find?_put_of_ne
  | otherDelete key => exact hfiled.apart hchange fun key' => EtcdEntries.find?_delete_of_ne

/-- Whatever has befallen etcd, in this order. -/
def EtcdEntries.after (glaze : Glaze) (options : EtcdDiscoveryOptions) (changes : List EtcdChange) : EtcdEntries :=
  changes.foldl (EtcdChange.apply glaze options) {}

/-- Who is a member after it. -/
def membersAfter (changes : List EtcdChange) : ProcessId → Option Descriptor :=
  changes.foldl EtcdChange.members fun _ => none

theorem filed_after {changes : List EtcdChange} (hchanges : ∀ change ∈ changes, change.Allowed valid options) :
    Filed glaze valid options (.after glaze options changes) (membersAfter changes) := by
  suffices h : ∀ entries members, Filed glaze valid options entries members →
      Filed glaze valid options (changes.foldl (EtcdChange.apply glaze options) entries)
        (changes.foldl EtcdChange.members members) from h _ _ Filed.initial
  induction changes with
  | nil => exact fun _ _ h => h
  | cons change changes ih =>
      intro entries members h
      exact ih (fun change' hmem => hchanges change' (List.mem_cons_of_mem change hmem)) _ _
        (h.apply (hchanges change List.mem_cons_self))

/-! ### What is read -/

theorem membersPrefix_ne_nil : membersPrefix options ≠ [] := by
  have hslash : bytesOf "/members/" <:+ membersPrefix options := by
    rw [membersPrefix, bytesOf_append]
    exact List.suffix_append _ _
  intro h
  rw [h] at hslash
  exact absurd (List.suffix_nil.mp hslash) (by decide)

theorem mem_range {kv : KeyValue} :
    kv ∈ entries.range (membersPrefix options) (prefixRangeEnd (membersPrefix options)) ↔
      entries.find? kv.key = some kv.value ∧ membersPrefix options <+: kv.key := by
  rw [OrderedMap.find?_eq_some, ← inRange_prefixRangeEnd membersPrefix_ne_nil]
  simp only [EtcdEntries.range, List.mem_map, List.mem_filter, decide_eq_true_eq]
  constructor
  · rintro ⟨e, ⟨hmem, hrange⟩, rfl⟩
    exact ⟨hmem, hrange⟩
  · rintro ⟨hmem, hrange⟩
    exact ⟨(kv.key, kv.value), ⟨hmem, hrange⟩, rfl⟩

/-- A snapshot has the records of the members, and no others. -/
theorem Filed.mem_range_iff (hfiled : Filed glaze valid options entries members) {kv : KeyValue} :
    kv ∈ entries.range (membersPrefix options) (prefixRangeEnd (membersPrefix options)) ↔
      ∃ id process, members id = some process ∧
        kv = ⟨bytesOf (options.memberKey id), serializeDescriptor glaze process⟩ := by
  rw [mem_range]
  constructor
  · rintro ⟨hfound, hprefix⟩
    obtain ⟨id, hkey⟩ := hfiled.known kv.key hprefix (by rw [hfound]; rfl)
    rw [hkey, hfiled.find, Option.map_eq_some_iff] at hfound
    obtain ⟨process, hprocess, hvalue⟩ := hfound
    refine ⟨id, process, hprocess, ?_⟩
    rw [← hkey, hvalue]
  · rintro ⟨id, process, hprocess, rfl⟩
    exact ⟨by rw [hfiled.find, hprocess, Option.map_some], membersPrefix_prefix⟩

theorem deserialize_serialize (hglaze : glaze.Lawful valid) {process : Descriptor}
    (hprocess : valid (serializable process)) :
    deserializeDescriptor glaze (base64Decode (base64Encode (serializeDescriptor glaze process))) = .ok process := by
  rw [base64Decode, decodeLoop_base64Encode, deserializeDescriptor, serializeDescriptor,
    hglaze.descriptor _ hprocess]
  rfl

end Filed

/-! ### The table -/

section Tables

variable {table : MemberTable} {process : Descriptor} {key : UInt64}

theorem MemberTable.find_set_self : (table.set process).find process.key = some process := by
  rw [MemberTable.find_eq_some]
  exact ⟨List.mem_append_right _ List.mem_cons_self, rfl⟩

/-- The last of the descriptors with a key is the one that the table has. -/
theorem MemberTable.find_foldl_set (processes : List Descriptor) :
    (processes.foldl MemberTable.set table).find key =
      (processes.reverse.find? fun process => process.key = key).or (table.find key) := by
  induction processes generalizing table with
  | nil => rfl
  | cons process processes ih =>
      rw [List.foldl_cons, ih, List.reverse_cons, List.find?_append, Option.or_assoc]
      congr 1
      by_cases hkey : process.key = key
      · subst hkey
        rw [MemberTable.find_set_self, List.find?_cons_of_pos (by simp), Option.some_or]
      · rw [MemberTable.find_set_of_ne (Ne.symm hkey), List.find?_cons_of_neg (by simpa using hkey), List.find?_nil,
          Option.none_or]

end Tables

/-! ### A snapshot -/

section Snapshots

variable {glaze : Glaze} {valid : SerializableProcessDescriptor → Prop} {options : EtcdDiscoveryOptions}
  {entries : EtcdEntries} {members : ProcessId → Option Descriptor}

/-- The record of a member. -/
def record (glaze : Glaze) (options : EtcdDiscoveryOptions) (process : Descriptor) : KeyValue :=
  ⟨bytesOf (options.memberKey process.process.processId), serializeDescriptor glaze process⟩

/-- What a snapshot has are the records of some list of the members. -/
theorem Filed.exists_records (hfiled : Filed glaze valid options entries members) : ∃ processes : List Descriptor,
    processes.map (record glaze options) =
      entries.range (membersPrefix options) (prefixRangeEnd (membersPrefix options)) ∧
    ∀ process, process ∈ processes ↔ members process.process.processId = some process := by
  have hmembers : ∀ kv ∈ entries.range (membersPrefix options) (prefixRangeEnd (membersPrefix options)),
      kv ∈ Set.range fun process : { process : Descriptor // members process.process.processId = some process } =>
        record glaze options process.1 := by
    intro kv hkv
    obtain ⟨id, process, hprocess, rfl⟩ := hfiled.mem_range_iff.mp hkv
    obtain ⟨rfl, -⟩ := hfiled.own id process hprocess
    exact ⟨⟨process, hprocess⟩, rfl⟩
  obtain ⟨processes, hprocesses⟩ := (Set.ext_iff.mp (Set.range_list_map _) _).mpr hmembers
  have hrecords : (processes.map Subtype.val).map (record glaze options) =
      entries.range (membersPrefix options) (prefixRangeEnd (membersPrefix options)) := by
    rw [List.map_map]
    exact hprocesses
  have hown : ∀ process ∈ processes.map Subtype.val, members process.process.processId = some process := by
    intro process hprocess
    obtain ⟨member, -, rfl⟩ := List.mem_map.mp hprocess
    exact member.2
  refine ⟨_, hrecords, fun process => ⟨hown process, fun hprocess => ?_⟩⟩
  have hrecord : record glaze options process ∈ (processes.map Subtype.val).map (record glaze options) := by
    rw [hrecords]
    exact hfiled.mem_range_iff.mpr ⟨_, process, hprocess, rfl⟩
  obtain ⟨process', hmem, hsame⟩ := List.mem_map.mp hrecord
  have hid := memberKey_injective (bytesOf_injective (congrArg KeyValue.key hsame))
  have hboth : some process' = some process := by rw [← hown process' hmem, hid, hprocess]
  exact Option.some.inj hboth ▸ hmem

/-- The text of a snapshot is read as the records. -/
theorem parseSnapshot_records (hglaze : glaze.Lawful valid) {processes : List Descriptor}
    (hprocesses : ∀ process ∈ processes, valid (serializable process)) :
    parseSnapshot glaze (snapshotText (processes.map (record glaze options))) =
      .ok (processes.foldl MemberTable.set .empty) := by
  have hread : glaze.readGetResponse (snapshotText (processes.map (record glaze options))) = .ok
      (processes.map fun process => (base64Encode (bytesOf (options.memberKey process.process.processId)),
        base64Encode (serializeDescriptor glaze process))) := by
    apply hglaze.response
    rw [read_snapshotText, List.map_map, List.map_map]
    rfl
  rw [parseSnapshot, hread]
  show List.foldlM _ MemberTable.empty _ = _
  clear hread
  generalize MemberTable.empty = table
  induction processes generalizing table with
  | nil => rfl
  | cons process processes ih =>
      rw [List.map_cons, List.foldlM_cons, deserialize_serialize hglaze (hprocesses process List.mem_cons_self)]
      exact ih (fun process' hmem => hprocesses process' (List.mem_cons_of_mem process hmem)) _

/-- Whatever has befallen etcd, in whatever order, the text that the backend makes of the range of the members is read,
and the table has each process that is registered, with the descriptor of its last registration, and no other. -/
theorem snapshot_exact (hglaze : glaze.Lawful valid) {changes : List EtcdChange}
    (hchanges : ∀ change ∈ changes, change.Allowed valid options) :
    ∃ table, parseSnapshot glaze (getMembers options (.after glaze options changes)) = .ok table ∧
      ∀ id, table.find (makeKey id) = membersAfter changes id := by
  have hfiled : Filed glaze valid options _ _ := filed_after hchanges
  obtain ⟨processes, hrecords, hmembers⟩ := hfiled.exists_records
  refine ⟨processes.foldl MemberTable.set .empty, ?_, fun id => ?_⟩
  · rw [getMembers, ← hrecords]
    exact parseSnapshot_records hglaze fun process hmem => (hfiled.own _ process ((hmembers process).mp hmem)).2
  · rw [MemberTable.find_foldl_set, show MemberTable.empty.find (makeKey id) = none from rfl, Option.or_none]
    cases hfound : processes.reverse.find? fun process => process.key = makeKey id with
    | some process =>
        have hkey : process.key = makeKey id := by simpa using List.find?_some hfound
        have hmem := List.mem_reverse.mp (List.mem_of_find?_eq_some hfound)
        rw [← makeKey_injective hkey]
        exact ((hmembers process).mp hmem).symm
    | none =>
        cases hmember : membersAfter changes id with
        | none => rfl
        | some process =>
            obtain ⟨rfl, -⟩ := hfiled.own id process hmember
            have habsent := List.find?_eq_none.mp hfound process (List.mem_reverse.mpr ((hmembers process).mpr hmember))
            simp [Descriptor.key] at habsent

end Snapshots

/-! ### A restart between two snapshots -/

/-- The key and the value of an entry of the array. -/
def entryOf : Value → Option (Bytes × Bytes)
  | .object [(_, .string key), (_, .string value)] => some (key, value)
  | _ => none

/-- A library that knows the texts of some descriptors. -/
def Glaze.knowing (texts : List (SerializableProcessDescriptor × Bytes)) : Glaze where
  readGetResponse text :=
    match read text with
    | some (.object [(_, .array items)]) => .ok (items.filterMap entryOf)
    | _ => .error "syntax_error"
  writeDescriptor serializable := (texts.lookup serializable).getD []
  readDescriptor json :=
    match texts.find? fun known => known.2 = json with
    | some known => .ok known.1
    | none => .error "syntax_error"

theorem filterMap_entryOf (kvs : List (Bytes × Bytes)) : (kvs.map fun kv =>
    Value.object [(bytesOf "key", .string kv.1), (bytesOf "value", .string kv.2)]).filterMap entryOf = kvs := by
  rw [List.filterMap_map]
  exact List.filterMap_some

/-- A game, and what is written for it. -/
def game (incarnationId : UInt64) : Descriptor where
  process := ⟨⟨10, 1⟩, incarnationId⟩
  labels := [("zone", "a\"b")]
  serviceName := "game"
  listenEndpoint := ⟨"127.0.0.1", 7001⟩
  protocolVersion := 1
  startTimeUnixMs := 5

def gameText (incarnationId : String) : Bytes :=
  bytesOf ("\x7b\"service_type\":10,\"instance_id\":1,\"incarnation_id\":" ++ incarnationId ++
    ",\"service_name\":\"game\",\"host\":\"127.0.0.1\",\"port\":7001,\"protocol_version\":1," ++
    "\"start_time_unix_ms\":5,\"relay_capabilities\":[],\"labels\":\x7b\"zone\":\"a\\\"b\"\x7d\x7d")

def twoGames : List (SerializableProcessDescriptor × Bytes) :=
  [(serializable (game 101), gameText "101"), (serializable (game 102), gameText "102")]

set_option maxRecDepth 2000 in
theorem lawful_twoGames : (Glaze.knowing twoGames).Lawful fun descriptor => descriptor ∈ twoGames.map Prod.fst where
  response text kvs h := by
    simp only [Glaze.knowing, h, filterMap_entryOf]
  descriptor serializable h := by
    simp only [twoGames, List.map_cons, List.map_nil, List.mem_cons, List.not_mem_nil, or_false] at h
    rcases h with rfl | rfl
    · rfl
    · rfl

/-- The game restarts; something else has been put, and a relay that never was has gone. -/
def restarts : List EtcdChange :=
  [.register (game 101), .otherPut (bytesOf "/else") [0x22], .remove ⟨99, 1⟩, .register (game 102)]

theorem snapshot_exact_after : ∃ table,
    parseSnapshot (.knowing twoGames) (getMembers {} (.after (.knowing twoGames) {} restarts)) = .ok table ∧
      table.find (makeKey ⟨10, 1⟩) = some (game 102) ∧ table.find (makeKey ⟨99, 1⟩) = none := by
  have hrestarts : ∀ change ∈ restarts,
      change.Allowed (fun descriptor => descriptor ∈ twoGames.map Prod.fst) {} := by
    simp only [restarts, List.forall_mem_cons]
    refine ⟨List.mem_cons_self, ?_, trivial, List.mem_cons_of_mem _ List.mem_cons_self, by simp⟩
    show ¬ membersPrefix {} <+: bytesOf "/else"
    decide
  obtain ⟨table, hparse, htable⟩ := snapshot_exact lawful_twoGames hrestarts
  exact ⟨table, hparse, (htable _).trans rfl, (htable _).trans rfl⟩

end Members

end SomeServer
