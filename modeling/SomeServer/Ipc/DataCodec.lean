/-
# SomeServer.Ipc.DataCodec — envelopes as protobuf messages

An envelope crosses the wire as the protobuf message `DataEnvelope`. The generated message classes are
given by their fields here, a field with presence as an option and a map by its entries in the order in
which it is walked. How protobuf makes bytes of a message is a parameter, of which the codec relies on no
more than that valid messages come back, a map perhaps in another order, and stay below the 2 GiB that
protobuf allows.
-/
import SomeServer.Ipc.Routing
import Mathlib.Data.List.AList
import Mathlib.Algebra.Group.Int.Defs
import Mathlib.Algebra.Group.Nat.Defs

namespace SomeServer

/-! ## The messages -/

structure ProtoProcessRef where
  serviceType : UInt32 := 0
  instanceId : UInt32 := 0
  incarnationId : UInt64 := 0
deriving DecidableEq

structure ProtoReceiverAddress where
  type : UInt32 := 0
  keyHi : UInt64 := 0
  keyLo : UInt64 := 0
deriving DecidableEq

/-- `map<string, string>`. -/
abbrev ProtoLabels := AList fun _ : String => String

structure ProtoBroadcastScope where
  serviceType : Option UInt32 := none
  requiredLabels : ProtoLabels := ∅
  includeLocal : Bool := false

/-- `DataEnvelope.DeliverySemantic`, an open enumeration. -/
structure ProtoDeliverySemantic where
  number : Int
deriving DecidableEq

namespace ProtoDeliverySemantic

def unspecified : ProtoDeliverySemantic := ⟨0⟩

def direct : ProtoDeliverySemantic := ⟨1⟩

def broadcast : ProtoDeliverySemantic := ⟨2⟩

end ProtoDeliverySemantic

structure ProtoDataEnvelope where
  sourceProcess : Option ProtoProcessRef := none
  semantic : ProtoDeliverySemantic := .unspecified
  targetReceiver : Option ProtoReceiverAddress := none
  resolvedTargetProcess : Option ProtoProcessRef := none
  broadcastScope : Option ProtoBroadcastScope := none
  payloadTypeUrl : String := ""
  payloadBytes : ByteBuffer := []
  requestId : UInt64 := 0
  flags : UInt32 := 0

/-- The same scope, its labels perhaps in another order. -/
structure ProtoBroadcastScope.Same (s s' : ProtoBroadcastScope) : Prop where
  serviceType : s.serviceType = s'.serviceType
  requiredLabels : s.requiredLabels.entries.Perm s'.requiredLabels.entries
  includeLocal : s.includeLocal = s'.includeLocal

/-- The same message, the labels of its scope perhaps in another order. -/
structure ProtoDataEnvelope.Same (m m' : ProtoDataEnvelope) : Prop where
  sourceProcess : m.sourceProcess = m'.sourceProcess
  semantic : m.semantic = m'.semantic
  targetReceiver : m.targetReceiver = m'.targetReceiver
  resolvedTargetProcess : m.resolvedTargetProcess = m'.resolvedTargetProcess
  broadcastScope : Option.Rel ProtoBroadcastScope.Same m.broadcastScope m'.broadcastScope
  payloadTypeUrl : m.payloadTypeUrl = m'.payloadTypeUrl
  payloadBytes : m.payloadBytes = m'.payloadBytes
  requestId : m.requestId = m'.requestId
  flags : m.flags = m'.flags

/-- `SerializeAsString` and `ParseFromArray` of the message. -/
structure Protobuf where
  serializeAsString : ProtoDataEnvelope → ByteBuffer
  parseFromArray : ByteBuffer → Option ProtoDataEnvelope

/-- What protobuf promises of valid messages. -/
structure Protobuf.Lawful (protobuf : Protobuf) (valid : ProtoDataEnvelope → Prop) : Prop where
  round_trip : ∀ m, valid m → ∃ m', protobuf.parseFromArray (protobuf.serializeAsString m) = some m' ∧
    m'.Same m
  size_lt : ∀ m, valid m → (protobuf.serializeAsString m).length < 2 ^ 31
  payload_lt : ∀ m, valid m → m.payloadBytes.length < 2 ^ 31

/-! ## The codec -/

def ProcessRef.toProto (process : ProcessRef) : ProtoProcessRef :=
  ⟨process.processId.serviceType, process.processId.instanceId, process.incarnationId⟩

def ProtoProcessRef.fromProto (proto : ProtoProcessRef) : ProcessRef :=
  ⟨⟨proto.serviceType, proto.instanceId⟩, proto.incarnationId⟩

def ReceiverAddress.toProto (receiver : ReceiverAddress) : ProtoReceiverAddress :=
  ⟨receiver.type.code.toUInt32, receiver.keyHi, receiver.keyLo⟩

def ProtoReceiverAddress.fromProto (proto : ProtoReceiverAddress) : ReceiverAddress :=
  ⟨⟨proto.type.toUInt16⟩, proto.keyHi, proto.keyLo⟩

/-- The labels are written into the map one after the other. -/
def toProtoLabels (requiredLabels : StringMap) : ProtoLabels :=
  requiredLabels.foldl (fun labels label => labels.insert label.1 label.2) ∅

def fromProtoLabels (labels : ProtoLabels) : StringMap :=
  labels.entries.map fun entry => (entry.1, entry.2)

def BroadcastScope.toProto (scope : BroadcastScope) : ProtoBroadcastScope :=
  ⟨scope.serviceType, toProtoLabels scope.requiredLabels, scope.includeLocal⟩

def ProtoBroadcastScope.fromProto (proto : ProtoBroadcastScope) : BroadcastScope :=
  ⟨proto.serviceType, fromProtoLabels proto.requiredLabels, proto.includeLocal⟩

/-- The bytes that are taken of a buffer whose size is cast to an `int`; a size that becomes negative is
none. -/
def castToInt (bytes : ByteBuffer) : Option ByteBuffer :=
  let size : Int := (bytes.length : Int).bmod (2 ^ 32)
  if size < 0 then none else some (bytes.take size.toNat)

/-- The message for an envelope with this payload. -/
def Envelope.toProto (envelope : Envelope) (payload : ByteBuffer) : ProtoDataEnvelope where
  sourceProcess := some envelope.header.sourceProcess.toProto
  semantic := if envelope.header.semantic = .broadcast then .broadcast else .direct
  targetReceiver := some envelope.header.targetReceiver.toProto
  resolvedTargetProcess := envelope.header.resolvedTargetProcess.map ProcessRef.toProto
  broadcastScope :=
    if envelope.header.semantic = .broadcast then some envelope.broadcastScope.toProto else none
  payloadTypeUrl := envelope.payloadTypeUrl
  payloadBytes := payload
  requestId := envelope.header.requestId
  flags := envelope.header.flags

/-- `EncodeDataEnvelope`; a payload whose size becomes negative throws. -/
def encodeDataEnvelope (protobuf : Protobuf) (envelope : Envelope) : Option ByteBuffer :=
  (castToInt envelope.payloadBytes).map fun payload =>
    protobuf.serializeAsString (envelope.toProto payload)

/-- The envelope of a message; a sub-message that is not there has its default values. -/
def ProtoDataEnvelope.fromProto (proto : ProtoDataEnvelope) : Envelope where
  header :=
    { sourceProcess := (proto.sourceProcess.getD {}).fromProto
      semantic := if proto.semantic = .broadcast then .broadcast else .direct
      targetReceiver := (proto.targetReceiver.getD {}).fromProto
      resolvedTargetProcess := proto.resolvedTargetProcess.map ProtoProcessRef.fromProto
      requestId := proto.requestId
      flags := proto.flags }
  broadcastScope := (proto.broadcastScope.map ProtoBroadcastScope.fromProto).getD {}
  payloadTypeUrl := proto.payloadTypeUrl
  payloadBytes := proto.payloadBytes

/-- `DecodeDataEnvelope`. -/
def decodeDataEnvelope (protobuf : Protobuf) (bytes : ByteBuffer) : Option Envelope :=
  ((castToInt bytes).bind protobuf.parseFromArray).map ProtoDataEnvelope.fromProto

/-! ## The fields -/

@[simp] theorem fromProto_toProto_process (process : ProcessRef) : process.toProto.fromProto = process := rfl

@[simp] theorem fromProto_toProto_receiver (receiver : ReceiverAddress) :
    receiver.toProto.fromProto = receiver := by
  unfold ReceiverAddress.toProto ProtoReceiverAddress.fromProto
  simp

theorem castToInt_of_lt {bytes : ByteBuffer} (h : bytes.length < 2 ^ 31) : castToInt bytes = some bytes := by
  have hsize : (bytes.length : Int).bmod (2 ^ 32) = bytes.length := by
    apply Int.bmod_eq_of_le
    · omega
    · omega
  unfold castToInt
  dsimp only
  rw [hsize, if_neg (by omega)]
  simp

/-! ## The labels -/

/-- No key is required with two values. -/
def Consistent (requiredLabels : StringMap) : Prop :=
  ∀ key value value', (key, value) ∈ requiredLabels → (key, value') ∈ requiredLabels → value = value'

theorem matchesLabels_iff {process : ProcessDescriptor} {requiredLabels : StringMap} :
    matchesLabels process requiredLabels = true ↔ ∀ label ∈ requiredLabels, label ∈ process.labels := by
  simp [matchesLabels]

theorem mem_fromProtoLabels {labels : ProtoLabels} {key value : String} :
    (key, value) ∈ fromProtoLabels labels ↔ labels.lookup key = some value := by
  rw [← Option.mem_def, AList.mem_lookup_iff, fromProtoLabels, List.mem_map]
  constructor
  · rintro ⟨⟨k, v⟩, hentry, h⟩
    cases h
    exact hentry
  · intro hentry
    exact ⟨⟨key, value⟩, hentry, rfl⟩

/-- What the map has for a key is the value of one of the labels. -/
theorem mem_of_lookup_foldl {requiredLabels : StringMap} {labels : ProtoLabels} {key value : String}
    (h : (requiredLabels.foldl (fun labels label => labels.insert label.1 label.2) labels).lookup key =
      some value) : (key, value) ∈ requiredLabels ∨ labels.lookup key = some value := by
  induction requiredLabels generalizing labels with
  | nil => exact .inr h
  | cons label requiredLabels ih =>
      rcases ih h with hmem | hlookup
      · exact .inl (List.mem_cons_of_mem _ hmem)
      · by_cases hkey : key = label.1
        · subst hkey
          rw [AList.lookup_insert] at hlookup
          cases hlookup
          exact .inl List.mem_cons_self
        · rw [AList.lookup_insert_ne hkey] at hlookup
          exact .inr hlookup

/-- Every key of a label has a value in the map. -/
theorem mem_foldl {requiredLabels : StringMap} {labels : ProtoLabels} {key : String}
    (h : key ∈ requiredLabels.map Prod.fst ∨ key ∈ labels) :
    key ∈ requiredLabels.foldl (fun labels label => labels.insert label.1 label.2) labels := by
  induction requiredLabels generalizing labels with
  | nil => exact h.resolve_left List.not_mem_nil
  | cons label requiredLabels ih =>
      refine ih ?_
      rw [AList.mem_insert]
      rcases h with hmem | hmem
      · rcases List.mem_cons.mp hmem with rfl | hmem
        · exact .inr (.inl rfl)
        · exact .inl hmem
      · exact .inr (.inr hmem)

theorem mem_of_mem_toProtoLabels {requiredLabels : StringMap} {key value : String}
    (h : (key, value) ∈ fromProtoLabels (toProtoLabels requiredLabels)) : (key, value) ∈ requiredLabels := by
  rcases mem_of_lookup_foldl (mem_fromProtoLabels.mp h) with hmem | hempty
  · exact hmem
  · cases hempty

/-- The map accepts what the list accepts exactly if no label is lost in it, that is, if no key has two
values. -/
theorem matches_toProtoLabels_iff (requiredLabels : StringMap) :
    (∀ process, matchesLabels process (fromProtoLabels (toProtoLabels requiredLabels)) =
      matchesLabels process requiredLabels) ↔ Consistent requiredLabels := by
  have hlost : ∀ key value, (key, value) ∈ requiredLabels →
      ∃ value', (key, value') ∈ fromProtoLabels (toProtoLabels requiredLabels) := by
    intro key value hmem
    have hkey : key ∈ toProtoLabels requiredLabels :=
      mem_foldl (.inl (List.mem_map_of_mem hmem))
    obtain ⟨value', hlookup⟩ := Option.isSome_iff_exists.mp (AList.lookup_isSome.mpr hkey)
    exact ⟨value', mem_fromProtoLabels.mpr hlookup⟩
  constructor
  · intro h key value value' hvalue hvalue'
    -- the process that has just the labels of the map
    have hall := (h ⟨⟨⟨0, 0⟩, 0⟩, fromProtoLabels (toProtoLabels requiredLabels)⟩).symm.trans
      (matchesLabels_iff.mpr fun _ hlabel => hlabel)
    have hkept := mem_fromProtoLabels.mp (matchesLabels_iff.mp hall _ hvalue)
    have hkept' := mem_fromProtoLabels.mp (matchesLabels_iff.mp hall _ hvalue')
    exact Option.some.inj (hkept.symm.trans hkept')
  · intro hconsistent process
    rw [Bool.eq_iff_iff, matchesLabels_iff, matchesLabels_iff]
    constructor
    · intro hall label hlabel
      obtain ⟨value', hmem⟩ := hlost label.1 label.2 hlabel
      have hsame : label.2 = value' :=
        hconsistent label.1 label.2 value' hlabel (mem_of_mem_toProtoLabels hmem)
      rw [← hsame] at hmem
      exact hall label hmem
    · intro hall label hlabel
      exact hall label (mem_of_mem_toProtoLabels hlabel)

/-- The order of the labels does not matter. -/
theorem matchesLabels_perm {labels labels' : StringMap} (h : labels.Perm labels')
    (process : ProcessDescriptor) : matchesLabels process labels = matchesLabels process labels' := by
  rw [Bool.eq_iff_iff, matchesLabels_iff, matchesLabels_iff]
  exact forall_congr' fun label => by rw [h.mem_iff]

/-! ## The envelope -/

/-- A decoded envelope has everything of the original but the scope of one that is direct, and requires of
a process what the original requires. -/
structure Envelope.Restores (decoded envelope : Envelope) : Prop where
  header : decoded.header = envelope.header
  payloadTypeUrl : decoded.payloadTypeUrl = envelope.payloadTypeUrl
  payloadBytes : decoded.payloadBytes = envelope.payloadBytes
  direct : envelope.header.semantic = .direct → decoded.broadcastScope = {}
  broadcast : envelope.header.semantic = .broadcast →
    decoded.broadcastScope.serviceType = envelope.broadcastScope.serviceType ∧
    decoded.broadcastScope.includeLocal = envelope.broadcastScope.includeLocal ∧
    ∀ process, matchesLabels process decoded.broadcastScope.requiredLabels =
      matchesLabels process envelope.broadcastScope.requiredLabels

/-- Decoding what has been encoded. -/
def roundTrip (protobuf : Protobuf) (envelope : Envelope) : Option Envelope :=
  (encodeDataEnvelope protobuf envelope).bind (decodeDataEnvelope protobuf)

variable {protobuf : Protobuf} {valid : ProtoDataEnvelope → Prop} {envelope : Envelope}

/-- The bytes of an envelope come back as its message. -/
theorem roundTrip_eq (laws : protobuf.Lawful valid) (hvalid : valid (envelope.toProto envelope.payloadBytes)) :
    ∃ proto : ProtoDataEnvelope, roundTrip protobuf envelope = some proto.fromProto ∧
      proto.Same (envelope.toProto envelope.payloadBytes) := by
  obtain ⟨proto, hparse, hsame⟩ := laws.round_trip _ hvalid
  refine ⟨proto, ?_, hsame⟩
  have hpayload : castToInt envelope.payloadBytes = some envelope.payloadBytes :=
    castToInt_of_lt (laws.payload_lt _ hvalid)
  unfold roundTrip encodeDataEnvelope decodeDataEnvelope
  rw [hpayload, Option.map_some, Option.bind_some,
    castToInt_of_lt (laws.size_lt _ hvalid), Option.bind_some, hparse]
  rfl

/-- The header of an envelope comes back from its message. -/
theorem header_fromProto_toProto (envelope : Envelope) (payload : ByteBuffer) :
    (envelope.toProto payload).fromProto.header = envelope.header := by
  obtain ⟨⟨source, semantic, target, resolved, requestId, flags⟩, scope, url, bytes⟩ := envelope
  have hresolved : (resolved.map ProcessRef.toProto).map ProtoProcessRef.fromProto = resolved := by
    cases resolved <;> rfl
  unfold Envelope.toProto ProtoDataEnvelope.fromProto
  cases semantic <;> simp [hresolved, ProtoDeliverySemantic.direct, ProtoDeliverySemantic.broadcast]

/-- A message with its labels in another order has the same header. -/
theorem header_of_same {proto proto' : ProtoDataEnvelope} (hsame : proto.Same proto') :
    proto.fromProto.header = proto'.fromProto.header := by
  unfold ProtoDataEnvelope.fromProto
  rw [hsame.sourceProcess, hsame.semantic, hsame.targetReceiver, hsame.resolvedTargetProcess,
    hsame.requestId, hsame.flags]

/-- The scope of a direct envelope is not sent. -/
theorem scope_of_direct {proto : ProtoDataEnvelope} (hdirect : envelope.header.semantic = .direct)
    (hsame : proto.Same (envelope.toProto envelope.payloadBytes)) : proto.fromProto.broadcastScope = {} := by
  have hscope := hsame.broadcastScope
  have hnone : (envelope.toProto envelope.payloadBytes).broadcastScope = none := by
    simp [Envelope.toProto, hdirect]
  rw [hnone] at hscope
  unfold ProtoDataEnvelope.fromProto
  cases hproto : proto.broadcastScope with
  | none => rfl
  | some scope =>
      rw [hproto] at hscope
      exact absurd hscope Option.not_rel_some_none

/-- The scope of a broadcast comes back with the labels of the map, in some order. -/
theorem scope_of_broadcast {proto : ProtoDataEnvelope} (hbroadcast : envelope.header.semantic = .broadcast)
    (hsame : proto.Same (envelope.toProto envelope.payloadBytes)) :
    proto.fromProto.broadcastScope.serviceType = envelope.broadcastScope.serviceType ∧
    proto.fromProto.broadcastScope.includeLocal = envelope.broadcastScope.includeLocal ∧
    proto.fromProto.broadcastScope.requiredLabels.Perm
      (fromProtoLabels (toProtoLabels envelope.broadcastScope.requiredLabels)) := by
  have hscope := hsame.broadcastScope
  have hsome : (envelope.toProto envelope.payloadBytes).broadcastScope =
      some envelope.broadcastScope.toProto := by
    simp [Envelope.toProto, hbroadcast]
  rw [hsome] at hscope
  unfold ProtoDataEnvelope.fromProto
  cases hproto : proto.broadcastScope with
  | none =>
      rw [hproto] at hscope
      exact absurd hscope Option.not_rel_none_some
  | some scope =>
      rw [hproto] at hscope
      have hsame := Option.rel_some_some.mp hscope
      exact ⟨hsame.serviceType, hsame.includeLocal, hsame.requiredLabels.map _⟩

/-- **An envelope survives the wire** exactly if it is not a broadcast that requires a key with two
values. -/
theorem envelope_survives (laws : protobuf.Lawful valid)
    (hvalid : valid (envelope.toProto envelope.payloadBytes)) :
    (∃ decoded, roundTrip protobuf envelope = some decoded ∧ decoded.Restores envelope) ↔
      (envelope.header.semantic = .broadcast → Consistent envelope.broadcastScope.requiredLabels) := by
  obtain ⟨proto, htrip, hsame⟩ := roundTrip_eq laws hvalid
  constructor
  · rintro ⟨decoded, hdecoded, hrestores⟩ hbroadcast
    rw [htrip] at hdecoded
    cases hdecoded
    obtain ⟨-, -, hlabels⟩ := scope_of_broadcast hbroadcast hsame
    obtain ⟨-, -, hmatches⟩ := hrestores.broadcast hbroadcast
    refine (matches_toProtoLabels_iff _).mp fun process => ?_
    rw [← matchesLabels_perm hlabels process, hmatches process]
  · intro hconsistent
    refine ⟨proto.fromProto, htrip, ?_⟩
    constructor
    · exact (header_of_same hsame).trans (header_fromProto_toProto _ _)
    · exact hsame.payloadTypeUrl
    · exact hsame.payloadBytes
    · intro hdirect
      exact scope_of_direct hdirect hsame
    · intro hbroadcast
      obtain ⟨hservice, hlocal, hlabels⟩ := scope_of_broadcast hbroadcast hsame
      refine ⟨hservice, hlocal, fun process => ?_⟩
      rw [matchesLabels_perm hlabels process]
      exact (matches_toProtoLabels_iff _).mpr (hconsistent hbroadcast) process

/-! ### One message -/

/-- Protobuf as it is for one message, with the bytes that it has for it. -/
def Protobuf.ofMessage (m : ProtoDataEnvelope) (bytes : ByteBuffer) : Protobuf where
  serializeAsString _ := bytes
  parseFromArray received := if received = bytes then some m else none

theorem ProtoDataEnvelope.Same.refl (m : ProtoDataEnvelope) : m.Same m where
  sourceProcess := rfl
  semantic := rfl
  targetReceiver := rfl
  resolvedTargetProcess := rfl
  broadcastScope := by
    cases m.broadcastScope with
    | none => exact .none
    | some scope => exact .some ⟨rfl, .refl _, rfl⟩
  payloadTypeUrl := rfl
  payloadBytes := rfl
  requestId := rfl
  flags := rfl

theorem Protobuf.ofMessage_lawful {m : ProtoDataEnvelope} {bytes : ByteBuffer}
    (hbytes : bytes.length < 2 ^ 31) (hpayload : m.payloadBytes.length < 2 ^ 31) :
    (Protobuf.ofMessage m bytes).Lawful fun m' => m' = m where
  round_trip := by
    rintro m' rfl
    exact ⟨m', if_pos rfl, .refl m'⟩
  size_lt _ _ := hbytes
  payload_lt := by
    rintro m' rfl
    exact hpayload

/-- A broadcast of the gate to the games with these labels. -/
def tickOf (requiredLabels : StringMap) : Envelope where
  header :=
    { sourceProcess := ⟨⟨20, 1⟩, 201⟩
      semantic := .broadcast
      targetReceiver := ⟨.service, 10, 1⟩ }
  broadcastScope := ⟨some 10, requiredLabels, true⟩
  payloadTypeUrl := "t.Tick"
  payloadBytes := []

/-- The bytes of its message, with the bytes of the scope. -/
def tickBytes (scope : ByteBuffer) : ByteBuffer :=
  [0x0a, 7, 0x08, 20, 0x10, 1, 0x18, 0xc9, 0x01] ++ [0x10, 2] ++ [0x1a, 6, 0x08, 4, 0x10, 10, 0x18, 1] ++
    0x22 :: UInt8.ofNat scope.length :: scope ++ [0x2a, 6, 0x74, 0x2e, 0x54, 0x69, 0x63, 0x6b]

/-- The scope with one label, `role: game`. -/
def gameScope : ByteBuffer :=
  [0x08, 10, 0x12, 12, 0x0a, 4, 0x72, 0x6f, 0x6c, 0x65, 0x12, 4, 0x67, 0x61, 0x6d, 0x65, 0x18, 1]

/-- The scope with one label, `role: relay`. -/
def relayScope : ByteBuffer :=
  [0x08, 10, 0x12, 13, 0x0a, 4, 0x72, 0x6f, 0x6c, 0x65, 0x12, 5, 0x72, 0x65, 0x6c, 0x61, 0x79, 0x18, 1]

/-- Protobuf for the broadcast with these labels. -/
def protobufOf (requiredLabels : StringMap) (scope : ByteBuffer) : Protobuf :=
  .ofMessage ((tickOf requiredLabels).toProto []) (tickBytes scope)

theorem protobufOf_lawful (requiredLabels : StringMap) {scope : ByteBuffer} (h : scope.length < 100) :
    (protobufOf requiredLabels scope).Lawful fun m => m = (tickOf requiredLabels).toProto [] := by
  refine Protobuf.ofMessage_lawful ?_ (Nat.two_pow_pos 31)
  simp only [tickBytes, List.length_append, List.length_cons, List.length_nil]
  omega

/-- A broadcast with one label survives. -/
theorem envelope_survives_one : ∃ decoded, roundTrip (protobufOf [("role", "game")] gameScope)
    (tickOf [("role", "game")]) = some decoded ∧ decoded.Restores (tickOf [("role", "game")]) := by
  refine (envelope_survives (protobufOf_lawful _ (by decide)) rfl).mpr ?_
  intro _ key value value' hvalue hvalue'
  cases List.mem_singleton.mp hvalue
  cases List.mem_singleton.mp hvalue'
  rfl

/-- A broadcast that requires two values of a key comes back with the second one only, and then accepts
what it did not accept. -/
theorem envelope_widened : ∃ decoded,
    roundTrip (protobufOf [("role", "game"), ("role", "relay")] relayScope)
      (tickOf [("role", "game"), ("role", "relay")]) = some decoded ∧
    matchesLabels ⟨⟨⟨99, 1⟩, 901⟩, [("role", "relay")]⟩ decoded.broadcastScope.requiredLabels = true ∧
    matchesLabels ⟨⟨⟨99, 1⟩, 901⟩, [("role", "relay")]⟩
      (tickOf [("role", "game"), ("role", "relay")]).broadcastScope.requiredLabels = false := by
  obtain ⟨proto, htrip, hsame⟩ := roundTrip_eq
    (protobufOf_lawful [("role", "game"), ("role", "relay")] (show relayScope.length < 100 by decide)) rfl
  obtain ⟨-, -, hlabels⟩ := scope_of_broadcast rfl hsame
  refine ⟨proto.fromProto, htrip, ?_, by decide⟩
  rw [matchesLabels_perm hlabels]
  decide

end SomeServer
