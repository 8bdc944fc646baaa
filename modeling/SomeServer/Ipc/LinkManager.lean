/-
# SomeServer.Ipc.LinkManager — the handshake of a link

A new connection becomes a link when its two ends have exchanged a `Hello` each and answered it. `LinkManager`
is told of connections and of the frames that come over them, and queues the frames that it answers with. The
messages are given by the fields that the link layer sets or reads; the others keep their defaults, and
how protobuf makes bytes of a message is a parameter.

The links are a table, which nothing here walks: at most one link for each connection.
-/
import SomeServer.Ipc.Frames
import SomeServer.Lib.Histories
import SomeServer.Lib.Table

namespace SomeServer

open Lib

/-! ## Control messages -/

structure ProtoProcessIdentity where
  serviceType : UInt32 := 0
  instanceId : UInt32 := 0
  incarnationId : UInt64 := 0
deriving DecidableEq

structure ProtoHello where
  self : Option ProtoProcessIdentity := none
  protocolVersion : UInt32 := 0
  minSupportedProtocolVersion : UInt32 := 0
deriving DecidableEq

/-- `HelloAck.Result`, an open enumeration. -/
structure ProtoHelloAckResult where
  number : Int
deriving DecidableEq

namespace ProtoHelloAckResult

def unspecified : ProtoHelloAckResult := ⟨0⟩

def ok : ProtoHelloAckResult := ⟨1⟩

def incompatibleVersion : ProtoHelloAckResult := ⟨2⟩

def duplicateProcess : ProtoHelloAckResult := ⟨3⟩

def rejected : ProtoHelloAckResult := ⟨4⟩

end ProtoHelloAckResult

structure ProtoHelloAck where
  result : ProtoHelloAckResult := .unspecified
  self : Option ProtoProcessIdentity := none
  protocolVersion : UInt32 := 0
deriving DecidableEq

/-- `ControlMessage`, by its body. -/
inductive ProtoControlMessage where
  | hello (hello : ProtoHello)
  | helloAck (helloAck : ProtoHelloAck)
  | ping
  | pong
  | close
  | notSet
deriving DecidableEq

/-- `SerializeToArray` and `ParseFromArray` of the message; the latter is given the size as an `int`. -/
structure ControlProtobuf where
  serializeToArray : ProtoControlMessage → ByteBuffer
  parseFromArray : ByteBuffer → Int → Option ProtoControlMessage

/-- What protobuf promises of a message whose other fields are not set. -/
structure ControlProtobuf.Carries (protobuf : ControlProtobuf) (message : ProtoControlMessage) : Prop where
  round_trip : protobuf.parseFromArray (protobuf.serializeToArray message)
    (protobuf.serializeToArray message).length = some message
  size_lt : (protobuf.serializeToArray message).length < 2 ^ 31

inductive ControlMessageType where
  | hello
  | helloAck
  | ping
  | pong
  | close
deriving DecidableEq, Repr

structure HelloInfo where
  processRef : ProcessRef
  protocolVersion : UInt32 := 0
  minSupportedProtocolVersion : UInt32 := 0
deriving DecidableEq

/-- `FillProcessIdentity`. -/
def ProcessRef.toIdentity (source : ProcessRef) : ProtoProcessIdentity :=
  ⟨source.processId.serviceType, source.processId.instanceId, source.incarnationId⟩

/-- `ToProcessRef`. -/
def ProtoProcessIdentity.toProcessRef (identity : ProtoProcessIdentity) : ProcessRef :=
  ⟨⟨identity.serviceType, identity.instanceId⟩, identity.incarnationId⟩

@[simp] theorem toProcessRef_toIdentity (source : ProcessRef) : source.toIdentity.toProcessRef = source := rfl

def helloMessage (self : ProcessRef) (protocolVersion : UInt32) : ProtoControlMessage :=
  .hello ⟨some self.toIdentity, protocolVersion, protocolVersion⟩

def helloAckMessage (self : ProcessRef) (protocolVersion : UInt32) (result : ProtoHelloAckResult) :
    ProtoControlMessage :=
  .helloAck ⟨result, some self.toIdentity, protocolVersion⟩

namespace ControlProtobuf

variable (protobuf : ControlProtobuf)

/-- `EncodeHello`. -/
def encodeHello (self : ProcessRef) (protocolVersion : UInt32) : ByteBuffer :=
  protobuf.serializeToArray (helloMessage self protocolVersion)

/-- `EncodeHelloAck`. -/
def encodeHelloAck (self : ProcessRef) (protocolVersion : UInt32) (result : ProtoHelloAckResult) : ByteBuffer :=
  protobuf.serializeToArray (helloAckMessage self protocolVersion result)

/-- `EncodePong`. -/
def encodePong : ByteBuffer := protobuf.serializeToArray .pong

/-- `DecodeControlMessage`. -/
def decodeControlMessage (bytes : ByteBuffer) : Option ProtoControlMessage :=
  protobuf.parseFromArray bytes ((bytes.length : Int).bmod (2 ^ 32))

end ControlProtobuf

namespace ProtoControlMessage

/-- `GetControlMessageType`; a message without a body closes. -/
def type : ProtoControlMessage → ControlMessageType
  | hello _ => .hello
  | helloAck _ => .helloAck
  | ping => .ping
  | pong => .pong
  | close => .close
  | notSet => .close

/-- `ExtractHelloInfo`. -/
def extractHelloInfo : ProtoControlMessage → Except String HelloInfo
  | hello ⟨some self, protocolVersion, minSupportedProtocolVersion⟩ =>
      .ok ⟨self.toProcessRef, protocolVersion, minSupportedProtocolVersion⟩
  | _ => .error "hello message missing process identity"

/-- `ExtractHelloAckResult`. -/
def extractHelloAckResult : ProtoControlMessage → Except String ProtoHelloAckResult
  | helloAck ack => .ok ack.result
  | _ => .error "hello_ack message missing result"

end ProtoControlMessage

/-- What is written is what is read. -/
theorem ControlProtobuf.Carries.decode {protobuf : ControlProtobuf} {message : ProtoControlMessage}
    (h : protobuf.Carries message) :
    protobuf.decodeControlMessage (protobuf.serializeToArray message) = some message := by
  have hsize : ((protobuf.serializeToArray message).length : Int).bmod (2 ^ 32) =
      (protobuf.serializeToArray message).length := by
    have := h.size_lt
    apply Int.bmod_eq_of_le
    · omega
    · omega
  unfold decodeControlMessage
  rw [hsize, h.round_trip]

/-! ## The link manager -/

inductive ConnectionEventType where
  | connected
  | disconnected
deriving DecidableEq, Repr

structure ConnectionEvent where
  type : ConnectionEventType := .connected
  connectionId : ConnectionId := 0
deriving DecidableEq, Repr

/-- The link that `mLinks[connection_id]` makes where there is none. -/
def Link.empty : Link := ⟨0, ⟨⟨0, 0⟩, 0⟩, .idle⟩

structure LinkManager where
  self : ProcessRef
  protocolVersion : UInt32 := 1
  links : Table ConnectionId Link := .empty
  outboundFrames : List RawFrame := []

namespace LinkManager

/-- `mLinks[connection_id]`. -/
def linkOf (m : LinkManager) (connectionId : ConnectionId) : Link :=
  (m.links.get connectionId).getD .empty

/-- A link is written. -/
def setLink (m : LinkManager) (connectionId : ConnectionId) (link : Link) : LinkManager :=
  { m with links := m.links.set connectionId link }

/-- `QueueFrame`. -/
def queueFrame (m : LinkManager) (connectionId : ConnectionId) (kind : FrameKind) (payload : ByteBuffer) :
    LinkManager :=
  { m with outboundFrames := m.outboundFrames ++
      [⟨connectionId, { kind, length := UInt32.ofNat payload.length }, payload⟩] }

/-- `DrainOutboundFrames`. -/
def drainOutboundFrames (m : LinkManager) : LinkManager × List RawFrame :=
  ({ m with outboundFrames := [] }, m.outboundFrames)

/-- `IsProtocolCompatible`. -/
def isProtocolCompatible (m : LinkManager) (hello : HelloInfo) : Bool :=
  if hello.protocolVersion = 0 then false
  else if hello.protocolVersion < m.protocolVersion then false
  else if hello.minSupportedProtocolVersion > m.protocolVersion then false
  else true

variable (protobuf : ControlProtobuf)

/-- `OnConnectionEvent`. -/
def onConnectionEvent (m : LinkManager) (event : ConnectionEvent) : LinkManager :=
  match event.type with
  | .connected =>
      let link := m.linkOf event.connectionId
      (m.setLink event.connectionId
        { link with connectionId := event.connectionId, state := .handshaking }).queueFrame
          event.connectionId .control (protobuf.encodeHello m.self m.protocolVersion)
  | .disconnected => { m with links := m.links.erase event.connectionId }

/-- `HandleHello`. -/
def handleHello (m : LinkManager) (connectionId : ConnectionId) (payload : ByteBuffer) : LinkManager × Result :=
  match protobuf.decodeControlMessage payload with
  | none => (m, .failure "invalid hello control message")
  | some message =>
      match message.extractHelloInfo with
      | .error error => (m, .failure error)
      | .ok hello =>
          if !m.isProtocolCompatible hello then
            ((m.setLink connectionId ⟨connectionId, hello.processRef, .closed⟩).queueFrame connectionId .control
                (protobuf.encodeHelloAck m.self m.protocolVersion .incompatibleVersion),
              .failure "incompatible protocol version")
          else
            ((m.setLink connectionId ⟨connectionId, hello.processRef, .active⟩).queueFrame connectionId .control
                (protobuf.encodeHelloAck m.self m.protocolVersion .ok), .success)

/-- The answer to a hello. -/
def handleHelloAck (m : LinkManager) (connectionId : ConnectionId) (message : ProtoControlMessage) :
    LinkManager × Result :=
  match m.links.get connectionId with
  | none => (m, .failure "link not found")
  | some link =>
      match message.extractHelloAckResult with
      | .error error => (m, .failure error)
      | .ok result =>
          if result ≠ .ok then
            (m.setLink connectionId { link with state := .closed }, .failure "hello_ack rejected")
          else (m.setLink connectionId { link with state := .active }, .success)

/-- `OnFrame`. -/
def onFrame (m : LinkManager) (frame : RawFrame) : LinkManager × Result :=
  if frame.header.kind ≠ .control then (m, .failure "unsupported frame kind")
  else match protobuf.decodeControlMessage frame.payload with
    | none => (m, .failure "invalid control message")
    | some message =>
        match message.type with
        | .hello => m.handleHello protobuf frame.connectionId frame.payload
        | .helloAck => m.handleHelloAck frame.connectionId message
        | .ping => (m.queueFrame frame.connectionId .control protobuf.encodePong, .success)
        | .pong => (m, .success)
        | .close => (m, .success)

/-- There is an active link over the connection, and it names this process. -/
def Active (m : LinkManager) (connectionId : ConnectionId) (process : ProcessRef) : Prop :=
  ∃ link, m.links.get connectionId = some link ∧ link.state = .active ∧ link.remoteProcess = process

/-- `mLinks` in the order in which it is walked. -/
def linkTable (m : LinkManager) (order : List ConnectionId) : LinkTable := order.filterMap m.links.get

section Fields

variable (m : LinkManager) (c : ConnectionId) (kind : FrameKind) (payload : ByteBuffer) (link : Link)

@[simp] theorem queueFrame_links : (m.queueFrame c kind payload).links = m.links := rfl

@[simp] theorem queueFrame_self : (m.queueFrame c kind payload).self = m.self := rfl

@[simp] theorem queueFrame_protocolVersion :
    (m.queueFrame c kind payload).protocolVersion = m.protocolVersion := rfl

@[simp] theorem setLink_links : (m.setLink c link).links = m.links.set c link := rfl

@[simp] theorem setLink_self : (m.setLink c link).self = m.self := rfl

@[simp] theorem setLink_protocolVersion : (m.setLink c link).protocolVersion = m.protocolVersion := rfl

@[simp] theorem setLink_outboundFrames : (m.setLink c link).outboundFrames = m.outboundFrames := rfl

end Fields

/-! ### What a frame does -/

/-- The control message of a frame. -/
def messageOf (protobuf : ControlProtobuf) (frame : RawFrame) : Option ProtoControlMessage :=
  if frame.header.kind = .control then protobuf.decodeControlMessage frame.payload else none

variable {protobuf} {m : LinkManager} {frame : RawFrame} {c : ConnectionId}

theorem onFrame_eq : m.onFrame protobuf frame =
    match messageOf protobuf frame with
    | none => (m, .failure (if frame.header.kind = .control then "invalid control message"
        else "unsupported frame kind"))
    | some message =>
        match message.type with
        | .hello => m.handleHello protobuf frame.connectionId frame.payload
        | .helloAck => m.handleHelloAck frame.connectionId message
        | .ping => (m.queueFrame frame.connectionId .control protobuf.encodePong, .success)
        | .pong => (m, .success)
        | .close => (m, .success) := by
  unfold onFrame messageOf
  by_cases hkind : frame.header.kind = .control
  · simp only [hkind, ne_eq, not_true_eq_false, if_false, if_true]
  · simp [hkind]

theorem decode_of_messageOf {message : ProtoControlMessage} (h : messageOf protobuf frame = some message) :
    protobuf.decodeControlMessage frame.payload = some message := by
  unfold messageOf at h
  split at h
  · exact h
  · cases h

/-- A hello, by the identity and the versions that it has. -/
theorem onFrame_hello {hello : ProtoHello} (h : messageOf protobuf frame = some (.hello hello)) :
    m.onFrame protobuf frame =
      match hello.self with
      | none => (m, .failure "hello message missing process identity")
      | some self =>
          if !m.isProtocolCompatible ⟨self.toProcessRef, hello.protocolVersion,
              hello.minSupportedProtocolVersion⟩ then
            ((m.setLink frame.connectionId ⟨frame.connectionId, self.toProcessRef, .closed⟩).queueFrame
                frame.connectionId .control
                (protobuf.encodeHelloAck m.self m.protocolVersion .incompatibleVersion),
              .failure "incompatible protocol version")
          else
            ((m.setLink frame.connectionId ⟨frame.connectionId, self.toProcessRef, .active⟩).queueFrame
                frame.connectionId .control (protobuf.encodeHelloAck m.self m.protocolVersion .ok), .success) := by
  rw [onFrame_eq, h]
  simp only [ProtoControlMessage.type, handleHello, decode_of_messageOf h]
  obtain ⟨self, protocolVersion, minSupported⟩ := hello
  cases self with
  | none => simp only [ProtoControlMessage.extractHelloInfo]
  | some self => simp only [ProtoControlMessage.extractHelloInfo]

theorem onFrame_helloAck {ack : ProtoHelloAck} (h : messageOf protobuf frame = some (.helloAck ack)) :
    m.onFrame protobuf frame =
      match m.links.get frame.connectionId with
      | none => (m, .failure "link not found")
      | some link =>
          if ack.result ≠ .ok then
            (m.setLink frame.connectionId { link with state := .closed }, .failure "hello_ack rejected")
          else (m.setLink frame.connectionId { link with state := .active }, .success) := by
  rw [onFrame_eq, h]
  show m.handleHelloAck frame.connectionId (.helloAck ack) = _
  unfold handleHelloAck
  simp only [ProtoControlMessage.extractHelloAckResult]

/-- What a hello does to the links. -/
theorem onFrame_hello_links {hello : ProtoHello} (h : messageOf protobuf frame = some (.hello hello)) :
    (m.onFrame protobuf frame).1.links =
      match hello.self with
      | none => m.links
      | some self => m.links.set frame.connectionId ⟨frame.connectionId, self.toProcessRef,
          if m.isProtocolCompatible ⟨self.toProcessRef, hello.protocolVersion,
            hello.minSupportedProtocolVersion⟩ then .active else .closed⟩ := by
  rw [onFrame_hello h]
  split
  · rfl
  · split
    · rename_i hcompatible
      simp only [Bool.not_eq_true'] at hcompatible
      simp [hcompatible]
    · rename_i hcompatible
      simp only [Bool.not_eq_true', Bool.not_eq_false] at hcompatible
      simp [hcompatible]

/-- What the answer to a hello does to the links. -/
theorem onFrame_helloAck_links {ack : ProtoHelloAck} (h : messageOf protobuf frame = some (.helloAck ack)) :
    (m.onFrame protobuf frame).1.links =
      match m.links.get frame.connectionId with
      | none => m.links
      | some link => m.links.set frame.connectionId
          { link with state := if ack.result = .ok then .active else .closed } := by
  rw [onFrame_helloAck h]
  split
  · rfl
  · split
    · rfl
    · rename_i hresult
      rw [if_pos (not_not.mp hresult)]
      rfl

/-- Every other frame leaves the links as they are. -/
theorem onFrame_links_of_other (hhello : ∀ hello, messageOf protobuf frame ≠ some (.hello hello))
    (hack : ∀ ack, messageOf protobuf frame ≠ some (.helloAck ack)) :
    (m.onFrame protobuf frame).1.links = m.links := by
  rw [onFrame_eq]
  cases h : messageOf protobuf frame with
  | none => rfl
  | some message =>
      cases message with
      | hello hello => exact absurd h (hhello hello)
      | helloAck ack => exact absurd h (hack ack)
      | ping => rfl
      | pong => rfl
      | close => rfl
      | notSet => rfl

/-- The process and its version stay what they are. -/
theorem onFrame_own : (m.onFrame protobuf frame).1.self = m.self ∧
    (m.onFrame protobuf frame).1.protocolVersion = m.protocolVersion := by
  rw [onFrame_eq]
  split
  · exact ⟨rfl, rfl⟩
  · split
    · unfold handleHello
      split
      · exact ⟨rfl, rfl⟩
      · split
        · exact ⟨rfl, rfl⟩
        · split <;> exact ⟨rfl, rfl⟩
    · unfold handleHelloAck
      split
      · exact ⟨rfl, rfl⟩
      · split
        · exact ⟨rfl, rfl⟩
        · split <;> exact ⟨rfl, rfl⟩
    all_goals exact ⟨rfl, rfl⟩

@[simp] theorem onFrame_self : (m.onFrame protobuf frame).1.self = m.self := onFrame_own.1

@[simp] theorem onFrame_protocolVersion :
    (m.onFrame protobuf frame).1.protocolVersion = m.protocolVersion := onFrame_own.2

end LinkManager

/-! ## Messages on the wire -/

namespace ProtoControlMessage

/-- A varint, of at most this many bytes. -/
def varintLoop : Nat → Nat → ByteBuffer
  | 0, _ => []
  | bytes + 1, n => if n < 128 then [UInt8.ofNat n] else UInt8.ofNat (n % 128 + 128) :: varintLoop bytes (n / 128)

def varint (n : Nat) : ByteBuffer := varintLoop 10 n

/-- A number that has its default is not written. -/
def number (field value : Nat) : ByteBuffer := if value = 0 then [] else varint (field * 8) ++ varint value

def message (field : Nat) (bytes : ByteBuffer) : ByteBuffer :=
  varint (field * 8 + 2) ++ varint bytes.length ++ bytes

def identity (field : Nat) : Option ProtoProcessIdentity → ByteBuffer
  | none => []
  | some identity => message field (number 1 identity.serviceType.toNat ++ number 2 identity.instanceId.toNat ++
      number 3 identity.incarnationId.toNat)

/-- The bytes that protobuf makes of a message. -/
def wire : ProtoControlMessage → ByteBuffer
  | hello ⟨self, protocolVersion, minSupportedProtocolVersion⟩ =>
      message 10 (identity 1 self ++ number 3 protocolVersion.toNat ++
        number 4 minSupportedProtocolVersion.toNat)
  | helloAck ⟨result, self, protocolVersion⟩ =>
      message 11 (number 1 result.number.toNat ++ identity 2 self ++ number 3 protocolVersion.toNat)
  | ping => message 12 []
  | pong => message 13 []
  | close => message 14 []
  | notSet => []

end ProtoControlMessage

/-- A protobuf that knows the bytes of these messages. -/
def ControlProtobuf.knowing (messages : List ProtoControlMessage) : ControlProtobuf where
  serializeToArray := ProtoControlMessage.wire
  parseFromArray bytes size := if size < 0 then none else messages.find? fun m => m.wire = bytes.take size.toNat

/-- A control frame with a message. -/
def controlFrame (protobuf : ControlProtobuf) (connectionId : ConnectionId) (message : ProtoControlMessage) :
    RawFrame :=
  let payload := protobuf.serializeToArray message
  ⟨connectionId, { kind := .control, length := UInt32.ofNat payload.length }, payload⟩

end SomeServer
