/-
# SomeServer.Ipc.Frames — frames on a byte stream, and the reader that takes them off it

A frame is a header of twelve bytes and the payload that the header announces. The header is written as
the memory of its fields, in the byte order of the host, which is the same at both ends of a link.
`ReaderLoop` reads a stream that `recv` may cut wherever it likes: a `Stream` is what arrives, how it is
cut, and whether the other side ends it after that or leaves it open, where `recv` waits.
-/
import SomeServer.Ipc.Messenger
import SomeServer.Lib.Bytes

namespace SomeServer

open Lib

/-! ## Frames -/

def kFrameMagic : UInt32 := 0x53495043

def kFrameVersion : UInt16 := 1

def kFrameHeaderSize : Nat := 12

structure FrameHeader where
  magic : UInt32 := kFrameMagic
  version : UInt16 := kFrameVersion
  kind : FrameKind := .control
  length : UInt32 := 0
deriving DecidableEq, Repr

structure RawFrame where
  connectionId : ConnectionId := 0
  header : FrameHeader
  payload : ByteBuffer
deriving DecidableEq, Repr

section Codec

variable {order : ByteOrder}

/-- `SerializeFrameHeader`. -/
def serializeFrameHeader (order : ByteOrder) (header : FrameHeader) : ByteBuffer :=
  order.bytes 4 header.magic.toNat ++ order.bytes 2 header.version.toNat ++
    order.bytes 2 header.kind.code.toNat ++ order.bytes 4 header.length.toNat

/-- The fields of a header, read off its memory. -/
def headerOf (order : ByteOrder) (data : ByteBuffer) : FrameHeader where
  magic := UInt32.ofNat (order.nat (data.take 4))
  version := UInt16.ofNat (order.nat ((data.drop 4).take 2))
  kind := ⟨UInt16.ofNat (order.nat ((data.drop 6).take 2))⟩
  length := UInt32.ofNat (order.nat ((data.drop 8).take 4))

/-- `DeserializeFrameHeader`. -/
def deserializeFrameHeader (order : ByteOrder) (data : ByteBuffer) : Option FrameHeader :=
  if data.length < kFrameHeaderSize then none
  else if (headerOf order data).magic = kFrameMagic then some (headerOf order data) else none

@[simp] theorem length_serializeFrameHeader (header : FrameHeader) :
    (serializeFrameHeader order header).length = kFrameHeaderSize := by
  simp [serializeFrameHeader, kFrameHeaderSize]

/-- A field in the middle of a memory. -/
theorem take_drop_field {before field after : ByteBuffer} {offset size : Nat}
    (hoffset : before.length = offset) (hsize : field.length = size) :
    ((before ++ (field ++ after)).drop offset).take size = field := by
  subst hoffset
  subst hsize
  rw [List.drop_left, List.take_left]

/-- What is written is what is read. -/
theorem headerOf_serialize (header : FrameHeader) (payload : ByteBuffer) :
    headerOf order (serializeFrameHeader order header ++ payload) = header := by
  obtain ⟨magic, version, ⟨kind⟩, length⟩ := header
  have hmagic : (serializeFrameHeader order ⟨magic, version, ⟨kind⟩, length⟩ ++ payload).take 4 =
      order.bytes 4 magic.toNat := by
    simp [serializeFrameHeader]
  have hversion : ((serializeFrameHeader order ⟨magic, version, ⟨kind⟩, length⟩ ++ payload).drop 4).take 2 =
      order.bytes 2 version.toNat := by
    simp only [serializeFrameHeader, List.append_assoc]
    exact take_drop_field (ByteOrder.length_bytes _ _ _) (ByteOrder.length_bytes _ _ _)
  have hkind : ((serializeFrameHeader order ⟨magic, version, ⟨kind⟩, length⟩ ++ payload).drop 6).take 2 =
      order.bytes 2 kind.toNat := by
    simp only [serializeFrameHeader, List.append_assoc]
    rw [← List.append_assoc (order.bytes 4 _)]
    exact take_drop_field (by simp) (ByteOrder.length_bytes _ _ _)
  have hlength : ((serializeFrameHeader order ⟨magic, version, ⟨kind⟩, length⟩ ++ payload).drop 8).take 4 =
      order.bytes 4 length.toNat := by
    simp only [serializeFrameHeader]
    rw [List.append_assoc _ (order.bytes 4 length.toNat)]
    exact take_drop_field (by simp) (ByteOrder.length_bytes _ _ _)
  unfold headerOf
  rw [hmagic, hversion, hkind, hlength, ByteOrder.nat_bytes magic.toNat_lt,
    ByteOrder.nat_bytes version.toNat_lt, ByteOrder.nat_bytes kind.toNat_lt,
    ByteOrder.nat_bytes length.toNat_lt]
  simp

theorem bytes_uint32 {field : ByteBuffer} (h : field.length = 4) :
    order.bytes 4 (UInt32.ofNat (order.nat field)).toNat = field := by
  have hbound : order.nat field < 2 ^ 32 := by
    have hlt := order.nat_lt field
    rw [h] at hlt
    exact Nat.lt_of_lt_of_eq hlt rfl
  rw [UInt32.toNat_ofNat', Nat.mod_eq_of_lt hbound, ByteOrder.bytes_nat h]

theorem bytes_uint16 {field : ByteBuffer} (h : field.length = 2) :
    order.bytes 2 (UInt16.ofNat (order.nat field)).toNat = field := by
  have hbound : order.nat field < 2 ^ 16 := by
    have hlt := order.nat_lt field
    rw [h] at hlt
    exact Nat.lt_of_lt_of_eq hlt rfl
  rw [UInt16.toNat_ofNat', Nat.mod_eq_of_lt hbound, ByteOrder.bytes_nat h]

/-- Twelve bytes are the memory of the header that is read off them. -/
theorem serialize_headerOf {data : ByteBuffer} (h : data.length = kFrameHeaderSize) :
    serializeFrameHeader order (headerOf order data) = data := by
  have hsize : data.length = 12 := h
  have hmagic : (data.take 4).length = 4 := by simp; omega
  have hversion : ((data.drop 4).take 2).length = 2 := by simp; omega
  have hkind : ((data.drop 6).take 2).length = 2 := by simp; omega
  have hlength : ((data.drop 8).take 4).length = 4 := by simp; omega
  calc serializeFrameHeader order (headerOf order data)
      = data.take 4 ++ (data.drop 4).take 2 ++ (data.drop 6).take 2 ++ (data.drop 8).take 4 := by
        simp only [serializeFrameHeader, headerOf, bytes_uint32 hmagic, bytes_uint16 hversion,
          bytes_uint16 hkind, bytes_uint32 hlength]
    _ = data.take 6 ++ (data.drop 6).take 2 ++ (data.drop 8).take 4 := by rw [← List.take_add]
    _ = data.take 8 ++ (data.drop 8).take 4 := by rw [← List.take_add]
    _ = data.take 12 := by rw [← List.take_add]
    _ = data := List.take_of_length_le (by omega)

/-- A header with the right magic is recognised, whatever follows it. -/
theorem deserialize_serialize (header : FrameHeader) :
    deserializeFrameHeader order (serializeFrameHeader order header) =
      if header.magic = kFrameMagic then some header else none := by
  have hheader : headerOf order (serializeFrameHeader order header ++ []) = header :=
    headerOf_serialize header []
  rw [List.append_nil] at hheader
  unfold deserializeFrameHeader
  rw [hheader, length_serializeFrameHeader, if_neg (Nat.lt_irrefl _)]

end Codec

/-! ## Reading -/

/-- The receiving end of a connection: the bytes that still arrive, how many of them each coming `recv`
may give, and whether the other side ends the stream after them. -/
structure Stream where
  rest : ByteBuffer
  cuts : Nat → Nat
  ended : Bool

/-- What a read comes to: bytes, and the stream after them; no more bytes; or waiting for more. -/
inductive Received where
  | bytes (data : ByteBuffer) (stream : Stream)
  | failed
  | blocked

/-- A read that got a chunk before. -/
def Received.prepend (chunk : ByteBuffer) : Received → Received
  | .bytes data s => .bytes (chunk ++ data) s
  | .failed => .failed
  | .blocked => .blocked

namespace Stream

/-- The stream after its first bytes. -/
def after (s : Stream) (size : Nat) (cuts : Nat → Nat) : Stream := ⟨s.rest.drop size, cuts, s.ended⟩

/-- What there is when the bytes have run out. -/
def atEnd (s : Stream) : Received := if s.ended then .failed else .blocked

/-- `recv`, for at least one byte: it gives at least one, and no more than there are. -/
def recv (s : Stream) (size : Nat) : Received :=
  if s.rest = [] then s.atEnd
  else
    let count := min (max 1 (s.cuts 0)) (min size s.rest.length)
    .bytes (s.rest.take count) (s.after count fun i => s.cuts (i + 1))

/-- What a `recv` comes to when there are bytes. -/
theorem recv_some {s : Stream} {size : Nat} (hsize : size ≠ 0) (hrest : s.rest ≠ []) :
    ∃ count cuts, 0 < count ∧ count ≤ size ∧ count ≤ s.rest.length ∧
      s.recv size = .bytes (s.rest.take count) (s.after count cuts) := by
  have hlength : 0 < s.rest.length := List.length_pos_iff.mpr hrest
  refine ⟨min (max 1 (s.cuts 0)) (min size s.rest.length), _, ?_, ?_, ?_, if_neg hrest⟩
  · omega
  · omega
  · omega

/-- A `recv` for some bytes gives some. -/
theorem recv_pos {s s' : Stream} {size : Nat} {chunk : ByteBuffer} (hsize : size ≠ 0)
    (h : s.recv size = .bytes chunk s') : 0 < chunk.length := by
  by_cases hrest : s.rest = []
  · rw [recv, if_pos hrest, atEnd] at h
    split at h <;> cases h
  · obtain ⟨count, cuts, hpos, -, hle, hrecv⟩ := recv_some hsize hrest
    rw [hrecv] at h
    cases h
    rw [List.length_take]
    omega

/-- `ReadExact`. -/
def readExact (s : Stream) (size : Nat) : Received :=
  if _ : size = 0 then .bytes [] s
  else
    match _ : s.recv size with
    | .bytes chunk s' => (s'.readExact (size - chunk.length)).prepend chunk
    | .failed => .failed
    | .blocked => .blocked
termination_by size
decreasing_by
  rename_i hsize h
  have := recv_pos hsize h
  omega

theorem readExact_zero (s : Stream) : s.readExact 0 = .bytes [] s := by
  rw [readExact, dif_pos rfl]

/-- A read goes on after a chunk. -/
theorem readExact_of_recv {s s' : Stream} {size : Nat} {chunk : ByteBuffer} (hsize : size ≠ 0)
    (h : s.recv size = .bytes chunk s') :
    s.readExact size = (s'.readExact (size - chunk.length)).prepend chunk := by
  rw [readExact, dif_neg hsize]
  split
  · rename_i hrecv
    rw [h] at hrecv
    cases hrecv
    rfl
  · rename_i hrecv
    rw [h] at hrecv
    cases hrecv
  · rename_i hrecv
    rw [h] at hrecv
    cases hrecv

theorem readExact_at_end {s : Stream} {size : Nat} (hsize : size ≠ 0) (hrest : s.rest = []) :
    s.readExact size = s.atEnd := by
  rw [readExact, dif_neg hsize, recv, if_pos hrest, atEnd]
  cases s.ended <;> rfl

/-- However the stream is cut, a read gives the next bytes if there are as many, and runs into the end of
them otherwise. -/
theorem readExact_eq (s : Stream) (size : Nat) :
    (size ≤ s.rest.length → ∃ cuts, s.readExact size = .bytes (s.rest.take size) (s.after size cuts)) ∧
    (s.rest.length < size → s.readExact size = s.atEnd) := by
  induction size using Nat.strong_induction_on generalizing s with
  | _ size ih =>
      by_cases hsize : size = 0
      · subst hsize
        exact ⟨fun _ => ⟨s.cuts, s.readExact_zero⟩, fun h => absurd h (Nat.not_lt_zero _)⟩
      by_cases hrest : s.rest = []
      · refine ⟨fun h => ?_, fun _ => readExact_at_end hsize hrest⟩
        rw [hrest] at h
        exact absurd (Nat.le_zero.mp h) hsize
      · obtain ⟨count, cuts, hpos, hle, hle', hrecv⟩ := recv_some hsize hrest
        have hchunk : (s.rest.take count).length = count := by
          rw [List.length_take]
          omega
        have hlength : (s.after count cuts).rest.length = s.rest.length - count := List.length_drop
        obtain ⟨hmore, hless⟩ := ih (size - count) (by omega) (s.after count cuts)
        rw [hlength] at hmore hless
        rw [readExact_of_recv hsize hrecv, hchunk]
        constructor
        · intro h
          obtain ⟨cuts', hread⟩ := hmore (by omega)
          refine ⟨cuts', ?_⟩
          have hdata : s.rest.take count ++ (s.rest.drop count).take (size - count) =
              s.rest.take size := by
            rw [← List.take_add, Nat.add_sub_cancel' hle]
          have hafter : (s.after count cuts).after (size - count) cuts' = s.after size cuts' := by
            simp only [after, List.drop_drop, Nat.add_sub_cancel' hle]
          rw [hread, hafter]
          exact congrArg (Received.bytes · _) hdata
        · intro h
          rw [hless (by omega)]
          unfold atEnd after
          cases s.ended <;> rfl

/-- What a read that succeeds has taken. -/
theorem readExact_bytes {s s' : Stream} {size : Nat} {data : ByteBuffer}
    (h : s.readExact size = .bytes data s') :
    size ≤ s.rest.length ∧ data = s.rest.take size ∧ ∃ cuts, s' = s.after size cuts := by
  obtain ⟨hmore, hless⟩ := s.readExact_eq size
  by_cases hsize : size ≤ s.rest.length
  · obtain ⟨cuts, hread⟩ := hmore hsize
    rw [hread] at h
    cases h
    exact ⟨hsize, rfl, cuts, rfl⟩
  · rw [hless (by omega), atEnd] at h
    split at h <;> cases h

end Stream

/-! ## The reader -/

structure Connection where
  socketFd : Int
  closed : Bool := false
deriving DecidableEq, Repr

/-- `TcpTransport`: its connections, and which handlers are set. -/
structure TcpTransport where
  connections : ConnectionId → Option Connection
  frameHandler : Bool
  connectionEventHandler : Bool

/-- What the handlers of a transport are given. -/
inductive TransportEvent where
  | frame (frame : RawFrame)
  | disconnected (connectionId : ConnectionId)
deriving DecidableEq

namespace TcpTransport

/-- The transport without the connection. -/
def forget (transport : TcpTransport) (connectionId : ConnectionId) : TcpTransport :=
  { transport with connections := Function.update transport.connections connectionId none }

/-- `NotifyConnectionEvent` for a disconnect. -/
def notifyDisconnected (transport : TcpTransport) (connectionId : ConnectionId) : List TransportEvent :=
  if transport.connectionEventHandler then [.disconnected connectionId] else []

/-- `HandleDisconnect`. -/
def handleDisconnect (transport : TcpTransport) (connectionId : ConnectionId) (notify : Bool) :
    TcpTransport × List TransportEvent :=
  match transport.connections connectionId with
  | none => (transport, [])
  | some connection =>
      if connection.closed then (transport, [])
      else (transport.forget connectionId,
        if notify then transport.notifyDisconnected connectionId else [])

/-- The payload that a header announces. -/
def readPayload (s : Stream) (header : FrameHeader) : Received :=
  if header.length > 0 then s.readExact header.length.toNat else .bytes [] s

theorem readPayload_eq (s : Stream) (header : FrameHeader) :
    readPayload s header = s.readExact header.length.toNat := by
  unfold readPayload
  split
  · rfl
  · rename_i hzero
    have hlength : header.length.toNat = 0 := by
      have := UInt32.lt_iff_toNat_lt.not.mp hzero
      simpa using this
    rw [hlength, Stream.readExact_zero]

/-- `ReaderLoop`, up to where it ends or waits. -/
def readerLoop (order : ByteOrder) (transport : TcpTransport) (connectionId : ConnectionId) (s : Stream) :
    TcpTransport × List TransportEvent :=
  match transport.connections connectionId with
  | none => (transport, [])
  | some connection =>
      if connection.closed then (transport, [])
      else
        match _ : s.readExact kFrameHeaderSize with
        | .blocked => (transport, [])
        | .failed => transport.handleDisconnect connectionId true
        | .bytes headerBytes s' =>
            match deserializeFrameHeader order headerBytes with
            | none => transport.handleDisconnect connectionId true
            | some header =>
                match _ : readPayload s' header with
                | .blocked => (transport, [])
                | .failed => transport.handleDisconnect connectionId true
                | .bytes payload s'' =>
                    let later := readerLoop order transport connectionId s''
                    if transport.frameHandler then
                      (later.1, .frame ⟨connectionId, header, payload⟩ :: later.2)
                    else later
termination_by s.rest.length
decreasing_by
  rename_i hheader hpayload
  obtain ⟨hle, -, cuts, rfl⟩ := Stream.readExact_bytes hheader
  rw [readPayload_eq] at hpayload
  obtain ⟨-, -, cuts', rfl⟩ := Stream.readExact_bytes hpayload
  simp only [Stream.after, List.length_drop, kFrameHeaderSize] at hle ⊢
  omega

end TcpTransport

/-! ## What the reader makes of a stream -/

/-- The bytes of a frame on the wire. -/
def RawFrame.bytes (order : ByteOrder) (frame : RawFrame) : ByteBuffer :=
  serializeFrameHeader order frame.header ++ frame.payload

/-- A frame of this protocol that has the payload that its header announces. -/
structure RawFrame.Valid (frame : RawFrame) : Prop where
  magic : frame.header.magic = kFrameMagic
  length : frame.header.length.toNat = frame.payload.length

/-- The bytes of frames, one after the other. -/
def frameBytes (order : ByteOrder) (frames : List RawFrame) : ByteBuffer :=
  frames.flatMap (RawFrame.bytes order)

/-- These bytes do not begin with a complete valid frame. -/
def Incomplete (order : ByteOrder) (rest : ByteBuffer) : Prop :=
  ∀ frame : RawFrame, frame.Valid → ¬ frame.bytes order <+: rest

/-- These bytes begin with a header that has another magic. -/
def BadMagic (order : ByteOrder) (rest : ByteBuffer) : Prop :=
  kFrameHeaderSize ≤ rest.length ∧ (headerOf order (rest.take kFrameHeaderSize)).magic ≠ kFrameMagic

instance (order : ByteOrder) (rest : ByteBuffer) : Decidable (BadMagic order rest) :=
  inferInstanceAs (Decidable (_ ∧ _))

section Reader

variable {order : ByteOrder} {rest : ByteBuffer}

/-- What a frame at the beginning of some bytes says of them. -/
theorem prefix_frame {frame : RawFrame} (h : frame.bytes order <+: rest) :
    kFrameHeaderSize + frame.payload.length ≤ rest.length ∧
      headerOf order (rest.take kFrameHeaderSize) = frame.header ∧
      (rest.drop kFrameHeaderSize).take frame.payload.length = frame.payload := by
  obtain ⟨after, rfl⟩ := h
  have hsize : (serializeFrameHeader order frame.header).length = kFrameHeaderSize :=
    length_serializeFrameHeader _
  unfold RawFrame.bytes
  rw [List.append_assoc]
  refine ⟨?_, ?_, ?_⟩
  · simp only [List.length_append, hsize]
    omega
  · rw [← hsize, List.take_left, ← List.append_nil (serializeFrameHeader order frame.header),
      headerOf_serialize]
  · rw [← hsize, List.drop_left, List.take_left]

/-- A valid frame begins with its magic, and is no longer than its header says. -/
theorem incomplete_of_short (h : rest.length < kFrameHeaderSize) : Incomplete order rest := by
  intro frame _ hprefix
  obtain ⟨hlength, -, -⟩ := prefix_frame hprefix
  omega

theorem incomplete_of_badMagic (h : BadMagic order rest) : Incomplete order rest := by
  intro frame hvalid hprefix
  obtain ⟨-, hheader, -⟩ := prefix_frame hprefix
  exact h.2 (hheader ▸ hvalid.magic)

theorem incomplete_of_short_payload
    (h : rest.length < kFrameHeaderSize + (headerOf order (rest.take kFrameHeaderSize)).length.toNat) :
    Incomplete order rest := by
  intro frame hvalid hprefix
  obtain ⟨hlength, hheader, -⟩ := prefix_frame hprefix
  rw [hheader, hvalid.length] at h
  omega

/-- The frame that the reader takes off some bytes. -/
theorem frame_at (connectionId : ConnectionId)
    (hmagic : (headerOf order (rest.take kFrameHeaderSize)).magic = kFrameMagic)
    (hlength : kFrameHeaderSize + (headerOf order (rest.take kFrameHeaderSize)).length.toNat ≤
      rest.length) :
    ∃ frame : RawFrame, frame = ⟨connectionId, headerOf order (rest.take kFrameHeaderSize),
        (rest.drop kFrameHeaderSize).take (headerOf order (rest.take kFrameHeaderSize)).length.toNat⟩ ∧
      frame.Valid ∧ frame.bytes order ++ rest.drop (kFrameHeaderSize +
        (headerOf order (rest.take kFrameHeaderSize)).length.toNat) = rest := by
  refine ⟨_, rfl, ⟨hmagic, ?_⟩, ?_⟩
  · show (headerOf order (rest.take kFrameHeaderSize)).length.toNat = (List.take _ _).length
    rw [List.length_take, List.length_drop]
    omega
  · unfold RawFrame.bytes
    rw [serialize_headerOf (by rw [List.length_take]; omega), ← List.take_add, List.take_append_drop]

/-- The transport has the connection, and both handlers are set. -/
structure TcpTransport.Serves (transport : TcpTransport) (connectionId : ConnectionId) : Prop where
  open_ : ∃ socketFd, transport.connections connectionId = some ⟨socketFd, false⟩
  frameHandler : transport.frameHandler = true
  connectionEventHandler : transport.connectionEventHandler = true

/-- What the reader leaves and hands over after these frames. -/
def outcome (transport : TcpTransport) (connectionId : ConnectionId) (frames : List RawFrame)
    (disconnects : Bool) : TcpTransport × List TransportEvent :=
  if disconnects then
    (transport.forget connectionId, frames.map .frame ++ [.disconnected connectionId])
  else (transport, frames.map .frame)

/-- One frame more. -/
theorem outcome_cons (transport : TcpTransport) (connectionId : ConnectionId) (frame : RawFrame)
    (frames : List RawFrame) (disconnects : Bool) :
    outcome transport connectionId (frame :: frames) disconnects =
      ((outcome transport connectionId frames disconnects).1,
        .frame frame :: (outcome transport connectionId frames disconnects).2) := by
  unfold outcome
  split <;> rfl

variable {transport : TcpTransport} {connectionId : ConnectionId} {s : Stream}

theorem handleDisconnect_serves (h : transport.Serves connectionId) :
    transport.handleDisconnect connectionId true = outcome transport connectionId [] true := by
  obtain ⟨⟨socketFd, hopen⟩, -, hevents⟩ := h
  unfold TcpTransport.handleDisconnect TcpTransport.notifyDisconnected
  rw [hopen, hevents]
  rfl

/-! ### One round of the reader -/

/-- One round: a header, its payload, and the frame that they are. -/
theorem readerLoop_eq (h : transport.Serves connectionId) :
    transport.readerLoop order connectionId s =
      match s.readExact kFrameHeaderSize with
      | .blocked => (transport, [])
      | .failed => outcome transport connectionId [] true
      | .bytes headerBytes s' =>
          match deserializeFrameHeader order headerBytes with
          | none => outcome transport connectionId [] true
          | some header =>
              match s'.readExact header.length.toNat with
              | .blocked => (transport, [])
              | .failed => outcome transport connectionId [] true
              | .bytes payload s'' =>
                  ((transport.readerLoop order connectionId s'').1,
                    .frame ⟨connectionId, header, payload⟩ :: (transport.readerLoop order connectionId s'').2) := by
  obtain ⟨⟨socketFd, hopen⟩, hframes, -⟩ := id h
  rw [TcpTransport.readerLoop, hopen]
  dsimp only
  rw [if_neg Bool.false_ne_true, handleDisconnect_serves h]
  split
  · next hread => rw [hread]
  · next hread => rw [hread]
  · next hread =>
    rw [hread]
    dsimp only
    cases deserializeFrameHeader order _ with
    | none => rfl
    | some header =>
        dsimp only
        split
        · next hpayload =>
          rw [TcpTransport.readPayload_eq] at hpayload
          rw [hpayload]
        · next hpayload =>
          rw [TcpTransport.readPayload_eq] at hpayload
          rw [hpayload]
        · next hpayload =>
          rw [TcpTransport.readPayload_eq] at hpayload
          rw [hpayload, if_pos hframes]

/-- No header comes any more. -/
theorem readerLoop_at_end (h : transport.Serves connectionId)
    (hread : s.readExact kFrameHeaderSize = s.atEnd) :
    transport.readerLoop order connectionId s = outcome transport connectionId [] s.ended := by
  rw [readerLoop_eq h, hread]
  unfold Stream.atEnd
  cases s.ended with
  | true => rfl
  | false => rfl

/-- A header comes, and is no header of this protocol. -/
theorem readerLoop_bad_header (h : transport.Serves connectionId) {data : ByteBuffer} {s' : Stream}
    (hread : s.readExact kFrameHeaderSize = .bytes data s')
    (hheader : deserializeFrameHeader order data = none) :
    transport.readerLoop order connectionId s = outcome transport connectionId [] true := by
  rw [readerLoop_eq h, hread]
  dsimp only
  rw [hheader]

/-- A header comes, and not all of its payload. -/
theorem readerLoop_payload_at_end (h : transport.Serves connectionId) {data : ByteBuffer} {s' : Stream}
    {header : FrameHeader} (hread : s.readExact kFrameHeaderSize = .bytes data s')
    (hheader : deserializeFrameHeader order data = some header)
    (hpayload : s'.readExact header.length.toNat = s'.atEnd) :
    transport.readerLoop order connectionId s = outcome transport connectionId [] s'.ended := by
  rw [readerLoop_eq h, hread]
  dsimp only
  rw [hheader]
  dsimp only
  rw [hpayload]
  unfold Stream.atEnd
  cases s'.ended with
  | true => rfl
  | false => rfl

/-- A frame comes. -/
theorem readerLoop_frame (h : transport.Serves connectionId) {data payload : ByteBuffer} {s' s'' : Stream}
    {header : FrameHeader} (hread : s.readExact kFrameHeaderSize = .bytes data s')
    (hheader : deserializeFrameHeader order data = some header)
    (hpayload : s'.readExact header.length.toNat = .bytes payload s'') :
    transport.readerLoop order connectionId s =
      ((transport.readerLoop order connectionId s'').1,
        .frame ⟨connectionId, header, payload⟩ :: (transport.readerLoop order connectionId s'').2) := by
  rw [readerLoop_eq h, hread]
  dsimp only
  rw [hheader]
  dsimp only
  rw [hpayload]

variable (order) in
/-- **What the reader makes of a stream**, however it is cut: it hands over the frames of the longest
prefix of complete valid frames, and disconnects once if a bad magic follows or the stream ends. -/
theorem readerLoop_spec (h : transport.Serves connectionId) (s : Stream) :
    ∃ frames rest, s.rest = frameBytes order frames ++ rest ∧
      (∀ frame ∈ frames, frame.Valid ∧ frame.connectionId = connectionId) ∧ Incomplete order rest ∧
      transport.readerLoop order connectionId s =
        outcome transport connectionId frames (s.ended || decide (BadMagic order rest)) := by
  obtain ⟨size, hsize⟩ : ∃ size, size = s.rest.length := ⟨_, rfl⟩
  induction size using Nat.strong_induction_on generalizing s with
  | _ size ih =>
      obtain ⟨hmore, hless⟩ := s.readExact_eq kFrameHeaderSize
      by_cases hshort : s.rest.length < kFrameHeaderSize
      · -- less than a header
        have hgood : ¬ BadMagic order s.rest := fun hbad => absurd hbad.1 (by omega)
        refine ⟨[], s.rest, rfl, by simp, incomplete_of_short hshort, ?_⟩
        rw [decide_eq_false hgood, Bool.or_false]
        exact readerLoop_at_end h (hless hshort)
      obtain ⟨cuts, hread⟩ := hmore (by omega)
      have hdata : (s.rest.take kFrameHeaderSize).length = kFrameHeaderSize := by
        rw [List.length_take]
        omega
      have hheader : deserializeFrameHeader order (s.rest.take kFrameHeaderSize) =
          if (headerOf order (s.rest.take kFrameHeaderSize)).magic = kFrameMagic then
            some (headerOf order (s.rest.take kFrameHeaderSize)) else none := by
        unfold deserializeFrameHeader
        rw [if_neg (by omega)]
      by_cases hmagic : (headerOf order (s.rest.take kFrameHeaderSize)).magic = kFrameMagic
      case neg =>
        have hbad : BadMagic order s.rest := ⟨by omega, hmagic⟩
        refine ⟨[], s.rest, rfl, by simp, incomplete_of_badMagic hbad, ?_⟩
        rw [decide_eq_true hbad, Bool.or_true]
        exact readerLoop_bad_header h hread (hheader.trans (if_neg hmagic))
      have hgood : ¬ BadMagic order s.rest := fun hbad => hbad.2 hmagic
      have hheader := hheader.trans (if_pos hmagic)
      obtain ⟨hmore', hless'⟩ := (s.after kFrameHeaderSize cuts).readExact_eq
        (headerOf order (s.rest.take kFrameHeaderSize)).length.toNat
      have hafter : (s.after kFrameHeaderSize cuts).rest.length = s.rest.length - kFrameHeaderSize :=
        List.length_drop
      rw [hafter] at hmore' hless'
      by_cases hpayload : kFrameHeaderSize +
          (headerOf order (s.rest.take kFrameHeaderSize)).length.toNat ≤ s.rest.length
      case neg =>
        -- less than the payload
        refine ⟨[], s.rest, rfl, by simp, incomplete_of_short_payload (by omega), ?_⟩
        rw [decide_eq_false hgood, Bool.or_false]
        show _ = outcome transport connectionId [] (s.after kFrameHeaderSize cuts).ended
        exact readerLoop_payload_at_end h hread hheader (hless' (by omega))
      obtain ⟨cuts', hread'⟩ := hmore' (by omega)
      obtain ⟨frame, hframe, hvalid, hbytes⟩ := frame_at connectionId hmagic hpayload
      obtain ⟨later, hlater⟩ : ∃ later, later = (s.after kFrameHeaderSize cuts).after
        (headerOf order (s.rest.take kFrameHeaderSize)).length.toNat cuts' := ⟨_, rfl⟩
      rw [← hlater] at hread'
      have hrest : later.rest = s.rest.drop (kFrameHeaderSize +
          (headerOf order (s.rest.take kFrameHeaderSize)).length.toNat) := by
        rw [hlater]
        exact List.drop_drop
      have hended : later.ended = s.ended := by rw [hlater]; rfl
      have hlength : later.rest.length < size := by
        rw [hrest, List.length_drop, hsize]
        have hpos : 0 < kFrameHeaderSize := by decide
        omega
      obtain ⟨frames, rest, hsplit, hall, hincomplete, hloop⟩ := ih _ hlength later rfl
      refine ⟨frame :: frames, rest, ?_, ?_, hincomplete, ?_⟩
      · rw [← hbytes, ← hrest, hsplit, frameBytes, frameBytes, List.flatMap_cons, List.append_assoc]
      · intro frame' hmem
        rcases List.mem_cons.mp hmem with rfl | hmem
        · exact ⟨hvalid, by rw [hframe]⟩
        · exact hall frame' hmem
      · rw [readerLoop_frame h hread hheader hread', hloop, hended, outcome_cons, hframe]
        rfl

/-! ### A stream of frames -/

/-- A frame as it is handed over for this connection. -/
def RawFrame.on (connectionId : ConnectionId) (frame : RawFrame) : RawFrame :=
  { frame with connectionId }

/-- Two frames at the beginning of the same bytes are the same, but for the connection. -/
theorem frame_unique {frame frame' : RawFrame} (hvalid : frame.Valid) (hvalid' : frame'.Valid)
    (h : frame.bytes order <+: rest) (h' : frame'.bytes order <+: rest) :
    frame = frame'.on frame.connectionId := by
  obtain ⟨-, hheader, hpayload⟩ := prefix_frame h
  obtain ⟨-, hheader', hpayload'⟩ := prefix_frame h'
  have hsame : frame.header = frame'.header := hheader.symm.trans hheader'
  have hlength : frame.payload.length = frame'.payload.length := by
    rw [← hvalid.length, ← hvalid'.length, hsame]
  rw [hlength, hpayload'] at hpayload
  obtain ⟨id, header, payload⟩ := frame
  obtain ⟨id', header', payload'⟩ := frame'
  cases hsame
  cases hpayload
  rfl

/-- The frames of a stream that nothing else is in. -/
theorem frames_unique {frames sent : List RawFrame}
    (hframes : ∀ frame ∈ frames, frame.Valid ∧ frame.connectionId = connectionId)
    (hsent : ∀ frame ∈ sent, frame.Valid) (hrest : Incomplete order rest)
    (h : frameBytes order frames ++ rest = frameBytes order sent) :
    frames = sent.map (RawFrame.on connectionId) ∧ rest = [] := by
  -- induction on the frames sent: both streams begin with the same frame
  induction sent generalizing frames with
  | nil =>
      obtain ⟨hnone, hempty⟩ := List.append_eq_nil_iff.mp h
      cases frames with
      | nil => exact ⟨rfl, hempty⟩
      | cons frame frames =>
          have hbytes : frame.bytes order = [] := (List.append_eq_nil_iff.mp hnone).1
          have hheader := congrArg List.length (List.append_eq_nil_iff.mp hbytes).1
          rw [length_serializeFrameHeader] at hheader
          exact absurd hheader (by decide)
  | cons frame' sent ih =>
      have hvalid' := hsent frame' List.mem_cons_self
      have hprefix' : frame'.bytes order <+: frameBytes order (frame' :: sent) :=
        ⟨frameBytes order sent, rfl⟩
      cases frames with
      | nil =>
          rw [← h] at hprefix'
          exact absurd hprefix' (hrest frame' hvalid')
      | cons frame frames =>
          obtain ⟨hvalid, hid⟩ := hframes frame List.mem_cons_self
          have hprefix : frame.bytes order <+: frameBytes order (frame' :: sent) := by
            rw [← h]
            exact ⟨frameBytes order frames ++ rest, (List.append_assoc _ _ _).symm⟩
          have hframe := frame_unique hvalid hvalid' hprefix hprefix'
          rw [hid] at hframe
          have hsame : frame.bytes order = frame'.bytes order := by
            rw [hframe]
            rfl
          have hlater : frameBytes order frames ++ rest = frameBytes order sent := by
            have hall : frame.bytes order ++ (frameBytes order frames ++ rest) =
                frame'.bytes order ++ frameBytes order sent := by
              rw [← List.append_assoc]
              exact h
            rw [hsame] at hall
            exact List.append_cancel_left hall
          obtain ⟨hframes', hempty⟩ := ih (fun f hf => hframes f (List.mem_cons_of_mem _ hf))
            (fun f hf => hsent f (List.mem_cons_of_mem _ hf)) hlater
          refine ⟨?_, hempty⟩
          rw [List.map_cons, ← hframe, ← hframes']

/-- From a stream of valid frames, however it is cut, the reader hands over exactly these frames. -/
theorem readerLoop_frames (h : transport.Serves connectionId) {sent : List RawFrame}
    (hsent : ∀ frame ∈ sent, frame.Valid) (hs : s.rest = frameBytes order sent) :
    transport.readerLoop order connectionId s =
      outcome transport connectionId (sent.map (RawFrame.on connectionId)) s.ended := by
  obtain ⟨frames, rest, hsplit, hframes, hrest, hloop⟩ := readerLoop_spec order h s
  obtain ⟨hsame, hempty⟩ := frames_unique hframes hsent hrest (hsplit.symm.trans hs)
  have hgood : ¬ BadMagic order rest := by
    rw [hempty]
    exact fun hbad => absurd hbad.1 (by decide)
  rw [hloop, hsame, decide_eq_false hgood, Bool.or_false]

end Reader

end SomeServer
