/-
# SomeServer.Ipc.Sends — frames written piece by piece

`TcpTransport::Send` and `GateConnectionService::Send` look the socket up under their mutex and then write
a header and a payload without it, each by as many `send` calls as it takes. `SocketAct` has the steps that
other threads may come between; the machine keeps, for each descriptor, the bytes that have been written.
A `send` is answered by the number of bytes it took, at least one and no more than it was given, or fails.

`last_send_time_ms`, which the gate sets afterwards, is not read by any modelled function.
-/
import SomeServer.Ipc.Frames
import SomeServer.Lib.Sequential
import SomeServer.Lib.Writers

namespace SomeServer

open Lib

/-! ## The sockets -/

/-- A connection of the transport, or one of a client of the gate. -/
inductive Endpoint where
  | link (connectionId : ConnectionId)
  | client (connectionId : UInt64)
deriving DecidableEq

/-- What is to be sent: a frame on a link, or a message to a client. -/
inductive SendOp where
  | frame (frame : RawFrame)
  | message (connectionId : UInt64) (messageId : UInt32) (payload : ByteBuffer)
deriving DecidableEq

namespace SendOp

def endpoint : SendOp → Endpoint
  | frame f => .link f.connectionId
  | message connectionId _ _ => .client connectionId

def header (order : ByteOrder) : SendOp → ByteBuffer
  | frame f => serializeFrameHeader order f.header
  | message _ messageId payload =>
      order.bytes 4 messageId.toNat ++ order.bytes 4 (UInt32.ofNat payload.length).toNat

def payload : SendOp → ByteBuffer
  | frame f => f.payload
  | message _ _ payload => payload

/-- The bytes of what is sent, on the wire. -/
def bytes (order : ByteOrder) (op : SendOp) : ByteBuffer := op.header order ++ op.payload

theorem header_pos (order : ByteOrder) (op : SendOp) : 0 < (op.header order).length := by
  cases op with
  | frame f =>
      show 0 < (serializeFrameHeader order f.header).length
      rw [length_serializeFrameHeader]
      decide
  | message connectionId messageId payload =>
      simp [header]

end SendOp

/-- The connections of the process, and what has been written to its descriptors. -/
structure Sockets where
  transport : TcpTransport
  socketByConnectionId : UInt64 → Option Int
  streams : Int → ByteBuffer

namespace Sockets

/-- The descriptor that a send finds for a connection. -/
def socketOf (s : Sockets) : Endpoint → Option Int
  | .link connectionId =>
      (s.transport.connections connectionId).bind fun connection =>
        if connection.closed then none else some connection.socketFd
  | .client connectionId => s.socketByConnectionId connectionId

/-- No descriptor has two connections. -/
def Distinct (s : Sockets) : Prop :=
  ∀ e e' fd, s.socketOf e = some fd → s.socketOf e' = some fd → e = e'

/-- Bytes have been written to a descriptor. -/
def append (s : Sockets) (fd : Int) (data : ByteBuffer) : Sockets :=
  { s with streams := Function.update s.streams fd (s.streams fd ++ data) }

@[simp] theorem append_socketOf (s : Sockets) (fd : Int) (data : ByteBuffer) :
    (s.append fd data).socketOf = s.socketOf := by
  funext e
  cases e <;> rfl

@[simp] theorem append_streams (s : Sockets) (fd : Int) (data : ByteBuffer) :
    (s.append fd data).streams = Function.update s.streams fd (s.streams fd ++ data) := rfl

theorem append_nil (s : Sockets) (fd : Int) : s.append fd [] = s := by
  simp [append]

theorem append_append (s : Sockets) (fd : Int) (data data' : ByteBuffer) :
    (s.append fd data).append fd data' = s.append fd (data ++ data') := by
  simp [append, List.append_assoc]

end Sockets

/-! ## The steps of a send -/

inductive SocketAct where
  /-- The lookup of the socket, under the mutex. -/
  | find (op : SendOp)
  | send (fd : Int) (buffer : ByteBuffer)
  /-- `HandleDisconnect`, and the text of `errno` after it. -/
  | disconnect (connectionId : ConnectionId)

@[reducible] def SocketAct.Reply : SocketAct → Type
  | find _ => Option Int
  | send _ buffer => Option {count : Nat // 0 < count ∧ count ≤ buffer.length}
  | disconnect _ => String

abbrev SocketCall (α : Type) : Type := Prog SocketAct SocketAct.Reply α

abbrev socketCall (e : SocketAct) : SocketCall (e.Reply) := Prog.call e

/-- What the system answers: the number that a `send` returns, or the text of an error. -/
structure SocketInput where
  rc : Int := 0
  error : String := ""

/-- The sockets of a process whose threads send. -/
def socketMachine (T : Type) : Machine T SocketAct SocketAct.Reply SocketInput Sockets where
  exec _ e i s := match e with
    | .find op => some (s, s.socketOf op.endpoint)
    | .send fd buffer =>
        if i.rc ≤ 0 then some (s, none)
        else if h : 0 < i.rc.toNat ∧ i.rc.toNat ≤ buffer.length then
          some (s.append fd (buffer.take i.rc.toNat), some ⟨i.rc.toNat, h⟩)
        else none
    | .disconnect connectionId =>
        some ({ s with transport := (s.transport.handleDisconnect connectionId true).1 }, i.error)

/-- The loop of `WriteExact`, for at most this many calls. -/
def writeLoop (fd : Int) : Nat → ByteBuffer → SocketCall Bool
  | 0, _ => .ret true
  | calls + 1, buffer =>
      if buffer = [] then .ret true
      else .act (.send fd buffer) fun
        | none => .ret false
        | some count => writeLoop fd calls (buffer.drop count.1)

/-- `WriteExact`; it takes no more calls than there are bytes. -/
def writeExact (fd : Int) (buffer : ByteBuffer) : SocketCall Bool := writeLoop fd buffer.length buffer

/-- The two parts of a frame. -/
inductive FramePart where
  | header
  | payload
deriving DecidableEq

def FramePart.text : FramePart → String
  | header => "header"
  | payload => "payload"

/-- The header and then the payload, unless it is empty; the part that could not be written. -/
def writeFrame (fd : Int) (header payload : ByteBuffer) : SocketCall (Option FramePart) := do
  if !(← writeExact fd header) then return some .header
  if payload = [] then return none
  if !(← writeExact fd payload) then return some .payload
  return none

/-- `TcpTransport::Send`. -/
def TcpTransport.send (order : ByteOrder) (frame : RawFrame) : SocketCall Result := do
  match ← socketCall (.find (.frame frame)) with
  | none => return .failure "connection not found"
  | some fd =>
      match ← writeFrame fd (serializeFrameHeader order frame.header) frame.payload with
      | none => return .success
      | some part =>
          let error ← socketCall (.disconnect frame.connectionId)
          return .failure ("send " ++ part.text ++ ": " ++ error)

/-- `GateConnectionService::Send`, call by call; in `Gate.Process` it is one section. -/
def GateConnectionService.sendBytes (order : ByteOrder) (connectionId : UInt64) (messageId : UInt32)
    (payload : ByteBuffer) : SocketCall Result := do
  match ← socketCall (.find (.message connectionId messageId payload)) with
  | none => return .failure "connection socket does not exist"
  | some fd =>
      match ← writeFrame fd (order.bytes 4 messageId.toNat ++
          order.bytes 4 (UInt32.ofNat payload.length).toNat) payload with
      | none => return .success
      | some part => return .failure ("failed to send frame " ++ part.text)

/-- `FlushLinkFrames`, for the frames that it drains: one is sent after the other, whatever becomes of
it. -/
def flushLinkFrames (order : ByteOrder) : List RawFrame → SocketCall Unit
  | [] => return ()
  | frame :: frames => do
      let _ ← TcpTransport.send order frame
      flushLinkFrames order frames

/-! ## One sender -/

section Sender

variable {T α : Type} {t : T} {order : ByteOrder} {s : Sockets} {fd : Int}

/-- Every `send` takes some of its buffer. -/
def TakesSome (e : SocketAct) (i : SocketInput) (_ : Sockets) : Prop :=
  ∀ fd buffer, e = .send fd buffer → 0 < i.rc ∧ i.rc ≤ buffer.length

/-- What a `send` that takes some does. -/
theorem exec_send {buffer : ByteBuffer} {i : SocketInput} (h : TakesSome (.send fd buffer) i s) :
    ∃ count : {count : Nat // 0 < count ∧ count ≤ buffer.length},
      (socketMachine T).exec t (.send fd buffer) i s = some (s.append fd (buffer.take count.1), some count) := by
  obtain ⟨hpos, hle⟩ := h fd buffer rfl
  have hcount : 0 < i.rc.toNat ∧ i.rc.toNat ≤ buffer.length := by omega
  refine ⟨⟨i.rc.toNat, hcount⟩, ?_⟩
  show (if i.rc ≤ 0 then _ else if h : 0 < i.rc.toNat ∧ i.rc.toNat ≤ buffer.length then _ else _) = _
  rw [if_neg (by omega), dif_pos hcount]

theorem writeExact_nil (fd : Int) : writeExact fd [] = .ret true := rfl

theorem writeLoop_act (fd : Int) (calls : Nat) {buffer : ByteBuffer} (h : buffer ≠ []) :
    writeLoop fd (calls + 1) buffer = .act (.send fd buffer) fun
      | none => .ret false
      | some count => writeLoop fd calls (buffer.drop count.1) := by
  rw [writeLoop, if_neg h]

/-- More calls than there are bytes are not made. -/
theorem writeLoop_congr (fd : Int) {calls calls' : Nat} {buffer : ByteBuffer} (h : buffer.length ≤ calls)
    (h' : buffer.length ≤ calls') : writeLoop fd calls buffer = writeLoop fd calls' buffer := by
  induction calls generalizing calls' buffer with
  | zero =>
      rw [List.length_eq_zero_iff.mp (Nat.le_zero.mp h)]
      cases calls' <;> rfl
  | succ calls ih =>
      cases calls' with
      | zero =>
          rw [List.length_eq_zero_iff.mp (Nat.le_zero.mp h')]
          rfl
      | succ calls' =>
          by_cases hbuffer : buffer = []
          · rw [hbuffer]
            rfl
          · rw [writeLoop_act fd calls hbuffer, writeLoop_act fd calls' hbuffer]
            congr 1
            funext r
            cases r with
            | none => rfl
            | some count =>
                have := count.2
                have hdrop : (buffer.drop count.1).length = buffer.length - count.1 := List.length_drop
                exact ih (by omega) (by omega)

theorem writeExact_act (fd : Int) {buffer : ByteBuffer} (h : buffer ≠ []) :
    writeExact fd buffer = .act (.send fd buffer) fun
      | none => .ret false
      | some count => writeExact fd (buffer.drop count.1) := by
  obtain ⟨calls, hcalls⟩ := Nat.exists_eq_succ_of_ne_zero fun hzero => h (List.length_eq_zero_iff.mp hzero)
  have hloop : writeExact fd buffer = writeLoop fd (calls + 1) buffer :=
    writeLoop_congr fd (Nat.le_refl _) (Nat.le_of_eq hcalls)
  rw [hloop, writeLoop_act fd calls h]
  congr 1
  funext r
  cases r with
  | none => rfl
  | some count =>
      have := count.2
      have hdrop : (buffer.drop count.1).length = buffer.length - count.1 := List.length_drop
      exact writeLoop_congr fd (by omega) (Nat.le_refl _)

/-- However the calls cut it, the whole buffer is written. -/
theorem writeExact_ends {Q : Bool → Sockets → Prop} {buffer : ByteBuffer}
    (hQ : Q true (s.append fd buffer)) :
    (writeExact fd buffer).Ends (socketMachine T) t TakesSome Q s := by
  obtain ⟨size, hsize⟩ : ∃ size, size = buffer.length := ⟨_, rfl⟩
  induction size using Nat.strong_induction_on generalizing buffer s with
  | _ size ih =>
      by_cases hbuffer : buffer = []
      · subst hbuffer
        rw [writeExact_nil]
        rwa [Sockets.append_nil] at hQ
      · rw [writeExact_act fd hbuffer]
        intro i hi
        obtain ⟨count, hexec⟩ := exec_send (T := T) (t := t) hi
        refine ⟨_, _, hexec, ?_⟩
        have hlength : (buffer.drop count.1).length < size := by
          have := count.2
          rw [List.length_drop]
          omega
        refine ih _ hlength ?_ rfl
        rwa [Sockets.append_append, List.take_append_drop]

theorem writeFrame_ends {Q : Option FramePart → Sockets → Prop} {header payload : ByteBuffer}
    (hQ : Q none (s.append fd (header ++ payload))) :
    (writeFrame fd header payload).Ends (socketMachine T) t TakesSome Q s := by
  refine Prog.Ends.bind (writeExact_ends ?_)
  show Prog.Ends _ _ _ _ (if payload = [] then _ else _) _
  split
  · rename_i hempty
    rwa [hempty, List.append_nil] at hQ
  · refine Prog.Ends.bind (writeExact_ends ?_)
    rwa [Sockets.append_append]

/-- A frame that is sent on an open connection is written as a whole. -/
theorem send_ends {Q : Result → Sockets → Prop} {frame : RawFrame}
    (hfd : s.socketOf (.link frame.connectionId) = some fd)
    (hQ : Q .success (s.append fd (frame.bytes order))) :
    (TcpTransport.send order frame).Ends (socketMachine T) t TakesSome Q s := by
  refine Prog.Ends.seq (fun i _ => ⟨_, _, rfl⟩) ?_
  intro i s' r _ hexec
  cases hexec
  rw [show SendOp.endpoint (.frame frame) = .link frame.connectionId from rfl, hfd]
  exact Prog.Ends.bind (writeFrame_ends hQ)

/-- Frames that are sent one after the other are written one after the other. -/
theorem flushLinkFrames_ends {Q : Unit → Sockets → Prop} {connectionId : ConnectionId}
    {frames : List RawFrame} (hframes : ∀ frame ∈ frames, frame.connectionId = connectionId)
    (hfd : s.socketOf (.link connectionId) = some fd)
    (hQ : Q () (s.append fd (frameBytes order frames))) :
    (flushLinkFrames order frames).Ends (socketMachine T) t TakesSome Q s := by
  induction frames generalizing s with
  | nil => rwa [frameBytes, List.flatMap_nil, Sockets.append_nil] at hQ
  | cons frame frames ih =>
      have hid := hframes frame List.mem_cons_self
      refine Prog.Ends.bind (send_ends (by rw [hid]; exact hfd) ?_)
      refine ih (fun f hf => hframes f (List.mem_cons_of_mem _ hf)) ?_ ?_
      · rw [Sockets.append_socketOf]
        exact hfd
      · rwa [Sockets.append_append]

/-- **The frame stream is faithful.** Frames that are sent one after the other, however the calls write
them, are what the reader at the other end hands over, however they arrive. From any other stream the
reader hands over the longest prefix of complete valid frames, and disconnects once if the stream is
truncated or goes on with a bad magic. -/
theorem frame_stream_faithful (T : Type) (t : T) (order : ByteOrder) {reader : TcpTransport}
    {connectionId : ConnectionId} (hreader : reader.Serves connectionId) :
    (∀ (frames : List RawFrame) (id : ConnectionId) (s : Sockets) (fd : Int),
      (∀ frame ∈ frames, frame.Valid ∧ frame.connectionId = id) → s.socketOf (.link id) = some fd →
      s.streams fd = [] →
      (flushLinkFrames order frames).Ends (socketMachine T) t TakesSome (fun _ s' =>
        ∀ stream : Stream, stream.rest = s'.streams fd →
          reader.readerLoop order connectionId stream =
            outcome reader connectionId (frames.map (RawFrame.on connectionId)) stream.ended) s) ∧
    ∀ stream : Stream, ∃ frames rest, stream.rest = frameBytes order frames ++ rest ∧
      (∀ frame ∈ frames, frame.Valid ∧ frame.connectionId = connectionId) ∧ Incomplete order rest ∧
      reader.readerLoop order connectionId stream =
        outcome reader connectionId frames (stream.ended || decide (BadMagic order rest)) := by
  refine ⟨?_, readerLoop_spec order hreader⟩
  intro frames id s fd hframes hfd hempty
  refine flushLinkFrames_ends (fun frame hframe => (hframes frame hframe).2) hfd ?_
  intro stream hstream
  rw [Sockets.append_streams, Function.update_self, hempty, List.nil_append] at hstream
  exact readerLoop_frames hreader (fun frame hframe => (hframes frame hframe).1) hstream

/-- A transport with one connection. -/
def oneConnection : TcpTransport where
  connections := Function.update (fun _ => none) 7 (some ⟨5, false⟩)
  frameHandler := true
  connectionEventHandler := true

/-- A data frame on that connection. -/
def oneFrame : RawFrame := ⟨7, { kind := .data, length := 2 }, [1, 2]⟩

/-- A stream breaks off in its second header: the frame before it is handed over, and the reader disconnects
once. -/
theorem frame_stream_faithful_truncated :
    oneConnection.readerLoop .little 7 ⟨oneFrame.bytes .little ++ [0x43, 0x50, 0x49], fun _ => 2, true⟩ =
      (oneConnection.forget 7, [.frame oneFrame, .disconnected 7]) := by
  have hserves : oneConnection.Serves 7 := ⟨⟨5, rfl⟩, rfl, rfl⟩
  obtain ⟨frames, rest, hrest, hframes, hincomplete, hloop⟩ :=
    (frame_stream_faithful Unit () .little hserves).2
      ⟨oneFrame.bytes .little ++ [0x43, 0x50, 0x49], fun _ => 2, true⟩
  have hvalid : oneFrame.Valid := ⟨rfl, rfl⟩
  have hfirst : oneFrame.bytes .little <+: frameBytes .little frames ++ rest := ⟨[0x43, 0x50, 0x49], hrest⟩
  have hone : frames = [oneFrame] := by
    cases frames with
    | nil => exact absurd hfirst (hincomplete oneFrame hvalid)
    | cons frame frames =>
        obtain ⟨hframe, hid⟩ := hframes frame List.mem_cons_self
        have hprefix : frame.bytes .little <+: frameBytes .little (frame :: frames) ++ rest :=
          ⟨frameBytes .little frames ++ rest, (List.append_assoc _ _ _).symm⟩
        have hsame := frame_unique hframe hvalid hprefix hfirst
        rw [hid] at hsame
        obtain rfl : frame = oneFrame := hsame
        -- nothing after it has room for a header
        have htail : [0x43, 0x50, 0x49] = frameBytes .little frames ++ rest :=
          List.append_cancel_left (hrest.trans (List.append_assoc _ _ _))
        cases frames with
        | nil => rfl
        | cons second frames =>
            have hlength := congrArg List.length htail
            simp [frameBytes, RawFrame.bytes, length_serializeFrameHeader, kFrameHeaderSize] at hlength
            omega
  rw [hone] at hloop
  exact hloop

end Sender

end SomeServer
