/-
# SomeServer.Gate.Inbound — what the worker makes of the bytes of a client

A message of a client is two numbers of four bytes, its id and the size of its payload, and the payload. The
worker reads a message of a connection to its end before it looks at another connection, and dispatches it; a
connection whose message breaks off is closed. So what has been dispatched for a connection is, at any time and
whatever the other threads do, what its bytes say from the first one on.

The history has, for each connection since it was accepted, the bytes that were read for it and the messages that
were dispatched. Under the condition of `reads_stay` these are the bytes of its own client.
-/
import SomeServer.Gate.Worker
import SomeServer.Lib.PrefixCodes

namespace SomeServer

open Lib

/-! ## Messages on the wire -/

/-- A message of a client whose size the header can say. -/
structure WireMessage where
  messageId : UInt32
  payload : ByteBuffer
  fits : payload.length < 2 ^ 32

namespace WireMessage

/-- What a handler is given. -/
def raw (message : WireMessage) : UInt32 × ByteBuffer := (message.messageId, message.payload)

/-- `std::uint32_t header[2]`, as both ends fill it in. -/
def header (order : ByteOrder) (message : WireMessage) : ByteBuffer :=
  order.bytes 4 message.messageId.toNat ++ order.bytes 4 (UInt32.ofNat message.payload.length).toNat

def bytes (order : ByteOrder) (message : WireMessage) : ByteBuffer := message.header order ++ message.payload

variable {order : ByteOrder} {message : WireMessage} {rest : ByteBuffer}

/-- The gate sends these bytes. -/
theorem bytes_eq (order : ByteOrder) (connectionId : ConnectionId) (message : WireMessage) :
    message.bytes order = (SendOp.message connectionId message.messageId message.payload).bytes order := rfl

@[simp] theorem length_header : (message.header order).length = kClientHeaderSize := by
  simp [header, kClientHeaderSize]

theorem length_bytes : (message.bytes order).length = kClientHeaderSize + message.payload.length := by
  rw [bytes, List.length_append, length_header]

@[simp] theorem clientMessageId_header : clientMessageId order (message.header order) = message.messageId := by
  have htake : (message.header order).take 4 = order.bytes 4 message.messageId.toNat := by
    simp [header]
  rw [clientMessageId, htake, ByteOrder.nat_bytes message.messageId.toNat_lt, UInt32.ofNat_toNat]

@[simp] theorem clientPayloadSize_header :
    clientPayloadSize order (message.header order) = message.payload.length := by
  have hdrop : ((message.header order).drop 4).take 4 =
      order.bytes 4 (UInt32.ofNat message.payload.length).toNat := by
    simp [header]
  rw [clientPayloadSize, hdrop, ByteOrder.nat_bytes (UInt32.toNat_lt _), UInt32.toNat_ofNat',
    Nat.mod_eq_of_lt message.fits]

/-- What the bytes of a message say of a text that begins with them. -/
theorem of_prefix (h : message.bytes order <+: rest) :
    rest.take kClientHeaderSize = message.header order ∧
      (rest.drop kClientHeaderSize).take message.payload.length = message.payload ∧
      kClientHeaderSize + message.payload.length ≤ rest.length := by
  obtain ⟨later, rfl⟩ := h
  have hsize : (message.header order).length = kClientHeaderSize := length_header
  rw [bytes, List.append_assoc]
  refine ⟨?_, ?_, ?_⟩
  · rw [← hsize, List.take_left]
  · rw [← hsize, List.drop_left, List.take_left]
  · rw [List.length_append, hsize, List.length_append]
    omega

/-- A message is known by the text that begins with its bytes. -/
theorem eq_of_prefix {message' : WireMessage} (h : message.bytes order <+: rest)
    (h' : message'.bytes order <+: rest) : message = message' := by
  obtain ⟨hheader, hpayload, -⟩ := of_prefix h
  obtain ⟨hheader', hpayload', -⟩ := of_prefix h'
  have hsame : message.header order = message'.header order := hheader.symm.trans hheader'
  have hid : message.messageId = message'.messageId := by
    simpa only [clientMessageId_header] using congrArg (clientMessageId order) hsame
  have hlength : message.payload.length = message'.payload.length := by
    simpa only [clientPayloadSize_header] using congrArg (clientPayloadSize order) hsame
  rw [hlength, hpayload'] at hpayload
  obtain ⟨id, payload, fits⟩ := message
  obtain ⟨id', payload', fits'⟩ := message'
  cases hid
  cases hpayload
  rfl

end WireMessage

/-- The messages of clients as a code. -/
def clientCode (order : ByteOrder) : PrefixCode WireMessage UInt8 where
  word := WireMessage.bytes order
  word_ne_nil message h := by
    have hlength := congrArg List.length h
    rw [WireMessage.length_bytes] at hlength
    exact absurd hlength (by simp [kClientHeaderSize])
  unique _ _ _ := WireMessage.eq_of_prefix

/-! ## A message on its way in -/

/-- `ReadExact` has these bytes of a part of a message and waits for so many more; `taken` is what has come of
the whole message. -/
def Underway (order : ByteOrder) (taken : ByteBuffer) : FramePart → ByteBuffer → Nat → Prop
  | .header, buffer, size => taken = buffer ∧ buffer.length + size = kClientHeaderSize ∧ 0 < size
  | .payload, buffer, size => ∃ header : ByteBuffer, header.length = kClientHeaderSize ∧
      taken = header ++ buffer ∧ buffer.length + size = clientPayloadSize order header ∧ 0 < size

/-- The message has come, with this id and payload. -/
def Complete (order : ByteOrder) (taken : ByteBuffer) (messageId : UInt32) (payload : ByteBuffer) : Prop :=
  ∃ header : ByteBuffer, header.length = kClientHeaderSize ∧ taken = header ++ payload ∧
    messageId = clientMessageId order header ∧ payload.length = clientPayloadSize order header

section Reading

variable {order : ByteOrder} {taken buffer payload : ByteBuffer} {part : FramePart} {size : Nat}
  {messageId : UInt32}

/-- While a message is underway, less than a message has come. -/
theorem Underway.incomplete (h : Underway order taken part buffer size) : (clientCode order).Incomplete taken := by
  intro message hfront
  obtain ⟨htake, -, hle⟩ := WireMessage.of_prefix hfront
  cases part with
  | header =>
      obtain ⟨rfl, hlength, hpos⟩ := h
      omega
  | payload =>
      obtain ⟨header, hheader, rfl, hlength, hpos⟩ := h
      have hsame : header = message.header order := by
        rw [← htake, ← hheader, List.take_left]
      rw [hsame, WireMessage.clientPayloadSize_header] at hlength
      rw [List.length_append] at hle
      omega

theorem clientPayloadSize_lt (order : ByteOrder) (header : ByteBuffer) : clientPayloadSize order header < 2 ^ 32 := by
  have hlt := order.nat_lt ((header.drop 4).take 4)
  have hlength : ((header.drop 4).take 4).length ≤ 4 := List.length_take_le _ _
  have hpow : 256 ^ ((header.drop 4).take 4).length ≤ 256 ^ 4 := Nat.pow_le_pow_right (by decide) hlength
  exact Nat.lt_of_lt_of_le hlt (Nat.le_trans hpow (by decide))

/-- What has come is the bytes of a message. -/
theorem Complete.message (h : Complete order taken messageId payload) :
    ∃ message : WireMessage, message.raw = (messageId, payload) ∧ taken = message.bytes order := by
  obtain ⟨header, hheader, rfl, rfl, hlength⟩ := h
  have hfits : payload.length < 2 ^ 32 := hlength ▸ clientPayloadSize_lt order header
  have hsize : header.length = 8 := hheader
  have hfirst : (header.take 4).length = 4 := by simp; omega
  have hsecond : ((header.drop 4).take 4).length = 4 := by simp; omega
  refine ⟨⟨clientMessageId order header, payload, hfits⟩, rfl, ?_⟩
  show header ++ payload = order.bytes 4 _ ++ order.bytes 4 _ ++ payload
  have hsplit : header = header.take 4 ++ (header.drop 4).take 4 := by
    rw [← List.take_add, List.take_of_length_le (by omega)]
  congr 1
  rw [hlength, clientMessageId, clientPayloadSize, bytes_uint32 hfirst, bytes_uint32 hsecond, ← hsplit]

end Reading

/-! ## The worker at a message -/

/-- Where a thread is: the connections it has copied, those it has yet to read, what has come of the message it
is at, and the connection it is to close because its message broke off. -/
structure InboundPoint where
  copied : List ConnectionId := []
  toRead : List ConnectionId := []
  taken : ByteBuffer := []
  closing : Option ConnectionId := none

namespace InboundPoint

/-- The point after a section. -/
def next (x : InboundPoint) : (a : WorkerAct) → a.Reply → InboundPoint
  | .copySockets, watched => { copied := (watched.elim [] Watched.sockets).map Prod.fst }
  | .select watched, ready => { toRead := (watched.sockets.filter fun socket => socket.2 ∈ ready).map Prod.fst }
  | .recv connectionId _ _ _ _, none => { toRead := x.toRead.tail, closing := some connectionId }
  | .recv _ _ _ _ _, some bytes => { x with taken := x.taken ++ bytes.1 }
  | .dispatch _ _ _, _ => { toRead := x.toRead.tail }
  | .finalize _, _ => { x with closing := none }
  | _, _ => x

/-- Where a section comes. -/
def Fits (order : ByteOrder) (x : InboundPoint) : WorkerAct → Prop
  | .copySockets => x = {}
  | .select watched => x = { copied := watched.sockets.map Prod.fst }
  | .recv connectionId _ part buffer size => x.closing = none ∧ (∃ later, x.toRead = connectionId :: later) ∧
      Underway order x.taken part buffer size
  | .dispatch connectionId messageId payload => x.closing = none ∧ (∃ later, x.toRead = connectionId :: later) ∧
      Complete order x.taken messageId payload
  | .finalize connectionId => x.taken = [] ∧ (x.closing = none ∨ x.closing = some connectionId)
  | _ => x.taken = [] ∧ x.closing = none

/-- What has come of the message that the thread is at, when it is one of this connection. -/
def underway (x : InboundPoint) (connectionId : ConnectionId) : ByteBuffer :=
  if x.toRead.head? = some connectionId then x.taken else []

/-- Away from its end, less than a message has come. -/
theorem Fits.incomplete {order : ByteOrder} {x : InboundPoint} {a : WorkerAct} (h : x.Fits order a)
    (hdispatch : ∀ connectionId messageId payload, a ≠ .dispatch connectionId messageId payload) :
    (clientCode order).Incomplete x.taken := by
  have hnil : x.taken = [] → (clientCode order).Incomplete x.taken := fun hnil => by
    rw [hnil]
    exact PrefixCode.incomplete_nil
  cases a with
  | copySockets | select => exact hnil (by rw [h])
  | recv => exact h.2.2.incomplete
  | dispatch => exact absurd rfl (hdispatch _ _ _)
  | listenReady | acceptReadySocket | accept | closeEnter | finalize | stop | openOther | closeOther => exact hnil h.1

end InboundPoint

/-- A section of `WorkerLoop` alone. -/
def WorkerAct.ofLoop : WorkerAct → Bool
  | copySockets | select _ | acceptReadySocket | recv _ _ _ _ _ | dispatch _ _ _ => true
  | _ => false

/-- The protocol of the messages. `Start` starts one thread with `WorkerLoop`. -/
def inboundProtocol (order : ByteOrder) {T : Type} (worker : T) :
    Protocol T WorkerOp WorkerAct WorkerAct.Reply InboundPoint where
  fits t _ x a := x.Fits order a ∧ (a.ofLoop = true → t = worker)
  next _ x a r := x.next a r
  rest _ x := x = {}

section Programs

variable {T : Type} {worker t : T} {o : WorkerOp} {order : ByteOrder} {connectionId : ConnectionId} {fd : Int}
  {later : List ConnectionId} {α : Type}

/-- The program `p` leads from one point to another. -/
abbrev TakesIn (order : ByteOrder) (worker t : T) (o : WorkerOp) (x : InboundPoint) (p : WorkerCall α)
    (Q : α → InboundPoint → Prop) : Prop :=
  (inboundProtocol order worker).Follows t o Q p x

/-- A part of a message is read behind what has come before it. -/
theorem readLoop_takesIn {part : FramePart} {before : ByteBuffer} {total : Nat}
    (hpart : ∀ buffer size, buffer.length + size = total → 0 < size →
      Underway order (before ++ buffer) part buffer size)
    (calls : Nat) (buffer : ByteBuffer) {size : Nat} (htotal : buffer.length + size = total) (hcalls : size ≤ calls) :
    TakesIn order t t o { toRead := connectionId :: later, taken := before ++ buffer }
      (readLoop connectionId fd part calls buffer size) fun result y => match result with
        | none => y = { toRead := later, closing := some connectionId }
        | some buffer' => buffer'.length = total ∧
            y = { toRead := connectionId :: later, taken := before ++ buffer' } := by
  -- induction on the calls that are left; every one that succeeds brings a byte at least
  induction calls generalizing buffer size with
  | zero =>
      obtain rfl : size = 0 := by omega
      exact ⟨htotal, rfl⟩
  | succ calls ih =>
      rw [readLoop]
      by_cases hsize : size = 0
      · rw [if_pos hsize]
        exact ⟨by omega, rfl⟩
      · rw [if_neg hsize]
        refine ⟨⟨⟨rfl, ⟨later, rfl⟩, hpart buffer size htotal (by omega)⟩, fun _ => rfl⟩, fun received => ?_⟩
        cases received with
        | none => rfl
        | some bytes =>
            obtain ⟨bytes, hpos, hle⟩ := bytes
            have hrest : TakesIn order t t o
                { toRead := connectionId :: later, taken := before ++ (buffer ++ bytes) }
                (readLoop connectionId fd part calls (buffer ++ bytes) (size - bytes.length)) _ :=
              ih (buffer ++ bytes) (by rw [List.length_append]; omega) (by omega)
            rw [← List.append_assoc] at hrest
            exact hrest

theorem closeClient_takesIn {x : InboundPoint} (htaken : x.taken = []) (hclosing : x.closing = none) :
    TakesIn order worker t o x (closeClient connectionId) fun _ y => y = x := by
  refine ⟨⟨⟨htaken, hclosing⟩, fun h => by cases h⟩, fun enter => ?_⟩
  show TakesIn order worker t o x (if !enter.ok then Prog.ret () else _) _
  split
  · rfl
  · refine ⟨⟨⟨htaken, .inl hclosing⟩, fun h => by cases h⟩, fun _ => ?_⟩
    show { x with closing := none } = x
    rw [← hclosing]

theorem closeClients_takesIn {x : InboundPoint} (htaken : x.taken = []) (hclosing : x.closing = none)
    (connectionIds : List ConnectionId) :
    TakesIn order worker t o x (closeClients connectionIds) fun _ y => y = x := by
  induction connectionIds with
  | nil => rfl
  | cons connectionId connectionIds ih =>
      refine Protocol.Follows.bind ((closeClient_takesIn htaken hclosing).mono fun _ y hy => ?_)
      rw [hy]
      exact ih

/-- One message of a connection is read to its end and dispatched, or the connection is closed. -/
theorem handleReadable_takesIn : TakesIn order t t o { toRead := connectionId :: later }
    (handleReadable order connectionId fd) fun _ y => y = { toRead := later } := by
  unfold handleReadable
  have hfirst : ∀ (buffer : ByteBuffer) (size : Nat), buffer.length + size = kClientHeaderSize → 0 < size →
      Underway order ([] ++ buffer) .header buffer size := fun _ _ htotal hpos => ⟨rfl, htotal, hpos⟩
  have hheader : TakesIn order t t o { toRead := connectionId :: later }
      (readExact connectionId fd .header kClientHeaderSize) _ :=
    readLoop_takesIn hfirst kClientHeaderSize [] rfl (Nat.le_refl _)
  refine Protocol.Follows.bind (hheader.mono fun header y hy => ?_)
  cases header with
  | none =>
      rw [hy]
      exact ⟨⟨⟨rfl, .inr rfl⟩, fun h => by cases h⟩, fun _ => rfl⟩
  | some header =>
      obtain ⟨hlength, rfl⟩ := hy
      -- the payload comes behind its header
      have hbehind : ∀ (buffer : ByteBuffer) (size : Nat),
          buffer.length + size = clientPayloadSize order header → 0 < size →
          Underway order (header ++ buffer) .payload buffer size :=
        fun _ _ htotal hpos => ⟨header, hlength, rfl, htotal, hpos⟩
      have hpayload : TakesIn order t t o { toRead := connectionId :: later, taken := header ++ [] }
          (readExact connectionId fd .payload (clientPayloadSize order header)) _ :=
        readLoop_takesIn hbehind (clientPayloadSize order header) [] (Nat.zero_add _) (Nat.le_refl _)
      rw [List.append_nil] at hpayload
      refine Protocol.Follows.bind (hpayload.mono fun payload y hy => ?_)
      cases payload with
      | none =>
          rw [hy]
          exact ⟨⟨⟨rfl, .inr rfl⟩, fun h => by cases h⟩, fun _ => rfl⟩
      | some payload =>
          obtain ⟨hsize, rfl⟩ := hy
          refine Protocol.follows_seq ⟨⟨rfl, ⟨later, rfl⟩, header, hlength, rfl, rfl, hsize⟩, fun _ => rfl⟩ fun closes => ?_
          exact closeClients_takesIn rfl rfl closes

theorem handleReady_takesIn (ready : List Int) (sockets : List (ConnectionId × Int)) :
    TakesIn order t t o { toRead := (sockets.filter fun socket => socket.2 ∈ ready).map Prod.fst }
      (handleReady order ready sockets) fun _ y => y = {} := by
  induction sockets with
  | nil => rfl
  | cons socket sockets ih =>
      obtain ⟨connectionId, fd⟩ := socket
      rw [handleReady]
      by_cases hready : fd ∈ ready
      · rw [List.filter_cons_of_pos (by simpa using hready), if_pos hready]
        refine Protocol.Follows.bind (handleReadable_takesIn.mono fun _ y hy => ?_)
        rw [hy]
        exact ih
      · rw [List.filter_cons_of_neg (by simpa using hready), if_neg hready]
        exact ih

/-- Every operation keeps to the protocol, the rounds of the loop on the worker's thread. -/
theorem WorkerOp.takesIn (order : ByteOrder) (hround : o = .round → t = worker) :
    TakesIn order worker t o {} (o.code order) fun _ y => y = {} := by
  cases o with
  | round =>
      obtain rfl := hround rfl
      refine Protocol.follows_seq ⟨rfl, fun _ => rfl⟩ fun watched => ?_
      cases watched with
      | none => rfl
      | some watched =>
          refine Protocol.follows_seq ⟨rfl, fun _ => rfl⟩ fun ready => ?_
          show TakesIn order t t _ _ (if ready = [] then _ else _) _
          split
          · rename_i hnone
            subst hnone
            show _ = _
            simp [inboundProtocol, InboundPoint.next]
          · refine Protocol.follows_seq ⟨⟨rfl, rfl⟩, fun h => by cases h⟩ fun listening => ?_
            cases listening with
            | true =>
                exact Protocol.follows_seq ⟨⟨rfl, rfl⟩, fun _ => rfl⟩ fun _ => handleReady_takesIn ready watched.sockets
            | false => exact handleReady_takesIn ready watched.sockets
  | close connectionId => exact closeClient_takesIn rfl rfl
  | accept | stop | openOther | closeOther => exact ⟨⟨⟨rfl, rfl⟩, fun h => by cases h⟩, fun _ => rfl⟩

end Programs

/-! ## What is written down -/

/-- What has been read for a connection since it was accepted, what has been dispatched for it, and whether a
`recv` has failed. -/
structure InboundStream where
  received : ByteBuffer := []
  dispatched : List (UInt32 × ByteBuffer) := []
  brokenOff : Bool := false

/-- The bytes are those of the dispatched messages, and `rest` behind them. -/
def InboundStream.Parsed (order : ByteOrder) (stream : InboundStream) (rest : ByteBuffer) : Prop :=
  ∃ messages : List WireMessage, stream.received = (clientCode order).text messages ++ rest ∧
    stream.dispatched = messages.map WireMessage.raw

namespace InboundStream.Parsed

variable {order : ByteOrder} {stream : InboundStream} {rest : ByteBuffer}

theorem receives (h : stream.Parsed order rest) (bytes : ByteBuffer) :
    Parsed order { stream with received := stream.received ++ bytes } (rest ++ bytes) := by
  obtain ⟨messages, hreceived, hdispatched⟩ := h
  exact ⟨messages, by rw [hreceived, List.append_assoc], hdispatched⟩

theorem dispatches {messageId : UInt32} {payload : ByteBuffer} (h : stream.Parsed order rest)
    (hcomplete : Complete order rest messageId payload) :
    Parsed order { stream with dispatched := stream.dispatched ++ [(messageId, payload)] } [] := by
  obtain ⟨messages, hreceived, hdispatched⟩ := h
  obtain ⟨message, hraw, rfl⟩ := hcomplete.message
  refine ⟨messages ++ [message], ?_, ?_⟩
  · rw [PrefixCode.text_append, PrefixCode.text_singleton, List.append_nil]
    exact hreceived
  · rw [List.map_append, ← hdispatched, ← hraw]
    rfl

end InboundStream.Parsed

structure InboundLog (T : Type) where
  points : T → InboundPoint := fun _ => {}
  streams : ConnectionId → InboundStream := fun _ => {}

namespace InboundLog

variable {T : Type} [DecidableEq T]

def setStream (log : InboundLog T) (connectionId : ConnectionId) (stream : InboundStream) : InboundLog T :=
  { log with streams := Function.update log.streams connectionId stream }

/-- What a section adds. -/
def adds (i : WorkerInput) (s : GateSockets) (log : InboundLog T) : (a : WorkerAct) → a.Reply → InboundLog T
  | .acceptReadySocket, _ =>
      if s.listenSocketFd = none ∨ i.fd < 0 then log else log.setStream s.nextConnectionId {}
  | .recv connectionId _ _ _ _, none =>
      log.setStream connectionId { log.streams connectionId with brokenOff := true }
  | .recv connectionId _ _ _ _, some bytes =>
      log.setStream connectionId
        { log.streams connectionId with received := (log.streams connectionId).received ++ bytes.1 }
  | .dispatch connectionId messageId payload, _ =>
      log.setStream connectionId
        { log.streams connectionId with
          dispatched := (log.streams connectionId).dispatched ++ [(messageId, payload)] }
  | _, _ => log

/-- What is written down about a section. -/
def record (t : T) (a : WorkerAct) (i : WorkerInput) (s : GateSockets) (r : a.Reply) (log : InboundLog T) :
    InboundLog T :=
  { log.adds i s a r with points := Function.update log.points t ((log.points t).next a r) }

end InboundLog

namespace GateSockets

variable {s : GateSockets} {connectionId connectionId' : ConnectionId}

theorem closeSocket_get : (s.closeSocket connectionId).socketByConnectionId.get connectionId' =
    if connectionId' = connectionId then none else s.socketByConnectionId.get connectionId' := by
  unfold closeSocket
  split
  · rename_i hnone
    split
    · rename_i hid
      rw [hid, hnone]
    · rfl
  · split
    · rename_i hid
      rw [hid]
      exact Table.erase_get_self
    · rename_i hid
      exact Table.erase_get_of_ne hid

theorem finalize_get : (s.finalize connectionId).socketByConnectionId.get connectionId' =
    if connectionId' = connectionId then none else s.socketByConnectionId.get connectionId' := by
  unfold finalize
  split
  · exact closeSocket_get
  · exact closeSocket_get

theorem closeEnter_get_none (h : s.socketByConnectionId.get connectionId' = none) :
    (s.closeEnter connectionId).1.socketByConnectionId.get connectionId' = none := by
  unfold closeEnter
  split
  · show ((s.setState connectionId .closed).closeSocket connectionId).socketByConnectionId.get connectionId' = none
    rw [closeSocket_get]
    exact ite_eq_left_iff.mpr fun _ => h
  · exact h

theorem accept_get : (s.accept connectionId).1.socketByConnectionId = s.socketByConnectionId := by
  unfold accept
  split <;> rfl

theorem walked_ids (order : List ConnectionId) : (s.walked order).map Prod.fst =
    order.filter fun connectionId => (s.socketByConnectionId.get connectionId).isSome := by
  induction order with
  | nil => rfl
  | cons connectionId order ih =>
      cases hget : s.socketByConnectionId.get connectionId with
      | none => simpa [walked, hget] using ih
      | some fd => simpa [walked, hget] using ih

/-- The connections that the worker waits for have sockets, and none comes twice. -/
theorem watched_ids {order : List ConnectionId} {sockets : Watched} (hnodup : order.Nodup)
    (h : s.watched order = some sockets) :
    (sockets.sockets.map Prod.fst).Nodup ∧
      ∀ connectionId ∈ sockets.sockets.map Prod.fst, (s.socketByConnectionId.get connectionId).isSome := by
  unfold watched at h
  split at h
  · cases h
  · split at h
    · cases h
    · cases h
      rw [walked_ids]
      exact ⟨hnodup.filter _, fun connectionId hmem => (List.mem_filter.mp hmem).2⟩

end GateSockets

/-- What the worker has taken in of each connection is what has come for it; and one whose message broke off is
not read again. -/
structure Inbound {T : Type} (order : ByteOrder) (worker : T) (v : GateSockets × InboundLog T) : Prop where
  standing : ∀ connectionId, (v.2.streams connectionId).brokenOff = false →
    (v.2.streams connectionId).Parsed order ((v.2.points worker).underway connectionId)
  broken : ∀ connectionId, (v.2.streams connectionId).brokenOff = true →
    ∃ rest, (clientCode order).Incomplete rest ∧ (v.2.streams connectionId).Parsed order rest
  gone : ∀ connectionId, (v.2.streams connectionId).brokenOff = true →
    connectionId ∉ (v.2.points worker).copied ∧ connectionId ∉ (v.2.points worker).toRead ∧
      (v.1.socketByConnectionId.get connectionId = none ∨ (v.2.points worker).closing = some connectionId)
  copied_nodup : (v.2.points worker).copied.Nodup
  toRead_nodup : (v.2.points worker).toRead.Nodup

namespace Inbound

variable {T : Type} [DecidableEq T] {order : ByteOrder} {worker t : T} {s s' : GateSockets} {log : InboundLog T}
  {i : WorkerInput} {connectionId : ConnectionId} {x : InboundPoint}

omit [DecidableEq T] in
/-- Sockets may be closed. -/
theorem erases (h : Inbound order worker (s, log))
    (hget : ∀ connectionId, s.socketByConnectionId.get connectionId = none →
      s'.socketByConnectionId.get connectionId = none) : Inbound order worker (s', log) where
  standing := h.standing
  broken := h.broken
  gone connectionId hbroken := by
    obtain ⟨hcopied, htoRead, hgone⟩ := h.gone connectionId hbroken
    exact ⟨hcopied, htoRead, hgone.imp (hget connectionId) id⟩
  copied_nodup := h.copied_nodup
  toRead_nodup := h.toRead_nodup

omit [DecidableEq T] in
theorem descriptors (h : Inbound order worker (s, log)) (descriptors : Int → Option Descriptor) :
    Inbound order worker ({ s with descriptors := descriptors }, log) := h.erases fun _ hget => hget

/-- A thread moves on; the worker at no message is at none afterwards, and takes in no connection whose message
broke off. -/
theorem moves (h : Inbound order worker (s, log))
    (htaken : t = worker → (log.points t).taken = [] ∧ x.taken = [])
    (hgone : t = worker → ∀ connectionId, (log.streams connectionId).brokenOff = true →
      connectionId ∉ x.copied ∧ connectionId ∉ x.toRead ∧
        (s.socketByConnectionId.get connectionId = none ∨ x.closing = some connectionId))
    (hnodup : t = worker → x.copied.Nodup ∧ x.toRead.Nodup) :
    Inbound order worker (s, { log with points := Function.update log.points t x }) := by
  by_cases ht : worker = t
  · subst ht
    have hempty : ∀ connectionId, x.underway connectionId = (log.points worker).underway connectionId := by
      intro connectionId
      rw [InboundPoint.underway, InboundPoint.underway, (htaken rfl).1, (htaken rfl).2, ite_self, ite_self]
    refine ⟨fun connectionId hstanding => ?_, h.broken, fun connectionId hbroken => ?_, ?_, ?_⟩
    · show InboundStream.Parsed order _ ((Function.update log.points worker x worker).underway connectionId)
      rw [Function.update_self, hempty]
      exact h.standing connectionId hstanding
    · simp only [Function.update_self]
      exact hgone rfl connectionId hbroken
    · simp only [Function.update_self]
      exact (hnodup rfl).1
    · simp only [Function.update_self]
      exact (hnodup rfl).2
  · refine ⟨?_, h.broken, ?_, ?_, ?_⟩
    · simp only [Function.update_of_ne ht]
      exact h.standing
    · simp only [Function.update_of_ne ht]
      exact h.gone
    · simp only [Function.update_of_ne ht]
      exact h.copied_nodup
    · simp only [Function.update_of_ne ht]
      exact h.toRead_nodup

/-- A section that leaves its thread where it is. -/
theorem stays (h : Inbound order worker (s, log)) :
    Inbound order worker (s, { log with points := Function.update log.points t (log.points t) }) := by
  rw [Function.update_eq_self]
  exact h

/-- The sockets are copied; those of the connections whose messages broke off have been closed. -/
theorem copies {ids : List ConnectionId} (h : Inbound order worker (s, log)) (hx : log.points worker = {})
    (hopen : ∀ connectionId ∈ ids, (s.socketByConnectionId.get connectionId).isSome) (hnodup : ids.Nodup) :
    Inbound order worker
      (s, { log with points := Function.update log.points worker { copied := ids } }) := by
  refine h.moves (fun _ => ⟨by rw [hx], rfl⟩) (fun _ connectionId hbroken => ?_) fun _ => ⟨hnodup, List.nodup_nil⟩
  have hnone : s.socketByConnectionId.get connectionId = none := by
    rcases (h.gone connectionId hbroken).2.2 with hnone | hclosing
    · exact hnone
    · simp only [hx] at hclosing
      cases hclosing
  refine ⟨fun hmem => ?_, List.not_mem_nil, .inl hnone⟩
  have hsome := hopen connectionId hmem
  rw [hnone] at hsome
  cases hsome

theorem selects {ids ready : List ConnectionId} (h : Inbound order worker (s, log))
    (hx : log.points worker = { copied := ids }) (hready : ready.Sublist ids) :
    Inbound order worker
      (s, { log with points := Function.update log.points worker { toRead := ready } }) := by
  refine h.moves (fun _ => ⟨by rw [hx], rfl⟩) (fun _ connectionId hbroken => ?_) fun _ => ⟨List.nodup_nil, ?_⟩
  · obtain ⟨hcopied, -, hgone⟩ := h.gone connectionId hbroken
    simp only [hx] at hcopied hgone
    exact ⟨List.not_mem_nil, fun hmem => hcopied (hready.subset hmem), hgone⟩
  · have hids := h.copied_nodup
    simp only [hx] at hids
    exact hids.sublist hready

/-- The stream of one connection is continued, and the worker moves on. -/
theorem sets (h : Inbound order worker (s, log)) {stream : InboundStream}
    (hother : ∀ connectionId', connectionId' ≠ connectionId →
      x.underway connectionId' = (log.points worker).underway connectionId')
    (hstanding : stream.brokenOff = false → stream.Parsed order (x.underway connectionId))
    (hbroken : stream.brokenOff = true →
      ∃ rest, (clientCode order).Incomplete rest ∧ stream.Parsed order rest)
    (hgone : ∀ connectionId', (connectionId' = connectionId ∧ stream.brokenOff = true ∨
        connectionId' ≠ connectionId ∧ (log.streams connectionId').brokenOff = true) →
      connectionId' ∉ x.copied ∧ connectionId' ∉ x.toRead ∧
        (s'.socketByConnectionId.get connectionId' = none ∨ x.closing = some connectionId'))
    (hcopied : x.copied.Nodup) (htoRead : x.toRead.Nodup) :
    Inbound order worker
      (s', { log.setStream connectionId stream with points := Function.update log.points worker x }) := by
  refine ⟨fun connectionId' hstanding' => ?_, fun connectionId' hbroken' => ?_, fun connectionId' hbroken' => ?_,
    ?_, ?_⟩
  · simp only [InboundLog.setStream, Function.update_self] at *
    by_cases hid : connectionId' = connectionId
    · subst hid
      rw [Function.update_self] at *
      exact hstanding hstanding'
    · rw [Function.update_of_ne hid] at *
      rw [hother connectionId' hid]
      exact h.standing connectionId' hstanding'
  · simp only [InboundLog.setStream] at *
    by_cases hid : connectionId' = connectionId
    · subst hid
      rw [Function.update_self] at *
      exact hbroken hbroken'
    · rw [Function.update_of_ne hid] at *
      exact h.broken connectionId' hbroken'
  · simp only [InboundLog.setStream, Function.update_self] at *
    apply hgone
    by_cases hid : connectionId' = connectionId
    · subst hid
      rw [Function.update_self] at hbroken'
      exact .inl ⟨rfl, hbroken'⟩
    · rw [Function.update_of_ne hid] at hbroken'
      exact .inr ⟨hid, hbroken'⟩
  · simp only [Function.update_self]
    exact hcopied
  · simp only [Function.update_self]
    exact htoRead

/-- A new connection has a stream of its own, whatever had its number before. -/
theorem accepts (h : Inbound order worker (s, log)) {fd : Int} (htaken : (log.points worker).taken = []) :
    Inbound order worker (s.acceptSocket fd,
      { log.setStream s.nextConnectionId {} with
        points := Function.update log.points worker (log.points worker) }) := by
  refine h.sets (fun _ _ => rfl) (fun _ => ⟨[], ?_, rfl⟩) (fun hbroken => ?_) (fun connectionId hbroken => ?_)
    h.copied_nodup h.toRead_nodup
  · rw [InboundPoint.underway, htaken, ite_self]
    rfl
  · cases hbroken
  · obtain ⟨-, hbroken⟩ | ⟨hid, hbroken⟩ := hbroken
    · cases hbroken
    · rw [show (s.acceptSocket fd).socketByConnectionId.get connectionId = s.socketByConnectionId.get connectionId
        from Table.set_get_of_ne hid]
      exact h.gone connectionId hbroken

omit [DecidableEq T] in
/-- The stream of the connection that the worker is at. -/
theorem reading (h : Inbound order worker (s, log)) {later : List ConnectionId}
    (htoRead : (log.points worker).toRead = connectionId :: later) :
    (log.streams connectionId).brokenOff = false ∧
      (log.streams connectionId).Parsed order (log.points worker).taken := by
  have hstanding : (log.streams connectionId).brokenOff = false := by
    apply Bool.eq_false_iff.mpr
    intro hbroken
    have hgone : connectionId ∉ (log.points worker).toRead := (h.gone connectionId hbroken).2.1
    rw [htoRead] at hgone
    exact hgone List.mem_cons_self
  have hparsed : (log.streams connectionId).Parsed order ((log.points worker).underway connectionId) :=
    h.standing connectionId hstanding
  rw [InboundPoint.underway, htoRead, List.head?_cons, if_pos rfl] at hparsed
  exact ⟨hstanding, hparsed⟩

omit [DecidableEq T] in
/-- Of the others nothing is underway, now or with the next of them. -/
theorem underway_other {later : List ConnectionId} {connectionId' : ConnectionId}
    (htoRead : (log.points worker).toRead = connectionId :: later) (hid : connectionId' ≠ connectionId) :
    (log.points worker).underway connectionId' = [] := by
  rw [InboundPoint.underway, htoRead, List.head?_cons, if_neg fun hsome => hid (Option.some.inj hsome).symm]

/-- More bytes of the message that the worker is at. -/
theorem receives (h : Inbound order worker (s, log)) {later : List ConnectionId} (bytes : ByteBuffer)
    (htoRead : (log.points worker).toRead = connectionId :: later) :
    Inbound order worker (s, { log.setStream connectionId
        { log.streams connectionId with received := (log.streams connectionId).received ++ bytes } with
      points := Function.update log.points worker
        { log.points worker with taken := (log.points worker).taken ++ bytes } }) := by
  obtain ⟨hstanding, hparsed⟩ := h.reading htoRead
  refine h.sets (fun connectionId' hid => ?_) (fun _ => ?_) (fun hbroken => ?_) (fun connectionId' hbroken => ?_)
    h.copied_nodup h.toRead_nodup
  · rw [underway_other htoRead hid]
    exact if_neg (by rw [htoRead]; exact fun hsome => hid (Option.some.inj hsome).symm)
  · rw [InboundPoint.underway, htoRead, List.head?_cons, if_pos rfl]
    exact hparsed.receives bytes
  · exact absurd (hstanding.symm.trans hbroken) Bool.false_ne_true
  · obtain ⟨-, hbroken⟩ | ⟨hid, hbroken⟩ := hbroken
    · exact absurd (hstanding.symm.trans hbroken) Bool.false_ne_true
    · exact h.gone connectionId' hbroken

/-- The message is dispatched, and the worker comes to the next connection. -/
theorem dispatches (h : Inbound order worker (s, log)) {later : List ConnectionId} {messageId : UInt32}
    {payload : ByteBuffer} (htoRead : (log.points worker).toRead = connectionId :: later)
    (hclosing : (log.points worker).closing = none)
    (hcomplete : Complete order (log.points worker).taken messageId payload) :
    Inbound order worker (s, { log.setStream connectionId
        { log.streams connectionId with
          dispatched := (log.streams connectionId).dispatched ++ [(messageId, payload)] } with
      points := Function.update log.points worker { toRead := (log.points worker).toRead.tail } }) := by
  obtain ⟨hstanding, hparsed⟩ := h.reading htoRead
  refine h.sets (fun connectionId' hid => ?_) (fun _ => ?_) (fun hbroken => ?_) (fun connectionId' hbroken => ?_)
    List.nodup_nil h.toRead_nodup.tail
  · rw [underway_other htoRead hid, InboundPoint.underway, ite_self]
  · rw [InboundPoint.underway, ite_self]
    exact hparsed.dispatches hcomplete
  · exact absurd (hstanding.symm.trans hbroken) Bool.false_ne_true
  · obtain ⟨-, hbroken⟩ | ⟨-, hbroken⟩ := hbroken
    · exact absurd (hstanding.symm.trans hbroken) Bool.false_ne_true
    · obtain ⟨-, hread, hgone⟩ := h.gone connectionId' hbroken
      refine ⟨List.not_mem_nil, fun hmem => hread (List.mem_of_mem_tail hmem), hgone.imp id fun hsome => ?_⟩
      exact absurd (hclosing.symm.trans hsome) (by simp)

/-- The message breaks off, and the connection is to be closed. -/
theorem breaks (h : Inbound order worker (s, log)) {later : List ConnectionId}
    (htoRead : (log.points worker).toRead = connectionId :: later)
    (hclosing : (log.points worker).closing = none)
    (hincomplete : (clientCode order).Incomplete (log.points worker).taken) :
    Inbound order worker (s, { log.setStream connectionId { log.streams connectionId with brokenOff := true } with
      points := Function.update log.points worker
        { toRead := (log.points worker).toRead.tail, closing := some connectionId } }) := by
  obtain ⟨-, hparsed⟩ := h.reading htoRead
  have hnodup := h.toRead_nodup
  refine h.sets (fun connectionId' hid => ?_) (fun hstanding => ?_) (fun _ => ⟨_, hincomplete, hparsed⟩)
    (fun connectionId' hbroken => ?_) List.nodup_nil hnodup.tail
  · rw [underway_other htoRead hid, InboundPoint.underway, ite_self]
  · cases hstanding
  · obtain ⟨rfl, -⟩ | ⟨-, hbroken⟩ := hbroken
    · refine ⟨List.not_mem_nil, ?_, .inr rfl⟩
      simp only [htoRead] at hnodup ⊢
      exact (List.nodup_cons.mp hnodup).1
    · obtain ⟨-, hread, hgone⟩ := h.gone connectionId' hbroken
      refine ⟨List.not_mem_nil, fun hmem => hread (List.mem_of_mem_tail hmem), hgone.imp id fun hsome => ?_⟩
      exact absurd (hclosing.symm.trans hsome) (by simp)

/-- A connection is closed; if its message broke off, this is what was to be done about it. -/
theorem finalizes (h : Inbound order worker (s, log)) (htaken : (log.points t).taken = [])
    (hclosing : (log.points t).closing = none ∨ (log.points t).closing = some connectionId) :
    Inbound order worker (s.finalize connectionId,
      { log with points := Function.update log.points t { log.points t with closing := none } }) := by
  have hnone : ∀ connectionId', s.socketByConnectionId.get connectionId' = none →
      (s.finalize connectionId).socketByConnectionId.get connectionId' = none := by
    intro connectionId' hget
    rw [GateSockets.finalize_get]
    exact ite_eq_left_iff.mpr fun _ => hget
  refine (h.erases hnone).moves (fun _ => ⟨htaken, htaken⟩) ?_ ?_
  · rintro rfl connectionId' hbroken
    obtain ⟨hcopied, htoRead, hgone⟩ := h.gone connectionId' hbroken
    refine ⟨hcopied, htoRead, .inl ?_⟩
    rcases hgone with hget | hsome
    · exact hnone connectionId' hget
    · -- the connection that was to be closed is the one that is
      have hid : connectionId' = connectionId := by
        rcases hclosing with hno | hyes
        · exact absurd (hno.symm.trans hsome) (by simp)
        · exact Option.some.inj (hsome.symm.trans hyes)
      rw [GateSockets.finalize_get, if_pos hid]
  · rintro rfl
    exact ⟨h.copied_nodup, h.toRead_nodup⟩

/-- One section keeps the invariant. -/
theorem exec {a : WorkerAct} {r : a.Reply} (h : Inbound order worker (s, log))
    (hfits : (log.points t).Fits order a) (hworker : a.ofLoop = true → t = worker)
    (hexec : s.exec i a = some (s', r)) : Inbound order worker (s', log.record t a i s r) := by
  cases a with
  | copySockets =>
      obtain rfl := hworker rfl
      simp only [GateSockets.exec, Option.ite_none_right_eq_some, Option.some.injEq, Prod.mk.injEq] at hexec
      obtain ⟨hwalks, rfl, rfl⟩ := hexec
      have hnodup : i.order.Nodup := by
        simp only [GateSockets.walks, Bool.and_eq_true, decide_eq_true_eq] at hwalks
        exact hwalks.2
      cases hwatched : s.watched i.order with
      | none =>
          refine h.copies hfits (fun _ hmem => ?_) List.nodup_nil
          cases hmem
      | some watched =>
          obtain ⟨hids, hopen⟩ := GateSockets.watched_ids hnodup hwatched
          exact h.copies hfits hopen hids
  | select watched =>
      obtain rfl := hworker rfl
      simp only [GateSockets.exec, Option.some.injEq, Prod.mk.injEq] at hexec
      obtain ⟨rfl, rfl⟩ := hexec
      exact h.selects hfits (List.filter_sublist.map _)
  | listenReady ready =>
      simp only [GateSockets.exec, Option.some.injEq, Prod.mk.injEq] at hexec
      obtain ⟨rfl, -⟩ := hexec
      exact h.stays
  | acceptReadySocket =>
      obtain rfl := hworker rfl
      simp only [GateSockets.exec] at hexec
      split at hexec
      · rename_i hnothing
        cases hexec
        simp only [InboundLog.record, InboundLog.adds, if_pos hnothing]
        exact h.stays
      · rename_i haccepted
        simp only [Option.ite_none_right_eq_some, Option.some.injEq, Prod.mk.injEq] at hexec
        obtain ⟨-, rfl, -⟩ := hexec
        simp only [InboundLog.record, InboundLog.adds, if_neg haccepted]
        exact h.accepts hfits.1
  | recv connectionId fd part buffer size =>
      obtain rfl := hworker rfl
      obtain ⟨hclosing, ⟨later, htoRead⟩, hunderway⟩ := hfits
      have hsame : s' = s := by
        simp only [GateSockets.exec] at hexec
        split at hexec
        · simp only [Option.dite_none_right_eq_some, Option.some.injEq, Prod.mk.injEq] at hexec
          exact hexec.2.1.symm
        · cases hexec
          rfl
      subst hsame
      cases r with
      | none => exact h.breaks htoRead hclosing hunderway.incomplete
      | some bytes => exact h.receives bytes.1 htoRead
  | dispatch connectionId messageId payload =>
      obtain rfl := hworker rfl
      obtain ⟨hclosing, ⟨later, htoRead⟩, hcomplete⟩ := hfits
      simp only [GateSockets.exec, Option.some.injEq, Prod.mk.injEq] at hexec
      obtain ⟨rfl, -⟩ := hexec
      exact h.dispatches htoRead hclosing hcomplete
  | accept connectionId =>
      simp only [GateSockets.exec, Option.some.injEq] at hexec
      obtain rfl : (s.accept connectionId).1 = s' := congrArg Prod.fst hexec
      exact (h.erases fun _ hget => by rw [GateSockets.accept_get]; exact hget).stays
  | closeEnter connectionId =>
      simp only [GateSockets.exec, Option.some.injEq] at hexec
      obtain rfl : (s.closeEnter connectionId).1 = s' := congrArg Prod.fst hexec
      exact (h.erases fun _ hget => GateSockets.closeEnter_get_none hget).stays
  | finalize connectionId =>
      simp only [GateSockets.exec, Option.some.injEq, Prod.mk.injEq] at hexec
      obtain ⟨rfl, -⟩ := hexec
      exact h.finalizes hfits.1 hfits.2
  | stop =>
      simp only [GateSockets.exec, Option.ite_none_right_eq_some, Option.some.injEq, Prod.mk.injEq] at hexec
      obtain ⟨-, rfl, -⟩ := hexec
      exact (h.erases fun _ _ => rfl).stays
  | openOther =>
      simp only [GateSockets.exec, Option.ite_none_right_eq_some, Option.some.injEq, Prod.mk.injEq] at hexec
      obtain ⟨-, rfl, -⟩ := hexec
      exact (h.descriptors _).stays
  | closeOther fd =>
      simp only [GateSockets.exec] at hexec
      split at hexec
      · cases hexec
        exact (h.descriptors _).stays
      · cases hexec
        exact h.stays

end Inbound

/-! ## Runs -/

section Runs

variable {T : Type} [DecidableEq T]

/-- The service and the system, with the log. -/
def inboundMachine (T : Type) [DecidableEq T] :
    Machine T WorkerAct WorkerAct.Reply WorkerInput (GateSockets × InboundLog T) :=
  (GateSockets.machine T).withHistory fun t a i s _ r log => log.record t a i s r

abbrev InboundPool (T : Type) : Type :=
  Pool T WorkerOp WorkerAct WorkerAct.Reply Unit (GateSockets × InboundLog T)

/-- The rounds of the loop are those of one thread. -/
def oneWorker (worker : T) (_ : InboundPool T) : Move T WorkerOp WorkerInput → Prop
  | .start t .round => t = worker
  | _ => True

/-- Where a thread is. -/
def inboundPointOf (x : GateSockets × InboundLog T) (t : T) : InboundPoint := x.2.points t

omit [DecidableEq T] in
/-- The message that a thread is about to dispatch, when it is one of this connection. -/
def aboutToDispatch (c : InboundPool T) (t : T) (connectionId : ConnectionId) : List (UInt32 × ByteBuffer) :=
  match c.pending t with
  | some (.dispatch connectionId' messageId payload) =>
      if connectionId' = connectionId then [(messageId, payload)] else []
  | _ => []

theorem inboundMachine_exec {t : T} {a : WorkerAct} {i : WorkerInput} {r : a.Reply}
    {x y : GateSockets × InboundLog T} (h : (inboundMachine T).exec t a i x = some (y, r)) :
    x.1.exec i a = some (y.1, r) ∧ y.2 = x.2.record t a i x.1 r :=
  Machine.withHistory_exec h

theorem inboundPointOf_exec (order : ByteOrder) (worker t : T) (a : WorkerAct) (i : WorkerInput)
    (x y : GateSockets × InboundLog T) (r : a.Reply) (h : (inboundMachine T).exec t a i x = some (y, r)) :
    inboundPointOf y = Function.update (inboundPointOf x) t
      ((inboundProtocol order worker).next t (inboundPointOf x t) a r) := by
  show y.2.points = _
  rw [(inboundMachine_exec h).2]
  rfl

variable {order : ByteOrder} {worker : T} {s₀ : GateSockets} {c : InboundPool T}

omit [DecidableEq T] in
theorem inboundPointOf_follows (order : ByteOrder) (c : InboundPool T) (t : T) (o : WorkerOp)
    (hworker : oneWorker worker c (.start t o))
    (hrest : (inboundProtocol order worker).rest t (inboundPointOf c.shared t)) :
    (inboundProtocol order worker).Follows t o (fun _ y => (inboundProtocol order worker).rest t y) (o.code order)
      (inboundPointOf c.shared t) := by
  rw [show inboundPointOf c.shared t = {} from hrest]
  refine WorkerOp.takesIn order ?_
  rintro rfl
  exact hworker

theorem inbound_run (h : Run (inboundMachine T) (fun _ => WorkerOp.code order) (oneWorker worker)
    (Pool.initial (s₀, {})) c) : Inbound order worker c.shared := by
  refine Protocol.run_invariant (inboundPointOf_follows order) (inboundPointOf_exec order worker)
    (by exact fun _ => rfl) ?_ ?_ h
  · refine ⟨fun _ _ => ⟨[], rfl, rfl⟩, fun _ hbroken => ?_, fun _ hbroken => ?_, List.nodup_nil, List.nodup_nil⟩
    · cases hbroken
    · cases hbroken
  · intro c t o a k i y r _ _ hfits hI hx
    obtain ⟨hexec, hlog⟩ := inboundMachine_exec hx
    have hstep : Inbound order worker (y.1, c.shared.2.record t a i c.shared.1 r) :=
      hI.exec hfits.1 hfits.2 hexec
    rw [← hlog] at hstep
    exact hstep

/-- A thread is about to dispatch the message that has come, or less than a message has come. -/
theorem aboutToDispatch_cases (h : Run (inboundMachine T) (fun _ => WorkerOp.code order) (oneWorker worker)
    (Pool.initial (s₀, {})) c) (t : T) :
    (∃ connectionId messageId payload, c.pending t = some (.dispatch connectionId messageId payload) ∧
      (c.shared.2.points t).Fits order (.dispatch connectionId messageId payload)) ∨
    (∀ connectionId, aboutToDispatch c t connectionId = []) ∧
      (clientCode order).Incomplete (c.shared.2.points t).taken := by
  have hprog := Protocol.run_followed (inboundPointOf_follows order) (inboundPointOf_exec order worker)
    (by exact fun _ => rfl) h t
  have hrest : (inboundPointOf c.shared t = {}) → (clientCode order).Incomplete (c.shared.2.points t).taken := by
    intro hrest
    rw [show c.shared.2.points t = {} from hrest]
    exact PrefixCode.incomplete_nil
  cases hthread : c.threads t with
  | none =>
      rw [hthread] at hprog
      refine .inr ⟨fun _ => ?_, hrest hprog⟩
      simp only [aboutToDispatch, Pool.pending, hthread, Option.bind_none]
  | some running =>
      obtain ⟨o, p⟩ := running
      rw [hthread] at hprog
      cases p with
      | ret result =>
          refine .inr ⟨fun _ => ?_, hrest hprog⟩
          simp only [aboutToDispatch, Pool.pending, hthread, Option.bind_some, Prog.pending]
      | act a k =>
          have hpending : c.pending t = some a := Pool.pending_eq_some.mpr ⟨o, k, hthread⟩
          have hfits : (c.shared.2.points t).Fits order a := hprog.1.1
          by_cases hdispatch : ∃ connectionId messageId payload, a = .dispatch connectionId messageId payload
          · obtain ⟨connectionId, messageId, payload, rfl⟩ := hdispatch
            exact .inl ⟨connectionId, messageId, payload, hpending, hfits⟩
          · refine .inr ⟨fun connectionId => ?_, hfits.incomplete fun connectionId messageId payload heq => ?_⟩
            · rw [aboutToDispatch, hpending]
              split
              · rename_i heq
                cases heq
                exact absurd ⟨_, _, _, rfl⟩ hdispatch
              · rfl
            · exact hdispatch ⟨connectionId, messageId, payload, heq⟩

/-- The bytes that were read for a connection are those of the messages that were dispatched for it, of the one that
the worker is about to dispatch, and less than a message. -/
theorem parsed_run (h : Run (inboundMachine T) (fun _ => WorkerOp.code order) (oneWorker worker)
    (Pool.initial (s₀, {})) c) (connectionId : ConnectionId) : ∃ messages rest,
      (c.shared.2.streams connectionId).received = (clientCode order).text messages ++ rest ∧
      (clientCode order).Incomplete rest ∧
      (c.shared.2.streams connectionId).dispatched ++ aboutToDispatch c worker connectionId =
        messages.map WireMessage.raw := by
  have hinbound := inbound_run h
  -- so it is while nothing is about to be dispatched for the connection
  have hstill : aboutToDispatch c worker connectionId = [] →
      (clientCode order).Incomplete ((c.shared.2.points worker).underway connectionId) → ∃ messages rest,
        (c.shared.2.streams connectionId).received = (clientCode order).text messages ++ rest ∧
        (clientCode order).Incomplete rest ∧
        (c.shared.2.streams connectionId).dispatched ++ aboutToDispatch c worker connectionId =
          messages.map WireMessage.raw := by
    intro hnothing hincomplete
    rw [hnothing, List.append_nil]
    cases hbroken : (c.shared.2.streams connectionId).brokenOff with
    | true =>
        obtain ⟨rest, hrest, messages, hreceived, hdispatched⟩ := hinbound.broken connectionId hbroken
        exact ⟨messages, rest, hreceived, hrest, hdispatched⟩
    | false =>
        obtain ⟨messages, hreceived, hdispatched⟩ := hinbound.standing connectionId hbroken
        exact ⟨messages, _, hreceived, hincomplete, hdispatched⟩
  rcases aboutToDispatch_cases h worker with ⟨connectionId', messageId, payload, hpending, hfits⟩ | ⟨hnothing, hincomplete⟩
  · obtain ⟨-, ⟨later, htoRead⟩, hcomplete⟩ := hfits
    by_cases hid : connectionId' = connectionId
    · subst hid
      obtain ⟨-, messages, hreceived, hdispatched⟩ := hinbound.reading htoRead
      obtain ⟨message, hraw, htaken⟩ := hcomplete.message
      refine ⟨messages ++ [message], [], ?_, PrefixCode.incomplete_nil, ?_⟩
      · rw [hreceived, htaken, PrefixCode.text_append, PrefixCode.text_singleton, List.append_nil]
        rfl
      · rw [aboutToDispatch, hpending, hdispatched, List.map_append, List.map_singleton, hraw]
        simp only [if_pos]
    -- it is another connection's message
    · apply hstill
      · rw [aboutToDispatch, hpending]
        exact if_neg hid
      · rw [Inbound.underway_other htoRead (Ne.symm hid)]
        exact PrefixCode.incomplete_nil
  · refine hstill (hnothing connectionId) ?_
    unfold InboundPoint.underway
    split
    · exact hincomplete
    · exact PrefixCode.incomplete_nil

/-- **What is dispatched for a connection is what its client wrote**: in every run with one worker, the bytes
that were read for a connection are those of the messages that were dispatched for it, of the one that the worker
is about to dispatch, and less than a message. When the bytes are the first of what was sent, so are the messages;
and when they are all of it, the messages are all that were sent. -/
theorem dispatched_of_received (order : ByteOrder) (h : Run (inboundMachine T) (fun _ => WorkerOp.code order)
    (oneWorker worker) (Pool.initial (s₀, {})) c) (connectionId : ConnectionId) :
    ∃ messages rest,
      (c.shared.2.streams connectionId).received = (clientCode order).text messages ++ rest ∧
      (clientCode order).Incomplete rest ∧
      (c.shared.2.streams connectionId).dispatched ++ aboutToDispatch c worker connectionId =
        messages.map WireMessage.raw ∧
      ∀ sent, (c.shared.2.streams connectionId).received <+: (clientCode order).text sent →
        messages <+: sent ∧
          ((c.shared.2.streams connectionId).received = (clientCode order).text sent → messages = sent) := by
  obtain ⟨messages, rest, hreceived, hrest, hdispatched⟩ := parsed_run h connectionId
  refine ⟨messages, rest, hreceived, hrest, hdispatched, fun sent hsent => ⟨?_, fun hall => ?_⟩⟩
  · exact PrefixCode.prefix_of_received hreceived.symm (by rw [List.append_nil]; exact hsent) PrefixCode.incomplete_nil
  · exact (PrefixCode.text_unique (by rw [← hreceived, List.append_nil, hall]) hrest PrefixCode.incomplete_nil).1

/-- The first of the two threads is the worker. -/
def falseWorks (_ : InboundPool Bool) : Move Bool WorkerOp WorkerInput → Bool
  | .start t .round => !t
  | _ => true

theorem oneWorker_of_falseWorks (c : InboundPool Bool) (m : Move Bool WorkerOp WorkerInput)
    (h : falseWorks c m = true) : oneWorker false c m := by
  cases m with
  | start t o => cases o <;> simp_all [falseWorks, oneWorker]
  | act t i => trivial

/-- A message that comes in two pieces. -/
theorem dispatched_of_received_after : ∃ c, (Pool.initial (listeningGate, {})).play (inboundMachine Bool)
      (fun _ => WorkerOp.code .little) falseWorks (acceptsOnFive ++ readsInTwo) = some c ∧
    (c.shared.2.streams 1).received = seventhMessage ∧ (c.shared.2.streams 1).dispatched = [(7, [])] ∧
    ∃ messages rest,
      (c.shared.2.streams 1).received = (clientCode .little).text messages ++ rest ∧
      (clientCode .little).Incomplete rest ∧
      (c.shared.2.streams 1).dispatched ++ aboutToDispatch c false 1 = messages.map WireMessage.raw ∧
      ∀ sent, (c.shared.2.streams 1).received <+: (clientCode .little).text sent →
        messages <+: sent ∧
          ((c.shared.2.streams 1).received = (clientCode .little).text sent → messages = sent) := by
  have hend : ((Pool.initial (listeningGate, {})).play (inboundMachine Bool) (fun _ => WorkerOp.code .little)
      falseWorks (acceptsOnFive ++ readsInTwo)).map
        (fun c => ((c.shared.2.streams 1).received, (c.shared.2.streams 1).dispatched)) =
      some (seventhMessage, [(7, [])]) := rfl
  obtain ⟨c, hc, hcs⟩ := Option.map_eq_some_iff.mp hend
  simp only [Prod.mk.injEq] at hcs
  have hrun := Run.refl.play oneWorker_of_falseWorks hc
  exact ⟨c, hc, hcs.1, hcs.2, dispatched_of_received .little hrun 1⟩

end Runs

end SomeServer
