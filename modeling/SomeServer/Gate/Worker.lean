/-
# SomeServer.Gate.Worker — the worker loop of `GateConnectionService`

The worker copies the connections with their descriptors, waits for them with `select` and reads from
those that are ready, without the mutex. Meanwhile other threads may close connections, and so may the
handlers that the worker itself runs; the system may then give the number of a closed descriptor to the
next socket that is accepted, or to any other part of the process. `GateSockets` has the tables of the
service together with what each descriptor of the process is, and every `recv` is written down with the
connection that it is made for and the socket that it reads from.

`mConnectionIdBySocket` and the times of a connection are written and never read; they are left out.
-/
import SomeServer.Gate.Process
import SomeServer.Ipc.Sends
import SomeServer.Lib.Protocol

namespace SomeServer

open Lib

/-! ## Descriptors -/

/-- What an open descriptor is: the socket that is listened on, the socket that was accepted as a
connection, or anything else. -/
inductive Descriptor where
  | listening
  | accepted (connectionId : ConnectionId)
  | other
deriving DecidableEq, Repr

/-- The tables of the service, and the open descriptors of its process. -/
structure GateSockets where
  connections : ConnectionId → Option GateConnectionState := fun _ => none
  socketByConnectionId : Table ConnectionId Int := .empty
  nextConnectionId : ConnectionId := 1
  listenSocketFd : Option Int := none
  stopping : Bool := false
  descriptors : Int → Option Descriptor := fun _ => none

/-- What the worker waits for. -/
structure Watched where
  listen : Option Int
  sockets : List (ConnectionId × Int)
deriving DecidableEq, Repr

/-- The descriptors in the set that `select` is given. -/
def Watched.fds (watched : Watched) : List Int := watched.listen.toList ++ watched.sockets.map Prod.snd

/-! ## Sections -/

inductive WorkerAct where
  /-- The section at the head of the loop. -/
  | copySockets
  | select (watched : Watched)
  | listenReady (ready : List Int)
  | acceptReadySocket
  /-- `recv` into what is left of a buffer, behind what it has already. -/
  | recv (connectionId : ConnectionId) (fd : Int) (part : FramePart) (buffer : ByteBuffer) (size : Nat)
  | dispatch (connectionId : ConnectionId) (messageId : UInt32) (payload : ByteBuffer)
  | accept (connectionId : ConnectionId)
  | closeEnter (connectionId : ConnectionId)
  | finalize (connectionId : ConnectionId)
  | stop
  /-- Another part of the process opens a descriptor, or closes one of its own. -/
  | openOther
  | closeOther (fd : Int)

@[reducible] def WorkerAct.Reply : WorkerAct → Type
  | copySockets => Option Watched
  | select _ => List Int
  | listenReady _ => Bool
  | acceptReadySocket => Unit
  | recv _ _ _ _ size => Option {bytes : ByteBuffer // 0 < bytes.length ∧ bytes.length ≤ size}
  | dispatch _ _ _ => List ConnectionId
  | accept _ => Result
  | closeEnter _ => Result
  | finalize _ => Unit
  | stop => Unit
  | openOther => Unit
  | closeOther _ => Unit

/-- What the outside decides: the order of a walk over the sockets, the descriptors that are ready, the
number of a new descriptor, what a `recv` reads, and the connections that a handler closes. -/
structure WorkerInput where
  order : List ConnectionId := []
  ready : List Int := []
  fd : Int := -1
  received : Option ByteBuffer := none
  closes : List ConnectionId := []

namespace GateSockets

def setState (s : GateSockets) (connectionId : ConnectionId) (state : GateConnectionState) : GateSockets :=
  { s with connections := Function.update s.connections connectionId (some state) }

/-- The sockets, in the order of a walk. -/
def walked (s : GateSockets) (order : List ConnectionId) : List (ConnectionId × Int) :=
  order.filterMap fun connectionId => (s.socketByConnectionId.get connectionId).map fun fd => (connectionId, fd)

/-- What the worker waits for, unless it is to stop or there is nothing. -/
def watched (s : GateSockets) (order : List ConnectionId) : Option Watched :=
  if s.stopping then none
  else if s.listenSocketFd = none ∧ s.walked order = [] then none
  else some ⟨s.listenSocketFd, s.walked order⟩

/-- `AcceptReadySocket`, when `accept` has returned a descriptor. -/
def acceptSocket (fd : Int) (s : GateSockets) : GateSockets :=
  { s with
    connections := Function.update s.connections s.nextConnectionId (some .accepted)
    socketByConnectionId := s.socketByConnectionId.set s.nextConnectionId fd
    nextConnectionId := s.nextConnectionId + 1
    descriptors := Function.update s.descriptors fd (some (.accepted s.nextConnectionId)) }

/-- `CloseSocketLocked`. -/
def closeSocket (connectionId : ConnectionId) (s : GateSockets) : GateSockets :=
  match s.socketByConnectionId.get connectionId with
  | none => s
  | some fd =>
      { s with
        socketByConnectionId := s.socketByConnectionId.erase connectionId
        descriptors := Function.update s.descriptors fd none }

/-- `Accept`, the console's way in. -/
def accept (connectionId : ConnectionId) (s : GateSockets) : GateSockets × Result :=
  if (s.connections connectionId).isSome then (s, .failure "connection already exists")
  else (s.setState connectionId .accepted, .success)

/-- The first section of `Close`. -/
def closeEnter (connectionId : ConnectionId) (s : GateSockets) : GateSockets × Result :=
  if (s.connections connectionId).isSome then
    ((s.setState connectionId .closed).closeSocket connectionId, .success)
  else (s, .failure "connection does not exist")

/-- The section of `FinalizeConnection`. -/
def finalize (connectionId : ConnectionId) (s : GateSockets) : GateSockets :=
  (if (s.connections connectionId).isSome then s.setState connectionId .closed else s).closeSocket
    connectionId

/-- The first section of `Stop`. -/
def stop (order : List ConnectionId) (s : GateSockets) : GateSockets :=
  { s with
    stopping := true
    listenSocketFd := none
    socketByConnectionId := .empty
    descriptors := (s.listenSocketFd.toList ++ (s.walked order).map Prod.snd).foldl
      (fun descriptors fd => Function.update descriptors fd none) s.descriptors }

/-- A walk comes to every connection, and to none twice. -/
def walks (s : GateSockets) (order : List ConnectionId) : Bool :=
  s.socketByConnectionId.walks order && order.Nodup

/-- One section. The system gives out descriptors that are not open; `recv` fails on one that is not. -/
def exec (i : WorkerInput) (s : GateSockets) : (a : WorkerAct) → Option (GateSockets × a.Reply)
  | .copySockets => if s.walks i.order then some (s, s.watched i.order) else none
  | .select watched => some (s, i.ready.filter fun fd => fd ∈ watched.fds)
  | .listenReady ready => some (s, s.listenSocketFd.any fun fd => fd ∈ ready)
  -- `accept` fails without a listening socket, and otherwise brings a free descriptor
  | .acceptReadySocket =>
      if s.listenSocketFd = none ∨ i.fd < 0 then some (s, ())
      else if s.descriptors i.fd = none then some (s.acceptSocket i.fd, ()) else none
  -- no more bytes than were asked for, and not none
  | .recv _ fd _ _ size =>
      match s.descriptors fd, i.received with
      | some _, some bytes =>
          if h : 0 < bytes.length ∧ bytes.length ≤ size then some (s, some ⟨bytes, h⟩) else none
      | _, _ => some (s, none)
  | .dispatch _ _ _ => some (s, i.closes)
  | .accept connectionId => some (s.accept connectionId)
  | .closeEnter connectionId => some (s.closeEnter connectionId)
  | .finalize connectionId => some (s.finalize connectionId, ())
  | .stop => if s.walks i.order then some (s.stop i.order, ()) else none
  -- the rest of the process opens and closes descriptors too
  | .openOther =>
      if 0 ≤ i.fd ∧ s.descriptors i.fd = none then
        some ({ s with descriptors := Function.update s.descriptors i.fd (some .other) }, ())
      else none
  | .closeOther fd =>
      if s.descriptors fd = some .other then
        some ({ s with descriptors := Function.update s.descriptors fd none }, ())
      else some (s, ())

/-- The service and the system as a machine. -/
def machine (T : Type) : Machine T WorkerAct WorkerAct.Reply WorkerInput GateSockets where
  exec _ a i s := s.exec i a

/-! ### The tables of the service -/

/-- What the other services know of the connections. -/
def service (s : GateSockets) : GateConnectionService where
  connections := s.connections
  sockets connectionId := (s.socketByConnectionId.get connectionId).isSome
  nextConnectionId := s.nextConnectionId

/-- The section of the service that a section here is, when it is one. -/
def serviceAct (s : GateSockets) (i : WorkerInput) : WorkerAct → Option ConnectionAct
  | .acceptReadySocket =>
      if s.listenSocketFd = none ∨ i.fd < 0 then none else some .acceptReadySocket
  | .accept connectionId => some (.accept connectionId)
  | .closeEnter connectionId => some (.closeEnter connectionId)
  | .finalize connectionId => some (.finalize connectionId)
  | _ => none

theorem service_closeSocket (s : GateSockets) (connectionId : ConnectionId) :
    (s.closeSocket connectionId).service =
      { s.service with sockets := Function.update s.service.sockets connectionId false } := by
  unfold closeSocket
  split
  · rename_i hnone
    have hfalse : s.service.sockets connectionId = false := by
      simp [service, hnone]
    rw [← hfalse, Function.update_eq_self]
  · simp only [service]
    congr 1
    funext connectionId'
    by_cases hid : connectionId' = connectionId
    · subst hid
      simp
    · rw [Table.erase_get_of_ne hid, Function.update_of_ne hid]

/-- A section does to the service what `GateConnectionService` says of it, or leaves the service alone;
only `Stop` has no section there. -/
theorem exec_service {s s' : GateSockets} {i : WorkerInput} {a : WorkerAct} {r : a.Reply}
    (h : s.exec i a = some (s', r)) (hstop : a ≠ .stop) :
    s'.service = match s.serviceAct i a with
      | some act => (s.service.exec {} act).1
      | none => s.service := by
  cases a with
  | copySockets =>
      simp only [exec, Option.ite_none_right_eq_some, Option.some.injEq, Prod.mk.injEq] at h
      rw [← h.2.1]
      rfl
  | select watched | listenReady ready | dispatch c m payload =>
      simp only [exec, Option.some.injEq, Prod.mk.injEq] at h
      rw [← h.1]
      rfl
  -- the two tables take the new connection under the same number
  | acceptReadySocket =>
      simp only [exec] at h
      split at h
      · rename_i hnothing
        cases h
        rw [serviceAct, if_pos hnothing]
      · rename_i haccepted
        simp only [Option.ite_none_right_eq_some, Option.some.injEq, Prod.mk.injEq] at h
        rw [← h.2.1, serviceAct, if_neg haccepted]
        simp only [service, acceptSocket, GateConnectionService.exec,
          GateConnectionService.acceptReadySocket]
        congr 1
        funext connectionId
        by_cases hid : connectionId = s.nextConnectionId
        · subst hid
          simp
        · rw [Table.set_get_of_ne hid, Function.update_of_ne hid]
  | recv c fd part buffer size =>
      simp only [exec] at h
      split at h
      · simp only [Option.dite_none_right_eq_some, Option.some.injEq, Prod.mk.injEq] at h
        rw [← h.2.1]
        rfl
      · cases h
        rfl
  | accept connectionId =>
      simp only [exec, Option.some.injEq] at h
      obtain rfl : (s.accept connectionId).1 = s' := congrArg Prod.fst h
      simp only [serviceAct, GateConnectionService.exec, GateConnectionService.accept, accept]
      simp only [show s.service.connections = s.connections from rfl]
      split <;> rfl
  | closeEnter connectionId =>
      simp only [exec, Option.some.injEq] at h
      obtain rfl : (s.closeEnter connectionId).1 = s' := congrArg Prod.fst h
      simp only [serviceAct, GateConnectionService.exec, GateConnectionService.closeEnter, closeEnter]
      simp only [show s.service.connections = s.connections from rfl]
      split
      · exact service_closeSocket _ _
      · rfl
  | finalize connectionId =>
      simp only [exec, Option.some.injEq, Prod.mk.injEq] at h
      rw [← h.1]
      simp only [serviceAct, GateConnectionService.exec, GateConnectionService.finalize, finalize]
      rw [service_closeSocket]
      simp only [show s.service.connections = s.connections from rfl]
      split <;> rfl
  | stop => exact absurd rfl hstop
  | openOther =>
      simp only [exec, Option.ite_none_right_eq_some, Option.some.injEq, Prod.mk.injEq] at h
      rw [← h.2.1]
      rfl
  | closeOther fd =>
      simp only [exec] at h
      split at h <;> cases h <;> rfl

end GateSockets

/-! ## Programs -/

abbrev WorkerCall (α : Type) : Type := Prog WorkerAct WorkerAct.Reply α

/-- One section of the service. -/
abbrev workerCall (a : WorkerAct) : WorkerCall a.Reply := Prog.call a

/-- The loop of `ReadExact`, for at most this many calls. -/
def readLoop (connectionId : ConnectionId) (fd : Int) (part : FramePart) :
    Nat → ByteBuffer → Nat → WorkerCall (Option ByteBuffer)
  | 0, buffer, _ => .ret (some buffer)
  | calls + 1, buffer, size =>
      if size = 0 then .ret (some buffer)
      else .act (.recv connectionId fd part buffer size) fun
        | none => .ret none
        | some bytes => readLoop connectionId fd part calls (buffer ++ bytes.1) (size - bytes.1.length)

/-- `ReadExact`; every call reads at least one byte. -/
def readExact (connectionId : ConnectionId) (fd : Int) (part : FramePart) (size : Nat) :
    WorkerCall (Option ByteBuffer) := readLoop connectionId fd part size [] size

/-- `std::uint32_t header[2]`. -/
def kClientHeaderSize : Nat := 8

def clientMessageId (order : ByteOrder) (header : ByteBuffer) : UInt32 :=
  UInt32.ofNat (order.nat (header.take 4))

def clientPayloadSize (order : ByteOrder) (header : ByteBuffer) : Nat :=
  order.nat ((header.drop 4).take 4)

/-- `Close`; the disconnect handler closes no connection. -/
def closeClient (connectionId : ConnectionId) : WorkerCall Unit := do
  let enter ← workerCall (.closeEnter connectionId)
  if !enter.ok then return ()
  workerCall (.finalize connectionId)

/-- The connections that a handler closes. -/
def closeClients : List ConnectionId → WorkerCall Unit
  | [] => return ()
  | connectionId :: connectionIds => do
      closeClient connectionId
      closeClients connectionIds

/-- `HandleReadable`. -/
def handleReadable (order : ByteOrder) (connectionId : ConnectionId) (fd : Int) : WorkerCall Unit := do
  match ← readExact connectionId fd .header kClientHeaderSize with
  | none => workerCall (.finalize connectionId)
  | some header =>
      match ← readExact connectionId fd .payload (clientPayloadSize order header) with
      | none => workerCall (.finalize connectionId)
      | some payload =>
          let closes ← workerCall (.dispatch connectionId (clientMessageId order header) payload)
          closeClients closes

/-- The loop over the copied sockets. -/
def handleReady (order : ByteOrder) (ready : List Int) : List (ConnectionId × Int) → WorkerCall Unit
  | [] => return ()
  | (connectionId, fd) :: sockets => do
      if fd ∈ ready then handleReadable order connectionId fd
      handleReady order ready sockets

/-- One round of `WorkerLoop`. -/
def workerRound (order : ByteOrder) : WorkerCall Unit := do
  match ← workerCall .copySockets with
  | none => return ()
  | some watched =>
      let ready ← workerCall (.select watched)
      if ready = [] then return ()
      if ← workerCall (.listenReady ready) then workerCall .acceptReadySocket
      handleReady order ready watched.sockets

/-- What the threads of the process run. -/
inductive WorkerOp where
  | round
  | accept (connectionId : ConnectionId)
  | close (connectionId : ConnectionId)
  | stop
  | openOther
  | closeOther (fd : Int)
deriving DecidableEq, Repr

def WorkerOp.code (order : ByteOrder) : WorkerOp → WorkerCall Unit
  | .round => workerRound order
  | .accept connectionId => do
      let _ ← workerCall (.accept connectionId)
      return ()
  | .close connectionId => closeClient connectionId
  | .stop => workerCall .stop
  | .openOther => workerCall .openOther
  | .closeOther fd => workerCall (.closeOther fd)

/-! ## What is read -/

/-- The ready sockets that a thread has yet to read from, and the connection of the message that it is
at. -/
structure ReadPoint where
  toRead : List (ConnectionId × Int) := []
  reading : Option ConnectionId := none

/-- Whether nothing more is read for a connection after a `recv`: it has failed, or the message is
complete. -/
def readEnds (order : ByteOrder) (part : FramePart) (buffer : ByteBuffer) (size : Nat) :
    Option ByteBuffer → Bool
  | none => true
  | some bytes => size ≤ bytes.length && (part = .payload || clientPayloadSize order (buffer ++ bytes) = 0)

namespace ReadPoint

/-- The point after a section. -/
def next (order : ByteOrder) (x : ReadPoint) : (a : WorkerAct) → a.Reply → ReadPoint
  | .select watched, ready => { toRead := watched.sockets.filter fun socket => socket.2 ∈ ready }
  | .recv connectionId _ part buffer size, received => {
      toRead :=
        if readEnds order part buffer size (Option.map Subtype.val received) then x.toRead.tail else x.toRead
      reading := some connectionId }
  | .dispatch _ _ _, _ => { x with reading := none }
  | .finalize _, _ => { x with reading := none }
  | _, _ => x

/-- Where a section comes. -/
def Fits (x : ReadPoint) : WorkerAct → Prop
  | .select _ => x = {}
  | .recv connectionId fd _ _ _ => (∃ sockets, x.toRead = (connectionId, fd) :: sockets) ∧
      (x.reading = none ∨ x.reading = some connectionId)
  | .dispatch connectionId _ _ => x.reading = some connectionId
  | _ => True

end ReadPoint

/-- The protocol of the reads. -/
def readProtocol (order : ByteOrder) (T : Type) :
    Protocol T WorkerOp WorkerAct WorkerAct.Reply ReadPoint where
  fits _ _ x a := x.Fits a
  next _ x a r := x.next order a r
  rest _ x := x = {}

section Programs

variable {T : Type} {t : T} {o : WorkerOp} {order : ByteOrder} {connectionId : ConnectionId} {fd : Int}
  {sockets : List (ConnectionId × Int)} {α : Type}

/-- The program `p` leads from one point to another. -/
abbrev ReadsOn (order : ByteOrder) (t : T) (o : WorkerOp) (x : ReadPoint) (p : WorkerCall α)
    (Q : α → ReadPoint → Prop) : Prop :=
  (readProtocol order T).Follows t o Q p x

/-- What is left to read after a part, which is there or could not be read. -/
def afterPart (order : ByteOrder) (part : FramePart) (connectionId : ConnectionId) (fd : Int)
    (sockets : List (ConnectionId × Int)) : Option ByteBuffer → ReadPoint
  | none => ⟨sockets, some connectionId⟩
  | some buffer =>
      if part = .payload ∨ clientPayloadSize order buffer = 0 then ⟨sockets, some connectionId⟩
      else ⟨(connectionId, fd) :: sockets, some connectionId⟩

theorem readLoop_reads {part : FramePart} (calls : Nat) (buffer : ByteBuffer) {size : Nat}
    (hsize : 0 < size) (hcalls : size ≤ calls) {reading : Option ConnectionId}
    (hreading : reading = none ∨ reading = some connectionId) :
    ReadsOn order t o ⟨(connectionId, fd) :: sockets, reading⟩
      (readLoop connectionId fd part calls buffer size)
      fun result y => y = afterPart order part connectionId fd sockets result := by
  -- induction on the calls that are left; every one that succeeds brings a byte at least
  induction calls generalizing buffer size reading with
  | zero => omega
  | succ calls ih =>
      rw [readLoop, if_neg (by omega)]
      refine ⟨⟨⟨sockets, rfl⟩, hreading⟩, fun received => ?_⟩
      cases received with
      | none => rfl
      | some bytes =>
          obtain ⟨bytes, hpos, hle⟩ := bytes
          show ReadsOn order t o ⟨if size ≤ bytes.length && _ then sockets else _, some connectionId⟩ _ _
          by_cases hall : size ≤ bytes.length
          · -- the part is complete
            have hdone : readLoop connectionId fd part calls (buffer ++ bytes) (size - bytes.length) =
                .ret (some (buffer ++ bytes)) := by
              rw [show size - bytes.length = 0 by omega]
              cases calls <;> rfl
            refine Eq.mpr (congrArg (fun p => ReadsOn order t o _ p _) hdone) ?_
            show _ = afterPart order part connectionId fd sockets (some (buffer ++ bytes))
            simp only [hall, decide_true, Bool.true_and, afterPart, Bool.or_eq_true, decide_eq_true_eq]
            split <;> rfl
          -- the rest of the part is still to come
          · have hmore : ReadsOn order t o ⟨(connectionId, fd) :: sockets, some connectionId⟩
                (readLoop connectionId fd part calls (buffer ++ bytes) (size - bytes.length))
                fun result y => y = afterPart order part connectionId fd sockets result :=
              ih (buffer ++ bytes) (by omega) (by omega) (.inr rfl)
            simpa only [hall, decide_false, Bool.false_and, Bool.false_eq_true, if_false] using hmore

theorem closeClient_reads {x : ReadPoint} (hx : x.reading = none) :
    ReadsOn order t o x (closeClient connectionId) fun _ y => y = x := by
  refine ⟨trivial, fun enter => ?_⟩
  show ReadsOn order t o x (if !enter.ok then Prog.ret () else _) _
  split
  · rfl
  · refine ⟨trivial, fun _ => ?_⟩
    show { x with reading := none } = x
    rw [← hx]

theorem closeClients_reads {x : ReadPoint} (hx : x.reading = none) (connectionIds : List ConnectionId) :
    ReadsOn order t o x (closeClients connectionIds) fun _ y => y = x := by
  induction connectionIds with
  | nil => rfl
  | cons connectionId connectionIds ih =>
      refine Protocol.Follows.bind ((closeClient_reads hx).mono fun _ y hy => ?_)
      rw [hy]
      exact ih

theorem handleReadable_reads : ReadsOn order t o ⟨(connectionId, fd) :: sockets, none⟩
    (handleReadable order connectionId fd) fun _ y => y = ⟨sockets, none⟩ := by
  unfold handleReadable
  have hdispatch : ∀ header payload, ReadsOn order t o ⟨sockets, some connectionId⟩
      (workerCall (.dispatch connectionId (clientMessageId order header) payload) >>= closeClients)
      fun _ y => y = ⟨sockets, none⟩ := by
    intro header payload
    exact Protocol.follows_seq rfl fun closes => closeClients_reads rfl closes
  refine Protocol.Follows.bind ((readLoop_reads kClientHeaderSize [] (by decide) (Nat.le_refl _)
    (.inl rfl)).mono fun header y hy => ?_)
  subst hy
  cases header with
  | none => exact ⟨trivial, fun _ => rfl⟩
  | some header =>
      -- without a payload the header is the last part, and the socket is done with it
      by_cases hempty : clientPayloadSize order header = 0
      · rw [afterPart, if_pos (.inr hempty)]
        show ReadsOn order t o _ (readExact connectionId fd .payload (clientPayloadSize order header) >>= _) _
        rw [hempty]
        exact hdispatch header []
      · rw [afterPart, if_neg (by simp [hempty])]
        refine Protocol.Follows.bind ((readLoop_reads _ [] (Nat.pos_of_ne_zero hempty) (Nat.le_refl _)
          (.inr rfl)).mono fun payload y hy => ?_)
        subst hy
        cases payload with
        | none => exact ⟨trivial, fun _ => rfl⟩
        | some payload => exact hdispatch header payload

theorem handleReady_reads (ready : List Int) (sockets : List (ConnectionId × Int)) :
    ReadsOn order t o ⟨sockets.filter fun socket => socket.2 ∈ ready, none⟩
      (handleReady order ready sockets) fun _ y => y = {} := by
  induction sockets with
  | nil => rfl
  | cons socket sockets ih =>
      obtain ⟨connectionId, fd⟩ := socket
      rw [handleReady]
      by_cases hready : fd ∈ ready
      · rw [List.filter_cons_of_pos (by simpa using hready), if_pos hready]
        refine Protocol.Follows.bind (handleReadable_reads.mono fun _ y hy => ?_)
        rw [hy]
        exact ih
      · rw [List.filter_cons_of_neg (by simpa using hready), if_neg hready]
        exact ih

/-- Every operation keeps to the protocol. -/
theorem WorkerOp.reads (order : ByteOrder) (t : T) (o : WorkerOp) :
    ReadsOn order t o {} (o.code order) fun _ y => y = {} := by
  cases o with
  | round =>
      refine Protocol.follows_seq trivial fun watched => ?_
      cases watched with
      | none => rfl
      | some watched =>
          refine Protocol.follows_seq rfl fun ready => ?_
          show ReadsOn order t _ _ (if ready = [] then _ else _) _
          split
          · rename_i hnone
            subst hnone
            show _ = _
            simp [readProtocol, ReadPoint.next]
          · refine Protocol.follows_seq trivial fun listening => ?_
            cases listening with
            | true => exact Protocol.follows_seq trivial fun _ => handleReady_reads ready watched.sockets
            | false => exact handleReady_reads ready watched.sockets
  | accept connectionId => exact ⟨trivial, fun _ => rfl⟩
  | close connectionId => exact closeClient_reads rfl
  | stop | openOther | closeOther _ => exact ⟨trivial, fun _ => rfl⟩

end Programs

/-! ## What is written down -/

/-- Each `recv` that was made, with the connection that it was made for and what it read from; and each
message that was dispatched, with all that its bytes were read from. -/
structure WorkerLog (T : Type) where
  points : T → ReadPoint := fun _ => {}
  sources : T → List (Option Descriptor) := fun _ => []
  reads : List (ConnectionId × Option Descriptor) := []
  dispatched : List (ConnectionId × List (Option Descriptor)) := []

namespace WorkerLog

variable {T : Type} [DecidableEq T]

/-- What a section adds. -/
def adds (log : WorkerLog T) (t : T) (s : GateSockets) : WorkerAct → WorkerLog T
  | .recv connectionId fd _ _ _ =>
      { log with
        sources := Function.update log.sources t (s.descriptors fd :: log.sources t)
        reads := (connectionId, s.descriptors fd) :: log.reads }
  | .dispatch connectionId _ _ =>
      { log with
        sources := Function.update log.sources t []
        dispatched := (connectionId, log.sources t) :: log.dispatched }
  | .finalize _ => { log with sources := Function.update log.sources t [] }
  | _ => log

/-- What is written down about a section. -/
def record (order : ByteOrder) (t : T) (a : WorkerAct) (s : GateSockets) (r : a.Reply)
    (log : WorkerLog T) : WorkerLog T :=
  { log.adds t s a with points := Function.update log.points t ((log.points t).next order a r) }

omit [DecidableEq T] in
/-- A connection that a thread has yet to read from. -/
def ToRead (log : WorkerLog T) (connectionId : ConnectionId) (fd : Int) : Prop :=
  ∃ t, (connectionId, fd) ∈ (log.points t).toRead

end WorkerLog

/-- Every socket of the service, and every one that is yet to be read, is the one that was accepted as
its connection; and only such sockets have been read from. -/
structure Reads {T : Type} (x : GateSockets × WorkerLog T) : Prop where
  mapped : ∀ connectionId fd, x.1.socketByConnectionId.get connectionId = some fd →
    x.1.descriptors fd = some (.accepted connectionId)
  toRead : ∀ connectionId fd, x.2.ToRead connectionId fd →
    x.1.descriptors fd = some (.accepted connectionId)
  sources : ∀ t, ∀ source ∈ x.2.sources t, ∃ connectionId,
    (x.2.points t).reading = some connectionId ∧ source = some (.accepted connectionId)
  reads : ∀ read ∈ x.2.reads, read.2 = some (.accepted read.1)
  dispatched : ∀ message ∈ x.2.dispatched, ∀ source ∈ message.2, source = some (.accepted message.1)

namespace Reads

variable {T : Type} [DecidableEq T] {s s' : GateSockets} {log : WorkerLog T} {t : T} {i : WorkerInput}
  {connectionId : ConnectionId} {fd : Int}

omit [DecidableEq T] in
/-- Descriptors may change as long as no socket does that is mapped or yet to be read. -/
theorem changes (h : Reads (s, log))
    (hmapped : ∀ connectionId fd, s'.socketByConnectionId.get connectionId = some fd →
      s'.descriptors fd = some (.accepted connectionId))
    (hkeeps : ∀ connectionId fd, log.ToRead connectionId fd →
      s.descriptors fd = some (.accepted connectionId) → s'.descriptors fd = s.descriptors fd) :
    Reads (s', log) where
  mapped := hmapped
  toRead connectionId fd hread := by
    have hold : s.descriptors fd = some (.accepted connectionId) := h.toRead connectionId fd hread
    rw [show (s', log).1.descriptors fd = s.descriptors fd from hkeeps connectionId fd hread hold]
    exact hold
  sources := h.sources
  reads := h.reads
  dispatched := h.dispatched

omit [DecidableEq T] in
/-- A descriptor that no connection has is opened or closed. -/
theorem descriptor (h : Reads (s, log)) {value : Option Descriptor}
    (hfd : ∀ connectionId, s.descriptors fd ≠ some (.accepted connectionId)) :
    Reads ({ s with descriptors := Function.update s.descriptors fd value }, log) := by
  have hne : ∀ connectionId fd', s.descriptors fd' = some (.accepted connectionId) → fd' ≠ fd := by
    rintro connectionId fd' hold rfl
    exact hfd connectionId hold
  refine h.changes (fun connectionId fd' hget => ?_) fun connectionId fd' _ hold => ?_
  · have hold := h.mapped connectionId fd' hget
    exact (Function.update_of_ne (hne _ _ hold) _ _).trans hold
  · exact Function.update_of_ne (hne _ _ hold) _ _

omit [DecidableEq T] in
theorem acceptSocket (h : Reads (s, log)) (hfree : s.descriptors fd = none) :
    Reads (s.acceptSocket fd, log) := by
  have hne : ∀ connectionId fd', s.descriptors fd' = some (.accepted connectionId) → fd' ≠ fd := by
    rintro connectionId fd' hold rfl
    rw [hfree] at hold
    cases hold
  refine h.changes (fun connectionId fd' hget => ?_) fun connectionId fd' _ hold => ?_
  · simp only [GateSockets.acceptSocket] at hget ⊢
    by_cases hid : connectionId = s.nextConnectionId
    · subst hid
      rw [Table.set_get_self] at hget
      cases hget
      exact Function.update_self _ _ _
    · rw [Table.set_get_of_ne hid] at hget
      have hold := h.mapped connectionId fd' hget
      exact (Function.update_of_ne (hne _ _ hold) _ _).trans hold
  · exact Function.update_of_ne (hne _ _ hold) _ _

omit [DecidableEq T] in
theorem setState (h : Reads (s, log)) (state : GateConnectionState) :
    Reads (s.setState connectionId state, log) :=
  h.changes h.mapped fun _ _ _ _ => rfl

omit [DecidableEq T] in
/-- A connection is closed that nobody has yet to read from. -/
theorem closeSocket (h : Reads (s, log))
    (hread : ∀ fd, s.socketByConnectionId.get connectionId = some fd → ¬ log.ToRead connectionId fd) :
    Reads (s.closeSocket connectionId, log) := by
  unfold GateSockets.closeSocket
  split
  · exact h
  · rename_i fd hget
    have hown := h.mapped connectionId fd hget
    -- a descriptor belongs to one connection, which is the one that is closed
    have hsame : ∀ connectionId' fd', s.descriptors fd' = some (.accepted connectionId') →
        fd' = fd → connectionId' = connectionId := by
      rintro connectionId' fd' hold rfl
      rw [show s.descriptors fd' = some (.accepted connectionId) from hown] at hold
      cases hold
      rfl
    refine h.changes (fun connectionId' fd' hget' => ?_) fun connectionId' fd' hread' hold => ?_
    · by_cases hid : connectionId' = connectionId
      · subst hid
        rw [Table.erase_get_self] at hget'
        cases hget'
      · rw [Table.erase_get_of_ne hid] at hget'
        have hold := h.mapped connectionId' fd' hget'
        exact (Function.update_of_ne (fun heq => hid (hsame _ _ hold heq)) _ _).trans hold
    · apply Function.update_of_ne
      intro heq
      obtain rfl := hsame connectionId' fd' hold heq
      exact hread fd hget (heq ▸ hread')

omit [DecidableEq T] in
theorem closeEnter (h : Reads (s, log))
    (hread : ∀ fd, s.socketByConnectionId.get connectionId = some fd → ¬ log.ToRead connectionId fd) :
    Reads ((s.closeEnter connectionId).1, log) := by
  unfold GateSockets.closeEnter
  split
  · exact (h.setState .closed).closeSocket hread
  · exact h

omit [DecidableEq T] in
theorem finalize (h : Reads (s, log))
    (hread : ∀ fd, s.socketByConnectionId.get connectionId = some fd → ¬ log.ToRead connectionId fd) :
    Reads (s.finalize connectionId, log) := by
  unfold GateSockets.finalize
  split
  · exact (h.setState .closed).closeSocket hread
  · exact h.closeSocket hread

omit [DecidableEq T] in
/-- Everything is closed while nobody has anything to read. -/
theorem stop (h : Reads (s, log)) (order : List ConnectionId)
    (hread : ∀ connectionId fd, ¬ log.ToRead connectionId fd) : Reads (s.stop order, log) := by
  refine h.changes (fun connectionId fd hget => ?_) fun connectionId fd hread' _ => ?_
  · cases hget
  · exact absurd hread' (hread connectionId fd)

/-- A thread comes to another point of a message, or has less to read. -/
theorem moves (h : Reads (s, log)) {x : ReadPoint} (hread : x.toRead ⊆ (log.points t).toRead)
    (hreading : x.reading = (log.points t).reading ∨ log.sources t = []) :
    Reads (s, { log with points := Function.update log.points t x }) := by
  refine ⟨h.mapped, ?_, fun u source hsource => ?_, h.reads, h.dispatched⟩
  · rintro connectionId fd ⟨u, hu⟩
    by_cases hut : u = t
    · subst hut
      simp only [Function.update_self] at hu
      exact h.toRead connectionId fd ⟨u, hread hu⟩
    · simp only [Function.update_of_ne hut] at hu
      exact h.toRead connectionId fd ⟨u, hu⟩
  · by_cases hut : u = t
    · subst hut
      simp only [Function.update_self]
      rcases hreading with hsame | hnone
      · rw [hsame]
        exact h.sources u source hsource
      · rw [show log.sources u = [] from hnone] at hsource
        cases hsource
    · simp only [Function.update_of_ne hut]
      exact h.sources u source hsource

omit [DecidableEq T] in
/-- A thread at no message has nothing in its buffer. -/
theorem sources_nil (h : Reads (s, log)) (hreading : (log.points t).reading = none) :
    log.sources t = [] := by
  apply List.eq_nil_iff_forall_not_mem.mpr
  intro source hsource
  obtain ⟨connectionId, hsome, -⟩ := h.sources t source hsource
  rw [show (log.points t).reading = none from hreading] at hsome
  cases hsome

/-- The ready sockets have not been closed since they were copied. -/
theorem selects (h : Reads (s, log)) {sockets : List (ConnectionId × Int)}
    (hpoint : log.points t = {})
    (hready : ∀ socket ∈ sockets, s.socketByConnectionId.get socket.1 = some socket.2) :
    Reads (s, { log with points := Function.update log.points t { toRead := sockets } }) := by
  refine ⟨h.mapped, ?_, fun u source hsource => ?_, h.reads, h.dispatched⟩
  · rintro connectionId fd ⟨u, hu⟩
    by_cases hut : u = t
    · subst hut
      simp only [Function.update_self] at hu
      exact h.mapped connectionId fd (hready _ hu)
    · simp only [Function.update_of_ne hut] at hu
      exact h.toRead connectionId fd ⟨u, hu⟩
  · by_cases hut : u = t
    · subst hut
      rw [show log.sources u = [] from h.sources_nil (by rw [hpoint])] at hsource
      cases hsource
    · simp only [Function.update_of_ne hut]
      exact h.sources u source hsource

/-- A `recv` reads from the socket of its connection. -/
theorem receives (h : Reads (s, log)) {part : FramePart} {buffer : ByteBuffer} {size : Nat} {x : ReadPoint}
    (hfits : (log.points t).Fits (.recv connectionId fd part buffer size))
    (hread : x.toRead ⊆ (log.points t).toRead) (hreading : x.reading = some connectionId) :
    Reads (s, { log.adds t s (.recv connectionId fd part buffer size) with
      points := Function.update log.points t x }) := by
  obtain ⟨⟨sockets, hsockets⟩, hbefore⟩ := hfits
  have hown : s.descriptors fd = some (.accepted connectionId) :=
    h.toRead connectionId fd ⟨t, by rw [hsockets]; exact List.mem_cons_self⟩
  refine ⟨h.mapped, ?_, fun u source hsource => ?_, fun read hmem => ?_, h.dispatched⟩
  · rintro connectionId' fd' ⟨u, hu⟩
    by_cases hut : u = t
    · subst hut
      simp only [Function.update_self] at hu
      exact h.toRead connectionId' fd' ⟨u, hread hu⟩
    · simp only [Function.update_of_ne hut] at hu
      exact h.toRead connectionId' fd' ⟨u, hu⟩
  · simp only [WorkerLog.adds] at hsource
    by_cases hut : u = t
    · subst hut
      simp only [Function.update_self]
      rw [Function.update_self, List.mem_cons] at hsource
      refine ⟨connectionId, hreading, ?_⟩
      rcases hsource with rfl | hold
      · exact hown
      · obtain ⟨connectionId', hsome, hsource⟩ := h.sources u source hold
        -- the first bytes of a message, or more of the same connection's
        rcases hbefore with hnone | hsame
        · rw [show (log.points u).reading = none from hnone] at hsome
          cases hsome
        · rw [show (log.points u).reading = some connectionId from hsame] at hsome
          cases hsome
          exact hsource
    · rw [Function.update_of_ne hut] at hsource
      simp only [Function.update_of_ne hut]
      exact h.sources u source hsource
  · simp only [WorkerLog.adds, List.mem_cons] at hmem
    rcases hmem with rfl | hold
    · exact hown
    · exact h.reads read hold

/-- A buffer is emptied. -/
theorem empties (h : Reads (s, log)) :
    Reads (s, { log with sources := Function.update log.sources t [] }) := by
  refine ⟨h.mapped, h.toRead, fun u source hsource => ?_, h.reads, h.dispatched⟩
  by_cases hut : u = t
  · subst hut
    simp only [Function.update_self] at hsource
    cases hsource
  · simp only [Function.update_of_ne hut] at hsource
    exact h.sources u source hsource

/-- A message is dispatched under the connection that it was read from. -/
theorem dispatches (h : Reads (s, log)) (hreading : (log.points t).reading = some connectionId) :
    Reads (s, { log with
      sources := Function.update log.sources t []
      dispatched := (connectionId, log.sources t) :: log.dispatched }) := by
  have hempties := h.empties (t := t)
  refine ⟨h.mapped, h.toRead, hempties.sources, h.reads, fun message hmem source hsource => ?_⟩
  simp only [List.mem_cons] at hmem
  rcases hmem with rfl | hold
  · obtain ⟨connectionId', hsome, heq⟩ := h.sources t source hsource
    rw [show (log.points t).reading = some connectionId from hreading] at hsome
    cases hsome
    exact heq
  · exact h.dispatched message hold source hsource

variable {order : ByteOrder}

/-- A section that leaves its thread where it is. -/
theorem stays (h : Reads (s, log)) :
    Reads (s, { log with points := Function.update log.points t (log.points t) }) :=
  h.moves (List.Subset.refl _) (.inl rfl)

/-- One section keeps the invariant, when `select` reports no socket that has been closed since it was
copied, and nobody closes one that is yet to be read. -/
theorem exec {a : WorkerAct} {r : a.Reply} (h : Reads (s, log)) (hfits : (log.points t).Fits a)
    (hexec : s.exec i a = some (s', r))
    (hselect : ∀ watched, a = .select watched → ∀ socket ∈ watched.sockets, socket.2 ∈ i.ready →
      s.socketByConnectionId.get socket.1 = some socket.2)
    (hclose : ∀ connectionId, a = .closeEnter connectionId ∨ a = .finalize connectionId →
      ∀ fd, s.socketByConnectionId.get connectionId = some fd → ¬ log.ToRead connectionId fd)
    (hstop : a = .stop → ∀ connectionId fd, ¬ log.ToRead connectionId fd) :
    Reads (s', log.record order t a s r) := by
  cases a with
  | copySockets =>
      simp only [GateSockets.exec, Option.ite_none_right_eq_some, Option.some.injEq,
        Prod.mk.injEq] at hexec
      obtain ⟨-, rfl, -⟩ := hexec
      exact h.stays
  -- what is ready is open still, by the condition
  | select watched =>
      simp only [GateSockets.exec, Option.some.injEq, Prod.mk.injEq] at hexec
      obtain ⟨rfl, rfl⟩ := hexec
      refine h.selects hfits fun socket hsocket => ?_
      simp only [List.mem_filter, decide_eq_true_eq] at hsocket
      exact hselect watched rfl socket hsocket.1 hsocket.2.1
  | listenReady ready =>
      simp only [GateSockets.exec, Option.some.injEq, Prod.mk.injEq] at hexec
      obtain ⟨rfl, -⟩ := hexec
      exact h.stays
  | acceptReadySocket =>
      simp only [GateSockets.exec] at hexec
      split at hexec
      · cases hexec
        exact h.stays
      · simp only [Option.ite_none_right_eq_some, Option.some.injEq, Prod.mk.injEq] at hexec
        obtain ⟨hfree, rfl, -⟩ := hexec
        exact (h.acceptSocket hfree).stays
  | recv connectionId fd part buffer size =>
      have hsame : s' = s := by
        simp only [GateSockets.exec] at hexec
        split at hexec
        · simp only [Option.dite_none_right_eq_some, Option.some.injEq, Prod.mk.injEq] at hexec
          exact hexec.2.1.symm
        · cases hexec
          rfl
      subst hsame
      refine h.receives hfits ?_ rfl
      simp only [ReadPoint.next]
      split
      · exact fun _ => List.mem_of_mem_tail
      · exact List.Subset.refl _
  | dispatch connectionId messageId payload =>
      simp only [GateSockets.exec, Option.some.injEq, Prod.mk.injEq] at hexec
      obtain ⟨rfl, -⟩ := hexec
      exact (h.dispatches hfits).moves (List.Subset.refl _) (.inr (Function.update_self _ _ _))
  | accept connectionId =>
      simp only [GateSockets.exec, Option.some.injEq] at hexec
      obtain rfl : (s.accept connectionId).1 = s' := congrArg Prod.fst hexec
      unfold GateSockets.accept
      split
      · exact h.stays
      · exact (h.setState .accepted).stays
  | closeEnter connectionId =>
      simp only [GateSockets.exec, Option.some.injEq] at hexec
      obtain rfl : (s.closeEnter connectionId).1 = s' := congrArg Prod.fst hexec
      exact (h.closeEnter (hclose connectionId (.inl rfl))).stays
  | finalize connectionId =>
      simp only [GateSockets.exec, Option.some.injEq, Prod.mk.injEq] at hexec
      obtain ⟨rfl, -⟩ := hexec
      exact (h.finalize (hclose connectionId (.inr rfl))).empties.moves (List.Subset.refl _)
        (.inr (Function.update_self _ _ _))
  | stop =>
      simp only [GateSockets.exec, Option.ite_none_right_eq_some, Option.some.injEq,
        Prod.mk.injEq] at hexec
      obtain ⟨-, rfl, -⟩ := hexec
      exact (h.stop i.order (hstop rfl)).stays
  -- no connection has a descriptor that the rest of the process opens or closes
  | openOther =>
      simp only [GateSockets.exec, Option.ite_none_right_eq_some, Option.some.injEq,
        Prod.mk.injEq] at hexec
      obtain ⟨⟨-, hfree⟩, rfl, -⟩ := hexec
      refine (h.descriptor fun connectionId hown => ?_).stays
      rw [hfree] at hown
      cases hown
  | closeOther fd =>
      simp only [GateSockets.exec] at hexec
      split at hexec
      · rename_i hother
        cases hexec
        refine (h.descriptor fun connectionId hown => ?_).stays
        rw [hother] at hown
        cases hown
      · cases hexec
        exact h.stays

end Reads

/-! ## Runs -/

section Runs

variable {T : Type} [DecidableEq T]

/-- The service and the system, with the log. -/
def workerMachine (order : ByteOrder) (T : Type) [DecidableEq T] :
    Machine T WorkerAct WorkerAct.Reply WorkerInput (GateSockets × WorkerLog T) :=
  (GateSockets.machine T).withHistory fun t a _ s _ r log => log.record order t a s r

abbrev WorkerPool (T : Type) : Type :=
  Pool T WorkerOp WorkerAct WorkerAct.Reply Unit (GateSockets × WorkerLog T)

/-- `select` reports no socket that has been closed since it was copied; and from then on no connection
that was reported is closed before it has been read. -/
def leavesOpen (c : WorkerPool T) : Move T WorkerOp WorkerInput → Prop
  | .start _ _ => True
  | .act t i => match c.pending t with
    | some (.select watched) => ∀ socket ∈ watched.sockets, socket.2 ∈ i.ready →
        c.shared.1.socketByConnectionId.get socket.1 = some socket.2
    | some (.closeEnter connectionId) => ∀ fd,
        c.shared.1.socketByConnectionId.get connectionId = some fd → ¬ c.shared.2.ToRead connectionId fd
    | some (.finalize connectionId) => ∀ fd,
        c.shared.1.socketByConnectionId.get connectionId = some fd → ¬ c.shared.2.ToRead connectionId fd
    | some .stop => ∀ connectionId fd, ¬ c.shared.2.ToRead connectionId fd
    | _ => True

/-- Where a thread is. -/
def readPointOf (x : GateSockets × WorkerLog T) (t : T) : ReadPoint := x.2.points t

theorem workerMachine_exec {order : ByteOrder} {t : T} {a : WorkerAct} {i : WorkerInput} {r : a.Reply}
    {x y : GateSockets × WorkerLog T} (h : (workerMachine order T).exec t a i x = some (y, r)) :
    x.1.exec i a = some (y.1, r) ∧ y.2 = x.2.record order t a x.1 r :=
  Machine.withHistory_exec h

omit [DecidableEq T] in
theorem readPointOf_follows (order : ByteOrder) (c : WorkerPool T) (t : T) (o : WorkerOp)
    (hrest : (readProtocol order T).rest t (readPointOf c.shared t)) :
    (readProtocol order T).Follows t o (fun _ y => (readProtocol order T).rest t y) (o.code order)
      (readPointOf c.shared t) := by
  rw [show readPointOf c.shared t = {} from hrest]
  exact o.reads order t

theorem readPointOf_exec (order : ByteOrder) (t : T) (a : WorkerAct) (i : WorkerInput)
    (x y : GateSockets × WorkerLog T) (r : a.Reply)
    (h : (workerMachine order T).exec t a i x = some (y, r)) :
    readPointOf y = Function.update (readPointOf x) t
      ((readProtocol order T).next t (readPointOf x t) a r) := by
  show y.2.points = _
  rw [(workerMachine_exec h).2]
  rfl

/-- **The bytes of a client stay with its connection**, in every run in which no connection is closed
between its copying and its reading: every `recv` is made on the open socket that was accepted as the
connection, and every message is dispatched under the connection that all its bytes were read from. -/
theorem reads_stay (order : ByteOrder) {s₀ : GateSockets}
    (hmapped : ∀ connectionId fd, s₀.socketByConnectionId.get connectionId = some fd →
      s₀.descriptors fd = some (.accepted connectionId)) {c : WorkerPool T}
    (h : Run (workerMachine order T) (fun _ => WorkerOp.code order) leavesOpen
      (Pool.initial (s₀, {})) c) :
    (∀ read ∈ c.shared.2.reads, read.2 = some (.accepted read.1)) ∧
    ∀ message ∈ c.shared.2.dispatched, ∀ source ∈ message.2, source = some (.accepted message.1) := by
  have hreads : Reads c.shared := by
    refine Protocol.run_invariant (fun c t o _ => readPointOf_follows order c t o)
      (readPointOf_exec order) (by exact fun _ => rfl) ?_ ?_ h
    · refine ⟨hmapped, ?_, fun _ _ hmem => ?_, fun _ hmem => ?_, fun _ hmem => ?_⟩
      · rintro connectionId fd ⟨u, hu⟩
        cases hu
      · cases hmem
      · cases hmem
      · cases hmem
    -- each section meets the condition that the run is under
    · intro c t o a k i y r hguard ht hfits hI hx
      obtain ⟨hexec, hlog⟩ := workerMachine_exec hx
      have hpending : c.pending t = some a := Pool.pending_eq_some.mpr ⟨o, k, ht⟩
      have hstep : Reads (y.1, c.shared.2.record order t a c.shared.1 r) :=
        hI.exec hfits hexec ?_ ?_ ?_
      · rw [← hlog] at hstep
        exact hstep
      · rintro watched rfl
        simpa only [leavesOpen, hpending] using hguard
      · rintro connectionId (rfl | rfl)
        · simpa only [leavesOpen, hpending] using hguard
        · simpa only [leavesOpen, hpending] using hguard
      · rintro rfl
        simpa only [leavesOpen, hpending] using hguard
  exact ⟨hreads.reads, hreads.dispatched⟩

end Runs

/-! ### A worker and a closing thread -/

section WorkerAndCloser

/-- A gate that listens on descriptor 3. -/
def listeningGate : GateSockets where
  listenSocketFd := some 3
  descriptors := Function.update (fun _ => none) 3 (some .listening)

/-- The worker is thread `false`; nobody is connected. -/
def listeningPool : WorkerPool Bool := Pool.initial (listeningGate, {})

/-- A client is accepted with descriptor 5. -/
def acceptsOnFive : List (Move Bool WorkerOp WorkerInput) :=
  [.start false .round, .act false {}, .act false { ready := [3] }, .act false {}, .act false { fd := 5 }]

/-- Nobody closes anything while one of the two threads has something to read. -/
def nothingToRead (c : WorkerPool Bool) : Move Bool WorkerOp WorkerInput → Bool
  | .start _ _ => true
  | .act t i => match c.pending t with
    | some (.select watched) => watched.sockets.all fun socket =>
        !decide (socket.2 ∈ i.ready) ||
          decide (c.shared.1.socketByConnectionId.get socket.1 = some socket.2)
    | some (.closeEnter _) | some (.finalize _) | some .stop =>
        (c.shared.2.points false).toRead.isEmpty && (c.shared.2.points true).toRead.isEmpty
    | _ => true

theorem leavesOpen_of_nothingToRead (c : WorkerPool Bool) (m : Move Bool WorkerOp WorkerInput)
    (h : nothingToRead c m = true) : leavesOpen c m := by
  cases m with
  | start t o => trivial
  | act t i =>
      have hnobody : (c.shared.2.points false).toRead.isEmpty = true ∧
          (c.shared.2.points true).toRead.isEmpty = true →
          ∀ connectionId fd, ¬ c.shared.2.ToRead connectionId fd := by
        rintro ⟨hfalse, htrue⟩ connectionId fd ⟨u, hu⟩
        cases u with
        | false =>
            rw [List.isEmpty_iff.mp hfalse] at hu
            cases hu
        | true =>
            rw [List.isEmpty_iff.mp htrue] at hu
            cases hu
      simp only [nothingToRead] at h
      simp only [leavesOpen]
      split
      · rename_i watched hpending
        simp only [hpending, List.all_eq_true, Bool.or_eq_true, Bool.not_eq_true', decide_eq_false_iff_not,
          decide_eq_true_eq] at h
        exact fun socket hsocket hready => (h socket hsocket).resolve_left (not_not.mpr hready)
      · rename_i connectionId hpending
        simp only [hpending, Bool.and_eq_true] at h
        exact fun fd _ => hnobody h connectionId fd
      · rename_i connectionId hpending
        simp only [hpending, Bool.and_eq_true] at h
        exact fun fd _ => hnobody h connectionId fd
      · rename_i hpending
        simp only [hpending, Bool.and_eq_true] at h
        exact hnobody h
      · trivial

/-- Message 7 without a payload. -/
def seventhMessage : ByteBuffer := [7, 0, 0, 0, 0, 0, 0, 0]

/-- The client's message comes in two pieces. -/
def readsInTwo : List (Move Bool WorkerOp WorkerInput) :=
  [.start false .round, .act false { order := [1] }, .act false { ready := [5] }, .act false {},
    .act false { received := some (seventhMessage.take 3) },
    .act false { received := some (seventhMessage.drop 3) }, .act false {}]

theorem reads_stay_after : ∃ c, listeningPool.play (workerMachine .little Bool)
      (fun _ => WorkerOp.code .little) nothingToRead (acceptsOnFive ++ readsInTwo) = some c ∧
    c.shared.2.reads.length = 2 ∧ c.shared.2.dispatched.length = 1 ∧
    (∀ read ∈ c.shared.2.reads, read.2 = some (.accepted read.1)) ∧
    ∀ message ∈ c.shared.2.dispatched, ∀ source ∈ message.2, source = some (.accepted message.1) := by
  have hend : (listeningPool.play (workerMachine .little Bool) (fun _ => WorkerOp.code .little)
      nothingToRead (acceptsOnFive ++ readsInTwo)).map
        (fun c => (c.shared.2.reads.length, c.shared.2.dispatched.length)) = some (2, 1) := rfl
  obtain ⟨c, hc, hcs⟩ := Option.map_eq_some_iff.mp hend
  simp only [Prod.mk.injEq] at hcs
  have hrun := Run.refl.play leavesOpen_of_nothingToRead hc
  exact ⟨c, hc, hcs.1, hcs.2, reads_stay .little (fun _ _ hget => by cases hget) hrun⟩

/-- The connection is closed after `select` has reported it, and the next client gets its descriptor. -/
def closedInBetween : List (Move Bool WorkerOp WorkerInput) :=
  [.start false .round, .act false { order := [1] }, .act false { ready := [3, 5] },
    .start true (.close 1), .act true {}, .act true {},
    .act false {}, .act false { fd := 5 }, .act false { received := some seventhMessage },
    .act false {}]

/-- The message of the second client is read on behalf of the first one, and dispatched under its id. -/
theorem dispatched_under_another : ∃ c, Run (workerMachine .little Bool)
      (fun _ => WorkerOp.code .little) (fun _ _ => True) listeningPool c ∧
    c.shared.2.reads = [(1, some (.accepted 2))] ∧
    c.shared.2.dispatched = [(1, [some (.accepted 2)])] := by
  have hend : (listeningPool.play (workerMachine .little Bool) (fun _ => WorkerOp.code .little)
      (fun _ _ => true) (acceptsOnFive ++ closedInBetween)).map
        (fun c => (c.shared.2.reads, c.shared.2.dispatched)) =
      some ([(1, some (.accepted 2))], [(1, [some (.accepted 2)])]) := rfl
  obtain ⟨c, hc, hcs⟩ := Option.map_eq_some_iff.mp hend
  simp only [Prod.mk.injEq] at hcs
  exact ⟨c, Run.refl.play (fun _ _ _ => trivial) hc, hcs⟩

end WorkerAndCloser

end SomeServer
