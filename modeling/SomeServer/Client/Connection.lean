/-
# SomeServer.Client.Connection — `ConnectionService` of the simulated client

The console's thread connects, disconnects, sends and stops; every connection has a reader, which is joined before
the next connection is made. The descriptor is read and closed by whoever comes to it first, under the mutex; but a
reader keeps the number it has read while it waits for a message, and the number may be another socket's by then.
`ClientProcess` has the service with the open descriptors of its process, and what has been closed, read and
written.

The times of a connection are written and never read; they are left out.
-/
import SomeServer.Gate.Inbound
import SomeServer.Lib.Tasks

namespace SomeServer

open Lib

/-- The thread of the console and of the lifecycle, the reader of the `n`-th socket, and the rest of the process. -/
inductive ClientThread where
  | control
  | reader (n : Nat)
  | rest
deriving DecidableEq, Repr

/-- What an open descriptor is: the `n`-th socket that `Connect` has made, or anything else. -/
inductive ClientDescriptor where
  | own (n : Nat)
  | other
deriving DecidableEq, Repr

/-- `SimClientConnectionSnapshot`. -/
structure SimClientConnectionSnapshot where
  host : String := ""
  port : UInt32 := 0
  connected : Bool := false
  connectAttempts : UInt64 := 0
  disconnectCount : UInt64 := 0
  sentFrameCount : UInt64 := 0
  receivedFrameCount : UInt64 := 0

/-- What has been done: what each closed number was; what each `recv` of a reader read from; the bytes that a reader
has received, and the messages that it has come to the handler with, and whether there was one; and the bytes
written to a socket, the messages that were sent over it, and whether a send has failed. -/
structure ClientLog where
  closed : List (Option ClientDescriptor) := []
  reads : List (Nat × Option ClientDescriptor) := []
  received : Nat → ByteBuffer := fun _ => []
  handled : Nat → List ((UInt32 × ByteBuffer) × Bool) := fun _ => []
  written : Nat → ByteBuffer := fun _ => []
  sent : Nat → List (UInt32 × ByteBuffer) := fun _ => []
  cutOff : Nat → Bool := fun _ => false

/-- The service, `mReaderThread` while it is joinable, and the process around it. `sockets` counts the sockets that
`Connect` has made, and `result` is what the last call has returned. -/
structure ClientProcess where
  snapshot : SimClientConnectionSnapshot := {}
  socketFd : Option Int := none
  messageHandler : Bool := false
  readerThread : Option Nat := none
  locked : Bool := false
  descriptors : Int → Option ClientDescriptor := fun _ => none
  sockets : Nat := 0
  terminated : Bool := false
  result : Option Result := none
  log : ClientLog := {}

/-! ## Tasks -/

inductive ClientTask where
  /-- The first section of `Connect`. -/
  | connectEnter
  | joinStale (n : Nat)
  | openSocket
  | dial (fd : Int) (n : Nat)
  | dropSocket (fd : Int) (error : String)
  /-- The last section of `Connect`. -/
  | publish (fd : Int) (n : Nat)
  | disconnectEnter
  | stopEnter
  | closeSocket (fd : Int) (reader : Option Nat)
  | joinReader (n : Nat)
  | sendEnter (messageId : UInt32) (payload : ByteBuffer)
  /-- `send` what is left of a part; the mutex is held. -/
  | send (fd : Int) (part : FramePart) (buffer : ByteBuffer) (messageId : UInt32) (payload : ByteBuffer)
  | setMessageHandler
  /-- The section at the head of `ReaderLoop`. -/
  | loopHead (n : Nat)
  /-- `recv` into what is left of the header, or of the payload, behind what has come. -/
  | readHeader (n : Nat) (fd : Int) (handler : Bool) (buffer : ByteBuffer)
  | readPayload (n : Nat) (fd : Int) (handler : Bool) (header buffer : ByteBuffer)
  | count (n : Nat) (handler : Bool) (messageId : UInt32) (payload : ByteBuffer)
  | handle (n : Nat) (handler : Bool) (messageId : UInt32) (payload : ByteBuffer)
  /-- The section behind the loop. -/
  | leave (n : Nat)
  /-- Another part of the process opens a descriptor, or closes one of its own. -/
  | openOther
  | closeOther (fd : Int)

inductive ClientOp where
  | connect
  | disconnect
  | stop
  | sendFrame (messageId : UInt32) (payload : ByteBuffer)
  | setMessageHandler
  | openOther
  | closeOther (fd : Int)

/-- What the system answers: the number of a new descriptor, whether the host is an address and answers, what a
`recv` reads, and what a `send` returns. -/
structure ClientInput where
  fd : Int := -1
  parsed : Bool := true
  connected : Bool := true
  received : Option ByteBuffer := none
  rc : Int := 0

namespace ClientProcess

def returns (s : ClientProcess) (result : Result) : ClientProcess := { s with result := some result }

/-- `close`. -/
def close (s : ClientProcess) (fd : Int) : ClientProcess :=
  { s with
    descriptors := Function.update s.descriptors fd none
    log := { s.log with closed := s.descriptors fd :: s.log.closed } }

/-- `socket` has returned a new descriptor. -/
def openSocket (s : ClientProcess) (fd : Int) : ClientProcess :=
  { s with
    descriptors := Function.update s.descriptors fd (some (.own s.sockets))
    sockets := s.sockets + 1 }

/-- The new connection, and its reader. -/
def publish (s : ClientProcess) (fd : Int) (n : Nat) : ClientProcess :=
  { s with
    socketFd := some fd
    snapshot := { s.snapshot with connected := true }
    readerThread := some n }

/-- The descriptor and the reader are taken out of the service. -/
def takeSocket (s : ClientProcess) : ClientProcess :=
  { s with
    socketFd := none
    readerThread := none
    snapshot := { s.snapshot with connected := false } }

def countDisconnect (s : ClientProcess) : ClientProcess :=
  { s with snapshot := { s.snapshot with disconnectCount := s.snapshot.disconnectCount + 1 } }

/-- A `recv` of `size` bytes: what it reads, if it does not fail. -/
def recv (s : ClientProcess) (fd : Int) (size : Nat) (received : Option ByteBuffer) : Option (Option ByteBuffer) :=
  match s.descriptors fd, received with
  | some _, some bytes => if 0 < bytes.length ∧ bytes.length ≤ size then some (some bytes) else none
  | _, _ => some none

/-- What is written down about a `recv`. -/
def reads (s : ClientProcess) (n : Nat) (fd : Int) (bytes : ByteBuffer) : ClientProcess :=
  { s with log := { s.log with
      reads := (n, s.descriptors fd) :: s.log.reads
      received := Function.update s.log.received n (s.log.received n ++ bytes) } }

def handles (s : ClientProcess) (n : Nat) (message : UInt32 × ByteBuffer) (handler : Bool) : ClientProcess :=
  { s with log := { s.log with
      handled := Function.update s.log.handled n (s.log.handled n ++ [(message, handler)]) } }

/-- The number of the socket that is written to. -/
def socketOf (s : ClientProcess) (fd : Int) : Option Nat :=
  match s.descriptors fd with
  | some (.own n) => some n
  | _ => none

/-- What is written down about the bytes that a `send` took. -/
def writes (s : ClientProcess) (fd : Int) (bytes : ByteBuffer) : ClientProcess :=
  match s.socketOf fd with
  | none => s
  | some n => { s with log := { s.log with
      written := Function.update s.log.written n (s.log.written n ++ bytes) } }

/-- The whole of a message has been sent. -/
def sends (s : ClientProcess) (fd : Int) (message : UInt32 × ByteBuffer) : ClientProcess :=
  let s := { s with
    locked := false
    snapshot := { s.snapshot with sentFrameCount := s.snapshot.sentFrameCount + 1 }
    result := some .success }
  match s.socketOf fd with
  | none => s
  | some n => { s with log := { s.log with
      sent := Function.update s.log.sent n (s.log.sent n ++ [message]) } }

/-- A `send` has failed. -/
def cutsOff (s : ClientProcess) (fd : Int) (part : FramePart) : ClientProcess :=
  let s := { s with
    locked := false
    result := some (.failure ("failed to send frame " ++ part.text)) }
  match s.socketOf fd with
  | none => s
  | some n => { s with log := { s.log with cutOff := Function.update s.log.cutOff n true } }

end ClientProcess

/-- The performed task. -/
abbrev ClientPerformed : Type := Performed ClientThread ClientTask ClientProcess

namespace ClientTask

/-- Whether the task takes the mutex. -/
def locks : ClientTask → Bool
  | connectEnter | publish _ _ | disconnectEnter | stopEnter | sendEnter _ _ | setMessageHandler | loopHead _
  | count _ _ _ _ | leave _ => true
  | _ => false

/-- What becomes of a message of which the header has come. -/
def afterHeader (order : ByteOrder) (n : Nat) (fd : Int) (handler : Bool) (header : ByteBuffer) : ClientTask :=
  if clientPayloadSize order header = 0 then .count n handler (clientMessageId order header) []
  else .readPayload n fd handler header []

/-- One task, when it need not wait for the mutex. -/
def perform (order : ByteOrder) (free : ClientThread → Bool) (i : ClientInput) (s : ClientProcess) :
    ClientTask → Option ClientPerformed
  | connectEnter =>
      let s := { s with snapshot := { s.snapshot with connectAttempts := s.snapshot.connectAttempts + 1 } }
      if s.socketFd.isSome then some { shared := s.returns (.failure "socket already connected") }
      else match s.readerThread with
        | some n => some { shared := { s with readerThread := none }, tasks := [.joinStale n] }
        | none => some { shared := s, tasks := [.openSocket] }
  | joinStale n => if free (.reader n) then some { shared := s, tasks := [.openSocket] } else none
  | openSocket =>
      if i.fd < 0 then some { shared := s.returns (.failure "failed to create socket") }
      else if s.descriptors i.fd = none then
        some { shared := s.openSocket i.fd, tasks := [.dial i.fd s.sockets] }
      else none
  | dial fd n =>
      if !i.parsed then some { shared := s, tasks := [.dropSocket fd "failed to parse gate host"] }
      else if !i.connected then some { shared := s, tasks := [.dropSocket fd "failed to connect to gate"] }
      else some { shared := s, tasks := [.publish fd n] }
  | dropSocket fd error => some { shared := (s.close fd).returns (.failure error) }
  -- `std::thread` ends the process when it is assigned to while it is joinable
  | publish fd n =>
      if s.readerThread.isSome then some { shared := { s with terminated := true } }
      else some {
        shared := (s.publish fd n).returns .success
        started := some (.reader n, [.loopHead n]) }
  | disconnectEnter =>
      match s.socketFd with
      | none => some { shared := s.returns (.failure "socket is not connected") }
      | some fd => some { shared := s.takeSocket.countDisconnect, tasks := [.closeSocket fd s.readerThread] }
  | stopEnter =>
      match s.socketFd, s.readerThread with
      | some fd, reader => some { shared := s.takeSocket, tasks := [.closeSocket fd reader] }
      | none, some n => some { shared := s.takeSocket, tasks := [.joinReader n] }
      | none, none => some { shared := s.takeSocket.returns .success }
  | closeSocket fd reader =>
      match reader with
      | some n => some { shared := s.close fd, tasks := [.joinReader n] }
      | none => some { shared := (s.close fd).returns .success }
  | joinReader n => if free (.reader n) then some { shared := s.returns .success } else none
  | sendEnter messageId payload =>
      match s.socketFd with
      | none => some { shared := s.returns (.failure "socket is not connected") }
      | some fd =>
          let header := order.bytes 4 messageId.toNat ++ order.bytes 4 (UInt32.ofNat payload.length).toNat
          some { shared := { s with locked := true }, tasks := [.send fd .header header messageId payload] }
  | send fd part buffer messageId payload =>
      if i.rc ≤ 0 then some { shared := s.cutsOff fd part }
      else if i.rc.toNat < buffer.length then
        some {
          shared := s.writes fd (buffer.take i.rc.toNat)
          tasks := [.send fd part (buffer.drop i.rc.toNat) messageId payload] }
      else if i.rc.toNat = buffer.length then
        if part = .header ∧ payload ≠ [] then
          some { shared := s.writes fd buffer, tasks := [.send fd .payload payload messageId payload] }
        else some { shared := (s.writes fd buffer).sends fd (messageId, payload) }
      else none
  | setMessageHandler => some { shared := { s with messageHandler := true } }
  | loopHead n =>
      match s.socketFd with
      | none => some { shared := s }
      | some fd => some { shared := s, tasks := [.readHeader n fd s.messageHandler []] }
  | readHeader n fd handler buffer =>
      match s.recv fd (kClientHeaderSize - buffer.length) i.received with
      | none => none
      | some none => some { shared := s.reads n fd [], tasks := [.leave n] }
      | some (some bytes) =>
          let header := buffer ++ bytes
          some {
            shared := s.reads n fd bytes
            tasks := [if header.length < kClientHeaderSize then .readHeader n fd handler header
              else afterHeader order n fd handler header] }
  | readPayload n fd handler header buffer =>
      match s.recv fd (clientPayloadSize order header - buffer.length) i.received with
      | none => none
      | some none => some { shared := s.reads n fd [], tasks := [.leave n] }
      | some (some bytes) =>
          let payload := buffer ++ bytes
          some {
            shared := s.reads n fd bytes
            tasks := [if payload.length < clientPayloadSize order header then .readPayload n fd handler header payload
              else .count n handler (clientMessageId order header) payload] }
  | count n handler messageId payload =>
      let snapshot := { s.snapshot with receivedFrameCount := s.snapshot.receivedFrameCount + 1 }
      some { shared := { s with snapshot := snapshot }, tasks := [.handle n handler messageId payload] }
  | handle n handler messageId payload =>
      some { shared := s.handles n (messageId, payload) handler, tasks := [.loopHead n] }
  | leave _ =>
      let s := match s.socketFd with
        | some fd => { s.close fd with socketFd := none }
        | none => s
      some { shared := { s.countDisconnect with snapshot := { s.countDisconnect.snapshot with connected := false } } }
  | openOther =>
      if 0 ≤ i.fd ∧ s.descriptors i.fd = none then
        some { shared := { s with descriptors := Function.update s.descriptors i.fd (some .other) } }
      else none
  | closeOther fd =>
      if s.descriptors fd = some .other then
        some { shared := { s with descriptors := Function.update s.descriptors fd none } }
      else some { shared := s }

end ClientTask

def ClientOp.thread : ClientOp → ClientThread
  | openOther | closeOther _ => .rest
  | _ => .control

def ClientOp.task : ClientOp → ClientTask
  | connect => .connectEnter
  | disconnect => .disconnectEnter
  | stop => .stopEnter
  | sendFrame messageId payload => .sendEnter messageId payload
  | setMessageHandler => .setMessageHandler
  | openOther => .openOther
  | closeOther fd => .closeOther fd

/-- The client at work. A process that has been ended does nothing more. -/
def clientWork (order : ByteOrder) : TaskSystem ClientThread ClientOp ClientTask ClientInput ClientProcess where
  begin t o := if t = o.thread then some [o.task] else none
  exec free _ k i s := if s.terminated || (k.locks && s.locked) then none else k.perform order free i s

abbrev ClientCrew : Type := Crew ClientThread ClientTask ClientProcess

/-- A client for the gate at an address, in a process that has these other descriptors open. -/
def newClient (host : String) (port : UInt32) (others : Int → Bool) : ClientCrew where
  shared := {
    snapshot := { host, port }
    descriptors := fun fd => if others fd then some .other else none }
  tasks _ := []

end SomeServer
