/-
# SomeServer.Ipc.Node — the threads of an IPC node

A process of the cluster has a transport, whose accept thread and reader threads call back into the node,
and a node, whose methods take one mutex that is not recursive. Here are both, as the tasks that their
threads have before them: the sections of the transport's own mutex are single tasks, the sections of the
node's mutex begin with `lock` and end where the mutex is given back, and a thread that sends, dials or
disconnects has before it what that leads to.

The node is one that has been loaded and listens. Its receivers are not modelled: which handlers there are
and what they do to the node is an input, as is what the system answers. A closed connection is one that is
not in the table, since both change in one section. A thread that ends while the transport's table is not
the owner of its handle takes the process down; memory that is used after it was freed is not modelled.
-/
import SomeServer.Ipc.LinkManager
import SomeServer.Lib.Tasks

namespace SomeServer

open Lib

/-! ## The policy -/

def kRelayServiceType : ServiceType := 99

/-- The constant of the relay. -/
def RelayIpcService.kGameServiceType : ServiceType := 10

namespace FirstPhaseIpcTopologyPolicy

/-- `HasHealthyLinkOfServiceType`. -/
def hasHealthyLinkOfServiceType (links : List ProcessRef) (serviceType : ServiceType) : Bool :=
  links.any fun link => link.processId.serviceType = serviceType

/-- `ShouldGameAutoConnectTarget`. -/
def shouldGameAutoConnectTarget (self : ProcessRef) (member : ProcessDescriptor) (relayServiceType : ServiceType)
    (healthyRelayLink : Bool) : Bool :=
  if member.process = self then false
  else if member.process.processId.serviceType ≠ relayServiceType then false
  else if healthyRelayLink then false
  else true

/-- `ShouldRelayAutoConnectTarget`. -/
def shouldRelayAutoConnectTarget (self : ProcessRef) (member : ProcessDescriptor) (gameServiceType : ServiceType)
    (alreadyHasHealthyLink : Bool) : Bool :=
  if member.process = self then false
  else if member.process.processId.serviceType ≠ gameServiceType then false
  else if alreadyHasHealthyLink then false
  else true

end FirstPhaseIpcTopologyPolicy

inductive NodeRole where
  | game
  | gate
  | relay
deriving DecidableEq, Repr

/-- `GetHealthyLinks`. -/
def LinkTable.getHealthyLinks (links : LinkTable) : List ProcessRef :=
  (links.filter fun link => link.state = .active).map Link.remoteProcess

/-- The question that `TryAutoConnectMember` asks the policy. -/
def NodeRole.wants (role : NodeRole) (self : ProcessRef) (member : ProcessDescriptor) (links : LinkTable) : Bool :=
  match role with
  | .game | .gate =>
      FirstPhaseIpcTopologyPolicy.shouldGameAutoConnectTarget self member kRelayServiceType
        (FirstPhaseIpcTopologyPolicy.hasHealthyLinkOfServiceType links.getHealthyLinks kRelayServiceType)
  | .relay =>
      FirstPhaseIpcTopologyPolicy.shouldRelayAutoConnectTarget self member
        RelayIpcService.kGameServiceType (links.hasHealthyDirectLink member.process)

/-- `MakeProcessKey`. -/
def makeProcessKey (id : ProcessId) : UInt64 := id.serviceType.toUInt64 <<< 32 ||| id.instanceId.toUInt64

/-! ## Discovery -/

inductive MembershipEventType where
  | added
  | updated
  | removed
deriving DecidableEq, Repr

structure MembershipEvent where
  type : MembershipEventType
  process : ProcessDescriptor
deriving DecidableEq, Repr

/-- `QueueDiffEvents`; `changed` tells of the fields of a descriptor that are not modelled. -/
def queueDiffEvents (previous current : MembershipView) (changed : ProcessId → Bool) : List MembershipEvent :=
  (current.members.filterMap fun process =>
    match previous.find process.process.processId with
    | none => some ⟨.added, process⟩
    | some before =>
        if before ≠ process ∨ changed process.process.processId then some ⟨.updated, process⟩ else none) ++
  (previous.members.filter fun process => (current.find process.process.processId).isNone).map
    fun process => ⟨.removed, process⟩

/-! ## Threads and their tasks -/

/-- The thread that accepts, the reader of each connection, and any other threads. -/
inductive NodeThread (A : Type) where
  | accept
  | reader (connectionId : ConnectionId)
  | caller (a : A)
deriving DecidableEq

/-- The methods of `Messenger` that send. -/
inductive MessengerCall where
  | sendToProcess (target : ProcessId) (message : Messenger.Message)
  | sendToReceiver (target : ReceiverAddress) (message : Messenger.Message)
  | broadcastToService (serviceType : ServiceType) (scope : BroadcastScope) (message : Messenger.Message)

def MessengerCall.program (m : Messenger) : MessengerCall → SendCall Result
  | sendToProcess target message => m.sendToProcess target message
  | sendToReceiver target message => m.sendToReceiver target message
  | broadcastToService serviceType scope message => m.broadcastToService serviceType scope message

inductive NodeTask where
  /-- A round of `AcceptLoop`. -/
  | accept
  /-- `AddConnection`, until the reader is started; `recorded` when `TryAutoConnectMember` dials. -/
  | addConnection (dialled : Option ProcessId) (recorded : Bool)
  /-- The rest of `AddConnection`. -/
  | storeReader (connectionId : ConnectionId)
  /-- `NotifyConnectionEvent`. -/
  | notify (event : ConnectionEvent)
  | flushLinkFrames
  /-- `TcpTransport::Send`. -/
  | send (frame : RawFrame)
  | handleDisconnect (connectionId : ConnectionId)
  /-- The rest of `HandleDisconnect`; the reader is joined when its handle has been taken. -/
  | finishDisconnect (connectionId : ConnectionId) (taken : Bool)
  /-- A thread is joined. -/
  | joinAccept
  | joinReader (connectionId : ConnectionId)
  /-- The lookup at the head of `ReaderLoop`. -/
  | readerLoop (connectionId : ConnectionId)
  /-- The reader reads a frame. -/
  | read (connectionId : ConnectionId)
  /-- The frame handler of the node. -/
  | handleFrame (frame : RawFrame)
  /-- The mutex of the node is taken, and given back. -/
  | lock
  | unlock
  /-- `SendProcessPayload` and its siblings, under the mutex. -/
  | sendPayload (call : MessengerCall)
  /-- What is left of a call of the messenger. -/
  | sending (program : SendCall Result)
  /-- The messenger gets the result of an act. -/
  | sent (next : Result → SendCall Result)
  /-- `ReceiverRegistry::Dispatch`: the handlers run. -/
  | dispatch (target : ReceiverAddress) (envelope : Envelope)
  /-- The first section of `HandleIncomingDataFrameLocked`, which gives the mutex back. -/
  | checkFrame (frame : RawFrame)
  | handleIncomingFrame (frame : RawFrame)
  | tryAutoConnect (member : ProcessDescriptor)
  /-- `RecordAutoConnectSuccessLocked`. -/
  | recordSuccess (id : ProcessId)
  | connectToMember (id : ProcessId)
  /-- `ReconcileAutoConnectMembers`, once it has the mutex: it gives it back. -/
  | takeMembers
  /-- The events that `AutoConnectLoop` handles, once it has the mutex: it gives it back. -/
  | takeEvents
  /-- `HandleMembershipEvent` for a member that is gone. -/
  | forgetAttempt (id : ProcessId)
  | refreshSnapshot
  /-- `TryRecoverDiscovery` after its first section. -/
  | recover
  | activate
  | deactivate
  | handleDiscoveryFailure
  /-- `UnloadIpcRuntime` under the mutex. -/
  | teardown
  | shutdown

/-- What threads call; `section` is any other method that takes the mutex for itself. -/
inductive NodeOp where
  | sendPayload (call : MessengerCall)
  | tryAutoConnectMember (member : ProcessDescriptor)
  | reconcileAutoConnectMembers
  | handleMembershipEvents
  | connectToMember (id : ProcessId)
  | refreshDiscovery
  | watchRefresh
  | discoveryFailure
  | tryRecoverDiscovery
  | stopIpcRuntime
  | unloadIpcRuntime
  | sectionOnly
  | transportSend (frame : RawFrame)
  | transportClose (connectionId : ConnectionId)

/-- The tasks of a call. The loops that `UnloadIpcRuntime` ends are callers like all others here. -/
def NodeOp.tasks : NodeOp → List NodeTask
  | sendPayload call => [.lock, .sendPayload call, .unlock]
  | tryAutoConnectMember member => [.lock, .tryAutoConnect member, .unlock]
  | reconcileAutoConnectMembers => [.lock, .takeMembers]
  | handleMembershipEvents => [.lock, .takeEvents]
  | connectToMember id => [.lock, .connectToMember id, .unlock]
  | refreshDiscovery => [.refreshSnapshot, .lock, .unlock]
  | watchRefresh => [.refreshSnapshot]
  | discoveryFailure => [.lock, .handleDiscoveryFailure, .unlock]
  | tryRecoverDiscovery => [.lock, .unlock, .recover]
  | stopIpcRuntime => [.lock, .deactivate, .unlock]
  | unloadIpcRuntime => [.lock, .unlock, .lock, .unlock, .lock, .teardown, .unlock]
  | sectionOnly => [.lock, .unlock]
  | transportSend frame => [.send frame]
  | transportClose connectionId => [.handleDisconnect connectionId]

/-- `HandleMembershipEvent`. -/
def MembershipEvent.tasks (event : MembershipEvent) : List NodeTask :=
  match event.type with
  | .removed => [.lock, .forgetAttempt event.process.process.processId, .unlock]
  | _ => [.lock, .tryAutoConnect event.process, .unlock]

/-! ## The node -/

/-- A connection of the transport: the member that it was dialled for, if any, which the code does not keep,
and whether the handle of its reader is stored. -/
structure NodeConnection where
  dialled : Option ProcessId
  readerStored : Bool
deriving DecidableEq, Repr

/-- What stays the same while a node runs: its role, and the codecs of control messages and of envelopes. -/
structure NodeConfig where
  role : NodeRole
  control : ControlProtobuf
  encodeDataEnvelope : Envelope → Option ByteBuffer
  decodeDataEnvelope : ByteBuffer → Option Envelope

structure IpcNode (A : Type) where
  self : Option ProcessRef
  transport : Bool := true
  listening : Bool := true
  connections : Table ConnectionId NodeConnection := .empty
  /-- `mNextConnectionId`, which has 64 bits: a node that has used them up does nothing more here. -/
  nextConnectionId : Nat := 1
  linkManager : Option LinkManager
  messenger : Bool := true
  members : MembershipView
  events : List MembershipEvent := []
  registered : Bool
  ipcReady : Bool
  attempts : UInt64 → Bool := fun _ => false
  mutex : Option (NodeThread A) := none
  terminated : Bool := false

/-- What the system answers to a task, and what the parts of the node that are not modelled say. -/
structure NodeInput where
  ok : Bool := true
  frame : Option RawFrame := none
  order : List ConnectionId := []
  directory : ReceiverAddress → ReceiverLocation := fun _ => {}
  registered : String → Bool := fun _ => true
  result : Result := .success
  calls : List NodeOp := []
  view : MembershipView := ⟨[], List.nodup_nil⟩
  changed : ProcessId → Bool := fun _ => false

namespace IpcNode

variable {A : Type}

/-- `IsIpcActiveLocked`. -/
def isIpcActive (s : IpcNode A) : Bool := s.registered && s.ipcReady

/-- The id of the next connection. -/
def newId (s : IpcNode A) : ConnectionId := UInt64.ofNat s.nextConnectionId

/-- All ids have been used. -/
def exhausted (s : IpcNode A) : Bool := decide (2 ^ 64 ≤ s.nextConnectionId)

/-- Whether a walk in this order comes to every link. -/
def walks (s : IpcNode A) (order : List ConnectionId) : Bool := s.linkManager.all fun m => m.links.walks order

/-- The messenger, over the tables that the node has now. -/
def messengerOf (s : IpcNode A) (i : NodeInput) : Option Messenger :=
  match s.messenger, s.self, s.linkManager with
  | true, some self, some m => some
      { self
        policy := ⟨kRelayServiceType⟩
        directory := i.directory
        registered := i.registered
        membership := some s.members
        links := some (m.linkTable i.order)
        remoteSender := some (m.linkTable i.order) }
  | _, _, _ => none

/-- Whether `TryAutoConnectMember` comes to its `Connect`. -/
def dials (s : IpcNode A) (role : NodeRole) (order : List ConnectionId) (member : ProcessDescriptor) : Bool :=
  match s.self, s.transport, s.linkManager with
  | some self, true, some m =>
      s.isIpcActive && role.wants self member (m.linkTable order) &&
        !s.attempts (makeProcessKey member.process.processId)
  | _, _, _ => false

/-- The connections whose reader `Shutdown` takes. -/
def readers (s : IpcNode A) (order : List ConnectionId) : List ConnectionId :=
  order.filter fun connectionId => (s.connections.get connectionId).any NodeConnection.readerStored

end IpcNode

/-- The frame that `TransportMessageSender::Send` hands to the transport. -/
def dataFrame (connectionId : ConnectionId) (payload : ByteBuffer) : RawFrame :=
  ⟨connectionId, { kind := .data, length := UInt32.ofNat payload.length }, payload⟩

variable {A : Type} [DecidableEq A]

/-- What a thread does with its first task. -/
def NodeTask.perform (cfg : NodeConfig) (free : NodeThread A → Bool) (t : NodeThread A) (i : NodeInput)
    (s : IpcNode A) : NodeTask → Option (Performed (NodeThread A) NodeTask (IpcNode A))
  | accept =>
      if !s.listening then some { shared := s }
      else if !i.ok then some { shared := s, tasks := [accept] }
      else some { shared := s, tasks := [addConnection none false, accept] }
  | addConnection dialled recorded =>
      if s.exhausted then none
      else some
        { shared :=
            { s with
              connections := s.connections.set s.newId ⟨dialled, false⟩
              nextConnectionId := s.nextConnectionId + 1 }
          tasks := [storeReader s.newId, notify ⟨.connected, s.newId⟩] ++
            (if recorded then dialled.toList.map recordSuccess else [])
          started := some (.reader s.newId, [readerLoop s.newId]) }
  | storeReader connectionId =>
      match s.connections.get connectionId with
      -- The handle goes out of scope while it is joinable.
      | none => some { shared := { s with terminated := true } }
      | some connection => some { shared :=
          { s with connections := s.connections.set connectionId { connection with readerStored := true } } }
  | notify event =>
      match s.linkManager with
      | none => some { shared := s }
      | some m => some
          { shared := { s with linkManager := some (m.onConnectionEvent cfg.control event) }
            tasks := [flushLinkFrames] }
  | flushLinkFrames =>
      match s.transport, s.linkManager with
      | true, some m => some
          { shared := { s with linkManager := some m.drainOutboundFrames.1 }
            tasks := m.drainOutboundFrames.2.map send }
      | _, _ => some { shared := s }
  | send frame =>
      match s.connections.get frame.connectionId with
      | none => some { shared := s }
      | some _ => some { shared := s, tasks := if i.ok then [] else [handleDisconnect frame.connectionId] }
  | handleDisconnect connectionId =>
      match s.connections.get connectionId with
      | none => some { shared := s }
      -- A reader does not join itself: it detaches.
      | some connection => some
          { shared := { s with connections := s.connections.erase connectionId }
            tasks := [finishDisconnect connectionId (connection.readerStored && t ≠ .reader connectionId)] }
  | finishDisconnect connectionId taken =>
      if taken && !free (.reader connectionId) then none
      else some { shared := s, tasks := [notify ⟨.disconnected, connectionId⟩] }
  | joinAccept => if free .accept then some { shared := s } else none
  | joinReader connectionId => if free (.reader connectionId) then some { shared := s } else none
  | readerLoop connectionId =>
      match s.connections.get connectionId with
      | none => some { shared := s }
      | some _ => some { shared := s, tasks := [read connectionId] }
  | read connectionId =>
      match i.frame with
      | none => some { shared := s, tasks := [handleDisconnect connectionId] }
      | some frame => some { shared := s, tasks := [handleFrame (frame.on connectionId), readerLoop connectionId] }
  | handleFrame frame =>
      match s.linkManager with
      | none => some { shared := s }
      | some m =>
          if frame.header.kind = .control then some
            { shared := { s with linkManager := some (m.onFrame cfg.control frame).1 }, tasks := [flushLinkFrames] }
          else if frame.header.kind = .data then some { shared := s, tasks := [lock, checkFrame frame] }
          else some { shared := { s with linkManager := some (m.onFrame cfg.control frame).1 } }
  | lock => if s.mutex = none then some { shared := { s with mutex := some t } } else none
  | unlock => some { shared := { s with mutex := none } }
  | sendPayload call =>
      if !s.walks i.order then none
      else match s.messengerOf i with
        | none => some { shared := s }
        | some m => some { shared := s, tasks := if s.isIpcActive then [sending (call.program m)] else [] }
  | sending program =>
      match program with
      | .ret _ => some { shared := s }
      | .act (.dispatch target envelope) next => some { shared := s, tasks := [dispatch target envelope, sent next] }
      | .act (.transport connectionId envelope) next =>
          match cfg.encodeDataEnvelope envelope with
          -- The exception is not caught.
          | none => some { shared := { s with terminated := true } }
          | some payload => some { shared := s, tasks := [send (dataFrame connectionId payload), sent next] }
  | sent next => some { shared := s, tasks := [sending (next i.result)] }
  | dispatch _ _ => some { shared := s, tasks := i.calls.flatMap NodeOp.tasks }
  | checkFrame frame => some
      { shared := { s with mutex := none }
        tasks := if s.messenger && s.isIpcActive then
            handleIncomingFrame frame :: (if cfg.role = .relay then [lock, unlock] else []) else [] }
  | handleIncomingFrame frame =>
      if !s.walks i.order then none
      else match s.messengerOf i with
        | none => some { shared := s }
        | some m => some
            { shared := s
              tasks := [sending (m.handleIncomingFrame frame.header.kind
                (cfg.decodeDataEnvelope frame.payload))] }
  | tryAutoConnect member =>
      if !s.walks i.order then none
      else some
        { shared := s
          tasks := if s.dials cfg.role i.order member && i.ok then
              [addConnection (some member.process.processId) true] else [] }
  | recordSuccess id => some
      { shared := { s with attempts := Function.update s.attempts (makeProcessKey id) true } }
  | connectToMember id => some
      { shared := s
        tasks := if (s.members.find id).isSome && s.transport && i.ok then [addConnection (some id) false] else [] }
  | takeMembers => some
      { shared := { s with mutex := none }
        tasks := s.members.members.flatMap fun member => [lock, tryAutoConnect member, unlock] }
  | takeEvents => some
      { shared := { s with mutex := none, events := [] }
        tasks := s.events.flatMap MembershipEvent.tasks }
  | forgetAttempt id => some
      { shared := { s with attempts := Function.update s.attempts (makeProcessKey id) false } }
  | refreshSnapshot =>
      if i.ok then some { shared :=
        { s with members := i.view, events := s.events ++ queueDiffEvents s.members i.view i.changed } }
      else some { shared := s }
  | recover =>
      if i.ok then some
        { shared :=
            { s with members := i.view, events := s.events ++ queueDiffEvents s.members i.view i.changed }
          tasks := [lock, activate, unlock, lock, takeMembers] }
      else some { shared := s }
  | activate => some { shared := { s with registered := true, ipcReady := true } }
  | deactivate => some { shared := { s with registered := false, ipcReady := false } }
  | handleDiscoveryFailure => some
      { shared := { s with registered := false, ipcReady := false, attempts := fun _ => false } }
  -- Only the holder of the mutex reads what is cleared here, except for the transport and the links.
  | teardown => some
      { shared :=
          { s with
            self := none, transport := false, linkManager := none, messenger := false
            registered := false, ipcReady := false, attempts := fun _ => false }
        tasks := [shutdown] }
  | shutdown =>
      if !s.connections.walks i.order then none
      else some
        { shared := { s with listening := false, connections := .empty }
          tasks := joinAccept :: (s.readers i.order).map joinReader }

/-- A node and its threads. -/
abbrev NodeCrew (A : Type) : Type := Crew (NodeThread A) NodeTask (IpcNode A)

/-- The node as threads run it; a process that has been taken down does nothing more. -/
def nodeWork (A : Type) [DecidableEq A] (cfg : NodeConfig) :
    TaskSystem (NodeThread A) NodeOp NodeTask NodeInput (IpcNode A) where
  begin t o := match t with
    | .caller _ => some o.tasks
    | _ => none
  exec free t k i s := if s.terminated then none else k.perform cfg free t i s

/-- A node that has been loaded and listens, before it has any connection. -/
structure IpcNode.Started (c : NodeCrew A) : Prop where
  connections : c.shared.connections = .empty
  next : c.shared.nextConnectionId = 1
  attempts : c.shared.attempts = fun _ => false
  mutex : c.shared.mutex = none
  links : ∀ m, c.shared.linkManager = some m → m.links = .empty
  tasks : c.tasks = Function.update (fun _ => []) .accept [.accept]

/-- A node that has registered, and that has these members in its view. -/
def IpcNode.loaded (self : ProcessRef) (members : MembershipView) : NodeCrew A where
  shared := { self := some self, linkManager := some { self }, members, registered := true, ipcReady := true }
  tasks := Function.update (fun _ => []) .accept [.accept]

theorem IpcNode.loaded_started (self : ProcessRef) (members : MembershipView) :
    IpcNode.Started (IpcNode.loaded self members : NodeCrew A) where
  connections := rfl
  next := rfl
  attempts := rfl
  mutex := rfl
  links := by
    rintro m ⟨⟩
    rfl
  tasks := rfl

/-- Nobody but the accept thread has anything to do. -/
theorem IpcNode.Started.tasks_cases {c : NodeCrew A} (h : Started c) (t : NodeThread A) :
    c.tasks t = [.accept] ∨ c.tasks t = [] := by
  rw [h.tasks]
  by_cases ht : t = .accept
  · subst ht
    exact .inl (Function.update_self ..)
  · exact .inr (Function.update_of_ne ht ..)

theorem IpcNode.Started.mem {c : NodeCrew A} (h : Started c) {t : NodeThread A} {k : NodeTask}
    (hk : k ∈ c.tasks t) : k = .accept := by
  rcases h.tasks_cases t with ht | ht <;> rw [ht] at hk
  · exact List.mem_singleton.mp hk
  · cases hk

theorem nodeWork_begin {cfg : NodeConfig} {t : NodeThread A} {o : NodeOp} {ks : List NodeTask}
    (h : (nodeWork A cfg).begin t o = some ks) : ∃ a, t = .caller a ∧ ks = o.tasks := by
  cases t with
  | accept => cases h
  | reader connectionId => cases h
  | caller a => exact ⟨a, rfl, (Option.some.inj h).symm⟩

theorem nodeWork_exec {cfg : NodeConfig} {free : NodeThread A → Bool} {t : NodeThread A} {k : NodeTask}
    {i : NodeInput} {s : IpcNode A} {p : Performed (NodeThread A) NodeTask (IpcNode A)}
    (h : (nodeWork A cfg).exec free t k i s = some p) :
    s.terminated = false ∧ k.perform cfg free t i s = some p := by
  show _ ∧ _
  replace h : (if s.terminated then none else k.perform cfg free t i s) = some p := h
  split at h
  · cases h
  · rename_i hterminated
    exact ⟨Bool.not_eq_true _ ▸ hterminated, h⟩

/-- What calls and tasks keep holds in every reachable node. -/
theorem node_invariant {cfg : NodeConfig} {guard : NodeCrew A → Move (NodeThread A) NodeOp NodeInput → Prop}
    {I : NodeCrew A → Prop} {c₀ c : NodeCrew A} (h₀ : I c₀)
    (hstart : ∀ c a (o : NodeOp), I c → c.tasks (.caller a) = [] → I (c.begun (.caller a) o.tasks))
    (hact : ∀ c t k rest i p, I c → guard c (.act t i) → c.tasks t = k :: rest →
      c.shared.terminated = false → k.perform cfg c.free t i c.shared = some p → I (c.after t rest p))
    (h : Crew.Run (nodeWork A cfg) guard c₀ c) : I c := by
  refine h.invariant h₀ ?_ ?_
  · intro c t o ks hc _ hidle hks
    obtain ⟨a, rfl, rfl⟩ := nodeWork_begin hks
    exact hstart c a o hc hidle
  · intro c t k rest i p hc hg ht hp
    obtain ⟨hterminated, hp⟩ := nodeWork_exec hp
    exact hact c t k rest i p hc hg ht hterminated hp

/-! ### What a task can do -/

section Perform

variable {cfg : NodeConfig} {free : NodeThread A → Bool} {t : NodeThread A} {i : NodeInput} {s : IpcNode A}
  {k k' : NodeTask} {p : Performed (NodeThread A) NodeTask (IpcNode A)} {connectionId : ConnectionId}

/-- The connection whose reader has the task, for the tasks that only readers have. -/
def NodeTask.reader : NodeTask → Option ConnectionId
  | readerLoop connectionId => some connectionId
  | read connectionId => some connectionId
  | handleFrame frame => some frame.connectionId
  | _ => none

/-- Whether the task is about to read a frame, or to hand it over. -/
def NodeTask.reads (connectionId : ConnectionId) : NodeTask → Prop
  | read c => c = connectionId
  | handleFrame frame => frame.connectionId = connectionId
  | _ => False

theorem NodeTask.reader_of_reads (h : k.reads connectionId) : k.reader = some connectionId := by
  cases k <;> first | exact h.elim | exact congrArg some h

/-- The tasks that calls do not begin with: other tasks lead to them. -/
def NodeTask.inner : NodeTask → Bool
  | accept | addConnection .. | storeReader _ | notify _ | flushLinkFrames | finishDisconnect .. | joinAccept
  | joinReader _ | readerLoop _ | read _ | handleFrame _ | recordSuccess _ | shutdown => true
  | _ => false

theorem NodeOp.tasks_inner {o : NodeOp} (h : k ∈ o.tasks) : k.inner = false := by
  have hall : (o.tasks.all fun k => !k.inner) = true := by cases o <;> rfl
  exact Bool.not_eq_true' _ ▸ List.all_eq_true.mp hall k h

theorem MembershipEvent.tasks_inner {event : MembershipEvent} (h : k ∈ event.tasks) : k.inner = false := by
  have hall : (event.tasks.all fun k => !k.inner) = true := by
    obtain ⟨type, process⟩ := event
    cases type <;> rfl
  exact Bool.not_eq_true' _ ▸ List.all_eq_true.mp hall k h

theorem NodeOp.flatMap_tasks_inner {ops : List NodeOp} (h : k ∈ ops.flatMap NodeOp.tasks) : k.inner = false := by
  obtain ⟨o, -, hk⟩ := List.mem_flatMap.mp h
  exact tasks_inner hk

theorem MembershipEvent.flatMap_tasks_inner {events : List MembershipEvent}
    (h : k ∈ events.flatMap MembershipEvent.tasks) : k.inner = false := by
  obtain ⟨event, -, hk⟩ := List.mem_flatMap.mp h
  exact tasks_inner hk

theorem NodeTask.reader_of_inner (h : k.inner = false) : k.reader = none := by
  cases k <;> first | rfl | cases h

-- The equations are made here, once for the lemmas below.
attribute [local simp] NodeTask.perform in
/-- Only a dialled or accepted connection starts a thread, and takes an id. -/
theorem perform_started (h : k.perform cfg free t i s = some p) :
    (p.started = none ∧ p.shared.nextConnectionId = s.nextConnectionId) ∨
      (s.exhausted = false ∧ p.shared.nextConnectionId = s.nextConnectionId + 1 ∧
        p.started = some (.reader s.newId, [.readerLoop s.newId])) := by
  cases k with
  | addConnection dialled recorded =>
      simp only [NodeTask.perform] at h
      split at h
      · cases h
      · rename_i hids
        obtain rfl := Option.some.inj h
        exact .inr ⟨Bool.not_eq_true _ ▸ hids, rfl, rfl⟩
  | _ =>
      simp only [NodeTask.perform] at h
      (repeat' split at h) <;> first
        | (obtain rfl := Option.some.inj h; exact .inl ⟨rfl, rfl⟩)
        | cases h

/-- The tasks of a reader come from tasks of the reader. -/
theorem perform_reader (h : k.perform cfg free t i s = some p) (hk : k' ∈ p.tasks)
    (hr : k'.reader = some connectionId) : k.reader = some connectionId := by
  cases k with
  | readerLoop c =>
      simp only [NodeTask.perform] at h
      split at h
      · obtain rfl := Option.some.inj h
        cases hk
      · obtain rfl := Option.some.inj h
        obtain rfl := List.mem_singleton.mp hk
        exact hr
  | read c =>
      simp only [NodeTask.perform] at h
      split at h
      · obtain rfl := Option.some.inj h
        obtain rfl := List.mem_singleton.mp hk
        cases hr
      · obtain rfl := Option.some.inj h
        rcases List.mem_cons.mp hk with rfl | hk
        · exact hr
        · obtain rfl := List.mem_singleton.mp hk
          exact hr
  | dispatch target envelope =>
      obtain rfl := Option.some.inj h
      rw [NodeTask.reader_of_inner (NodeOp.flatMap_tasks_inner hk)] at hr
      cases hr
  | takeEvents =>
      obtain rfl := Option.some.inj h
      rw [NodeTask.reader_of_inner (MembershipEvent.flatMap_tasks_inner hk)] at hr
      cases hr
  | _ =>
      simp only [NodeTask.perform] at h
      (repeat' split at h) <;> first
        | (obtain rfl := Option.some.inj h; grind [NodeTask.reader])
        | contradiction

/-- Only the first task of a thread is about to read, or to hand a frame over. -/
theorem perform_first (h : k.perform cfg free t i s = some p) (hk : k' ∈ p.tasks.tail) :
    ¬k'.reads connectionId := by
  intro hreads
  have hr := perform_reader h (List.mem_of_mem_tail hk) (NodeTask.reader_of_reads hreads)
  cases k with
  | readerLoop c =>
      simp only [NodeTask.perform] at h
      split at h <;> grind [NodeTask.reads]
  | read c =>
      simp only [NodeTask.perform] at h
      split at h <;> grind [NodeTask.reads]
  | handleFrame frame =>
      simp only [NodeTask.perform] at h
      (repeat' split at h) <;> grind [NodeTask.reads]
  | _ => cases hr

/-- The transport is shut down by those who have given it and the links up. -/
theorem perform_shutdown (h : k.perform cfg free t i s = some p) (hk : .shutdown ∈ p.tasks) :
    p.shared.linkManager = none ∧ p.shared.transport = false := by
  cases k with
  | teardown =>
      obtain rfl := Option.some.inj h
      exact ⟨rfl, rfl⟩
  | dispatch target envelope =>
      obtain rfl := Option.some.inj h
      cases NodeOp.flatMap_tasks_inner hk
  | takeEvents =>
      obtain rfl := Option.some.inj h
      cases MembershipEvent.flatMap_tasks_inner hk
  | _ =>
      simp only [NodeTask.perform] at h
      (repeat' split at h) <;> first
        | (obtain rfl := Option.some.inj h; grind)
        | contradiction

/-- The links that are given up do not come back. -/
theorem perform_linkManager (h : k.perform cfg free t i s = some p) (hnone : s.linkManager = none) :
    p.shared.linkManager = none := by
  cases k <;> simp only [NodeTask.perform] at h <;> (repeat' split at h) <;> first
    | (obtain rfl := Option.some.inj h; grind)
    | contradiction

/-- Nor does the transport. -/
theorem perform_transport (h : k.perform cfg free t i s = some p) (hnone : s.transport = false) :
    p.shared.transport = false := by
  cases k <;> simp only [NodeTask.perform] at h <;> (repeat' split at h) <;> first
    | (obtain rfl := Option.some.inj h; grind)
    | contradiction

end Perform

end SomeServer
