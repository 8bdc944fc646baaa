/-
# SomeServer.Ipc.Journeys — the messages of a whole network, from their senders to their receivers

Any process may send at any time, and each handles what comes over its connections, one frame after the other on each.
Where an envelope goes depends on its source, its receiver and the owner that the receiver has been resolved to, and in
a network whose views and links stay as they are nothing else. So what one process sends to one receiver is dispatched
in the order in which it was sent, by one process and never twice, whatever relays are in between and however the sends
and the frames of all processes are mixed; when nothing has failed and no frame is left on the way, all of it is.

A send is one action here: two sends that overlap on one connection mix their frames (`Interleaving`). One that fails
closes the connection, and what it has written is no frame. A process that is not active ignores the frame.
-/
import SomeServer.Ipc.Broadcasts
import SomeServer.Ipc.DataCodec
import SomeServer.Ipc.Forwarding
import SomeServer.Lib.Relays

namespace SomeServer

open Lib

/-! ## What is under way -/

/-- What the processes on the way of an envelope go by. -/
structure Flow where
  source : ProcessRef
  receiver : ReceiverAddress
  owner : Option ProcessRef
deriving DecidableEq

def Envelope.flow (envelope : Envelope) : Flow :=
  ⟨envelope.header.sourceProcess, envelope.header.targetReceiver, envelope.header.resolvedTargetProcess⟩

/-- A connection, as the process that sends on it knows it. -/
abbrev Wire := ProcessRef × UInt64

/-- All that applications have sent, all frames that were written on each connection and how many of them have been
handled at its other end, all that each process has dispatched, and what has failed. -/
structure Traffic where
  sent : List Envelope := []
  wires : Wire → List ByteBuffer := fun _ => []
  handled : Wire → Nat := fun _ => 0
  dispatched : ProcessRef → List Envelope := fun _ => []
  failed : List Envelope := []

namespace Traffic

/-- `ITransport::Send` of what the envelope has been encoded to, if it has been. -/
def write (t : Traffic) (wire : Wire) (result : Result) : Option ByteBuffer → Traffic
  | none => t
  | some payload =>
      if result.ok then { t with wires := Function.update t.wires wire (t.wires wire ++ [payload]) } else t

/-- An action of a messenger, with its result. -/
def perform (protobuf : Protobuf) (p : ProcessRef) (result : Result) (t : Traffic) : SendAct → Traffic
  | .dispatch _ envelope => { t with dispatched := Function.update t.dispatched p (t.dispatched p ++ [envelope]) }
  | .transport connectionId envelope => t.write (p, connectionId) result (encodeDataEnvelope protobuf envelope)

/-- A transport that succeeds. -/
theorem perform_transport {protobuf : Protobuf} {p : ProcessRef} {result : Result} {t : Traffic}
    {connectionId : UInt64} {envelope : Envelope} {payload : ByteBuffer}
    (hencode : encodeDataEnvelope protobuf envelope = some payload) (hok : result.ok = true) :
    t.perform protobuf p result (.transport connectionId envelope) =
      { t with wires := Function.update t.wires (p, connectionId) (t.wires (p, connectionId) ++ [payload]) } := by
  rw [perform, hencode, write, if_pos hok]

/-- What has become of an envelope. -/
def note (t : Traffic) (envelope : Envelope) (result : Result) : Traffic :=
  if result.ok then t else { t with failed := t.failed ++ [envelope] }

/-- The next frame of a connection has been read. -/
def read (t : Traffic) (wire : Wire) : Traffic :=
  { t with handled := Function.update t.handled wire (t.handled wire + 1) }

end Traffic

namespace Network

/-- `HandleIncomingDataFrameLocked`: what a process does with the envelope of a frame, if there is one, when its actions
have this result. -/
def handleIncomingDataFrame (net : Network) (protobuf : Protobuf) (q : ProcessRef) (active : Bool) (result : Result)
    (t : Traffic) (decoded : Option Envelope) : Traffic :=
  let handled := if active then ((net.messenger q).handleIncomingFrame .data decoded).trace fun _ => result
    else ([], .failure "ipc is not active")
  match decoded with
  | none => handled.1.foldl (Traffic.perform protobuf q result) t
  | some envelope => (handled.1.foldl (Traffic.perform protobuf q result) t).note envelope handled.2

/-- One action of a call that some application is in, or one frame at the other end of its connection. -/
inductive Step (net : Network) (protobuf : Protobuf) (valid : ProtoDataEnvelope → Prop) : Traffic → Traffic → Prop
  | call {t : Traffic} {p : ProcessRef} {program : SendCall Result} {a : SendAct} {result : Result}
      (hsending : (net.messenger p).Sending program) (hdoes : program.Does a)
      (hvalid : valid (a.envelope.toProto a.envelope.payloadBytes)) :
      Step net protobuf valid t
        (({ t with sent := t.sent ++ [a.envelope] }.perform protobuf p result a).note a.envelope result)
  | frame {t : Traffic} {wire : Wire} {q : ProcessRef} {active : Bool} {payload : ByteBuffer} {result : Result}
      (hother : (net.links wire.1).Active wire.2 q) (hnext : (t.wires wire)[t.handled wire]? = some payload) :
      Step net protobuf valid t (net.handleIncomingDataFrame protobuf q active result (t.read wire)
        (decodeDataEnvelope protobuf payload))

/-- What a network comes to in which nothing has been sent before. -/
abbrev Reaches (net : Network) (protobuf : Protobuf) (valid : ProtoDataEnvelope → Prop) : Traffic → Prop :=
  Relation.ReflTransGen (net.Step protobuf valid) {}

/-! ## The decisions -/

/-- How a process gets an envelope to the process that it is for. -/
def route (net : Network) (p target : ProcessRef) : Hop Wire :=
  if target = p then .keep
  else match (nextHop p (net.policy p) (net.view p) (net.links p) target).bind (net.links p).findConnection with
    | none => .drop
    | some connectionId => .pass (p, connectionId)

/-- What the process that sends an envelope does with it. -/
def startHop (net : Network) (flow : Flow) : Hop Wire :=
  if flow.receiver.type = .process then
    if flow.receiver.processRef.processId = flow.source.processId then .keep
    else net.route flow.source ((net.view flow.source).knownAs flow.receiver.processRef.processId)
  else match flow.owner with
    | none => .keep
    | some owner => net.route flow.source owner

/-- What a process that is handed an envelope does with it. -/
def onwardHop (net : Network) (q : ProcessRef) (flow : Flow) : Hop Wire :=
  if flow.receiver.type = .process then net.route q ((net.view q).knownAs flow.receiver.processRef.processId)
  else match flow.owner with
    | none => .drop
    | some owner => net.route q owner

/-- The process at the other end of a connection. -/
def otherEnd (net : Network) (wire : Wire) : Option ProcessRef :=
  ((net.links wire.1).find? fun link => link.state = .active && link.connectionId = wire.2).map Link.remoteProcess

/-- The network as a system of relays. -/
def relays (net : Network) : Relays ProcessRef Wire Envelope Flow where
  flow := Envelope.flow
  node
    | flow, none => flow.source
    | _, some wire => (net.otherEnd wire).getD wire.1
  hop
    | flow, none => net.startHop flow
    | flow, some wire => match net.otherEnd wire with
      | none => .drop
      | some q => net.onwardHop q flow

variable {net : Network} {p q : ProcessRef} {envelope : Envelope} {location : Option ReceiverLocation}

theorem otherEnd_of_active {wire : Wire} (h : (net.links wire.1).Active wire.2 q) : net.otherEnd wire = some q := by
  unfold otherEnd
  cases hfound : (net.links wire.1).find? fun link => link.state = .active && link.connectionId = wire.2 with
  | none =>
      obtain ⟨link, hlink, hstate, -, hid⟩ := h
      exact absurd (List.find?_eq_none.mp hfound link hlink) (by simp [hstate, hid])
  | some link =>
      have hlink : link.state = .active ∧ link.connectionId = wire.2 := by simpa using List.find?_some hfound
      exact congrArg some (active_unique
        ⟨link, List.mem_of_find?_eq_some hfound, hlink.1, rfl, hlink.2⟩ h)

/-- The program does with an envelope what was decided. -/
def CarriesOut (net : Network) (p : ProcessRef) (envelope : Envelope) (program : SendCall Result) : Hop Wire → Prop
  | .keep => program = (net.messenger p).dispatchLocal envelope
  | .pass wire => wire.1 = p ∧ program = sendCall (.transport wire.2 envelope)
  | .drop => ∃ message, program = .ret (.failure message)

theorem send_fails {links : LinkTable} {hop : ProcessRef} (h : links.findConnection hop = none) :
    ∃ message, links.send hop envelope = .ret (.failure message) := by
  unfold LinkTable.send
  rw [h]
  exact ⟨_, rfl⟩

theorem send_transports {links : LinkTable} {hop : ProcessRef} {connectionId : UInt64}
    (h : links.findConnection hop = some connectionId) :
    links.send hop envelope = sendCall (.transport connectionId envelope) := by
  unfold LinkTable.send
  rw [h]

/-- A plan for a single process is carried out as the process is reached. -/
theorem sendEnvelope_route {target : ProcessRef}
    (hplan : (net.messenger p).plan (envelope.resolveTo location) location = (net.policy p).resolveSingleTarget
        ⟨p, envelope.resolveTo location, location, some (net.view p), some (net.links p)⟩ target) :
    net.CarriesOut p (envelope.resolveTo location) ((net.messenger p).sendEnvelope envelope location)
      (net.route p target) := by
  unfold route
  by_cases htarget : target = p
  · rw [if_pos htarget]
    exact Messenger.sendEnvelope_local (hplan.trans (Messenger.resolveSingleTarget_local.mpr htarget))
  · rw [if_neg htarget]
    have hsend : (net.messenger p).sendEnvelope envelope location = _ := Messenger.sendEnvelope_node htarget hplan
    rw [hsend]
    unfold nextHop
    by_cases hlink : (net.links p).hasHealthyDirectLink target = true
    · obtain ⟨connectionId, hconnection⟩ := Option.isSome_iff_exists.mp (LinkTable.findConnection_isSome.mpr hlink)
      rw [if_pos hlink, if_pos hlink, Option.bind_some, hconnection]
      exact ⟨rfl, send_transports hconnection⟩
    · rw [if_neg hlink, if_neg hlink]
      cases (net.view p).firstRelay (net.policy p).relayServiceType p with
      | none => exact ⟨_, rfl⟩
      | some relay =>
          rw [Option.filter_some]
          cases hconnection : (net.links p).findConnection relay with
          | none =>
              rw [LinkTable.findConnection_eq_none.mp hconnection]
              exact send_fails hconnection
          | some connectionId =>
              have hlinked : (net.links p).hasHealthyDirectLink relay = true := by
                rw [← LinkTable.findConnection_isSome, hconnection]
                rfl
              rw [hlinked, if_pos rfl, Option.bind_some, hconnection]
              exact ⟨rfl, send_transports hconnection⟩

/-! ## What the applications send -/

/-- What leaves a process in a call of an application is sent by it, and leaves as `startHop` says. -/
def Starts (net : Network) (p : ProcessRef) : SendAct → Prop
  | .dispatch _ envelope => envelope.header.sourceProcess = p ∧ net.startHop envelope.flow = .keep
  | .transport connectionId envelope => envelope.Travels ∧ envelope.broadcastScope = {} ∧
      envelope.header.sourceProcess = p ∧ net.startHop envelope.flow = .pass (p, connectionId)

/-- Directories have the receivers of players and services, and no processes. -/
def PlacesNoProcess (net : Network) : Prop :=
  ∀ p receiver, receiver.type = .process → net.directory p receiver = {}

theorem dispatchLocal_starts (hsource : envelope.header.sourceProcess = p)
    (hstart : net.startHop envelope.flow = .keep) :
    ((net.messenger p).dispatchLocal envelope).All (net.Starts p) := by
  unfold Messenger.dispatchLocal
  split
  · exact trivial
  · exact ⟨⟨hsource, hstart⟩, fun _ => trivial⟩

theorem route_starts {target : ProcessRef} (hplan : (net.messenger p).plan (envelope.resolveTo location) location =
      (net.policy p).resolveSingleTarget
        ⟨p, envelope.resolveTo location, location, some (net.view p), some (net.links p)⟩ target)
    (htravels : (envelope.resolveTo location).Travels) (hscope : (envelope.resolveTo location).broadcastScope = {})
    (hsource : (envelope.resolveTo location).header.sourceProcess = p)
    (hstart : net.startHop (envelope.resolveTo location).flow = net.route p target) :
    ((net.messenger p).sendEnvelope envelope location).All (net.Starts p) := by
  have hcarried := sendEnvelope_route hplan
  cases hroute : net.route p target with
  | keep =>
      rw [hroute] at hcarried hstart
      rw [hcarried]
      exact dispatchLocal_starts hsource hstart
  | pass wire =>
      rw [hroute] at hcarried hstart
      obtain ⟨rfl, hsend⟩ := hcarried
      rw [hsend]
      exact ⟨⟨htravels, hscope, hsource, hstart⟩, fun _ => trivial⟩
  | drop =>
      rw [hroute] at hcarried
      obtain ⟨message, hfailed⟩ := hcarried
      rw [hfailed]
      exact trivial

/-- An envelope for a receiver that is at one process. -/
theorem single_starts (envelope : Envelope) (hdirect : envelope.header.semantic = .direct)
    (htype : envelope.header.targetReceiver.type ≠ .process) (hscope : envelope.broadcastScope = {})
    (hsource : envelope.header.sourceProcess = p) (owner : ProcessRef) (rest : List ProcessRef) (version : UInt64) :
    ((net.messenger p).sendEnvelope envelope (some ⟨.singleProcess, owner :: rest, version⟩)).All
      (net.Starts p) := by
  have hresolved : envelope.resolveTo (some ⟨.singleProcess, owner :: rest, version⟩) =
      { envelope with header := { envelope.header with resolvedTargetProcess := some owner } } := if_pos htype
  refine route_starts (Messenger.plan_single ?_ owner rest version) ?_ ?_ ?_ ?_
  · rw [hresolved]
    exact hdirect
  · rw [hresolved]
    exact ⟨hdirect, fun _ => rfl⟩
  · rw [hresolved]
    exact hscope
  · rw [hresolved]
    exact hsource
  · rw [hresolved]
    show net.startHop ⟨envelope.header.sourceProcess, envelope.header.targetReceiver, some owner⟩ = _
    rw [startHop, if_neg htype, hsource]

theorem sendHops_starts (htype : envelope.header.targetReceiver.type ≠ .process)
    (hsource : envelope.header.sourceProcess = p) (hops : List RouteHop) :
    ((net.messenger p).sendHops envelope hops).All (net.Starts p) := by
  induction hops with
  | nil =>
      rw [Messenger.sendHops]
      exact trivial
  | cons hop hops ih =>
      rw [Messenger.sendHops]
      have hfirst : ((net.messenger p).sendEnvelope (envelope.forHop hop) (some (.single hop.nextHop))).All
          (net.Starts p) :=
        single_starts (envelope.forHop hop) rfl htype rfl hsource hop.nextHop [] 1
      refine hfirst.bind fun result => ?_
      split
      · exact trivial
      · exact ih

/-- A message for a receiver that is not a process, wherever the directory has it. -/
theorem direct_starts (envelope : Envelope) (hdirect : envelope.header.semantic = .direct)
    (htype : envelope.header.targetReceiver.type ≠ .process) (hscope : envelope.broadcastScope = {})
    (hsource : envelope.header.sourceProcess = p) (howner : envelope.header.resolvedTargetProcess = none)
    (location : ReceiverLocation) :
    ((net.messenger p).sendEnvelope envelope (some location)).All (net.Starts p) := by
  have hnone : (net.policy p).resolveProcess ⟨p, envelope, some location, some (net.view p), some (net.links p)⟩ =
      .drop := if_neg htype
  obtain ⟨kind, processes, version⟩ := location
  cases kind with
  | localProcess =>
      have hplan : (net.messenger p).plan envelope (some ⟨.localProcess, processes, version⟩) = .localDelivery := by
        simp only [Messenger.plan, RelayFirstPolicy.resolve, hdirect]
      rw [Messenger.sendEnvelope_local hplan]
      refine dispatchLocal_starts hsource ?_
      show net.startHop ⟨_, envelope.header.targetReceiver, envelope.header.resolvedTargetProcess⟩ = _
      rw [startHop, if_neg htype, howner]
  | singleProcess =>
      cases processes with
      | cons owner rest => exact single_starts envelope hdirect htype hscope hsource owner rest version
      | nil =>
          have hplan : (net.messenger p).plan envelope (some ⟨.singleProcess, [], version⟩) = .drop := by
            simp only [Messenger.plan, RelayFirstPolicy.resolve, hdirect]
            exact hnone
          rw [Messenger.sendEnvelope_drop hplan]
          exact trivial
  | multiProcess =>
      cases processes with
      | cons owner rest =>
          have hplan : (net.messenger p).plan envelope (some ⟨.multiProcess, owner :: rest, version⟩) =
              .multiNextHop ((owner :: rest).map fun process => ⟨process, process = p⟩) := by
            simp only [Messenger.plan, RelayFirstPolicy.resolve, hdirect]
            rfl
          rw [Messenger.sendEnvelope_multi hplan]
          exact sendHops_starts htype hsource _
      | nil =>
          have hplan : (net.messenger p).plan envelope (some ⟨.multiProcess, [], version⟩) = .drop := by
            simp only [Messenger.plan, RelayFirstPolicy.resolve, hdirect]
            exact hnone
          rw [Messenger.sendEnvelope_drop hplan]
          exact trivial
  | unresolved =>
      have hplan : (net.messenger p).plan envelope (some ⟨.unresolved, processes, version⟩) = .drop := by
        simp only [Messenger.plan, RelayFirstPolicy.resolve, hdirect]
      rw [Messenger.sendEnvelope_drop hplan]
      exact trivial

/-- A broadcast to a service. -/
theorem broadcast_starts (hbroadcast : envelope.header.semantic = .broadcast)
    (htype : envelope.header.targetReceiver.type ≠ .process) (hsource : envelope.header.sourceProcess = p) :
    ((net.messenger p).sendEnvelope envelope none).All (net.Starts p) := by
  cases hplan : (net.messenger p).plan (envelope.resolveTo none) none with
  | multiNextHop hops =>
      rw [Messenger.sendEnvelope_multi hplan]
      exact sendHops_starts htype hsource hops
  | drop =>
      rw [Messenger.sendEnvelope_drop hplan]
      exact trivial
  | unreachable =>
      rw [Messenger.sendEnvelope_unreachable hplan]
      exact trivial
  | localDelivery =>
      rw [Envelope.resolveTo_none, Messenger.plan, RelayFirstPolicy.resolve] at hplan
      simp only [hbroadcast] at hplan
      unfold RelayFirstPolicy.resolveBroadcast at hplan
      grind
  | singleNextHop hop =>
      have hdirect := (RelayFirstPolicy.resolve_single hplan).1
      rw [Envelope.resolveTo_none] at hdirect
      exact absurd (hbroadcast.symm.trans hdirect) (by decide)

/-- A message for a process. -/
theorem sendToProcess_starts (target : ProcessId) (message : Messenger.Message) :
    ((net.messenger p).sendToProcess target message).All (net.Starts p) := by
  unfold Messenger.sendToProcess
  have hflow : ((net.messenger p).envelopeFor (processReceiver target) message).flow =
      ⟨p, processReceiver target, none⟩ := rfl
  by_cases hself : target = p.processId
  · have hlocal : target = (net.messenger p).self.processId := hself
    rw [if_pos hlocal]
    have hplan : (net.messenger p).plan ((net.messenger p).envelopeFor (processReceiver target) message)
        (some ⟨.localProcess, [(net.messenger p).self], 1⟩) = .localDelivery := rfl
    rw [Messenger.sendEnvelope_local hplan]
    refine dispatchLocal_starts rfl ?_
    show net.startHop ((net.messenger p).envelopeFor (processReceiver target) message).flow = _
    rw [hflow, startHop, if_pos (processReceiver_type target), processReceiver_processRef, if_pos hself]
  · have hremote : ¬ target = (net.messenger p).self.processId := hself
    rw [if_neg hremote]
    refine route_starts (Messenger.plan_process rfl rfl) ⟨rfl, fun h => absurd rfl h⟩ rfl rfl ?_
    rw [Envelope.resolveTo_none, hflow, startHop, if_pos (processReceiver_type target), processReceiver_processRef,
      if_neg hself]
    rfl

/-- Whatever a call of an application does, it starts an envelope as `startHop` says. -/
theorem sending_starts (hdirectory : net.PlacesNoProcess) {program : SendCall Result}
    (h : (net.messenger p).Sending program) : program.All (net.Starts p) := by
  cases h with
  | toProcess target message => exact sendToProcess_starts target message
  | toReceiver target message =>
      unfold Messenger.sendToReceiver
      by_cases htype : target.type = .process
      · have hlocation : (net.messenger p).directory target = {} := hdirectory p target htype
        rw [hlocation, Messenger.sendEnvelope_drop rfl]
        exact trivial
      · exact direct_starts ((net.messenger p).envelopeFor target message) rfl htype rfl rfl rfl _
  | broadcastToReceiver target scope message =>
      unfold Messenger.broadcastToReceiver
      split
      · exact trivial
      · rename_i hservice
        split
        · exact trivial
        · have htype : target.type = .service := not_not.mp hservice
          refine broadcast_starts rfl ?_ rfl
          show target.type ≠ .process
          rw [htype]
          decide
  | broadcastToService serviceType scope message =>
      unfold Messenger.broadcastToService Messenger.broadcastToReceiver
      split
      · exact trivial
      · split
        · exact trivial
        · refine broadcast_starts rfl ?_ rfl
          show ReceiverType.service ≠ ReceiverType.process
          decide

/-! ## What becomes of it on the way -/

/-- A process that is handed an envelope does what `onwardHop` says. -/
theorem handleIncomingFrame_onward (net : Network) (q : ProcessRef) (h : envelope.Travels) :
    net.CarriesOut q envelope ((net.messenger q).handleIncomingFrame .data (some envelope))
      (net.onwardHop q envelope.flow) := by
  obtain ⟨target, hdestination, hplan⟩ :=
    Messenger.plan_incoming (show (net.messenger q).membership = some (net.view q) from rfl) h
  have hresolved := Messenger.resolveTo_incoming (net.messenger q) h
  have honward : net.onwardHop q envelope.flow = net.route q target := by
    unfold Envelope.destination at hdestination
    unfold onwardHop Envelope.flow
    dsimp only
    split
    · rename_i htype
      rw [if_pos htype] at hdestination
      cases hdestination
      rfl
    · rename_i htype
      rw [if_neg htype] at hdestination
      rw [hdestination]
  have hroute := sendEnvelope_route (show (net.messenger q).plan
      (envelope.resolveTo ((net.messenger q).incomingLocation envelope)) _ = _ by
    rw [hresolved]
    exact hplan)
  rw [hresolved] at hroute
  rw [honward]
  exact hroute

end Network

/-! ## The network as a system of relays -/

/-- An envelope that comes back from its bytes, and travels. -/
structure Envelope.Goes (valid : ProtoDataEnvelope → Prop) (envelope : Envelope) : Prop where
  travels : envelope.Travels
  scope : envelope.broadcastScope = {}
  valid : valid (envelope.toProto envelope.payloadBytes)

theorem Envelope.Goes.decodes {protobuf : Protobuf} {valid : ProtoDataEnvelope → Prop} {envelope : Envelope}
    (laws : protobuf.Lawful valid) (h : envelope.Goes valid) : ∃ payload,
      encodeDataEnvelope protobuf envelope = some payload ∧ decodeDataEnvelope protobuf payload = some envelope := by
  obtain ⟨proto, htrip, hsame⟩ := roundTrip_eq laws h.valid
  obtain ⟨payload, hencode, hdecode⟩ := Option.bind_eq_some_iff.mp htrip
  have heq : proto.fromProto = envelope := by
    have hheader := (header_of_same hsame).trans (header_fromProto_toProto envelope envelope.payloadBytes)
    have hscope := (scope_of_direct h.travels.direct hsame).trans h.scope.symm
    have hurl : proto.fromProto.payloadTypeUrl = envelope.payloadTypeUrl := hsame.payloadTypeUrl
    have hbytes : proto.fromProto.payloadBytes = envelope.payloadBytes := hsame.payloadBytes
    cases envelope
    cases hproto : proto.fromProto
    simp_all
  exact ⟨payload, hencode, hdecode.trans (congrArg some heq)⟩

/-- The relays have what the network has: the frames decode to the items, and what has been dropped has failed. -/
structure Traffic.Refines (protobuf : Protobuf) (valid : ProtoDataEnvelope → Prop) (t : Traffic)
    (s : Relays.State ProcessRef Wire Envelope) : Prop where
  sent : s.started = t.sent
  wires : ∀ wire, (t.wires wire).map (decodeDataEnvelope protobuf) = (s.carried wire).map some
  handled : s.handled = t.handled
  dispatched : s.kept = t.dispatched
  failed : ∀ envelope ∈ s.dropped, envelope ∈ t.failed
  goes : ∀ wire, ∀ envelope ∈ s.carried wire, envelope.Goes valid

namespace Traffic.Refines

variable {protobuf : Protobuf} {valid : ProtoDataEnvelope → Prop} {t : Traffic}
  {s : Relays.State ProcessRef Wire Envelope} {envelope : Envelope} {p n : ProcessRef} {result : Result}

theorem initial : Refines protobuf valid {} {} where
  sent := rfl
  wires _ := rfl
  handled := rfl
  dispatched := rfl
  failed _ h := absurd h List.not_mem_nil
  goes _ _ h := absurd h List.not_mem_nil

theorem note (h : Refines protobuf valid t s) (envelope : Envelope) (result : Result) :
    Refines protobuf valid (t.note envelope result) s := by
  unfold Traffic.note
  split
  · exact h
  · exact { h with failed := fun e he => List.mem_append_left _ (h.failed e he) }

theorem sending (h : Refines protobuf valid t s) (envelope : Envelope) :
    Refines protobuf valid { t with sent := t.sent ++ [envelope] } (s.arrive envelope none) :=
  { h with sent := congrArg (· ++ [envelope]) h.sent }

theorem read (h : Refines protobuf valid t s) (envelope : Envelope) (wire : Wire) :
    Refines protobuf valid (t.read wire) (s.arrive envelope (some wire)) := by
  refine { h with handled := ?_ }
  show Function.update s.handled wire (s.handled wire + 1) = Function.update t.handled wire (t.handled wire + 1)
  rw [h.handled]

theorem dispatch (h : Refines protobuf valid t s) (p : ProcessRef) (result : Result) (target : ReceiverAddress)
    (envelope : Envelope) :
    Refines protobuf valid (t.perform protobuf p result (.dispatch target envelope)) (s.put p envelope .keep) := by
  refine { h with dispatched := ?_ }
  show Function.update s.kept p (s.kept p ++ [envelope]) = Function.update t.dispatched p (t.dispatched p ++ [envelope])
  rw [h.dispatched]

/-- A transport that has succeeded has put the envelope on the connection. -/
theorem transport (laws : protobuf.Lawful valid) (h : Refines protobuf valid t s) (hgoes : envelope.Goes valid)
    (hok : result.ok = true) (connectionId : UInt64) :
    Refines protobuf valid (t.perform protobuf p result (.transport connectionId envelope))
      (s.put n envelope (.pass (p, connectionId))) := by
  obtain ⟨payload, hencode, hdecode⟩ := hgoes.decodes laws
  rw [perform_transport hencode hok]
  refine { h with wires := fun wire => ?_, goes := fun wire e he => ?_ }
  · by_cases hwire : wire = (p, connectionId)
    · subst hwire
      simp [Relays.State.put, h.wires, hdecode]
    · simpa [Relays.State.put, Function.update_of_ne hwire] using h.wires wire
  · by_cases hwire : wire = (p, connectionId)
    · subst hwire
      have hmem : e ∈ s.carried (p, connectionId) ∨ e = envelope := by simpa [Relays.State.put] using he
      rcases hmem with hold | rfl
      · exact h.goes _ e hold
      · exact hgoes
    · exact h.goes wire e (by simpa [Relays.State.put, Function.update_of_ne hwire] using he)

/-- One that has failed has not. -/
theorem transport_failed (hfailed : result.ok = false) (connectionId : UInt64) :
    t.perform protobuf p result (.transport connectionId envelope) = t := by
  rw [Traffic.perform]
  cases encodeDataEnvelope protobuf envelope with
  | none => rfl
  | some payload => exact if_neg (by rw [hfailed]; decide)

theorem drop (h : Refines protobuf valid t s) (hfailed : envelope ∈ t.failed) :
    Refines protobuf valid t (s.put n envelope .drop) := by
  refine { h with failed := fun e he => ?_ }
  rcases List.mem_append.mp he with hold | hnew
  · exact h.failed e hold
  · rw [List.mem_singleton.mp hnew]
    exact hfailed

/-- A failure is a drop. -/
theorem note_failed (h : Refines protobuf valid t s) (hfailed : result.ok = false) :
    Refines protobuf valid (t.note envelope result) (s.put n envelope .drop) := by
  refine (h.note envelope result).drop ?_
  unfold Traffic.note
  rw [hfailed, if_neg Bool.false_ne_true]
  exact List.mem_append_right _ (List.mem_singleton_self envelope)

end Traffic.Refines

namespace Network

variable {net : Network} {protobuf : Protobuf} {valid : ProtoDataEnvelope → Prop} {t t' : Traffic}
  {s : Relays.State ProcessRef Wire Envelope} {envelope : Envelope} {p q : ProcessRef} {result : Result}

theorem handle_pass (protobuf : Protobuf) (result : Result) (t : Traffic) (htravels : envelope.Travels) {wire : Wire}
    (hhop : net.onwardHop q envelope.flow = .pass wire) : wire.1 = q ∧
      net.handleIncomingDataFrame protobuf q true result t (some envelope) =
        (t.perform protobuf q result (.transport wire.2 envelope)).note envelope result := by
  have honward := handleIncomingFrame_onward net q htravels
  rw [hhop] at honward
  obtain ⟨hwire, hsend⟩ := honward
  have htrace : (sendCall (.transport wire.2 envelope)).trace (fun _ => result) =
      ([.transport wire.2 envelope], result) := rfl
  refine ⟨hwire, ?_⟩
  unfold handleIncomingDataFrame
  simp only [if_pos]
  rw [hsend, htrace, List.foldl_cons, List.foldl_nil]

theorem handle_keep (htravels : envelope.Travels) (hhop : net.onwardHop q envelope.flow = .keep)
    (hregistered : net.registered q envelope.payloadTypeUrl = true) :
    net.handleIncomingDataFrame protobuf q true result t (some envelope) =
      (t.perform protobuf q result (.dispatch envelope.header.targetReceiver envelope)).note envelope result := by
  have honward := handleIncomingFrame_onward net q htravels
  rw [hhop] at honward
  have hknown : (net.messenger q).registered envelope.payloadTypeUrl = true := hregistered
  unfold handleIncomingDataFrame
  simp only [if_pos]
  rw [honward, Messenger.dispatchLocal, hknown, if_neg (by decide)]
  rfl

/-- Handling an envelope hands it on as `onwardHop` says, or drops it. -/
theorem handled_refines (net : Network) (q : ProcessRef) (result : Result) (laws : protobuf.Lawful valid)
    (h : t.Refines protobuf valid s) (hgoes : envelope.Goes valid) (active : Bool) :
    ∃ hop, (hop = net.onwardHop q envelope.flow ∨ hop = .drop) ∧
      (net.handleIncomingDataFrame protobuf q active result t (some envelope)).Refines protobuf valid
        (s.put q envelope hop) := by
  cases active with
  | false => exact ⟨.drop, .inr rfl, h.note_failed rfl⟩
  | true =>
      cases hhop : net.onwardHop q envelope.flow with
      | drop =>
          have honward := handleIncomingFrame_onward net q hgoes.travels
          rw [hhop] at honward
          obtain ⟨message, hfailed⟩ := honward
          unfold handleIncomingDataFrame
          simp only [if_pos]
          rw [hfailed]
          exact ⟨.drop, .inr rfl, h.note_failed rfl⟩
      | keep =>
          cases hregistered : net.registered q envelope.payloadTypeUrl with
          | true =>
              rw [handle_keep hgoes.travels hhop hregistered]
              exact ⟨.keep, .inl rfl, (h.dispatch q result _ envelope).note envelope result⟩
          | false =>
              have honward := handleIncomingFrame_onward net q hgoes.travels
              rw [hhop] at honward
              have hunknown : (net.messenger q).registered envelope.payloadTypeUrl = false := hregistered
              unfold handleIncomingDataFrame
              simp only [if_pos]
              rw [honward, Messenger.dispatchLocal, hunknown, if_pos (by decide)]
              exact ⟨.drop, .inr rfl, h.note_failed rfl⟩
      | pass wire =>
          obtain ⟨rfl, hhandled⟩ := handle_pass protobuf result t hgoes.travels hhop
          rw [hhandled]
          cases hok : result.ok with
          | true => exact ⟨.pass wire, .inl rfl, (h.transport laws hgoes hok wire.2).note envelope result⟩
          | false =>
              rw [Traffic.Refines.transport_failed hok]
              exact ⟨.drop, .inr rfl, h.note_failed hok⟩

/-- The frames of a connection are its items. -/
theorem next_of_frame (h : t.Refines protobuf valid s) {wire : Wire} {payload : ByteBuffer}
    (hnext : (t.wires wire)[t.handled wire]? = some payload) : ∃ envelope, s.Next envelope (some wire) ∧
      decodeDataEnvelope protobuf payload = some envelope := by
  have hdecoded : ((s.carried wire).map some)[s.handled wire]? = some (decodeDataEnvelope protobuf payload) := by
    rw [← h.wires wire, h.handled, List.getElem?_map, hnext]
    rfl
  rw [List.getElem?_map] at hdecoded
  obtain ⟨envelope, hitem, heq⟩ := Option.map_eq_some_iff.mp hdecoded
  exact ⟨envelope, hitem, heq.symm⟩

theorem frame_simulated (laws : protobuf.Lawful valid) (h : t.Refines protobuf valid s) {wire : Wire}
    {active : Bool} {payload : ByteBuffer} (hother : (net.links wire.1).Active wire.2 q)
    (hnext : (t.wires wire)[t.handled wire]? = some payload) :
    ∃ s', net.relays.Step s s' ∧
      (net.handleIncomingDataFrame protobuf q active result (t.read wire)
        (decodeDataEnvelope protobuf payload)).Refines protobuf valid s' := by
  obtain ⟨envelope, hitem, hdecode⟩ := next_of_frame h hnext
  have hgoes : envelope.Goes valid := h.goes wire envelope (List.mem_of_getElem? hitem)
  obtain ⟨hop, hhop, hrefines⟩ := handled_refines net q result laws (h.read envelope wire)
    hgoes active
  have hend := otherEnd_of_active hother
  have hnode : net.relays.node envelope.flow (some wire) = q := by
    show (net.otherEnd wire).getD wire.1 = q
    rw [hend]
    rfl
  have honward : net.relays.hop envelope.flow (some wire) = net.onwardHop q envelope.flow := by
    unfold relays
    dsimp only
    rw [hend]
  have hstep : net.relays.Step s ((s.arrive envelope (some wire)).put
      (net.relays.node envelope.flow (some wire)) envelope hop) := .take hitem (honward ▸ hhop)
  rw [hnode] at hstep
  rw [hdecode]
  exact ⟨_, hstep, hrefines⟩

theorem call_simulated (laws : protobuf.Lawful valid) (h : t.Refines protobuf valid s) {a : SendAct}
    (hstarts : net.Starts p a) (hvalid : valid (a.envelope.toProto a.envelope.payloadBytes)) :
    ∃ s', net.relays.Step s s' ∧
      (({ t with sent := t.sent ++ [a.envelope] }.perform protobuf p result a).note a.envelope result).Refines
        protobuf valid s' := by
  have hsent := h.sending a.envelope
  cases a with
  | dispatch target envelope =>
      obtain ⟨rfl, hstart⟩ := hstarts
      exact ⟨_, .take (x := none) trivial (.inl hstart.symm), (hsent.dispatch _ result target envelope).note _ _⟩
  | transport connectionId envelope =>
      obtain ⟨htravels, hscope, rfl, hstart⟩ := hstarts
      have hgoes : envelope.Goes valid := ⟨htravels, hscope, hvalid⟩
      cases hok : result.ok with
      | true =>
          exact ⟨_, .take (x := none) trivial (.inl hstart.symm), (hsent.transport laws hgoes hok connectionId).note _ _⟩
      | false =>
          rw [Traffic.Refines.transport_failed hok]
          exact ⟨_, .take (x := none) trivial (.inr rfl), hsent.note_failed hok⟩

/-- The network does what the relays do. -/
theorem reaches_simulated (laws : protobuf.Lawful valid) (hdirectory : net.PlacesNoProcess)
    (h : net.Reaches protobuf valid t) : ∃ s, net.relays.Reaches s ∧ t.Refines protobuf valid s := by
  induction h with
  | refl => exact ⟨_, .refl, .initial⟩
  | @tail t t' _ hstep ih =>
      obtain ⟨s, hrun, hrefines⟩ := ih
      have hsimulated : ∃ s', net.relays.Step s s' ∧ Traffic.Refines protobuf valid t' s' := by
        cases hstep with
        | call hsending hdoes hvalid =>
            exact call_simulated laws hrefines ((sending_starts hdirectory hsending).of_does hdoes) hvalid
        | frame hother hnext => exact frame_simulated laws hrefines hother hnext
      obtain ⟨s', hstep', hrefines'⟩ := hsimulated
      exact ⟨s', hrun.tail hstep', hrefines'⟩

/-! ## What arrives -/

/-- The envelopes of a flow. -/
def of (flow : Flow) (envelopes : List Envelope) : List Envelope := envelopes.filter fun e => e.flow = flow

/-- In every run, what the processes dispatch of a flow is what its source has sent of it, in that order and with
nothing twice; one process only dispatches any; and when nothing of the flow has failed and all frames have been
handled, it has dispatched all. -/
theorem dispatched_in_order (laws : protobuf.Lawful valid) (hdirectory : net.PlacesNoProcess)
    (h : net.Reaches protobuf valid t) (flow : Flow) :
    (∀ q, (of flow (t.dispatched q)).Sublist (of flow t.sent)) ∧
    (∀ q q', of flow (t.dispatched q) ≠ [] → of flow (t.dispatched q') ≠ [] → q = q') ∧
    (of flow t.failed = [] → (∀ wire, t.handled wire = (t.wires wire).length) →
      ∃ q, of flow (t.dispatched q) = of flow t.sent) := by
  obtain ⟨s, hrun, hrefines⟩ := reaches_simulated laws hdirectory h
  have hof : net.relays.of flow = of flow := rfl
  rw [← hrefines.dispatched, ← hrefines.sent, ← hof]
  refine ⟨Relays.kept_sublist hrun, fun q q' => Relays.keeper_unique hrun hrun, fun hnone hempty => ?_⟩
  refine Relays.exists_kept_eq hrun ?_ fun wire => ?_
  · refine List.filter_eq_nil_iff.mpr fun e he => ?_
    exact List.filter_eq_nil_iff.mp hnone e (hrefines.failed e he)
  · rw [hrefines.handled, hempty wire]
    have hlength := congrArg List.length (hrefines.wires wire)
    rwa [List.length_map, List.length_map] at hlength

/-! ### By way of the relay -/

/-- The gate's command as a message of protobuf. -/
def commandMessage : ProtoDataEnvelope := commandEnvelope.toProto []

def oneMessage : Protobuf := .ofMessage commandMessage [1]

theorem oneMessage_lawful : oneMessage.Lawful fun m => m = commandMessage :=
  Protobuf.ofMessage_lawful (by decide) (by decide)

theorem command_goes : commandEnvelope.Goes fun m => m = commandMessage :=
  ⟨sends_travels (twoRelays_sends game), rfl, rfl⟩

theorem command_first : (twoRelays game).onwardHop firstRelay commandEnvelope.flow = .pass (firstRelay, 1) := rfl

theorem command_last : (twoRelays game).onwardHop game commandEnvelope.flow = .keep := rfl

/-- The command is on the gate's connection to the relay, -/
def sentCommand (payload : ByteBuffer) : Traffic where
  sent := [commandEnvelope]
  wires := Function.update (fun _ => []) (gate, 1) [payload]

/-- the relay has put it on its connection to the game, -/
def relayedCommand (payload : ByteBuffer) : Traffic where
  sent := [commandEnvelope]
  wires := Function.update (Function.update (fun _ => []) (gate, 1) [payload]) (firstRelay, 1) [payload]
  handled := Function.update (fun _ => 0) (gate, 1) 1

/-- and the game has dispatched it. -/
def dispatchedCommand (payload : ByteBuffer) : Traffic where
  sent := [commandEnvelope]
  wires := Function.update (Function.update (fun _ => []) (gate, 1) [payload]) (firstRelay, 1) [payload]
  handled := Function.update (Function.update (fun _ => 0) (gate, 1) 1) (firstRelay, 1) 1
  dispatched := Function.update (fun _ => []) game [commandEnvelope]

theorem command_reaches : ∃ payload,
    (twoRelays game).Reaches oneMessage (fun m => m = commandMessage) (dispatchedCommand payload) := by
  obtain ⟨payload, hencode, hdecode⟩ := command_goes.decodes oneMessage_lawful
  refine ⟨payload, ?_⟩
  have htravels := command_goes.travels
  have hsent : (twoRelays game).Reaches oneMessage (fun m => m = commandMessage) (sentCommand payload) := by
    obtain ⟨program, hsending, -, -, connectionId, hactive, hdoes⟩ := twoRelays_sends game
    have hid : connectionId = 1 := by
      obtain ⟨link, hlink, -, -, rfl⟩ := hactive
      rw [List.mem_singleton.mp hlink]
    subst hid
    have hcall : (twoRelays game).Step oneMessage (fun m => m = commandMessage) {}
        ((Traffic.perform oneMessage gate .success { sent := [commandEnvelope] } (.transport 1 commandEnvelope)).note
          commandEnvelope .success) :=
      .call (a := .transport 1 commandEnvelope) hsending hdoes command_goes.valid
    rw [Traffic.perform_transport hencode rfl] at hcall
    exact .single hcall
  have hrelayed : (twoRelays game).Step oneMessage (fun m => m = commandMessage) (sentCommand payload)
      ((twoRelays game).handleIncomingDataFrame oneMessage firstRelay true .success
        ((sentCommand payload).read (gate, 1)) (decodeDataEnvelope oneMessage payload)) :=
    .frame ⟨⟨1, firstRelay, .active⟩, List.mem_singleton.mpr rfl, rfl, rfl, rfl⟩ rfl
  have hdispatched : (twoRelays game).Step oneMessage (fun m => m = commandMessage) (relayedCommand payload)
      ((twoRelays game).handleIncomingDataFrame oneMessage game true .success
        ((relayedCommand payload).read (firstRelay, 1)) (decodeDataEnvelope oneMessage payload)) :=
    .frame ⟨⟨1, game, .active⟩, List.mem_singleton.mpr rfl, rfl, rfl, rfl⟩ rfl
  rw [hdecode, (handle_pass _ _ _ htravels command_first).2, Traffic.perform_transport hencode rfl] at hrelayed
  rw [hdecode, handle_keep htravels command_last rfl] at hdispatched
  exact (hsent.tail hrelayed).tail hdispatched

/-- The game has dispatched what the gate has sent to it. -/
theorem dispatched_in_order_command : ∃ t, (twoRelays game).Reaches oneMessage (fun m => m = commandMessage) t ∧
    t.dispatched game = [commandEnvelope] ∧
    (of commandEnvelope.flow (t.dispatched game)).Sublist (of commandEnvelope.flow t.sent) ∧
    ∃ q, of commandEnvelope.flow (t.dispatched q) = of commandEnvelope.flow t.sent := by
  obtain ⟨payload, hreaches⟩ := command_reaches
  obtain ⟨horder, -, hall⟩ := dispatched_in_order oneMessage_lawful (fun _ _ _ => rfl) hreaches commandEnvelope.flow
  refine ⟨_, hreaches, rfl, horder game, hall rfl fun wire => ?_⟩
  unfold dispatchedCommand
  dsimp only
  by_cases hrelay : wire = (firstRelay, 1)
  · subst hrelay
    rfl
  · rw [Function.update_of_ne hrelay, Function.update_of_ne hrelay]
    by_cases hgate : wire = (gate, 1)
    · subst hgate
      rfl
    · rw [Function.update_of_ne hgate, Function.update_of_ne hgate]
      rfl

end Network

end SomeServer
