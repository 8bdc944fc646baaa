/-
# SomeServer.Ipc.Messenger — sending envelopes, and handling those that come in

`Messenger` carries out the plan that the policy has made for an envelope: it dispatches the envelope in
this process, hands it to the transport on a link to the next hop, or goes through the hops of a fan-out
and sends each of them a direct envelope. `SendAct` is what leaves the messenger; a handed-over envelope is
encoded into the payload of a data frame, and the frame that comes in is decoded, so that here envelopes
are handed on themselves.
-/
import SomeServer.Ipc.Routing
import SomeServer.Lib.Prog

namespace SomeServer

open Lib

/-! ## What leaves the messenger -/

inductive SendAct where
  /-- `ReceiverRegistry::Dispatch`. -/
  | dispatch (target : ReceiverAddress) (envelope : Envelope)
  /-- `ITransport::Send` of the frame that has the envelope. -/
  | transport (connectionId : UInt64) (envelope : Envelope)
deriving DecidableEq

@[reducible] def SendAct.Reply (_ : SendAct) : Type := Result

abbrev SendCall (α : Type) : Type := Prog SendAct SendAct.Reply α

abbrev sendCall (a : SendAct) : SendCall Result := Prog.call a

/-! ## The messenger -/

/-- `registered` is the set of `PayloadRegistry`, `remoteSender` the links of `TransportMessageSender`; a
pointer that may be null is an option. -/
structure Messenger where
  self : ProcessRef
  policy : RelayFirstPolicy
  directory : ReceiverAddress → ReceiverLocation
  registered : String → Bool
  membership : Option MembershipView
  links : Option LinkTable
  remoteSender : Option LinkTable

/-- `ipc::FrameKind`, an enumeration over 16 bits. -/
structure FrameKind where
  code : UInt16
deriving DecidableEq, Repr

namespace FrameKind

def control : FrameKind := ⟨1⟩

def data : FrameKind := ⟨2⟩

end FrameKind

/-- `TransportMessageSender::Send`. -/
def LinkTable.send (links : LinkTable) (nextHop : ProcessRef) (envelope : Envelope) : SendCall Result :=
  match links.findConnection nextHop with
  | none => return .failure "no healthy link to next hop"
  | some connectionId => sendCall (.transport connectionId envelope)

/-- `Messenger::ProcessReceiver`. -/
def processReceiver (target : ProcessId) : ReceiverAddress :=
  ⟨.process, target.serviceType.toUInt64, target.instanceId.toUInt64⟩

namespace Envelope

/-- The owner that a receiver has been resolved to travels with the envelope. -/
def resolveTo (envelope : Envelope) : Option ReceiverLocation → Envelope
  | some ⟨.singleProcess, process :: _, _⟩ =>
      if envelope.header.targetReceiver.type ≠ .process then
        { envelope with header := { envelope.header with resolvedTargetProcess := some process } }
      else envelope
  | _ => envelope

/-- The envelope for one hop of a fan-out. -/
def forHop (envelope : Envelope) (hop : RouteHop) : Envelope :=
  { envelope with
    header := { envelope.header with
      semantic := .direct
      resolvedTargetProcess :=
        if envelope.header.targetReceiver.type ≠ .process then some hop.nextHop
        else envelope.header.resolvedTargetProcess }
    broadcastScope := {} }

end Envelope

namespace Messenger

/-- The plan for an envelope whose receiver is at this location. -/
def plan (m : Messenger) (envelope : Envelope) (location : Option ReceiverLocation) : RoutePlan :=
  m.policy.resolve ⟨m.self, envelope, location, m.membership, m.links⟩

/-- The fan-out of an envelope ends after one level: what is sent to a hop is for a single process. -/
theorem plan_forHop (m : Messenger) (envelope : Envelope) (hop : RouteHop) (process : ProcessRef)
    (hops : List RouteHop) :
    m.plan ((envelope.forHop hop).resolveTo (some (.single process))) (some (.single process)) ≠
      .multiNextHop hops := by
  have hsemantic : ((envelope.forHop hop).resolveTo (some (.single process))).header.semantic =
      .direct := by
    simp only [Envelope.resolveTo, ReceiverLocation.single]
    split <;> rfl
  unfold plan RelayFirstPolicy.resolve
  dsimp only
  rw [hsemantic]
  exact RelayFirstPolicy.resolveSingleTarget_single _ _ _ _

/-- Whether an envelope is fanned out. -/
def fanOut : RoutePlan → Nat
  | .multiNextHop _ => 1
  | _ => 0

/-- `DispatchLocal`. -/
def dispatchLocal (m : Messenger) (envelope : Envelope) : SendCall Result :=
  if !m.registered envelope.payloadTypeUrl then return .failure "payload type is not registered"
  else sendCall (.dispatch envelope.header.targetReceiver envelope)

mutual

/-- `SendEnvelope`. -/
def sendEnvelope (m : Messenger) (envelope : Envelope) (location : Option ReceiverLocation) :
    SendCall Result :=
  match _ : m.plan (envelope.resolveTo location) location with
  | .localDelivery => m.dispatchLocal (envelope.resolveTo location)
  | .drop => return .failure "message dropped during route resolution"
  | .singleNextHop hop =>
      match m.remoteSender with
      | none => return .failure "remote message sender is not configured"
      | some links => links.send hop.nextHop (envelope.resolveTo location)
  | .multiNextHop hops => m.sendHops (envelope.resolveTo location) hops
  | .unreachable => return .failure "route plan kind is not implemented yet"
termination_by (fanOut (m.plan (envelope.resolveTo location) location), 0)
decreasing_by
  rename_i h
  rw [h]
  exact Prod.Lex.left _ _ Nat.zero_lt_one

/-- The loop over the hops of a fan-out; it ends with the first failure. -/
def sendHops (m : Messenger) (envelope : Envelope) : List RouteHop → SendCall Result
  | [] => return .success
  | hop :: hops => do
      let result ← m.sendEnvelope (envelope.forHop hop) (some (.single hop.nextHop))
      if !result.ok then return result
      m.sendHops envelope hops
termination_by hops => (0, hops.length + 1)
decreasing_by
  · have hfan : fanOut (m.plan ((envelope.forHop hop).resolveTo (some (.single hop.nextHop)))
        (some (.single hop.nextHop))) = 0 := by
      unfold fanOut
      split
      · rename_i hops' h
        exact absurd h (m.plan_forHop envelope hop hop.nextHop hops')
      · rfl
    rw [hfan]
    exact Prod.Lex.right _ (Nat.succ_pos _)
  · exact Prod.Lex.right _ (Nat.lt_succ_self _)

end

/-- What an application sends: the payload, and its type. -/
structure Message where
  payloadTypeUrl : String
  payloadBytes : ByteBuffer
deriving DecidableEq, Repr

/-- A direct envelope with a message of this process. -/
def envelopeFor (m : Messenger) (target : ReceiverAddress) (message : Message) : Envelope where
  header := { sourceProcess := m.self, targetReceiver := target }
  payloadTypeUrl := message.payloadTypeUrl
  payloadBytes := message.payloadBytes

/-- `SendToProcess`. -/
def sendToProcess (m : Messenger) (target : ProcessId) (message : Message) : SendCall Result :=
  m.sendEnvelope (m.envelopeFor (processReceiver target) message)
    (if target = m.self.processId then some ⟨.localProcess, [m.self], 1⟩ else none)

/-- `SendToReceiver`. -/
def sendToReceiver (m : Messenger) (target : ReceiverAddress) (message : Message) : SendCall Result :=
  m.sendEnvelope (m.envelopeFor target message) (some (m.directory target))

/-- `BroadcastToReceiver`. -/
def broadcastToReceiver (m : Messenger) (target : ReceiverAddress) (scope : BroadcastScope)
    (message : Message) : SendCall Result :=
  if target.type ≠ .service then
    return .failure "broadcast is not supported for this receiver type"
  else if scope.serviceType.any (· ≠ target.keyHi.toUInt32) then
    return .failure "broadcast scope service_type does not match target receiver"
  else
    let envelope := m.envelopeFor target message
    m.sendEnvelope
      { envelope with
        header := { envelope.header with semantic := .broadcast }
        broadcastScope := { scope with serviceType := some target.keyHi.toUInt32 } } none

/-- `BroadcastToService`. -/
def broadcastToService (m : Messenger) (serviceType : ServiceType) (scope : BroadcastScope)
    (message : Message) : SendCall Result :=
  m.broadcastToReceiver ⟨.service, serviceType.toUInt64, 1⟩ scope message

/-- Where `HandleIncomingFrame` takes the receiver of an envelope to be. -/
def incomingLocation (m : Messenger) (envelope : Envelope) : Option ReceiverLocation :=
  if envelope.header.targetReceiver.type = .process then none
  else match envelope.header.resolvedTargetProcess with
    | some process => some (.single process)
    | none => some (m.directory envelope.header.targetReceiver)

/-- `HandleIncomingFrame`, with the envelope that the payload decodes to, if it does. -/
def handleIncomingFrame (m : Messenger) (kind : FrameKind) (decoded : Option Envelope) :
    SendCall Result :=
  if kind ≠ .data then return .failure "unsupported frame kind"
  else match decoded with
    | none => return .failure "invalid data envelope"
    | some envelope => m.sendEnvelope envelope (m.incomingLocation envelope)

end Messenger

end SomeServer
