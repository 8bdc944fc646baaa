/-
# SomeServer.Ipc.Delivery — what becomes of an envelope in one process

The routing policy looks at the members and the links, the sender at the links only, and the two ways
into the messenger find a target differently. Here the plan of a single target is read off the tables
(`knownAs`, `firstRelay`), and with it: which envelopes a process keeps for itself, when a usable path is
used, and whom a broadcast reaches.
-/
import SomeServer.Ipc.Messenger
import Mathlib.Data.List.Forall2

namespace SomeServer

open Lib

/-! ## What the tables say of a target -/

namespace MembershipView

/-- The process that a view lists under an id; one that it does not list has no incarnation. -/
def knownAs (view : MembershipView) (id : ProcessId) : ProcessRef :=
  ((view.find id).map ProcessDescriptor.process).getD ⟨id, 0⟩

/-- The first relay that a view lists, other than this process. -/
def firstRelay (view : MembershipView) (relayServiceType : ServiceType) (self : ProcessRef) :
    Option ProcessRef :=
  ((view.findByService relayServiceType).find? fun relay => relay.process ≠ self).map
    ProcessDescriptor.process

theorem knownAs_processId (view : MembershipView) (id : ProcessId) : (view.knownAs id).processId = id := by
  unfold knownAs
  cases hfind : view.find id with
  | none => rfl
  | some member => simpa using List.find?_some hfind

end MembershipView

@[simp] theorem processReceiver_processRef (id : ProcessId) : (processReceiver id).processRef = ⟨id, 0⟩ := by
  simp [processReceiver, ReceiverAddress.processRef]

@[simp] theorem processReceiver_type (id : ProcessId) : (processReceiver id).type = .process := rfl

namespace Envelope

@[simp] theorem resolveTo_none (envelope : Envelope) : envelope.resolveTo none = envelope := rfl

/-- The owner changes nothing but the field that has it. -/
theorem resolveTo_fields (envelope : Envelope) (location : Option ReceiverLocation) :
    (envelope.resolveTo location).header.semantic = envelope.header.semantic ∧
      (envelope.resolveTo location).header.targetReceiver = envelope.header.targetReceiver ∧
      (envelope.resolveTo location).payloadTypeUrl = envelope.payloadTypeUrl ∧
      (envelope.resolveTo location).payloadBytes = envelope.payloadBytes := by
  unfold resolveTo
  split
  · split <;> exact ⟨rfl, rfl, rfl, rfl⟩
  · exact ⟨rfl, rfl, rfl, rfl⟩

end Envelope

namespace Messenger

variable {m : Messenger} {envelope : Envelope} {location : Option ReceiverLocation}

/-! ### Carrying a plan out -/

theorem sendEnvelope_local (h : m.plan (envelope.resolveTo location) location = .localDelivery) :
    m.sendEnvelope envelope location = m.dispatchLocal (envelope.resolveTo location) := by
  rw [sendEnvelope]
  split <;> simp_all

theorem sendEnvelope_drop (h : m.plan (envelope.resolveTo location) location = .drop) :
    m.sendEnvelope envelope location =
      .ret (.failure "message dropped during route resolution") := by
  rw [sendEnvelope]
  split <;> simp_all

theorem sendEnvelope_unreachable (h : m.plan (envelope.resolveTo location) location = .unreachable) :
    m.sendEnvelope envelope location =
      .ret (.failure "route plan kind is not implemented yet") := by
  rw [sendEnvelope]
  split <;> simp_all

theorem sendEnvelope_single {hop : RouteHop} {links : LinkTable} (hsender : m.remoteSender = some links)
    (h : m.plan (envelope.resolveTo location) location = .singleNextHop hop) :
    m.sendEnvelope envelope location = links.send hop.nextHop (envelope.resolveTo location) := by
  rw [sendEnvelope]
  split <;> simp_all

theorem sendEnvelope_multi {hops : List RouteHop}
    (h : m.plan (envelope.resolveTo location) location = .multiNextHop hops) :
    m.sendEnvelope envelope location = m.sendHops (envelope.resolveTo location) hops := by
  rw [sendEnvelope]
  split <;> simp_all

/-! ### The plan for one process -/

/-- The plan for an envelope whose receiver is at one process. -/
theorem plan_single (hdirect : envelope.header.semantic = .direct) (process : ProcessRef)
    (rest : List ProcessRef) (version : UInt64) :
    m.plan envelope (some ⟨.singleProcess, process :: rest, version⟩) = m.policy.resolveSingleTarget
      ⟨m.self, envelope, some ⟨.singleProcess, process :: rest, version⟩, m.membership, m.links⟩
        process := by
  simp only [plan, RelayFirstPolicy.resolve, hdirect]

/-- The plan for an envelope that is for a process. -/
theorem plan_processRef (hdirect : envelope.header.semantic = .direct)
    (hprocess : envelope.header.targetReceiver.type = .process) :
    m.plan envelope none = m.policy.resolveSingleTarget ⟨m.self, envelope, none, m.membership, m.links⟩
      (((m.membership.bind fun view => view.find
        envelope.header.targetReceiver.processRef.processId).map ProcessDescriptor.process).getD
          envelope.header.targetReceiver.processRef) := by
  simp only [plan, RelayFirstPolicy.resolve, hdirect, RelayFirstPolicy.resolveProcess, hprocess, if_true]

/-- The plan for an envelope that is for a process id. -/
theorem plan_process (hdirect : envelope.header.semantic = .direct) {id : ProcessId}
    (hreceiver : envelope.header.targetReceiver = processReceiver id) :
    m.plan envelope none = m.policy.resolveSingleTarget ⟨m.self, envelope, none, m.membership, m.links⟩
      (((m.membership.bind fun view => view.find id).map ProcessDescriptor.process).getD ⟨id, 0⟩) := by
  rw [plan_processRef hdirect (by rw [hreceiver, processReceiver_type]), hreceiver,
    processReceiver_processRef]

/-! ## A message for this process -/

/-- Discovery lists this process with its incarnation, or, without any entry for its id, the incarnation
is the one that an unknown process is taken to have. -/
def FindsItself (m : Messenger) : Prop :=
  match m.membership.bind fun view => view.find m.self.processId with
  | some member => member.process = m.self
  | none => m.self.incarnationId = 0

theorem findsItself_iff : m.FindsItself ↔
    ((m.membership.bind fun view => view.find m.self.processId).map ProcessDescriptor.process).getD
      ⟨m.self.processId, 0⟩ = m.self := by
  unfold FindsItself
  cases m.membership.bind fun view => view.find m.self.processId with
  | some member => rfl
  | none =>
      show _ ↔ (⟨m.self.processId, 0⟩ : ProcessRef) = m.self
      obtain ⟨id, incarnation⟩ := Messenger.self m
      simp [eq_comm]

/-- An envelope that is not for this process is never dispatched here. -/
theorem resolveSingleTarget_local {policy : RelayFirstPolicy} {context : RoutingContext}
    {target : ProcessRef} :
    policy.resolveSingleTarget context target = .localDelivery ↔ target = context.self := by
  unfold RelayFirstPolicy.resolveSingleTarget
  split
  · simp_all
  · rename_i hne
    refine ⟨fun h => ?_, fun h => absurd h hne⟩
    split at h
    · cases h
    · split at h
      · cases h
      · split at h <;> cases h

/-- What is sent otherwise than by a local dispatch is not a local dispatch. -/
theorem send_ne_dispatchLocal (links : LinkTable) (hop : ProcessRef) (sent : Envelope) :
    links.send hop sent ≠ m.dispatchLocal envelope := by
  unfold LinkTable.send dispatchLocal
  split <;> split
  · intro h
    injection h with h
    exact absurd (congrArg Result.message h) (by decide)
  · intro h
    cases h
  · intro h
    cases h
  · intro h
    injection h with h
    cases h

/-- The envelope is dispatched in this process exactly when that is its plan. -/
theorem sendEnvelope_eq_dispatchLocal (hsingle : ∀ hops, m.plan envelope none ≠ .multiNextHop hops) :
    m.sendEnvelope envelope none = m.dispatchLocal envelope ↔ m.plan envelope none = .localDelivery := by
  have hfailure : ∀ text : String, text ≠ "payload type is not registered" →
      (.ret (.failure text) : SendCall Result) ≠ m.dispatchLocal envelope := by
    intro text htext h
    unfold dispatchLocal at h
    split at h
    · injection h with h
      exact htext (congrArg Result.message h)
    · cases h
  refine ⟨fun h => ?_, fun h => sendEnvelope_local h⟩
  cases hplan : m.plan envelope none with
  | localDelivery => rfl
  | singleNextHop hop =>
      rw [sendEnvelope, Envelope.resolveTo_none] at h
      split at h <;> simp_all only [RoutePlan.singleNextHop.injEq, reduceCtorEq]
      split at h
      · exact absurd h (hfailure _ (by decide))
      · exact absurd h (send_ne_dispatchLocal _ _ _)
  | multiNextHop hops => exact absurd hplan (hsingle hops)
  | unreachable =>
      rw [sendEnvelope_unreachable hplan] at h
      exact absurd h (hfailure _ (by decide))
  | drop =>
      rw [sendEnvelope_drop hplan] at h
      exact absurd h (hfailure _ (by decide))

/-- **A message for this process is dispatched here** when it is sent from here, and when it comes in,
exactly if it is direct and the process finds itself in its membership view. -/
theorem own_message_dispatched (m : Messenger) (envelope : Envelope)
    (hown : envelope.header.targetReceiver = processReceiver m.self.processId) :
    (∀ message, m.sendToProcess m.self.processId message =
      m.dispatchLocal (m.envelopeFor (processReceiver m.self.processId) message)) ∧
    (m.handleIncomingFrame .data (some envelope) = m.dispatchLocal envelope ↔
      envelope.header.semantic = .direct ∧ m.FindsItself) := by
  constructor
  · intro message
    have hresolve : (m.envelopeFor (processReceiver m.self.processId) message).resolveTo
        (some ⟨.localProcess, [m.self], 1⟩) = m.envelopeFor (processReceiver m.self.processId) message := rfl
    rw [sendToProcess, if_pos rfl, sendEnvelope_local, hresolve]
    rfl
  · have hincoming : m.handleIncomingFrame .data (some envelope) = m.sendEnvelope envelope none := by
      simp [handleIncomingFrame, incomingLocation, hown]
    rw [hincoming]
    cases hsemantic : envelope.header.semantic with
    | direct =>
        rw [sendEnvelope_eq_dispatchLocal, plan_process hsemantic hown, resolveSingleTarget_local,
          findsItself_iff]
        · simp
        · intro hops
          rw [plan_process hsemantic hown]
          exact RelayFirstPolicy.resolveSingleTarget_single _ _ _ _
    | broadcast =>
        have hdrop : m.plan envelope none = .drop := by
          simp only [plan, RelayFirstPolicy.resolve, hsemantic, RelayFirstPolicy.resolveBroadcast, hown,
            processReceiver_type]
          split
          · rfl
          · rfl
        rw [sendEnvelope_eq_dispatchLocal, hdrop]
        · simp
        · intro hops
          rw [hdrop]
          simp

/-! ### A node -/

/-- The messenger of a node (`LoadIpcRuntime`): routing and sending look at the same links. -/
def node (self : ProcessRef) (policy : RelayFirstPolicy) (directory : ReceiverAddress → ReceiverLocation)
    (registered : String → Bool) (view : MembershipView) (links : LinkTable) : Messenger where
  self
  policy
  directory
  registered
  membership := some view
  links := some links
  remoteSender := some links

/-- A game with a link to the relay, and this view. -/
def gameSeeing (view : MembershipView) : Messenger :=
  node ⟨⟨10, 1⟩, 101⟩ ⟨99⟩ (fun _ => {}) (fun _ => true) view [⟨1, ⟨⟨99, 1⟩, 901⟩, .active⟩]

/-- A game that discovery lists. -/
def listedGame : Messenger :=
  gameSeeing ⟨[⟨⟨⟨99, 1⟩, 901⟩, []⟩, ⟨⟨⟨10, 1⟩, 101⟩, []⟩], by decide⟩

/-- A game that discovery does not list yet. -/
def unlistedGame : Messenger := gameSeeing ⟨[⟨⟨⟨99, 1⟩, 901⟩, []⟩], by decide⟩

/-- An envelope for this game, as the relay hands it on. -/
def envelopeForGame : Envelope where
  header := { sourceProcess := ⟨⟨20, 1⟩, 201⟩, targetReceiver := processReceiver ⟨10, 1⟩ }
  payloadTypeUrl := "type.googleapis.com/google.protobuf.StringValue"
  payloadBytes := []

/-- The game that is listed keeps it. -/
theorem own_message_dispatched_listed :
    listedGame.handleIncomingFrame .data (some envelopeForGame) = listedGame.dispatchLocal envelopeForGame :=
  (own_message_dispatched listedGame envelopeForGame rfl).2.mpr ⟨rfl, rfl⟩

/-- The game that is not listed sends it back to the relay that it came from. -/
theorem own_message_sent_back : envelopeForGame.header.targetReceiver =
      processReceiver unlistedGame.self.processId ∧ envelopeForGame.header.semantic = .direct ∧
    unlistedGame.handleIncomingFrame .data (some envelopeForGame) =
      sendCall (.transport 1 envelopeForGame) := by
  refine ⟨rfl, rfl, ?_⟩
  have hincoming : unlistedGame.handleIncomingFrame .data (some envelopeForGame) =
      unlistedGame.sendEnvelope envelopeForGame none := rfl
  have hplan : unlistedGame.plan (envelopeForGame.resolveTo none) none =
      .singleNextHop ⟨⟨⟨99, 1⟩, 901⟩, false⟩ := by decide
  rw [hincoming, sendEnvelope_single rfl hplan]
  rfl

/-! ## A usable path -/

section Path

variable {self : ProcessRef} {policy : RelayFirstPolicy} {directory : ReceiverAddress → ReceiverLocation}
  {registered : String → Bool} {view : MembershipView} {links : LinkTable} {target : ProcessRef}

/-- The plan of a node for another process. -/
theorem resolveSingleTarget_node (hremote : target ≠ self) :
    policy.resolveSingleTarget ⟨self, envelope, location, some view, some links⟩ target =
      if links.hasHealthyDirectLink target then .singleNextHop ⟨target, true⟩
      else match view.firstRelay policy.relayServiceType self with
        | none => .unreachable
        | some relay => .singleNextHop ⟨relay, false⟩ := by
  unfold RelayFirstPolicy.resolveSingleTarget MembershipView.firstRelay
  dsimp only
  rw [if_neg hremote, Option.any_some]
  split
  · rfl
  · cases (view.findByService policy.relayServiceType).find? fun relay => relay.process ≠ self <;> rfl

/-- What is done with an envelope for another process: it is handed to the transport on a link to the
process, or to the first other relay, or not at all. -/
theorem sendEnvelope_node (hremote : target ≠ self)
    (hplan : (node self policy directory registered view links).plan (envelope.resolveTo location)
      location = policy.resolveSingleTarget
        ⟨self, envelope.resolveTo location, location, some view, some links⟩ target) :
    (node self policy directory registered view links).sendEnvelope envelope location =
      if links.hasHealthyDirectLink target then links.send target (envelope.resolveTo location)
      else match view.firstRelay policy.relayServiceType self with
        | none => .ret (.failure "route plan kind is not implemented yet")
        | some relay => links.send relay (envelope.resolveTo location) := by
  rw [resolveSingleTarget_node hremote] at hplan
  split
  · rename_i hlink
    rw [if_pos hlink] at hplan
    exact sendEnvelope_single rfl hplan
  · rename_i hlink
    rw [if_neg hlink] at hplan
    cases hrelay : view.firstRelay policy.relayServiceType self with
    | none =>
        rw [hrelay] at hplan
        exact sendEnvelope_unreachable hplan
    | some relay =>
        rw [hrelay] at hplan
        exact sendEnvelope_single rfl hplan

/-- The program hands the envelope to the transport, on an active link. -/
def HandsOver (links : LinkTable) (envelope : Envelope) (p : SendCall Result) : Prop :=
  ∃ connectionId process, links.Active connectionId process ∧
    p = sendCall (.transport connectionId envelope)

/-- The sender hands over exactly what it finds a connection for. -/
theorem handsOver_send :
    HandsOver links envelope (links.send target envelope) ↔ links.hasHealthyDirectLink target = true := by
  unfold LinkTable.send
  cases hfind : links.findConnection target with
  | none =>
      rw [LinkTable.findConnection_eq_none.mp hfind]
      constructor
      · rintro ⟨c, process, -, h⟩
        cases h
      · intro h
        cases h
  | some connectionId =>
      have hlink : links.hasHealthyDirectLink target = true := by
        rw [← LinkTable.findConnection_isSome, hfind]
        rfl
      exact ⟨fun _ => hlink, fun _ => ⟨connectionId, target, LinkTable.active_of_findConnection hfind, rfl⟩⟩

/-- There is an active link to the process, or to another relay that is listed. -/
def UsablePath (self : ProcessRef) (policy : RelayFirstPolicy) (view : MembershipView) (links : LinkTable)
    (target : ProcessRef) : Prop :=
  links.hasHealthyDirectLink target = true ∨ ∃ relay ∈ view.findByService policy.relayServiceType,
    relay.process ≠ self ∧ links.hasHealthyDirectLink relay.process = true

/-- The process that a direct envelope is for, as routing sees it: the owner that its receiver has been
resolved to, or the process that discovery lists under the id. -/
def seenAs (view : MembershipView) (target : ProcessRef) : Option ReceiverLocation → ProcessRef
  | none => view.knownAs target.processId
  | some _ => target

/-- **A usable path is used** for a direct envelope for another process, exactly if, where there is one,
there is a link to the process that routing sees or to the relay that the view lists first. -/
theorem usable_path_used (hremote : target.processId ≠ self.processId)
    (hdirect : envelope.header.semantic = .direct)
    (hfor : location = none ∧ envelope.header.targetReceiver = processReceiver target.processId ∨
      ∃ rest version, location = some ⟨.singleProcess, target :: rest, version⟩) :
    (UsablePath self policy view links target → HandsOver links (envelope.resolveTo location)
      ((node self policy directory registered view links).sendEnvelope envelope location)) ↔
    (UsablePath self policy view links target →
      links.hasHealthyDirectLink (seenAs view target location) = true ∨
        ∃ relay, view.firstRelay policy.relayServiceType self = some relay ∧
          links.hasHealthyDirectLink relay = true) := by
  refine imp_congr_right fun _ => ?_
  have hid : (seenAs view target location).processId = target.processId := by
    unfold seenAs
    split
    · exact view.knownAs_processId _
    · rfl
  have hseen : seenAs view target location ≠ self := by
    intro h
    exact hremote (hid ▸ congrArg ProcessRef.processId h)
  -- both ways of resolving lead to the one target that routing sees
  have hplan : (node self policy directory registered view links).plan (envelope.resolveTo location)
      location = policy.resolveSingleTarget
        ⟨self, envelope.resolveTo location, location, some view, some links⟩
          (seenAs view target location) := by
    rcases hfor with ⟨rfl, hreceiver⟩ | ⟨rest, version, rfl⟩
    · rw [Envelope.resolveTo_none, plan_process hdirect hreceiver]
      rfl
    · rw [plan_single (by rw [(envelope.resolveTo_fields _).1, hdirect])]
      rfl
  rw [sendEnvelope_node hseen hplan]
  -- a direct link is used, and otherwise the relay that comes first, linked or not
  split
  · rename_i hlink
    exact iff_of_true (handsOver_send.mpr hlink) (.inl hlink)
  · rename_i hlink
    cases view.firstRelay policy.relayServiceType self with
    | none =>
        refine iff_of_false ?_ ?_
        · rintro ⟨c, process, -, h⟩
          cases h
        · rintro (h | ⟨relay, h, -⟩)
          · exact hlink h
          · cases h
    | some relay =>
        show HandsOver links _ (links.send relay _) ↔ _
        rw [handsOver_send]
        constructor
        · exact fun h => .inr ⟨relay, rfl, h⟩
        · rintro (h | ⟨relay', h, hlinked⟩)
          · exact absurd h hlink
          · cases h
            exact hlinked

/-- Two relays are listed. -/
def twoRelays : MembershipView where
  members := [⟨⟨⟨99, 1⟩, 901⟩, []⟩, ⟨⟨⟨99, 2⟩, 902⟩, []⟩, ⟨⟨⟨10, 1⟩, 101⟩, []⟩]
  distinct := by decide

/-- A gate that sees two relays, with these links. -/
def gateWith (links : LinkTable) : Messenger :=
  node ⟨⟨20, 1⟩, 201⟩ ⟨99⟩ (fun _ => {}) (fun _ => true) twoRelays links

/-- With a link to the relay that is listed first, the envelope for the game goes there. -/
theorem usable_path_used_first : HandsOver [⟨7, ⟨⟨99, 1⟩, 901⟩, .active⟩] envelopeForGame
    ((gateWith [⟨7, ⟨⟨99, 1⟩, 901⟩, .active⟩]).sendEnvelope envelopeForGame none) := by
  have hremote : (⟨⟨10, 1⟩, 101⟩ : ProcessRef).processId ≠ (⟨⟨20, 1⟩, 201⟩ : ProcessRef).processId := by
    decide
  have hlinked : LinkTable.hasHealthyDirectLink [⟨7, ⟨⟨99, 1⟩, 901⟩, .active⟩] ⟨⟨99, 1⟩, 901⟩ = true := rfl
  have hpath : UsablePath ⟨⟨20, 1⟩, 201⟩ ⟨99⟩ twoRelays [⟨7, ⟨⟨99, 1⟩, 901⟩, .active⟩] ⟨⟨10, 1⟩, 101⟩ :=
    .inr ⟨⟨⟨⟨99, 1⟩, 901⟩, []⟩, by decide, by decide, hlinked⟩
  exact (usable_path_used hremote rfl (.inl ⟨rfl, rfl⟩)).mpr
    (fun _ => .inr ⟨⟨⟨99, 1⟩, 901⟩, rfl, hlinked⟩) hpath

/-- With a link to the second relay only, it goes nowhere. -/
theorem usable_path_missed :
    UsablePath ⟨⟨20, 1⟩, 201⟩ ⟨99⟩ twoRelays [⟨7, ⟨⟨99, 2⟩, 902⟩, .active⟩] ⟨⟨10, 1⟩, 101⟩ ∧
    (gateWith [⟨7, ⟨⟨99, 2⟩, 902⟩, .active⟩]).sendEnvelope envelopeForGame none =
      .ret (.failure "no healthy link to next hop") := by
  have hplan : (gateWith [⟨7, ⟨⟨99, 2⟩, 902⟩, .active⟩]).plan (envelopeForGame.resolveTo none) none =
      .singleNextHop ⟨⟨⟨99, 1⟩, 901⟩, false⟩ := by decide
  refine ⟨.inr ⟨⟨⟨⟨99, 2⟩, 902⟩, []⟩, by decide, by decide, rfl⟩, ?_⟩
  rw [sendEnvelope_single rfl hplan]
  rfl

/-! ## A broadcast -/

/-- A broadcast of this process to a service. -/
def broadcastEnvelope (m : Messenger) (serviceType : ServiceType) (scope : BroadcastScope)
    (message : Message) : Envelope where
  header :=
    { sourceProcess := m.self
      semantic := .broadcast
      targetReceiver := ⟨.service, serviceType.toUInt64, 1⟩ }
  broadcastScope := { scope with serviceType := some serviceType }
  payloadTypeUrl := message.payloadTypeUrl
  payloadBytes := message.payloadBytes

/-- The members that a broadcast is for. -/
def audienceOf (self : ProcessRef) (view : MembershipView) (serviceType : ServiceType)
    (scope : BroadcastScope) : List ProcessDescriptor :=
  (view.findByService serviceType).filter fun member =>
    (scope.includeLocal || member.process ≠ self) && matchesLabels member scope.requiredLabels

/-- The envelope that a member gets. -/
def envelopeTo (broadcast : Envelope) (member : ProcessRef) : Envelope :=
  { broadcast with
    header := { broadcast.header with semantic := .direct, resolvedTargetProcess := some member }
    broadcastScope := {} }

/-- What a member of the audience gets: this process a dispatch, another one an envelope on an active
link. -/
def Delivers (self : ProcessRef) (links : LinkTable) (broadcast : Envelope) (member : ProcessDescriptor)
    (a : SendAct) : Prop :=
  if member.process = self then
    a = .dispatch broadcast.header.targetReceiver (envelopeTo broadcast member.process)
  else ∃ connectionId hop, links.Active connectionId hop ∧
    a = .transport connectionId (envelopeTo broadcast member.process)

/-- There is a way to another member: a link to it, or one to the relay that is listed first. -/
def Routable (self : ProcessRef) (policy : RelayFirstPolicy) (view : MembershipView) (links : LinkTable)
    (process : ProcessRef) : Prop :=
  links.hasHealthyDirectLink process = true ∨
    ∃ relay, view.firstRelay policy.relayServiceType self = some relay ∧
      links.hasHealthyDirectLink relay = true

/-- Every send succeeds. -/
def allSucceed (a : SendAct) : a.Reply := .success

variable {serviceType : ServiceType} {scope : BroadcastScope} {message : Message}

/-- The envelope of a hop, and the owner that it gets on the way. -/
theorem forHop_resolveTo {broadcast : Envelope} (hservice : broadcast.header.targetReceiver.type ≠ .process)
    (hop : RouteHop) : (broadcast.forHop hop).resolveTo (some (.single hop.nextHop)) =
      envelopeTo broadcast hop.nextHop := by
  simp [Envelope.forHop, Envelope.resolveTo, ReceiverLocation.single, envelopeTo, hservice]

/-- One hop of a fan-out is one delivery. -/
theorem sendHop_delivers {broadcast : Envelope} {member : ProcessDescriptor} {direct : Bool}
    (hservice : broadcast.header.targetReceiver.type ≠ .process)
    (hregistered : member.process = self → registered broadcast.payloadTypeUrl = true)
    (hroute : member.process ≠ self → Routable self policy view links member.process) :
    ∃ a, Delivers self links broadcast member a ∧
      (node self policy directory registered view links).sendEnvelope
        (broadcast.forHop ⟨member.process, direct⟩) (some (.single member.process)) = sendCall a := by
  have hresolve : (broadcast.forHop ⟨member.process, direct⟩).resolveTo (some (.single member.process)) =
      envelopeTo broadcast member.process := forHop_resolveTo hservice ⟨member.process, direct⟩
  have hplan : (node self policy directory registered view links).plan
      ((broadcast.forHop ⟨member.process, direct⟩).resolveTo (some (.single member.process)))
      (some (.single member.process)) = policy.resolveSingleTarget
        ⟨self, envelopeTo broadcast member.process, some (.single member.process), some view,
          some links⟩ member.process := by
    rw [hresolve]
    exact plan_single rfl member.process [] 1
  -- a hop to this process is dispatched, any other goes over its link or over the relay
  by_cases hself : member.process = self
  · refine ⟨.dispatch broadcast.header.targetReceiver (envelopeTo broadcast member.process), ?_, ?_⟩
    · simp only [Delivers, if_pos hself]
    · have hlocal := hplan.trans (resolveSingleTarget_local.mpr hself)
      rw [sendEnvelope_local hlocal, hresolve, dispatchLocal]
      simp only [node, envelopeTo, hregistered hself]
      rfl
  · simp only [Delivers, if_neg hself]
    rw [← hresolve] at hplan
    rw [sendEnvelope_node hself hplan, hresolve]
    have hsend : ∀ hop, links.hasHealthyDirectLink hop = true →
        ∃ a, (∃ c hop, links.Active c hop ∧ a = .transport c (envelopeTo broadcast member.process)) ∧
          links.send hop (envelopeTo broadcast member.process) = sendCall a := by
      intro hop hlinked
      have hover : HandsOver links (envelopeTo broadcast member.process)
          (links.send hop (envelopeTo broadcast member.process)) := handsOver_send.mpr hlinked
      obtain ⟨c, hop', hactive, hp⟩ := hover
      exact ⟨_, ⟨c, hop', hactive, rfl⟩, hp⟩
    by_cases hlink : links.hasHealthyDirectLink member.process = true
    · rw [if_pos hlink]
      exact hsend _ hlink
    · rw [if_neg hlink]
      obtain ⟨relay, hrelay, hlinked⟩ := (hroute hself).resolve_left hlink
      rw [hrelay]
      exact hsend relay hlinked

/-- A fan-out in which every send succeeds comes to its end, with one delivery for each hop. -/
theorem sendHops_delivers {broadcast : Envelope}
    (hservice : broadcast.header.targetReceiver.type ≠ .process)
    (members : List ProcessDescriptor)
    (hregistered : ∀ member ∈ members, member.process = self →
      registered broadcast.payloadTypeUrl = true)
    (hroute : ∀ member ∈ members, member.process ≠ self →
      Routable self policy view links member.process) :
    ∃ deliveries, List.Forall₂ (Delivers self links broadcast) members deliveries ∧
      ((node self policy directory registered view links).sendHops broadcast (members.map fun member =>
        ⟨member.process, member.process = self⟩)).trace allSucceed = (deliveries, .success) := by
  induction members with
  | nil =>
      refine ⟨[], .nil, ?_⟩
      rw [List.map_nil, sendHops]
      rfl
  | cons member members ih =>
      obtain ⟨deliveries, hdeliver, htrace⟩ :=
        ih (fun other hother => hregistered other (List.mem_cons_of_mem _ hother))
          fun other hother => hroute other (List.mem_cons_of_mem _ hother)
      obtain ⟨a, ha, hsend⟩ := sendHop_delivers hservice (hregistered member List.mem_cons_self)
        (hroute member List.mem_cons_self)
      refine ⟨a :: deliveries, .cons ha hdeliver, ?_⟩
      rw [List.map_cons, sendHops, hsend]
      show (a :: ((sendHops _ _ _).trace allSucceed).1, ((sendHops _ _ _).trace allSucceed).2) = _
      rw [htrace]

/-- The plan of a broadcast to a service has one hop for each member of its audience. -/
theorem resolveBroadcast_service {context : RoutingContext} (hview : context.membership = some view)
    (htype : context.envelope.header.targetReceiver.type = .service)
    (hservice : context.envelope.broadcastScope.serviceType = some serviceType) :
    RelayFirstPolicy.resolveBroadcast context =
      if audienceOf context.self view serviceType context.envelope.broadcastScope = [] then .drop
      else .multiNextHop ((audienceOf context.self view serviceType
        context.envelope.broadcastScope).map fun member => ⟨member.process, member.process = context.self⟩) := by
  have haudience : RelayFirstPolicy.audience context view =
      audienceOf context.self view serviceType context.envelope.broadcastScope := by
    unfold RelayFirstPolicy.audience audienceOf
    dsimp only
    rw [hservice]
    rfl
  unfold RelayFirstPolicy.resolveBroadcast
  rw [hview]
  dsimp only
  rw [haudience, if_neg (not_not.mpr htype)]
  simp only [List.map_eq_nil_iff]

/-- What a node does with a broadcast to a service. -/
theorem broadcastToService_eq (hscope : scope.serviceType = none ∨ scope.serviceType = some serviceType) :
    (node self policy directory registered view links).broadcastToService serviceType scope message =
      if audienceOf self view serviceType scope = [] then
        .ret (.failure "message dropped during route resolution")
      else (node self policy directory registered view links).sendHops
        (broadcastEnvelope (node self policy directory registered view links) serviceType scope message)
        ((audienceOf self view serviceType scope).map fun member =>
          ⟨member.process, member.process = self⟩) := by
  have hservice : scope.serviceType.any (· ≠ serviceType.toUInt64.toUInt32) = false := by
    rcases hscope with h | h <;> simp [h]
  have henvelope : (node self policy directory registered view links).broadcastToService serviceType scope
      message = (node self policy directory registered view links).sendEnvelope (broadcastEnvelope
        (node self policy directory registered view links) serviceType scope message) none := by
    unfold broadcastToService broadcastToReceiver
    rw [if_neg (by simp), hservice, if_neg (by decide)]
    simp [broadcastEnvelope, envelopeFor]
  have hplan : (node self policy directory registered view links).plan ((broadcastEnvelope
      (node self policy directory registered view links) serviceType scope message).resolveTo none) none =
        if audienceOf self view serviceType scope = [] then .drop
        else .multiNextHop ((audienceOf self view serviceType scope).map fun member =>
          ⟨member.process, member.process = self⟩) := by
    rw [Envelope.resolveTo_none, plan, RelayFirstPolicy.resolve]
    exact resolveBroadcast_service rfl rfl rfl
  rw [henvelope]
  split
  · rename_i hempty
    rw [if_pos hempty] at hplan
    exact sendEnvelope_drop hplan
  · rename_i hempty
    rw [if_neg hempty] at hplan
    exact sendEnvelope_multi hplan

/-- **A broadcast reaches exactly its audience** when every send succeeds and there is a way to every
other member: the messenger makes one delivery for each member, and no other. -/
theorem broadcast_reaches_audience
    (hscope : scope.serviceType = none ∨ scope.serviceType = some serviceType)
    (hregistered : ∀ member ∈ audienceOf self view serviceType scope, member.process = self →
      registered message.payloadTypeUrl = true)
    (hroute : ∀ member ∈ audienceOf self view serviceType scope, member.process ≠ self →
      Routable self policy view links member.process) :
    List.Forall₂ (Delivers self links (broadcastEnvelope
        (node self policy directory registered view links) serviceType scope message))
      (audienceOf self view serviceType scope)
      (((node self policy directory registered view links).broadcastToService serviceType scope
        message).trace allSucceed).1 := by
  rw [broadcastToService_eq hscope]
  split
  · rename_i hempty
    rw [hempty]
    exact .nil
  · have hservice : (broadcastEnvelope (node self policy directory registered view links) serviceType scope
        message).header.targetReceiver.type ≠ .process := by
      show ReceiverType.service ≠ ReceiverType.process
      decide
    have hhops : ∃ deliveries, List.Forall₂ (Delivers self links (broadcastEnvelope
          (node self policy directory registered view links) serviceType scope message))
        (audienceOf self view serviceType scope) deliveries ∧
        ((node self policy directory registered view links).sendHops (broadcastEnvelope
          (node self policy directory registered view links) serviceType scope message)
          ((audienceOf self view serviceType scope).map fun member =>
            ⟨member.process, member.process = self⟩)).trace allSucceed = (deliveries, .success) :=
      sendHops_delivers hservice _ hregistered hroute
    obtain ⟨deliveries, hdeliver, htrace⟩ := hhops
    rw [htrace]
    exact hdeliver

/-- Two games, as the first one sees them. -/
def twoGames : MembershipView where
  members := [⟨⟨⟨10, 1⟩, 101⟩, []⟩, ⟨⟨⟨10, 2⟩, 202⟩, []⟩]
  distinct := by decide

def helloGames : Message := ⟨"type.googleapis.com/google.protobuf.StringValue", []⟩

/-- The first game, with these links. -/
def firstGame (links : LinkTable) : Messenger :=
  node ⟨⟨10, 1⟩, 101⟩ ⟨99⟩ (fun _ => {}) (fun _ => true) twoGames links

/-- With a link to the other game, the broadcast of the first game is delivered once to each of them. -/
theorem broadcast_reaches_both : List.Forall₂ (Delivers ⟨⟨10, 1⟩, 101⟩ [⟨5, ⟨⟨10, 2⟩, 202⟩, .active⟩]
      (broadcastEnvelope (firstGame [⟨5, ⟨⟨10, 2⟩, 202⟩, .active⟩]) 10 {} helloGames)) twoGames.members
    (((firstGame [⟨5, ⟨⟨10, 2⟩, 202⟩, .active⟩]).broadcastToService 10 {} helloGames).trace
      allSucceed).1 := by
  have haudience : audienceOf ⟨⟨10, 1⟩, 101⟩ twoGames 10 {} = twoGames.members := by decide
  have hlinked : LinkTable.hasHealthyDirectLink [⟨5, ⟨⟨10, 2⟩, 202⟩, .active⟩] ⟨⟨10, 2⟩, 202⟩ = true := rfl
  rw [← haudience]
  refine broadcast_reaches_audience (.inl rfl) (fun _ _ _ => rfl) ?_
  intro member hmember hother
  rw [haudience] at hmember
  rcases List.mem_pair.mp hmember with rfl | rfl
  · exact absurd rfl hother
  · exact .inl hlinked

/-- Without one, and with no relay, nothing fails to be sent and the other game gets nothing. -/
theorem broadcast_misses :
    audienceOf ⟨⟨10, 1⟩, 101⟩ twoGames 10 ⟨none, [], false⟩ = [⟨⟨⟨10, 2⟩, 202⟩, []⟩] ∧
    ((firstGame []).broadcastToService 10 ⟨none, [], false⟩ helloGames).trace allSucceed =
      ([], .failure "route plan kind is not implemented yet") := by
  have haudience : audienceOf ⟨⟨10, 1⟩, 101⟩ twoGames 10 ⟨none, [], false⟩ =
      [⟨⟨⟨10, 2⟩, 202⟩, []⟩] := by decide
  refine ⟨haudience, ?_⟩
  have hunreachable : (firstGame []).sendEnvelope
      ((broadcastEnvelope (firstGame []) 10 ⟨none, [], false⟩ helloGames).forHop ⟨⟨⟨10, 2⟩, 202⟩, false⟩)
      (some (.single ⟨⟨10, 2⟩, 202⟩)) = .ret (.failure "route plan kind is not implemented yet") :=
    sendEnvelope_unreachable (by decide)
  unfold firstGame
  rw [broadcastToService_eq (.inl rfl), haudience, if_neg (by decide)]
  have hend : ((firstGame []).sendHops (broadcastEnvelope (firstGame []) 10 ⟨none, [], false⟩ helloGames)
      [⟨⟨⟨10, 2⟩, 202⟩, false⟩]).trace allSucceed =
        ([], .failure "route plan kind is not implemented yet") := by
    rw [sendHops, hunreachable]
    rfl
  exact hend

end Path

end Messenger

end SomeServer
