/-
# SomeServer.Ipc.Forwarding — an envelope on its way through the processes

Every process that is handed an envelope decides alone where it goes next. In a network whose views and
links stay as they are, the envelope does not change on the way, and each process always decides the same
(`Leads`): the envelope comes to its end unless the decisions lead into a circle.
-/
import SomeServer.Ipc.Delivery
import SomeServer.Lib.Walks

namespace SomeServer

open Lib

/-! ## Envelopes that travel -/

/-- An envelope that one process has handed to another: it is direct, and names the owner of its receiver
unless that is a process. -/
structure Envelope.Travels (envelope : Envelope) : Prop where
  direct : envelope.header.semantic = .direct
  owned : envelope.header.targetReceiver.type ≠ .process →
    envelope.header.resolvedTargetProcess.isSome = true

/-- Where the owner of an envelope's receiver is looked for, on a process that is handed the envelope. -/
def Envelope.destination (view : MembershipView) (envelope : Envelope) : Option ProcessRef :=
  if envelope.header.targetReceiver.type = .process then
    some (view.knownAs envelope.header.targetReceiver.processRef.processId)
  else envelope.header.resolvedTargetProcess

/-- The process that an envelope for the target is handed to: the target, or the relay that is listed
first, if there is a link. -/
def nextHop (self : ProcessRef) (policy : RelayFirstPolicy) (view : MembershipView) (links : LinkTable)
    (target : ProcessRef) : Option ProcessRef :=
  if links.hasHealthyDirectLink target then some target
  else (view.firstRelay policy.relayServiceType self).filter fun relay => links.hasHealthyDirectLink relay

/-- What leaves a messenger on a link travels. -/
def SendAct.Departs : SendAct → Prop
  | .dispatch _ _ => True
  | .transport _ envelope => envelope.Travels

namespace RelayFirstPolicy

variable {policy : RelayFirstPolicy} {context : RoutingContext} {hop : RouteHop}

theorem resolveBroadcast_ne_single : resolveBroadcast context ≠ .singleNextHop hop := by
  unfold resolveBroadcast
  split
  · simp
  · dsimp only
    split
    · simp
    · split <;> simp

theorem resolveProcess_single (h : policy.resolveProcess context = .singleNextHop hop) :
    context.envelope.header.targetReceiver.type = .process := by
  unfold resolveProcess at h
  dsimp only at h
  split at h
  · assumption
  · cases h

/-- One next hop: the envelope is direct, and for a process receiver or for the process it is located
at. -/
theorem resolve_single (h : policy.resolve context = .singleNextHop hop) :
    context.envelope.header.semantic = .direct ∧
      (context.envelope.header.targetReceiver.type = .process ∨ ∃ process rest version,
        context.receiverLocation = some ⟨.singleProcess, process :: rest, version⟩) := by
  unfold resolve at h
  split at h
  · exact absurd h resolveBroadcast_ne_single
  · rename_i hdirect
    refine ⟨hdirect, ?_⟩
    split at h
    · exact .inl (resolveProcess_single h)
    · rename_i location hlocation
      obtain ⟨kind, processes, version⟩ := location
      dsimp only at h
      split at h
      · cases h
      · exact .inr ⟨_, _, version, hlocation⟩
      · exact .inl (resolveProcess_single h)
      · exact .inl (resolveProcess_single h)
      · cases h
      · cases h

end RelayFirstPolicy

namespace Messenger

variable {m : Messenger} {envelope sent : Envelope} {location : Option ReceiverLocation}
  {connectionId : UInt64}

theorem travels_of_single {hop : RouteHop}
    (h : m.plan (envelope.resolveTo location) location = .singleNextHop hop) :
    (envelope.resolveTo location).Travels := by
  obtain ⟨hdirect, hat⟩ := RelayFirstPolicy.resolve_single h
  refine ⟨hdirect, fun htype => ?_⟩
  obtain ⟨process, rest, version, hlocation⟩ := hat.resolve_left htype
  have hlocation : location = some ⟨.singleProcess, process :: rest, version⟩ := hlocation
  subst hlocation
  have hkept := (envelope.resolveTo_fields (some ⟨.singleProcess, process :: rest, version⟩)).2.1
  rw [hkept] at htype
  rw [Envelope.resolveTo, if_pos htype]
  rfl

theorem dispatchLocal_departs (m : Messenger) (envelope : Envelope) :
    (m.dispatchLocal envelope).All SendAct.Departs := by
  unfold dispatchLocal
  split
  · exact trivial
  · exact ⟨trivial, fun _ => trivial⟩

theorem send_departs (links : LinkTable) (hop : ProcessRef) (h : envelope.Travels) :
    (links.send hop envelope).All SendAct.Departs := by
  unfold LinkTable.send
  split
  · exact trivial
  · exact ⟨h, fun _ => trivial⟩

/-- What is not fanned out leaves the messenger as an envelope that travels. -/
theorem sendEnvelope_departs_single (hsingle : ∀ hops,
    m.plan (envelope.resolveTo location) location ≠ .multiNextHop hops) :
    (m.sendEnvelope envelope location).All SendAct.Departs := by
  cases hplan : m.plan (envelope.resolveTo location) location with
  | localDelivery =>
      rw [sendEnvelope_local hplan]
      exact dispatchLocal_departs _ _
  | singleNextHop hop =>
      cases hsender : m.remoteSender with
      | none =>
          rw [sendEnvelope]
          split <;> simp_all
      | some links =>
          rw [sendEnvelope_single hsender hplan]
          exact send_departs _ _ (travels_of_single hplan)
  | multiNextHop hops => exact absurd hplan (hsingle hops)
  | unreachable =>
      rw [sendEnvelope_unreachable hplan]
      exact trivial
  | drop =>
      rw [sendEnvelope_drop hplan]
      exact trivial

theorem sendHops_departs (m : Messenger) (envelope : Envelope) (hops : List RouteHop) :
    (m.sendHops envelope hops).All SendAct.Departs := by
  induction hops with
  | nil =>
      rw [sendHops]
      exact trivial
  | cons hop hops ih =>
      rw [sendHops]
      refine Prog.All.bind (sendEnvelope_departs_single (m.plan_forHop envelope hop hop.nextHop)) ?_
      intro result
      split
      · exact trivial
      · exact ih

/-- Whatever a messenger sends on a link travels. -/
theorem sendEnvelope_departs (m : Messenger) (envelope : Envelope) (location : Option ReceiverLocation) :
    (m.sendEnvelope envelope location).All SendAct.Departs := by
  by_cases hmulti : ∃ hops, m.plan (envelope.resolveTo location) location = .multiNextHop hops
  · obtain ⟨hops, hplan⟩ := hmulti
    rw [sendEnvelope_multi hplan]
    exact sendHops_departs _ _ _
  · exact sendEnvelope_departs_single fun hops hplan => hmulti ⟨hops, hplan⟩

theorem dispatchLocal_not_transport : ¬ (m.dispatchLocal envelope).Does (.transport connectionId sent) := by
  unfold dispatchLocal
  split
  · exact id
  · exact fun h => SendAct.noConfusion (Prog.does_call.mp h)

theorem does_send {links : LinkTable} {hop : ProcessRef} :
    (links.send hop envelope).Does (.transport connectionId sent) ↔
      links.findConnection hop = some connectionId ∧ sent = envelope := by
  unfold LinkTable.send
  cases links.findConnection hop with
  | none => exact iff_of_false id (by rintro ⟨h, -⟩; cases h)
  | some c =>
      refine Prog.does_call.trans ⟨?_, ?_⟩
      · intro h
        cases h
        exact ⟨rfl, rfl⟩
      · rintro ⟨h, rfl⟩
        cases h
        rfl

/-- A process that is handed an envelope leaves it as it is. -/
theorem resolveTo_incoming (m : Messenger) (h : envelope.Travels) :
    envelope.resolveTo (m.incomingLocation envelope) = envelope := by
  unfold incomingLocation
  split
  · rfl
  · rename_i htype
    obtain ⟨owner, howner⟩ := Option.isSome_iff_exists.mp (h.owned htype)
    rw [howner]
    obtain ⟨header, scope, url, bytes⟩ := envelope
    obtain ⟨source, semantic, receiver, resolved, requestId, flags⟩ := header
    have howner : resolved = some owner := howner
    subst howner
    exact if_pos htype

/-- The plan for an envelope that the process is handed. -/
theorem plan_incoming {view : MembershipView} (hview : m.membership = some view) (h : envelope.Travels) :
    ∃ target, envelope.destination view = some target ∧
      m.plan envelope (m.incomingLocation envelope) = m.policy.resolveSingleTarget
        ⟨m.self, envelope, m.incomingLocation envelope, m.membership, m.links⟩ target := by
  unfold incomingLocation Envelope.destination
  by_cases htype : envelope.header.targetReceiver.type = .process
  · rw [if_pos htype, if_pos htype, hview]
    refine ⟨_, rfl, ?_⟩
    rw [plan_processRef h.direct htype, hview]
    rfl
  · rw [if_neg htype, if_neg htype]
    obtain ⟨owner, howner⟩ := Option.isSome_iff_exists.mp (h.owned htype)
    rw [howner]
    exact ⟨owner, rfl, plan_single h.direct owner [] 1⟩

/-- Carrying out the plan for another process is handing the envelope to the next hop. -/
theorem does_remote (self : ProcessRef) (policy : RelayFirstPolicy) (view : MembershipView)
    (links : LinkTable) (target : ProcessRef) :
    (if links.hasHealthyDirectLink target then links.send target envelope
      else match view.firstRelay policy.relayServiceType self with
        | none => .ret (.failure "route plan kind is not implemented yet")
        | some relay => links.send relay envelope).Does (.transport connectionId sent) ↔
      sent = envelope ∧ ∃ hop, nextHop self policy view links target = some hop ∧
        links.findConnection hop = some connectionId := by
  have hfound : ∀ hop, links.findConnection hop = some connectionId →
      links.hasHealthyDirectLink hop = true := by
    intro hop h
    rw [← LinkTable.findConnection_isSome, h]
    rfl
  by_cases hlink : links.hasHealthyDirectLink target = true
  · have hnext : nextHop self policy view links target = some target := if_pos hlink
    rw [if_pos hlink, does_send, hnext, and_comm]
    simp
  · have hnext : nextHop self policy view links target =
        (view.firstRelay policy.relayServiceType self).filter fun relay =>
          links.hasHealthyDirectLink relay := if_neg hlink
    rw [if_neg hlink, hnext]
    cases view.firstRelay policy.relayServiceType self with
    | none => simp
    | some relay =>
        rw [does_send]
        constructor
        · rintro ⟨hconnection, rfl⟩
          exact ⟨rfl, relay, Option.filter_eq_some_iff.mpr ⟨rfl, hfound relay hconnection⟩, hconnection⟩
        · rintro ⟨rfl, hop, hhop, hconnection⟩
          obtain ⟨hrelay, -⟩ := Option.filter_eq_some_iff.mp hhop
          cases hrelay
          exact ⟨hconnection, rfl⟩

/-- What a node does with an envelope that it is handed: it keeps it, or hands the same envelope to the
next hop. -/
theorem does_handleIncomingFrame (self : ProcessRef) (policy : RelayFirstPolicy)
    (directory : ReceiverAddress → ReceiverLocation) (registered : String → Bool) (view : MembershipView)
    (links : LinkTable) (h : envelope.Travels) :
    ((node self policy directory registered view links).handleIncomingFrame .data (some envelope)).Does
        (.transport connectionId sent) ↔
      sent = envelope ∧ ∃ target hop, envelope.destination view = some target ∧ target ≠ self ∧
        nextHop self policy view links target = some hop ∧ links.findConnection hop = some connectionId := by
  obtain ⟨target, hdestination, hplan⟩ :=
    plan_incoming (show (node self policy directory registered view links).membership = some view from rfl) h
  have hresolved := resolveTo_incoming (node self policy directory registered view links) h
  have hplan : (node self policy directory registered view links).plan
      (envelope.resolveTo ((node self policy directory registered view links).incomingLocation envelope))
      ((node self policy directory registered view links).incomingLocation envelope) =
        policy.resolveSingleTarget ⟨self, envelope.resolveTo
          ((node self policy directory registered view links).incomingLocation envelope),
          (node self policy directory registered view links).incomingLocation envelope, some view,
          some links⟩ target := by
    rw [hresolved]
    exact hplan
  rw [hdestination]
  show ((node self policy directory registered view links).sendEnvelope envelope
    ((node self policy directory registered view links).incomingLocation envelope)).Does _ ↔ _
  by_cases htarget : target = self
  · rw [sendEnvelope_local (hplan.trans (resolveSingleTarget_local.mpr htarget))]
    refine iff_of_false dispatchLocal_not_transport ?_
    rintro ⟨-, target', hop, htarget', hne, -⟩
    cases htarget'
    exact hne htarget
  · rw [sendEnvelope_node htarget hplan, hresolved]
    refine (does_remote self policy view links target).trans ?_
    constructor
    · rintro ⟨hsent, hop, hnext, hconnection⟩
      exact ⟨hsent, target, hop, rfl, htarget, hnext, hconnection⟩
    · rintro ⟨hsent, target', hop, htarget', -, hnext, hconnection⟩
      cases htarget'
      exact ⟨hsent, hop, hnext, hconnection⟩

end Messenger

/-! ## The network -/

/-- Processes whose views and links stay as they are. What a link has as its remote process is the process
that gets what is sent on the link. -/
structure Network where
  processes : List ProcessRef
  policy : ProcessRef → RelayFirstPolicy
  directory : ProcessRef → ReceiverAddress → ReceiverLocation
  registered : ProcessRef → String → Bool
  view : ProcessRef → MembershipView
  links : ProcessRef → LinkTable
  distinct : ∀ p, ((links p).map Link.connectionId).Nodup

/-- What a call of an application sends, on the messenger of its process. -/
inductive Messenger.Sending (m : Messenger) : SendCall Result → Prop
  | toProcess (target : ProcessId) (message : Messenger.Message) :
      m.Sending (m.sendToProcess target message)
  | toReceiver (target : ReceiverAddress) (message : Messenger.Message) :
      m.Sending (m.sendToReceiver target message)
  | broadcastToReceiver (target : ReceiverAddress) (scope : BroadcastScope)
      (message : Messenger.Message) : m.Sending (m.broadcastToReceiver target scope message)
  | broadcastToService (serviceType : ServiceType) (scope : BroadcastScope)
      (message : Messenger.Message) : m.Sending (m.broadcastToService serviceType scope message)

namespace Network

variable {net : Network}

/-- The messenger of a process. -/
def messenger (net : Network) (p : ProcessRef) : Messenger :=
  Messenger.node p (net.policy p) (net.directory p) (net.registered p) (net.view p) (net.links p)

/-- When the program runs on a process, another process of the network may be handed the envelope. -/
def HandsOver (net : Network) (p : ProcessRef) (program : SendCall Result) (q : ProcessRef)
    (envelope : Envelope) : Prop :=
  p ∈ net.processes ∧ q ∈ net.processes ∧ ∃ connectionId, (net.links p).Active connectionId q ∧
    program.Does (.transport connectionId envelope)

/-- A call of an application hands the envelope to its first receiver. -/
def Sends (net : Network) (p q : ProcessRef) (envelope : Envelope) : Prop :=
  ∃ program, (net.messenger p).Sending program ∧ net.HandsOver p program q envelope

/-- A process that has been handed an envelope hands one on. -/
def Forwards (net : Network) (x y : ProcessRef × Envelope) : Prop :=
  net.HandsOver x.1 ((net.messenger x.1).handleIncomingFrame .data (some x.2)) y.1 y.2

/-- The decision of a process for an envelope: it is not the destination, and the next hop is another
process of the network. -/
def Leads (net : Network) (envelope : Envelope) (p q : ProcessRef) : Prop :=
  p ∈ net.processes ∧ q ∈ net.processes ∧ ∃ target, envelope.destination (net.view p) = some target ∧
    target ≠ p ∧ nextHop p (net.policy p) (net.view p) (net.links p) target = some q

/-! ### What is sent, and where it goes -/

/-- What leaves a process travels. -/
theorem sends_travels {p q : ProcessRef} {envelope : Envelope} (h : net.Sends p q envelope) :
    envelope.Travels := by
  obtain ⟨program, hsending, -, -, connectionId, -, hdoes⟩ := h
  suffices hall : program.All SendAct.Departs from hall.of_does hdoes
  cases hsending with
  | toProcess target message => exact Messenger.sendEnvelope_departs _ _ _
  | toReceiver target message => exact Messenger.sendEnvelope_departs _ _ _
  | broadcastToReceiver target scope message =>
      unfold Messenger.broadcastToReceiver
      split
      · exact trivial
      · split
        · exact trivial
        · exact Messenger.sendEnvelope_departs _ _ _
  | broadcastToService serviceType scope message =>
      unfold Messenger.broadcastToService Messenger.broadcastToReceiver
      split
      · exact trivial
      · split
        · exact trivial
        · exact Messenger.sendEnvelope_departs _ _ _

theorem active_unique {p q r : ProcessRef} {connectionId : UInt64}
    (hq : (net.links p).Active connectionId q) (hr : (net.links p).Active connectionId r) : q = r := by
  obtain ⟨link, hlink, -, rfl, hid⟩ := hq
  obtain ⟨link', hlink', -, rfl, hid'⟩ := hr
  rw [List.inj_on_of_nodup_map (net.distinct p) hlink hlink' (hid.trans hid'.symm)]

theorem nextHop_linked {self target hop : ProcessRef} {policy : RelayFirstPolicy} {view : MembershipView}
    {links : LinkTable} (h : nextHop self policy view links target = some hop) :
    links.hasHealthyDirectLink hop = true := by
  unfold nextHop at h
  split at h
  · cases h
    assumption
  · exact (Option.filter_eq_some_iff.mp h).2

/-- A process that is handed an envelope hands on the same envelope, and its tables say to whom. -/
theorem forwards_iff {p q : ProcessRef} {envelope sent : Envelope} (h : envelope.Travels) :
    net.Forwards (p, envelope) (q, sent) ↔ sent = envelope ∧ net.Leads envelope p q := by
  unfold Forwards HandsOver Leads messenger
  simp only [Messenger.does_handleIncomingFrame _ _ _ _ _ _ h]
  constructor
  · rintro ⟨hp, hq, c, hactive, rfl, target, hop, hdestination, hne, hnext, hconnection⟩
    have hhop : q = hop := active_unique hactive (LinkTable.active_of_findConnection hconnection)
    exact ⟨rfl, hp, hq, target, hdestination, hne, hhop ▸ hnext⟩
  · rintro ⟨rfl, hp, hq, target, hdestination, hne, hnext⟩
    obtain ⟨c, hconnection⟩ := Option.isSome_iff_exists.mp
      (LinkTable.findConnection_isSome.mpr (nextHop_linked hnext))
    exact ⟨hp, hq, c, LinkTable.active_of_findConnection hconnection, rfl, target, q, hdestination, hne,
      hnext, hconnection⟩

/-- A trip of an envelope is a walk along the decisions of the processes. -/
theorem trip_iff {q : ProcessRef} {envelope : Envelope} (h : envelope.Travels)
    {trip : List (ProcessRef × Envelope)} :
    List.IsChain net.Forwards ((q, envelope) :: trip) ↔
      trip = (trip.map Prod.fst).map (fun p => (p, envelope)) ∧
        List.IsChain (net.Leads envelope) (q :: trip.map Prod.fst) := by
  induction trip generalizing q with
  | nil => simp
  | cons x trip ih =>
      obtain ⟨r, sent⟩ := x
      simp only [List.map_cons, List.isChain_cons_cons, forwards_iff h]
      constructor
      · rintro ⟨⟨rfl, hleads⟩, hrest⟩
        obtain ⟨htrip, hchain⟩ := ih.mp hrest
        exact ⟨congrArg _ htrip, hleads, hchain⟩
      · rintro ⟨htrip, hleads, hchain⟩
        injection htrip with hhead htrip
        injection hhead with _ hsent
        subst hsent
        exact ⟨⟨rfl, hleads⟩, ih.mpr ⟨htrip, hchain⟩⟩

/-! ### Forwarding terminates -/

/-- **Forwarding ends**: no process receives a sent envelope twice, and it is handed on at most once for
each process, exactly if the decisions for it do not lead from its first receiver into a circle. -/
theorem forwarding_ends {p q : ProcessRef} {envelope : Envelope} (h : net.Sends p q envelope) :
    (∀ trip, List.IsChain net.Forwards ((q, envelope) :: trip) →
      (((q, envelope) :: trip).map Prod.fst).Nodup ∧ trip.length < net.processes.length) ↔
    ¬ Circles (net.Leads envelope) q := by
  have htravels := sends_travels h
  have hq : q ∈ net.processes := by
    obtain ⟨-, -, -, hq, -⟩ := h
    exact hq
  rw [← walks_nodup_iff]
  constructor
  · intro hends walk hwalk
    have hfst : (walk.map fun r => (r, envelope)).map Prod.fst = walk := by simp [Function.comp_def]
    have htrip := (hends (walk.map fun r => (r, envelope)) ((trip_iff htravels).mpr (by
      rw [hfst]
      exact ⟨rfl, hwalk⟩))).1
    rw [List.map_cons, hfst] at htrip
    exact htrip
  · intro hnodup trip htrip
    obtain ⟨-, hwalk⟩ := (trip_iff htravels).mp htrip
    refine ⟨hnodup _ hwalk, ?_⟩
    have hlength := length_le_of_isChain (fun _ _ hleads => hleads.2.1) hq hwalk (hnodup _ hwalk)
    rw [List.length_cons, List.length_map] at hlength
    exact hlength

/-! ### Two relays -/

def firstRelay : ProcessRef := ⟨⟨99, 1⟩, 901⟩

def secondRelay : ProcessRef := ⟨⟨99, 2⟩, 902⟩

def gate : ProcessRef := ⟨⟨20, 1⟩, 201⟩

def game : ProcessRef := ⟨⟨10, 1⟩, 101⟩

/-- All four processes, as each of them sees them. -/
def everyone : MembershipView where
  members := [⟨firstRelay, []⟩, ⟨secondRelay, []⟩, ⟨gate, []⟩, ⟨game, []⟩]
  distinct := by decide

/-- The gate and the second relay have a link to the first relay, which has one to this process. -/
def linksOf (next p : ProcessRef) : LinkTable :=
  if p = firstRelay then [⟨1, next, .active⟩]
  else if p = game then []
  else [⟨1, firstRelay, .active⟩]

/-- The network of the two relays. -/
def twoRelays (next : ProcessRef) : Network where
  processes := [firstRelay, secondRelay, gate, game]
  policy _ := ⟨99⟩
  directory _ _ := {}
  registered _ _ := true
  view _ := everyone
  links := linksOf next
  distinct p := by
    unfold linksOf
    split
    · exact List.nodup_singleton _
    · split
      · exact List.nodup_nil
      · exact List.nodup_singleton _

/-- The message of the gate to the game. -/
def command : Messenger.Message := ⟨"type.googleapis.com/google.protobuf.StringValue", []⟩

/-- The envelope that has it. -/
def commandEnvelope : Envelope where
  header := { sourceProcess := gate, targetReceiver := processReceiver game.processId }
  payloadTypeUrl := command.payloadTypeUrl
  payloadBytes := command.payloadBytes

/-- The gate sends it to the first relay. -/
theorem twoRelays_sends (next : ProcessRef) :
    (twoRelays next).Sends gate firstRelay commandEnvelope := by
  have hplan : ((twoRelays next).messenger gate).plan (commandEnvelope.resolveTo none) none =
      .singleNextHop ⟨firstRelay, false⟩ := rfl
  have hsend : ((twoRelays next).messenger gate).sendEnvelope commandEnvelope none =
      (linksOf next gate).send firstRelay commandEnvelope := Messenger.sendEnvelope_single rfl hplan
  refine ⟨_, .toProcess game.processId command, List.mem_of_elem_eq_true rfl,
    List.mem_of_elem_eq_true rfl, 1, ⟨⟨1, firstRelay, .active⟩, List.mem_singleton.mpr rfl, rfl, rfl,
      rfl⟩, ?_⟩
  show (((twoRelays next).messenger gate).sendEnvelope commandEnvelope none).Does _
  rw [hsend]
  exact Prog.does_call.mpr rfl

/-- The decisions for it. -/
theorem twoRelays_leads {next p q : ProcessRef} :
    (twoRelays next).Leads commandEnvelope p q ↔ p ∈ (twoRelays next).processes ∧
      q ∈ (twoRelays next).processes ∧ p ≠ game ∧
        nextHop p ⟨99⟩ everyone (linksOf next p) game = some q := by
  have hdestination : commandEnvelope.destination everyone = some game := by decide
  unfold Leads
  constructor
  · rintro ⟨hp, hq, target, htarget, hne, hnext⟩
    rw [show (twoRelays next).view p = everyone from rfl, hdestination] at htarget
    cases htarget
    exact ⟨hp, hq, hne.symm, hnext⟩
  · rintro ⟨hp, hq, hne, hnext⟩
    exact ⟨hp, hq, game, hdestination, hne.symm, hnext⟩

/-- When the first relay has a link to the game, the envelope gets there. -/
theorem forwarding_ends_linked : (twoRelays game).Sends gate firstRelay commandEnvelope ∧
    ∀ trip, List.IsChain (twoRelays game).Forwards ((firstRelay, commandEnvelope) :: trip) →
      (((firstRelay, commandEnvelope) :: trip).map Prod.fst).Nodup ∧ trip.length < 4 := by
  refine ⟨twoRelays_sends game, (forwarding_ends (twoRelays_sends game)).mpr ?_⟩
  have hfirst : ∀ q, (twoRelays game).Leads commandEnvelope firstRelay q → q = game := by
    intro q h
    have hnext : nextHop firstRelay ⟨99⟩ everyone (linksOf game firstRelay) game = some game := by decide
    obtain ⟨-, -, -, hq⟩ := twoRelays_leads.mp h
    exact Option.some.inj (hq.symm.trans hnext)
  have hgame : ∀ q, ¬ (twoRelays game).Leads commandEnvelope game q :=
    fun q h => (twoRelays_leads.mp h).2.2.1 rfl
  rintro ⟨r, hreach, hback⟩
  have hr : r = firstRelay ∨ r = game := by
    clear hback
    induction hreach with
    | refl => exact .inl rfl
    | tail _ hleads ih =>
        rcases ih with rfl | rfl
        · exact .inr (hfirst _ hleads)
        · exact absurd hleads (hgame _)
  obtain ⟨q, hleads, hreturn⟩ := Relation.TransGen.head'_iff.mp hback
  rcases hr with rfl | rfl
  · -- from the first relay the envelope goes to the game, and from there nowhere
    rw [hfirst q hleads] at hreturn
    rcases Relation.ReflTransGen.cases_head hreturn with h | ⟨q', hleads', -⟩
    · exact absurd h (by decide)
    · exact hgame q' hleads'
  · exact hgame q hleads

/-- When it has one to the second relay only, the two relays hand the envelope to and fro. -/
theorem forwarding_circles : (twoRelays secondRelay).Sends gate firstRelay commandEnvelope ∧
    ∃ trip, List.IsChain (twoRelays secondRelay).Forwards ((firstRelay, commandEnvelope) :: trip) ∧
      ¬ (((firstRelay, commandEnvelope) :: trip).map Prod.fst).Nodup := by
  have hsent := twoRelays_sends secondRelay
  refine ⟨hsent, [(secondRelay, commandEnvelope), (firstRelay, commandEnvelope)],
    (trip_iff (sends_travels hsent)).mpr ⟨rfl, ?_⟩, by decide⟩
  have hto : (twoRelays secondRelay).Leads commandEnvelope firstRelay secondRelay :=
    twoRelays_leads.mpr (by decide)
  have hfro : (twoRelays secondRelay).Leads commandEnvelope secondRelay firstRelay :=
    twoRelays_leads.mpr (by decide)
  exact .cons_cons hto (.cons_cons hfro (.singleton _))

end Network

end SomeServer
