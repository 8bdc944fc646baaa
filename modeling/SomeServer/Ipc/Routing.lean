/-
# SomeServer.Ipc.Routing — envelopes, and where a process sends them next

A process that has an envelope in its hands decides alone what to do with it: `RelayFirstPolicy` looks at
the envelope, at where its receiver is, at the members that discovery lists and at the links of this
process, and makes a `RoutePlan`. A membership view has at most one entry for a process id; the order in
which a view or a table of links is walked is not specified, so it is the order of the list here.

Endpoints, versions, service names and relay capabilities of a member are not read by any modelled
function and are left out.
-/
import SomeServer.Game.Ipc
import Mathlib.Data.List.Nodup

namespace SomeServer

/-! ## Envelopes -/

abbrev ByteBuffer := List UInt8

abbrev ServiceType := UInt32

/-- `ipc::StringMap`, a list of pairs. -/
abbrev StringMap := List (String × String)

inductive DeliverySemantic where
  | direct
  | broadcast
deriving DecidableEq, Repr

structure BroadcastScope where
  serviceType : Option ServiceType := none
  requiredLabels : StringMap := []
  includeLocal : Bool := true
deriving DecidableEq, Repr

structure EnvelopeHeader where
  sourceProcess : ProcessRef
  semantic : DeliverySemantic := .direct
  targetReceiver : ReceiverAddress
  resolvedTargetProcess : Option ProcessRef := none
  requestId : UInt64 := 0
  flags : UInt32 := 0
deriving DecidableEq, Repr

structure Envelope where
  header : EnvelopeHeader
  broadcastScope : BroadcastScope := {}
  payloadTypeUrl : String
  payloadBytes : ByteBuffer
deriving DecidableEq, Repr

/-! ## What a process knows -/

/-- The part of a `ProcessDescriptor` that routing reads. -/
structure ProcessDescriptor where
  process : ProcessRef
  labels : StringMap := []
deriving DecidableEq, Repr

/-- `IMembershipView`: the members, in the order in which the view is walked. -/
structure MembershipView where
  members : List ProcessDescriptor
  distinct : (members.map fun member => member.process.processId).Nodup

namespace MembershipView

/-- `Find`. -/
def find (view : MembershipView) (id : ProcessId) : Option ProcessDescriptor :=
  view.members.find? fun member => member.process.processId = id

/-- `FindByService`. -/
def findByService (view : MembershipView) (type : ServiceType) : List ProcessDescriptor :=
  view.members.filter fun member => member.process.processId.serviceType = type

end MembershipView

inductive LinkState where
  | idle
  | handshaking
  | active
  | closed
deriving DecidableEq, Repr

structure Link where
  connectionId : UInt64
  remoteProcess : ProcessRef
  state : LinkState
deriving DecidableEq, Repr

/-- The links of `LinkManager`, in the order in which they are walked. -/
abbrev LinkTable := List Link

namespace LinkTable

/-- The test of a link in `HasHealthyDirectLink` and `FindConnection`. -/
def leadsTo (target : ProcessRef) (link : Link) : Bool :=
  link.state = .active && link.remoteProcess = target

/-- `HasHealthyDirectLink`. -/
def hasHealthyDirectLink (links : LinkTable) (target : ProcessRef) : Bool :=
  links.any (leadsTo target)

/-- `FindConnection`. -/
def findConnection (links : LinkTable) (target : ProcessRef) : Option UInt64 :=
  (links.find? (leadsTo target)).map Link.connectionId

variable {links : LinkTable} {target : ProcessRef} {connectionId : UInt64}

/-- There is an active link to the process, over this connection. -/
def Active (links : LinkTable) (connectionId : UInt64) (target : ProcessRef) : Prop :=
  ∃ link ∈ links, link.state = .active ∧ link.remoteProcess = target ∧ link.connectionId = connectionId

theorem leadsTo_iff {link : Link} :
    leadsTo target link = true ↔ link.state = .active ∧ link.remoteProcess = target := by
  simp [leadsTo]

theorem hasHealthyDirectLink_iff :
    links.hasHealthyDirectLink target = true ↔ ∃ connectionId, links.Active connectionId target := by
  simp only [hasHealthyDirectLink, List.any_eq_true, leadsTo_iff, Active]
  constructor
  · rintro ⟨link, hlink, hstate, hremote⟩
    exact ⟨link.connectionId, link, hlink, hstate, hremote, rfl⟩
  · rintro ⟨-, link, hlink, hstate, hremote, -⟩
    exact ⟨link, hlink, hstate, hremote⟩

/-- A healthy link is one over which a connection is found. -/
theorem findConnection_isSome :
    (links.findConnection target).isSome = true ↔ links.hasHealthyDirectLink target = true := by
  simp [findConnection, hasHealthyDirectLink, List.find?_isSome]

theorem active_of_findConnection (h : links.findConnection target = some connectionId) :
    links.Active connectionId target := by
  obtain ⟨link, hfind, rfl⟩ := Option.map_eq_some_iff.mp h
  obtain ⟨hstate, hremote⟩ := leadsTo_iff.mp (List.find?_some hfind)
  exact ⟨link, List.mem_of_find?_eq_some hfind, hstate, hremote, rfl⟩

theorem findConnection_eq_none :
    links.findConnection target = none ↔ links.hasHealthyDirectLink target = false := by
  rw [← Bool.not_eq_true, ← findConnection_isSome, Option.not_isSome_iff_eq_none]

end LinkTable

/-! ## Where a receiver is -/

inductive ReceiverLocationKind where
  | localProcess
  | singleProcess
  | multiProcess
  | unresolved
deriving DecidableEq, Repr

/-- `ipc::ReceiverLocation`; its kind `local` is called `localProcess` here. -/
structure ReceiverLocation where
  kind : ReceiverLocationKind := .unresolved
  processes : List ProcessRef := []
  version : UInt64 := 0
deriving DecidableEq, Repr

/-- A receiver that is at one process. -/
def ReceiverLocation.single (process : ProcessRef) : ReceiverLocation := ⟨.singleProcess, [process], 1⟩

/-- `LocalReceiverDirectory::Resolve`. -/
def LocalReceiverDirectory.resolve (d : LocalReceiverDirectory) (receiver : ReceiverAddress) :
    ReceiverLocation :=
  match d receiver with
  | none => {}
  | some entry => ⟨.singleProcess, [entry.owner], entry.version⟩

/-! ## Plans -/

structure RouteHop where
  nextHop : ProcessRef
  direct : Bool
deriving DecidableEq, Repr

/-- `RoutePlan`: its kind, and the hops that a plan of the kind has. -/
inductive RoutePlan where
  | localDelivery
  | singleNextHop (hop : RouteHop)
  | multiNextHop (hops : List RouteHop)
  | unreachable
  | drop
deriving DecidableEq, Repr

/-- `RoutingContext`; a pointer that may be null is an option. -/
structure RoutingContext where
  self : ProcessRef
  envelope : Envelope
  receiverLocation : Option ReceiverLocation
  membership : Option MembershipView
  links : Option LinkTable

/-- `MatchesLabels`. -/
def matchesLabels (process : ProcessDescriptor) (requiredLabels : StringMap) : Bool :=
  requiredLabels.all fun required => process.labels.any fun label => label = required

/-- The process that a process receiver is for, as far as the key tells: the parts of the key are cut to
the width of an id, and the incarnation is not known. -/
def ReceiverAddress.processRef (receiver : ReceiverAddress) : ProcessRef :=
  ⟨⟨receiver.keyHi.toUInt32, receiver.keyLo.toUInt32⟩, 0⟩

/-- `RelayFirstPolicy`; `relayServiceType` is the service that relays. -/
structure RelayFirstPolicy where
  relayServiceType : ServiceType
deriving DecidableEq, Repr

namespace RelayFirstPolicy

/-- `ResolveSingleTarget`: itself, a direct link, or the first other relay of the view, whether or not
there is a link to it. -/
def resolveSingleTarget (policy : RelayFirstPolicy) (context : RoutingContext) (target : ProcessRef) :
    RoutePlan :=
  if target = context.self then .localDelivery
  else if context.links.any fun links => links.hasHealthyDirectLink target then
    .singleNextHop ⟨target, true⟩
  else match context.membership with
    | none => .unreachable
    | some view =>
        match (view.findByService policy.relayServiceType).find? fun relay =>
            relay.process ≠ context.self with
        | none => .unreachable
        | some relay => .singleNextHop ⟨relay.process, false⟩

/-- The members of the view that a broadcast goes to. -/
def audience (context : RoutingContext) (view : MembershipView) : List ProcessDescriptor :=
  let scope := context.envelope.broadcastScope
  let service := scope.serviceType.getD context.envelope.header.targetReceiver.keyHi.toUInt32
  (view.findByService service).filter fun member =>
    (scope.includeLocal || member.process ≠ context.self) && matchesLabels member scope.requiredLabels

/-- `Resolve` for a broadcast. -/
def resolveBroadcast (context : RoutingContext) : RoutePlan :=
  match context.membership with
  | none => .drop
  | some view =>
      if context.envelope.header.targetReceiver.type ≠ .service then .drop
      else
        let hops := (audience context view).map fun member =>
          RouteHop.mk member.process (member.process = context.self)
        if hops = [] then .drop else .multiNextHop hops

/-- The end of `Resolve`: what is for a process goes to the process that discovery knows under the id. -/
def resolveProcess (policy : RelayFirstPolicy) (context : RoutingContext) : RoutePlan :=
  let receiver := context.envelope.header.targetReceiver
  if receiver.type = .process then
    let found := context.membership.bind fun view => view.find receiver.processRef.processId
    policy.resolveSingleTarget context ((found.map ProcessDescriptor.process).getD receiver.processRef)
  else .drop

/-- `Resolve`. -/
def resolve (policy : RelayFirstPolicy) (context : RoutingContext) : RoutePlan :=
  match context.envelope.header.semantic with
  | .broadcast => resolveBroadcast context
  | .direct =>
      match context.receiverLocation with
      | none => policy.resolveProcess context
      | some location =>
          match location.kind, location.processes with
          | .localProcess, _ => .localDelivery
          | .singleProcess, process :: _ => policy.resolveSingleTarget context process
          | .singleProcess, [] => policy.resolveProcess context
          | .multiProcess, [] => policy.resolveProcess context
          | .multiProcess, processes => .multiNextHop (processes.map fun process =>
              ⟨process, process = context.self⟩)
          | .unresolved, _ => .drop

/-- A single target is never fanned out. -/
theorem resolveSingleTarget_single (policy : RelayFirstPolicy) (context : RoutingContext)
    (target : ProcessRef) (hops : List RouteHop) :
    policy.resolveSingleTarget context target ≠ .multiNextHop hops := by
  unfold resolveSingleTarget
  split
  · simp
  · split
    · simp
    · split
      · simp
      · split <;> simp

end RelayFirstPolicy

end SomeServer
