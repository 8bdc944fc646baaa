/-
# SomeServer.Game.Ipc — player receivers of `GameIpcClientService`

A player that can be served here is bound twice: in the `PlayerReceiverHost` of this process, and in
the `LocalReceiverDirectory`, which maps receiver addresses to owning processes and can also name a
remote owner. `BindLocalPlayer`, `UnbindLocalPlayer` and `BindRemotePlayer` are one section each.

Addresses are compared as the triples they are: `MakeKey` writes them as three decimals separated by
colons. `SendProcessPayload` hands a message to the messenger; what becomes of it is decided outside
the game process, so only its result appears here, and the message itself is kept with the action.
-/
import SomeServer.Storage

namespace SomeServer

/-- `ipc::ConnectionId`, and the numbers of a gate's client connections. -/
abbrev ConnectionId := UInt64

/-- `ipc::ProcessId`. -/
structure ProcessId where
  serviceType : UInt32
  instanceId : UInt32
deriving DecidableEq, Repr

/-- `ipc::ProcessRef`. -/
structure ProcessRef where
  processId : ProcessId
  incarnationId : UInt64
deriving DecidableEq, Repr

/-- `ipc::ReceiverType`, an enumeration over 16 bits: a value that comes from another process may be none
of the named ones. -/
structure ReceiverType where
  code : UInt16
deriving DecidableEq, Repr

namespace ReceiverType

def process : ReceiverType := ⟨1⟩

def player : ReceiverType := ⟨2⟩

def system : ReceiverType := ⟨3⟩

def service : ReceiverType := ⟨4⟩

def group : ReceiverType := ⟨5⟩

end ReceiverType

/-- `ipc::ReceiverAddress`. -/
structure ReceiverAddress where
  type : ReceiverType
  keyHi : UInt64
  keyLo : UInt64
deriving DecidableEq, Repr

/-- `GameIpcClientService::PlayerReceiverAddress`. -/
def playerReceiverAddress (playerId : PlayerId) : ReceiverAddress := ⟨.player, playerId, 0⟩

@[simp] theorem playerReceiverAddress_inj {p q : PlayerId} :
    playerReceiverAddress p = playerReceiverAddress q ↔ p = q := by
  simp [playerReceiverAddress]

/-! ## `LocalReceiverDirectory` -/

structure ReceiverEntry where
  owner : ProcessRef
  version : UInt64
deriving DecidableEq, Repr

abbrev LocalReceiverDirectory := ReceiverAddress → Option ReceiverEntry

namespace LocalReceiverDirectory

/-- `Bind`: a new entry gets version 1, an entry of the same owner stays as it is. -/
def bind (d : LocalReceiverDirectory) (receiver : ReceiverAddress) (owner : ProcessRef) :
    LocalReceiverDirectory × Result :=
  match d receiver with
  | none => (Function.update d receiver (some ⟨owner, 1⟩), .success)
  | some entry =>
      if entry.version ≠ 0 ∧ entry.owner ≠ owner then
        (d, .failure "receiver already bound to another owner")
      else
        (Function.update d receiver
          (some ⟨owner, if entry.version = 0 then 1 else entry.version⟩), .success)

/-- `Invalidate`. -/
def invalidate (d : LocalReceiverDirectory) (receiver : ReceiverAddress) (owner : ProcessRef)
    (version : UInt64) : LocalReceiverDirectory × Result :=
  match d receiver with
  | none => (d, .failure "receiver is not bound")
  | some entry =>
      if entry.owner ≠ owner then (d, .failure "receiver owner mismatch")
      else if entry.version ≠ version then (d, .failure "receiver version mismatch")
      else (Function.update d receiver none, .success)

end LocalReceiverDirectory

/-! ## Messages handed to the messenger -/

inductive ResultCode where
  | ok
  | playerNotFound
  | sessionExpired
  | playerHeldByOtherGame
  | invalidArgument
  | internal
deriving DecidableEq, Repr

/-- The fields of the process messages that the modelled functions set. -/
inductive Payload where
  | loginPlayerResponse (playerId : PlayerId) (code : ResultCode) (errorMessage : String)
  | reconnectPlayerResponse (playerId : PlayerId) (code : ResultCode) (errorMessage : String)
  | forwardPlayerMessageResponse (playerId : PlayerId) (code : ResultCode) (errorMessage : String)
  | unbindPlayerSession (playerId : PlayerId) (gateSessionId : UInt64)
deriving DecidableEq, Repr

/-! ## `GameIpcClientService` -/

/-- `self` is `mSelf`, `boundPlayers` the set of `mPlayerReceiverHost`, `receivers` is
`mReceiverDirectory`, and `members` the processes `mDiscovery.All()` lists. -/
structure GameIpcClientService where
  self : Option ProcessRef := none
  boundPlayers : PlayerId → Bool := fun _ => false
  receivers : LocalReceiverDirectory := fun _ => none
  members : List ProcessRef := []

inductive IpcAct where
  | bindLocalPlayer (playerId : PlayerId)
  | unbindLocalPlayer (playerId : PlayerId)
  | bindRemotePlayer (playerId : PlayerId) (instanceId : UInt32)
  | sendProcessPayload (target : ProcessId) (payload : Payload)

@[reducible] def IpcAct.Reply (_ : IpcAct) : Type := Result

def alreadyBoundLocally : String := "player is already bound locally"

namespace GameIpcClientService

/-- `BindLocalPlayer`: the host first, then the directory; the host is undone when that fails. -/
def bindLocalPlayer (playerId : PlayerId) (s : GameIpcClientService) :
    GameIpcClientService × Result :=
  match s.self with
  | none => (s, .failure "self descriptor is not initialized")
  | some self =>
      if s.boundPlayers playerId then (s, .failure alreadyBoundLocally)
      else
        let bound := s.receivers.bind (playerReceiverAddress playerId) self
        if bound.2.ok then
          ({ s with
              boundPlayers := Function.update s.boundPlayers playerId true
              receivers := bound.1 }, bound.2)
        else ({ s with receivers := bound.1 }, bound.2)

/-- `UnbindLocalPlayer`. -/
def unbindLocalPlayer (playerId : PlayerId) (s : GameIpcClientService) :
    GameIpcClientService × Result :=
  match s.self with
  | none => (s, .failure "self descriptor is not initialized")
  | some self =>
      if !s.boundPlayers playerId then (s, .failure "player is not bound locally")
      else match s.receivers (playerReceiverAddress playerId) with
        | none => (s, .failure "player receiver location is not locally resolvable")
        | some entry =>
            if entry.owner ≠ self then (s, .failure "player receiver owner mismatch")
            else
              let gone := s.receivers.invalidate (playerReceiverAddress playerId) self entry.version
              if !gone.2.ok then ({ s with receivers := gone.1 }, gone.2)
              else
                ({ s with
                    boundPlayers := Function.update s.boundPlayers playerId false
                    receivers := gone.1 }, .success)

/-- `BindRemotePlayer`: the first member of the own service type with that instance id. -/
def bindRemotePlayer (cfg : GameConfiguration) (playerId : PlayerId) (instanceId : UInt32)
    (s : GameIpcClientService) : GameIpcClientService × Result :=
  match s.self with
  | none => (s, .failure "self descriptor is not initialized")
  | some _ =>
      match s.members.find? fun m => m.processId = ⟨cfg.gameServiceType, instanceId⟩ with
      | none => (s, .failure "target player owner not found in discovery snapshot")
      | some owner =>
          let bound := s.receivers.bind (playerReceiverAddress playerId) owner
          ({ s with receivers := bound.1 }, bound.2)

/-- One section of the service. -/
def exec (cfg : GameConfiguration) (env : Env) (s : GameIpcClientService) :
    (a : IpcAct) → Option (GameIpcClientService × a.Reply)
  | .bindLocalPlayer playerId => some (s.bindLocalPlayer playerId)
  | .unbindLocalPlayer playerId => some (s.unbindLocalPlayer playerId)
  | .bindRemotePlayer playerId instanceId => some (s.bindRemotePlayer cfg playerId instanceId)
  | .sendProcessPayload _ _ => some (s, env.sent)

end GameIpcClientService

end SomeServer
