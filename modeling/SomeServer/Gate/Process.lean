/-
# SomeServer.Gate.Process — one gate process: its tables, and every atomic section of them

A gate keeps three tables, each behind its own mutex: the connections with their sockets, the gate
sessions, and the routes of players to games. Next to them are the logins and the player messages that
wait for a game's answer, and the account directory in Redis. `GateAct` lists the sections that the
functions of these services are made of, and `GateProcess.exec` is their meaning.

The replies of Redis, the results of sends and the order in which the session table is walked come from
the environment (`GateEnv`). Timestamps, endpoints, version counters and the snapshots for the console are
not read by any modelled function and are left out.
-/
import SomeServer.Gate.Accounts
import SomeServer.Game.Calls
import SomeServer.Lib.Table

namespace SomeServer

open Lib

abbrev GateSessionId := UInt64

abbrev RequestId := UInt64

def kGateServiceType : UInt32 := 20

def kGameServiceType : UInt32 := 10

/-- The part of the configuration that the modelled services read. -/
structure GateConfiguration where
  instanceId : UInt32
deriving DecidableEq, Repr

namespace GateConfiguration

/-- The process id under which a gate is reached. -/
def processId (cfg : GateConfiguration) : ProcessId := ⟨kGateServiceType, cfg.instanceId⟩

/-- The numbers under which a session of this gate is known to others. -/
def gateSession (cfg : GateConfiguration) (gateSessionId : GateSessionId) : GateSession :=
  ⟨kGateServiceType, cfg.instanceId, gateSessionId⟩

end GateConfiguration

/-! ## Tables -/

inductive GateConnectionState where
  | accepted
  | handshaking
  | anonymous
  | authenticating
  | bound
  | closing
  | closed
deriving DecidableEq, Repr

inductive GateSessionState where
  | anonymous
  | loggingIn
  | active
  | kicked
  | reconnecting
  | closing
deriving DecidableEq, Repr

structure GateSessionRecord where
  state : GateSessionState := .anonymous
  gateSessionId : GateSessionId := 0
  connectionId : ConnectionId := 0
  accountId : String := ""
  playerId : PlayerId := 0
  game : ProcessId := ⟨0, 0⟩
deriving DecidableEq, Repr

structure GatePlayerRoute where
  game : ProcessId
  gateSessionId : GateSessionId
deriving DecidableEq, Repr

structure PendingLogin where
  connectionId : ConnectionId
  gateSessionId : GateSessionId
  accountId : String
deriving DecidableEq, Repr

structure PendingMessage where
  connectionId : ConnectionId
  gateSessionId : GateSessionId
  playerId : PlayerId
deriving DecidableEq, Repr

/-- `sockets` is the key set of `mSocketByConnectionId`. -/
structure GateConnectionService where
  connections : ConnectionId → Option GateConnectionState := fun _ => none
  sockets : ConnectionId → Bool := fun _ => false
  nextConnectionId : ConnectionId := 1

structure GateLoginService where
  pendingLogins : RequestId → Option PendingLogin := fun _ => none
  nextRequestId : RequestId := 1

structure GatePlayerMessageService where
  pendingMessages : RequestId → Option PendingMessage := fun _ => none
  nextRequestId : RequestId := 1

abbrev GateSessions := Table GateSessionId GateSessionRecord

/-- The services of one gate; `T` are its threads. -/
structure GateProcess (T : Type) where
  connection : GateConnectionService := {}
  sessions : GateSessions := .empty
  routes : PlayerId → Option GatePlayerRoute := fun _ => none
  accounts : GateAccountDirectoryService T := {}
  login : GateLoginService := {}
  messages : GatePlayerMessageService := {}

/-! ## Messages -/

/-- The process messages a gate sends; fields with a constant value are left out. -/
inductive GatePayload where
  | loginPlayerRequest (requestId : RequestId) (gate : GateSession) (platform accountId : String)
      (areaId : UInt32)
  | kickAccountSession (requestId : RequestId) (accountId : String) (oldGate : GateSession)
      (newGate : ProcessId) (reason : String)
  | playerDisconnected (playerId : PlayerId) (gate : GateSession)
  | forwardPlayerMessageRequest (requestId : RequestId) (gate : GateSession) (playerId : PlayerId)
      (command : PlayerCommand)
deriving DecidableEq, Repr

inductive ClientErrorCode where
  | ok
  | unauthorized
  | internal
deriving DecidableEq, Repr

/-- What is written to a client. -/
inductive ClientMessage where
  | loginResponse (playerId : PlayerId) (isReconnect : Bool) (errorCode : ClientErrorCode)
      (errorMessage : String)
  | kickNotification (reason : String)
  | playerMessageResponse (errorCode : ClientErrorCode) (errorMessage : String)
deriving DecidableEq, Repr

/-! ## Sections -/

inductive ConnectionAct where
  | acceptReadySocket
  | accept (connectionId : ConnectionId)
  | markAnonymous (connectionId : ConnectionId)
  | markBound (connectionId : ConnectionId)
  | closeEnter (connectionId : ConnectionId)
  | finalize (connectionId : ConnectionId)
  | send (connectionId : ConnectionId) (message : ClientMessage)

@[reducible] def ConnectionAct.Reply : ConnectionAct → Type
  | .acceptReadySocket => Unit
  | .accept _ => Result
  | .markAnonymous _ => Result
  | .markBound _ => Result
  | .closeEnter _ => Result
  | .finalize _ => Unit
  | .send _ _ => Result

inductive GateSessionAct where
  | openAnonymous (gateSessionId : GateSessionId) (connectionId : ConnectionId)
  | activate (gateSessionId : GateSessionId) (accountId : String) (playerId : PlayerId)
      (game : ProcessId)
  | findByConnection (connectionId : ConnectionId)
  | findByAccount (accountId : String)
  | removeByConnection (connectionId : ConnectionId)
  | snapshot (gateSessionId : GateSessionId)

@[reducible] def GateSessionAct.Reply : GateSessionAct → Type
  | .openAnonymous _ _ => Result
  | .activate _ _ _ _ => Result
  | .findByConnection _ => Option GateSessionRecord
  | .findByAccount _ => Option GateSessionRecord
  | .removeByConnection _ => Option GateSessionRecord
  | .snapshot _ => Option GateSessionRecord

inductive RoutingAct where
  | bindPlayer (playerId : PlayerId) (game : ProcessId) (gateSessionId : GateSessionId)
  | unbindPlayer (playerId : PlayerId) (gateSessionId : GateSessionId)

@[reducible] def RoutingAct.Reply (_ : RoutingAct) : Type := Result

/-- The sections of the two services that wait for answers. -/
inductive PendingAct where
  | nextLoginRequest
  | registerLogin (requestId : RequestId) (pending : PendingLogin)
  | takeLogin (requestId : RequestId)
  | nextMessageRequest
  | registerMessage (requestId : RequestId) (pending : PendingMessage)
  | takeMessage (requestId : RequestId)

@[reducible] def PendingAct.Reply : PendingAct → Type
  | .nextLoginRequest => RequestId
  | .registerLogin _ _ => Unit
  | .takeLogin _ => Option PendingLogin
  | .nextMessageRequest => RequestId
  | .registerMessage _ _ => Unit
  | .takeMessage _ => Option PendingMessage

inductive GateAct where
  | connection (a : ConnectionAct)
  | session (a : GateSessionAct)
  | routing (a : RoutingAct)
  | account (a : AccountAct)
  | pending (a : PendingAct)
  | sendProcessPayload (target : ProcessId) (payload : GatePayload)

@[reducible] def GateAct.Reply : GateAct → Type
  | .connection a => a.Reply
  | .session a => a.Reply
  | .routing a => a.Reply
  | .account a => a.Reply
  | .pending a => a.Reply
  | .sendProcessPayload _ _ => Result

/-- What a section gets from outside: the order of a walk over the sessions, a reply of Redis, and the
results of an IPC send and of a write to a client. -/
structure GateEnv where
  order : List GateSessionId := []
  redis : RedisReply String := .nil
  sent : Result := .success
  written : Result := .success
deriving DecidableEq, Repr

/-! ### Connections -/

namespace GateConnectionService

def setState (s : GateConnectionService) (connectionId : ConnectionId) (state : GateConnectionState) :
    GateConnectionService :=
  { s with connections := Function.update s.connections connectionId (some state) }

/-- `AcceptReadySocket`. -/
def acceptReadySocket (s : GateConnectionService) : GateConnectionService where
  connections := Function.update s.connections s.nextConnectionId (some .accepted)
  sockets := Function.update s.sockets s.nextConnectionId true
  nextConnectionId := s.nextConnectionId + 1

/-- `Accept`, the console's way in. -/
def accept (connectionId : ConnectionId) (s : GateConnectionService) :
    GateConnectionService × Result :=
  if (s.connections connectionId).isSome then (s, .failure "connection already exists")
  else (s.setState connectionId .accepted, .success)

/-- `MarkAnonymous` and `MarkBound`: the state is written whatever it was. -/
def mark (state : GateConnectionState) (connectionId : ConnectionId) (s : GateConnectionService) :
    GateConnectionService × Result :=
  if (s.connections connectionId).isSome then (s.setState connectionId state, .success)
  else (s, .failure "connection does not exist")

/-- A connection is marked closed and loses its socket (`CloseSocketLocked`). -/
def closed (connectionId : ConnectionId) (s : GateConnectionService) : GateConnectionService :=
  { s.setState connectionId .closed with sockets := Function.update s.sockets connectionId false }

/-- The first section of `Close`. -/
def closeEnter (connectionId : ConnectionId) (s : GateConnectionService) :
    GateConnectionService × Result :=
  if (s.connections connectionId).isSome then (s.closed connectionId, .success)
  else (s, .failure "connection does not exist")

/-- The section of `FinalizeConnection`. -/
def finalize (connectionId : ConnectionId) (s : GateConnectionService) : GateConnectionService :=
  if (s.connections connectionId).isSome then s.closed connectionId
  else { s with sockets := Function.update s.sockets connectionId false }

/-- `Send`: a connection without a socket cannot be written to. -/
def send (written : Result) (connectionId : ConnectionId) (s : GateConnectionService) : Result :=
  if s.sockets connectionId then written else .failure "connection socket does not exist"

/-- One section of the service. -/
def exec (env : GateEnv) (s : GateConnectionService) :
    (a : ConnectionAct) → GateConnectionService × a.Reply
  | .acceptReadySocket => (s.acceptReadySocket, ())
  | .accept connectionId => s.accept connectionId
  | .markAnonymous connectionId => s.mark .anonymous connectionId
  | .markBound connectionId => s.mark .bound connectionId
  | .closeEnter connectionId => s.closeEnter connectionId
  | .finalize connectionId => (s.finalize connectionId, ())
  | .send connectionId _ => (s, s.send env.written connectionId)

end GateConnectionService

/-! ### Sessions -/

namespace GateSessions

/-- `OpenAnonymous`. -/
def openAnonymous (gateSessionId : GateSessionId) (connectionId : ConnectionId) (s : GateSessions) :
    GateSessions × Result :=
  if (s.get gateSessionId).isSome then (s, .failure "session already exists")
  else (s.set gateSessionId { gateSessionId, connectionId }, .success)

/-- `Activate`. -/
def activate (gateSessionId : GateSessionId) (accountId : String) (playerId : PlayerId)
    (game : ProcessId) (s : GateSessions) : GateSessions × Result :=
  match s.get gateSessionId with
  | none => (s, .failure "session does not exist")
  | some record =>
      (s.set gateSessionId { record with state := .active, gateSessionId, accountId, playerId, game },
        .success)

/-- `FindByConnection`. -/
def findByConnection (order : List GateSessionId) (connectionId : ConnectionId) (s : GateSessions) :
    Option GateSessionRecord :=
  (s.find? order fun record => record.connectionId = connectionId).map Prod.snd

/-- `FindByAccount`. -/
def findByAccount (order : List GateSessionId) (accountId : String) (s : GateSessions) :
    Option GateSessionRecord :=
  (s.find? order fun record => record.accountId = accountId ∧
    (record.state = .active ∨ record.state = .loggingIn)).map Prod.snd

/-- `RemoveByConnection`, with the record it removes. -/
def removeByConnection (order : List GateSessionId) (connectionId : ConnectionId) (s : GateSessions) :
    GateSessions × Option GateSessionRecord :=
  match s.find? order fun record => record.connectionId = connectionId with
  | none => (s, none)
  | some (gateSessionId, record) => (s.erase gateSessionId, some { record with state := .closing })

/-- One section of `GateSessionService`; a walk is possible in any order that has all sessions. -/
def exec (env : GateEnv) (s : GateSessions) : (a : GateSessionAct) → Option (GateSessions × a.Reply)
  | .openAnonymous gateSessionId connectionId => some (s.openAnonymous gateSessionId connectionId)
  | .activate gateSessionId accountId playerId game =>
      some (s.activate gateSessionId accountId playerId game)
  | .findByConnection connectionId =>
      if s.walks env.order then some (s, s.findByConnection env.order connectionId) else none
  | .findByAccount accountId =>
      if s.walks env.order then some (s, s.findByAccount env.order accountId) else none
  | .removeByConnection connectionId =>
      if s.walks env.order then some (s.removeByConnection env.order connectionId) else none
  | .snapshot gateSessionId => some (s, s.get gateSessionId)

end GateSessions

/-! ### The process -/

namespace GateProcess

variable {T : Type}

/-- `BindPlayer` and `UnbindPlayer`. -/
def execRouting (s : GateProcess T) : RoutingAct → GateProcess T × Result
  | .bindPlayer playerId game gateSessionId =>
      ({ s with routes := Function.update s.routes playerId (some ⟨game, gateSessionId⟩) }, .success)
  | .unbindPlayer playerId gateSessionId =>
      match s.routes playerId with
      | none => (s, .failure "player route does not exist")
      | some route =>
          if route.gateSessionId ≠ gateSessionId then
            (s, .failure "player route gate_session_id mismatch")
          else ({ s with routes := Function.update s.routes playerId none }, .success)

def execPending (s : GateProcess T) : (a : PendingAct) → GateProcess T × a.Reply
  | .nextLoginRequest =>
      ({ s with login := { s.login with nextRequestId := s.login.nextRequestId + 1 } },
        s.login.nextRequestId)
  | .registerLogin requestId pending =>
      ({ s with login := { s.login with
          pendingLogins := Function.update s.login.pendingLogins requestId (some pending) } }, ())
  | .takeLogin requestId =>
      ({ s with login := { s.login with
          pendingLogins := Function.update s.login.pendingLogins requestId none } },
        s.login.pendingLogins requestId)
  | .nextMessageRequest =>
      ({ s with messages := { s.messages with nextRequestId := s.messages.nextRequestId + 1 } },
        s.messages.nextRequestId)
  | .registerMessage requestId pending =>
      ({ s with messages := { s.messages with
          pendingMessages := Function.update s.messages.pendingMessages requestId (some pending) } },
        ())
  | .takeMessage requestId =>
      ({ s with messages := { s.messages with
          pendingMessages := Function.update s.messages.pendingMessages requestId none } },
        s.messages.pendingMessages requestId)

/-- One atomic section of a gate. -/
def exec (t : T) (env : GateEnv) (s : GateProcess T) :
    (a : GateAct) → Option (GateProcess T × a.Reply)
  | .connection a =>
      let x := s.connection.exec env a
      some ({ s with connection := x.1 }, x.2)
  | .session a => (GateSessions.exec env s.sessions a).map fun x => ({ s with sessions := x.1 }, x.2)
  | .routing a => some (s.execRouting a)
  | .account a => (s.accounts.exec t env.redis a).map fun x => ({ s with accounts := x.1 }, x.2)
  | .pending a => some (s.execPending a)
  | .sendProcessPayload _ _ => some (s, env.sent)

/-- A gate as a machine: the environment supplies every reply. -/
def machine : Machine T GateAct GateAct.Reply GateEnv (GateProcess T) where
  exec t a env s := s.exec t env a

end GateProcess

end SomeServer
