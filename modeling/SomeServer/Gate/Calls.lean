/-
# SomeServer.Gate.Calls — the functions of the gate services as programs of atomic sections

The handlers of a gate run on three threads: the worker of the connection service (accepted sockets,
client messages, ends of stream), the reader of the IPC transport, and the console. A handler goes from
one service to the next and keeps no lock in between; each is a `GateCall` here, in the order of the
source, with its branches and early returns. `GateOp` lists what the threads run.
-/
import SomeServer.Gate.Process

namespace SomeServer

open Lib

abbrev GateCall (α : Type) : Type := Prog GateAct GateAct.Reply α

/-- One section of the gate. -/
abbrev gateCall (a : GateAct) : GateCall a.Reply := Prog.call a

/-! ## Closing a connection -/

/-- `GateAccountDirectoryService::RemoveAccountIfMatches`. -/
def removeAccountIfMatches (accountId : String) (owner : GateAccountOwner) : GateCall Result := do
  match ← gateCall (.account (.removeGet accountId owner)) with
  | .done result => return result
  | .delete => gateCall (.account (.removeDelete accountId))

/-- `GateLoginService::HandleSessionDisconnected`: a session that never got a player has nothing to take
back, and nothing is taken back either when the game cannot be told. -/
def handleSessionDisconnected (cfg : GateConfiguration) (session : GateSessionRecord) :
    GateCall Result := do
  if session.playerId = 0 ∨ session.game.serviceType = 0 ∨ session.game.instanceId = 0 then
    return .success
  let send ← gateCall (.sendProcessPayload session.game
    (.playerDisconnected session.playerId (cfg.gateSession session.gateSessionId)))
  if !send.ok then return send
  let _ ← gateCall (.routing (.unbindPlayer session.playerId session.gateSessionId))
  let _ ← removeAccountIfMatches session.accountId (cfg.gateSession session.gateSessionId)
  return .success

/-- The disconnect handler of the application. -/
def disconnectHandler (cfg : GateConfiguration) (connectionId : ConnectionId) : GateCall Unit := do
  match ← gateCall (.session (.removeByConnection connectionId)) with
  | none => return ()
  | some removed =>
      let _ ← handleSessionDisconnected cfg removed
      return ()

/-- `GateConnectionService::FinalizeConnection`. -/
def finalizeConnection (cfg : GateConfiguration) (connectionId : ConnectionId) : GateCall Unit := do
  gateCall (.connection (.finalize connectionId))
  disconnectHandler cfg connectionId

/-- `GateConnectionService::Close`. -/
def closeConnection (cfg : GateConfiguration) (connectionId : ConnectionId) : GateCall Result := do
  let enter ← gateCall (.connection (.closeEnter connectionId))
  if !enter.ok then return enter
  finalizeConnection cfg connectionId
  return .success

/-- A client is told that it is kicked, and its connection is closed. -/
def kickConnection (cfg : GateConfiguration) (connectionId : ConnectionId) (reason : String) :
    GateCall Result := do
  let send ← gateCall (.connection (.send connectionId (.kickNotification reason)))
  if !send.ok then return send
  closeConnection cfg connectionId

/-! ## Logging in -/

def sameAccountReason : String := "same account logged in on a new connection"

/-- `KickExistingAccountSession` for a session of this gate. -/
def kickExisting (cfg : GateConfiguration) (existing : Option GateSessionRecord)
    (currentConnectionId : ConnectionId) : GateCall Result :=
  match existing with
  | none => return .success
  | some existing =>
      if existing.connectionId = currentConnectionId then return .success
      else kickConnection cfg existing.connectionId sameAccountReason

/-- `GateLoginService::KickExistingAccountSession`. -/
def kickExistingAccountSession (cfg : GateConfiguration) (accountId : String)
    (currentConnectionId : ConnectionId) : GateCall Result := do
  match ← gateCall (.account (.lookupAccount accountId)) with
  | none =>
      let existing ← gateCall (.session (.findByAccount accountId))
      kickExisting cfg existing currentConnectionId
  | some owner =>
      if owner.instanceId = cfg.instanceId then
        let existing ← gateCall (.session (.snapshot owner.sessionId))
        kickExisting cfg existing currentConnectionId
      else
        let requestId ← gateCall (.pending .nextLoginRequest)
        let send ← gateCall (.sendProcessPayload ⟨owner.serviceType, owner.instanceId⟩
          (.kickAccountSession requestId accountId owner cfg.processId sameAccountReason))
        if !send.ok then return send
        return .success

/-- `GateLoginService::RequestLogin`: the request is sent first and registered then. -/
def requestLogin (cfg : GateConfiguration) (gameInstanceId : UInt32) (connectionId : ConnectionId)
    (gateSessionId : GateSessionId) (platform accountId : String) (areaId : UInt32) :
    GateCall Result := do
  let requestId ← gateCall (.pending .nextLoginRequest)
  let send ← gateCall (.sendProcessPayload ⟨kGameServiceType, gameInstanceId⟩
    (.loginPlayerRequest requestId (cfg.gateSession gateSessionId) platform accountId areaId))
  if !send.ok then return send
  gateCall (.pending (.registerLogin requestId ⟨connectionId, gateSessionId, accountId⟩))
  return .success

/-- `GateAuthService::Validate`: the error, when there is one. -/
def validate (platform accountId credential : String) : Option String :=
  if platform = "" then some "platform is empty"
  else if accountId = "" then some "account_id is empty"
  else if credential = "" then some "credential is empty"
  else none

/-- The session of a connection is opened at its first login. -/
def openSession (gateSessionId : GateSessionId) (connectionId : ConnectionId) : GateCall Result := do
  let session ← gateCall (.session (.snapshot gateSessionId))
  if session.isSome then return .success
  gateCall (.session (.openAnonymous gateSessionId connectionId))

/-- `GateLoginService::HandleClientLogin`; the gate session has the number of the connection. -/
def handleClientLogin (cfg : GateConfiguration) (connectionId : ConnectionId)
    (platform accountId credential : String) : GateCall Result := do
  match validate platform accountId credential with
  | some message =>
      gateCall (.connection (.send connectionId (.loginResponse 0 false .unauthorized message)))
  | none =>
      let kick ← kickExistingAccountSession cfg accountId connectionId
      if !kick.ok then return kick
      let opened ← openSession connectionId connectionId
      if !opened.ok then return opened
      let anonymous ← gateCall (.connection (.markAnonymous connectionId))
      if !anonymous.ok then return anonymous
      requestLogin cfg 1 connectionId connectionId platform accountId 1

/-- `pb::ipc::LoginPlayerResponse`. -/
structure LoginPlayerResponse where
  requestId : RequestId
  playerId : PlayerId
  game : ProcessId
  code : ResultCode
  isReconnect : Bool := false
  errorMessage : String := ""
deriving DecidableEq, Repr

/-- What `HandleLoginResponse` does with a successful response, whatever each step of it answers. -/
def acceptLogin (cfg : GateConfiguration) (pending : PendingLogin) (response : LoginPlayerResponse) :
    GateCall Unit := do
  let _ ← gateCall (.session (.activate pending.gateSessionId pending.accountId response.playerId
    response.game))
  let _ ← gateCall (.routing (.bindPlayer response.playerId response.game pending.gateSessionId))
  let _ ← gateCall (.connection (.markBound pending.connectionId))
  let _ ← gateCall (.account (.bindAccount pending.accountId (cfg.gateSession pending.gateSessionId)))
  return ()

/-- The end of `HandleLoginResponse`: the client gets its answer. -/
def answerClient (pending : PendingLogin) (response : LoginPlayerResponse) : GateCall Result :=
  gateCall (.connection (.send pending.connectionId (.loginResponse response.playerId
    response.isReconnect (if response.code = .ok then .ok else .internal) response.errorMessage)))

/-- `GateLoginService::HandleLoginResponse`. -/
def handleLoginResponse (cfg : GateConfiguration) (response : LoginPlayerResponse) :
    GateCall Result := do
  match ← gateCall (.pending (.takeLogin response.requestId)) with
  | none => return .failure "missing pending login"
  | some pending =>
      if response.code = .ok then
        acceptLogin cfg pending response
        answerClient pending response
      else answerClient pending response

/-! ## Being told to close -/

/-- `GateLoginService::HandleKickAccountSession`. -/
def handleKickAccountSession (cfg : GateConfiguration) (accountId : String)
    (oldGateSessionId : GateSessionId) (reason : String) : GateCall Result := do
  match ← gateCall (.session (.snapshot oldGateSessionId)) with
  | none => return .success
  | some session =>
      if session.accountId ≠ accountId then return .success
      kickConnection cfg session.connectionId (if reason = "" then sameAccountReason else reason)

/-- `GateLoginService::HandleUnbindPlayerSession`. -/
def handleUnbindPlayerSession (cfg : GateConfiguration) (playerId : PlayerId)
    (gateSessionId : GateSessionId) : GateCall Result := do
  match ← gateCall (.session (.snapshot gateSessionId)) with
  | none => return .success
  | some session =>
      if session.playerId ≠ playerId then return .success
      let send ← gateCall (.connection (.send session.connectionId
        (.kickNotification "player session ownership moved")))
      if !send.ok then return send
      let close ← closeConnection cfg session.connectionId
      if !close.ok && close.message ≠ "connection does not exist" then return close
      return .success

/-! ## Player messages -/

/-- `GatePlayerMessageService::HandleClientPlayerMessage`: the request names gate 1, whichever gate this
is. -/
def handleClientPlayerMessage (connectionId : ConnectionId) (command : PlayerCommand) :
    GateCall Result := do
  match ← gateCall (.session (.findByConnection connectionId)) with
  | none => return .failure "gate session is not active"
  | some session =>
      if session.state ≠ .active ∨ session.playerId = 0 then
        return .failure "gate session is not active"
      let requestId ← gateCall (.pending .nextMessageRequest)
      let send ← gateCall (.sendProcessPayload session.game
        (.forwardPlayerMessageRequest requestId ⟨20, 1, session.gateSessionId⟩ session.playerId
          command))
      if !send.ok then return send
      gateCall (.pending (.registerMessage requestId
        ⟨connectionId, session.gateSessionId, session.playerId⟩))
      return .success

/-- `GatePlayerMessageService::HandleForwardPlayerMessageResponse`. -/
def handleForwardPlayerMessageResponse (requestId : RequestId) (code : ResultCode)
    (errorMessage : String) : GateCall Result := do
  match ← gateCall (.pending (.takeMessage requestId)) with
  | none => return .failure "missing pending player message"
  | some pending =>
      gateCall (.connection (.send pending.connectionId
        (.playerMessageResponse (if code = .ok then .ok else .internal) errorMessage)))

/-! ## Operations -/

/-- What the threads of a gate run: the worker (`acceptReadySocket`, `endOfStream`, `clientLogin`,
`clientMessage`), the console (`accept`, `close`), and the reader of the IPC transport. -/
inductive GateOp where
  | acceptReadySocket
  | endOfStream (connectionId : ConnectionId)
  | clientLogin (connectionId : ConnectionId) (platform accountId credential : String)
  | clientMessage (connectionId : ConnectionId) (command : PlayerCommand)
  | accept (connectionId : ConnectionId)
  | close (connectionId : ConnectionId)
  | loginResponse (response : LoginPlayerResponse)
  | kickAccountSession (accountId : String) (oldGateSessionId : GateSessionId) (reason : String)
  | unbindPlayerSession (playerId : PlayerId) (gateSessionId : GateSessionId)
  | messageResponse (requestId : RequestId) (code : ResultCode) (errorMessage : String)
deriving DecidableEq, Repr

/-- The program of an operation. -/
def GateOp.code (cfg : GateConfiguration) : GateOp → GateCall Result
  | .acceptReadySocket => do
      gateCall (.connection .acceptReadySocket)
      return .success
  | .endOfStream connectionId => do
      finalizeConnection cfg connectionId
      return .success
  | .clientLogin connectionId platform accountId credential =>
      handleClientLogin cfg connectionId platform accountId credential
  | .clientMessage connectionId command => handleClientPlayerMessage connectionId command
  | .accept connectionId => gateCall (.connection (.accept connectionId))
  | .close connectionId => closeConnection cfg connectionId
  | .loginResponse response => handleLoginResponse cfg response
  | .kickAccountSession accountId oldGateSessionId reason =>
      handleKickAccountSession cfg accountId oldGateSessionId reason
  | .unbindPlayerSession playerId gateSessionId =>
      handleUnbindPlayerSession cfg playerId gateSessionId
  | .messageResponse requestId code errorMessage =>
      handleForwardPlayerMessageResponse requestId code errorMessage

end SomeServer
