/-
# SomeServer.Gate.Replies — the replies that a gate waits for

A login and a player message are requests to a game: the gate takes a number, sends the request, and then
enters the connection under the number, so that the reply can be passed on to it. The reply is taken on
another thread and may come as soon as the request is sent; and when it is passed on, the connection may
be closed between the look-up of its descriptor and a write to it. `Exchange` says where a thread is with a
request or a reply; the log has the requests that are not yet answered, each with the connection that it
came from, and what has become of the replies.
-/
import SomeServer.Gate.Wires

namespace SomeServer

open Lib

/-! ## Requests and replies -/

/-- The services that wait for replies; each counts its requests. -/
inductive ReplyService where
  | login
  | message
deriving DecidableEq, Repr

/-- A request, with the connection that it came from. -/
structure GateRequest where
  service : ReplyService
  requestId : RequestId
  connectionId : ConnectionId
deriving DecidableEq, Repr

/-- Where a thread is: its request has a connection, has been sent, and is not yet entered; or it has
taken the entry of a reply, and not yet passed the reply on. -/
inductive Exchange where
  | free
  | asking (service : ReplyService) (connectionId : ConnectionId)
  | sent (request : GateRequest)
  | passing (request : GateRequest)
deriving DecidableEq, Repr

namespace GateOp

/-- The connection for which an operation asks a game. -/
def asksFor : GateOp → Option (ReplyService × ConnectionId)
  | .clientLogin connectionId _ _ _ => some (.login, connectionId)
  | .clientMessage connectionId _ => some (.message, connectionId)
  | _ => none

/-- The request that an operation has the reply to. -/
def replyTo : GateOp → Option (ReplyService × RequestId)
  | .loginResponse response => some (.login, response.requestId)
  | .messageResponse requestId _ _ => some (.message, requestId)
  | _ => none

/-- What the client is told of a reply. -/
def replyMessage : GateOp → Option ClientMessage
  | .loginResponse response => some (.loginResponse response.playerId response.isReconnect
      (if response.code = .ok then .ok else .internal) response.errorMessage)
  | .messageResponse _ code errorMessage =>
      some (.playerMessageResponse (if code = .ok then .ok else .internal) errorMessage)
  | _ => none

end GateOp

/-- The connection that is entered under a number. -/
def GateProcess.waiting {T : Type} (s : GateProcess T) : ReplyService → RequestId → Option ConnectionId
  | .login, requestId => (s.login.pendingLogins requestId).map PendingLogin.connectionId
  | .message, requestId => (s.messages.pendingMessages requestId).map PendingMessage.connectionId

namespace Exchange

/-- The point after the send of a request. -/
def sentNext (x : Exchange) (requestId : RequestId) (result : Result) : Exchange :=
  match x with
  | .asking service connectionId =>
      if result.ok then .sent ⟨service, requestId, connectionId⟩ else .free
  | _ => .free

/-- The point after an entry has been taken. -/
def takenNext (service : ReplyService) (requestId : RequestId) : Option ConnectionId → Exchange
  | some connectionId => .passing ⟨service, requestId, connectionId⟩
  | none => .free

/-- The point after a section. -/
def next (x : Exchange) : (a : GateAct) → a.Reply → Exchange
  | .connection (.markAnonymous connectionId), result =>
      if Result.ok result then .asking .login connectionId else .free
  | .session (.findByConnection connectionId), session =>
      match (session : Option GateSessionRecord) with
      | none => .free
      | some session =>
          if session.state ≠ .active ∨ session.playerId = 0 then .free else .asking .message connectionId
  | .sendProcessPayload _ (.loginPlayerRequest requestId _ _ _ _), result => x.sentNext requestId result
  | .sendProcessPayload _ (.forwardPlayerMessageRequest requestId _ _ _), result =>
      x.sentNext requestId result
  | .pending (.registerLogin _ _), _ => .free
  | .pending (.registerMessage _ _), _ => .free
  | .pending (.takeLogin requestId), pending =>
      takenNext .login requestId (Option.map PendingLogin.connectionId pending)
  | .pending (.takeMessage requestId), pending =>
      takenNext .message requestId (Option.map PendingMessage.connectionId pending)
  | .connection (.send _ _), _ => match x with
    | .passing _ => .free
    | x => x
  | _, _ => x

/-- Where a section of an operation comes. A reply is passed on once, to the connection that was entered
under its number. -/
def Fits (o : GateOp) (x : Exchange) : GateAct → Prop
  | .connection (.markAnonymous connectionId) => x = .free ∧ o.asksFor = some (.login, connectionId)
  | .session (.findByConnection connectionId) => x = .free ∧ o.asksFor = some (.message, connectionId)
  | .sendProcessPayload _ (.loginPlayerRequest _ _ _ _ _) =>
      ∃ connectionId, x = .asking .login connectionId ∧ o.asksFor = some (.login, connectionId)
  | .sendProcessPayload _ (.forwardPlayerMessageRequest _ _ _ _) =>
      ∃ connectionId, x = .asking .message connectionId ∧ o.asksFor = some (.message, connectionId)
  | .pending (.registerLogin requestId pending) => x = .sent ⟨.login, requestId, pending.connectionId⟩
  | .pending (.registerMessage requestId pending) =>
      x = .sent ⟨.message, requestId, pending.connectionId⟩
  | .pending (.takeLogin requestId) => x = .free ∧ o.replyTo = some (.login, requestId)
  | .pending (.takeMessage requestId) => x = .free ∧ o.replyTo = some (.message, requestId)
  | .connection (.send connectionId message) =>
      x = .free ∧ o.replyTo = none ∨ ∃ request, x = .passing request ∧
        request.connectionId = connectionId ∧ o.replyTo = some (request.service, request.requestId) ∧
          o.replyMessage = some message
  | _ => True

end Exchange

/-- The protocol of the exchanges. -/
def exchangeProtocol (T : Type) : Protocol T GateOp GateAct GateAct.Reply Exchange where
  fits _ o x a := x.Fits o a
  next _ x a r := x.next a r
  rest _ x := x = .free

/-! ## The programs -/

section Programs

variable {T : Type} {t : T} {o : GateOp} {x : Exchange} {cfg : GateConfiguration} {α : Type}

/-- The program `p` leads from one point to another. -/
abbrev Exchanges (t : T) (o : GateOp) (x : Exchange) (p : GateCall α) (Q : α → Exchange → Prop) : Prop :=
  (exchangeProtocol T).Follows t o Q p x

/-- The sections that are no part of an exchange. -/
def Apart : GateAct → Prop
  | .connection (.markAnonymous _) => False
  | .session (.findByConnection _) => False
  | .sendProcessPayload _ (.loginPlayerRequest _ _ _ _ _) => False
  | .sendProcessPayload _ (.forwardPlayerMessageRequest _ _ _ _) => False
  | .pending .nextLoginRequest => True
  | .pending _ => False
  | _ => True

/-- A program without any part of an exchange, in an operation that has no reply to pass on. -/
theorem exchanges_apart {p : GateCall α} (hp : p.All Apart) (ho : o.replyTo = none) :
    Exchanges t o .free p fun _ y => y = .free := by
  refine Protocol.follows_of_all (hp.mono fun a ha => ?_)
  show Exchange.Fits o .free a ∧ ∀ r, Exchange.next .free a r = .free
  cases a with
  | connection a =>
      cases a with
      | markAnonymous _ => exact ha.elim
      | send _ _ => exact ⟨.inl ⟨rfl, ho⟩, fun _ => rfl⟩
      | _ => exact ⟨trivial, fun _ => rfl⟩
  | session a =>
      cases a with
      | findByConnection _ => exact ha.elim
      | _ => exact ⟨trivial, fun _ => rfl⟩
  | routing a | account a => exact ⟨trivial, fun _ => rfl⟩
  | pending a =>
      cases a with
      | nextLoginRequest => exact ⟨trivial, fun _ => rfl⟩
      | _ => exact ha.elim
  | sendProcessPayload _ payload =>
      cases payload with
      | loginPlayerRequest _ _ _ _ _ | forwardPlayerMessageRequest _ _ _ _ => exact ha.elim
      | kickAccountSession _ _ _ _ _ | playerDisconnected _ _ => exact ⟨trivial, fun _ => rfl⟩

theorem handleSessionDisconnected_apart (session : GateSessionRecord) :
    (handleSessionDisconnected cfg session).All Apart := by
  unfold handleSessionDisconnected
  split
  · trivial
  · refine ⟨trivial, fun send => ?_⟩
    show Prog.All _ (if !send.ok then Prog.ret send else _)
    split
    · trivial
    · have hremove : ∀ accountId owner, (removeAccountIfMatches accountId owner).All Apart := by
        refine fun accountId owner => ⟨trivial, fun decision => ?_⟩
        cases decision with
        | done _ => trivial
        | delete => exact ⟨trivial, fun _ => trivial⟩
      exact ⟨trivial, fun _ => (hremove _ _).bind fun _ => trivial⟩

theorem finalizeConnection_apart (connectionId : ConnectionId) :
    (finalizeConnection cfg connectionId).All Apart := by
  refine ⟨trivial, fun _ => ⟨trivial, fun removed => ?_⟩⟩
  cases removed with
  | none => trivial
  | some session => exact (handleSessionDisconnected_apart session).bind fun _ => trivial

theorem closeConnection_apart (connectionId : ConnectionId) :
    (closeConnection cfg connectionId).All Apart := by
  refine ⟨trivial, fun enter => ?_⟩
  show Prog.All _ (if !enter.ok then Prog.ret enter else _)
  split
  · trivial
  · exact (finalizeConnection_apart connectionId).bind fun _ => trivial

theorem kickConnection_apart (connectionId : ConnectionId) (reason : String) :
    (kickConnection cfg connectionId reason).All Apart := by
  refine ⟨trivial, fun send => ?_⟩
  show Prog.All _ (if !send.ok then Prog.ret send else _)
  split
  · trivial
  · exact closeConnection_apart connectionId

theorem kickExistingAccountSession_apart (accountId : String) (connectionId : ConnectionId) :
    (kickExistingAccountSession cfg accountId connectionId).All Apart := by
  have hkick : ∀ existing, (kickExisting cfg existing connectionId).All Apart := by
    intro existing
    cases existing with
    | none => trivial
    | some session =>
        show Prog.All _ (if session.connectionId = connectionId then Prog.ret _ else _)
        split
        · trivial
        · exact kickConnection_apart _ _
  refine ⟨trivial, fun owner => ?_⟩
  cases owner with
  | none => exact ⟨trivial, hkick⟩
  | some owner =>
      show Prog.All _ (if owner.instanceId = cfg.instanceId then _ else _)
      split
      · exact ⟨trivial, hkick⟩
      · refine ⟨trivial, fun _ => ⟨trivial, fun send => ?_⟩⟩
        show Prog.All _ (if !send.ok then Prog.ret send else Prog.ret _)
        split <;> trivial

theorem openSession_apart (gateSessionId : GateSessionId) (connectionId : ConnectionId) :
    (openSession gateSessionId connectionId).All Apart := by
  refine ⟨trivial, fun session => ?_⟩
  show Prog.All _ (if session.isSome then Prog.ret _ else _)
  split
  · trivial
  · exact ⟨trivial, fun _ => trivial⟩

theorem handleKickAccountSession_apart (accountId : String) (gateSessionId : GateSessionId)
    (reason : String) : (handleKickAccountSession cfg accountId gateSessionId reason).All Apart := by
  refine ⟨trivial, fun session => ?_⟩
  cases session with
  | none => trivial
  | some session =>
      show Prog.All _ (if session.accountId ≠ accountId then Prog.ret _ else _)
      split
      · trivial
      · exact kickConnection_apart _ _

theorem handleUnbindPlayerSession_apart (playerId : PlayerId) (gateSessionId : GateSessionId) :
    (handleUnbindPlayerSession cfg playerId gateSessionId).All Apart := by
  refine ⟨trivial, fun session => ?_⟩
  cases session with
  | none => trivial
  | some session =>
      show Prog.All _ (if session.playerId ≠ playerId then Prog.ret _ else _)
      split
      · trivial
      · refine ⟨trivial, fun send => ?_⟩
        show Prog.All _ (if !send.ok then Prog.ret send else _)
        split
        · trivial
        · refine (closeConnection_apart _).bind fun close => ?_
          show Prog.All _ (if !close.ok && close.message ≠ "connection does not exist" then
            Prog.ret close else Prog.ret _)
          split <;> trivial

/-- What comes behind the check of a result. -/
theorem exchanges_checked {result : Result} {y : Exchange} {rest : GateCall Result}
    (hrest : Exchanges t o y rest fun _ z => z = .free) :
    Exchanges t o (if result.ok then y else .free)
      (if !result.ok then Prog.ret result else rest) fun _ z => z = .free := by
  cases hok : result.ok with
  | true => exact hrest
  | false => exact Protocol.follows_ret rfl

theorem requestLogin_exchanges {gameInstanceId areaId : UInt32} {connectionId : ConnectionId}
    {gateSessionId : GateSessionId} {platform accountId : String}
    (ho : o.asksFor = some (.login, connectionId)) :
    Exchanges t o (.asking .login connectionId)
      (requestLogin cfg gameInstanceId connectionId gateSessionId platform accountId areaId)
      fun _ y => y = .free := by
  unfold requestLogin
  refine Protocol.follows_seq trivial fun requestId => ?_
  refine Protocol.follows_seq ⟨connectionId, rfl, ho⟩ fun send => ?_
  exact exchanges_checked (Protocol.follows_seq rfl fun _ => Protocol.follows_ret rfl)

theorem handleClientLogin_exchanges {connectionId : ConnectionId} {platform accountId credential : String}
    (ho : o.asksFor = some (.login, connectionId)) (hreply : o.replyTo = none) :
    Exchanges t o .free (handleClientLogin cfg connectionId platform accountId credential)
      fun _ y => y = .free := by
  unfold handleClientLogin
  cases validate platform accountId credential with
  | some message => exact ⟨.inl ⟨rfl, hreply⟩, fun _ => rfl⟩
  | none =>
      refine Protocol.Follows.bind
        ((exchanges_apart (kickExistingAccountSession_apart _ _) hreply).mono fun kick y hy => ?_)
      subst hy
      show Exchanges t o .free (if !kick.ok then Prog.ret kick else _) _
      split
      · exact Protocol.follows_ret rfl
      · refine Protocol.Follows.bind
          ((exchanges_apart (openSession_apart _ _) hreply).mono fun opened y hy => ?_)
        subst hy
        show Exchanges t o .free (if !opened.ok then Prog.ret opened else _) _
        split
        · exact Protocol.follows_ret rfl
        · refine Protocol.follows_seq ⟨rfl, ho⟩ fun anonymous => ?_
          exact exchanges_checked (requestLogin_exchanges ho)

/-- A reply is passed on at the end, whatever is done before. -/
theorem handleLoginResponse_exchanges (response : LoginPlayerResponse) :
    Exchanges t (.loginResponse response) .free (handleLoginResponse cfg response)
      fun _ y => y = .free := by
  unfold handleLoginResponse
  refine Protocol.follows_seq ⟨rfl, rfl⟩ fun pending => ?_
  cases pending with
  | none => exact Protocol.follows_ret rfl
  | some pending =>
      have hanswer : Exchanges t (.loginResponse response)
          (.passing ⟨.login, response.requestId, pending.connectionId⟩) (answerClient pending response)
          fun _ y => y = .free := ⟨.inr ⟨_, rfl, rfl, rfl, rfl⟩, fun _ => rfl⟩
      show Exchanges t _ _ (if response.code = .ok then _ else _) _
      split
      · refine Protocol.Follows.bind ?_
        refine Protocol.follows_seq trivial fun _ => ?_
        refine Protocol.follows_seq trivial fun _ => ?_
        refine Protocol.follows_seq trivial fun _ => ?_
        refine Protocol.follows_seq trivial fun _ => ?_
        exact hanswer
      · exact hanswer

theorem handleClientPlayerMessage_exchanges {connectionId : ConnectionId} {command : PlayerCommand}
    (ho : o.asksFor = some (.message, connectionId)) :
    Exchanges t o .free (handleClientPlayerMessage connectionId command) fun _ y => y = .free := by
  unfold handleClientPlayerMessage
  refine Protocol.follows_seq ⟨rfl, ho⟩ fun session => ?_
  cases session with
  | none => exact Protocol.follows_ret rfl
  | some session =>
      show Exchanges t o (if session.state ≠ .active ∨ session.playerId = 0 then .free
          else .asking .message connectionId)
        (if session.state ≠ .active ∨ session.playerId = 0 then Prog.ret _ else _) _
      split
      · exact Protocol.follows_ret rfl
      · refine Protocol.follows_seq trivial fun requestId => ?_
        refine Protocol.follows_seq ⟨connectionId, rfl, ho⟩ fun send => ?_
        exact exchanges_checked (Protocol.follows_seq rfl fun _ => Protocol.follows_ret rfl)

theorem handleForwardPlayerMessageResponse_exchanges (requestId : RequestId) (code : ResultCode)
    (errorMessage : String) :
    Exchanges t (.messageResponse requestId code errorMessage) .free
      (handleForwardPlayerMessageResponse requestId code errorMessage) fun _ y => y = .free := by
  unfold handleForwardPlayerMessageResponse
  refine Protocol.follows_seq ⟨rfl, rfl⟩ fun pending => ?_
  cases pending with
  | none => exact Protocol.follows_ret rfl
  | some pending => exact ⟨.inr ⟨_, rfl, rfl, rfl, rfl⟩, fun _ => rfl⟩

/-- Every operation keeps to the protocol. -/
theorem code_exchanges (cfg : GateConfiguration) (t : T) (o : GateOp) :
    Exchanges t o .free (o.code cfg) fun _ y => y = .free := by
  cases o with
  | acceptReadySocket => exact exchanges_apart ⟨trivial, fun _ => trivial⟩ rfl
  | endOfStream connectionId =>
      exact exchanges_apart ((finalizeConnection_apart connectionId).bind fun _ => trivial) rfl
  | clientLogin connectionId platform accountId credential => exact handleClientLogin_exchanges rfl rfl
  | clientMessage connectionId command => exact handleClientPlayerMessage_exchanges rfl
  | accept connectionId => exact exchanges_apart ⟨trivial, fun _ => trivial⟩ rfl
  | close connectionId => exact exchanges_apart (closeConnection_apart connectionId) rfl
  | loginResponse response => exact handleLoginResponse_exchanges response
  | kickAccountSession accountId gateSessionId reason =>
      exact exchanges_apart (handleKickAccountSession_apart accountId gateSessionId reason) rfl
  | unbindPlayerSession playerId gateSessionId =>
      exact exchanges_apart (handleUnbindPlayerSession_apart playerId gateSessionId) rfl
  | messageResponse requestId code errorMessage =>
      exact handleForwardPlayerMessageResponse_exchanges requestId code errorMessage

end Programs

/-! ## The log -/

/-- The reply that a section takes the entry of. -/
def GateAct.takes : GateAct → Option (ReplyService × RequestId)
  | .pending (.takeLogin requestId) => some (.login, requestId)
  | .pending (.takeMessage requestId) => some (.message, requestId)
  | _ => none

/-- The request that a section sends to a game. -/
def GateAct.requests : GateAct → Option (ReplyService × RequestId)
  | .sendProcessPayload _ (.loginPlayerRequest requestId _ _ _ _) => some (.login, requestId)
  | .sendProcessPayload _ (.forwardPlayerMessageRequest requestId _ _ _) => some (.message, requestId)
  | _ => none

/-- The section of the gate that a section is, when it is no part of `Send`. -/
def WiredAct.gate? : WiredAct → Option GateAct
  | .gate a => some a
  | _ => none

/-- What has become of a reply: its frame has been written to the socket of the connection that was entered, that
connection is closed or has been closed before the last write, or the socket has refused a write. -/
inductive Delivery where
  | passed
  | closed
  | refused
deriving DecidableEq, Repr

/-- What the last `send` call for a frame has done, when this client was behind the descriptor. -/
def Delivery.of (client : Option ConnectionId) (connectionId : ConnectionId) (written : Result) : Delivery :=
  if client = some connectionId then if written.ok then .passed else .refused else .closed

/-- `outstanding` are the requests that have been sent and whose reply has not been taken, with the
connection that each came from. Of the replies that were `received`, those that were `missed` have found
no entry; the others are being passed on or are settled. Those that have `strayed` have been written, in part at
least, to the socket of another client. -/
structure ReplyLog (T : Type) where
  points : T → Exchange := fun _ => .free
  writings : T → Option Writing := fun _ => none
  outstanding : ReplyService → RequestId → Option ConnectionId := fun _ _ => none
  received : List GateRequest := []
  missed : List GateRequest := []
  passing : List (T × GateRequest) := []
  settled : List (GateRequest × Delivery) := []
  strayed : List GateRequest := []

namespace ReplyLog

variable {T : Type} [DecidableEq T]

/-- One number is or is not outstanding any more. -/
def setOutstanding (log : ReplyLog T) (service : ReplyService) (requestId : RequestId)
    (connectionId : Option ConnectionId) : ReplyLog T :=
  { log with
    outstanding := Function.update log.outstanding service
      (Function.update (log.outstanding service) requestId connectionId) }

/-- A request has been sent. -/
def sends (log : ReplyLog T) (t : T) (requestId : RequestId) (result : Result) : ReplyLog T :=
  match log.points t with
  | .asking service connectionId =>
      if result.ok then log.setOutstanding service requestId (some connectionId) else log
  | _ => log

/-- The entry for a reply has been looked for. -/
def takes (log : ReplyLog T) (t : T) (service : ReplyService) (requestId : RequestId)
    (found : Option ConnectionId) : ReplyLog T :=
  match log.outstanding service requestId with
  | none => log
  | some connectionId =>
      let log := { log.setOutstanding service requestId none with
        received := ⟨service, requestId, connectionId⟩ :: log.received }
      match found with
      | none => { log with missed := ⟨service, requestId, connectionId⟩ :: log.missed }
      | some entered => { log with passing := (t, ⟨service, requestId, entered⟩) :: log.passing }

/-- A reply is settled. -/
def settles (log : ReplyLog T) (t : T) (delivery : Delivery) : ReplyLog T :=
  match log.points t with
  | .passing request =>
      { log with
        passing := log.passing.erase (t, request)
        settled := (request, delivery) :: log.settled }
  | _ => log

/-- A `send` call for a reply has been made, on a descriptor behind which there was this client. -/
def strays (log : ReplyLog T) (t : T) (client : Option ConnectionId) (written : Result) : ReplyLog T :=
  match log.points t with
  | .passing request =>
      if written.ok ∧ client ≠ none ∧ client ≠ some request.connectionId then
        { log with strayed := request :: log.strayed }
      else log
  | _ => log

/-- The thread is at another point. -/
def moves (log : ReplyLog T) (t : T) (x : Exchange) (w : Option Writing) : ReplyLog T :=
  { log with points := Function.update log.points t x, writings := Function.update log.writings t w }

/-- What a section of the gate adds. -/
def addsGate (log : ReplyLog T) (t : T) : (a : GateAct) → a.Reply → ReplyLog T
  | .sendProcessPayload _ (.loginPlayerRequest requestId _ _ _ _), result => log.sends t requestId result
  | .sendProcessPayload _ (.forwardPlayerMessageRequest requestId _ _ _), result =>
      log.sends t requestId result
  | .pending (.takeLogin requestId), pending =>
      log.takes t .login requestId (Option.map PendingLogin.connectionId pending)
  | .pending (.takeMessage requestId), pending =>
      log.takes t .message requestId (Option.map PendingMessage.connectionId pending)
  | _, _ => log

/-- What a section adds. A reply is settled by a look-up that finds no socket, by a `send` call that fails, and by the
last one. -/
def adds (log : ReplyLog T) (t : T) (s : WiredGate T) : (a : WiredAct) → a.Reply → ReplyLog T
  | .gate a, r => log.addsGate t a r
  | .lookUp _ _, none => log.settles t .closed
  | .lookUp _ _, some _ => log
  | .write connectionId fd _, written =>
      match log.writings t, written.ok with
      | some ⟨_, _, _ + 1⟩, true => log.strays t (s.wires.clients fd) written
      | _, _ => (log.strays t (s.wires.clients fd) written).settles t
          (.of (s.wires.clients fd) connectionId written)

/-- Where a thread is. -/
def point (log : ReplyLog T) (t : T) : Exchange × Option Writing := (log.points t, log.writings t)

/-- What is written down about a section. -/
def record (t : T) (a : WiredAct) (s : WiredGate T) (r : a.Reply) (log : ReplyLog T) : ReplyLog T :=
  (log.adds t s a r).moves t ((wiredProtocol (exchangeProtocol T)).next t (log.point t) a r).1
    ((wiredProtocol (exchangeProtocol T)).next t (log.point t) a r).2

end ReplyLog

/-- Every request that has been sent and not been answered is entered, or the thread that has sent it is
about to enter it; every reply has found its entry; and every one of them is being passed on or is settled. -/
structure Answerable {T : Type} (x : GateProcess T × ReplyLog T) : Prop where
  entered : ∀ service requestId connectionId,
    x.2.outstanding service requestId = some connectionId →
      x.1.waiting service requestId = some connectionId ∨
        ∃ t, x.2.points t = .sent ⟨service, requestId, connectionId⟩
  known : ∀ t request, x.2.points t = .sent request →
    x.2.outstanding request.service request.requestId = some request.connectionId
  found : x.2.missed = []
  nodup : x.2.passing.Nodup
  passing : ∀ t request, (t, request) ∈ x.2.passing ↔ x.2.points t = .passing request
  accounted : x.2.received.Perm (x.2.settled.map Prod.fst ++ x.2.passing.map Prod.snd)

/-- A reply is written by the descriptor of its connection, or by one behind which there is no client any more; and none
has strayed. -/
structure Aimed {T : Type} (x : WiredGate T × ReplyLog T) : Prop where
  writings : ∀ t request w, x.2.points t = .passing request → x.2.writings t = some w →
    x.1.wires.clients w.fd = some w.connectionId ∨ x.1.wires.clients w.fd = none
  strayed : x.2.strayed = []

namespace ReplyLog

variable {T : Type} [DecidableEq T] {log : ReplyLog T} {t u : T} {x : Exchange} {w : Option Writing}
  {service : ReplyService} {requestId : RequestId} {connectionId : Option ConnectionId}

theorem moves_self : (log.moves t x w).points t = x := Function.update_self _ _ _

theorem moves_of_ne (hu : u ≠ t) : (log.moves t x w).points u = log.points u :=
  Function.update_of_ne hu _ _

/-- The same threads are at a point, when the one that moves is at it before and after, or neither. -/
theorem moves_iff {y : Exchange} (h : x = y ↔ log.points t = y) :
    (log.moves t x w).points u = y ↔ log.points u = y := by
  by_cases hu : u = t
  · subst hu
    rwa [moves_self]
  · rw [moves_of_ne hu]

/-- Who is at a point that the moving thread does not leave stays there. -/
theorem moves_kept {y : Exchange} (h : log.points t ≠ y) (hu : log.points u = y) :
    (log.moves t x w).points u = y := by
  have hut : u ≠ t := by
    rintro rfl
    exact h hu
  exact (moves_of_ne hut).trans hu

/-- Who is at a point that the moving thread does not come to was there before. -/
theorem moves_before {y : Exchange} (h : x ≠ y) (hu : (log.moves t x w).points u = y) :
    log.points u = y := by
  have hut : u ≠ t := by
    rintro rfl
    exact h (moves_self.symm.trans hu)
  exact (moves_of_ne hut).symm.trans hu

omit [DecidableEq T] in
theorem setOutstanding_self :
    (log.setOutstanding service requestId connectionId).outstanding service requestId =
      connectionId := by
  simp [setOutstanding]

omit [DecidableEq T] in
theorem setOutstanding_of_ne {service' : ReplyService} {requestId' : RequestId}
    (hne : ¬ (service' = service ∧ requestId' = requestId)) :
    (log.setOutstanding service requestId connectionId).outstanding service' requestId' =
      log.outstanding service' requestId' := by
  simp only [setOutstanding]
  by_cases hservice : service' = service
  · subst hservice
    rw [Function.update_self, Function.update_of_ne fun heq => hne ⟨rfl, heq⟩]
  · rw [Function.update_of_ne hservice]

end ReplyLog

namespace Answerable

variable {T : Type} [DecidableEq T] {s s' : GateProcess T} {log : ReplyLog T} {t : T} {y : Exchange}
  {w : Option Writing} {service : ReplyService} {requestId : RequestId} {connectionId : ConnectionId}

/-- A section outside the exchange, or one that leads to it. -/
theorem moves (h : Answerable (s, log)) (hwaiting : s'.waiting = s.waiting)
    (hsent : ∀ request, y = .sent request ↔ log.points t = .sent request)
    (hpassing : ∀ request, y = .passing request ↔ log.points t = .passing request) :
    Answerable (s', log.moves t y w) := by
  constructor
  · intro service requestId connectionId hout
    rw [hwaiting]
    refine (h.entered service requestId connectionId hout).imp_right ?_
    rintro ⟨u, hu⟩
    exact ⟨u, (ReplyLog.moves_iff (hsent _)).mpr hu⟩
  · intro u request hu
    exact h.known u request ((ReplyLog.moves_iff (hsent _)).mp hu)
  · exact h.found
  · exact h.nodup
  · intro u request
    exact (h.passing u request).trans (ReplyLog.moves_iff (hpassing request)).symm
  · exact h.accounted

/-- A request is sent under a number that is not outstanding. -/
theorem sends (h : Answerable (s, log)) (hwaiting : s'.waiting = s.waiting)
    (hpoint : log.points t = .asking service connectionId)
    (hfree : log.outstanding service requestId = none) :
    Answerable (s', (log.setOutstanding service requestId (some connectionId)).moves t
      (.sent ⟨service, requestId, connectionId⟩) w) := by
  constructor
  · intro service' requestId' connectionId' hout
    rw [hwaiting]
    -- the new number is entered by its thread, the others are as they were
    by_cases hsame : service' = service ∧ requestId' = requestId
    · obtain ⟨rfl, rfl⟩ := hsame
      have hout := ReplyLog.setOutstanding_self.symm.trans hout
      cases hout
      exact .inr ⟨t, ReplyLog.moves_self⟩
    · have hout := (ReplyLog.setOutstanding_of_ne hsame).symm.trans hout
      refine (h.entered service' requestId' connectionId' hout).imp_right ?_
      rintro ⟨u, hu⟩
      exact ⟨u, ReplyLog.moves_kept (fun heq => nomatch hpoint.symm.trans heq) hu⟩
  · intro u request hu
    by_cases hut : u = t
    · subst hut
      have hu := ReplyLog.moves_self.symm.trans hu
      cases hu
      exact ReplyLog.setOutstanding_self
    · have hknown := h.known u request ((ReplyLog.moves_of_ne (w := w) hut).symm.trans hu)
      refine (ReplyLog.setOutstanding_of_ne ?_).trans hknown
      rintro ⟨rfl, rfl⟩
      rw [hfree] at hknown
      cases hknown
  · exact h.found
  · exact h.nodup
  · intro u request
    refine (h.passing u request).trans (ReplyLog.moves_iff (w := w) ?_).symm
    exact iff_of_false (by simp) fun heq => nomatch hpoint.symm.trans heq
  · exact h.accounted

/-- The thread that has sent a request enters it. -/
theorem registers (h : Answerable (s, log)) {request : GateRequest}
    (hwaiting : ∀ service requestId, s'.waiting service requestId =
      if service = request.service ∧ requestId = request.requestId then some request.connectionId
      else s.waiting service requestId)
    (hpoint : log.points t = .sent request) : Answerable (s', log.moves t .free w) := by
  constructor
  · intro service requestId connectionId hout
    rw [hwaiting]
    split
    · rename_i hsame
      obtain ⟨rfl, rfl⟩ := hsame
      exact .inl ((h.known t request hpoint).symm.trans hout)
    · rename_i hother
      refine (h.entered service requestId connectionId hout).imp_right ?_
      rintro ⟨u, hu⟩
      refine ⟨u, ReplyLog.moves_kept (fun heq => hother ?_) hu⟩
      cases hpoint.symm.trans heq
      exact ⟨rfl, rfl⟩
  · exact fun u request' hu => h.known u request' (ReplyLog.moves_before (w := w) (by simp) hu)
  · exact h.found
  · exact h.nodup
  · intro u request'
    refine (h.passing u request').trans (ReplyLog.moves_iff ?_).symm
    exact iff_of_false (by simp) fun heq => nomatch hpoint.symm.trans heq
  · exact h.accounted

/-- The reply to an outstanding request that no thread is about to enter finds its entry. -/
theorem takes (h : Answerable (s, log)) {found : Option ConnectionId}
    (hfound : found = s.waiting service requestId)
    (hwaiting : ∀ service' requestId', ¬ (service' = service ∧ requestId' = requestId) →
      s'.waiting service' requestId' = s.waiting service' requestId')
    (hpoint : log.points t = .free)
    (hout : (log.outstanding service requestId).isSome = true)
    (hentered : ∀ u request, log.points u = .sent request →
      ¬ (request.service = service ∧ request.requestId = requestId)) :
    Answerable (s', (log.takes t service requestId found).moves t
      (Exchange.takenNext service requestId found) w) := by
  obtain ⟨connectionId, hconnection⟩ := Option.isSome_iff_exists.mp hout
  -- nobody is about to enter it, so it is entered
  have hentry : found = some connectionId := by
    rw [hfound]
    rcases h.entered service requestId connectionId hconnection with hentry | ⟨u, hu⟩
    · exact hentry
    · exact absurd ⟨rfl, rfl⟩ (hentered u _ hu)
  obtain ⟨request, hrequest⟩ : ∃ request, request = GateRequest.mk service requestId connectionId :=
    ⟨_, rfl⟩
  have htakes : log.takes t service requestId found =
      { log.setOutstanding service requestId none with
        received := request :: log.received
        passing := (t, request) :: log.passing } := by
    simp only [ReplyLog.takes, hconnection, hentry, hrequest]
    rfl
  have hnext : Exchange.takenNext service requestId found = .passing request := by
    rw [hentry, hrequest]
    rfl
  rw [htakes, hnext]
  -- the thread was free, so it is not passing a reply on yet
  have hnobody : ∀ request', (t, request') ∉ log.passing := by
    intro request' hmem
    have hpassing := (h.passing t request').mp hmem
    rw [hpoint] at hpassing
    cases hpassing
  constructor
  · intro service' requestId' connectionId' hout
    by_cases hsame : service' = service ∧ requestId' = requestId
    · obtain ⟨rfl, rfl⟩ := hsame
      have hnone : (log.setOutstanding service' requestId' none).outstanding service' requestId' = none :=
        ReplyLog.setOutstanding_self
      cases hnone.symm.trans hout
    · have hsame' : (log.setOutstanding service requestId none).outstanding service' requestId' =
          log.outstanding service' requestId' := ReplyLog.setOutstanding_of_ne hsame
      have hout := hsame'.symm.trans hout
      rw [hwaiting _ _ hsame]
      refine (h.entered service' requestId' connectionId' hout).imp_right ?_
      rintro ⟨u, hu⟩
      exact ⟨u, ReplyLog.moves_kept (fun heq => nomatch hpoint.symm.trans heq) hu⟩
  · intro u request' hu
    have hbefore : log.points u = .sent request' := ReplyLog.moves_before (w := w) (by simp) hu
    exact (ReplyLog.setOutstanding_of_ne (hentered u request' hbefore)).trans (h.known u request' hbefore)
  · exact h.found
  · exact List.nodup_cons.mpr ⟨hnobody request, h.nodup⟩
  · intro u request'
    show (u, request') ∈ (t, request) :: log.passing ↔ (ReplyLog.moves _ _ _ _).points u = _
    rw [List.mem_cons]
    by_cases hut : u = t
    · subst hut
      rw [ReplyLog.moves_self]
      simp [hnobody, eq_comm]
    · rw [ReplyLog.moves_of_ne hut]
      refine Iff.trans ?_ (h.passing u request')
      simp [hut]
  · exact (h.accounted.cons request).trans List.perm_middle.symm

/-- A reply is settled. -/
theorem settles (h : Answerable (s, log)) {request : GateRequest} (hpoint : log.points t = .passing request)
    (delivery : Delivery) : Answerable (s, (log.settles t delivery).moves t .free w) := by
  have hmem : (t, request) ∈ log.passing := (h.passing t request).mpr hpoint
  have hsettles : log.settles t delivery =
      { log with
        passing := log.passing.erase (t, request)
        settled := (request, delivery) :: log.settled } := by
    simp only [ReplyLog.settles, hpoint]
  rw [hsettles]
  constructor
  · intro service requestId connectionId hout
    refine (h.entered service requestId connectionId hout).imp_right ?_
    rintro ⟨u, hu⟩
    exact ⟨u, ReplyLog.moves_kept (fun heq => nomatch hpoint.symm.trans heq) hu⟩
  · exact fun u request' hu => h.known u request' (ReplyLog.moves_before (w := w) (by simp) hu)
  · exact h.found
  · exact h.nodup.erase _
  · intro u request'
    show (u, request') ∈ log.passing.erase (t, request) ↔ (ReplyLog.moves _ _ _ _).points u = _
    rw [h.nodup.mem_erase_iff]
    by_cases hut : u = t
    · subst hut
      rw [ReplyLog.moves_self]
      have hsame : (u, request') ∈ log.passing → request' = request := by
        intro hmem'
        have hpoint' := (h.passing u request').mp hmem'
        rw [hpoint] at hpoint'
        exact (Exchange.passing.inj hpoint').symm
      simp only [ne_eq, Prod.mk.injEq, true_and, reduceCtorEq, iff_false, not_and]
      exact fun hne hmem' => hne (hsame hmem')
    · rw [ReplyLog.moves_of_ne hut]
      refine Iff.trans ?_ (h.passing u request')
      simp [hut]
  · have hold := h.accounted.trans
      ((List.perm_cons_erase hmem).map Prod.snd |>.append_left (log.settled.map Prod.fst))
    exact hold.trans List.perm_middle

/-- A section that leaves its thread where it is. -/
theorem stays (h : Answerable (s, log)) (hwaiting : s'.waiting = s.waiting) :
    Answerable (s', log.moves t (log.points t) w) :=
  h.moves hwaiting (fun _ => Iff.rfl) fun _ => Iff.rfl

/-- A section that leads from one point without an entry to another. -/
theorem leads (h : Answerable (s, log)) (hwaiting : s'.waiting = s.waiting) {x : Exchange}
    (hpoint : log.points t = x) (hx : ∀ request, x ≠ .sent request ∧ x ≠ .passing request)
    (hy : ∀ request, y ≠ .sent request ∧ y ≠ .passing request) : Answerable (s', log.moves t y w) := by
  subst hpoint
  exact h.moves hwaiting (fun request => iff_of_false (hy request).1 (hx request).1)
    fun request => iff_of_false (hy request).2 (hx request).2

/-- The send of a request, when it succeeds and when it does not. -/
theorem asks (h : Answerable (s, log)) (hwaiting : s'.waiting = s.waiting)
    (hpoint : log.points t = .asking service connectionId)
    (hfree : log.outstanding service requestId = none) (result : Result) :
    Answerable (s', (log.sends t requestId result).moves t
      ((log.points t).sentNext requestId result) w) := by
  simp only [ReplyLog.sends, Exchange.sentNext, hpoint]
  split
  · exact h.sends hwaiting hpoint hfree
  · exact h.leads hwaiting hpoint (fun _ => ⟨by simp, by simp⟩) fun _ => ⟨by simp, by simp⟩

variable {env : GateEnv} {o : GateOp}

/-- The sections of the services that wait. -/
theorem exec_pending {a : PendingAct} {r : a.Reply} (h : Answerable (s, log))
    (hfits : (log.points t).Fits o (.pending a)) (hexec : s.exec t env (.pending a) = some (s', r))
    (htakes : ∀ service requestId, GateAct.takes (.pending a) = some (service, requestId) →
      (log.outstanding service requestId).isSome = true ∧
        ∀ u request, log.points u = .sent request →
          ¬ (request.service = service ∧ request.requestId = requestId)) :
    Answerable (s', (log.addsGate t (.pending a) r).moves t ((log.points t).next (.pending a) r) w) := by
  obtain ⟨rfl, rfl⟩ := GateProcess.exec_pending hexec
  cases a with
  | nextLoginRequest | nextMessageRequest => exact h.stays rfl
  | registerLogin requestId pending =>
      refine h.registers (fun service requestId' => ?_) hfits
      cases service with
      | login =>
          by_cases hid : requestId' = requestId
          · simp [GateProcess.execPending, GateProcess.waiting, hid]
          · simp [GateProcess.execPending, GateProcess.waiting, hid]
      | message => simp [GateProcess.execPending, GateProcess.waiting]
  | registerMessage requestId pending =>
      refine h.registers (fun service requestId' => ?_) hfits
      cases service with
      | message =>
          by_cases hid : requestId' = requestId
          · simp [GateProcess.execPending, GateProcess.waiting, hid]
          · simp [GateProcess.execPending, GateProcess.waiting, hid]
      | login => simp [GateProcess.execPending, GateProcess.waiting]
  -- by the condition the request is outstanding, and no thread is about to enter it
  | takeLogin requestId =>
      obtain ⟨hout, hentered⟩ := htakes .login requestId rfl
      refine h.takes rfl (fun service requestId' hne => ?_) hfits.1 hout hentered
      cases service with
      | login =>
          have hid : requestId' ≠ requestId := fun hid => hne ⟨rfl, hid⟩
          simp [GateProcess.execPending, GateProcess.waiting, hid]
      | message => rfl
  | takeMessage requestId =>
      obtain ⟨hout, hentered⟩ := htakes .message requestId rfl
      refine h.takes rfl (fun service requestId' hne => ?_) hfits.1 hout hentered
      cases service with
      | message =>
          have hid : requestId' ≠ requestId := fun hid => hne ⟨rfl, hid⟩
          simp [GateProcess.execPending, GateProcess.waiting, hid]
      | login => rfl

/-- A section other than `Send` keeps the invariant, when a reply that it takes is to an outstanding request that has
been entered, and a request that it sends has a number that is not outstanding. -/
theorem exec_gate {a : GateAct} {r : a.Reply} (h : Answerable (s, log))
    (hsend : ∀ connectionId message, a ≠ .connection (.send connectionId message))
    (hfits : (log.points t).Fits o a) (hexec : s.exec t env a = some (s', r))
    (htakes : ∀ service requestId, a.takes = some (service, requestId) →
      (log.outstanding service requestId).isSome = true ∧
        ∀ u request, log.points u = .sent request →
          ¬ (request.service = service ∧ request.requestId = requestId))
    (hrequests : ∀ service requestId, a.requests = some (service, requestId) →
      log.outstanding service requestId = none) :
    Answerable (s', (log.addsGate t a r).moves t ((log.points t).next a r) w) := by
  cases a with
  | connection a =>
      obtain ⟨rfl, -⟩ := GateProcess.exec_connection hexec
      cases a with
      | markAnonymous connectionId =>
          refine h.leads rfl hfits.1 (fun _ => ⟨by simp, by simp⟩) fun request => ?_
          simp only [Exchange.next]
          split <;> exact ⟨by simp, by simp⟩
      | send connectionId message => exact absurd rfl (hsend connectionId message)
      | acceptReadySocket | accept _ | markBound _ | closeEnter _ | finalize _ => exact h.stays rfl
  | session a =>
      obtain ⟨m, -, rfl⟩ := GateProcess.exec_session hexec
      cases a with
      | findByConnection connectionId =>
          refine h.leads rfl hfits.1 (fun _ => ⟨by simp, by simp⟩) fun request => ?_
          simp only [Exchange.next]
          split
          · exact ⟨by simp, by simp⟩
          · split <;> exact ⟨by simp, by simp⟩
      | openAnonymous _ _ | activate _ _ _ _ | findByAccount _ | removeByConnection _ | snapshot _ =>
          exact h.stays rfl
  | routing a =>
      obtain ⟨routes, rfl⟩ := GateProcess.exec_routing_writes hexec
      exact h.stays rfl
  | account a =>
      obtain ⟨d, -, rfl⟩ := GateProcess.exec_account hexec
      exact h.stays rfl
  | pending a => exact h.exec_pending hfits hexec htakes
  | sendProcessPayload target payload =>
      obtain ⟨rfl, -⟩ := GateProcess.exec_send hexec
      cases payload with
      | loginPlayerRequest requestId _ _ _ _ =>
          obtain ⟨connectionId, hpoint, -⟩ := hfits
          exact h.asks rfl hpoint (hrequests .login requestId rfl) r
      | forwardPlayerMessageRequest requestId _ _ _ =>
          obtain ⟨connectionId, hpoint, -⟩ := hfits
          exact h.asks rfl hpoint (hrequests .message requestId rfl) r
      | kickAccountSession _ _ _ _ _ | playerDisconnected _ _ => exact h.stays rfl

/-- A notification is written, or a reply is settled. -/
theorem sent (h : Answerable (s, log)) {message : ClientMessage}
    (hfits : (log.points t).Fits o (.connection (.send connectionId message))) (delivery : Delivery) (r : Result) :
    Answerable (s, (log.settles t delivery).moves t
      ((log.points t).next (.connection (.send connectionId message)) r) w) := by
  rcases hfits with ⟨hpoint, -⟩ | ⟨request, hpoint, -⟩
  · simp only [ReplyLog.settles, Exchange.next, hpoint]
    exact h.leads rfl hpoint (fun _ => ⟨by simp, by simp⟩) fun _ => ⟨by simp, by simp⟩
  · rw [hpoint]
    exact h.settles hpoint delivery

end Answerable

namespace ReplyLog

variable {T : Type} [DecidableEq T] {log : ReplyLog T} {t : T} {s : WiredGate T}

omit [DecidableEq T] in
/-- What a section of the gate adds is neither a point nor a reply that has strayed. -/
theorem addsGate_frame (log : ReplyLog T) (t : T) (a : GateAct) (r : a.Reply) :
    (log.addsGate t a r).points = log.points ∧ (log.addsGate t a r).writings = log.writings ∧
      (log.addsGate t a r).strayed = log.strayed := by
  have hsends : ∀ requestId result, (log.sends t requestId result).points = log.points ∧
      (log.sends t requestId result).writings = log.writings ∧
      (log.sends t requestId result).strayed = log.strayed := by
    intro requestId result
    unfold sends
    split
    · split <;> exact ⟨rfl, rfl, rfl⟩
    · exact ⟨rfl, rfl, rfl⟩
  have htakes : ∀ service requestId found, (log.takes t service requestId found).points = log.points ∧
      (log.takes t service requestId found).writings = log.writings ∧
      (log.takes t service requestId found).strayed = log.strayed := by
    intro service requestId found
    unfold takes
    split
    · exact ⟨rfl, rfl, rfl⟩
    · dsimp only
      split <;> exact ⟨rfl, rfl, rfl⟩
  unfold addsGate
  split
  · exact hsends _ _
  · exact hsends _ _
  · exact htakes _ _ _
  · exact htakes _ _ _
  · exact ⟨rfl, rfl, rfl⟩

omit [DecidableEq T] in
theorem strays_frame (log : ReplyLog T) (t : T) (client : Option ConnectionId) (written : Result) :
    (log.strays t client written).points = log.points ∧ (log.strays t client written).writings = log.writings := by
  unfold strays
  split
  · split <;> exact ⟨rfl, rfl⟩
  · exact ⟨rfl, rfl⟩

theorem settles_frame (log : ReplyLog T) (t : T) (delivery : Delivery) :
    (log.settles t delivery).points = log.points ∧ (log.settles t delivery).writings = log.writings ∧
      (log.settles t delivery).strayed = log.strayed := by
  unfold settles
  split <;> exact ⟨rfl, rfl, rfl⟩

/-- No section adds a point. -/
theorem adds_frame (log : ReplyLog T) (t : T) (s : WiredGate T) (a : WiredAct) (r : a.Reply) :
    (log.adds t s a r).points = log.points ∧ (log.adds t s a r).writings = log.writings := by
  cases a with
  | gate a => exact ⟨(addsGate_frame log t a r).1, (addsGate_frame log t a r).2.1⟩
  | lookUp connectionId message =>
      cases r with
      | none => exact ⟨(settles_frame log t _).1, (settles_frame log t _).2.1⟩
      | some found => exact ⟨rfl, rfl⟩
  | write connectionId fd message =>
      obtain ⟨hpoints, hwritings⟩ := strays_frame log t (s.wires.clients fd) r
      simp only [adds]
      split
      · exact ⟨hpoints, hwritings⟩
      · exact ⟨(settles_frame _ t _).1.trans hpoints, (settles_frame _ t _).2.1.trans hwritings⟩

end ReplyLog

namespace Aimed

variable {T : Type} [DecidableEq T] {s s' : WiredGate T} {log log' : ReplyLog T} {t : T} {y : Exchange}
  {v : Option Writing}

/-- The threads that write a reply have their descriptors, or nobody has them any more. -/
theorem moves (h : Aimed (s, log)) (hpoints : log'.points = log.points) (hwritings : log'.writings = log.writings)
    (hstrayed : log'.strayed = [])
    (hothers : ∀ u request w, log.points u = .passing request → log.writings u = some w →
      s'.wires.clients w.fd = s.wires.clients w.fd ∨ s'.wires.clients w.fd = none)
    (hself : ∀ request w, y = .passing request → v = some w →
      s'.wires.clients w.fd = some w.connectionId ∨ s'.wires.clients w.fd = none) :
    Aimed (s', log'.moves t y v) := by
  refine ⟨fun u request w hu hw => ?_, hstrayed⟩
  by_cases hut : u = t
  · subst hut
    have hpoint : Function.update log'.points u y u = .passing request := hu
    have hwriting : Function.update log'.writings u v u = some w := hw
    rw [Function.update_self] at hpoint hwriting
    exact hself request w hpoint hwriting
  · have hpoint : log.points u = .passing request := by
      rw [← hpoints]
      exact (Function.update_of_ne hut ..).symm.trans hu
    have hwriting : log.writings u = some w := by
      rw [← hwritings]
      exact (Function.update_of_ne hut ..).symm.trans hw
    rcases hothers u request w hpoint hwriting with hsame | hnone
    · rw [hsame]
      exact h.writings u request w hpoint hwriting
    · exact .inr hnone

/-- A section that leaves the descriptors, after which the thread writes nothing. -/
theorem leaves (h : Aimed (s, log)) (hpoints : log'.points = log.points) (hwritings : log'.writings = log.writings)
    (hstrayed : log'.strayed = []) : Aimed (s, log'.moves t y none) :=
  h.moves hpoints hwritings hstrayed (fun _ _ _ _ _ => .inl rfl) fun _ _ _ hnone => by cases hnone

omit [DecidableEq T] in
/-- A `send` call for a reply goes to its connection, or to no client. -/
theorem strays {connectionId : ConnectionId} {fd : Int} {left : Nat} (h : Aimed (s, log))
    {o : GateOp} {message : ClientMessage} (hwriting : log.writings t = some ⟨connectionId, fd, left⟩)
    (hfits : (log.points t).Fits o (.connection (.send connectionId message))) (written : Result) :
    log.strays t (s.wires.clients fd) written = log := by
  unfold ReplyLog.strays
  rcases hfits with ⟨hpoint, -⟩ | ⟨request, hpoint, rfl, -⟩
  · rw [hpoint]
  · rw [hpoint]
    refine if_neg ?_
    rintro ⟨-, hclient, hother⟩
    rcases h.writings t request _ hpoint hwriting with hown | hnone
    · exact hother hown
    · exact hclient hnone

end Aimed

/-- One section keeps both. -/
theorem exec_wired {T : Type} [DecidableEq T] {s s' : WiredGate T} {log : ReplyLog T} {t : T} {i : WiredInput}
    {o : GateOp} {a : WiredAct} {r : a.Reply} (hanswerable : Answerable (s.gate, log)) (haimed : Aimed (s, log))
    (hfits : (wiredProtocol (exchangeProtocol T)).fits t o (log.point t) a) (hexec : s.exec t i a = some (s', r))
    (htakes : ∀ service requestId, a.gate?.bind GateAct.takes = some (service, requestId) →
      (log.outstanding service requestId).isSome = true ∧
        ∀ u request, log.points u = .sent request →
          ¬ (request.service = service ∧ request.requestId = requestId))
    (hrequests : ∀ service requestId, a.gate?.bind GateAct.requests = some (service, requestId) →
      log.outstanding service requestId = none)
    (haccepts : a.gate? = some (.connection .acceptReadySocket) → ∀ u request w,
      log.points u = .passing request → log.writings u = some w → w.fd ≠ i.fd) :
    Answerable (s'.gate, log.record t a s r) ∧ Aimed (s', log.record t a s r) := by
  cases a with
  | gate a =>
      obtain ⟨-, hsend, hfits⟩ := hfits
      obtain ⟨hwires, hgate⟩ := WiredGate.exec_gate hexec
      obtain ⟨hpoints, hwritings, hstrayed⟩ := ReplyLog.addsGate_frame log t a r
      refine ⟨hanswerable.exec_gate hsend hfits hgate htakes hrequests, ?_⟩
      refine haimed.moves hpoints hwritings (hstrayed.trans haimed.strayed) (fun u request w hu hw => ?_) ?_
      · exact GateWires.after_clients hwires fun haccept => haccepts (congrArg some haccept) u request w hu hw
      · rintro request w - ⟨⟩
  | lookUp connectionId message =>
      obtain ⟨-, hfits⟩ := hfits
      cases hexec
      cases hfd : s.wires.fds connectionId with
      | none =>
          obtain ⟨hpoints, hwritings, hstrayed⟩ := ReplyLog.settles_frame log t .closed
          refine ⟨hanswerable.sent hfits .closed (.failure "connection socket does not exist"), ?_⟩
          exact haimed.leaves hpoints hwritings (hstrayed.trans haimed.strayed)
      | some fd =>
          refine ⟨hanswerable.stays rfl, haimed.moves rfl rfl haimed.strayed (fun _ _ _ _ _ => .inl rfl) ?_⟩
          rintro request w - ⟨⟩
          exact .inl (s.wires.wired connectionId fd hfd)
  | write connectionId fd message =>
      obtain ⟨⟨left, hwriting⟩, hfits⟩ := hfits
      cases hexec
      have hwriting : log.writings t = some ⟨connectionId, fd, left⟩ := hwriting
      have hstrays := haimed.strays hwriting hfits i.written
      have hend : Answerable (s.gate, (log.settles t (.of (s.wires.clients fd) connectionId i.written)).moves t
            ((log.points t).next (.connection (.send connectionId message)) i.written) none) ∧
          Aimed (s, (log.settles t (.of (s.wires.clients fd) connectionId i.written)).moves t
            ((log.points t).next (.connection (.send connectionId message)) i.written) none) := by
        obtain ⟨hpoints, hwritings, hstrayed⟩ :=
          ReplyLog.settles_frame log t (.of (s.wires.clients fd) connectionId i.written)
        exact ⟨hanswerable.sent hfits _ _, haimed.leaves hpoints hwritings (hstrayed.trans haimed.strayed)⟩
      simp only [ReplyLog.record, ReplyLog.adds, ReplyLog.point, wiredProtocol, hwriting, hstrays]
      cases left with
      | zero => exact hend
      | succ left =>
          cases hok : i.written.ok with
          | false => exact hend
          | true =>
              refine ⟨hanswerable.stays rfl, haimed.moves rfl rfl haimed.strayed (fun _ _ _ _ _ => .inl rfl) ?_⟩
              rintro request w hpoint ⟨⟩
              exact haimed.writings t request ⟨connectionId, fd, left + 1⟩ hpoint hwriting

/-! ## Runs -/

section Runs

variable {T : Type} [DecidableEq T]

/-- A gate with its descriptors and its log. -/
def replyMachine (T : Type) [DecidableEq T] :
    Machine T WiredAct WiredAct.Reply WiredInput (WiredGate T × ReplyLog T) :=
  WiredGate.machine.withHistory fun t a _ s _ r log => log.record t a s r

abbrev ReplyPool (T : Type) : Type :=
  Pool T GateOp WiredAct WiredAct.Reply Result (WiredGate T × ReplyLog T)

/-- The programs of the gate. -/
abbrev wiredCode (cfg : GateConfiguration) (o : GateOp) : WiredCall Result := wire (o.code cfg)

/-- The section of the gate that a thread is about to perform. -/
def gateSection (c : ReplyPool T) (t : T) : Option GateAct := (c.pending t).bind WiredAct.gate?

/-- The replies that come are to requests that have been sent, and to each at most one. -/
def answersOnce (c : ReplyPool T) : Move T GateOp WiredInput → Bool
  | .start _ _ => true
  | .act t _ => match (gateSection c t).bind GateAct.takes with
    | some (service, requestId) => (c.shared.2.outstanding service requestId).isSome
    | none => true

/-- A reply is taken when no thread has yet to enter its request, and a request is sent under a number
that is not outstanding. And no client is accepted with a descriptor that a thread has looked up for a reply and is
still to write to. -/
def answersInTime (c : ReplyPool T) : Move T GateOp WiredInput → Prop
  | .start _ _ => True
  | .act t i =>
      (∀ service requestId, (gateSection c t).bind GateAct.takes = some (service, requestId) →
        ∀ u request, c.shared.2.points u = .sent request →
          ¬ (request.service = service ∧ request.requestId = requestId)) ∧
      (∀ service requestId, (gateSection c t).bind GateAct.requests = some (service, requestId) →
        c.shared.2.outstanding service requestId = none) ∧
      (gateSection c t = some (.connection .acceptReadySocket) →
        ∀ u request w, c.shared.2.points u = .passing request → c.shared.2.writings u = some w → w.fd ≠ i.fd)

/-- Where a thread is. -/
def exchangeOf (x : WiredGate T × ReplyLog T) (t : T) : Exchange × Option Writing := x.2.point t

theorem replyMachine_exec {t : T} {a : WiredAct} {i : WiredInput} {r : a.Reply}
    {x y : WiredGate T × ReplyLog T} (h : (replyMachine T).exec t a i x = some (y, r)) :
    x.1.exec t i a = some (y.1, r) ∧ y.2 = x.2.record t a x.1 r :=
  Machine.withHistory_exec h

theorem exchangeOf_exec (t : T) (a : WiredAct) (i : WiredInput) (x y : WiredGate T × ReplyLog T)
    (r : a.Reply) (h : (replyMachine T).exec t a i x = some (y, r)) :
    exchangeOf y = Function.update (exchangeOf x) t
      ((wiredProtocol (exchangeProtocol T)).next t (exchangeOf x t) a r) := by
  obtain ⟨hpoints, hwritings⟩ := ReplyLog.adds_frame x.2 t x.1 a r
  funext u
  rw [exchangeOf, (replyMachine_exec h).2, ReplyLog.record, ReplyLog.point, ReplyLog.moves, hpoints, hwritings]
  by_cases hut : u = t
  · subst hut
    simp only [Function.update_self]
    rfl
  · simp only [Function.update_of_ne hut]
    rfl

variable {cfg : GateConfiguration} {s₀ : WiredGate T} {c : ReplyPool T}

omit [DecidableEq T] in
theorem exchangeOf_follows (cfg : GateConfiguration) (c : ReplyPool T) (t : T) (o : GateOp)
    (hrest : (wiredProtocol (exchangeProtocol T)).rest t (exchangeOf c.shared t)) :
    (wiredProtocol (exchangeProtocol T)).Follows t o
      (fun _ y => (wiredProtocol (exchangeProtocol T)).rest t y) (wiredCode cfg o) (exchangeOf c.shared t) := by
  obtain ⟨hnone, hfree⟩ := hrest
  rw [show exchangeOf c.shared t = (.free, none) from Prod.ext hfree hnone]
  exact wire_follows (code_exchanges cfg t o)

omit [DecidableEq T] in
/-- Nobody has asked for anything yet. -/
theorem answerable_initial (s : WiredGate T) :
    Answerable (s.gate, ({} : ReplyLog T)) ∧ Aimed (s, ({} : ReplyLog T)) := by
  refine ⟨⟨fun _ _ _ hout => ?_, fun _ _ hu => ?_, rfl, List.nodup_nil, fun _ _ => ?_, .refl _⟩,
    fun _ _ _ hu => ?_, rfl⟩
  · cases hout
  · cases hu
  · exact iff_of_false List.not_mem_nil (by simp)
  · cases hu

theorem run_answerable (h : Run (replyMachine T) (fun _ => wiredCode cfg)
    (fun c m => answersOnce c m = true ∧ answersInTime c m) (Pool.initial (s₀, {})) c) :
    Answerable (c.shared.1.gate, c.shared.2) ∧ Aimed c.shared := by
  refine Protocol.run_invariant (I := fun x => Answerable (x.1.gate, x.2) ∧ Aimed x)
    (fun c t o _ => exchangeOf_follows cfg c t o) exchangeOf_exec (by exact fun _ => ⟨rfl, rfl⟩)
    (answerable_initial s₀) ?_ h
  intro c t o a k i y r hguard ht hfits hI hx
  obtain ⟨honce, htime⟩ := hguard
  obtain ⟨hexec, hlog⟩ := replyMachine_exec hx
  have hpending : gateSection c t = a.gate? := by
    rw [gateSection, Pool.pending_eq_some.mpr ⟨o, k, ht⟩, Option.bind_some]
  simp only [answersOnce, hpending] at honce
  simp only [answersInTime, hpending] at htime
  obtain ⟨htakes, hrequests, haccepts⟩ := htime
  have hstep := exec_wired hI.1 hI.2 hfits hexec (fun service requestId htaken => ⟨?_, htakes _ _ htaken⟩)
    hrequests haccepts
  · rw [← hlog] at hstep
    exact hstep
  · rw [htaken] at honce
    exact honce

/-- **Every reply finds its request** and is passed on once, to the connection that the request came from,
in every run in which each reply is taken after its request has been entered, no number is used again
while it is outstanding, and no client is accepted with a descriptor that a reply is about to be written to. -/
theorem replies_find_requests (h : Run (replyMachine T) (fun _ => wiredCode cfg)
    (fun c m => answersOnce c m = true ∧ answersInTime c m) (Pool.initial (s₀, {})) c) :
    c.shared.2.missed = [] ∧ c.shared.2.strayed = [] ∧
    c.shared.2.received.Perm (c.shared.2.settled.map Prod.fst ++ c.shared.2.passing.map Prod.snd) ∧
    ((∀ t, c.idle t = true) → c.shared.2.received.Perm (c.shared.2.settled.map Prod.fst)) ∧
    ∀ t o connectionId fd message k,
      c.threads t = some (o, .act (.write connectionId fd message) k) →
        o.replyTo.isSome = true → o.replyMessage = some message ∧ ∃ request,
          (t, request) ∈ c.shared.2.passing ∧ request.connectionId = connectionId ∧
            o.replyTo = some (request.service, request.requestId) ∧
            (c.shared.1.wires.clients fd = some connectionId ∨ c.shared.1.wires.clients fd = none) := by
  obtain ⟨hanswerable, haimed⟩ := run_answerable h
  have hfollowed := Protocol.run_followed (fun c t o _ => exchangeOf_follows cfg c t o) exchangeOf_exec
    (by exact fun _ => ⟨rfl, rfl⟩) h
  refine ⟨hanswerable.found, haimed.strayed, hanswerable.accounted, fun hidle => ?_,
    fun t o connectionId fd message k ht hreply => ?_⟩
  · have hnone : c.shared.2.passing = [] := by
      apply List.eq_nil_iff_forall_not_mem.mpr
      rintro ⟨t, request⟩ hmem
      have hpoint := (hanswerable.passing t request).mp hmem
      rw [show c.shared.2.points t = .free from (hfollowed.rest (hidle t)).2] at hpoint
      cases hpoint
    have haccounted := hanswerable.accounted
    rwa [hnone, List.map_nil, List.append_nil] at haccounted
  · have hprog := hfollowed t
    rw [ht] at hprog
    obtain ⟨⟨⟨left, hwriting⟩, hfits⟩, -⟩ := hprog
    rcases hfits with ⟨-, hnone⟩ | ⟨request, hpoint, hconnection, hto, hmessage⟩
    · rw [hnone] at hreply
      cases hreply
    · exact ⟨hmessage, request, (hanswerable.passing t request).mpr hpoint, hconnection, hto,
        haimed.writings t request _ hpoint hwriting⟩

/-- The descriptors of a gate are those of the connections that it has a socket for, in every run. -/
theorem keyed_run {guard : ReplyPool T → Move T GateOp WiredInput → Prop} (h₀ : s₀.Keyed)
    (h : Run (replyMachine T) (fun _ => wiredCode cfg) guard (Pool.initial (s₀, {})) c) : c.shared.1.Keyed := by
  refine Protocol.run_invariant (I := fun x => x.1.Keyed) (fun c t o _ => exchangeOf_follows cfg c t o)
    exchangeOf_exec (by exact fun _ => ⟨rfl, rfl⟩) h₀ (fun c t o a k i y r _ _ _ hI hx => ?_) h
  exact hI.exec (replyMachine_exec hx).1

end Runs

/-! ### A worker and a reader -/

section WorkerAndReader

/-- A gate that has just started; its worker is thread `false`, its reader thread `true`. -/
def newGate : ReplyPool Bool := Pool.initial ({}, {})

/-- So many steps of a thread: nothing is found in Redis, every send succeeds, and a message is sent with two calls. -/
def stepsOf (t : Bool) (count : Nat) : List (Move Bool GateOp WiredInput) :=
  List.replicate count (.act t { calls := 1 })

/-- A client is accepted with this descriptor. -/
def acceptedWith (fd : Int) : List (Move Bool GateOp WiredInput) := [.start false .acceptReadySocket, .act false { fd }]

/-- The game's response to the first login. -/
def firstResponse : LoginPlayerResponse where
  requestId := 1
  playerId := 100001
  game := ⟨kGameServiceType, 1⟩
  code := .ok

/-- A client is accepted and logs in, and its request is sent and entered. -/
def acceptedAndAsked : List (Move Bool GateOp WiredInput) :=
  acceptedWith 5 ++ .start false (.clientLogin 1 "p" "a" "c") :: stepsOf false 8

/-- Nobody has yet to enter a request when a reply is taken, a number is not used again, and nobody writes when a client
is accepted. -/
def nobodySent (c : ReplyPool Bool) : Move Bool GateOp WiredInput → Bool
  | .start _ _ => true
  | .act t _ =>
      (((gateSection c t).bind GateAct.takes).isNone ||
        (c.shared.2.points false = .free && c.shared.2.points true = .free)) &&
      (match (gateSection c t).bind GateAct.requests with
      | some (service, requestId) => (c.shared.2.outstanding service requestId).isNone
      | none => true) &&
      match gateSection c t with
      | some (.connection .acceptReadySocket) =>
          (c.shared.2.writings false).isNone && (c.shared.2.writings true).isNone
      | _ => true

theorem answersInTime_of_nobodySent (c : ReplyPool Bool) (m : Move Bool GateOp WiredInput)
    (h : (answersOnce c m && nobodySent c m) = true) :
    answersOnce c m = true ∧ answersInTime c m := by
  obtain ⟨honce, hnobody⟩ := Bool.and_eq_true_iff.mp h
  refine ⟨honce, ?_⟩
  cases m with
  | start t o => trivial
  | act t i =>
      obtain ⟨htwo, haccepts⟩ := Bool.and_eq_true_iff.mp hnobody
      obtain ⟨htakes, hrequests⟩ := Bool.and_eq_true_iff.mp htwo
      refine ⟨fun service requestId htaken u request hu => ?_, fun service requestId hasked => ?_,
        fun haccept u request w _ hw => ?_⟩
      · simp only [htaken, Option.isNone_some, Bool.false_or, Bool.and_eq_true, decide_eq_true_eq]
          at htakes
        cases u with
        | false =>
            rw [htakes.1] at hu
            cases hu
        | true =>
            rw [htakes.2] at hu
            cases hu
      · simpa only [hasked, Option.isNone_iff_eq_none] using hrequests
      · simp only [haccept, Bool.and_eq_true, Option.isNone_iff_eq_none] at haccepts
        cases u with
        | false =>
            rw [haccepts.1] at hw
            cases hw
        | true =>
            rw [haccepts.2] at hw
            cases hw

theorem replies_find_requests_after : ∃ c, newGate.play (replyMachine Bool)
      (fun _ => wiredCode ⟨1⟩) (fun c m => answersOnce c m && nobodySent c m)
      (acceptedAndAsked ++ .start true (.loginResponse firstResponse) :: stepsOf true 8) = some c ∧
    c.shared.2.settled = [(⟨.login, 1, 1⟩, .passed)] ∧
    c.shared.2.received.Perm (c.shared.2.settled.map Prod.fst) := by
  have hend : (newGate.play (replyMachine Bool) (fun _ => wiredCode ⟨1⟩)
      (fun c m => answersOnce c m && nobodySent c m)
      (acceptedAndAsked ++ .start true (.loginResponse firstResponse) :: stepsOf true 8)).map
        (fun c => (c.idle true, c.idle false, c.shared.2.settled)) =
      some (true, true, [(⟨.login, 1, 1⟩, .passed)]) := rfl
  obtain ⟨c, hc, hcs⟩ := Option.map_eq_some_iff.mp hend
  simp only [Prod.mk.injEq] at hcs
  obtain ⟨htrue, hfalse, hsettled⟩ := hcs
  obtain ⟨-, -, -, hall, -⟩ := replies_find_requests (Run.refl.play answersInTime_of_nobodySent hc)
  refine ⟨c, hc, hsettled, hall fun t => ?_⟩
  cases t with
  | true => exact htrue
  | false => exact hfalse

/-- The request is sent, the reply is taken, and then the request is entered. -/
def answeredTooSoon : List (Move Bool GateOp WiredInput) :=
  acceptedWith 5 ++ .start false (.clientLogin 1 "p" "a" "c") :: stepsOf false 7 ++
    .start true (.loginResponse firstResponse) :: stepsOf true 1 ++ stepsOf false 1

/-- The reader has looked up the socket of the first client; the client goes and another one is accepted under the
descriptor; and the reader writes. -/
def writtenToAnother : List (Move Bool GateOp WiredInput) :=
  acceptedAndAsked ++ .start true (.loginResponse firstResponse) :: stepsOf true 6 ++
    .start false (.endOfStream 1) :: List.replicate 5 (.act false { order := [1] }) ++ acceptedWith 5 ++
    stepsOf true 2

/-- The connection is open, and the reply has been dropped. And a reply that has found its request is written to another
client. -/
theorem reply_dropped :
    (∃ c, Run (replyMachine Bool) (fun _ => wiredCode ⟨1⟩)
      (fun c m => answersOnce c m = true) newGate c ∧ (∀ t, c.idle t = true) ∧
      c.returned true = some (.loginResponse firstResponse, .failure "missing pending login") ∧
      c.shared.2.received = [⟨.login, 1, 1⟩] ∧ c.shared.2.settled = [] ∧
      c.shared.1.gate.connection.sockets 1 = true ∧ (c.shared.1.gate.waiting .login 1) = some 1) ∧
    ∃ c, Run (replyMachine Bool) (fun _ => wiredCode ⟨1⟩) (fun c m => answersOnce c m = true) newGate c ∧
      c.shared.2.missed = [] ∧ c.shared.2.strayed = [⟨.login, 1, 1⟩, ⟨.login, 1, 1⟩] ∧
      c.shared.1.wires.fds 2 = some 5 := by
  constructor
  · have hend : (newGate.play (replyMachine Bool) (fun _ => wiredCode ⟨1⟩) answersOnce
        answeredTooSoon).map (fun c => (c.idle true, c.idle false, c.returned true,
          c.shared.2.received, c.shared.2.settled, c.shared.1.gate.connection.sockets 1,
          c.shared.1.gate.waiting .login 1)) =
        some (true, true, some (.loginResponse firstResponse, .failure "missing pending login"),
          [⟨.login, 1, 1⟩], [], true, some 1) := rfl
    obtain ⟨c, hc, hcs⟩ := Option.map_eq_some_iff.mp hend
    simp only [Prod.mk.injEq] at hcs
    obtain ⟨htrue, hfalse, hreturned, hreceived, hsettled, hsocket, hwaiting⟩ := hcs
    refine ⟨c, Run.refl.play (fun _ _ h => h) hc, fun t => ?_, hreturned, hreceived, hsettled, hsocket,
      hwaiting⟩
    cases t with
    | true => exact htrue
    | false => exact hfalse
  · have hend : (newGate.play (replyMachine Bool) (fun _ => wiredCode ⟨1⟩) answersOnce
        writtenToAnother).map (fun c => (c.shared.2.missed, c.shared.2.strayed, c.shared.1.wires.fds 2)) =
        some ([], [⟨.login, 1, 1⟩, ⟨.login, 1, 1⟩], some 5) := rfl
    obtain ⟨c, hc, hcs⟩ := Option.map_eq_some_iff.mp hend
    simp only [Prod.mk.injEq] at hcs
    exact ⟨c, Run.refl.play (fun _ _ h => h) hc, hcs⟩

end WorkerAndReader

end SomeServer
