/-
# SomeServer.Cluster.Points — where the handlers of a cluster are

Between two of its sections a handler holds things that no table has: a response that it has taken from
the inbox, a pending login that it has taken out of the table, a session that it has removed and of which
the game has not been told. `Work` names these points, `clusterProtocol` says which section comes at which
point, and `code_follows` that every program keeps to it. What a run does to the tables can then be said
section by section, with no look at the programs.
-/
import SomeServer.Cluster.World
import SomeServer.Game.Footprint
import SomeServer.Lib.Protocol

namespace SomeServer

open Lib

/-! ## Points -/

/-- What a handler is at work on. -/
inductive Work where
  | free
  /-- A login response or a kick has been taken from the inbox. -/
  | received (message : GateMessage)
  /-- A pending login has been taken; its session is about to be made active, its player to be routed, its
  connection to be marked, its account to be bound. -/
  | activating (pending : PendingLogin) (response : LoginPlayerResponse)
  | routing (pending : PendingLogin) (response : LoginPlayerResponse)
  | marking (pending : PendingLogin) (response : LoginPlayerResponse)
  | naming (pending : PendingLogin)
  /-- A login has asked the directory for its account. -/
  | looked (owner : Option GateAccountOwner)
  /-- A session has been found, and its connection is about to be closed. -/
  | kicking (connectionId : ConnectionId)
  /-- A login is about to ask the game, and has asked. -/
  | asking (gateSessionId : GateSessionId)
  | registering (gateSessionId : GateSessionId) (requestId : RequestId)
  /-- A connection has been closed; its session is about to be removed, the game to be told, the route and
  the directory entry to be taken back. -/
  | closing (connectionId : ConnectionId)
  | leaving (record : GateSessionRecord)
  | unrouting (record : GateSessionRecord)
  | unnaming (record : GateSessionRecord)
  | deleting (record : GateSessionRecord)
  /-- The game is at work on a message, and has accepted a player for it. -/
  | serving (message : GameMessage)
  | accepted (message : GameMessage) (playerId : PlayerId)
deriving DecidableEq, Repr

/-- A login goes on when the connection that it kicks has been closed: `login` says that one is under
way. -/
structure ClusterPoint where
  login : Bool := false
  work : Work := .free
deriving DecidableEq, Repr

/-- The session, the platform and the account of a client's login. -/
def ClusterOp.asks : ClusterOp → Option (GateSessionId × String × String)
  | .gate (.clientLogin connectionId platform accountId _) => some (connectionId, platform, accountId)
  | _ => none

namespace ClusterPoint

/-- Part of the work is done, or an attempt at it has failed: a login that is under way goes on. -/
def freed (x : ClusterPoint) : ClusterPoint := { x with work := .free }

/-- The point after `Snapshot`. -/
def snapshotNext (x : ClusterPoint) (k : GateSessionId) (session : Option GateSessionRecord) :
    ClusterPoint :=
  match x.work with
  | .looked _ =>
      match session with
      | some record => { x with work := .kicking record.connectionId }
      | none => x.freed
  | .received (.kickAccountSession accountId _ _) =>
      match session with
      | some record => if record.accountId = accountId then ⟨false, .kicking record.connectionId⟩ else {}
      | none => {}
  | _ => if x.login then ⟨true, .asking k⟩ else x

/-- The point after a section of a gate. -/
def gateNext (x : ClusterPoint) : (a : GateAct) → a.Reply → ClusterPoint
  | .account (.lookupAccount _), owner => ⟨true, .looked owner⟩
  | .account (.bindAccount _ _), _ => {}
  -- the directory names the session still, or the removal is over
  | .account (.removeGet _ _), decision =>
      match x.work, (decision : RemoveDecision) with
      | .unnaming record, .delete => { x with work := .deleting record }
      | _, _ => x.freed
  | .account (.removeDelete _), _ => x.freed
  | .session (.findByAccount _), some record => { x with work := .kicking record.connectionId }
  | .session (.findByAccount _), none => x.freed
  | .session (.snapshot k), session => x.snapshotNext k session
  | .session (.openAnonymous _ _), result => if Result.ok result then x else {}
  | .session (.activate _ _ _ _), _ =>
      match x.work with
      | .activating pending response => ⟨false, .routing pending response⟩
      | _ => x
  | .session (.removeByConnection _), none => x.freed
  -- without a player or a game there is nobody to tell
  | .session (.removeByConnection _), some record =>
      if GateSessionRecord.skipped record then x.freed else { x with work := .leaving record }
  | .routing (.bindPlayer _ _ _), _ =>
      match x.work with
      | .routing pending response => ⟨false, .marking pending response⟩
      | _ => x
  | .routing (.unbindPlayer _ _), _ =>
      match x.work with
      | .unrouting record => { x with work := .unnaming record }
      | _ => x
  | .connection (.markAnonymous _), result => if Result.ok result then x else {}
  | .connection (.markBound _), _ =>
      match x.work with
      | .marking pending _ => ⟨false, .naming pending⟩
      | _ => x
  -- a connection that is not known is not closed a second time
  | .connection (.closeEnter c), result => if Result.ok result then { x with work := .closing c } else {}
  | .connection (.finalize c), _ => { x with work := .closing c }
  | .connection (.send _ (.kickNotification _)), result => if Result.ok result then x else {}
  | .pending (.registerLogin _ _), _ => {}
  -- a response that no login waits for is dropped
  | .pending (.takeLogin _), pending =>
      match x.work, (pending : Option PendingLogin) with
      | .received (.loginPlayerResponse response), some pending =>
          if response.code = .ok then ⟨false, .activating pending response⟩ else {}
      | _, _ => {}
  | .sendProcessPayload _ (.loginPlayerRequest requestId _ _ _ _), result =>
      match x.work with
      | .asking k => if Result.ok result then ⟨true, .registering k requestId⟩ else {}
      | _ => {}
  | .sendProcessPayload _ (.kickAccountSession _ _ _ _ _), result =>
      if Result.ok result then x.freed else {}
  -- the route and the name stay when the game cannot be told
  | .sendProcessPayload _ (.playerDisconnected _ _), result =>
      match x.work with
      | .leaving record => if Result.ok result then { x with work := .unrouting record } else x.freed
      | _ => x
  | _, _ => x

/-- The game has accepted a player for the message that the thread is at work on. -/
def accept (x : ClusterPoint) (p : PlayerId) : ClusterPoint :=
  match x.work with
  | .serving message => ⟨false, .accepted message p⟩
  | _ => x

/-- The point after a section of the game. -/
def gameNext (x : ClusterPoint) : (a : Act) → a.Reply → ClusterPoint
  | .session (.activateEnter p _), .done result => if Result.ok result then x.accept p else x
  | .session (.activateResume p _), result => if Result.ok result then x.accept p else x
  | .session (.activateInsert p _), _ => x.accept p
  | .ipc (.sendProcessPayload _ (.loginPlayerResponse _ _ _)), _ => {}
  | _, _ => x

/-- The point after a section. -/
def next (x : ClusterPoint) : (a : ClusterAct) → a.Reply → ClusterPoint
  | .gate a, r => x.gateNext a r
  | .game a, r => x.gameNext a r
  | .gateReceive, message =>
      match (message : GateMessage) with
      | .loginPlayerResponse _ => ⟨false, .received message⟩
      | .kickAccountSession _ _ _ => ⟨false, .received message⟩
      | _ => {}
  | .gameReceive, message =>
      match GameMessage.payload message with
      | .loginPlayerRequest _ _ _ _ _ => ⟨false, .serving message⟩
      | .playerDisconnected _ _ => ⟨false, .serving message⟩
      | _ => {}
  | .restart _, _ => x

/-- What comes at a point, in a gate with number `g`. -/
def GateFits (g : UInt32) (o : ClusterOp) (x : ClusterPoint) : GateAct → Prop
  | .account (.lookupAccount accountId) =>
      x = {} ∧ accountId ≠ "" ∧ ∃ k platform, o.asks = some (k, platform, accountId)
  | .account (.bindAccount accountId owner) => ∃ pending, x = ⟨false, .naming pending⟩ ∧
      accountId = pending.accountId ∧ owner = (gateConfiguration g).gateSession pending.gateSessionId
  | .account (.removeGet accountId owner) => ∃ record, x.work = .unnaming record ∧
      accountId = record.accountId ∧ owner = (gateConfiguration g).gateSession record.gateSessionId
  | .account (.removeDelete accountId) => ∃ record, x.work = .deleting record ∧
      accountId = record.accountId
  | .session (.findByAccount accountId) => x = ⟨true, .looked none⟩ ∧
      ∃ k platform, o.asks = some (k, platform, accountId)
  | .session (.snapshot k) =>
      match x.work with
      | .looked owner => ∃ found, owner = some found ∧ found.instanceId = g ∧ found.sessionId = k
      | .received (.kickAccountSession _ k' _) => k' = k
      | .kicking c => x.login = true ∧ c = k ∧ ∃ platform accountId, o.asks = some (k, platform, accountId)
      | .free => x.login = true → ∃ platform accountId, o.asks = some (k, platform, accountId)
      | _ => False
  | .session (.openAnonymous k c) => k = c ∧ x = ⟨true, .asking k⟩
  | .session (.activate k accountId p game) => ∃ pending response,
      x = ⟨false, .activating pending response⟩ ∧ k = pending.gateSessionId ∧
        accountId = pending.accountId ∧ p = response.playerId ∧ game = response.game
  | .session (.removeByConnection c) => x.work = .closing c
  | .routing (.bindPlayer p _ k) => ∃ pending response, x = ⟨false, .routing pending response⟩ ∧
      p = response.playerId ∧ k = pending.gateSessionId
  | .routing (.unbindPlayer p k) => ∃ record, x.work = .unrouting record ∧ p = record.playerId ∧
      k = record.gateSessionId
  | .connection (.markAnonymous c) => x = ⟨true, .asking c⟩
  | .connection (.markBound c) => ∃ pending response, x = ⟨false, .marking pending response⟩ ∧
      c = pending.connectionId
  | .connection (.send c (.kickNotification _)) => x = {} ∨ x.work = .kicking c
  | .connection (.closeEnter c) => x = {} ∨
      x.work = .kicking c ∧ (x.login = true → ∀ k platform accountId,
        o.asks = some (k, platform, accountId) → c ≠ k)
  | .connection (.finalize c) => x = {} ∨ x.work = .closing c
  | .pending (.registerLogin r pending) => ∃ k platform accountId, x = ⟨true, .registering k r⟩ ∧
      o.asks = some (k, platform, accountId) ∧ pending = ⟨k, k, accountId⟩
  | .pending (.takeLogin r) => ∃ response, x = ⟨false, .received (.loginPlayerResponse response)⟩ ∧
      r = response.requestId
  | .sendProcessPayload target (.loginPlayerRequest _ gate platform accountId _) =>
      target = gameProcess ∧ ∃ k, x = ⟨true, .asking k⟩ ∧ o.asks = some (k, platform, accountId) ∧
        gate = (gateConfiguration g).gateSession k
  | .sendProcessPayload target (.kickAccountSession _ accountId old _ _) => ∃ owner k platform,
      x = ⟨true, .looked (some owner)⟩ ∧ owner.instanceId ≠ g ∧ old = owner ∧
        target = ⟨owner.serviceType, owner.instanceId⟩ ∧ o.asks = some (k, platform, accountId)
  | .sendProcessPayload target (.playerDisconnected p gate) => ∃ record, x.work = .leaving record ∧
      target = record.game ∧ p = record.playerId ∧
        gate = (gateConfiguration g).gateSession record.gateSessionId
  | _ => True

/-- The game is at work on a login of this gate session. -/
def ServesLogin (x : ClusterPoint) (gate : GateSession) : Prop :=
  ∃ message requestId platform accountId areaId, x = ⟨false, .serving message⟩ ∧
    message.payload = .loginPlayerRequest requestId gate platform accountId areaId

/-- What comes at a point in the game. -/
def GameFits (x : ClusterPoint) : Act → Prop
  | .session (.activateEnter _ gate) => ServesLogin x gate
  | .session (.activateResume _ gate) => ServesLogin x gate
  | .session (.activateInsert _ gate) => ServesLogin x gate
  | .session (.detachFrom p gate) => ∃ message, x = ⟨false, .serving message⟩ ∧
      message.payload = .playerDisconnected p gate
  | .ipc (.sendProcessPayload target (.loginPlayerResponse p code _)) =>
      (∀ message q, x.work = .accepted message q → target = message.source ∧ p = q ∧ code = .ok) ∧
        ∀ message, x.work = .serving message → target = message.source ∧ code ≠ .ok
  | .ipc (.sendProcessPayload _ _) => x = {}
  | _ => True

/-! ### From one work to the next -/

/-- The section with which a work ends, in gate `g`. -/
def Ends (g : UInt32) : Work → GateAct → Prop
  | .received (.loginPlayerResponse response), a => a = .pending (.takeLogin response.requestId)
  | .activating pending response, a => a = .session (.activate pending.gateSessionId pending.accountId
      response.playerId response.game)
  | .registering k r, a => ∃ accountId, a = .pending (.registerLogin r ⟨k, k, accountId⟩)
  | .closing c, a => a = .session (.removeByConnection c)
  | .leaving record, a => a = .sendProcessPayload record.game (.playerDisconnected record.playerId
      ((gateConfiguration g).gateSession record.gateSessionId))
  | .unrouting record, a => a = .routing (.unbindPlayer record.playerId record.gateSessionId)
  | .unnaming record, a => a = .account (.removeGet record.accountId
      ((gateConfiguration g).gateSession record.gateSessionId))
  | .deleting record, a => a = .account (.removeDelete record.accountId)
  | _, _ => True

variable {g : UInt32} {o : ClusterOp} {x : ClusterPoint} {a : GateAct} {r : a.Reply}

-- The equations are made here, once for the lemmas below.
attribute [local simp] gateNext GateFits in
/-- A work ends with its section only. -/
theorem ends_of_next (hfits : x.GateFits g o a) (hne : (x.gateNext a r).work ≠ x.work) :
    Ends g x.work a := by
  obtain ⟨l, w⟩ := x
  -- section by section: the fits name the point, and the point the work
  cases a with
  | connection b =>
      cases b with
      | acceptReadySocket | accept c => exact absurd rfl hne
      | markAnonymous c =>
          cases hfits
          exact trivial
      | markBound c =>
          obtain ⟨pending, response, h, -⟩ := hfits
          cases h
          exact trivial
      | closeEnter c =>
          rcases hfits with h | ⟨rfl, -⟩
          · cases h
            exact trivial
          · exact trivial
      | finalize c =>
          rcases hfits with h | rfl
          · cases h
            exact trivial
          · exact absurd rfl hne
      | send c message =>
          cases message with
          | kickNotification reason =>
              rcases hfits with h | rfl
              · cases h
                exact trivial
              · exact trivial
          | _ => exact absurd rfl hne
  | session b =>
      cases b with
      | openAnonymous k c =>
          cases hfits.2
          exact trivial
      | activate k accountId p game =>
          obtain ⟨pending, response, h, rfl, rfl, rfl, rfl⟩ := hfits
          cases h
          rfl
      | findByConnection c => exact absurd rfl hne
      | findByAccount accountId =>
          cases hfits.1
          exact trivial
      | removeByConnection c =>
          obtain rfl : w = .closing c := hfits
          rfl
      | snapshot k =>
          cases w with
          | received message =>
              cases message with
              | kickAccountSession _ _ _ => exact trivial
              | _ => exact hfits.elim
          | looked | kicking | free => exact trivial
          | _ => exact hfits.elim
  | routing b =>
      cases b with
      | bindPlayer p game k =>
          obtain ⟨pending, response, h, -, -⟩ := hfits
          cases h
          exact trivial
      | unbindPlayer p k =>
          obtain ⟨record, rfl, rfl, rfl⟩ := hfits
          rfl
  | account b =>
      cases b with
      | lookupAccount accountId =>
          cases hfits.1
          exact trivial
      | bindAccount accountId owner =>
          obtain ⟨pending, h, -, -⟩ := hfits
          cases h
          exact trivial
      | removeGet accountId owner =>
          obtain ⟨record, rfl, rfl, rfl⟩ := hfits
          rfl
      | removeDelete accountId =>
          obtain ⟨record, rfl, rfl⟩ := hfits
          rfl
  | pending b =>
      cases b with
      | registerLogin requestId pending =>
          obtain ⟨k, platform, accountId, h, -, rfl⟩ := hfits
          cases h
          exact ⟨accountId, rfl⟩
      | takeLogin requestId =>
          obtain ⟨response, h, rfl⟩ := hfits
          cases h
          rfl
      | _ => exact absurd rfl hne
  | sendProcessPayload target payload =>
      cases payload with
      | loginPlayerRequest requestId gate platform accountId areaId =>
          obtain ⟨-, k, h, -⟩ := hfits
          cases h
          exact trivial
      | kickAccountSession requestId accountId old new reason =>
          obtain ⟨owner, k, platform, h, -⟩ := hfits
          cases h
          exact trivial
      | playerDisconnected p gate =>
          obtain ⟨record, rfl, rfl, rfl, rfl⟩ := hfits
          rfl
      | forwardPlayerMessageRequest => exact absurd rfl hne

/-- The section with which a work begins, and what has been done before. -/
def Begins (x : ClusterPoint) (s : Σ a : GateAct, a.Reply) : Work → Prop
  | .activating pending response => x.work = .received (.loginPlayerResponse response) ∧
      response.code = .ok ∧ s = ⟨.pending (.takeLogin response.requestId), some pending⟩
  | .registering k requestId => x = ⟨true, .asking k⟩ ∧ ∃ target gate platform accountId areaId sent,
      s = ⟨.sendProcessPayload target (.loginPlayerRequest requestId gate platform accountId areaId),
        sent⟩ ∧ Result.ok sent = true
  | .closing c => (∃ result, s = ⟨.connection (.closeEnter c), result⟩ ∧ Result.ok result = true) ∨
      s = ⟨.connection (.finalize c), ()⟩
  | .leaving record => ∃ c, x.work = .closing c ∧ record.skipped = false ∧
      s = ⟨.session (.removeByConnection c), some record⟩
  | .unrouting record => x.work = .leaving record
  | .unnaming record => x.work = .unrouting record
  | .deleting record => x.work = .unnaming record
  | .received _ => False
  | _ => True

/-- A work begins with its section only. -/
theorem begins_of_next (hfits : x.GateFits g o a) (hne : (x.gateNext a r).work ≠ x.work) :
    Begins x ⟨a, r⟩ (x.gateNext a r).work := by
  obtain ⟨l, w⟩ := x
  -- section by section, by the answer where it decides
  cases a with
  | connection b =>
      cases b with
      | acceptReadySocket | accept c => exact absurd rfl hne
      | markAnonymous c =>
          cases hfits
          cases hok : Result.ok r <;> simp only [gateNext, hok] at hne ⊢
          · exact trivial
          · exact absurd rfl hne
      | markBound c =>
          obtain ⟨pending, response, h, -⟩ := hfits
          cases h
          exact trivial
      | closeEnter c =>
          cases hok : Result.ok r <;> simp only [gateNext, hok]
          · exact trivial
          · exact .inl ⟨r, rfl, hok⟩
      | finalize c => exact .inr rfl
      | send c message =>
          cases message with
          | kickNotification reason =>
              cases hok : Result.ok r <;> simp only [gateNext, hok] at hne ⊢
              · exact trivial
              · exact absurd rfl hne
          | _ => exact absurd rfl hne
  | session b =>
      cases b with
      | openAnonymous k c =>
          cases hok : Result.ok r <;> simp only [gateNext, hok] at hne ⊢
          · exact trivial
          · exact absurd rfl hne
      | activate k accountId p game =>
          obtain ⟨pending, response, h, -⟩ := hfits
          cases h
          exact trivial
      | findByConnection c => exact absurd rfl hne
      | findByAccount accountId =>
          cases r with
          | none => exact trivial
          | some record => exact trivial
      | removeByConnection c =>
          obtain rfl : w = .closing c := hfits
          cases r with
          | none => exact trivial
          | some record =>
              simp only [gateNext]
              split
              · exact trivial
              · rename_i hskipped
                exact ⟨c, rfl, by simpa using hskipped, rfl⟩
      | snapshot k =>
          cases w with
          | received message =>
              cases message with
              | kickAccountSession accountId _ _ =>
                  simp only [gateNext, snapshotNext]
                  split
                  · split <;> exact trivial
                  · exact trivial
              | _ => exact hfits.elim
          | looked owner =>
              simp only [gateNext, snapshotNext]
              split <;> exact trivial
          | kicking c =>
              obtain ⟨rfl, -⟩ := hfits
              exact trivial
          | free =>
              cases l with
              | true => exact trivial
              | false => exact absurd rfl hne
          | _ => exact hfits.elim
  | routing b =>
      cases b with
      | bindPlayer p game k =>
          obtain ⟨pending, response, h, -, -⟩ := hfits
          cases h
          exact trivial
      | unbindPlayer p k =>
          obtain ⟨record, rfl, rfl, rfl⟩ := hfits
          rfl
  | account b =>
      cases b with
      | lookupAccount accountId => exact trivial
      | bindAccount accountId owner => exact trivial
      | removeGet accountId owner =>
          obtain ⟨record, rfl, rfl, rfl⟩ := hfits
          cases r with
          | done result => exact trivial
          | delete => rfl
      | removeDelete accountId => exact trivial
  | pending b =>
      cases b with
      | registerLogin requestId pending => exact trivial
      | takeLogin requestId =>
          obtain ⟨response, h, rfl⟩ := hfits
          cases h
          cases r with
          | none => exact trivial
          | some pending =>
              simp only [gateNext]
              split
              · rename_i hcode
                exact ⟨rfl, hcode, rfl⟩
              · exact trivial
      | _ => exact absurd rfl hne
  | sendProcessPayload target payload =>
      cases payload with
      | loginPlayerRequest requestId gate platform accountId areaId =>
          obtain ⟨-, k, h, -⟩ := hfits
          cases h
          cases hok : Result.ok r <;> simp only [gateNext, hok]
          · exact trivial
          · exact ⟨rfl, target, gate, platform, accountId, areaId, r, rfl, hok⟩
      | kickAccountSession requestId accountId old new reason =>
          cases hok : Result.ok r <;> simp only [gateNext, hok] <;> exact trivial
      | playerDisconnected p gate =>
          obtain ⟨record, rfl, -⟩ := hfits
          cases hok : Result.ok r <;> simp only [gateNext, hok]
          · exact trivial
          · rfl
      | forwardPlayerMessageRequest => exact absurd rfl hne

end ClusterPoint

/-! ## The protocol -/

section Protocols

variable (T : Type)

/-- The protocol of a gate's programs. -/
def gateProtocol : Protocol (ClusterThread T) ClusterOp GateAct GateAct.Reply ClusterPoint where
  fits t o x a := x.GateFits t.gateId o a
  next _ x a r := x.gateNext a r
  rest _ x := x = {}

/-- The protocol of the game's programs: a request may be left without an answer. -/
def gameProtocol : Protocol (ClusterThread T) ClusterOp Act Act.Reply ClusterPoint where
  fits _ _ x a := x.GameFits a
  next _ x a r := x.gameNext a r
  rest _ x := x = {} ∨ ∃ message, x = ⟨false, .serving message⟩

/-- The protocol of the cluster. -/
def clusterProtocol : Protocol (ClusterThread T) ClusterOp ClusterAct ClusterAct.Reply ClusterPoint where
  fits t o x
    | .gate a => x.GateFits t.gateId o a
    | .game a => x.GameFits a
    | .gateReceive => x = {}
    | .gameReceive => x = {} ∨ ∃ message, x = ⟨false, .serving message⟩
    | .restart _ => True
  next _ x a r := x.next a r
  rest t x := x = {} ∨ ∃ u message, t = .game u ∧ x = ⟨false, .serving message⟩

end Protocols

/-! ## The programs of a gate -/

section Gate

variable {T : Type} {t : ClusterThread T} {o : ClusterOp} {x : ClusterPoint} {c : ConnectionId}
  {k : GateSessionId} {platform accountId : String} {α : Type}

/-- The program `p` leads from one point to another. -/
abbrev Leads (t : ClusterThread T) (o : ClusterOp) (x : ClusterPoint) (p : GateCall α)
    (Q : α → ClusterPoint → Prop) : Prop :=
  (gateProtocol T).Follows t o Q p x

/-- A program that gives up when a step of it fails: then it is over, and goes on from `y` otherwise. -/
def Tried (Y : ClusterPoint → Prop) (result : Result) (y : ClusterPoint) : Prop :=
  result.ok = true ∧ Y y ∨ result.ok = false ∧ y = {}

theorem tried_of_next {x : ClusterPoint} {result : Result} :
    Tried (· = x) result (if result.ok then x else {}) := by
  cases hok : result.ok with
  | true => exact .inl ⟨hok, rfl⟩
  | false => exact .inr ⟨hok, rfl⟩

/-- What comes behind the check of a result. -/
theorem leads_of_tried {Y : ClusterPoint → Prop} {result : Result} {next : GateCall Result}
    {Q : Result → ClusterPoint → Prop} (h : Tried Y result x) (hgiven : ∀ r, r.ok = false → Q r {})
    (hnext : ∀ y, Y y → Leads t o y next Q) :
    Leads t o x (if !result.ok then Prog.ret result else next) Q := by
  rcases h with ⟨hok, hy⟩ | ⟨hok, rfl⟩
  · rw [if_neg (by simp [hok])]
    exact hnext x hy
  · rw [if_pos (by simp [hok])]
    exact hgiven result hok

theorem removeAccountIfMatches_leads {record : GateSessionRecord} {l : Bool} :
    Leads t o ⟨l, .unnaming record⟩ (removeAccountIfMatches record.accountId
      ((gateConfiguration t.gateId).gateSession record.gateSessionId)) fun _ y => y = ⟨l, .free⟩ := by
  unfold removeAccountIfMatches
  refine Protocol.follows_seq ⟨record, rfl, rfl, rfl⟩ fun decision => ?_
  cases decision with
  | done result => exact Protocol.follows_ret rfl
  | delete => exact ⟨⟨record, rfl, rfl⟩, fun _ => rfl⟩

theorem handleSessionDisconnected_leads {record : GateSessionRecord} {l : Bool} :
    Leads t o (if record.skipped then ⟨l, .free⟩ else ⟨l, .leaving record⟩)
      (handleSessionDisconnected (gateConfiguration t.gateId) record) fun _ y => y = ⟨l, .free⟩ := by
  unfold handleSessionDisconnected
  by_cases hskipped : record.skipped = true
  · rw [if_pos hskipped, if_pos (GateSessionRecord.skipped_iff.mp hskipped)]
    exact Protocol.follows_ret rfl
  · rw [if_neg hskipped, if_neg (fun h => hskipped (GateSessionRecord.skipped_iff.mpr h))]
    refine Protocol.follows_seq ⟨record, rfl, rfl, rfl, rfl⟩ fun send => ?_
    cases hok : Result.ok send with
    | false =>
        simp only [gateProtocol, ClusterPoint.gateNext, hok]
        exact Protocol.follows_ret rfl
    | true =>
        simp only [gateProtocol, ClusterPoint.gateNext, hok]
        refine Protocol.follows_seq ⟨record, rfl, rfl, rfl⟩ fun _ => ?_
        exact Protocol.Follows.bind (removeAccountIfMatches_leads.mono fun _ _ h => h)

theorem disconnectHandler_leads {l : Bool} :
    Leads t o ⟨l, .closing c⟩ (disconnectHandler (gateConfiguration t.gateId) c)
      fun _ y => y = ⟨l, .free⟩ := by
  unfold disconnectHandler
  refine Protocol.follows_seq rfl fun removed => ?_
  cases removed with
  | none => exact Protocol.follows_ret rfl
  | some removed => exact Protocol.Follows.bind (handleSessionDisconnected_leads.mono fun _ _ h => h)

theorem finalizeConnection_leads (hx : x = {} ∨ x.work = .closing c) :
    Leads t o x (finalizeConnection (gateConfiguration t.gateId) c) fun _ y => y = x.freed := by
  unfold finalizeConnection
  exact Protocol.follows_seq hx fun _ => disconnectHandler_leads

/-- The connection that a handler may close at a point. -/
def Closes (o : ClusterOp) (x : ClusterPoint) (c : ConnectionId) : Prop :=
  x = {} ∨ x.work = .kicking c ∧ (x.login = true → ∀ k platform accountId,
    o.asks = some (k, platform, accountId) → c ≠ k)

theorem closeConnection_leads (hx : Closes o x c) :
    Leads t o x (closeConnection (gateConfiguration t.gateId) c) (Tried (· = x.freed)) := by
  unfold closeConnection
  refine Protocol.follows_seq hx fun enter => ?_
  cases hok : Result.ok enter with
  | false =>
      simp only [gateProtocol, ClusterPoint.gateNext, hok]
      exact Protocol.follows_ret (.inr ⟨hok, rfl⟩)
  | true =>
      simp only [gateProtocol, ClusterPoint.gateNext, hok]
      exact Protocol.Follows.bind ((finalizeConnection_leads (.inr rfl)).mono
        fun _ y hy => .inl ⟨rfl, hy⟩)

theorem kickConnection_leads {reason : String} (hx : Closes o x c) :
    Leads t o x (kickConnection (gateConfiguration t.gateId) c reason) (Tried (· = x.freed)) := by
  unfold kickConnection
  refine Protocol.follows_seq (hx.imp_right And.left) fun send => ?_
  exact leads_of_tried (x := (x.gateNext (.connection (.send c (.kickNotification reason))) send))
    tried_of_next (fun r hr => .inr ⟨hr, rfl⟩) fun y hy => by
      subst hy
      exact closeConnection_leads hx

/-! ### Logging in -/

/-- A login goes on: what it has found is closed, or its own connection. -/
def GoesOn (k : GateSessionId) (y : ClusterPoint) : Prop :=
  y = ⟨true, .free⟩ ∨ y = ⟨true, .kicking k⟩

theorem kickExisting_leads {existing : Option GateSessionRecord}
    (ho : o.asks = some (k, platform, accountId)) :
    Leads t o (match existing with
      | some record => ⟨true, .kicking record.connectionId⟩
      | none => ⟨true, .free⟩)
      (kickExisting (gateConfiguration t.gateId) existing k) (Tried (GoesOn k)) := by
  cases existing with
  | none => exact Protocol.follows_ret (.inl ⟨rfl, .inl rfl⟩)
  | some record =>
      show Leads t o ⟨true, .kicking record.connectionId⟩
        (if record.connectionId = k then Prog.ret Result.success else _) _
      split
      · rename_i hsame
        exact Protocol.follows_ret (.inl ⟨rfl, .inr (by rw [hsame])⟩)
      · rename_i hne
        refine (kickConnection_leads (.inr ⟨rfl, fun _ k' p a ha => ?_⟩)).mono fun r y hy => ?_
        · rw [ho, Option.some.injEq, Prod.mk.injEq] at ha
          rw [← ha.1]
          exact hne
        · exact hy.imp_left fun h => ⟨h.1, .inl h.2⟩

theorem kickExistingAccountSession_leads (haccount : accountId ≠ "")
    (ho : o.asks = some (k, platform, accountId)) :
    Leads t o {} (kickExistingAccountSession (gateConfiguration t.gateId) accountId k)
      (Tried (GoesOn k)) := by
  unfold kickExistingAccountSession
  refine Protocol.follows_seq ⟨rfl, haccount, k, platform, ho⟩ fun owner => ?_
  cases owner with
  | none =>
      refine Protocol.follows_seq ⟨rfl, k, platform, ho⟩ fun existing => ?_
      cases existing <;> exact kickExisting_leads ho
  | some owner =>
      show Leads t o ⟨true, .looked (some owner)⟩ (if owner.instanceId = t.gateId then _ else _) _
      split
      · rename_i hown
        refine Protocol.follows_seq ⟨owner, rfl, hown, rfl⟩ fun existing => ?_
        cases existing <;> exact kickExisting_leads ho
      · rename_i hremote
        refine Protocol.follows_seq trivial fun requestId => ?_
        refine Protocol.follows_seq ⟨owner, k, platform, rfl, hremote, rfl, rfl, ho⟩ fun send => ?_
        exact leads_of_tried (Y := GoesOn k) (x := if Result.ok send then ⟨true, .free⟩ else {})
          (tried_of_next.imp_left fun h => ⟨h.1, .inl h.2⟩) (fun r hr => .inr ⟨hr, rfl⟩)
          fun y hy => Protocol.follows_ret (.inl ⟨rfl, hy⟩)

theorem openSession_leads (hx : GoesOn k x) (ho : o.asks = some (k, platform, accountId)) :
    Leads t o x (openSession k k) (Tried (· = ⟨true, .asking k⟩)) := by
  unfold openSession
  have hfits : x.GateFits t.gateId o (.session (.snapshot k)) := by
    rcases hx with rfl | rfl
    · exact fun _ => ⟨platform, accountId, ho⟩
    · exact ⟨rfl, rfl, platform, accountId, ho⟩
  have hnext : ∀ session, x.gateNext (.session (.snapshot k)) session = ⟨true, .asking k⟩ := by
    rcases hx with rfl | rfl <;> exact fun _ => rfl
  refine Protocol.follows_seq hfits fun session => ?_
  show Leads t o (x.gateNext (.session (.snapshot k)) session) (if session.isSome then Prog.ret _ else
    gateCall (.session (.openAnonymous k k))) _
  rw [hnext]
  split
  · exact Protocol.follows_ret (.inl ⟨rfl, rfl⟩)
  · exact ⟨⟨rfl, rfl⟩, fun result => tried_of_next⟩

theorem requestLogin_leads (ho : o.asks = some (k, platform, accountId)) :
    Leads t o ⟨true, .asking k⟩
      (requestLogin (gateConfiguration t.gateId) 1 k k platform accountId 1) fun _ y => y = {} := by
  unfold requestLogin
  refine Protocol.follows_seq trivial fun requestId => ?_
  refine Protocol.follows_seq ⟨rfl, k, rfl, ho, rfl⟩ fun send => ?_
  refine leads_of_tried (x := if Result.ok send then ⟨true, .registering k requestId⟩ else {})
    tried_of_next (fun _ _ => rfl) fun y hy => ?_
  subst hy
  exact Protocol.follows_seq ⟨k, platform, accountId, rfl, ho, rfl⟩ fun _ => Protocol.follows_ret rfl

theorem handleClientLogin_leads {credential : String} (ho : o.asks = some (k, platform, accountId)) :
    Leads t o {} (handleClientLogin (gateConfiguration t.gateId) k platform accountId credential)
      fun _ y => y = {} := by
  unfold handleClientLogin
  cases hvalid : validate platform accountId credential with
  | some message => exact ⟨trivial, fun _ => rfl⟩
  | none =>
      have haccount : accountId ≠ "" := by
        rintro rfl
        unfold validate at hvalid
        split at hvalid <;> cases hvalid
      refine Protocol.Follows.bind ((kickExistingAccountSession_leads haccount ho).mono fun kick y hy => ?_)
      refine leads_of_tried hy (fun _ _ => rfl) fun y hy => ?_
      refine Protocol.Follows.bind ((openSession_leads hy ho).mono fun opened y hy => ?_)
      refine leads_of_tried hy (fun _ _ => rfl) fun y hy => ?_
      subst hy
      refine Protocol.follows_seq rfl fun anonymous => ?_
      exact leads_of_tried (x := if Result.ok anonymous then ⟨true, .asking k⟩ else {}) tried_of_next
        (fun _ _ => rfl) fun y hy => hy ▸ requestLogin_leads ho

theorem acceptLogin_leads {pending : PendingLogin} {response : LoginPlayerResponse} :
    Leads t o ⟨false, .activating pending response⟩
      (acceptLogin (gateConfiguration t.gateId) pending response) fun _ y => y = {} := by
  unfold acceptLogin
  refine Protocol.follows_seq ⟨pending, response, rfl, rfl, rfl, rfl, rfl⟩ fun _ => ?_
  refine Protocol.follows_seq ⟨pending, response, rfl, rfl, rfl⟩ fun _ => ?_
  refine Protocol.follows_seq ⟨pending, response, rfl, rfl⟩ fun _ => ?_
  exact Protocol.follows_seq ⟨pending, rfl, rfl, rfl⟩ fun _ => Protocol.follows_ret rfl

theorem handleLoginResponse_leads {response : LoginPlayerResponse} :
    Leads t o ⟨false, .received (.loginPlayerResponse response)⟩
      (handleLoginResponse (gateConfiguration t.gateId) response) fun _ y => y = {} := by
  have hanswer : ∀ pending, Leads t o {} (answerClient pending response) fun _ y => y = {} :=
    fun _ => ⟨trivial, fun _ => rfl⟩
  unfold handleLoginResponse
  refine Protocol.follows_seq ⟨response, rfl, rfl⟩ fun pending => ?_
  cases pending with
  | none => exact Protocol.follows_ret rfl
  | some pending =>
      show Leads t o (if response.code = .ok then _ else _) (if response.code = .ok then _ else _) _
      split
      · exact Protocol.Follows.bind (acceptLogin_leads.mono fun _ y hy => hy ▸ hanswer pending)
      · exact hanswer pending

/-! ### Being told to close -/

theorem handleKickAccountSession_leads {reason : String} :
    Leads t o ⟨false, .received (.kickAccountSession accountId k reason)⟩
      (handleKickAccountSession (gateConfiguration t.gateId) accountId k reason) fun _ y => y = {} := by
  unfold handleKickAccountSession
  refine Protocol.follows_seq rfl fun session => ?_
  cases session with
  | none => exact Protocol.follows_ret rfl
  | some session =>
      show Leads t o (if session.accountId = accountId then ⟨false, .kicking session.connectionId⟩ else {})
        (if session.accountId ≠ accountId then Prog.ret Result.success else _) _
      by_cases hsame : session.accountId = accountId
      · rw [if_pos hsame, if_neg (not_not.mpr hsame)]
        refine (kickConnection_leads (.inr ⟨rfl, fun h => by cases h⟩)).mono fun r y hy => ?_
        exact hy.elim And.right And.right
      · rw [if_neg hsame, if_pos hsame]
        exact Protocol.follows_ret rfl

theorem handleUnbindPlayerSession_leads {p : PlayerId} :
    Leads t o {} (handleUnbindPlayerSession (gateConfiguration t.gateId) p k) fun _ y => y = {} := by
  unfold handleUnbindPlayerSession
  refine Protocol.follows_seq (fun h => by cases h) fun session => ?_
  cases session with
  | none => exact Protocol.follows_ret rfl
  | some session =>
      show Leads t o {} (if session.playerId ≠ p then Prog.ret Result.success else _) _
      split
      · exact Protocol.follows_ret rfl
      refine Protocol.follows_seq (.inl rfl) fun send => ?_
      refine leads_of_tried (x := if Result.ok send then {} else {}) tried_of_next (fun _ _ => rfl)
        fun y hy => ?_
      subst hy
      refine Protocol.Follows.bind ((closeConnection_leads (.inl rfl)).mono fun close y hy => ?_)
      have hfree : y = {} := hy.elim And.right And.right
      subst hfree
      show Leads t o {} (if _ then Prog.ret close else Prog.ret _) _
      split <;> exact Protocol.follows_ret rfl

/-! ### The operations of a gate -/

/-- The operations that handle a message, which a reader has to take from the inbox first. -/
def GateOp.delivered : GateOp → Bool
  | .loginResponse _ => true
  | .kickAccountSession _ _ _ => true
  | .unbindPlayerSession _ _ => true
  | .messageResponse _ _ _ => true
  | _ => false

theorem handleClientPlayerMessage_leads (command : PlayerCommand) :
    Leads t o {} (handleClientPlayerMessage c command) fun _ y => y = {} := by
  unfold handleClientPlayerMessage
  refine Protocol.follows_seq trivial fun session => ?_
  cases session with
  | none => exact Protocol.follows_ret rfl
  | some session =>
      show Leads t o {} (if session.state ≠ .active ∨ session.playerId = 0 then Prog.ret _ else _) _
      split
      · exact Protocol.follows_ret rfl
      refine Protocol.follows_seq trivial fun requestId => ?_
      refine Protocol.follows_seq trivial fun send => ?_
      show Leads t o {} (if !Result.ok send then Prog.ret send else _) _
      split
      · exact Protocol.follows_ret rfl
      · exact Protocol.follows_seq trivial fun _ => Protocol.follows_ret rfl

theorem handleForwardPlayerMessageResponse_leads (requestId : RequestId) (code : ResultCode)
    (errorMessage : String) :
    Leads t o {} (handleForwardPlayerMessageResponse requestId code errorMessage) fun _ y => y = {} := by
  unfold handleForwardPlayerMessageResponse
  refine Protocol.follows_seq trivial fun pending => ?_
  cases pending with
  | none => exact Protocol.follows_ret rfl
  | some pending => exact ⟨trivial, fun _ => rfl⟩

theorem gateOp_leads (op : GateOp) (hop : op.delivered = false) :
    Leads t (.gate op) {} (op.code (gateConfiguration t.gateId)) fun _ y => y = {} := by
  cases op with
  | acceptReadySocket => exact Protocol.follows_seq trivial fun _ => Protocol.follows_ret rfl
  | endOfStream c => exact Protocol.Follows.bind ((finalizeConnection_leads (.inl rfl)).mono fun _ _ h => h)
  | clientLogin k platform accountId credential => exact handleClientLogin_leads rfl
  | clientMessage c command => exact handleClientPlayerMessage_leads command
  | accept c => exact ⟨trivial, fun _ => rfl⟩
  | close c => exact (closeConnection_leads (.inl rfl)).mono fun _ _ h => h.elim And.right And.right
  | loginResponse | kickAccountSession | unbindPlayerSession | messageResponse => cases hop

/-- The handler of a message that has been taken. -/
theorem message_leads (message : GateMessage) :
    Leads t o (ClusterPoint.next {} .gateReceive message)
      (message.op.code (gateConfiguration t.gateId)) fun _ y => y = {} := by
  cases message with
  | loginPlayerResponse response => exact handleLoginResponse_leads
  | kickAccountSession accountId k reason => exact handleKickAccountSession_leads
  | unbindPlayerSession p k => exact handleUnbindPlayerSession_leads
  | forwardPlayerMessageResponse requestId code errorMessage =>
      exact handleForwardPlayerMessageResponse_leads requestId code errorMessage

end Gate

/-! ## The programs of the game -/

section Game

variable {T : Type} {t : ClusterThread T} {o : ClusterOp} {x : ClusterPoint} {α : Type}
  {cfg : GameConfiguration} {p : PlayerId} {gate : GateSession}

/-- A section that fits at a point and does not lead away from it. -/
def Steady (x : ClusterPoint) (a : Act) : Prop := x.GameFits a ∧ ∀ r, x.gameNext a r = x

/-- The program `p` leads from one point to another. -/
abbrev GameLeads (t : ClusterThread T) (o : ClusterOp) (x : ClusterPoint) (p : Call α)
    (Q : α → ClusterPoint → Prop) : Prop :=
  (gameProtocol T).Follows t o Q p x

theorem steady_seq {a : Act} {k : a.Reply → Call α} {Q : α → ClusterPoint → Prop} (ha : Steady x a)
    (hk : ∀ r, GameLeads t o x (k r) Q) : GameLeads t o x (call a >>= k) Q := by
  refine Protocol.follows_seq ha.1 fun r => ?_
  show GameLeads t o (x.gameNext a r) (k r) Q
  rw [ha.2]
  exact hk r

theorem steady_all {p : Call α} (hp : p.All (Steady x)) : GameLeads t o x p fun _ y => y = x :=
  Protocol.follows_of_all hp

/-- The operations that give a player to a gate session, or take it away from one. -/
def Op.attaches : Op → Bool
  | .login _ _ _ _ _ => true
  | .reconnect _ _ _ => true
  | .disconnected _ _ => true
  | .activate _ _ _ => true
  | _ => false

theorem steady_of_silent {a : Act} (ha : a.silent = true) : Steady {} a := by
  cases a with
  | session b => cases b <;> first | exact ⟨trivial, fun _ => rfl⟩ | cases ha
  | ipc b =>
      cases b with
      | sendProcessPayload target payload =>
          cases payload with
          | loginPlayerResponse p code errorMessage =>
              exact ⟨⟨fun _ _ h => (by cases h), fun _ h => by cases h⟩, fun _ => rfl⟩
          | _ => exact ⟨rfl, fun _ => rfl⟩
      | _ => exact ⟨trivial, fun _ => rfl⟩
  | _ => exact ⟨trivial, fun _ => rfl⟩

theorem flushPlayer_steady (x : ClusterPoint) (p : PlayerId) : (flushPlayer p).All (Steady x) :=
  flushPlayer_sections ⟨trivial, fun _ => rfl⟩ ⟨trivial, fun _ => rfl⟩ (fun _ => ⟨trivial, fun _ => rfl⟩)
    (fun _ => ⟨trivial, fun _ => rfl⟩) fun _ => ⟨trivial, fun _ => rfl⟩

theorem releasePlayer_steady (p : PlayerId) : (releasePlayer p).All (Steady x) := by
  have hunload : (unloadPlayer p).All (Steady x) :=
    unloadPlayer_sections ⟨trivial, fun _ => rfl⟩ ⟨trivial, fun _ => rfl⟩ ⟨trivial, fun _ => rfl⟩
      ⟨trivial, fun _ => rfl⟩ ⟨trivial, fun _ => rfl⟩
  refine all_seq ⟨trivial, fun _ => rfl⟩ fun previous => ?_
  split
  · exact all_pure
  · refine all_seq ⟨trivial, fun _ => rfl⟩ fun repository => ?_
    split
    · exact hunload
    · refine (flushPlayer_steady x p).bind fun flush => ?_
      split
      · exact all_seq ⟨trivial, fun _ => rfl⟩ fun _ => all_pure
      · exact hunload

theorem reconcileAll_steady (now : UInt64) (lost : List LostPlayerAction) :
    ∀ reconciled, (reconcileAll now lost reconciled).All (Steady {}) := by
  induction lost with
  | nil => exact fun _ => all_pure
  | cons action rest ih =>
      intro reconciled
      refine Prog.All.bind ?_ fun counted => ih _
      have hunbound : (reconcileUnbound action now).All (Steady {}) :=
        all_seq ⟨trivial, fun _ => rfl⟩ fun _ => all_call ⟨trivial, fun _ => rfl⟩
      unfold reconcilePlayer
      split
      · exact all_seq ⟨rfl, fun _ => rfl⟩ fun _ => hunbound
      · exact hunbound

/-- An operation that concerns no gate session. -/
theorem op_steady (fuel : Nat) {op : Op} (hop : op.attaches = false) :
    (op.code cfg fuel).All (Steady {}) := by
  have hdirectory : ∀ a : DirectoryAct, Steady {} (.directory a) := fun _ => ⟨trivial, fun _ => rfl⟩
  have hlease : ∀ a : LeaseAct, Steady {} (.lease a) := fun _ => ⟨trivial, fun _ => rfl⟩
  have hsilent : ∀ {op : Op}, op.silent = true → (op.code cfg fuel).All (Steady {}) := fun h =>
    Op.code_silent Prog.compositional_all (fun a ha _ => all_call (steady_of_silent ha))
      (flushPlayer_steady {}) cfg fuel h
  cases op with
  | login | reconnect | disconnected | activate => cases hop
  | resolve platform accountId areaId => exact (resolveOrCreate_all hdirectory fuel _).bind fun _ => all_pure
  | lookup platform accountId areaId => exact (lookup_all hdirectory _).bind fun _ => all_pure
  | renew order => exact (renewLeases_all hlease order).bind fun _ => all_pure
  | detach p => exact all_seq ⟨trivial, fun _ => rfl⟩ fun _ => all_pure
  | release p => exact (releasePlayer_steady p).bind fun _ => all_pure
  | expire order =>
      refine Prog.All.bind ?_ fun _ => all_pure
      exact all_seq ⟨trivial, fun _ => rfl⟩ fun now => all_seq ⟨trivial, fun _ => rfl⟩ fun expired =>
        releaseAll_parts Prog.compositional_all releasePlayer_steady expired 0
  | reconcile order =>
      refine Prog.All.bind ?_ fun _ => all_pure
      exact all_seq ⟨trivial, fun _ => rfl⟩ fun lost => all_seq ⟨trivial, fun _ => rfl⟩ fun now =>
        reconcileAll_steady now lost 0
  | acquireLease p => exact all_seq ⟨trivial, fun _ => rfl⟩ fun _ => all_pure
  | releaseLease p => exact all_seq ⟨trivial, fun _ => rfl⟩ fun _ => all_pure
  | forward | flushDue | flush | touchLogin | setDisplayName | bindRemote => exact hsilent rfl

/-! ### A login -/

section Login

variable {message : GameMessage} (hlogin : ClusterPoint.ServesLogin ⟨false, .serving message⟩ gate)
include hlogin

/-- The game has accepted the player, or the activation has failed. -/
def Attempted (message : GameMessage) (p : PlayerId) (result : Result) (y : ClusterPoint) : Prop :=
  result.ok = true ∧ y = ⟨false, .accepted message p⟩ ∨ result.ok = false ∧ y = ⟨false, .serving message⟩

omit hlogin in
theorem loadPlayer_steady (allow : Bool) : (loadPlayer cfg p allow).All (Steady x) := by
  unfold loadPlayer
  split
  · exact all_pure
  · refine all_seq ⟨trivial, fun _ => rfl⟩ fun _ => ?_
    exact (datasetGet_all (fun _ => ⟨trivial, fun _ => rfl⟩) p).bind fun _ =>
      all_call ⟨trivial, fun _ => rfl⟩

omit hlogin in
theorem loadIfAbsent_steady (allow : Bool) : (loadIfAbsent cfg p allow).All (Steady x) := by
  refine all_seq ⟨trivial, fun _ => rfl⟩ fun repository => ?_
  split
  · exact all_pure
  · exact loadPlayer_steady allow

omit hlogin in
theorem ensurePlayer_steady : (ensurePlayer p).All (Steady x) := by
  refine all_seq ⟨trivial, fun _ => rfl⟩ fun repository => ?_
  split
  · exact all_pure
  · exact all_seq ⟨trivial, fun _ => rfl⟩ fun _ => all_pure

omit hlogin in
theorem Attempted.failed {result : Result} (h : (!result.ok) = true) :
    Attempted message p result ⟨false, .serving message⟩ := .inr ⟨by simpa using h, rfl⟩

theorem resumePlayer_leads (allow : Bool) :
    GameLeads t o ⟨false, .serving message⟩ (resumePlayer cfg p gate allow) (Attempted message p) := by
  unfold resumePlayer
  refine Protocol.Follows.bind ((steady_all (loadIfAbsent_steady allow)).mono fun load y hy => ?_)
  subst hy
  split
  · rename_i hload
    exact steady_seq ⟨trivial, fun _ => rfl⟩ fun _ => Protocol.follows_ret (.failed hload)
  refine steady_seq ⟨trivial, fun _ => rfl⟩ fun bind => ?_
  split
  · rename_i hbind
    unfold bindFailed at hbind
    simp only [Bool.and_eq_true] at hbind
    exact steady_seq ⟨trivial, fun _ => rfl⟩ fun _ => Protocol.follows_ret (.failed hbind.1)
  refine Protocol.Follows.bind ((steady_all ensurePlayer_steady).mono fun ensure y hy => ?_)
  subst hy
  split
  · rename_i hensure
    exact steady_seq ⟨trivial, fun _ => rfl⟩ fun _ => steady_seq ⟨trivial, fun _ => rfl⟩ fun _ =>
      Protocol.follows_ret (.failed hensure)
  · refine ⟨hlogin, fun result => ?_⟩
    show Attempted message p result (if Result.ok result then _ else _)
    cases hok : Result.ok result with
    | true => exact .inl ⟨hok, rfl⟩
    | false => exact .inr ⟨hok, rfl⟩

theorem admitPlayer_leads (allow : Bool) :
    GameLeads t o ⟨false, .serving message⟩ (admitPlayer cfg p gate allow) (Attempted message p) := by
  unfold admitPlayer
  refine Protocol.Follows.bind ((steady_all (loadPlayer_steady allow)).mono fun load y hy => ?_)
  subst hy
  split
  · rename_i hload
    exact steady_seq ⟨trivial, fun _ => rfl⟩ fun _ => Protocol.follows_ret (.failed hload)
  refine steady_seq ⟨trivial, fun _ => rfl⟩ fun bind => ?_
  split
  · rename_i hbind
    unfold bindFailed at hbind
    simp only [Bool.and_eq_true] at hbind
    exact steady_seq ⟨trivial, fun _ => rfl⟩ fun _ => steady_seq ⟨trivial, fun _ => rfl⟩ fun _ =>
      Protocol.follows_ret (.failed hbind.1)
  refine Protocol.Follows.bind ((steady_all ensurePlayer_steady).mono fun ensure y hy => ?_)
  subst hy
  split
  · rename_i hensure
    exact steady_seq ⟨trivial, fun _ => rfl⟩ fun _ => steady_seq ⟨trivial, fun _ => rfl⟩ fun _ =>
      steady_seq ⟨trivial, fun _ => rfl⟩ fun _ => Protocol.follows_ret (.failed hensure)
  · exact Protocol.follows_seq hlogin fun _ => Protocol.follows_ret (.inl ⟨rfl, rfl⟩)

theorem activatePlayer_leads (allow : Bool) :
    GameLeads t o ⟨false, .serving message⟩ (activatePlayer cfg p gate allow) (Attempted message p) := by
  unfold activatePlayer
  refine Protocol.follows_seq hlogin fun decision => ?_
  cases decision with
  | done result =>
      show Attempted message p result (if Result.ok result then _ else _)
      cases hok : Result.ok result with
      | true => exact .inl ⟨hok, rfl⟩
      | false => exact .inr ⟨hok, rfl⟩
  | proceed reuse =>
      refine steady_seq ⟨trivial, fun _ => rfl⟩ fun lease => ?_
      show GameLeads t o _ (if !Result.ok lease then Prog.ret lease else _) _
      split
      · rename_i hlease
        exact Protocol.follows_ret (.failed hlease)
      · cases reuse with
        | true => exact resumePlayer_leads hlogin allow
        | false => exact admitPlayer_leads hlogin allow

omit hlogin in
theorem toResultCode_ne_ok (result : Result) : toResultCode result ≠ .ok := by
  unfold toResultCode
  split <;> intro h <;> cases h

theorem answerLogin_leads (resolved : PlayerDirectoryResolveResult) :
    GameLeads t o ⟨false, .serving message⟩ (answerLogin cfg message.source gate resolved)
      fun _ y => y = {} := by
  unfold answerLogin
  refine Protocol.Follows.bind ((activatePlayer_leads hlogin resolved.created).mono
    fun activate y hy => ?_)
  have hresponse : y.GameFits (.ipc (.sendProcessPayload message.source
      (.loginPlayerResponse resolved.playerId (activateResponse activate).1
        (activateResponse activate).2))) := by
    unfold activateResponse
    rcases hy with ⟨hok, rfl⟩ | ⟨hok, rfl⟩
    · rw [if_neg (by simp [hok])]
      refine ⟨fun m q hm => ?_, fun m hm => by cases hm⟩
      cases hm
      exact ⟨rfl, rfl, rfl⟩
    · rw [if_pos (by simp [hok])]
      refine ⟨fun m q hm => (by cases hm), fun m hm => ?_⟩
      cases hm
      exact ⟨rfl, toResultCode_ne_ok activate⟩
  refine Protocol.follows_seq hresponse fun send => ?_
  show GameLeads t o {} (if !Result.ok send then Prog.ret _ else Prog.ret _) _
  split <;> exact Protocol.follows_ret rfl

theorem handleLoginRequest_leads (fuel : Nat) (key : String) :
    GameLeads t o ⟨false, .serving message⟩ (handleLoginRequest cfg fuel message.source key gate)
      fun _ y => y = {} ∨ y = ⟨false, .serving message⟩ := by
  unfold handleLoginRequest
  refine Protocol.Follows.bind ((steady_all (resolveOrCreate_all (fun _ => ⟨trivial, fun _ => rfl⟩) fuel
    key)).mono fun outcome y hy => ?_)
  subst hy
  split
  · exact Protocol.Follows.bind ((answerLogin_leads hlogin _).mono fun _ y hy => .inl hy)
  · exact Protocol.follows_ret (.inr rfl)
  · exact Protocol.follows_ret (.inr rfl)

end Login

/-- The handler of a message that the game has taken. -/
theorem gameMessage_leads (fuel : Nat) (message : GameMessage) {op : Op} (hop : message.op = some op) :
    GameLeads t o (ClusterPoint.next {} .gameReceive message) (op.code cfg fuel)
      fun _ y => y = {} ∨ y = ⟨false, .serving message⟩ := by
  obtain ⟨source, payload⟩ := message
  cases payload with
  | loginPlayerRequest requestId gate platform accountId areaId =>
      cases hop
      have hlogin : ClusterPoint.ServesLogin ⟨false, .serving
          ⟨source, .loginPlayerRequest requestId gate platform accountId areaId⟩⟩ gate :=
        ⟨_, requestId, platform, accountId, areaId, rfl, rfl⟩
      refine Protocol.Follows.bind ((handleLoginRequest_leads hlogin fuel _).mono fun sent y hy => ?_)
      cases sent <;> exact hy
  | playerDisconnected p gate =>
      cases hop
      refine Protocol.Follows.bind (Protocol.Follows.bind ?_)
      refine ⟨⟨_, rfl, rfl⟩, fun detach => ?_⟩
      show GameLeads t o _ (if _ then Prog.ret _ else Prog.ret _) _
      split <;> exact Protocol.follows_ret (.inr rfl)
  | forwardPlayerMessageRequest requestId gate p command =>
      cases hop
      exact (steady_all (op_steady fuel rfl)).mono fun _ y hy => .inl hy
  | kickAccountSession => cases hop

end Game

/-! ## Every program -/

section Code

variable {T : Type} {t : ClusterThread T} {o : ClusterOp} {x : ClusterPoint} {cfg : GameConfiguration}

/-- The operations that threads start by themselves: a message is handled by a reader that has taken it
from its inbox, and the game's reader does nothing else while it has a request without an answer. -/
def ClusterOp.Started (o : ClusterOp) (x : ClusterPoint) : Prop :=
  match o with
  | .gate op => op.delivered = false
  | .game op => op.attaches = false ∧ x = {}
  | _ => True

theorem code_follows (fuel : Nat) (hstart : o.Started x) (hrest : (clusterProtocol T).rest t x) :
    (clusterProtocol T).Follows t o (fun _ y => (clusterProtocol T).rest t y) (o.code cfg fuel t) x := by
  have hgate : ∀ {x : ClusterPoint} {p : GateCall Result},
      Leads t o x p (fun _ y => y = {}) →
        (clusterProtocol T).Follows t o (fun _ y => (clusterProtocol T).rest t y)
          ((p.lift gateActs : ClusterCall Result) >>= fun _ => Prog.ret ()) x := fun h =>
    Protocol.Follows.bind (Protocol.Follows.lift (fun _ _ hfits => hfits) (fun _ _ _ => rfl)
      (h.mono fun _ y hy => .inl hy))
  unfold ClusterOp.code
  -- a gate's call, a gate's reader, a game's call, the game's reader, and the two from outside
  split
  · rename_i g life u op
    obtain rfl : x = {} := hrest.elim id fun ⟨_, _, hu, _⟩ => by cases hu
    exact hgate (gateOp_leads op hstart)
  · rename_i g life u
    obtain rfl : x = {} := hrest.elim id fun ⟨_, _, hu, _⟩ => by cases hu
    exact Protocol.follows_seq rfl fun message => hgate (message_leads message)
  · rename_i u op
    obtain ⟨hop, rfl⟩ := hstart
    exact Protocol.Follows.bind (Protocol.Follows.lift (L := gameProtocol T) (fun _ _ hfits => hfits)
      (fun _ _ _ => rfl) ((steady_all (op_steady fuel hop)).mono fun _ y hy => .inl hy))
  · rename_i u
    refine Protocol.follows_seq (hrest.imp_right fun ⟨_, message, _, hx⟩ => ⟨message, hx⟩) fun message => ?_
    cases hop : GameMessage.op message with
    | none =>
        obtain ⟨source, payload⟩ := message
        cases payload with
        | kickAccountSession => exact .inl rfl
        | _ => cases hop
    | some op =>
        refine Protocol.Follows.bind (Protocol.Follows.lift (L := gameProtocol T) (fun _ _ hfits => hfits)
          (fun _ _ _ => rfl) ((gameMessage_leads fuel message hop).mono fun _ y hy => ?_))
        exact hy.imp_right fun h => ⟨u, message, rfl, h⟩
  · exact Protocol.follows_seq trivial fun _ => hrest
  · exact hrest

end Code

end SomeServer
