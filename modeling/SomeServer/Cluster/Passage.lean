/-
# SomeServer.Cluster.Passage — a gate session from its login to its close

A login passes through three tables of its gate and through the game, and a close takes back what it finds
of it. `Lively` is what is known of the connections and their sessions in between, and `Linked` of the
requests and responses; every section keeps both (`GateMove`, `GameMove`, `GateFetch`, `GameFetch`), as
long as numbers are new and sessions are opened for clients that are there (`Paced`).

The history (`PassageLog`) has what no process keeps: the points of the handlers, the sessions that login
requests were sent for, and what the game was told about the players that it has activated.
-/
import SomeServer.Cluster.Points
import SomeServer.Cluster.Steps
import SomeServer.Gate.Life
import SomeServer.Game.Sessions

namespace SomeServer

open Lib

/-! ## The history -/

/-- A player, and the gate session that the game has activated it for. -/
abbrev Stay := PlayerId × GateSession

/-- `requests` has the session for which a gate has sent a login request with this number; `owed` says that
the game has activated a player and has not been sent a `PlayerDisconnected` since, `told` how often it
has been sent one. -/
structure PassageLog (T : Type) where
  points : ClusterThread T → ClusterPoint := fun _ => {}
  requests : UInt32 × RequestId → Option GateSessionId := fun _ => none
  owed : Stay → Bool := fun _ => false
  told : Stay → Nat := fun _ => 0

/-- The player about whom a section of a gate tells the game. -/
def GateAct.tells : (a : GateAct) → a.Reply → Option Stay
  | .sendProcessPayload target (.playerDisconnected p gate), result =>
      if target = gameProcess ∧ Result.ok result = true then some (p, gate) else none
  | _, _ => none

/-- The request that a section of a gate sends. -/
def GateAct.loginRequest : GateAct → Option (RequestId × GateSessionId)
  | .sendProcessPayload _ (.loginPlayerRequest requestId gate _ _ _) => some (requestId, gate.sessionId)
  | _ => none

namespace PassageLog

variable {T : Type} [DecidableEq T]

/-- What a section of thread `t` adds to the history. -/
def record (t : ClusterThread T) (log : PassageLog T) (a : ClusterAct) (r : a.Reply) : PassageLog T :=
  let log := { log with points := Function.update log.points t ((log.points t).next a r) }
  match a, r with
  | .gate a, r =>
      { log with
        requests := a.loginRequest.elim log.requests fun x =>
          Function.update log.requests (t.gateId, x.1) (some x.2)
        owed := (a.tells r).elim log.owed fun x => Function.update log.owed x false
        told := (a.tells r).elim log.told fun x => Function.update log.told x (log.told x + 1) }
  | .game a, r =>
      { log with owed := (a.accepts r).elim log.owed fun x => Function.update log.owed x true }
  | _, _ => log

end PassageLog

/-! ## What is under way -/

abbrev Passage (T : Type) := Cluster T × PassageLog T

namespace Passage

variable {T : Type}

/-- A handler of gate `g` is at this work. -/
def At (s : Passage T) (g : UInt32) (w : Work) : Prop :=
  ∃ life u, (s.2.points (.gate g life u)).work = w

/-- A handler is about to take back the route of a removed session. -/
def Unroutes (s : Passage T) (g : UInt32) (record : GateSessionRecord) : Prop :=
  s.At g (.leaving record) ∨ s.At g (.unrouting record)

/-- A handler is about to take back the directory entry of a removed session. -/
def Unnames (s : Passage T) (g : UInt32) (record : GateSessionRecord) : Prop :=
  s.Unroutes g record ∨ s.At g (.unnaming record) ∨ s.At g (.deleting record)

/-- The session is over for good. -/
def Gone (s : Passage T) (g : UInt32) (k : GateSessionId) : Prop :=
  (s.1.gates g).sessions.get k = none ∧ (s.1.gates g).Shut k

/-! ## The invariant -/

/-- A login request was sent by a gate for a session of its own, and is written down. -/
def Traced (s : Passage T) (message : GameMessage) : Prop :=
  ∀ requestId gate platform accountId areaId,
    message.payload = .loginPlayerRequest requestId gate platform accountId areaId →
      ∃ g k, message.source = ⟨kGateServiceType, g⟩ ∧ gate = (gateConfiguration g).gateSession k ∧
        s.2.requests (g, requestId) = some k

/-- What is known of the logins under way. -/
structure Linked (s : Passage T) : Prop where
  waiting : ∀ g requestId pending, (s.1.gates g).login.pendingLogins requestId = some pending →
    s.2.requests (g, requestId) = some pending.gateSessionId
  registering : ∀ g k requestId, s.At g (.registering k requestId) →
    s.2.requests (g, requestId) = some k
  asked : ∀ message ∈ s.1.gameInbox, s.Traced message
  serving : ∀ u message, (s.2.points (.game u)).work = .serving message →
    s.1.answering (.game u) = some message ∧ s.Traced message
  accepted : ∀ u message p, (s.2.points (.game u)).work = .accepted message p →
    s.1.answering (.game u) = some message ∧ s.Traced message ∧
      ∃ requestId gate platform accountId areaId,
        message.payload = .loginPlayerRequest requestId gate platform accountId areaId
  answered : ∀ g response, .loginPlayerResponse response ∈ s.1.gateInbox g →
    response.game = gameProcess
  received : ∀ g response, s.At g (.received (.loginPlayerResponse response)) →
    response.game = gameProcess
  activating : ∀ g pending response, s.At g (.activating pending response) →
    response.game = gameProcess

/-- What is known of the connections and of their sessions. -/
structure Lively (s : Passage T) : Prop where
  redis : ∀ g, (s.1.gates g).accounts.redis = true
  keyed : ∀ g, (s.1.gates g).sessions.Keyed
  shut : ∀ g c, s.At g (.closing c) → (s.1.gates g).Shut c
  live : ∀ g k, ((s.1.gates g).sessions.get k).isSome = true →
    (s.1.gates g).connection.sockets k = true ∨ s.At g (.closing k)
  gone : ∀ g record, s.Unnames g record → s.Gone g record.gateSessionId

/-- The condition on numbers and connections:
* a connection number that comes around again was never used for a client, and a request has a new number;
* a stream ends for a connection only, and a session is opened only while its connection has its socket;
* no gate is restarted. -/
def Paced (t : ClusterThread T) (a : ClusterAct) (s : Passage T) : Prop :=
  let connection := (s.1.gates t.gateId).connection
  match a with
  | .gate (.connection .acceptReadySocket) =>
      connection.connections connection.nextConnectionId = none ∨
        connection.connections connection.nextConnectionId = some .accepted
  | .gate (.connection (.finalize c)) => connection.connections c ≠ none
  | .gate (.session (.openAnonymous k _)) => connection.sockets k = true
  | .gate (.sendProcessPayload _ (.loginPlayerRequest requestId _ _ _ _)) =>
      s.2.requests (t.gateId, requestId) = none
  | .restart _ => False
  | _ => True

variable [DecidableEq T]

/-- The cluster with its history. -/
def machine (cfg : GameConfiguration) :
    Machine (ClusterThread T) ClusterAct ClusterAct.Reply ClusterInput (Passage T) :=
  (Cluster.machine cfg).withHistory fun t a _ _ _ r log => log.record t a r

variable {cfg : GameConfiguration} {t : ClusterThread T} {i : ClusterInput} {s s' : Passage T}
  {o : ClusterOp} {g : UInt32} {k : GateSessionId} {p : PlayerId} {w : Work}
  {record : GateSessionRecord} {message : GameMessage}

theorem machine_exec {a : ClusterAct} {r : a.Reply} (h : (machine cfg).exec t a i s = some (s', r)) :
    s.1.exec cfg t i a = some (s'.1, r) ∧ s'.2 = s.2.record t a r :=
  Machine.withHistory_exec h

theorem record_points (log : PassageLog T) (a : ClusterAct) (r : a.Reply) :
    (log.record t a r).points = Function.update log.points t ((log.points t).next a r) := by
  cases a <;> rfl

omit [DecidableEq T] in
theorem gateSession_inj {g g' : UInt32} {k k' : GateSessionId} :
    (gateConfiguration g).gateSession k = (gateConfiguration g').gateSession k' ↔ g = g' ∧ k = k' := by
  constructor
  · intro heq
    injection heq with _ hg hk
    exact ⟨hg, hk⟩
  · rintro ⟨rfl, rfl⟩
    rfl

/-! ## One section of a gate -/

/-- What is known of one section of a gate. -/
structure GateMove (t : ClusterThread T) (i : ClusterInput) (o : ClusterOp) (a : GateAct) (r : a.Reply)
    (s s' : Passage T) : Prop where
  step : Cluster.GateStep t i a r s.1 s'.1
  log : s'.2 = s.2.record t (.gate a) r
  fits : (s.2.points t).GateFits t.gateId o a
  paced : Paced t (.gate a) s
  same : ∀ k accountId p game, a = .session (.activate k accountId p game) → ∀ old,
    (s.1.gates t.gateId).sessions.activeAccount k = some old → old = accountId

namespace GateMove

variable {a : GateAct} {r : a.Reply} (h : GateMove t i o a r s s')
include h

theorem points : s'.2.points = Function.update s.2.points t ((s.2.points t).gateNext a r) := by
  rw [h.log]
  rfl

theorem self : (s'.2.points t) = (s.2.points t).gateNext a r := by
  rw [h.points, Function.update_self]

theorem other {u : ClusterThread T} (hu : u ≠ t) : s'.2.points u = s.2.points u := by
  rw [h.points, Function.update_of_ne hu]

/-- The handler of the section is at work in its gate. -/
theorem at_self : s'.At t.gateId ((s.2.points t).gateNext a r).work := by
  obtain ⟨u, hu⟩ := h.step.thread
  refine ⟨s.1.lives t.gateId, u, ?_⟩
  rw [← hu, h.self]

/-- A handler stays at its work, unless the section ends it. -/
theorem at_old (hat : s.At g w) : s'.At g w ∨ g = t.gateId ∧ (s.2.points t).work = w ∧
    ClusterPoint.Ends g w a ∧ ((s.2.points t).gateNext a r).work ≠ w := by
  obtain ⟨life, u, hw⟩ := hat
  by_cases hu : .gate g life u = t
  · obtain rfl : g = t.gateId := by rw [← hu]; rfl
    rw [hu] at hw
    by_cases hnext : ((s.2.points t).gateNext a r).work = w
    · exact .inl (hnext ▸ h.at_self)
    · refine .inr ⟨rfl, hw, ?_, hnext⟩
      rw [← hw] at hnext ⊢
      exact ClusterPoint.ends_of_next h.fits hnext
  · exact .inl ⟨life, u, by rw [h.other hu, hw]⟩

/-- A handler was at its work, unless the section begins it. -/
theorem at_new (hat : s'.At g w) : s.At g w ∨ g = t.gateId ∧
    ((s.2.points t).gateNext a r).work = w ∧ ClusterPoint.Begins (s.2.points t) ⟨a, r⟩ w := by
  obtain ⟨life, u, hw⟩ := hat
  by_cases hu : .gate g life u = t
  · obtain rfl : g = t.gateId := by rw [← hu]; rfl
    rw [hu, h.self] at hw
    by_cases hsame : ((s.2.points t).gateNext a r).work = (s.2.points t).work
    · exact .inl ⟨life, u, by rw [hu, ← hsame, hw]⟩
    · refine .inr ⟨rfl, hw, ?_⟩
      rw [← hw]
      exact ClusterPoint.begins_of_next h.fits hsame
  · exact .inl ⟨life, u, by rw [← h.other hu, hw]⟩

theorem at_point : s.At t.gateId (s.2.points t).work := by
  obtain ⟨u, hu⟩ := h.step.thread
  exact ⟨_, u, by rw [← hu]⟩

/-- A section of a gate leaves the handlers of the game alone. -/
theorem game_points (u : T) : s'.2.points (.game u) = s.2.points (.game u) := by
  obtain ⟨v, hv⟩ := h.step.thread
  refine h.other fun hu => ?_
  rw [hv] at hu
  cases hu

/-! ### The sessions -/

theorem orderly (hT : s.Lively) : GateProcess.Orderly a (s.1.gates t.gateId) := by
  have hfits := h.fits
  have hpaced := h.paced
  have hsame := h.same
  unfold GateProcess.Orderly
  split
  · exact hpaced
  · exact hpaced
  · exact hfits.1
  · exact hsame _ _ _ _ rfl
  · refine hT.shut _ _ ?_
    have hpoint := h.at_point
    rwa [show (s.2.points t).work = _ from hfits] at hpoint
  · exact trivial

theorem keeps (hT : s.Lively) (g : UInt32) : (s.1.gates g).Keeps (s'.1.gates g) := by
  by_cases hg : g = t.gateId
  · subst hg
    exact GateProcess.keeps_step (hT.keyed _) (h.orderly hT) h.step.exec
  · rw [h.step.gates g hg]
    exact .refl _

theorem keyed (hT : s.Lively) (g : UInt32) : (s'.1.gates g).sessions.Keyed := by
  by_cases hg : g = t.gateId
  · subst hg
    refine GateProcess.keyed_step (hT.keyed _) (fun k c ha => ?_) h.step.exec
    subst ha
    exact h.fits.1
  · rw [h.step.gates g hg]
    exact hT.keyed g

/-- A session that is over is not opened again: its connection has no socket. -/
theorem gone (hT : s.Lively) (hgone : s.Gone g k) : s'.Gone g k := by
  refine ⟨?_, (h.keeps hT g).shut k hgone.2⟩
  by_cases hg : g = t.gateId
  case neg =>
    rw [h.step.gates g hg]
    exact hgone.1
  subst hg
  rcases GateProcess.exec_sessions h.step.exec with hs | ⟨k', c, rfl, -, hs⟩ |
    ⟨k', _, _, _, record, -, hget, hs⟩ | ⟨c, k', record, -, -, -, hs⟩ <;> rw [hs]
  · exact hgone.1
  · have hk : k ≠ k' := by
      rintro rfl
      have hsocket : (s.1.gates t.gateId).connection.sockets k = true := h.paced
      rw [hgone.2.socket] at hsocket
      cases hsocket
    rw [Table.set_get_of_ne hk]
    exact hgone.1
  · have hk : k ≠ k' := by
      rintro rfl
      rw [hgone.1] at hget
      cases hget
    rw [Table.set_get_of_ne hk]
    exact hgone.1
  · by_cases hk : k = k'
    · rw [hk, Table.erase_get_self]
    · rw [Table.erase_get_of_ne hk]
      exact hgone.1

/-- A handler is about to tell the game when it has just removed the session. -/
theorem leaving_new (hT : s.Lively) (hat : s'.At g (.leaving record)) : s.At g (.leaving record) ∨
    g = t.gateId ∧ (∃ old, (s.1.gates g).sessions.get record.gateSessionId = some old) ∧
      s'.Gone g record.gateSessionId ∧ ((s.2.points t).gateNext a r).work = .leaving record := by
  rcases h.at_new hat with hold | ⟨rfl, hnext, c, hw, -, heq⟩
  · exact .inl hold
  cases heq
  rcases GateProcess.exec_removeByConnection (hT.keyed _) h.step.exec with
    ⟨-, hr, -⟩ | ⟨old, hget, hr, hs⟩
  · cases hr
  · cases hr
    obtain rfl : old.gateSessionId = c := (hT.keyed _ c old hget).1
    have hshut : (s.1.gates t.gateId).Shut old.gateSessionId := by
      refine hT.shut _ _ ?_
      rw [← hw]
      exact h.at_point
    refine .inr ⟨rfl, ⟨old, hget⟩, ⟨?_, (h.keeps hT _).shut _ hshut⟩, hnext⟩
    rw [hs]
    exact Table.erase_get_self

theorem unnames_gone (hT : s.Lively) (hun : s'.Unnames g record) : s'.Gone g record.gateSessionId := by
  have hold : s.Unnames g record → s'.Gone g record.gateSessionId := fun hun =>
    h.gone hT (hT.gone g record hun)
  rcases hun with (hat | hat) | hat | hat
  · rcases h.leaving_new hT hat with hat | ⟨-, -, hgone, -⟩
    · exact hold (.inl (.inl hat))
    · exact hgone
  · rcases h.at_new hat with hat | ⟨rfl, -, hw⟩
    · exact hold (.inl (.inr hat))
    · refine hold (.inl (.inl ?_))
      rw [← show (s.2.points t).work = .leaving record from hw]
      exact h.at_point
  · rcases h.at_new hat with hat | ⟨rfl, -, hw⟩
    · exact hold (.inr (.inl hat))
    · refine hold (.inl (.inr ?_))
      rw [← show (s.2.points t).work = .unrouting record from hw]
      exact h.at_point
  · rcases h.at_new hat with hat | ⟨rfl, -, hw⟩
    · exact hold (.inr (.inr hat))
    · refine hold (.inr (.inl ?_))
      rw [← show (s.2.points t).work = .unnaming record from hw]
      exact h.at_point

/-- A connection has its socket until a handler closes it, which is about to remove its session then. -/
theorem socket_old (hsocket : (s.1.gates g).connection.sockets k = true) :
    (s'.1.gates g).connection.sockets k = true ∨ s'.At g (.closing k) := by
  by_cases hg : g = t.gateId
  case neg =>
    rw [h.step.gates g hg]
    exact .inl hsocket
  subst hg
  rcases GateProcess.exec_connections h.step.exec with hs | ⟨b, rfl⟩
  · rw [hs]
    exact .inl hsocket
  have hpoint := h.at_self
  obtain ⟨hs, hr⟩ := GateProcess.exec_connection h.step.exec
  have hclosed : ∀ c, ((s.1.gates t.gateId).connection.closed c).sockets k = true ∨ k = c := by
    intro c
    by_cases hk : k = c
    · exact .inr hk
    · exact .inl ((Function.update_of_ne hk ..).trans hsocket)
  rw [hs]
  -- a socket is made, a connection is marked or refused, and two sections close one
  cases b with
  | acceptReadySocket =>
      left
      show Function.update (s.1.gates t.gateId).connection.sockets _ true k = true
      by_cases hk : k = (s.1.gates t.gateId).connection.nextConnectionId
      · rw [hk, Function.update_self]
      · rw [Function.update_of_ne hk]
        exact hsocket
  | accept c =>
      left
      simp only [GateConnectionService.exec, GateConnectionService.accept]
      split <;> exact hsocket
  | markAnonymous c | markBound c =>
      left
      simp only [GateConnectionService.exec, GateConnectionService.mark]
      split <;> exact hsocket
  -- whoever closes a socket goes on to remove its session
  | closeEnter c =>
      simp only [GateConnectionService.exec, GateConnectionService.closeEnter] at hr ⊢
      split
      · rename_i hsome
        rw [if_pos hsome] at hr
        rcases hclosed c with hstays | rfl
        · exact .inl hstays
        · rw [hr] at hpoint
          exact .inr hpoint
      · exact .inl hsocket
  | finalize c =>
      rcases hclosed c with hstays | rfl
      · left
        simp only [GateConnectionService.exec, GateConnectionService.finalize]
        split
        · exact hstays
        · exact hstays
      · exact .inr hpoint
  | send c message => exact .inl hsocket

/-- A handler that is about to remove a session has seen to it that its connection is shut. -/
theorem closing_new (hat : s'.At g (.closing k)) : s.At g (.closing k) ∨ (s'.1.gates g).Shut k := by
  rcases h.at_new hat with hold | ⟨rfl, -, ⟨result, heq, hok⟩ | heq⟩
  · exact .inl hold
  · right
    cases heq
    obtain ⟨hs, hr⟩ := GateProcess.exec_connection h.step.exec
    rw [hs]
    simp only [GateConnectionService.exec, GateConnectionService.closeEnter] at hr ⊢
    split
    · exact GateProcess.shut_closed
    · rename_i hnone
      rw [hr, if_neg hnone] at hok
      cases hok
  · right
    cases heq
    obtain ⟨hs, -⟩ := GateProcess.exec_connection h.step.exec
    have hknown : (s.1.gates t.gateId).connection.connections k ≠ none := h.paced
    rw [hs]
    simp only [GateConnectionService.exec, GateConnectionService.finalize,
      Option.isSome_iff_ne_none.mpr hknown, if_true]
    exact GateProcess.shut_closed

/-- A session was there, or it is opened for a connection that has its socket. -/
theorem session_new (hget : ((s'.1.gates g).sessions.get k).isSome = true) :
    ((s.1.gates g).sessions.get k).isSome = true ∨
      (s.1.gates g).connection.sockets k = true := by
  by_cases hg : g = t.gateId
  case neg =>
    rw [h.step.gates g hg] at hget
    exact .inl hget
  subst hg
  rcases GateProcess.exec_sessions h.step.exec with hs | ⟨k', c, rfl, -, hs⟩ |
    ⟨k', _, _, _, record, -, hold, hs⟩ | ⟨c, k', record, -, -, -, hs⟩ <;> rw [hs] at hget
  · exact .inl hget
  · by_cases hk : k = k'
    · subst hk
      exact .inr h.paced
    · rw [Table.set_get_of_ne hk] at hget
      exact .inl hget
  · by_cases hk : k = k'
    · subst hk
      exact .inl (by rw [hold]; rfl)
    · rw [Table.set_get_of_ne hk] at hget
      exact .inl hget
  · by_cases hk : k = k'
    · subst hk
      rw [Table.erase_get_self] at hget
      cases hget
    · rw [Table.erase_get_of_ne hk] at hget
      exact .inl hget

/-- A session whose connection is closed has a handler that is about to remove it. -/
theorem live (hT : s.Lively) (hget : ((s'.1.gates g).sessions.get k).isSome = true) :
    (s'.1.gates g).connection.sockets k = true ∨ s'.At g (.closing k) := by
  rcases h.session_new hget with hold | hsocket
  case inr => exact h.socket_old hsocket
  rcases hT.live g k hold with hsocket | hat
  · exact h.socket_old hsocket
  rcases h.at_old hat with hat | ⟨rfl, -, rfl, -⟩
  · exact .inr hat
  rcases GateProcess.exec_removeByConnection (hT.keyed _) h.step.exec with
    ⟨hnone, -⟩ | ⟨record, -, -, hs⟩
  · rw [hnone] at hold
    cases hold
  · rw [hs, Table.erase_get_self] at hget
    cases hget

theorem lively (hT : s.Lively) : s'.Lively where
  redis g := by
    by_cases hg : g = t.gateId
    · subst hg
      exact (GateProcess.exec_redis h.step.exec).trans (hT.redis _)
    · rw [h.step.gates g hg]
      exact hT.redis g
  keyed := h.keyed hT
  shut g c hat := (h.closing_new hat).elim (fun hold => (h.keeps hT g).shut c (hT.shut g c hold)) id
  live _ _ := h.live hT
  gone _ _ := h.unnames_gone hT

/-! ### The requests -/

/-- A request that is written down stays so. -/
theorem requests {requestId : RequestId} (hk : s.2.requests (g, requestId) = some k) :
    s'.2.requests (g, requestId) = some k := by
  rw [h.log]
  show (a.loginRequest.elim s.2.requests fun x => Function.update s.2.requests (t.gateId, x.1) (some x.2))
    (g, requestId) = some k
  cases ha : a.loginRequest with
  | none => exact hk
  | some x =>
      have hnew : s.2.requests (t.gateId, x.1) = none := by
        unfold GateAct.loginRequest at ha
        split at ha
        · cases ha
          exact h.paced
        · cases ha
      have hne : (g, requestId) ≠ (t.gateId, x.1) := by
        intro heq
        rw [heq, hnew] at hk
        cases hk
      show Function.update s.2.requests _ _ _ = _
      rw [Function.update_of_ne hne, hk]

/-- A request is written down when it is sent. -/
theorem requested {target : ProcessId} {requestId : RequestId} {gate : GateSession}
    {platform accountId : String} {areaId : UInt32}
    (ha : a = .sendProcessPayload target (.loginPlayerRequest requestId gate platform accountId areaId)) :
    s'.2.requests (t.gateId, requestId) = some gate.sessionId := by
  rw [h.log]
  subst ha
  exact Function.update_self ..

theorem traced (hmessage : s.Traced message) : s'.Traced message := by
  intro requestId gate platform accountId areaId hpayload
  obtain ⟨g, k, hsource, hgate, hk⟩ := hmessage requestId gate platform accountId areaId hpayload
  exact ⟨g, k, hsource, hgate, h.requests hk⟩

theorem waiting (hL : s.Linked) {requestId : RequestId} {pending : PendingLogin}
    (hpending : (s'.1.gates g).login.pendingLogins requestId = some pending) :
    s'.2.requests (g, requestId) = some pending.gateSessionId := by
  by_cases hg : g = t.gateId
  case neg =>
    rw [h.step.gates g hg] at hpending
    exact h.requests (hL.waiting g requestId pending hpending)
  subst hg
  rcases GateProcess.exec_logins h.step.exec with hs | ⟨registered, pending', rfl, hs⟩ |
    ⟨taken, -, hs⟩ <;> rw [hs] at hpending
  · exact h.requests (hL.waiting _ requestId pending hpending)
  · by_cases hr : requestId = registered
    · subst hr
      rw [Function.update_self, Option.some.injEq] at hpending
      obtain ⟨k, platform, accountId, hpoint, -, rfl⟩ := h.fits
      subst hpending
      have hat := h.at_point
      rw [hpoint] at hat
      exact h.requests (hL.registering _ k requestId hat)
    · rw [Function.update_of_ne hr] at hpending
      exact h.requests (hL.waiting _ requestId pending hpending)
  · by_cases hr : requestId = taken
    · rw [hr, Function.update_self] at hpending
      cases hpending
    · rw [Function.update_of_ne hr] at hpending
      exact h.requests (hL.waiting _ requestId pending hpending)

theorem linked (hL : s.Linked) : s'.Linked where
  waiting _ _ _ := h.waiting hL
  registering g k requestId hat := by
    rcases h.at_new hat with hold | ⟨rfl, -, hpoint, target, gate, platform, accountId, areaId, result,
      heq, -⟩
    · exact h.requests (hL.registering g k requestId hold)
    · cases heq
      obtain ⟨-, k', hasking, -, rfl⟩ := h.fits
      rw [hpoint] at hasking
      cases hasking
      exact h.requested rfl
  asked message hm := by
    rcases h.step.gameInbox message hm with hold | ⟨payload, rfl, -, rfl⟩
    · exact h.traced (hL.asked message hold)
    · rintro requestId gate platform accountId areaId rfl
      obtain ⟨-, k, -, -, rfl⟩ := h.fits
      exact ⟨t.gateId, k, rfl, rfl, h.requested rfl⟩
  serving u message hw := by
    rw [h.game_points] at hw
    obtain ⟨hanswering, hmessage⟩ := hL.serving u message hw
    exact ⟨by rw [h.step.answering, hanswering], h.traced hmessage⟩
  accepted u message p hw := by
    rw [h.game_points] at hw
    obtain ⟨hanswering, hmessage, hlogin⟩ := hL.accepted u message p hw
    exact ⟨by rw [h.step.answering, hanswering], h.traced hmessage, hlogin⟩
  answered g response hm := by
    rcases h.step.inbox g _ hm with hold | ⟨_, _, _, _, _, _, -, -, heq⟩
    · exact hL.answered g response hold
    · cases heq
  received g response hat := by
    rcases h.at_new hat with hold | ⟨-, -, hfalse⟩
    · exact hL.received g response hold
    · exact hfalse.elim
  activating g pending response hat := by
    rcases h.at_new hat with hold | ⟨rfl, -, hw, -⟩
    · exact hL.activating g pending response hold
    -- the response that is put through was received
    · have hpoint := h.at_point
      rw [hw] at hpoint
      exact hL.received _ response hpoint

end GateMove

/-! ## The other sections -/

/-- The handler holds nothing but a message. -/
def fetching : Work → Bool
  | .free => true
  | .received _ => true
  | _ => false

/-- What the sections of the game and of the readers leave alone. -/
structure Elsewhere (s s' : Passage T) : Prop where
  gates : s'.1.gates = s.1.gates
  owners : s'.1.owners = s.1.owners
  requests : s'.2.requests = s.2.requests
  told : s'.2.told = s.2.told
  points : ∀ g life u w, fetching w = false →
    ((s'.2.points (.gate g life u)).work = w ↔ (s.2.points (.gate g life u)).work = w)

namespace Elsewhere

omit [DecidableEq T]
variable (h : Elsewhere s s')
include h

theorem at_iff {w : Work} (hw : fetching w = false) : s'.At g w ↔ s.At g w := by
  constructor
  · rintro ⟨life, u, hu⟩
    exact ⟨life, u, (h.points g life u w hw).mp hu⟩
  · rintro ⟨life, u, hu⟩
    exact ⟨life, u, (h.points g life u w hw).mpr hu⟩

theorem unroutes_iff : s'.Unroutes g record ↔ s.Unroutes g record :=
  or_congr (h.at_iff rfl) (h.at_iff rfl)

theorem unnames_iff : s'.Unnames g record ↔ s.Unnames g record :=
  or_congr h.unroutes_iff (or_congr (h.at_iff rfl) (h.at_iff rfl))

theorem lively (hT : s.Lively) : s'.Lively := by
  have hgone : ∀ g k, s'.Gone g k ↔ s.Gone g k := by
    intro g k
    unfold Gone
    rw [h.gates]
  constructor
  · rw [h.gates]
    exact hT.redis
  · rw [h.gates]
    exact hT.keyed
  · intro g c hat
    rw [h.gates]
    exact hT.shut g c ((h.at_iff rfl).mp hat)
  · intro g k hget
    rw [h.gates] at hget ⊢
    rw [h.at_iff rfl]
    exact hT.live g k hget
  · intro g record hun
    rw [hgone]
    exact hT.gone g record (h.unnames_iff.mp hun)

theorem traced (hmessage : s.Traced message) : s'.Traced message := by
  unfold Traced
  rwa [h.requests]

end Elsewhere

/-! ### The game -/

/-- A section of the game leaves its thread where it is, or accepts a player for the request that the
thread is at work on, or answers a request. -/
theorem game_cases {x : ClusterPoint} {a : Act} {r : a.Reply} (hfits : x.GameFits a)
    (hdone : ∀ q gate result, (⟨a, r⟩ : Σ a : Act, a.Reply) =
      ⟨.session (.activateEnter q gate), .done result⟩ → result.ok = true → result = .success) :
    (x.gameNext a r = x ∧ a.accepts r = none ∧
        ∀ target payload, a = .ipc (.sendProcessPayload target payload) → x = {}) ∨
    (∃ gate q message requestId platform accountId areaId, x = ⟨false, .serving message⟩ ∧
      message.payload = .loginPlayerRequest requestId gate platform accountId areaId ∧
      a.accepts r = some (q, gate) ∧ x.gameNext a r = ⟨false, .accepted message q⟩ ∧
      ∀ target payload, a ≠ .ipc (.sendProcessPayload target payload)) ∨
    ∃ target q code errorMessage,
      a = .ipc (.sendProcessPayload target (.loginPlayerResponse q code errorMessage)) ∧
        a.accepts r = none ∧ x.gameNext a r = {} := by
  -- three sections activate a player and one answers; the others leave the thread where it is
  cases a with
  | session b =>
      cases b with
      | activateEnter q gate =>
          obtain ⟨message, requestId, platform, accountId, areaId, rfl, hpayload⟩ := hfits
          cases r with
          | proceed reuse => exact .inl ⟨rfl, rfl, fun _ _ ha => by cases ha⟩
          | done result =>
              cases hok : Result.ok result with
              | false =>
                  refine .inl ⟨?_, ?_, fun _ _ ha => by cases ha⟩
                  · simp only [ClusterPoint.gameNext, hok, Bool.false_eq_true, if_false]
                  · refine if_neg fun heq => ?_
                    cases heq
                    cases hok
              | true =>
                  obtain rfl := hdone q gate result rfl hok
                  exact .inr (.inl ⟨gate, q, message, requestId, platform, accountId, areaId, rfl,
                    hpayload, rfl, rfl, fun _ _ ha => by cases ha⟩)
      -- resumed, unless the record is in transition by now
      | activateResume q gate =>
          obtain ⟨message, requestId, platform, accountId, areaId, rfl, hpayload⟩ := hfits
          cases hok : Result.ok r with
          | false =>
              refine .inl ⟨?_, ?_, fun _ _ ha => by cases ha⟩
              · simp only [ClusterPoint.gameNext, hok, Bool.false_eq_true, if_false]
              · simp only [Act.accepts, hok, Bool.false_eq_true, if_false]
          | true =>
              refine .inr (.inl ⟨gate, q, message, requestId, platform, accountId, areaId, rfl,
                hpayload, ?_, ?_, fun _ _ ha => by cases ha⟩)
              · simp only [Act.accepts, hok, if_true]
              · simp only [ClusterPoint.gameNext, hok, if_true, ClusterPoint.accept]
      | activateInsert q gate =>
          obtain ⟨message, requestId, platform, accountId, areaId, rfl, hpayload⟩ := hfits
          exact .inr (.inl ⟨gate, q, message, requestId, platform, accountId, areaId, rfl, hpayload, rfl,
            rfl, fun _ _ ha => by cases ha⟩)
      | _ => exact .inl ⟨rfl, rfl, fun _ _ ha => by cases ha⟩
  | ipc b =>
      cases b with
      | sendProcessPayload target payload =>
          cases payload with
          | loginPlayerResponse q code errorMessage =>
              exact .inr (.inr ⟨target, q, code, errorMessage, rfl, rfl, rfl⟩)
          | _ => exact .inl ⟨rfl, rfl, fun _ _ _ => hfits⟩
      | _ => exact .inl ⟨rfl, rfl, fun _ _ ha => by cases ha⟩
  | _ => exact .inl ⟨rfl, rfl, fun _ _ ha => by cases ha⟩

/-- What is known of one section of the game. -/
structure GameMove (cfg : GameConfiguration) (t : ClusterThread T) (i : ClusterInput) (a : Act)
    (r : a.Reply) (s s' : Passage T) : Prop where
  step : Cluster.GameStep cfg t i a r s.1 s'.1
  log : s'.2 = s.2.record t (.game a) r
  fits : (s.2.points t).GameFits a

namespace GameMove

variable {a : Act} {r : a.Reply} (h : GameMove cfg t i a r s s')
include h

theorem self : s'.2.points t = (s.2.points t).gameNext a r := by
  rw [h.log]
  exact Function.update_self ..

theorem other {u : ClusterThread T} (hu : u ≠ t) : s'.2.points u = s.2.points u := by
  rw [h.log]
  exact Function.update_of_ne hu ..

/-- The thread stays where it is, or accepts a player, or answers. -/
theorem point_cases : ((s.2.points t).gameNext a r = s.2.points t ∧ a.accepts r = none ∧
      ∀ target payload, a = .ipc (.sendProcessPayload target payload) → s.2.points t = {}) ∨
    (∃ gate q message requestId platform accountId areaId,
      s.2.points t = ⟨false, .serving message⟩ ∧
      message.payload = .loginPlayerRequest requestId gate platform accountId areaId ∧
      a.accepts r = some (q, gate) ∧ (s.2.points t).gameNext a r = ⟨false, .accepted message q⟩ ∧
      ∀ target payload, a ≠ .ipc (.sendProcessPayload target payload)) ∨
    ∃ target q code errorMessage,
      a = .ipc (.sendProcessPayload target (.loginPlayerResponse q code errorMessage)) ∧
        a.accepts r = none ∧ (s.2.points t).gameNext a r = {} := by
  refine game_cases h.fits fun q gate result heq hok => ?_
  cases heq
  have hexec := h.step.exec
  simp only [GameProcess.exec, GameProcess.execSession, Option.ite_none_left_eq_some, Option.some.injEq,
    Prod.mk.injEq] at hexec
  exact PlayerSessions.activateEnter_done hexec.2.2 hok

theorem elsewhere : Elsewhere s s' where
  gates := h.step.gates
  owners := h.step.owners
  requests := by
    rw [h.log]
    rfl
  told := by
    rw [h.log]
    rfl
  points g life u w _ := by
    obtain ⟨v, hv⟩ := h.step.thread
    rw [h.other (by rw [hv]; exact fun heq => by cases heq)]

/-- A thread of the game is at work on the message it has taken. -/
theorem answering (u : T) (hkept : t = .game u → ∀ target payload,
    a ≠ .ipc (.sendProcessPayload target payload)) :
    s'.1.answering (.game u) = s.1.answering (.game u) := by
  rw [h.step.answering]
  cases a with
  | ipc b =>
      cases b with
      | sendProcessPayload target payload =>
          by_cases hu : t = .game u
          · exact absurd rfl (hkept hu target payload)
          · exact Function.update_of_ne (fun heq => hu heq.symm) ..
      | _ => rfl
  | _ => rfl

theorem linked (hL : s.Linked) : s'.Linked where
  waiting := by
    rw [h.elsewhere.gates, h.elsewhere.requests]
    exact hL.waiting
  registering g k requestId hat := by
    rw [h.elsewhere.requests]
    exact hL.registering g k requestId ((h.elsewhere.at_iff rfl).mp hat)
  asked message hm := by
    rw [h.step.gameInbox] at hm
    exact h.elsewhere.traced (hL.asked message hm)
  serving u message hw := by
    by_cases hu : t = .game u
    · subst hu
      rw [h.self] at hw
      rcases h.point_cases with ⟨hnext, -, hsend⟩ | ⟨_, _, _, _, _, _, _, -, -, -, hnext, -⟩ |
        ⟨_, _, _, _, -, -, hnext⟩ <;> rw [hnext] at hw
      · obtain ⟨hanswering, hmessage⟩ := hL.serving u message hw
        refine ⟨?_, h.elsewhere.traced hmessage⟩
        rw [h.answering u fun _ target payload ha => ?_, hanswering]
        rw [hsend target payload ha] at hw
        cases hw
      · cases hw
      · cases hw
    · rw [h.other fun heq => hu heq.symm] at hw
      obtain ⟨hanswering, hmessage⟩ := hL.serving u message hw
      exact ⟨by rw [h.answering u fun heq => absurd heq hu, hanswering], h.elsewhere.traced hmessage⟩
  accepted u message p hw := by
    by_cases hu : t = .game u
    · subst hu
      rw [h.self] at hw
      rcases h.point_cases with ⟨hnext, -, hsend⟩ |
        ⟨gate, q, m, requestId, platform, accountId, areaId, hpoint, hpayload, -, hnext, hsend⟩ |
        ⟨_, _, _, _, -, -, hnext⟩ <;> rw [hnext] at hw
      · obtain ⟨hanswering, hmessage, hlogin⟩ := hL.accepted u message p hw
        refine ⟨?_, h.elsewhere.traced hmessage, hlogin⟩
        rw [h.answering u fun _ target payload ha => ?_, hanswering]
        rw [hsend target payload ha] at hw
        cases hw
      · cases hw
        obtain ⟨hanswering, hmessage⟩ := hL.serving u message (by rw [hpoint])
        exact ⟨by rw [h.answering u fun _ => hsend, hanswering], h.elsewhere.traced hmessage,
          requestId, gate, platform, accountId, areaId, hpayload⟩
      · cases hw
    · rw [h.other fun heq => hu heq.symm] at hw
      obtain ⟨hanswering, hmessage, hlogin⟩ := hL.accepted u message p hw
      exact ⟨by rw [h.answering u fun heq => absurd heq hu, hanswering], h.elsewhere.traced hmessage,
        hlogin⟩
  answered g response hm := by
    rcases h.step.inbox g _ hm with hold | ⟨target, payload, -, -, hmessage⟩
    · exact hL.answered g response hold
    · unfold Payload.toGate at hmessage
      split at hmessage
      · split at hmessage
        · cases hmessage
          rfl
        · cases hmessage
      · split at hmessage <;> cases hmessage
      · cases hmessage
      · cases hmessage
  received g response hat := by
    obtain ⟨life, u, hu⟩ := hat
    obtain ⟨v, hv⟩ := h.step.thread
    rw [h.other (by rw [hv]; exact fun heq => by cases heq)] at hu
    exact hL.received g response ⟨life, u, hu⟩
  activating g pending response hat := hL.activating g pending response ((h.elsewhere.at_iff rfl).mp hat)

end GameMove

/-! ### The readers -/

theorem mem_eraseIdx_or {α : Type} {l : List α} {n : Nat} {x y : α} (hx : x ∈ l) (hy : l[n]? = some y) :
    x ∈ l.eraseIdx n ∨ x = y := by
  obtain ⟨j, hj, rfl⟩ := List.getElem_of_mem hx
  by_cases hjn : j = n
  · subst hjn
    rw [List.getElem?_eq_getElem hj] at hy
    exact .inr (Option.some.inj hy)
  · exact .inl (List.mem_eraseIdx_iff_getElem.mpr ⟨j, hj, hjn, rfl⟩)

/-- What is known of a reader of gate `g` that takes a message. -/
structure GateFetch (i : ClusterInput) (g : UInt32) (life : Nat) (v : T) (r : GateMessage)
    (s s' : Passage T) : Prop where
  taken : (s.1.gateInbox g)[i.picked]? = some r
  state : s'.1 = { s.1 with
    gateInbox := Function.update s.1.gateInbox g ((s.1.gateInbox g).eraseIdx i.picked) }
  log : s'.2.requests = s.2.requests ∧ s'.2.owed = s.2.owed ∧ s'.2.told = s.2.told
  before : s.2.points (.gate g life v) = {}
  self : s'.2.points (.gate g life v) = ClusterPoint.next {} .gateReceive r
  other : ∀ u, u ≠ .gate g life v → s'.2.points u = s.2.points u

theorem gateFetch_of_exec {r : GateMessage} (hfits : s.2.points t = {})
    (hx : (machine cfg).exec t .gateReceive i s = some (s', r)) :
    ∃ g life v, t = .gate g life v ∧ GateFetch i g life v r s s' := by
  obtain ⟨hexec, hlog⟩ := machine_exec hx
  obtain ⟨g, life, v, rfl, -, hr, hs⟩ := Cluster.exec_gateReceive hexec
  refine ⟨g, life, v, rfl, hr, hs, by rw [hlog]; exact ⟨rfl, rfl, rfl⟩, hfits, ?_, fun u hu => ?_⟩
  · rw [hlog, record_points, Function.update_self, hfits]
  · rw [hlog, record_points, Function.update_of_ne hu]

namespace GateFetch

omit [DecidableEq T]
variable {life : Nat} {v : T} {r : GateMessage} (h : GateFetch i g life v r s s')
include h

theorem game_points (u : T) : s'.2.points (.game u) = s.2.points (.game u) :=
  h.other _ fun heq => by cases heq

theorem elsewhere : Elsewhere s s' where
  gates := by rw [h.state]
  owners := by rw [h.state]
  requests := h.log.1
  told := h.log.2.2
  points g' life' u w hw := by
    by_cases hu : .gate g' life' u = ClusterThread.gate g life v
    · rw [hu, h.self, h.before]
      constructor
      · rintro rfl
        cases r <;> cases hw
      · rintro rfl
        cases hw
    · rw [h.other _ hu]

/-- What is in an inbox was there before. -/
theorem inbox {j : UInt32} {message : GateMessage} (hm : message ∈ s'.1.gateInbox j) :
    message ∈ s.1.gateInbox j := by
  rw [h.state] at hm
  by_cases hj : j = g
  · subst hj
    simp only [Function.update_self] at hm
    exact List.mem_of_mem_eraseIdx hm
  · simpa only [Function.update_of_ne hj] using hm

/-- A message that is not in its inbox any more is the one that has been taken. -/
theorem stays {j : UInt32} {message : GateMessage} (hm : message ∈ s.1.gateInbox j) :
    message ∈ s'.1.gateInbox j ∨ j = g ∧ message = r := by
  have hinbox : s'.1.gateInbox =
      Function.update s.1.gateInbox g ((s.1.gateInbox g).eraseIdx i.picked) := by rw [h.state]
  rw [hinbox]
  by_cases hj : j = g
  · subst hj
    rw [Function.update_self]
    exact (mem_eraseIdx_or hm h.taken).imp_right fun heq => ⟨rfl, heq⟩
  · rw [Function.update_of_ne hj]
    exact .inl hm

/-- What a handler has received it had before, or it has just taken it. -/
theorem received_new {j : UInt32} {message : GateMessage} (hat : s'.At j (.received message)) :
    s.At j (.received message) ∨ message ∈ s.1.gateInbox j := by
  obtain ⟨life', u, hu⟩ := hat
  by_cases hut : .gate j life' u = ClusterThread.gate g life v
  · rw [hut, h.self] at hu
    injection hut with hj _ _
    subst hj
    right
    cases r <;> cases hu <;> exact List.mem_of_getElem? h.taken
  · rw [h.other _ hut] at hu
    exact .inl ⟨life', u, hu⟩

theorem received_old {j : UInt32} {message : GateMessage} (hat : s.At j (.received message)) :
    s'.At j (.received message) := by
  obtain ⟨life', u, hu⟩ := hat
  refine ⟨life', u, ?_⟩
  rw [h.other, hu]
  intro hut
  rw [hut, h.before] at hu
  cases hu

theorem linked (hL : s.Linked) : s'.Linked where
  waiting := by
    rw [h.elsewhere.gates, h.elsewhere.requests]
    exact hL.waiting
  registering j k requestId hat := by
    rw [h.elsewhere.requests]
    exact hL.registering j k requestId ((h.elsewhere.at_iff rfl).mp hat)
  asked message hm := by
    rw [h.state] at hm
    exact h.elsewhere.traced (hL.asked message hm)
  serving u message hw := by
    rw [h.game_points] at hw
    obtain ⟨hanswering, hmessage⟩ := hL.serving u message hw
    exact ⟨by rw [h.state]; exact hanswering, h.elsewhere.traced hmessage⟩
  accepted u message p hw := by
    rw [h.game_points] at hw
    obtain ⟨hanswering, hmessage, hlogin⟩ := hL.accepted u message p hw
    exact ⟨by rw [h.state]; exact hanswering, h.elsewhere.traced hmessage, hlogin⟩
  answered j response hm := hL.answered j response (h.inbox hm)
  received j response hat := (h.received_new hat).elim (hL.received j response) (hL.answered j response)
  activating j pending response hat :=
    hL.activating j pending response ((h.elsewhere.at_iff rfl).mp hat)

end GateFetch

/-- What is known of a reader of the game that takes a message. -/
structure GameFetch (i : ClusterInput) (v : T) (r : GameMessage) (s s' : Passage T) : Prop where
  taken : r ∈ s.1.gameInbox
  state : s'.1 = { s.1 with
    gameInbox := s.1.gameInbox.eraseIdx i.picked
    answering := Function.update s.1.answering (.game v) (some r) }
  log : s'.2.requests = s.2.requests ∧ s'.2.owed = s.2.owed ∧ s'.2.told = s.2.told
  before : s.2.points (.game v) = {} ∨ ∃ message, s.2.points (.game v) = ⟨false, .serving message⟩
  self : s'.2.points (.game v) = ClusterPoint.next (s.2.points (.game v)) .gameReceive r
  other : ∀ u, u ≠ .game v → s'.2.points u = s.2.points u

theorem gameFetch_of_exec {r : GameMessage}
    (hfits : s.2.points t = {} ∨ ∃ message, s.2.points t = ⟨false, .serving message⟩)
    (hx : (machine cfg).exec t .gameReceive i s = some (s', r)) :
    ∃ v, t = .game v ∧ GameFetch i v r s s' := by
  obtain ⟨hexec, hlog⟩ := machine_exec hx
  obtain ⟨v, rfl, hr, hs⟩ := Cluster.exec_gameReceive hexec
  refine ⟨v, rfl, List.mem_of_getElem? hr, hs, by rw [hlog]; exact ⟨rfl, rfl, rfl⟩, hfits, ?_,
    fun u hu => ?_⟩
  · rw [hlog, record_points, Function.update_self]
  · rw [hlog, record_points, Function.update_of_ne hu]

namespace GameFetch

variable {v : T} {r : GameMessage} (h : GameFetch i v r s s')
include h

theorem gate_points (j : UInt32) (life : Nat) (u : T) :
    s'.2.points (.gate j life u) = s.2.points (.gate j life u) :=
  h.other _ fun heq => by cases heq

theorem at_iff {j : UInt32} {w : Work} : s'.At j w ↔ s.At j w := by
  unfold At
  simp only [h.gate_points]

theorem elsewhere : Elsewhere s s' where
  gates := by rw [h.state]
  owners := by rw [h.state]
  requests := h.log.1
  told := h.log.2.2
  points j life u w _ := by rw [h.gate_points]

/-- The reader serves the message that it has taken. -/
theorem serving_self {message : GameMessage} (hw : (s'.2.points (.game v)).work = .serving message) :
    r = message := by
  rw [h.self] at hw
  simp only [ClusterPoint.next] at hw
  split at hw <;> first | exact Work.serving.inj hw | cases hw

theorem not_accepted {message : GameMessage} :
    (s'.2.points (.game v)).work ≠ .accepted message p ∧ (s.2.points (.game v)).work ≠ .accepted message p := by
  constructor
  · rw [h.self]
    simp only [ClusterPoint.next]
    split <;> exact fun heq => by cases heq
  · rcases h.before with hpoint | ⟨_, hpoint⟩ <;> rw [hpoint] <;> exact fun heq => by cases heq

theorem answering {u : T} (hu : u ≠ v) : s'.1.answering (.game u) = s.1.answering (.game u) := by
  rw [h.state]
  exact Function.update_of_ne (fun heq => hu (by cases heq; rfl)) ..

theorem linked (hL : s.Linked) : s'.Linked where
  waiting := by
    rw [h.elsewhere.gates, h.elsewhere.requests]
    exact hL.waiting
  registering j k requestId hat := by
    rw [h.elsewhere.requests]
    exact hL.registering j k requestId (h.at_iff.mp hat)
  asked message hm := by
    rw [h.state] at hm
    exact h.elsewhere.traced (hL.asked message (List.mem_of_mem_eraseIdx hm))
  serving u message hw := by
    by_cases hu : u = v
    · subst hu
      obtain rfl := h.serving_self hw
      exact ⟨by rw [h.state]; exact Function.update_self .., h.elsewhere.traced (hL.asked r h.taken)⟩
    · rw [h.other _ fun heq => hu (by cases heq; rfl)] at hw
      obtain ⟨hmessage, htraced⟩ := hL.serving u message hw
      exact ⟨by rw [h.answering hu, hmessage], h.elsewhere.traced htraced⟩
  accepted u message p hw := by
    by_cases hu : u = v
    · subst hu
      exact absurd hw h.not_accepted.1
    · rw [h.other _ fun heq => hu (by cases heq; rfl)] at hw
      obtain ⟨hmessage, htraced, hlogin⟩ := hL.accepted u message p hw
      exact ⟨by rw [h.answering hu, hmessage], h.elsewhere.traced htraced, hlogin⟩
  answered j response hm := by
    rw [h.state] at hm
    exact hL.answered j response hm
  received j response hat := hL.received j response (h.at_iff.mp hat)
  activating j pending response hat := hL.activating j pending response (h.at_iff.mp hat)

end GameFetch

/-! ## Runs -/

/-- The point of a thread. -/
def pointOf (s : Passage T) (t : ClusterThread T) : ClusterPoint := s.2.points t

theorem pointOf_exec (t : ClusterThread T) (a : ClusterAct) (i : ClusterInput) (s s' : Passage T)
    (r : a.Reply) (hx : (machine cfg).exec t a i s = some (s', r)) :
    pointOf s' = Function.update (pointOf s) t ((clusterProtocol T).next t (pointOf s t) a r) := by
  show s'.2.points = _
  rw [(machine_exec hx).2, record_points]
  rfl

section Initial

omit [DecidableEq T]
variable {s₀ : Cluster T}

/-- Before anything has happened, no handler is at work. -/
theorem at_initial {w : Work} (hat : At (s₀, ({} : PassageLog T)) g w) : w = .free := by
  obtain ⟨_, _, hw⟩ := hat
  exact hw.symm

theorem lively_initial (hgates : ∀ g, s₀.gates g = {}) : Lively (s₀, ({} : PassageLog T)) := by
  refine ⟨fun g => ?_, fun g k record hget => ?_, fun g c hat => ?_, fun g k hget => ?_,
    fun g record hun => ?_⟩
  · show (s₀.gates g).accounts.redis = true
    rw [hgates]
  · rw [hgates] at hget
    cases hget
  · cases at_initial hat
  · rw [hgates] at hget
    cases hget
  · rcases hun with (hat | hat) | hat | hat <;> cases at_initial hat

theorem linked_initial (hgates : ∀ g, s₀.gates g = {}) (hinbox : ∀ g, s₀.gateInbox g = [])
    (hgame : s₀.gameInbox = []) : Linked (s₀, ({} : PassageLog T)) := by
  refine ⟨fun g r pending hp => ?_, fun g k r hat => ?_, fun message hm => ?_, fun u message hw => ?_,
    fun u message p hw => ?_, fun g response hm => ?_, fun g response hat => ?_,
    fun g pending response hat => ?_⟩
  · rw [hgates] at hp
    cases hp
  · cases at_initial hat
  · rw [hgame] at hm
    cases hm
  · cases hw
  · cases hw
  · rw [hinbox] at hm
    cases hm
  · cases at_initial hat
  · cases at_initial hat

end Initial

/-! ### A computable condition -/

/-- A computable condition that is enough for `Paced`. -/
def pacedNow (t : ClusterThread T) (a : ClusterAct) (s : Passage T) : Bool :=
  let connection := (s.1.gates t.gateId).connection
  match a with
  | .gate (.connection .acceptReadySocket) => (connection.connections connection.nextConnectionId).isNone
  | .gate (.connection (.finalize c)) => (connection.connections c).isSome
  | .gate (.session (.openAnonymous k _)) => connection.sockets k
  | .gate (.sendProcessPayload _ (.loginPlayerRequest requestId _ _ _ _)) =>
      (s.2.requests (t.gateId, requestId)).isNone
  | .restart _ => false
  | _ => true

omit [DecidableEq T] in
theorem paced_of_pacedNow {a : ClusterAct} (h : pacedNow t a s = true) : Paced t a s := by
  unfold Paced
  unfold pacedNow at h
  split
  · exact .inl (Option.isNone_iff_eq_none.mp h)
  · exact Option.isSome_iff_ne_none.mp h
  · exact h
  · exact Option.isNone_iff_eq_none.mp h
  · cases h
  · exact trivial

/-- Threads start what is theirs to start. -/
def startedNow (t : ClusterThread T) (o : ClusterOp) (s : Passage T) : Bool :=
  match o with
  | .gate op => !op.delivered
  | .game op => !op.attaches && decide (s.2.points t = {})
  | _ => true

end Passage

end SomeServer
