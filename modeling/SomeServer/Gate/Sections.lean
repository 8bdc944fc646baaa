/-
# SomeServer.Gate.Sections — what one section of a gate does to the sessions

What the other tables have to agree with is who is logged in on a gate session: `activePlayer` and
`activeAccount` read it off the session table, and each operation of `GateSessionService` is said once in
terms of them. A session has the number of its connection (`Keyed`), so a search by connection finds the
session of that number or nothing.
-/
import SomeServer.Gate.Calls

namespace SomeServer

open Lib

namespace GateSessionRecord

/-- Whether `HandleSessionDisconnected` has nothing to take back for this session. -/
def skipped (record : GateSessionRecord) : Bool :=
  record.playerId = 0 ∨ record.game.serviceType = 0 ∨ record.game.instanceId = 0

theorem skipped_iff {record : GateSessionRecord} : record.skipped = true ↔
    (record.playerId = 0 ∨ record.game.serviceType = 0 ∨ record.game.instanceId = 0) := by
  simp [skipped]

end GateSessionRecord

namespace GateSessions

variable {m : GateSessions} {k k' : GateSessionId} {record : GateSessionRecord}

/-- What `f` says of a session that is active. -/
def ofActive {α : Type} (f : GateSessionRecord → α) (m : GateSessions) (k : GateSessionId) : Option α :=
  (m.get k).bind fun record => if record.state = .active then some (f record) else none

/-- The player of an active session. -/
def activePlayer (m : GateSessions) (k : GateSessionId) : Option PlayerId :=
  m.ofActive GateSessionRecord.playerId k

/-- The account of an active session. -/
def activeAccount (m : GateSessions) (k : GateSessionId) : Option String :=
  m.ofActive GateSessionRecord.accountId k

section OfActive

variable {α : Type} {f : GateSessionRecord → α} {x : α}

theorem ofActive_eq_some : m.ofActive f k = some x ↔
    ∃ record, m.get k = some record ∧ record.state = .active ∧ f record = x := by
  unfold ofActive
  rw [Option.bind_eq_some_iff]
  constructor
  · rintro ⟨record, hget, hx⟩
    split at hx
    · exact ⟨record, hget, ‹_›, Option.some.inj hx⟩
    · cases hx
  · rintro ⟨record, hget, hstate, rfl⟩
    exact ⟨record, hget, if_pos hstate⟩

theorem ofActive_isSome : (m.ofActive f k).isSome = true ↔
    ∃ record, m.get k = some record ∧ record.state = .active := by
  constructor
  · intro h
    obtain ⟨x, hx⟩ := Option.isSome_iff_exists.mp h
    obtain ⟨record, hget, hstate, -⟩ := ofActive_eq_some.mp hx
    exact ⟨record, hget, hstate⟩
  · rintro ⟨record, hget, hstate⟩
    rw [ofActive_eq_some.mpr ⟨record, hget, hstate, rfl⟩]
    rfl

theorem ofActive_set : ofActive f (m.set k record) = Function.update (m.ofActive f) k
    (if record.state = .active then some (f record) else none) := by
  funext k'
  by_cases hk : k' = k
  · subst hk
    simp [ofActive]
  · rw [Function.update_of_ne hk]
    unfold ofActive
    rw [Table.set_get_of_ne hk]

theorem ofActive_erase : ofActive f (m.erase k) = Function.update (m.ofActive f) k none := by
  funext k'
  by_cases hk : k' = k
  · subst hk
    simp [ofActive]
  · rw [Function.update_of_ne hk]
    unfold ofActive
    rw [Table.erase_get_of_ne hk]

/-- A new session is not active. -/
theorem ofActive_openAnonymous (c : ConnectionId) :
    (m.openAnonymous k c).1.ofActive f = m.ofActive f := by
  unfold openAnonymous
  split
  · rfl
  · rename_i hget
    have hnone : m.ofActive f k = none := by
      simp only [Option.not_isSome_iff_eq_none] at hget
      simp [ofActive, hget]
    show ofActive f (m.set k _) = _
    rw [ofActive_set]
    show Function.update (m.ofActive f) k none = _
    rw [← hnone, Function.update_eq_self]

theorem activePlayer_openAnonymous (c : ConnectionId) :
    (m.openAnonymous k c).1.activePlayer = m.activePlayer := ofActive_openAnonymous c

theorem activePlayer_erase :
    activePlayer (m.erase k) = Function.update m.activePlayer k none := ofActive_erase

theorem activeAccount_set : activeAccount (m.set k record) = Function.update m.activeAccount k
    (if record.state = .active then some record.accountId else none) := ofActive_set

theorem activeAccount_erase :
    activeAccount (m.erase k) = Function.update m.activeAccount k none := ofActive_erase

theorem activePlayer_none (h : m.get k = none) : m.activePlayer k = none := by
  simp [activePlayer, ofActive, h]

end OfActive

/-- Every session has the number of its connection, under which it is filed. -/
def Keyed (m : GateSessions) : Prop :=
  ∀ k record, m.get k = some record → record.gateSessionId = k ∧ record.connectionId = k

theorem Keyed.openAnonymous (h : m.Keyed) : (m.openAnonymous k k).1.Keyed := by
  intro k' record hget
  unfold GateSessions.openAnonymous at hget
  split at hget
  · exact h k' record hget
  · by_cases hk : k' = k
    · subst hk
      rw [Table.set_get_self] at hget
      cases hget
      exact ⟨rfl, rfl⟩
    · rw [Table.set_get_of_ne hk] at hget
      exact h k' record hget

theorem Keyed.activate (h : m.Keyed) {accountId : String} {playerId : PlayerId} {game : ProcessId} :
    (m.activate k accountId playerId game).1.Keyed := by
  intro k' record hget
  unfold GateSessions.activate at hget
  split at hget
  · exact h k' record hget
  · rename_i old hold
    by_cases hk : k' = k
    · subst hk
      rw [Table.set_get_self] at hget
      cases hget
      exact ⟨rfl, (h k' old hold).2⟩
    · rw [Table.set_get_of_ne hk] at hget
      exact h k' record hget

/-- `Activate` does nothing to a session that does not exist, and logs the player in on one that does. -/
theorem activate_cases (accountId : String) (playerId : PlayerId) (game : ProcessId)
    (m : GateSessions) (k : GateSessionId) :
    m.get k = none ∧ (m.activate k accountId playerId game).1 = m ∨
      (m.get k).isSome = true ∧
        (m.activate k accountId playerId game).1.activePlayer =
          Function.update m.activePlayer k (some playerId) ∧
        (m.activate k accountId playerId game).1.activeAccount =
          Function.update m.activeAccount k (some accountId) := by
  unfold GateSessions.activate
  cases hget : m.get k with
  | none => exact .inl ⟨rfl, rfl⟩
  | some record => exact .inr ⟨rfl, ofActive_set, ofActive_set⟩

/-- `RemoveByConnection` removes the session that has the number of the connection. -/
theorem Keyed.removeByConnection (h : m.Keyed) {order : List GateSessionId}
    (hw : m.walks order = true) (c : ConnectionId) :
    m.get c = none ∧ m.removeByConnection order c = (m, none) ∨
      ∃ record, m.get c = some record ∧ m.removeByConnection order c =
        (m.erase c, some { record with state := .closing }) := by
  unfold GateSessions.removeByConnection
  cases hfind : m.find? order fun record => record.connectionId = c with
  | none =>
      refine .inl ⟨?_, rfl⟩
      apply Option.eq_none_iff_forall_ne_some.mpr
      intro record hget
      have hmiss := Table.find?_eq_none hw hfind hget
      simp only [decide_eq_false_iff_not] at hmiss
      exact hmiss (h c record hget).2
  | some found =>
      obtain ⟨k, record⟩ := found
      obtain ⟨hget, hp⟩ := Table.find?_eq_some hfind
      simp only [decide_eq_true_eq] at hp
      obtain rfl : k = c := (h k record hget).2.symm.trans hp
      exact .inr ⟨record, hget, rfl⟩

theorem Keyed.erase (h : m.Keyed) : GateSessions.Keyed (m.erase k) := by
  intro k' record hget
  by_cases hk : k' = k
  · subst hk
    rw [Table.erase_get_self] at hget
    cases hget
  · rw [Table.erase_get_of_ne hk] at hget
    exact h k' record hget

end GateSessions

/-! ## Sections of the process -/

namespace GateProcess

variable {T : Type} {t : T} {env : GateEnv} {s s' : GateProcess T}

theorem exec_connection {a : ConnectionAct} {r : a.Reply}
    (h : s.exec t env (.connection a) = some (s', r)) :
    s' = { s with connection := (s.connection.exec env a).1 } ∧ r = (s.connection.exec env a).2 := by
  simp only [exec, Option.some.injEq, Prod.mk.injEq] at h
  exact ⟨h.1.symm, h.2.symm⟩

theorem exec_session {a : GateSessionAct} {r : a.Reply}
    (h : s.exec t env (.session a) = some (s', r)) :
    ∃ m, GateSessions.exec env s.sessions a = some (m, r) ∧ s' = { s with sessions := m } := by
  simp only [exec, Option.map_eq_some_iff] at h
  obtain ⟨⟨m, r'⟩, hm, heq⟩ := h
  cases heq
  exact ⟨m, hm, rfl⟩

theorem exec_routing {a : RoutingAct} {r : a.Reply}
    (h : s.exec t env (.routing a) = some (s', r)) : s' = (s.execRouting a).1 := by
  simp only [exec, Option.some.injEq] at h
  exact (congrArg Prod.fst h).symm

/-- `UnbindPlayer` drops the route of the player that leads to the session. -/
theorem unbindPlayer_state (p : PlayerId) (k : GateSessionId) :
    (s.execRouting (.unbindPlayer p k)).1 =
      if (s.routes p).map GatePlayerRoute.gateSessionId = some k then
        { s with routes := Function.update s.routes p none }
      else s := by
  simp only [execRouting]
  split
  · rename_i hnone
    simp [hnone]
  · rename_i route hroute
    split
    · rename_i hne
      simp [hroute, hne]
    · rename_i heq
      simp [hroute, not_not.mp heq]

theorem exec_pending {a : PendingAct} {r : a.Reply}
    (h : s.exec t env (.pending a) = some (s', r)) :
    s' = (s.execPending a).1 ∧ r = (s.execPending a).2 := by
  simp only [exec, Option.some.injEq] at h
  exact ⟨(congrArg Prod.fst h).symm, (congrArg Prod.snd h).symm⟩

/-- The routing writes the routes. -/
theorem exec_routing_writes {a : RoutingAct} {r : a.Reply} (h : s.exec t env (.routing a) = some (s', r)) :
    ∃ routes, s' = { s with routes } := by
  rw [exec_routing h]
  cases a with
  | bindPlayer p game k => exact ⟨_, rfl⟩
  | unbindPlayer p k =>
      rw [unbindPlayer_state]
      split
      · exact ⟨_, rfl⟩
      · exact ⟨_, rfl⟩

/-- The waiting requests are in two services. -/
theorem exec_pending_writes {a : PendingAct} {r : a.Reply} (h : s.exec t env (.pending a) = some (s', r)) :
    ∃ login messages, s' = { s with login, messages } := by
  rw [(exec_pending h).1]
  cases a <;> exact ⟨_, _, rfl⟩

theorem exec_account {a : AccountAct} {r : a.Reply}
    (h : s.exec t env (.account a) = some (s', r)) :
    ∃ d, s.accounts.exec t env.redis a = some (d, r) ∧ s' = { s with accounts := d } := by
  simp only [exec, Option.map_eq_some_iff] at h
  obtain ⟨⟨d, r'⟩, hd, heq⟩ := h
  cases heq
  exact ⟨d, hd, rfl⟩

theorem exec_send {target : ProcessId} {payload : GatePayload} {r : Result}
    (h : s.exec t env (.sendProcessPayload target payload) = some (s', r)) :
    s' = s ∧ r = env.sent := by
  simp only [exec, Option.some.injEq, Prod.mk.injEq] at h
  exact ⟨h.1.symm, h.2.symm⟩

/-- The session table is written by three sections: a session is opened, logged in, or removed. -/
theorem exec_sessions {a : GateAct} {r : a.Reply} (h : s.exec t env a = some (s', r)) :
    s'.sessions = s.sessions ∨
    (∃ k c, a = .session (.openAnonymous k c) ∧ s.sessions.get k = none ∧
      s'.sessions = s.sessions.set k { gateSessionId := k, connectionId := c }) ∨
    (∃ k accountId playerId game record, a = .session (.activate k accountId playerId game) ∧
      s.sessions.get k = some record ∧ s'.sessions = s.sessions.set k
        { record with state := .active, gateSessionId := k, accountId, playerId, game }) ∨
    ∃ c k record, a = .session (.removeByConnection c) ∧ s.sessions.get k = some record ∧
      record.connectionId = c ∧ s'.sessions = s.sessions.erase k := by
  cases a with
  | session a =>
      obtain ⟨m, hm, rfl⟩ := exec_session h
      cases a with
      | openAnonymous k c =>
          simp only [GateSessions.exec, Option.some.injEq] at hm
          obtain rfl : (GateSessions.openAnonymous k c s.sessions).1 = m := congrArg Prod.fst hm
          unfold GateSessions.openAnonymous
          split
          · exact .inl rfl
          · rename_i hnone
            exact .inr (.inl ⟨k, c, rfl, Option.not_isSome_iff_eq_none.mp hnone, rfl⟩)
      | activate k accountId playerId game =>
          simp only [GateSessions.exec, Option.some.injEq] at hm
          obtain rfl : (GateSessions.activate k accountId playerId game s.sessions).1 = m :=
            congrArg Prod.fst hm
          unfold GateSessions.activate
          split
          · exact .inl rfl
          · rename_i record hget
            exact .inr (.inr (.inl ⟨k, accountId, playerId, game, record, rfl, hget, rfl⟩))
      | removeByConnection c =>
          simp only [GateSessions.exec, Option.ite_none_right_eq_some, Option.some.injEq] at hm
          obtain rfl : (GateSessions.removeByConnection env.order c s.sessions).1 = m :=
            congrArg Prod.fst hm.2
          unfold GateSessions.removeByConnection
          split
          · exact .inl rfl
          · rename_i k record hfind
            obtain ⟨hget, hc⟩ := Table.find?_eq_some hfind
            exact .inr (.inr (.inr ⟨c, k, record, rfl, hget, of_decide_eq_true hc, rfl⟩))
      -- the others only read
      | findByConnection c | findByAccount accountId =>
          simp only [GateSessions.exec, Option.ite_none_right_eq_some, Option.some.injEq] at hm
          exact .inl (congrArg Prod.fst hm.2).symm
      | snapshot k =>
          simp only [GateSessions.exec, Option.some.injEq] at hm
          exact .inl (congrArg Prod.fst hm).symm
  | connection a => exact .inl (by rw [(exec_connection h).1])
  | routing a =>
      obtain ⟨routes, rfl⟩ := exec_routing_writes h
      exact .inl rfl
  | account a =>
      obtain ⟨d, -, rfl⟩ := exec_account h
      exact .inl rfl
  | pending a =>
      obtain ⟨login, messages, rfl⟩ := exec_pending_writes h
      exact .inl rfl
  | sendProcessPayload target payload => exact .inl (by rw [(exec_send h).1])

/-- The table of pending logins is written by two sections. -/
theorem exec_logins {a : GateAct} {r : a.Reply} (h : s.exec t env a = some (s', r)) :
    s'.login.pendingLogins = s.login.pendingLogins ∨
    (∃ requestId pending, a = .pending (.registerLogin requestId pending) ∧
      s'.login.pendingLogins = Function.update s.login.pendingLogins requestId (some pending)) ∨
    ∃ requestId, a = .pending (.takeLogin requestId) ∧
      s'.login.pendingLogins = Function.update s.login.pendingLogins requestId none := by
  cases a with
  | pending a =>
      rw [(exec_pending h).1]
      cases a with
      | registerLogin requestId pending => exact .inr (.inl ⟨requestId, pending, rfl, rfl⟩)
      | takeLogin requestId => exact .inr (.inr ⟨requestId, rfl, rfl⟩)
      | nextLoginRequest | nextMessageRequest | registerMessage | takeMessage => exact .inl rfl
  | connection a => exact .inl (by rw [(exec_connection h).1])
  | session a =>
      obtain ⟨m, -, rfl⟩ := exec_session h
      exact .inl rfl
  | routing a =>
      obtain ⟨routes, rfl⟩ := exec_routing_writes h
      exact .inl rfl
  | account a =>
      obtain ⟨d, -, rfl⟩ := exec_account h
      exact .inl rfl
  | sendProcessPayload target payload => exact .inl (by rw [(exec_send h).1])

/-- A route is there that was there before and is not taken back, or it has just been written. -/
theorem exec_routes {a : GateAct} {r : a.Reply} {p : PlayerId} {route : GatePlayerRoute}
    (h : s.exec t env a = some (s', r)) (hroute : s'.routes p = some route) :
    s.routes p = some route ∧ a ≠ .routing (.unbindPlayer p route.gateSessionId) ∨
      a = .routing (.bindPlayer p route.game route.gateSessionId) := by
  cases a with
  | routing a =>
      rw [exec_routing h] at hroute
      cases a with
      | bindPlayer q game k =>
          by_cases hq : p = q
          · subst hq
            simp only [execRouting, Function.update_self, Option.some.injEq] at hroute
            subst hroute
            exact .inr rfl
          · simp only [execRouting, Function.update_of_ne hq] at hroute
            exact .inl ⟨hroute, fun heq => by cases heq⟩
      | unbindPlayer q k =>
          left
          rw [unbindPlayer_state] at hroute
          split at hroute
          · by_cases hq : p = q
            · subst hq
              simp at hroute
            · simp only [Function.update_of_ne hq] at hroute
              refine ⟨hroute, fun heq => ?_⟩
              cases heq
              exact hq rfl
          -- the route is another session's by now, and is left alone
          · rename_i hother
            refine ⟨hroute, fun heq => ?_⟩
            cases heq
            exact hother (by rw [hroute]; rfl)
  | connection a =>
      rw [(exec_connection h).1] at hroute
      exact .inl ⟨hroute, fun heq => by cases heq⟩
  | session a =>
      obtain ⟨m, -, rfl⟩ := exec_session h
      exact .inl ⟨hroute, fun heq => by cases heq⟩
  | account a =>
      obtain ⟨d, -, rfl⟩ := exec_account h
      exact .inl ⟨hroute, fun heq => by cases heq⟩
  | pending a =>
      obtain ⟨login, messages, rfl⟩ := exec_pending_writes h
      exact .inl ⟨hroute, fun heq => by cases heq⟩
  | sendProcessPayload target payload =>
      rw [(exec_send h).1] at hroute
      exact .inl ⟨hroute, fun heq => by cases heq⟩

/-- `RemoveByConnection` answers with the session that it has removed. -/
theorem exec_removeByConnection {c : ConnectionId} {r : Option GateSessionRecord}
    (hkeyed : s.sessions.Keyed)
    (h : s.exec t env (.session (.removeByConnection c)) = some (s', r)) :
    s.sessions.get c = none ∧ r = none ∧ s'.sessions = s.sessions ∨
      ∃ record, s.sessions.get c = some record ∧ r = some { record with state := .closing } ∧
        s'.sessions = s.sessions.erase c := by
  obtain ⟨m, hm, rfl⟩ := exec_session h
  simp only [GateSessions.exec, Option.ite_none_right_eq_some, Option.some.injEq] at hm
  obtain ⟨hw, hm⟩ := hm
  rcases hkeyed.removeByConnection hw c with ⟨hnone, hremove⟩ | ⟨record, hget, hremove⟩
  · rw [hremove, Prod.mk.injEq] at hm
    exact .inl ⟨hnone, hm.2.symm, hm.1.symm⟩
  · rw [hremove, Prod.mk.injEq] at hm
    exact .inr ⟨record, hget, hm.2.symm, hm.1.symm⟩

/-- The connections are written by the connection service alone. -/
theorem exec_connections {a : GateAct} {r : a.Reply} (h : s.exec t env a = some (s', r)) :
    s'.connection = s.connection ∨ ∃ b, a = .connection b := by
  cases a with
  | connection b => exact .inr ⟨b, rfl⟩
  | session a =>
      obtain ⟨m, -, rfl⟩ := exec_session h
      exact .inl rfl
  | routing a =>
      obtain ⟨routes, rfl⟩ := exec_routing_writes h
      exact .inl rfl
  | account a =>
      obtain ⟨d, -, rfl⟩ := exec_account h
      exact .inl rfl
  | pending a =>
      obtain ⟨login, messages, rfl⟩ := exec_pending_writes h
      exact .inl rfl
  | sendProcessPayload target payload => exact .inl (by rw [(exec_send h).1])

/-- A section leaves the connection to Redis as it is. -/
theorem exec_redis {a : GateAct} {r : a.Reply} (h : s.exec t env a = some (s', r)) :
    s'.accounts.redis = s.accounts.redis := by
  cases a with
  | account a =>
      obtain ⟨d, hd, rfl⟩ := exec_account h
      exact GateAccountDirectoryService.exec_redis hd
  | connection a => rw [(exec_connection h).1]
  | session a =>
      obtain ⟨m, -, rfl⟩ := exec_session h
      rfl
  | routing a =>
      obtain ⟨routes, rfl⟩ := exec_routing_writes h
      rfl
  | pending a =>
      obtain ⟨login, messages, rfl⟩ := exec_pending_writes h
      rfl
  | sendProcessPayload target payload => rw [(exec_send h).1]

end GateProcess

end SomeServer
