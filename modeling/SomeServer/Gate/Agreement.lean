/-
# SomeServer.Gate.Agreement — the connections, the sessions and the routes of a gate agree

Five handlers write the three tables of a gate and look at none of each other's results. When nothing is
under way, a bound connection is one with an active session and a route leads to the active session of
its player, as long as no handler goes on for a connection that has been closed in the meantime and no
login gives an active session to another player. `tables_agree` says this of every run; the condition
(`Admits`) is checked where the section that goes wrong is about to run.
-/
import SomeServer.Gate.Tables

namespace SomeServer

open Lib

namespace HandlerPhase

/-- The phase after a section. -/
def next (phase : HandlerPhase) : (a : GateAct) → a.Reply → HandlerPhase
  | .connection (.markAnonymous connectionId), result =>
      if Result.ok result then .logging connectionId else phase
  | .connection (.markBound _), _ => .resting
  | .connection (.closeEnter connectionId), result =>
      if Result.ok result then .closing connectionId else phase
  | .connection (.finalize connectionId), _ => .closing connectionId
  | .connection (.send _ (.loginResponse _ _ _ _)), _ => .resting
  | .session (.removeByConnection _), none => .resting
  | .session (.removeByConnection _), some removed =>
      if GateSessionRecord.skipped removed then .resting
      else .unbinding removed.playerId removed.gateSessionId
  | .routing (.unbindPlayer _ _), _ => .resting
  | .pending (.registerLogin _ _), _ => .resting
  | .pending (.takeLogin _), some pending => .binding (PendingLogin.connectionId pending)
  | _, _ => phase

end HandlerPhase

/-- A gate, with the phases of its handlers written down. -/
abbrev WatchedGate (T : Type) := GateProcess T × (T → HandlerPhase)

namespace WatchedGate

variable {T : Type}

/-- What the tables say. -/
def tables (s : WatchedGate T) : GateTables T where
  connections := s.1.connection.connections
  owner := s.1.sessions.activePlayer
  routes p := (s.1.routes p).map GatePlayerRoute.gateSessionId
  waiting r := (s.1.login.pendingLogins r).map PendingLogin.connectionId
  phase := s.2

/-- The invariant of a gate. -/
structure Consistent (s : WatchedGate T) : Prop where
  keyed : s.1.sessions.Keyed
  paired : ∀ r pending, s.1.login.pendingLogins r = some pending →
    pending.gateSessionId = pending.connectionId
  agree : s.tables.Agree

/-- The condition on the sections of a run:
* no connection is marked, and no player bound, once the connection has been closed;
* an active session is given to no other player while a route leads to it;
* a session is not removed with its route left behind because its player or its game is 0;
* a login is not refused on a connection that a refused second login has left anonymous;
* numbers of connections and of requests that come around again are free;
* sends succeed. -/
def Admits (t : T) (o : GateOp) (a : GateAct) (env : GateEnv) (s : WatchedGate T) : Prop :=
  match a with
  | .connection .acceptReadySocket =>
      s.tables.connections s.1.connection.nextConnectionId ≠ some .closed ∧
        ((s.tables.owner s.1.connection.nextConnectionId).isSome = true →
          s.tables.Underway s.1.connection.nextConnectionId)
  | .connection (.markAnonymous c) => s.tables.connections c ≠ some .closed
  | .connection (.markBound c) =>
      s.tables.connections c ≠ none ∧ s.tables.connections c ≠ some .closed
  | .connection (.finalize c) => s.tables.connections c ≠ none
  | .connection (.send c (.loginResponse _ _ _ _)) =>
      ∀ response, o = .loginResponse response → response.code ≠ .ok →
        (s.tables.owner c).isSome = true →
          s.tables.connections c = some .bound ∨ s.tables.UnderwayElse t c
  | .session (.activate k _ p _) =>
      ∀ q, s.tables.owner k = some q → q = p ∨ s.tables.routes q ≠ some k
  | .session (.removeByConnection c) =>
      ∀ record, s.1.sessions.get c = some record → record.skipped = true →
        ∀ p, s.tables.owner c = some p → s.tables.routes p ≠ some c
  | .routing (.bindPlayer p _ k) => s.tables.owner k = some p
  | .pending (.registerLogin r _) => s.tables.waiting r = none
  | .sendProcessPayload _ _ => env.sent.ok = true
  | _ => True

/-- What a handler knows of its own phase when it comes to a section. -/
def Fits (t : T) (o : GateOp) (a : GateAct) (s : WatchedGate T) : Prop :=
  match a with
  | .connection (.markAnonymous _) => s.2 t = .resting
  | .connection (.markBound c) => s.2 t = .binding c ∧
      ((s.tables.owner c).isSome = true ∨ s.tables.connections c = some .closed)
  | .connection (.closeEnter _) => s.2 t = .resting
  | .connection (.finalize c) => s.2 t = .resting ∨ s.2 t = .closing c
  | .connection (.send c (.loginResponse _ _ _ _)) => s.2 t = .resting ∨
      s.2 t = .binding c ∧ ∃ response, o = .loginResponse response ∧ response.code ≠ .ok
  | .session (.openAnonymous k c) => k = c
  | .session (.activate k _ _ _) => s.2 t = .binding k
  | .session (.removeByConnection c) => s.2 t = .closing c
  | .routing (.unbindPlayer p k) => s.2 t = .unbinding p k
  | .pending (.registerLogin _ pending) => pending.gateSessionId = pending.connectionId ∧
      s.2 t = .logging pending.connectionId
  | .pending (.takeLogin _) => s.2 t = .resting
  | _ => True

variable [DecidableEq T]

/-- The gate, with its phases. -/
def machine : Machine T GateAct GateAct.Reply GateEnv (WatchedGate T) :=
  GateProcess.machine.withHistory fun t a _ _ _ r phase =>
    Function.update phase t ((phase t).next a r)

variable {t : T} {o : GateOp} {a : GateAct} {i : GateEnv} {s s' : WatchedGate T} {r : a.Reply}

-- The equations are made here, once for the lemmas below.
attribute [local simp] HandlerPhase.next in
theorem machine_exec (h : machine.exec t a i s = some (s', r)) :
    s.1.exec t i a = some (s'.1, r) ∧ s'.2 = Function.update s.2 t ((s.2 t).next a r) :=
  Machine.withHistory_exec h

/-! ## One section -/

omit [DecidableEq T] in
/-- A section after which the tables are the same. -/
theorem Consistent.same (hI : s.Consistent) (hkeyed : s'.1.sessions.Keyed)
    (hlogins : s'.1.login.pendingLogins = s.1.login.pendingLogins) (htables : s'.tables = s.tables) :
    s'.Consistent ∧ s.tables.Stays s'.tables := by
  rw [htables]
  refine ⟨⟨hkeyed, ?_, htables ▸ hI.agree⟩, GateTables.Stays.refl _⟩
  rw [hlogins]
  exact hI.paired

theorem Consistent.connection {a : ConnectionAct} {r : a.Reply} (hI : s.Consistent)
    (hfits : Fits t o (.connection a) s) (hok : Admits t o (.connection a) i s)
    (hx : machine.exec t (.connection a) i s = some (s', r)) :
    s'.Consistent ∧ s.tables.Stays s'.tables := by
  obtain ⟨hexec, hphase⟩ := machine_exec hx
  obtain ⟨hg, hr⟩ := GateProcess.exec_connection hexec
  clear hx hexec
  obtain ⟨g, phase⟩ := s
  obtain ⟨g', phase'⟩ := s'
  dsimp only at hg hr hphase
  subst hg hr hphase
  have hagree := hI.agree
  suffices h : (tables _).Agree ∧ (tables (g, phase)).Stays (tables _) from
    ⟨⟨hI.keyed, hI.paired, h.1⟩, h.2⟩
  cases a with
  -- a number that was used before is excluded by the condition
  | acceptReadySocket =>
      simp only [HandlerPhase.next, Function.update_eq_self]
      exact ⟨hagree.setConnection hok.1 (by decide) hok.2, GateTables.stays_setConnection hok.1⟩
  | accept c =>
      simp only [HandlerPhase.next, Function.update_eq_self, GateConnectionService.exec,
        GateConnectionService.accept]
      split
      · exact ⟨hagree, GateTables.Stays.refl _⟩
      · rename_i hnone
        have hfree : (tables (g, phase)).connections c = none := Option.not_isSome_iff_eq_none.mp hnone
        have hopen : (tables (g, phase)).connections c ≠ some .closed := by simp [hfree]
        refine ⟨hagree.setConnection hopen (by decide) fun ho => ?_, GateTables.stays_setConnection hopen⟩
        exact (hagree.active c ho).resolve_left (by simp [hfree])
  | markAnonymous c =>
      simp only [HandlerPhase.next, GateConnectionService.exec, GateConnectionService.mark]
      split
      · exact ⟨hagree.markAnonymous hfits hok, GateTables.stays_setConnection hok⟩
      · simp only [Result.failure_ok, Bool.false_eq_true, if_false, Function.update_eq_self]
        exact ⟨hagree, GateTables.Stays.refl _⟩
  -- the handler has activated the session, and the connection is not closed
  | markBound c =>
      obtain ⟨hbinding, hactive⟩ := hfits
      have ho := hactive.resolve_right hok.2
      have hsome : (g.connection.connections c).isSome = true := Option.isSome_iff_ne_none.mpr hok.1
      simp only [HandlerPhase.next, GateConnectionService.exec, GateConnectionService.mark, hsome, if_true]
      exact ⟨hagree.markBound hbinding hok.2 ho, GateTables.stays_setConnection hok.2⟩
  -- whoever closes goes on to remove the session
  | closeEnter c =>
      simp only [HandlerPhase.next, GateConnectionService.exec, GateConnectionService.closeEnter]
      split
      · exact ⟨hagree.close (.inl hfits), GateTables.stays_close⟩
      · simp only [Result.failure_ok, Bool.false_eq_true, if_false, Function.update_eq_self]
        exact ⟨hagree, GateTables.Stays.refl _⟩
  | finalize c =>
      have hsome : (g.connection.connections c).isSome = true := Option.isSome_iff_ne_none.mpr hok
      simp only [HandlerPhase.next, GateConnectionService.exec, GateConnectionService.finalize, hsome,
        if_true]
      exact ⟨hagree.close hfits, GateTables.stays_close⟩
  | send c message =>
      cases message with
      | loginResponse p isReconnect errorCode errorMessage =>
          refine ⟨?_, GateTables.Stays.refl _⟩
          rcases hfits with hresting | ⟨hbinding, response, ho, hcode⟩
          · show ((tables (g, phase)).setPhase t .resting).Agree
            rwa [GateTables.setPhase_self hresting]
          · exact hagree.settle hbinding (hok response ho hcode)
      | kickNotification reason | playerMessageResponse errorCode errorMessage =>
          simp only [HandlerPhase.next, Function.update_eq_self]
          exact ⟨hagree, GateTables.Stays.refl _⟩

theorem Consistent.session {a : GateSessionAct} {r : a.Reply} (hI : s.Consistent)
    (hfits : Fits t o (.session a) s) (hok : Admits t o (.session a) i s)
    (hx : machine.exec t (.session a) i s = some (s', r)) :
    s'.Consistent ∧ s.tables.Stays s'.tables := by
  obtain ⟨hexec, hphase⟩ := machine_exec hx
  obtain ⟨m, hm, hg⟩ := GateProcess.exec_session hexec
  clear hx hexec
  obtain ⟨g, phase⟩ := s
  obtain ⟨g', phase'⟩ := s'
  dsimp only at hg hm hphase
  subst hg hphase
  have hagree := hI.agree
  suffices h : m.Keyed ∧ (tables _).Agree ∧ (tables (g, phase)).Stays (tables _) from
    ⟨⟨h.1, hI.paired, h.2.1⟩, h.2.2⟩
  cases a with
  | openAnonymous k c =>
      obtain rfl : k = c := hfits
      simp only [GateSessions.exec, Option.some.injEq] at hm
      obtain rfl : (GateSessions.openAnonymous k k g.sessions).1 = m := congrArg Prod.fst hm
      simp only [HandlerPhase.next, Function.update_eq_self, tables,
        GateSessions.activePlayer_openAnonymous]
      exact ⟨hI.keyed.openAnonymous, hagree, GateTables.Stays.refl _⟩
  -- the session becomes active for the handler that is to route and bind it
  | activate k accountId p game =>
      simp only [GateSessions.exec, Option.some.injEq] at hm
      obtain rfl : (GateSessions.activate k accountId p game g.sessions).1 = m := congrArg Prod.fst hm
      simp only [HandlerPhase.next, Function.update_eq_self]
      refine ⟨hI.keyed.activate, ?_⟩
      rcases GateSessions.activate_cases accountId p game g.sessions k with
        ⟨-, hsame⟩ | ⟨-, howner, -⟩
      · rw [hsame]
        exact ⟨hagree, GateTables.Stays.refl _⟩
      · have htables : tables ({ g with sessions := (g.sessions.activate k accountId p game).1 }, phase) =
            (tables (g, phase)).setOwner k (some p) := by
          simp only [tables, howner, GateTables.setOwner]
        rw [htables]
        exact ⟨hagree.activate hfits hok, GateTables.stays_activate⟩
  | removeByConnection c =>
      simp only [GateSessions.exec, Option.ite_none_right_eq_some, Option.some.injEq] at hm
      obtain ⟨hw, hm⟩ := hm
      have hclosed := hagree.closing t c hfits
      rcases hI.keyed.removeByConnection hw c with ⟨hnone, hremove⟩ | ⟨record, hget, hremove⟩
      -- no session for the connection: the handler is done
      · rw [hremove, Prod.mk.injEq] at hm
        obtain ⟨rfl, rfl⟩ := hm
        have howner : (tables (g, phase)).setOwner c none = tables (g, phase) := by
          simp [GateTables.setOwner, tables, ← GateSessions.activePlayer_none hnone]
        refine ⟨hI.keyed, ?_, GateTables.Stays.refl _⟩
        show ((tables (g, phase)).setPhase t .resting).Agree
        rw [← howner]
        refine hagree.remove hfits (fun p ho => ?_) (.inl rfl)
        rw [show (tables (g, phase)).owner c = none from GateSessions.activePlayer_none hnone] at ho
        cases ho
      · rw [hremove, Prod.mk.injEq] at hm
        obtain ⟨rfl, rfl⟩ := hm
        have hnumber : record.gateSessionId = c := (hI.keyed c record hget).1
        have htables : ∀ ph, tables ({ g with sessions := g.sessions.erase c },
            Function.update phase t ph) = ((tables (g, phase)).setOwner c none).setPhase t ph := by
          intro ph
          simp only [tables, GateSessions.activePlayer_erase, GateTables.setOwner, GateTables.setPhase]
        -- the removed session had a player, whose route is the handler's next thing to undo
        have hplayer : ∀ p, (tables (g, phase)).owner c = some p → record.playerId = p := by
          intro p ho
          obtain ⟨record', hget', -, hp⟩ := GateSessions.ofActive_eq_some.mp ho
          obtain rfl : record = record' := Option.some.inj (hget.symm.trans hget')
          exact hp
        rw [htables]
        refine ⟨hI.keyed.erase, hagree.remove hfits ?_ ?_, GateTables.stays_remove hclosed⟩
        · intro p ho hp
          have hnot : ¬ ({ record with state := .closing } : GateSessionRecord).skipped = true :=
            fun hskipped => hok record hget hskipped p ho hp
          simp only [HandlerPhase.next]
          rw [if_neg hnot, hnumber, hplayer p ho]
        · simp only [HandlerPhase.next]
          split
          · exact .inl rfl
          · exact .inr ⟨_, _, rfl⟩
  | findByConnection c | findByAccount accountId =>
      simp only [GateSessions.exec, Option.ite_none_right_eq_some, Option.some.injEq] at hm
      obtain rfl : g.sessions = m := congrArg Prod.fst hm.2
      simp only [HandlerPhase.next, Function.update_eq_self]
      exact ⟨hI.keyed, hagree, GateTables.Stays.refl _⟩
  | snapshot k =>
      simp only [GateSessions.exec, Option.some.injEq] at hm
      obtain rfl : g.sessions = m := congrArg Prod.fst hm
      simp only [HandlerPhase.next, Function.update_eq_self]
      exact ⟨hI.keyed, hagree, GateTables.Stays.refl _⟩

theorem Consistent.routing {a : RoutingAct} {r : a.Reply} (hI : s.Consistent)
    (hfits : Fits t o (.routing a) s) (hok : Admits t o (.routing a) i s)
    (hx : machine.exec t (.routing a) i s = some (s', r)) :
    s'.Consistent ∧ s.tables.Stays s'.tables := by
  obtain ⟨hexec, hphase⟩ := machine_exec hx
  have hg := GateProcess.exec_routing hexec
  clear hx hexec
  obtain ⟨g, phase⟩ := s
  obtain ⟨g', phase'⟩ := s'
  dsimp only at hg hphase
  subst hg hphase
  have hagree := hI.agree
  cases a with
  -- the session is active, by the condition, so the route leads to it
  | bindPlayer p game k =>
      simp only [HandlerPhase.next, Function.update_eq_self]
      have htables : tables ((g.execRouting (.bindPlayer p game k)).1, phase) =
          (tables (g, phase)).setRoute p (some k) := by
        simp only [tables, GateProcess.execRouting, GateTables.setRoute, GateTables.mk.injEq, true_and,
          and_true]
        funext q
        by_cases hq : q = p
        · subst hq
          simp
        · simp [Function.update_of_ne hq]
      refine ⟨⟨hI.keyed, hI.paired, ?_⟩, ?_⟩
      · rw [htables]
        exact hagree.bind hok
      · rw [htables]
        exact GateTables.Stays.refl _
  -- the route goes if it is still the session's own
  | unbindPlayer p k =>
      simp only [HandlerPhase.next]
      have htables : tables ((g.execRouting (.unbindPlayer p k)).1, Function.update phase t .resting) =
          (if (tables (g, phase)).routes p = some k then (tables (g, phase)).setRoute p none
            else tables (g, phase)).setPhase t .resting := by
        rw [GateProcess.unbindPlayer_state]
        show tables (if (tables (g, phase)).routes p = some k then _ else _, _) = _
        split
        · simp only [tables, GateTables.setRoute, GateTables.setPhase, GateTables.mk.injEq, true_and,
            and_true]
          funext q
          by_cases hq : q = p
          · subst hq
            simp
          · simp [Function.update_of_ne hq]
        · rfl
      have hframe : (g.execRouting (.unbindPlayer p k)).1.sessions = g.sessions ∧
          (g.execRouting (.unbindPlayer p k)).1.login = g.login := by
        rw [GateProcess.unbindPlayer_state]
        split <;> exact ⟨rfl, rfl⟩
      refine ⟨⟨?_, ?_, ?_⟩, ?_⟩
      · rw [show _ = g.sessions from hframe.1]
        exact hI.keyed
      · rw [show _ = g.login from hframe.2]
        exact hI.paired
      · rw [htables]
        exact hagree.unbind hfits
      · rw [htables]
        split
        · exact GateTables.Stays.refl _
        · exact GateTables.Stays.refl _

theorem Consistent.pending {a : PendingAct} {r : a.Reply} (hI : s.Consistent)
    (hfits : Fits t o (.pending a) s) (hok : Admits t o (.pending a) i s)
    (hx : machine.exec t (.pending a) i s = some (s', r)) :
    s'.Consistent ∧ s.tables.Stays s'.tables := by
  obtain ⟨hexec, hphase⟩ := machine_exec hx
  obtain ⟨hg, hr⟩ := GateProcess.exec_pending hexec
  clear hx hexec
  obtain ⟨g, phase⟩ := s
  obtain ⟨g', phase'⟩ := s'
  dsimp only at hg hr hphase
  subst hg hr hphase
  have hagree := hI.agree
  cases a with
  -- from here on the login waits, and its handler is done
  | registerLogin r pending =>
      obtain ⟨hpaired, hlogging⟩ := hfits
      have htables : tables ((g.execPending (.registerLogin r pending)).1, Function.update phase t .resting) =
          ((tables (g, phase)).setWaiting r (some pending.connectionId)).setPhase t .resting := by
        simp only [tables, GateProcess.execPending, GateTables.setWaiting, GateTables.setPhase,
          GateTables.mk.injEq, true_and, and_true]
        funext q
        by_cases hq : q = r
        · subst hq
          simp
        · simp [Function.update_of_ne hq]
      refine ⟨⟨hI.keyed, ?_, ?_⟩, GateTables.Stays.refl _⟩
      · intro q pending' hq
        by_cases hqr : q = r
        · subst hqr
          simp only [GateProcess.execPending, Function.update_self, Option.some.injEq] at hq
          exact hq ▸ hpaired
        · simp only [GateProcess.execPending, Function.update_of_ne hqr] at hq
          exact hI.paired q pending' hq
      · show (tables (_, Function.update phase t .resting)).Agree
        rw [htables]
        exact hagree.register hlogging hok
  -- what waited is taken over by the handler of the response
  | takeLogin r =>
      have hpaired : ∀ q pending, (g.execPending (.takeLogin r)).1.login.pendingLogins q = some pending →
          pending.gateSessionId = pending.connectionId := by
        intro q pending hq
        by_cases hqr : q = r
        · subst hqr
          simp [GateProcess.execPending] at hq
        · simp only [GateProcess.execPending, Function.update_of_ne hqr] at hq
          exact hI.paired q pending hq
      have htables : ∀ phase', tables ((g.execPending (.takeLogin r)).1, phase') =
          (tables (g, phase')).setWaiting r none := by
        intro phase'
        simp only [tables, GateProcess.execPending, GateTables.setWaiting, GateTables.mk.injEq,
          true_and, and_true]
        funext q
        by_cases hq : q = r
        · subst hq
          simp
        · simp [Function.update_of_ne hq]
      refine ⟨⟨hI.keyed, hpaired, ?_⟩, GateTables.Stays.refl _⟩
      rw [htables]
      cases hwaits : g.login.pendingLogins r with
      | none =>
          simp only [HandlerPhase.next, GateProcess.execPending, hwaits, Function.update_eq_self]
          refine hagree.setWaiting fun c hc => ?_
          simp only [tables, hwaits] at hc
          cases hc
      | some pending =>
          simp only [HandlerPhase.next, GateProcess.execPending, hwaits]
          exact hagree.take hfits (by simp only [tables, hwaits]; rfl)
  | nextLoginRequest | nextMessageRequest | registerMessage r pending | takeMessage r =>
      simp only [HandlerPhase.next, Function.update_eq_self]
      exact ⟨⟨hI.keyed, hI.paired, hagree⟩, GateTables.Stays.refl _⟩

/-- Every section keeps the invariant, and takes nothing back. -/
theorem Consistent.step (hI : s.Consistent) (hfits : Fits t o a s) (hok : Admits t o a i s)
    (hx : machine.exec t a i s = some (s', r)) : s'.Consistent ∧ s.tables.Stays s'.tables := by
  cases a with
  | connection a => exact hI.connection hfits hok hx
  | session a => exact hI.session hfits hok hx
  | routing a => exact hI.routing hfits hok hx
  | pending a => exact hI.pending hfits hok hx
  | account a =>
      obtain ⟨hexec, hphase⟩ := machine_exec hx
      obtain ⟨d, -, hg⟩ := GateProcess.exec_account hexec
      simp only [HandlerPhase.next, Function.update_eq_self] at hphase
      exact hI.same (by rw [hg]; exact hI.keyed) (by rw [hg]) (by simp only [tables, hg, hphase])
  | sendProcessPayload target payload =>
      obtain ⟨hexec, hphase⟩ := machine_exec hx
      obtain ⟨hg, -⟩ := GateProcess.exec_send hexec
      simp only [HandlerPhase.next, Function.update_eq_self] at hphase
      exact hI.same (by rw [hg]; exact hI.keyed) (by rw [hg]) (by simp only [tables, hg, hphase])

/-! ## Outlines -/

/-- The outline of the tables: a handler may rely on its own phase, and on what nobody takes back. -/
def outline : Outline T GateOp GateAct GateEnv (WatchedGate T) where
  inv := Consistent
  rest t s := s.2 t = .resting
  start _ _ _ := True
  ok := Admits
  event t _ _ _ s s' := (∀ u, u ≠ t → s'.2 u = s.2 u) ∧ s.tables.Stays s'.tables
  rely t _ s s' := s'.2 t = s.2 t ∧ s.tables.Stays s'.tables
  rely_refl _ _ _ := ⟨rfl, GateTables.Stays.refl _⟩
  rely_trans _ _ _ _ _ h h' := ⟨h'.1.trans h.1, h.2.trans h'.2⟩
  rest_rely _ _ _ h hrest := h.1.trans hrest

variable {α : Type} {k : a.Reply → GateCall α} {Q : α → WatchedGate T → Prop} {ph : HandlerPhase}

/-- The rule of one section. -/
theorem section_seq (hfits : ∀ s₁, s₁.2 t = s.2 t → s.tables.Stays s₁.tables → Fits t o a s₁)
    (hk : ∀ s₁ i s₂ r, s.tables.Stays s₁.tables → Admits t o a i s₁ →
      machine.exec t a i s₁ = some (s₂, r) → s₂.2 t = (s.2 t).next a r →
      outline.Safe machine t o Q (k r) s₂) : outline.Safe machine t o Q (gateCall a >>= k) s := by
  intro s₁ hrely hI i s₂ r hok hx
  obtain ⟨hI₂, hstays⟩ := hI.step (hfits s₁ hrely.1 hrely.2) hok hx
  have hphase := (machine_exec hx).2
  refine ⟨⟨fun u hu => ?_, hstays⟩, hI₂, hk s₁ i s₂ r hrely.2 hok hx ?_⟩
  · rw [hphase, Function.update_of_ne hu]
  · rw [hphase, Function.update_self, hrely.1]

/-- The rule of a section that only needs the phase. -/
theorem phase_seq (hph : s.2 t = ph) (hfits : ∀ s₁, s₁.2 t = ph → Fits t o a s₁)
    (hk : ∀ r s₂, s₂.2 t = ph.next a r → outline.Safe machine t o Q (k r) s₂) :
    outline.Safe machine t o Q (gateCall a >>= k) s := by
  subst hph
  exact section_seq (fun s₁ h _ => hfits s₁ h) fun _ _ s₂ r _ _ _ hs₂ => hk r s₂ hs₂

/-- The rule of a send, which succeeds. -/
theorem send_seq {target : ProcessId} {payload : GatePayload} {k : Result → GateCall α}
    (hph : s.2 t = ph)
    (hk : ∀ r s₂, Result.ok r = true → s₂.2 t = ph → outline.Safe machine t o Q (k r) s₂) :
    outline.Safe machine t o Q (gateCall (.sendProcessPayload target payload) >>= k) s := by
  subst hph
  refine section_seq (fun _ _ _ => trivial) fun s₁ i s₂ r _ hok hx hs₂ => hk r s₂ ?_ hs₂
  obtain ⟨-, hr⟩ := GateProcess.exec_send (machine_exec hx).1
  rw [hr]
  exact hok

/-- A handler that comes from one phase to another. -/
def Takes (t : T) (o : GateOp) (ph ph' : HandlerPhase) (x : GateCall α) : Prop :=
  ∀ s : WatchedGate T, s.2 t = ph → outline.Safe machine t o (fun _ s' => s'.2 t = ph') x s

theorem Takes.bind {β : Type} {ph ph' ph'' : HandlerPhase} {x : GateCall α} {f : α → GateCall β}
    (hx : Takes t o ph ph' x) (hf : ∀ y, Takes t o ph' ph'' (f y)) : Takes t o ph ph'' (x >>= f) :=
  fun s hs => Outline.Safe.bind ((hx s hs).mono fun y s' hs' => hf y s' hs')

theorem Takes.pure {x : α} : Takes t o ph ph (Prog.ret x) := fun _ hs => hs

/-- The rule of a section after which the handler is where it was, or where it goes. -/
theorem Takes.seq {ph' : HandlerPhase} (hfits : ∀ s : WatchedGate T, s.2 t = ph → Fits t o a s)
    (hk : ∀ r, Takes t o (ph.next a r) ph' (k r)) : Takes t o ph ph' (gateCall a >>= k) :=
  fun _ hs => phase_seq hs hfits fun r s₂ hs₂ => hk r s₂ hs₂

theorem Takes.call (hfits : ∀ s : WatchedGate T, s.2 t = ph → Fits t o a s) {ph' : HandlerPhase}
    (hnext : ∀ r, ph.next a r = ph') : Takes t o ph ph' (gateCall a) :=
  fun _ hs => phase_seq hs hfits fun r _ hs₂ => hs₂.trans (hnext r)

/-! ### Closing a connection -/

theorem removeAccountIfMatches_takes (accountId : String) (owner : GateAccountOwner) :
    Takes t o ph ph (removeAccountIfMatches accountId owner) := by
  apply Takes.seq
  · exact fun _ _ => trivial
  · intro decision
    cases decision with
    | done result => exact Takes.pure
    | delete => exact Takes.call (a := .account (.removeDelete accountId)) (fun _ _ => trivial) fun _ => rfl

/-- The handler is about to remove the route, unless the session has none. -/
theorem handleSessionDisconnected_takes (cfg : GateConfiguration) (session : GateSessionRecord) :
    Takes t o (if session.skipped then .resting else .unbinding session.playerId session.gateSessionId)
      .resting (handleSessionDisconnected cfg session) := by
  unfold handleSessionDisconnected
  by_cases hskipped : session.skipped = true
  · rw [if_pos hskipped, if_pos (GateSessionRecord.skipped_iff.mp hskipped)]
    exact Takes.pure
  · rw [if_neg hskipped, if_neg (fun h => hskipped (GateSessionRecord.skipped_iff.mpr h))]
    intro s hs
    refine send_seq hs fun send s₂ hsend hs₂ => ?_
    rw [hsend]
    have hunbind : Takes t o (.unbinding session.playerId session.gateSessionId) .resting
        (gateCall (.routing (.unbindPlayer session.playerId session.gateSessionId)) >>= fun _ =>
          removeAccountIfMatches session.accountId (cfg.gateSession session.gateSessionId) >>= fun _ =>
            Prog.ret Result.success) :=
      Takes.seq (fun _ h => h) fun _ => (removeAccountIfMatches_takes _ _).bind fun _ => Takes.pure
    exact hunbind s₂ hs₂

theorem disconnectHandler_takes (cfg : GateConfiguration) (c : ConnectionId) :
    Takes t o (.closing c) .resting (disconnectHandler cfg c) := by
  refine Takes.seq (fun _ h => h) fun removed => ?_
  cases removed with
  | none => exact Takes.pure
  | some removed => exact (handleSessionDisconnected_takes cfg removed).bind fun _ => Takes.pure

theorem finalizeConnection_takes (cfg : GateConfiguration) (c : ConnectionId)
    (hph : ph = .resting ∨ ph = .closing c) :
    Takes t o ph .resting (finalizeConnection cfg c) := by
  refine Takes.seq (fun s hs => ?_) fun _ => disconnectHandler_takes cfg c
  show s.2 t = _ ∨ s.2 t = _
  rw [hs]
  exact hph

theorem closeConnection_takes (cfg : GateConfiguration) (c : ConnectionId) :
    Takes t o .resting .resting (closeConnection cfg c) := by
  refine Takes.seq (fun _ h => h) fun enter => ?_
  cases hok : Result.ok enter with
  | false =>
      simp only [HandlerPhase.next, hok]
      exact Takes.pure
  | true =>
      simp only [HandlerPhase.next, hok]
      exact (finalizeConnection_takes cfg c (.inr rfl)).bind fun _ => Takes.pure

theorem kickConnection_takes (cfg : GateConfiguration) (c : ConnectionId) (reason : String) :
    Takes t o .resting .resting (kickConnection cfg c reason) := by
  refine Takes.seq (fun _ _ => trivial) fun send => ?_
  split
  · exact Takes.pure
  · exact closeConnection_takes cfg c

/-! ### Logging in -/

theorem kickExisting_takes (cfg : GateConfiguration) (existing : Option GateSessionRecord)
    (c : ConnectionId) : Takes t o .resting .resting (kickExisting cfg existing c) := by
  unfold kickExisting
  split
  · exact Takes.pure
  · split
    · exact Takes.pure
    · exact kickConnection_takes cfg _ _

theorem kickExistingAccountSession_takes (cfg : GateConfiguration) (accountId : String)
    (c : ConnectionId) : Takes t o .resting .resting (kickExistingAccountSession cfg accountId c) := by
  apply Takes.seq
  · exact fun _ _ => trivial
  · intro found
    cases found with
    | none =>
        exact Takes.seq (fun _ _ => trivial) fun existing => kickExisting_takes cfg existing c
    | some owner =>
        dsimp only
        split
        · exact Takes.seq (fun _ _ => trivial) fun existing => kickExisting_takes cfg existing c
        · refine Takes.seq (fun _ _ => trivial) fun requestId => ?_
          refine Takes.seq (fun _ _ => trivial) fun send => ?_
          split <;> exact Takes.pure

theorem requestLogin_takes (cfg : GateConfiguration) (game : UInt32) (c : ConnectionId)
    (platform accountId : String) (areaId : UInt32) :
    Takes t o (.logging c) .resting (requestLogin cfg game c c platform accountId areaId) := by
  refine Takes.seq (fun _ _ => trivial) fun requestId => ?_
  intro s hs
  refine send_seq hs fun send s₂ hsend hs₂ => ?_
  rw [hsend]
  have hregister : Takes t o (.logging c) .resting
      (gateCall (.pending (.registerLogin requestId ⟨c, c, accountId⟩)) >>= fun _ =>
        Prog.ret Result.success) :=
    Takes.seq (fun _ h => ⟨rfl, h⟩) fun _ => Takes.pure
  exact hregister s₂ hs₂

theorem openSession_takes (c : ConnectionId) : Takes t o .resting .resting (openSession c c) := by
  refine Takes.seq (fun _ _ => trivial) fun session => ?_
  split
  · exact Takes.pure
  · exact Takes.call (a := .session (.openAnonymous c c)) (fun _ _ => rfl) fun _ => rfl

theorem handleClientLogin_takes (cfg : GateConfiguration) (c : ConnectionId)
    (platform accountId credential : String) :
    Takes t o .resting .resting (handleClientLogin cfg c platform accountId credential) := by
  unfold handleClientLogin
  cases validate platform accountId credential with
  | some message =>
      exact Takes.call (a := .connection (.send c (.loginResponse 0 false .unauthorized message)))
        (fun _ h => .inl h) fun _ => rfl
  | none =>
      refine (kickExistingAccountSession_takes cfg accountId c).bind fun kick => ?_
      split
      · exact Takes.pure
      · refine (openSession_takes c).bind fun opened => ?_
        split
        · exact Takes.pure
        · refine Takes.seq (fun _ h => h) fun anonymous => ?_
          cases hok : Result.ok anonymous with
          | false =>
              simp only [HandlerPhase.next, hok]
              exact Takes.pure
          | true =>
              simp only [HandlerPhase.next, hok]
              exact requestLogin_takes cfg 1 c platform accountId 1

/-- A session is activated, its player is routed to it, and its connection is marked: in between, the
connection may be closed and the session removed. -/
theorem acceptLogin_takes (cfg : GateConfiguration) (pending : PendingLogin)
    (response : LoginPlayerResponse) (hpaired : pending.gateSessionId = pending.connectionId) :
    Takes t o (.binding pending.connectionId) .resting (acceptLogin cfg pending response) := by
  refine Takes.seq (fun _ h => hpaired ▸ h) fun _ => ?_
  intro s hs
  refine section_seq (fun _ _ _ => trivial) fun s₁ i s₂ _ _ hok hx hs₂ => ?_
  -- the session is active at the routing, by the condition of that section
  have hactive : (s₂.tables.owner pending.connectionId).isSome = true := by
    obtain ⟨hexec, -⟩ := machine_exec hx
    have howner : s₁.1.sessions.activePlayer pending.connectionId = some response.playerId :=
      hpaired ▸ hok
    show (s₂.1.sessions.activePlayer _).isSome = true
    rw [GateProcess.exec_routing hexec]
    show (s₁.1.sessions.activePlayer _).isSome = true
    rw [howner]
    rfl
  have hbinding : s₂.2 t = .binding pending.connectionId := by
    rw [hs₂, hs]
    rfl
  have hafter : ∀ r : Result, Takes t o (HandlerPhase.resting) .resting
      (gateCall (.account (.bindAccount pending.accountId (cfg.gateSession pending.gateSessionId)))
        >>= fun _ => Prog.ret ()) := fun _ =>
    Takes.seq (fun _ _ => trivial) fun _ => Takes.pure
  refine section_seq (fun s₃ hs₃ hstays => ?_) fun s₃ i₃ s₄ r _ _ _ hs₄ => hafter r s₄ hs₄
  refine ⟨hs₃.trans hbinding, ?_⟩
  exact (hstays pending.connectionId).2 hactive

theorem answerClient_takes (pending : PendingLogin) (response : LoginPlayerResponse)
    (hph : ph = .resting ∨ ph = .binding pending.connectionId ∧ o = .loginResponse response ∧
      response.code ≠ .ok) : Takes t o ph .resting (answerClient pending response) := by
  unfold answerClient
  refine Takes.call (fun s hs => ?_) fun _ => rfl
  rcases hph with rfl | ⟨rfl, ho, hcode⟩
  · exact .inl hs
  · exact .inr ⟨hs, response, ho, hcode⟩

/-- What is taken from the table of pending logins is for the session of its connection. -/
theorem handleLoginResponse_takes (cfg : GateConfiguration) (response : LoginPlayerResponse) :
    Takes t (.loginResponse response) .resting .resting (handleLoginResponse cfg response) := by
  intro s hs s₁ hrely hI i s₂ taken hok hx
  have hresting : s₁.2 t = .resting := hrely.1.trans hs
  have hfits : Fits t (.loginResponse response) (.pending (.takeLogin response.requestId)) s₁ := hresting
  obtain ⟨hI₂, hstays⟩ := hI.step hfits hok hx
  obtain ⟨hexec, hphase⟩ := machine_exec hx
  refine ⟨⟨fun u hu => by rw [hphase, Function.update_of_ne hu], hstays⟩, hI₂, ?_⟩
  have hs₂ : s₂.2 t = HandlerPhase.resting.next (.pending (.takeLogin response.requestId)) taken := by
    rw [hphase, Function.update_self, hresting]
  cases taken with
  -- no login waits: the response is dropped
  | none => exact hs₂
  | some pending =>
      have hpaired : pending.gateSessionId = pending.connectionId :=
        hI.paired response.requestId pending (GateProcess.exec_pending hexec).2.symm
      have hanswer : Takes t (.loginResponse response) (.binding pending.connectionId) .resting
          (if response.code = .ok then do
            acceptLogin cfg pending response
            answerClient pending response
          else answerClient pending response) := by
        split
        · exact (acceptLogin_takes cfg pending response hpaired).bind fun _ =>
            answerClient_takes pending response (.inl rfl)
        · rename_i hcode
          exact answerClient_takes pending response (.inr ⟨rfl, rfl, hcode⟩)
      exact hanswer s₂ hs₂

/-! ### Being told to close, and player messages -/

theorem handleKickAccountSession_takes (cfg : GateConfiguration) (accountId : String)
    (k : GateSessionId) (reason : String) :
    Takes t o .resting .resting (handleKickAccountSession cfg accountId k reason) := by
  refine Takes.seq (fun _ _ => trivial) fun session => ?_
  cases session with
  | none => exact Takes.pure
  | some session =>
      dsimp only
      split
      · exact Takes.pure
      · exact kickConnection_takes cfg _ _

theorem handleUnbindPlayerSession_takes (cfg : GateConfiguration) (p : PlayerId) (k : GateSessionId) :
    Takes t o .resting .resting (handleUnbindPlayerSession cfg p k) := by
  refine Takes.seq (fun _ _ => trivial) fun session => ?_
  cases session with
  | none => exact Takes.pure
  | some session =>
      dsimp only
      split
      · exact Takes.pure
      · refine Takes.seq (fun _ _ => trivial) fun send => ?_
        split
        · exact Takes.pure
        · refine (closeConnection_takes cfg _).bind fun close => ?_
          split <;> exact Takes.pure

theorem handleClientPlayerMessage_takes (c : ConnectionId) (command : PlayerCommand) :
    Takes t o .resting .resting (handleClientPlayerMessage c command) := by
  refine Takes.seq (fun _ _ => trivial) fun session => ?_
  cases session with
  | none => exact Takes.pure
  | some session =>
      dsimp only
      split
      · exact Takes.pure
      · refine Takes.seq (fun _ _ => trivial) fun requestId => ?_
        refine Takes.seq (fun _ _ => trivial) fun send => ?_
        split
        · exact Takes.pure
        · exact Takes.seq (fun _ _ => trivial) fun _ => Takes.pure

theorem handleForwardPlayerMessageResponse_takes (r : RequestId) (code : ResultCode) (message : String) :
    Takes t o .resting .resting (handleForwardPlayerMessageResponse r code message) := by
  refine Takes.seq (fun _ _ => trivial) fun pending => ?_
  cases pending with
  | none => exact Takes.pure
  | some pending =>
      exact Takes.call (a := .connection (.send pending.connectionId
        (.playerMessageResponse (if code = .ok then .ok else .internal) message)))
        (fun _ _ => trivial) fun _ => rfl

theorem code_takes (cfg : GateConfiguration) : Takes t o .resting .resting (o.code cfg) := by
  cases o with
  | acceptReadySocket => exact Takes.seq (fun _ _ => trivial) fun _ => Takes.pure
  | endOfStream c => exact (finalizeConnection_takes cfg c (.inl rfl)).bind fun _ => Takes.pure
  | clientLogin c platform accountId credential => exact handleClientLogin_takes cfg c _ _ _
  | clientMessage c command => exact handleClientPlayerMessage_takes c command
  | accept c => exact Takes.call (a := .connection (.accept c)) (fun _ _ => trivial) fun _ => rfl
  | close c => exact closeConnection_takes cfg c
  | loginResponse response => exact handleLoginResponse_takes cfg response
  | kickAccountSession accountId k reason => exact handleKickAccountSession_takes cfg _ k _
  | unbindPlayerSession p k => exact handleUnbindPlayerSession_takes cfg p k
  | messageResponse r code message => exact handleForwardPlayerMessageResponse_takes r code message

/-- The condition on the moves of a run. -/
def guard (c : Pool T GateOp GateAct GateAct.Reply Result (WatchedGate T)) :
    Move T GateOp GateEnv → Prop
  | .start _ _ => True
  | .act t i => ∀ o a k, c.threads t = some (o, .act a k) → Admits t o a i c.shared

theorem proved (cfg : GateConfiguration) :
    outline.Proved machine (fun (_ : T) o => o.code cfg) guard (fun _ _ _ _ => True) where
  start _ _ _ _ _ := trivial
  ok _ _ o a k _ hg _ ht := hg o a k ht
  safe _ _ s _ hrest _ := (code_takes cfg s hrest).mono fun _ _ h => ⟨trivial, h⟩
  compatible _ _ _ _ _ _ _ _ _ _ _ _ hevent u hu := ⟨hevent.1 u hu, hevent.2⟩

/-- An admitted move reopens no connection. -/
theorem move_closed {cfg : GateConfiguration}
    {c c' : Pool T GateOp GateAct GateAct.Reply Result (WatchedGate T)} {m : Move T GateOp GateEnv}
    (hgood : outline.Good machine (fun _ _ _ _ => True) c) (hg : guard c m)
    (hm : c.move machine (fun _ o => o.code cfg) m = some c') (x : ConnectionId)
    (hx : c.shared.1.connection.connections x = some .closed) :
    c'.shared.1.connection.connections x = some .closed := by
  have hevent := ((proved cfg).move hgood hg hm).2
  cases m with
  | start t o =>
      obtain ⟨-, rfl⟩ := Pool.move_start hm
      exact hx
  | act t i =>
      obtain ⟨o, a, k, s, r, ht, -, rfl⟩ := Pool.move_act hm
      exact ((hevent.2 o a k ht).2 x).1 hx

end WatchedGate

/-! ## Every run -/

namespace GateProcess

variable {T : Type} [DecidableEq T]

omit [DecidableEq T] in
theorem consistent_initial : WatchedGate.Consistent (({}, fun _ => .resting) : WatchedGate T) where
  keyed _ _ h := by cases h
  paired _ _ h := by cases h
  agree := {
    bound := fun _ h => by cases h
    active := fun _ h => by cases h
    routed := fun _ _ h => by cases h
    closing := fun _ _ h => by cases h }

/-- **The tables of a gate agree.** In every run of any number of threads in which the condition holds at
every step: when no handler runs and no login is pending, every route of a player leads to an active
session of that player, and a connection is bound exactly when it has an active session; and what has
been a closed connection is one for the rest of the run. -/
theorem tables_agree {cfg : GateConfiguration}
    {c : Pool T GateOp GateAct GateAct.Reply Result (WatchedGate T)}
    (hrun : Run WatchedGate.machine (fun _ o => o.code cfg) WatchedGate.guard
      (Pool.initial ({}, fun _ => .resting)) c) :
    ((∀ t, c.idle t = true) → (∀ r, c.shared.1.login.pendingLogins r = none) →
      (∀ p route, c.shared.1.routes p = some route → ∃ session,
        c.shared.1.sessions.get route.gateSessionId = some session ∧ session.state = .active ∧
          session.playerId = p) ∧
      ∀ x, c.shared.1.connection.connections x = some .bound ↔ ∃ k session,
        c.shared.1.sessions.get k = some session ∧ session.connectionId = x ∧
          session.state = .active) ∧
    ∀ c', Run WatchedGate.machine (fun _ o => o.code cfg) WatchedGate.guard c c' →
      ∀ x, c.shared.1.connection.connections x = some .closed →
        c'.shared.1.connection.connections x = some .closed := by
  have hproved := WatchedGate.proved (T := T) cfg
  have hgood := hproved.sound (Outline.good_initial consistent_initial fun _ => rfl) hrun
  have hI : c.shared.Consistent := hgood.1
  refine ⟨fun hidle hpending => ?_, fun c' hrun' x hx => ?_⟩
  · obtain ⟨hroutes, hbound⟩ := hI.agree.quiet (fun t => hgood.rest_of_idle (hidle t))
      (fun r => by simp only [WatchedGate.tables, hpending r]; rfl)
    refine ⟨fun p route hp => ?_, fun x => ?_⟩
    · exact GateSessions.ofActive_eq_some.mp
        (hroutes p route.gateSessionId (by simp only [WatchedGate.tables, hp]; rfl))
    · refine (hbound x).trans (GateSessions.ofActive_isSome.trans ?_)
      constructor
      · rintro ⟨session, hget, hactive⟩
        exact ⟨x, session, hget, (hI.keyed x session hget).2, hactive⟩
      · rintro ⟨k, session, hget, hx, hactive⟩
        obtain rfl : k = x := (hI.keyed k session hget).2.symm.trans hx
        exact ⟨session, hget, hactive⟩
  · have hclosed : WatchedGate.outline.Good WatchedGate.machine (fun _ _ _ _ => True) c' ∧
        c'.shared.1.connection.connections x = some .closed := by
      -- induction on the rest of the run: a closed connection is one after every move
      induction hrun' with
      | refl => exact ⟨hgood, hx⟩
      | tail _ hg hm ih => exact ⟨(hproved.move ih.1 hg hm).1, WatchedGate.move_closed ih.1 hg hm x ih.2⟩
    exact hclosed.2

/-! ### A login -/

/-- A computable condition that is enough. -/
def admitted (a : GateAct) (env : GateEnv) (s : WatchedGate T) : Bool :=
  match a with
  | .connection .acceptReadySocket =>
      decide (s.tables.connections s.1.connection.nextConnectionId ≠ some .closed) &&
        (s.tables.owner s.1.connection.nextConnectionId).isNone
  | .connection (.markAnonymous c) => decide (s.tables.connections c ≠ some .closed)
  | .connection (.markBound c) =>
      (s.tables.connections c).isSome && decide (s.tables.connections c ≠ some .closed)
  | .connection (.finalize c) => (s.tables.connections c).isSome
  | .connection (.send c (.loginResponse _ _ _ _)) =>
      (s.tables.owner c).isNone || decide (s.tables.connections c = some .bound)
  | .session (.activate k _ _ _) => (s.tables.owner k).isNone
  | .session (.removeByConnection c) => (s.tables.owner c).isNone
  | .routing (.bindPlayer p _ k) => decide (s.tables.owner k = some p)
  | .pending (.registerLogin r _) => (s.tables.waiting r).isNone
  | .sendProcessPayload _ _ => env.sent.ok
  | _ => true

omit [DecidableEq T] in
theorem admits_of_admitted {t : T} {o : GateOp} {a : GateAct} {i : GateEnv} {s : WatchedGate T}
    (h : admitted a i s = true) : WatchedGate.Admits t o a i s := by
  unfold admitted at h
  unfold WatchedGate.Admits
  split at h
  · simp only [Bool.and_eq_true, decide_eq_true_eq, Option.isNone_iff_eq_none] at h
    exact ⟨h.1, fun ho => by rw [h.2] at ho; cases ho⟩
  · exact of_decide_eq_true h
  · simp only [Bool.and_eq_true, decide_eq_true_eq, Option.isSome_iff_ne_none] at h
    exact h
  · exact Option.isSome_iff_ne_none.mp h
  · simp only [Bool.or_eq_true, decide_eq_true_eq, Option.isNone_iff_eq_none] at h
    intro response _ _ ho
    rcases h with hnone | hbound
    · rw [hnone] at ho
      cases ho
    · exact .inl hbound
  · intro q hq
    rw [Option.isNone_iff_eq_none.mp h] at hq
    cases hq
  · intro record _ _ p hp
    rw [Option.isNone_iff_eq_none.mp h] at hp
    cases hp
  · exact of_decide_eq_true h
  · exact Option.isNone_iff_eq_none.mp h
  · exact h
  · exact trivial

/-- The check of a move. -/
def admittedMove (c : Pool T GateOp GateAct GateAct.Reply Result (WatchedGate T)) :
    Move T GateOp GateEnv → Bool
  | .start _ _ => true
  | .act t i =>
      match c.threads t with
      | some (_, .act a _) => admitted a i c.shared
      | _ => true

omit [DecidableEq T] in
theorem guard_of_admittedMove (c : Pool T GateOp GateAct GateAct.Reply Result (WatchedGate T))
    (m : Move T GateOp GateEnv) (h : admittedMove c m = true) : WatchedGate.guard c m := by
  cases m with
  | start t o => exact trivial
  | act t i =>
      intro o a k ht
      simp only [admittedMove, ht] at h
      exact admits_of_admitted h

/-- Gate 1 with one thread, before anything has happened. -/
def soloGate : GateConfiguration := { instanceId := 1 }

def idleGate : Pool Unit GateOp GateAct GateAct.Reply Result (WatchedGate Unit) :=
  Pool.initial ({}, fun _ => .resting)

/-- Sections in which the servers answer nothing and every send succeeds. -/
def gateSections (n : Nat) (order : List GateSessionId) : List (Move Unit GateOp GateEnv) :=
  List.replicate n (.act () { order })

/-- A client connects and asks to log in. -/
def asksLogin : List (Move Unit GateOp GateEnv) :=
  .start () .acceptReadySocket :: gateSections 1 [] ++
    .start () (.clientLogin 1 "p" "a" "c") :: gateSections 8 []

/-- The game answers. -/
def gameAnswers : List (Move Unit GateOp GateEnv) :=
  .start () (.loginResponse { requestId := 1, playerId := 7, game := ⟨10, 1⟩, code := .ok }) ::
    gateSections 6 []

/-- What the final states are compared in. -/
def gateFacts (c : Pool Unit GateOp GateAct GateAct.Reply Result (WatchedGate Unit)) :
    Bool × Option GateConnectionState × Option GateSessionRecord × Option GatePlayerRoute :=
  (c.idle (), c.shared.1.connection.connections 1, c.shared.1.sessions.get 1, c.shared.1.routes 7)

/-- After a login that is answered in time, the tables agree on player 7. -/
theorem tables_agree_login : ∃ c, idleGate.play WatchedGate.machine (fun _ o => o.code soloGate)
      admittedMove (asksLogin ++ gameAnswers) = some c ∧
    c.shared.1.connection.connections 1 = some .bound ∧
    ∃ route session, c.shared.1.routes 7 = some route ∧
      c.shared.1.sessions.get route.gateSessionId = some session ∧ session.state = .active ∧
        session.playerId = 7 := by
  have hend : (idleGate.play WatchedGate.machine (fun _ o => o.code soloGate) admittedMove
      (asksLogin ++ gameAnswers)).map (fun c => (gateFacts c, c.shared.1.login.pendingLogins)) =
      some ((true, some .bound, some ⟨.active, 1, 1, "a", 7, ⟨10, 1⟩⟩, some ⟨⟨10, 1⟩, 1⟩),
        Function.update (Function.update (fun _ => none) 1 (some ⟨1, 1, "a"⟩)) 1 none) := rfl
  obtain ⟨c, hc, hcs⟩ := Option.map_eq_some_iff.mp hend
  simp only [gateFacts, Prod.mk.injEq] at hcs
  obtain ⟨⟨hidle, hbound, -, hroute⟩, hpending⟩ := hcs
  have hquiet := (tables_agree (Run.refl.play guard_of_admittedMove hc)).1 (fun _ => hidle) (by
    intro r
    rw [hpending]
    by_cases hr : r = 1
    · simp [hr]
    · simp [Function.update_of_ne hr])
  obtain ⟨session, hsession⟩ := hquiet.1 7 _ hroute
  exact ⟨c, hc, hbound, _, session, hroute, hsession⟩

/-! ### A login that is answered too late -/

/-- The client goes away between its request and the answer. -/
def leaves : List (Move Unit GateOp GateEnv) := .start () (.endOfStream 1) :: gateSections 2 [1]

/-- Whether the send of a move succeeds. -/
def delivered : Move Unit GateOp GateEnv → Bool
  | .start _ _ => true
  | .act _ i => i.sent.ok

/-- The connection was closed, and then is bound; it has no session, and a route leads to it. -/
theorem tables_disagree : ∃ c c',
    Run WatchedGate.machine (fun _ o => o.code soloGate) (fun _ m => delivered m = true) idleGate c ∧
    Run WatchedGate.machine (fun _ o => o.code soloGate) (fun _ m => delivered m = true) c c' ∧
    c.shared.1.connection.connections 1 = some .closed ∧
    (∀ t, c'.idle t = true) ∧ (∀ r, c'.shared.1.login.pendingLogins r = none) ∧
    c'.shared.1.connection.connections 1 = some .bound ∧ c'.shared.1.sessions.get 1 = none ∧
    c'.shared.1.routes 7 = some ⟨⟨10, 1⟩, 1⟩ := by
  have hleft : (idleGate.play WatchedGate.machine (fun _ o => o.code soloGate)
      (fun _ m => delivered m) (asksLogin ++ leaves)).map (fun c =>
        (c.shared.1.connection.connections 1, (c.play WatchedGate.machine
          (fun _ o => o.code soloGate) (fun _ m => delivered m) gameAnswers).map fun c' =>
            (gateFacts c', c'.shared.1.login.pendingLogins))) =
      some (some .closed, some ((true, some .bound, none, some ⟨⟨10, 1⟩, 1⟩),
        Function.update (Function.update (fun _ => none) 1 (some ⟨1, 1, "a"⟩)) 1 none)) := rfl
  -- both runs are evaluated together, and read off
  obtain ⟨c, hc, hcs⟩ := Option.map_eq_some_iff.mp hleft
  simp only [Prod.mk.injEq] at hcs
  obtain ⟨hclosed, hanswered⟩ := hcs
  obtain ⟨c', hc', hcs'⟩ := Option.map_eq_some_iff.mp hanswered
  simp only [gateFacts, Prod.mk.injEq] at hcs'
  obtain ⟨⟨hidle, hbound, hsession, hroute⟩, hpending⟩ := hcs'
  refine ⟨c, c', Run.refl.play (fun _ _ h => h) hc, Run.refl.play (fun _ _ h => h) hc', hclosed,
    fun _ => hidle, fun r => ?_, hbound, hsession, hroute⟩
  rw [hpending]
  by_cases hr : r = 1
  · simp [hr]
  · simp [Function.update_of_ne hr]

end GateProcess

end SomeServer
