/-
# SomeServer.Gate.Life — a connection number has one life

A connection gets its number when its socket is accepted, a session may be opened for it, an account may
become active on the session, and in the end the connection is shut. As long as numbers are not given out
twice and the account of an active session does not change (`Orderly`), what is shut stays so, and an
account that is active on a session remains there until the connection is shut. `keeps_step` says this of
every section.
-/
import SomeServer.Gate.Sections

namespace SomeServer

open Lib

namespace GateProcess

variable {T : Type} {t : T} {env : GateEnv} {s s' s₁ s₂ s₃ : GateProcess T} {k c : UInt64}
  {accountId : String}

/-- The connection has lost its socket for good. -/
structure Shut (s : GateProcess T) (c : ConnectionId) : Prop where
  socket : s.connection.sockets c = false
  known : s.connection.connections c ≠ none
  past : s.connection.connections c ≠ some .accepted

/-- The session has been opened, and is there unless its connection is shut. -/
def Opened (s : GateProcess T) (k : GateSessionId) : Prop :=
  (s.sessions.get k).isSome = true ∨ s.Shut k

/-- The account is active on the session, unless its connection is shut. -/
def Owned (s : GateProcess T) (k : GateSessionId) (accountId : String) : Prop :=
  s.sessions.activeAccount k = some accountId ∨ s.Shut k

/-- What the life of a number keeps. -/
structure Keeps (s s' : GateProcess T) : Prop where
  shut : ∀ c, s.Shut c → s'.Shut c
  opened : ∀ k, s.Opened k → s'.Opened k
  owned : ∀ k accountId, s.Owned k accountId → s'.Owned k accountId

theorem Keeps.refl (s : GateProcess T) : s.Keeps s := ⟨fun _ => id, fun _ => id, fun _ _ => id⟩

theorem Keeps.trans (h : s₁.Keeps s₂) (h' : s₂.Keeps s₃) : s₁.Keeps s₃ where
  shut c hc := h'.shut c (h.shut c hc)
  opened k hk := h'.opened k (h.opened k hk)
  owned k accountId hk := h'.owned k accountId (h.owned k accountId hk)

/-- The condition on a section: a number that is given out is new, a session is opened for the connection
of its number, the account of an active session does not change, and a session is removed after its
connection has been shut. -/
def Orderly (a : GateAct) (s : GateProcess T) : Prop :=
  match a with
  | .connection .acceptReadySocket =>
      s.connection.connections s.connection.nextConnectionId = none ∨
        s.connection.connections s.connection.nextConnectionId = some .accepted
  | .connection (.finalize c) => s.connection.connections c ≠ none
  | .session (.openAnonymous k c) => k = c
  | .session (.activate k accountId _ _) =>
      ∀ old, s.sessions.activeAccount k = some old → old = accountId
  | .session (.removeByConnection c) => s.Shut c
  | _ => True

/-! ## Connections -/

/-- Sections after which all sessions are as before, and no connection is reopened. -/
theorem Keeps.of_shut (hsessions : s'.sessions = s.sessions) (hshut : ∀ c, s.Shut c → s'.Shut c) :
    s.Keeps s' where
  shut := hshut
  opened k hk := by
    unfold Opened
    rw [hsessions]
    exact hk.imp_right (hshut k)
  owned k accountId hk := by
    unfold Owned
    rw [hsessions]
    exact hk.imp_right (hshut k)

/-- A connection's state may be overwritten by any state but the first. -/
theorem Shut.setState {state : GateConnectionState} (h : s.Shut c) (hstate : state ≠ .accepted)
    (c' : ConnectionId) :
    ({ s with connection := s.connection.setState c' state } : GateProcess T).Shut c := by
  refine ⟨h.socket, ?_, ?_⟩
  · show Function.update s.connection.connections c' (some state) c ≠ none
    by_cases hc : c = c'
    · simp [hc]
    · rw [Function.update_of_ne hc]
      exact h.known
  · show Function.update s.connection.connections c' (some state) c ≠ some .accepted
    by_cases hc : c = c'
    · simpa [hc] using hstate
    · rw [Function.update_of_ne hc]
      exact h.past

theorem Shut.closed (h : s.Shut c) (c' : ConnectionId) :
    ({ s with connection := s.connection.closed c' } : GateProcess T).Shut c := by
  have hstate := h.setState (by decide : GateConnectionState.closed ≠ .accepted) c'
  refine ⟨?_, hstate.known, hstate.past⟩
  show Function.update s.connection.sockets c' false c = false
  by_cases hc : c = c'
  · simp [hc]
  · rw [Function.update_of_ne hc]
    exact h.socket

/-- A connection that is closed is shut. -/
theorem shut_closed :
    ({ s with connection := s.connection.closed c } : GateProcess T).Shut c where
  socket := Function.update_self ..
  known := by simp [GateConnectionService.closed, GateConnectionService.setState]
  past := by simp [GateConnectionService.closed, GateConnectionService.setState]

theorem Shut.mark {state : GateConnectionState} (h : s.Shut c) (hstate : state ≠ .accepted)
    (c' : ConnectionId) :
    ({ s with connection := (s.connection.mark state c').1 } : GateProcess T).Shut c := by
  unfold GateConnectionService.mark
  split
  · exact h.setState hstate c'
  · exact h

theorem Keeps.connection {a : ConnectionAct} {r : a.Reply} (horderly : Orderly (.connection a) s)
    (hx : s.exec t env (.connection a) = some (s', r)) : s.Keeps s' := by
  obtain ⟨rfl, -⟩ := exec_connection hx
  refine Keeps.of_shut rfl fun c h => ?_
  cases a with
  | acceptReadySocket =>
      -- a shut connection is known and past its acceptance, so the number is not its own
      have hc : c ≠ s.connection.nextConnectionId := by
        rintro rfl
        rcases horderly with hnone | haccepted
        · exact h.known hnone
        · exact h.past haccepted
      refine ⟨?_, ?_, ?_⟩
      · show Function.update s.connection.sockets _ true c = false
        rw [Function.update_of_ne hc]
        exact h.socket
      · show Function.update s.connection.connections _ (some .accepted) c ≠ none
        rw [Function.update_of_ne hc]
        exact h.known
      · show Function.update s.connection.connections _ (some .accepted) c ≠ some .accepted
        rw [Function.update_of_ne hc]
        exact h.past
  | accept c' =>
      simp only [GateConnectionService.exec, GateConnectionService.accept]
      split
      · exact h
      · rename_i hnone
        have hc : c ≠ c' := by
          rintro rfl
          exact h.known (Option.not_isSome_iff_eq_none.mp hnone)
        refine ⟨h.socket, ?_, ?_⟩
        · show Function.update s.connection.connections c' (some .accepted) c ≠ none
          rw [Function.update_of_ne hc]
          exact h.known
        · show Function.update s.connection.connections c' (some .accepted) c ≠ some .accepted
          rw [Function.update_of_ne hc]
          exact h.past
  | markAnonymous c' => exact h.mark (by decide) c'
  | markBound c' => exact h.mark (by decide) c'
  | closeEnter c' =>
      simp only [GateConnectionService.exec, GateConnectionService.closeEnter]
      split
      · exact h.closed c'
      · exact h
  | finalize c' =>
      have hsome : (s.connection.connections c').isSome = true := Option.isSome_iff_ne_none.mpr horderly
      simp only [GateConnectionService.exec, GateConnectionService.finalize, hsome, if_true]
      exact h.closed c'
  | send c' message => exact h

/-- A connection that has a socket is known. -/
theorem known_step {a : GateAct} {r : a.Reply}
    (h : ∀ c, s.connection.sockets c = true → s.connection.connections c ≠ none)
    (hx : s.exec t env a = some (s', r)) {c : ConnectionId} (hc : s'.connection.sockets c = true) :
    s'.connection.connections c ≠ none := by
  rcases exec_connections hx with hs | ⟨b, rfl⟩
  · rw [hs] at hc ⊢
    exact h c hc
  obtain ⟨rfl, -⟩ := exec_connection hx
  -- a connection that changes its state stays known, and a closing only takes a socket away
  have hset : ∀ {d : ConnectionId} {state : GateConnectionState},
      s.connection.sockets c = true → Function.update s.connection.connections d (some state) c ≠ none := by
    intro d state hsocket
    by_cases hd : c = d
    · simp [hd]
    · rw [Function.update_of_ne hd]
      exact h c hsocket
  have hclosed : ∀ {d : ConnectionId}, Function.update s.connection.sockets d false c = true →
      s.connection.sockets c = true := by
    intro d hsocket
    by_cases hd : c = d
    · simp [hd] at hsocket
    · rwa [Function.update_of_ne hd] at hsocket
  cases b with
  | acceptReadySocket =>
      show Function.update s.connection.connections _ (some .accepted) c ≠ none
      have hsocket : Function.update s.connection.sockets s.connection.nextConnectionId true c = true := hc
      by_cases hd : c = s.connection.nextConnectionId
      · simp [hd]
      · rw [Function.update_of_ne hd] at hsocket ⊢
        exact h c hsocket
  | accept d =>
      simp only [GateConnectionService.exec, GateConnectionService.accept] at hc ⊢
      cases hd : (s.connection.connections d).isSome <;>
        simp only [hd, if_true, Bool.false_eq_true, if_false] at hc ⊢
      · exact hset hc
      · exact h c hc
  | markAnonymous d | markBound d =>
      simp only [GateConnectionService.exec, GateConnectionService.mark] at hc ⊢
      cases hd : (s.connection.connections d).isSome <;>
        simp only [hd, if_true, Bool.false_eq_true, if_false] at hc ⊢
      · exact h c hc
      · exact hset hc
  | closeEnter d =>
      simp only [GateConnectionService.exec, GateConnectionService.closeEnter] at hc ⊢
      cases hd : (s.connection.connections d).isSome <;>
        simp only [hd, if_true, Bool.false_eq_true, if_false] at hc ⊢
      · exact h c hc
      · exact hset (hclosed hc)
  | finalize d =>
      simp only [GateConnectionService.exec, GateConnectionService.finalize] at hc ⊢
      cases hd : (s.connection.connections d).isSome <;>
        simp only [hd, if_true, Bool.false_eq_true, if_false] at hc ⊢
      · exact h c (hclosed hc)
      · exact hset (hclosed hc)
  | send d message => exact h c hc

/-! ## Sessions -/

theorem activeAccount_get {record : GateSessionRecord}
    (h : s.sessions.get k = some record) (ha : s.sessions.activeAccount k = some accountId) :
    record.state = .active ∧ record.accountId = accountId := by
  obtain ⟨record', hget, hstate, haccount⟩ := GateSessions.ofActive_eq_some.mp ha
  obtain rfl : record = record' := Option.some.inj (h.symm.trans hget)
  exact ⟨hstate, haccount⟩

/-- Sections that change one session, and no connection. -/
theorem Keeps.of_session {m : GateSessions} (hother : ∀ k', k' ≠ k → m.get k' = s.sessions.get k')
    (hopened : s.Opened k → (m.get k).isSome = true ∨ s.Shut k)
    (howned : ∀ accountId, s.Owned k accountId → m.activeAccount k = some accountId ∨ s.Shut k) :
    s.Keeps { s with sessions := m } where
  shut _ h := ⟨h.socket, h.known, h.past⟩
  opened k' h := by
    by_cases hk : k' = k
    · subst hk
      exact (hopened h).imp_right fun h => ⟨h.socket, h.known, h.past⟩
    · show (m.get k').isSome = true ∨ _
      rw [hother k' hk]
      exact h.imp_right fun h => ⟨h.socket, h.known, h.past⟩
  owned k' accountId h := by
    by_cases hk : k' = k
    · subst hk
      exact (howned accountId h).imp_right fun h => ⟨h.socket, h.known, h.past⟩
    · have haccount : m.activeAccount k' = s.sessions.activeAccount k' := by
        unfold GateSessions.activeAccount GateSessions.ofActive
        rw [hother k' hk]
      show m.activeAccount k' = _ ∨ _
      rw [haccount]
      exact h.imp_right fun h => ⟨h.socket, h.known, h.past⟩

theorem Keeps.session {a : GateSessionAct} {r : a.Reply} (hkeyed : s.sessions.Keyed)
    (horderly : Orderly (.session a) s) (hx : s.exec t env (.session a) = some (s', r)) :
    s.Keeps s' := by
  obtain ⟨m, hm, rfl⟩ := exec_session hx
  cases a with
  | openAnonymous k c =>
      obtain rfl : k = c := horderly
      simp only [GateSessions.exec, Option.some.injEq] at hm
      obtain rfl : (GateSessions.openAnonymous k k s.sessions).1 = m := congrArg Prod.fst hm
      unfold GateSessions.openAnonymous
      split
      · exact Keeps.refl s
      · refine Keeps.of_session (fun k' hk => Table.set_get_of_ne hk) (fun _ => .inl ?_)
          fun accountId howned => ?_
        · rw [Table.set_get_self]
          rfl
        -- a session that is opened was nobody's
        · rename_i hnone
          refine howned.imp_left fun hactive => ?_
          obtain ⟨record, hget, -⟩ := GateSessions.ofActive_eq_some.mp hactive
          rw [hget] at hnone
          exact absurd rfl hnone
  | activate k account p game =>
      simp only [GateSessions.exec, Option.some.injEq] at hm
      obtain rfl : (GateSessions.activate k account p game s.sessions).1 = m := congrArg Prod.fst hm
      rcases GateSessions.activate_cases account p game s.sessions k with
        ⟨-, hsame⟩ | ⟨hsome, -, haccount⟩
      · rw [hsame]
        exact Keeps.refl s
      · refine Keeps.of_session (k := k) (fun k' hk => ?_) (fun _ => .inl ?_) fun accountId howned => ?_
        · unfold GateSessions.activate
          split
          · rfl
          · exact Table.set_get_of_ne hk
        · unfold GateSessions.activate
          split
          · exact hsome
          · rw [Table.set_get_self]
            rfl
        · rw [haccount, Function.update_self]
          refine howned.imp_left fun hactive => ?_
          -- an active session is activated again for its own account
          rw [horderly accountId hactive]
  -- the session goes when the connection of that number is shut
  | removeByConnection c =>
      simp only [GateSessions.exec, Option.ite_none_right_eq_some, Option.some.injEq] at hm
      obtain ⟨hw, hm⟩ := hm
      rcases hkeyed.removeByConnection hw c with ⟨-, hremove⟩ | ⟨record, -, hremove⟩
      · rw [hremove, Prod.mk.injEq] at hm
        obtain ⟨rfl, -⟩ := hm
        exact Keeps.refl s
      · rw [hremove, Prod.mk.injEq] at hm
        obtain ⟨rfl, -⟩ := hm
        exact Keeps.of_session (fun k' hk => Table.erase_get_of_ne hk) (fun _ => .inr horderly)
          fun _ _ => .inr horderly
  | findByConnection c | findByAccount accountId =>
      simp only [GateSessions.exec, Option.ite_none_right_eq_some, Option.some.injEq] at hm
      obtain rfl : s.sessions = m := congrArg Prod.fst hm.2
      exact Keeps.refl s
  | snapshot k =>
      simp only [GateSessions.exec, Option.some.injEq] at hm
      obtain rfl : s.sessions = m := congrArg Prod.fst hm
      exact Keeps.refl s

/-- Every orderly section keeps what the life of a number keeps. -/
theorem keeps_step {a : GateAct} {r : a.Reply} (hkeyed : s.sessions.Keyed) (horderly : Orderly a s)
    (hx : s.exec t env a = some (s', r)) : s.Keeps s' := by
  cases a with
  | connection a => exact Keeps.connection horderly hx
  | session a => exact Keeps.session hkeyed horderly hx
  | routing a =>
      obtain ⟨routes, rfl⟩ := exec_routing_writes hx
      exact Keeps.of_shut rfl fun c h => ⟨h.socket, h.known, h.past⟩
  | account a =>
      obtain ⟨d, -, rfl⟩ := exec_account hx
      exact Keeps.of_shut rfl fun c h => ⟨h.socket, h.known, h.past⟩
  | pending a =>
      obtain ⟨login, messages, rfl⟩ := exec_pending_writes hx
      exact Keeps.of_shut rfl fun c h => ⟨h.socket, h.known, h.past⟩
  | sendProcessPayload target payload =>
      rw [(exec_send hx).1]
      exact Keeps.refl s

/-- Every section leaves each session under the number of its connection, if it is opened so. -/
theorem keyed_step {a : GateAct} {r : a.Reply} (hkeyed : s.sessions.Keyed)
    (hopens : ∀ k c, a = .session (.openAnonymous k c) → k = c)
    (hx : s.exec t env a = some (s', r)) : s'.sessions.Keyed := by
  rcases exec_sessions hx with hs | ⟨k, c, ha, hnone, hs⟩ | ⟨k, _, _, _, record, -, hget, hs⟩ |
    ⟨c, k, record, -, -, -, hs⟩ <;> rw [hs]
  · exact hkeyed
  · obtain rfl := hopens k c ha
    intro k' record hget
    by_cases hk : k' = k
    · subst hk
      rw [Table.set_get_self] at hget
      cases hget
      exact ⟨rfl, rfl⟩
    · rw [Table.set_get_of_ne hk] at hget
      exact hkeyed k' record hget
  · intro k' record' hget'
    by_cases hk : k' = k
    · subst hk
      rw [Table.set_get_self] at hget'
      cases hget'
      exact ⟨rfl, (hkeyed k' record hget).2⟩
    · rw [Table.set_get_of_ne hk] at hget'
      exact hkeyed k' record' hget'
  · exact hkeyed.erase

/-- A session that is not active has no account yet. -/
def Anonymous (s : GateProcess T) : Prop :=
  ∀ k record, s.sessions.get k = some record → record.state ≠ .active → record.accountId = ""

theorem Anonymous.step {a : GateAct} {r : a.Reply} (h : s.Anonymous)
    (hx : s.exec t env a = some (s', r)) : s'.Anonymous := by
  unfold Anonymous
  rcases exec_sessions hx with hs | ⟨k, c, -, -, hs⟩ | ⟨k, _, _, _, record, -, -, hs⟩ |
    ⟨c, k, record, -, -, -, hs⟩ <;> rw [hs]
  · exact h
  · intro k' record hget hstate
    by_cases hk : k' = k
    · subst hk
      rw [Table.set_get_self] at hget
      cases hget
      rfl
    · rw [Table.set_get_of_ne hk] at hget
      exact h k' record hget hstate
  · intro k' record' hget hstate
    by_cases hk : k' = k
    · subst hk
      rw [Table.set_get_self] at hget
      cases hget
      exact absurd rfl hstate
    · rw [Table.set_get_of_ne hk] at hget
      exact h k' record' hget hstate
  · intro k' record' hget hstate
    by_cases hk : k' = k
    · subst hk
      rw [Table.erase_get_self] at hget
      cases hget
    · rw [Table.erase_get_of_ne hk] at hget
      exact h k' record' hget hstate

/-- A session that has an account is active for it. -/
theorem Anonymous.active {record : GateSessionRecord} (h : s.Anonymous)
    (hget : s.sessions.get k = some record) (hsame : record.accountId = accountId)
    (haccount : accountId ≠ "") : s.sessions.activeAccount k = some accountId := by
  have hactive : record.state = .active := by
    by_contra hstate
    exact haccount (hsame ▸ h k record hget hstate)
  exact GateSessions.ofActive_eq_some.mpr ⟨record, hget, hactive, hsame⟩

/-- `Snapshot` looks a session up under its number. -/
theorem exec_snapshot {record : GateSessionRecord} (hkeyed : s.sessions.Keyed)
    (hx : s.exec t env (.session (.snapshot k)) = some (s', some record)) :
    s' = s ∧ s.sessions.get k = some record ∧ record.connectionId = k := by
  obtain ⟨m, hm, rfl⟩ := exec_session hx
  simp only [GateSessions.exec, Option.some.injEq, Prod.mk.injEq] at hm
  obtain ⟨rfl, hget⟩ := hm
  exact ⟨rfl, hget, (hkeyed k record hget).2⟩

/-- `FindByAccount` finds a session on which the account is active. -/
theorem findByAccount_owned {record : GateSessionRecord} (hkeyed : s.sessions.Keyed)
    (hanonymous : s.Anonymous) (haccount : accountId ≠ "")
    (hx : s.exec t env (.session (.findByAccount accountId)) = some (s', some record)) :
    s'.Owned record.connectionId accountId := by
  obtain ⟨m, hm, rfl⟩ := exec_session hx
  simp only [GateSessions.exec, Option.ite_none_right_eq_some, Option.some.injEq, Prod.mk.injEq,
    GateSessions.findByAccount, Option.map_eq_some_iff] at hm
  obtain ⟨-, rfl, ⟨k, record'⟩, hfind, rfl⟩ := hm
  obtain ⟨hget, hp⟩ := Table.find?_eq_some hfind
  simp only [decide_eq_true_eq] at hp
  rw [(hkeyed k record' hget).2]
  exact .inl (hanonymous.active hget hp.1 haccount)

/-- An account that is active on a session was before, or the session has just been logged in. -/
theorem activeAccount_cases {a : GateAct} {r : a.Reply} (hx : s.exec t env a = some (s', r))
    (hk : s'.sessions.activeAccount k = some accountId) :
    s.sessions.activeAccount k = some accountId ∨
      ∃ playerId game, a = .session (.activate k accountId playerId game) := by
  rcases exec_sessions hx with hs | ⟨k', c, -, -, hs⟩ | ⟨k', account, p, game, record, ha, -, hs⟩ |
    ⟨c, k', record, -, -, -, hs⟩ <;> rw [hs] at hk
  · exact .inl hk
  · left
    rw [GateSessions.activeAccount_set] at hk
    by_cases hkk : k = k'
    · simp [hkk] at hk
    · rwa [Function.update_of_ne hkk] at hk
  · rw [GateSessions.activeAccount_set] at hk
    by_cases hkk : k = k'
    · subst hkk
      simp only [Function.update_self, if_true, Option.some.injEq] at hk
      exact .inr ⟨p, game, hk ▸ ha⟩
    · rw [Function.update_of_ne hkk] at hk
      exact .inl hk
  · left
    rw [GateSessions.activeAccount_erase] at hk
    by_cases hkk : k = k'
    · simp [hkk] at hk
    · rwa [Function.update_of_ne hkk] at hk

/-- The session belongs to the account, if there is one, unless its connection is shut. -/
def Named (s : GateProcess T) (k : GateSessionId) (accountId : String) : Prop :=
  (∀ record, s.sessions.get k = some record → s.sessions.activeAccount k = some accountId) ∨ s.Shut k

theorem Owned.named (h : s.Owned k accountId) : s.Named k accountId :=
  h.imp_left fun hactive _ _ => hactive

/-- A session that a number leads to belongs to the account that the number stands for. -/
theorem Named.owned {record : GateSessionRecord} (h : s.Named k accountId)
    (hget : s.sessions.get k = some record) : s.Owned k accountId :=
  h.imp_left fun hnamed => hnamed record hget

/-- A session that belongs to an account belongs to no other one later, as long as its number is not
used again. -/
theorem Named.step {a : GateAct} {r : a.Reply} (h : s.Named k accountId) (hkeyed : s.sessions.Keyed)
    (horderly : Orderly a s) (hnew : ∀ c, a ≠ .session (.openAnonymous k c))
    (hx : s.exec t env a = some (s', r)) : s'.Named k accountId := by
  rcases h with h | hshut
  case inr => exact .inr ((keeps_step hkeyed horderly hx).shut k hshut)
  left
  intro record hget
  rcases exec_sessions hx with hs | ⟨k', c, ha, -, hs⟩ | ⟨k', account, p, game, old, ha, hold, hs⟩ |
    ⟨c, k', old, -, -, -, hs⟩
  · rw [hs] at hget ⊢
    exact h record hget
  · have hk : k ≠ k' := by
      rintro rfl
      exact hnew c ha
    rw [hs] at hget ⊢
    rw [Table.set_get_of_ne hk] at hget
    rw [GateSessions.activeAccount_set, Function.update_of_ne hk]
    exact h record hget
  · rw [hs] at hget ⊢
    rw [GateSessions.activeAccount_set]
    by_cases hk : k = k'
    · subst hk
      rw [ha] at horderly
      have hsame : accountId = account := horderly accountId (h old hold)
      simp [hsame]
    · rw [Table.set_get_of_ne hk] at hget
      rw [Function.update_of_ne hk]
      exact h record hget
  · rw [hs] at hget ⊢
    by_cases hk : k = k'
    · subst hk
      rw [Table.erase_get_self] at hget
      cases hget
    · rw [Table.erase_get_of_ne hk] at hget
      rw [GateSessions.activeAccount_erase, Function.update_of_ne hk]
      exact h record hget

end GateProcess

end SomeServer
