/-
# SomeServer.Cluster.Departures — a closed gate session leaves nothing behind

A login request, its answer and the close of the connection cross each other in every order. The cleanup
runs from the session record that the close removes, so it finds what has been activated by then and
nothing else. What is left over belongs to a handler that is under way, to a message that is, or to a
session that is active: the invariant (`Tidy`, `Settled`) says for each thing who is going to take it back.

`departures_settled` says of every run in which no step comes too late (`InTime`) that nothing is left of
a closed session once no message is on its way: no session, no route, no entry of the account directory,
and no player that the game has not been told about, once. `departure_lost` is a run in which the answer
comes after the close.
-/
import SomeServer.Cluster.Passage
import SomeServer.Cluster.Messages

namespace SomeServer

open Lib

namespace Passage

variable {T : Type}

/-! ## The invariant -/

/-- The session is active for the player under the account. -/
def Active (s : Passage T) (g : UInt32) (k : GateSessionId) (p : PlayerId) (accountId : String) : Prop :=
  ∃ record, (s.1.gates g).sessions.get k = some record ∧ record.state = .active ∧
    record.playerId = p ∧ record.accountId = accountId

/-- The response tells gate `g` that the game has activated the player for session `k`. -/
def Answers (s : Passage T) (g : UInt32) (k : GateSessionId) (p : PlayerId)
    (response : LoginPlayerResponse) : Prop :=
  response.code = .ok ∧ response.playerId = p ∧ s.2.requests (g, response.requestId) = some k

/-- The gate is going to hear that the game has activated the player. -/
inductive OnWay (s : Passage T) (g : UInt32) (k : GateSessionId) (p : PlayerId) : Prop
  | accepted (u : T) (message : GameMessage) (requestId : RequestId) (platform accountId : String)
      (areaId : UInt32) (hwork : (s.2.points (.game u)).work = .accepted message p)
      (hpayload : message.payload = .loginPlayerRequest requestId ((gateConfiguration g).gateSession k)
        platform accountId areaId)
  | sent (response : LoginPlayerResponse) (hin : .loginPlayerResponse response ∈ s.1.gateInbox g)
      (h : s.Answers g k p response)
  | received (response : LoginPlayerResponse)
      (hat : s.At g (.received (.loginPlayerResponse response))) (h : s.Answers g k p response)
  | activating (pending : PendingLogin) (response : LoginPlayerResponse)
      (hat : s.At g (.activating pending response)) (hk : pending.gateSessionId = k)
      (hp : response.playerId = p)

/-- What is known of what the sessions have left behind. -/
structure Tidy (s : Passage T) : Prop extends s.Lively where
  active : ∀ g k record, (s.1.gates g).sessions.get k = some record → record.state = .active →
    record.game = gameProcess ∧ record.playerId ≠ 0
  routed : ∀ g p route, (s.1.gates g).routes p = some route →
    (∃ accountId, s.Active g route.gateSessionId p accountId) ∨
      ∃ record, s.Unroutes g record ∧ record.gateSessionId = route.gateSessionId ∧ record.playerId = p
  named : ∀ g k accountId,
    s.1.owners accountId = some (GateAccountOwner.buildValue ((gateConfiguration g).gateSession k)) →
      (∃ p, s.Active g k p accountId) ∨
        ∃ record, s.Unnames g record ∧ record.gateSessionId = k ∧ record.accountId = accountId

/-- What is known of the messages about a gate session. -/
structure Settled (s : Passage T) : Prop where
  told : ∀ g k p, s.2.told (p, (gateConfiguration g).gateSession k) ≠ 0 → s.Gone g k
  untold : ∀ g record p, s.At g (.leaving record) →
    s.2.told (p, (gateConfiguration g).gateSession record.gateSessionId) = 0
  alone : ∀ g life life' u u' record record',
    (s.2.points (.gate g life u)).work = .leaving record →
    (s.2.points (.gate g life' u')).work = .leaving record' →
      record.gateSessionId = record'.gateSessionId → life = life' ∧ u = u'
  once : ∀ g k p, s.2.told (p, (gateConfiguration g).gateSession k) ≤ 1
  owed : ∀ g k p, s.2.owed (p, (gateConfiguration g).gateSession k) = true →
    (∃ accountId, s.Active g k p accountId) ∨
      (∃ record, s.At g (.leaving record) ∧ record.gateSessionId = k ∧ record.playerId = p ∧
        record.game = gameProcess) ∨ s.OnWay g k p

/-- The condition on logins and removals:
* an account becomes active, for a player other than 0, only on a session that exists, and on one that is
  active already only for the same player and account;
* a player is routed to a session, and an account is bound to it, only while the session is active for
  them or the route or the entry has still to be taken back;
* a successful response is taken only when its request is registered;
* the game is told when a session is removed, and a gate when a player has been activated;
* Redis answers the `GET` of a removal that finds its session, and executes its `DEL`. -/
def InTime (t : ClusterThread T) (a : ClusterAct) (i : ClusterInput) (s : Passage T) : Prop :=
  let gate := s.1.gates t.gateId
  match a with
  | .gate (.session (.activate k accountId p _)) => p ≠ 0 ∧ ∃ record,
      gate.sessions.get k = some record ∧
        (record.state = .active → record.playerId = p ∧ record.accountId = accountId)
  | .gate (.routing (.bindPlayer p _ k)) => (∃ accountId, s.Active t.gateId k p accountId) ∨
      ∃ record, s.Unroutes t.gateId record ∧ record.gateSessionId = k ∧ record.playerId = p
  | .gate (.account (.bindAccount accountId owner)) =>
      (∃ p, s.Active t.gateId owner.sessionId p accountId) ∨ ∃ record, s.Unnames t.gateId record ∧
        record.gateSessionId = owner.sessionId ∧ record.accountId = accountId
  | .gate (.account (.removeGet accountId owner)) =>
      s.1.owners accountId = some (GateAccountOwner.buildValue owner) → i.fault = .none
  | .gate (.account (.removeDelete _)) => i.fault.executes = true
  | .gate (.pending (.takeLogin requestId)) => ∀ response,
      (s.2.points t).work = .received (.loginPlayerResponse response) → response.code = .ok →
        gate.login.pendingLogins requestId ≠ none
  | .gate (.sendProcessPayload _ (.playerDisconnected _ _)) => i.gate.sent.ok = true
  | .game (.ipc (.sendProcessPayload _ (.loginPlayerResponse _ code _))) =>
      code = .ok → i.game.sent.ok = true
  | _ => True

variable [DecidableEq T] {cfg : GameConfiguration} {t : ClusterThread T} {i : ClusterInput}
  {s s' : Passage T} {o : ClusterOp} {g : UInt32} {k : GateSessionId} {p : PlayerId}
  {accountId : String} {record : GateSessionRecord} {message : GameMessage}

/-! ## One section of a gate -/

namespace GateMove

variable {a : GateAct} {r : a.Reply} (h : GateMove t i o a r s s')
include h

/-! ### What is taken back -/

omit h in
/-- The session of a player is not skipped when its connection is closed. -/
theorem not_skipped (hgame : record.game = gameProcess) (hplayer : record.playerId ≠ 0) :
    record.skipped = false := by
  rw [← Bool.not_eq_true, GateSessionRecord.skipped_iff, hgame]
  rintro (hzero | hzero | hzero)
  · exact hplayer hzero
  · cases hzero
  · cases hzero

/-- A session that is active stays so, until a handler has removed it that is about to tell the game. -/
theorem active_old (hT : s.Tidy) (hok : InTime t (.gate a) i s) (hactive : s.Active g k p accountId) :
    s'.Active g k p accountId ∨
    ∃ record, s'.At g (.leaving record) ∧ record.gateSessionId = k ∧ record.playerId = p ∧
      record.accountId = accountId ∧ record.game = gameProcess := by
  by_cases hg : g = t.gateId
  case neg =>
    left
    unfold Active
    rwa [h.step.gates g hg]
  subst hg
  obtain ⟨record, hget, hstate, hplayer, haccount⟩ := hactive
  have hstays : (s'.1.gates t.gateId).sessions.get k = (s.1.gates t.gateId).sessions.get k →
      s'.Active t.gateId k p accountId := fun hsame =>
    ⟨record, hsame.trans hget, hstate, hplayer, haccount⟩
  -- by what the section does to the sessions: nothing, accepts, activates, removes
  rcases GateProcess.exec_sessions h.step.exec with hs | ⟨k', c, -, hnone, hs⟩ |
    ⟨k', account, q, game, old, rfl, hold, hs⟩ | ⟨c, k', old, rfl, hold, hc, hs⟩
  · exact .inl (hstays (by rw [hs]))
  · have hk : k ≠ k' := by
      rintro rfl
      rw [hget] at hnone
      cases hnone
    exact .inl (hstays (by rw [hs, Table.set_get_of_ne hk]))
  · by_cases hk : k = k'
    · subst hk
      -- an active session is activated again for the same player and account only
      left
      obtain ⟨-, same, hsame, hadmits⟩ := hok
      rw [hget] at hold hsame
      cases hold
      cases hsame
      obtain ⟨hq, ha⟩ := hadmits hstate
      rw [Active, hs, Table.set_get_self]
      exact ⟨_, rfl, rfl, hq.symm.trans hplayer, ha.symm.trans haccount⟩
    · exact .inl (hstays (by rw [hs, Table.set_get_of_ne hk]))
  · by_cases hk : k = k'
    · subst hk
      -- the removed session was active, so its handler has a game to tell
      right
      rw [hget] at hold
      cases hold
      obtain rfl : k = c := (hT.keyed _ k record hget).2.symm.trans hc
      rcases GateProcess.exec_removeByConnection (hT.keyed _) h.step.exec with
        ⟨hnone, -⟩ | ⟨removed, hremoved, rfl, -⟩
      · rw [hget] at hnone
        cases hnone
      · rw [hget] at hremoved
        cases hremoved
        obtain ⟨hgame, hzero⟩ := hT.active _ k record hget hstate
        have hskipped : ({ record with state := .closing } : GateSessionRecord).skipped = false :=
          not_skipped hgame hzero
        have hpoint := h.at_self
        simp only [ClusterPoint.gateNext, hskipped, Bool.false_eq_true, if_false] at hpoint
        exact ⟨_, hpoint, (hT.keyed _ k record hget).1, hplayer, haccount, hgame⟩
    · exact .inl (hstays (by rw [hs, Table.erase_get_of_ne hk]))

/-- When the game has been told, the route is taken back next. -/
theorem leaving_old (hok : InTime t (.gate a) i s) (hat : s.At g (.leaving record)) : s'.At g (.leaving record) ∨
    s'.At g (.unrouting record) ∧ (record.game = gameProcess →
      a.tells r = some (record.playerId, (gateConfiguration g).gateSession record.gateSessionId)) := by
  rcases h.at_old hat with hat | ⟨rfl, hw, rfl, -⟩
  · exact .inl hat
  right
  have hsent : Result.ok r = true := by
    rw [(GateProcess.exec_send h.step.exec).2]
    exact hok
  refine ⟨?_, fun hgame => ?_⟩
  · have hpoint := h.at_self
    simpa only [ClusterPoint.gateNext, hw, hsent, if_true] using hpoint
  · exact if_pos ⟨hgame, hsent⟩

theorem unroutes_old (hok : InTime t (.gate a) i s) (hun : s.Unroutes g record) : s'.Unroutes g record ∨
    s'.At g (.unnaming record) ∧ g = t.gateId ∧
      a = .routing (.unbindPlayer record.playerId record.gateSessionId) := by
  rcases hun with hat | hat
  · exact .inl ((h.leaving_old hok hat).imp_right And.left)
  · rcases h.at_old hat with hat | ⟨rfl, hw, rfl, -⟩
    · exact .inl (.inr hat)
    · refine .inr ⟨?_, rfl, rfl⟩
      have hpoint := h.at_self
      simpa only [ClusterPoint.gateNext, hw] using hpoint

/-- The entry of a removed session is taken back, unless it names another one by then. -/
theorem unnames_old (hok : InTime t (.gate a) i s) (hun : s.Unnames g record) : s'.Unnames g record ∨ g = t.gateId ∧
    ((∃ result, (⟨a, r⟩ : Σ a : GateAct, a.Reply) = ⟨.account (.removeGet record.accountId
        ((gateConfiguration g).gateSession record.gateSessionId)), RemoveDecision.done result⟩) ∨
      a = .account (.removeDelete record.accountId)) := by
  rcases hun with hun | hat | hat
  · left
    rcases h.unroutes_old hok hun with hun | ⟨hat, -⟩
    · exact .inl hun
    · exact .inr (.inl hat)
  · rcases h.at_old hat with hat | ⟨rfl, hw, rfl, -⟩
    · exact .inl (.inr (.inl hat))
    · have hpoint := h.at_self
      cases r with
      | done result => exact .inr ⟨rfl, .inl ⟨result, rfl⟩⟩
      | delete =>
          simp only [ClusterPoint.gateNext, hw] at hpoint
          exact .inl (.inr (.inr hpoint))
  · rcases h.at_old hat with hat | ⟨rfl, -, rfl, -⟩
    · exact .inl (.inr (.inr hat))
    · exact .inr ⟨rfl, .inr rfl⟩

/-- A session is active for a player whom the game has accepted. -/
theorem active (hT : s.Tidy) (hL : s.Linked) (hok : InTime t (.gate a) i s)
    (hget : (s'.1.gates g).sessions.get k = some record) (hstate : record.state = .active) :
    record.game = gameProcess ∧ record.playerId ≠ 0 := by
  by_cases hg : g = t.gateId
  case neg =>
    rw [h.step.gates g hg] at hget
    exact hT.active g k record hget hstate
  subst hg
  rcases GateProcess.exec_sessions h.step.exec with hs | ⟨k', c, -, -, hs⟩ |
    ⟨k', account, q, game, old, rfl, -, hs⟩ | ⟨c, k', old, -, -, -, hs⟩ <;> rw [hs] at hget
  · exact hT.active _ k record hget hstate
  · by_cases hk : k = k'
    · subst hk
      rw [Table.set_get_self] at hget
      cases hget
      cases hstate
    · rw [Table.set_get_of_ne hk] at hget
      exact hT.active _ k record hget hstate
  · by_cases hk : k = k'
    · subst hk
      rw [Table.set_get_self] at hget
      cases hget
      -- activated just now, for the answer of the game
      obtain ⟨pending, response, hpoint, -, -, -, hgame⟩ := h.fits
      have hat := h.at_point
      rw [hpoint] at hat
      exact ⟨hgame.trans (hL.activating _ pending response hat), hok.1⟩
    · rw [Table.set_get_of_ne hk] at hget
      exact hT.active _ k record hget hstate
  · by_cases hk : k = k'
    · subst hk
      rw [Table.erase_get_self] at hget
      cases hget
    · rw [Table.erase_get_of_ne hk] at hget
      exact hT.active _ k record hget hstate

/-- Who was going to take back a route still is, until the route is gone. -/
theorem routed_old (hT : s.Tidy) (hok : InTime t (.gate a) i s) (hkept : g = t.gateId → a ≠ .routing (.unbindPlayer p k))
    (hrouted : (∃ accountId, s.Active g k p accountId) ∨
      ∃ record, s.Unroutes g record ∧ record.gateSessionId = k ∧ record.playerId = p) :
    (∃ accountId, s'.Active g k p accountId) ∨
      ∃ record, s'.Unroutes g record ∧ record.gateSessionId = k ∧ record.playerId = p := by
  rcases hrouted with ⟨accountId, hactive⟩ | ⟨record, hun, rfl, rfl⟩
  · rcases h.active_old hT hok hactive with hactive | ⟨record, hat, hk, hp, -⟩
    · exact .inl ⟨accountId, hactive⟩
    · exact .inr ⟨record, .inl hat, hk, hp⟩
  · rcases h.unroutes_old hok hun with hun | ⟨-, hg, ha⟩
    · exact .inr ⟨record, hun, rfl, rfl⟩
    · exact (hkept hg ha).elim

theorem routed (hT : s.Tidy) (hok : InTime t (.gate a) i s) {route : GatePlayerRoute}
    (hroute : (s'.1.gates g).routes p = some route) :
    (∃ accountId, s'.Active g route.gateSessionId p accountId) ∨ ∃ record, s'.Unroutes g record ∧
      record.gateSessionId = route.gateSessionId ∧ record.playerId = p := by
  by_cases hg : g = t.gateId
  case neg =>
    rw [h.step.gates g hg] at hroute
    exact h.routed_old hT hok (fun hg' => absurd hg' hg) (hT.routed g p route hroute)
  subst hg
  rcases GateProcess.exec_routes h.step.exec hroute with ⟨hold, hkept⟩ | rfl
  · exact h.routed_old hT hok (fun _ => hkept) (hT.routed _ p route hold)
  · exact h.routed_old hT hok (fun _ ha => by cases ha) hok

/-- The command of a removal takes the entry of its session out of the directory. -/
theorem removed (hT : s.Tidy) (hok : InTime t (.gate a) i s) {owner : GateAccountOwner}
    (hvalue : s'.1.owners accountId = some (GateAccountOwner.buildValue owner)) :
    (∀ result, (⟨a, r⟩ : Σ a : GateAct, a.Reply) ≠
        ⟨.account (.removeGet accountId owner), RemoveDecision.done result⟩) ∧
      a ≠ .account (.removeDelete accountId) := by
  have hredis := hT.redis t.gateId
  rw [h.step.owners] at hvalue
  -- `RemoveIfOwnerMatches` ends early on another owner only, and otherwise deletes
  constructor
  · intro result heq
    cases heq
    obtain ⟨d, hd, -⟩ := GateProcess.exec_account h.step.exec
    have hentry : s.1.owners accountId = some (GateAccountOwner.buildValue owner) := by
      rcases Cluster.served_owners hvalue with hold | ⟨_, ha, -⟩
      · exact hold
      · cases ha
    have hfault : i.fault = .none := hok hentry
    simp only [Cluster.served, hredis, if_true, hfault, Cluster.serveAccount,
      Cluster.executeAccount] at hvalue hd
    simp only [GateAccountDirectoryService.exec, Option.ite_none_left_eq_some, Option.some.injEq,
      Prod.mk.injEq, GateAccountDirectoryService.removeGet, hredis, hvalue, Option.elim,
      GateAccountDirectoryService.readOwner, GateAccountOwner.parseValue_buildValue] at hd
    simp at hd
  · rintro rfl
    have hexecutes : i.fault.executes = true := hok
    have hgone : (Cluster.serveAccount i.fault s.1.owners (.removeDelete accountId)).1 accountId =
        none := by
      cases hfault : i.fault with
      | none | replyLost => exact Function.update_self ..
      | dropped | unavailable =>
          rw [hfault] at hexecutes
          cases hexecutes
    simp only [Cluster.served, hredis, if_true] at hvalue
    rw [hgone] at hvalue
    cases hvalue

/-- Who was going to take back an entry still is, until the entry is gone. -/
theorem named_old (hT : s.Tidy) (hok : InTime t (.gate a) i s)
    (hvalue : s'.1.owners accountId =
      some (GateAccountOwner.buildValue ((gateConfiguration g).gateSession k)))
    (hnamed : (∃ p, s.Active g k p accountId) ∨
      ∃ record, s.Unnames g record ∧ record.gateSessionId = k ∧ record.accountId = accountId) :
    (∃ p, s'.Active g k p accountId) ∨
      ∃ record, s'.Unnames g record ∧ record.gateSessionId = k ∧ record.accountId = accountId := by
  rcases hnamed with ⟨p, hactive⟩ | ⟨record, hun, rfl, rfl⟩
  · rcases h.active_old hT hok hactive with hactive | ⟨record, hat, hk, -, haccount, -⟩
    · exact .inl ⟨p, hactive⟩
    · exact .inr ⟨record, .inl (.inl hat), hk, haccount⟩
  · obtain ⟨hget, hdelete⟩ := h.removed hT hok hvalue
    rcases h.unnames_old hok hun with hun | ⟨-, ⟨result, heq⟩ | ha⟩
    · exact .inr ⟨record, hun, rfl, rfl⟩
    · exact (hget result heq).elim
    · exact (hdelete ha).elim

theorem named (hT : s.Tidy) (hok : InTime t (.gate a) i s)
    (hvalue : s'.1.owners accountId =
      some (GateAccountOwner.buildValue ((gateConfiguration g).gateSession k))) :
    (∃ p, s'.Active g k p accountId) ∨
      ∃ record, s'.Unnames g record ∧ record.gateSessionId = k ∧ record.accountId = accountId := by
  have hserved := hvalue
  rw [h.step.owners] at hserved
  rcases Cluster.served_owners hserved with hold | ⟨owner, rfl, heq⟩
  · exact h.named_old hT hok hvalue (hT.named g k accountId hold)
  · obtain rfl := GateAccountOwner.buildValue_inj.mp heq
    obtain ⟨pending, -, -, howner⟩ := h.fits
    cases howner
    exact h.named_old hT hok hvalue hok

theorem tidy (hT : s.Tidy) (hL : s.Linked) (hok : InTime t (.gate a) i s) : s'.Tidy where
  toLively := h.lively hT.toLively
  active _ _ _ := h.active hT hL hok
  routed _ _ _ := h.routed hT hok
  named _ _ _ := h.named hT hok

/-! ### What the game is told -/

theorem told (stay : Stay) :
    s'.2.told stay = s.2.told stay ∨ a.tells r = some stay ∧ s'.2.told stay = s.2.told stay + 1 := by
  have htold : s'.2.told =
      (a.tells r).elim s.2.told fun x => Function.update s.2.told x (s.2.told x + 1) := by
    rw [h.log]
    rfl
  rw [htold]
  cases htells : a.tells r with
  | none => exact .inl rfl
  | some x =>
      by_cases hx : stay = x
      · subst hx
        exact .inr ⟨rfl, Function.update_self ..⟩
      · exact .inl (Function.update_of_ne hx ..)

/-- The game is told about the player of a session that has just been removed. -/
theorem tells (htells : a.tells r = some (p, (gateConfiguration g).gateSession k)) :
    g = t.gateId ∧ ∃ record, (s.2.points t).work = .leaving record ∧ record.gateSessionId = k ∧
      record.playerId = p ∧ ((s.2.points t).gateNext a r).work = .unrouting record := by
  unfold GateAct.tells at htells
  split at htells
  · rename_i target q gate
    split at htells
    · rename_i hsent
      simp only [Option.some.injEq, Prod.mk.injEq] at htells
      obtain ⟨rfl, rfl⟩ := htells
      obtain ⟨record, hw, -, rfl, hgate⟩ := h.fits
      obtain ⟨hg, hk⟩ := gateSession_inj.mp hgate
      refine ⟨hg, record, hw, hk.symm, rfl, ?_⟩
      simp only [ClusterPoint.gateNext, hw, hsent.2, if_true]
    · cases htells
  · cases htells

/-- A handler that is about to tell the game has not told it yet, and no other one has. -/
theorem untold (hT : s.Lively) (hS : s.Settled) (hat : s'.At g (.leaving record)) :
    s'.2.told (p, (gateConfiguration g).gateSession record.gateSessionId) = 0 := by
  have hgone : ∀ q, s.2.told (q, (gateConfiguration g).gateSession record.gateSessionId) ≠ 0 →
      (s.1.gates g).sessions.get record.gateSessionId = none := fun q hq => (hS.told g _ q hq).1
  rcases h.told (p, (gateConfiguration g).gateSession record.gateSessionId) with hsame | ⟨htells, -⟩
  · rw [hsame]
    rcases h.leaving_new hT hat with hold | ⟨-, ⟨old, hget⟩, -⟩
    · exact hS.untold g record p hold
    · by_contra htold
      rw [hgone p htold] at hget
      cases hget
  · -- the handler that tells the game would be a second one for this session
    exfalso
    obtain ⟨rfl, record', hw, hk, -, hnext⟩ := h.tells htells
    rcases h.leaving_new hT hat with hold | ⟨-, ⟨old, hget⟩, -, hleaving⟩
    · obtain ⟨life, u, hu⟩ := hat
      obtain ⟨v, hv⟩ := h.step.thread
      by_cases hut : .gate t.gateId life u = t
      · rw [hut, h.self, hnext] at hu
        cases hu
      · rw [h.other hut] at hu
        rw [hv] at hw
        obtain ⟨rfl, rfl⟩ := hS.alone _ _ _ _ _ _ _ hu hw hk.symm
        exact hut hv.symm
    · rw [hnext] at hleaving
      cases hleaving

theorem told_gone (hT : s.Lively) (hS : s.Settled)
    (htold : s'.2.told (p, (gateConfiguration g).gateSession k) ≠ 0) : s'.Gone g k := by
  rcases h.told (p, (gateConfiguration g).gateSession k) with hsame | ⟨htells, -⟩
  · rw [hsame] at htold
    exact h.gone hT (hS.told g k p htold)
  · obtain ⟨rfl, record, hw, rfl, -⟩ := h.tells htells
    refine h.gone hT (hT.gone _ record (.inl (.inl ?_)))
    rw [← hw]
    exact h.at_point

theorem told_once (hS : s.Settled) : s'.2.told (p, (gateConfiguration g).gateSession k) ≤ 1 := by
  rcases h.told (p, (gateConfiguration g).gateSession k) with hsame | ⟨htells, hnext⟩
  · rw [hsame]
    exact hS.once g k p
  · obtain ⟨rfl, record, hw, rfl, -⟩ := h.tells htells
    have hat := h.at_point
    rw [hw] at hat
    rw [hnext, hS.untold _ record p hat]

/-- A session is removed by one handler. -/
theorem alone (hT : s.Lively) (hS : s.Settled) {life life' : Nat} {u u' : T}
    {record record' : GateSessionRecord} (hu : (s'.2.points (.gate g life u)).work = .leaving record)
    (hu' : (s'.2.points (.gate g life' u')).work = .leaving record')
    (hk : record.gateSessionId = record'.gateSessionId) : life = life' ∧ u = u' := by
  -- the session that a handler has just removed was not removed before
  have hfresh : ∀ {life life' : Nat} {u u' : T} {record record' : GateSessionRecord},
      (s'.2.points (.gate g life u)).work = .leaving record →
        (s'.2.points (.gate g life' u')).work = .leaving record' →
          record.gateSessionId = record'.gateSessionId → .gate g life u = t →
            .gate g life' u' ≠ t → (s.2.points (.gate g life u)).work = .leaving record := by
    intro life life' u u' record record' hu hu' hk hut hut'
    rw [h.other hut'] at hu'
    have hgone := (hT.gone g record' (.inl (.inl ⟨life', u', hu'⟩))).1
    by_cases hsame : ((s.2.points t).gateNext a r).work = (s.2.points t).work
    · rw [hut, h.self, hsame] at hu
      rw [hut, hu]
    · have hbegins := ClusterPoint.begins_of_next h.fits hsame
      rw [← h.self, ← hut, hu] at hbegins
      obtain ⟨c, -, -, heq⟩ := hbegins
      cases heq
      obtain rfl : g = t.gateId := by rw [← hut]; rfl
      rcases GateProcess.exec_removeByConnection (hT.keyed _) h.step.exec with
        ⟨-, hr, -⟩ | ⟨old, hget, hr, -⟩
      · cases hr
      · cases hr
        obtain rfl : old.gateSessionId = c := (hT.keyed _ c old hget).1
        rw [show old.gateSessionId = record'.gateSessionId from hk, hgone] at hget
        cases hget
  by_cases hut : .gate g life u = t
  · by_cases hut' : .gate g life' u' = t
    · rw [← hut'] at hut
      injection hut with _ hlife huu
      exact ⟨hlife, huu⟩
    · have hold := hfresh hu hu' hk hut hut'
      rw [h.other hut'] at hu'
      exact hS.alone g _ _ _ _ _ _ hold hu' hk
  · by_cases hut' : .gate g life' u' = t
    · have hold := hfresh hu' hu hk.symm hut' hut
      rw [h.other hut] at hu
      exact hS.alone g _ _ _ _ _ _ hu hold hk
    · rw [h.other hut] at hu
      rw [h.other hut'] at hu'
      exact hS.alone g _ _ _ _ _ _ hu hu' hk

/-! ### What the game has activated -/

theorem owed (stay : Stay) : s'.2.owed stay = true → s.2.owed stay = true ∧ a.tells r ≠ some stay := by
  rw [h.log]
  show ((a.tells r).elim s.2.owed fun x => Function.update s.2.owed x false) stay = true → _
  cases htells : a.tells r with
  | none => exact fun howed => ⟨howed, (Option.some_ne_none stay).symm⟩
  | some x =>
      intro howed
      by_cases hx : stay = x
      · subst hx
        simp at howed
      · simp only [Option.elim, Function.update_of_ne hx] at howed
        exact ⟨howed, fun heq => hx (Option.some.inj heq).symm⟩

theorem answers {response : LoginPlayerResponse} (hanswers : s.Answers g k p response) :
    s'.Answers g k p response :=
  ⟨hanswers.1, hanswers.2.1, h.requests hanswers.2.2⟩

/-- What is on its way to a gate comes one step nearer, or the session becomes active. -/
theorem onWay (hL : s.Linked) (hok : InTime t (.gate a) i s) (hway : s.OnWay g k p) :
    (∃ accountId, s'.Active g k p accountId) ∨ s'.OnWay g k p := by
  cases hway with
  | accepted u message requestId platform accountId areaId hwork hpayload =>
      exact .inr (.accepted u message requestId platform accountId areaId
        (by rw [h.game_points, hwork]) hpayload)
  | sent response hin hanswers => exact .inr (.sent response (h.step.keeps.1 _ _ hin) (h.answers hanswers))
  | received response hat hanswers =>
      right
      rcases h.at_old hat with hat | ⟨rfl, hw, ha, -⟩
      · exact .received response hat (h.answers hanswers)
      -- the login is taken: in time, so it is there
      · obtain ⟨hcode, hp, hk⟩ := hanswers
        have ha : a = .pending (.takeLogin response.requestId) := ha
        subst ha
        obtain ⟨-, hr⟩ := GateProcess.exec_pending h.step.exec
        have hpending := hok response hw hcode
        obtain ⟨pending, hget⟩ := Option.ne_none_iff_exists'.mp hpending
        have hr : r = some pending := hr.trans hget
        subst hr
        refine .activating pending response ?_ ?_ hp
        · have hpoint := h.at_self
          simpa only [ClusterPoint.gateNext, hw, hcode, if_true] using hpoint
        · have hwaiting := hL.waiting _ _ _ hget
          rw [hk] at hwaiting
          exact (Option.some.inj hwaiting).symm
  | activating pending response hat hk hp =>
      rcases h.at_old hat with hat | ⟨rfl, hw, ha, -⟩
      · exact .inr (.activating pending response hat hk hp)
      -- the session is there, in time, and becomes active
      · left
        have ha : a = .session (.activate pending.gateSessionId pending.accountId response.playerId
          response.game) := ha
        subst ha
        obtain ⟨-, record, hget, -⟩ := hok
        obtain ⟨m, hm, hs⟩ := GateProcess.exec_session h.step.exec
        simp only [GateSessions.exec, GateSessions.activate, hget, Option.some.injEq,
          Prod.mk.injEq] at hm
        obtain ⟨rfl, -⟩ := hm
        subst hk hp
        refine ⟨pending.accountId, ?_⟩
        rw [Active, hs, Table.set_get_self]
        exact ⟨_, rfl, rfl, rfl, rfl⟩

theorem owed_old (hT : s.Tidy) (hL : s.Linked) (hS : s.Settled) (hok : InTime t (.gate a) i s)
    (howed : s'.2.owed (p, (gateConfiguration g).gateSession k) = true) :
    (∃ accountId, s'.Active g k p accountId) ∨
      (∃ record, s'.At g (.leaving record) ∧ record.gateSessionId = k ∧ record.playerId = p ∧
        record.game = gameProcess) ∨ s'.OnWay g k p := by
  obtain ⟨hold, htells⟩ := h.owed _ howed
  rcases hS.owed g k p hold with ⟨accountId, hactive⟩ | ⟨record, hat, rfl, rfl, hgame⟩ | hway
  · rcases h.active_old hT hok hactive with hactive | ⟨record, hat, hk, hp, -, hgame⟩
    · exact .inl ⟨accountId, hactive⟩
    · exact .inr (.inl ⟨record, hat, hk, hp, hgame⟩)
  · rcases h.leaving_old hok hat with hat | ⟨-, htold⟩
    · exact .inr (.inl ⟨record, hat, rfl, rfl, hgame⟩)
    · exact absurd (htold hgame) htells
  · exact (h.onWay hL hok hway).imp_right .inr

theorem settled (hT : s.Tidy) (hL : s.Linked) (hS : s.Settled) (hok : InTime t (.gate a) i s) :
    s'.Settled where
  told _ _ _ := h.told_gone hT.toLively hS
  untold _ _ _ := h.untold hT.toLively hS
  alone _ _ _ _ _ _ _ := h.alone hT.toLively hS
  once _ _ _ := h.told_once hS
  owed _ _ _ := h.owed_old hT hL hS hok

end GateMove

/-! ## The other sections -/

namespace Elsewhere

omit [DecidableEq T]
variable (h : Elsewhere s s')
include h

theorem tidy (hT : s.Tidy) : s'.Tidy := by
  have hactive : ∀ g k p accountId, s'.Active g k p accountId ↔ s.Active g k p accountId := by
    intro g k p accountId
    unfold Active
    rw [h.gates]
  refine ⟨h.lively hT.toLively, ?_, ?_, ?_⟩
  · rw [h.gates]
    exact hT.active
  · intro g p route hroute
    rw [h.gates] at hroute
    simp only [hactive, h.unroutes_iff]
    exact hT.routed g p route hroute
  · intro g k accountId hvalue
    rw [h.owners] at hvalue
    simp only [hactive, h.unnames_iff]
    exact hT.named g k accountId hvalue

/-- What remains to be shown is who is going to tell the game. -/
theorem settled (hS : s.Settled)
    (howed : ∀ g k p, s'.2.owed (p, (gateConfiguration g).gateSession k) = true →
      s.2.owed (p, (gateConfiguration g).gateSession k) = true ∧
        (s.OnWay g k p → s'.OnWay g k p) ∨ s'.OnWay g k p) : s'.Settled := by
  -- only the debts may have changed
  constructor
  · intro g k p htold
    rw [h.told] at htold
    unfold Gone
    rw [h.gates]
    exact hS.told g k p htold
  · intro g record p hat
    rw [h.told]
    exact hS.untold g record p ((h.at_iff rfl).mp hat)
  · intro g life life' u u' record record' hu hu' hk
    rw [h.points _ _ _ _ rfl] at hu hu'
    exact hS.alone g life life' u u' record record' hu hu' hk
  · rw [h.told]
    exact hS.once
  · intro g k p hnow
    rcases howed g k p hnow with ⟨hold, hway⟩ | hway
    · unfold Active
      rw [h.gates]
      simp only [h.at_iff (w := .leaving _) rfl]
      exact (hS.owed g k p hold).imp_right (Or.imp_right hway)
    · exact .inr (.inr hway)

theorem answers {response : LoginPlayerResponse} (hanswers : s.Answers g k p response) :
    s'.Answers g k p response := by
  unfold Answers
  rwa [h.requests]

end Elsewhere

namespace GameMove

variable {a : Act} {r : a.Reply} (h : GameMove cfg t i a r s s')
include h

theorem owed (stay : Stay) : s'.2.owed stay = true →
    s.2.owed stay = true ∨ a.accepts r = some stay := by
  rw [h.log]
  show ((a.accepts r).elim s.2.owed fun x => Function.update s.2.owed x true) stay = true → _
  cases haccepts : a.accepts r with
  | none => exact .inl
  | some x =>
      intro howed
      by_cases hx : stay = x
      · exact .inr (by rw [hx])
      · simp only [Option.elim, Function.update_of_ne hx] at howed
        exact .inl howed

/-- A player whom the game has accepted is on its way to the gate, and the answer is sent. -/
theorem onWay (hL : s.Linked) (hok : InTime t (.game a) i s) (hway : s.OnWay g k p) :
    s'.OnWay g k p := by
  cases hway with
  | accepted u message requestId platform accountId areaId hwork hpayload =>
      by_cases hu : t = .game u
      case neg =>
        exact .accepted u message requestId platform accountId areaId
          (by rw [h.other fun heq => hu heq.symm, hwork]) hpayload
      subst hu
      rcases h.point_cases with ⟨hnext, -, -⟩ |
        ⟨_, _, m, _, _, _, _, hpoint, -, -, -, -⟩ | ⟨target, q, code, errorMessage, rfl, -, -⟩
      · exact .accepted u message requestId platform accountId areaId
          (by rw [h.self, hnext, hwork]) hpayload
      · rw [hpoint] at hwork
        cases hwork
      · obtain ⟨rfl, rfl, rfl⟩ := h.fits.1 message p hwork
        obtain ⟨hanswering, hmessage, -⟩ := hL.accepted u message q hwork
        obtain ⟨g', k', hsource, hgate, hrequest⟩ := hmessage _ _ _ _ _ hpayload
        obtain ⟨rfl, rfl⟩ := gateSession_inj.mp hgate
        refine .sent { requestId, playerId := q, game := gameProcess, code := .ok, errorMessage } ?_
          ⟨rfl, rfl, by rw [h.elsewhere.requests]; exact hrequest⟩
        refine h.step.posts message.source _ g _ rfl (hok rfl) (by rw [hsource]; rfl) ?_
        rw [hanswering]
        obtain ⟨source, payload⟩ := message
        cases hpayload
        rfl
  | sent response hin hanswers =>
      exact .sent response (h.step.keeps g _ hin) (h.elsewhere.answers hanswers)
  | received response hat hanswers =>
      obtain ⟨life, u, hu⟩ := hat
      obtain ⟨v, hv⟩ := h.step.thread
      refine .received response ⟨life, u, ?_⟩ (h.elsewhere.answers hanswers)
      rw [h.other (by rw [hv]; exact fun heq => by cases heq), hu]
  | activating pending response hat hk hp =>
      exact .activating pending response ((h.elsewhere.at_iff rfl).mpr hat) hk hp

theorem settled (hL : s.Linked) (hS : s.Settled) (hok : InTime t (.game a) i s) : s'.Settled := by
  refine h.elsewhere.settled hS fun g k p howed => ?_
  rcases h.owed _ howed with hold | haccepts
  · exact .inl ⟨hold, h.onWay hL hok⟩
  right
  obtain ⟨u, rfl⟩ := h.step.thread
  rcases h.point_cases with ⟨-, hnone, -⟩ |
    ⟨gate, q, message, requestId, platform, accountId, areaId, -, hpayload, hsome, hnext, -⟩ |
    ⟨_, _, _, _, -, hnone, -⟩
  · rw [hnone] at haccepts
    cases haccepts
  · rw [hsome] at haccepts
    cases haccepts
    exact .accepted u message requestId platform accountId areaId (by rw [h.self, hnext]) hpayload
  · rw [hnone] at haccepts
    cases haccepts

end GameMove

omit [DecidableEq T] in
theorem GateFetch.onWay {life : Nat} {v : T} {r : GateMessage} (h : GateFetch i g life v r s s')
    {j : UInt32} (hway : s.OnWay j k p) : s'.OnWay j k p := by
  cases hway with
  | accepted u message requestId platform accountId areaId hwork hpayload =>
      exact .accepted u message requestId platform accountId areaId (by rw [h.game_points, hwork]) hpayload
  | sent response hin hanswers =>
      rcases h.stays hin with hin | ⟨rfl, rfl⟩
      · exact .sent response hin (h.elsewhere.answers hanswers)
      · exact .received response ⟨life, v, by rw [h.self]; rfl⟩ (h.elsewhere.answers hanswers)
  | received response hat hanswers =>
      exact .received response (h.received_old hat) (h.elsewhere.answers hanswers)
  | activating pending response hat hk hp =>
      exact .activating pending response ((h.elsewhere.at_iff rfl).mpr hat) hk hp

theorem GameFetch.onWay {v : T} {r : GameMessage} (h : GameFetch i v r s s') {j : UInt32}
    (hway : s.OnWay j k p) : s'.OnWay j k p := by
  cases hway with
  | accepted u message requestId platform accountId areaId hwork hpayload =>
      refine .accepted u message requestId platform accountId areaId ?_ hpayload
      rw [h.other, hwork]
      intro hut
      rw [hut] at hwork
      exact h.not_accepted.2 hwork
  | sent response hin hanswers =>
      exact .sent response (by rw [h.state]; exact hin) (h.elsewhere.answers hanswers)
  | received response hat hanswers =>
      exact .received response (h.at_iff.mpr hat) (h.elsewhere.answers hanswers)
  | activating pending response hat hk hp => exact .activating pending response (h.at_iff.mpr hat) hk hp

/-! ### Every section -/

/-- What is known after a section. -/
structure Kept (s : Passage T) : Prop where
  tidy : s.Tidy
  linked : s.Linked
  settled : s.Settled

/-- **One section keeps what is known**, if it meets the condition. -/
theorem Kept.exec {a : ClusterAct} {r : a.Reply} (h : s.Kept)
    (hfits : (clusterProtocol T).fits t o (s.2.points t) a) (hpaced : Paced t a s)
    (hok : InTime t a i s) (hx : (machine cfg).exec t a i s = some (s', r)) : s'.Kept := by
  obtain ⟨hT, hL, hS⟩ := h
  cases a with
  -- an active session is activated again for its own account, as the gates require
  | gate a =>
      obtain ⟨hexec, hlog⟩ := machine_exec hx
      have hmove : GateMove t i o a r s s' := by
        refine ⟨Cluster.gateStep_of_exec hexec, hlog, hfits, hpaced, ?_⟩
        rintro k accountId p game rfl old hold
        obtain ⟨-, record, hget, hsame⟩ := hok
        obtain ⟨hstate, haccount⟩ := GateProcess.activeAccount_get hget hold
        rw [← haccount]
        exact (hsame hstate).2
      exact ⟨hmove.tidy hT hL hok, hmove.linked hL, hmove.settled hT hL hS hok⟩
  | game a =>
      obtain ⟨hexec, hlog⟩ := machine_exec hx
      have hmove : GameMove cfg t i a r s s' := ⟨Cluster.gameStep_of_exec hexec, hlog, hfits⟩
      exact ⟨hmove.elsewhere.tidy hT, hmove.linked hL, hmove.settled hL hS hok⟩
  -- the readers leave the debts, and what is owed stays on its way
  | gateReceive =>
      obtain ⟨g, life, v, rfl, h⟩ := gateFetch_of_exec hfits hx
      refine ⟨h.elsewhere.tidy hT, h.linked hL, h.elsewhere.settled hS fun j k p howed => ?_⟩
      rw [h.log.2.1] at howed
      exact .inl ⟨howed, h.onWay⟩
  | gameReceive =>
      obtain ⟨v, rfl, h⟩ := gameFetch_of_exec hfits hx
      refine ⟨h.elsewhere.tidy hT, h.linked hL, h.elsewhere.settled hS fun j k p howed => ?_⟩
      rw [h.log.2.1] at howed
      exact .inl ⟨howed, h.onWay⟩
  | restart g => exact hpaced.elim

/-! ## Runs -/

abbrev PassagePool (T : Type) : Type :=
  Pool (ClusterThread T) ClusterOp ClusterAct ClusterAct.Reply Unit (Passage T)

/-- Threads start what is theirs to start, and sections meet the condition. -/
def guard (c : PassagePool T) : Move (ClusterThread T) ClusterOp ClusterInput → Prop
  | .start t o => o.Started (c.shared.2.points t)
  | .act t i => ∀ a, c.pending t = some a → Paced t a c.shared ∧ InTime t a i c.shared

/-- No thread of gate `g` or of the game is at work, and no message is on its way to the gate. -/
def Quiet (g : UInt32) (c : PassagePool T) : Prop :=
  (∀ life u, c.idle (.gate g life u) = true) ∧ (∀ u, c.idle (.game u) = true) ∧
    c.shared.1.gateInbox g = []

section Runs

variable {fuel : Nat} {s₀ : Cluster T} {c : PassagePool T}

omit [DecidableEq T] in
theorem kept_initial (hgates : ∀ g, s₀.gates g = {}) (howners : ∀ accountId, s₀.owners accountId = none)
    (hinbox : ∀ g, s₀.gateInbox g = []) (hgame : s₀.gameInbox = []) :
    Kept (s₀, ({} : PassageLog T)) := by
  refine ⟨⟨lively_initial hgates, fun g k record hget => ?_, fun g p route hroute => ?_,
    fun g k accountId hvalue => ?_⟩, linked_initial hgates hinbox hgame, ⟨fun g k p htold => ?_,
    fun g record p hat => rfl, fun g _ _ _ _ record _ hw => ?_, fun g k p => Nat.zero_le 1,
    fun g k p howed => ?_⟩⟩
  · rw [hgates] at hget
    cases hget
  · rw [hgates] at hroute
    cases hroute
  · rw [howners] at hvalue
    cases hvalue
  · exact absurd rfl htold
  · cases hw
  · cases howed

theorem run_kept (hgates : ∀ g, s₀.gates g = {}) (howners : ∀ accountId, s₀.owners accountId = none)
    (hinbox : ∀ g, s₀.gateInbox g = []) (hgame : s₀.gameInbox = [])
    (h : Run (machine cfg) (fun t o => o.code cfg fuel t) guard (Pool.initial (s₀, {})) c) :
    c.shared.Kept ∧ (clusterProtocol T).Followed pointOf c := by
  have hcode : ∀ (c : PassagePool T) (t : ClusterThread T) (o : ClusterOp), guard c (.start t o) →
      (clusterProtocol T).rest t (pointOf c.shared t) →
        (clusterProtocol T).Follows t o (fun _ y => (clusterProtocol T).rest t y) (o.code cfg fuel t)
          (pointOf c.shared t) := fun c t o hstart hrest => code_follows fuel hstart hrest
  refine ⟨Protocol.run_invariant hcode pointOf_exec (by exact fun _ => .inl rfl)
      (kept_initial hgates howners hinbox hgame) ?_ h,
    Protocol.run_followed hcode pointOf_exec (by exact fun _ => .inl rfl) h⟩
  intro c t o a k i s r hguard ht hfits hkept hx
  obtain ⟨hpaced, hok⟩ := hguard a (Pool.pending_eq_some.mpr ⟨o, k, ht⟩)
  exact hkept.exec hfits hpaced hok hx

/-- The directory holds what `BuildValue` has written. -/
theorem run_written (howners : ∀ accountId, s₀.owners accountId = none)
    (h : Run (machine cfg) (fun t o => o.code cfg fuel t) guard (Pool.initial (s₀, {})) c) :
    ∀ accountId value, c.shared.1.owners accountId = some value →
      ∃ owner, value = GateAccountOwner.buildValue owner := by
  refine h.shared_invariant (I := fun s => ∀ accountId value, s.1.owners accountId = some value →
    ∃ owner, value = GateAccountOwner.buildValue owner) (fun t a i s s' r hI hx => ?_) ?_
  · obtain ⟨hexec, -⟩ := machine_exec hx
    intro accountId value hvalue
    -- only a bind of a gate writes a new value
    cases a with
    | gate a =>
        rw [(Cluster.gateStep_of_exec hexec).owners] at hvalue
        rcases Cluster.served_owners hvalue with hold | ⟨owner, -, hbound⟩
        · exact hI accountId value hold
        · exact ⟨owner, hbound⟩
    | game a =>
        rw [(Cluster.gameStep_of_exec hexec).owners] at hvalue
        exact hI accountId value hvalue
    | gateReceive =>
        obtain ⟨_, _, _, -, -, -, hs⟩ := Cluster.exec_gateReceive hexec
        rw [hs] at hvalue
        exact hI accountId value hvalue
    | gameReceive =>
        obtain ⟨_, -, -, hs⟩ := Cluster.exec_gameReceive hexec
        rw [hs] at hvalue
        exact hI accountId value hvalue
    | restart g =>
        obtain ⟨-, hs⟩ := Cluster.exec_restart hexec
        rw [hs] at hvalue
        exact hI accountId value hvalue
  · intro accountId value hvalue
    rw [show (Pool.initial (s₀, ({} : PassageLog T))).shared.1.owners accountId = _ from
      howners accountId] at hvalue
    cases hvalue

omit [DecidableEq T] in
/-- While nothing is under way, no handler is at work. -/
theorem Quiet.not_at (hquiet : Quiet g c) (hfollowed : (clusterProtocol T).Followed pointOf c) {w : Work}
    (hat : c.shared.At g w) : w = .free := by
  obtain ⟨life, u, hw⟩ := hat
  rcases hfollowed.rest (hquiet.1 life u) with hpoint | ⟨_, _, hu, -⟩
  · rw [← hw, show c.shared.2.points (.gate g life u) = {} from hpoint]
  · cases hu

/-- **A closed gate session leaves nothing behind**, in every run in which no step comes too late: once no
message is on its way to its gate and no handler is at work, the gate has no session and no route for it,
the directory does not name it, and the game has been told about every player whom it has activated for
it, and about none twice. -/
theorem departures_settled (hgates : ∀ g, s₀.gates g = {})
    (howners : ∀ accountId, s₀.owners accountId = none) (hinbox : ∀ g, s₀.gateInbox g = [])
    (hgame : s₀.gameInbox = [])
    (h : Run (machine cfg) (fun t o => o.code cfg fuel t) guard (Pool.initial (s₀, {})) c)
    (hquiet : Quiet g c) (hclosed : (c.shared.1.gates g).connection.sockets k = false) :
    (c.shared.1.gates g).sessions.get k = none ∧
    (∀ p route, (c.shared.1.gates g).routes p = some route → route.gateSessionId ≠ k) ∧
    (∀ accountId value, c.shared.1.owners accountId = some value →
      GateAccountOwner.parseValue value ≠ some ((gateConfiguration g).gateSession k)) ∧
    ∀ p, c.shared.2.owed (p, (gateConfiguration g).gateSession k) = false ∧
      c.shared.2.told (p, (gateConfiguration g).gateSession k) ≤ 1 := by
  obtain ⟨⟨hT, -, hS⟩, hfollowed⟩ := run_kept hgates howners hinbox hgame h
  -- the gate is quiet, so every way in which a debt is paid later is excluded
  have hfree : ∀ {w}, c.shared.At g w → w = .free := hquiet.not_at hfollowed
  have hunnames : ∀ record, ¬ c.shared.Unnames g record := by
    rintro record ((hat | hat) | hat | hat) <;> cases hfree hat
  have hnone : (c.shared.1.gates g).sessions.get k = none := by
    by_contra hsome
    rcases hT.live g k (Option.isSome_iff_ne_none.mpr hsome) with hsocket | hat
    · rw [hclosed] at hsocket
      cases hsocket
    · cases hfree hat
  have hactive : ∀ p accountId, ¬ c.shared.Active g k p accountId := by
    rintro p accountId ⟨record, hget, -⟩
    rw [hnone] at hget
    cases hget
  refine ⟨hnone, fun p route hroute hk => ?_, fun accountId value hvalue hparse => ?_, fun p => ⟨?_, hS.once g k p⟩⟩
  · subst hk
    rcases hT.routed g p route hroute with ⟨accountId, h⟩ | ⟨record, hun, -⟩
    · exact hactive p accountId h
    · exact hunnames record (.inl hun)
  · obtain ⟨owner, rfl⟩ := run_written howners h accountId value hvalue
    rw [GateAccountOwner.parseValue_buildValue, Option.some.injEq] at hparse
    subst hparse
    rcases hT.named g k accountId hvalue with ⟨p, h⟩ | ⟨record, hun, -⟩
    · exact hactive p accountId h
    · exact hunnames record hun
  · by_contra howed
    rcases hS.owed g k p (by simpa using howed) with ⟨accountId, h⟩ | ⟨record, hat, -⟩ | hway
    · exact hactive p accountId h
    · cases hfree hat
    · cases hway with
      | accepted u message _ _ _ _ hwork _ =>
          rcases hfollowed.rest (hquiet.2.1 u) with hpoint | ⟨_, _, -, hpoint⟩ <;>
            rw [show c.shared.2.points (.game u) = _ from hpoint] at hwork <;> cases hwork
      | sent response hin _ =>
          rw [hquiet.2.2] at hin
          cases hin
      | received response hat _ => cases hfree hat
      | activating pending response hat _ _ => cases hfree hat

end Runs

/-! ### A connection that is closed -/

open Cluster (gateThread gateRuns connects firstLogin answered gameRuns)

/-- A computable condition that is enough for `InTime`. -/
def inTimeNow (t : ClusterThread T) (a : ClusterAct) (i : ClusterInput) (s : Passage T) : Bool :=
  let gate := s.1.gates t.gateId
  match a with
  | .gate (.session (.activate k _ p _)) => p ≠ 0 &&
      (gate.sessions.get k).any fun record => record.state ≠ .active
  | .gate (.routing (.bindPlayer p _ k)) =>
      (gate.sessions.get k).any fun record => record.state = .active && record.playerId = p
  | .gate (.account (.bindAccount accountId owner)) =>
      (gate.sessions.get owner.sessionId).any fun record =>
        record.state = .active && record.accountId = accountId
  | .gate (.account (.removeGet _ _)) => i.fault = .none
  | .gate (.account (.removeDelete _)) => i.fault = .none
  | .gate (.pending (.takeLogin requestId)) => (gate.login.pendingLogins requestId).isSome
  | .gate (.sendProcessPayload _ _) => i.gate.sent.ok
  | .game (.ipc (.sendProcessPayload _ _)) => i.game.sent.ok
  | _ => true

omit [DecidableEq T] in
theorem inTime_of_inTimeNow {a : ClusterAct} (h : inTimeNow t a i s = true) : InTime t a i s := by
  unfold InTime
  unfold inTimeNow at h
  split
  · simp only [Bool.and_eq_true, Option.any_eq_true, decide_eq_true_eq] at h
    obtain ⟨hp, record, hget, hstate⟩ := h
    exact ⟨hp, record, hget, fun hactive => absurd hactive hstate⟩
  · simp only [Option.any_eq_true, Bool.and_eq_true, decide_eq_true_eq] at h
    obtain ⟨record, hget, hstate, hp⟩ := h
    exact .inl ⟨record.accountId, record, hget, hstate, hp, rfl⟩
  · simp only [Option.any_eq_true, Bool.and_eq_true, decide_eq_true_eq] at h
    obtain ⟨record, hget, hstate, haccount⟩ := h
    exact .inl ⟨record.playerId, record, hget, hstate, rfl, haccount⟩
  · exact fun _ => of_decide_eq_true h
  · rw [of_decide_eq_true h]
    rfl
  · exact fun _ _ _ => Option.isSome_iff_ne_none.mp h
  · exact h
  · exact fun _ => h
  · exact trivial

/-- A computable condition that is enough. -/
def timely (c : PassagePool Unit) : Move (ClusterThread Unit) ClusterOp ClusterInput → Bool
  | .start t o => startedNow t o c.shared
  | .act t i => (c.pending t).all fun a => pacedNow t a c.shared && inTimeNow t a i c.shared

theorem guard_of_timely (c : PassagePool Unit) (m : Move (ClusterThread Unit) ClusterOp ClusterInput)
    (h : timely c m = true) : guard c m := by
  cases m with
  | start t o =>
      simp only [timely] at h
      cases o with
      | gate op => simpa [guard, ClusterOp.Started, startedNow] using h
      | game op => simpa [guard, ClusterOp.Started, startedNow] using h
      | _ => exact trivial
  | act t i =>
      intro a ha
      simp only [timely, ha, Option.all_some, Bool.and_eq_true] at h
      exact ⟨paced_of_pacedNow h.1, inTime_of_inTimeNow h.2⟩

/-- A cluster, before anything has happened. -/
def freshCluster : PassagePool Unit :=
  Pool.initial ({ game := { ipc := { self := some ⟨gameProcess, 1⟩ } } }, {})

/-- The thread of a gate's connections closes the first one. -/
def closes (order : List GateSessionId) (n : Nat) :
    List (Move (ClusterThread Unit) ClusterOp ClusterInput) :=
  .start (gateThread 1) (.gate (.endOfStream 1)) :: gateRuns 1 n order

/-- A client logs in, and its connection is closed; the game hears of it. -/
def comesAndGoes : List (Move (ClusterThread Unit) ClusterOp ClusterInput) :=
  connects 1 ++ firstLogin ++ answered 1 ++ closes [1] 6 ++
    .start (.game ()) .gameDeliver :: gameRuns 2 .nil 0

/-- The threads of a list of moves are in the first life of gate 1, and of the game. -/
def firstLife (ms : List (Move (ClusterThread Unit) ClusterOp ClusterInput)) : Bool :=
  ms.all fun m => m.thread = gateThread 1 || m.thread = .game ()

theorem quiet_of_firstLife {guard : PassagePool Unit → Move (ClusterThread Unit) ClusterOp ClusterInput → Bool}
    {ms : List (Move (ClusterThread Unit) ClusterOp ClusterInput)} {c : PassagePool Unit}
    (hms : firstLife ms = true)
    (hplay : freshCluster.play (machine cfg) (fun t o => o.code cfg 8 t) guard ms = some c)
    (hgate : c.idle (gateThread 1) = true) (hgame : c.idle (.game ()) = true)
    (hinbox : c.shared.1.gateInbox 1 = []) : Quiet 1 c := by
  refine ⟨fun life u => ?_, fun u => hgame, hinbox⟩
  cases life with
  | zero => exact hgate
  | succ n =>
      have hnone : c.threads (.gate 1 (n + 1) u) = none := by
        refine (Pool.play_other (fun m hm heq => ?_) hplay).trans rfl
        have hthread := List.all_eq_true.mp hms m hm
        simp only [heq, Bool.or_eq_true, decide_eq_true_eq, gateThread] at hthread
        rcases hthread with hthread | hthread <;> cases hthread
      simp [Pool.idle, hnone]

/-- After the client of gate 1 has come and gone nothing is left of its session, and the game has been told
about its player. -/
theorem departures_settled_after : ∃ c, freshCluster.play (machine GameProcess.soloGame)
      (fun t o => o.code GameProcess.soloGame 8 t) timely comesAndGoes = some c ∧
    c.shared.2.told (100001, ⟨20, 1, 1⟩) = 1 ∧ (c.shared.1.gates 1).sessions.get 1 = none ∧
    (c.shared.1.gates 1).routes 100001 ≠ some ⟨gameProcess, 1⟩ ∧
    c.shared.2.owed (100001, ⟨20, 1, 1⟩) = false := by
  have hend : (freshCluster.play (machine GameProcess.soloGame)
      (fun t o => o.code GameProcess.soloGame 8 t) timely comesAndGoes).map (fun c =>
        (c.idle (gateThread 1), c.idle (.game ()), c.shared.1.gateInbox 1,
          (c.shared.1.gates 1).connection.sockets 1, c.shared.2.told (100001, ⟨20, 1, 1⟩))) =
      some (true, true, [], false, 1) := rfl
  obtain ⟨c, hc, hcs⟩ := Option.map_eq_some_iff.mp hend
  simp only [Prod.mk.injEq] at hcs
  obtain ⟨hgate, hgame, hinbox, hclosed, htold⟩ := hcs
  obtain ⟨hnone, hroutes, -, hplayers⟩ := departures_settled (g := 1) (k := 1) (fun _ => rfl)
    (fun _ => rfl) (fun _ => rfl) rfl (Run.refl.play guard_of_timely hc)
    (quiet_of_firstLife rfl hc hgate hgame hinbox) hclosed
  exact ⟨c, hc, htold, hnone, fun hroute => hroutes _ _ hroute rfl, (hplayers 100001).1⟩

/-- The client goes before the game's answer is handled. -/
def goesBeforeAnswer : List (Move (ClusterThread Unit) ClusterOp ClusterInput) :=
  connects 1 ++ firstLogin ++ closes [1] 2 ++ answered 1

/-- Threads start what is theirs to start. -/
def started (c : PassagePool Unit) : Move (ClusterThread Unit) ClusterOp ClusterInput → Bool
  | .start t o => startedNow t o c.shared
  | .act _ _ => true

/-- No message is on its way and the connection is closed, but the route and the directory entry of the
session are there, and the game has not been told about the player. -/
theorem departure_lost : ∃ c, freshCluster.play (machine GameProcess.soloGame)
      (fun t o => o.code GameProcess.soloGame 8 t) started goesBeforeAnswer = some c ∧ Quiet 1 c ∧
    c.shared.1.gameInbox = [] ∧ (c.shared.1.gates 1).connection.sockets 1 = false ∧
    (c.shared.1.gates 1).sessions.get 1 = none ∧
    (c.shared.1.gates 1).routes 100001 = some ⟨gameProcess, 1⟩ ∧
    c.shared.1.owners "a" = some "20:1:1" ∧ c.shared.2.owed (100001, ⟨20, 1, 1⟩) = true ∧
    c.shared.2.told (100001, ⟨20, 1, 1⟩) = 0 := by
  have hend : (freshCluster.play (machine GameProcess.soloGame)
      (fun t o => o.code GameProcess.soloGame 8 t) started goesBeforeAnswer).map (fun c =>
        (c.idle (gateThread 1), c.idle (.game ()), c.shared.1.gateInbox 1, c.shared.1.gameInbox,
          (c.shared.1.gates 1).connection.sockets 1, (c.shared.1.gates 1).sessions.get 1,
          (c.shared.1.gates 1).routes 100001, c.shared.1.owners "a",
          c.shared.2.owed (100001, ⟨20, 1, 1⟩), c.shared.2.told (100001, ⟨20, 1, 1⟩))) =
      some (true, true, [], [], false, none, some ⟨gameProcess, 1⟩, some "20:1:1", true, 0) := rfl
  obtain ⟨c, hc, hcs⟩ := Option.map_eq_some_iff.mp hend
  simp only [Prod.mk.injEq] at hcs
  obtain ⟨hgate, hgame, hinbox, hinbox', hclosed, hnone, hroute, howner, howed, htold⟩ := hcs
  exact ⟨c, hc, quiet_of_firstLife rfl hc hgate hgame hinbox, hinbox', hclosed, hnone, hroute, howner,
    howed, htold⟩

end Passage

end SomeServer
