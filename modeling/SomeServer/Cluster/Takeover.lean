/-
# SomeServer.Cluster.Takeover — the newest login of an account takes its session over

A login asks the directory for the session that has the account, has it kicked, and goes on: the game
accepts its player for the new session, the session becomes active, and the directory names it. The kick
is not waited for, so for a while several sessions are active. Each of them is then about to be closed
(`Doomed`), or about to be named (`Unbound`), or is the one that the directory and the game agree on
(`Recorded`, `Named`).

What a login finds in the directory tells it nothing about a login that has looked before it and has not
been named yet. So a login may go on only while no other one has looked since (`OneByOne`); the history
(`LoginLog`) says which login has looked last.
-/
import SomeServer.Cluster.Departures

namespace SomeServer

open Lib

/-! ## Points of a login -/

namespace Work

/-- The login that a handler is putting through. -/
def logsIn : Work → Option PendingLogin
  | .activating pending _ => some pending
  | .routing pending _ => some pending
  | .marking pending _ => some pending
  | .naming pending => some pending
  | _ => none

/-- The login whose session is active by now, and will be named next. -/
def binds : Work → Option PendingLogin
  | .routing pending _ => some pending
  | .marking pending _ => some pending
  | .naming pending => some pending
  | _ => none

/-- The session that a login at gate `g` has not dealt with: the one that it is about to kick, or its
own. -/
def spares (g : UInt32) : Work → Option (UInt32 × GateSessionId)
  | .looked (some owner) => some (owner.instanceId, owner.sessionId)
  | .kicking c => some (g, c)
  | .asking k => some (g, k)
  | _ => none

theorem logsIn_of_binds {w : Work} {pending : PendingLogin} (h : w.binds = some pending) :
    w.logsIn = some pending := by
  cases w <;> first | exact h | cases h

end Work

namespace ClusterPoint

variable {g : UInt32} {o : ClusterOp} {x : ClusterPoint} {a : GateAct} {r : a.Reply}
  {pending : PendingLogin} {c : ConnectionId} {k : GateSessionId} {accountId reason : String}

/-- A login that a handler puts through was before, or has just been taken out of the table. -/
theorem logsIn_next (hfits : x.GateFits g o a) (hnext : (x.gateNext a r).work.logsIn = some pending) :
    x.work.logsIn = some pending ∧ (∀ requestId, a ≠ .pending (.takeLogin requestId)) ∨
      ∃ response, x = ⟨false, .received (.loginPlayerResponse response)⟩ ∧ response.code = .ok ∧
        (⟨a, r⟩ : Σ a : GateAct, a.Reply) = ⟨.pending (.takeLogin response.requestId), some pending⟩ := by
  have hold : x.work.logsIn = some pending → x.work.logsIn = some pending ∧
      ∀ requestId, a ≠ .pending (.takeLogin requestId) := by
    refine fun hw => ⟨hw, ?_⟩
    rintro requestId rfl
    obtain ⟨response, rfl, -⟩ := hfits
    cases hw
  -- most sections leave the work alone or end it; four lead to a login that is put through
  unfold gateNext at hnext
  split at hnext <;> (try split at hnext) <;> (try split at hnext) <;>
    first
      | exact .inl (hold hnext)
      | (cases hnext; done)
      | skip
  -- a snapshot leads on to a kick at most
  · unfold snapshotNext at hnext
    split at hnext <;> (try split at hnext) <;> (try split at hnext) <;>
      first
        | exact .inl (hold hnext)
        | cases hnext
  all_goals rename_i hw
  · exact .inl (hold (by rw [hw]; exact hnext))
  · exact .inl (hold (by rw [hw]; exact hnext))
  · exact .inl (hold (by rw [hw]; exact hnext))
  -- the login has just been taken, by the handler of its response
  · rename_i response taken hreceived
    obtain ⟨response', rfl, rfl⟩ := hfits
    cases hreceived
    cases hnext
    exact .inr ⟨_, rfl, hw, rfl⟩

/-- A handler that is about to have a session named goes on to do so. -/
theorem binds_next (hfits : x.GateFits g o a) (hw : x.work.binds = some pending) :
    (x.gateNext a r).work.binds = some pending ∨ x = ⟨false, .naming pending⟩ ∧
      a = .account (.bindAccount pending.accountId
        ((gateConfiguration g).gateSession pending.gateSessionId)) := by
  obtain ⟨l, w⟩ := x
  unfold gateNext
  split <;> (try split) <;> (try split) <;> first | exact .inl hw | skip
  all_goals cases w <;> first | (cases hw; done) | skip
  all_goals simp_all [GateFits, Work.binds]

/-- A handler knows an owner that the directory has named to it. -/
theorem looked_next {owner : GateAccountOwner} (hnext : (x.gateNext a r).work = .looked (some owner)) :
    x.work = .looked (some owner) ∨ ∃ accountId,
      (⟨a, r⟩ : Σ a : GateAct, a.Reply) = ⟨.account (.lookupAccount accountId), some owner⟩ := by
  unfold gateNext at hnext
  split at hnext <;> (try split at hnext) <;> (try split at hnext) <;>
    first | exact .inl hnext | (cases hnext; done) | skip
  · cases hnext
    exact .inr ⟨_, rfl⟩
  · unfold snapshotNext at hnext
    split at hnext <;> (try split at hnext) <;> (try split at hnext) <;>
      first | exact .inl hnext | cases hnext

/-- A kick that has been received is about a session, which is looked up first. -/
theorem received_next (hfits : x.GateFits g o a)
    (hw : x = ⟨false, .received (.kickAccountSession accountId k reason)⟩) :
    x.gateNext a r = x ∨ a = .session (.snapshot k) := by
  subst hw
  unfold gateNext
  split <;> (try split) <;> (try split) <;> first | exact .inl rfl | skip
  all_goals simp_all [GateFits]

/-- A session that is kicked gets a message, and its connection is closed. -/
theorem kicking_next (hfits : x.GateFits g o a) (hw : x = ⟨false, .kicking c⟩) :
    x.gateNext a r = x ∨ (∃ reason, a = .connection (.send c (.kickNotification reason))) ∨
      a = .connection (.closeEnter c) := by
  subst hw
  unfold gateNext
  split <;> (try split) <;> (try split) <;> first | exact .inl rfl | skip
  all_goals simp_all [GateFits]

/-- A login is under way that was before, or that has just looked its account up. -/
theorem login_next (hfits : x.GateFits g o a) (hnext : (x.gateNext a r).login = true) :
    x.login = true ∨ ∃ accountId, a = .account (.lookupAccount accountId) := by
  unfold gateNext at hnext
  split at hnext <;> (try split at hnext) <;> (try split at hnext) <;>
    first | exact .inl hnext | (cases hnext; done) | skip
  · exact .inr ⟨_, rfl⟩
  · unfold snapshotNext at hnext
    split at hnext <;> (try split at hnext) <;> (try split at hnext) <;>
      first | exact .inl hnext | (cases hnext; done) | exact .inl ‹_›
  · obtain ⟨-, _, rfl, -⟩ := hfits
    exact .inl rfl

/-- What a login has not dealt with it goes on to deal with: its session is looked up, or its connection is
closed, or its gate is told to. -/
theorem spares_next (hfits : x.GateFits g o a) (hlogin : x.login = true)
    (hnext : (x.gateNext a r).login = true)
    (hlookup : ∀ accountId, a ≠ .account (.lookupAccount accountId)) (hask : a.loginRequest = none)
    {y : UInt32 × GateSessionId} (hy : x.work.spares g = some y) :
    (x.gateNext a r).work.spares g = some y ∨
    (∃ owner, x.work = .looked (some owner) ∧ owner.instanceId = g ∧
      a = .session (.snapshot owner.sessionId)) ∨
    (∃ c, x.work = .kicking c ∧ (x.gateNext a r).work = .closing c) ∨
    ∃ owner requestId accountId newGate reason, x.work = .looked (some owner) ∧ owner.instanceId ≠ g ∧
      (∃ k platform, o.asks = some (k, platform, accountId)) ∧
      ∃ result, (⟨a, r⟩ : Σ a : GateAct, a.Reply) = ⟨.sendProcessPayload
        ⟨owner.serviceType, owner.instanceId⟩
        (.kickAccountSession requestId accountId owner newGate reason), result⟩ ∧
          Result.ok result = true := by
  obtain ⟨l, w⟩ := x
  obtain rfl : l = true := hlogin
  -- only three kinds of work spare a session: one that was looked up, one that is kicked, one that asks
  cases w with
  | looked owner =>
      cases owner with
      | none => cases hy
      | some owner =>
          unfold gateNext at hnext ⊢
          split at hnext <;> (try split at hnext) <;> (try split at hnext) <;>
            first | exact .inl hy | (cases hnext; done) | skip
          all_goals simp_all [GateFits, GateAct.loginRequest]
  | kicking c =>
      unfold gateNext at hnext ⊢
      split at hnext <;> (try split at hnext) <;> (try split at hnext) <;>
        first | exact .inl hy | (cases hnext; done) | skip
      all_goals simp_all [GateFits, GateAct.loginRequest, snapshotNext, Work.spares]
  | asking k =>
      unfold gateNext at hnext ⊢
      split at hnext <;> (try split at hnext) <;> (try split at hnext) <;>
        first | exact .inl hy | (cases hnext; done) | skip
      all_goals simp_all [GateFits, GateAct.loginRequest, Work.spares]
  | _ => cases hy

end ClusterPoint

/-! ## The history -/

/-- The login that has looked the account up last: it is at work in a thread, or it has asked the game. -/
inductive LatestLogin (T : Type) where
  | none
  | looked (t : ClusterThread T)
  | asked (instanceId : UInt32) (requestId : RequestId)
deriving DecidableEq

/-- `taken` is the number of the response that a thread has taken last. -/
structure LoginLog (T : Type) where
  latest : LatestLogin T := .none
  taken : ClusterThread T → RequestId := fun _ => 0

/-- The response that a section of a gate takes out of the table. -/
def GateAct.takenLogin : GateAct → Option RequestId
  | .pending (.takeLogin requestId) => some requestId
  | _ => none

section Record

variable {T : Type} [DecidableEq T]

/-- The newest login after a section of a gate. -/
def LatestLogin.next (t : ClusterThread T) (latest : LatestLogin T) : (a : GateAct) → a.Reply → LatestLogin T
  | .account (.lookupAccount _), _ => .looked t
  | .sendProcessPayload _ (.loginPlayerRequest requestId _ _ _ _), result =>
      if Result.ok result = true ∧ latest = .looked t then .asked t.gateId requestId else latest
  | _, _ => latest

/-- What a section of thread `t` adds to the history. -/
def LoginLog.record (t : ClusterThread T) (log : LoginLog T) : (a : ClusterAct) → a.Reply → LoginLog T
  | .gate a, r =>
      { latest := log.latest.next t a r
        taken := a.takenLogin.elim log.taken fun requestId => Function.update log.taken t requestId }
  | _, _ => log

end Record

abbrev Takeover (T : Type) := Passage T × LoginLog T

namespace Takeover

variable {T : Type}

/-! ## The invariant -/

/-- The session is going to be closed. -/
inductive Doomed (account : String) (s : Takeover T) (g : UInt32) (k : GateSessionId) : Prop
  | posted (reason : String) (hin : .kickAccountSession account k reason ∈ s.1.1.gateInbox g)
  | received (life : Nat) (u : T) (reason : String)
      (hpoint : s.1.2.points (.gate g life u) = ⟨false, .received (.kickAccountSession account k reason)⟩)
  | kicking (life : Nat) (u : T) (hpoint : s.1.2.points (.gate g life u) = ⟨false, .kicking k⟩)
  | closing (hat : s.1.At g (.closing k))

/-- The session is going to be named, for the request with this number. -/
def Unbound (s : Takeover T) (g : UInt32) (k : GateSessionId) (requestId : RequestId) : Prop :=
  ∃ life u pending, (s.1.2.points (.gate g life u)).work.binds = some pending ∧
    pending.gateSessionId = k ∧ s.2.taken (.gate g life u) = requestId

/-- The session is in the game's record of the player. -/
def Recorded (s : Takeover T) (g : UInt32) (k : GateSessionId) (p : PlayerId) : Prop :=
  ∃ record, s.1.1.game.sessions p = some record ∧ record.state = .online ∧
    record.gate = (gateConfiguration g).gateSession k

/-- The directory names the session for the account. -/
def Named (account : String) (s : Takeover T) (g : UInt32) (k : GateSessionId) : Prop :=
  s.1.1.owners account = some (GateAccountOwner.buildValue ((gateConfiguration g).gateSession k))

/-- This is the session of the request. -/
def Asks (s : Takeover T) (g : UInt32) (k : GateSessionId) (requestId : RequestId) : Prop :=
  s.1.2.requests (g, requestId) = some k

/-- The newest login is about another session, and has dealt with this one. -/
def Overtaken (s : Takeover T) (g : UInt32) (k : GateSessionId) : Prop :=
  match s.2.latest with
  | .none => False
  | .looked t => (s.1.2.points t).login = true ∧
      (s.1.2.points t).work.spares t.gateId ≠ some (g, k)
  | .asked g' requestId => ¬ (g' = g ∧ s.Asks g k requestId)

section Overtaken

variable {s : Takeover T} {g g' : UInt32} {k : GateSessionId} {t : ClusterThread T} {requestId : RequestId}

theorem not_overtaken_none (h : s.2.latest = .none) : ¬ s.Overtaken g k := by
  unfold Overtaken
  rw [h]
  exact id

theorem overtaken_looked (h : s.2.latest = .looked t) : s.Overtaken g k ↔
    (s.1.2.points t).login = true ∧ (s.1.2.points t).work.spares t.gateId ≠ some (g, k) := by
  unfold Overtaken
  rw [h]

theorem overtaken_asked (h : s.2.latest = .asked g' requestId) :
    s.Overtaken g k ↔ ¬ (g' = g ∧ s.Asks g k requestId) := by
  unfold Overtaken
  rw [h]

end Overtaken

/-- The game has accepted the player for this request of gate `g`. -/
inductive Answered (s : Takeover T) (g : UInt32) (requestId : RequestId) (p : PlayerId) : Prop
  | accepted (u : T) (message : GameMessage) (gate : GateSession) (platform accountId : String)
      (areaId : UInt32) (hwork : (s.1.2.points (.game u)).work = .accepted message p)
      (hsource : message.source = ⟨kGateServiceType, g⟩)
      (hpayload : message.payload = .loginPlayerRequest requestId gate platform accountId areaId)
  | sent (response : LoginPlayerResponse) (hin : .loginPlayerResponse response ∈ s.1.1.gateInbox g)
      (hcode : response.code = .ok) (hr : response.requestId = requestId) (hp : response.playerId = p)
  | received (response : LoginPlayerResponse)
      (hat : s.1.At g (.received (.loginPlayerResponse response)))
      (hcode : response.code = .ok) (hr : response.requestId = requestId) (hp : response.playerId = p)
  | activating (life : Nat) (u : T) (pending : PendingLogin) (response : LoginPlayerResponse)
      (hwork : (s.1.2.points (.gate g life u)).work = .activating pending response)
      (hr : s.2.taken (.gate g life u) = requestId) (hp : response.playerId = p)

/-- What is known of the connections, the logins and the messages of the account. -/
structure Grounded (account : String) (s : Takeover T) : Prop where
  known : ∀ g k, (s.1.1.gates g).connection.sockets k = true →
    (s.1.1.gates g).connection.connections k ≠ none
  waiting : ∀ g requestId pending, (s.1.1.gates g).login.pendingLogins requestId = some pending →
    pending.accountId = account
  logsIn : ∀ g life u pending, (s.1.2.points (.gate g life u)).work.logsIn = some pending →
    pending.accountId = account ∧ s.Asks g pending.gateSessionId (s.2.taken (.gate g life u))
  active : ∀ g k record, (s.1.1.gates g).sessions.get k = some record → record.state = .active →
    record.accountId = account
  written : ∀ value, s.1.1.owners account = some value →
    ∃ g k, value = GateAccountOwner.buildValue ((gateConfiguration g).gateSession k)
  looked : ∀ g life u owner, (s.1.2.points (.gate g life u)).work = .looked (some owner) →
    ∃ g k, owner = (gateConfiguration g).gateSession k
  left : ∀ message p gate, (message ∈ s.1.1.gameInbox ∨
      ∃ u, (s.1.2.points (.game u)).work = .serving message) →
    message.payload = .playerDisconnected p gate →
      ∃ g k, gate = (gateConfiguration g).gateSession k ∧ s.1.Gone g k
  answering : ∀ u message requestId gate platform accountId areaId,
    s.1.1.answering (.game u) = some message →
      message.payload = .loginPlayerRequest requestId gate platform accountId areaId →
        (s.1.2.points (.game u)).work = .serving message ∨
          ∃ p, (s.1.2.points (.game u)).work = .accepted message p
  asked : ∀ g requestId, s.2.latest = .asked g requestId → ∃ k, s.Asks g k requestId
  answered : ∀ g requestId p, s.Answered g requestId p → ∃ k, s.Asks g k requestId

/-- What is known of the sessions on which the account is active: the newest login has the last word. -/
structure Single (account : String) (s : Takeover T) : Prop where
  claimed : ∀ g k p, s.1.Active g k p account → s.Doomed account g k ∨ (∃ r, s.Unbound g k r) ∨
    s.Recorded g k p ∧ s.Named account g k
  overtaken : ∀ g k p, s.1.Active g k p account → s.Overtaken g k →
    s.Doomed account g k ∨ ∃ r, s.Unbound g k r
  own : ∀ g k p requestId, s.2.latest = .asked g requestId → s.Asks g k requestId →
    s.1.Active g k p account → s.Doomed account g k ∨ (∃ r, r ≠ requestId ∧ s.Unbound g k r) ∨
      s.Recorded g k p
  answered : ∀ g k p requestId, s.2.latest = .asked g requestId → s.Asks g k requestId →
    s.Answered g requestId p → s.1.Gone g k ∨ s.Recorded g k p

/-- The sections with which the game makes a player active. -/
def activates : SessionAct → Bool
  | .activateEnter _ _ => true
  | .activateResume _ _ => true
  | .activateInsert _ _ => true
  | _ => false

/-- The condition on the logins of an account:
* a look-up is answered by Redis, and the `SET` that names a session is executed;
* the game works on the activation of a login, its session becomes active and is named, only while no
  other login has looked the account up since this one has;
* an entry that is deleted is the one of the session that has been removed, or there is none;
* a client that is kicked can be told so;
* the game takes the record of an online player back for a disconnect only. -/
def OneByOne (account : String) (t : ClusterThread T) (a : ClusterAct) (i : ClusterInput)
    (s : Takeover T) : Prop :=
  match a with
  | .gate (.account (.lookupAccount _)) => i.fault = .none
  | .gate (.account (.bindAccount _ _)) =>
      i.fault.executes = true ∧ s.2.latest = .asked t.gateId (s.2.taken t)
  | .gate (.account (.removeDelete _)) => ∀ record value, (s.1.2.points t).work = .deleting record →
      s.1.1.owners account = some value → value = GateAccountOwner.buildValue
        ((gateConfiguration t.gateId).gateSession record.gateSessionId)
  | .gate (.session (.activate _ _ _ _)) => s.2.latest = .asked t.gateId (s.2.taken t)
  | .gate (.connection (.send _ (.kickNotification _))) => i.gate.written.ok = true
  | .game (.session (.detachFrom _ _)) => True
  | .game (.session b) =>
      (∀ p gate record, Act.takesBack p gate (.session b) → s.1.1.game.sessions p = some record →
        record.state ≠ .online) ∧
      (activates b = true → ∀ message requestId gate platform accountId areaId,
        (s.1.2.points t).work = .serving message →
          message.payload = .loginPlayerRequest requestId gate platform accountId areaId →
            s.2.latest = .asked message.source.instanceId requestId)
  | _ => True

variable [DecidableEq T]

/-- The cluster with both histories. -/
def machine (cfg : GameConfiguration) :
    Machine (ClusterThread T) ClusterAct ClusterAct.Reply ClusterInput (Takeover T) :=
  (Passage.machine cfg).withHistory fun t a _ _ _ r log => log.record t a r

variable {cfg : GameConfiguration} {account : String} {t : ClusterThread T} {i : ClusterInput}
  {o : ClusterOp} {s s' : Takeover T} {g : UInt32} {k : GateSessionId} {p : PlayerId}
  {requestId : RequestId}

theorem machine_exec {a : ClusterAct} {r : a.Reply} (h : (machine cfg).exec t a i s = some (s', r)) :
    (Passage.machine cfg).exec t a i s.1 = some (s'.1, r) ∧ s'.2 = s.2.record t a r :=
  Machine.withHistory_exec h

omit [DecidableEq T] in
/-- A session that is over is not active. -/
theorem not_gone (hactive : s.1.Active g k p account) : ¬ s.1.Gone g k := by
  rintro ⟨hnone, -⟩
  obtain ⟨record, hget, -⟩ := hactive
  rw [hnone] at hget
  cases hget

/-! ## One section of a gate -/

/-- What is known of one section of a gate. -/
structure GateTurn (account : String) (t : ClusterThread T) (i : ClusterInput) (o : ClusterOp)
    (a : GateAct) (r : a.Reply) (s s' : Takeover T) : Prop where
  move : Passage.GateMove t i o a r s.1 s'.1
  log : s'.2 = s.2.record t (.gate a) r
  ok : OneByOne account t (.gate a) i s
  logs : ∀ k platform accountId, o.asks = some (k, platform, accountId) → accountId = account

namespace GateTurn

variable {a : GateAct} {r : a.Reply} (h : GateTurn account t i o a r s s')
include h

/-! ### What the section does -/

theorem taken_of_ne {u : ClusterThread T} (hu : u ≠ t) : s'.2.taken u = s.2.taken u := by
  rw [h.log]
  show (a.takenLogin.elim s.2.taken fun requestId => Function.update s.2.taken t requestId) u = _
  cases a.takenLogin with
  | none => rfl
  | some requestId => exact Function.update_of_ne hu ..

theorem taken_self : s'.2.taken t = a.takenLogin.getD (s.2.taken t) := by
  rw [h.log]
  show (a.takenLogin.elim s.2.taken fun requestId => Function.update s.2.taken t requestId) t = _
  cases a.takenLogin with
  | none => rfl
  | some requestId => exact Function.update_self ..

/-- The newest login is the same, or another one looks, or the newest one asks. -/
theorem latest_cases :
    (s'.2.latest = s.2.latest ∧ (∀ accountId, a ≠ .account (.lookupAccount accountId)) ∧
      (s.2.latest = .looked t → a.loginRequest = none ∨
        ((s.1.2.points t).gateNext a r).login = false)) ∨
    (∃ accountId, a = .account (.lookupAccount accountId) ∧ s'.2.latest = .looked t) ∨
    ∃ target requestId gate platform accountId areaId,
      a = .sendProcessPayload target (.loginPlayerRequest requestId gate platform accountId areaId) ∧
        s.2.latest = .looked t ∧ s'.2.latest = .asked t.gateId requestId := by
  have hfits := h.move.fits
  rw [h.log]
  show (s.2.latest.next t a r = _ ∧ _ ∧ _) ∨ (∃ _, _ ∧ s.2.latest.next t a r = _) ∨ _
  cases a with
  | account b =>
      cases b with
      -- the newest login is now the one that looks
      | lookupAccount accountId => exact .inr (.inl ⟨accountId, rfl, rfl⟩)
      | _ => exact .inl ⟨rfl, fun _ heq => (by cases heq), fun _ => .inl rfl⟩
  | sendProcessPayload target payload =>
      cases payload with
      | loginPlayerRequest requestId gate platform accountId areaId =>
          -- the request goes out, and it is the newest login that sends it
          by_cases hnew : Result.ok r = true ∧ s.2.latest = .looked t
          · refine .inr (.inr ⟨target, requestId, gate, platform, accountId, areaId, rfl, hnew.2, ?_⟩)
            exact if_pos hnew
          · refine .inl ⟨if_neg hnew, fun _ heq => (by cases heq), fun hlatest => .inr ?_⟩
            obtain ⟨-, k, hpoint, -⟩ := hfits
            have hfail : Result.ok r = false := by
              cases hok : Result.ok r with
              | false => rfl
              | true => exact absurd ⟨hok, hlatest⟩ hnew
            rw [hpoint]
            simp only [ClusterPoint.gateNext, hfail, Bool.false_eq_true, if_false]
      | _ => exact .inl ⟨rfl, fun _ heq => (by cases heq), fun _ => .inl rfl⟩
  | _ => exact .inl ⟨rfl, fun _ heq => (by cases heq), fun _ => .inl rfl⟩

/-- A session is active that was active before, or that a handler has just logged in. -/
theorem active_cases (hactive : s'.1.Active g k p account) : s.1.Active g k p account ∨
    g = t.gateId ∧ ∃ pending response game,
      s.1.2.points t = ⟨false, .activating pending response⟩ ∧ pending.gateSessionId = k ∧
        response.playerId = p ∧ a = .session (.activate k pending.accountId p game) := by
  obtain ⟨record, hget, hstate, hplayer, haccount⟩ := hactive
  have hfits := h.move.fits
  by_cases hg : g = t.gateId
  case neg =>
    rw [h.move.step.gates g hg] at hget
    exact .inl ⟨record, hget, hstate, hplayer, haccount⟩
  subst hg
  -- the four ways a gate's sessions change: not at all, accepted, activated, removed
  rcases GateProcess.exec_sessions h.move.step.exec with hs | ⟨k', c, -, -, hs⟩ |
    ⟨k', account', q, game, old, rfl, -, hs⟩ | ⟨c, k', old, -, -, -, hs⟩ <;> rw [hs] at hget
  · exact .inl ⟨record, hget, hstate, hplayer, haccount⟩
  -- an accepted session is not active yet
  · by_cases hk : k = k'
    · subst hk
      rw [Table.set_get_self] at hget
      cases hget
      cases hstate
    · rw [Table.set_get_of_ne hk] at hget
      exact .inl ⟨record, hget, hstate, hplayer, haccount⟩
  -- the session is the one that is activated, and the fits say by whom
  · by_cases hk : k = k'
    · subst hk
      rw [Table.set_get_self] at hget
      cases hget
      cases hplayer
      obtain ⟨pending, response, hpoint, rfl, rfl, rfl, -⟩ := hfits
      exact .inr ⟨rfl, pending, response, game, hpoint, rfl, rfl, rfl⟩
    · rw [Table.set_get_of_ne hk] at hget
      exact .inl ⟨record, hget, hstate, hplayer, haccount⟩
  -- a removed session is not active
  · by_cases hk : k = k'
    · subst hk
      rw [Table.erase_get_self] at hget
      cases hget
    · rw [Table.erase_get_of_ne hk] at hget
      exact .inl ⟨record, hget, hstate, hplayer, haccount⟩

/-- A session is active that was active before, when the section logs nobody in. -/
theorem active_old (hno : ∀ k accountId p game, a ≠ .session (.activate k accountId p game))
    (hactive : s'.1.Active g k p account) : s.1.Active g k p account := by
  rcases h.active_cases hactive with hold | ⟨-, _, _, _, -, -, -, ha⟩
  · exact hold
  · exact absurd ha (hno _ _ _ _)

/-! ### Sessions that are going to be closed -/

/-- An active session whose connection has lost its socket is about to be removed. -/
theorem doomed_of_socket (hT : s.1.Lively) (hactive : s.1.Active g k p account)
    (hsocket : (s.1.1.gates g).connection.sockets k ≠ true)
    (hkept : ∀ c, a ≠ .session (.removeByConnection c)) : s'.Doomed account g k := by
  obtain ⟨record, hget, -⟩ := hactive
  rcases hT.live g k (by rw [hget]; rfl) with hlive | hat
  · exact absurd hlive hsocket
  · rcases h.move.at_old hat with hat | ⟨-, -, ha, -⟩
    · exact .closing hat
    · exact absurd ha (hkept k)

/-- A session that is going to be closed still is, as long as it is there. -/
theorem doomed_old (hT : s.1.Lively) (hG : s.Grounded account) (hactive : s'.1.Active g k p account)
    (hdoomed : s.Doomed account g k) : s'.Doomed account g k := by
  have hfits := h.move.fits
  have hok := h.ok
  cases hdoomed with
  | posted reason hin => exact .posted reason (h.move.step.keeps.1 g _ hin)
  | closing hat =>
      -- the thread still closes the connection, or has just closed it and the session is gone
      rcases h.move.at_old hat with hat | ⟨rfl, -, rfl, -⟩
      · exact .closing hat
      · obtain ⟨record, hget, -⟩ := hactive
        rcases GateProcess.exec_removeByConnection (hT.keyed _) h.move.step.exec with
          ⟨hnone, -, hs⟩ | ⟨_, -, -, hs⟩ <;> rw [hs] at hget
        · rw [hnone] at hget
          cases hget
        · rw [Table.erase_get_self] at hget
          cases hget
  | received life u reason hpoint =>
      by_cases hu : .gate g life u = t
      case neg => exact .received life u reason (by rw [h.move.other hu, hpoint])
      obtain rfl : g = t.gateId := by rw [← hu]; rfl
      rw [hu] at hpoint
      have hself := h.move.self
      rcases ClusterPoint.received_next (r := r) hfits hpoint with hsame | rfl
      · exact .received life u reason (by rw [hu, hself, hsame, hpoint])
      · -- The session is there: the handler goes on to kick it.
        obtain ⟨record, hget, -, -, haccount⟩ := hactive
        obtain ⟨m, hm, hs⟩ := GateProcess.exec_session h.move.step.exec
        simp only [GateSessions.exec, Option.some.injEq, Prod.mk.injEq] at hm
        obtain ⟨rfl, rfl⟩ := hm
        have hfound : (s.1.1.gates t.gateId).sessions.get k = some record := by
          rw [hs] at hget
          exact hget
        refine .kicking life u ?_
        rw [hu, hself, hpoint]
        simp only [ClusterPoint.gateNext, ClusterPoint.snapshotNext, hfound, haccount, if_true,
          (hT.keyed _ k record hfound).2]
  | kicking life u hpoint =>
      by_cases hu : .gate g life u = t
      case neg => exact .kicking life u (by rw [h.move.other hu, hpoint])
      obtain rfl : g = t.gateId := by rw [← hu]; rfl
      rw [hu] at hpoint
      have hself := h.move.self
      -- the reason is sent, and then the connection is closed, unless the socket is gone already
      rcases ClusterPoint.kicking_next (r := r) hfits hpoint with hsame | ⟨reason, rfl⟩ | rfl
      · exact .kicking life u (by rw [hu, hself, hsame, hpoint])
      · obtain ⟨-, hr⟩ := GateProcess.exec_connection h.move.step.exec
        cases hsocket : (s.1.1.gates t.gateId).connection.sockets k with
        | false =>
            exact h.doomed_of_socket hT (h.active_old (fun _ _ _ _ heq => by cases heq) hactive)
              (by rw [hsocket]; exact fun heq => by cases heq) fun _ heq => by cases heq
        | true =>
            have hsent : Result.ok r = true := by
              rw [hr]
              simp only [GateConnectionService.exec, GateConnectionService.send, hsocket, if_true]
              exact hok
            refine .kicking life u ?_
            rw [hu, hself, hpoint]
            simp only [ClusterPoint.gateNext, hsent, if_true]
      · obtain ⟨-, hr⟩ := GateProcess.exec_connection h.move.step.exec
        cases hclosed : Result.ok r with
        | true =>
            refine .closing ⟨life, u, ?_⟩
            rw [hu, hself]
            simp only [ClusterPoint.gateNext, hclosed, if_true]
        | false =>
            refine h.doomed_of_socket hT (h.active_old (fun _ _ _ _ heq => by cases heq) hactive)
              (fun hsocket => ?_) fun _ heq => by cases heq
            have hknown := Option.isSome_iff_ne_none.mpr (hG.known _ _ hsocket)
            rw [hr] at hclosed
            simp only [GateConnectionService.exec, GateConnectionService.closeEnter, hknown,
              if_true] at hclosed
            cases hclosed

/-! ### Sessions that are going to be named -/

/-- The account is bound to the session for which the newest login asks. -/
theorem bound (hT : s.1.Lively) (hG : s.Grounded account) {accountId : String} {owner : GateAccountOwner}
    (ha : a = .account (.bindAccount accountId owner)) : ∃ k, owner = (gateConfiguration t.gateId).gateSession k ∧
      s.2.latest = .asked t.gateId (s.2.taken t) ∧ s.Asks t.gateId k (s.2.taken t) ∧
        s'.Named account t.gateId k := by
  subst ha
  obtain ⟨u, hu⟩ := h.move.step.thread
  obtain ⟨pending, hpoint, rfl, rfl⟩ := h.move.fits
  obtain ⟨haccount, hasks⟩ := hG.logsIn t.gateId _ u pending (by rw [← hu, hpoint]; rfl)
  rw [← hu] at hasks
  obtain ⟨hexecutes, hlatest⟩ := h.ok
  refine ⟨pending.gateSessionId, rfl, hlatest, hasks, ?_⟩
  unfold Named
  rw [h.move.step.owners]
  simp only [Cluster.served, hT.redis, if_true]
  cases hfault : i.fault with
  | none | replyLost =>
      simp only [Cluster.serveAccount, Cluster.executeAccount, haccount, Function.update_self]
  | dropped | unavailable =>
      rw [hfault] at hexecutes
      cases hexecutes

/-- A session that is going to be named still is, or has just been named for the newest login. -/
theorem unbound_old (hT : s.1.Lively) (hG : s.Grounded account) (hunbound : s.Unbound g k requestId) :
    s'.Unbound g k requestId ∨ s.2.latest = .asked g requestId ∧ s'.2.latest = .asked g requestId ∧
      s.Asks g k requestId ∧ s'.Named account g k := by
  obtain ⟨life, u, pending, hw, rfl, rfl⟩ := hunbound
  by_cases hu : .gate g life u = t
  case neg => exact .inl ⟨life, u, pending, by rw [h.move.other hu, hw], rfl, h.taken_of_ne hu⟩
  obtain rfl : g = t.gateId := by rw [← hu]; rfl
  rw [hu] at hw ⊢
  -- the handler still has the login to bind, or has just bound it
  rcases ClusterPoint.binds_next (r := r) h.move.fits hw with hnext | ⟨-, ha⟩
  · refine .inl ⟨life, u, pending, by rw [hu, h.move.self, hnext], rfl, ?_⟩
    rw [hu, h.taken_self]
    cases htaken : a.takenLogin with
    | none => rfl
    | some taken =>
        have hfits := h.move.fits
        unfold GateAct.takenLogin at htaken
        split at htaken
        · obtain ⟨response, hpoint, -⟩ := hfits
          rw [hpoint] at hw
          cases hw
        · cases htaken
  · obtain ⟨k, howner, hlatest, hasks, hnamed⟩ := h.bound hT hG ha
    obtain ⟨-, rfl⟩ := Passage.gateSession_inj.mp howner
    refine .inr ⟨hlatest, ?_, hasks, hnamed⟩
    subst ha
    rw [h.log]
    exact hlatest

/-- A session that is named still is, or the newest login's has just been named, or it is over. -/
theorem named_old (hT : s.1.Lively) (hG : s.Grounded account) (hnamed : s.Named account g k) :
    s'.Named account g k ∨ s'.1.Gone g k ∨
      ∃ g' k' r, s.2.latest = .asked g' r ∧ s.Asks g' k' r ∧ s'.Named account g' k' := by
  -- only a bind and a conditional deletion write the name of an account
  by_cases hb : ∃ accountId owner, a = .account (.bindAccount accountId owner)
  · obtain ⟨accountId, owner, ha⟩ := hb
    obtain ⟨k', -, hlatest, hasks, hnamed'⟩ := h.bound hT hG ha
    exact .inr (.inr ⟨_, k', _, hlatest, hasks, hnamed'⟩)
  by_cases hd : a = .account (.removeDelete account)
  · subst hd
    obtain ⟨record, hw, rfl⟩ := h.move.fits
    have hvalue := h.ok record _ hw hnamed
    obtain ⟨rfl, rfl⟩ := Passage.gateSession_inj.mp (GateAccountOwner.buildValue_inj.mp hvalue)
    have hat := h.move.at_point
    rw [hw] at hat
    exact .inr (.inl (h.move.gone hT (hT.gone _ record (.inr (.inr hat)))))
  · left
    unfold Named
    rw [h.move.step.owners]
    -- a name that is gone was deleted, which is the case behind
    cases hvalue : (s.1.1.served t.gateId i.fault a).1 account with
    | none =>
        refine absurd ?_ hd
        cases a with
        | account b =>
            simp only [Cluster.served, hT.redis, if_true] at hvalue
            rw [Cluster.serveAccount_none hnamed hvalue]
        | _ =>
            have hwas : s.1.1.owners account = some _ := hnamed
            cases hwas.symm.trans hvalue
    | some value =>
        -- a name that is there is the old one, or is bound just now
        rcases Cluster.served_owners hvalue with hold | ⟨owner, ha, -⟩
        · rw [← hold]
          exact hnamed
        · exact absurd ⟨account, owner, ha⟩ hb

/-! ### Sessions of the past -/

/-- A look-up finds the session that the directory names. -/
theorem looks_up (hT : s.1.Lively) {accountId : String} {found : Option GateAccountOwner}
    (ha : (⟨a, r⟩ : Σ a : GateAct, a.Reply) = ⟨.account (.lookupAccount accountId), found⟩)
    (hnamed : s.Named account g k) : found = some ((gateConfiguration g).gateSession k) := by
  cases ha
  obtain ⟨-, -, k', platform, hasks⟩ := h.move.fits
  obtain rfl := h.logs k' platform accountId hasks
  have hfault : i.fault = .none := h.ok
  obtain ⟨d, hd, -⟩ := GateProcess.exec_account h.move.step.exec
  simp only [GateAccountDirectoryService.exec, Option.ite_none_left_eq_some, Option.some.injEq,
    Prod.mk.injEq] at hd
  have hvalue : s.1.1.owners accountId = some _ := hnamed
  rw [← hd.2.2]
  simp only [GateAccountDirectoryService.lookupAccount, hT.redis, Cluster.served, if_true, hfault,
    Cluster.serveAccount, Cluster.executeAccount, hvalue, Option.elim, Bool.not_true, Bool.false_eq_true,
    if_false, GateAccountDirectoryService.readOwner, GateAccountOwner.parseValue_buildValue]

/-- What the newest login deals with next is going to be closed. -/
theorem dealt_with (hT : s.1.Lively) (hG : s.Grounded account) (hactive : s.1.Active g k p account)
    (hlookup : ∀ accountId, a ≠ .account (.lookupAccount accountId)) (hask : a.loginRequest = none)
    (hlogin : (s'.1.2.points t).login = true)
    (hspares : (s'.1.2.points t).work.spares t.gateId ≠ some (g, k)) :
    (s.1.2.points t).login = true ∧ ((s.1.2.points t).work.spares t.gateId ≠ some (g, k) ∨
      s'.Doomed account g k) := by
  have hfits := h.move.fits
  have hself := h.move.self
  rw [hself] at hlogin hspares
  have hbefore : (s.1.2.points t).login = true :=
    (ClusterPoint.login_next hfits hlogin).resolve_right fun ⟨_, ha⟩ => hlookup _ ha
  refine ⟨hbefore, ?_⟩
  by_cases hspared : (s.1.2.points t).work.spares t.gateId = some (g, k)
  case neg => exact .inl hspared
  right
  rcases ClusterPoint.spares_next (r := r) hfits hbefore hlogin hlookup hask hspared with
    hsame | ⟨owner, hw, hown, rfl⟩ | ⟨c, hw, hnext⟩ |
      ⟨owner, q, accountId, newGate, reason, hw, hremote, ⟨k', platform, hasks⟩, result, heq, hok⟩
  · exact absurd hsame hspares
  · -- The session is there, so it is found, and spared once more.
    rw [hw] at hspared
    obtain ⟨rfl, rfl⟩ : owner.instanceId = g ∧ owner.sessionId = k := by
      simpa only [Work.spares, Option.some.injEq, Prod.mk.injEq] using hspared
    obtain ⟨record, hget, -⟩ := hactive
    obtain ⟨m, hm, -⟩ := GateProcess.exec_session h.move.step.exec
    simp only [GateSessions.exec, Option.some.injEq, Prod.mk.injEq] at hm
    obtain ⟨-, rfl⟩ := hm
    rw [hown] at hget hspares
    refine absurd ?_ hspares
    simp only [ClusterPoint.gateNext, ClusterPoint.snapshotNext, hw, hget, Work.spares,
      (hT.keyed _ _ record hget).2]
  · rw [hw] at hspared
    obtain ⟨rfl, rfl⟩ : t.gateId = g ∧ c = k := by
      simpa only [Work.spares, Option.some.injEq, Prod.mk.injEq] using hspared
    have hat := h.move.at_self
    rw [hnext] at hat
    exact .closing hat
  · rw [hw] at hspared
    obtain ⟨rfl, rfl⟩ : owner.instanceId = g ∧ owner.sessionId = k := by
      simpa only [Work.spares, Option.some.injEq, Prod.mk.injEq] using hspared
    obtain rfl := h.logs k' platform accountId hasks
    obtain ⟨u, hu⟩ := h.move.step.thread
    rw [hu] at hw
    obtain ⟨g', k'', rfl⟩ := hG.looked _ _ u owner hw
    cases heq
    have hsent : i.gate.sent.ok = true := by
      rw [← (GateProcess.exec_send h.move.step.exec).2]
      exact hok
    exact .posted reason (h.move.step.kicks _ _ _ _ _ _ _ rfl hsent (by rintro heq; cases heq) rfl)

/-- A session that the newest login has dealt with had been dealt with before, or its time has come. -/
theorem overtaken_old (hT : s.1.Lively) (hG : s.Grounded account) (hS : s.Single account)
    (hactive : s.1.Active g k p account) (hover : s'.Overtaken g k) :
    s'.Doomed account g k ∨ s.Doomed account g k ∨ ∃ r, s.Unbound g k r := by
  have hfits := h.move.fits
  have hpast : s.Overtaken g k →
      s'.Doomed account g k ∨ s.Doomed account g k ∨ ∃ r, s.Unbound g k r :=
    fun hold => .inr (hS.overtaken g k p hactive hold)
  -- the newest login is the same one, or looks just now, or asks just now
  rcases h.latest_cases with ⟨hlatest, hlookup, hask⟩ | ⟨accountId, rfl, hlatest⟩ |
    ⟨target, q, gate, platform, accountId, areaId, rfl, hbefore, hlatest⟩
  · cases hl : s.2.latest with
    | none => exact absurd hover (not_overtaken_none (hlatest.trans hl))
    | asked g' q =>
        refine hpast ((overtaken_asked hl).mpr fun ⟨hg, hasks⟩ => ?_)
        exact (overtaken_asked (hlatest.trans hl)).mp hover ⟨hg, h.move.requests hasks⟩
    | looked u =>
        obtain ⟨hlogin, hspares⟩ := (overtaken_looked (hlatest.trans hl)).mp hover
        by_cases hu : u = t
        · subst hu
          have hno : a.loginRequest = none := (hask hl).resolve_right fun hout => by
            rw [h.move.self, hout] at hlogin
            cases hlogin
          obtain ⟨hbefore, hdealt⟩ := h.dealt_with hT hG hactive hlookup hno hlogin hspares
          exact hdealt.elim (fun hspares => hpast ((overtaken_looked hl).mpr ⟨hbefore, hspares⟩)) .inl
        · rw [h.move.other hu] at hlogin hspares
          exact hpast ((overtaken_looked hl).mpr ⟨hlogin, hspares⟩)
  · obtain ⟨-, hspares⟩ := (overtaken_looked hlatest).mp hover
    rcases hS.claimed g k p hactive with hdoomed | hunbound | ⟨-, hnamed⟩
    · exact .inr (.inl hdoomed)
    · exact .inr (.inr hunbound)
    · refine absurd ?_ hspares
      rw [h.move.self, h.looks_up hT rfl hnamed]
      rfl
  · -- The login asks for its own session, which it has spared.
    obtain ⟨-, k', hpoint, -, rfl⟩ := hfits
    refine hpast ((overtaken_looked hbefore).mpr ⟨by rw [hpoint], fun hspares => ?_⟩)
    rw [hpoint] at hspares
    obtain ⟨rfl, rfl⟩ : t.gateId = g ∧ k' = k := by
      simpa only [Work.spares, Option.some.injEq, Prod.mk.injEq] using hspares
    exact (overtaken_asked hlatest).mp hover ⟨rfl, h.move.requested rfl⟩

/-! ### What the game has accepted -/

/-- A player that has been accepted had been before. -/
theorem answered_old (hanswered : s'.Answered g requestId p) : s.Answered g requestId p := by
  have hfits := h.move.fits
  cases hanswered with
  -- games do not move here
  | accepted u message gate platform accountId areaId hwork hsource hpayload =>
      rw [h.move.game_points] at hwork
      exact .accepted u message gate platform accountId areaId hwork hsource hpayload
  -- a response is on its way, is being handled, or has had its login taken
  | sent response hin hcode hr hp =>
      rcases h.move.step.inbox g _ hin with hold | ⟨_, _, _, _, _, _, -, -, heq⟩
      · exact .sent response hold hcode hr hp
      · cases heq
  | received response hat hcode hr hp =>
      rcases h.move.at_new hat with hold | ⟨-, -, hfalse⟩
      · exact .received response hold hcode hr hp
      · exact hfalse.elim
  | activating life u pending response hwork hr hp =>
      by_cases hu : .gate g life u = t
      case neg =>
        rw [h.move.other hu] at hwork
        rw [h.taken_of_ne hu] at hr
        exact .activating life u pending response hwork hr hp
      obtain rfl : g = t.gateId := by rw [← hu]; rfl
      rw [hu, h.move.self] at hwork
      rw [hu, h.taken_self] at hr
      have hlogs : ((s.1.2.points t).gateNext a r).work.logsIn = some pending := by rw [hwork]; rfl
      -- the login is being put through as before, or the handler of the response has just begun to
      by_cases hsame : ((s.1.2.points t).gateNext a r).work = (s.1.2.points t).work
      · refine .activating life u pending response (by rw [hu, ← hsame, hwork]) ?_ hp
        rw [hu, ← hr]
        rcases ClusterPoint.logsIn_next hfits hlogs with ⟨-, hno⟩ | ⟨response', hpoint, -⟩
        · unfold GateAct.takenLogin
          split
          · exact absurd rfl (hno _)
          · rfl
        · rw [hsame, hpoint] at hwork
          cases hwork
      · have hbegins := ClusterPoint.begins_of_next hfits hsame
        rw [hwork] at hbegins
        obtain ⟨hreceived, hcode, heq⟩ := hbegins
        cases heq
        have hat := h.move.at_point
        rw [hreceived] at hat
        exact .received response hat hcode hr hp

theorem recorded_iff : s'.Recorded g k p ↔ s.Recorded g k p := by
  unfold Recorded
  rw [h.move.step.game]

/-! ### The sessions of the account -/

/-- A handler has just made a session active, and is going to have it named. -/
theorem unbound_new {pending : PendingLogin} {response : LoginPlayerResponse} {game : ProcessId}
    (hpoint : s.1.2.points t = ⟨false, .activating pending response⟩)
    (ha : a = .session (.activate k pending.accountId p game)) :
    s'.Unbound t.gateId pending.gateSessionId (s.2.taken t) := by
  subst ha
  obtain ⟨u, hu⟩ := h.move.step.thread
  refine ⟨s.1.1.lives t.gateId, u, pending, ?_, rfl, ?_⟩
  · rw [← hu, h.move.self, hpoint]
    rfl
  · rw [← hu, h.taken_self]
    rfl

/-- An active session is going to be closed or named, or the game and the directory know it. -/
theorem claimed_kept (hT : s.1.Lively) (hG : s.Grounded account) (hS : s.Single account)
    (hactive : s'.1.Active g k p account) :
    s'.Doomed account g k ∨ (∃ r, s'.Unbound g k r) ∨ s'.Recorded g k p ∧ s'.Named account g k := by
  rcases h.active_cases hactive with hold | ⟨rfl, pending, response, game, hpoint, rfl, -, ha⟩
  case inr => exact .inr (.inl ⟨_, h.unbound_new hpoint ha⟩)
  have hdoomed : s.Doomed account g k → s'.Doomed account g k := h.doomed_old hT hG hactive
  rcases hS.claimed g k p hold with hd | ⟨r, hu⟩ | ⟨hrecorded, hnamed⟩
  · exact .inl (hdoomed hd)
  · rcases h.unbound_old hT hG hu with hu | ⟨hlatest, -, hasks, hnamed⟩
    · exact .inr (.inl ⟨r, hu⟩)
    -- The account has just been bound: the game knows the session, if nothing else is about to happen to it.
    rcases hS.own g k p r hlatest hasks hold with hd | ⟨r', hne, hu⟩ | hrecorded
    · exact .inl (hdoomed hd)
    · rcases h.unbound_old hT hG hu with hu | ⟨hlatest', -⟩
      · exact .inr (.inl ⟨r', hu⟩)
      · rw [hlatest] at hlatest'
        cases hlatest'
        exact absurd rfl hne
    · exact .inr (.inr ⟨h.recorded_iff.mpr hrecorded, hnamed⟩)
  · have hnow : s'.Named account g k → s'.Doomed account g k ∨ (∃ r, s'.Unbound g k r) ∨
        s'.Recorded g k p ∧ s'.Named account g k :=
      fun hnamed => .inr (.inr ⟨h.recorded_iff.mpr hrecorded, hnamed⟩)
    rcases h.named_old hT hG hnamed with hnamed | hgone | ⟨g', k', r, hlatest, hasks, hnamed'⟩
    · exact hnow hnamed
    · exact absurd hgone (not_gone hactive)
    by_cases hself : g' = g ∧ s.Asks g k r
    · obtain ⟨rfl, hasks'⟩ := hself
      obtain rfl : k' = k := Option.some.inj (hasks.symm.trans hasks')
      exact hnow hnamed'
    · rcases hS.overtaken g k p hold ((overtaken_asked hlatest).mpr hself) with hd | ⟨r', hu⟩
      · exact .inl (hdoomed hd)
      · rcases h.unbound_old hT hG hu with hu | ⟨-, -, -, hnamed⟩
        · exact .inr (.inl ⟨r', hu⟩)
        · exact hnow hnamed

/-- What the newest login has dealt with is going to be closed, or to be named. -/
theorem overtaken_kept (hT : s.1.Lively) (hG : s.Grounded account) (hS : s.Single account)
    (hactive : s'.1.Active g k p account) (hover : s'.Overtaken g k) :
    s'.Doomed account g k ∨ ∃ r, s'.Unbound g k r := by
  rcases h.active_cases hactive with hold | ⟨rfl, pending, response, game, hpoint, rfl, -, ha⟩
  case inr => exact .inr ⟨_, h.unbound_new hpoint ha⟩
  rcases h.overtaken_old hT hG hS hold hover with hd | hd | ⟨r, hu⟩
  · exact .inl hd
  · exact .inl (h.doomed_old hT hG hactive hd)
  · rcases h.unbound_old hT hG hu with hu | ⟨-, hlatest, hasks, -⟩
    · exact .inr ⟨r, hu⟩
    · exact absurd ⟨rfl, h.move.requests hasks⟩ ((overtaken_asked hlatest).mp hover)

/-- The session of the newest login, if it is active before it is named for it. -/
theorem own_kept (hT : s.1.Lively) (hG : s.Grounded account) (hS : s.Single account)
    (hlatest : s'.2.latest = .asked g requestId) (hasks : s'.Asks g k requestId)
    (hactive : s'.1.Active g k p account) :
    s'.Doomed account g k ∨ (∃ r, r ≠ requestId ∧ s'.Unbound g k r) ∨ s'.Recorded g k p := by
  -- which login is the newest after the step
  rcases h.latest_cases with ⟨hsame, -⟩ | ⟨_, -, hlooked⟩ |
    ⟨target, q, gate, platform, accountId, areaId, rfl, hbefore, hasked⟩
  · rw [hsame] at hlatest
    obtain ⟨k', hasks'⟩ := hG.asked g requestId hlatest
    obtain rfl : k' = k := Option.some.inj ((h.move.requests hasks').symm.trans hasks)
    -- the session was active before, or this very step activates it
    rcases h.active_cases hactive with hold | ⟨rfl, pending, response, game, hpoint, rfl, rfl, rfl⟩
    · rcases hS.own g k' p requestId hlatest hasks' hold with hd | ⟨r, hne, hu⟩ | hrecorded
      · exact .inl (h.doomed_old hT hG hactive hd)
      · rcases h.unbound_old hT hG hu with hu | ⟨hlatest', -⟩
        · exact .inr (.inl ⟨r, hne, hu⟩)
        · rw [hlatest] at hlatest'
          cases hlatest'
          exact absurd rfl hne
      · exact .inr (.inr (h.recorded_iff.mpr hrecorded))
    -- it is activated by the newest login's own handler, which has an answer
    · have htaken : s.2.latest = .asked t.gateId (s.2.taken t) := h.ok
      rw [hlatest] at htaken
      injection htaken with _ htaken
      obtain ⟨u, hu⟩ := h.move.step.thread
      have hanswered : s.Answered t.gateId requestId response.playerId :=
        .activating _ u pending response (by rw [← hu, hpoint]) (by rw [← hu, htaken]) rfl
      rcases hS.answered _ _ _ requestId hlatest hasks' hanswered with hgone | hrecorded
      · exact absurd (h.move.gone hT hgone) (not_gone hactive)
      · exact .inr (.inr (h.recorded_iff.mpr hrecorded))
  · rw [hlooked] at hlatest
    cases hlatest
  · rw [hasked] at hlatest
    cases hlatest
    -- the request is new, so nothing could be put through for it
    have hnew : s.1.2.requests (t.gateId, requestId) = none := h.move.paced
    have hold := h.active_old (fun _ _ _ _ heq => by cases heq) hactive
    rcases hS.claimed _ k p hold with hd | ⟨r, hu⟩ | ⟨hrecorded, -⟩
    · exact .inl (h.doomed_old hT hG hactive hd)
    · have hne : r ≠ requestId := by
        rintro rfl
        obtain ⟨life, u, pending, hw, rfl, rfl⟩ := hu
        have hasks' := (hG.logsIn _ life u pending (Work.logsIn_of_binds hw)).2
        unfold Asks at hasks'
        rw [hnew] at hasks'
        cases hasks'
      rcases h.unbound_old hT hG hu with hu | ⟨hlatest', -⟩
      · exact .inr (.inl ⟨r, hne, hu⟩)
      · rw [hbefore] at hlatest'
        cases hlatest'
    · exact .inr (.inr (h.recorded_iff.mpr hrecorded))

theorem answered_kept (hT : s.1.Lively) (hG : s.Grounded account) (hS : s.Single account)
    (hlatest : s'.2.latest = .asked g requestId) (hasks : s'.Asks g k requestId)
    (hanswered : s'.Answered g requestId p) : s'.1.Gone g k ∨ s'.Recorded g k p := by
  have hold := h.answered_old hanswered
  obtain ⟨k', hasks'⟩ := hG.answered g requestId p hold
  obtain rfl : k' = k := Option.some.inj ((h.move.requests hasks').symm.trans hasks)
  rcases h.latest_cases with ⟨hsame, -⟩ | ⟨_, -, hlooked⟩ | ⟨_, _, _, _, _, _, rfl, -, hasked⟩
  · rw [hsame] at hlatest
    rcases hS.answered g k' p requestId hlatest hasks' hold with hgone | hrecorded
    · exact .inl (h.move.gone hT hgone)
    · exact .inr (h.recorded_iff.mpr hrecorded)
  · rw [hlooked] at hlatest
    cases hlatest
  · rw [hasked] at hlatest
    cases hlatest
    have hnew : s.1.2.requests (t.gateId, requestId) = none := h.move.paced
    unfold Asks at hasks'
    rw [hnew] at hasks'
    cases hasks'

theorem single (hT : s.1.Lively) (hG : s.Grounded account) (hS : s.Single account) :
    s'.Single account where
  claimed _ _ _ hactive := h.claimed_kept hT hG hS hactive
  overtaken _ _ _ hactive hover := h.overtaken_kept hT hG hS hactive hover
  own _ _ _ _ hlatest hasks hactive := h.own_kept hT hG hS hlatest hasks hactive
  answered _ _ _ _ hlatest hasks hanswered := h.answered_kept hT hG hS hlatest hasks hanswered

/-- A login that waits for its response is one of the account. -/
theorem waiting_kept (hG : s.Grounded account) {pending : PendingLogin}
    (hpending : (s'.1.1.gates g).login.pendingLogins requestId = some pending) : pending.accountId = account := by
  by_cases hg : g = t.gateId
  case neg =>
    rw [h.move.step.gates g hg] at hpending
    exact hG.waiting g requestId pending hpending
  subst hg
  have hfits := h.move.fits
  rcases GateProcess.exec_logins h.move.step.exec with hs | ⟨q, pending', rfl, hs⟩ | ⟨q, -, hs⟩ <;>
    rw [hs] at hpending
  · exact hG.waiting _ requestId pending hpending
  · by_cases hq : requestId = q
    · rw [hq, Function.update_self, Option.some.injEq] at hpending
      obtain ⟨k, platform, accountId, -, hasks, rfl⟩ := hfits
      rw [← hpending]
      exact h.logs k platform accountId hasks
    · rw [Function.update_of_ne hq] at hpending
      exact hG.waiting _ requestId pending hpending
  · by_cases hq : requestId = q
    · rw [hq, Function.update_self] at hpending
      cases hpending
    · rw [Function.update_of_ne hq] at hpending
      exact hG.waiting _ requestId pending hpending

/-- A handler that logs a session in has taken the response to its request. -/
theorem logsIn_kept (hL : s.1.Linked) (hG : s.Grounded account) {life : Nat} {u : T} {pending : PendingLogin}
    (hw : (s'.1.2.points (.gate g life u)).work.logsIn = some pending) :
    pending.accountId = account ∧ s'.Asks g pending.gateSessionId (s'.2.taken (.gate g life u)) := by
  by_cases hu : .gate g life u = t
  case neg =>
    rw [h.move.other hu] at hw
    obtain ⟨haccount, hasks⟩ := hG.logsIn g life u pending hw
    rw [h.taken_of_ne hu]
    exact ⟨haccount, h.move.requests hasks⟩
  obtain rfl : g = t.gateId := by rw [← hu]; rfl
  rw [hu, h.move.self] at hw
  rw [hu, h.taken_self]
  -- the login was put through before, or its handler has just taken it
  rcases ClusterPoint.logsIn_next h.move.fits hw with ⟨hold, hno⟩ | ⟨response, -, -, heq⟩
  · rw [← hu] at hold
    obtain ⟨haccount, hasks⟩ := hG.logsIn _ life u pending hold
    have htaken : a.takenLogin = none := by
      unfold GateAct.takenLogin
      split
      · exact absurd rfl (hno _)
      · rfl
    rw [hu] at hasks
    rw [htaken]
    exact ⟨haccount, h.move.requests hasks⟩
  · cases heq
    have hpending := (GateProcess.exec_pending h.move.step.exec).2.symm
    exact ⟨hG.waiting _ _ _ hpending, h.move.requests (hL.waiting _ _ _ hpending)⟩

/-- A session becomes active with the account of the login that waited. -/
theorem active_kept (hG : s.Grounded account) {record : GateSessionRecord}
    (hget : (s'.1.1.gates g).sessions.get k = some record) (hstate : record.state = .active) :
    record.accountId = account := by
  by_cases hg : g = t.gateId
  case neg =>
    rw [h.move.step.gates g hg] at hget
    exact hG.active g k record hget hstate
  subst hg
  have hfits := h.move.fits
  -- as in `active_cases`, by what the step does to the gate's sessions
  rcases GateProcess.exec_sessions h.move.step.exec with hs | ⟨k', c, -, -, hs⟩ |
    ⟨k', accountId, q, game, old, rfl, -, hs⟩ | ⟨c, k', old, -, -, -, hs⟩ <;> rw [hs] at hget
  · exact hG.active _ k record hget hstate
  · by_cases hk : k = k'
    · rw [hk, Table.set_get_self] at hget
      cases hget
      cases hstate
    · rw [Table.set_get_of_ne hk] at hget
      exact hG.active _ k record hget hstate
  · by_cases hk : k = k'
    · rw [hk, Table.set_get_self] at hget
      cases hget
      obtain ⟨pending, response, hpoint, -, rfl, -⟩ := hfits
      obtain ⟨u, hu⟩ := h.move.step.thread
      exact (hG.logsIn t.gateId _ u pending (by rw [← hu, hpoint]; rfl)).1
    · rw [Table.set_get_of_ne hk] at hget
      exact hG.active _ k record hget hstate
  · by_cases hk : k = k'
    · rw [hk, Table.erase_get_self] at hget
      cases hget
    · rw [Table.erase_get_of_ne hk] at hget
      exact hG.active _ k record hget hstate

/-- An owner that has been looked up is a session of a gate. -/
theorem looked_kept (hT : s.1.Lively) (hG : s.Grounded account) {life : Nat} {u : T} {owner : GateAccountOwner}
    (hw : (s'.1.2.points (.gate g life u)).work = .looked (some owner)) :
    ∃ g k, owner = (gateConfiguration g).gateSession k := by
  by_cases hu : .gate g life u = t
  case neg =>
    rw [h.move.other hu] at hw
    exact hG.looked g life u owner hw
  rw [hu, h.move.self] at hw
  rcases ClusterPoint.looked_next hw with hold | ⟨accountId, heq⟩
  · rw [← hu] at hold
    exact hG.looked g life u owner hold
  cases heq
  obtain ⟨-, -, k', platform, hasks⟩ := h.move.fits
  obtain rfl := h.logs k' platform accountId hasks
  obtain ⟨d, hd, -⟩ := GateProcess.exec_account h.move.step.exec
  simp only [GateAccountDirectoryService.exec, Option.ite_none_left_eq_some, Option.some.injEq,
    Prod.mk.injEq, GateAccountDirectoryService.lookupAccount, hT.redis, Bool.not_true,
    Bool.false_eq_true, if_false] at hd
  obtain ⟨value, hvalue, hparse⟩ := Cluster.served_lookup hd.2.2
  obtain ⟨g, k, rfl⟩ := hG.written value hvalue
  rw [GateAccountOwner.parseValue_buildValue, Option.some.injEq] at hparse
  exact ⟨g, k, hparse.symm⟩

/-- The game is told of the disconnect of a session that is gone. -/
theorem left_kept (hT : s.1.Lively) (hG : s.Grounded account) {message : GameMessage} {gate : GateSession}
    (hm : message ∈ s'.1.1.gameInbox ∨ ∃ u, (s'.1.2.points (.game u)).work = .serving message)
    (hpayload : message.payload = .playerDisconnected p gate) :
    ∃ g k, gate = (gateConfiguration g).gateSession k ∧ s'.1.Gone g k := by
  have hold : (message ∈ s.1.1.gameInbox ∨ ∃ u, (s.1.2.points (.game u)).work = .serving message) →
      ∃ g k, gate = (gateConfiguration g).gateSession k ∧ s'.1.Gone g k := by
    intro hm
    obtain ⟨g, k, hgate, hgone⟩ := hG.left message p gate hm hpayload
    exact ⟨g, k, hgate, h.move.gone hT hgone⟩
  rcases hm with hm | ⟨u, hw⟩
  · rcases h.move.step.gameInbox message hm with hm | ⟨payload, rfl, -, rfl⟩
    · exact hold (.inl hm)
    · cases hpayload
      obtain ⟨record, hw, -, -, rfl⟩ := h.move.fits
      have hat := h.move.at_point
      rw [hw] at hat
      exact ⟨_, _, rfl, h.move.gone hT (hT.gone _ record (.inl (.inl hat)))⟩
  · rw [h.move.game_points] at hw
    exact hold (.inr ⟨u, hw⟩)

theorem grounded (hT : s.1.Lively) (hL : s.1.Linked) (hG : s.Grounded account) :
    s'.Grounded account where
  known g k hsocket := by
    by_cases hg : g = t.gateId
    · subst hg
      exact GateProcess.known_step (hG.known _) h.move.step.exec hsocket
    · rw [h.move.step.gates g hg] at hsocket ⊢
      exact hG.known g k hsocket
  waiting _ _ _ hpending := h.waiting_kept hG hpending
  logsIn _ _ _ _ hw := h.logsIn_kept hL hG hw
  active _ _ _ hget hstate := h.active_kept hG hget hstate
  written value hvalue := by
    have hfits := h.move.fits
    rw [h.move.step.owners] at hvalue
    -- the value is an old one, or is that of the session bound just now
    rcases Cluster.served_owners hvalue with hold | ⟨owner, rfl, rfl⟩
    · exact hG.written value hold
    · obtain ⟨pending, -, -, rfl⟩ := hfits
      exact ⟨t.gateId, pending.gateSessionId, rfl⟩
  looked _ _ _ _ hw := h.looked_kept hT hG hw
  left _ _ _ hm hpayload := h.left_kept hT hG hm hpayload
  answering u message requestId gate platform accountId areaId hm hpayload := by
    rw [h.move.step.answering] at hm
    rw [h.move.game_points]
    exact hG.answering u message requestId gate platform accountId areaId hm hpayload
  asked g requestId hlatest := by
    -- a request is only ever asked for by the login that looks
    rcases h.latest_cases with ⟨hsame, -⟩ | ⟨_, -, hlooked⟩ | ⟨_, q, gate, _, _, _, rfl, -, hasked⟩
    · rw [hsame] at hlatest
      obtain ⟨k, hasks⟩ := hG.asked g requestId hlatest
      exact ⟨k, h.move.requests hasks⟩
    · rw [hlooked] at hlatest
      cases hlatest
    · rw [hasked] at hlatest
      cases hlatest
      exact ⟨gate.sessionId, h.move.requested rfl⟩
  answered g requestId p hanswered := by
    obtain ⟨k, hasks⟩ := hG.answered g requestId p (h.answered_old hanswered)
    exact ⟨k, h.move.requests hasks⟩

end GateTurn

/-! ## The other sections -/

theorem fetching_of_logsIn {w : Work} {pending : PendingLogin} (h : w.logsIn = some pending) :
    Passage.fetching w = false := by
  cases w <;> first | rfl | cases h

/-- What is known of the sections of the game and of the readers: no session becomes active. -/
structure Beside (account : String) (s s' : Takeover T) : Prop where
  elsewhere : Passage.Elsewhere s.1 s'.1
  history : s'.2 = s.2
  doomed : ∀ g k, s.Doomed account g k → s'.Doomed account g k
  overtaken : ∀ g k, s'.Overtaken g k → s.Overtaken g k
  recorded : ∀ g k p, s.Recorded g k p → s'.Recorded g k p ∨ s.1.Gone g k ∨ s.Overtaken g k
  answered : ∀ g requestId p, s'.Answered g requestId p → (∃ k, s.Asks g k requestId) ∧
    (s.Answered g requestId p ∨ ∀ k, s.Asks g k requestId → s'.Recorded g k p)
  left : ∀ message, (message ∈ s'.1.1.gameInbox ∨
      ∃ u, (s'.1.2.points (.game u)).work = .serving message) →
    message ∈ s.1.1.gameInbox ∨ ∃ u, (s.1.2.points (.game u)).work = .serving message
  answering : ∀ u message requestId gate platform accountId areaId,
    s'.1.1.answering (.game u) = some message →
      message.payload = .loginPlayerRequest requestId gate platform accountId areaId →
        (s'.1.2.points (.game u)).work = .serving message ∨
          ∃ p, (s'.1.2.points (.game u)).work = .accepted message p

namespace Beside

omit [DecidableEq T]
variable (h : Beside account s s')
include h

theorem active_iff : s'.1.Active g k p account ↔ s.1.Active g k p account := by
  unfold Passage.Active
  rw [h.elsewhere.gates]

theorem gone_iff : s'.1.Gone g k ↔ s.1.Gone g k := by
  unfold Passage.Gone
  rw [h.elsewhere.gates]

theorem asks_iff : s'.Asks g k requestId ↔ s.Asks g k requestId := by
  unfold Asks
  rw [h.elsewhere.requests]

theorem named_iff : s'.Named account g k ↔ s.Named account g k := by
  unfold Named
  rw [h.elsewhere.owners]

theorem logsIn_iff {life : Nat} {u : T} {w : Work} {pending : PendingLogin}
    (hw : w.logsIn = some pending) : (s'.1.2.points (.gate g life u)).work = w ↔
      (s.1.2.points (.gate g life u)).work = w :=
  h.elsewhere.points g life u w (fetching_of_logsIn hw)

theorem unbound (hunbound : s.Unbound g k requestId) : s'.Unbound g k requestId := by
  obtain ⟨life, u, pending, hw, hk, hr⟩ := hunbound
  refine ⟨life, u, pending, ?_, hk, by rw [h.history, hr]⟩
  rw [(h.logsIn_iff (Work.logsIn_of_binds hw)).mpr rfl, hw]

theorem single (hS : s.Single account) : s'.Single account where
  claimed g k p hactive := by
    have hold := h.active_iff.mp hactive
    -- what is over already stays over
    have hpast : s.Doomed account g k ∨ (∃ r, s.Unbound g k r) → s'.Doomed account g k ∨
        (∃ r, s'.Unbound g k r) ∨ s'.Recorded g k p ∧ s'.Named account g k := by
      rintro (hd | ⟨r, hu⟩)
      · exact .inl (h.doomed g k hd)
      · exact .inr (.inl ⟨r, h.unbound hu⟩)
    rcases hS.claimed g k p hold with hd | hu | ⟨hrecorded, hnamed⟩
    · exact hpast (.inl hd)
    · exact hpast (.inr hu)
    -- the game still has the session, or has let go of it, or the newest login has dealt with it
    · rcases h.recorded g k p hrecorded with hrecorded | hgone | hover
      · exact .inr (.inr ⟨hrecorded, h.named_iff.mpr hnamed⟩)
      · exact absurd hgone (not_gone hold)
      · exact hpast (hS.overtaken g k p hold hover)
  overtaken g k p hactive hover := by
    rcases hS.overtaken g k p (h.active_iff.mp hactive) (h.overtaken g k hover) with hd | ⟨r, hu⟩
    · exact .inl (h.doomed g k hd)
    · exact .inr ⟨r, h.unbound hu⟩
  own g k p requestId hlatest hasks hactive := by
    have hold := h.active_iff.mp hactive
    rw [h.history] at hlatest
    have hasks := h.asks_iff.mp hasks
    rcases hS.own g k p requestId hlatest hasks hold with hd | ⟨r, hne, hu⟩ | hrecorded
    · exact .inl (h.doomed g k hd)
    · exact .inr (.inl ⟨r, hne, h.unbound hu⟩)
    · rcases h.recorded g k p hrecorded with hrecorded | hgone | hover
      · exact .inr (.inr hrecorded)
      · exact absurd hgone (not_gone hold)
      · exact absurd ⟨rfl, hasks⟩ ((overtaken_asked hlatest).mp hover)
  answered g k p requestId hlatest hasks hanswered := by
    rw [h.history] at hlatest
    have hasks := h.asks_iff.mp hasks
    rw [h.gone_iff]
    -- the answer was on its way before, or this step gives it
    obtain ⟨-, hold | hnew⟩ := h.answered g requestId p hanswered
    · rcases hS.answered g k p requestId hlatest hasks hold with hgone | hrecorded
      · exact .inl hgone
      · rcases h.recorded g k p hrecorded with hrecorded | hgone | hover
        · exact .inr hrecorded
        · exact .inl hgone
        · exact absurd ⟨rfl, hasks⟩ ((overtaken_asked hlatest).mp hover)
    · exact .inr (hnew k hasks)

theorem grounded (hG : s.Grounded account) : s'.Grounded account where
  known := by
    rw [h.elsewhere.gates]
    exact hG.known
  waiting := by
    rw [h.elsewhere.gates]
    exact hG.waiting
  logsIn g life u pending hw := by
    have hold := (h.logsIn_iff hw).mp rfl
    rw [h.history, h.asks_iff]
    exact hG.logsIn g life u pending (by rw [hold]; exact hw)
  active := by
    rw [h.elsewhere.gates]
    exact hG.active
  written := by
    rw [h.elsewhere.owners]
    exact hG.written
  looked g life u owner hw := hG.looked g life u owner ((h.elsewhere.points g life u _ rfl).mp hw)
  left message p gate hm hpayload := by
    obtain ⟨g, k, hgate, hgone⟩ := hG.left message p gate (h.left message hm) hpayload
    exact ⟨g, k, hgate, h.gone_iff.mpr hgone⟩
  answering := h.answering
  asked g requestId hlatest := by
    rw [h.history] at hlatest
    obtain ⟨k, hasks⟩ := hG.asked g requestId hlatest
    exact ⟨k, h.asks_iff.mpr hasks⟩
  answered g requestId p hanswered := by
    obtain ⟨⟨k, hasks⟩, -⟩ := h.answered g requestId p hanswered
    exact ⟨k, h.asks_iff.mpr hasks⟩

end Beside

end Takeover

end SomeServer
