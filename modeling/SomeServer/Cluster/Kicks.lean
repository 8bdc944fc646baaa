/-
# SomeServer.Cluster.Kicks — the sessions that the account directory names

The directory names a session by a number, and an entry outlives the session, the connection and the gate
process that it was written by. As long as no number is used again that an entry names (`Admits`), the
session of that number belongs to the account of the entry whenever there is one: this is the invariant
(`Consistent`), and each section of the cluster keeps it (`Sound`).

The history (`KickLog`) has the platforms of the logins, which no table of a gate has.
-/
import SomeServer.Cluster.World
import SomeServer.Gate.Life

namespace SomeServer

open Lib

/-! ## The history -/

/-- The account for whose sake an operation closes connections: that of the login, or of the kick. -/
def GateOp.kicks : GateOp → Option String
  | .clientLogin _ _ accountId _ => some accountId
  | .kickAccountSession accountId _ _ => some accountId
  | _ => none

/-- The account that a message asks to kick. -/
def GateMessage.kicks (message : GateMessage) : Option String := message.op.kicks

/-- What a thread of a gate has come across: the platform of the login that it is at work on, the session
of its own gate that it has read in the directory for an account and not yet looked up, and the account
of the kick message that it has taken last. -/
structure KickNote where
  login : String := ""
  found : Option (GateSessionId × String) := none
  kicking : Option String := none

/-- `waiting` has the platform of a pending login, `platform` that of the login that has made a session
active last. -/
structure KickLog (T : Type) where
  notes : ClusterThread T → KickNote := fun _ => {}
  waiting : UInt32 × RequestId → String := fun _ => ""
  platform : UInt32 × GateSessionId → String := fun _ => ""

abbrev KickCluster (T : Type) := Cluster T × KickLog T

namespace KickLog

variable {T : Type} [DecidableEq T] {t u : ClusterThread T} {log : KickLog T}

def note (t : ClusterThread T) (x : KickNote) (log : KickLog T) : KickLog T :=
  { log with notes := Function.update log.notes t x }

/-- What a section of thread `t` adds to the history. -/
def record (t : ClusterThread T) (log : KickLog T) : (a : ClusterAct) → a.Reply → KickLog T
  | .gate (.sendProcessPayload _ (.loginPlayerRequest _ _ platform _ _)), _ =>
      log.note t { log.notes t with login := platform }
  | .gate (.pending (.registerLogin requestId _)), _ =>
      { log with waiting := Function.update log.waiting (t.gateId, requestId) (log.notes t).login }
  | .gate (.pending (.takeLogin requestId)), _ =>
      log.note t { log.notes t with login := log.waiting (t.gateId, requestId) }
  | .gate (.session (.activate k _ _ _)), _ =>
      { log with platform := Function.update log.platform (t.gateId, k) (log.notes t).login }
  | .gate (.account (.lookupAccount accountId)), owner =>
      let own := (owner : Option GateAccountOwner).filter (·.instanceId = t.gateId)
      log.note t { log.notes t with found := own.map fun x => (x.sessionId, accountId) }
  | .gate (.session (.snapshot _)), _ => log.note t { log.notes t with found := none }
  | .gateReceive, message => log.note t { log.notes t with kicking := GateMessage.kicks message }
  | _, _ => log

/-- A section leaves the notes of other threads alone. -/
theorem record_notes (hu : u ≠ t) (a : ClusterAct) (r : a.Reply) :
    (log.record t a r).notes u = log.notes u := by
  unfold record
  split <;> first | rfl | exact Function.update_of_ne hu ..

/-- A gate's section leaves the kick message that its thread is at work on. -/
theorem record_kicking (a : GateAct) (r : a.Reply) :
    ((log.record t (.gate a) r).notes t).kicking = (log.notes t).kicking := by
  cases a with
  | pending b => cases b <;> simp [record, note]
  | session b => cases b <;> simp [record, note]
  | account b => cases b <;> simp [record, note]
  | sendProcessPayload target payload => cases payload <;> simp [record, note]
  | connection b | routing b => rfl

theorem record_waiting (a : GateAct) (r : a.Reply) :
    (log.record t (.gate a) r).waiting = log.waiting ∧
        (∀ requestId pending, a ≠ .pending (.registerLogin requestId pending)) ∨
      ∃ requestId pending, a = .pending (.registerLogin requestId pending) ∧
        (log.record t (.gate a) r).waiting =
          Function.update log.waiting (t.gateId, requestId) (log.notes t).login := by
  cases a with
  | pending b =>
      cases b with
      | registerLogin requestId pending => exact .inr ⟨requestId, pending, rfl, rfl⟩
      | _ => exact .inl ⟨rfl, fun _ _ ha => by cases ha⟩
  | session b => cases b <;> exact .inl ⟨rfl, fun _ _ ha => by cases ha⟩
  | account b => cases b <;> exact .inl ⟨rfl, fun _ _ ha => by cases ha⟩
  | sendProcessPayload target payload => cases payload <;> exact .inl ⟨rfl, fun _ _ ha => by cases ha⟩
  | connection b | routing b => exact .inl ⟨rfl, fun _ _ ha => by cases ha⟩

theorem record_platform (a : GateAct) (r : a.Reply) :
    (log.record t (.gate a) r).platform = log.platform ∨
      ∃ k accountId p game, a = .session (.activate k accountId p game) ∧
        (log.record t (.gate a) r).platform =
          Function.update log.platform (t.gateId, k) (log.notes t).login := by
  cases a with
  | pending b => cases b <;> exact .inl rfl
  | session b =>
      cases b with
      | activate k accountId p game => exact .inr ⟨k, accountId, p, game, rfl, rfl⟩
      | _ => exact .inl rfl
  | account b => cases b <;> exact .inl rfl
  | sendProcessPayload target payload => cases payload <;> exact .inl rfl
  | connection b | routing b => exact .inl rfl

end KickLog

namespace KickCluster

variable {T : Type}

/-- The account for which a thread kicks: that of the login it runs, or of the kick message it handles. -/
def kicksFor (note : KickNote) : ClusterOp → Option String
  | .gate op => op.kicks
  | .gateDeliver => note.kicking
  | _ => none

/-- The directory names session `k` of gate `g`. -/
def NamedBy (s : KickCluster T) (g : UInt32) (k : GateSessionId) (accountId : String) : Prop :=
  ∃ value owner, s.1.owners accountId = some value ∧ GateAccountOwner.parseValue value = some owner ∧
    owner.instanceId = g ∧ owner.sessionId = k

/-- A thread of gate `g` is about to look up session `k`, which the directory has named. -/
def Found (s : KickCluster T) (g : UInt32) (k : GateSessionId) (accountId : String) : Prop :=
  ∃ u, (s.2.notes (.gate g (s.1.lives g) u)).found = some (k, accountId)

/-- The condition on the sections of a run:
* a session is opened only under a number that neither an entry of the directory names nor a login has
  just read there;
* the account of an active session does not change;
* a connection number that comes around again was never used for a client, and a stream ends for a
  connection only. -/
def Admits (t : ClusterThread T) (a : ClusterAct) (s : KickCluster T) : Prop :=
  match a with
  | .gate (.session (.openAnonymous k _)) =>
      ∀ accountId, ¬ s.NamedBy t.gateId k accountId ∧ ¬ s.Found t.gateId k accountId
  | .gate (.session (.activate k accountId _ _)) =>
      ∀ old, (s.1.gates t.gateId).sessions.activeAccount k = some old → old = accountId
  | .gate (.connection .acceptReadySocket) =>
      let connection := (s.1.gates t.gateId).connection
      connection.connections connection.nextConnectionId = none ∨
        connection.connections connection.nextConnectionId = some .accepted
  | .gate (.connection (.finalize c)) => (s.1.gates t.gateId).connection.connections c ≠ none
  | _ => True

/-- What a handler knows of its gate, and of the login it is at work on, when it comes to a section. -/
def Fits (platformOf : String → String) (g : UInt32) (o : ClusterOp) (note : KickNote) (a : GateAct)
    (gate : GateProcess (ClusterThread T)) : Prop :=
  match a with
  | .session (.openAnonymous k c) => k = c
  | .session (.activate k accountId _ _) => note.login = platformOf accountId ∧ gate.Opened k
  | .session (.removeByConnection c) => gate.Shut c
  | .account (.bindAccount accountId owner) =>
      ∃ k, owner = (gateConfiguration g).gateSession k ∧ gate.Owned k accountId
  | .pending (.registerLogin _ pending) =>
      note.login = platformOf pending.accountId ∧ gate.Opened pending.gateSessionId
  | .sendProcessPayload _ (.kickAccountSession _ accountId _ _ _) => accountId ≠ ""
  | .connection (.closeEnter c) =>
      ∀ accountId, kicksFor note o = some accountId → gate.Owned c accountId
  | _ => True

/-- The invariant; `platformOf` is the platform of an account. -/
structure Consistent (platformOf : String → String) (s : KickCluster T) : Prop where
  keyed : ∀ g, (s.1.gates g).sessions.Keyed
  anonymous : ∀ g, (s.1.gates g).Anonymous
  named : ∀ g k accountId, s.NamedBy g k accountId → (s.1.gates g).Named k accountId
  found : ∀ g k accountId, s.Found g k accountId → (s.1.gates g).Named k accountId
  platform : ∀ g k accountId, (s.1.gates g).sessions.activeAccount k = some accountId →
    s.2.platform (g, k) = platformOf accountId
  waiting : ∀ g r pending, (s.1.gates g).login.pendingLogins r = some pending →
    s.2.waiting (g, r) = platformOf pending.accountId ∧ (s.1.gates g).Opened pending.gateSessionId
  kicks : ∀ g message accountId, message ∈ s.1.gateInbox g → message.kicks = some accountId →
    accountId ≠ ""

/-- What no section takes back: the gates go through their lives, and each keeps what the life of a number
keeps. -/
structure Spares (s s' : KickCluster T) : Prop where
  lives : ∀ g, s.1.lives g ≤ s'.1.lives g
  keeps : ∀ g, s'.1.lives g = s.1.lives g → (s.1.gates g).Keeps (s'.1.gates g)

theorem Spares.refl (s : KickCluster T) : s.Spares s := ⟨fun _ => le_rfl, fun _ _ => .refl _⟩

theorem Spares.trans {s₁ s₂ s₃ : KickCluster T} (h : s₁.Spares s₂) (h' : s₂.Spares s₃) :
    s₁.Spares s₃ where
  lives g := (h.lives g).trans (h'.lives g)
  keeps g hg := by
    have h₁ := h.lives g
    have h₂ := h'.lives g
    exact (h.keeps g (by omega)).trans (h'.keeps g (by omega))

variable [DecidableEq T]

/-- The cluster, with its history. -/
def machine (cfg : GameConfiguration) :
    Machine (ClusterThread T) ClusterAct ClusterAct.Reply ClusterInput (KickCluster T) :=
  (Cluster.machine cfg).withHistory fun t a _ _ _ r log => log.record t a r

variable {cfg : GameConfiguration} {platformOf : String → String} {t : ClusterThread T}
  {a : ClusterAct} {i : ClusterInput} {s s' : KickCluster T} {r : a.Reply} {o : ClusterOp}
  {g : UInt32} {k : GateSessionId} {accountId : String}

theorem machine_exec (h : (machine cfg).exec t a i s = some (s', r)) :
    s.1.exec cfg t i a = some (s'.1, r) ∧ s'.2 = s.2.record t a r :=
  Machine.withHistory_exec h

/-! ## One section of a gate -/

/-- What section `a` of a gate makes of the cluster: the gate goes on, its command is served, and what it
sends is on its way. -/
structure GateStep (t : ClusterThread T) (a : GateAct) (s s' : KickCluster T) (r : a.Reply) : Prop where
  thread : ∃ u, t = .gate t.gateId (s.1.lives t.gateId) u
  exec : ∃ (env : GateEnv) (fault : Fault), (s.1.gates t.gateId).exec t
    { env with redis := (s.1.served t.gateId fault a).2 } a = some (s'.1.gates t.gateId, r) ∧
      s'.1.owners = (s.1.served t.gateId fault a).1
  gates : ∀ g, g ≠ t.gateId → s'.1.gates g = s.1.gates g
  lives : s'.1.lives = s.1.lives
  log : s'.2 = s.2.record t (.gate a) r
  inbox : ∀ g message, message ∈ s'.1.gateInbox g → message ∈ s.1.gateInbox g ∨
    ∃ target requestId accountId oldGate newGate reason,
      a = .sendProcessPayload target (.kickAccountSession requestId accountId oldGate newGate reason) ∧
        message.kicks = some accountId

theorem gateStep {a : GateAct} {r : a.Reply} (hx : (machine cfg).exec t (.gate a) i s = some (s', r)) :
    GateStep t a s s' r := by
  obtain ⟨hexec, hlog⟩ := machine_exec hx
  obtain ⟨g, life, u, gate, rfl, rfl, hgate, hs⟩ := Cluster.exec_gate hexec
  obtain ⟨hgates, hlives, howners, -, -⟩ := Cluster.gatePosts_frame (s := { s.1 with
    gates := Function.update s.1.gates g gate
    owners := (s.1.served g i.fault a).1 }) (g := g) (x := i.gate.sent) a
  rw [← hs] at hgates hlives howners
  have hgates : s'.1.gates = Function.update s.1.gates g gate := hgates
  refine ⟨⟨u, rfl⟩, ⟨i.gate, i.fault, ?_, howners⟩, fun j hj => ?_, hlives, hlog, fun j message hm => ?_⟩
  · show (s.1.gates g).exec _ _ a = some (s'.1.gates g, r)
    rw [hgates, Function.update_self]
    exact hgate
  · rw [hgates]
    exact Function.update_of_ne hj ..
  · rw [hs] at hm
    rcases Cluster.gatePosts_inbox hm with hold | ⟨target, q, accountId, old, new, reason, ha, -, -, rfl⟩
    · exact .inl hold
    · exact .inr ⟨target, q, accountId, old, new, reason, ha, rfl⟩

omit [DecidableEq T] in
theorem orderly {a : GateAct} (hfits : Fits platformOf t.gateId o (s.2.notes t) a (s.1.gates t.gateId))
    (hok : Admits t (.gate a) s) : GateProcess.Orderly a (s.1.gates t.gateId) := by
  unfold GateProcess.Orderly
  split
  · exact hok
  · exact hok
  · exact hfits
  · exact hok
  · exact hfits
  · exact trivial

section Gate

variable {a : GateAct} {r : a.Reply}

/-- Every section of a gate keeps what the life of a number keeps. -/
theorem GateStep.keeps (h : GateStep t a s s' r) (hI : s.Consistent platformOf)
    (hfits : Fits platformOf t.gateId o (s.2.notes t) a (s.1.gates t.gateId))
    (hok : Admits t (.gate a) s) : (s.1.gates t.gateId).Keeps (s'.1.gates t.gateId) := by
  obtain ⟨env, fault, hx, -⟩ := h.exec
  exact GateProcess.keeps_step (hI.keyed _) (orderly hfits hok) hx

theorem GateStep.spares (h : GateStep t a s s' r) (hI : s.Consistent platformOf)
    (hfits : Fits platformOf t.gateId o (s.2.notes t) a (s.1.gates t.gateId))
    (hok : Admits t (.gate a) s) : s.Spares s' := by
  refine ⟨fun g => (congrFun h.lives g).ge, fun g _ => ?_⟩
  by_cases hg : g = t.gateId
  · subst hg
    exact h.keeps hI hfits hok
  · rw [h.gates g hg]
    exact .refl _

/-- A session that a number stands for belongs to the same account afterwards. -/
theorem GateStep.named (h : GateStep t a s s' r) (hI : s.Consistent platformOf)
    (hfits : Fits platformOf t.gateId o (s.2.notes t) a (s.1.gates t.gateId))
    (hok : Admits t (.gate a) s) (hk : s.NamedBy g k accountId ∨ s.Found g k accountId) :
    (s'.1.gates g).Named k accountId := by
  have hnamed : (s.1.gates g).Named k accountId := by
    rcases hk with hentry | hfound
    · exact hI.named g k accountId hentry
    · exact hI.found g k accountId hfound
  by_cases hg : g = t.gateId
  · subst hg
    obtain ⟨env, fault, hx, -⟩ := h.exec
    refine hnamed.step (hI.keyed _) (orderly hfits hok) (fun c ha => ?_) hx
    subst ha
    exact hk.elim (hok accountId).1 (hok accountId).2
  · rwa [h.gates g hg]

/-- The directory names a session that it has named before, or the session that the section has bound. -/
theorem GateStep.namedBy (h : GateStep t a s s' r)
    (hfits : Fits platformOf t.gateId o (s.2.notes t) a (s.1.gates t.gateId))
    (hk : s'.NamedBy g k accountId) :
    s.NamedBy g k accountId ∨ g = t.gateId ∧ (s.1.gates g).Owned k accountId := by
  obtain ⟨value, owner, hvalue, hparse, rfl, rfl⟩ := hk
  obtain ⟨env, fault, -, howners⟩ := h.exec
  rw [howners] at hvalue
  rcases Cluster.served_owners hvalue with hold | ⟨bound, rfl, rfl⟩
  · exact .inl ⟨value, owner, hold, hparse, rfl, rfl⟩
  · rw [GateAccountOwner.parseValue_buildValue] at hparse
    obtain rfl := Option.some.inj hparse
    obtain ⟨k, rfl, howned⟩ := hfits
    exact .inr ⟨rfl, howned⟩

/-- A thread is about to look up what it was about to look up before, or what the directory names. -/
theorem GateStep.found (h : GateStep t a s s' r) (hk : s'.Found g k accountId) :
    s.NamedBy g k accountId ∨ s.Found g k accountId := by
  obtain ⟨u, hu⟩ := hk
  rw [h.lives, h.log] at hu
  by_cases hut : ClusterThread.gate g (s.1.lives g) u = t
  · subst hut
    have hold : ∀ x, (x : KickNote).found = (s.2.notes (.gate g (s.1.lives g) u)).found →
        x.found = some (k, accountId) → s.NamedBy g k accountId ∨ s.Found g k accountId :=
      fun x hx hfound => .inr ⟨u, hx ▸ hfound⟩
    cases a with
    | account b =>
        cases b with
        -- the lookup has just been answered, from what the directory holds
        | lookupAccount looked =>
            simp only [KickLog.record, KickLog.note, Function.update_self, Option.map_eq_some_iff,
              Prod.mk.injEq, Option.filter_eq_some_iff, decide_eq_true_eq] at hu
            obtain ⟨owner, ⟨hr, hg⟩, rfl, rfl⟩ := hu
            obtain ⟨env, fault, hx, -⟩ := h.exec
            obtain ⟨d, hd, -⟩ := GateProcess.exec_account hx
            simp only [GateAccountDirectoryService.exec, Option.ite_none_left_eq_some,
              Option.some.injEq, Prod.mk.injEq] at hd
            obtain ⟨-, -, hreply⟩ := hd
            rw [hr] at hreply
            simp only [GateAccountDirectoryService.lookupAccount, Option.ite_none_left_eq_some] at hreply
            obtain ⟨value, hvalue, hparse⟩ := Cluster.served_lookup hreply.2
            exact .inl ⟨value, owner, hvalue, hparse, hg, rfl⟩
        | _ => exact hold _ rfl hu
    -- the other sections leave the note, or clear it
    | pending b =>
        cases b with
        | takeLogin requestId => exact hold _ (by simp [KickLog.record, KickLog.note]) hu
        | _ => exact hold _ rfl hu
    | session b =>
        cases b with
        | snapshot looked => simp [KickLog.record, KickLog.note] at hu
        | _ => exact hold _ rfl hu
    | sendProcessPayload target payload =>
        cases payload with
        | loginPlayerRequest _ _ _ _ _ => exact hold _ (by simp [KickLog.record, KickLog.note]) hu
        | _ => exact hold _ rfl hu
    | connection b | routing b => exact hold _ rfl hu
  · rw [KickLog.record_notes hut] at hu
    exact .inr ⟨u, hu⟩

/-- The platform of an active session is that of its account. -/
theorem GateStep.platform (h : GateStep t a s s' r) (hI : s.Consistent platformOf)
    (hfits : Fits platformOf t.gateId o (s.2.notes t) a (s.1.gates t.gateId))
    (hok : Admits t (.gate a) s)
    (hk : (s'.1.gates g).sessions.activeAccount k = some accountId) :
    s'.2.platform (g, k) = platformOf accountId := by
  rw [h.log]
  by_cases hg : g = t.gateId
  case neg =>
    rw [h.gates g hg] at hk
    rcases s.2.record_platform (t := t) a r with hsame | ⟨k', _, _, _, -, hnew⟩
    · rw [hsame]
      exact hI.platform g k accountId hk
    · rw [hnew, Function.update_of_ne fun heq => hg (congrArg Prod.fst heq)]
      exact hI.platform g k accountId hk
  subst hg
  obtain ⟨env, fault, hx, -⟩ := h.exec
  rcases GateProcess.activeAccount_cases hx hk with hold | ⟨p, game, rfl⟩
  · rcases s.2.record_platform (t := t) a r with hsame | ⟨k', account, p, game, rfl, hnew⟩
    · rw [hsame]
      exact hI.platform _ k accountId hold
    · rw [hnew]
      by_cases hkk : k = k'
      · subst hkk
        rw [Function.update_self, hfits.1, hok accountId hold]
      · rw [Function.update_of_ne fun heq => hkk (congrArg Prod.snd heq)]
        exact hI.platform _ k accountId hold
  · show Function.update s.2.platform (t.gateId, k) _ (t.gateId, k) = _
    rw [Function.update_self, hfits.1]

/-- A pending login belongs to a session that has been opened. -/
theorem GateStep.waiting (h : GateStep t a s s' r) (hI : s.Consistent platformOf)
    (hfits : Fits platformOf t.gateId o (s.2.notes t) a (s.1.gates t.gateId))
    (hok : Admits t (.gate a) s) {requestId : RequestId} {pending : PendingLogin}
    (hp : (s'.1.gates g).login.pendingLogins requestId = some pending) :
    s'.2.waiting (g, requestId) = platformOf pending.accountId ∧
      (s'.1.gates g).Opened pending.gateSessionId := by
  rw [h.log]
  by_cases hg : g = t.gateId
  case neg =>
    rw [h.gates g hg] at hp ⊢
    rcases s.2.record_waiting (t := t) a r with ⟨hsame, -⟩ | ⟨q, _, -, hnew⟩
    · rw [hsame]
      exact hI.waiting g requestId pending hp
    · rw [hnew, Function.update_of_ne fun heq => hg (congrArg Prod.fst heq)]
      exact hI.waiting g requestId pending hp
  subst hg
  obtain ⟨env, fault, hx, -⟩ := h.exec
  have hkeeps := h.keeps hI hfits hok
  -- a login waited before, unless this section registers it
  rcases s.2.record_waiting (t := t) a r with ⟨hsame, hne⟩ | ⟨q, registered, rfl, hnew⟩
  · rw [hsame]
    have hold : (s.1.gates t.gateId).login.pendingLogins requestId = some pending := by
      rcases GateProcess.exec_logins hx with hl | ⟨q, registered, ha, -⟩ | ⟨q, -, hl⟩
      · rwa [hl] at hp
      · exact absurd ha (hne q registered)
      · rw [hl] at hp
        by_cases hq : requestId = q
        · simp [hq] at hp
        · rwa [Function.update_of_ne hq] at hp
    exact (hI.waiting _ requestId pending hold).imp_right (hkeeps.opened _)
  · obtain ⟨hs, -⟩ := GateProcess.exec_pending hx
    rw [hs] at hp
    rw [hnew]
    -- the login that is registered fits its session
    by_cases hq : requestId = q
    · subst hq
      obtain rfl : registered = pending := by simpa [GateProcess.execPending] using hp
      rw [Function.update_self]
      exact ⟨hfits.1, hkeeps.opened _ hfits.2⟩
    · rw [Function.update_of_ne fun heq => hq (congrArg Prod.snd heq)]
      simp only [GateProcess.execPending, Function.update_of_ne hq] at hp
      exact (hI.waiting _ requestId pending hp).imp_right (hkeeps.opened _)

/-- Every section of a gate keeps the invariant. -/
theorem GateStep.consistent (h : GateStep t a s s' r) (hI : s.Consistent platformOf)
    (hfits : Fits platformOf t.gateId o (s.2.notes t) a (s.1.gates t.gateId))
    (hok : Admits t (.gate a) s) : s'.Consistent platformOf := by
  obtain ⟨env, fault, hx, -⟩ := h.exec
  refine ⟨fun g => ?_, fun g => ?_, fun g k accountId hk => ?_, fun g k accountId hk => ?_,
    fun g k accountId hk => h.platform hI hfits hok hk,
    fun g q pending hp => h.waiting hI hfits hok hp, fun g message accountId hm hkicks => ?_⟩
  · by_cases hg : g = t.gateId
    · subst hg
      refine GateProcess.keyed_step (hI.keyed _) (fun k c ha => ?_) hx
      subst ha
      exact hfits
    · rw [h.gates g hg]
      exact hI.keyed g
  · by_cases hg : g = t.gateId
    · subst hg
      exact (hI.anonymous _).step hx
    · rw [h.gates g hg]
      exact hI.anonymous g
  · rcases h.namedBy hfits hk with hold | ⟨rfl, howned⟩
    · exact h.named hI hfits hok (.inl hold)
    · exact ((h.keeps hI hfits hok).owned k accountId howned).named
  · exact h.named hI hfits hok (h.found hk)
  · rcases h.inbox g message hm with hold | ⟨target, q, account, old, new, reason, rfl, hnew⟩
    · exact hI.kicks g message accountId hold hkicks
    · rw [hkicks] at hnew
      obtain rfl := Option.some.inj hnew
      exact hfits

end Gate

/-! ## The other sections -/

omit [DecidableEq T] in
/-- A section that leaves the gates and the directory alone. -/
theorem Consistent.other (hI : s.Consistent platformOf) (hgates : s'.1.gates = s.1.gates)
    (hlives : s'.1.lives = s.1.lives) (howners : s'.1.owners = s.1.owners)
    (hfound : ∀ u, (s'.2.notes u).found = (s.2.notes u).found)
    (hplatform : s'.2.platform = s.2.platform) (hwaiting : s'.2.waiting = s.2.waiting)
    (hinbox : ∀ g message accountId, message ∈ s'.1.gateInbox g → message.kicks = some accountId →
      message ∈ s.1.gateInbox g) : s'.Consistent platformOf := by
  refine ⟨fun g => ?_, fun g => ?_, fun g k accountId hk => ?_, fun g k accountId hk => ?_,
    fun g k accountId hk => ?_, fun g q pending hp => ?_, fun g message accountId hm hkicks => ?_⟩
  · rw [hgates]
    exact hI.keyed g
  · rw [hgates]
    exact hI.anonymous g
  · rw [hgates]
    refine hI.named g k accountId ?_
    unfold NamedBy at hk ⊢
    rwa [howners] at hk
  · rw [hgates]
    obtain ⟨u, hu⟩ := hk
    rw [hfound, hlives] at hu
    exact hI.found g k accountId ⟨u, hu⟩
  · rw [hgates] at hk
    rw [hplatform]
    exact hI.platform g k accountId hk
  · rw [hgates] at hp ⊢
    rw [hwaiting]
    exact hI.waiting g q pending hp
  · exact hI.kicks g message accountId (hinbox g message accountId hm hkicks) hkicks

/-- What has to be shown of every section. -/
def Sound (platformOf : String → String) (t : ClusterThread T) (s s' : KickCluster T) : Prop :=
  s'.Consistent platformOf ∧ s.Spares s' ∧ ∀ u, u ≠ t → s'.2.notes u = s.2.notes u

theorem GateStep.sound {a : GateAct} {r : a.Reply} (h : GateStep t a s s' r)
    (hI : s.Consistent platformOf)
    (hfits : Fits platformOf t.gateId o (s.2.notes t) a (s.1.gates t.gateId))
    (hok : Admits t (.gate a) s) : Sound platformOf t s s' := by
  refine ⟨h.consistent hI hfits hok, h.spares hI hfits hok, fun u hu => ?_⟩
  rw [h.log]
  exact KickLog.record_notes hu (.gate a) r

omit [DecidableEq T] in
theorem spares_of_gates (hgates : s'.1.gates = s.1.gates) (hlives : s'.1.lives = s.1.lives) :
    s.Spares s' := by
  refine ⟨fun g => by rw [hlives], fun g _ => ?_⟩
  rw [hgates]
  exact .refl _

theorem sound_game {a : Act} {r : a.Reply} (hI : s.Consistent platformOf)
    (hx : (machine cfg).exec t (.game a) i s = some (s', r)) : Sound platformOf t s s' := by
  obtain ⟨hexec, hlog⟩ := machine_exec hx
  obtain ⟨u, game, rfl, -, hs⟩ := Cluster.exec_game hexec
  have hlog : s'.2 = s.2 := hlog
  obtain ⟨hgates, hlives, howners, -, -⟩ := Cluster.gamePosts_frame (t := .game u)
    (s := { s.1 with game }) (x := i.game.sent) a
  rw [← hs] at hgates hlives howners
  refine ⟨hI.other hgates hlives howners ?_ ?_ ?_ fun g message accountId hm hkicks => ?_,
    spares_of_gates hgates hlives, fun v _ => by rw [hlog]⟩
  · intro v
    rw [hlog]
  · rw [hlog]
  · rw [hlog]
  · rw [hs] at hm
    rcases Cluster.gamePosts_inbox hm with hold | ⟨target, payload, -, -, -, hpayload⟩
    · exact hold
    · -- the game kicks nobody
      unfold Payload.toGate at hpayload
      split at hpayload
      · split at hpayload <;> cases hpayload
        cases hkicks
      · split at hpayload <;> cases hpayload
        cases hkicks
      · cases hpayload
        cases hkicks
      · cases hpayload

theorem sound_gateReceive {r : GateMessage} (hI : s.Consistent platformOf)
    (hx : (machine cfg).exec t .gateReceive i s = some (s', r)) :
    Sound platformOf t s s' ∧ (s'.2.notes t).kicking = r.kicks ∧ r.kicks ≠ some "" := by
  obtain ⟨hexec, hlog⟩ := machine_exec hx
  obtain ⟨g, life, u, rfl, -, htaken, hs⟩ := Cluster.exec_gateReceive hexec
  have hnotes : s'.2 = s.2.note (.gate g life u)
    { s.2.notes (.gate g life u) with kicking := r.kicks } := hlog
  refine ⟨⟨hI.other (by rw [hs]) (by rw [hs]) (by rw [hs]) (fun v => ?_) (by rw [hnotes]; rfl)
    (by rw [hnotes]; rfl) fun j message accountId hm _ => ?_,
      spares_of_gates (by rw [hs]) (by rw [hs]), fun v hv => ?_⟩, ?_, fun hempty => ?_⟩
  · rw [hnotes]
    by_cases hv : v = .gate g life u
    · subst hv
      simp [KickLog.note]
    · simp [KickLog.note, Function.update_of_ne hv]
  · rw [hs] at hm
    by_cases hj : j = g
    · subst hj
      simp only [Function.update_self] at hm
      exact List.mem_of_mem_eraseIdx hm
    · simpa only [Function.update_of_ne hj] using hm
  · rw [hnotes]
    exact Function.update_of_ne hv ..
  · rw [hnotes]
    simp [KickLog.note]
  · exact hI.kicks g r "" (List.mem_of_getElem? htaken) hempty rfl

theorem sound_gameReceive {r : GameMessage} (hI : s.Consistent platformOf)
    (hx : (machine cfg).exec t .gameReceive i s = some (s', r)) : Sound platformOf t s s' := by
  obtain ⟨hexec, hlog⟩ := machine_exec hx
  obtain ⟨u, rfl, -, hs⟩ := Cluster.exec_gameReceive hexec
  have hlog : s'.2 = s.2 := hlog
  refine ⟨hI.other (by rw [hs]) (by rw [hs]) (by rw [hs]) (fun v => by rw [hlog]) (by rw [hlog])
    (by rw [hlog]) fun j message accountId hm _ => ?_,
      spares_of_gates (by rw [hs]) (by rw [hs]), fun v _ => by rw [hlog]⟩
  rwa [hs] at hm

/-- A gate that has been restarted has no sessions, whatever numbers the directory names. -/
theorem sound_restart {r : Unit} (hI : s.Consistent platformOf)
    (hx : (machine cfg).exec t (.restart g) i s = some (s', r)) : Sound platformOf t s s' := by
  obtain ⟨hexec, hlog⟩ := machine_exec hx
  obtain ⟨rfl, hs⟩ := Cluster.exec_restart hexec
  have hlog : s'.2 = s.2 := hlog
  have hempty : s'.1.gates g = {} := by
    rw [hs]
    exact Function.update_self ..
  have hother : ∀ j, j ≠ g → s'.1.gates j = s.1.gates j ∧ s'.1.lives j = s.1.lives j := by
    intro j hj
    rw [hs]
    exact ⟨Function.update_of_ne hj .., Function.update_of_ne hj ..⟩
  have hlife : s'.1.lives g = s.1.lives g + 1 := by
    rw [hs]
    exact Function.update_self ..
  -- each fact holds of the empty gate, and was known of every other one
  refine ⟨⟨fun j => ?_, fun j => ?_, fun j k accountId hk => ?_, fun j k accountId hk => ?_,
    fun j k accountId hk => ?_, fun j q pending hp => ?_, fun j message accountId hm hkicks => ?_⟩,
    ⟨fun j => ?_, fun j hj => ?_⟩, fun v _ => by rw [hlog]⟩
  · by_cases hj : j = g
    · subst hj
      rw [hempty]
      intro k record hget
      cases hget
    · rw [(hother j hj).1]
      exact hI.keyed j
  · by_cases hj : j = g
    · subst hj
      rw [hempty]
      intro k record hget
      cases hget
    · rw [(hother j hj).1]
      exact hI.anonymous j
  · by_cases hj : j = g
    · subst hj
      rw [hempty]
      exact .inl fun record hget => by cases hget
    · rw [(hother j hj).1]
      refine hI.named j k accountId ?_
      unfold NamedBy at hk ⊢
      rwa [hs] at hk
  · by_cases hj : j = g
    · subst hj
      rw [hempty]
      exact .inl fun record hget => by cases hget
    · rw [(hother j hj).1]
      obtain ⟨u, hu⟩ := hk
      rw [hlog, (hother j hj).2] at hu
      exact hI.found j k accountId ⟨u, hu⟩
  · by_cases hj : j = g
    · subst hj
      rw [hempty] at hk
      cases hk
    · rw [(hother j hj).1] at hk
      rw [hlog]
      exact hI.platform j k accountId hk
  · by_cases hj : j = g
    · subst hj
      rw [hempty] at hp
      cases hp
    · rw [(hother j hj).1] at hp ⊢
      rw [hlog]
      exact hI.waiting j q pending hp
  · rw [hs] at hm
    exact hI.kicks j message accountId hm hkicks
  · by_cases hj : j = g
    · subst hj
      omega
    · exact (hother j hj).2.ge
  · by_cases hjg : j = g
    · subst hjg
      omega
    · rw [(hother j hjg).1]
      exact .refl _

end KickCluster

end SomeServer
