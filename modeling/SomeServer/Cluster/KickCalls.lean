/-
# SomeServer.Cluster.KickCalls — a login kicks sessions of its own account

A login looks for the session that its account has, in the account directory or in the gate's own table,
and has its connection closed; a gate that finds its own number in an entry closes the connection without
looking at the account. `kicks_own_account` says of every run that the connection belongs to an active
session of the account nevertheless. The programs of the gate are verified one by one, from what their
thread knows (`Knows`), and `kicks_other_account` shows what happens after a restart of a gate.
-/
import SomeServer.Cluster.Kicks
import SomeServer.Cluster.Messages

namespace SomeServer

open Lib

namespace KickCluster

variable {T : Type} [DecidableEq T] {cfg : GameConfiguration} {platformOf : String → String}
  {t : ClusterThread T} {a : ClusterAct} {i : ClusterInput} {s s' : KickCluster T} {r : a.Reply}
  {o : ClusterOp} {g : UInt32} {k : GateSessionId} {accountId : String}

/-! ## Outlines -/

/-- What is asked for in an operation: an account logs in for one platform only, and a kick is for an
account. -/
def Asked (platformOf : String → String) : GateOp → Prop
  | .clientLogin _ platform accountId _ => platform = platformOf accountId
  | .kickAccountSession accountId _ _ => accountId ≠ ""
  | _ => True

/-- The condition on the operations of a run: a thread of a gate belongs to the life that the gate is in. -/
def Starts (platformOf : String → String) (t : ClusterThread T) (o : ClusterOp) (s : KickCluster T) :
    Prop :=
  (∀ g life u, t = .gate g life u → s.1.lives g = life) ∧
    ∀ op, o = .gate op → Asked platformOf op

def outline (platformOf : String → String) :
    Outline (ClusterThread T) ClusterOp ClusterAct ClusterInput (KickCluster T) where
  inv := Consistent platformOf
  rest _ _ := True
  start := Starts platformOf
  ok t _ a _ s := Admits t a s
  event t o a _ s s' := Sound platformOf t s s' ∧
    ∀ b, a = .gate b → Fits platformOf t.gateId o (s.2.notes t) b (s.1.gates t.gateId)
  rely t _ s s' := s.Spares s' ∧ s'.2.notes t = s.2.notes t
  rely_refl _ _ s := ⟨.refl s, rfl⟩
  rely_trans _ _ _ _ _ h h' := ⟨h.1.trans h'.1, h'.2.trans h.2⟩
  rest_rely _ _ _ _ _ := trivial

/-- What a program of a gate's thread knows of its gate, as long as the gate is in the thread's life, and
of what it has come across itself; it kicks for `account`. -/
structure Knows (t : ClusterThread T) (o : ClusterOp) (account : Option String)
    (K : GateProcess (ClusterThread T) → KickNote → Prop) (s : KickCluster T) : Prop where
  thread : ∃ life u, t = .gate t.gateId life u ∧ life ≤ s.1.lives t.gateId ∧
    (s.1.lives t.gateId = life → K (s.1.gates t.gateId) (s.2.notes t))
  account : kicksFor (s.2.notes t) o = account

/-- What other sections of a gate do not make false. -/
def Stable (K : GateProcess (ClusterThread T) → KickNote → Prop) : Prop :=
  ∀ gate gate' note, gate.Keeps gate' → K gate note → K gate' note

omit [DecidableEq T] in
theorem stable_true : Stable fun (_ : GateProcess (ClusterThread T)) _ => True :=
  fun _ _ _ _ _ => trivial

/-- A gate's sections and what happens in them, as its threads see them. -/
abbrev SafeCall (cfg : GameConfiguration) (platformOf : String → String) (t : ClusterThread T)
    (o : ClusterOp) {α : Type} (Q : α → KickCluster T → Prop) (p : GateCall α) (s : KickCluster T) :
    Prop :=
  ((outline platformOf).comap gateActs).Safe ((machine cfg).comap gateActs) t o Q p s

section Programs

variable {α β : Type} {account : Option String} {c : ConnectionId}
  {K L : GateProcess (ClusterThread T) → KickNote → Prop} {Q : α → KickCluster T → Prop}

omit [DecidableEq T] in
theorem Knows.imp (h : Knows t o account K s) (hK : ∀ gate note, K gate note → L gate note) :
    Knows t o account L s := by
  obtain ⟨⟨life, u, ht, hle, hknown⟩, haccount⟩ := h
  exact ⟨⟨life, u, ht, hle, fun hlife => hK _ _ (hknown hlife)⟩, haccount⟩

omit [DecidableEq T] in
theorem Knows.rely (h : Knows t o account K s) (hK : Stable K) (hspares : s.Spares s')
    (hnotes : s'.2.notes t = s.2.notes t) : Knows t o account K s' := by
  obtain ⟨⟨life, u, ht, hle, hknown⟩, haccount⟩ := h
  have hlives := hspares.lives t.gateId
  refine ⟨⟨life, u, ht, hle.trans hlives, fun hlife => ?_⟩, by rw [hnotes, haccount]⟩
  have hsame : s.1.lives t.gateId = life := by omega
  rw [hnotes]
  exact hK _ _ _ (hspares.keeps _ (by omega)) (hknown hsame)

theorem comap_exec {a : GateAct} {r : a.Reply}
    (h : ((machine cfg).comap gateActs).exec t a i s = some (s', r)) :
    (machine cfg).exec t (.gate a) i s = some (s', r) := by
  simp only [Machine.comap, gateActs, Option.map_eq_some_iff] at h
  obtain ⟨⟨s₂, r₂⟩, hx, heq⟩ := h
  cases heq
  exact hx

/-- **One section of a gate.** What a thread knows shows that the section fits; what it knows afterwards
it knows from the section. -/
theorem section_safe {a : GateAct} {f : a.Reply → GateCall α}
    {L : a.Reply → GateProcess (ClusterThread T) → KickNote → Prop} (hK : Stable K)
    (hs : Knows t o account K s)
    (hfits : ∀ gate note, K gate note → kicksFor note o = account →
      Fits platformOf t.gateId o note a gate)
    (hpost : ∀ s₁ s₂ r, s₁.Consistent platformOf → Admits t (.gate a) s₁ → GateStep t a s₁ s₂ r →
      (s₁.1.gates t.gateId).Keeps (s₂.1.gates t.gateId) →
        K (s₁.1.gates t.gateId) (s₁.2.notes t) → L r (s₂.1.gates t.gateId) (s₂.2.notes t))
    (hnext : ∀ s₂ r, Knows t o account (L r) s₂ → SafeCall cfg platformOf t o Q (f r) s₂) :
    SafeCall cfg platformOf t o Q (gateCall a >>= f) s := by
  intro s₁ hrely hI i s₂ r hok hx
  have hstep := gateStep (comap_exec hx)
  obtain ⟨⟨life, u, ht, hle, hknown⟩, haccount⟩ := hs.rely hK hrely.1 hrely.2
  obtain ⟨v, hv⟩ := hstep.thread
  -- the thread acts, so it belongs to the life that its gate is in
  have hlife : s₁.1.lives t.gateId = life := by
    rw [ht] at hv
    simp only [ClusterThread.gate.injEq] at hv
    exact hv.2.1.symm
  have hfits₁ := hfits _ _ (hknown hlife) haccount
  have hsound := hstep.sound hI hfits₁ hok
  refine ⟨⟨hsound, fun b hb => ?_⟩, hsound.1, hnext s₂ r ⟨⟨life, u, ht, ?_, fun _ => ?_⟩, ?_⟩⟩
  · cases hb
    exact hfits₁
  · rw [hstep.lives]
    exact hle
  · exact hpost s₁ s₂ r hI hok hstep (hstep.keeps hI hfits₁ hok) (hknown hlife)
  -- a section does not change what the thread kicks for
  · rw [← haccount]
    unfold kicksFor
    rw [hstep.log, KickLog.record_kicking a r]

/-- A section that always fits and that its thread takes no note of. -/
def Routine (T : Type) [DecidableEq T] (a : GateAct) : Prop :=
  (∀ platformOf g o note (gate : GateProcess (ClusterThread T)), Fits platformOf g o note a gate) ∧
    ∀ (t : ClusterThread T) (log : KickLog T) r, (log.record t (.gate a) r).notes t = log.notes t

theorem routine_safe {a : GateAct} {f : a.Reply → GateCall α} (ha : Routine T a) (hK : Stable K)
    (hs : Knows t o account K s)
    (hnext : ∀ s₂ r, Knows t o account K s₂ → SafeCall cfg platformOf t o Q (f r) s₂) :
    SafeCall cfg platformOf t o Q (gateCall a >>= f) s := by
  refine section_safe hK hs (fun gate note _ _ => ha.1 ..) (fun s₁ s₂ r _ _ hstep hkeeps hknown => ?_)
    hnext
  rw [hstep.log, ha.2]
  exact hK _ _ _ hkeeps hknown

/-- A program of such sections keeps what is known. -/
theorem all_routine {p : GateCall α} (hp : p.All (Routine T)) (hK : Stable K) :
    ∀ {s : KickCluster T}, Knows t o account K s →
      SafeCall cfg platformOf t o (fun _ s' => Knows t o account K s') p s := by
  induction p with
  | ret x => exact fun hs => hs
  | act a next ih => exact fun hs => routine_safe hp.1 hK hs fun s₂ r hs₂ => ih r (hp.2 r) hs₂

/-- Nothing is known but the account. -/
abbrev Free (t : ClusterThread T) (o : ClusterOp) (account : Option String) (s : KickCluster T) : Prop :=
  Knows t o account (fun _ _ => True) s

omit [DecidableEq T] in
theorem Knows.free (h : Knows t o account K s) : Free t o account s := h.imp fun _ _ _ => trivial

/-! ### Closing a connection -/

/-- The connection that is going to be closed belongs to the account that is kicked for, if any is. -/
def Owns (account : Option String) (c : ConnectionId) (gate : GateProcess (ClusterThread T))
    (_ : KickNote) : Prop :=
  ∀ accountId, account = some accountId → gate.Owned c accountId

omit [DecidableEq T] in
theorem stable_owns : Stable (T := T) (Owns account c) :=
  fun _ _ _ h hK accountId ha => h.owned c accountId (hK accountId ha)

variable {gcfg : GateConfiguration}

theorem handleSessionDisconnected_routine (session : GateSessionRecord) :
    (handleSessionDisconnected gcfg session).All (Routine T) := by
  unfold handleSessionDisconnected
  split
  · exact Prog.all_ret
  · refine ⟨⟨fun _ _ _ _ _ => trivial, fun _ _ _ => rfl⟩, fun send => ?_⟩
    show Prog.All _ (if !send.ok then Prog.ret send else _)
    split
    · exact Prog.all_ret
    · refine ⟨⟨fun _ _ _ _ _ => trivial, fun _ _ _ => rfl⟩, fun _ =>
        ⟨⟨fun _ _ _ _ _ => trivial, fun _ _ _ => rfl⟩, fun decision => ?_⟩⟩
      cases decision with
      | done result => exact Prog.all_ret
      | delete => exact ⟨⟨fun _ _ _ _ _ => trivial, fun _ _ _ => rfl⟩, fun _ => Prog.all_ret⟩

theorem disconnectHandler_safe (hs : Knows t o account (fun gate _ => gate.Shut c) s) :
    SafeCall cfg platformOf t o (fun _ s' => Free t o account s') (disconnectHandler gcfg c) s := by
  unfold disconnectHandler
  refine section_safe (L := fun _ _ _ => True) (fun _ _ _ h => h.shut c) hs (fun _ _ hshut _ => hshut)
    (fun _ _ _ _ _ _ _ _ => trivial) fun s₂ removed hs₂ => ?_
  cases removed with
  | none => exact hs₂
  | some removed =>
      exact Outline.Safe.bind ((all_routine (handleSessionDisconnected_routine removed) stable_true
        hs₂).mono fun _ _ h => h)

theorem finalizeConnection_safe (hs : Free t o account s) :
    SafeCall cfg platformOf t o (fun _ s' => Free t o account s') (finalizeConnection gcfg c) s := by
  unfold finalizeConnection
  refine section_safe (L := fun _ gate _ => gate.Shut c) stable_true hs (fun _ _ _ _ => trivial)
    (fun s₁ s₂ r _ hok hstep _ _ => ?_) fun s₂ _ hs₂ => disconnectHandler_safe hs₂
  obtain ⟨env, fault, hx, -⟩ := hstep.exec
  obtain ⟨hgate, -⟩ := GateProcess.exec_connection hx
  have hsome : ((s₁.1.gates t.gateId).connection.connections c).isSome = true :=
    Option.isSome_iff_ne_none.mpr hok
  rw [hgate]
  simp only [GateConnectionService.exec, GateConnectionService.finalize, hsome, if_true]
  exact GateProcess.shut_closed

theorem closeConnection_safe (hs : Knows t o account (Owns account c) s) :
    SafeCall cfg platformOf t o (fun _ s' => Free t o account s') (closeConnection gcfg c) s := by
  unfold closeConnection
  refine section_safe (L := fun _ _ _ => True) stable_owns hs (fun gate note howns haccount => ?_)
    (fun _ _ _ _ _ _ _ _ => trivial) fun s₂ enter hs₂ => ?_
  · intro accountId hkicks
    exact howns accountId (haccount ▸ hkicks)
  · show SafeCall cfg platformOf t o _ (if !enter.ok then Prog.ret enter else _) s₂
    split
    · exact hs₂
    · exact Outline.Safe.bind ((finalizeConnection_safe hs₂).mono fun _ _ h => h)

theorem kickConnection_safe {reason : String} (hs : Knows t o account (Owns account c) s) :
    SafeCall cfg platformOf t o (fun _ s' => Free t o account s') (kickConnection gcfg c reason) s := by
  unfold kickConnection
  refine routine_safe ⟨fun _ _ _ _ _ => trivial, fun _ _ _ => rfl⟩ stable_owns hs fun s₂ send hs₂ => ?_
  show SafeCall cfg platformOf t o _ (if !send.ok then Prog.ret send else _) s₂
  split
  · exact hs₂.free
  · exact closeConnection_safe hs₂

/-! ### Finding the session to close -/

/-- The session that has been found belongs to the account that is kicked for. -/
def Holds (accountId : String) (existing : Option GateSessionRecord)
    (gate : GateProcess (ClusterThread T)) (_ : KickNote) : Prop :=
  ∀ record, existing = some record → gate.Owned record.connectionId accountId

theorem kickExisting_safe {existing : Option GateSessionRecord}
    (hs : Knows t o (some accountId) (Holds accountId existing) s) :
    SafeCall cfg platformOf t o (fun _ s' => Free t o (some accountId) s')
      (kickExisting gcfg existing c) s := by
  unfold kickExisting
  cases existing with
  | none => exact hs.free
  | some record =>
      show SafeCall cfg platformOf t o _ (if record.connectionId = c then Prog.ret _ else _) s
      split
      · exact hs.free
      · refine kickConnection_safe (hs.imp fun gate note hholds other hother => ?_)
        obtain rfl := Option.some.inj hother
        exact hholds record rfl

theorem kickExistingAccountSession_safe (haccount : accountId ≠ "")
    (hs : Free t o (some accountId) s) :
    SafeCall cfg platformOf t o (fun _ s' => Free t o (some accountId) s')
      (kickExistingAccountSession (gateConfiguration t.gateId) accountId c) s := by
  unfold kickExistingAccountSession
  refine section_safe (L := fun owner _ note => ∀ x, owner = some x → x.instanceId = t.gateId →
    note.found = some (x.sessionId, accountId)) stable_true hs (fun _ _ _ _ => trivial)
    (fun s₁ s₂ owner _ _ hstep _ _ x hx hown => ?_) fun s₂ owner hs₂ => ?_
  · rw [hstep.log]
    subst hx
    simp [KickLog.record, KickLog.note, Option.filter, hown]
  · cases owner with
    -- no name in the directory: the session is looked for on the gate itself
    | none =>
        refine section_safe (L := fun existing => Holds accountId existing) stable_true hs₂.free
          (fun _ _ _ _ => trivial) (fun s₁ s₂ existing hI _ hstep _ _ record hr => ?_)
          fun s₃ existing hs₃ => kickExisting_safe hs₃
        obtain ⟨env, fault, hx, -⟩ := hstep.exec
        rw [hr] at hx
        exact GateProcess.findByAccount_owned (hI.keyed _) (hI.anonymous _) haccount hx
    | some owner =>
        show SafeCall cfg platformOf t o _ (if owner.instanceId = t.gateId then _ else _) s₂
        split
        -- named on this gate: the session that is found is the one that was named
        · rename_i hown
          refine section_safe (K := fun _ note => note.found = some (owner.sessionId, accountId))
            (L := fun existing => Holds accountId existing) (fun _ _ _ _ h => h)
            (hs₂.imp fun _ _ h => h owner rfl hown) (fun _ _ _ _ => trivial)
            (fun s₁ s₃ existing hI _ hstep _ hfound record hr => ?_)
            fun s₃ existing hs₃ => kickExisting_safe hs₃
          obtain ⟨env, fault, hx, -⟩ := hstep.exec
          obtain ⟨u, ht⟩ := hstep.thread
          rw [hr] at hx
          obtain ⟨hgate, hget, hc⟩ := GateProcess.exec_snapshot (hI.keyed _) hx
          have hnamed := hI.found t.gateId owner.sessionId accountId ⟨u, by rw [← ht]; exact hfound⟩
          rw [hgate, hc]
          exact hnamed.owned hget
        -- named on another gate, which is told to kick it
        · refine routine_safe ⟨fun _ _ _ _ _ => trivial, fun _ _ _ => rfl⟩ stable_true hs₂.free
            fun s₃ requestId hs₃ => ?_
          refine section_safe (L := fun _ _ _ => True) stable_true hs₃ (fun _ _ _ _ => haccount)
            (fun _ _ _ _ _ _ _ _ => trivial) fun s₄ send hs₄ => ?_
          show SafeCall cfg platformOf t o _ (if !send.ok then Prog.ret send else _) s₄
          split <;> exact hs₄

/-! ### Logging in -/

omit [DecidableEq T] in
theorem stable_opened : Stable fun (gate : GateProcess (ClusterThread T)) _ => gate.Opened k :=
  fun _ _ _ h hK => h.opened k hK

theorem openSession_safe (hs : Free t o account s) :
    SafeCall cfg platformOf t o (fun _ s' => Knows t o account (fun gate _ => gate.Opened k) s')
      (openSession k k) s := by
  unfold openSession
  refine section_safe (L := fun session gate _ => session.isSome = true → gate.Opened k) stable_true hs
    (fun _ _ _ _ => trivial) (fun s₁ s₂ session hI _ hstep _ _ hsome => ?_) fun s₂ session hs₂ => ?_
  · obtain ⟨env, fault, hx, -⟩ := hstep.exec
    obtain ⟨record, rfl⟩ := Option.isSome_iff_exists.mp hsome
    obtain ⟨hgate, hget, -⟩ := GateProcess.exec_snapshot (hI.keyed _) hx
    rw [hgate]
    exact .inl (by rw [hget]; rfl)
  · show SafeCall cfg platformOf t o _ (if session.isSome then Prog.ret _ else
      gateCall (.session (.openAnonymous k k)) >>= Prog.ret) s₂
    split
    -- the session is there already, or is opened now
    · rename_i hsome
      exact hs₂.imp fun _ _ h => h hsome
    · refine section_safe (L := fun _ gate _ => gate.Opened k) stable_true hs₂.free
        (fun _ _ _ _ => rfl) (fun s₁ s₃ opened _ _ hstep _ _ => ?_) fun _ _ hs₃ => hs₃
      obtain ⟨env, fault, hx, -⟩ := hstep.exec
      obtain ⟨m, hm, hgate⟩ := GateProcess.exec_session hx
      simp only [GateSessions.exec, Option.some.injEq] at hm
      obtain rfl : (GateSessions.openAnonymous k k (s₁.1.gates t.gateId).sessions).1 = m :=
        congrArg Prod.fst hm
      rw [hgate]
      refine .inl ?_
      show ((GateSessions.openAnonymous k k (s₁.1.gates t.gateId).sessions).1.get k).isSome = true
      unfold GateSessions.openAnonymous
      split
      · assumption
      · rw [Table.set_get_self]
        rfl

theorem requestLogin_safe {gameInstanceId areaId : UInt32} {platform : String}
    (hplatform : platform = platformOf accountId)
    (hs : Knows t o account (fun gate _ => gate.Opened k) s) :
    SafeCall cfg platformOf t o (fun _ s' => Free t o account s')
      (requestLogin gcfg gameInstanceId c k platform accountId areaId) s := by
  unfold requestLogin
  refine routine_safe ⟨fun _ _ _ _ _ => trivial, fun _ _ _ => rfl⟩ stable_opened hs
    fun s₂ requestId hs₂ => ?_
  refine section_safe (L := fun _ gate note => note.login = platform ∧ gate.Opened k) stable_opened hs₂
    (fun _ _ _ _ => trivial) (fun s₁ s₃ send _ _ hstep hkeeps hopened => ⟨?_, hkeeps.opened k hopened⟩)
    fun s₃ send hs₃ => ?_
  · rw [hstep.log]
    simp [KickLog.record, KickLog.note]
  · show SafeCall cfg platformOf t o _ (if !send.ok then Prog.ret send else _) s₃
    split
    · exact hs₃.free
    · refine section_safe (L := fun _ _ _ => True) (fun _ _ _ h hK => ⟨hK.1, h.opened k hK.2⟩) hs₃
        (fun _ _ hK _ => ⟨hK.1.trans hplatform, hK.2⟩) (fun _ _ _ _ _ _ _ _ => trivial)
        fun s₄ _ hs₄ => hs₄

theorem handleClientLogin_safe {platform credential : String} (hplatform : platform = platformOf accountId)
    (hs : Free t o (some accountId) s) :
    SafeCall cfg platformOf t o (fun _ s' => Free t o (some accountId) s')
      (handleClientLogin (gateConfiguration t.gateId) c platform accountId credential) s := by
  unfold handleClientLogin
  cases hvalid : validate platform accountId credential with
  | some message =>
      refine routine_safe (f := Prog.ret) ⟨fun _ _ _ _ _ => trivial, fun _ _ _ => rfl⟩ stable_true hs
        fun _ _ hs₂ => hs₂
  | none =>
      have haccount : accountId ≠ "" := by
        rintro rfl
        unfold validate at hvalid
        split at hvalid <;> cases hvalid
      -- kicked, opened, anonymous, asked for: every section may end the login
      refine Outline.Safe.bind ((kickExistingAccountSession_safe haccount hs).mono fun kick s₂ hs₂ => ?_)
      show SafeCall cfg platformOf t o _ (if !kick.ok then Prog.ret kick else _) s₂
      split
      · exact hs₂
      refine Outline.Safe.bind ((openSession_safe hs₂).mono fun opened s₃ hs₃ => ?_)
      show SafeCall cfg platformOf t o _ (if !opened.ok then Prog.ret opened else _) s₃
      split
      · exact hs₃.free
      refine routine_safe ⟨fun _ _ _ _ _ => trivial, fun _ _ _ => rfl⟩ stable_opened hs₃
        fun s₄ anonymous hs₄ => ?_
      show SafeCall cfg platformOf t o _ (if !anonymous.ok then Prog.ret anonymous else _) s₄
      split
      · exact hs₄.free
      · exact requestLogin_safe hplatform hs₄

theorem acceptLogin_safe {pending : PendingLogin} {response : LoginPlayerResponse}
    (hs : Knows t o account (fun gate note => note.login = platformOf pending.accountId ∧
      gate.Opened pending.gateSessionId) s) :
    SafeCall cfg platformOf t o (fun _ s' => Free t o account s')
      (acceptLogin (gateConfiguration t.gateId) pending response) s := by
  have howned : Stable (T := T) fun gate _ => gate.Owned pending.gateSessionId pending.accountId :=
    fun _ _ _ h hK => h.owned _ _ hK
  unfold acceptLogin
  refine section_safe (L := fun _ gate _ => gate.Owned pending.gateSessionId pending.accountId)
    (fun _ _ _ h hK => ⟨hK.1, h.opened _ hK.2⟩) hs (fun _ _ hK _ => hK)
    (fun s₁ s₂ _ _ _ hstep hkeeps hK => ?_) fun s₂ _ hs₂ => ?_
  -- the session is activated for the account, unless its socket is gone
  · rcases hK.2 with hsession | hshut
    · obtain ⟨env, fault, hx, -⟩ := hstep.exec
      obtain ⟨m, hm, hgate⟩ := GateProcess.exec_session hx
      simp only [GateSessions.exec, Option.some.injEq] at hm
      obtain rfl : (GateSessions.activate pending.gateSessionId pending.accountId response.playerId
        response.game (s₁.1.gates t.gateId).sessions).1 = m := congrArg Prod.fst hm
      rw [hgate]
      refine .inl ?_
      show (GateSessions.activate _ _ _ _ _).1.activeAccount _ = _
      rcases GateSessions.activate_cases pending.accountId response.playerId response.game
        (s₁.1.gates t.gateId).sessions pending.gateSessionId with ⟨hnone, -⟩ | ⟨-, -, haccount⟩
      · rw [hnone] at hsession
        cases hsession
      · rw [haccount, Function.update_self]
    · exact .inr (hkeeps.shut _ hshut)
  -- the route, the answer to the client, and the bind, which needs the session to be its own
  · refine routine_safe ⟨fun _ _ _ _ _ => trivial, fun _ _ _ => rfl⟩ howned hs₂ fun s₃ _ hs₃ => ?_
    refine routine_safe ⟨fun _ _ _ _ _ => trivial, fun _ _ _ => rfl⟩ howned hs₃ fun s₄ _ hs₄ => ?_
    refine section_safe (L := fun _ _ _ => True) howned hs₄ (fun _ _ hK _ => ⟨_, rfl, hK⟩)
      (fun _ _ _ _ _ _ _ _ => trivial) fun s₅ _ hs₅ => hs₅

theorem handleLoginResponse_safe {response : LoginPlayerResponse} (hs : Free t o account s) :
    SafeCall cfg platformOf t o (fun _ s' => Free t o account s')
      (handleLoginResponse (gateConfiguration t.gateId) response) s := by
  have hanswer : ∀ {s₂ : KickCluster T} (pending : PendingLogin), Free t o account s₂ →
      SafeCall cfg platformOf t o (fun _ s' => Free t o account s') (answerClient pending response) s₂ :=
    fun _ hs₂ => routine_safe (f := Prog.ret) ⟨fun _ _ _ _ _ => trivial, fun _ _ _ => rfl⟩
      stable_true hs₂ fun _ _ hs₃ => hs₃
  unfold handleLoginResponse
  refine section_safe (L := fun pending gate note => ∀ x, pending = some x →
    note.login = platformOf x.accountId ∧ gate.Opened x.gateSessionId) stable_true hs
    (fun _ _ _ _ => trivial) (fun s₁ s₂ pending hI _ hstep hkeeps _ x hx => ?_)
    fun s₂ pending hs₂ => ?_
  · obtain ⟨env, fault, hexec, -⟩ := hstep.exec
    have hpending := (GateProcess.exec_pending hexec).2
    rw [hx] at hpending
    obtain ⟨hwaiting, hopened⟩ := hI.waiting t.gateId response.requestId x hpending.symm
    -- a login that waited is for the platform it was written down with
    refine ⟨?_, hkeeps.opened _ hopened⟩
    rw [hstep.log, ← hwaiting]
    simp [KickLog.record, KickLog.note]
  · cases pending with
    | none => exact hs₂.free
    | some pending =>
        show SafeCall cfg platformOf t o _ (if response.code = .ok then _ else _) s₂
        split
        · exact Outline.Safe.bind ((acceptLogin_safe (hs₂.imp fun _ _ h => h pending rfl)).mono
            fun _ _ hs₃ => hanswer pending hs₃)
        · exact hanswer pending hs₂.free

/-! ### Being told to close -/

theorem handleKickAccountSession_safe {reason : String} (haccount : accountId ≠ "")
    (hs : Free t o (some accountId) s) :
    SafeCall cfg platformOf t o (fun _ s' => Free t o (some accountId) s')
      (handleKickAccountSession gcfg accountId k reason) s := by
  unfold handleKickAccountSession
  refine section_safe (L := fun session gate _ => ∀ x, session = some x → x.accountId = accountId →
    gate.Owned x.connectionId accountId) stable_true hs (fun _ _ _ _ => trivial)
    (fun s₁ s₂ session hI _ hstep _ _ x hx hsame => ?_) fun s₂ session hs₂ => ?_
  · obtain ⟨env, fault, hexec, -⟩ := hstep.exec
    rw [hx] at hexec
    obtain ⟨hgate, hget, hc⟩ := GateProcess.exec_snapshot (hI.keyed _) hexec
    rw [hgate, hc]
    exact .inl ((hI.anonymous _).active hget hsame haccount)
  · cases session with
    | none => exact hs₂.free
    | some session =>
        show SafeCall cfg platformOf t o _ (if session.accountId ≠ accountId then Prog.ret _ else _) s₂
        split
        · exact hs₂.free
        · rename_i hsame
          refine kickConnection_safe (hs₂.imp fun gate note h other hother => ?_)
          obtain rfl := Option.some.inj hother
          exact h session rfl (not_not.mp hsame)

theorem handleUnbindPlayerSession_safe {p : PlayerId} (hs : Free t o none s) :
    SafeCall cfg platformOf t o (fun _ s' => Free t o none s') (handleUnbindPlayerSession gcfg p k) s := by
  unfold handleUnbindPlayerSession
  refine section_safe (L := fun _ _ _ => True) stable_true hs (fun _ _ _ _ => trivial)
    (fun _ _ _ _ _ _ _ _ => trivial) fun s₂ session hs₂ => ?_
  cases session with
  | none => exact hs₂
  | some session =>
      show SafeCall cfg platformOf t o _ (if session.playerId ≠ p then Prog.ret _ else _) s₂
      split
      · exact hs₂
      refine routine_safe ⟨fun _ _ _ _ _ => trivial, fun _ _ _ => rfl⟩ stable_true hs₂
        fun s₃ send hs₃ => ?_
      show SafeCall cfg platformOf t o _ (if !send.ok then Prog.ret send else _) s₃
      split
      · exact hs₃
      refine Outline.Safe.bind ((closeConnection_safe (hs₃.imp fun _ _ _ _ h => by cases h)).mono
        fun close s₄ hs₄ => ?_)
      show SafeCall cfg platformOf t o _ (if _ then Prog.ret close else Prog.ret _) s₄
      split <;> exact hs₄

/-! ### The operations of a gate -/

theorem handleClientPlayerMessage_routine (command : PlayerCommand) :
    (handleClientPlayerMessage c command).All (Routine T) := by
  unfold handleClientPlayerMessage
  refine ⟨⟨fun _ _ _ _ _ => trivial, fun _ _ _ => rfl⟩, fun session => ?_⟩
  cases session with
  | none => exact Prog.all_ret
  | some session =>
      show Prog.All _ (if session.state ≠ .active ∨ session.playerId = 0 then Prog.ret _ else _)
      split
      · exact Prog.all_ret
      · refine ⟨⟨fun _ _ _ _ _ => trivial, fun _ _ _ => rfl⟩, fun requestId =>
          ⟨⟨fun _ _ _ _ _ => trivial, fun _ _ _ => rfl⟩, fun send => ?_⟩⟩
        show Prog.All _ (if !send.ok then Prog.ret send else _)
        split
        · exact Prog.all_ret
        · exact ⟨⟨fun _ _ _ _ _ => trivial, fun _ _ _ => rfl⟩, fun _ => Prog.all_ret⟩

theorem handleForwardPlayerMessageResponse_routine (requestId : RequestId) (code : ResultCode)
    (errorMessage : String) :
    (handleForwardPlayerMessageResponse requestId code errorMessage).All (Routine T) := by
  unfold handleForwardPlayerMessageResponse
  refine ⟨⟨fun _ _ _ _ _ => trivial, fun _ _ _ => rfl⟩, fun pending => ?_⟩
  cases pending with
  | none => exact Prog.all_ret
  | some pending => exact ⟨⟨fun _ _ _ _ _ => trivial, fun _ _ _ => rfl⟩, fun _ => Prog.all_ret⟩

theorem gateOp_safe (op : GateOp) (hasked : Asked platformOf op) (hs : Free t o op.kicks s) :
    SafeCall cfg platformOf t o (fun _ s' => Free t o op.kicks s')
      (op.code (gateConfiguration t.gateId)) s := by
  cases op with
  | acceptReadySocket =>
      exact routine_safe ⟨fun _ _ _ _ _ => trivial, fun _ _ _ => rfl⟩ stable_true hs fun _ _ hs₂ => hs₂
  | accept c =>
      exact routine_safe (f := Prog.ret) ⟨fun _ _ _ _ _ => trivial, fun _ _ _ => rfl⟩ stable_true hs
        fun _ _ hs₂ => hs₂
  | endOfStream c => exact Outline.Safe.bind ((finalizeConnection_safe hs).mono fun _ _ hs₂ => hs₂)
  | close c => exact closeConnection_safe (hs.imp fun _ _ _ _ h => by cases h)
  | clientLogin c platform accountId credential => exact handleClientLogin_safe hasked hs
  | clientMessage c command => exact all_routine (handleClientPlayerMessage_routine command) stable_true hs
  | loginResponse response => exact handleLoginResponse_safe hs
  | kickAccountSession accountId k reason => exact handleKickAccountSession_safe hasked hs
  | unbindPlayerSession p k => exact handleUnbindPlayerSession_safe hs
  | messageResponse requestId code errorMessage =>
      exact all_routine (handleForwardPlayerMessageResponse_routine requestId code errorMessage)
        stable_true hs

/-! ### Every operation -/

/-- The sections that no gate's program has. -/
def Elsewhere (a : ClusterAct) : Prop := (∀ b, a ≠ .gate b) ∧ a ≠ .gateReceive

theorem elsewhere_safe {p : ClusterCall α} (hp : p.All Elsewhere) :
    (outline platformOf).Safe (machine cfg) t o (fun _ _ => True) p s := by
  refine Outline.safe_of_all (K := fun _ => True) (fun _ _ _ _ _ h => h)
    (fun a i s s' r ha hI _ _ hx => ?_) (fun _ _ _ => trivial) hp trivial
  have hsound : Sound platformOf t s s' := by
    cases a with
    | gate b => exact absurd rfl (ha.1 b)
    | gateReceive => exact absurd rfl ha.2
    | game b => exact sound_game hI hx
    | gameReceive => exact sound_gameReceive hI hx
    | restart g => exact sound_restart hI hx
  exact ⟨⟨hsound, fun b hb => absurd hb (ha.1 b)⟩, hsound.1, trivial⟩

theorem gateDeliver_safe (hthread : ∃ life u, t = .gate t.gateId life u ∧ life ≤ s.1.lives t.gateId) :
    (outline platformOf).Safe (machine cfg) t .gateDeliver (fun _ _ => True)
      ((Prog.call ClusterAct.gateReceive : ClusterCall GateMessage) >>= fun message =>
        ((message.op.code (gateConfiguration t.gateId)).lift gateActs : ClusterCall Result) >>=
          fun _ => Prog.ret ()) s := by
  intro s₁ hrely hI i s₂ message _ hx
  obtain ⟨hsound, hkicking, hnonempty⟩ := sound_gateReceive hI hx
  obtain ⟨life, u, ht, hle⟩ := hthread
  have hfree : Free t .gateDeliver message.op.kicks s₂ := by
    refine ⟨⟨life, u, ht, ?_, fun _ => trivial⟩, hkicking⟩
    exact hle.trans ((hrely.1.lives _).trans (hsound.2.1.lives _))
  have hasked : Asked platformOf message.op := by
    cases message with
    | kickAccountSession accountId k reason =>
        intro hempty
        exact hnonempty (congrArg some hempty)
    | _ => exact trivial
  refine ⟨⟨hsound, fun b hb => by cases hb⟩, hsound.1, ?_⟩
  show (outline platformOf).Safe (machine cfg) t .gateDeliver _
    (((message.op.code (gateConfiguration t.gateId)).lift gateActs : ClusterCall Result) >>=
      fun _ => Prog.ret ()) s₂
  exact Outline.Safe.bind ((Outline.Safe.lift (gateOp_safe message.op hasked hfree)).mono
    fun _ _ _ => trivial)

theorem code_safe (fuel : Nat) (hstart : Starts platformOf t o s) :
    (outline platformOf).Safe (machine cfg) t o (fun _ _ => True) (o.code cfg fuel t) s := by
  have hgame : ∀ {α : Type} (x : Call α), (x.lift gameActs).All Elsewhere :=
    fun x => Prog.All.lift (fun _ => ⟨fun _ h => (by cases h), fun h => by cases h⟩) x
  unfold ClusterOp.code
  split
  · rename_i g life u op
    have hfree : Free (.gate g life u) (.gate op) op.kicks s :=
      ⟨⟨life, u, rfl, (hstart.1 g life u rfl).ge, fun _ => trivial⟩, rfl⟩
    exact Outline.Safe.bind ((Outline.Safe.lift (gateOp_safe op (hstart.2 op rfl) hfree)).mono
      fun _ _ _ => trivial)
  · rename_i g life u
    exact gateDeliver_safe ⟨life, u, rfl, (hstart.1 g life u rfl).ge⟩
  · exact elsewhere_safe ((hgame _).bind fun _ => trivial)
  · refine elsewhere_safe (Prog.All.bind ⟨⟨fun _ h => (by cases h), fun h => by cases h⟩,
      fun _ => trivial⟩ fun message => ?_)
    split
    · exact Prog.all_ret
    · exact (hgame _).bind fun _ => trivial
  · exact elsewhere_safe ⟨⟨fun _ h => (by cases h), fun h => by cases h⟩, fun _ => trivial⟩
  · exact trivial

end Programs

/-- The condition on the moves of a run. -/
def guard (platformOf : String → String)
    (c : Pool (ClusterThread T) ClusterOp ClusterAct ClusterAct.Reply Unit (KickCluster T)) :
    Move (ClusterThread T) ClusterOp ClusterInput → Prop
  | .start t o => Starts platformOf t o c.shared
  | .act t _ => ∀ o a k, c.threads t = some (o, .act a k) → Admits t a c.shared

theorem proved (platformOf : String → String) (fuel : Nat) :
    (outline platformOf).Proved (machine cfg) (fun (t : ClusterThread T) o => o.code cfg fuel t)
      (guard platformOf) (fun _ _ _ _ => True) where
  start _ _ _ hg _ := hg
  ok _ _ o a k _ hg _ ht := hg o a k ht
  safe _ _ _ _ _ hstart := (code_safe fuel hstart).mono fun _ _ _ => ⟨trivial, trivial⟩
  compatible _ _ _ _ _ _ _ _ _ _ _ _ hevent u hu := ⟨hevent.1.2.1, hevent.1.2.2 u hu⟩

/-- What runs has been asked for. -/
theorem asked_of_run {fuel : Nat} {s₀ : KickCluster T}
    {c : Pool (ClusterThread T) ClusterOp ClusterAct ClusterAct.Reply Unit (KickCluster T)}
    (hrun : Run (machine cfg) (fun t o => o.code cfg fuel t) (guard platformOf) (Pool.initial s₀) c)
    {op : GateOp} {p : ClusterCall Unit} (ht : c.threads t = some (.gate op, p)) :
    Asked platformOf op := by
  -- induction on the run: what has begun stays what it was asked for
  induction hrun generalizing p with
  | refl => cases ht
  | @tail d d' m _ hg hm ih =>
      cases m with
      | start u o =>
          obtain ⟨-, rfl⟩ := Pool.move_start hm
          by_cases htu : t = u
          · subst htu
            simp only [Function.update_self, Option.some.injEq, Prod.mk.injEq] at ht
            exact hg.2 op ht.1
          · simp only [Function.update_of_ne htu] at ht
            exact ih ht
      | act u i =>
          obtain ⟨o, a, k, s, r, hu, -, rfl⟩ := Pool.move_act hm
          by_cases htu : t = u
          · subst htu
            simp only [Function.update_self, Option.some.injEq, Prod.mk.injEq] at ht
            rw [ht.1] at hu
            exact ih hu
          · simp only [Function.update_of_ne htu] at ht
            exact ih ht

end KickCluster

/-! ## Every run -/

namespace Cluster

open KickCluster

variable {T : Type} [DecidableEq T] {cfg : GameConfiguration}

/-- **A login kicks its own account only.** In every run of a cluster in which the condition holds at
every step, from gates without sessions and whatever the directory has, when a login or a kick message
closes the connection of a client, the connection has an active session of the account that it kicks
for, and the session is for the platform that the account logs in for. -/
theorem kicks_own_account (platformOf : String → String) (fuel : Nat) {s₀ : Cluster T}
    (hgates : ∀ g, s₀.gates g = {}) (hinbox : ∀ g, s₀.gateInbox g = [])
    {c c' : Pool (ClusterThread T) ClusterOp ClusterAct ClusterAct.Reply Unit (KickCluster T)}
    (hrun : Run (KickCluster.machine cfg) (fun t o => o.code cfg fuel t) (guard platformOf)
      (Pool.initial (s₀, {})) c)
    {t : ClusterThread T} {o : ClusterOp} {x : ConnectionId} {k : Result → ClusterCall Unit}
    {i : ClusterInput} (ht : c.threads t = some (o, .act (.gate (.connection (.closeEnter x))) k))
    (hmove : c.move (KickCluster.machine cfg) (fun t o => o.code cfg fuel t) (.act t i) = some c')
    {accountId : String} (hkicks : kicksFor (c.shared.2.notes t) o = some accountId)
    (hopen : (c.shared.1.gates t.gateId).connection.sockets x = true) :
    (∃ record, (c.shared.1.gates t.gateId).sessions.get x = some record ∧ record.connectionId = x ∧
      record.state = .active ∧ record.accountId = accountId) ∧
    c.shared.2.platform (t.gateId, x) = platformOf accountId ∧
    ∀ x' platform credential, o = .gate (.clientLogin x' platform accountId credential) →
      platform = platformOf accountId := by
  have hstart : KickCluster.Consistent platformOf (s₀, ({} : KickLog T)) := by
    refine ⟨fun g k record hget => ?_, fun g k record hget => ?_, fun g k accountId _ => .inl ?_,
      fun g k accountId hk => ?_, fun g k accountId hk => ?_, fun g q pending hp => ?_,
      fun g message accountId hm => ?_⟩
    · rw [hgates g] at hget
      cases hget
    · rw [hgates g] at hget
      cases hget
    · intro record hget
      rw [hgates g] at hget
      cases hget
    · obtain ⟨u, hu⟩ := hk
      cases hu
    · rw [hgates g] at hk
      cases hk
    · rw [hgates g] at hp
      cases hp
    · rw [hinbox g] at hm
      cases hm
  -- the invariant, and what the closing section says of its account
  have hgood := (proved platformOf fuel).sound (Outline.good_initial hstart fun _ => trivial) hrun
  have hg : KickCluster.guard platformOf c (.act t i) := by
    intro o' a' k' ht'
    rw [ht] at ht'
    cases ht'
    exact trivial
  obtain ⟨-, hevent⟩ := ((proved platformOf fuel).move hgood hg hmove).2
  have howned : (c.shared.1.gates t.gateId).Owned x accountId :=
    (hevent o (.gate (.connection (.closeEnter x))) k ht).2 (.connection (.closeEnter x)) rfl accountId
      hkicks
  -- an account's session is active, or its socket is gone, which an open socket excludes
  rcases howned with hactive | hshut
  · obtain ⟨record, hget, hstate, haccount⟩ := GateSessions.ofActive_eq_some.mp hactive
    refine ⟨⟨record, hget, (hgood.1.keyed _ x record hget).2, hstate, haccount⟩,
      hgood.1.platform _ x accountId hactive, fun x' platform credential ho => ?_⟩
    rw [ho] at ht
    exact asked_of_run hrun ht
  · rw [hshut.socket] at hopen
    cases hopen

/-! ### A login on another connection -/

/-- A computable condition that is enough for the threads `Unit`, no session being opened. -/
def spared (platform : String)
    (c : Pool (ClusterThread Unit) ClusterOp ClusterAct ClusterAct.Reply Unit (KickCluster Unit)) :
    Move (ClusterThread Unit) ClusterOp ClusterInput → Bool
  | .start t o =>
      (match t with
        | .gate g life _ => c.shared.1.lives g = life
        | _ => true) &&
      match o with
      | .gate (.clientLogin _ asked _ _) => asked = platform
      | .gate (.kickAccountSession accountId _ _) => accountId ≠ ""
      | _ => true
  | .act t _ =>
      match c.threads t with
      | some (_, .act (.gate (.session (.openAnonymous _ _))) _) => false
      | some (_, .act (.gate (.session (.activate k accountId _ _))) _) =>
          ((c.shared.1.gates t.gateId).sessions.activeAccount k).all (· = accountId)
      | some (_, .act (.gate (.connection .acceptReadySocket)) _) =>
          let connection := (c.shared.1.gates t.gateId).connection
          (connection.connections connection.nextConnectionId).isNone
      | some (_, .act (.gate (.connection (.finalize x))) _) =>
          ((c.shared.1.gates t.gateId).connection.connections x).isSome
      | _ => true

theorem guard_of_spared {platform : String}
    (c : Pool (ClusterThread Unit) ClusterOp ClusterAct ClusterAct.Reply Unit (KickCluster Unit))
    (m : Move (ClusterThread Unit) ClusterOp ClusterInput) (h : spared platform c m = true) :
    KickCluster.guard (fun _ => platform) c m := by
  cases m with
  | start t o =>
      simp only [spared, Bool.and_eq_true] at h
      refine ⟨fun g life u ht => ?_, fun op ho => ?_⟩
      · rw [ht] at h
        exact of_decide_eq_true h.1
      · subst ho
        -- only these two calls name an account
        cases op with
        | clientLogin x asked accountId credential => simpa [Asked] using h.2
        | kickAccountSession accountId k reason => simpa [Asked] using h.2
        | _ => exact trivial
  | act t i =>
      intro o a k ht
      simp only [spared, ht] at h
      unfold Admits
      split
      · cases h
      · intro old hold
        simp only [hold, Option.all_some, decide_eq_true_eq] at h
        exact h
      · exact .inl (Option.isNone_iff_eq_none.mp h)
      · exact Option.isSome_iff_ne_none.mp h
      · exact trivial

/-- A cluster, before anything has happened. -/
def quietCluster :
    Pool (ClusterThread Unit) ClusterOp ClusterAct ClusterAct.Reply Unit (KickCluster Unit) :=
  Pool.initial ({ game := { ipc := { self := some ⟨gameProcess, 1⟩ } } }, {})

/-- Sections of a thread of a gate, the session table being walked in this order. -/
def threadRuns (t : ClusterThread Unit) (n : Nat) (order : List GateSessionId) :
    List (Move (ClusterThread Unit) ClusterOp ClusterInput) :=
  List.replicate n (.act t { gate := { order }, game := GameProcess.emptyServers 0 })

/-- A client connects to a gate, and its login for the account comes to this section. -/
def comesTo (t : ClusterThread Unit) (x : ConnectionId) (accountId : String) (n : Nat)
    (order : List GateSessionId) : List (Move (ClusterThread Unit) ClusterOp ClusterInput) :=
  .start t (.gate .acceptReadySocket) :: threadRuns t 1 [] ++
    .start t (.gate (.clientLogin x "p" accountId "c")) :: threadRuns t n order

/-- What a run comes to that opens a session first, and goes on under a computable condition. -/
theorem run_of_spared {platform : String} {t : ClusterThread Unit} {x : ConnectionId}
    {before after : List (Move (ClusterThread Unit) ClusterOp ClusterInput)} {i : ClusterInput}
    {c₁ c₂ c : Pool (ClusterThread Unit) ClusterOp ClusterAct ClusterAct.Reply Unit (KickCluster Unit)}
    (hbefore : quietCluster.play (KickCluster.machine cfg) (fun t o => o.code cfg 8 t) (spared platform)
      before = some c₁)
    (hpending : c₁.pending t = some (.gate (.session (.openAnonymous x x))))
    (howners : c₁.shared.1.owners = fun _ => none)
    (hfound : (c₁.shared.2.notes (.gate t.gateId (c₁.shared.1.lives t.gateId) ())).found = none)
    (hopen : c₁.move (KickCluster.machine cfg) (fun t o => o.code cfg 8 t) (.act t i) = some c₂)
    (hafter : c₂.play (KickCluster.machine cfg) (fun t o => o.code cfg 8 t) (spared platform)
      after = some c) :
    Run (KickCluster.machine cfg) (fun t o => o.code cfg 8 t) (KickCluster.guard fun _ => platform)
      quietCluster c := by
  -- the one section whose condition is no computation: nothing names an account here
  have hguard : KickCluster.guard (fun _ => platform) c₁ (.act t i) := by
    intro o a k ht
    obtain ⟨o₁, k₁, ht₁⟩ := Pool.pending_eq_some.mp hpending
    rw [ht₁] at ht
    cases ht
    refine fun accountId => ⟨?_, ?_⟩
    · rintro ⟨value, owner, hvalue, -⟩
      rw [howners] at hvalue
      cases hvalue
    · rintro ⟨u, hu⟩
      rw [hfound] at hu
      cases hu
  exact ((Run.refl.play guard_of_spared hbefore).tail hguard hopen).play guard_of_spared hafter

/-- The account logs in on a second connection, and the first one is closed: it has the account's active
session. -/
theorem kicks_own_account_again : ∃ c c' record, Run (KickCluster.machine GameProcess.soloGame)
      (fun t o => o.code GameProcess.soloGame 8 t) (KickCluster.guard fun _ => "p") quietCluster c ∧
    c.pending (gateThread 1) = some (.gate (.connection (.closeEnter 1))) ∧
    c.move (KickCluster.machine GameProcess.soloGame) (fun t o => o.code GameProcess.soloGame 8 t)
      (.act (gateThread 1) { game := GameProcess.emptyServers 0 }) = some c' ∧
    (c.shared.1.gates 1).sessions.get 1 = some record ∧ record.state = .active ∧
      record.accountId = "a" ∧ c.shared.2.platform (1, 1) = "p" := by
  have hend : (quietCluster.play (KickCluster.machine GameProcess.soloGame)
      (fun t o => o.code GameProcess.soloGame 8 t) (spared "p")
      (comesTo (gateThread 1) 1 "a" 3 [])).bind (fun c₁ =>
        (c₁.move (KickCluster.machine GameProcess.soloGame) (fun t o => o.code GameProcess.soloGame 8 t)
          (.act (gateThread 1) { game := GameProcess.emptyServers 0 })).bind fun c₂ =>
        (c₂.play (KickCluster.machine GameProcess.soloGame)
          (fun t o => o.code GameProcess.soloGame 8 t) (spared "p")
          (threadRuns (gateThread 1) 4 [] ++ firstLogin ++ answered 1 ++
            comesTo (gateThread 1) 2 "a" 3 [1])).bind fun c =>
        (c.move (KickCluster.machine GameProcess.soloGame) (fun t o => o.code GameProcess.soloGame 8 t)
          (.act (gateThread 1) { game := GameProcess.emptyServers 0 })).map fun _ =>
          (c₁.pending (gateThread 1), c₁.shared.1.owners,
            (c₁.shared.2.notes (.gate 1 (c₁.shared.1.lives 1) ())).found,
            (c.threads (gateThread 1)).map fun x => (x.1, x.2.pending),
            (c.shared.1.gates 1).connection.sockets 1)) =
      some (some (.gate (.session (.openAnonymous 1 1))), fun _ => none, none,
        some (.gate (.clientLogin 2 "p" "a" "c"), some (.gate (.connection (.closeEnter 1)))), true) := rfl
  -- the run goes up to the section, over it, and on to the closing
  obtain ⟨c₁, hc₁, hend⟩ := Option.bind_eq_some_iff.mp hend
  obtain ⟨c₂, hc₂, hend⟩ := Option.bind_eq_some_iff.mp hend
  obtain ⟨c, hc, hend⟩ := Option.bind_eq_some_iff.mp hend
  obtain ⟨c', hc', hend⟩ := Option.map_eq_some_iff.mp hend
  simp only [Prod.mk.injEq] at hend
  obtain ⟨hpending, howners, hfound, hthread, hopen⟩ := hend
  obtain ⟨⟨o, p⟩, ht, hop⟩ := Option.map_eq_some_iff.mp hthread
  simp only [Prod.mk.injEq] at hop
  obtain ⟨rfl, hp⟩ := hop
  cases p with
  | ret a => cases hp
  | act e k =>
      cases hp
      have hrun := run_of_spared hc₁ hpending howners hfound hc₂ hc
      obtain ⟨⟨record, hget, -, hstate, haccount⟩, hplatform, -⟩ := kicks_own_account (fun _ => "p") 8
        (fun _ => rfl) (fun _ => rfl) hrun ht hc' rfl hopen
      exact ⟨c, c', record, hrun, Pool.pending_eq_some.mpr ⟨_, k, ht⟩, hc', hget, hstate, haccount,
        hplatform⟩

/-! ### A login after a restart -/

/-- The game's servers have nothing stored: the account gets this player. -/
def newLogin (id : Int) : List (Move (ClusterThread Unit) ClusterOp ClusterInput) :=
  .start (.game ()) .gameDeliver :: gameRuns 4 .nil 0 ++ gameRuns 1 (.status "OK") 0 ++
    gameRuns 1 (.integer id) 0 ++ gameRuns 14 (.status "OK") 0

/-- Gate 1 is restarted after account `a` has logged in there, and account `b` logs in on the first
connection of the new process. -/
def reused : List (Move (ClusterThread Unit) ClusterOp ClusterInput) :=
  comesTo (gateThread 1) 1 "a" 8 [] ++ newLogin 100001 ++
    .start (gateThread 1) .gateDeliver :: threadRuns (gateThread 1) 7 [] ++
    [.start .operator (.restart 1), .act .operator { game := GameProcess.emptyServers 0 }] ++
    comesTo (.gate 1 1 ()) 1 "b" 8 [] ++ newLogin 100002 ++
    .start (.gate 1 1 ()) .gateDeliver :: threadRuns (.gate 1 1 ()) 7 []

def sessionOfB : GateSessionRecord where
  state := .active
  gateSessionId := 1
  connectionId := 1
  accountId := "b"
  playerId := 100002
  game := ⟨10, 1⟩

/-- When `a` logs in again, on the second connection, the first one is closed, which has the active session
of `b`. -/
theorem kicks_other_account : ∃ c c', Run (KickCluster.machine GameProcess.soloGame)
      (fun t o => o.code GameProcess.soloGame 8 t) (fun _ _ => True) quietCluster c ∧
    ((c.threads (.gate 1 1 ())).map fun x => (x.1, x.2.pending)) =
      some (.gate (.clientLogin 2 "p" "a" "c"), some (.gate (.connection (.closeEnter 1)))) ∧
    c.move (KickCluster.machine GameProcess.soloGame) (fun t o => o.code GameProcess.soloGame 8 t)
      (.act (.gate 1 1 ()) { game := GameProcess.emptyServers 0 }) = some c' ∧
    (c.shared.1.gates 1).connection.sockets 1 = true ∧
    (c'.shared.1.gates 1).connection.sockets 1 = false ∧
    (c.shared.1.gates 1).sessions.get 1 = some sessionOfB := by
  have hend : (quietCluster.play (KickCluster.machine GameProcess.soloGame)
      (fun t o => o.code GameProcess.soloGame 8 t) (fun _ _ => true)
      (reused ++ comesTo (.gate 1 1 ()) 2 "a" 3 [1])).bind (fun c =>
        (c.move (KickCluster.machine GameProcess.soloGame) (fun t o => o.code GameProcess.soloGame 8 t)
          (.act (.gate 1 1 ()) { game := GameProcess.emptyServers 0 })).map fun c' =>
          ((c.threads (.gate 1 1 ())).map fun x => (x.1, x.2.pending),
            (c.shared.1.gates 1).connection.sockets 1, (c'.shared.1.gates 1).connection.sockets 1,
            (c.shared.1.gates 1).sessions.get 1)) =
      some (some (.gate (.clientLogin 2 "p" "a" "c"), some (.gate (.connection (.closeEnter 1)))),
        true, false, some sessionOfB) := rfl
  obtain ⟨c, hc, hend⟩ := Option.bind_eq_some_iff.mp hend
  obtain ⟨c', hc', hend⟩ := Option.map_eq_some_iff.mp hend
  simp only [Prod.mk.injEq] at hend
  obtain ⟨hthread, hopen, hclosed, hsession⟩ := hend
  exact ⟨c, c', Run.refl.play (fun _ _ _ => trivial) hc, hthread, hc', hopen, hclosed, hsession⟩

end Cluster

end SomeServer
