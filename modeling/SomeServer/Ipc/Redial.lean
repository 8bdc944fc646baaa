/-
# SomeServer.Ipc.Redial — which members a node dials

A node dials a member that its policy wants once, and remembers that it has: `attempts` has the members that
it has dialled since discovery last failed, other than those that have left. What is remembered stays when
the connection breaks. `DialledTo` is what the memory is good for, that there is a connection which was
dialled to the member.
-/
import SomeServer.Ipc.Connections

namespace SomeServer

open Lib

/-- Two members have different keys. -/
theorem makeProcessKey_injective : Function.Injective makeProcessKey := by
  intro id id' h
  have hnat : ∀ id : ProcessId, (makeProcessKey id).toNat =
      id.serviceType.toNat * 2 ^ 32 + id.instanceId.toNat := by
    intro id
    have hservice := id.serviceType.toNat_lt
    have hinstance := id.instanceId.toNat_lt
    show (id.serviceType.toUInt64 <<< 32 ||| id.instanceId.toUInt64).toNat = _
    rw [UInt64.toNat_or, UInt64.toNat_shiftLeft, UInt32.toNat_toUInt64, UInt32.toNat_toUInt64]
    show (id.serviceType.toNat <<< 32 % 2 ^ 64) ||| id.instanceId.toNat = _
    have hlt : id.serviceType.toNat <<< 32 < 2 ^ 64 := by
      rw [Nat.shiftLeft_eq]
      omega
    rw [Nat.mod_eq_of_lt hlt, ← Nat.shiftLeft_add_eq_or_of_lt hinstance, Nat.shiftLeft_eq]
  have heq := (hnat id).symm.trans ((congrArg UInt64.toNat h).trans (hnat id'))
  have hinstance := id.instanceId.toNat_lt
  have hinstance' := id'.instanceId.toNat_lt
  obtain ⟨serviceType, instanceId⟩ := id
  obtain ⟨serviceType', instanceId'⟩ := id'
  have hs : serviceType.toNat = serviceType'.toNat := by
    dsimp only at heq hinstance hinstance'
    omega
  have hi : instanceId.toNat = instanceId'.toNat := by
    dsimp only at heq hinstance hinstance'
    omega
  rw [UInt32.toNat_inj.mp hs, UInt32.toNat_inj.mp hi]

variable {A : Type} [DecidableEq A]

namespace IpcNode

/-- There is a connection that was dialled to the member. -/
def DialledTo (s : IpcNode A) (id : ProcessId) : Prop :=
  ∃ d connection, s.connections.get d = some connection ∧ connection.dialled = some id

/-- There is a connection that was dialled to the member, or whose link names it. -/
def ConnectedTo (s : IpcNode A) (m : LinkManager) (id : ProcessId) : Prop :=
  ∃ d connection, s.connections.get d = some connection ∧ (connection.dialled = some id ∨
    ∃ link, m.links.get d = some link ∧ link.remoteProcess.processId = id)

/-- A listed member that the policy wants, and that there is no connection to, is dialled by the next
`TryAutoConnectMember` if IPC is active. -/
def Redials (role : NodeRole) (s : IpcNode A) : Prop :=
  ∀ self m order member, s.self = some self → s.transport = true → s.linkManager = some m →
    s.isIpcActive = true → member ∈ s.members.members → role.wants self member (m.linkTable order) = true →
    ¬ConnectedTo s m member.process.processId → s.dials role order member = true

/-- No connection breaks that was dialled to a member which is remembered, or about to be, unless another one
was dialled to it. -/
def Lasting (c : NodeCrew A) : Move (NodeThread A) NodeOp NodeInput → Prop
  | .start _ _ => True
  | .act t _ => ∀ d rest connection id, c.tasks t = .handleDisconnect d :: rest →
      c.shared.connections.get d = some connection → connection.dialled = some id →
      (c.shared.attempts (makeProcessKey id) = false ∧ ¬c.Pending (· = .recordSuccess id)) ∨
        ∃ d' connection', d' ≠ d ∧ c.shared.connections.get d' = some connection' ∧
          connection'.dialled = some id

/-! ### What a task does to connections and attempts -/

variable {cfg : NodeConfig} {free : NodeThread A → Bool} {t : NodeThread A} {i : NodeInput} {s : IpcNode A}
  {k : NodeTask} {rest : List NodeTask} {p : Performed (NodeThread A) NodeTask (IpcNode A)} {id : ProcessId}
  {guard : NodeCrew A → Move (NodeThread A) NodeOp NodeInput → Prop} {c c₀ : NodeCrew A}

theorem perform_connections (h : k.perform cfg free t i s = some p)
    (hadd : ∀ dialled recorded, k ≠ .addConnection dialled recorded) (hstore : ∀ d, k ≠ .storeReader d)
    (hdisconnect : ∀ d, k ≠ .handleDisconnect d) (hshutdown : k ≠ .shutdown) :
    p.shared.connections = s.connections := by
  cases k with
  | addConnection dialled recorded => exact absurd rfl (hadd dialled recorded)
  | storeReader d => exact absurd rfl (hstore d)
  | handleDisconnect d => exact absurd rfl (hdisconnect d)
  | shutdown => exact absurd rfl hshutdown
  | _ =>
      simp only [NodeTask.perform] at h
      (repeat' split at h) <;> first
        | (obtain rfl := Option.some.inj h; rfl)
        | contradiction

/-- What is remembered was so, or is the success that is recorded. -/
theorem perform_attempts {key : UInt64} (h : k.perform cfg free t i s = some p)
    (hkey : p.shared.attempts key = true) :
    s.attempts key = true ∨ ∃ id, k = .recordSuccess id ∧ key = makeProcessKey id := by
  cases k with
  | recordSuccess id =>
      obtain rfl := Option.some.inj h
      by_cases heq : key = makeProcessKey id
      · exact .inr ⟨id, rfl, heq⟩
      · exact .inl ((Function.update_of_ne heq _ _).symm.trans hkey)
  | forgetAttempt id =>
      obtain rfl := Option.some.inj h
      by_cases heq : key = makeProcessKey id
      · subst heq
        have hfalse : Function.update s.attempts (makeProcessKey id) false (makeProcessKey id) = true := hkey
        rw [Function.update_self] at hfalse
        cases hfalse
      · exact .inl ((Function.update_of_ne heq _ _).symm.trans hkey)
  | handleDiscoveryFailure =>
      obtain rfl := Option.some.inj h
      cases hkey
  | teardown =>
      obtain rfl := Option.some.inj h
      cases hkey
  | _ =>
      simp only [NodeTask.perform] at h
      (repeat' split at h) <;> first
        | (obtain rfl := Option.some.inj h; exact .inl hkey)
        | contradiction

/-- A success that is recorded is the one of a connection that is made. -/
theorem perform_recordSuccess (h : k.perform cfg free t i s = some p) (hk : .recordSuccess id ∈ p.tasks) :
    k = .addConnection (some id) true := by
  cases k with
  | addConnection dialled recorded =>
      simp only [NodeTask.perform] at h
      split at h
      · cases h
      · obtain rfl := Option.some.inj h
        cases recorded with
        | false => simp at hk
        | true =>
            cases dialled with
            | none => simp at hk
            | some id' =>
                simp only [if_true, Option.toList_some, List.map_cons, List.map_nil, List.mem_append, List.mem_cons,
                  List.not_mem_nil, or_false, reduceCtorEq, false_or, NodeTask.recordSuccess.injEq] at hk
                rw [hk]
  | dispatch target envelope =>
      obtain rfl := Option.some.inj h
      cases NodeOp.flatMap_tasks_inner hk
  | takeEvents =>
      obtain rfl := Option.some.inj h
      cases MembershipEvent.flatMap_tasks_inner hk
  | _ =>
      exfalso
      simp only [NodeTask.perform] at h
      (repeat' split at h) <;> first
        | (obtain rfl := Option.some.inj h; first | grind | simp at hk)
        | contradiction

/-! ### What is remembered -/

/-- Whoever is remembered, or about to be, has a connection that was dialled to it. -/
structure Remembered (c : NodeCrew A) : Prop where
  ids : ∀ d, c.shared.connections.get d ≠ none → d.toNat < c.shared.nextConnectionId
  attempted : c.shared.transport = true → ∀ id, c.shared.attempts (makeProcessKey id) = true → c.shared.DialledTo id
  recording : c.shared.transport = true → ∀ id, c.Pending (· = .recordSuccess id) → c.shared.DialledTo id

section Step

variable (hapart : ReadersApart c) (h : Remembered c) (ht : c.tasks t = k :: rest)
  (hp : k.perform cfg c.free t i c.shared = some p)

include ht hp

/-- A success that is to be recorded was to be so before, or comes from the step. -/
theorem recording_before (hpending : (c.after t rest p).Pending (· = .recordSuccess id)) :
    c.Pending (· = .recordSuccess id) ∨ k = .addConnection (some id) true := by
  rcases Crew.pending_of_after ht hpending with hold | ⟨k', hk', rfl⟩ | ⟨u, first, hfirst, k', hin, rfl⟩
  · exact .inl hold
  · exact .inr (perform_recordSuccess hp hk')
  · obtain ⟨-, rfl⟩ := started_reads hp hfirst
    cases List.mem_singleton.mp hin

include h

/-- A step keeps what is remembered if connections outlast it, but for those of members that nothing
remembers. -/
theorem Remembered.step (hids : ∀ d, p.shared.connections.get d ≠ none → d.toNat < p.shared.nextConnectionId)
    (hlast : p.shared.transport = true → ∀ id, c.shared.DialledTo id →
      (c.shared.attempts (makeProcessKey id) = true ∨ c.Pending (· = .recordSuccess id)) → p.shared.DialledTo id)
    (hadded : ∀ id, k = .addConnection (some id) true → p.shared.DialledTo id) :
    Remembered (c.after t rest p) := by
  have htransport : p.shared.transport = true → c.shared.transport = true := by
    intro hup
    by_contra hdown
    rw [perform_transport hp (Bool.not_eq_true _ ▸ hdown)] at hup
    cases hup
  constructor
  · exact hids
  · intro hup id hkey
    rcases perform_attempts hp hkey with hbefore | ⟨id', rfl, hsame⟩
    · exact hlast hup id (h.attempted (htransport hup) id hbefore) (.inl hbefore)
    · obtain rfl := makeProcessKey_injective hsame
      have hpending : c.Pending (· = .recordSuccess id) := ⟨t, _, by rw [ht]; exact List.mem_cons_self, rfl⟩
      exact hlast hup id (h.recording (htransport hup) id hpending) (.inr hpending)
  · intro hup id hpending
    rcases recording_before ht hp hpending with hbefore | hnew
    · exact hlast hup id (h.recording (htransport hup) id hbefore) (.inr hbefore)
    · exact hadded id hnew

/-- A step that leaves the connections as they are. -/
theorem Remembered.still (hsame : p.shared.connections = c.shared.connections)
    (hadd : ∀ dialled recorded, k ≠ .addConnection dialled recorded) : Remembered (c.after t rest p) := by
  apply h.step ht hp
  · intro d hd
    rw [hsame] at hd
    rcases perform_started hp with ⟨-, hnext⟩ | ⟨-, hnext, -⟩
    · rw [hnext]
      exact h.ids d hd
    · rw [hnext]
      exact Nat.lt_succ_of_lt (h.ids d hd)
  · rintro - id ⟨d, connection, hd, hdialled⟩ -
    exact ⟨d, connection, by rw [hsame]; exact hd, hdialled⟩
  · intro id hk
    exact absurd hk (hadd _ _)

end Step

theorem Remembered.act_addConnection {dialled : Option ProcessId} {recorded : Bool} (h : Remembered c)
    (ht : c.tasks t = .addConnection dialled recorded :: rest)
    (hp : (NodeTask.addConnection dialled recorded).perform cfg c.free t i c.shared = some p) :
    Remembered (c.after t rest p) := by
  have hp' := hp
  simp only [NodeTask.perform] at hp'
  split at hp'
  · cases hp'
  · rename_i hids
    obtain rfl := Option.some.inj hp'
    have hnewId := newId_toNat (Bool.not_eq_true _ ▸ hids)
    apply h.step ht hp
    · intro d hd
      show d.toNat < c.shared.nextConnectionId + 1
      by_cases heq : d = c.shared.newId
      · rw [heq, hnewId]
        exact Nat.lt_succ_self _
      · rw [Table.set_get_of_ne heq] at hd
        exact Nat.lt_succ_of_lt (h.ids d hd)
    · rintro - id ⟨d, connection, hd, hdialled⟩ -
      -- An id is not given twice.
      have hne : d ≠ c.shared.newId := by
        rintro rfl
        have hlt := h.ids c.shared.newId (by simp [hd])
        rw [hnewId] at hlt
        exact Nat.lt_irrefl _ hlt
      exact ⟨d, connection, (Table.set_get_of_ne hne).trans hd, hdialled⟩
    · rintro id ⟨⟩
      exact ⟨c.shared.newId, _, Table.set_get_self, rfl⟩

theorem Remembered.act_storeReader {d : ConnectionId} (h : Remembered c) (ht : c.tasks t = .storeReader d :: rest)
    (hp : (NodeTask.storeReader d).perform cfg c.free t i c.shared = some p) : Remembered (c.after t rest p) := by
  have hp' := hp
  simp only [NodeTask.perform] at hp'
  split at hp'
  · obtain rfl := Option.some.inj hp'
    exact h.still ht hp rfl (by simp)
  · rename_i connection hd
    obtain rfl := Option.some.inj hp'
    apply h.step ht hp
    · intro d' hd'
      by_cases heq : d' = d
      · subst heq
        exact h.ids d' (by simp [hd])
      · rw [Table.set_get_of_ne heq] at hd'
        exact h.ids d' hd'
    · rintro - id ⟨d', connection', hd', hdialled⟩ -
      by_cases heq : d' = d
      · subst heq
        rw [hd] at hd'
        cases hd'
        exact ⟨d', _, Table.set_get_self, hdialled⟩
      · exact ⟨d', connection', (Table.set_get_of_ne heq).trans hd', hdialled⟩
    · simp

theorem Remembered.act_handleDisconnect {d : ConnectionId} (h : Remembered c)
    (ht : c.tasks t = .handleDisconnect d :: rest)
    (hp : (NodeTask.handleDisconnect d).perform cfg c.free t i c.shared = some p)
    (hlasting : Lasting c (.act t i)) : Remembered (c.after t rest p) := by
  have hp' := hp
  simp only [NodeTask.perform] at hp'
  split at hp'
  · obtain rfl := Option.some.inj hp'
    exact h.still ht hp rfl (by simp)
  · rename_i connection hd
    obtain rfl := Option.some.inj hp'
    apply h.step ht hp
    · intro d' hd'
      have hne : d' ≠ d := by
        rintro rfl
        exact hd' Table.erase_get_self
      rw [Table.erase_get_of_ne hne] at hd'
      exact h.ids d' hd'
    · rintro - id ⟨d', connection', hd', hdialled⟩ hremembered
      by_cases heq : d' = d
      · subst heq
        rw [hd] at hd'
        cases hd'
        rcases hlasting d' rest connection id ht hd hdialled with ⟨hforgotten, hnot⟩ | ⟨d₁, connection₁, hne, hd₁, h₁⟩
        · rcases hremembered with hattempted | hpending
          · rw [hforgotten] at hattempted
            cases hattempted
          · exact absurd hpending hnot
        · exact ⟨d₁, connection₁, (Table.erase_get_of_ne hne).trans hd₁, h₁⟩
      · exact ⟨d', connection', (Table.erase_get_of_ne heq).trans hd', hdialled⟩
    · simp

theorem Remembered.act (hapart : ReadersApart c) (h : Remembered c) (ht : c.tasks t = k :: rest)
    (hp : k.perform cfg c.free t i c.shared = some p) (hlasting : Lasting c (.act t i)) :
    Remembered (c.after t rest p) := by
  cases k with
  | addConnection dialled recorded => exact h.act_addConnection ht hp
  | storeReader d => exact h.act_storeReader ht hp
  | handleDisconnect d => exact h.act_handleDisconnect ht hp hlasting
  | shutdown =>
      have hgone := (hapart.gone ⟨t, .shutdown, by rw [ht]; exact List.mem_cons_self, rfl⟩).2
      have hdown := perform_transport hp hgone
      have hp' := hp
      simp only [NodeTask.perform] at hp'
      split at hp'
      · cases hp'
      · obtain rfl := Option.some.inj hp'
        apply h.step ht hp
        · intro d hd
          exact absurd rfl hd
        · intro hup
          rw [hdown] at hup
          cases hup
        · simp
  | _ => exact h.still ht hp (perform_connections hp (by simp) (by simp) (by simp) (by simp)) (by simp)

/-- If connections last as long as they are remembered, lost members are dialled again. -/
theorem lost_redialled (cfg : NodeConfig) (c₀ c : NodeCrew A) (h₀ : Started c₀)
    (h : Crew.Run (nodeWork A cfg) Lasting c₀ c) : Redials cfg.role c.shared := by
  have hboth : ReadersApart c ∧ Remembered c := by
    refine node_invariant (I := fun c => ReadersApart c ∧ Remembered c) ⟨ReadersApart.initial h₀, ?_⟩ ?_ ?_ h
    · constructor
      · intro d hd
        rw [h₀.connections] at hd
        exact absurd rfl hd
      · intro _ id hkey
        rw [h₀.attempts] at hkey
        cases hkey
      · rintro - id ⟨u, k, hk, rfl⟩
        cases h₀.mem hk
    · intro c a o hc hidle
      refine ⟨hc.1.start, hc.2.ids, hc.2.attempted, ?_⟩
      intro hup id hpending
      rcases Crew.pending_of_begun hpending with hold | ⟨k', hk', rfl⟩
      · exact hc.2.recording hup id hold
      · cases NodeOp.tasks_inner hk'
    · intro c t k rest i p hc hlasting ht _ hp
      exact ⟨hc.1.act ht hp, hc.2.act hc.1 ht hp hlasting⟩
  intro self m order member hself hup hm hactive hmember hwants hlost
  have hforgotten : c.shared.attempts (makeProcessKey member.process.processId) = false := by
    by_contra hattempted
    obtain ⟨d, connection, hd, hdialled⟩ := hboth.2.attempted hup _ (Bool.not_eq_false _ ▸ hattempted)
    exact hlost ⟨d, connection, hd, .inl hdialled⟩
  simp [dials, hself, hup, hm, hactive, hwants, hforgotten]

/-! ### A relay that is lost -/

def relayMember : ProcessDescriptor := ⟨⟨⟨99, 1⟩, 1⟩, []⟩

/-- A game that sees a relay. -/
def gameSeeingRelay : NodeCrew Unit := loaded ⟨⟨10, 1⟩, 1⟩ ⟨[relayMember, ⟨⟨⟨10, 1⟩, 1⟩, []⟩], by decide⟩

/-- The game dials the relay. -/
def relayDialled : List (Move (NodeThread Unit) NodeOp NodeInput) :=
  [.start (.caller ()) (.tryAutoConnectMember relayMember)] ++ List.replicate 9 (.act (.caller ()) {})

/-- The connection breaks. -/
def relayLost : List (Move (NodeThread Unit) NodeOp NodeInput) := List.replicate 6 (.act (.reader 1) {})

/-- `Lasting`, as far as it shows without a look at what is remembered. -/
def lasting? (c : NodeCrew Unit) : Move (NodeThread Unit) NodeOp NodeInput → Bool
  | .start _ _ => true
  | .act t _ =>
      match c.tasks t with
      | .handleDisconnect d :: _ => (c.shared.connections.get d).all fun connection => connection.dialled.isNone
      | _ => true

theorem lasting_of {c : NodeCrew Unit} {m : Move (NodeThread Unit) NodeOp NodeInput} (h : lasting? c m = true) :
    Lasting c m := by
  cases m with
  | start t o => trivial
  | act t i =>
      intro d rest connection id ht hd hdialled
      simp [lasting?, ht, hd, hdialled] at h

/-- The connect to the relay fails. -/
def relayUnreached : List (Move (NodeThread Unit) NodeOp NodeInput) :=
  [.start (.caller ()) (.tryAutoConnectMember relayMember), .act (.caller ()) {}, .act (.caller ()) { ok := false },
    .act (.caller ()) {}]

/-- A relay that was not reached is dialled again. -/
theorem unreached_redialled : ∃ c : NodeCrew Unit, Crew.Run (nodeWork Unit gameConfig) Lasting gameSeeingRelay c ∧
    c.tasks (.caller ()) = [] ∧ c.shared.dials .game [] relayMember = true := by
  have hplay : (gameSeeingRelay.play (nodeWork Unit gameConfig) lasting? relayUnreached).map
      (fun c => (c.tasks (.caller ()), c.shared.self, c.shared.transport,
        c.shared.linkManager.map fun m => m.linkTable [], c.shared.isIpcActive, c.shared.members.members)) =
      some ([], some ⟨⟨10, 1⟩, 1⟩, true, some [], true, [relayMember, ⟨⟨⟨10, 1⟩, 1⟩, []⟩]) := rfl
  have hnone : (gameSeeingRelay.play (nodeWork Unit gameConfig) lasting? relayUnreached).map
      (fun c => c.shared.connections.keys) = some [] := rfl
  obtain ⟨c, hc, hfacts⟩ := Option.map_eq_some_iff.mp hplay
  rw [hc] at hnone
  simp only [Prod.mk.injEq, Option.map_some, Option.some.injEq] at hfacts hnone
  obtain ⟨htasks, hself, hup, hlinks, hactive, hmembers⟩ := hfacts
  obtain ⟨m, hm, htable⟩ := Option.map_eq_some_iff.mp hlinks
  have hrun := Crew.Run.play (fun _ _ => lasting_of) Crew.Run.refl hc
  have hlost : ¬ConnectedTo c.shared m relayMember.process.processId := by
    rintro ⟨d, connection, hd, -⟩
    have hmem := c.shared.connections.complete d (by rw [hd]; rfl)
    rw [hnone] at hmem
    cases hmem
  have hwants : NodeRole.game.wants ⟨⟨10, 1⟩, 1⟩ relayMember (m.linkTable []) = true := by
    rw [htable]
    rfl
  exact ⟨c, hrun, htasks, lost_redialled gameConfig gameSeeingRelay c (loaded_started _ _) hrun ⟨⟨10, 1⟩, 1⟩ m []
    relayMember hself hup hm hactive (by rw [hmembers]; exact List.mem_cons_self) hwants hlost⟩

/-- A relay whose connection breaks is not dialled again. -/
theorem lost_not_redialled : ¬∀ (cfg : NodeConfig) (c₀ c : NodeCrew Unit), Started c₀ →
    Crew.Run (nodeWork Unit cfg) (fun _ _ => True) c₀ c → Redials cfg.role c.shared := by
  intro h
  have hplay : (gameSeeingRelay.play (nodeWork Unit gameConfig) (fun _ _ => true) (relayDialled ++ relayLost)).map
      (fun c => (c.shared.self, c.shared.transport, c.shared.linkManager.map fun m => m.linkTable [1],
        c.shared.isIpcActive, c.shared.members.members)) =
      some (some ⟨⟨10, 1⟩, 1⟩, true, some [], true, [relayMember, ⟨⟨⟨10, 1⟩, 1⟩, []⟩]) := rfl
  have hgone : (gameSeeingRelay.play (nodeWork Unit gameConfig) (fun _ _ => true) (relayDialled ++ relayLost)).map
      (fun c => (c.shared.connections.keys, c.shared.connections.get 1, c.shared.dials .game [1] relayMember)) =
      some ([1, 1], none, false) := rfl
  obtain ⟨c, hc, hfacts⟩ := Option.map_eq_some_iff.mp hplay
  rw [hc] at hgone
  simp only [Prod.mk.injEq, Option.map_some, Option.some.injEq] at hfacts hgone
  obtain ⟨hself, hup, hlinks, hactive, hmembers⟩ := hfacts
  obtain ⟨hkeys, hget, hdials⟩ := hgone
  obtain ⟨m, hm, htable⟩ := Option.map_eq_some_iff.mp hlinks
  have hrun : Crew.Run (nodeWork Unit gameConfig) (fun _ _ => True) gameSeeingRelay c :=
    Crew.Run.play (fun _ _ _ => trivial) Crew.Run.refl hc
  have hlost : ¬ConnectedTo c.shared m relayMember.process.processId := by
    rintro ⟨d, connection, hd, -⟩
    have hmem := c.shared.connections.complete d (by rw [hd]; rfl)
    rw [hkeys] at hmem
    have hone : d = 1 := by simpa using hmem
    rw [hone, hget] at hd
    cases hd
  have hredials := h gameConfig gameSeeingRelay c (loaded_started _ _) hrun ⟨⟨10, 1⟩, 1⟩ m [1] relayMember hself hup hm
    hactive (by rw [hmembers]; exact List.mem_cons_self) (by rw [htable]; rfl) hlost
  have hdials' : c.shared.dials gameConfig.role [1] relayMember = false := hdials
  rw [hdials'] at hredials
  cases hredials

end IpcNode

end SomeServer
