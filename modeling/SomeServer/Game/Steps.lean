/-
# SomeServer.Game.Steps — what a section can do to each service

Inversion lemmas for `GameProcess.exec`: from the fact that a section was executed, everything that
can have happened to one service's state. Invariants are proved from these, so that only this module
knows how the sections are implemented.
-/
import SomeServer.Game.Calls

namespace SomeServer

variable {T : Type}

/-! ## The lease service -/

namespace PlayerLeaseService

/-- `Acquire` leaves the entry of a player alone, or has just written its own. -/
theorem acquire_cases (cfg : GameConfiguration) (env : Env) (q p : PlayerId)
    (s : PlayerLeaseService T) :
    (s.acquire cfg env q).1.leases p = s.leases p ∨
      (q = p ∧ s.redis = true ∧ s.leases p = none ∧ env.redis = .status "OK" ∧
        (s.acquire cfg env q).1.leases p = some (leaseOwner cfg p env.nowMs)) := by
  unfold acquire
  by_cases hr : s.redis = true
  · by_cases hh : s.isHeldLocally q = true
    · left; simp [hr, hh]
    · by_cases ha : env.redis = .status "OK"
      · by_cases hq : q = p
        · subst hq
          have hnone : s.leases q = none := by simpa [isHeldLocally] using hh
          exact .inr ⟨rfl, hr, hnone, ha, by simp [hr, hh, ha, acquired]⟩
        · left
          simp [hr, hh, ha, acquired, Function.update_of_ne (Ne.symm hq)]
      · left
        have hna : acquired env.redis = false := by simpa [acquired] using ha
        simp only [hr, hh, Bool.not_true, Bool.false_eq_true, if_false]
        split
        · rfl
        · simp [hna]
  · left; simp [hr]

theorem release_leases (q p : PlayerId) (s : PlayerLeaseService T) :
    (s.release q).1.leases p = if p = q then none else s.leases p := by
  unfold release isHeldLocally
  by_cases hh : (s.leases q).isSome
  · by_cases hp : p = q <;> simp [hh, hp]
  · by_cases hp : p = q
    · subst hp
      have hnone : s.leases p = none := by simpa using hh
      simp [hnone]
    · simp [hh, hp]

/-- `Acquire` touches nothing but the entries. -/
theorem acquire_frame (cfg : GameConfiguration) (env : Env) (q : PlayerId) (s : PlayerLeaseService T) :
    (s.acquire cfg env q).1.mutex = s.mutex ∧ (s.acquire cfg env q).1.redis = s.redis := by
  unfold acquire
  split
  · exact ⟨rfl, rfl⟩
  · split
    · exact ⟨rfl, rfl⟩
    · split
      · exact ⟨rfl, rfl⟩
      · split <;> exact ⟨rfl, rfl⟩

theorem release_frame (q : PlayerId) (s : PlayerLeaseService T) :
    (s.release q).1.mutex = s.mutex ∧ (s.release q).1.redis = s.redis := by
  unfold release
  split <;> exact ⟨rfl, rfl⟩

/-- A section of the lease service leaves a tracked lease alone, drops it, or has just acquired it. -/
theorem exec_cases {cfg : GameConfiguration} {t : T} {env : Env} {s s' : PlayerLeaseService T}
    {a : LeaseAct} {r : a.Reply} (h : s.exec cfg t env a = some (s', r)) (p : PlayerId) :
    s'.leases p = s.leases p ∨ s'.leases p = none ∨
      (a = .acquire p ∧ s.redis = true ∧ s.leases p = none ∧ env.redis = .status "OK" ∧
        s'.leases p = some (leaseOwner cfg p env.nowMs)) := by
  cases a with
  | acquire q =>
      simp only [exec, Option.ite_none_left_eq_some, Option.some.injEq, Prod.ext_iff] at h
      obtain ⟨-, rfl, -⟩ := h
      rcases acquire_cases cfg env q p s with hc | ⟨rfl, hc⟩
      · exact .inl hc
      · exact .inr (.inr ⟨rfl, hc⟩)
  | release q =>
      simp only [exec, Option.ite_none_left_eq_some, Option.some.injEq, Prod.ext_iff] at h
      obtain ⟨-, rfl, -⟩ := h
      rw [release_leases]
      split
      · exact .inr (.inl rfl)
      · exact .inl rfl
  | isHeldLocally q =>
      simp only [exec, Option.ite_none_left_eq_some, Option.some.injEq, Prod.ext_iff] at h
      obtain ⟨-, rfl, -⟩ := h
      exact .inl rfl
  | renewEnter order =>
      simp only [exec, Option.ite_none_left_eq_some, Option.some.injEq, Prod.ext_iff] at h
      obtain ⟨-, rfl, -⟩ := h
      exact .inl rfl
  | refresh q owner =>
      simp only [exec, Option.some.injEq, Prod.ext_iff] at h
      obtain ⟨rfl, -⟩ := h
      exact .inl rfl
  | renewLeave lost =>
      simp only [exec, Option.some.injEq, Prod.ext_iff] at h
      obtain ⟨rfl, -⟩ := h
      by_cases hp : p ∈ lost
      · exact .inr (.inl (by simp [erase, hp]))
      · exact .inl (by simp [erase, hp])

theorem exec_redis {cfg : GameConfiguration} {t : T} {env : Env} {s s' : PlayerLeaseService T}
    {a : LeaseAct} {r : a.Reply} (h : s.exec cfg t env a = some (s', r)) : s'.redis = s.redis := by
  cases a with
  | acquire q =>
      simp only [exec, Option.ite_none_left_eq_some, Option.some.injEq, Prod.ext_iff] at h
      rw [← h.2.1]
      exact (acquire_frame cfg env q s).2
  | release q =>
      simp only [exec, Option.ite_none_left_eq_some, Option.some.injEq, Prod.ext_iff] at h
      rw [← h.2.1]
      exact (release_frame q s).2
  | isHeldLocally q | renewEnter order =>
      simp only [exec, Option.ite_none_left_eq_some, Option.some.injEq, Prod.ext_iff] at h
      rw [← h.2.1]
  | refresh q owner =>
      simp only [exec, Option.some.injEq, Prod.ext_iff] at h
      rw [← h.1]
  | renewLeave lost =>
      simp only [exec, Option.some.injEq, Prod.ext_iff] at h
      rw [← h.1]
      rfl

end PlayerLeaseService

namespace GameProcess

variable {cfg : GameConfiguration} {t : T} {env : Env} {s s' : GameProcess T}

/-! ## Frames: the services a section can reach -/

theorem exec_clock {r : UInt64} (h : s.exec cfg t env .clock = some (s', r)) :
    s' = s ∧ r = env.nowMs := by
  simp only [exec, Option.some.injEq, Prod.mk.injEq] at h
  exact ⟨h.1.symm, h.2.symm⟩

theorem exec_storage {a : StorageAct} {r : a.Reply}
    (h : s.exec cfg t env (.storage a) = some (s', r)) : s' = s ∧ r = a.answer env := by
  simp only [exec, Option.some.injEq, Prod.mk.injEq] at h
  exact ⟨h.1.symm, h.2.symm⟩

theorem exec_directory {a : DirectoryAct} {r : a.Reply}
    (h : s.exec cfg t env (.directory a) = some (s', r)) :
    ∃ d, s.directory.exec t env a = some (d, r) ∧ s' = { s with directory := d } := by
  simp only [exec, Option.map_eq_some_iff, Prod.mk.injEq] at h
  obtain ⟨⟨d, r'⟩, hx, rfl, rfl⟩ := h
  exact ⟨d, hx, rfl⟩

theorem exec_lease {a : LeaseAct} {r : a.Reply} (h : s.exec cfg t env (.lease a) = some (s', r)) :
    ∃ l, s.lease.exec cfg t env a = some (l, r) ∧ s' = { s with lease := l } := by
  simp only [exec, Option.map_eq_some_iff, Prod.mk.injEq] at h
  obtain ⟨⟨l, r'⟩, hx, rfl, rfl⟩ := h
  exact ⟨l, hx, rfl⟩

theorem exec_repository {a : RepositoryAct} {r : a.Reply}
    (h : s.exec cfg t env (.repository a) = some (s', r)) :
    ∃ m, s.repository.exec t env a = some (m, r) ∧ s' = { s with repository := m } := by
  simp only [exec, Option.map_eq_some_iff, Prod.mk.injEq] at h
  obtain ⟨⟨m, r'⟩, hx, rfl, rfl⟩ := h
  exact ⟨m, hx, rfl⟩

theorem exec_ipc {a : IpcAct} {r : a.Reply} (h : s.exec cfg t env (.ipc a) = some (s', r)) :
    ∃ m, s.ipc.exec cfg env a = some (m, r) ∧ s' = { s with ipc := m } := by
  simp only [exec, Option.map_eq_some_iff, Prod.mk.injEq] at h
  obtain ⟨⟨m, r'⟩, hx, rfl, rfl⟩ := h
  exact ⟨m, hx, rfl⟩

theorem exec_persistence {a : PersistenceAct} {r : a.Reply}
    (h : s.exec cfg t env (.persistence a) = some (s', r)) :
    ∃ m, s.persistence.exec cfg a = some (m, r) ∧ s' = { s with persistence := m } := by
  simp only [exec, Option.map_eq_some_iff, Prod.mk.injEq] at h
  obtain ⟨⟨m, r'⟩, hx, rfl, rfl⟩ := h
  exact ⟨m, hx, rfl⟩

/-- The runtime's own map and, for a rename, the repository. -/
theorem exec_runtime {a : RuntimeAct} {r : a.Reply}
    (h : s.exec cfg t env (.runtime a) = some (s', r)) :
    ∃ m rt, s' = { s with repository := m, runtime := rt } := by
  cases a with
  | emplace p =>
      simp only [exec, execRuntime, Option.some.injEq, Prod.mk.injEq] at h
      exact ⟨_, _, h.1.symm⟩
  | removePlayer p =>
      simp only [exec, execRuntime] at h
      split at h <;> simp only [Option.some.injEq, Prod.mk.injEq] at h <;>
        exact ⟨_, _, h.1.symm⟩
  | handleRename p displayName =>
      simp only [exec, execRuntime, Option.ite_none_left_eq_some, Option.some.injEq,
        Prod.ext_iff] at h
      obtain ⟨-, rfl, -⟩ := h
      unfold handleRename
      split
      · exact ⟨_, _, rfl⟩
      · split
        · exact ⟨_, _, rfl⟩
        · dsimp only
          split <;> exact ⟨_, _, rfl⟩
  | handleEcho p =>
      simp only [exec, execRuntime, Option.ite_none_left_eq_some, Option.some.injEq,
        Prod.ext_iff] at h
      obtain ⟨-, rfl, -⟩ := h
      unfold handleEcho
      split
      · exact ⟨_, _, rfl⟩
      · split <;> exact ⟨_, _, rfl⟩

/-- A runtime section leaves the repository alone, or renames its player there. -/
theorem exec_runtime_repository {a : RuntimeAct} {r : a.Reply}
    (h : s.exec cfg t env (.runtime a) = some (s', r)) :
    s'.repository = s.repository ∨ ∃ p displayName, a = .handleRename p displayName ∧
      s'.repository = (s.repository.setDisplayName displayName env.nowMs p).1 := by
  cases a with
  | emplace p =>
      simp only [exec, execRuntime, Option.some.injEq, Prod.mk.injEq] at h
      exact .inl (by rw [← h.1])
  | removePlayer p =>
      simp only [exec, execRuntime] at h
      split at h <;> simp only [Option.some.injEq, Prod.mk.injEq] at h <;>
        exact .inl (by rw [← h.1])
  | handleRename p displayName =>
      simp only [exec, execRuntime, Option.ite_none_left_eq_some, Option.some.injEq,
        Prod.ext_iff] at h
      obtain ⟨-, rfl, -⟩ := h
      unfold handleRename
      split
      · exact .inl rfl
      · split
        · exact .inl rfl
        · dsimp only
          split <;> exact .inr ⟨p, displayName, rfl, rfl⟩
  | handleEcho p =>
      simp only [exec, execRuntime, Option.ite_none_left_eq_some, Option.some.injEq,
        Prod.ext_iff] at h
      obtain ⟨-, rfl, -⟩ := h
      unfold handleEcho
      split
      · exact .inl rfl
      · split <;> exact .inl rfl

/-- The session map and, at the end of a failed lease recovery, the lease of that player. -/
theorem exec_session {a : SessionAct} {r : a.Reply}
    (h : s.exec cfg t env (.session a) = some (s', r)) :
    ∃ m, s' = { s with sessions := m } ∨
      ∃ p gate, a = .activateResume p gate ∧ s.asksLease p = false ∧
        s' = { s with sessions := m, lease := (s.lease.release p).1 } := by
  cases a with
  | activateResume p gate =>
      simp only [exec, execSession, Option.ite_none_left_eq_some, Option.some.injEq,
        Prod.ext_iff] at h
      obtain ⟨-, rfl, -⟩ := h
      unfold activateResume
      dsimp only
      split
      · exact ⟨_, .inl rfl⟩
      · rename_i hfail
        refine ⟨s.sessions, .inr ⟨p, gate, rfl, ?_, rfl⟩⟩
        unfold PlayerSessions.activateResume at hfail
        unfold asksLease
        cases hp : s.sessions p with
        | none => rfl
        | some record =>
          by_cases hpr : record.state.present = true
          · simp [hp, hpr] at hfail
          · simpa using hpr
  | activateEnter p gate | lostPlayers order | reconcileLost action now =>
      simp only [exec, execSession, Option.ite_none_left_eq_some, Option.some.injEq,
        Prod.ext_iff] at h
      exact ⟨_, .inl h.2.1.symm⟩
  | activateInsert p gate | detach p | detachFrom p gate | releaseEnter p | releaseRestore p record
  | releaseErase p | expiredPlayers order now | snapshot p =>
      simp only [exec, execSession, Option.some.injEq, Prod.mk.injEq] at h
      exact ⟨_, .inl h.1.symm⟩

/-! ## Replies -/

theorem isHeldLocally_reply {p : PlayerId} {r : Bool}
    (h : s.exec cfg t env (.lease (.isHeldLocally p)) = some (s', r)) : r = s.isHeldLocally p := by
  obtain ⟨l, hx, -⟩ := exec_lease h
  simp only [PlayerLeaseService.exec, Option.ite_none_left_eq_some, Option.some.injEq,
    Prod.mk.injEq] at hx
  exact hx.2.2.symm

theorem snapshot_reply {p : PlayerId} {r : Option PlayerRepositoryRecord}
    (h : s.exec cfg t env (.repository (.snapshot p)) = some (s', r)) :
    r = s.repository.players p := by
  obtain ⟨m, hx, -⟩ := exec_repository h
  simp only [PlayerRepository.exec, Option.ite_none_left_eq_some, Option.some.injEq,
    Prod.mk.injEq] at hx
  exact hx.2.2.symm

/-! ## What no other section reaches -/

/-- Only its own sections reach the directory. -/
theorem exec_directory_frame {a : Act} {r : a.Reply} (ha : ∀ d : DirectoryAct, a ≠ .directory d)
    (h : s.exec cfg t env a = some (s', r)) : s'.directory = s.directory := by
  cases a with
  | directory d => exact absurd rfl (ha d)
  | session a => obtain ⟨m, rfl | ⟨q, gate, -, -, rfl⟩⟩ := exec_session h <;> rfl
  | lease a => obtain ⟨l, -, rfl⟩ := exec_lease h; rfl
  | clock => obtain ⟨rfl, -⟩ := exec_clock h; rfl
  | storage a => obtain ⟨rfl, -⟩ := exec_storage h; rfl
  | repository a => obtain ⟨m, -, rfl⟩ := exec_repository h; rfl
  | runtime a => obtain ⟨m, rt, rfl⟩ := exec_runtime h; rfl
  | ipc a => obtain ⟨m, -, rfl⟩ := exec_ipc h; rfl
  | persistence a => obtain ⟨m, -, rfl⟩ := exec_persistence h; rfl

/-- Only its own sections reach the session records. -/
theorem exec_sessions_frame {a : Act} {r : a.Reply} (ha : ∀ b : SessionAct, a ≠ .session b)
    (h : s.exec cfg t env a = some (s', r)) : s'.sessions = s.sessions := by
  cases a with
  | session b => exact absurd rfl (ha b)
  | directory a => obtain ⟨d, -, rfl⟩ := exec_directory h; rfl
  | lease a => obtain ⟨l, -, rfl⟩ := exec_lease h; rfl
  | clock => obtain ⟨rfl, -⟩ := exec_clock h; rfl
  | storage a => obtain ⟨rfl, -⟩ := exec_storage h; rfl
  | repository a => obtain ⟨m, -, rfl⟩ := exec_repository h; rfl
  | runtime a => obtain ⟨m, rt, rfl⟩ := exec_runtime h; rfl
  | ipc a => obtain ⟨m, -, rfl⟩ := exec_ipc h; rfl
  | persistence a => obtain ⟨m, -, rfl⟩ := exec_persistence h; rfl

/-- The lease service is reached by its own sections, and by the one that gives a lease back when a lease
recovery has failed. -/
theorem exec_lease_frame {a : Act} {r : a.Reply} (h : s.exec cfg t env a = some (s', r)) :
    s'.lease = s.lease ∨
      (∃ (b : LeaseAct) (r' : b.Reply), a = .lease b ∧
        s.lease.exec cfg t env b = some (s'.lease, r')) ∨
      ∃ p gate, a = .session (.activateResume p gate) ∧ s.asksLease p = false ∧
        s'.lease = (s.lease.release p).1 := by
  cases a with
  | lease b =>
      obtain ⟨l, hx, rfl⟩ := exec_lease h
      exact .inr (.inl ⟨b, r, rfl, hx⟩)
  | session a =>
      obtain ⟨m, rfl | ⟨p, gate, rfl, hasks, rfl⟩⟩ := exec_session h
      · exact .inl rfl
      · exact .inr (.inr ⟨p, gate, rfl, hasks, rfl⟩)
  | clock => obtain ⟨rfl, -⟩ := exec_clock h; exact .inl rfl
  | storage a => obtain ⟨rfl, -⟩ := exec_storage h; exact .inl rfl
  | directory a => obtain ⟨d, -, rfl⟩ := exec_directory h; exact .inl rfl
  | repository a => obtain ⟨m, -, rfl⟩ := exec_repository h; exact .inl rfl
  | runtime a => obtain ⟨m, rt, rfl⟩ := exec_runtime h; exact .inl rfl
  | ipc a => obtain ⟨m, -, rfl⟩ := exec_ipc h; exact .inl rfl
  | persistence a => obtain ⟨m, -, rfl⟩ := exec_persistence h; exact .inl rfl

/-- The repository is reached by its own sections, and by a rename that the runtime handles. -/
theorem exec_repository_frame {a : Act} {r : a.Reply} (h : s.exec cfg t env a = some (s', r)) :
    s'.repository = s.repository ∨
      (∃ (b : RepositoryAct) (r' : b.Reply), a = .repository b ∧
        s.repository.exec t env b = some (s'.repository, r')) ∨
      ∃ p displayName, a = .runtime (.handleRename p displayName) ∧
        s'.repository = (s.repository.setDisplayName displayName env.nowMs p).1 := by
  cases a with
  | repository b =>
      obtain ⟨m, hx, rfl⟩ := exec_repository h
      exact .inr (.inl ⟨b, r, rfl, hx⟩)
  | runtime a =>
      rcases exec_runtime_repository h with hsame | ⟨p, displayName, rfl, hname⟩
      · exact .inl hsame
      · exact .inr (.inr ⟨p, displayName, rfl, hname⟩)
  | session a => obtain ⟨m, rfl | ⟨q, gate, -, -, rfl⟩⟩ := exec_session h <;> exact .inl rfl
  | clock => obtain ⟨rfl, -⟩ := exec_clock h; exact .inl rfl
  | storage a => obtain ⟨rfl, -⟩ := exec_storage h; exact .inl rfl
  | directory a => obtain ⟨d, -, rfl⟩ := exec_directory h; exact .inl rfl
  | lease a => obtain ⟨l, -, rfl⟩ := exec_lease h; exact .inl rfl
  | ipc a => obtain ⟨m, -, rfl⟩ := exec_ipc h; exact .inl rfl
  | persistence a => obtain ⟨m, -, rfl⟩ := exec_persistence h; exact .inl rfl

/-- A section leaves a tracked lease alone, drops it, or has just acquired it. -/
theorem exec_leases {a : Act} {r : a.Reply} (h : s.exec cfg t env a = some (s', r)) (p : PlayerId) :
    s'.lease.leases p = s.lease.leases p ∨ s'.lease.leases p = none ∨
      (a = .lease (.acquire p) ∧ s.lease.redis = true ∧ s.lease.leases p = none ∧
        env.redis = .status "OK" ∧ s'.lease.leases p = some (leaseOwner cfg p env.nowMs)) := by
  rcases exec_lease_frame h with hsame | ⟨b, r', rfl, hx⟩ | ⟨q, gate, -, -, hrelease⟩
  · exact .inl (by rw [hsame])
  · rcases PlayerLeaseService.exec_cases hx p with hc | hc | ⟨rfl, hc⟩
    · exact .inl hc
    · exact .inr (.inl hc)
    · exact .inr (.inr ⟨rfl, hc⟩)
  · rw [hrelease, PlayerLeaseService.release_leases]
    split
    · exact .inr (.inl rfl)
    · exact .inl rfl

/-- No section opens or closes the connection of the lease service. -/
theorem exec_redis {a : Act} {r : a.Reply} (h : s.exec cfg t env a = some (s', r)) :
    s'.lease.redis = s.lease.redis := by
  rcases exec_lease_frame h with hsame | ⟨b, r', -, hx⟩ | ⟨q, gate, -, -, hrelease⟩
  · rw [hsame]
  · exact PlayerLeaseService.exec_redis hx
  · rw [hrelease]
    exact (PlayerLeaseService.release_frame q s.lease).2

end GameProcess

end SomeServer
