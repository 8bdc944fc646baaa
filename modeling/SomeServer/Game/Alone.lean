/-
# SomeServer.Game.Alone — calls that no other thread interrupts

A process in which no service mutex is held (`Free`) can run any section outside the directory, so a
call that runs alone never waits. The three calls that keep a mutex over server commands (`LoadPlayer`,
`FlushPlayer`, a renew round) give it back before they return; what they do to the views of the players
is said here once, and everything else of a call is a step of the views (`view_exec`).
-/
import SomeServer.Game.Footprint
import SomeServer.Game.View
import SomeServer.Lib.Sequential

namespace SomeServer

open Lib

/-! ## Sections that concern one player -/

/-- The player that a section can move in or out of a store. -/
def Act.moves : Act → Option PlayerId
  | .lease (.acquire p) => some p
  | .lease (.release p) => some p
  | .repository (.loadEnter p) => some p
  | .repository (.loadLeave p _ _ _) => some p
  | .repository (.release p) => some p
  | .runtime (.emplace p) => some p
  | .runtime (.removePlayer p) => some p
  | .ipc (.bindLocalPlayer p) => some p
  | .ipc (.unbindLocalPlayer p) => some p
  | .session (.activateEnter p _) => some p
  | .session (.activateResume p _) => some p
  | .session (.activateInsert p _) => some p
  | .session (.detach p) => some p
  | .session (.detachFrom p _) => some p
  | .session (.releaseEnter p) => some p
  | .session (.releaseRestore p _) => some p
  | .session (.releaseErase p) => some p
  | .session (.reconcileLost action _) => some action.playerId
  | _ => none

/-- A section leaves the views of all other players as they are. -/
theorem PlayerView.after_of_moves_ne {a : Act} {p : PlayerId} {v : PlayerView} {r : a.Reply}
    (hl : a.locks = false) (hp : a.moves ≠ some p) : v.after p a r = v := by
  cases a with
  | clock | storage a | persistence a => rfl
  | directory a => cases hl
  | lease a =>
      cases a with
      | renewEnter order | refresh q owner | renewLeave lost => cases hl
      | isHeldLocally q => rfl
      | acquire q | release q => simp_all [after, Act.moves]
  | repository a =>
      cases a with
      | loadEnter q | loadLeave q allow result value | flushEnter q | flushLeave q result => cases hl
      | touchLogin q | setDisplayName q displayName | snapshot q | loadedPlayerIds order => rfl
      | release q => simp_all [after, Act.moves]
  | runtime a =>
      cases a with
      | handleRename q displayName | handleEcho q => rfl
      | emplace q | removePlayer q => simp_all [after, Act.moves]
  | ipc a =>
      cases a with
      | bindRemotePlayer q instanceId | sendProcessPayload target payload => rfl
      | bindLocalPlayer q | unbindLocalPlayer q => simp_all [after, Act.moves]
  | session a =>
      cases a with
      | expiredPlayers order now | lostPlayers order | snapshot q => rfl
      | _ => simp_all [after, Act.moves]

/-! ## Dirty records -/

theorem loadOutcome_dirty {playerId : PlayerId} {allow : Bool} {result : Result}
    {value : Option Blob} {nowMs : UInt64} {record : PlayerRepositoryRecord}
    (h : record.dirty = true → record.loaded = true) :
    (loadOutcome playerId allow result value nowMs record).1.dirty = true →
      (loadOutcome playerId allow result value nowMs record).1.loaded = true := by
  unfold loadOutcome
  split
  · dsimp only
    split
    · exact h
    · exact fun _ => rfl
  · split
    · exact fun _ => rfl
    · split
      · exact fun _ => rfl
      · exact h

namespace PlayerRepository

variable {T : Type} {m m' : PlayerRepository T}

/-- A dirty record is a loaded one, so a flush of it can only fail in the storage. -/
def DirtyLoaded (m : PlayerRepository T) : Prop :=
  ∀ p record, m.players p = some record → record.dirty = true → record.loaded = true

theorem DirtyLoaded.update (hm : m.DirtyLoaded) {q : PlayerId} {record : PlayerRepositoryRecord}
    (hrecord : record.dirty = true → record.loaded = true) {mutex : Option T} :
    ({ mutex, players := Function.update m.players q (some record) } :
      PlayerRepository T).DirtyLoaded := by
  intro p r hp
  by_cases hq : p = q
  · subst hq
    simp only [Function.update_self, Option.some.injEq] at hp
    exact hp ▸ hrecord
  · simp only [Function.update_of_ne hq] at hp
    exact hm p r hp

theorem DirtyLoaded.changeData (hm : m.DirtyLoaded) {change : PlayerData → PlayerData}
    {nowMs : UInt64} {q : PlayerId} : (m.changeData change nowMs q).1.DirtyLoaded := by
  unfold PlayerRepository.changeData
  split
  · exact hm
  · split
    · exact hm
    · rename_i record _ hl
      have hloaded : (record.change (change record.data) nowMs).loaded = true := by
        simpa [PlayerRepositoryRecord.change] using hl
      exact hm.update fun _ => hloaded

theorem DirtyLoaded.exec {t : T} {env : Env} {a : RepositoryAct} {r : a.Reply}
    (hm : m.DirtyLoaded) (h : m.exec t env a = some (m', r)) : m'.DirtyLoaded := by
  have hgetD : ∀ q, ((m.players q).getD {}).dirty = true → ((m.players q).getD {}).loaded = true := by
    intro q
    cases hq : m.players q with
    | none => intro h; cases h
    | some record => exact hm q record hq
  cases a with
  | loadEnter q =>
      simp only [PlayerRepository.exec, Option.ite_none_left_eq_some, Option.some.injEq, Prod.ext_iff] at h
      obtain ⟨-, rfl, -⟩ := h
      exact hm.update (hgetD q)
  | loadLeave q allow result value =>
      simp only [PlayerRepository.exec, Option.some.injEq, Prod.ext_iff] at h
      obtain ⟨rfl, -⟩ := h
      exact hm.update (loadOutcome_dirty (hgetD q))
  | flushEnter q =>
      simp only [PlayerRepository.exec, Option.ite_none_left_eq_some, Option.some.injEq, Prod.ext_iff] at h
      obtain ⟨-, rfl, -⟩ := h
      unfold PlayerRepository.flushEnter
      split
      · exact hm
      · split <;> exact hm
  | flushLeave q storeResult =>
      simp only [PlayerRepository.exec, Option.some.injEq, Prod.ext_iff] at h
      obtain ⟨rfl, -⟩ := h
      unfold PlayerRepository.flushLeave
      split
      · exact hm
      · intro p record hp hdirty
        by_cases hq : p = q
        · subst hq
          simp only [Function.update_self, Option.map_eq_some_iff] at hp
          obtain ⟨record', -, rfl⟩ := hp
          cases hdirty
        · simp only [Function.update_of_ne hq] at hp
          exact hm p record hp hdirty
  | release q =>
      simp only [PlayerRepository.exec, Option.ite_none_left_eq_some, Option.some.injEq, Prod.ext_iff] at h
      obtain ⟨-, rfl, -⟩ := h
      unfold PlayerRepository.release
      split
      · exact hm
      · intro p record hp
        by_cases hq : p = q
        · subst hq
          simp at hp
        · simp only [Function.update_of_ne hq] at hp
          exact hm p record hp
  | touchLogin q | setDisplayName q displayName =>
      simp only [PlayerRepository.exec, Option.ite_none_left_eq_some, Option.some.injEq, Prod.ext_iff] at h
      obtain ⟨-, rfl, -⟩ := h
      exact hm.changeData
  | snapshot q | loadedPlayerIds order =>
      simp only [PlayerRepository.exec, Option.ite_none_left_eq_some, Option.some.injEq, Prod.ext_iff] at h
      obtain ⟨-, rfl, -⟩ := h
      exact hm

end PlayerRepository

namespace GameProcess

variable {T : Type} {cfg : GameConfiguration} {t : T} {env : Env} {s s' : GameProcess T}

/-! ## Free processes -/

/-- No mutex of the lease service or of the repository is held. -/
structure Free (s : GameProcess T) : Prop where
  lease : s.lease.mutex = none
  repository : s.repository.mutex = none

/-- In a free process no section outside the directory has to wait. -/
theorem Free.exec_isSome (hs : s.Free) {a : Act} (ha : ∀ d : DirectoryAct, a ≠ .directory d) :
    (s.exec cfg t env a).isSome = true := by
  cases a with
  | directory d => exact absurd rfl (ha d)
  | lease a => cases a <;> simp [exec, PlayerLeaseService.exec, hs.lease]
  | repository a => cases a <;> simp [exec, PlayerRepository.exec, hs.repository]
  | runtime a =>
      cases a with
      | removePlayer q => cases hq : s.runtime q <;> simp [exec, execRuntime, hq]
      | _ => simp [exec, execRuntime, hs.repository]
  | session a => cases a <;> simp [exec, execSession, hs.lease]
  | ipc a => cases a <;> rfl
  | persistence a => cases a <;> rfl
  | clock | storage a => rfl

theorem Free.exec_some (hs : s.Free) {a : Act} (ha : ∀ d : DirectoryAct, a ≠ .directory d) :
    ∃ s' r, s.exec cfg t env a = some (s', r) := by
  have hsome : (s.exec cfg t env a).isSome = true := hs.exec_isSome ha
  obtain ⟨⟨s', r⟩, hx⟩ := Option.isSome_iff_exists.mp hsome
  exact ⟨s', r, hx⟩

theorem changeData_mutex {m : PlayerRepository T} {change : PlayerData → PlayerData}
    {nowMs : UInt64} {p : PlayerId} : (m.changeData change nowMs p).1.mutex = m.mutex := by
  unfold PlayerRepository.changeData
  split
  · rfl
  · split <;> rfl

theorem lease_mutex {a : Act} {r : a.Reply} (ha : a.locks = false)
    (h : s.exec cfg t env a = some (s', r)) : s'.lease.mutex = s.lease.mutex := by
  rcases exec_lease_frame h with hsame | ⟨b, r', rfl, hx⟩ | ⟨q, gate, -, -, hrelease⟩
  · rw [hsame]
  · cases b with
    | renewEnter order | refresh q owner | renewLeave lost => cases ha
    | acquire q =>
        simp only [PlayerLeaseService.exec, Option.ite_none_left_eq_some, Option.some.injEq,
          Prod.ext_iff] at hx
        rw [← hx.2.1]
        exact (PlayerLeaseService.acquire_frame cfg env q s.lease).1
    | release q =>
        simp only [PlayerLeaseService.exec, Option.ite_none_left_eq_some, Option.some.injEq,
          Prod.ext_iff] at hx
        rw [← hx.2.1]
        exact (PlayerLeaseService.release_frame q s.lease).1
    | isHeldLocally q =>
        simp only [PlayerLeaseService.exec, Option.ite_none_left_eq_some, Option.some.injEq,
          Prod.ext_iff] at hx
        rw [← hx.2.1]
  · rw [hrelease]
    exact (PlayerLeaseService.release_frame q s.lease).1

theorem repository_mutex {a : Act} {r : a.Reply} (ha : a.locks = false)
    (h : s.exec cfg t env a = some (s', r)) : s'.repository.mutex = s.repository.mutex := by
  rcases exec_repository_frame h with hsame | ⟨b, r', rfl, hx⟩ | ⟨q, displayName, -, hname⟩
  · rw [hsame]
  · cases b with
    | loadEnter q | loadLeave q allow result value | flushEnter q | flushLeave q result => cases ha
    | touchLogin q | setDisplayName q displayName =>
        simp only [PlayerRepository.exec, Option.ite_none_left_eq_some, Option.some.injEq,
          Prod.ext_iff] at hx
        rw [← hx.2.1]
        exact changeData_mutex
    | release q =>
        simp only [PlayerRepository.exec, Option.ite_none_left_eq_some, Option.some.injEq,
          Prod.ext_iff] at hx
        rw [← hx.2.1, PlayerRepository.release]
        split <;> rfl
    | snapshot q | loadedPlayerIds order =>
        simp only [PlayerRepository.exec, Option.ite_none_left_eq_some, Option.some.injEq,
          Prod.ext_iff] at hx
        rw [← hx.2.1]
  · rw [hname]
    exact changeData_mutex

/-- A section that keeps no mutex leaves both mutexes as they are. -/
theorem exec_mutex {a : Act} {r : a.Reply} (ha : a.locks = false)
    (h : s.exec cfg t env a = some (s', r)) :
    s'.lease.mutex = s.lease.mutex ∧ s'.repository.mutex = s.repository.mutex :=
  ⟨lease_mutex ha h, repository_mutex ha h⟩

theorem Free.exec (hs : s.Free) {a : Act} {r : a.Reply} (ha : a.locks = false)
    (h : s.exec cfg t env a = some (s', r)) : s'.Free where
  lease := (exec_mutex ha h).1.trans hs.lease
  repository := (exec_mutex ha h).2.trans hs.repository

/-! ## Calls and views -/

/-- What holds of a process at any time: the bindings resolve, and dirty records are loaded. -/
structure Sound (s : GameProcess T) : Prop where
  resolves : s.ipc.Resolves
  dirty : s.repository.DirtyLoaded

theorem Sound.exec {a : Act} {r : a.Reply} (hs : s.Sound)
    (h : s.exec cfg t env a = some (s', r)) : s'.Sound := by
  have hdirty : s'.repository.DirtyLoaded := by
    rcases exec_repository_frame h with hsame | ⟨b, r', -, hx⟩ | ⟨q, displayName, -, hname⟩
    · rw [hsame]
      exact hs.dirty
    · exact hs.dirty.exec hx
    · rw [hname]
      exact hs.dirty.changeData
  cases a with
  | ipc a =>
      obtain ⟨m, hx, rfl⟩ := exec_ipc h
      exact ⟨hs.resolves.exec hx, hdirty⟩
  | clock => obtain ⟨rfl, -⟩ := exec_clock h; exact hs
  | storage a => obtain ⟨rfl, -⟩ := exec_storage h; exact hs
  | directory a => obtain ⟨m, -, rfl⟩ := exec_directory h; exact ⟨hs.resolves, hdirty⟩
  | lease a => obtain ⟨m, -, rfl⟩ := exec_lease h; exact ⟨hs.resolves, hdirty⟩
  | repository a => obtain ⟨m, -, rfl⟩ := exec_repository h; exact ⟨hs.resolves, hdirty⟩
  | runtime a => obtain ⟨m, rt, rfl⟩ := exec_runtime h; exact ⟨hs.resolves, hdirty⟩
  | persistence a => obtain ⟨m, -, rfl⟩ := exec_persistence h; exact ⟨hs.resolves, hdirty⟩
  | session a =>
      obtain ⟨m, rfl | ⟨q, gate, -, -, rfl⟩⟩ := exec_session h <;> exact ⟨hs.resolves, hdirty⟩

/-- A sound process, free, whose players are seen as `V` says. -/
structure Alone (V : PlayerId → PlayerView) (s : GameProcess T) : Prop where
  free : s.Free
  sound : s.Sound
  views : ∀ p, s.view p = V p

/-- Every section that keeps no mutex moves the views on. -/
theorem Alone.exec {V : PlayerId → PlayerView} (hs : Alone V s) {a : Act} {r : a.Reply}
    (ha : a.locks = false) (h : s.exec cfg t env a = some (s', r)) :
    Alone (fun p => (V p).after p a r) s' where
  free := hs.free.exec ha h
  sound := hs.sound.exec h
  views p := by rw [view_exec h, hs.views]

variable {α : Type} {ok : Act → Env → GameProcess T → Prop} {V : PlayerId → PlayerView}

/-- The rule of one section, read over the process. -/
theorem ends_seq {Q : α → GameProcess T → Prop} {a : Act} {k : a.Reply → Call α}
    (hrun : ∀ i, ok a i s → ∃ s' r, s.exec cfg t i a = some (s', r))
    (hk : ∀ i s' r, ok a i s → s.exec cfg t i a = some (s', r) →
      (k r).Ends (machine cfg) t ok Q s') :
    (call a >>= k).Ends (machine cfg) t ok Q s :=
  Prog.Ends.seq hrun hk

/-- The rule of one section that keeps no mutex. -/
theorem Alone.seq {Q : α → GameProcess T → Prop} {a : Act} {k : a.Reply → Call α} (hs : Alone V s)
    (ha : a.locks = false)
    (hk : ∀ i s' r, ok a i s → s.exec cfg t i a = some (s', r) →
      Alone (fun p => (V p).after p a r) s' → (k r).Ends (machine cfg) t ok Q s') :
    (call a >>= k).Ends (machine cfg) t ok Q s := by
  have hd : ∀ d : DirectoryAct, a ≠ .directory d := by
    rintro d rfl
    cases ha
  exact ends_seq (fun i _ => hs.free.exec_some hd)
    fun i s' r hok hx => hk i s' r hok hx (hs.exec ha hx)

/-- Calls made of storage commands alone. -/
theorem storage_ends {Q : α → GameProcess T → Prop} {x : Call α}
    (hx : x.All fun a => ∃ b, a = .storage b) (hQ : ∀ a, Q a s) :
    x.Ends (machine cfg) t ok Q s := by
  refine Prog.Ends.mono (fun a s' (h : s' = s) => h ▸ hQ a)
    (Prog.ends_of_all (K := (· = s)) ?_ ?_ hx rfl)
  · rintro _ i s' ⟨b, rfl⟩ - -
    exact ⟨_, _, rfl⟩
  · rintro _ i s₁ s₂ r ⟨b, rfl⟩ hs₁ - h
    have hx : s₁.exec cfg t i (.storage b) = some (s₂, r) := h
    exact (exec_storage hx).1.trans hs₁

/-- `FlushPlayer` goes on, under the mutex, only with a loaded record. -/
theorem flushEnter_reply {p : PlayerId} {r : Option PlayerData}
    (h : s.exec cfg t env (.repository (.flushEnter p)) = some (s', r)) :
    s'.lease.mutex = s.lease.mutex ∧ ((r = none ∧ s'.repository.mutex = s.repository.mutex ∧
      (s.view p).loaded = false) ∨ ∃ data, r = some data) := by
  obtain ⟨m, hx, rfl⟩ := exec_repository h
  simp only [PlayerRepository.exec, Option.ite_none_left_eq_some, Option.some.injEq,
    Prod.ext_iff] at hx
  obtain ⟨-, rfl, rfl⟩ := hx
  refine ⟨rfl, ?_⟩
  unfold PlayerRepository.flushEnter
  cases hp : s.repository.players p with
  | none => exact .inl ⟨rfl, rfl, by simp [view, PlayerRepository.isLoaded, hp]⟩
  | some record =>
    by_cases hl : record.loaded = true
    · exact .inr ⟨record.data, by simp [hl]⟩
    · exact .inl ⟨by simp [hl], by simp [hl], by simp [view, PlayerRepository.isLoaded, hp, hl]⟩

/-- Giving the repository's mutex back. -/
theorem free_of_flushLeave {p : PlayerId} {stored r : Result} (hs : s.lease.mutex = none)
    (h : s.exec cfg t env (.repository (.flushLeave p stored)) = some (s', r)) :
    s'.Free ∧ r.ok = stored.ok := by
  obtain ⟨m, hx, rfl⟩ := exec_repository h
  simp only [PlayerRepository.exec, Option.some.injEq, Prod.ext_iff] at hx
  obtain ⟨rfl, rfl⟩ := hx
  unfold PlayerRepository.flushLeave
  cases hok : stored.ok <;> exact ⟨⟨hs, rfl⟩, rfl⟩

theorem free_of_loadLeave {p : PlayerId} {allow : Bool} {result r : Result} {value : Option Blob}
    (hs : s.lease.mutex = none)
    (h : s.exec cfg t env (.repository (.loadLeave p allow result value)) = some (s', r)) :
    s'.Free := by
  obtain ⟨m, hx, rfl⟩ := exec_repository h
  simp only [PlayerRepository.exec, Option.some.injEq, Prod.ext_iff] at hx
  obtain ⟨rfl, -⟩ := hx
  exact ⟨hs, rfl⟩

/-- `FlushPlayer` moves nobody. For a loaded record its result is the storage's. -/
theorem flushPlayer_ends (hs : Alone V s) (p : PlayerId) :
    (flushPlayer p).Ends (machine cfg) t ok (fun r s' => Alone V s' ∧ ((V p).loaded = true →
      ∃ stored i s'', ok (.repository (.flushLeave p stored)) i s'' ∧ r.ok = stored.ok)) s := by
  refine ends_seq (fun i _ => hs.free.exec_some (by simp)) fun i s₁ data _ hx => ?_
  have hview : ∀ q, s₁.view q = V q := fun q => (view_exec hx q).trans (hs.views q)
  have hsound := hs.sound.exec hx
  obtain ⟨hlease, hdata⟩ := flushEnter_reply hx
  rcases hdata with ⟨rfl, hfree, hloaded⟩ | ⟨d, rfl⟩
  · refine ⟨⟨⟨hlease ▸ hs.free.lease, hfree ▸ hs.free.repository⟩, hsound, hview⟩, fun h => ?_⟩
    rw [← hs.views p] at h
    exact absurd h (by simp [hloaded])
  · refine Prog.Ends.bind (storage_ends (datasetPut_all (fun b => ⟨b, rfl⟩) p _) fun stored => ?_)
    -- the repository's mutex is still held, and the closing section never waits
    intro i₂ hok
    obtain ⟨s₂, r, hx₂⟩ : ∃ s₂ r, s₁.exec cfg t i₂ (.repository (.flushLeave p stored)) =
        some (s₂, r) := ⟨_, _, rfl⟩
    obtain ⟨hfree, hr⟩ := free_of_flushLeave (hlease ▸ hs.free.lease) hx₂
    refine ⟨s₂, r, hx₂, ⟨hfree, hsound.exec hx₂, fun q => ?_⟩,
      fun _ => ⟨stored, i₂, s₁, hok, hr⟩⟩
    rw [view_exec hx₂]
    exact hview q

/-- `LoadPlayer` leaves the player loaded when it succeeds or has found it so; a record is there
whenever it succeeds. -/
theorem loadPlayer_ends (hs : Alone V s) (p : PlayerId) (allow : Bool) :
    (loadPlayer cfg p allow).Ends (machine cfg) t ok (fun r s' => ∃ known : Bool,
      ((V p).known = true → known = true) ∧ (r.ok = true → known = true) ∧
      Alone (Function.update V p { V p with known, loaded := r.ok || (V p).loaded }) s') s := by
  unfold loadPlayer
  split
  · refine ⟨(V p).known, id, ?_, ?_⟩
    · intro h
      cases h
    · simpa using hs
  · refine ends_seq (fun i _ => hs.free.exec_some (by simp)) fun i s₁ _ _ hx => ?_
    have hlease : s₁.lease.mutex = none := by
      obtain ⟨m, -, rfl⟩ := exec_repository hx
      exact hs.free.lease
    have hsound := hs.sound.exec hx
    have hview : ∀ q, s₁.view q = (V q).after q (.repository (.loadEnter p)) () :=
      fun q => by rw [view_exec hx, hs.views]
    refine Prog.Ends.bind (storage_ends (datasetGet_all (fun b => ⟨b, rfl⟩) p) fun got => ?_)
    intro i₂ _
    obtain ⟨s₂, r, hx₂⟩ : ∃ s₂ r, s₁.exec cfg t i₂
        (.repository (.loadLeave p allow got.1 got.2)) = some (s₂, r) := ⟨_, _, rfl⟩
    refine ⟨s₂, r, hx₂, true, fun _ => rfl, fun _ => rfl, free_of_loadLeave hlease hx₂,
      hsound.exec hx₂, fun q => ?_⟩
    rw [view_exec hx₂, hview]
    by_cases hq : p = q
    · subst hq
      simp [PlayerView.after]
    · simp [PlayerView.after, hq, Function.update_of_ne (Ne.symm hq)]

/-- A renew round drops the leases it has lost, and does nothing else to a player. -/
theorem renewLeases_ends (hs : Alone V s) (order : List PlayerId) :
    (renewLeases order).Ends (machine cfg) t ok (fun _ s' => ∃ lost : List PlayerId,
      Alone (fun p => if p ∈ lost then { V p with held := false } else V p) s') s := by
  refine ends_seq (fun i _ => hs.free.exec_some (by simp)) fun i s₁ leases _ hx => ?_
  have hrepository : s₁.repository.mutex = none := by
    obtain ⟨l, -, rfl⟩ := exec_lease hx
    exact hs.free.repository
  have hsound := hs.sound.exec hx
  have hview : ∀ q, s₁.view q = V q := fun q => (view_exec hx q).trans (hs.views q)
  have hrefresh : ∀ (rest : List (PlayerId × PlayerLeaseOwner)) (lost : List PlayerId),
      (refreshAll rest lost).Ends (machine cfg) t ok (fun _ s' => s' = s₁) s₁ := by
    intro rest
    induction rest with
    | nil => intro lost; rfl
    | cons x rest ih => intro lost i _; exact ⟨s₁, _, rfl, ih _⟩
  refine Prog.Ends.bind (Prog.Ends.mono ?_ (hrefresh leases []))
  rintro lost s' rfl
  intro i _
  obtain ⟨s₂, r, hx₂⟩ : ∃ s₂ r, s'.exec cfg t i (.lease (.renewLeave lost)) = some (s₂, r) :=
    ⟨_, _, rfl⟩
  refine ⟨s₂, r, hx₂, lost, ⟨?_, ?_⟩, hsound.exec hx₂, fun q => ?_⟩
  · obtain ⟨l, hl, rfl⟩ := exec_lease hx₂
    simp only [PlayerLeaseService.exec, Option.some.injEq, Prod.ext_iff] at hl
    rw [← hl.1]
  · obtain ⟨l, -, rfl⟩ := exec_lease hx₂
    exact hrepository
  · rw [view_exec hx₂, hview]
    rfl

end GameProcess

end SomeServer
