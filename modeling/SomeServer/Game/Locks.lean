/-
# SomeServer.Game.Locks — every call gives its mutexes back

Three calls keep a mutex over server commands. `lockOutline` says of any number of threads that a mutex
stays with the thread that has taken it, and that a thread which runs nothing has none; so a process
in which every thread is idle is free, and the next call never waits.
-/
import SomeServer.Game.Alone

namespace SomeServer

open Lib

namespace GameProcess

variable {T : Type} {cfg : GameConfiguration} {t u : T} {o : Op} {env : Env} {s s' : GameProcess T}

/-- Thread `t` holds neither mutex. -/
structure Unlocked (t : T) (s : GameProcess T) : Prop where
  lease : s.lease.mutex ≠ some t
  repository : s.repository.mutex ≠ some t

/-- A step in which thread `u` neither takes a mutex nor loses one. -/
structure SameLocks (u : T) (s s' : GameProcess T) : Prop where
  lease : s'.lease.mutex = some u ↔ s.lease.mutex = some u
  repository : s'.repository.mutex = some u ↔ s.repository.mutex = some u

theorem SameLocks.trans {s₁ s₂ s₃ : GameProcess T} (h : SameLocks u s₁ s₂) (h' : SameLocks u s₂ s₃) :
    SameLocks u s₁ s₃ := ⟨h'.lease.trans h.lease, h'.repository.trans h.repository⟩

theorem SameLocks.of_eq (hl : s'.lease.mutex = s.lease.mutex)
    (hr : s'.repository.mutex = s.repository.mutex) : SameLocks u s s' :=
  ⟨by rw [hl], by rw [hr]⟩

theorem Unlocked.of_same (h : Unlocked t s) (hs : SameLocks t s s') : Unlocked t s' where
  lease hm := h.lease (hs.lease.mp hm)
  repository hm := h.repository (hs.repository.mp hm)

/-- A mutex that is nobody's or the thread's own may change hands between the two. -/
theorem same_of_own {m m' : Option T} (hm : m = none ∨ m = some t) (hm' : m' = none ∨ m' = some t)
    (hu : u ≠ t) : m' = some u ↔ m = some u := by
  have hne : ∀ {o : Option T}, o = none ∨ o = some t → o ≠ some u := by
    rintro o (rfl | rfl) h
    · cases h
    · exact hu (Option.some.inj h).symm
  exact ⟨fun h => absurd h (hne hm'), fun h => absurd h (hne hm)⟩

/-! ## The outline -/

def lockOutline : Outline T Op Act Env (GameProcess T) where
  inv _ := True
  rest := Unlocked
  start _ _ _ := True
  ok _ _ _ _ _ := True
  event t _ _ _ s s' := ∀ u, u ≠ t → SameLocks u s s'
  rely t _ s s' := SameLocks t s s'
  rely_refl _ _ _ := ⟨Iff.rfl, Iff.rfl⟩
  rely_trans _ _ _ _ _ h h' := h.trans h'
  rest_rely _ _ _ h hr := hr.of_same h

/-- What the calls of this module are shown to be. -/
def GivesBack (cfg : GameConfiguration) (t : T) (o : Op) (α : Type) (x : Call α) : Prop :=
  ∀ s, Unlocked t s → lockOutline.Safe (machine cfg) t o (fun _ s' => Unlocked t s') x s

theorem compositional_givesBack : Prog.Compositional (GivesBack cfg t o) :=
  Outline.compositional_safe

/-- The rule of one section. -/
theorem lock_seq {α : Type} {Q : α → GameProcess T → Prop} {a : Act} {k : a.Reply → Call α}
    (hk : ∀ s₁ i s₂ r, SameLocks t s s₁ → s₁.exec cfg t i a = some (s₂, r) →
      (∀ u, u ≠ t → SameLocks u s₁ s₂) ∧ lockOutline.Safe (machine cfg) t o Q (k r) s₂) :
    lockOutline.Safe (machine cfg) t o Q (call a >>= k) s := by
  intro s₁ hrely _ i s₂ r _ hx
  obtain ⟨hevent, hsafe⟩ := hk s₁ i s₂ r hrely hx
  exact ⟨hevent, trivial, hsafe⟩

/-- Calls all of whose sections leave the mutexes alone keep any fact about them. -/
theorem lock_all {K : GameProcess T → Prop} (hK : ∀ {s s'}, SameLocks t s s' → K s → K s')
    {P : Act → Prop} (hP : ∀ a, P a → ∀ i (s s' : GameProcess T) (r : a.Reply),
      s.exec cfg t i a = some (s', r) →
        s'.lease.mutex = s.lease.mutex ∧ s'.repository.mutex = s.repository.mutex)
    {α : Type} {x : Call α} (hx : x.All P) (hs : K s) :
    lockOutline.Safe (machine cfg) t o (fun _ s' => K s') x s := by
  refine Outline.safe_of_all (K := K) (fun _ _ _ _ hr hk => hK hr hk) ?_ (fun _ _ h => h) hx hs
  intro a i s s' r ha _ hk _ hx
  obtain ⟨hl, hr⟩ := hP a ha i s s' r hx
  exact ⟨fun u _ => .of_eq hl hr, trivial, hK (.of_eq hl hr) hk⟩

theorem section_givesBack {a : Act} (ha : a.locks = false) : GivesBack cfg t o _ (call a) := by
  intro s hs
  refine lock_all (P := fun a => a.locks = false) (fun h hk => hk.of_same h) ?_ (all_call ha) hs
  exact fun a ha i s s' r h => exec_mutex ha h

theorem directory_mutex {d : DirectoryAct} {r : d.Reply}
    (h : s.exec cfg t env (.directory d) = some (s', r)) :
    s'.lease.mutex = s.lease.mutex ∧ s'.repository.mutex = s.repository.mutex := by
  obtain ⟨m, -, rfl⟩ := exec_directory h
  exact ⟨rfl, rfl⟩

theorem directory_givesBack {α : Type} {x : Call α} (hx : x.All fun a => ∃ d, a = .directory d) :
    GivesBack cfg t o _ x := by
  intro s hs
  refine lock_all (fun h hk => hk.of_same h) ?_ hx hs
  rintro a ⟨d, rfl⟩ i s s' r h
  exact directory_mutex h

/-- The storage commands between the two sections of a load or a flush. -/
theorem storage_locked {α : Type} {x : Call α} (hx : x.All fun a => ∃ b, a = .storage b)
    (hl : s.lease.mutex ≠ some t) (hr : s.repository.mutex = some t) :
    lockOutline.Safe (machine cfg) t o
      (fun _ s' => s'.lease.mutex ≠ some t ∧ s'.repository.mutex = some t) x s := by
  refine lock_all (K := fun s => s.lease.mutex ≠ some t ∧ s.repository.mutex = some t)
    (fun h hk => ⟨fun hm => hk.1 (h.lease.mp hm), h.repository.mpr hk.2⟩) ?_ hx ⟨hl, hr⟩
  rintro a ⟨b, rfl⟩ i s s' r h
  obtain ⟨rfl, -⟩ := exec_storage h
  exact ⟨rfl, rfl⟩

/-- The closing section of a load or a flush. -/
theorem leave_givesBack {a : RepositoryAct}
    (ha : ∀ (s s' : GameProcess T) i (r : a.Reply), s.exec cfg t i (.repository a) = some (s', r) →
      s'.lease.mutex = s.lease.mutex ∧ s'.repository.mutex = none)
    (hl : s.lease.mutex ≠ some t) (hr : s.repository.mutex = some t) :
    lockOutline.Safe (machine cfg) t o (fun _ s' => Unlocked t s') (call (.repository a)) s := by
  refine lock_seq (k := .ret) fun s₁ i s₂ r hrely hx => ?_
  obtain ⟨hlease, hnone⟩ := ha s₁ s₂ i r hx
  have hlease₁ : s₁.lease.mutex ≠ some t := fun h => hl (hrely.lease.mp h)
  refine ⟨fun u hu => ⟨by rw [hlease], ?_⟩, ⟨by rwa [hlease], by simp [hnone]⟩⟩
  exact same_of_own (.inr (hrely.repository.mpr hr)) (.inl hnone) hu

theorem loadPlayer_givesBack (cfg' : GameConfiguration) (p : PlayerId) (allow : Bool) :
    GivesBack cfg t o _ (loadPlayer cfg' p allow) := by
  intro s hs
  unfold loadPlayer
  split
  · exact hs
  · refine lock_seq fun s₁ i s₂ _ hrely hx => ?_
    have hs₁ := hs.of_same hrely
    obtain ⟨m, hm, rfl⟩ := exec_repository hx
    simp only [PlayerRepository.exec, Option.ite_none_left_eq_some, Option.some.injEq,
      Prod.mk.injEq] at hm
    obtain ⟨hfree, rfl, -⟩ := hm
    refine ⟨fun u hu => ⟨Iff.rfl, same_of_own (.inl (by simpa using hfree)) (.inr rfl) hu⟩, ?_⟩
    refine Outline.Safe.bind (Outline.Safe.mono ?_
      (storage_locked (datasetGet_all (fun b => ⟨b, rfl⟩) p) hs₁.lease rfl))
    rintro got s₃ ⟨hl, hr⟩
    refine leave_givesBack (fun s s' i r h => ?_) hl hr
    obtain ⟨m', hm', rfl⟩ := exec_repository h
    simp only [PlayerRepository.exec, Option.some.injEq, Prod.ext_iff] at hm'
    rw [← hm'.1]
    exact ⟨rfl, rfl⟩

theorem flushPlayer_givesBack (p : PlayerId) : GivesBack cfg t o _ (flushPlayer p) := by
  intro s hs
  refine lock_seq fun s₁ i s₂ data hrely hx => ?_
  have hs₁ := hs.of_same hrely
  obtain ⟨m, hm, rfl⟩ := exec_repository hx
  simp only [PlayerRepository.exec, Option.ite_none_left_eq_some, Option.some.injEq,
    Prod.ext_iff] at hm
  obtain ⟨hfree, hm, hd⟩ := hm
  have hnone : s₁.repository.mutex = none := by simpa using hfree
  -- the mutex is kept exactly when there is something to store
  have hcases : (data = none ∧ m.mutex = none) ∨ ∃ d, data = some d ∧ m.mutex = some t := by
    rw [← hm, ← hd]
    unfold PlayerRepository.flushEnter
    cases hp : s₁.repository.players p with
    | none => exact .inl ⟨rfl, hnone⟩
    | some record =>
      by_cases hl : record.loaded = true
      · exact .inr ⟨record.data, by simp [hl], by simp [hl]⟩
      · exact .inl ⟨by simp [hl], by simp [hl, hnone]⟩
  rcases hcases with ⟨rfl, hmutex⟩ | ⟨d, rfl, hmutex⟩
  · refine ⟨fun u hu => ⟨Iff.rfl, same_of_own (.inl hnone) (.inl hmutex) hu⟩, ?_⟩
    exact ⟨hs₁.lease, by simp [hmutex]⟩
  · refine ⟨fun u hu => ⟨Iff.rfl, same_of_own (.inl hnone) (.inr hmutex) hu⟩, ?_⟩
    refine Outline.Safe.bind (Outline.Safe.mono ?_
      (storage_locked (datasetPut_all (fun b => ⟨b, rfl⟩) p _) hs₁.lease hmutex))
    rintro stored s₃ ⟨hl, hr⟩
    refine leave_givesBack (fun s s' i r h => ?_) hl hr
    obtain ⟨m', hm', rfl⟩ := exec_repository h
    simp only [PlayerRepository.exec, Option.some.injEq, Prod.ext_iff] at hm'
    rw [← hm'.1, PlayerRepository.flushLeave]
    split <;> exact ⟨rfl, rfl⟩

theorem renewLeases_givesBack (order : List PlayerId) : GivesBack cfg t o _ (renewLeases order) := by
  intro s hs
  refine lock_seq fun s₁ i s₂ leases hrely hx => ?_
  have hs₁ := hs.of_same hrely
  obtain ⟨l, hl, rfl⟩ := exec_lease hx
  simp only [PlayerLeaseService.exec, Option.ite_none_left_eq_some, Option.some.injEq,
    Prod.mk.injEq] at hl
  obtain ⟨hfree, rfl, -⟩ := hl
  refine ⟨fun u hu => ⟨same_of_own (.inl (by simpa using hfree)) (.inr rfl) hu, Iff.rfl⟩, ?_⟩
  have hrefresh : ∀ (rest : List (PlayerId × PlayerLeaseOwner)) (lost : List PlayerId),
      (refreshAll rest lost).All fun a => ∃ p owner, a = .lease (.refresh p owner) := by
    intro rest
    induction rest with
    | nil => intro lost; exact all_pure
    | cons x rest ih => intro lost; exact all_seq ⟨_, _, rfl⟩ fun _ => ih _
  refine Outline.Safe.bind (Outline.Safe.mono ?_ (lock_all
    (K := fun s => s.lease.mutex = some t ∧ s.repository.mutex ≠ some t)
    (fun h hk => ⟨h.lease.mpr hk.1, fun hm => hk.2 (h.repository.mp hm)⟩) ?_ (hrefresh leases [])
    ⟨rfl, hs₁.repository⟩))
  · rintro lost s₃ ⟨hlease, hrepository⟩
    refine lock_seq (k := .ret) fun s₄ i s₅ _ hrely₄ hx₅ => ?_
    obtain ⟨l', hl', rfl⟩ := exec_lease hx₅
    simp only [PlayerLeaseService.exec, Option.some.injEq, Prod.mk.injEq] at hl'
    obtain ⟨rfl, -⟩ := hl'
    refine ⟨fun u hu => ⟨same_of_own (.inr (hrely₄.lease.mpr hlease)) (.inl rfl) hu, Iff.rfl⟩,
      ⟨by simp, fun h => hrepository (hrely₄.repository.mp h)⟩⟩
  · rintro a ⟨p, owner, rfl⟩ i s s' r h
    obtain ⟨l', hl', rfl⟩ := exec_lease h
    simp only [PlayerLeaseService.exec, Option.some.injEq, Prod.mk.injEq] at hl'
    rw [← hl'.1]
    exact ⟨rfl, rfl⟩

theorem code_givesBack (fuel : Nat) : GivesBack cfg t o _ (o.code cfg fuel) := by
  have hC : Prog.Compositional (GivesBack cfg t o) := compositional_givesBack
  have hP : ∀ a : Act, a.locks = false → GivesBack cfg t o _ (call a) := fun a => section_givesBack
  have hR : ∀ fuel key, GivesBack cfg t o _ (resolveOrCreate fuel key) := fun fuel key =>
    directory_givesBack (resolveOrCreate_all (fun d => ⟨d, rfl⟩) fuel key)
  refine Op.code_of_calls hC ?_ ?_ (hR fuel) ?_ renewLeases_givesBack
  · intro ho
    exact Op.code_parts hC hP flushPlayer_givesBack cfg fuel ho fun _ => loadPlayer_givesBack
  · intro source key gate
    exact handleLoginRequest_parts hC (fun a hl _ _ => hP a hl) loadPlayer_givesBack hR cfg fuel source key gate
  · intro key
    exact directory_givesBack (lookup_all (fun d => ⟨d, rfl⟩) key)

variable {guard : Pool T Op Act Act.Reply OpResult (GameProcess T) → Move T Op Env → Prop}

theorem lock_proved (fuel : Nat) :
    lockOutline.Proved (machine cfg) (fun (_ : T) o => o.code cfg fuel) guard
      (fun _ _ _ _ => True) where
  start _ _ _ _ _ := trivial
  ok _ _ _ _ _ _ _ _ _ := trivial
  safe _ _ s _ hr _ := (code_givesBack fuel s hr).mono fun _ _ h => ⟨trivial, h⟩
  compatible _ _ _ _ _ _ _ _ _ _ _ _ hevent u hu := hevent u hu

/-- **No mutex outlives its call.** In every reachable state in which all threads are idle, whatever
they have run before, the process is free. -/
theorem free_of_idle [DecidableEq T] (fuel : Nat) {s₀ : GameProcess T} (hs₀ : s₀.Free)
    {c : Pool T Op Act Act.Reply OpResult (GameProcess T)}
    (hrun : Run (machine cfg) (fun _ o => o.code cfg fuel) guard (Pool.initial s₀) c)
    (hidle : ∀ t, c.idle t = true) : c.shared.Free := by
  have hinitial : ∀ t, Unlocked t s₀ := fun t =>
    ⟨by simp [hs₀.lease], by simp [hs₀.repository]⟩
  have hgood := (lock_proved fuel).sound (Outline.good_initial trivial hinitial) hrun
  have hrest : ∀ t, Unlocked t c.shared := fun t => hgood.rest_of_idle (hidle t)
  constructor
  · cases hm : c.shared.lease.mutex with
    | none => rfl
    | some t => exact absurd hm (hrest t).lease
  · cases hm : c.shared.repository.mutex with
    | none => rfl
    | some t => exact absurd hm (hrest t).repository

end GameProcess

end SomeServer
