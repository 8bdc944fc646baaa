/-
# SomeServer.Game.View — what a process keeps about one player

Five services keep something about a player: the session record, the lease, the receiver binding, the
runtime entry and the repository record. `PlayerView` puts the five together for one player, and
`PlayerView.after` says what a section, with the reply it got, makes of a view. `view_exec` is the
refinement: every section of the process, seen through the view of any player, is that step. The
results about the stores of a process are proved over views, so they do not look into the services.

What a reply says about the view it was computed from is in the lemmas `.._reply`.
-/
import SomeServer.Game.Receivers
import SomeServer.Game.Steps

namespace SomeServer

open Lib

/-- One player, as the five services see it. `known` and `loaded` tell a repository record from a
loaded one. -/
structure PlayerView where
  session : Option PlayerSessionState
  held : Bool
  bound : Bool
  tracked : Bool
  known : Bool
  loaded : Bool
deriving DecidableEq, Repr

/-- A player is in memory: its record is `online` or `detached`. -/
def PlayerView.isPresent (v : PlayerView) : Bool := v.session.any (·.present)

/-- What a section and its reply make of the view of player `p`. -/
def PlayerView.after (p : PlayerId) (v : PlayerView) : (a : Act) → a.Reply → PlayerView
  | .lease (.acquire q), r => if q = p ∧ r.ok then { v with held := true } else v
  | .lease (.release q), _ => if q = p then { v with held := false } else v
  | .lease (.renewLeave lost), _ => if p ∈ lost then { v with held := false } else v
  | .repository (.loadEnter q), _ => if q = p then { v with known := true } else v
  | .repository (.loadLeave q _ _ _), r =>
      if q = p then { v with known := true, loaded := r.ok || v.loaded } else v
  | .repository (.release q), _ => if q = p then { v with known := false, loaded := false } else v
  | .runtime (.emplace q), _ => if q = p then { v with tracked := true } else v
  | .runtime (.removePlayer q), _ => if q = p then { v with tracked := false } else v
  | .ipc (.bindLocalPlayer q), r => if q = p ∧ r.ok then { v with bound := true } else v
  | .ipc (.unbindLocalPlayer q), r => if q = p ∧ r.ok then { v with bound := false } else v
  | .session (.activateEnter q _), r =>
      if q = p ∧ r = .done .success then { v with session := some .online } else v
  | .session (.activateResume q _), r =>
      if q = p then
        if r.ok then { v with session := some .online } else { v with held := false }
      else v
  | .session (.activateInsert q _), _ => if q = p then { v with session := some .online } else v
  | .session (.detach q), r => if q = p ∧ r.ok then { v with session := some .detached } else v
  | .session (.detachFrom q _), r => if q = p ∧ r.ok then { v with session := some .detached } else v
  | .session (.releaseEnter q), r =>
      if q = p ∧ r.isSome then { v with session := some .unloading } else v
  | .session (.releaseRestore q previousRecord), _ =>
      if q = p ∧ v.session.isSome then { v with session := some previousRecord.state } else v
  | .session (.releaseErase q), _ => if q = p then { v with session := none } else v
  | .session (.reconcileLost action _), _ =>
      if action.playerId = p ∧ v.session = some .online ∧ v.held = false then
        { v with session := some .detached }
      else v
  | _, _ => v

variable {T : Type}

/-- A successful `Acquire` leaves the lease held, and touches no other. -/
theorem PlayerLeaseService.acquire_isHeldLocally {cfg : GameConfiguration} {env : Env}
    {q p : PlayerId} {s : PlayerLeaseService T} :
    (s.acquire cfg env q).1.isHeldLocally p =
      if q = p ∧ (s.acquire cfg env q).2.ok = true then true else s.isHeldLocally p := by
  unfold acquire
  by_cases hr : s.redis = true
  · by_cases hh : s.isHeldLocally q = true
    · by_cases hq : q = p
      · subst hq
        simp [hr, hh]
      · simp [hr, hh, hq]
    · have hnone : s.leases q = none := by simpa [isHeldLocally] using hh
      by_cases ha : env.redis = .status "OK"
      · by_cases hq : q = p
        · subst hq
          simp [hr, hnone, ha, acquired, isHeldLocally]
        · simp [hr, hnone, ha, acquired, hq, isHeldLocally, Function.update_of_ne (Ne.symm hq)]
      · have hna : acquired env.redis = false := by simpa [acquired] using ha
        simp only [hr, hh, Bool.not_true, Bool.false_eq_true, if_false]
        split
        · simp
        · simp [hna]
  · simp [hr]

/-- `LoadPlayer` leaves a loaded record exactly when it succeeds or finds one. -/
theorem loadOutcome_loaded {playerId : PlayerId} {allow : Bool} {result : Result}
    {value : Option Blob} {nowMs : UInt64} {record : PlayerRepositoryRecord} :
    (loadOutcome playerId allow result value nowMs record).1.loaded =
      ((loadOutcome playerId allow result value nowMs record).2.ok || record.loaded) := by
  unfold loadOutcome
  split
  · dsimp only
    split <;> simp [PlayerRepositoryRecord.markLoaded]
  · split
    · simp [PlayerRepositoryRecord.markLoaded]
    · split <;> simp [PlayerRepositoryRecord.markLoaded]

namespace GameProcess

/-- The view of one player. -/
def view (s : GameProcess T) (p : PlayerId) : PlayerView where
  session := (s.sessions p).map (·.state)
  held := s.isHeldLocally p
  bound := s.ipc.boundPlayers p
  tracked := (s.runtime p).isSome
  known := (s.repository.players p).isSome
  loaded := s.repository.isLoaded p

variable {cfg : GameConfiguration} {t : T} {env : Env} {s s' : GameProcess T} {p : PlayerId}

/-! ## Sections are steps of the view -/

-- The equations are made here, once for the lemmas below.
attribute [local simp] PlayerView.after in
theorem view_lease {a : LeaseAct} {r : a.Reply} (h : s.exec cfg t env (.lease a) = some (s', r)) :
    s'.view p = (s.view p).after p (.lease a) r := by
  obtain ⟨l, hx, rfl⟩ := exec_lease h
  cases a with
  | acquire q =>
      simp only [PlayerLeaseService.exec, Option.ite_none_left_eq_some, Option.some.injEq,
        Prod.ext_iff] at hx
      obtain ⟨-, rfl, rfl⟩ := hx
      simp only [PlayerView.after, view, isHeldLocally, PlayerLeaseService.acquire_isHeldLocally]
      by_cases hq : q = p ∧ (s.lease.acquire cfg env q).2.ok = true
      · rw [if_pos hq, if_pos hq]
      · rw [if_neg hq, if_neg hq]
  | release q =>
      simp only [PlayerLeaseService.exec, Option.ite_none_left_eq_some, Option.some.injEq,
        Prod.ext_iff] at hx
      obtain ⟨-, rfl, rfl⟩ := hx
      simp only [PlayerView.after, view, isHeldLocally, PlayerLeaseService.isHeldLocally,
        PlayerLeaseService.release_leases]
      by_cases hq : q = p
      · rw [if_pos hq, if_pos hq.symm]
        rfl
      · rw [if_neg hq, if_neg (Ne.symm hq)]
  | renewLeave lost =>
      simp only [PlayerLeaseService.exec, Option.some.injEq, Prod.ext_iff] at hx
      obtain ⟨rfl, -⟩ := hx
      simp only [PlayerView.after, view, isHeldLocally, PlayerLeaseService.isHeldLocally,
        PlayerLeaseService.erase]
      by_cases hp : p ∈ lost
      · rw [if_pos hp, if_pos hp]
        rfl
      · rw [if_neg hp, if_neg hp]
  | isHeldLocally q | renewEnter order =>
      simp only [PlayerLeaseService.exec, Option.ite_none_left_eq_some, Option.some.injEq,
        Prod.ext_iff] at hx
      obtain ⟨-, rfl, -⟩ := hx
      rfl
  | refresh q owner =>
      simp only [PlayerLeaseService.exec, Option.some.injEq, Prod.ext_iff] at hx
      obtain ⟨rfl, -⟩ := hx
      rfl

/-- A change of a record's data is not seen in any view. -/
theorem view_changeData {change : PlayerData → PlayerData} {nowMs : UInt64} {q : PlayerId} :
    ({ s with repository := (s.repository.changeData change nowMs q).1 } : GameProcess T).view p =
      s.view p := by
  unfold PlayerRepository.changeData
  cases hq : s.repository.players q with
  | none => rfl
  | some record =>
    by_cases hl : record.loaded = true
    · by_cases hp : p = q
      · subst hp
        simp [view, isHeldLocally, PlayerRepository.isLoaded, hq, hl,
          PlayerRepositoryRecord.change]
      · simp [view, isHeldLocally, PlayerRepository.isLoaded, hl, Function.update_of_ne hp]
    · simp [hl]

theorem view_repository {a : RepositoryAct} {r : a.Reply}
    (h : s.exec cfg t env (.repository a) = some (s', r)) :
    s'.view p = (s.view p).after p (.repository a) r := by
  obtain ⟨m, hx, rfl⟩ := exec_repository h
  cases a with
  | loadEnter q =>
      simp only [PlayerRepository.exec, Option.ite_none_left_eq_some, Option.some.injEq,
        Prod.ext_iff] at hx
      obtain ⟨-, rfl, -⟩ := hx
      by_cases hq : q = p
      · subst hq
        cases hp : s.repository.players q <;>
          simp [PlayerView.after, view, isHeldLocally, PlayerRepository.loadEnter,
            PlayerRepository.isLoaded, hp]
      · simp [PlayerView.after, view, isHeldLocally, PlayerRepository.loadEnter,
          PlayerRepository.isLoaded, hq, Function.update_of_ne (Ne.symm hq)]
  | loadLeave q allow result value =>
      simp only [PlayerRepository.exec, Option.some.injEq, Prod.ext_iff] at hx
      obtain ⟨rfl, rfl⟩ := hx
      by_cases hq : q = p
      · subst hq
        simp only [PlayerView.after, view, isHeldLocally, PlayerRepository.loadLeave,
          PlayerRepository.isLoaded, Function.update_self, Option.isSome_some, Option.any_some,
          loadOutcome_loaded, if_true]
        cases s.repository.players q <;> rfl
      · simp [PlayerView.after, view, isHeldLocally, PlayerRepository.loadLeave,
          PlayerRepository.isLoaded, hq, Function.update_of_ne (Ne.symm hq)]
  | release q =>
      simp only [PlayerRepository.exec, Option.ite_none_left_eq_some, Option.some.injEq,
        Prod.ext_iff] at hx
      obtain ⟨-, rfl, -⟩ := hx
      by_cases hq : q = p
      · subst hq
        cases hp : s.repository.players q <;>
          simp [PlayerView.after, view, isHeldLocally, PlayerRepository.release,
            PlayerRepository.isLoaded, hp]
      · cases hp : s.repository.players q <;>
          simp [PlayerView.after, view, isHeldLocally, PlayerRepository.release,
            PlayerRepository.isLoaded, hq, hp, Function.update_of_ne (Ne.symm hq)]
  | flushEnter q =>
      simp only [PlayerRepository.exec, Option.ite_none_left_eq_some, Option.some.injEq,
        Prod.ext_iff] at hx
      obtain ⟨-, rfl, -⟩ := hx
      unfold PlayerRepository.flushEnter
      split
      · rfl
      · split <;> rfl
  | flushLeave q storeResult =>
      simp only [PlayerRepository.exec, Option.some.injEq, Prod.ext_iff] at hx
      obtain ⟨rfl, -⟩ := hx
      unfold PlayerRepository.flushLeave
      split
      · rfl
      · by_cases hq : q = p
        · subst hq
          cases hp : s.repository.players q <;>
            simp [PlayerView.after, view, isHeldLocally, PlayerRepository.isLoaded, hp,
              PlayerRepositoryRecord.markFlushed]
        · simp [PlayerView.after, view, isHeldLocally, PlayerRepository.isLoaded,
            Function.update_of_ne (Ne.symm hq)]
  | touchLogin q =>
      simp only [PlayerRepository.exec, Option.ite_none_left_eq_some, Option.some.injEq,
        Prod.ext_iff] at hx
      obtain ⟨-, rfl, -⟩ := hx
      exact view_changeData
  | setDisplayName q displayName =>
      simp only [PlayerRepository.exec, Option.ite_none_left_eq_some, Option.some.injEq,
        Prod.ext_iff] at hx
      obtain ⟨-, rfl, -⟩ := hx
      exact view_changeData
  | snapshot q | loadedPlayerIds order =>
      simp only [PlayerRepository.exec, Option.ite_none_left_eq_some, Option.some.injEq,
        Prod.ext_iff] at hx
      obtain ⟨-, rfl, -⟩ := hx
      rfl

/-- A command counted by an instance is not seen in any view. -/
theorem view_instance {q : PlayerId} {inst inst' : PlayerInstance} (hi : s.runtime q = some inst)
    {m : PlayerRepository T} :
    ({ s with repository := m, runtime := Function.update s.runtime q (some inst') } :
      GameProcess T).view p = ({ s with repository := m } : GameProcess T).view p := by
  by_cases hq : p = q
  · subst hq
    simp [view, isHeldLocally, hi]
  · simp [view, isHeldLocally, Function.update_of_ne hq]

theorem view_runtime {a : RuntimeAct} {r : a.Reply}
    (h : s.exec cfg t env (.runtime a) = some (s', r)) :
    s'.view p = (s.view p).after p (.runtime a) r := by
  cases a with
  | emplace q =>
      simp only [exec, execRuntime, Option.some.injEq, Prod.mk.injEq] at h
      obtain ⟨rfl, -⟩ := h
      by_cases hq : q = p
      · subst hq
        cases hp : s.runtime q <;> simp [PlayerView.after, view, isHeldLocally, hp]
      · cases s.runtime q <;>
          simp [PlayerView.after, view, isHeldLocally, hq, Function.update_of_ne (Ne.symm hq)]
  | removePlayer q =>
      simp only [exec, execRuntime] at h
      by_cases hq : q = p
      · subst hq
        cases hp : s.runtime q <;>
          simp only [hp, Option.some.injEq, Prod.mk.injEq] at h <;>
          obtain ⟨rfl, -⟩ := h <;>
          simp [PlayerView.after, view, isHeldLocally, hp]
      · cases hp : s.runtime q <;>
          simp only [hp, Option.some.injEq, Prod.mk.injEq] at h <;>
          obtain ⟨rfl, -⟩ := h <;>
          simp [PlayerView.after, view, isHeldLocally, hq, Function.update_of_ne (Ne.symm hq)]
  | handleRename q displayName =>
      simp only [exec, execRuntime, Option.ite_none_left_eq_some, Option.some.injEq,
        Prod.ext_iff] at h
      obtain ⟨-, rfl, -⟩ := h
      unfold handleRename
      cases hi : s.runtime q with
      | none => rfl
      | some inst =>
        dsimp only
        split
        · rfl
        · split
          · exact view_changeData
          · rw [view_instance hi]
            exact view_changeData
  | handleEcho q =>
      simp only [exec, execRuntime, Option.ite_none_left_eq_some, Option.some.injEq,
        Prod.ext_iff] at h
      obtain ⟨-, rfl, -⟩ := h
      unfold handleEcho
      cases hi : s.runtime q with
      | none => rfl
      | some inst =>
        dsimp only
        split
        · rfl
        · exact view_instance hi

theorem view_ipc {a : IpcAct} {r : a.Reply} (h : s.exec cfg t env (.ipc a) = some (s', r)) :
    s'.view p = (s.view p).after p (.ipc a) r := by
  obtain ⟨m, hx, rfl⟩ := exec_ipc h
  cases a with
  | bindLocalPlayer q =>
      simp only [GameIpcClientService.exec, Option.some.injEq, Prod.ext_iff] at hx
      obtain ⟨rfl, rfl⟩ := hx
      simp only [PlayerView.after, view, isHeldLocally, GameIpcClientService.bindLocalPlayer_bound]
      split <;> rfl
  | unbindLocalPlayer q =>
      simp only [GameIpcClientService.exec, Option.some.injEq, Prod.ext_iff] at hx
      obtain ⟨rfl, rfl⟩ := hx
      simp only [PlayerView.after, view, isHeldLocally,
        GameIpcClientService.unbindLocalPlayer_bound]
      split <;> rfl
  | bindRemotePlayer q instanceId =>
      simp only [GameIpcClientService.exec, Option.some.injEq, Prod.ext_iff] at hx
      obtain ⟨rfl, -⟩ := hx
      unfold GameIpcClientService.bindRemotePlayer
      split
      · rfl
      · split <;> rfl
  | sendProcessPayload target payload =>
      simp only [GameIpcClientService.exec, Option.some.injEq, Prod.ext_iff] at hx
      obtain ⟨rfl, -⟩ := hx
      rfl

/-- A session record is written. -/
theorem view_set {q : PlayerId} {record : PlayerSessionRecord} {state : PlayerSessionState}
    (hstate : record.state = state) :
    ({ s with sessions := s.sessions.set q record } : GameProcess T).view p =
      if q = p then { s.view p with session := some state } else s.view p := by
  by_cases hq : q = p
  · subst hq
    simp [view, isHeldLocally, PlayerSessions.set, hstate]
  · simp [view, isHeldLocally, PlayerSessions.set, hq, Function.update_of_ne (Ne.symm hq)]

theorem view_detachIf {q : PlayerId} {matchesGate : GateSession → Bool} {nowMs : UInt64} :
    ({ s with sessions := (s.sessions.detachIf cfg matchesGate q nowMs).1 } :
      GameProcess T).view p =
      if q = p ∧ (s.sessions.detachIf cfg matchesGate q nowMs).2.ok = true then
        { s.view p with session := some .detached }
      else s.view p := by
  unfold PlayerSessions.detachIf
  cases hq : s.sessions q with
  | none => simp
  | some record =>
    dsimp only
    split
    · simp
    · split
      · simp
      · simp only [Result.success_ok, and_true]
        exact view_set rfl

theorem view_leaseRelease {q : PlayerId} :
    ({ s with lease := (s.lease.release q).1 } : GameProcess T).view p =
      if q = p then { s.view p with held := false } else s.view p := by
  simp only [view, isHeldLocally, PlayerLeaseService.isHeldLocally,
    PlayerLeaseService.release_leases]
  by_cases hq : q = p
  · rw [if_pos hq, if_pos hq.symm]
    rfl
  · rw [if_neg hq, if_neg (Ne.symm hq)]

/-- A player is online when it has entered at once. -/
theorem view_activateEnter {q : PlayerId} {gate : GateSession} {nowMs : UInt64} {held : Bool} :
    ({ s with sessions := (s.sessions.activateEnter q gate nowMs held).1 } : GameProcess T).view p =
      if q = p ∧ (s.sessions.activateEnter q gate nowMs held).2 = .done .success then
        { s.view p with session := some .online }
      else s.view p := by
  unfold PlayerSessions.activateEnter
  cases hq : s.sessions q with
  | none => simp
  | some record =>
    dsimp only
    split
    · simp
    · cases hstate : record.state with
      | online =>
          simp only [and_true]
          exact view_set hstate
      | detached =>
          simp only [and_true]
          exact view_set rfl
      | loading | unloading => simp [transitioning, Result.success, Result.failure]

/-- A release that is given up puts the state of the record back. -/
theorem view_releaseRestore {q : PlayerId} {previousRecord : PlayerSessionRecord} :
    ({ s with sessions := s.sessions.releaseRestore q previousRecord } : GameProcess T).view p =
      if q = p ∧ (s.view p).session.isSome then { s.view p with session := some previousRecord.state }
      else s.view p := by
  unfold PlayerSessions.releaseRestore
  cases hq : s.sessions q with
  | none =>
      by_cases hp : q = p
      · subst hp
        simp [view, hq]
      · simp [hp]
  | some record =>
    by_cases hp : q = p
    · subst hp
      have hsome : (s.view q).session.isSome = true := by simp [view, hq]
      simp only [hsome, and_self, if_true]
      rw [view_set rfl, if_pos rfl]
    · simp only [hp, false_and, if_false]
      rw [view_set rfl, if_neg hp]

/-- A player that has lost its lease is detached if it is online. -/
theorem view_reconcileLost {q : PlayerId} {now : UInt64} :
    ({ s with sessions := (s.sessions.reconcileLost cfg q now
        (s.isHeldLocally q)).1 } : GameProcess T).view p =
      if q = p ∧ (s.view p).session = some .online ∧ (s.view p).held = false then
        { s.view p with session := some .detached }
      else s.view p := by
  unfold PlayerSessions.reconcileLost
  cases hq : s.sessions q with
  | none =>
      by_cases hp : q = p
      · simp [view, ← hp, hq]
      · simp [hp]
  | some record =>
    by_cases hheld : s.isHeldLocally q = true
    · by_cases hp : q = p
      · simp [view, ← hp, hheld]
      · simp [hp, hheld]
    · by_cases hp : q = p
      · subst hp
        cases hstate : record.state with
        | online =>
            simp only [if_neg hheld]
            rw [hstate, view_set rfl, if_pos rfl]
            simp [view, hq, hstate, hheld, PlayerSessionRecord.detach]
        | _ => simp [view, hq, hstate, hheld]
      · cases hstate : record.state with
        | online =>
            simp only [if_neg hheld]
            rw [hstate, view_set rfl, if_neg hp]
            simp [hp]
        | _ => simp [hp, hheld, hstate]

theorem view_session {a : SessionAct} {r : a.Reply}
    (h : s.exec cfg t env (.session a) = some (s', r)) :
    s'.view p = (s.view p).after p (.session a) r := by
  cases a with
  | activateEnter q gate =>
      simp only [exec, execSession, Option.ite_none_left_eq_some, Option.some.injEq,
        Prod.ext_iff] at h
      obtain ⟨-, rfl, rfl⟩ := h
      exact view_activateEnter
  | activateResume q gate =>
      simp only [exec, execSession, Option.ite_none_left_eq_some, Option.some.injEq,
        Prod.ext_iff] at h
      obtain ⟨-, rfl, rfl⟩ := h
      unfold activateResume PlayerSessions.activateResume
      cases hq : s.sessions q with
      | none => exact view_leaseRelease
      | some record =>
        dsimp only
        by_cases hpresent : record.state.present = true
        · simp only [hpresent, if_true, PlayerView.after, Result.success_ok]
          exact view_set rfl
        · rw [if_neg hpresent]
          exact view_leaseRelease
  | activateInsert q gate =>
      simp only [exec, execSession, Option.some.injEq, Prod.mk.injEq] at h
      obtain ⟨rfl, -⟩ := h
      exact view_set rfl
  | detach q =>
      simp only [exec, execSession, Option.some.injEq, Prod.mk.injEq] at h
      obtain ⟨rfl, rfl⟩ := h
      exact view_detachIf
  | detachFrom q gate =>
      simp only [exec, execSession, Option.some.injEq, Prod.mk.injEq] at h
      obtain ⟨rfl, rfl⟩ := h
      exact view_detachIf
  | releaseEnter q =>
      simp only [exec, execSession, Option.some.injEq, Prod.mk.injEq] at h
      obtain ⟨rfl, rfl⟩ := h
      unfold PlayerSessions.releaseEnter
      cases hq : s.sessions q with
      | none => simp [PlayerView.after]
      | some record =>
        simp only [PlayerView.after, Option.isSome_some, and_true]
        exact view_set rfl
  | releaseRestore q previousRecord =>
      simp only [exec, execSession, Option.some.injEq, Prod.mk.injEq] at h
      obtain ⟨rfl, -⟩ := h
      exact view_releaseRestore
  | releaseErase q =>
      simp only [exec, execSession, Option.some.injEq, Prod.mk.injEq] at h
      obtain ⟨rfl, -⟩ := h
      by_cases hq : q = p
      · subst hq
        simp [PlayerView.after, view, isHeldLocally]
      · simp [PlayerView.after, view, isHeldLocally, hq, Function.update_of_ne (Ne.symm hq)]
  | reconcileLost action now =>
      simp only [exec, execSession, Option.ite_none_left_eq_some, Option.some.injEq,
        Prod.ext_iff] at h
      obtain ⟨-, rfl, rfl⟩ := h
      exact view_reconcileLost
  | expiredPlayers order now | snapshot q =>
      simp only [exec, execSession, Option.some.injEq, Prod.mk.injEq] at h
      obtain ⟨rfl, -⟩ := h
      rfl
  | lostPlayers order =>
      simp only [exec, execSession, Option.ite_none_left_eq_some, Option.some.injEq,
        Prod.ext_iff] at h
      obtain ⟨-, rfl, -⟩ := h
      rfl

/-- **Every section is a step of every player's view.** -/
theorem view_exec {a : Act} {r : a.Reply} (h : s.exec cfg t env a = some (s', r)) (p : PlayerId) :
    s'.view p = (s.view p).after p a r := by
  cases a with
  | lease a => exact view_lease h
  | repository a => exact view_repository h
  | runtime a => exact view_runtime h
  | ipc a => exact view_ipc h
  | session a => exact view_session h
  | clock => obtain ⟨rfl, -⟩ := exec_clock h; rfl
  | storage a => obtain ⟨rfl, -⟩ := exec_storage h; rfl
  | directory a => obtain ⟨d, -, rfl⟩ := exec_directory h; rfl
  | persistence a => obtain ⟨m, -, rfl⟩ := exec_persistence h; rfl

/-! ## What a reply says about the view -/

section Replies

/-- The first section of `ActivatePlayer` tells which of its four branches the view is in. -/
theorem activateEnter_reply {gate : GateSession} {r : ActivateDecision}
    (h : s.exec cfg t env (.session (.activateEnter p gate)) = some (s', r)) :
    (r = .proceed false ∧ (s.view p).session = none) ∨
      (r = .proceed true ∧ (s.view p).isPresent = true ∧ (s.view p).held = false) ∨
      (r = .done .success ∧ (s.view p).isPresent = true ∧ (s.view p).held = true) ∨
      (r = .done transitioning ∧ (s.view p).session.isSome = true ∧
        (s.view p).isPresent = false) := by
  simp only [exec, execSession, Option.ite_none_left_eq_some, Option.some.injEq,
    Prod.ext_iff] at h
  obtain ⟨-, -, rfl⟩ := h
  unfold PlayerSessions.activateEnter
  cases hp : s.sessions p with
  | none => exact .inl ⟨rfl, by simp [view, hp]⟩
  | some record =>
    by_cases hheld : s.isHeldLocally p = true
    · cases hstate : record.state <;>
        simp [view, PlayerView.isPresent, hp, hheld, hstate, PlayerSessionState.present]
    · cases hstate : record.state <;>
        simp [view, PlayerView.isPresent, hp, hheld, hstate, PlayerSessionState.present]

theorem activateResume_reply {gate : GateSession} {r : Result}
    (h : s.exec cfg t env (.session (.activateResume p gate)) = some (s', r)) :
    r.ok = (s.view p).isPresent := by
  simp only [exec, execSession, Option.ite_none_left_eq_some, Option.some.injEq,
    Prod.ext_iff] at h
  obtain ⟨-, -, rfl⟩ := h
  unfold activateResume PlayerSessions.activateResume
  cases hp : s.sessions p with
  | none => simp [view, PlayerView.isPresent, hp]
  | some record =>
    by_cases hpresent : record.state.present = true
    · simp [view, PlayerView.isPresent, hp, hpresent]
    · simp [view, PlayerView.isPresent, hp, hpresent, transitioning]

theorem releaseEnter_reply {r : Option PlayerSessionRecord}
    (h : s.exec cfg t env (.session (.releaseEnter p)) = some (s', r)) : r = s.sessions p := by
  simp only [exec, execSession, Option.some.injEq, Prod.mk.injEq] at h
  obtain ⟨-, rfl⟩ := h
  unfold PlayerSessions.releaseEnter
  cases s.sessions p <;> rfl

theorem detachIf_ok {matchesGate : GateSession → Bool} {nowMs : UInt64}
    (h : (s.sessions.detachIf cfg matchesGate p nowMs).2.ok = true) :
    (s.view p).session = some .online := by
  unfold PlayerSessions.detachIf at h
  cases hp : s.sessions p with
  | none => simp [hp] at h
  | some record =>
    by_cases hstate : record.state = .online
    · simp [view, hp, hstate]
    · simp [hp, hstate] at h

theorem lostPlayers_reply {order : List PlayerId} {r : List LostPlayerAction}
    (h : s.exec cfg t env (.session (.lostPlayers order)) = some (s', r)) :
    ∀ action ∈ r, (s.view action.playerId).held = false := by
  simp only [exec, execSession, Option.ite_none_left_eq_some, Option.some.injEq,
    Prod.ext_iff] at h
  obtain ⟨-, -, rfl⟩ := h
  intro action hmem
  obtain ⟨q, -, hq⟩ := List.mem_filterMap.mp hmem
  obtain ⟨record, -, hrec⟩ := Option.bind_eq_some_iff.mp hq
  split at hrec
  · rename_i hcond
    cases hrec
    simp only [Bool.and_eq_true, Bool.not_eq_true'] at hcond
    exact hcond.2
  · cases hrec

/-- `ActivatePlayer` goes on after a bind only when the player is bound. -/
theorem bindLocalPlayer_reply {r : Result}
    (h : s.exec cfg t env (.ipc (.bindLocalPlayer p)) = some (s', r)) (hr : bindFailed r = false) :
    r.ok = true ∨ (s.view p).bound = true := by
  obtain ⟨m, hx, -⟩ := exec_ipc h
  simp only [GameIpcClientService.exec, Option.some.injEq, Prod.ext_iff] at hx
  obtain ⟨-, rfl⟩ := hx
  rcases GameIpcClientService.bindLocalPlayer_cases p s.ipc with
    ⟨error, hb, herror⟩ | ⟨self, version, -, -, hb⟩
  · rw [hb] at hr
    refine .inr (herror ?_)
    by_contra hne
    simp [bindFailed, hne] at hr
  · rw [hb]
    exact .inl rfl

/-- When the bindings resolve, exactly the players bound here can be unbound. -/
theorem unbindLocalPlayer_reply {r : Result}
    (h : s.exec cfg t env (.ipc (.unbindLocalPlayer p)) = some (s', r)) (hres : s.ipc.Resolves) :
    r.ok = (s.view p).bound := by
  obtain ⟨m, hx, -⟩ := exec_ipc h
  simp only [GameIpcClientService.exec, Option.some.injEq, Prod.ext_iff] at hx
  obtain ⟨-, rfl⟩ := hx
  show (s.ipc.unbindLocalPlayer p).2.ok = s.ipc.boundPlayers p
  rcases GameIpcClientService.unbindLocalPlayer_cases p s.ipc with ⟨error, hb, hnot⟩ | ⟨hbound, hb⟩
  · have hunbound : s.ipc.boundPlayers p = false := by
      rw [Bool.eq_false_iff]
      exact fun hbound => hnot ⟨hres, hbound⟩
    rw [hb, hunbound]
    rfl
  · rw [hb, hbound]
    rfl

theorem release_reply {r : Result}
    (h : s.exec cfg t env (.repository (.release p)) = some (s', r)) : r.ok = (s.view p).known := by
  obtain ⟨m, hx, -⟩ := exec_repository h
  simp only [PlayerRepository.exec, Option.ite_none_left_eq_some, Option.some.injEq,
    Prod.ext_iff] at hx
  obtain ⟨-, -, rfl⟩ := hx
  unfold PlayerRepository.release
  cases hp : s.repository.players p <;> simp [view, hp]

end Replies

end GameProcess

end SomeServer
