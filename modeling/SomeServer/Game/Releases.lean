/-
# SomeServer.Game.Releases — what a failed `ReleasePlayer` leaves behind

`ReleasePlayer` marks the session record `unloading` first, and puts the record back when the flush
fails. Its two later exits with an error do not: the exit behind `UnbindLocalPlayer` leaves the record in
`unloading`, in which no activation takes the player, and the exit behind the repository's release has
taken the receiver binding away as well. `failed_release` says for every reachable state which releases
leave the session as it was.
-/
import SomeServer.Game.Reclaim

namespace SomeServer

open Lib

/-- The fields of a session record that a failed release is to leave alone. -/
def PlayerSessionRecord.standing (record : PlayerSessionRecord) :
    PlayerSessionState × GateSession × UInt64 :=
  (record.state, record.gate, record.detachDeadlineMs)

namespace GameProcess

variable {T : Type} {cfg : GameConfiguration} {t : T} {s s' : GameProcess T} {p : PlayerId}
  {ok : Act → Env → GameProcess T → Prop}

/-- Player `p`'s session record and receiver binding are as they were in `s`. -/
structure SameSession (p : PlayerId) (s s' : GameProcess T) : Prop where
  record : (s'.sessions p).map (·.standing) = (s.sessions p).map (·.standing)
  bound : s'.ipc.boundPlayers p = s.ipc.boundPlayers p
  receiver : s'.ipc.receivers (playerReceiverAddress p) = s.ipc.receivers (playerReceiverAddress p)

theorem SameSession.of_eq (hsessions : s'.sessions p = s.sessions p) (hipc : s'.ipc = s.ipc) :
    SameSession p s s' :=
  ⟨by rw [hsessions], by rw [hipc], by rw [hipc]⟩

/-- What a release does not look at: the session records and the IPC service are those of `s`. -/
def Beside (s s' : GameProcess T) : Prop := s'.sessions = s.sessions ∧ s'.ipc = s.ipc

theorem Beside.repository {a : RepositoryAct} {r : a.Reply} {env : Env} {s₀ : GameProcess T}
    (hs : Beside s₀ s) (h : s.exec cfg t env (.repository a) = some (s', r)) : Beside s₀ s' := by
  obtain ⟨m, -, rfl⟩ := exec_repository h
  exact hs

/-- A flush reaches neither the session records nor the IPC service. -/
theorem flushPlayer_beside {V : PlayerId → PlayerView} (hs : Alone V s) :
    (flushPlayer p).Ends (machine cfg) t ok (fun r s' => (Alone V s' ∧ ((V p).loaded = true →
      ∃ stored i s'', ok (.repository (.flushLeave p stored)) i s'' ∧ r.ok = stored.ok)) ∧
        Beside s s') s := by
  refine Prog.Ends.keep (P := fun a => (∃ b, a = .repository b) ∨ ∃ b, a = .storage b) ?_ ?_ ⟨rfl, rfl⟩
    (flushPlayer_ends hs p)
  · intro a i s₁ s₂ r ha hs₁ hx
    have hexec : s₁.exec cfg t i a = some (s₂, r) := hx
    rcases ha with ⟨b, rfl⟩ | ⟨b, rfl⟩
    · exact hs₁.repository hexec
    · obtain ⟨rfl, -⟩ := exec_storage hexec
      exact hs₁
  · exact flushPlayer_sections (.inl ⟨_, rfl⟩) (.inr ⟨_, rfl⟩) (fun _ => .inr ⟨_, rfl⟩)
      (fun _ => .inr ⟨_, rfl⟩) fun _ => .inl ⟨_, rfl⟩

/-! ## From the unbinding on -/

/-- How `ReleasePlayer` ends from the unbinding on. -/
structure Unloaded (p : PlayerId) (s : GameProcess T) (r : Result) (s' : GameProcess T) : Prop where
  unbound : s.ipc.boundPlayers p = false → r.ok = false ∧ Beside s s'
  unknown : s.ipc.boundPlayers p = true → (s.view p).known = false →
    r.ok = false ∧ s'.ipc.boundPlayers p = false
  gone : s.ipc.boundPlayers p = true → (s.view p).known = true → r.ok = true

theorem unloadPlayer_unloaded (hs : Alone s.view s) :
    (unloadPlayer p).Ends (machine cfg) t ok (Unloaded p s) s := by
  -- the receiver is unbound first
  refine hs.seq rfl fun i s₁ unbind _ hx hs₁ => ?_
  have hknown₁ : (s₁.view p).known = (s.view p).known := by
    rw [hs₁.views]
    cases hu : unbind.ok <;> simp [PlayerView.after, hu]
  obtain ⟨m, hm, rfl⟩ := exec_ipc hx
  simp only [GameIpcClientService.exec, Option.some.injEq] at hm
  rcases GameIpcClientService.unbindLocalPlayer_cases p s.ipc with ⟨error, hu, hnot⟩ | ⟨hbound, hu⟩
  · -- nothing has changed, and a bound player would have been unbound
    rw [hu] at hm
    obtain ⟨rfl, rfl⟩ := Prod.mk.inj hm
    have hunbound : s.ipc.boundPlayers p = false := by
      cases hb : s.ipc.boundPlayers p with
      | false => rfl
      | true => exact absurd ⟨hs.sound.resolves, hb⟩ hnot
    exact ⟨fun _ => ⟨rfl, rfl, rfl⟩, fun h => by simp [hunbound] at h, fun h => by simp [hunbound] at h⟩
  -- bound: the runtime and then the repository are released
  · rw [hu] at hm
    obtain ⟨rfl, rfl⟩ := Prod.mk.inj hm
    refine hs₁.seq rfl fun i₂ s₂ _ _ hx₂ hs₂ => ?_
    obtain ⟨m₂, rt₂, rfl⟩ := exec_runtime hx₂
    refine hs₂.seq rfl fun i₃ s₃ release _ hx₃ hs₃ => ?_
    have hrelease : release.ok = (s.view p).known := by
      rw [release_reply hx₃, hs₂.views, ← hknown₁, ← hs₁.views]
      simp [PlayerView.after]
    obtain ⟨m₃, -, rfl⟩ := exec_repository hx₃
    -- without a repository record the last release fails, and the binding is gone already
    cases hknown : (s.view p).known with
    | false =>
        rw [hknown] at hrelease
        simp only [hrelease, Bool.not_false, if_true]
        refine ⟨fun h => ?_, fun _ _ => ⟨hrelease, by simp⟩, fun _ h => ?_⟩
        · rw [hbound] at h
          cases h
        · rw [hknown] at h
          cases h
    | true =>
        rw [hknown] at hrelease
        simp only [hrelease, Bool.not_true, Bool.false_eq_true, if_false]
        refine hs₃.seq rfl fun i₄ s₄ _ _ _ hs₄ => hs₄.seq rfl fun i₅ s₅ _ _ _ _ => ?_
        refine ⟨fun h => ?_, fun _ h => ?_, fun _ _ => rfl⟩
        · rw [hbound] at h
          cases h
        · rw [hknown] at h
          cases h

/-! ## The whole release -/

/-- A player with a dirty record is loaded. -/
theorem Sound.loaded_of_dirty (hs : s.Sound) (hdirty : (s.repository.players p).any (·.dirty) = true) :
    (s.view p).loaded = true := by
  show (s.repository.players p).any (·.loaded) = true
  cases hp : s.repository.players p with
  | none => simp [hp] at hdirty
  | some stored =>
      rw [hp] at hdirty
      exact hs.dirty p stored hp (by simpa using hdirty)

/-- The storage's answer to the flush of player `p`, if the release comes to one. -/
def FlushAnswered (p : PlayerId) (accepts : Bool) (a : Act) (_ : Env) (_ : GameProcess T) : Prop :=
  match a with
  | .repository (.flushLeave q stored) => q = p → stored.ok = accepts
  | _ => True

/-- The states in which a release of player `p` leaves the session as it is or succeeds: there is no
session; the record is dirty and the storage refuses it; the player is bound and has a repository record;
or the player is not bound, and an earlier release has already left it in `unloading`. -/
def Restores (p : PlayerId) (accepts : Bool) (s : GameProcess T) : Prop :=
  s.sessions p = none ∨
    ((s.repository.players p).any (·.dirty) = true ∧ accepts = false) ∨
    (s.ipc.boundPlayers p = true ∧ (s.repository.players p).isSome = true) ∨
    (s.ipc.boundPlayers p = false ∧ (s.sessions p).map (·.state) = some .unloading)

/-- The process as `ReleasePlayer` has it when it comes to the unbinding. -/
structure Marked (p : PlayerId) (record : PlayerSessionRecord) (s s' : GameProcess T) : Prop where
  alone : Alone s'.view s'
  session : ∃ nowMs, s'.sessions p = some { record with state := .unloading, lastStateChangeMs := nowMs }
  ipc : s'.ipc = s.ipc
  known : (s'.view p).known = (s.repository.players p).isSome

/-- The last part of a release that has passed the flush. -/
theorem unloadPlayer_marked {record : PlayerSessionRecord} {accepts : Bool}
    (hrecord : s.sessions p = some record)
    (haccepted : ¬ ((s.repository.players p).any (·.dirty) = true ∧ accepts = false))
    (hs : Marked p record s s') :
    (unloadPlayer p).Ends (machine cfg) t ok
      (fun r s'' => (r.ok = false → SameSession p s s'') ↔ Restores p accepts s) s' := by
  refine Prog.Ends.mono (fun r s'' h => ?_) (unloadPlayer_unloaded hs.alone)
  obtain ⟨hunbound, hunknown, hgone⟩ := h
  rw [hs.ipc] at hunbound hunknown hgone
  rw [hs.known] at hunknown hgone
  simp only [Restores, hrecord, haccepted, reduceCtorEq, false_or, Option.map_some, Option.some.injEq]
  cases hbound : s.ipc.boundPlayers p with
  | false =>
      -- the record stays in `unloading`
      obtain ⟨hfail, hsessions, hipc⟩ := hunbound hbound
      obtain ⟨nowMs, hsession⟩ := hs.session
      simp only [hfail, forall_const, Bool.false_eq_true, false_and, false_or, true_and]
      constructor
      · intro hsame
        have hstanding := hsame.record
        rw [hsessions, hsession, hrecord] at hstanding
        simp only [PlayerSessionRecord.standing, Option.map_some, Option.some.injEq, Prod.mk.injEq]
          at hstanding
        exact hstanding.1.symm
      · intro hstate
        refine ⟨?_, by rw [hipc, hs.ipc], by rw [hipc, hs.ipc]⟩
        rw [hsessions, hsession, hrecord]
        simp [PlayerSessionRecord.standing, hstate]
  | true =>
      cases hknown : (s.repository.players p).isSome with
      | false =>
          -- the binding is gone, and the repository has nothing to release
          obtain ⟨hfail, hlost⟩ := hunknown hbound hknown
          simp only [hfail, forall_const, Bool.false_eq_true, and_false, false_and, or_false, iff_false,
            reduceCtorEq]
          intro hsame
          have hkept := hsame.bound
          rw [hlost, hbound] at hkept
          cases hkept
      | true => simp [hgone hbound hknown]

/-- **A failed release, from any state.** When no mutex is held, a `ReleasePlayer` that fails leaves the
session as it was if and only if `Restores` holds of the state it has started in. -/
theorem releasePlayer_restores (hs : Alone s.view s) (p : PlayerId) (accepts : Bool) :
    (releasePlayer p).Ends (machine cfg) t (FlushAnswered p accepts)
      (fun r s' => (r.ok = false → SameSession p s s') ↔ Restores p accepts s) s := by
  refine hs.seq rfl fun i s₁ previous _ hx hs₁ => ?_
  have hprevious := releaseEnter_reply hx
  simp only [exec, execSession, Option.some.injEq, Prod.mk.injEq] at hx
  obtain ⟨rfl, -⟩ := hx
  cases hrecord : s.sessions p with
  | none =>
      rw [hprevious, hrecord]
      refine iff_of_true (fun _ => .of_eq ?_ rfl) (.inl hrecord)
      simp [PlayerSessions.releaseEnter, hrecord]
  | some record =>
      rw [hprevious, hrecord]
      refine hs₁.seq rfl fun i₂ s₂ repository _ hx₂ hs₂ => ?_
      have hrepository : repository = s.repository.players p := by rw [snapshot_reply hx₂]
      have hbeside := Beside.repository ⟨rfl, rfl⟩ hx₂
      have hmarked : ∀ s', Alone s₂.view s' → Beside s₂ s' → Marked p record s s' := by
        intro s' hs' hbeside'
        refine ⟨⟨hs'.free, hs'.sound, fun _ => rfl⟩, ⟨i.nowMs, ?_⟩, ?_, ?_⟩
        · rw [hbeside'.1, hbeside.1]
          simp [PlayerSessions.releaseEnter, PlayerSessions.set, hrecord]
        · rw [hbeside'.2, hbeside.2]
        · rw [hs'.views, view_exec hx₂]
          rfl
      have hself : Alone s₂.view s₂ := ⟨hs₂.free, hs₂.sound, fun _ => rfl⟩
      rw [hrepository]
      cases hdirty : (s.repository.players p).any (·.dirty) with
      | false =>
          refine unloadPlayer_marked hrecord (fun h => ?_) (hmarked s₂ hself ⟨rfl, rfl⟩)
          rw [hdirty] at h
          cases h.1
      | true =>
          refine Prog.Ends.bind (Prog.Ends.mono ?_ (flushPlayer_beside hself))
          rintro flush s₃ ⟨⟨hs₃, hflush⟩, hbeside₃⟩
          -- a dirty record is loaded, so it is the storage that decides
          have hanswer : flush.ok = accepts := by
            obtain ⟨stored, i', s', hok, hr⟩ := hflush (by
              rw [view_exec hx₂]
              exact hs.sound.loaded_of_dirty hdirty)
            exact hr.trans (hok rfl)
          cases hacc : accepts with
          | true =>
              rw [hanswer, hacc]
              refine unloadPlayer_marked hrecord (fun h => ?_) (hmarked s₃ hs₃ hbeside₃)
              cases h.2
          | false =>
              rw [hanswer, hacc]
              refine hs₃.seq rfl fun i₄ s₄ _ _ hx₄ _ => ?_
              simp only [exec, execSession, Option.some.injEq, Prod.mk.injEq] at hx₄
              obtain ⟨rfl, -⟩ := hx₄
              obtain ⟨-, ⟨nowMs, hsession⟩, hipc, -⟩ := hmarked s₃ hs₃ hbeside₃
              refine iff_of_true (fun _ => .of_eq ?_ hipc) (.inr (.inl ⟨hdirty, rfl⟩))
              simp [PlayerSessions.releaseRestore, PlayerSessions.set, hsession, hrecord]

/-- **Failed releases.** Take any run of any operations on any number of threads, a moment at which no
mutex is held, a player, and an answer of the storage to the player's flush. A `ReleasePlayer` that fails
leaves the state, the gate session and the deadline of the session record and the receiver binding as they
were if and only if `Restores` holds. -/
theorem failed_release [DecidableEq T] (fuel : Nat) {self : Option ProcessRef} {redis : Bool}
    {members : List ProcessRef} {c : Pool T Op Act Act.Reply OpResult (GameProcess T)}
    (hrun : Run (machine cfg) (fun _ o => o.code cfg fuel) (fun _ _ => True)
      (Pool.initial (started self redis members)) c) (hfree : c.shared.Free)
    (p : PlayerId) (accepts : Bool) :
    (releasePlayer p).Ends (machine cfg) t (FlushAnswered p accepts)
      (fun r s' => (r.ok = false → SameSession p c.shared s') ↔ Restores p accepts c.shared) c.shared := by
  have hsound : c.shared.Sound :=
    hrun.shared_invariant (fun t a i s s' r h hx => h.exec hx) agree_started.sound
  exact releasePlayer_restores ⟨hfree, hsound, fun _ => rfl⟩ p accepts

/-! ### A refused flush, and a lost lease -/

/-- The disconnected player's record is dirty, and a release whose flush is refused leaves the session as
it was. -/
theorem failed_release_refused :
    ∃ c, startedSolo.play (machine soloGame) (fun _ o => o.code soloGame 0) (fun _ _ => true)
        disconnectedPlayer = some c ∧
      (releasePlayer 7).Ends (machine soloGame) () (FlushAnswered 7 false)
        (fun r s' => r.ok = false → SameSession 7 c.shared s') c.shared := by
  have hend : (startedSolo.play (machine soloGame) (fun _ o => o.code soloGame 0)
      (fun _ _ => true) disconnectedPlayer).map (fun c => (c.shared.lease.mutex, c.shared.repository.mutex,
        (c.shared.repository.players 7).any (·.dirty))) = some (none, none, true) := by decide
  obtain ⟨c, hc, hcs⟩ := Option.map_eq_some_iff.mp hend
  simp only [Prod.mk.injEq] at hcs
  obtain ⟨hlease, hrepository, hdirty⟩ := hcs
  have hends := failed_release (t := ()) 0 (Run.refl.play (fun _ _ _ => trivial) hc)
    ⟨hlease, hrepository⟩ 7 false
  exact ⟨c, hc, Prog.Ends.mono (fun _ _ h => h.mpr (.inr (.inl ⟨hdirty, rfl⟩))) hends⟩

/-- Player 7 has lost its lease and has been detached. Its release fails at the unbinding, and the record
is left in `unloading`. -/
theorem failed_release_marked :
    ∃ c c', Run (machine soloGame) (fun _ o => o.code soloGame 0) (fun c m => sessionMoves c m = true)
        startedSolo c ∧
      c.play (machine soloGame) (fun _ o => o.code soloGame 0) sessionMoves
        (.start () (.release 7) :: sections 8 (emptyServers 400000)) = some c' ∧
      c'.returned () = some (.release 7, .result (.failure "player is not bound locally")) ∧
      (c.shared.sessions 7).map (·.state) = some .detached ∧
      (c'.shared.sessions 7).map (·.state) = some .unloading ∧
      ¬ SameSession 7 c.shared c'.shared := by
  -- the run and the release behind it are evaluated, and everything is read off the result
  have hend : ((startedSolo.play (machine soloGame) (fun _ o => o.code soloGame 0) sessionMoves
      strandedPlayer).bind fun c => (c.play (machine soloGame) (fun _ o => o.code soloGame 0)
        sessionMoves (.start () (.release 7) :: sections 8 (emptyServers 400000))).map
          fun c' => ((c.shared.sessions 7).map (·.state), c'.returned (),
            (c'.shared.sessions 7).map (·.state))) =
      some (some .detached, some (.release 7, .result (.failure "player is not bound locally")),
        some .unloading) := rfl
  obtain ⟨c, hc, hplay⟩ := Option.bind_eq_some_iff.mp hend
  obtain ⟨c', hc', hcs⟩ := Option.map_eq_some_iff.mp hplay
  simp only [Prod.mk.injEq] at hcs
  obtain ⟨hbefore, hreturned, hafter⟩ := hcs
  refine ⟨c, c', Run.refl.play (fun _ _ h => h) hc, hc', hreturned, hbefore, hafter, fun hsame => ?_⟩
  have hstates := congrArg (Option.map Prod.fst) hsame.record
  simp only [Option.map_map] at hstates
  have hsame_state : (c'.shared.sessions 7).map (·.state) = (c.shared.sessions 7).map (·.state) := hstates
  rw [hafter, hbefore] at hsame_state
  cases hsame_state

end GameProcess

end SomeServer
