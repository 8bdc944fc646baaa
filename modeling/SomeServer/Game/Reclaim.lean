/-
# SomeServer.Game.Reclaim — detached players whose time is over

`ExpireDetachedPlayers` releases every detached player whose deadline has passed. Whether the release
takes the player out of the process depends on what is left of it: the release gives up on a player
that `ReconcileLeaseLosses` has already unbound, and on one whose repository record a failed second
activation has dropped. For all other players it succeeds, wherever the process has been before.
-/
import SomeServer.Game.Locks
import SomeServer.Game.Stores

namespace SomeServer

open Lib

/-! ## One release, seen from one player -/

namespace PlayerView

variable {v v₀ : PlayerView}

/-- What `ReleasePlayer` makes of a player whose flush succeeds. -/
def release (v : PlayerView) : PlayerView :=
  match v.session with
  | none => v
  | some _ =>
      if !v.bound then { v with session := some .unloading }
      else if !v.known then
        { v with session := some .unloading, bound := false, tracked := false, loaded := false }
      else gone

/-- A player that started out as `v₀` has been through a release: it is gone when it was bound and
known, and otherwise it will be there after any further release. -/
def Fate (v₀ v : PlayerView) : Prop :=
  if v₀.bound && v₀.known then v = gone
  else v.session.isSome = true ∧ (v.bound && v.known) = false

theorem fate_release (h : v.session.isSome = true) : Fate v v.release := by
  obtain ⟨state, hs⟩ := Option.isSome_iff_exists.mp h
  cases hb : v.bound <;> cases hk : v.known <;> simp [Fate, release, hs, hb, hk]

theorem Fate.release (h : Fate v₀ v) : Fate v₀ v.release := by
  unfold Fate at h ⊢
  split
  · rename_i hwhole
    rw [if_pos hwhole] at h
    subst h
    rfl
  · rename_i hwhole
    rw [if_neg hwhole] at h
    obtain ⟨hsome, hpart⟩ := h
    obtain ⟨state, hs⟩ := Option.isSome_iff_exists.mp hsome
    cases hb : v.bound <;> cases hk : v.known <;> simp_all [PlayerView.release]

end PlayerView

namespace GameProcess

variable {T : Type} {cfg : GameConfiguration} {t : T} {s s' : GameProcess T} {p q : PlayerId}
  {V : PlayerId → PlayerView} {ok : Act → Env → GameProcess T → Prop}

/-- Nothing of player `p` is left in the process. -/
structure Reclaimed (p : PlayerId) (s : GameProcess T) : Prop where
  session : s.sessions p = none
  record : s.repository.players p = none
  runtime : s.runtime p = none
  binding : s.ipc.boundPlayers p = false
  lease : s.isHeldLocally p = false

theorem reclaimed_iff_gone : s.Reclaimed p ↔ s.view p = PlayerView.gone := by
  constructor
  · rintro ⟨hsession, hrecord, hruntime, hbinding, hlease⟩
    simp [view, PlayerView.gone, hsession, hrecord, hruntime, hbinding, hlease,
      PlayerRepository.isLoaded]
  · intro h
    simp only [view, PlayerView.gone, PlayerView.mk.injEq, Option.map_eq_none_iff,
      Option.isSome_eq_false_iff, Option.isNone_iff_eq_none] at h
    obtain ⟨hsession, hlease, hbinding, hruntime, hrecord, -⟩ := h
    exact ⟨hsession, hrecord, hruntime, hbinding, hlease⟩

/-- A player with some fate is reclaimed exactly when it was bound and known. -/
theorem reclaimed_of_fate {v₀ : PlayerView} (h : v₀.Fate (s.view p)) :
    s.Reclaimed p ↔ v₀.bound = true ∧ v₀.known = true := by
  rw [reclaimed_iff_gone, ← Bool.and_eq_true]
  unfold PlayerView.Fate at h
  split at h
  · rename_i hwhole
    exact ⟨fun _ => hwhole, fun _ => h⟩
  · rename_i hwhole
    refine ⟨fun hgone => ?_, fun hw => absurd hw hwhole⟩
    rw [hgone] at h
    cases h.1

/-! ## The loop -/

/-- The inputs under which player `p`'s flush succeeds. -/
def FlushSucceeds (ok : Act → Env → GameProcess T → Prop) (p : PlayerId) : Prop :=
  ∀ stored i s, ok (.repository (.flushLeave p stored)) i s → stored.ok = true

/-- One release, seen from player `p`: its own, whose flush succeeds, or another player's. -/
theorem Released.view (hok : FlushSucceeds ok p) {r : Result} (h : Released ok V q r s) :
    ∃ V', Alone V' s ∧ V' p = if q = p then (V p).release else V p := by
  by_cases hq : q = p
  · subst hq
    cases h with
    | untracked hsession _ hs => exact ⟨V, hs, by simp [PlayerView.release, hsession]⟩
    | refused _ _ hstored =>
        obtain ⟨stored, i, s'', hguard, hno⟩ := hstored
        rw [hok stored i s'' hguard] at hno
        cases hno
    | gone hsome hbound hknown _ hs =>
        obtain ⟨state, hsession⟩ := Option.isSome_iff_exists.mp hsome
        exact ⟨_, hs, by simp [PlayerView.release, hsession, hbound, hknown]⟩
    | unbound hsome hbound _ hs _ =>
        obtain ⟨state, hsession⟩ := Option.isSome_iff_exists.mp hsome
        exact ⟨_, hs, by simp [PlayerView.release, hsession, hbound]⟩
    | unknown hsome hbound hknown _ hs =>
        obtain ⟨state, hsession⟩ := Option.isSome_iff_exists.mp hsome
        exact ⟨_, hs, by simp [PlayerView.release, hsession, hbound, hknown]⟩
  · rw [if_neg hq]
    have hother : ∀ v, Function.update V q v p = V p := fun v => Function.update_of_ne (Ne.symm hq) ..
    cases h with
    | untracked _ _ hs => exact ⟨V, hs, rfl⟩
    | refused _ hs _ => exact ⟨V, hs, rfl⟩
    | gone _ _ _ _ hs => exact ⟨_, hs, hother _⟩
    | unbound _ _ _ hs _ => exact ⟨_, hs, hother _⟩
    | unknown _ _ _ _ hs => exact ⟨_, hs, hother _⟩

/-- The loop of `ExpireDetachedPlayers` decides a player's fate when it comes to the player, and keeps
a fate that is decided. -/
theorem releaseAll_fate (hok : FlushSucceeds ok p) {v₀ : PlayerView}
    (hsome : v₀.session.isSome = true) (players : List PlayerId) :
    ∀ (released : Nat) {V : PlayerId → PlayerView} {s : GameProcess T}, Alone V s →
      (V p = v₀ ∧ p ∈ players ∨ v₀.Fate (V p)) →
      (releaseAll players released).Ends (machine cfg) t ok (fun _ s' => v₀.Fate (s'.view p)) s := by
  induction players with
  | nil =>
      intro released V s hs hp
      rcases hp with ⟨-, hmem⟩ | hfate
      · cases hmem
      · show v₀.Fate (s.view p)
        rwa [hs.views]
  | cons q rest ih =>
      intro released V s hs hp
      refine Prog.Ends.bind (Prog.Ends.mono (fun r s' h => ?_) (releasePlayer_ends hs q))
      obtain ⟨V', hs', hV'⟩ := h.view hok
      refine ih _ hs' ?_
      rw [hV']
      by_cases hq : q = p
      · rw [if_pos hq]
        right
        rcases hp with ⟨rfl, -⟩ | hfate
        · exact PlayerView.fate_release hsome
        · exact hfate.release
      · rw [if_neg hq]
        rcases hp with ⟨hv, hmem⟩ | hfate
        · exact .inl ⟨hv, (List.mem_cons.mp hmem).resolve_left (Ne.symm hq)⟩
        · exact .inr hfate

/-! ## Every run -/

/-- What the outside does while the players are expired: the clock has passed the deadline of player
`p`, and `p`'s flush, if there is one, is stored. -/
def Expires (p : PlayerId) (deadlineMs : UInt64) (a : Act) (i : Env) (_ : GameProcess T) : Prop :=
  match a with
  | .clock => deadlineMs ≤ i.nowMs
  | .repository (.flushLeave q stored) => q = p → stored.ok = true
  | _ => True

/-- **Detached players are reclaimed.** Take any run of any operations on any number of threads, and a
moment at which none is under way. A detached player whose deadline has passed and whose flush succeeds
is fully removed by the next `ExpireDetachedPlayers` if and only if the player is still bound here and
still has a repository record. -/
theorem expired_reclaimed [DecidableEq T] (fuel : Nat) {self : Option ProcessRef} {redis : Bool}
    {members : List ProcessRef} {c : Pool T Op Act Act.Reply OpResult (GameProcess T)}
    (hrun : Run (machine cfg) (fun _ o => o.code cfg fuel) (fun _ _ => True)
      (Pool.initial (started self redis members)) c) (hidle : ∀ t, c.idle t = true)
    {record : PlayerSessionRecord} (hrecord : c.shared.sessions p = some record)
    (hdetached : record.state = .detached) (hdeadline : record.detachDeadlineMs ≠ 0)
    {order : List PlayerId} (horder : p ∈ order) :
    ((Op.expire order).code cfg fuel).Ends (machine cfg) t (Expires p record.detachDeadlineMs)
      (fun _ s' => s'.Reclaimed p ↔ c.shared.ipc.boundPlayers p = true ∧
        (c.shared.repository.players p).isSome = true) c.shared := by
  have hfree := free_of_idle fuel agree_started.free hrun hidle
  have hsound : c.shared.Sound :=
    hrun.shared_invariant (fun t a i s s' r h hx => h.exec hx) agree_started.sound
  have hsome : (c.shared.view p).session.isSome = true := by simp [view, hrecord]
  have hs : Alone c.shared.view c.shared := ⟨hfree, hsound, fun _ => rfl⟩
  refine Prog.Ends.bind (Prog.Ends.mono (Q := fun _ (s' : GameProcess T) => (c.shared.view p).Fate (s'.view p))
    (fun _ s' h => reclaimed_of_fate h) ?_)
  refine ends_seq (fun i _ => ⟨_, _, rfl⟩) fun i s₁ now hnow hx => ?_
  obtain ⟨rfl, rfl⟩ := exec_clock hx
  refine ends_seq (fun _ _ => ⟨_, _, rfl⟩) fun _ s₂ expired _ hx₂ => ?_
  simp only [exec, execSession, Option.some.injEq, Prod.mk.injEq] at hx₂
  obtain ⟨rfl, rfl⟩ := hx₂
  refine releaseAll_fate (fun stored i s h => h rfl) hsome _ 0 hs (.inl ⟨rfl, ?_⟩)
  -- the deadline has passed, so the player is among those to be released
  have hexpired : record.expired i.nowMs = true := by
    have hpassed : record.detachDeadlineMs ≤ i.nowMs := hnow
    simp [PlayerSessionRecord.expired, hdetached, hdeadline, hpassed]
  simp [PlayerSessions.expiredPlayers, hrecord, hexpired, horder]

/-! ### A player that has been detached twice over -/

/-- Player 7 logs in and its gate disconnects. -/
def disconnectedPlayer : List (Move Unit Op Env) :=
  .start () (.activate 7 ⟨20, 1, 5⟩ true) :: sections 11 (emptyServers 1000) ++
    .start () (.disconnected 7 ⟨20, 1, 5⟩) :: sections 1 (emptyServers 2000)

/-- The disconnected player is bound and known, so it will be reclaimed. -/
theorem expired_reclaimed_disconnected :
    ∃ c record, startedSolo.play (machine soloGame) (fun _ o => o.code soloGame 0)
        (fun _ _ => true) disconnectedPlayer = some c ∧
      c.shared.sessions 7 = some record ∧ record.detachDeadlineMs = 302000 ∧
      ((Op.expire [7]).code soloGame 0).Ends (machine soloGame) () (Expires 7 302000)
        (fun _ s' => s'.Reclaimed 7) c.shared := by
  have hend : (startedSolo.play (machine soloGame) (fun _ o => o.code soloGame 0)
      (fun _ _ => true) disconnectedPlayer).map (fun c => (c.idle (),
        (c.shared.sessions 7).map (fun r => (r.state, r.detachDeadlineMs)),
        c.shared.ipc.boundPlayers 7, (c.shared.repository.players 7).isSome)) =
      some (true, some (.detached, 302000), true, true) := by decide
  obtain ⟨c, hc, hcs⟩ := Option.map_eq_some_iff.mp hend
  simp only [Prod.mk.injEq] at hcs
  obtain ⟨hidle, hsession, hbound, hknown⟩ := hcs
  obtain ⟨record, hrecord, hr⟩ := Option.map_eq_some_iff.mp hsession
  simp only [Prod.mk.injEq] at hr
  obtain ⟨hdetached, hdeadline⟩ := hr
  have horder : (7 : PlayerId) ∈ [(7 : PlayerId)] := List.mem_singleton_self 7
  have hends := expired_reclaimed (t := ()) 0 (Run.refl.play (fun _ _ _ => trivial) hc)
    (fun _ => hidle) hrecord hdetached (by rw [hdeadline]; decide) horder
  rw [hdeadline] at hends
  exact ⟨c, record, hc, hrecord, hdeadline, Prog.Ends.mono (fun _ _ h => h.mpr ⟨hbound, hknown⟩) hends⟩

/-- Player 7 logs in, its lease is lost, and it is detached. -/
def strandedPlayer : List (Move Unit Op Env) :=
  .start () (.activate 7 ⟨20, 1, 5⟩ true) :: sections 11 (emptyServers 1000) ++
    .start () (.renew [7]) :: sections 3 (lostLease 2000) ++
    .start () (.reconcile [7]) :: sections 5 (emptyServers 3000)

/-- The deadline passes and the flush succeeds, and the player is not released. -/
theorem expired_not_reclaimed :
    ∃ c c' record, Run (machine soloGame) (fun _ o => o.code soloGame 0)
        (fun c m => sessionMoves c m = true) startedSolo c ∧
      c.idle () = true ∧ c.shared.sessions 7 = some record ∧ record.state = .detached ∧
      record.detachDeadlineMs = 303000 ∧
      c.play (machine soloGame) (fun _ o => o.code soloGame 0) sessionMoves
        (.start () (.expire [7]) :: sections 10 (emptyServers 400000)) = some c' ∧
      c'.returned () = some (.expire [7], .count 0) ∧ ¬ c'.shared.Reclaimed 7 := by
  have hend : ((startedSolo.play (machine soloGame) (fun _ o => o.code soloGame 0) sessionMoves
      strandedPlayer).bind fun c => (c.play (machine soloGame) (fun _ o => o.code soloGame 0)
        sessionMoves (.start () (.expire [7]) :: sections 10 (emptyServers 400000))).map
          fun c' => (c.idle (), (c.shared.sessions 7).map (fun r => (r.state, r.detachDeadlineMs)),
            c'.returned (), (c'.shared.sessions 7).map (·.state))) =
      some (true, some (.detached, 303000), some (.expire [7], .count 0), some .unloading) := rfl
  obtain ⟨c, hc, hplay⟩ := Option.bind_eq_some_iff.mp hend
  obtain ⟨c', hc', hcs⟩ := Option.map_eq_some_iff.mp hplay
  simp only [Prod.mk.injEq] at hcs
  obtain ⟨hidle, hsession, hreturned, hstate⟩ := hcs
  obtain ⟨record, hrecord, hr⟩ := Option.map_eq_some_iff.mp hsession
  simp only [Prod.mk.injEq] at hr
  obtain ⟨hdetached, hdeadline⟩ := hr
  refine ⟨c, c', record, Run.refl.play (fun _ _ h => h) hc, hidle, hrecord, hdetached, hdeadline, hc',
    hreturned, fun hreclaimed => ?_⟩
  rw [hreclaimed.session] at hstate
  cases hstate

end GameProcess

end SomeServer
