/-
# SomeServer.Fleet.Holders — how many games hold a player, with time explicit

Redis drops a lease key when its TTL has passed since the last set or refresh, by its own clock. A game
holds a player's lease from the moment Redis grants it until the deletion of the key is sent or a renew
round reports it lost, and looks at no clock in between, neither when it reads the answer to its `SET` nor
when it is asked. `one_holder` says that `IsHeldLocally` is true of a player in one game at most as long as no
key of a held player reaches its expiry, whatever the loops, the other commands and the connections do.
The runs at the end show what becomes of a game whose renew loop is late, and of one that reads the
answer to its `SET` late.
-/
import SomeServer.Fleet.Waits

namespace SomeServer

open Lib

variable {G T : Type}

namespace World

/-- `SET .. NX PX` answers OK only when it has written an absent key. -/
theorem serve_leaseSet_ok {fault : Fault} {now : Nat} {w : World} {p : PlayerId} {value : String}
    {ttlMs : UInt64} (h : (w.serve fault now (.leaseSet p value ttlMs)).2.redis = .status "OK") :
    w.leases p = none ∧ ttlMs ≠ 0 ∧
      ((w.serve fault now (.leaseSet p value ttlMs)).1.leases p).isSome = true := by
  cases fault with
  | none =>
      simp only [serve, execute, leaseSet] at h ⊢
      by_cases hz : ttlMs = 0
      · simp [hz] at h
      · cases hp : w.leases p with
        | none => simp [hz]
        | some key => simp [hz, hp] at h
  | dropped | replyLost | unavailable => cases h

/-- A key goes away by a deletion, or by a refresh with a TTL of 0. -/
theorem serve_deletes {fault : Fault} {now : Nat} {w : World} {command : Command} {p : PlayerId}
    (h : (w.serve fault now command).1.leases p = none) :
    w.leases p = none ∨ (∃ value, command = .leaseDelete p value) ∨
      ∃ value, command = .leaseRefresh p value 0 := by
  rcases serve_leases fault now w command p with hsame | ⟨value, ttl, e, -, hnone, -⟩ |
    ⟨key, hkey, ⟨ttl, rfl⟩ | rfl, -⟩
  · exact .inl (hsame.symm.trans h)
  · exact .inl hnone
  · by_cases hz : ttl = 0
    · subst hz
      exact .inr (.inr ⟨_, rfl⟩)
    · cases fault <;> simp [serve, execute, leaseRefresh, hkey, hz] at h
  · exact .inr (.inl ⟨_, rfl⟩)

/-- The commands of the other connections leave the lease keys alone. -/
theorem serve_other {fault : Fault} {now : Nat} {w : World} {command : Command}
    (h : command.onLeaseContext = false) : (w.serve fault now command).1.leases = w.leases := by
  funext p
  rcases serve_leases fault now w command p with hsame | ⟨value, ttl, e, rfl, -⟩ |
    ⟨key, -, ⟨ttl, rfl⟩ | rfl, -⟩
  · exact hsame
  · cases h
  · cases h
  · cases h

end World

namespace GameProcess

variable {cfg : GameConfiguration} {t : T} {env : Env} {nowMs : UInt64} {s s' : GameProcess T}
  {a : Act} {r : a.Reply} {p : PlayerId} {value : String}

theorem release_untracks (l : PlayerLeaseService T) (p : PlayerId) :
    (l.release p).1.isHeldLocally p = false := by
  rw [PlayerLeaseService.isHeldLocally, PlayerLeaseService.release_leases]
  simp

/-- A game deletes the key of a player that it tracks, in the two sections that release a lease. -/
theorem delete_cases (hc : s.command cfg nowMs a = some (.leaseDelete p value)) :
    s.isHeldLocally p = true ∧ (a = .lease (.release p) ∨
      ∃ gate, a = .session (.activateResume p gate) ∧ s.asksLease p = false) := by
  rcases command_cases hc with hother | ⟨q, -, -, -, hset⟩ | ⟨q, owner, -, hrefresh⟩ |
    ⟨q, owner, hreleases, ho, hdelete⟩
  · cases hother
  · cases hset
  · cases hrefresh
  · cases hdelete
    exact ⟨by simp [isHeldLocally, PlayerLeaseService.isHeldLocally, ho], hreleases⟩

/-- It no longer tracks the player then. -/
theorem delete_untracks (hc : s.command cfg nowMs a = some (.leaseDelete p value))
    (h : s.exec cfg t env a = some (s', r)) : s'.isHeldLocally p = false := by
  rcases (delete_cases hc).2 with rfl | ⟨gate, rfl, hasks⟩
  · obtain ⟨l, hl, rfl⟩ := exec_lease h
    simp only [PlayerLeaseService.exec, Option.ite_none_left_eq_some, Option.some.injEq,
      Prod.ext_iff] at hl
    rw [← hl.2.1]
    exact release_untracks s.lease p
  · simp only [exec, execSession, Option.ite_none_left_eq_some, Option.some.injEq, Prod.ext_iff] at h
    have hfail : (s.sessions.activateResume p gate env.nowMs).2.ok = false := by
      unfold PlayerSessions.activateResume
      cases hq : s.sessions p with
      | none => rfl
      | some record =>
        have hpresent : ¬ record.state.present = true := by simpa [asksLease, hq] using hasks
        simp [hpresent, transitioning]
    rw [← h.2.1]
    unfold activateResume
    simp only [hfail, Bool.false_eq_true, if_false]
    exact release_untracks s.lease p

/-- A player that a game tracks after a section was tracked before and its key not deleted, or Redis has
granted the `SET` of this very section. -/
theorem held_of_exec (nowMs : UInt64) (h : s.exec cfg t env a = some (s', r))
    (hheld : s'.isHeldLocally p = true) :
    (s.isHeldLocally p = true ∧ ∀ value, s.command cfg nowMs a ≠ some (.leaseDelete p value)) ∨
      (env.redis = .status "OK" ∧
        ∃ value, s.command cfg nowMs a = some (.leaseSet p value (leaseTtlMs cfg))) := by
  rcases exec_leases h p with hsame | hnone | ⟨rfl, hredis, hfree, hok, -⟩
  · refine .inl ⟨?_, fun value hdelete => ?_⟩
    · rwa [isHeldLocally, PlayerLeaseService.isHeldLocally, hsame] at hheld
    · rw [delete_untracks hdelete h] at hheld
      cases hheld
  · rw [isHeldLocally, PlayerLeaseService.isHeldLocally, hnone] at hheld
    cases hheld
  · refine .inr ⟨hok, buildValue (leaseOwner cfg p nowMs), ?_⟩
    simp [command, hredis, isHeldLocally, PlayerLeaseService.isHeldLocally, hfree]

/-- Only a refresh sends the refresh script, with the game's own TTL. -/
theorem refresh_of_command {ttlMs : UInt64} (hc : s.command cfg nowMs a = some (.leaseRefresh p value ttlMs)) :
    ∃ owner, a = .lease (.refresh p owner) ∧ ttlMs = leaseTtlMs cfg := by
  rcases command_cases hc with hother | ⟨q, -, -, -, hset⟩ | ⟨q, owner, rfl, hrefresh⟩ |
    ⟨q, owner, -, -, hdelete⟩
  · cases hother
  · cases hset
  · cases hrefresh
    exact ⟨owner, rfl, rfl⟩
  · cases hdelete

end GameProcess

/-- A refresh is sent by a game with a TTL other than 0. -/
def RefreshLives (cfg : GameConfiguration) : Act → Prop
  | .lease (.refresh _ _) => leaseTtlMs cfg ≠ 0
  | _ => True

/-! ## Who holds a lease -/

namespace TimedFleet

/-- A game holds a player's lease when it tracks the player and has not sent the deletion of the key, or when
Redis has granted the lease and the game has yet to read the answer. -/
inductive Holds (s : TimedFleet G T) (g : G) (p : PlayerId) : Prop where
  | tracked (hheld : (s.fleet.games g).isHeldLocally p = true)
      (hkept : ∀ x value, s.awaiting g = some x → x.command ≠ .leaseDelete p value)
  | granted {x : Awaiting T} {value : String} {ttlMs : UInt64} (hx : s.awaiting g = some x)
      (hset : x.command = .leaseSet p value ttlMs) (hok : x.answer.redis = .status "OK")

/-- No key of a lease that a game holds has reached its expiry. -/
def Renewed (i : FleetInput) (s : TimedFleet G T) : Prop :=
  ∀ g p key, s.Holds g p → s.fleet.world.leases p = some key → i.serverMs < key.expiresAtMs

variable [DecidableEq G]

/-- A call of `IsHeldLocally` that takes the mutex now answers yes. -/
def Reports (cfg : G → GameConfiguration) (s : TimedFleet G T) (g : G) (p : PlayerId) : Prop :=
  ∃ (t : T) (i : FleetInput) (s' : TimedFleet G T),
    s.enter cfg (g, t) (.lease (.isHeldLocally p)) i = some (s', some true)

/-- The runs in which time passes as it does. -/
def timedGuard (c : Pool (G × T) Op SectionAct SectionAct.Reply OpResult (TimedFleet G T)) :
    Move (G × T) Op FleetInput → Prop
  | .start _ _ => True
  | .act _ i => Timed i c.shared

/-- The runs among them in which the keys of the held leases are extended in time. -/
def renewedGuard (c : Pool (G × T) Op SectionAct SectionAct.Reply OpResult (TimedFleet G T)) :
    Move (G × T) Op FleetInput → Prop
  | .start _ _ => True
  | .act _ i => Timed i c.shared ∧ Renewed i c.shared

/-! ## The invariant -/

/-- The lease of a held player has a key, is held by one game, and that game has a TTL. -/
structure HolderInv (cfg : G → GameConfiguration) (s : TimedFleet G T) : Prop where
  waits : ∀ g x, s.awaiting g = some x → Waiting (cfg g) (s.fleet.games g) x
  present : ∀ g p, s.Holds g p → (s.fleet.world.leases p).isSome = true
  unique : ∀ g h p, s.Holds g p → s.Holds h p → g = h
  ttl : ∀ g p, s.Holds g p → leaseTtlMs (cfg g) ≠ 0

variable {cfg : G → GameConfiguration} {t : G × T} {a : Act} {i : FleetInput}
  {s s' : TimedFleet G T} {g : G} {p : PlayerId}

omit [DecidableEq G] in
/-- The key of a held lease survives the expiries of a step. -/
theorem HolderInv.unexpired (hI : HolderInv cfg s) (htimed : Timed i s) (hrenewed : Renewed i s)
    (hholds : s.Holds g p) : (s.fleet.world.expire i.expired).leases p ≠ none := by
  obtain ⟨key, hkey⟩ := Option.isSome_iff_exists.mp (hI.present g p hholds)
  have hlive : p ∉ i.expired := by
    intro hmem
    have hover := (htimed.expiry p key hkey).mp hmem
    have hunder := hrenewed g p key hholds hkey
    omega
  simp [World.expire, hlive, hkey]

omit [DecidableEq G] in
/-- A step after which nobody holds a lease that it did not hold before keeps the invariant, when keys only
expire in it. -/
theorem HolderInv.of_holds (hI : HolderInv cfg s) (htimed : Timed i s) (hrenewed : Renewed i s)
    (hwaits : ∀ g x, s'.awaiting g = some x → Waiting (cfg g) (s'.fleet.games g) x)
    (hworld : s'.fleet.world.leases = (s.fleet.world.expire i.expired).leases)
    (hholds : ∀ g p, s'.Holds g p → s.Holds g p) : HolderInv cfg s' where
  waits := hwaits
  present g p h := by
    rw [hworld, Option.isSome_iff_ne_none]
    exact hI.unexpired htimed hrenewed (hholds g p h)
  unique g h p hg hh := hI.unique g h p (hholds g p hg) (hholds h p hh)
  ttl g p h := hI.ttl g p (hholds g p h)

/-! ### A section that sends nothing -/

omit [DecidableEq G] in
/-- A section that sends nothing over the lease context leaves the lease keys alone. -/
theorem served_leases (h : s.fleet.leaseCommand cfg t.1 a i = none) :
    (s.fleet.served cfg t.1 a i).1.leases = (s.fleet.world.expire i.expired).leases := by
  unfold Fleet.leaseCommand at h
  unfold Fleet.served
  cases hcommand : s.fleet.command cfg t.1 a i with
  | none => rfl
  | some command =>
      rw [hcommand, Option.filter_eq_none_iff] at h
      exact World.serve_other (by simpa using h command rfl)

theorem HolderInv.enter (hI : HolderInv cfg s) (htimed : Timed i s) (hrenewed : Renewed i s)
    {f : Fleet G T} {r : a.Reply} (hb : s.blocked t.1 a = false)
    (hcommand : s.fleet.leaseCommand cfg t.1 a i = none) (hx : s.fleet.exec cfg t a i = some (f, r)) :
    HolderInv cfg { s with fleet := f, redisMs := i.serverMs } := by
  obtain ⟨hgame, hworld, hother⟩ := Fleet.exec_eq hx
  refine hI.of_holds htimed hrenewed (fun g x hg => ?_) (by rw [hworld, served_leases hcommand]) ?_
  · have hw := hI.waits g x hg
    by_cases hgt : g = t.1
    · subst hgt
      refine hw.frame ?_ hgame
      simp only [blocked, Option.any_eq_false] at hb
      simpa using hb x hg
    · rwa [hother g hgt]
  · intro g p hholds
    cases hholds with
    | granted hg hset hok => exact .granted hg hset hok
    | tracked hheld hkept =>
        refine .tracked ?_ hkept
        by_cases hgt : g = t.1
        · subst hgt
          rcases GameProcess.held_of_exec i.nowMs hgame hheld with ⟨hheld₀, -⟩ | ⟨-, value, hset⟩
          · exact hheld₀
          · have hsends : s.fleet.leaseCommand cfg t.1 a i =
                some (.leaseSet p value (leaseTtlMs (cfg t.1))) := by
              rw [Fleet.leaseCommand, Fleet.command, hset]
              rfl
            rw [hcommand] at hsends
            cases hsends
        · rwa [hother g hgt] at hheld

/-! ### A command that is sent -/

/-- A game whose section sends over the lease context does not wait already. -/
theorem HolderInv.idle_of_sends (hI : HolderInv cfg s) {f : Fleet G T} {r : a.Reply}
    {command : Command} (hb : s.blocked t.1 a = false)
    (hcommand : s.fleet.command cfg t.1 a i = some command) (hcontext : command.onLeaseContext = true)
    (hx : s.fleet.exec cfg t a i = some (f, r)) : s.awaiting t.1 = none := by
  cases hg : s.awaiting t.1 with
  | none => rfl
  | some x =>
      simp only [blocked, hg, Option.any_some, Awaiting.blocks, Bool.or_eq_false_iff] at hb
      rcases GameProcess.isLease_of_command hcommand hcontext with hlease | ⟨p, gate, rfl, hasks⟩
      · rw [hb.1] at hlease
        cases hlease
      · obtain ⟨hgame, -⟩ := Fleet.exec_eq hx
        rw [GameProcess.exec_resume_locked (hI.waits t.1 x hg).locked hasks] at hgame
        cases hgame

/-- Who holds a lease once a command has been executed: who held it and does not delete it, and the sender
of a `SET` that Redis has granted. -/
theorem send_holds {command : Command} (hidle : s.awaiting t.1 = none)
    (h : (s.send cfg t a i command).Holds g p) :
    (s.Holds g p ∧ (g = t.1 → ∀ value, command ≠ .leaseDelete p value)) ∨
      (g = t.1 ∧ (s.fleet.served cfg t.1 a i).2.redis = .status "OK" ∧
        ∃ value ttlMs, command = .leaseSet p value ttlMs) := by
  by_cases hg : g = t.1
  · subst hg
    cases h with
    | granted hx hset hok =>
        simp only [send, Function.update_self, Option.some.injEq] at hx
        subst hx
        exact .inr ⟨rfl, hok, _, _, hset⟩
    | tracked hheld hkept =>
        simp only [send, Function.update_self, GameProcess.withLeaseMutex_isHeldLocally] at hheld
        refine .inl ⟨.tracked hheld fun x value hx => ?_, fun _ value => ?_⟩
        · rw [hidle] at hx
          cases hx
        · exact hkept _ value (Function.update_self ..)
  · refine .inl ⟨?_, fun hgt => absurd hgt hg⟩
    cases h with
    | granted hx hset hok =>
        simp only [send, Function.update_of_ne hg] at hx
        exact .granted hx hset hok
    | tracked hheld hkept =>
        simp only [send, Function.update_of_ne hg] at hheld hkept
        exact .tracked hheld hkept

omit [DecidableEq G] in
/-- The key of a lease that stays held survives the command of another holder. -/
theorem HolderInv.survives (hI : HolderInv cfg s) (htimed : Timed i s) (hrenewed : Renewed i s)
    (hlives : RefreshLives (cfg t.1) a) {command : Command}
    (hcommand : s.fleet.command cfg t.1 a i = some command) (hidle : s.awaiting t.1 = none)
    (hholds : s.Holds g p) (hkept : g = t.1 → ∀ value, command ≠ .leaseDelete p value) :
    ((s.fleet.served cfg t.1 a i).1.leases p).isSome = true := by
  have hlive := hI.unexpired htimed hrenewed hholds
  rw [Option.isSome_iff_ne_none]
  intro hgone
  simp only [Fleet.served, hcommand] at hgone
  rcases World.serve_deletes hgone with habsent | ⟨value, rfl⟩ | ⟨value, rfl⟩
  · exact hlive habsent
  -- the deleter holds the lease, and there is one holder
  · have hdeleter : s.Holds t.1 p := by
      refine .tracked (GameProcess.delete_cases hcommand).1 fun x _ hx => ?_
      rw [hidle] at hx
      cases hx
    exact hkept (hI.unique g t.1 p hholds hdeleter) value rfl
  · obtain ⟨owner, rfl, hzero⟩ := GameProcess.refresh_of_command hcommand
    exact hlives hzero.symm

theorem HolderInv.send (hI : HolderInv cfg s) (htimed : Timed i s) (hrenewed : Renewed i s)
    (hlives : RefreshLives (cfg t.1) a) {f : Fleet G T} {r : a.Reply} {command : Command}
    (hb : s.blocked t.1 a = false) (hcommand : s.fleet.command cfg t.1 a i = some command)
    (hcontext : command.onLeaseContext = true) (hx : s.fleet.exec cfg t a i = some (f, r)) :
    HolderInv cfg (s.send cfg t a i command) := by
  have hidle := hI.idle_of_sends hb hcommand hcontext hx
  -- what Redis has granted was free, and has a key now
  have hgranted : ∀ p, (s.fleet.served cfg t.1 a i).2.redis = .status "OK" →
      (∃ value ttlMs, command = .leaseSet p value ttlMs) →
        (s.fleet.world.expire i.expired).leases p = none ∧ leaseTtlMs (cfg t.1) ≠ 0 ∧
          ((s.fleet.served cfg t.1 a i).1.leases p).isSome = true := by
    rintro p hok ⟨value, ttlMs, rfl⟩
    obtain ⟨-, -, -, -, httl⟩ := GameProcess.set_of_command hcommand
    subst httl
    simp only [Fleet.served, hcommand] at hok ⊢
    exact World.serve_leaseSet_ok hok
  refine ⟨fun g x hg => ?_, fun g p hholds => ?_, fun g h p hg hh => ?_, fun g p hholds => ?_⟩
  · by_cases hgt : g = t.1
    · subst hgt
      simp only [TimedFleet.send, Function.update_self, Option.some.injEq] at hg ⊢
      subst hg
      exact ⟨hcontext, rfl, (GameProcess.command_congr rfl rfl fun _ => rfl).trans hcommand⟩
    · simp only [TimedFleet.send, Function.update_of_ne hgt] at hg ⊢
      exact hI.waits g x hg
  · rcases send_holds hidle hholds with ⟨hholds₀, hkept⟩ | ⟨rfl, hok, hset⟩
    · exact hI.survives htimed hrenewed hlives hcommand hidle hholds₀ hkept
    · exact (hgranted p hok hset).2.2
  · rcases send_holds hidle hg with ⟨hg₀, -⟩ | ⟨hgt, hok, hset⟩
    · rcases send_holds hidle hh with ⟨hh₀, -⟩ | ⟨-, hok, hset⟩
      · exact hI.unique g h p hg₀ hh₀
      · exact absurd (hgranted p hok hset).1 (hI.unexpired htimed hrenewed hg₀)
    · rcases send_holds hidle hh with ⟨hh₀, -⟩ | ⟨hht, -⟩
      · exact absurd (hgranted p hok hset).1 (hI.unexpired htimed hrenewed hh₀)
      · exact hgt.trans hht.symm
  · rcases send_holds hidle hholds with ⟨hholds₀, -⟩ | ⟨rfl, hok, hset⟩
    · exact hI.ttl g p hholds₀
    · exact (hgranted p hok hset).2.1

/-! ### An answer that is read -/

theorem HolderInv.leave [DecidableEq T] (hI : HolderInv cfg s) (htimed : Timed i s)
    (hrenewed : Renewed i s) {r : a.Reply} (hown : ∀ x, s.awaiting t.1 = some x → x.act = a)
    (h : s.leave cfg t a i = some (s', r)) : HolderInv cfg s' := by
  obtain ⟨x, y, hx, -, hgame, rfl⟩ := leave_cases h
  have hw := hI.waits t.1 x hx
  have hact := hown x hx
  subst hact
  refine hI.of_holds htimed hrenewed (fun g z hg => ?_) rfl ?_
  · by_cases hgt : g = t.1
    · subst hgt
      simp only [Function.update_self, reduceCtorEq] at hg
    · simp only [Function.update_of_ne hgt] at hg ⊢
      exact hI.waits g z hg
  · intro g p hholds
    by_cases hgt : g = t.1
    · subst hgt
      cases hholds with
      | granted hg hset hok => simp only [Function.update_self, reduceCtorEq] at hg
      | tracked hheld hkept =>
          simp only [Function.update_self] at hheld
          have hsends : ((s.fleet.games t.1).withLeaseMutex x.mutex).command (cfg t.1) x.nowMs x.act =
              some x.command := (GameProcess.command_congr rfl rfl fun _ => rfl).trans hw.sends
          rcases GameProcess.held_of_exec x.nowMs hgame hheld with
            ⟨hheld₀, hkept₀⟩ | ⟨hok, value, hset⟩
          · refine .tracked hheld₀ fun z value hz hdelete => ?_
            rw [hx] at hz
            cases hz
            exact hkept₀ value (hsends.trans (by rw [hdelete]))
          · rw [hsends, Option.some.injEq] at hset
            exact .granted hx hset hok
    · cases hholds with
      | granted hg hset hok =>
          simp only [Function.update_of_ne hgt] at hg
          exact .granted hg hset hok
      | tracked hheld hkept =>
          simp only [Function.update_of_ne hgt] at hheld hkept
          exact .tracked hheld hkept

/-! ## Every run -/

variable [DecidableEq T]

/-- The other threads' sections go on waiting. -/
def KeepsWaiting (t : G × T) (s s' : TimedFleet G T) : Prop :=
  ∀ g x, s.awaiting g = some x → (g, x.thread) ≠ t → s'.awaiting g = some x

omit [DecidableEq G] [DecidableEq T] in
theorem command_of_leaseCommand {command : Command}
    (h : s.fleet.leaseCommand cfg t.1 a i = some command) :
    s.fleet.command cfg t.1 a i = some command ∧ command.onLeaseContext = true := by
  rwa [Fleet.leaseCommand, Option.filter_eq_some_iff] at h

omit [DecidableEq T] in
theorem HolderInv.enter_step (hI : HolderInv cfg s) (htimed : Timed i s) (hrenewed : Renewed i s)
    (hlives : RefreshLives (cfg t.1) a) {r : Option a.Reply} (h : s.enter cfg t a i = some (s', r)) :
    HolderInv cfg s' ∧ KeepsWaiting t s s' ∧
      (r = none → ∃ x, s'.awaiting t.1 = some x ∧ x.thread = t.2 ∧ x.act = a) := by
  obtain ⟨hb, f, r₀, hx, ⟨hnone, rfl, rfl⟩ | ⟨command, hsome, rfl, rfl⟩⟩ := enter_cases h
  · refine ⟨hI.enter htimed hrenewed hb hnone hx, fun _ _ hg _ => hg, fun hr => ?_⟩
    cases hr
  · obtain ⟨hcommand, hcontext⟩ := command_of_leaseCommand hsome
    refine ⟨hI.send htimed hrenewed hlives hb hcommand hcontext hx, fun g x hg _ => ?_, fun _ => ?_⟩
    · have hne : g ≠ t.1 := by
        intro hgt
        rw [hgt, hI.idle_of_sends hb hcommand hcontext hx] at hg
        cases hg
      simpa only [TimedFleet.send, Function.update_of_ne hne] using hg
    · exact ⟨_, Function.update_self .., rfl, rfl⟩

theorem leave_keepsWaiting {r : a.Reply} (h : s.leave cfg t a i = some (s', r)) : KeepsWaiting t s s' := by
  obtain ⟨x, y, hx, hthread, -, rfl⟩ := leave_cases h
  intro g z hg hne
  have hgt : g ≠ t.1 := by
    rintro rfl
    rw [hx] at hg
    cases hg
    exact hne (Prod.ext rfl hthread)
  simpa only [Function.update_of_ne hgt] using hg

/-- The outline of the holders: a thread relies on the others for the answer it waits for. -/
def holderOutline (cfg : G → GameConfiguration) :
    Outline (G × T) Op SectionAct FleetInput (TimedFleet G T) where
  inv := HolderInv cfg
  rest _ _ := True
  start _ _ _ := True
  ok _ _ _ i s := Timed i s ∧ Renewed i s
  event t _ _ _ s s' := KeepsWaiting t s s'
  rely t _ s s' := ∀ x, s.awaiting t.1 = some x → x.thread = t.2 → s'.awaiting t.1 = some x
  rely_refl _ _ _ _ hx _ := hx
  rely_trans _ _ _ _ _ h h' x hx ht := h' x (h x hx ht) ht
  rest_rely _ _ _ _ _ := trivial

/-- A section is safe in its halves, and `Q` holds of its reply when it sends nothing. -/
theorem halves_safe (o : Op) (hlives : RefreshLives (cfg t.1) a) {Q : a.Reply → Prop}
    (hQ : ∀ i s s' r, HolderInv cfg s → s.enter cfg t a i = some (s', some r) → Q r)
    (hleave : (∀ (s : Fleet G T) i, s.leaseCommand cfg t.1 a i = none) ∨ ∀ r, Q r) :
    (holderOutline cfg).Safe (machine cfg) t o (fun r _ => Q r) (halves a) s := by
  intro s₁ _ hI i s₂ r hok hx
  obtain ⟨hI₂, hkeeps, hwait⟩ := hI.enter_step hok.1 hok.2 hlives hx
  refine ⟨hkeeps, hI₂, ?_⟩
  cases r with
  | some r => exact hQ i s₁ s₂ r hI hx
  | none =>
      obtain ⟨x, hawaiting, hthread, hact⟩ := hwait rfl
      intro s₃ hrely _ j s₄ r' hok' hx'
      have hawaiting' := hrely x hawaiting hthread
      refine ⟨leave_keepsWaiting hx', ?_, ?_⟩
      · refine HolderInv.leave ‹_› hok'.1 hok'.2 (fun z hz => ?_) hx'
        rw [hawaiting', Option.some.injEq] at hz
        exact hz ▸ hact
      · obtain ⟨-, f, r₀, -, ⟨-, hsome, -⟩ | ⟨command, hsends, -⟩⟩ := enter_cases hx
        · cases hsome
        · rcases hleave with hnone | hall
          · rw [hnone s₁.fleet i] at hsends
            cases hsends
          · exact hall r'

theorem holder_all (o : Op) {α : Type} {x : Call α} (hx : x.All (RefreshLives (cfg t.1))) :
    ∀ s, True → (holderOutline cfg).Safe (machine cfg) t o (fun _ _ => True) (x.refine halves) s :=
  Prog.All.refine (Outline.compositional_safe (K := fun _ => True))
    (fun _ ha _ _ => halves_safe o ha (fun _ _ _ _ _ _ => trivial) (.inr fun _ => trivial)) hx

omit [DecidableEq T] in
/-- A game holds the leases that a section of its lease service finds tracked. -/
theorem holds_of_enter {b : LeaseAct} {r : Option b.Reply}
    (h : s.enter cfg t (.lease b) i = some (s', r)) (hheld : (s.fleet.games t.1).isHeldLocally p = true) :
    s.Holds t.1 p := by
  refine .tracked hheld fun x _ hx => ?_
  obtain ⟨hb, -⟩ := enter_cases h
  rw [blocked, hx] at hb
  cases hb

/-- A renew round has something to refresh only when a player is tracked. -/
theorem holder_renew (o : Op) (order : List PlayerId) :
    (holderOutline cfg).Safe (machine cfg) t o (fun _ _ => True) ((renewLeases order).refine halves) s := by
  have hrefresh : ∀ (leases : List (PlayerId × PlayerLeaseOwner)) (lost : List PlayerId),
      (∀ x ∈ leases, leaseTtlMs (cfg t.1) ≠ 0) →
        (refreshAll leases lost).All (RefreshLives (cfg t.1)) := by
    intro leases
    induction leases with
    | nil => intro lost _; exact all_pure
    | cons x rest ih =>
        intro lost hx
        exact all_seq (hx x List.mem_cons_self) fun _ =>
          ih _ fun y hy => hx y (List.mem_cons_of_mem x hy)
  have hentered : (holderOutline cfg).Safe (machine cfg) t o
      (fun leases _ => ∀ x ∈ leases, leaseTtlMs (cfg t.1) ≠ 0) (halves (.lease (.renewEnter order))) s := by
    have hlives : RefreshLives (cfg t.1) (.lease (.renewEnter order)) := trivial
    refine halves_safe o hlives (fun i s s' leases hI hx x hmem => ?_) (.inl fun _ _ => rfl)
    obtain ⟨-, f, r₀, hexec, ⟨-, hr, -⟩ | ⟨-, -, hr, -⟩⟩ := enter_cases hx
    · cases hr
      obtain ⟨hgame, -, -⟩ := Fleet.exec_eq hexec
      obtain ⟨l, hl, -⟩ := GameProcess.exec_lease hgame
      simp only [PlayerLeaseService.exec, Option.ite_none_left_eq_some, Option.some.injEq,
        Prod.mk.injEq] at hl
      obtain ⟨-, -, rfl⟩ := hl
      simp only [PlayerLeaseService.tracked, List.mem_filterMap, Option.map_eq_some_iff] at hmem
      obtain ⟨p, -, owner, ho, -⟩ := hmem
      refine hI.ttl t.1 p (holds_of_enter hx ?_)
      rw [GameProcess.isHeldLocally, PlayerLeaseService.isHeldLocally, ho, Option.isSome_some]
    · cases hr
  rw [renewLeases, Prog.refine_bind, call, Prog.refine_call]
  refine Outline.Safe.bind (Outline.Safe.mono (fun leases s' httl => ?_) hentered)
  exact holder_all o ((hrefresh leases [] httl).bind fun lost =>
    all_call (a := .lease (.renewLeave lost)) trivial) s' trivial

theorem holder_safe (fuel : Nat) (o : Op) :
    (holderOutline cfg).Safe (machine cfg) t o (fun _ _ => True) (code cfg fuel t o) s := by
  have hplain : ∀ a : Act, a.plain = true → RefreshLives (cfg t.1) a := by
    intro a ha
    unfold RefreshLives
    split
    · cases ha
    · trivial
  have hD : ∀ a : DirectoryAct, RefreshLives (cfg t.1) (.directory a) := fun _ => trivial
  refine Op.code_of_calls
    (Outline.compositional_safe (K := fun _ => True) |>.refine halves) ?_ ?_ ?_ ?_ ?_ s trivial
  · intro ho
    exact holder_all o (Op.code_all hplain _ fuel ho)
  · intro source key gate
    exact holder_all o (handleLoginRequest_all hplain hD _ fuel source key gate)
  · intro key
    exact holder_all o (resolveOrCreate_all hD fuel key)
  · intro key
    exact holder_all o (lookup_all hD key)
  · intro order s _
    exact holder_renew o order

theorem holder_proved (fuel : Nat) :
    (holderOutline cfg).Proved (machine cfg) (code (T := T) cfg fuel) renewedGuard
      (fun _ _ _ _ => True) where
  start _ _ _ _ _ := trivial
  ok _ _ _ _ _ _ hg _ _ := hg
  safe _ o _ _ _ _ := (holder_safe fuel o).mono fun _ _ _ => ⟨trivial, trivial⟩
  compatible c t o e k i s r _ _ _ _ hevent u hu x hx hthread :=
    hevent u.1 x hx fun heq => hu (by rw [← heq, hthread])

/-- **One holder.** Any number of games, any interleaving of their operations, any command failing, any
loop late and any answer read late: in every run in which no key of a lease that some game holds reaches
its expiry, `IsHeldLocally` is true of a player in one game at most, in any state. -/
theorem one_holder (fuel : Nat) {s₀ : Fleet G T} (h₀ : ∀ g p, (s₀.games g).lease.leases p = none)
    {startMs : Nat} {c : Pool (G × T) Op SectionAct SectionAct.Reply OpResult (TimedFleet G T)}
    (hrun : Run (machine cfg) (code cfg fuel) renewedGuard
      (Pool.initial { fleet := s₀, redisMs := startMs }) c)
    {g h : G} {p : PlayerId} (hg : c.shared.Reports cfg g p) (hh : c.shared.Reports cfg h p) : g = h := by
  have hnone : ∀ g p, ¬ Holds ({ fleet := s₀, redisMs := startMs } : TimedFleet G T) g p := by
    intro g p hholds
    cases hholds with
    | granted hx => cases hx
    | tracked hheld =>
        rw [GameProcess.isHeldLocally, PlayerLeaseService.isHeldLocally, h₀ g p] at hheld
        cases hheld
  have hstart : HolderInv cfg ({ fleet := s₀, redisMs := startMs } : TimedFleet G T) := by
    refine ⟨fun g x hx => ?_, fun g p hholds => ?_, fun g _ p hholds _ => ?_, fun g p hholds => ?_⟩
    · cases hx
    · exact absurd hholds (hnone g p)
    · exact absurd hholds (hnone g p)
    · exact absurd hholds (hnone g p)
  have hI := ((holder_proved fuel).sound (Outline.good_initial hstart fun _ => trivial) hrun).1
  have hholds : ∀ g, c.shared.Reports cfg g p → c.shared.Holds g p := by
    rintro g ⟨t, i, s', hx⟩
    obtain ⟨-, f, r₀, hexec, ⟨-, hr, -⟩ | ⟨-, -, hr, -⟩⟩ := enter_cases hx
    · cases hr
      obtain ⟨hgame, -, -⟩ := Fleet.exec_eq hexec
      exact holds_of_enter hx (GameProcess.isHeldLocally_reply hgame).symm
    · cases hr
  exact hI.unique g h p (hholds g hg) (hholds h hh)

/-! ### Two games ask for one player -/

/-- Two games at time 0. -/
def timedGames : Pool (Bool × Unit) Op SectionAct SectionAct.Reply OpResult (TimedFleet Bool Unit) :=
  Pool.initial {}

/-- The two games after these moves. -/
def after (moves : List (Move (Bool × Unit) Op FleetInput)) :
    Pool (Bool × Unit) Op SectionAct SectionAct.Reply OpResult (TimedFleet Bool Unit) :=
  (timedGames.play (machine Fleet.twoGames) (code Fleet.twoGames 0) (fun _ _ => true) moves).getD timedGames

/-- Redis grants player 7 to the first game, until 30 s. -/
def firstAsks : List (Move (Bool × Unit) Op FleetInput) :=
  [.start (true, ()) (.acquireLease 7), .act (true, ()) { nowMs := 5 }]

/-- The second game asks just before the expiry. -/
def refused : List (Move (Bool × Unit) Op FleetInput) :=
  firstAsks ++ [.act (true, ()) {}, .start (false, ()) (.acquireLease 7),
    .act (false, ()) { nowMs := 6, serverMs := 29999 }, .act (false, ()) { serverMs := 29999 }]

/-- The second game asks at the expiry. -/
def secondAsks : List (Move (Bool × Unit) Op FleetInput) :=
  [.start (false, ()) (.acquireLease 7),
    .act (false, ()) { nowMs := 6, serverMs := 30000, expired := [7] },
    .act (false, ()) { serverMs := 30000 }]

/-- The first game knows that it holds the player, and its renew loop is late. -/
def lateRenewal : List (Move (Bool × Unit) Op FleetInput) := firstAsks ++ .act (true, ()) {} :: secondAsks

/-- The first game reads the answer to its `SET` when its key has expired. -/
def lateAnswer : List (Move (Bool × Unit) Op FleetInput) :=
  firstAsks ++ secondAsks ++ [.act (true, ()) { serverMs := 30000 }]

/-- Only player 7 has a key. -/
def OnlySeven (leases : PlayerId → Option LeaseKey) : Prop := ∀ p, p ≠ 7 → leases p = none

theorem OnlySeven.expire {leases : PlayerId → Option LeaseKey} (h : OnlySeven leases)
    (expired : List PlayerId) : OnlySeven fun p => if p ∈ expired then none else leases p := by
  intro p hp
  simp [h p hp]

theorem OnlySeven.update {leases : PlayerId → Option LeaseKey} (h : OnlySeven leases)
    (key : Option LeaseKey) : OnlySeven (Function.update leases 7 key) := by
  intro p hp
  rw [Function.update_of_ne hp, h p hp]

theorem OnlySeven.timed {s : TimedFleet Bool Unit} {i : FleetInput} (h : OnlySeven s.fleet.world.leases)
    (hforward : s.redisMs ≤ i.serverMs)
    (hexpiry : (s.fleet.world.leases 7).all
      (fun key => decide (7 ∈ i.expired ↔ key.expiresAtMs ≤ i.serverMs)) = true) : Timed i s := by
  refine ⟨hforward, fun p key hkey => ?_⟩
  by_cases hp : p = 7
  · subst hp
    rw [hkey] at hexpiry
    simpa using hexpiry
  · rw [h p hp] at hkey
    cases hkey

theorem OnlySeven.renewed {s : TimedFleet Bool Unit} {i : FleetInput}
    (h : OnlySeven s.fleet.world.leases)
    (hlive : (s.fleet.world.leases 7).all (fun key => decide (i.serverMs < key.expiresAtMs)) = true) :
    Renewed i s := by
  intro g p key _ hkey
  by_cases hp : p = 7
  · subst hp
    rw [hkey] at hlive
    simpa using hlive
  · rw [h p hp] at hkey
    cases hkey

theorem timed_act {moves : List (Move (Bool × Unit) Op FleetInput)} {t : Bool × Unit} {i : FleetInput}
    (hrun : Run (machine Fleet.twoGames) (code Fleet.twoGames 0) timedGuard timedGames (after moves))
    (hseven : OnlySeven (after moves).shared.fleet.world.leases)
    (hforward : (after moves).shared.redisMs ≤ i.serverMs)
    (hexpiry : ((after moves).shared.fleet.world.leases 7).all
      (fun key => decide (7 ∈ i.expired ↔ key.expiresAtMs ≤ i.serverMs)) = true)
    (hm : (after moves).move (machine Fleet.twoGames) (code Fleet.twoGames 0) (.act t i) =
      some (after (moves ++ [.act t i]))) :
    Run (machine Fleet.twoGames) (code Fleet.twoGames 0) timedGuard timedGames
      (after (moves ++ [.act t i])) :=
  hrun.tail (m := .act t i) (hseven.timed hforward hexpiry) hm

theorem renewed_act {moves : List (Move (Bool × Unit) Op FleetInput)} {t : Bool × Unit} {i : FleetInput}
    (hrun : Run (machine Fleet.twoGames) (code Fleet.twoGames 0) renewedGuard timedGames (after moves))
    (hseven : OnlySeven (after moves).shared.fleet.world.leases)
    (hforward : (after moves).shared.redisMs ≤ i.serverMs)
    (hexpiry : ((after moves).shared.fleet.world.leases 7).all
      (fun key => decide (7 ∈ i.expired ↔ key.expiresAtMs ≤ i.serverMs)) = true)
    (hlive : ((after moves).shared.fleet.world.leases 7).all
      (fun key => decide (i.serverMs < key.expiresAtMs)) = true)
    (hm : (after moves).move (machine Fleet.twoGames) (code Fleet.twoGames 0) (.act t i) =
      some (after (moves ++ [.act t i]))) :
    Run (machine Fleet.twoGames) (code Fleet.twoGames 0) renewedGuard timedGames
      (after (moves ++ [.act t i])) :=
  hrun.tail (m := .act t i) ⟨hseven.timed hforward hexpiry, hseven.renewed hlive⟩ hm

theorem onlySeven_initial : OnlySeven timedGames.shared.fleet.world.leases := fun _ _ => rfl

theorem onlySeven_firstAsks : OnlySeven (after firstAsks).shared.fleet.world.leases :=
  (onlySeven_initial.expire []).update _

theorem firstAsks_run :
    Run (machine Fleet.twoGames) (code Fleet.twoGames 0) renewedGuard timedGames (after firstAsks) := by
  have hstart : Run (machine Fleet.twoGames) (code Fleet.twoGames 0) renewedGuard timedGames
      (after [.start (true, ()) (.acquireLease 7)]) :=
    .tail .refl (m := .start (true, ()) (.acquireLease 7)) trivial rfl
  exact renewed_act hstart onlySeven_initial (by decide) rfl rfl rfl

theorem refused_run :
    Run (machine Fleet.twoGames) (code Fleet.twoGames 0) renewedGuard timedGames (after refused) := by
  have hread := renewed_act (t := (true, ())) (i := {}) firstAsks_run onlySeven_firstAsks
    (by decide) rfl rfl rfl
  have hstart : Run _ _ _ _
      (after (firstAsks ++ [.act (true, ()) {}, .start (false, ()) (.acquireLease 7)])) :=
    hread.tail (m := .start (false, ()) (.acquireLease 7)) trivial rfl
  have hasked := renewed_act (t := (false, ())) (i := { nowMs := 6, serverMs := 29999 }) hstart
    (onlySeven_firstAsks.expire []) (by decide) rfl rfl rfl
  exact renewed_act (t := (false, ())) (i := { serverMs := 29999 }) hasked
    (((onlySeven_firstAsks.expire []).expire []).update _) (by decide) rfl rfl rfl

/-- Before the expiry the second game is refused, and the first alone holds the player. -/
theorem one_holder_refused :
    (after refused).shared.Reports Fleet.twoGames true 7 ∧
      ∀ h, (after refused).shared.Reports Fleet.twoGames h 7 → h = true := by
  have hfirst : (after refused).shared.Reports Fleet.twoGames true 7 := ⟨(), {}, _, rfl⟩
  exact ⟨hfirst, fun h hh => one_holder 0 (fun _ _ => rfl) refused_run hh hfirst⟩

theorem timed_of_renewed
    {c : Pool (Bool × Unit) Op SectionAct SectionAct.Reply OpResult (TimedFleet Bool Unit)}
    (h : Run (machine Fleet.twoGames) (code Fleet.twoGames 0) renewedGuard timedGames c) :
    Run (machine Fleet.twoGames) (code Fleet.twoGames 0) timedGuard timedGames c := by
  refine h.mono fun d m hm => ?_
  cases m with
  | start t o => trivial
  | act t i => exact hm.1

theorem lateRenewal_run :
    Run (machine Fleet.twoGames) (code Fleet.twoGames 0) timedGuard timedGames (after lateRenewal) := by
  have hread := timed_act (t := (true, ())) (i := {}) (timed_of_renewed firstAsks_run)
    onlySeven_firstAsks (by decide) rfl rfl
  have hstart : Run _ _ _ _
      (after (firstAsks ++ [.act (true, ()) {}, .start (false, ()) (.acquireLease 7)])) :=
    hread.tail (m := .start (false, ()) (.acquireLease 7)) trivial rfl
  have hasked := timed_act (t := (false, ()))
    (i := { nowMs := 6, serverMs := 30000, expired := [7] }) hstart
    (onlySeven_firstAsks.expire []) (by decide) rfl rfl
  exact timed_act (t := (false, ())) (i := { serverMs := 30000 }) hasked
    (((onlySeven_firstAsks.expire []).expire [7]).update _) (by decide) rfl rfl

theorem lateAnswer_run :
    Run (machine Fleet.twoGames) (code Fleet.twoGames 0) timedGuard timedGames (after lateAnswer) := by
  have hstart : Run _ _ _ _ (after (firstAsks ++ [.start (false, ()) (.acquireLease 7)])) :=
    (timed_of_renewed firstAsks_run).tail (m := .start (false, ()) (.acquireLease 7)) trivial rfl
  have hasked := timed_act (t := (false, ()))
    (i := { nowMs := 6, serverMs := 30000, expired := [7] }) hstart
    onlySeven_firstAsks (by decide) rfl rfl
  have hread := timed_act (t := (false, ())) (i := { serverMs := 30000 }) hasked
    ((onlySeven_firstAsks.expire [7]).update _) (by decide) rfl rfl
  exact timed_act (t := (true, ())) (i := { serverMs := 30000 }) hread
    (((onlySeven_firstAsks.expire [7]).update _).expire []) (by decide) rfl rfl

/-- The first game's renew loop is late, or it reads the answer to its `SET` when the key has expired: the
second game gets the lease, and both say that they hold the player. -/
theorem two_holders :
    (Run (machine Fleet.twoGames) (code Fleet.twoGames 0) timedGuard timedGames (after lateRenewal) ∧
      ∀ g, (after lateRenewal).shared.Reports Fleet.twoGames g 7) ∧
    (Run (machine Fleet.twoGames) (code Fleet.twoGames 0) timedGuard timedGames (after lateAnswer) ∧
      ∀ g, (after lateAnswer).shared.Reports Fleet.twoGames g 7) := by
  refine ⟨⟨lateRenewal_run, fun g => ?_⟩, lateAnswer_run, fun g => ?_⟩
  · cases g with
    | false => exact ⟨(), {}, _, rfl⟩
    | true => exact ⟨(), {}, _, rfl⟩
  · cases g with
    | false => exact ⟨(), {}, _, rfl⟩
    | true => exact ⟨(), {}, _, rfl⟩

end TimedFleet

end SomeServer
