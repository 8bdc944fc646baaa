/-
# SomeServer.Game.Ownership — who writes a player's data

A game may write a player only while it holds the player's lease. The scheduler asks the lease service
before it flushes; `ReleasePlayer` does not, it looks at the dirty flag alone. So a write without a
lease comes about in two ways: a release of a dirty player whose lease is gone, and a lease that is
dropped after the operation has looked and before it writes. `flushes_held` says that there is no third
way, for any interleaving of the process's threads and any replies of the servers.

The history (`OwnershipLog`) keeps, for each thread, the player it looked at last and whether that
player's lease has been dropped since.
-/
import SomeServer.Game.Footprint
import SomeServer.Game.Steps

namespace SomeServer

open Lib

variable {T : Type} [DecidableEq T]

/-! ## Looking and writing -/

/-- The sections that look at a player before a flush: the scheduler's lease check, and the reading of
the player's record. -/
def Act.looksAt : Act → Option PlayerId
  | .lease (.isHeldLocally p) => some p
  | .repository (.snapshot p) => some p
  | _ => none

/-- The sections of `FlushPlayer` that read a player's data for storage, or store it. -/
def Act.writes : Act → Option PlayerId
  | .repository (.flushEnter p) => some p
  | .storage (.insert p _) => some p
  | .storage (.redisSet p _) => some p
  | _ => none

/-- The session and persistence operations that flush players. -/
def Op.flushes : Op → Bool
  | .release _ => true
  | .expire _ => true
  | .flushDue _ => true
  | _ => false

/-- The sections behind a look at `p`: they do not look anew, and write no other player. -/
structure Act.WritesOnly (p : PlayerId) (a : Act) : Prop where
  looksAt : a.looksAt = none
  writes : ∀ q, a.writes = some q → q = p

theorem Act.WritesOnly.of_silent {p : PlayerId} {a : Act} (hl : a.looksAt = none)
    (hw : a.writes = none) : a.WritesOnly p :=
  ⟨hl, fun q hq => by rw [hw] at hq; cases hq⟩

structure OwnershipLog (T : Type) where
  looked : T → Option PlayerId := fun _ => none
  lost : T → Bool := fun _ => false

/-- Whether a step takes a player's lease from the process. -/
def GameProcess.drops (s s' : GameProcess T) (p : PlayerId) : Bool :=
  s.isHeldLocally p && !s'.isHeldLocally p

namespace OwnershipLog

/-- What a section of thread `t` adds to the log. -/
def record (t : T) (a : Act) (s s' : GameProcess T) (log : OwnershipLog T) : OwnershipLog T :=
  match a.looksAt with
  | some p =>
      { looked := Function.update log.looked t (some p), lost := Function.update log.lost t false }
  | none => { log with lost := fun u => log.lost u || (log.looked u).any (s.drops s') }

end OwnershipLog

namespace GameProcess

/-- The process, with its looks written down. -/
def ownershipMachine (cfg : GameConfiguration) :
    Machine T Act Act.Reply Env (GameProcess T × OwnershipLog T) :=
  (machine cfg).withHistory fun t a _ s s' _ log => log.record t a s s'

/-! ## The conditions on a run -/

/-- A release that finds the player's record dirty although the lease is not held. -/
def releasesUnheld (o : Op) (a : Act) (s : GameProcess T) : Bool :=
  match a with
  | .repository (.snapshot p) =>
      o.releases && (s.repository.players p).any (·.dirty) && !s.isHeldLocally p
  | _ => false

/-- A flush of a player whose lease was dropped after the operation had looked at the player. -/
def writesAfterLoss (t : T) (o : Op) (a : Act) (log : OwnershipLog T) : Bool :=
  o.flushes && a.writes.isSome && log.lost t

/-- The moves of the runs to be considered. -/
def ownershipGuard (c : Pool T Op Act Act.Reply OpResult (GameProcess T × OwnershipLog T)) :
    Move T Op Env → Bool
  | .start _ _ => true
  | .act t _ =>
      match c.threads t with
      | some (o, .act a _) =>
          !releasesUnheld o a c.shared.1 && !writesAfterLoss t o a c.shared.2
      | _ => true

/-! ## What a thread may rely on -/

/-- Thread `t` has looked at `p`, and held its lease unless it has been dropped since. -/
def Watches (t : T) (p : PlayerId) (s : GameProcess T × OwnershipLog T) : Prop :=
  s.2.looked t = some p ∧ (s.2.lost t = false → s.1.isHeldLocally p = true)

variable {cfg : GameConfiguration} {t u : T} {o : Op} {a : Act} {i : Env} {p : PlayerId}
  {s s' : GameProcess T × OwnershipLog T} {r : a.Reply}

theorem ownershipMachine_exec (h : (ownershipMachine cfg).exec t a i s = some (s', r)) :
    s.1.exec cfg t i a = some (s'.1, r) ∧ s'.2 = s.2.record t a s.1 s'.1 :=
  Machine.withHistory_exec h

omit [DecidableEq T] in
/-- The two looks change nothing in the process. -/
theorem exec_looksAt {s s' : GameProcess T} (ha : a.looksAt = some p)
    (h : s.exec cfg t i a = some (s', r)) : s' = s := by
  cases a with
  | lease a =>
      cases a with
      | isHeldLocally q =>
          obtain ⟨l, hx, rfl⟩ := exec_lease h
          simp only [PlayerLeaseService.exec, Option.ite_none_left_eq_some, Option.some.injEq,
            Prod.mk.injEq] at hx
          obtain ⟨-, rfl, -⟩ := hx
          rfl
      | _ => cases ha
  | repository a =>
      cases a with
      | snapshot q =>
          obtain ⟨m, hx, rfl⟩ := exec_repository h
          simp only [PlayerRepository.exec, Option.ite_none_left_eq_some, Option.some.injEq,
            Prod.mk.injEq] at hx
          obtain ⟨-, rfl, -⟩ := hx
          rfl
      | _ => cases ha
  | _ => cases ha

/-- A step leaves alone what a thread watches, unless it is that thread's own next look: either the
lease stays, or its loss is written down. -/
theorem Watches.step (h : Watches u p s) (hx : (ownershipMachine cfg).exec t a i s = some (s', r))
    (hu : a.looksAt = none ∨ u ≠ t) : Watches u p s' := by
  obtain ⟨hexec, hlog⟩ := ownershipMachine_exec hx
  obtain ⟨hlooked, hheld⟩ := h
  unfold OwnershipLog.record at hlog
  cases ha : a.looksAt with
  | some q =>
      have hne : u ≠ t := hu.resolve_left (by simp [ha])
      have hsame := exec_looksAt ha hexec
      rw [ha] at hlog
      unfold Watches
      rw [hlog, hsame]
      simpa only [Function.update_of_ne hne] using ⟨hlooked, hheld⟩
  | none =>
      rw [ha] at hlog
      refine ⟨by rw [hlog]; exact hlooked, fun hlost => ?_⟩
      rw [hlog] at hlost
      simp only [Bool.or_eq_false_iff, hlooked, Option.any_some] at hlost
      obtain ⟨hnot, hdrop⟩ := hlost
      by_contra hgone
      have hbefore := hheld hnot
      rw [drops, hbefore] at hdrop
      simp [hgone] at hdrop

/-! ## Outlines of the flushing operations -/

/-- The outline of lease ownership. -/
def ownershipOutline : Outline T Op Act Env (GameProcess T × OwnershipLog T) where
  inv _ := True
  rest _ _ := True
  start _ _ _ := True
  ok t o a _ s := releasesUnheld o a s.1 = false ∧ writesAfterLoss t o a s.2 = false
  event _ o a _ s _ := o.flushes = true → ∀ p, a.writes = some p → s.1.isHeldLocally p = true
  rely t _ s s' := ∀ p, Watches t p s → Watches t p s'
  rely_refl _ _ _ _ h := h
  rely_trans _ _ _ _ _ h h' p hp := h' p (h p hp)
  rest_rely _ _ _ _ _ := trivial

variable {α : Type}

omit [DecidableEq T] in
theorem event_of_silent (ha : a.writes = none) : ownershipOutline.event t o a i s s' := by
  intro _ p hp
  rw [ha] at hp
  cases hp

/-- Calls that write nothing. -/
theorem owner_silent {x : Call α} (hx : x.All fun a => a.writes = none) :
    ownershipOutline.Safe (ownershipMachine cfg) t o (fun _ _ => True) x s := by
  refine Outline.safe_of_all (K := fun _ => True) (fun _ _ _ _ _ _ => trivial) ?_
    (fun _ _ _ => trivial) hx trivial
  exact fun e i s s' r he _ _ _ _ => ⟨event_of_silent he, trivial, trivial⟩

/-- Operations that are not about the lease holder. -/
theorem owner_idle (ho : o.flushes = false) {x : Call α} (hx : x.All fun _ => True) :
    ownershipOutline.Safe (ownershipMachine cfg) t o (fun _ _ => True) x s := by
  refine Outline.safe_of_all (K := fun _ => True) (fun _ _ _ _ _ _ => trivial) ?_
    (fun _ _ _ => trivial) hx trivial
  intro e i s s' r _ _ _ _ _
  refine ⟨fun hf => ?_, trivial, trivial⟩
  rw [ho] at hf
  cases hf

/-- Calls that write only the player the thread watches. -/
theorem owner_watching {x : Call α} (hx : x.All (Act.WritesOnly p)) (hs : Watches t p s) :
    ownershipOutline.Safe (ownershipMachine cfg) t o (fun _ _ => True) x s := by
  refine Outline.safe_of_all (K := Watches t p) ?_ ?_ (fun _ _ _ => trivial) hx hs
  · intro e s s' _ hr hk
    exact hr p hk
  intro e i s s' r he _ hk hok hx
  refine ⟨fun ho q hq => ?_, trivial, hk.step hx (.inl he.looksAt)⟩
  have hlost := hok.2
  rw [writesAfterLoss, ho, hq] at hlost
  rw [he.writes q hq]
  exact hk.2 (by simpa using hlost)

/-- After a look the thread watches the player, provided that the lease is held. -/
theorem watches_of_looksAt (ha : a.looksAt = some p) (hheld : s.1.isHeldLocally p = true)
    (hx : (ownershipMachine cfg).exec t a i s = some (s', r)) : Watches t p s' := by
  obtain ⟨hexec, hlog⟩ := ownershipMachine_exec hx
  have hsame := exec_looksAt ha hexec
  rw [OwnershipLog.record, ha] at hlog
  refine ⟨?_, fun _ => ?_⟩
  · rw [hlog]
    exact Function.update_self ..
  · rw [hsame]
    exact hheld

theorem flushPlayer_writesOnly : (flushPlayer p).All (Act.WritesOnly p) := by
  refine flushPlayer_sections ⟨rfl, ?_⟩ (.of_silent rfl rfl) (fun _ => ⟨rfl, ?_⟩)
    (fun _ => ⟨rfl, ?_⟩) fun _ => .of_silent rfl rfl
  all_goals
    intro q hq
    exact (Option.some.inj hq).symm

/-- A release flushes only a player that was dirty when it looked, and then the lease was held. -/
theorem owner_releasePlayer (ho : o.releases = true) (p : PlayerId) (s) :
    ownershipOutline.Safe (ownershipMachine cfg) t o (fun _ _ => True) (releasePlayer p) s := by
  have hunload : (unloadPlayer p).All fun a => a.writes = none :=
    unloadPlayer_sections rfl rfl rfl rfl rfl
  have hunload' : (unloadPlayer p).All (Act.WritesOnly p) :=
    unloadPlayer_sections (.of_silent rfl rfl) (.of_silent rfl rfl) (.of_silent rfl rfl)
      (.of_silent rfl rfl) (.of_silent rfl rfl)
  intro s₁ _ _ i s₂ previous _ _
  refine ⟨event_of_silent rfl, trivial, ?_⟩
  dsimp only [Prog.bind]
  split
  · trivial
  · intro s₃ _ _ i s₄ repository hok hx
    refine ⟨event_of_silent rfl, trivial, ?_⟩
    have hrec := snapshot_reply (ownershipMachine_exec hx).1
    dsimp only [Prog.bind]
    split
    · exact owner_silent hunload
    · rename_i hdirty
      have hheld : s₃.1.isHeldLocally p = true := by
        have hunheld := hok.1
        rw [Bool.not_eq_true, Bool.not_eq_false'] at hdirty
        rw [releasesUnheld, ho, ← hrec, hdirty] at hunheld
        simpa using hunheld
      refine owner_watching (flushPlayer_writesOnly.bind fun flush => ?_)
        (watches_of_looksAt rfl hheld hx)
      split
      · exact all_seq (.of_silent rfl rfl) fun _ => all_pure
      · exact hunload'

theorem owner_releaseAll (ho : o.releases = true) (players : List PlayerId) :
    ∀ released s, ownershipOutline.Safe (ownershipMachine cfg) t o (fun _ _ => True)
      (releaseAll players released) s := by
  induction players with
  | nil => intro released s; trivial
  | cons p rest ih =>
      intro released s
      exact Outline.Safe.bind ((owner_releasePlayer ho p s).mono fun release s' _ => ih _ s')

/-- The scheduler flushes a player only behind its own lease check. -/
theorem owner_scanPlayer (p : PlayerId) (repository : PlayerRepositoryRecord) (now : UInt64)
    (counts : ScanCounts) (s) :
    ownershipOutline.Safe (ownershipMachine cfg) t o (fun _ _ => True)
      (scanPlayer cfg p repository now counts) s := by
  intro s₁ _ _ i s₂ held _ hx
  refine ⟨event_of_silent rfl, trivial, ?_⟩
  have hreply := isHeldLocally_reply (ownershipMachine_exec hx).1
  dsimp only [Prog.bind]
  split
  · trivial
  · rename_i hheld
    have hwatch : Watches t p s₂ :=
      watches_of_looksAt rfl (by simpa [← hreply] using hheld) hx
    refine owner_watching (all_seq (.of_silent rfl rfl) fun session => ?_) hwatch
    refine Prog.All.bind ?_ fun due => ?_
    · unfold checkFlush
      split
      · exact all_pure
      · exact all_seq (.of_silent rfl rfl) fun _ => all_pure
    · split
      · exact all_pure
      · refine all_seq (.of_silent rfl rfl) fun _ => flushPlayer_writesOnly.bind fun flush => ?_
        refine all_seq (.of_silent rfl rfl) fun _ => ?_
        split <;> exact all_pure

theorem owner_scanAll (now : UInt64) (players : List PlayerId) :
    ∀ counts s, ownershipOutline.Safe (ownershipMachine cfg) t o (fun _ _ => True)
      (scanAll cfg now players counts) s := by
  induction players with
  | nil => intro counts s; trivial
  | cons p rest ih =>
      intro counts s s₁ _ _ i s₂ repository _ _
      refine ⟨event_of_silent rfl, trivial, ?_⟩
      dsimp only [Prog.bind]
      split
      · exact ih counts s₂
      · exact Outline.Safe.bind
          ((owner_scanPlayer p _ now _ s₂).mono fun counts s' _ => ih counts s')

theorem owner_expireDetachedPlayers (ho : o.releases = true) (order : List PlayerId) (s) :
    ownershipOutline.Safe (ownershipMachine cfg) t o (fun _ _ => True)
      (expireDetachedPlayers order) s := by
  intro s₁ _ _ i s₂ now _ _
  refine ⟨event_of_silent rfl, trivial, ?_⟩
  intro s₃ _ _ i s₄ expired _ _
  exact ⟨event_of_silent rfl, trivial, owner_releaseAll ho expired 0 s₄⟩

theorem owner_flushDuePlayersOnce (order : List PlayerId) (s) :
    ownershipOutline.Safe (ownershipMachine cfg) t o (fun _ _ => True)
      (flushDuePlayersOnce cfg order) s := by
  intro s₁ _ _ i s₂ now _ _
  refine ⟨event_of_silent rfl, trivial, ?_⟩
  intro s₃ _ _ i s₄ _ _ _
  refine ⟨event_of_silent rfl, trivial, ?_⟩
  intro s₅ _ _ i s₆ players _ _
  refine ⟨event_of_silent rfl, trivial, ?_⟩
  dsimp only [Prog.bind]
  refine Outline.Safe.bind ((owner_scanAll now players {} s₆).mono fun counts s' _ => ?_)
  exact owner_silent (all_seq rfl fun _ => all_pure)

theorem owner_code (fuel : Nat) (s) :
    ownershipOutline.Safe (ownershipMachine cfg) t o (fun _ _ => True) (o.code cfg fuel) s := by
  by_cases ho : o.flushes = true
  · cases o with
    | release p =>
        exact Outline.Safe.bind ((owner_releasePlayer rfl p s).mono fun _ _ _ => trivial)
    | expire order =>
        exact Outline.Safe.bind ((owner_expireDetachedPlayers rfl order s).mono
          fun _ _ _ => trivial)
    | flushDue order =>
        exact Outline.Safe.bind ((owner_flushDuePlayersOnce order s).mono fun _ _ _ => trivial)
    | _ => cases ho
  · exact owner_idle (by simpa using ho) (Prog.All.of_forall (fun _ => trivial) _)

theorem ownership_proved (fuel : Nat) :
    (ownershipOutline (T := T)).Proved (ownershipMachine cfg) (fun _ o => o.code cfg fuel)
      (fun c m => ownershipGuard c m = true) (fun _ _ _ _ => True) where
  start _ _ _ _ _ := trivial
  ok c t o a k i hg _ ht := by
    simp only [ownershipGuard, ht, Bool.and_eq_true, Bool.not_eq_true'] at hg
    exact hg
  safe t o s _ _ _ := (owner_code fuel s).mono fun _ _ _ => ⟨trivial, trivial⟩
  compatible c t o a k i s r _ _ _ hx _ u hu p hp := hp.step hx (.inr hu)

/-! ## Every run -/

/-- **Only the lease holder writes.** In every run of a process in which no release finds a dirty
player whose lease is gone, and no lease is dropped between an operation's look and its write, a
session or persistence operation that reads a player's data for storage or stores it does so while
the process holds the player's lease. -/
theorem flushes_held (fuel : Nat) {s₀ : GameProcess T}
    {c c' : Pool T Op Act Act.Reply OpResult (GameProcess T × OwnershipLog T)}
    (hrun : Run (ownershipMachine cfg) (fun _ o => o.code cfg fuel)
      (fun c m => ownershipGuard c m = true) (Pool.initial (s₀, {})) c)
    {k : a.Reply → Call OpResult} (hpending : c.threads t = some (o, .act a k))
    (hflushes : o.flushes = true) (hwrites : a.writes = some p)
    (hguard : ownershipGuard c (.act t i) = true)
    (hmove : c.move (ownershipMachine cfg) (fun _ o => o.code cfg fuel) (.act t i) = some c') :
    c.shared.1.isHeldLocally p = true := by
  have hgood : ownershipOutline.Good (ownershipMachine cfg) (fun _ _ _ _ => True) c :=
    (ownership_proved fuel).sound (Outline.good_initial trivial fun _ => trivial) hrun
  exact ((ownership_proved fuel).move hgood hguard hmove).2.2 o a k hpending hflushes p hwrites

/-! ### A process with one thread -/

def soloGame : GameConfiguration := { instanceId := 1 }

/-- A process with one thread that is known to the others, before anything has happened. -/
def soloOwner : Pool Unit Op Act Act.Reply OpResult (GameProcess Unit × OwnershipLog Unit) :=
  Pool.initial ({ ipc := { self := some ⟨⟨10, 1⟩, 1⟩ } }, {})

/-- Servers in good order that have nothing stored. -/
def emptyServers (nowMs : UInt64) : Env where
  nowMs
  redis := .status "OK"
  cached := .nil
  maria := .noRow
  sent := .success

/-- `n` sections of the thread. -/
def sections (n : Nat) (env : Env) : List (Move Unit Op Env) := List.replicate n (.act () env)

/-- Player 7 logs in for the first time, and the scheduler flushes the new record. -/
def firstFlush : List (Move Unit Op Env) :=
  .start () (.activate 7 ⟨20, 1, 5⟩ true) :: sections 11 (emptyServers 1000) ++
    .start () (.flushDue [7]) :: sections 7 (emptyServers 2000)

/-- The scheduler is about to read the new record, and the lease is held. -/
theorem flushes_held_first :
    ∃ c, soloOwner.play (ownershipMachine soloGame) (fun _ o => o.code soloGame 0) ownershipGuard
        firstFlush = some c ∧
      c.pending () = some (.repository (.flushEnter 7)) ∧ c.shared.1.isHeldLocally 7 = true := by
  have hend : (soloOwner.play (ownershipMachine soloGame) (fun _ o => o.code soloGame 0)
      ownershipGuard firstFlush).map (fun c => (c.pending (), (c.threads ()).map Prod.fst,
        ownershipGuard c (.act () (emptyServers 2000)), (c.move (ownershipMachine soloGame)
          (fun _ o => o.code soloGame 0) (.act () (emptyServers 2000))).isSome)) =
      some (some (.repository (.flushEnter 7)), some (.flushDue [7]), true, true) := rfl
  obtain ⟨c, hc, hcs⟩ := Option.map_eq_some_iff.mp hend
  simp only [Prod.mk.injEq] at hcs
  obtain ⟨hpending, hop, hguard, hmove⟩ := hcs
  obtain ⟨o, k, ht⟩ := Pool.pending_eq_some.mp hpending
  obtain ⟨c', hc'⟩ := Option.isSome_iff_exists.mp hmove
  have ho : o = .flushDue [7] := by simpa [ht] using hop
  subst ho
  exact ⟨c, hc, hpending,
    flushes_held 0 (Run.refl.play (fun _ _ h => h) hc) ht rfl rfl hguard hc'⟩

/-- The servers of a lease that has gone to another game. -/
def lostLease (nowMs : UInt64) : Env := { emptyServers nowMs with redis := .integer 0 }

/-- Player 7 logs in, the renew loop finds the lease lost, the player is detached and released once the
detached time is over. -/
def lateRelease : List (Move Unit Op Env) :=
  .start () (.activate 7 ⟨20, 1, 5⟩ true) :: sections 11 (emptyServers 1000) ++
    .start () (.renew [7]) :: sections 3 (lostLease 2000) ++
    .start () (.reconcile [7]) :: sections 5 (emptyServers 3000) ++
    .start () (.expire [7]) :: sections 6 (emptyServers 400000)

/-- The release of the detached player stores it without a lease. -/
theorem release_writes_unheld :
    ∃ c o a k c', Run (ownershipMachine soloGame) (fun _ o => o.code soloGame 0) (fun _ _ => True)
        soloOwner c ∧
      c.threads () = some (o, .act a k) ∧ o.flushes = true ∧ a.writes = some 7 ∧
      c.move (ownershipMachine soloGame) (fun _ o => o.code soloGame 0)
        (.act () (emptyServers 400000)) = some c' ∧
      c.shared.1.isHeldLocally 7 = false := by
  have hend : (soloOwner.play (ownershipMachine soloGame) (fun _ o => o.code soloGame 0)
      (fun _ _ => true) lateRelease).map (fun c => ((c.threads ()).map Prod.fst,
        (c.pending ()).bind Act.writes, (c.move (ownershipMachine soloGame)
          (fun _ o => o.code soloGame 0) (.act () (emptyServers 400000))).isSome,
        c.shared.1.isHeldLocally 7)) = some (some (.expire [7]), some 7, true, false) := by
    decide
  obtain ⟨c, hc, hcs⟩ := Option.map_eq_some_iff.mp hend
  simp only [Prod.mk.injEq] at hcs
  obtain ⟨hop, hwrites, hmove, hheld⟩ := hcs
  obtain ⟨a, ha, hw⟩ := Option.bind_eq_some_iff.mp hwrites
  obtain ⟨o, k, ht⟩ := Pool.pending_eq_some.mp ha
  obtain ⟨c', hc'⟩ := Option.isSome_iff_exists.mp hmove
  have ho : o = .expire [7] := by simpa [ht] using hop
  subst ho
  exact ⟨c, _, a, k, c', Run.refl.play (fun _ _ _ => trivial) hc, ht, rfl, hw, hc', hheld⟩

end GameProcess

end SomeServer
