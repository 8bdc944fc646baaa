/-
# SomeServer.Fleet.Lease — who may touch a lease key

The lease keys of a fleet, over every run of all its operations and with any command failing. The
history next to the fleet notes which game wrote the value a key currently has.

Two facts carry the argument: every owner a game tracks names that game (`Owned`), and the value of a
key written by a game is the text of such an owner. `buildValue` is injective, so a script that
compares a key with a game's own value acts on that game's own writing only.
-/
import SomeServer.Fleet.World
import SomeServer.Game.Footprint
import SomeServer.Game.Steps

namespace SomeServer

open Lib

variable {G T : Type}

/-! ## What a served command does to the lease keys -/

/-- Whether a command is one of the two scripts. -/
def Command.isScript : Command → Bool
  | .leaseRefresh _ _ _ => true
  | .leaseDelete _ _ => true
  | _ => false

namespace World

/-- An executed command leaves a lease key alone, writes an absent one, or acts on a key that holds
the very value the command carries. -/
theorem execute_leases (now : Nat) (w : World) (command : Command) (p : PlayerId) :
    (w.execute now command).1.leases p = w.leases p ∨
      (∃ value ttl e, command = .leaseSet p value ttl ∧ w.leases p = none ∧
        (w.execute now command).1.leases p = some ⟨value, e⟩) ∨
      (∃ key, w.leases p = some key ∧
        ((∃ ttl, command = .leaseRefresh p key.value ttl) ∨ command = .leaseDelete p key.value) ∧
        ∀ key', (w.execute now command).1.leases p = some key' → key'.value = key.value) := by
  cases command with
  | leaseSet q value ttl =>
      by_cases hq : p = q
      · subst hq
        simp only [execute, leaseSet, Function.update_self]
        -- a TTL of 0 is an error, and a key that is there stays
        split
        · exact .inl rfl
        · cases hp : w.leases p with
          | none => exact .inr (.inl ⟨value, ttl, _, rfl, rfl, rfl⟩)
          | some key => exact .inl rfl
      · left; simp [execute, Function.update_of_ne hq]
  | leaseRefresh q value ttl =>
      by_cases hq : p = q
      · subst hq
        simp only [execute, leaseRefresh, Function.update_self]
        cases hp : w.leases p with
        | none => exact .inl rfl
        | some key =>
          -- the scripts compare the value first
          by_cases hv : key.value = value
          · subst hv
            refine .inr (.inr ⟨key, rfl, .inl ⟨ttl, rfl⟩, ?_⟩)
            intro key' hk
            simp only [if_true] at hk
            split at hk
            · cases hk
            · cases hk; rfl
          · left; simp [hv]
      · left; simp [execute, Function.update_of_ne hq]
  | leaseDelete q value =>
      by_cases hq : p = q
      · subst hq
        simp only [execute, leaseDelete, Function.update_self]
        cases hp : w.leases p with
        | none => exact .inl rfl
        | some key =>
          by_cases hv : key.value = value
          · subst hv
            exact .inr (.inr ⟨key, rfl, .inr rfl, by simp⟩)
          · left; simp [hv]
      · left; simp [execute, Function.update_of_ne hq]
  | entryGet key | entrySetIfAbsent key text | counterGet | counterSetIfAbsent text
  | counterSet text | counterIncrement | cacheGet q | cacheSet q value | createTable | rowSelect q
  | rowInsert q value => exact .inl rfl

/-- The same for a command under any fault. -/
theorem serve_leases (fault : Fault) (now : Nat) (w : World) (command : Command) (p : PlayerId) :
    (w.serve fault now command).1.leases p = w.leases p ∨
      (∃ value ttl e, command = .leaseSet p value ttl ∧ w.leases p = none ∧
        (w.serve fault now command).1.leases p = some ⟨value, e⟩) ∨
      (∃ key, w.leases p = some key ∧
        ((∃ ttl, command = .leaseRefresh p key.value ttl) ∨ command = .leaseDelete p key.value) ∧
        ∀ key', (w.serve fault now command).1.leases p = some key' → key'.value = key.value) := by
  cases fault with
  | none => exact execute_leases now w command p
  | dropped => exact .inl rfl
  | replyLost => exact execute_leases now w command p
  | unavailable => exact .inl rfl

end World

/-! ## Which values a game sends -/

/-- The owner text names the game with this configuration. -/
def Names (cfg : GameConfiguration) (owner : PlayerLeaseOwner) : Prop :=
  owner.gameServiceType = cfg.gameServiceType ∧ owner.gameInstanceId = cfg.instanceId

theorem names_leaseOwner (cfg : GameConfiguration) (p : PlayerId) (nowMs : UInt64) :
    Names cfg (leaseOwner cfg p nowMs) := ⟨rfl, rfl⟩

/-- A refresh carries an owner of the game that sends it. -/
def RefreshNames (cfg : GameConfiguration) : Act → Prop
  | .lease (.refresh _ owner) => Names cfg owner
  | _ => True

namespace GameProcess

variable {cfg : GameConfiguration} {nowMs : UInt64} {s : GameProcess T} {a : Act}

/-- Only `Acquire` sends the `SET`, when the player is not tracked, with the game's own TTL. -/
theorem set_of_command {p : PlayerId} {value : String} {ttlMs : UInt64}
    (hc : s.command cfg nowMs a = some (.leaseSet p value ttlMs)) :
    a = .lease (.acquire p) ∧ s.lease.redis = true ∧ s.lease.leases p = none ∧
      value = buildValue (leaseOwner cfg p nowMs) ∧ ttlMs = leaseTtlMs cfg := by
  rcases command_cases hc with hother | ⟨q, rfl, hredis, hfree, hset⟩ | ⟨q, owner, -, hrefresh⟩ |
    ⟨q, owner, -, -, hdelete⟩
  · cases hother
  · cases hset
    exact ⟨rfl, hredis, hfree, rfl, rfl⟩
  · cases hrefresh
  · cases hdelete

/-- Every lease command carries the text of an owner that names the sender. -/
theorem command_names (hown : ∀ p o, s.lease.leases p = some o → Names cfg o)
    (hrefresh : RefreshNames cfg a) {command : Command}
    (h : s.command cfg nowMs a = some command) {p : PlayerId} {value : String}
    (hc : (∃ ttl, command = .leaseSet p value ttl) ∨ (∃ ttl, command = .leaseRefresh p value ttl) ∨
      command = .leaseDelete p value) :
    ∃ owner, Names cfg owner ∧ value = buildValue owner := by
  rcases command_cases h with hother | ⟨q, rfl, -, -, rfl⟩ | ⟨q, owner, rfl, rfl⟩ | ⟨q, owner, -, ho, rfl⟩
  · rcases hc with ⟨ttl, rfl⟩ | ⟨ttl, rfl⟩ | rfl <;> cases hother
  · rcases hc with ⟨ttl, hc⟩ | ⟨ttl, hc⟩ | hc
    · cases hc
      exact ⟨_, names_leaseOwner cfg _ nowMs, rfl⟩
    · cases hc
    · cases hc
  · rcases hc with ⟨ttl, hc⟩ | ⟨ttl, hc⟩ | hc
    · cases hc
    · cases hc
      exact ⟨owner, hrefresh, rfl⟩
    · cases hc
  · rcases hc with ⟨ttl, hc⟩ | ⟨ttl, hc⟩ | hc
    · cases hc
    · cases hc
    · cases hc
      exact ⟨owner, hown _ owner ho, rfl⟩

end GameProcess

/-! ## The fleet with the history of writers -/

/-- Who wrote the value each lease key has now, as far as it was written during the run. -/
abbrev LeaseWriters (G : Type) := PlayerId → Option G

variable [DecidableEq G]

namespace Fleet

/-- A key that is there after a step, and was not there once the step's expiries were over, has been
written by the game of that step; a key that stays keeps its writer. -/
def recordWriter (t : G × T) (_ : Act) (i : FleetInput) (s s' : Fleet G T) (writers : LeaseWriters G) :
    LeaseWriters G := fun p =>
  match s'.world.leases p with
  | none => none
  | some _ =>
      match (s.world.expire i.expired).leases p with
      | none => some t.1
      | some _ => writers p

/-- The fleet, with the writers of the lease keys written down. -/
def leaseMachine (cfg : G → GameConfiguration) :
    Machine (G × T) Act Act.Reply FleetInput (Fleet G T × LeaseWriters G) :=
  (machine cfg).withHistory fun t a i s s' _ writers => recordWriter t a i s s' writers

/-! ## The invariant -/

/-- Tracked owners name the game that tracks them, and a written value is the text of an owner that
names its writer. -/
structure LeaseInv (cfg : G → GameConfiguration) (s : Fleet G T × LeaseWriters G) : Prop where
  owned : ∀ g p o, (s.1.games g).lease.leases p = some o → Names (cfg g) o
  written : ∀ p key g, s.1.world.leases p = some key → s.2 p = some g →
    ∃ owner, Names (cfg g) owner ∧ key.value = buildValue owner

/-- What is to be shown of every step: a refresh or a release leaves a key that another game has
written exactly as it is. -/
def RespectsWriters (cfg : G → GameConfiguration) (g : G) (a : Act) (i : FleetInput)
    (s s' : Fleet G T × LeaseWriters G) : Prop :=
  ∀ command, s.1.command cfg g a i = some command → command.isScript = true →
    ∀ p key h, (s.1.world.expire i.expired).leases p = some key → s.2 p = some h → h ≠ g →
      s'.1.world.leases p = some key

theorem expire_leases {expired : List PlayerId} {w : World} {p : PlayerId} {key : LeaseKey}
    (h : (w.expire expired).leases p = some key) : w.leases p = some key := by
  simp only [World.expire, Option.ite_none_left_eq_some] at h
  exact h.2

variable {cfg : G → GameConfiguration} {t : G × T} {a : Act} {i : FleetInput} {r : a.Reply}
  {s s' : Fleet G T × LeaseWriters G}

theorem leaseMachine_exec (h : (leaseMachine cfg).exec t a i s = some (s', r)) :
    s.1.exec cfg t a i = some (s'.1, r) ∧ s'.2 = recordWriter t a i s.1 s'.1 s.2 :=
  Machine.withHistory_exec h

/-- The lease key of a player after a step: as the expiries left it, newly written for the game of the
step, or touched by a script that carried the key's own value. -/
theorem exec_world_leases (hx : s.1.exec cfg t a i = some (s'.1, r)) (p : PlayerId) :
    s'.1.world.leases p = (s.1.world.expire i.expired).leases p ∨
      ∃ command, s.1.command cfg t.1 a i = some command ∧
        ((∃ value ttl e, command = .leaseSet p value ttl ∧
            (s.1.world.expire i.expired).leases p = none ∧
            s'.1.world.leases p = some ⟨value, e⟩) ∨
          (∃ key, (s.1.world.expire i.expired).leases p = some key ∧
            ((∃ ttl, command = .leaseRefresh p key.value ttl) ∨
              command = .leaseDelete p key.value) ∧
            ∀ key', s'.1.world.leases p = some key' → key'.value = key.value)) := by
  obtain ⟨-, hw, -⟩ := exec_eq hx
  rw [hw]
  unfold served
  cases hcmd : s.1.command cfg t.1 a i with
  | none => exact .inl rfl
  | some command =>
      rcases World.serve_leases i.fault i.serverMs (s.1.world.expire i.expired) command p with
        h | h | h
      · exact .inl h
      · exact .inr ⟨command, rfl, .inl h⟩
      · exact .inr ⟨command, rfl, .inr h⟩

theorem LeaseInv.step (hI : LeaseInv cfg s) (hnames : RefreshNames (cfg t.1) a)
    (h : (leaseMachine cfg).exec t a i s = some (s', r)) : LeaseInv cfg s' := by
  obtain ⟨hx, hrec⟩ := leaseMachine_exec h
  obtain ⟨hgame, -, hother⟩ := exec_eq hx
  refine ⟨?_, ?_⟩
  · intro g p o ho
    by_cases hg : g = t.1
    · subst hg
      rcases GameProcess.exec_leases hgame p with hl | hl | ⟨-, -, -, -, hl⟩
      · exact hI.owned _ p o (hl ▸ ho)
      · rw [hl] at ho; cases ho
      · rw [hl] at ho
        cases ho
        exact names_leaseOwner _ _ _
    · exact hI.owned g p o (hother g hg ▸ ho)
  · intro p key g hkey hw
    have hown := fun p o => hI.owned t.1 p o
    rw [hrec] at hw
    simp only [recordWriter, hkey] at hw
    rcases exec_world_leases hx p with hsame | ⟨command, hcmd, hset | hscript⟩
    · rw [← hsame, hkey] at hw
      exact hI.written p key g (expire_leases (hsame ▸ hkey)) hw
    · obtain ⟨value, ttl, e, rfl, hnone, hnew⟩ := hset
      rw [hnone] at hw
      cases hw
      obtain ⟨owner, hn, hv⟩ := GameProcess.command_names hown hnames hcmd (.inl ⟨ttl, rfl⟩)
      rw [hnew] at hkey
      cases hkey
      exact ⟨owner, hn, hv⟩
    · obtain ⟨old, hold, -, hval⟩ := hscript
      rw [hold] at hw
      rw [hval key hkey]
      exact hI.written p old g (expire_leases hold) hw

/-- A script acts only on a key that holds the sender's own text, and by injectivity that key was
written by the sender. -/
theorem LeaseInv.respects (hcfg : Function.Injective fun g => ((cfg g).gameServiceType,
    (cfg g).instanceId)) (hI : LeaseInv cfg s) (hnames : RefreshNames (cfg t.1) a)
    (h : (leaseMachine cfg).exec t a i s = some (s', r)) : RespectsWriters cfg t.1 a i s s' := by
  obtain ⟨hx, -⟩ := leaseMachine_exec h
  intro command hcmd hscr p key g hkey hw hne
  have hown := fun p o => hI.owned t.1 p o
  rcases exec_world_leases hx p with hsame | ⟨command', hcmd', hset | hscript⟩
  · rw [hsame, hkey]
  · obtain ⟨value, ttl, e, rfl, hnone, -⟩ := hset
    rw [hnone] at hkey
    cases hkey
  · exfalso
    obtain ⟨old, hold, hform, -⟩ := hscript
    rw [hold] at hkey
    cases hkey
    obtain ⟨owner, hn, hv⟩ := hI.written p key g (expire_leases hold) hw
    obtain ⟨owner', hn', hv'⟩ :=
      GameProcess.command_names hown hnames hcmd' (.inr (hform.imp_left id))
    have heq : owner = owner' := buildValue_injective (hv.symm.trans hv')
    subst heq
    refine hne (hcfg ?_)
    simp only [Prod.mk.injEq]
    exact ⟨hn.1.symm.trans hn'.1, hn.2.symm.trans hn'.2⟩

/-! ## Every run -/

/-- The outline of the results about leases: nothing is asked of the other threads beyond the invariant. -/
def leaseOutline (cfg : G → GameConfiguration) :
    Outline (G × T) Op Act FleetInput (Fleet G T × LeaseWriters G) where
  inv := LeaseInv cfg
  rest _ _ := True
  start _ _ _ := True
  ok _ _ _ _ _ := True
  event t _ a i s s' := RespectsWriters cfg t.1 a i s s'
  rely _ _ _ _ := True
  rely_refl _ _ _ := trivial
  rely_trans _ _ _ _ _ _ _ := trivial
  rest_rely _ _ _ _ _ := trivial

section Runs

variable (hcfg : Function.Injective fun g => ((cfg g).gameServiceType, (cfg g).instanceId))
include hcfg

theorem leaseOutline_all (o : Op) {α : Type} {p : Call α} (hp : p.All (RefreshNames (cfg t.1)))
    {s : Fleet G T × LeaseWriters G} :
    (leaseOutline cfg).Safe (leaseMachine cfg) t o (fun _ _ => True) p s := by
  refine Outline.safe_of_all (K := fun _ => True) (fun _ _ _ _ _ _ => trivial) ?_
    (fun _ _ _ => trivial) hp trivial
  intro e i s s' r he hI _ _ hx
  exact ⟨hI.respects hcfg he hx, hI.step he hx, trivial⟩

/-- A renew round sends its refreshes with the owners it has just read from the lease map. -/
theorem leaseOutline_renew (o : Op) (order : List PlayerId) {s : Fleet G T × LeaseWriters G} :
    (leaseOutline cfg).Safe (leaseMachine cfg) t o (fun _ _ => True) (renewLeases order) s := by
  have hrefresh : ∀ (leases : List (PlayerId × PlayerLeaseOwner)) (lost : List PlayerId),
      (∀ x ∈ leases, Names (cfg t.1) x.2) →
        (refreshAll leases lost).All (RefreshNames (cfg t.1)) := by
    intro leases
    induction leases with
    | nil => intro lost _; exact all_pure
    | cons x rest ih =>
        intro lost hx
        exact all_seq (hx x List.mem_cons_self) fun _ =>
          ih _ fun y hy => hx y (List.mem_cons_of_mem x hy)
  intro s₁ _ hI i s₂ leases _ hx
  refine ⟨hI.respects hcfg (a := .lease (.renewEnter order)) trivial hx,
    hI.step (a := .lease (.renewEnter order)) trivial hx, ?_⟩
  have hnames : ∀ x ∈ leases, Names (cfg t.1) x.2 := by
    obtain ⟨hgame, -, -⟩ := exec_eq (leaseMachine_exec hx).1
    obtain ⟨l, hl, -⟩ := GameProcess.exec_lease hgame
    simp only [PlayerLeaseService.exec, Option.ite_none_left_eq_some, Option.some.injEq,
      Prod.mk.injEq] at hl
    obtain ⟨-, -, rfl⟩ := hl
    intro x hmem
    simp only [PlayerLeaseService.tracked, List.mem_filterMap, Option.map_eq_some_iff] at hmem
    obtain ⟨p, -, owner, ho, rfl⟩ := hmem
    exact hI.owned _ p owner ho
  exact leaseOutline_all hcfg o
    ((hrefresh leases [] hnames).bind fun lost =>
      all_call (a := .lease (.renewLeave lost)) trivial)

theorem leaseOutline_safe (fuel : Nat) (o : Op) (s : Fleet G T × LeaseWriters G) :
    (leaseOutline cfg).Safe (leaseMachine cfg) t o (fun _ _ => True) (code cfg fuel t o) s := by
  have hplain : ∀ a : Act, a.plain = true → RefreshNames (cfg t.1) a := by
    intro a ha
    unfold RefreshNames
    split
    · cases ha
    · trivial
  have hD : ∀ a : DirectoryAct, RefreshNames (cfg t.1) (.directory a) := fun _ => trivial
  refine Op.code_of_calls (Outline.compositional_safe (K := fun _ => True)) ?_ ?_ ?_ ?_ ?_ s trivial
  · intro ho s _
    exact leaseOutline_all hcfg o (Op.code_all hplain _ fuel ho)
  · intro source key gate s _
    exact leaseOutline_all hcfg o (handleLoginRequest_all hplain hD _ fuel source key gate)
  · intro key s _
    exact leaseOutline_all hcfg o (resolveOrCreate_all hD fuel key)
  · intro key s _
    exact leaseOutline_all hcfg o (lookup_all hD key)
  · intro order s _
    exact leaseOutline_renew hcfg o order

theorem leaseOutline_proved (fuel : Nat) :
    (leaseOutline cfg).Proved (leaseMachine cfg) (code (T := T) cfg fuel) (fun _ _ => True)
      (fun _ _ _ _ => True) where
  start _ _ _ _ _ := trivial
  ok _ _ _ _ _ _ _ _ _ := trivial
  safe _ o s _ _ _ := (leaseOutline_safe hcfg fuel o s).mono fun _ _ _ => ⟨trivial, trivial⟩
  compatible _ _ _ _ _ _ _ _ _ _ _ _ _ _ _ := trivial

end Runs

section Theorem

variable [DecidableEq T]

/-- What lease safety says about a reachable state: every refresh or release that a thread can send
next leaves a key whose value another game has written exactly as it is, and at most one game tracks
an owner whose text is the current value of the key. -/
structure LeaseSafe (cfg : G → GameConfiguration) (fuel : Nat)
    (c : Pool (G × T) Op Act Act.Reply OpResult (Fleet G T × LeaseWriters G)) : Prop where
  respects : ∀ t o a k i c', c.threads t = some (o, .act a k) →
    c.move (leaseMachine cfg) (code cfg fuel) (.act t i) = some c' →
      RespectsWriters cfg t.1 a i c.shared c'.shared
  unique : ∀ p key g h og oh, c.shared.1.world.leases p = some key →
    (c.shared.1.games g).lease.leases p = some og → buildValue og = key.value →
    (c.shared.1.games h).lease.leases p = some oh → buildValue oh = key.value → g = h

/-- **Lease safety.** Any number of games with distinct identities, any interleaving of their
operations, any command failing and any lease key expiring at any time: every reachable state is
lease safe. -/
theorem lease_safety
    (hcfg : Function.Injective fun g => ((cfg g).gameServiceType, (cfg g).instanceId)) (fuel : Nat)
    {s₀ : Fleet G T} (h₀ : ∀ g p, (s₀.games g).lease.leases p = none)
    {c : Pool (G × T) Op Act Act.Reply OpResult (Fleet G T × LeaseWriters G)}
    (hrun : Run (leaseMachine cfg) (code cfg fuel) (fun _ _ => True)
      (Pool.initial (s₀, fun _ => none)) c) : LeaseSafe cfg fuel c := by
  have hgood : (leaseOutline cfg).Good (leaseMachine cfg) (fun _ _ _ _ => True) c := by
    refine (leaseOutline_proved hcfg fuel).sound (Outline.good_initial ?_ fun _ => trivial) hrun
    refine ⟨?_, ?_⟩
    · intro g p o ho
      rw [h₀ g p] at ho
      cases ho
    · intro p key g _ hw
      cases hw
  refine ⟨?_, ?_⟩
  · intro t o a k i c' ht hmove
    exact ((leaseOutline_proved hcfg fuel).move hgood trivial hmove).2.2 o a k ht
  · intro p key g h og oh _ hg hvg hh hvh
    have heq : og = oh := buildValue_injective (hvg.trans hvh.symm)
    subst heq
    have hng := hgood.1.owned g p og hg
    have hnh := hgood.1.owned h p og hh
    refine hcfg ?_
    simp only [Prod.mk.injEq]
    exact ⟨hng.1.symm.trans hnh.1, hng.2.symm.trans hnh.2⟩

end Theorem

/-! ## A takeover -/

/-- One game's lease of player 7 expires, the other game takes it, and the first releases late. -/
def takeover : List (Move (Bool × Unit) Op FleetInput) :=
  [.start (true, ()) (.acquireLease 7), .act (true, ()) { nowMs := 5 },
    .start (false, ()) (.acquireLease 7), .act (false, ()) { nowMs := 6, expired := [7] },
    .start (true, ()) (.releaseLease 7), .act (true, ()) {}]

/-- The two games before anything has happened. -/
def idleGames : Pool (Bool × Unit) Op Act Act.Reply OpResult (Fleet Bool Unit × LeaseWriters Bool) :=
  Pool.initial ({}, fun _ => none)

/-- The late release leaves the new owner's key alone, and the state it ends in is lease safe. -/
theorem lease_safety_takeover :
    ∃ c, idleGames.play (leaseMachine twoGames) (code twoGames 0) (fun _ _ => true) takeover = some c ∧
      c.shared.1.world.leases 7 = some ⟨"10:2:7-2-6", 30000⟩ ∧ c.shared.2 7 = some false ∧
      LeaseSafe twoGames 0 c := by
  obtain ⟨c, hc, hrun⟩ :
      ∃ c, idleGames.play (leaseMachine twoGames) (code twoGames 0) (fun _ _ => true) takeover =
          some c ∧ Run (leaseMachine twoGames) (code twoGames 0) (fun _ _ => True) idleGames c :=
    Run.exists_of_play (fun _ _ _ => trivial) (by decide)
  have hend : (idleGames.play (leaseMachine twoGames) (code twoGames 0) (fun _ _ => true)
      takeover).map (fun c => (c.shared.1.world.leases 7, c.shared.2 7)) =
      some (some ⟨"10:2:7-2-6", 30000⟩, some false) := by decide
  rw [hc, Option.map_some, Option.some.injEq, Prod.mk.injEq] at hend
  refine ⟨c, hc, hend.1, hend.2, lease_safety ?_ 0 (fun _ _ => rfl) hrun⟩
  intro g h hgh
  cases g <;> cases h <;> simp [twoGames] at hgh ⊢

end Fleet

end SomeServer
