/-
# SomeServer.Fleet.Lockout — a game and the key it has written itself

`Acquire` answers "player lease is already held by another game" whenever Redis does not reply `OK`, and
does not look at who holds the key. That is the truth as long as a game has a local entry for every key
that it has written. The entry and the key part when the reply to a `SET` gets lost, and when an entry is
dropped while the key stays: `Release` and the renew loop drop it however the command was answered. A
reply of Redis that is an error does the same (a server that is loading its data set or runs a long
script refuses commands for a while, and the connection stays up), so a step has a refusal as one more
input here.

`leaseAnswered` says of one step that its command does not part the two. In runs of such steps the answer
is right (`held_by_another`); one refused renewal is enough to make it wrong (`held_by_itself`).
-/
import SomeServer.Fleet.Lease

namespace SomeServer

open Lib

/-- The answer of `Acquire` to any reply that is not `OK`. -/
def heldElsewhere : Result := .failure "player lease is already held by another game"

namespace GameProcess

variable {T : Type} {cfg : GameConfiguration} {t u : T} {env : Env} {nowMs : UInt64} {s s' : GameProcess T}
  {a : Act} {r : a.Reply} {p : PlayerId}

/-- The two sections of a renew round that work under a mutex taken before. -/
def Renews (a : Act) : Prop :=
  (∃ p owner, a = .lease (.refresh p owner)) ∨ ∃ lost, a = .lease (.renewLeave lost)

/-! ## The lease service, section by section -/

/-- A tracked player is dropped by a section that sends the deletion, or at the end of a renew round. -/
theorem dropped_cases (nowMs : UInt64) {owner : PlayerLeaseOwner} (hredis : s.lease.redis = true)
    (hheld : s.lease.leases p = some owner) (hgone : s'.lease.leases p = none)
    (h : s.exec cfg t env a = some (s', r)) :
    s.command cfg nowMs a = some (.leaseDelete p (buildValue owner)) ∨
      ∃ lost, a = .lease (.renewLeave lost) ∧ p ∈ lost := by
  have hrelease : ∀ q, (s.lease.release q).1.leases p = none →
      s.releaseCommand q = some (.leaseDelete p (buildValue owner)) := by
    intro q hq
    rw [PlayerLeaseService.release_leases] at hq
    split at hq
    · rename_i hpq
      subst hpq
      simp [releaseCommand, hredis, hheld]
    · rw [hheld] at hq
      cases hq
  have hsame : ∀ l : PlayerLeaseService T, l = s.lease → l.leases p ≠ none := by
    rintro l rfl hl
    rw [hheld] at hl
    cases hl
  rcases exec_lease_frame h with hkept | ⟨b, r', rfl, hl⟩ | ⟨q, gate, rfl, hasks, hl⟩
  · exact absurd hgone (hsame _ hkept)
  · cases b with
    | acquire q =>
        simp only [PlayerLeaseService.exec, Option.ite_none_left_eq_some, Option.some.injEq,
          Prod.ext_iff] at hl
        -- `Acquire` writes an entry only where there is none
        rcases PlayerLeaseService.acquire_cases cfg env q p s.lease with hkept | ⟨-, -, hfree, -⟩
        · rw [hl.2.1, hheld, hgone] at hkept
          cases hkept
        · rw [hheld] at hfree
          cases hfree
    | release q =>
        simp only [PlayerLeaseService.exec, Option.ite_none_left_eq_some, Option.some.injEq,
          Prod.ext_iff] at hl
        exact .inl (hrelease q (by rw [hl.2.1]; exact hgone))
    | renewLeave lost =>
        simp only [PlayerLeaseService.exec, Option.some.injEq, Prod.ext_iff] at hl
        refine .inr ⟨lost, rfl, ?_⟩
        by_contra hmem
        rw [← hl.1] at hgone
        simp [PlayerLeaseService.erase, hmem, hheld] at hgone
    | isHeldLocally q =>
        simp only [PlayerLeaseService.exec, Option.ite_none_left_eq_some, Option.some.injEq,
          Prod.ext_iff] at hl
        exact absurd hgone (hsame _ hl.2.1.symm)
    | renewEnter order =>
        simp only [PlayerLeaseService.exec, Option.ite_none_left_eq_some, Option.some.injEq,
          Prod.ext_iff] at hl
        rw [← hl.2.1] at hgone
        exact absurd (show s.lease.leases p = none from hgone) (hsame _ rfl)
    | refresh q owner =>
        simp only [PlayerLeaseService.exec, Option.some.injEq, Prod.ext_iff] at hl
        exact absurd hgone (hsame _ hl.1.symm)
  · left
    simp only [command, hasks, Bool.false_eq_true, if_false]
    exact hrelease q (by rw [← hl]; exact hgone)

/-- While a renew round holds the mutex, no section but its own changes the lease service. -/
theorem lease_frozen (hm : s.lease.mutex = some u) (ha : ¬ Renews a)
    (h : s.exec cfg t env a = some (s', r)) : s'.lease = s.lease := by
  rcases exec_lease_frame h with hsame | ⟨b, r', rfl, hl⟩ | ⟨q, gate, rfl, hasks, -⟩
  · exact hsame
  · cases b with
    | acquire q | release q | isHeldLocally q | renewEnter order =>
        simp [PlayerLeaseService.exec, hm] at hl
    | refresh q owner => exact absurd (.inl ⟨q, owner, rfl⟩) ha
    | renewLeave lost => exact absurd (.inr ⟨lost, rfl⟩) ha
  · simp [exec, execSession, hasks, hm] at h

/-- An `Acquire` whose `SET` is answered `OK` has its owner in the entry. -/
theorem acquire_written {r : Result} (hredis : s.lease.redis = true) (hfree : s.lease.leases p = none)
    (hok : env.redis = .status "OK") (h : s.exec cfg t env (.lease (.acquire p)) = some (s', r)) :
    s'.lease.leases p = some (leaseOwner cfg p env.nowMs) := by
  obtain ⟨l, hl, rfl⟩ := exec_lease h
  simp only [PlayerLeaseService.exec, Option.ite_none_left_eq_some, Option.some.injEq, Prod.ext_iff] at hl
  rw [← hl.2.1]
  simp [PlayerLeaseService.acquire, PlayerLeaseService.isHeldLocally, PlayerLeaseService.acquired, hredis,
    hfree, hok]

/-- The answer comes from a `SET` that was answered, and not with `OK`. -/
theorem acquire_refused {r : Result} (h : s.exec cfg t env (.lease (.acquire p)) = some (s', r))
    (hr : r = heldElsewhere) :
    s.lease.redis = true ∧ s.lease.leases p = none ∧ env.redis ≠ .status "OK" ∧
      env.redis ≠ lostAnswer.redis := by
  obtain ⟨l, hl, -⟩ := exec_lease h
  simp only [PlayerLeaseService.exec, Option.ite_none_left_eq_some, Option.some.injEq, Prod.ext_iff] at hl
  obtain ⟨-, -, hreply⟩ := hl
  have hacquire : (s.lease.acquire cfg env p).2 = heldElsewhere := hreply.trans hr
  unfold PlayerLeaseService.acquire at hacquire
  cases hredis : s.lease.redis with
  -- without a handle the answer is another
  | false =>
      rw [hredis] at hacquire
      simp [heldElsewhere, Result.failure] at hacquire
  | true =>
      simp only [hredis, Bool.not_true, Bool.false_eq_true, if_false] at hacquire
      cases hheld : s.lease.leases p with
      -- a tracked player is answered `ok`
      | some owner =>
          simp [PlayerLeaseService.isHeldLocally, hheld, heldElsewhere, Result.success,
            Result.failure] at hacquire
      -- the `SET` is sent, and its reply decides
      | none =>
          simp only [PlayerLeaseService.isHeldLocally, hheld, Option.isSome_none, Bool.false_eq_true,
            if_false] at hacquire
          refine ⟨rfl, rfl, ?_, ?_⟩
          · intro hok
            simp [hok, PlayerLeaseService.acquired, heldElsewhere, Result.success, Result.failure] at hacquire
          · intro hlost
            simp [hlost, lostAnswer, contextError, heldElsewhere, Result.failure] at hacquire

end GameProcess

/-! ## Steps whose command may be refused -/

/-- The input of a step, and the error Redis replies with when it does not execute the command. -/
structure RefusableInput extends FleetInput where
  refusal : Option String := none
deriving DecidableEq, Repr

/-- The answer to a refused command. -/
def refused (text : String) : Answer where
  redis := .error text
  cached := .error text
  maria := .error text

namespace Fleet

variable {G T : Type}

/-- The world after the expiries and the command of a step, and the command's answer. -/
def answered (cfg : G → GameConfiguration) (g : G) (a : Act) (i : RefusableInput) (s : Fleet G T) :
    World × Answer :=
  match i.refusal, s.command cfg g a i.toFleetInput with
  | some text, some _ => (s.world.expire i.expired, refused text)
  | _, _ => s.served cfg g a i.toFleetInput

variable [DecidableEq G]

/-- One section, as `Fleet.exec`, with a command that may be refused. -/
def execRefusable (cfg : G → GameConfiguration) (t : G × T) (a : Act) (i : RefusableInput)
    (s : Fleet G T) : Option (Fleet G T × a.Reply) :=
  let x := s.answered cfg t.1 a i
  ((s.games t.1).exec (cfg t.1) t.2 (i.env x.2) a).map fun y =>
    (⟨x.1, Function.update s.games t.1 y.1⟩, y.2)

/-- Without a refusal it is the fleet's own step. -/
theorem execRefusable_of_none {cfg : G → GameConfiguration} {t : G × T} {a : Act} {i : RefusableInput}
    (h : i.refusal = none) (s : Fleet G T) : s.execRefusable cfg t a i = s.exec cfg t a i.toFleetInput := by
  have hsame : s.answered cfg t.1 a i = s.served cfg t.1 a i.toFleetInput := by
    simp only [answered, h]
  simp only [execRefusable, exec, hsame]

/-- The fleet with refusals, and with the writers of the lease keys written down. -/
def refusableMachine (cfg : G → GameConfiguration) :
    Machine (G × T) Act Act.Reply RefusableInput (Fleet G T × LeaseWriters G) :=
  Machine.withHistory ⟨fun t a i s => s.execRefusable cfg t a i⟩
    fun t a i s s' _ writers => recordWriter t a i.toFleetInput s s' writers

/-! ## The condition -/

/-- Once the expiries of a step are over, the key of a player is there and has been written by game
`g`. -/
def ownKey (g : G) (i : RefusableInput) (s : Fleet G T × LeaseWriters G) (p : PlayerId) : Bool :=
  ((s.1.world.expire i.expired).leases p).isSome && decide (s.2 p = some g)

/-- The command of a step does not part a game's keys from its entries: of a `SET` on an absent key no error
reply arrives, and its reply is not lost once it has written the key; a refresh of an own key is executed
and its reply arrives; a deletion of an own key is executed. -/
def leaseAnswered (cfg : G → GameConfiguration) (g : G) (a : Act) (i : RefusableInput)
    (s : Fleet G T × LeaseWriters G) : Bool :=
  match s.1.command cfg g a i.toFleetInput with
  | some (.leaseSet p _ ttlMs) =>
      ((s.1.world.expire i.expired).leases p).isSome ||
        (i.refusal.isNone && decide (if ttlMs = 0 then i.fault ≠ .none else i.fault ≠ .replyLost))
  | some (.leaseRefresh p _ _) =>
      !ownKey g i s p || (i.refusal.isNone && decide (i.fault = .none))
  | some (.leaseDelete p _) => !ownKey g i s p || (i.refusal.isNone && i.fault.executes)
  | _ => true

variable {cfg : G → GameConfiguration} {g : G} {t u : G × T} {a : Act} {i : RefusableInput} {r : a.Reply}
  {s s' : Fleet G T × LeaseWriters G} {p : PlayerId} {value : String} {ttlMs : UInt64} {key : LeaseKey}

theorem refusableMachine_exec (h : (refusableMachine cfg).exec t a i s = some (s', r)) :
    s.1.execRefusable cfg t a i = some (s'.1, r) ∧
      s'.2 = recordWriter t a i.toFleetInput s.1 s'.1 s.2 :=
  Machine.withHistory_exec h

theorem execRefusable_eq {s s' : Fleet G T} (h : s.execRefusable cfg t a i = some (s', r)) :
    (s.games t.1).exec (cfg t.1) t.2 (i.env (s.answered cfg t.1 a i).2) a = some (s'.games t.1, r) ∧
      s'.world = (s.answered cfg t.1 a i).1 ∧ ∀ g, g ≠ t.1 → s'.games g = s.games g := by
  simp only [execRefusable, Option.map_eq_some_iff] at h
  obtain ⟨⟨process, r'⟩, hx, hs⟩ := h
  cases hs
  refine ⟨by simpa using hx, rfl, ?_⟩
  intro g hg
  simp [Function.update_of_ne hg]

/-! ## The commands -/

omit [DecidableEq G] in
theorem answered_of_command {s : Fleet G T} {command : Command}
    (hc : s.command cfg g a i.toFleetInput = some command) (hr : i.refusal = none) :
    s.answered cfg g a i = (s.world.expire i.expired).serve i.fault i.serverMs command := by
  simp [answered, served, hc, hr]

omit [DecidableEq G] in
/-- A lease key is as the expiries left it, or newly written, or was touched by a script that carried the
key's own value. -/
theorem answered_leases (cfg : G → GameConfiguration) (g : G) (a : Act) (i : RefusableInput)
    (s : Fleet G T) (p : PlayerId) :
    (s.answered cfg g a i).1.leases p = (s.world.expire i.expired).leases p ∨
      ∃ command, s.command cfg g a i.toFleetInput = some command ∧
        ((∃ value ttl e, command = .leaseSet p value ttl ∧
            (s.world.expire i.expired).leases p = none ∧
            (s.answered cfg g a i).1.leases p = some ⟨value, e⟩) ∨
          (∃ key, (s.world.expire i.expired).leases p = some key ∧
            ∀ key', (s.answered cfg g a i).1.leases p = some key' → key'.value = key.value)) := by
  cases hr : i.refusal with
  -- a refused command has no effect, only the expiries have
  | some text =>
      left
      unfold answered served
      rw [hr]
      cases s.command cfg g a i.toFleetInput <;> rfl
  | none =>
      cases hc : s.command cfg g a i.toFleetInput with
      | none =>
          left
          simp [answered, served, hc, hr]
      | some command =>
          rw [answered_of_command hc hr]
          rcases World.serve_leases i.fault i.serverMs (s.world.expire i.expired) command p with
            hsame | hset | ⟨key, hkey, -, hval⟩
          · exact .inl hsame
          · exact .inr ⟨command, rfl, .inl hset⟩
          · exact .inr ⟨command, rfl, .inr ⟨key, hkey, hval⟩⟩

/-- A `SET` that has written a key of its own accord has been answered `OK`. -/
theorem set_answered (hc : s.1.command cfg g a i.toFleetInput = some (.leaseSet p value ttlMs))
    (hok : leaseAnswered cfg g a i s = true) (hfree : (s.1.world.expire i.expired).leases p = none) :
    (s.1.answered cfg g a i).2.redis = .status "OK" ∨
      ((s.1.answered cfg g a i).1.leases p = none ∧
        (s.1.answered cfg g a i).2.redis = lostAnswer.redis) := by
  simp only [leaseAnswered, hc, hfree, Option.isSome_none, Bool.false_or, Bool.and_eq_true,
    decide_eq_true_eq, Option.isNone_iff_eq_none] at hok
  obtain ⟨hr, hfault⟩ := hok
  rw [answered_of_command hc hr]
  by_cases httl : ttlMs = 0
  · rw [if_pos httl] at hfault
    right
    cases hf : i.fault with
    | none => exact absurd hf hfault
    | dropped | unavailable => exact ⟨hfree, rfl⟩
    | replyLost => simp [World.serve, World.execute, World.leaseSet, httl, hfree]
  · rw [if_neg httl] at hfault
    cases hf : i.fault with
    | none =>
        left
        simp [World.serve, World.execute, World.leaseSet, httl, hfree, statusOk]
    | dropped | unavailable => exact .inr ⟨hfree, rfl⟩
    | replyLost => exact absurd hf hfault

omit [DecidableEq G] in
/-- A `SET` leaves a key that is there alone. -/
theorem set_present (hc : s.1.command cfg g a i.toFleetInput = some (.leaseSet p value ttlMs))
    (hkey : (s.1.world.expire i.expired).leases p = some key) :
    (s.1.answered cfg g a i).1.leases p = some key := by
  rcases answered_leases cfg g a i s.1 p with hsame | ⟨command, hc', ⟨-, -, -, -, hnone, -⟩ | -⟩
  · rw [hsame, hkey]
  · rw [hnone] at hkey
    cases hkey
  · cases hr : i.refusal with
    | some text => simpa [answered, hr, hc] using hkey
    | none =>
        rw [answered_of_command hc hr]
        have hleave : (World.leaseSet i.serverMs value ttlMs (some key)).1 = some key := by
          unfold World.leaseSet
          split <;> rfl
        cases i.fault <;> simp [World.serve, World.execute, hkey, hleave]

/-- The deletion of an own key. -/
theorem delete_answered (hc : s.1.command cfg g a i.toFleetInput = some (.leaseDelete p key.value))
    (hok : leaseAnswered cfg g a i s = true) (hkey : (s.1.world.expire i.expired).leases p = some key)
    (hown : s.2 p = some g) : (s.1.answered cfg g a i).1.leases p = none := by
  simp only [leaseAnswered, hc, ownKey, hkey, hown, Option.isSome_some, decide_true, Bool.and_self,
    Bool.not_true, Bool.false_or, Bool.and_eq_true, Option.isNone_iff_eq_none] at hok
  rw [answered_of_command hc hok.1]
  cases hf : i.fault with
  | none | replyLost => simp [World.serve, World.execute, World.leaseDelete, hkey]
  | dropped | unavailable => simp [hf, Fault.executes] at hok

/-- The refresh of an own key. -/
theorem refresh_answered (hc : s.1.command cfg g a i.toFleetInput = some (.leaseRefresh p key.value ttlMs))
    (hok : leaseAnswered cfg g a i s = true) (hkey : (s.1.world.expire i.expired).leases p = some key)
    (hown : s.2 p = some g) : (s.1.answered cfg g a i).2.redis = .integer 1 := by
  simp only [leaseAnswered, hc, ownKey, hkey, hown, Option.isSome_some, decide_true, Bool.and_self,
    Bool.not_true, Bool.false_or, Bool.and_eq_true, Option.isNone_iff_eq_none, decide_eq_true_eq] at hok
  rw [answered_of_command hc hok.1, hok.2]
  simp [World.serve, World.execute, World.leaseRefresh, hkey]

/-! ## The invariant -/

/-- The key of the player is there, and game `g` has written it. -/
def OwnKey (g : G) (p : PlayerId) (s : Fleet G T × LeaseWriters G) : Prop :=
  (s.1.world.leases p).isSome = true ∧ s.2 p = some g

/-- A game has an entry for every key that it has written, with the owner that the key names; and a game
with an entry has a connection. -/
structure OwnInv (s : Fleet G T × LeaseWriters G) : Prop where
  tracked : ∀ g p key, s.1.world.leases p = some key → s.2 p = some g →
    ∃ owner, (s.1.games g).lease.leases p = some owner ∧ key.value = buildValue owner
  redis : ∀ g p owner, (s.1.games g).lease.leases p = some owner → (s.1.games g).lease.redis = true

/-- A game's own key after a step was its own before, and survived the expiries; or the game's `Acquire`
has just written it. -/
theorem own_cases (hx : (refusableMachine cfg).exec t a i s = some (s', r)) (hown : OwnKey g p s') :
    (∃ key, (s.1.world.expire i.expired).leases p = some key ∧ s.2 p = some g ∧
        ∀ key', s'.1.world.leases p = some key' → key'.value = key.value) ∨
      (g = t.1 ∧ a = .lease (.acquire p) ∧ (s.1.world.expire i.expired).leases p = none ∧
        ∃ ttlMs e, s.1.command cfg g a i.toFleetInput =
            some (.leaseSet p (buildValue (leaseOwner (cfg g) p i.nowMs)) ttlMs) ∧
          s'.1.world.leases p = some ⟨buildValue (leaseOwner (cfg g) p i.nowMs), e⟩) := by
  obtain ⟨hstep, hrec⟩ := refusableMachine_exec hx
  obtain ⟨-, hworld, -⟩ := execRefusable_eq hstep
  obtain ⟨hsome, hwriter⟩ := hown
  obtain ⟨key', hkey'⟩ := Option.isSome_iff_exists.mp hsome
  rw [hrec] at hwriter
  simp only [recordWriter, hkey'] at hwriter
  cases hkey : (s.1.world.expire i.expired).leases p with
  -- the key was there: whoever has written it then is its writer still
  | some key =>
      rw [hkey] at hwriter
      refine .inl ⟨key, rfl, hwriter, ?_⟩
      rw [hworld]
      rcases answered_leases cfg t.1 a i s.1 p with
        hsame | ⟨command, -, ⟨-, -, -, -, hnone, -⟩ | ⟨old, hold, hval⟩⟩
      · intro key'' h
        rw [hsame, hkey] at h
        cases h
        rfl
      · rw [hnone] at hkey
        cases hkey
      · rw [hold] at hkey
        cases hkey
        exact hval
  -- no key was there, so that this step has written it
  | none =>
      rw [hkey] at hwriter
      obtain rfl : t.1 = g := Option.some.inj hwriter
      rw [hworld] at hkey'
      rcases answered_leases cfg t.1 a i s.1 p with
        hsame | ⟨command, hc, ⟨value, ttlMs, e, rfl, -, hnew⟩ | ⟨old, hold, -⟩⟩
      · rw [hsame, hkey] at hkey'
        cases hkey'
      · obtain ⟨ha, -, -, rfl, -⟩ := GameProcess.set_of_command hc
        exact .inr ⟨rfl, ha, rfl, ttlMs, e, hc, by rw [hworld]; exact hnew⟩
      · rw [hold] at hkey
        cases hkey

/-- A key that is its writer's own after a step, and was not written in it, was the writer's own before. -/
theorem own_before (hx : (refusableMachine cfg).exec t a i s = some (s', r))
    (ha : g = t.1 → a ≠ .lease (.acquire p)) (hown : OwnKey g p s') : OwnKey g p s := by
  rcases own_cases hx hown with ⟨key, hkey, hwriter, -⟩ | ⟨hg, hacquire, -⟩
  · exact ⟨by rw [expire_leases hkey, Option.isSome_some], hwriter⟩
  · exact absurd hacquire (ha hg)

/-- A step with an answered command keeps the invariant, provided that a renew round drops no player whose
key is still its own. -/
theorem OwnInv.step (hI : OwnInv s) (hok : leaseAnswered cfg t.1 a i s = true)
    (hlost : ∀ lost, a = .lease (.renewLeave lost) → ∀ p ∈ lost, ¬ OwnKey t.1 p s)
    (hx : (refusableMachine cfg).exec t a i s = some (s', r)) : OwnInv s' := by
  obtain ⟨hstep, hrec⟩ := refusableMachine_exec hx
  obtain ⟨hgame, hworld, hother⟩ := execRefusable_eq hstep
  refine ⟨?_, ?_⟩
  · intro g p key' hkey' hwriter
    rcases own_cases hx ⟨by rw [hkey', Option.isSome_some], hwriter⟩ with
      ⟨key, hkey, hown, hval⟩ | ⟨rfl, rfl, hfree, ttlMs, e, hc, hnew⟩
    · obtain ⟨owner, hheld, hvalue⟩ := hI.tracked g p key (expire_leases hkey) hown
      -- the key was there before, so an entry for it was, too: who can have dropped it?
      refine ⟨owner, ?_, (hval key' hkey').trans hvalue⟩
      by_cases hg : g = t.1
      · subst hg
        rcases GameProcess.exec_leases hgame p with hsame | hgone | ⟨-, -, hnone, -⟩
        · rw [hsame, hheld]
        · exfalso
          have hredis := hI.redis t.1 p owner hheld
          rcases GameProcess.dropped_cases i.nowMs hredis hheld hgone hgame with
            hc | ⟨lost, ha, hmem⟩
          · -- the deletion was executed, so the key is gone
            rw [← hvalue] at hc
            rw [hworld, delete_answered hc hok hkey hown] at hkey'
            cases hkey'
          · exact hlost lost ha p hmem ⟨by rw [expire_leases hkey, Option.isSome_some], hown⟩
        · rw [hheld] at hnone
          cases hnone
      · rw [hother g hg]
        exact hheld
    · obtain rfl : key' = ⟨_, e⟩ := Option.some.inj (hkey'.symm.trans hnew)
      -- the key is new: the reply to its `SET` has arrived, or the `SET` was never executed
      rcases set_answered hc hok hfree with hdone | ⟨hnone, -⟩
      · obtain ⟨-, hredis, hnone, -⟩ := GameProcess.set_of_command hc
        exact ⟨_, GameProcess.acquire_written hredis hnone hdone hgame, rfl⟩
      · rw [hworld, hnone] at hkey'
        cases hkey'
  · intro g p owner hheld
    by_cases hg : g = t.1
    · subst hg
      rw [GameProcess.exec_redis hgame]
      rcases GameProcess.exec_leases hgame p with hsame | hgone | ⟨-, hredis, -⟩
      · exact hI.redis _ p owner (hsame ▸ hheld)
      · rw [hgone] at hheld
        cases hheld
      · exact hredis
    · rw [hother g hg] at hheld ⊢
      exact hI.redis g p owner hheld

/-! ## A renew round -/

/-- What the other threads leave to thread `u` while it holds the mutex: the lease service as it is, and
no own key more. -/
def Frozen (u : G × T) (s s' : Fleet G T × LeaseWriters G) : Prop :=
  (s.1.games u.1).lease.mutex = some u.2 →
    (s'.1.games u.1).lease = (s.1.games u.1).lease ∧ ∀ p, OwnKey u.1 p s' → OwnKey u.1 p s

omit [DecidableEq G] in
theorem Frozen.trans {s₁ s₂ s₃ : Fleet G T × LeaseWriters G} (h : Frozen u s₁ s₂) (h' : Frozen u s₂ s₃) :
    Frozen u s₁ s₃ := by
  intro hm
  obtain ⟨hsame, hown⟩ := h hm
  obtain ⟨hsame', hown'⟩ := h' (by rw [hsame]; exact hm)
  exact ⟨hsame'.trans hsame, fun p hp => hown p (hown' p hp)⟩

/-- A section that is no part of a renew round waits for the mutex, or has no business with leases. -/
theorem frozen_step (ha : ¬ GameProcess.Renews a)
    (hx : (refusableMachine cfg).exec t a i s = some (s', r)) : Frozen u s s' := by
  intro hm
  obtain ⟨hgame, -, hother⟩ := execRefusable_eq (refusableMachine_exec hx).1
  by_cases hg : u.1 = t.1
  · rw [hg] at hm ⊢
    refine ⟨GameProcess.lease_frozen hm ha hgame, fun p hown => own_before hx (fun _ => ?_) hown⟩
    rintro rfl
    obtain ⟨l, hl, -⟩ := GameProcess.exec_lease hgame
    simp [PlayerLeaseService.exec, hm] at hl
  · exact ⟨by rw [hother u.1 hg], fun p hown => own_before hx (fun h => absurd h hg) hown⟩

/-- Nobody else holds the mutex that thread `t` holds. -/
theorem frozen_of_mutex (hu : u ≠ t) (hm : (s.1.games t.1).lease.mutex = some t.2)
    (hx : (refusableMachine cfg).exec t a i s = some (s', r)) (ha : ∀ p, a ≠ .lease (.acquire p)) :
    Frozen u s s' := by
  intro hmu
  obtain ⟨-, -, hother⟩ := execRefusable_eq (refusableMachine_exec hx).1
  have hg : u.1 ≠ t.1 := by
    intro hg
    rw [hg, hm] at hmu
    exact hu (Prod.ext hg (Option.some.inj hmu).symm)
  exact ⟨by rw [hother u.1 hg], fun p hown => own_before hx (fun _ => ha p) hown⟩

/-- In a renew round: the mutex is held, the players to come are tracked, and no lost player has a key
that is still the game's own. -/
structure Renewing (t : G × T) (rest : List (PlayerId × PlayerLeaseOwner)) (lost : List PlayerId)
    (s : Fleet G T × LeaseWriters G) : Prop where
  mutex : (s.1.games t.1).lease.mutex = some t.2
  tracked : ∀ x ∈ rest, (s.1.games t.1).lease.leases x.1 = some x.2
  lost : ∀ p ∈ lost, ¬ OwnKey t.1 p s

omit [DecidableEq G] in
theorem Renewing.stable {rest : List (PlayerId × PlayerLeaseOwner)} {lost : List PlayerId}
    (h : Renewing t rest lost s) (hs : Frozen t s s') : Renewing t rest lost s' := by
  obtain ⟨hsame, hown⟩ := hs h.mutex
  refine ⟨by rw [hsame]; exact h.mutex, ?_, fun p hp hown' => h.lost p hp (hown p hown')⟩
  intro x hx
  rw [hsame]
  exact h.tracked x hx

/-- One refresh: a player whose key is the game's own is kept. -/
theorem Renewing.refresh {x : PlayerId × PlayerLeaseOwner} {rest : List (PlayerId × PlayerLeaseOwner)}
    {lost : List PlayerId} {r : Bool} (h : Renewing t (x :: rest) lost s) (hI : OwnInv s)
    (hok : leaseAnswered cfg t.1 (.lease (.refresh x.1 x.2)) i s = true)
    (hx : (refusableMachine cfg).exec t (.lease (.refresh x.1 x.2)) i s = some (s', r)) :
    Renewing t rest (if r then lost else lost ++ [x.1]) s' := by
  obtain ⟨hgame, -, -⟩ := execRefusable_eq (refusableMachine_exec hx).1
  obtain ⟨l, hl, hs⟩ := GameProcess.exec_lease hgame
  simp only [PlayerLeaseService.exec, Option.some.injEq, Prod.mk.injEq] at hl
  obtain ⟨rfl, hreply⟩ := hl
  have hsame : (s'.1.games t.1).lease = (s.1.games t.1).lease := by rw [hs]
  have hbefore : ∀ p, OwnKey t.1 p s' → OwnKey t.1 p s := fun p hown =>
    own_before hx (fun _ h => by cases h) hown
  have hheld := h.tracked x List.mem_cons_self
  have hredis := hI.redis t.1 x.1 x.2 hheld
  have hkept : OwnKey t.1 x.1 s' → r = true := by
    intro hown
    rcases own_cases hx hown with ⟨key, hkey, hwriter, -⟩ | ⟨-, ha, -⟩
    · obtain ⟨owner, howner, hvalue⟩ := hI.tracked t.1 x.1 key (expire_leases hkey) hwriter
      obtain rfl : owner = x.2 := Option.some.inj (howner.symm.trans hheld)
      have hc : s.1.command cfg t.1 (.lease (.refresh x.1 x.2)) i.toFleetInput =
          some (.leaseRefresh x.1 key.value (leaseTtlMs (cfg t.1))) := by
        simp [command, GameProcess.command, hredis, hvalue]
      -- the script finds the text of the entry in the key, and the reply to it arrives
      have hone := refresh_answered hc hok hkey hwriter
      rw [← hreply]
      simp [PlayerLeaseService.refreshed, hredis, FleetInput.env, hone]
    · cases ha
  refine ⟨by rw [hsame]; exact h.mutex, ?_, ?_⟩
  · intro y hy
    rw [hsame]
    exact h.tracked y (List.mem_cons_of_mem x hy)
  · intro p hp hown
    cases hr : r with
    | true =>
        rw [hr, if_pos rfl] at hp
        exact h.lost p hp (hbefore p hown)
    | false =>
        simp only [hr, Bool.false_eq_true, if_false, List.mem_append, List.mem_singleton] at hp
        rcases hp with hp | rfl
        · exact h.lost p hp (hbefore p hown)
        · rw [hkept hown] at hr
          cases hr

/-! ## Every run -/

/-- The outline: the invariant, and the peace that the holder of the mutex needs. -/
def lockoutOutline (cfg : G → GameConfiguration) :
    Outline (G × T) Op Act RefusableInput (Fleet G T × LeaseWriters G) where
  inv := OwnInv
  rest _ _ := True
  start _ _ _ := True
  ok t _ a i s := leaseAnswered cfg t.1 a i s = true
  event t _ _ _ s s' := ∀ u, u ≠ t → Frozen u s s'
  rely u _ s s' := Frozen u s s'
  rely_refl _ _ _ _ := ⟨rfl, fun _ h => h⟩
  rely_trans _ _ _ _ _ h h' := h.trans h'
  rest_rely _ _ _ _ _ := trivial

theorem lockout_all (o : Op) {α : Type} {x : Call α} (hx : x.All fun a => ¬ GameProcess.Renews a) :
    (lockoutOutline cfg).Safe (refusableMachine cfg) t o (fun _ _ => True) x s := by
  refine Outline.safe_of_all (K := fun _ => True) (fun _ _ _ _ _ _ => trivial) ?_
    (fun _ _ _ => trivial) hx trivial
  intro a i s s' r ha hI _ hok h
  refine ⟨fun u hu => frozen_step ha h, hI.step hok (fun lost hl => ?_) h, trivial⟩
  exact absurd (.inr ⟨lost, hl⟩) ha

theorem lockout_refresh (o : Op) (rest : List (PlayerId × PlayerLeaseOwner)) :
    ∀ {lost : List PlayerId} {s : Fleet G T × LeaseWriters G}, Renewing t rest lost s →
      (lockoutOutline cfg).Safe (refusableMachine cfg) t o (fun lost' s' => Renewing t [] lost' s')
        (refreshAll rest lost) s := by
  induction rest with
  | nil => intro lost s h; exact h
  | cons x rest ih =>
      intro lost s h s₁ hrely hI i s₂ r hok hx
      have h₁ := h.stable hrely
      refine ⟨fun u hu => frozen_of_mutex hu h₁.mutex hx (fun _ ha => by cases ha), ?_,
        ih (h₁.refresh hI hok hx)⟩
      exact hI.step hok (fun _ ha => by cases ha) hx

theorem lockout_renew (o : Op) (order : List PlayerId) :
    (lockoutOutline cfg).Safe (refusableMachine cfg) t o (fun _ _ => True) (renewLeases order) s := by
  intro s₁ _ hI i s₂ leases hok hx
  have hplain : ¬ GameProcess.Renews (.lease (.renewEnter order)) := by
    rintro (⟨p, owner, h⟩ | ⟨lost, h⟩) <;> cases h
  refine ⟨fun u hu => frozen_step hplain hx, hI.step hok (fun _ ha => by cases ha) hx, ?_⟩
  have hstart : Renewing t leases [] s₂ := by
    obtain ⟨hgame, -, -⟩ := execRefusable_eq (refusableMachine_exec hx).1
    obtain ⟨l, hl, hs⟩ := GameProcess.exec_lease hgame
    simp only [PlayerLeaseService.exec, Option.ite_none_left_eq_some, Option.some.injEq,
      Prod.mk.injEq] at hl
    obtain ⟨-, rfl, rfl⟩ := hl
    refine ⟨by rw [hs], ?_, fun p hp => absurd hp List.not_mem_nil⟩
    intro x hmem
    simp only [PlayerLeaseService.tracked, List.mem_filterMap, Option.map_eq_some_iff] at hmem
    obtain ⟨p, -, owner, ho, rfl⟩ := hmem
    rw [hs]
    exact ho
  -- from here on the thread holds the mutex
  show (lockoutOutline cfg).Safe (refusableMachine cfg) t o (fun _ _ => True)
    (refreshAll leases [] >>= fun lost => call (.lease (.renewLeave lost))) s₂
  refine Outline.Safe.bind (Outline.Safe.mono ?_ (lockout_refresh o leases hstart))
  intro lost s₃ h₃ s₄ hrely hI₄ i₄ s₅ r₅ hok₅ hx₅
  have h₄ := h₃.stable hrely
  refine ⟨fun u hu => frozen_of_mutex hu h₄.mutex hx₅ (fun _ ha => by cases ha), ?_, trivial⟩
  refine hI₄.step hok₅ (fun lost' ha => ?_) hx₅
  cases ha
  exact h₄.lost

theorem lockout_safe (fuel : Nat) (o : Op) :
    (lockoutOutline cfg).Safe (refusableMachine cfg) t o (fun _ _ => True) (code cfg fuel t o) s := by
  have hplain : ∀ a : Act, a.plain = true → ¬ GameProcess.Renews a := by
    rintro a ha (⟨p, owner, rfl⟩ | ⟨lost, rfl⟩) <;> cases ha
  have hD : ∀ a : DirectoryAct, ¬ GameProcess.Renews (.directory a) := by
    rintro a (⟨p, owner, h⟩ | ⟨lost, h⟩) <;> cases h
  refine Op.code_of_calls (Outline.compositional_safe (K := fun _ => True)) ?_ ?_ ?_ ?_ ?_ s trivial
  · intro ho s _
    exact lockout_all o (Op.code_all hplain _ fuel ho)
  · intro source key gate s _
    exact lockout_all o (handleLoginRequest_all hplain hD _ fuel source key gate)
  · intro key s _
    exact lockout_all o (resolveOrCreate_all hD fuel key)
  · intro key s _
    exact lockout_all o (lookup_all hD key)
  · intro order s _
    exact lockout_renew o order

/-- The moves whose command is answered so. -/
def answeredGuard (cfg : G → GameConfiguration)
    (c : Pool (G × T) Op Act Act.Reply OpResult (Fleet G T × LeaseWriters G)) :
    Move (G × T) Op RefusableInput → Bool
  | .start _ _ => true
  | .act t i =>
      match c.pending t with
      | some a => leaseAnswered cfg t.1 a i c.shared
      | none => true

theorem lockout_proved (fuel : Nat) :
    (lockoutOutline cfg).Proved (refusableMachine cfg) (code (T := T) cfg fuel)
      (fun c m => answeredGuard cfg c m = true) (fun _ _ _ _ => True) where
  start _ _ _ _ _ := trivial
  ok c t o e k i hg _ ht := by
    show leaseAnswered cfg t.1 e i c.shared = true
    simpa [answeredGuard, Pool.pending, ht] using hg
  safe _ o _ _ _ _ := (lockout_safe fuel o).mono fun _ _ _ => ⟨trivial, trivial⟩
  compatible _ _ _ _ _ _ _ _ _ _ _ _ hevent u hu := hevent u hu

section Theorem

variable [DecidableEq T]

/-- **Held by another.** Any number of games, any interleaving of their operations, expiries at any time:
in a run in which every lease command is answered as `leaseAnswered` says, an `Acquire` that is told that
another game holds the lease finds a key that its own game has not written. -/
theorem held_by_another (fuel : Nat) {s₀ : Fleet G T} (h₀ : ∀ g p, (s₀.games g).lease.leases p = none)
    {c : Pool (G × T) Op Act Act.Reply OpResult (Fleet G T × LeaseWriters G)}
    (hrun : Run (refusableMachine cfg) (code cfg fuel) (fun c m => answeredGuard cfg c m = true)
      (Pool.initial (s₀, fun _ => none)) c)
    (hok : leaseAnswered cfg t.1 (.lease (.acquire p)) i c.shared = true) {r : Result}
    (hx : (refusableMachine cfg).exec t (.lease (.acquire p)) i c.shared = some (s', r))
    (hr : r = heldElsewhere) : ∃ key, s'.1.world.leases p = some key ∧ s'.2 p ≠ some t.1 := by
  have hstart : OwnInv (s₀, fun _ => (none : Option G)) := by
    refine ⟨?_, ?_⟩
    · intro g p key _ hwriter
      cases hwriter
    · intro g p owner hheld
      rw [h₀ g p] at hheld
      cases hheld
  have hI := ((lockout_proved fuel).sound (Outline.good_initial hstart fun _ => trivial) hrun).1
  obtain ⟨hgame, hworld, -⟩ := execRefusable_eq (refusableMachine_exec hx).1
  obtain ⟨hredis, hfree, hnot, hlost⟩ := GameProcess.acquire_refused hgame hr
  have hc : c.shared.1.command cfg t.1 (.lease (.acquire p)) i.toFleetInput =
      some (.leaseSet p (buildValue (leaseOwner (cfg t.1) p i.nowMs)) (leaseTtlMs (cfg t.1))) := by
    simp [command, GameProcess.command, hredis, GameProcess.isHeldLocally,
      PlayerLeaseService.isHeldLocally, hfree]
  cases hkey : (c.shared.1.world.expire i.expired).leases p with
  | none =>
      -- an absent key is written, or the reply does not arrive
      rcases set_answered hc hok hkey with hdone | ⟨-, hreply⟩
      · exact absurd hdone hnot
      · exact absurd hreply hlost
  | some key =>
      have hstays : s'.1.world.leases p = some key := by rw [hworld, set_present hc hkey]
      refine ⟨key, hstays, fun hwriter => ?_⟩
      -- a key of the game's own would have an entry, and then no `SET` is sent
      rcases own_cases hx ⟨by rw [hstays, Option.isSome_some], hwriter⟩ with
        ⟨key', hkey', hown, -⟩ | ⟨-, -, habsent, -⟩
      · obtain ⟨owner, hheld, -⟩ := hI.tracked t.1 p key' (expire_leases hkey') hown
        rw [hfree] at hheld
        cases hheld
      · rw [hkey] at habsent
        cases habsent

end Theorem

/-! ## Two games and one player -/

/-- The two games before anything has happened. -/
def refusableGames :
    Pool (Bool × Unit) Op Act Act.Reply OpResult (Fleet Bool Unit × LeaseWriters Bool) :=
  Pool.initial ({}, fun _ => none)

/-- The first game acquires the lease of player 7 and renews it, and the second is about to ask. -/
def askedTwice : List (Move (Bool × Unit) Op RefusableInput) :=
  [.start (true, ()) (.acquireLease 7), .act (true, ()) {}, .start (true, ()) (.renew [7]),
    .act (true, ()) {}, .act (true, ()) {}, .act (true, ()) {},
    .start (false, ()) (.acquireLease 7)]

/-- The second game is refused, and it is not its own key that it meets. -/
theorem held_by_another_first :
    ∃ c s' key, refusableGames.play (refusableMachine twoGames) (code twoGames 0)
        (answeredGuard twoGames) askedTwice = some c ∧
      (refusableMachine twoGames).exec (false, ()) (.lease (.acquire 7)) {} c.shared =
        some (s', heldElsewhere) ∧
      s'.1.world.leases 7 = some key ∧ s'.2 7 ≠ some false := by
  obtain ⟨c, hc, hrun⟩ :
      ∃ c, refusableGames.play (refusableMachine twoGames) (code twoGames 0) (answeredGuard twoGames)
          askedTwice = some c ∧
        Run (refusableMachine twoGames) (code twoGames 0)
          (fun c m => answeredGuard twoGames c m = true) refusableGames c :=
    Run.exists_of_play (fun _ _ h => h) (by decide)
  have hend : (refusableGames.play (refusableMachine twoGames) (code twoGames 0)
      (answeredGuard twoGames) askedTwice).bind (fun c =>
        ((refusableMachine twoGames).exec (false, ()) (.lease (.acquire 7)) {} c.shared).map fun x =>
          ((x.2 : Result), leaseAnswered twoGames false (.lease (.acquire 7)) {} c.shared)) =
      some (heldElsewhere, true) := by decide
  rw [hc, Option.bind_some] at hend
  obtain ⟨⟨s', r⟩, hx, hreply⟩ := Option.map_eq_some_iff.mp hend
  obtain ⟨rfl, hok⟩ := Prod.mk.inj hreply
  obtain ⟨key, hkey, hwriter⟩ := held_by_another 0 (fun _ _ => rfl) hrun hok hx rfl
  exact ⟨c, s', key, hc, hx, hkey, hwriter⟩

/-- One game acquires the lease of player 7, Redis is busy when it renews, and it acquires again. -/
def askedItself : List (Move (Bool × Unit) Op RefusableInput) :=
  [.start (true, ()) (.acquireLease 7), .act (true, ()) {}, .start (true, ()) (.renew [7]),
    .act (true, ()) {}, .act (true, ()) { refusal := some "BUSY Redis is busy running a script." },
    .act (true, ()) {}, .start (true, ()) (.acquireLease 7)]

/-- The game is told that another game holds the lease, and the key is its own. -/
theorem held_by_itself :
    ∃ c s' key, Run (refusableMachine twoGames) (code twoGames 0) (fun _ _ => True) refusableGames c ∧
      (refusableMachine twoGames).exec (true, ()) (.lease (.acquire 7)) {} c.shared =
        some (s', heldElsewhere) ∧
      s'.1.world.leases 7 = some key ∧ s'.2 7 = some true := by
  obtain ⟨c, hc, hrun⟩ :
      ∃ c, refusableGames.play (refusableMachine twoGames) (code twoGames 0) (fun _ _ => true)
          askedItself = some c ∧
        Run (refusableMachine twoGames) (code twoGames 0) (fun _ _ => True) refusableGames c :=
    Run.exists_of_play (fun _ _ _ => trivial) (by decide)
  have hend : (refusableGames.play (refusableMachine twoGames) (code twoGames 0) (fun _ _ => true)
      askedItself).bind (fun c =>
        ((refusableMachine twoGames).exec (true, ()) (.lease (.acquire 7)) {} c.shared).map fun x =>
          ((x.2 : Result), x.1.1.world.leases 7, x.1.2 7)) =
      some (heldElsewhere, some ⟨"10:1:7-1-0", 30000⟩, some true) := by decide
  rw [hc, Option.bind_some] at hend
  obtain ⟨⟨s', r⟩, hx, hreply⟩ := Option.map_eq_some_iff.mp hend
  simp only [Prod.mk.injEq] at hreply
  obtain ⟨rfl, hkey, hwriter⟩ := hreply
  exact ⟨c, s', _, hrun, hx, hkey, hwriter⟩

end Fleet

end SomeServer
