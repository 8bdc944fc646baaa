/-
# SomeServer.Fleet.World — Redis and MariaDB, and the games that share them

`World` holds what the two servers store for the game services. A `Command` is what one section of a
process sends; a server executes a command as a whole, so a command either has its effect and an
answer, or the answer is lost on the way, or the command never arrives (`Fault`). Redis keys are the
five families the services build; the texts of two families never coincide, since `directory:entry:`,
`directory:next_player_id`, `entries:` and `game:player:lease:` differ before any variable part.

This is what is assumed of the servers:
- one order: commands and scripts are executed one after the other, each as a whole, and each statement
  commits by itself;
- nothing lost: what is written stays until a command changes it, other than a lease key, which goes when its
  TTL is over; no key is evicted, and no server starts again without its data;
- nobody else: only the game services write these keys and rows;
- no late execution: a command whose connection breaks is executed before the break is noticed, or never.

`Fleet` is any number of game processes over one world. In a step one thread of one game runs one
section; the command the section sends, if any, is served in the same step, and lease keys may expire
just before it.
-/
import SomeServer.Game.Calls

namespace SomeServer

open Lib Lib.Decimal

/-! ## What the servers store -/

/-- A lease key: its text, and the server time at which Redis drops it. -/
structure LeaseKey where
  value : String
  expiresAtMs : Nat
deriving DecidableEq, Repr

/-- A value of a directory key: a string, or a value of another type. -/
inductive RedisValue where
  | text (text : String)
  | other
deriving DecidableEq, Repr

structure World where
  leases : PlayerId → Option LeaseKey := fun _ => none
  entries : String → Option RedisValue := fun _ => none
  counter : Option RedisValue := none
  cache : PlayerId → Option Blob := fun _ => none
  rows : PlayerId → Option Blob := fun _ => none

/-! ## Commands -/

inductive Command where
  | leaseSet (playerId : PlayerId) (value : String) (ttlMs : UInt64)
  | leaseRefresh (playerId : PlayerId) (value : String) (ttlMs : UInt64)
  | leaseDelete (playerId : PlayerId) (value : String)
  | entryGet (key : String)
  | entrySetIfAbsent (key text : String)
  | counterGet
  | counterSetIfAbsent (text : String)
  | counterSet (text : String)
  | counterIncrement
  | cacheGet (playerId : PlayerId)
  | cacheSet (playerId : PlayerId) (value : Blob)
  | createTable
  | rowSelect (playerId : PlayerId)
  | rowInsert (playerId : PlayerId) (value : Blob)
deriving DecidableEq, Repr

/-- The commands that go over the lease service's context. -/
def Command.onLeaseContext : Command → Bool
  | .leaseSet _ _ _ => true
  | .leaseRefresh _ _ _ => true
  | .leaseDelete _ _ => true
  | _ => false

/-- The reply to a command; the fields of the servers that were not asked are never looked at. -/
structure Answer where
  redis : RedisReply String := .nil
  cached : RedisReply Blob := .nil
  maria : MariaReply := .ok
deriving DecidableEq, Repr

def wrongType : String :=
  "WRONGTYPE Operation against a key holding the wrong kind of value"

def statusOk : Answer := { redis := .status "OK" }

namespace World

/-- `SET key value NX` on one key of the directory. -/
def setIfAbsent (current : Option RedisValue) (text : String) : Option RedisValue × Answer :=
  match current with
  | none => (some (.text text), statusOk)
  | some value => (some value, { redis := .nil })

/-- `GET` on one key of the directory. -/
def get : Option RedisValue → Answer
  | none => { redis := .nil }
  | some (.text text) => { redis := .string text }
  | some .other => { redis := .error wrongType }

/-- `INCRBY key 1`: an absent key counts as 0, a text must be the canonical text of a 64-bit integer
that can be incremented. -/
def increment : Option RedisValue → Option RedisValue × Answer
  | none => (some (.text "1"), { redis := .integer 1 })
  | some .other => (some .other, { redis := .error wrongType })
  | some (.text text) =>
      match string2ll text with
      | none => (some (.text text), { redis := .error "ERR value is not an integer or out of range" })
      | some value =>
          if value + 1 < 2 ^ 63 then
            (some (.text (value + 1).repr), { redis := .integer (value + 1) })
          else
            (some (.text text), { redis := .error "ERR increment or decrement would overflow" })

/-- `SET key value NX PX ttl`; Redis refuses a TTL of 0. -/
def leaseSet (nowMs : Nat) (value : String) (ttlMs : UInt64) (current : Option LeaseKey) :
    Option LeaseKey × Answer :=
  if ttlMs = 0 then (current, { redis := .error "ERR invalid expire time in 'set' command" })
  else match current with
    | none => (some ⟨value, nowMs + ttlMs.toNat⟩, statusOk)
    | some key => (some key, { redis := .nil })

/-- `kRefreshScript`: `PEXPIRE` when the key holds the caller's value; a TTL of 0 deletes the key. -/
def leaseRefresh (nowMs : Nat) (value : String) (ttlMs : UInt64) (current : Option LeaseKey) :
    Option LeaseKey × Answer :=
  match current with
  | none => (none, { redis := .integer 0 })
  | some key =>
      if key.value = value then
        (if ttlMs = 0 then none else some ⟨key.value, nowMs + ttlMs.toNat⟩, { redis := .integer 1 })
      else (some key, { redis := .integer 0 })

/-- `kReleaseScript`: `DEL` when the key holds the caller's value. -/
def leaseDelete (value : String) (current : Option LeaseKey) : Option LeaseKey × Answer :=
  match current with
  | none => (none, { redis := .integer 0 })
  | some key =>
      if key.value = value then (none, { redis := .integer 1 })
      else (some key, { redis := .integer 0 })

/-- A command executed by its server. -/
def execute (nowMs : Nat) (w : World) : Command → World × Answer
  | .leaseSet p value ttlMs =>
      let x := leaseSet nowMs value ttlMs (w.leases p)
      ({ w with leases := Function.update w.leases p x.1 }, x.2)
  | .leaseRefresh p value ttlMs =>
      let x := leaseRefresh nowMs value ttlMs (w.leases p)
      ({ w with leases := Function.update w.leases p x.1 }, x.2)
  | .leaseDelete p value =>
      let x := leaseDelete value (w.leases p)
      ({ w with leases := Function.update w.leases p x.1 }, x.2)
  | .entryGet key => (w, get (w.entries key))
  | .entrySetIfAbsent key text =>
      let x := setIfAbsent (w.entries key) text
      ({ w with entries := Function.update w.entries key x.1 }, x.2)
  | .counterGet => (w, get w.counter)
  | .counterSetIfAbsent text =>
      let x := setIfAbsent w.counter text
      ({ w with counter := x.1 }, x.2)
  | .counterSet text => ({ w with counter := some (.text text) }, statusOk)
  | .counterIncrement =>
      let x := increment w.counter
      ({ w with counter := x.1 }, x.2)
  | .cacheGet p => (w, { cached := match w.cache p with | none => .nil | some v => .string v })
  | .cacheSet p value => ({ w with cache := Function.update w.cache p (some value) }, statusOk)
  | .createTable => (w, { maria := .ok })
  | .rowSelect p => (w, { maria := match w.rows p with | none => .noRow | some v => .row v })
  | .rowInsert p value =>
      ({ w with rows := Function.update w.rows p (some value) }, { maria := .ok })

end World

/-! ## Faults -/

/-- What can happen to a command: nothing, it does not arrive, its answer is lost, or the service has
no connection and does not send it. -/
inductive Fault where
  | none
  | dropped
  | replyLost
  | unavailable
deriving DecidableEq, Repr

/-- Whether a command has its effect. -/
def Fault.executes : Fault → Bool
  | .none => true
  | .replyLost => true
  | .dropped => false
  | .unavailable => false

/-- The answer of a connection that breaks. -/
def lostAnswer : Answer where
  redis := .noReply "Server closed the connection"
  cached := .noReply "Server closed the connection"
  maria := .error "Lost connection to server during query"

/-- The answer of the storage service when it has no connection. The lease service has a context of
its own, and the statements behind `EnsureMariaEntriesTable` use the handle that was there before, so
for these a missing connection is a broken one. -/
def Command.unavailableAnswer : Command → Answer
  | .leaseSet _ _ _ => lostAnswer
  | .leaseRefresh _ _ _ => lostAnswer
  | .leaseDelete _ _ => lostAnswer
  | .rowSelect _ => lostAnswer
  | .rowInsert _ _ => lostAnswer
  | _ => { redis := .unavailable, cached := .unavailable, maria := .unavailable }

namespace World

/-- A command under a fault. -/
def serve (fault : Fault) (nowMs : Nat) (w : World) (command : Command) : World × Answer :=
  match fault with
  | .none => w.execute nowMs command
  | .dropped => (w, lostAnswer)
  | .replyLost => ((w.execute nowMs command).1, lostAnswer)
  | .unavailable => (w, command.unavailableAnswer)

/-- Lease keys may expire at any time. -/
def expire (expired : List PlayerId) (w : World) : World :=
  { w with leases := fun p => if p ∈ expired then none else w.leases p }

end World

/-! ## The command a section sends -/

namespace GameProcess

variable {T : Type}

/-- The deletion `ReleaseLeaseLocked` sends for a tracked player. -/
def releaseCommand (s : GameProcess T) (playerId : PlayerId) : Option Command :=
  if s.lease.redis then (s.lease.leases playerId).map fun owner =>
    .leaseDelete playerId (buildValue owner)
  else none

theorem releaseCommand_eq_some {s : GameProcess T} {playerId : PlayerId} {command : Command}
    (h : s.releaseCommand playerId = some command) :
    ∃ owner, s.lease.leases playerId = some owner ∧
      command = .leaseDelete playerId (buildValue owner) := by
  simp only [releaseCommand, Option.ite_none_right_eq_some, Option.map_eq_some_iff] at h
  obtain ⟨-, owner, ho, rfl⟩ := h
  exact ⟨owner, ho, rfl⟩

/-- The command that a section sends from a given state; `nowMs` is the clock it reads. -/
def command (cfg : GameConfiguration) (nowMs : UInt64) (s : GameProcess T) : Act → Option Command
  | .lease (.acquire p) =>
      if !s.lease.redis || s.isHeldLocally p then none
      else some (.leaseSet p (buildValue (leaseOwner cfg p nowMs)) (leaseTtlMs cfg))
  | .lease (.release p) => s.releaseCommand p
  | .lease (.refresh p owner) =>
      if s.lease.redis then some (.leaseRefresh p (buildValue owner) (leaseTtlMs cfg)) else none
  | .session (.activateResume p _) => if s.asksLease p then none else s.releaseCommand p
  | .directory (.getEntry key) => some (.entryGet key)
  | .directory .getCounter => some .counterGet
  | .directory .initCounter => some (.counterSetIfAbsent counterFloorText)
  | .directory .resetCounter => some (.counterSet counterFloorText)
  | .directory .increment => some .counterIncrement
  | .directory (.createEntry key p) => some (.entrySetIfAbsent key p.toNat.repr)
  | .storage (.redisGet p) => some (.cacheGet p)
  | .storage .ensureMariaEntriesTable => some .createTable
  | .storage (.select p) => some (.rowSelect p)
  | .storage (.insert p value) => some (.rowInsert p value)
  | .storage (.redisSet p value) => some (.cacheSet p value)
  | _ => none

/-- Who sends what to the lease keys: `Acquire` the `SET` for a player that is not tracked, a renew round
the refresh, and the two sections that release a tracked player the deletion. -/
theorem command_cases {cfg : GameConfiguration} {nowMs : UInt64} {s : GameProcess T} {a : Act}
    {command : Command} (h : s.command cfg nowMs a = some command) :
    command.onLeaseContext = false ∨
      (∃ p, a = .lease (.acquire p) ∧ s.lease.redis = true ∧ s.lease.leases p = none ∧
        command = .leaseSet p (buildValue (leaseOwner cfg p nowMs)) (leaseTtlMs cfg)) ∨
      (∃ p owner, a = .lease (.refresh p owner) ∧
        command = .leaseRefresh p (buildValue owner) (leaseTtlMs cfg)) ∨
      ∃ p owner, (a = .lease (.release p) ∨ ∃ gate, a = .session (.activateResume p gate) ∧
          s.asksLease p = false) ∧ s.lease.leases p = some owner ∧
        command = .leaseDelete p (buildValue owner) := by
  cases a with
  | lease a =>
      cases a with
      | acquire p =>
          simp only [GameProcess.command, Option.ite_none_left_eq_some, Option.some.injEq, Bool.or_eq_true,
            not_or, Bool.not_eq_true', Bool.not_eq_false, isHeldLocally, PlayerLeaseService.isHeldLocally,
            Option.not_isSome_iff_eq_none] at h
          obtain ⟨⟨hredis, hfree⟩, rfl⟩ := h
          exact .inr (.inl ⟨p, rfl, hredis, hfree, rfl⟩)
      | refresh p owner =>
          simp only [GameProcess.command, Option.ite_none_right_eq_some, Option.some.injEq] at h
          obtain ⟨-, rfl⟩ := h
          exact .inr (.inr (.inl ⟨p, owner, rfl, rfl⟩))
      | release p =>
          obtain ⟨owner, ho, rfl⟩ := releaseCommand_eq_some h
          exact .inr (.inr (.inr ⟨p, owner, .inl rfl, ho, rfl⟩))
      | isHeldLocally p | renewEnter order | renewLeave lost => cases h
  | session a =>
      cases a with
      | activateResume p gate =>
          simp only [GameProcess.command, Option.ite_none_left_eq_some, Bool.not_eq_true] at h
          obtain ⟨hasks, h⟩ := h
          obtain ⟨owner, ho, rfl⟩ := releaseCommand_eq_some h
          exact .inr (.inr (.inr ⟨p, owner, .inr ⟨gate, rfl, hasks⟩, ho, rfl⟩))
      | _ => cases h
  | directory a =>
      left
      cases a <;> simp only [GameProcess.command, Option.some.injEq, reduceCtorEq] at h <;> (subst h; rfl)
  | storage a =>
      left
      cases a <;> simp only [GameProcess.command, Option.some.injEq] at h <;> (subst h; rfl)
  | clock | repository a | runtime a | ipc a | persistence a => cases h

/-- The directory's commands are sent by its own sections only. -/
theorem command_frame {cfg : GameConfiguration} {nowMs : UInt64} {s : GameProcess T} {a : Act}
    {command : Command} (ha : ∀ d : DirectoryAct, a ≠ .directory d)
    (h : s.command cfg nowMs a = some command) :
    (∀ key text, command ≠ .entrySetIfAbsent key text) ∧
      (∀ text, command ≠ .counterSetIfAbsent text) ∧ (∀ text, command ≠ .counterSet text) ∧
      command ≠ .counterIncrement := by
  cases a with
  | directory d => exact absurd rfl (ha d)
  | lease a =>
      cases a with
      | acquire q =>
          simp only [GameProcess.command, Option.ite_none_left_eq_some, Option.some.injEq] at h
          obtain ⟨-, rfl⟩ := h
          simp
      | release q =>
          obtain ⟨owner, -, rfl⟩ := releaseCommand_eq_some h
          simp
      | refresh q owner =>
          simp only [GameProcess.command, Option.ite_none_right_eq_some, Option.some.injEq] at h
          obtain ⟨-, rfl⟩ := h
          simp
      | isHeldLocally q | renewEnter order | renewLeave lost => cases h
  | session a =>
      cases a with
      | activateResume q gate =>
          simp only [GameProcess.command] at h
          split at h
          · cases h
          · obtain ⟨owner, -, rfl⟩ := releaseCommand_eq_some h
            simp
      | _ => cases h
  | storage a =>
      cases a <;> simp only [GameProcess.command, Option.some.injEq] at h <;> (subst h; simp)
  | clock | repository a | runtime a | ipc a | persistence a => cases h

end GameProcess

/-! ## The fleet -/

/-- The games `G`, with threads `T` each, over one world. -/
structure Fleet (G T : Type) where
  world : World := {}
  games : G → GameProcess T := fun _ => {}

/-- What the outside decides in one step: the process clock and the server clock, the lease keys that
expire, the fate of the command, and the result of a message handed to the messenger. -/
structure FleetInput where
  nowMs : UInt64 := 0
  serverMs : Nat := 0
  expired : List PlayerId := []
  fault : Fault := .none
  sent : Result := .success
deriving DecidableEq, Repr

/-- The environment of a section, once its command has been answered. -/
def FleetInput.env (i : FleetInput) (answer : Answer) : Env where
  nowMs := i.nowMs
  redis := answer.redis
  cached := answer.cached
  maria := answer.maria
  sent := i.sent

namespace Fleet

/-- Two games that differ in their instance id. -/
def twoGames (g : Bool) : GameConfiguration := { instanceId := if g then 1 else 2 }

variable {G T : Type}

/-- The command that a section of game `g` sends in this state. -/
def command (cfg : G → GameConfiguration) (g : G) (a : Act) (i : FleetInput) (s : Fleet G T) :
    Option Command :=
  (s.games g).command (cfg g) i.nowMs a

/-- The world after a step's expiries and its command, and the command's answer. -/
def served (cfg : G → GameConfiguration) (g : G) (a : Act) (i : FleetInput) (s : Fleet G T) :
    World × Answer :=
  match s.command cfg g a i with
  | none => (s.world.expire i.expired, {})
  | some command => (s.world.expire i.expired).serve i.fault i.serverMs command

/-- The programs of the fleet's threads. -/
def code (cfg : G → GameConfiguration) (fuel : Nat) (t : G × T) (o : Op) : Call OpResult :=
  o.code (cfg t.1) fuel

variable [DecidableEq G]

/-- One section of thread `t.2` of game `t.1`. -/
def exec (cfg : G → GameConfiguration) (t : G × T) (a : Act) (i : FleetInput) (s : Fleet G T) :
    Option (Fleet G T × a.Reply) :=
  let x := s.served cfg t.1 a i
  ((s.games t.1).exec (cfg t.1) t.2 (i.env x.2) a).map fun y =>
    (⟨x.1, Function.update s.games t.1 y.1⟩, y.2)

/-- The fleet as a machine. -/
def machine (cfg : G → GameConfiguration) :
    Machine (G × T) Act Act.Reply FleetInput (Fleet G T) where
  exec t a i s := s.exec cfg t a i

/-- Every step of the fleet is a step of the game it happens in, under some environment. -/
theorem exec_eq {cfg : G → GameConfiguration} {t : G × T} {a : Act} {i : FleetInput}
    {s s' : Fleet G T} {r : a.Reply} (h : s.exec cfg t a i = some (s', r)) :
    (s.games t.1).exec (cfg t.1) t.2 (i.env (s.served cfg t.1 a i).2) a = some (s'.games t.1, r) ∧
      s'.world = (s.served cfg t.1 a i).1 ∧ ∀ g, g ≠ t.1 → s'.games g = s.games g := by
  simp only [exec, Option.map_eq_some_iff] at h
  obtain ⟨⟨p, r'⟩, hx, hs⟩ := h
  cases hs
  refine ⟨?_, rfl, ?_⟩
  · simpa using hx
  · intro g hg
    simp [Function.update_of_ne hg]

end Fleet

end SomeServer
