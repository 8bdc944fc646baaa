/-
# SomeServer.Fleet.Waits — the sections that wait for Redis, and Redis's clock

`Acquire`, `Release` and the renew loop keep `mMutex` while they are in `redisCommand`: Redis executes the
command at one moment, and the game reads the answer and changes `mLeases` at another, any time later. In
`Fleet` the two are one step. Here a section that sends a command over the lease context has two halves.
`enter` takes the locks, and Redis executes the command; `leave` reads the answer and runs the section.
In between the game is `Awaiting` the answer with its lease mutex taken. Every other section runs in
`enter` as a whole: neither the lease keys nor `mLeases` depend on when another server's answer is read.

Redis drops a lease key when its TTL has passed by its own clock (`Timed`).
-/
import SomeServer.Fleet.Lease
import SomeServer.Lib.Lift

namespace SomeServer

open Lib

variable {G T : Type}

/-! ## The two halves of a section -/

/-- A section that waits for Redis: the thread it belongs to, the mutex as the thread found it, the clock it
has read, its command, and the answer that Redis has given. -/
structure Awaiting (T : Type) where
  thread : T
  act : Act
  mutex : Option T
  nowMs : UInt64
  command : Command
  answer : Answer

/-- A fleet, what its games wait for, and the time of Redis's clock at the last step. -/
structure TimedFleet (G T : Type) where
  fleet : Fleet G T := {}
  awaiting : G → Option (Awaiting T) := fun _ => none
  redisMs : Nat := 0

inductive SectionAct where
  | enter (a : Act)
  | leave (a : Act)

/-- `enter` answers with the section's reply, or with nothing when the section waits. -/
@[reducible] def SectionAct.Reply : SectionAct → Type
  | .enter a => Option a.Reply
  | .leave a => a.Reply

/-- A section as a program of its halves. -/
def halves (a : Act) : Prog SectionAct SectionAct.Reply a.Reply :=
  .act (.enter a) fun r => r.elim (.act (.leave a) .ret) .ret

def Act.isLease : Act → Bool
  | .lease _ => true
  | _ => false

def Act.isSession : Act → Bool
  | .session _ => true
  | _ => false

namespace GameProcess

def withLeaseMutex (mutex : Option T) (s : GameProcess T) : GameProcess T :=
  { s with lease := { s.lease with mutex } }

@[simp] theorem withLeaseMutex_mutex (mutex : Option T) (s : GameProcess T) :
    (s.withLeaseMutex mutex).lease.mutex = mutex := rfl

@[simp] theorem withLeaseMutex_leases (mutex : Option T) (s : GameProcess T) :
    (s.withLeaseMutex mutex).lease.leases = s.lease.leases := rfl

@[simp] theorem withLeaseMutex_isHeldLocally (mutex : Option T) (s : GameProcess T) (p : PlayerId) :
    (s.withLeaseMutex mutex).isHeldLocally p = s.isHeldLocally p := rfl

/-- What a section sends depends on the lease service's entries and connection, and in a section of the
session service on the records. -/
theorem command_congr {cfg : GameConfiguration} {nowMs : UInt64} {s s' : GameProcess T} {a : Act}
    (hredis : s'.lease.redis = s.lease.redis) (hleases : s'.lease.leases = s.lease.leases)
    (hsessions : a.isSession = true → s'.sessions = s.sessions) :
    s'.command cfg nowMs a = s.command cfg nowMs a := by
  cases a with
  | lease a => cases a <;> simp [command, releaseCommand, isHeldLocally,
      PlayerLeaseService.isHeldLocally, hredis, hleases]
  | session a =>
      cases a with
      | activateResume p gate =>
          have hasks : s'.asksLease p = s.asksLease p := by rw [asksLease, asksLease, hsessions rfl]
          simp only [command, releaseCommand, hasks, hredis, hleases]
      | _ => rfl
  | directory a => cases a <;> rfl
  | storage a => cases a <;> rfl
  | clock | repository a | runtime a | ipc a | persistence a => rfl

/-- Only a section of the lease service, or the end of a lease recovery, sends over the lease context. -/
theorem isLease_of_command {cfg : GameConfiguration} {nowMs : UInt64} {s : GameProcess T} {a : Act}
    {command : Command} (h : s.command cfg nowMs a = some command)
    (hcontext : command.onLeaseContext = true) :
    a.isLease = true ∨ ∃ p gate, a = .session (.activateResume p gate) ∧ s.asksLease p = false := by
  rcases command_cases h with hother | ⟨p, rfl, -⟩ | ⟨p, owner, rfl, -⟩ |
    ⟨p, owner, rfl | ⟨gate, rfl, hasks⟩, -⟩
  · rw [hother] at hcontext
    cases hcontext
  · exact .inl rfl
  · exact .inl rfl
  · exact .inl rfl
  · exact .inr ⟨p, gate, rfl, hasks⟩

/-- The end of a lease recovery that has to give the lease back waits for the lease mutex. -/
theorem exec_resume_locked {cfg : GameConfiguration} {t : T} {env : Env} {s : GameProcess T}
    {p : PlayerId} {gate : GateSession} (hlocked : s.lease.mutex.isSome = true)
    (hasks : s.asksLease p = false) :
    s.exec cfg t env (.session (.activateResume p gate)) = none := by
  simp [exec, execSession, hlocked, hasks]

end GameProcess

/-! ## What a waiting section can rely on -/

/-- While a section waits its mutex is taken, and the game stays as the command has been chosen in. -/
structure Waiting (cfg : GameConfiguration) (s : GameProcess T) (x : Awaiting T) : Prop where
  onContext : x.command.onLeaseContext = true
  locked : s.lease.mutex.isSome = true
  sends : s.command cfg x.nowMs x.act = some x.command

/-- The sections of the lease service wait, and those of the session service when a section of theirs
waits itself. -/
def Awaiting.blocks (x : Awaiting T) (a : Act) : Bool := a.isLease || (x.act.isSession && a.isSession)

/-- Another section of the game changes nothing that the waiting one depends on. -/
theorem Waiting.frame {cfg : GameConfiguration} {t : T} {env : Env} {s s' : GameProcess T}
    {x : Awaiting T} {a : Act} {r : a.Reply} (hw : Waiting cfg s x) (hb : x.blocks a = false)
    (h : s.exec cfg t env a = some (s', r)) : Waiting cfg s' x := by
  simp only [Awaiting.blocks, Bool.or_eq_false_iff] at hb
  obtain ⟨hlease, hsession⟩ := hb
  have hsame : s'.lease = s.lease := by
    rcases GameProcess.exec_lease_frame h with hsame | ⟨b, r', rfl, -⟩ | ⟨p, gate, rfl, hasks, -⟩
    · exact hsame
    · cases hlease
    · rw [GameProcess.exec_resume_locked hw.locked hasks] at h
      cases h
  refine ⟨hw.onContext, by rw [hsame]; exact hw.locked, ?_⟩
  rw [← hw.sends]
  refine GameProcess.command_congr (by rw [hsame]) (by rw [hsame]) fun hx => ?_
  refine GameProcess.exec_sessions_frame (fun b hb => ?_) h
  subst hb
  rw [hx] at hsession
  cases hsession

namespace Fleet

/-- The command that a section would send over the lease context. -/
def leaseCommand (cfg : G → GameConfiguration) (g : G) (a : Act) (i : FleetInput) (s : Fleet G T) :
    Option Command :=
  (s.command cfg g a i).filter Command.onLeaseContext

end Fleet

namespace TimedFleet

/-- A mutex that the section needs is kept by one that waits. -/
def blocked (s : TimedFleet G T) (g : G) (a : Act) : Bool := (s.awaiting g).any fun x => x.blocks a

variable [DecidableEq G]

/-- The locks are taken, and Redis executes the command. -/
def send (cfg : G → GameConfiguration) (t : G × T) (a : Act) (i : FleetInput) (command : Command)
    (s : TimedFleet G T) : TimedFleet G T where
  fleet :=
    { world := (s.fleet.served cfg t.1 a i).1
      games := Function.update s.fleet.games t.1 ((s.fleet.games t.1).withLeaseMutex (some t.2)) }
  awaiting := Function.update s.awaiting t.1 (some
    { thread := t.2
      act := a
      mutex := (s.fleet.games t.1).lease.mutex
      nowMs := i.nowMs
      command
      answer := (s.fleet.served cfg t.1 a i).2 })
  redisMs := i.serverMs

/-- The first half of a section, which is the whole of one that sends nothing over the lease context. -/
def enter (cfg : G → GameConfiguration) (t : G × T) (a : Act) (i : FleetInput) (s : TimedFleet G T) :
    Option (TimedFleet G T × Option a.Reply) :=
  if s.blocked t.1 a then none
  else (s.fleet.exec cfg t a i).map fun x =>
    match s.fleet.leaseCommand cfg t.1 a i with
    | none => ({ s with fleet := x.1, redisMs := i.serverMs }, some x.2)
    | some command => (s.send cfg t a i command, none)

variable [DecidableEq T]

/-- The second half: the answer is read, and the section does what it does with it. -/
def leave (cfg : G → GameConfiguration) (t : G × T) (a : Act) (i : FleetInput) (s : TimedFleet G T) :
    Option (TimedFleet G T × a.Reply) :=
  match s.awaiting t.1 with
  | none => none
  | some x =>
      if x.thread = t.2 then
        (((s.fleet.games t.1).withLeaseMutex x.mutex).exec (cfg t.1) t.2
          ({ i with nowMs := x.nowMs }.env x.answer) a).map fun y =>
            ({ fleet := ⟨s.fleet.world.expire i.expired, Function.update s.fleet.games t.1 y.1⟩
               awaiting := Function.update s.awaiting t.1 none
               redisMs := i.serverMs }, y.2)
      else none

def exec (cfg : G → GameConfiguration) (t : G × T) : (e : SectionAct) → FleetInput → TimedFleet G T →
    Option (TimedFleet G T × e.Reply)
  | .enter a, i, s => s.enter cfg t a i
  | .leave a, i, s => s.leave cfg t a i

def machine (cfg : G → GameConfiguration) :
    Machine (G × T) SectionAct SectionAct.Reply FleetInput (TimedFleet G T) where
  exec t e i s := s.exec cfg t e i

/-- The programs of the fleet's threads, each section in its halves. -/
def code (cfg : G → GameConfiguration) (fuel : Nat) (t : G × T) (o : Op) :
    Prog SectionAct SectionAct.Reply OpResult :=
  (Fleet.code cfg fuel t o).refine halves

/-! ## What a half can do -/

variable {cfg : G → GameConfiguration} {t : G × T} {a : Act} {i : FleetInput} {s s' : TimedFleet G T}

omit [DecidableEq T] in
theorem enter_cases {r : Option a.Reply} (h : s.enter cfg t a i = some (s', r)) :
    s.blocked t.1 a = false ∧ ∃ f r₀, s.fleet.exec cfg t a i = some (f, r₀) ∧
      ((s.fleet.leaseCommand cfg t.1 a i = none ∧ r = some r₀ ∧
          s' = { s with fleet := f, redisMs := i.serverMs }) ∨
        ∃ command, s.fleet.leaseCommand cfg t.1 a i = some command ∧ r = none ∧
          s' = s.send cfg t a i command) := by
  simp only [enter, Option.ite_none_left_eq_some, Bool.not_eq_true, Option.map_eq_some_iff] at h
  obtain ⟨hb, ⟨f, r₀⟩, hx, heq⟩ := h
  refine ⟨hb, f, r₀, hx, ?_⟩
  cases hc : s.fleet.leaseCommand cfg t.1 a i with
  | none =>
      rw [hc] at heq
      cases heq
      exact .inl ⟨rfl, rfl, rfl⟩
  | some command =>
      rw [hc] at heq
      cases heq
      exact .inr ⟨command, rfl, rfl, rfl⟩

theorem leave_cases {r : a.Reply} (h : s.leave cfg t a i = some (s', r)) :
    ∃ x y, s.awaiting t.1 = some x ∧ x.thread = t.2 ∧
      ((s.fleet.games t.1).withLeaseMutex x.mutex).exec (cfg t.1) t.2
        ({ i with nowMs := x.nowMs }.env x.answer) a = some (y, r) ∧
      s' = { fleet := ⟨s.fleet.world.expire i.expired, Function.update s.fleet.games t.1 y⟩
             awaiting := Function.update s.awaiting t.1 none
             redisMs := i.serverMs } := by
  unfold leave at h
  cases hx : s.awaiting t.1 with
  | none =>
      rw [hx] at h
      cases h
  | some x =>
      rw [hx] at h
      simp only [Option.ite_none_right_eq_some, Option.map_eq_some_iff] at h
      obtain ⟨hthread, ⟨y, r'⟩, hexec, heq⟩ := h
      cases heq
      exact ⟨x, y, rfl, hthread, hexec, rfl⟩

/-! ## Time -/

/-- Redis's clock runs forward, and exactly the keys whose time has come are dropped. -/
structure Timed (i : FleetInput) (s : TimedFleet G T) : Prop where
  forward : s.redisMs ≤ i.serverMs
  expiry : ∀ p key, s.fleet.world.leases p = some key → (p ∈ i.expired ↔ key.expiresAtMs ≤ i.serverMs)

end TimedFleet

end SomeServer
