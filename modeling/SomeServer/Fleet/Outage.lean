/-
# SomeServer.Fleet.Outage — what an outage of Redis leaves behind

`PlayerLeaseService::Load` connects to Redis once, and the context it gets serves the login path, the
renew loop and the stop path until `Unload`. Nothing replaces it (`StorageService` pings its own
connections and opens them anew), so the service works for as long as that one context does. Here a game
process has the context next to its services; a step says whether Redis can be reached, whether the
connection has been cut since the step before, and which lease keys Redis has.

`acquire_after_outage` says which histories `Acquire` recovers from: those in which the connection was
never put to the test. `acquire_never_again` is a run with one.
-/
import SomeServer.Fleet.World
import SomeServer.Game.Steps
import SomeServer.Lib.Lift
import SomeServer.Storage.Connect

namespace SomeServer

open Lib

variable {C T : Type}

/-! ## The sections -/

/-- The sections of a process between `Load` and `Unload`: those of its calls, those of
`ReleaseAllTrackedLocked`, and `Lookup`. -/
inductive LifecycleAct where
  | act (a : Act)
  | releaseAllEnter (order : List PlayerId)
  | releaseOne (playerId : PlayerId) (owner : PlayerLeaseOwner)
  | releaseAllLeave
  | lookup (playerId : PlayerId)

@[reducible] def LifecycleAct.Reply : LifecycleAct → Type
  | .act a => a.Reply
  | .releaseAllEnter _ => List (PlayerId × PlayerLeaseOwner)
  | .releaseOne _ _ => Bool
  | .releaseAllLeave => Unit
  | .lookup _ => Option String

/-- A process, the context in `mRedis`, and whether the connection behind it is gone. -/
structure LeaseConnection (C T : Type) where
  process : GameProcess T := {}
  context : Option C := none
  cut : Bool := false

/-- What a step meets: the environment of all other commands, Redis's clock, whether Redis can be
reached, whether the connection was cut since the last step, and the lease keys, which other processes
write and which expire. -/
structure OutageInput where
  env : Env
  serverMs : Nat := 0
  up : Bool := true
  cut : Bool := false
  leases : PlayerId → Option LeaseKey := fun _ => none

/-- Redis's reply to a command on the lease keys. -/
def OutageInput.replyTo (i : OutageInput) (command : Command) : RedisReply String :=
  (({ leases := i.leases } : World).execute i.serverMs command).2.redis

namespace LeaseConnection

/-- `Load` of the lease service: the process has the context that `ConnectRedis` returns. -/
def load (H : Hiredis C) (configuration : Option RedisConfiguration) (env : ConnectEnv)
    (process : GameProcess T) : LeaseConnection C T :=
  let context := configuration.bind fun redis => (H.connectRedis redis env).context
  { process := { process with lease := { process.lease with redis := context.isSome } }, context }

/-- What Redis would reply to the command that a section sends over the context, `none` when it sends
none. -/
def request (cfg : GameConfiguration) (i : OutageInput) (s : LeaseConnection C T) :
    LifecycleAct → Option (RedisReply String)
  | .act a =>
      ((s.process.command cfg i.env.nowMs a).filter Command.onLeaseContext).map i.replyTo
  | .releaseOne p owner =>
      if s.process.lease.redis then some (i.replyTo (.leaseDelete p (buildValue owner))) else none
  | .lookup p =>
      if s.process.lease.redis then
        some (match i.leases p with
          | none => .nil
          | some key => .string key.value)
      else none
  | .releaseAllEnter _ => none
  | .releaseAllLeave => none

/-- The context after a step, and the reply to its command as hiredis hands it on. -/
def exchange (H : Hiredis C) (i : OutageInput) (reply : Option (RedisReply String))
    (s : LeaseConnection C T) : Option C × RedisReply String :=
  match s.context, reply with
  -- the command goes out on the context that `Load` has left, whatever has become of it
  | some context, some reply =>
      let x := H.redisCommand context (i.up && !(s.cut || i.cut))
      (some x.1, if x.2 then reply else .noReply (H.errstr x.1))
  | context, _ => (context, .unavailable)

/-- The environment of a section: its reply comes over the lease service's context, if it sends its
command there. -/
def environment (i : OutageInput) (request : Option (RedisReply String)) (reply : RedisReply String) :
    Env :=
  if request.isSome then { i.env with redis := reply } else i.env

/-- What a section does to the process. -/
def run (cfg : GameConfiguration) (t : T) (env : Env) (s : GameProcess T) :
    (a : LifecycleAct) → Option (GameProcess T × a.Reply)
  | .act a => s.exec cfg t env a
  | .releaseAllEnter order =>
      if s.lease.mutex.isSome then none
      else some ({ s with lease := { s.lease with mutex := some t } }, s.lease.tracked order)
  | .releaseOne _ _ => some (s, match env.redis with | .integer _ => true | _ => false)
  | .releaseAllLeave =>
      some ({ s with lease := { s.lease with mutex := none, leases := fun _ => none } }, ())
  | .lookup _ =>
      if s.lease.mutex.isSome then none
      else some (s, match env.redis with | .string text => some text | _ => none)

/-- One step. -/
def exec (H : Hiredis C) (cfg : GameConfiguration) (t : T) (a : LifecycleAct) (i : OutageInput)
    (s : LeaseConnection C T) : Option (LeaseConnection C T × a.Reply) :=
  let request := s.request cfg i a
  let x := s.exchange H i request
  (run cfg t (environment i request x.2) s.process a).map fun y =>
    ({ process := y.1, context := x.1, cut := s.cut || i.cut }, y.2)

/-- The step puts the connection to the test: it has been cut, or a command is sent over it while Redis
cannot be reached. -/
def breaks (cfg : GameConfiguration) (a : LifecycleAct) (i : OutageInput) (s : LeaseConnection C T) :
    Bool :=
  i.cut || ((s.request cfg i a).isSome && !i.up)

/-- The process as a machine; the history says whether a step has put the connection to the test. -/
def machine (H : Hiredis C) (cfg : GameConfiguration) :
    Machine T LifecycleAct LifecycleAct.Reply OutageInput (LeaseConnection C T × Bool) :=
  Machine.withHistory ⟨fun t a i s => s.exec H cfg t a i⟩
    fun _ a i s _ _ broken => broken || s.breaks cfg a i

end LeaseConnection

/-! ## The calls -/

inductive LifecycleOp where
  | op (o : Op)
  | stop (order : List PlayerId)
  | lookup (playerId : PlayerId)

inductive LifecycleResult where
  | result (r : OpResult)
  | stopped
  | found (text : Option String)

/-- The sections of a call as sections of the lifecycle. -/
def asLifecycle : Translation Act.Reply LifecycleAct.Reply where
  action := .act
  reply _ r := r

/-- The loop of `ReleaseAllTrackedLocked`. -/
def releaseEach : List (PlayerId × PlayerLeaseOwner) → Prog LifecycleAct LifecycleAct.Reply Unit
  | [] => return ()
  | (playerId, owner) :: rest => do
      let _ ← Prog.call (.releaseOne playerId owner)
      releaseEach rest

/-- `Stop`, once the renew thread has been joined. -/
def stopLease (order : List PlayerId) : Prog LifecycleAct LifecycleAct.Reply Unit := do
  let leases ← Prog.call (.releaseAllEnter order)
  releaseEach leases
  Prog.call LifecycleAct.releaseAllLeave

def LifecycleOp.code (cfg : GameConfiguration) (fuel : Nat) :
    LifecycleOp → Prog LifecycleAct LifecycleAct.Reply LifecycleResult
  | .op o => do
      let r ← (o.code cfg fuel).lift asLifecycle
      return .result r
  | .stop order => do
      stopLease order
      return .stopped
  | .lookup playerId => do
      let text ← Prog.call (.lookup playerId)
      return .found text

namespace LeaseConnection

variable {H : Hiredis C} {cfg : GameConfiguration} {t : T} {a : LifecycleAct} {i : OutageInput}
  {r : a.Reply} {env : Env} {p : PlayerId}

/-! ## The context through a run -/

/-- The service has a context or has none; and the context is unusable, or its connection cut, exactly
when a step has put the connection to the test. -/
structure Sound (H : Hiredis C) (s : LeaseConnection C T × Bool) : Prop where
  redis : s.1.process.lease.redis = s.1.context.isSome
  broken : ∀ context, s.1.context = some context →
    (s.2 = true ↔ H.err context = true ∨ s.1.cut = true)

/-- No section sets `mRedis`. -/
theorem run_redis {s s' : GameProcess T} (h : run cfg t env s a = some (s', r)) :
    s'.lease.redis = s.lease.redis := by
  cases a with
  | act a => exact GameProcess.exec_redis h
  | releaseAllEnter order =>
      simp only [run, Option.ite_none_left_eq_some, Option.some.injEq, Prod.mk.injEq] at h
      rw [← h.2.1]
  | lookup p =>
      simp only [run, Option.ite_none_left_eq_some, Option.some.injEq, Prod.mk.injEq] at h
      rw [← h.2.1]
  | releaseOne p owner | releaseAllLeave =>
      simp only [run, Option.some.injEq, Prod.mk.injEq] at h
      rw [← h.1]

theorem exec_cases {s s' : LeaseConnection C T} (h : s.exec H cfg t a i = some (s', r)) :
    run cfg t (environment i (s.request cfg i a) (s.exchange H i (s.request cfg i a)).2) s.process a =
        some (s'.process, r) ∧
      s'.context = (s.exchange H i (s.request cfg i a)).1 ∧ s'.cut = (s.cut || i.cut) := by
  simp only [exec, Option.map_eq_some_iff] at h
  obtain ⟨⟨process, r'⟩, hx, hs⟩ := h
  cases hs
  exact ⟨hx, rfl, rfl⟩

theorem exchange_isSome (s : LeaseConnection C T) (reply : Option (RedisReply String)) :
    (s.exchange H i reply).1.isSome = s.context.isSome := by
  unfold exchange
  split
  · rename_i hcontext
    rw [hcontext]
    rfl
  · rfl

/-- A context is unusable after a step exactly when it was before, or its connection was cut, or the step
has put it to the test with a command. -/
theorem exchange_err (hH : H.Documented) {s : LeaseConnection C T} {context context' : C}
    {reply : Option (RedisReply String)} (hcontext : s.context = some context)
    (hx : (s.exchange H i reply).1 = some context') :
    H.err context' = true ↔
      H.err context = true ∨ (reply.isSome = true ∧ (i.up && !(s.cut || i.cut)) = false) := by
  unfold exchange at hx
  rw [hcontext] at hx
  cases reply with
  | none =>
      cases hx
      simp
  | some reply =>
      obtain rfl := Option.some.inj hx
      cases hlive : H.err context with
      | true => simp [(hH.stays context _ hlive).1]
      | false =>
          cases hreach : i.up && !(s.cut || i.cut) with
          | true => simp [(hH.answers context hlive).1]
          | false => simp [(hH.loses context hlive).1]

theorem Sound.step (hH : H.Documented) {s s' : LeaseConnection C T × Bool} (hs : Sound H s)
    (h : (machine H cfg).exec t a i s = some (s', r)) :
    Sound H s' ∧ s'.1.context.isSome = s.1.context.isSome := by
  obtain ⟨hexec, hbroken⟩ := Machine.withHistory_exec h
  obtain ⟨hrun, hcontext', hcut⟩ := exec_cases hexec
  have hsome : s'.1.context.isSome = s.1.context.isSome := by rw [hcontext', exchange_isSome]
  refine ⟨⟨by rw [run_redis hrun, hs.redis, hsome], ?_⟩, hsome⟩
  intro context' hc'
  obtain ⟨context, hc⟩ : ∃ context, s.1.context = some context := by
    rw [← Option.isSome_iff_exists, ← hsome, hc']
    rfl
  have herr := exchange_err hH hc (hcontext' ▸ hc')
  -- an error from before, a cut, or a command that nobody takes
  rw [hbroken, hcut, herr]
  have hbefore := hs.broken context hc
  simp only [breaks, Bool.or_eq_true, Bool.and_eq_true, Bool.not_eq_true', Bool.and_eq_false_iff,
    Bool.not_eq_false']
  rw [hbefore]
  constructor
  · rintro ((herr | hcut) | hcut | ⟨hasks, hdown⟩)
    · exact .inl (.inl herr)
    · exact .inr (.inl hcut)
    · exact .inr (.inr hcut)
    · exact .inl (.inr ⟨hasks, .inl hdown⟩)
  · rintro ((herr | ⟨hasks, hdown | hcut | hcut⟩) | hcut | hcut)
    · exact .inl (.inl herr)
    · exact .inr (.inr ⟨hasks, hdown⟩)
    · exact .inl (.inr hcut)
    · exact .inr (.inl hcut)
    · exact .inl (.inr hcut)
    · exact .inr (.inl hcut)

/-- After `Load` the context is there if the configuration connects, and has not been put to any test. -/
theorem sound_load (hH : H.Documented) (configuration : Option RedisConfiguration) (env : ConnectEnv)
    (process : GameProcess T) :
    Sound H (load H configuration env process, false) ∧
      (load H configuration env process).context.isSome =
        configuration.any fun redis => redis.connects env := by
  cases configuration with
  | none => exact ⟨⟨rfl, fun context hc => by cases hc⟩, rfl⟩
  | some redis =>
      rcases Hiredis.connectRedis_cases hH redis env with ⟨hok, context, hc, hlive⟩ | ⟨hno, hc⟩
      · refine ⟨⟨rfl, ?_⟩, by simp [load, hc, hok]⟩
        intro context' hc'
        obtain rfl : context = context' := Option.some.inj (hc.symm.trans hc')
        simp [load, hlive]
      · refine ⟨⟨rfl, ?_⟩, by simp [load, hc, hno]⟩
        intro context hc'
        have habsent : (load H (some redis) env process).context = none := hc
        rw [show (load H (some redis) env process, false).1.context = none from habsent] at hc'
        cases hc'

/-! ## `Acquire` -/

/-- `Acquire` succeeds when the player is tracked, or the `SET` is answered `OK`. -/
theorem acquire_ok_iff (env : Env) (p : PlayerId) (l : PlayerLeaseService T) :
    (l.acquire cfg env p).2.ok = true ↔
      l.redis = true ∧ (l.isHeldLocally p = true ∨ env.redis = .status "OK") := by
  unfold PlayerLeaseService.acquire
  cases l.redis with
  | false => simp
  | true =>
      cases l.isHeldLocally p with
      | true => simp
      | false =>
          simp only [Bool.not_true, Bool.false_eq_true, if_false, true_and, false_or]
          split
          · rename_i errstr hreply
            simp [hreply]
          · by_cases hok : env.redis = .status "OK"
            · simp [hok, PlayerLeaseService.acquired]
            · simp [hok, PlayerLeaseService.acquired]

/-- The reply to the `SET` on an absent key is `OK` exactly when the command arrives with a TTL. -/
theorem exchange_set (hH : H.Documented) {s : LeaseConnection C T} {context : C} (value : String)
    (ttlMs : UInt64) (hcontext : s.context = some context) (hkey : i.leases p = none) :
    (s.exchange H i (some (i.replyTo (.leaseSet p value ttlMs)))).2 = .status "OK" ↔
      H.err context = false ∧ (i.up && !(s.cut || i.cut)) = true ∧ ttlMs ≠ 0 := by
  have hset : i.replyTo (.leaseSet p value ttlMs) = .status "OK" ↔ ttlMs ≠ 0 := by
    by_cases hz : ttlMs = 0 <;>
      simp [OutageInput.replyTo, World.execute, World.leaseSet, hkey, hz, statusOk]
  unfold exchange
  rw [hcontext]
  dsimp only
  cases hlive : H.err context with
  | true => simp [(hH.stays context _ hlive).2]
  | false =>
      cases hreach : i.up && !(s.cut || i.cut) with
      | true => simp [(hH.answers context hlive).2, hset]
      | false => simp [(hH.loses context hlive).2]

/-! ## Every run -/

section Theorem

variable [DecidableEq T] {configuration : Option RedisConfiguration} {connecting : ConnectEnv}
  {process : GameProcess T} {s' : LeaseConnection C T × Bool}
  {c : Pool T LifecycleOp LifecycleAct LifecycleAct.Reply LifecycleResult (LeaseConnection C T × Bool)}

/-- Every state of a run keeps the context that `Load` got, or the lack of one. -/
theorem sound_run (hH : H.Documented) (fuel : Nat)
    (hrun : Run (machine H cfg) (fun (_ : T) (o : LifecycleOp) => o.code cfg fuel) (fun _ _ => True)
      (Pool.initial (load H configuration connecting process, false)) c) :
    Sound H c.shared ∧
      c.shared.1.context.isSome = configuration.any fun redis => redis.connects connecting := by
  refine hrun.shared_invariant (I := fun s => Sound H s ∧
    s.1.context.isSome = configuration.any fun redis => redis.connects connecting) ?_
    (sound_load hH configuration connecting process)
  intro t a i s s' r hs hx
  obtain ⟨hsound, hsome⟩ := hs.1.step hH hx
  exact ⟨hsound, hsome.trans hs.2⟩

/-- **After an outage.** In any run between `Load` and `Unload`, whatever the calls, the outages and the
lease keys: when Redis can be reached and the key of a player is absent, `Acquire` succeeds exactly when
`Load` has connected, and the player is tracked or no step has put the connection to the test, this one
does not find it cut, and the TTL is not 0. -/
theorem acquire_after_outage (hH : H.Documented) (fuel : Nat)
    (hrun : Run (machine H cfg) (fun (_ : T) (o : LifecycleOp) => o.code cfg fuel) (fun _ _ => True)
      (Pool.initial (load H configuration connecting process, false)) c)
    (hup : i.up = true) (hkey : i.leases p = none) {r : Result}
    (hx : (machine H cfg).exec t (.act (.lease (.acquire p))) i c.shared = some (s', r)) :
    r.ok = true ↔ (configuration.any fun redis => redis.connects connecting) = true ∧
      (c.shared.1.process.isHeldLocally p = true ∨
        (c.shared.2 = false ∧ i.cut = false ∧ leaseTtlMs cfg ≠ 0)) := by
  obtain ⟨hsound, hsome⟩ := sound_run hH fuel hrun
  obtain ⟨hrunning, -, -⟩ := exec_cases (Machine.withHistory_exec hx).1
  obtain ⟨l, hl, -⟩ := GameProcess.exec_lease hrunning
  simp only [PlayerLeaseService.exec, Option.ite_none_left_eq_some, Option.some.injEq, Prod.ext_iff] at hl
  obtain ⟨-, -, rfl⟩ := hl
  rw [acquire_ok_iff, hsound.redis, hsome]
  refine and_congr_right fun hconnected => ?_
  refine or_congr_right' fun hfree => ?_
  obtain ⟨context, hc⟩ : ∃ context, c.shared.1.context = some context := by
    rw [← Option.isSome_iff_exists, hsome, hconnected]
  have hasks : c.shared.1.request cfg i (.act (.lease (.acquire p))) =
      some (i.replyTo (.leaseSet p (buildValue (leaseOwner cfg p i.env.nowMs)) (leaseTtlMs cfg))) := by
    have hredis : c.shared.1.process.lease.redis = true := by rw [hsound.redis, hc, Option.isSome_some]
    have hcommand : c.shared.1.process.command cfg i.env.nowMs (.lease (.acquire p)) =
        some (.leaseSet p (buildValue (leaseOwner cfg p i.env.nowMs)) (leaseTtlMs cfg)) := by
      simp [GameProcess.command, hredis, GameProcess.isHeldLocally, hfree]
    simp [request, hcommand, Command.onLeaseContext]
  rw [hasks]
  -- the reply is `OK` exactly when the context is live and the command arrives with a TTL
  have hreply := exchange_set hH (s := c.shared.1) (buildValue (leaseOwner cfg p i.env.nowMs))
    (leaseTtlMs cfg) hc hkey
  have hintact := hsound.broken context hc
  simp only [environment, Option.isSome_some, if_true, hreply, hup]
  cases hb : c.shared.2 with
  | true =>
      have hgone := hintact.mp hb
      rcases hgone with herr | hcut
      · simp [herr]
      · simp [hcut]
  | false =>
      have hlive : ¬ (H.err context = true ∨ c.shared.1.cut = true) := fun h => by
        rw [hintact.mpr h] at hb
        cases hb
      simp only [not_or, Bool.not_eq_true] at hlive
      simp [hlive.1, hlive.2]

end Theorem

/-! ## Two outages -/

/-- A context is the error that it has met, if any. -/
def plainHiredis : Hiredis (Option String) where
  err context := context.isSome
  errstr context := context.getD ""
  redisConnectWithTimeout _ reachable := some (if reachable then none else some "Connection refused")
  redisCommand context arrives :=
    match context with
    | some error => (some error, false)
    | none => if arrives then (none, true) else (some "Server closed the connection", false)

theorem plainHiredis_documented : plainHiredis.Documented where
  connects _ := ⟨none, rfl, rfl⟩
  refuses _ _ h := by
    cases h
    rfl
  answers context h := by
    cases context with
    | none => exact ⟨rfl, rfl⟩
    | some error => cases h
  loses context h := by
    cases context with
    | none => exact ⟨rfl, rfl⟩
    | some error => cases h
  stays context arrives h := by
    cases context with
    | none => cases h
    | some error => exact ⟨rfl, rfl⟩

/-- A step that has nothing to do with the other servers. -/
def plainEnv : Env where
  nowMs := 0
  redis := .unavailable
  cached := .unavailable
  maria := .unavailable
  sent := .success

/-- A process that has loaded its lease service while Redis was there. -/
def loadedProcess : Pool Unit LifecycleOp LifecycleAct LifecycleAct.Reply LifecycleResult
    (LeaseConnection (Option String) Unit × Bool) :=
  Pool.initial (load plainHiredis (some {}) {} {}, false)

def firstGame : GameConfiguration := { instanceId := 1 }

/-- One call whose only section runs while Redis is away. -/
def duringOutage (o : Op) : List (Move Unit LifecycleOp OutageInput) :=
  [.start () (.op o), .act () { env := plainEnv, up := false }]

/-- During the outage the process only drops a lease that it does not have, which asks Redis for nothing:
once Redis is back, `Acquire` succeeds. -/
theorem acquire_after_outage_unnoticed :
    ∃ c s' r, loadedProcess.play (machine plainHiredis firstGame) (fun _ o => o.code firstGame 0)
        (fun _ _ => true) (duringOutage (.releaseLease 9)) = some c ∧
      (machine plainHiredis firstGame).exec () (.act (.lease (.acquire 7))) { env := plainEnv } c.shared =
        some (s', r) ∧ (r : Result).ok = true := by
  obtain ⟨c, hc, hrun⟩ :
      ∃ c, loadedProcess.play (machine plainHiredis firstGame) (fun _ o => o.code firstGame 0)
          (fun _ _ => true) (duringOutage (.releaseLease 9)) = some c ∧
        Run (machine plainHiredis firstGame) (fun (_ : Unit) (o : LifecycleOp) => o.code firstGame 0)
          (fun _ _ => True) loadedProcess c :=
    Run.exists_of_play (fun _ _ _ => trivial) (by decide)
  have hend : (loadedProcess.play (machine plainHiredis firstGame) (fun _ o => o.code firstGame 0)
      (fun _ _ => true) (duringOutage (.releaseLease 9))).bind (fun c =>
        ((machine plainHiredis firstGame).exec () (.act (.lease (.acquire 7))) { env := plainEnv }
          c.shared).map fun _ => c.shared.2) = some false := by decide
  rw [hc, Option.bind_some] at hend
  obtain ⟨⟨s', r⟩, hx, hbroken⟩ := Option.map_eq_some_iff.mp hend
  refine ⟨c, s', r, hc, hx, ?_⟩
  exact (acquire_after_outage plainHiredis_documented 0 hrun rfl rfl hx).mpr
    ⟨rfl, .inr ⟨hbroken, rfl, by decide⟩⟩

/-- During the outage somebody asks for a lease: with Redis back and no lease key in it, `Acquire` still
fails. -/
theorem acquire_never_again :
    ∃ c s' r, Run (machine plainHiredis firstGame)
        (fun (_ : Unit) (o : LifecycleOp) => o.code firstGame 0) (fun _ _ => True) loadedProcess c ∧
      (machine plainHiredis firstGame).exec () (.act (.lease (.acquire 7))) { env := plainEnv } c.shared =
        some (s', r) ∧ (r : Result) = .failure "Server closed the connection" := by
  obtain ⟨c, hc, hrun⟩ :
      ∃ c, loadedProcess.play (machine plainHiredis firstGame) (fun _ o => o.code firstGame 0)
          (fun _ _ => true) (duringOutage (.acquireLease 7)) = some c ∧
        Run (machine plainHiredis firstGame) (fun (_ : Unit) (o : LifecycleOp) => o.code firstGame 0)
          (fun _ _ => True) loadedProcess c :=
    Run.exists_of_play (fun _ _ _ => trivial) (by decide)
  have hend : (loadedProcess.play (machine plainHiredis firstGame) (fun _ o => o.code firstGame 0)
      (fun _ _ => true) (duringOutage (.acquireLease 7))).bind (fun c =>
        ((machine plainHiredis firstGame).exec () (.act (.lease (.acquire 7))) { env := plainEnv }
          c.shared).map fun x => (x.2 : Result)) =
      some (.failure "Server closed the connection") := by decide
  rw [hc, Option.bind_some] at hend
  obtain ⟨⟨s', r⟩, hx, hfailed⟩ := Option.map_eq_some_iff.mp hend
  exact ⟨c, s', r, hrun, hx, hfailed⟩

end LeaseConnection

end SomeServer
