/-
# SomeServer.Game.Backoff — when the scheduler tries again

A scan writes down when a flush has failed and when to try again, and the next scans look at that before they
flush the player, with one exception: `ShouldFlush` returns before it has looked when the record waits for its
first persist, so such a player is flushed at every scan. `retries_wait` says that there is no other way to
come too early, for any interleaving of the scans with the other calls of the process and any replies of the
servers.

The log (`ScanLog`) keeps the scan that is going on and its time, the record that it has read last, how many
flushes of each player have failed in a row, and every attempt with the failures before it.
-/
import SomeServer.Game.Ownership

namespace SomeServer

open Lib

variable {T : Type} [DecidableEq T]

/-! ## The time to wait -/

/-- `min(base * min(2^(n-1), 8), max)` for the `n`-th failure, as a number without bounds. -/
def retryWaitMs (timing : DatasetTiming) (n : Nat) : Nat :=
  min (timing.landingMinTimeSeconds.toNat * 1000 * min (2 ^ (n - 1)) 8)
    (timing.landingTimeSeconds.toNat * 1000)

theorem backoffMultiplier_eight (rounds : Nat) : backoffMultiplier rounds 8 = 8 := by
  cases rounds <;> rfl

/-- The doubling loop. -/
theorem backoffMultiplier_one (rounds : Nat) : (backoffMultiplier rounds 1).toNat = min (2 ^ rounds) 8 := by
  match rounds with
  | 0 => rfl
  | 1 => rfl
  | 2 => rfl
  | rounds + 3 =>
      have hloop : backoffMultiplier (rounds + 3) 1 = backoffMultiplier rounds 8 := rfl
      have hpow : 1 ≤ 2 ^ rounds := Nat.one_le_two_pow
      rw [hloop, backoffMultiplier_eight, Nat.pow_add]
      show 8 = _
      omega

/-- The seconds of the configuration are milliseconds that fit. -/
theorem seconds_toNat (seconds : UInt32) : (seconds.toUInt64 * 1000).toNat = seconds.toNat * 1000 := by
  have hlt := seconds.toNat_lt
  rw [UInt64.toNat_mul, UInt32.toNat_toUInt64]
  show seconds.toNat * 1000 % 2 ^ 64 = _
  omega

/-- `ComputeRetryDelayMs` does not overflow. -/
theorem computeRetryDelayMs_toNat {cfg : GameConfiguration} {timing : DatasetTiming}
    (hdataset : cfg.playerDataset = some timing) (failures : UInt64) :
    (computeRetryDelayMs cfg failures).toNat = retryWaitMs timing failures.toNat := by
  have hbase := seconds_toNat timing.landingMinTimeSeconds
  have hmax := seconds_toNat timing.landingTimeSeconds
  have hlt := timing.landingMinTimeSeconds.toNat_lt
  have hloop := backoffMultiplier_one (failures.toNat - 1)
  simp only [computeRetryDelayMs, hdataset, retryWaitMs]
  have hdelay : (timing.landingMinTimeSeconds.toUInt64 * 1000 *
      backoffMultiplier (failures.toNat - 1) 1).toNat =
        timing.landingMinTimeSeconds.toNat * 1000 * min (2 ^ (failures.toNat - 1)) 8 := by
    rw [UInt64.toNat_mul, hbase, hloop, Nat.mod_eq_of_lt]
    have hle : min (2 ^ (failures.toNat - 1)) 8 ≤ 8 := Nat.min_le_right _ _
    calc timing.landingMinTimeSeconds.toNat * 1000 * min (2 ^ (failures.toNat - 1)) 8
        ≤ timing.landingMinTimeSeconds.toNat * 1000 * 8 := Nat.mul_le_mul_left _ hle
      _ < 2 ^ 64 := by omega
  split
  · next h =>
    rw [UInt64.lt_iff_toNat_lt, hdelay, hmax] at h
    rw [hdelay, Nat.min_eq_left h.le]
  · next h =>
    rw [UInt64.lt_iff_toNat_lt, hdelay, hmax] at h
    rw [hmax, Nat.min_eq_right (Nat.le_of_not_lt h)]

/-! ## Attempts -/

/-- An attempt of the scheduler to flush a player, and how many have failed before it in a row, the last one
when. -/
structure FlushAttempt where
  playerId : PlayerId
  nowMs : UInt64
  failures : Option (Nat × UInt64)
deriving DecidableEq

/-- The attempt does not come too early. -/
def FlushAttempt.BackedOff (timing : DatasetTiming) (attempt : FlushAttempt) : Prop :=
  ∀ n failedMs, attempt.failures = some (n, failedMs) →
    failedMs.toNat + retryWaitMs timing n ≤ attempt.nowMs.toNat

structure ScanLog (T : Type) where
  scanning : Option T := none
  lastScanMs : UInt64 := 0
  scanned : Option PlayerRepositoryRecord := none
  failures : PlayerId → Option (Nat × UInt64) := fun _ => none
  attempts : List FlushAttempt := []

/-- What a section of thread `t` adds to the log. -/
def ScanLog.record (t : T) (log : ScanLog T) : (a : Act) → a.Reply → ScanLog T
  | .persistence (.scanEnter nowMs), _ => { log with scanning := some t, lastScanMs := nowMs }
  | .persistence (.flushAttempt p nowMs), _ =>
      { log with attempts := log.attempts ++ [⟨p, nowMs, log.failures p⟩] }
  | .persistence (.flushDone p nowMs flush), _ =>
      let failed := (((log.failures p).map Prod.fst).getD 0 + 1, nowMs)
      { log with failures := Function.update log.failures p (if flush.ok then none else some failed) }
  | .persistence (.scanLeave _ _ _), _ => { log with scanning := none }
  | .repository (.snapshot _), record => if log.scanning = some t then { log with scanned := record } else log
  | _, _ => log

namespace GameProcess

/-- The process, with its scans written down. -/
def scanMachine (cfg : GameConfiguration) : Machine T Act Act.Reply Env (GameProcess T × ScanLog T) :=
  (machine cfg).withHistory fun t a _ _ _ r log => log.record t a r

/-! ## The conditions on a run -/

/-- `p` has failed, and it is not yet time to try again. -/
def waitsForRetry (s : GameProcess T) (p : PlayerId) (nowMs : UInt64) : Bool :=
  (s.persistence.retryStates p).any fun retry => nowMs < retry.nextRetryMs

/-- A scan is about to flush a player because its record waits for the first persist, although it is not yet
time to try again. -/
def flushesPending (t : T) (p : PlayerId) (s : GameProcess T × ScanLog T) : Bool :=
  decide (s.2.scanning = some t) && s.1.isHeldLocally p &&
    (s.2.scanned.any fun record => record.loaded && record.dirty && record.pendingInitialPersist) &&
    s.1.waitsForRetry p s.2.lastScanMs

/-- The number of failures, or the time of the next attempt, does not fit. -/
def retryOverflows (cfg : GameConfiguration) (p : PlayerId) (nowMs : UInt64) (s : GameProcess T) : Bool :=
  let failures := ((s.persistence.retryStates p).getD {}).consecutiveFailureCount
  decide (2 ^ 64 ≤ failures.toNat + 1) ||
    decide (2 ^ 64 ≤ nowMs.toNat + (computeRetryDelayMs cfg (failures + 1)).toNat)

/-- The sections of the runs to be considered: one scan follows the other, at times that do not go back. -/
def admitsScan (cfg : GameConfiguration) (t : T) (a : Act) (s : GameProcess T × ScanLog T) : Bool :=
  match a with
  | .persistence (.scanEnter nowMs) => s.2.scanning.isNone && decide (s.2.lastScanMs ≤ nowMs)
  | .lease (.isHeldLocally p) => !flushesPending t p s
  | .persistence (.flushDone p nowMs flush) => flush.ok || !retryOverflows cfg p nowMs s.1
  | _ => true

def backoffGuard (cfg : GameConfiguration)
    (c : Pool T Op Act Act.Reply OpResult (GameProcess T × ScanLog T)) : Move T Op Env → Bool
  | .start _ _ => true
  | .act t _ =>
      match c.threads t with
      | some (_, .act a _) => admitsScan cfg t a c.shared
      | _ => true

/-! ## What the retry records say -/

/-- The retry records are the failures of the log, and plan the next attempt far enough ahead. -/
structure RetriesLogged (timing : DatasetTiming) (s : GameProcess T × ScanLog T) : Prop where
  failures : ∀ p, s.2.failures p = (s.1.persistence.retryStates p).map fun retry =>
    (retry.consecutiveFailureCount.toNat, retry.lastFailureMs)
  planned : ∀ p retry, s.1.persistence.retryStates p = some retry → retry.nextRetryMs.toNat =
    retry.lastFailureMs.toNat + retryWaitMs timing retry.consecutiveFailureCount.toNat
  attempts : ∀ attempt ∈ s.2.attempts, attempt.BackedOff timing

/-- What no other thread changes while `t` scans. -/
def ScanLog.Kept (t : T) (s s' : GameProcess T × ScanLog T) : Prop :=
  s.2.scanning = some t → s'.2 = s.2

/-- The outline of the scheduler. -/
def backoffOutline (cfg : GameConfiguration) (timing : DatasetTiming) :
    Outline T Op Act Env (GameProcess T × ScanLog T) where
  inv := RetriesLogged timing
  rest _ _ := True
  start _ _ _ := True
  ok t _ a _ s := admitsScan cfg t a s = true
  event t _ _ _ s s' := ∀ u, u ≠ t → ScanLog.Kept u s s'
  rely t _ s s' := ScanLog.Kept t s s'
  rely_refl _ _ _ _ := rfl
  rely_trans _ _ _ _ _ h h' hscan := by
    have hsame := h hscan
    exact (h' (by rw [hsame, hscan])).trans hsame
  rest_rely _ _ _ _ _ := trivial

variable {cfg : GameConfiguration} {timing : DatasetTiming} {t u : T} {o : Op} {a : Act} {i : Env}
  {p : PlayerId} {s s' : GameProcess T × ScanLog T} {r : a.Reply}

theorem scanMachine_exec (h : (scanMachine cfg).exec t a i s = some (s', r)) :
    s.1.exec cfg t i a = some (s'.1, r) ∧ s'.2 = s.2.record t a r :=
  Machine.withHistory_exec h

omit [DecidableEq T] in
/-- Only its own sections reach the scheduler. -/
theorem exec_persistence_frame {s s' : GameProcess T} (ha : a.schedules = false)
    (h : s.exec cfg t i a = some (s', r)) : s'.persistence = s.persistence := by
  cases a with
  | persistence a => cases ha
  | session a => obtain ⟨m, rfl | ⟨q, gate, -, -, rfl⟩⟩ := exec_session h <;> rfl
  | lease a => obtain ⟨l, -, rfl⟩ := exec_lease h; rfl
  | clock => obtain ⟨rfl, -⟩ := exec_clock h; rfl
  | storage a => obtain ⟨rfl, -⟩ := exec_storage h; rfl
  | repository a => obtain ⟨m, -, rfl⟩ := exec_repository h; rfl
  | runtime a => obtain ⟨m, rt, rfl⟩ := exec_runtime h; rfl
  | ipc a => obtain ⟨m, -, rfl⟩ := exec_ipc h; rfl
  | directory a => obtain ⟨m, -, rfl⟩ := exec_directory h; rfl

/-- A section that is none of the scheduler's. -/
theorem unscheduled_log (ha : a.schedules = false) (h : (scanMachine cfg).exec t a i s = some (s', r)) :
    s'.1.persistence = s.1.persistence ∧ s'.2.failures = s.2.failures ∧ s'.2.attempts = s.2.attempts ∧
      s'.2.scanning = s.2.scanning ∧ s'.2.lastScanMs = s.2.lastScanMs ∧
      ∀ u, u ≠ t → ScanLog.Kept u s s' := by
  obtain ⟨hexec, hlog⟩ := scanMachine_exec h
  refine ⟨exec_persistence_frame ha hexec, ?_⟩
  -- only the scanning thread's own snapshot is written down
  have hsame : s'.2 = s.2 ∨ s.2.scanning = some t ∧ ∃ record, s'.2 = { s.2 with scanned := record } := by
    rw [hlog]
    cases a with
    | persistence b => cases ha
    | repository b =>
        cases b with
        | snapshot q =>
            by_cases hscan : s.2.scanning = some t
            · exact .inr ⟨hscan, r, if_pos hscan⟩
            · exact .inl (if_neg hscan)
        | _ => exact .inl rfl
    | _ => exact .inl rfl
  rcases hsame with hsame | ⟨hscan, record, hsame⟩
  · rw [hsame]
    exact ⟨rfl, rfl, rfl, rfl, fun u _ _ => hsame⟩
  · rw [hsame]
    refine ⟨rfl, rfl, rfl, rfl, fun u hu hother => ?_⟩
    rw [hscan] at hother
    exact absurd (Option.some.inj hother).symm hu

omit [DecidableEq T] in
theorem RetriesLogged.of_same (hI : RetriesLogged timing s)
    (hretry : s'.1.persistence.retryStates = s.1.persistence.retryStates)
    (hfailures : s'.2.failures = s.2.failures) (hattempts : s'.2.attempts = s.2.attempts) :
    RetriesLogged timing s' := by
  constructor
  · rw [hfailures, hretry]
    exact hI.failures
  · rw [hretry]
    exact hI.planned
  · rw [hattempts]
    exact hI.attempts

theorem RetriesLogged.unscheduled (hI : RetriesLogged timing s) (ha : a.schedules = false)
    (h : (scanMachine cfg).exec t a i s = some (s', r)) : RetriesLogged timing s' := by
  obtain ⟨hpersistence, hfailures, hattempts, -⟩ := unscheduled_log ha h
  exact hI.of_same (by rw [hpersistence]) hfailures hattempts

variable {α : Type} {now : UInt64}

/-- Calls that are none of the scheduler's. -/
theorem unscheduled_safe {x : Call α} (hx : x.All fun a => a.schedules = false) :
    (backoffOutline cfg timing).Safe (scanMachine cfg) t o (fun _ _ => True) x s := by
  refine Outline.safe_of_all (K := fun _ => True) (fun _ _ _ _ _ _ => trivial) ?_
    (fun _ _ _ => trivial) hx trivial
  intro a i s s' r ha hI _ _ hx
  exact ⟨(unscheduled_log ha hx).2.2.2.2.2, hI.unscheduled ha hx, trivial⟩

/-! ## A scan -/

/-- Thread `t` is in a scan that has begun at `now`. -/
def Scanning (t : T) (now : UInt64) (s : GameProcess T × ScanLog T) : Prop :=
  s.2.scanning = some t ∧ s.2.lastScanMs = now

/-- It is time to try again, or the last flush of `p` has not failed. -/
def Due (timing : DatasetTiming) (p : PlayerId) (now : UInt64) (s : GameProcess T × ScanLog T) : Prop :=
  ∀ n failedMs, s.2.failures p = some (n, failedMs) → failedMs.toNat + retryWaitMs timing n ≤ now.toNat

omit [DecidableEq T] in
/-- The retry record is asked. -/
theorem due_of_not_waits (hI : RetriesLogged timing s) (h : s.1.waitsForRetry p now = false) :
    Due timing p now s := by
  intro n failedMs hfailures
  rw [hI.failures] at hfailures
  obtain ⟨retry, hretry, hfields⟩ := Option.map_eq_some_iff.1 hfailures
  obtain ⟨rfl, rfl⟩ := Prod.mk.inj hfields
  rw [waitsForRetry, hretry] at h
  simp only [Option.any_some, decide_eq_false_iff_not, UInt64.not_lt] at h
  rw [← hI.planned p retry hretry]
  exact UInt64.le_iff_toNat_le.1 h

omit [DecidableEq T] in
theorem Scanning.kept (h : Scanning t now s) (hkept : ScanLog.Kept t s s') :
    Scanning t now s' ∧ s'.2 = s.2 := by
  have hsame := hkept h.1
  refine ⟨?_, hsame⟩
  unfold Scanning
  rw [hsame]
  exact h

theorem Scanning.unscheduled (h : Scanning t now s) (ha : a.schedules = false)
    (hx : (scanMachine cfg).exec t a i s = some (s', r)) : Scanning t now s' := by
  obtain ⟨-, -, -, hscanning, hlast, -⟩ := unscheduled_log ha hx
  exact ⟨hscanning.trans h.1, hlast.trans h.2⟩

omit [DecidableEq T] in
/-- While `t` scans, what it writes down disturbs nobody. -/
theorem kept_of_scanning (h : Scanning t now s) (hu : u ≠ t) : ScanLog.Kept u s s' := by
  intro hother
  rw [h.1] at hother
  exact absurd (Option.some.inj hother).symm hu

omit [DecidableEq T] in
/-- An attempt that is due is written down. -/
theorem RetriesLogged.flushAttempt (hI : RetriesLogged timing s) (hdue : Due timing p now s)
    (hpersistence : s'.1.persistence.retryStates = s.1.persistence.retryStates)
    (hlog : s'.2 = { s.2 with attempts := s.2.attempts ++ [⟨p, now, s.2.failures p⟩] }) :
    RetriesLogged timing s' := by
  constructor
  · intro q
    rw [hlog, hpersistence]
    exact hI.failures q
  · intro q retry hretry
    rw [hpersistence] at hretry
    exact hI.planned q retry hretry
  · intro attempt hattempt
    rw [hlog] at hattempt
    rcases List.mem_append.1 hattempt with hattempt | hattempt
    · exact hI.attempts attempt hattempt
    · obtain rfl := List.mem_singleton.1 hattempt
      exact hdue

omit [DecidableEq T] in
/-- A retry record is written or erased, and the log agrees. -/
theorem RetriesLogged.update (hI : RetriesLogged timing s) (new : Option RetryState)
    (hretry : s'.1.persistence.retryStates = Function.update s.1.persistence.retryStates p new)
    (hfailures : s'.2.failures = Function.update s.2.failures p
      (new.map fun retry => (retry.consecutiveFailureCount.toNat, retry.lastFailureMs)))
    (hattempts : s'.2.attempts = s.2.attempts)
    (hnew : ∀ retry, new = some retry → retry.nextRetryMs.toNat =
      retry.lastFailureMs.toNat + retryWaitMs timing retry.consecutiveFailureCount.toNat) :
    RetriesLogged timing s' := by
  constructor
  · intro q
    rw [hfailures, hretry]
    by_cases hq : q = p
    · rw [hq, Function.update_self, Function.update_self]
    · rw [Function.update_of_ne hq, Function.update_of_ne hq]
      exact hI.failures q
  · intro q retry hq
    rw [hretry] at hq
    by_cases hsame : q = p
    · rw [hsame, Function.update_self] at hq
      exact hnew retry hq
    · rw [Function.update_of_ne hsame] at hq
      exact hI.planned q retry hq
  · rw [hattempts]
    exact hI.attempts

/-- A failed flush plans the next attempt, a successful one forgets the failures. -/
theorem RetriesLogged.flushDone {flush : Result} {u : Unit} (hI : RetriesLogged timing s)
    (hdataset : cfg.playerDataset = some timing)
    (hok : admitsScan cfg t (.persistence (.flushDone p now flush)) s = true)
    (hx : (scanMachine cfg).exec t (.persistence (.flushDone p now flush)) i s = some (s', u)) :
    RetriesLogged timing s' := by
  obtain ⟨hexec, hlog⟩ := scanMachine_exec hx
  obtain ⟨m, hm, hs⟩ := exec_persistence hexec
  obtain rfl : s.1.persistence.flushDone cfg p now flush = m := congrArg Prod.fst (Option.some.inj hm)
  have hpersistence : s'.1.persistence = s.1.persistence.flushDone cfg p now flush := by rw [hs]
  have hfailures := hI.failures p
  -- the retry record and the logged failures are cleared together
  cases hflush : flush.ok with
  | true =>
      simp only [PlayerPersistenceService.flushDone, hflush] at hpersistence
      simp only [ScanLog.record, hflush] at hlog
      exact hI.update none (by rw [hpersistence]; rfl) (by rw [hlog]; rfl) (by rw [hlog])
        fun _ h => by cases h
  | false =>
      simp only [PlayerPersistenceService.flushDone, hflush] at hpersistence
      simp only [ScanLog.record, hflush] at hlog
      -- no overflow, by the guard: the count and the time are the numbers themselves
      simp only [admitsScan, hflush, retryOverflows, Bool.false_or, Bool.not_eq_true', Bool.or_eq_false_iff,
        decide_eq_false_iff_not, not_le] at hok
      generalize hcount : ((s.1.persistence.retryStates p).getD {}).consecutiveFailureCount = failures
        at hok hpersistence
      have hsucc : (failures + 1).toNat = failures.toNat + 1 := by
        rw [UInt64.toNat_add]
        exact Nat.mod_eq_of_lt hok.1
      have hlogged : ((s.2.failures p).map Prod.fst).getD 0 = failures.toNat := by
        rw [hfailures, ← hcount]
        cases s.1.persistence.retryStates p <;> rfl
      refine hI.update _ (by rw [hpersistence]; rfl) ?_ (by rw [hlog]) ?_
      · rw [hlog, hlogged]
        simp [hsucc]
      · rintro retry h
        obtain rfl := Option.some.inj h
        show (now + computeRetryDelayMs cfg (failures + 1)).toNat = _
        rw [UInt64.toNat_add, Nat.mod_eq_of_lt hok.2, computeRetryDelayMs_toNat hdataset]

/-- The calls of a scan: it is still going on when they return. -/
def KeepsScanning (cfg : GameConfiguration) (timing : DatasetTiming) (t : T) (o : Op) (now : UInt64)
    (x : Call α) (s : GameProcess T × ScanLog T) : Prop :=
  (backoffOutline cfg timing).Safe (scanMachine cfg) t o (fun _ s' => Scanning t now s') x s

/-- The rule of one section of a scan that is none of the scheduler's. -/
theorem scan_seq {k : a.Reply → Call α} {Q : α → GameProcess T × ScanLog T → Prop} (ha : a.schedules = false)
    (hs : Scanning t now s)
    (hk : ∀ s₁ i s₂ r, RetriesLogged timing s₁ → Scanning t now s₁ → s₁.2 = s.2 →
      admitsScan cfg t a s₁ = true → (scanMachine cfg).exec t a i s₁ = some (s₂, r) → Scanning t now s₂ →
      s₂.2.failures = s.2.failures → (backoffOutline cfg timing).Safe (scanMachine cfg) t o Q (k r) s₂) :
    (backoffOutline cfg timing).Safe (scanMachine cfg) t o Q (call a >>= k) s := by
  intro s₁ hrely hI i s₂ r hok hx
  obtain ⟨hs₁, hsame⟩ := hs.kept hrely
  obtain ⟨-, hfailures, -, -, -, hevent⟩ := unscheduled_log ha hx
  refine ⟨hevent, hI.unscheduled ha hx, hk s₁ i s₂ r hI hs₁ hsame hok hx (hs₁.unscheduled ha hx) ?_⟩
  rw [hfailures, hsame]

theorem scan_all {x : Call α} (hx : x.All fun a => a.schedules = false) (hs : Scanning t now s) :
    KeepsScanning cfg timing t o now x s := by
  refine Outline.safe_of_all (K := Scanning t now) ?_ ?_ (fun _ _ h => h) hx hs
  · intro a s s' _ hkept hs
    exact (hs.kept hkept).1
  · intro a i s s' r ha hI hs _ hx
    exact ⟨(unscheduled_log ha hx).2.2.2.2.2, hI.unscheduled ha hx, hs.unscheduled ha hx⟩

/-- `ShouldFlush` says yes only when it is time, except for a record that waits for its first persist. -/
theorem checkFlush_due {repository : PlayerRepositoryRecord} {session : Option PlayerSessionRecord}
    (hdataset : cfg.playerDataset = some timing) (hs : Scanning t now s)
    (hpending : (repository.loaded && repository.dirty && repository.pendingInitialPersist) = true →
      Due timing p now s) :
    (backoffOutline cfg timing).Safe (scanMachine cfg) t o
      (fun due s' => Scanning t now s' ∧ (due = true → Due timing p now s'))
      (checkFlush cfg p repository session now) s := by
  unfold checkFlush
  split
  · next hskip =>
    refine ⟨hs, fun hdue => hpending ?_⟩
    simp only [shouldFlush, hdataset] at hdue
    cases hloaded : repository.loaded <;> cases hdirty : repository.dirty <;>
      cases hp : repository.pendingInitialPersist <;> simp_all
  · next hask =>
    intro s₁ hrely hI i s₂ waits _ hx
    obtain ⟨hs₁, hsame⟩ := hs.kept hrely
    obtain ⟨hexec, hlog⟩ := scanMachine_exec hx
    obtain ⟨m, hm, hprocess⟩ := exec_persistence hexec
    simp only [PlayerPersistenceService.exec, Option.some.injEq, Prod.mk.injEq] at hm
    obtain ⟨rfl, rfl⟩ := hm
    have hstate : s₂ = s₁ := Prod.ext hprocess hlog
    subst hstate
    refine ⟨fun u _ _ => rfl, hI, hs₁, fun hdue => due_of_not_waits hI ?_⟩
    -- neither of the early answers of `ShouldFlush` is left, so the record was not waiting
    simp only [Bool.or_eq_true, Bool.not_eq_true', not_or, Bool.not_eq_false, Bool.not_eq_true] at hask
    obtain ⟨⟨⟨hloaded, hdirty⟩, hnotPending⟩, -⟩ := hask
    by_contra hwaits
    simp only [Bool.not_eq_false] at hwaits
    have hreply : (s₂.1.persistence.retryStates p).any (fun retry => decide (now < retry.nextRetryMs)) =
        true := hwaits
    simp [shouldFlush, hloaded, hdirty, hnotPending, hdataset, hreply] at hdue

omit [DecidableEq T] in
theorem Due.of_failures (h : Due timing p now s) (hfailures : s'.2.failures = s.2.failures) :
    Due timing p now s' := by
  unfold Due
  rw [hfailures]
  exact h

theorem flushPlayer_unscheduled (p : PlayerId) : (flushPlayer p).All fun a => a.schedules = false :=
  flushPlayer_sections rfl rfl (fun _ => rfl) (fun _ => rfl) fun _ => rfl

/-- An attempt that is due, and what is written down when it is over. -/
theorem attempt_safe {repository : PlayerRepositoryRecord} {counts : ScanCounts}
    (hdataset : cfg.playerDataset = some timing) (hs : Scanning t now s) (hdue : Due timing p now s) :
    KeepsScanning cfg timing t o now (do
      call (.persistence (.flushAttempt p now))
      let flush ← flushPlayer p
      call (.persistence (.flushDone p now flush))
      if !flush.ok then return counts
      return counts.flush repository) s := by
  intro s₁ hrely hI i s₂ u _ hx
  obtain ⟨hs₁, hsame⟩ := hs.kept hrely
  obtain ⟨hexec, hlog⟩ := scanMachine_exec hx
  obtain ⟨m, hm, hprocess⟩ := exec_persistence hexec
  simp only [PlayerPersistenceService.exec, Option.some.injEq, Prod.mk.injEq] at hm
  -- the attempt is on record before the flush begins, and what the flush answers when it is over
  have hI₂ := hI.flushAttempt (hdue.of_failures (by rw [hsame])) (by rw [hprocess, ← hm.1]) hlog
  have hs₂ : Scanning t now s₂ := by
    unfold Scanning
    rw [hlog]
    exact hs₁
  refine ⟨fun v hv => kept_of_scanning hs₁ hv, hI₂, ?_⟩
  dsimp only [Prog.bind]
  refine Outline.Safe.bind (Outline.Safe.mono (fun flush s₃ hs₃ => ?_)
    (scan_all (flushPlayer_unscheduled p) hs₂))
  intro s₄ hrely hI i s₅ u hok hx
  obtain ⟨hs₄, -⟩ := hs₃.kept hrely
  obtain ⟨-, hlog⟩ := scanMachine_exec hx
  have hs₅ : Scanning t now s₅ := by
    unfold Scanning
    rw [hlog]
    exact hs₄
  refine ⟨fun v hv => kept_of_scanning hs₄ hv, hI.flushDone hdataset hok hx, ?_⟩
  dsimp only [Prog.bind]
  split
  · exact hs₅
  · exact hs₅

/-- The work of a scan on one player. -/
theorem scanPlayer_safe {repository : PlayerRepositoryRecord} {counts : ScanCounts}
    (hdataset : cfg.playerDataset = some timing) (hs : Scanning t now s)
    (hscanned : s.2.scanned = some repository) :
    KeepsScanning cfg timing t o now (scanPlayer cfg p repository now counts) s := by
  refine scan_seq rfl hs fun s₁ i s₂ held hI hs₁ hsame hok hx hs₂ hfailures => ?_
  have hheld := isHeldLocally_reply (scanMachine_exec hx).1
  have hpending : held = true →
      (repository.loaded && repository.dirty && repository.pendingInitialPersist) = true →
        Due timing p now s₂ := by
    intro h hrecord
    -- a record that waits for its first persist passes the guard of the run only when it is due
    have hdue : Due timing p now s₁ := by
      refine due_of_not_waits hI ?_
      rw [h] at hheld
      simp only [admitsScan, flushesPending, ← hheld, hsame, hs.1, hs.2, hscanned, Option.any_some,
        hrecord] at hok
      simpa using hok
    exact hdue.of_failures (by rw [hfailures, hsame])
  split
  · exact hs₂
  · next h =>
    refine scan_seq rfl hs₂ fun s₃ i s₄ session _ _ _ _ _ hs₄ hfailures' => ?_
    refine Outline.Safe.bind (Outline.Safe.mono (fun due s₅ hdue => ?_)
      (checkFlush_due hdataset hs₄ fun hrecord =>
        (hpending (by simpa using h) hrecord).of_failures hfailures'))
    split
    · exact hdue.1
    · next hyes => exact attempt_safe hdataset hdue.1 (hdue.2 (by simpa using hyes))

theorem scanAll_safe (hdataset : cfg.playerDataset = some timing) (players : List PlayerId) :
    ∀ counts s, Scanning t now s → KeepsScanning cfg timing t o now (scanAll cfg now players counts) s := by
  induction players with
  | nil => exact fun counts s hs => hs
  | cons p rest ih =>
      intro counts s hs
      refine scan_seq rfl hs fun s₁ i s₂ record _ hs₁ _ _ hx hs₂ _ => ?_
      have hlog := (scanMachine_exec hx).2
      split
      · exact ih counts s₂ hs₂
      · next repository =>
        have hscanned : s₂.2.scanned = some repository := by
          rw [hlog]
          exact congrArg ScanLog.scanned (if_pos hs₁.1)
        exact Outline.Safe.bind (Outline.Safe.mono (fun counts s' hs' => ih counts s' hs')
          (scanPlayer_safe hdataset hs₂ hscanned))

theorem flushDuePlayersOnce_safe (hdataset : cfg.playerDataset = some timing) (order : List PlayerId) :
    (backoffOutline cfg timing).Safe (scanMachine cfg) t o (fun _ _ => True)
      (flushDuePlayersOnce cfg order) s := by
  intro s₁ _ hI i s₂ now _ hx
  -- `now` is read, and the scan begins
  refine ⟨(unscheduled_log rfl hx).2.2.2.2.2, hI.unscheduled rfl hx, ?_⟩
  intro s₃ _ hI i s₄ u hok hx
  obtain ⟨hexec, hlog⟩ := scanMachine_exec hx
  obtain ⟨m, hm, hprocess⟩ := exec_persistence hexec
  simp only [PlayerPersistenceService.exec, Option.some.injEq, Prod.mk.injEq] at hm
  -- one scan at a time, by the guard
  have hnone : s₃.2.scanning = none := by
    simp only [backoffOutline, admitsScan, Bool.and_eq_true, Option.isNone_iff_eq_none] at hok
    exact hok.1
  have hs₄ : Scanning t now s₄ := by
    rw [Scanning, hlog]
    exact ⟨rfl, rfl⟩
  have hI₄ : RetriesLogged timing s₄ :=
    hI.of_same (by rw [hprocess, ← hm.1]) (by rw [hlog]; rfl) (by rw [hlog]; rfl)
  refine ⟨fun v _ hv => ?_, hI₄, ?_⟩
  · rw [hnone] at hv
    cases hv
  -- the players to look at, one after the other, and the end of the scan
  refine scan_seq rfl hs₄ fun s₅ i s₆ players _ _ _ _ _ hs₆ _ => ?_
  refine Outline.Safe.bind (Outline.Safe.mono (fun counts s₇ hs₇ => ?_)
    (scanAll_safe hdataset players {} s₆ hs₆))
  intro s₈ hrely hI i s₉ u _ hx
  obtain ⟨hs₈, -⟩ := hs₇.kept hrely
  obtain ⟨hexec, hlog⟩ := scanMachine_exec hx
  obtain ⟨m, hm, hprocess⟩ := exec_persistence hexec
  simp only [PlayerPersistenceService.exec, Option.some.injEq, Prod.mk.injEq] at hm
  exact ⟨fun v hv => kept_of_scanning hs₈ hv,
    hI.of_same (by rw [hprocess, ← hm.1]) (by rw [hlog]; rfl) (by rw [hlog]; rfl), trivial⟩

/-- Only scans have sections of the scheduler. -/
theorem code_unscheduled (fuel : Nat) (hn : ∀ order, o ≠ .flushDue order) :
    (o.code cfg fuel).All fun a => a.schedules = false := by
  have hC := Prog.compositional_all (E := Act) (R := Act.Reply) (P := fun a => a.schedules = false)
  have hP : ∀ a : Act, a.locks = false → a.restores = false → a.schedules = false →
      (call a).All fun a => a.schedules = false := fun a _ _ hn => all_call hn
  have hload : ∀ cfg p allow, (loadPlayer cfg p allow).All fun a => a.schedules = false := by
    intro cfg p allow
    unfold loadPlayer
    split
    · exact all_pure
    · exact all_seq rfl fun _ => (datasetGet_all (fun _ => rfl) p).bind fun _ => all_call rfl
  have hresolve : ∀ fuel key, (resolveOrCreate fuel key).All fun a => a.schedules = false :=
    fun fuel key => resolveOrCreate_all (fun _ => rfl) fuel key
  refine Op.code_of_calls hC ?_ ?_ (hresolve fuel) ?_ ?_
  · intro hplain
    exact Op.code_unscheduled hC hP flushPlayer_unscheduled cfg fuel hplain hn (fun _ => hload) fun _ =>
      releasePlayer_parts hC hP flushPlayer_unscheduled fun _ _ => all_call rfl
  · intro source key gate
    exact handleLoginRequest_parts hC hP hload hresolve cfg fuel source key gate
  · intro key
    exact lookup_all (fun _ => rfl) key
  · intro order
    exact renewLeases_all (fun _ => rfl) order

theorem code_backsOff (fuel : Nat) (hdataset : cfg.playerDataset = some timing) :
    (backoffOutline cfg timing).Safe (scanMachine cfg) t o (fun _ _ => True) (o.code cfg fuel) s := by
  by_cases hscan : ∃ order, o = .flushDue order
  · obtain ⟨order, rfl⟩ := hscan
    exact Outline.Safe.bind ((flushDuePlayersOnce_safe hdataset order).mono fun _ _ _ => trivial)
  · exact unscheduled_safe (code_unscheduled fuel fun order h => hscan ⟨order, h⟩)

theorem backoff_proved (fuel : Nat) (hdataset : cfg.playerDataset = some timing) :
    (backoffOutline cfg timing).Proved (scanMachine cfg) (fun (_ : T) o => o.code cfg fuel)
      (fun c m => backoffGuard cfg c m = true) (fun _ _ _ _ => True) where
  start _ _ _ _ _ := trivial
  ok c t o a k i hg _ ht := by
    simp only [backoffGuard, ht] at hg
    exact hg
  safe t o s _ _ _ := (code_backsOff fuel hdataset).mono fun _ _ _ => ⟨trivial, trivial⟩
  compatible _ _ _ _ _ _ _ _ _ _ _ _ hevent u hu := hevent u hu

/-! ## Every run -/

/-- A player whose flushes have failed is not flushed again before its time, unless its record waits for the
first persist. -/
theorem retries_wait {fuel : Nat} {process : GameProcess T}
    {c : Pool T Op Act Act.Reply OpResult (GameProcess T × ScanLog T)}
    (hdataset : cfg.playerDataset = some timing) (hfresh : process.persistence = {})
    (h : Run (scanMachine cfg) (fun _ o => o.code cfg fuel) (fun c m => backoffGuard cfg c m = true)
      (Pool.initial (process, {})) c) :
    ∀ attempt ∈ c.shared.2.attempts, attempt.BackedOff timing := by
  have hI : RetriesLogged timing (process, ({} : ScanLog T)) := by
    constructor
    · intro p
      rw [hfresh]
      rfl
    · intro p retry hretry
      rw [hfresh] at hretry
      cases hretry
    · intro attempt hattempt
      cases hattempt
  have hgood := (backoff_proved (T := T) fuel hdataset).sound (Outline.good_initial hI fun _ => trivial) h
  exact hgood.1.attempts

/-- MariaDB does not answer. -/
def withoutMaria (nowMs : UInt64) : Env := { emptyServers nowMs with maria := .error "gone" }

/-- A process with one thread, before anything has happened. -/
def soloScheduler : Pool Unit Op Act Act.Reply OpResult (GameProcess Unit × ScanLog Unit) :=
  Pool.initial ({ ipc := { self := some ⟨⟨10, 1⟩, 1⟩ } }, {})

/-- Player 7 logs in for the first time, and two scans find that MariaDB does not answer. -/
def twoScans (second : UInt64) : List (Move Unit Op Env) :=
  .start () (.activate 7 ⟨20, 1, 5⟩ true) :: sections 11 (emptyServers 1000) ++
    .start () (.flushDue [7]) :: sections 12 (withoutMaria 2000) ++
    .start () (.flushDue [7]) :: sections 12 (withoutMaria second)

/-- The second scan comes when it is time. -/
theorem retries_wait_once :
    ∃ c, soloScheduler.play (scanMachine soloGame) (fun _ o => o.code soloGame 0) (backoffGuard soloGame)
        (twoScans 62000) = some c ∧
      ⟨7, 62000, some (1, 2000)⟩ ∈ c.shared.2.attempts ∧
      ∀ attempt ∈ c.shared.2.attempts, attempt.BackedOff ⟨60, 1800⟩ := by
  have hend : (soloScheduler.play (scanMachine soloGame) (fun _ o => o.code soloGame 0)
      (backoffGuard soloGame) (twoScans 62000)).map (fun c => c.shared.2.attempts) =
      some [⟨7, 2000, none⟩, ⟨7, 62000, some (1, 2000)⟩] := rfl
  obtain ⟨c, hc, hattempts⟩ := Option.map_eq_some_iff.mp hend
  refine ⟨c, hc, by rw [hattempts]; decide, ?_⟩
  exact retries_wait rfl rfl (Run.refl.play (fun _ _ h => h) hc)

/-- The second scan comes a second after the first, and flushes the player again. -/
theorem retries_at_once :
    ∃ c, soloScheduler.play (scanMachine soloGame) (fun _ o => o.code soloGame 0) (fun _ _ => true)
        (twoScans 3000) = some c ∧
      ∃ attempt ∈ c.shared.2.attempts, ¬ attempt.BackedOff ⟨60, 1800⟩ := by
  have hend : (soloScheduler.play (scanMachine soloGame) (fun _ o => o.code soloGame 0)
      (fun _ _ => true) (twoScans 3000)).map (fun c => c.shared.2.attempts) =
      some [⟨7, 2000, none⟩, ⟨7, 3000, some (1, 2000)⟩] := rfl
  obtain ⟨c, hc, hattempts⟩ := Option.map_eq_some_iff.mp hend
  refine ⟨c, hc, ⟨7, 3000, some (1, 2000)⟩, by rw [hattempts]; decide, fun h => ?_⟩
  have hlate := h 1 2000 rfl
  exact absurd hlate (by decide)

end GameProcess

end SomeServer
