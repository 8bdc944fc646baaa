/-
# SomeServer.Game.Retries — what a retry record counts

The scheduler counts a player's failed flushes in a retry record and erases it when one of its own flushes has
succeeded. The record is not the scheduler's to keep right: `ReleasePlayer` and the console flush a player behind
its back, and a release drops the player, and neither touches the record. `retries_counted` says that there is no
other way to make a record wrong, for any interleaving of the calls of a process and any replies of the servers.

The log (`FlushLog`) counts the failed flushes of each player by any path, and keeps the flushes of the scans
whose outcome has not been noted yet. While there is one, the record is what it will be with it (`notedCount`).
-/
import SomeServer.Game.Backoff
import SomeServer.Game.View

namespace SomeServer

open Lib

variable {T : Type} [DecidableEq T]

/-! ## The flushes of a run -/

/-- `failures` are the failed flushes of a player since its last successful one, and `elsewhere` says that one of
them was not the scheduler's. `settled` says that the player has been flushed successfully or released since its last
failed flush. `attempting` is the player that a thread's scan is flushing, and `unnoted` the flushes that have
ended in a scan that has yet to note the outcome. -/
structure FlushLog (T : Type) where
  failures : PlayerId → Nat := fun _ => 0
  elsewhere : PlayerId → Bool := fun _ => false
  settled : PlayerId → Bool := fun _ => false
  attempting : T → Option PlayerId := fun _ => none
  unnoted : PlayerId → List (T × Bool) := fun _ => []

namespace FlushLog

/-- A flush of `p` by thread `t` has ended. -/
def ended (t : T) (p : PlayerId) (ok : Bool) (log : FlushLog T) : FlushLog T :=
  let scans := decide (log.attempting t = some p)
  { log with
    failures := Function.update log.failures p (if ok then 0 else log.failures p + 1)
    elsewhere := Function.update log.elsewhere p (!ok && (log.elsewhere p || !scans))
    settled := Function.update log.settled p ok
    unnoted := if scans then Function.update log.unnoted p (log.unnoted p ++ [(t, ok)]) else log.unnoted }

/-- What a section of thread `t` adds to the log. -/
def record (t : T) (log : FlushLog T) : (a : Act) → a.Reply → FlushLog T
  | .persistence (.flushAttempt p _), _ => { log with attempting := Function.update log.attempting t (some p) }
  | .persistence (.flushDone p _ _), _ =>
      { log with
        attempting := Function.update log.attempting t none
        unnoted := Function.update log.unnoted p ((log.unnoted p).filter fun x => decide (x.1 ≠ t)) }
  | .repository (.flushEnter p), data => if data.isSome then log else log.ended t p false
  | .repository (.flushLeave p _), flush => log.ended t p flush.ok
  | .repository (.release p), release =>
      if release.ok then { log with settled := Function.update log.settled p true } else log
  | _, _ => log

end FlushLog

/-- The sections in which a scan says what it does. -/
def Act.notes : Act → Bool
  | .persistence (.flushAttempt _ _) => true
  | .persistence (.flushDone _ _ _) => true
  | _ => false

namespace GameProcess

/-- The process, with its flushes written down. -/
def flushMachine (cfg : GameConfiguration) : Machine T Act Act.Reply Env (GameProcess T × FlushLog T) :=
  (machine cfg).withHistory fun t a _ _ _ r log => log.record t a r

/-! ## What the records say -/

/-- Every retry record is one of a loaded player and counts its failed flushes since the last successful one; a
player that has been flushed or released since has none. Nothing is said of a player whose flush has ended in a
scan that has yet to note the outcome. -/
def RetriesMatch (s : GameProcess T × FlushLog T) : Prop :=
  ∀ p retry, s.2.unnoted p = [] → s.1.persistence.retryStates p = some retry →
    s.1.repository.isLoaded p = true ∧ retry.consecutiveFailureCount.toNat = s.2.failures p ∧ s.2.settled p = false

/-! ## The conditions on a run -/

/-- `p` has no retry record, and is not about to get one. -/
def untried (p : PlayerId) (s : GameProcess T × FlushLog T) : Bool :=
  (s.1.persistence.retryStates p).isNone && (s.2.unnoted p).isEmpty

/-- A scan's flush of `p` may end when the outcome of the one before has been noted, and fail when `p` is loaded
and no flush of another path has failed. One of another path may end when `p` has no retry record. -/
def admitsFlush (t : T) (p : PlayerId) (ok : Bool) (s : GameProcess T × FlushLog T) : Bool :=
  if s.2.attempting t = some p then
    (s.2.unnoted p).isEmpty &&
      (ok || (s.1.repository.isLoaded p && !s.2.elsewhere p && decide (s.2.failures p + 1 < 2 ^ 64)))
  else untried p s

/-- The sections of the runs to be considered. -/
def admitsRetry (t : T) (a : Act) (s : GameProcess T × FlushLog T) : Bool :=
  match a with
  | .repository (.flushEnter p) => s.1.repository.isLoaded p || admitsFlush t p false s
  | .repository (.flushLeave p stored) => admitsFlush t p stored.ok s
  | .repository (.release p) => (s.1.repository.players p).isNone || untried p s
  | _ => true

def retryGuard (c : Pool T Op Act Act.Reply OpResult (GameProcess T × FlushLog T)) : Move T Op Env → Bool
  | .start _ _ => true
  | .act t _ =>
      match c.threads t with
      | some (_, .act a _) => admitsRetry t a c.shared
      | _ => true

/-! ## The invariant -/

/-- What noting the outcome of a flush makes of a count. -/
def noteFlush (count : Option UInt64) (ok : Bool) : Option UInt64 :=
  if ok then none else some (count.getD 0 + 1)

/-- The count of a retry record. -/
def retryCount (s : GameProcess T × FlushLog T) (p : PlayerId) : Option UInt64 :=
  (s.1.persistence.retryStates p).map (·.consecutiveFailureCount)

/-- The count as it will be when every outcome has been noted. -/
def notedCount (s : GameProcess T × FlushLog T) (p : PlayerId) : Option UInt64 :=
  (s.2.unnoted p).foldl (fun count x => noteFlush count x.2) (retryCount s p)

/-- This count is right for `p`. -/
def Counted (s : GameProcess T × FlushLog T) (p : PlayerId) : Option UInt64 → Prop
  | none => s.2.elsewhere p = true ∨ s.2.failures p = 0
  | some n => s.1.repository.isLoaded p = true ∧ n.toNat = s.2.failures p ∧ s.2.settled p = false ∧
      s.2.elsewhere p = false

def RetriesCounted (s : GameProcess T × FlushLog T) : Prop := ∀ p, Counted s p (notedCount s p)

/-- What no other thread changes of what `t` knows. -/
def FlushLog.Kept (t : T) (s s' : GameProcess T × FlushLog T) : Prop :=
  s'.2.attempting t = s.2.attempting t ∧ ∀ p ok, s.2.unnoted p = [(t, ok)] → s'.2.unnoted p = [(t, ok)]

/-- The outline of the retry records: between its calls a thread is not flushing for a scan. -/
def retryOutline : Outline T Op Act Env (GameProcess T × FlushLog T) where
  inv := RetriesCounted
  rest t s := s.2.attempting t = none
  start _ _ _ := True
  ok t _ a _ s := admitsRetry t a s = true
  event t _ _ _ s s' := ∀ u, u ≠ t → FlushLog.Kept u s s'
  rely t _ s s' := FlushLog.Kept t s s'
  rely_refl _ _ _ := ⟨rfl, fun _ _ h => h⟩
  rely_trans _ _ _ _ _ h h' := ⟨h'.1.trans h.1, fun p ok hu => h'.2 p ok (h.2 p ok hu)⟩
  rest_rely _ _ _ h hrest := h.1.trans hrest

variable {cfg : GameConfiguration} {t u : T} {o : Op} {a : Act} {i : Env} {p q : PlayerId}
  {s s' : GameProcess T × FlushLog T} {r : a.Reply} {ok : Bool}

-- The equations are made here, once for the lemmas below.
attribute [local simp] FlushLog.record in
theorem flushMachine_exec (h : (flushMachine cfg).exec t a i s = some (s', r)) :
    s.1.exec cfg t i a = some (s'.1, r) ∧ s'.2 = s.2.record t a r :=
  Machine.withHistory_exec h

/-! ## Who is loaded -/

/-- Only its release unloads a player. -/
theorem loaded_after {v : PlayerView} (ha : a ≠ .repository (.release p)) (h : v.loaded = true) :
    (v.after p a r).loaded = true := by
  unfold PlayerView.after
  split
  case h_6 q _ =>
    have hq : q ≠ p := fun hq => ha (by rw [hq])
    rw [if_neg hq]
    exact h
  -- every other section leaves `loaded` alone, or sets it
  all_goals (try split_ifs) <;> simp [h]

omit [DecidableEq T] in
theorem exec_isLoaded {s s' : GameProcess T} (ha : a ≠ .repository (.release p))
    (h : s.exec cfg t i a = some (s', r)) (hloaded : s.repository.isLoaded p = true) :
    s'.repository.isLoaded p = true := by
  have hview := congrArg PlayerView.loaded (view_exec h (p := p))
  exact hview.trans (loaded_after ha hloaded)

/-! ## One section -/

omit [DecidableEq T] in
/-- What is right for a player remains right when its entries remain. -/
theorem Counted.of_same {count : Option UInt64} (hI : Counted s p count)
    (hloaded : s.1.repository.isLoaded p = true → s'.1.repository.isLoaded p = true)
    (hfailures : s'.2.failures p = s.2.failures p) (helsewhere : s'.2.elsewhere p = s.2.elsewhere p)
    (hsettled : s'.2.settled p = s.2.settled p) : Counted s' p count := by
  cases count with
  | none =>
      show s'.2.elsewhere p = true ∨ s'.2.failures p = 0
      rw [helsewhere, hfailures]
      exact hI
  | some n =>
      obtain ⟨hl, hn, ho, he⟩ := hI
      exact ⟨hloaded hl, hn.trans hfailures.symm, hsettled.trans ho, helsewhere.trans he⟩

omit [DecidableEq T] in
theorem notedCount_of_same (hretry : s'.1.persistence.retryStates p = s.1.persistence.retryStates p)
    (hunnoted : s'.2.unnoted p = s.2.unnoted p) : notedCount s' p = notedCount s p := by
  unfold notedCount retryCount
  rw [hretry, hunnoted]

omit [DecidableEq T] in
theorem notedCount_of_untried (h : untried p s = true) : s.2.unnoted p = [] ∧ notedCount s p = none := by
  simp only [untried, Bool.and_eq_true, Option.isNone_iff_eq_none, List.isEmpty_iff] at h
  refine ⟨h.2, ?_⟩
  unfold notedCount retryCount
  rw [h.1, h.2]
  rfl

omit [DecidableEq T] in
/-- Nothing that concerns a flush. -/
theorem RetriesCounted.of_log (hI : RetriesCounted s)
    (hretry : s'.1.persistence.retryStates = s.1.persistence.retryStates)
    (hloaded : ∀ p, s.1.repository.isLoaded p = true → s'.1.repository.isLoaded p = true)
    (hfailures : s'.2.failures = s.2.failures) (helsewhere : s'.2.elsewhere = s.2.elsewhere)
    (hsettled : s'.2.settled = s.2.settled) (hunnoted : s'.2.unnoted = s.2.unnoted) : RetriesCounted s' := by
  intro p
  have hcount : notedCount s' p = notedCount s p := notedCount_of_same (by rw [hretry]) (by rw [hunnoted])
  rw [hcount]
  exact (hI p).of_same (hloaded p) (by rw [hfailures]) (by rw [helsewhere]) (by rw [hsettled])

omit [DecidableEq T] in
/-- A flush that ends is counted, and so will its outcome be. -/
theorem RetriesCounted.ended (hI : RetriesCounted s) (hok : admitsFlush t p ok s = true)
    (hretry : s'.1.persistence.retryStates = s.1.persistence.retryStates)
    (hloaded : ∀ q, s.1.repository.isLoaded q = true → s'.1.repository.isLoaded q = true)
    (hlog : s'.2 = s.2.ended t p ok) : RetriesCounted s' := by
  intro q
  by_cases hq : q = p
  · subst hq
    unfold admitsFlush at hok
    split at hok
    · next hscan =>
      -- the scan's own flush: its outcome waits behind the record
      rw [Bool.and_eq_true, List.isEmpty_iff] at hok
      have hnoted : notedCount s q = retryCount s q := by
        unfold notedCount
        rw [hok.1]
        rfl
      have hcount : notedCount s' q = noteFlush (notedCount s q) ok := by
        rw [hnoted]
        unfold notedCount retryCount
        rw [hretry, hlog]
        simp [FlushLog.ended, hscan, hok.1]
      have hbefore := hI q
      rw [hcount]
      cases ok with
      | true =>
          refine .inr ?_
          rw [hlog]
          exact Function.update_self ..
      | false =>
          simp only [Bool.false_or, Bool.and_eq_true, Bool.not_eq_true', decide_eq_true_eq] at hok
          obtain ⟨-, ⟨hl, helsewhere⟩, hroom⟩ := hok
          have hn : ((notedCount s q).getD 0).toNat = s.2.failures q := by
            cases hc : notedCount s q with
            | none =>
                rw [hc] at hbefore
                have hzero := hbefore.resolve_left (by rw [helsewhere]; exact Bool.false_ne_true)
                exact hzero.symm
            | some n =>
                rw [hc] at hbefore
                exact hbefore.2.1
          refine ⟨hloaded q hl, ?_, ?_, ?_⟩
          · rw [UInt64.toNat_add, hn, hlog]
            simp only [FlushLog.ended, Function.update_self]
            exact Nat.mod_eq_of_lt hroom
          · rw [hlog]
            exact Function.update_self ..
          · rw [hlog]
            simp [FlushLog.ended, hscan, helsewhere]
    · next hscan =>
      -- a flush by another path: there is no record, and there will be none
      obtain ⟨hempty, hnone⟩ := notedCount_of_untried hok
      have hcount : notedCount s' q = none := by
        rw [← hnone]
        refine notedCount_of_same (by rw [hretry]) ?_
        rw [hlog]
        simp [FlushLog.ended, hscan]
      rw [hcount]
      show s'.2.elsewhere q = true ∨ s'.2.failures q = 0
      rw [hlog]
      cases ok <;> simp [FlushLog.ended, hscan]
  · have hunnoted : s'.2.unnoted q = s.2.unnoted q := by
      rw [hlog]
      simp only [FlushLog.ended]
      split
      · exact Function.update_of_ne hq ..
      · rfl
    rw [notedCount_of_same (by rw [hretry]) hunnoted]
    refine (hI q).of_same (hloaded q) ?_ ?_ ?_
    · rw [hlog]
      exact Function.update_of_ne hq ..
    · rw [hlog]
      exact Function.update_of_ne hq ..
    · rw [hlog]
      exact Function.update_of_ne hq ..

omit [DecidableEq T] in
/-- A flush that ends disturbs no scan that has yet to note an outcome. -/
theorem kept_ended (hok : admitsFlush t p ok s = true) (hlog : s'.2 = s.2.ended t p ok) (u : T) :
    FlushLog.Kept u s s' := by
  refine ⟨by rw [hlog]; rfl, fun q ok' hu => ?_⟩
  unfold admitsFlush at hok
  rw [hlog]
  split at hok
  · next hscan =>
    rw [Bool.and_eq_true, List.isEmpty_iff] at hok
    have hq : q ≠ p := by
      rintro rfl
      rw [hok.1] at hu
      cases hu
    simp only [FlushLog.ended, hscan, decide_true, if_true]
    rw [Function.update_of_ne hq]
    exact hu
  · next hscan =>
    simp only [FlushLog.ended, hscan, decide_false, Bool.false_eq_true, if_false]
    exact hu

/-- A release of a player that has no record. -/
theorem RetriesCounted.release {result : Result} (hI : RetriesCounted s)
    (hok : admitsRetry t (.repository (.release p)) s = true)
    (hx : (flushMachine cfg).exec t (.repository (.release p)) i s = some (s', result)) :
    RetriesCounted s' ∧ ∀ u, FlushLog.Kept u s s' := by
  obtain ⟨hexec, hlog⟩ := flushMachine_exec hx
  have hpersistence : s'.1.persistence = s.1.persistence := exec_persistence_frame rfl hexec
  have hunnoted : s'.2.unnoted = s.2.unnoted ∧ s'.2.attempting = s.2.attempting ∧
      s'.2.failures = s.2.failures ∧ s'.2.elsewhere = s.2.elsewhere := by
    rw [hlog]
    simp only [FlushLog.record]
    split <;> exact ⟨rfl, rfl, rfl, rfl⟩
  obtain ⟨hunnoted, hattempting, hfailures, helsewhere⟩ := hunnoted
  refine ⟨fun q => ?_, fun u => ⟨by rw [hattempting], fun q ok' hu => by rw [hunnoted]; exact hu⟩⟩
  have hcount : notedCount s' q = notedCount s q := notedCount_of_same (by rw [hpersistence]) (by rw [hunnoted])
  rw [hcount]
  by_cases hq : q = p
  · subst hq
    simp only [admitsRetry, Bool.or_eq_true, Option.isNone_iff_eq_none] at hok
    rcases hok with habsent | huntried
    · -- the repository does not know the player, and nothing happens
      obtain ⟨m, hm, hs⟩ := exec_repository hexec
      simp only [PlayerRepository.exec, Option.ite_none_left_eq_some, PlayerRepository.release, habsent,
        Option.some.injEq, Prod.mk.injEq] at hm
      obtain ⟨-, hm, rfl⟩ := hm
      refine (hI q).of_same (fun h => ?_) (by rw [hfailures]) (by rw [helsewhere]) ?_
      · rw [hs, ← hm]
        exact h
      · rw [hlog]
        rfl
    · rw [(notedCount_of_untried huntried).2]
      have hbefore := hI q
      rw [(notedCount_of_untried huntried).2] at hbefore
      show s'.2.elsewhere q = true ∨ s'.2.failures q = 0
      rw [helsewhere, hfailures]
      exact hbefore
  · refine (hI q).of_same (exec_isLoaded ?_ hexec) (by rw [hfailures]) (by rw [helsewhere]) ?_
    · intro h
      injection h with h
      injection h with h
      exact hq h.symm
    · rw [hlog]
      simp only [FlushLog.record]
      split
      · exact Function.update_of_ne hq ..
      · rfl

/-- A section that writes nothing down. -/
theorem RetriesCounted.quiet (hI : RetriesCounted s) (hsame : ∀ r : a.Reply, s.2.record t a r = s.2)
    (ha : ∀ p, a ≠ .repository (.release p))
    (hretry : s'.1.persistence.retryStates = s.1.persistence.retryStates)
    (hx : (flushMachine cfg).exec t a i s = some (s', r)) : RetriesCounted s' ∧ ∀ u, FlushLog.Kept u s s' := by
  obtain ⟨hexec, hlog⟩ := flushMachine_exec hx
  rw [hsame] at hlog
  constructor
  · exact hI.of_log hretry (fun p => exec_isLoaded (ha p) hexec) (by rw [hlog]) (by rw [hlog]) (by rw [hlog])
      (by rw [hlog])
  · intro u
    unfold FlushLog.Kept
    rw [hlog]
    exact ⟨rfl, fun _ _ h => h⟩

omit [DecidableEq T] in
theorem flushEnter_isSome {data : Option PlayerData} {s s' : GameProcess T}
    (h : s.exec cfg t i (.repository (.flushEnter p)) = some (s', data)) :
    data.isSome = s.repository.isLoaded p := by
  obtain ⟨m, hm, -⟩ := exec_repository h
  simp only [PlayerRepository.exec, Option.ite_none_left_eq_some, Option.some.injEq] at hm
  obtain rfl : (s.repository.flushEnter t p).2 = data := congrArg Prod.snd hm.2
  unfold PlayerRepository.flushEnter PlayerRepository.isLoaded
  cases s.repository.players p with
  | none => rfl
  | some record => cases hloaded : record.loaded <;> simp [hloaded]

omit [DecidableEq T] in
theorem flushLeave_ok {stored flush : Result} {s s' : GameProcess T}
    (h : s.exec cfg t i (.repository (.flushLeave p stored)) = some (s', flush)) : flush.ok = stored.ok := by
  obtain ⟨m, hm, -⟩ := exec_repository h
  simp only [PlayerRepository.exec, Option.some.injEq] at hm
  obtain rfl : (s.repository.flushLeave p stored i.nowMs).2 = flush := congrArg Prod.snd hm
  unfold PlayerRepository.flushLeave
  cases hstored : stored.ok <;> rfl

/-- What a section keeps in which no scan says what it does. -/
theorem RetriesCounted.step (hI : RetriesCounted s) (ha : a.notes = false) (hok : admitsRetry t a s = true)
    (hx : (flushMachine cfg).exec t a i s = some (s', r)) : RetriesCounted s' ∧ ∀ u, FlushLog.Kept u s s' := by
  obtain ⟨hexec, hlog⟩ := flushMachine_exec hx
  cases a with
  | persistence b =>
      obtain ⟨m, hm, hs⟩ := exec_persistence hexec
      have hsame : s'.1.persistence.retryStates = s.1.persistence.retryStates := by
        rw [hs]
        cases b with
        | flushAttempt p now => cases ha
        | flushDone p now flush => cases ha
        | scanEnter now =>
            cases hm
            rfl
        | retryPending p now =>
            cases hm
            rfl
        | scanLeave tracked pendingInitialPersist createdWithoutMaria =>
            cases hm
            rfl
      refine hI.quiet (fun _ => ?_) (fun p => by simp) hsame hx
      cases b with
      | flushAttempt p now => cases ha
      | flushDone p now flush => cases ha
      | scanEnter now => rfl
      | retryPending p now => rfl
      | scanLeave tracked pendingInitialPersist createdWithoutMaria => rfl
  | repository b =>
      have hretry : s'.1.persistence.retryStates = s.1.persistence.retryStates := by
        rw [exec_persistence_frame rfl hexec]
      cases b with
      | release p => exact hI.release hok hx
      | flushEnter p =>
          have hloaded := flushEnter_isSome hexec
          simp only [FlushLog.record] at hlog
          simp only [admitsRetry, Bool.or_eq_true] at hok
          split at hlog
          · refine ⟨hI.of_log hretry (fun p => exec_isLoaded (by simp) hexec) ?_ ?_ ?_ ?_, fun u => ?_⟩
            iterate 4 rw [hlog]
            unfold FlushLog.Kept
            rw [hlog]
            exact ⟨rfl, fun _ _ h => h⟩
          · next hnone =>
            rw [hloaded] at hnone
            have hadmits := hok.resolve_left hnone
            exact ⟨hI.ended hadmits hretry (fun q => exec_isLoaded (by simp) hexec) hlog,
              kept_ended hadmits hlog⟩
      | flushLeave p stored =>
          simp only [FlushLog.record, flushLeave_ok hexec] at hlog
          exact ⟨hI.ended hok hretry (fun q => exec_isLoaded (by simp) hexec) hlog, kept_ended hok hlog⟩
      | _ => exact hI.quiet (fun _ => rfl) (fun p => by simp) hretry hx
  | _ => exact hI.quiet (fun _ => rfl) (fun p => by simp) (by rw [exec_persistence_frame rfl hexec]) hx

/-! ## The calls -/

variable {α : Type} {now : UInt64}

/-- Calls in which no scan says what it does. -/
theorem unnoted_safe {x : Call α} {v : Option PlayerId} (hx : x.All fun a => a.notes = false)
    (hs : s.2.attempting t = v) :
    retryOutline.Safe (flushMachine cfg) t o (fun _ s' => s'.2.attempting t = v) x s := by
  refine Outline.safe_of_all (K := fun s : GameProcess T × FlushLog T => s.2.attempting t = v) ?_ ?_
    (fun _ _ h => h) hx hs
  · intro _ s s' _ hkept hs
    exact hkept.1.trans hs
  · intro a i s s' r ha hI hs hok hx
    obtain ⟨hI', hkept⟩ := hI.step ha hok hx
    exact ⟨fun u _ => hkept u, hI', (hkept t).1.trans hs⟩

omit [DecidableEq T] in
/-- A scan's flush that ends is the only one of its player to be noted. -/
theorem ended_unnoted (hscan : s.2.attempting t = some p) (hok : admitsFlush t p ok s = true) :
    (s.2.ended t p ok).unnoted p = [(t, ok)] := by
  rw [admitsFlush, if_pos hscan, Bool.and_eq_true, List.isEmpty_iff] at hok
  simp [FlushLog.ended, hscan, hok.1]

/-- `FlushPlayer` in a scan. -/
theorem flushPlayer_counted (hs : s.2.attempting t = some p) :
    retryOutline.Safe (flushMachine cfg) t o
      (fun flush s' => s'.2.attempting t = some p ∧ s'.2.unnoted p = [(t, flush.ok)]) (flushPlayer p) s := by
  intro s₁ hrely hI i s₂ data hok hx
  obtain ⟨hexec, hlog⟩ := flushMachine_exec hx
  obtain ⟨hI₂, hkept⟩ := hI.step rfl hok hx
  have hs₁ : s₁.2.attempting t = some p := hrely.1.trans hs
  have hs₂ : s₂.2.attempting t = some p := (hkept t).1.trans hs₁
  refine ⟨fun u _ => hkept u, hI₂, ?_⟩
  have hloaded := flushEnter_isSome hexec
  cases data with
  | none =>
      refine ⟨hs₂, ?_⟩
      simp only [retryOutline, admitsRetry, ← hloaded, Option.isSome_none, Bool.false_or] at hok
      rw [hlog]
      exact ended_unnoted hs₁ hok
  | some data =>
      have hall := datasetPut_all (P := fun a => a.notes = false) (fun _ => rfl) p (.message data)
      show retryOutline.Safe _ t o _
        (datasetPut p (.message data) >>= fun stored => call (.repository (.flushLeave p stored))) s₂
      refine Outline.Safe.bind (Outline.Safe.mono (fun stored s₃ hs₃ => ?_) (unnoted_safe hall hs₂))
      intro s₄ hrely hI i s₅ flush hok hx
      obtain ⟨hexec, hlog⟩ := flushMachine_exec hx
      obtain ⟨hI₅, hkept⟩ := hI.step rfl hok hx
      have hs₄ : s₄.2.attempting t = some p := hrely.1.trans hs₃
      refine ⟨fun u _ => hkept u, hI₅, (hkept t).1.trans hs₄, ?_⟩
      have hflush := flushLeave_ok hexec
      rw [hlog]
      simp only [FlushLog.record, hflush]
      exact ended_unnoted hs₄ hok

/-- The outcome that was to be noted is noted. -/
theorem RetriesCounted.flushDone {flush : Result} {w : Unit} (hI : RetriesCounted s)
    (hunnoted : s.2.unnoted p = [(t, flush.ok)])
    (hx : (flushMachine cfg).exec t (.persistence (.flushDone p now flush)) i s = some (s', w)) :
    RetriesCounted s' ∧ (∀ u, u ≠ t → FlushLog.Kept u s s') ∧ s'.2.attempting t = none := by
  obtain ⟨hexec, hlog⟩ := flushMachine_exec hx
  obtain ⟨m, hm, hs⟩ := exec_persistence hexec
  obtain rfl : s.1.persistence.flushDone cfg p now flush = m := congrArg Prod.fst (Option.some.inj hm)
  have hpersistence : s'.1.persistence = s.1.persistence.flushDone cfg p now flush := by rw [hs]
  have hrepository : s'.1.repository = s.1.repository := by rw [hs]
  simp only [FlushLog.record] at hlog
  refine ⟨fun q => ?_, fun u hu => ⟨?_, fun q ok' hq => ?_⟩, ?_⟩
  · have hcount : notedCount s' q = notedCount s q := by
      by_cases hq : q = p
      · subst hq
        have hnone : s'.2.unnoted q = [] := by
          rw [hlog]
          simp [hunnoted]
        unfold notedCount
        rw [hnone, hunnoted]
        unfold retryCount
        rw [hpersistence]
        cases hflush : flush.ok <;> simp [PlayerPersistenceService.flushDone, hflush, noteFlush]
        cases s.1.persistence.retryStates q <;> rfl
      · refine notedCount_of_same ?_ ?_
        · rw [hpersistence]
          cases hflush : flush.ok <;> simp [PlayerPersistenceService.flushDone, hflush, hq]
        · rw [hlog]
          exact Function.update_of_ne hq ..
    rw [hcount]
    exact (hI q).of_same (by rw [hrepository]; exact id) (by rw [hlog]) (by rw [hlog]) (by rw [hlog])
  · rw [hlog]
    exact Function.update_of_ne hu ..
  · rw [hlog]
    by_cases hp : q = p
    · subst hp
      rw [hunnoted] at hq
      injection hq with hq
      exact absurd (congrArg Prod.fst hq).symm hu
    · exact (Function.update_of_ne hp ..).trans hq
  · rw [hlog]
    exact Function.update_self ..

/-- A call in which no scan says what it does, and what comes after it. -/
theorem unnoted_seq {β : Type} {x : Call β} {f : β → Call α} {Q : α → GameProcess T × FlushLog T → Prop}
    {v : Option PlayerId} (hx : x.All fun a => a.notes = false) (hs : s.2.attempting t = v)
    (hf : ∀ b s', s'.2.attempting t = v → retryOutline.Safe (flushMachine cfg) t o Q (f b) s') :
    retryOutline.Safe (flushMachine cfg) t o Q (x >>= f) s :=
  Outline.Safe.bind (Outline.Safe.mono (fun b s' hs' => hf b s' hs') (unnoted_safe hx hs))

theorem checkFlush_unnoted (repository : PlayerRepositoryRecord) (session : Option PlayerSessionRecord) :
    (checkFlush cfg p repository session now).All fun a => a.notes = false := by
  unfold checkFlush
  split
  · exact all_pure
  · exact all_seq rfl fun _ => all_pure

/-- The work of a scan on one player. -/
theorem scanPlayer_counted {repository : PlayerRepositoryRecord} {counts : ScanCounts}
    (hs : s.2.attempting t = none) :
    retryOutline.Safe (flushMachine cfg) t o (fun _ s' => s'.2.attempting t = none)
      (scanPlayer cfg p repository now counts) s := by
  refine unnoted_seq (all_call rfl) hs fun held s₁ hs₁ => ?_
  split
  · exact hs₁
  · refine unnoted_seq (all_call rfl) hs₁ fun session s₂ hs₂ => ?_
    refine unnoted_seq (checkFlush_unnoted repository session) hs₂ fun due s₃ hs₃ => ?_
    split
    · exact hs₃
    · -- the attempt is said, the player is flushed, and the outcome noted
      intro s₄ hrely hI i s₅ w hok hx
      obtain ⟨hexec, hlog⟩ := flushMachine_exec hx
      obtain ⟨m, hm, hs⟩ := exec_persistence hexec
      simp only [PlayerPersistenceService.exec, Option.some.injEq, Prod.mk.injEq] at hm
      have hI₅ : RetriesCounted s₅ := by
        refine RetriesCounted.of_log hI ?_ ?_ ?_ ?_ ?_ ?_
        · rw [hs, ← hm.1]
        · rw [hs]
          exact fun _ h => h
        iterate 4 rw [hlog]; rfl
      refine ⟨fun u hu => ⟨?_, fun q ok hq => ?_⟩, hI₅, ?_⟩
      · rw [hlog]
        exact Function.update_of_ne hu ..
      · rw [hlog]
        exact hq
      have hs₅ : s₅.2.attempting t = some p := by
        rw [hlog]
        exact Function.update_self ..
      show retryOutline.Safe _ t o _ (flushPlayer p >>= fun flush => do
        call (.persistence (.flushDone p now flush))
        if !flush.ok then return counts
        return counts.flush repository) s₅
      refine Outline.Safe.bind (Outline.Safe.mono (fun flush s₆ hs₆ => ?_) (flushPlayer_counted hs₅))
      intro s₇ hrely hI i s₈ w _ hx
      obtain ⟨hI₈, hkept, hs₈⟩ := RetriesCounted.flushDone hI (hrely.2 p flush.ok hs₆.2) hx
      refine ⟨hkept, hI₈, ?_⟩
      dsimp only [Prog.bind]
      split
      · exact hs₈
      · exact hs₈

theorem scanAll_counted (players : List PlayerId) (counts : ScanCounts) (hs : s.2.attempting t = none) :
    retryOutline.Safe (flushMachine cfg) t o (fun _ s' => s'.2.attempting t = none)
      (scanAll cfg now players counts) s := by
  induction players generalizing s counts with
  | nil => exact hs
  | cons p rest ih =>
      refine unnoted_seq (all_call rfl) hs fun record s₁ hs₁ => ?_
      split
      · exact ih counts hs₁
      · exact Outline.Safe.bind (Outline.Safe.mono (fun counts s₂ hs₂ => ih counts hs₂) (scanPlayer_counted hs₁))

theorem flushDuePlayersOnce_counted (order : List PlayerId) (hs : s.2.attempting t = none) :
    retryOutline.Safe (flushMachine cfg) t o (fun _ s' => s'.2.attempting t = none)
      (flushDuePlayersOnce cfg order) s := by
  refine unnoted_seq (all_call rfl) hs fun now s₁ hs₁ => ?_
  refine unnoted_seq (all_call rfl) hs₁ fun _ s₂ hs₂ => ?_
  refine unnoted_seq (all_call rfl) hs₂ fun players s₃ hs₃ => ?_
  refine Outline.Safe.bind (Outline.Safe.mono (fun counts s₄ hs₄ => ?_) (scanAll_counted players {} hs₃))
  exact unnoted_seq (all_call rfl) hs₄ fun _ s₅ hs₅ => hs₅

theorem Op.code_counted (fuel : Nat) (hs : s.2.attempting t = none) :
    retryOutline.Safe (flushMachine cfg) t o (fun _ s' => s'.2.attempting t = none) (o.code cfg fuel) s := by
  by_cases hscan : ∃ order, o = .flushDue order
  · obtain ⟨order, rfl⟩ := hscan
    exact Outline.Safe.bind (Outline.Safe.mono (fun _ _ h => h) (flushDuePlayersOnce_counted order hs))
  · have hall : (o.code cfg fuel).All fun a => a.schedules = false :=
      code_unscheduled fuel fun order h => hscan ⟨order, h⟩
    refine unnoted_safe (hall.mono fun a ha => ?_) hs
    cases a with
    | persistence b => cases ha
    | _ => rfl

theorem retries_proved (fuel : Nat) :
    retryOutline.Proved (flushMachine cfg) (fun (_ : T) o => o.code cfg fuel)
      (fun c m => retryGuard c m = true) (fun _ _ _ _ => True) where
  start _ _ _ _ _ := trivial
  ok c t o a k i hg _ ht := by
    simp only [retryGuard, ht] at hg
    exact hg
  safe t o s _ hrest _ := (Op.code_counted fuel hrest).mono fun _ _ h => ⟨trivial, h⟩
  compatible _ _ _ _ _ _ _ _ _ _ _ _ hevent u hu := hevent u hu

/-! ## Every run -/

omit [DecidableEq T] in
theorem RetriesCounted.retriesMatch (hI : RetriesCounted s) : RetriesMatch s := by
  intro p retry hunnoted hretry
  have hp := hI p
  have hcount : notedCount s p = some retry.consecutiveFailureCount := by
    unfold notedCount retryCount
    rw [hunnoted, hretry]
    rfl
  rw [hcount] at hp
  exact ⟨hp.1, hp.2.1, hp.2.2.1⟩

/-- **The retry records are right** as long as nobody flushes or releases a player behind the scheduler's back. -/
theorem retries_counted {fuel : Nat} {process : GameProcess T}
    {c : Pool T Op Act Act.Reply OpResult (GameProcess T × FlushLog T)} (hfresh : process.persistence = {})
    (h : Run (flushMachine cfg) (fun _ o => o.code cfg fuel) (fun c m => retryGuard c m = true)
      (Pool.initial (process, {})) c) : RetriesMatch c.shared := by
  have hI : RetriesCounted (process, ({} : FlushLog T)) := by
    intro p
    unfold notedCount retryCount
    rw [hfresh]
    exact .inr rfl
  have hgood := (retries_proved (T := T) fuel).sound (Outline.good_initial hI fun _ => rfl) h
  exact RetriesCounted.retriesMatch hgood.1

/-- A process with one thread, before anything has happened. -/
def soloFlusher : Pool Unit Op Act Act.Reply OpResult (GameProcess Unit × FlushLog Unit) :=
  Pool.initial ({ ipc := { self := some ⟨⟨10, 1⟩, 1⟩ } }, {})

/-- Player 7 logs in for the first time, and a scan finds that MariaDB does not answer. -/
def failedScan : List (Move Unit Op Env) :=
  .start () (.activate 7 ⟨20, 1, 5⟩ true) :: sections 11 (emptyServers 1000) ++
    .start () (.flushDue [7]) :: sections 12 (withoutMaria 2000)

/-- The failure is counted. -/
theorem retries_counted_once :
    ∃ c, soloFlusher.play (flushMachine soloGame) (fun _ o => o.code soloGame 0) retryGuard failedScan = some c ∧
      c.shared.2.failures 7 = 1 ∧ (c.shared.1.persistence.retryStates 7).isSome = true ∧ RetriesMatch c.shared := by
  have hend : (soloFlusher.play (flushMachine soloGame) (fun _ o => o.code soloGame 0) retryGuard failedScan).map
      (fun c => (c.shared.2.failures 7, (c.shared.1.persistence.retryStates 7).isSome)) = some (1, true) := rfl
  obtain ⟨c, hc, hfields⟩ := Option.map_eq_some_iff.1 hend
  obtain ⟨hfailures, hretry⟩ := Prod.mk.inj hfields
  exact ⟨c, hc, hfailures, hretry, retries_counted rfl (Run.refl.play (fun _ _ h => h) hc)⟩

/-- MariaDB answers again, and the player is released: it is flushed, and gone, and still has its record. -/
theorem retries_outlive_player :
    ∃ c, Run (flushMachine soloGame) (fun _ o => o.code soloGame 0) (fun _ _ => True) soloFlusher c ∧
      ¬ RetriesMatch c.shared := by
  have hend : (soloFlusher.play (flushMachine soloGame) (fun _ o => o.code soloGame 0) (fun _ _ => true)
      (failedScan ++ .start () (.release 7) :: sections 12 (emptyServers 3000))).map
        (fun c => (c.shared.2.unnoted 7, (c.shared.1.persistence.retryStates 7).isSome,
          c.shared.1.repository.isLoaded 7)) = some ([], true, false) := rfl
  obtain ⟨c, hc, hfields⟩ := Option.map_eq_some_iff.1 hend
  simp only [Prod.mk.injEq] at hfields
  obtain ⟨hunnoted, hsome, hunloaded⟩ := hfields
  obtain ⟨retry, hretry⟩ := Option.isSome_iff_exists.1 hsome
  refine ⟨c, Run.refl.play (fun _ _ _ => trivial) hc, fun hmatch => ?_⟩
  have hloaded := (hmatch 7 retry hunnoted hretry).1
  rw [hunloaded] at hloaded
  cases hloaded

end GameProcess

end SomeServer
