/-
# SomeServer.Discovery.Threads — who does what in a process

What a step of a thread does to the watch, and to the mutex, task by task: most tasks leave the watch alone
(`perform_same`), and for the others there is a lemma for each piece of data that they change. `Staffed` is
what the threads of a process are at all times: everyone does what is theirs to do, there is one watch thread
at most, and whoever is to give the mutex back holds it.
-/
import SomeServer.Discovery.Etcd

namespace SomeServer

open Lib

variable {P A : Type}

namespace DiscoveryTask

/-- Who has which tasks before them. -/
def allowed : DiscoveryThread A → DiscoveryTask → Bool
  | .caller _, watchLoop | .caller _, waitForWatchEvent | .caller _, leaveWatchLoop | .caller _, streamClosed
  | .caller _, pause | .caller _, finishWatchLoop | .caller _, openStream | .caller _, readStream
  | .caller _, finishStream _ | .caller _, clearWatchRunning _ | .caller _, pushWatchResult _ => false
  | .caller _, expire _ | .caller _, endProcess => false
  | .caller _, _ => true
  | .watch _, refreshSnapshot starting => !starting
  | .watch _, applySnapshot .. | .watch _, refreshFailed | .watch _, stopBackend | .watch _, joinStream _
  | .watch _, unlock | .watch _, watchLoop | .watch _, waitForWatchEvent | .watch _, leaveWatchLoop
  | .watch _, streamClosed | .watch _, pause | .watch _, finishWatchLoop => true
  | .stream _, openStream | .stream _, readStream | .stream _, finishStream _ | .stream _, clearWatchRunning _
  | .stream _, pushWatchResult _ => true
  | .outside, expire _ | .outside, endProcess => true
  | _, _ => false

/-- The tasks that change what the watch is about. -/
def moves : DiscoveryTask → Bool
  | startWatch | assignWatchThread | stopWatch | joinWatchThread | stopBackend | watchLoop | waitForWatchEvent
  | clearWatchRunning _ | pushWatchResult _ => true
  | _ => false

/-- The task that gives the mutex back. -/
def unlocks : DiscoveryTask → Bool
  | unlock => true
  | _ => false

theorem unlocks_iff {k : DiscoveryTask} : k.unlocks = true ↔ k = .unlock := by
  cases k <;> simp [unlocks]

/-- The tasks that stop the stream. -/
def stops : DiscoveryTask → Bool
  | stopBackend | joinStream _ => true
  | _ => false

end DiscoveryTask

namespace EtcdDiscovery

variable [DecidableEq P] {cfg : DiscoveryConfig P} {p : P} {free : DiscoveryThread A → Bool} {t u : DiscoveryThread A}
  {i : DiscoveryInput} {e : Etcd P} {d : EtcdDiscovery A} {k k' : DiscoveryTask} {rest : List DiscoveryTask}
  {r : Performed (DiscoveryThread A) DiscoveryTask (Etcd P × EtcdDiscovery A)} {n m : Nat} {a : A}

/-- What is left of the watch's data as it was. -/
structure Same (d d' : EtcdDiscovery A) : Prop where
  terminated : d'.terminated = d.terminated
  stopWatch : d'.stopWatch = d.stopWatch
  stopCalled : d'.stopCalled = d.stopCalled
  watchThread : d'.watchThread = d.watchThread
  watches : d'.watches = d.watches
  backend : d'.backend = d.backend

/-- The other tasks leave the watch alone, and start nothing. -/
theorem perform_same (h : k.perform cfg p free t i e d = some r) (hk : k.moves = false) :
    Same d r.shared.2 ∧ r.started = none := by
  cases k with
  | startWatch | assignWatchThread | stopWatch | joinWatchThread | stopBackend | watchLoop | waitForWatchEvent
  | clearWatchRunning _ | pushWatchResult _ => cases hk
  | grantLease self retry =>
      rcases perform_grantLease h with rfl | ⟨e', -, rfl⟩
      · exact ⟨⟨rfl, rfl, rfl, rfl, rfl, rfl⟩, rfl⟩
      · exact ⟨⟨rfl, rfl, rfl, rfl, rfl, rfl⟩, rfl⟩
  | _ =>
      simp only [DiscoveryTask.perform] at h
      (repeat' split at h) <;> first
        | (obtain rfl := Option.some.inj h; exact ⟨⟨rfl, rfl, rfl, rfl, rfl, rfl⟩, rfl⟩)
        | contradiction

/-- A thread goes on to tasks that it may have. -/
theorem perform_allowed (h : k.perform cfg p free t i e d = some r) (hk : k.allowed t = true) (hmem : k' ∈ r.tasks) :
    k'.allowed t = true := by
  cases k with
  | grantLease self retry =>
      rcases perform_grantLease h with rfl | ⟨e', -, rfl⟩
      · cases hmem
      · obtain rfl := List.mem_singleton.mp hmem
        cases t <;> first | rfl | cases hk
  | refreshSnapshot starting =>
      obtain rfl := Option.some.inj h
      rcases mem_refreshTasks hmem with rfl | ⟨view, revision, since, rfl⟩ | ⟨rfl, rfl | rfl⟩
      all_goals cases t <;> first | rfl | cases hk
  | stopBackend =>
      obtain rfl := Option.some.inj h
      obtain ⟨n, -, rfl⟩ := List.mem_map.mp hmem
      cases t <;> first | rfl | cases hk
  | _ =>
      simp only [DiscoveryTask.perform] at h
      (repeat' split at h) <;> first
        | (obtain rfl := Option.some.inj h; cases t <;> simp_all [DiscoveryTask.allowed]; done)
        | (obtain rfl := Option.some.inj h; cases t <;> grind [DiscoveryTask.allowed])
        | contradiction

/-- The section of `StartWatch`. -/
theorem perform_startWatch (h : DiscoveryTask.startWatch.perform cfg p free t i e d = some r) :
    d.mutex = none ∧
      ((d.watchThread ≠ none ∧ r = { shared := (e, { d with stopCalled := false }) }) ∨
        (d.watchThread = none ∧ r =
          { shared := (e, { d with stopWatch := false, stopCalled := false }), tasks := [.refreshSnapshot true] })) := by
  simp only [DiscoveryTask.perform] at h
  split at h
  · cases h
  · rename_i hfree
    refine ⟨not_not.mp hfree, ?_⟩
    split at h
    · rename_i hthread
      exact .inl ⟨Option.isSome_iff_ne_none.mp hthread, (Option.some.inj h).symm⟩
    · rename_i hthread
      exact .inr ⟨Option.not_isSome_iff_eq_none.mp hthread, (Option.some.inj h).symm⟩

/-- The section of `StopWatch` begins. -/
theorem perform_stopWatch (h : DiscoveryTask.stopWatch.perform cfg p free t i e d = some r) :
    d.mutex = none ∧ r =
      { shared := (e, { d with mutex := some t, stopWatch := true, stopCalled := true })
        tasks := [.stopBackend, .unlock, .joinWatchThread] } := by
  simp only [DiscoveryTask.perform] at h
  split at h
  · cases h
  · rename_i hfree
    exact ⟨not_not.mp hfree, (Option.some.inj h).symm⟩

/-- A thread is joined when it has nothing more to do. -/
theorem perform_joinWatchThread (h : DiscoveryTask.joinWatchThread.perform cfg p free t i e d = some r) :
    (d.watchThread = none ∧ r = { shared := (e, d) }) ∨
      ∃ n, d.watchThread = some n ∧ free (.watch n) = true ∧ r = { shared := (e, { d with watchThread := none }) } := by
  simp only [DiscoveryTask.perform] at h
  split at h
  · rename_i hthread
    exact .inl ⟨hthread, (Option.some.inj h).symm⟩
  · rename_i n hthread
    split at h
    · rename_i hfree
      exact .inr ⟨n, hthread, hfree, (Option.some.inj h).symm⟩
    · cases h

/-- Whom a step starts. -/
theorem perform_started (h : k.perform cfg p free t i e d = some r) :
    (r.started = none ∧ r.shared.2.watches = d.watches ∧ r.shared.2.backend.streams = d.backend.streams) ∨
      (k = .assignWatchThread ∧ r.started = some (.watch d.watches, [.watchLoop]) ∧
        r.shared.2 = { d with watchThread := some d.watches, watches := d.watches + 1 }) ∨
      (k = .watchLoop ∧ r.started = some (.stream d.backend.streams, [.openStream]) ∧
        d.mutex = none ∧ d.stopWatch = false ∧ d.backend.watchRunning = false ∧ d.backend.watchThread = none ∧
        r.tasks = [.waitForWatchEvent] ∧ r.shared.2 = { d with backend := d.backend.startWatchPrefix }) := by
  by_cases hk : k.moves = true
  · cases k with
    | assignWatchThread =>
        simp only [DiscoveryTask.perform] at h
        split at h
        · obtain rfl := Option.some.inj h
          exact .inl ⟨rfl, rfl, rfl⟩
        · obtain rfl := Option.some.inj h
          exact .inr (.inl ⟨rfl, rfl, rfl⟩)
    | watchLoop =>
        simp only [DiscoveryTask.perform] at h
        (repeat' split at h) <;> first
          | (obtain rfl := Option.some.inj h; exact .inl ⟨rfl, rfl, rfl⟩)
          | (cases h; done)
          | skip
        rename_i hmutex hstop hrunning hthread
        obtain rfl := Option.some.inj h
        exact .inr (.inr ⟨rfl, rfl, not_not.mp hmutex, Bool.not_eq_true _ ▸ hstop, Bool.not_eq_true _ ▸ hrunning,
          Option.not_isSome_iff_eq_none.mp hthread, rfl, rfl⟩)
    | startWatch | stopWatch | joinWatchThread | stopBackend | waitForWatchEvent | clearWatchRunning _
    | pushWatchResult _ =>
        simp only [DiscoveryTask.perform] at h
        (repeat' split at h) <;> first
          | (obtain rfl := Option.some.inj h; exact .inl ⟨rfl, rfl, rfl⟩)
          | contradiction
    | _ => cases hk
  · have hsame := perform_same h (Bool.not_eq_true _ ▸ hk)
    exact .inl ⟨hsame.2, hsame.1.watches, congrArg EtcdSdkDiscoveryBackend.streams hsame.1.backend⟩

/-- A watch thread is started for the handle. -/
theorem started_watch {first : List DiscoveryTask} (h : k.perform cfg p free t i e d = some r)
    (hfirst : r.started = some (.watch n, first)) :
    n = d.watches ∧ r.shared.2 = { d with watchThread := some d.watches, watches := d.watches + 1 } := by
  rcases perform_started h with ⟨hnone, -⟩ | ⟨-, hwatch, hd⟩ | ⟨-, hstream, -⟩
  · rw [hnone] at hfirst
    cases hfirst
  · rw [hwatch] at hfirst
    cases hfirst
    exact ⟨rfl, hd⟩
  · rw [hstream] at hfirst
    cases hfirst

/-- The thread of a stream is started by the backend. -/
theorem started_stream {first : List DiscoveryTask} (h : k.perform cfg p free t i e d = some r)
    (hfirst : r.started = some (.stream m, first)) :
    m = d.backend.streams ∧ r.shared.2 = { d with backend := d.backend.startWatchPrefix } := by
  rcases perform_started h with ⟨hnone, -⟩ | ⟨-, hwatch, -⟩ | ⟨-, hstream, -, -, -, -, -, hd⟩
  · rw [hnone] at hfirst
    cases hfirst
  · rw [hwatch] at hfirst
    cases hfirst
  · rw [hstream] at hfirst
    cases hfirst
    exact ⟨rfl, hd⟩

/-- What is started has nothing to give back. -/
theorem unlock_notMem_started {first : List DiscoveryTask} (h : k.perform cfg p free t i e d = some r)
    (hfirst : r.started = some (u, first)) : .unlock ∉ first := by
  rcases started_cases h hfirst with ⟨-, -, rfl⟩ | ⟨-, -, rfl⟩ <;> simp

/-- The mutex is taken when it is free, and whoever gets `unlock` before it has taken it. -/
theorem perform_mutex (h : k.perform cfg p free t i e d = some r) (hk : k ≠ .unlock) :
    (r.shared.2.mutex = d.mutex ∧ .unlock ∉ r.tasks) ∨
      (d.mutex = none ∧ r.shared.2.mutex = some t ∧ r.tasks.countP DiscoveryTask.unlocks ≤ 1) := by
  cases k with
  | unlock => exact absurd rfl hk
  | grantLease self retry =>
      rcases perform_grantLease h with rfl | ⟨e', -, rfl⟩
      · exact .inl ⟨rfl, by simp⟩
      · exact .inl ⟨rfl, by simp⟩
  | refreshSnapshot starting =>
      obtain rfl := Option.some.inj h
      refine .inl ⟨rfl, fun hmem => ?_⟩
      rcases mem_refreshTasks hmem with hk | ⟨view, revision, since, hk⟩ | ⟨-, hk | hk⟩ <;> cases hk
  | _ =>
      simp only [DiscoveryTask.perform] at h
      (repeat' split at h) <;> first
        | (obtain rfl := Option.some.inj h; exact .inl ⟨rfl, by simp⟩)
        | (obtain rfl := Option.some.inj h; exact .inr ⟨not_not.mp ‹_›, rfl, Nat.le_refl 1⟩)
        | contradiction

/-- What stops the stream comes from the section of `StopWatch`, or from the watch thread. -/
theorem perform_stops (h : k.perform cfg p free t i e d = some r) (hmem : k' ∈ r.tasks) (hk' : k'.stops = true) :
    k = .stopWatch ∨ (k = .stopBackend ∧ ∃ m, k' = .joinStream m ∧ d.backend.watchThread = some m) ∨
      (k' = .stopBackend ∧ (k = .streamClosed ∨ k = .finishWatchLoop)) := by
  cases k with
  | stopWatch => exact .inl rfl
  | stopBackend =>
      obtain rfl := Option.some.inj h
      obtain ⟨m, hm, rfl⟩ := List.mem_map.mp hmem
      exact .inr (.inl ⟨rfl, m, rfl, by simpa using hm⟩)
  | grantLease self retry =>
      rcases perform_grantLease h with rfl | ⟨e', -, rfl⟩
      · cases hmem
      · obtain rfl := List.mem_singleton.mp hmem
        cases hk'
  | refreshSnapshot starting =>
      obtain rfl := Option.some.inj h
      rcases mem_refreshTasks hmem with rfl | ⟨view, revision, since, rfl⟩ | ⟨-, rfl | rfl⟩ <;> cases hk'
  | _ =>
      simp only [DiscoveryTask.perform] at h
      (repeat' split at h) <;> first
        | (obtain rfl := Option.some.inj h; simp_all [DiscoveryTask.stops]; done)
        | (obtain rfl := Option.some.inj h; grind [DiscoveryTask.stops])
        | contradiction

/-- Nothing stops the stream after the mutex has been given back. -/
theorem perform_ordered (h : k.perform cfg p free t i e d = some r) :
    r.tasks.Pairwise fun k k' => k = .unlock → k'.stops = false := by
  cases k with
  | grantLease self retry =>
      rcases perform_grantLease h with rfl | ⟨e', -, rfl⟩
      · exact .nil
      · exact List.pairwise_singleton _ _
  | refreshSnapshot starting =>
      obtain rfl := Option.some.inj h
      apply List.pairwise_of_forall_mem_list
      rintro k hk k' - rfl
      rcases mem_refreshTasks hk with hk | ⟨view, revision, since, hk⟩ | ⟨-, hk | hk⟩ <;> cases hk
  | stopBackend =>
      obtain rfl := Option.some.inj h
      cases hthread : d.backend.watchThread <;> simp
  | clearWatchRunning result =>
      obtain rfl := Option.some.inj h
      cases result <;> simp
  | _ =>
      simp only [DiscoveryTask.perform] at h
      (repeat' split at h) <;> first
        | (obtain rfl := Option.some.inj h; simp [DiscoveryTask.stops])
        | contradiction

/-- When a step takes the process down. -/
theorem perform_terminated (h : k.perform cfg p free t i e d = some r) (hd : d.terminated = false)
    (hr : r.shared.2.terminated = true) :
    (k = .assignWatchThread ∧ d.watchThread ≠ none) ∨
      (k = .watchLoop ∧ d.stopWatch = false ∧ d.backend.watchThread ≠ none) := by
  by_cases hk : k.moves = true
  · cases k with
    | assignWatchThread =>
        simp only [DiscoveryTask.perform] at h
        split at h
        · rename_i hthread
          exact .inl ⟨rfl, Option.isSome_iff_ne_none.mp hthread⟩
        · obtain rfl := Option.some.inj h
          exact (Bool.false_ne_true (hd.symm.trans hr)).elim
    | watchLoop =>
        simp only [DiscoveryTask.perform] at h
        (repeat' split at h) <;> first
          | (obtain rfl := Option.some.inj h; exact (Bool.false_ne_true (hd.symm.trans hr)).elim)
          | (cases h; done)
          | skip
        rename_i hmutex hstop hrunning hthread
        exact .inr ⟨rfl, Bool.not_eq_true _ ▸ hstop, Option.isSome_iff_ne_none.mp hthread⟩
    | startWatch | stopWatch | joinWatchThread | stopBackend | waitForWatchEvent | clearWatchRunning _
    | pushWatchResult _ =>
        simp only [DiscoveryTask.perform] at h
        (repeat' split at h) <;> first
          | (obtain rfl := Option.some.inj h; exact (Bool.false_ne_true (hd.symm.trans hr)).elim)
          | contradiction
    | _ => cases hk
  · rw [(perform_same h (Bool.not_eq_true _ ▸ hk)).1.terminated, hd] at hr
    cases hr

/-- `StartWatch` and `StopWatch` alone say whether the watch is stopped. -/
theorem perform_flags (h : k.perform cfg p free t i e d = some r) (hstart : k ≠ .startWatch) (hstop : k ≠ .stopWatch) :
    r.shared.2.stopWatch = d.stopWatch ∧ r.shared.2.stopCalled = d.stopCalled := by
  by_cases hk : k.moves = true
  · cases k with
    | startWatch => exact absurd rfl hstart
    | stopWatch => exact absurd rfl hstop
    | assignWatchThread | joinWatchThread | stopBackend | watchLoop | waitForWatchEvent | clearWatchRunning _
    | pushWatchResult _ =>
        simp only [DiscoveryTask.perform] at h
        (repeat' split at h) <;> first
          | (obtain rfl := Option.some.inj h; exact ⟨rfl, rfl⟩)
          | contradiction
    | _ => cases hk
  · have hsame := (perform_same h (Bool.not_eq_true _ ▸ hk)).1
    exact ⟨hsame.stopWatch, hsame.stopCalled⟩

/-- The watch stays stopped while `StopWatch` has the mutex. -/
theorem stays_stopped (h : k.perform cfg p free t i e d = some r) (hcalled : d.stopCalled = true)
    (hheld : d.mutex ≠ none) : r.shared.2.stopCalled = true := by
  have hstart : k ≠ .startWatch := by
    rintro rfl
    exact hheld (perform_startWatch h).1
  have hstop : k ≠ .stopWatch := by
    rintro rfl
    exact hheld (perform_stopWatch h).1
  rw [(perform_flags h hstart hstop).2]
  exact hcalled

/-- The handle of the watch thread is set when it is started and cleared when it is joined. -/
theorem perform_handle (h : k.perform cfg p free t i e d = some r) (hassign : k ≠ .assignWatchThread)
    (hjoin : k ≠ .joinWatchThread) : r.shared.2.watchThread = d.watchThread := by
  by_cases hk : k.moves = true
  · cases k with
    | assignWatchThread => exact absurd rfl hassign
    | joinWatchThread => exact absurd rfl hjoin
    | startWatch | stopWatch | stopBackend | watchLoop | waitForWatchEvent | clearWatchRunning _
    | pushWatchResult _ =>
        simp only [DiscoveryTask.perform] at h
        (repeat' split at h) <;> first
          | (obtain rfl := Option.some.inj h; rfl)
          | contradiction
    | _ => cases hk
  · exact (perform_same h (Bool.not_eq_true _ ▸ hk)).1.watchThread

/-- The stream's thread and its flag, when the step neither starts nor stops a stream. -/
theorem perform_stream (h : k.perform cfg p free t i e d = some r) (hstop : k ≠ .stopBackend) :
    (k = .watchLoop ∧ r.started = some (.stream d.backend.streams, [.openStream])) ∨
      (r.shared.2.backend.watchThread = d.backend.watchThread ∧
        (d.backend.watchRunning = false → r.shared.2.backend.watchRunning = false)) := by
  by_cases hk : k.moves = true
  · cases k with
    | stopBackend => exact absurd rfl hstop
    | startWatch | stopWatch | assignWatchThread | joinWatchThread | watchLoop | waitForWatchEvent
    | clearWatchRunning _ | pushWatchResult _ =>
        simp only [DiscoveryTask.perform] at h
        (repeat' split at h) <;> first
          | (obtain rfl := Option.some.inj h; exact .inr ⟨rfl, fun hrunning => by first | rfl | exact hrunning⟩)
          | (obtain rfl := Option.some.inj h; exact .inl ⟨rfl, rfl⟩)
          | contradiction
    | _ => cases hk
  · have hsame := (perform_same h (Bool.not_eq_true _ ▸ hk)).1
    rw [hsame.backend]
    exact .inr ⟨rfl, id⟩

/-! ### The threads of a process -/

variable {c : DiscoveryCrew P A}

/-- There are no more threads than have been started, one watch thread at most, and every thread does what is
its to do; the mutex is held by the thread that is to give it back. -/
structure Staffed (c : DiscoveryCrew P A) : Prop where
  watches : ∀ n, c.shared.2.watches ≤ n → c.tasks (.watch n) = []
  streams : ∀ m, c.shared.2.backend.streams ≤ m → c.tasks (.stream m) = []
  single : ∀ n, c.tasks (.watch n) ≠ [] → c.shared.2.watchThread = some n
  allowed : ∀ t, ∀ k ∈ c.tasks t, k.allowed t = true
  holder : ∀ t, .unlock ∈ c.tasks t → c.shared.2.mutex = some t
  once : ∀ t, (c.tasks t).countP DiscoveryTask.unlocks ≤ 1

section Staffed

variable [DecidableEq A] (h : Staffed c) (ht : c.tasks t = k :: rest)
  (hp : k.perform cfg p c.free t i c.shared.1 c.shared.2 = some r)

omit [DecidableEq P] [DecidableEq A] in
theorem Staffed.own (h : Staffed c) (ht : c.tasks t = k :: rest) : k.allowed t = true :=
  h.allowed t k (by rw [ht]; exact List.mem_cons_self)

include h hp

omit [DecidableEq A] in
theorem Staffed.fresh : c.Fresh r := by
  intro u first hfirst
  rcases started_cases hp hfirst with ⟨-, rfl, -⟩ | ⟨-, rfl, -⟩
  · exact h.watches _ (Nat.le_refl _)
  · exact h.streams _ (Nat.le_refl _)

omit [DecidableEq A] h in
theorem counts_le : c.shared.2.watches ≤ r.shared.2.watches ∧
    c.shared.2.backend.streams ≤ r.shared.2.backend.streams := by
  rcases perform_started hp with ⟨-, hwatches, hstreams⟩ | ⟨-, -, hr⟩ | ⟨-, -, -, -, -, -, -, hr⟩
  · rw [hwatches, hstreams]
    exact ⟨Nat.le_refl _, Nat.le_refl _⟩
  · rw [hr]
    exact ⟨Nat.le_succ _, Nat.le_refl _⟩
  · rw [hr]
    exact ⟨Nat.le_refl _, Nat.le_succ _⟩

include ht

theorem Staffed.after_watches (hn : r.shared.2.watches ≤ n) : (c.after t rest r).tasks (.watch n) = [] := by
  have hbefore : c.tasks (.watch n) = [] := h.watches n ((counts_le hp).1.trans hn)
  by_contra hbusy
  obtain ⟨first, hfirst⟩ := Crew.started_of_idle ht hbefore hbusy
  obtain ⟨rfl, hd⟩ := started_watch hp hfirst
  rw [hd] at hn
  exact Nat.not_succ_le_self _ hn

theorem Staffed.after_streams (hm : r.shared.2.backend.streams ≤ m) : (c.after t rest r).tasks (.stream m) = [] := by
  have hbefore : c.tasks (.stream m) = [] := h.streams m ((counts_le hp).2.trans hm)
  by_contra hbusy
  obtain ⟨first, hfirst⟩ := Crew.started_of_idle ht hbefore hbusy
  obtain ⟨rfl, hd⟩ := started_stream hp hfirst
  rw [hd] at hm
  exact Nat.not_succ_le_self _ hm

/-- A watch thread that there is after the step is the one of the handle. -/
theorem Staffed.after_single (hg : ∀ rest, c.tasks t = .assignWatchThread :: rest → c.shared.2.watchThread = none)
    (hn : (c.after t rest r).tasks (.watch n) ≠ []) : r.shared.2.watchThread = some n := by
  obtain ⟨k', hk'⟩ := List.exists_mem_of_ne_nil _ hn
  have hbefore : (∃ first, r.started = some (.watch n, first)) ∨ c.shared.2.watchThread = some n := by
    rcases Crew.mem_after hk' with ⟨rfl, -⟩ | ⟨-, hold⟩ | ⟨first, hfirst, -⟩
    · exact .inr (h.single n (by rw [ht]; exact List.cons_ne_nil _ _))
    · exact .inr (h.single n (List.ne_nil_of_mem hold))
    · exact .inl ⟨first, hfirst⟩
  rcases hbefore with ⟨first, hfirst⟩ | hhandle
  · obtain ⟨rfl, hd⟩ := started_watch hp hfirst
    rw [hd]
  · by_cases hassign : k = .assignWatchThread
    · rw [hg rest (hassign ▸ ht)] at hhandle
      cases hhandle
    · by_cases hjoin : k = .joinWatchThread
      · subst hjoin
        obtain ⟨hnone, -⟩ | ⟨n', hn', hfree, rfl⟩ := perform_joinWatchThread hp
        · rw [hnone] at hhandle
          cases hhandle
        · -- What is joined has nothing before it, and the joiner is not the one.
          obtain rfl : n' = n := Option.some.inj (hn'.symm.trans hhandle)
          exfalso
          have hempty := Crew.free_iff.mp hfree
          rcases Crew.mem_after hk' with ⟨rfl, -⟩ | ⟨-, hold⟩ | ⟨first, hfirst, -⟩
          · rw [ht] at hempty
            cases hempty
          · rw [hempty] at hold
            cases hold
          · cases hfirst
      · rw [perform_handle hp hassign hjoin]
        exact hhandle

theorem Staffed.after_allowed (hk' : k' ∈ (c.after t rest r).tasks u) : k'.allowed u = true := by
  rcases Crew.mem_after hk' with ⟨rfl, hnew | hrest⟩ | ⟨-, hold⟩ | ⟨first, hfirst, hin⟩
  · exact perform_allowed hp (h.own ht) hnew
  · exact h.allowed u k' (by rw [ht]; exact List.mem_cons_of_mem _ hrest)
  · exact h.allowed u k' hold
  · rcases started_cases hp hfirst with ⟨-, rfl, rfl⟩ | ⟨-, rfl, rfl⟩ <;>
      rw [List.mem_singleton.mp hin] <;> rfl

theorem Staffed.after_holder (hu : .unlock ∈ (c.after t rest r).tasks u) : r.shared.2.mutex = some u := by
  by_cases hk : k = .unlock
  · subst hk
    have hown : c.shared.2.mutex = some t := h.holder t (by rw [ht]; exact List.mem_cons_self)
    exfalso
    rcases Crew.mem_after hu with ⟨rfl, hnew | hrest⟩ | ⟨hne, hold⟩ | ⟨first, hfirst, hin⟩
    · obtain rfl := Option.some.inj hp
      cases hnew
    · have honce := h.once u
      rw [ht, List.countP_cons_of_pos rfl] at honce
      have hpos : 0 < rest.countP DiscoveryTask.unlocks := List.countP_pos_iff.mpr ⟨_, hrest, rfl⟩
      omega
    · exact hne (Option.some.inj ((h.holder u hold).symm.trans hown))
    · exact unlock_notMem_started hp hfirst hin
  · rcases perform_mutex hp hk with ⟨hsame, hnot⟩ | ⟨hfree, htaken, -⟩
    · rw [hsame]
      rcases Crew.mem_after hu with ⟨rfl, hnew | hrest⟩ | ⟨-, hold⟩ | ⟨first, hfirst, hin⟩
      · exact absurd hnew hnot
      · exact h.holder u (by rw [ht]; exact List.mem_cons_of_mem _ hrest)
      · exact h.holder u hold
      · exact absurd hin (unlock_notMem_started hp hfirst)
    · rcases Crew.mem_after hu with ⟨rfl, -⟩ | ⟨-, hold⟩ | ⟨first, hfirst, hin⟩
      · exact htaken
      · rw [h.holder u hold] at hfree
        cases hfree
      · exact absurd hin (unlock_notMem_started hp hfirst)

theorem Staffed.after_once : ((c.after t rest r).tasks u).countP DiscoveryTask.unlocks ≤ 1 := by
  by_cases hfirst : ∃ first, r.started = some (u, first)
  · obtain ⟨first, hfirst⟩ := hfirst
    rw [Crew.after_tasks_started hfirst, List.countP_eq_zero.mpr]
    · exact Nat.zero_le _
    · intro k' hk' hunlocks
      exact unlock_notMem_started hp hfirst (DiscoveryTask.unlocks_iff.mp hunlocks ▸ hk')
  · have hnone : ∀ first, r.started ≠ some (u, first) := fun first heq => hfirst ⟨first, heq⟩
    by_cases hu : u = t
    · subst hu
      rw [Crew.after_tasks_self hnone, List.countP_append]
      have honce := h.once u
      rw [ht, List.countP_cons] at honce
      by_cases hk : k = .unlock
      · subst hk
        obtain rfl := Option.some.inj hp
        rw [List.countP_nil]
        omega
      · rcases perform_mutex hp hk with ⟨-, hnot⟩ | ⟨hfree, -, hcount⟩
        · have hzero : r.tasks.countP DiscoveryTask.unlocks = 0 := List.countP_eq_zero.mpr fun k' hk' hunlocks =>
            hnot (DiscoveryTask.unlocks_iff.mp hunlocks ▸ hk')
          omega
        · -- The mutex was free, so that nothing behind gives it back.
          have hzero : rest.countP DiscoveryTask.unlocks = 0 := by
            apply List.countP_eq_zero.mpr
            intro k' hk' hunlocks
            have hmem : .unlock ∈ c.tasks u := by
              rw [ht]
              exact List.mem_cons_of_mem _ (DiscoveryTask.unlocks_iff.mp hunlocks ▸ hk')
            rw [h.holder u hmem] at hfree
            cases hfree
          omega
    · rw [Crew.after_tasks_of_ne hu hnone]
      exact h.once u

theorem Staffed.act (hg : ∀ rest, c.tasks t = .assignWatchThread :: rest → c.shared.2.watchThread = none) :
    Staffed (c.after t rest r) where
  watches _ hn := h.after_watches ht hp hn
  streams _ hm := h.after_streams ht hp hm
  single _ hn := h.after_single ht hp hg hn
  allowed _ _ hk' := h.after_allowed ht hp hk'
  holder _ hu := h.after_holder ht hp hu
  once _ := h.after_once ht hp

end Staffed

/-! ### Calls -/

/-- A call begins with one task, which has not taken the mutex. -/
theorem begin_allowed {o : DiscoveryOp} {ks : List DiscoveryTask} (h : (discoveryWork A cfg p).begin t o = some ks) :
    ((∃ a, t = .caller a) ∨ t = .outside) ∧ ∃ k, ks = [k] ∧ k.allowed t = true ∧ k.stops = false ∧ k ≠ .unlock := by
  obtain ⟨k, rfl, ⟨⟨a, rfl⟩, hbegins⟩ | ⟨rfl, hbefalls⟩⟩ := begin_cases h
  · refine ⟨.inl ⟨a, rfl⟩, k, rfl, ?_⟩
    cases k <;> first | (cases hbegins; done) | exact ⟨rfl, rfl, by simp⟩
  · refine ⟨.inr rfl, k, rfl, ?_⟩
    cases k <;> first | (cases hbefalls; done) | exact ⟨rfl, rfl, by simp⟩

section Begun

variable {o : DiscoveryOp} {ks : List DiscoveryTask} [DecidableEq A]
  (hbegin : (discoveryWork A cfg p).begin t o = some ks)

include hbegin

/-- No call is a call of the watch thread, or of the thread of a stream. -/
theorem begun_watch : (c.begun t ks).tasks (.watch n) = c.tasks (.watch n) := by
  obtain ⟨hthread, -⟩ := begin_allowed hbegin
  apply Crew.begun_tasks_of_ne
  rintro rfl
  rcases hthread with ⟨a, heq⟩ | heq <;> cases heq

theorem begun_stream : (c.begun t ks).tasks (.stream m) = c.tasks (.stream m) := by
  obtain ⟨hthread, -⟩ := begin_allowed hbegin
  apply Crew.begun_tasks_of_ne
  rintro rfl
  rcases hthread with ⟨a, heq⟩ | heq <;> cases heq

/-- What a thread has before it after the call has begun is the call, or was before it already. -/
theorem mem_begun_cases (hk' : k' ∈ (c.begun t ks).tasks u) :
    (u = t ∧ k'.allowed t = true ∧ k'.stops = false ∧ k' ≠ .unlock) ∨ (u ≠ t ∧ k' ∈ c.tasks u) := by
  obtain ⟨-, k, rfl, hallowed, hstops, hunlock⟩ := begin_allowed hbegin
  rcases Crew.mem_begun hk' with ⟨hu, hnew⟩ | hbefore
  · rw [List.mem_singleton.mp hnew]
    exact .inl ⟨hu, hallowed, hstops, hunlock⟩
  · exact .inr hbefore

theorem Staffed.start (h : Staffed c) : Staffed (c.begun t ks) where
  watches n hn := (begun_watch hbegin).trans (h.watches n hn)
  streams m hm := (begun_stream hbegin).trans (h.streams m hm)
  single n hn := h.single n (begun_watch hbegin ▸ hn)
  allowed u k' hk' := by
    rcases mem_begun_cases hbegin hk' with ⟨rfl, hallowed, -⟩ | ⟨-, hbefore⟩
    · exact hallowed
    · exact h.allowed u k' hbefore
  holder u hu := by
    rcases mem_begun_cases hbegin hu with ⟨-, -, -, hunlock⟩ | ⟨-, hbefore⟩
    · exact absurd rfl hunlock
    · exact h.holder u hbefore
  once u := by
    by_cases hu : u = t
    · obtain ⟨-, k, rfl, -⟩ := begin_allowed hbegin
      rw [hu, Crew.begun_tasks_self]
      exact List.countP_le_length
    · rw [Crew.begun_tasks_of_ne hu]
      exact h.once u

end Begun

omit [DecidableEq P] in
theorem Staffed.created : Staffed ((createdFleet P A).of p) where
  watches _ _ := rfl
  streams _ _ := rfl
  single _ hn := absurd rfl hn
  allowed _ _ hk := nomatch hk
  holder _ hu := nomatch hu
  once _ := Nat.zero_le 1

omit [DecidableEq P] in
theorem Staffed.within {e : Etcd P} (h : Staffed c) : Staffed (c.within e) :=
  ⟨h.watches, h.streams, h.single, h.allowed, h.holder, h.once⟩

end EtcdDiscovery

end SomeServer
