/-
# SomeServer.Discovery.Watch — the watch outlives its streams

The watch thread of `EtcdDiscovery` starts a stream, waits for what it tells, and starts another one when it
has ended. It takes the end of a stream for a stop if it finds the running flag cleared and nothing told: the
stream's thread clears the flag first, and tells then. Between the two, `WaitForWatchEvent` must not look.

`StartWatch` does nothing while there is a thread to join. So it must not be called when the thread has been
stopped and not been joined, and not twice at a time.
-/
import SomeServer.Discovery.Threads

namespace SomeServer

open Lib

variable {P A : Type}

/-- The stream has ended. -/
def WatchPollKind.ends : WatchPollKind → Bool
  | .streamClosed | .error => true
  | _ => false

namespace DiscoveryTask

/-- The tasks in the outer loop of `WatchLoop`. -/
def loops : DiscoveryTask → Bool
  | watchLoop | waitForWatchEvent | streamClosed | pause => true
  | _ => false

/-- The end of a stream is to be told. -/
def tells (k : DiscoveryTask) : Prop := ∃ result, k = .pushWatchResult result ∧ result.ends = true

end DiscoveryTask

namespace EtcdDiscovery

/-- As long as the watch has not been stopped since it was started, the watch thread is in its loop, and if
it waits, it does so for a stream that is up, or whose end has been told or is going to be. -/
structure Watching (c : DiscoveryCrew P A) : Prop where
  up : c.shared.2.terminated = false
  loops : c.shared.2.stopCalled = false → ∀ n, c.shared.2.watchThread = some n →
    ∃ k ∈ c.tasks (.watch n), k.loops = true
  awaits : c.shared.2.stopCalled = false → ∀ n rest, c.shared.2.watchThread = some n →
    c.tasks (.watch n) = .waitForWatchEvent :: rest →
    c.shared.2.backend.watchRunning = true ∨ (∃ result ∈ c.shared.2.backend.watchQueue, result.ends = true) ∨
      c.Pending (·.tells)

/-- `WaitForWatchEvent` does not find nothing told and the flag cleared while a thread is about to tell
something, and `StartWatch` does not find a thread that has been told to stop, or that has been started in the
meantime. -/
def Heard (c : DiscoveryCrew P A) : Move (DiscoveryThread A) DiscoveryOp DiscoveryInput → Prop
  | .start _ _ => True
  | .act t _ =>
      (∀ rest, c.tasks t = .waitForWatchEvent :: rest → c.shared.2.stopCalled = false →
        c.shared.2.backend.watchQueue = [] → c.shared.2.backend.watchRunning = false → ¬c.Pending (·.tells)) ∧
      (∀ rest, c.tasks t = .startWatch :: rest → c.shared.2.watchThread ≠ none → c.shared.2.stopWatch = false) ∧
      ∀ rest, c.tasks t = .assignWatchThread :: rest → c.shared.2.watchThread = none

/-! ### Where the threads are -/

variable [DecidableEq P] {cfg : DiscoveryConfig P} {p : P} {free : DiscoveryThread A → Bool} {t u : DiscoveryThread A}
  {i : DiscoveryInput} {e : Etcd P} {d : EtcdDiscovery A} {k k' : DiscoveryTask} {rest : List DiscoveryTask}
  {r : Performed (DiscoveryThread A) DiscoveryTask (Etcd P × EtcdDiscovery A)} {n m : Nat} {a : A}
  {b b' : EtcdSdkDiscoveryBackend} {c : DiscoveryCrew P A} {w l : List DiscoveryTask}
  {stream : Nat → List DiscoveryTask}

/-- Nothing streams. -/
def Idle (b : EtcdSdkDiscoveryBackend) : Prop := b.watchThread = none ∧ b.watchRunning = false

/-- The end of the stream has been told. -/
def Told (b : EtcdSdkDiscoveryBackend) : Prop := ∃ result ∈ b.watchQueue, result.ends = true

/-- What is left of a `RefreshSnapshot` of the watch thread. -/
inductive Refreshing : List DiscoveryTask → Prop
  | refresh : Refreshing [.refreshSnapshot false]
  | apply (view : MembershipView) (revision since : Nat) : Refreshing [.applySnapshot view revision since]
  | failed : Refreshing [.refreshFailed]
  | done : Refreshing []

/-- What the thread of a stream has before it: until the end has been told, it is going to be. -/
inductive Streaming (b : EtcdSdkDiscoveryBackend) : List DiscoveryTask → Prop
  | opening : b.watchRunning = true → Streaming b [.openStream]
  | reading : b.watchRunning = true → Streaming b [.readStream]
  | event : b.watchRunning = true → Streaming b [.pushWatchResult .event, .readStream]
  | canceled : b.watchRunning = true → Streaming b [.pushWatchResult .streamClosed, .finishStream true]
  | finishing (emitted : Bool) :
      b.watchRunning = true → (emitted = true → Told b) → Streaming b [.finishStream emitted]
  | clearing (result : Option WatchPollKind) : b.watchRunning = true → (result = none → Told b) →
      (∀ end_, result = some end_ → end_.ends = true) → Streaming b [.clearWatchRunning result]
  | telling (result : WatchPollKind) : result.ends = true → Streaming b [.pushWatchResult result]
  | told : Told b → Streaming b []

/-- What the watch thread has before it, and what it finds there. -/
inductive Looping (b : EtcdSdkDiscoveryBackend) (stream : Nat → List DiscoveryTask) : List DiscoveryTask → Prop
  | head : Idle b → Looping b stream [.watchLoop]
  | pause : Idle b → Looping b stream [.pause]
  | closed : Looping b stream [.streamClosed]
  | stopping {l : List DiscoveryTask} : Refreshing l → Looping b stream (l ++ [.stopBackend, .pause])
  | joining (m : Nat) : Looping b stream [.joinStream m, .pause]
  | waiting {l : List DiscoveryTask} {m : Nat} : Refreshing l → b.watchThread = some m →
      b.watchStopRequested = false → .stopped ∉ b.watchQueue → Streaming b (stream m) →
      Looping b stream (l ++ [.waitForWatchEvent])

/-- Where the watch is. -/
structure Watched (c : DiscoveryCrew P A) : Prop extends Staffed c where
  up : c.shared.2.terminated = false
  agree : c.shared.2.stopWatch = c.shared.2.stopCalled
  calls : ∀ a, ∀ k ∈ c.tasks (.caller a), k.stops = true →
    c.shared.2.stopCalled = true ∧ .unlock ∈ c.tasks (.caller a)
  ordered : ∀ a, (c.tasks (.caller a)).Pairwise fun k k' => k = .unlock → k'.stops = false
  reached : ∀ m, c.tasks (.stream m) ≠ [] →
    c.shared.2.backend.watchThread = some m ∨ c.Pending (· = .joinStream m)
  joins : ∀ m, c.Pending (· = .joinStream m) → Idle c.shared.2.backend
  stopped : c.shared.2.stopCalled = true →
    Idle c.shared.2.backend ∨ ∃ a, .stopBackend ∈ c.tasks (.caller a)
  idle : c.shared.2.stopCalled = false → c.shared.2.watchThread = none → Idle c.shared.2.backend
  looping : c.shared.2.stopCalled = false → ∀ n, c.shared.2.watchThread = some n →
    Looping c.shared.2.backend (fun m => c.tasks (.stream m)) (c.tasks (.watch n))

/-! ### The watch thread and its stream -/

theorem Refreshing.mem (hl : Refreshing l) (hk : k ∈ l) :
    k = .refreshSnapshot false ∨ (∃ view revision since, k = .applySnapshot view revision since) ∨ k = .refreshFailed := by
  cases hl <;> simp at hk <;> simp [hk]

/-- A refresh goes on, or is done. -/
theorem Refreshing.step (hl : Refreshing (k :: l)) (hp : k.perform cfg p free t i e d = some r) :
    Refreshing (r.tasks ++ l) := by
  cases hl with
  | refresh =>
      obtain rfl := Option.some.inj hp
      show Refreshing (refreshTasks cfg p i e d false ++ [])
      rcases refreshTasks_eq cfg p i e d false with heq | ⟨refreshed, heq⟩ <;> rw [heq]
      · exact .failed
      · exact .apply _ _ _
  | apply view revision since =>
      simp only [DiscoveryTask.perform] at hp
      split at hp
      · cases hp
      · obtain rfl := Option.some.inj hp
        exact .done
  | failed =>
      simp only [DiscoveryTask.perform] at hp
      split at hp
      · cases hp
      · obtain rfl := Option.some.inj hp
        exact .done

theorem Looping.ne_nil (hw : Looping b stream w) : w ≠ [] := by
  cases hw <;> simp

theorem Looping.loops (hw : Looping b stream w) : ∃ k ∈ w, k.loops = true := by
  cases hw with
  | head => exact ⟨.watchLoop, by simp, rfl⟩
  | pause => exact ⟨.pause, by simp, rfl⟩
  | closed => exact ⟨.streamClosed, by simp, rfl⟩
  | stopping => exact ⟨.pause, by simp, rfl⟩
  | joining m => exact ⟨.pause, by simp, rfl⟩
  | waiting => exact ⟨.waitForWatchEvent, by simp, rfl⟩

/-- At the head of the loop there is no stream. -/
theorem Looping.idle (hw : Looping b stream (.watchLoop :: rest)) : rest = [] ∧ Idle b := by
  generalize heq : DiscoveryTask.watchLoop :: rest = w at hw
  cases hw with
  | head hidle =>
      cases heq
      exact ⟨rfl, hidle⟩
  | stopping hl | waiting hl => cases hl <;> cases heq
  | _ => cases heq

/-- When it waits, there is a stream that tells. -/
theorem Looping.streaming (hw : Looping b stream (.waitForWatchEvent :: rest)) :
    rest = [] ∧ .stopped ∉ b.watchQueue ∧ ∃ m, Streaming b (stream m) := by
  generalize heq : DiscoveryTask.waitForWatchEvent :: rest = w at hw
  cases hw with
  | waiting hl _ _ hqueue hstream =>
      cases hl <;> cases heq
      exact ⟨rfl, hqueue, _, hstream⟩
  | stopping hl => cases hl <;> cases heq
  | _ => cases heq

/-- A flag that is set stays so, and what has been told too. -/
theorem Streaming.mono (hs : Streaming b w) (hrunning : b.watchRunning = true → b'.watchRunning = true)
    (htold : Told b → Told b') : Streaming b' w := by
  cases hs with
  | opening hup => exact .opening (hrunning hup)
  | reading hup => exact .reading (hrunning hup)
  | event hup => exact .event (hrunning hup)
  | canceled hup => exact .canceled (hrunning hup)
  | finishing emitted hup hemitted => exact .finishing emitted (hrunning hup) fun h => htold (hemitted h)
  | clearing result hup hnone hsome => exact .clearing result (hrunning hup) (fun h => htold (hnone h)) hsome
  | telling result hends => exact .telling result hends
  | told h => exact .told (htold h)

/-- What a stream that is told of comes to. -/
theorem Streaming.awaited (hs : Streaming b w) : b.watchRunning = true ∨ Told b ∨ ∃ k ∈ w, k.tells := by
  cases hs with
  | telling result hends => exact .inr (.inr ⟨_, List.mem_cons_self, result, rfl, hends⟩)
  | told htold => exact .inr (.inl htold)
  | _ => exact .inl ‹_›

/-- A refresh leaves the watch alone. -/
theorem Refreshing.same (hl : Refreshing (k :: l)) (hp : k.perform cfg p free t i e d = some r) :
    r.shared.2.backend = d.backend := by
  have hk : k.moves = false := by
    rcases hl.mem List.mem_cons_self with rfl | ⟨view, revision, since, rfl⟩ | rfl <;> rfl
  exact (perform_same hp hk).1.backend

omit [DecidableEq P] in
/-- The head of the loop starts a stream. -/
theorem Looping.start (hr : r.tasks = [.waitForWatchEvent])
    (hd : r.shared.2 = { d with backend := d.backend.startWatchPrefix })
    (hstream : stream d.backend.streams = [.openStream]) :
    Looping r.shared.2.backend stream (r.tasks ++ []) := by
  rw [hr, hd]
  exact .waiting (m := d.backend.streams) .done rfl rfl (by simp [EtcdSdkDiscoveryBackend.startWatchPrefix])
    (hstream ▸ .opening rfl)

/-- The watch thread goes on in its loop: it does not mistake the end of a stream for a stop. -/
theorem Looping.step (hw : Looping d.backend stream (k :: rest))
    (hp : k.perform cfg p free t i e d = some r) (hstop : d.stopWatch = false)
    (hjoin : ∀ m, k = .joinStream m → Idle d.backend)
    (hheard : k = .waitForWatchEvent → d.backend.watchQueue = [] → d.backend.watchRunning = false →
      ∀ m, ∀ k' ∈ stream m, ¬k'.tells)
    (hstarted : r.started = none) : Looping r.shared.2.backend stream (r.tasks ++ rest) := by
  generalize heq : k :: rest = w at hw
  cases hw with
  | head hidle =>
      cases heq
      simp only [DiscoveryTask.perform, hstop, hidle.1, hidle.2] at hp
      split at hp
      · cases hp
      · obtain rfl := Option.some.inj hp
        cases hstarted
  | pause hidle =>
      cases heq
      simp only [DiscoveryTask.perform, hstop] at hp
      split at hp
      · cases hp
      · obtain rfl := Option.some.inj hp
        exact .head hidle
  | closed =>
      cases heq
      simp only [DiscoveryTask.perform, hstop] at hp
      split at hp
      · cases hp
      · obtain rfl := Option.some.inj hp
        exact .stopping .refresh
  | @stopping l hl =>
      cases l with
      | nil =>
          cases heq
          obtain rfl := Option.some.inj hp
          cases hthread : d.backend.watchThread with
          | none =>
              simp only [Option.toList_none, List.map_nil, List.nil_append]
              exact .pause ⟨rfl, rfl⟩
          | some m =>
              simp only [Option.toList_some, List.map_cons, List.map_nil]
              exact .joining m
      | cons k₀ l =>
          cases heq
          show Looping _ _ (r.tasks ++ (l ++ [.stopBackend, .pause]))
          rw [← List.append_assoc]
          exact .stopping (hl.step hp)
  | joining m =>
      cases heq
      simp only [DiscoveryTask.perform] at hp
      split at hp
      · obtain rfl := Option.some.inj hp
        exact .pause (hjoin m rfl)
      · cases hp
  | @waiting l m hl hthread hrequested hqueue hstream =>
      cases l with
      | nil =>
          cases heq
          simp only [DiscoveryTask.perform] at hp
          split at hp
          · rename_i result results hresults
            obtain rfl := Option.some.inj hp
            rw [hresults] at hqueue
            cases result with
            | event =>
                have hrest : .stopped ∉ results := fun hmem => hqueue (List.mem_cons_of_mem _ hmem)
                have htold : Told d.backend → Told { d.backend with watchQueue := results } := by
                  rintro ⟨result, hmem, hends⟩
                  rw [hresults] at hmem
                  rcases List.mem_cons.mp hmem with rfl | hmem
                  · cases hends
                  · exact ⟨result, hmem, hends⟩
                exact .waiting .refresh hthread hrequested hrest (hstream.mono id htold)
            | stopped => exact absurd List.mem_cons_self hqueue
            | streamClosed | error => exact .closed
          · rename_i hempty
            split at hp
            · cases hp
            · rename_i hrunning
              -- Nothing was told and the flag is cleared, so somebody is about to tell it.
              exfalso
              rcases hstream.awaited with hup | ⟨result, hmem, -⟩ | ⟨k', hk', htells⟩
              · exact hrunning hup
              · rw [hempty] at hmem
                cases hmem
              · exact hheard rfl hempty (Bool.not_eq_true _ ▸ hrunning) m k' hk' htells
      | cons k₀ l =>
          cases heq
          show Looping _ _ (r.tasks ++ (l ++ [.waitForWatchEvent]))
          rw [← List.append_assoc, hl.same hp]
          exact .waiting (hl.step hp) hthread hrequested hqueue hstream

/-- The thread of a stream that nobody has stopped goes on until its end has been told. -/
theorem Streaming.step (hs : Streaming d.backend (k :: rest)) (hp : k.perform cfg p free t i e d = some r)
    (hrequested : d.backend.watchStopRequested = false) (hqueue : .stopped ∉ d.backend.watchQueue) :
    Streaming r.shared.2.backend (r.tasks ++ rest) ∧ r.shared.2.backend.watchStopRequested = false ∧
      .stopped ∉ r.shared.2.backend.watchQueue := by
  have hpush : ∀ result, result ≠ .stopped → .stopped ∉ (d.backend.pushWatchResult result).watchQueue := by
    intro result hne hmem
    rcases List.mem_append.mp hmem with hold | hnew
    · exact hqueue hold
    · exact hne (List.mem_singleton.mp hnew).symm
  have htold : ∀ result, result.ends = true → Told (d.backend.pushWatchResult result) := fun result hends =>
    ⟨result, List.mem_append_right _ (List.mem_singleton.mpr rfl), hends⟩
  -- by where the thread is: each stage leads to the next, and the last tells the end
  generalize heq : k :: rest = w at hs
  cases hs with
  | opening hup =>
      cases heq
      obtain rfl := Option.some.inj hp
      refine ⟨?_, hrequested, hqueue⟩
      show Streaming _ ((if i.ok then _ else _) ++ _)
      split
      · exact .reading hup
      · exact .clearing (some .error) hup (by simp) (by simp [WatchPollKind.ends])
  | reading hup =>
      cases heq
      obtain rfl := Option.some.inj hp
      refine ⟨?_, hrequested, hqueue⟩
      cases i.read with
      | canceled => exact .canceled hup
      | events => exact .event hup
      | nothing => exact .reading hup
      | finished => exact .finishing false hup (by simp)
  | event hup =>
      cases heq
      obtain rfl := Option.some.inj hp
      exact ⟨.reading hup, hrequested, hpush _ (by simp)⟩
  | canceled hup =>
      cases heq
      obtain rfl := Option.some.inj hp
      exact ⟨.finishing true hup fun _ => htold _ rfl, hrequested, hpush _ (by simp)⟩
  -- nobody has asked for the stop, so the end is told here unless it was before
  | finishing emitted hup hemitted =>
      cases heq
      obtain rfl := Option.some.inj hp
      refine ⟨?_, hrequested, hqueue⟩
      simp only [hrequested, Bool.false_eq_true, if_false, List.append_nil]
      refine .clearing _ hup ?_ ?_
      · intro hnone
        apply hemitted
        by_contra hnot
        rw [if_neg hnot] at hnone
        split at hnone <;> cases hnone
      · intro result hsome
        split at hsome
        · cases hsome
        · split at hsome <;> cases hsome <;> rfl
  | clearing result hup hnone hsome =>
      cases heq
      obtain rfl := Option.some.inj hp
      refine ⟨?_, hrequested, hqueue⟩
      cases result with
      | none => exact .told (hnone rfl)
      | some result => exact .telling result (hsome result rfl)
  | telling result hends =>
      cases heq
      obtain rfl := Option.some.inj hp
      exact ⟨.told (htold result hends), hrequested, hpush result (by rintro rfl; cases hends)⟩
  | told h => cases heq

/-- The watch thread loses nothing when something else changes what it does not look at, or the stream that it
listens to goes on. -/
theorem Looping.mono {stream' : Nat → List DiscoveryTask} (hw : Looping b stream w) (hidle : Idle b → Idle b')
    (hstream : ∀ m, b.watchThread = some m → b.watchStopRequested = false → .stopped ∉ b.watchQueue →
      Streaming b (stream m) → b'.watchThread = some m ∧ b'.watchStopRequested = false ∧ .stopped ∉ b'.watchQueue ∧
        Streaming b' (stream' m)) : Looping b' stream' w := by
  cases hw with
  | head h => exact .head (hidle h)
  | pause h => exact .pause (hidle h)
  | closed => exact .closed
  | stopping hl => exact .stopping hl
  | joining m => exact .joining m
  | waiting hl hthread hrequested hqueue hs =>
      obtain ⟨hthread', hrequested', hqueue', hs'⟩ := hstream _ hthread hrequested hqueue hs
      exact .waiting hl hthread' hrequested' hqueue' hs'

/-- A step that starts no stream starts none where there is none. -/
theorem Idle.step (hidle : Idle d.backend) (hp : k.perform cfg p free t i e d = some r)
    (hstarted : k = .watchLoop → r.started = none) : Idle r.shared.2.backend := by
  by_cases hk : k = .stopBackend
  · subst hk
    obtain rfl := Option.some.inj hp
    exact ⟨rfl, rfl⟩
  · rcases perform_stream hp hk with ⟨hloop, hstream⟩ | ⟨hthread, hrunning⟩
    · rw [hstarted hloop] at hstream
      cases hstream
    · exact ⟨hthread.trans hidle.1, hrunning hidle.2⟩

section Watched

variable (h : Watched c) (ht : c.tasks t = k :: rest)
  (hp : k.perform cfg p c.free t i c.shared.1 c.shared.2 = some r)

include h

omit [DecidableEq P] in
/-- `StopWatch` holds the mutex as long as it stops the stream. -/
theorem Watched.held (hk : k.stops = true) (hmem : k ∈ c.tasks (.caller a)) : c.shared.2.mutex = some (.caller a) :=
  h.holder _ (h.calls a k hmem hk).2

include ht

omit [DecidableEq P] in
/-- The head of the loop is reached by one thread, when the last stream has been joined. -/
theorem Watched.at_head (hk : k = .watchLoop) (hstop : c.shared.2.stopWatch = false) :
    ∃ n, t = .watch n ∧ rest = [] ∧ c.shared.2.stopCalled = false ∧ c.shared.2.watchThread = some n ∧
      Idle c.shared.2.backend ∧ ∀ m, ¬c.Pending (· = .joinStream m) := by
  subst hk
  have hown := h.own ht
  cases t with
  | watch n =>
      have hcalled : c.shared.2.stopCalled = false := h.agree.symm.trans hstop
      have hhandle : c.shared.2.watchThread = some n := h.single n (by rw [ht]; exact List.cons_ne_nil _ _)
      have hloop := h.looping hcalled n hhandle
      rw [ht] at hloop
      obtain ⟨rfl, hidle⟩ := hloop.idle
      refine ⟨n, rfl, rfl, hcalled, hhandle, hidle, ?_⟩
      -- a stream is joined by `StopWatch`, which has not been called, or by the loop, which is here
      rintro m ⟨u, k, hmem, rfl⟩
      have hallowed := h.allowed u _ hmem
      cases u with
      | caller a =>
          rw [(h.calls a _ hmem rfl).1] at hcalled
          cases hcalled
      | watch n' =>
          have hhandle' := h.single n' (List.ne_nil_of_mem hmem)
          rw [hhandle] at hhandle'
          cases hhandle'
          rw [ht] at hmem
          cases List.mem_singleton.mp hmem
      | stream m' | outside => cases hallowed
  | caller a | stream m | outside => cases hown

include hp

theorem Watched.after_up (hassign : k = .assignWatchThread → c.shared.2.watchThread = none) :
    r.shared.2.terminated = false := by
  by_contra hdown
  rcases perform_terminated hp h.up (Bool.not_eq_false _ ▸ hdown) with ⟨hk, hne⟩ | ⟨hk, hstop, hne⟩
  · exact hne (hassign hk)
  · obtain ⟨n, -, -, -, -, hidle, -⟩ := h.at_head ht hk hstop
    exact hne hidle.1

omit ht in
theorem Watched.after_agree (hstart : k = .startWatch → c.shared.2.watchThread ≠ none → c.shared.2.stopWatch = false) :
    r.shared.2.stopWatch = r.shared.2.stopCalled := by
  by_cases hk : k = .startWatch
  · subst hk
    obtain ⟨-, ⟨hthread, rfl⟩ | ⟨-, rfl⟩⟩ := perform_startWatch hp
    · exact hstart rfl hthread
    · rfl
  · by_cases hk' : k = .stopWatch
    · subst hk'
      obtain ⟨-, rfl⟩ := perform_stopWatch hp
      rfl
    · obtain ⟨hstop, hcalled⟩ := perform_flags hp hk hk'
      rw [hstop, hcalled]
      exact h.agree

variable [DecidableEq A]

theorem Watched.after_ordered : ((c.after t rest r).tasks (.caller a)).Pairwise
    fun k k' => k = .unlock → k'.stops = false := by
  have hnone : ∀ first, r.started ≠ some (.caller a, first) := by
    intro first hfirst
    rcases started_cases hp hfirst with ⟨-, hu, -⟩ | ⟨-, hu, -⟩ <;> cases hu
  by_cases hu : .caller a = t
  · subst hu
    rw [Crew.after_tasks_self hnone, List.pairwise_append]
    have hbefore := h.ordered a
    rw [ht] at hbefore
    refine ⟨perform_ordered hp, hbefore.of_cons, ?_⟩
    rintro k₁ hk₁ k₂ hk₂ rfl
    -- a thread that gives the mutex back now has it, and then nothing behind stops the stream
    by_contra hstops
    have hheld := h.held (Bool.not_eq_false _ ▸ hstops) (by rw [ht]; exact List.mem_cons_of_mem _ hk₂)
    by_cases hk : k = .unlock
    · subst hk
      obtain rfl := Option.some.inj hp
      cases hk₁
    · rcases perform_mutex hp hk with ⟨-, hnot⟩ | ⟨hfree, -⟩
      · exact hnot hk₁
      · rw [hheld] at hfree
        cases hfree
  · rw [Crew.after_tasks_of_ne hu hnone]
    exact h.ordered a

theorem Watched.after_calls (hk' : k' ∈ (c.after t rest r).tasks (.caller a)) (hstops : k'.stops = true) :
    r.shared.2.stopCalled = true ∧ .unlock ∈ (c.after t rest r).tasks (.caller a) := by
  have hfresh := h.fresh hp
  rcases Crew.mem_after hk' with ⟨rfl, hnew | hrest⟩ | ⟨hne, hold⟩ | ⟨first, hfirst, hin⟩
  · rw [hfresh.tasks_self ht]
    rcases perform_stops hp hnew hstops with rfl | ⟨rfl, -⟩ | ⟨-, rfl | rfl⟩
    · obtain ⟨-, rfl⟩ := perform_stopWatch hp
      exact ⟨rfl, by simp⟩
    · obtain ⟨hcalled, hunlock⟩ := h.calls a .stopBackend (by rw [ht]; exact List.mem_cons_self) rfl
      rw [ht] at hunlock
      obtain rfl := Option.some.inj hp
      exact ⟨hcalled, List.mem_append_right _ ((List.mem_cons.mp hunlock).resolve_left (by simp))⟩
    · cases h.own ht
    · cases h.own ht
  -- the rest of the call that stops the stream
  · have hmem : k' ∈ c.tasks (.caller a) := by
      rw [ht]
      exact List.mem_cons_of_mem _ hrest
    obtain ⟨hcalled, hunlock⟩ := h.calls a k' hmem hstops
    have hheld := h.held hstops hmem
    refine ⟨stays_stopped hp hcalled (by rw [hheld]; simp), ?_⟩
    rw [hfresh.tasks_self ht]
    rw [ht] at hunlock
    rcases List.mem_cons.mp hunlock with rfl | hunlock
    · -- What stops the stream is not behind the `unlock`.
      have hordered := h.ordered a
      rw [ht] at hordered
      rw [List.rel_of_pairwise_cons hordered hrest rfl] at hstops
      cases hstops
    · exact List.mem_append_right _ hunlock
  · obtain ⟨hcalled, hunlock⟩ := h.calls a k' hold hstops
    refine ⟨stays_stopped hp hcalled (by rw [h.held hstops hold]; simp), ?_⟩
    rw [hfresh.tasks_of_ne hne (List.ne_nil_of_mem hold)]
    exact hunlock
  · rcases started_cases hp hfirst with ⟨-, hu, -⟩ | ⟨-, hu, -⟩ <;> cases hu

theorem Watched.after_joins (hpending : (c.after t rest r).Pending (· = .joinStream m)) :
    Idle r.shared.2.backend := by
  have hstart : k = .watchLoop → r.started ≠ none → ∀ m, ¬c.Pending (· = .joinStream m) := by
    intro hk hsome
    rcases perform_started hp with ⟨hnone, -⟩ | ⟨hk', -⟩ | ⟨-, -, -, hstop, -⟩
    · exact absurd hnone hsome
    · rw [hk] at hk'
      cases hk'
    · obtain ⟨n, -, -, -, -, -, hnot⟩ := h.at_head ht hk hstop
      exact hnot
  rcases Crew.pending_of_after ht hpending with hold | ⟨k', hk', rfl⟩ | ⟨u, first, hfirst, k', hin, rfl⟩
  · apply (h.joins m hold).step hp
    intro hk
    by_contra hsome
    exact hstart hk hsome m hold
  · rcases perform_stops hp hk' rfl with rfl | ⟨rfl, -⟩ | ⟨heq, -⟩
    · obtain ⟨-, rfl⟩ := perform_stopWatch hp
      simp at hk'
    · obtain rfl := Option.some.inj hp
      exact ⟨rfl, rfl⟩
    · cases heq
  · rcases started_cases hp hfirst with ⟨-, -, rfl⟩ | ⟨-, -, rfl⟩ <;> cases List.mem_singleton.mp hin

/-- A stream that is not the backend's any more is joined. -/
theorem Watched.after_reached (hm : (c.after t rest r).tasks (.stream m) ≠ []) :
    r.shared.2.backend.watchThread = some m ∨ (c.after t rest r).Pending (· = .joinStream m) := by
  have hfresh := h.fresh hp
  -- the thread is started by this step, or there was one already
  by_cases hbefore : c.tasks (.stream m) = []
  · obtain ⟨first, hfirst⟩ := Crew.started_of_idle ht hbefore hm
    obtain ⟨rfl, hd⟩ := started_stream hp hfirst
    rw [hd]
    exact .inl rfl
  · rcases h.reached m hbefore with hthread | hpending
    -- the backend lets go of its stream, and the join is pending from now on
    · by_cases hk : k = .stopBackend
      · subst hk
        obtain rfl := Option.some.inj hp
        have hjoin : .joinStream m ∈ c.shared.2.backend.watchThread.toList.map DiscoveryTask.joinStream := by
          simp [hthread]
        exact .inr (hfresh.pending ht hjoin rfl)
      · rcases perform_stream hp hk with ⟨hloop, hstream⟩ | ⟨hsame, -⟩
        · rcases perform_started hp with ⟨hnone, -⟩ | ⟨hk', -⟩ | ⟨-, -, -, -, -, hthread', -⟩
          · rw [hnone] at hstream
            cases hstream
          · rw [hloop] at hk'
            cases hk'
          · rw [hthread] at hthread'
            cases hthread'
        · exact .inl (hsame.trans hthread)
    · right
      apply hpending.after hfresh ht
      rintro rfl
      simp only [DiscoveryTask.perform] at hp
      split at hp
      · rename_i hfree
        exact hbefore (Crew.free_iff.mp hfree)
      · cases hp

theorem Watched.after_stopped (hcalled : r.shared.2.stopCalled = true) :
    Idle r.shared.2.backend ∨ ∃ a, .stopBackend ∈ (c.after t rest r).tasks (.caller a) := by
  have hfresh := h.fresh hp
  -- the section of `StopWatch` comes first, and the stop of the backend is behind it
  by_cases hk : k = .stopWatch
  · subst hk
    have hown := h.own ht
    cases t with
    | caller a =>
        right
        refine ⟨a, ?_⟩
        rw [hfresh.tasks_self ht]
        obtain ⟨-, rfl⟩ := perform_stopWatch hp
        exact List.mem_cons_self
    | watch n | stream m | outside => cases hown
  · have hbefore : c.shared.2.stopCalled = true := by
      by_cases hstart : k = .startWatch
      · subst hstart
        obtain ⟨-, ⟨-, rfl⟩ | ⟨-, rfl⟩⟩ := perform_startWatch hp <;> cases hcalled
      · rw [← (perform_flags hp hstart hk).2]
        exact hcalled
    -- no stream is started while the watch is stopped
    have hnone : k = .watchLoop → r.started = none := by
      intro hloop
      rcases perform_started hp with ⟨hnone, -⟩ | ⟨hk', -⟩ | ⟨-, -, -, hstop, -⟩
      · exact hnone
      · rw [hloop] at hk'
        cases hk'
      · rw [h.agree, hbefore] at hstop
        cases hstop
    by_cases hstops : k = .stopBackend
    · subst hstops
      obtain rfl := Option.some.inj hp
      exact .inl ⟨rfl, rfl⟩
    · rcases h.stopped hbefore with hidle | ⟨a, hmem⟩
      · exact .inl (hidle.step hp hnone)
      · right
        refine ⟨a, ?_⟩
        by_cases hu : .caller a = t
        · subst hu
          rw [hfresh.tasks_self ht]
          rw [ht] at hmem
          exact List.mem_append_right _ ((List.mem_cons.mp hmem).resolve_left fun heq => hstops heq.symm)
        · rw [hfresh.tasks_of_ne hu (List.ne_nil_of_mem hmem)]
          exact hmem

omit [DecidableEq A] in
theorem Watched.after_idle (hcalled : r.shared.2.stopCalled = false) (hhandle : r.shared.2.watchThread = none) :
    Idle r.shared.2.backend := by
  by_cases hstart : k = .startWatch
  · subst hstart
    obtain ⟨hfree, ⟨hsome, rfl⟩ | ⟨hnone, rfl⟩⟩ := perform_startWatch hp
    · exact absurd hhandle hsome
    show Idle c.shared.2.backend
    cases hbefore : c.shared.2.stopCalled with
    | false => exact h.idle hbefore hnone
    | true =>
        -- The stream has been stopped: otherwise `StopWatch` would have the mutex.
        rcases h.stopped hbefore with hidle | ⟨a, hmem⟩
        · exact hidle
        · rw [h.held rfl hmem] at hfree
          cases hfree
  · have hstop : k ≠ .stopWatch := by
      rintro rfl
      obtain ⟨-, rfl⟩ := perform_stopWatch hp
      cases hcalled
    have hbefore : c.shared.2.stopCalled = false := (perform_flags hp hstart hstop).2.symm.trans hcalled
    have hnone : c.shared.2.watchThread = none := by
      by_contra hsome
      obtain ⟨n, hn⟩ := Option.ne_none_iff_exists'.mp hsome
      have hlives := (h.looping hbefore n hn).ne_nil
      by_cases hassign : k = .assignWatchThread
      · subst hassign
        simp only [DiscoveryTask.perform, hn] at hp
        obtain rfl := Option.some.inj hp
        cases hhandle
      · by_cases hjoin : k = .joinWatchThread
        · subst hjoin
          rcases perform_joinWatchThread hp with ⟨hnone, -⟩ | ⟨n', hn', hfree, -⟩
          · exact hsome hnone
          · obtain rfl : n' = n := Option.some.inj (hn'.symm.trans hn)
            exact hlives (Crew.free_iff.mp hfree)
        · exact hsome ((perform_handle hp hassign hjoin).symm.trans hhandle)
    apply (h.idle hbefore hnone).step hp
    intro hloop
    rcases perform_started hp with ⟨hnothing, -⟩ | ⟨hk', -⟩ | ⟨-, -, -, hstop', -⟩
    · exact hnothing
    · rw [hloop] at hk'
      cases hk'
    · obtain ⟨n, -, -, -, hsome, -⟩ := h.at_head ht hloop hstop'
      rw [hnone] at hsome
      cases hsome

end Watched

section Looping

variable [DecidableEq A] (h : Watched c) (ht : c.tasks t = k :: rest)
  (hp : k.perform cfg p c.free t i c.shared.1 c.shared.2 = some r) (hcalled : c.shared.2.stopCalled = false)
  (hhandle : c.shared.2.watchThread = some n)

include h ht hp hcalled hhandle

/-- The watch thread itself. -/
theorem Watched.looping_watch (hthread : t = .watch n)
    (hheard : k = .waitForWatchEvent → c.shared.2.backend.watchQueue = [] →
      c.shared.2.backend.watchRunning = false → ¬c.Pending (·.tells)) :
    Looping r.shared.2.backend (fun m => (c.after t rest r).tasks (.stream m)) ((c.after t rest r).tasks (.watch n)) := by
  subst hthread
  have hfresh := h.fresh hp
  have hlooping := h.looping hcalled n hhandle
  rw [ht] at hlooping
  rw [hfresh.tasks_self ht]
  rcases perform_started hp with ⟨hnone, -⟩ | ⟨hk, -⟩ | ⟨hk, hstream, -, hstop, -, -, htasks, hd⟩
  · have hstreams : ∀ m, (c.after (.watch n) rest r).tasks (.stream m) = c.tasks (.stream m) := fun m =>
      Crew.after_tasks_of_ne (by simp) (by simp [hnone])
    simp only [hstreams]
    apply hlooping.step hp
    · exact h.agree.trans hcalled
    · rintro m rfl
      exact h.joins m ⟨.watch n, _, by rw [ht]; exact List.mem_cons_self, rfl⟩
    · intro hk hqueue hrunning m k' hk' htells
      exact hheard hk hqueue hrunning ⟨.stream m, k', hk', htells⟩
    · exact hnone
  · subst hk
    cases h.own ht
  · obtain ⟨-, -, rfl, -⟩ := h.at_head ht hk hstop
    exact Looping.start htasks hd (Crew.after_tasks_started hstream)

/-- The threads of the streams: the one that is listened to is the only one that there is. -/
theorem Watched.looping_stream (hthread : t = .stream m) :
    Looping r.shared.2.backend (fun m => (c.after t rest r).tasks (.stream m)) ((c.after t rest r).tasks (.watch n)) := by
  subst hthread
  have hfresh := h.fresh hp
  have hlooping := h.looping hcalled n hhandle
  have hnone : r.started = none := by
    rcases perform_started hp with ⟨hnone, -⟩ | ⟨rfl, -⟩ | ⟨rfl, -⟩
    · exact hnone
    · cases h.own ht
    · cases h.own ht
  have hlives : c.tasks (.stream m) ≠ [] := by
    rw [ht]
    exact List.cons_ne_nil _ _
  rw [hfresh.tasks_of_ne (by simp) hlooping.ne_nil]
  apply hlooping.mono
  · exact fun hidle => hidle.step hp fun _ => hnone
  · intro m' hbackend hrequested hqueue hs
    -- the stream of the backend is this one: any other is being joined, and the backend has none then
    have hm : m' = m := by
      rcases h.reached m hlives with hreached | hpending
      · rw [hbackend] at hreached
        exact Option.some.inj hreached
      · rw [(h.joins m hpending).1] at hbackend
        cases hbackend
    subst hm
    have hs' : Streaming c.shared.2.backend (k :: rest) := ht ▸ hs
    obtain ⟨hs₁, hrequested₁, hqueue₁⟩ := hs'.step hp hrequested hqueue
    refine ⟨?_, hrequested₁, hqueue₁, ?_⟩
    · rcases perform_stream hp (by rintro rfl; cases h.own ht) with ⟨-, hstarted⟩ | ⟨hsame, -⟩
      · rw [hnone] at hstarted
        cases hstarted
      · exact hsame.trans hbackend
    · rw [hfresh.tasks_self ht]
      exact hs₁

/-- All other threads. -/
theorem Watched.looping_other (hwatch : ∀ n, t ≠ .watch n) (hstream : ∀ m, t ≠ .stream m) :
    Looping r.shared.2.backend (fun m => (c.after t rest r).tasks (.stream m)) ((c.after t rest r).tasks (.watch n)) := by
  have hfresh := h.fresh hp
  have hlooping := h.looping hcalled n hhandle
  -- the backend is changed by the watch thread, its streams, and the calls that stop it
  have hsame : r.shared.2.backend = c.shared.2.backend := by
    by_cases hmoves : k.moves = false
    · exact (perform_same hp hmoves).1.backend
    · have hown := h.own ht
      cases t with
      | caller a =>
          have hne : k ≠ .stopBackend := by
            rintro rfl
            rw [(h.calls a .stopBackend (by rw [ht]; exact List.mem_cons_self) rfl).1] at hcalled
            cases hcalled
          cases k with
          | stopBackend => exact absurd rfl hne
          | startWatch | assignWatchThread | stopWatch | joinWatchThread =>
              simp only [DiscoveryTask.perform] at hp
              (repeat' split at hp) <;> first
                | (obtain rfl := Option.some.inj hp; rfl)
                | cases hp
          | _ => first | exact absurd rfl hmoves | cases hown
      | watch n => exact absurd rfl (hwatch n)
      | stream m => exact absurd rfl (hstream m)
      | outside =>
          exfalso
          cases k <;> first | exact hmoves rfl | cases hown
  have hstreams : ∀ m, (c.after t rest r).tasks (.stream m) = c.tasks (.stream m) := by
    intro m
    apply Crew.after_tasks_of_ne (fun heq => hstream m heq.symm)
    intro first hfirst
    rcases started_cases hp hfirst with ⟨-, hu, -⟩ | ⟨rfl, -, -⟩
    · cases hu
    · have hown := h.own ht
      cases t with
      | watch n => exact hwatch n rfl
      | caller a | stream m | outside => cases hown
  rw [hfresh.tasks_of_ne (fun heq => hwatch n heq.symm) hlooping.ne_nil, hsame]
  simp only [hstreams]
  exact hlooping

end Looping

/-! ### Runs -/

variable [DecidableEq A]

omit [DecidableEq P] [DecidableEq A] in
theorem Watched.watching (h : Watched c) : Watching c where
  up := h.up
  loops hcalled n hn := (h.looping hcalled n hn).loops
  awaits hcalled n rest hn ht := by
    have hlooping := h.looping hcalled n hn
    rw [ht] at hlooping
    obtain ⟨-, -, m, hs⟩ := hlooping.streaming
    rcases hs.awaited with hrunning | htold | ⟨k, hmem, htells⟩
    · exact .inl hrunning
    · exact .inr (.inl htold)
    · exact .inr (.inr ⟨.stream m, k, hmem, htells⟩)

theorem Watched.act (h : Watched c) (ht : c.tasks t = k :: rest)
    (hp : k.perform cfg p c.free t i c.shared.1 c.shared.2 = some r) (hg : Heard c (.act t i)) :
    Watched (c.after t rest r) := by
  obtain ⟨hwait, hstart, hassign⟩ := hg
  refine ⟨h.toStaffed.act ht hp hassign, ?_, ?_, ?_, ?_, ?_, ?_, ?_, ?_, ?_⟩
  · exact h.after_up ht hp fun hk => hassign rest (hk ▸ ht)
  · exact h.after_agree hp fun hk => hstart rest (hk ▸ ht)
  · exact fun a k' hk' hstops => h.after_calls ht hp hk' hstops
  · exact fun a => h.after_ordered ht hp
  · exact fun m hm => h.after_reached ht hp hm
  · exact fun m hm => h.after_joins ht hp hm
  · exact h.after_stopped ht hp
  · exact h.after_idle ht hp
  · intro hcalled n hn
    by_cases hk : k = .assignWatchThread
    · -- The thread that is started finds no stream.
      subst hk
      have hnone := hassign rest ht
      simp only [DiscoveryTask.perform, hnone] at hp
      obtain rfl := Option.some.inj hp
      cases hn
      rw [Crew.after_tasks_started rfl]
      exact .head (h.idle hcalled hnone)
    · by_cases hbegin : k = .startWatch
      · subst hbegin
        have hhandle : c.shared.2.watchThread = some n := (perform_handle hp hk (by simp)).symm.trans hn
        have hbefore : c.shared.2.stopCalled = false :=
          h.agree.symm.trans (hstart rest ht (by simp [hhandle]))
        have hown := h.own ht
        apply h.looping_other ht hp hbefore hhandle <;> rintro m rfl <;> cases hown
      -- the watch is not stopped by this step, so it was running before
      · have hstop : k ≠ .stopWatch := by
          rintro rfl
          obtain ⟨-, rfl⟩ := perform_stopWatch hp
          cases hcalled
        have hbefore : c.shared.2.stopCalled = false := (perform_flags hp hbegin hstop).2.symm.trans hcalled
        have hhandle : c.shared.2.watchThread = some n := by
          by_cases hjoin : k = .joinWatchThread
          · subst hjoin
            rcases perform_joinWatchThread hp with ⟨-, rfl⟩ | ⟨n', -, -, rfl⟩
            · exact hn
            · cases hn
          · exact (perform_handle hp hk hjoin).symm.trans hn
        cases t with
        | watch n' =>
            obtain rfl : n' = n := by
              have hsingle := h.single n' (by rw [ht]; exact List.cons_ne_nil _ _)
              rw [hhandle] at hsingle
              exact (Option.some.inj hsingle).symm
            exact h.looping_watch ht hp hbefore hhandle rfl
              fun hk hqueue hrunning => hwait rest (hk ▸ ht) hbefore hqueue hrunning
        | stream m => exact h.looping_stream ht hp hbefore hhandle rfl
        | caller a | outside => exact h.looping_other ht hp hbefore hhandle (by simp) (by simp)

theorem Watched.start {o : DiscoveryOp} {ks : List DiscoveryTask} (h : Watched c) (ht : c.tasks t = [])
    (hbegin : (discoveryWork A cfg p).begin t o = some ks) : Watched (c.begun t ks) := by
  have hstream : ∀ m, (c.begun t ks).tasks (.stream m) = c.tasks (.stream m) := fun _ => begun_stream hbegin
  -- a call that has begun has done nothing, and its first task stops nothing
  refine ⟨h.toStaffed.start hbegin, h.up, h.agree, ?_, ?_, ?_, ?_, ?_, h.idle, ?_⟩
  · intro a k' hk' hk'stops
    rcases mem_begun_cases hbegin hk' with ⟨-, -, hstops, -⟩ | ⟨hu, hbefore⟩
    · rw [hstops] at hk'stops
      cases hk'stops
    · rw [Crew.begun_tasks_of_ne hu]
      exact h.calls a k' hbefore hk'stops
  · intro a
    by_cases hu : .caller a = t
    · obtain ⟨-, k, rfl, -⟩ := begin_allowed hbegin
      rw [hu, Crew.begun_tasks_self]
      exact List.pairwise_singleton _ _
    · rw [Crew.begun_tasks_of_ne hu]
      exact h.ordered a
  · intro m hm
    exact (h.reached m (hstream m ▸ hm)).imp_right fun hpending => hpending.begun ht
  · intro m hm
    rcases Crew.pending_of_begun hm with hpending | ⟨k', hk', rfl⟩
    · exact h.joins m hpending
    · obtain ⟨-, k, rfl, -, hstops, -⟩ := begin_allowed hbegin
      rw [← List.mem_singleton.mp hk'] at hstops
      cases hstops
  · intro hcalled
    refine (h.stopped hcalled).imp_right ?_
    rintro ⟨a, hmem⟩
    refine ⟨a, ?_⟩
    rw [Crew.begun_tasks_of_ne]
    · exact hmem
    · rintro rfl
      rw [ht] at hmem
      cases hmem
  · intro hcalled n hn
    have hlooping := h.looping hcalled n hn
    rw [begun_watch hbegin]
    simp only [hstream]
    exact hlooping

theorem Watched.step {c' : DiscoveryCrew P A} {move : Move (DiscoveryThread A) DiscoveryOp DiscoveryInput}
    (h : Watched c) (hg : Heard c move) (hmove : c.move (discoveryWork A cfg p) move = some c') : Watched c' := by
  cases move with
  | start t o =>
      obtain ⟨ht, ks, hbegin, rfl⟩ := Crew.move_start hmove
      exact h.start ht hbegin
  | act t i =>
      obtain ⟨k, rest, r, ht, hexec, rfl⟩ := Crew.move_act hmove
      exact h.act ht (perform_of_exec hexec) hg

omit [DecidableEq P] [DecidableEq A] in
theorem Watched.created : Watched ((createdFleet P A).of p) where
  toStaffed := .created
  up := rfl
  agree := rfl
  calls _ _ hk := nomatch hk
  ordered _ := .nil
  reached _ hm := absurd rfl hm
  joins _ hm := by
    obtain ⟨t, k, hk, -⟩ := hm
    cases hk
  stopped hcalled := nomatch hcalled
  idle _ _ := ⟨rfl, rfl⟩
  looping _ _ hn := nomatch hn

omit [DecidableEq P] [DecidableEq A] in
/-- The watch does not depend on etcd. -/
theorem Watched.within {e : Etcd P} (h : Watched c) : Watched (c.within e) :=
  ⟨h.toStaffed.within, h.up, h.agree, h.calls, h.ordered, h.reached, h.joins, h.stopped, h.idle, h.looping⟩

/-- If no process looks while a stream is about to tell its end, the watches of all processes go on until they
are stopped. -/
theorem watch_survives (cfg : DiscoveryConfig P) (c : DiscoveryFleet P A)
    (h : Crew.Run (fleetWork A cfg) (fun c m => Heard (c.of m.process) m.inside) (createdFleet P A) c) (p : P) :
    Watching (c.of p) := by
  have hall : ∀ p, Watched (c.of p) := by
    apply Crew.Run.forall_processes (I := fun _ => Watched) (R := fun _ _ => True) _ _ _ _ h
    · exact fun _ => Watched.created
    · exact fun _ _ _ hwatched _ => hwatched.within
    · exact fun _ _ _ _ _ => trivial
    · exact fun _ _ _ hg hwatched hmove => hwatched.step hg hmove
  exact (hall p).watching

/-! ### A stream that breaks -/

/-- One game, and nothing in etcd that it could read. -/
def gameWatching : DiscoveryConfig Unit where
  options _ := {}
  process _ := ⟨⟨10, 1⟩, 1⟩
  serializeDescriptor _ := ""
  deserializeDescriptor _ := none

def acting (t : DiscoveryThread Unit) (i : DiscoveryInput) :
    Move (Unit × DiscoveryThread Unit) DiscoveryOp DiscoveryInput :=
  .act ((), t) i

/-- The watch is started, and its stream is made. -/
def watchStarted : List (Move (Unit × DiscoveryThread Unit) DiscoveryOp DiscoveryInput) :=
  .start ((), .caller ()) .startWatch :: List.replicate 6 (acting (.caller ()) {}) ++
    [acting (.watch 0) {}, acting (.stream 0) {}]

/-- The stream is closed and the flag cleared, and the watch thread waits. -/
def streamLost : List (Move (Unit × DiscoveryThread Unit) DiscoveryOp DiscoveryInput) :=
  List.replicate 3 (acting (.stream 0) {})

/-- The end is told, and the watch thread starts another stream. -/
def streamReplaced : List (Move (Unit × DiscoveryThread Unit) DiscoveryOp DiscoveryInput) :=
  acting (.stream 0) {} :: List.replicate 8 (acting (.watch 0) {})

/-- `Heard`, as far as it shows without a look at what is about to be told. -/
def heard? (c : DiscoveryFleet Unit Unit) : Move (Unit × DiscoveryThread Unit) DiscoveryOp DiscoveryInput → Bool
  | .start _ _ => true
  | .act t _ =>
      match c.tasks t with
      | .waitForWatchEvent :: _ => !(c.shared.2 t.1).backend.watchQueue.isEmpty
      | .startWatch :: _ | .assignWatchThread :: _ => (c.shared.2 t.1).watchThread.isNone
      | _ => true

theorem heard_of {c : DiscoveryFleet Unit Unit} {m : Move (Unit × DiscoveryThread Unit) DiscoveryOp DiscoveryInput}
    (h : heard? c m = true) : Heard (c.of m.process) m.inside := by
  cases m with
  | start t o => trivial
  | act t i =>
      refine ⟨fun rest ht _ hqueue => ?_, fun rest ht hsome => ?_, fun rest ht => ?_⟩
      · have htasks : c.tasks t = .waitForWatchEvent :: rest := ht
        have hempty : (c.shared.2 t.1).backend.watchQueue = [] := hqueue
        simp [heard?, htasks, hempty] at h
      · have htasks : c.tasks t = .startWatch :: rest := ht
        rw [heard?, htasks] at h
        exact absurd (Option.isNone_iff_eq_none.mp h) hsome
      · have htasks : c.tasks t = .assignWatchThread :: rest := ht
        rw [heard?, htasks] at h
        exact Option.isNone_iff_eq_none.mp h

theorem watch_survives_closed_stream : ∃ c : DiscoveryFleet Unit Unit,
    Crew.Run (fleetWork Unit gameWatching) (fun c m => Heard (c.of m.process) m.inside) (createdFleet Unit Unit) c ∧
      (c.shared.2 ()).backend.streams = 2 ∧ Watching (c.of ()) := by
  have hplay : ((createdFleet Unit Unit).play (fleetWork Unit gameWatching) heard?
      (watchStarted ++ streamLost ++ streamReplaced)).map (fun c => (c.shared.2 ()).backend.streams) = some 2 := rfl
  obtain ⟨c, hc, hstreams⟩ := Option.map_eq_some_iff.mp hplay
  have hrun := Crew.Run.play (fun _ _ => heard_of) Crew.Run.refl hc
  exact ⟨c, hrun, hstreams, watch_survives gameWatching c hrun ()⟩

/-- A watch thread that looks between the two takes the closed stream for a stop, and leaves. -/
theorem closed_stream_ends_watch : ¬∀ (cfg : DiscoveryConfig Unit) (c : DiscoveryFleet Unit Unit),
    Crew.Run (fleetWork Unit cfg) (fun _ _ => True) (createdFleet Unit Unit) c → Watching (c.of ()) := by
  intro h
  have hplay : ((createdFleet Unit Unit).play (fleetWork Unit gameWatching) (fun _ _ => true)
      (watchStarted ++ streamLost ++ [acting (.watch 0) {}])).map
        (fun c => ((c.shared.2 ()).stopCalled, (c.shared.2 ()).watchThread, c.tasks ((), .watch 0))) =
      some (false, some 0, [.leaveWatchLoop]) := rfl
  obtain ⟨c, hc, hfacts⟩ := Option.map_eq_some_iff.mp hplay
  simp only [Prod.mk.injEq] at hfacts
  obtain ⟨hcalled, hhandle, htasks⟩ := hfacts
  have hrun : Crew.Run (fleetWork Unit gameWatching) (fun _ _ => True) (createdFleet Unit Unit) c :=
    Crew.Run.play (fun _ _ _ => trivial) Crew.Run.refl hc
  obtain ⟨k, hk, hloops⟩ := (h gameWatching c hrun).loops hcalled 0 hhandle
  have hmem : k ∈ c.tasks ((), .watch 0) := hk
  rw [htasks] at hmem
  rw [List.mem_singleton.mp hmem] at hloops
  cases hloops

end EtcdDiscovery

end SomeServer
