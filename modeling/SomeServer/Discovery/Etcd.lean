/-
# SomeServer.Discovery.Etcd — the members of the cluster in etcd

Every process of the cluster has a record in etcd, under a lease, and a view of the records of all. Here are
the processes and etcd as one system: `Etcd` is the store that they share, `EtcdDiscovery` what a process
keeps, and the threads of a process have before them what is left of their calls. The watch thread of
`EtcdDiscovery` starts streams and waits for what they tell; a stream is read by a thread of the backend.

A request to etcd takes effect in one step, if it reaches it, and whether it does is an input, as is what a
stream brings. A section of the mutex in which no request is made is one step; the other sections take the
mutex and give it back. The handles of threads are assigned and joined in one step each, and a handle that
is assigned while it is joinable takes the process down.

This is what is assumed of etcd:
- one order: requests take effect one after the other, and a range is read as it is at one revision;
- revisions: every change of a record has a revision of its own, one more than the last;
- leases: a lease that is granted has an id that was not in use, a put under a lease that is gone is refused,
  and when a lease expires all that was put under it goes in one change;
- nobody else: only the processes write below the prefix.

Not modelled are what `TryCancel` does to a stream, the text in which a backend hands over a snapshot, and the
flag `mWatchRunning` of `EtcdDiscovery`, which nothing reads. `StartWatchPrefix` of this backend does not
fail, so neither is what `WatchLoop` does if it does.
-/
import SomeServer.Ipc.Node
import SomeServer.Lib.Processes

namespace SomeServer

open Lib

/-! ## The store -/

/-- A member record; `writer` is the process that put it there. -/
structure EtcdRecord (P : Type) where
  value : String
  lease : UInt64
  writer : P
deriving DecidableEq

/-- The part of etcd that discovery uses. `standing` is what each process has put last, until it deletes its
key or the lease expires. -/
structure Etcd (P : Type) where
  revision : Nat := 0
  records : Table String (EtcdRecord P) := .empty
  leases : List UInt64 := []
  standing : P → Option (EtcdRecord P) := fun _ => none

namespace Etcd

variable {P : Type} [DecidableEq P]

/-- A lease that is granted has a new id. -/
def grant (e : Etcd P) (lease : UInt64) : Option (Etcd P) :=
  if lease = 0 ∨ lease ∈ e.leases then none else some { e with leases := lease :: e.leases }

/-- A put under a lease that there is not fails. -/
def put (e : Etcd P) (key : String) (record : EtcdRecord P) : Option (Etcd P) :=
  if record.lease ≠ 0 ∧ record.lease ∉ e.leases then none
  else some
    { e with
      revision := e.revision + 1
      records := e.records.set key record
      standing := Function.update e.standing record.writer (some record) }

/-- The process deletes a key. -/
def delete (e : Etcd P) (key : String) (p : P) : Etcd P :=
  { e with
    revision := if (e.records.get key).isSome then e.revision + 1 else e.revision
    records := e.records.erase key
    standing := Function.update e.standing p none }

/-- A lease expires, and with it what was put under it. -/
def expire (e : Etcd P) (lease : UInt64) : Etcd P where
  revision :=
    if e.records.keys.any fun key => (e.records.get key).any fun record => record.lease = lease then e.revision + 1
    else e.revision
  records := e.records.filter fun record => record.lease ≠ lease
  leases := e.leases.filter (· ≠ lease)
  standing p := (e.standing p).filter fun record => record.lease ≠ lease

/-- The values of the keys that start with a text. -/
def range (e : Etcd P) (keyPrefix : String) : List String :=
  (e.records.keys.filter fun key => keyPrefix.toList.isPrefixOf key.toList).filterMap fun key =>
    (e.records.get key).map EtcdRecord.value

end Etcd

structure EtcdDiscoveryOptions where
  keyPrefix : String := "/some_server/ipc/dev/local"
  leaseTtlSeconds : UInt32 := 5

/-- `MemberKey`. -/
def EtcdDiscoveryOptions.memberKey (options : EtcdDiscoveryOptions) (id : ProcessId) : String :=
  options.keyPrefix ++ "/members/" ++ id.serviceType.toNat.repr ++ "/" ++ id.instanceId.toNat.repr

/-- How the processes are configured, and how a descriptor is written as JSON and read. -/
structure DiscoveryConfig (P : Type) where
  options : P → EtcdDiscoveryOptions
  process : P → ProcessRef
  serializeDescriptor : ProcessDescriptor → String
  deserializeDescriptor : String → Option ProcessDescriptor

/-- The key of a process's own record. -/
def DiscoveryConfig.key {P : Type} (cfg : DiscoveryConfig P) (p : P) : String :=
  (cfg.options p).memberKey (cfg.process p).processId

namespace MembershipView

def empty : MembershipView := ⟨[], List.nodup_nil⟩

/-- `processes.erase(key)`. -/
def erase (view : MembershipView) (id : ProcessId) : MembershipView where
  members := view.members.filter fun member => member.process.processId ≠ id
  distinct := view.distinct.sublist (List.filter_sublist.map _)

/-- `processes[key] = process`. -/
def set (view : MembershipView) (process : ProcessDescriptor) : MembershipView where
  members := (view.erase process.process.processId).members ++ [process]
  distinct := by
    rw [List.map_append, List.nodup_append]
    refine ⟨(view.erase _).distinct, List.nodup_singleton _, ?_⟩
    intro id hid id' hid'
    obtain ⟨member, hmember, rfl⟩ := List.mem_map.mp hid
    obtain rfl := List.mem_singleton.mp hid'
    simpa using (List.mem_filter.mp hmember).2

end MembershipView

/-- `ParseSnapshot`: a value that is not a descriptor fails the whole. -/
def DiscoveryConfig.parseSnapshot {P : Type} (cfg : DiscoveryConfig P) (values : List String) : Option MembershipView :=
  values.foldlM (fun refreshed value => (cfg.deserializeDescriptor value).map refreshed.set) .empty

/-! ## What a process keeps -/

/-- The threads that call, the watch threads of `EtcdDiscovery` and of its backend, and what befalls the
process from outside. -/
inductive DiscoveryThread (A : Type) where
  | caller (a : A)
  | watch (n : Nat)
  | stream (n : Nat)
  | outside
deriving DecidableEq

inductive WatchPollKind where
  | event
  | streamClosed
  | stopped
  | error
deriving DecidableEq, Repr

/-- The watch of the backend; `streams` counts the threads that it has started. -/
structure EtcdSdkDiscoveryBackend where
  watchQueue : List WatchPollKind := []
  watchThread : Option Nat := none
  watchRunning : Bool := false
  watchStopRequested : Bool := false
  streams : Nat := 0
deriving DecidableEq

structure EtcdDiscoveryRuntimeStats where
  watchRestartCount : Nat := 0
  watchStreamClosedCount : Nat := 0
  snapshotRefreshFailureCount : Nat := 0
deriving DecidableEq

/-- What has gone into the view: a snapshot that was read, or the process's own record. `since` is how much had
gone into the view before when the snapshot was read. -/
structure Applied (A : Type) where
  thread : DiscoveryThread A
  revision : Nat
  read : Bool
  since : Nat

/-- `watches` counts the watch threads. `stopCalled` says that the last `StopWatch` came after the last
`StartWatch`. -/
structure EtcdDiscovery (A : Type) where
  processes : MembershipView := .empty
  events : List MembershipEvent := []
  self : Option ProcessDescriptor := none
  leaseId : UInt64 := 0
  mutex : Option (DiscoveryThread A) := none
  watchThread : Option Nat := none
  stopWatch : Bool := false
  runtimeStats : EtcdDiscoveryRuntimeStats := {}
  backend : EtcdSdkDiscoveryBackend := {}
  watches : Nat := 0
  terminated : Bool := false
  ended : Bool := false
  stopCalled : Bool := false
  applied : List (Applied A) := []

/-- The process runs. -/
def EtcdDiscovery.live {A : Type} (d : EtcdDiscovery A) : Bool := !d.terminated && !d.ended

namespace EtcdSdkDiscoveryBackend

/-- `PushWatchResult`. -/
def pushWatchResult (b : EtcdSdkDiscoveryBackend) (result : WatchPollKind) : EtcdSdkDiscoveryBackend :=
  { b with watchQueue := b.watchQueue ++ [result] }

/-- `StopWatch`, without the join of the thread that it takes. -/
def stopWatch (b : EtcdSdkDiscoveryBackend) : EtcdSdkDiscoveryBackend :=
  { b with
    watchQueue := b.watchQueue ++ [.stopped]
    watchThread := none
    watchRunning := false
    watchStopRequested := true }

/-- `StartWatchPrefix`, when there is no thread yet. -/
def startWatchPrefix (b : EtcdSdkDiscoveryBackend) : EtcdSdkDiscoveryBackend where
  watchQueue := []
  watchThread := some b.streams
  watchRunning := true
  watchStopRequested := false
  streams := b.streams + 1

end EtcdSdkDiscoveryBackend

/-! ## Tasks -/

inductive DiscoveryTask where
  /-- `RegisterSelf` takes the mutex. -/
  | registerSelf (self : ProcessDescriptor)
  /-- `GrantLease`, and what comes then; `retry` when a put that fails is made again. -/
  | grantLease (self : ProcessDescriptor) (retry : Bool)
  | put (self : ProcessDescriptor) (retry : Bool)
  /-- The rest of `RegisterSelf`; the revision is the one of the put. -/
  | recordSelf (self : ProcessDescriptor) (revision : Nat)
  | unlock
  /-- The sections of `KeepAliveOnce`, and its request. -/
  | keepAliveOnce
  | keepAlive (lease : UInt64)
  | clearLease
  /-- `RefreshSnapshot`; `starting` when it is the first one of `StartWatch`. -/
  | refreshSnapshot (starting : Bool)
  | applySnapshot (refreshed : MembershipView) (revision : Nat) (since : Nat)
  | refreshFailed
  /-- The section of `StartWatch`, and the start of its thread. -/
  | startWatch
  | assignWatchThread
  /-- The section of `StopWatch`, which takes the mutex, and its end. -/
  | stopWatch
  | joinWatchThread
  /-- `StopWatch` of the backend, and its join. -/
  | stopBackend
  | joinStream (n : Nat)
  /-- `Remove` takes the mutex. -/
  | remove (id : ProcessId)
  | delete (id : ProcessId)
  | forget (id : ProcessId)
  | drainEvents
  /-- The head of `WatchLoop`. -/
  | watchLoop
  | waitForWatchEvent
  /-- A section in which `WatchLoop` finds that it has been stopped. -/
  | leaveWatchLoop
  /-- The section after a stream was closed, and the one after the restart. -/
  | streamClosed
  | pause
  /-- The section after the loop. -/
  | finishWatchLoop
  /-- The `WatchLoop` of the backend: the stream is made, and read. -/
  | openStream
  | readStream
  /-- The stream is finished; `emitted` when its end has been told. -/
  | finishStream (emitted : Bool)
  | clearWatchRunning (result : Option WatchPollKind)
  | pushWatchResult (result : WatchPollKind)
  /-- From outside: a lease expires, the process ends. -/
  | expire (lease : UInt64)
  | endProcess

/-- What the threads of a process do, and what happens to it. -/
inductive DiscoveryOp where
  | registerSelf (self : ProcessDescriptor)
  | keepAliveOnce
  | refreshSnapshot
  | startWatch
  | stopWatch
  | remove
  | drainEvents
  | expire (lease : UInt64)
  | endProcess

/-- The tasks of a call. A process registers and removes itself. -/
def DiscoveryOp.tasks (self : ProcessRef) : DiscoveryOp → Option (List DiscoveryTask)
  | registerSelf descriptor => if descriptor.process = self then some [.registerSelf descriptor] else none
  | keepAliveOnce => some [.keepAliveOnce]
  | refreshSnapshot => some [.refreshSnapshot false]
  | startWatch => some [.startWatch]
  | stopWatch => some [.stopWatch]
  | remove => some [.remove self.processId]
  | drainEvents => some [.drainEvents]
  | expire _ | endProcess => none

/-- The tasks of what comes from outside. -/
def DiscoveryOp.befalls : DiscoveryOp → Option (List DiscoveryTask)
  | expire lease => some [.expire lease]
  | endProcess => some [.endProcess]
  | _ => none

/-- What `Read` brings: that the watch is canceled, events, a response without any, or the end. -/
inductive StreamRead where
  | canceled
  | events
  | nothing
  | finished
deriving DecidableEq, Repr

/-- What the system answers: whether a request succeeds, whether one that fails has had its effect, the lease
that is granted, which descriptors differ in what is not modelled, what a stream brings, and whether its
status is that it was closed. -/
structure DiscoveryInput where
  ok : Bool := true
  effect : Bool := false
  lease : UInt64 := 0
  changed : ProcessId → Bool := fun _ => false
  read : StreamRead := .finished
  closed : Bool := true

/-! ## Steps -/

section Steps

variable {P A : Type} [DecidableEq P]

/-- `RefreshSnapshot` until it has parsed what it read. -/
def refreshTasks (cfg : DiscoveryConfig P) (p : P) (i : DiscoveryInput) (e : Etcd P) (d : EtcdDiscovery A)
    (starting : Bool) : List DiscoveryTask :=
  match (if i.ok then cfg.parseSnapshot (e.range ((cfg.options p).keyPrefix ++ "/members/")) else none) with
  | none => [.refreshFailed]
  | some refreshed =>
      .applySnapshot refreshed e.revision d.applied.length ::
        (if starting then [.assignWatchThread, .refreshSnapshot false] else [])

omit [DecidableEq P] in
theorem refreshTasks_eq (cfg : DiscoveryConfig P) (p : P) (i : DiscoveryInput) (e : Etcd P) (d : EtcdDiscovery A)
    (starting : Bool) : refreshTasks cfg p i e d starting = [.refreshFailed] ∨
      ∃ refreshed, refreshTasks cfg p i e d starting = .applySnapshot refreshed e.revision d.applied.length ::
        (if starting then [.assignWatchThread, .refreshSnapshot false] else []) := by
  unfold refreshTasks
  split
  · exact .inl rfl
  · exact .inr ⟨_, rfl⟩

omit [DecidableEq P] in
theorem mem_refreshTasks {cfg : DiscoveryConfig P} {p : P} {i : DiscoveryInput} {e : Etcd P} {d : EtcdDiscovery A}
    {starting : Bool} {k : DiscoveryTask} (h : k ∈ refreshTasks cfg p i e d starting) :
    k = .refreshFailed ∨ (∃ view revision since, k = .applySnapshot view revision since) ∨
      (starting = true ∧ (k = .assignWatchThread ∨ k = .refreshSnapshot false)) := by
  rcases refreshTasks_eq cfg p i e d starting with heq | ⟨refreshed, heq⟩ <;> rw [heq] at h
  · exact .inl (List.mem_singleton.mp h)
  · rcases List.mem_cons.mp h with rfl | h
    · exact .inr (.inl ⟨_, _, _, rfl⟩)
    · split at h
      · rename_i hstarting
        exact .inr (.inr ⟨hstarting, by simpa using h⟩)
      · cases h

/-- `Put`: etcd after it, if the request reaches it and is not refused. -/
def putRequest (cfg : DiscoveryConfig P) (p : P) (i : DiscoveryInput) (e : Etcd P) (d : EtcdDiscovery A)
    (self : ProcessDescriptor) : Option (Etcd P) :=
  if i.ok || i.effect then
    e.put ((cfg.options p).memberKey self.process.processId) ⟨cfg.serializeDescriptor self, d.leaseId, p⟩
  else none

/-- What a thread does with its first task. -/
def DiscoveryTask.perform (cfg : DiscoveryConfig P) (p : P) (free : DiscoveryThread A → Bool) (t : DiscoveryThread A)
    (i : DiscoveryInput) (e : Etcd P) (d : EtcdDiscovery A) :
    DiscoveryTask → Option (Performed (DiscoveryThread A) DiscoveryTask (Etcd P × EtcdDiscovery A))
  | registerSelf self =>
      -- The mutex stays taken over the requests, until `unlock`.
      if d.mutex ≠ none then none
      else some
        { shared := (e, { d with mutex := some t })
          tasks :=
            [if (cfg.options p).leaseTtlSeconds > 0 ∧ d.leaseId = 0 then grantLease self true else put self true,
              unlock] }
  | grantLease self retry =>
      if !i.ok then some { shared := (e, d) }
      else (e.grant i.lease).map fun e =>
        { shared := (e, { d with leaseId := i.lease }), tasks := [put self retry] }
  | put self retry =>
      match putRequest cfg p i e d self, i.ok with
      | some e, true => some { shared := (e, d), tasks := [recordSelf self e.revision] }
      -- A request that failed may have reached etcd all the same.
      | reached, _ =>
          if retry ∧ (cfg.options p).leaseTtlSeconds > 0 then some
            { shared := (reached.getD e, { d with leaseId := 0 }), tasks := [grantLease self false] }
          else some { shared := (reached.getD e, d) }
  | recordSelf self revision => some { shared :=
      (e,
        { d with
          self := some self
          processes := d.processes.set self
          applied := d.applied ++ [⟨t, revision, false, d.applied.length⟩] }) }
  | unlock => some { shared := (e, { d with mutex := none }) }
  | keepAliveOnce =>
      -- The request is made without the mutex, for the lease that was read under it.
      if d.mutex ≠ none then none
      else some { shared := (e, d), tasks := if d.leaseId = 0 then [] else [keepAlive d.leaseId] }
  | keepAlive _ => some { shared := (e, d), tasks := if i.ok then [] else [clearLease] }
  | clearLease => if d.mutex ≠ none then none else some { shared := (e, { d with leaseId := 0 }) }
  | refreshSnapshot starting => some { shared := (e, d), tasks := refreshTasks cfg p i e d starting }
  | applySnapshot refreshed revision since =>
      if d.mutex ≠ none then none
      else some { shared :=
        (e,
          { d with
            events := d.events ++ queueDiffEvents d.processes refreshed i.changed
            processes := refreshed
            applied := d.applied ++ [⟨t, revision, true, since⟩] }) }
  | refreshFailed =>
      if d.mutex ≠ none then none
      else some { shared :=
        (e,
          { d with
            runtimeStats :=
              { d.runtimeStats with
                snapshotRefreshFailureCount := d.runtimeStats.snapshotRefreshFailureCount + 1 } }) }
  | startWatch =>
      if d.mutex ≠ none then none
      -- With a thread to join it returns early, and `mStopWatch` stays what it is.
      else if d.watchThread.isSome then some { shared := (e, { d with stopCalled := false }) }
      else some { shared := (e, { d with stopWatch := false, stopCalled := false }), tasks := [refreshSnapshot true] }
  | assignWatchThread =>
      -- A `std::thread` that is joinable is assigned to: `std::terminate`.
      if d.watchThread.isSome then some { shared := (e, { d with terminated := true }) }
      else some
        { shared := (e, { d with watchThread := some d.watches, watches := d.watches + 1 })
          started := some (.watch d.watches, [watchLoop]) }
  | stopWatch =>
      if d.mutex ≠ none then none
      else some
        { shared := (e, { d with mutex := some t, stopWatch := true, stopCalled := true })
          tasks := [stopBackend, unlock, joinWatchThread] }
  | joinWatchThread =>
      match d.watchThread with
      | none => some { shared := (e, d) }
      | some n => if free (.watch n) then some { shared := (e, { d with watchThread := none }) } else none
  | stopBackend => some
      { shared := (e, { d with backend := d.backend.stopWatch })
        tasks := d.backend.watchThread.toList.map joinStream }
  | joinStream n => if free (.stream n) then some { shared := (e, d) } else none
  | remove id =>
      if d.mutex ≠ none then none
      else some { shared := (e, { d with mutex := some t }), tasks := [delete id, unlock] }
  | delete id => some
      { shared := (if i.ok || i.effect then e.delete ((cfg.options p).memberKey id) p else e, d)
        tasks := if i.ok then [forget id] else [] }
  | forget id =>
      let processes := d.processes.erase id
      if d.self.any fun self => self.process.processId = id then some
        { shared := (e, { d with processes, self := none, leaseId := 0 }) }
      else some { shared := (e, { d with processes }) }
  | drainEvents => if d.mutex ≠ none then none else some { shared := (e, { d with events := [] }) }
  | watchLoop =>
      if d.mutex ≠ none then none
      else if d.stopWatch then some { shared := (e, d), tasks := [finishWatchLoop] }
      else if d.backend.watchRunning then some { shared := (e, d), tasks := [waitForWatchEvent] }
      -- As above, for the thread of the stream.
      else if d.backend.watchThread.isSome then some { shared := (e, { d with terminated := true }) }
      else some
        { shared := (e, { d with backend := d.backend.startWatchPrefix })
          tasks := [waitForWatchEvent]
          started := some (.stream d.backend.streams, [openStream]) }
  | waitForWatchEvent =>
      match d.backend.watchQueue with
      | result :: results => some
          { shared := (e, { d with backend := { d.backend with watchQueue := results } })
            tasks := match result with
              | .event => [refreshSnapshot false, waitForWatchEvent]
              | .stopped => [leaveWatchLoop]
              | .streamClosed | .error => [streamClosed] }
      -- An empty queue is taken for a stop once the flag is cleared.
      | [] => if d.backend.watchRunning then none else some { shared := (e, d), tasks := [leaveWatchLoop] }
  | leaveWatchLoop => if d.mutex ≠ none then none else some { shared := (e, d) }
  | streamClosed =>
      if d.mutex ≠ none then none
      else if d.stopWatch then some { shared := (e, { d with mutex := some t }), tasks := [stopBackend, unlock] }
      else some
        { shared :=
            (e,
              { d with
                runtimeStats :=
                  { d.runtimeStats with
                    watchStreamClosedCount := d.runtimeStats.watchStreamClosedCount + 1
                    watchRestartCount := d.runtimeStats.watchRestartCount + 1 } })
          tasks := [refreshSnapshot false, stopBackend, pause] }
  | pause =>
      if d.mutex ≠ none then none
      else some { shared := (e, d), tasks := if d.stopWatch then [finishWatchLoop] else [watchLoop] }
  | finishWatchLoop =>
      if d.mutex ≠ none then none
      else some { shared := (e, { d with mutex := some t }), tasks := [stopBackend, unlock] }
  | openStream => some { shared := (e, d), tasks := if i.ok then [readStream] else [clearWatchRunning (some .error)] }
  | readStream => some
      { shared := (e, d)
        tasks := match i.read with
          | .canceled => [pushWatchResult .streamClosed, finishStream true]
          | .events => [pushWatchResult .event, readStream]
          | .nothing => [readStream]
          | .finished => [finishStream false] }
  | finishStream emitted => some
      { shared := (e, d)
        tasks := [clearWatchRunning
          (if d.backend.watchStopRequested then some .stopped
          else if emitted then none
          else if i.closed then some .streamClosed
          else some .error)] }
  | clearWatchRunning result => some
      { shared := (e, { d with backend := { d.backend with watchRunning := false } })
        tasks := result.toList.map pushWatchResult }
  | pushWatchResult result => some { shared := (e, { d with backend := d.backend.pushWatchResult result }) }
  | expire lease => if lease ≠ 0 ∧ lease ∈ e.leases then some { shared := (e.expire lease, d) } else none
  | endProcess => some { shared := (e, { d with ended := true }) }

-- The equations are made here, once for the lemmas below.
attribute [local simp] DiscoveryTask.perform in
/-- A lease is granted, and the put comes next, or nothing more is done. -/
theorem EtcdDiscovery.perform_grantLease {cfg : DiscoveryConfig P} {p : P} {free : DiscoveryThread A → Bool}
    {t : DiscoveryThread A} {i : DiscoveryInput} {e : Etcd P} {d : EtcdDiscovery A} {self : ProcessDescriptor}
    {retry : Bool} {r : Performed (DiscoveryThread A) DiscoveryTask (Etcd P × EtcdDiscovery A)}
    (h : (DiscoveryTask.grantLease self retry).perform cfg p free t i e d = some r) :
    r = { shared := (e, d) } ∨ ∃ e', e.grant i.lease = some e' ∧
      r = { shared := (e', { d with leaseId := i.lease }), tasks := [.put self retry] } := by
  simp only [DiscoveryTask.perform] at h
  split at h
  · exact .inl (Option.some.inj h).symm
  · obtain ⟨e', he', rfl⟩ := Option.map_eq_some_iff.mp h
    exact .inr ⟨e', he', rfl⟩

/-- A put is recorded if it succeeds; otherwise it is made again under a new lease, or given up. -/
theorem EtcdDiscovery.perform_put {cfg : DiscoveryConfig P} {p : P} {free : DiscoveryThread A → Bool}
    {t : DiscoveryThread A} {i : DiscoveryInput} {e : Etcd P} {d : EtcdDiscovery A} {self : ProcessDescriptor}
    {retry : Bool} {r : Performed (DiscoveryThread A) DiscoveryTask (Etcd P × EtcdDiscovery A)}
    (h : (DiscoveryTask.put self retry).perform cfg p free t i e d = some r) :
    r.shared.1 = (putRequest cfg p i e d self).getD e ∧
      ((r.shared.2 = d ∧ r.tasks = [.recordSelf self r.shared.1.revision]) ∨
        (r.shared.2 = { d with leaseId := 0 } ∧ r.tasks = [.grantLease self false]) ∨
        (r.shared.2 = d ∧ r.tasks = [])) := by
  simp only [DiscoveryTask.perform] at h
  (repeat' split at h) <;> obtain rfl := Option.some.inj h
  · rename_i hput hok
    exact ⟨by rw [hput]; rfl, .inl ⟨rfl, rfl⟩⟩
  · exact ⟨rfl, .inr (.inl ⟨rfl, rfl⟩)⟩
  · exact ⟨rfl, .inr (.inr ⟨rfl, rfl⟩)⟩

/-- Only watch threads and the threads of streams are started, each with its loop before it. -/
theorem EtcdDiscovery.started_cases {cfg : DiscoveryConfig P} {p : P} {free : DiscoveryThread A → Bool}
    {t u : DiscoveryThread A} {i : DiscoveryInput} {e : Etcd P} {d : EtcdDiscovery A} {k : DiscoveryTask}
    {r : Performed (DiscoveryThread A) DiscoveryTask (Etcd P × EtcdDiscovery A)} {first : List DiscoveryTask}
    (h : k.perform cfg p free t i e d = some r) (hfirst : r.started = some (u, first)) :
    (k = .assignWatchThread ∧ u = .watch d.watches ∧ first = [.watchLoop]) ∨
      (k = .watchLoop ∧ u = .stream d.backend.streams ∧ first = [.openStream]) := by
  cases k with
  | grantLease self retry => rcases perform_grantLease h with rfl | ⟨e', -, rfl⟩ <;> cases hfirst
  | _ =>
      simp only [DiscoveryTask.perform] at h
      (repeat' split at h) <;> first
        | (obtain rfl := Option.some.inj h; cases hfirst; done)
        | (obtain rfl := Option.some.inj h; cases hfirst; exact .inl ⟨rfl, rfl, rfl⟩)
        | (obtain rfl := Option.some.inj h; cases hfirst; exact .inr ⟨rfl, rfl, rfl⟩)
        | contradiction

/-- What comes from outside. -/
def DiscoveryTask.befalls : DiscoveryTask → Bool
  | expire _ | endProcess => true
  | _ => false

/-- A process; when it has ended, its threads do nothing more. -/
def discoveryWork (A : Type) (cfg : DiscoveryConfig P) (p : P) :
    TaskSystem (DiscoveryThread A) DiscoveryOp DiscoveryTask DiscoveryInput (Etcd P × EtcdDiscovery A) where
  begin t o := match t with
    | .caller _ => o.tasks (cfg.process p)
    | .outside => o.befalls
    | _ => none
  exec free t k i s := if s.2.live || k.befalls then k.perform cfg p free t i s.1 s.2 else none

/-- The tasks that a call of the process begins with. -/
def DiscoveryTask.begins (self : ProcessRef) : DiscoveryTask → Bool
  | registerSelf descriptor => descriptor.process = self
  | remove id => id = self.processId
  | refreshSnapshot starting => !starting
  | keepAliveOnce | startWatch | stopWatch | drainEvents => true
  | _ => false

/-- Only callers begin calls, and each with one task. -/
theorem EtcdDiscovery.begin_cases {A : Type} {cfg : DiscoveryConfig P} {p : P} {t : DiscoveryThread A}
    {o : DiscoveryOp} {ks : List DiscoveryTask} (h : (discoveryWork A cfg p).begin t o = some ks) :
    ∃ k, ks = [k] ∧ (((∃ a, t = .caller a) ∧ k.begins (cfg.process p) = true) ∨ (t = .outside ∧ k.befalls = true)) := by
  cases t with
  | caller a =>
      cases o with
      -- a process registers no other one
      | registerSelf descriptor =>
          have hks : (if descriptor.process = cfg.process p then some [DiscoveryTask.registerSelf descriptor] else none) =
              some ks := h
          split at hks
          · rename_i hself
            cases hks
            exact ⟨_, rfl, .inl ⟨⟨a, rfl⟩, decide_eq_true hself⟩⟩
          · cases hks
      | remove =>
          cases h
          exact ⟨_, rfl, .inl ⟨⟨a, rfl⟩, decide_eq_true rfl⟩⟩
      | expire lease | endProcess => cases h
      | _ =>
          cases h
          exact ⟨_, rfl, .inl ⟨⟨a, rfl⟩, rfl⟩⟩
  | outside =>
      cases o with
      | expire lease | endProcess =>
          cases h
          exact ⟨_, rfl, .inr ⟨rfl, rfl⟩⟩
      | _ => cases h
  -- the threads of the service begin no calls
  | watch n | stream m => cases h

theorem EtcdDiscovery.perform_of_exec {A : Type} {cfg : DiscoveryConfig P} {p : P}
    {free : DiscoveryThread A → Bool} {t : DiscoveryThread A} {k : DiscoveryTask} {i : DiscoveryInput}
    {s : Etcd P × EtcdDiscovery A} {r : Performed (DiscoveryThread A) DiscoveryTask (Etcd P × EtcdDiscovery A)}
    (h : (discoveryWork A cfg p).exec free t k i s = some r) : k.perform cfg p free t i s.1 s.2 = some r := by
  simp only [discoveryWork] at h
  split at h
  · exact h
  · cases h

/-- All processes, with etcd. -/
abbrev DiscoveryFleet (P A : Type) : Type := Crew (P × DiscoveryThread A) DiscoveryTask (Etcd P × (P → EtcdDiscovery A))

/-- What one of them has. -/
abbrev DiscoveryCrew (P A : Type) : Type := Crew (DiscoveryThread A) DiscoveryTask (Etcd P × EtcdDiscovery A)

abbrev fleetWork (A : Type) [DecidableEq A] (cfg : DiscoveryConfig P) :
    TaskSystem (P × DiscoveryThread A) DiscoveryOp DiscoveryTask DiscoveryInput (Etcd P × (P → EtcdDiscovery A)) :=
  .many (discoveryWork A cfg)

/-- The fleet before any process has done anything, with an empty etcd. -/
def createdFleet (P A : Type) : DiscoveryFleet P A := ⟨({}, fun _ => {}), fun _ => []⟩

end Steps

end SomeServer
