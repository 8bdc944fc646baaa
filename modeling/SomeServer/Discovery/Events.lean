/-
# SomeServer.Discovery.Events — the membership events tell all that `All` does

`EtcdDiscovery` keeps a table of the members and queues an event for each member that a new snapshot has
added, changed or removed. Here are the descriptors with all their fields, the table, and the four operations
of one process on it, each as one step: the mutex is held where the table changes.

The tables are hash tables. The order of a walk is that of the list here, and a walk of the same table later
may be in another order. What a request to etcd brings is an input, as is the table that a snapshot is read
into. A consumer that drains the events and makes the edits they tell of has the same members, except perhaps
for the process's own record: `RegisterSelf` and `Remove` change that one without an event.
-/
import SomeServer.Discovery.Etcd
import SomeServer.Ipc.Redial
import SomeServer.Lib.Edits
import Mathlib.Logic.Relation

namespace SomeServer

namespace Members

open Lib

/-! ## Descriptors and tables -/

structure Endpoint where
  host : String := ""
  port : UInt16 := 0
deriving DecidableEq, Repr

/-- `ProcessDescriptor`, with the fields that routing does not read. -/
structure Descriptor extends ProcessDescriptor where
  serviceName : String := ""
  listenEndpoint : Endpoint := {}
  protocolVersion : UInt32 := 0
  startTimeUnixMs : UInt64 := 0
  relayCapabilities : List ServiceType := []
deriving DecidableEq, Repr

/-- `MakeKey`. -/
def makeKey (id : ProcessId) : UInt64 := id.serviceType.toUInt64 <<< 32 ||| id.instanceId.toUInt64

theorem makeKey_injective : Function.Injective makeKey := makeProcessKey_injective

/-- The key that a member is kept under. -/
def Descriptor.key (process : Descriptor) : UInt64 := makeKey process.process.processId

/-- The table of the members, in the order in which it is walked. -/
structure MemberTable where
  members : List Descriptor
  distinct : (members.map Descriptor.key).Nodup

namespace MemberTable

def empty : MemberTable := ⟨[], List.nodup_nil⟩

/-- `processes.find(key)`. -/
def find (table : MemberTable) (key : UInt64) : Option Descriptor :=
  table.members.find? fun process => process.key = key

/-- `processes.erase(key)`. -/
def erase (table : MemberTable) (key : UInt64) : MemberTable where
  members := table.members.filter fun process => process.key ≠ key
  distinct := table.distinct.sublist (List.filter_sublist.map _)

/-- `processes[MakeKey(process.process.process_id)] = process`. -/
def set (table : MemberTable) (process : Descriptor) : MemberTable where
  members := (table.erase process.key).members ++ [process]
  distinct := by
    rw [List.map_append, List.nodup_append]
    refine ⟨(table.erase process.key).distinct, List.nodup_singleton _, ?_⟩
    intro key hkey key' hkey'
    obtain ⟨member, hmember, rfl⟩ := List.mem_map.1 hkey
    obtain rfl := List.mem_singleton.1 hkey'
    simpa using (List.mem_filter.1 hmember).2

variable {table other : MemberTable} {process : Descriptor} {key : UInt64}

theorem find_eq_some : table.find key = some process ↔ process ∈ table.members ∧ process.key = key := by
  cases hfound : table.find key with
  | none =>
      have habsent := List.find?_eq_none.1 hfound
      simp only [decide_eq_true_eq] at habsent
      simpa using habsent process
  | some found =>
      have hmem := List.mem_of_find?_eq_some hfound
      have hkey : found.key = key := by simpa using List.find?_some hfound
      rw [Option.some.injEq]
      constructor
      · rintro rfl
        exact ⟨hmem, hkey⟩
      · rintro ⟨hprocess, rfl⟩
        exact List.inj_on_of_nodup_map table.distinct hmem hprocess hkey

theorem find_eq_none : table.find key = none ↔ ∀ process ∈ table.members, process.key ≠ key := by
  simp [find, List.find?_eq_none]

/-- Walking a table in another order finds the same. -/
theorem find_perm (h : table.members.Perm other.members) : table.find = other.find := by
  funext key
  apply Option.ext
  intro process
  rw [find_eq_some, find_eq_some, h.mem_iff]

theorem find_erase_of_ne {erased : UInt64} (h : key ≠ erased) :
    (table.erase erased).find key = table.find key := by
  apply Option.ext
  intro found
  simp only [find_eq_some, erase, List.mem_filter]
  grind

theorem find_set_of_ne (h : key ≠ process.key) : (table.set process).find key = table.find key := by
  apply Option.ext
  intro found
  simp only [find_eq_some, set, erase, List.mem_append, List.mem_filter, List.mem_singleton]
  grind

end MemberTable

/-! ## Events -/

structure MemberEvent where
  type : MembershipEventType
  process : Descriptor
deriving DecidableEq, Repr

/-- The comparison of `QueueDiffEvents`, field by field. -/
def Descriptor.differs (before process : Descriptor) : Bool :=
  before.process ≠ process.process ∨ before.listenEndpoint ≠ process.listenEndpoint ∨
    before.protocolVersion ≠ process.protocolVersion ∨ before.startTimeUnixMs ≠ process.startTimeUnixMs ∨
    before.serviceName ≠ process.serviceName ∨ before.labels ≠ process.labels ∨
    before.relayCapabilities ≠ process.relayCapabilities

/-- The list of the fields is complete. -/
theorem Descriptor.differs_iff {before process : Descriptor} :
    before.differs process = true ↔ before ≠ process := by
  obtain ⟨⟨ref, labels⟩, name, endpoint, version, time, relays⟩ := before
  obtain ⟨⟨ref', labels'⟩, name', endpoint', version', time', relays'⟩ := process
  simp only [differs, decide_eq_true_eq, ne_eq, mk.injEq, ProcessDescriptor.mk.injEq]
  tauto

/-- What `QueueDiffEvents` queues for a member of the new table. -/
def diffEvent (previous : MemberTable) (process : Descriptor) : Option MemberEvent :=
  match previous.find process.key with
  | none => some ⟨.added, process⟩
  | some before => if before.differs process then some ⟨.updated, process⟩ else none

/-- `QueueDiffEvents`: what it adds to the events. -/
def queueDiffEvents (previous current : MemberTable) : List MemberEvent :=
  current.members.filterMap (diffEvent previous) ++
    (previous.members.filter fun process => (current.find process.key).isNone).map fun process =>
      ⟨.removed, process⟩

/-- The edit of the members that an event tells of. -/
def MemberEvent.edit (event : MemberEvent) : UInt64 × Option Descriptor :=
  match event.type with
  | .added => (event.process.key, some event.process)
  | .updated => (event.process.key, some event.process)
  | .removed => (event.process.key, none)

/-- The members of a consumer after some events. -/
def consume (events : List MemberEvent) (members : UInt64 → Option Descriptor) : UInt64 → Option Descriptor :=
  replay (events.map MemberEvent.edit) members

section

variable {previous current : MemberTable} {process : Descriptor} {event : MemberEvent}
  {events : List MemberEvent} {key : UInt64}

/-- What is queued for a member of the new table. -/
theorem diffEvent_eq_some : diffEvent previous process = some event ↔
    event.process = process ∧ (event.type = .added ∧ previous.find process.key = none ∨
      event.type = .updated ∧ ∃ before, previous.find process.key = some before ∧ before ≠ process) := by
  obtain ⟨type, member⟩ := event
  unfold diffEvent
  cases hfind : previous.find process.key with
  | none => simp only [Option.some.injEq, MemberEvent.mk.injEq]; grind
  | some before =>
      simp only [Option.ite_none_right_eq_some, Option.some.injEq, MemberEvent.mk.injEq,
        Descriptor.differs_iff]
      grind

theorem mem_queueDiffEvents : event ∈ queueDiffEvents previous current ↔
    event.process ∈ current.members ∧ diffEvent previous event.process = some event ∨
      event.process ∈ previous.members ∧ current.find event.process.key = none ∧ event.type = .removed := by
  obtain ⟨type, process⟩ := event
  simp only [queueDiffEvents, List.mem_append, List.mem_filterMap, List.mem_map, List.mem_filter,
    MemberEvent.mk.injEq, Option.isNone_iff_eq_none]
  constructor
  · rintro (⟨member, hmember, hevent⟩ | ⟨member, ⟨hmember, hfind⟩, rfl, rfl⟩)
    · obtain rfl : process = member := (diffEvent_eq_some.1 hevent).1
      exact .inl ⟨hmember, hevent⟩
    · exact .inr ⟨hmember, hfind, rfl⟩
  · rintro (⟨hmember, hevent⟩ | ⟨hmember, hfind, rfl⟩)
    · exact .inl ⟨process, hmember, hevent⟩
    · exact .inr ⟨process, ⟨hmember, hfind⟩, rfl, rfl⟩

theorem added_iff : ⟨.added, process⟩ ∈ queueDiffEvents previous current ↔
    process ∈ current.members ∧ previous.find process.key = none := by
  simp [mem_queueDiffEvents, diffEvent_eq_some]

theorem updated_iff : ⟨.updated, process⟩ ∈ queueDiffEvents previous current ↔
    process ∈ current.members ∧ ∃ before, previous.find process.key = some before ∧ before ≠ process := by
  simp [mem_queueDiffEvents, diffEvent_eq_some]

theorem removed_iff : ⟨.removed, process⟩ ∈ queueDiffEvents previous current ↔
    process ∈ previous.members ∧ current.find process.key = none := by
  simp [mem_queueDiffEvents, diffEvent_eq_some]

theorem edit_fst (event : MemberEvent) : event.edit.1 = event.process.key := by
  unfold MemberEvent.edit
  cases event.type <;> rfl

/-- No member has two events. -/
theorem queueDiffEvents_distinct :
    ((queueDiffEvents previous current).map fun event => event.process.key).Nodup := by
  rw [queueDiffEvents, List.map_append, List.nodup_append]
  refine ⟨?_, ?_, ?_⟩
  · rw [List.nodup_iff_pairwise_ne, List.pairwise_map]
    refine List.Pairwise.filterMap _ ?_ (List.pairwise_map.1 current.distinct)
    intro process process' hne event hevent event' hevent'
    rw [(diffEvent_eq_some.1 hevent).1, (diffEvent_eq_some.1 hevent').1]
    exact hne
  · rw [List.map_map]
    exact previous.distinct.sublist (List.filter_sublist.map _)
  · intro key hkey key' hkey' hsame
    obtain ⟨event, hevent, rfl⟩ := List.mem_map.1 hkey
    obtain ⟨event', hevent', rfl⟩ := List.mem_map.1 hkey'
    obtain ⟨process, hprocess, hdiff⟩ := List.mem_filterMap.1 hevent
    obtain ⟨removed, hremoved, rfl⟩ := List.mem_map.1 hevent'
    rw [(diffEvent_eq_some.1 hdiff).1] at hsame
    have hnone : current.find removed.key = none := by simpa using (List.mem_filter.1 hremoved).2
    exact MemberTable.find_eq_none.1 hnone process hprocess hsame

/-- A key that both tables have the same at has no event. -/
theorem no_event (h : previous.find key = current.find key)
    (hevent : event ∈ queueDiffEvents previous current) : event.process.key ≠ key := by
  rintro rfl
  rcases mem_queueDiffEvents.1 hevent with ⟨hcurrent, hdiff⟩ | ⟨hprevious, hnone, -⟩
  · have hfind := MemberTable.find_eq_some.2 ⟨hcurrent, rfl⟩
    rcases (diffEvent_eq_some.1 hdiff).2 with ⟨-, habsent⟩ | ⟨-, before, hbefore, hne⟩
    · rw [habsent, hfind] at h
      cases h
    · rw [hbefore, hfind] at h
      exact hne (Option.some.inj h)
  · rw [hnone] at h
    exact MemberTable.find_eq_none.1 h _ hprevious rfl

/-- The events lead from the one table to the other, in any order. -/
theorem consume_queueDiffEvents (h : events.Perm (queueDiffEvents previous current)) :
    consume events previous.find = current.find := by
  have hkeys : (events.map MemberEvent.edit).map Prod.fst = events.map fun event => event.process.key := by
    rw [List.map_map]
    exact List.map_congr_left fun event _ => edit_fst event
  -- one event at most for each key, so the order of the replay does not matter
  have hdistinct : ((events.map MemberEvent.edit).map Prod.fst).Nodup := by
    rw [hkeys]
    exact (h.map _).nodup_iff.2 queueDiffEvents_distinct
  have hedit : ∀ event ∈ queueDiffEvents previous current,
      consume events previous.find event.edit.1 = event.edit.2 := by
    intro event hevent
    exact replay_of_mem hdistinct (List.mem_map_of_mem (h.mem_iff.2 hevent))
  funext key
  -- a key is untouched where the tables agree, and has the one event that leads over where they do not
  by_cases hsame : previous.find key = current.find key
  · rw [consume, replay_of_notMem, hsame]
    rw [hkeys]
    intro hkey
    obtain ⟨event, hevent, rfl⟩ := List.mem_map.1 hkey
    exact no_event hsame (h.mem_iff.1 hevent) rfl
  · cases hcurrent : current.find key with
    | some process =>
        obtain ⟨hprocess, rfl⟩ := MemberTable.find_eq_some.1 hcurrent
        cases hprevious : previous.find process.key with
        | none => exact hedit _ (added_iff.2 ⟨hprocess, hprevious⟩)
        | some before =>
            have hne : before ≠ process := by
              rintro rfl
              exact hsame (hprevious.trans hcurrent.symm)
            exact hedit _ (updated_iff.2 ⟨hprocess, before, hprevious, hne⟩)
    | none =>
        cases hprevious : previous.find key with
        | none => exact absurd (hprevious.trans hcurrent.symm) hsame
        | some before =>
            obtain ⟨hbefore, rfl⟩ := MemberTable.find_eq_some.1 hprevious
            exact hedit _ (removed_iff.2 ⟨hbefore, hcurrent⟩)

end

/-! ## The descriptors that routing reads -/

/-- The table as routing sees it. -/
def MemberTable.view (table : MemberTable) : MembershipView where
  members := table.members.map Descriptor.toProcessDescriptor
  distinct := by
    rw [List.map_map, ← List.nodup_map_iff makeKey_injective, List.map_map]
    exact table.distinct

theorem find_view (table : MemberTable) (id : ProcessId) :
    table.view.find id = (table.find (makeKey id)).map Descriptor.toProcessDescriptor := by
  simp only [MembershipView.find, MemberTable.view, MemberTable.find, List.find?_map]
  congr 2
  funext process
  simp [Descriptor.key, makeKey_injective.eq_iff]

/-- Whether the two tables have different descriptors of a process. -/
def changed (previous current : MemberTable) (id : ProcessId) : Bool :=
  match previous.find (makeKey id), current.find (makeKey id) with
  | some before, some process => before.differs process
  | _, _ => false

/-- The events of the model in which a descriptor has fewer fields are the same ones. -/
theorem queueDiffEvents_view (previous current : MemberTable) :
    SomeServer.queueDiffEvents previous.view current.view (changed previous current) =
      (queueDiffEvents previous current).map fun event => ⟨event.type, event.process.toProcessDescriptor⟩ := by
  simp only [SomeServer.queueDiffEvents, queueDiffEvents, find_view, List.map_append, List.map_filterMap,
    List.map_map]
  congr 1
  · rw [MemberTable.view, List.filterMap_map]
    refine List.filterMap_congr fun process hprocess => ?_
    have hcurrent : current.find (makeKey process.process.processId) = some process :=
      MemberTable.find_eq_some.2 ⟨hprocess, rfl⟩
    simp only [Function.comp_apply, diffEvent, changed, hcurrent, Descriptor.key]
    cases previous.find (makeKey process.process.processId) with
    | none => rfl
    | some before =>
        simp only [Option.map_some, Descriptor.differs_iff]
        by_cases hsame : before = process
        · simp [hsame]
        · simp [hsame]
  · rw [MemberTable.view, List.filter_map, List.map_map]
    congr 1
    refine List.filter_congr fun process _ => ?_
    simp [Descriptor.key]

/-! ## The operations of a process -/

/-- The members of `EtcdDiscovery` that the operations use. -/
structure EtcdDiscovery where
  processes : MemberTable := .empty
  events : List MemberEvent := []
  self : Option Descriptor := none
  leaseId : UInt64 := 0
  snapshotRefreshFailureCount : Nat := 0

/-- The options, and how a snapshot and a value of it are read: an error is a text. -/
structure Config where
  leaseTtlSeconds : UInt32 := 5
  readSnapshot : String → Except String (List String)
  deserializeDescriptor : String → Except String Descriptor

/-- `ParseSnapshot`: a value that is not a descriptor fails the whole. -/
def Config.parseSnapshot (cfg : Config) (output : String) : Except String MemberTable := do
  let values ← cfg.readSnapshot output
  values.foldlM (fun refreshed value => return refreshed.set (← cfg.deserializeDescriptor value)) .empty

/-- The answers to the requests of a `RegisterSelf`, in their order. -/
structure RegisterReplies where
  grantLease : Result
  leaseId : UInt64
  put : Result
  grantLeaseAgain : Result
  leaseIdAgain : UInt64
  putAgain : Result

namespace EtcdDiscovery

/-- `GrantLease`. -/
def grantLease (d : EtcdDiscovery) (reply : Result) (leaseId : UInt64) : Result × EtcdDiscovery :=
  (reply, if reply.ok then { d with leaseId := leaseId } else d)

/-- `RegisterSelf`. -/
def registerSelf (cfg : Config) (d : EtcdDiscovery) (self : Descriptor) (replies : RegisterReplies) :
    Result × EtcdDiscovery :=
  let (lease, d) :=
    if cfg.leaseTtlSeconds > 0 ∧ d.leaseId = 0 then d.grantLease replies.grantLease replies.leaseId
    else (.success, d)
  let registered (d : EtcdDiscovery) : Result × EtcdDiscovery :=
    (.success, { d with self := some self, processes := d.processes.set self })
  if !lease.ok then (lease, d)
  else if replies.put.ok then registered d
  else if cfg.leaseTtlSeconds > 0 then
    let (lease, d) := { d with leaseId := 0 }.grantLease replies.grantLeaseAgain replies.leaseIdAgain
    if !lease.ok then (lease, d)
    else if replies.putAgain.ok then registered d
    else (replies.putAgain, d)
  else (replies.put, d)

/-- `ApplySnapshot`. -/
def applySnapshot (d : EtcdDiscovery) (refreshed : MemberTable) : EtcdDiscovery :=
  { d with events := d.events ++ queueDiffEvents d.processes refreshed, processes := refreshed }

/-- `RefreshSnapshot`; `walked` is the order in which the new table is walked. -/
def refreshSnapshot (cfg : Config) (d : EtcdDiscovery) (get : Result) (output : String)
    (walked : MemberTable → MemberTable) : Result × EtcdDiscovery :=
  if !get.ok then (get, { d with snapshotRefreshFailureCount := d.snapshotRefreshFailureCount + 1 })
  else match cfg.parseSnapshot output with
    | .error message =>
        (.failure message, { d with snapshotRefreshFailureCount := d.snapshotRefreshFailureCount + 1 })
    | .ok refreshed => (.success, d.applySnapshot (walked refreshed))

/-- `Remove`. -/
def remove (d : EtcdDiscovery) (id : ProcessId) (delete : Result) : Result × EtcdDiscovery :=
  if !delete.ok then (delete, d)
  else
    let d := { d with processes := d.processes.erase (makeKey id) }
    if d.self.any fun self => self.process.processId = id then
      (.success, { d with self := none, leaseId := 0 })
    else (.success, d)

/-- `DrainEvents`. -/
def drainEvents (d : EtcdDiscovery) : List MemberEvent × EtcdDiscovery :=
  (d.events, { d with events := [] })

/-- `All`. -/
def all (d : EtcdDiscovery) : List Descriptor := d.processes.members

end EtcdDiscovery

/-- A process, and the members that the consumer of its events holds. -/
structure Observed where
  discovery : EtcdDiscovery := {}
  consumer : UInt64 → Option Descriptor := fun _ => none

/-- One operation of the process `own`. -/
inductive Step (cfg : Config) (own : ProcessId) (s : Observed) : Observed → Prop
  | refreshSnapshot (get : Result) (output : String) (walked : MemberTable → MemberTable)
      (hwalked : ∀ table, (walked table).members.Perm table.members) :
      Step cfg own s { s with discovery := (s.discovery.refreshSnapshot cfg get output walked).2 }
  | registerSelf (self : Descriptor) (hself : self.process.processId = own) (replies : RegisterReplies) :
      Step cfg own s { s with discovery := (s.discovery.registerSelf cfg self replies).2 }
  | remove (delete : Result) : Step cfg own s { s with discovery := (s.discovery.remove own delete).2 }
  | drainEvents :
      Step cfg own s
        { discovery := s.discovery.drainEvents.2, consumer := consume s.discovery.drainEvents.1 s.consumer }
  /-- The table is walked in another order from now on. -/
  | rehash (processes : MemberTable) (h : processes.members.Perm s.discovery.processes.members) :
      Step cfg own s { s with discovery := { s.discovery with processes := processes } }

def Reaches (cfg : Config) (own : ProcessId) : Observed → Observed → Prop :=
  Relation.ReflTransGen (Step cfg own)

/-! ## What the consumer holds -/

/-- With the events that are queued, the consumer has the members of the table, except perhaps for the own
one. -/
def Informed (own : ProcessId) (s : Observed) : Prop :=
  ∀ key, key ≠ makeKey own → consume s.discovery.events s.consumer key = s.discovery.processes.find key

/-- An operation that queues nothing and leaves the others in the table. -/
theorem Informed.of_silent {own : ProcessId} {s : Observed} {d : EtcdDiscovery} (h : Informed own s)
    (hevents : d.events = s.discovery.events)
    (hprocesses : ∀ key, key ≠ makeKey own → d.processes.find key = s.discovery.processes.find key) :
    Informed own { s with discovery := d } := by
  intro key hkey
  show consume d.events s.consumer key = d.processes.find key
  rw [hevents, hprocesses key hkey, h key hkey]

theorem Informed.applySnapshot {own : ProcessId} {s : Observed} (h : Informed own s)
    (refreshed : MemberTable) : Informed own { s with discovery := s.discovery.applySnapshot refreshed } := by
  intro key hkey
  have hbefore : replay (s.discovery.events.map MemberEvent.edit) s.consumer key =
      s.discovery.processes.find key := h key hkey
  show consume (s.discovery.events ++ queueDiffEvents s.discovery.processes refreshed) s.consumer key = _
  rw [consume, List.map_append, replay_append, replay_congr hbefore]
  exact congrFun (consume_queueDiffEvents (.refl _)) key

/-- A `RegisterSelf` queues nothing, and changes the table at the own key if at all. -/
theorem registerSelf_effect (cfg : Config) (d : EtcdDiscovery) (self : Descriptor)
    (replies : RegisterReplies) : (d.registerSelf cfg self replies).2.events = d.events ∧
      ((d.registerSelf cfg self replies).2.processes = d.processes ∨
        (d.registerSelf cfg self replies).2.processes = d.processes.set self) := by
  -- a grant touches neither the events nor the table
  have hgrant : ∀ (d : EtcdDiscovery) (reply : Result) (leaseId : UInt64),
      (d.grantLease reply leaseId).2.events = d.events ∧
        (d.grantLease reply leaseId).2.processes = d.processes := by
    intro d reply leaseId
    unfold EtcdDiscovery.grantLease
    split <;> exact ⟨rfl, rfl⟩
  -- the same for the lease that is granted before the first put
  have hfirst : ∀ first : Result × EtcdDiscovery,
      (first = if cfg.leaseTtlSeconds > 0 ∧ d.leaseId = 0 then d.grantLease replies.grantLease replies.leaseId
        else (.success, d)) → first.2.events = d.events ∧ first.2.processes = d.processes := by
    rintro first rfl
    split
    · exact hgrant ..
    · exact ⟨rfl, rfl⟩
  unfold EtcdDiscovery.registerSelf
  generalize hlease : (if cfg.leaseTtlSeconds > 0 ∧ d.leaseId = 0 then
    d.grantLease replies.grantLease replies.leaseId else (.success, d)) = first
  obtain ⟨hevents, hprocesses⟩ := hfirst first hlease.symm
  have hagain := hgrant { first.2 with leaseId := 0 } replies.grantLeaseAgain replies.leaseIdAgain
  dsimp only at hagain ⊢
  -- the exits in turn: no lease, the put, the second lease, the second put
  split
  · exact ⟨hevents, .inl hprocesses⟩
  · split
    · exact ⟨hevents, .inr (by rw [hprocesses])⟩
    · split
      · split
        · exact ⟨hagain.1.trans hevents, .inl (hagain.2.trans hprocesses)⟩
        · split
          · exact ⟨hagain.1.trans hevents, .inr (by rw [hagain.2, hprocesses])⟩
          · exact ⟨hagain.1.trans hevents, .inl (hagain.2.trans hprocesses)⟩
      · exact ⟨hevents, .inl hprocesses⟩

theorem Informed.step {cfg : Config} {own : ProcessId} {s s' : Observed} (h : Informed own s)
    (hstep : Step cfg own s s') : Informed own s' := by
  cases hstep with
  -- the refresh is the one operation that queues events, for exactly what it changes
  | refreshSnapshot get output walked hwalked =>
      unfold EtcdDiscovery.refreshSnapshot
      split
      · exact h.of_silent rfl fun _ _ => rfl
      · split
        · exact h.of_silent rfl fun _ _ => rfl
        · exact h.applySnapshot _
  -- the others queue nothing, and touch no key but the own one
  | registerSelf self hself replies =>
      obtain ⟨hevents, hprocesses⟩ := registerSelf_effect cfg s.discovery self replies
      refine h.of_silent hevents fun key hkey => ?_
      rcases hprocesses with hprocesses | hprocesses
      · rw [hprocesses]
      · rw [hprocesses, MemberTable.find_set_of_ne]
        rw [Descriptor.key, hself]
        exact hkey
  | remove delete =>
      unfold EtcdDiscovery.remove
      split
      · exact h.of_silent rfl fun _ _ => rfl
      · dsimp only
        split
        · exact h.of_silent rfl fun key hkey => MemberTable.find_erase_of_ne hkey
        · exact h.of_silent rfl fun key hkey => MemberTable.find_erase_of_ne hkey
  | drainEvents => exact h
  | rehash processes hperm =>
      exact h.of_silent rfl fun key _ => congrFun (MemberTable.find_perm hperm) key

theorem informed {cfg : Config} {own : ProcessId} {s : Observed} (h : Reaches cfg own {} s) :
    Informed own s := by
  induction h with
  | refl => exact fun _ _ => rfl
  | tail _ hstep ih => exact ih.step hstep

/-- The events that are queued for two tables lead from the one to the other, one for each member that was
added, changed or removed. And whoever drains the events of a process and makes the edits they tell of holds
what `All` returns for every other process. -/
theorem events_replay :
    (∀ (previous current : MemberTable) (events : List MemberEvent),
      events.Perm (queueDiffEvents previous current) →
        consume events previous.find = current.find ∧
        (events.map fun event => event.process.key).Nodup ∧
        (∀ process, ⟨.added, process⟩ ∈ events ↔
          process ∈ current.members ∧ previous.find process.key = none) ∧
        (∀ process, ⟨.removed, process⟩ ∈ events ↔
          process ∈ previous.members ∧ current.find process.key = none) ∧
        ∀ process, ⟨.updated, process⟩ ∈ events ↔
          process ∈ current.members ∧ ∃ before, previous.find process.key = some before ∧ before ≠ process) ∧
    ∀ (cfg : Config) (own : ProcessId) (s : Observed), Reaches cfg own {} s →
      ∀ (id : ProcessId) (process : Descriptor), id ≠ own →
        (consume s.discovery.drainEvents.1 s.consumer (makeKey id) = some process ↔
          process ∈ s.discovery.drainEvents.2.all ∧ process.process.processId = id) := by
  constructor
  · intro previous current events hevents
    refine ⟨consume_queueDiffEvents hevents, (hevents.map _).nodup_iff.2 queueDiffEvents_distinct, ?_, ?_, ?_⟩
    · intro process
      rw [hevents.mem_iff, added_iff]
    · intro process
      rw [hevents.mem_iff, removed_iff]
    · intro process
      rw [hevents.mem_iff, updated_iff]
  · intro cfg own s hreaches id process hid
    have hinformed := informed hreaches (makeKey id) fun hkey => hid (makeKey_injective hkey)
    have hkey : process.key = makeKey id ↔ process.process.processId = id := makeKey_injective.eq_iff
    rw [← hkey, EtcdDiscovery.all, EtcdDiscovery.drainEvents, hinformed]
    exact MemberTable.find_eq_some

/-- A game that reads of one relay. -/
def relayListed : Config where
  readSnapshot output := .ok [output]
  deserializeDescriptor _ := .ok { process := ⟨⟨99, 1⟩, 1⟩ }

/-- The game refreshes its view, registers itself and drains its events: it holds the relay then. -/
theorem events_replay_drained : ∃ s, Reaches relayListed ⟨10, 1⟩ {} s ∧ s.discovery.all.length = 2 ∧
    consume s.discovery.drainEvents.1 s.consumer (makeKey ⟨99, 1⟩) = some { process := ⟨⟨99, 1⟩, 1⟩ } := by
  have hreaches : Reaches relayListed ⟨10, 1⟩ {} _ :=
    .tail (.tail (.tail .refl (.refreshSnapshot .success "relay" id fun _ => .refl _))
      (.registerSelf { process := ⟨⟨10, 1⟩, 1⟩ } rfl ⟨.success, 7, .success, .success, 0, .success⟩)) .drainEvents
  exact ⟨_, hreaches, rfl, (events_replay.2 relayListed ⟨10, 1⟩ _ hreaches ⟨99, 1⟩ _ (by decide)).2
    ⟨List.mem_cons_self, rfl⟩⟩

end Members

end SomeServer
