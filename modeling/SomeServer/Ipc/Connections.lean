/-
# SomeServer.Ipc.Connections — a link lasts no longer than its connection

`LinkManager` makes a link when it is told of a connection or gets a hello over it, and drops it when it is
told that the connection is gone. Three threads tell it: the one that has dialled or accepted, the reader of
the connection, and whoever disconnects it. A reader whose handle has been stored is joined before anybody
is told that its connection is gone, and an unstored handle ends the process, so that frames are never too
late. The event that the connection is there may be.
-/
import SomeServer.Ipc.Node

namespace SomeServer

open Lib

variable {A : Type} [DecidableEq A]

namespace NodeTask

/-- The connection's `disconnected` event is to come. -/
def disconnects (connectionId : ConnectionId) : NodeTask → Prop
  | notify event => event.type = .disconnected ∧ event.connectionId = connectionId
  | finishDisconnect c _ => c = connectionId
  | _ => False

/-- An event or a frame of the connection has not been handed to `LinkManager` yet. -/
def concerns (connectionId : ConnectionId) : NodeTask → Prop
  | storeReader c => c = connectionId
  | notify event => event.connectionId = connectionId
  | finishDisconnect c _ => c = connectionId
  | read c => c = connectionId
  | handleFrame frame => frame.connectionId = connectionId
  | _ => False

/-- The tasks that change neither the connections nor the links, and that nothing to come depends on. -/
def plain : NodeTask → Bool
  | addConnection .. | storeReader _ | notify _ | handleDisconnect _ | finishDisconnect .. | readerLoop _ | read _
  | handleFrame _ | shutdown => false
  | _ => true

variable {k : NodeTask} {connectionId : ConnectionId}

theorem concerns_of_disconnects (h : k.disconnects connectionId) : k.concerns connectionId := by
  cases k <;> first | exact h.elim | exact h.2 | exact h

theorem reader_of_plain (h : k.plain = true) : k.reader = none := by
  cases k <;> first | rfl | contradiction

end NodeTask

namespace LinkManager

variable {protobuf : ControlProtobuf} {m : LinkManager} {id : ConnectionId}

theorem onConnectionEvent_links_of_ne {event : ConnectionEvent} (h : id ≠ event.connectionId) :
    (m.onConnectionEvent protobuf event).links.get id = m.links.get id := by
  unfold onConnectionEvent
  split
  · exact Table.set_get_of_ne h
  · exact Table.erase_get_of_ne h

theorem onConnectionEvent_disconnected {event : ConnectionEvent} (h : event.type = .disconnected) :
    (m.onConnectionEvent protobuf event).links.get event.connectionId = none := by
  simp only [onConnectionEvent, h]
  exact Table.erase_get_self

theorem onFrame_links_of_ne {frame : RawFrame} (h : id ≠ frame.connectionId) :
    (m.onFrame protobuf frame).1.links.get id = m.links.get id := by
  cases hmessage : messageOf protobuf frame with
  | none => rw [onFrame_links_of_other (by simp [hmessage]) (by simp [hmessage])]
  | some message =>
      cases message with
      | hello hello =>
          rw [onFrame_hello_links hmessage]
          split
          · rfl
          · exact Table.set_get_of_ne h
      | helloAck ack =>
          rw [onFrame_helloAck_links hmessage]
          split
          · rfl
          · exact Table.set_get_of_ne h
      | _ => rw [onFrame_links_of_other (by simp [hmessage]) (by simp [hmessage])]

end LinkManager

namespace IpcNode

/-- What is not connected, and has nothing to be handed over any more, has no link. -/
def LinksEnd (c : NodeCrew A) : Prop :=
  ∀ m connectionId, c.shared.terminated = false → c.shared.linkManager = some m →
    c.shared.connections.get connectionId = none → ¬c.Pending (·.concerns connectionId) →
    m.links.get connectionId = none

/-- A `connected` event is handed over while the connection is there, or its `disconnected` event is still to
come. -/
def InTime (c : NodeCrew A) : Move (NodeThread A) NodeOp NodeInput → Prop
  | .start _ _ => True
  | .act t _ => ∀ event rest, c.tasks t = .notify event :: rest → event.type = .connected →
      (c.shared.connections.get event.connectionId).isSome = true ∨
        c.Pending (·.disconnects event.connectionId)

/-! ### Where the readers are -/

/-- What only readers do is done by the reader of the connection, and nothing that reads is behind another
task. -/
structure ReadersApart (c : NodeCrew A) : Prop where
  own : ∀ u k id, k ∈ c.tasks u → k.reader = some id → u = .reader id
  first : ∀ u id, ∀ k ∈ (c.tasks u).tail, ¬k.reads id
  fresh : ∀ id, c.tasks (.reader id) ≠ [] → id.toNat < c.shared.nextConnectionId
  gone : c.Pending (· = .shutdown) → c.shared.linkManager = none ∧ c.shared.transport = false

variable {cfg : NodeConfig} {guard : NodeCrew A → Move (NodeThread A) NodeOp NodeInput → Prop}
  {c c₀ : NodeCrew A} {t u : NodeThread A} {i : NodeInput} {k : NodeTask} {rest : List NodeTask}
  {p : Performed (NodeThread A) NodeTask (IpcNode A)} {id : ConnectionId}

omit [DecidableEq A] in
theorem newId_toNat {s : IpcNode A} (h : s.exhausted = false) : s.newId.toNat = s.nextConnectionId := by
  have hlt : s.nextConnectionId < 2 ^ 64 := by simpa [exhausted] using h
  exact Nat.mod_eq_of_lt hlt

/-- The reader of a new connection is a new thread. -/
theorem ReadersApart.fresh_of (h : ReadersApart c) (hp : k.perform cfg c.free t i c.shared = some p) :
    c.Fresh p := by
  intro u first hfirst
  rcases perform_started hp with ⟨hnone, -⟩ | ⟨hids, -, hsome⟩
  · rw [hnone] at hfirst
    cases hfirst
  · rw [hsome] at hfirst
    cases hfirst
    by_contra hne
    have hlt := h.fresh _ hne
    rw [newId_toNat hids] at hlt
    exact Nat.lt_irrefl _ hlt

theorem started_reads (hp : k.perform cfg c.free t i c.shared = some p) {first : List NodeTask}
    (hfirst : p.started = some (u, first)) :
    u = .reader c.shared.newId ∧ first = [.readerLoop c.shared.newId] := by
  rcases perform_started hp with ⟨hnone, -⟩ | ⟨-, -, hsome⟩
  · rw [hnone] at hfirst
    cases hfirst
  · rw [hsome] at hfirst
    cases hfirst
    exact ⟨rfl, rfl⟩

theorem ReadersApart.start {o : NodeOp} {a : A} (h : ReadersApart c) : ReadersApart (c.begun (.caller a) o.tasks) := by
  constructor
  · intro u k id hk hr
    rcases Crew.mem_begun hk with ⟨-, hnew⟩ | ⟨-, hold⟩
    · rw [NodeTask.reader_of_inner (NodeOp.tasks_inner hnew)] at hr
      cases hr
    · exact h.own u k id hold hr
  · intro u id k hk hreads
    by_cases hu : u = .caller a
    · subst hu
      rw [Crew.begun_tasks_self] at hk
      have hr := NodeTask.reader_of_reads hreads
      rw [NodeTask.reader_of_inner (NodeOp.tasks_inner (List.mem_of_mem_tail hk))] at hr
      cases hr
    · rw [Crew.begun_tasks_of_ne hu] at hk
      exact h.first u id k hk hreads
  · intro id hne
    apply h.fresh id
    rwa [Crew.begun_tasks_of_ne (by simp)] at hne
  · intro hpending
    rcases Crew.pending_of_begun hpending with hold | ⟨k', hk', rfl⟩
    · exact h.gone hold
    · cases NodeOp.tasks_inner hk'

theorem mem_tail_append {ks ks' : List NodeTask} (h : k ∈ (ks ++ ks').tail) : k ∈ ks.tail ∨ k ∈ ks' := by
  cases ks with
  | nil => exact .inr (List.mem_of_mem_tail h)
  | cons k₁ ks => exact List.mem_append.mp h

theorem ReadersApart.act (h : ReadersApart c) (ht : c.tasks t = k :: rest)
    (hp : k.perform cfg c.free t i c.shared = some p) : ReadersApart (c.after t rest p) := by
  have hfresh := h.fresh_of hp
  constructor
  · intro u k' id hk hr
    rcases Crew.mem_after hk with ⟨rfl, hnew | hold⟩ | ⟨-, hold⟩ | ⟨first, hfirst, hin⟩
    · exact h.own u k id (by rw [ht]; exact List.mem_cons_self) (perform_reader hp hnew hr)
    · exact h.own u k' id (by rw [ht]; exact List.mem_cons_of_mem _ hold) hr
    · exact h.own u k' id hold hr
    · obtain ⟨rfl, rfl⟩ := started_reads hp hfirst
      obtain rfl := List.mem_singleton.mp hin
      cases hr
      rfl
  · intro u id k' hk hreads
    by_cases hstart : ∃ first, p.started = some (u, first)
    · obtain ⟨first, hfirst⟩ := hstart
      rw [Crew.after_tasks_started hfirst] at hk
      obtain ⟨-, rfl⟩ := started_reads hp hfirst
      cases hk
    · have hnone : ∀ first, p.started ≠ some (u, first) := fun first hfirst => hstart ⟨first, hfirst⟩
      by_cases hu : u = t
      · subst hu
        rw [Crew.after_tasks_self hnone] at hk
        rcases mem_tail_append hk with hnew | hold
        · exact perform_first hp hnew hreads
        · exact h.first u id k' (by rw [ht]; exact hold) hreads
      · rw [Crew.after_tasks_of_ne hu hnone] at hk
        exact h.first u id k' hk hreads
  · intro id hne
    obtain ⟨k', hk⟩ := List.exists_mem_of_ne_nil _ hne
    -- a reader that is started has the next number, and no reader has had it before
    rcases perform_started hp with ⟨hnone, hnext⟩ | ⟨hids, hnext, hsome⟩
    · show id.toNat < p.shared.nextConnectionId
      rw [hnext]
      rcases Crew.mem_after hk with ⟨rfl, -⟩ | ⟨-, hold⟩ | ⟨first, hfirst, -⟩
      · exact h.fresh id (by rw [ht]; exact List.cons_ne_nil _ _)
      · exact h.fresh id (List.ne_nil_of_mem hold)
      · rw [hnone] at hfirst
        cases hfirst
    · show id.toNat < p.shared.nextConnectionId
      rw [hnext]
      rcases Crew.mem_after hk with ⟨rfl, -⟩ | ⟨-, hold⟩ | ⟨first, hfirst, -⟩
      · exact Nat.lt_succ_of_lt (h.fresh id (by rw [ht]; exact List.cons_ne_nil _ _))
      · exact Nat.lt_succ_of_lt (h.fresh id (List.ne_nil_of_mem hold))
      · rw [hsome] at hfirst
        cases hfirst
        rw [newId_toNat hids]
        exact Nat.lt_succ_self _
  · intro hpending
    show p.shared.linkManager = none ∧ p.shared.transport = false
    -- the manager and the transport stay away, or this step has just taken them
    rcases Crew.pending_of_after ht hpending with hold | ⟨k', hk', rfl⟩ | ⟨u, first, hfirst, k', hin, rfl⟩
    · exact ⟨perform_linkManager hp (h.gone hold).1, perform_transport hp (h.gone hold).2⟩
    · exact perform_shutdown hp hk'
    · obtain ⟨-, rfl⟩ := started_reads hp hfirst
      cases List.mem_singleton.mp hin

theorem ReadersApart.initial (h : Started c) : ReadersApart c := by
  constructor
  · intro u k id hk hr
    obtain rfl := h.mem hk
    cases hr
  · intro u id k hk hreads
    obtain rfl := h.mem (List.mem_of_mem_tail hk)
    exact hreads.elim
  · intro id hne
    obtain ⟨k, hk⟩ := List.exists_mem_of_ne_nil _ hne
    rw [h.tasks, Function.update_of_ne (by simp)] at hk
    cases hk
  · rintro ⟨u, k, hk, rfl⟩
    cases h.mem hk

/-- Readers are apart in every reachable node. -/
theorem readersApart (h₀ : Started c₀) (h : Crew.Run (nodeWork A cfg) guard c₀ c) : ReadersApart c :=
  node_invariant (ReadersApart.initial h₀) (fun _ _ _ hc _ => hc.start)
    (fun _ _ _ _ _ _ hc _ ht _ hp => hc.act ht hp) h

/-! ### Connections, links and what is to come -/

/-- What the tasks that are to come promise of the connections and the links. -/
structure Tracked (c : NodeCrew A) : Prop where
  stored : ∀ id connection, c.shared.connections.get id = some connection → connection.readerStored = false →
    c.Pending (· = .storeReader id)
  reading : ∀ id, c.shared.connections.get id = none → c.Pending (·.reads id) →
    c.Pending (· = .storeReader id) ∨ c.Pending (· = .finishDisconnect id true)
  linked : ∀ m id, c.shared.linkManager = some m → m.links.get id ≠ none →
    c.shared.connections.get id ≠ none ∨ c.Pending (·.disconnects id) ∨ c.Pending (· = .storeReader id)

section Step

variable (hapart : ReadersApart c) (h : Tracked c) (ht : c.tasks t = k :: rest)
  (hp : k.perform cfg c.free t i c.shared = some p)

include hapart ht hp

omit hapart in
/-- What is about to read after a step was so before, or comes from the step. -/
theorem pending_reads_after (hreads : (c.after t rest p).Pending (·.reads id)) :
    c.Pending (·.reads id) ∨ ∃ k' ∈ p.tasks, k'.reads id := by
  rcases Crew.pending_of_after ht hreads with hold | hnew | ⟨u, first, hfirst, k', hin, hk'⟩
  · exact .inl hold
  · exact .inr hnew
  · obtain ⟨-, rfl⟩ := started_reads hp hfirst
    obtain rfl := List.mem_singleton.mp hin
    exact hk'.elim

omit hapart in
/-- Only readers come to read. -/
theorem pending_reads_before (hk : k.reader ≠ some id) (hreads : (c.after t rest p).Pending (·.reads id)) :
    c.Pending (·.reads id) := by
  rcases pending_reads_after ht hp hreads with hold | ⟨k', hk', hr⟩
  · exact hold
  · exact absurd (perform_reader hp hk' (NodeTask.reader_of_reads hr)) hk

include h

/-- What is to come before or after a connection that is closed is read from, unless it is the step. -/
theorem Tracked.reading_after (hstore : k ≠ .storeReader id) (hfinish : k ≠ .finishDisconnect id true)
    (hclosed : c.shared.connections.get id = none) (hreads : c.Pending (·.reads id)) :
    (c.after t rest p).Pending (· = .storeReader id) ∨ (c.after t rest p).Pending (· = .finishDisconnect id true) := by
  have hfresh := hapart.fresh_of hp
  rcases h.reading id hclosed hreads with hstoring | hfinishing
  · exact .inl (hstoring.after hfresh ht hstore)
  · exact .inr (hfinishing.after hfresh ht hfinish)

/-- And what a link has to come. -/
theorem Tracked.linked_after {m : LinkManager} (hstore : k ≠ .storeReader id) (hdisconnects : ¬k.disconnects id)
    (hm : c.shared.linkManager = some m) (hlink : m.links.get id ≠ none) :
    c.shared.connections.get id ≠ none ∨ (c.after t rest p).Pending (·.disconnects id) ∨
      (c.after t rest p).Pending (· = .storeReader id) := by
  have hfresh := hapart.fresh_of hp
  rcases h.linked m id hm hlink with hopen | hdisconnecting | hstoring
  · exact .inl hopen
  · exact .inr (.inl (hdisconnecting.after hfresh ht hdisconnects))
  · exact .inr (.inr (hstoring.after hfresh ht hstore))

/-- A step that touches neither the connections nor the links, and takes nothing away that they need. -/
theorem Tracked.still (hconnections : p.shared.connections = c.shared.connections)
    (hlinks : ∀ m', p.shared.linkManager = some m' → ∃ m, c.shared.linkManager = some m ∧ m'.links = m.links)
    (hreads : ∀ k' ∈ p.tasks, ∀ id, k'.reads id → k.reads id)
    (hstore : ∀ id, k ≠ .storeReader id) (hfinish : ∀ id, k ≠ .finishDisconnect id true)
    (hdisconnects : ∀ id, ¬k.disconnects id) : Tracked (c.after t rest p) := by
  have hfresh := hapart.fresh_of hp
  constructor
  · intro id connection hget hunstored
    rw [Crew.after_shared, hconnections] at hget
    exact (h.stored id connection hget hunstored).after hfresh ht (hstore id)
  · intro id hget hpending
    rw [Crew.after_shared, hconnections] at hget
    have hbefore : c.Pending (·.reads id) := by
      rcases pending_reads_after ht hp hpending with hold | ⟨k', hk', hr⟩
      · exact hold
      · exact ⟨t, k, by rw [ht]; exact List.mem_cons_self, hreads k' hk' id hr⟩
    exact h.reading_after hapart ht hp (hstore id) (hfinish id) hget hbefore
  · intro m' id hm' hlink
    obtain ⟨m, hm, hsame⟩ := hlinks m' hm'
    rw [hsame] at hlink
    rw [Crew.after_shared, hconnections]
    exact h.linked_after hapart ht hp (hstore id) (hdisconnects id) hm hlink

/-- A step that finds nothing to do. -/
theorem Tracked.idle (hidle : p = { shared := c.shared }) (hstore : ∀ id, k ≠ .storeReader id)
    (hfinish : ∀ id, k ≠ .finishDisconnect id true) (hdisconnects : ∀ id, ¬k.disconnects id) :
    Tracked (c.after t rest p) := by
  subst hidle
  apply h.still hapart ht hp rfl (fun m hm => ⟨m, hm, rfl⟩)
  · intro k' hk'
    cases hk'
  · exact hstore
  · exact hfinish
  · exact hdisconnects

/-- A step that adds a connection, or changes one. -/
theorem Tracked.set {d : ConnectionId} {connection : NodeConnection}
    (hconnections : p.shared.connections = c.shared.connections.set d connection)
    (hlinks : p.shared.linkManager = c.shared.linkManager) (hreader : k.reader = none)
    (hunstored : connection.readerStored = false → (c.after t rest p).Pending (· = .storeReader d))
    (hstore : ∀ id, id ≠ d → k ≠ .storeReader id) (hfinish : ∀ id, k ≠ .finishDisconnect id true)
    (hdisconnects : ∀ id, ¬k.disconnects id) : Tracked (c.after t rest p) := by
  have hfresh := hapart.fresh_of hp
  have hsame : ∀ id, id ≠ d → p.shared.connections.get id = c.shared.connections.get id := by
    intro id hid
    rw [hconnections, Table.set_get_of_ne hid]
  have hd : p.shared.connections.get d = some connection := by rw [hconnections, Table.set_get_self]
  constructor
  · intro id connection' hget hunstored'
    rw [Crew.after_shared] at hget
    by_cases hid : id = d
    · subst hid
      rw [hd] at hget
      cases hget
      exact hunstored hunstored'
    · rw [hsame id hid] at hget
      exact (h.stored id connection' hget hunstored').after hfresh ht (hstore id hid)
  · intro id hget hpending
    rw [Crew.after_shared] at hget
    have hid : id ≠ d := by
      rintro rfl
      rw [hd] at hget
      cases hget
    rw [hsame id hid] at hget
    have hbefore := pending_reads_before ht hp (by simp [hreader]) hpending
    exact h.reading_after hapart ht hp (hstore id hid) (hfinish id) hget hbefore
  · intro m id hm hlink
    rw [Crew.after_shared] at hm ⊢
    rw [hlinks] at hm
    -- the connection is there, so its link has one
    by_cases hid : id = d
    · subst hid
      left
      rw [hd]
      simp
    · rw [hsame id hid]
      exact h.linked_after hapart ht hp (hstore id hid) (hdisconnects id) hm hlink

end Step

/-- What a plain task leaves as it is. -/
theorem perform_plain (hp : k.perform cfg c.free t i c.shared = some p) (hk : k.plain = true) :
    p.shared.connections = c.shared.connections ∧
      ∀ m', p.shared.linkManager = some m' → ∃ m, c.shared.linkManager = some m ∧ m'.links = m.links := by
  cases k with
  | flushLinkFrames =>
      simp only [NodeTask.perform] at hp
      split at hp
      · rename_i m _ hm
        obtain rfl := Option.some.inj hp
        refine ⟨rfl, ?_⟩
        intro m' hm'
        obtain rfl := Option.some.inj hm'
        exact ⟨m, hm, rfl⟩
      · obtain rfl := Option.some.inj hp
        exact ⟨rfl, fun m' hm' => ⟨m', hm', rfl⟩⟩
  | teardown =>
      obtain rfl := Option.some.inj hp
      refine ⟨rfl, ?_⟩
      intro m' hm'
      cases hm'
  | _ =>
      first
        | exact (Bool.false_ne_true hk).elim
        | (simp only [NodeTask.perform] at hp
           (repeat' split at hp) <;> first
             | (obtain rfl := Option.some.inj hp; exact ⟨rfl, fun m' hm' => ⟨m', hm', rfl⟩⟩)
             | contradiction)

theorem Tracked.act_plain (hapart : ReadersApart c) (h : Tracked c) (ht : c.tasks t = k :: rest)
    (hp : k.perform cfg c.free t i c.shared = some p) (hk : k.plain = true) : Tracked (c.after t rest p) := by
  obtain ⟨hconnections, hlinks⟩ := perform_plain hp hk
  apply h.still hapart ht hp hconnections hlinks
  · intro k' hk' id hreads
    have hr := perform_reader hp hk' (NodeTask.reader_of_reads hreads)
    rw [NodeTask.reader_of_plain hk] at hr
    cases hr
  · rintro id rfl
    cases hk
  · rintro id rfl
    cases hk
  · intro id hdisconnects
    cases k <;> first | exact hdisconnects.elim | cases hk

/-! ### The steps that matter -/

section Steps

variable (hapart : ReadersApart c) (h : Tracked c)

include hapart h

theorem Tracked.act_addConnection {dialled : Option ProcessId} {recorded : Bool}
    (ht : c.tasks t = .addConnection dialled recorded :: rest)
    (hp : (NodeTask.addConnection dialled recorded).perform cfg c.free t i c.shared = some p) :
    Tracked (c.after t rest p) := by
  have hp' := hp
  simp only [NodeTask.perform] at hp'
  split at hp'
  · cases hp'
  · obtain rfl := Option.some.inj hp'
    apply h.set hapart ht hp rfl rfl rfl
    · intro _
      exact (hapart.fresh_of hp).pending ht (List.mem_append_left _ List.mem_cons_self) rfl
    · simp
    · simp
    · exact fun _ hno => hno

theorem Tracked.act_storeReader {d : ConnectionId} (ht : c.tasks t = .storeReader d :: rest)
    (hp : (NodeTask.storeReader d).perform cfg c.free t i c.shared = some p)
    (hterminated : p.shared.terminated = false) : Tracked (c.after t rest p) := by
  have hp' := hp
  simp only [NodeTask.perform] at hp'
  split at hp'
  · obtain rfl := Option.some.inj hp'
    cases hterminated
  · obtain rfl := Option.some.inj hp'
    apply h.set hapart ht hp rfl rfl rfl
    · intro hunstored
      cases hunstored
    · rintro id hid ⟨⟩
      exact hid rfl
    · simp
    · exact fun _ hno => hno

theorem Tracked.act_notify {event : ConnectionEvent} (ht : c.tasks t = .notify event :: rest)
    (hp : (NodeTask.notify event).perform cfg c.free t i c.shared = some p)
    (hintime : event.type = .connected → (c.shared.connections.get event.connectionId).isSome = true ∨
      c.Pending (·.disconnects event.connectionId))
    (hlinks : p.shared.linkManager ≠ none) : Tracked (c.after t rest p) := by
  have hfresh := hapart.fresh_of hp
  have hbefore : ∀ id, (c.after t rest p).Pending (·.reads id) → c.Pending (·.reads id) := fun id =>
    pending_reads_before ht hp (by simp [NodeTask.reader])
  have hp' := hp
  simp only [NodeTask.perform] at hp
  split at hp
  · rename_i hnone
    obtain rfl := Option.some.inj hp
    exact absurd hnone hlinks
  · rename_i m hm
    obtain rfl := Option.some.inj hp
    constructor
    · intro id connection hget hunstored
      exact (h.stored id connection hget hunstored).after hfresh ht (by simp)
    · intro id hget hpending
      exact h.reading_after hapart ht hp' (by simp) (by simp) hget (hbefore id hpending)
    · intro m' id hm' hlink
      obtain rfl := Option.some.inj hm'
      by_cases hid : id = event.connectionId
      · subst hid
        -- a disconnect ends the link, and a connect makes one while the connection is there
        cases htype : event.type with
        | disconnected => exact absurd (LinkManager.onConnectionEvent_disconnected htype) hlink
        | connected =>
            rcases hintime htype with hopen | hdisconnecting
            · exact .inl (Option.isSome_iff_ne_none.mp hopen)
            · refine .inr (.inl (hdisconnecting.after hfresh ht ?_))
              rintro ⟨hdisconnected, -⟩
              rw [htype] at hdisconnected
              cases hdisconnected
      · rw [LinkManager.onConnectionEvent_links_of_ne hid] at hlink
        apply h.linked_after hapart ht hp' (by simp) _ hm hlink
        rintro ⟨-, heq⟩
        exact hid heq.symm

theorem Tracked.act_handleDisconnect {d : ConnectionId} (ht : c.tasks t = .handleDisconnect d :: rest)
    (hp : (NodeTask.handleDisconnect d).perform cfg c.free t i c.shared = some p) :
    Tracked (c.after t rest p) := by
  have hfresh := hapart.fresh_of hp
  have hp' := hp
  simp only [NodeTask.perform] at hp'
  split at hp'
  · exact h.idle hapart ht hp (Option.some.inj hp').symm (by simp) (by simp) (fun _ hno => hno)
  · rename_i connection hd
    obtain rfl := Option.some.inj hp'
    constructor
    · intro id connection' hget hunstored
      have hid : id ≠ d := by
        rintro rfl
        rw [Crew.after_shared, Table.erase_get_self] at hget
        cases hget
      rw [Crew.after_shared, Table.erase_get_of_ne hid] at hget
      exact (h.stored id connection' hget hunstored).after hfresh ht (by simp)
    · intro id hget hpending
      have hbefore := pending_reads_before ht hp (by simp [NodeTask.reader]) hpending
      by_cases hid : id = d
      · subst hid
        -- The reader that reads is not the one that disconnects: its next task is another one.
        obtain ⟨u, k', hmem, hreads⟩ := hbefore
        have hu : u = .reader id := hapart.own u k' id hmem (NodeTask.reader_of_reads hreads)
        have htu : t ≠ .reader id := by
          rintro rfl
          subst hu
          rw [ht] at hmem
          rcases List.mem_cons.mp hmem with rfl | hmem
          · exact hreads.elim
          · exact hapart.first _ id k' (by rw [ht]; exact hmem) hreads
        by_cases hstored : connection.readerStored = true
        · right
          apply hfresh.pending ht List.mem_cons_self
          simp [hstored, htu]
        · left
          exact (h.stored id connection hd (Bool.not_eq_true _ ▸ hstored)).after hfresh ht (by simp)
      · rw [Crew.after_shared, Table.erase_get_of_ne hid] at hget
        exact h.reading_after hapart ht hp (by simp) (by simp) hget hbefore
    · intro m id hm hlink
      by_cases hid : id = d
      · subst hid
        exact .inr (.inl (hfresh.pending ht List.mem_cons_self rfl))
      · rw [Crew.after_shared, Table.erase_get_of_ne hid]
        exact h.linked_after hapart ht hp (by simp) (fun hno => hno) hm hlink

theorem Tracked.act_finishDisconnect {d : ConnectionId} {taken : Bool}
    (ht : c.tasks t = .finishDisconnect d taken :: rest)
    (hp : (NodeTask.finishDisconnect d taken).perform cfg c.free t i c.shared = some p) :
    Tracked (c.after t rest p) := by
  have hfresh := hapart.fresh_of hp
  have hp' := hp
  simp only [NodeTask.perform] at hp'
  split at hp'
  · cases hp'
  · rename_i hjoined
    obtain rfl := Option.some.inj hp'
    constructor
    · intro id connection hget hunstored
      exact (h.stored id connection hget hunstored).after hfresh ht (by simp)
    · intro id hget hpending
      have hbefore := pending_reads_before ht hp (by simp [NodeTask.reader]) hpending
      have hother : NodeTask.finishDisconnect d taken ≠ .finishDisconnect id true := by
        rintro ⟨⟩
        -- A reader that has been joined has nothing before it.
        obtain ⟨u, k', hmem, hreads⟩ := hbefore
        have hu : u = .reader d := hapart.own u k' d hmem (NodeTask.reader_of_reads hreads)
        subst hu
        have hfree : c.free (.reader d) = true := by simpa using hjoined
        rw [Crew.free_iff.mp hfree] at hmem
        cases hmem
      exact h.reading_after hapart ht hp (by simp) hother hget hbefore
    · intro m id hm hlink
      by_cases hid : d = id
      · subst hid
        exact .inr (.inl (hfresh.pending ht List.mem_cons_self ⟨rfl, rfl⟩))
      · exact h.linked_after hapart ht hp (by simp) hid hm hlink

theorem Tracked.act_readerLoop {d : ConnectionId} (ht : c.tasks t = .readerLoop d :: rest)
    (hp : (NodeTask.readerLoop d).perform cfg c.free t i c.shared = some p) : Tracked (c.after t rest p) := by
  have hfresh := hapart.fresh_of hp
  have hp' := hp
  simp only [NodeTask.perform] at hp'
  split at hp'
  · exact h.idle hapart ht hp (Option.some.inj hp').symm (by simp) (by simp) (fun _ hno => hno)
  · rename_i connection hd
    obtain rfl := Option.some.inj hp'
    constructor
    · intro id connection' hget hunstored
      exact (h.stored id connection' hget hunstored).after hfresh ht (by simp)
    · intro id hget hpending
      have hid : d ≠ id := by
        rintro rfl
        rw [Crew.after_shared, hd] at hget
        cases hget
      have hbefore := pending_reads_before ht hp (by simpa [NodeTask.reader] using hid) hpending
      exact h.reading_after hapart ht hp (by simp) (by simp) hget hbefore
    · exact fun m id hm hlink => h.linked_after hapart ht hp (by simp) (fun hno => hno) hm hlink

theorem Tracked.act_read {d : ConnectionId} (ht : c.tasks t = .read d :: rest)
    (hp : (NodeTask.read d).perform cfg c.free t i c.shared = some p) : Tracked (c.after t rest p) := by
  have hp' := hp
  simp only [NodeTask.perform] at hp'
  split at hp'
  all_goals
    obtain rfl := Option.some.inj hp'
    apply h.still hapart ht hp rfl (fun m' hm' => ⟨m', hm', rfl⟩)
  -- The frame is one of the connection that was read.
  · intro k' hk' id hreads
    obtain rfl := List.mem_singleton.mp hk'
    exact hreads.elim
  · simp
  · simp
  · exact fun _ hno => hno
  · intro k' hk' id hreads
    rcases List.mem_cons.mp hk' with rfl | hk'
    · exact hreads
    · obtain rfl := List.mem_singleton.mp hk'
      exact hreads.elim
  · simp
  · simp
  · exact fun _ hno => hno

theorem Tracked.act_handleFrame {frame : RawFrame} (ht : c.tasks t = .handleFrame frame :: rest)
    (hp : (NodeTask.handleFrame frame).perform cfg c.free t i c.shared = some p) :
    Tracked (c.after t rest p) := by
  have hfresh := hapart.fresh_of hp
  have hreading : c.Pending (·.reads frame.connectionId) :=
    ⟨t, .handleFrame frame, by rw [ht]; exact List.mem_cons_self, rfl⟩
  have hconnections : p.shared.connections = c.shared.connections := by
    simp only [NodeTask.perform] at hp
    (repeat' split at hp) <;> (obtain rfl := Option.some.inj hp; rfl)
  -- a frame changes no link but that of its connection
  have hlinks : ∀ m' id, p.shared.linkManager = some m' → id ≠ frame.connectionId →
      ∃ m, c.shared.linkManager = some m ∧ m'.links.get id = m.links.get id := by
    intro m' id hm' hid
    simp only [NodeTask.perform] at hp
    split at hp
    · obtain rfl := Option.some.inj hp
      exact ⟨m', hm', rfl⟩
    · rename_i m hm
      (repeat' split at hp) <;> obtain rfl := Option.some.inj hp
      · obtain rfl := Option.some.inj hm'
        exact ⟨m, hm, LinkManager.onFrame_links_of_ne hid⟩
      · exact ⟨m', hm', rfl⟩
      · obtain rfl := Option.some.inj hm'
        exact ⟨m, hm, LinkManager.onFrame_links_of_ne hid⟩
  constructor
  · intro id connection hget hunstored
    rw [Crew.after_shared, hconnections] at hget
    exact (h.stored id connection hget hunstored).after hfresh ht (by simp)
  · intro id hget hpending
    rw [Crew.after_shared, hconnections] at hget
    have hbefore : c.Pending (·.reads id) := by
      by_cases hid : frame.connectionId = id
      · exact hid ▸ hreading
      · exact pending_reads_before ht hp (by simpa [NodeTask.reader] using hid) hpending
    exact h.reading_after hapart ht hp (by simp) (by simp) hget hbefore
  · intro m' id hm' hlink
    rw [Crew.after_shared, hconnections]
    by_cases hid : id = frame.connectionId
    · subst hid
      -- a frame of a connection that is gone: its disconnect is still to come
      by_cases hopen : c.shared.connections.get frame.connectionId = none
      · right
        rcases h.reading _ hopen hreading with hstoring | hfinishing
        · exact .inr (hstoring.after hfresh ht (by simp))
        · left
          have hdisconnecting := hfinishing.mono (Q := (·.disconnects frame.connectionId)) (by rintro _ rfl; rfl)
          exact hdisconnecting.after hfresh ht (fun hno => hno)
      · exact .inl hopen
    · obtain ⟨m, hm, hsame⟩ := hlinks m' id hm' hid
      rw [hsame] at hlink
      exact h.linked_after hapart ht hp (by simp) (fun hno => hno) hm hlink

end Steps

theorem Tracked.act (hapart : ReadersApart c) (h : Tracked c) (ht : c.tasks t = k :: rest)
    (hp : k.perform cfg c.free t i c.shared = some p) (hintime : InTime c (.act t i))
    (hterminated : p.shared.terminated = false) (hlinks : p.shared.linkManager ≠ none) :
    Tracked (c.after t rest p) := by
  cases k with
  | addConnection dialled recorded => exact h.act_addConnection hapart ht hp
  | storeReader d => exact h.act_storeReader hapart ht hp hterminated
  | notify event => exact h.act_notify hapart ht hp (fun htype => hintime event rest ht htype) hlinks
  | handleDisconnect d => exact h.act_handleDisconnect hapart ht hp
  | finishDisconnect d taken => exact h.act_finishDisconnect hapart ht hp
  | readerLoop d => exact h.act_readerLoop hapart ht hp
  | read d => exact h.act_read hapart ht hp
  | handleFrame frame => exact h.act_handleFrame hapart ht hp
  | shutdown =>
      have hgone := hapart.gone ⟨t, .shutdown, by rw [ht]; exact List.mem_cons_self, rfl⟩
      exact absurd (perform_linkManager hp hgone.1) hlinks
  | _ => exact h.act_plain hapart ht hp rfl

theorem Tracked.start {a : A} {o : NodeOp} (h : Tracked c) (hidle : c.tasks (.caller a) = []) :
    Tracked (c.begun (.caller a) o.tasks) where
  stored id connection hget hunstored := (h.stored id connection hget hunstored).begun hidle
  reading := by
    intro id hget hpending
    rcases Crew.pending_of_begun hpending with hold | ⟨k', hk', hreads⟩
    · rcases h.reading id hget hold with hstoring | hfinishing
      · exact .inl (hstoring.begun hidle)
      · exact .inr (hfinishing.begun hidle)
    · have hr := NodeTask.reader_of_reads hreads
      rw [NodeTask.reader_of_inner (NodeOp.tasks_inner hk')] at hr
      cases hr
  linked := by
    intro m id hm hlink
    rcases h.linked m id hm hlink with hopen | hdisconnecting | hstoring
    · exact .inl hopen
    · exact .inr (.inl (hdisconnecting.begun hidle))
    · exact .inr (.inr (hstoring.begun hidle))

theorem Tracked.initial (h : Started c) : Tracked c where
  stored id connection hget := by
    rw [h.connections] at hget
    cases hget
  reading id _ hpending := by
    obtain ⟨u, k, hk, hreads⟩ := hpending
    obtain rfl := h.mem hk
    exact hreads.elim
  linked m id hm hlink := by
    rw [h.links m hm] at hlink
    exact absurd rfl hlink

/-- In a node that has its links, every one of them is accounted for. -/
theorem tracked (h₀ : Started c₀) (h : Crew.Run (nodeWork A cfg) InTime c₀ c) :
    ReadersApart c ∧ (c.shared.terminated = false → c.shared.linkManager ≠ none → Tracked c) := by
  refine node_invariant (I := fun c => ReadersApart c ∧
    (c.shared.terminated = false → c.shared.linkManager ≠ none → Tracked c))
    ⟨ReadersApart.initial h₀, fun _ _ => Tracked.initial h₀⟩ ?_ ?_ h
  · intro c a o hc hidle
    exact ⟨hc.1.start, fun hterminated hlinks => (hc.2 hterminated hlinks).start hidle⟩
  · intro c t k rest i p hc hintime ht hterminated hp
    refine ⟨hc.1.act ht hp, fun hterminated' hlinks' => ?_⟩
    have hlinks : c.shared.linkManager ≠ none := fun hnone => hlinks' (perform_linkManager hp hnone)
    exact (hc.2 hterminated hlinks).act hc.1 ht hp hintime hterminated' hlinks'

/-- If events are in time, no link outlives its connection. -/
theorem links_end (cfg : NodeConfig) (c₀ c : NodeCrew A) (h₀ : Started c₀)
    (h : Crew.Run (nodeWork A cfg) InTime c₀ c) : LinksEnd c := by
  intro m id hterminated hm hget hquiet
  have htracked := (tracked h₀ h).2 hterminated (by simp [hm])
  by_contra hlink
  rcases htracked.linked m id hm hlink with hopen | hdisconnecting | hstoring
  · exact hopen hget
  · exact hquiet (hdisconnecting.mono fun _ => NodeTask.concerns_of_disconnects)
  · exact hquiet (hstoring.mono (by rintro _ rfl; rfl))

/-! ### Events that cross -/

/-- A game whose only member is itself. -/
def alone : MembershipView := ⟨[⟨⟨⟨10, 1⟩, 1⟩, []⟩], by decide⟩

def gameConfig : NodeConfig where
  role := .game
  control := .knowing []
  encodeDataEnvelope _ := some []
  decodeDataEnvelope _ := none

def gameAlone : NodeCrew Unit := loaded ⟨⟨10, 1⟩, 1⟩ alone

def accepting : Move (NodeThread Unit) NodeOp NodeInput := .act .accept {}

def reading : Move (NodeThread Unit) NodeOp NodeInput := .act (.reader 1) {}

/-- A connection is accepted and lost before the accept thread has told of it. -/
def lostAtOnce : List (Move (NodeThread Unit) NodeOp NodeInput) :=
  [accepting, accepting, accepting] ++ [reading, reading, reading, reading, reading, reading] ++
    [accepting, accepting, accepting]

/-- A connection is accepted and lost after that. -/
def lostLater : List (Move (NodeThread Unit) NodeOp NodeInput) :=
  [accepting, accepting, accepting, accepting, accepting, accepting] ++
    [reading, reading, reading, reading, reading, reading]

/-- `InTime`, as far as the connections show it. -/
def inTime? (c : NodeCrew Unit) : Move (NodeThread Unit) NodeOp NodeInput → Bool
  | .start _ _ => true
  | .act t _ =>
      match c.tasks t with
      | .notify event :: _ =>
          event.type = .disconnected || (c.shared.connections.get event.connectionId).isSome
      | _ => true

theorem inTime_of {c : NodeCrew Unit} {m : Move (NodeThread Unit) NodeOp NodeInput} (h : inTime? c m = true) :
    InTime c m := by
  cases m with
  | start t o => trivial
  | act t i =>
      intro event rest ht htype
      simp only [inTime?, ht, htype] at h
      exact .inl (by simpa using h)

theorem links_end_lost_later : ∃ c : NodeCrew Unit, Crew.Run (nodeWork Unit gameConfig) InTime gameAlone c ∧
    c.shared.connections.get 1 = none ∧ LinksEnd c := by
  have hplay : (gameAlone.play (nodeWork Unit gameConfig) inTime? lostLater).map
      (fun c => c.shared.connections.get 1) = some none := rfl
  obtain ⟨c, hc, hget⟩ := Option.map_eq_some_iff.mp hplay
  have hrun := Crew.Run.play (fun _ _ => inTime_of) Crew.Run.refl hc
  exact ⟨c, hrun, hget, links_end gameConfig gameAlone c (loaded_started _ _) hrun⟩

/-- A link that is made for a connection that is gone stays. -/
theorem link_outlives_connection : ¬∀ (cfg : NodeConfig) (c₀ c : NodeCrew Unit), Started c₀ →
    Crew.Run (nodeWork Unit cfg) (fun _ _ => True) c₀ c → LinksEnd c := by
  intro h
  have hplay : (gameAlone.play (nodeWork Unit gameConfig) (fun _ _ => true) lostAtOnce).map
      (fun c => (c.shared.terminated, c.shared.connections.get 1,
        c.shared.linkManager.map fun m => (m.links.get 1).map Link.state, c.shared.nextConnectionId)) =
      some (false, none, some (some .handshaking), 2) := rfl
  have htasks : (gameAlone.play (nodeWork Unit gameConfig) (fun _ _ => true) lostAtOnce).map
      (fun c => (c.tasks .accept, c.tasks (.reader 0), c.tasks (.reader 1), c.tasks (.caller ()))) =
      some ([.accept], [], [], []) := rfl
  obtain ⟨c, hc, hfacts⟩ := Option.map_eq_some_iff.mp hplay
  rw [hc] at htasks
  simp only [Prod.mk.injEq, Option.map_some, Option.some.injEq] at hfacts htasks
  obtain ⟨hterminated, hget, hlink, hnext⟩ := hfacts
  obtain ⟨haccept, hzero, hone, hcaller⟩ := htasks
  obtain ⟨m, hm, hstate⟩ := Option.map_eq_some_iff.mp hlink
  have hrun : Crew.Run (nodeWork Unit gameConfig) (fun _ _ => True) gameAlone c :=
    Crew.Run.play (fun _ _ _ => trivial) Crew.Run.refl hc
  have hquiet : ¬c.Pending (·.concerns 1) := by
    rintro ⟨u, k, hk, hconcerns⟩
    cases u with
    | accept =>
        rw [haccept] at hk
        obtain rfl := List.mem_singleton.mp hk
        exact hconcerns.elim
    | caller a =>
        rw [hcaller] at hk
        cases hk
    | reader id =>
        -- There has been one connection.
        have hlt := (readersApart (loaded_started _ _) hrun).fresh id (List.ne_nil_of_mem hk)
        rw [hnext] at hlt
        have hid : id = 0 ∨ id = 1 := by
          rcases Nat.lt_succ_iff_lt_or_eq.mp hlt with hlt | heq
          · exact .inl (UInt64.toNat_inj.mp (Nat.lt_one_iff.mp hlt))
          · exact .inr (UInt64.toNat_inj.mp heq)
        rcases hid with rfl | rfl
        · rw [hzero] at hk
          cases hk
        · rw [hone] at hk
          cases hk
  rw [h gameConfig gameAlone c (loaded_started _ _) hrun m 1 hterminated hm hget hquiet] at hstate
  cases hstate

end IpcNode

end SomeServer
