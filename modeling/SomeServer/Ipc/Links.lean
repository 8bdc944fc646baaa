/-
# SomeServer.Ipc.Links — which links are active, and with whom

A `LinkManager` is driven by connection events and by frames, in whatever order they come: a peer sends
what it likes, and a connection event may come late. A `LinkHistory` keeps the last hello of each
connection beside the manager. Two properties of the active links are compared with the inputs along which
they hold: that each has been introduced by its hello, and that no two of them name the same process.
-/
import SomeServer.Ipc.LinkManager

namespace SomeServer

open Lib

/-- What a `LinkManager` is told. -/
inductive LinkInput where
  | connection (event : ConnectionEvent)
  | frame (frame : RawFrame)
deriving DecidableEq

namespace LinkManager

variable {protobuf : ControlProtobuf} {m m' : LinkManager} {c c' : ConnectionId} {link : Link}
  {process : ProcessRef} {frame : RawFrame}

/-- The process of a hello that is well formed and compatible. -/
def accepts (m : LinkManager) (hello : ProtoHello) : Option ProcessRef :=
  match (ProtoControlMessage.hello hello).extractHelloInfo with
  | .error _ => none
  | .ok info => if m.isProtocolCompatible info then some info.processRef else none

/-- One input. -/
def handle (protobuf : ControlProtobuf) (m : LinkManager) : LinkInput → LinkManager
  | .connection event => m.onConnectionEvent protobuf event
  | .frame frame => (m.onFrame protobuf frame).1

theorem handle_protocolVersion (input : LinkInput) :
    (m.handle protobuf input).protocolVersion = m.protocolVersion := by
  cases input with
  | connection event =>
      show (m.onConnectionEvent protobuf event).protocolVersion = _
      unfold onConnectionEvent
      split <;> rfl
  | frame frame => exact onFrame_protocolVersion

theorem accepts_congr (h : m'.protocolVersion = m.protocolVersion) (hello : ProtoHello) :
    m'.accepts hello = m.accepts hello := by
  have hcompatible : m'.isProtocolCompatible = m.isProtocolCompatible := by
    funext info
    unfold isProtocolCompatible
    rw [h]
  unfold accepts
  rw [hcompatible]

theorem accepts_some {hello : ProtoHello} {self : ProtoProcessIdentity} (h : hello.self = some self) :
    m.accepts hello = if m.isProtocolCompatible ⟨self.toProcessRef, hello.protocolVersion,
      hello.minSupportedProtocolVersion⟩ then some self.toProcessRef else none := by
  obtain ⟨_, version, minSupported⟩ := hello
  cases h
  rfl

theorem accepts_none {hello : ProtoHello} (h : hello.self = none) : m.accepts hello = none := by
  obtain ⟨_, version, minSupported⟩ := hello
  cases h
  rfl

/-! ### Active links -/

theorem active_congr (h : m'.links = m.links) : m'.Active c process ↔ m.Active c process := by
  unfold Active
  rw [h]

/-- The active links after one link has been written. -/
theorem active_set (h : m'.links = m.links.set c link) :
    m'.Active c' process ↔
      if c' = c then link.state = .active ∧ link.remoteProcess = process else m.Active c' process := by
  unfold Active
  rw [h]
  split
  · rename_i hc
    rw [hc, Table.set_get_self]
    constructor
    · rintro ⟨link', hlink, hactive⟩
      cases hlink
      exact hactive
    · exact fun hactive => ⟨link, rfl, hactive⟩
  · rename_i hc
    rw [Table.set_get_of_ne hc]

/-- A connection event makes no link active. -/
theorem active_of_connection {event : ConnectionEvent}
    (h : (m.onConnectionEvent protobuf event).Active c process) : m.Active c process := by
  unfold onConnectionEvent at h
  split at h
  · have hset := (active_set (m := m) (c := event.connectionId) rfl).mp h
    split at hset
    · exact absurd hset.1 (by simp)
    · exact hset
  · by_cases hc : c = event.connectionId
    · obtain ⟨link, hlink, -⟩ := h
      rw [hc] at hlink
      simp at hlink
    · obtain ⟨link, hlink, hactive⟩ := h
      rw [show ({ m with links := m.links.erase event.connectionId } : LinkManager).links.get c =
        m.links.get c from Table.erase_get_of_ne hc] at hlink
      exact ⟨link, hlink, hactive⟩

/-- The active links after a hello: an accepted one makes its link active, any other one with an identity
closes it. -/
theorem active_hello {hello : ProtoHello} (h : messageOf protobuf frame = some (.hello hello)) :
    (m.onFrame protobuf frame).1.Active c process ↔
      if c = frame.connectionId ∧ hello.self ≠ none then m.accepts hello = some process
      else m.Active c process := by
  have hlinks := onFrame_hello_links (m := m) h
  cases hself : hello.self with
  | none =>
      rw [hself] at hlinks
      rw [active_congr hlinks, if_neg (by simp)]
  | some self =>
      rw [hself] at hlinks
      rw [active_set hlinks, accepts_some hself]
      by_cases hc : c = frame.connectionId
      · by_cases hcompatible : m.isProtocolCompatible ⟨self.toProcessRef, hello.protocolVersion,
            hello.minSupportedProtocolVersion⟩ = true
        · simp [hc, hcompatible]
        · simp [hc, hcompatible]
      · simp [hc]

/-- The active links after an answer. -/
theorem active_helloAck {ack : ProtoHelloAck} (h : messageOf protobuf frame = some (.helloAck ack)) :
    (m.onFrame protobuf frame).1.Active c process ↔
      if c = frame.connectionId then
        ack.result = .ok ∧ ∃ link, m.links.get c = some link ∧ link.remoteProcess = process
      else m.Active c process := by
  have hlinks := onFrame_helloAck_links (m := m) h
  cases hlink : m.links.get frame.connectionId with
  | none =>
      rw [hlink] at hlinks
      rw [active_congr hlinks]
      split
      · rename_i hc
        unfold Active
        rw [hc, hlink]
        simp
      · exact Iff.rfl
  | some link =>
      rw [hlink] at hlinks
      rw [active_set hlinks]
      by_cases hc : c = frame.connectionId
      · rw [if_pos hc, if_pos hc, hc, hlink]
        dsimp only
        by_cases hresult : ack.result = .ok
        · simp [hresult]
        · simp [hresult]
      · rw [if_neg hc, if_neg hc]

end LinkManager

/-! ## Introduced links -/

/-- A link manager, and the last hello that has come over each connection. -/
structure LinkHistory where
  manager : LinkManager
  lastHello : ConnectionId → Option ProtoHello := fun _ => none

namespace LinkHistory

variable {protobuf : ControlProtobuf} {x : LinkHistory} {input : LinkInput} {frame : RawFrame}

/-- The hello that an input brings, and the connection that it comes over. -/
def helloOf (protobuf : ControlProtobuf) : LinkInput → Option (ConnectionId × ProtoHello)
  | .connection _ => none
  | .frame frame =>
      match LinkManager.messageOf protobuf frame with
      | some (.hello hello) => some (frame.connectionId, hello)
      | _ => none

/-- One input. -/
def handle (protobuf : ControlProtobuf) (x : LinkHistory) (input : LinkInput) : LinkHistory where
  manager := x.manager.handle protobuf input
  lastHello := match helloOf protobuf input with
    | none => x.lastHello
    | some (connectionId, hello) => Function.update x.lastHello connectionId (some hello)

/-- Every active link is with the process of the last hello of its connection, which was well formed and
compatible. -/
def Introduced (x : LinkHistory) : Prop :=
  ∀ c process, x.manager.Active c process →
    ∃ hello, x.lastHello c = some hello ∧ x.manager.accepts hello = some process

/-- A hello without an identity does not come over an active link, and an answer that says yes comes over a
link that the last hello has made. -/
def Introduces (protobuf : ControlProtobuf) (x : LinkHistory) : LinkInput → Prop
  | .connection _ => True
  | .frame frame =>
      match LinkManager.messageOf protobuf frame with
      | some (.hello hello) => hello.self = none → ∀ process, ¬ x.manager.Active frame.connectionId process
      | some (.helloAck ack) => ack.result = .ok →
          ∀ link, x.manager.links.get frame.connectionId = some link →
            ∃ hello, x.lastHello frame.connectionId = some hello ∧
              x.manager.accepts hello = some link.remoteProcess
      | _ => True

/-- An input that brings no hello, and makes no link active. -/
theorem introduced_of_quiet (hI : x.Introduced) (hhello : helloOf protobuf input = none)
    (hactive : ∀ c process, (x.manager.handle protobuf input).Active c process → x.manager.Active c process) :
    (x.handle protobuf input).Introduced := by
  intro c process hc
  obtain ⟨hello, hlast, haccepts⟩ := hI c process (hactive c process hc)
  refine ⟨hello, ?_, ?_⟩
  · simpa [handle, hhello] using hlast
  · exact (LinkManager.accepts_congr (LinkManager.handle_protocolVersion input) hello).trans haccepts

/-- A hello leaves the links introduced unless it has no identity and comes over an active one. -/
theorem introduced_hello (hI : x.Introduced) {hello : ProtoHello}
    (h : LinkManager.messageOf protobuf frame = some (.hello hello)) :
    (x.handle protobuf (.frame frame)).Introduced ↔
      (hello.self = none → ∀ process, ¬ x.manager.Active frame.connectionId process) := by
  have hlast : (x.handle protobuf (.frame frame)).lastHello =
      Function.update x.lastHello frame.connectionId (some hello) := by
    simp [handle, helloOf, h]
  have haccepts : ∀ hello', (x.handle protobuf (.frame frame)).manager.accepts hello' =
      x.manager.accepts hello' :=
    LinkManager.accepts_congr (LinkManager.handle_protocolVersion (.frame frame))
  have hactive : ∀ c process, (x.handle protobuf (.frame frame)).manager.Active c process ↔ _ :=
    fun c process => LinkManager.active_hello h
  constructor
  · intro hI' hself process hc
    obtain ⟨hello', hlast', haccepts'⟩ := hI' frame.connectionId process
      ((hactive _ _).mpr (by rw [if_neg (by simp [hself])]; exact hc))
    rw [hlast, Function.update_self, Option.some.injEq] at hlast'
    rw [haccepts, ← hlast', LinkManager.accepts_none hself] at haccepts'
    cases haccepts'
  · intro hfits c process hc
    rw [hactive] at hc
    rw [hlast]
    by_cases hsame : c = frame.connectionId
    · subst hsame
      rw [Function.update_self]
      refine ⟨hello, rfl, ?_⟩
      rw [haccepts]
      by_cases hself : hello.self = none
      · rw [if_neg (by simp [hself])] at hc
        exact absurd hc (hfits hself process)
      · rwa [if_pos ⟨rfl, hself⟩] at hc
    · rw [if_neg fun hboth => hsame hboth.1] at hc
      rw [Function.update_of_ne hsame]
      obtain ⟨hello', hlast', haccepts'⟩ := hI c process hc
      exact ⟨hello', hlast', (haccepts hello').trans haccepts'⟩

/-- An answer that says yes makes its link active, whatever has come over the connection before. -/
theorem introduced_helloAck (hI : x.Introduced) {ack : ProtoHelloAck}
    (h : LinkManager.messageOf protobuf frame = some (.helloAck ack)) :
    (x.handle protobuf (.frame frame)).Introduced ↔
      (ack.result = .ok → ∀ link, x.manager.links.get frame.connectionId = some link →
        ∃ hello, x.lastHello frame.connectionId = some hello ∧
          x.manager.accepts hello = some link.remoteProcess) := by
  have hlast : (x.handle protobuf (.frame frame)).lastHello = x.lastHello := by
    simp [handle, helloOf, h]
  have haccepts : ∀ hello', (x.handle protobuf (.frame frame)).manager.accepts hello' =
      x.manager.accepts hello' :=
    LinkManager.accepts_congr (LinkManager.handle_protocolVersion (.frame frame))
  have hactive : ∀ c process, (x.handle protobuf (.frame frame)).manager.Active c process ↔ _ :=
    fun c process => LinkManager.active_helloAck h
  constructor
  · intro hI' hok link hlink
    obtain ⟨hello, hlast', haccepts'⟩ := hI' frame.connectionId link.remoteProcess
      ((hactive _ _).mpr (by rw [if_pos rfl]; exact ⟨hok, link, hlink, rfl⟩))
    rw [hlast] at hlast'
    rw [haccepts] at haccepts'
    exact ⟨hello, hlast', haccepts'⟩
  · intro hfits c process hc
    rw [hactive] at hc
    rw [hlast]
    have hbefore : ∃ hello, x.lastHello c = some hello ∧ x.manager.accepts hello = some process := by
      split at hc
      · rename_i hsame
        obtain ⟨hok, link, hlink, hremote⟩ := hc
        rw [hsame] at hlink ⊢
        rw [← hremote]
        exact hfits hok link hlink
      · exact hI c process hc
    obtain ⟨hello, hlast', haccepts'⟩ := hbefore
    exact ⟨hello, hlast', (haccepts hello).trans haccepts'⟩

/-- After an input the links are introduced exactly if the input fits. -/
theorem introduced_iff (hI : x.Introduced) :
    (x.handle protobuf input).Introduced ↔ x.Introduces protobuf input := by
  cases input with
  | connection event =>
      refine iff_of_true (introduced_of_quiet hI rfl ?_) trivial
      exact fun c process => LinkManager.active_of_connection
  | frame frame =>
      cases h : LinkManager.messageOf protobuf frame with
      | none =>
          simp only [Introduces, h, iff_true]
          refine introduced_of_quiet hI (by simp [helloOf, h]) ?_
          intro c process
          exact (LinkManager.active_congr (LinkManager.onFrame_links_of_other (by simp [h]) (by simp [h]))).mp
      | some message =>
          cases message with
          | hello hello =>
              simp only [Introduces, h]
              exact introduced_hello hI h
          | helloAck ack =>
              simp only [Introduces, h]
              exact introduced_helloAck hI h
          | _ =>
              simp only [Introduces, h, iff_true]
              refine introduced_of_quiet hI (by simp [helloOf, h]) ?_
              intro c process
              exact (LinkManager.active_congr
                (LinkManager.onFrame_links_of_other (by simp [h]) (by simp [h]))).mp

/-- A new link manager. -/
def initial (self : ProcessRef) (protocolVersion : UInt32) : LinkHistory := ⟨{ self, protocolVersion }, fun _ => none⟩

/-- **Every active link has been introduced** at all times, exactly along the inputs in which no hello
without an identity comes over an active link, and every answer that says yes comes over a link that the
last hello of the connection has made. -/
theorem links_introduced (protobuf : ControlProtobuf) (self : ProcessRef) (protocolVersion : UInt32)
    (inputs : List LinkInput) :
    Always (handle protobuf) Introduced (initial self protocolVersion) inputs ↔
      Admitted (handle protobuf) (Introduces protobuf) (initial self protocolVersion) inputs := by
  apply always_iff_admitted (I := Introduced)
  · rintro c process ⟨link, hlink, -⟩
    cases hlink
  · exact fun _ hI => hI
  · exact fun x input hI hfits => (introduced_iff hI).mpr hfits
  · exact fun x input hI hfits hI' => hfits ((introduced_iff hI).mp hI')

/-- An answer that says yes, without an identity. -/
def yes : ProtoControlMessage := .helloAck { result := .ok }

/-- A connection whose peer answers before it has said anything. -/
def answeredFirst : List LinkInput :=
  [.connection ⟨.connected, 1⟩, .frame (controlFrame (.knowing [yes]) 1 yes)]

/-- A peer that only answers gets an active link, and its identity is the one that no process has. -/
theorem link_not_introduced :
    (after (handle (.knowing [yes])) (initial ⟨⟨10, 1⟩, 1⟩ 1) answeredFirst).manager.Active 1 ⟨⟨0, 0⟩, 0⟩ ∧
    (after (handle (.knowing [yes])) (initial ⟨⟨10, 1⟩, 1⟩ 1) answeredFirst).lastHello 1 = none :=
  ⟨⟨⟨1, ⟨⟨0, 0⟩, 0⟩, .active⟩, rfl, rfl, rfl⟩, rfl⟩

end LinkHistory

/-! ## One link for a process -/

namespace LinkManager

variable {protobuf : ControlProtobuf} {m : LinkManager} {input : LinkInput} {frame : RawFrame}

/-- No two active links are with the same process. -/
def Single (m : LinkManager) : Prop :=
  ∀ c c' process, m.Active c process → m.Active c' process → c = c'

/-- No other connection has an active link with this process. -/
def Unlinked (m : LinkManager) (c : ConnectionId) (process : ProcessRef) : Prop :=
  ∀ c', m.Active c' process → c' = c

/-- A hello that is accepted, and an answer that says yes, comes only when the process of the link has no
other one. -/
def Adds (protobuf : ControlProtobuf) (m : LinkManager) : LinkInput → Prop
  | .connection _ => True
  | .frame frame =>
      match messageOf protobuf frame with
      | some (.hello hello) => ∀ process, m.accepts hello = some process → m.Unlinked frame.connectionId process
      | some (.helloAck ack) => ack.result = .ok →
          ∀ link, m.links.get frame.connectionId = some link → m.Unlinked frame.connectionId link.remoteProcess
      | _ => True

theorem single_of_active {m' : LinkManager} (hS : m.Single)
    (h : ∀ c process, m'.Active c process → m.Active c process) : m'.Single :=
  fun c c' process hc hc' => hS c c' process (h c process hc) (h c' process hc')

/-- When one connection is written, the links stay single exactly if the process that it has afterwards has
no other one. -/
theorem single_written {m' : LinkManager} {c : ConnectionId} {Q : ProcessRef → Prop} (hS : m.Single)
    (h : ∀ c' process, m'.Active c' process ↔ if c' = c then Q process else m.Active c' process) :
    m'.Single ↔ ∀ process, Q process → m.Unlinked c process := by
  constructor
  · intro hS' process hprocess c' hc'
    by_cases hsame : c' = c
    · exact hsame
    · exact hS' c' c process ((h _ _).mpr (by rwa [if_neg hsame])) ((h _ _).mpr (by rwa [if_pos rfl]))
  · intro hfits a b process ha hb
    rw [h] at ha hb
    split at ha
    · rename_i hac
      split at hb
      · rename_i hbc
        exact hac.trans hbc.symm
      · exact hac.trans (hfits process ha b hb).symm
    · split at hb
      · rename_i hbc
        exact (hfits process hb a ha).trans hbc.symm
      · exact hS a b process ha hb

theorem single_hello (hS : m.Single) {hello : ProtoHello}
    (h : messageOf protobuf frame = some (.hello hello)) :
    (m.onFrame protobuf frame).1.Single ↔
      ∀ process, m.accepts hello = some process → m.Unlinked frame.connectionId process := by
  by_cases hself : hello.self = none
  · -- nothing is accepted, and nothing changes
    have hlinks := onFrame_hello_links (m := m) h
    rw [hself] at hlinks
    refine iff_of_true (single_of_active hS fun c process => (active_congr hlinks).mp) ?_
    intro process haccepts
    rw [accepts_none hself] at haccepts
    cases haccepts
  · apply single_written (Q := fun process => m.accepts hello = some process) hS
    intro c' process
    rw [active_hello h]
    simp [hself]

theorem single_helloAck (hS : m.Single) {ack : ProtoHelloAck}
    (h : messageOf protobuf frame = some (.helloAck ack)) :
    (m.onFrame protobuf frame).1.Single ↔
      (ack.result = .ok → ∀ link, m.links.get frame.connectionId = some link →
        m.Unlinked frame.connectionId link.remoteProcess) := by
  rw [single_written (Q := fun process => ack.result = .ok ∧
    ∃ link, m.links.get frame.connectionId = some link ∧ link.remoteProcess = process) hS ?_]
  · constructor
    · exact fun hfits hok link hlink => hfits link.remoteProcess ⟨hok, link, hlink, rfl⟩
    · rintro hfits process ⟨hok, link, hlink, rfl⟩
      exact hfits hok link hlink
  · intro c' process
    rw [active_helloAck h]
    by_cases hc : c' = frame.connectionId
    · simp [hc]
    · simp [hc]

/-- After an input the links are single exactly if the input adds none that there is. -/
theorem single_iff (hS : m.Single) : (m.handle protobuf input).Single ↔ m.Adds protobuf input := by
  cases input with
  | connection event =>
      exact iff_of_true (single_of_active hS fun c process => active_of_connection) trivial
  | frame frame =>
      cases h : messageOf protobuf frame with
      | none =>
          simp only [Adds, h, iff_true]
          exact single_of_active hS fun c process =>
            (active_congr (onFrame_links_of_other (by simp [h]) (by simp [h]))).mp
      | some message =>
          cases message with
          | hello hello =>
              simp only [Adds, h]
              exact single_hello hS h
          | helloAck ack =>
              simp only [Adds, h]
              exact single_helloAck hS h
          | _ =>
              simp only [Adds, h, iff_true]
              exact single_of_active hS fun c process =>
                (active_congr (onFrame_links_of_other (by simp [h]) (by simp [h]))).mp

/-- **A process has at most one active link** at all times, exactly along the inputs in which no hello is
accepted, and no answer says yes, for a link with a process that has an active link over another
connection. -/
theorem links_single (protobuf : ControlProtobuf) (self : ProcessRef) (protocolVersion : UInt32)
    (inputs : List LinkInput) :
    Always (handle protobuf) Single { self, protocolVersion } inputs ↔
      Admitted (handle protobuf) (Adds protobuf) { self, protocolVersion } inputs := by
  apply always_iff_admitted (I := Single)
  · rintro c c' process ⟨link, hlink, -⟩
    cases hlink
  · exact fun _ hS => hS
  · exact fun m input hS hadds => (single_iff hS).mpr hadds
  · exact fun m input hS hadds hS' => hadds ((single_iff hS).mp hS')

/-- The hello of a relay. -/
def relayHello : ProtoControlMessage := helloMessage ⟨⟨99, 1⟩, 1⟩ 1

/-- Both sides have dialled: the relay says hello over two connections. -/
def dialledTwice : List LinkInput :=
  [.connection ⟨.connected, 1⟩, .connection ⟨.connected, 2⟩,
    .frame (controlFrame (.knowing [relayHello]) 1 relayHello),
    .frame (controlFrame (.knowing [relayHello]) 2 relayHello)]

/-- Both connections become active links with the relay. -/
theorem links_not_single :
    (after (handle (.knowing [relayHello])) { self := ⟨⟨10, 1⟩, 1⟩ } dialledTwice).Active 1 ⟨⟨99, 1⟩, 1⟩ ∧
    (after (handle (.knowing [relayHello])) { self := ⟨⟨10, 1⟩, 1⟩ } dialledTwice).Active 2 ⟨⟨99, 1⟩, 1⟩ :=
  ⟨⟨⟨1, ⟨⟨99, 1⟩, 1⟩, .active⟩, rfl, rfl, rfl⟩, ⟨⟨2, ⟨⟨99, 1⟩, 1⟩, .active⟩, rfl, rfl, rfl⟩⟩

end LinkManager

end SomeServer
