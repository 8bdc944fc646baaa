/-
# SomeServer.Ipc.Handshake — two link managers on one connection

Each end of a connection learns of it by a connected event, when its transport gets round to it: a frame of
the peer may well be handled before. What a link manager queues is drained and sent in order, and arrives in
order; when, is open. In a `Handshake` the two events, the drains and the deliveries come in any order.
-/
import SomeServer.Ipc.Links
import Mathlib.Logic.Relation

namespace SomeServer

open Lib

/-- The two ends of a connection. -/
inductive Side where
  | lhs
  | rhs
deriving DecidableEq, Repr

namespace Side

def other : Side → Side
  | lhs => rhs
  | rhs => lhs

@[simp] theorem other_other (side : Side) : side.other.other = side := by cases side <;> rfl

@[simp] theorem other_ne (side : Side) : side.other ≠ side := by cases side <;> simp [other]

@[simp] theorem ne_other (side : Side) : side ≠ side.other := (other_ne side).symm

theorem eq_or_other (side side' : Side) : side = side' ∨ side = side'.other := by
  cases side <;> cases side' <;> simp [other]

end Side

/-- The managers of the two ends, the frames on their way to an end, and which ends have been told of the
connection. -/
structure Handshake where
  managers : Side → LinkManager
  inFlight : Side → List RawFrame
  connected : Side → Bool

inductive HandshakeStep where
  | connect (side : Side)
  | flush (side : Side)
  | deliver (side : Side)
deriving DecidableEq

namespace Handshake

/-- Two new link managers. -/
def initial (identity : Side → ProcessRef) (version : Side → UInt32) : Handshake where
  managers side := { self := identity side, protocolVersion := version side }
  inFlight _ := []
  connected _ := false

/-- The frames that go over the connection. -/
def sent (connection : ConnectionId) (frames : List RawFrame) : List RawFrame :=
  frames.filter fun frame => frame.connectionId = connection

/-- One step; each end has a number of its own for the connection. -/
def step (protobuf : ControlProtobuf) (connection : Side → ConnectionId) (s : Handshake) :
    HandshakeStep → Option Handshake
  | .connect side =>
      if s.connected side then none
      else some { s with
        managers := Function.update s.managers side
          ((s.managers side).onConnectionEvent protobuf ⟨.connected, connection side⟩)
        connected := Function.update s.connected side true }
  | .flush side =>
      let drained := (s.managers side).drainOutboundFrames
      some { s with
        managers := Function.update s.managers side drained.1
        inFlight := Function.update s.inFlight side.other
          (s.inFlight side.other ++ sent (connection side) drained.2) }
  | .deliver side =>
      match s.inFlight side with
      | [] => none
      | frame :: frames => some { s with
          managers := Function.update s.managers side
            ((s.managers side).onFrame protobuf (frame.on (connection side))).1
          inFlight := Function.update s.inFlight side frames }

/-- Both ends know of the connection, and every frame that was queued has been delivered. -/
def Settled (s : Handshake) : Prop :=
  ∀ side, s.connected side = true ∧ s.inFlight side = [] ∧ (s.managers side).outboundFrames = []

/-- The messages of the two ends come through protobuf. -/
def Carried (protobuf : ControlProtobuf) (identity : Side → ProcessRef) (version : Side → UInt32) : Prop :=
  ∀ side, protobuf.Carries (helloMessage (identity side) (version side)) ∧
    ∀ result, result = .ok ∨ result = .incompatibleVersion →
      protobuf.Carries (helloAckMessage (identity side) (version side) result)

variable {protobuf : ControlProtobuf} {connection : Side → ConnectionId} {identity : Side → ProcessRef}
  {version : Side → UInt32} {s s' : Handshake} {side side' : Side}

/-! ## The mail of an end -/

/-- The messages that an end has still to be given, in order. -/
def mail (protobuf : ControlProtobuf) (connection : Side → ConnectionId) (s : Handshake) (side : Side) :
    List (Option ProtoControlMessage) :=
  (s.inFlight side ++ sent (connection side.other) (s.managers side.other).outboundFrames).map
    (LinkManager.messageOf protobuf)

theorem mail_settled (h : s.Settled) : s.mail protobuf connection side = [] := by
  simp [mail, sent, (h side).2.1, (h side.other).2.2]

section Mail

variable {m : LinkManager} {frames : List RawFrame} {rest : List RawFrame}

/-- What the manager of one end queues is mail for the other end. -/
theorem mail_queued (protobuf : ControlProtobuf) (connection : Side → ConnectionId) (flags : Side → Bool)
    (h : m.outboundFrames = (s.managers side).outboundFrames ++ frames) :
    ({ s with managers := Function.update s.managers side m, connected := flags } : Handshake).mail
        protobuf connection side = s.mail protobuf connection side ∧
      ({ s with managers := Function.update s.managers side m, connected := flags } : Handshake).mail
        protobuf connection side.other = s.mail protobuf connection side.other ++
          (sent (connection side) frames).map (LinkManager.messageOf protobuf) := by
  constructor
  · simp [mail]
  · simp [mail, sent, h]

theorem mail_flushed (protobuf : ControlProtobuf) (connection : Side → ConnectionId) (s : Handshake)
    (side : Side) :
    ({ s with
        managers := Function.update s.managers side (s.managers side).drainOutboundFrames.1
        inFlight := Function.update s.inFlight side.other
          (s.inFlight side.other ++ sent (connection side) (s.managers side).drainOutboundFrames.2) } :
      Handshake).mail protobuf connection = s.mail protobuf connection := by
  funext side'
  rcases side'.eq_or_other side with rfl | rfl
  · simp [mail]
  · simp [mail, sent, LinkManager.drainOutboundFrames]

/-- A delivered frame is the first of the mail. -/
theorem mail_delivered (protobuf : ControlProtobuf) (connection : Side → ConnectionId) {frame : RawFrame}
    (hframes : s.inFlight side = frame :: rest)
    (h : m.outboundFrames = (s.managers side).outboundFrames ++ frames) :
    s.mail protobuf connection side = LinkManager.messageOf protobuf frame ::
        ({ s with
          managers := Function.update s.managers side m
          inFlight := Function.update s.inFlight side rest } : Handshake).mail protobuf connection side ∧
      ({ s with
          managers := Function.update s.managers side m
          inFlight := Function.update s.inFlight side rest } : Handshake).mail protobuf connection side.other =
        s.mail protobuf connection side.other ++
          (sent (connection side) frames).map (LinkManager.messageOf protobuf) := by
  constructor
  · simp [mail, hframes]
  · simp [mail, sent, h]

end Mail

/-- A message that is queued for the connection is one message of mail. -/
theorem sent_controlFrame {message : ProtoControlMessage} (h : protobuf.Carries message) (c : ConnectionId) :
    (sent c [controlFrame protobuf c message]).map (LinkManager.messageOf protobuf) = [some message] := by
  have hmessage : LinkManager.messageOf protobuf (controlFrame protobuf c message) = some message := by
    simp [LinkManager.messageOf, controlFrame, h.decode]
  simp [sent, controlFrame, ← hmessage]

/-! ## What the managers do -/

section Manager

variable {m : LinkManager} {frame : RawFrame} {peer : ProcessRef} {v : UInt32} {c : ConnectionId}

/-- A peer whose oldest version is its own is compatible with that version alone. -/
theorem compatible_iff : m.isProtocolCompatible ⟨peer, v, v⟩ = true ↔ v = m.protocolVersion ∧ v ≠ 0 := by
  unfold LinkManager.isProtocolCompatible
  dsimp only
  split
  · rename_i hzero
    simp [hzero]
  · rename_i hzero
    split
    · rename_i hlt
      refine iff_of_false (by simp) fun h => ?_
      exact absurd (h.1 ▸ hlt) (UInt32.lt_irrefl _)
    · rename_i hlt
      split
      · rename_i hgt
        refine iff_of_false (by simp) fun h => ?_
        exact absurd (h.1 ▸ hgt) (UInt32.lt_irrefl _)
      · rename_i hgt
        refine iff_of_true rfl ⟨?_, hzero⟩
        exact UInt32.le_antisymm (UInt32.not_lt.mp hgt) (UInt32.not_lt.mp hlt)

theorem onFrame_accepted (h : LinkManager.messageOf protobuf frame = some (helloMessage peer v))
    (hversion : m.protocolVersion = v) (hv : v ≠ 0) :
    (m.onFrame protobuf frame).1.links =
        m.links.set frame.connectionId ⟨frame.connectionId, peer, .active⟩ ∧
      (m.onFrame protobuf frame).1.outboundFrames = m.outboundFrames ++
        [controlFrame protobuf frame.connectionId (helloAckMessage m.self m.protocolVersion .ok)] := by
  have hcompatible : m.isProtocolCompatible ⟨peer, v, v⟩ = true := compatible_iff.mpr ⟨hversion.symm, hv⟩
  rw [LinkManager.onFrame_hello h]
  simp only [toProcessRef_toIdentity, hcompatible, Bool.not_true, Bool.false_eq_true, if_false]
  exact ⟨rfl, rfl⟩

theorem onFrame_refused (h : LinkManager.messageOf protobuf frame = some (helloMessage peer v))
    (hv : ¬ (v = m.protocolVersion ∧ v ≠ 0)) :
    (m.onFrame protobuf frame).1.links =
        m.links.set frame.connectionId ⟨frame.connectionId, peer, .closed⟩ ∧
      (m.onFrame protobuf frame).1.outboundFrames = m.outboundFrames ++
        [controlFrame protobuf frame.connectionId (helloAckMessage m.self m.protocolVersion .incompatibleVersion)] := by
  have hcompatible : m.isProtocolCompatible ⟨peer, v, v⟩ = false := by
    rw [← Bool.not_eq_true]
    exact fun h => hv (compatible_iff.mp h)
  rw [LinkManager.onFrame_hello h]
  simp only [toProcessRef_toIdentity, hcompatible, Bool.not_false, if_true]
  exact ⟨rfl, rfl⟩

/-- An answer queues nothing. -/
theorem onFrame_answered {result : ProtoHelloAckResult}
    (h : LinkManager.messageOf protobuf frame = some (helloAckMessage peer v result)) :
    (m.onFrame protobuf frame).1.outboundFrames = m.outboundFrames := by
  rw [LinkManager.onFrame_helloAck h]
  split
  · rfl
  · split <;> rfl

end Manager

/-! ## The versions agree -/

/-- What an end has of the other one: the link names it. -/
def Heard (connection : Side → ConnectionId) (identity : Side → ProcessRef) (s : Handshake) (side : Side) : Prop :=
  ∃ link, (s.managers side).links.get (connection side) = some link ∧ link.remoteProcess = identity side.other

/-- The link of an end is active. -/
def Up (connection : Side → ConnectionId) (s : Handshake) (side : Side) : Prop :=
  ∃ link, (s.managers side).links.get (connection side) = some link ∧ link.state = .active

/-- How far an end is when the versions agree. Its mail is the hello of the other end and the answer to its
own hello; the hello of the other end has been heard or is on its way, and when it has been heard the other
end has its answer or will have it. -/
structure Agreeing (protobuf : ControlProtobuf) (connection : Side → ConnectionId) (identity : Side → ProcessRef)
    (version : Side → UInt32) (s : Handshake) (side : Side) : Prop where
  own : (s.managers side).self = identity side ∧ (s.managers side).protocolVersion = version side
  mail : ∀ message ∈ s.mail protobuf connection side,
    message = some (helloMessage (identity side.other) (version side.other)) ∧ s.connected side.other = true ∨
      message = some (helloAckMessage (identity side.other) (version side.other) .ok) ∧ s.connected side = true
  link : s.connected side = true → ∃ link, (s.managers side).links.get (connection side) = some link
  greeted : s.connected side.other = true →
    some (helloMessage (identity side.other) (version side.other)) ∈ s.mail protobuf connection side ∨
      s.Heard connection identity side ∧
        (some (helloAckMessage (identity side) (version side) .ok) ∈ s.mail protobuf connection side.other ∨
          s.Up connection side.other)

theorem agreeing_initial (side : Side) :
    (initial identity version).Agreeing protobuf connection identity version side where
  own := ⟨rfl, rfl⟩
  mail := by simp [Handshake.mail, initial, sent]
  link h := by cases h
  greeted h := by cases h

section Agree

variable (hcarried : Carried protobuf identity version) (hA : ∀ side, s.Agreeing protobuf connection identity version side)
include hcarried hA

/-- The connected event may come late: the link is shaking hands again, but the hello is on its way, and
will be answered. -/
theorem agreeing_connect (h : s.step protobuf connection (.connect side) = some s') (side' : Side) :
    s'.Agreeing protobuf connection identity version side' := by
  simp only [step, Option.ite_none_left_eq_some, Option.some.injEq, Bool.not_eq_true] at h
  obtain ⟨hnew, rfl⟩ := h
  obtain ⟨hself, hversion⟩ := (hA side).own
  have hqueued : ((s.managers side).onConnectionEvent protobuf ⟨.connected, connection side⟩).outboundFrames =
      (s.managers side).outboundFrames ++
        [controlFrame protobuf (connection side) (helloMessage (identity side) (version side))] := by
    rw [← hself, ← hversion]
    rfl
  obtain ⟨hmail, hmail'⟩ := mail_queued protobuf connection (Function.update s.connected side true) hqueued
  rw [sent_controlFrame (hcarried side).1] at hmail'
  -- the own link shakes hands again; the other end gets the hello
  rcases side'.eq_or_other side with rfl | rfl
  · refine ⟨?_, ?_, ?_, ?_⟩
    · simpa [LinkManager.onConnectionEvent] using (hA side').own
    · intro message hmem
      rw [hmail] at hmem
      rcases (hA side').mail message hmem with ⟨rfl, hother⟩ | ⟨rfl, hconnected⟩
      · exact .inl ⟨rfl, by simpa using hother⟩
      · exact .inr ⟨rfl, by simp⟩
    · intro _
      simp [LinkManager.onConnectionEvent]
    · intro hother
      have hother' : s.connected side'.other = true := by simpa using hother
      rw [hmail, hmail']
      rcases (hA side').greeted hother' with hmem | ⟨⟨link, hlink, hremote⟩, hanswered⟩
      · exact .inl hmem
      · right
        constructor
        · simp [Heard, LinkManager.onConnectionEvent, LinkManager.linkOf, hlink, hremote]
        · rcases hanswered with hmem | hup
          · exact .inl (List.mem_append_left _ hmem)
          · exact .inr (by simpa [Up] using hup)
  · refine ⟨?_, ?_, ?_, ?_⟩
    · simpa using (hA side.other).own
    · intro message hmem
      rw [hmail', List.mem_append, List.mem_singleton] at hmem
      rcases hmem with hmem | rfl
      · rcases (hA side.other).mail message hmem with ⟨rfl, hconnected⟩ | ⟨rfl, hconnected⟩
        · exact .inl ⟨rfl, by simp⟩
        · exact .inr ⟨rfl, by simpa using hconnected⟩
      · exact .inl ⟨by simp, by simp⟩
    · intro hconnected
      have hlink := (hA side.other).link (by simpa using hconnected)
      simpa using hlink
    · intro _
      left
      rw [hmail']
      simp

omit hcarried in
theorem agreeing_flush (h : s.step protobuf connection (.flush side) = some s') (side' : Side) :
    s'.Agreeing protobuf connection identity version side' := by
  simp only [step, Option.some.injEq] at h
  subst h
  have hmail := mail_flushed protobuf connection s side
  have hlinks : ∀ side'', ((Function.update s.managers side (s.managers side).drainOutboundFrames.1) side'').links =
      (s.managers side'').links := by
    intro side''
    by_cases hside : side'' = side
    · subst hside
      simp [LinkManager.drainOutboundFrames]
    · simp [hside]
  refine ⟨?_, ?_, ?_, ?_⟩
  · by_cases hside : side' = side
    · subst hside
      simpa [LinkManager.drainOutboundFrames] using (hA side').own
    · simpa [hside] using (hA side').own
  · rw [hmail]
    exact (hA side').mail
  · simp only [hlinks]
    exact (hA side').link
  · simp only [hmail, Heard, Up, hlinks]
    exact (hA side').greeted

/-- The hello of the other end makes the link active, and is answered. -/
theorem agreeing_hello (hversion : version side = version side.other) (hv : version side ≠ 0)
    {frame : RawFrame} {frames : List RawFrame} (hframes : s.inFlight side = frame :: frames)
    (hmessage : LinkManager.messageOf protobuf frame =
      some (helloMessage (identity side.other) (version side.other)))
    (hconnected : s.connected side.other = true) (side' : Side) :
    ({ s with
        managers := Function.update s.managers side
          ((s.managers side).onFrame protobuf (frame.on (connection side))).1
        inFlight := Function.update s.inFlight side frames } : Handshake).Agreeing protobuf connection identity
      version side' := by
  obtain ⟨hself, hown⟩ := (hA side).own
  have hon : LinkManager.messageOf protobuf (frame.on (connection side)) =
      some (helloMessage (identity side.other) (version side.other)) := hmessage
  obtain ⟨hlinks, hframe⟩ := onFrame_accepted hon (hown.trans hversion) (hversion ▸ hv)
  rw [hself, hown, show (frame.on (connection side)).connectionId = connection side from rfl] at hframe
  rw [show (frame.on (connection side)).connectionId = connection side from rfl] at hlinks
  obtain ⟨hmail, hmail'⟩ := mail_delivered protobuf connection hframes hframe
  rw [sent_controlFrame ((hcarried side).2 .ok (.inl rfl))] at hmail'
  -- the link is active at this end, and the other end gets the answer
  rcases side'.eq_or_other side with rfl | rfl
  · refine ⟨?_, ?_, ?_, ?_⟩
    · simpa using (hA side').own
    · intro message hmem
      exact (hA side').mail message (hmail ▸ List.mem_cons_of_mem _ hmem)
    · intro _
      simp [hlinks]
    · intro _
      right
      constructor
      · simp [Heard, hlinks]
      · rw [hmail']
        simp
  · refine ⟨?_, ?_, ?_, ?_⟩
    · simpa using (hA side.other).own
    · intro message hmem
      rw [hmail', List.mem_append, List.mem_singleton] at hmem
      rcases hmem with hmem | rfl
      · exact (hA side.other).mail message hmem
      · exact .inr ⟨by simp, hconnected⟩
    · simpa using (hA side.other).link
    · intro hside
      rw [Side.other_other] at hside ⊢
      have hbefore := (hA side.other).greeted (by rwa [Side.other_other])
      rw [Side.other_other] at hbefore
      rw [hmail']
      rcases hbefore with hmem | ⟨hheard, -⟩
      · exact .inl (List.mem_append_left _ hmem)
      · right
        constructor
        · simpa [Heard] using hheard
        · right
          simp [Up, hlinks]

omit hcarried in
/-- The answer of the other end makes the link active again. -/
theorem agreeing_answer {frame : RawFrame} {frames : List RawFrame}
    (hframes : s.inFlight side = frame :: frames)
    (hmessage : LinkManager.messageOf protobuf frame =
      some (helloAckMessage (identity side.other) (version side.other) .ok))
    (hconnected : s.connected side = true) (side' : Side) :
    ({ s with
        managers := Function.update s.managers side
          ((s.managers side).onFrame protobuf (frame.on (connection side))).1
        inFlight := Function.update s.inFlight side frames } : Handshake).Agreeing protobuf connection identity
      version side' := by
  obtain ⟨link, hlink⟩ := (hA side).link hconnected
  have hon : LinkManager.messageOf protobuf (frame.on (connection side)) =
      some (helloAckMessage (identity side.other) (version side.other) .ok) := hmessage
  have hlinks := LinkManager.onFrame_helloAck_links (m := s.managers side) hon
  rw [show (frame.on (connection side)).connectionId = connection side from rfl, hlink] at hlinks
  simp only [if_true] at hlinks
  have hframe : ((s.managers side).onFrame protobuf (frame.on (connection side))).1.outboundFrames =
      (s.managers side).outboundFrames ++ [] := by rw [onFrame_answered hon, List.append_nil]
  obtain ⟨hmail, hmail'⟩ := mail_delivered protobuf connection hframes hframe
  rw [show sent (connection side) [] = [] from rfl, List.map_nil, List.append_nil] at hmail'
  have hother : helloMessage (identity side.other) (version side.other) ≠
      helloAckMessage (identity side.other) (version side.other) .ok := by simp [helloMessage, helloAckMessage]
  -- nothing is sent back, and the hello of the other end may still be on its way
  rcases side'.eq_or_other side with rfl | rfl
  · refine ⟨?_, ?_, ?_, ?_⟩
    · simpa using (hA side').own
    · intro message hmem
      exact (hA side').mail message (hmail ▸ List.mem_cons_of_mem _ hmem)
    · intro _
      simp [hlinks]
    · intro hside
      rw [hmail']
      have hbefore := (hA side').greeted hside
      rw [hmail, hmessage] at hbefore
      rcases hbefore with hmem | ⟨⟨link', hlink', hremote⟩, hanswered⟩
      · left
        rcases List.mem_cons.mp hmem with heq | hmem
        · exact absurd (Option.some.inj heq) hother
        · exact hmem
      · right
        rw [hlink] at hlink'
        cases hlink'
        constructor
        · simp [Heard, hlinks, hremote]
        · rcases hanswered with hmem | hup
          · exact .inl hmem
          · exact .inr (by simpa [Up] using hup)
  · refine ⟨?_, ?_, ?_, ?_⟩
    · simpa using (hA side.other).own
    · rw [hmail']
      exact (hA side.other).mail
    · simpa using (hA side.other).link
    · intro hside
      rw [hmail']
      rcases (hA side.other).greeted hside with hmem | ⟨hheard, -⟩
      · exact .inl hmem
      · right
        constructor
        · simpa [Heard] using hheard
        · right
          simp [Up, hlinks]

theorem agreeing_step (hversion : version .lhs = version .rhs) (hv : version .lhs ≠ 0) {move : HandshakeStep}
    (h : s.step protobuf connection move = some s') (side' : Side) :
    s'.Agreeing protobuf connection identity version side' := by
  cases move with
  | connect side => exact agreeing_connect hcarried hA h side'
  | flush side => exact agreeing_flush hA h side'
  | deliver side =>
      have hsame : version side = version side.other := by
        cases side
        · exact hversion
        · exact hversion.symm
      have hzero : version side ≠ 0 := by
        cases side
        · exact hv
        · exact fun hzero => hv (hversion.trans hzero)
      simp only [step] at h
      split at h
      · cases h
      · rename_i frame frames hframes
        cases h
        have hmem : LinkManager.messageOf protobuf frame ∈ s.mail protobuf connection side := by
          simp [mail, hframes]
        rcases (hA side).mail _ hmem with ⟨hmessage, hconnected⟩ | ⟨hmessage, hconnected⟩
        · exact agreeing_hello hcarried hA hsame hzero hframes hmessage hconnected side'
        · exact agreeing_answer hA hframes hmessage hconnected side'

end Agree

/-! ## The versions differ -/

/-- When the versions do not fit, the mail of an end is a hello and a refusal, and no link is active. -/
structure Refusing (protobuf : ControlProtobuf) (connection : Side → ConnectionId) (identity : Side → ProcessRef)
    (version : Side → UInt32) (s : Handshake) (side : Side) : Prop where
  own : (s.managers side).self = identity side ∧ (s.managers side).protocolVersion = version side
  mail : ∀ message ∈ s.mail protobuf connection side,
    message = some (helloMessage (identity side.other) (version side.other)) ∨
      message = some (helloAckMessage (identity side.other) (version side.other) .incompatibleVersion)
  inactive : ∀ c process, ¬ (s.managers side).Active c process

section Refuse

variable (hcarried : Carried protobuf identity version)
  (hR : ∀ side, s.Refusing protobuf connection identity version side)
include hcarried hR

/-- The manager of one end has gone on, made no link active, and queued a hello or a refusal or nothing. -/
theorem refusing_queued {m : LinkManager} {flags : Side → Bool} (messages : List ProtoControlMessage)
    (hown : m.self = identity side ∧ m.protocolVersion = version side)
    (hactive : ∀ c process, ¬ m.Active c process)
    (hqueued : m.outboundFrames = (s.managers side).outboundFrames ++
      messages.map (controlFrame protobuf (connection side)))
    (hmessages : ∀ message ∈ messages, message = helloMessage (identity side) (version side) ∨
      message = helloAckMessage (identity side) (version side) .incompatibleVersion) (side' : Side) :
    ({ s with managers := Function.update s.managers side m, connected := flags } : Handshake).Refusing
      protobuf connection identity version side' := by
  obtain ⟨hmail, hmail'⟩ := mail_queued protobuf connection flags hqueued
  have hsent : ∀ message ∈ (sent (connection side) (messages.map (controlFrame protobuf (connection side)))).map
      (LinkManager.messageOf protobuf), ∃ message', message = some message' ∧ message' ∈ messages := by
    intro message hmem
    obtain ⟨frame, hframe, rfl⟩ := List.mem_map.mp hmem
    obtain ⟨message', hmem', rfl⟩ := List.mem_map.mp (List.mem_of_mem_filter hframe)
    refine ⟨message', ?_, hmem'⟩
    have hcarries : protobuf.Carries message' := by
      rcases hmessages message' hmem' with rfl | rfl
      · exact (hcarried side).1
      · exact (hcarried side).2 _ (.inr rfl)
    simp [LinkManager.messageOf, controlFrame, hcarries.decode]
  -- no link is active here; what the other end gets is a hello or a refusal
  rcases side'.eq_or_other side with rfl | rfl
  · refine ⟨?_, ?_, ?_⟩
    · simpa using hown
    · rw [hmail]
      exact (hR side').mail
    · simpa using hactive
  · refine ⟨?_, ?_, ?_⟩
    · simpa using (hR side.other).own
    · intro message hmem
      rw [hmail', List.mem_append] at hmem
      rcases hmem with hmem | hmem
      · exact (hR side.other).mail message hmem
      · obtain ⟨message', rfl, hmem'⟩ := hsent message hmem
        rcases hmessages message' hmem' with rfl | rfl
        · exact .inl (by simp)
        · exact .inr (by simp)
    · simpa using (hR side.other).inactive

theorem refusing_connect (h : s.step protobuf connection (.connect side) = some s') (side' : Side) :
    s'.Refusing protobuf connection identity version side' := by
  simp only [step, Option.ite_none_left_eq_some, Option.some.injEq] at h
  obtain ⟨-, rfl⟩ := h
  obtain ⟨hself, hversion⟩ := (hR side).own
  apply refusing_queued hcarried hR [helloMessage (identity side) (version side)]
  · exact (hR side).own
  · exact fun c process hactive => (hR side).inactive c process (LinkManager.active_of_connection hactive)
  · rw [← hself, ← hversion]
    rfl
  · intro message hmem
    exact .inl (List.mem_singleton.mp hmem)

omit hcarried in
theorem refusing_flush (h : s.step protobuf connection (.flush side) = some s') (side' : Side) :
    s'.Refusing protobuf connection identity version side' := by
  simp only [step, Option.some.injEq] at h
  subst h
  refine ⟨?_, ?_, ?_⟩
  · by_cases hside : side' = side
    · subst hside
      simpa [LinkManager.drainOutboundFrames] using (hR side').own
    · simpa [hside] using (hR side').own
  · rw [mail_flushed]
    exact (hR side').mail
  · intro c process
    by_cases hside : side' = side
    · subst hside
      dsimp only
      rw [Function.update_self]
      exact (hR side').inactive c process
    · simpa [hside] using (hR side').inactive c process

theorem refusing_deliver (hversion : ¬ (version .lhs = version .rhs ∧ version .lhs ≠ 0))
    (h : s.step protobuf connection (.deliver side) = some s') (side' : Side) :
    s'.Refusing protobuf connection identity version side' := by
  simp only [step] at h
  split at h
  · cases h
  rename_i frame frames hframes
  cases h
  have hmem : LinkManager.messageOf protobuf frame ∈ s.mail protobuf connection side := by
    simp [mail, hframes]
  -- without the frame the mail is as before, or shorter
  have hR' : ∀ side', ({ s with inFlight := Function.update s.inFlight side frames } : Handshake).Refusing
      protobuf connection identity version side' := by
    intro side'
    refine ⟨(hR side').own, ?_, (hR side').inactive⟩
    intro message hmessage
    apply (hR side').mail
    by_cases hside : side' = side
    · subst hside
      simp only [mail, Function.update_self] at hmessage
      simp only [mail, hframes, List.cons_append, List.map_cons]
      exact List.mem_cons_of_mem _ hmessage
    · simpa [mail, hside] using hmessage
  obtain ⟨hself, hown⟩ := (hR side).own
  have hown' : ((s.managers side).onFrame protobuf (frame.on (connection side))).1.self = identity side ∧
      ((s.managers side).onFrame protobuf (frame.on (connection side))).1.protocolVersion = version side := by
    simp [hself, hown]
  rcases (hR side).mail _ hmem with hmessage | hmessage
  · have hdiffer : ¬ (version side.other = (s.managers side).protocolVersion ∧ version side.other ≠ 0) := by
      rw [hown]
      rintro ⟨hsame, hzero⟩
      apply hversion
      cases side
      · exact ⟨hsame.symm, hsame ▸ hzero⟩
      · exact ⟨hsame, hzero⟩
    have hon : LinkManager.messageOf protobuf (frame.on (connection side)) =
        some (helloMessage (identity side.other) (version side.other)) := hmessage
    obtain ⟨hlinks, hqueued⟩ := onFrame_refused hon hdiffer
    apply refusing_queued hcarried hR' [helloAckMessage (identity side) (version side) .incompatibleVersion]
    · exact hown'
    · intro c process hactive
      rw [LinkManager.active_set hlinks] at hactive
      split at hactive
      · exact absurd hactive.1 (by simp)
      · exact (hR side).inactive c process hactive
    · rw [hself, hown] at hqueued
      exact hqueued
    · intro message hmem
      exact .inr (List.mem_singleton.mp hmem)
  · have hon : LinkManager.messageOf protobuf (frame.on (connection side)) =
        some (helloAckMessage (identity side.other) (version side.other) .incompatibleVersion) := hmessage
    apply refusing_queued hcarried hR' []
    · exact hown'
    · intro c process hactive
      rw [LinkManager.active_helloAck hon] at hactive
      split at hactive
      · exact absurd hactive.1 (show ProtoHelloAckResult.incompatibleVersion ≠ .ok by decide)
      · exact (hR side).inactive c process hactive
    · rw [onFrame_answered hon, List.map_nil, List.append_nil]
    · intro message hmem
      cases hmem

end Refuse

/-! ## The end of a handshake -/

/-- One step, whichever. -/
def Step (protobuf : ControlProtobuf) (connection : Side → ConnectionId) (s s' : Handshake) : Prop :=
  ∃ move, s.step protobuf connection move = some s'

theorem agreeing_run (hcarried : Carried protobuf identity version) (hversion : version .lhs = version .rhs)
    (hv : version .lhs ≠ 0)
    (hrun : Relation.ReflTransGen (Step protobuf connection) (initial identity version) s) (side : Side) :
    s.Agreeing protobuf connection identity version side := by
  induction hrun generalizing side with
  | refl => exact agreeing_initial side
  | tail _ hstep ih =>
      obtain ⟨move, hmove⟩ := hstep
      exact agreeing_step hcarried ih hversion hv hmove side

theorem refusing_run (hcarried : Carried protobuf identity version)
    (hversion : ¬ (version .lhs = version .rhs ∧ version .lhs ≠ 0))
    (hrun : Relation.ReflTransGen (Step protobuf connection) (initial identity version) s) (side : Side) :
    s.Refusing protobuf connection identity version side := by
  induction hrun generalizing side with
  | refl =>
      refine ⟨⟨rfl, rfl⟩, by simp [mail, initial, sent], ?_⟩
      rintro c process ⟨link, hlink, -⟩
      cases hlink
  | tail _ hstep ih =>
      obtain ⟨move, hmove⟩ := hstep
      cases move with
      | connect side' => exact refusing_connect hcarried ih hmove side
      | flush side' => exact refusing_flush ih hmove side
      | deliver side' => exact refusing_deliver hcarried ih hversion hmove side

/-- **The handshake agrees.** However the two connected events, the drains and the deliveries are
interleaved, when both ends know of the connection and everything has been delivered, each end has an
active link with the other one if the versions are the same and not zero, and otherwise neither has an
active link. -/
theorem handshake_agrees (protobuf : ControlProtobuf) (connection : Side → ConnectionId)
    (identity : Side → ProcessRef) (version : Side → UInt32) (hcarried : Carried protobuf identity version)
    (s : Handshake) (hrun : Relation.ReflTransGen (Step protobuf connection) (initial identity version) s)
    (hsettled : s.Settled) (side : Side) :
    (version .lhs = version .rhs ∧ version .lhs ≠ 0 →
      (s.managers side).Active (connection side) (identity side.other)) ∧
    (¬ (version .lhs = version .rhs ∧ version .lhs ≠ 0) →
      ∀ c process, ¬ (s.managers side).Active c process) := by
  constructor
  · rintro ⟨hversion, hv⟩
    have hA := agreeing_run hcarried hversion hv hrun
    have hheard : s.Heard connection identity side := by
      rcases (hA side).greeted (hsettled side.other).1 with hmem | ⟨hheard, -⟩
      · rw [mail_settled hsettled] at hmem
        cases hmem
      · exact hheard
    have hup : s.Up connection side := by
      have hgreeted := (hA side.other).greeted (by rw [Side.other_other]; exact (hsettled side).1)
      rw [mail_settled hsettled, mail_settled hsettled, Side.other_other] at hgreeted
      rcases hgreeted with hmem | ⟨-, hmem | hup⟩
      · cases hmem
      · cases hmem
      · exact hup
    obtain ⟨link, hlink, hremote⟩ := hheard
    obtain ⟨link', hlink', hstate⟩ := hup
    rw [hlink] at hlink'
    cases hlink'
    exact ⟨link, hlink, hstate, hremote⟩
  · intro hversion
    exact (refusing_run hcarried hversion hrun side).inactive

/-! ### A hello that is early -/

section Early

/-- A game and a relay, both of this version. -/
def gameAndRelay : Side → ProcessRef
  | .lhs => ⟨⟨10, 1⟩, 1⟩
  | .rhs => ⟨⟨99, 1⟩, 1⟩

/-- The messages that the two of them exchange. -/
def exchanged : List ProtoControlMessage :=
  [helloMessage (gameAndRelay .lhs) 1, helloMessage (gameAndRelay .rhs) 1,
    helloAckMessage (gameAndRelay .lhs) 1 .ok, helloAckMessage (gameAndRelay .rhs) 1 .ok,
    helloAckMessage (gameAndRelay .lhs) 1 .incompatibleVersion,
    helloAckMessage (gameAndRelay .rhs) 1 .incompatibleVersion]

theorem exchanged_carried : Carried (.knowing exchanged) gameAndRelay fun _ => 1 := by
  intro side
  refine ⟨?_, ?_⟩
  · cases side <;> exact ⟨by decide, by decide⟩
  · rintro result (rfl | rfl) <;> cases side <;> exact ⟨by decide, by decide⟩

/-- The relay dials, and the game handles its hello before it is told of the connection. -/
def earlyHello : List HandshakeStep :=
  [.connect .rhs, .flush .rhs, .deliver .lhs, .connect .lhs, .flush .lhs, .deliver .rhs, .deliver .rhs,
    .flush .rhs, .deliver .lhs]

/-- The steps of a list, one after the other. -/
def play (protobuf : ControlProtobuf) (connection : Side → ConnectionId) :
    List HandshakeStep → Handshake → Option Handshake
  | [], s => some s
  | move :: moves, s => (s.step protobuf connection move).bind (play protobuf connection moves)

theorem run_of_play {moves : List HandshakeStep} (h : play protobuf connection moves s = some s') :
    Relation.ReflTransGen (Step protobuf connection) s s' := by
  induction moves generalizing s with
  | nil =>
      cases h
      exact .refl
  | cons move moves ih =>
      obtain ⟨s'', hstep, hplay⟩ := Option.bind_eq_some_iff.mp h
      exact .head ⟨move, hstep⟩ (ih hplay)

theorem handshake_agrees_early : ∃ s, play (.knowing exchanged) (fun _ => 1) earlyHello
      (initial gameAndRelay fun _ => 1) = some s ∧
    (s.managers .lhs).Active 1 ⟨⟨99, 1⟩, 1⟩ ∧ (s.managers .rhs).Active 1 ⟨⟨10, 1⟩, 1⟩ := by
  have hend : (play (.knowing exchanged) (fun _ => 1) earlyHello (initial gameAndRelay fun _ => 1)).map
      (fun s => (s.connected, s.inFlight .lhs, s.inFlight .rhs, (s.managers .lhs).outboundFrames,
        (s.managers .rhs).outboundFrames)) =
      some (Function.update (Function.update (fun _ => false) .rhs true) .lhs true, [], [], [], []) := rfl
  obtain ⟨s, hs, hparts⟩ := Option.map_eq_some_iff.mp hend
  simp only [Prod.mk.injEq] at hparts
  obtain ⟨hconnected, hlhs, hrhs, houtlhs, houtrhs⟩ := hparts
  have hsettled : s.Settled := by
    intro side
    rw [hconnected]
    cases side
    · exact ⟨rfl, hlhs, houtlhs⟩
    · exact ⟨rfl, hrhs, houtrhs⟩
  have hagree := fun side => (handshake_agrees (.knowing exchanged) (fun _ => 1) gameAndRelay (fun _ => 1)
    exchanged_carried s (run_of_play hs) hsettled side).1 ⟨rfl, by decide⟩
  exact ⟨s, hs, hagree .lhs, hagree .rhs⟩

end Early

end Handshake

end SomeServer
