/-
# SomeServer.Cluster.Steps — what one section makes of a cluster

`GateStep` and `GameStep` say of a section, by the names of the parts of the cluster, what it changes and
what it leaves alone. What is in an inbox stays there until a reader takes it, and a message that has been
sent is in the inbox of the process that it is sent to.
-/
import SomeServer.Cluster.World

namespace SomeServer

open Lib

namespace Cluster

variable {T : Type} [DecidableEq T] {cfg : GameConfiguration} {t : ClusterThread T} {g : UInt32}
  {i : ClusterInput} {x : Result} {s s' : Cluster T}

/-! ## Messages that are sent -/

omit [DecidableEq T] in
/-- A section of a gate takes nothing from an inbox. -/
theorem gatePosts_keeps (a : GateAct) :
    (∀ j message, message ∈ s.gateInbox j → message ∈ (s.gatePosts g x a).gateInbox j) ∧
      ∀ message, message ∈ s.gameInbox → message ∈ (s.gatePosts g x a).gameInbox := by
  unfold gatePosts
  split
  · split
    · exact ⟨fun _ _ h => h, fun _ h => h⟩
    · split
      · exact ⟨fun _ _ h => h, fun _ h => List.mem_append_left _ h⟩
      · split
        · rename_i i _ _ _ _ _ _
          refine ⟨fun j message h => ?_, fun _ h => h⟩
          by_cases hj : j = i
          · subst hj
            simp only [Function.update_self]
            exact List.mem_append_left _ h
          · simpa only [Function.update_of_ne hj] using h
        · exact ⟨fun _ _ h => h, fun _ h => h⟩
  · exact ⟨fun _ _ h => h, fun _ h => h⟩

omit [DecidableEq T] in
/-- A kick that has been sent is in the inbox of the gate. -/
theorem gatePosts_kick {target : ProcessId} {requestId : RequestId} {accountId reason : String}
    {oldGate : GateSession} {newGate : ProcessId} {j : UInt32} (hx : x.ok = true)
    (hgame : target ≠ gameProcess) (hj : gateOf target = some j) :
    .kickAccountSession accountId oldGate.sessionId reason ∈ (s.gatePosts g x (.sendProcessPayload target
      (.kickAccountSession requestId accountId oldGate newGate reason))).gateInbox j := by
  simp [gatePosts, hx, hgame, hj]

/-- A section of the game takes nothing from an inbox. -/
theorem gamePosts_keeps (a : Act) (j : UInt32) (message : GateMessage) (h : message ∈ s.gateInbox j) :
    message ∈ (s.gamePosts t x a).gateInbox j := by
  unfold gamePosts
  split
  · dsimp only
    split
    · exact h
    · split
      · rename_i i _ _ _
        by_cases hj : j = i
        · subst hj
          simp only [Function.update_self]
          exact List.mem_append_left _ h
        · simpa only [Function.update_of_ne hj] using h
      · exact h
  · exact h

/-- A message of the game that has been sent is in the inbox of the gate. -/
theorem gamePosts_posts {target : ProcessId} {payload : Payload} {j : UInt32} {message : GateMessage}
    (hx : x.ok = true) (hj : gateOf target = some j)
    (hmessage : payload.toGate (s.answering t) = some message) :
    message ∈ (s.gamePosts t x (.ipc (.sendProcessPayload target payload))).gateInbox j := by
  simp [gamePosts, hx, hj, hmessage]

/-! ## Sections of a gate -/

/-- What section `a` of a gate makes of the cluster: the gate goes on, its command is served, and what it
sends is on its way. -/
structure GateStep (t : ClusterThread T) (i : ClusterInput) (a : GateAct) (r : a.Reply)
    (s s' : Cluster T) : Prop where
  thread : ∃ u, t = .gate t.gateId (s.lives t.gateId) u
  exec : (s.gates t.gateId).exec t { i.gate with redis := (s.served t.gateId i.fault a).2 } a =
    some (s'.gates t.gateId, r)
  owners : s'.owners = (s.served t.gateId i.fault a).1
  gates : ∀ g, g ≠ t.gateId → s'.gates g = s.gates g
  lives : s'.lives = s.lives
  game : s'.game = s.game
  answering : s'.answering = s.answering
  inbox : ∀ g message, message ∈ s'.gateInbox g → message ∈ s.gateInbox g ∨
    ∃ target requestId accountId oldGate newGate reason,
      a = .sendProcessPayload target (.kickAccountSession requestId accountId oldGate newGate reason) ∧
        gateOf target = some g ∧ message = .kickAccountSession accountId oldGate.sessionId reason
  gameInbox : ∀ message, message ∈ s'.gameInbox → message ∈ s.gameInbox ∨ ∃ payload,
    a = .sendProcessPayload gameProcess payload ∧ i.gate.sent.ok = true ∧
      message = ⟨⟨kGateServiceType, t.gateId⟩, payload⟩
  keeps : (∀ g message, message ∈ s.gateInbox g → message ∈ s'.gateInbox g) ∧
    ∀ message, message ∈ s.gameInbox → message ∈ s'.gameInbox
  kicks : ∀ target requestId accountId oldGate newGate reason g,
    a = .sendProcessPayload target (.kickAccountSession requestId accountId oldGate newGate reason) →
      i.gate.sent.ok = true → target ≠ gameProcess → gateOf target = some g →
        .kickAccountSession accountId oldGate.sessionId reason ∈ s'.gateInbox g

theorem gateStep_of_exec {a : GateAct} {r : a.Reply} (h : s.exec cfg t i (.gate a) = some (s', r)) :
    GateStep t i a r s s' := by
  obtain ⟨g, life, u, gate, rfl, rfl, hgate, hs⟩ := exec_gate h
  -- the gate's own section first, and then what it posts
  obtain ⟨mid, hmid⟩ : ∃ mid : Cluster T, mid = { s with
    gates := Function.update s.gates g gate
    owners := (s.served g i.fault a).1 } := ⟨_, rfl⟩
  rw [← hmid] at hs
  obtain ⟨hgates, hlives, howners, hgame, hanswering⟩ :=
    gatePosts_frame (s := mid) (g := g) (x := i.gate.sent) a
  have hinbox : mid.gateInbox = s.gateInbox := by rw [hmid]
  have hgameInbox : mid.gameInbox = s.gameInbox := by rw [hmid]
  rw [← hs] at hgates hlives howners hgame hanswering
  refine ⟨⟨u, rfl⟩, ?_, by rw [howners, hmid]; rfl, fun j hj => ?_, by rw [hlives, hmid],
    by rw [hgame, hmid], by rw [hanswering, hmid], fun j message hm => ?_, fun message hm => ?_, ?_, ?_⟩
  · show (s.gates g).exec _ _ a = some (s'.gates g, r)
    rw [hgates, hmid]
    show _ = some (Function.update s.gates g gate g, r)
    rw [Function.update_self]
    exact hgate
  · rw [hgates, hmid]
    exact Function.update_of_ne hj ..
  · rw [hs] at hm
    rcases gatePosts_inbox hm with hold | ⟨target, q, accountId, old, new, reason, ha, hj, -, hm⟩
    · exact .inl (hinbox ▸ hold)
    · exact .inr ⟨target, q, accountId, old, new, reason, ha, hj, hm⟩
  · rw [hs] at hm
    exact (gatePosts_game hm).imp_left fun hold => hgameInbox ▸ hold
  · rw [hs, ← hinbox, ← hgameInbox]
    exact gatePosts_keeps a
  · intro target q accountId old new reason j ha hx htarget hj
    rw [hs]
    subst ha
    exact gatePosts_kick hx htarget hj

/-! ## Sections of the game -/

/-- What section `a` of the game makes of the cluster. -/
structure GameStep (cfg : GameConfiguration) (t : ClusterThread T) (i : ClusterInput) (a : Act)
    (r : a.Reply) (s s' : Cluster T) : Prop where
  thread : ∃ u, t = .game u
  exec : s.game.exec cfg t i.game a = some (s'.game, r)
  gates : s'.gates = s.gates
  lives : s'.lives = s.lives
  owners : s'.owners = s.owners
  gameInbox : s'.gameInbox = s.gameInbox
  answering : s'.answering = match a with
    | .ipc (.sendProcessPayload _ _) => Function.update s.answering t none
    | _ => s.answering
  inbox : ∀ g message, message ∈ s'.gateInbox g → message ∈ s.gateInbox g ∨ ∃ target payload,
    a = .ipc (.sendProcessPayload target payload) ∧ gateOf target = some g ∧
      payload.toGate (s.answering t) = some message
  keeps : ∀ g message, message ∈ s.gateInbox g → message ∈ s'.gateInbox g
  posts : ∀ target payload g message, a = .ipc (.sendProcessPayload target payload) →
    i.game.sent.ok = true → gateOf target = some g → payload.toGate (s.answering t) = some message →
      message ∈ s'.gateInbox g

theorem gameStep_of_exec {a : Act} {r : a.Reply} (h : s.exec cfg t i (.game a) = some (s', r)) :
    GameStep cfg t i a r s s' := by
  obtain ⟨u, game, rfl, hexec, hs⟩ := exec_game h
  obtain ⟨hgates, hlives, howners, hgame, hinbox⟩ := gamePosts_frame (t := .game u)
    (s := { s with game }) (x := i.game.sent) a
  have hanswering := gamePosts_answering (t := .game u) (s := { s with game }) (x := i.game.sent) a
  rw [← hs] at hgates hlives howners hgame hinbox hanswering
  refine ⟨⟨u, rfl⟩, ?_, hgates, hlives, howners, hinbox, ?_, fun g message hm => ?_,
    fun g message hm => ?_, fun target payload g message ha hx hg hmessage => ?_⟩
  · rw [hgame]
    exact hexec
  · cases a with
    | ipc b => cases b <;> exact hanswering
    | _ => exact hanswering
  · rw [hs] at hm
    rcases gamePosts_inbox hm with hold | ⟨target, payload, ha, hg, -, hmessage⟩
    · exact .inl hold
    · exact .inr ⟨target, payload, ha, hg, hmessage⟩
  · rw [hs]
    exact gamePosts_keeps a g message hm
  · rw [hs]
    subst ha
    exact gamePosts_posts hx hg hmessage

end Cluster

end SomeServer
