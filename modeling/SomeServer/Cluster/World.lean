/-
# SomeServer.Cluster.World — gates, a game, the account directory, and the messages between them

Any number of gates serve clients and one game; a gate is known by its instance id. A gate can be
restarted: its process is a new one then, with empty tables and numbers that start over, while the
account directory in Redis and the messages on their way stay. The threads of a process end with it, so a
gate's thread belongs to one life of the gate.

In a step one thread runs one section of its process. A section that sends a message puts it into the
inbox of the process it is sent to; a reader takes messages out in any order. The commands of the account
directory are served in the same step, unless they or their replies are lost; the other servers of the
game are part of the outside.
-/
import SomeServer.Gate.Sections
import SomeServer.Fleet.World
import SomeServer.Lib.Lift

namespace SomeServer

open Lib

/-- The threads: of one life of a gate, of the game, and the operator who restarts gates. -/
inductive ClusterThread (T : Type) where
  | gate (instanceId : UInt32) (life : Nat) (t : T)
  | game (t : T)
  | operator
deriving DecidableEq

/-- The gate of a thread. -/
def ClusterThread.gateId {T : Type} : ClusterThread T → UInt32
  | .gate g _ _ => g
  | _ => 0

/-! ## Messages -/

/-- What a gate receives. -/
inductive GateMessage where
  | loginPlayerResponse (response : LoginPlayerResponse)
  | kickAccountSession (accountId : String) (oldGateSessionId : GateSessionId) (reason : String)
  | unbindPlayerSession (playerId : PlayerId) (gateSessionId : GateSessionId)
  | forwardPlayerMessageResponse (requestId : RequestId) (code : ResultCode) (errorMessage : String)
deriving DecidableEq, Repr

/-- The handler that a message is dispatched to. -/
def GateMessage.op : GateMessage → GateOp
  | .loginPlayerResponse response => .loginResponse response
  | .kickAccountSession accountId oldGateSessionId reason =>
      .kickAccountSession accountId oldGateSessionId reason
  | .unbindPlayerSession playerId gateSessionId => .unbindPlayerSession playerId gateSessionId
  | .forwardPlayerMessageResponse requestId code errorMessage =>
      .messageResponse requestId code errorMessage

/-- What the game receives, with the process that has sent it. -/
structure GameMessage where
  source : ProcessId
  payload : GatePayload
deriving DecidableEq, Repr

/-- The handler that a message is dispatched to; a kick is not for a game. -/
def GameMessage.op (message : GameMessage) : Option Op :=
  match message.payload with
  | .loginPlayerRequest _ gate platform accountId areaId =>
      some (.login message.source platform accountId areaId gate)
  | .playerDisconnected playerId gate => some (.disconnected playerId gate)
  | .forwardPlayerMessageRequest _ _ playerId command =>
      some (.forward message.source playerId command)
  | .kickAccountSession _ _ _ _ _ => none

/-- The game's process id. -/
def gameProcess : ProcessId := ⟨kGameServiceType, 1⟩

/-- The gate that a process id belongs to. -/
def gateOf (target : ProcessId) : Option UInt32 :=
  if target.serviceType = kGateServiceType then some target.instanceId else none

/-- The game's message as the gate gets it: a response has the number of the request that it answers. -/
def Payload.toGate (answered : Option GameMessage) : Payload → Option GateMessage
  | .loginPlayerResponse playerId code errorMessage =>
      match answered with
      | some ⟨_, .loginPlayerRequest requestId _ _ _ _⟩ =>
          some (.loginPlayerResponse { requestId, playerId, game := gameProcess, code, errorMessage })
      | _ => none
  | .forwardPlayerMessageResponse _ code errorMessage =>
      match answered with
      | some ⟨_, .forwardPlayerMessageRequest requestId _ _ _⟩ =>
          some (.forwardPlayerMessageResponse requestId code errorMessage)
      | _ => none
  | .unbindPlayerSession playerId gateSessionId => some (.unbindPlayerSession playerId gateSessionId)
  | .reconnectPlayerResponse _ _ _ => none

/-! ## Sections -/

inductive ClusterAct where
  | gate (a : GateAct)
  | game (a : Act)
  | gateReceive
  | gameReceive
  | restart (instanceId : UInt32)

@[reducible] def ClusterAct.Reply : ClusterAct → Type
  | .gate a => a.Reply
  | .game a => a.Reply
  | .gateReceive => GateMessage
  | .gameReceive => GameMessage
  | .restart _ => Unit

/-- What the outside decides in one step: the environments of the processes, the fate of a command to the
account directory, and which message a reader takes. -/
structure ClusterInput where
  gate : GateEnv := {}
  game : Env
  fault : Fault := .none
  picked : Nat := 0
deriving DecidableEq, Repr

/-- `owners` is what Redis holds; `answering` is the message that a thread of the game is at work on. -/
structure Cluster (T : Type) where
  gates : UInt32 → GateProcess (ClusterThread T) := fun _ => {}
  lives : UInt32 → Nat := fun _ => 0
  owners : String → Option String := fun _ => none
  gateInbox : UInt32 → List GateMessage := fun _ => []
  game : GameProcess (ClusterThread T) := {}
  gameInbox : List GameMessage := []
  answering : ClusterThread T → Option GameMessage := fun _ => none

namespace Cluster

variable {T : Type}

/-! ### The account directory -/

/-- The reply to a command that Redis executes, and what it stores afterwards. -/
def executeAccount (owners : String → Option String) :
    AccountAct → (String → Option String) × RedisReply String
  | .lookupAccount accountId => (owners, (owners accountId).elim .nil .string)
  | .removeGet accountId _ => (owners, (owners accountId).elim .nil .string)
  | .bindAccount accountId owner =>
      (Function.update owners accountId (some (GateAccountOwner.buildValue owner)), .status "OK")
  | .removeDelete accountId => (Function.update owners accountId none, .integer 1)

/-- A command that is lost, or whose reply is lost, is answered by the client library alone. -/
def serveAccount (fault : Fault) (owners : String → Option String) (a : AccountAct) :
    (String → Option String) × RedisReply String :=
  match fault with
  | .none => executeAccount owners a
  | .replyLost => ((executeAccount owners a).1, .noReply "")
  | .dropped => (owners, .noReply "")
  | .unavailable => (owners, .noReply "")

/-- The directory after a section of gate `g`, and the reply to the section. -/
def served (g : UInt32) (fault : Fault) (s : Cluster T) :
    GateAct → (String → Option String) × RedisReply String
  | .account a =>
      if (s.gates g).accounts.redis then serveAccount fault s.owners a else (s.owners, .nil)
  | _ => (s.owners, .nil)

/-! ### Messages on their way -/

/-- A message of gate `g` that has been sent is in the inbox of the process it is sent to. -/
def gatePosts (g : UInt32) (sent : Result) (s : Cluster T) : GateAct → Cluster T
  | .sendProcessPayload target payload =>
      if !sent.ok then s
      else if target = gameProcess then
        { s with gameInbox := s.gameInbox ++ [⟨⟨kGateServiceType, g⟩, payload⟩] }
      else match gateOf target, payload with
        | some i, .kickAccountSession _ accountId oldGate _ reason =>
            let message := GateMessage.kickAccountSession accountId oldGate.sessionId reason
            { s with gateInbox := Function.update s.gateInbox i (s.gateInbox i ++ [message]) }
        | _, _ => s
  | _ => s

variable [DecidableEq T]

/-- A message of the game that has been sent is in the inbox of its gate; the thread that has sent it is
done with the message it answers. -/
def gamePosts (t : ClusterThread T) (sent : Result) (s : Cluster T) : Act → Cluster T
  | .ipc (.sendProcessPayload target payload) =>
      let s' := { s with answering := Function.update s.answering t none }
      if !sent.ok then s'
      else match gateOf target, payload.toGate (s.answering t) with
        | some i, some message =>
            { s' with gateInbox := Function.update s.gateInbox i (s.gateInbox i ++ [message]) }
        | _, _ => s'
  | _ => s

/-! ### The cluster -/

/-- One section of gate `g`. -/
def execGate (t : ClusterThread T) (g : UInt32) (i : ClusterInput) (s : Cluster T) (a : GateAct) :
    Option (Cluster T × a.Reply) :=
  ((s.gates g).exec t { i.gate with redis := (s.served g i.fault a).2 } a).map fun x =>
    (({ s with
        gates := Function.update s.gates g x.1
        owners := (s.served g i.fault a).1 } : Cluster T).gatePosts g i.gate.sent a, x.2)

/-- One section of the game. -/
def execGame (cfg : GameConfiguration) (t : ClusterThread T) (i : ClusterInput) (s : Cluster T)
    (a : Act) : Option (Cluster T × a.Reply) :=
  (s.game.exec cfg t i.game a).map fun x =>
    (({ s with game := x.1 } : Cluster T).gamePosts t i.game.sent a, x.2)

/-- One section of a thread; the threads of a gate's earlier lives do not run any more. -/
def exec (cfg : GameConfiguration) (t : ClusterThread T) (i : ClusterInput) (s : Cluster T) :
    (a : ClusterAct) → Option (Cluster T × a.Reply)
  | .gate a =>
      match t with
      | .gate g life _ => if s.lives g = life then s.execGate t g i a else none
      | _ => none
  | .gateReceive =>
      match t with
      | .gate g life _ =>
          -- any message of the inbox may come next
          if s.lives g = life then
            ((s.gateInbox g)[i.picked]?).map fun message =>
              ({ s with gateInbox :=
                  Function.update s.gateInbox g ((s.gateInbox g).eraseIdx i.picked) }, message)
          else none
      | _ => none
  | .game a =>
      match t with
      | .game _ => s.execGame cfg t i a
      | _ => none
  | .gameReceive =>
      match t with
      | .game _ =>
          (s.gameInbox[i.picked]?).map fun message =>
            ({ s with
                gameInbox := s.gameInbox.eraseIdx i.picked
                answering := Function.update s.answering t (some message) }, message)
      | _ => none
  -- a gate that starts again has lost its tables, and its messages stay on their way
  | .restart g =>
      match t with
      | .operator =>
          some ({ s with
              gates := Function.update s.gates g {}
              lives := Function.update s.lives g (s.lives g + 1) }, ())
      | _ => none

/-- The cluster as a machine. -/
def machine (cfg : GameConfiguration) :
    Machine (ClusterThread T) ClusterAct ClusterAct.Reply ClusterInput (Cluster T) where
  exec t a i s := s.exec cfg t i a

/-! ### What a section does -/

variable {cfg : GameConfiguration} {t : ClusterThread T} {g : UInt32} {i : ClusterInput} {x : Result}
  {s s' : Cluster T}

omit [DecidableEq T] in
-- The equations are made here, once for the lemmas below.
attribute [local simp] exec in
/-- A send of a gate touches nothing but inboxes. -/
theorem gatePosts_frame (a : GateAct) : (s.gatePosts g x a).gates = s.gates ∧
    (s.gatePosts g x a).lives = s.lives ∧ (s.gatePosts g x a).owners = s.owners ∧
      (s.gatePosts g x a).game = s.game ∧ (s.gatePosts g x a).answering = s.answering := by
  unfold gatePosts
  split
  · split
    · exact ⟨rfl, rfl, rfl, rfl, rfl⟩
    · split
      · exact ⟨rfl, rfl, rfl, rfl, rfl⟩
      · split <;> exact ⟨rfl, rfl, rfl, rfl, rfl⟩
  · exact ⟨rfl, rfl, rfl, rfl, rfl⟩

omit [DecidableEq T] in
/-- What the game finds in its inbox after a section of gate `g` was there, or is from that gate. -/
theorem gatePosts_game {a : GateAct} {message : GameMessage}
    (h : message ∈ (s.gatePosts g x a).gameInbox) : message ∈ s.gameInbox ∨
      ∃ payload, a = .sendProcessPayload gameProcess payload ∧ x.ok = true ∧
        message = ⟨⟨kGateServiceType, g⟩, payload⟩ := by
  unfold gatePosts at h
  split at h
  · rename_i target payload
    split at h
    · exact .inl h
    · rename_i hsent
      split at h
      · rename_i htarget
        rcases List.mem_append.mp h with hold | hnew
        · exact .inl hold
        · refine .inr ⟨payload, by rw [htarget], by simpa using hsent, List.mem_singleton.mp hnew⟩
      · split at h <;> exact .inl h
  · exact .inl h

omit [DecidableEq T] in
/-- What gate `j` finds in its inbox after a section of gate `g` was there, or is the kick that this
section has sent. -/
theorem gatePosts_inbox {a : GateAct} {j : UInt32} {message : GateMessage}
    (h : message ∈ (s.gatePosts g x a).gateInbox j) : message ∈ s.gateInbox j ∨
      ∃ target requestId accountId oldGate newGate reason,
        a = .sendProcessPayload target (.kickAccountSession requestId accountId oldGate newGate reason) ∧
          gateOf target = some j ∧ x.ok = true ∧
            message = .kickAccountSession accountId oldGate.sessionId reason := by
  unfold gatePosts at h
  split at h
  · rename_i target payload
    split at h
    · exact .inl h
    · rename_i hsent
      split at h
      · exact .inl h
      · split at h
        · rename_i i requestId accountId oldGate newGate reason htarget
          by_cases hj : j = i
          · subst hj
            simp only [Function.update_self, List.mem_append, List.mem_singleton] at h
            rcases h with hold | rfl
            · exact .inl hold
            · exact .inr ⟨target, requestId, accountId, oldGate, newGate, reason, rfl, htarget,
                by simpa using hsent, rfl⟩
          · simp only [Function.update_of_ne hj] at h
            exact .inl h
        · exact .inl h
  · exact .inl h

/-- What gate `j` finds in its inbox after a section of the game was there, or is from the game. -/
theorem gamePosts_inbox {a : Act} {j : UInt32} {message : GateMessage}
    (h : message ∈ (s.gamePosts t x a).gateInbox j) : message ∈ s.gateInbox j ∨
      ∃ target payload, a = .ipc (.sendProcessPayload target payload) ∧ gateOf target = some j ∧
        x.ok = true ∧ payload.toGate (s.answering t) = some message := by
  unfold gamePosts at h
  split at h
  · rename_i target payload
    dsimp only at h
    split at h
    · exact .inl h
    · rename_i hsent
      split at h
      · rename_i i posted htarget hposted
        by_cases hj : j = i
        · subst hj
          simp only [Function.update_self, List.mem_append, List.mem_singleton] at h
          rcases h with hold | rfl
          · exact .inl hold
          · exact .inr ⟨target, payload, rfl, htarget, by simpa using hsent, hposted⟩
        · simp only [Function.update_of_ne hj] at h
          exact .inl h
      · exact .inl h
  · exact .inl h

/-- A send of the game touches nothing but an inbox and the message that the thread is at work on. -/
theorem gamePosts_frame (a : Act) : (s.gamePosts t x a).gates = s.gates ∧
    (s.gamePosts t x a).lives = s.lives ∧ (s.gamePosts t x a).owners = s.owners ∧
      (s.gamePosts t x a).game = s.game ∧ (s.gamePosts t x a).gameInbox = s.gameInbox := by
  unfold gamePosts
  split
  · dsimp only
    split
    · exact ⟨rfl, rfl, rfl, rfl, rfl⟩
    · split <;> exact ⟨rfl, rfl, rfl, rfl, rfl⟩
  · exact ⟨rfl, rfl, rfl, rfl, rfl⟩

theorem gamePosts_answering (a : Act) : (s.gamePosts t x a).answering =
    match a with
    | .ipc (.sendProcessPayload _ _) => Function.update s.answering t none
    | _ => s.answering := by
  unfold gamePosts
  split
  · dsimp only
    split
    · rfl
    · split <;> rfl
  · rfl

/-- What the directory names after a command was named before, or the command has bound it. -/
theorem serveAccount_owners {fault : Fault} {owners : String → Option String} {a : AccountAct}
    {accountId value : String} (h : (serveAccount fault owners a).1 accountId = some value) :
    owners accountId = some value ∨ ∃ owner, a = .bindAccount accountId owner ∧
      fault.executes = true ∧ value = GateAccountOwner.buildValue owner := by
  have hexecute : (executeAccount owners a).1 accountId = some value →
      owners accountId = some value ∨
        ∃ owner, a = .bindAccount accountId owner ∧ value = GateAccountOwner.buildValue owner := by
    intro h
    cases a with
    | lookupAccount _ | removeGet _ _ => exact .inl h
    | bindAccount bound owner =>
        by_cases hbound : accountId = bound
        · subst hbound
          simp only [executeAccount, Function.update_self, Option.some.injEq] at h
          exact .inr ⟨owner, rfl, h.symm⟩
        · simp only [executeAccount, Function.update_of_ne hbound] at h
          exact .inl h
    | removeDelete removed =>
        by_cases hremoved : accountId = removed
        · simp [executeAccount, hremoved] at h
        · simp only [executeAccount, Function.update_of_ne hremoved] at h
          exact .inl h
  cases fault with
  | none | replyLost =>
      exact (hexecute h).imp_right fun ⟨owner, ha, hvalue⟩ => ⟨owner, ha, rfl, hvalue⟩
  | dropped | unavailable => exact .inl h

/-- An entry is taken out of the directory by `DEL` alone. -/
theorem serveAccount_none {fault : Fault} {owners : String → Option String} {a : AccountAct}
    {accountId value : String} (hwas : owners accountId = some value)
    (h : (serveAccount fault owners a).1 accountId = none) : a = .removeDelete accountId := by
  have hexecute : (executeAccount owners a).1 accountId = none → a = .removeDelete accountId := by
    intro h
    cases a with
    | lookupAccount _ | removeGet _ _ => simp [executeAccount, hwas] at h
    | bindAccount bound owner =>
        by_cases hbound : accountId = bound
        · simp [executeAccount, hbound] at h
        · simp [executeAccount, Function.update_of_ne hbound, hwas] at h
    | removeDelete removed =>
        by_cases hremoved : accountId = removed
        · rw [hremoved]
        · simp [executeAccount, Function.update_of_ne hremoved, hwas] at h
  cases fault with
  | none | replyLost => exact hexecute h
  | dropped | unavailable => simp [serveAccount, hwas] at h

/-- The commands that read an entry. -/
def Reads (accountId : String) (a : AccountAct) : Prop :=
  a = .lookupAccount accountId ∨ ∃ owner, a = .removeGet accountId owner

/-- The owner that a reply names is in the directory. -/
theorem readOwner_serveAccount {fault : Fault} {owners : String → Option String} {a : AccountAct}
    {accountId : String} {owner : GateAccountOwner} (ha : Reads accountId a)
    (h : GateAccountDirectoryService.readOwner (serveAccount fault owners a).2 = some owner) :
    ∃ value, owners accountId = some value ∧ GateAccountOwner.parseValue value = some owner := by
  have hreply : (executeAccount owners a).2 = (owners accountId).elim .nil .string := by
    rcases ha with rfl | ⟨-, rfl⟩ <;> rfl
  cases fault with
  | none =>
      simp only [serveAccount, hreply] at h
      cases hvalue : owners accountId with
      | none => simp [hvalue, GateAccountDirectoryService.readOwner] at h
      | some value =>
          simp only [hvalue, Option.elim, GateAccountDirectoryService.readOwner] at h
          exact ⟨value, rfl, h⟩
  | replyLost | dropped | unavailable =>
      simp [serveAccount, GateAccountDirectoryService.readOwner] at h

omit [DecidableEq T] in
/-- What the directory names after a section of a gate was named before, or the section has bound it. -/
theorem served_owners {fault : Fault} {a : GateAct} {accountId value : String}
    (h : (s.served g fault a).1 accountId = some value) : s.owners accountId = some value ∨
      ∃ owner, a = .account (.bindAccount accountId owner) ∧
        value = GateAccountOwner.buildValue owner := by
  cases a with
  | account b =>
      simp only [served] at h
      split at h
      · rcases serveAccount_owners h with hold | ⟨owner, rfl, -, hvalue⟩
        · exact .inl hold
        · exact .inr ⟨owner, rfl, hvalue⟩
      · exact .inl h
  | _ => exact .inl h

omit [DecidableEq T] in
/-- What a lookup finds is in the directory. -/
theorem served_lookup {fault : Fault} {accountId : String} {owner : GateAccountOwner}
    (h : GateAccountDirectoryService.readOwner
      (s.served g fault (.account (.lookupAccount accountId))).2 = some owner) :
    ∃ value, s.owners accountId = some value ∧ GateAccountOwner.parseValue value = some owner := by
  simp only [served] at h
  split at h
  · exact readOwner_serveAccount (.inl rfl) h
  · simp [GateAccountDirectoryService.readOwner] at h

theorem exec_gate {a : GateAct} {r : a.Reply} (h : s.exec cfg t i (.gate a) = some (s', r)) :
    ∃ g life u gate, t = .gate g life u ∧ s.lives g = life ∧
      (s.gates g).exec t { i.gate with redis := (s.served g i.fault a).2 } a = some (gate, r) ∧
      s' = ({ s with
        gates := Function.update s.gates g gate
        owners := (s.served g i.fault a).1 } : Cluster T).gatePosts g i.gate.sent a := by
  simp only [exec] at h
  split at h
  · rename_i g life u
    simp only [Option.ite_none_right_eq_some, execGate, Option.map_eq_some_iff] at h
    obtain ⟨hlife, ⟨gate, r'⟩, hx, heq⟩ := h
    cases heq
    exact ⟨g, life, u, gate, rfl, hlife, hx, rfl⟩
  · cases h

theorem exec_game {a : Act} {r : a.Reply} (h : s.exec cfg t i (.game a) = some (s', r)) :
    ∃ u game, t = .game u ∧ s.game.exec cfg t i.game a = some (game, r) ∧
      s' = ({ s with game } : Cluster T).gamePosts t i.game.sent a := by
  simp only [exec] at h
  split at h
  · rename_i u
    simp only [execGame, Option.map_eq_some_iff] at h
    obtain ⟨⟨game, r'⟩, hx, heq⟩ := h
    cases heq
    exact ⟨u, game, rfl, hx, rfl⟩
  · cases h

theorem exec_gateReceive {r : GateMessage} (h : s.exec cfg t i .gateReceive = some (s', r)) :
    ∃ g life u, t = .gate g life u ∧ s.lives g = life ∧ (s.gateInbox g)[i.picked]? = some r ∧
      s' = { s with gateInbox :=
        Function.update s.gateInbox g ((s.gateInbox g).eraseIdx i.picked) } := by
  simp only [exec] at h
  split at h
  · rename_i g life u
    simp only [Option.ite_none_right_eq_some, Option.map_eq_some_iff, Prod.mk.injEq] at h
    obtain ⟨hlife, message, hmessage, rfl, rfl⟩ := h
    exact ⟨g, life, u, rfl, hlife, hmessage, rfl⟩
  · cases h

theorem exec_gameReceive {r : GameMessage} (h : s.exec cfg t i .gameReceive = some (s', r)) :
    ∃ u, t = .game u ∧ s.gameInbox[i.picked]? = some r ∧
      s' = { s with
        gameInbox := s.gameInbox.eraseIdx i.picked
        answering := Function.update s.answering t (some r) } := by
  simp only [exec] at h
  split at h
  · rename_i u
    simp only [Option.map_eq_some_iff, Prod.mk.injEq] at h
    obtain ⟨message, hmessage, rfl, rfl⟩ := h
    exact ⟨u, rfl, hmessage, rfl⟩
  · cases h

theorem exec_restart {r : Unit} (h : s.exec cfg t i (.restart g) = some (s', r)) :
    t = .operator ∧ s' = { s with
      gates := Function.update s.gates g {}
      lives := Function.update s.lives g (s.lives g + 1) } := by
  simp only [exec] at h
  split at h
  · simp only [Option.some.injEq, Prod.mk.injEq] at h
    exact ⟨rfl, h.1.symm⟩
  · cases h

end Cluster

/-! ## Programs -/

/-- What the threads of the cluster run. A gate's worker and console run what clients and operators ask
for, its reader handles what it receives; the same holds for the game. -/
inductive ClusterOp where
  | gate (op : GateOp)
  | gateDeliver
  | game (op : Op)
  | gameDeliver
  | restart (instanceId : UInt32)
deriving DecidableEq, Repr

abbrev ClusterCall (α : Type) : Type := Prog ClusterAct ClusterAct.Reply α

/-- The sections of a gate, in the cluster. -/
def gateActs : Translation GateAct.Reply ClusterAct.Reply := ⟨.gate, fun _ r => r⟩

/-- The sections of the game, in the cluster. -/
def gameActs : Translation Act.Reply ClusterAct.Reply := ⟨.game, fun _ r => r⟩

/-- The configuration of gate `g`. -/
def gateConfiguration (g : UInt32) : GateConfiguration := ⟨g⟩

/-- The program of an operation; what is not for the process that the thread belongs to is refused. -/
def ClusterOp.code (cfg : GameConfiguration) (fuel : Nat) {T : Type} :
    ClusterThread T → ClusterOp → ClusterCall Unit
  | .gate g _ _, .gate op => do
      let _ ← ((op.code (gateConfiguration g)).lift gateActs : ClusterCall Result)
      return ()
  | .gate g _ _, .gateDeliver => do
      let message ← (Prog.call ClusterAct.gateReceive : ClusterCall GateMessage)
      let _ ← ((message.op.code (gateConfiguration g)).lift gateActs : ClusterCall Result)
      return ()
  | .game _, .game op => do
      let _ ← ((op.code cfg fuel).lift gameActs : ClusterCall OpResult)
      return ()
  | .game _, .gameDeliver => do
      let message ← (Prog.call ClusterAct.gameReceive : ClusterCall GameMessage)
      match message.op with
      | none => return ()
      | some op =>
          let _ ← ((op.code cfg fuel).lift gameActs : ClusterCall OpResult)
          return ()
  | .operator, .restart g => Prog.call (ClusterAct.restart g)
  | _, _ => return ()

end SomeServer
