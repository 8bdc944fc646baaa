/-
# SomeServer.Game.Session — the session records of `PlayerSessionService`

`mPlayers` holds one record for each player this game has accepted. The functions of the service take
`mMutex` only around single looks at the map and call the lease, repository, IPC and runtime
services in between; this module has what each of those sections does with the map, and
`Game.Calls` has the functions themselves.

Some sections ask the lease service while they hold `mMutex`. They get the answer as an argument here
(`held`), and `Game.Process` puts the two locks together.
-/
import SomeServer.Storage

namespace SomeServer

inductive PlayerSessionState where
  | loading
  | online
  | detached
  | unloading
deriving DecidableEq, Repr

/-- The gate triple of a session record. -/
structure GateSession where
  serviceType : UInt32 := 0
  instanceId : UInt32 := 0
  sessionId : UInt64 := 0
deriving DecidableEq, Repr

structure PlayerSessionRecord where
  state : PlayerSessionState := .loading
  gate : GateSession := {}
  activateCount : UInt64 := 0
  lastStateChangeMs : UInt64 := 0
  detachDeadlineMs : UInt64 := 0
deriving DecidableEq, Repr

abbrev PlayerSessions := PlayerId → Option PlayerSessionRecord

/-- What the first section of `ActivatePlayer` decides: the call is over, or it goes on, with
`reuse_existing` or without. -/
inductive ActivateDecision where
  | done (result : Result)
  | proceed (reuseExisting : Bool)
deriving DecidableEq, Repr

/-- The entries `ReconcileLeaseLosses` works through. -/
structure LostPlayerAction where
  playerId : PlayerId
  state : PlayerSessionState
  gate : GateSession
deriving DecidableEq, Repr

inductive SessionAct where
  | activateEnter (playerId : PlayerId) (gate : GateSession)
  | activateResume (playerId : PlayerId) (gate : GateSession)
  | activateInsert (playerId : PlayerId) (gate : GateSession)
  | detach (playerId : PlayerId)
  | detachFrom (playerId : PlayerId) (gate : GateSession)
  | releaseEnter (playerId : PlayerId)
  | releaseRestore (playerId : PlayerId) (previousRecord : PlayerSessionRecord)
  | releaseErase (playerId : PlayerId)
  | expiredPlayers (order : List PlayerId) (now : UInt64)
  | lostPlayers (order : List PlayerId)
  | reconcileLost (action : LostPlayerAction) (now : UInt64)
  | snapshot (playerId : PlayerId)

@[reducible] def SessionAct.Reply : SessionAct → Type
  | .activateEnter _ _ => ActivateDecision
  | .activateResume _ _ => Result
  | .activateInsert _ _ => Unit
  | .detach _ => Result
  | .detachFrom _ _ => Result
  | .releaseEnter _ => Option PlayerSessionRecord
  | .releaseRestore _ _ => Unit
  | .releaseErase _ => Unit
  | .expiredPlayers _ _ => List PlayerId
  | .lostPlayers _ => List LostPlayerAction
  | .reconcileLost _ _ => Bool
  | .snapshot _ => Option PlayerSessionRecord

namespace PlayerSessionState

/-- The states in which a record belongs to a player in memory: `online` and `detached`. -/
def present : PlayerSessionState → Bool
  | .online => true
  | .detached => true
  | .loading => false
  | .unloading => false

end PlayerSessionState

namespace PlayerSessionRecord

/-- A record that has just been activated for a gate session. -/
def activate (record : PlayerSessionRecord) (gate : GateSession) (nowMs : UInt64) :
    PlayerSessionRecord :=
  { state := .online
    gate
    activateCount := record.activateCount + 1
    lastStateChangeMs := nowMs
    detachDeadlineMs := 0 }

/-- A takeover of an online record by another gate session. -/
def takeOver (record : PlayerSessionRecord) (gate : GateSession) (nowMs : UInt64) :
    PlayerSessionRecord :=
  { record with gate, lastStateChangeMs := nowMs, activateCount := record.activateCount + 1 }

/-- A record that has just been detached. -/
def detach (cfg : GameConfiguration) (record : PlayerSessionRecord) (nowMs : UInt64) :
    PlayerSessionRecord :=
  { record with
    state := .detached
    lastStateChangeMs := nowMs
    detachDeadlineMs := nowMs + cfg.detachedTtlSeconds.toUInt64 * 1000
    gate := {} }

/-- The test of `ExpireDetachedPlayers`. -/
def expired (record : PlayerSessionRecord) (now : UInt64) : Bool :=
  record.state = .detached && record.detachDeadlineMs ≠ 0 && record.detachDeadlineMs ≤ now

end PlayerSessionRecord

def transitioning : Result := .failure "player is transitioning and cannot be activated"

namespace PlayerSessions

/-- Replaces the record of one player. -/
def set (m : PlayerSessions) (playerId : PlayerId) (record : PlayerSessionRecord) :
    PlayerSessions :=
  Function.update m playerId (some record)

/-- The first section of `ActivatePlayer`. -/
def activateEnter (playerId : PlayerId) (gate : GateSession) (nowMs : UInt64) (held : Bool)
    (m : PlayerSessions) : PlayerSessions × ActivateDecision :=
  match m playerId with
  | none => (m, .proceed false)
  | some record =>
      if record.state.present && !held then (m, .proceed true)
      else match record.state with
        | .online => (m.set playerId (record.takeOver gate nowMs), .done .success)
        | .detached => (m.set playerId (record.activate gate nowMs), .done .success)
        | .loading => (m, .done transitioning)
        | .unloading => (m, .done transitioning)

/-- The last section of the `reuse_existing` branch; `false` means that it gives the lease back. -/
def activateResume (playerId : PlayerId) (gate : GateSession) (nowMs : UInt64)
    (m : PlayerSessions) : PlayerSessions × Result :=
  match m playerId with
  | none => (m, .failure "player session disappeared during lease recovery")
  | some record =>
      if record.state.present then (m.set playerId (record.activate gate nowMs), .success)
      else (m, transitioning)

/-- The last section of a fresh activation: `mPlayers[player_id]` creates the record. -/
def activateInsert (playerId : PlayerId) (gate : GateSession) (nowMs : UInt64)
    (m : PlayerSessions) : PlayerSessions :=
  m.set playerId (((m playerId).getD {}).activate gate nowMs)

/-- `DetachPlayer`, with the condition each of its two forms puts on the gate triple. -/
def detachIf (cfg : GameConfiguration) (matchesGate : GateSession → Bool) (playerId : PlayerId)
    (nowMs : UInt64) (m : PlayerSessions) : PlayerSessions × Result :=
  match m playerId with
  | none => (m, .failure "player session is not tracked")
  | some record =>
      if record.state ≠ .online then (m, .failure "player is not online")
      else if !matchesGate record.gate then (m, .failure "player gate session does not match")
      else (m.set playerId (record.detach cfg nowMs), .success)

/-- `DetachPlayer(player_id)`. -/
def detach (cfg : GameConfiguration) : PlayerId → UInt64 → PlayerSessions → PlayerSessions × Result :=
  detachIf cfg fun _ => true

/-- `DetachPlayer(player_id, gate_service_type, gate_instance_id, gate_session_id)`. -/
def detachFrom (cfg : GameConfiguration) (gate : GateSession) :
    PlayerId → UInt64 → PlayerSessions → PlayerSessions × Result :=
  detachIf cfg fun current => current = gate

/-- The first section of `ReleasePlayer`, with the record it has found. -/
def releaseEnter (playerId : PlayerId) (nowMs : UInt64) (m : PlayerSessions) :
    PlayerSessions × Option PlayerSessionRecord :=
  match m playerId with
  | none => (m, none)
  | some record =>
      (m.set playerId { record with state := .unloading, lastStateChangeMs := nowMs }, some record)

/-- The section in which `ReleasePlayer` takes a failed flush back. -/
def releaseRestore (playerId : PlayerId) (previousRecord : PlayerSessionRecord)
    (m : PlayerSessions) : PlayerSessions :=
  match m playerId with
  | none => m
  | some _ => m.set playerId previousRecord

/-- The players `ExpireDetachedPlayers` releases, in the order in which `mPlayers` is walked. -/
def expiredPlayers (order : List PlayerId) (now : UInt64) (m : PlayerSessions) : List PlayerId :=
  order.filter fun playerId => (m playerId).any (·.expired now)

/-- The players whose lease `ReconcileLeaseLosses` finds lost. -/
def lostPlayers (order : List PlayerId) (held : PlayerId → Bool) (m : PlayerSessions) :
    List LostPlayerAction :=
  order.filterMap fun playerId =>
    (m playerId).bind fun record =>
      if record.state.present && !held playerId then some ⟨playerId, record.state, record.gate⟩
      else none

/-- The last section of `ReconcileLeaseLosses` for one player, and whether it counts. -/
def reconcileLost (cfg : GameConfiguration) (playerId : PlayerId) (now : UInt64) (held : Bool)
    (m : PlayerSessions) : PlayerSessions × Bool :=
  match m playerId with
  | none => (m, false)
  | some record =>
      if held then (m, false)
      else match record.state with
        | .online => (m.set playerId (record.detach cfg now), true)
        | .detached => (m, true)
        | .loading => (m, false)
        | .unloading => (m, false)

end PlayerSessions

end SomeServer
