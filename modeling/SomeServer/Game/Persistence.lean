/-
# SomeServer.Game.Persistence — the flush scheduler's own state

`PlayerPersistenceService` scans the loaded players and flushes those that are due. Its mutex guards a
snapshot of counters and one retry record for each player whose last scheduled flush failed; both are
touched in short sections between the calls of the scan, which is in `Game.Calls`.
-/
import SomeServer.Game.Repository
import SomeServer.Game.Session

namespace SomeServer

/-- `PlayerPersistenceSnapshot`, less `running`, which only the thread's start and stop write. -/
structure PlayerPersistenceSnapshot where
  scanCount : UInt64 := 0
  trackedPlayerCount : UInt64 := 0
  pendingInitialPersistCount : UInt64 := 0
  createdWithoutMariaCount : UInt64 := 0
  flushAttemptCount : UInt64 := 0
  flushSuccessCount : UInt64 := 0
  flushFailureCount : UInt64 := 0
  lastScanMs : UInt64 := 0
  lastFlushPlayerId : PlayerId := 0
  lastFlushMs : UInt64 := 0
  lastError : String := ""
deriving DecidableEq, Repr

structure RetryState where
  consecutiveFailureCount : UInt64 := 0
  nextRetryMs : UInt64 := 0
  lastFailureMs : UInt64 := 0
  lastError : String := ""
deriving DecidableEq, Repr

structure PlayerPersistenceService where
  snapshot : PlayerPersistenceSnapshot := {}
  retryStates : PlayerId → Option RetryState := fun _ => none

inductive PersistenceAct where
  | scanEnter (nowMs : UInt64)
  | retryPending (playerId : PlayerId) (nowMs : UInt64)
  | flushAttempt (playerId : PlayerId) (nowMs : UInt64)
  | flushDone (playerId : PlayerId) (nowMs : UInt64) (flush : Result)
  | scanLeave (tracked pendingInitialPersist createdWithoutMaria : UInt64)

@[reducible] def PersistenceAct.Reply : PersistenceAct → Type
  | .scanEnter _ => Unit
  | .retryPending _ _ => Bool
  | .flushAttempt _ _ => Unit
  | .flushDone _ _ _ => Unit
  | .scanLeave _ _ _ => Unit

def kMaxBackoffMultiplier : UInt64 := 8

/-- The loop of `ComputeRetryDelayMs`: doublings after the first failure, up to the maximum. -/
def backoffMultiplier : (rounds : Nat) → (multiplier : UInt64) → UInt64
  | 0, multiplier => multiplier
  | rounds + 1, multiplier =>
      if multiplier < kMaxBackoffMultiplier then backoffMultiplier rounds (multiplier * 2)
      else multiplier

/-- `ComputeRetryDelayMs`. -/
def computeRetryDelayMs (cfg : GameConfiguration) (consecutiveFailureCount : UInt64) : UInt64 :=
  match cfg.playerDataset with
  | none => 5000
  | some timing =>
      let baseMs := timing.landingMinTimeSeconds.toUInt64 * 1000
      let maxMs := timing.landingTimeSeconds.toUInt64 * 1000
      let delayMs := baseMs * backoffMultiplier (consecutiveFailureCount.toNat - 1) 1
      if delayMs < maxMs then delayMs else maxMs

/-- `ShouldFlush` once the retry record has been looked at; `retryPending` is asked for a record that
is dirty, is not waiting for its first persist, and has a configured dataset. -/
def shouldFlush (cfg : GameConfiguration) (repository : PlayerRepositoryRecord)
    (session : Option PlayerSessionRecord) (retryPending : Bool) (nowMs : UInt64) : Bool :=
  if !repository.loaded || !repository.dirty then false
  else if repository.pendingInitialPersist then true
  else match cfg.playerDataset with
    | none => false
    | some timing =>
        if retryPending then false
        else if session.any fun s => s.state = .detached then true
        else if repository.lastDirtyMs = 0 then true
        else
          decide (repository.lastDirtyMs ≤ nowMs) &&
            decide (timing.landingMinTimeSeconds.toUInt64 * 1000 ≤ nowMs - repository.lastDirtyMs)

namespace PlayerPersistenceService

/-- Counts a failed flush and plans the next attempt, or forgets the player's failures. -/
def flushDone (cfg : GameConfiguration) (playerId : PlayerId) (nowMs : UInt64) (flush : Result)
    (s : PlayerPersistenceService) : PlayerPersistenceService :=
  if !flush.ok then
    let failures := ((s.retryStates playerId).getD {}).consecutiveFailureCount + 1
    { snapshot := { s.snapshot with
        flushFailureCount := s.snapshot.flushFailureCount + 1, lastError := flush.message }
      retryStates := Function.update s.retryStates playerId
        (some { consecutiveFailureCount := failures
                lastFailureMs := nowMs
                nextRetryMs := nowMs + computeRetryDelayMs cfg failures
                lastError := flush.message }) }
  else
    { snapshot := { s.snapshot with flushSuccessCount := s.snapshot.flushSuccessCount + 1 }
      retryStates := Function.update s.retryStates playerId none }

/-- One section of the service. -/
def exec (cfg : GameConfiguration) (s : PlayerPersistenceService) :
    (a : PersistenceAct) → Option (PlayerPersistenceService × a.Reply)
  | .scanEnter nowMs =>
      some ({ s with snapshot := { s.snapshot with
                scanCount := s.snapshot.scanCount + 1, lastScanMs := nowMs } }, ())
  | .retryPending playerId nowMs =>
      some (s, (s.retryStates playerId).any fun retry => nowMs < retry.nextRetryMs)
  | .flushAttempt playerId nowMs =>
      some ({ s with snapshot := { s.snapshot with
                flushAttemptCount := s.snapshot.flushAttemptCount + 1
                lastFlushPlayerId := playerId
                lastFlushMs := nowMs } }, ())
  | .flushDone playerId nowMs flush => some (s.flushDone cfg playerId nowMs flush, ())
  | .scanLeave tracked pendingInitialPersist createdWithoutMaria =>
      some ({ s with snapshot := { s.snapshot with
                trackedPlayerCount := tracked
                pendingInitialPersistCount := pendingInitialPersist
                createdWithoutMariaCount := createdWithoutMaria } }, ())

end PlayerPersistenceService

end SomeServer
