/-
# SomeServer.Game.Calls — the functions of the game services as programs of atomic sections

Each function of the services that takes more than one lock, or sends more than one command, is a
`Call`: the sections of `Game.Process` in the order of the source, with its branches and early
returns. `Op` lists the operations that threads of a game run (message handlers, loops, console
commands), and `Op.code` is the program of each.

`std::unordered_map` is walked in an unspecified order, so an operation that walks one is given the
order as an argument. The `while (true)` of `ResolveOrCreate` takes fuel; a call that runs out of it
has merely not finished.
-/
import SomeServer.Game.Process

namespace SomeServer

open Lib

abbrev Call (α : Type) : Type := Prog Act Act.Reply α

/-- One section of the process. -/
abbrev call (a : Act) : Call a.Reply := Prog.call a

/-! ## Datasets and the repository -/

/-- `StorageService::DatasetGet`. -/
def datasetGet (playerId : PlayerId) : Call (Result × Option Blob) := do
  let cached ← call (.storage (.redisGet playerId))
  if cached.1.ok then return (⟨true, "redis"⟩, cached.2)
  if cached.1.message ≠ "nil" then return (cached.1, none)
  let ensure ← call (.storage .ensureMariaEntriesTable)
  if !ensure.ok then return (ensure, none)
  let selected ← call (.storage (.select playerId))
  match selected.2 with
  | none => return (selected.1, none)
  | some value =>
      let _ ← call (.storage (.redisSet playerId value))
      return (⟨true, "maria"⟩, some value)

/-- `StorageService::DatasetPut`: MariaDB decides, the Redis copy is best effort. -/
def datasetPut (playerId : PlayerId) (value : Blob) : Call Result := do
  let ensure ← call (.storage .ensureMariaEntriesTable)
  if !ensure.ok then return ensure
  let inserted ← call (.storage (.insert playerId value))
  if !inserted.ok then return inserted
  let redis ← call (.storage (.redisSet playerId value))
  if !redis.ok then return ⟨true, "maria=OK redis=" ++ redis.message⟩
  return ⟨true, "OK"⟩

/-- `PlayerRepository::LoadPlayer`. -/
def loadPlayer (cfg : GameConfiguration) (playerId : PlayerId) (allowCreateWithoutMaria : Bool) :
    Call Result := do
  if cfg.playerDataset.isNone then return .failure "player dataset is not configured"
  call (.repository (.loadEnter playerId))
  let got ← datasetGet playerId
  call (.repository (.loadLeave playerId allowCreateWithoutMaria got.1 got.2))

/-- `PlayerRepository::FlushPlayer`. -/
def flushPlayer (playerId : PlayerId) : Call Result := do
  match ← call (.repository (.flushEnter playerId)) with
  | none => return .failure "player is not loaded in repository"
  | some data =>
      let stored ← datasetPut playerId (.message data)
      call (.repository (.flushLeave playerId stored))

/-! ## The directory -/

/-- How a directory call ends: with an id, with the exception of `std::stoull`, or not yet. -/
inductive ResolveOutcome where
  | resolved (result : PlayerDirectoryResolveResult)
  | threw
  | spinning
deriving DecidableEq, Repr

/-- An entry was read: its id is remembered and returned, unless the text is no number. -/
def answerEntry (key text : String) : Call ResolveOutcome :=
  match stoull text with
  | none => do
      call (.directory .leave)
      return .threw
  | some playerId => do
      call (.directory (.remember key ⟨playerId, false⟩))
      return .resolved ⟨playerId, false⟩
where
  stoull := Lib.Decimal.stoull

/-- The local answer: the next id of `mNextPlayerId`. -/
def answerFallback (key : String) : Call ResolveOutcome := do
  let result ← call (.directory (.fallback key))
  return .resolved result

/-- The part of a turn of the loop that looks after the counter. -/
def prepareCounter : Call Unit := do
  let current ← call (.directory .getCounter)
  match current.2 with
  | none =>
      let _ ← call (.directory .initCounter)
      return ()
  | some text =>
      if needsReset text then
        let _ ← call (.directory .resetCounter)
        return ()
      else return ()

/-- The `while (true)` loop of `ResolveOrCreate`. -/
def resolveLoop (key : String) : (fuel : Nat) → Call ResolveOutcome
  | 0 => return .spinning
  | fuel + 1 => do
      prepareCounter
      let increment ← call (.directory .increment)
      if !increment.1.ok then answerFallback key
      else
        let playerId := castPlayerId increment.2
        let create ← call (.directory (.createEntry key playerId))
        if create.ok then
          call (.directory (.remember key ⟨playerId, true⟩))
          return .resolved ⟨playerId, true⟩
        else if create.message ≠ "exists" then answerFallback key
        else
          let retry ← call (.directory (.getEntry key))
          match retry.2 with
          | some text => answerEntry key text
          | none => resolveLoop key fuel

/-- `PlayerDirectoryService::ResolveOrCreate`. -/
def resolveOrCreate (fuel : Nat) (key : String) : Call ResolveOutcome := do
  match ← call (.directory (.enter key)) with
  | some playerId =>
      call (.directory .leave)
      return .resolved ⟨playerId, false⟩
  | none =>
      let entry ← call (.directory (.getEntry key))
      match entry.2 with
      | some text => answerEntry key text
      | none => resolveLoop key fuel

/-- `PlayerDirectoryService::Lookup`; `none` is `std::nullopt`. -/
def lookup (key : String) : Call (Option ResolveOutcome) := do
  match ← call (.directory (.enter key)) with
  | some playerId =>
      call (.directory .leave)
      return some (.resolved ⟨playerId, false⟩)
  | none =>
      let entry ← call (.directory (.getEntry key))
      match entry.2 with
      | some text =>
          let outcome ← answerEntry key text
          return some outcome
      | none =>
          call (.directory .leave)
          return none

/-! ## The session service -/

/-- `PlayerRuntimeService::EnsurePlayer`. -/
def ensurePlayer (playerId : PlayerId) : Call Result := do
  let repository ← call (.repository (.snapshot playerId))
  if !repository.any (·.loaded) then return .failure "player repository is not loaded"
  call (.runtime (.emplace playerId))
  return .success

/-- The load of the `reuse_existing` branch, which is skipped when the record is there. -/
def loadIfAbsent (cfg : GameConfiguration) (playerId : PlayerId) (allowCreateWithoutMaria : Bool) :
    Call Result := do
  let repository ← call (.repository (.snapshot playerId))
  if repository.isSome then return .success
  loadPlayer cfg playerId allowCreateWithoutMaria

/-- Whether `ActivatePlayer` gives up after `BindLocalPlayer`. -/
def bindFailed (bind : Result) : Bool := !bind.ok && bind.message ≠ alreadyBoundLocally

/-- The `reuse_existing` branch of `ActivatePlayer`, behind the acquired lease. -/
def resumePlayer (cfg : GameConfiguration) (playerId : PlayerId) (gate : GateSession)
    (allowCreateWithoutMaria : Bool) : Call Result := do
  let load ← loadIfAbsent cfg playerId allowCreateWithoutMaria
  if !load.ok then
    let _ ← call (.lease (.release playerId))
    return load
  let bind ← call (.ipc (.bindLocalPlayer playerId))
  if bindFailed bind then
    let _ ← call (.lease (.release playerId))
    return bind
  let ensure ← ensurePlayer playerId
  if !ensure.ok then
    let _ ← call (.lease (.release playerId))
    let _ ← call (.ipc (.unbindLocalPlayer playerId))
    return ensure
  call (.session (.activateResume playerId gate))

/-- The other branch of `ActivatePlayer`, behind the acquired lease. -/
def admitPlayer (cfg : GameConfiguration) (playerId : PlayerId) (gate : GateSession)
    (allowCreateWithoutMaria : Bool) : Call Result := do
  let load ← loadPlayer cfg playerId allowCreateWithoutMaria
  if !load.ok then
    let _ ← call (.lease (.release playerId))
    return load
  let bind ← call (.ipc (.bindLocalPlayer playerId))
  if bindFailed bind then
    let _ ← call (.lease (.release playerId))
    let _ ← call (.repository (.release playerId))
    return bind
  let ensure ← ensurePlayer playerId
  if !ensure.ok then
    let _ ← call (.lease (.release playerId))
    let _ ← call (.ipc (.unbindLocalPlayer playerId))
    let _ ← call (.repository (.release playerId))
    return ensure
  call (.session (.activateInsert playerId gate))
  return .success

/-- `PlayerSessionService::ActivatePlayer`. -/
def activatePlayer (cfg : GameConfiguration) (playerId : PlayerId) (gate : GateSession)
    (allowCreateWithoutMaria : Bool) : Call Result := do
  match ← call (.session (.activateEnter playerId gate)) with
  | .done result => return result
  | .proceed reuseExisting =>
      let lease ← call (.lease (.acquire playerId))
      if !lease.ok then return lease
      if reuseExisting then resumePlayer cfg playerId gate allowCreateWithoutMaria
      else admitPlayer cfg playerId gate allowCreateWithoutMaria

/-- `ReleasePlayer` from the unbinding on. -/
def unloadPlayer (playerId : PlayerId) : Call Result := do
  let unbind ← call (.ipc (.unbindLocalPlayer playerId))
  if !unbind.ok then return unbind
  let _ ← call (.runtime (.removePlayer playerId))
  let release ← call (.repository (.release playerId))
  if !release.ok then return release
  let _ ← call (.lease (.release playerId))
  call (.session (.releaseErase playerId))
  return .success

/-- `PlayerSessionService::ReleasePlayer`. -/
def releasePlayer (playerId : PlayerId) : Call Result := do
  match ← call (.session (.releaseEnter playerId)) with
  | none => return .failure "player session is not tracked"
  | some previousRecord =>
      let repository ← call (.repository (.snapshot playerId))
      if !repository.any (·.dirty) then unloadPlayer playerId
      else
        let flush ← flushPlayer playerId
        if !flush.ok then
          call (.session (.releaseRestore playerId previousRecord))
          return .failure ("player flush before release failed: " ++ flush.message)
        unloadPlayer playerId

/-- The loop of `ExpireDetachedPlayers`; `released` counts the releases that succeeded. -/
def releaseAll : (expiredPlayers : List PlayerId) → (released : Nat) → Call Nat
  | [], released => return released
  | playerId :: rest, released => do
      let release ← releasePlayer playerId
      releaseAll rest (if release.ok then released + 1 else released)

/-- `PlayerSessionService::ExpireDetachedPlayers`. -/
def expireDetachedPlayers (order : List PlayerId) : Call Nat := do
  let now ← call .clock
  let expiredPlayers ← call (.session (.expiredPlayers order now))
  releaseAll expiredPlayers 0

/-- `ReconcileLeaseLosses` for one player, from the unbinding on. -/
def reconcileUnbound (action : LostPlayerAction) (now : UInt64) : Call Bool := do
  let _ ← call (.ipc (.unbindLocalPlayer action.playerId))
  call (.session (.reconcileLost action now))

/-- `ReconcileLeaseLosses` for one player: an online player's gate is told first. -/
def reconcilePlayer (action : LostPlayerAction) (now : UInt64) : Call Bool :=
  if action.state = .online ∧ action.gate.serviceType ≠ 0 ∧ action.gate.instanceId ≠ 0 ∧
      action.gate.sessionId ≠ 0 then do
    let _ ← call (.ipc (.sendProcessPayload ⟨action.gate.serviceType, action.gate.instanceId⟩
      (.unbindPlayerSession action.playerId action.gate.sessionId)))
    reconcileUnbound action now
  else reconcileUnbound action now

/-- The loop of `ReconcileLeaseLosses`. -/
def reconcileAll (now : UInt64) : (lostPlayers : List LostPlayerAction) → (reconciled : Nat) →
    Call Nat
  | [], reconciled => return reconciled
  | action :: rest, reconciled => do
      let counted ← reconcilePlayer action now
      reconcileAll now rest (if counted then reconciled + 1 else reconciled)

/-- `PlayerSessionService::ReconcileLeaseLosses`. -/
def reconcileLeaseLosses (order : List PlayerId) : Call Nat := do
  let lostPlayers ← call (.session (.lostPlayers order))
  let now ← call .clock
  reconcileAll now lostPlayers 0

/-! ## The renew loop -/

/-- One `EVAL` for each tracked player; the players whose refresh was not confirmed are lost. -/
def refreshAll : (leases : List (PlayerId × PlayerLeaseOwner)) → (lostPlayers : List PlayerId) →
    Call (List PlayerId)
  | [], lostPlayers => return lostPlayers
  | (playerId, owner) :: rest, lostPlayers => do
      let refreshed ← call (.lease (.refresh playerId owner))
      refreshAll rest (if refreshed then lostPlayers else lostPlayers ++ [playerId])

/-- One turn of `PlayerLeaseService::Loop`. -/
def renewLeases (order : List PlayerId) : Call Unit := do
  let leases ← call (.lease (.renewEnter order))
  let lostPlayers ← refreshAll leases []
  call (.lease (.renewLeave lostPlayers))

/-! ## The flush scheduler -/

/-- The counters of one scan. -/
structure ScanCounts where
  flushed : Nat := 0
  tracked : UInt64 := 0
  pendingInitialPersist : UInt64 := 0
  createdWithoutMaria : UInt64 := 0

/-- A loaded record is counted before anything is decided about it. -/
def ScanCounts.count (counts : ScanCounts) (repository : PlayerRepositoryRecord) : ScanCounts where
  flushed := counts.flushed
  tracked := counts.tracked + 1
  pendingInitialPersist :=
    if repository.pendingInitialPersist then counts.pendingInitialPersist + 1
    else counts.pendingInitialPersist
  createdWithoutMaria :=
    if repository.createdWithoutMaria then counts.createdWithoutMaria + 1
    else counts.createdWithoutMaria

/-- A successful flush takes the record's flags back. -/
def ScanCounts.flush (counts : ScanCounts) (repository : PlayerRepositoryRecord) : ScanCounts where
  flushed := counts.flushed + 1
  tracked := counts.tracked
  pendingInitialPersist :=
    if repository.pendingInitialPersist && decide (0 < counts.pendingInitialPersist) then
      counts.pendingInitialPersist - 1
    else counts.pendingInitialPersist
  createdWithoutMaria :=
    if repository.createdWithoutMaria && decide (0 < counts.createdWithoutMaria) then
      counts.createdWithoutMaria - 1
    else counts.createdWithoutMaria

/-- `ShouldFlush`, which looks at the retry record only for a dirty record that is not waiting for
its first persist. -/
def checkFlush (cfg : GameConfiguration) (playerId : PlayerId) (repository : PlayerRepositoryRecord)
    (session : Option PlayerSessionRecord) (nowMs : UInt64) : Call Bool :=
  if !repository.loaded || !repository.dirty || repository.pendingInitialPersist ||
      cfg.playerDataset.isNone then
    return shouldFlush cfg repository session false nowMs
  else do
    let retryPending ← call (.persistence (.retryPending playerId nowMs))
    return shouldFlush cfg repository session retryPending nowMs

/-- The scan's work on one player whose record it has just read. -/
def scanPlayer (cfg : GameConfiguration) (playerId : PlayerId) (repository : PlayerRepositoryRecord)
    (nowMs : UInt64) (counts : ScanCounts) : Call ScanCounts := do
  let held ← call (.lease (.isHeldLocally playerId))
  if !held then return counts
  let session ← call (.session (.snapshot playerId))
  let due ← checkFlush cfg playerId repository session nowMs
  if !due then return counts
  call (.persistence (.flushAttempt playerId nowMs))
  let flush ← flushPlayer playerId
  call (.persistence (.flushDone playerId nowMs flush))
  if !flush.ok then return counts
  return counts.flush repository

/-- The loop of `FlushDuePlayersOnce`. -/
def scanAll (cfg : GameConfiguration) (nowMs : UInt64) : (players : List PlayerId) → ScanCounts →
    Call ScanCounts
  | [], counts => return counts
  | playerId :: rest, counts => do
      match ← call (.repository (.snapshot playerId)) with
      | none => scanAll cfg nowMs rest counts
      | some repository =>
          let counts ← scanPlayer cfg playerId repository nowMs (counts.count repository)
          scanAll cfg nowMs rest counts

/-- `PlayerPersistenceService::FlushDuePlayersOnce`. -/
def flushDuePlayersOnce (cfg : GameConfiguration) (order : List PlayerId) : Call Nat := do
  let nowMs ← call .clock
  call (.persistence (.scanEnter nowMs))
  let players ← call (.repository (.loadedPlayerIds order))
  let counts ← scanAll cfg nowMs players {}
  call (.persistence (.scanLeave counts.tracked counts.pendingInitialPersist
    counts.createdWithoutMaria))
  return counts.flushed

/-! ## Message handlers -/

/-- `ToResultCode` of the login service. -/
def toResultCode (result : Result) : ResultCode :=
  if result.message = "player lease is already held by another game" then .playerHeldByOtherGame
  else .internal

/-- The result code and error text of an activation's response. -/
def activateResponse (activate : Result) : ResultCode × String :=
  if !activate.ok then (toResultCode activate, activate.message) else (.ok, "")

/-- The tail every handler shares: the response is sent, and the send's result returned. -/
def respond (source : ProcessId) (payload : Payload) : Call Result := do
  let send ← call (.ipc (.sendProcessPayload source payload))
  if !send.ok then return .failure send.message
  return .success

/-- `HandleLoginRequest` behind the directory's answer. -/
def answerLogin (cfg : GameConfiguration) (source : ProcessId) (gate : GateSession)
    (resolved : PlayerDirectoryResolveResult) : Call Result := do
  let activate ← activatePlayer cfg resolved.playerId gate resolved.created
  let response := activateResponse activate
  respond source (.loginPlayerResponse resolved.playerId response.1 response.2)

/-- `PlayerLoginService::HandleLoginRequest`; `none` when `ResolveOrCreate` has thrown, or has not
finished. -/
def handleLoginRequest (cfg : GameConfiguration) (fuel : Nat) (source : ProcessId) (key : String)
    (gate : GateSession) : Call (Option Result) := do
  match ← resolveOrCreate fuel key with
  | .resolved resolved =>
      let sent ← answerLogin cfg source gate resolved
      return some sent
  | .threw => return none
  | .spinning => return none

/-- `PlayerLoginService::HandleReconnectRequest`. -/
def handleReconnectRequest (cfg : GameConfiguration) (source : ProcessId) (playerId : PlayerId)
    (gate : GateSession) : Call Result := do
  let activate ← activatePlayer cfg playerId gate false
  let response := activateResponse activate
  respond source (.reconnectPlayerResponse playerId response.1 response.2)

/-- `PlayerLoginService::HandlePlayerDisconnected`. -/
def handlePlayerDisconnected (playerId : PlayerId) (gate : GateSession) : Call Result := do
  let detach ← call (.session (.detachFrom playerId gate))
  if !detach.ok && detach.message ≠ "player session is not tracked" then
    return .failure detach.message
  return .success

/-- What the dispatcher makes of a forwarded message: one of the two registered requests, or the
error it reports for an unknown id or bytes that do not parse. -/
inductive PlayerCommand where
  | rename (displayName : String)
  | echo
  | rejected (message : String)
deriving DecidableEq, Repr

/-- `mDispatcher.Dispatch`. -/
def dispatchCommand (playerId : PlayerId) : PlayerCommand → Call Result
  | .rename displayName => call (.runtime (.handleRename playerId displayName))
  | .echo => call (.runtime (.handleEcho playerId))
  | .rejected message => return .failure message

/-- The checks and the dispatch of `HandleForwardPlayerMessageRequest`: the code and error text of
the response. -/
def forwardPlayerMessage (playerId : PlayerId) (command : PlayerCommand) :
    Call (ResultCode × String) := do
  match ← call (.session (.snapshot playerId)) with
  | none => return (.playerNotFound, "player session is not tracked")
  | some session =>
      if session.state ≠ .online then return (.sessionExpired, "player session is not online")
      let held ← call (.lease (.isHeldLocally playerId))
      if !held then return (.playerHeldByOtherGame, "player lease is not held locally")
      let result ← dispatchCommand playerId command
      if !result.ok then return (.invalidArgument, result.message)
      return (.ok, "")

/-- `GamePlayerMessageService::HandleForwardPlayerMessageRequest`, with the code it answered. -/
def handleForwardPlayerMessageRequest (source : ProcessId) (playerId : PlayerId)
    (command : PlayerCommand) : Call (ResultCode × Result) := do
  let response ← forwardPlayerMessage playerId command
  let sent ← respond source (.forwardPlayerMessageResponse playerId response.1 response.2)
  return (response.1, sent)

/-! ## Operations -/

/-- The operations that the threads of a game run. -/
inductive Op where
  | login (source : ProcessId) (platform accountId : String) (areaId : UInt32) (gate : GateSession)
  | reconnect (source : ProcessId) (playerId : PlayerId) (gate : GateSession)
  | disconnected (playerId : PlayerId) (gate : GateSession)
  | forward (source : ProcessId) (playerId : PlayerId) (command : PlayerCommand)
  | resolve (platform accountId : String) (areaId : UInt32)
  | lookup (platform accountId : String) (areaId : UInt32)
  | activate (playerId : PlayerId) (gate : GateSession) (allowCreateWithoutMaria : Bool)
  | detach (playerId : PlayerId)
  | release (playerId : PlayerId)
  | expire (order : List PlayerId)
  | reconcile (order : List PlayerId)
  | renew (order : List PlayerId)
  | flushDue (order : List PlayerId)
  | flush (playerId : PlayerId)
  | touchLogin (playerId : PlayerId)
  | setDisplayName (playerId : PlayerId) (displayName : String)
  | acquireLease (playerId : PlayerId)
  | releaseLease (playerId : PlayerId)
  | bindRemote (playerId : PlayerId) (instanceId : UInt32)
deriving DecidableEq, Repr

/-- What an operation returns to its caller. -/
inductive OpResult where
  | result (result : Result)
  | resolved (outcome : ResolveOutcome)
  | looked (outcome : Option ResolveOutcome)
  | forwarded (code : ResultCode) (sent : Result)
  | count (count : Nat)
  | done
deriving DecidableEq, Repr

/-- The program of an operation. -/
def Op.code (cfg : GameConfiguration) (fuel : Nat) : Op → Call OpResult
  | .login source platform accountId areaId gate => do
      match ← handleLoginRequest cfg fuel source (makeKey platform accountId areaId) gate with
      | some result => return .result result
      | none => return .done
  | .reconnect source playerId gate => do
      let result ← handleReconnectRequest cfg source playerId gate
      return .result result
  | .disconnected playerId gate => do
      let result ← handlePlayerDisconnected playerId gate
      return .result result
  | .forward source playerId command => do
      let answer ← handleForwardPlayerMessageRequest source playerId command
      return .forwarded answer.1 answer.2
  | .resolve platform accountId areaId => do
      let outcome ← resolveOrCreate fuel (makeKey platform accountId areaId)
      return .resolved outcome
  | .lookup platform accountId areaId => do
      let outcome ← SomeServer.lookup (makeKey platform accountId areaId)
      return .looked outcome
  | .activate playerId gate allowCreateWithoutMaria => do
      let result ← activatePlayer cfg playerId gate allowCreateWithoutMaria
      return .result result
  | .detach playerId => do
      let result ← call (.session (.detach playerId))
      return .result result
  | .release playerId => do
      let result ← releasePlayer playerId
      return .result result
  | .expire order => do
      let count ← expireDetachedPlayers order
      return .count count
  | .reconcile order => do
      let count ← reconcileLeaseLosses order
      return .count count
  | .renew order => do
      renewLeases order
      return .done
  | .flushDue order => do
      let count ← flushDuePlayersOnce cfg order
      return .count count
  | .flush playerId => do
      let result ← flushPlayer playerId
      return .result result
  | .touchLogin playerId => do
      let result ← call (.repository (.touchLogin playerId))
      return .result result
  | .setDisplayName playerId displayName => do
      let result ← call (.repository (.setDisplayName playerId displayName))
      return .result result
  | .acquireLease playerId => do
      let result ← call (.lease (.acquire playerId))
      return .result result
  | .releaseLease playerId => do
      let result ← call (.lease (.release playerId))
      return .result result
  | .bindRemote playerId instanceId => do
      let result ← call (.ipc (.bindRemotePlayer playerId instanceId))
      return .result result

end SomeServer
