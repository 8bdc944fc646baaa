/-
# SomeServer.Game.Repository — `PlayerRepository`

The repository keeps one record for each player whose data is in memory. `LoadPlayer` and
`FlushPlayer` hold `mMutex` over the storage commands, so each has two sections: one that takes the
mutex and says what there is to do, and one that applies the storage result and gives the mutex
back. Every other function is one section.

Serialising a `PlayerData` never fails (proto3 has no required field), so that branch of `FlushPlayer`
is left out, and so are the null checks of the services, which `GameApplication` always registers.
-/
import SomeServer.Storage

namespace SomeServer

structure PlayerRepositoryRecord where
  loaded : Bool := false
  dirty : Bool := false
  pendingInitialPersist : Bool := false
  createdWithoutMaria : Bool := false
  loadCount : UInt64 := 0
  flushCount : UInt64 := 0
  lastLoadMs : UInt64 := 0
  lastDirtyMs : UInt64 := 0
  lastFlushMs : UInt64 := 0
  data : PlayerData := {}
deriving DecidableEq, Repr

structure PlayerRepository (T : Type) where
  mutex : Option T := none
  players : PlayerId → Option PlayerRepositoryRecord := fun _ => none

inductive RepositoryAct where
  | loadEnter (playerId : PlayerId)
  | loadLeave (playerId : PlayerId) (allowCreateWithoutMaria : Bool) (result : Result)
      (value : Option Blob)
  | flushEnter (playerId : PlayerId)
  | flushLeave (playerId : PlayerId) (storeResult : Result)
  | release (playerId : PlayerId)
  | touchLogin (playerId : PlayerId)
  | setDisplayName (playerId : PlayerId) (displayName : String)
  | snapshot (playerId : PlayerId)
  | loadedPlayerIds (order : List PlayerId)

@[reducible] def RepositoryAct.Reply : RepositoryAct → Type
  | .loadEnter _ => Unit
  | .loadLeave _ _ _ _ => Result
  | .flushEnter _ => Option PlayerData
  | .flushLeave _ _ => Result
  | .release _ => Result
  | .touchLogin _ => Result
  | .setDisplayName _ _ => Result
  | .snapshot _ => Option PlayerRepositoryRecord
  | .loadedPlayerIds _ => List PlayerId

/-- `InitializeDefaultPlayerData`. -/
def initializeDefaultPlayerData (playerId : PlayerId) (nowMs : UInt64) : PlayerRepositoryRecord where
  data :=
    { base := { playerId, displayName := "player_" ++ playerId.toNat.repr, createdAtMs := nowMs }
      core := { level := 1 } }

namespace PlayerRepositoryRecord

/-- The default record as `LoadPlayer` keeps it: dirty, and never persisted. -/
def createDefault (playerId : PlayerId) (createdWithoutMaria : Bool) (nowMs : UInt64) :
    PlayerRepositoryRecord :=
  { initializeDefaultPlayerData playerId nowMs with
    dirty := true, pendingInitialPersist := true, createdWithoutMaria, lastDirtyMs := nowMs }

/-- The last lines of a successful `LoadPlayer`. -/
def markLoaded (record : PlayerRepositoryRecord) (nowMs : UInt64) : PlayerRepositoryRecord :=
  { record with loaded := true, lastLoadMs := nowMs, loadCount := record.loadCount + 1 }

/-- The last lines of a successful `FlushPlayer`. -/
def markFlushed (record : PlayerRepositoryRecord) (nowMs : UInt64) : PlayerRepositoryRecord :=
  { record with
    dirty := false, pendingInitialPersist := false, createdWithoutMaria := false,
    lastDirtyMs := 0, lastFlushMs := nowMs, flushCount := record.flushCount + 1 }

/-- A change of the data, which makes the record dirty. -/
def change (record : PlayerRepositoryRecord) (data : PlayerData) (nowMs : UInt64) :
    PlayerRepositoryRecord :=
  { record with data, dirty := true, lastDirtyMs := nowMs }

end PlayerRepositoryRecord

/-- The change `TouchLogin` makes. -/
def touchLoginData (nowMs : UInt64) (data : PlayerData) : PlayerData :=
  { data with
    base := { data.base with lastLoginAtMs := nowMs }
    core := { data.core with loginCount := data.core.loginCount + 1 } }

/-- The change `SetDisplayName` makes. -/
def setDisplayNameData (displayName : String) (data : PlayerData) : PlayerData :=
  { data with base := { data.base with displayName } }

/-- What `LoadPlayer` makes of the record it has found or just created and of the storage's answer:
the record it leaves behind and the result. -/
def loadOutcome (playerId : PlayerId) (allowCreateWithoutMaria : Bool) (result : Result)
    (value : Option Blob) (nowMs : UInt64) (record : PlayerRepositoryRecord) :
    PlayerRepositoryRecord × Result :=
  match result.ok, value with
  | true, some value =>
      let record := { record with data := value.parsed }
      if !value.parses then (record, .failure "stored player data is corrupted")
      else (record.markLoaded nowMs, .success)
  | _, _ =>
      if result.message = "not found" then
        ((PlayerRepositoryRecord.createDefault playerId false nowMs).markLoaded nowMs, .success)
      else if allowCreateWithoutMaria && result.message = mariaUnavailable then
        ((PlayerRepositoryRecord.createDefault playerId true nowMs).markLoaded nowMs, .success)
      else (record, .failure result.message)

namespace PlayerRepository

variable {T : Type}

/-- Whether a player's record is there and loaded. -/
def isLoaded (s : PlayerRepository T) (playerId : PlayerId) : Bool :=
  (s.players playerId).any (·.loaded)

/-- A section that changes the data of a loaded record. -/
def changeData (change : PlayerData → PlayerData) (nowMs : UInt64) (playerId : PlayerId)
    (s : PlayerRepository T) : PlayerRepository T × Result :=
  match s.players playerId with
  | none => (s, .failure "player is not loaded in repository")
  | some record =>
      if !record.loaded then (s, .failure "player is not loaded in repository")
      else ({ s with players := Function.update s.players playerId
                      (some (record.change (change record.data) nowMs)) }, .success)

def touchLogin (nowMs : UInt64) : PlayerId → PlayerRepository T → PlayerRepository T × Result :=
  changeData (touchLoginData nowMs) nowMs

def setDisplayName (displayName : String) (nowMs : UInt64) :
    PlayerId → PlayerRepository T → PlayerRepository T × Result :=
  changeData (setDisplayNameData displayName) nowMs

/-- The first section of `LoadPlayer`: `mPlayers[player_id]` creates the record. -/
def loadEnter (t : T) (playerId : PlayerId) (s : PlayerRepository T) : PlayerRepository T :=
  { mutex := some t
    players := Function.update s.players playerId (some ((s.players playerId).getD {})) }

/-- The second section of `LoadPlayer`. -/
def loadLeave (playerId : PlayerId) (allowCreateWithoutMaria : Bool) (result : Result)
    (value : Option Blob) (nowMs : UInt64) (s : PlayerRepository T) : PlayerRepository T × Result :=
  let outcome := loadOutcome playerId allowCreateWithoutMaria result value nowMs
    ((s.players playerId).getD {})
  ({ mutex := none, players := Function.update s.players playerId (some outcome.1) }, outcome.2)

/-- The first section of `FlushPlayer`: the data to store, `none` when the record is not loaded. -/
def flushEnter (t : T) (playerId : PlayerId) (s : PlayerRepository T) :
    PlayerRepository T × Option PlayerData :=
  match s.players playerId with
  | none => (s, none)
  | some record => if !record.loaded then (s, none) else ({ s with mutex := some t }, some record.data)

/-- The second section of `FlushPlayer`. -/
def flushLeave (playerId : PlayerId) (storeResult : Result) (nowMs : UInt64)
    (s : PlayerRepository T) : PlayerRepository T × Result :=
  if !storeResult.ok then ({ s with mutex := none }, .failure storeResult.message)
  else ({ mutex := none
          players := Function.update s.players playerId
            ((s.players playerId).map (·.markFlushed nowMs)) }, .success)

/-- `ReleasePlayer`. -/
def release (playerId : PlayerId) (s : PlayerRepository T) : PlayerRepository T × Result :=
  match s.players playerId with
  | none => (s, .failure "player is not tracked by repository")
  | some _ => ({ s with players := Function.update s.players playerId none }, .success)

/-- `LoadedPlayerIds`, in the order in which `mPlayers` is walked. -/
def loadedPlayerIds (s : PlayerRepository T) (order : List PlayerId) : List PlayerId :=
  order.filter fun playerId => s.isLoaded playerId

/-- One section of the repository; all but the closing ones wait for the mutex. -/
def exec (t : T) (env : Env) (s : PlayerRepository T) :
    (a : RepositoryAct) → Option (PlayerRepository T × a.Reply)
  | .loadEnter playerId => if s.mutex.isSome then none else some (s.loadEnter t playerId, ())
  | .loadLeave playerId allowCreateWithoutMaria result value =>
      some (s.loadLeave playerId allowCreateWithoutMaria result value env.nowMs)
  | .flushEnter playerId => if s.mutex.isSome then none else some (s.flushEnter t playerId)
  | .flushLeave playerId storeResult => some (s.flushLeave playerId storeResult env.nowMs)
  | .release playerId => if s.mutex.isSome then none else some (s.release playerId)
  | .touchLogin playerId => if s.mutex.isSome then none else some (s.touchLogin env.nowMs playerId)
  | .setDisplayName playerId displayName =>
      if s.mutex.isSome then none else some (s.setDisplayName displayName env.nowMs playerId)
  | .snapshot playerId => if s.mutex.isSome then none else some (s, s.players playerId)
  | .loadedPlayerIds order => if s.mutex.isSome then none else some (s, s.loadedPlayerIds order)

end PlayerRepository

end SomeServer
