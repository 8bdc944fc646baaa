/-
# SomeServer.Game.Process — one game process: its services, and every atomic section of them

`GameProcess` puts the services together. `Act` lists the atomic sections their functions are made
of: one mutex-protected section, or one command to Redis or MariaDB, each. `GameProcess.exec` is their
meaning. Where a section takes a second service's lock inside its own, it is atomic at that second
lock, which is the only point at which it looks at anything shared with other sections.

The replies of the servers come from the environment (`Env`): here they are arbitrary, and the fleet
computes them from the servers' contents (`Fleet.World`).
-/
import SomeServer.Lib.Pool
import SomeServer.Game.Directory
import SomeServer.Game.Ipc
import SomeServer.Game.Lease
import SomeServer.Game.Persistence

namespace SomeServer

open Lib

/-- `PlayerInstance`, as far as `PlayerRuntimeService` keeps it. -/
structure PlayerInstance where
  commandCount : UInt64 := 0
deriving DecidableEq, Repr

/-- The services of one process; `T` are its threads. -/
structure GameProcess (T : Type) where
  directory : PlayerDirectoryService T := {}
  lease : PlayerLeaseService T := {}
  repository : PlayerRepository T := {}
  runtime : PlayerId → Option PlayerInstance := fun _ => none
  ipc : GameIpcClientService := {}
  sessions : PlayerSessions := fun _ => none
  persistence : PlayerPersistenceService := {}

/-- The commands of `DatasetGet` and `DatasetPut` on the `player` dataset. -/
inductive StorageAct where
  | redisGet (playerId : PlayerId)
  | ensureMariaEntriesTable
  | select (playerId : PlayerId)
  | insert (playerId : PlayerId) (value : Blob)
  | redisSet (playerId : PlayerId) (value : Blob)

@[reducible] def StorageAct.Reply : StorageAct → Type
  | .redisGet _ => Result × Option Blob
  | .ensureMariaEntriesTable => Result
  | .select _ => Result × Option Blob
  | .insert _ _ => Result
  | .redisSet _ _ => Result

/-- The sections of `PlayerRuntimeService`; the two message handlers reach into the repository. -/
inductive RuntimeAct where
  | emplace (playerId : PlayerId)
  | removePlayer (playerId : PlayerId)
  | handleRename (playerId : PlayerId) (displayName : String)
  | handleEcho (playerId : PlayerId)

@[reducible] def RuntimeAct.Reply : RuntimeAct → Type
  | .emplace _ => Unit
  | .removePlayer _ => Result
  | .handleRename _ _ => Result
  | .handleEcho _ => Result

inductive Act where
  | clock
  | directory (a : DirectoryAct)
  | lease (a : LeaseAct)
  | storage (a : StorageAct)
  | repository (a : RepositoryAct)
  | runtime (a : RuntimeAct)
  | ipc (a : IpcAct)
  | session (a : SessionAct)
  | persistence (a : PersistenceAct)

@[reducible] def Act.Reply : Act → Type
  | .clock => UInt64
  | .directory a => a.Reply
  | .lease a => a.Reply
  | .storage a => a.Reply
  | .repository a => a.Reply
  | .runtime a => a.Reply
  | .ipc a => a.Reply
  | .session a => a.Reply
  | .persistence a => a.Reply

/-- The reply to one storage command. -/
def StorageAct.answer (env : Env) : (a : StorageAct) → a.Reply
  | .redisGet _ => SomeServer.redisGet env.cached
  | .ensureMariaEntriesTable => SomeServer.ensureMariaEntriesTable env.maria
  | .select _ => mariaSelect env.maria
  | .insert _ _ => mariaInsert env.maria
  | .redisSet _ _ => SomeServer.redisSet env.redis

namespace GameProcess

variable {T : Type}

/-- `IsHeldLocally`, as other services see it. -/
def isHeldLocally (s : GameProcess T) (playerId : PlayerId) : Bool := s.lease.isHeldLocally playerId

/-! ## Runtime sections -/

/-- `PlayerInstance::HandleRename` behind `PlayerRuntimeService::HandleRename`. -/
def handleRename (env : Env) (playerId : PlayerId) (displayName : String) (s : GameProcess T) :
    GameProcess T × Result :=
  match s.runtime playerId with
  | none => (s, .failure "player runtime is not tracked")
  | some inst =>
      if displayName = "" then (s, .failure "display_name must not be empty")
      else
        let setName := s.repository.setDisplayName displayName env.nowMs playerId
        if !setName.2.ok then ({ s with repository := setName.1 }, setName.2)
        else
          ({ s with
              repository := setName.1
              runtime := Function.update s.runtime playerId
                (some { inst with commandCount := inst.commandCount + 1 }) }, .success)

/-- `PlayerInstance::HandleEcho` behind `PlayerRuntimeService::HandleEcho`; the echoed fields are the
request's own and the record's, and are left out. -/
def handleEcho (playerId : PlayerId) (s : GameProcess T) : GameProcess T × Result :=
  match s.runtime playerId with
  | none => (s, .failure "player runtime is not tracked")
  | some inst =>
      if !s.repository.isLoaded playerId then (s, .failure "player repository is not loaded")
      else
        ({ s with runtime := Function.update s.runtime playerId
                    (some { inst with commandCount := inst.commandCount + 1 }) }, .success)

def execRuntime (env : Env) (s : GameProcess T) :
    (a : RuntimeAct) → Option (GameProcess T × a.Reply)
  | .emplace playerId =>
      some ({ s with runtime :=
                if (s.runtime playerId).isSome then s.runtime
                else Function.update s.runtime playerId (some {}) }, ())
  | .removePlayer playerId =>
      match s.runtime playerId with
      | none => some (s, .failure "player runtime is not tracked")
      | some _ => some ({ s with runtime := Function.update s.runtime playerId none }, .success)
  | .handleRename playerId displayName =>
      if s.repository.mutex.isSome then none else some (s.handleRename env playerId displayName)
  | .handleEcho playerId =>
      if s.repository.mutex.isSome then none else some (s.handleEcho playerId)

/-! ## Session sections -/

/-- Whether the first section of `ActivatePlayer` has to ask the lease service. -/
def asksLease (s : GameProcess T) (playerId : PlayerId) : Bool :=
  (s.sessions playerId).any (·.state.present)

/-- The last section of the `reuse_existing` branch. When the record is gone or in transition it
releases the lease, still under the session mutex. -/
def activateResume (env : Env) (playerId : PlayerId) (gate : GateSession) (s : GameProcess T) :
    GameProcess T × Result :=
  let resumed := s.sessions.activateResume playerId gate env.nowMs
  if resumed.2.ok then ({ s with sessions := resumed.1 }, resumed.2)
  else ({ s with lease := (s.lease.release playerId).1 }, resumed.2)

def execSession (cfg : GameConfiguration) (env : Env) (s : GameProcess T) :
    (a : SessionAct) → Option (GameProcess T × a.Reply)
  | .activateEnter playerId gate =>
      if s.asksLease playerId && s.lease.mutex.isSome then none
      else
        let entered := s.sessions.activateEnter playerId gate env.nowMs (s.isHeldLocally playerId)
        some ({ s with sessions := entered.1 }, entered.2)
  | .activateResume playerId gate =>
      if !s.asksLease playerId && s.lease.mutex.isSome then none
      else some (s.activateResume env playerId gate)
  | .activateInsert playerId gate =>
      some ({ s with sessions := s.sessions.activateInsert playerId gate env.nowMs }, ())
  | .detach playerId =>
      let detached := s.sessions.detach cfg playerId env.nowMs
      some ({ s with sessions := detached.1 }, detached.2)
  | .detachFrom playerId gate =>
      let detached := s.sessions.detachFrom cfg gate playerId env.nowMs
      some ({ s with sessions := detached.1 }, detached.2)
  | .releaseEnter playerId =>
      let entered := s.sessions.releaseEnter playerId env.nowMs
      some ({ s with sessions := entered.1 }, entered.2)
  | .releaseRestore playerId previousRecord =>
      some ({ s with sessions := s.sessions.releaseRestore playerId previousRecord }, ())
  | .releaseErase playerId =>
      some ({ s with sessions := Function.update s.sessions playerId none }, ())
  | .expiredPlayers order now => some (s, s.sessions.expiredPlayers order now)
  | .lostPlayers order =>
      if s.lease.mutex.isSome then none
      else some (s, s.sessions.lostPlayers order s.isHeldLocally)
  | .reconcileLost action now =>
      if s.lease.mutex.isSome then none
      else
        let reconciled :=
          s.sessions.reconcileLost cfg action.playerId now (s.isHeldLocally action.playerId)
        some ({ s with sessions := reconciled.1 }, reconciled.2)
  | .snapshot playerId => some (s, s.sessions playerId)

/-! ## All sections -/

/-- One atomic section of the process, `none` while a lock it needs is taken. -/
def exec (cfg : GameConfiguration) (t : T) (env : Env) (s : GameProcess T) :
    (a : Act) → Option (GameProcess T × a.Reply)
  | .clock => some (s, env.nowMs)
  | .directory a => (s.directory.exec t env a).map fun x => ({ s with directory := x.1 }, x.2)
  | .lease a => (s.lease.exec cfg t env a).map fun x => ({ s with lease := x.1 }, x.2)
  | .storage a => some (s, a.answer env)
  | .repository a => (s.repository.exec t env a).map fun x => ({ s with repository := x.1 }, x.2)
  | .runtime a => s.execRuntime env a
  | .ipc a => (s.ipc.exec cfg env a).map fun x => ({ s with ipc := x.1 }, x.2)
  | .session a => s.execSession cfg env a
  | .persistence a => (s.persistence.exec cfg a).map fun x => ({ s with persistence := x.1 }, x.2)

/-- The process as a machine: the environment supplies every reply. -/
def machine (cfg : GameConfiguration) : Machine T Act Act.Reply Env (GameProcess T) where
  exec t a env s := s.exec cfg t env a

end GameProcess

end SomeServer
