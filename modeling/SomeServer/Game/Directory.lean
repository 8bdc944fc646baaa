/-
# SomeServer.Game.Directory — `PlayerDirectoryService`

The directory maps `platform:account_id:area_id` to a player id. The shared map and the id counter
live in Redis; each process keeps the entries it has seen in `mEntries` and falls back to a counter
of its own when a command fails.

`ResolveOrCreate` and `Lookup` hold `mMutex` over several Redis commands, so their sections are the
single commands and the mutex records the thread that is inside. Every way out of the mutex is one
section: `remember` keeps an answer found or made in Redis, `fallback` takes the next id of the local
counter, `leave` changes nothing (an entry was cached, nothing was found, or `std::stoull` has
thrown).
-/
import SomeServer.Lib.Decimal
import SomeServer.Storage

namespace SomeServer

open Lib.Decimal

/-- `PlayerDirectoryService::MakeKey`. -/
def makeKey (platform accountId : String) (areaId : UInt32) : String :=
  platform ++ ":" ++ accountId ++ ":" ++ areaId.toNat.repr

structure PlayerDirectoryResolveResult where
  playerId : PlayerId
  created : Bool
deriving DecidableEq, Repr

/-- `entries` is `mEntries`. -/
structure PlayerDirectoryService (T : Type) where
  mutex : Option T := none
  entries : String → Option PlayerId := fun _ => none
  nextPlayerId : UInt64 := 100000

inductive DirectoryAct where
  | enter (key : String)
  | getEntry (key : String)
  | getCounter
  | initCounter
  | resetCounter
  | increment
  | createEntry (key : String) (playerId : PlayerId)
  | remember (key : String) (resolved : PlayerDirectoryResolveResult)
  | fallback (key : String)
  | leave

@[reducible] def DirectoryAct.Reply : DirectoryAct → Type
  | .enter _ => Option PlayerId
  | .getEntry _ => Result × Option String
  | .getCounter => Result × Option String
  | .initCounter => Result
  | .resetCounter => Result
  | .increment => Result × Int
  | .createEntry _ _ => Result
  | .remember _ _ => Unit
  | .fallback _ => PlayerDirectoryResolveResult
  | .leave => Unit

/-- The text both writers of the counter store: one below the first id. -/
def counterFloor : Int := 99999

def counterFloorText : String := "99999"

/-- Whether a counter that was read makes `ResolveOrCreate` write it again: it is below the floor,
or `std::stoll` throws on it. -/
def needsReset (text : String) : Bool :=
  match stoll text with
  | some value => decide (value < counterFloor)
  | none => true

/-- `static_cast<std::uint64_t>` of an id taken from the counter. -/
def castPlayerId (nextPlayerId : Int) : PlayerId := UInt64.ofInt nextPlayerId

namespace PlayerDirectoryService

variable {T : Type}

/-- `mEntries.emplace`, which keeps an entry that is there. -/
def emplace (s : PlayerDirectoryService T) (key : String) (playerId : PlayerId) :
    PlayerDirectoryService T :=
  match s.entries key with
  | some _ => s
  | none => { s with entries := Function.update s.entries key (some playerId) }

/-- One section of the directory service. -/
def exec (t : T) (env : Env) (s : PlayerDirectoryService T) :
    (a : DirectoryAct) → Option (PlayerDirectoryService T × a.Reply)
  | .enter key =>
      if s.mutex.isSome then none else some ({ s with mutex := some t }, s.entries key)
  | .getEntry _ => some (s, redisGet env.redis)
  | .getCounter => some (s, redisGet env.redis)
  | .initCounter => some (s, redisSetIfAbsent env.redis)
  | .resetCounter => some (s, redisSet env.redis)
  | .increment => some (s, redisIncrement env.redis)
  | .createEntry _ _ => some (s, redisSetIfAbsent env.redis)
  | .remember key resolved => some ({ s.emplace key resolved.playerId with mutex := none }, ())
  | .fallback key =>
      some ({ s.emplace key s.nextPlayerId with nextPlayerId := s.nextPlayerId + 1, mutex := none },
        ⟨s.nextPlayerId, true⟩)
  | .leave => some ({ s with mutex := none }, ())

end PlayerDirectoryService

end SomeServer
