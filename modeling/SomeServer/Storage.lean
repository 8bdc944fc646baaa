/-
# SomeServer.Storage — results, stored values, and how the storage service reads server replies

`StorageService` turns one command into one `Result`: a Redis command is answered by a `redisReply`
or by a null pointer, a MariaDB statement by an error, by nothing, or by a row. This module has the
replies and, for every command the game uses, what the service makes of them; which commands a call
sends, and in which order, is in the call's own program (`Game.Calls`).

`PlayerData` is the stored protobuf message. Its bytes appear as a `Blob`: the encoding of a message,
or bytes that do not parse (`ParseFromString` then leaves the part it has read in the target).
-/
import Mathlib.Logic.Function.Basic

namespace SomeServer

abbrev PlayerId := UInt64

/-! ## Results -/

/-- `ipc::Result`, and `StorageCommandResult`, which has the same two fields. -/
structure Result where
  ok : Bool
  message : String
deriving DecidableEq, Repr

namespace Result

def success : Result := ⟨true, ""⟩

def failure (error : String) : Result := ⟨false, error⟩

@[simp] theorem success_ok : success.ok = true := rfl

@[simp] theorem failure_ok (error : String) : (failure error).ok = false := rfl

@[simp] theorem failure_message (error : String) : (failure error).message = error := rfl

end Result

/-! ## Player data -/

structure PlayerBaseData where
  playerId : UInt64 := 0
  displayName : String := ""
  createdAtMs : UInt64 := 0
  lastLoginAtMs : UInt64 := 0
deriving DecidableEq, Repr

structure PlayerCoreData where
  level : UInt32 := 0
  experience : UInt64 := 0
  loginCount : UInt64 := 0
deriving DecidableEq, Repr

/-- `pb::PlayerData`; a cleared message has every field at its proto3 default. -/
structure PlayerData where
  base : PlayerBaseData := {}
  core : PlayerCoreData := {}
  extensions : List UInt8 := []
deriving DecidableEq, Repr

/-- Stored bytes, seen through `ParseFromString`. -/
inductive Blob where
  | message (data : PlayerData)
  | corrupt (parsed : PlayerData)
deriving DecidableEq, Repr

/-- The message a parse leaves in the target. -/
def Blob.parsed : Blob → PlayerData
  | .message data => data
  | .corrupt data => data

/-- Whether `ParseFromString` reports success. -/
def Blob.parses : Blob → Bool
  | .message _ => true
  | .corrupt _ => false

/-! ## Redis replies -/

/-- The answer to one Redis command. `noReply` is a null `redisReply` with the context's error text,
`unavailable` means that there is no context and nothing is sent. -/
inductive RedisReply (V : Type) where
  | unavailable
  | noReply (errstr : String)
  | status (str : String)
  | error (str : String)
  | nil
  | integer (value : Int)
  | string (value : V)
deriving DecidableEq, Repr

/-- The text of a failed command: the context's error, or a fixed text when it has none. -/
def contextError (errstr fixed : String) : String := if errstr ≠ "" then errstr else fixed

/-- `StorageService::RedisSet`. -/
def redisSet : RedisReply String → Result
  | .unavailable => .failure "redis connection is unavailable"
  | .noReply errstr => .failure (contextError errstr "redis SET failed")
  | .status str => if str = "OK" then ⟨true, "OK"⟩ else ⟨false, str⟩
  | .error str => ⟨false, str⟩
  | .string str => ⟨false, str⟩
  | .nil => ⟨false, "redis SET failed"⟩
  | .integer _ => ⟨false, "redis SET failed"⟩

/-- `StorageService::RedisSetIfAbsent`. -/
def redisSetIfAbsent : RedisReply String → Result
  | .unavailable => .failure "redis connection is unavailable"
  | .noReply errstr => .failure (contextError errstr "redis SET NX failed")
  | .nil => ⟨false, "exists"⟩
  | .status str => if str = "OK" then ⟨true, "OK"⟩ else ⟨false, str⟩
  | .error str => ⟨false, str⟩
  | .string str => ⟨false, str⟩
  | .integer _ => ⟨false, "redis SET NX failed"⟩

/-- `StorageService::RedisGet`, with the value it assigns when it succeeds. -/
def redisGet {V : Type} : RedisReply V → Result × Option V
  | .unavailable => (.failure "redis connection is unavailable", none)
  | .noReply errstr => (.failure (contextError errstr "redis GET failed"), none)
  | .nil => (⟨false, "nil"⟩, none)
  | .string value => (⟨true, "OK"⟩, some value)
  | .status str => (⟨false, str⟩, none)
  | .error str => (⟨false, str⟩, none)
  | .integer _ => (⟨false, "redis GET returned unexpected reply"⟩, none)

/-- `StorageService::RedisIncrement`, with the value it assigns when it succeeds. -/
def redisIncrement : RedisReply String → Result × Int
  | .unavailable => (.failure "redis connection is unavailable", 0)
  | .noReply errstr => (.failure (contextError errstr "redis INCRBY failed"), 0)
  | .integer value => (⟨true, "OK"⟩, value)
  | .status str => (⟨false, str⟩, 0)
  | .error str => (⟨false, str⟩, 0)
  | .string str => (⟨false, str⟩, 0)
  | .nil => (⟨false, "redis INCRBY returned unexpected reply"⟩, 0)

theorem redisIncrement_ok {reply : RedisReply String} :
    (redisIncrement reply).1.ok = true ↔ ∃ value, reply = .integer value := by
  cases reply <;> simp [redisIncrement]

/-! ## MariaDB answers -/

/-- The answer to one statement. `unavailable` is a null handle: nothing is sent. -/
inductive MariaReply where
  | unavailable
  | error (text : String)
  | ok
  | noRow
  | row (value : Blob)
deriving DecidableEq, Repr

/-- The text the service reports for a missing handle. -/
def mariaUnavailable : String := "maria connection is unavailable"

/-- `StorageService::EnsureMariaEntriesTable`, together with the check of the handle before it. -/
def ensureMariaEntriesTable : MariaReply → Result
  | .unavailable => .failure mariaUnavailable
  | .error text => .failure text
  | _ => ⟨true, "OK"⟩

/-- The `SELECT` of `DatasetGet`. -/
def mariaSelect : MariaReply → Result × Option Blob
  | .unavailable => (.failure mariaUnavailable, none)
  | .error text => (.failure text, none)
  | .row value => (⟨true, "maria"⟩, some value)
  | .ok => (.failure "not found", none)
  | .noRow => (.failure "not found", none)

/-- The `INSERT .. ON DUPLICATE KEY UPDATE` of `DatasetPut`. -/
def mariaInsert : MariaReply → Result
  | .unavailable => .failure mariaUnavailable
  | .error text => .failure text
  | _ => ⟨true, "OK"⟩

/-! ## What the environment supplies to one section -/

/-- The outside of one critical section: the clock it reads, the reply to the command it sends, and
the outcome of a process message it hands to the messenger. -/
structure Env where
  nowMs : UInt64
  redis : RedisReply String
  cached : RedisReply Blob
  maria : MariaReply
  sent : Result
deriving DecidableEq, Repr

/-- The part of the configuration the game services read. `playerDataset` is the timing of the
`player` dataset, when that dataset is configured. -/
structure DatasetTiming where
  landingMinTimeSeconds : UInt32
  landingTimeSeconds : UInt32
deriving DecidableEq, Repr

structure GameConfiguration where
  gameServiceType : UInt32 := 10
  instanceId : UInt32
  leaseTtlSeconds : UInt32 := 30
  detachedTtlSeconds : UInt32 := 300
  playerDataset : Option DatasetTiming := some ⟨60, 1800⟩
deriving DecidableEq, Repr

end SomeServer
