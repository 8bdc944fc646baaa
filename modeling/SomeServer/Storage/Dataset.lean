/-
# SomeServer.Storage.Dataset — `DatasetPut`, `DatasetGet` and `DatasetDelete`

A dataset is a MariaDB table of entries with a Redis copy of some of them. The three calls are programs
of single statements and commands, since the service takes no lock over two of them. `V` are the stored
values; keys are compared as the texts they are, in the table and in Redis. So the collation of the column
`entry_key` is assumed not to identify two keys that are in use, as one that ignores case would identify two
keys that differ in case.

Every statement and every command either is executed or fails without effect. The connections may be
missing: the handle of MariaDB is looked up before anything else is done with it, and a missing Redis
context is a failed command. Of the servers it is assumed that they execute one statement or command after
the other, each as a whole, that what is written stays until it is written again or deleted, and that nobody
else writes these rows and keys.
-/
import SomeServer.Lib.Pool
import SomeServer.Storage

namespace SomeServer

open Lib

/-- The two stores of one dataset. -/
structure DatasetStores (V : Type) where
  rows : String → Option V := fun _ => none
  cache : String → Option V := fun _ => none

/-- What happens to one statement or command: it is executed, or it fails with this message. -/
inductive Fate where
  | executed
  | failed (message : String)
deriving DecidableEq, Repr

/-- What the outside decides in one step: whether the MariaDB handle is there, and the fate. -/
structure DatasetInput where
  maria : Bool := true
  fate : Fate := .executed
deriving DecidableEq, Repr

inductive DatasetAct (V : Type) where
  | getMaria
  | ensureMariaEntriesTable
  | select (key : String)
  | insert (key : String) (value : V)
  | delete (key : String)
  | redisGet (key : String)
  | redisSet (key : String) (value : V)
  | redisDelete (key : String)

@[reducible] def DatasetAct.Reply {V : Type} : DatasetAct V → Type
  | .getMaria => Bool
  | .ensureMariaEntriesTable => Result
  | .select _ => Result × Option V
  | .insert _ _ => Result
  | .delete _ => Result
  | .redisGet _ => Result × Option V
  | .redisSet _ _ => Result
  | .redisDelete _ => Result

namespace DatasetStores

variable {V : Type}

/-- One statement or command. -/
def exec (i : DatasetInput) (s : DatasetStores V) : (a : DatasetAct V) → DatasetStores V × a.Reply
  | .getMaria => (s, i.maria)
  | .ensureMariaEntriesTable =>
      match i.fate with
      | .failed message => (s, .failure message)
      | .executed => (s, ⟨true, "OK"⟩)
  | .select key =>
      match i.fate with
      | .failed message => (s, .failure message, none)
      | .executed =>
          match s.rows key with
          -- no row
          | none => (s, .failure "not found", none)
          | some value => (s, ⟨true, "OK"⟩, some value)
  | .insert key value =>
      match i.fate with
      | .failed message => (s, .failure message)
      | .executed => ({ s with rows := Function.update s.rows key (some value) }, ⟨true, "OK"⟩)
  | .delete key =>
      match i.fate with
      | .failed message => (s, .failure message)
      | .executed => ({ s with rows := Function.update s.rows key none }, ⟨true, "OK"⟩)
  | .redisGet key =>
      match i.fate with
      | .failed message => (s, .failure message, none)
      | .executed =>
          match s.cache key with
          -- a nil reply is passed on as a failure with this text
          | none => (s, ⟨false, "nil"⟩, none)
          | some value => (s, ⟨true, "OK"⟩, some value)
  | .redisSet key value =>
      match i.fate with
      | .failed message => (s, .failure message)
      | .executed => ({ s with cache := Function.update s.cache key (some value) }, ⟨true, "OK"⟩)
  | .redisDelete key =>
      match i.fate with
      | .failed message => (s, .failure message)
      | .executed =>
          ({ s with cache := Function.update s.cache key none },
            ⟨true, "deleted=" ++ (if (s.cache key).isSome then "1" else "0")⟩)

/-- The stores as a machine for any clients. -/
def machine (V T : Type) : Machine T (DatasetAct V) DatasetAct.Reply DatasetInput (DatasetStores V) where
  exec _ a i s := some (s.exec i a)

end DatasetStores

/-! ## The calls -/

namespace StorageService

variable {V : Type}

abbrev Call (V α : Type) : Type := Prog (DatasetAct V) DatasetAct.Reply α

abbrev call (a : DatasetAct V) : Call V a.Reply := Prog.call a

def emptyKey : Result := .failure "entry_key must not be empty"

/-- The message of a call whose MariaDB statement went through and whose Redis command did not. -/
def mariaOnly (redis : Result) : Result := ⟨true, "maria=OK redis=" ++ redis.message⟩

/-- `DatasetPut`. -/
def datasetPut (key : String) (value : V) : Call V Result := do
  let maria ← call .getMaria
  if !maria then return .failure mariaUnavailable
  if key = "" then return emptyKey
  let ensure ← call .ensureMariaEntriesTable
  if !ensure.ok then return ensure
  let inserted ← call (.insert key value)
  if !inserted.ok then return inserted
  let redis ← call (.redisSet key value)
  if !redis.ok then return mariaOnly redis
  return ⟨true, "OK"⟩

/-- `DatasetGet`: Redis first, then MariaDB, whose value is copied to Redis. -/
def datasetGet (key : String) : Call V (Result × Option V) := do
  if key = "" then return (emptyKey, none)
  let redis ← call (.redisGet key)
  if redis.1.ok then return (⟨true, "redis"⟩, redis.2)
  if redis.1.message ≠ "nil" then return (redis.1, none)
  let maria ← call .getMaria
  if !maria then return (.failure mariaUnavailable, none)
  let ensure ← call .ensureMariaEntriesTable
  if !ensure.ok then return (ensure, none)
  let selected ← call (.select key)
  match selected.2 with
  | none => return (selected.1, none)
  | some value =>
      let _ ← call (.redisSet key value)
      return (⟨true, "maria"⟩, some value)

/-- `DatasetDelete`. -/
def datasetDelete (key : String) : Call V Result := do
  let maria ← call .getMaria
  if !maria then return .failure mariaUnavailable
  if key = "" then return emptyKey
  let ensure ← call .ensureMariaEntriesTable
  if !ensure.ok then return ensure
  let deleted ← call (.delete key)
  if !deleted.ok then return deleted
  let redis ← call (.redisDelete key)
  if !redis.ok then return mariaOnly redis
  return ⟨true, "OK"⟩

end StorageService

/-- The calls a client makes. -/
inductive DatasetOp (V : Type) where
  | put (key : String) (value : V)
  | get (key : String)
  | delete (key : String)
deriving DecidableEq, Repr

/-- The program of a call; only `DatasetGet` returns a value. -/
def DatasetOp.code {V : Type} : DatasetOp V → StorageService.Call V (Result × Option V)
  | .put key value => do
      let result ← StorageService.datasetPut key value
      return (result, none)
  | .get key => StorageService.datasetGet key
  | .delete key => do
      let result ← StorageService.datasetDelete key
      return (result, none)

end SomeServer
