/-
# SomeServer.Game.Lease — `PlayerLeaseService`

The lease of a player is a Redis key whose value names its owner. `Acquire` writes it with
`SET .. NX PX`, the renew loop extends it and `Release` deletes it, both through scripts that first
compare the key with the caller's own value. Locally the service tracks the owner it wrote for each
player.

Every public function is one section under `mMutex`. The renew loop keeps `mMutex` over one `EVAL`
per tracked player and erases the lost players only after the last one, so it is split into its
commands and the mutex records that the loop holds it. The snapshot counters are not read by any
modelled function and are left out.
-/
import SomeServer.Lib.Decimal
import SomeServer.Storage

namespace SomeServer

open Lib.Decimal

structure PlayerLeaseOwner where
  gameServiceType : UInt32
  gameInstanceId : UInt32
  token : String
deriving DecidableEq, Repr

/-- `PlayerLeaseService::BuildValue`. -/
def buildValue (owner : PlayerLeaseOwner) : String :=
  owner.gameServiceType.toNat.repr ++ ":" ++ owner.gameInstanceId.toNat.repr ++ ":" ++ owner.token

/-- `PlayerLeaseService::GenerateToken`. -/
def generateToken (playerId : PlayerId) (instanceId : UInt32) (nowMs : UInt64) : String :=
  playerId.toNat.repr ++ "-" ++ instanceId.toNat.repr ++ "-" ++ nowMs.toNat.repr

/-- The owner a process writes for a player at a given time. -/
def leaseOwner (cfg : GameConfiguration) (playerId : PlayerId) (nowMs : UInt64) :
    PlayerLeaseOwner where
  gameServiceType := cfg.gameServiceType
  gameInstanceId := cfg.instanceId
  token := generateToken playerId cfg.instanceId nowMs

/-- The TTL sent with `PX` and `PEXPIRE`, in milliseconds. -/
def leaseTtlMs (cfg : GameConfiguration) : UInt64 := cfg.leaseTtlSeconds.toUInt64 * 1000

/-- `redis` is `mRedis != nullptr`, `leases` is `mLeases`. -/
structure PlayerLeaseService (T : Type) where
  mutex : Option T := none
  redis : Bool := true
  leases : PlayerId → Option PlayerLeaseOwner := fun _ => none

/-- The sections of the service: its functions, and the three parts of a renew round. -/
inductive LeaseAct where
  | acquire (playerId : PlayerId)
  | release (playerId : PlayerId)
  | isHeldLocally (playerId : PlayerId)
  | renewEnter (order : List PlayerId)
  | refresh (playerId : PlayerId) (owner : PlayerLeaseOwner)
  | renewLeave (lostPlayers : List PlayerId)

@[reducible] def LeaseAct.Reply : LeaseAct → Type
  | .acquire _ => Result
  | .release _ => Result
  | .isHeldLocally _ => Bool
  | .renewEnter _ => List (PlayerId × PlayerLeaseOwner)
  | .refresh _ _ => Bool
  | .renewLeave _ => Unit

namespace PlayerLeaseService

variable {T : Type}

/-- `IsHeldLocally`. -/
def isHeldLocally (s : PlayerLeaseService T) (playerId : PlayerId) : Bool :=
  (s.leases playerId).isSome

/-- Whether the reply to `SET .. NX PX` says that the key was written. -/
def acquired (reply : RedisReply String) : Bool := reply = .status "OK"

/-- `Acquire`. -/
def acquire (cfg : GameConfiguration) (env : Env) (playerId : PlayerId)
    (s : PlayerLeaseService T) : PlayerLeaseService T × Result :=
  if !s.redis then (s, .failure "redis player lease is unavailable")
  else if s.isHeldLocally playerId then (s, .success)
  else match env.redis with
    | .noReply errstr => (s, .failure (contextError errstr "redis SET failed"))
    | reply =>
        if !acquired reply then (s, .failure "player lease is already held by another game")
        else ({ s with leases := Function.update s.leases playerId
                        (some (leaseOwner cfg playerId env.nowMs)) }, .success)

/-- `Release`: the key's deletion may fail, the local entry goes in any case. -/
def release (playerId : PlayerId) (s : PlayerLeaseService T) : PlayerLeaseService T × Result :=
  if !s.isHeldLocally playerId then (s, .failure "player lease is not tracked locally")
  else ({ s with leases := Function.update s.leases playerId none }, .success)

/-- The tracked players in the order in which `mLeases` is walked. -/
def tracked (s : PlayerLeaseService T) (order : List PlayerId) :
    List (PlayerId × PlayerLeaseOwner) :=
  order.filterMap fun playerId => (s.leases playerId).map fun owner => (playerId, owner)

/-- `RefreshLeaseLocked`: the lease is kept exactly when the script answers 1. -/
def refreshed (s : PlayerLeaseService T) (reply : RedisReply String) : Bool :=
  s.redis && decide (reply = .integer 1)

/-- The end of a renew round: the lost players are no longer tracked. -/
def erase (lostPlayers : List PlayerId) (s : PlayerLeaseService T) : PlayerLeaseService T :=
  { s with leases := fun playerId => if playerId ∈ lostPlayers then none else s.leases playerId }

/-- One section of the lease service. A section waits while the renew loop holds the mutex, unless
it is the loop's own. -/
def exec (cfg : GameConfiguration) (t : T) (env : Env) (s : PlayerLeaseService T) :
    (a : LeaseAct) → Option (PlayerLeaseService T × a.Reply)
  | .acquire playerId => if s.mutex.isSome then none else some (s.acquire cfg env playerId)
  | .release playerId => if s.mutex.isSome then none else some (s.release playerId)
  | .isHeldLocally playerId =>
      if s.mutex.isSome then none else some (s, s.isHeldLocally playerId)
  | .renewEnter order =>
      if s.mutex.isSome then none else some ({ s with mutex := some t }, s.tracked order)
  | .refresh _ _ => some (s, s.refreshed env.redis)
  | .renewLeave lostPlayers => some ({ s.erase lostPlayers with mutex := none }, ())

end PlayerLeaseService

/-! ## The text names the owner -/

theorem buildValue_toList (owner : PlayerLeaseOwner) :
    (buildValue owner).toList = owner.gameServiceType.toNat.repr.toList ++
      ':' :: (owner.gameInstanceId.toNat.repr.toList ++ ':' :: owner.token.toList) := by
  simp [buildValue, String.toList_append]

/-- The value of a lease determines the service type, the instance and the token of its owner. -/
theorem buildValue_injective {o o' : PlayerLeaseOwner} (h : buildValue o = buildValue o') :
    o = o' := by
  have hl : (buildValue o).toList = (buildValue o').toList := congrArg String.toList h
  rw [buildValue_toList, buildValue_toList] at hl
  obtain ⟨htype, hrest⟩ := repr_append_cons_inj (by decide) hl
  obtain ⟨hinst, htok⟩ := repr_append_cons_inj (by decide) hrest
  cases o
  cases o'
  simp only [PlayerLeaseOwner.mk.injEq]
  exact ⟨UInt32.toNat_inj.mp htype, UInt32.toNat_inj.mp hinst, String.toList_injective htok⟩

end SomeServer
