/-
# SomeServer.Cluster.Owners — the texts under which Redis knows owners

A game writes its name under a player's lease key, and a gate its session under an account's key: three fields
with a colon between them. Whoever reads such a text, on whatever process, gets the owner back that was written
(`owners_round_trip`). The scripts and the comparisons that tell one's own key from another's rest on this.
-/
import SomeServer.Game.Lease
import SomeServer.Gate.Accounts
import Mathlib.Data.Set.Function

namespace SomeServer

open Lib.Decimal
open GateAccountOwner (getline getline_append getline_last)

/-- `PlayerLeaseService::ParseValue`; `std::stoul` is 64 bits wide here, and the token ends at the next colon, if
there is one. -/
def PlayerLeaseService.parseValue (value : String) : Option PlayerLeaseOwner := do
  let serviceType ← getline value.toList
  let instanceId ← getline serviceType.2
  let token ← getline instanceId.2
  return {
    gameServiceType := (← stoull (String.ofList serviceType.1)).toUInt32
    gameInstanceId := (← stoull (String.ofList instanceId.1)).toUInt32
    token := String.ofList token.1 }

/-- The owners whose token a game has made. -/
def PlayerLeaseOwner.Generated (owner : PlayerLeaseOwner) : Prop :=
  ∃ playerId instanceId nowMs, owner.token = generateToken playerId instanceId nowMs

theorem generateToken_toList (playerId : PlayerId) (instanceId : UInt32) (nowMs : UInt64) :
    (generateToken playerId instanceId nowMs).toList = playerId.toNat.repr.toList ++
      '-' :: (instanceId.toNat.repr.toList ++ '-' :: nowMs.toNat.repr.toList) := by
  simp [generateToken, String.toList_append]

/-- A token has no colon in it, and is not empty. -/
theorem PlayerLeaseOwner.Generated.token {owner : PlayerLeaseOwner} (h : owner.Generated) :
    ':' ∉ owner.token.toList ∧ owner.token.toList ≠ [] := by
  obtain ⟨playerId, instanceId, nowMs, htoken⟩ := h
  have hcolon : ∀ n : Nat, ':' ∉ n.repr.toList := fun n => notMem_repr (by decide)
  rw [htoken, generateToken_toList]
  constructor
  · simp only [List.mem_append, List.mem_cons, not_or]
    exact ⟨hcolon _, by decide, hcolon _, by decide, hcolon _⟩
  · simp

/-- A 32-bit number is read back from its decimal text. -/
theorem stoull_toNat32 (i : UInt32) : (stoull i.toNat.repr).map UInt64.toUInt32 = some i := by
  have hlt := i.toNat_lt
  rw [stoull_repr (by omega), Option.map_some, Option.some.injEq]
  apply UInt32.toNat_inj.mp
  rw [UInt64.toNat_toUInt32, UInt64.toNat_ofNat', Nat.mod_mod_of_dvd _ (by decide)]
  exact Nat.mod_eq_of_lt hlt

theorem PlayerLeaseService.parseValue_buildValue {owner : PlayerLeaseOwner} (h : owner.Generated) :
    parseValue (buildValue owner) = some owner := by
  obtain ⟨hcolon, hne⟩ := h.token
  have hdigits : ∀ n : Nat, ':' ∉ n.repr.toList := fun n => notMem_repr (by decide)
  obtain ⟨t, ht, hservice⟩ := Option.map_eq_some_iff.mp (stoull_toNat32 owner.gameServiceType)
  obtain ⟨i, hi, hinstance⟩ := Option.map_eq_some_iff.mp (stoull_toNat32 owner.gameInstanceId)
  unfold parseValue
  rw [buildValue_toList, getline_append (hdigits _)]
  simp only [Option.bind_eq_bind, Option.bind_some]
  rw [getline_append (hdigits _)]
  simp only [Option.bind_some]
  rw [getline_last hcolon hne]
  simp only [Option.bind_some, String.ofList_toList, ht, hi, hservice, hinstance]
  rfl

/-- **The texts of the owners are read back**, and so different owners have different texts. -/
theorem owners_round_trip :
    (∀ owner : PlayerLeaseOwner, owner.Generated →
      PlayerLeaseService.parseValue (buildValue owner) = some owner) ∧
    (∀ owner : GateAccountOwner, GateAccountOwner.parseValue (GateAccountOwner.buildValue owner) = some owner) ∧
    Set.InjOn buildValue {owner | owner.Generated} ∧ Function.Injective GateAccountOwner.buildValue := by
  refine ⟨fun _ => PlayerLeaseService.parseValue_buildValue, GateAccountOwner.parseValue_buildValue, ?_,
    fun _ _ => GateAccountOwner.buildValue_inj.mp⟩
  intro owner howner owner' howner' h
  have hparse := congrArg PlayerLeaseService.parseValue h
  rw [PlayerLeaseService.parseValue_buildValue howner, PlayerLeaseService.parseValue_buildValue howner'] at hparse
  exact Option.some.inj hparse

/-- The owner of a lease that game 1 has acquired for player 7. -/
theorem owners_round_trip_game :
    PlayerLeaseService.parseValue (buildValue ⟨10, 1, "7-1-1000"⟩) = some ⟨10, 1, "7-1-1000"⟩ :=
  owners_round_trip.1 _ ⟨7, 1, 1000, by decide⟩

end SomeServer
