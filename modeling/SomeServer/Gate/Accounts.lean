/-
# SomeServer.Gate.Accounts — `GateAccountDirectoryService`

The account directory is a family of Redis keys, one for each account id; the value names the gate session
that owns the account, as three decimals joined by colons. `BindAccount` writes a key with `SET`,
`LookupAccount` reads it, and `RemoveAccountIfMatches` reads it and deletes it with a second command when
it still names the caller's session.

`mMutex` is held over each function. `RemoveAccountIfMatches` sends two commands, so it is two sections
here, and the mutex records that it is between them.
-/
import SomeServer.Game.Session
import SomeServer.Lib.Decimal

namespace SomeServer

open Lib.Decimal

/-- `GateAccountOwner`: the three numbers of a gate session. -/
abbrev GateAccountOwner := GateSession

namespace GateAccountOwner

/-- `GateAccountDirectoryService::BuildValue`. -/
def buildValue (owner : GateAccountOwner) : String :=
  owner.serviceType.toNat.repr ++ ":" ++ owner.instanceId.toNat.repr ++ ":" ++
    owner.sessionId.toNat.repr

/-- `std::getline(stream, text, ':')` on what is left of the stream; `none` when there is nothing left. -/
def getline : List Char → Option (List Char × List Char)
  | [] => none
  | c :: cs =>
      some ((c :: cs).takeWhile (· ≠ ':'), ((c :: cs).dropWhile (· ≠ ':')).drop 1)

/-- `GateAccountDirectoryService::ParseValue`; `std::stoul` is 64 bits wide here. -/
def parseValue (value : String) : Option GateAccountOwner := do
  let serviceType ← getline value.toList
  let instanceId ← getline serviceType.2
  let gateSessionId ← getline instanceId.2
  return {
    serviceType := (← stoull (String.ofList serviceType.1)).toUInt32
    instanceId := (← stoull (String.ofList instanceId.1)).toUInt32
    sessionId := ← stoull (String.ofList gateSessionId.1) }

/-! ## The text names the owner -/

theorem getline_append {us rest : List Char} (hu : ':' ∉ us) :
    getline (us ++ ':' :: rest) = some (us, rest) := by
  have hall : ∀ c ∈ us, decide (c ≠ ':') = true := by
    intro c hc
    rw [decide_eq_true_eq]
    rintro rfl
    exact hu hc
  have htake : (us ++ ':' :: rest).takeWhile (· ≠ ':') = us := by
    rw [List.takeWhile_append_of_pos hall]
    simp
  have hdrop : (us ++ ':' :: rest).dropWhile (· ≠ ':') = ':' :: rest := by
    rw [List.dropWhile_append_of_pos hall]
    simp
  have hsplit : getline (us ++ ':' :: rest) = some ((us ++ ':' :: rest).takeWhile (· ≠ ':'),
      ((us ++ ':' :: rest).dropWhile (· ≠ ':')).drop 1) := by
    cases us <;> rfl
  rw [hsplit, htake, hdrop]
  rfl

theorem getline_last {us : List Char} (hu : ':' ∉ us) (hne : us ≠ []) :
    getline us = some (us, []) := by
  have hall : ∀ c ∈ us, decide (c ≠ ':') = true := by
    intro c hc
    rw [decide_eq_true_eq]
    rintro rfl
    exact hu hc
  cases us with
  | nil => exact absurd rfl hne
  | cons c cs =>
      show some (_, _) = _
      rw [List.takeWhile_eq_self_iff.mpr hall, List.dropWhile_eq_nil_iff.mpr hall]
      rfl

/-- What `BuildValue` writes, `ParseValue` reads back. -/
theorem parseValue_buildValue (owner : GateAccountOwner) :
    parseValue (buildValue owner) = some owner := by
  have hcolon : ∀ n : Nat, ':' ∉ n.repr.toList := fun n => notMem_repr (by decide)
  have htext : (buildValue owner).toList = owner.serviceType.toNat.repr.toList ++
      ':' :: (owner.instanceId.toNat.repr.toList ++ ':' :: owner.sessionId.toNat.repr.toList) := by
    simp [buildValue, String.toList_append]
  have hread : ∀ i : UInt32, (stoull i.toNat.repr).map UInt64.toUInt32 = some i := by
    intro i
    have hlt : i.toNat < 2 ^ 64 := by
      have := i.toNat_lt
      omega
    rw [stoull_repr hlt, Option.map_some, Option.some.injEq]
    apply UInt32.toNat_inj.mp
    have := i.toNat_lt
    simp only [UInt64.toNat_toUInt32, UInt64.toNat_ofNat']
    omega
  obtain ⟨t, ht, hservice⟩ := Option.map_eq_some_iff.mp (hread owner.serviceType)
  obtain ⟨i, hi, hinstance⟩ := Option.map_eq_some_iff.mp (hread owner.instanceId)
  unfold parseValue
  rw [htext, getline_append (hcolon _)]
  simp only [Option.bind_eq_bind, Option.bind_some]
  rw [getline_append (hcolon _)]
  simp only [Option.bind_some]
  rw [getline_last (hcolon _) (repr_ne_nil _)]
  simp only [Option.bind_some, String.ofList_toList, stoull_toNat, ht, hi, hservice, hinstance]
  rfl

theorem buildValue_inj {owner owner' : GateAccountOwner} :
    buildValue owner = buildValue owner' ↔ owner = owner' := by
  constructor
  · intro h
    have hparse := congrArg parseValue h
    rw [parseValue_buildValue, parseValue_buildValue] at hparse
    exact Option.some.inj hparse
  · exact congrArg buildValue

end GateAccountOwner

/-! ## The service -/

/-- `redis` is `mRedis != nullptr`. -/
structure GateAccountDirectoryService (T : Type) where
  mutex : Option T := none
  redis : Bool := true

/-- What `RemoveAccountIfMatches` does after its `GET`: it is over, or it sends `DEL`. -/
inductive RemoveDecision where
  | done (result : Result)
  | delete
deriving DecidableEq, Repr

/-- The sections of the service. -/
inductive AccountAct where
  | lookupAccount (accountId : String)
  | bindAccount (accountId : String) (owner : GateAccountOwner)
  | removeGet (accountId : String) (owner : GateAccountOwner)
  | removeDelete (accountId : String)

@[reducible] def AccountAct.Reply : AccountAct → Type
  | .lookupAccount _ => Option GateAccountOwner
  | .bindAccount _ _ => Result
  | .removeGet _ _ => RemoveDecision
  | .removeDelete _ => Result

namespace GateAccountDirectoryService

variable {T : Type}

/-- The owner that the reply to a `GET` names. -/
def readOwner : RedisReply String → Option GateAccountOwner
  | .string value => GateAccountOwner.parseValue value
  | _ => none

/-- `LookupAccount`. -/
def lookupAccount (s : GateAccountDirectoryService T) (reply : RedisReply String) :
    Option GateAccountOwner :=
  if !s.redis then none else readOwner reply

/-- The result of a command of which only a missing reply is an error. -/
def replied (fixed : String) : RedisReply String → Result
  | .noReply errstr => .failure (contextError errstr fixed)
  | _ => .success

/-- `BindAccount`. -/
def bindAccount (s : GateAccountDirectoryService T) (reply : RedisReply String) : Result :=
  if !s.redis then .failure "redis account directory is unavailable"
  else replied "redis SET failed" reply

/-- `RemoveAccountIfMatches` up to its decision. -/
def removeGet (s : GateAccountDirectoryService T) (owner : GateAccountOwner)
    (reply : RedisReply String) : RemoveDecision :=
  if !s.redis then .done (.failure "redis account directory is unavailable")
  else match reply with
    | .noReply errstr => .done (.failure (contextError errstr "redis GET failed"))
    | reply => if readOwner reply = some owner then .delete else .done .success

/-- One section of the service; it waits while another function is between its two commands. -/
def exec (t : T) (reply : RedisReply String) (s : GateAccountDirectoryService T) :
    (a : AccountAct) → Option (GateAccountDirectoryService T × a.Reply)
  | .lookupAccount _ => if s.mutex.isSome then none else some (s, s.lookupAccount reply)
  | .bindAccount _ _ => if s.mutex.isSome then none else some (s, s.bindAccount reply)
  | .removeGet _ owner =>
      if s.mutex.isSome then none
      else
        let decision := s.removeGet owner reply
        some (if decision = .delete then { s with mutex := some t } else s, decision)
  | .removeDelete _ => some ({ s with mutex := none }, replied "redis DEL failed" reply)

/-- A section leaves the connection to Redis as it is. -/
theorem exec_redis {t : T} {reply : RedisReply String} {s s' : GateAccountDirectoryService T}
    {a : AccountAct} {r : a.Reply} (h : s.exec t reply a = some (s', r)) : s'.redis = s.redis := by
  cases a with
  | lookupAccount _ | bindAccount _ _ =>
      simp only [exec, Option.ite_none_left_eq_some, Option.some.injEq, Prod.mk.injEq] at h
      rw [← h.2.1]
  | removeGet accountId owner =>
      simp only [exec, Option.ite_none_left_eq_some, Option.some.injEq, Prod.mk.injEq] at h
      rw [← h.2.1]
      split <;> rfl
  | removeDelete _ =>
      simp only [exec, Option.some.injEq, Prod.mk.injEq] at h
      rw [← h.1]

end GateAccountDirectoryService

end SomeServer
