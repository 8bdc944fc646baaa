/-
# SomeServer.Storage.Connect — `ConnectRedis`

A service that talks to Redis on a connection of its own gets it from `ConnectRedis`: the endpoint is
taken apart, `redisConnectWithTimeout` is called, and `AUTH` and `SELECT` are sent where the configuration
asks for them. hiredis itself is not part of the repository, so `Hiredis` has what is called of it, and
`Hiredis.Documented` what its documentation says: a context that has met an I/O error stays unusable.
-/
import SomeServer.Lib.Decimal
import SomeServer.Storage

namespace SomeServer

open Lib.Decimal

structure RedisConfiguration where
  endpoints : List String := ["127.0.0.1:6379"]
  password : String := ""
  database : UInt32 := 0
  keyPrefix : String := ""
deriving DecidableEq, Repr

structure TcpEndpoint where
  host : String
  port : UInt16
deriving DecidableEq, Repr

/-! ## The endpoint -/

/-- `ParsePort`; `std::stoul` is 64 bits wide here. -/
def parsePort (text : String) : Option UInt16 :=
  match stoull text with
  | none => none
  | some value => if 65535 < value then none else some value.toUInt16

/-- A text cut at its last colon, as `rfind` finds it. -/
def cutLastColon : List Char → Option (List Char × List Char)
  | [] => none
  | c :: cs =>
      match cutLastColon cs with
      | some (front, back) => some (c :: front, back)
      | none => if c = ':' then some ([], cs) else none

/-- `ParseRedisEndpoint`: the first endpoint, or the error. -/
def parseRedisEndpoint (configuration : RedisConfiguration) : Except String TcpEndpoint :=
  match configuration.endpoints with
  | [] => .error "redis endpoints must not be empty"
  | value :: _ =>
      match cutLastColon value.toList with
      | some (h :: host, p :: port) =>
          match parsePort (String.ofList (p :: port)) with
          | some port => .ok ⟨String.ofList (h :: host), port⟩
          | none => .error "redis endpoint port is invalid"
      | _ => .error "redis endpoint must be in host:port format"

/-! ## hiredis -/

/-- What is used of hiredis, with contexts `C`. Whether Redis can be reached is an argument of the two
functions that do input and output; `command` returns the context afterwards, and whether the reply is
not null. -/
structure Hiredis (C : Type) where
  err : C → Bool
  errstr : C → String
  redisConnectWithTimeout : TcpEndpoint → Bool → Option C
  redisCommand : C → Bool → C × Bool

/-- What hiredis documents. -/
structure Hiredis.Documented {C : Type} (H : Hiredis C) : Prop where
  connects : ∀ endpoint, ∃ context, H.redisConnectWithTimeout endpoint true = some context ∧
    H.err context = false
  refuses : ∀ endpoint context, H.redisConnectWithTimeout endpoint false = some context →
    H.err context = true
  answers : ∀ context, H.err context = false →
    H.err (H.redisCommand context true).1 = false ∧ (H.redisCommand context true).2 = true
  loses : ∀ context, H.err context = false →
    H.err (H.redisCommand context false).1 = true ∧ (H.redisCommand context false).2 = false
  stays : ∀ context arrives, H.err context = true →
    H.err (H.redisCommand context arrives).1 = true ∧ (H.redisCommand context arrives).2 = false

/-! ## Connecting -/

/-- What becomes of a command that is sent while connecting: whether it is answered, and how. -/
structure CommandOutcome where
  arrives : Bool := true
  reply : RedisReply String := .status "OK"
deriving DecidableEq, Repr

/-- The server took the command. -/
def CommandOutcome.accepted (x : CommandOutcome) : Bool :=
  x.arrives && match x.reply with
    | .error _ => false
    | _ => true

/-- What `ConnectRedis` meets. -/
structure ConnectEnv where
  reachable : Bool := true
  auth : CommandOutcome := {}
  select : CommandOutcome := {}
deriving DecidableEq, Repr

structure RedisConnectResult (C : Type) where
  context : Option C := none
  target : String := ""
  error : String := ""

namespace Hiredis

variable {C : Type} (H : Hiredis C)

/-- One command of `ConnectRedis` and the two ways in which it gives up; `failed` is the text for a context
without one. -/
def runCommand (context : C) (x : CommandOutcome) (failed : String) : Except String C :=
  let y := H.redisCommand context x.arrives
  if !y.2 then
    .error (if H.err y.1 && decide (H.errstr y.1 ≠ "") then H.errstr y.1 else failed)
  else match x.reply with
    | .error str => .error str
    | _ => .ok y.1

/-- `ConnectRedis`. -/
def connectRedis (configuration : RedisConfiguration) (env : ConnectEnv) : RedisConnectResult C :=
  match parseRedisEndpoint configuration with
  | .error error => { error }
  | .ok endpoint =>
      let target := endpoint.host ++ ":" ++ endpoint.port.toNat.repr
      match H.redisConnectWithTimeout endpoint env.reachable with
      | none => { target, error := "redisConnectWithTimeout returned null" }
      | some context =>
          -- a failed connect returns a context, too
          if H.err context then
            { target, error := if H.errstr context ≠ "" then H.errstr context else "redis connect failed" }
          else
            let authenticated :=
              if configuration.password = "" then .ok context
              else H.runCommand context env.auth "redis AUTH failed"
            let selected := authenticated.bind fun context =>
              if configuration.database = 0 then .ok context
              else H.runCommand context env.select "redis SELECT failed"
            match selected with
            | .error error => { target, error }
            | .ok context => { context := some context, target }

end Hiredis

/-! ## When it connects -/

/-- The endpoint can be read, Redis is there from the first byte to the last, and takes the commands that
the configuration asks for. -/
def RedisConfiguration.connects (configuration : RedisConfiguration) (env : ConnectEnv) : Bool :=
  (match parseRedisEndpoint configuration with
    | .ok _ => true
    | .error _ => false) &&
  env.reachable && (decide (configuration.password = "") || env.auth.accepted) &&
  (decide (configuration.database = 0) || env.select.accepted)

namespace Hiredis

variable {C : Type} {H : Hiredis C} (hH : H.Documented)
include hH

/-- On a live context a command of `ConnectRedis` goes through exactly when the server takes it, and leaves
the context live. -/
theorem runCommand_cases {context : C} (hlive : H.err context = false) (x : CommandOutcome) (failed : String) :
    (x.accepted = true ∧
        ∃ context', H.runCommand context x failed = .ok context' ∧ H.err context' = false) ∨
      (x.accepted = false ∧ ∃ error, H.runCommand context x failed = .error error) := by
  obtain ⟨hanswered, hreply⟩ := hH.answers context hlive
  obtain ⟨-, hnull⟩ := hH.loses context hlive
  obtain ⟨arrives, reply⟩ := x
  cases arrives with
  | false =>
      refine .inr ⟨rfl, ?_⟩
      simp only [runCommand, hnull, Bool.not_false, if_true]
      exact ⟨_, rfl⟩
  | true =>
      cases reply with
      | error str =>
          refine .inr ⟨rfl, str, ?_⟩
          simp only [runCommand, hreply, Bool.not_true, Bool.false_eq_true, if_false]
      | unavailable | noReply errstr | status str | nil | integer value | string value =>
          refine .inl ⟨rfl, _, ?_, hanswered⟩
          simp only [runCommand, hreply, Bool.not_true, Bool.false_eq_true, if_false]

/-- The same for a command that is sent only where the configuration asks for it. -/
theorem optional_cases {context : C} (hlive : H.err context = false) (skip : Prop) [Decidable skip]
    (x : CommandOutcome) (failed : String) :
    ((decide skip || x.accepted) = true ∧ ∃ context',
        (if skip then .ok context else H.runCommand context x failed) = .ok context' ∧
          H.err context' = false) ∨
      ((decide skip || x.accepted) = false ∧ ∃ error,
        (if skip then .ok context else H.runCommand context x failed) = .error error) := by
  by_cases hskip : skip
  · exact .inl ⟨by simp [hskip], context, by rw [if_pos hskip], hlive⟩
  · rcases runCommand_cases hH hlive x failed with ⟨hok, context', hrun, hlive'⟩ | ⟨hno, error, hrun⟩
    · exact .inl ⟨by simp [hok], context', by rw [if_neg hskip]; exact hrun, hlive'⟩
    · exact .inr ⟨by simp [hskip, hno], error, by rw [if_neg hskip]; exact hrun⟩

/-- `ConnectRedis` returns a context, and a live one, exactly when the configuration connects. -/
theorem connectRedis_cases (configuration : RedisConfiguration) (env : ConnectEnv) :
    (configuration.connects env = true ∧ ∃ context,
        (H.connectRedis configuration env).context = some context ∧ H.err context = false) ∨
      (configuration.connects env = false ∧ (H.connectRedis configuration env).context = none) := by
  unfold RedisConfiguration.connects connectRedis
  cases parseRedisEndpoint configuration with
  | error error => exact .inr ⟨rfl, rfl⟩
  | ok endpoint =>
      cases hreach : env.reachable with
      | false =>
          refine .inr ⟨by simp, ?_⟩
          dsimp only
          cases hc : H.redisConnectWithTimeout endpoint false with
          | none => rfl
          | some context =>
              dsimp only
              rw [hH.refuses endpoint context hc, if_pos rfl]
      | true =>
          -- `AUTH`, then `SELECT`, each on the live context that the step before has left
          obtain ⟨context, hc, hlive⟩ := hH.connects endpoint
          simp only [hc, hlive, Bool.false_eq_true, if_false, Bool.true_and]
          rcases optional_cases hH hlive (configuration.password = "") env.auth "redis AUTH failed" with
            ⟨hauth, context₁, hrun, hlive₁⟩ | ⟨hauth, error, hrun⟩
          · rw [hauth, hrun]
            simp only [Except.bind, Bool.true_and]
            rcases optional_cases hH hlive₁ (configuration.database = 0) env.select
              "redis SELECT failed" with ⟨hselect, context₂, hrun₂, hlive₂⟩ | ⟨hselect, error, hrun₂⟩
            · rw [hselect, hrun₂]
              exact .inl ⟨rfl, context₂, rfl, hlive₂⟩
            · rw [hselect, hrun₂]
              exact .inr ⟨rfl, rfl⟩
          · rw [hauth, hrun]
            exact .inr ⟨rfl, rfl⟩

end Hiredis

end SomeServer
