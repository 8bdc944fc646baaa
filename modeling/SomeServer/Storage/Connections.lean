/-
# SomeServer.Storage.Connections — the connections of `StorageService`

The service has a connection for each profile that a dataset refers to. It makes them when it is loaded and looks
after them when it is probed: one that does not answer is closed, and made again. A MariaDB target can be disabled by
a command, which closes its connection and keeps it from being made. Contexts of hiredis and handles of the MariaDB
client are handles here; whether a ping is answered, and what connecting meets, is an argument.
-/
import SomeServer.Lib.Handles
import SomeServer.Storage.Resolved

namespace SomeServer

open Lib

/-! ## One connection -/

structure ConnectionProbeStatus where
  name : String := ""
  target : String := ""
  reachable : Bool := false
  error : String := ""
deriving DecidableEq, Repr

/-- `RedisConnectionState` and `MariaConnectionState`. -/
structure ConnectionState (C : Type) where
  configuration : Option C := none
  handle : Option Nat := none
  status : ConnectionProbeStatus := {}

/-- `RedisConnectResult` and `MariaConnectResult`. -/
structure ConnectResult where
  handle : Option Nat := none
  target : String := ""
  error : String := ""

/-- What a connection meets: the error of a ping of the connection that is there, if it has one; what connecting
meets; and the error of a ping of the new connection. -/
structure RefreshEnv (E : Type) where
  ping : Option String := none
  connect : E
  pingNew : Option String := none

/-- The two kinds of connections, with configurations `C`. -/
structure Backend (C E : Type) where
  missing : String
  connect : C → E → Handles → Handles × ConnectResult

/-- A new connection, or the error and whatever it was left with given back. -/
def Backend.Accounts {C E : Type} (b : Backend C E) : Prop :=
  ∀ configuration env w others, Handles.Holds w others →
    Handles.Holds (b.connect configuration env w).1 ((b.connect configuration env w).2.handle.toList ++ others)

/-- `RefreshRedisConnection`, and what `RefreshMariaConnection` does for a target that is not disabled. -/
def Backend.refresh {C E : Type} (b : Backend C E) (env : RefreshEnv E) (name : String) (state : ConnectionState C)
    (w : Handles) : Handles × ConnectionState C :=
  let status := { state.status with name }
  match state.configuration with
  | none => (w, { state with status := { status with reachable := false, error := b.missing } })
  | some configuration =>
      if state.handle.isSome && env.ping.isNone then
        (w, { state with status := { status with reachable := true, error := "" } })
      else
        let x := b.connect configuration env.connect (w.giveBack? state.handle)
        let status := { status with target := x.2.target, error := x.2.error }
        match x.2.handle with
        | none => (x.1, { state with handle := none, status := { status with reachable := false } })
        | some handle =>
            match env.pingNew with
            | none => (x.1, { state with
                handle := some handle, status := { status with reachable := true, error := "" } })
            | some error => (x.1.giveBack handle, { state with
                handle := none, status := { status with reachable := false, error } })

/-- `ProbeRedisConnection` and `ProbeMariaConnection`: a connection that is made to be probed. -/
def Backend.probe {C E : Type} (b : Backend C E) (name : String) (configuration : C) (env : E) (ping : Option String)
    (w : Handles) : Handles × ConnectionProbeStatus :=
  let x := b.connect configuration env w
  let status : ConnectionProbeStatus := { name, target := x.2.target, error := x.2.error }
  match x.2.handle with
  | none => (x.1, status)
  | some handle =>
      match ping with
      | none => (x.1.giveBack handle, { status with reachable := true })
      | some error => (x.1.giveBack handle, { status with error })

namespace Backend

variable {C E : Type} {b : Backend C E} {env : RefreshEnv E} {name : String} {state : ConnectionState C} {w : Handles}
  {others : List Nat}

/-- A refresh holds the connection that it has made or kept, and nothing else. -/
theorem refresh_holds (hb : b.Accounts) (h : Handles.Holds w (state.handle.toList ++ others)) :
    Handles.Holds (b.refresh env name state w).1 ((b.refresh env name state w).2.handle.toList ++ others) := by
  unfold refresh
  dsimp only
  split
  · exact h
  · rename_i configuration _
    split
    · exact h
    · have hconnect := hb configuration env.connect _ _ h.giveBack?
      split
      · rename_i hnone
        rw [hnone] at hconnect
        exact hconnect
      · rename_i handle hsome
        rw [hsome] at hconnect
        split
        · exact hconnect
        · exact hconnect.giveBack

/-- And says whether there is one. -/
theorem refresh_status (hmissing : state.configuration = none → state.handle = none) :
    (b.refresh env name state w).2.status.reachable = (b.refresh env name state w).2.handle.isSome ∧
      (b.refresh env name state w).2.status.name = name ∧
      (b.refresh env name state w).2.configuration = state.configuration := by
  unfold refresh
  dsimp only
  split
  · rename_i hnone
    rw [hmissing hnone]
    exact ⟨rfl, rfl, rfl⟩
  · split
    · rename_i hkept
      rw [Bool.and_eq_true] at hkept
      exact ⟨hkept.1.symm, rfl, rfl⟩
    · split
      · exact ⟨rfl, rfl, rfl⟩
      · split <;> exact ⟨rfl, rfl, rfl⟩

/-- A probe leaves nothing open. -/
theorem probe_holds (hb : b.Accounts) {configuration : C} {connect : E} {ping : Option String}
    (h : Handles.Holds w others) : Handles.Holds (b.probe name configuration connect ping w).1 others := by
  have hconnect := hb configuration connect w others h
  unfold probe
  dsimp only
  split
  · rename_i hnone
    rw [hnone] at hconnect
    exact hconnect
  · rename_i handle hsome
    rw [hsome] at hconnect
    split <;> exact hconnect.giveBack

end Backend

/-! ## Connecting -/

/-- `ConnectRedis` with its context, which is freed on every way out but the last. -/
def connectRedisHandle {C : Type} (H : Hiredis C) (configuration : RedisConfiguration) (env : ConnectEnv)
    (w : Handles) : Handles × ConnectResult :=
  match parseRedisEndpoint configuration with
  | .error error => (w, { error })
  | .ok endpoint =>
      let target := endpoint.host ++ ":" ++ endpoint.port.toNat.repr
      match H.redisConnectWithTimeout endpoint env.reachable with
      | none => (w, { target, error := "redisConnectWithTimeout returned null" })
      | some context =>
          if H.err context then
            (w.give.giveBack w.next,
              { target, error := if H.errstr context ≠ "" then H.errstr context else "redis connect failed" })
          else
            let authenticated :=
              if configuration.password = "" then .ok context
              else H.runCommand context env.auth "redis AUTH failed"
            match authenticated with
            | .error error => (w.give.giveBack w.next, { target, error })
            | .ok context =>
                let selected :=
                  if configuration.database = 0 then .ok context
                  else H.runCommand context env.select "redis SELECT failed"
                match selected with
                | .error error => (w.give.giveBack w.next, { target, error })
                | .ok _ => (w.give, { handle := some w.next, target })

/-- What connecting to MariaDB meets: whether `mysql_init` returns a handle, and the error of `mysql_real_connect`,
if it fails. -/
structure MariaConnectEnv where
  initialized : Bool := true
  error : Option String := none
deriving DecidableEq, Repr

/-- `ConnectMaria`. -/
def connectMaria (configuration : MariaConfiguration) (env : MariaConnectEnv) (w : Handles) :
    Handles × ConnectResult :=
  let target := configuration.host ++ ":" ++ configuration.port.toNat.repr
  if configuration.host = "" then (w, { target, error := "maria host must not be empty" })
  else if configuration.port = 0 then (w, { target, error := "maria port must be greater than 0" })
  else if !env.initialized then (w, { target, error := "mysql_init failed" })
  else match env.error with
    | some error => (w.give.giveBack w.next, { target, error })
    | none => (w.give, { handle := some w.next, target })

def redisBackend {C : Type} (H : Hiredis C) : Backend RedisConfiguration ConnectEnv where
  missing := "redis configuration is missing"
  connect := connectRedisHandle H

def mariaBackend : Backend MariaConfiguration MariaConnectEnv where
  missing := "maria configuration is missing"
  connect := connectMaria

/-- This is what `connectRedis` says, with the context accounted for. -/
theorem connectRedisHandle_eq {C : Type} (H : Hiredis C) (configuration : RedisConfiguration) (env : ConnectEnv)
    (w : Handles) :
    (connectRedisHandle H configuration env w).2.target = (H.connectRedis configuration env).target ∧
      (connectRedisHandle H configuration env w).2.error = (H.connectRedis configuration env).error ∧
      (connectRedisHandle H configuration env w).2.handle.isSome =
        (H.connectRedis configuration env).context.isSome := by
  unfold connectRedisHandle Hiredis.connectRedis
  cases parseRedisEndpoint configuration with
  | error error => exact ⟨rfl, rfl, rfl⟩
  | ok endpoint =>
      dsimp only
      cases H.redisConnectWithTimeout endpoint env.reachable with
      | none => exact ⟨rfl, rfl, rfl⟩
      | some context =>
          dsimp only
          split
          · exact ⟨rfl, rfl, rfl⟩
          · generalize (if configuration.password = "" then Except.ok context
              else H.runCommand context env.auth "redis AUTH failed") = authenticated
            cases authenticated with
            | error error => exact ⟨rfl, rfl, rfl⟩
            | ok context =>
                simp only [Except.bind]
                generalize (if configuration.database = 0 then Except.ok context
                  else H.runCommand context env.select "redis SELECT failed") = selected
                cases selected with
                | error error => exact ⟨rfl, rfl, rfl⟩
                | ok context => exact ⟨rfl, rfl, rfl⟩

theorem redisBackend_accounts {C : Type} (H : Hiredis C) : (redisBackend H).Accounts := by
  intro configuration env w others h
  have hfreed : Handles.Holds (w.give.giveBack w.next) others := h.give.giveBack
  simp only [redisBackend, connectRedisHandle]
  repeat' split
  all_goals first
    | exact h
    | exact hfreed
    | exact h.give

theorem mariaBackend_accounts : mariaBackend.Accounts := by
  intro configuration env w others h
  have hfreed : Handles.Holds (w.give.giveBack w.next) others := h.give.giveBack
  simp only [mariaBackend, connectMaria]
  repeat' split
  all_goals first
    | exact h
    | exact hfreed
    | exact h.give

/-! ## The service -/

abbrev Connections (C : Type) : Type := List (String × ConnectionState C)

/-- `connections[name]`, with the configuration of a dataset. -/
def Connections.bind {C : Type} (connections : Connections C) (name : String) (configuration : C) : Connections C :=
  let state := (Ordered.lookup name connections).getD {}
  Ordered.assign name
    { state with configuration := some configuration, status := { state.status with name } } connections

/-- Each connection is looked after, in the order of the names. -/
def Connections.refresh {C E : Type} (b : Backend C E) (env : String → RefreshEnv E) (connections : Connections C)
    (w : Handles) : Handles × Connections C :=
  Handles.walk (fun e w => ((b.refresh (env e.1) e.1 e.2 w).1, e.1, (b.refresh (env e.1) e.1 e.2 w).2)) connections w

/-- The connection is closed, and the error may say why. -/
def ConnectionState.close {C : Type} (state : ConnectionState C) (error : String) (w : Handles) :
    Handles × ConnectionState C :=
  (w.giveBack? state.handle,
    { state with handle := none, status := { state.status with reachable := false, error } })

/-- The loops of `CloseConnections`. -/
def Connections.close {C : Type} (connections : Connections C) (w : Handles) : Handles × Connections C :=
  Handles.walk (fun e w => ((e.2.close e.2.status.error w).1, e.1, (e.2.close e.2.status.error w).2)) connections w

structure StorageSnapshot where
  datasetCount : Nat
  redis : List (String × ConnectionProbeStatus)
  maria : List (String × ConnectionProbeStatus)

structure StorageConnections where
  configuration : ResolvedStorageConfiguration
  redis : Connections RedisConfiguration := []
  maria : Connections MariaConfiguration := []
  disabledMariaTargets : String → Bool := fun _ => false

/-- What the connections meet in one call. -/
structure StorageEnv where
  redis : String → RefreshEnv ConnectEnv
  maria : String → RefreshEnv MariaConnectEnv

namespace StorageConnections

def disabledError : String := "disabled by runtime command"

/-- The constructor of `StorageService`. -/
def make (configuration : ResolvedStorageConfiguration) : StorageConnections :=
  configuration.datasets.entries.foldl
    (fun s dataset => { s with
      redis := s.redis.bind dataset.2.redisName dataset.2.redis
      maria := s.maria.bind dataset.2.mariaName dataset.2.maria })
    { configuration }

/-- `RefreshMariaConnection`. -/
def refreshMariaConnection (s : StorageConnections) (env : RefreshEnv MariaConnectEnv) (name : String)
    (state : ConnectionState MariaConfiguration) (w : Handles) : Handles × ConnectionState MariaConfiguration :=
  if s.disabledMariaTargets name then
    { state with status := { state.status with name } }.close disabledError w
  else mariaBackend.refresh env name state w

/-- `RefreshConnections`. -/
def refreshConnections {C : Type} (H : Hiredis C) (env : StorageEnv) (w : Handles) (s : StorageConnections) :
    Handles × StorageConnections :=
  let redis := s.redis.refresh (redisBackend H) env.redis w
  let maria := Handles.walk (fun e w =>
    ((s.refreshMariaConnection (env.maria e.1) e.1 e.2 w).1, e.1,
      (s.refreshMariaConnection (env.maria e.1) e.1 e.2 w).2)) s.maria redis.1
  (maria.1, { s with redis := redis.2, maria := maria.2 })

/-- `CloseConnections`. -/
def closeConnections (w : Handles) (s : StorageConnections) : Handles × StorageConnections :=
  let redis := s.redis.close w
  let maria := s.maria.close redis.1
  (maria.1, { s with redis := redis.2, maria := maria.2 })

/-- `DisableMariaTarget`. -/
def disableMariaTarget (name : String) (w : Handles) (s : StorageConnections) :
    (Handles × StorageConnections) × Bool :=
  match Ordered.lookup name s.maria with
  | none => ((w, s), false)
  | some state =>
      let x := state.close disabledError w
      ((x.1, { s with
        maria := Ordered.assign name x.2 s.maria
        disabledMariaTargets := Function.update s.disabledMariaTargets name true }), true)

/-- `EnableMariaTarget`; the connection is made when it is looked after next. -/
def enableMariaTarget (name : String) (s : StorageConnections) : StorageConnections × Bool :=
  match Ordered.lookup name s.maria with
  | none => (s, false)
  | some _ =>
      ({ s with disabledMariaTargets := Function.update s.disabledMariaTargets name false },
        s.disabledMariaTargets name)

def getRedis (s : StorageConnections) (name : String) : Option Nat :=
  (Ordered.lookup name s.redis).bind ConnectionState.handle

def getMaria (s : StorageConnections) (name : String) : Option Nat :=
  match Ordered.lookup name s.maria with
  | none => none
  | some state => if s.disabledMariaTargets name then none else state.handle

def getRedisForDataset (s : StorageConnections) (name : String) : Option Nat :=
  (s.configuration.findDataset name).bind fun dataset => s.getRedis dataset.redisName

def getMariaForDataset (s : StorageConnections) (name : String) : Option Nat :=
  (s.configuration.findDataset name).bind fun dataset => s.getMaria dataset.mariaName

/-- `ProbeAll`. -/
def probeAll (s : StorageConnections) : StorageSnapshot where
  datasetCount := s.configuration.datasets.entries.length
  redis := s.redis.map fun e => (e.1, e.2.status)
  maria := s.maria.map fun e => (e.1, e.2.status)

end StorageConnections

/-- The calls that make and close connections. -/
inductive StorageOp where
  | load
  | unload
  | probeNow
  | disableMariaTarget (name : String)
  | enableMariaTarget (name : String)

/-- One call. -/
def StorageOp.exec {C : Type} (H : Hiredis C) (env : StorageEnv) (x : Handles × StorageConnections) :
    StorageOp → Handles × StorageConnections
  | load => x.2.refreshConnections H env x.1
  | unload => x.2.closeConnections x.1
  | probeNow => x.2.refreshConnections H env x.1
  | disableMariaTarget name => (x.2.disableMariaTarget name x.1).1
  | enableMariaTarget name => (x.1, (x.2.enableMariaTarget name).1)

/-- Some calls, one after the other. -/
def runStorage {C : Type} (H : Hiredis C) (configuration : ResolvedStorageConfiguration)
    (calls : List (StorageOp × StorageEnv)) : Handles × StorageConnections :=
  calls.foldl (fun x call => call.1.exec H call.2 x) ({}, .make configuration)

/-! ## What every call keeps -/

/-- What is said of a connection is so. -/
def ConnectionState.Honest {C : Type} (e : String × ConnectionState C) : Prop :=
  e.2.status.reachable = e.2.handle.isSome ∧ e.2.status.name = e.1 ∧ e.2.configuration.isSome

/-- The handle of an entry. -/
def entryHandle {C : Type} (e : String × ConnectionState C) : Option Nat := e.2.handle

/-- Every open handle is held by one connection, and a disabled target has none. -/
structure StorageKept (x : Handles × StorageConnections) : Prop where
  holds : x.1.Holds (Handles.heldBy entryHandle x.2.redis ++ Handles.heldBy entryHandle x.2.maria)
  redis : ∀ e ∈ x.2.redis, ConnectionState.Honest e
  maria : ∀ e ∈ x.2.maria, ConnectionState.Honest e
  disabled : ∀ e ∈ x.2.maria, x.2.disabledMariaTargets e.1 = true →
    e.2.handle = none ∧ e.2.status.error = StorageConnections.disabledError
  redisIncreasing : Ordered.Increasing x.2.redis
  mariaIncreasing : Ordered.Increasing x.2.maria
  known : ∀ dataset ∈ x.2.configuration.datasets.entries,
    (Ordered.lookup dataset.2.redisName x.2.redis).isSome ∧ (Ordered.lookup dataset.2.mariaName x.2.maria).isSome

section Entries

variable {C : Type} {l : Connections C} {name name' : String} {state : ConnectionState C}

/-- When an entry is replaced, the others hold what they did. -/
theorem heldBy_assign (state' : ConnectionState C) (hl : Ordered.Increasing l)
    (h : Ordered.lookup name l = some state) :
    ∃ rest, (Handles.heldBy entryHandle l).Perm (state.handle.toList ++ rest) ∧
      (Handles.heldBy entryHandle (Ordered.assign name state' l)).Perm (state'.handle.toList ++ rest) := by
  induction l with
  | nil => cases h
  | cons e l ih =>
      obtain ⟨key, value⟩ := e
      obtain ⟨hfirst, hrest⟩ := Ordered.increasing_cons.1 hl
      rw [Ordered.lookup_cons] at h
      unfold Ordered.assign
      split at h
      · rename_i heq
        subst heq
        cases h
        rw [if_neg (lt_irrefl _), if_pos rfl]
        exact ⟨Handles.heldBy entryHandle l, .refl _, .refl _⟩
      · rename_i hne
        have hlater := hfirst _ (Ordered.mem_of_lookup h)
        rw [if_neg hlater.not_gt, if_neg hne]
        obtain ⟨rest, hbefore, hafter⟩ := ih hrest h
        refine ⟨value.handle.toList ++ rest, ?_, ?_⟩
        · rw [Handles.heldBy_cons]
          exact (hbefore.append_left _).trans (List.perm_append_comm_assoc _ _ _)
        · rw [Handles.heldBy_cons]
          exact (hafter.append_left _).trans (List.perm_append_comm_assoc _ _ _)

theorem isSome_lookup_assign (h : (Ordered.lookup name l).isSome = true) :
    (Ordered.lookup name (Ordered.assign name' state l)).isSome = true := by
  by_cases heq : name = name'
  · subst heq
    rw [Ordered.lookup_assign_self]
    rfl
  · rw [Ordered.lookup_assign_of_ne heq]
    exact h

/-- The names of a map say which entries it has. -/
theorem isSome_lookup {V : Type} {l : List (String × V)} :
    (Ordered.lookup name l).isSome = true ↔ name ∈ l.map Prod.fst := by
  induction l with
  | nil => exact iff_of_false (by simp) List.not_mem_nil
  | cons e l ih =>
      rw [Ordered.lookup_cons, List.map_cons, List.mem_cons]
      split
      · rename_i heq
        exact iff_of_true rfl (.inl heq.symm)
      · rename_i hne
        rw [ih]
        exact ⟨.inr, fun h => h.resolve_left fun heq => hne heq.symm⟩

end Entries

namespace StorageConnections

/-- A service that has not been loaded has no connection yet. -/
structure Unloaded (s : StorageConnections) : Prop where
  redis : ∀ e ∈ s.redis, ConnectionState.Honest e ∧ e.2.handle = none
  maria : ∀ e ∈ s.maria, ConnectionState.Honest e ∧ e.2.handle = none
  disabled : ∀ name, s.disabledMariaTargets name = false
  redisIncreasing : Ordered.Increasing s.redis
  mariaIncreasing : Ordered.Increasing s.maria

/-- An entry that is bound to a profile has no connection. -/
theorem bind_unloaded {C : Type} {l : Connections C} {name : String} {configuration : C}
    (h : ∀ e ∈ l, ConnectionState.Honest e ∧ e.2.handle = none) :
    ∀ e ∈ l.bind name configuration, ConnectionState.Honest e ∧ e.2.handle = none := by
  intro e he
  rcases Ordered.mem_assign he with rfl | hold
  · cases hlookup : Ordered.lookup name l with
    | none => exact ⟨⟨rfl, rfl, rfl⟩, rfl⟩
    | some state =>
        obtain ⟨⟨hreachable, -, -⟩, hhandle⟩ := h _ (Ordered.mem_of_lookup hlookup)
        exact ⟨⟨hreachable, rfl, rfl⟩, hhandle⟩
  · exact h e hold

theorem make_unloaded (configuration : ResolvedStorageConfiguration) : (make configuration).Unloaded ∧
    (make configuration).configuration = configuration ∧ ∀ dataset ∈ configuration.datasets.entries,
      (Ordered.lookup dataset.2.redisName (make configuration).redis).isSome = true ∧
      (Ordered.lookup dataset.2.mariaName (make configuration).maria).isSome = true := by
  have hstart : ({ configuration } : StorageConnections).Unloaded :=
    ⟨by simp, by simp, fun _ => rfl, Ordered.increasing_nil, Ordered.increasing_nil⟩
  unfold make
  generalize configuration.datasets.entries = datasets
  -- what is bound stays bound while the other datasets are gone through
  suffices hfold : ∀ s : StorageConnections, s.Unloaded → ∀ s', s' = datasets.foldl
      (fun s dataset => { s with
        redis := s.redis.bind dataset.2.redisName dataset.2.redis
        maria := s.maria.bind dataset.2.mariaName dataset.2.maria }) s →
      s'.Unloaded ∧ s'.configuration = s.configuration ∧
      (∀ name, (Ordered.lookup name s.redis).isSome = true → (Ordered.lookup name s'.redis).isSome = true) ∧
      (∀ name, (Ordered.lookup name s.maria).isSome = true → (Ordered.lookup name s'.maria).isSome = true) ∧
      ∀ dataset ∈ datasets, (Ordered.lookup dataset.2.redisName s'.redis).isSome = true ∧
        (Ordered.lookup dataset.2.mariaName s'.maria).isSome = true by
    obtain ⟨hunloaded, hsame, -, -, hknown⟩ := hfold _ hstart _ rfl
    exact ⟨hunloaded, hsame, hknown⟩
  induction datasets with
  | nil =>
      rintro s hs s' rfl
      exact ⟨hs, rfl, fun _ h => h, fun _ h => h, by simp⟩
  | cons dataset datasets ih =>
      rintro s hs s' rfl
      have hnext : ({ s with
          redis := s.redis.bind dataset.2.redisName dataset.2.redis
          maria := s.maria.bind dataset.2.mariaName dataset.2.maria } : StorageConnections).Unloaded :=
        ⟨bind_unloaded hs.redis, bind_unloaded hs.maria, hs.disabled, hs.redisIncreasing.assign,
          hs.mariaIncreasing.assign⟩
      obtain ⟨hunloaded, hsame, hredis, hmaria, hknown⟩ := ih _ hnext _ rfl
      refine ⟨hunloaded, hsame, fun name h => hredis name (isSome_lookup_assign h),
        fun name h => hmaria name (isSome_lookup_assign h), fun d hd => ?_⟩
      rcases List.mem_cons.mp hd with rfl | hlater
      · refine ⟨hredis _ ?_, hmaria _ ?_⟩
        · exact congrArg Option.isSome Ordered.lookup_assign_self
        · exact congrArg Option.isSome Ordered.lookup_assign_self
      · exact hknown d hlater

end StorageConnections

namespace StorageKept

variable {C : Type} {H : Hiredis C} {env : StorageEnv} {w : Handles} {s : StorageConnections}

theorem start (configuration : ResolvedStorageConfiguration) : StorageKept ({}, .make configuration) := by
  obtain ⟨hunloaded, hsame, hknown⟩ := StorageConnections.make_unloaded configuration
  have hnothing : ∀ {C : Type} {l : Connections C}, (∀ e ∈ l, ConnectionState.Honest e ∧ e.2.handle = none) →
      Handles.heldBy entryHandle l = [] := by
    intro C l hl
    refine List.flatMap_eq_nil_iff.mpr fun e he => ?_
    rw [show entryHandle e = none from (hl e he).2]
    rfl
  refine ⟨?_, fun e he => (hunloaded.redis e he).1, fun e he => (hunloaded.maria e he).1, fun e _ hdisabled => ?_,
    hunloaded.redisIncreasing, hunloaded.mariaIncreasing, ?_⟩
  · rw [hnothing hunloaded.redis, hnothing hunloaded.maria]
    exact Handles.Holds.start
  · rw [hunloaded.disabled] at hdisabled
    cases hdisabled
  · rw [hsame]
    exact hknown

/-- Each connection of the service is gone through, first those of Redis. -/
theorem walks
    {f : String × ConnectionState RedisConfiguration → Handles →
      Handles × (String × ConnectionState RedisConfiguration)}
    {g : String × ConnectionState MariaConfiguration → Handles →
      Handles × (String × ConnectionState MariaConfiguration)}
    (h : StorageKept (w, s))
    (hf : ∀ e w others, Handles.Holds w ((entryHandle e).toList ++ others) →
      Handles.Holds (f e w).1 ((entryHandle (f e w).2).toList ++ others))
    (hg : ∀ e w others, Handles.Holds w ((entryHandle e).toList ++ others) →
      Handles.Holds (g e w).1 ((entryHandle (g e w).2).toList ++ others))
    (hfname : ∀ e w, (f e w).2.1 = e.1) (hgname : ∀ e w, (g e w).2.1 = e.1)
    (hfhonest : ∀ e w, ConnectionState.Honest e → ConnectionState.Honest (f e w).2)
    (hghonest : ∀ e w, ConnectionState.Honest e → ConnectionState.Honest (g e w).2)
    (hdisabled : ∀ e w, s.disabledMariaTargets e.1 = true → e.2.handle = none ∧
      e.2.status.error = StorageConnections.disabledError → (g e w).2.2.handle = none ∧
      (g e w).2.2.status.error = StorageConnections.disabledError) :
    StorageKept ((Handles.walk g s.maria (Handles.walk f s.redis w).1).1, { s with
      redis := (Handles.walk f s.redis w).2
      maria := (Handles.walk g s.maria (Handles.walk f s.redis w).1).2 }) := by
  have hredisNames : (Handles.walk f s.redis w).2.map Prod.fst = s.redis.map Prod.fst :=
    Handles.map_walk hfname s.redis w
  have hmariaNames : ∀ w, (Handles.walk g s.maria w).2.map Prod.fst = s.maria.map Prod.fst :=
    Handles.map_walk hgname s.maria
  refine ⟨?_, fun e he => ?_, fun e he => ?_, fun e he hoff => ?_, ?_, ?_, fun dataset hdataset => ?_⟩
  · have hfirst := Handles.Holds.walk hf s.redis h.holds
    have hsecond := Handles.Holds.walk hg s.maria (hfirst.perm List.perm_append_comm)
    exact hsecond.perm List.perm_append_comm
  · obtain ⟨e', he', w', rfl⟩ := Handles.mem_walk he
    exact hfhonest e' w' (h.redis e' he')
  · obtain ⟨e', he', w', rfl⟩ := Handles.mem_walk he
    exact hghonest e' w' (h.maria e' he')
  · obtain ⟨e', he', w', rfl⟩ := Handles.mem_walk he
    have hoff : s.disabledMariaTargets e'.1 = true := by
      rw [← hgname e' w']
      exact hoff
    exact hdisabled e' w' hoff (h.disabled e' he' hoff)
  · show ((Handles.walk f s.redis w).2.map Prod.fst).Pairwise (· < ·)
    rw [hredisNames]
    exact h.redisIncreasing
  · show ((Handles.walk g s.maria _).2.map Prod.fst).Pairwise (· < ·)
    rw [hmariaNames]
    exact h.mariaIncreasing
  · obtain ⟨hredis, hmaria⟩ := h.known dataset hdataset
    rw [isSome_lookup] at hredis hmaria
    rw [isSome_lookup, isSome_lookup]
    refine ⟨?_, ?_⟩
    · show _ ∈ (Handles.walk f s.redis w).2.map Prod.fst
      rw [hredisNames]
      exact hredis
    · show _ ∈ (Handles.walk g s.maria _).2.map Prod.fst
      rw [hmariaNames]
      exact hmaria

theorem close_holds {C : Type} {state : ConnectionState C} (error : String) {w : Handles} {others : List Nat}
    (h : Handles.Holds w (state.handle.toList ++ others)) : Handles.Holds (state.close error w).1 others := h.giveBack?

theorem refreshConnections (h : StorageKept (w, s)) : StorageKept (s.refreshConnections H env w) := by
  have hmissing : ∀ {C : Type} {e : String × ConnectionState C}, ConnectionState.Honest e →
      e.2.configuration = none → e.2.handle = none := by
    intro C e he hnone
    have hsome := he.2.2
    rw [hnone] at hsome
    cases hsome
  refine walks h (fun e w others he => ?_) (fun e w others he => ?_) (fun _ _ => rfl) (fun _ _ => rfl)
    (fun e w he => ?_) (fun e w he => ?_) fun e w hoff _ => ?_
  · exact Backend.refresh_holds (redisBackend_accounts H) he
  · show Handles.Holds (s.refreshMariaConnection _ _ _ w).1
      ((s.refreshMariaConnection _ _ _ w).2.handle.toList ++ others)
    unfold StorageConnections.refreshMariaConnection
    split
    · exact close_holds _ he
    · exact Backend.refresh_holds mariaBackend_accounts he
  · obtain ⟨hreachable, hname, hconfiguration⟩ := Backend.refresh_status (hmissing he)
    exact ⟨hreachable, hname, hconfiguration ▸ he.2.2⟩
  · show ConnectionState.Honest (e.1, (s.refreshMariaConnection (env.maria e.1) e.1 e.2 w).2)
    unfold StorageConnections.refreshMariaConnection
    split
    · exact ⟨rfl, rfl, he.2.2⟩
    · obtain ⟨hreachable, hname, hconfiguration⟩ := Backend.refresh_status (hmissing he)
      exact ⟨hreachable, hname, hconfiguration ▸ he.2.2⟩
  · show (s.refreshMariaConnection (env.maria e.1) e.1 e.2 w).2.handle = none ∧
      (s.refreshMariaConnection (env.maria e.1) e.1 e.2 w).2.status.error = _
    rw [StorageConnections.refreshMariaConnection, if_pos hoff]
    exact ⟨rfl, rfl⟩

theorem closeConnections (h : StorageKept (w, s)) : StorageKept (s.closeConnections w) :=
  walks h (fun e _ _ he => close_holds e.2.status.error he)
    (fun e _ _ he => close_holds e.2.status.error he) (fun _ _ => rfl) (fun _ _ => rfl)
    (fun _ _ he => ⟨rfl, he.2.1, he.2.2⟩) (fun _ _ he => ⟨rfl, he.2.1, he.2.2⟩) fun _ _ _ hoff => ⟨rfl, hoff.2⟩

theorem disableMariaTarget (h : StorageKept (w, s)) (name : String) :
    StorageKept (s.disableMariaTarget name w).1 := by
  unfold StorageConnections.disableMariaTarget
  split
  · exact h
  · rename_i state hlookup
    have hmem := Ordered.mem_of_lookup hlookup
    obtain ⟨rest, hbefore, hafter⟩ := heldBy_assign (state.close StorageConnections.disabledError w).2
      h.mariaIncreasing hlookup
    refine ⟨?_, h.redis, fun e he => ?_, fun e he hoff => ?_, h.redisIncreasing, h.mariaIncreasing.assign,
      fun dataset hdataset => ?_⟩
    · have hheld : Handles.Holds w (state.handle.toList ++ (rest ++ Handles.heldBy entryHandle s.redis)) := by
        refine h.holds.perm (List.perm_append_comm.trans ?_)
        rw [← List.append_assoc]
        exact hbefore.append_right _
      exact hheld.giveBack?.perm ((hafter.symm.append_right _).trans List.perm_append_comm)
    · rcases Ordered.mem_assign he with rfl | hold
      · exact ⟨rfl, (h.maria _ hmem).2.1, (h.maria _ hmem).2.2⟩
      · exact h.maria e hold
    · rcases Ordered.mem_assign he with rfl | hold
      · exact ⟨rfl, rfl⟩
      · by_cases heq : e.1 = name
        · -- the entry of this name is the new one
          have hnew : Ordered.lookup e.1 (Ordered.assign name (state.close StorageConnections.disabledError w).2 s.maria) =
              some e.2 := Ordered.lookup_of_mem h.mariaIncreasing.assign he
          rw [heq, Ordered.lookup_assign_self] at hnew
          rw [← Option.some.inj hnew]
          exact ⟨rfl, rfl⟩
        · refine h.disabled e hold ?_
          rw [← hoff]
          exact (Function.update_of_ne heq _ _).symm
    · obtain ⟨hredis, hmaria⟩ := h.known dataset hdataset
      exact ⟨hredis, isSome_lookup_assign hmaria⟩

theorem enableMariaTarget (h : StorageKept (w, s)) (name : String) :
    StorageKept (w, (s.enableMariaTarget name).1) := by
  unfold StorageConnections.enableMariaTarget
  split
  · exact h
  · refine ⟨h.holds, h.redis, h.maria, fun e he hoff => h.disabled e he ?_, h.redisIncreasing, h.mariaIncreasing, h.known⟩
    by_cases heq : e.1 = name
    · have hon : Function.update s.disabledMariaTargets name false e.1 = true := hoff
      rw [heq, Function.update_self] at hon
      cases hon
    · rw [← hoff]
      exact (Function.update_of_ne heq _ _).symm

/-- One call. -/
theorem exec {x : Handles × StorageConnections} (h : StorageKept x) (op : StorageOp) : StorageKept (op.exec H env x) := by
  cases op with
  | load => exact h.refreshConnections
  | unload => exact h.closeConnections
  | probeNow => exact h.refreshConnections
  | disableMariaTarget name => exact h.disableMariaTarget name
  | enableMariaTarget name => exact h.enableMariaTarget name

/-- And so every reachable service. -/
theorem run (configuration : ResolvedStorageConfiguration) (calls : List (StorageOp × StorageEnv)) :
    StorageKept (runStorage H configuration calls) := by
  unfold runStorage
  generalize hx : ((({}, StorageConnections.make configuration)) : Handles × StorageConnections) = x
  have hkept : StorageKept x := hx ▸ start configuration
  clear hx
  induction calls generalizing x with
  | nil => exact hkept
  | cons call calls ih => exact ih _ (hkept.exec call.1)

end StorageKept

namespace StorageConnections

/-- The handles that the service holds. -/
def handles (s : StorageConnections) : List Nat :=
  Handles.heldBy entryHandle s.redis ++ Handles.heldBy entryHandle s.maria

theorem mem_heldBy {C : Type} {l : Connections C} {name : String} {n : Nat}
    (h : (Ordered.lookup name l).bind ConnectionState.handle = some n) : n ∈ Handles.heldBy entryHandle l := by
  obtain ⟨state, hlookup, hhandle⟩ := Option.bind_eq_some_iff.mp h
  refine List.mem_flatMap.mpr ⟨(name, state), Ordered.mem_of_lookup hlookup, ?_⟩
  rw [show entryHandle (name, state) = some n from hhandle]
  exact List.mem_singleton.mpr rfl

/-- A target that is not disabled is given out as it is. -/
theorem getMaria_eq {s : StorageConnections} {name : String} {n : Nat} (h : s.getMaria name = some n) :
    (Ordered.lookup name s.maria).bind ConnectionState.handle = some n := by
  unfold getMaria at h
  split at h
  · cases h
  · rename_i state hlookup
    split at h
    · cases h
    · rw [hlookup]
      exact h

theorem lookup_status {C : Type} (l : Connections C) (name : String) :
    Ordered.lookup name (l.map fun e => (e.1, e.2.status)) = (Ordered.lookup name l).map ConnectionState.status := by
  induction l with
  | nil => rfl
  | cons e l ih =>
      rw [List.map_cons, Ordered.lookup_cons, Ordered.lookup_cons]
      split
      · rfl
      · exact ih

end StorageConnections

theorem runStorage_configuration {C : Type} (H : Hiredis C) (configuration : ResolvedStorageConfiguration)
    (calls : List (StorageOp × StorageEnv)) : (runStorage H configuration calls).2.configuration = configuration := by
  unfold runStorage
  generalize hx : ((({}, StorageConnections.make configuration)) : Handles × StorageConnections) = x
  have hsame : x.2.configuration = configuration := hx ▸ (StorageConnections.make_unloaded configuration).2.1
  clear hx
  induction calls generalizing x with
  | nil => exact hsame
  | cons call calls ih =>
      refine ih _ (Eq.trans ?_ hsame)
      obtain ⟨op, env⟩ := call
      cases op with
      | load | unload | probeNow => rfl
      | disableMariaTarget name =>
          show (x.2.disableMariaTarget name x.1).1.2.configuration = _
          unfold StorageConnections.disableMariaTarget
          split <;> rfl
      | enableMariaTarget name =>
          show (x.2.enableMariaTarget name).1.configuration = _
          unfold StorageConnections.enableMariaTarget
          split <;> rfl

/-- **The connections of the service**, after any calls, whatever connecting and pinging have met: the open
connections are those that the service holds, each once, and nothing was closed that was not open; what a dataset
gets is an open connection, and it gets one exactly when the snapshot says that its profile is reachable; a target
that has been disabled has no connection; and nothing is left open by `Unload`. -/
theorem connections_accounted {C : Type} (H : Hiredis C) (configuration : ResolvedStorageConfiguration)
    (calls : List (StorageOp × StorageEnv)) :
    (runStorage H configuration calls).1.live.Perm (runStorage H configuration calls).2.handles ∧
    (runStorage H configuration calls).1.live.Nodup ∧
    (∀ r ∈ (runStorage H configuration calls).1.returned, r.2 = true) ∧
    (∀ name dataset, configuration.findDataset name = some dataset →
      ((runStorage H configuration calls).2.getRedisForDataset name).isSome =
        (Ordered.lookup dataset.redisName (runStorage H configuration calls).2.probeAll.redis).any (·.reachable) ∧
      ((runStorage H configuration calls).2.getMariaForDataset name).isSome =
        (Ordered.lookup dataset.mariaName (runStorage H configuration calls).2.probeAll.maria).any (·.reachable)) ∧
    (∀ name handle, (runStorage H configuration calls).2.getRedisForDataset name = some handle ∨
      (runStorage H configuration calls).2.getMariaForDataset name = some handle →
      handle ∈ (runStorage H configuration calls).1.live) ∧
    (∀ name state, Ordered.lookup name (runStorage H configuration calls).2.maria = some state →
      (runStorage H configuration calls).2.disabledMariaTargets name = true → state.handle = none) ∧
    ((runStorage H configuration calls).2.closeConnections (runStorage H configuration calls).1).1.live = [] := by
  have hkept := StorageKept.run (H := H) configuration calls
  have hsame := runStorage_configuration H configuration calls
  generalize runStorage H configuration calls = x at hkept hsame
  obtain ⟨w, s⟩ := x
  refine ⟨hkept.holds.live, hkept.holds.nodup, hkept.holds.returned, fun name dataset hdataset => ⟨?_, ?_⟩,
    fun name handle hget => ?_, fun name state hlookup hoff => (hkept.disabled _ (Ordered.mem_of_lookup hlookup) hoff).1, ?_⟩
  · rw [StorageConnections.getRedisForDataset, show s.configuration = configuration from hsame, hdataset]
    show (s.getRedis dataset.redisName).isSome = (Ordered.lookup _ (s.redis.map _)).any _
    rw [StorageConnections.lookup_status, StorageConnections.getRedis]
    cases hlookup : Ordered.lookup dataset.redisName s.redis with
    | none => rfl
    | some state => exact (hkept.redis _ (Ordered.mem_of_lookup hlookup)).1.symm
  · rw [StorageConnections.getMariaForDataset, show s.configuration = configuration from hsame, hdataset]
    show (s.getMaria dataset.mariaName).isSome = (Ordered.lookup _ (s.maria.map _)).any _
    rw [StorageConnections.lookup_status, StorageConnections.getMaria]
    cases hlookup : Ordered.lookup dataset.mariaName s.maria with
    | none => rfl
    | some state =>
        have hmem := Ordered.mem_of_lookup hlookup
        have hreachable : state.status.reachable = state.handle.isSome := (hkept.maria _ hmem).1
        show (if s.disabledMariaTargets dataset.mariaName then none else state.handle).isSome = state.status.reachable
        split
        · rename_i hoff
          have hnone : state.handle = none := (hkept.disabled _ hmem hoff).1
          rw [hreachable, hnone]
        · exact hreachable.symm
  · refine hkept.holds.mem ?_
    rcases hget with hredis | hmaria
    · obtain ⟨dataset, -, hget⟩ := Option.bind_eq_some_iff.mp hredis
      exact List.mem_append_left _ (StorageConnections.mem_heldBy hget)
    · obtain ⟨dataset, -, hget⟩ := Option.bind_eq_some_iff.mp hmaria
      refine List.mem_append_right _ (StorageConnections.mem_heldBy (StorageConnections.getMaria_eq hget))
  · have hclosed := hkept.closeConnections.holds.live
    have hnothing : ∀ {C : Type} (l : Connections C) (w : Handles), Handles.heldBy entryHandle (l.close w).2 = [] := by
      intro C l w
      refine List.flatMap_eq_nil_iff.mpr fun e he => ?_
      obtain ⟨e', -, w', rfl⟩ := Handles.mem_walk he
      rfl
    rw [show (s.closeConnections w).2.redis = (s.redis.close w).2 from rfl,
      show (s.closeConnections w).2.maria = (s.maria.close (s.redis.close w).1).2 from rfl, hnothing, hnothing] at hclosed
    exact hclosed.eq_nil

end SomeServer
