/-
# SomeServer.Loader.Application — `ApplicationBase`: the lifecycle of the services

An application has a list of services, each with the four lifecycle stages, and hooks of its own. A stage
of a service or a hook either returns or throws; which of them throw, and what, is the input. A stage that
neither returns nor throws is not modelled: with it `Loader::Initialize` does not return.

The functions run in `EStateM`, where a throw keeps the state: it is the C++ `try`. Every call of a stage is
written to the log before it returns or throws. Each function has one lemma that says what it adds to the
log and how it ends.
-/
import Mathlib.Data.List.Basic
import Mathlib.Data.List.Nodup

namespace SomeServer

namespace Loader

/-! ## The application -/

inductive Stage where
  | load
  | start
  | stop
  | unload
deriving DecidableEq, Repr

/-- What is thrown: a `std::exception` with its text, or something else. -/
inductive Thrown where
  | exception (what : String)
  | unknown
deriving DecidableEq, Repr

/-- A service, and what each of its stages throws. -/
structure Service where
  name : String
  batch : Int := 0
  throws : Stage → Option Thrown := fun _ => none

/-- An application: what its hooks throw, and the services that `RegisterServices` adds before it returns or
throws. `configures` says whether `Configure` accepts the configuration. -/
structure Application where
  name : String := "app"
  configures : Bool := true
  services : List Service := []
  registerServices : Option Thrown := none
  registerRuntimeCommands : Option Thrown := none
  /-- `OnLoad`, `OnStart`, `OnStop` and `OnUnload`. -/
  hooks : Stage → Option Thrown := fun _ => none

/-- `AddService`: what is not there and what has no name is refused. -/
def addService (services : List Service) : Option Service → Except Thrown (List Service)
  | none => .error (.exception "service must not be null")
  | some service =>
      if service.name = "" then .error (.exception "service name must not be empty")
      else .ok (services ++ [service])

/-- A `RegisterServices` that adds one service after the other: what it has added, and what it throws. -/
def addServices : (services : List Service) → List (Option Service) → List Service × Option Thrown
  | services, [] => (services, none)
  | services, candidate :: rest =>
      match addService services candidate with
      | .ok services => addServices services rest
      | .error e => (services, some e)

/-- An application with such a `RegisterServices`. -/
def Application.adding (app : Application) (candidates : List (Option Service)) : Application :=
  { app with
    services := (addServices [] candidates).1
    registerServices := (addServices [] candidates).2 }

theorem addService_ok {services services' : List Service} {candidate : Option Service}
    (h : addService services candidate = .ok services') :
    ∃ service, candidate = some service ∧ service.name ≠ "" ∧ services' = services ++ [service] := by
  cases candidate with
  | none => cases h
  | some service =>
      simp only [addService] at h
      split at h
      · cases h
      · rename_i hname
        cases h
        exact ⟨service, rfl, hname, rfl⟩

/-- Every service that was added has a name. -/
theorem addServices_named {services : List Service} {candidates : List (Option Service)}
    (h : ∀ service ∈ services, service.name ≠ "") :
    ∀ service ∈ (addServices services candidates).1, service.name ≠ "" := by
  induction candidates generalizing services with
  | nil => exact h
  | cons candidate rest ih =>
      simp only [addServices]
      split
      · rename_i services' hadded
        obtain ⟨service, -, hname, rfl⟩ := addService_ok hadded
        refine ih fun other hother => ?_
        rcases List.mem_append.mp hother with hold | hnew
        · exact h other hold
        · rw [List.mem_singleton.mp hnew]
          exact hname
      · exact h

/-- `RegisterServices` returns when every service is there and has a name, and has added all of them in
their order then. -/
theorem addServices_returns {services : List Service} {candidates : List (Option Service)} :
    (addServices services candidates).2 = none ↔
      ∃ added, candidates = added.map some ∧ (∀ service ∈ added, service.name ≠ "") ∧
        (addServices services candidates).1 = services ++ added := by
  induction candidates generalizing services with
  | nil => exact ⟨fun _ => ⟨[], rfl, by simp, by simp [addServices]⟩, fun _ => rfl⟩
  | cons candidate rest ih =>
      cases hadded : addService services candidate with
      | ok services' =>
          obtain ⟨service, rfl, hname, rfl⟩ := addService_ok hadded
          simp only [addServices, hadded]
          rw [ih]
          constructor
          · rintro ⟨added, rfl, hnamed, hall⟩
            refine ⟨service :: added, rfl, ?_, by rw [hall]; simp⟩
            simpa using ⟨hname, hnamed⟩
          · rintro ⟨added, hrest, hnamed, hall⟩
            cases added with
            | nil => cases hrest
            | cons first added =>
                simp only [List.map_cons, List.cons.injEq, Option.some.injEq] at hrest
                obtain ⟨rfl, rfl⟩ := hrest
                exact ⟨added, rfl, fun other hother => hnamed other (List.mem_cons_of_mem _ hother),
                  by rw [hall]; simp⟩
      | error e =>
          simp only [addServices, hadded, reduceCtorEq, false_iff]
          rintro ⟨added, hall, hnamed, -⟩
          cases added with
          | nil => cases hall
          | cons first added =>
              simp only [List.map_cons, List.cons.injEq] at hall
              obtain ⟨rfl, -⟩ := hall
              rw [addService, if_neg (hnamed first List.mem_cons_self)] at hadded
              cases hadded

/-- One call of a stage of a service. -/
structure Invocation where
  stage : Stage
  service : String
  returned : Bool
deriving DecidableEq, Repr

/-- The members of `ApplicationBase`, and the log. -/
structure ApplicationState where
  servicesInOrder : List Service := []
  loadedServices : List Service := []
  startedServices : List Service := []
  servicesRegistered : Bool := false
  runtimeCommandsRegistered : Bool := false
  log : List Invocation := []

abbrev Lifecycle (α : Type) : Type := EStateM Thrown ApplicationState α

/-- Throws, if there is something to throw. -/
def raise : Option Thrown → Lifecycle Unit
  | none => pure ()
  | some e => throw e

/-- The record of a call. -/
def Service.invocation (stage : Stage) (service : Service) : Invocation :=
  ⟨stage, service.name, (service.throws stage).isNone⟩

/-- `(service.*stage)().Wait()`. -/
def invoke (stage : Stage) (service : Service) : Lifecycle Unit := do
  modify fun s => { s with log := s.log ++ [service.invocation stage] }
  raise (service.throws stage)

/-! ## Loops -/

/-- `CaptureFailure`: the first error is kept. -/
def captureFailure (error : Option Thrown) (operation : Lifecycle Unit) : Lifecycle (Option Thrown) :=
  tryCatch (do operation; return error) fun e => return error.or (some e)

/-- The loop of `Rollback`. -/
def captureAll (stage : Stage) : (error : Option Thrown) → List Service → Lifecycle (Option Thrown)
  | error, [] => return error
  | error, service :: rest => do
      let error ← captureFailure error (invoke stage service)
      captureAll stage error rest

/-- `Rollback`. -/
def rollback (services : List Service) (stage : Stage) : Lifecycle Unit := do
  let rollbackError ← captureAll stage none services.reverse
  raise rollbackError

/-- The rest of the services, behind the batch that the first of them begins. -/
def nextBatch (batch : Int) (services : List Service) : List Service :=
  services.dropWhile fun service => service.batch = batch

theorem nextBatch_length (batch : Int) (services : List Service) :
    (nextBatch batch services).length ≤ services.length :=
  (List.dropWhile_suffix _).length_le

/-- `RunForwardBatches`. -/
def runForwardBatches (operation : Service → Lifecycle Unit) (onSuccess : Service → Lifecycle Unit) :
    List Service → Lifecycle Unit
  | [] => pure ()
  | service :: rest => do
      (service :: rest.takeWhile fun other => other.batch = service.batch).forM fun current => do
        operation current
        onSuccess current
      runForwardBatches operation onSuccess (nextBatch service.batch rest)
termination_by services => services.length
decreasing_by exact Nat.lt_succ_of_le (nextBatch_length _ _)

/-- `RunReverseBatches` with the operation that both its callers give it, on the services from the last to
the first. -/
def captureBatches (stage : Stage) : (error : Option Thrown) → List Service → Lifecycle (Option Thrown)
  | error, [] => return error
  | error, service :: rest => do
      let error ← captureAll stage error (service :: rest.takeWhile fun other => other.batch = service.batch)
      captureBatches stage error (nextBatch service.batch rest)
termination_by _ services => services.length
decreasing_by exact Nat.lt_succ_of_le (nextBatch_length _ _)

/-- `RunReverseBatches`. -/
def runReverseBatches (stage : Stage) (error : Option Thrown) (services : List Service) :
    Lifecycle (Option Thrown) :=
  captureBatches stage error services.reverse

/-! ## The stages -/

/-- The loop of `ValidateServices`: the first name that is there already, if there is one. -/
def duplicateName : (names : List String) → List Service → Option String
  | _, [] => none
  | names, service :: rest =>
      if service.name ∈ names then some service.name else duplicateName (service.name :: names) rest

/-- `EnsureServicesRegistered`. -/
def ensureServicesRegistered (app : Application) : Lifecycle Unit := do
  if (← get).servicesRegistered then return
  raise app.registerServices
  raise ((duplicateName [] app.services).map fun name => .exception ("duplicate service name: " ++ name))
  modify fun s =>
    { s with
      servicesInOrder := app.services.mergeSort fun a b => a.batch ≤ b.batch
      servicesRegistered := true }

/-- `EnsureRuntimeCommandsRegistered`, which says whose commands could not be registered. -/
def ensureRuntimeCommandsRegistered (app : Application) : Lifecycle Unit := do
  if (← get).runtimeCommandsRegistered then return
  match app.registerRuntimeCommands with
  | none => pure ()
  | some (.exception what) => throw (.exception
      ("failed to register runtime commands for application '" ++ app.name ++ "': " ++ what))
  | some .unknown => throw (.exception
      ("failed to register runtime commands for application '" ++ app.name ++ "'"))
  modify fun s => { s with runtimeCommandsRegistered := true }

/-- `ApplicationBase::Load`. -/
def load (app : Application) : Lifecycle Unit := do
  ensureServicesRegistered app
  ensureRuntimeCommandsRegistered app
  raise (app.hooks .load)
  modify fun s => { s with loadedServices := [] }
  tryCatch
    (do runForwardBatches (invoke .load)
          (fun service => modify fun s => { s with loadedServices := s.loadedServices ++ [service] })
          (← get).servicesInOrder)
    fun e => do
      rollback (← get).loadedServices .unload
      modify fun s => { s with loadedServices := [] }
      throw e

/-- `ApplicationBase::Start`. -/
def start (app : Application) : Lifecycle Unit := do
  raise (app.hooks .start)
  modify fun s => { s with startedServices := [] }
  tryCatch
    (do runForwardBatches (invoke .start)
          (fun service => modify fun s => { s with startedServices := s.startedServices ++ [service] })
          (← get).servicesInOrder)
    fun e => do
      rollback (← get).startedServices .stop
      modify fun s => { s with startedServices := [] }
      throw e

/-- `ApplicationBase::Stop`. -/
def stop (app : Application) : Lifecycle Unit := do
  let firstError ← runReverseBatches .stop none (← get).startedServices
  modify fun s => { s with startedServices := [] }
  let firstError ← captureFailure firstError (raise (app.hooks .stop))
  raise firstError

/-- `ApplicationBase::Unload`. -/
def unload (app : Application) : Lifecycle Unit := do
  let firstError ← runReverseBatches .unload none (← get).loadedServices
  modify fun s => { s with loadedServices := [] }
  let firstError ← captureFailure firstError (raise (app.hooks .unload))
  raise firstError

/-! ## What the loops come to -/

/-- How a computation ends that has something to throw, or nothing. -/
def finish (error : Option Thrown) (s : ApplicationState) : EStateM.Result Thrown ApplicationState Unit :=
  match error with
  | none => .ok () s
  | some e => .error e s

@[simp] theorem run_raise (error : Option Thrown) (s : ApplicationState) :
    (raise error).run s = finish error s := by
  cases error <;> rfl

@[simp] theorem run_update (f : ApplicationState → ApplicationState) (s : ApplicationState) :
    EStateM.run (modify f : Lifecycle PUnit) s = .ok ⟨⟩ (f s) := rfl

@[simp] theorem finish_none (s : ApplicationState) : finish none s = .ok () s := rfl

@[simp] theorem finish_some (e : Thrown) (s : ApplicationState) : finish (some e) s = .error e s := rfl

theorem run_tryCatch {α : Type} (x : Lifecycle α) (handle : Thrown → Lifecycle α) (s : ApplicationState) :
    EStateM.run (tryCatch x handle) s = match x.run s with
      | .ok a s' => .ok a s'
      | .error e s' => (handle e).run s' := by
  show EStateM.tryCatch x handle s = _
  unfold EStateM.tryCatch EStateM.run
  cases x s <;> rfl

/-- Something is written to the log. -/
def ApplicationState.write (s : ApplicationState) (invocations : List Invocation) : ApplicationState :=
  { s with log := s.log ++ invocations }

@[simp] theorem ApplicationState.write_write (s : ApplicationState) (before after : List Invocation) :
    (s.write before).write after = s.write (before ++ after) := by
  simp [write]

@[simp] theorem ApplicationState.write_nil (s : ApplicationState) : s.write [] = s := by
  simp [write]

theorem run_invoke (stage : Stage) (service : Service) (s : ApplicationState) :
    (invoke stage service).run s = finish (service.throws stage) (s.write [service.invocation stage]) :=
  run_raise _ _

/-- The first thing that a stage throws. -/
def firstThrown (stage : Stage) (services : List Service) : Option Thrown :=
  services.findSome? fun service => service.throws stage

theorem run_captureFailure (error thrown : Option Thrown) (operation : Lifecycle Unit)
    {s s' : ApplicationState} (h : operation.run s = finish thrown s') :
    (captureFailure error operation).run s = .ok (error.or thrown) s' := by
  unfold captureFailure
  rw [run_tryCatch, EStateM.run_bind, h]
  cases thrown with
  | none => cases error <;> rfl
  | some e => rfl

theorem run_captureAll (stage : Stage) (services : List Service) :
    ∀ (error : Option Thrown) (s : ApplicationState), (captureAll stage error services).run s =
      .ok (error.or (firstThrown stage services)) (s.write (services.map (·.invocation stage))) := by
  induction services with
  | nil =>
      intro error s
      simp [captureAll, firstThrown]
  | cons service rest ih =>
      intro error s
      unfold captureAll
      rw [EStateM.run_bind, run_captureFailure error _ _ (run_invoke stage service s)]
      show (captureAll stage _ rest).run _ = _
      rw [ih]
      simp only [firstThrown, List.findSome?_cons, ApplicationState.write_write, List.map_cons]
      cases service.throws stage <;> cases error <;> rfl

theorem takeWhile_append_nextBatch (batch : Int) (services : List Service) :
    services.takeWhile (fun service => service.batch = batch) ++ nextBatch batch services = services :=
  List.takeWhile_append_dropWhile

theorem captureAll_append (stage : Stage) (before after : List Service) (error : Option Thrown) :
    captureAll stage error (before ++ after) = captureAll stage error before >>= fun error =>
      captureAll stage error after := by
  funext s
  show EStateM.run _ s = EStateM.run _ s
  rw [EStateM.run_bind, run_captureAll, run_captureAll]
  show _ = (captureAll stage _ after).run _
  rw [run_captureAll]
  simp [firstThrown, List.findSome?_append, Option.or_assoc]

/-- Walking the batches backwards is walking the services backwards. -/
theorem captureBatches_eq (stage : Stage) : ∀ (services : List Service) (error : Option Thrown),
    captureBatches stage error services = captureAll stage error services
  | [], error => by rw [captureBatches, captureAll]
  | service :: rest, error => by
      have hnext := captureBatches_eq stage (nextBatch service.batch rest)
      have happend := captureAll_append stage
        (service :: rest.takeWhile fun other => other.batch = service.batch)
        (nextBatch service.batch rest) error
      rw [List.cons_append, takeWhile_append_nextBatch] at happend
      rw [captureBatches, happend]
      exact congrArg _ (funext hnext)
termination_by services => services.length
decreasing_by exact Nat.lt_succ_of_le (nextBatch_length _ _)

theorem forM_batch (step : Service → Lifecycle Unit) (service : Service) (rest : List Service) :
    (service :: rest).forM step =
      ((service :: rest.takeWhile fun other => other.batch = service.batch).forM step >>= fun _ =>
        (nextBatch service.batch rest).forM step) := by
  conv_lhs => rw [← takeWhile_append_nextBatch service.batch rest, ← List.cons_append]
  exact List.forM_append

/-- Walking the batches forwards is walking the services forwards. -/
theorem runForwardBatches_eq (operation onSuccess : Service → Lifecycle Unit) : ∀ services : List Service,
    runForwardBatches operation onSuccess services =
      services.forM (fun current => do operation current; onSuccess current)
  | [] => by rw [runForwardBatches]; rfl
  | service :: rest => by
      rw [runForwardBatches, runForwardBatches_eq operation onSuccess (nextBatch service.batch rest)]
      exact (forM_batch _ service rest).symm
termination_by services => services.length
decreasing_by exact Nat.lt_succ_of_le (nextBatch_length _ _)

/-! ## What the stages come to -/

/-- The calls of a forward stage: up to the first one that throws. -/
def attempts (stage : Stage) : List Service → List Invocation
  | [] => []
  | service :: rest =>
      service.invocation stage :: if (service.throws stage).isNone then attempts stage rest else []

/-- The services whose calls return before that. -/
def succeeded (stage : Stage) (services : List Service) : List Service :=
  services.takeWhile fun service => (service.throws stage).isNone

/-- The services a forward stage has been through are remembered. -/
def ApplicationState.keep (stage : Stage) (services : List Service) (s : ApplicationState) :
    ApplicationState :=
  match stage with
  | .load => { s with loadedServices := s.loadedServices ++ services }
  | .start => { s with startedServices := s.startedServices ++ services }
  | .stop => s
  | .unload => s

theorem ApplicationState.keep_nil (stage : Stage) (s : ApplicationState) : s.keep stage [] = s := by
  cases stage <;> simp [keep]

@[simp] theorem ApplicationState.write_log (s : ApplicationState) (invocations : List Invocation) :
    (s.write invocations).log = s.log ++ invocations := rfl

@[simp] theorem ApplicationState.write_loadedServices (s : ApplicationState) (invocations : List Invocation) :
    (s.write invocations).loadedServices = s.loadedServices := rfl

@[simp] theorem ApplicationState.keep_log (stage : Stage) (services : List Service) (s : ApplicationState) :
    (s.keep stage services).log = s.log := by
  cases stage <;> rfl

/-- One turn of a forward stage. -/
def forwardStep (stage : Stage) (service : Service) : Lifecycle Unit := do
  invoke stage service
  modify (ApplicationState.keep stage [service])

theorem run_forwardStep (stage : Stage) (services : List Service) : ∀ s : ApplicationState,
    EStateM.run (services.forM (forwardStep stage)) s = finish (firstThrown stage services)
      ((s.write (attempts stage services)).keep stage (succeeded stage services)) := by
  induction services with
  | nil =>
      intro s
      simp only [attempts, succeeded, firstThrown, List.takeWhile_nil, ApplicationState.write_nil,
        ApplicationState.keep_nil]
      rfl
  | cons service rest ih =>
      intro s
      show EStateM.run (forwardStep stage service >>= fun _ => rest.forM (forwardStep stage)) s = _
      rw [EStateM.run_bind, forwardStep, EStateM.run_bind, run_invoke]
      cases hthrows : service.throws stage with
      | none =>
          show EStateM.run (rest.forM (forwardStep stage)) _ = _
          rw [ih]
          simp only [firstThrown, attempts, succeeded, List.findSome?_cons, hthrows, List.takeWhile_cons,
            Option.isNone_none, if_true]
          cases stage <;> simp [ApplicationState.keep, ApplicationState.write]
      | some e =>
          simp [firstThrown, attempts, succeeded, hthrows, ApplicationState.keep_nil]

theorem run_forward (stage : Stage) (services : List Service) (s : ApplicationState) :
    (runForwardBatches (invoke stage) (fun service => modify (ApplicationState.keep stage [service]))
      services).run s = finish (firstThrown stage services)
        ((s.write (attempts stage services)).keep stage (succeeded stage services)) := by
  rw [runForwardBatches_eq]
  exact run_forwardStep stage services s

theorem run_rollback (stage : Stage) (services : List Service) (s : ApplicationState) :
    (rollback services stage).run s = finish (firstThrown stage services.reverse)
      (s.write (services.reverse.map (·.invocation stage))) := by
  unfold rollback
  rw [EStateM.run_bind, run_captureAll]
  exact run_raise _ _

/-- The reverse stages: every service is called, and so is the hook. -/
theorem run_reverse (stage : Stage) (services : List Service) (hook : Option Thrown)
    (forget : ApplicationState → ApplicationState) (s : ApplicationState) :
    EStateM.run (do
      let firstError ← runReverseBatches stage none services
      modify forget
      let firstError ← captureFailure firstError (raise hook)
      raise firstError) s =
    finish ((firstThrown stage services.reverse).or hook)
      (forget (s.write (services.reverse.map (·.invocation stage)))) := by
  rw [EStateM.run_bind, runReverseBatches, captureBatches_eq, run_captureAll]
  simp only [EStateM.run_bind, run_update, run_captureFailure _ hook _ (run_raise hook _), Option.none_or,
    run_raise]

end Loader

end SomeServer
