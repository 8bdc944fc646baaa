/-
# SomeServer.Loader.Initialize — the two threads of `Loader::Initialize`, and what they undo

The application thread runs the four lifecycle stages in one `try` block. The main thread waits until they
have got as far as `Start`, reads lines, and joins. Whatever the interleaving, the calls made when
`Initialize` returns are those of the four stages one after the other, so the question which stages are undone
is one about the sequential program.

The rollbacks of `Load` and `Start` undo the stage they belong to and no other. After `Load` has returned, a
throw of `Start` or `Stop` leaves the `try` block, and nobody calls `Unload`.
-/
import SomeServer.Loader.Application
import Mathlib.Logic.Relation
import Mathlib.Data.List.Count
import Mathlib.Data.List.TakeWhile

namespace SomeServer

namespace Loader

/-! ## The two threads -/

/-- `RuntimeState`. -/
structure RuntimeState where
  startCompleted : Bool := false
  stopRequested : Bool := false
  runtimeFailed : Bool := false
  errorMessage : String := ""

/-- The handlers of the application thread. -/
def RuntimeState.fail (runtime : RuntimeState) : Thrown → RuntimeState
  | .exception what =>
      { runtime with
        startCompleted := true, stopRequested := true, runtimeFailed := true, errorMessage := what }
  | .unknown =>
      { runtime with
        startCompleted := true, stopRequested := true, runtimeFailed := true
        errorMessage := "application lifecycle failed with unknown exception" }

inductive ApplicationThread where
  | absent
  | launched
  /-- It waits for `stop_requested`. -/
  | waiting
  | ended
deriving DecidableEq

inductive MainThread where
  | configuring
  /-- It waits for `start_completed`. -/
  | starting
  | reading
  | joining
  | returned (ok : Bool)
deriving DecidableEq

structure Initialization where
  app : ApplicationState := {}
  runtime : RuntimeState := {}
  thread : ApplicationThread := .absent
  main : MainThread := .configuring

/-- What `std::getline` brings: no line, `exit`, or another line, whose command may ask to leave the loop
too. -/
inductive Input where
  | endOfInput
  | exit
  | line (exitRequested : Bool)

inductive Move where
  | main (input : Input)
  | application
  /-- Somebody calls `RequestStop`. -/
  | requestStop

def Initialization.requestStop (s : Initialization) : Initialization :=
  { s with runtime := { s.runtime with stopRequested := true } }

/-- The application thread after `x`: it goes on in `next`, or it has failed. -/
def Initialization.attempt (s : Initialization) (x : Lifecycle Unit)
    (next : Initialization → Initialization) : Initialization :=
  match x.run s.app with
  | .ok () app => next { s with app := app }
  | .error e app => { s with app := app, runtime := s.runtime.fail e, thread := .ended }

def step (app : Application) (s : Initialization) : Move → Option Initialization
  | .main input =>
      match s.main with
      | .configuring =>
          if app.configures then some { s with thread := .launched, main := .starting }
          -- a refused configuration returns before any thread is made
          else some { s with main := .returned false }
      | .starting =>
          if s.runtime.startCompleted then
            -- a failed start is not served: the loop over the input is left out
            some { s with main := if s.runtime.runtimeFailed then .joining else .reading }
          else none
      | .reading =>
          match input with
          | .endOfInput => some { s.requestStop with main := .joining }
          | .exit => some { s.requestStop with main := .joining }
          | .line exitRequested => some (if exitRequested then { s with main := .joining } else s)
      | .joining =>
          if s.thread = .ended then some { s with main := .returned (!s.runtime.runtimeFailed) } else none
      | .returned _ => none
  | .application =>
      match s.thread with
      | .absent => none
      -- the `try` block up to the wait: an exception ends it, without `Unload`
      | .launched =>
          some (s.attempt (do load app; start app) fun s =>
            { s with runtime := { s.runtime with startCompleted := true }, thread := .waiting })
      | .waiting =>
          if s.runtime.stopRequested then
            -- and the rest of it, once somebody has asked for the stop
            some (s.attempt (do stop app; unload app) fun s => { s with thread := .ended })
          else none
      | .ended => none
  | .requestStop => if s.thread = .absent then none else some s.requestStop

def Next (app : Application) (s s' : Initialization) : Prop :=
  ∃ move, step app s move = some s'

/-- A run of `Initialize`. -/
def Reaches (app : Application) : Initialization → Initialization → Prop :=
  Relation.ReflTransGen (Next app)

/-! ## The threads come to the four stages -/

/-- The state a computation ends in. -/
def after (x : Lifecycle Unit) (s : ApplicationState) : ApplicationState :=
  match x.run s with
  | .ok () s' => s'
  | .error _ s' => s'

/-- The `try` block. -/
def lifecycle (app : Application) : Lifecycle Unit := do
  load app
  start app
  stop app
  unload app

theorem after_ok {x : Lifecycle Unit} {s s' : ApplicationState} (h : x.run s = .ok () s') :
    after x s = s' := by
  simp only [after, h]

theorem after_error {x : Lifecycle Unit} {s s' : ApplicationState} {e : Thrown} (h : x.run s = .error e s') :
    after x s = s' := by
  simp only [after, h]

theorem after_bind_ok {x y : Lifecycle Unit} {s s' : ApplicationState} (h : x.run s = .ok () s') :
    after (do x; y) s = after y s' := by
  simp only [after, EStateM.run_bind, h]

theorem after_bind_error {x y : Lifecycle Unit} {s s' : ApplicationState} {e : Thrown}
    (h : x.run s = .error e s') : after (do x; y) s = s' := by
  simp only [after, EStateM.run_bind, h]

/-- The `try` block, cut where the thread waits. -/
theorem lifecycle_eq (app : Application) :
    lifecycle app = do { (do load app; start app); (do stop app; unload app) } := by
  simp only [lifecycle, bind_assoc]

/-- What the two threads know of each other. -/
def Kept (app : Application) (s : Initialization) : Prop :=
  match s.thread with
  | .absent =>
      s.app = {} ∧ s.runtime.startCompleted = false ∧
        (s.main = .configuring ∨ app.configures = false ∧ s.main = .returned false)
  | .launched =>
      s.app = {} ∧ app.configures = true ∧ s.main = .starting ∧ s.runtime.startCompleted = false
  | .waiting =>
      EStateM.run (do load app; start app) {} = .ok () s.app ∧ app.configures = true ∧
        (s.main = .starting ∨ s.main = .reading ∨ s.main = .joining)
  | .ended => s.app = after (lifecycle app) {} ∧ app.configures = true ∧ s.main ≠ .configuring

theorem kept_application {app : Application} {s s' : Initialization} (hkept : Kept app s)
    (h : step app s .application = some s') : Kept app s' := by
  cases hthread : s.thread with
  | absent => simp [step, hthread] at h
  -- the first half of the `try` block, from the application as it was made
  | launched =>
      simp only [Kept, hthread] at hkept
      obtain ⟨happ, hconfigures, hmain, -⟩ := hkept
      simp only [step, hthread, Option.some.injEq, Initialization.attempt, happ] at h
      cases hrun : EStateM.run (do load app; start app) {} with
      | ok u a =>
          rw [hrun] at h
          subst h
          exact ⟨hrun, hconfigures, .inl hmain⟩
      | error e a =>
          rw [hrun] at h
          subst h
          -- what throws there is what the whole block comes to
          refine ⟨?_, hconfigures, by simp [hmain]⟩
          rw [lifecycle_eq, after_bind_error hrun]
  -- the second half goes on from where the first has left the application
  | waiting =>
      simp only [Kept, hthread] at hkept
      obtain ⟨happ, hconfigures, hmain⟩ := hkept
      have hafter := after_bind_ok (y := do stop app; unload app) happ
      rw [← lifecycle_eq] at hafter
      have hstarted : s.main ≠ .configuring := by rcases hmain with h | h | h <;> simp [h]
      simp only [step, hthread, Initialization.attempt] at h
      split at h
      · cases hrun : EStateM.run (do stop app; unload app) s.app with
        | ok u a =>
            rw [hrun] at h
            cases h
            exact ⟨(hafter.trans (after_ok hrun)).symm, hconfigures, hstarted⟩
        | error e a =>
            rw [hrun] at h
            cases h
            exact ⟨(hafter.trans (after_error hrun)).symm, hconfigures, hstarted⟩
      · cases h
  | ended => simp [step, hthread] at h

theorem kept_requestStop {app : Application} {s s' : Initialization} (hkept : Kept app s)
    (h : step app s .requestStop = some s') : Kept app s' := by
  simp only [step] at h
  split at h
  · cases h
  · cases h
    exact hkept

/-- The main thread reads and joins behind a thread that has got through `Start` or has ended. -/
theorem kept_started {app : Application} {s s' : Initialization} (hkept : Kept app s)
    (hthread : s.thread = .waiting ∨ s.thread = .ended) (happ : s'.app = s.app) (hsame : s'.thread = s.thread)
    (hmain : s'.main = .reading ∨ s'.main = .joining) : Kept app s' := by
  rcases hthread with hthread | hthread
  · simp only [Kept, hthread] at hkept
    obtain ⟨hrun, hconfigures, -⟩ := hkept
    simp only [Kept, hsame, hthread, happ]
    exact ⟨hrun, hconfigures, .inr hmain⟩
  · simp only [Kept, hthread] at hkept
    obtain ⟨hafter, hconfigures, -⟩ := hkept
    simp only [Kept, hsame, hthread, happ]
    exact ⟨hafter, hconfigures, by rcases hmain with h | h <;> simp [h]⟩

/-- Where the application thread is when the main thread has started it and goes on. -/
theorem thread_started {app : Application} {s : Initialization} (hkept : Kept app s)
    (hmain : s.main = .starting ∧ s.runtime.startCompleted = true ∨ s.main = .reading ∨ s.main = .joining) :
    s.thread = .waiting ∨ s.thread = .ended := by
  cases hthread : s.thread with
  | absent =>
      simp only [Kept, hthread] at hkept
      rcases hmain with ⟨h, -⟩ | h | h <;> simp [h] at hkept
  | launched =>
      simp only [Kept, hthread] at hkept
      rcases hmain with ⟨h, hcompleted⟩ | h | h
      · simp [hcompleted] at hkept
      · simp [h] at hkept
      · simp [h] at hkept
  | waiting => exact .inl rfl
  | ended => exact .inr rfl

theorem kept_main {app : Application} {s s' : Initialization} {input : Input} (hkept : Kept app s)
    (h : step app s (.main input) = some s') : Kept app s' := by
  cases hmain : s.main with
  | configuring =>
      -- the application thread is launched only after `Configure`
      have habsent : s.thread = .absent := by
        cases hthread : s.thread <;> simp [Kept, hthread, hmain] at hkept
        rfl
      simp only [Kept, habsent] at hkept
      simp only [step, hmain] at h
      split at h
      · next hconfigures =>
        cases h
        exact ⟨hkept.1, hconfigures, rfl, hkept.2.1⟩
      · next hconfigures =>
        cases h
        simp only [Kept, habsent]
        exact ⟨hkept.1, hkept.2.1, .inr ⟨by simpa using hconfigures, trivial⟩⟩
  | starting =>
      simp only [step, hmain] at h
      split at h
      · next hcompleted =>
        cases h
        exact kept_started hkept (thread_started hkept (.inl ⟨hmain, hcompleted⟩)) rfl rfl
          (by dsimp only; split <;> simp)
      · cases h
  | reading =>
      -- input is read only once the thread has started
      have hthread := thread_started hkept (.inr (.inl hmain))
      simp only [step, hmain] at h
      cases input with
      | endOfInput =>
          cases h
          exact kept_started hkept hthread rfl rfl (.inr rfl)
      | exit =>
          cases h
          exact kept_started hkept hthread rfl rfl (.inr rfl)
      | line exitRequested =>
          cases h
          cases exitRequested with
          | false => exact hkept
          | true => exact kept_started hkept hthread rfl rfl (.inr rfl)
  | joining =>
      simp only [step, hmain] at h
      split at h
      · next hthread =>
        cases h
        simp only [Kept, hthread] at hkept ⊢
        exact ⟨hkept.1, hkept.2.1, by simp⟩
      · cases h
  | returned ok => simp [step, hmain] at h

theorem kept_of_reaches {app : Application} {s : Initialization} (h : Reaches app {} s) : Kept app s := by
  induction h with
  | refl => exact ⟨rfl, rfl, .inl rfl⟩
  | tail _ hnext ih =>
      obtain ⟨move, hstep⟩ := hnext
      cases move with
      | main input => exact kept_main ih hstep
      | application => exact kept_application ih hstep
      | requestStop => exact kept_requestStop ih hstep

/-- However the threads are interleaved, the calls are those of the `try` block. -/
theorem returned_log {app : Application} {s : Initialization} {ok : Bool} (h : Reaches app {} s)
    (hreturned : s.main = .returned ok) :
    s.app.log = if app.configures then (after (lifecycle app) {}).log else [] := by
  have hkept := kept_of_reaches h
  cases hthread : s.thread with
  | absent =>
      simp only [Kept, hthread, hreturned, reduceCtorEq, false_or] at hkept
      rw [hkept.1, hkept.2.2.1]
      rfl
  | launched => simp [Kept, hthread, hreturned] at hkept
  | waiting => simp [Kept, hthread, hreturned] at hkept
  | ended =>
      simp only [Kept, hthread] at hkept
      rw [hkept.1, hkept.2.1]
      rfl

/-! ## What the `try` block calls -/

/-- The order of the batches. -/
def Application.order (app : Application) : List Service :=
  app.services.mergeSort fun a b => a.batch ≤ b.batch

/-- `Load` throws before it gets to the services. -/
def Unprepared (app : Application) : Prop :=
  app.registerServices.isSome ∨ (duplicateName [] app.services).isSome ∨
    app.registerRuntimeCommands.isSome ∨ (app.hooks .load).isSome

/-- Some service throws in a stage. -/
def Throws (stage : Stage) (services : List Service) : Prop :=
  ∃ service ∈ services, (service.throws stage).isSome

theorem firstThrown_eq_none {stage : Stage} {services : List Service} :
    firstThrown stage services = none ↔ ¬Throws stage services := by
  simp [firstThrown, Throws, List.findSome?_eq_none_iff]

/-- The members when `Load` gets to the services. -/
def prepared (app : Application) : ApplicationState :=
  { servicesInOrder := app.order, servicesRegistered := true, runtimeCommandsRegistered := true }

/-- What `Load` and `Start` do with the services: `kept` is the list that the stage has to undo. -/
def forwardStage (stage undo : Stage) (kept : ApplicationState → List Service)
    (forget : ApplicationState → ApplicationState) (services : List Service) : Lifecycle Unit :=
  tryCatch
    (runForwardBatches (invoke stage) (fun service => modify (ApplicationState.keep stage [service]))
      services)
    fun e => do
      rollback (kept (← get)) undo
      modify forget
      throw e

theorem attempts_eq_map {stage : Stage} {services : List Service} (h : ¬Throws stage services) :
    attempts stage services = services.map (·.invocation stage) := by
  induction services with
  | nil => rfl
  | cons service rest ih =>
      simp only [Throws, List.mem_cons, exists_eq_or_imp, not_or, Option.not_isSome_iff_eq_none] at h
      simp only [attempts, h.1, Option.isNone_none, if_true, ih h.2, List.map_cons]

theorem succeeded_eq {stage : Stage} {services : List Service} (h : ¬Throws stage services) :
    succeeded stage services = services := by
  simpa [succeeded, Throws, List.takeWhile_eq_self_iff] using h

theorem run_forwardStage_returns {stage : Stage} {services : List Service} (undo : Stage)
    (kept : ApplicationState → List Service) (forget : ApplicationState → ApplicationState)
    (s : ApplicationState) (h : ¬Throws stage services) :
    (forwardStage stage undo kept forget services).run s =
      .ok () ((s.write (services.map (·.invocation stage))).keep stage services) := by
  unfold forwardStage
  rw [run_tryCatch, run_forward, firstThrown_eq_none.2 h, attempts_eq_map h, succeeded_eq h]
  rfl

/-- A forward stage throws: what it has been through is undone, even if that throws too. -/
theorem run_forwardStage_throws {stage : Stage} {services : List Service} (undo : Stage)
    (kept : ApplicationState → List Service) (forget : ApplicationState → ApplicationState)
    (s : ApplicationState) (h : Throws stage services)
    (hkept : kept ((s.write (attempts stage services)).keep stage (succeeded stage services)) =
      succeeded stage services)
    (hforget : ∀ s, (forget s).log = s.log) :
    ∃ e s', (forwardStage stage undo kept forget services).run s = .error e s' ∧
      s'.log = s.log ++ (attempts stage services ++
        (succeeded stage services).reverse.map (·.invocation undo)) := by
  obtain ⟨e, hthrown⟩ : ∃ e, firstThrown stage services = some e :=
    Option.ne_none_iff_exists'.1 fun hnone => firstThrown_eq_none.1 hnone h
  unfold forwardStage
  rw [run_tryCatch, run_forward, hthrown]
  simp only [finish_some, EStateM.run_bind, EStateM.run_get, hkept, run_rollback]
  -- the undo is complete even if it throws; only which exception comes out differs
  cases firstThrown undo (succeeded stage services).reverse with
  | some e' =>
      exact ⟨e', _, rfl, by simp⟩
  | none =>
      exact ⟨e, _, rfl, by rw [hforget]; simp⟩

theorem run_load_prepared {app : Application} (h : ¬Unprepared app) :
    (load app).run {} = (forwardStage .load .unload (·.loadedServices)
      (fun s => { s with loadedServices := [] }) app.order).run (prepared app) := by
  simp only [Unprepared, not_or, Option.not_isSome_iff_eq_none] at h
  obtain ⟨hservices, hnames, hcommands, hhook⟩ := h
  simp only [load, ensureServicesRegistered, ensureRuntimeCommandsRegistered, hservices, hnames, hcommands,
    hhook]
  rfl

theorem run_load_unprepared {app : Application} (h : Unprepared app) :
    ∃ e s, (load app).run {} = .error e s ∧ s.log = [] := by
  cases hservices : app.registerServices with
  | some e => exact ⟨_, _, by simp only [load, ensureServicesRegistered, hservices]; rfl, rfl⟩
  | none =>
      cases hnames : duplicateName [] app.services with
      | some name => exact ⟨_, _, by simp only [load, ensureServicesRegistered, hservices, hnames]; rfl, rfl⟩
      | none =>
          cases hcommands : app.registerRuntimeCommands with
          | some e =>
              cases e with
              | exception what =>
                  exact ⟨_, _, by simp only [load, ensureServicesRegistered, ensureRuntimeCommandsRegistered,
                    hservices, hnames, hcommands]; rfl, rfl⟩
              | unknown =>
                  exact ⟨_, _, by simp only [load, ensureServicesRegistered, ensureRuntimeCommandsRegistered,
                    hservices, hnames, hcommands]; rfl, rfl⟩
          | none =>
              obtain ⟨e, hhook⟩ : ∃ e, app.hooks .load = some e := by
                rw [← Option.isSome_iff_exists]
                simpa [Unprepared, hservices, hnames, hcommands] using h
              exact ⟨_, _, by simp only [load, ensureServicesRegistered, ensureRuntimeCommandsRegistered,
                hservices, hnames, hcommands, hhook]; rfl, rfl⟩

/-- A service that `AddService` refuses ends `Load` before any service is called. -/
theorem run_load_refused {app : Application} {candidates : List (Option Service)}
    (h : (addServices [] candidates).2.isSome = true) :
    ∃ e s, (load (app.adding candidates)).run {} = .error e s ∧ s.log = [] :=
  run_load_unprepared (.inl h)

/-- Every service that a stage comes to has a name. -/
theorem order_named {app : Application} {candidates : List (Option Service)} :
    ∀ service ∈ (app.adding candidates).order, service.name ≠ "" := by
  intro service hservice
  have hadded : service ∈ (addServices [] candidates).1 := List.mem_mergeSort.mp hservice
  exact addServices_named (by simp) service hadded

/-- The log of `Load` that throws. -/
theorem run_load_throws {app : Application} (h : ¬Unprepared app) (hthrows : Throws .load app.order) :
    ∃ e s, (load app).run {} = .error e s ∧ s.log = attempts .load app.order ++
      (succeeded .load app.order).reverse.map (·.invocation .unload) := by
  rw [run_load_prepared h]
  exact run_forwardStage_throws _ _ _ _ hthrows rfl fun _ => rfl

/-- The members when `Load` has returned. -/
def loadedState (app : Application) : ApplicationState :=
  { prepared app with loadedServices := app.order, log := app.order.map (·.invocation .load) }

theorem run_load_returns {app : Application} (h : ¬Unprepared app) (hthrows : ¬Throws .load app.order) :
    (load app).run {} = .ok () (loadedState app) := by
  rw [run_load_prepared h, run_forwardStage_returns _ _ _ _ hthrows]
  rfl

/-- `OnStart` or the `Start` of a service throws. -/
def StartFails (app : Application) : Prop :=
  (app.hooks .start).isSome ∨ Throws .start app.services

/-- `OnStop` or the `Stop` of a service throws. -/
def StopFails (app : Application) : Prop :=
  (app.hooks .stop).isSome ∨ Throws .stop app.services

/-- `Load` throws. -/
def LoadFails (app : Application) : Prop :=
  Unprepared app ∨ Throws .load app.services

theorem throws_order {stage : Stage} {app : Application} :
    Throws stage app.order ↔ Throws stage app.services := by
  simp only [Throws, Application.order, List.mem_mergeSort]

/-- `Start` throws, and leaves the `Load` it stands on. -/
theorem run_start_throws {app : Application} {s : ApplicationState} (h : StartFails app)
    (horder : s.servicesInOrder = app.order) : ∃ e s' starts stops, (start app).run s = .error e s' ∧
      s'.log = s.log ++ (attempts .start starts ++ List.map (Service.invocation .stop) stops) := by
  cases hhook : app.hooks .start with
  | some e =>
      exact ⟨e, s, [], [], by simp only [start, hhook]; rfl, by simp [attempts]⟩
  | none =>
      have hthrows : Throws .start app.order := by
        rw [throws_order]
        simpa [StartFails, hhook] using h
      have hrun : (start app).run s = (forwardStage .start .stop (·.startedServices)
          (fun s => { s with startedServices := [] }) app.order).run { s with startedServices := [] } := by
        simp only [start, hhook, ← horder]
        rfl
      obtain ⟨e, s', herror, hlog⟩ := run_forwardStage_throws .stop (·.startedServices)
        (fun s => { s with startedServices := [] }) { s with startedServices := [] } hthrows rfl fun _ => rfl
      exact ⟨e, s', _, _, hrun.trans herror, hlog⟩

/-- The members when `Start` has returned. -/
def startedState (app : Application) : ApplicationState :=
  { loadedState app with
    startedServices := app.order, log := (loadedState app).log ++ app.order.map (·.invocation .start) }

theorem run_start_returns {app : Application} (h : ¬StartFails app) :
    (start app).run (loadedState app) = .ok () (startedState app) := by
  simp only [StartFails, not_or, Option.not_isSome_iff_eq_none] at h
  have hrun : (start app).run (loadedState app) = (forwardStage .start .stop (·.startedServices)
      (fun s => { s with startedServices := [] }) app.order).run (loadedState app) := by
    simp only [start, h.1]
    rfl
  rw [hrun, run_forwardStage_returns _ _ _ _ (throws_order.not.2 h.2)]
  rfl

theorem firstThrown_reverse_or {stage : Stage} {app : Application} :
    (firstThrown stage app.order.reverse).or (app.hooks stage) = none ↔
      ¬((app.hooks stage).isSome ∨ Throws stage app.services) := by
  have hreverse : Throws stage app.order.reverse ↔ Throws stage app.services := by
    rw [← throws_order]
    simp only [Throws, List.mem_reverse]
  rw [Option.or_eq_none_iff, firstThrown_eq_none, hreverse, not_or, Option.not_isSome_iff_eq_none, and_comm]

theorem run_stop (app : Application) (s : ApplicationState) : (stop app).run s =
    finish ((firstThrown .stop s.startedServices.reverse).or (app.hooks .stop))
      { s.write (s.startedServices.reverse.map (·.invocation .stop)) with startedServices := [] } :=
  run_reverse .stop s.startedServices (app.hooks .stop) (fun s => { s with startedServices := [] }) s

theorem run_unload (app : Application) (s : ApplicationState) : (unload app).run s =
    finish ((firstThrown .unload s.loadedServices.reverse).or (app.hooks .unload))
      { s.write (s.loadedServices.reverse.map (·.invocation .unload)) with loadedServices := [] } :=
  run_reverse .unload s.loadedServices (app.hooks .unload) (fun s => { s with loadedServices := [] }) s

theorem after_finish {x : Lifecycle Unit} {s s' : ApplicationState} {error : Option Thrown}
    (h : x.run s = finish error s') : after x s = s' := by
  unfold after
  rw [h]
  cases error <;> rfl

/-! ## What is undone -/

/-- A stage of a service is called. -/
def isCall (stage : Stage) (name : String) (invocation : Invocation) : Bool :=
  invocation.stage = stage ∧ invocation.service = name

/-- What has been done to a service has been undone. -/
def Undone (log : List Invocation) (name : String) : Prop :=
  (⟨.load, name, true⟩ ∈ log → log.countP (isCall .unload name) = 1) ∧
    (⟨.start, name, true⟩ ∈ log → log.countP (isCall .stop name) = 1 ∧
      ∃ stopped unloaded, [⟨.stop, name, stopped⟩, ⟨.unload, name, unloaded⟩].Sublist log)

theorem countP_invocation (stage other : Stage) (name : String) (services : List Service) :
    (services.map (Service.invocation stage)).countP (isCall other name) =
      if stage = other then (services.map (·.name)).count name else 0 := by
  induction services with
  | nil => simp
  | cons service rest ih =>
      simp only [List.map_cons, List.countP_cons, List.count_cons, ih, isCall, Service.invocation]
      by_cases hstage : stage = other <;> by_cases hname : service.name = name <;> simp [hstage, hname]

theorem attempts_stage {stage : Stage} {services : List Service} {invocation : Invocation}
    (h : invocation ∈ attempts stage services) : invocation.stage = stage := by
  induction services with
  | nil => cases h
  | cons service rest ih =>
      rw [attempts] at h
      rcases List.mem_cons.1 h with rfl | h
      · rfl
      · split at h
        · exact ih h
        · cases h

theorem countP_attempts {stage other : Stage} (name : String) (services : List Service) (h : stage ≠ other) :
    (attempts stage services).countP (isCall other name) = 0 := by
  rw [List.countP_eq_zero]
  intro invocation hmem hcall
  simp only [isCall, attempts_stage hmem, decide_eq_true_eq] at hcall
  exact h hcall.1

/-- What returned has been kept. -/
theorem mem_succeeded {stage : Stage} {name : String} {services : List Service}
    (h : ⟨stage, name, true⟩ ∈ attempts stage services) : name ∈ (succeeded stage services).map (·.name) := by
  induction services with
  | nil => cases h
  | cons service rest ih =>
      rw [attempts] at h
      cases hthrows : service.throws stage with
      | none =>
          simp only [hthrows, Option.isNone_none, if_true, List.mem_cons, Service.invocation,
            Invocation.mk.injEq] at h
          simp only [succeeded, List.takeWhile_cons, hthrows, Option.isNone_none, if_true, List.map_cons,
            List.mem_cons]
          rcases h with ⟨-, hname, -⟩ | h
          · exact .inl hname
          · exact .inr (ih h)
      | some e => simp [hthrows, Service.invocation] at h

theorem duplicateName_eq_none {names : List String} {services : List Service} :
    duplicateName names services = none ↔
      (services.map (·.name)).Nodup ∧ ∀ service ∈ services, service.name ∉ names := by
  induction services generalizing names with
  | nil => simp [duplicateName]
  | cons service rest ih =>
      rw [duplicateName]
      by_cases hname : service.name ∈ names
      · simp [hname]
      · simp only [hname, if_false, ih, List.map_cons, List.nodup_cons, List.mem_cons, not_or, List.mem_map]
        grind

theorem order_nodup {app : Application} (h : ¬Unprepared app) : (app.order.map (·.name)).Nodup := by
  simp only [Unprepared, not_or, Option.not_isSome_iff_eq_none] at h
  have hperm : (app.order.map (·.name)).Perm (app.services.map (·.name)) :=
    (List.mergeSort_perm _ _).map _
  exact hperm.nodup_iff.2 (duplicateName_eq_none.1 h.2.1).1

/-- The calls of the `try` block, when `Load` throws. -/
theorem log_loadFails {app : Application} (h : LoadFails app) : (after (lifecycle app) {}).log = [] ∨
    ¬Unprepared app ∧ (after (lifecycle app) {}).log = attempts .load app.order ++
      (succeeded .load app.order).reverse.map (·.invocation .unload) := by
  by_cases hunprepared : Unprepared app
  · obtain ⟨e, s, hrun, hlog⟩ := run_load_unprepared hunprepared
    left
    rw [lifecycle, after_bind_error hrun, hlog]
  · obtain ⟨e, s, hrun, hlog⟩ :=
      run_load_throws hunprepared (throws_order.2 (h.resolve_left hunprepared))
    right
    rw [lifecycle, after_bind_error hrun, hlog]
    exact ⟨hunprepared, rfl⟩

/-- The calls of the `try` block, when `Start` throws: nothing is unloaded. -/
theorem log_startFails {app : Application} (hload : ¬LoadFails app) (h : StartFails app) :
    ∃ starts stops, (after (lifecycle app) {}).log = app.order.map (·.invocation .load) ++
      (attempts .start starts ++ List.map (Service.invocation .stop) stops) := by
  obtain ⟨hprepared, hthrows⟩ := not_or.1 hload
  have hloaded := run_load_returns hprepared (throws_order.not.2 hthrows)
  obtain ⟨e, s, starts, stops, hrun, hlog⟩ := run_start_throws (s := loadedState app) h rfl
  refine ⟨starts, stops, ?_⟩
  rw [lifecycle, after_bind_ok hloaded, after_bind_error hrun, hlog]
  rfl

/-- The calls of the `try` block, when `Load` and `Start` return: `Unload` is left out where `Stop` throws. -/
theorem log_started {app : Application} (hload : ¬LoadFails app) (hstart : ¬StartFails app) :
    ∃ unloads, (after (lifecycle app) {}).log = app.order.map (·.invocation .load) ++
        app.order.map (·.invocation .start) ++ app.order.reverse.map (·.invocation .stop) ++
        List.map (Service.invocation .unload) unloads ∧
      (StopFails app → unloads = []) ∧ (¬StopFails app → unloads = app.order.reverse) := by
  obtain ⟨hprepared, hthrows⟩ := not_or.1 hload
  have hloaded := run_load_returns hprepared (throws_order.not.2 hthrows)
  have hrun := run_stop app (startedState app)
  rw [lifecycle, after_bind_ok hloaded, after_bind_ok (run_start_returns hstart)]
  cases hstop : (firstThrown .stop app.order.reverse).or (app.hooks .stop) with
  -- `Stop` fails: the block is left with the error, and `Unload` is never reached
  | some e =>
      have hfails : StopFails app := by
        by_contra hreturns
        rw [StopFails, ← firstThrown_reverse_or] at hreturns
        simp [hstop] at hreturns
      simp only [startedState, hstop, finish_some] at hrun
      refine ⟨[], ?_, fun _ => rfl, fun h => absurd hfails h⟩
      rw [startedState, after_bind_error hrun]
      simp [loadedState]
  -- `Stop` returns, so that `Unload` is called for every service
  | none =>
      have hreturns : ¬StopFails app := firstThrown_reverse_or.1 hstop
      simp only [startedState, hstop, finish_none] at hrun
      refine ⟨app.order.reverse, ?_, fun h => absurd h hreturns, fun _ => rfl⟩
      rw [startedState, after_bind_ok hrun, after_finish (run_unload app _)]
      simp [loadedState]

/-- Everything is undone. -/
def AllUndone (app : Application) (log : List Invocation) : Prop :=
  ∀ service ∈ app.services, Undone log service.name

theorem count_succeeded {app : Application} {stage : Stage} {name : String}
    (hnodup : (app.order.map (·.name)).Nodup) (h : name ∈ (succeeded stage app.order).map (·.name)) :
    ((succeeded stage app.order).reverse.map (·.name)).count name = 1 := by
  have hsublist : ((succeeded stage app.order).map (·.name)).Sublist (app.order.map (·.name)) :=
    (List.takeWhile_sublist _).map _
  rw [List.map_reverse, List.count_reverse]
  exact List.count_eq_one_of_mem (hnodup.sublist hsublist) h

theorem undone_of_loadFails {app : Application} (h : LoadFails app) :
    AllUndone app (after (lifecycle app) {}).log := by
  intro service _
  rcases log_loadFails h with hlog | ⟨hprepared, hlog⟩
  · simp [hlog, Undone]
  · rw [hlog]
    have hundo : ∀ stage, ⟨stage, service.name, true⟩ ∈
        (succeeded .load app.order).reverse.map (Service.invocation .unload) → stage = .unload := by
      simp only [List.mem_map, Service.invocation, Invocation.mk.injEq]
      rintro stage ⟨_, -, rfl, -⟩
      rfl
    constructor
    · intro hload
      rcases List.mem_append.1 hload with hload | hload
      · rw [List.countP_append, countP_attempts _ _ (by decide), countP_invocation, if_pos rfl,
          count_succeeded (order_nodup hprepared) (mem_succeeded hload)]
      · cases hundo _ hload
    · intro hstart
      rcases List.mem_append.1 hstart with hstart | hstart
      · cases attempts_stage hstart
      · cases hundo _ hstart

theorem mem_order {app : Application} {service : Service} :
    service ∈ app.order ↔ service ∈ app.services := by
  simp [Application.order]

theorem name_mem_order {app : Application} {service : Service} (h : service ∈ app.services) :
    service.name ∈ app.order.map (·.name) :=
  List.mem_map_of_mem (mem_order.2 h)

theorem undone_of_returns {app : Application} (hload : ¬LoadFails app) (hstart : ¬StartFails app)
    (hstop : ¬StopFails app) : AllUndone app (after (lifecycle app) {}).log := by
  obtain ⟨unloads, hlog, -, hunloads⟩ := log_started hload hstart
  obtain rfl := hunloads hstop
  intro service hservice
  have hname := name_mem_order hservice
  have hcount : (app.order.map (·.name)).count service.name = 1 :=
    List.count_eq_one_of_mem (order_nodup (not_or.1 hload).1) hname
  obtain ⟨current, hcurrent, hsame⟩ := List.mem_map.1 hname
  rw [hlog, Undone]
  simp only [List.countP_append, countP_invocation, List.map_reverse, List.countP_reverse, hcount,
    reduceCtorEq, if_false, if_true, true_and]
  refine ⟨fun _ => trivial, fun _ => ⟨(current.throws .stop).isNone, (current.throws .unload).isNone, ?_⟩⟩
  have hcall : ∀ stage, (⟨stage, service.name, (current.throws stage).isNone⟩ : Invocation) ∈
      (app.order.map (Service.invocation stage)).reverse := by
    intro stage
    rw [List.mem_reverse, ← hsame]
    exact List.mem_map_of_mem hcurrent
  have hstops := List.singleton_sublist.2 (List.mem_append_right
    (app.order.map (Service.invocation .load) ++ app.order.map (Service.invocation .start)) (hcall .stop))
  exact hstops.append (List.singleton_sublist.2 (hcall .unload))

/-- Without a call of `Unload`, a service that has been loaded is not undone. -/
theorem not_undone {app : Application} {log rest : List Invocation} (hload : ¬LoadFails app)
    (hlog : log = app.order.map (·.invocation .load) ++ rest) (hservices : app.services ≠ [])
    (hunload : ∀ name, rest.countP (isCall .unload name) = 0) : ¬AllUndone app log := by
  intro h
  obtain ⟨service, hservice⟩ := List.exists_mem_of_ne_nil _ hservices
  have hreturned : service.throws .load = none := by
    by_contra hthrows
    exact hload (.inr ⟨service, hservice, Option.isSome_iff_ne_none.2 hthrows⟩)
  have hcall : ⟨.load, service.name, true⟩ ∈ log := by
    rw [hlog]
    refine List.mem_append_left _ (List.mem_map.2 ⟨service, mem_order.2 hservice, ?_⟩)
    simp [Service.invocation, hreturned]
  have hone := (h service hservice).1 hcall
  rw [hlog, List.countP_append, countP_invocation, hunload] at hone
  simp at hone

/-- When the `try` block undoes everything. -/
theorem allUndone_iff {app : Application} : AllUndone app (after (lifecycle app) {}).log ↔
    LoadFails app ∨ app.services = [] ∨ ¬StartFails app ∧ ¬StopFails app := by
  constructor
  -- only these: a failure of `Start` or `Stop` behind a `Load` that returned leaves every service loaded
  · intro h
    by_contra hnot
    obtain ⟨hload, hrest⟩ := not_or.1 hnot
    obtain ⟨hservices, hfails⟩ := not_or.1 hrest
    by_cases hstart : StartFails app
    · obtain ⟨starts, stops, hlog⟩ := log_startFails hload hstart
      refine not_undone hload hlog hservices (fun name => ?_) h
      rw [List.countP_append, countP_attempts _ _ (by decide), countP_invocation]
      rfl
    · obtain ⟨unloads, hlog, hnone, -⟩ := log_started hload hstart
      obtain rfl := hnone (by_contra fun hstop => hfails ⟨hstart, hstop⟩)
      simp only [List.map_nil, List.append_nil, List.append_assoc] at hlog
      refine not_undone hload hlog hservices (fun name => ?_) h
      rw [List.countP_append, countP_invocation, countP_invocation]
      rfl
  · rintro (hload | hservices | ⟨hstart, hstop⟩)
    · exact undone_of_loadFails hload
    · intro service hservice
      simp [hservices] at hservice
    · by_cases hload : LoadFails app
      · exact undone_of_loadFails hload
      · exact undone_of_returns hload hstart hstop

/-- `Initialize` can return. -/
def CanReturn (app : Application) (s : Initialization) : Prop :=
  ∃ s' ok, Reaches app s s' ∧ s'.main = .returned ok

theorem canReturn_of_step {app : Application} {s s' : Initialization} (move : Move)
    (h : step app s move = some s') (hreturns : CanReturn app s') : CanReturn app s := by
  obtain ⟨s'', ok, hreaches, hreturned⟩ := hreturns
  exact ⟨s'', ok, .head ⟨move, h⟩ hreaches, hreturned⟩

theorem canReturn_of_ended {app : Application} {s : Initialization} (hmain : s.main = .joining)
    (hthread : s.thread = .ended) : CanReturn app s :=
  canReturn_of_step (.main .endOfInput) (by simp only [step, hmain, hthread]; rfl) ⟨_, _, .refl, rfl⟩

theorem canReturn_of_waiting {app : Application} {s : Initialization} (hmain : s.main = .joining)
    (hthread : s.thread = .waiting) (hstop : s.runtime.stopRequested = true) : CanReturn app s := by
  refine canReturn_of_step .application (by simp only [step, hthread, hstop]; rfl) ?_
  unfold Initialization.attempt
  cases EStateM.run (do stop app; unload app) s.app with
  | ok u a => exact canReturn_of_ended hmain rfl
  | error e a => exact canReturn_of_ended hmain rfl

theorem canReturn (app : Application) : CanReturn app {} := by
  cases hconfigures : app.configures with
  | false =>
      exact canReturn_of_step (.main .endOfInput) (by simp only [step, hconfigures]; rfl) ⟨_, _, .refl, rfl⟩
  | true =>
      refine canReturn_of_step (.main .endOfInput) (by simp only [step, hconfigures]; rfl) ?_
      refine canReturn_of_step .application rfl ?_
      unfold Initialization.attempt
      cases EStateM.run (do load app; start app) {} with
      | ok u a =>
          refine canReturn_of_step (.main .endOfInput) rfl (canReturn_of_step (.main .endOfInput) rfl ?_)
          exact canReturn_of_waiting rfl rfl rfl
      | error e a =>
          cases e with
          | exception what => exact canReturn_of_step (.main .endOfInput) rfl (canReturn_of_ended rfl rfl)
          | unknown => exact canReturn_of_step (.main .endOfInput) rfl (canReturn_of_ended rfl rfl)

/-- When `Initialize` returns, every stage has been undone exactly when the configuration was refused, `Load`
threw, there are no services, or neither `Start` nor `Stop` threw. -/
theorem initialize_undoes {app : Application} {s : Initialization} {ok : Bool} (h : Reaches app {} s)
    (hreturned : s.main = .returned ok) : AllUndone app s.app.log ↔
      app.configures = false ∨ LoadFails app ∨ app.services = [] ∨ ¬StartFails app ∧ ¬StopFails app := by
  rw [returned_log h hreturned]
  cases hconfigures : app.configures with
  | false => simp [AllUndone, Undone]
  | true => simp [allUndone_iff]

/-- Two services of two batches that throw nothing. -/
def quiet : Application where
  services := [{ name := "redis", batch := 1 }, { name := "mysql" }]

theorem initialize_undoes_quiet : ∃ s ok, Reaches quiet {} s ∧ s.main = .returned ok ∧
    AllUndone quiet s.app.log := by
  obtain ⟨s, ok, hreaches, hreturned⟩ := canReturn quiet
  refine ⟨s, ok, hreaches, hreturned, (initialize_undoes hreaches hreturned).2 (.inr (.inr (.inr ?_)))⟩
  simp [StartFails, StopFails, Throws, quiet]

/-- The one service throws when it stops: `Unload` is not called. -/
def throwingStop : Application where
  services := [{ name := "mysql", throws := fun stage => if stage = .stop then some .unknown else none }]

theorem stop_not_undone : ∃ s ok, Reaches throwingStop {} s ∧ s.main = .returned ok ∧
    ¬AllUndone throwingStop s.app.log := by
  obtain ⟨s, ok, hreaches, hreturned⟩ := canReturn throwingStop
  refine ⟨s, ok, hreaches, hreturned, ?_⟩
  rw [returned_log hreaches hreturned]
  have hload : ¬LoadFails throwingStop := by
    simp [LoadFails, Unprepared, Throws, throwingStop, duplicateName]
  have hstop : StopFails throwingStop := by
    simp [StopFails, Throws, throwingStop]
  show ¬AllUndone throwingStop (after (lifecycle throwingStop) {}).log
  rw [allUndone_iff]
  rintro (h | h | h)
  · exact hload h
  · cases h
  · exact h.2 hstop

end Loader

end SomeServer
