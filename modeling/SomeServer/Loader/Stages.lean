/-
# SomeServer.Loader.Stages — the order of the stages, and how they are rolled back

What each of the four calls of an application does to its services, from every state that any sequence of such
calls leads to, with any exceptions: `Load` and `Start` go through the services in the order of their batches
up to the first one that throws, and then back; `Stop` and `Unload` go back through those that are kept.

Which exceptions are thrown may change from one call to the next. The services themselves do not: once
`RegisterServices` has thrown, no later `Load` is considered to register them.
-/
import SomeServer.Loader.Initialize

namespace SomeServer

namespace Loader

/-! ## Calls, in any order -/

/-- What the services and the hooks throw. -/
structure Exceptions where
  services : (name : String) → Stage → Option Thrown
  hooks : Stage → Option Thrown
  registerRuntimeCommands : Option Thrown

def Service.rethrow (x : Exceptions) (service : Service) : Service :=
  { service with throws := x.services service.name }

def Application.rethrow (x : Exceptions) (app : Application) : Application :=
  { app with
    services := app.services.map (Service.rethrow x)
    hooks := x.hooks
    registerRuntimeCommands := x.registerRuntimeCommands }

def ApplicationState.rethrow (x : Exceptions) (s : ApplicationState) : ApplicationState :=
  { s with
    servicesInOrder := s.servicesInOrder.map (Service.rethrow x)
    loadedServices := s.loadedServices.map (Service.rethrow x)
    startedServices := s.startedServices.map (Service.rethrow x) }

/-- The application after some calls, and with the exceptions that are thrown from now on. -/
inductive Called : Application → ApplicationState → Prop
  | created (app : Application) : Called app {}
  | load {app : Application} {s : ApplicationState} : Called app s → Called app (after (load app) s)
  | start {app : Application} {s : ApplicationState} : Called app s → Called app (after (start app) s)
  | stop {app : Application} {s : ApplicationState} : Called app s → Called app (after (stop app) s)
  | unload {app : Application} {s : ApplicationState} : Called app s → Called app (after (unload app) s)
  | rethrow {app : Application} {s : ApplicationState} (x : Exceptions) :
      Called app s → Called (app.rethrow x) (s.rethrow x)

/-! ## The order of the services -/

/-- The stable order of the batch numbers. -/
structure InBatchOrder (services order : List Service) : Prop where
  perm : order.Perm services
  sorted : order.Pairwise fun a b => a.batch ≤ b.batch
  stable : ∀ batch : Int,
    (order.filter fun service => service.batch = batch) = services.filter fun service => service.batch = batch

theorem inBatchOrder (app : Application) : InBatchOrder app.services app.order := by
  have htrans : ∀ a b c : Service, decide (a.batch ≤ b.batch) = true → decide (b.batch ≤ c.batch) = true →
      decide (a.batch ≤ c.batch) = true := by
    intro a b c hab hbc
    simp only [decide_eq_true_eq] at hab hbc ⊢
    omega
  have htotal : ∀ a b : Service, (decide (a.batch ≤ b.batch) || decide (b.batch ≤ a.batch)) = true := by
    intro a b
    simp only [Bool.or_eq_true, decide_eq_true_eq]
    omega
  have hperm : app.order.Perm app.services := List.mergeSort_perm _ _
  refine ⟨hperm, ?_, ?_⟩
  · exact (List.pairwise_mergeSort htrans htotal app.services).imp fun h => of_decide_eq_true h
  · intro batch
    -- the services of one batch are in order as they are, so sorting keeps them as they are
    have hbatch : (app.services.filter fun service => service.batch = batch).Pairwise
        fun a b => decide (a.batch ≤ b.batch) = true := by
      rw [List.pairwise_iff_forall_sublist]
      intro a b hab
      have ha := (List.mem_filter.1 (hab.subset (List.mem_cons_self ..))).2
      have hb := (List.mem_filter.1 (hab.subset (List.mem_cons_of_mem _ (List.mem_singleton_self b)))).2
      simp only [decide_eq_true_eq] at ha hb ⊢
      omega
    have hsublist := (List.sublist_mergeSort htrans htotal hbatch List.filter_sublist).filter
      fun service => decide (service.batch = batch)
    rw [List.filter_filter] at hsublist
    simp only [Bool.and_self] at hsublist
    exact (hsublist.eq_of_length (hperm.filter _).length_eq.symm).symm

theorem order_rethrow (x : Exceptions) (app : Application) :
    (app.rethrow x).order = app.order.map (Service.rethrow x) := by
  unfold Application.order Application.rethrow
  rw [← List.map_mergeSort]
  intro a _ b _
  rfl

/-- The services are in order once they are registered. -/
def Ordered (app : Application) (s : ApplicationState) : Prop :=
  s.servicesInOrder = if s.servicesRegistered then app.order else []

/-! ## A forward stage -/

theorem run_forwardStage (stage undo : Stage) (kept : ApplicationState → List Service)
    (forget : ApplicationState → ApplicationState) (services : List Service) (s : ApplicationState) :
    (forwardStage stage undo kept forget services).run s =
      let through := (s.write (attempts stage services)).keep stage (succeeded stage services)
      let back := through.write ((kept through).reverse.map (·.invocation undo))
      match firstThrown stage services, firstThrown undo (kept through).reverse with
      | none, _ => .ok () through
      | some e, none => .error e (forget back)
      | some _, some e => .error e back := by
  unfold forwardStage
  rw [run_tryCatch, run_forward]
  cases firstThrown stage services with
  | none => rfl
  | some e =>
      simp only [finish_some, EStateM.run_bind, EStateM.run_get, run_rollback]
      cases firstThrown undo (kept _).reverse <;> rfl

/-- Where the first service throws. -/
theorem at_first_failure {stage : Stage} {before : List Service} (rest : List Service) {service : Service}
    {e : Thrown} (hbefore : ¬Throws stage before) (hthrows : service.throws stage = some e) :
    attempts stage (before ++ service :: rest) = (before ++ [service]).map (·.invocation stage) ∧
      succeeded stage (before ++ service :: rest) = before ∧
      firstThrown stage (before ++ service :: rest) = some e := by
  induction before with
  | nil => simp [attempts, succeeded, firstThrown, hthrows]
  | cons first before ih =>
      have hfirst : first.throws stage = none := by
        rw [← Option.not_isSome_iff_eq_none]
        exact fun h => hbefore ⟨first, List.mem_cons_self .., h⟩
      have hrest : ¬Throws stage before := by
        rintro ⟨service, hmem, h⟩
        exact hbefore ⟨service, List.mem_cons_of_mem _ hmem, h⟩
      obtain ⟨hattempts, hsucceeded, hthrown⟩ := ih hrest
      refine ⟨?_, ?_, ?_⟩
      · simp only [List.cons_append, attempts, hfirst, Option.isNone_none, if_true, hattempts, List.map_cons]
      · simp only [succeeded, List.cons_append, List.takeWhile_cons, hfirst, Option.isNone_none, if_true]
        exact congrArg (first :: ·) hsucceeded
      · simp only [firstThrown, List.cons_append, List.findSome?_cons, hfirst]
        exact hthrown

/-- A stage goes through the services and keeps them. If one of them throws, it goes back through those before
it, whatever that throws, and ends with the error of the service unless it throws something. -/
structure RollsBack {α : Type} (x : Lifecycle Unit) (s : ApplicationState) (stage undo : Stage)
    (kept : ApplicationState → List Service) (others : ApplicationState → α) (services : List Service) :
    Prop where
  returns : ¬Throws stage services → ∃ s', x.run s = .ok () s' ∧
    s'.log = s.log ++ services.map (·.invocation stage) ∧ kept s' = services ∧ others s' = others s
  throws : ∀ before service rest e, services = before ++ service :: rest → ¬Throws stage before →
    service.throws stage = some e → ∃ error s', x.run s = .error error s' ∧
      s'.log = s.log ++ ((before ++ [service]).map (·.invocation stage) ++
        before.reverse.map (·.invocation undo)) ∧
      (¬Throws undo before → error = e ∧ kept s' = []) ∧ (Throws undo before → kept s' = before) ∧
      others s' = others s

/-- A stage goes back through the services that are kept, and then to the hook. -/
def GoesBack (x : Lifecycle Unit) (s : ApplicationState) (undo : Stage) (hook : Option Thrown)
    (kept others : ApplicationState → List Service) : Prop :=
  ∃ s', x.run s = finish ((firstThrown undo (kept s).reverse).or hook) s' ∧
    s'.log = s.log ++ (kept s).reverse.map (·.invocation undo) ∧ kept s' = [] ∧ others s' = others s

section

variable {α : Type} {app : Application} {s : ApplicationState} {others : ApplicationState → α}

/-- A forward stage from a state in which nothing is kept. -/
theorem rollsBack_forwardStage {stage undo : Stage} {kept : ApplicationState → List Service}
    {forget : ApplicationState → ApplicationState} {services : List Service}
    (hkeep : ∀ invocations services, kept ((s.write invocations).keep stage services) = services)
    (hothers : ∀ invocations services, others ((s.write invocations).keep stage services) = others s)
    (hkeptWrite : ∀ s invocations, kept (ApplicationState.write s invocations) = kept s)
    (hothersWrite : ∀ s invocations, others (ApplicationState.write s invocations) = others s)
    (hforget : ∀ s, (forget s).log = s.log ∧ kept (forget s) = [] ∧ others (forget s) = others s) :
    RollsBack (forwardStage stage undo kept forget services) s stage undo kept others services := by
  constructor
  · intro hnone
    have hrun := run_forwardStage stage undo kept forget services s
    rw [firstThrown_eq_none.2 hnone, attempts_eq_map hnone, succeeded_eq hnone] at hrun
    refine ⟨_, hrun, ?_, hkeep _ _, hothers _ _⟩
    rw [ApplicationState.keep_log, ApplicationState.write_log]
  · rintro before service rest e rfl hbefore hthrows
    obtain ⟨hattempts, hsucceeded, hthrown⟩ := at_first_failure rest hbefore hthrows
    have hrun := run_forwardStage stage undo kept forget (before ++ service :: rest) s
    rw [hthrown, hattempts, hsucceeded] at hrun
    simp only [hkeep] at hrun
    have hreverse : Throws undo before.reverse ↔ Throws undo before := by
      simp only [Throws, List.mem_reverse]
    cases hback : firstThrown undo before.reverse with
    | none =>
        rw [hback] at hrun
        have hquiet : ¬Throws undo before := hreverse.not.1 (firstThrown_eq_none.1 hback)
        obtain ⟨hlog, hkept, hsame⟩ := hforget
          (((s.write ((before ++ [service]).map (·.invocation stage))).keep stage before).write
            (before.reverse.map (·.invocation undo)))
        refine ⟨e, _, hrun, ?_, fun _ => ⟨rfl, hkept⟩, fun h => absurd h hquiet, ?_⟩
        · rw [hlog]
          simp
        · rw [hsame, hothersWrite, hothers]
    | some e' =>
        rw [hback] at hrun
        have hloud : Throws undo before := by
          rw [← hreverse]
          by_contra h
          rw [firstThrown_eq_none.2 h] at hback
          cases hback
        refine ⟨e', _, hrun, ?_, fun h => absurd hloud h, fun _ => ?_, ?_⟩
        · simp
        · rw [hkeptWrite, hkeep]
        · rw [hothersWrite, hothers]

theorem exists_first_failure {stage : Stage} {services : List Service} (h : Throws stage services) :
    ∃ before service rest e, services = before ++ service :: rest ∧ ¬Throws stage before ∧
      service.throws stage = some e := by
  induction services with
  | nil =>
      obtain ⟨service, hmem, -⟩ := h
      exact absurd hmem List.not_mem_nil
  | cons first services ih =>
      by_cases hfirst : (first.throws stage).isSome
      · obtain ⟨e, he⟩ := Option.isSome_iff_exists.1 hfirst
        exact ⟨[], first, services, e, rfl, by simp [Throws], he⟩
      · have hrest : Throws stage services := by
          obtain ⟨service, hmem, hthrows⟩ := h
          rcases List.mem_cons.1 hmem with rfl | hmem
          · exact absurd hthrows hfirst
          · exact ⟨service, hmem, hthrows⟩
        obtain ⟨before, service, rest, e, rfl, hbefore, he⟩ := ih hrest
        refine ⟨first :: before, service, rest, e, rfl, ?_, he⟩
        rintro ⟨other, hmem, hthrows⟩
        rcases List.mem_cons.1 hmem with rfl | hmem
        · exact hfirst hthrows
        · exact hbefore ⟨other, hmem, hthrows⟩

/-- However a forward stage ends, it leaves the rest as it was. -/
theorem RollsBack.after_others {x : Lifecycle Unit} {stage undo : Stage}
    {kept : ApplicationState → List Service} {services : List Service}
    (h : RollsBack x s stage undo kept others services) : others (after x s) = others s := by
  by_cases hthrows : Throws stage services
  · obtain ⟨before, service, rest, e, hservices, hbefore, he⟩ := exists_first_failure hthrows
    obtain ⟨error, s', hrun, -, -, -, hothers⟩ := h.throws before service rest e hservices hbefore he
    rw [after_error hrun, hothers]
  · obtain ⟨s', hrun, -, -, hothers⟩ := h.returns hthrows
    rw [after_ok hrun, hothers]

/-- What a stage does that begins with some preparation. -/
theorem RollsBack.of_run {x y : Lifecycle Unit} {s₁ : ApplicationState} {stage undo : Stage}
    {kept : ApplicationState → List Service} {services : List Service}
    (h : RollsBack y s₁ stage undo kept others services) (hrun : x.run s = y.run s₁) (hlog : s₁.log = s.log)
    (hothers : others s₁ = others s) : RollsBack x s stage undo kept others services := by
  constructor
  · rw [hrun, ← hlog, ← hothers]
    exact h.returns
  · rw [hrun, ← hlog, ← hothers]
    exact h.throws

/-! ## `Load` and `Start` -/

/-- `Load` throws before it gets to the services: they cannot be registered, or the commands cannot, or
`OnLoad` throws. -/
def Unready (app : Application) (s : ApplicationState) : Prop :=
  s.servicesRegistered = false ∧ (app.registerServices.isSome ∨ (duplicateName [] app.services).isSome) ∨
    s.runtimeCommandsRegistered = false ∧ app.registerRuntimeCommands.isSome ∨ (app.hooks .load).isSome

theorem run_ensureServicesRegistered (app : Application) (s : ApplicationState) :
    (ensureServicesRegistered app).run s =
      if s.servicesRegistered then .ok () s
      else match app.registerServices, duplicateName [] app.services with
        | some e, _ => .error e s
        | none, some name => .error (.exception ("duplicate service name: " ++ name)) s
        | none, none => .ok () { s with servicesInOrder := app.order, servicesRegistered := true } := by
  simp only [ensureServicesRegistered, EStateM.run_bind, EStateM.run_get]
  cases s.servicesRegistered with
  | true => rfl
  | false =>
      cases app.registerServices with
      | some e => rfl
      | none => cases duplicateName [] app.services <;> rfl

theorem run_ensureRuntimeCommandsRegistered (app : Application) (s : ApplicationState) :
    (s.runtimeCommandsRegistered = false ∧ app.registerRuntimeCommands.isSome ∧
      ∃ e, (ensureRuntimeCommandsRegistered app).run s = .error e s) ∨
    (¬(s.runtimeCommandsRegistered = false ∧ app.registerRuntimeCommands.isSome) ∧
      (ensureRuntimeCommandsRegistered app).run s = .ok () { s with runtimeCommandsRegistered := true }) := by
  cases hregistered : s.runtimeCommandsRegistered with
  | true =>
      right
      refine ⟨by simp, ?_⟩
      have hsame : ({ s with runtimeCommandsRegistered := true } : ApplicationState) = s := by
        rw [← hregistered]
      rw [hsame]
      simp only [ensureRuntimeCommandsRegistered, EStateM.run_bind, EStateM.run_get, hregistered]
      rfl
  | false =>
      cases hcommands : app.registerRuntimeCommands with
      | none =>
          right
          refine ⟨by simp, ?_⟩
          simp only [ensureRuntimeCommandsRegistered, EStateM.run_bind, EStateM.run_get, hregistered, hcommands]
          rfl
      | some e =>
          left
          refine ⟨rfl, rfl, ?_⟩
          simp only [ensureRuntimeCommandsRegistered, EStateM.run_bind, EStateM.run_get, hregistered, hcommands]
          cases e with
          | exception what => exact ⟨_, rfl⟩
          | unknown => exact ⟨_, rfl⟩

/-- The services are registered, or nothing is changed. -/
theorem services_registered (hordered : Ordered app s) :
    (s.servicesRegistered = false ∧ (app.registerServices.isSome ∨ (duplicateName [] app.services).isSome) ∧
      ∃ e, (ensureServicesRegistered app).run s = .error e s) ∨
    (¬(s.servicesRegistered = false ∧
        (app.registerServices.isSome ∨ (duplicateName [] app.services).isSome)) ∧
      (ensureServicesRegistered app).run s =
        .ok () { s with servicesInOrder := app.order, servicesRegistered := true }) := by
  have hrun := run_ensureServicesRegistered app s
  cases hregistered : s.servicesRegistered with
  | true =>
      right
      have hsame : ({ s with servicesInOrder := app.order, servicesRegistered := true } : ApplicationState) = s := by
        rw [Ordered, hregistered, if_pos rfl] at hordered
        rw [← hordered, ← hregistered]
      rw [hregistered, if_pos rfl] at hrun
      exact ⟨by simp, by rw [hsame, hrun]⟩
  | false =>
      rw [hregistered] at hrun
      cases hservices : app.registerServices with
      | some e =>
          rw [hservices] at hrun
          exact .inl ⟨rfl, .inl rfl, e, hrun⟩
      | none =>
          cases hnames : duplicateName [] app.services with
          | some name =>
              rw [hservices, hnames] at hrun
              exact .inl ⟨rfl, .inr rfl, _, hrun⟩
          | none =>
              rw [hservices, hnames] at hrun
              exact .inr ⟨by simp, hrun⟩

/-- `Load` does not get to the services. -/
theorem run_load_unready (hordered : Ordered app s) (h : Unready app s) :
    ∃ e s', (load app).run s = .error e s' ∧ s'.log = s.log ∧ s'.loadedServices = s.loadedServices ∧
      s'.startedServices = s.startedServices ∧ Ordered app s' := by
  unfold load
  rcases services_registered hordered with ⟨-, -, e, hrun⟩ | ⟨hservices, hrun⟩
  · exact ⟨e, s, by rw [EStateM.run_bind, hrun], rfl, rfl, rfl, hordered⟩
  · rw [EStateM.run_bind, hrun]
    rcases run_ensureRuntimeCommandsRegistered app
        { s with servicesInOrder := app.order, servicesRegistered := true } with
      ⟨-, -, e, hcommands⟩ | ⟨hcommands, hrun'⟩
    · exact ⟨e, { s with servicesInOrder := app.order, servicesRegistered := true },
        by simp only [EStateM.run_bind, hcommands], rfl, rfl, rfl, rfl⟩
    · obtain ⟨e, hhook⟩ : ∃ e, app.hooks .load = some e :=
        Option.isSome_iff_exists.1 ((h.resolve_left hservices).resolve_left hcommands)
      exact ⟨e, { s with
          servicesInOrder := app.order, servicesRegistered := true, runtimeCommandsRegistered := true },
        by simp only [EStateM.run_bind, hrun', hhook]; rfl, rfl, rfl, rfl, rfl⟩

/-- The application when `Load` gets to the services. -/
def atServices (app : Application) (s : ApplicationState) : ApplicationState :=
  { s with
    servicesInOrder := app.order
    servicesRegistered := true
    runtimeCommandsRegistered := true
    loadedServices := [] }

theorem run_load_ready (hordered : Ordered app s) (h : ¬Unready app s) :
    (load app).run s = (forwardStage .load .unload (·.loadedServices)
      (fun s => { s with loadedServices := [] }) app.order).run (atServices app s) := by
  obtain ⟨hservices, hcommands, hhook⟩ := by simpa only [Unready, not_or] using h
  have hrun := (services_registered hordered).resolve_left fun h => hservices ⟨h.1, h.2.1⟩
  have hrun' := (run_ensureRuntimeCommandsRegistered app
    { s with servicesInOrder := app.order, servicesRegistered := true }).resolve_left
      fun h => hcommands ⟨h.1, h.2.1⟩
  rw [Option.not_isSome_iff_eq_none] at hhook
  unfold load
  rw [EStateM.run_bind, hrun.2]
  simp only [EStateM.run_bind, hrun'.2, hhook]
  rfl

/-- The services are gone through from there. -/
theorem rollsBack_atServices (app : Application) (s : ApplicationState) :
    RollsBack (forwardStage .load .unload (·.loadedServices) (fun s => { s with loadedServices := [] }) app.order)
      (atServices app s) .load .unload (·.loadedServices)
      (fun s => (s.startedServices, s.servicesInOrder, s.servicesRegistered)) app.order := by
  refine rollsBack_forwardStage ?_ ?_ ?_ ?_ ?_
  · exact fun _ _ => rfl
  · exact fun _ _ => rfl
  · exact fun _ _ => rfl
  · exact fun _ _ => rfl
  · exact fun _ => ⟨rfl, rfl, rfl⟩

theorem rollsBack_start (hook : app.hooks .start = none) : RollsBack (start app) s .start .stop (·.startedServices)
    (fun s => (s.loadedServices, s.servicesInOrder, s.servicesRegistered)) s.servicesInOrder := by
  have hrun : (start app).run s = (forwardStage .start .stop (·.startedServices)
      (fun s => { s with startedServices := [] }) s.servicesInOrder).run { s with startedServices := [] } := by
    simp only [start, hook]
    rfl
  refine RollsBack.of_run (rollsBack_forwardStage ?_ ?_ ?_ ?_ ?_) hrun rfl rfl
  · exact fun _ _ => rfl
  · exact fun _ _ => rfl
  · exact fun _ _ => rfl
  · exact fun _ _ => rfl
  · exact fun _ => ⟨rfl, rfl, rfl⟩

theorem RollsBack.map {β : Type} {x : Lifecycle Unit} {stage undo : Stage}
    {kept : ApplicationState → List Service} {services : List Service}
    (h : RollsBack x s stage undo kept others services) (f : α → β) :
    RollsBack x s stage undo kept (fun s => f (others s)) services := by
  constructor
  · intro hnone
    obtain ⟨s', hrun, hlog, hkept, hothers⟩ := h.returns hnone
    exact ⟨s', hrun, hlog, hkept, congrArg f hothers⟩
  · intro before service rest e hservices hbefore hthrows
    obtain ⟨error, s', hrun, hlog, hquiet, hloud, hothers⟩ := h.throws before service rest e hservices hbefore hthrows
    exact ⟨error, s', hrun, hlog, hquiet, hloud, congrArg f hothers⟩

theorem rollsBack_load (hordered : Ordered app s) (h : ¬Unready app s) :
    RollsBack (load app) s .load .unload (·.loadedServices) (·.startedServices) app.order :=
  ((rollsBack_atServices app s).map Prod.fst).of_run (run_load_ready hordered h) rfl rfl

theorem run_start_hook {e : Thrown} (hook : app.hooks .start = some e) : (start app).run s = .error e s := by
  simp only [start, hook]
  rfl

/-! ## `Stop` and `Unload` -/

theorem goesBack_stop (app : Application) (s : ApplicationState) :
    GoesBack (stop app) s .stop (app.hooks .stop) (·.startedServices) (·.loadedServices) :=
  ⟨_, run_stop app s, rfl, rfl, rfl⟩

theorem goesBack_unload (app : Application) (s : ApplicationState) :
    GoesBack (unload app) s .unload (app.hooks .unload) (·.loadedServices) (·.startedServices) :=
  ⟨_, run_unload app s, rfl, rfl, rfl⟩

/-! ## Every sequence of calls -/

theorem Ordered.load (h : Ordered app s) : Ordered app (after (load app) s) := by
  by_cases hready : Unready app s
  · obtain ⟨e, s', hrun, -, -, -, hordered⟩ := run_load_unready h hready
    rw [after_error hrun]
    exact hordered
  · have hsame : after (Loader.load app) s = after (forwardStage .load .unload (·.loadedServices)
        (fun s => { s with loadedServices := [] }) app.order) (atServices app s) := by
      unfold after
      rw [run_load_ready h hready]
    have hothers := (rollsBack_atServices app s).after_others
    rw [← hsame] at hothers
    obtain ⟨-, horder, hregistered⟩ := by simpa only [Prod.mk.injEq] using hothers
    rw [Ordered, horder, hregistered]
    rfl

theorem Ordered.start (h : Ordered app s) : Ordered app (after (start app) s) := by
  cases hook : app.hooks .start with
  | some e =>
      rw [after_error (run_start_hook hook)]
      exact h
  | none =>
      have hothers := (rollsBack_start (s := s) hook).after_others
      obtain ⟨-, horder, hregistered⟩ := by simpa only [Prod.mk.injEq] using hothers
      rw [Ordered, horder, hregistered]
      exact h

theorem Called.ordered (h : Called app s) : Ordered app s := by
  induction h with
  | created app => rfl
  | load _ ih => exact ih.load
  | start _ ih => exact ih.start
  | stop _ ih =>
      rw [after_finish (run_stop _ _)]
      exact ih
  | unload _ ih =>
      rw [after_finish (run_unload _ _)]
      exact ih
  | @rethrow app s x _ ih =>
      rw [Ordered, order_rethrow]
      show s.servicesInOrder.map _ = if s.servicesRegistered then _ else _
      rw [ih]
      split <;> rfl

/-- **Stages run in batch order and roll back exactly**, whatever has been called before and whatever throws.
`Load` gets to the services unless it throws before, and `Start` unless `OnStart` throws. -/
theorem stages_roll_back (app : Application) (s : ApplicationState) (h : Called app s) :
    InBatchOrder app.services app.order ∧
    (Unready app s → ∃ e s', (load app).run s = .error e s' ∧ s'.log = s.log ∧
      s'.loadedServices = s.loadedServices ∧ s'.startedServices = s.startedServices) ∧
    (¬Unready app s →
      RollsBack (load app) s .load .unload (·.loadedServices) (·.startedServices) app.order) ∧
    (∀ e, app.hooks .start = some e → (start app).run s = .error e s) ∧
    (app.hooks .start = none →
      RollsBack (start app) s .start .stop (·.startedServices) (·.loadedServices)
        (if s.servicesRegistered then app.order else [])) ∧
    GoesBack (stop app) s .stop (app.hooks .stop) (·.startedServices) (·.loadedServices) ∧
    GoesBack (unload app) s .unload (app.hooks .unload) (·.loadedServices) (·.startedServices) := by
  have hordered := h.ordered
  refine ⟨inBatchOrder app, ?_, rollsBack_load hordered, fun e => run_start_hook, ?_, goesBack_stop app s,
    goesBack_unload app s⟩
  · intro hready
    obtain ⟨e, s', hrun, hlog, hloaded, hstarted, -⟩ := run_load_unready hordered hready
    exact ⟨e, s', hrun, hlog, hloaded, hstarted⟩
  · intro hook
    have hstart := (rollsBack_start (s := s) hook).map Prod.fst
    rw [hordered] at hstart
    exact hstart

end

def startingService : Service := ⟨"svc_b1", 1, fun _ => none⟩

/-- Its `Start` throws. -/
def failingService : Service := ⟨"svc_b2_fail", 2, fun stage => if stage = .start then some .unknown else none⟩

/-- The application of a failed start. -/
def failingApplication : Application := { services := [startingService, failingService] }

theorem failingApplication_order : failingApplication.order = [startingService, failingService] :=
  List.mergeSort_of_pairwise (by decide)

/-- The service that has been started is stopped, and the exception is that of the other one. -/
theorem stages_roll_back_start : ∃ s s', Called failingApplication s ∧
    (start failingApplication).run s = .error .unknown s' ∧
    s'.log = s.log ++ [⟨.start, "svc_b1", true⟩, ⟨.start, "svc_b2_fail", false⟩, ⟨.stop, "svc_b1", true⟩] ∧
    s'.startedServices = [] := by
  have hloaded : after (load failingApplication) {} = loadedState failingApplication := by
    refine after_ok (run_load_returns ?_ ?_)
    · simp [Unprepared, failingApplication, duplicateName, startingService, failingService]
    · rw [failingApplication_order]
      simp [Throws, startingService, failingService]
  have hcalled : Called failingApplication (loadedState failingApplication) := by
    rw [← hloaded]
    exact .load (.created _)
  have hstart := (stages_roll_back _ _ hcalled).2.2.2.2.1 rfl
  obtain ⟨error, s', hrun, hlog, hquiet, -, -⟩ := hstart.throws [startingService] failingService [] .unknown
    failingApplication_order (by simp [Throws, startingService]) rfl
  obtain ⟨rfl, hkept⟩ := hquiet (by simp [Throws, startingService])
  exact ⟨_, s', hcalled, hrun, hlog, hkept⟩

end Loader

end SomeServer
