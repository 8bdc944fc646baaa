/-
# SomeServer.Gate.Tables — what the tables of a gate say, and when they agree

`GateTables` is what three tables of a gate say of each other: the state of each connection, the player
of each active session, the session to which a player's messages are routed; next to them, the
connections whose login waits for a game, and how far each handler is (`HandlerPhase`). A session may be
active on a connection that is not bound only while a handler or a waiting login is concerned with it,
and a route may lead nowhere only while a handler is about to remove it (`Agree`).
-/
import SomeServer.Gate.Sections

namespace SomeServer

/-! ## How far a handler is -/

/-- The part of a handler in which the tables may disagree. -/
inductive HandlerPhase where
  | resting
  /-- The connection is marked anonymous, and its login is not yet registered. -/
  | logging (connectionId : ConnectionId)
  /-- The pending login is taken, and its connection not yet marked bound. -/
  | binding (connectionId : ConnectionId)
  /-- The connection is closed, and its session not yet removed. -/
  | closing (connectionId : ConnectionId)
  /-- The session is removed, and the route of its player not yet. -/
  | unbinding (playerId : PlayerId) (gateSessionId : GateSessionId)
deriving DecidableEq, Repr

namespace HandlerPhase

/-- The connection that a handler is concerned with. -/
def connection : HandlerPhase → Option ConnectionId
  | .logging connectionId => some connectionId
  | .binding connectionId => some connectionId
  | .closing connectionId => some connectionId
  | _ => none

end HandlerPhase

/-! ## What the tables say -/

/-- The three tables, the logins that wait for a game, and the phase of each handler. -/
structure GateTables (T : Type) where
  connections : ConnectionId → Option GateConnectionState
  owner : GateSessionId → Option PlayerId
  routes : PlayerId → Option GateSessionId
  waiting : RequestId → Option ConnectionId
  phase : T → HandlerPhase

namespace GateTables

variable {T : Type}

/-- Somebody is concerned with the connection: a handler, or a login that waits. -/
def Underway (v : GateTables T) (c : ConnectionId) : Prop :=
  (∃ t, (v.phase t).connection = some c) ∨ ∃ r, v.waiting r = some c

/-- Somebody other than the handler of thread `t` is. -/
def UnderwayElse (v : GateTables T) (t : T) (c : ConnectionId) : Prop :=
  (∃ u, u ≠ t ∧ (v.phase u).connection = some c) ∨ ∃ r, v.waiting r = some c

/-- The invariant. -/
structure Agree (v : GateTables T) : Prop where
  bound : ∀ c, v.connections c = some .bound → (v.owner c).isSome = true
  active : ∀ c, (v.owner c).isSome = true → v.connections c = some .bound ∨ v.Underway c
  routed : ∀ p k, v.routes p = some k → v.owner k = some p ∨ ∃ t, v.phase t = .unbinding p k
  closing : ∀ t c, v.phase t = .closing c → v.connections c = some .closed

/-- What no handler takes back: a closed connection stays closed, and a session stays active until its
connection is closed. -/
def Stays (v v' : GateTables T) : Prop :=
  ∀ c, (v.connections c = some .closed → v'.connections c = some .closed) ∧
    ((v.owner c).isSome = true → (v'.owner c).isSome = true ∨ v'.connections c = some .closed)

theorem Stays.refl (v : GateTables T) : v.Stays v := fun _ => ⟨id, .inl⟩

theorem Stays.trans {v₁ v₂ v₃ : GateTables T} (h : v₁.Stays v₂) (h' : v₂.Stays v₃) :
    v₁.Stays v₃ := by
  intro c
  refine ⟨fun hc => (h' c).1 ((h c).1 hc), fun ho => ?_⟩
  rcases (h c).2 ho with ho' | hc'
  · exact (h' c).2 ho'
  · exact .inr ((h' c).1 hc')

variable [DecidableEq T] {v : GateTables T} {t : T} {c : ConnectionId} {ph : HandlerPhase}

/-- The tables after the handler of `t` has come to another phase. -/
def setPhase (v : GateTables T) (t : T) (ph : HandlerPhase) : GateTables T :=
  { v with phase := Function.update v.phase t ph }

theorem setPhase_self (h : v.phase t = ph) : v.setPhase t ph = v := by
  subst h
  simp [setPhase]

theorem phase_setPhase_of_ne {u : T} (h : u ≠ t) : (v.setPhase t ph).phase u = v.phase u :=
  Function.update_of_ne h ..

@[simp] theorem phase_setPhase_self : (v.setPhase t ph).phase t = ph := Function.update_self ..

/-- Whoever is concerned with a connection stays so while another handler goes on. -/
theorem Underway.setPhase (h : v.Underway c) (hne : (v.phase t).connection ≠ some c) :
    (v.setPhase t ph).Underway c := by
  rcases h with ⟨u, hu⟩ | hr
  · have hut : u ≠ t := by
      rintro rfl
      exact hne hu
    exact .inl ⟨u, by rwa [phase_setPhase_of_ne hut]⟩
  · exact .inr hr

theorem UnderwayElse.setPhase (h : v.UnderwayElse t c) : (v.setPhase t ph).Underway c := by
  rcases h with ⟨u, hut, hu⟩ | hr
  · exact .inl ⟨u, by rwa [phase_setPhase_of_ne hut]⟩
  · exact .inr hr

theorem underway_own (h : ph.connection = some c) : (v.setPhase t ph).Underway c :=
  .inl ⟨t, by rwa [phase_setPhase_self]⟩

omit [DecidableEq T] in
theorem Underway.split (h : v.Underway c) :
    v.UnderwayElse t c ∨ (v.phase t).connection = some c := by
  rcases h with ⟨u, hu⟩ | hr
  · by_cases hut : u = t
    · exact .inr (hut ▸ hu)
    · exact .inl (.inl ⟨u, hut, hu⟩)
  · exact .inl (.inr hr)

/-- A handler goes on to a phase that is not about a route or a closed connection. -/
theorem Agree.setPhase (h : v.Agree)
    (hactive : ∀ c, (v.owner c).isSome = true → v.connections c = some .bound ∨
      (v.setPhase t ph).Underway c)
    (hrouted : ∀ p k, v.phase t = .unbinding p k → v.routes p ≠ some k)
    (hclosing : ∀ c, ph = .closing c → v.connections c = some .closed) :
    (v.setPhase t ph).Agree where
  bound := h.bound
  active := hactive
  routed p k hp := by
    rcases h.routed p k hp with ho | ⟨u, hu⟩
    · exact .inl ho
    · have hut : u ≠ t := by
        rintro rfl
        exact hrouted p k hu hp
      exact .inr ⟨u, by rwa [phase_setPhase_of_ne hut]⟩
  closing u c hu := by
    by_cases hut : u = t
    · subst hut
      rw [phase_setPhase_self] at hu
      exact hclosing c hu
    · rw [phase_setPhase_of_ne hut] at hu
      exact h.closing u c hu

/-! ## What one section does to them -/

/-- A connection's state is written. -/
def setConnection (v : GateTables T) (c : ConnectionId) (state : GateConnectionState) :
    GateTables T :=
  { v with connections := Function.update v.connections c (some state) }

omit [DecidableEq T] in
/-- A connection that nobody closed gets a state other than bound; if a session is active on it, somebody
is concerned with it. -/
theorem Agree.setConnection {state : GateConnectionState} (h : v.Agree)
    (hopen : v.connections c ≠ some .closed) (hstate : state ≠ .bound)
    (hactive : (v.owner c).isSome = true → v.Underway c) : (v.setConnection c state).Agree where
  bound c' hc' := by
    by_cases hc : c' = c
    · subst hc
      simp only [GateTables.setConnection, Function.update_self, Option.some.injEq] at hc'
      exact absurd hc' hstate
    · simp only [GateTables.setConnection, Function.update_of_ne hc] at hc'
      exact h.bound c' hc'
  active c' ho := by
    by_cases hc : c' = c
    · subst hc
      exact .inr (hactive ho)
    · simp only [GateTables.setConnection, Function.update_of_ne hc]
      exact h.active c' ho
  routed := h.routed
  closing u c' hu := by
    have hclosed := h.closing u c' hu
    have hc : c' ≠ c := by
      rintro rfl
      exact hopen hclosed
    simpa only [GateTables.setConnection, Function.update_of_ne hc] using hclosed

omit [DecidableEq T] in
theorem stays_setConnection {state : GateConnectionState} (hopen : v.connections c ≠ some .closed) :
    v.Stays (v.setConnection c state) := by
  intro c'
  refine ⟨fun hc' => ?_, .inl⟩
  have hc : c' ≠ c := by
    rintro rfl
    exact hopen hc'
  simpa only [GateTables.setConnection, Function.update_of_ne hc] using hc'

/-- `MarkAnonymous`, by a handler that then is concerned with the connection. -/
theorem Agree.markAnonymous (h : v.Agree) (hph : v.phase t = .resting)
    (hopen : v.connections c ≠ some .closed) :
    ((v.setConnection c .anonymous).setPhase t (.logging c)).Agree := by
  have hstep : (v.setPhase t (.logging c)).Agree := by
    refine h.setPhase (fun c' ho => ?_) (fun p k hu => ?_) fun c' hc' => by cases hc'
    · exact (h.active c' ho).imp_right fun hu => hu.setPhase (by simp [hph, HandlerPhase.connection])
    · rw [hph] at hu
      cases hu
  exact hstep.setConnection hopen (by decide) fun _ => underway_own rfl

/-- `MarkBound`, by the handler that has logged the player in. -/
theorem Agree.markBound (h : v.Agree) (hph : v.phase t = .binding c)
    (hopen : v.connections c ≠ some .closed) (ho : (v.owner c).isSome = true) :
    ((v.setConnection c .bound).setPhase t .resting).Agree where
  bound c' hc' := by
    by_cases hc : c' = c
    · exact hc ▸ ho
    · simp only [GateTables.setConnection, GateTables.setPhase, Function.update_of_ne hc] at hc'
      exact h.bound c' hc'
  active c' ho' := by
    by_cases hc : c' = c
    · subst hc
      exact .inl (Function.update_self ..)
    · refine (h.active c' ho').imp (fun hb => ?_) fun hu => ?_
      · simpa only [GateTables.setConnection, GateTables.setPhase, Function.update_of_ne hc] using hb
      · have hne : (v.phase t).connection ≠ some c' := by
          rw [hph]
          exact fun heq => hc (Option.some.inj heq).symm
        exact hu.setPhase hne
  routed p k hp := by
    rcases h.routed p k hp with ho' | ⟨u, hu⟩
    · exact .inl ho'
    · have hut : u ≠ t := by
        rintro rfl
        rw [hph] at hu
        cases hu
      exact .inr ⟨u, by rw [phase_setPhase_of_ne hut]; exact hu⟩
  closing u c' hu := by
    by_cases hut : u = t
    · subst hut
      rw [phase_setPhase_self] at hu
      cases hu
    · rw [phase_setPhase_of_ne hut] at hu
      have hclosed := h.closing u c' hu
      have hc : c' ≠ c := by
        rintro rfl
        exact hopen hclosed
      simpa only [GateTables.setConnection, GateTables.setPhase, Function.update_of_ne hc] using hclosed

/-- A connection is closed by a handler that goes on to remove its session. -/
theorem Agree.close (h : v.Agree) (hph : v.phase t = .resting ∨ v.phase t = .closing c) :
    ((v.setConnection c .closed).setPhase t (.closing c)).Agree where
  bound c' hc' := by
    by_cases hc : c' = c
    · subst hc
      simp [GateTables.setConnection, GateTables.setPhase] at hc'
    · simp only [GateTables.setConnection, GateTables.setPhase, Function.update_of_ne hc] at hc'
      exact h.bound c' hc'
  active c' ho := by
    by_cases hc : c' = c
    · exact .inr (underway_own (congrArg some hc.symm))
    · refine (h.active c' ho).imp (fun hb => ?_) fun hu => ?_
      · simpa only [GateTables.setConnection, GateTables.setPhase, Function.update_of_ne hc] using hb
      · have hne : (v.phase t).connection ≠ some c' := by
          rcases hph with hph | hph
          · simp [hph, HandlerPhase.connection]
          · rw [hph]
            exact fun heq => hc (Option.some.inj heq).symm
        exact hu.setPhase hne
  routed p k hp := by
    rcases h.routed p k hp with ho | ⟨u, hu⟩
    · exact .inl ho
    · have hut : u ≠ t := by
        rintro rfl
        rcases hph with hph | hph <;> simp [hph] at hu
      exact .inr ⟨u, by rw [phase_setPhase_of_ne hut]; exact hu⟩
  closing u c' hu := by
    by_cases hc : c' = c
    · subst hc
      exact Function.update_self ..
    · have hut : u ≠ t := by
        rintro rfl
        rw [phase_setPhase_self] at hu
        exact hc (HandlerPhase.closing.inj hu).symm
      rw [phase_setPhase_of_ne hut] at hu
      simpa only [GateTables.setConnection, GateTables.setPhase, Function.update_of_ne hc] using
        h.closing u c' hu

omit [DecidableEq T] in
theorem stays_close : v.Stays (v.setConnection c .closed) := by
  intro c'
  refine ⟨fun hc' => ?_, .inl⟩
  by_cases hc : c' = c
  · subst hc
    exact Function.update_self ..
  · simpa only [GateTables.setConnection, Function.update_of_ne hc] using hc'

/-- The player of a gate session is written, or removed. -/
def setOwner (v : GateTables T) (k : GateSessionId) (p : Option PlayerId) : GateTables T :=
  { v with owner := Function.update v.owner k p }

omit [DecidableEq T] in
/-- `Activate`, while the handler is concerned with the connection, for a player whose session has no
route of another player. -/
theorem Agree.activate {p : PlayerId} (h : v.Agree) (hph : v.phase t = .binding c)
    (hother : ∀ q, v.owner c = some q → q = p ∨ v.routes q ≠ some c) :
    (v.setOwner c (some p)).Agree where
  bound c' hc' := by
    by_cases hc : c' = c
    · subst hc
      simp [setOwner]
    · simpa only [setOwner, Function.update_of_ne hc] using h.bound c' hc'
  active c' ho := by
    by_cases hc : c' = c
    · refine .inr (.inl ⟨t, ?_⟩)
      show (v.phase t).connection = some c'
      rw [hph, hc]
      rfl
    · simp only [setOwner, Function.update_of_ne hc] at ho
      exact h.active c' ho
  routed q k hq := by
    refine (h.routed q k hq).imp_left fun ho => ?_
    by_cases hk : k = c
    · subst hk
      rcases hother q ho with rfl | hne
      · exact Function.update_self ..
      · exact absurd hq hne
    · simpa only [setOwner, Function.update_of_ne hk] using ho
  closing := h.closing

omit [DecidableEq T] in
theorem stays_activate {p : PlayerId} : v.Stays (v.setOwner c (some p)) := by
  intro c'
  refine ⟨id, fun ho => .inl ?_⟩
  by_cases hc : c' = c
  · subst hc
    simp [setOwner]
  · simpa only [setOwner, Function.update_of_ne hc] using ho

/-- The session of a closed connection is removed by a handler that goes on to remove the route of its
player, if there is one. -/
theorem Agree.remove (h : v.Agree) (hph : v.phase t = .closing c)
    (hnext : ∀ p, v.owner c = some p → v.routes p = some c → ph = .unbinding p c)
    (hrest : ph = .resting ∨ ∃ p k, ph = .unbinding p k) :
    ((v.setOwner c none).setPhase t ph).Agree where
  bound c' hc' := by
    have hc : c' ≠ c := by
      rintro rfl
      have hclosed : v.connections c' = some .closed := h.closing t c' hph
      have hbound : v.connections c' = some .bound := hc'
      rw [hclosed] at hbound
      exact absurd hbound (by decide)
    simpa only [setOwner, GateTables.setPhase, Function.update_of_ne hc] using h.bound c' hc'
  active c' ho := by
    have hc : c' ≠ c := by
      rintro rfl
      simp [setOwner, GateTables.setPhase] at ho
    simp only [setOwner, GateTables.setPhase, Function.update_of_ne hc] at ho
    refine (h.active c' ho).imp_right fun hu => ?_
    have hne : (v.phase t).connection ≠ some c' := by
      rw [hph]
      exact fun heq => hc (Option.some.inj heq).symm
    exact hu.setPhase hne
  -- the route of the removed session is the next thing that its handler takes back
  routed p k hp := by
    rcases h.routed p k hp with ho | ⟨u, hu⟩
    · by_cases hk : k = c
      · subst hk
        exact .inr ⟨t, by rw [phase_setPhase_self]; exact hnext p ho hp⟩
      · exact .inl (by simpa only [setOwner, GateTables.setPhase, Function.update_of_ne hk] using ho)
    · have hut : u ≠ t := by
        rintro rfl
        rw [hph] at hu
        exact absurd hu (by simp)
      exact .inr ⟨u, by rw [phase_setPhase_of_ne hut]; exact hu⟩
  closing u c' hu := by
    by_cases hut : u = t
    · subst hut
      rw [phase_setPhase_self] at hu
      rcases hrest with rfl | ⟨p, k, rfl⟩ <;> simp at hu
    · rw [phase_setPhase_of_ne hut] at hu
      exact h.closing u c' hu

omit [DecidableEq T] in
theorem stays_remove (hclosed : v.connections c = some .closed) : v.Stays (v.setOwner c none) := by
  intro c'
  refine ⟨id, fun ho => ?_⟩
  by_cases hc : c' = c
  · exact .inr (hc ▸ hclosed)
  · exact .inl (by simpa only [setOwner, Function.update_of_ne hc] using ho)

/-- The route of a player is written, or removed. -/
def setRoute (v : GateTables T) (p : PlayerId) (k : Option GateSessionId) : GateTables T :=
  { v with routes := Function.update v.routes p k }

omit [DecidableEq T] in
/-- `BindPlayer`, to a session that is active for the player. -/
theorem Agree.bind {p : PlayerId} {k : GateSessionId} (h : v.Agree) (ho : v.owner k = some p) :
    (v.setRoute p (some k)).Agree where
  bound := h.bound
  active := h.active
  routed q k' hq := by
    by_cases hp : q = p
    · subst hp
      simp only [setRoute, Function.update_self, Option.some.injEq] at hq
      exact .inl (hq ▸ ho)
    · simp only [setRoute, Function.update_of_ne hp] at hq
      exact h.routed q k' hq
  closing := h.closing

/-- `UnbindPlayer`: afterwards the route of the player does not lead to the session. -/
theorem Agree.unbind {p : PlayerId} {k : GateSessionId} (h : v.Agree)
    (hph : v.phase t = .unbinding p k) :
    ((if v.routes p = some k then v.setRoute p none else v).setPhase t .resting).Agree := by
  have hroute : ∀ (w : GateTables T), w.Agree → w.phase t = .unbinding p k → w.routes p ≠ some k →
      (w.setPhase t .resting).Agree := by
    intro w hw hwph hne
    refine hw.setPhase (fun c ho => ?_) (fun q k' hu hq => ?_) fun c hc => by cases hc
    · exact (hw.active c ho).imp_right fun hu => hu.setPhase (by simp [hwph, HandlerPhase.connection])
    · rw [hwph] at hu
      obtain ⟨rfl, rfl⟩ := HandlerPhase.unbinding.inj hu
      exact hne hq
  split
  · have hdropped : (v.setRoute p none).Agree := by
      refine { bound := h.bound, active := h.active, routed := ?_, closing := h.closing }
      intro q k' hq
      by_cases hp : q = p
      · subst hp
        simp [setRoute] at hq
      · simp only [setRoute, Function.update_of_ne hp] at hq
        exact h.routed q k' hq
    exact hroute _ hdropped hph (by simp [setRoute])
  · exact hroute v h hph ‹_›

/-- A login waits, or waits no more. -/
def setWaiting (v : GateTables T) (r : RequestId) (c : Option ConnectionId) : GateTables T :=
  { v with waiting := Function.update v.waiting r c }

omit [DecidableEq T] in
/-- A login may stop waiting when a handler is concerned with its connection. -/
theorem Agree.setWaiting {r : RequestId} {w : Option ConnectionId} (h : v.Agree)
    (hkeep : ∀ c, v.waiting r = some c → ∃ u, (v.phase u).connection = some c) :
    (v.setWaiting r w).Agree where
  bound := h.bound
  active c ho := by
    refine (h.active c ho).imp_right ?_
    rintro (hu | ⟨r', hr'⟩)
    · exact .inl hu
    · by_cases hr : r' = r
      · subst hr
        exact .inl (hkeep c hr')
      · exact .inr ⟨r', by simpa only [GateTables.setWaiting, Function.update_of_ne hr]⟩
  routed := h.routed
  closing := h.closing

/-- The pending login takes over from the handler. -/
theorem Agree.register {r : RequestId} (h : v.Agree) (hph : v.phase t = .logging c)
    (hfree : v.waiting r = none) : ((v.setWaiting r (some c)).setPhase t .resting).Agree := by
  have hwaiting : (v.setWaiting r (some c)).Agree := h.setWaiting fun c' hc' => by
    rw [hfree] at hc'
    cases hc'
  refine hwaiting.setPhase (fun c' ho => (hwaiting.active c' ho).imp_right fun hu => ?_)
    (fun p k hu => ?_) fun c' hc' => by cases hc'
  · by_cases hc : c' = c
    · exact .inr ⟨r, by rw [hc]; exact Function.update_self ..⟩
    · apply hu.setPhase
      show (v.phase t).connection ≠ some c'
      rw [hph]
      exact fun heq => hc (Option.some.inj heq).symm
  · have hlogging : v.phase t = .unbinding p k := hu
    rw [hph] at hlogging
    cases hlogging

/-- The handler takes over from the pending login. -/
theorem Agree.take {r : RequestId} (h : v.Agree) (hph : v.phase t = .resting)
    (hwaits : v.waiting r = some c) :
    ((v.setPhase t (.binding c)).setWaiting r none).Agree := by
  have hbinding : (v.setPhase t (.binding c)).Agree := by
    refine h.setPhase (fun c' ho => ?_) (fun p k hu => ?_) fun c' hc' => by cases hc'
    · exact (h.active c' ho).imp_right fun hu => hu.setPhase (by simp [hph, HandlerPhase.connection])
    · rw [hph] at hu
      cases hu
  refine hbinding.setWaiting fun c' hc' => ⟨t, ?_⟩
  have hsame : v.waiting r = some c' := hc'
  rw [hwaits] at hsame
  rw [phase_setPhase_self]
  exact hsame

/-- A handler is done with a connection on which no session is active but for a bound one, or with which
somebody else is concerned. -/
theorem Agree.settle (h : v.Agree) (hph : v.phase t = .binding c)
    (hsettled : (v.owner c).isSome = true → v.connections c = some .bound ∨ v.UnderwayElse t c) :
    (v.setPhase t .resting).Agree := by
  refine h.setPhase (fun c' ho => ?_) (fun p k hu => ?_) fun c' hc' => by cases hc'
  · by_cases hc : c' = c
    · subst hc
      exact (hsettled ho).imp_right UnderwayElse.setPhase
    · refine (h.active c' ho).imp_right fun hu => hu.setPhase ?_
      rw [hph]
      exact fun heq => hc (Option.some.inj heq).symm
  · rw [hph] at hu
    cases hu

omit [DecidableEq T] in
/-- When no handler runs and no login waits, the tables agree. -/
theorem Agree.quiet (h : v.Agree) (hphase : ∀ t, v.phase t = .resting)
    (hwaiting : ∀ r, v.waiting r = none) :
    (∀ p k, v.routes p = some k → v.owner k = some p) ∧
      ∀ c, v.connections c = some .bound ↔ (v.owner c).isSome = true := by
  refine ⟨fun p k hp => ?_, fun c => ⟨h.bound c, fun ho => ?_⟩⟩
  · rcases h.routed p k hp with ho | ⟨t, ht⟩
    · exact ho
    · rw [hphase t] at ht
      cases ht
  · rcases h.active c ho with hb | ⟨t, ht⟩ | ⟨r, hr⟩
    · exact hb
    · rw [hphase t] at ht
      cases ht
    · rw [hwaiting r] at hr
      cases hr

end GateTables

end SomeServer
