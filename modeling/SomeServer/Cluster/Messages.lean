/-
# SomeServer.Cluster.Messages — whose requests are executed for a player

A gate forwards what a client asks for to the game of its player, and names itself in the request; the
game looks only at whether the player is online. So a request is executed for the gate session that
holds the player as long as nothing changes hands while it is on its way. `executes_for_owner` says this
of every run of a cluster; the condition (`Admits`) is about the sections that hand a player over.

The history (`checked`) has, for each thread of the game, the player whose session it has found online
for a request that it has not yet executed.
-/
import SomeServer.Cluster.World
import SomeServer.Game.Sessions

namespace SomeServer

open Lib

/-- The player that a forwarded request is for, and the gate session that has sent it: the process it
comes from, and the session number that this process has put in. -/
def GameMessage.forwarded (message : GameMessage) : Option (PlayerId × GateSession) :=
  match message.payload with
  | .forwardPlayerMessageRequest _ gate playerId _ =>
      some (playerId, ⟨message.source.serviceType, message.source.instanceId, gate.sessionId⟩)
  | _ => none

/-- The player whose state a section of the game changes on request. -/
def Act.executesFor : Act → Option PlayerId
  | .runtime (.handleRename p _) => some p
  | .runtime (.handleEcho p) => some p
  | _ => none

/-- A cluster, with the players that have been checked written down. -/
abbrev CheckedCluster (T : Type) := Cluster T × (ClusterThread T → Option PlayerId)

namespace CheckedCluster

variable {T : Type}

/-- A message that has been sent, and that the game has not yet dealt with. -/
def OnTheWay (s : Cluster T) (message : GameMessage) : Prop :=
  message ∈ s.gameInbox ∨ ∃ u, s.answering (.game u) = some message

/-- The player for whom a section of thread `t` finds the session online that a request needs. -/
def checks (s : Cluster T) (t : ClusterThread T) : (a : ClusterAct) → a.Reply → Option PlayerId
  | .game (.session (.snapshot p)), session =>
      if (session : Option PlayerSessionRecord).any (fun record => record.state = .online) ∧
          ((s.answering t).bind GameMessage.forwarded).map Prod.fst = some p then some p
      else none
  | _, _ => none

/-- Whether a section ends what the thread has checked: the request is executed, or answered, or the
next message taken. -/
def ends : ClusterAct → Bool
  | .game (.ipc (.sendProcessPayload _ _)) => true
  | .game a => a.executesFor.isSome
  | .gameReceive => true
  | _ => false

/-- The condition on the sections of a run:
* a gate sends a request of a session only while the online record of the player, if there is one, names
  that session;
* a gate session is accepted for a player, or put back into its record, only while every request of the
  player that is on its way is from that session;
* a record keeps its gate session between the check of a request and its execution. -/
def Admits (cfg : GameConfiguration) (t : ClusterThread T) (a : ClusterAct) (i : ClusterInput)
    (s : CheckedCluster T) : Prop :=
  match a with
  | .gate (.sendProcessPayload _ (.forwardPlayerMessageRequest _ gate p _)) =>
      ∀ g life u, t = .gate g life u → ∀ record, s.1.game.sessions p = some record →
        record.state = .online → record.gate = ⟨kGateServiceType, g, gate.sessionId⟩
  | .game a => ∀ game r, s.1.game.exec cfg t i.game a = some (game, r) →
      (∀ p gate, a.accepts r = some (p, gate) →
        ∀ m sender, OnTheWay s.1 m → m.forwarded = some (p, sender) → gate = sender) ∧
      (∀ p record, a = .session (.releaseRestore p record) → record.state = .online →
        ∀ m sender, OnTheWay s.1 m → m.forwarded = some (p, sender) → record.gate = sender) ∧
      ∀ u p, s.2 (.game u) = some p → (game.sessions p).map PlayerSessionRecord.gate =
        (s.1.game.sessions p).map PlayerSessionRecord.gate
  | _ => True

variable [DecidableEq T]

/-- The cluster, with what its threads have checked. -/
def machine (cfg : GameConfiguration) :
    Machine (ClusterThread T) ClusterAct ClusterAct.Reply ClusterInput (CheckedCluster T) :=
  (Cluster.machine cfg).withHistory fun t a _ s _ r checked =>
    match checks s t a r with
    | some p => Function.update checked t (some p)
    | none => if ends a then Function.update checked t none else checked

/-- The invariant. -/
structure Consistent (s : CheckedCluster T) : Prop where
  owned : ∀ m p sender, OnTheWay s.1 m → m.forwarded = some (p, sender) →
    ∀ record, s.1.game.sessions p = some record → record.state = .online → record.gate = sender
  checked : ∀ t p, s.2 t = some p → ∃ u m sender, t = .game u ∧ s.1.answering t = some m ∧
    m.forwarded = some (p, sender) ∧
      (s.1.game.sessions p).map PlayerSessionRecord.gate = some sender

variable {cfg : GameConfiguration} {t : ClusterThread T} {a : ClusterAct} {i : ClusterInput}
  {s s' : CheckedCluster T} {r : a.Reply} {o : ClusterOp}

theorem machine_exec (h : (machine cfg).exec t a i s = some (s', r)) :
    s.1.exec cfg t i a = some (s'.1, r) ∧ s'.2 = match checks s.1 t a r with
      | some p => Function.update s.2 t (some p)
      | none => if ends a then Function.update s.2 t none else s.2 :=
  Machine.withHistory_exec h

/-! ## One section -/

/-- What a thread has checked after a section was checked before, or has just been. -/
theorem checked_cases {u : ClusterThread T} {p : PlayerId}
    (hlog : s'.2 = match checks s.1 t a r with
      | some p => Function.update s.2 t (some p)
      | none => if ends a then Function.update s.2 t none else s.2) (hu : s'.2 u = some p) :
    s.2 u = some p ∧ (u = t → ends a = false) ∨ u = t ∧ checks s.1 t a r = some p := by
  rw [hlog] at hu
  by_cases hut : u = t
  · subst hut
    -- a section that checks writes the player down, one that ends forgets it
    cases hchecks : checks s.1 u a r with
    | some q =>
        rw [hchecks] at hu
        simp only [Function.update_self] at hu
        exact .inr ⟨rfl, hu⟩
    | none =>
        rw [hchecks] at hu
        cases hends : ends a with
        | true => simp [hends] at hu
        | false =>
            simp only [hends] at hu
            exact .inl ⟨hu, fun _ => rfl⟩
  · refine .inl ⟨?_, fun h => absurd h hut⟩
    split at hu
    · rwa [Function.update_of_ne hut] at hu
    · split at hu
      · rwa [Function.update_of_ne hut] at hu
      · exact hu

omit [DecidableEq T] in
/-- A check finds the session of the player online for a request of the thread. -/
theorem checks_game {s : Cluster T} {a : Act} {r : a.Reply} {game : GameProcess (ClusterThread T)}
    {env : Env} {p : PlayerId} (h : checks s t (.game a) r = some p)
    (hx : s.game.exec cfg t env a = some (game, r)) :
    game = s.game ∧ (∃ record, s.game.sessions p = some record ∧ record.state = .online) ∧
      ∃ m sender, s.answering t = some m ∧ m.forwarded = some (p, sender) := by
  cases a with
  | session b =>
      cases b with
      | snapshot q =>
          simp only [GameProcess.exec, GameProcess.execSession, Option.some.injEq, Prod.mk.injEq] at hx
          obtain ⟨hgame, rfl⟩ := hx
          simp only [checks, Option.ite_none_right_eq_some, Option.some.injEq, Option.any_eq_true,
            decide_eq_true_eq, Option.map_eq_some_iff, Option.bind_eq_some_iff] at h
          obtain ⟨⟨⟨record, hrecord, hon⟩, ⟨q', sender⟩, ⟨m, hm, hf⟩, rfl⟩, rfl⟩ := h
          exact ⟨hgame.symm, ⟨record, hrecord, hon⟩, m, sender, hm, hf⟩
      | _ => cases h
  | _ => cases h

omit [DecidableEq T] in
/-- A section that is not the game's own. -/
theorem Consistent.other (hI : s.Consistent) (hgame : s'.1.game = s.1.game)
    (hmessages : ∀ m p sender, OnTheWay s'.1 m → m.forwarded = some (p, sender) → OnTheWay s.1 m ∨
      ∀ record, s.1.game.sessions p = some record → record.state = .online → record.gate = sender)
    (hchecked : ∀ u p, s'.2 u = some p → s.2 u = some p ∧ s'.1.answering u = s.1.answering u) :
    s'.Consistent where
  owned m p sender hm hf record hp hon := by
    rw [hgame] at hp
    rcases hmessages m p sender hm hf with hold | hnew
    · exact hI.owned m p sender hold hf record hp hon
    · exact hnew record hp hon
  checked u p hu := by
    obtain ⟨hold, hsame⟩ := hchecked u p hu
    rw [hsame, hgame]
    exact hI.checked u p hold

theorem Consistent.gate {a : GateAct} {r : a.Reply} (hI : s.Consistent)
    (hok : Admits cfg t (.gate a) i s) (hx : (machine cfg).exec t (.gate a) i s = some (s', r)) :
    s'.Consistent := by
  obtain ⟨hexec, hlog⟩ := machine_exec hx
  obtain ⟨g, life, u, gate, rfl, -, -, hs⟩ := Cluster.exec_gate hexec
  have hlog : s'.2 = s.2 := hlog
  obtain ⟨-, -, -, hgame, hanswering⟩ := Cluster.gatePosts_frame (s := { s.1 with
    gates := Function.update s.1.gates g gate
    owners := (s.1.served g i.fault a).1 }) (g := g) (x := i.gate.sent) a
  rw [← hs] at hgame hanswering
  refine hI.other hgame (fun m p sender hm hf => ?_) fun v p hv => ?_
  -- the gate may have posted a message, and the condition speaks of that one
  · rcases hm with hinbox | ⟨v, hv⟩
    · rw [hs] at hinbox
      rcases Cluster.gatePosts_game hinbox with hold | ⟨payload, rfl, -, rfl⟩
      · exact .inl (.inl hold)
      · refine .inr fun record hp hon => ?_
        cases payload with
        | forwardPlayerMessageRequest requestId gate q command =>
            cases hf
            exact hok g life u rfl record hp hon
        | _ => cases hf
    · rw [hanswering] at hv
      exact .inl (.inr ⟨v, hv⟩)
  · rw [hlog] at hv
    exact ⟨hv, congrFun hanswering v⟩

theorem Consistent.game {a : Act} {r : a.Reply} (hI : s.Consistent)
    (hok : Admits cfg t (.game a) i s) (hx : (machine cfg).exec t (.game a) i s = some (s', r)) :
    s'.Consistent := by
  obtain ⟨hexec, hlog⟩ := machine_exec hx
  obtain ⟨u, game, rfl, hstep, hs⟩ := Cluster.exec_game hexec
  obtain ⟨haccept, hrestore, hkept⟩ := hok game r hstep
  obtain ⟨-, -, -, hgame, hinbox⟩ := Cluster.gamePosts_frame (t := .game u)
    (s := { s.1 with game }) (x := i.game.sent) a
  have hanswering := Cluster.gamePosts_answering (t := .game u)
    (s := { s.1 with game }) (x := i.game.sent) a
  rw [← hs] at hgame hinbox hanswering
  -- the game takes messages off their way, and puts none on it
  have hontheway : ∀ m, OnTheWay s'.1 m → OnTheWay s.1 m := by
    rintro m (hm | ⟨v, hv⟩)
    · rw [hinbox] at hm
      exact .inl hm
    · rw [hanswering] at hv
      refine .inr ⟨v, ?_⟩
      split at hv
      · by_cases hvu : ClusterThread.game v = .game u
        · rw [hvu] at hv
          simp at hv
        · rwa [Function.update_of_ne hvu] at hv
      · exact hv
  constructor
  · intro m p sender hm hf record hp hon
    rw [hgame] at hp
    -- a record is online as before, or it is accepted or restored now
    rcases GameProcess.online_cases hstep hp hon with hold | hnew | hback
    · exact hI.owned m p sender (hontheway m hm) hf record hold hon
    · exact haccept p record.gate hnew m sender (hontheway m hm) hf
    · exact hrestore p record hback hon m sender (hontheway m hm) hf
  · intro v p hv
    rw [hgame]
    -- the player was checked before, or the snapshot has just been taken
    rcases checked_cases hlog hv with ⟨hold, hends⟩ | ⟨rfl, hchecks⟩
    · obtain ⟨w, m, sender, rfl, hm, hf, hgate⟩ := hI.checked v p hold
      refine ⟨w, m, sender, rfl, ?_, hf, (hkept w p hold).trans hgate⟩
      rw [hanswering]
      split
      · have hvu : ClusterThread.game w ≠ .game u := fun h => absurd (hends h) (by simp [ends])
        rwa [Function.update_of_ne hvu]
      · exact hm
    · obtain ⟨hsame, ⟨record, hrecord, hon⟩, m, sender, hm, hf⟩ := checks_game hchecks hstep
      have hgate := hI.owned m p sender (.inr ⟨u, hm⟩) hf record hrecord hon
      refine ⟨u, m, sender, rfl, ?_, hf, ?_⟩
      · rw [hanswering]
        split
        · cases hchecks
        · exact hm
      · rw [hsame, hrecord, Option.map_some, hgate]

/-- Every section keeps the invariant. -/
theorem Consistent.step (hI : s.Consistent) (hok : Admits cfg t a i s)
    (hx : (machine cfg).exec t a i s = some (s', r)) : s'.Consistent := by
  cases a with
  | gate a => exact hI.gate hok hx
  | game a => exact hI.game hok hx
  -- the readers and a restart leave the game alone, and a message only changes hands
  | gateReceive =>
      obtain ⟨hexec, hlog⟩ := machine_exec hx
      obtain ⟨g, life, u, -, -, -, hs⟩ := Cluster.exec_gateReceive hexec
      have hlog : s'.2 = s.2 := hlog
      refine hI.other (by rw [hs]) (fun m p sender hm _ => .inl ?_) fun v p hv => ?_
      · rwa [hs] at hm
      · rw [hlog] at hv
        exact ⟨hv, by rw [hs]⟩
  | restart g =>
      obtain ⟨hexec, hlog⟩ := machine_exec hx
      obtain ⟨-, hs⟩ := Cluster.exec_restart hexec
      have hlog : s'.2 = s.2 := hlog
      refine hI.other (by rw [hs]) (fun m p sender hm _ => .inl ?_) fun v p hv => ?_
      · rwa [hs] at hm
      · rw [hlog] at hv
        exact ⟨hv, by rw [hs]⟩
  | gameReceive =>
      obtain ⟨hexec, hlog⟩ := machine_exec hx
      obtain ⟨u, rfl, htaken, hs⟩ := Cluster.exec_gameReceive hexec
      have hlog : s'.2 = Function.update s.2 (.game u) none := hlog
      refine hI.other (by rw [hs]) (fun m p sender hm _ => .inl ?_) fun v p hv => ?_
      · rw [hs] at hm
        rcases hm with hinbox | ⟨v, hv⟩
        · exact .inl (List.mem_of_mem_eraseIdx hinbox)
        · by_cases hvu : ClusterThread.game v = .game u
          · simp only [hvu, Function.update_self, Option.some.injEq] at hv
            exact .inl (hv ▸ List.mem_of_getElem? htaken)
          · exact .inr ⟨v, by simpa only [Function.update_of_ne hvu] using hv⟩
      -- what the reader had checked is forgotten with its last message
      · have hvu : v ≠ .game u := by
          rintro rfl
          rw [hlog, Function.update_self] at hv
          cases hv
        rw [hlog, Function.update_of_ne hvu] at hv
        exact ⟨hv, by rw [hs]; exact Function.update_of_ne hvu ..⟩

/-- A section of one thread is not felt by another. -/
theorem frame {u : ClusterThread T} (hx : (machine cfg).exec t a i s = some (s', r)) (hu : u ≠ t) :
    s'.1.answering u = s.1.answering u ∧ s'.2 u = s.2 u := by
  obtain ⟨hexec, hlog⟩ := machine_exec hx
  constructor
  · cases a with
    | gate a =>
        obtain ⟨g, life, v, gate, -, -, -, hs⟩ := Cluster.exec_gate hexec
        rw [hs]
        exact congrFun (Cluster.gatePosts_frame a).2.2.2.2 u
    | game a =>
        obtain ⟨v, game, -, -, hs⟩ := Cluster.exec_game hexec
        rw [hs, Cluster.gamePosts_answering]
        split
        · exact Function.update_of_ne hu ..
        · rfl
    | gateReceive =>
        obtain ⟨g, life, v, -, -, -, hs⟩ := Cluster.exec_gateReceive hexec
        rw [hs]
    | gameReceive =>
        obtain ⟨v, -, -, hs⟩ := Cluster.exec_gameReceive hexec
        rw [hs]
        exact Function.update_of_ne hu ..
    | restart g =>
        obtain ⟨-, hs⟩ := Cluster.exec_restart hexec
        rw [hs]
  -- only the thread itself checks and forgets
  · rw [hlog]
    split
    · exact Function.update_of_ne hu ..
    · split
      · exact Function.update_of_ne hu ..
      · rfl

/-! ## Outlines -/

/-- A request is executed only for the gate session that the record of its player names. -/
def ExecutesForOwner (t : ClusterThread T) (a : ClusterAct) (s : CheckedCluster T) : Prop :=
  ∀ b p m q sender, a = .game b → b.executesFor = some p → s.1.answering t = some m →
    m.forwarded = some (q, sender) →
      q = p ∧ (s.1.game.sessions p).map PlayerSessionRecord.gate = some sender

/-- The thread is not at work on a request. -/
def Quiet (t : ClusterThread T) (s : CheckedCluster T) : Prop :=
  ∀ m, s.1.answering t = some m → m.forwarded = none

/-- The outline of the requests. -/
def outline (cfg : GameConfiguration) :
    Outline (ClusterThread T) ClusterOp ClusterAct ClusterInput (CheckedCluster T) where
  inv := Consistent
  rest := Quiet
  start _ _ _ := True
  ok t _ a i s := Admits cfg t a i s
  event t _ a _ s s' := ExecutesForOwner t a s ∧
    ∀ u, u ≠ t → s'.1.answering u = s.1.answering u ∧ s'.2 u = s.2 u
  rely t _ s s' := s'.1.answering t = s.1.answering t ∧ s'.2 t = s.2 t
  rely_refl _ _ _ := ⟨rfl, rfl⟩
  rely_trans _ _ _ _ _ h h' := ⟨h'.1.trans h.1, h'.2.trans h.2⟩
  rest_rely _ _ _ h hrest m hm := hrest m (h.1 ▸ hm)

variable {α : Type}

/-- Programs of threads that are not at work on a request. -/
theorem quiet_all {x : ClusterCall α} (hx : x.All fun a => a ≠ .gameReceive) (hs : Quiet t s) :
    (outline cfg).Safe (machine cfg) t o (fun _ s' => Quiet t s') x s := by
  refine Outline.safe_of_all (fun e s s' _ hrely hq m hm => hq m (hrely.1 ▸ hm)) ?_ (fun _ _ h => h)
    hx hs
  intro a i s s' r ha hI hq hok hstep
  refine ⟨⟨?_, fun u hu => frame hstep hu⟩, hI.step hok hstep, ?_⟩
  -- without a request at hand nothing is executed for one
  · intro b p m q sender _ _ hm hf
    rw [hq m hm] at hf
    cases hf
  · obtain ⟨hexec, -⟩ := machine_exec hstep
    intro m hm
    -- nor is one fetched
    cases a with
    | gate a =>
        obtain ⟨g, life, v, gate, -, -, -, hs⟩ := Cluster.exec_gate hexec
        rw [hs, (Cluster.gatePosts_frame a).2.2.2.2] at hm
        exact hq m hm
    | game a =>
        obtain ⟨v, game, -, -, hs⟩ := Cluster.exec_game hexec
        rw [hs, Cluster.gamePosts_answering] at hm
        split at hm
        · simp at hm
        · exact hq m hm
    | gateReceive =>
        obtain ⟨g, life, v, -, -, -, hs⟩ := Cluster.exec_gateReceive hexec
        rw [hs] at hm
        exact hq m hm
    | gameReceive => exact absurd rfl ha
    | restart g =>
        obtain ⟨-, hs⟩ := Cluster.exec_restart hexec
        rw [hs] at hm
        exact hq m hm

/-- The rule of one section of a handler that is at work on a message: what it executes, it has
checked. -/
theorem handling_seq {a : Act} {k : a.Reply → Call α} {Q : α → CheckedCluster T → Prop}
    {m : GameMessage} (hs : s.1.answering t = some m)
    (hchecked : ∀ p, a.executesFor = some p → s.2 t = some p)
    (hk : ∀ s₁ i s₂ r, s₁.1.answering t = some m → s₁.2 t = s.2 t →
      (machine cfg).exec t (.game a) i s₁ = some (s₂, r) →
      ((outline cfg).comap gameActs).Safe ((machine cfg).comap gameActs) t o Q (k r) s₂) :
    ((outline cfg).comap gameActs).Safe ((machine cfg).comap gameActs) t o Q (call a >>= k) s := by
  intro s₁ hrely hI i s₂ r hok hx
  have hstep : (machine cfg).exec t (.game a) i s₁ = some (s₂, r) := by
    obtain ⟨x, hx', heq⟩ := Option.map_eq_some_iff.mp hx
    cases heq
    exact hx'
  have hok : Admits cfg t (.game a) i s₁ := hok
  have hhandling : s₁.1.answering t = some m := hrely.1.trans hs
  refine ⟨⟨?_, fun u hu => frame hstep hu⟩, Consistent.step hI hok hstep,
    hk s₁ i s₂ r hhandling hrely.2 hstep⟩
  intro b p m' q sender hb hexecutes hm hf
  cases hb
  obtain ⟨-, m'', sender', -, hm'', hf', hgate⟩ :=
    Consistent.checked hI t p (hrely.2.trans (hchecked p hexecutes))
  rw [hm, Option.some.injEq] at hm''
  rw [← hm'', hf, Option.some.injEq, Prod.mk.injEq] at hf'
  exact ⟨hf'.1, hf'.2 ▸ hgate⟩

/-- A section other than a send leaves the thread at work on its message. -/
theorem answering_step {a : Act} {r : a.Reply} {m : GameMessage}
    (hsend : ∀ target payload, a ≠ .ipc (.sendProcessPayload target payload))
    (hx : (machine cfg).exec t (.game a) i s = some (s', r)) (hs : s.1.answering t = some m) :
    s'.1.answering t = some m := by
  obtain ⟨hexec, -⟩ := machine_exec hx
  obtain ⟨u, game, -, -, hs'⟩ := Cluster.exec_game hexec
  rw [hs', Cluster.gamePosts_answering]
  split
  · exact absurd rfl (hsend _ _)
  · exact hs

/-- After its send the thread is done with its message. -/
theorem respond_quiet {m : GameMessage} (hs : s.1.answering t = some m) (source : ProcessId)
    (payload : Payload) :
    ((outline cfg).comap gameActs).Safe ((machine cfg).comap gameActs) t o
      (fun _ s' => Quiet t s') (respond source payload) s := by
  refine handling_seq hs (fun p h => by cases h) fun s₁ i s₂ r _ _ hstep => ?_
  have hquiet : Quiet t s₂ := by
    obtain ⟨hexec, -⟩ := machine_exec hstep
    obtain ⟨u, game, -, -, hs₂⟩ := Cluster.exec_game hexec
    intro m' hm'
    rw [hs₂, Cluster.gamePosts_answering] at hm'
    simp at hm'
  split <;> exact hquiet

/-- A request is checked before it is executed. -/
theorem forwardPlayerMessage_safe {m : GameMessage} {p : PlayerId} {sender : GateSession}
    (hs : s.1.answering t = some m) (hf : m.forwarded = some (p, sender)) (command : PlayerCommand) :
    ((outline cfg).comap gameActs).Safe ((machine cfg).comap gameActs) t o
      (fun _ s' => s'.1.answering t = some m) (forwardPlayerMessage p command) s := by
  refine handling_seq hs (fun p h => by cases h) fun s₁ i s₂ session hs₁ _ hstep => ?_
  have hs₂ : s₂.1.answering t = some m := answering_step (fun _ _ h => by cases h) hstep hs₁
  -- without a record, or with one that is not online, the request is refused
  cases session with
  | none => exact hs₂
  | some session =>
      dsimp only
      split
      · exact hs₂
      · rename_i honline
        have hchecked : s₂.2 t = some p := by
          obtain ⟨-, hlog⟩ := machine_exec hstep
          have hcheck : checks s₁.1 t (.game (.session (.snapshot p))) (some session) = some p := by
            simp only [ne_eq, not_not] at honline
            simp [checks, honline, hs₁, hf]
          rw [hlog, hcheck]
          exact Function.update_self ..
        refine handling_seq hs₂ (fun p h => by cases h) fun s₃ i₃ s₄ held hs₃ hsame₃ hstep₃ => ?_
        have hs₄ : s₄.1.answering t = some m := answering_step (fun _ _ h => by cases h) hstep₃ hs₃
        have hchecked₄ : s₄.2 t = some p := by
          obtain ⟨-, hlog⟩ := machine_exec hstep₃
          exact (congrFun hlog t).trans (hsame₃.trans hchecked)
        -- the check holds on to the section that executes: nobody else forgets it
        have hexecute : ∀ (b : RuntimeAct) (k : b.Reply → Call (ResultCode × String)),
            (∀ q, (Act.runtime b).executesFor = some q → q = p) →
            (∀ r s₅, s₅.1.answering t = some m →
              ((outline cfg).comap gameActs).Safe ((machine cfg).comap gameActs) t o
                (fun _ s' => s'.1.answering t = some m) (k r) s₅) →
            ((outline cfg).comap gameActs).Safe ((machine cfg).comap gameActs) t o
              (fun _ s' => s'.1.answering t = some m) (call (.runtime b) >>= k) s₄ := by
          intro b k hb hk
          refine handling_seq hs₄ (fun q hq => hb q hq ▸ hchecked₄) fun s₅ i₅ s₆ r hs₅ _ hstep₅ => ?_
          exact hk r s₆ (answering_step (fun _ _ h => by cases h) hstep₅ hs₅)
        split
        · exact hs₄
        · cases command with
          | rename displayName =>
              refine hexecute (.handleRename p displayName) _ (fun q hq => ?_) fun r s₅ hs₅ => ?_
              · exact (Option.some.inj hq).symm
              · split <;> exact hs₅
          | echo =>
              refine hexecute (.handleEcho p) _ (fun q hq => ?_) fun r s₅ hs₅ => ?_
              · exact (Option.some.inj hq).symm
              · split <;> exact hs₅
          | rejected message => exact hs₄

/-! ### The cluster's programs -/

/-- A handler for whatever the reader of the game has taken. -/
theorem deliver_message (m : GameMessage) (op : Op) (hop : m.op = some op) (fuel : Nat)
    (hs : s.1.answering t = some m) :
    (outline cfg).Safe (machine cfg) t o (fun _ s' => Quiet t s') ((op.code cfg fuel).lift gameActs)
      s := by
  have hother : m.forwarded = none → (outline cfg).Safe (machine cfg) t o (fun _ s' => Quiet t s')
      ((op.code cfg fuel).lift gameActs) s := by
    intro hf
    refine quiet_all (Prog.All.lift (fun _ h => by cases h) _) fun m' hm' => ?_
    rw [hs] at hm'
    exact Option.some.inj hm' ▸ hf
  obtain ⟨source, payload⟩ := m
  cases payload with
  | forwardPlayerMessageRequest requestId gate p command =>
      obtain rfl : Op.forward source p command = op := Option.some.inj hop
      apply Outline.Safe.lift
      refine Outline.Safe.bind (Outline.Safe.bind ((forwardPlayerMessage_safe hs rfl command).mono ?_))
      intro response s₁ hs₁
      exact Outline.Safe.bind ((respond_quiet hs₁ source _).mono fun _ _ hquiet => hquiet)
  | loginPlayerRequest | playerDisconnected | kickAccountSession => exact hother rfl

/-- The reader of the game takes a message, and handles it. -/
theorem gameDeliver_quiet (fuel : Nat) (u : T) :
    (outline cfg).Safe (machine cfg) (.game u) o (fun _ s' => Quiet (.game u) s')
      (ClusterOp.gameDeliver.code cfg fuel (.game u)) s := by
  intro s₁ hrely hI i s₂ m hok hx
  have hexecutes : ExecutesForOwner (.game u) .gameReceive s₁ := by
    intro b p m' q sender hb
    cases hb
  have hok : Admits cfg (.game u) .gameReceive i s₁ := hok
  refine ⟨⟨hexecutes, fun v hv => frame hx hv⟩, Consistent.step hI hok hx, ?_⟩
  have hanswering : s₂.1.answering (.game u) = some m := by
    obtain ⟨hexec, -⟩ := machine_exec hx
    obtain ⟨v, -, -, hs₂⟩ := Cluster.exec_gameReceive hexec
    rw [hs₂]
    exact Function.update_self ..
  dsimp only [Prog.bind]
  -- a message that no handler takes is no request
  cases hop : GameMessage.op m with
  | none =>
      intro m' hm'
      rw [hanswering] at hm'
      obtain rfl := Option.some.inj hm'
      unfold GameMessage.op at hop
      unfold GameMessage.forwarded
      split at hop <;> simp_all
  | some op =>
      exact Outline.Safe.bind ((deliver_message m op hop fuel hanswering).mono fun _ _ hq => hq)

theorem code_quiet (fuel : Nat) (hs : Quiet t s) :
    (outline cfg).Safe (machine cfg) t o (fun _ s' => Quiet t s') (o.code cfg fuel t) s := by
  have hgate : ∀ {α : Type} (x : GateCall α),
      (x.lift gateActs).All fun a => a ≠ ClusterAct.gameReceive :=
    fun x => Prog.All.lift (fun _ h => by cases h) x
  have hgame : ∀ {α : Type} (x : Call α),
      (x.lift gameActs).All fun a => a ≠ ClusterAct.gameReceive :=
    fun x => Prog.All.lift (fun _ h => by cases h) x
  unfold ClusterOp.code
  split
  · exact quiet_all ((hgate _).bind fun _ => trivial) hs
  · exact quiet_all (Prog.All.bind ⟨(by simp), fun _ => trivial⟩ fun message =>
      (hgate _).bind fun _ => trivial) hs
  · exact quiet_all ((hgame _).bind fun _ => trivial) hs
  · exact gameDeliver_quiet fuel _
  · exact quiet_all ⟨(by simp), fun _ => trivial⟩ hs
  · exact hs

/-- The condition on the moves of a run. -/
def guard (cfg : GameConfiguration)
    (c : Pool (ClusterThread T) ClusterOp ClusterAct ClusterAct.Reply Unit (CheckedCluster T)) :
    Move (ClusterThread T) ClusterOp ClusterInput → Prop
  | .start _ _ => True
  | .act t i => ∀ o a k, c.threads t = some (o, .act a k) → Admits cfg t a i c.shared

theorem proved (fuel : Nat) :
    (outline cfg).Proved (machine cfg) (fun (t : ClusterThread T) o => o.code cfg fuel t) (guard cfg)
      (fun _ _ _ _ => True) where
  start _ _ _ _ _ := trivial
  ok _ _ o a k _ hg _ ht := hg o a k ht
  safe _ _ _ _ hrest _ := (code_quiet fuel hrest).mono fun _ _ h => ⟨trivial, h⟩
  compatible _ _ _ _ _ _ _ _ _ _ _ _ hevent u hu := hevent.2 u hu

end CheckedCluster

/-! ## Every run -/

namespace Cluster

open CheckedCluster

variable {T : Type} [DecidableEq T] {cfg : GameConfiguration}

/-- **Requests are executed for the owner.** In every run of a cluster in which the condition holds at
every step, when the game is about to execute a forwarded request, the session record of the player
that it is executed for names the gate session that has sent the request. -/
theorem executes_for_owner (fuel : Nat) {s₀ : Cluster T} (hinbox : s₀.gameInbox = [])
    (hanswering : ∀ t, s₀.answering t = none)
    {c c' : Pool (ClusterThread T) ClusterOp ClusterAct ClusterAct.Reply Unit (CheckedCluster T)}
    (hrun : Run (CheckedCluster.machine cfg) (fun t o => o.code cfg fuel t) (guard cfg)
      (Pool.initial (s₀, fun _ => none)) c)
    {t : ClusterThread T} {o : ClusterOp} {a : Act} {k : a.Reply → ClusterCall Unit} {i : ClusterInput}
    (ht : c.threads t = some (o, .act (.game a) k)) (hg : guard cfg c (.act t i))
    (hmove : c.move (CheckedCluster.machine cfg) (fun t o => o.code cfg fuel t) (.act t i) = some c')
    {p q : PlayerId} {m : GameMessage} {sender : GateSession} (hp : a.executesFor = some p)
    (hm : c.shared.1.answering t = some m) (hf : m.forwarded = some (q, sender)) :
    q = p ∧ ∃ record, c.shared.1.game.sessions p = some record ∧ record.gate = sender := by
  have hstart : CheckedCluster.Consistent (s₀, fun _ => none) := by
    refine ⟨fun m p sender hm => ?_, fun t p h => by cases h⟩
    rcases hm with hm | ⟨u, hu⟩
    · rw [show (s₀, _).1.gameInbox = [] from hinbox] at hm
      cases hm
    · rw [show (s₀, _).1.answering (.game u) = none from hanswering _] at hu
      cases hu
  have hquiet : ∀ t, CheckedCluster.Quiet t (s₀, fun _ => none) := by
    intro t m hm
    rw [show (s₀, _).1.answering t = none from hanswering t] at hm
    cases hm
  -- the invariant of the run, and what it says of the section at hand
  have hgood := (proved fuel).sound (Outline.good_initial hstart hquiet) hrun
  obtain ⟨-, hevent⟩ := ((proved fuel).move hgood hg hmove).2
  obtain ⟨hsame, hgate⟩ := (hevent o _ k ht).1 a p m q sender rfl hp hm hf
  exact ⟨hsame, Option.map_eq_some_iff.mp hgate⟩

/-! ### A request of the owner -/

/-- A computable condition that is enough, for a game with one thread. -/
def admitted (t : ClusterThread Unit) (a : ClusterAct) (s : CheckedCluster Unit) : Bool :=
  match a with
  | .gate (.sendProcessPayload _ (.forwardPlayerMessageRequest _ gate p _)) =>
      match t with
      | .gate g _ _ => (s.1.game.sessions p).all fun record =>
          record.gate = ⟨kGateServiceType, g, gate.sessionId⟩
      | _ => true
  | .game (.session (.snapshot _)) => true
  | .game (.session _) => s.1.gameInbox.all (fun m => m.forwarded.isNone) &&
      ((s.1.answering (.game ())).bind GameMessage.forwarded).isNone && (s.2 (.game ())).isNone
  | _ => true

theorem admits_of_admitted {t : ClusterThread Unit} {a : ClusterAct} {i : ClusterInput}
    {s : CheckedCluster Unit} (h : admitted t a s = true) : CheckedCluster.Admits cfg t a i s := by
  unfold CheckedCluster.Admits
  split
  · rename_i target requestId gate p command
    intro g life u ht record hrecord _
    simp only [admitted, ht, hrecord, Option.all_some, decide_eq_true_eq] at h
    exact h
  · rename_i b
    intro game r hstep
    -- a section that writes session records runs while no request is on its way
    by_cases hb : ∃ c, b = .session c ∧ ∀ p, c ≠ .snapshot p
    · obtain ⟨c, rfl, hc⟩ := hb
      have hidle : s.1.gameInbox.all (fun m => m.forwarded.isNone) = true ∧
          ((s.1.answering (.game ())).bind GameMessage.forwarded).isNone = true ∧
            (s.2 (.game ())).isNone = true := by
        unfold admitted at h
        split at h
        · rename_i heq
          cases heq
        · rename_i q heq
          cases heq
          exact absurd rfl (hc q)
        · simpa only [Bool.and_eq_true, and_assoc] using h
        · rename_i hnot
          exact absurd rfl (hnot c)
      obtain ⟨hinbox, hanswering, hchecked⟩ := hidle
      have hnone : ∀ m x, CheckedCluster.OnTheWay s.1 m → m.forwarded ≠ some x := by
        rintro m x (hm | ⟨u, hu⟩) hf
        · have hm' := List.all_eq_true.mp hinbox m hm
          simp [hf] at hm'
        · simp [hu, hf] at hanswering
      refine ⟨fun p gate _ m sender hm hf => absurd hf (hnone m _ hm),
        fun p record _ _ m sender hm hf => absurd hf (hnone m _ hm), fun u p hp => ?_⟩
      rw [show s.2 (.game u) = none from Option.isNone_iff_eq_none.mp hchecked] at hp
      cases hp
    -- the other sections of the game leave the records alone
    · have hsame : game.sessions = s.1.game.sessions ∧ b.accepts r = none := by
        cases b with
        | session c =>
            cases c with
            | snapshot p =>
                simp only [GameProcess.exec, GameProcess.execSession, Option.some.injEq,
                  Prod.mk.injEq] at hstep
                exact ⟨by rw [← hstep.1], rfl⟩
            | _ => exact absurd ⟨_, rfl, fun _ h => by cases h⟩ hb
        | _ => exact ⟨GameProcess.exec_sessions_frame (fun _ h => by cases h) hstep, rfl⟩
      refine ⟨fun p gate haccepts => ?_, fun p record hrestore => ?_, fun u p _ => by rw [hsame.1]⟩
      · rw [hsame.2] at haccepts
        cases haccepts
      · exact absurd ⟨_, hrestore, fun _ h => by cases h⟩ hb
  · exact trivial

/-- The check of a move. -/
def admittedMove
    (c : Pool (ClusterThread Unit) ClusterOp ClusterAct ClusterAct.Reply Unit (CheckedCluster Unit)) :
    Move (ClusterThread Unit) ClusterOp ClusterInput → Bool
  | .start _ _ => true
  | .act t _ =>
      match c.threads t with
      | some (_, .act a _) => admitted t a c.shared
      | _ => true

theorem guard_of_admittedMove
    (c : Pool (ClusterThread Unit) ClusterOp ClusterAct ClusterAct.Reply Unit (CheckedCluster Unit))
    (m : Move (ClusterThread Unit) ClusterOp ClusterInput) (h : admittedMove c m = true) :
    CheckedCluster.guard cfg c m := by
  cases m with
  | start t o => exact trivial
  | act t i =>
      intro o a k ht
      simp only [admittedMove, ht] at h
      exact admits_of_admitted h

/-- The thread of gate `g` in its first life. -/
def gateThread (g : UInt32) : ClusterThread Unit := .gate g 0 ()

/-- Sections of a gate, the session table being walked in this order. -/
def gateRuns (g : UInt32) (n : Nat) (order : List GateSessionId) :
    List (Move (ClusterThread Unit) ClusterOp ClusterInput) :=
  List.replicate n (.act (gateThread g) { gate := { order }, game := GameProcess.emptyServers 0 })

/-- Sections of the game; its reader takes the message at this place. -/
def gameRuns (n : Nat) (redis : RedisReply String) (picked : Nat) :
    List (Move (ClusterThread Unit) ClusterOp ClusterInput) :=
  List.replicate n (.act (.game ())
    { game := { GameProcess.emptyServers 1000 with redis }, picked })

/-- A client connects to gate `g` as its first, and asks to log in. -/
def connects (g : UInt32) : List (Move (ClusterThread Unit) ClusterOp ClusterInput) :=
  .start (gateThread g) (.gate .acceptReadySocket) :: gateRuns g 1 [] ++
    .start (gateThread g) (.gate (.clientLogin 1 "p" "a" "c")) :: gateRuns g 8 []

/-- The game's servers have nothing stored: the account gets player 100001. -/
def firstLogin : List (Move (ClusterThread Unit) ClusterOp ClusterInput) :=
  .start (.game ()) .gameDeliver :: gameRuns 4 .nil 0 ++ gameRuns 1 (.status "OK") 0 ++
    gameRuns 1 (.integer 100001) 0 ++ gameRuns 14 (.status "OK") 0

/-- Gate `g` gets the game's answer. -/
def answered (g : UInt32) : List (Move (ClusterThread Unit) ClusterOp ClusterInput) :=
  .start (gateThread g) .gateDeliver :: gateRuns g 7 []

/-- The client at gate 1 sends a message to its player. -/
def asksEcho : List (Move (ClusterThread Unit) ClusterOp ClusterInput) :=
  .start (gateThread 1) (.gate (.clientMessage 1 .echo)) :: gateRuns 1 4 [1]

/-- The game comes as far as to execute it. -/
def checksEcho : List (Move (ClusterThread Unit) ClusterOp ClusterInput) :=
  .start (.game ()) .gameDeliver :: gameRuns 3 .nil 0

/-- The same account logs in at gate 2, which tells gate 1 to close its session. -/
def connectsElsewhere : List (Move (ClusterThread Unit) ClusterOp ClusterInput) :=
  .start (gateThread 2) (.gate .acceptReadySocket) :: gateRuns 2 1 [] ++
    .start (gateThread 2) (.gate (.clientLogin 1 "p" "a" "c")) :: gateRuns 2 9 []

/-- A cluster, before anything has happened. -/
def idleCluster :
    Pool (ClusterThread Unit) ClusterOp ClusterAct ClusterAct.Reply Unit (CheckedCluster Unit) :=
  Pool.initial ({ game := { ipc := { self := some ⟨gameProcess, 1⟩ } } }, fun _ => none)

/-- The request of the client that is logged in is about to be executed, for its gate session. -/
theorem executes_for_owner_echo : ∃ c, idleCluster.play (CheckedCluster.machine GameProcess.soloGame)
      (fun t o => o.code GameProcess.soloGame 8 t) admittedMove
      (connects 1 ++ firstLogin ++ answered 1 ++ asksEcho ++ checksEcho) = some c ∧
    c.pending (.game ()) = some (.game (.runtime (.handleEcho 100001))) ∧
    ∃ record, c.shared.1.game.sessions 100001 = some record ∧ record.gate = ⟨20, 1, 1⟩ := by
  have hend : (idleCluster.play (CheckedCluster.machine GameProcess.soloGame)
      (fun t o => o.code GameProcess.soloGame 8 t) admittedMove
      (connects 1 ++ firstLogin ++ answered 1 ++ asksEcho ++ checksEcho)).map (fun c =>
        (c.pending (.game ()), c.shared.1.answering (.game ()),
          (c.move (CheckedCluster.machine GameProcess.soloGame)
            (fun t o => o.code GameProcess.soloGame 8 t)
            (.act (.game ()) { game := GameProcess.emptyServers 1000 })).isSome)) =
      some (some (.game (.runtime (.handleEcho 100001))),
        some ⟨⟨20, 1⟩, .forwardPlayerMessageRequest 1 ⟨20, 1, 1⟩ 100001 .echo⟩, true) := rfl
  -- the run and its next section are evaluated, and the theorem is applied at its end
  obtain ⟨c, hc, hcs⟩ := Option.map_eq_some_iff.mp hend
  simp only [Prod.mk.injEq] at hcs
  obtain ⟨hpending, hanswering, hmove⟩ := hcs
  obtain ⟨o, k, ht⟩ := Pool.pending_eq_some.mp hpending
  obtain ⟨c', hc'⟩ := Option.isSome_iff_exists.mp hmove
  have hguard : CheckedCluster.guard GameProcess.soloGame c
      (.act (.game ()) { game := GameProcess.emptyServers 1000 }) := by
    refine guard_of_admittedMove c _ ?_
    simp only [admittedMove, ht]
    rfl
  obtain ⟨-, record, hrecord, hgate⟩ := executes_for_owner 8 rfl (fun _ => rfl)
    (Run.refl.play guard_of_admittedMove hc) ht hguard hc' rfl hanswering rfl
  exact ⟨c, hc, hpending, record, hrecord, hgate⟩

/-! ### A request that has been overtaken -/

/-- The game handles the second login while the request is still on its way. -/
def takenOver : List (Move (ClusterThread Unit) ClusterOp ClusterInput) :=
  .start (.game ()) .gameDeliver :: gameRuns 5 .nil 1

/-- The player has been taken over by gate 2, and the request of gate 1 is executed for it: the section is
the thread's next one, and runs. -/
theorem executes_for_other : ∃ c m, Run (CheckedCluster.machine GameProcess.soloGame)
      (fun t o => o.code GameProcess.soloGame 8 t) (fun _ _ => True) idleCluster c ∧
    c.pending (.game ()) = some (.game (.runtime (.handleEcho 100001))) ∧
    c.shared.1.answering (.game ()) = some m ∧ m.forwarded = some (100001, ⟨20, 1, 1⟩) ∧
    (c.shared.1.game.sessions 100001).map PlayerSessionRecord.gate = some ⟨20, 2, 1⟩ ∧
    ∃ c', c.move (CheckedCluster.machine GameProcess.soloGame)
      (fun t o => o.code GameProcess.soloGame 8 t)
      (.act (.game ()) { game := GameProcess.emptyServers 1000 }) = some c' ∧
      (c'.shared.1.game.runtime 100001).map PlayerInstance.commandCount = some 1 := by
  have hend : (idleCluster.play (CheckedCluster.machine GameProcess.soloGame)
      (fun t o => o.code GameProcess.soloGame 8 t) (fun _ _ => true)
      (connects 1 ++ firstLogin ++ answered 1 ++ asksEcho ++ connectsElsewhere ++ takenOver ++
        checksEcho)).map (fun c =>
        (c.pending (.game ()), c.shared.1.answering (.game ()),
          (c.shared.1.game.sessions 100001).map PlayerSessionRecord.gate,
          (c.move (CheckedCluster.machine GameProcess.soloGame)
            (fun t o => o.code GameProcess.soloGame 8 t)
            (.act (.game ()) { game := GameProcess.emptyServers 1000 })).map fun c' =>
              (c'.shared.1.game.runtime 100001).map PlayerInstance.commandCount)) =
      some (some (.game (.runtime (.handleEcho 100001))),
        some ⟨⟨20, 1⟩, .forwardPlayerMessageRequest 1 ⟨20, 1, 1⟩ 100001 .echo⟩,
        some ⟨20, 2, 1⟩, some (some 1)) := rfl
  -- the same requests with a take-over in between, which the condition forbids
  obtain ⟨c, hc, hcs⟩ := Option.map_eq_some_iff.mp hend
  simp only [Prod.mk.injEq] at hcs
  obtain ⟨hpending, hanswering, hgate, hmove⟩ := hcs
  obtain ⟨c', hc', hcount⟩ := Option.map_eq_some_iff.mp hmove
  exact ⟨c, _, Run.refl.play (fun _ _ _ => trivial) hc, hpending, hanswering, rfl, hgate, c', hc', hcount⟩

end Cluster

end SomeServer
