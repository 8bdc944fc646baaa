/-
# SomeServer.Game.Sessions — the session records over every run

A session record is written by five operations, some of which look at its state first. It stays well
formed, and a disconnect of another gate session never touches it, as long as `ReleasePlayer` does not
put back a copy that has become stale: it saves the record, flushes without the session mutex, and
after a failed flush writes the saved record over whatever is there by then. `sessions_wellFormed` says
that this is the only way, for any number of threads and any replies of the servers.

The history (`SessionLog`) has the gate session that `ActivatePlayer` accepted last for each player, and
for each thread whether a player has been activated since the thread entered a release of it.
-/
import SomeServer.Game.Ownership

namespace SomeServer

open Lib

/-! ## Well-formed records -/

/-- What a record has to look like, `last` being the gate session that was activated last. -/
structure PlayerSessionRecord.WellFormed (cfg : GameConfiguration) (last : Option GateSession)
    (record : PlayerSessionRecord) : Prop where
  online : record.state = .online → record.detachDeadlineMs = 0 ∧ last = some record.gate
  detached : record.state = .detached → record.gate = {} ∧
    record.detachDeadlineMs = record.lastStateChangeMs + cfg.detachedTtlSeconds.toUInt64 * 1000

namespace PlayerSessionRecord

variable {cfg : GameConfiguration} {last : Option GateSession} {record : PlayerSessionRecord}
  {gate : GateSession} {nowMs : UInt64}

theorem wellFormed_activate : (record.activate gate nowMs).WellFormed cfg (some gate) where
  online _ := ⟨rfl, rfl⟩
  detached h := by cases h

theorem WellFormed.takeOver (h : record.WellFormed cfg last) (ho : record.state = .online) :
    (record.takeOver gate nowMs).WellFormed cfg (some gate) where
  online _ := ⟨(h.online ho).1, rfl⟩
  detached hd := by
    rw [show (record.takeOver gate nowMs).state = record.state from rfl, ho] at hd
    cases hd

theorem wellFormed_detach : (record.detach cfg nowMs).WellFormed cfg last where
  online h := by cases h
  detached _ := ⟨rfl, rfl⟩

/-- A record in transition has nothing to say. -/
theorem wellFormed_unloading :
    { record with state := .unloading, lastStateChangeMs := nowMs }.WellFormed cfg last where
  online h := by cases h
  detached h := by cases h

end PlayerSessionRecord

/-- Every record of the map is well formed. -/
def PlayerSessions.WellFormed (cfg : GameConfiguration) (last : PlayerId → Option GateSession)
    (m : PlayerSessions) : Prop :=
  ∀ p record, m p = some record → record.WellFormed cfg (last p)

namespace PlayerSessions

variable {cfg : GameConfiguration} {last : PlayerId → Option GateSession} {m : PlayerSessions}
  {p : PlayerId} {record : PlayerSessionRecord} {gate : GateSession} {nowMs : UInt64}

theorem WellFormed.set (h : m.WellFormed cfg last) (hr : record.WellFormed cfg (last p)) :
    (m.set p record).WellFormed cfg last := by
  intro q record' hq
  by_cases hp : q = p
  · subst hp
    obtain rfl : record = record' := by simpa [PlayerSessions.set] using hq
    exact hr
  · exact h q record' (by simpa [PlayerSessions.set, Function.update_of_ne hp] using hq)

/-- The record of a player is written together with the gate session that is accepted for it. -/
theorem WellFormed.accept (h : m.WellFormed cfg last) (hr : record.WellFormed cfg (some gate)) :
    (m.set p record).WellFormed cfg (Function.update last p (some gate)) := by
  intro q record' hq
  by_cases hp : q = p
  · subst hp
    obtain rfl : record = record' := by simpa [PlayerSessions.set] using hq
    rwa [Function.update_self]
  · rw [Function.update_of_ne hp]
    exact h q record' (by simpa [PlayerSessions.set, Function.update_of_ne hp] using hq)

theorem WellFormed.erase (h : m.WellFormed cfg last) :
    PlayerSessions.WellFormed cfg last (Function.update m p none) := by
  intro q record' hq
  by_cases hp : q = p
  · subst hp
    simp at hq
  · exact h q record' (by simpa [Function.update_of_ne hp] using hq)

theorem WellFormed.detachIf {matchesGate : GateSession → Bool} (h : m.WellFormed cfg last) :
    (m.detachIf cfg matchesGate p nowMs).1.WellFormed cfg last := by
  unfold PlayerSessions.detachIf
  split
  · exact h
  · split
    · exact h
    · split
      · exact h
      · exact h.set PlayerSessionRecord.wellFormed_detach

theorem WellFormed.releaseEnter (h : m.WellFormed cfg last) :
    (m.releaseEnter p nowMs).1.WellFormed cfg last := by
  unfold PlayerSessions.releaseEnter
  split
  · exact h
  · exact h.set PlayerSessionRecord.wellFormed_unloading

theorem WellFormed.reconcileLost {held : Bool} (h : m.WellFormed cfg last) :
    (m.reconcileLost cfg p nowMs held).1.WellFormed cfg last := by
  unfold PlayerSessions.reconcileLost
  split
  · exact h
  · split
    · exact h
    · split
      · exact h.set PlayerSessionRecord.wellFormed_detach
      · exact h
      · exact h
      · exact h

/-- The first section of `ActivatePlayer` accepts the gate session, or changes nothing. -/
theorem activateEnter_cases (p : PlayerId) (gate : GateSession) (nowMs : UInt64) (held : Bool)
    (m : PlayerSessions) :
    (∃ decision, m.activateEnter p gate nowMs held = (m, decision) ∧ decision ≠ .done .success) ∨
    ∃ record, m p = some record ∧
      (record.state = .online ∧ m.activateEnter p gate nowMs held =
          (m.set p (record.takeOver gate nowMs), .done .success) ∨
        record.state = .detached ∧ m.activateEnter p gate nowMs held =
          (m.set p (record.activate gate nowMs), .done .success)) := by
  unfold PlayerSessions.activateEnter
  cases m p with
  | none => exact .inl ⟨_, rfl, by decide⟩
  | some record =>
    by_cases hlost : (record.state.present && !held) = true
    · simp only [hlost, if_true]
      exact .inl ⟨_, rfl, by decide⟩
    · simp only [hlost]
      cases hstate : record.state with
      | online => exact .inr ⟨record, rfl, .inl ⟨hstate, rfl⟩⟩
      | detached => exact .inr ⟨record, rfl, .inr ⟨hstate, rfl⟩⟩
      | loading => exact .inl ⟨_, rfl, by decide⟩
      | unloading => exact .inl ⟨_, rfl, by decide⟩

/-- The first section of `ActivatePlayer` ends the call with this success, or with an error. -/
theorem activateEnter_done {p : PlayerId} {gate : GateSession} {nowMs : UInt64} {held : Bool}
    {m : PlayerSessions} {result : Result} (h : (m.activateEnter p gate nowMs held).2 = .done result)
    (hok : result.ok = true) : result = .success := by
  unfold PlayerSessions.activateEnter at h
  split at h
  · cases h
  · split at h
    · cases h
    · split at h <;> cases h <;> first | rfl | cases hok

/-- A disconnect of another gate session changes nothing. -/
theorem detachFrom_other (hother : ∀ record, m p = some record → record.gate ≠ gate) :
    (m.detachFrom cfg gate p nowMs).1 = m := by
  unfold PlayerSessions.detachFrom PlayerSessions.detachIf
  split
  · rfl
  · rename_i record hrecord
    split
    · rfl
    · simp [hother record hrecord]

/-- What is in the map after a write. -/
theorem set_cases {q : PlayerId} {record' : PlayerSessionRecord}
    (hq : (m.set p record) q = some record') : q = p ∧ record' = record ∨ m q = some record' := by
  by_cases hp : q = p
  · subst hp
    left
    exact ⟨rfl, by simpa [PlayerSessions.set, eq_comm] using hq⟩
  · right
    simpa [PlayerSessions.set, Function.update_of_ne hp] using hq

end PlayerSessions

/-! ## The history -/

/-- The gate session that a section accepts for a player. -/
def Act.accepts : (a : Act) → a.Reply → Option (PlayerId × GateSession)
  | .session (.activateEnter p gate), decision =>
      if decision = ActivateDecision.done .success then some (p, gate) else none
  | .session (.activateResume p gate), result =>
      if Result.ok result then some (p, gate) else none
  | .session (.activateInsert p gate), _ => some (p, gate)
  | _, _ => none

/-- Sections that may take back a record of the player that has this gate session. -/
def Act.takesBack (p : PlayerId) (gate : GateSession) : Act → Prop
  | .session (.detach q) => q = p
  | .session (.detachFrom q gate') => q = p ∧ gate' = gate
  | .session (.releaseEnter q) => q = p
  | .session (.releaseRestore q _) => q = p
  | .session (.releaseErase q) => q = p
  | .session (.reconcileLost action _) => action.playerId = p
  | _ => False

/-- The player whose release a section enters. -/
def Act.entersRelease : Act → Option PlayerId
  | .session (.releaseEnter p) => some p
  | _ => none

structure SessionLog (T : Type) where
  last : PlayerId → Option GateSession := fun _ => none
  activated : T → PlayerId → Bool := fun _ _ => false

namespace SessionLog

variable {T : Type} [DecidableEq T]

/-- What a section of thread `t` with reply `r` adds to the log. -/
def record (t : T) (a : Act) (r : a.Reply) (log : SessionLog T) : SessionLog T :=
  match a.accepts r with
  | some (p, gate) =>
      { last := Function.update log.last p (some gate)
        activated := fun u q => log.activated u q || decide (q = p) }
  | none =>
      match a.entersRelease with
      | some p => { log with activated := fun u q =>
                      if u = t ∧ q = p then false else log.activated u q }
      | none => log

end SessionLog

namespace GameProcess

variable {T : Type} [DecidableEq T]

/-- The process, with the accepted gate sessions written down. -/
def sessionMachine (cfg : GameConfiguration) :
    Machine T Act Act.Reply Env (GameProcess T × SessionLog T) :=
  (machine cfg).withHistory fun t a _ _ _ r log => log.record t a r

/-- The condition on a run: when `ReleasePlayer` puts a record back, no `ActivatePlayer` of the player has
returned ok since it has read it. -/
def restoreGuard (c : Pool T Op Act Act.Reply OpResult (GameProcess T × SessionLog T)) :
    Move T Op Env → Bool
  | .start _ _ => true
  | .act t _ =>
      match c.threads t with
      | some (_, .act (.session (.releaseRestore p _)) _) => !c.shared.2.activated t p
      | _ => true

variable {cfg : GameConfiguration} {t u : T} {o : Op} {a : Act} {i : Env} {p : PlayerId}
  {s s' : GameProcess T × SessionLog T} {r : a.Reply}

theorem sessionMachine_exec (h : (sessionMachine cfg).exec t a i s = some (s', r)) :
    s.1.exec cfg t i a = some (s'.1, r) ∧ s'.2 = s.2.record t a r :=
  Machine.withHistory_exec h

/-! ## What one section does -/

/-- The records are well formed with respect to the log. -/
def SessionsWellFormed (cfg : GameConfiguration) (s : GameProcess T × SessionLog T) : Prop :=
  s.1.sessions.WellFormed cfg s.2.last

/-- No release of thread `u` has its saved record made stale unnoticed. -/
def Noticed (u : T) (s s' : GameProcess T × SessionLog T) : Prop :=
  ∀ p, s'.2.activated u p = false → s.2.activated u p = false ∧ s'.2.last p = s.2.last p

omit [DecidableEq T] in
theorem Noticed.trans {s₁ s₂ s₃ : GameProcess T × SessionLog T} (h : Noticed u s₁ s₂)
    (h' : Noticed u s₂ s₃) : Noticed u s₁ s₃ := by
  intro p hp
  obtain ⟨h₂, hlast⟩ := h' p hp
  obtain ⟨h₁, hlast'⟩ := h p h₂
  exact ⟨h₁, hlast.trans hlast'⟩

theorem SessionLog.record_none {log : SessionLog T} (ha : a.accepts r = none)
    (he : a.entersRelease = none) : log.record t a r = log := by
  simp [SessionLog.record, ha, he]

/-- A section that enters no release of the thread's own leaves nothing unnoticed. -/
theorem noticed_step (hx : (sessionMachine cfg).exec t a i s = some (s', r))
    (hu : u ≠ t ∨ a.entersRelease = none) : Noticed u s s' := by
  obtain ⟨-, hlog⟩ := sessionMachine_exec hx
  intro q hq
  rw [hlog] at hq ⊢
  unfold SessionLog.record at hq ⊢
  cases ha : a.accepts r with
  | some x =>
      obtain ⟨p, gate⟩ := x
      simp only [ha, Bool.or_eq_false_iff, decide_eq_false_iff_not] at hq ⊢
      exact ⟨hq.1, Function.update_of_ne hq.2 _ _⟩
  | none =>
      cases he : a.entersRelease with
      | none =>
          simp only [ha, he] at hq ⊢
          exact ⟨hq, trivial⟩
      | some p =>
          have hne : u ≠ t := hu.resolve_right (by simp [he])
          simp only [ha, he, hne, false_and, if_false] at hq ⊢
          exact ⟨hq, trivial⟩

omit [DecidableEq T] in
/-- The last section of a lease recovery accepts the gate session, or gives the lease back. -/
theorem activateResume_cases (env : Env) (p : PlayerId) (gate : GateSession) (s : GameProcess T) :
    (∃ result, s.activateResume env p gate =
        ({ s with lease := (s.lease.release p).1 }, result) ∧ result.ok = false) ∨
      ∃ record : PlayerSessionRecord, s.activateResume env p gate =
        ({ s with sessions := s.sessions.set p (record.activate gate env.nowMs) }, .success) := by
  unfold activateResume PlayerSessions.activateResume
  cases hp : s.sessions p with
  | none => exact .inl ⟨_, rfl, rfl⟩
  | some record =>
    cases hpresent : record.state.present with
    | true => exact .inr ⟨record, by simp [hpresent]⟩
    | false => exact .inl ⟨transitioning, by simp [hpresent, transitioning], rfl⟩

/-- What a section does to the session records: nothing, or it accepts a gate session for one of them, or it
takes one of them back. -/
inductive SessionsChange (a : Act) (r : a.Reply) (m : PlayerSessions) : PlayerSessions → Prop
  | same (hno : a.accepts r = none) : SessionsChange a r m m
  | accept (p : PlayerId) (record : PlayerSessionRecord) (haccepts : a.accepts r = some (p, record.gate))
      (hon : record.state = .online) : SessionsChange a r m (m.set p record)
  | takeBack (p : PlayerId) (new : Option PlayerSessionRecord) (hno : a.accepts r = none)
      (htakes : ∀ record, m p = some record → a.takesBack p record.gate)
      (hnew : ∀ record, new = some record → record.state = .online → a = .session (.releaseRestore p record)) :
      SessionsChange a r m (Function.update m p new)

/-- A disconnect takes a record back if it is of its gate session. -/
theorem SessionsChange.detachIf {m : PlayerSessions} {matchesGate : GateSession → Bool} {nowMs : UInt64}
    (hno : a.accepts r = none)
    (htakes : ∀ record, m p = some record → matchesGate record.gate = true → a.takesBack p record.gate) :
    SessionsChange a r m (m.detachIf cfg matchesGate p nowMs).1 := by
  unfold PlayerSessions.detachIf
  cases hp : m p with
  | none => exact .same hno
  | some record =>
      dsimp only
      split
      · exact .same hno
      · split
        · exact .same hno
        · rename_i hmatches
          refine .takeBack p _ hno ?_ ?_
          · intro record' hrecord'
            cases hp.symm.trans hrecord'
            exact htakes record hp (by simpa using hmatches)
          · rintro record' ⟨⟩ hon
            cases hon

omit [DecidableEq T] in
theorem session_change {b : SessionAct} {r : b.Reply} {s s' : GameProcess T}
    (h : s.exec cfg t i (.session b) = some (s', r)) : SessionsChange (.session b) r s.sessions s'.sessions := by
  cases b with
  | activateEnter p gate =>
      simp only [exec, execSession, Option.ite_none_left_eq_some, Option.some.injEq, Prod.ext_iff] at h
      obtain ⟨-, hs, hr⟩ := h
      rw [← hs]
      rcases PlayerSessions.activateEnter_cases p gate i.nowMs (s.isHeldLocally p) s.sessions with
        ⟨decision, he, hne⟩ | ⟨old, -, ⟨hold, he⟩ | ⟨-, he⟩⟩ <;> rw [he] at hr ⊢
      · exact .same (if_neg (hr ▸ hne))
      · exact .accept p _ (if_pos hr.symm) hold
      · exact .accept p _ (if_pos hr.symm) rfl
  | activateResume p gate =>
      simp only [exec, execSession, Option.ite_none_left_eq_some, Option.some.injEq, Prod.ext_iff] at h
      obtain ⟨-, hs, hr⟩ := h
      rw [← hs]
      rcases activateResume_cases i p gate s with ⟨result, he, hfail⟩ | ⟨old, he⟩ <;> rw [he] at hr ⊢
      · refine .same (if_neg ?_)
        rw [← hr, hfail]
        exact Bool.false_ne_true
      · exact .accept p _ (if_pos (hr ▸ rfl)) rfl
  | activateInsert p gate =>
      simp only [exec, execSession, Option.some.injEq, Prod.mk.injEq] at h
      rw [← h.1]
      exact .accept p _ rfl rfl
  | detach p =>
      simp only [exec, execSession, Option.some.injEq, Prod.mk.injEq] at h
      rw [← h.1]
      exact .detachIf rfl fun _ _ _ => rfl
  | detachFrom p gate =>
      simp only [exec, execSession, Option.some.injEq, Prod.mk.injEq] at h
      rw [← h.1]
      exact .detachIf rfl fun record _ hgate => ⟨rfl, (of_decide_eq_true hgate).symm⟩
  | releaseEnter p =>
      simp only [exec, execSession, Option.some.injEq, Prod.mk.injEq] at h
      rw [← h.1]
      dsimp only
      unfold PlayerSessions.releaseEnter
      split
      · exact .same rfl
      · refine .takeBack p _ rfl (fun _ _ => rfl) ?_
        rintro record ⟨⟩ hon
        cases hon
  | releaseRestore p old =>
      simp only [exec, execSession, Option.some.injEq, Prod.mk.injEq] at h
      rw [← h.1]
      dsimp only
      unfold PlayerSessions.releaseRestore
      split
      · exact .same rfl
      · refine .takeBack p _ rfl (fun _ _ => rfl) ?_
        rintro record ⟨⟩ -
        rfl
  | releaseErase p =>
      simp only [exec, execSession, Option.some.injEq, Prod.mk.injEq] at h
      rw [← h.1]
      refine .takeBack p none rfl (fun _ _ => rfl) ?_
      intro record hnone
      cases hnone
  | reconcileLost action now =>
      simp only [exec, execSession, Option.ite_none_left_eq_some, Option.some.injEq, Prod.ext_iff] at h
      rw [← h.2.1]
      dsimp only
      unfold PlayerSessions.reconcileLost
      (repeat' split) <;> try exact .same rfl
      refine .takeBack action.playerId _ rfl (fun _ _ => rfl) ?_
      rintro record ⟨⟩ hon
      cases hon
  | expiredPlayers order now | snapshot p =>
      simp only [exec, execSession, Option.some.injEq, Prod.mk.injEq] at h
      rw [← h.1]
      exact .same rfl
  | lostPlayers order =>
      simp only [exec, execSession, Option.ite_none_left_eq_some, Option.some.injEq, Prod.mk.injEq] at h
      rw [← h.2.1]
      exact .same rfl

omit [DecidableEq T] in
theorem sessions_change {s s' : GameProcess T} (h : s.exec cfg t i a = some (s', r)) :
    SessionsChange a r s.sessions s'.sessions := by
  cases a with
  | session b => exact session_change h
  | _ =>
      rw [exec_sessions_frame (fun _ heq => by cases heq) h]
      exact .same rfl

omit [DecidableEq T] in
/-- A record is online with a gate session because it was before, because the gate session has just been
accepted, or because a release puts the record back. -/
theorem online_cases {s s' : GameProcess T} (h : s.exec cfg t i a = some (s', r)) {q : PlayerId}
    {record : PlayerSessionRecord} (hq : s'.sessions q = some record) (hon : record.state = .online) :
    s.sessions q = some record ∨ a.accepts r = some (q, record.gate) ∨
      a = .session (.releaseRestore q record) := by
  have hchange := sessions_change h
  generalize s'.sessions = m at hchange hq
  cases hchange with
  | same => exact .inl hq
  | accept p new haccepts =>
      rcases PlayerSessions.set_cases hq with ⟨rfl, rfl⟩ | hold
      · exact .inr (.inl haccepts)
      · exact .inl hold
  | takeBack p new hno htakes hnew =>
      by_cases hp : q = p
      · subst hp
        rw [Function.update_self] at hq
        exact .inr (.inr (hnew record hq hon))
      · rw [Function.update_of_ne hp] at hq
        exact .inl hq

omit [DecidableEq T] in
/-- A record is left alone, or a gate session is accepted for its player, or it is taken back. -/
theorem record_kept {s s' : GameProcess T} (h : s.exec cfg t i a = some (s', r)) {q : PlayerId}
    {record : PlayerSessionRecord} (hq : s.sessions q = some record) :
    s'.sessions q = some record ∨ (∃ gate, a.accepts r = some (q, gate)) ∨
      a.takesBack q record.gate := by
  have hchange := sessions_change h
  generalize s'.sessions = m at hchange ⊢
  cases hchange with
  | same => exact .inl hq
  | accept p new haccepts =>
      by_cases hp : q = p
      · exact .inr (.inl ⟨new.gate, hp ▸ haccepts⟩)
      · exact .inl ((Function.update_of_ne hp ..).trans hq)
  | takeBack p new hno htakes =>
      by_cases hp : q = p
      · subst hp
        exact .inr (.inr (htakes record hq))
      · exact .inl ((Function.update_of_ne hp ..).trans hq)

omit [DecidableEq T] in
/-- The record of a player is online with the gate session that has been accepted for it. -/
theorem accepted_online {s s' : GameProcess T} (h : s.exec cfg t i a = some (s', r)) {q : PlayerId}
    {gate : GateSession} (ha : a.accepts r = some (q, gate)) :
    ∃ record, s'.sessions q = some record ∧ record.state = .online ∧ record.gate = gate := by
  have hchange := sessions_change h
  generalize s'.sessions = m at hchange ⊢
  cases hchange with
  | accept p new haccepts hon =>
      rw [ha] at haccepts
      cases haccepts
      exact ⟨new, Function.update_self .., hon, rfl⟩
  | same hno | takeBack _ _ hno =>
      rw [ha] at hno
      cases hno

/-- Every section keeps the records well formed, given that a record which it puts back is. -/
theorem SessionsWellFormed.step (hI : SessionsWellFormed cfg s)
    (hrestore : ∀ p record, a = .session (.releaseRestore p record) →
      record.WellFormed cfg (s.2.last p))
    (hx : (sessionMachine cfg).exec t a i s = some (s', r)) : SessionsWellFormed cfg s' := by
  obtain ⟨hexec, hlog⟩ := sessionMachine_exec hx
  unfold SessionsWellFormed at hI ⊢
  cases a with
  | session b =>
      cases b with
      | activateEnter p gate =>
          simp only [exec, execSession, Option.ite_none_left_eq_some, Option.some.injEq,
            Prod.ext_iff] at hexec
          obtain ⟨-, hs, hr⟩ := hexec
          rw [hlog, ← hs, ← hr]
          rcases PlayerSessions.activateEnter_cases p gate i.nowMs (s.1.isHeldLocally p)
            s.1.sessions with ⟨decision, he, hne⟩ | ⟨record, hp, ⟨hstate, he⟩ | ⟨-, he⟩⟩
          · simpa [he, SessionLog.record, Act.accepts, Act.entersRelease, hne] using hI
          · simpa [he, SessionLog.record, Act.accepts] using
              hI.accept ((hI p record hp).takeOver hstate)
          · simpa [he, SessionLog.record, Act.accepts] using
              hI.accept PlayerSessionRecord.wellFormed_activate
      | activateResume p gate =>
          simp only [exec, execSession, Option.ite_none_left_eq_some, Option.some.injEq,
            Prod.ext_iff] at hexec
          obtain ⟨-, hs, hr⟩ := hexec
          rw [hlog, ← hs, ← hr]
          rcases activateResume_cases i p gate s.1 with ⟨result, he, hfail⟩ | ⟨record, he⟩
          · simpa [he, SessionLog.record, Act.accepts, Act.entersRelease, hfail] using hI
          · simpa [he, SessionLog.record, Act.accepts] using
              hI.accept PlayerSessionRecord.wellFormed_activate
      | activateInsert p gate =>
          simp only [exec, execSession, Option.some.injEq, Prod.mk.injEq] at hexec
          rw [hlog, ← hexec.1]
          exact hI.accept PlayerSessionRecord.wellFormed_activate
      | detach p =>
          simp only [exec, execSession, Option.some.injEq, Prod.mk.injEq] at hexec
          rw [hlog, ← hexec.1]
          exact hI.detachIf
      | detachFrom p gate =>
          simp only [exec, execSession, Option.some.injEq, Prod.mk.injEq] at hexec
          rw [hlog, ← hexec.1]
          exact hI.detachIf
      | releaseEnter p =>
          simp only [exec, execSession, Option.some.injEq, Prod.mk.injEq] at hexec
          rw [hlog, ← hexec.1]
          exact hI.releaseEnter
      | releaseRestore p record =>
          simp only [exec, execSession, Option.some.injEq, Prod.mk.injEq] at hexec
          rw [hlog, ← hexec.1]
          dsimp only
          unfold PlayerSessions.releaseRestore
          split
          · exact hI
          · exact hI.set (hrestore p record rfl)
      | releaseErase p =>
          simp only [exec, execSession, Option.some.injEq, Prod.mk.injEq] at hexec
          rw [hlog, ← hexec.1]
          exact hI.erase
      | reconcileLost action now =>
          simp only [exec, execSession, Option.ite_none_left_eq_some, Option.some.injEq,
            Prod.ext_iff] at hexec
          rw [hlog, ← hexec.2.1]
          exact hI.reconcileLost
      | expiredPlayers order now | snapshot p =>
          simp only [exec, execSession, Option.some.injEq, Prod.mk.injEq] at hexec
          rw [hlog, ← hexec.1]
          exact hI
      | lostPlayers order =>
          simp only [exec, execSession, Option.ite_none_left_eq_some, Option.some.injEq,
            Prod.mk.injEq] at hexec
          rw [hlog, ← hexec.2.1]
          exact hI
  | _ =>
      rw [exec_sessions_frame (fun _ h => by cases h) hexec, hlog, SessionLog.record_none rfl rfl]
      exact hI

/-! ## Outlines -/

/-- The disconnect of a gate session that is not the record's leaves the record alone. -/
def StaleDisconnectHarmless (o : Op) (s s' : GameProcess T × SessionLog T) : Prop :=
  ∀ p gate, o = .disconnected p gate →
    (∀ record, s.1.sessions p = some record → record.gate ≠ gate) →
      s'.1.sessions p = s.1.sessions p

/-- The outline of the session records. -/
def sessionOutline (cfg : GameConfiguration) :
    Outline T Op Act Env (GameProcess T × SessionLog T) where
  inv := SessionsWellFormed cfg
  rest _ _ := True
  start _ _ _ := True
  ok t _ a _ s := ∀ p record, a = .session (.releaseRestore p record) → s.2.activated t p = false
  event t o _ _ s s' := (∀ u, u ≠ t → Noticed u s s') ∧ StaleDisconnectHarmless o s s'
  rely t _ s s' := Noticed t s s'
  rely_refl _ _ _ _ h := ⟨h, rfl⟩
  rely_trans _ _ _ _ _ h h' := h.trans h'
  rest_rely _ _ _ _ _ := trivial

/-- What the calls of this module are shown to be. -/
def KeepsRecords (cfg : GameConfiguration) (t : T) (o : Op) (α : Type) (x : Call α) : Prop :=
  ∀ s, True → (sessionOutline cfg).Safe (sessionMachine cfg) t o (fun _ _ => True) x s

theorem compositional_keepsRecords : Prog.Compositional (KeepsRecords cfg t o) :=
  Outline.compositional_safe

variable {α : Type}

/-- The rule of one section that puts no record back. -/
theorem session_seq {Q : α → GameProcess T × SessionLog T → Prop} {k : a.Reply → Call α}
    (ha : a.restores = false) (ho : ∀ p gate, o ≠ .disconnected p gate)
    (hk : ∀ s₁ i s₂ r, Noticed t s s₁ → (sessionMachine cfg).exec t a i s₁ = some (s₂, r) →
      (sessionOutline cfg).Safe (sessionMachine cfg) t o Q (k r) s₂) :
    (sessionOutline cfg).Safe (sessionMachine cfg) t o Q (call a >>= k) s := by
  intro s₁ hrely hI i s₂ r _ hx
  refine ⟨⟨fun u hu => noticed_step hx (.inl hu), ?_⟩, hI.step ?_ hx, hk s₁ i s₂ r hrely hx⟩
  · intro p gate h
    exact absurd h (ho p gate)
  · intro p record h
    rw [h] at ha
    cases ha

/-- Calls that put no record back. -/
theorem session_all (ho : ∀ p gate, o ≠ .disconnected p gate) {x : Call α}
    (hx : x.All fun a => a.restores = false) : KeepsRecords cfg t o _ x := by
  induction x with
  | ret x => exact fun s _ => trivial
  | act a k ih =>
      intro s _
      exact session_seq hx.1 ho fun s₁ i s₂ r _ _ => ih r (hx.2 r) s₂ trivial

/-- A saved record that is still well formed, unless its player has been activated since. -/
def Saved (cfg : GameConfiguration) (t : T) (p : PlayerId) (record : PlayerSessionRecord)
    (s : GameProcess T × SessionLog T) : Prop :=
  s.2.activated t p = false → record.WellFormed cfg (s.2.last p)

omit [DecidableEq T] in
theorem Saved.of_noticed {record : PlayerSessionRecord} (h : Saved cfg t p record s)
    (hn : Noticed t s s') : Saved cfg t p record s' := by
  intro hnot
  obtain ⟨hbefore, hlast⟩ := hn p hnot
  rw [hlast]
  exact h hbefore

/-- The sections of a flush keep the saved record. -/
theorem saved_all (ho : ∀ p gate, o ≠ .disconnected p gate) {record : PlayerSessionRecord}
    {x : Call α} (hx : x.All fun a => a.restores = false ∧ a.entersRelease = none)
    (hs : Saved cfg t p record s) :
    (sessionOutline cfg).Safe (sessionMachine cfg) t o (fun _ => Saved cfg t p record) x s := by
  induction x generalizing s with
  | ret x => exact hs
  | act a k ih =>
      refine session_seq hx.1.1 ho fun s₁ i s₂ r hrely hstep => ih r (hx.2 r) ?_
      exact (hs.of_noticed hrely).of_noticed (noticed_step hstep (.inr hx.1.2))

/-- A release finds a well-formed record, and puts it back only when it is well formed still. -/
theorem releasePlayer_keepsRecords (ho : ∀ p gate, o ≠ .disconnected p gate) (p : PlayerId) :
    KeepsRecords cfg t o _ (releasePlayer p) := by
  have hunload : KeepsRecords cfg t o _ (unloadPlayer p) :=
    session_all ho (unloadPlayer_sections rfl rfl rfl rfl rfl)
  intro s _ s₁ _ hI i s₂ previous _ hx
  refine ⟨⟨fun u hu => noticed_step hx (.inl hu), fun q gate h => absurd h (ho q gate)⟩,
    hI.step (fun q record h => by cases h) hx, ?_⟩
  obtain ⟨hexec, hlog⟩ := sessionMachine_exec hx
  cases previous with
  | none => exact trivial
  | some previous =>
    have hsaved : Saved cfg t p previous s₂ := by
      intro _
      rw [hlog]
      refine hI p previous ?_
      simp only [exec, execSession, Option.some.injEq, Prod.mk.injEq] at hexec
      have hfound := hexec.2
      unfold PlayerSessions.releaseEnter at hfound
      split at hfound
      · cases hfound
      · rename_i record hrecord
        rw [← hfound]
        exact hrecord
    refine session_seq rfl ho fun s₃ i₃ s₄ repository hrely₃ hx₃ => ?_
    have hsaved₄ := (hsaved.of_noticed hrely₃).of_noticed (noticed_step hx₃ (.inr rfl))
    split
    · exact hunload s₄ trivial
    · refine Outline.Safe.bind (Outline.Safe.mono ?_ (saved_all ho
        (flushPlayer_sections ⟨rfl, rfl⟩ ⟨rfl, rfl⟩ (fun _ => ⟨rfl, rfl⟩) (fun _ => ⟨rfl, rfl⟩)
          fun _ => ⟨rfl, rfl⟩) hsaved₄))
      intro flush s₅ hsaved₅
      split
      · intro s₆ hrely₆ hI₆ i₆ s₇ _ hok hx₆
        refine ⟨⟨fun u hu => noticed_step hx₆ (.inl hu), fun q gate h => absurd h (ho q gate)⟩,
          hI₆.step (fun q record h => ?_) hx₆, trivial⟩
        cases h
        exact hsaved₅.of_noticed hrely₆ (hok p previous rfl)
      · exact hunload s₅ trivial

/-- A disconnect has one section, and it looks at the gate session. -/
theorem disconnected_keepsRecords (fuel : Nat) (p : PlayerId) (gate : GateSession) :
    KeepsRecords cfg t (.disconnected p gate) _ ((Op.disconnected p gate).code cfg fuel) := by
  intro s _
  refine Outline.Safe.bind (Outline.Safe.bind ?_)
  intro s₁ _ hI i s₂ r _ hx
  refine ⟨⟨fun u hu => noticed_step hx (.inl hu), ?_⟩, hI.step (fun q record h => by cases h) hx, ?_⟩
  · rintro q gate' h hother
    cases h
    obtain ⟨hexec, -⟩ := sessionMachine_exec hx
    simp only [exec, execSession, Option.some.injEq, Prod.mk.injEq] at hexec
    rw [← hexec.1]
    exact congrFun (PlayerSessions.detachFrom_other hother) p
  · show Outline.Safe _ _ _ _ _ (if _ then _ else _) _
    split <;> exact trivial

theorem code_keepsRecords (fuel : Nat) : KeepsRecords cfg t o _ (o.code cfg fuel) := by
  by_cases ho : ∃ p gate, o = .disconnected p gate
  · obtain ⟨p, gate, rfl⟩ := ho
    exact disconnected_keepsRecords fuel p gate
  · have ho : ∀ p gate, o ≠ .disconnected p gate := fun p gate h => ho ⟨p, gate, h⟩
    have hC : Prog.Compositional (KeepsRecords cfg t o) := compositional_keepsRecords
    have hP : ∀ a : Act, a.locks = false → a.restores = false → KeepsRecords cfg t o _ (call a) :=
      fun a _ ha => session_all ho (all_call ha)
    have hF : ∀ p, KeepsRecords cfg t o _ (flushPlayer p) := fun p => session_all ho
      (flushPlayer_sections rfl rfl (fun _ => rfl) (fun _ => rfl) fun _ => rfl)
    have hload : ∀ cfg' p allow, KeepsRecords cfg t o _ (loadPlayer cfg' p allow) := by
      intro cfg' p allow
      refine session_all ho ?_
      unfold loadPlayer
      split
      · exact all_pure
      · exact all_seq rfl fun _ => (datasetGet_all (fun _ => rfl) p).bind fun _ => all_call rfl
    have hR : ∀ fuel key, KeepsRecords cfg t o _ (resolveOrCreate fuel key) := fun fuel key =>
      session_all ho (resolveOrCreate_all (fun _ => rfl) fuel key)
    refine Op.code_of_calls hC ?_ ?_ (hR fuel) ?_ ?_
    · intro hplain
      exact Op.code_calls hC hP hF cfg fuel hplain (fun _ => hload) fun _ => releasePlayer_keepsRecords ho
    · intro source key gate
      exact handleLoginRequest_parts hC (fun a hl hr _ => hP a hl hr) hload hR cfg fuel source key gate
    · intro key
      exact session_all ho (lookup_all (fun _ => rfl) key)
    · intro order
      exact session_all ho (renewLeases_all (fun _ => rfl) order)

theorem session_proved (fuel : Nat) :
    (sessionOutline cfg).Proved (sessionMachine cfg) (fun (_ : T) o => o.code cfg fuel)
      (fun c m => restoreGuard c m = true) (fun _ _ _ _ => True) where
  start _ _ _ _ _ := trivial
  ok c t o a k i hg _ ht := by
    rintro p record rfl
    simpa [restoreGuard, ht] using hg
  safe t o s _ _ _ := (code_keepsRecords fuel s trivial).mono fun _ _ _ => ⟨trivial, trivial⟩
  compatible _ _ _ _ _ _ _ _ _ _ _ _ hevent u hu := hevent.1 u hu

/-! ## Every run -/

/-- **Session records stay well formed.** In every run of any number of threads in which a failed release
puts no record back whose player has been activated since the record was read: an online record has
no deadline and the gate session that was activated last, a detached one has no gate session and its
deadline from its last change, and a disconnect of another gate session than the record's leaves the
record as it is. -/
theorem sessions_wellFormed (fuel : Nat) {s₀ : GameProcess T} (hs₀ : ∀ p, s₀.sessions p = none)
    {c : Pool T Op Act Act.Reply OpResult (GameProcess T × SessionLog T)}
    (hrun : Run (sessionMachine cfg) (fun _ o => o.code cfg fuel)
      (fun c m => restoreGuard c m = true) (Pool.initial (s₀, {})) c) :
    (∀ p record, c.shared.1.sessions p = some record → record.WellFormed cfg (c.shared.2.last p)) ∧
    ∀ t i p gate x c', c.threads t = some (.disconnected p gate, x) →
      restoreGuard c (.act t i) = true →
      c.move (sessionMachine cfg) (fun _ o => o.code cfg fuel) (.act t i) = some c' →
      (∀ record, c.shared.1.sessions p = some record → record.gate ≠ gate) →
      c'.shared.1.sessions p = c.shared.1.sessions p := by
  have hstart : SessionsWellFormed cfg (s₀, ({} : SessionLog T)) := by
    intro p record hp
    rw [hs₀ p] at hp
    cases hp
  have hgood := (session_proved fuel).sound (Outline.good_initial hstart fun _ => trivial) hrun
  refine ⟨hgood.1, fun t i p gate x c' ht hg hmove hother => ?_⟩
  obtain ⟨-, hevent⟩ := ((session_proved fuel).move hgood hg hmove).2
  obtain ⟨o, a, k, s, r, hthread, -, rfl⟩ := Pool.move_act hmove
  obtain rfl : o = .disconnected p gate := by
    rw [ht] at hthread
    exact (Prod.ext_iff.mp (Option.some.inj hthread)).1.symm
  exact (hevent _ _ _ hthread).2 p gate rfl hother

/-! ### A late disconnect -/

/-- A process with one thread, before anything has happened. -/
def soloSessions : Pool Unit Op Act Act.Reply OpResult (GameProcess Unit × SessionLog Unit) :=
  Pool.initial ({ ipc := { self := some ⟨⟨10, 1⟩, 1⟩ } }, {})

/-- Player 7 logs in from two gate sessions one after the other, and the first one's disconnect arrives
late. -/
def lateDisconnect : List (Move Unit Op Env) :=
  .start () (.activate 7 ⟨20, 1, 5⟩ true) :: sections 11 (emptyServers 1000) ++
    .start () (.activate 7 ⟨20, 1, 6⟩ false) :: sections 1 (emptyServers 2000) ++
    [.start () (.disconnected 7 ⟨20, 1, 5⟩)]

/-- The record belongs to the second gate session, before and after the disconnect. -/
theorem sessions_wellFormed_late :
    ∃ c c' record, soloSessions.play (sessionMachine soloGame) (fun _ o => o.code soloGame 0)
        restoreGuard lateDisconnect = some c ∧
      c.shared.1.sessions 7 = some record ∧ record.state = .online ∧ record.gate = ⟨20, 1, 6⟩ ∧
      record.WellFormed soloGame (c.shared.2.last 7) ∧
      c.move (sessionMachine soloGame) (fun _ o => o.code soloGame 0) (.act () (emptyServers 3000)) =
        some c' ∧
      c'.shared.1.sessions 7 = some record := by
  have hend : (soloSessions.play (sessionMachine soloGame) (fun _ o => o.code soloGame 0)
      restoreGuard lateDisconnect).map (fun c => ((c.threads ()).map Prod.fst,
        (c.shared.1.sessions 7).map (fun record => (record.state, record.gate)),
        restoreGuard c (.act () (emptyServers 3000)), (c.move (sessionMachine soloGame)
          (fun _ o => o.code soloGame 0) (.act () (emptyServers 3000))).isSome)) =
      some (some (.disconnected 7 ⟨20, 1, 5⟩), some (.online, ⟨20, 1, 6⟩), true, true) := rfl
  obtain ⟨c, hc, hcs⟩ := Option.map_eq_some_iff.mp hend
  simp only [Prod.mk.injEq] at hcs
  obtain ⟨hop, hsession, hguard, hmove⟩ := hcs
  obtain ⟨⟨o, x⟩, ht, ho⟩ := Option.map_eq_some_iff.mp hop
  obtain rfl : o = .disconnected 7 ⟨20, 1, 5⟩ := ho
  obtain ⟨record, hrecord, hr⟩ := Option.map_eq_some_iff.mp hsession
  simp only [Prod.mk.injEq] at hr
  obtain ⟨honline, hgate⟩ := hr
  obtain ⟨c', hc'⟩ := Option.isSome_iff_exists.mp hmove
  obtain ⟨hwell, hstale⟩ := sessions_wellFormed 0 (fun _ => rfl)
    (Run.refl.play (fun _ _ h => h) hc)
  have hother : ∀ record, c.shared.1.sessions 7 = some record → record.gate ≠ ⟨20, 1, 5⟩ := by
    intro record' hrecord'
    obtain rfl : record = record' := Option.some.inj (hrecord.symm.trans hrecord')
    rw [hgate]
    decide
  have hsame := hstale () (emptyServers 3000) 7 ⟨20, 1, 5⟩ x c' ht hguard hc' hother
  exact ⟨c, c', record, hc, hrecord, honline, hgate, hwell 7 record hrecord, hc', hsame.trans hrecord⟩

/-! ### A stale copy -/

/-- Two threads of a process, before anything has happened. -/
def twoThreads : Pool Bool Op Act Act.Reply OpResult (GameProcess Bool × SessionLog Bool) :=
  Pool.initial ({ ipc := { self := some ⟨⟨10, 1⟩, 1⟩ } }, {})

/-- Servers that cannot store a player. -/
def mariaDown (nowMs : UInt64) : Env := { emptyServers nowMs with maria := .unavailable }

/-- Two logins of player 7 overlap. The second is accepted and its release starts; the first is
accepted while the release waits for MariaDB; the flush fails. -/
def overlappingLogins : List (Move Bool Op Env) :=
  .start true (.activate 7 ⟨20, 1, 5⟩ true) :: List.replicate 10 (.act true (emptyServers 1000)) ++
    .start false (.activate 7 ⟨20, 1, 6⟩ true) :: List.replicate 11 (.act false (emptyServers 2000)) ++
    .start false (.release 7) :: List.replicate 5 (.act false (mariaDown 3000)) ++
    [.act true (emptyServers 4000), .act false (mariaDown 5000)]

/-- The online record has the gate session of the second login, although the first was accepted
last. -/
theorem restores_stale_session :
    ∃ c record, Run (sessionMachine soloGame) (fun _ o => o.code soloGame 0) (fun _ _ => True)
        twoThreads c ∧
      c.shared.1.sessions 7 = some record ∧ record.state = .online ∧ record.gate = ⟨20, 1, 6⟩ ∧
      c.shared.2.last 7 = some ⟨20, 1, 5⟩ := by
  have hend : (twoThreads.play (sessionMachine soloGame) (fun _ o => o.code soloGame 0)
      (fun _ _ => true) overlappingLogins).map (fun c =>
        ((c.shared.1.sessions 7).map (fun record => (record.state, record.gate)),
          c.shared.2.last 7)) =
      some (some (.online, ⟨20, 1, 6⟩), some ⟨20, 1, 5⟩) := rfl
  obtain ⟨c, hc, hcs⟩ := Option.map_eq_some_iff.mp hend
  simp only [Prod.mk.injEq] at hcs
  obtain ⟨hsession, hlast⟩ := hcs
  obtain ⟨record, hrecord, hr⟩ := Option.map_eq_some_iff.mp hsession
  simp only [Prod.mk.injEq] at hr
  exact ⟨c, record, Run.refl.play (fun _ _ _ => trivial) hc, hrecord, hr.1, hr.2, hlast⟩

end GameProcess

end SomeServer
