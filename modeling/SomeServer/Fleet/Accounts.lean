/-
# SomeServer.Fleet.Accounts — the ids that the games answer

The fleet's sections are steps of the abstract directory (`exec_step`), so agreement and distinctness
hold in every run in which no call takes an id from its local counter and, for distinctness, no reset
overtakes the shared counter. Both conditions are needed: at the end are a run with one failing
command and a run without any, in which two accounts get one id.
-/
import SomeServer.Fleet.Directory

namespace SomeServer

open Lib Lib.Decimal

variable {G T : Type} [DecidableEq G] [DecidableEq T]

/-! ## The fleet with the log of answers -/

namespace DirectoryLog

/-- What one section of thread `t` adds to the log. -/
def record {H : Type} [DecidableEq H] (t : H) : (a : Act) → a.Reply → DirectoryLog H → DirectoryLog H
  | .directory (.enter key), reply, log =>
      match reply with
      | some playerId => log.answer ⟨key, playerId, false⟩
      | none => log
  | .directory .increment, reply, log =>
      if reply.1.ok then
        { log with holding := Function.update log.holding t (some (castPlayerId reply.2)) }
      else log
  | .directory (.createEntry key _), reply, log =>
      { log with
        holding := Function.update log.holding t none
        owed := if reply.ok then Function.update log.owed key (some t) else log.owed }
  | .directory (.remember key resolved), _, log =>
      { log.answer ⟨key, resolved.playerId, resolved.created⟩ with
        owed := if resolved.created then Function.update log.owed key none else log.owed }
  | .directory (.fallback key), reply, log => log.answer ⟨key, reply.playerId, reply.created⟩
  | _, _, log => log

end DirectoryLog

namespace Fleet

/-- The fleet, with the directory's answers written down. -/
def accountMachine (cfg : G → GameConfiguration) :
    Machine (G × T) Act Act.Reply FleetInput (Fleet G T × DirectoryLog (G × T)) :=
  (machine cfg).withHistory fun t a _ _ _ r log => log.record t a r

/-- The view of the directory in a fleet. -/
def view (s : Fleet G T × DirectoryLog (G × T)) : DirectoryView G (G × T) where
  entries := s.1.world.entries
  counter := s.1.world.counter
  cached g := (s.1.games g).directory.entries
  log := s.2

/-! ## The conditions on a run -/

/-- Whether a section takes an id from the local counter. -/
def takesFallback : Act → Bool
  | .directory (.fallback _) => true
  | _ => false

/-- Whether a step sets the shared counter back to its floor although the counter, as it is now, has
reached the floor. -/
def resetsBack (a : Act) (i : FleetInput) (s : Fleet G T) : Bool :=
  match a with
  | .directory .resetCounter =>
      i.fault.executes && (counterValue s.world.counter).any fun c => decide (counterFloor ≤ c)
  | _ => false

/-- The moves of the runs to be considered: no fallback and, when `strict`, no reset that sets the
counter back. -/
def accountGuard (strict : Bool)
    (c : Pool (G × T) Op Act Act.Reply OpResult (Fleet G T × DirectoryLog (G × T))) :
    Move (G × T) Op FleetInput → Bool
  | .start _ _ => true
  | .act t i =>
      match c.pending t with
      | none => true
      | some a => !takesFallback a && !(strict && resetsBack a i c.shared.1)

/-! ## Sections are abstract steps -/

variable {cfg : G → GameConfiguration} {t : G × T} {a : Act} {i : FleetInput}
  {s s' : Fleet G T × DirectoryLog (G × T)} {r : a.Reply}

omit [DecidableEq G] [DecidableEq T] in
theorem serve_frame {command : Command} {fault : Fault} {now : Nat} {w : World}
    (h : ∀ key text, command ≠ .entrySetIfAbsent key text)
    (h₁ : ∀ text, command ≠ .counterSetIfAbsent text) (h₂ : ∀ text, command ≠ .counterSet text)
    (h₃ : command ≠ .counterIncrement) :
    (w.serve fault now command).1.entries = w.entries ∧
      (w.serve fault now command).1.counter = w.counter := by
  have hexec : (w.execute now command).1.entries = w.entries ∧
      (w.execute now command).1.counter = w.counter := by
    cases command with
    | entrySetIfAbsent key text => exact absurd rfl (h key text)
    | counterSetIfAbsent text => exact absurd rfl (h₁ text)
    | counterSet text => exact absurd rfl (h₂ text)
    | counterIncrement => exact absurd rfl h₃
    | _ => exact ⟨rfl, rfl⟩
  cases fault with
  | none => exact hexec
  | dropped => exact ⟨rfl, rfl⟩
  | replyLost => exact hexec
  | unavailable => exact ⟨rfl, rfl⟩

theorem accountMachine_exec (h : (accountMachine cfg).exec t a i s = some (s', r)) :
    s.1.exec cfg t a i = some (s'.1, r) ∧ s'.2 = s.2.record t a r :=
  Machine.withHistory_exec h

/-- The sections outside the directory leave the view alone. -/
theorem view_of_notDirectory (ha : ∀ d : DirectoryAct, a ≠ .directory d)
    (h : (accountMachine cfg).exec t a i s = some (s', r)) : view s' = view s := by
  obtain ⟨hx, hlog⟩ := accountMachine_exec h
  obtain ⟨hgame, hw, hother⟩ := exec_eq hx
  have hdir : ∀ g, (s'.1.games g).directory = (s.1.games g).directory := by
    intro g
    by_cases hg : g = t.1
    · subst hg
      exact GameProcess.exec_directory_frame ha hgame
    · rw [hother g hg]
  have hworld : s'.1.world.entries = s.1.world.entries ∧ s'.1.world.counter = s.1.world.counter := by
    rw [hw]
    unfold served
    cases hcmd : s.1.command cfg t.1 a i with
    | none => exact ⟨rfl, rfl⟩
    | some command =>
      have hne := GameProcess.command_frame ha hcmd
      exact serve_frame hne.1 hne.2.1 hne.2.2.1 hne.2.2.2
  have hlog' : s'.2 = s.2 := by
    rw [hlog]
    cases a with
    | directory d => exact absurd rfl (ha d)
    | _ => rfl
  simp only [view, hworld.1, hworld.2, hdir, hlog']

/-- A directory section: the game's directory moves on under the served command's answer. -/
theorem exec_directory {d : DirectoryAct} {r : d.Reply}
    (h : (accountMachine cfg).exec t (.directory d) i s = some (s', r)) :
    ∃ d', (s.1.games t.1).directory.exec t.2 (i.env (s.1.served cfg t.1 (.directory d) i).2) d =
        some (d', r) ∧
      s'.1.world = (s.1.served cfg t.1 (.directory d) i).1 ∧
      (fun g => (s'.1.games g).directory.entries) =
        Function.update (fun g => (s.1.games g).directory.entries) t.1 d'.entries ∧
      s'.2 = s.2.record t (.directory d) r := by
  obtain ⟨hx, hlog⟩ := accountMachine_exec h
  obtain ⟨hgame, hw, hother⟩ := exec_eq hx
  obtain ⟨d', hd, hs⟩ := GameProcess.exec_directory hgame
  refine ⟨d', hd, hw, ?_, hlog⟩
  funext g
  by_cases hg : g = t.1
  · subst hg
    rw [hs, Function.update_self]
  · rw [hother g hg, Function.update_of_ne hg]

/-- What a thread has to bring along for the two sections that write down an id. -/
def Ready (strict : Prop) (t : G × T) (v : DirectoryView G (G × T)) : Act → Prop
  | .directory (.remember key resolved) =>
      v.Names key resolved.playerId ∧ (resolved.created = true → v.log.owed key = some t)
  | .directory (.createEntry _ playerId) => strict → v.log.holding t = some playerId
  | _ => True

omit [DecidableEq T] in
theorem emplace_cases {d : PlayerDirectoryService T} {key : String} {playerId : PlayerId}
    {k : String} {p : PlayerId} (h : (d.emplace key playerId).entries k = some p) :
    d.entries k = some p ∨ (k = key ∧ p = playerId) := by
  unfold PlayerDirectoryService.emplace at h
  split at h
  · exact .inl h
  · by_cases hk : k = key
    · subst hk
      simp only [Function.update_self, Option.some.injEq] at h
      exact .inr ⟨rfl, h.symm⟩
    · simp only [Function.update_of_ne hk] at h
      exact .inl h

omit [DecidableEq G] [DecidableEq T] in
theorem view_eq {entries : String → Option RedisValue} {counter : Option RedisValue}
    {cached : G → String → Option PlayerId} {log : DirectoryLog (G × T)}
    (h₁ : s'.1.world.entries = entries) (h₂ : s'.1.world.counter = counter)
    (h₃ : (fun g => (s'.1.games g).directory.entries) = cached) (h₄ : s'.2 = log) :
    view s' = ⟨entries, counter, cached, log⟩ := by
  subst h₁ h₂ h₃ h₄
  rfl

/-- `INCRBY` either leaves the counter alone and reports no integer, or reports the number the counter
stands for afterwards, which is above the one it stood for before. -/
theorem increment_cases (counter : Option RedisValue) :
    ((World.increment counter).1 = counter ∧
      ∀ n, (World.increment counter).2.redis ≠ .integer n) ∨
    ∃ n, (World.increment counter).2.redis = .integer n ∧
      counterValue (World.increment counter).1 = some n ∧ -(2 ^ 63) ≤ n ∧ n < 2 ^ 63 ∧
      ∀ c, counterValue counter = some c → c < n := by
  cases counter with
  -- `INCRBY` takes an absent key for 0.
  | none =>
      refine .inr ⟨1, rfl, by decide, by decide, by decide, ?_⟩
      intro c hc
      cases hc
  | some value =>
    cases value with
    -- A value that is not a string is answered WRONGTYPE.
    | other => exact .inl ⟨rfl, fun n h => by cases h⟩
    | text text =>
      cases hv : string2ll text with
      | none =>
          left
          simp [World.increment, hv]
      | some value =>
          obtain ⟨hread, hlo, hhi⟩ := stoll_of_string2ll hv
          by_cases hmax : value + 1 < 2 ^ 63
          · right
            refine ⟨value + 1, ?_, ?_, by omega, hmax, ?_⟩
            · simp only [World.increment, hv, if_pos hmax]
            · simp only [World.increment, hv, if_pos hmax, counterValue]
              exact stoll_repr (by omega) hmax
            · intro c hc
              simp only [counterValue, hread, Option.some.injEq] at hc
              omega
          -- the increment would overflow, and is refused
          · left
            simp only [World.increment, hv, if_neg hmax, true_and]
            exact fun n h => by cases h

section Specs

variable {strict : Prop}

theorem enter_spec (hI : (view s).Agree) {key : String} {r : Option PlayerId}
    (h : (accountMachine cfg).exec t (.directory (.enter key)) i s = some (s', r)) :
    (view s).Step strict t (view s') := by
  obtain ⟨d, hd, hw, hcached, hlog⟩ := exec_directory h
  simp only [PlayerDirectoryService.exec, Option.ite_none_left_eq_some, Option.some.injEq,
    Prod.mk.injEq] at hd
  obtain ⟨-, rfl, rfl⟩ := hd
  rw [Function.update_eq_self_iff.mpr rfl] at hcached
  have hv := view_eq (congrArg World.entries hw) (congrArg World.counter hw) hcached hlog
  rw [hv]
  simp only [DirectoryLog.record]
  cases hc : (s.1.games t.1).directory.entries key with
  | none => exact .idle
  | some p => exact .cachedAnswer key p (hI.cached t.1 key p hc)

theorem leave_spec {r : Unit} (h : (accountMachine cfg).exec t (.directory .leave) i s = some (s', r)) :
    view s' = view s := by
  obtain ⟨d, hd, hw, hcached, hlog⟩ := exec_directory h
  simp only [PlayerDirectoryService.exec, Option.some.injEq, Prod.mk.injEq] at hd
  obtain ⟨rfl, -⟩ := hd
  rw [Function.update_eq_self_iff.mpr rfl] at hcached
  exact view_eq (by rw [hw]; rfl) (by rw [hw]; rfl) hcached hlog

/-- A `GET` of an entry that succeeds returns what the entry holds. -/
theorem getEntry_spec {key : String} {r : Result × Option String}
    (h : (accountMachine cfg).exec t (.directory (.getEntry key)) i s = some (s', r)) :
    view s' = view s ∧ ∀ text, r.2 = some text → (view s).entries key = some (.text text) := by
  obtain ⟨d, hd, hw, hcached, hlog⟩ := exec_directory h
  simp only [PlayerDirectoryService.exec, Option.some.injEq, Prod.mk.injEq] at hd
  obtain ⟨rfl, rfl⟩ := hd
  rw [Function.update_eq_self_iff.mpr rfl] at hcached
  have hserved : s.1.served cfg t.1 (.directory (.getEntry key)) i =
      (s.1.world.expire i.expired).serve i.fault i.serverMs (.entryGet key) := rfl
  rw [hserved] at hw ⊢
  have hworld : s'.1.world = s.1.world.expire i.expired := by
    rw [hw]
    cases i.fault <;> rfl
  refine ⟨view_eq (by rw [hworld]; rfl) (by rw [hworld]; rfl) hcached hlog, ?_⟩
  intro text htext
  simp only [view]
  -- the fault decides whether an answer comes at all
  cases hf : i.fault <;> rw [hf] at htext
  · simp only [World.serve, World.execute, FleetInput.env] at htext
    change (redisGet (World.get (s.1.world.entries key)).redis).2 = some text at htext
    cases hv : s.1.world.entries key with
    | none => simp [hv, World.get, redisGet] at htext
    | some value =>
      cases value with
      | other => simp [hv, World.get, redisGet] at htext
      | text stored =>
          simp only [hv, World.get, redisGet, Option.some.injEq] at htext
          rw [htext]
  all_goals simp [World.serve, lostAnswer, Command.unavailableAnswer, FleetInput.env, redisGet] at htext

theorem getCounter_spec {r : Result × Option String}
    (h : (accountMachine cfg).exec t (.directory .getCounter) i s = some (s', r)) :
    view s' = view s := by
  obtain ⟨d, hd, hw, hcached, hlog⟩ := exec_directory h
  simp only [PlayerDirectoryService.exec, Option.some.injEq, Prod.mk.injEq] at hd
  obtain ⟨rfl, -⟩ := hd
  rw [Function.update_eq_self_iff.mpr rfl] at hcached
  have hworld : s'.1.world = s.1.world.expire i.expired := by
    rw [hw]
    show ((s.1.world.expire i.expired).serve i.fault i.serverMs .counterGet).1 = _
    cases i.fault <;> rfl
  exact view_eq (by rw [hworld]; rfl) (by rw [hworld]; rfl) hcached hlog

/-- The counter is written only when it is absent. -/
theorem initCounter_spec {r : Result}
    (h : (accountMachine cfg).exec t (.directory .initCounter) i s = some (s', r)) :
    (view s).Step strict t (view s') := by
  obtain ⟨d, hd, hw, hcached, hlog⟩ := exec_directory h
  simp only [PlayerDirectoryService.exec, Option.some.injEq, Prod.mk.injEq] at hd
  obtain ⟨rfl, -⟩ := hd
  rw [Function.update_eq_self_iff.mpr rfl] at hcached
  have hserved : s.1.served cfg t.1 (.directory .initCounter) i =
      (s.1.world.expire i.expired).serve i.fault i.serverMs
        (.counterSetIfAbsent counterFloorText) := rfl
  rw [hserved] at hw
  have hentries : s'.1.world.entries = s.1.world.entries := by
    rw [hw]
    cases i.fault <;> rfl
  have hcounter : s'.1.world.counter = s.1.world.counter ∨ s.1.world.counter = none := by
    rw [hw]
    cases hc : s.1.world.counter with
    | none => exact .inr rfl
    -- `SET NX` leaves what is there alone, whether it is executed or not
    | some value =>
        left
        have hexec : (World.setIfAbsent (s.1.world.counter) counterFloorText).1 = some value := by
          rw [hc]; rfl
        cases i.fault with
        | none => exact hexec
        | dropped => exact hc
        | replyLost => exact hexec
        | unavailable => exact hc
  rw [view_eq hentries rfl hcached hlog]
  rcases hcounter with hsame | habsent
  · rw [hsame]
    exact .idle
  -- an absent counter stood for no number, so that nothing goes back
  · refine .counter _ fun _ c hc => ?_
    simp only [view, habsent, counterValue] at hc
    cases hc

/-- A reset that does not set the counter back only moves it up. -/
theorem resetCounter_spec {r : Result} (hfresh : strict → resetsBack (.directory .resetCounter) i s.1 = false)
    (h : (accountMachine cfg).exec t (.directory .resetCounter) i s = some (s', r)) :
    (view s).Step strict t (view s') := by
  obtain ⟨d, hd, hw, hcached, hlog⟩ := exec_directory h
  simp only [PlayerDirectoryService.exec, Option.some.injEq, Prod.mk.injEq] at hd
  obtain ⟨rfl, -⟩ := hd
  rw [Function.update_eq_self_iff.mpr rfl] at hcached
  have hserved : s.1.served cfg t.1 (.directory .resetCounter) i =
      (s.1.world.expire i.expired).serve i.fault i.serverMs (.counterSet counterFloorText) := rfl
  rw [hserved] at hw
  have hentries : s'.1.world.entries = s.1.world.entries := by
    rw [hw]
    cases i.fault <;> rfl
  have hcounter : s'.1.world.counter =
      if i.fault.executes then some (.text counterFloorText) else s.1.world.counter := by
    rw [hw]
    cases i.fault <;> rfl
  rw [view_eq hentries hcounter hcached hlog]
  cases he : i.fault.executes with
  | false => exact .idle
  | true =>
      have hfloor : counterValue (some (.text counterFloorText)) = some counterFloor := by decide
      refine .counter _ fun hstrict c hc => ⟨counterFloor, hfloor, ?_⟩
      have hf := hfresh hstrict
      simp only [resetsBack, he, Bool.true_and] at hf
      change counterValue s.1.world.counter = some c at hc
      rw [hc] at hf
      -- the guard: the counter stood no higher than the floor
      simp only [Option.any_some, decide_eq_false_iff_not] at hf
      omega

/-- A reported increment gives the thread an id above all the counter has passed. -/
theorem increment_spec {r : Result × Int}
    (h : (accountMachine cfg).exec t (.directory .increment) i s = some (s', r)) :
    (view s).Step strict t (view s') ∧
      (r.1.ok = true → (view s').log.holding t = some (castPlayerId r.2)) := by
  obtain ⟨d, hd, hw, hcached, hlog⟩ := exec_directory h
  simp only [PlayerDirectoryService.exec, Option.some.injEq, Prod.mk.injEq] at hd
  obtain ⟨rfl, hr⟩ := hd
  rw [Function.update_eq_self_iff.mpr rfl] at hcached
  have hserved : s.1.served cfg t.1 (.directory .increment) i =
      (s.1.world.expire i.expired).serve i.fault i.serverMs .counterIncrement := rfl
  rw [hserved] at hw hr
  have hentries : s'.1.world.entries = s.1.world.entries := by
    rw [hw]
    cases i.fault <;> rfl
  have hcases := increment_cases s.1.world.counter
  rw [view_eq hentries rfl hcached hlog]
  have hcounter : s'.1.world.counter =
      if i.fault.executes then (World.increment s.1.world.counter).1 else s.1.world.counter := by
    rw [hw]
    cases i.fault <;> rfl
  have hlost : i.fault ≠ .none → r.1.ok = false := by
    intro hf
    rw [← hr]
    cases hfault : i.fault with
    | none => exact absurd hfault hf
    | _ => rfl
  by_cases hok : r.1.ok = true
  -- the thread was told a number, so that the command was executed and answered
  · have hnone : i.fault = .none := by
      by_contra hf
      rw [hlost hf] at hok
      cases hok
    rw [hnone] at hr hcounter
    change redisIncrement (World.increment s.1.world.counter).2.redis = r at hr
    -- no number is told by an increment that fails
    rcases hcases with ⟨-, hno⟩ | ⟨n, hn, hvalue, hlo, hhi, hnew⟩
    · obtain ⟨n, hn⟩ := redisIncrement_ok.mp (hr ▸ hok)
      exact absurd hn (hno n)
    · have hr2 : r.2 = n := by rw [← hr, hn]; rfl
      have hid := counterOf_castPlayerId hlo hhi
      simp only [DirectoryLog.record, hok, if_true, hr2, Function.update_self, implies_true,
        and_true]
      refine .issue _ _ (fun _ => ?_) fun _ c hc => ?_
      · rw [hcounter, hid]
        exact hvalue
      · rw [hid]
        exact hnew c hc
  · refine ⟨?_, fun h => absurd h hok⟩
    simp only [DirectoryLog.record, if_neg hok]
    refine .counter _ fun _ c hc => ?_
    rw [hcounter]
    -- the thread was told nothing: the counter may have moved up unnoticed
    split
    · rcases hcases with ⟨hsame, -⟩ | ⟨n, -, hvalue, -, -, hnew⟩
      · exact ⟨c, by rw [hsame]; exact hc, Int.le_refl c⟩
      · exact ⟨n, hvalue, Int.le_of_lt (hnew c hc)⟩
    · exact ⟨c, hc, Int.le_refl c⟩

/-- A reported `SET NX` has made the entry, and the thread is the one to report it. -/
theorem createEntry_spec {key : String} {p : PlayerId} {r : Result}
    (hheld : strict → (view s).log.holding t = some p)
    (h : (accountMachine cfg).exec t (.directory (.createEntry key p)) i s = some (s', r)) :
    (view s).Step strict t (view s') ∧
      (r.ok = true → (view s').Names key p ∧ (view s').log.owed key = some t) := by
  obtain ⟨d, hd, hw, hcached, hlog⟩ := exec_directory h
  simp only [PlayerDirectoryService.exec, Option.some.injEq, Prod.mk.injEq] at hd
  obtain ⟨rfl, hr⟩ := hd
  rw [Function.update_eq_self_iff.mpr rfl] at hcached
  have hserved : s.1.served cfg t.1 (.directory (.createEntry key p)) i =
      (s.1.world.expire i.expired).serve i.fault i.serverMs
        (.entrySetIfAbsent key p.toNat.repr) := rfl
  rw [hserved] at hw hr
  have hcounter : s'.1.world.counter = s.1.world.counter := by
    rw [hw]
    cases i.fault <;> rfl
  have hentries : s'.1.world.entries =
      if i.fault.executes then
        Function.update s.1.world.entries key
          (World.setIfAbsent (s.1.world.entries key) p.toNat.repr).1
      else s.1.world.entries := by
    rw [hw]
    cases i.fault <;> rfl
  -- `OK` comes only from a free key, when nothing is lost
  have hok : r.ok = true ↔ i.fault = .none ∧ s.1.world.entries key = none := by
    rw [← hr]
    cases hfault : i.fault with
    | none =>
        change (redisSetIfAbsent (World.setIfAbsent (s.1.world.entries key) p.toNat.repr).2.redis).ok
          = true ↔ _
        cases s.1.world.entries key <;> simp [World.setIfAbsent, statusOk, redisSetIfAbsent]
    | dropped => simp [World.serve, lostAnswer, FleetInput.env, redisSetIfAbsent]
    | replyLost => simp [World.serve, lostAnswer, FleetInput.env, redisSetIfAbsent]
    | unavailable =>
        simp [World.serve, Command.unavailableAnswer, FleetInput.env, redisSetIfAbsent]
  rw [view_eq hentries hcounter hcached hlog]
  simp only [DirectoryLog.record]
  cases hpresent : s.1.world.entries key with
  -- `SET NX` on an entry that is there: nothing changes, and the id in hand is given up
  | some value =>
      have hno : r.ok = false := by
        rw [Bool.eq_false_iff, ne_eq, hok, hpresent]
        simp
      have hsame : (if i.fault.executes then
          Function.update s.1.world.entries key (World.setIfAbsent (some value) p.toNat.repr).1
          else s.1.world.entries) = s.1.world.entries := by
        split
        · exact Function.update_eq_self_iff.mpr hpresent.symm
        · rfl
      simp only [hno, hsame, Bool.false_eq_true, if_false]
      exact ⟨.unhold, fun h => by cases h⟩
  | none =>
      -- a free key: it depends on the fault whether the entry is made
      cases hex : i.fault.executes with
      | false =>
          have hno : r.ok = false := by
            rw [Bool.eq_false_iff, ne_eq, hok]
            rintro ⟨hf, -⟩
            rw [hf] at hex
            cases hex
          simp only [hno, Bool.false_eq_true, if_false]
          exact ⟨.unhold, fun h => by cases h⟩
      | true =>
          refine ⟨.create key p r.ok hpresent hheld, fun h => ⟨⟨p.toNat.repr, ?_, stoull_toNat p⟩, ?_⟩⟩
          · simp [World.setIfAbsent]
          · simp [h]

/-- An answer that the entry in Redis confirms is kept and reported. -/
theorem remember_spec {key : String} {resolved : PlayerDirectoryResolveResult} {r : Unit}
    (hready : Ready strict t (view s) (.directory (.remember key resolved)))
    (h : (accountMachine cfg).exec t (.directory (.remember key resolved)) i s = some (s', r)) :
    (view s).Step strict t (view s') := by
  obtain ⟨d, hd, hw, hcached, hlog⟩ := exec_directory h
  simp only [PlayerDirectoryService.exec, Option.some.injEq, Prod.mk.injEq] at hd
  obtain ⟨rfl, -⟩ := hd
  rw [view_eq (congrArg World.entries hw) (congrArg World.counter hw) hcached hlog]
  exact .remember t.1 _ key resolved (fun k p hk => emplace_cases hk) hready.1 hready.2

end Specs

/-! ## Outlines of the directory's calls -/

/-- The outline of the results about accounts. A thread may rely on its own held id, on its own unreported
entry, and on every entry that is there. -/
def accountOutline (strict : Bool) :
    Outline (G × T) Op Act FleetInput (Fleet G T × DirectoryLog (G × T)) where
  inv s := (view s).Agree ∧ (strict = true → (view s).Distinct)
  rest _ _ := True
  start _ _ _ := True
  ok _ _ a i s := takesFallback a = false ∧ (strict = true → resetsBack a i s.1 = false)
  event t _ _ _ s s' := (view s).Step (strict = true) t (view s')
  rely t _ s s' := (view s').log.holding t = (view s).log.holding t ∧
    (∀ key, (view s).log.owed key = some t → (view s').log.owed key = some t) ∧
    ∀ key value, (view s).entries key = some value → (view s').entries key = some value
  rely_refl _ _ _ := ⟨rfl, fun _ h => h, fun _ _ h => h⟩
  rely_trans _ _ _ _ _ h h' :=
    ⟨h'.1.trans h.1, fun key ho => h'.2.1 key (h.2.1 key ho),
      fun key value hv => h'.2.2 key value (h.2.2 key value hv)⟩
  rest_rely _ _ _ _ _ := trivial

section Outline

variable {strict : Bool} {o : Op}

/-- An abstract step keeps the invariant of the outline. -/
theorem account_inv (hI : (accountOutline (G := G) (T := T) strict).inv s)
    (h : (view s).Step (strict = true) t (view s')) : (accountOutline strict).inv s' := by
  refine ⟨hI.1.step h, fun hs => ?_⟩
  rw [eq_true hs] at h
  exact (hI.2 hs).step h

/-- Safety of the calls that stay outside the directory. -/
theorem account_all {α : Type} {p : Call α}
    (hp : p.All fun a => ∀ d : DirectoryAct, a ≠ .directory d)
    {s : Fleet G T × DirectoryLog (G × T)} :
    (accountOutline strict).Safe (accountMachine cfg) t o (fun _ _ => True) p s := by
  refine Outline.safe_of_all (K := fun _ => True) (fun _ _ _ _ _ _ => trivial) ?_
    (fun _ _ _ => trivial) hp trivial
  intro e i s s' r he hI _ _ hx
  have hstep : (view s).Step (strict = true) t (view s') := by
    rw [view_of_notDirectory he hx]
    exact .idle
  exact ⟨hstep, account_inv hI hstep, trivial⟩

/-- The last section of an answer: what it writes down is confirmed by the entry in Redis. -/
theorem account_remember {key : String} {resolved : PlayerDirectoryResolveResult}
    {k : Unit → Call ResolveOutcome} (hk : ∀ r, ∃ x, k r = .ret x)
    (hready : Ready (strict = true) t (view s) (.directory (.remember key resolved))) :
    (accountOutline strict).Safe (accountMachine cfg) t o (fun _ _ => True)
      (.act (.directory (.remember key resolved)) k) s := by
  intro s₁ hrely hI i s₂ r _ hx
  have hready₁ : Ready (strict = true) t (view s₁) (.directory (.remember key resolved)) := by
    obtain ⟨⟨text, ht, hr⟩, howed⟩ := hready
    exact ⟨⟨text, hrely.2.2 key _ ht, hr⟩, fun h => hrely.2.1 key (howed h)⟩
  have hstep := remember_spec hready₁ hx
  refine ⟨hstep, account_inv hI hstep, ?_⟩
  obtain ⟨x, hx⟩ := hk r
  rw [hx]
  trivial

theorem account_leave {α : Type} {k : Unit → Call α} (hk : ∀ r, ∃ x, k r = .ret x) :
    (accountOutline strict).Safe (accountMachine cfg) t o (fun _ _ => True)
      (.act (.directory .leave) k) s := by
  intro s₁ _ hI i s₂ r _ hx
  have hstep : (view s₁).Step (strict = true) t (view s₂) := by
    rw [leave_spec hx]
    exact .idle
  refine ⟨hstep, account_inv hI hstep, ?_⟩
  obtain ⟨x, hx⟩ := hk r
  rw [hx]
  trivial

/-- An entry that was read is answered as it was read: entries do not change. -/
theorem account_answerEntry {key text : String}
    (hentry : (view s).entries key = some (.text text)) :
    (accountOutline strict).Safe (accountMachine cfg) t o (fun _ _ => True)
      (answerEntry key text) s := by
  unfold answerEntry
  split
  · exact account_leave fun _ => ⟨_, rfl⟩
  · rename_i playerId hread
    exact account_remember (fun _ => ⟨_, rfl⟩) ⟨⟨text, hentry, hread⟩, fun h => by cases h⟩

/-- No call of the runs considered takes an id from its local counter. -/
theorem account_answerFallback {key : String} :
    (accountOutline strict).Safe (accountMachine cfg) t o (fun _ _ => True)
      (answerFallback key) s := by
  intro s₁ _ _ i s₂ r hok _
  exact absurd hok.1 (by simp [takesFallback])

/-- A section followed by a call that is safe wherever the section leads. -/
theorem account_seq {α : Type} {Q : α → Fleet G T × DirectoryLog (G × T) → Prop} {a : Act}
    {k : a.Reply → Call α} (hstep : ∀ s₁ i s₂ r, (accountOutline (G := G) (T := T) strict).inv s₁ →
      (strict = true → resetsBack a i s₁.1 = false) →
      (accountMachine cfg).exec t a i s₁ = some (s₂, r) →
      (view s₁).Step (strict = true) t (view s₂) ∧
        (accountOutline strict).Safe (accountMachine cfg) t o Q (k r) s₂) :
    (accountOutline strict).Safe (accountMachine cfg) t o Q (call a >>= k) s := by
  intro s₁ _ hI i s₂ r hok hx
  obtain ⟨hst, hk⟩ := hstep s₁ i s₂ r hI hok.2 hx
  exact ⟨hst, account_inv hI hst, hk⟩

theorem account_prepareCounter {α : Type} {k : Unit → Call α}
    (hk : ∀ s, (accountOutline (G := G) (T := T) strict).Safe (accountMachine cfg) t o
      (fun _ _ => True) (k ()) s) :
    (accountOutline strict).Safe (accountMachine cfg) t o (fun _ _ => True)
      (prepareCounter >>= k) s := by
  refine Outline.Safe.bind (account_seq fun s₁ i s₂ r _ _ hx => ⟨?_, ?_⟩)
  · rw [getCounter_spec hx]
    exact .idle
  · split
    · exact account_seq fun s₁ i s₂ r _ _ hx => ⟨initCounter_spec hx, hk s₂⟩
    · split
      · exact account_seq fun s₁ i s₂ r _ hfresh hx => ⟨resetCounter_spec hfresh hx, hk s₂⟩
      · exact hk s₂

theorem account_resolveLoop (key : String) (fuel : Nat) :
    ∀ s, (accountOutline (G := G) (T := T) strict).Safe (accountMachine cfg) t o (fun _ _ => True)
      (resolveLoop key fuel) s := by
  induction fuel with
  | zero => intro s; trivial
  | succ fuel ih =>
      intro s
      refine account_prepareCounter fun s => account_seq fun s₁ i s₂ r _ _ hx => ?_
      obtain ⟨hst, hheld⟩ : (view s₁).Step (strict = true) t (view s₂) ∧
          (r.1.ok = true → (view s₂).log.holding t = some (castPlayerId r.2)) := increment_spec hx
      refine ⟨hst, ?_⟩
      split
      · exact account_answerFallback
      · rename_i hok
        have hheld₂ := hheld (by simpa using hok)
        -- the id this thread has taken is still its own when it makes the entry
        intro s₃ hrely hI₃ i s₄ create hok₃ hx₃
        have hheld₃ : (strict = true) → (view s₃).log.holding t = some (castPlayerId r.2) :=
          fun _ => hrely.1.trans hheld₂
        obtain ⟨hst₃, hmade⟩ := createEntry_spec hheld₃ hx₃
        refine ⟨hst₃, account_inv hI₃ hst₃, ?_⟩
        dsimp only [Prog.bind]
        split
        · rename_i hcreate
          obtain ⟨hnames, howed⟩ := hmade hcreate
          exact account_remember (fun _ => ⟨_, rfl⟩) ⟨hnames, fun _ => howed⟩
        · split
          · exact account_answerFallback
          · refine account_seq fun s₁ i s₂ r _ _ hx => ?_
            obtain ⟨hview, hentry⟩ := getEntry_spec hx
            refine ⟨by rw [hview]; exact .idle, ?_⟩
            split
            · rename_i text htext
              exact account_answerEntry (by rw [hview]; exact hentry text htext)
            · exact ih s₂

theorem account_resolveOrCreate (key : String) (fuel : Nat) :
    (accountOutline strict).Safe (accountMachine cfg) t o (fun _ _ => True)
      (resolveOrCreate fuel key) s := by
  refine account_seq fun s₁ i s₂ r hI _ hx => ⟨enter_spec hI.1 hx, ?_⟩
  split
  · exact account_leave fun _ => ⟨_, rfl⟩
  · refine account_seq fun s₁ i s₂ r _ _ hx => ?_
    obtain ⟨hview, hentry⟩ := getEntry_spec hx
    refine ⟨by rw [hview]; exact .idle, ?_⟩
    split
    · rename_i text htext
      exact account_answerEntry (by rw [hview]; exact hentry text htext)
    · exact account_resolveLoop key fuel s₂

theorem account_lookup (key : String) :
    (accountOutline strict).Safe (accountMachine cfg) t o (fun _ _ => True) (lookup key) s := by
  refine account_seq fun s₁ i s₂ r hI _ hx => ⟨enter_spec hI.1 hx, ?_⟩
  split
  · exact account_leave fun _ => ⟨_, rfl⟩
  · refine account_seq fun s₁ i s₂ r _ _ hx => ?_
    obtain ⟨hview, hentry⟩ := getEntry_spec hx
    refine ⟨by rw [hview]; exact .idle, ?_⟩
    split
    · rename_i text htext
      refine Outline.Safe.bind ((account_answerEntry ?_).mono fun _ _ _ => trivial)
      rw [hview]
      exact hentry text htext
    · exact account_leave fun _ => ⟨_, rfl⟩

theorem account_code (fuel : Nat) :
    (accountOutline strict).Safe (accountMachine cfg) t o (fun _ _ => True) (code cfg fuel t o) s := by
  have hplain : ∀ a : Act, a.plain = true → ∀ d : DirectoryAct, a ≠ .directory d := by
    rintro a ha d rfl
    cases ha
  refine Op.code_of_calls (Outline.compositional_safe (K := fun _ => True)) ?_ ?_ ?_ ?_ ?_ s trivial
  · intro ho s _
    exact account_all (Op.code_all hplain _ fuel ho)
  · intro source key gate s _
    refine Outline.Safe.bind ((account_resolveOrCreate key fuel).mono fun outcome s _ => ?_)
    split
    · exact account_all ((answerLogin_all hplain _ source gate _).bind fun _ => all_pure)
    · trivial
    · trivial
  · intro key s _
    exact account_resolveOrCreate key fuel
  · intro key s _
    exact account_lookup key
  · intro order s _
    refine account_all (renewLeases_all ?_ order)
    intro a d h
    cases h

theorem account_proved (fuel : Nat) :
    (accountOutline (G := G) (T := T) strict).Proved (accountMachine cfg) (code cfg fuel)
      (fun c m => accountGuard strict c m = true) (fun _ _ _ _ => True) where
  start _ _ _ _ _ := trivial
  ok c t o a k i hg _ ht := by
    have hp : c.pending t = some a := by simp [Pool.pending, ht]
    simp only [accountGuard, hp, Bool.and_eq_true, Bool.not_eq_true', Bool.and_eq_false_iff] at hg
    refine ⟨hg.1, fun hs => ?_⟩
    rcases hg.2 with h | h
    · rw [hs] at h
      cases h
    · exact h
  safe t o s _ _ _ := (account_code fuel).mono fun _ _ _ => ⟨trivial, trivial⟩
  compatible c t o a k i s r _ hgood _ _ hev u hu := by
    obtain ⟨hhold, howed⟩ := DirectoryView.Step.other hev hgood.1.1 hu
    exact ⟨hhold, howed, fun _ _ hv => hev.entries_mono hv⟩

end Outline

/-! ## Every run -/

variable {fuel : Nat} {s₀ : Fleet G T}
  {c : Pool (G × T) Op Act Act.Reply OpResult (Fleet G T × DirectoryLog (G × T))}

/-- The invariant of the outline in every run from empty caches and, when `strict`, an empty directory. -/
theorem account_run {strict : Bool} (hentries : strict = true → ∀ key, s₀.world.entries key = none)
    (hcached : ∀ g key, (s₀.games g).directory.entries key = none)
    (hrun : Run (accountMachine cfg) (code cfg fuel) (fun c m => accountGuard strict c m = true)
      (Pool.initial (s₀, {})) c) : (accountOutline (G := G) (T := T) strict).inv c.shared := by
  refine ((account_proved fuel).sound (Outline.good_initial ⟨?_, fun hstrict => ?_⟩ fun _ => trivial) hrun).1
  -- what holds in every run: the caches are empty, and nothing is owed
  · refine ⟨?_, ?_, ?_, ?_, ?_⟩
    · intro g key p hp
      rw [show (view (s₀, ({} : DirectoryLog (G × T)))).cached g key = none from hcached g key] at hp
      cases hp
    · intro a ha
      cases ha
    · exact fun key _ => ⟨rfl, rfl⟩
    · exact fun key t _ => rfl
    · exact fun key => Nat.zero_le 1
  -- the directory is empty, and nobody holds an id
  · refine ⟨?_, ?_, ?_, ?_, ?_⟩
    · intro key value hv
      rw [show (view (s₀, ({} : DirectoryLog (G × T)))).entries key = none from
        hentries hstrict key] at hv
      cases hv
    · intro key key' value hv
      rw [show (view (s₀, ({} : DirectoryLog (G × T)))).entries key = none from
        hentries hstrict key] at hv
      cases hv
    · intro t p hp
      cases hp
    · intro t u p hp
      cases hp
    · intro t p key hp
      cases hp

/-- **The directory is agreed on.** Whatever Redis holds at the start, in every run in which no call
takes an id from its local counter, all answers for a key name one id, and at most one of them reports
the entry as created. -/
theorem directory_agreed (h₀ : ∀ g key, (s₀.games g).directory.entries key = none)
    (hrun : Run (accountMachine cfg) (code cfg fuel) (fun c m => accountGuard false c m = true)
      (Pool.initial (s₀, {})) c) :
    (∀ a ∈ c.shared.2.answers, ∀ b ∈ c.shared.2.answers, a.key = b.key →
      a.playerId = b.playerId) ∧
    ∀ key, c.shared.2.createdCount key ≤ 1 := by
  obtain ⟨hI, -⟩ := account_run (fun h => by cases h) h₀ hrun
  exact ⟨fun a ha b hb hkey => hI.sameId ha hb hkey, hI.once⟩

/-! ### Two games over one counter -/

/-- A fleet of two games with one thread each, over a given counter. -/
def twoDirectories (counter : Option RedisValue) :
    Pool (Bool × Unit) Op Act Act.Reply OpResult (Fleet Bool Unit × DirectoryLog (Bool × Unit)) :=
  Pool.initial ({ world := { counter } }, {})

/-- Sections of a game's call, each meeting the given fault. -/
def sections (g : Bool) (faults : List Fault) : List (Move (Bool × Unit) Op FleetInput) :=
  faults.map fun fault => .act (g, ()) { fault }

/-- A call of `ResolveOrCreate` and its first sections. -/
def resolves (g : Bool) (accountId : String) (faults : List Fault) :
    List (Move (Bool × Unit) Op FleetInput) :=
  .start (g, ()) (.resolve "p" accountId 1) :: sections g faults

/-- One game makes the entry, and the other finds it. -/
def sharedAccount : List (Move (Bool × Unit) Op FleetInput) :=
  resolves true "x" (List.replicate 7 .none) ++ resolves false "x" (List.replicate 3 .none)

theorem directory_agreed_shared :
    ∃ c, (twoDirectories none).play (accountMachine twoGames) (code twoGames 1) (accountGuard false)
        sharedAccount = some c ∧
      c.shared.2.answers = [⟨"p:x:1", 100000, false⟩, ⟨"p:x:1", 100000, true⟩] ∧
      ∀ key, c.shared.2.createdCount key ≤ 1 := by
  have hend : ((twoDirectories none).play (accountMachine twoGames) (code twoGames 1)
      (accountGuard false) sharedAccount).map (fun c => c.shared.2.answers) =
      some [⟨"p:x:1", 100000, false⟩, ⟨"p:x:1", 100000, true⟩] := by decide
  obtain ⟨c, hc, hans⟩ := Option.map_eq_some_iff.mp hend
  have hrun := Run.refl.play (fun _ _ h => h) hc
  exact ⟨c, hc, hans, (directory_agreed (fun _ _ => rfl) hrun).2⟩

/-- A game whose `INCRBY` is lost answers an id of its own and keeps it; for the other game the same
account is new. -/
def outage : List (Move (Bool × Unit) Op FleetInput) :=
  resolves true "x" [.none, .none, .none, .dropped, .none] ++
    resolves false "x" (List.replicate 6 .none)

/-- After one lost command two games answer different ids for one key, both as newly created. -/
theorem directory_disagrees :
    ∃ c, Run (accountMachine twoGames) (code twoGames 1) (fun _ _ => True)
        (twoDirectories (some (.text "200000"))) c ∧
      (∃ a ∈ c.shared.2.answers, ∃ b ∈ c.shared.2.answers,
        a.key = b.key ∧ a.playerId ≠ b.playerId) ∧
      c.shared.2.createdCount "p:x:1" = 2 := by
  have hend : ((twoDirectories (some (.text "200000"))).play (accountMachine twoGames)
      (code twoGames 1) (fun _ _ => true) outage).map (fun c => c.shared.2.answers) =
      some [⟨"p:x:1", 200001, true⟩, ⟨"p:x:1", 100000, true⟩] := by decide
  obtain ⟨c, hc, hans⟩ := Option.map_eq_some_iff.mp hend
  refine ⟨c, Run.refl.play (fun _ _ _ => trivial) hc, ?_, ?_⟩
  · rw [hans]
    decide
  · rw [DirectoryLog.createdCount, hans]
    decide

/-- **Accounts do not share ids.** Whatever the counter is at the start of an otherwise empty directory,
in every run in which no call takes an id from its local counter and no reset sets the shared counter
back, answers for different keys name different ids. -/
theorem ids_distinct (hentries : ∀ key, s₀.world.entries key = none)
    (hcached : ∀ g key, (s₀.games g).directory.entries key = none)
    (hrun : Run (accountMachine cfg) (code cfg fuel) (fun c m => accountGuard true c m = true)
      (Pool.initial (s₀, {})) c) :
    ∀ a ∈ c.shared.2.answers, ∀ b ∈ c.shared.2.answers, a.key ≠ b.key →
      a.playerId ≠ b.playerId := by
  obtain ⟨hagree, hdistinct⟩ := account_run (fun _ => hentries) hcached hrun
  intro a ha b hb hkey hid
  exact hkey (hagree.sameKey (hdistinct rfl) ha hb hid)

/-- Two accounts at two games, both commands in good order. -/
def twoAccounts : List (Move (Bool × Unit) Op FleetInput) :=
  resolves true "x" (List.replicate 7 .none) ++ resolves false "y" (List.replicate 6 .none)

theorem ids_distinct_two :
    ∃ c, (twoDirectories (some (.text "5"))).play (accountMachine twoGames) (code twoGames 1)
        (accountGuard true) twoAccounts = some c ∧
      c.shared.2.answers = [⟨"p:y:1", 100001, true⟩, ⟨"p:x:1", 100000, true⟩] ∧
      ∀ a ∈ c.shared.2.answers, ∀ b ∈ c.shared.2.answers, a.key ≠ b.key →
        a.playerId ≠ b.playerId := by
  have hend : ((twoDirectories (some (.text "5"))).play (accountMachine twoGames) (code twoGames 1)
      (accountGuard true) twoAccounts).map (fun c => c.shared.2.answers) =
      some [⟨"p:y:1", 100001, true⟩, ⟨"p:x:1", 100000, true⟩] := by decide
  obtain ⟨c, hc, hans⟩ := Option.map_eq_some_iff.mp hend
  have hrun := Run.refl.play (fun _ _ h => h) hc
  exact ⟨c, hc, hans, ids_distinct (fun _ => rfl) (fun _ _ => rfl) hrun⟩

/-- The first account gets its id from the shared counter, the second one from the local counter of a
game whose `INCRBY` is lost. -/
def fallbackCollision : List (Move (Bool × Unit) Op FleetInput) :=
  resolves true "x" (List.replicate 7 .none) ++
    resolves false "y" [.none, .none, .none, .dropped, .none]

/-- Both games read a counter below the floor; the first resets it after the second has already taken
an id from it. No command fails. -/
def resetCollision : List (Move (Bool × Unit) Op FleetInput) :=
  resolves true "x" (List.replicate 3 .none) ++ resolves false "y" (List.replicate 7 .none) ++
    sections true (List.replicate 4 .none)

/-- Two accounts get one id through the fallback and, with no failing command, through the reset. -/
theorem ids_collide :
    (∃ c, Run (accountMachine twoGames) (code twoGames 1) (fun _ _ => True) (twoDirectories none) c ∧
      ∃ a ∈ c.shared.2.answers, ∃ b ∈ c.shared.2.answers,
        a.key ≠ b.key ∧ a.playerId = b.playerId) ∧
    ∃ c, Run (accountMachine twoGames) (code twoGames 1) (fun _ _ => True)
        (twoDirectories (some (.text "5"))) c ∧
      ∃ a ∈ c.shared.2.answers, ∃ b ∈ c.shared.2.answers,
        a.key ≠ b.key ∧ a.playerId = b.playerId := by
  have hfallback : ((twoDirectories none).play (accountMachine twoGames) (code twoGames 1)
      (fun _ _ => true) fallbackCollision).map (fun c => c.shared.2.answers) =
      some [⟨"p:y:1", 100000, true⟩, ⟨"p:x:1", 100000, true⟩] := by decide
  have hreset : ((twoDirectories (some (.text "5"))).play (accountMachine twoGames) (code twoGames 1)
      (fun _ _ => true) resetCollision).map (fun c => c.shared.2.answers) =
      some [⟨"p:x:1", 100000, true⟩, ⟨"p:y:1", 100000, true⟩] := by decide
  obtain ⟨c, hc, hans⟩ := Option.map_eq_some_iff.mp hfallback
  obtain ⟨d, hd, hans'⟩ := Option.map_eq_some_iff.mp hreset
  refine ⟨⟨c, Run.refl.play (fun _ _ _ => trivial) hc, ?_⟩,
    ⟨d, Run.refl.play (fun _ _ _ => trivial) hd, ?_⟩⟩
  · rw [hans]
    decide
  · rw [hans']
    decide

end Fleet

end SomeServer
