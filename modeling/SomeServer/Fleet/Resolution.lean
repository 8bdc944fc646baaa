/-
# SomeServer.Fleet.Resolution — how `ResolveOrCreate` leaves its loop

One call of `ResolveOrCreate` against one behaviour of the outside: before each of its commands other processes
do something to Redis, and the command may fail (`Meanwhile`). The entry of the account stays as it is and the
failures come to an end (`Calm`).

A turn of the loop asks for another one only when the entry is there and the `GET` of it brings no text
(`resolveTurn_again`). With a string in the entry this is a failure, so there are finitely many such turns. With
a value of another type every turn is one, as long as the counter can be raised: a counter that others put back
keeps the loop for ever (`spins_other`), and one that they leave alone ends it when it has reached the largest
64-bit number (`resolveOrCreate_overflows`).
-/
import SomeServer.Fleet.World
import SomeServer.Game.Steps
import SomeServer.Lib.Loops
import Mathlib.Data.Prod.Lex
import Mathlib.Order.WellFounded

namespace SomeServer

open Lib Lib.Decimal

variable {G T : Type}

/-! ## One call and what happens meanwhile -/

/-- What happens around one section: what other processes do to the servers before it, and the input of the
section itself. -/
structure Meanwhile where
  others : World → World := id
  input : FleetInput := {}

/-- The fleet, with other processes at work on its servers. -/
def Fleet.meddled [DecidableEq G] (cfg : G → GameConfiguration) :
    Machine (G × T) Act Act.Reply Meanwhile (Fleet G T) where
  exec t a m s := { s with world := m.others s.world }.exec cfg t a m.input

/-- The entry stays as it is, and the failures come to an end. -/
structure Calm (key : String) (turns : Nat → Meanwhile) : Prop where
  entry : ∀ n w, ((turns n).others w).entries key = w.entries key
  faults : ∃ N, ∀ n, N ≤ n → (turns n).input.fault = .none

/-- With enough fuel the call is out of its loop. -/
def ResolveLeaves [DecidableEq G] (cfg : G → GameConfiguration) (t : G × T) (key : String) (turns : Nat → Meanwhile)
    (s : Fleet G T) : Prop :=
  ∃ fuel, (resolveOrCreate fuel key).Fed (Fleet.meddled cfg) t turns (fun outcome _ _ => outcome ≠ .spinning) 0 s

/-! ## One turn -/

/-- A turn of the loop; `none` asks for another one. -/
def resolveTurn (key : String) : Call (Option ResolveOutcome) := do
  prepareCounter
  let increment ← call (.directory .increment)
  if !increment.1.ok then
    let outcome ← answerFallback key
    return some outcome
  else
    let playerId := castPlayerId increment.2
    let create ← call (.directory (.createEntry key playerId))
    if create.ok then
      call (.directory (.remember key ⟨playerId, true⟩))
      return some (.resolved ⟨playerId, true⟩)
    else if create.message ≠ "exists" then
      let outcome ← answerFallback key
      return some outcome
    else
      let retry ← call (.directory (.getEntry key))
      match retry.2 with
      | some text =>
          let outcome ← answerEntry key text
          return some outcome
      | none => return none

theorem resolveLoop_eq (key : String) (fuel : Nat) :
    resolveLoop key fuel = Prog.loop (resolveTurn key) .spinning fuel := by
  induction fuel with
  | zero => rfl
  | succ fuel ih =>
      rw [resolveLoop, Prog.loop, resolveTurn, Prog.bind_bind]
      refine bind_congr fun _ => ?_
      rw [Prog.bind_bind]
      refine bind_congr fun increment => ?_
      split
      · rw [Prog.bind_bind]
        rfl
      · rw [Prog.bind_bind]
        refine bind_congr fun create => ?_
        split
        · rfl
        · split
          · rw [Prog.bind_bind]
            rfl
          · rw [Prog.bind_bind]
            refine bind_congr fun retry => ?_
            cases hretry : retry.2 with
            | some text =>
                dsimp only
                rw [Prog.bind_bind]
                exact (Prog.bind_ret _).symm
            | none => exact ih

/-! ## Single commands -/

/-- What the servers make of a command, after what the others have done. -/
def Meanwhile.serve (m : Meanwhile) (w : World) (c : Command) : World × Answer :=
  ((m.others w).expire m.input.expired).serve m.input.fault m.input.serverMs c

/-- The command is answered, and the others have left the counter alone. -/
structure Meanwhile.Quiet (m : Meanwhile) : Prop where
  answered : m.input.fault = .none
  counter : ∀ w, (m.others w).counter = w.counter

section

variable [DecidableEq G] {cfg : G → GameConfiguration} {t : G × T} {m : Meanwhile} {s : Fleet G T} {w : World}
  {key text : String}

/-- A section of the directory that sends a command never waits. -/
theorem meddled_command (cfg : G → GameConfiguration) (t : G × T) (m : Meanwhile) (s : Fleet G T)
    (a : DirectoryAct) (c : Command) (reply : Answer → a.Reply)
    (hc : ∀ s : GameProcess T, s.command (cfg t.1) m.input.nowMs (.directory a) = some c)
    (hd : ∀ (d : PlayerDirectoryService T) x, d.exec t.2 (m.input.env x) a = some (d, reply x)) :
    ∃ s', (Fleet.meddled cfg).exec t (.directory a) m s = some (s', reply (m.serve s.world c).2) ∧
      s'.world = (m.serve s.world c).1 := by
  have hserved : ({ s with world := m.others s.world } : Fleet G T).served cfg t.1 (.directory a) m.input =
      m.serve s.world c := by
    simp only [Fleet.served, Fleet.command, hc, Meanwhile.serve]
  refine ⟨⟨(m.serve s.world c).1, Function.update s.games t.1 (s.games t.1)⟩, ?_, rfl⟩
  simp only [Fleet.meddled, Fleet.exec, hserved, GameProcess.exec, hd, Option.map_some]

theorem meddled_getEntry (cfg : G → GameConfiguration) (t : G × T) (m : Meanwhile) (s : Fleet G T) (key : String) :
    ∃ s', (Fleet.meddled cfg).exec t (.directory (.getEntry key)) m s =
        some (s', redisGet (m.serve s.world (.entryGet key)).2.redis) ∧
      s'.world = (m.serve s.world (.entryGet key)).1 :=
  meddled_command cfg t m s (.getEntry key) (.entryGet key) (fun x => redisGet x.redis) (fun _ => rfl) fun _ _ => rfl

theorem meddled_getCounter (cfg : G → GameConfiguration) (t : G × T) (m : Meanwhile) (s : Fleet G T) :
    ∃ s', (Fleet.meddled cfg).exec t (.directory .getCounter) m s =
        some (s', redisGet (m.serve s.world .counterGet).2.redis) ∧
      s'.world = (m.serve s.world .counterGet).1 :=
  meddled_command cfg t m s .getCounter .counterGet (fun x => redisGet x.redis) (fun _ => rfl) fun _ _ => rfl

theorem meddled_increment (cfg : G → GameConfiguration) (t : G × T) (m : Meanwhile) (s : Fleet G T) :
    ∃ s', (Fleet.meddled cfg).exec t (.directory .increment) m s =
        some (s', redisIncrement (m.serve s.world .counterIncrement).2.redis) ∧
      s'.world = (m.serve s.world .counterIncrement).1 :=
  meddled_command cfg t m s .increment .counterIncrement (fun x => redisIncrement x.redis) (fun _ => rfl)
    fun _ _ => rfl

theorem meddled_createEntry (cfg : G → GameConfiguration) (t : G × T) (m : Meanwhile) (s : Fleet G T) (key : String)
    (playerId : PlayerId) :
    ∃ s', (Fleet.meddled cfg).exec t (.directory (.createEntry key playerId)) m s =
        some (s', redisSetIfAbsent (m.serve s.world (.entrySetIfAbsent key playerId.toNat.repr)).2.redis) ∧
      s'.world = (m.serve s.world (.entrySetIfAbsent key playerId.toNat.repr)).1 :=
  meddled_command cfg t m s (.createEntry key playerId) (.entrySetIfAbsent key playerId.toNat.repr)
    (fun x => redisSetIfAbsent x.redis) (fun _ => rfl) fun _ _ => rfl

/-- Nor does a way out of the mutex. -/
theorem meddled_total (cfg : G → GameConfiguration) (t : G × T) (m : Meanwhile) (s : Fleet G T)
    (a : DirectoryAct) (hd : ∀ (d : PlayerDirectoryService T) x, ∃ y, d.exec t.2 x a = some y) :
    ∃ s' r, (Fleet.meddled cfg).exec t (.directory a) m s = some (s', r) := by
  simp only [Fleet.meddled, Fleet.exec, GameProcess.exec]
  obtain ⟨y, hy⟩ := hd (s.games t.1).directory
    (m.input.env (({ s with world := m.others s.world } : Fleet G T).served cfg t.1 (.directory a) m.input).2)
  rw [hy]
  exact ⟨_, _, rfl⟩

omit [DecidableEq G] in
theorem Meanwhile.Quiet.serve (h : m.Quiet) (c : Command) :
    m.serve w c = ((m.others w).expire m.input.expired).execute m.input.serverMs c := by
  simp only [Meanwhile.serve, h.answered, World.serve]

/-- Only the creation of an entry changes one. -/
theorem serve_entries {c : Command} (hc : ∀ key' text, c ≠ .entrySetIfAbsent key' text) :
    (m.serve w c).1.entries key = (m.others w).entries key := by
  unfold Meanwhile.serve
  cases m.input.fault with
  | none => cases c <;> first | rfl | exact absurd rfl (hc _ _)
  | replyLost => cases c <;> first | rfl | exact absurd rfl (hc _ _)
  | dropped => rfl
  | unavailable => rfl

/-- `SET NX` says that the entry is there. -/
theorem exists_serve
    (h : (redisSetIfAbsent (m.serve w (.entrySetIfAbsent key text)).2.redis).message = "exists") :
    (m.serve w (.entrySetIfAbsent key text)).1.entries key = (m.others w).entries key ∧
      (m.others w).entries key ≠ none := by
  unfold Meanwhile.serve at h ⊢
  cases hf : m.input.fault with
  | none =>
      rw [hf] at h
      cases hv : (m.others w).entries key with
      | none =>
          simp [World.serve, World.execute, World.expire, World.setIfAbsent, hv, statusOk, redisSetIfAbsent] at h
      | some value => simp [World.serve, World.execute, World.expire, World.setIfAbsent, hv]
  | dropped => rw [hf] at h; simp [World.serve, lostAnswer, redisSetIfAbsent, contextError, Result.failure] at h
  | replyLost => rw [hf] at h; simp [World.serve, lostAnswer, redisSetIfAbsent, contextError, Result.failure] at h
  | unavailable =>
      rw [hf] at h
      simp [World.serve, Command.unavailableAnswer, redisSetIfAbsent, Result.failure] at h

/-- A `GET` brings no text: it has failed, or there is none. -/
theorem unread_serve (h : (redisGet (m.serve w (.entryGet key)).2.redis).2 = none) :
    m.input.fault ≠ .none ∨ ∀ text, (m.others w).entries key ≠ some (.text text) := by
  by_cases hf : m.input.fault = .none
  · right
    rintro text hv
    simp [Meanwhile.serve, hf, World.serve, World.execute, World.expire, hv, World.get, redisGet] at h
  · exact .inl hf

end

/-! ## The counter -/

/-- The number that `INCRBY` sees, if it is no smaller than the floor; the floor otherwise. -/
def counterLevel : Option RedisValue → Int
  | some (.text text) => max counterFloor ((string2ll text).getD counterFloor)
  | _ => counterFloor

/-- How often the counter can still be raised. -/
def counterRoom (counter : Option RedisValue) : Nat := (2 ^ 63 - counterLevel counter).toNat

/-- The counter is there, and what `INCRBY` sees in it is not below the floor. -/
def CounterReady (counter : Option RedisValue) : Prop :=
  counter ≠ none ∧ ∀ text v, counter = some (.text text) → string2ll text = some v → counterFloor ≤ v

theorem counterReady_floor : CounterReady (some (.text counterFloorText)) := by
  refine ⟨nofun, ?_⟩
  rintro text v ⟨⟩ hv
  have hfloor : string2ll counterFloorText = some counterFloor := by decide
  rw [hfloor] at hv
  exact (Option.some.inj hv).le

/-- A counter that needs a reset is at the floor for this purpose. -/
theorem counterLevel_of_needsReset {text : String} (h : needsReset text = true) :
    counterLevel (some (.text text)) = counterFloor := by
  show max counterFloor ((string2ll text).getD counterFloor) = counterFloor
  cases hv : string2ll text with
  | none => exact max_self _
  | some v =>
      obtain ⟨hread, -, -⟩ := stoll_of_string2ll hv
      simp only [needsReset, hread, decide_eq_true_eq] at h
      exact max_eq_left h.le

theorem counterReady_of_not_needsReset {text : String} (h : needsReset text = false) :
    CounterReady (some (.text text)) := by
  refine ⟨nofun, ?_⟩
  rintro text' v ⟨⟩ hv
  obtain ⟨hread, -, -⟩ := stoll_of_string2ll hv
  simp only [needsReset, hread, decide_eq_false_iff_not, not_lt] at h
  exact h

/-- An `INCRBY` that succeeds takes from the room that is left. -/
theorem counterRoom_increment {counter : Option RedisValue} (hready : CounterReady counter)
    (hok : (redisIncrement (World.increment counter).2.redis).1.ok = true) :
    counterRoom (World.increment counter).1 < counterRoom counter := by
  match counter, hready with
  | none, hready => exact absurd rfl hready.1
  | some .other, _ => simp [World.increment, redisIncrement] at hok
  | some (.text text), hready =>
      cases hv : string2ll text with
      | none => simp [World.increment, hv, redisIncrement] at hok
      | some v =>
          have hfloor : counterFloor ≤ v := hready.2 text v rfl hv
          by_cases hmax : v + 1 < 2 ^ 63
          · obtain ⟨n, hn⟩ : ∃ n : Nat, v + 1 = n := ⟨(v + 1).toNat, by unfold counterFloor at hfloor; omega⟩
            have hnext : string2ll (v + 1).repr = some (v + 1) := by
              rw [hn]
              exact string2ll_repr (by omega)
            simp only [World.increment, hv, if_pos hmax, counterRoom, counterLevel, hnext, Option.getD_some]
            omega
          · simp only [World.increment, hv, if_neg hmax, redisIncrement] at hok
            cases hok

/-! ## A turn of the loop -/

section

variable [DecidableEq G] {cfg : G → GameConfiguration} {t : G × T} {key : String} {turns : Nat → Meanwhile}
  {s : Fleet G T} {n n' : Nat}

/-- Every command from the `n`-th to the one before the `n'`-th is answered, and the others leave the counter alone
around them. -/
def QuietFor (turns : Nat → Meanwhile) (n n' : Nat) : Prop := ∀ k, n ≤ k → k < n' → (turns k).Quiet

/-- What the counter part of a turn does: it does not touch the entry, and a counter that is left alone is ready. -/
structure Prepared (key : String) (turns : Nat → Meanwhile) (n : Nat) (s : Fleet G T) (n' : Nat) (s' : Fleet G T) :
    Prop where
  later : n < n'
  entry : s'.world.entries key = s.world.entries key
  ready : QuietFor turns n n' → CounterReady s'.world.counter
  level : QuietFor turns n n' → counterRoom s'.world.counter = counterRoom s.world.counter

theorem prepareCounter_fed (hentry : ∀ n w, ((turns n).others w).entries key = w.entries key) :
    prepareCounter.Fed (Fleet.meddled cfg) t turns (fun _ n' s' => Prepared key turns n s n' s') n s := by
  obtain ⟨s₁, hget, hw₁⟩ := meddled_getCounter cfg t (turns n) s
  have hentry₁ : s₁.world.entries key = s.world.entries key := by
    rw [hw₁, serve_entries (by simp), hentry]
  refine Prog.Fed.seq hget ?_
  have hanswer : (turns n).Quiet → ((turns n).serve s.world .counterGet).2 = World.get s.world.counter ∧
      s₁.world.counter = s.world.counter := by
    intro hquiet
    rw [hw₁, hquiet.serve]
    exact ⟨congrArg World.get (hquiet.counter _), hquiet.counter _⟩
  cases hreply : (redisGet ((turns n).serve s.world .counterGet).2.redis).2 with
  | none =>
      obtain ⟨s₂, hinit, hw₂⟩ := meddled_command cfg t (turns (n + 1)) s₁ .initCounter
        (.counterSetIfAbsent counterFloorText) (fun x => redisSetIfAbsent x.redis) (fun _ => rfl) fun _ _ => rfl
      refine ⟨s₂, _, hinit, ?_⟩
      have hentry₂ : s₂.world.entries key = s.world.entries key := by
        rw [hw₂, serve_entries (by simp), hentry, hentry₁]
      -- the counter is absent and is made, or it is no string and stays
      have hcounter : QuietFor turns n (n + 1 + 1) →
          s.world.counter = none ∧ s₂.world.counter = some (.text counterFloorText) ∨
            s.world.counter = some .other ∧ s₂.world.counter = some .other := by
        intro hquiet
        obtain ⟨hget, hsame⟩ := hanswer (hquiet n le_rfl (by omega))
        have hquiet₂ := hquiet (n + 1) (by omega) (by omega)
        have hset : s₂.world.counter = (World.setIfAbsent s.world.counter counterFloorText).1 := by
          rw [hw₂, hquiet₂.serve, ← hsame, ← hquiet₂.counter s₁.world]
          rfl
        rw [hget] at hreply
        rw [hset]
        match s.world.counter, hreply with
        | none, _ => exact .inl ⟨rfl, rfl⟩
        | some .other, _ => exact .inr ⟨rfl, rfl⟩
      refine ⟨by omega, hentry₂, fun hquiet => ?_, fun hquiet => ?_⟩
      · rcases hcounter hquiet with ⟨-, hmade⟩ | ⟨-, hother⟩
        · rw [hmade]
          exact counterReady_floor
        · rw [hother]
          exact ⟨nofun, nofun⟩
      · rcases hcounter hquiet with ⟨habsent, hmade⟩ | ⟨hthere, hother⟩
        · rw [habsent, hmade]
          rfl
        · rw [hthere, hother]
  | some text =>
      have htext : (turns n).Quiet → s.world.counter = some (.text text) := by
        intro hquiet
        rw [(hanswer hquiet).1] at hreply
        match s.world.counter, hreply with
        | some (.text _), rfl => rfl
      cases hreset : needsReset text with
      | true =>
          obtain ⟨s₂, hset, hw₂⟩ := meddled_command cfg t (turns (n + 1)) s₁ .resetCounter
            (.counterSet counterFloorText) (fun x => redisSet x.redis) (fun _ => rfl) fun _ _ => rfl
          simp only [hreset, if_true]
          refine ⟨s₂, _, hset, ?_⟩
          have hentry₂ : s₂.world.entries key = s.world.entries key := by
            rw [hw₂, serve_entries (by simp), hentry, hentry₁]
          have hcounter : QuietFor turns n (n + 1 + 1) → s₂.world.counter = some (.text counterFloorText) := by
            intro hquiet
            rw [hw₂, (hquiet (n + 1) (by omega) (by omega)).serve]
            rfl
          refine ⟨by omega, hentry₂, fun hquiet => ?_, fun hquiet => ?_⟩
          · rw [hcounter hquiet]
            exact counterReady_floor
          · rw [hcounter hquiet, htext (hquiet n le_rfl (by omega)), counterRoom, counterRoom,
              counterLevel_of_needsReset hreset]
            rfl
      | false =>
          simp only [hreset, Bool.false_eq_true, if_false]
          refine ⟨by omega, hentry₁, fun hquiet => ?_, fun hquiet => ?_⟩
          · rw [(hanswer (hquiet n le_rfl (by omega))).2, htext (hquiet n le_rfl (by omega))]
            exact counterReady_of_not_needsReset hreset
          · rw [(hanswer (hquiet n le_rfl (by omega))).2]

theorem answerFallback_fed : (answerFallback key).Fed (Fleet.meddled cfg) t turns
    (fun outcome _ _ => outcome ≠ .spinning) n s := by
  obtain ⟨s', r, hexec⟩ := meddled_total cfg t (turns n) s (.fallback key) fun _ _ => ⟨_, rfl⟩
  exact ⟨s', r, hexec, nofun⟩

theorem answerEntry_fed {text : String} : (answerEntry key text).Fed (Fleet.meddled cfg) t turns
    (fun outcome _ _ => outcome ≠ .spinning) n s := by
  unfold answerEntry answerEntry.stoull
  cases stoull text with
  | none =>
      obtain ⟨s', r, hexec⟩ := meddled_total cfg t (turns n) s .leave fun _ _ => ⟨_, rfl⟩
      exact ⟨s', r, hexec, nofun⟩
  | some playerId =>
      obtain ⟨s', r, hexec⟩ := meddled_total cfg t (turns n) s (.remember key ⟨playerId, false⟩)
        fun _ _ => ⟨_, rfl⟩
      exact ⟨s', r, hexec, nofun⟩

/-- A turn of the loop that asks for another one: the entry is there and stays, what it holds is no string or a
command has failed, and a counter that is left alone is nearer to its end. -/
structure Again (key : String) (turns : Nat → Meanwhile) (n : Nat) (s : Fleet G T) (n' : Nat) (s' : Fleet G T) :
    Prop where
  later : n < n'
  entry : s'.world.entries key = s.world.entries key
  hindered : s.world.entries key = some .other ∨ ∃ k, n ≤ k ∧ k < n' ∧ (turns k).input.fault ≠ .none
  nearer : QuietFor turns n n' → counterRoom s'.world.counter < counterRoom s.world.counter

/-- A turn of the loop either brings the answer or is such a turn. -/
theorem resolveTurn_fed (hentry : ∀ n w, ((turns n).others w).entries key = w.entries key) :
    (resolveTurn key).Fed (Fleet.meddled cfg) t turns (fun o n' s' =>
      (∀ outcome, o = some outcome → outcome ≠ .spinning) ∧ (o = none → Again key turns n s n' s')) n s := by
  refine Prog.Fed.bind (prepareCounter_fed hentry |>.mono fun _ n₁ s₁ hprepared => ?_)
  obtain ⟨s₂, hincrement, hw₂⟩ := meddled_increment cfg t (turns n₁) s₁
  have hentry₂ : s₂.world.entries key = s.world.entries key := by
    rw [hw₂, serve_entries (by simp), hentry, hprepared.entry]
  refine Prog.Fed.seq hincrement ?_
  split
  · exact Prog.Fed.bind (answerFallback_fed.mono fun outcome _ _ houtcome => ⟨by simpa using houtcome, nofun⟩)
  rename_i hok
  simp only [Bool.not_eq_true', Bool.not_eq_false] at hok
  obtain ⟨s₃, hcreate, hw₃⟩ := meddled_createEntry cfg t (turns (n₁ + 1)) s₂ key
    (castPlayerId (redisIncrement ((turns n₁).serve s₁.world .counterIncrement).2.redis).2)
  refine Prog.Fed.seq hcreate ?_
  split
  · obtain ⟨s₄, r, hremember⟩ := meddled_total cfg t (turns (n₁ + 1 + 1)) s₃ (.remember key _) fun _ _ => ⟨_, rfl⟩
    exact ⟨s₄, r, hremember, by simp, nofun⟩
  split
  · exact Prog.Fed.bind (answerFallback_fed.mono fun outcome _ _ houtcome => ⟨by simpa using houtcome, nofun⟩)
  rename_i hexists
  obtain ⟨hkept, hthere⟩ := exists_serve (not_not.1 hexists)
  rw [← hw₃, hentry] at hkept
  rw [hentry] at hthere
  obtain ⟨s₄, hget, hw₄⟩ := meddled_getEntry cfg t (turns (n₁ + 1 + 1)) s₃ key
  refine Prog.Fed.seq hget ?_
  split
  · exact Prog.Fed.bind (answerEntry_fed.mono fun outcome _ _ houtcome => ⟨by simpa using houtcome, nofun⟩)
  rename_i hunread
  refine ⟨nofun, fun _ => ⟨by have := hprepared.later; omega, ?_, ?_, fun hquiet => ?_⟩⟩
  · rw [hw₄, serve_entries (by simp), hentry, hkept, hentry₂]
  · rcases unread_serve hunread with hfault | hnone
    · exact .inr ⟨n₁ + 1 + 1, by have := hprepared.later; omega, by omega, hfault⟩
    · left
      rw [hentry, hkept, hentry₂] at hnone
      rw [hentry₂] at hthere
      match s.world.entries key, hthere, hnone with
      | some .other, _, _ => rfl
      | some (.text text), _, hnone => exact absurd rfl (hnone text)
  · have hlater := hprepared.later
    have hfirst : QuietFor turns n n₁ := fun k hk hk' => hquiet k hk (by omega)
    have hraise := hquiet n₁ hlater.le (by omega)
    have hanswer : ((turns n₁).serve s₁.world .counterIncrement).2 = (World.increment s₁.world.counter).2 ∧
        s₂.world.counter = (World.increment s₁.world.counter).1 := by
      rw [hw₂, hraise.serve, ← hraise.counter s₁.world]
      exact ⟨rfl, rfl⟩
    have hsame : s₄.world.counter = s₂.world.counter := by
      have hget := hquiet (n₁ + 1 + 1) (by omega) (by omega)
      have hset := hquiet (n₁ + 1) (by omega) (by omega)
      calc s₄.world.counter = s₃.world.counter := by
            rw [hw₄, hget.serve, ← hget.counter s₃.world]
            rfl
        _ = s₂.world.counter := by
            rw [hw₃, hset.serve, ← hset.counter s₂.world]
            rfl
    rw [hanswer.1] at hok
    rw [hsame, hanswer.2, ← hprepared.level hfirst]
    exact counterRoom_increment (hprepared.ready hfirst) hok

/-! ## The call -/

/-- The call comes to its loop, with the entry as it was, or it has returned before. -/
theorem resolveOrCreate_leaves (hentry : ∀ n w, ((turns n).others w).entries key = w.entries key)
    (hfree : (s.games t.1).directory.mutex = none)
    (hloop : ∀ n s', s'.world.entries key = s.world.entries key → ∃ fuel,
      (Prog.loop (resolveTurn key) .spinning fuel).Fed (Fleet.meddled cfg) t turns
        (fun outcome _ _ => outcome ≠ .spinning) n s') : ResolveLeaves cfg t key turns s := by
  obtain ⟨s₁, henter, hentry₁⟩ : ∃ s₁, (Fleet.meddled cfg).exec t (.directory (.enter key)) (turns 0) s =
      some (s₁, (s.games t.1).directory.entries key) ∧ s₁.world.entries key = s.world.entries key := by
    simp only [Fleet.meddled, Fleet.exec, GameProcess.exec, PlayerDirectoryService.exec, hfree]
    exact ⟨_, rfl, hentry 0 s.world⟩
  cases hcached : (s.games t.1).directory.entries key with
  | some playerId =>
      rw [hcached] at henter
      obtain ⟨s₂, r, hleave⟩ := meddled_total cfg t (turns 1) s₁ .leave fun _ _ => ⟨_, rfl⟩
      refine ⟨0, s₁, _, henter, s₂, r, hleave, ?_⟩
      intro hspinning
      cases hspinning
  | none =>
      rw [hcached] at henter
      obtain ⟨s₂, hget, hw₂⟩ := meddled_getEntry cfg t (turns 1) s₁ key
      have hentry₂ : s₂.world.entries key = s.world.entries key := by
        rw [hw₂, serve_entries (by simp), hentry, hentry₁]
      cases hreply : (redisGet ((turns 1).serve s₁.world (.entryGet key)).2.redis).2 with
      | some text =>
          refine ⟨0, s₁, _, henter, Prog.Fed.seq hget ?_⟩
          simp only [hreply]
          exact answerEntry_fed
      | none =>
          obtain ⟨fuel, hfed⟩ := hloop 2 s₂ hentry₂
          refine ⟨fuel, s₁, _, henter, Prog.Fed.seq hget ?_⟩
          simp only [hreply, resolveLoop_eq]
          exact hfed

/-- An absent entry or a string: every turn but the last uses up a failure. -/
theorem resolveOrCreate_leaves_string (hcalm : Calm key turns) (hfree : (s.games t.1).directory.mutex = none)
    (hstring : s.world.entries key ≠ some .other) : ResolveLeaves cfg t key turns s := by
  obtain ⟨N, hfaults⟩ := hcalm.faults
  refine resolveOrCreate_leaves hcalm.entry hfree fun n s' hs' => ?_
  refine Prog.Fed.leaves (I := fun _ s' => s'.world.entries key = s.world.entries key) (f := fun n _ => N - n)
    (fun n s₁ hs₁ => (resolveTurn_fed hcalm.entry).mono fun o n' s₂ hturn => ⟨hturn.1, fun hagain => ?_⟩) hs'
  have hnext := hturn.2 hagain
  refine ⟨hnext.entry.trans hs₁, ?_⟩
  rcases hnext.hindered with hother | ⟨k, hk, hk', hfault⟩
  · exact absurd (hs₁.symm.trans hother) hstring
  · have hearly : k < N := by
      by_contra hlate
      exact hfault (hfaults k (by omega))
    have hlater := hnext.later
    omega

/-- A value of another type, with a counter that is left alone in the end: it is raised until it overflows. -/
theorem resolveOrCreate_overflows (hcalm : Calm key turns) (hfree : (s.games t.1).directory.mutex = none)
    (hcounter : ∃ N, ∀ n, N ≤ n → ∀ w, ((turns n).others w).counter = w.counter) :
    ResolveLeaves cfg t key turns s := by
  obtain ⟨N₁, hfaults⟩ := hcalm.faults
  obtain ⟨N₂, hothers⟩ := hcounter
  refine resolveOrCreate_leaves hcalm.entry hfree fun n s' _ => ?_
  -- until the last disturbance every turn is nearer to it, and after it the counter is nearer to its end
  refine Prog.Fed.leaves (I := fun _ _ => True)
    (f := fun n s => toLex (N₁ + N₂ - n, counterRoom s.world.counter))
    (fun n s₁ _ => (resolveTurn_fed hcalm.entry).mono fun o n' s₂ hturn => ⟨hturn.1, fun hagain => ⟨trivial, ?_⟩⟩)
    trivial
  have hnext := hturn.2 hagain
  have hlater := hnext.later
  rw [Prod.Lex.toLex_lt_toLex]
  by_cases hn : n < N₁ + N₂
  · left
    omega
  · refine .inr ⟨by omega, hnext.nearer fun k hk _ => ?_⟩
    exact ⟨hfaults k (by omega), hothers k (by omega)⟩

end

/-- Another process writes the floor into the counter, as `ResolveOrCreate` itself does. -/
def resetting : Meanwhile where
  others w := { w with counter := some (.text counterFloorText) }

theorem calm_resetting (key : String) : Calm key fun _ => resetting := ⟨fun _ _ => rfl, 0, fun _ _ => rfl⟩

theorem resetting_counterGet (w : World) :
    (redisGet (resetting.serve w .counterGet).2.redis).2 = some counterFloorText := rfl

theorem resetting_increment (w : World) :
    (redisIncrement (resetting.serve w .counterIncrement).2.redis).1.ok = true := by
  have hraised : (World.increment (some (.text counterFloorText))).2 = { redis := .integer 100000 } := by decide
  show (redisIncrement (World.increment (some (.text counterFloorText))).2.redis).1.ok = true
  rw [hraised]
  rfl

section

variable [DecidableEq G] {cfg : G → GameConfiguration} {t : G × T} {key : String} {s : Fleet G T} {n : Nat}

theorem resolveTurn_spins (hother : s.world.entries key = some .other) :
    (resolveTurn key).Fed (Fleet.meddled cfg) t (fun _ => resetting)
      (fun o _ s' => o = none ∧ s'.world.entries key = some .other) n s := by
  obtain ⟨s₁, hget, hw₁⟩ := meddled_getCounter cfg t resetting s
  have hentry₁ : s₁.world.entries key = some .other := by
    rw [hw₁, serve_entries (by simp)]
    exact hother
  refine Prog.Fed.bind (Prog.Fed.seq hget ?_)
  have hkeep : needsReset counterFloorText = false := by decide
  simp only [resetting_counterGet, hkeep, Bool.false_eq_true, if_false, Prog.pure_eq, Prog.fed_ret]
  obtain ⟨s₂, hincrement, hw₂⟩ := meddled_increment cfg t resetting s₁
  have hentry₂ : s₂.world.entries key = some .other := by
    rw [hw₂, serve_entries (by simp)]
    exact hentry₁
  refine Prog.Fed.seq hincrement ?_
  simp only [resetting_increment, Bool.not_true, Bool.false_eq_true, if_false]
  obtain ⟨s₃, hcreate, hw₃⟩ := meddled_createEntry cfg t resetting s₂ key
    (castPlayerId (redisIncrement (resetting.serve s₁.world .counterIncrement).2.redis).2)
  have hcreated : ∀ text, resetting.serve s₂.world (.entrySetIfAbsent key text) =
      ({ resetting.others s₂.world with
          entries := Function.update s₂.world.entries key (some .other) }, { redis := .nil }) := by
    intro text
    simp [Meanwhile.serve, resetting, World.serve, World.execute, World.expire, hentry₂, World.setIfAbsent]
  have hentry₃ : s₃.world.entries key = some .other := by
    rw [hw₃, hcreated]
    exact Function.update_self ..
  refine Prog.Fed.seq hcreate ?_
  simp only [hcreated, redisSetIfAbsent, Bool.false_eq_true, if_false, ne_eq, not_true_eq_false]
  obtain ⟨s₄, hretry, hw₄⟩ := meddled_getEntry cfg t resetting s₃ key
  have hunread : (redisGet (resetting.serve s₃.world (.entryGet key)).2.redis).2 = none := by
    show (redisGet (World.get (s₃.world.entries key)).redis).2 = none
    rw [hentry₃]
    rfl
  refine Prog.Fed.seq hretry ?_
  simp only [hunread, Prog.fed_ret, true_and]
  rw [hw₄, serve_entries (by simp)]
  exact hentry₃

/-- With a value of another type, and a counter that is put back all the time, the call never leaves its loop. -/
theorem spins_other (hfree : (s.games t.1).directory.mutex = none)
    (huncached : (s.games t.1).directory.entries key = none) (hother : s.world.entries key = some .other) :
    ¬ResolveLeaves cfg t key (fun _ => resetting) s := by
  rintro ⟨fuel, hleaves⟩
  have hspins : (resolveOrCreate fuel key).Fed (Fleet.meddled cfg) t (fun _ => resetting)
      (fun outcome _ _ => outcome = .spinning) 0 s := by
    obtain ⟨s₁, henter, hentry₁⟩ : ∃ s₁, (Fleet.meddled cfg).exec t (.directory (.enter key)) resetting s =
        some (s₁, none) ∧ s₁.world.entries key = some .other := by
      simp only [Fleet.meddled, Fleet.exec, GameProcess.exec, PlayerDirectoryService.exec, hfree, huncached]
      exact ⟨_, rfl, hother⟩
    obtain ⟨s₂, hget, hw₂⟩ := meddled_getEntry cfg t resetting s₁ key
    have hentry₂ : s₂.world.entries key = some .other := by
      rw [hw₂, serve_entries (by simp)]
      exact hentry₁
    have hunread : (redisGet (resetting.serve s₁.world (.entryGet key)).2.redis).2 = none := by
      show (redisGet (World.get (s₁.world.entries key)).redis).2 = none
      rw [hentry₁]
      rfl
    refine ⟨s₁, _, henter, Prog.Fed.seq hget ?_⟩
    simp only [hunread, resolveLoop_eq]
    exact Prog.Fed.spins (I := fun _ s' => s'.world.entries key = some .other)
      (fun _ _ hs' => resolveTurn_spins hs') hentry₂ fuel
  obtain ⟨outcome, -, -, hspinning, hleft⟩ := hspins.unique hleaves
  exact hleft hspinning

end

def loneGame (_ : Unit) : GameConfiguration := { instanceId := 1 }

/-- An entry of another type, in a fleet in which nothing else has happened. -/
def otherFleet (G T : Type) : Fleet G T where
  world := { entries := fun _ => some .other }

/-- With finitely many failures, and an entry that nobody else changes: whatever other processes do to the counter,
`ResolveOrCreate` leaves its loop when the entry is absent or a string, and only then; and with any entry it does
when they leave the counter alone from some command on. -/
theorem resolveOrCreate_terminates [DecidableEq G] (cfg : G → GameConfiguration) (t : G × T) (key : String) :
    (∀ e : Option RedisValue, (∀ (turns : Nat → Meanwhile) (s : Fleet G T), Calm key turns →
        (s.games t.1).directory.mutex = none → s.world.entries key = e → ResolveLeaves cfg t key turns s) ↔
      e ≠ some .other) ∧
    ∀ (turns : Nat → Meanwhile) (s : Fleet G T), Calm key turns → (s.games t.1).directory.mutex = none →
      (∃ N, ∀ n, N ≤ n → ∀ w, ((turns n).others w).counter = w.counter) → ResolveLeaves cfg t key turns s := by
  refine ⟨fun e => ?_, fun turns s hcalm hfree hcounter => resolveOrCreate_overflows hcalm hfree hcounter⟩
  constructor
  · rintro hleaves rfl
    exact spins_other (s := otherFleet G T) rfl rfl rfl
      (hleaves (fun _ => resetting) (otherFleet G T) (calm_resetting key) rfl rfl)
  · intro hstring turns s hcalm hfree hentry
    exact resolveOrCreate_leaves_string hcalm hfree (hentry ▸ hstring)

/-- The account `steam:alice:1` over a list, say, under its entry: `SET NX` finds the entry, no `GET` can read it, and
the counter never comes to its end. -/
theorem resolveOrCreate_spins : ¬∀ (turns : Nat → Meanwhile) (s : Fleet Unit Unit),
    Calm (makeKey "steam" "alice" 1) turns → (s.games ()).directory.mutex = none →
      ResolveLeaves loneGame ((), ()) (makeKey "steam" "alice" 1) turns s := by
  intro hleaves
  exact spins_other (s := otherFleet Unit Unit) rfl rfl rfl
    (hleaves (fun _ => resetting) (otherFleet Unit Unit) (calm_resetting _) rfl)

end SomeServer
