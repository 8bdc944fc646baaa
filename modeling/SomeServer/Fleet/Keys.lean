/-
# SomeServer.Fleet.Keys — which accounts share an id

`MakeKey` puts a colon between platform, account id and area, and takes platform and account id as they
come, so a text that contains a colon can be cut in two ways (`Account.key_eq_iff`). Two accounts with one
key are one account to the directory. When no command fails and the directory starts empty, that is the
only way in which two accounts come to share an id: no call takes an id from its local counter, and the
shared counter never needs a reset (`Fleet.run_unfailing`), so keys and ids go together.
-/
import SomeServer.Fleet.Accounts

namespace SomeServer

open Lib Lib.Decimal

/-! ## Keys -/

/-- A separator cuts a text in one way, or in two of which one is further on. -/
theorem append_cons_eq_iff {c : Char} {us vs xs ys : List Char} :
    us ++ c :: xs = vs ++ c :: ys ↔ (us = vs ∧ xs = ys) ∨
      (∃ ws, vs = us ++ c :: ws ∧ xs = ws ++ c :: ys) ∨ ∃ ws, us = vs ++ c :: ws ∧ ys = ws ++ c :: xs := by
  constructor
  · intro h
    rcases List.append_eq_append_iff.mp h with ⟨ws, rfl, hw⟩ | ⟨ws, rfl, hw⟩
    · cases ws with
      | nil => exact .inl ⟨by simp, by simpa using hw⟩
      | cons w ws =>
          obtain ⟨rfl, rfl⟩ := List.cons.inj hw
          exact .inr (.inl ⟨ws, rfl, rfl⟩)
    · cases ws with
      | nil => exact .inl ⟨by simp, by simpa using hw.symm⟩
      | cons w ws =>
          obtain ⟨rfl, rfl⟩ := List.cons.inj hw
          exact .inr (.inr ⟨ws, rfl, rfl⟩)
  · rintro (⟨rfl, rfl⟩ | ⟨ws, rfl, rfl⟩ | ⟨ws, rfl, rfl⟩) <;> simp

/-- The last occurrence of a separator cuts a text in one way only. -/
theorem append_cons_inj_right {c : Char} {us vs xs ys : List Char} (hx : c ∉ xs) (hy : c ∉ ys)
    (h : us ++ c :: xs = vs ++ c :: ys) : us = vs ∧ xs = ys := by
  rcases append_cons_eq_iff.mp h with hsame | ⟨ws, -, rfl⟩ | ⟨ws, -, rfl⟩
  · exact hsame
  · simp at hx
  · simp at hy

/-- What a request names an account by. -/
structure Account where
  platform : String
  accountId : String
  areaId : UInt32
deriving DecidableEq, Repr

namespace Account

variable {a b : Account}

def key (a : Account) : String := makeKey a.platform a.accountId a.areaId

/-- The front of account id `a`, up to one of its colons, is the end of platform `b`. -/
def RunsInto (a b : Account) : Prop :=
  ∃ piece, b.platform = a.platform ++ ":" ++ piece ∧ a.accountId = piece ++ ":" ++ b.accountId

/-- Two accounts of one area that differ in where platform and account id are cut. -/
def Shifted (a b : Account) : Prop := a.areaId = b.areaId ∧ (a.RunsInto b ∨ b.RunsInto a)

theorem key_toList (a : Account) : a.key.toList =
    (a.platform.toList ++ ':' :: a.accountId.toList) ++ ':' :: a.areaId.toNat.repr.toList := by
  simp [key, makeKey]

theorem runsInto_iff : a.RunsInto b ↔ ∃ ws, b.platform.toList = a.platform.toList ++ ':' :: ws ∧
    a.accountId.toList = ws ++ ':' :: b.accountId.toList := by
  constructor
  · rintro ⟨piece, hplatform, haccount⟩
    refine ⟨piece.toList, ?_, ?_⟩
    · rw [hplatform]
      simp
    · rw [haccount]
      simp
  · rintro ⟨ws, hplatform, haccount⟩
    refine ⟨String.ofList ws, ?_, ?_⟩
    · apply String.toList_injective
      rw [hplatform]
      simp
    · apply String.toList_injective
      rw [haccount]
      simp

/-- Accounts have one key when they are the same, or shifted. -/
theorem key_eq_iff : a.key = b.key ↔ a = b ∨ a.Shifted b := by
  constructor
  · intro h
    have hlist := congrArg String.toList h
    rw [key_toList, key_toList] at hlist
    obtain ⟨hfront, hrepr⟩ := append_cons_inj_right (notMem_repr (by decide)) (notMem_repr (by decide)) hlist
    have harea : a.areaId = b.areaId :=
      UInt32.toNat_inj.mp (repr_injective (String.toList_injective hrepr))
    rcases append_cons_eq_iff.mp hfront with ⟨hplatform, haccount⟩ | hruns | hruns
    · left
      cases a
      cases b
      simp only [mk.injEq]
      exact ⟨String.toList_injective hplatform, String.toList_injective haccount, harea⟩
    · exact .inr ⟨harea, .inl (runsInto_iff.mpr hruns)⟩
    · exact .inr ⟨harea, .inr (runsInto_iff.mpr hruns)⟩
  · rintro (rfl | ⟨harea, hruns⟩)
    · rfl
    · apply String.toList_injective
      rw [key_toList, key_toList, harea]
      congr 1
      rw [runsInto_iff, runsInto_iff] at hruns
      exact append_cons_eq_iff.mpr (.inr hruns)

theorem RunsInto.ne (h : a.RunsInto b) : a ≠ b := by
  rintro rfl
  obtain ⟨ws, hplatform, -⟩ := runsInto_iff.mp h
  have hlength := congrArg List.length hplatform
  simp at hlength

theorem Shifted.ne (h : a.Shifted b) : a ≠ b := by
  rcases h.2 with hruns | hruns
  · exact hruns.ne
  · exact hruns.ne.symm

/-- The key separates two accounts exactly when they are not shifted. -/
theorem separates_iff : (a.key = b.key → a = b) ↔ ¬ a.Shifted b := by
  constructor
  · intro hkey hshifted
    exact hshifted.ne (hkey (key_eq_iff.mpr (.inr hshifted)))
  · intro hnot hkey
    exact (key_eq_iff.mp hkey).resolve_right hnot

end Account

/-- The account that a `ResolveOrCreate` or a `Lookup` asks for. -/
def Op.account : Op → Option Account
  | .resolve platform accountId areaId => some ⟨platform, accountId, areaId⟩
  | .lookup platform accountId areaId => some ⟨platform, accountId, areaId⟩
  | _ => none

/-- The id that it is answered. -/
def OpResult.playerId : OpResult → Option PlayerId
  | .resolved (.resolved found) => some found.playerId
  | .looked (some (.resolved found)) => some found.playerId
  | _ => none

/-- A reply by which a command has failed: the three kinds that no working Redis gives to a command that
fits its key. -/
def RedisReply.failed : RedisReply String → Bool
  | .unavailable => true
  | .noReply _ => true
  | .error _ => true
  | .nil => false
  | .integer _ => false
  | .status _ => false
  | .string _ => false

namespace Fleet

variable {G T : Type} [DecidableEq G] [DecidableEq T] {cfg : G → GameConfiguration} {t : G × T} {a : Act}
  {i : FleetInput} {s s' : Fleet G T × DirectoryLog (G × T)} {r : a.Reply}

/-- The moves of a run in which no command of the directory fails. -/
def unfailing (cfg : G → GameConfiguration)
    (c : Pool (G × T) Op Act Act.Reply OpResult (Fleet G T × DirectoryLog (G × T))) :
    Move (G × T) Op FleetInput → Bool
  | .start _ _ => true
  | .act t i =>
      match c.pending t with
      | some (.directory d) => !(c.shared.1.served cfg t.1 (.directory d) i).2.redis.failed
      | _ => true

/-! ## The counter -/

omit [DecidableEq G] [DecidableEq T] in
/-- A command with a reply that is no failure was executed, and the reply has arrived. -/
theorem serve_unfailed {fault : Fault} {now : Nat} {w : World} {command : Command}
    (h : (w.serve fault now command).2.redis.failed = false) : fault = .none := by
  cases fault with
  | none => rfl
  | dropped | replyLost => cases h
  | unavailable => cases command <;> cases h

omit [DecidableEq G] [DecidableEq T] in
theorem served_unfailed {command : Command} (hcommand : s.1.command cfg t.1 a i = some command)
    (hok : (s.1.served cfg t.1 a i).2.redis.failed = false) :
    s.1.served cfg t.1 a i = (s.1.world.expire i.expired).execute i.serverMs command := by
  unfold served at hok ⊢
  rw [hcommand] at hok ⊢
  show (s.1.world.expire i.expired).serve i.fault i.serverMs command = _
  rw [serve_unfailed hok]
  rfl

/-- The shared counter stands at its floor or above. -/
def CounterReady (counter : Option RedisValue) : Prop :=
  ∃ value, counterValue counter = some value ∧ counterFloor ≤ value

theorem CounterReady.ne_none {counter : Option RedisValue} (h : CounterReady counter) : counter ≠ none := by
  rintro rfl
  obtain ⟨value, hvalue, -⟩ := h
  cases hvalue

/-- What no thread undoes: the counter stays, and answers stay on record. -/
structure Grows (s s' : Fleet G T × DirectoryLog (G × T)) : Prop where
  counter : s.1.world.counter ≠ none → s'.1.world.counter ≠ none
  answers : ∀ x ∈ s.2.answers, x ∈ s'.2.answers

theorem record_answers {H : Type} [DecidableEq H] {t : H} {log : DirectoryLog H} {x : Answered}
    (hx : x ∈ log.answers) : x ∈ (log.record t a r).answers := by
  cases a with
  | directory d =>
      cases d with
      | enter key =>
          cases r with
          | none => exact hx
          | some playerId => exact List.mem_cons_of_mem _ hx
      | increment =>
          simp only [DirectoryLog.record]
          split <;> exact hx
      | remember key resolved | fallback key => exact List.mem_cons_of_mem _ hx
      | getEntry key | getCounter | initCounter | resetCounter | createEntry key playerId | leave => exact hx
  | _ => exact hx

/-- What a section of the directory makes of the counter when its command does not fail. -/
def counterAfter (counter : Option RedisValue) : DirectoryAct → Option RedisValue
  | .initCounter => (World.setIfAbsent counter counterFloorText).1
  | .resetCounter => some (.text counterFloorText)
  | .increment => (World.increment counter).1
  | _ => counter

theorem directory_counter {d : DirectoryAct} {r : d.Reply}
    (h : (accountMachine cfg).exec t (.directory d) i s = some (s', r))
    (hok : (s.1.served cfg t.1 (.directory d) i).2.redis.failed = false) :
    s'.1.world.counter = counterAfter s.1.world.counter d := by
  obtain ⟨d', -, hw, -, -⟩ := exec_directory h
  rw [hw]
  cases d with
  | enter key | remember key resolved | fallback key | leave => rfl
  | getEntry key | getCounter | initCounter | resetCounter | increment | createEntry key playerId =>
      rw [served_unfailed rfl hok]
      rfl

/-! ## One section -/

/-- The outline of the runs without failures. A thread may rely on the counter being there once it has seen
to it, and on the answers that were given. -/
def keyOutline (cfg : G → GameConfiguration) :
    Outline (G × T) Op Act FleetInput (Fleet G T × DirectoryLog (G × T)) where
  inv s := s.1.world.counter = none ∨ CounterReady s.1.world.counter
  rest _ _ := True
  start _ _ _ := True
  ok t _ a i s := ∀ d, a = .directory d → (s.1.served cfg t.1 a i).2.redis.failed = false
  event _ _ a i s s' := takesFallback a = false ∧ resetsBack a i s.1 = false ∧ Grows s s'
  rely _ _ s s' := Grows s s'
  rely_refl _ _ _ := ⟨id, fun _ h => h⟩
  rely_trans _ _ _ _ _ h h' :=
    ⟨fun hc => h'.counter (h.counter hc), fun x hx => h'.answers x (h.answers x hx)⟩
  rest_rely _ _ _ _ _ := trivial

variable {o : Op}

/-- The sections that a call may run: none takes an id from the local counter or resets the shared one, and
an increment comes after the counter was made. -/
structure MayRun (a : Act) (s : Fleet G T × DirectoryLog (G × T)) : Prop where
  fallback : takesFallback a = false
  reset : a ≠ .directory .resetCounter
  increment : a = .directory .increment → s.1.world.counter ≠ none

/-- `INCRBY` reports a number or an error. -/
theorem increment_unfailed {counter : Option RedisValue}
    (hok : (World.increment counter).2.redis.failed = false) :
    ∃ n, (World.increment counter).2.redis = .integer n := by
  cases counter with
  | none => exact ⟨1, rfl⟩
  | some value =>
    cases value with
    | other => cases hok
    | text text =>
      cases hv : string2ll text with
      | none => simp [World.increment, hv, RedisReply.failed] at hok
      | some value =>
          by_cases hmax : value + 1 < 2 ^ 63
          · exact ⟨value + 1, by simp only [World.increment, hv, if_pos hmax]⟩
          · simp only [World.increment, hv, if_neg hmax] at hok
            cases hok

/-- An `INCRBY` that does not fail leaves a ready counter ready. -/
theorem increment_ready {counter : Option RedisValue} (hready : CounterReady counter)
    (hok : (World.increment counter).2.redis.failed = false) : CounterReady (World.increment counter).1 := by
  obtain ⟨value, hvalue, hfloor⟩ := hready
  obtain ⟨n, hn⟩ := increment_unfailed hok
  rcases increment_cases counter with ⟨-, hno⟩ | ⟨n', -, hafter, -, -, hnew⟩
  · exact absurd hn (hno n)
  · have hlt := hnew value hvalue
    exact ⟨n', hafter, by omega⟩

theorem counterReady_floor : CounterReady (some (.text counterFloorText)) :=
  ⟨counterFloor, by decide, by decide⟩

/-- What any section that a call may run keeps, when its command does not fail. -/
theorem key_section (hI : (keyOutline (T := T) cfg).inv s)
    (hok : ∀ d, a = .directory d → (s.1.served cfg t.1 a i).2.redis.failed = false) (hmay : MayRun a s)
    (h : (accountMachine cfg).exec t a i s = some (s', r)) :
    (keyOutline (T := T) cfg).event t o a i s s' ∧ (keyOutline (T := T) cfg).inv s' := by
  have hanswers : ∀ x ∈ s.2.answers, x ∈ s'.2.answers := by
    rw [(accountMachine_exec h).2]
    exact fun x hx => record_answers hx
  have hcounter : (s.1.world.counter ≠ none → s'.1.world.counter ≠ none) ∧
      (keyOutline (T := T) cfg).inv s' := by
    by_cases hd : ∃ d, a = .directory d
    · obtain ⟨d, rfl⟩ := hd
      have hafter := directory_counter h (hok d rfl)
      show _ ∧ (s'.1.world.counter = none ∨ CounterReady s'.1.world.counter)
      cases d with
      | initCounter =>
          cases hc : s.1.world.counter with
          | none =>
              rw [hafter, hc]
              exact ⟨fun h => absurd rfl h, .inr counterReady_floor⟩
          | some value =>
              have hready : CounterReady (some value) := by
                rw [← hc]
                exact hI.resolve_left (by rw [hc]; exact Option.some_ne_none value)
              rw [hafter, hc]
              exact ⟨fun _ => Option.some_ne_none value, .inr hready⟩
      | resetCounter => exact absurd rfl hmay.reset
      | increment =>
          -- the counter has been made before any call increments it
          have hhere := hmay.increment rfl
          have hanswer := hok _ rfl
          rw [served_unfailed rfl hanswer] at hanswer
          have hready := increment_ready (hI.resolve_left hhere) hanswer
          rw [hafter]
          exact ⟨fun _ => hready.ne_none, .inr hready⟩
      | enter key | remember key resolved | fallback key | leave | getEntry key | getCounter
      | createEntry key playerId =>
          rw [hafter]
          exact ⟨id, hI⟩
    · have hview := view_of_notDirectory (fun d hd' => hd ⟨d, hd'⟩) h
      have hsame : s'.1.world.counter = s.1.world.counter := congrArg DirectoryView.counter hview
      show _ ∧ (s'.1.world.counter = none ∨ CounterReady s'.1.world.counter)
      rw [hsame]
      exact ⟨id, hI⟩
  refine ⟨⟨hmay.fallback, ?_, hcounter.1, hanswers⟩, hcounter.2⟩
  cases a with
  | directory d =>
      cases d with
      | resetCounter => exact absurd rfl hmay.reset
      | _ => rfl
  | _ => rfl

/-! ## The calls -/

/-- The request for `key` was answered in this way. -/
def Logged (key : String) (outcome : ResolveOutcome) (s : Fleet G T × DirectoryLog (G × T)) : Prop :=
  ∀ resolved, outcome = .resolved resolved →
    ∃ x ∈ s.2.answers, x.key = key ∧ x.playerId = resolved.playerId

/-- The rule of one section. -/
theorem key_seq {α : Type} {Q : α → Fleet G T × DirectoryLog (G × T) → Prop} {k : a.Reply → Call α}
    (hmay : MayRun a s)
    (hk : ∀ s₁ i s₂ r, Grows s s₁ → (keyOutline (T := T) cfg).inv s₁ → Grows s₁ s₂ →
      (∀ d, a = .directory d → (s₁.1.served cfg t.1 a i).2.redis.failed = false) →
      (accountMachine cfg).exec t a i s₁ = some (s₂, r) →
      (keyOutline cfg).Safe (accountMachine cfg) t o Q (k r) s₂) :
    (keyOutline cfg).Safe (accountMachine cfg) t o Q (call a >>= k) s := by
  intro s₁ hrely hI i s₂ r hok hx
  have hmay₁ : MayRun a s₁ := ⟨hmay.fallback, hmay.reset, fun ha => hrely.counter (hmay.increment ha)⟩
  obtain ⟨hev, hI₂⟩ := key_section (o := o) hI hok hmay₁ hx
  exact ⟨hev, hI₂, hk s₁ i s₂ r hrely hI hev.2.2 hok hx⟩

omit [DecidableEq G] [DecidableEq T] in
theorem mayRun_of_plain (ha : ∀ d : DirectoryAct, a ≠ .directory d) : MayRun a s where
  fallback := by
    cases a with
    | directory d => exact absurd rfl (ha d)
    | _ => rfl
  reset := ha _
  increment h := absurd h (ha _)

/-- The calls that stay outside the directory. -/
theorem key_all {α : Type} {p : Call α} (hp : p.All fun a => ∀ d : DirectoryAct, a ≠ .directory d) :
    (keyOutline cfg).Safe (accountMachine cfg) t o (fun _ _ => True) p s := by
  refine Outline.safe_of_all (K := fun _ => True) (fun _ _ _ _ _ _ => trivial) ?_
    (fun _ _ _ => trivial) hp trivial
  intro e i s s' r he hI _ hok hx
  obtain ⟨hev, hI'⟩ := key_section (o := o) hI hok (mayRun_of_plain he) hx
  exact ⟨hev, hI', trivial⟩

/-- The section that keeps an answer puts it on record. -/
theorem key_remember {key : String} {resolved : PlayerDirectoryResolveResult} :
    (keyOutline cfg).Safe (accountMachine cfg) t o (Logged key)
      (call (.directory (.remember key resolved)) >>= fun _ => pure (.resolved resolved)) s := by
  refine key_seq ⟨rfl, by simp, by simp⟩ fun s₁ i s₂ r _ _ _ _ hx => ?_
  rintro resolved' hsame
  cases hsame
  refine ⟨⟨key, resolved.playerId, resolved.created⟩, ?_, rfl, rfl⟩
  rw [(accountMachine_exec hx).2]
  exact List.mem_cons_self

theorem key_answerEntry {key text : String} :
    (keyOutline cfg).Safe (accountMachine cfg) t o (Logged key) (answerEntry key text) s := by
  unfold answerEntry
  split
  · refine key_seq ⟨rfl, by simp, by simp⟩ fun s₁ i s₂ r _ _ _ _ hx => ?_
    intro resolved h
    cases h
  · exact key_remember

/-- The part of a turn that looks after the counter: it leaves a counter behind, and never comes to a
reset. -/
theorem key_prepareCounter : (keyOutline cfg).Safe (accountMachine cfg) t o
    (fun _ s => s.1.world.counter ≠ none) prepareCounter s := by
  refine key_seq ⟨rfl, by simp, by simp⟩ fun s₁ i s₂ current _ hI hgrows hok hx => ?_
  obtain ⟨d, hd, -, -, -⟩ := exec_directory hx
  have hanswer := hok _ rfl
  rw [served_unfailed rfl hanswer] at hd hanswer
  simp only [PlayerDirectoryService.exec, Option.some.injEq, Prod.mk.injEq] at hd
  obtain ⟨-, rfl⟩ := hd
  change (World.get s₁.1.world.counter).redis.failed = false at hanswer
  have hread : (i.env (World.execute i.serverMs (World.expire i.expired s₁.1.world) .counterGet).2).redis =
      (World.get s₁.1.world.counter).redis := rfl
  rw [hread]
  cases hc : s₁.1.world.counter with
  | none =>
      refine key_seq ⟨rfl, by simp, by simp⟩ fun s₃ i s₄ _ _ _ _ hok hx => ?_
      show s₄.1.world.counter ≠ none
      rw [directory_counter hx (hok _ rfl)]
      cases s₃.1.world.counter <;> exact Option.some_ne_none _
  | some value =>
      have hthere : s₁.1.world.counter ≠ none := by
        rw [hc]
        exact Option.some_ne_none value
      obtain ⟨n, hn, hfloor⟩ := hI.resolve_left hthere
      rw [hc] at hn
      cases value with
      | other => cases hn
      | text text =>
          -- the number that was read has reached the floor
          have hreset : needsReset text = false := by
            have hread : stoll text = some n := hn
            simp only [needsReset, hread, decide_eq_false_iff_not]
            omega
          show (keyOutline cfg).Safe (accountMachine cfg) t o _ (if needsReset text then _ else _) s₂
          rw [hreset]
          exact hgrows.counter hthere

theorem key_resolveLoop (key : String) (fuel : Nat) :
    ∀ s, (keyOutline (T := T) cfg).Safe (accountMachine cfg) t o (Logged key) (resolveLoop key fuel) s := by
  induction fuel with
  | zero =>
      intro s resolved h
      cases h
  | succ fuel ih =>
      intro s
      refine Outline.Safe.bind (key_prepareCounter.mono fun _ s hcounter => ?_)
      refine key_seq ⟨rfl, by simp, fun _ => hcounter⟩ fun s₁ i s₂ increment _ _ _ hok hx => ?_
      -- an `INCRBY` that does not fail has reported a number, so the local counter is not used
      have hincrement : increment.1.ok = true := by
        obtain ⟨d, hd, -, -, -⟩ := exec_directory hx
        have hanswer := hok _ rfl
        rw [served_unfailed rfl hanswer] at hd hanswer
        simp only [PlayerDirectoryService.exec, Option.some.injEq, Prod.mk.injEq] at hd
        obtain ⟨-, rfl⟩ := hd
        exact redisIncrement_ok.mpr (increment_unfailed hanswer)
      simp only [hincrement, Bool.not_true, Bool.false_eq_true, if_false]
      refine key_seq ⟨rfl, by simp, by simp⟩ fun s₃ i s₄ create _ _ _ hok hx => ?_
      have hcreate : create.ok = true ∨ create.message = "exists" := by
        obtain ⟨d, hd, -, -, -⟩ := exec_directory hx
        have hanswer := hok _ rfl
        rw [served_unfailed rfl hanswer] at hd
        simp only [PlayerDirectoryService.exec, Option.some.injEq, Prod.mk.injEq] at hd
        obtain ⟨-, rfl⟩ := hd
        show (redisSetIfAbsent (World.setIfAbsent (s₃.1.world.entries key) _).2.redis).ok = true ∨
          (redisSetIfAbsent (World.setIfAbsent (s₃.1.world.entries key) _).2.redis).message = "exists"
        cases s₃.1.world.entries key with
        | none => exact .inl rfl
        | some value => exact .inr rfl
      split
      · exact key_remember
      · rename_i hno
        rw [if_neg (not_not_intro (hcreate.resolve_left hno))]
        refine key_seq ⟨rfl, by simp, by simp⟩ fun s₅ i s₆ retry _ _ _ _ _ => ?_
        split
        · exact key_answerEntry
        · exact ih s₆

/-- The first section of a request: a cached id is put on record at once. -/
theorem key_enter {key : String} {α : Type} {Q : α → Fleet G T × DirectoryLog (G × T) → Prop}
    {hit : PlayerId → Call α} {miss : Call α}
    (hhit : ∀ playerId s, (∃ x ∈ s.2.answers, x.key = key ∧ x.playerId = playerId) →
      (keyOutline (T := T) cfg).Safe (accountMachine cfg) t o Q (hit playerId) s)
    (hmiss : ∀ s, (keyOutline (T := T) cfg).Safe (accountMachine cfg) t o Q miss s) :
    (keyOutline cfg).Safe (accountMachine cfg) t o Q
      (call (.directory (.enter key)) >>= fun
        | some playerId => hit playerId
        | none => miss) s := by
  refine key_seq ⟨rfl, by simp, by simp⟩ fun s₁ i s₂ cached _ _ _ _ hx => ?_
  cases cached with
  | none => exact hmiss s₂
  | some playerId =>
      refine hhit playerId s₂ ⟨⟨key, playerId, false⟩, ?_, rfl, rfl⟩
      rw [(accountMachine_exec hx).2]
      exact List.mem_cons_self

theorem key_resolveOrCreate (key : String) (fuel : Nat) :
    (keyOutline cfg).Safe (accountMachine cfg) t o (Logged key) (resolveOrCreate fuel key) s := by
  refine key_enter (fun playerId s hlogged => ?_) fun s => ?_
  · refine key_seq ⟨rfl, by simp, by simp⟩ fun s₁ i s₂ _ hrely _ hgrows _ _ => ?_
    rintro resolved h
    cases h
    obtain ⟨x, hx, hfacts⟩ := hlogged
    exact ⟨x, hgrows.answers x (hrely.answers x hx), hfacts⟩
  · refine key_seq ⟨rfl, by simp, by simp⟩ fun s₁ i s₂ entry _ _ _ _ _ => ?_
    split
    · exact key_answerEntry
    · exact key_resolveLoop key fuel s₂

theorem key_lookup (key : String) :
    (keyOutline cfg).Safe (accountMachine cfg) t o
      (fun outcome s => ∀ found, outcome = some found → Logged key found s) (lookup key) s := by
  refine key_enter (fun playerId s hlogged => ?_) fun s => ?_
  · refine key_seq ⟨rfl, by simp, by simp⟩ fun s₁ i s₂ _ hrely _ hgrows _ _ => ?_
    rintro found hfound resolved h
    cases hfound
    cases h
    obtain ⟨x, hx, hfacts⟩ := hlogged
    exact ⟨x, hgrows.answers x (hrely.answers x hx), hfacts⟩
  · refine key_seq ⟨rfl, by simp, by simp⟩ fun s₁ i s₂ entry _ _ _ _ _ => ?_
    split
    · refine Outline.Safe.bind (key_answerEntry.mono fun outcome s hlogged => ?_)
      rintro found hfound
      cases hfound
      exact hlogged
    · refine key_seq ⟨rfl, by simp, by simp⟩ fun s₃ i s₄ _ _ _ _ _ _ => ?_
      intro found h
      cases h

/-- A request that has been answered is on record. -/
def Recorded (o : Op) (r : OpResult) (s : Fleet G T × DirectoryLog (G × T)) : Prop :=
  ∀ account playerId, o.account = some account → r.playerId = some playerId →
    ∃ x ∈ s.2.answers, x.key = account.key ∧ x.playerId = playerId

omit [DecidableEq G] [DecidableEq T] in
theorem recorded_of_none (ho : o.account = none) (r : OpResult) : Recorded o r s := by
  intro account playerId h
  rw [ho] at h
  cases h

theorem key_code (fuel : Nat) :
    (keyOutline cfg).Safe (accountMachine cfg) t o (fun r s => Recorded o r s ∧ True)
      (code cfg fuel t o) s := by
  have hplain : ∀ a : Act, a.plain = true → ∀ d : DirectoryAct, a ≠ .directory d := by
    rintro a ha d rfl
    cases ha
  by_cases ho : o.plain = true
  · have haccount : o.account = none := by
      cases o <;> first | rfl | cases ho
    exact (key_all (Op.code_all hplain _ fuel ho)).mono fun r s _ => ⟨recorded_of_none haccount r, trivial⟩
  · cases o with
    | login source platform accountId areaId gate =>
        have hlogin : (keyOutline cfg).Safe (accountMachine cfg) t
            (.login source platform accountId areaId gate) (fun _ _ => True)
            (handleLoginRequest (cfg t.1) fuel source (makeKey platform accountId areaId) gate) s := by
          refine Outline.Safe.bind ((key_resolveOrCreate _ fuel).mono fun outcome s _ => ?_)
          split
          · exact key_all ((answerLogin_all hplain _ source gate _).bind fun _ => all_pure)
          · trivial
          · trivial
        refine Outline.Safe.bind (hlogin.mono fun result _ _ => ?_)
        split <;> exact ⟨recorded_of_none rfl _, trivial⟩
    | resolve platform accountId areaId =>
        refine Outline.Safe.bind ((key_resolveOrCreate _ fuel).mono fun outcome s hlogged => ⟨?_, trivial⟩)
        intro account playerId haccount hplayer
        cases haccount
        cases outcome with
        | resolved result =>
            cases hplayer
            exact hlogged result rfl
        | threw | spinning => cases hplayer
    | lookup platform accountId areaId =>
        refine Outline.Safe.bind ((key_lookup _).mono fun outcome s hlogged => ⟨?_, trivial⟩)
        intro account playerId haccount hplayer
        cases haccount
        cases outcome with
        | none => cases hplayer
        | some found =>
          cases found with
          | resolved result =>
              cases hplayer
              exact hlogged _ rfl result rfl
          | threw | spinning => cases hplayer
    | renew order =>
        refine (key_all ((renewLeases_all ?_ order).bind fun _ => all_pure)).mono
          fun r s _ => ⟨recorded_of_none rfl r, trivial⟩
        intro a d h
        cases h
    | _ => exact absurd rfl ho

theorem key_proved (fuel : Nat) :
    (keyOutline (T := T) cfg).Proved (accountMachine cfg) (code cfg fuel)
      (fun c m => unfailing cfg c m = true) (fun _ o r s => Recorded o r s) where
  start _ _ _ _ _ := trivial
  ok c t o a k i hg _ ht := by
    rintro d rfl
    have hp : c.pending t = some (.directory d) := by simp [Pool.pending, ht]
    simpa [unfailing, hp] using hg
  safe t o s _ _ _ := key_code fuel
  compatible c t o a k i s r _ _ _ _ hev u _ := hev.2.2

/-! ## Every run -/

variable {fuel : Nat} {s₀ : Fleet G T}
  {c c' : Pool (G × T) Op Act Act.Reply OpResult (Fleet G T × DirectoryLog (G × T))}

/-- A pool of a run without failures: its threads are safe, and what has been answered is on record. -/
structure Unfailing (cfg : G → GameConfiguration)
    (c : Pool (G × T) Op Act Act.Reply OpResult (Fleet G T × DirectoryLog (G × T))) : Prop where
  good : (keyOutline cfg).Good (accountMachine cfg) (fun _ o r s => Recorded o r s) c
  recorded : ∀ t o r, c.returned t = some (o, r) → Recorded o r c.shared

omit [DecidableEq G] [DecidableEq T] in
theorem Recorded.grows {o : Op} {r : OpResult} (h : Recorded o r s) (hs : Grows s s') : Recorded o r s' := by
  intro account playerId haccount hplayer
  obtain ⟨x, hx, hfacts⟩ := h account playerId haccount hplayer
  exact ⟨x, hs.answers x hx, hfacts⟩

/-- A move without a failure takes no id from a local counter and does not set the shared one back. -/
theorem Unfailing.move {m : Move (G × T) Op FleetInput} (h : Unfailing cfg c)
    (hg : unfailing cfg c m = true) (hm : c.move (accountMachine cfg) (code cfg fuel) m = some c') :
    accountGuard true c m = true ∧ Unfailing cfg c' ∧ Grows c.shared c'.shared := by
  obtain ⟨hgood, hmoved⟩ := (key_proved fuel).move h.good hg hm
  cases m with
  | start t o =>
      obtain ⟨-, rfl⟩ := Pool.move_start hm
      refine ⟨rfl, ⟨hgood, fun u o' r hreturned => ?_⟩, id, fun _ hx => hx⟩
      by_cases hu : u = t
      · subst hu
        exact hmoved o' r (Pool.returned_eq_some.mp hreturned)
      · refine h.recorded u o' r ?_
        simpa [Pool.returned, Function.update_of_ne hu] using hreturned
  | act t i =>
      obtain ⟨o, a, k, s, r, ht, hx, rfl⟩ := Pool.move_act hm
      obtain ⟨hfallback, hreset, hgrows⟩ := hmoved.2 o a k ht
      have hp : c.pending t = some a := by simp [Pool.pending, ht]
      refine ⟨by simp [accountGuard, hp, hfallback, hreset], ⟨hgood, fun u o' r' hreturned => ?_⟩, hgrows⟩
      by_cases hu : u = t
      · subst hu
        exact hmoved.1 o' r' (Pool.returned_eq_some.mp hreturned)
      · refine (h.recorded u o' r' ?_).grows hgrows
        simpa [Pool.returned, Function.update_of_ne hu] using hreturned

theorem run_unfailing (h : Unfailing cfg c)
    (hrun : Run (accountMachine cfg) (code cfg fuel) (fun c m => unfailing cfg c m = true) c c') :
    Run (accountMachine cfg) (code cfg fuel) (fun c m => accountGuard true c m = true) c c' ∧
      Unfailing cfg c' ∧ Grows c.shared c'.shared := by
  induction hrun with
  | refl => exact ⟨.refl, h, id, fun _ hx => hx⟩
  | tail _ hg hm ih =>
      obtain ⟨hrun, hd, hgrows⟩ := ih
      obtain ⟨hguard, hd', hgrows'⟩ := hd.move hg hm
      exact ⟨hrun.tail hguard hm, hd', fun hc => hgrows'.counter (hgrows.counter hc),
        fun x hx => hgrows'.answers x (hgrows.answers x hx)⟩

/-- In a run without failures over an empty directory, two requests that have been answered, one not later
than the other, got one id exactly when their accounts have one key. -/
theorem same_id_iff {t u : G × T} {o o' : Op} {r r' : OpResult} {a b : Account} {p q : PlayerId}
    (hentries : ∀ key, s₀.world.entries key = none) (hcounter : s₀.world.counter = none)
    (hcached : ∀ g key, (s₀.games g).directory.entries key = none)
    (hrun : Run (accountMachine cfg) (code cfg fuel) (fun c m => unfailing cfg c m = true)
      (Pool.initial (s₀, {})) c)
    (hrun' : Run (accountMachine cfg) (code cfg fuel) (fun c m => unfailing cfg c m = true) c c')
    (hfirst : c.returned t = some (o, r)) (hsecond : c'.returned u = some (o', r'))
    (ho : o.account = some a) (ho' : o'.account = some b) (hr : r.playerId = some p)
    (hr' : r'.playerId = some q) : p = q ↔ a.key = b.key := by
  have hinitial : Unfailing (G := G) (T := T) cfg (Pool.initial (s₀, {})) :=
    ⟨Outline.good_initial (.inl hcounter) fun _ => trivial, fun t o r h => by cases h⟩
  obtain ⟨hstrict, hc, -⟩ := run_unfailing hinitial hrun
  obtain ⟨hstrict', hc', hgrows⟩ := run_unfailing hc hrun'
  obtain ⟨hagree, hdistinct⟩ := account_run (fun _ => hentries) hcached (hstrict.trans hstrict')
  obtain ⟨x, hx, hxkey, hxid⟩ := ((hc.recorded t o r hfirst).grows hgrows) a p ho hr
  obtain ⟨y, hy, hykey, hyid⟩ := hc'.recorded u o' r' hsecond b q ho' hr'
  rw [← hxid, ← hyid, ← hxkey, ← hykey]
  exact ⟨hagree.sameKey (hdistinct rfl) hx hy, hagree.sameId hx hy⟩

omit [DecidableEq G] [DecidableEq T] in
/-- **Accounts and ids.** `MakeKey` separates two accounts if and only if they are not shifted. And take a
run without failures over an empty directory, of any operations on any threads of any games, and two
requests that have been answered, one not later than the other: that they got one id only because their
accounts are the same is true if and only if the accounts are not shifted. -/
theorem accounts_apart (a b : Account) : ((a.key = b.key → a = b) ↔ ¬ a.Shifted b) ∧
    ∀ (G T : Type) [DecidableEq G] [DecidableEq T] (cfg : G → GameConfiguration) (fuel : Nat)
      (s₀ : Fleet G T) (c c' : Pool (G × T) Op Act Act.Reply OpResult (Fleet G T × DirectoryLog (G × T)))
      (t u : G × T) (o o' : Op) (r r' : OpResult) (p q : PlayerId),
      (∀ key, s₀.world.entries key = none) → s₀.world.counter = none →
      (∀ g key, (s₀.games g).directory.entries key = none) →
      Run (accountMachine cfg) (code cfg fuel) (fun c m => unfailing cfg c m = true)
        (Pool.initial (s₀, {})) c →
      Run (accountMachine cfg) (code cfg fuel) (fun c m => unfailing cfg c m = true) c c' →
      c.returned t = some (o, r) → c'.returned u = some (o', r') →
      o.account = some a → o'.account = some b → r.playerId = some p → r'.playerId = some q →
      ((p = q → a = b) ↔ ¬ a.Shifted b) := by
  refine ⟨Account.separates_iff, ?_⟩
  intro G T _ _ cfg fuel s₀ c c' t u o o' r r' p q hentries hcounter hcached hrun hrun' hfirst hsecond
    ho ho' hr hr'
  rw [same_id_iff hentries hcounter hcached hrun hrun' hfirst hsecond ho ho' hr hr']
  exact Account.separates_iff

/-! ### Two accounts -/

/-- Accounts `x` and `y` of one platform get two ids from two games. -/
theorem accounts_apart_two :
    ∃ c c', (twoDirectories none).play (accountMachine twoGames) (code twoGames 1) (unfailing twoGames)
        (resolves true "x" (List.replicate 7 .none)) = some c ∧
      c.play (accountMachine twoGames) (code twoGames 1) (unfailing twoGames)
        (resolves false "y" (List.replicate 6 .none)) = some c' ∧
      c.returned (true, ()) = some (.resolve "p" "x" 1, .resolved (.resolved ⟨100000, true⟩)) ∧
      c'.returned (false, ()) = some (.resolve "p" "y" 1, .resolved (.resolved ⟨100001, true⟩)) ∧
      (((100000 : PlayerId) = 100001 → (⟨"p", "x", 1⟩ : Account) = ⟨"p", "y", 1⟩) ↔
        ¬ Account.Shifted ⟨"p", "x", 1⟩ ⟨"p", "y", 1⟩) := by
  have hend : ((twoDirectories none).play (accountMachine twoGames) (code twoGames 1) (unfailing twoGames)
      (resolves true "x" (List.replicate 7 .none))).bind (fun c =>
        (c.play (accountMachine twoGames) (code twoGames 1) (unfailing twoGames)
          (resolves false "y" (List.replicate 6 .none))).map
            fun c' => (c.returned (true, ()), c'.returned (false, ()))) =
      some (some (.resolve "p" "x" 1, .resolved (.resolved ⟨100000, true⟩)),
        some (.resolve "p" "y" 1, .resolved (.resolved ⟨100001, true⟩))) := by decide
  obtain ⟨c, hc, hplay⟩ := Option.bind_eq_some_iff.mp hend
  obtain ⟨c', hc', hcs⟩ := Option.map_eq_some_iff.mp hplay
  simp only [Prod.mk.injEq] at hcs
  obtain ⟨hfirst, hsecond⟩ := hcs
  exact ⟨c, c', hc, hc', hfirst, hsecond, (accounts_apart ⟨"p", "x", 1⟩ ⟨"p", "y", 1⟩).2 Bool Unit twoGames 1
    { world := {} } c c' _ _ _ _ _ _ _ _ (fun _ => rfl) rfl (fun _ _ => rfl)
    (Run.refl.play (fun _ _ h => h) hc) (Run.refl.play (fun _ _ h => h) hc') hfirst hsecond rfl rfl rfl rfl⟩

/-- Account `x:y` of platform `p` and account `y` of platform `p:x` have one key, and the second request is
answered the id of the first. -/
theorem accounts_share_key :
    (⟨"p", "x:y", 1⟩ : Account).key = (⟨"p:x", "y", 1⟩ : Account).key ∧
    (⟨"p", "x:y", 1⟩ : Account) ≠ ⟨"p:x", "y", 1⟩ ∧
    ∃ c, Run (accountMachine twoGames) (code twoGames 1) (fun c m => unfailing twoGames c m = true)
        (twoDirectories none) c ∧
      c.returned (true, ()) = some (.resolve "p" "x:y" 1, .resolved (.resolved ⟨100000, true⟩)) ∧
      c.returned (false, ()) = some (.resolve "p:x" "y" 1, .resolved (.resolved ⟨100000, false⟩)) := by
  refine ⟨by decide, by decide, ?_⟩
  have hend : ((twoDirectories none).play (accountMachine twoGames) (code twoGames 1) (unfailing twoGames)
      (resolves true "x:y" (List.replicate 7 .none) ++
        .start (false, ()) (.resolve "p:x" "y" 1) :: sections false (List.replicate 3 .none))).map
          (fun c => (c.returned (true, ()), c.returned (false, ()))) =
      some (some (.resolve "p" "x:y" 1, .resolved (.resolved ⟨100000, true⟩)),
        some (.resolve "p:x" "y" 1, .resolved (.resolved ⟨100000, false⟩))) := by decide
  obtain ⟨c, hc, hcs⟩ := Option.map_eq_some_iff.mp hend
  simp only [Prod.mk.injEq] at hcs
  exact ⟨c, Run.refl.play (fun _ _ h => h) hc, hcs.1, hcs.2⟩

end Fleet

end SomeServer
