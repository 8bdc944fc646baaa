/-
# SomeServer.Game.Scans — what one scan of the flush scheduler reports

`FlushDuePlayersOnce` counts a player before it knows whether it will flush it, and takes the counts back after
a flush. When nothing else runs, the counts that it publishes are those of the state it leaves: the loop is
followed player by player (`scanAll_solo`), and each turn either leaves the player's record alone or flushes it
once (`scanPlayer_solo`).
-/
import SomeServer.Game.Footprint
import SomeServer.Game.Steps
import SomeServer.Lib.Courses
import Mathlib.Data.Set.Card

namespace SomeServer

open Lib

variable {T : Type}

/-! ## What a scan reports -/

/-- A section that a thread of a game has performed. -/
abbrev GameDid (T : Type) : Type := Did Act Act.Reply Env (GameProcess T)

/-- A call of a game, with nothing else running. -/
abbrev GameSolo {α : Type} (cfg : GameConfiguration) (t : T) (p : Call α) (s : GameProcess T) (l : List (GameDid T))
    (a : α) (s' : GameProcess T) : Prop :=
  Prog.Solo (GameProcess.machine cfg) t p s l a s'

/-- The player whose `FlushPlayer` begins with a section. -/
def Act.flushes : Act → Option PlayerId
  | .repository (.flushEnter playerId) => some playerId
  | _ => none

/-- The players that have been flushed, in this order. -/
def flushedPlayers (l : List (GameDid T)) : List PlayerId := l.filterMap fun d => d.act.flushes

/-- `mPlayers` is walked in this order: every player that it tracks comes once, and their number is a `size_t`. -/
structure WalkedAs (s : GameProcess T) (order : List PlayerId) : Prop where
  nodup : order.Nodup
  tracked : ∀ p, p ∈ order ↔ (s.repository.players p).isSome = true
  size : order.length < 2 ^ 64

namespace GameProcess

/-- The loaded players. -/
def loadedPlayers (s : GameProcess T) : Set PlayerId :=
  {p | (s.repository.players p).any (·.loaded) = true}

/-- The loaded players with a flag. -/
def flaggedPlayers (flag : PlayerRepositoryRecord → Bool) (s : GameProcess T) : Set PlayerId :=
  {p | (s.repository.players p).any (fun record => record.loaded && flag record) = true}

end GameProcess

/-- This many successes and failures have been counted, each with its attempt. -/
structure Adds (succeeded failed : Nat) (v v' : PlayerPersistenceSnapshot) : Prop where
  attempts : v'.flushAttemptCount = v.flushAttemptCount + UInt64.ofNat (succeeded + failed)
  successes : v'.flushSuccessCount = v.flushSuccessCount + UInt64.ofNat succeeded
  failures : v'.flushFailureCount = v.flushFailureCount + UInt64.ofNat failed

/-- A scan from `s` to `s'` does what it reports. -/
structure ScanReports (s : GameProcess T) (l : List (GameDid T)) (flushed : Nat) (s' : GameProcess T) : Prop where
  tracked : s'.persistence.snapshot.trackedPlayerCount.toNat = s'.loadedPlayers.ncard
  loaded : s'.loadedPlayers = s.loadedPlayers
  pending : s'.persistence.snapshot.pendingInitialPersistCount.toNat =
    (s'.flaggedPlayers (·.pendingInitialPersist)).ncard
  created : s'.persistence.snapshot.createdWithoutMariaCount.toNat = (s'.flaggedPlayers (·.createdWithoutMaria)).ncard
  attempts : ∃ failed, Adds flushed failed s.persistence.snapshot s'.persistence.snapshot ∧
    (flushedPlayers l).length = flushed + failed
  once : (flushedPlayers l).Nodup
  held : ∀ d ∈ l, ∀ p, d.act.flushes = some p → d.before.isHeldLocally p = true

/-! ## One flush -/

section

variable {cfg : GameConfiguration} {t : T} {s s' : GameProcess T} {l l₁ l₂ : List (GameDid T)} {p : PlayerId}
  {now : UInt64}

@[simp] theorem flushedPlayers_nil : flushedPlayers ([] : List (GameDid T)) = [] := rfl

@[simp] theorem flushedPlayers_append : flushedPlayers (l₁ ++ l₂) = flushedPlayers l₁ ++ flushedPlayers l₂ :=
  List.filterMap_append

theorem flushedPlayers_of_none (h : ∀ d ∈ l, d.act.flushes = none) : flushedPlayers l = [] := by
  rw [flushedPlayers, List.filterMap_eq_nil_iff]
  exact h

theorem gameSolo_call {a : Act} {r : a.Reply} :
    GameSolo cfg t (call a) s l r s' ↔ ∃ i, l = [⟨a, i, s, r⟩] ∧ s.exec cfg t i a = some (s', r) :=
  Prog.solo_call

/-- The commands of `DatasetPut` change nothing in the process. -/
theorem datasetPut_solo {value : Blob} {r : Result} (h : GameSolo cfg t (datasetPut p value) s l r s') :
    s' = s ∧ ∀ d ∈ l, d.act.flushes = none := by
  have hall := datasetPut_all (P := fun a => ∃ b, a = .storage b) (fun b => ⟨b, rfl⟩) p value
  constructor
  · refine Prog.Solo.keep (K := fun x => x = s) ?_ hall h rfl
    rintro _ i x x' r ⟨b, rfl⟩ hexec rfl
    have hstorage : x.exec cfg t i (.storage b) = some (x', r) := hexec
    exact (GameProcess.exec_storage hstorage).1
  · intro d hd
    obtain ⟨b, hb⟩ := h.course.all hall d hd
    rw [hb]
    rfl

/-- A flush of a loaded player: the player is flushed once, at the beginning, and its record is marked if this
succeeds. -/
structure FlushedOnce (p : PlayerId) (record : PlayerRepositoryRecord) (s : GameProcess T) (l : List (GameDid T))
    (r : Result) (s' : GameProcess T) : Prop where
  once : flushedPlayers l = [p]
  first : ∀ d ∈ l, d.act.flushes.isSome = true → d.before = s
  persistence : s'.persistence = s.persistence
  lease : s'.lease = s.lease
  succeeded : r.ok = true → ∃ now, s'.repository.players =
    Function.update s.repository.players p (some (record.markFlushed now))
  failed : r.ok = false → s'.repository.players = s.repository.players

theorem flushPlayer_solo {record : PlayerRepositoryRecord} {r : Result}
    (hrecord : s.repository.players p = some record) (hloaded : record.loaded = true)
    (h : GameSolo cfg t (flushPlayer p) s l r s') :
    FlushedOnce p record s l r s' := by
  obtain ⟨l₁, data, s₁, l₂, rfl, henter, hrest⟩ := Prog.solo_bind.1 h
  obtain ⟨i, rfl, hexec⟩ := gameSolo_call.1 henter
  obtain ⟨m, hm, rfl⟩ := GameProcess.exec_repository hexec
  simp only [PlayerRepository.exec, Option.ite_none_left_eq_some, PlayerRepository.flushEnter, hrecord, hloaded,
    Bool.not_true, Bool.false_eq_true, if_false, Option.some.injEq, Prod.mk.injEq] at hm
  obtain ⟨-, rfl, rfl⟩ := hm
  obtain ⟨l₃, stored, s₂, l₄, rfl, hput, hleave⟩ := Prog.solo_bind.1 hrest
  obtain ⟨rfl, hquiet⟩ := datasetPut_solo hput
  obtain ⟨j, rfl, hexec'⟩ := gameSolo_call.1 hleave
  obtain ⟨m, hm, rfl⟩ := GameProcess.exec_repository hexec'
  simp only [PlayerRepository.exec, Option.some.injEq] at hm
  constructor
  · rw [flushedPlayers_append, flushedPlayers_append, flushedPlayers_of_none hquiet]
    rfl
  · intro d hd hflushes
    rcases List.mem_append.1 hd with hd | hd
    · obtain rfl := List.mem_singleton.1 hd
      rfl
    · rcases List.mem_append.1 hd with hd | hd
      · rw [hquiet d hd] at hflushes
        cases hflushes
      · obtain rfl := List.mem_singleton.1 hd
        cases hflushes
  · rfl
  · rfl
  · intro hok
    unfold PlayerRepository.flushLeave at hm
    split at hm
    · cases hm
      cases hok
    · cases hm
      refine ⟨j.nowMs, ?_⟩
      dsimp only
      rw [hrecord]
      rfl
  · intro hfailed
    unfold PlayerRepository.flushLeave at hm
    split at hm
    · cases hm
      rfl
    · cases hm
      cases hfailed

/-! ## One turn of the loop -/

theorem Adds.refl (v : PlayerPersistenceSnapshot) : Adds 0 0 v v := by
  constructor <;> exact (UInt64.add_zero _).symm

theorem Adds.trans {a b a' b' : Nat} {v v' v'' : PlayerPersistenceSnapshot} (h : Adds a b v v')
    (h' : Adds a' b' v' v'') : Adds (a + a') (b + b') v v'' := by
  constructor
  · rw [h'.attempts, h.attempts, UInt64.add_assoc, ← UInt64.ofNat_add]
    congr 2
    omega
  · rw [h'.successes, h.successes, UInt64.add_assoc, ← UInt64.ofNat_add]
  · rw [h'.failures, h.failures, UInt64.add_assoc, ← UInt64.ofNat_add]

/-- How the loop leaves a loaded player: it does not flush it, or its flush fails, or succeeds. -/
inductive ScanTurn (p : PlayerId) (record : PlayerRepositoryRecord) (counts : ScanCounts) (s : GameProcess T)
    (l : List (GameDid T)) (counts' : ScanCounts) (s' : GameProcess T) : Prop
  | skipped : flushedPlayers l = [] → s'.repository.players = s.repository.players →
      Adds 0 0 s.persistence.snapshot s'.persistence.snapshot → counts' = counts →
        ScanTurn p record counts s l counts' s'
  | failed : flushedPlayers l = [p] → s'.repository.players = s.repository.players →
      Adds 0 1 s.persistence.snapshot s'.persistence.snapshot → counts' = counts →
        ScanTurn p record counts s l counts' s'
  | flushed (now : UInt64) : flushedPlayers l = [p] →
      s'.repository.players = Function.update s.repository.players p (some (record.markFlushed now)) →
      Adds 1 0 s.persistence.snapshot s'.persistence.snapshot → counts' = counts.flush record →
        ScanTurn p record counts s l counts' s'

/-- Every flush is one of a player whose lease is held. -/
def FlushesHeld (l : List (GameDid T)) : Prop :=
  ∀ d ∈ l, ∀ p, d.act.flushes = some p → d.before.isHeldLocally p = true

theorem FlushesHeld.append (h₁ : FlushesHeld l₁) (h₂ : FlushesHeld l₂) : FlushesHeld (l₁ ++ l₂) := by
  intro d hd p hp
  rcases List.mem_append.1 hd with hd | hd
  · exact h₁ d hd p hp
  · exact h₂ d hd p hp

theorem FlushesHeld.of_none (h : ∀ d ∈ l, d.act.flushes = none) : FlushesHeld l := by
  intro d hd p hp
  rw [h d hd] at hp
  cases hp

/-- `ShouldFlush` changes nothing. -/
theorem checkFlush_solo {repository : PlayerRepositoryRecord} {session : Option PlayerSessionRecord} {due : Bool}
    (h : GameSolo cfg t (checkFlush cfg p repository session now) s l due s') :
    s' = s ∧ ∀ d ∈ l, d.act.flushes = none := by
  unfold checkFlush at h
  split at h
  · obtain ⟨rfl, -, rfl⟩ := Prog.solo_ret.1 h
    exact ⟨rfl, by simp⟩
  · obtain ⟨l₁, pending, s₁, l₂, rfl, hpending, hrest⟩ := Prog.solo_bind.1 h
    obtain ⟨rfl, -, rfl⟩ := Prog.solo_ret.1 hrest
    obtain ⟨i, rfl, hexec⟩ := gameSolo_call.1 hpending
    obtain ⟨m, hm, rfl⟩ := GameProcess.exec_persistence hexec
    simp only [PlayerPersistenceService.exec, Option.some.injEq, Prod.mk.injEq] at hm
    obtain ⟨rfl, -⟩ := hm
    exact ⟨rfl, by simp [Act.flushes]⟩

/-- An attempt and its outcome are counted once each. -/
theorem adds_flushDone {v v' : PlayerPersistenceService} (flush : Result)
    (h : v.exec cfg (.flushAttempt p now) = some (v', ())) :
    Adds (if flush.ok then 1 else 0) (if flush.ok then 0 else 1) v.snapshot
      (v'.flushDone cfg p now flush).snapshot := by
  simp only [PlayerPersistenceService.exec, Option.some.injEq, Prod.mk.injEq, and_true] at h
  subst h
  unfold PlayerPersistenceService.flushDone
  cases flush.ok with
  | true => exact ⟨rfl, rfl, (UInt64.add_zero _).symm⟩
  | false => exact ⟨rfl, (UInt64.add_zero _).symm, rfl⟩

/-- A section that only looks. -/
theorem held_solo {held : Bool} (h : GameSolo cfg t (call (.lease (.isHeldLocally p))) s l held s') :
    s' = s ∧ held = s.isHeldLocally p ∧ ∀ d ∈ l, d.act.flushes = none := by
  obtain ⟨i, rfl, hexec⟩ := gameSolo_call.1 h
  obtain ⟨m, hm, rfl⟩ := GameProcess.exec_lease hexec
  simp only [PlayerLeaseService.exec, Option.ite_none_left_eq_some, Option.some.injEq, Prod.mk.injEq] at hm
  obtain ⟨-, rfl, rfl⟩ := hm
  exact ⟨rfl, rfl, by simp [Act.flushes]⟩

theorem repositorySnapshot_solo {record : Option PlayerRepositoryRecord}
    (h : GameSolo cfg t (call (.repository (.snapshot p))) s l record s') :
    s' = s ∧ record = s.repository.players p ∧ ∀ d ∈ l, d.act.flushes = none := by
  obtain ⟨i, rfl, hexec⟩ := gameSolo_call.1 h
  obtain ⟨m, hm, rfl⟩ := GameProcess.exec_repository hexec
  simp only [PlayerRepository.exec, Option.ite_none_left_eq_some, Option.some.injEq, Prod.mk.injEq] at hm
  obtain ⟨-, rfl, rfl⟩ := hm
  exact ⟨rfl, rfl, by simp [Act.flushes]⟩

theorem session_solo {session : Option PlayerSessionRecord}
    (h : GameSolo cfg t (call (.session (.snapshot p))) s l session s') :
    s' = s ∧ ∀ d ∈ l, d.act.flushes = none := by
  obtain ⟨i, rfl, hexec⟩ := gameSolo_call.1 h
  simp only [GameProcess.exec, GameProcess.execSession, Option.some.injEq, Prod.mk.injEq] at hexec
  exact ⟨hexec.1.symm, by simp [Act.flushes]⟩

/-- The scheduler's own sections leave the other services alone. -/
theorem persistence_solo {a : PersistenceAct} {r : a.Reply} (h : GameSolo cfg t (call (.persistence a)) s l r s') :
    s'.repository = s.repository ∧ s'.lease = s.lease ∧ (∀ d ∈ l, d.act.flushes = none) ∧
      s.persistence.exec cfg a = some (s'.persistence, r) := by
  obtain ⟨i, rfl, hexec⟩ := gameSolo_call.1 h
  obtain ⟨m, hm, rfl⟩ := GameProcess.exec_persistence hexec
  exact ⟨rfl, rfl, by simp [Act.flushes], hm⟩

theorem scanPlayer_solo {record : PlayerRepositoryRecord} {counts counts' : ScanCounts}
    (hrecord : s.repository.players p = some record) (hloaded : record.loaded = true)
    (h : GameSolo cfg t (scanPlayer cfg p record now counts) s l counts' s') :
    ScanTurn p record counts s l counts' s' ∧ FlushesHeld l := by
  obtain ⟨l₁, held, s₁, l₂, rfl, hheld, h₁⟩ := Prog.solo_bind.1 h
  obtain ⟨rfl, rfl, hquiet₁⟩ := held_solo hheld
  split at h₁
  · obtain ⟨rfl, rfl, rfl⟩ := Prog.solo_ret.1 h₁
    rw [List.append_nil]
    exact ⟨.skipped (flushedPlayers_of_none hquiet₁) rfl (.refl _) rfl, .of_none hquiet₁⟩
  rename_i hnot
  have hlease : s₁.isHeldLocally p = true := by simpa using hnot
  obtain ⟨l₃, session, s₂, l₄, rfl, hsession, h₂⟩ := Prog.solo_bind.1 h₁
  obtain ⟨rfl, hquiet₂⟩ := session_solo hsession
  obtain ⟨l₅, due, s₃, l₆, rfl, hdue, h₃⟩ := Prog.solo_bind.1 h₂
  obtain ⟨rfl, hquiet₃⟩ := checkFlush_solo hdue
  have hlooked : flushedPlayers l₁ = [] ∧ flushedPlayers l₃ = [] ∧ flushedPlayers l₅ = [] :=
    ⟨flushedPlayers_of_none hquiet₁, flushedPlayers_of_none hquiet₂, flushedPlayers_of_none hquiet₃⟩
  have hbefore : FlushesHeld l₁ ∧ FlushesHeld l₃ ∧ FlushesHeld l₅ :=
    ⟨.of_none hquiet₁, .of_none hquiet₂, .of_none hquiet₃⟩
  split at h₃
  · obtain ⟨rfl, rfl, rfl⟩ := Prog.solo_ret.1 h₃
    refine ⟨.skipped ?_ rfl (.refl _) rfl, hbefore.1.append (hbefore.2.1.append (hbefore.2.2.append ?_))⟩
    · simp [hlooked]
    · exact .of_none (by simp)
  -- the player is flushed
  obtain ⟨l₇, _, s₄, l₈, rfl, hattempt, h₄⟩ := Prog.solo_bind.1 h₃
  obtain ⟨hrepository₄, hlease₄, hquiet₄, hcounted₄⟩ := persistence_solo hattempt
  obtain ⟨l₉, flush, s₅, l₁₀, rfl, hflush, h₅⟩ := Prog.solo_bind.1 h₄
  have honce := flushPlayer_solo (hrepository₄ ▸ hrecord) hloaded hflush
  obtain ⟨l₁₁, _, s₆, l₁₂, rfl, hdone, h₆⟩ := Prog.solo_bind.1 h₅
  obtain ⟨hrepository₆, hlease₆, hquiet₆, hcounted₆⟩ := persistence_solo hdone
  simp only [PlayerPersistenceService.exec, Option.some.injEq, Prod.mk.injEq, and_true] at hcounted₆
  have hheldFlush : FlushesHeld l₉ := by
    intro d hd q hq
    have hq' : q ∈ flushedPlayers l₉ := List.mem_filterMap.2 ⟨d, hd, hq⟩
    rw [honce.once, List.mem_singleton] at hq'
    rw [honce.first d hd (by rw [hq]; rfl), hq', GameProcess.isHeldLocally, hlease₄]
    exact hlease
  have hplayers : flushedPlayers (l₁ ++ (l₃ ++ (l₅ ++ (l₇ ++ (l₉ ++ (l₁₁ ++ l₁₂)))))) = p :: flushedPlayers l₁₂ := by
    simp [hlooked, flushedPlayers_of_none hquiet₄, flushedPlayers_of_none hquiet₆, honce.once]
  have hadds := adds_flushDone flush hcounted₄
  rw [← honce.persistence, hcounted₆] at hadds
  have hall : ∀ l, FlushesHeld l → FlushesHeld (l₁ ++ (l₃ ++ (l₅ ++ (l₇ ++ (l₉ ++ (l₁₁ ++ l)))))) := fun l hl =>
    hbefore.1.append (hbefore.2.1.append (hbefore.2.2.append ((FlushesHeld.of_none hquiet₄).append
      (hheldFlush.append ((FlushesHeld.of_none hquiet₆).append hl)))))
  cases hok : flush.ok with
  | false =>
      simp only [hok, Bool.not_false, if_true] at h₆
      obtain ⟨rfl, rfl, rfl⟩ := Prog.solo_ret.1 h₆
      refine ⟨.failed hplayers ?_ (by simpa [hok] using hadds) rfl, hall _ (.of_none (by simp))⟩
      rw [hrepository₆, honce.failed hok, hrepository₄]
  | true =>
      simp only [hok, Bool.not_true, Bool.false_eq_true, if_false] at h₆
      obtain ⟨rfl, rfl, rfl⟩ := Prog.solo_ret.1 h₆
      obtain ⟨flushedAt, hmarked⟩ := honce.succeeded hok
      refine ⟨.flushed flushedAt hplayers ?_ (by simpa [hok] using hadds) rfl, hall _ (.of_none (by simp))⟩
      rw [hrepository₆, hmarked, hrepository₄]

end

/-! ## The counts of the flags -/

/-- The two flags that are counted. -/
inductive ScanFlag where
  | pendingInitialPersist
  | createdWithoutMaria

namespace ScanFlag

def isSet : ScanFlag → PlayerRepositoryRecord → Bool
  | pendingInitialPersist, record => record.pendingInitialPersist
  | createdWithoutMaria, record => record.createdWithoutMaria

def count : ScanFlag → ScanCounts → UInt64
  | pendingInitialPersist, counts => counts.pendingInitialPersist
  | createdWithoutMaria, counts => counts.createdWithoutMaria

variable {flag : ScanFlag} {record : PlayerRepositoryRecord} {counts : ScanCounts}

theorem count_count : flag.count (counts.count record) =
    if flag.isSet record then flag.count counts + 1 else flag.count counts := by
  cases flag <;> rfl

theorem count_flush : flag.count (counts.flush record) =
    if flag.isSet record && decide (0 < flag.count counts) then flag.count counts - 1 else flag.count counts := by
  cases flag <;> rfl

theorem isSet_markFlushed {now : UInt64} : flag.isSet (record.markFlushed now) = false := by
  cases flag <;> rfl

/-- Raising a count is exact while it does not overflow. -/
theorem toNat_count (hroom : (flag.count counts).toNat + 1 < 2 ^ 64) :
    (flag.count (counts.count record)).toNat = (flag.count counts).toNat + if flag.isSet record then 1 else 0 := by
  rw [count_count]
  split
  · rw [UInt64.toNat_add]
    exact Nat.mod_eq_of_lt hroom
  · rfl

/-- A flush takes back what its record has been counted for. -/
theorem count_flush_count (hroom : (flag.count counts).toNat + 1 < 2 ^ 64) :
    flag.count ((counts.count record).flush record) = flag.count counts := by
  have hraised : (flag.count (counts.count record)).toNat =
      (flag.count counts).toNat + if flag.isSet record then 1 else 0 := toNat_count hroom
  rw [count_flush]
  cases hset : flag.isSet record with
  | false => simp [count_count, hset]
  | true =>
      rw [hset, if_pos rfl] at hraised
      have hpositive : 0 < flag.count (counts.count record) := by
        rw [UInt64.lt_iff_toNat_lt, hraised]
        exact Nat.succ_pos _
      rw [decide_eq_true hpositive, Bool.and_self, if_pos rfl, count_count, hset, if_pos rfl]
      exact UInt64.add_sub_cancel _ _

end ScanFlag

/-! ## The loop -/

/-- The loop over some loaded players: it changes nothing of the others, counts each of them, and flushes each at
most once. -/
structure Scanned (players : List PlayerId) (counts : ScanCounts) (s : GameProcess T) (l : List (GameDid T))
    (counts' : ScanCounts) (s' : GameProcess T) : Prop where
  others : ∀ q, q ∉ players → s'.repository.players q = s.repository.players q
  loaded : ∀ q ∈ players, (s'.repository.players q).any (·.loaded) = true
  tracked : counts'.tracked = counts.tracked + UInt64.ofNat players.length
  flags : ∀ flag : ScanFlag, (flag.count counts).toNat + players.length < 2 ^ 64 → (flag.count counts').toNat =
    (flag.count counts).toNat + players.countP fun q => (s'.repository.players q).any flag.isSet
  flushed : ∃ succeeded failed, Adds succeeded failed s.persistence.snapshot s'.persistence.snapshot ∧
    counts'.flushed = counts.flushed + succeeded ∧ (flushedPlayers l).length = succeeded + failed
  once : (flushedPlayers l).Sublist players
  held : FlushesHeld l

section

variable {cfg : GameConfiguration} {t : T} {s s' s'' : GameProcess T} {l l₁ l₂ : List (GameDid T)} {p : PlayerId}
  {counts counts' counts'' : ScanCounts} {now : UInt64}

/-- Sections that flush nobody and change nothing are the loop over no player. -/
theorem Scanned.quiet (h : ∀ d ∈ l, d.act.flushes = none) : Scanned [] counts s l counts s where
  others _ _ := rfl
  loaded _ hq := absurd hq List.not_mem_nil
  tracked := (UInt64.add_zero _).symm
  flags _ _ := rfl
  flushed := ⟨0, 0, .refl _, rfl, by rw [flushedPlayers_of_none h]; rfl⟩
  once := by rw [flushedPlayers_of_none h]
  held := .of_none h

/-- A turn is the loop over one player. -/
theorem ScanTurn.scanned {record : PlayerRepositoryRecord} (hrecord : s.repository.players p = some record)
    (hloaded : record.loaded = true) (h : ScanTurn p record (counts.count record) s l counts' s')
    (hheld : FlushesHeld l) : Scanned [p] counts s l counts' s' := by
  -- the record is left alone, and so are the counts behind it
  have hkept : s'.repository.players = s.repository.players → counts' = counts.count record →
      ∀ a b, Adds a b s.persistence.snapshot s'.persistence.snapshot → a = 0 →
        (flushedPlayers l).length = a + b → (flushedPlayers l).Sublist [p] → Scanned [p] counts s l counts' s' := by
    rintro hplayers rfl a b hadds rfl hlength honce
    refine ⟨fun q _ => by rw [hplayers], fun q hq => ?_, rfl, fun flag hroom => ?_, ⟨0, b, hadds, rfl, hlength⟩,
      honce, hheld⟩
    · obtain rfl := List.mem_singleton.1 hq
      rw [hplayers, hrecord]
      exact hloaded
    · rw [flag.toNat_count hroom, hplayers]
      simp [List.countP_cons, hrecord]
  cases h with
  | skipped hnone hplayers hadds hcounts =>
      exact hkept hplayers hcounts 0 0 hadds rfl (by rw [hnone]; rfl) (by rw [hnone]; exact List.nil_sublist _)
  | failed hone hplayers hadds hcounts =>
      exact hkept hplayers hcounts 0 1 hadds rfl (by rw [hone]; rfl) (by rw [hone])
  | flushed flushedAt hone hplayers hadds hcounts =>
      subst hcounts
      have hp : s'.repository.players p = some (record.markFlushed flushedAt) := by
        rw [hplayers]
        exact Function.update_self ..
      refine ⟨fun q hq => ?_, fun q hq => ?_, rfl, fun flag hroom => ?_, ⟨1, 0, hadds, rfl, by rw [hone]; rfl⟩,
        by rw [hone], hheld⟩
      · rw [hplayers, Function.update_of_ne (by simpa using hq)]
      · obtain rfl := List.mem_singleton.1 hq
        rw [hp]
        exact hloaded
      · rw [flag.count_flush_count hroom]
        simp [hp, ScanFlag.isSet_markFlushed]

theorem Scanned.append {ps qs : List PlayerId} (h : Scanned ps counts s l₁ counts' s')
    (h' : Scanned qs counts' s' l₂ counts'' s'') (hdisjoint : ps.Disjoint qs) :
    Scanned (ps ++ qs) counts s (l₁ ++ l₂) counts'' s'' where
  others q hq := by
    rw [List.mem_append, not_or] at hq
    rw [h'.others q hq.2, h.others q hq.1]
  loaded q hq := by
    by_cases hlater : q ∈ qs
    · exact h'.loaded q hlater
    · rw [h'.others q hlater]
      exact h.loaded q ((List.mem_append.1 hq).resolve_right hlater)
  tracked := by
    rw [h'.tracked, h.tracked, List.length_append, UInt64.ofNat_add, UInt64.add_assoc]
  flags flag hroom := by
    rw [List.length_append] at hroom
    have hfirst := h.flags flag (by omega)
    have hle := List.countP_le_length (p := fun q => (s'.repository.players q).any flag.isSet) (l := ps)
    rw [h'.flags flag (by omega), hfirst, List.countP_append, Nat.add_assoc]
    congr 2
    -- what the later turns flush is none of the earlier players
    apply List.countP_congr
    intro q hq
    rw [h'.others q fun hlater => hdisjoint hq hlater]
  flushed := by
    obtain ⟨a, b, hadds, hflushed, hlength⟩ := h.flushed
    obtain ⟨a', b', hadds', hflushed', hlength'⟩ := h'.flushed
    refine ⟨a + a', b + b', hadds.trans hadds', ?_, ?_⟩
    · rw [hflushed', hflushed, Nat.add_assoc]
    · rw [flushedPlayers_append, List.length_append, hlength, hlength']
      omega
  once := by
    rw [flushedPlayers_append]
    exact h.once.append h'.once
  held := h.held.append h'.held

/-- The loop, by induction on the players that are left. -/
theorem scanAll_solo {players : List PlayerId} (hnodup : players.Nodup)
    (hloaded : ∀ q ∈ players, (s.repository.players q).any (·.loaded) = true)
    (h : GameSolo cfg t (scanAll cfg now players counts) s l counts' s') :
    Scanned players counts s l counts' s' := by
  induction players generalizing s l counts with
  | nil =>
      obtain ⟨rfl, rfl, rfl⟩ := Prog.solo_ret.1 h
      exact .quiet (by simp)
  | cons p rest ih =>
      rw [List.nodup_cons] at hnodup
      obtain ⟨record, hrecord, hrecordLoaded⟩ := (Option.any_eq_true _ _).1 (hloaded p List.mem_cons_self)
      obtain ⟨l₁, snapshot, s₁, l₂, rfl, hsnapshot, h₁⟩ := Prog.solo_bind.1 h
      obtain ⟨rfl, rfl, hquiet⟩ := repositorySnapshot_solo hsnapshot
      rw [hrecord] at h₁
      obtain ⟨l₃, counts₁, s₂, l₄, rfl, hplayer, hrest⟩ := Prog.solo_bind.1 h₁
      obtain ⟨hturn, hheld⟩ := scanPlayer_solo hrecord hrecordLoaded hplayer
      have hfirst := hturn.scanned hrecord hrecordLoaded hheld
      have hdisjoint : [p].Disjoint rest := by simpa using hnodup.1
      have hlater := ih hnodup.2 (fun q hq => ?_) hrest
      · exact (Scanned.quiet hquiet).append (hfirst.append hlater hdisjoint) (List.disjoint_nil_left _)
      · rw [hfirst.others q fun h => hdisjoint h hq]
        exact hloaded q (List.mem_cons_of_mem _ hq)

/-- The number of the players with a property that the walk comes by. -/
theorem ncard_of_walk {order : List PlayerId} {P : PlayerId → Bool} (hnodup : order.Nodup)
    (hall : ∀ p, P p = true → p ∈ order) : {p | P p = true}.ncard = order.countP P := by
  have hset : {p | P p = true} = ((order.filter P).toFinset : Set PlayerId) := by
    ext p
    rw [List.coe_toFinset]
    constructor
    · intro hp
      exact List.mem_filter.2 ⟨hall p hp, hp⟩
    · intro hp
      exact (List.mem_filter.1 hp).2
  rw [hset, Set.ncard_coe_finset, List.toFinset_card_of_nodup (hnodup.filter _), List.countP_eq_length_filter]

section

variable {order : List PlayerId}

/-- The loop loads and unloads nobody. -/
theorem Scanned.loaded_eq (h : Scanned (s.repository.loadedPlayerIds order) {} s l counts s')
    (q : PlayerId) :
    (s'.repository.players q).any (·.loaded) = (s.repository.players q).any (·.loaded) := by
  by_cases hq : q ∈ s.repository.loadedPlayerIds order
  · rw [h.loaded q hq]
    exact (List.mem_filter.1 hq).2.symm
  · rw [h.others q hq]

theorem Scanned.mem_order (h : Scanned (s.repository.loadedPlayerIds order) {} s l counts s')
    (hwalk : WalkedAs s order) (q : PlayerId) (hq : (s'.repository.players q).any (·.loaded) = true) : q ∈ order := by
  rw [h.loaded_eq] at hq
  obtain ⟨record, hrecord, -⟩ := (Option.any_eq_true _ _).1 hq
  exact (hwalk.tracked q).2 (by rw [hrecord]; rfl)

theorem WalkedAs.loaded_size (hwalk : WalkedAs s order) : (s.repository.loadedPlayerIds order).length < 2 ^ 64 :=
  (List.length_filter_le _ order).trans_lt hwalk.size

theorem Scanned.tracked_eq (h : Scanned (s.repository.loadedPlayerIds order) {} s l counts s')
    (hwalk : WalkedAs s order) : counts.tracked.toNat = s'.loadedPlayers.ncard := by
  have hcount : s'.loadedPlayers.ncard = order.countP fun q => (s'.repository.players q).any (·.loaded) :=
    ncard_of_walk hwalk.nodup (h.mem_order hwalk)
  rw [hcount, h.tracked, UInt64.zero_add, UInt64.toNat_ofNat', Nat.mod_eq_of_lt hwalk.loaded_size,
    List.countP_eq_length_filter]
  simp only [h.loaded_eq]
  rfl

theorem Scanned.flag_eq (h : Scanned (s.repository.loadedPlayerIds order) {} s l counts s')
    (hwalk : WalkedAs s order) (flag : ScanFlag) :
    (flag.count counts).toNat = (s'.flaggedPlayers flag.isSet).ncard := by
  have hzero : flag.count {} = 0 := by cases flag <;> rfl
  have hcount : (s'.flaggedPlayers flag.isSet).ncard =
      order.countP fun q => (s'.repository.players q).any fun record => record.loaded && flag.isSet record := by
    refine ncard_of_walk hwalk.nodup fun q hq => h.mem_order hwalk q ?_
    obtain ⟨record, hrecord, hset⟩ := (Option.any_eq_true _ _).1 hq
    rw [hrecord]
    exact (Bool.and_eq_true_iff.1 hset).1
  have hroom : (flag.count ({} : ScanCounts)).toNat + (s.repository.loadedPlayerIds order).length < 2 ^ 64 := by
    rw [hzero]
    exact (Nat.zero_add _).trans_lt hwalk.loaded_size
  rw [h.flags flag hroom, hzero, hcount, PlayerRepository.loadedPlayerIds, List.countP_filter]
  refine (Nat.zero_add _).trans (List.countP_congr fun q _ => ?_)
  rw [PlayerRepository.isLoaded, ← h.loaded_eq]
  cases s'.repository.players q with
  | none => simp
  | some record => simp [and_comm]

end

theorem clock_solo {now : UInt64} (h : GameSolo cfg t (call .clock) s l now s') :
    s' = s ∧ ∀ d ∈ l, d.act.flushes = none := by
  obtain ⟨i, rfl, hexec⟩ := gameSolo_call.1 h
  exact ⟨(GameProcess.exec_clock hexec).1, by simp [Act.flushes]⟩

theorem loadedPlayerIds_solo {order players : List PlayerId}
    (h : GameSolo cfg t (call (.repository (.loadedPlayerIds order))) s l players s') :
    s' = s ∧ players = s.repository.loadedPlayerIds order ∧ ∀ d ∈ l, d.act.flushes = none := by
  obtain ⟨i, rfl, hexec⟩ := gameSolo_call.1 h
  obtain ⟨m, hm, rfl⟩ := GameProcess.exec_repository hexec
  simp only [PlayerRepository.exec, Option.ite_none_left_eq_some, Option.some.injEq, Prod.mk.injEq] at hm
  obtain ⟨-, rfl, rfl⟩ := hm
  exact ⟨rfl, rfl, by simp [Act.flushes]⟩

end

/-- **One scan does what it reports**, whatever is loaded, flagged, held and waiting, and however each flush ends. -/
theorem scan_reports {cfg : GameConfiguration} {t : T} {s s' : GameProcess T} {order : List PlayerId}
    {l : List (GameDid T)} {flushed : Nat} (hwalk : WalkedAs s order)
    (h : GameSolo cfg t (flushDuePlayersOnce cfg order) s l flushed s') : ScanReports s l flushed s' := by
  obtain ⟨l₁, now, s₁, l₂, rfl, hclock, h₁⟩ := Prog.solo_bind.1 h
  obtain ⟨rfl, hquiet₁⟩ := clock_solo hclock
  obtain ⟨l₃, _, s₂, l₄, rfl, henter, h₂⟩ := Prog.solo_bind.1 h₁
  obtain ⟨hrepository₂, hlease₂, hquiet₃, hentered⟩ := persistence_solo henter
  obtain ⟨l₅, players, s₃, l₆, rfl, hplayers, h₃⟩ := Prog.solo_bind.1 h₂
  obtain ⟨rfl, rfl, hquiet₅⟩ := loadedPlayerIds_solo hplayers
  obtain ⟨l₇, counts, s₄, l₈, rfl, hscan, h₄⟩ := Prog.solo_bind.1 h₃
  obtain ⟨l₉, _, s₅, l₁₀, rfl, hleave, h₅⟩ := Prog.solo_bind.1 h₄
  obtain ⟨rfl, rfl, rfl⟩ := Prog.solo_ret.1 h₅
  obtain ⟨hrepository₅, hlease₅, hquiet₉, hleft⟩ := persistence_solo hleave
  simp only [PlayerPersistenceService.exec, Option.some.injEq, Prod.mk.injEq, and_true] at hentered hleft
  have hscanned := scanAll_solo (hwalk.nodup.filter _) (fun q hq => (List.mem_filter.1 hq).2) hscan
  have hwalk₂ : WalkedAs s₃ order := ⟨hwalk.nodup, hrepository₂ ▸ hwalk.tracked, hwalk.size⟩
  have hloadedPlayers : s'.loadedPlayers = s₄.loadedPlayers := by
    unfold GameProcess.loadedPlayers
    rw [hrepository₅]
  have hflagged : ∀ flag, s'.flaggedPlayers flag = s₄.flaggedPlayers flag := by
    intro flag
    unfold GameProcess.flaggedPlayers
    rw [hrepository₅]
  have hplayersFlushed : flushedPlayers (l₁ ++ (l₃ ++ (l₅ ++ (l₇ ++ (l₉ ++ []))))) = flushedPlayers l₇ := by
    simp [flushedPlayers_of_none hquiet₁, flushedPlayers_of_none hquiet₃, flushedPlayers_of_none hquiet₅,
      flushedPlayers_of_none hquiet₉]
  constructor
  · rw [← hleft, hloadedPlayers]
    exact hscanned.tracked_eq hwalk₂
  · rw [hloadedPlayers]
    unfold GameProcess.loadedPlayers
    simp only [hscanned.loaded_eq, hrepository₂]
  · rw [← hleft, hflagged]
    exact hscanned.flag_eq hwalk₂ .pendingInitialPersist
  · rw [← hleft, hflagged]
    exact hscanned.flag_eq hwalk₂ .createdWithoutMaria
  · obtain ⟨succeeded, failed, hadds, hflushed, hlength⟩ := hscanned.flushed
    obtain rfl : counts.flushed = succeeded := hflushed.trans (Nat.zero_add _)
    rw [← hentered] at hadds
    refine ⟨failed, ?_, ?_⟩
    · rw [← hleft]
      exact ⟨hadds.attempts, hadds.successes, hadds.failures⟩
    · rw [hplayersFlushed, hlength]
  · rw [hplayersFlushed]
    exact (hwalk.nodup.filter _).sublist hscanned.once
  · exact (FlushesHeld.of_none hquiet₁).append ((FlushesHeld.of_none hquiet₃).append
      ((FlushesHeld.of_none hquiet₅).append (hscanned.held.append ((FlushesHeld.of_none hquiet₉).append
        (.of_none (by simp))))))

/-- A new player whose lease is held, waiting for its first flush. -/
def newPlayer : GameProcess Unit where
  lease := { leases := fun p => if p = 7 then some ⟨10, 1, "7-1-1000"⟩ else none }
  repository := { players := fun p =>
    if p = 7 then some ((PlayerRepositoryRecord.createDefault 7 true 1000).markLoaded 1000) else none }

theorem newPlayer_walked : WalkedAs newPlayer [7] where
  nodup := by decide
  tracked p := by
    by_cases h : p = 7 <;> simp [newPlayer, h]
  size := by decide

/-- Both stores answer, and write. -/
def writingServers : Env where
  nowMs := 2000
  redis := .status "OK"
  cached := .nil
  maria := .ok
  sent := .success

/-- The scan flushes the new player. -/
theorem scan_reports_one : ∃ l s', GameSolo { instanceId := 1 } () (flushDuePlayersOnce { instanceId := 1 } [7])
    newPlayer l 1 s' ∧ ScanReports newPlayer l 1 s' := by
  have hend : (Prog.soloRun (GameProcess.machine { instanceId := 1 }) () (List.replicate 14 writingServers)
      (flushDuePlayersOnce { instanceId := 1 } [7]) newPlayer).map (fun x => x.2.1) = some 1 := rfl
  obtain ⟨⟨l, flushed, s'⟩, hrun, hflushed⟩ := Option.map_eq_some_iff.1 hend
  obtain rfl : flushed = 1 := hflushed
  have hsolo := Prog.Solo.of_soloRun hrun
  exact ⟨l, s', hsolo, scan_reports newPlayer_walked hsolo⟩

end SomeServer
