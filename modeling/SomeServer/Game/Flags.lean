/-
# SomeServer.Game.Flags — what the flags of a repository record say

Every function of `PlayerRepository` holds `mMutex` from its first line to its last, so what other
threads see of it is one call after the other. `RepositoryInput` is one call with the storage's answer
and the clock it reads; `TrackedRepository` is the repository and, next to it, the data that was last read
from storage or written to it, for each player.

The flags of a loaded record and its data are right after every call in which three things do not happen
(`Admits`): the clock stands at 0 when a record becomes dirty, a second `LoadPlayer` finds no row for a
record that was created without MariaDB, and a failing parse overwrites a record that was clean.
-/
import SomeServer.Game.Repository
import SomeServer.Lib.Histories

namespace SomeServer

open Lib

/-! ## Calls -/

/-- What `DatasetGet` comes to. -/
inductive DatasetAnswer where
  | found (value : Blob)
  | failed (message : String)
deriving DecidableEq, Repr

namespace DatasetAnswer

def result : DatasetAnswer → Result
  | found _ => ⟨true, "OK"⟩
  | failed message => .failure message

def value : DatasetAnswer → Option Blob
  | found value => some value
  | failed _ => none

end DatasetAnswer

inductive RepositoryCall where
  | loadPlayer (playerId : PlayerId) (allowCreateWithoutMaria : Bool) (got : DatasetAnswer)
  | touchLogin (playerId : PlayerId)
  | setDisplayName (playerId : PlayerId) (displayName : String)
  | flushPlayer (playerId : PlayerId) (stored : Result)
  | releasePlayer (playerId : PlayerId)
deriving DecidableEq, Repr

structure RepositoryInput where
  call : RepositoryCall
  nowMs : UInt64
deriving DecidableEq, Repr

namespace PlayerRepository

/-- A whole `LoadPlayer`. -/
def loadPlayer (playerId : PlayerId) (allowCreateWithoutMaria : Bool) (got : DatasetAnswer) (nowMs : UInt64)
    (s : PlayerRepository Unit) : PlayerRepository Unit :=
  ((s.loadEnter () playerId).loadLeave playerId allowCreateWithoutMaria got.result got.value nowMs).1

/-- A whole `FlushPlayer`. -/
def flushPlayer (playerId : PlayerId) (stored : Result) (nowMs : UInt64) (s : PlayerRepository Unit) :
    PlayerRepository Unit :=
  match s.flushEnter () playerId with
  | (s, none) => s
  | (s, some _) => (s.flushLeave playerId stored nowMs).1

def apply (i : RepositoryInput) (s : PlayerRepository Unit) : PlayerRepository Unit :=
  match i.call with
  | .loadPlayer p allow got => s.loadPlayer p allow got i.nowMs
  | .touchLogin p => (s.touchLogin i.nowMs p).1
  | .setDisplayName p displayName => (s.setDisplayName displayName i.nowMs p).1
  | .flushPlayer p stored => s.flushPlayer p stored i.nowMs
  | .releasePlayer p => (s.release p).1

end PlayerRepository

/-! ## The data in storage -/

/-- A repository, and what was last read from storage or written to it. -/
structure TrackedRepository where
  repository : PlayerRepository Unit := {}
  stored : PlayerId → Option PlayerData := fun _ => none

namespace TrackedRepository

/-- A read that parses and a write that succeeds are remembered. -/
def recordStored (i : RepositoryInput) (s : TrackedRepository) : PlayerId → Option PlayerData :=
  match i.call with
  | .loadPlayer p _ (.found (.message data)) => Function.update s.stored p (some data)
  | .flushPlayer p stored =>
      match (s.repository.flushEnter () p).2 with
      | none => s.stored
      | some data => if stored.ok then Function.update s.stored p (some data) else s.stored
  | _ => s.stored

def step (s : TrackedRepository) (i : RepositoryInput) : TrackedRepository where
  repository := s.repository.apply i
  stored := s.recordStored i

end TrackedRepository

/-! ## What the flags say -/

namespace PlayerRepositoryRecord

/-- The flags of a loaded record tell the truth; `stored` is the data in storage. -/
structure Truthful (record : PlayerRepositoryRecord) (stored : Option PlayerData) : Prop where
  created : record.createdWithoutMaria = true → record.pendingInitialPersist = true
  pending : record.pendingInitialPersist = true → record.dirty = true
  clean : record.dirty = false ↔ record.lastDirtyMs = 0
  data : record.dirty = false → stored = some record.data

/-- Some flag of the first record is not set in the second. -/
def Clears (before after : PlayerRepositoryRecord) : Prop :=
  (before.dirty = true ∧ after.dirty = false) ∨
    (before.pendingInitialPersist = true ∧ after.pendingInitialPersist = false) ∨
    (before.createdWithoutMaria = true ∧ after.createdWithoutMaria = false)

/-- A record that was never loaded has its flags as they were made. -/
structure Fresh (record : PlayerRepositoryRecord) : Prop where
  dirty : record.dirty = false
  pending : record.pendingInitialPersist = false
  created : record.createdWithoutMaria = false
  lastDirty : record.lastDirtyMs = 0

end PlayerRepositoryRecord

namespace TrackedRepository

/-- The flags of every loaded record tell the truth. -/
def FlagsTrue (s : TrackedRepository) : Prop :=
  ∀ p record, s.repository.players p = some record → record.loaded = true → record.Truthful (s.stored p)

/-- Only a `FlushPlayer` whose `DatasetPut` succeeds clears a flag of a player. -/
def FlagsKept (s : TrackedRepository) (i : RepositoryInput) : Prop :=
  ∀ p before after, s.repository.players p = some before → (s.step i).repository.players p = some after →
    before.Clears after → ∃ stored : Result, i.call = .flushPlayer p stored ∧ stored.ok = true

/-- The states in which a call does no harm to the flags. -/
def Admits (s : TrackedRepository) (i : RepositoryInput) : Prop :=
  match i.call with
  | .loadPlayer p _ (.found (.corrupt parsed)) => ∀ record, s.repository.players p = some record →
      record.loaded = true → record.dirty = false → parsed = record.data
  | .loadPlayer p allow (.failed message) =>
      if message = "not found" then
        i.nowMs ≠ 0 ∧ ∀ record, s.repository.players p = some record → record.createdWithoutMaria = false
      else if allow && message = mariaUnavailable then i.nowMs ≠ 0
      else True
  | .touchLogin p => s.repository.isLoaded p = true → i.nowMs ≠ 0
  | .setDisplayName p _ => s.repository.isLoaded p = true → i.nowMs ≠ 0
  | _ => True

/-! ## One call -/

/-- A record as it should be: truthful once it is loaded, and untouched before. -/
structure Good (record : PlayerRepositoryRecord) (stored : Option PlayerData) : Prop where
  loaded : record.loaded = true → record.Truthful stored
  fresh : record.loaded = false → record.Fresh

def Sound (s : TrackedRepository) : Prop :=
  ∀ p record, s.repository.players p = some record → Good record (s.stored p)

/-- A call on player `q` leaves this record behind, and nothing else changes. -/
structure Writes (s s' : TrackedRepository) (q : PlayerId) (record : Option PlayerRepositoryRecord) : Prop where
  players : s'.repository.players = Function.update s.repository.players q record
  stored : ∀ p, p ≠ q → s'.stored p = s.stored p

/-- A call leaves the flags right in exactly the states that admit it. -/
structure Exact (s : TrackedRepository) (i : RepositoryInput) : Prop where
  iff : (s.step i).FlagsTrue ∧ s.FlagsKept i ↔ s.Admits i
  sound : s.Admits i → (s.step i).Sound

variable {s s' : TrackedRepository} {i : RepositoryInput} {q : PlayerId}
  {record : Option PlayerRepositoryRecord}

theorem Writes.self (h : Writes s s' q record) : s'.repository.players q = record := by
  rw [h.players, Function.update_self]

theorem Writes.other (h : Writes s s' q record) {p : PlayerId} (hp : p ≠ q) :
    s'.repository.players p = s.repository.players p := by
  rw [h.players, Function.update_of_ne hp]

theorem Writes.sound (h : Writes s s' q record) (hs : s.Sound)
    (hrecord : ∀ r, record = some r → Good r (s'.stored q)) : s'.Sound := by
  intro p r hr
  by_cases hp : p = q
  · subst hp
    exact hrecord r (h.self.symm.trans hr)
  · rw [h.other hp] at hr
    rw [h.stored p hp]
    exact hs p r hr

theorem Sound.flagsTrue (hs : s.Sound) : s.FlagsTrue :=
  fun p record hrecord hloaded => (hs p record hrecord).loaded hloaded

theorem not_clears_self (r : PlayerRepositoryRecord) : ¬ r.Clears r := by
  rintro (⟨h, h'⟩ | ⟨h, h'⟩ | ⟨h, h'⟩) <;> rw [h] at h' <;> cases h'

theorem Writes.flagsKept (h : Writes s (s.step i) q record)
    (hrecord : ∀ before after, s.repository.players q = some before → record = some after →
      before.Clears after → ∃ stored : Result, i.call = .flushPlayer q stored ∧ stored.ok = true) :
    s.FlagsKept i := by
  intro p before after hbefore hafter hclears
  by_cases hp : p = q
  · subst hp
    exact hrecord before after hbefore (h.self.symm.trans hafter) hclears
  · rw [h.other hp, hbefore, Option.some.injEq] at hafter
    exact absurd hclears (hafter ▸ not_clears_self before)

/-- How a call is shown to be exact: where it is admitted, the player's record is good and has kept its
flags, and it is admitted where that is so. -/
theorem Writes.exact (h : Writes s (s.step i) q record) (hs : s.Sound)
    (hgood : s.Admits i → ∀ r, record = some r → Good r ((s.step i).stored q))
    (hkept : s.Admits i → ∀ before after, s.repository.players q = some before → record = some after →
      before.Clears after → ∃ stored : Result, i.call = .flushPlayer q stored ∧ stored.ok = true)
    (hadmits : (s.step i).FlagsTrue → s.FlagsKept i → s.Admits i) : Exact s i where
  iff := ⟨fun hflags => hadmits hflags.1 hflags.2,
    fun ha => ⟨(h.sound hs (hgood ha)).flagsTrue, h.flagsKept (hkept ha)⟩⟩
  sound ha := h.sound hs (hgood ha)

/-- A call that changes no record. -/
theorem exact_of_same (hs : s.Sound) (hsame : s.step i = s) (ha : s.Admits i) : Exact s i := by
  refine ⟨⟨fun _ => ha, fun _ => ⟨?_, ?_⟩⟩, fun _ => ?_⟩
  · rw [hsame]
    exact hs.flagsTrue
  · intro p before after hbefore hafter hclears
    rw [hsame, hbefore, Option.some.injEq] at hafter
    exact absurd hclears (hafter ▸ not_clears_self before)
  · rw [hsame]
    exact hs

/-! ### Loads -/

variable {allow : Bool} {got : DatasetAnswer} {nowMs : UInt64}

theorem writes_load : Writes s (s.step ⟨.loadPlayer q allow got, nowMs⟩) q
    (some (loadOutcome q allow got.result got.value nowMs ((s.repository.players q).getD {})).1) where
  players := by
    simp [step, PlayerRepository.apply, PlayerRepository.loadPlayer, PlayerRepository.loadLeave,
      PlayerRepository.loadEnter]
  stored p hp := by
    cases got with
    | failed message => rfl
    | found value =>
        cases value with
        | message data => exact Function.update_of_ne hp ..
        | corrupt parsed => rfl

/-- The record that `LoadPlayer` begins with is good, whether it was there or is new. -/
theorem Sound.getD (hs : s.Sound) (q : PlayerId) :
    Good ((s.repository.players q).getD {}) (s.stored q) := by
  cases hq : s.repository.players q with
  | none => exact ⟨fun h => (by cases h), fun _ => ⟨rfl, rfl, rfl, rfl⟩⟩
  | some record => exact hs q record hq

/-- What was read and parses is in storage, whatever the record was before. -/
theorem good_found {before : PlayerRepositoryRecord} {stored : Option PlayerData} (h : Good before stored)
    (data : PlayerData) (nowMs : UInt64) :
    Good ({ before with data }.markLoaded nowMs) (some data) := by
  refine ⟨fun _ => ?_, fun hloaded => (by cases hloaded)⟩
  cases hl : before.loaded with
  | true =>
      have ht := h.loaded hl
      exact ⟨ht.created, ht.pending, ht.clean, fun _ => rfl⟩
  | false =>
      -- an unloaded record is untouched: none of its flags is set
      have hf := h.fresh hl
      refine ⟨fun hc => ?_, fun hp => ?_, ?_, fun _ => rfl⟩
      · rw [PlayerRepositoryRecord.markLoaded, hf.created] at hc
        cases hc
      · rw [PlayerRepositoryRecord.markLoaded, hf.pending] at hp
        cases hp
      · simp [PlayerRepositoryRecord.markLoaded, hf.dirty, hf.lastDirty]

theorem exact_found (hs : s.Sound) {data : PlayerData} :
    Exact s ⟨.loadPlayer q allow (.found (.message data)), nowMs⟩ := by
  refine writes_load.exact hs (fun _ r hr => ?_) (fun _ before after hbefore hafter hclears => ?_)
    fun _ _ => trivial
  · obtain rfl := Option.some.inj hr
    have hstored : (s.step ⟨.loadPlayer q allow (.found (.message data)), nowMs⟩).stored q = some data :=
      Function.update_self ..
    rw [hstored]
    exact good_found (hs.getD q) data nowMs
  · obtain rfl := Option.some.inj hafter
    rw [hbefore] at hclears
    exact absurd hclears (not_clears_self before)

/-- A failing parse leaves its part of the data in the record, and nothing else. -/
theorem exact_corrupt (hs : s.Sound) {parsed : PlayerData} :
    Exact s ⟨.loadPlayer q allow (.found (.corrupt parsed)), nowMs⟩ := by
  have hw : Writes s (s.step ⟨.loadPlayer q allow (.found (.corrupt parsed)), nowMs⟩) q
      (some { (s.repository.players q).getD {} with data := parsed }) := writes_load
  refine hw.exact hs (fun ha r hr => ?_) (fun _ before after hbefore hafter hclears => ?_)
    fun htrue _ record hrecord hloaded hclean => ?_
  -- the record after it tells the truth if the data was spared
  · obtain rfl := Option.some.inj hr
    have hbefore := hs.getD q
    refine ⟨fun hloaded => ?_, fun hloaded => ?_⟩
    · have ht := hbefore.loaded hloaded
      refine ⟨ht.created, ht.pending, ht.clean, fun hclean => ?_⟩
      cases hq : s.repository.players q with
      | none =>
          rw [hq] at hloaded
          cases hloaded
      | some record =>
          rw [hq] at ht hclean hloaded
          exact (ht.data hclean).trans (congrArg some (ha record hq hloaded hclean).symm)
    · have hf := hbefore.fresh hloaded
      exact ⟨hf.dirty, hf.pending, hf.created, hf.lastDirty⟩
  -- a failing parse clears no flag
  · obtain rfl := Option.some.inj hafter
    rw [hbefore] at hclears
    exact absurd hclears (not_clears_self before)
  · -- a clean record held what is in storage, and its data is now what was parsed
    have hself := hw.self
    rw [hrecord] at hself
    have hafter := (htrue q _ hself hloaded).data hclean
    exact (Option.some.inj ((hs q record hrecord).loaded hloaded |>.data hclean |>.symm.trans hafter)).symm

/-- A new default record tells the truth unless its clock stands at 0. -/
theorem good_default (created : Bool) (stored : Option PlayerData) :
    Good ((PlayerRepositoryRecord.createDefault q created nowMs).markLoaded nowMs) stored ↔ nowMs ≠ 0 := by
  constructor
  · rintro h rfl
    exact absurd ((h.loaded rfl).clean.mpr rfl) Bool.noConfusion
  · intro hnow
    refine ⟨fun _ => ⟨fun _ => rfl, fun _ => rfl, ⟨fun h => (by cases h), fun h => absurd h hnow⟩,
      fun h => (by cases h)⟩, fun h => (by cases h)⟩

/-- A load that makes a default record: the only flag it can clear is `created_without_maria`. -/
theorem Writes.exact_default {i : RepositoryInput} {created : Bool} (hs : s.Sound)
    (hw : Writes s (s.step i) q
      (some ((PlayerRepositoryRecord.createDefault q created i.nowMs).markLoaded i.nowMs)))
    (hcall : ∀ stored, i.call ≠ .flushPlayer q stored)
    (ha : s.Admits i ↔ i.nowMs ≠ 0 ∧ (created = false → ∀ record, s.repository.players q = some record →
      record.createdWithoutMaria = false)) : Exact s i := by
  refine hw.exact hs (fun h r hr => ?_) (fun h before after hbefore hafter hclears => ?_)
    fun htrue hkept => ha.mpr ⟨?_, fun hcreated record hrecord => ?_⟩
  -- a default record is new and dirty, and says since when unless the clock reads 0
  · obtain rfl := Option.some.inj hr
    exact (good_default created _).mpr (ha.mp h).1
  -- it is dirty and pending, so that only `created_without_maria` can be cleared
  · obtain rfl := Option.some.inj hafter
    rcases hclears with ⟨-, hd⟩ | ⟨-, hp⟩ | ⟨hc, hc'⟩
    · cases hd
    · cases hp
    · rw [(ha.mp h).2 hc' before hbefore] at hc
      cases hc
  -- conversely, a truthful record is dated, and no flag may have been cleared by a load
  · rintro hnow
    have hclean := (htrue q _ hw.self rfl).clean
    exact absurd (hclean.mpr hnow) Bool.noConfusion
  · by_contra hset
    have hclears : record.Clears
        ((PlayerRepositoryRecord.createDefault q created i.nowMs).markLoaded i.nowMs) :=
      .inr (.inr ⟨by simpa using hset, hcreated⟩)
    obtain ⟨stored, hflush, -⟩ := hkept q record _ hrecord hw.self hclears
    exact hcall stored hflush

theorem loadOutcome_failed {message : String} {before : PlayerRepositoryRecord} :
    loadOutcome q allow (DatasetAnswer.failed message).result (DatasetAnswer.failed message).value nowMs before =
      if message = "not found" then
        ((PlayerRepositoryRecord.createDefault q false nowMs).markLoaded nowMs, .success)
      else if allow && message = mariaUnavailable then
        ((PlayerRepositoryRecord.createDefault q true nowMs).markLoaded nowMs, .success)
      else (before, .failure message) := rfl

theorem exact_failed (hs : s.Sound) {message : String} :
    Exact s ⟨.loadPlayer q allow (.failed message), nowMs⟩ := by
  have hw : Writes s (s.step ⟨.loadPlayer q allow (.failed message), nowMs⟩) q _ := writes_load
  rw [loadOutcome_failed] at hw
  by_cases hfound : message = "not found"
  · rw [if_pos hfound] at hw
    refine hw.exact_default hs (fun stored => by simp) ?_
    simp [Admits, hfound]
  · rw [if_neg hfound] at hw
    by_cases hmaria : (allow && message = mariaUnavailable) = true
    · rw [if_pos hmaria] at hw
      refine hw.exact_default hs (fun stored => by simp) ?_
      simp only [Admits, if_neg hfound, if_pos hmaria, Bool.true_eq_false, false_implies, and_true]
    · -- the record stays as it was; if there was none, an empty one is left behind
      rw [if_neg hmaria] at hw
      refine hw.exact hs (fun _ r hr => ?_) (fun _ before after hbefore hafter hclears => ?_)
        fun _ _ => ?_
      · obtain rfl := Option.some.inj hr
        exact hs.getD q
      · obtain rfl := Option.some.inj hafter
        rw [hbefore] at hclears
        exact absurd hclears (not_clears_self before)
      · simp only [Admits, if_neg hfound, if_neg hmaria]

/-! ### The other calls -/

/-- `TouchLogin` and `SetDisplayName`. -/
theorem exact_change {i : RepositoryInput} {change : PlayerData → PlayerData} (hs : s.Sound)
    (hrepository : (s.step i).repository = (s.repository.changeData change i.nowMs q).1)
    (hstored : (s.step i).stored = s.stored)
    (ha : s.Admits i ↔ (s.repository.isLoaded q = true → i.nowMs ≠ 0)) : Exact s i := by
  -- only a loaded record is changed
  cases hq : s.repository.players q with
  | none =>
      refine exact_of_same hs ?_ (ha.mpr fun hl => ?_)
      · have hsame : (s.step i).repository = s.repository := by
          rw [hrepository]
          simp [PlayerRepository.changeData, hq]
        cases hstep : s.step i
        simp_all
      · simp [PlayerRepository.isLoaded, hq] at hl
  | some record =>
      by_cases hl : record.loaded = true
      · have hw : Writes s (s.step i) q (some (record.change (change record.data) i.nowMs)) := by
          refine ⟨?_, fun p _ => by rw [hstored]⟩
          rw [hrepository]
          simp [PlayerRepository.changeData, hq, hl]
        have hloaded : s.repository.isLoaded q = true := by simp [PlayerRepository.isLoaded, hq, hl]
        have ht := (hs q record hq).loaded hl
        refine hw.exact hs (fun h r hr => ?_) (fun _ before after hbefore hafter hclears => ?_)
          fun htrue _ => ha.mpr fun _ hnow => ?_
        -- the changed record is dirty since now
        · obtain rfl := Option.some.inj hr
          have hnow := ha.mp h hloaded
          exact ⟨fun _ => ⟨ht.created, fun _ => rfl, ⟨fun h => (by cases h), fun h => absurd h hnow⟩,
            fun h => (by cases h)⟩, fun hno => absurd hl (by simpa [PlayerRepositoryRecord.change] using hno)⟩
        -- a change sets flags and clears none
        · obtain rfl := Option.some.inj hafter
          obtain rfl := Option.some.inj (hq.symm.trans hbefore)
          rcases hclears with ⟨-, hd⟩ | ⟨hp, hp'⟩ | ⟨hc, hc'⟩
          · cases hd
          · rw [PlayerRepositoryRecord.change, hp] at hp'
            cases hp'
          · rw [PlayerRepositoryRecord.change, hc] at hc'
            cases hc'
        -- conversely, `last_dirty_ms` is set only if the clock does not read 0
        · have hclean := (htrue q _ hw.self hl).clean
          exact absurd (hclean.mpr hnow) Bool.noConfusion
      · refine exact_of_same hs ?_ (ha.mpr fun h => ?_)
        · have hsame : (s.step i).repository = s.repository := by
            rw [hrepository]
            simp [PlayerRepository.changeData, hq, hl]
          cases hstep : s.step i
          simp_all
        · simp [PlayerRepository.isLoaded, hq, hl] at h

theorem exact_flush (hs : s.Sound) {stored : Result} : Exact s ⟨.flushPlayer q stored, nowMs⟩ := by
  cases hq : s.repository.players q with
  | none =>
      refine exact_of_same hs ?_ trivial
      simp [step, PlayerRepository.apply, PlayerRepository.flushPlayer, PlayerRepository.flushEnter,
        recordStored, hq]
  | some record =>
      by_cases hl : record.loaded = true
      -- a flush that succeeds clears the flags, and it is the one call that may
      · by_cases hok : stored.ok = true
        · have hw : Writes s (s.step ⟨.flushPlayer q stored, nowMs⟩) q (some (record.markFlushed nowMs)) := by
            constructor
            · simp [step, PlayerRepository.apply, PlayerRepository.flushPlayer, PlayerRepository.flushEnter,
                PlayerRepository.flushLeave, hq, hl, hok]
            · intro p hp
              simp [step, PlayerRepository.flushEnter, recordStored, hq, hl, hok, Function.update_of_ne hp]
          have hstored : (s.step ⟨.flushPlayer q stored, nowMs⟩).stored q = some record.data := by
            simp [step, PlayerRepository.flushEnter, recordStored, hq, hl, hok]
          refine hw.exact hs (fun _ r hr => ?_) (fun _ _ _ _ _ _ => ⟨stored, rfl, hok⟩) fun _ _ => trivial
          obtain rfl := Option.some.inj hr
          rw [hstored]
          exact ⟨fun _ => ⟨fun h => (by cases h), fun h => (by cases h), ⟨fun _ => rfl, fun _ => rfl⟩,
            fun _ => rfl⟩, fun hno => absurd hl (by simpa [PlayerRepositoryRecord.markFlushed] using hno)⟩
        -- a refused flush leaves the record as it was, and nothing is stored
        · have hw : Writes s (s.step ⟨.flushPlayer q stored, nowMs⟩) q (some record) := by
            constructor
            · have hself : Function.update s.repository.players q (some record) = s.repository.players := by
                rw [← hq, Function.update_eq_self]
              simp [step, PlayerRepository.apply, PlayerRepository.flushPlayer, PlayerRepository.flushEnter,
                PlayerRepository.flushLeave, hq, hl, hok, hself]
            · intro p _
              simp [step, PlayerRepository.flushEnter, recordStored, hq, hl, hok]
          have hstored : (s.step ⟨.flushPlayer q stored, nowMs⟩).stored q = s.stored q := by
            simp [step, PlayerRepository.flushEnter, recordStored, hq, hl, hok]
          refine hw.exact hs (fun _ r hr => ?_) (fun _ before after hbefore hafter hclears => ?_)
            fun _ _ => trivial
          · obtain rfl := Option.some.inj hr
            rw [hstored]
            exact hs q record hq
          · obtain rfl := Option.some.inj hafter
            obtain rfl := Option.some.inj (hq.symm.trans hbefore)
            exact absurd hclears (not_clears_self record)
      -- a record that is not loaded is not flushed
      · refine exact_of_same hs ?_ trivial
        simp [step, PlayerRepository.apply, PlayerRepository.flushPlayer, PlayerRepository.flushEnter,
          recordStored, hq, hl]

theorem exact_release (hs : s.Sound) : Exact s ⟨.releasePlayer q, nowMs⟩ := by
  have hw : Writes s (s.step ⟨.releasePlayer q, nowMs⟩) q none := by
    refine ⟨?_, fun p _ => rfl⟩
    cases hq : s.repository.players q with
    | none =>
        have hself : Function.update s.repository.players q none = s.repository.players := by
          rw [← hq, Function.update_eq_self]
        simp [step, PlayerRepository.apply, PlayerRepository.release, hq, hself]
    | some record => simp [step, PlayerRepository.apply, PlayerRepository.release, hq]
  exact hw.exact hs (fun _ r hr => by cases hr) (fun _ _ _ _ hafter => by cases hafter) fun _ _ => trivial

/-- **Every call is exact.** -/
theorem exact_call (hs : s.Sound) (i : RepositoryInput) : Exact s i := by
  obtain ⟨call, nowMs⟩ := i
  cases call with
  | loadPlayer q allow got =>
      cases got with
      | found value =>
          cases value with
          | message data => exact exact_found hs
          | corrupt parsed => exact exact_corrupt hs
      | failed message => exact exact_failed hs
  | touchLogin q => exact exact_change hs rfl rfl Iff.rfl
  | setDisplayName q displayName => exact exact_change hs rfl rfl Iff.rfl
  | flushPlayer q stored => exact exact_flush hs
  | releasePlayer q => exact exact_release hs

/-! ## Every sequence of calls -/

theorem sound_empty : Sound {} := by
  intro p record h
  cases h

/-- **The flags tell the truth.** Take any sequence of calls on any players, with any answers of the
storage and any clock. Every loaded record has truthful flags after every call, and no flag is cleared but
by a flush that was stored, if and only if every call comes in a state that admits it. -/
theorem flags_truthful (inputs : List RepositoryInput) :
    Always step FlagsTrue {} inputs ∧ Admitted step FlagsKept {} inputs ↔ Admitted step Admits {} inputs := by
  have hsteps : Always step FlagsTrue {} inputs ∧ Admitted step FlagsKept {} inputs ↔
      Admitted step (fun s i => (s.step i).FlagsTrue ∧ s.FlagsKept i) {} inputs := by
    rw [always_iff_steps]
    constructor
    · exact fun h past i hpast => ⟨h.1.2 past i hpast, h.2 past i hpast⟩
    · exact fun h => ⟨⟨sound_empty.flagsTrue, fun past i hpast => (h past i hpast).1⟩,
        fun past i hpast => (h past i hpast).2⟩
  rw [hsteps]
  exact admitted_iff_admitted sound_empty (fun s i hs => (exact_call hs i).iff)
    fun s i hs => (exact_call hs i).sound

/-! ### A record that is loaded twice -/

/-- Player 7 is created while MariaDB is away, and loaded again when MariaDB is back and has no row. -/
def createdTwice : List RepositoryInput :=
  [⟨.loadPlayer 7 true (.failed mariaUnavailable), 1⟩, ⟨.loadPlayer 7 false (.failed "not found"), 2⟩]

/-- Player 7 is loaded, and a second load finds bytes that do not parse. -/
def garbledReload : List RepositoryInput :=
  [⟨.loadPlayer 7 false (.found (.message { core := { level := 9 } })), 1⟩,
    ⟨.loadPlayer 7 false (.found (.corrupt {})), 2⟩]

/-- The second load clears `created_without_maria`; a failing one leaves a clean record with data that
is not in storage. -/
theorem flags_untrue :
    ¬ (Always step FlagsTrue {} createdTwice ∧ Admitted step FlagsKept {} createdTwice) ∧
    ¬ (Always step FlagsTrue {} garbledReload ∧ Admitted step FlagsKept {} garbledReload) := by
  refine ⟨fun h => ?_, fun h => ?_⟩
  · obtain ⟨stored, hcall, -⟩ := h.2 [⟨.loadPlayer 7 true (.failed mariaUnavailable), 1⟩]
      ⟨.loadPlayer 7 false (.failed "not found"), 2⟩ List.prefix_rfl 7 _ _ rfl rfl (.inr (.inr ⟨rfl, rfl⟩))
    cases hcall
  · have hdata := (h.1 garbledReload List.prefix_rfl 7 _ rfl rfl).data rfl
    revert hdata
    decide

end TrackedRepository

end SomeServer
