/-
# SomeServer.Fleet.Directory — account ids over a shared Redis

`DirectoryView` is the part of a fleet that decides which id an account gets: the directory keys in
Redis, the entries each game has cached, and a log of the answers given so far. `DirectoryStep` is an
abstract account of what one section may do to it, and the invariants are proved from it alone:

* agreement: whatever was cached or answered for a key is what the key's entry in Redis says, and an
  entry is made once;
* distinctness: every id in use is at most the shared counter, so an id taken from the counter is new.

`exec_step` shows that every section of the fleet is such a step, as long as no call takes an id from
its local counter. Distinctness needs one thing more: that a reset of the shared counter is executed
only while the counter still needs it (`ResetsFresh`).
-/
import SomeServer.Fleet.World
import SomeServer.Game.Footprint
import SomeServer.Game.Steps

namespace SomeServer

open Lib Lib.Decimal

/-! ## The view -/

/-- One answer of the directory: a `ResolveOrCreate`, or a `Lookup` that found an id. -/
structure Answered where
  key : String
  playerId : PlayerId
  created : Bool
deriving DecidableEq, Repr

/-- The history of the directory: the answers, the id each thread has taken from the counter and not
yet used, and the entry that each thread has made and not yet reported. -/
structure DirectoryLog (H : Type) where
  answers : List Answered := []
  holding : H → Option PlayerId := fun _ => none
  owed : String → Option H := fun _ => none

structure DirectoryView (G H : Type) where
  entries : String → Option RedisValue
  counter : Option RedisValue
  cached : G → String → Option PlayerId
  log : DirectoryLog H

/-- The number a counter stands for: `std::stoll` of its text. -/
def counterValue : Option RedisValue → Option Int
  | some (.text text) => stoll text
  | some .other => none
  | none => none

/-- A player id as the signed number the counter had when it was issued. -/
def counterOf (playerId : PlayerId) : Int := playerId.toBitVec.toInt

theorem counterOf_castPlayerId {n : Int} (hlo : -(2 ^ 63) ≤ n) (hhi : n < 2 ^ 63) :
    counterOf (castPlayerId n) = n := by
  unfold counterOf castPlayerId UInt64.ofInt
  have hbits : (UInt64.ofNat (n % 2 ^ 64).toNat).toBitVec = BitVec.ofInt 64 n := by
    apply BitVec.eq_of_toNat_eq
    simp
    omega
  rw [hbits, BitVec.toInt_ofInt]
  exact Int.bmod_eq_of_le (by omega) (by omega)

namespace DirectoryLog

variable {H : Type}

def answer (log : DirectoryLog H) (answered : Answered) : DirectoryLog H :=
  { log with answers := answered :: log.answers }

/-- How often the entry of a key was reported as newly created. -/
def createdCount (log : DirectoryLog H) (key : String) : Nat :=
  (log.answers.filter fun a => a.key = key && a.created).length

end DirectoryLog

namespace DirectoryView

variable {G H : Type}

/-- The entry of `key` in Redis is a text that reads as `playerId`. -/
def Names (v : DirectoryView G H) (key : String) (playerId : PlayerId) : Prop :=
  ∃ text, v.entries key = some (.text text) ∧ stoull text = some playerId

/-- The shared counter has passed this id. -/
def Issued (v : DirectoryView G H) (playerId : PlayerId) : Prop :=
  ∃ c, counterValue v.counter = some c ∧ counterOf playerId ≤ c

/-- Agreement. -/
structure Agree (v : DirectoryView G H) : Prop where
  cached : ∀ g key playerId, v.cached g key = some playerId → v.Names key playerId
  answered : ∀ a ∈ v.log.answers, v.Names a.key a.playerId
  absent : ∀ key, v.entries key = none → v.log.owed key = none ∧ v.log.createdCount key = 0
  owed : ∀ key t, v.log.owed key = some t → v.log.createdCount key = 0
  once : ∀ key, v.log.createdCount key ≤ 1

/-- Distinctness. -/
structure Distinct (v : DirectoryView G H) : Prop where
  stored : ∀ key value, v.entries key = some value →
    ∃ playerId : PlayerId, value = .text playerId.toNat.repr ∧ v.Issued playerId
  injective : ∀ key key' value, v.entries key = some value → v.entries key' = some value →
    key = key'
  held : ∀ t playerId, v.log.holding t = some playerId → v.Issued playerId
  heldOnce : ∀ t u playerId, v.log.holding t = some playerId → v.log.holding u = some playerId →
    t = u
  heldNew : ∀ t playerId key, v.log.holding t = some playerId →
    v.entries key ≠ some (.text playerId.toNat.repr)

/-- Answers for one key name one id. -/
theorem Agree.sameId {v : DirectoryView G H} (h : v.Agree) {a b : Answered} (ha : a ∈ v.log.answers)
    (hb : b ∈ v.log.answers) (hkey : a.key = b.key) : a.playerId = b.playerId := by
  obtain ⟨text, ht, hr⟩ := h.answered a ha
  obtain ⟨text', ht', hr'⟩ := h.answered b hb
  rw [hkey, ht', Option.some.injEq, RedisValue.text.injEq] at ht
  rw [ht, hr, Option.some.injEq] at hr'
  exact hr'

/-- Answers with one id are for one key. -/
theorem Agree.sameKey {v : DirectoryView G H} (h : v.Agree) (hd : v.Distinct) {a b : Answered}
    (ha : a ∈ v.log.answers) (hb : b ∈ v.log.answers) (hid : a.playerId = b.playerId) : a.key = b.key := by
  obtain ⟨text, ht, hr⟩ := h.answered a ha
  obtain ⟨text', ht', hr'⟩ := h.answered b hb
  obtain ⟨p, hp, -⟩ := hd.stored a.key _ ht
  obtain ⟨q, hq, -⟩ := hd.stored b.key _ ht'
  rw [RedisValue.text.inj hp, stoull_toNat, Option.some.injEq] at hr
  rw [RedisValue.text.inj hq, stoull_toNat, Option.some.injEq] at hr'
  refine hd.injective a.key b.key _ ht ?_
  rw [ht', hq, hp, hr, hr', hid]

/-! ## Abstract steps -/

variable [DecidableEq G] [DecidableEq H]

/-- What one section of thread `t` may do to the directory. The conditions on the counter and on the
held id are asked for only when `strict`. -/
inductive Step (strict : Prop) (t : H) (v : DirectoryView G H) : DirectoryView G H → Prop where
  | idle : Step strict t v v
  | cachedAnswer (key : String) (playerId : PlayerId) (hnames : v.Names key playerId) :
      Step strict t v { v with log := v.log.answer ⟨key, playerId, false⟩ }
  | counter (counter : Option RedisValue)
      (hmono : strict → ∀ c, counterValue v.counter = some c →
        ∃ c', counterValue counter = some c' ∧ c ≤ c') :
      Step strict t v { v with counter }
  | issue (counter : Option RedisValue) (playerId : PlayerId)
      (hvalue : strict → counterValue counter = some (counterOf playerId))
      (hnew : strict → ∀ c, counterValue v.counter = some c → c < counterOf playerId) :
      Step strict t v
        { v with
          counter
          log := { v.log with holding := Function.update v.log.holding t (some playerId) } }
  | unhold :
      Step strict t v
        { v with log := { v.log with holding := Function.update v.log.holding t none } }
  | create (key : String) (playerId : PlayerId) (reported : Bool) (habsent : v.entries key = none)
      (hheld : strict → v.log.holding t = some playerId) :
      Step strict t v
        { v with
          entries := Function.update v.entries key (some (.text playerId.toNat.repr))
          log := { v.log with
            holding := Function.update v.log.holding t none
            owed := if reported then Function.update v.log.owed key (some t) else v.log.owed } }
  | remember (g : G) (cached : String → Option PlayerId) (key : String)
      (resolved : PlayerDirectoryResolveResult)
      (hcached : ∀ k p, cached k = some p → v.cached g k = some p ∨
        (k = key ∧ p = resolved.playerId))
      (hnames : v.Names key resolved.playerId)
      (howed : resolved.created = true → v.log.owed key = some t) :
      Step strict t v
        { v with
          cached := Function.update v.cached g cached
          log := { v.log.answer ⟨key, resolved.playerId, resolved.created⟩ with
            owed := if resolved.created then Function.update v.log.owed key none
              else v.log.owed } }

variable {strict : Prop} {t : H} {v v' : DirectoryView G H}

/-- Entries of Redis are never changed or removed. -/
theorem Step.entries_mono (h : Step strict t v v') {key : String} {value : RedisValue}
    (hv : v.entries key = some value) : v'.entries key = some value := by
  cases h with
  | create key' playerId reported habsent hheld =>
      have hne : key ≠ key' := by
        rintro rfl
        rw [habsent] at hv
        cases hv
      simpa [Function.update_of_ne hne] using hv
  | _ => exact hv

theorem Step.names (h : Step strict t v v') {key : String} {playerId : PlayerId}
    (hn : v.Names key playerId) : v'.Names key playerId := by
  obtain ⟨text, ht, hr⟩ := hn
  exact ⟨text, h.entries_mono ht, hr⟩

/-- What the other threads keep: their held id and the entries they have to report. -/
theorem Step.other (h : Step strict t v v') (hagree : v.Agree) {u : H} (hu : u ≠ t) :
    v'.log.holding u = v.log.holding u ∧
      ∀ key, v.log.owed key = some u → v'.log.owed key = some u := by
  cases h with
  | idle | cachedAnswer key playerId hnames | counter counter hmono => exact ⟨rfl, fun _ h => h⟩
  | issue counter playerId hvalue hnew =>
      exact ⟨Function.update_of_ne hu _ _, fun _ h => h⟩
  | unhold => exact ⟨Function.update_of_ne hu _ _, fun _ h => h⟩
  | create key playerId reported habsent hheld =>
      refine ⟨Function.update_of_ne hu _ _, ?_⟩
      intro key' howed
      dsimp only
      split
      · have hne : key' ≠ key := by
          rintro rfl
          rw [(hagree.absent key' habsent).1] at howed
          cases howed
        rwa [Function.update_of_ne hne]
      · exact howed
  | remember g cached key resolved hcached hnames howed =>
      refine ⟨rfl, ?_⟩
      intro key' howed'
      dsimp only
      split
      · rename_i hcreated
        have hne : key' ≠ key := by
          rintro rfl
          rw [howed hcreated] at howed'
          exact hu (Option.some.inj howed').symm
        rwa [Function.update_of_ne hne]
      · exact howed'

omit [DecidableEq H] in
theorem createdCount_answer (log : DirectoryLog H) (a : Answered) (key : String) :
    (log.answer a).createdCount key =
      log.createdCount key + if a.key = key ∧ a.created = true then 1 else 0 := by
  unfold DirectoryLog.createdCount DirectoryLog.answer
  by_cases h : a.key = key ∧ a.created = true <;> simp [h]

omit [DecidableEq G] in
/-- A new entry is owed to nobody but its creator, and has not been reported. -/
theorem Agree.create {key : String} {playerId : PlayerId} {reported : Bool} (hI : v.Agree)
    (habsent : v.entries key = none)
    (hv' : v' = { v with
      entries := Function.update v.entries key (some (.text playerId.toNat.repr))
      log := { v.log with
        holding := Function.update v.log.holding t none
        owed := if reported then Function.update v.log.owed key (some t) else v.log.owed } })
    (hnames : ∀ {key playerId}, v.Names key playerId → v'.Names key playerId) : v'.Agree := by
  subst hv'
  refine ⟨fun g key' p hc => hnames (hI.cached g key' p hc),
    fun a ha => hnames (hI.answered a ha), ?_, ?_, hI.once⟩
  · intro key' habsent'
    have hne : key' ≠ key := by
      rintro rfl
      simp at habsent'
    dsimp only at habsent' ⊢
    rw [Function.update_of_ne hne] at habsent'
    refine ⟨?_, (hI.absent key' habsent').2⟩
    split
    · rw [Function.update_of_ne hne]
      exact (hI.absent key' habsent').1
    · exact (hI.absent key' habsent').1
  · intro key' u howed
    dsimp only at howed
    split at howed
    · by_cases hk : key' = key
      · subst hk
        exact (hI.absent key' habsent).2
      · rw [Function.update_of_ne hk] at howed
        exact hI.owed key' u howed
    · exact hI.owed key' u howed

omit [DecidableEq H] in
/-- An answer is one of the entry, and reports it as new only if that is still owed. -/
theorem Agree.remember {g : G} {cached : String → Option PlayerId} {key : String}
    {resolved : PlayerDirectoryResolveResult} (hI : v.Agree)
    (hcached : ∀ k p, cached k = some p → v.cached g k = some p ∨ (k = key ∧ p = resolved.playerId))
    (hn : v.Names key resolved.playerId) (howed : resolved.created = true → v.log.owed key = some t)
    (hv' : v' = { v with
      cached := Function.update v.cached g cached
      log := { v.log.answer ⟨key, resolved.playerId, resolved.created⟩ with
        owed := if resolved.created then Function.update v.log.owed key none else v.log.owed } }) : v'.Agree := by
  subst hv'
  -- an entry that names somebody is there
  have hpresent : v.entries key ≠ none := by
    obtain ⟨text, ht, -⟩ := hn
    rw [ht]
    exact Option.some_ne_none _
  refine ⟨?_, ?_, ?_, ?_, ?_⟩
  · intro g' key' p hc
    by_cases hg : g' = g
    · subst hg
      simp only [Function.update_self] at hc
      rcases hcached key' p hc with hold | ⟨rfl, rfl⟩
      · exact hI.cached g' key' p hold
      · exact hn
    · simp only [Function.update_of_ne hg] at hc
      exact hI.cached g' key' p hc
  · intro a ha
    rcases List.mem_cons.mp ha with rfl | ha
    · exact hn
    · exact hI.answered a ha
  · intro key' habsent
    have hne : key ≠ key' := by
      rintro rfl
      exact hpresent habsent
    obtain ⟨ho, hc⟩ := hI.absent key' habsent
    refine ⟨?_, ?_⟩
    · dsimp only
      split
      · rwa [Function.update_of_ne (Ne.symm hne)]
      · exact ho
    · show (v.log.answer _).createdCount key' = 0
      rw [createdCount_answer, hc]
      simp [hne]
  · intro key' u ho
    show (v.log.answer _).createdCount key' = 0
    dsimp only at ho
    rw [createdCount_answer]
    by_cases hcr : resolved.created = true
    · rw [if_pos hcr] at ho
      by_cases hk : key' = key
      · subst hk
        simp at ho
      · rw [Function.update_of_ne hk] at ho
        rw [hI.owed key' u ho]
        simp [Ne.symm hk]
    · rw [if_neg hcr] at ho
      rw [hI.owed key' u ho]
      simp [hcr]
  · intro key'
    show (v.log.answer _).createdCount key' ≤ 1
    rw [createdCount_answer]
    -- reported as new for the first time, since it was still owed
    by_cases hcr : key = key' ∧ resolved.created = true
    · obtain ⟨rfl, hcr⟩ := hcr
      rw [hI.owed key t (howed hcr)]
      simp [hcr]
    · rw [if_neg hcr]
      exact hI.once key'

/-- Every abstract step keeps agreement. -/
theorem Agree.step (hI : v.Agree) (h : Step strict t v v') : v'.Agree := by
  have hnames := fun {key playerId} (hn : v.Names key playerId) => h.names hn
  cases h with
  | idle => exact hI
  | cachedAnswer key playerId hn =>
      have hcount : ∀ key', (v.log.answer ⟨key, playerId, false⟩).createdCount key' =
          v.log.createdCount key' := by
        intro key'
        simp [createdCount_answer]
      refine ⟨hI.cached, ?_, ?_, ?_, ?_⟩
      · intro a ha
        rcases List.mem_cons.mp ha with rfl | ha
        · exact hn
        · exact hI.answered a ha
      · intro key' habsent
        exact ⟨(hI.absent key' habsent).1, by rw [hcount]; exact (hI.absent key' habsent).2⟩
      · intro key' u howed
        rw [hcount]
        exact hI.owed key' u howed
      · intro key'
        rw [hcount]
        exact hI.once key'
  | counter counter hmono => exact ⟨hI.cached, hI.answered, hI.absent, hI.owed, hI.once⟩
  | issue counter playerId hvalue hnew =>
      exact ⟨hI.cached, hI.answered, hI.absent, hI.owed, hI.once⟩
  | unhold => exact ⟨hI.cached, hI.answered, hI.absent, hI.owed, hI.once⟩
  | create key playerId reported habsent hheld =>
      exact hI.create habsent rfl hnames
  | remember g cached key resolved hcached hn howed =>
      exact hI.remember hcached hn howed rfl

/-- What the counter has passed, it has passed for good. -/
theorem Step.issued (h : Step True t v v') {playerId : PlayerId} (hi : v.Issued playerId) :
    v'.Issued playerId := by
  obtain ⟨c, hc, hle⟩ := hi
  cases h with
  | counter counter hmono =>
      obtain ⟨c', hc', hcc⟩ := hmono trivial c hc
      exact ⟨c', hc', Int.le_trans hle hcc⟩
  | issue counter p hvalue hnew =>
      exact ⟨counterOf p, hvalue trivial, Int.le_trans hle (Int.le_of_lt (hnew trivial c hc))⟩
  | _ => exact ⟨c, hc, hle⟩

/-- A thread that still holds an id after `t` has let its own go is another thread. -/
theorem holding_of_unhold {f : H → Option PlayerId} {u : H} {p : PlayerId}
    (h : Function.update f t none u = some p) : u ≠ t ∧ f u = some p := by
  by_cases hu : u = t
  · subst hu
    simp at h
  · exact ⟨hu, by simpa [Function.update_of_ne hu] using h⟩

theorem toNat_repr_inj {p q : PlayerId} (h : p.toNat.repr = q.toNat.repr) : p = q :=
  UInt64.toNat_inj.mp (repr_injective h)

omit [DecidableEq G] in
/-- An id that the counter issues is nobody's yet. -/
theorem Distinct.issue {counter : Option RedisValue} {playerId : PlayerId} (hI : v.Distinct)
    (hvalue : counterValue counter = some (counterOf playerId))
    (hnew : ∀ c, counterValue v.counter = some c → c < counterOf playerId)
    (hv' : v' = { v with
      counter
      log := { v.log with holding := Function.update v.log.holding t (some playerId) } })
    (hissued : ∀ {playerId}, v.Issued playerId → v'.Issued playerId) : v'.Distinct := by
  subst hv'
  -- the id is above everything that was issued before
  have hfresh : ¬ v.Issued playerId := by
    rintro ⟨c, hc, hle⟩
    exact absurd (hnew c hc) (Int.not_lt.mpr hle)
  refine ⟨?_, hI.injective, ?_, ?_, ?_⟩
  · intro key value hv
    obtain ⟨p, hp, hi⟩ := hI.stored key value hv
    exact ⟨p, hp, hissued hi⟩
  · intro u p hu
    by_cases hut : u = t
    · subst hut
      simp only [Function.update_self, Option.some.injEq] at hu
      subst hu
      exact ⟨counterOf playerId, hvalue, Int.le_refl _⟩
    · simp only [Function.update_of_ne hut] at hu
      exact hissued (hI.held u p hu)
  · intro u w p hu hw
    by_cases hut : u = t <;> by_cases hwt : w = t
    · rw [hut, hwt]
    · subst hut
      simp only [Function.update_self, Option.some.injEq, Function.update_of_ne hwt] at hu hw
      subst hu
      exact absurd (hI.held w playerId hw) hfresh
    · subst hwt
      simp only [Function.update_self, Option.some.injEq, Function.update_of_ne hut] at hu hw
      subst hw
      exact absurd (hI.held u playerId hu) hfresh
    · simp only [Function.update_of_ne hut, Function.update_of_ne hwt] at hu hw
      exact hI.heldOnce u w p hu hw
  · intro u p key hu hstored
    by_cases hut : u = t
    · subst hut
      simp only [Function.update_self, Option.some.injEq] at hu
      subst hu
      obtain ⟨q, hq, hi⟩ := hI.stored key _ hstored
      rw [toNat_repr_inj (RedisValue.text.inj hq)] at hfresh
      exact hfresh hi
    · simp only [Function.update_of_ne hut] at hu
      exact hI.heldNew u p key hu hstored

omit [DecidableEq G] in
/-- An entry gets the id that its creator holds, and nobody else does. -/
theorem Distinct.create {key : String} {playerId : PlayerId} {reported : Bool} (hI : v.Distinct)
    (hid : v.log.holding t = some playerId)
    (hv' : v' = { v with
      entries := Function.update v.entries key (some (.text playerId.toNat.repr))
      log := { v.log with
        holding := Function.update v.log.holding t none
        owed := if reported then Function.update v.log.owed key (some t) else v.log.owed } })
    (hissued : ∀ {playerId}, v.Issued playerId → v'.Issued playerId) : v'.Distinct := by
  subst hv'
  refine ⟨?_, ?_, ?_, ?_, ?_⟩
  · intro key' value hv
    by_cases hk : key' = key
    · subst hk
      simp only [Function.update_self, Option.some.injEq] at hv
      exact ⟨playerId, hv.symm, hissued (hI.held t playerId hid)⟩
    · simp only [Function.update_of_ne hk] at hv
      obtain ⟨p, hp, hi⟩ := hI.stored key' value hv
      exact ⟨p, hp, hissued hi⟩
  · intro k k' value hv hv'
    by_cases hk : k = key <;> by_cases hk' : k' = key
    · rw [hk, hk']
    -- the old entry cannot have the new id, which nobody has used
    · subst hk
      simp only [Function.update_self, Option.some.injEq, Function.update_of_ne hk'] at hv hv'
      subst hv
      exact absurd hv' (hI.heldNew t playerId k' hid)
    · subst hk'
      simp only [Function.update_self, Option.some.injEq, Function.update_of_ne hk] at hv hv'
      subst hv'
      exact absurd hv (hI.heldNew t playerId k hid)
    · simp only [Function.update_of_ne hk, Function.update_of_ne hk'] at hv hv'
      exact hI.injective k k' value hv hv'
  · exact fun u p hu => hissued (hI.held u p (holding_of_unhold hu).2)
  · exact fun u w p hu hw =>
      hI.heldOnce u w p (holding_of_unhold hu).2 (holding_of_unhold hw).2
  · intro u p k hu hv
    obtain ⟨hut, hold⟩ := holding_of_unhold hu
    by_cases hk : k = key
    · subst hk
      simp only [Function.update_self, Option.some.injEq, RedisValue.text.injEq] at hv
      have hp := toNat_repr_inj hv
      subst hp
      exact hut (hI.heldOnce u t playerId hold hid)
    · simp only [Function.update_of_ne hk] at hv
      exact hI.heldNew u p k hold hv

/-- Every strict step keeps distinctness. -/
theorem Distinct.step (hI : v.Distinct) (h : Step True t v v') : v'.Distinct := by
  have hissued := fun {playerId} (hi : v.Issued playerId) => h.issued hi
  cases h with
  | idle => exact hI
  | cachedAnswer key playerId hn =>
      exact ⟨hI.stored, hI.injective, hI.held, hI.heldOnce, hI.heldNew⟩
  | counter counter hmono =>
      refine ⟨?_, hI.injective, fun u p hu => hissued (hI.held u p hu), hI.heldOnce, hI.heldNew⟩
      intro key value hv
      obtain ⟨p, hp, hi⟩ := hI.stored key value hv
      exact ⟨p, hp, hissued hi⟩
  | issue counter playerId hvalue hnew =>
      exact hI.issue (hvalue trivial) (hnew trivial) rfl hissued
  | unhold =>
      exact ⟨hI.stored, hI.injective, fun u p hu => hI.held u p (holding_of_unhold hu).2,
        fun u w p hu hw => hI.heldOnce u w p (holding_of_unhold hu).2 (holding_of_unhold hw).2,
        fun u p key hu => hI.heldNew u p key (holding_of_unhold hu).2⟩
  | create key playerId reported habsent hheld =>
      exact hI.create (hheld trivial) rfl hissued
  | remember g cached key resolved hcached hn howed =>
      exact ⟨hI.stored, hI.injective, hI.held, hI.heldOnce, hI.heldNew⟩

end DirectoryView

end SomeServer
