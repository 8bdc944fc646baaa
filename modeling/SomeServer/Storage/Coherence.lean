/-
# SomeServer.Storage.Coherence — the Redis copy of a dataset and its MariaDB rows

A write of a dataset is a MariaDB statement and then a Redis command, and a read that misses Redis is a
`SELECT` and then a Redis command. In between, the client owes Redis a value (`pending`). The copy of a
key may differ from the row only while somebody owes it; so the two agree once nobody does, provided
that a Redis command that fails had nothing to correct, and that no row is written while another client
owes Redis its value.

Both conditions are needed: at the end are a run of one client in which one `SET` fails, and a run of
two clients in which nothing does.
-/
import SomeServer.Storage.Dataset

namespace SomeServer

open Lib

variable {V T : Type} [DecidableEq T]

/-- The history of a dataset: what each client still has to write to Redis (`none` for a deletion), and
the outcome of the last successful write of each key. -/
structure DatasetLog (V T : Type) where
  pending : T → Option (String × Option V) := fun _ => none
  last : String → Option (Option V) := fun _ => none

namespace DatasetLog

/-- A row was written: the value is the key's last one, and the client owes it to Redis. -/
def wrote (t : T) (key : String) (value : Option V) (log : DatasetLog V T) : DatasetLog V T where
  pending := Function.update log.pending t (some (key, value))
  last := Function.update log.last key (some value)

/-- What one statement or command adds to the history. -/
def record (t : T) : (a : DatasetAct V) → a.Reply → DatasetLog V T → DatasetLog V T
  | .insert key value, r, log => if r.ok then log.wrote t key (some value) else log
  | .delete key, r, log => if r.ok then log.wrote t key none else log
  | .select key, r, log =>
      match r.2 with
      | none => log
      | some value => { log with pending := Function.update log.pending t (some (key, some value)) }
  | .redisSet _ _, _, log => { log with pending := Function.update log.pending t none }
  | .redisDelete _, _, log => { log with pending := Function.update log.pending t none }
  | _, _, log => log

end DatasetLog

namespace DatasetStores

/-- The stores with their history. -/
def logMachine (V T : Type) [DecidableEq T] :
    Machine T (DatasetAct V) DatasetAct.Reply DatasetInput (DatasetStores V × DatasetLog V T) :=
  (machine V T).withHistory fun t a _ _ _ r log => log.record t a r

/-! ## The conditions on a run -/

/-- The client `t` writes no row of a key that another client owes to Redis. -/
def Exclusive (t : T) (a : DatasetAct V) (s : DatasetStores V × DatasetLog V T) : Prop :=
  match a with
  | .insert key _ => ∀ u w, u ≠ t → s.2.pending u ≠ some (key, w)
  | .delete key => ∀ u w, u ≠ t → s.2.pending u ≠ some (key, w)
  | _ => True

/-- A Redis command that fails would have changed nothing, except that a `SET` may find no copy. -/
def HarmlessFailure (a : DatasetAct V) (i : DatasetInput) (s : DatasetStores V) : Prop :=
  match a with
  | .redisSet key value => i.fate ≠ .executed → s.cache key = none ∨ s.cache key = some value
  | .redisDelete key => i.fate ≠ .executed → s.cache key = none
  | _ => True

/-- The moves of the runs to be considered. -/
def coherentGuard {α : Type}
    (c : Pool T (DatasetOp V) (DatasetAct V) DatasetAct.Reply α (DatasetStores V × DatasetLog V T)) :
    Move T (DatasetOp V) DatasetInput → Prop
  | .start _ _ => True
  | .act t i => ∀ a, c.pending t = some a → Exclusive t a c.shared ∧ HarmlessFailure a i c.shared.1

/-! ## The invariant -/

structure Coherent (s : DatasetStores V × DatasetLog V T) : Prop where
  owed : ∀ t key w, s.2.pending t = some (key, w) → s.1.rows key = w
  cached : ∀ key, s.1.cache key = none ∨ s.1.cache key = s.1.rows key ∨
    ∃ t w, s.2.pending t = some (key, w)
  last : ∀ key w, s.2.last key = some w → s.1.rows key = w

/-- What the other clients leave to client `u`: what it owes, and the last write of the key it owes. -/
structure Spares (u : T) (s s' : DatasetStores V × DatasetLog V T) : Prop where
  pending : s'.2.pending u = s.2.pending u
  last : ∀ key w, s.2.pending u = some (key, w) → s'.2.last key = s.2.last key

omit [DecidableEq T] in
theorem Spares.refl (u : T) (s : DatasetStores V × DatasetLog V T) : Spares u s s :=
  ⟨rfl, fun _ _ _ => rfl⟩

omit [DecidableEq T] in
theorem Spares.trans {u : T} {s₁ s₂ s₃ : DatasetStores V × DatasetLog V T} (h : Spares u s₁ s₂)
    (h' : Spares u s₂ s₃) : Spares u s₁ s₃ where
  pending := h'.pending.trans h.pending
  last key w hp := (h'.last key w (h.pending.trans hp)).trans (h.last key w hp)

/-- The outline: a client may rely on what it owes. -/
def coherenceOutline : Outline T (DatasetOp V) (DatasetAct V) DatasetInput
    (DatasetStores V × DatasetLog V T) where
  inv := Coherent
  rest t s := s.2.pending t = none
  start _ _ _ := True
  ok t _ a i s := Exclusive t a s ∧ HarmlessFailure a i s.1
  event t _ _ _ s s' := ∀ u, u ≠ t → Spares u s s'
  rely t _ s s' := Spares t s s'
  rely_refl t _ s := .refl t s
  rely_trans _ _ _ _ _ h h' := h.trans h'
  rest_rely _ _ _ h hrest := h.pending.trans hrest

variable {t : T} {o : DatasetOp V} {a : DatasetAct V} {i : DatasetInput} {r : a.Reply}
  {s s' : DatasetStores V × DatasetLog V T} {key : String} {α : Type}
  {Q : α → DatasetStores V × DatasetLog V T → Prop}

theorem logMachine_exec (h : (logMachine V T).exec t a i s = some (s', r)) :
    s.1.exec i a = (s'.1, r) ∧ s'.2 = s.2.record t a r := by
  obtain ⟨hexec, hlog⟩ := Machine.withHistory_exec h
  exact ⟨Option.some.inj hexec, hlog⟩

/-- The rule of one statement or command. -/
theorem coherence_seq {k : a.Reply → StorageService.Call V α}
    (hk : ∀ s₁ i s₂ r, Spares t s s₁ → Coherent s₁ → Exclusive t a s₁ → HarmlessFailure a i s₁.1 →
      s₁.1.exec i a = (s₂.1, r) → s₂.2 = s₁.2.record t a r →
      (∀ u, u ≠ t → Spares u s₁ s₂) ∧ Coherent s₂ ∧
        coherenceOutline.Safe (logMachine V T) t o Q (k r) s₂) :
    coherenceOutline.Safe (logMachine V T) t o Q (StorageService.call a >>= k) s := by
  intro s₁ hrely hI i s₂ r hok hx
  obtain ⟨hexec, hlog⟩ := logMachine_exec hx
  exact hk s₁ i s₂ r hrely hI hok.1 hok.2 hexec hlog

/-- A statement or command that only reads, and of which nothing is written down. -/
theorem coherence_read {k : a.Reply → StorageService.Call V α}
    (hread : ∀ (i : DatasetInput) (s : DatasetStores V), (s.exec i a).1 = s)
    (hlog : ∀ (r : a.Reply) (log : DatasetLog V T), log.record t a r = log)
    (hk : ∀ s₁ i, Spares t s s₁ → Coherent s₁ →
      coherenceOutline.Safe (logMachine V T) t o Q (k (s₁.1.exec i a).2) s₁) :
    coherenceOutline.Safe (logMachine V T) t o Q (StorageService.call a >>= k) s := by
  refine coherence_seq fun s₁ i s₂ r hrely hI _ _ hexec hlog' => ?_
  have hsame : s₂ = s₁ := by
    refine Prod.ext ?_ (hlog'.trans (hlog r s₁.2))
    show s₂.1 = s₁.1
    rw [← congrArg Prod.fst hexec]
    exact hread i s₁.1
  subst hsame
  have hr : (s₂.1.exec i a).2 = r := congrArg Prod.snd hexec
  subst hr
  exact ⟨fun u _ => .refl u s₂, hI, hk s₂ i hrely hI⟩

theorem ensure_reads (i : DatasetInput) (s : DatasetStores V) :
    (s.exec i .ensureMariaEntriesTable).1 = s := by
  cases hf : i.fate <;> simp [exec, hf]

theorem redisGet_reads (i : DatasetInput) (s : DatasetStores V) :
    (s.exec i (.redisGet key)).1 = s := by
  cases hf : i.fate <;> cases hc : s.cache key <;> simp [exec, hf, hc]

/-! ## The three kinds of steps that are written down -/

variable {w : Option V}

/-- A client that owes nothing writes a row that nobody owes. -/
theorem write_step (hI : Coherent s) (hrest : s.2.pending t = none)
    (hexclusive : ∀ u w', u ≠ t → s.2.pending u ≠ some (key, w'))
    (hrows : s'.1.rows = Function.update s.1.rows key w) (hcache : s'.1.cache = s.1.cache)
    (hlog : s'.2 = s.2.wrote t key w) : (∀ u, u ≠ t → Spares u s s') ∧ Coherent s' := by
  have hother : ∀ u, u ≠ t → s'.2.pending u = s.2.pending u := by
    intro u hu
    rw [hlog]
    exact Function.update_of_ne hu _ _
  have hown : s'.2.pending t = some (key, w) := by
    rw [hlog]
    exact Function.update_self _ _ _
  refine ⟨fun u hu => ⟨hother u hu, ?_⟩, ?_, ?_, ?_⟩
  -- what another client owes is for another key, so the row is no news to it
  · intro k w' hk
    have hne : k ≠ key := by
      rintro rfl
      exact hexclusive u w' hu hk
    rw [hlog]
    exact Function.update_of_ne hne _ _
  · intro u k w' hk
    rw [hrows]
    by_cases hu : u = t
    · subst hu
      rw [hown] at hk
      obtain ⟨rfl, rfl⟩ := Prod.ext_iff.mp (Option.some.inj hk)
      exact Function.update_self _ _ _
    · rw [hother u hu] at hk
      have hne : k ≠ key := by
        rintro rfl
        exact hexclusive u w' hu hk
      rw [Function.update_of_ne hne]
      exact hI.owed u k w' hk
  · intro k
    -- the entry of the new row is owed for now; the others are as they were
    by_cases hk : k = key
    · subst hk
      exact .inr (.inr ⟨t, w, hown⟩)
    · rw [hcache, hrows, Function.update_of_ne hk]
      rcases hI.cached k with hnone | hsame | ⟨u, w', hu⟩
      · exact .inl hnone
      · exact .inr (.inl hsame)
      · have hne : u ≠ t := by
          rintro rfl
          rw [hrest] at hu
          cases hu
        exact .inr (.inr ⟨u, w', (hother u hne).trans hu⟩)
  · intro k w' hk
    rw [hlog] at hk
    rw [hrows]
    by_cases hkey : k = key
    · subst hkey
      have hk' : Function.update s.2.last k (some w) k = some w' := hk
      rw [Function.update_self] at hk' ⊢
      exact Option.some.inj hk'
    · have hk' : Function.update s.2.last key (some w) k = some w' := hk
      rw [Function.update_of_ne hkey] at hk' ⊢
      exact hI.last k w' hk'

/-- A client that owes nothing has read a row. -/
theorem select_step (hI : Coherent s) (hrest : s.2.pending t = none) (hrow : s.1.rows key = w)
    (hstores : s'.1 = s.1)
    (hlog : s'.2 = { s.2 with pending := Function.update s.2.pending t (some (key, w)) }) :
    (∀ u, u ≠ t → Spares u s s') ∧ Coherent s' := by
  have hother : ∀ u, u ≠ t → s'.2.pending u = s.2.pending u := by
    intro u hu
    rw [hlog]
    exact Function.update_of_ne hu _ _
  refine ⟨fun u hu => ⟨hother u hu, fun _ _ _ => by rw [hlog]⟩, ?_, ?_, ?_⟩
  · intro u k w' hk
    rw [hstores]
    by_cases hu : u = t
    · subst hu
      rw [hlog] at hk
      have hk' : Function.update s.2.pending u (some (key, w)) u = some (k, w') := hk
      rw [Function.update_self] at hk'
      obtain ⟨rfl, rfl⟩ := Prod.ext_iff.mp (Option.some.inj hk')
      exact hrow
    · rw [hother u hu] at hk
      exact hI.owed u k w' hk
  · intro k
    rw [hstores]
    rcases hI.cached k with hnone | hsame | ⟨u, w', hu⟩
    · exact .inl hnone
    · exact .inr (.inl hsame)
    · have hne : u ≠ t := by
        rintro rfl
        rw [hrest] at hu
        cases hu
      exact .inr (.inr ⟨u, w', (hother u hne).trans hu⟩)
  · intro k w' hk
    rw [hlog] at hk
    rw [hstores]
    exact hI.last k w' hk

/-- A client pays what it owes: its Redis command is executed, or it had nothing to correct. -/
theorem settle_step (hI : Coherent s) (howes : s.2.pending t = some (key, w))
    (hrows : s'.1.rows = s.1.rows)
    (hcache : s'.1.cache = Function.update s.1.cache key w ∨
      (s'.1.cache = s.1.cache ∧ (s.1.cache key = none ∨ s.1.cache key = w)))
    (hlog : s'.2 = { s.2 with pending := Function.update s.2.pending t none }) :
    (∀ u, u ≠ t → Spares u s s') ∧ Coherent s' := by
  have hother : ∀ u, u ≠ t → s'.2.pending u = s.2.pending u := by
    intro u hu
    rw [hlog]
    exact Function.update_of_ne hu _ _
  have hrow : s.1.rows key = w := hI.owed t key w howes
  refine ⟨fun u hu => ⟨hother u hu, fun _ _ _ => by rw [hlog]⟩, ?_, ?_, ?_⟩
  · intro u k w' hk
    rw [hrows]
    by_cases hu : u = t
    · subst hu
      rw [hlog] at hk
      have hk' : Function.update s.2.pending u none u = some (k, w') := hk
      rw [Function.update_self] at hk'
      cases hk'
    · rw [hother u hu] at hk
      exact hI.owed u k w' hk
  · intro k
    rw [hrows]
    by_cases hk : k = key
    · subst hk
      -- the entry is the row's now, or was, or there was none
      rcases hcache with hnew | ⟨hold, hnone | hsame⟩
      · refine .inr (.inl ?_)
        rw [hnew, Function.update_self, hrow]
      · exact .inl (by rw [hold, hnone])
      · exact .inr (.inl (by rw [hold, hsame, hrow]))
    · have hkeep : s'.1.cache k = s.1.cache k := by
        rcases hcache with hnew | ⟨hold, -⟩
        · rw [hnew, Function.update_of_ne hk]
        · rw [hold]
      rw [hkeep]
      rcases hI.cached k with hnone | hsame | ⟨u, w', hu⟩
      · exact .inl hnone
      · exact .inr (.inl hsame)
      · have hne : u ≠ t := by
          rintro rfl
          rw [howes] at hu
          exact hk (Prod.ext_iff.mp (Option.some.inj hu)).1.symm
        exact .inr (.inr ⟨u, w', (hother u hne).trans hu⟩)
  · intro k w' hk
    rw [hlog] at hk
    rw [hrows]
    exact hI.last k w' hk

/-! ## The calls -/

/-- The statement writes the row of a key, or fails and does nothing. -/
structure Writes (T : Type) [DecidableEq T] (a : DatasetAct V) (ok : a.Reply → Bool) (key : String)
    (w : Option V) : Prop where
  exclusive : ∀ (t : T) s, Exclusive t a s → ∀ u w', u ≠ t → s.2.pending u ≠ some (key, w')
  exec : ∀ i (x : DatasetStores V) x' r, x.exec i a = (x', r) →
    (ok r = false ∧ x' = x ∧ ∀ (t : T) (log : DatasetLog V T), log.record t a r = log) ∨
      (ok r = true ∧ x'.rows = Function.update x.rows key w ∧ x'.cache = x.cache ∧
        ∀ (t : T) (log : DatasetLog V T), log.record t a r = log.wrote t key w)

theorem insert_writes {value : V} : Writes T (.insert key value) Result.ok key (some value) := by
  refine ⟨fun _ _ hexclusive => hexclusive, ?_⟩
  intro i x x' r hexec
  cases hf : i.fate with
  | failed message =>
      simp only [exec, hf, Prod.mk.injEq] at hexec
      obtain ⟨rfl, rfl⟩ := hexec
      exact .inl ⟨rfl, rfl, fun _ _ => rfl⟩
  | executed =>
      simp only [exec, hf, Prod.mk.injEq] at hexec
      obtain ⟨rfl, rfl⟩ := hexec
      exact .inr ⟨rfl, rfl, rfl, fun _ _ => rfl⟩

theorem delete_writes : Writes T (.delete key : DatasetAct V) Result.ok key none := by
  refine ⟨fun _ _ hexclusive => hexclusive, ?_⟩
  intro i x x' r hexec
  cases hf : i.fate with
  | failed message =>
      simp only [exec, hf, Prod.mk.injEq] at hexec
      obtain ⟨rfl, rfl⟩ := hexec
      exact .inl ⟨rfl, rfl, fun _ _ => rfl⟩
  | executed =>
      simp only [exec, hf, Prod.mk.injEq] at hexec
      obtain ⟨rfl, rfl⟩ := hexec
      exact .inr ⟨rfl, rfl, rfl, fun _ _ => rfl⟩

/-- The rule of a statement that writes a row: from then on the client owes it. -/
theorem writes_seq {ok : a.Reply → Bool} {k : a.Reply → StorageService.Call V α} (ha : Writes T a ok key w)
    (hrest : s.2.pending t = none)
    (hfail : ∀ r s₂, ok r = false → s₂.2.pending t = none →
      coherenceOutline.Safe (logMachine V T) t o Q (k r) s₂)
    (hdone : ∀ r s₂, ok r = true → s₂.2.pending t = some (key, w) → s₂.2.last key = some w →
      coherenceOutline.Safe (logMachine V T) t o Q (k r) s₂) :
    coherenceOutline.Safe (logMachine V T) t o Q (StorageService.call a >>= k) s := by
  refine coherence_seq fun s₁ i s₂ r hrely hI hexclusive _ hexec hlog => ?_
  have hrest₁ : s₁.2.pending t = none := hrely.pending.trans hrest
  rcases ha.exec i s₁.1 s₂.1 r hexec with ⟨hno, hstores, hrecord⟩ | ⟨hok, hrows, hcache, hrecord⟩
  · have hsame : s₂ = s₁ := Prod.ext hstores (hlog.trans (hrecord t s₁.2))
    subst hsame
    exact ⟨fun u _ => .refl u s₂, hI, hfail r s₂ hno hrest₁⟩
  · have hlog₂ : s₂.2 = s₁.2.wrote t key w := hlog.trans (hrecord t s₁.2)
    obtain ⟨hspares, hI₂⟩ := write_step hI hrest₁ (ha.exclusive t s₁ hexclusive) hrows hcache hlog₂
    refine ⟨hspares, hI₂, hdone r s₂ hok ?_ ?_⟩
    · rw [hlog₂]
      exact Function.update_self _ _ _
    · rw [hlog₂]
      exact Function.update_self _ _ _

/-- The debt that a Redis command pays. -/
def pays : DatasetAct V → Option (String × Option V)
  | .redisSet key value => some (key, some value)
  | .redisDelete key => some (key, none)
  | _ => none

/-- What a Redis command makes of the stores and of the history. -/
theorem pays_step (ha : pays a = some (key, w)) (hharmless : HarmlessFailure a i s.1)
    (hexec : s.1.exec i a = (s'.1, r)) (hlog : s'.2 = s.2.record t a r) :
    s'.1.rows = s.1.rows ∧
      (s'.1.cache = Function.update s.1.cache key w ∨
        (s'.1.cache = s.1.cache ∧ (s.1.cache key = none ∨ s.1.cache key = w))) ∧
      s'.2 = { s.2 with pending := Function.update s.2.pending t none } := by
  have hcommand : (∃ value, a = .redisSet key value ∧ w = some value) ∨
      (a = .redisDelete key ∧ w = none) := by
    cases a with
    | redisSet k value =>
        obtain ⟨rfl, rfl⟩ := Prod.ext_iff.mp (Option.some.inj ha)
        exact .inl ⟨value, rfl, rfl⟩
    | redisDelete k =>
        obtain ⟨rfl, rfl⟩ := Prod.ext_iff.mp (Option.some.inj ha)
        exact .inr ⟨rfl, rfl⟩
    | _ => cases ha
  rcases hcommand with ⟨value, rfl, rfl⟩ | ⟨rfl, rfl⟩
  · refine ⟨?_, ?_, hlog⟩
    · cases hf : i.fate <;> simp only [exec, hf, Prod.ext_iff] at hexec <;> rw [← hexec.1]
    · cases hf : i.fate with
      | failed message =>
          simp only [exec, hf, Prod.ext_iff] at hexec
          exact .inr ⟨by rw [← hexec.1], hharmless (by rw [hf]; simp)⟩
      | executed =>
          simp only [exec, hf, Prod.ext_iff] at hexec
          exact .inl (by rw [← hexec.1])
  · refine ⟨?_, ?_, hlog⟩
    · cases hf : i.fate <;> simp only [exec, hf, Prod.ext_iff] at hexec <;> rw [← hexec.1]
    · cases hf : i.fate with
      | failed message =>
          simp only [exec, hf, Prod.ext_iff] at hexec
          exact .inr ⟨by rw [← hexec.1], .inl (hharmless (by rw [hf]; simp))⟩
      | executed =>
          simp only [exec, hf, Prod.ext_iff] at hexec
          exact .inl (by rw [← hexec.1])

/-- The rule of a Redis command that pays a debt. -/
theorem pays_seq {k : a.Reply → StorageService.Call V α} (ha : pays a = some (key, w))
    (howes : s.2.pending t = some (key, w))
    (hk : ∀ r s₂, s₂.2.pending t = none → s₂.1.rows key = w → s₂.2.last key = s.2.last key →
      coherenceOutline.Safe (logMachine V T) t o Q (k r) s₂) :
    coherenceOutline.Safe (logMachine V T) t o Q (StorageService.call a >>= k) s := by
  refine coherence_seq fun s₁ i s₂ r hrely hI _ hharmless hexec hlog => ?_
  have howes₁ : s₁.2.pending t = some (key, w) := hrely.pending.trans howes
  obtain ⟨hrows, hcache, hlog₂⟩ := pays_step ha hharmless hexec hlog
  obtain ⟨hspares, hI₂⟩ := settle_step hI howes₁ hrows hcache hlog₂
  refine ⟨hspares, hI₂, hk r s₂ ?_ ?_ ?_⟩
  · rw [hlog₂]
    exact Function.update_self _ _ _
  · rw [hrows]
    exact hI.owed t key w howes₁
  · rw [hlog₂]
    exact hrely.last key w howes

/-- What is shown of a finished write: the client owes nothing, and a reported success is the last write
of its key. -/
def Wrote (t : T) (key : String) (w : Option V) (r : Result)
    (s : DatasetStores V × DatasetLog V T) : Prop :=
  s.2.pending t = none ∧ (r.ok = true → s.2.last key = some w)

/-- What a write of a row does before its statement: nothing. -/
theorem prepared_safe {k : StorageService.Call V Result} (hrest : s.2.pending t = none)
    (hk : ∀ s₂, s₂.2.pending t = none → coherenceOutline.Safe (logMachine V T) t o (Wrote t key w) k s₂) :
    coherenceOutline.Safe (logMachine V T) t o (Wrote t key w)
      (do
        let maria ← StorageService.call .getMaria
        if !maria then return .failure mariaUnavailable
        if key = "" then return StorageService.emptyKey
        let ensure ← StorageService.call .ensureMariaEntriesTable
        if !ensure.ok then return ensure
        k) s := by
  refine coherence_read (fun _ _ => rfl) (fun _ _ => rfl) fun s₁ i hrely _ => ?_
  have hrest₁ := hrely.pending.trans hrest
  split
  · exact ⟨hrest₁, fun h => by cases h⟩
  · split
    · exact ⟨hrest₁, fun h => by cases h⟩
    · refine coherence_read ensure_reads (fun _ _ => rfl) fun s₂ i hrely₂ _ => ?_
      have hrest₂ := hrely₂.pending.trans hrest₁
      split
      · rename_i hfail
        exact ⟨hrest₂, fun h => by simp [h] at hfail⟩
      · exact hk s₂ hrest₂

theorem datasetPut_safe {value : V} (hrest : s.2.pending t = none) :
    coherenceOutline.Safe (logMachine V T) t o (Wrote t key (some value))
      (StorageService.datasetPut key value) s := by
  refine prepared_safe hrest fun s₂ hrest₂ => ?_
  refine writes_seq insert_writes hrest₂ (fun r s₃ hno hrest₃ => ?_) fun r s₃ hok howes hlast => ?_
  · rw [if_pos (by simp [hno])]
    exact ⟨hrest₃, fun h => by simp [h] at hno⟩
  · rw [if_neg (by simp [hok])]
    refine pays_seq rfl howes fun redis s₄ hrest₄ _ hlast₄ => ?_
    split
    · exact ⟨hrest₄, fun _ => hlast₄.trans hlast⟩
    · exact ⟨hrest₄, fun _ => hlast₄.trans hlast⟩

theorem datasetDelete_safe (hrest : s.2.pending t = none) :
    coherenceOutline.Safe (logMachine V T) t o (Wrote t key none)
      (StorageService.datasetDelete key) s := by
  refine prepared_safe hrest fun s₂ hrest₂ => ?_
  refine writes_seq delete_writes hrest₂ (fun r s₃ hno hrest₃ => ?_) fun r s₃ hok howes hlast => ?_
  · rw [if_pos (by simp [hno])]
    exact ⟨hrest₃, fun h => by simp [h] at hno⟩
  · rw [if_neg (by simp [hok])]
    refine pays_seq rfl howes fun redis s₄ hrest₄ _ hlast₄ => ?_
    split
    · exact ⟨hrest₄, fun _ => hlast₄.trans hlast⟩
    · exact ⟨hrest₄, fun _ => hlast₄.trans hlast⟩

/-- What is shown of a finished read: a value it reports is the row, unless another client owes Redis a
newer one. -/
def HasRead (t : T) (key : String) (x : Result × Option V)
    (s : DatasetStores V × DatasetLog V T) : Prop :=
  s.2.pending t = none ∧ (x.1.ok = true → ∃ value, x.2 = some value ∧
    (s.1.rows key = some value ∨ ∃ u w, s.2.pending u = some (key, w)))

omit [DecidableEq T] in
theorem HasRead.of_fail {x : Result × Option V} (hrest : s.2.pending t = none)
    (hfail : x.1.ok = false) : HasRead t key x s :=
  ⟨hrest, fun h => by simp [h] at hfail⟩

/-- The reply to a `GET`. -/
theorem redisGet_reply (i : DatasetInput) (s : DatasetStores V) :
    (s.exec i (.redisGet key)).2.1.ok = true →
      ∃ value, (s.exec i (.redisGet key)).2.2 = some value ∧ s.cache key = some value := by
  intro hok
  cases hf : i.fate with
  | failed message => simp [exec, hf] at hok
  | executed =>
      cases hc : s.cache key with
      | none => simp [exec, hf, hc] at hok
      | some value => exact ⟨value, by simp [exec, hf, hc], rfl⟩

/-- `SELECT`. -/
theorem select_seq {k : Result × Option V → StorageService.Call V α} (hrest : s.2.pending t = none)
    (hnone : ∀ message s₂, s₂.2.pending t = none →
      coherenceOutline.Safe (logMachine V T) t o Q (k (.failure message, none)) s₂)
    (hrow : ∀ value s₂, s₂.2.pending t = some (key, some value) →
      coherenceOutline.Safe (logMachine V T) t o Q (k (⟨true, "OK"⟩, some value)) s₂) :
    coherenceOutline.Safe (logMachine V T) t o Q (StorageService.call (.select key) >>= k) s := by
  refine coherence_seq fun s₁ i s₂ r hrely hI _ _ hexec hlog => ?_
  have hrest₁ : s₁.2.pending t = none := hrely.pending.trans hrest
  have hmissed : ∀ message, r = (.failure message, none) → s₂.1 = s₁.1 →
      (∀ u, u ≠ t → Spares u s₁ s₂) ∧ Coherent s₂ ∧
        coherenceOutline.Safe (logMachine V T) t o Q (k r) s₂ := by
    rintro message rfl hstores
    have hsame : s₂ = s₁ := Prod.ext hstores hlog
    subst hsame
    exact ⟨fun u _ => .refl u s₂, hI, hnone message s₂ hrest₁⟩
  cases hf : i.fate with
  | failed message =>
      simp only [exec, hf] at hexec
      exact hmissed message (congrArg Prod.snd hexec).symm (congrArg Prod.fst hexec).symm
  | executed =>
      cases hr : s₁.1.rows key with
      | none =>
          simp only [exec, hf, hr] at hexec
          exact hmissed "not found" (congrArg Prod.snd hexec).symm (congrArg Prod.fst hexec).symm
      | some value =>
          simp only [exec, hf, hr] at hexec
          obtain rfl : r = (⟨true, "OK"⟩, some value) := (congrArg Prod.snd hexec).symm
          have hstores : s₂.1 = s₁.1 := (congrArg Prod.fst hexec).symm
          obtain ⟨hspares, hI₂⟩ := select_step hI hrest₁ hr hstores hlog
          refine ⟨hspares, hI₂, hrow value s₂ ?_⟩
          have hlog₂ : s₂.2 =
            { s₁.2 with pending := Function.update s₁.2.pending t (some (key, some value)) } := hlog
          rw [hlog₂]
          exact Function.update_self _ _ _

theorem datasetGet_safe (hrest : s.2.pending t = none) :
    coherenceOutline.Safe (logMachine V T) t o (HasRead t key)
      (StorageService.datasetGet key) s := by
  unfold StorageService.datasetGet
  split
  · exact .of_fail hrest rfl
  · refine coherence_read redisGet_reads (fun _ _ => rfl) fun s₁ i hrely hI => ?_
    have hrest₁ := hrely.pending.trans hrest
    split
    · rename_i hok
      obtain ⟨value, hreply, hcached⟩ := redisGet_reply i s₁.1 hok
      refine ⟨hrest₁, fun _ => ⟨value, hreply, ?_⟩⟩
      -- the copy is the row, or somebody still has to bring it up to date
      rcases hI.cached key with hnone | hsame | howed
      · rw [hcached] at hnone
        cases hnone
      · exact .inl (hsame ▸ hcached)
      · exact .inr howed
    · split
      · rename_i hfail _
        exact .of_fail hrest₁ (by simpa using hfail)
      · refine coherence_read (fun _ _ => rfl) (fun _ _ => rfl) fun s₂ i hrely₂ _ => ?_
        have hrest₂ := hrely₂.pending.trans hrest₁
        split
        · exact .of_fail hrest₂ rfl
        · refine coherence_read ensure_reads (fun _ _ => rfl) fun s₃ i hrely₃ _ => ?_
          have hrest₃ := hrely₃.pending.trans hrest₂
          split
          · rename_i hfail
            exact .of_fail hrest₃ (by simpa using hfail)
          · refine select_seq hrest₃ (fun message s₄ hrest₄ => ?_) fun value s₄ howes => ?_
            · exact .of_fail hrest₄ rfl
            · refine pays_seq rfl howes fun redis s₅ hrest₅ hrow _ => ?_
              exact ⟨hrest₅, fun _ => ⟨value, rfl, .inl hrow⟩⟩

/-! ## Every run -/

/-- What a finished call has achieved. -/
def Achieved (t : T) (o : DatasetOp V) (x : Result × Option V)
    (s : DatasetStores V × DatasetLog V T) : Prop :=
  match o with
  | .put key value => Wrote t key (some value) x.1 s
  | .get key => HasRead t key x s
  | .delete key => Wrote t key none x.1 s

theorem coherence_proved :
    (coherenceOutline (V := V) (T := T)).Proved (logMachine V T) (fun _ o => o.code) coherentGuard
      (fun t o x s => Achieved t o x s) where
  start _ _ _ _ _ := trivial
  ok c t o a k i hg _ ht := hg a (by simp [Pool.pending, ht])
  safe t o s _ hrest _ := by
    cases o with
    | put key value =>
        refine Outline.Safe.bind ((datasetPut_safe hrest).mono fun r s' h => ?_)
        exact ⟨h, h.1⟩
    | get key => exact (datasetGet_safe hrest).mono fun x s' h => ⟨h, h.1⟩
    | delete key =>
        refine Outline.Safe.bind ((datasetDelete_safe hrest).mono fun r s' h => ?_)
        exact ⟨h, h.1⟩
  compatible _ _ _ _ _ _ _ _ _ _ _ _ hevent u hu := hevent u hu

theorem coherent_initial {s : DatasetStores V}
    (h₀ : ∀ key, s.cache key = none ∨ s.cache key = s.rows key) :
    coherenceOutline.Good (logMachine V T) (fun t o x s => Achieved t o x s)
      (Pool.initial (s, {})) := by
  refine Outline.good_initial ⟨?_, ?_, ?_⟩ fun _ => rfl
  · intro t key w h
    cases h
  · intro key
    rcases h₀ key with hnone | hsame
    · exact .inl hnone
    · exact .inr (.inl hsame)
  · intro key w h
    cases h

/-! ### One client -/

/-- The runs of a single client: no failing Redis command has anything to correct. -/
def writeBackGuard
    (c : Pool Unit (DatasetOp V) (DatasetAct V) DatasetAct.Reply (Result × Option V)
      (DatasetStores V × DatasetLog V Unit)) : Move Unit (DatasetOp V) DatasetInput → Prop
  | .start _ _ => True
  | .act t i => ∀ a, c.pending t = some a → HarmlessFailure a i c.shared.1

theorem coherentGuard_of_writeBack {c : Pool Unit (DatasetOp V) (DatasetAct V) DatasetAct.Reply
      (Result × Option V) (DatasetStores V × DatasetLog V Unit)} {m : Move Unit (DatasetOp V) DatasetInput}
    (h : writeBackGuard c m) : coherentGuard c m := by
  cases m with
  | start t o => trivial
  | act t i =>
      intro a ha
      refine ⟨?_, h a ha⟩
      -- there is no other client
      cases a with
      | insert key value => exact fun u w hu => absurd (Subsingleton.elim u t) hu
      | delete key => exact fun u w hu => absurd (Subsingleton.elim u t) hu
      | _ => trivial

instance [DecidableEq V] (a : DatasetAct V) (i : DatasetInput) (s : DatasetStores V) :
    Decidable (HarmlessFailure a i s) :=
  match a with
  | .redisSet key value =>
      inferInstanceAs (Decidable (i.fate ≠ .executed → s.cache key = none ∨ s.cache key = some value))
  | .redisDelete key => inferInstanceAs (Decidable (i.fate ≠ .executed → s.cache key = none))
  | .getMaria => isTrue trivial
  | .ensureMariaEntriesTable => isTrue trivial
  | .select _ => isTrue trivial
  | .insert _ _ => isTrue trivial
  | .delete _ => isTrue trivial
  | .redisGet _ => isTrue trivial

section OneClient

variable {rows : String → Option V} {m : Move Unit (DatasetOp V) DatasetInput}
  {c c' : Pool Unit (DatasetOp V) (DatasetAct V) DatasetAct.Reply (Result × Option V)
    (DatasetStores V × DatasetLog V Unit)}

/-- **A dataset reads its own writes.** Take any calls of one client, from an empty cache and any table,
with any statements and commands failing, except that a failing Redis command has nothing to correct.
Whenever `DatasetGet` returns ok, it returns the row of the key, which is the key's last successful
write; and whenever `DatasetPut` or `DatasetDelete` returns ok, its value is that last write. -/
theorem reads_own_writes
    (hrun : Run (logMachine V Unit) (fun _ o => o.code) writeBackGuard
      (Pool.initial (⟨rows, fun _ => none⟩, {})) c)
    (hguard : writeBackGuard c m) (hmove : c.move (logMachine V Unit) (fun _ o => o.code) m = some c') :
    (∀ key r x, c'.returned () = some (.get key, (r, x)) → r.ok = true →
      ∃ value, x = some value ∧ c'.shared.1.rows key = some value ∧
        ∀ w, c'.shared.2.last key = some w → w = some value) ∧
    (∀ key value r x, c'.returned () = some (.put key value, (r, x)) → r.ok = true →
      c'.shared.2.last key = some (some value)) ∧
    ∀ key r x, c'.returned () = some (.delete key, (r, x)) → r.ok = true →
      c'.shared.2.last key = some none := by
  have hgood := coherence_proved.sound (coherent_initial (s := ⟨rows, fun _ => none⟩) fun _ => .inl rfl)
    (hrun.mono fun _ _ h => coherentGuard_of_writeBack h)
  have hstep := coherence_proved.move hgood (coherentGuard_of_writeBack hguard) hmove
  have hreturns : Outline.Returns (fun t o x s => Achieved t o x s) c' () := by
    cases m with
    | start t o => exact hstep.2
    | act t i => exact hstep.2.1
  refine ⟨fun key r x ht hok => ?_, fun key value r x ht => ?_, fun key r x ht => ?_⟩
  · obtain ⟨hrest, hread⟩ := hreturns _ _ (Pool.returned_eq_some.mp ht)
    obtain ⟨value, hx, hrow | ⟨u, w, howes⟩⟩ := hread hok
    · refine ⟨value, hx, hrow, fun w hw => ?_⟩
      rw [← hstep.1.1.last key w hw, hrow]
    · rw [show c'.shared.2.pending u = none from hrest] at howes
      cases howes
  · exact (hreturns _ _ (Pool.returned_eq_some.mp ht)).2
  · exact (hreturns _ _ (Pool.returned_eq_some.mp ht)).2

end OneClient

/-! #### A `SET` that fails -/

def oneClient : Pool Unit (DatasetOp String) (DatasetAct String) DatasetAct.Reply
    (Result × Option String) (DatasetStores String × DatasetLog String Unit) :=
  Pool.initial ({}, {})

/-- A call and the fates of its statements and commands. -/
def performs (o : DatasetOp String) (fates : List Fate) : List (Move Unit (DatasetOp String) DatasetInput) :=
  .start () o :: fates.map fun fate => .act () { fate }

/-- `writeBackGuard`, computed. -/
def checkWriteBack
    (c : Pool Unit (DatasetOp String) (DatasetAct String) DatasetAct.Reply (Result × Option String)
      (DatasetStores String × DatasetLog String Unit)) : Move Unit (DatasetOp String) DatasetInput → Bool
  | .start _ _ => true
  | .act t i => (c.pending t).all fun a => decide (HarmlessFailure a i c.shared.1)

theorem writeBackGuard_of_check
    {c : Pool Unit (DatasetOp String) (DatasetAct String) DatasetAct.Reply (Result × Option String)
      (DatasetStores String × DatasetLog String Unit)}
    {m : Move Unit (DatasetOp String) DatasetInput} (h : checkWriteBack c m = true) :
    writeBackGuard c m := by
  cases m with
  | start t o => trivial
  | act t i =>
      intro a ha
      simpa [checkWriteBack, ha] using h

/-- The `SET` of the first write fails, when there is no copy yet. -/
def firstSetFails : List (Move Unit (DatasetOp String) DatasetInput) :=
  performs (.put "k" "old") [.executed, .executed, .executed, .failed "timeout"] ++
    performs (.get "k") (List.replicate 4 .executed)

/-- The read finds the row. -/
theorem reads_own_writes_first :
    ∃ c c', oneClient.play (logMachine String Unit) (fun _ o => o.code) checkWriteBack firstSetFails =
        some c ∧
      c.move (logMachine String Unit) (fun _ o => o.code) (.act () {}) = some c' ∧
      c'.returned () = some (.get "k", (⟨true, "maria"⟩, some "old")) ∧
      ∃ value, some "old" = some value ∧ c'.shared.1.rows "k" = some value ∧
        ∀ w, c'.shared.2.last "k" = some w → w = some value := by
  have hend : (oneClient.play (logMachine String Unit) (fun _ o => o.code) checkWriteBack
      firstSetFails).bind (fun c => (c.move (logMachine String Unit) (fun _ o => o.code)
        (.act () {})).map fun c' => (checkWriteBack c (.act () {}), c'.returned ())) =
      some (true, some (.get "k", (⟨true, "maria"⟩, some "old"))) := by decide
  obtain ⟨c, hc, hmove⟩ := Option.bind_eq_some_iff.mp hend
  obtain ⟨c', hc', hcs⟩ := Option.map_eq_some_iff.mp hmove
  obtain ⟨hguard, hreturned⟩ := Prod.ext_iff.mp hcs
  exact ⟨c, c', hc, hc', hreturned, (reads_own_writes
    (Run.refl.play (fun _ _ h => writeBackGuard_of_check h) hc) (writeBackGuard_of_check hguard)
    hc').1 _ _ _ hreturned rfl⟩

/-- The `SET` of the second write fails. -/
def secondSetFails : List (Move Unit (DatasetOp String) DatasetInput) :=
  performs (.put "k" "old") (List.replicate 4 .executed) ++
    performs (.put "k" "new") [.executed, .executed, .executed, .failed "timeout"] ++
    performs (.get "k") [.executed]

/-- Both writes return ok, and the read returns ok with the first value, which the table has no more. -/
theorem reads_old_write :
    ∃ c, Run (logMachine String Unit) (fun _ o => o.code) (fun _ _ => True) oneClient c ∧
      c.returned () = some (.get "k", (⟨true, "redis"⟩, some "old")) ∧
      c.shared.1.rows "k" = some "new" ∧ c.shared.2.last "k" = some (some "new") := by
  have hend : (oneClient.play (logMachine String Unit) (fun _ o => o.code) (fun _ _ => true)
      secondSetFails).map (fun c => (c.returned (), c.shared.1.rows "k", c.shared.2.last "k")) =
      some (some (.get "k", (⟨true, "redis"⟩, some "old")), some "new", some (some "new")) := by decide
  obtain ⟨c, hc, hcs⟩ := Option.map_eq_some_iff.mp hend
  simp only [Prod.mk.injEq] at hcs
  exact ⟨c, Run.refl.play (fun _ _ _ => trivial) hc, hcs⟩

/-! ### Any number of clients -/

/-- The runs without failures in which no client writes a row of a key that another one still owes to
Redis. -/
def exclusiveGuard {α : Type}
    (c : Pool T (DatasetOp V) (DatasetAct V) DatasetAct.Reply α (DatasetStores V × DatasetLog V T)) :
    Move T (DatasetOp V) DatasetInput → Prop
  | .start _ _ => True
  | .act t i => i = {} ∧ ∀ a, c.pending t = some a → Exclusive t a c.shared

omit [DecidableEq T] in
theorem coherentGuard_of_exclusive {α : Type}
    {c : Pool T (DatasetOp V) (DatasetAct V) DatasetAct.Reply α (DatasetStores V × DatasetLog V T)}
    {m : Move T (DatasetOp V) DatasetInput} (h : exclusiveGuard c m) : coherentGuard c m := by
  cases m with
  | start t o => trivial
  | act t i =>
      obtain ⟨rfl, hexclusive⟩ := h
      intro a ha
      refine ⟨hexclusive a ha, ?_⟩
      cases a with
      | redisSet key value => exact fun hf => absurd rfl hf
      | redisDelete key => exact fun hf => absurd rfl hf
      | _ => trivial

/-- **The copy converges.** In every run of any number of clients without failures, in which no client
writes a row while another one still owes Redis a value of the same key: once all calls have finished,
the Redis entry of a key is absent or equal to its row. -/
theorem cache_converges {s₀ : DatasetStores V}
    {c : Pool T (DatasetOp V) (DatasetAct V) DatasetAct.Reply (Result × Option V)
      (DatasetStores V × DatasetLog V T)}
    (h₀ : ∀ key, s₀.cache key = none ∨ s₀.cache key = s₀.rows key)
    (hrun : Run (logMachine V T) (fun _ o => o.code) exclusiveGuard (Pool.initial (s₀, {})) c)
    (hidle : ∀ t, c.idle t = true) (key : String) :
    c.shared.1.cache key = none ∨ c.shared.1.cache key = c.shared.1.rows key := by
  have hgood := coherence_proved.sound (coherent_initial h₀)
    (hrun.mono fun _ _ h => coherentGuard_of_exclusive h)
  rcases hgood.1.cached key with hnone | hsame | ⟨t, w, howes⟩
  · exact .inl hnone
  · exact .inr hsame
  · rw [show c.shared.2.pending t = none from hgood.rest_of_idle (hidle t)] at howes
    cases howes

/-! #### Two writers -/

def twoClients : Pool Bool (DatasetOp String) (DatasetAct String) DatasetAct.Reply
    (Result × Option String) (DatasetStores String × DatasetLog String Bool) :=
  Pool.initial ({}, {})

/-- `n` sections of one of the two clients. -/
def turns (t : Bool) (n : Nat) : List (Move Bool (DatasetOp String) DatasetInput) :=
  List.replicate n (.act t {})

/-- `exclusiveGuard` for two clients, as far as it is needed: a row is written only while the other
client owes nothing. -/
def checkExclusive
    (c : Pool Bool (DatasetOp String) (DatasetAct String) DatasetAct.Reply (Result × Option String)
      (DatasetStores String × DatasetLog String Bool)) : Move Bool (DatasetOp String) DatasetInput → Bool
  | .start _ _ => true
  | .act t i => decide (i = {}) && (c.pending t).all fun
      | .insert _ _ => (c.shared.2.pending !t).isNone
      | .delete _ => (c.shared.2.pending !t).isNone
      | _ => true

theorem exclusiveGuard_of_check
    {c : Pool Bool (DatasetOp String) (DatasetAct String) DatasetAct.Reply (Result × Option String)
      (DatasetStores String × DatasetLog String Bool)}
    {m : Move Bool (DatasetOp String) DatasetInput} (h : checkExclusive c m = true) :
    exclusiveGuard c m := by
  cases m with
  | start t o => trivial
  | act t i =>
      simp only [checkExclusive, Bool.and_eq_true, decide_eq_true_eq] at h
      refine ⟨h.1, fun a ha => ?_⟩
      have hnone : ∀ u w key, (c.shared.2.pending !t).isNone = true → u ≠ t →
          c.shared.2.pending u ≠ some (key, w) := by
        intro u w key hn hu hp
        rw [Bool.eq_not_of_ne hu] at hp
        simp [hp] at hn
      have hcheck := h.2
      rw [ha] at hcheck
      cases a with
      | insert key value => exact fun u w hu => hnone u w key hcheck hu
      | delete key => exact fun u w hu => hnone u w key hcheck hu
      | _ => trivial

/-- One client writes, then the other one. -/
def oneAfterTheOther : List (Move Bool (DatasetOp String) DatasetInput) :=
  .start true (.put "k" "a") :: turns true 4 ++ .start false (.put "k" "b") :: turns false 4

theorem cache_converges_after :
    ∃ c, twoClients.play (logMachine String Bool) (fun _ o => o.code) checkExclusive oneAfterTheOther =
        some c ∧ c.shared.1.rows "k" = some "b" ∧
      ∀ key, c.shared.1.cache key = none ∨ c.shared.1.cache key = c.shared.1.rows key := by
  have hend : (twoClients.play (logMachine String Bool) (fun _ o => o.code) checkExclusive
      oneAfterTheOther).map (fun c => (c.idle true, c.idle false, c.shared.1.rows "k")) =
      some (true, true, some "b") := by decide
  obtain ⟨c, hc, hcs⟩ := Option.map_eq_some_iff.mp hend
  simp only [Prod.mk.injEq] at hcs
  obtain ⟨htrue, hfalse, hrow⟩ := hcs
  refine ⟨c, hc, hrow, cache_converges (fun _ => .inl rfl)
    (Run.refl.play (fun _ _ h => exclusiveGuard_of_check h) hc) fun t => ?_⟩
  cases t with
  | true => exact htrue
  | false => exact hfalse

/-- The second client's write comes between the two steps of the first one's. -/
def oneInTheOther : List (Move Bool (DatasetOp String) DatasetInput) :=
  .start true (.put "k" "a") :: turns true 3 ++ .start false (.put "k" "b") :: turns false 4 ++
    turns true 1

/-- Nothing fails, both writes return ok, and the copy is not the row. -/
theorem cache_diverges :
    ∃ c, Run (logMachine String Bool) (fun _ o => o.code)
        (fun _ m => ∀ t i, m = .act t i → i = {}) twoClients c ∧
      c.returned true = some (.put "k" "a", (⟨true, "OK"⟩, none)) ∧
      c.returned false = some (.put "k" "b", (⟨true, "OK"⟩, none)) ∧
      c.shared.1.rows "k" = some "b" ∧ c.shared.1.cache "k" = some "a" := by
  have hend : (twoClients.play (logMachine String Bool) (fun _ o => o.code)
      (fun _ m => match m with | .start _ _ => true | .act _ i => decide (i = {}))
      oneInTheOther).map (fun c => (c.returned true, c.returned false, c.shared.1.rows "k",
        c.shared.1.cache "k")) =
      some (some (.put "k" "a", (⟨true, "OK"⟩, none)), some (.put "k" "b", (⟨true, "OK"⟩, none)),
        some "b", some "a") := rfl
  obtain ⟨c, hc, hcs⟩ := Option.map_eq_some_iff.mp hend
  simp only [Prod.mk.injEq] at hcs
  refine ⟨c, Run.refl.play ?_ hc, hcs⟩
  rintro d m hm t i rfl
  simpa using hm

end DatasetStores

end SomeServer
