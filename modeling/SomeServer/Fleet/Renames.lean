/-
# SomeServer.Fleet.Renames — renames that meet a release

A rename is acknowledged once the repository has it, and a release stores the record before it drops
it. In between the record is looked at twice, in two sections: `ReleasePlayer` reads or flushes it, and
some sections later it drops what is there by then. A rename in the gap is dropped with the record.
The dirty flag tells: while it is set the newest name may be in memory only, and while it is not set
the newest name is in MariaDB (`Kept`). So a release loses nothing as long as the record it drops is
not dirty.

The runs are those of one process, with MariaDB and Redis behind it, in which no player is loaded.
-/
import SomeServer.Fleet.Rows

namespace SomeServer

open Lib

variable {T : Type}

/-! ## The names given so far -/

/-- The display names that have been given to each player, newest first. -/
abbrev RenameLog := PlayerId → List String

/-- What a section adds to the log: a rename that took effect. -/
def RenameLog.record (log : RenameLog) : (a : Act) → a.Reply → RenameLog
  | .runtime (.handleRename p displayName), r =>
      if r.ok then Function.update log p (displayName :: log p) else log
  | .repository (.setDisplayName p displayName), r =>
      if r.ok then Function.update log p (displayName :: log p) else log
  | _, _ => log

/-- A stored row that carries a name. -/
def StoresName (row : Option Blob) (displayName : String) : Prop :=
  ∃ data, row = some (.message data) ∧ data.base.displayName = displayName

/-- The newest name of a player is in its record, if there is one, and in its row, unless the record is
dirty. -/
def Kept (record : Option PlayerRepositoryRecord) (row : Option Blob) (names : List String) : Prop :=
  ∀ displayName, names.head? = some displayName →
    (∀ x, record = some x → x.data.base.displayName = displayName) ∧
    (StoresName row displayName ∨ ∃ x, record = some x ∧ x.dirty = true)

theorem Kept.change {record : Option PlayerRepositoryRecord} {row : Option Blob}
    {names : List String} (h : Kept record row names) (change : PlayerData → PlayerData)
    (hchange : ∀ data, (change data).base.displayName = data.base.displayName) {nowMs : UInt64} :
    Kept (record.map fun x => x.change (change x.data) nowMs) row names := by
  intro displayName hname
  obtain ⟨hrecord, hstored⟩ := h displayName hname
  cases record with
  | none => exact ⟨by simp, by simpa using hstored⟩
  | some x =>
      have hx : x.data.base.displayName = displayName := hrecord x rfl
      refine ⟨?_, .inr ⟨_, rfl, rfl⟩⟩
      rintro y hy
      simp only [Option.map_some, Option.some.injEq] at hy
      rw [← hy]
      exact (hchange x.data).trans hx

/-- A rename of a loaded record. -/
theorem kept_rename {record : Option PlayerRepositoryRecord} {row : Option Blob}
    {names : List String} (h : record.isSome = true) {displayName : String} {nowMs : UInt64} :
    Kept (record.map fun x => x.change (setDisplayNameData displayName x.data) nowMs) row
      (displayName :: names) := by
  obtain ⟨x, rfl⟩ := Option.isSome_iff_exists.mp h
  intro name hname
  simp only [List.head?_cons, Option.some.injEq] at hname
  subst hname
  refine ⟨?_, .inr ⟨_, rfl, rfl⟩⟩
  intro y hy
  simp only [Option.map_some, Option.some.injEq] at hy
  rw [← hy]
  rfl

/-- A clean record, or none, can go. -/
theorem Kept.drop {record : Option PlayerRepositoryRecord} {row : Option Blob} {names : List String}
    (h : Kept record row names) (hclean : record.any (·.dirty) = false) : Kept none row names := by
  intro displayName hname
  obtain ⟨-, hstored | ⟨x, rfl, hdirty⟩⟩ := h displayName hname
  · exact ⟨by simp, .inl hstored⟩
  · simp [hdirty] at hclean

theorem Kept.storesName {row : Option Blob} {names : List String} (h : Kept none row names)
    {displayName : String} (hname : names.head? = some displayName) : StoresName row displayName := by
  obtain ⟨-, hstored | ⟨x, hx, -⟩⟩ := h displayName hname
  · exact hstored
  · cases hx

/-- The record's data may be stored. -/
theorem Kept.insert {x : PlayerRepositoryRecord} {row : Option Blob} {names : List String}
    (h : Kept (some x) row names) : Kept (some x) (some (.message x.data)) names := by
  intro displayName hname
  obtain ⟨hrecord, -⟩ := h displayName hname
  exact ⟨hrecord, .inl ⟨x.data, rfl, hrecord x rfl⟩⟩

/-- Once the row holds the record's data, the record may be marked as flushed. -/
theorem Kept.flushed {x : PlayerRepositoryRecord} {names : List String}
    (h : Kept (some x) (some (.message x.data)) names) {nowMs : UInt64} :
    Kept (some (x.markFlushed nowMs)) (some (.message x.data)) names := by
  intro displayName hname
  obtain ⟨hrecord, -⟩ := h displayName hname
  have hx : x.data.base.displayName = displayName := hrecord x rfl
  refine ⟨?_, .inl ⟨x.data, rfl, hx⟩⟩
  intro y hy
  rw [← Option.some.inj hy]
  exact hx

/-! ## Sections -/

/-- The sections that neither load nor flush: the others are those of a load or a flush. -/
def Act.quiet : Act → Bool
  | .repository (.loadEnter _) => false
  | .repository (.loadLeave _ _ _ _) => false
  | .repository (.flushLeave _ _) => false
  | .storage (.insert _ _) => false
  | _ => true

theorem Act.quiet_of_locks {a : Act} (h : a.locks = false) : a.quiet = true := by
  cases a with
  | storage b => cases h
  | repository b => cases b <;> first | rfl | cases h
  | _ => rfl

theorem Act.closes_of_quiet {a : Act} (h : a.quiet = true) : a.closes = false := by
  cases a with
  | repository b => cases b <;> first | rfl | cases h
  | _ => rfl

theorem rowAfter_of_quiet {a : Act} (h : a.quiet = true) {p : PlayerId} {i : FleetInput}
    {row : Option Blob} : rowAfter p i row a = row := by
  cases a with
  | storage b => cases b <;> first | rfl | cases h
  | _ => rfl

namespace Fleet

variable {cfg : GameConfiguration} {t u : Unit × T} {o : Op} {a : Act} {i : FleetInput}
  {s s' : Fleet Unit T × RenameLog} {r : a.Reply} {p : PlayerId}

/-- The process and its servers, with the names written down. -/
def renameMachine (cfg : GameConfiguration) :
    Machine (Unit × T) Act Act.Reply FleetInput (Fleet Unit T × RenameLog) :=
  (machine fun _ => cfg).withHistory fun _ a _ _ _ r log => log.record a r

/-- The repository of the process. -/
def repository (s : Fleet Unit T × RenameLog) : PlayerRepository T := (s.1.games ()).repository

theorem renameMachine_exec (h : (renameMachine cfg).exec t a i s = some (s', r)) :
    ∃ answer, (s.1.games ()).exec cfg t.2 (i.env answer) a = some (s'.1.games (), r) ∧
      (∀ p, s'.1.world.rows p = rowAfter p i (s.1.world.rows p) a) ∧ s'.2 = s.2.record a r := by
  obtain ⟨hexec, hlog⟩ := Machine.withHistory_exec h
  obtain ⟨hgame, hworld, -⟩ := exec_eq hexec
  exact ⟨_, hgame, fun p => by rw [hworld, served_row], hlog⟩

/-- A release that drops a dirty record. -/
def dropsDirty (a : Act) (s : Fleet Unit T) : Bool :=
  match a with
  | .repository (.release p) => ((s.games ()).repository.players p).any (·.dirty)
  | _ => false

/-- The moves of the runs to be considered: no loads, and no release that drops a dirty record. -/
def renameGuard (c : Pool (Unit × T) Op Act Act.Reply OpResult (Fleet Unit T × RenameLog)) :
    Move (Unit × T) Op FleetInput → Bool
  | .start _ o => !o.loads
  | .act t _ =>
      match c.pending t with
      | none => true
      | some a => !dropsDirty a c.shared.1

/-! ## What a thread may rely on -/

/-- What the other threads do to thread `u`: while it holds the repository's mutex, nothing; no
dropped record comes back; and no name is taken from the log. -/
structure Spares (u : Unit × T) (s s' : Fleet Unit T × RenameLog) : Prop where
  frozen : (repository s).mutex = some u.2 →
    repository s' = repository s ∧ s'.1.world.rows = s.1.world.rows ∧ s'.2 = s.2
  gone : ∀ p, (repository s).players p = none → (repository s').players p = none
  names : ∀ p, s.2 p <:+ s'.2 p

theorem Spares.refl : Spares u s s where
  frozen _ := ⟨rfl, rfl, rfl⟩
  gone _ h := h
  names _ := List.suffix_refl _

theorem Spares.trans {s₁ s₂ s₃ : Fleet Unit T × RenameLog} (h : Spares u s₁ s₂)
    (h' : Spares u s₂ s₃) : Spares u s₁ s₃ where
  frozen hm := by
    obtain ⟨hr, hw, hl⟩ := h.frozen hm
    obtain ⟨hr', hw', hl'⟩ := h'.frozen (by rw [hr]; exact hm)
    exact ⟨hr'.trans hr, hw'.trans hw, hl'.trans hl⟩
  gone p hp := h'.gone p (h.gone p hp)
  names p := (h.names p).trans (h'.names p)

theorem record_suffix {log : RenameLog} : log p <:+ log.record a r p := by
  have hcons : ∀ (q : PlayerId) (displayName : String),
      log p <:+ Function.update log q (displayName :: log q) p := by
    intro q displayName
    by_cases hq : p = q
    · subst hq
      rw [Function.update_self]
      exact List.suffix_cons ..
    · exact ⟨[], (Function.update_of_ne hq _ _).symm⟩
  unfold RenameLog.record
  split
  · split
    · exact hcons _ _
    · exact List.suffix_refl _
  · split
    · exact hcons _ _
    · exact List.suffix_refl _
  · exact List.suffix_refl _

/-- The invariant, for every player. -/
def AllKept (s : Fleet Unit T × RenameLog) : Prop :=
  ∀ p, Kept ((repository s).players p) (s.1.world.rows p) (s.2 p)

/-- A section that gives player `q` a name when it succeeds, which it does only for a loaded record. -/
theorem kept_named (hk : AllKept s) {q : PlayerId} {displayName : String} {ok : Bool} {nowMs : UInt64}
    (hloaded : ok = true → (repository s).isLoaded q = true) :
    Kept (if q = p ∧ ok then ((repository s).players p).map fun x =>
        x.change (setDisplayNameData displayName x.data) nowMs else (repository s).players p)
      (s.1.world.rows p)
      ((if ok then Function.update s.2 q (displayName :: s.2 q) else s.2) p) := by
  cases ok with
  | false => simpa using hk p
  | true =>
      by_cases hq : q = p
      · subst hq
        have hsome : ((repository s).players q).isSome = true := by
          have hl := hloaded rfl
          unfold PlayerRepository.isLoaded at hl
          cases hr : (repository s).players q with
          | none => simp [hr] at hl
          | some x => rfl
        simpa using kept_rename hsome
      · simpa [hq, Function.update_of_ne (Ne.symm hq)] using hk p

/-- A quiet section that drops no dirty record keeps the invariant. -/
theorem quiet_kept (ha : a.quiet = true) (hk : AllKept s) (hclean : dropsDirty a s.1 = false)
    (h : (renameMachine cfg).exec t a i s = some (s', r)) : AllKept s' := by
  intro p
  obtain ⟨answer, hgame, hrows, hlog⟩ := renameMachine_exec h
  have hrecord : (repository s').players p = recordAfter p (i.env answer) ((repository s).players p) a r :=
    GameProcess.record_exec hgame
  rw [hrecord, hrows, rowAfter_of_quiet ha, hlog]
  cases a with
  | repository b =>
      cases b with
      | loadEnter q | loadLeave q allow result value | flushLeave q stored => cases ha
      | flushEnter q | snapshot q | loadedPlayerIds order => exact hk p
      | release q =>
          simp only [recordAfter, RenameLog.record]
          split
          · rename_i hq
            subst hq
            exact (hk q).drop hclean
          · exact hk p
      | touchLogin q =>
          simp only [recordAfter, RenameLog.record]
          split
          · exact (hk p).change (touchLoginData i.nowMs) fun _ => rfl
          · exact hk p
      | setDisplayName q displayName =>
          exact kept_named hk fun hok => (GameProcess.setDisplayName_reply hgame).symm.trans hok
  | runtime b =>
      cases b with
      | handleRename q displayName => exact kept_named hk (GameProcess.handleRename_reply hgame)
      | emplace q | removePlayer q | handleEcho q => exact hk p
  | clock | directory b | lease b | storage b | ipc b | session b | persistence b => exact hk p

/-- While a mutex is held no name is given. -/
theorem record_frozen (hm : (repository s).mutex = some u.2) (ha : a.quiet = true)
    (h : (renameMachine cfg).exec t a i s = some (s', r)) : s'.2 = s.2 := by
  obtain ⟨answer, hgame, -, hlog⟩ := renameMachine_exec h
  rw [hlog]
  have hmutex : (s.1.games ()).repository.mutex = some u.2 := hm
  cases a with
  | repository b =>
      cases b with
      | setDisplayName q displayName =>
          simp [GameProcess.exec, PlayerRepository.exec, hmutex] at hgame
      | _ => rfl
  | runtime b =>
      cases b with
      | handleRename q displayName =>
          simp [GameProcess.exec, GameProcess.execRuntime, hmutex] at hgame
      | _ => rfl
  | _ => rfl

/-- A quiet section spares every other thread, and the thread itself as well. -/
theorem quiet_spares (ha : a.quiet = true) (h : (renameMachine cfg).exec t a i s = some (s', r)) :
    Spares u s s' := by
  obtain ⟨answer, hgame, hrows, hlog⟩ := renameMachine_exec h
  refine ⟨fun hm => ⟨?_, ?_, record_frozen hm ha h⟩, fun p hp => ?_, fun p => ?_⟩
  · exact GameProcess.repository_frozen hm (Act.closes_of_quiet ha) hgame
  · funext q
    rw [hrows, rowAfter_of_quiet ha]
  · have hrecord : (repository s').players p =
        recordAfter p (i.env answer) ((repository s).players p) a r := GameProcess.record_exec hgame
    rw [hrecord, hp]
    cases a with
    | repository b =>
        cases b with
        | loadEnter q | loadLeave q allow result value | flushLeave q stored => cases ha
        | _ => simp [recordAfter]
    | runtime b => cases b <;> simp [recordAfter]
    | _ => rfl
  · rw [hlog]
    exact record_suffix

/-! ## The outline -/

/-- What an operation has achieved when it returns: an acknowledged rename is in the log, and a
successful release has left no record behind. -/
def RenameDone (o : Op) (result : OpResult) (s : Fleet Unit T × RenameLog) : Prop :=
  match o, result with
  | .forward _ p (.rename displayName), .forwarded .ok _ => displayName ∈ s.2 p
  | .release p, .result r => r.ok = true → (repository s).players p = none
  | _, _ => True

def renameOutline : Outline (Unit × T) Op Act FleetInput (Fleet Unit T × RenameLog) where
  inv := AllKept
  rest _ _ := True
  start _ o _ := o.loads = false
  ok _ _ a _ s := dropsDirty a s.1 = false
  event t _ _ _ s s' := ∀ u, u ≠ t → Spares u s s'
  rely t _ s s' := Spares t s s'
  rely_refl _ _ _ := .refl
  rely_trans _ _ _ _ _ h h' := h.trans h'
  rest_rely _ _ _ _ _ := trivial

variable {α : Type} {Q : α → Fleet Unit T × RenameLog → Prop}

/-- The rule of a quiet section. -/
theorem quiet_seq {k : a.Reply → Call α} (ha : a.quiet = true)
    (hk : ∀ i s₁ s₂ r, Spares t s s₁ → AllKept s₁ →
      (renameMachine cfg).exec t a i s₁ = some (s₂, r) →
      renameOutline.Safe (renameMachine cfg) t o Q (k r) s₂) :
    renameOutline.Safe (renameMachine cfg) t o Q (call a >>= k) s :=
  fun s₁ hr hi i s₂ r hok hx =>
    ⟨fun _ _ => quiet_spares ha hx, quiet_kept ha hi hok hx, hk i s₁ s₂ r hr hi hx⟩

/-- Calls made of quiet sections keep whatever the threads spare each other. -/
theorem quiet_all {K : Fleet Unit T × RenameLog → Prop}
    (hK : ∀ {s s' : Fleet Unit T × RenameLog}, Spares t s s' → K s → K s') {x : Call α}
    (hx : x.All fun a => a.quiet = true) (hs : K s) :
    renameOutline.Safe (renameMachine cfg) t o (fun _ s' => K s') x s := by
  refine Outline.safe_of_all (K := K) (fun _ _ _ _ hr hk => hK hr hk) ?_ (fun _ _ h => h) hx hs
  intro a i s s' r ha hi hk hok hx
  exact ⟨fun _ _ => quiet_spares ha hx, quiet_kept ha hi hok hx, hK (quiet_spares ha hx) hk⟩

/-! ## A flush -/

/-- Thread `t` holds the repository's mutex, and player `p` has the record `x`. -/
structure Holds (t : Unit × T) (p : PlayerId) (x : PlayerRepositoryRecord)
    (s : Fleet Unit T × RenameLog) : Prop where
  mutex : (repository s).mutex = some t.2
  record : (repository s).players p = some x

variable {x : PlayerRepositoryRecord}

theorem Holds.stable (h : Holds t p x s) (hs : Spares t s s') : Holds t p x s' := by
  obtain ⟨hr, -, -⟩ := hs.frozen h.mutex
  exact ⟨by rw [hr]; exact h.mutex, by rw [hr]; exact h.record⟩

/-- What the holder of the mutex does spares the others, who do not hold it. -/
theorem Holds.spares (h : Holds t p x s) (hu : u ≠ t)
    (hgone : ∀ q, (repository s).players q = none → (repository s').players q = none)
    (hlog : s'.2 = s.2) : Spares u s s' where
  frozen hm := by
    rw [h.mutex] at hm
    exact (hu (Prod.ext rfl (Option.some.inj hm).symm)).elim
  gone := hgone
  names q := ⟨[], (congrFun hlog q).symm⟩

/-- The `INSERT` of a flush. -/
theorem insert_seq {k : Result → Call α} (h : Holds t p x s)
    (hk : ∀ r s₂, Holds t p x s₂ → (r.ok = true → s₂.1.world.rows p = some (.message x.data)) →
      renameOutline.Safe (renameMachine cfg) t o Q (k r) s₂) :
    renameOutline.Safe (renameMachine cfg) t o Q
      (call (.storage (.insert p (.message x.data))) >>= k) s := by
  intro s₁ hr hi i s₂ r _ hx
  have h₁ := h.stable hr
  obtain ⟨answer, hgame, hrows, hlog⟩ := renameMachine_exec hx
  have hsame : repository s₂ = repository s₁ :=
    congrArg GameProcess.repository (GameProcess.exec_storage hgame).1
  have hnames : s₂.2 = s₁.2 := hlog
  refine ⟨fun u hu => h₁.spares hu (fun q hq => by rwa [hsame]) hnames, fun q => ?_, ?_⟩
  · rw [hsame, hrows, hnames]
    simp only [rowAfter]
    split
    · rename_i hq
      obtain ⟨rfl, -⟩ := hq
      have hkept := hi p
      rw [h₁.record] at hkept ⊢
      exact hkept.insert
    · exact hi q
  · refine hk r s₂ ⟨by rw [hsame]; exact h₁.mutex, by rw [hsame]; exact h₁.record⟩ fun hok => ?_
    have hfleet : (machine fun _ => cfg).exec t (.storage (.insert p (.message x.data))) i s₁.1 =
        some (s₂.1, r) := (Machine.withHistory_exec hx).1
    have hdone : i.fault.executes = true := insert_reply hfleet hok
    rw [hrows]
    simp [rowAfter, hdone]

theorem datasetPut_safe (h : Holds t p x s) :
    renameOutline.Safe (renameMachine cfg) t o (fun r s' => Holds t p x s' ∧
      (r.ok = true → s'.1.world.rows p = some (.message x.data)))
      (datasetPut p (.message x.data)) s := by
  refine quiet_seq rfl fun i s₁ s₂ ensure hr _ hx => ?_
  have h₂ : Holds t p x s₂ := (h.stable hr).stable (quiet_spares rfl hx)
  split
  · rename_i hfail
    exact ⟨h₂, fun hok => by simp [hok] at hfail⟩
  · refine insert_seq h₂ fun inserted s₃ h₃ hrow => ?_
    split
    · rename_i hfail
      exact ⟨h₃, fun hok => by simp [hok] at hfail⟩
    · rename_i hdone
      have hstored := hrow (by simpa using hdone)
      refine quiet_seq rfl fun i s₄ s₅ redis hr₄ _ hx₄ => ?_
      have hspares : Spares t s₃ s₅ := hr₄.trans (quiet_spares rfl hx₄)
      have h₅ := h₃.stable hspares
      have hstored₅ : s₅.1.world.rows p = some (.message x.data) := by
        rw [(hspares.frozen h₃.mutex).2.1]
        exact hstored
      split
      · exact ⟨h₅, fun _ => hstored₅⟩
      · exact ⟨h₅, fun _ => hstored₅⟩

/-- The closing section of a flush. -/
theorem flushLeave_safe {stored : Result} (h : Holds t p x s)
    (hstored : stored.ok = true → s.1.world.rows p = some (.message x.data)) :
    renameOutline.Safe (renameMachine cfg) t o (fun _ _ => True)
      (call (.repository (.flushLeave p stored))) s := by
  intro s₁ hr hi i s₂ r _ hx
  have h₁ := h.stable hr
  obtain ⟨answer, hgame, hrows, hlog⟩ := renameMachine_exec hx
  have hnames : s₂.2 = s₁.2 := hlog
  have hrecord : ∀ q, (repository s₂).players q =
      recordAfter q (i.env answer) ((repository s₁).players q) (.repository (.flushLeave p stored)) r :=
    fun q => GameProcess.record_exec hgame
  refine ⟨fun u hu => h₁.spares hu (fun q hq => ?_) hnames, fun q => ?_, trivial⟩
  · rw [hrecord, hq]
    simp [recordAfter]
  · rw [hrecord, hrows, hnames]
    simp only [recordAfter, rowAfter]
    split
    · rename_i hq
      obtain ⟨rfl, hok⟩ := hq
      have hrow : s₁.1.world.rows p = some (.message x.data) := by
        rw [(hr.frozen h.mutex).2.1]
        exact hstored hok
      have hkept := hi p
      rw [h₁.record, hrow] at hkept ⊢
      exact hkept.flushed
    · exact hi q

theorem flushPlayer_safe (p : PlayerId) (s : Fleet Unit T × RenameLog) :
    renameOutline.Safe (renameMachine cfg) t o (fun _ _ => True) (flushPlayer p) s := by
  refine quiet_seq rfl fun i s₁ s₂ data _ _ hx => ?_
  split
  · trivial
  · rename_i data _
    obtain ⟨answer, hgame, -, -⟩ := renameMachine_exec hx
    obtain ⟨hmutex, x, hrecord, rfl⟩ := GameProcess.flushEnter_some hgame
    refine Outline.Safe.bind (Outline.Safe.mono ?_ (datasetPut_safe ⟨hmutex, hrecord⟩))
    rintro stored s₃ ⟨h₃, hstored⟩
    exact flushLeave_safe h₃ hstored

/-! ## The operations -/

/-- Calls that are merely safe. -/
theorem quiet_call (ha : a.locks = false) (s : Fleet Unit T × RenameLog) :
    renameOutline.Safe (renameMachine cfg) t o (fun _ _ => True) (call a) s :=
  quiet_all (K := fun _ => True) (fun _ _ => trivial) (all_call (Act.quiet_of_locks ha)) trivial

/-- `ReleasePlayer` reports success only once it has dropped the record. -/
theorem unloadPlayer_safe (p : PlayerId) (s : Fleet Unit T × RenameLog) :
    renameOutline.Safe (renameMachine cfg) t o
      (fun r s' => r.ok = true → (repository s').players p = none) (unloadPlayer p) s := by
  refine quiet_seq rfl fun i s₁ s₂ unbind _ _ _ => ?_
  split
  · rename_i hfail
    intro hok
    simp [hok] at hfail
  · refine quiet_seq rfl fun i s₃ s₄ _ _ _ _ => ?_
    refine quiet_seq rfl fun i s₅ s₆ release _ _ hx => ?_
    split
    · rename_i hfail
      intro hok
      simp [hok] at hfail
    · obtain ⟨answer, hgame, -, -⟩ := renameMachine_exec hx
      have hgone : (repository s₆).players p = none := by
        have hrecord : (repository s₆).players p = recordAfter p (i.env answer)
          ((repository s₅).players p) (.repository (.release p)) release := GameProcess.record_exec hgame
        simpa [recordAfter] using hrecord
      -- nobody brings the record back
      refine quiet_seq rfl fun i s₇ s₈ _ hr₇ _ hx₈ => ?_
      refine quiet_seq rfl fun i s₉ s₁₀ _ hr₉ _ hx₁₀ _ => ?_
      have hspares := ((hr₇.trans (quiet_spares rfl hx₈)).trans hr₉).trans (quiet_spares rfl hx₁₀)
      exact hspares.gone p hgone

theorem releasePlayer_safe (p : PlayerId) (s : Fleet Unit T × RenameLog) :
    renameOutline.Safe (renameMachine cfg) t o
      (fun r s' => r.ok = true → (repository s').players p = none) (releasePlayer p) s := by
  refine quiet_seq rfl fun i s₁ s₂ previous _ _ _ => ?_
  split
  · intro hok
    cases hok
  · refine quiet_seq rfl fun i s₃ s₄ record _ _ _ => ?_
    split
    · exact unloadPlayer_safe p s₄
    · refine Outline.Safe.bind (Outline.Safe.mono (fun flush s₅ _ => ?_) (flushPlayer_safe p s₄))
      split
      · refine quiet_seq rfl fun i s₆ s₇ _ _ _ _ hok => ?_
        cases hok
      · exact unloadPlayer_safe p s₅

/-- A rename that takes effect is in the log. -/
theorem handleRename_seq {k : Result → Call α} {displayName : String}
    (hk : ∀ r s₂, (r.ok = true → displayName ∈ s₂.2 p) →
      renameOutline.Safe (renameMachine cfg) t o Q (k r) s₂) :
    renameOutline.Safe (renameMachine cfg) t o Q
      (call (.runtime (.handleRename p displayName)) >>= k) s := by
  refine quiet_seq rfl fun i s₁ s₂ r _ _ hx => hk r s₂ fun hok => ?_
  obtain ⟨-, -, -, hlog⟩ := renameMachine_exec hx
  rw [hlog]
  simp [RenameLog.record, hok]

/-- A rename is answered with `ok` only when it is in the log. -/
theorem rename_safe (source : ProcessId) (p : PlayerId) (displayName : String)
    (s : Fleet Unit T × RenameLog) :
    renameOutline.Safe (renameMachine cfg) t o
      (fun answer s' => answer.1 = .ok → displayName ∈ s'.2 p)
      (handleForwardPlayerMessageRequest source p (.rename displayName)) s := by
  have hforward : renameOutline.Safe (renameMachine cfg) t o
      (fun answer s' => answer.1 = .ok → displayName ∈ s'.2 p)
      (forwardPlayerMessage p (.rename displayName)) s := by
    refine quiet_seq rfl fun i s₁ s₂ session _ _ _ => ?_
    split
    · intro h
      cases h
    · split
      · intro h
        cases h
      · refine quiet_seq rfl fun i s₃ s₄ held _ _ _ => ?_
        split
        · intro h
          cases h
        · refine handleRename_seq fun result s₅ hlogged => ?_
          split
          · intro h
            cases h
          · rename_i hdone
            exact fun _ => hlogged (by simpa using hdone)
  refine Outline.Safe.bind (Outline.Safe.mono (fun answer s' h => ?_) hforward)
  -- the response is sent, and names stay in the log
  have hrespond : (respond source
      (.forwardPlayerMessageResponse p answer.1 answer.2)).All fun a => a.quiet = true :=
    respond_parts Prog.compositional_all (fun a _ hl _ => all_call (Act.quiet_of_locks hl)) _ _
  exact Outline.Safe.bind (Outline.Safe.mono (fun _ _ h => h) (quiet_all
    (K := fun s => answer.1 = .ok → displayName ∈ s.2 p)
    (fun hs hk hok => (hs.names p).subset (hk hok)) hrespond h))

/-- No operation of these runs does harm. -/
theorem rename_any (fuel : Nat) (ho : o.loads = false) (s : Fleet Unit T × RenameLog) :
    renameOutline.Safe (renameMachine cfg) t o (fun _ _ => True) (o.code cfg fuel) s := by
  have hC : Prog.Compositional fun α (x : Call α) => ∀ s, True →
      renameOutline.Safe (renameMachine cfg) t o (fun _ _ => True) x s := Outline.compositional_safe
  by_cases hplain : o.plain = true
  · refine Op.code_parts hC (fun a ha s _ => quiet_call ha s) (fun p s _ => flushPlayer_safe p s) cfg
      fuel hplain (fun h => ?_) s trivial
    rw [ho] at h
    cases h
  · have hall : (o.code cfg fuel).All fun a => a.quiet = true := by
      cases o with
      | login source platform accountId areaId gate => cases ho
      | resolve platform accountId areaId =>
          exact (resolveOrCreate_all (fun _ => rfl) fuel _).bind fun _ => all_pure
      | lookup platform accountId areaId => exact (lookup_all (fun _ => rfl) _).bind fun _ => all_pure
      | renew order => exact (renewLeases_all (fun _ => rfl) order).bind fun _ => all_pure
      | _ => exact absurd rfl hplain
    exact quiet_all (K := fun _ => True) (fun _ _ => trivial) hall trivial

theorem rename_code (fuel : Nat) (ho : o.loads = false) (s : Fleet Unit T × RenameLog) :
    renameOutline.Safe (renameMachine cfg) t o (fun a s' => RenameDone o a s' ∧ True)
      (o.code cfg fuel) s := by
  cases o with
  | release p =>
      exact Outline.Safe.bind ((releasePlayer_safe p s).mono fun r s' h => ⟨h, trivial⟩)
  | forward source p command =>
      cases command with
      | rename displayName =>
          refine Outline.Safe.bind ((rename_safe source p displayName s).mono fun answer s' h => ?_)
          obtain ⟨code, sent⟩ := answer
          refine ⟨?_, trivial⟩
          cases code with
          | ok => exact h rfl
          | _ => trivial
      | echo | rejected message => exact (rename_any fuel ho s).mono fun _ _ _ => ⟨trivial, trivial⟩
  | _ => exact (rename_any fuel ho s).mono fun _ _ _ => ⟨trivial, trivial⟩

theorem rename_proved (fuel : Nat) :
    (renameOutline (T := T)).Proved (renameMachine cfg) (fun _ o => o.code cfg fuel)
      (fun c m => renameGuard c m = true) (fun _ o a s => RenameDone o a s) where
  start c t o hg _ := by
    show o.loads = false
    simpa [renameGuard] using hg
  ok c t o a k i hg _ ht := by
    show dropsDirty a c.shared.1 = false
    simpa [renameGuard, Pool.pending, ht] using hg
  safe t o s _ _ ho := rename_code fuel ho s
  compatible _ _ _ _ _ _ _ _ _ _ _ _ hevent u hu := hevent u hu

/-! ## Every run -/

variable [DecidableEq T]

/-- **A release loses no acknowledged rename.** Take any run of one process, from any state, with any
number of threads that release players, rename them, flush them or do anything else but load them, with
any commands failing, in which every record that a release drops is clean. Whenever a rename is answered
with `ok`, its name is in the log; and whenever `ReleasePlayer` returns ok, the newest name in the log
is in MariaDB. -/
theorem renames_stored (fuel : Nat) {f : Fleet Unit T}
    {c c' : Pool (Unit × T) Op Act Act.Reply OpResult (Fleet Unit T × RenameLog)}
    (hrun : Run (renameMachine cfg) (fun _ o => o.code cfg fuel) (fun c m => renameGuard c m = true)
      (Pool.initial (f, fun _ => [])) c)
    (hguard : renameGuard c (.act t i) = true)
    (hmove : c.move (renameMachine cfg) (fun _ o => o.code cfg fuel) (.act t i) = some c') :
    (∀ source displayName sent, c'.returned t =
        some (.forward source p (.rename displayName), .forwarded .ok sent) →
      displayName ∈ c'.shared.2 p) ∧
    ∀ r, c'.returned t = some (.release p, .result r) → r.ok = true →
      ∀ displayName, (c'.shared.2 p).head? = some displayName →
        StoresName (c'.shared.1.world.rows p) displayName := by
  have hinitial : AllKept (f, fun _ => []) := fun p displayName h => by cases h
  have hgood : renameOutline.Good (renameMachine cfg) (fun _ o a s => RenameDone o a s) c :=
    (rename_proved fuel).sound (Outline.good_initial hinitial fun _ => trivial) hrun
  obtain ⟨hgood', hreturns, -⟩ := (rename_proved fuel).move hgood hguard hmove
  refine ⟨fun source displayName sent ht => hreturns _ _ (Pool.returned_eq_some.mp ht),
    fun r ht hok displayName hname => ?_⟩
  have hgone : (repository c'.shared).players p = none :=
    hreturns _ _ (Pool.returned_eq_some.mp ht) hok
  have hkept := hgood'.1 p
  rw [hgone] at hkept
  exact hkept.storesName hname

/-! ### A rename before a release, and one in the middle of it -/

def renamedGame : GameConfiguration := { instanceId := 1 }

def alice : PlayerData := { base := { displayName := "Alice" } }

/-- Player 7 is online as Alice, in every service, and nobody else is there. -/
def onlineGame : GameProcess Bool where
  lease.leases := Function.update (fun _ => none) 7 (some (leaseOwner renamedGame 7 500))
  repository.players := Function.update (fun _ => none) 7 (some { loaded := true, data := alice })
  runtime := Function.update (fun _ => none) 7 (some {})
  ipc.self := some ⟨⟨10, 1⟩, 1⟩
  ipc.boundPlayers := Function.update (fun _ => false) 7 true
  ipc.receivers :=
    Function.update (fun _ => none) (playerReceiverAddress 7) (some ⟨⟨⟨10, 1⟩, 1⟩, 1⟩)
  sessions := Function.update (fun _ => none) 7 (some { state := .online, gate := ⟨20, 1, 5⟩ })

/-- The game with its servers, which have the player's lease and the row. -/
def onlineFleet : Fleet Unit Bool where
  world.leases :=
    Function.update (fun _ => none) 7 (some ⟨buildValue (leaseOwner renamedGame 7 500), 30500⟩)
  world.rows := Function.update (fun _ => none) 7 (some (.message alice))
  games _ := onlineGame

def onlinePool : Pool (Unit × Bool) Op Act Act.Reply OpResult (Fleet Unit Bool × RenameLog) :=
  Pool.initial (onlineFleet, fun _ => [])

/-- `n` sections of one of the two threads, with the servers in good order. -/
def steps (t : Bool) (n : Nat) : List (Move (Unit × Bool) Op FleetInput) :=
  List.replicate n (.act ((), t) { nowMs := 1000 })

/-- The player is renamed, and then released up to the last section. -/
def renameThenRelease : List (Move (Unit × Bool) Op FleetInput) :=
  .start ((), true) (.forward ⟨20, 1⟩ 7 (.rename "Bob")) :: steps true 4 ++
    .start ((), false) (.release 7) :: steps false 11

/-- The release stores the new name. -/
theorem renames_stored_before :
    ∃ c c', onlinePool.play (renameMachine renamedGame)
        (fun _ o => o.code renamedGame 0) renameGuard renameThenRelease = some c ∧
      c.move (renameMachine renamedGame) (fun _ o => o.code renamedGame 0)
        (.act ((), false) { nowMs := 1000 }) = some c' ∧
      c'.returned ((), false) = some (.release 7, .result .success) ∧
      StoresName (c'.shared.1.world.rows 7) "Bob" := by
  have hend : (onlinePool.play (renameMachine renamedGame)
      (fun _ o => o.code renamedGame 0) renameGuard renameThenRelease).bind (fun c =>
        (c.move (renameMachine renamedGame) (fun _ o => o.code renamedGame 0)
          (.act ((), false) { nowMs := 1000 })).map fun c' =>
            (renameGuard c (.act ((), false) { nowMs := 1000 }), c'.returned ((), false),
              (c'.shared.2 7).head?)) =
      some (true, some (.release 7, .result .success), some "Bob") := rfl
  obtain ⟨c, hc, hmove⟩ := Option.bind_eq_some_iff.mp hend
  obtain ⟨c', hc', hcs⟩ := Option.map_eq_some_iff.mp hmove
  simp only [Prod.mk.injEq] at hcs
  obtain ⟨hguard, hreturned, hname⟩ := hcs
  exact ⟨c, c', hc, hc', hreturned,
    (renames_stored 0 (Run.refl.play (fun _ _ h => h) hc) hguard hc').2 _ hreturned rfl "Bob" hname⟩

/-- The rename has passed its checks when the release finds the record clean, and takes effect before
the record is dropped. -/
def renameDuringRelease : List (Move (Unit × Bool) Op FleetInput) :=
  .start ((), true) (.forward ⟨20, 1⟩ 7 (.rename "Bob")) :: steps true 2 ++
    .start ((), false) (.release 7) :: steps false 2 ++ steps true 2 ++ steps false 5

/-- The rename is answered with `ok`, the release returns ok, and MariaDB holds the old name. -/
theorem rename_lost :
    ∃ c, Run (renameMachine renamedGame) (fun _ o => o.code renamedGame 0)
        (fun _ _ => True) onlinePool c ∧
      c.returned ((), true) =
        some (.forward ⟨20, 1⟩ 7 (.rename "Bob"), .forwarded .ok .success) ∧
      c.returned ((), false) = some (.release 7, .result .success) ∧
      c.shared.2 7 = ["Bob"] ∧ ¬ StoresName (c.shared.1.world.rows 7) "Bob" := by
  have hend : (onlinePool.play (renameMachine renamedGame)
      (fun _ o => o.code renamedGame 0) (fun _ _ => true) renameDuringRelease).map (fun c =>
        (c.returned ((), true), c.returned ((), false), c.shared.2 7, c.shared.1.world.rows 7)) =
      some (some (.forward ⟨20, 1⟩ 7 (.rename "Bob"), .forwarded .ok .success),
        some (.release 7, .result .success), ["Bob"],
        some (.message alice)) := rfl
  obtain ⟨c, hc, hcs⟩ := Option.map_eq_some_iff.mp hend
  simp only [Prod.mk.injEq] at hcs
  obtain ⟨hrenamed, hreleased, hnames, hrow⟩ := hcs
  refine ⟨c, Run.refl.play (fun _ _ _ => trivial) hc, hrenamed, hreleased, hnames, ?_⟩
  rw [hrow]
  rintro ⟨data, hdata, hname⟩
  cases hdata
  revert hname
  decide

end Fleet

end SomeServer
