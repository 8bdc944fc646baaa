/-
# SomeServer.Game.Loads — what `LoadPlayer` makes of a bad cache

`DatasetGet` asks Redis first and MariaDB only when the answer of Redis is `nil`: an error of Redis, or a
missing connection, is passed on as the result of the whole read, and a cached value is taken as it is. The
parser that rejects a cached value is in `LoadPlayer`, which does not ask again. So a player whose row is
in order is loaded from it exactly when Redis says that it has no entry (`FallsBack`).

`loadPlayer_seq` says what a `LoadPlayer` that runs alone does to the process, in terms of what
`DatasetGet` answers.
-/
import SomeServer.Game.Alone

namespace SomeServer

open Lib

namespace GameProcess

variable {T : Type} {cfg : GameConfiguration} {t : T} {s : GameProcess T} {p : PlayerId} {allow : Bool}
  {ok : Act → Env → GameProcess T → Prop} {Q : Result → GameProcess T → Prop}

/-- The rule of one storage command. -/
theorem storage_seq {α : Type} {Q : α → GameProcess T → Prop} {b : StorageAct} {k : b.Reply → Call α}
    (hk : ∀ i, ok (.storage b) i s → (k (b.answer i)).Ends (machine cfg) t ok Q s) :
    (call (.storage b) >>= k).Ends (machine cfg) t ok Q s :=
  fun i hok => ⟨s, b.answer i, rfl, hk i hok⟩

/-! ## One load -/

/-- The process while `LoadPlayer` waits for the storage. -/
def loading (s : GameProcess T) (t : T) (p : PlayerId) : GameProcess T :=
  { s with repository := s.repository.loadEnter t p }

/-- The process after `LoadPlayer`, and its result, when the storage has answered `got`. -/
def loaded (s : GameProcess T) (p : PlayerId) (allow : Bool) (got : Result × Option Blob) (nowMs : UInt64) :
    GameProcess T × Result :=
  let outcome := loadOutcome p allow got.1 got.2 nowMs ((s.repository.players p).getD {})
  ({ s with repository :=
      { mutex := none, players := Function.update s.repository.players p (some outcome.1) } }, outcome.2)

/-- `LoadPlayer` ends as its storage commands let it. -/
theorem loadPlayer_seq {P : Result × Option Blob → Prop} (hdataset : cfg.playerDataset.isNone = false)
    (hfree : s.repository.mutex = none)
    (hget : (datasetGet p).Ends (machine cfg) t ok (fun got s' => s' = s.loading t p ∧ P got) (s.loading t p))
    (hk : ∀ got i, P got → ok (.repository (.loadLeave p allow got.1 got.2)) i (s.loading t p) →
      Q (s.loaded p allow got i.nowMs).2 (s.loaded p allow got i.nowMs).1) :
    (loadPlayer cfg p allow).Ends (machine cfg) t ok Q s := by
  unfold loadPlayer
  rw [hdataset]
  refine ends_seq (fun i _ => ?_) fun i s₁ _ _ hx => ?_
  · exact ⟨s.loading t p, (), by simp [exec, PlayerRepository.exec, hfree, loading]⟩
  · have henter : s₁ = s.loading t p := by
      simpa [exec, PlayerRepository.exec, hfree, loading, eq_comm] using hx
    subst henter
    refine Prog.Ends.bind (Prog.Ends.mono ?_ hget)
    rintro got s' ⟨rfl, hP⟩ i' hok
    have hleave : (s.loading t p).exec cfg t i' (.repository (.loadLeave p allow got.1 got.2)) =
        some (s.loaded p allow got i'.nowMs) := by
      simp [exec, PlayerRepository.exec, PlayerRepository.loadLeave, loading, loaded,
        PlayerRepository.loadEnter]
    exact ⟨_, _, hleave, hk got i' hP hok⟩

/-- `DatasetGet` leaves the process alone. -/
theorem datasetGet_ends : (datasetGet p).Ends (machine cfg) t ok (fun _ s' => s' = s) s :=
  storage_ends (datasetGet_all (fun b => ⟨b, rfl⟩) p) fun _ => rfl

/-! ## The row and the cache -/

/-- Redis answers `GET` in this way, MariaDB has this row, and the clock stands at `nowMs` when `LoadPlayer`
looks at what it has got. -/
def RowServed (cached : RedisReply Blob) (data : PlayerData) (nowMs : UInt64) (a : Act) (i : Env)
    (_ : GameProcess T) : Prop :=
  match a with
  | .storage (.redisGet _) => i.cached = cached
  | .storage .ensureMariaEntriesTable => i.maria = .ok
  | .storage (.select _) => i.maria = .row (.message data)
  | .repository (.loadLeave _ _ _ _) => i.nowMs = nowMs
  | _ => True

/-- What `DatasetGet` answers then. -/
def servedRow (cached : RedisReply Blob) (data : PlayerData) : Result × Option Blob :=
  if (redisGet cached).1.ok then (⟨true, "redis"⟩, (redisGet cached).2)
  else if (redisGet cached).1.message ≠ "nil" then ((redisGet cached).1, none)
  else (⟨true, "maria"⟩, some (.message data))

variable {cached : RedisReply Blob} {data : PlayerData} {nowMs : UInt64}

theorem datasetGet_served : (datasetGet p).Ends (machine cfg) t (RowServed cached data nowMs)
    (fun got s' => s' = s ∧ got = servedRow cached data) s := by
  refine storage_seq fun i hcached => ?_
  have hanswer : StorageAct.answer i (.redisGet p) = redisGet cached := congrArg redisGet hcached
  rw [hanswer, servedRow]
  split
  · exact ⟨rfl, rfl⟩
  · split
    · exact ⟨rfl, rfl⟩
    · -- Redis has no entry: MariaDB is asked, and what Redis says to the copy is ignored
      refine storage_seq fun i₁ hmaria => ?_
      have hensure : StorageAct.answer i₁ .ensureMariaEntriesTable = ⟨true, "OK"⟩ :=
        congrArg ensureMariaEntriesTable hmaria
      rw [hensure]
      refine storage_seq fun i₂ hrow => ?_
      have hselect : StorageAct.answer i₂ (.select p) = (⟨true, "maria"⟩, some (.message data)) :=
        congrArg mariaSelect hrow
      rw [hselect]
      exact storage_seq fun _ _ => ⟨rfl, rfl⟩

/-- The player is loaded with this data. -/
def LoadedWith (p : PlayerId) (data : PlayerData) (r : Result) (s : GameProcess T) : Prop :=
  r.ok = true ∧ ∃ record, s.repository.players p = some record ∧ record.loaded = true ∧ record.data = data

/-- Redis answers that it has no entry, or fails with a text that says the same. -/
def FallsBack (cached : RedisReply Blob) : Prop :=
  cached = .nil ∨ cached = .noReply "nil" ∨ cached = .status "nil" ∨ cached = .error "nil"

/-- The text of Redis's error is one after which `LoadPlayer` makes a default record, and the row is that
very record. -/
def Coincides (p : PlayerId) (allow : Bool) (nowMs : UInt64) (cached : RedisReply Blob) (data : PlayerData) :
    Prop :=
  (redisGet cached).1.ok = false ∧ (initializeDefaultPlayerData p nowMs).data = data ∧
    ((redisGet cached).1.message = "not found" ∨
      allow = true ∧ (redisGet cached).1.message = mariaUnavailable)

/-- `DatasetGet` goes on to MariaDB after exactly these answers. -/
theorem fallsBack_iff :
    FallsBack cached ↔ (redisGet cached).1.ok = false ∧ (redisGet cached).1.message = "nil" := by
  unfold FallsBack
  cases cached with
  | noReply errstr =>
      by_cases hempty : errstr = ""
      · subst hempty
        simp [redisGet, contextError]
      · simp [redisGet, contextError, hempty]
  | unavailable | nil | integer value | string value | status str | error str => simp [redisGet]

/-- A read that fails loads the row only by coincidence. -/
theorem loadedWith_failed {result : Result} (hok : result.ok = false) :
    LoadedWith p data (s.loaded p allow (result, none) nowMs).2 (s.loaded p allow (result, none) nowMs).1 ↔
      (initializeDefaultPlayerData p nowMs).data = data ∧
        (result.message = "not found" ∨ allow = true ∧ result.message = mariaUnavailable) := by
  unfold LoadedWith loaded loadOutcome
  simp only [hok]
  by_cases hfound : result.message = "not found"
  · simp [hfound, PlayerRepositoryRecord.markLoaded, PlayerRepositoryRecord.createDefault]
  · rw [if_neg hfound]
    by_cases hmaria : (allow && result.message = mariaUnavailable) = true
    · rw [if_pos hmaria]
      simp only [Bool.and_eq_true, decide_eq_true_eq] at hmaria
      simp [hmaria, PlayerRepositoryRecord.markLoaded, PlayerRepositoryRecord.createDefault]
    · rw [if_neg hmaria]
      simp only [Bool.and_eq_true, decide_eq_true_eq] at hmaria
      simp [hfound, hmaria]

/-- **A bad cache and a good row.** Let the dataset be configured, MariaDB be there with a row that parses,
and Redis answer anything but a value that parses: an entry that does not, no entry, an error, no
connection. `LoadPlayer` loads the row if and only if Redis answers that there is no entry, or its error
happens to have the text on which a default record is made and the row is that record. -/
theorem load_from_row (hdataset : cfg.playerDataset.isNone = false) (hfree : s.repository.mutex = none)
    (hbad : ∀ value, cached ≠ .string (.message value)) :
    (loadPlayer cfg p allow).Ends (machine cfg) t (RowServed cached data nowMs)
      (fun r s' => LoadedWith p data r s' ↔ FallsBack cached ∨ Coincides p allow nowMs cached data) s := by
  refine loadPlayer_seq hdataset hfree datasetGet_served ?_
  rintro got i rfl hnow
  rw [show i.nowMs = nowMs from hnow, fallsBack_iff, Coincides]
  unfold servedRow
  cases hok : (redisGet cached).1.ok with
  | true =>
      -- the cached value is all that is looked at
      obtain ⟨value, rfl⟩ : ∃ value, cached = .string value := by
        cases cached with
        | string value => exact ⟨value, rfl⟩
        | unavailable | noReply errstr | status str | error str | nil | integer value => cases hok
      cases value with
      | message value => exact absurd rfl (hbad value)
      | corrupt parsed => simp [LoadedWith, loaded, loadOutcome, redisGet, Blob.parses]
  | false =>
      by_cases hnil : (redisGet cached).1.message = "nil"
      · simp [LoadedWith, loaded, loadOutcome, hnil, Blob.parses, Blob.parsed,
          PlayerRepositoryRecord.markLoaded]
      · rw [if_neg Bool.false_ne_true, if_pos hnil, loadedWith_failed hok]
        simp [hnil]

/-- Redis has no entry for player 7, and the row is loaded. -/
theorem load_from_row_absent :
    (loadPlayer { instanceId := 1 } 7 false).Ends (machine { instanceId := 1 }) ()
      (RowServed .nil { core := { level := 9 } } 1000)
      (LoadedWith 7 { core := { level := 9 } }) ({} : GameProcess Unit) :=
  Prog.Ends.mono (fun _ _ h => h.mpr (.inl (.inl rfl))) (load_from_row rfl rfl (fun _ h => by cases h))

/-- A load of player 7, whose row is in MariaDB, comes to something else when Redis answers so. -/
def Blocked (cached : RedisReply Blob) : Prop :=
  (loadPlayer { instanceId := 1 } 7 false).Ends (machine { instanceId := 1 }) ()
    (RowServed cached { core := { level := 9 } } 1000)
    (fun r s' => ¬ LoadedWith 7 { core := { level := 9 } } r s') ({} : GameProcess Unit)

/-- An entry that does not parse, a missing connection and an error each keep player 7 from being loaded. -/
theorem load_blocked : Blocked (.string (.corrupt {})) ∧ Blocked .unavailable ∧
    Blocked (.error "LOADING Redis is loading the dataset in memory") := by
  refine ⟨?_, ?_, ?_⟩
  · refine loadPlayer_seq rfl rfl datasetGet_served ?_
    rintro got i rfl - ⟨hok, -⟩
    simp [loaded, loadOutcome, servedRow, redisGet, Blob.parses] at hok
  · refine loadPlayer_seq rfl rfl datasetGet_served ?_
    rintro got i rfl - ⟨hok, -⟩
    simp [loaded, loadOutcome, servedRow, redisGet] at hok
  · refine loadPlayer_seq rfl rfl datasetGet_served ?_
    rintro got i rfl - ⟨hok, -⟩
    simp [loaded, loadOutcome, servedRow, redisGet] at hok

end GameProcess

end SomeServer
