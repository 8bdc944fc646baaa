/-
# SomeServer.Storage.Resolved — the datasets of a storage configuration

`ResolveStorageConfiguration` looks at every dataset, in the order of their names: its two profiles must be
there, its prefixes usable, and its timing complete once the defaults have been filled in. The first dataset that
fails makes the whole configuration fail, and takes the datasets that have already been added with it.

A text is checked byte by byte in the source. No byte of a character outside ASCII is a letter or a digit in the
"C" locale, which the program never leaves, so the characters are looked at here.
-/
import SomeServer.Lib.OrderedMap
import SomeServer.Storage.Connect
import Mathlib.Data.String.Basic

namespace SomeServer

open Lib

/-! ## The configurations -/

structure MariaConfiguration where
  host : String := "127.0.0.1"
  port : UInt16 := 3306
  database : String := ""
  username : String := ""
  password : String := ""
  poolSize : UInt32 := 16
deriving DecidableEq, Repr

/-- `CommonConfiguration`, less its log. -/
structure CommonConfiguration where
  redis : OrderedMap String RedisConfiguration := {}
  maria : OrderedMap String MariaConfiguration := {}

structure DatasetTimingConfiguration where
  aliveTimeSeconds : UInt32 := 0
  landingTimeSeconds : UInt32 := 0
  landingMinTimeSeconds : UInt32 := 0
deriving DecidableEq, Repr

structure DatasetConfiguration where
  redis : String := "default"
  maria : String := "default"
  redisPrefix : String := ""
  tablePrefix : String := ""
  timing : DatasetTimingConfiguration := {}
deriving DecidableEq, Repr

structure StorageConfiguration where
  defaults : DatasetTimingConfiguration := ⟨86400, 1800, 60⟩
  datasets : OrderedMap String DatasetConfiguration := {}

/-- `redis` and `maria` are the profiles that the source points to. -/
structure ResolvedDatasetConfiguration where
  name : String
  redisName : String
  mariaName : String
  redis : RedisConfiguration
  maria : MariaConfiguration
  redisPrefix : String
  tablePrefix : String
  fullRedisPrefix : String
  timing : DatasetTimingConfiguration
deriving DecidableEq, Repr

structure ResolvedStorageConfiguration where
  datasets : OrderedMap String ResolvedDatasetConfiguration := {}

namespace ResolvedStorageConfiguration

def findDataset (s : ResolvedStorageConfiguration) (name : String) : Option ResolvedDatasetConfiguration :=
  s.datasets.find? name

def clear (_ : ResolvedStorageConfiguration) : ResolvedStorageConfiguration := {}

def addDataset (s : ResolvedStorageConfiguration) (configuration : ResolvedDatasetConfiguration) :
    ResolvedStorageConfiguration where
  datasets := s.datasets.emplace configuration.name configuration

end ResolvedStorageConfiguration

/-! ## The checks -/

/-- `std::isalnum` in the "C" locale, and the underscore. -/
def isIdentifierChar (ch : Char) : Bool := ch.isAlphanum || ch = '_'

/-- `IsSafeTablePrefix`. -/
def isSafeTablePrefix (text : String) : Bool :=
  if text.toList.any fun ch => !isIdentifierChar ch then false else text ≠ ""

/-- `IsSafeSqlIdentifier`. -/
def isSafeSqlIdentifier (text : String) : Bool :=
  if text = "" then false
  else if text.toList.any fun ch => !isIdentifierChar ch then false
  else true

/-- `ResolveTimingValue`. -/
def resolveTimingValue (datasetValue defaultValue : UInt32) : UInt32 :=
  if datasetValue ≠ 0 then datasetValue else defaultValue

/-- The timing of a dataset, with the defaults where it is zero. -/
def resolveTiming (timing defaults : DatasetTimingConfiguration) : DatasetTimingConfiguration where
  aliveTimeSeconds := resolveTimingValue timing.aliveTimeSeconds defaults.aliveTimeSeconds
  landingTimeSeconds := resolveTimingValue timing.landingTimeSeconds defaults.landingTimeSeconds
  landingMinTimeSeconds := resolveTimingValue timing.landingMinTimeSeconds defaults.landingMinTimeSeconds

/-- The item of a dataset, once its profiles have been found. -/
def resolvedItem (defaults : DatasetTimingConfiguration) (datasetName : String) (dataset : DatasetConfiguration)
    (redis : RedisConfiguration) (maria : MariaConfiguration) : ResolvedDatasetConfiguration where
  name := datasetName
  redisName := dataset.redis
  mariaName := dataset.maria
  redis
  maria
  redisPrefix := dataset.redisPrefix
  tablePrefix := dataset.tablePrefix
  fullRedisPrefix := redis.keyPrefix ++ dataset.redisPrefix
  timing := resolveTiming dataset.timing defaults

/-- The last checks of a turn of the loop: a timing that is complete. -/
def checkTiming (datasetName : String) (item : ResolvedDatasetConfiguration) :
    Except String ResolvedDatasetConfiguration :=
  if item.timing.aliveTimeSeconds = 0 then
    .error ("storage.datasets." ++ datasetName ++ " resolved alive_time_seconds must be greater than 0")
  else if item.timing.landingTimeSeconds = 0 then
    .error ("storage.datasets." ++ datasetName ++ " resolved landing_time_seconds must be greater than 0")
  else if item.timing.landingMinTimeSeconds = 0 then
    .error ("storage.datasets." ++ datasetName ++ " resolved landing_min_time_seconds must be greater than 0")
  else .ok item

/-- A turn of the loop of `ResolveStorageConfiguration`: the item that is added, or the error. -/
def resolveDataset (common : CommonConfiguration) (defaults : DatasetTimingConfiguration) (datasetName : String)
    (dataset : DatasetConfiguration) : Except String ResolvedDatasetConfiguration :=
  if dataset.redis = "" then .error ("storage.datasets." ++ datasetName ++ ".redis must not be empty")
  else if dataset.maria = "" then .error ("storage.datasets." ++ datasetName ++ ".maria must not be empty")
  else if dataset.redisPrefix = "" then
    .error ("storage.datasets." ++ datasetName ++ ".redis_prefix must not be empty")
  else if dataset.tablePrefix = "" then
    .error ("storage.datasets." ++ datasetName ++ ".table_prefix must not be empty")
  else if !isSafeTablePrefix dataset.tablePrefix then
    .error ("storage.datasets." ++ datasetName ++ ".table_prefix must contain only [A-Za-z0-9_]")
  else match common.redis.find? dataset.redis with
    | none =>
        .error ("storage.datasets." ++ datasetName ++ ".redis references unknown profile '" ++ dataset.redis ++ "'")
    | some redis =>
        match common.maria.find? dataset.maria with
        | none =>
            .error ("storage.datasets." ++ datasetName ++ ".maria references unknown profile '" ++ dataset.maria ++
              "'")
        | some maria => checkTiming datasetName (resolvedItem defaults datasetName dataset redis maria)

/-- What `ResolveStorageConfiguration` returns, and what it leaves in its two arguments. -/
structure StorageResolution where
  ok : Bool
  resolved : ResolvedStorageConfiguration
  error : String

/-- The loop over the datasets. -/
def resolveDatasets (common : CommonConfiguration) (defaults : DatasetTimingConfiguration) :
    List (String × DatasetConfiguration) → ResolvedStorageConfiguration → String → StorageResolution
  | [], resolved, error => ⟨true, resolved, error⟩
  | (datasetName, dataset) :: rest, resolved, error =>
      match resolveDataset common defaults datasetName dataset with
      | .error text => ⟨false, resolved.clear, text⟩
      | .ok item => resolveDatasets common defaults rest (resolved.addDataset item) error

def resolveStorageConfiguration (common : CommonConfiguration) (storage : StorageConfiguration)
    (resolved : ResolvedStorageConfiguration) (error : String) : StorageResolution :=
  resolveDatasets common storage.defaults storage.datasets.entries resolved.clear error

/-- `StorageService::BuildMariaEntriesTableName`, for a service with this configuration. -/
def buildMariaEntriesTableName (configuration : ResolvedStorageConfiguration) (datasetName : String) : String :=
  match configuration.findDataset datasetName with
  | none => ""
  | some dataset => if !isSafeSqlIdentifier dataset.tablePrefix then "" else dataset.tablePrefix ++ "entries"

/-! ## One dataset -/

/-- The dataset names profiles that exist, has a prefix for its keys and one of safe characters for its tables,
and a complete timing. -/
structure DatasetConfiguration.Usable (common : CommonConfiguration) (defaults : DatasetTimingConfiguration)
    (dataset : DatasetConfiguration) : Prop where
  redis : (common.redis.find? dataset.redis).isSome = true
  maria : (common.maria.find? dataset.maria).isSome = true
  redisPrefix : dataset.redisPrefix ≠ ""
  tablePrefix : ∀ ch ∈ dataset.tablePrefix.toList, isIdentifierChar ch = true
  aliveTime : (resolveTiming dataset.timing defaults).aliveTimeSeconds ≠ 0
  landingTime : (resolveTiming dataset.timing defaults).landingTimeSeconds ≠ 0
  landingMinTime : (resolveTiming dataset.timing defaults).landingMinTimeSeconds ≠ 0

/-- A usable dataset without an empty name or prefix. -/
structure DatasetConfiguration.Accepted (common : CommonConfiguration) (defaults : DatasetTimingConfiguration)
    (dataset : DatasetConfiguration) : Prop extends dataset.Usable common defaults where
  redisName : dataset.redis ≠ ""
  mariaName : dataset.maria ≠ ""
  tablePrefixGiven : dataset.tablePrefix ≠ ""

section

variable {common : CommonConfiguration} {defaults : DatasetTimingConfiguration} {name datasetName : String}
  {dataset : DatasetConfiguration} {item item' : ResolvedDatasetConfiguration}

theorem isSafeTablePrefix_iff {text : String} :
    isSafeTablePrefix text = true ↔ (∀ ch ∈ text.toList, isIdentifierChar ch = true) ∧ text ≠ "" := by
  unfold isSafeTablePrefix
  split
  · next h =>
    obtain ⟨ch, hmem, hch⟩ := List.any_eq_true.1 h
    constructor
    · intro h
      cases h
    · intro hall
      rw [hall.1 ch hmem] at hch
      cases hch
  · next h =>
    have hall : ∀ ch ∈ text.toList, isIdentifierChar ch = true := by
      intro ch hmem
      by_contra hch
      exact h (List.any_eq_true.2 ⟨ch, hmem, by simpa using hch⟩)
    rw [decide_eq_true_eq]
    exact ⟨fun hne => ⟨hall, hne⟩, fun h => h.2⟩

/-- The two files check the same. -/
theorem isSafeSqlIdentifier_eq (text : String) : isSafeSqlIdentifier text = isSafeTablePrefix text := by
  unfold isSafeSqlIdentifier isSafeTablePrefix
  by_cases h : text = ""
  · simp [h]
  · simp [h]

/-- A check that has been passed. -/
theorem ite_error_eq_ok {α : Type} {c : Prop} [Decidable c] {text : String} {x : Except String α} {a : α} :
    (if c then Except.error text else x) = .ok a ↔ ¬c ∧ x = .ok a := by
  split
  · next h => simp [h]
  · next h => simp [h]

theorem checkTiming_ok_iff : checkTiming datasetName item = .ok item' ↔ item.timing.aliveTimeSeconds ≠ 0 ∧
    item.timing.landingTimeSeconds ≠ 0 ∧ item.timing.landingMinTimeSeconds ≠ 0 ∧ item = item' := by
  unfold checkTiming
  rw [ite_error_eq_ok, ite_error_eq_ok, ite_error_eq_ok, Except.ok.injEq]

/-- Exactly the accepted datasets become items. -/
theorem resolveDataset_ok_iff : resolveDataset common defaults datasetName dataset = .ok item ↔
    dataset.Accepted common defaults ∧ ∃ redis maria, common.redis.find? dataset.redis = some redis ∧
      common.maria.find? dataset.maria = some maria ∧
        item = resolvedItem defaults datasetName dataset redis maria := by
  unfold resolveDataset
  simp only [ite_error_eq_ok, Bool.not_eq_true', Bool.not_eq_false, isSafeTablePrefix_iff]
  cases hredis : common.redis.find? dataset.redis with
  | none => simp
  | some redis =>
      cases hmaria : common.maria.find? dataset.maria with
      | none => simp
      | some maria =>
          simp only [checkTiming_ok_iff]
          constructor
          · rintro ⟨hredisName, hmariaName, hredisPrefix, hgiven, ⟨hsafe, -⟩, halive, hlanding, hmin, rfl⟩
            refine ⟨⟨⟨?_, ?_, hredisPrefix, hsafe, halive, hlanding, hmin⟩, hredisName, hmariaName, hgiven⟩,
              redis, maria, rfl, rfl, rfl⟩
            · rw [hredis]
              rfl
            · rw [hmaria]
              rfl
          · rintro ⟨h, redis', maria', hsame, hsame', rfl⟩
            cases hsame
            cases hsame'
            exact ⟨h.redisName, h.mariaName, h.redisPrefix, h.tablePrefixGiven, ⟨h.tablePrefix, h.tablePrefixGiven⟩,
              h.aliveTime, h.landingTime, h.landingMinTime, rfl⟩

theorem DatasetConfiguration.Accepted.resolves (h : dataset.Accepted common defaults) (datasetName : String) :
    ∃ item, resolveDataset common defaults datasetName dataset = .ok item := by
  obtain ⟨redis, hredis⟩ := Option.isSome_iff_exists.1 h.redis
  obtain ⟨maria, hmaria⟩ := Option.isSome_iff_exists.1 h.maria
  exact ⟨_, resolveDataset_ok_iff.2 ⟨h, redis, maria, hredis, hmaria, rfl⟩⟩

theorem not_accepted_of_error {text : String}
    (h : resolveDataset common defaults datasetName dataset = .error text) : ¬dataset.Accepted common defaults := by
  intro haccepted
  obtain ⟨item, hitem⟩ := haccepted.resolves datasetName
  rw [h] at hitem
  cases hitem

/-- The error of a dataset says whose it is. -/
theorem resolveDataset_error {text : String}
    (h : resolveDataset common defaults datasetName dataset = .error text) :
    ∃ problem, text = "storage.datasets." ++ datasetName ++ problem := by
  unfold resolveDataset checkTiming at h
  repeat' split at h
  all_goals cases h
  -- behind the name of the dataset comes one text, or three around the name of a profile
  all_goals first
    | exact ⟨_, rfl⟩
    | exact ⟨_, by simp only [String.append_assoc]; rfl⟩

/-! ## The loop -/

variable {l : List (String × DatasetConfiguration)} {resolved : ResolvedStorageConfiguration} {error : String}

theorem resolveDatasets_ok_iff : (resolveDatasets common defaults l resolved error).ok = true ↔
    ∀ entry ∈ l, entry.2.Accepted common defaults := by
  induction l generalizing resolved with
  | nil => simp [resolveDatasets]
  | cons entry rest ih =>
      rw [List.forall_mem_cons]
      unfold resolveDatasets
      cases hentry : resolveDataset common defaults entry.1 entry.2 with
      | error text =>
          have hnot : ¬entry.2.Accepted common defaults := not_accepted_of_error hentry
          simp [hnot]
      | ok item =>
          have haccepted := (resolveDataset_ok_iff.1 hentry).1
          simp only [haccepted, true_and]
          exact ih

/-- A failure takes everything with it. -/
theorem resolveDatasets_failed (h : (resolveDatasets common defaults l resolved error).ok = false) :
    (resolveDatasets common defaults l resolved error).resolved = {} := by
  induction l generalizing resolved with
  | nil => cases h
  | cons entry rest ih =>
      unfold resolveDatasets at h ⊢
      split at h
      · rfl
      · exact ih h

/-- The error is that of the first dataset that is not accepted. -/
theorem resolveDatasets_error (h : (resolveDatasets common defaults l resolved error).ok = false) :
    ∃ before entry rest problem, l = before ++ entry :: rest ∧ (∀ e ∈ before, e.2.Accepted common defaults) ∧
      ¬entry.2.Accepted common defaults ∧ (resolveDatasets common defaults l resolved error).error =
        "storage.datasets." ++ entry.1 ++ problem := by
  induction l generalizing resolved with
  | nil => cases h
  | cons entry rest ih =>
      unfold resolveDatasets at h ⊢
      split at h
      · next text htext =>
        obtain ⟨problem, hproblem⟩ := resolveDataset_error htext
        exact ⟨[], entry, rest, problem, rfl, fun e he => absurd he List.not_mem_nil,
          not_accepted_of_error htext, hproblem⟩
      · next item hitem =>
        obtain ⟨before, entry', rest', problem, rfl, hbefore, hentry', herror⟩ := ih h
        refine ⟨entry :: before, entry', rest', problem, rfl, ?_, hentry', herror⟩
        exact List.forall_mem_cons.2 ⟨(resolveDataset_ok_iff.1 hitem).1, hbefore⟩

/-- The names that are there after a success. -/
theorem resolveDatasets_names (h : (resolveDatasets common defaults l resolved error).ok = true) :
    ((resolveDatasets common defaults l resolved error).resolved.findDataset name).isSome =
      ((resolved.findDataset name).isSome || (Ordered.lookup name l).isSome) := by
  induction l generalizing resolved with
  | nil => exact (Bool.or_false _).symm
  | cons entry rest ih =>
      unfold resolveDatasets at h ⊢
      split at h
      · cases h
      · next item hitem =>
        obtain ⟨-, redis, maria, -, -, rfl⟩ := resolveDataset_ok_iff.1 hitem
        rw [ih h, Ordered.lookup_cons]
        unfold ResolvedStorageConfiguration.addDataset ResolvedStorageConfiguration.findDataset
        rw [OrderedMap.isSome_find?_emplace, Bool.or_assoc]
        congr 1
        show (decide (name = entry.1) || _) = _
        by_cases hname : name = entry.1
        · simp [hname]
        · simp [hname, Ne.symm hname]

/-- Every item has a safe table prefix. -/
def ResolvedStorageConfiguration.Safe (s : ResolvedStorageConfiguration) : Prop :=
  ∀ name item, s.findDataset name = some item → isSafeTablePrefix item.tablePrefix = true

theorem resolveDatasets_safe (hsafe : resolved.Safe) :
    (resolveDatasets common defaults l resolved error).resolved.Safe := by
  induction l generalizing resolved with
  | nil => exact hsafe
  | cons entry rest ih =>
      unfold resolveDatasets
      split
      · intro name item h
        cases h
      · next item hitem =>
        obtain ⟨haccepted, redis, maria, -, -, rfl⟩ := resolveDataset_ok_iff.1 hitem
        refine ih fun name item h => ?_
        rcases OrderedMap.find?_emplace h with h | ⟨-, rfl⟩
        · exact hsafe name item h
        · exact isSafeTablePrefix_iff.2 ⟨haccepted.tablePrefix, haccepted.tablePrefixGiven⟩

theorem buildMariaEntriesTableName_ne (hsafe : resolved.Safe)
    (h : (resolved.findDataset name).isSome = true) : buildMariaEntriesTableName resolved name ≠ "" := by
  obtain ⟨item, hitem⟩ := Option.isSome_iff_exists.1 h
  unfold buildMariaEntriesTableName
  rw [hitem]
  dsimp only
  rw [isSafeSqlIdentifier_eq, hsafe name item hitem, Bool.not_true, if_neg Bool.false_ne_true]
  intro hempty
  have hlength := congrArg String.length hempty
  simp at hlength

end

/-! ## The whole configuration -/

/-- A configuration is taken as a whole or not at all. -/
structure StorageResolution.AllOrNothing (common : CommonConfiguration) (storage : StorageConfiguration)
    (outcome : StorageResolution) : Prop where
  ok_iff : outcome.ok = true ↔
    ∀ name dataset, storage.datasets.find? name = some dataset → dataset.Accepted common storage.defaults
  names : outcome.ok = true →
    ∀ name, (outcome.resolved.findDataset name).isSome = (storage.datasets.find? name).isSome
  tables : outcome.ok = true → ∀ name, (storage.datasets.find? name).isSome = true →
    buildMariaEntriesTableName outcome.resolved name ≠ ""
  nothing : outcome.ok = false → outcome.resolved = {}

/-- Whatever the set holds before: with datasets that are all accepted it holds exactly them, each with a table,
and with any other nothing. -/
theorem resolveStorageConfiguration_all_or_nothing (common : CommonConfiguration) (storage : StorageConfiguration)
    (resolved : ResolvedStorageConfiguration) (error : String) :
    (resolveStorageConfiguration common storage resolved error).AllOrNothing common storage := by
  unfold resolveStorageConfiguration
  have hnames : (resolveDatasets common storage.defaults storage.datasets.entries resolved.clear error).ok = true →
      ∀ name, ((resolveDatasets common storage.defaults storage.datasets.entries resolved.clear
        error).resolved.findDataset name).isSome = (storage.datasets.find? name).isSome := by
    intro hok name
    rw [resolveDatasets_names hok]
    exact Bool.false_or _
  have hsafe : resolved.clear.Safe := by
    intro name item h
    cases h
  constructor
  · rw [resolveDatasets_ok_iff]
    constructor
    · intro h name dataset hdataset
      exact h (name, dataset) (OrderedMap.find?_eq_some.1 hdataset)
    · intro h entry hentry
      exact h entry.1 entry.2 (OrderedMap.find?_eq_some.2 hentry)
  · exact hnames
  · intro hok name hname
    apply buildMariaEntriesTableName_ne (resolveDatasets_safe hsafe)
    rw [hnames hok, hname]
  · exact resolveDatasets_failed

/-- One profile of each kind, under the default name. -/
def defaultProfiles : CommonConfiguration where
  redis := ({} : OrderedMap String RedisConfiguration).emplace "default" {}
  maria := ({} : OrderedMap String MariaConfiguration).emplace "default" {}

/-- A dataset without a table prefix. -/
def untabledDataset : DatasetConfiguration := { redisPrefix := "player:" }

def untabledStorage : StorageConfiguration where
  datasets := ({} : OrderedMap String DatasetConfiguration).emplace "player" untabledDataset

/-- An empty table prefix has no character that is not safe, but is refused. -/
theorem resolveStorageConfiguration_untabled :
    (∀ name dataset, untabledStorage.datasets.find? name = some dataset →
      dataset.Usable defaultProfiles untabledStorage.defaults) ∧
    (resolveStorageConfiguration defaultProfiles untabledStorage {} "").ok = false := by
  refine ⟨?_, by decide⟩
  intro name dataset hdataset
  rcases OrderedMap.find?_emplace hdataset with h | ⟨-, rfl⟩
  · cases h
  · exact ⟨by decide, by decide, by decide, by simp [untabledDataset], by decide, by decide, by decide⟩

end SomeServer
