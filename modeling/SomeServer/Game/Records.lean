/-
# SomeServer.Game.Records — what becomes of one player's repository record

`recordAfter` says what a section, with the reply it got, makes of the record of one player, and
`record_exec` that every section of the process does just that. While the repository's mutex is held,
only the closing section of the load or flush that holds it can touch a record at all.
-/
import SomeServer.Game.Footprint
import SomeServer.Game.Steps

namespace SomeServer

open Lib

variable {T : Type}

/-- What a section and its reply make of the record of player `p`. -/
def recordAfter (p : PlayerId) (env : Env) (record : Option PlayerRepositoryRecord) :
    (a : Act) → a.Reply → Option PlayerRepositoryRecord
  | .repository (.loadEnter q), _ => if q = p then some (record.getD {}) else record
  | .repository (.loadLeave q allow result value), _ =>
      if q = p then some (loadOutcome q allow result value env.nowMs (record.getD {})).1 else record
  | .repository (.flushLeave q stored), _ =>
      if q = p ∧ stored.ok then record.map (·.markFlushed env.nowMs) else record
  | .repository (.release q), _ => if q = p then none else record
  | .repository (.touchLogin q), r =>
      if q = p ∧ r.ok then
        record.map fun x => x.change (touchLoginData env.nowMs x.data) env.nowMs
      else record
  | .repository (.setDisplayName q displayName), r =>
      if q = p ∧ r.ok then
        record.map fun x => x.change (setDisplayNameData displayName x.data) env.nowMs
      else record
  | .runtime (.handleRename q displayName), r =>
      if q = p ∧ r.ok then
        record.map fun x => x.change (setDisplayNameData displayName x.data) env.nowMs
      else record
  | _, _ => record

/-- The closing sections of a load or a flush, which do not wait for the mutex. -/
def Act.closes : Act → Bool
  | .repository (.loadLeave _ _ _ _) => true
  | .repository (.flushLeave _ _) => true
  | _ => false

/-- A change of a player's data, as it shows in the records. -/
theorem changeData_players {m : PlayerRepository T} {change : PlayerData → PlayerData}
    {nowMs : UInt64} {q p : PlayerId} :
    (m.changeData change nowMs q).1.players p =
      if q = p ∧ (m.changeData change nowMs q).2.ok then
        (m.players p).map fun x => x.change (change x.data) nowMs
      else m.players p := by
  unfold PlayerRepository.changeData
  cases hq : m.players q with
  | none => simp
  | some record =>
    by_cases hl : record.loaded = true
    · by_cases hp : q = p
      · subst hp
        simp [hq, hl]
      · simp [hl, hp, Function.update_of_ne (Ne.symm hp)]
    · simp [hl]

/-- A change succeeds exactly for a loaded record. -/
theorem changeData_ok {m : PlayerRepository T} {change : PlayerData → PlayerData} {nowMs : UInt64}
    {q : PlayerId} : (m.changeData change nowMs q).2.ok = m.isLoaded q := by
  unfold PlayerRepository.changeData PlayerRepository.isLoaded
  cases hq : m.players q with
  | none => simp
  | some record =>
    cases hl : record.loaded <;> simp [hl]

namespace GameProcess

variable {cfg : GameConfiguration} {t u : T} {env : Env} {s s' : GameProcess T} {p : PlayerId}

/-- `HandleRename` changes the record exactly when it reports success. -/
theorem handleRename_players {q : PlayerId} {displayName : String} :
    (s.handleRename env q displayName).1.repository.players p =
      if q = p ∧ (s.handleRename env q displayName).2.ok then
        (s.repository.players p).map fun x =>
          x.change (setDisplayNameData displayName x.data) env.nowMs
      else s.repository.players p := by
  have hplayers : (s.repository.changeData (setDisplayNameData displayName) env.nowMs q).1.players p =
      if q = p ∧ (s.repository.changeData (setDisplayNameData displayName) env.nowMs q).2.ok then
        (s.repository.players p).map fun x => x.change (setDisplayNameData displayName x.data) env.nowMs
      else s.repository.players p := changeData_players
  unfold handleRename
  split
  · simp
  · split
    · simp
    · dsimp only
      split
      · rename_i hfail
        have hno : (s.repository.setDisplayName displayName env.nowMs q).2.ok = false := by
          simpa using hfail
        rw [hno]
        rw [show (s.repository.changeData (setDisplayNameData displayName) env.nowMs q).2.ok = false
          from hno] at hplayers
        exact hplayers
      · rename_i hgood
        have hyes : (s.repository.changeData (setDisplayNameData displayName) env.nowMs q).2.ok =
            true := by simpa [PlayerRepository.setDisplayName] using hgood
        rw [hyes] at hplayers
        exact hplayers

/-- A change of a player's data, by any of the three sections that make one, succeeds only for a loaded
record. -/
theorem handleRename_loaded {q : PlayerId} {displayName : String}
    (h : (s.handleRename env q displayName).2.ok = true) : s.repository.isLoaded q = true := by
  unfold handleRename at h
  split at h
  · cases h
  · split at h
    · cases h
    · dsimp only at h
      split at h
      · rename_i hfail
        have hno : (s.repository.setDisplayName displayName env.nowMs q).2.ok = false := by
          simpa using hfail
        rw [hno] at h
        cases h
      · rename_i hgood
        have hyes : (s.repository.changeData (setDisplayNameData displayName) env.nowMs q).2.ok =
            true := by simpa [PlayerRepository.setDisplayName] using hgood
        exact changeData_ok.symm.trans hyes

theorem record_exec {a : Act} {r : a.Reply} (h : s.exec cfg t env a = some (s', r)) :
    s'.repository.players p = recordAfter p env (s.repository.players p) a r := by
  cases a with
  | clock => obtain ⟨rfl, -⟩ := exec_clock h; rfl
  | storage a => obtain ⟨rfl, -⟩ := exec_storage h; rfl
  | directory a => obtain ⟨m, -, rfl⟩ := exec_directory h; rfl
  | lease a => obtain ⟨m, -, rfl⟩ := exec_lease h; rfl
  | ipc a => obtain ⟨m, -, rfl⟩ := exec_ipc h; rfl
  | persistence a => obtain ⟨m, -, rfl⟩ := exec_persistence h; rfl
  | session a => obtain ⟨m, rfl | ⟨q, gate, -, -, rfl⟩⟩ := exec_session h <;> rfl
  | repository a =>
      obtain ⟨m, hx, rfl⟩ := exec_repository h
      cases a with
      | loadEnter q =>
          simp only [PlayerRepository.exec, Option.ite_none_left_eq_some, Option.some.injEq,
            Prod.ext_iff] at hx
          rw [← hx.2.1]
          by_cases hq : q = p
          · subst hq
            simp [PlayerRepository.loadEnter, recordAfter]
          · simp [PlayerRepository.loadEnter, recordAfter, hq, Function.update_of_ne (Ne.symm hq)]
      | loadLeave q allow result value =>
          simp only [PlayerRepository.exec, Option.some.injEq, Prod.ext_iff] at hx
          rw [← hx.1]
          by_cases hq : q = p
          · subst hq
            simp [PlayerRepository.loadLeave, recordAfter]
          · simp [PlayerRepository.loadLeave, recordAfter, hq, Function.update_of_ne (Ne.symm hq)]
      | flushEnter q =>
          simp only [PlayerRepository.exec, Option.ite_none_left_eq_some, Option.some.injEq,
            Prod.ext_iff] at hx
          rw [← hx.2.1, PlayerRepository.flushEnter]
          split
          · rfl
          · split <;> rfl
      | flushLeave q stored =>
          simp only [PlayerRepository.exec, Option.some.injEq, Prod.ext_iff] at hx
          rw [← hx.1, PlayerRepository.flushLeave]
          by_cases hq : q = p
          · subst hq
            cases hok : stored.ok <;> simp [recordAfter, hok]
          · cases hok : stored.ok <;>
              simp [recordAfter, hq, hok, Function.update_of_ne (Ne.symm hq)]
      | release q =>
          simp only [PlayerRepository.exec, Option.ite_none_left_eq_some, Option.some.injEq,
            Prod.ext_iff] at hx
          rw [← hx.2.1, PlayerRepository.release]
          by_cases hq : q = p
          · subst hq
            cases hp : s.repository.players q <;> simp [recordAfter, hp]
          · cases hp : s.repository.players q <;>
              simp [recordAfter, hq, Function.update_of_ne (Ne.symm hq)]
      | touchLogin q | setDisplayName q displayName =>
          simp only [PlayerRepository.exec, Option.ite_none_left_eq_some, Option.some.injEq,
            Prod.ext_iff] at hx
          rw [← hx.2.1, ← hx.2.2]
          exact changeData_players
      | snapshot q | loadedPlayerIds order =>
          simp only [PlayerRepository.exec, Option.ite_none_left_eq_some, Option.some.injEq,
            Prod.ext_iff] at hx
          rw [← hx.2.1]
          rfl
  | runtime a =>
      cases a with
      | emplace q =>
          simp only [exec, execRuntime, Option.some.injEq, Prod.mk.injEq] at h
          rw [← h.1]
          rfl
      | removePlayer q =>
          simp only [exec, execRuntime] at h
          split at h <;> simp only [Option.some.injEq, Prod.mk.injEq] at h <;> rw [← h.1] <;> rfl
      | handleRename q displayName =>
          simp only [exec, execRuntime, Option.ite_none_left_eq_some, Option.some.injEq,
            Prod.ext_iff] at h
          rw [← h.2.1, ← h.2.2]
          exact handleRename_players
      | handleEcho q =>
          simp only [exec, execRuntime, Option.ite_none_left_eq_some, Option.some.injEq,
            Prod.ext_iff] at h
          rw [← h.2.1, handleEcho]
          split
          · rfl
          · split <;> rfl

/-! ## Replies -/

theorem setDisplayName_reply {q : PlayerId} {displayName : String} {r : Result}
    (h : s.exec cfg t env (.repository (.setDisplayName q displayName)) = some (s', r)) :
    r.ok = s.repository.isLoaded q := by
  obtain ⟨m, hx, -⟩ := exec_repository h
  simp only [PlayerRepository.exec, Option.ite_none_left_eq_some, Option.some.injEq,
    Prod.ext_iff] at hx
  rw [← hx.2.2]
  exact changeData_ok

theorem handleRename_reply {q : PlayerId} {displayName : String} {r : Result}
    (h : s.exec cfg t env (.runtime (.handleRename q displayName)) = some (s', r))
    (hok : r.ok = true) : s.repository.isLoaded q = true := by
  simp only [exec, execRuntime, Option.ite_none_left_eq_some, Option.some.injEq,
    Prod.ext_iff] at h
  rw [← h.2.2] at hok
  exact handleRename_loaded hok

/-- `FlushPlayer` goes on with the data of a loaded record, under the mutex. -/
theorem flushEnter_some {q : PlayerId} {data : PlayerData}
    (h : s.exec cfg t env (.repository (.flushEnter q)) = some (s', some data)) :
    s'.repository.mutex = some t ∧
      ∃ record, s'.repository.players q = some record ∧ record.data = data := by
  obtain ⟨m, hx, rfl⟩ := exec_repository h
  simp only [PlayerRepository.exec, Option.ite_none_left_eq_some, Option.some.injEq,
    Prod.ext_iff] at hx
  obtain ⟨-, rfl, hdata⟩ := hx
  unfold PlayerRepository.flushEnter at hdata ⊢
  cases hq : s.repository.players q with
  | none => simp [hq] at hdata
  | some record =>
    cases hl : record.loaded with
    | false => simp [hq, hl] at hdata
    | true =>
        simp only [hq, hl, Bool.not_true, Bool.false_eq_true, if_false, Option.some.injEq] at hdata
        exact ⟨by simp [hl], record, by simp [hl, hq], hdata⟩

/-! ## The mutex -/

/-- While a load or a flush holds the mutex, no other section touches the repository. -/
theorem repository_frozen {a : Act} {r : a.Reply} (hm : s.repository.mutex = some u)
    (ha : a.closes = false) (h : s.exec cfg t env a = some (s', r)) :
    s'.repository = s.repository := by
  rcases exec_repository_frame h with hsame | ⟨b, r', rfl, hx⟩ | ⟨q, displayName, rfl, -⟩
  · exact hsame
  · cases b with
    | loadLeave q allow result value | flushLeave q stored => cases ha
    | _ => simp [PlayerRepository.exec, hm] at hx
  · simp [exec, execRuntime, hm] at h

end GameProcess

end SomeServer
