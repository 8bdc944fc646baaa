/-
# SomeServer.Game.Activations — what a failed `ActivatePlayer` leaves behind

`ActivatePlayer` acquires the lease, loads the repository record, binds the receiver and makes the runtime
entry, and each exit with an error undoes some of that by hand. The undoing is the same wherever the
activation has started from. So it takes away a lease or a record that was there before, and it leaves
behind the record that a failed load has created. `failed_activation` says for every reachable state, every
answer of the lease command and every answer of the storage whether a failure leaves the player's things
as they were.
-/
import SomeServer.Game.Loads
import SomeServer.Game.Stores

namespace SomeServer

open Lib

/-! ## What a process has of a player -/

/-- The lease, repository record, runtime entry, receiver binding and session record of one player. -/
@[ext] structure Holdings where
  lease : Option PlayerLeaseOwner
  record : Option PlayerRepositoryRecord
  runtime : Option PlayerInstance
  bound : Bool
  receiver : Option ReceiverEntry
  session : Option PlayerSessionRecord

theorem Holdings.keeps_iff (h : Holdings) (lease : Option PlayerLeaseOwner)
    (record : Option PlayerRepositoryRecord) :
    { h with lease, record } = h ↔ h.lease = lease ∧ h.record = record := by
  simp only [Holdings.ext_iff, and_true]
  exact and_congr eq_comm eq_comm

/-- `LoadPlayer` succeeds when the storage answers so. -/
def loads (allow : Bool) (got : Result × Option Blob) : Bool :=
  match got.1.ok, got.2 with
  | true, some value => value.parses
  | _, _ => got.1.message = "not found" || (allow && got.1.message = mariaUnavailable)

/-- A failed parse leaves the data it has read so far in the record, which is then as before only when it
is the same data. -/
def LoadSpares (got : Result × Option Blob) (record : PlayerRepositoryRecord) : Prop :=
  got.1.ok = true → ∀ value, got.2 = some value → value.parsed = record.data

section Load

variable {p : PlayerId} {allow : Bool} {got : Result × Option Blob} {nowMs : UInt64}
  {record : PlayerRepositoryRecord}

/-- The storage has no value: `LoadPlayer` makes a default record, or fails and leaves its record alone. -/
theorem loadOutcome_absent (h : got.1.ok = false ∨ got.2 = none) :
    loads allow got = (decide (got.1.message = "not found") || (allow && got.1.message = mariaUnavailable)) ∧
      (loadOutcome p allow got.1 got.2 nowMs record).2.ok = loads allow got ∧
      (loads allow got = false → (loadOutcome p allow got.1 got.2 nowMs record).1 = record) := by
  obtain ⟨result, value⟩ := got
  replace h : result.ok = false ∨ value = none := h
  have hloads : loads allow (result, value) =
      (decide (result.message = "not found") || (allow && result.message = mariaUnavailable)) := by
    unfold loads
    rcases h with hok | rfl
    · simp only [hok]
    · cases result.ok <;> rfl
  refine ⟨hloads, ?_⟩
  rw [hloads]
  -- what the load comes to is read off the error's text
  have houtcome : loadOutcome p allow result value nowMs record =
      if result.message = "not found" then
        ((PlayerRepositoryRecord.createDefault p false nowMs).markLoaded nowMs, .success)
      else if allow && result.message = mariaUnavailable then
        ((PlayerRepositoryRecord.createDefault p true nowMs).markLoaded nowMs, .success)
      else (record, .failure result.message) := by
    unfold loadOutcome
    rcases h with hok | rfl
    · simp only [hok]
    · cases result.ok <;> rfl
  show (loadOutcome p allow result value nowMs record).2.ok = _ ∧
    (_ → (loadOutcome p allow result value nowMs record).1 = record)
  rw [houtcome]
  by_cases hfound : result.message = "not found"
  · simp [hfound]
  · rw [if_neg hfound]
    cases hmaria : (allow && decide (result.message = mariaUnavailable)) <;> simp [hfound]

theorem loadOutcome_ok : (loadOutcome p allow got.1 got.2 nowMs record).2.ok = loads allow got := by
  by_cases h : got.1.ok = false ∨ got.2 = none
  · exact (loadOutcome_absent h).2.1
  · obtain ⟨result, value⟩ := got
    simp only [not_or, Bool.not_eq_false] at h
    obtain ⟨hok, hvalue⟩ := h
    obtain ⟨value, rfl⟩ := Option.ne_none_iff_exists'.mp hvalue
    cases hparses : value.parses <;> simp [loadOutcome, loads, hok, hparses]

theorem loadOutcome_spares (h : loads allow got = false) :
    (loadOutcome p allow got.1 got.2 nowMs record).1 = record ↔ LoadSpares got record := by
  by_cases habsent : got.1.ok = false ∨ got.2 = none
  · refine iff_of_true ((loadOutcome_absent habsent).2.2 h) fun hok value hvalue => ?_
    rcases habsent with hno | hnone
    · rw [hok] at hno
      cases hno
    · rw [hvalue] at hnone
      cases hnone
  · obtain ⟨result, value⟩ := got
    simp only [not_or, Bool.not_eq_false] at habsent
    obtain ⟨hok, hvalue⟩ := habsent
    obtain ⟨value, rfl⟩ := Option.ne_none_iff_exists'.mp hvalue
    have hparses : value.parses = false := by simpa [loads, hok] using h
    cases record
    simp [loadOutcome, LoadSpares, hok, hparses]

end Load

/-- `BindLocalPlayer` fails, and not because the player is bound here already. -/
def BindRefused (own : Option ProcessRef) (h : Holdings) : Prop :=
  own = none ∨ (h.bound = false ∧ ∃ entry, h.receiver = some entry ∧ entry.version ≠ 0 ∧
    own ≠ some entry.owner)

namespace GameProcess

variable {T : Type} {cfg : GameConfiguration} {t : T} {env : Env} {s s' : GameProcess T} {p : PlayerId}
  {ok : Act → Env → GameProcess T → Prop} {own : Option ProcessRef} {h : Holdings}

def holdings (s : GameProcess T) (p : PlayerId) : Holdings where
  lease := s.lease.leases p
  record := s.repository.players p
  runtime := s.runtime p
  bound := s.ipc.boundPlayers p
  receiver := s.ipc.receivers (playerReceiverAddress p)
  session := s.sessions p

/-- A sound process, free, that has these things of player `p`. -/
structure Has (p : PlayerId) (own : Option ProcessRef) (h : Holdings) (s : GameProcess T) : Prop where
  free : s.Free
  sound : s.Sound
  process : s.ipc.self = own
  holdings : s.holdings p = h

/-- The rule of one section. -/
theorem Has.seq {α : Type} {Q : α → GameProcess T → Prop} {a : Act} {k : a.Reply → Call α}
    (hs : Has p own h s) (ha : a.locks = false)
    (hk : ∀ i s' r, ok a i s → s.exec cfg t i a = some (s', r) → s'.Free → s'.Sound →
      (k r).Ends (machine cfg) t ok Q s') : (call a >>= k).Ends (machine cfg) t ok Q s := by
  have hd : ∀ d : DirectoryAct, a ≠ .directory d := by
    rintro d rfl
    cases ha
  exact ends_seq (fun i _ => hs.free.exec_some hd)
    fun i s' r hok hx => hk i s' r hok hx (hs.free.exec ha hx) (hs.sound.exec hx)

/-! ## The sections -/

theorem Has.releaseLease {r : Result} (hs : Has p own h s)
    (hx : s.exec cfg t env (.lease (.release p)) = some (s', r)) (hfree : s'.Free) (hsound : s'.Sound) :
    Has p own { h with lease := none } s' := by
  obtain ⟨l, hl, rfl⟩ := exec_lease hx
  simp only [PlayerLeaseService.exec, Option.ite_none_left_eq_some, Option.some.injEq, Prod.ext_iff] at hl
  obtain ⟨-, rfl, -⟩ := hl
  refine ⟨hfree, hsound, hs.process, ?_⟩
  rw [← hs.holdings]
  simp [GameProcess.holdings, PlayerLeaseService.release_leases]

theorem Has.releaseRecord {r : Result} (hs : Has p own h s)
    (hx : s.exec cfg t env (.repository (.release p)) = some (s', r)) (hfree : s'.Free)
    (hsound : s'.Sound) : Has p own { h with record := none } s' := by
  obtain ⟨m, hm, rfl⟩ := exec_repository hx
  simp only [PlayerRepository.exec, Option.ite_none_left_eq_some, Option.some.injEq, Prod.ext_iff] at hm
  obtain ⟨-, rfl, -⟩ := hm
  refine ⟨hfree, hsound, hs.process, ?_⟩
  rw [← hs.holdings]
  unfold PlayerRepository.release
  cases hp : s.repository.players p <;> simp [GameProcess.holdings, hp]

theorem Has.snapshot {r : Option PlayerRepositoryRecord} (hs : Has p own h s)
    (hx : s.exec cfg t env (.repository (.snapshot p)) = some (s', r)) (hfree : s'.Free)
    (hsound : s'.Sound) : Has p own h s' ∧ r = h.record := by
  have hr : r = h.record := by
    rw [snapshot_reply hx, ← hs.holdings]
    rfl
  obtain ⟨m, hm, rfl⟩ := exec_repository hx
  simp only [PlayerRepository.exec, Option.ite_none_left_eq_some, Option.some.injEq, Prod.mk.injEq] at hm
  obtain ⟨-, rfl, -⟩ := hm
  exact ⟨⟨hfree, hsound, hs.process, hs.holdings⟩, hr⟩

theorem Has.bind {r : Result} (hs : Has p own h s)
    (hx : s.exec cfg t env (.ipc (.bindLocalPlayer p)) = some (s', r)) (hfree : s'.Free)
    (hsound : s'.Sound) :
    (bindFailed r = true ∧ BindRefused own h ∧ Has p own h s') ∨
    (bindFailed r = false ∧ ¬ BindRefused own h ∧
      ∃ receiver, Has p own { h with bound := true, receiver } s') := by
  obtain ⟨m, hm, rfl⟩ := exec_ipc hx
  simp only [GameIpcClientService.exec, Option.some.injEq] at hm
  have hself := hs.process
  obtain rfl := hs.holdings
  unfold GameIpcClientService.bindLocalPlayer at hm
  cases own with
  -- no descriptor of its own: nothing is bound
  | none =>
      rw [hself] at hm
      obtain ⟨rfl, rfl⟩ := Prod.mk.inj hm
      exact .inl ⟨rfl, .inl rfl, hfree, hsound, hself, rfl⟩
  | some own =>
    rw [hself] at hm
    simp only at hm
    -- bound already: nothing changes, and the call succeeds
    cases hbound : s.ipc.boundPlayers p with
    | true =>
        rw [hbound, if_pos rfl] at hm
        obtain ⟨rfl, rfl⟩ := Prod.mk.inj hm
        refine .inr ⟨by decide, ?_, s.ipc.receivers (playerReceiverAddress p), hfree, hsound, hself, ?_⟩
        · simp [BindRefused, GameProcess.holdings, hbound]
        · simp [GameProcess.holdings, hbound]
    | false =>
        -- an entry of another owner refuses, any other is taken over
        rw [hbound, if_neg Bool.false_ne_true] at hm
        have hrefused : BindRefused (some own) (s.holdings p) ↔ ∃ entry,
            s.ipc.receivers (playerReceiverAddress p) = some entry ∧ entry.version ≠ 0 ∧
              entry.owner ≠ own := by
          simp [BindRefused, GameProcess.holdings, hbound, eq_comm]
        unfold LocalReceiverDirectory.bind at hm
        cases hentry : s.ipc.receivers (playerReceiverAddress p) with
        | none =>
            rw [hentry] at hm
            obtain ⟨rfl, rfl⟩ := Prod.mk.inj hm
            refine .inr ⟨rfl, ?_, some ⟨own, 1⟩, hfree, hsound, rfl, ?_⟩
            · rw [hrefused]
              simp [hentry]
            · simp [GameProcess.holdings]
        | some entry =>
          rw [hentry] at hm
          by_cases hother : entry.version ≠ 0 ∧ entry.owner ≠ own
          · simp only [if_pos hother] at hm
            obtain ⟨rfl, rfl⟩ := Prod.mk.inj hm
            refine .inl ⟨rfl, hrefused.mpr ⟨entry, hentry, hother⟩, hfree, hsound, rfl, ?_⟩
            simp [GameProcess.holdings]
          · simp only [if_neg hother] at hm
            obtain ⟨rfl, rfl⟩ := Prod.mk.inj hm
            refine .inr ⟨rfl, ?_, some ⟨own, if entry.version = 0 then 1 else entry.version⟩, hfree, hsound,
              rfl, ?_⟩
            · rw [hrefused]
              rintro ⟨entry', hentry', hother'⟩
              rw [hentry, Option.some.injEq] at hentry'
              subst hentry'
              exact hother hother'
            · simp [GameProcess.holdings]

/-- A player that is bound resolves, so its unbinding takes the entry of the directory too. -/
theorem Has.unbind {r : Result} (hs : Has p own h s) (hbound : h.bound = true)
    (hx : s.exec cfg t env (.ipc (.unbindLocalPlayer p)) = some (s', r)) (hfree : s'.Free)
    (hsound : s'.Sound) : Has p own { h with bound := false, receiver := none } s' := by
  obtain ⟨m, hm, rfl⟩ := exec_ipc hx
  simp only [GameIpcClientService.exec, Option.some.injEq] at hm
  have hprocess := hs.process
  obtain rfl := hs.holdings
  rcases GameIpcClientService.unbindLocalPlayer_cases p s.ipc with ⟨error, -, hnot⟩ | ⟨-, hu⟩
  · exact absurd ⟨hs.sound.resolves, hbound⟩ hnot
  · rw [hu] at hm
    obtain ⟨rfl, rfl⟩ := Prod.mk.inj hm
    exact ⟨hfree, hsound, hprocess, by simp [GameProcess.holdings]⟩

/-! ## The steps of an activation -/

/-- The answers that an activation of player `p` meets: the reply to its lease command, and what
`DatasetGet` comes to. -/
def Answered (p : PlayerId) (reply : RedisReply String) (got : Result × Option Blob) (a : Act) (i : Env)
    (_ : GameProcess T) : Prop :=
  match a with
  | .lease (.acquire q) => q = p → i.redis = reply
  | .repository (.loadLeave q _ result value) => q = p → (result, value) = got
  | _ => True

variable {reply : RedisReply String} {got : Result × Option Blob} {allow : Bool}

theorem Sound.loaded {nowMs : UInt64} (hs : s.Sound) : (s.loaded p allow got nowMs).1.Sound where
  resolves := hs.resolves
  dirty := by
    refine hs.dirty.update (loadOutcome_dirty fun hdirty => ?_)
    cases hp : s.repository.players p with
    | none =>
        rw [hp] at hdirty
        cases hdirty
    | some record =>
        rw [hp] at hdirty
        exact hs.dirty p record hp hdirty

/-- `LoadPlayer` finds a record or makes one, whether it succeeds or not. -/
theorem loadPlayer_has (hs : Has p own h s) :
    (loadPlayer cfg p allow).Ends (machine cfg) t (Answered p reply got) (fun r s' =>
      (cfg.playerDataset.isNone = true ∧ r.ok = false ∧ Has p own h s') ∨
      (cfg.playerDataset.isNone = false ∧ r.ok = loads allow got ∧
        ∃ record, Has p own { h with record := some record } s' ∧
          (r.ok = true → record.loaded = true) ∧
          (r.ok = false → ∀ before, h.record = some before →
            (record = before ↔ LoadSpares got before)))) s := by
  cases hdataset : cfg.playerDataset.isNone with
  -- without a dataset the call ends before it makes a record
  | true =>
      unfold loadPlayer
      rw [if_pos hdataset]
      exact .inl ⟨rfl, rfl, hs⟩
  | false =>
      refine loadPlayer_seq (P := fun _ => True) hdataset hs.free.repository
        (Prog.Ends.mono (fun got s' hs' => ⟨hs', trivial⟩) datasetGet_ends) ?_
      intro got' i _ hgot
      -- the answer is the one the call got, and the record is made or found by `mPlayers[player_id]`
      obtain rfl : got' = got := hgot rfl
      have hok : (s.loaded p allow got' i.nowMs).2.ok = loads allow got' := loadOutcome_ok
      refine .inr ⟨rfl, hok, (loadOutcome p allow got'.1 got'.2 i.nowMs ((s.repository.players p).getD {})).1,
        ⟨⟨hs.free.lease, rfl⟩, hs.sound.loaded, hs.process, ?_⟩, fun hyes => ?_, fun hno before hbefore => ?_⟩
      · rw [← hs.holdings]
        simp [GameProcess.holdings, GameProcess.loaded]
      · rw [loadOutcome_loaded, loadOutcome_ok, ← hok, hyes, Bool.true_or]
      · have hp : s.repository.players p = some before := by
          rw [← hbefore, ← hs.holdings]
          rfl
        rw [hp]
        exact loadOutcome_spares (hok.symm.trans hno)

theorem ensurePlayer_has (hs : Has p own h s) :
    (ensurePlayer p).Ends (machine cfg) t ok (fun r s' =>
      (r.ok = true ∧ h.record.any (·.loaded) = true ∧ ∃ runtime, Has p own { h with runtime } s') ∨
      (r.ok = false ∧ h.record.any (·.loaded) = false ∧ Has p own h s')) s := by
  refine hs.seq rfl fun i s₁ r _ hx hfree hsound => ?_
  obtain ⟨hs₁, rfl⟩ := hs.snapshot hx hfree hsound
  cases hloaded : h.record.any (·.loaded) with
  | false => exact .inr ⟨rfl, rfl, hs₁⟩
  | true =>
      refine hs₁.seq rfl fun i s₂ _ _ hx hfree hsound => .inl ⟨rfl, rfl, s₂.runtime p, hfree, hsound, ?_, ?_⟩
      simp only [exec, execRuntime, Option.some.injEq, Prod.mk.injEq] at hx
      all_goals obtain ⟨rfl, -⟩ := hx
      · exact hs₁.process
      · rw [← hs₁.holdings]
        rfl

/-- A failed activation behind the lease has undone what it did, for a player without a session: the lease
and the record that it gives up were not there before, or the record has been found and spared. -/
def AdmitUndone (cfg : GameConfiguration) (allow : Bool) (got : Result × Option Blob)
    (own : Option ProcessRef) (h : Holdings) : Prop :=
  if cfg.playerDataset.isNone then h.lease = none
  else if loads allow got then BindRefused own h → h.lease = none ∧ h.record = none
  else h.lease = none ∧ ∃ record, h.record = some record ∧ LoadSpares got record

/-- The same for a player that is present and has no lease: a record found is left alone, a record made is
not, and a binding is taken away again. -/
def ResumeUndone (cfg : GameConfiguration) (allow : Bool) (got : Result × Option Blob)
    (own : Option ProcessRef) (h : Holdings) : Prop :=
  match h.record with
  | none => cfg.playerDataset.isNone = true ∨ (loads allow got = true ∧ ¬ BindRefused own h)
  | some record => BindRefused own h ∨ record.loaded = true ∨ h.receiver = none

variable {lease : Option PlayerLeaseOwner} {gate : GateSession}

/-- The last step of a failure: what the process has now is what it had if and only if `C`. -/
theorem Has.failed {h' : Holdings} {r : Result} {C : Prop} (hs : Has p own h' s) (hr : r.ok = false)
    (hC : h' = h ↔ C) : (pure r : Call Result).Ends (machine cfg) t ok
      (fun r s' => (r.ok = false → s'.holdings p = h) ↔ C) s := by
  show (r.ok = false → s.holdings p = h) ↔ C
  rw [hs.holdings, ← hC]
  exact forall_prop_of_true hr

theorem bindFailed_ok {r : Result} (h : bindFailed r = true) : r.ok = false := by
  cases hr : r.ok with
  | false => rfl
  | true => simp [bindFailed, hr] at h

theorem admitPlayer_undone (hs : Has p own { h with lease } s) :
    (admitPlayer cfg p gate allow).Ends (machine cfg) t (Answered p reply got)
      (fun r s' => (r.ok = false → s'.holdings p = h) ↔ AdmitUndone cfg allow got own h) s := by
  refine Prog.Ends.bind (Prog.Ends.mono ?_ (loadPlayer_has hs))
  rintro load s₁ (⟨hdataset, hfail, hs₁⟩ | ⟨hdataset, hload, record, hs₁, hloaded, hspares⟩)
  -- no dataset: the exit gives the lease back
  · rw [AdmitUndone, if_pos hdataset]
    simp only [hfail, Bool.not_false, if_true]
    refine hs₁.seq rfl fun i s₂ _ _ hx hfree hsound => ?_
    refine (hs₁.releaseLease hx hfree hsound).failed hfail ?_
    exact (h.keeps_iff none h.record).trans (and_iff_left rfl)
  · rw [AdmitUndone, if_neg (by simp [hdataset])]
    cases hloads : loads allow got with
    -- the load fails: the record it has made or written to stays
    | false =>
        rw [hloads] at hload
        simp only [hload, Bool.not_false, if_true, Bool.false_eq_true, if_false]
        refine hs₁.seq rfl fun i s₂ _ _ hx hfree hsound => ?_
        refine (hs₁.releaseLease hx hfree hsound).failed hload ?_
        refine (h.keeps_iff none (some record)).trans (and_congr_right fun _ => ?_)
        constructor
        · intro hrecord
          exact ⟨record, hrecord, (hspares hload record hrecord).mp rfl⟩
        · rintro ⟨before, hbefore, hspared⟩
          rw [hbefore, (hspares hload before hbefore).mpr hspared]
    | true =>
        rw [hloads] at hload
        simp only [hload, Bool.not_true, Bool.false_eq_true, if_false, if_true]
        refine hs₁.seq rfl fun i s₂ bind _ hx hfree hsound => ?_
        rcases hs₁.bind hx hfree hsound with ⟨hfailed, hrefused, hs₂⟩ | ⟨hfailed, hrefused, receiver, hs₂⟩
        · -- the exit that gives the record back as well
          simp only [hfailed, if_true]
          refine hs₂.seq rfl fun i s₃ _ _ hx hfree hsound => ?_
          have hs₃ := hs₂.releaseLease hx hfree hsound
          refine hs₃.seq rfl fun i s₄ _ _ hx hfree hsound => ?_
          refine (hs₃.releaseRecord hx hfree hsound).failed (bindFailed_ok hfailed) ?_
          have hrefused : BindRefused own h := hrefused
          exact (h.keeps_iff none none).trans ⟨fun hkept _ => hkept, fun hkept => hkept hrefused⟩
        · simp only [hfailed, Bool.false_eq_true, if_false]
          refine Prog.Ends.bind (Prog.Ends.mono ?_ (ensurePlayer_has hs₂))
          rintro ensure s₃ (⟨hensure, -, -⟩ | ⟨-, hnot, -⟩)
          · simp only [hensure, Bool.not_true, Bool.false_eq_true, if_false]
            have hrefused : ¬ BindRefused own h := hrefused
            refine ends_seq (fun _ _ => ⟨_, _, rfl⟩) fun i s₄ _ _ _ => ?_
            exact iff_of_true (fun hno => Bool.noConfusion hno) fun hr => absurd hr hrefused
          -- a runtime is refused only for a record that is not loaded
          · rw [Option.any_some, hloaded hload] at hnot
            cases hnot

/-- The section behind a resumed activation that has gone well: the session is still there. -/
theorem Has.resume {session : PlayerSessionRecord} {C : Prop} (hs : s.Free)
    (hsession : s.sessions p = some session) (hpresent : session.state.present = true) (hC : C) :
    (call (.session (.activateResume p gate))).Ends (machine cfg) t ok
      (fun r s' => (r.ok = false → s'.holdings p = h) ↔ C) s := by
  intro i _
  obtain ⟨s', r, hx⟩ : ∃ s' r, s.exec cfg t i (.session (.activateResume p gate)) = some (s', r) :=
    hs.exec_some (by simp)
  refine ⟨s', r, hx, iff_of_true (fun hno => ?_) hC⟩
  have hr : r.ok = true := by
    rw [activateResume_reply hx]
    simp [view, PlayerView.isPresent, hsession, hpresent]
  rw [hr] at hno
  cases hno

/-- How the load of the `reuse_existing` branch ends: with the record it has found, with nothing done, with
a record that it has made and not loaded, or with a loaded one. -/
inductive LoadedIfAbsent (cfg : GameConfiguration) (allow : Bool) (got : Result × Option Blob)
    (p : PlayerId) (own : Option ProcessRef) (h : Holdings) (r : Result) (s : GameProcess T) : Prop where
  | found (record : PlayerRepositoryRecord) (hrecord : h.record = some record) (hr : r.ok = true)
      (hs : Has p own h s)
  | unconfigured (hrecord : h.record = none) (hdataset : cfg.playerDataset.isNone = true)
      (hr : r.ok = false) (hs : Has p own h s)
  | failed (record : PlayerRepositoryRecord) (hrecord : h.record = none)
      (hdataset : cfg.playerDataset.isNone = false) (hloads : loads allow got = false) (hr : r.ok = false)
      (hs : Has p own { h with record := some record } s)
  | made (record : PlayerRepositoryRecord) (hrecord : h.record = none)
      (hdataset : cfg.playerDataset.isNone = false) (hloads : loads allow got = true)
      (hloaded : record.loaded = true) (hr : r.ok = true)
      (hs : Has p own { h with record := some record } s)

theorem loadIfAbsent_has (hs : Has p own h s) :
    (loadIfAbsent cfg p allow).Ends (machine cfg) t (Answered p reply got)
      (LoadedIfAbsent cfg allow got p own h) s := by
  refine hs.seq rfl fun i s₁ r _ hx hfree hsound => ?_
  obtain ⟨hs₁, rfl⟩ := hs.snapshot hx hfree hsound
  cases hrecord : h.record with
  | some record => exact .found record hrecord rfl hs₁
  | none =>
      refine Prog.Ends.mono ?_ (loadPlayer_has hs₁)
      rintro load s₂ (⟨hdataset, hfail, hs₂⟩ | ⟨hdataset, hload, record, hs₂, hloaded, -⟩)
      · exact .unconfigured hrecord hdataset hfail hs₂
      · cases hloads : loads allow got with
        | false => exact .failed record hrecord hdataset hloads (hload.trans hloads) hs₂
        | true =>
            have hok := hload.trans hloads
            exact .made record hrecord hdataset hloads (hloaded hok) hok hs₂

/-- A player that the directory does not know is not bound here. -/
theorem Has.unbound (hs : Has p own h s) (hreceiver : h.receiver = none) : h.bound = false := by
  cases hbound : h.bound with
  | false => rfl
  | true =>
      rw [← hs.holdings] at hbound hreceiver
      obtain ⟨self, version, -, -, hr⟩ := hs.sound.resolves p hbound
      rw [show s.ipc.receivers (playerReceiverAddress p) = none from hreceiver] at hr
      cases hr

theorem resumePlayer_undone {session : PlayerSessionRecord} (hs : Has p own { h with lease } s)
    (hsession : h.session = some session) (hpresent : session.state.present = true)
    (hlease : h.lease = none) :
    (resumePlayer cfg p gate allow).Ends (machine cfg) t (Answered p reply got)
      (fun r s' => (r.ok = false → s'.holdings p = h) ↔ ResumeUndone cfg allow got own h) s := by
  refine Prog.Ends.bind (Prog.Ends.mono (fun load s₁ hload => ?_) (loadIfAbsent_has hs))
  have hrelease : { h with lease := none } = h := (h.keeps_iff none h.record).mpr ⟨hlease, rfl⟩
  -- what a failed binding and a failed runtime creation leave behind, and what a success needs
  obtain ⟨hok, record, hs₁, hrefusal, hsuccess, hruntime⟩ | ⟨hfail, h', hs₁, hC⟩ :
      (load.ok = true ∧ ∃ record, Has p own { h with lease, record := some record } s₁ ∧
        (BindRefused own h → (h.record = some record ↔ ResumeUndone cfg allow got own h)) ∧
        (¬ BindRefused own h → record.loaded = true → ResumeUndone cfg allow got own h) ∧
        (¬ BindRefused own h → record.loaded = false →
          h.record = some record ∧ (h.receiver = none ↔ ResumeUndone cfg allow got own h))) ∨
      (load.ok = false ∧ ∃ h' : Holdings, Has p own { h' with lease } s₁ ∧
        ({ h' with lease := none } = h ↔ ResumeUndone cfg allow got own h)) := by
    cases hload with
    | found record hrecord hr hs₁ =>
        replace hrecord : h.record = some record := hrecord
        refine .inl ⟨hr, record, by rw [← hrecord]; exact hs₁, ?_, ?_, ?_⟩
        · intro hrefused
          exact iff_of_true hrecord (by rw [ResumeUndone, hrecord]; exact .inl hrefused)
        · intro _ hloaded
          rw [ResumeUndone, hrecord]
          exact .inr (.inl hloaded)
        · intro hrefused hloaded
          refine ⟨hrecord, ?_⟩
          rw [ResumeUndone, hrecord]
          simp [hrefused, hloaded]
    | unconfigured hrecord hdataset hr hs₁ =>
        refine .inr ⟨hr, h, hs₁, iff_of_true hrelease ?_⟩
        rw [ResumeUndone, show h.record = none from hrecord]
        exact .inl hdataset
    | failed record hrecord hdataset hloads hr hs₁ =>
        replace hrecord : h.record = none := hrecord
        refine .inr ⟨hr, { h with record := some record }, hs₁, iff_of_false (fun hkept => ?_) ?_⟩
        · have hmade := ((h.keeps_iff none (some record)).mp hkept).2
          rw [hrecord] at hmade
          cases hmade
        · rw [ResumeUndone, hrecord]
          simp [hdataset, hloads]
    | made record hrecord hdataset hloads hloaded hr hs₁ =>
        replace hrecord : h.record = none := hrecord
        have hC : ResumeUndone cfg allow got own h ↔ ¬ BindRefused own h := by
          rw [ResumeUndone, hrecord]
          simp [hdataset, hloads]
        refine .inl ⟨hr, record, hs₁, fun hrefused => ?_, fun hrefused _ => hC.mpr hrefused, fun _ hnot => ?_⟩
        · rw [hC, hrecord]
          exact iff_of_false (fun h => by cases h) (not_not_intro hrefused)
        · rw [hloaded] at hnot
          cases hnot
  · simp only [hok, Bool.not_true, Bool.false_eq_true, if_false]
    refine hs₁.seq rfl fun i s₂ bind _ hx hfree hsound => ?_
    rcases hs₁.bind hx hfree hsound with ⟨hfailed, hrefused, hs₂⟩ | ⟨hfailed, hrefused, receiver, hs₂⟩
    · simp only [hfailed, if_true]
      refine hs₂.seq rfl fun i s₃ _ _ hx hfree hsound => ?_
      refine (hs₂.releaseLease hx hfree hsound).failed (bindFailed_ok hfailed) ?_
      refine ((h.keeps_iff none (some record)).trans ?_).trans (hrefusal hrefused)
      exact and_iff_right hlease
    · have hrefused : ¬ BindRefused own h := hrefused
      simp only [hfailed, Bool.false_eq_true, if_false]
      refine Prog.Ends.bind (Prog.Ends.mono ?_ (ensurePlayer_has hs₂))
      rintro ensure s₃ (⟨hensure, hloaded, runtime, hs₃⟩ | ⟨hensure, hnot, hs₃⟩)
      · simp only [hensure, Bool.not_true, Bool.false_eq_true, if_false]
        have hkept : s₃.sessions p = some session := by
          rw [← hsession]
          exact congrArg Holdings.session hs₃.holdings
        exact Has.resume hs₃.free hkept hpresent (hsuccess hrefused hloaded)
      · obtain ⟨hrecord, hC⟩ := hruntime hrefused hnot
        simp only [hensure, Bool.not_false, if_true]
        refine hs₃.seq rfl fun i s₄ _ _ hx hfree hsound => ?_
        have hs₄ := hs₃.releaseLease hx hfree hsound
        refine hs₄.seq rfl fun i s₅ _ _ hx hfree hsound => ?_
        refine (hs₄.unbind rfl hx hfree hsound).failed hensure (Iff.trans ?_ hC)
        -- the binding that is taken away was made here, unless the directory had an entry before
        constructor
        · intro hkept
          exact (congrArg Holdings.receiver hkept).symm
        · intro hreceiver
          have hbound : h.bound = false := hs.unbound hreceiver
          rw [Holdings.ext_iff]
          exact ⟨hlease.symm, hrecord.symm, rfl, hbound.symm, hreceiver.symm, rfl⟩
  · simp only [hfail, Bool.not_false, if_true]
    refine hs₁.seq rfl fun i s₂ _ _ hx hfree hsound => ?_
    exact (hs₁.releaseLease hx hfree hsound).failed hfail hC

/-! ## The whole activation -/

/-- The lease command gives the lease, or the lease is tracked already and no command is sent. -/
def LeaseGranted (redis : Bool) (reply : RedisReply String) (h : Holdings) : Prop :=
  redis = true ∧ (h.lease.isSome = true ∨ reply = .status "OK")

theorem Has.acquire {r : Result} (hs : Has p own h s) (hreply : env.redis = reply)
    (hx : s.exec cfg t env (.lease (.acquire p)) = some (s', r)) (hfree : s'.Free) (hsound : s'.Sound) :
    (r.ok = true ∧ LeaseGranted s.lease.redis reply h ∧ ∃ lease, Has p own { h with lease } s') ∨
    (r.ok = false ∧ ¬ LeaseGranted s.lease.redis reply h ∧ Has p own h s') := by
  obtain ⟨l, hl, rfl⟩ := exec_lease hx
  simp only [PlayerLeaseService.exec, Option.ite_none_left_eq_some, Option.some.injEq] at hl
  obtain ⟨-, hl⟩ := hl
  have hprocess := hs.process
  obtain rfl := hs.holdings
  subst hreply
  have hheld : (s.holdings p).lease.isSome = s.lease.isHeldLocally p := rfl
  unfold LeaseGranted
  rw [hheld]
  unfold PlayerLeaseService.acquire at hl
  cases hredis : s.lease.redis with
  -- without a handle nothing is sent
  | false =>
      simp only [hredis, Bool.not_false, if_true] at hl
      obtain ⟨rfl, rfl⟩ := Prod.mk.inj hl
      exact .inr ⟨rfl, by simp, hfree, hsound, hprocess, rfl⟩
  | true =>
    cases hlocal : s.lease.isHeldLocally p with
    -- tracked already: the call succeeds at once
    | true =>
        simp only [hredis, hlocal, Bool.not_true, Bool.false_eq_true, if_false, if_true] at hl
        obtain ⟨rfl, rfl⟩ := Prod.mk.inj hl
        exact .inl ⟨rfl, by simp, (s.holdings p).lease, hfree, hsound, hprocess, rfl⟩
    | false =>
        -- the `SET` is sent: granted if and only if the reply is `OK`
        simp only [hredis, hlocal, Bool.not_true, Bool.false_eq_true, if_false] at hl
        by_cases hset : env.redis = .status "OK"
        · rw [hset] at hl
          simp only [PlayerLeaseService.acquired, decide_true, Bool.not_true, Bool.false_eq_true,
            if_false] at hl
          obtain ⟨rfl, rfl⟩ := Prod.mk.inj hl
          refine .inl ⟨rfl, ⟨rfl, .inr hset⟩, some (leaseOwner cfg p env.nowMs), hfree, hsound, hprocess, ?_⟩
          simp [GameProcess.holdings]
        · have hnot : PlayerLeaseService.acquired env.redis = false := by
            simpa [PlayerLeaseService.acquired] using hset
          have hfailed : l = s.lease ∧ r.ok = false := by
            split at hl
            · obtain ⟨rfl, rfl⟩ := Prod.mk.inj hl
              exact ⟨rfl, rfl⟩
            · rw [hnot, Bool.not_false, if_pos rfl] at hl
              obtain ⟨rfl, rfl⟩ := Prod.mk.inj hl
              exact ⟨rfl, rfl⟩
          obtain ⟨rfl, hno⟩ := hfailed
          exact .inr ⟨hno, by simp [hset], hfree, hsound, hprocess, rfl⟩

/-- Whether a failed `ActivatePlayer` leaves the player's things as they were. -/
def ActivationUndone (cfg : GameConfiguration) (allow : Bool) (redis : Bool) (reply : RedisReply String)
    (got : Result × Option Blob) (own : Option ProcessRef) (h : Holdings) : Prop :=
  match h.session with
  | none => LeaseGranted redis reply h → AdmitUndone cfg allow got own h
  | some session =>
      session.state.present = true → h.lease = none → LeaseGranted redis reply h →
        ResumeUndone cfg allow got own h

/-- The first section of `ActivatePlayer`: it goes on with nothing changed, or the call is over. -/
theorem Has.enter {r : ActivateDecision} (hs : Has p own h s)
    (hx : s.exec cfg t env (.session (.activateEnter p gate)) = some (s', r)) :
    (r = .proceed false ∧ h.session = none ∧ s' = s) ∨
    (r = .proceed true ∧ s' = s ∧ h.lease = none ∧
      ∃ session, h.session = some session ∧ session.state.present = true) ∨
    (r = .done .success ∧ h.lease.isSome = true ∧ h.session.isSome = true) ∨
    (r = .done transitioning ∧ s' = s ∧ ∃ session, h.session = some session ∧
      session.state.present = false) := by
  simp only [exec, execSession, Option.ite_none_left_eq_some, Option.some.injEq, Prod.ext_iff] at hx
  obtain ⟨-, rfl, rfl⟩ := hx
  obtain rfl := hs.holdings
  have hlease : s.isHeldLocally p = (s.holdings p).lease.isSome := rfl
  rw [hlease]
  have hsessions : s.sessions p = (s.holdings p).session := rfl
  unfold PlayerSessions.activateEnter
  rw [hsessions]
  cases (s.holdings p).session with
  -- no record: the fresh branch
  | none => exact .inl ⟨rfl, rfl, rfl⟩
  | some session =>
    -- a record: whether its lease is tracked decides the branch
    cases (s.holdings p).lease with
    | none =>
      cases hstate : session.state with
      | online | detached => exact .inr (.inl ⟨by simp [hstate, PlayerSessionState.present],
          by simp [hstate, PlayerSessionState.present], rfl, session, rfl, by rw [hstate]; rfl⟩)
      | loading | unloading => exact .inr (.inr (.inr ⟨by simp [hstate, PlayerSessionState.present],
          by simp [hstate, PlayerSessionState.present], session, rfl, by rw [hstate]; rfl⟩))
    | some lease =>
      cases hstate : session.state with
      | online | detached => exact .inr (.inr (.inl ⟨by simp [hstate], rfl, rfl⟩))
      | loading | unloading => exact .inr (.inr (.inr ⟨by simp [hstate], by simp [hstate], session, rfl,
          by rw [hstate]; rfl⟩))

/-- **A failed activation, from any state.** When no mutex is held, an `ActivatePlayer` that fails leaves
the player's things as they were if and only if `ActivationUndone` holds of the state it has started in. -/
theorem activatePlayer_undone (hs : Has p own h s) :
    (activatePlayer cfg p gate allow).Ends (machine cfg) t (Answered p reply got)
      (fun r s' => (r.ok = false → s'.holdings p = h) ↔
        ActivationUndone cfg allow s.lease.redis reply got own h) s := by
  refine hs.seq rfl fun i s₁ decision _ hx hfree hsound => ?_
  rcases hs.enter hx with ⟨rfl, hsession, rfl⟩ | ⟨rfl, rfl, hlease, session, hsession, hpresent⟩ |
    ⟨rfl, hheld, hsome⟩ | ⟨rfl, rfl, session, hsession, hpresent⟩
  -- a fresh player
  · rw [ActivationUndone, hsession]
    refine hs.seq rfl fun i s₂ r hreply hx hfree hsound => ?_
    rcases hs.acquire (hreply rfl) hx hfree hsound with ⟨hok, hgranted, lease, hs₂⟩ | ⟨hfail, hnot, hs₂⟩
    · simp only [hok, Bool.not_true, Bool.false_eq_true, if_false]
      refine Prog.Ends.mono (fun r s' hiff => hiff.trans ?_) (admitPlayer_undone hs₂)
      exact ⟨fun hundone _ => hundone, fun hundone => hundone hgranted⟩
    · simp only [hfail, Bool.not_false, if_true]
      exact hs₂.failed hfail (iff_of_true rfl fun hgranted => absurd hgranted hnot)
  -- a present player without a tracked lease: the reuse branch
  · rw [ActivationUndone, hsession]
    refine hs.seq rfl fun i s₂ r hreply hx hfree hsound => ?_
    rcases hs.acquire (hreply rfl) hx hfree hsound with ⟨hok, hgranted, lease, hs₂⟩ | ⟨hfail, hnot, hs₂⟩
    · simp only [hok, Bool.not_true, Bool.false_eq_true, if_false, if_true]
      refine Prog.Ends.mono (fun r s' hiff => hiff.trans ?_)
        (resumePlayer_undone hs₂ hsession hpresent hlease)
      exact ⟨fun hundone _ _ _ => hundone, fun hundone => hundone hpresent hlease hgranted⟩
    · simp only [hfail, Bool.not_false, if_true]
      exact hs₂.failed hfail (iff_of_true rfl fun _ _ hgranted => absurd hgranted hnot)
  -- a present player whose lease is tracked: the call succeeds at once
  · obtain ⟨session, hsession⟩ := Option.isSome_iff_exists.mp hsome
    rw [ActivationUndone, hsession]
    refine iff_of_true (fun hno => Bool.noConfusion hno) fun _ hlease => ?_
    rw [hlease] at hheld
    cases hheld
  -- a record in transition: the call is refused and nothing has changed
  · rw [ActivationUndone, hsession]
    refine hs.failed rfl (iff_of_true rfl fun hyes => ?_)
    rw [hpresent] at hyes
    cases hyes

/-- **Failed activations.** Take any run of any operations on any number of threads, a moment at which no
mutex is held, a player, a reply to the lease command and an answer of the storage. An `ActivatePlayer` that
fails leaves the lease, the repository record, the runtime entry, the receiver binding and the session
record of the player as they were if and only if `ActivationUndone` holds. -/
theorem failed_activation [DecidableEq T] (fuel : Nat) {self : Option ProcessRef} {redis : Bool}
    {members : List ProcessRef} {c : Pool T Op Act Act.Reply OpResult (GameProcess T)}
    (hrun : Run (machine cfg) (fun _ o => o.code cfg fuel) (fun _ _ => True)
      (Pool.initial (started self redis members)) c) (hfree : c.shared.Free)
    (p : PlayerId) (gate : GateSession) (allow : Bool) (reply : RedisReply String)
    (got : Result × Option Blob) :
    (activatePlayer cfg p gate allow).Ends (machine cfg) t (Answered p reply got)
      (fun r s' => (r.ok = false → s'.holdings p = c.shared.holdings p) ↔
        ActivationUndone cfg allow c.shared.lease.redis reply got c.shared.ipc.self (c.shared.holdings p))
      c.shared := by
  have hsound : c.shared.Sound :=
    hrun.shared_invariant (fun t a i s s' r h hx => h.exec hx) agree_started.sound
  exact activatePlayer_undone ⟨hfree, hsound, rfl, rfl⟩

/-! ### A binding that is refused, and a load that fails -/

/-- The first game, which knows the second one. -/
def startedBeside : Pool Unit Op Act Act.Reply OpResult (GameProcess Unit) :=
  Pool.initial (started (some ⟨⟨10, 1⟩, 1⟩) true [⟨⟨10, 2⟩, 1⟩])

/-- Player 7 is bound to the second game. Its activation on the first acquires the lease, makes a record,
fails at the binding, and has undone both. -/
theorem failed_activation_elsewhere :
    ∃ c, startedBeside.play (machine soloGame) (fun _ o => o.code soloGame 0) (fun _ _ => true)
        (.start () (.bindRemote 7 2) :: sections 1 (emptyServers 1000)) = some c ∧
      BindRefused c.shared.ipc.self (c.shared.holdings 7) ∧
      (activatePlayer soloGame 7 ⟨20, 1, 5⟩ true).Ends (machine soloGame) ()
        (Answered 7 (.status "OK") (.failure "not found", none))
        (fun r s' => r.ok = false → s'.holdings 7 = c.shared.holdings 7) c.shared := by
  have hend : (startedBeside.play (machine soloGame) (fun _ o => o.code soloGame 0) (fun _ _ => true)
      (.start () (.bindRemote 7 2) :: sections 1 (emptyServers 1000))).map (fun c =>
        (c.shared.lease.mutex, c.shared.repository.mutex, c.shared.sessions 7, c.shared.lease.leases 7,
          c.shared.repository.players 7, c.shared.ipc.self, c.shared.ipc.boundPlayers 7,
          c.shared.ipc.receivers (playerReceiverAddress 7))) =
      some (none, none, none, none, none, some ⟨⟨10, 1⟩, 1⟩, false, some ⟨⟨⟨10, 2⟩, 1⟩, 1⟩) := rfl
  obtain ⟨c, hc, hcs⟩ := Option.map_eq_some_iff.mp hend
  simp only [Prod.mk.injEq] at hcs
  obtain ⟨hlease, hrepository, hsession, htracked, hrecord, hself, hbound, hreceiver⟩ := hcs
  refine ⟨c, hc, .inr ⟨hbound, _, hreceiver, by decide, by rw [hself]; decide⟩, ?_⟩
  refine Prog.Ends.mono (fun r s' hiff => hiff.mpr ?_) (failed_activation (t := ()) 0
    (Run.refl.play (fun _ _ _ => trivial) hc) ⟨hlease, hrepository⟩ 7 ⟨20, 1, 5⟩ true (.status "OK")
    (.failure "not found", none))
  have hloads : loads true (.failure "not found", none) = true := by decide
  simp [ActivationUndone, AdmitUndone, holdings, hsession, htracked, hrecord, hloads]

/-- Player 7 reconnects while MariaDB is away, and nothing of it was there before. The load fails, and the
record that it has made stays. -/
theorem failed_activation_remains :
    ∃ c, Run (machine soloGame) (fun _ o => o.code soloGame 0) (fun _ _ => True) startedSolo c ∧
      c.returned () = some (.activate 7 ⟨20, 1, 5⟩ false, .result (.failure mariaUnavailable)) ∧
      startedSolo.shared.repository.players 7 = none ∧ c.shared.repository.players 7 = some {} ∧
      c.shared.holdings 7 ≠ startedSolo.shared.holdings 7 := by
  have hend : (startedSolo.play (machine soloGame) (fun _ o => o.code soloGame 0) (fun _ _ => true)
      (.start () (.activate 7 ⟨20, 1, 5⟩ false) ::
        sections 7 { emptyServers 1000 with maria := .unavailable })).map
          (fun c => (c.returned (), c.shared.repository.players 7)) =
      some (some (.activate 7 ⟨20, 1, 5⟩ false, .result (.failure mariaUnavailable)), some {}) := by decide
  obtain ⟨c, hc, hcs⟩ := Option.map_eq_some_iff.mp hend
  simp only [Prod.mk.injEq] at hcs
  obtain ⟨hreturned, hrecord⟩ := hcs
  refine ⟨c, Run.refl.play (fun _ _ _ => trivial) hc, hreturned, rfl, hrecord, fun hsame => ?_⟩
  have hrecords : c.shared.repository.players 7 = none := congrArg Holdings.record hsame
  rw [hrecord] at hrecords
  cases hrecords

end GameProcess

end SomeServer
