/-
# SomeServer.Game.Footprint — which sections a call can come to

Most results are about a few sections only: those of the directory, or the three of a renew round. The
lemmas here say which calls stay clear of them, whatever the replies are, so that a proof about such a
section need not look at the other calls at all.
-/
import SomeServer.Game.Calls

namespace SomeServer

open Lib

/-- The sections that neither belong to the directory nor to a renew round. -/
def Act.plain : Act → Bool
  | .directory _ => false
  | .lease (.renewEnter _) => false
  | .lease (.refresh _ _) => false
  | .lease (.renewLeave _) => false
  | _ => true

/-- The operations made of such sections. -/
def Op.plain : Op → Bool
  | .login _ _ _ _ _ => false
  | .resolve _ _ _ => false
  | .lookup _ _ _ => false
  | .renew _ => false
  | _ => true

/-- The plain sections that move no player in or out of a store: they only read, or change the
contents of a record. -/
def Act.silent : Act → Bool
  | .clock => true
  | .storage _ => true
  | .persistence _ => true
  | .lease (.isHeldLocally _) => true
  | .repository (.flushEnter _) => true
  | .repository (.flushLeave _ _) => true
  | .repository (.touchLogin _) => true
  | .repository (.setDisplayName _ _) => true
  | .repository (.snapshot _) => true
  | .repository (.loadedPlayerIds _) => true
  | .runtime (.handleRename _ _) => true
  | .runtime (.handleEcho _) => true
  | .ipc (.bindRemotePlayer _ _) => true
  | .ipc (.sendProcessPayload _ _) => true
  | .session (.expiredPlayers _ _) => true
  | .session (.lostPlayers _) => true
  | .session (.snapshot _) => true
  | _ => false

/-- The sections that keep a mutex when they are over, or work under one that was kept: the directory's,
those of a renew round, and those of a load or a flush with all storage commands. -/
def Act.locks : Act → Bool
  | .directory _ => true
  | .storage _ => true
  | .lease (.renewEnter _) => true
  | .lease (.refresh _ _) => true
  | .lease (.renewLeave _) => true
  | .repository (.loadEnter _) => true
  | .repository (.loadLeave _ _ _ _) => true
  | .repository (.flushEnter _) => true
  | .repository (.flushLeave _ _) => true
  | _ => false

/-- The section that puts a session record back. -/
def Act.restores : Act → Bool
  | .session (.releaseRestore _ _) => true
  | _ => false

/-- The sections of the flush scheduler. -/
def Act.schedules : Act → Bool
  | .persistence _ => true
  | _ => false

theorem Act.plain_of_locks {a : Act} (h : a.locks = false) : a.plain = true := by
  cases a with
  | directory d => cases h
  | lease l => cases l <;> first | rfl | cases h
  | _ => rfl

/-- The operations made of silent sections. -/
def Op.silent : Op → Bool
  | .forward _ _ _ => true
  | .flushDue _ => true
  | .flush _ => true
  | .touchLogin _ => true
  | .setDisplayName _ _ => true
  | .bindRemote _ _ => true
  | _ => false

/-- The operations that load players. -/
def Op.loads : Op → Bool
  | .login _ _ _ _ _ => true
  | .reconnect _ _ _ => true
  | .activate _ _ _ => true
  | _ => false

/-- The operations that release players. -/
def Op.releases : Op → Bool
  | .release _ => true
  | .expire _ => true
  | _ => false

/-- The session operations, and the two ways in which a process loses a lease. -/
def Op.isSession : Op → Bool
  | .activate _ _ _ => true
  | .detach _ => true
  | .disconnected _ _ => true
  | .release _ => true
  | .expire _ => true
  | .reconcile _ => true
  | .renew _ => true
  | .releaseLease _ => true
  | _ => false

section Footprint

variable {P : Act → Prop}

theorem all_seq {α : Type} {a : Act} {k : a.Reply → Call α} (ha : P a) (hk : ∀ r, (k r).All P) :
    (call a >>= k).All P := ⟨ha, hk⟩

theorem all_pure {α : Type} {x : α} : (pure x : Call α).All P := trivial

theorem all_call {a : Act} (ha : P a) : (call a).All P := ⟨ha, fun _ => trivial⟩

/-! ## The directory -/

section Directory

variable (hD : ∀ a : DirectoryAct, P (.directory a))
include hD

theorem answerEntry_all (key text : String) : (answerEntry key text).All P := by
  unfold answerEntry
  split
  · exact all_seq (hD _) fun _ => all_pure
  · exact all_seq (hD _) fun _ => all_pure

theorem answerFallback_all (key : String) : (answerFallback key).All P :=
  all_seq (hD _) fun _ => all_pure

theorem prepareCounter_all : prepareCounter.All P := by
  refine all_seq (hD _) fun current => ?_
  split
  · exact all_seq (hD _) fun _ => all_pure
  · split
    · exact all_seq (hD _) fun _ => all_pure
    · exact all_pure

theorem resolveLoop_all (key : String) (fuel : Nat) : (resolveLoop key fuel).All P := by
  induction fuel with
  | zero => exact all_pure
  | succ fuel ih =>
      refine (prepareCounter_all hD).bind fun _ => ?_
      refine all_seq (hD _) fun increment => ?_
      split
      · exact answerFallback_all hD key
      · refine all_seq (hD _) fun create => ?_
        split
        · exact all_seq (hD _) fun _ => all_pure
        · split
          · exact answerFallback_all hD key
          · refine all_seq (hD _) fun retry => ?_
            split
            · exact answerEntry_all hD key _
            · exact ih

theorem resolveOrCreate_all (fuel : Nat) (key : String) : (resolveOrCreate fuel key).All P := by
  refine all_seq (hD _) fun cached => ?_
  split
  · exact all_seq (hD _) fun _ => all_pure
  · refine all_seq (hD _) fun entry => ?_
    split
    · exact answerEntry_all hD key _
    · exact resolveLoop_all hD key fuel

theorem lookup_all (key : String) : (lookup key).All P := by
  refine all_seq (hD _) fun cached => ?_
  split
  · exact all_seq (hD _) fun _ => all_pure
  · refine all_seq (hD _) fun entry => ?_
    split
    · exact (answerEntry_all hD key _).bind fun _ => all_pure
    · exact all_seq (hD _) fun _ => all_pure

end Directory

/-! ## The renew round -/

theorem renewLeases_all (hL : ∀ a : LeaseAct, P (.lease a)) (order : List PlayerId) :
    (renewLeases order).All P := by
  have hrefresh : ∀ (leases : List (PlayerId × PlayerLeaseOwner)) (lost : List PlayerId),
      (refreshAll leases lost).All P := by
    intro leases
    induction leases with
    | nil => intro lost; exact all_pure
    | cons x rest ih => intro lost; exact all_seq (hL _) fun _ => ih _
  exact all_seq (hL _) fun leases => (hrefresh leases []).bind fun lost => all_call (hL _)

/-! ## The sections of a flush -/

/-- `FlushPlayer` has five sections, all about its own player. -/
theorem flushPlayer_sections {p : PlayerId} (henter : P (.repository (.flushEnter p)))
    (hensure : P (.storage .ensureMariaEntriesTable)) (hinsert : ∀ v, P (.storage (.insert p v)))
    (hset : ∀ v, P (.storage (.redisSet p v))) (hleave : ∀ r, P (.repository (.flushLeave p r))) :
    (flushPlayer p).All P := by
  refine all_seq henter fun data => ?_
  split
  · exact all_pure
  · refine Prog.All.bind ?_ fun stored => all_call (hleave _)
    refine all_seq hensure fun ensure => ?_
    split
    · exact all_pure
    · refine all_seq (hinsert _) fun inserted => ?_
      split
      · exact all_pure
      · refine all_seq (hset _) fun redis => ?_
        split <;> exact all_pure

/-- `ReleasePlayer` from the unbinding on has five sections as well. -/
theorem unloadPlayer_sections {p : PlayerId} (hunbind : P (.ipc (.unbindLocalPlayer p)))
    (hremove : P (.runtime (.removePlayer p))) (hrelease : P (.repository (.release p)))
    (hlease : P (.lease (.release p))) (herase : P (.session (.releaseErase p))) :
    (unloadPlayer p).All P := by
  refine all_seq hunbind fun unbind => ?_
  split
  · exact all_pure
  · refine all_seq hremove fun _ => all_seq hrelease fun release => ?_
    split
    · exact all_pure
    · exact all_seq hlease fun _ => all_seq herase fun _ => all_pure

/-! ## Storage -/

section Storage

variable (hB : ∀ b : StorageAct, P (.storage b))
include hB

theorem datasetGet_all (p : PlayerId) : (datasetGet p).All P := by
  refine all_seq (hB _) fun cached => ?_
  split
  · exact all_pure
  · split
    · exact all_pure
    · refine all_seq (hB _) fun ensure => ?_
      split
      · exact all_pure
      · refine all_seq (hB _) fun selected => ?_
        split
        · exact all_pure
        · exact all_seq (hB _) fun _ => all_pure

theorem datasetPut_all (p : PlayerId) (value : Blob) : (datasetPut p value).All P := by
  refine all_seq (hB _) fun ensure => ?_
  split
  · exact all_pure
  · refine all_seq (hB _) fun inserted => ?_
    split
    · exact all_pure
    · refine all_seq (hB _) fun redis => ?_
      split <;> exact all_pure

end Storage

/-! ## Calls put together

A property that composition keeps holds of every call that is made of parts which have it. The parts
are the single sections, and the three calls that keep a mutex over several of them. -/

section Silent

variable {S : (α : Type) → Call α → Prop} (hC : Prog.Compositional S)
  (hS : ∀ a : Act, a.silent = true → a.locks = false → a.schedules = false → S _ (call a))
include hC hS

theorem seq_silent {α : Type} {a : Act} {k : a.Reply → Call α} (ha : a.silent = true)
    (hl : a.locks = false) (hn : a.schedules = false) (hk : ∀ r, S _ (k r)) : S _ (call a >>= k) :=
  hC.bind (hS a ha hl hn) hk

theorem respond_parts (source : ProcessId) (payload : Payload) : S _ (respond source payload) := by
  refine seq_silent hC hS rfl rfl rfl fun send => ?_
  split <;> exact hC.pure _

theorem forwardPlayerMessage_parts (p : PlayerId) (command : PlayerCommand) :
    S _ (forwardPlayerMessage p command) := by
  have hdispatch : S _ (dispatchCommand p command) := by
    cases command with
    | rename displayName => exact hS (.runtime (.handleRename p displayName)) rfl rfl rfl
    | echo => exact hS (.runtime (.handleEcho p)) rfl rfl rfl
    | rejected message => exact hC.pure _
  refine seq_silent hC hS rfl rfl rfl fun session => ?_
  split
  · exact hC.pure _
  · split
    · exact hC.pure _
    · refine seq_silent hC hS rfl rfl rfl fun held => ?_
      split
      · exact hC.pure _
      · refine hC.bind hdispatch fun result => ?_
        split <;> exact hC.pure _

theorem handleForwardPlayerMessageRequest_parts (source : ProcessId) (p : PlayerId)
    (command : PlayerCommand) : S _ (handleForwardPlayerMessageRequest source p command) :=
  hC.bind (forwardPlayerMessage_parts hC hS p command) fun _ =>
    hC.bind (respond_parts hC hS _ _) fun _ => hC.pure _

/-- A silent operation other than a scan is made of silent sections and flushes. -/
theorem Op.code_quiet (hF : ∀ p, S _ (flushPlayer p)) (cfg : GameConfiguration) (fuel : Nat) {o : Op}
    (ho : o.silent = true) (hn : ∀ order, o ≠ .flushDue order) : S _ (o.code cfg fuel) := by
  cases o with
  | forward source p command =>
      exact hC.bind (handleForwardPlayerMessageRequest_parts hC hS source p command) fun _ => hC.pure _
  | flushDue order => exact absurd rfl (hn order)
  | flush p => exact hC.bind (hF p) fun _ => hC.pure _
  | touchLogin p => exact seq_silent hC hS rfl rfl rfl fun _ => hC.pure _
  | setDisplayName p displayName => exact seq_silent hC hS rfl rfl rfl fun _ => hC.pure _
  | bindRemote p instanceId => exact seq_silent hC hS rfl rfl rfl fun _ => hC.pure _
  | _ => cases ho

end Silent

section Scan

variable {S : (α : Type) → Call α → Prop} (hC : Prog.Compositional S)
  (hS : ∀ a : Act, a.silent = true → a.locks = false → S _ (call a))
include hC hS

theorem seq_scan {α : Type} {a : Act} {k : a.Reply → Call α} (ha : a.silent = true)
    (hl : a.locks = false) (hk : ∀ r, S _ (k r)) : S _ (call a >>= k) := hC.bind (hS a ha hl) hk

theorem checkFlush_parts (cfg : GameConfiguration) (p : PlayerId)
    (repository : PlayerRepositoryRecord) (session : Option PlayerSessionRecord) (now : UInt64) :
    S _ (checkFlush cfg p repository session now) := by
  unfold checkFlush
  split
  · exact hC.pure _
  · exact seq_scan hC hS rfl rfl fun _ => hC.pure _

variable (hF : ∀ p, S _ (flushPlayer p))
include hF

theorem scanPlayer_parts (cfg : GameConfiguration) (p : PlayerId)
    (repository : PlayerRepositoryRecord) (now : UInt64) (counts : ScanCounts) :
    S _ (scanPlayer cfg p repository now counts) := by
  refine seq_scan hC hS rfl rfl fun held => ?_
  split
  · exact hC.pure _
  · refine seq_scan hC hS rfl rfl fun session => ?_
    refine hC.bind (checkFlush_parts hC hS cfg p repository session now) fun due => ?_
    split
    · exact hC.pure _
    · refine seq_scan hC hS rfl rfl fun _ => ?_
      refine hC.bind (hF p) fun flush => seq_scan hC hS rfl rfl fun _ => ?_
      split <;> exact hC.pure _

theorem scanAll_parts (cfg : GameConfiguration) (now : UInt64) (players : List PlayerId) :
    ∀ counts, S _ (scanAll cfg now players counts) := by
  induction players with
  | nil => intro counts; exact hC.pure _
  | cons p rest ih =>
      intro counts
      refine seq_scan hC hS rfl rfl fun repository => ?_
      split
      · exact ih counts
      · exact hC.bind (scanPlayer_parts hC hS hF cfg p _ now _) fun counts => ih counts

theorem flushDuePlayersOnce_parts (cfg : GameConfiguration) (order : List PlayerId) :
    S _ (flushDuePlayersOnce cfg order) := by
  refine seq_scan hC hS rfl rfl fun now => seq_scan hC hS rfl rfl fun _ =>
    seq_scan hC hS rfl rfl fun players => ?_
  exact hC.bind (scanAll_parts hC hS hF cfg now players _) fun counts =>
    seq_scan hC hS rfl rfl fun _ => hC.pure _

/-- A silent operation is made of silent sections and flushes. -/
theorem Op.code_silent (cfg : GameConfiguration) (fuel : Nat) {o : Op} (ho : o.silent = true) :
    S _ (o.code cfg fuel) := by
  cases o with
  | flushDue order =>
      exact hC.bind (flushDuePlayersOnce_parts hC hS hF cfg order) fun _ => hC.pure _
  | forward | flush | touchLogin | setDisplayName | bindRemote =>
      exact Op.code_quiet hC (fun a ha hl _ => hS a ha hl) hF cfg fuel rfl fun _ h => by cases h
  | _ => cases ho

end Scan

theorem Act.restores_of_silent {a : Act} (ha : a.silent = true) : a.restores = false := by
  cases a with
  | session b => cases b <;> first | rfl | cases ha
  | _ => rfl

/-- What holds of the parts holds of the silent ones among them. -/
theorem silent_part {S : (α : Type) → Call α → Prop}
    (hP : ∀ a : Act, a.locks = false → a.restores = false → a.schedules = false → S _ (call a)) (a : Act)
    (ha : a.silent = true) (hl : a.locks = false) (hn : a.schedules = false) : S _ (call a) :=
  hP a hl (Act.restores_of_silent ha) hn

section Parts

variable {S : (α : Type) → Call α → Prop} (hC : Prog.Compositional S)
  (hP : ∀ a : Act, a.locks = false → a.restores = false → a.schedules = false → S _ (call a))
include hC hP

theorem seq_part {α : Type} {a : Act} {k : a.Reply → Call α} (hl : a.locks = false)
    (hr : a.restores = false) (hn : a.schedules = false) (hk : ∀ r, S _ (k r)) : S _ (call a >>= k) :=
  hC.bind (hP a hl hr hn) hk

theorem ensurePlayer_parts (p : PlayerId) : S _ (ensurePlayer p) := by
  refine seq_part hC hP rfl rfl rfl fun repository => ?_
  split
  · exact hC.pure _
  · exact seq_part hC hP rfl rfl rfl fun _ => hC.pure _

theorem unloadPlayer_parts (p : PlayerId) : S _ (unloadPlayer p) := by
  refine seq_part hC hP rfl rfl rfl fun unbind => ?_
  split
  · exact hC.pure _
  · refine seq_part hC hP rfl rfl rfl fun _ => seq_part hC hP rfl rfl rfl fun release => ?_
    split
    · exact hC.pure _
    · exact seq_part hC hP rfl rfl rfl fun _ => seq_part hC hP rfl rfl rfl fun _ => hC.pure _

theorem reconcilePlayer_parts (action : LostPlayerAction) (now : UInt64) :
    S _ (reconcilePlayer action now) := by
  have hunbound : S _ (reconcileUnbound action now) :=
    seq_part hC hP rfl rfl rfl fun _ => hP (.session (.reconcileLost action now)) rfl rfl rfl
  unfold reconcilePlayer
  split
  · exact seq_part hC hP rfl rfl rfl fun _ => hunbound
  · exact hunbound

theorem reconcileAll_parts (now : UInt64) (lost : List LostPlayerAction) :
    ∀ reconciled, S _ (reconcileAll now lost reconciled) := by
  induction lost with
  | nil => intro reconciled; exact hC.pure _
  | cons action rest ih =>
      intro reconciled
      exact hC.bind (reconcilePlayer_parts hC hP action now) fun counted => ih _

theorem reconcileLeaseLosses_parts (order : List PlayerId) : S _ (reconcileLeaseLosses order) :=
  seq_part hC hP rfl rfl rfl fun _ => seq_part hC hP rfl rfl rfl fun _ => reconcileAll_parts hC hP _ _ _

theorem handlePlayerDisconnected_parts (p : PlayerId) (gate : GateSession) :
    S _ (handlePlayerDisconnected p gate) := by
  refine seq_part hC hP rfl rfl rfl fun detach => ?_
  split <;> exact hC.pure _

theorem releasePlayer_parts (hF : ∀ p, S _ (flushPlayer p))
    (hS : ∀ p record, S _ (call (.session (.releaseRestore p record)))) (p : PlayerId) :
    S _ (releasePlayer p) := by
  refine seq_part hC hP rfl rfl rfl fun previous => ?_
  split
  · exact hC.pure _
  · refine seq_part hC hP rfl rfl rfl fun repository => ?_
    split
    · exact unloadPlayer_parts hC hP p
    · refine hC.bind (hF p) fun flush => ?_
      split
      · exact hC.bind (hS p _) fun _ => hC.pure _
      · exact unloadPlayer_parts hC hP p

section Release

variable (hR : ∀ p, S _ (releasePlayer p))
include hR

omit hP in
theorem releaseAll_parts (players : List PlayerId) :
    ∀ released, S _ (releaseAll players released) := by
  induction players with
  | nil => intro released; exact hC.pure _
  | cons p rest ih =>
      intro released
      exact hC.bind (hR p) fun release => ih _

theorem expireDetachedPlayers_parts (order : List PlayerId) : S _ (expireDetachedPlayers order) :=
  seq_part hC hP rfl rfl rfl fun _ => seq_part hC hP rfl rfl rfl fun _ => releaseAll_parts hC hR _ _

end Release

section Load

variable (hL : ∀ cfg p allow, S _ (loadPlayer cfg p allow))
include hL

theorem loadIfAbsent_parts (cfg : GameConfiguration) (p : PlayerId) (allow : Bool) :
    S _ (loadIfAbsent cfg p allow) := by
  refine seq_part hC hP rfl rfl rfl fun repository => ?_
  split
  · exact hC.pure _
  · exact hL cfg p allow

theorem resumePlayer_parts (cfg : GameConfiguration) (p : PlayerId) (gate : GateSession)
    (allow : Bool) : S _ (resumePlayer cfg p gate allow) := by
  refine hC.bind (loadIfAbsent_parts hC hP hL cfg p allow) fun load => ?_
  split
  · exact seq_part hC hP rfl rfl rfl fun _ => hC.pure _
  · refine seq_part hC hP rfl rfl rfl fun bind => ?_
    split
    · exact seq_part hC hP rfl rfl rfl fun _ => hC.pure _
    · refine hC.bind (ensurePlayer_parts hC hP p) fun ensure => ?_
      split
      · exact seq_part hC hP rfl rfl rfl fun _ => seq_part hC hP rfl rfl rfl fun _ => hC.pure _
      · exact hP (.session (.activateResume p gate)) rfl rfl rfl

theorem admitPlayer_parts (cfg : GameConfiguration) (p : PlayerId) (gate : GateSession)
    (allow : Bool) : S _ (admitPlayer cfg p gate allow) := by
  refine hC.bind (hL cfg p allow) fun load => ?_
  split
  · exact seq_part hC hP rfl rfl rfl fun _ => hC.pure _
  · refine seq_part hC hP rfl rfl rfl fun bind => ?_
    split
    · exact seq_part hC hP rfl rfl rfl fun _ => seq_part hC hP rfl rfl rfl fun _ => hC.pure _
    · refine hC.bind (ensurePlayer_parts hC hP p) fun ensure => ?_
      split
      · exact seq_part hC hP rfl rfl rfl fun _ => seq_part hC hP rfl rfl rfl fun _ =>
          seq_part hC hP rfl rfl rfl fun _ => hC.pure _
      · exact seq_part hC hP rfl rfl rfl fun _ => hC.pure _

theorem activatePlayer_parts (cfg : GameConfiguration) (p : PlayerId) (gate : GateSession)
    (allow : Bool) : S _ (activatePlayer cfg p gate allow) := by
  refine seq_part hC hP rfl rfl rfl fun decision => ?_
  split
  · exact hC.pure _
  · refine seq_part hC hP rfl rfl rfl fun lease => ?_
    split
    · exact hC.pure _
    · split
      · exact resumePlayer_parts hC hP hL cfg p gate allow
      · exact admitPlayer_parts hC hP hL cfg p gate allow

theorem answerLogin_parts (cfg : GameConfiguration) (source : ProcessId) (gate : GateSession)
    (resolved : PlayerDirectoryResolveResult) : S _ (answerLogin cfg source gate resolved) :=
  hC.bind (activatePlayer_parts hC hP hL cfg _ gate _) fun _ =>
    respond_parts hC (silent_part hP) _ _

theorem handleReconnectRequest_parts (cfg : GameConfiguration) (source : ProcessId) (p : PlayerId)
    (gate : GateSession) : S _ (handleReconnectRequest cfg source p gate) :=
  hC.bind (activatePlayer_parts hC hP hL cfg p gate false) fun _ =>
    respond_parts hC (silent_part hP) _ _

theorem handleLoginRequest_parts (hR : ∀ fuel key, S _ (resolveOrCreate fuel key))
    (cfg : GameConfiguration) (fuel : Nat) (source : ProcessId) (key : String) (gate : GateSession) :
    S _ (handleLoginRequest cfg fuel source key gate) := by
  refine hC.bind (hR fuel key) fun outcome => ?_
  split
  · exact hC.bind (answerLogin_parts hC hP hL cfg source gate _) fun _ => hC.pure _
  · exact hC.pure _
  · exact hC.pure _

end Load

/-- A plain operation other than a scan is made of sections that keep no mutex, flushes and, if it loads or
releases players, loads or releases. -/
theorem Op.code_unscheduled (hF : ∀ p, S _ (flushPlayer p)) (cfg : GameConfiguration) (fuel : Nat) {o : Op}
    (ho : o.plain = true) (hn : ∀ order, o ≠ .flushDue order)
    (hL : o.loads = true → ∀ cfg p allow, S _ (loadPlayer cfg p allow))
    (hR : o.releases = true → ∀ p, S _ (releasePlayer p)) : S _ (o.code cfg fuel) := by
  cases o with
  | login source platform accountId areaId gate => cases ho
  | resolve platform accountId areaId => cases ho
  | lookup platform accountId areaId => cases ho
  | renew order => cases ho
  | reconnect source p gate =>
      exact hC.bind (handleReconnectRequest_parts hC hP (hL rfl) cfg source p gate) fun _ => hC.pure _
  | disconnected p gate => exact hC.bind (handlePlayerDisconnected_parts hC hP p gate) fun _ => hC.pure _
  | activate p gate allow =>
      exact hC.bind (activatePlayer_parts hC hP (hL rfl) cfg p gate allow) fun _ => hC.pure _
  | release p => exact hC.bind (hR rfl p) fun _ => hC.pure _
  | expire order => exact hC.bind (expireDetachedPlayers_parts hC hP (hR rfl) order) fun _ => hC.pure _
  | reconcile order => exact hC.bind (reconcileLeaseLosses_parts hC hP order) fun _ => hC.pure _
  | detach p => exact seq_part hC hP rfl rfl rfl fun _ => hC.pure _
  | acquireLease p => exact seq_part hC hP rfl rfl rfl fun _ => hC.pure _
  | releaseLease p => exact seq_part hC hP rfl rfl rfl fun _ => hC.pure _
  | forward | flushDue | flush | touchLogin | setDisplayName | bindRemote =>
      exact Op.code_quiet hC (silent_part hP) hF cfg fuel rfl hn

end Parts

/-- A plain operation is made of sections that keep no mutex, flushes and, if it loads or releases
players, loads or releases. -/
theorem Op.code_calls {S : (α : Type) → Call α → Prop} (hC : Prog.Compositional S)
    (hP : ∀ a : Act, a.locks = false → a.restores = false → S _ (call a)) (hF : ∀ p, S _ (flushPlayer p))
    (cfg : GameConfiguration) (fuel : Nat) {o : Op} (ho : o.plain = true)
    (hL : o.loads = true → ∀ cfg p allow, S _ (loadPlayer cfg p allow))
    (hR : o.releases = true → ∀ p, S _ (releasePlayer p)) : S _ (o.code cfg fuel) := by
  by_cases hscan : ∃ order, o = .flushDue order
  · obtain ⟨order, rfl⟩ := hscan
    exact Op.code_silent hC (fun a ha hl => hP a hl (Act.restores_of_silent ha)) hF cfg fuel rfl
  · exact Op.code_unscheduled hC (fun a hl hr _ => hP a hl hr) hF cfg fuel ho (fun order h => hscan ⟨order, h⟩)
      hL hR

/-- The same when every section that keeps no mutex will do. -/
theorem Op.code_parts {S : (α : Type) → Call α → Prop} (hC : Prog.Compositional S)
    (hP : ∀ a : Act, a.locks = false → S _ (call a)) (hF : ∀ p, S _ (flushPlayer p))
    (cfg : GameConfiguration) (fuel : Nat) {o : Op} (ho : o.plain = true)
    (hL : o.loads = true → ∀ cfg p allow, S _ (loadPlayer cfg p allow)) : S _ (o.code cfg fuel) :=
  Op.code_calls hC (fun a hl _ => hP a hl) hF cfg fuel ho hL fun _ =>
    releasePlayer_parts hC (fun a hl _ _ => hP a hl) hF fun _ _ => hP _ rfl

/-- An operation is a plain one, or made of one of the four calls that come to the directory or are a renew
round. -/
theorem Op.code_of_calls {S : (α : Type) → Call α → Prop} (hC : Prog.Compositional S)
    {cfg : GameConfiguration} {fuel : Nat} {o : Op} (hplain : o.plain = true → S _ (o.code cfg fuel))
    (hlogin : ∀ source key gate, S _ (handleLoginRequest cfg fuel source key gate))
    (hresolve : ∀ key, S _ (resolveOrCreate fuel key)) (hlookup : ∀ key, S _ (SomeServer.lookup key))
    (hrenew : ∀ order, S _ (renewLeases order)) : S _ (o.code cfg fuel) := by
  by_cases ho : o.plain = true
  · exact hplain ho
  · cases o with
    | login source platform accountId areaId gate =>
        refine hC.bind (hlogin source _ gate) fun result => ?_
        split <;> exact hC.pure _
    | resolve platform accountId areaId => exact hC.bind (hresolve _) fun _ => hC.pure _
    | lookup platform accountId areaId => exact hC.bind (hlookup _) fun _ => hC.pure _
    | renew order => exact hC.bind (hrenew order) fun _ => hC.pure _
    | _ => exact absurd rfl ho

/-! ## The sections of the other calls -/

section Plain

variable (hP : ∀ a : Act, a.plain = true → P a)
include hP

theorem part_of_plain (a : Act) (ha : a.locks = false) : (call a).All P :=
  all_call (hP a (Act.plain_of_locks ha))

theorem flushPlayer_all (p : PlayerId) : (flushPlayer p).All P :=
  flushPlayer_sections (hP _ rfl) (hP _ rfl) (fun _ => hP _ rfl) (fun _ => hP _ rfl) fun _ => hP _ rfl

theorem loadPlayer_all (cfg : GameConfiguration) (p : PlayerId) (allow : Bool) :
    (loadPlayer cfg p allow).All P := by
  unfold loadPlayer
  split
  · exact all_pure
  · refine all_seq (hP _ rfl) fun _ => ?_
    exact (datasetGet_all (fun _ => hP _ rfl) p).bind fun got => all_call (hP _ rfl)

/-- A plain operation is made of plain sections. -/
theorem Op.code_all (cfg : GameConfiguration) (fuel : Nat) {o : Op} (ho : o.plain = true) :
    (o.code cfg fuel).All P :=
  Op.code_parts Prog.compositional_all (part_of_plain hP) (flushPlayer_all hP) cfg fuel ho
    fun _ => loadPlayer_all hP

theorem answerLogin_all (cfg : GameConfiguration) (source : ProcessId) (gate : GateSession)
    (resolved : PlayerDirectoryResolveResult) : (answerLogin cfg source gate resolved).All P :=
  answerLogin_parts Prog.compositional_all (fun a hl _ _ => part_of_plain hP a hl) (loadPlayer_all hP) cfg
    source gate resolved

theorem handleLoginRequest_all (hD : ∀ a : DirectoryAct, P (.directory a)) (cfg : GameConfiguration)
    (fuel : Nat) (source : ProcessId) (key : String) (gate : GateSession) :
    (handleLoginRequest cfg fuel source key gate).All P :=
  handleLoginRequest_parts Prog.compositional_all (fun a hl _ _ => part_of_plain hP a hl) (loadPlayer_all hP)
    (resolveOrCreate_all hD) cfg fuel source key gate

end Plain

end Footprint

end SomeServer
