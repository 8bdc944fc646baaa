/-
# SomeServer.Game.Stores — the stores of a process agree about every player

After each session operation a player is either in memory everywhere, or nowhere, or present without
its lease (`PlayerView.Settled`). One path breaks this: `ReleasePlayer` marks the record `unloading`
and returns when the unbinding fails, and `ReconcileLeaseLosses` has unbound the player before. So the
theorem is about the runs in which every unbinding of a release finds its player bound; then the stores
agree whenever no operation is under way, whatever else fails.
-/
import SomeServer.Game.Alone
import SomeServer.Game.Ownership

namespace SomeServer

open Lib

/-! ## Settled players -/

/-- The view of a player while no operation is under way. -/
structure PlayerView.Settled (v : PlayerView) : Prop where
  present : v.session.isSome = true → v.isPresent = true
  whole : v.isPresent = true → v.held = true →
    v.bound = true ∧ v.tracked = true ∧ v.loaded = true
  known : v.isPresent = true → v.known = true
  gone : v.session = none →
    v.bound = false ∧ v.tracked = false ∧ v.loaded = false ∧ v.held = false

namespace PlayerView

variable {v : PlayerView}

/-- A player without a lease is settled when its record is there for a present session, and nothing
is there for an absent one. -/
theorem Settled.drop (hv : v.Settled) : { v with held := false }.Settled where
  present := hv.present
  whole _ h := by cases h
  known := hv.known
  gone h := ⟨(hv.gone h).1, (hv.gone h).2.1, (hv.gone h).2.2.1, rfl⟩

/-- Without its lease a present player is settled as soon as it has a record. -/
theorem settled_of_present (hpresent : v.isPresent = true) (hknown : v.known = true)
    (hheld : v.held = false) : v.Settled where
  present _ := hpresent
  whole _ h := by
    rw [hheld] at h
    cases h
  known _ := hknown
  gone h := by simp [isPresent, h] at hpresent

/-- Both forms of `DetachPlayer` find their player online. -/
theorem Settled.detached (hv : v.Settled) (h : v.session = some .online) :
    { v with session := some .detached }.Settled := by
  have hpresent : v.isPresent = true := by simp [isPresent, h, PlayerSessionState.present]
  exact ⟨fun _ => rfl, fun _ => hv.whole hpresent, fun _ => hv.known hpresent, fun h => by cases h⟩

/-- What `ReconcileLeaseLosses` does to a player without its lease. -/
theorem Settled.reconcile (hv : v.Settled) (hheld : v.held = false) (unbind : Result)
    (action : LostPlayerAction) (now : UInt64) {counted : Bool} :
    ((v.after action.playerId (.ipc (.unbindLocalPlayer action.playerId)) unbind).after
        action.playerId (.session (.reconcileLost action now)) counted).Settled ∧
      ((v.after action.playerId (.ipc (.unbindLocalPlayer action.playerId)) unbind).after
        action.playerId (.session (.reconcileLost action now)) counted).held = false := by
  obtain ⟨b, hb, hbound⟩ : ∃ b, v.after action.playerId
      (.ipc (.unbindLocalPlayer action.playerId)) unbind = { v with bound := b } ∧
      (v.bound = false → b = false) := by
    cases hu : unbind.ok with
    | true => exact ⟨false, by simp [after, hu], fun _ => rfl⟩
    | false => exact ⟨v.bound, by simp [after, hu], id⟩
  rw [hb]
  by_cases hsession : v.session = none
  · have hsame : { v with bound := b } = v := by
      rw [hbound (hv.gone hsession).1, ← (hv.gone hsession).1]
    rw [hsame, after, if_neg (by simp [hsession])]
    exact ⟨hv, hheld⟩
  · have hpresent := hv.present (by simpa [Option.isSome_iff_ne_none] using hsession)
    have hknown := hv.known hpresent
    simp only [after]
    split
    · exact ⟨settled_of_present rfl hknown hheld, hheld⟩
    · exact ⟨settled_of_present hpresent hknown hheld, hheld⟩

/-- The view of a player that is nowhere. -/
def gone : PlayerView where
  session := none
  held := false
  bound := false
  tracked := false
  known := false
  loaded := false

theorem settled_gone : gone.Settled where
  present h := by cases h
  whole h := by cases h
  known h := by cases h
  gone _ := ⟨rfl, rfl, rfl, rfl⟩

end PlayerView

namespace GameProcess

variable {T : Type} {cfg : GameConfiguration} {t : T} {env : Env} {s s' : GameProcess T}

/-- What holds of a process between two operations. -/
structure Agree (s : GameProcess T) : Prop where
  free : s.Free
  sound : s.Sound
  settled : ∀ p, (s.view p).Settled

variable {V : PlayerId → PlayerView} {q : PlayerId} {v : PlayerView}

theorem Agree.of_alone (hs : Alone V s) (hV : ∀ p, (V p).Settled) : s.Agree where
  free := hs.free
  sound := hs.sound
  settled p := by
    rw [hs.views]
    exact hV p

theorem Agree.alone (hs : s.Agree) : Alone s.view s := ⟨hs.free, hs.sound, fun _ => rfl⟩

theorem Agree.of_update (hs : Alone (Function.update V q v) s) (hV : ∀ p, (V p).Settled)
    (hv : v.Settled) : s.Agree := by
  refine .of_alone hs fun p => ?_
  by_cases hp : p = q
  · subst hp
    rwa [Function.update_self]
  · rw [Function.update_of_ne hp]
    exact hV p

variable {α : Type} {ok : Act → Env → GameProcess T → Prop}

/-- One section of an operation on player `q`. -/
theorem Alone.seq_at {Q : α → GameProcess T → Prop} {a : Act} {k : a.Reply → Call α}
    (hs : Alone (Function.update V q v) s) (ha : a.locks = false)
    (hm : a.moves = some q ∨ a.moves = none)
    (hk : ∀ i s' r, ok a i s → s.exec cfg t i a = some (s', r) → s.view q = v →
      Alone (Function.update V q (v.after q a r)) s' → (k r).Ends (machine cfg) t ok Q s') :
    (call a >>= k).Ends (machine cfg) t ok Q s := by
  refine hs.seq ha fun i s' r hok hx hs' => hk i s' r hok hx ?_ ?_
  · rw [hs.views, Function.update_self]
  · refine ⟨hs'.free, hs'.sound, fun p => ?_⟩
    rw [hs'.views]
    by_cases hp : p = q
    · subst hp
      simp only [Function.update_self]
    · simp only [Function.update_of_ne hp]
      refine PlayerView.after_of_moves_ne ha ?_
      rcases hm with hm | hm
      · rw [hm]
        simpa using Ne.symm hp
      · rw [hm]
        simp

/-- The stores' answer to `Snapshot`. -/
theorem snapshot_view {r : Option PlayerRepositoryRecord}
    (h : s.exec cfg t env (.repository (.snapshot q)) = some (s', r)) :
    r.isSome = (s.view q).known ∧ r.any (·.loaded) = (s.view q).loaded := by
  rw [snapshot_reply h]
  exact ⟨rfl, rfl⟩

/-- `EnsurePlayer` makes a runtime entry for a loaded player, and fails for any other. -/
theorem ensurePlayer_ends (hs : Alone (Function.update V q v) s) :
    (ensurePlayer q).Ends (machine cfg) t ok (fun r s' =>
      (r.ok = true ∧ v.loaded = true ∧ Alone (Function.update V q { v with tracked := true }) s') ∨
      (r.ok = false ∧ v.loaded = false ∧ Alone (Function.update V q v) s')) s := by
  refine hs.seq_at rfl (.inr rfl) fun i s₁ r _ hx hview hs₁ => ?_
  have hloaded := (snapshot_view hx).2
  rw [hview] at hloaded
  rw [hloaded]
  cases hl : v.loaded with
  | false => exact .inr ⟨rfl, rfl, hs₁⟩
  | true =>
      refine hs₁.seq_at rfl (.inl rfl) fun i s₂ _ _ _ _ hs₂ => .inl ⟨rfl, rfl, ?_⟩
      simpa [PlayerView.after, hl] using hs₂

/-! ## Activation -/

section Activation

variable (hV : ∀ p, (V p).Settled)
include hV

/-- A fresh activation behind the lease: a failure leaves nothing behind. -/
theorem admitPlayer_ends (hs : Alone (Function.update V q v) s) (hsession : v.session = none)
    (hbound : v.bound = false) (htracked : v.tracked = false) (hloaded : v.loaded = false)
    (gate : GateSession) (allow : Bool) :
    (admitPlayer cfg q gate allow).Ends (machine cfg) t ok (fun _ s' => s'.Agree) s := by
  refine Prog.Ends.bind (Prog.Ends.mono ?_ (loadPlayer_ends hs q allow))
  rintro load s₁ ⟨known, -, hknown, hs₁⟩
  rw [Function.update_idem, Function.update_self, hloaded, Bool.or_false] at hs₁
  split
  · rename_i hload
    have hfail : load.ok = false := by simpa using hload
    rw [hfail] at hs₁
    refine hs₁.seq_at rfl (.inl rfl) fun i s₂ r _ _ _ hs₂ => ?_
    refine .of_update hs₂ hV ⟨?_, ?_, ?_, ?_⟩ <;>
      simp [PlayerView.after, PlayerView.isPresent, hsession, hbound, htracked]
  · rename_i hload
    have hok : load.ok = true := by simpa using hload
    rw [hok, hknown hok] at hs₁
    refine hs₁.seq_at rfl (.inl rfl) fun i s₂ bind _ hbind hview₁ hs₂ => ?_
    split
    · rename_i hfailed
      have hno : bind.ok = false := by
        cases hb : bind.ok with
        | false => rfl
        | true => simp [bindFailed, hb] at hfailed
      rw [PlayerView.after, hno] at hs₂
      refine hs₂.seq_at rfl (.inl rfl) fun i s₃ _ _ _ _ hs₃ => ?_
      refine hs₃.seq_at rfl (.inl rfl) fun i s₄ _ _ _ _ hs₄ => ?_
      refine .of_update hs₄ hV ⟨?_, ?_, ?_, ?_⟩ <;>
        simp [PlayerView.after, PlayerView.isPresent, hsession, hbound, htracked]
    · rename_i hfailed
      have hyes : bind.ok = true := by
        rcases bindLocalPlayer_reply hbind (by simpa using hfailed) with h | h
        · exact h
        · rw [hview₁] at h
          exact absurd h (by simp [hbound])
      simp only [PlayerView.after, hyes, and_self, if_true] at hs₂
      refine Prog.Ends.bind (Prog.Ends.mono ?_ (ensurePlayer_ends hs₂))
      rintro ensure s₃ (⟨hensure, -, hs₃⟩ | ⟨-, hfalse, -⟩)
      · simp only [hensure, Bool.not_true, Bool.false_eq_true, if_false]
        refine hs₃.seq_at rfl (.inl rfl) fun i s₄ _ _ _ _ hs₄ => ?_
        refine .of_update hs₄ hV ⟨?_, ?_, ?_, ?_⟩ <;>
          simp [PlayerView.after, PlayerView.isPresent, PlayerSessionState.present]
      · cases hfalse

/-- A resumed activation: the player is present and was without its lease. -/
theorem resumePlayer_ends (hs : Alone (Function.update V q v) s) (hpresent : v.isPresent = true)
    (hknown : v.known = true) (gate : GateSession) (allow : Bool) :
    (resumePlayer cfg q gate allow).Ends (machine cfg) t ok (fun _ s' => s'.Agree) s := by
  have hsome : v.session.isSome = true := by
    cases hs : v.session with
    | none => simp [PlayerView.isPresent, hs] at hpresent
    | some state => rfl
  refine Prog.Ends.bind (Prog.Ends.mono (Q := fun load s' => load.ok = true ∧
    Alone (Function.update V q v) s') ?_ ?_)
  · rintro load s₁ ⟨hload, hs₁⟩
    simp only [hload, Bool.not_true, Bool.false_eq_true, if_false]
    refine hs₁.seq_at rfl (.inl rfl) fun i s₂ bind _ hbind hview₁ hs₂ => ?_
    split
    · rename_i hfailed
      have hno : bind.ok = false := by
        cases hb : bind.ok with
        | false => rfl
        | true => simp [bindFailed, hb] at hfailed
      simp only [PlayerView.after, hno, Bool.false_eq_true, and_false, if_false] at hs₂
      refine hs₂.seq_at rfl (.inl rfl) fun i s₃ _ _ _ _ hs₃ => ?_
      simp only [PlayerView.after, if_true] at hs₃
      exact .of_update hs₃ hV (PlayerView.settled_of_present hpresent hknown rfl)
    · rename_i hfailed
      have hbound : v.after q (.ipc (.bindLocalPlayer q)) bind = { v with bound := true } := by
        rcases bindLocalPlayer_reply hbind (by simpa using hfailed) with h | h
        · simp [PlayerView.after, h]
        · rw [hview₁] at h
          cases hb : bind.ok <;> simp [PlayerView.after, hb, ← h]
      rw [hbound] at hs₂
      refine Prog.Ends.bind (Prog.Ends.mono ?_ (ensurePlayer_ends hs₂))
      rintro ensure s₃ (⟨hensure, hloaded, hs₃⟩ | ⟨hensure, -, hs₃⟩)
      · simp only [hensure, Bool.not_true, Bool.false_eq_true, if_false]
        refine hs₃.seq_at rfl (.inl rfl) fun i s₄ r _ hx hview₃ hs₄ => ?_
        have hr : r.ok = true := by
          rw [activateResume_reply hx, hview₃]
          exact hpresent
        simp only [PlayerView.after, hr, if_true] at hs₄
        exact .of_update hs₄ hV ⟨fun _ => rfl, fun _ _ => ⟨rfl, rfl, hloaded⟩, fun _ => hknown,
          fun h => by cases h⟩
      · simp only [hensure, Bool.not_false, if_true]
        refine hs₃.seq_at rfl (.inl rfl) fun i s₄ _ _ _ _ hs₄ => ?_
        refine hs₄.seq_at rfl (.inl rfl) fun i s₅ r _ _ _ hs₅ => ?_
        simp only [PlayerView.after, if_true] at hs₅
        refine .of_update hs₅ hV (PlayerView.settled_of_present ?_ ?_ ?_) <;>
          split <;> first | exact hpresent | exact hknown | rfl
  · -- the record of a present player is there, so nothing is loaded
    refine hs.seq_at rfl (.inr rfl) fun i s₁ r _ hx hview hs₁ => ?_
    have hr : r.isSome = true := by
      rw [(snapshot_view hx).1, hview]
      exact hknown
    rw [hr]
    exact ⟨rfl, hs₁⟩

/-- `ActivatePlayer`. -/
theorem activatePlayer_ends (hs : Alone V s) (q : PlayerId) (gate : GateSession) (allow : Bool) :
    (activatePlayer cfg q gate allow).Ends (machine cfg) t ok (fun _ s' => s'.Agree) s := by
  rw [← Function.update_eq_self q V] at hs
  have hv := hV q
  refine hs.seq_at rfl (.inl rfl) fun i s₁ decision _ hx hview hs₁ => ?_
  rcases activateEnter_reply hx with ⟨rfl, hsession⟩ | ⟨rfl, hpresent, -⟩ |
    ⟨rfl, hpresent, hheld⟩ | ⟨rfl, hsome, hpresent⟩
  · rw [hview] at hsession
    obtain ⟨hbound, htracked, hloaded, hheld⟩ := hv.gone hsession
    simp only [PlayerView.after, reduceCtorEq, and_false, if_false] at hs₁
    refine hs₁.seq_at rfl (.inl rfl) fun i s₂ lease _ _ _ hs₂ => ?_
    cases hlease : lease.ok with
    | false =>
        simp only [PlayerView.after, hlease, Bool.false_eq_true, and_false, if_false] at hs₂
        exact .of_update hs₂ hV hv
    | true =>
        simp only [PlayerView.after, hlease, and_self, if_true] at hs₂
        exact admitPlayer_ends hV hs₂ hsession hbound htracked hloaded gate allow
  · rw [hview] at hpresent
    simp only [PlayerView.after, reduceCtorEq, and_false, if_false] at hs₁
    refine hs₁.seq_at rfl (.inl rfl) fun i s₂ lease _ _ _ hs₂ => ?_
    cases hlease : lease.ok with
    | false =>
        simp only [PlayerView.after, hlease, Bool.false_eq_true, and_false, if_false] at hs₂
        exact .of_update hs₂ hV hv
    | true =>
        simp only [PlayerView.after, hlease, and_self, if_true] at hs₂
        exact resumePlayer_ends hV hs₂ hpresent (hv.known hpresent) gate allow
  · rw [hview] at hpresent hheld
    simp only [PlayerView.after, and_self, if_true] at hs₁
    exact .of_update hs₁ hV ⟨fun _ => rfl, fun _ _ => hv.whole hpresent hheld,
      fun _ => hv.known hpresent, fun h => by cases h⟩
  · -- a settled player is never in transition
    rw [hview] at hsome hpresent
    rw [hv.present hsome] at hpresent
    cases hpresent

end Activation

/-! ## Release -/

/-- How `ReleasePlayer` ends: with nothing changed for a player without a session, or when the storage
refuses the flush; with the player gone; or with its record left in `unloading`, because the player is
not bound here, or because it has no repository record. -/
inductive Released (ok : Act → Env → GameProcess T → Prop) (V : PlayerId → PlayerView) (q : PlayerId)
    (r : Result) (s' : GameProcess T) : Prop where
  | untracked (hsession : (V q).session = none) (hr : r.ok = false) (hs : Alone V s')
  | refused (hr : r.ok = false) (hs : Alone V s')
      (hstored : ∃ stored i s'', ok (.repository (.flushLeave q stored)) i s'' ∧ stored.ok = false)
  | gone (hsome : (V q).session.isSome = true) (hbound : (V q).bound = true) (hknown : (V q).known = true)
      (hr : r.ok = true) (hs : Alone (Function.update V q PlayerView.gone) s')
  | unbound (hsome : (V q).session.isSome = true) (hbound : (V q).bound = false) (hr : r.ok = false)
      (hs : Alone (Function.update V q { V q with session := some .unloading }) s')
      (hunbind : ∃ i s'', ok (.ipc (.unbindLocalPlayer q)) i s'' ∧ s''.ipc.boundPlayers q = false)
  | unknown (hsome : (V q).session.isSome = true) (hbound : (V q).bound = true)
      (hknown : (V q).known = false) (hr : r.ok = false)
      (hs : Alone (Function.update V q
        { V q with session := some .unloading, bound := false, tracked := false, known := false,
                   loaded := false }) s')

/-- `ReleasePlayer` from the unbinding on: it removes a bound player everywhere, and gives up on a
player that is not bound before anything else is touched. -/
theorem unloadPlayer_ends (hsome : (V q).session.isSome = true)
    (hs : Alone (Function.update V q { V q with session := some .unloading }) s) :
    (unloadPlayer q).Ends (machine cfg) t ok (Released ok V q) s := by
  refine hs.seq_at rfl (.inl rfl) fun i s₁ unbind hguard hx hview hs₁ => ?_
  have hunbind : unbind.ok = (V q).bound := by
    rw [unbindLocalPlayer_reply hx hs.sound.resolves, hview]
  cases hbound : (V q).bound with
  | false =>
      rw [hbound] at hunbind
      have hb : s.ipc.boundPlayers q = false := (congrArg PlayerView.bound hview).trans hbound
      simp only [PlayerView.after, hunbind, Bool.false_eq_true, and_false, if_false] at hs₁
      simp only [hunbind, Bool.not_false, if_true]
      exact .unbound hsome hbound hunbind hs₁ ⟨i, s, hguard, hb⟩
  | true =>
      rw [hbound] at hunbind
      simp only [PlayerView.after, hunbind, and_self, if_true] at hs₁
      simp only [hunbind, Bool.not_true, Bool.false_eq_true, if_false]
      refine hs₁.seq_at rfl (.inl rfl) fun i s₂ _ _ _ _ hs₂ => ?_
      simp only [PlayerView.after, if_true] at hs₂
      refine hs₂.seq_at rfl (.inl rfl) fun i s₃ release _ hx₃ hview₃ hs₃ => ?_
      have hrelease : release.ok = (V q).known := by
        rw [release_reply hx₃, hview₃]
      simp only [PlayerView.after, if_true] at hs₃
      cases hknown : (V q).known with
      | false =>
          rw [hknown] at hrelease
          simp only [hrelease, Bool.not_false, if_true]
          exact .unknown hsome hbound hknown hrelease hs₃
      | true =>
          rw [hknown] at hrelease
          simp only [hrelease, Bool.not_true, Bool.false_eq_true, if_false]
          refine hs₃.seq_at rfl (.inl rfl) fun i s₄ _ _ _ _ hs₄ => ?_
          simp only [PlayerView.after, if_true] at hs₄
          refine hs₄.seq_at rfl (.inl rfl) fun i s₅ _ _ _ _ hs₅ => ?_
          simp only [PlayerView.after, if_true] at hs₅
          exact .gone hsome hbound hknown rfl hs₅

theorem releasePlayer_ends (hs : Alone V s) (q : PlayerId) :
    (releasePlayer q).Ends (machine cfg) t ok (Released ok V q) s := by
  rw [← Function.update_eq_self q V] at hs
  refine hs.seq_at rfl (.inl rfl) fun i s₁ previous _ hx hview hs₁ => ?_
  have hprevious : previous.map (·.state) = (V q).session := by
    rw [releaseEnter_reply hx, ← hview]
    rfl
  cases previous with
  | none =>
      simp only [PlayerView.after, Option.isSome_none, Bool.false_eq_true, and_false, if_false,
        Function.update_eq_self] at hs₁
      exact .untracked hprevious.symm rfl hs₁
  | some record =>
      simp only [PlayerView.after, Option.isSome_some, and_self, if_true] at hs₁
      have hsome : (V q).session.isSome = true := by rw [← hprevious]; rfl
      refine hs₁.seq_at rfl (.inr rfl) fun i s₂ repository _ hx₂ hview₂ hs₂ => ?_
      split
      · exact unloadPlayer_ends hsome hs₂
      · rename_i hdirty
        refine Prog.Ends.bind (Prog.Ends.mono ?_ (flushPlayer_ends hs₂ q))
        rintro flush s₃ ⟨hs₃, hflush⟩
        split
        · rename_i hfail
          -- a dirty record is loaded, so it is the storage that has refused it
          have hloaded : (s₁.view q).loaded = true := by
            rw [snapshot_reply hx₂] at hdirty
            show (s₁.repository.players q).any (·.loaded) = true
            cases hp : s₁.repository.players q with
            | none => simp [hp] at hdirty
            | some stored =>
              rw [hp] at hdirty
              exact hs₁.sound.dirty q stored hp (by simpa using hdirty)
          have hrefused : ∃ stored i s'', ok (.repository (.flushLeave q stored)) i s'' ∧
              stored.ok = false := by
            obtain ⟨stored, i', s'', hguard, hr⟩ := hflush (by
              rw [hview₂] at hloaded
              simpa [PlayerView.after] using hloaded)
            exact ⟨stored, i', s'', hguard, hr.symm.trans (by simpa using hfail)⟩
          refine hs₃.seq_at rfl (.inl rfl) fun i s₄ _ _ _ _ hs₄ => ?_
          simp only [PlayerView.after, Option.isSome_some, and_self, if_true] at hs₄
          have hsession : some record.state = (V q).session := hprevious
          rw [hsession, Function.update_eq_self] at hs₄
          exact .refused rfl hs₄ hrefused
        · exact unloadPlayer_ends hsome hs₃

/-- The inputs under which every unbinding finds its player bound. -/
def UnbindsBound (ok : Act → Env → GameProcess T → Prop) : Prop :=
  ∀ p i s, ok (.ipc (.unbindLocalPlayer p)) i s → s.ipc.boundPlayers p = true

theorem Released.agree (hok : UnbindsBound ok) (hV : ∀ p, (V p).Settled) {r : Result}
    (h : Released ok V q r s) : s.Agree := by
  cases h with
  | untracked _ _ hs => exact .of_alone hs hV
  | refused _ hs _ => exact .of_alone hs hV
  | gone _ _ _ _ hs => exact .of_update hs hV PlayerView.settled_gone
  | unbound _ _ _ _ hunbind =>
      obtain ⟨i, s'', hguard, hunbound⟩ := hunbind
      rw [hok q i s'' hguard] at hunbound
      cases hunbound
  | unknown hsome _ hknown _ _ =>
      have hpresent := (hV q).present hsome
      rw [(hV q).known hpresent] at hknown
      cases hknown

/-! ## The operations -/

section Operations

theorem releaseAll_ends (hok : UnbindsBound ok) (players : List PlayerId) :
    ∀ (released : Nat) {s : GameProcess T}, s.Agree →
      (releaseAll players released).Ends (machine cfg) t ok (fun _ s' => s'.Agree) s := by
  induction players with
  | nil => intro released s hs; exact hs
  | cons p rest ih =>
      intro released s hs
      refine Prog.Ends.bind (Prog.Ends.mono ?_ (releasePlayer_ends hs.alone p))
      exact fun release s' h => ih _ (h.agree hok hs.settled)

theorem expireDetachedPlayers_ends (hok : UnbindsBound ok) (hs : s.Agree) (order : List PlayerId) :
    (expireDetachedPlayers order).Ends (machine cfg) t ok (fun _ s' => s'.Agree) s := by
  refine hs.alone.seq rfl fun i s₁ now _ _ hs₁ => ?_
  refine hs₁.seq rfl fun i s₂ expired _ _ hs₂ => ?_
  exact releaseAll_ends hok expired 0 (.of_alone hs₂ hs.settled)

/-- A player whose lease is lost is unbound and detached, which changes no lease. -/
theorem reconcileUnbound_ends (hs : s.Agree) (action : LostPlayerAction) (now : UInt64)
    (hheld : (s.view action.playerId).held = false) :
    (reconcileUnbound action now).Ends (machine cfg) t ok (fun _ s' => s'.Agree ∧
      ∀ p, (s'.view p).held = (s.view p).held) s := by
  obtain ⟨q, state, gate⟩ := action
  have hv := hs.settled q
  have hs₀ : Alone (Function.update s.view q (s.view q)) s := by
    rw [Function.update_eq_self]
    exact hs.alone
  refine hs₀.seq_at rfl (.inl rfl) fun i s₁ unbind _ _ _ hs₁ => ?_
  refine hs₁.seq_at rfl (.inl rfl) fun i s₂ _ _ _ _ hs₂ => ?_
  obtain ⟨hv', hheld'⟩ := hv.reconcile hheld unbind ⟨q, state, gate⟩ now
  refine ⟨.of_update hs₂ hs.settled hv', fun p => ?_⟩
  rw [hs₂.views]
  by_cases hp : p = q
  · subst hp
    rw [Function.update_self, hheld', hheld]
  · rw [Function.update_of_ne hp]

theorem reconcileAll_ends (now : UInt64) (lost : List LostPlayerAction) :
    ∀ (reconciled : Nat) {s : GameProcess T}, s.Agree →
      (∀ action ∈ lost, (s.view action.playerId).held = false) →
      (reconcileAll now lost reconciled).Ends (machine cfg) t ok (fun _ s' => s'.Agree) s := by
  induction lost with
  | nil => intro reconciled s hs _; exact hs
  | cons action rest ih =>
      intro reconciled s hs hheld
      have hunbound : ∀ {s₁ : GameProcess T}, s₁.Agree → (∀ p, (s₁.view p).held = (s.view p).held) →
          (reconcileUnbound action now).Ends (machine cfg) t ok (fun _ s' => s'.Agree ∧
            ∀ p, (s'.view p).held = (s.view p).held) s₁ := by
        intro s₁ hs₁ hsame
        have hlost : (s₁.view action.playerId).held = false := by
          rw [hsame]
          exact hheld action (List.mem_cons_self ..)
        exact Prog.Ends.mono (fun _ s' h => ⟨h.1, fun p => (h.2 p).trans (hsame p)⟩)
          (reconcileUnbound_ends hs₁ action now hlost)
      refine Prog.Ends.bind (Prog.Ends.mono (Q := fun _ s' => s'.Agree ∧
        ∀ p, (s'.view p).held = (s.view p).held) (fun counted s' h => ih _ h.1 ?_) ?_)
      · intro a ha
        rw [h.2]
        exact hheld a (List.mem_cons_of_mem _ ha)
      · unfold reconcilePlayer
        split
        · refine hs.alone.seq rfl fun i s₁ _ _ _ hs₁ => ?_
          exact hunbound (.of_alone hs₁ hs.settled) fun p => congrArg PlayerView.held (hs₁.views p)
        · exact hunbound hs fun _ => rfl

theorem reconcileLeaseLosses_ends (hs : s.Agree) (order : List PlayerId) :
    (reconcileLeaseLosses order).Ends (machine cfg) t ok (fun _ s' => s'.Agree) s := by
  refine hs.alone.seq rfl fun i s₁ lost _ hx hs₁ => ?_
  refine hs₁.seq rfl fun i s₂ now _ _ hs₂ => ?_
  refine reconcileAll_ends now lost 0 (.of_alone hs₂ hs.settled) fun action ha => ?_
  rw [hs₂.views]
  exact lostPlayers_reply hx action ha

theorem Agree.detachIf (hs : s.Agree) {matchesGate : GateSession → Bool} {nowMs : UInt64} :
    ({ s with sessions := (s.sessions.detachIf cfg matchesGate q nowMs).1 } :
      GameProcess T).Agree where
  free := ⟨hs.free.lease, hs.free.repository⟩
  sound := ⟨hs.sound.resolves, hs.sound.dirty⟩
  settled p := by
    rw [view_detachIf]
    split
    · rename_i hp
      obtain ⟨rfl, hr⟩ := hp
      exact (hs.settled q).detached (detachIf_ok hr)
    · exact hs.settled p

/-- Every session operation ends, with the stores in agreement, when it starts with them in agreement;
a release must not come to an unbound player. -/
theorem code_ends (fuel : Nat) {o : Op} (ho : o.isSession = true)
    (hok : o.releases = true → UnbindsBound ok) (hs : s.Agree) :
    (o.code cfg fuel).Ends (machine cfg) t ok (fun _ s' => s'.Agree) s := by
  cases o with
  | activate p gate allow =>
      exact Prog.Ends.bind (activatePlayer_ends hs.settled hs.alone p gate allow)
  | detach p =>
      refine ends_seq (fun i _ => hs.free.exec_some (by simp)) fun i s₁ r _ hx => ?_
      simp only [exec, execSession, Option.some.injEq, Prod.mk.injEq] at hx
      obtain ⟨rfl, -⟩ := hx
      exact hs.detachIf
  | disconnected p gate =>
      refine ends_seq (fun i _ => hs.free.exec_some (by simp)) fun i s₁ r _ hx => ?_
      simp only [exec, execSession, Option.some.injEq, Prod.mk.injEq] at hx
      obtain ⟨rfl, -⟩ := hx
      dsimp only [Prog.bind]
      split <;> exact hs.detachIf
  | release p =>
      exact Prog.Ends.bind (Prog.Ends.mono (fun r s' h => h.agree (hok rfl) hs.settled)
        (releasePlayer_ends hs.alone p))
  | expire order => exact Prog.Ends.bind (expireDetachedPlayers_ends (hok rfl) hs order)
  | reconcile order => exact Prog.Ends.bind (reconcileLeaseLosses_ends hs order)
  | renew order =>
      refine Prog.Ends.bind (Prog.Ends.mono ?_ (renewLeases_ends hs.alone order))
      rintro _ s' ⟨lost, hs'⟩
      refine .of_alone hs' fun p => ?_
      split
      · exact (hs.settled p).drop
      · exact hs.settled p
  | releaseLease p =>
      refine hs.alone.seq rfl fun i s₁ r _ _ hs₁ => .of_alone hs₁ fun q => ?_
      simp only [PlayerView.after]
      split
      · exact (hs.settled q).drop
      · exact hs.settled q
  | _ => cases ho

end Operations

/-! ## Every run -/

/-- A release that comes to the unbinding of a player that is not bound here. -/
def unbindsUnbound (o : Op) (a : Act) (s : GameProcess T) : Bool :=
  match a with
  | .ipc (.unbindLocalPlayer p) => o.releases && !s.ipc.boundPlayers p
  | _ => false

/-- The moves of the runs to be considered: session operations, one after the other. -/
def storesGuard (c : Pool Unit Op Act Act.Reply OpResult (GameProcess Unit)) :
    Move Unit Op Env → Bool
  | .start _ o => o.isSession
  | .act t _ =>
      match c.threads t with
      | some (o, .act a _) => !unbindsUnbound o a c.shared
      | _ => true

/-- A process that has just been started: it knows itself, or does not, has discovered some members,
and has no players. -/
def started (self : Option ProcessRef) (redis : Bool) (members : List ProcessRef := []) :
    GameProcess T where
  ipc := { self, members }
  lease := { redis }

theorem agree_started {self : Option ProcessRef} {redis : Bool} {members : List ProcessRef} :
    (started self redis members : GameProcess T).Agree where
  free := ⟨rfl, rfl⟩
  sound := by
    refine ⟨?_, ?_⟩
    · intro p hp
      cases hp
    · intro p record hp
      cases hp
  settled _ := PlayerView.settled_gone

/-- What every reachable state satisfies: between two operations the stores agree, and an operation
under way will end with the stores in agreement. -/
theorem stores_run (fuel : Nat) {self : Option ProcessRef} {redis : Bool} {members : List ProcessRef}
    {c : Pool Unit Op Act Act.Reply OpResult (GameProcess Unit)}
    (hrun : Run (machine cfg) (fun _ o => o.code cfg fuel) (fun c m => storesGuard c m = true)
      (Pool.initial (started self redis members)) c) :
    c.EndsIn (machine cfg) (fun _ o a _ s => unbindsUnbound o a s = false) Agree () := by
  have hcode : ∀ (t : Unit) (o : Op) s, o.isSession = true → s.Agree →
      (o.code cfg fuel).Ends (machine cfg) t (fun a _ s => unbindsUnbound o a s = false)
        (fun _ s' => s'.Agree) s := by
    intro t o s ho hs
    refine code_ends fuel ho (fun hr p i s' h => ?_) hs
    simpa [unbindsUnbound, hr] using h
  refine hrun.sequential hcode ?_ ?_ agree_started ()
  · intro c t o hg
    exact hg
  · intro c t o a k i hg ht
    simpa [storesGuard, ht] using hg

/-- The agreement of the five stores. -/
structure StoresAgree (s : GameProcess T) : Prop where
  settled : ∀ p record, s.sessions p = some record →
    record.state = .online ∨ record.state = .detached
  online : ∀ p record, s.sessions p = some record → record.state = .online →
    s.isHeldLocally p = true →
    s.ipc.boundPlayers p = true ∧ (s.runtime p).isSome = true ∧ s.repository.isLoaded p = true
  absent : ∀ p, s.sessions p = none → s.ipc.boundPlayers p = false ∧ s.runtime p = none ∧
    s.repository.isLoaded p = false ∧ s.isHeldLocally p = false

theorem Agree.stores (hs : s.Agree) : s.StoresAgree where
  settled p record hp := by
    have hpresent := (hs.settled p).present (by simp [view, hp])
    simp only [PlayerView.isPresent, view, hp, Option.map_some, Option.any_some] at hpresent
    cases hstate : record.state <;> simp_all [PlayerSessionState.present]
  online p record hp hstate hheld := by
    have hpresent := (hs.settled p).present (by simp [view, hp])
    exact (hs.settled p).whole hpresent hheld
  absent p hp := by
    obtain ⟨hbound, htracked, hloaded, hheld⟩ := (hs.settled p).gone (by simp [view, hp])
    exact ⟨hbound, by simpa [view] using htracked, hloaded, hheld⟩

/-- **The stores agree.** After any sequence of session operations and lease losses, with any replies
of the servers and any failing command, bind or flush, in which every unbinding of a release finds its
player bound: whenever no operation is under way, the five stores agree about every player. -/
theorem stores_agree (fuel : Nat) {self : Option ProcessRef} {redis : Bool} {members : List ProcessRef}
    {c : Pool Unit Op Act Act.Reply OpResult (GameProcess Unit)}
    (hrun : Run (machine cfg) (fun _ o => o.code cfg fuel) (fun c m => storesGuard c m = true)
      (Pool.initial (started self redis members)) c) (hidle : c.idle () = true) : c.shared.StoresAgree :=
  ((stores_run fuel hrun).of_idle hidle).stores

/-! ### A player that loses its lease -/

def startedSolo : Pool Unit Op Act Act.Reply OpResult (GameProcess Unit) :=
  Pool.initial (started (some ⟨⟨10, 1⟩, 1⟩) true)

/-- Player 7 logs in, its gate disconnects, and it is released when its time is over. -/
def orderlyRelease : List (Move Unit Op Env) :=
  .start () (.activate 7 ⟨20, 1, 5⟩ true) :: sections 11 (emptyServers 1000) ++
    .start () (.disconnected 7 ⟨20, 1, 5⟩) :: sections 1 (emptyServers 2000) ++
    .start () (.expire [7]) :: sections 14 (emptyServers 400000)

theorem stores_agree_orderly :
    ∃ c, startedSolo.play (machine soloGame) (fun _ o => o.code soloGame 0) storesGuard
        orderlyRelease = some c ∧
      (c.shared.sessions 7).isNone = true ∧ c.shared.StoresAgree := by
  have hend : (startedSolo.play (machine soloGame) (fun _ o => o.code soloGame 0) storesGuard
      orderlyRelease).map (fun c => (c.idle (), (c.shared.sessions 7).isNone)) =
      some (true, true) := by decide
  obtain ⟨c, hc, hcs⟩ := Option.map_eq_some_iff.mp hend
  simp only [Prod.mk.injEq] at hcs
  obtain ⟨hidle, hgone⟩ := hcs
  exact ⟨c, hc, hgone, stores_agree 0 (Run.refl.play (fun _ _ h => h) hc) hidle⟩

/-- Session operations, whatever they come to. -/
def sessionMoves (_ : Pool Unit Op Act Act.Reply OpResult (GameProcess Unit)) :
    Move Unit Op Env → Bool
  | .start _ o => o.isSession
  | .act _ _ => true

/-- The release of a player whose lease was lost leaves its session in `unloading`. -/
theorem stores_disagree :
    ∃ c, Run (machine soloGame) (fun _ o => o.code soloGame 0) (fun c m => sessionMoves c m = true)
        startedSolo c ∧
      c.idle () = true ∧ (c.shared.sessions 7).map (·.state) = some .unloading ∧
      ¬ c.shared.StoresAgree := by
  have hend : (startedSolo.play (machine soloGame) (fun _ o => o.code soloGame 0) sessionMoves
      (lateRelease ++ sections 4 (emptyServers 400000))).map
        (fun c => (c.idle (), (c.shared.sessions 7).map (·.state))) =
      some (true, some .unloading) := by decide
  obtain ⟨c, hc, hcs⟩ := Option.map_eq_some_iff.mp hend
  simp only [Prod.mk.injEq] at hcs
  obtain ⟨hidle, hstate⟩ := hcs
  refine ⟨c, Run.refl.play (fun _ _ h => h) hc, hidle, hstate, fun hagree => ?_⟩
  obtain ⟨record, hrecord, hs⟩ := Option.map_eq_some_iff.mp hstate
  rcases hagree.settled 7 record hrecord with h | h
  · rw [hs] at h
    cases h
  · rw [hs] at h
    cases h

end GameProcess

end SomeServer
