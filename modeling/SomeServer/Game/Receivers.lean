/-
# SomeServer.Game.Receivers — the two places a player is bound in

`BindLocalPlayer` and `UnbindLocalPlayer` change the receiver host and the receiver directory together,
or change nothing. So a player in the host is always found in the directory under this process
(`Resolves`), whatever remote bindings are made, and an unbinding can only fail for a player that is
not bound here.
-/
import SomeServer.Game.Ipc

namespace SomeServer

theorem LocalReceiverDirectory.bind_cases (d : LocalReceiverDirectory) (receiver : ReceiverAddress)
    (owner : ProcessRef) :
    d.bind receiver owner = (d, .failure "receiver already bound to another owner") ∨
      ∃ version, version ≠ 0 ∧ (∀ entry, d receiver = some entry → entry.version ≠ 0 →
        entry.owner = owner) ∧
      d.bind receiver owner = (Function.update d receiver (some ⟨owner, version⟩), .success) := by
  unfold bind
  cases hd : d receiver with
  | none =>
      refine .inr ⟨1, by decide, ?_, rfl⟩
      intro entry hentry
      cases hentry
  | some entry =>
    by_cases hother : entry.version ≠ 0 ∧ entry.owner ≠ owner
    · exact .inl (by simp only [if_pos hother])
    · refine .inr ⟨if entry.version = 0 then 1 else entry.version, ?_, ?_, ?_⟩
      · split
        · decide
        · assumption
      · intro e he hv
        cases he
        by_contra hne
        exact hother ⟨hv, hne⟩
      · simp only [if_neg hother]

namespace GameIpcClientService

/-- Every player bound here is found in the receiver directory, under this process. -/
def Resolves (s : GameIpcClientService) : Prop :=
  ∀ p, s.boundPlayers p = true → ∃ self version, s.self = some self ∧ version ≠ 0 ∧
    s.receivers (playerReceiverAddress p) = some ⟨self, version⟩

/-- `BindLocalPlayer` changes nothing and fails, or binds the player in both places. -/
theorem bindLocalPlayer_cases (p : PlayerId) (s : GameIpcClientService) :
    (∃ error, s.bindLocalPlayer p = (s, .failure error) ∧
      (error = alreadyBoundLocally → s.boundPlayers p = true)) ∨
    ∃ self version, s.self = some self ∧ version ≠ 0 ∧
      s.bindLocalPlayer p =
        ({ s with
            boundPlayers := Function.update s.boundPlayers p true
            receivers := Function.update s.receivers (playerReceiverAddress p)
              (some ⟨self, version⟩) }, .success) := by
  unfold bindLocalPlayer
  cases hself : s.self with
  | none => exact .inl ⟨_, rfl, fun h => absurd h (by decide)⟩
  | some self =>
    by_cases hbound : s.boundPlayers p = true
    · exact .inl ⟨alreadyBoundLocally, by simp only [hbound, if_true], fun _ => hbound⟩
    · simp only [hbound, Bool.false_eq_true, if_false]
      rcases s.receivers.bind_cases (playerReceiverAddress p) self with hb | ⟨v, hv, -, hb⟩
      · refine .inl ⟨"receiver already bound to another owner", ?_, fun h => absurd h (by decide)⟩
        rw [hb, ← hself]
        rfl
      · refine .inr ⟨self, v, rfl, hv, ?_⟩
        rw [hb, ← hself]
        rfl

/-- `UnbindLocalPlayer` changes nothing and fails, or unbinds the player in both places; a player that
is bound and resolves is unbound. -/
theorem unbindLocalPlayer_cases (p : PlayerId) (s : GameIpcClientService) :
    (∃ error, s.unbindLocalPlayer p = (s, .failure error) ∧
      ¬ (s.Resolves ∧ s.boundPlayers p = true)) ∨
    s.boundPlayers p = true ∧ s.unbindLocalPlayer p =
      ({ s with
          boundPlayers := Function.update s.boundPlayers p false
          receivers := Function.update s.receivers (playerReceiverAddress p) none }, .success) := by
  unfold unbindLocalPlayer
  cases hself : s.self with
  | none =>
      refine .inl ⟨_, rfl, fun ⟨hres, hbound⟩ => ?_⟩
      obtain ⟨self, version, hs, -, -⟩ := hres p hbound
      rw [hself] at hs
      cases hs
  | some self =>
    by_cases hbound : s.boundPlayers p = true
    · simp only [hbound, Bool.not_true, Bool.false_eq_true, if_false]
      cases hentry : s.receivers (playerReceiverAddress p) with
      | none =>
          refine .inl ⟨_, rfl, fun ⟨hres, _⟩ => ?_⟩
          obtain ⟨self', version, -, -, hr⟩ := hres p hbound
          rw [hentry] at hr
          cases hr
      | some entry =>
        by_cases howner : entry.owner = self
        · refine .inr ⟨trivial, ?_⟩
          simp [LocalReceiverDirectory.invalidate, hentry, howner, ← hself]
        · refine .inl ⟨"player receiver owner mismatch", by simp [howner], fun ⟨hres, _⟩ => ?_⟩
          obtain ⟨self', version, hs, -, hr⟩ := hres p hbound
          rw [hentry] at hr
          rw [hself, Option.some.injEq] at hs
          cases hr
          exact howner hs.symm
    · exact .inl ⟨"player is not bound locally", by simp [hbound], fun h => hbound h.2⟩

/-- A successful `BindLocalPlayer` leaves the player bound. -/
theorem bindLocalPlayer_bound {q p : PlayerId} {s : GameIpcClientService} :
    (s.bindLocalPlayer q).1.boundPlayers p =
      if q = p ∧ (s.bindLocalPlayer q).2.ok = true then true else s.boundPlayers p := by
  rcases bindLocalPlayer_cases q s with ⟨error, hb, -⟩ | ⟨self, version, -, -, hb⟩
  · simp [hb]
  · by_cases hq : q = p
    · subst hq
      simp [hb]
    · simp [hb, hq, Function.update_of_ne (Ne.symm hq)]

/-- A successful `UnbindLocalPlayer` leaves the player unbound. -/
theorem unbindLocalPlayer_bound {q p : PlayerId} {s : GameIpcClientService} :
    (s.unbindLocalPlayer q).1.boundPlayers p =
      if q = p ∧ (s.unbindLocalPlayer q).2.ok = true then false else s.boundPlayers p := by
  rcases unbindLocalPlayer_cases q s with ⟨error, hb, -⟩ | ⟨-, hb⟩
  · simp [hb]
  · by_cases hq : q = p
    · subst hq
      simp [hb]
    · simp [hb, hq, Function.update_of_ne (Ne.symm hq)]

/-- The bindings keep resolving. -/
theorem Resolves.exec {cfg : GameConfiguration} {env : Env} {s s' : GameIpcClientService}
    {a : IpcAct} {r : a.Reply} (hs : s.Resolves) (h : s.exec cfg env a = some (s', r)) :
    s'.Resolves := by
  cases a with
  | bindLocalPlayer q =>
      simp only [GameIpcClientService.exec, Option.some.injEq, Prod.ext_iff] at h
      obtain ⟨rfl, -⟩ := h
      rcases bindLocalPlayer_cases q s with ⟨error, hb, -⟩ | ⟨self, version, hself, hv, hb⟩
      · rw [hb]
        exact hs
      · rw [hb]
        intro p hp
        by_cases hq : p = q
        · subst hq
          exact ⟨self, version, hself, hv, Function.update_self ..⟩
        · simp only [Function.update_of_ne hq] at hp
          obtain ⟨self', version', hself', hv', hr⟩ := hs p hp
          refine ⟨self', version', hself', hv', (Function.update_of_ne ?_ _ _).trans hr⟩
          simpa using hq
  | unbindLocalPlayer q =>
      simp only [GameIpcClientService.exec, Option.some.injEq, Prod.ext_iff] at h
      obtain ⟨rfl, -⟩ := h
      rcases unbindLocalPlayer_cases q s with ⟨error, hb, -⟩ | ⟨-, hb⟩
      · rw [hb]
        exact hs
      · rw [hb]
        intro p hp
        by_cases hq : p = q
        · subst hq
          simp at hp
        · simp only [Function.update_of_ne hq] at hp
          obtain ⟨self', version', hself', hv', hr⟩ := hs p hp
          refine ⟨self', version', hself', hv', (Function.update_of_ne ?_ _ _).trans hr⟩
          simpa using hq
  | bindRemotePlayer q instanceId =>
      simp only [GameIpcClientService.exec, Option.some.injEq, Prod.ext_iff] at h
      obtain ⟨rfl, -⟩ := h
      unfold bindRemotePlayer
      split
      · exact hs
      · split
        · exact hs
        · rename_i owner _
          rcases s.receivers.bind_cases (playerReceiverAddress q) owner with
            hb | ⟨version, hv, hsame, hb⟩
          · rw [hb]
            exact hs
          · rw [hb]
            intro p hp
            obtain ⟨self', version', hself', hv', hr⟩ := hs p hp
            by_cases hq : p = q
            · -- a remote owner is accepted for a bound player only when it is this process
              subst hq
              have howner : self' = owner := hsame _ hr hv'
              subst howner
              exact ⟨self', version, hself', hv, Function.update_self ..⟩
            · refine ⟨self', version', hself', hv', (Function.update_of_ne ?_ _ _).trans hr⟩
              simpa using hq
  | sendProcessPayload target payload =>
      simp only [GameIpcClientService.exec, Option.some.injEq, Prod.ext_iff] at h
      obtain ⟨rfl, -⟩ := h
      exact hs

end GameIpcClientService

end SomeServer
