/-
# SomeServer.Game.Bindings — the receiver host and the receiver directory over the life of the runtime

A player is bound on a game when the receiver host has it, and is found there when the receiver
directory maps its address to the game's process. The IPC runtime can be unloaded and loaded again, and
what discovery lists as members may change at any time. `states` are the states that a sequence of
these operations passes through; they all agree on the bound players exactly when every operation fits
the state it is performed in (`Fits`).

The runs at the end are the two ways in which an operation does not fit.
-/
import SomeServer.Game.Receivers

namespace SomeServer

/-- The process of `BuildSelfDescriptor`. -/
def selfProcess (cfg : GameConfiguration) : ProcessRef := ⟨⟨cfg.gameServiceType, cfg.instanceId⟩, 1⟩

/-- `LocalServiceReceiverAddress`. -/
def localServiceReceiverAddress (cfg : GameConfiguration) : ReceiverAddress :=
  ⟨.service, cfg.gameServiceType.toUInt64, 1⟩

inductive IpcOp where
  | bindLocalPlayer (playerId : PlayerId)
  | unbindLocalPlayer (playerId : PlayerId)
  | bindRemotePlayer (playerId : PlayerId) (instanceId : UInt32)
  | load
  | unload
  | discovered (members : List ProcessRef)
deriving DecidableEq, Repr

namespace GameIpcClientService

/-- `LoadIpcRuntime`, as far as receivers are concerned: the process gets its descriptor, and its
service receiver is bound. -/
def loadIpcRuntime (cfg : GameConfiguration) (s : GameIpcClientService) : GameIpcClientService :=
  { s with
    self := some (selfProcess cfg)
    receivers := (s.receivers.bind (localServiceReceiverAddress cfg) (selfProcess cfg)).1 }

/-- `UnloadIpcRuntime`: the directory is cleared, and the descriptor goes. -/
def unloadIpcRuntime (s : GameIpcClientService) : GameIpcClientService :=
  { s with self := none, receivers := fun _ => none }

/-- One operation, with the result its caller gets. -/
def perform (cfg : GameConfiguration) (s : GameIpcClientService) :
    IpcOp → GameIpcClientService × Result
  | .bindLocalPlayer p => s.bindLocalPlayer p
  | .unbindLocalPlayer p => s.unbindLocalPlayer p
  | .bindRemotePlayer p instanceId => s.bindRemotePlayer cfg p instanceId
  | .load => (s.loadIpcRuntime cfg, .success)
  | .unload => (s.unloadIpcRuntime, .success)
  | .discovered members => ({ s with members }, .success)

/-- The states that a sequence of operations passes through. -/
def states (cfg : GameConfiguration) : List IpcOp → GameIpcClientService → List GameIpcClientService
  | [], s => [s]
  | op :: ops, s => s :: states cfg ops (s.perform cfg op).1

/-! ## Agreement -/

/-- The directory maps the player's address to this process. -/
def MapsHere (cfg : GameConfiguration) (s : GameIpcClientService) (p : PlayerId) : Prop :=
  ∃ version, s.receivers (playerReceiverAddress p) = some ⟨selfProcess cfg, version⟩

/-- The two structures agree on every player. -/
def Agrees (cfg : GameConfiguration) (s : GameIpcClientService) : Prop :=
  ∀ p, s.boundPlayers p = true ↔ s.MapsHere cfg p

/-- The operation fits the state: a `BindRemotePlayer` does not find this very process for a player that
the directory does not know, and the runtime is unloaded only while no player is bound. -/
def Fits (cfg : GameConfiguration) (s : GameIpcClientService) : IpcOp → Prop
  | .bindRemotePlayer p instanceId => ¬ (s.self.isSome = true ∧
      s.members.find? (fun m => m.processId = ⟨cfg.gameServiceType, instanceId⟩) =
        some (selfProcess cfg) ∧ s.receivers (playerReceiverAddress p) = none)
  | .unload => ∀ p, s.boundPlayers p = false
  | _ => True

/-- Every operation of a sequence fits. -/
def AllFit (cfg : GameConfiguration) : List IpcOp → GameIpcClientService → Prop
  | [], _ => True
  | op :: ops, s => Fits cfg s op ∧ AllFit cfg ops (s.perform cfg op).1

/-- The process is this one while the runtime is loaded, and every entry has a version. -/
structure WellFormed (cfg : GameConfiguration) (s : GameIpcClientService) : Prop where
  self : ∀ self, s.self = some self → self = selfProcess cfg
  version : ∀ receiver entry, s.receivers receiver = some entry → entry.version ≠ 0

variable {cfg : GameConfiguration} {s : GameIpcClientService} {p q : PlayerId} {op : IpcOp}

/-! ## What an operation does to one address -/

/-- `Bind` touches the one address only. -/
theorem bind_other (d : LocalReceiverDirectory) {receiver other : ReceiverAddress} (owner : ProcessRef)
    (h : other ≠ receiver) : (d.bind receiver owner).1 other = d other := by
  rcases d.bind_cases receiver owner with hb | ⟨version, -, -, hb⟩
  · rw [hb]
  · rw [hb]
    exact Function.update_of_ne h _ _

theorem player_ne_service : playerReceiverAddress p ≠ localServiceReceiverAddress cfg := by
  intro h
  have htype := congrArg ReceiverAddress.type h
  cases htype

theorem bind_version {d : LocalReceiverDirectory} {receiver : ReceiverAddress} {owner : ProcessRef}
    (h : ∀ receiver entry, d receiver = some entry → entry.version ≠ 0) {other : ReceiverAddress}
    {entry : ReceiverEntry} (he : (d.bind receiver owner).1 other = some entry) :
    entry.version ≠ 0 := by
  rcases d.bind_cases receiver owner with hb | ⟨version, hv, -, hb⟩
  · rw [hb] at he
    exact h other entry he
  · rw [hb] at he
    dsimp only at he
    by_cases ho : other = receiver
    · subst ho
      rw [Function.update_self] at he
      rw [← Option.some.inj he]
      exact hv
    · rw [Function.update_of_ne ho] at he
      exact h other entry he

theorem bindRemotePlayer_cases (cfg : GameConfiguration) (s : GameIpcClientService) (p : PlayerId)
    (instanceId : UInt32) :
    (∃ error, s.bindRemotePlayer cfg p instanceId = (s, .failure error) ∧ (s.self.isSome = true →
      s.members.find? (fun m => m.processId = ⟨cfg.gameServiceType, instanceId⟩) = none)) ∨
    ∃ owner, s.self.isSome = true ∧
      s.members.find? (fun m => m.processId = ⟨cfg.gameServiceType, instanceId⟩) = some owner ∧
      s.bindRemotePlayer cfg p instanceId =
        ({ s with receivers := (s.receivers.bind (playerReceiverAddress p) owner).1 },
          (s.receivers.bind (playerReceiverAddress p) owner).2) := by
  unfold bindRemotePlayer
  cases hself : s.self with
  | none => exact .inl ⟨_, rfl, fun h => by cases h⟩
  | some self =>
    cases hfind : s.members.find? fun m => m.processId = ⟨cfg.gameServiceType, instanceId⟩ with
    | none => exact .inl ⟨_, rfl, fun _ => rfl⟩
    | some owner => exact .inr ⟨owner, rfl, rfl, rfl⟩

theorem WellFormed.perform (h : s.WellFormed cfg) : (s.perform cfg op).1.WellFormed cfg := by
  cases op with
  | bindLocalPlayer q =>
      rcases bindLocalPlayer_cases q s with ⟨error, hb, -⟩ | ⟨self, version, hself, hv, hb⟩
      · simpa only [GameIpcClientService.perform, hb] using h
      · simp only [GameIpcClientService.perform, hb]
        refine ⟨h.self, fun receiver entry he => ?_⟩
        by_cases hr : receiver = playerReceiverAddress q
        · subst hr
          simp only [Function.update_self, Option.some.injEq] at he
          rw [← he]
          exact hv
        · simp only [Function.update_of_ne hr] at he
          exact h.version receiver entry he
  | unbindLocalPlayer q =>
      rcases unbindLocalPlayer_cases q s with ⟨error, hb, -⟩ | ⟨-, hb⟩
      · simpa only [GameIpcClientService.perform, hb] using h
      · simp only [GameIpcClientService.perform, hb]
        refine ⟨h.self, fun receiver entry he => ?_⟩
        by_cases hr : receiver = playerReceiverAddress q
        · subst hr
          simp at he
        · simp only [Function.update_of_ne hr] at he
          exact h.version receiver entry he
  | bindRemotePlayer q instanceId =>
      rcases bindRemotePlayer_cases cfg s q instanceId with
        ⟨error, hb, -⟩ | ⟨owner, -, -, hb⟩
      · simpa only [GameIpcClientService.perform, hb] using h
      · simp only [GameIpcClientService.perform, hb]
        exact ⟨h.self, fun receiver entry he => bind_version h.version he⟩
  | load =>
      refine ⟨fun self hself => (Option.some.inj hself).symm, fun receiver entry he => ?_⟩
      exact bind_version h.version he
  | unload =>
      refine ⟨fun self hself => ?_, fun receiver entry he => ?_⟩
      · cases hself
      · cases he
  | discovered members => exact ⟨h.self, h.version⟩

/-! ## One operation -/

/-- Where a player's entry and the player's place in the host stay, agreement on that player stays. -/
theorem agrees_iff {s' : GameIpcClientService} (hbound : s'.boundPlayers p = s.boundPlayers p)
    (hentry : s'.receivers (playerReceiverAddress p) = s.receivers (playerReceiverAddress p)) :
    (s'.boundPlayers p = true ↔ s'.MapsHere cfg p) ↔ (s.boundPlayers p = true ↔ s.MapsHere cfg p) := by
  unfold MapsHere
  rw [hbound, hentry]

theorem player_ne (h : p ≠ q) : playerReceiverAddress p ≠ playerReceiverAddress q := by
  simpa using h

/-- `Bind` of a player's address to any process keeps agreement, unless it brings an address here that
the directory does not know. -/
theorem agrees_bindRemote {s' : GameIpcClientService} {owner : ProcessRef} (hw : s.WellFormed cfg)
    (h : s.Agrees cfg) (hbound : s'.boundPlayers = s.boundPlayers)
    (hreceivers : s'.receivers = (s.receivers.bind (playerReceiverAddress q) owner).1) :
    s'.Agrees cfg ↔
      ¬ (owner = selfProcess cfg ∧ s.receivers (playerReceiverAddress q) = none) := by
  rcases s.receivers.bind_cases (playerReceiverAddress q) owner with hb | ⟨version, -, hsame, hb⟩
  · -- the address belongs to another process
    rw [hb] at hreceivers
    refine iff_of_true (fun p => ?_) ?_
    · exact (agrees_iff (congrFun hbound p) (congrFun hreceivers _)).mpr (h p)
    · rintro ⟨-, hnone⟩
      simp only [LocalReceiverDirectory.bind, hnone, Prod.ext_iff] at hb
      exact absurd hb.2 (by decide)
  · rw [hb] at hreceivers
    have hother : ∀ p, p ≠ q → (s'.boundPlayers p = true ↔ s'.MapsHere cfg p) := by
      intro p hp
      refine (agrees_iff (congrFun hbound p) ?_).mpr (h p)
      rw [hreceivers]
      exact Function.update_of_ne (player_ne hp) _ _
    have hmaps : s'.MapsHere cfg q ↔ owner = selfProcess cfg := by
      simp [MapsHere, hreceivers]
    cases hentry : s.receivers (playerReceiverAddress q) with
    | none =>
        have hunbound : ¬ s'.boundPlayers q = true := by
          rw [hbound]
          intro hq
          obtain ⟨v, hv⟩ := (h q).mp hq
          rw [hentry] at hv
          cases hv
        constructor
        · rintro h' ⟨howner, -⟩
          exact hunbound ((h' q).mpr (hmaps.mpr howner))
        · intro hne p
          by_cases hp : p = q
          · subst hp
            exact iff_of_false hunbound fun hm => hne ⟨hmaps.mp hm, rfl⟩
          · exact hother p hp
    | some entry =>
        have howner : entry.owner = owner := hsame entry hentry (hw.version _ _ hentry)
        refine iff_of_true (fun p => ?_) (by simp)
        by_cases hp : p = q
        · subst hp
          rw [hmaps, hbound, ← howner]
          refine (h p).trans ?_
          simp only [MapsHere, hentry, Option.some.injEq]
          constructor
          · rintro ⟨v, rfl⟩
            rfl
          · intro hself
            exact ⟨entry.version, by rw [← hself]⟩
        · exact hother p hp

/-- An operation that fits, and only such a one, keeps the two structures in agreement. -/
theorem agrees_perform (hw : s.WellFormed cfg) (h : s.Agrees cfg) :
    (s.perform cfg op).1.Agrees cfg ↔ Fits cfg s op := by
  cases op with
  | bindLocalPlayer q =>
      refine iff_of_true ?_ trivial
      rcases bindLocalPlayer_cases q s with ⟨error, hb, -⟩ | ⟨self, version, hself, hv, hb⟩
      · simpa only [GameIpcClientService.perform, hb] using h
      · simp only [GameIpcClientService.perform, hb]
        intro p
        by_cases hp : p = q
        · subst hp
          obtain rfl := hw.self self hself
          exact iff_of_true (Function.update_self ..) ⟨version, Function.update_self ..⟩
        · exact (agrees_iff (Function.update_of_ne hp _ _)
            (Function.update_of_ne (player_ne hp) _ _)).mpr (h p)
  | unbindLocalPlayer q =>
      refine iff_of_true ?_ trivial
      rcases unbindLocalPlayer_cases q s with ⟨error, hb, -⟩ | ⟨-, hb⟩
      · simpa only [GameIpcClientService.perform, hb] using h
      · simp only [GameIpcClientService.perform, hb]
        intro p
        by_cases hp : p = q
        · subst hp
          refine iff_of_false (by simp) ?_
          rintro ⟨version, he⟩
          simp at he
        · exact (agrees_iff (Function.update_of_ne hp _ _)
            (Function.update_of_ne (player_ne hp) _ _)).mpr (h p)
  | load =>
      refine iff_of_true (fun p => ?_) trivial
      have hbound : (s.loadIpcRuntime cfg).boundPlayers p = s.boundPlayers p := rfl
      have hentry : (s.loadIpcRuntime cfg).receivers (playerReceiverAddress p) =
          s.receivers (playerReceiverAddress p) := bind_other _ _ player_ne_service
      exact (agrees_iff hbound hentry).mpr (h p)
  | unload =>
      have hgone : ∀ p, ¬ s.unloadIpcRuntime.MapsHere cfg p := by
        rintro p ⟨version, he⟩
        cases he
      constructor
      · intro h' p
        rw [Bool.eq_false_iff]
        exact fun hbound => hgone p ((h' p).mp hbound)
      · intro hnone p
        exact iff_of_false (by simp [GameIpcClientService.perform, unloadIpcRuntime, hnone p]) (hgone p)
  | discovered members => exact iff_of_true (fun p => (agrees_iff rfl rfl).mpr (h p)) trivial
  | bindRemotePlayer q instanceId =>
      rcases bindRemotePlayer_cases cfg s q instanceId with
        ⟨error, hb, hnone⟩ | ⟨owner, hloaded, hfind, hb⟩
      · refine iff_of_true (by simpa only [GameIpcClientService.perform, hb] using h) ?_
        rintro ⟨hself, hfound, -⟩
        rw [hnone hself] at hfound
        cases hfound
      · have hbound : (s.perform cfg (.bindRemotePlayer q instanceId)).1.boundPlayers =
            s.boundPlayers := by simp only [GameIpcClientService.perform, hb]
        have hreceivers : (s.perform cfg (.bindRemotePlayer q instanceId)).1.receivers =
            (s.receivers.bind (playerReceiverAddress q) owner).1 := by
          simp only [GameIpcClientService.perform, hb]
        rw [agrees_bindRemote hw h hbound hreceivers]
        refine not_congr ?_
        rw [hfind]
        constructor
        · rintro ⟨rfl, hnone⟩
          exact ⟨hloaded, rfl, hnone⟩
        · rintro ⟨-, hself, hnone⟩
          exact ⟨Option.some.inj hself, hnone⟩

/-! ## Every sequence of operations -/

/-- From a state in agreement, all states agree exactly when all operations fit. -/
theorem states_agree (hw : s.WellFormed cfg) (h : s.Agrees cfg) (ops : List IpcOp) :
    (∀ s' ∈ states cfg ops s, s'.Agrees cfg) ↔ AllFit cfg ops s := by
  induction ops generalizing s with
  | nil =>
      refine iff_of_true (fun s' hs' => ?_) trivial
      rw [List.mem_singleton.mp hs']
      exact h
  | cons op ops ih =>
      constructor
      · intro hall
        have hnext : (s.perform cfg op).1.Agrees cfg := by
          refine hall _ (List.mem_cons_of_mem _ ?_)
          cases ops <;> exact List.mem_cons_self
        refine ⟨(agrees_perform hw h).mp hnext, (ih hw.perform hnext).mp fun s' hs' => ?_⟩
        exact hall s' (List.mem_cons_of_mem _ hs')
      · rintro ⟨hfits, hrest⟩ s' hs'
        rcases List.mem_cons.mp hs' with rfl | hs'
        · exact h
        · exact (ih hw.perform ((agrees_perform hw h).mpr hfits)).mpr hrest s' hs'

/-- A call that returns an error changes neither structure. -/
theorem perform_error (h : (s.perform cfg op).2.ok = false) :
    (s.perform cfg op).1.boundPlayers = s.boundPlayers ∧
      (s.perform cfg op).1.receivers = s.receivers := by
  cases op with
  | bindLocalPlayer q =>
      rcases bindLocalPlayer_cases q s with ⟨error, hb, -⟩ | ⟨self, version, -, -, hb⟩
      · simp only [GameIpcClientService.perform, hb, and_self]
      · simp only [GameIpcClientService.perform, hb] at h
        cases h
  | unbindLocalPlayer q =>
      rcases unbindLocalPlayer_cases q s with ⟨error, hb, -⟩ | ⟨-, hb⟩
      · simp only [GameIpcClientService.perform, hb, and_self]
      · simp only [GameIpcClientService.perform, hb] at h
        cases h
  | bindRemotePlayer q instanceId =>
      rcases bindRemotePlayer_cases cfg s q instanceId with
        ⟨error, hb, -⟩ | ⟨owner, -, -, hb⟩
      · simp only [GameIpcClientService.perform, hb, and_self]
      · simp only [GameIpcClientService.perform, hb] at h ⊢
        rcases s.receivers.bind_cases (playerReceiverAddress q) owner with hbind | ⟨v, -, -, hbind⟩
        · exact ⟨trivial, by rw [hbind]⟩
        · rw [hbind] at h
          cases h
  | load | unload | discovered members => cases h

/-- **Host and directory agree exactly while the operations fit.** From the construction of the service,
with any members listed: the host and the directory agree on every player in every state that a
sequence of operations passes through, if and only if every operation fits the state it is performed in;
and in any of these states a call that returns an error leaves both as they are. -/
theorem bindings_agree (members : List ProcessRef) (ops : List IpcOp) :
    ((∀ s ∈ states cfg ops { members }, s.Agrees cfg) ↔ AllFit cfg ops { members }) ∧
    ∀ s ∈ states cfg ops { members }, ∀ op, (s.perform cfg op).2.ok = false →
      (s.perform cfg op).1.boundPlayers = s.boundPlayers ∧
        (s.perform cfg op).1.receivers = s.receivers := by
  refine ⟨states_agree ⟨?_, ?_⟩ ?_ ops, fun s _ op h => perform_error h⟩
  · intro self hself
    cases hself
  · intro receiver entry he
    cases he
  · intro p
    refine iff_of_false (by simp) ?_
    rintro ⟨version, he⟩
    cases he

/-! ### Two operations that do not fit -/

def soleGame : GameConfiguration := { instanceId := 1 }

/-- The runtime is loaded, and the process is asked to bind player 7 to the game it is itself. -/
def bindsItself : List IpcOp := [.load, .bindRemotePlayer 7 1]

/-- Player 7 is bound here while the runtime is unloaded and loaded again. -/
def reloadsBound : List IpcOp := [.load, .bindLocalPlayer 7, .unload, .load]

/-- In the one case the directory maps the player here and the host does not have it, in the other it
is the other way round. -/
theorem bindings_disagree :
    (∃ s ∈ states soleGame bindsItself { members := [selfProcess soleGame] },
      s.boundPlayers 7 = false ∧ s.MapsHere soleGame 7) ∧
    ∃ s ∈ states soleGame reloadsBound {}, s.boundPlayers 7 = true ∧ ¬ s.MapsHere soleGame 7 := by
  refine ⟨⟨_, .tail _ (.tail _ (.head _)), by decide, ⟨1, by decide⟩⟩,
    ⟨_, .tail _ (.tail _ (.tail _ (.tail _ (.head _)))), by decide, ?_⟩⟩
  rintro ⟨version, he⟩
  revert he
  simp [perform, loadIpcRuntime, unloadIpcRuntime, LocalReceiverDirectory.bind, playerReceiverAddress,
    localServiceReceiverAddress]

end GameIpcClientService

end SomeServer
