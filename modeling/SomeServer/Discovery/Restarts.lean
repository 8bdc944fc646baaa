/-
# SomeServer.Discovery.Restarts — a restart between two snapshots

The table of the members is keyed without the incarnation, so a member that has restarted between two
snapshots is one whose descriptor has changed: `QueueDiffEvents` queues an update with the new process, and
nothing that tells of the old one. `HandleMembershipEvent` forgets that it has dialled a member only when it is
told that the member is gone.

Here are the events of two tables, and the events of a whole run as `AutoConnectLoop` handles them. A process that
starts is a new life of its key. The descriptor does not tell lives apart: every process of this server registers
incarnation 1 and start time 0. So the run notes beside the code's own data whose records a snapshot has read, whom an
event is about, and for whom an attempt was recorded (`lives`, `notes` and `dialled`). Attempts are recorded beside the
events too, and all forgotten, at any time.
-/
import SomeServer.Discovery.Events

namespace SomeServer

namespace Members

open Lib

/-! ## Two tables -/

/-- Both tables have a member under this key, in different incarnations. -/
def Restarted (previous current : MemberTable) (key : UInt64) : Prop :=
  ∃ before process, previous.find key = some before ∧ current.find key = some process ∧
    before.process.incarnationId ≠ process.process.incarnationId

/-- A restart is two events, that the old process is removed and then that the new one is added; an update is
one of an unchanged process. -/
structure ShowsRestarts (previous current : MemberTable) : Prop where
  restarts : ∀ key before process, previous.find key = some before → current.find key = some process →
    before.process.incarnationId ≠ process.process.incarnationId →
      ((queueDiffEvents previous current).filter fun event => event.process.key = key) =
        [⟨.removed, before⟩, ⟨.added, process⟩]
  updates : ∀ process, ⟨.updated, process⟩ ∈ queueDiffEvents previous current →
    ∃ before, previous.find process.key = some before ∧ before.process = process.process

section

variable {previous current : MemberTable} {before process : Descriptor}

/-- Members under one key are different processes if their incarnations differ. -/
theorem process_eq_iff (h : before.key = process.key) :
    before.process = process.process ↔ before.process.incarnationId = process.process.incarnationId := by
  have hid := makeKey_injective h
  constructor
  · intro hsame
    rw [hsame]
  · intro hincarnation
    show (⟨before.process.processId, before.process.incarnationId⟩ : ProcessRef) = process.process
    rw [hid, hincarnation]

theorem showsRestarts_iff : ShowsRestarts previous current ↔ ∀ key, ¬Restarted previous current key := by
  constructor
  · rintro h key ⟨before, process, hbefore, hprocess, hne⟩
    -- the table still has the key, so nothing is queued as removed
    have hmem : ⟨.removed, before⟩ ∈ queueDiffEvents previous current := by
      apply List.mem_of_mem_filter (p := fun event => decide (event.process.key = key))
      rw [h.restarts key before process hbefore hprocess hne]
      exact List.mem_cons_self
    have hgone := (removed_iff.1 hmem).2
    rw [(MemberTable.find_eq_some.1 hbefore).2, hprocess] at hgone
    cases hgone
  · intro h
    constructor
    · intro key before process hbefore hprocess hne
      exact absurd ⟨before, process, hbefore, hprocess, hne⟩ (h key)
    · intro process hupdated
      obtain ⟨hmem, before, hbefore, -⟩ := updated_iff.1 hupdated
      refine ⟨before, hbefore, (process_eq_iff (MemberTable.find_eq_some.1 hbefore).2).2 ?_⟩
      by_contra hne
      exact h process.key ⟨before, process, hbefore, MemberTable.find_eq_some.2 ⟨hmem, rfl⟩, hne⟩

end

/-! ## The attempts -/

/-- `HandleMembershipEvent`: what it makes of the attempts. `dials` says whether a member that is not among
them would be dialled. -/
def handleMembershipEvent (event : MemberEvent) (dials : Bool) (attempts : UInt64 → Bool) : UInt64 → Bool :=
  match event.type with
  | .removed => Function.update attempts event.process.key false
  | _ =>
      if dials && !attempts event.process.key then Function.update attempts event.process.key true else attempts

theorem handleMembershipEvent_of_ne {event : MemberEvent} {dials : Bool} {attempts : UInt64 → Bool} {key : UInt64}
    (h : event.process.key ≠ key) : handleMembershipEvent event dials attempts key = attempts key := by
  have hne : ∀ attempted, Function.update attempts event.process.key attempted key = attempts key :=
    fun _ => Function.update_of_ne (Ne.symm h) ..
  unfold handleMembershipEvent
  cases event.type with
  | removed => exact hne false
  | added | updated =>
      dsimp only
      split
      · exact hne true
      · rfl

/-- An event that `HandleMembershipEvent` is called with, the life that it is about, whether an attempt was remembered
then, and for which life it had been recorded. -/
structure Trial where
  event : MemberEvent
  life : Nat
  attempted : Bool
  dialled : Nat

/-- If the event makes `HandleMembershipEvent` try a peer, no attempt is remembered that another life has left. -/
def Trial.ClearedFirst (own : ProcessId) (trial : Trial) : Prop :=
  trial.event.type ≠ .removed → trial.event.process.process.processId ≠ own →
    trial.attempted = true → trial.dialled = trial.life

/-! ## Every run -/

/-- One operation of the process `own` on its table; `lives` are those of the members of the table. -/
inductive Discovers (cfg : Config) (own : ProcessId) (d : EtcdDiscovery) (lives : UInt64 → Nat) :
    EtcdDiscovery → (UInt64 → Nat) → Prop
  /-- `read` are the lives that have put the records of the snapshot. -/
  | refreshSnapshot (get : Result) (output : String) (walked : MemberTable → MemberTable)
      (hwalked : ∀ table, (walked table).members.Perm table.members) (read : UInt64 → Nat) :
      Discovers cfg own d lives (d.refreshSnapshot cfg get output walked).2
        (if (d.refreshSnapshot cfg get output walked).1.ok then read else lives)
  | registerSelf (self : Descriptor) (hself : self.process.processId = own) (replies : RegisterReplies) :
      Discovers cfg own d lives (d.registerSelf cfg self replies).2 lives
  | remove (delete : Result) : Discovers cfg own d lives (d.remove own delete).2 lives
  /-- The table is walked in another order from now on. -/
  | rehash (processes : MemberTable) (h : processes.members.Perm d.processes.members) :
      Discovers cfg own d lives { d with processes := processes } lives

/-- The auto-connect of a node: `pending` are the events that it has drained and not handled yet, each with the life
that it is about; `notes` are these of the events that are queued. -/
structure AutoConnect where
  discovery : EtcdDiscovery := {}
  lives : UInt64 → Nat := fun _ => 0
  notes : List Nat := []
  pending : List (MemberEvent × Nat) := []
  attempts : UInt64 → Bool := fun _ => false
  dialled : UInt64 → Nat := fun _ => 0
  trials : List Trial := []

/-- What a node does: an operation on its table, a turn of `AutoConnectLoop` or a part of one, and what other threads do
to the attempts. -/
inductive AutoConnectAct where
  | discovery (d : EtcdDiscovery) (lives : UInt64 → Nat)
  | drainEvents
  | handleMembershipEvent (dials : Bool)
  /-- `ReconcileAutoConnectMembers`, on whatever thread, has dialled a process in this life. -/
  | recordSuccess (id : ProcessId) (life : Nat)
  | clear

namespace AutoConnect

/-- The life that an event is about: a removal tells of the member that the table had. -/
def lifeOf (before after : UInt64 → Nat) (event : MemberEvent) : Nat :=
  match event.type with
  | .removed => before event.process.key
  | _ => after event.process.key

/-- An operation on the table; what it queues is noted. -/
def discovers (s : AutoConnect) (d : EtcdDiscovery) (lives : UInt64 → Nat) : AutoConnect :=
  { s with
    discovery := d
    lives := lives
    notes := s.notes ++ (d.events.drop s.discovery.events.length).map (lifeOf s.lives lives) }

def drained (s : AutoConnect) : AutoConnect :=
  { s with
    discovery := s.discovery.drainEvents.2
    notes := []
    pending := s.discovery.drainEvents.1.zip s.notes }

/-- The attempts change; one that is new is for this life. -/
def attempt (s : AutoConnect) (attempts : UInt64 → Bool) (life : Nat) : AutoConnect :=
  { s with
    attempts := attempts
    dialled := fun key => if attempts key && !s.attempts key then life else s.dialled key }

/-- The next event is handled. -/
def handle (s : AutoConnect) (event : MemberEvent) (life : Nat) (events : List (MemberEvent × Nat)) (dials : Bool) :
    AutoConnect :=
  { s.attempt (handleMembershipEvent event dials s.attempts) life with
    pending := events
    trials := s.trials ++ [⟨event, life, s.attempts event.process.key, s.dialled event.process.key⟩] }

/-- One step of the process. -/
inductive Step (cfg : Config) (own : ProcessId) (s : AutoConnect) : AutoConnectAct → AutoConnect → Prop
  | discovery (d : EtcdDiscovery) (lives : UInt64 → Nat) (h : Discovers cfg own s.discovery s.lives d lives) :
      Step cfg own s (.discovery d lives) (s.discovers d lives)
  | drainEvents (h : s.pending = []) : Step cfg own s .drainEvents s.drained
  | handleMembershipEvent (event : MemberEvent) (life : Nat) (events : List (MemberEvent × Nat)) (dials : Bool)
      (h : s.pending = (event, life) :: events) :
      Step cfg own s (.handleMembershipEvent dials) (s.handle event life events dials)
  | recordSuccess (id : ProcessId) (life : Nat) :
      Step cfg own s (.recordSuccess id life) (s.attempt (Function.update s.attempts (makeKey id) true) life)
  | clear : Step cfg own s .clear { s with attempts := fun _ => false }

/-- What the loop is still to be told. -/
def coming (s : AutoConnect) : List (MemberEvent × Nat) := s.pending ++ s.discovery.events.zip s.notes

/-- The life that the table has under a key. -/
def holder (s : AutoConnect) (key : UInt64) : Option Nat := (s.discovery.processes.find key).map fun _ => s.lives key

/-- The next event of the key says that the member is gone, or is about this life; when there is none, the table has
this life. -/
def Fits (key : UInt64) (life : Nat) (now : Option Nat) : List (MemberEvent × Nat) → Prop
  | [] => now = some life
  | (event, about) :: events =>
      if event.process.key = key then event.type = .removed ∨ about = life else Fits key life now events

/-- No peer has restarted between the snapshot that the table is from and the next one; and beside the events an attempt
is recorded only for the life that the loop is to be told of next. -/
def Quiet (own : ProcessId) (s : AutoConnect) : AutoConnectAct → Prop
  | .discovery d lives => ∀ key, key ≠ makeKey own → s.discovery.processes.find key ≠ none →
      d.processes.find key ≠ none → lives key = s.lives key
  | .recordSuccess id life => id ≠ own → Fits (makeKey id) life (s.holder (makeKey id)) s.coming
  | _ => True

/-- The runs of a process in which every step is a quiet one. -/
def Reaches (cfg : Config) (own : ProcessId) : AutoConnect → AutoConnect → Prop :=
  Relation.ReflTransGen fun s s' => ∃ a, Step cfg own s a s' ∧ Quiet own s a

/-! ### The events of one key -/

/-- The events of a key lead from one life, or none, to another: a member that is not removed stays the same. -/
def Chain (key : UInt64) (now : Option Nat) : (told : Option Nat) → List (MemberEvent × Nat) → Prop
  | told, [] => told = now
  | told, (event, life) :: events =>
      if event.process.key = key then
        match event.type with
        | .removed => Chain key now none events
        | _ => (∀ before, told = some before → before = life) ∧ Chain key now (some life) events
      else Chain key now told events

variable {key : UInt64} {now now' told : Option Nat} {event : MemberEvent} {life : Nat}
  {events later : List (MemberEvent × Nat)}

theorem chain_of_ne (h : event.process.key ≠ key) :
    Chain key now told ((event, life) :: events) ↔ Chain key now told events := by
  rw [Chain, if_neg h]

theorem chain_removed (hkey : event.process.key = key) (h : event.type = .removed) :
    Chain key now told ((event, life) :: events) ↔ Chain key now none events := by
  rw [Chain, if_pos hkey, h]

theorem chain_present (hkey : event.process.key = key) (h : event.type ≠ .removed) :
    Chain key now told ((event, life) :: events) ↔
      (∀ before, told = some before → before = life) ∧ Chain key now (some life) events := by
  rw [Chain, if_pos hkey]
  cases htype : event.type with
  | removed => exact absurd htype h
  | added => exact Iff.rfl
  | updated => exact Iff.rfl

theorem Chain.append (h : Chain key now told events) (hlater : Chain key now' now later) :
    Chain key now' told (events ++ later) := by
  induction events generalizing told with
  | nil =>
      obtain rfl : told = now := h
      exact hlater
  | cons head events ih =>
      obtain ⟨event, life⟩ := head
      rw [List.cons_append]
      by_cases hkey : event.process.key = key
      · by_cases hremoved : event.type = .removed
        · rw [chain_removed hkey hremoved] at h ⊢
          exact ih h
        · rw [chain_present hkey hremoved] at h ⊢
          exact ⟨h.1, ih h.2⟩
      · rw [chain_of_ne hkey] at h ⊢
        exact ih h

/-- What fits may be taken for what has been told. -/
theorem Chain.fits (h : Chain key now told events) (hfits : Fits key life now events) :
    Chain key now (some life) events := by
  induction events generalizing told with
  | nil => exact hfits.symm
  | cons head events ih =>
      obtain ⟨event, about⟩ := head
      rw [Fits] at hfits
      by_cases hkey : event.process.key = key
      · rw [if_pos hkey] at hfits
        by_cases hremoved : event.type = .removed
        · rw [chain_removed hkey hremoved] at h ⊢
          exact h
        · rw [chain_present hkey hremoved] at h ⊢
          obtain rfl := hfits.resolve_left hremoved
          exact ⟨fun before hbefore => (Option.some.inj hbefore).symm, h.2⟩
      · rw [if_neg hkey] at hfits
        rw [chain_of_ne hkey] at h ⊢
        exact ih h hfits

/-- Events of other keys change nothing. -/
theorem chain_of_others (h : ∀ x ∈ events, x.1.process.key ≠ key) : Chain key now told events ↔ told = now := by
  induction events with
  | nil => exact Iff.rfl
  | cons head events ih =>
      rw [chain_of_ne (h head (List.mem_cons_self ..))]
      exact ih fun x hx => h x (List.mem_cons_of_mem _ hx)

/-- Events of different members, of which one at most is of the key. -/
theorem chain_of_distinct (hdistinct : (events.map fun x => x.1.process.key).Nodup)
    (hnone : (∀ x ∈ events, x.1.process.key ≠ key) → told = now)
    (hremoved : ∀ x ∈ events, x.1.process.key = key → x.1.type = .removed → now = none)
    (hpresent : ∀ x ∈ events, x.1.process.key = key → x.1.type ≠ .removed →
      (∀ before, told = some before → before = x.2) ∧ now = some x.2) : Chain key now told events := by
  induction events with
  | nil => exact hnone fun x hx => absurd hx List.not_mem_nil
  | cons head events ih =>
      obtain ⟨event, life⟩ := head
      rw [List.map_cons, List.nodup_cons] at hdistinct
      by_cases hkey : event.process.key = key
      · have hothers : ∀ x ∈ events, x.1.process.key ≠ key := by
          intro x hx hsame
          exact hdistinct.1 (List.mem_map.2 ⟨x, hx, hsame.trans hkey.symm⟩)
        by_cases htype : event.type = .removed
        · rw [chain_removed hkey htype, chain_of_others hothers]
          exact (hremoved _ (List.mem_cons_self ..) hkey htype).symm
        · obtain ⟨hbefore, hnow⟩ := hpresent _ (List.mem_cons_self ..) hkey htype
          rw [chain_present hkey htype, chain_of_others hothers]
          exact ⟨hbefore, hnow.symm⟩
      · rw [chain_of_ne hkey]
        refine ih hdistinct.2 (fun hothers => hnone fun x hx => ?_)
          (fun x hx => hremoved x (List.mem_cons_of_mem _ hx)) fun x hx => hpresent x (List.mem_cons_of_mem _ hx)
        rcases List.mem_cons.1 hx with rfl | hx
        · exact hkey
        · exact hothers x hx

/-- The events of two tables lead from the life of the one to that of the other, if the member has not restarted. -/
theorem chain_queueDiffEvents {previous current : MemberTable} {before after : UInt64 → Nat}
    (hsame : previous.find key ≠ none → current.find key ≠ none → after key = before key) :
    Chain key ((current.find key).map fun _ => after key) ((previous.find key).map fun _ => before key)
      ((queueDiffEvents previous current).map fun event => (event, lifeOf before after event)) := by
  apply chain_of_distinct
  · rw [List.map_map]
    exact queueDiffEvents_distinct
  · intro hnone
    have hevent : ∀ event ∈ queueDiffEvents previous current, event.process.key ≠ key :=
      fun event hevent => hnone (event, lifeOf before after event) (List.mem_map.2 ⟨event, hevent, rfl⟩)
    cases hprevious : previous.find key with
    | none =>
        cases hcurrent : current.find key with
        | none => rfl
        | some process =>
            obtain ⟨hmem, rfl⟩ := MemberTable.find_eq_some.1 hcurrent
            exact (hevent ⟨.added, process⟩ (added_iff.2 ⟨hmem, hprevious⟩) rfl).elim
    | some process =>
        cases hcurrent : current.find key with
        | none =>
            obtain ⟨hmem, rfl⟩ := MemberTable.find_eq_some.1 hprevious
            exact (hevent ⟨.removed, process⟩ (removed_iff.2 ⟨hmem, hcurrent⟩) rfl).elim
        | some process' => exact congrArg some (hsame (by simp [hprevious]) (by simp [hcurrent])).symm
  · rintro x hx rfl hremoved
    obtain ⟨event, hevent, rfl⟩ := List.mem_map.1 hx
    rcases mem_queueDiffEvents.1 hevent with ⟨-, hdiff⟩ | ⟨-, hnone, -⟩
    · rcases (diffEvent_eq_some.1 hdiff).2 with ⟨hadded, -⟩ | ⟨hupdated, -⟩
      · exact absurd (hadded.symm.trans hremoved) (by simp)
      · exact absurd (hupdated.symm.trans hremoved) (by simp)
    · rw [hnone]
      rfl
  · rintro x hx rfl hpresent
    obtain ⟨event, hevent, rfl⟩ := List.mem_map.1 hx
    have hlife : lifeOf before after event = after event.process.key := by
      unfold lifeOf
      cases htype : event.type with
      | removed => exact absurd htype hpresent
      | added => rfl
      | updated => rfl
    rcases mem_queueDiffEvents.1 hevent with ⟨hmem, -⟩ | ⟨-, -, hremoved⟩
    · have hcurrent : current.find event.process.key = some event.process := MemberTable.find_eq_some.2 ⟨hmem, rfl⟩
      refine ⟨fun life hbefore => ?_, ?_⟩
      · obtain ⟨process, hprevious, rfl⟩ := Option.map_eq_some_iff.1 hbefore
        exact (hlife.trans (hsame (by simp [hprevious]) (by simp [hcurrent]))).symm
      · rw [hcurrent]
        exact congrArg some hlife.symm
    · exact absurd hremoved hpresent

/-! ### Every step -/

/-- What has been told of a key is the life that an attempt under it is for, and with the events that are still to come
it is the table's. -/
structure Sound (own : ProcessId) (s : AutoConnect) : Prop where
  notes : s.notes.length = s.discovery.events.length
  told : ∀ key, key ≠ makeKey own → ∃ told, Chain key (s.holder key) told s.coming ∧
    (s.attempts key = true → told = some (s.dialled key))
  trials : ∀ trial ∈ s.trials, trial.ClearedFirst own

variable {cfg : Config} {own : ProcessId} {s s' : AutoConnect} {d : EtcdDiscovery} {lives : UInt64 → Nat}

/-- An operation on the table queues the events of a snapshot, or none and leaves the peers. -/
theorem discovers_cases (h : Discovers cfg own s.discovery s.lives d lives) :
    (d.events = s.discovery.events ∧ lives = s.lives ∧
      ∀ key, key ≠ makeKey own → d.processes.find key = s.discovery.processes.find key) ∨
    d.events = s.discovery.events ++ queueDiffEvents s.discovery.processes d.processes := by
  rcases h with ⟨get, output, walked, hwalked, read⟩ | ⟨self, hself, replies⟩ | ⟨delete⟩ | ⟨processes, hperm⟩
  · unfold EtcdDiscovery.refreshSnapshot
    split
    · rename_i hget
      exact .inl ⟨rfl, if_neg (by simpa using hget), fun _ _ => rfl⟩
    · split
      · exact .inl ⟨rfl, if_neg (by simp), fun _ _ => rfl⟩
      · exact .inr rfl
  · obtain ⟨hevents, hprocesses⟩ := registerSelf_effect cfg s.discovery self replies
    refine .inl ⟨hevents, rfl, fun key hkey => ?_⟩
    rcases hprocesses with hprocesses | hprocesses
    · rw [hprocesses]
    · rw [hprocesses, MemberTable.find_set_of_ne]
      rw [Descriptor.key, hself]
      exact hkey
  · unfold EtcdDiscovery.remove
    split
    · exact .inl ⟨rfl, rfl, fun _ _ => rfl⟩
    · dsimp only
      split <;> exact .inl ⟨rfl, rfl, fun key hkey => MemberTable.find_erase_of_ne hkey⟩
  · exact .inl ⟨rfl, rfl, fun key _ => congrFun (MemberTable.find_perm hperm) key⟩

/-- What an operation on the table adds to the events that are to come leads to the new table. -/
theorem Sound.discovers (h : Sound own s) (hstep : Discovers cfg own s.discovery s.lives d lives)
    (hquiet : Quiet own s (.discovery d lives)) : Sound own (s.discovers d lives) := by
  rcases discovers_cases hstep with ⟨hevents, rfl, hsame⟩ | hevents
  · have hnotes : (s.discovers d s.lives).notes = s.notes := by
      show s.notes ++ (d.events.drop s.discovery.events.length).map _ = s.notes
      rw [hevents, List.drop_length, List.map_nil, List.append_nil]
    refine ⟨by rw [hnotes, h.notes]; exact congrArg List.length hevents.symm, fun key hkey => ?_, h.trials⟩
    have hcoming : (s.discovers d s.lives).coming = s.coming := by
      show s.pending ++ d.events.zip (s.discovers d s.lives).notes = s.coming
      rw [hnotes, hevents]
      rfl
    have hholder : (s.discovers d s.lives).holder key = s.holder key :=
      congrArg (Option.map fun _ => s.lives key) (hsame key hkey)
    obtain ⟨told, hchain, hattempt⟩ := h.told key hkey
    exact ⟨told, by rw [hcoming, hholder]; exact hchain, hattempt⟩
  · have hnotes : (s.discovers d lives).notes = s.notes ++
        (queueDiffEvents s.discovery.processes d.processes).map (lifeOf s.lives lives) := by
      show s.notes ++ (d.events.drop s.discovery.events.length).map _ = _
      rw [hevents, List.drop_left]
    refine ⟨?_, fun key hkey => ?_, h.trials⟩
    · show (s.discovers d lives).notes.length = d.events.length
      rw [hnotes, hevents, List.length_append, List.length_append, List.length_map, h.notes]
    · have hcoming : (s.discovers d lives).coming = s.coming ++
          (queueDiffEvents s.discovery.processes d.processes).map fun event =>
            (event, lifeOf s.lives lives event) := by
        show s.pending ++ d.events.zip (s.discovers d lives).notes = _
        rw [hnotes, hevents, List.zip_append h.notes.symm, ← List.append_assoc, ← List.map_prod_left_eq_zip]
        rfl
      obtain ⟨told, hchain, hattempt⟩ := h.told key hkey
      refine ⟨told, ?_, hattempt⟩
      rw [hcoming]
      exact hchain.append (chain_queueDiffEvents (hquiet key hkey))

theorem Sound.handle (h : Sound own s) {event : MemberEvent} {life : Nat} {events : List (MemberEvent × Nat)}
    (hpending : s.pending = (event, life) :: events) (dials : Bool) : Sound own (s.handle event life events dials) := by
  have hcoming : s.coming = (event, life) :: (s.handle event life events dials).coming := by
    rw [coming, hpending]
    rfl
  refine ⟨h.notes, fun key hkey => ?_, fun trial htrial => ?_⟩
  · obtain ⟨told, hchain, hattempt⟩ := h.told key hkey
    rw [hcoming] at hchain
    by_cases hevent : event.process.key = key
    · by_cases hremoved : event.type = .removed
      · -- a removal forgets the attempt
        refine ⟨none, (chain_removed hevent hremoved).1 hchain, fun hattempted => ?_⟩
        have hforgotten : handleMembershipEvent event dials s.attempts key = false := by
          rw [handleMembershipEvent, hremoved, hevent]
          exact Function.update_self ..
        rw [show (s.handle event life events dials).attempts = handleMembershipEvent event dials s.attempts from rfl,
          hforgotten] at hattempted
        cases hattempted
      · -- an attempt that is kept, or made now, is for this life
        obtain ⟨hbefore, hrest⟩ := (chain_present hevent hremoved).1 hchain
        refine ⟨some life, hrest, fun hattempted => congrArg some ?_⟩
        show life = if handleMembershipEvent event dials s.attempts key && !s.attempts key then life else s.dialled key
        split
        · rfl
        · rename_i hold
          have hattempted : handleMembershipEvent event dials s.attempts key = true := hattempted
          rw [hattempted, Bool.true_and, Bool.not_eq_true', Bool.not_eq_false] at hold
          exact (hbefore _ (hattempt hold)).symm
    · have hother : handleMembershipEvent event dials s.attempts key = s.attempts key := by
        exact handleMembershipEvent_of_ne hevent
      refine ⟨told, (chain_of_ne hevent).1 hchain, fun hattempted => ?_⟩
      have hattempted : handleMembershipEvent event dials s.attempts key = true := hattempted
      rw [hother] at hattempted
      show told = some (if handleMembershipEvent event dials s.attempts key && !s.attempts key then life
        else s.dialled key)
      rw [hattempted, Bool.not_true, Bool.and_false, if_neg Bool.false_ne_true]
      exact hattempt hattempted
  · rcases List.mem_append.1 htrial with htrial | htrial
    · exact h.trials trial htrial
    · obtain rfl := List.mem_singleton.1 htrial
      intro hpresent hpeer hattempted
      have hkey : event.process.key ≠ makeKey own := fun hsame => hpeer (makeKey_injective hsame)
      obtain ⟨told, hchain, hattempt⟩ := h.told _ hkey
      rw [hcoming, chain_present rfl hpresent] at hchain
      exact hchain.1 _ (hattempt hattempted)

theorem Sound.step {a : AutoConnectAct} (h : Sound own s) (hstep : Step cfg own s a s') (hquiet : Quiet own s a) :
    Sound own s' := by
  cases hstep with
  | discovery d lives hd => exact h.discovers hd hquiet
  | drainEvents hpending =>
      refine ⟨rfl, fun key hkey => ?_, h.trials⟩
      have hcoming : s.drained.coming = s.coming := by
        rw [coming, coming, hpending]
        exact List.append_nil _
      rw [hcoming]
      exact h.told key hkey
  | handleMembershipEvent event life events dials hpending => exact h.handle hpending dials
  | recordSuccess id life =>
      refine ⟨h.notes, fun key hkey => ?_, h.trials⟩
      obtain ⟨told, hchain, hattempt⟩ := h.told key hkey
      by_cases hnew : s.attempts key = true
      · refine ⟨told, hchain, fun _ => ?_⟩
        show told = some (if Function.update s.attempts (makeKey id) true key && !s.attempts key then life
          else s.dialled key)
        rw [hnew, Bool.not_true, Bool.and_false, if_neg Bool.false_ne_true]
        exact hattempt hnew
      · by_cases hsame : key = makeKey id
        · subst hsame
          refine ⟨some life, hchain.fits (hquiet fun hown => hkey (congrArg makeKey hown)), fun _ => congrArg some ?_⟩
          show life = if Function.update s.attempts (makeKey id) true (makeKey id) && !s.attempts (makeKey id) then life
            else s.dialled (makeKey id)
          rw [Function.update_self, Bool.not_eq_true _ |>.mp hnew]
          rfl
        · refine ⟨told, hchain, fun hattempted => absurd ?_ hnew⟩
          exact (Function.update_of_ne hsame ..).symm.trans hattempted
  | clear =>
      refine ⟨h.notes, fun key hkey => ?_, h.trials⟩
      obtain ⟨told, hchain, -⟩ := h.told key hkey
      exact ⟨told, hchain, fun hattempted => absurd hattempted Bool.false_ne_true⟩

theorem sound (h : Reaches cfg own {} s) : Sound own s := by
  induction h with
  | refl =>
      refine ⟨rfl, fun _ _ => ⟨none, rfl, fun hattempted => absurd hattempted Bool.false_ne_true⟩, ?_⟩
      exact fun _ htrial => absurd htrial List.not_mem_nil
  | tail _ hstep ih =>
      obtain ⟨a, hstep, hquiet⟩ := hstep
      exact ih.step hstep hquiet

end AutoConnect

/-- **A restart is shown exactly where none falls between two snapshots.** Two tables have the events of a
restart for every key whose incarnation differs, and updates of unchanged processes only, if and only if there
is no such key. And in a run in which no peer restarts between two snapshots, and in which beside the events attempts
are recorded only for the life that the next event of the peer is about, `HandleMembershipEvent` tries a peer with no
attempt remembered that another life of it has left. -/
theorem restarts_shown (cfg : Config) (own : ProcessId) :
    (∀ previous current : MemberTable,
      ShowsRestarts previous current ↔ ∀ key, ¬Restarted previous current key) ∧
    ∀ s : AutoConnect, AutoConnect.Reaches cfg own {} s → ∀ trial ∈ s.trials, trial.ClearedFirst own :=
  ⟨fun _ _ => showsRestarts_iff, fun _ h => (AutoConnect.sound h).trials⟩

/-! ## A relay that restarts -/

def relay (incarnation : UInt64) : Descriptor := { process := ⟨⟨99, 1⟩, incarnation⟩ }

def relayTable (incarnation : UInt64) : MemberTable := ⟨[relay incarnation], List.nodup_singleton _⟩

/-- A snapshot is the number of the relay's incarnation, or empty. -/
def relayConfig : Config where
  readSnapshot output := .ok (if output = "" then [] else [output])
  deserializeDescriptor value := .ok (relay (if value = "1" then 1 else 2))

/-- A game reads this snapshot, of a relay in this life. -/
def snapshotRead (s : AutoConnect) (output : String) (life : Nat) : AutoConnect :=
  s.discovers (s.discovery.refreshSnapshot relayConfig .success output id).2 fun _ => life

/-- The game dials the relay, and hears of its restart. -/
def restartHeard : AutoConnect :=
  (snapshotRead ((snapshotRead {} "1" 1).drained.handle ⟨.added, relay 1⟩ 1 [] true) "2" 2).drained.handle
    ⟨.updated, relay 2⟩ 2 [] true

/-- The restart is an update, and when `HandleMembershipEvent` handles it the attempt that the old process has
left is still there: the new one is not dialled. -/
theorem restart_not_shown :
    (¬∀ previous current : MemberTable, ShowsRestarts previous current) ∧
    ∃ s, Relation.ReflTransGen (fun s s' => ∃ a, AutoConnect.Step relayConfig ⟨10, 1⟩ s a s') {} s ∧
      s.trials.map (·.event) = [⟨.added, relay 1⟩, ⟨.updated, relay 2⟩] ∧
      ¬∀ trial ∈ s.trials, trial.ClearedFirst ⟨10, 1⟩ := by
  constructor
  · intro h
    have hrestarted : Restarted (relayTable 1) (relayTable 2) (relay 1).key :=
      ⟨relay 1, relay 2, rfl, rfl, by decide⟩
    exact showsRestarts_iff.1 (h (relayTable 1) (relayTable 2)) _ hrestarted
  · refine ⟨restartHeard, ?_, rfl, ?_⟩
    · exact .tail (.tail (.tail (.tail (.tail (.tail .refl
        ⟨_, .discovery _ _ (.refreshSnapshot .success "1" id (fun _ => .refl _) fun _ => 1)⟩) ⟨_, .drainEvents rfl⟩)
        ⟨_, .handleMembershipEvent ⟨.added, relay 1⟩ 1 [] true rfl⟩)
        ⟨_, .discovery _ _ (.refreshSnapshot .success "2" id (fun _ => .refl _) fun _ => 2)⟩) ⟨_, .drainEvents rfl⟩)
        ⟨_, .handleMembershipEvent ⟨.updated, relay 2⟩ 2 [] true rfl⟩
    · intro h
      have hleft := h ⟨⟨.updated, relay 2⟩, 2, true, 1⟩ (List.mem_cons_of_mem _ (List.mem_singleton.2 rfl))
      exact absurd (hleft (by decide) (by decide) rfl) (by decide)

end Members

end SomeServer
