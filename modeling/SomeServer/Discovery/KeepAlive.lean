/-
# SomeServer.Discovery.KeepAlive — which lease a failed keepalive forgets

`KeepAliveOnce` reads `mLeaseId` under the mutex, asks etcd without it, and takes it again to clear `mLeaseId`
when the request has failed. A `RegisterSelf` may have been granted another lease in between, and the clear
does not look: the process forgets a lease under which its record stands, and nobody keeps it alive.

The members and etcd run as in `SomeServer.Discovery.Etcd`; what is added is a log of what befalls `mLeaseId` in
each process.
-/
import SomeServer.Discovery.Slots

namespace SomeServer

open Lib

/-! ## What befalls the lease -/

/-- `mLeaseId` is granted to a `RegisterSelf`, or given up. -/
inductive LeaseChange where
  | granted (lease : UInt64)
  | givenUp
deriving DecidableEq

def LeaseChange.leaseId : LeaseChange → UInt64
  | granted lease => lease
  | givenUp => 0

/-- A keepalive of the lease `asked` has failed, and clears the id `found`. -/
structure Forgotten where
  asked : UInt64
  found : UInt64
deriving DecidableEq

/-- The changes of `mLeaseId` in one process; how many there were when a thread has last read it in
`KeepAliveOnce`, and for which lease its request was. -/
structure LeaseLog (A : Type) where
  changes : List LeaseChange := []
  since : DiscoveryThread A → Nat := fun _ => 0
  asked : DiscoveryThread A → UInt64 := fun _ => 0
  forgotten : List Forgotten := []

namespace LeaseLog

variable {A : Type} (l : LeaseLog A) (t : DiscoveryThread A)

/-- What `mLeaseId` is after these changes. -/
def last (changes : List LeaseChange) : UInt64 := (changes.getLast?.map LeaseChange.leaseId).getD 0

/-- What has befallen `mLeaseId` since the thread has read it. -/
def recent : List LeaseChange := l.changes.drop (l.since t)

/-- The thread has read this lease. -/
structure Read (lease : UInt64) : Prop where
  since : l.since t ≤ l.changes.length
  lease : last (l.changes.take (l.since t)) = lease

/-- A step of the thread is noted, with `mLeaseId` before and after it. -/
def note [DecidableEq A] (i : DiscoveryInput) (before now : UInt64) : DiscoveryTask → LeaseLog A
  | .keepAliveOnce => { l with since := Function.update l.since t l.changes.length }
  | .keepAlive lease => { l with asked := Function.update l.asked t lease }
  | .clearLease =>
      { l with changes := l.changes ++ [.givenUp], forgotten := l.forgotten ++ [⟨l.asked t, before⟩] }
  | .grantLease _ _ => if i.ok then { l with changes := l.changes ++ [.granted i.lease] } else l
  | _ => if before ≠ 0 ∧ now = 0 then { l with changes := l.changes ++ [.givenUp] } else l

variable {l : LeaseLog A} {t : DiscoveryThread A} {lease : UInt64} {changes : List LeaseChange} {change : LeaseChange}

@[simp] theorem last_concat : last (changes ++ [change]) = change.leaseId := by
  simp [last]

/-- What was read stays so while more befalls the lease. -/
theorem Read.mono {l' : LeaseLog A} (h : l.Read t lease) (hsince : l'.since t = l.since t)
    (hchanges : l.changes <+: l'.changes) : l'.Read t lease := by
  obtain ⟨later, hlater⟩ := hchanges
  constructor
  · rw [hsince, ← hlater, List.length_append]
    exact Nat.le_add_right_of_le h.since
  · rw [hsince, ← hlater, List.take_append_of_le_length h.since]
    exact h.lease

/-- The lease is the one that was read, if nothing has befallen it since. -/
theorem Read.last_eq (h : l.Read t lease) :
    last l.changes = ((l.recent t).getLast?.map LeaseChange.leaseId).getD lease := by
  have hsplit : l.changes = l.changes.take (l.since t) ++ l.recent t := (List.take_append_drop ..).symm
  cases hrecent : (l.recent t).getLast? with
  | none =>
      rw [List.getLast?_eq_none_iff.1 hrecent, List.append_nil] at hsplit
      rw [hsplit, h.lease]
      rfl
  | some change =>
      rw [hsplit, last, List.getLast?_append, hrecent]
      rfl

end LeaseLog

/-! ## The members with their logs -/

/-- All processes, with etcd and the logs. -/
structure KeepAlives (P A : Type) where
  fleet : DiscoveryFleet P A
  logs : P → LeaseLog A

namespace KeepAlives

variable {P A : Type} [DecidableEq P] [DecidableEq A]

def created (P A : Type) : KeepAlives P A := ⟨createdFleet P A, fun _ => {}⟩

/-- The logs after a move that leads to this fleet. -/
def noted (s : KeepAlives P A) (fleet : DiscoveryFleet P A) :
    Move (P × DiscoveryThread A) DiscoveryOp DiscoveryInput → P → LeaseLog A
  | .start _ _ => s.logs
  | .act t i =>
      match s.fleet.tasks t with
      | [] => s.logs
      | k :: _ => Function.update s.logs t.1 ((s.logs t.1).note t.2 i (s.fleet.shared.2 t.1).leaseId
          (fleet.shared.2 t.1).leaseId k)

/-- One move, if it is possible. -/
def step (cfg : DiscoveryConfig P) (s : KeepAlives P A)
    (m : Move (P × DiscoveryThread A) DiscoveryOp DiscoveryInput) : KeepAlives P A :=
  match s.fleet.move (fleetWork A cfg) m with
  | none => s
  | some fleet => ⟨fleet, s.noted fleet m⟩

/-- A failed keepalive has cleared `mLeaseId` only where it was still the lease of the request. -/
def ForgetsOwn (s : KeepAlives P A) : Prop :=
  ∀ p, ∀ x ∈ (s.logs p).forgotten, x.found ≠ 0 → x.found = x.asked

/-- When a failed keepalive comes to clear `mLeaseId`, no `RegisterSelf` of its process has been granted another
lease since it has read `mLeaseId`, or that one has been given up again. -/
def Unreplaced (s : KeepAlives P A) : Move (P × DiscoveryThread A) DiscoveryOp DiscoveryInput → Prop
  | .start _ _ => True
  | .act t _ => ∀ rest lease, s.fleet.tasks t = .clearLease :: rest → (s.fleet.shared.2 t.1).live = true →
      (s.fleet.shared.2 t.1).mutex = none →
        ((s.logs t.1).recent t.2).getLast? = some (.granted lease) → lease = (s.logs t.1).asked t.2

end KeepAlives

/-! ## What a step does to the log -/

/-- The task belongs to `KeepAliveOnce`. -/
def DiscoveryTask.keepsAlive : DiscoveryTask → Bool
  | .keepAliveOnce | .keepAlive _ | .clearLease => true
  | _ => false

namespace EtcdDiscovery

variable {P A : Type} [DecidableEq P] {cfg : DiscoveryConfig P} {p : P} {free : DiscoveryThread A → Bool}
  {t u : DiscoveryThread A} {i : DiscoveryInput} {e : Etcd P} {d : EtcdDiscovery A} {k k' : DiscoveryTask}
  {rest : List DiscoveryTask} {r : Performed (DiscoveryThread A) DiscoveryTask (Etcd P × EtcdDiscovery A)}
  {l l' : LeaseLog A} {lease : UInt64}

/-- A lease that is granted is one. -/
theorem perform_granted {self : ProcessDescriptor} {retry : Bool}
    (h : (DiscoveryTask.grantLease self retry).perform cfg p free t i e d = some r) :
    (i.ok = false ∧ r.shared.2 = d) ∨ (i.ok = true ∧ i.lease ≠ 0 ∧ r.shared.2.leaseId = i.lease) := by
  simp only [DiscoveryTask.perform] at h
  split at h
  · rename_i hok
    obtain rfl := Option.some.inj h
    exact .inl ⟨by simpa using hok, rfl⟩
  · rename_i hok
    obtain ⟨e', he', rfl⟩ := Option.map_eq_some_iff.mp h
    refine .inr ⟨by simpa using hok, ?_, rfl⟩
    intro hzero
    rw [Etcd.grant, if_pos (.inl hzero)] at he'
    cases he'

/-- Only a grant gives the process another lease. -/
theorem perform_leaseId (h : k.perform cfg p free t i e d = some r)
    (hgrant : ∀ self retry, k ≠ .grantLease self retry) :
    r.shared.2.leaseId = d.leaseId ∨ r.shared.2.leaseId = 0 := by
  cases k with
  | grantLease self retry => exact absurd rfl (hgrant self retry)
  | put self retry =>
      rcases (perform_put h).2 with ⟨hd, -⟩ | ⟨hd, -⟩ | ⟨hd, -⟩ <;> rw [hd]
      · exact .inl rfl
      · exact .inr rfl
      · exact .inl rfl
  | _ =>
      simp only [DiscoveryTask.perform] at h
      (repeat' split at h) <;> first
        | (obtain rfl := Option.some.inj h; exact .inl rfl)
        | (obtain rfl := Option.some.inj h; exact .inr rfl)
        | contradiction

/-- Other steps lead to no task of `KeepAliveOnce`. -/
theorem perform_others (h : k.perform cfg p free t i e d = some r) (hk : k.keepsAlive = false) :
    ∀ k' ∈ r.tasks, k'.keepsAlive = false := by
  cases k with
  | keepAliveOnce | keepAlive lease => cases hk
  | grantLease self retry =>
      rcases perform_grantLease h with rfl | ⟨e', -, rfl⟩
      · simp
      · simp [DiscoveryTask.keepsAlive]
  | put self retry =>
      rcases (perform_put h).2 with ⟨-, htasks⟩ | ⟨-, htasks⟩ | ⟨-, htasks⟩ <;> rw [htasks] <;>
        simp [DiscoveryTask.keepsAlive]
  | refreshSnapshot starting =>
      obtain rfl := Option.some.inj h
      intro k' hk'
      rcases mem_refreshTasks hk' with rfl | ⟨view, revision, since, rfl⟩ | ⟨-, rfl | rfl⟩ <;> rfl
  | stopBackend =>
      obtain rfl := Option.some.inj h
      cases hthread : d.backend.watchThread <;> simp [DiscoveryTask.keepsAlive]
  | clearWatchRunning result =>
      obtain rfl := Option.some.inj h
      cases result <;> simp [DiscoveryTask.keepsAlive]
  | registerSelf self =>
      simp only [DiscoveryTask.perform] at h
      split at h
      · cases h
      · obtain rfl := Option.some.inj h
        by_cases hlease : (cfg.options p).leaseTtlSeconds > 0 ∧ d.leaseId = 0 <;>
          simp [hlease, DiscoveryTask.keepsAlive]
  | _ =>
      simp only [DiscoveryTask.perform] at h
      (repeat' split at h) <;> first
        | (obtain rfl := Option.some.inj h; simp [DiscoveryTask.keepsAlive])
        | contradiction

/-- The request is made for the lease that was read, and the clear comes after it. -/
theorem perform_keepsAlive (h : k.perform cfg p free t i e d = some r) (hk' : k' ∈ r.tasks)
    (hkeeps : k'.keepsAlive = true) :
    k.keepsAlive = true ∧ r.tasks = [k'] ∧ ((k = .keepAliveOnce ∧ k' = .keepAlive d.leaseId) ∨
      ∃ lease, k = .keepAlive lease ∧ k' = .clearLease) := by
  cases k with
  | keepAliveOnce =>
      simp only [DiscoveryTask.perform] at h
      split at h
      · cases h
      · obtain rfl := Option.some.inj h
        by_cases hlease : d.leaseId = 0
        · rw [if_pos hlease] at hk'
          cases hk'
        · rw [if_neg hlease] at hk' ⊢
          obtain rfl := List.mem_singleton.1 hk'
          exact ⟨rfl, rfl, .inl ⟨rfl, rfl⟩⟩
  | keepAlive lease =>
      obtain rfl := Option.some.inj h
      dsimp only at hk' ⊢
      split at hk'
      · cases hk'
      · rename_i hok
        obtain rfl := List.mem_singleton.1 hk'
        rw [if_neg hok]
        exact ⟨rfl, rfl, .inr ⟨lease, rfl, rfl⟩⟩
  | clearLease =>
      simp only [DiscoveryTask.perform] at h
      split at h
      · cases h
      · obtain rfl := Option.some.inj h
        cases hk'
  | _ =>
      rw [perform_others h rfl k' hk'] at hkeeps
      cases hkeeps

section Note

variable [DecidableEq A]

-- The equations are made here, once for the lemmas below.
attribute [local simp] LeaseLog.note in
/-- A step leaves `mLeaseId`, or its change is noted. -/
theorem note_changes (h : k.perform cfg p free t i e d = some r) :
    ((l.note t i d.leaseId r.shared.2.leaseId k).changes = l.changes ∧ r.shared.2.leaseId = d.leaseId) ∨
      ∃ change, (l.note t i d.leaseId r.shared.2.leaseId k).changes = l.changes ++ [change] ∧
        r.shared.2.leaseId = change.leaseId ∧ change ≠ .granted 0 := by
  by_cases hgrant : ∃ self retry, k = .grantLease self retry
  · obtain ⟨self, retry, rfl⟩ := hgrant
    rcases perform_granted h with ⟨hok, hd⟩ | ⟨hok, hlease, hd⟩
    · left
      simp [LeaseLog.note, hok, hd]
    · right
      refine ⟨.granted i.lease, by simp [LeaseLog.note, hok], hd, ?_⟩
      simpa using hlease
  · have hleaves := perform_leaseId h fun self retry heq => hgrant ⟨self, retry, heq⟩
    cases k with
    | grantLease self retry => exact absurd ⟨self, retry, rfl⟩ hgrant
    | keepAliveOnce =>
        simp only [DiscoveryTask.perform] at h
        split at h
        · cases h
        · obtain rfl := Option.some.inj h
          exact .inl ⟨rfl, rfl⟩
    | keepAlive lease =>
        obtain rfl := Option.some.inj h
        exact .inl ⟨rfl, rfl⟩
    | clearLease =>
        simp only [DiscoveryTask.perform] at h
        split at h
        · cases h
        · obtain rfl := Option.some.inj h
          exact .inr ⟨.givenUp, rfl, rfl, by simp⟩
    | _ =>
        simp only [LeaseLog.note]
        split
        · rename_i hlost
          exact .inr ⟨.givenUp, rfl, hlost.2, by simp⟩
        · rename_i hkept
          refine .inl ⟨rfl, ?_⟩
          rcases hleaves with hsame | hzero
          · exact hsame
          · rw [hzero]
            by_contra hne
            exact hkept ⟨fun h₀ => hne h₀.symm, hzero⟩

theorem note_since (hk : u ≠ t ∨ k ≠ .keepAliveOnce) {before now : UInt64} :
    (l.note t i before now k).since u = l.since u := by
  cases k with
  | keepAliveOnce => exact Function.update_of_ne (hk.resolve_right (not_not_intro rfl)) ..
  | _ =>
      first
        | rfl
        | (simp only [LeaseLog.note]; split <;> rfl)

theorem note_asked (hk : u ≠ t ∨ ∀ lease, k ≠ .keepAlive lease) {before now : UInt64} :
    (l.note t i before now k).asked u = l.asked u := by
  cases k with
  | keepAlive lease => exact Function.update_of_ne (hk.resolve_right fun hall => hall lease rfl) ..
  | _ =>
      first
        | rfl
        | (simp only [LeaseLog.note]; split <;> rfl)

theorem note_forgotten (hk : k ≠ .clearLease) {before now : UInt64} :
    (l.note t i before now k).forgotten = l.forgotten := by
  cases k with
  | clearLease => exact absurd rfl hk
  | _ =>
      first
        | rfl
        | (simp only [LeaseLog.note]; split <;> rfl)

end Note

/-! ## What every process keeps -/

variable [DecidableEq A] {c : DiscoveryCrew P A}

/-- The log tells what `mLeaseId` is, and what every keepalive that is under way has read. -/
structure Logged (c : DiscoveryCrew P A) (l : LeaseLog A) : Prop where
  current : LeaseLog.last l.changes = c.shared.2.leaseId
  granted : .granted 0 ∉ l.changes
  alone : ∀ t, ∀ k ∈ c.tasks t, k.keepsAlive = true → c.tasks t = [k]
  requests : ∀ t lease, .keepAlive lease ∈ c.tasks t → l.Read t lease
  failed : ∀ t, .clearLease ∈ c.tasks t → l.Read t (l.asked t)

theorem Logged.begun {o : DiscoveryOp} {ks : List DiscoveryTask} (h : Logged c l)
    (hks : (discoveryWork A cfg p).begin t o = some ks) : Logged (c.begun t ks) l := by
  obtain ⟨k, rfl, hk⟩ := begin_cases hks
  -- a call does not begin in its middle
  have hnew : k ≠ .clearLease ∧ ∀ lease, k ≠ .keepAlive lease := by
    constructor
    · rintro rfl
      rcases hk with ⟨-, hk⟩ | ⟨-, hk⟩ <;> cases hk
    · rintro lease rfl
      rcases hk with ⟨-, hk⟩ | ⟨-, hk⟩ <;> cases hk
  refine ⟨h.current, h.granted, ?_, ?_, ?_⟩
  · intro u k' hk' hkeeps
    rcases Crew.mem_begun hk' with ⟨rfl, hmem⟩ | ⟨hu, hmem⟩
    · rw [Crew.begun_tasks_self, List.mem_singleton.1 hmem]
    · rw [Crew.begun_tasks_of_ne hu]
      exact h.alone u k' hmem hkeeps
  · intro u lease hmem
    rcases Crew.mem_begun hmem with ⟨-, hmem⟩ | ⟨-, hmem⟩
    · exact absurd (List.mem_singleton.1 hmem).symm (hnew.2 lease)
    · exact h.requests u lease hmem
  · intro u hmem
    rcases Crew.mem_begun hmem with ⟨-, hmem⟩ | ⟨-, hmem⟩
    · exact absurd (List.mem_singleton.1 hmem).symm hnew.1
    · exact h.failed u hmem

/-- A task of `KeepAliveOnce` after a step: it was there before, in another thread, or it is all that the step
leads to. -/
theorem Logged.keepsAlive_after (h : Logged c l) (ht : c.tasks t = k :: rest)
    (hp : k.perform cfg p free t i e d = some r) (hk' : k' ∈ (c.after t rest r).tasks u)
    (hkeeps : k'.keepsAlive = true) :
    (c.after t rest r).tasks u = [k'] ∧ ((u ≠ t ∧ k' ∈ c.tasks u) ∨
      (u = t ∧ ((k = .keepAliveOnce ∧ k' = .keepAlive d.leaseId) ∨
        ∃ lease, k = .keepAlive lease ∧ k' = .clearLease))) := by
  have hstarted : ∀ v first, r.started = some (v, first) → k' ∉ first := by
    intro v first hfirst hin
    rcases started_cases hp hfirst with ⟨-, -, rfl⟩ | ⟨-, -, rfl⟩
    · rw [List.mem_singleton.1 hin] at hkeeps
      cases hkeeps
    · rw [List.mem_singleton.1 hin] at hkeeps
      cases hkeeps
  have hnone : ∀ first, r.started ≠ some (u, first) := by
    intro first hfirst
    rw [Crew.after_tasks_started hfirst] at hk'
    exact hstarted u first hfirst hk'
  by_cases hu : u = t
  · subst hu
    rw [Crew.after_tasks_self hnone] at hk' ⊢
    rcases List.mem_append.1 hk' with hnew | hrest
    · obtain ⟨hkkeeps, htasks, hcases⟩ := perform_keepsAlive hp hnew hkeeps
      have halone := h.alone u k (by rw [ht]; exact List.mem_cons_self) hkkeeps
      rw [ht, List.cons.injEq] at halone
      rw [htasks, halone.2]
      exact ⟨rfl, .inr ⟨rfl, hcases⟩⟩
    · have halone := h.alone u k' (by rw [ht]; exact List.mem_cons_of_mem _ hrest) hkeeps
      rw [ht, List.cons.injEq] at halone
      rw [halone.2] at hrest
      cases hrest
  · rw [Crew.after_tasks_of_ne hu hnone] at hk' ⊢
    exact ⟨h.alone u k' hk' hkeeps, .inl ⟨hu, hk'⟩⟩

theorem Logged.after (h : Logged c l) (ht : c.tasks t = k :: rest)
    (hp : k.perform cfg p free t i c.shared.1 c.shared.2 = some r) :
    Logged (c.after t rest r) (l.note t i c.shared.2.leaseId r.shared.2.leaseId k) := by
  have hchanges := note_changes (l := l) hp
  have hprefix : l.changes <+: (l.note t i c.shared.2.leaseId r.shared.2.leaseId k).changes := by
    rcases hchanges with ⟨hsame, -⟩ | ⟨change, hnoted, -⟩
    · rw [hsame]
    · rw [hnoted]
      exact List.prefix_append _ _
  refine ⟨?_, ?_, ?_, ?_, ?_⟩
  · rcases hchanges with ⟨hsame, hlease⟩ | ⟨change, hnoted, hlease, -⟩
    · rw [hsame, h.current, Crew.after_shared, hlease]
    · rw [hnoted, LeaseLog.last_concat, Crew.after_shared, hlease]
  · rcases hchanges with ⟨hsame, -⟩ | ⟨change, hnoted, -, hne⟩
    · rw [hsame]
      exact h.granted
    · rw [hnoted, List.mem_append, List.mem_singleton]
      rintro (hmem | heq)
      · exact h.granted hmem
      · exact hne heq.symm
  · intro u k' hk' hkeeps
    exact (h.keepsAlive_after ht hp hk' hkeeps).1
  · intro u lease hmem
    rcases (h.keepsAlive_after ht hp hmem rfl).2 with ⟨hu, hold⟩ | ⟨rfl, ⟨rfl, hlease⟩ | ⟨lease', -, hlease⟩⟩
    · exact (h.requests u lease hold).mono (note_since (.inl hu)) hprefix
    · -- the lease has just been read
      cases hlease
      constructor
      · exact (Function.update_self ..).le
      · show LeaseLog.last (l.changes.take (Function.update l.since u l.changes.length u)) = _
        rw [Function.update_self, List.take_length, h.current]
    · cases hlease
  · intro u hmem
    rcases (h.keepsAlive_after ht hp hmem rfl).2 with ⟨hu, hold⟩ | ⟨rfl, ⟨rfl, hlease⟩ | ⟨lease, rfl, -⟩⟩
    · rw [note_asked (.inl hu)]
      exact (h.failed u hold).mono (note_since (.inl hu)) hprefix
    · cases hlease
    · -- the request that has failed was for the lease that was read
      have hasked : (l.note u i c.shared.2.leaseId r.shared.2.leaseId (.keepAlive lease)).asked u = lease :=
        Function.update_self ..
      rw [hasked]
      exact (h.requests u lease (by rw [ht]; exact List.mem_cons_self)).mono rfl hprefix

end EtcdDiscovery

/-! ## Histories -/

namespace KeepAlives

variable {P A : Type} [DecidableEq P] [DecidableEq A] {cfg : DiscoveryConfig P} {s : KeepAlives P A}
  {m : Move (P × DiscoveryThread A) DiscoveryOp DiscoveryInput}

/-- Every process keeps its log, and has forgotten no lease but its own. -/
structure Sound (s : KeepAlives P A) : Prop where
  logged : ∀ p, EtcdDiscovery.Logged (s.fleet.of p) (s.logs p)
  forgets : s.ForgetsOwn

omit [DecidableEq P] [DecidableEq A] in
theorem Sound.created : Sound (created P A) := by
  constructor
  · intro p
    exact ⟨rfl, List.not_mem_nil, fun _ _ hk => absurd hk List.not_mem_nil,
      fun _ _ hk => absurd hk List.not_mem_nil, fun _ hk => absurd hk List.not_mem_nil⟩
  · exact fun _ _ hx => absurd hx List.not_mem_nil

/-- A step of one process, and what it notes. -/
theorem step_act {p : P} {t : DiscoveryThread A} {i : DiscoveryInput} {fleet : DiscoveryFleet P A}
    (hmove : s.fleet.move (fleetWork A cfg) (.act (p, t) i) = some fleet) :
    ∃ k rest r, s.fleet.tasks (p, t) = k :: rest ∧
      k.perform cfg p (s.fleet.of p).free t i s.fleet.shared.1 (s.fleet.shared.2 p) = some r ∧
      ((s.fleet.shared.2 p).live || k.befalls) = true ∧
      s.step cfg (.act (p, t) i) = ⟨s.fleet.after (p, t) rest (s.fleet.lifted p r), Function.update s.logs p
        ((s.logs p).note t i (s.fleet.shared.2 p).leaseId r.shared.2.leaseId k)⟩ := by
  obtain ⟨k, rest, r, ht, hexec, rfl⟩ := Crew.move_many hmove
  have ht' : s.fleet.tasks (p, t) = k :: rest := ht
  refine ⟨k, rest, r, ht, EtcdDiscovery.perform_of_exec hexec, ?_, ?_⟩
  · simp only [discoveryWork] at hexec
    split at hexec
    · rename_i hlive
      exact hlive
    · cases hexec
  · simp only [step, hmove, noted, ht', Crew.after_shared, Crew.lifted, Function.update_self]

/-- Every process keeps its log. -/
theorem logged_step (h : ∀ p, EtcdDiscovery.Logged (s.fleet.of p) (s.logs p)) (p : P) :
    EtcdDiscovery.Logged ((s.step cfg m).fleet.of p) ((s.step cfg m).logs p) := by
  cases hmove : s.fleet.move (fleetWork A cfg) m with
  | none =>
      simp only [step, hmove]
      exact h p
  | some fleet =>
      cases m with
      | start t o =>
          obtain ⟨q, t⟩ := t
          obtain ⟨-, ks, hks, rfl⟩ := Crew.move_start hmove
          simp only [step, hmove, noted]
          by_cases hp : p = q
          · subst hp
            rw [Crew.begun_of]
            exact (h p).begun hks
          · rw [Crew.begun_of_ne hp]
            exact h p
      | act t i =>
          obtain ⟨q, t⟩ := t
          obtain ⟨k, rest, r, ht, hperform, -, hstep⟩ := step_act hmove
          rw [hstep]
          dsimp only
          by_cases hp : p = q
          · subst hp
            rw [Crew.after_of, Function.update_self]
            exact (h p).after ht hperform
          · rw [Crew.after_of_ne hp, Function.update_of_ne hp]
            -- the others' etcd is not what a log tells of
            exact ⟨(h p).current, (h p).granted, (h p).alone, (h p).requests, (h p).failed⟩

/-- A failed keepalive comes to clear `mLeaseId`. -/
theorem step_clearLease {p : P} {t : DiscoveryThread A} {i : DiscoveryInput} {rest : List DiscoveryTask}
    (ht : s.fleet.tasks (p, t) = .clearLease :: rest) (hlive : (s.fleet.shared.2 p).live = true)
    (hmutex : (s.fleet.shared.2 p).mutex = none) :
    ((s.step cfg (.act (p, t) i)).logs p).forgotten =
      (s.logs p).forgotten ++ [⟨(s.logs p).asked t, (s.fleet.shared.2 p).leaseId⟩] := by
  have hperform : DiscoveryTask.perform cfg p (s.fleet.of p).free t i s.fleet.shared.1 (s.fleet.shared.2 p)
      .clearLease = some { shared := (s.fleet.shared.1, { s.fleet.shared.2 p with leaseId := 0 }), tasks := [] } :=
    if_neg (not_not_intro hmutex)
  have hmove := EtcdDiscovery.move_of_perform (i := i) ht hlive hperform
  simp only [step, hmove, noted, ht, Function.update_self]
  rfl

omit [DecidableEq P] [DecidableEq A] in
/-- What is cleared is the lease of the request, if no other one has been granted in between. -/
theorem Sound.found_asked {p : P} {t : DiscoveryThread A} {i : DiscoveryInput} {rest : List DiscoveryTask}
    (h : Sound s) (hkept : Unreplaced s (.act (p, t) i)) (ht : s.fleet.tasks (p, t) = .clearLease :: rest)
    (hlive : (s.fleet.shared.2 p).live = true) (hmutex : (s.fleet.shared.2 p).mutex = none)
    (hfound : (s.fleet.shared.2 p).leaseId ≠ 0) : (s.fleet.shared.2 p).leaseId = (s.logs p).asked t := by
  have hread := (h.logged p).failed t (by
    show _ ∈ s.fleet.tasks (p, t)
    rw [ht]
    exact List.mem_cons_self)
  have hcurrent : (s.fleet.shared.2 p).leaseId = _ := (h.logged p).current.symm.trans hread.last_eq
  rw [hcurrent] at hfound ⊢
  cases hlast : ((s.logs p).recent t).getLast? with
  | none => rfl
  | some change =>
      rw [hlast] at hfound
      cases change with
      | granted lease => exact hkept rest lease ht hlive hmutex hlast
      | givenUp => exact absurd rfl hfound

/-- A keepalive that is not replaced forgets its own lease. -/
theorem Sound.keep (h : Sound s) (hkept : Unreplaced s m) : Sound (s.step cfg m) := by
  refine ⟨logged_step h.logged, ?_⟩
  cases hmove : s.fleet.move (fleetWork A cfg) m with
  | none =>
      simp only [step, hmove]
      exact h.forgets
  | some fleet =>
      cases m with
      | start t o =>
          simp only [step, hmove, noted]
          exact h.forgets
      | act t i =>
          obtain ⟨p, t⟩ := t
          obtain ⟨k, rest, r, ht, hperform, hlive, hstep⟩ := step_act hmove
          intro q x hx
          by_cases hq : q = p
          · subst hq
            by_cases hk : k = .clearLease
            · subst hk
              have hmutex : (s.fleet.shared.2 q).mutex = none := by
                by_contra htaken
                simp only [DiscoveryTask.perform] at hperform
                rw [if_pos htaken] at hperform
                cases hperform
              have hruns : (s.fleet.shared.2 q).live = true := (Bool.or_false _).symm.trans hlive
              rw [step_clearLease ht hruns hmutex] at hx
              rcases List.mem_append.1 hx with hold | hnew
              · exact h.forgets q x hold
              · obtain rfl := List.mem_singleton.1 hnew
                exact h.found_asked hkept ht hruns hmutex
            · rw [hstep] at hx
              dsimp only at hx
              rw [Function.update_self, EtcdDiscovery.note_forgotten hk] at hx
              exact h.forgets q x hx
          · rw [hstep] at hx
            dsimp only at hx
            rw [Function.update_of_ne hq] at hx
            exact h.forgets q x hx

/-- A keepalive that is replaced forgets the lease that was granted in between. -/
theorem Sound.lose (h : Sound s) (hkept : ¬Unreplaced s m) : ¬(s.step cfg m).ForgetsOwn := by
  cases m with
  | start t o => exact absurd trivial hkept
  | act t i =>
      obtain ⟨p, t⟩ := t
      simp only [Unreplaced, not_forall] at hkept
      obtain ⟨rest, lease, ht, hlive, hmutex, hlast, hne⟩ := hkept
      have hread := (h.logged p).failed t (by
        show _ ∈ s.fleet.tasks (p, t)
        rw [ht]
        exact List.mem_cons_self)
      have hfound : (s.fleet.shared.2 p).leaseId = lease := by
        rw [show (s.fleet.shared.2 p).leaseId = _ from (h.logged p).current.symm, hread.last_eq, hlast]
        rfl
      have hgranted : lease ≠ 0 := by
        rintro rfl
        exact (h.logged p).granted (List.mem_of_mem_drop (List.mem_of_getLast? hlast))
      intro hforgets
      apply hne
      have hnew := hforgets p ⟨(s.logs p).asked t, (s.fleet.shared.2 p).leaseId⟩ (by
        rw [step_clearLease ht hlive hmutex]
        exact List.mem_append_right _ List.mem_cons_self)
      rw [hfound] at hnew
      exact hnew hgranted

/-- **Failed keepalives forget their own lease only**, at all times of a history, exactly if each of them that
comes to clear `mLeaseId` finds that no `RegisterSelf` has been granted another lease since it has read the id,
or that this one has been given up again. -/
theorem keepalives_forget_own (cfg : DiscoveryConfig P)
    (moves : List (Move (P × DiscoveryThread A) DiscoveryOp DiscoveryInput)) :
    Always (step cfg) ForgetsOwn (created P A) moves ↔ Admitted (step cfg) Unreplaced (created P A) moves := by
  apply always_iff_admitted (I := Sound)
  · exact Sound.created
  · exact fun s h => h.forgets
  · exact fun s m h hkept => h.keep hkept
  · exact fun s m h hkept => h.lose hkept

/-! ### A registration during a keepalive -/

/-- A game registers under lease 7 and a second thread asks to keep it alive. The lease expires, so the request
fails; before the thread comes to clear `mLeaseId`, the first one registers again, under lease 8. -/
def registeredBetween : List (Move (Unit × DiscoveryThread Bool) DiscoveryOp DiscoveryInput) :=
  [.start ((), .caller true) (.registerSelf ⟨⟨⟨10, 1⟩, 1⟩, []⟩)] ++
  List.replicate 5 (.act ((), .caller true) { lease := 7 }) ++
  [.start ((), .caller false) .keepAliveOnce, .act ((), .caller false) {}, .start ((), .outside) (.expire 7),
    .act ((), .outside) {}, .act ((), .caller false) { ok := false },
    .start ((), .caller true) (.registerSelf ⟨⟨⟨10, 1⟩, 1⟩, []⟩), .act ((), .caller true) {},
    .act ((), .caller true) { ok := false }] ++
  List.replicate 4 (.act ((), .caller true) { lease := 8 }) ++
  [.act ((), .caller false) {}]

def gameAlone : DiscoveryConfig Unit where
  options _ := {}
  process _ := ⟨⟨10, 1⟩, 1⟩
  serializeDescriptor _ := "game"
  deserializeDescriptor _ := none

/-- The game forgets lease 8, which it was granted while it asked for lease 7. -/
theorem fresh_lease_forgotten : ¬∀ (cfg : DiscoveryConfig Unit)
    (moves : List (Move (Unit × DiscoveryThread Bool) DiscoveryOp DiscoveryInput)),
    Always (step cfg) ForgetsOwn (created Unit Bool) moves := by
  intro h
  have hforgets := h gameAlone registeredBetween _ List.prefix_rfl ()
  have hforgotten : ((after (step gameAlone) (created Unit Bool) registeredBetween).logs ()).forgotten = [⟨7, 8⟩] :=
    rfl
  rw [hforgotten] at hforgets
  exact absurd (hforgets _ List.mem_cons_self (by decide)) (by decide)

end KeepAlives

end SomeServer
