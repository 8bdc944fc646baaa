/-
# SomeServer.Discovery.Membership — in which order reads go into the view

A snapshot is read outside of the mutex and goes into the view under it. A read that was taken before another
one may so come after it, and put back what was there before: nothing compares revisions. What holds is that
this needs two threads at a time: whatever had gone into the view when a read was taken is not newer than it,
and what goes in while the read is under way comes from other threads.

`applied` is the list of what has gone in. `table_of_log` says that it is the history of the table: but for
the process's own record, the table is what etcd held at the revision of the last read in the list.
-/
import SomeServer.Discovery.Slots

namespace SomeServer

open Lib

variable {P A : Type}

namespace Etcd

variable [DecidableEq P] {e e' : Etcd P} {key : String} {record : EtcdRecord P} {lease : UInt64} {p : P}

omit [DecidableEq P] in
theorem revision_grant (h : e.grant lease = some e') : e'.revision = e.revision := by
  unfold grant at h
  split at h
  · cases h
  · cases h
    rfl

theorem revision_put (h : e.put key record = some e') : e'.revision = e.revision + 1 := by
  unfold put at h
  split at h
  · cases h
  · cases h
    rfl

theorem revision_delete : e.revision ≤ (e.delete key p).revision := by
  show e.revision ≤ if (e.records.get key).isSome then e.revision + 1 else e.revision
  split <;> omega

omit [DecidableEq P] in
theorem revision_expire : e.revision ≤ (e.expire lease).revision := by
  unfold expire
  dsimp only
  split <;> omega

end Etcd

/-- How a read goes into a view: what had gone in when it was taken is not newer, and what has since comes from
other threads. -/
structure Applied.InOrder (x : Applied A) (past : List (Applied A)) : Prop where
  since : ∀ y ∈ past.take x.since, y.revision ≤ x.revision
  others : ∀ y ∈ past.drop x.since, y.thread ≠ x.thread

namespace EtcdDiscovery

/-- Every read that has gone into the view did so in order. -/
def ReadsInOrder (applied : List (Applied A)) : Prop :=
  ∀ past x rest, applied = past ++ x :: rest → x.read = true → x.InOrder past

/-- No read has gone into the view after something newer. -/
def NeverBack (applied : List (Applied A)) : Prop :=
  ∀ past x rest, applied = past ++ x :: rest → x.read = true → ∀ y ∈ past, y.revision ≤ x.revision

end EtcdDiscovery

namespace DiscoveryTask

/-- The read that the task puts into the view. -/
def read : DiscoveryTask → Option (Nat × Nat)
  | applySnapshot _ revision since => some (revision, since)
  | _ => none

/-- The revision of the put that the task records. -/
def recorded : DiscoveryTask → Option Nat
  | recordSelf _ revision => some revision
  | _ => none

end DiscoveryTask

namespace EtcdDiscovery

/-! ### What a step puts into the view -/

variable [DecidableEq P] {cfg : DiscoveryConfig P} {p : P} {free : DiscoveryThread A → Bool} {t u : DiscoveryThread A}
  {i : DiscoveryInput} {e : Etcd P} {d : EtcdDiscovery A} {k k' : DiscoveryTask} {rest : List DiscoveryTask}
  {r : Performed (DiscoveryThread A) DiscoveryTask (Etcd P × EtcdDiscovery A)} {n since : Nat}

theorem perform_revision (h : k.perform cfg p free t i e d = some r) : e.revision ≤ r.shared.1.revision := by
  cases k with
  -- four tasks reach etcd, and none of them takes it back
  | grantLease self retry =>
      rcases perform_grantLease h with rfl | ⟨e', he', rfl⟩
      · exact Nat.le_refl _
      · exact (Etcd.revision_grant he').ge
  | put self retry =>
      rw [(perform_put h).1]
      unfold putRequest
      split
      · cases hput : e.put ((cfg.options p).memberKey self.process.processId)
          ⟨cfg.serializeDescriptor self, d.leaseId, p⟩ with
        | none => exact Nat.le_refl _
        | some e' => exact (Nat.le_succ _).trans (Etcd.revision_put hput).ge
      · exact Nat.le_refl _
  | delete id =>
      obtain rfl := Option.some.inj h
      show e.revision ≤ (if _ then _ else _ : Etcd P).revision
      split
      · exact Etcd.revision_delete
      · exact Nat.le_refl _
  | expire lease =>
      simp only [DiscoveryTask.perform] at h
      split at h
      · obtain rfl := Option.some.inj h
        exact Etcd.revision_expire
      · cases h
  | _ =>
      simp only [DiscoveryTask.perform] at h
      (repeat' split at h) <;> first
        | (obtain rfl := Option.some.inj h; exact Nat.le_refl _)
        | contradiction

/-- What goes into the view is a read, or the process's own record. -/
theorem perform_applied (h : k.perform cfg p free t i e d = some r) :
    r.shared.2.applied = d.applied ∨
      (∃ revision since, k.read = some (revision, since) ∧
        r.shared.2.applied = d.applied ++ [⟨t, revision, true, since⟩]) ∨
      ∃ revision, k.recorded = some revision ∧
        r.shared.2.applied = d.applied ++ [⟨t, revision, false, d.applied.length⟩] := by
  cases k with
  | grantLease self retry =>
      rcases perform_grantLease h with rfl | ⟨e', -, rfl⟩
      · exact .inl rfl
      · exact .inl rfl
  | put self retry =>
      left
      rcases (perform_put h).2 with ⟨hd, -⟩ | ⟨hd, -⟩ | ⟨hd, -⟩ <;> rw [hd]
  -- only these two write the view
  | recordSelf self revision =>
      obtain rfl := Option.some.inj h
      exact .inr (.inr ⟨revision, rfl, rfl⟩)
  | applySnapshot refreshed revision since =>
      simp only [DiscoveryTask.perform] at h
      split at h
      · cases h
      · obtain rfl := Option.some.inj h
        exact .inr (.inl ⟨revision, since, rfl, rfl⟩)
  | _ =>
      simp only [DiscoveryTask.perform] at h
      (repeat' split at h) <;> first
        | (obtain rfl := Option.some.inj h; exact .inl rfl)
        | contradiction

/-- What a step leads to: a read is taken as it is now, and is applied next; a put that is to be recorded has
just been made. -/
theorem perform_tasks (h : k.perform cfg p free t i e d = some r) :
    (∀ k' ∈ r.tasks, k'.read ≠ none → k'.read = some (e.revision, d.applied.length) ∧
      r.shared.2.applied = d.applied) ∧
    (∀ k' ∈ r.tasks.tail, k'.read = none) ∧
    ∀ k' ∈ r.tasks, ∀ revision, k'.recorded = some revision → revision ≤ r.shared.1.revision := by
  cases k with
  | grantLease self retry =>
      rcases perform_grantLease h with rfl | ⟨e', -, rfl⟩
      · simp
      · simp [DiscoveryTask.read, DiscoveryTask.recorded]
  | put self retry =>
      rcases (perform_put h).2 with ⟨-, htasks⟩ | ⟨-, htasks⟩ | ⟨-, htasks⟩ <;> rw [htasks] <;>
        simp [DiscoveryTask.read, DiscoveryTask.recorded]
  -- the range is read here, and what it brings is applied next
  | refreshSnapshot starting =>
      obtain rfl := Option.some.inj h
      dsimp only
      rcases refreshTasks_eq cfg p i e d starting with heq | ⟨refreshed, heq⟩ <;> rw [heq]
      · simp [DiscoveryTask.read, DiscoveryTask.recorded]
      · cases starting <;> simp [DiscoveryTask.read, DiscoveryTask.recorded]
  | stopBackend =>
      obtain rfl := Option.some.inj h
      cases hthread : d.backend.watchThread <;> simp [DiscoveryTask.read, DiscoveryTask.recorded]
  | clearWatchRunning result =>
      obtain rfl := Option.some.inj h
      cases result <;> simp [DiscoveryTask.read, DiscoveryTask.recorded]
  | registerSelf self =>
      simp only [DiscoveryTask.perform] at h
      split at h
      · cases h
      · obtain rfl := Option.some.inj h
        by_cases hlease : (cfg.options p).leaseTtlSeconds > 0 ∧ d.leaseId = 0 <;>
          simp [hlease, DiscoveryTask.read, DiscoveryTask.recorded]
  | _ =>
      simp only [DiscoveryTask.perform] at h
      (repeat' split at h) <;> first
        | (obtain rfl := Option.some.inj h; simp [DiscoveryTask.read, DiscoveryTask.recorded])
        | contradiction

/-! ### Reads under way -/

variable {c : DiscoveryCrew P A} {x : Applied A}

/-- What has gone into the view, and is going to, is no newer than etcd, and every read is applied right after
it was taken, and in order if it is now. -/
structure Reading (c : DiscoveryCrew P A) : Prop where
  applied : ∀ x ∈ c.shared.2.applied, x.revision ≤ c.shared.1.revision
  inOrder : ReadsInOrder c.shared.2.applied
  next : ∀ t, ∀ k ∈ (c.tasks t).tail, k.read = none
  recorded : ∀ t, ∀ k ∈ c.tasks t, ∀ revision, k.recorded = some revision → revision ≤ c.shared.1.revision
  reads : ∀ t, ∀ k ∈ c.tasks t, ∀ revision since, k.read = some (revision, since) →
    revision ≤ c.shared.1.revision ∧ since ≤ c.shared.2.applied.length ∧
      (⟨t, revision, true, since⟩ : Applied A).InOrder c.shared.2.applied

/-- A read is taken: everything that is in the view is no newer. -/
theorem inOrder_now {revision : Nat} {applied : List (Applied A)} (h : ∀ x ∈ applied, x.revision ≤ revision) :
    (⟨t, revision, true, applied.length⟩ : Applied A).InOrder applied where
  since y hy := h y (List.mem_of_mem_take hy)
  others y hy := by
    rw [List.drop_length] at hy
    cases hy

/-- Something of another thread goes in while the read is under way. -/
theorem inOrder_concat {applied : List (Applied A)} (h : x.InOrder applied) (hsince : x.since ≤ applied.length)
    {y : Applied A} (hy : y.thread ≠ x.thread) : x.InOrder (applied ++ [y]) where
  since z hz := by
    rw [List.take_append_of_le_length hsince] at hz
    exact h.since z hz
  others z hz := by
    rw [List.drop_append_of_le_length hsince] at hz
    rcases List.mem_append.mp hz with hz | hz
    · exact h.others z hz
    · rw [List.mem_singleton.mp hz]
      exact hy

theorem readsInOrder_concat {applied : List (Applied A)} (h : ReadsInOrder applied)
    (hx : x.read = true → x.InOrder applied) : ReadsInOrder (applied ++ [x]) := by
  intro past y rest heq hread
  rcases List.eq_nil_or_concat rest with rfl | ⟨rest', z, rfl⟩
  · obtain ⟨rfl, hxy⟩ := List.append_inj' heq rfl
    cases hxy
    exact hx hread
  · rw [List.concat_eq_append, ← List.cons_append, ← List.append_assoc] at heq
    exact h past y rest' (List.append_inj' heq rfl).1 hread

section Step

variable [DecidableEq A] (h : Reading c) (ht : c.tasks t = k :: rest)
  (hp : k.perform cfg p c.free t i c.shared.1 c.shared.2 = some r)

include h ht hp

omit [DecidableEq P] [DecidableEq A] hp in
theorem Reading.rest_read (hk' : k' ∈ rest) : k'.read = none := by
  apply h.next t k'
  rw [ht]
  exact hk'

omit [DecidableEq A] in
theorem Reading.after_applied (hx : x ∈ r.shared.2.applied) : x.revision ≤ r.shared.1.revision := by
  have hmono := perform_revision hp
  have hk : k ∈ c.tasks t := by
    rw [ht]
    exact List.mem_cons_self
  rcases perform_applied hp with hsame | ⟨revision, since, hread, happ⟩ | ⟨revision, hrec, happ⟩
  · rw [hsame] at hx
    exact (h.applied x hx).trans hmono
  · rw [happ] at hx
    rcases List.mem_append.mp hx with hx | hx
    · exact (h.applied x hx).trans hmono
    · rw [List.mem_singleton.mp hx]
      exact (h.reads t k hk revision since hread).1.trans hmono
  · rw [happ] at hx
    rcases List.mem_append.mp hx with hx | hx
    · exact (h.applied x hx).trans hmono
    · rw [List.mem_singleton.mp hx]
      exact (h.recorded t k hk revision hrec).trans hmono

omit [DecidableEq A] in
theorem Reading.after_inOrder : ReadsInOrder r.shared.2.applied := by
  rcases perform_applied hp with hsame | ⟨revision, since, hread, happ⟩ | ⟨revision, -, happ⟩
  · rw [hsame]
    exact h.inOrder
  · rw [happ]
    apply readsInOrder_concat h.inOrder
    exact fun _ => (h.reads t k (by rw [ht]; exact List.mem_cons_self) revision since hread).2.2
  · rw [happ]
    apply readsInOrder_concat h.inOrder
    intro hfalse
    cases hfalse

theorem Reading.after_next (hk' : k' ∈ ((c.after t rest r).tasks u).tail) : k'.read = none := by
  by_cases hfirst : ∃ first, r.started = some (u, first)
  · obtain ⟨first, hfirst⟩ := hfirst
    rw [Crew.after_tasks_started hfirst] at hk'
    rcases started_cases hp hfirst with ⟨-, -, rfl⟩ | ⟨-, -, rfl⟩ <;> cases hk'
  · have hnone : ∀ first, r.started ≠ some (u, first) := fun first heq => hfirst ⟨first, heq⟩
    by_cases hu : u = t
    · subst hu
      rw [Crew.after_tasks_self hnone] at hk'
      have htail := (perform_tasks hp).2.1
      cases htasks : r.tasks with
      | nil =>
          rw [htasks] at hk'
          exact h.rest_read ht (List.mem_of_mem_tail hk')
      | cons k₁ ks =>
          rw [htasks] at hk' htail
          rcases List.mem_append.mp hk' with hnew | hrest
          · exact htail k' hnew
          · exact h.rest_read ht hrest
    · rw [Crew.after_tasks_of_ne hu hnone] at hk'
      exact h.next u k' hk'

theorem Reading.after_recorded (hk' : k' ∈ (c.after t rest r).tasks u) {revision : Nat}
    (hrec : k'.recorded = some revision) : revision ≤ r.shared.1.revision := by
  have hmono := perform_revision hp
  rcases Crew.mem_after hk' with ⟨rfl, hnew | hrest⟩ | ⟨-, hold⟩ | ⟨first, hfirst, hin⟩
  · exact (perform_tasks hp).2.2 k' hnew revision hrec
  · exact (h.recorded u k' (by rw [ht]; exact List.mem_cons_of_mem _ hrest) revision hrec).trans hmono
  · exact (h.recorded u k' hold revision hrec).trans hmono
  · rcases started_cases hp hfirst with ⟨-, -, rfl⟩ | ⟨-, -, rfl⟩ <;>
      rw [List.mem_singleton.mp hin] at hrec <;> cases hrec

/-- A read under way stays in order. -/
theorem Reading.after_reads (hk' : k' ∈ (c.after t rest r).tasks u) {revision : Nat}
    (hread : k'.read = some (revision, since)) :
    revision ≤ r.shared.1.revision ∧ since ≤ r.shared.2.applied.length ∧
      (⟨u, revision, true, since⟩ : Applied A).InOrder r.shared.2.applied := by
  have hmono := perform_revision hp
  rcases Crew.mem_after hk' with ⟨rfl, hnew | hrest⟩ | ⟨hne, hold⟩ | ⟨first, hfirst, hin⟩
  · -- The read has just been taken.
    obtain ⟨hnow, hsame⟩ := (perform_tasks hp).1 k' hnew (by simp [hread])
    rw [hread] at hnow
    cases hnow
    rw [hsame]
    exact ⟨hmono, Nat.le_refl _, inOrder_now h.applied⟩
  · rw [h.rest_read ht hrest] at hread
    cases hread
  -- another thread's read: what this step puts into the view is not its own
  · obtain ⟨hle, hsince, horder⟩ := h.reads u k' hold revision since hread
    refine ⟨hle.trans hmono, ?_, ?_⟩
    · rcases perform_applied hp with hsame | ⟨_, _, _, happ⟩ | ⟨_, _, happ⟩
      · exact hsame ▸ hsince
      · rw [happ, List.length_append]
        exact hsince.trans (Nat.le_add_right _ _)
      · rw [happ, List.length_append]
        exact hsince.trans (Nat.le_add_right _ _)
    · rcases perform_applied hp with hsame | ⟨_, _, _, happ⟩ | ⟨_, _, happ⟩
      · exact hsame ▸ horder
      · rw [happ]
        exact inOrder_concat horder hsince hne.symm
      · rw [happ]
        exact inOrder_concat horder hsince hne.symm
  · rcases started_cases hp hfirst with ⟨-, -, rfl⟩ | ⟨-, -, rfl⟩ <;>
      rw [List.mem_singleton.mp hin] at hread <;> cases hread

end Step

variable [DecidableEq A]

theorem Reading.start {o : DiscoveryOp} {ks : List DiscoveryTask} (h : Reading c)
    (hbegin : (discoveryWork A cfg p).begin t o = some ks) : Reading (c.begun t ks) := by
  obtain ⟨k, rfl, hcases⟩ := begin_cases hbegin
  -- no call begins with a read that was taken already
  have hplain : k.read = none ∧ k.recorded = none := by
    rcases hcases with ⟨-, hbegins⟩ | ⟨-, hbefalls⟩
    · cases k <;> first | exact ⟨rfl, rfl⟩ | cases hbegins
    · cases k <;> first | exact ⟨rfl, rfl⟩ | cases hbefalls
  obtain ⟨hread, hrec⟩ := hplain
  refine ⟨h.applied, h.inOrder, ?_, ?_, ?_⟩
  · intro u k' hk'
    by_cases hu : u = t
    · rw [hu, Crew.begun_tasks_self] at hk'
      cases hk'
    · rw [Crew.begun_tasks_of_ne hu] at hk'
      exact h.next u k' hk'
  · intro u k' hk' revision hrevision
    rcases Crew.mem_begun hk' with ⟨-, hnew⟩ | ⟨-, hold⟩
    · rw [List.mem_singleton.mp hnew, hrec] at hrevision
      cases hrevision
    · exact h.recorded u k' hold revision hrevision
  · intro u k' hk' revision since hrevision
    rcases Crew.mem_begun hk' with ⟨-, hnew⟩ | ⟨-, hold⟩
    · rw [List.mem_singleton.mp hnew, hread] at hrevision
      cases hrevision
    · exact h.reads u k' hold revision since hrevision

omit [DecidableEq P] [DecidableEq A] in
/-- Other processes only make etcd newer. -/
theorem Reading.within (h : Reading c) (hle : c.shared.1.revision ≤ e.revision) : Reading (c.within e) where
  applied x hx := (h.applied x hx).trans hle
  inOrder := h.inOrder
  next := h.next
  recorded t k hk revision hrec := (h.recorded t k hk revision hrec).trans hle
  reads t k hk revision since hread :=
    ⟨(h.reads t k hk revision since hread).1.trans hle, (h.reads t k hk revision since hread).2⟩

/-- A step of a process leaves no older etcd. -/
theorem move_revision {c c' : DiscoveryCrew P A} {move : Move (DiscoveryThread A) DiscoveryOp DiscoveryInput}
    (h : c.move (discoveryWork A cfg p) move = some c') : c.shared.1.revision ≤ c'.shared.1.revision := by
  cases move with
  | start t o =>
      obtain ⟨-, ks, -, rfl⟩ := Crew.move_start h
      exact Nat.le_refl _
  | act t i =>
      obtain ⟨k, rest, r, ht, hexec, rfl⟩ := Crew.move_act h
      exact perform_revision (perform_of_exec hexec)

theorem Reading.step {c' : DiscoveryCrew P A} {move : Move (DiscoveryThread A) DiscoveryOp DiscoveryInput}
    (h : Reading c) (hmove : c.move (discoveryWork A cfg p) move = some c') : Reading c' := by
  cases move with
  | start t o =>
      obtain ⟨-, ks, hbegin, rfl⟩ := Crew.move_start hmove
      exact h.start hbegin
  | act t i =>
      obtain ⟨k, rest, r, ht, hexec, rfl⟩ := Crew.move_act hmove
      have hp := perform_of_exec hexec
      constructor
      · exact fun x hx => h.after_applied ht hp hx
      · exact h.after_inOrder ht hp
      · exact fun u k' hk' => h.after_next ht hp hk'
      · exact fun u k' hk' revision hrec => h.after_recorded ht hp hk' hrec
      · exact fun u k' hk' revision since hread => h.after_reads ht hp hk' hread

/-- In every run the reads of each process go into its view in order. -/
theorem reads_in_order (cfg : DiscoveryConfig P) (c : DiscoveryFleet P A)
    (h : Crew.Run (fleetWork A cfg) (fun _ _ => True) (createdFleet P A) c) (p : P) :
    ReadsInOrder (c.shared.2 p).applied := by
  have hall : ∀ p, Reading (c.of p) := by
    apply Crew.Run.forall_processes (I := fun _ => Reading) (R := fun e e' => e.revision ≤ e'.revision) _ _ _ _ h
    · intro p
      constructor
      · intro x hx
        cases hx
      · intro past x rest heq
        simp [createdFleet, Crew.of] at heq
      all_goals
        intro t k hk
        cases hk
    · exact fun _ _ _ hreading hle => hreading.within hle
    · exact fun _ _ _ _ hmove => move_revision hmove
    · exact fun _ _ _ _ hreading hmove => hreading.step hmove
  exact (hall p).inOrder

/-! ### The list is the history of the table -/

/-- The table without the process's own record. -/
def others (cfg : DiscoveryConfig P) (p : P) (view : MembershipView) : MembershipView :=
  view.erase (cfg.process p).processId

/-- What a process makes of the range that it reads. -/
def snapshot (cfg : DiscoveryConfig P) (p : P) (e : Etcd P) : Option MembershipView :=
  cfg.parseSnapshot (e.range ((cfg.options p).keyPrefix ++ "/members/"))

def lastRead (applied : List (Applied A)) : Option (Applied A) := (applied.filter Applied.read).getLast?

/-- But for its own record, a process shows what etcd held when the last read that went into the view was
taken, and nothing before the first one; `held` are the states that etcd has been in. -/
def TableOfLog (cfg : DiscoveryConfig P) (p : P) (held : Etcd P → Prop) (d : EtcdDiscovery A) : Prop :=
  match lastRead d.applied with
  | none => others cfg p d.processes = .empty
  | some x => ∃ e refreshed, held e ∧ e.revision = x.revision ∧ snapshot cfg p e = some refreshed ∧
      others cfg p d.processes = others cfg p refreshed

omit [DecidableEq P] [DecidableEq A] in
theorem lastRead_concat (applied : List (Applied A)) (x : Applied A) :
    lastRead (applied ++ [x]) = if x.read then some x else lastRead applied := by
  cases hread : x.read <;> simp [lastRead, List.filter_append, hread]

omit [DecidableEq P] in
theorem others_erase (cfg : DiscoveryConfig P) (p : P) (view : MembershipView) :
    others cfg p (view.erase (cfg.process p).processId) = others cfg p view := by
  simp [others, MembershipView.erase, List.filter_filter]

omit [DecidableEq P] in
theorem others_set {cfg : DiscoveryConfig P} {p : P} {self : ProcessDescriptor} (view : MembershipView)
    (hself : self.process = cfg.process p) : others cfg p (view.set self) = others cfg p view := by
  simp [others, MembershipView.erase, MembershipView.set, List.filter_append, List.filter_filter, hself]

omit [DecidableEq A] in
/-- The list grows when the table is replaced, and when the process's own record is put into it; nothing else
changes what the table shows of the others. -/
theorem perform_table (h : k.perform cfg p free t i e d = some r) (hk : k.about (cfg.process p)) :
    (lastRead r.shared.2.applied = lastRead d.applied ∧
        others cfg p r.shared.2.processes = others cfg p d.processes) ∨
      ∃ refreshed revision since, k = .applySnapshot refreshed revision since ∧
        lastRead r.shared.2.applied = some ⟨t, revision, true, since⟩ ∧
        r.shared.2.processes = refreshed := by
  cases k with
  | grantLease self retry =>
      rcases perform_grantLease h with rfl | ⟨e', -, rfl⟩
      · exact .inl ⟨rfl, rfl⟩
      · exact .inl ⟨rfl, rfl⟩
  | put self retry =>
      left
      rcases (perform_put h).2 with ⟨hd, -⟩ | ⟨hd, -⟩ | ⟨hd, -⟩ <;> rw [hd] <;> exact ⟨rfl, rfl⟩
  | recordSelf self revision =>
      obtain rfl := Option.some.inj h
      exact .inl ⟨lastRead_concat .., others_set _ hk⟩
  | applySnapshot refreshed revision since =>
      simp only [DiscoveryTask.perform] at h
      split at h
      · cases h
      · obtain rfl := Option.some.inj h
        exact .inr ⟨refreshed, revision, since, rfl, lastRead_concat .., rfl⟩
  | forget id =>
      simp only [DiscoveryTask.perform] at h
      have hid : id = (cfg.process p).processId := hk
      subst hid
      left
      split at h <;> obtain rfl := Option.some.inj h
      · exact ⟨rfl, others_erase cfg p d.processes⟩
      · exact ⟨rfl, others_erase cfg p d.processes⟩
  | _ =>
      simp only [DiscoveryTask.perform] at h
      (repeat' split at h) <;> first
        | (obtain rfl := Option.some.inj h; exact .inl ⟨rfl, rfl⟩)
        | contradiction

omit [DecidableEq A] in
/-- What is to be applied has just been read. -/
theorem perform_snapshot (h : k.perform cfg p free t i e d = some r) {refreshed : MembershipView}
    {revision : Nat} (hk' : .applySnapshot refreshed revision since ∈ r.tasks) :
    revision = e.revision ∧ snapshot cfg p e = some refreshed := by
  cases k with
  | grantLease self retry =>
      rcases perform_grantLease h with rfl | ⟨e', -, rfl⟩
      · simp at hk'
      · simp at hk'
  | put self retry =>
      rcases (perform_put h).2 with ⟨-, htasks⟩ | ⟨-, htasks⟩ | ⟨-, htasks⟩ <;> rw [htasks] at hk' <;> simp at hk'
  | refreshSnapshot starting =>
      obtain rfl := Option.some.inj h
      simp only [refreshTasks] at hk'
      split at hk'
      · simp at hk'
      · rename_i view hview
        rcases List.mem_cons.mp hk' with heq | hstarting
        · cases heq
          refine ⟨rfl, ?_⟩
          split at hview
          · exact hview
          · cases hview
        · split at hstarting <;> simp at hstarting
  | stopBackend =>
      obtain rfl := Option.some.inj h
      simp at hk'
  | _ =>
      simp only [DiscoveryTask.perform] at h
      (repeat' split at h) <;> first
        | (obtain rfl := Option.some.inj h; simp at hk')
        | contradiction

/-- The table is that of the list, and what is about to be applied was read from etcd. -/
structure Shows (cfg : DiscoveryConfig P) (p : P) (held : Etcd P → Prop) (c : DiscoveryCrew P A) : Prop where
  about : ∀ t, ∀ k ∈ c.tasks t, k.about (cfg.process p)
  reads : ∀ t refreshed revision since, .applySnapshot refreshed revision since ∈ c.tasks t →
    ∃ e, held e ∧ e.revision = revision ∧ snapshot cfg p e = some refreshed
  table : TableOfLog cfg p held c.shared.2

omit [DecidableEq P] [DecidableEq A] in
/-- A table that stays what it is, but for the own record, stays that of its list. -/
theorem TableOfLog.same {held held' : Etcd P → Prop} {d d' : EtcdDiscovery A} (h : TableOfLog cfg p held d)
    (hheld : ∀ e, held e → held' e) (hlast : lastRead d'.applied = lastRead d.applied)
    (hothers : others cfg p d'.processes = others cfg p d.processes) : TableOfLog cfg p held' d' := by
  unfold TableOfLog at h ⊢
  rw [hlast, hothers]
  cases hread : lastRead d.applied with
  | none =>
      rw [hread] at h
      exact h
  | some x =>
      rw [hread] at h
      obtain ⟨e, refreshed, he, hrest⟩ := h
      exact ⟨e, refreshed, hheld e he, hrest⟩

omit [DecidableEq P] [DecidableEq A] in
/-- Other processes leave the table alone. -/
theorem Shows.within {held held' : Etcd P → Prop} (h : Shows cfg p held c) (hheld : ∀ e, held e → held' e) :
    Shows cfg p held' (c.within e) where
  about := h.about
  reads t refreshed revision since hk := by
    obtain ⟨e, he, hrest⟩ := h.reads t refreshed revision since hk
    exact ⟨e, hheld e he, hrest⟩
  table := h.table.same hheld rfl rfl

theorem Shows.step {held held' : Etcd P → Prop} {c' : DiscoveryCrew P A}
    {move : Move (DiscoveryThread A) DiscoveryOp DiscoveryInput} (h : Shows cfg p held c)
    (hheld : ∀ e, held e → held' e) (hnow : held' c.shared.1)
    (hmove : c.move (discoveryWork A cfg p) move = some c') : Shows cfg p held' c' := by
  have habout := about_move h.about hmove
  have hbefore : ∀ t refreshed revision since, .applySnapshot refreshed revision since ∈ c.tasks t →
      ∃ e, held' e ∧ e.revision = revision ∧ snapshot cfg p e = some refreshed := by
    intro t refreshed revision since hk
    obtain ⟨e, he, hrest⟩ := h.reads t refreshed revision since hk
    exact ⟨e, hheld e he, hrest⟩
  cases move with
  | start t o =>
      obtain ⟨-, ks, hbegin, rfl⟩ := Crew.move_start hmove
      refine ⟨habout, fun u refreshed revision since hk => ?_, h.table.same hheld rfl rfl⟩
      rcases Crew.mem_begun hk with ⟨-, hnew⟩ | ⟨-, hold⟩
      -- no call begins with a read that was taken already
      · obtain ⟨k, rfl, ⟨-, hbegins⟩ | ⟨-, hbefalls⟩⟩ := begin_cases hbegin
        · rw [← List.mem_singleton.mp hnew] at hbegins
          cases hbegins
        · rw [← List.mem_singleton.mp hnew] at hbefalls
          cases hbefalls
      · exact hbefore u refreshed revision since hold
  | act t i =>
      obtain ⟨k, rest, r, ht, hexec, rfl⟩ := Crew.move_act hmove
      have hp := perform_of_exec hexec
      have hk : k ∈ c.tasks t := by
        rw [ht]
        exact List.mem_cons_self
      refine ⟨habout, fun u refreshed revision since hmem => ?_, ?_⟩
      · rcases Crew.mem_after hmem with ⟨rfl, hnew | hrest⟩ | ⟨-, hold⟩ | ⟨first, hfirst, hin⟩
        · obtain ⟨rfl, hread⟩ := perform_snapshot hp hnew
          exact ⟨c.shared.1, hnow, rfl, hread⟩
        · exact hbefore u refreshed revision since (by rw [ht]; exact List.mem_cons_of_mem _ hrest)
        · exact hbefore u refreshed revision since hold
        · rcases started_cases hp hfirst with ⟨-, -, rfl⟩ | ⟨-, -, rfl⟩ <;> cases List.mem_singleton.mp hin
      · rcases perform_table hp (h.about t k hk) with ⟨hlast, hothers⟩ |
          ⟨refreshed, revision, since, rfl, hlast, hprocesses⟩
        · exact h.table.same hheld hlast hothers
        · obtain ⟨e, he, hrevision, hread⟩ := hbefore t refreshed revision since hk
          show TableOfLog cfg p held' r.shared.2
          unfold TableOfLog
          rw [hlast]
          exact ⟨e, refreshed, he, hrevision, hread, by rw [hprocesses]⟩

/-- etcd as it was at some moment of the run. -/
def Held (cfg : DiscoveryConfig P) (c : DiscoveryFleet P A) (e : Etcd P) : Prop :=
  ∃ d, Crew.Run (fleetWork A cfg) (fun _ _ => True) (createdFleet P A) d ∧
    Crew.Run (fleetWork A cfg) (fun _ _ => True) d c ∧ d.shared.1 = e

/-- In every run the table of each process is that of its list. -/
theorem table_of_log (cfg : DiscoveryConfig P) (c : DiscoveryFleet P A)
    (h : Crew.Run (fleetWork A cfg) (fun _ _ => True) (createdFleet P A) c) (p : P) :
    TableOfLog cfg p (Held cfg c) (c.shared.2 p) := by
  have hall : ∀ p, Shows cfg p (Held cfg c) (c.of p) := by
    induction h with
    | refl =>
        intro p
        refine ⟨fun t k hk => ?_, fun t _ _ _ hk => ?_, rfl⟩
        · cases hk
        · cases hk
    | @tail d d' m hrun _ hmove ih =>
        have hheld : ∀ e, Held cfg d e → Held cfg d' e := by
          rintro e ⟨d₀, hbefore, hafter, rfl⟩
          exact ⟨d₀, hbefore, hafter.tail trivial hmove, rfl⟩
        have hnow : Held cfg d' d.shared.1 := ⟨d, hrun, .tail .refl trivial hmove, rfl⟩
        intro p
        by_cases hp : p = m.process
        · subst hp
          exact (ih _).step hheld hnow (Crew.move_of hmove)
        · rw [Crew.move_of_ne hmove hp]
          exact (ih p).within hheld
  exact (hall p).table

/-! ### Two refreshes at a time -/

/-- A game and a relay; what they put is not read back. -/
def gameAndItsRelay : DiscoveryConfig Bool where
  options _ := {}
  process isGame := if isGame then ⟨⟨10, 1⟩, 1⟩ else ⟨⟨99, 1⟩, 1⟩
  serializeDescriptor _ := "relay"
  deserializeDescriptor _ := some ⟨⟨⟨99, 1⟩, 1⟩, []⟩

/-- The first thread of the game reads before the relay registers and puts its read into the view after the
second one has put a later one there. -/
def refreshedTwice : List (Move (Bool × DiscoveryThread Bool) DiscoveryOp DiscoveryInput) :=
  [.start (true, .caller true) .refreshSnapshot, .act (true, .caller true) {},
    .start (false, .caller true) (.registerSelf ⟨⟨⟨99, 1⟩, 1⟩, []⟩)] ++
  List.replicate 5 (.act (false, .caller true) { lease := 7 }) ++
  [.start (true, .caller false) .refreshSnapshot, .act (true, .caller false) {}, .act (true, .caller false) {},
    .act (true, .caller true) {}]

/-- Both reads are in the view, the older one last. -/
theorem refreshed_twice : ∃ c : DiscoveryFleet Bool Bool,
    Crew.Run (fleetWork Bool gameAndItsRelay) (fun _ _ => True) (createdFleet Bool Bool) c ∧
      (c.shared.2 true).applied.map Applied.revision = [1, 0] ∧ ReadsInOrder (c.shared.2 true).applied := by
  have hplay : ((createdFleet Bool Bool).play (fleetWork Bool gameAndItsRelay) (fun _ _ => true) refreshedTwice).map
      (fun c => (c.shared.2 true).applied.map Applied.revision) = some [1, 0] := rfl
  obtain ⟨c, hc, hrevisions⟩ := Option.map_eq_some_iff.mp hplay
  have hrun : Crew.Run (fleetWork Bool gameAndItsRelay) (fun _ _ => True) (createdFleet Bool Bool) c :=
    Crew.Run.play (fun _ _ _ => trivial) Crew.Run.refl hc
  exact ⟨c, hrun, hrevisions, reads_in_order gameAndItsRelay c hrun true⟩

/-- The second one takes back what the first one has shown. -/
theorem refreshed_back : ¬∀ (cfg : DiscoveryConfig Bool) (c : DiscoveryFleet Bool Bool),
    Crew.Run (fleetWork Bool cfg) (fun _ _ => True) (createdFleet Bool Bool) c → ∀ p,
      NeverBack (c.shared.2 p).applied := by
  intro h
  have hplay : ((createdFleet Bool Bool).play (fleetWork Bool gameAndItsRelay) (fun _ _ => true) refreshedTwice).map
      (fun c => ((c.shared.2 true).applied, (c.shared.2 true).processes.members,
        (c.shared.2 true).events.map MembershipEvent.type)) =
      some ([⟨.caller false, 1, true, 0⟩, ⟨.caller true, 0, true, 0⟩], [], [.added, .removed]) := rfl
  obtain ⟨c, hc, hfacts⟩ := Option.map_eq_some_iff.mp hplay
  simp only [Prod.mk.injEq] at hfacts
  have hrun : Crew.Run (fleetWork Bool gameAndItsRelay) (fun _ _ => True) (createdFleet Bool Bool) c :=
    Crew.Run.play (fun _ _ _ => trivial) Crew.Run.refl hc
  have hback := h gameAndItsRelay c hrun true [⟨.caller false, 1, true, 0⟩] ⟨.caller true, 0, true, 0⟩ [] hfacts.1 rfl
    ⟨.caller false, 1, true, 0⟩ List.mem_cons_self
  exact absurd hback (by decide)

end EtcdDiscovery

end SomeServer
