/-
# SomeServer.Discovery.Slots — whose record is under a member key

`RegisterSelf` puts the record of a process under its key whatever is there, and `Remove` deletes the key
whoever has put it: the compare-and-swap that registration should use is missing. So what a process has under
its key stands until it deletes it, or its lease expires, as long as no other process that is configured with
the key writes to it, and no longer (`records_owned`).
-/
import SomeServer.Discovery.Etcd
import SomeServer.Lib.Histories

namespace SomeServer

open Lib

variable {P A : Type} [DecidableEq P]

namespace DiscoveryTask

/-- The key that the task writes to, if its request reaches etcd and is not refused. -/
def writes (cfg : DiscoveryConfig P) (p : P) (i : DiscoveryInput) (e : Etcd P) (d : EtcdDiscovery A) :
    DiscoveryTask → Option String
  | put self _ => (putRequest cfg p i e d self).map fun _ => (cfg.options p).memberKey self.process.processId
  | delete id => if i.ok || i.effect then some ((cfg.options p).memberKey id) else none
  | _ => none

/-- A process registers and removes nobody else. -/
def about (self : ProcessRef) : DiscoveryTask → Prop
  | registerSelf descriptor | grantLease descriptor _ | put descriptor _ => descriptor.process = self
  | recordSelf descriptor _ => descriptor.process = self
  | remove id | delete id | forget id => id = self.processId
  | _ => True

end DiscoveryTask

namespace EtcdDiscovery

/-- What a process that runs has put under its key, and neither deleted nor lost with its lease, is there. -/
def Owned (cfg : DiscoveryConfig P) (c : DiscoveryFleet P A) : Prop :=
  ∀ p record, (c.shared.2 p).live = true → c.shared.1.standing p = some record →
    c.shared.1.records.get (cfg.key p) = some record

/-- A put or delete that takes effect finds no record of another process that runs. -/
def Uncontested (cfg : DiscoveryConfig P) (c : DiscoveryFleet P A) :
    Move (P × DiscoveryThread A) DiscoveryOp DiscoveryInput → Prop
  | .start _ _ => True
  | .act t i => ∀ k rest key record, c.tasks t = k :: rest → (c.shared.2 t.1).live = true →
      k.writes cfg t.1 i c.shared.1 (c.shared.2 t.1) = some key → c.shared.1.records.get key = some record →
      record.writer = t.1 ∨ (c.shared.2 record.writer).live = false

/-! ### What a step does to etcd -/

variable {cfg : DiscoveryConfig P} {p q : P} {free : DiscoveryThread A → Bool} {t u : DiscoveryThread A}
  {i : DiscoveryInput} {e e' : Etcd P} {d : EtcdDiscovery A} {k k' : DiscoveryTask} {rest : List DiscoveryTask}
  {r : Performed (DiscoveryThread A) DiscoveryTask (Etcd P × EtcdDiscovery A)} {key : String}
  {record : EtcdRecord P}

/-- What happens to the records: nothing, an expiry, or a write to one key, by a put or a delete. -/
inductive Change (p : P) (e : Etcd P) : Option String → Etcd P → Prop
  | same {e' : Etcd P} : e'.records = e.records → e'.standing = e.standing → Change p e none e'
  | expired (lease : UInt64) : Change p e none (e.expire lease)
  | put {e' : Etcd P} (key : String) (record : EtcdRecord P) : record.writer = p → e.put key record = some e' →
      Change p e (some key) e'
  | deleted (key : String) : Change p e (some key) (e.delete key p)

theorem perform_change (h : k.perform cfg p free t i e d = some r) : Change p e (k.writes cfg p i e d) r.shared.1 := by
  cases k with
  | grantLease self retry =>
      rcases perform_grantLease h with rfl | ⟨e', he', rfl⟩
      · exact .same rfl rfl
      · unfold Etcd.grant at he'
        split at he'
        · cases he'
        · cases he'
          exact .same rfl rfl
  -- a put that fails may have been made all the same
  | put self retry =>
      rw [(perform_put h).1]
      show Change p e ((putRequest cfg p i e d self).map _) _
      cases hput : putRequest cfg p i e d self with
      | none => exact .same rfl rfl
      | some e' =>
          unfold putRequest at hput
          split at hput
          · exact .put _ _ rfl hput
          · cases hput
  | delete id =>
      obtain rfl := Option.some.inj h
      simp only [DiscoveryTask.writes]
      split
      · exact .deleted _
      · exact .same rfl rfl
  | expire lease =>
      simp only [DiscoveryTask.perform] at h
      split at h
      · obtain rfl := Option.some.inj h
        exact .expired lease
      · cases h
  | _ =>
      simp only [DiscoveryTask.perform] at h
      (repeat' split at h) <;> first
        | (obtain rfl := Option.some.inj h; exact .same rfl rfl)
        | contradiction

/-- A process that has ended does not come back. -/
theorem perform_live (h : k.perform cfg p free t i e d = some r) (hlive : r.shared.2.live = true) : d.live = true := by
  cases k with
  | grantLease self retry =>
      rcases perform_grantLease h with rfl | ⟨e', -, rfl⟩
      · exact hlive
      · exact hlive
  | put self retry =>
      rcases (perform_put h).2 with ⟨hd, -⟩ | ⟨hd, -⟩ | ⟨hd, -⟩ <;> rw [hd] at hlive <;> exact hlive
  | endProcess =>
      obtain rfl := Option.some.inj h
      simp [live] at hlive
  | _ =>
      simp only [DiscoveryTask.perform] at h
      (repeat' split at h) <;> first
        | (obtain rfl := Option.some.inj h; exact hlive)
        | (obtain rfl := Option.some.inj h; cases hlive)
        | contradiction

/-- A thread goes on to tasks about its own process. -/
theorem perform_about {self : ProcessRef} (h : k.perform cfg p free t i e d = some r) (hk : k.about self)
    (hmem : k' ∈ r.tasks) : k'.about self := by
  cases k with
  | registerSelf descriptor =>
      simp only [DiscoveryTask.perform] at h
      split at h
      · cases h
      · obtain rfl := Option.some.inj h
        rcases List.mem_cons.mp hmem with rfl | hmem
        · split <;> exact hk
        · rw [List.mem_singleton.mp hmem]
          trivial
  | grantLease descriptor retry =>
      rcases perform_grantLease h with rfl | ⟨e', -, rfl⟩
      · cases hmem
      · rw [List.mem_singleton.mp hmem]
        exact hk
  -- recorded, or once more under a new lease, or given up
  | put descriptor retry =>
      rcases (perform_put h).2 with ⟨-, htasks⟩ | ⟨-, htasks⟩ | ⟨-, htasks⟩ <;> rw [htasks] at hmem
      · rw [List.mem_singleton.mp hmem]
        exact hk
      · rw [List.mem_singleton.mp hmem]
        exact hk
      · cases hmem
  | remove id =>
      simp only [DiscoveryTask.perform] at h
      split at h
      · cases h
      · obtain rfl := Option.some.inj h
        rcases List.mem_cons.mp hmem with rfl | hmem
        · exact hk
        · rw [List.mem_singleton.mp hmem]
          trivial
  | delete id =>
      obtain rfl := Option.some.inj h
      dsimp only at hmem
      split at hmem
      · rw [List.mem_singleton.mp hmem]
        exact hk
      · cases hmem
  | refreshSnapshot starting =>
      obtain rfl := Option.some.inj h
      rcases mem_refreshTasks hmem with rfl | ⟨view, revision, since, rfl⟩ | ⟨-, rfl | rfl⟩ <;> trivial
  | _ =>
      simp only [DiscoveryTask.perform] at h
      (repeat' split at h) <;> first
        | (obtain rfl := Option.some.inj h; simp at hmem; done)
        | (obtain rfl := Option.some.inj h; grind [DiscoveryTask.about])
        | contradiction

omit [DecidableEq P] in
theorem begins_about {self : ProcessRef} (h : k.begins self = true) : k.about self := by
  cases k with
  | registerSelf descriptor =>
      show descriptor.process = self
      exact of_decide_eq_true h
  | remove id =>
      show id = self.processId
      exact of_decide_eq_true h
  | _ => trivial

omit [DecidableEq P] in
theorem befalls_about {self : ProcessRef} (h : k.befalls = true) : k.about self := by
  cases k with
  | expire lease | endProcess => trivial
  | _ => cases h

theorem writes_key (h : k.writes cfg p i e d = some key) (hk : k.about (cfg.process p)) : key = cfg.key p := by
  cases k with
  | put descriptor retry =>
      obtain ⟨-, -, rfl⟩ := Option.map_eq_some_iff.mp h
      have hself : descriptor.process = cfg.process p := hk
      rw [hself]
      rfl
  | delete id =>
      simp only [DiscoveryTask.writes] at h
      split at h
      · cases h
        have hself : id = (cfg.process p).processId := hk
        rw [hself]
        rfl
      · cases h
  | _ => cases h

/-! ### What is filed -/

/-- Every record is what its writer has put last, and under its key. -/
structure Filed (cfg : DiscoveryConfig P) (e : Etcd P) : Prop where
  placed : ∀ key record, e.records.get key = some record →
    e.standing record.writer = some record ∧ key = cfg.key record.writer
  signed : ∀ p record, e.standing p = some record → record.writer = p

section Change

variable {written : Option String}

theorem put_eq (h : e.put key record = some e') :
    e'.records = e.records.set key record ∧ e'.standing = Function.update e.standing record.writer (some record) := by
  unfold Etcd.put at h
  split at h
  · cases h
  · cases h
    exact ⟨rfl, rfl⟩

omit [DecidableEq P] in
/-- What expires is gone from both places. -/
theorem expire_standing {lease : UInt64} (h : (e.expire lease).standing q = some record) :
    e.standing q = some record ∧ record.lease ≠ lease := by
  obtain ⟨hbefore, hlease⟩ := Option.filter_eq_some_iff.mp h
  exact ⟨hbefore, by simpa using hlease⟩

theorem Filed.change (hfiled : Filed cfg e) (h : Change p e written e')
    (hkey : ∀ key, written = some key → key = cfg.key p) : Filed cfg e' := by
  cases h with
  | same hrecords hstanding =>
      constructor
      · rw [hrecords, hstanding]
        exact hfiled.placed
      · rw [hstanding]
        exact hfiled.signed
  | expired lease =>
      constructor
      · intro key record hget
        obtain ⟨hbefore, hlease⟩ := Option.filter_eq_some_iff.mp hget
        obtain ⟨hstanding, hat⟩ := hfiled.placed key record hbefore
        exact ⟨Option.filter_eq_some_iff.mpr ⟨hstanding, hlease⟩, hat⟩
      · exact fun q record hq => hfiled.signed q record (expire_standing hq).1
  -- the own key has the new record, which the process now stands by
  | put key record hwriter hput =>
      obtain ⟨hrecords, hstanding⟩ := put_eq hput
      obtain rfl := hkey key rfl
      subst hwriter
      constructor
      · intro key' record' hget
        rw [hrecords] at hget
        rw [hstanding]
        by_cases hsame : key' = cfg.key record.writer
        · subst hsame
          rw [Table.set_get_self] at hget
          cases hget
          exact ⟨Function.update_self .., rfl⟩
        · rw [Table.set_get_of_ne hsame] at hget
          obtain ⟨hbefore, hat⟩ := hfiled.placed key' record' hget
          refine ⟨?_, hat⟩
          rw [Function.update_of_ne]
          · exact hbefore
          · intro hwriter
            exact hsame (hwriter ▸ hat)
      · intro q record' hq
        rw [hstanding] at hq
        by_cases hsame : q = record.writer
        · rw [hsame, Function.update_self] at hq
          cases hq
          exact hsame.symm
        · rw [Function.update_of_ne hsame] at hq
          exact hfiled.signed q record' hq
  -- the own key is free, and the process stands by nothing
  | deleted key =>
      obtain rfl := hkey key rfl
      constructor
      · intro key' record' hget
        have hsame : key' ≠ cfg.key p := by
          rintro rfl
          have hnone : (e.records.erase (cfg.key p)).get (cfg.key p) = some record' := hget
          rw [Table.erase_get_self] at hnone
          cases hnone
        have hbefore : e.records.get key' = some record' := (Table.erase_get_of_ne hsame).symm.trans hget
        obtain ⟨hstanding, hat⟩ := hfiled.placed key' record' hbefore
        refine ⟨?_, hat⟩
        show Function.update e.standing p none record'.writer = some record'
        rw [Function.update_of_ne]
        · exact hstanding
        · intro hwriter
          exact hsame (hwriter ▸ hat)
      · intro q record' hq
        have hstanding : Function.update e.standing p none q = some record' := hq
        by_cases hsame : q = p
        · rw [hsame, Function.update_self] at hstanding
          cases hstanding
        · rw [Function.update_of_ne hsame] at hstanding
          exact hfiled.signed q record' hstanding

/-- What others have filed stays if the write does not meet it. -/
theorem Filed.owned (live : P → Bool) (hfiled : Filed cfg e) (h : Change p e written e')
    (hkey : ∀ key, written = some key → key = cfg.key p)
    (howned : ∀ q record, live q = true → e.standing q = some record → e.records.get (cfg.key q) = some record)
    (hfits : ∀ key record, written = some key → e.records.get key = some record →
      record.writer = p ∨ live record.writer = false)
    (hq : live q = true) (hstanding : e'.standing q = some record) : e'.records.get (cfg.key q) = some record := by
  cases h with
  | same hrecords hsame =>
      rw [hrecords]
      rw [hsame] at hstanding
      exact howned q record hq hstanding
  -- a lease takes the record and the standing together
  | expired lease =>
      obtain ⟨hbefore, hlease⟩ := expire_standing hstanding
      exact Option.filter_eq_some_iff.mpr ⟨howned q record hq hbefore, by simpa using hlease⟩
  | put key put hwriter hput =>
      obtain ⟨hrecords, hupdate⟩ := put_eq hput
      obtain rfl := hkey key rfl
      subst hwriter
      rw [hupdate] at hstanding
      rw [hrecords]
      by_cases hsame : q = put.writer
      · subst hsame
        rw [Function.update_self] at hstanding
        cases hstanding
        exact Table.set_get_self
      · rw [Function.update_of_ne hsame] at hstanding
        have hbefore := howned q record hq hstanding
        rw [Table.set_get_of_ne]
        · exact hbefore
        · -- The key is not the one of the put: its record is of a process that runs.
          intro heq
          rcases hfits _ record rfl (heq ▸ hbefore) with hmine | hended
          · exact hsame ((hfiled.signed q record hstanding).symm.trans hmine)
          · rw [hfiled.signed q record hstanding, hq] at hended
            cases hended
  | deleted key =>
      obtain rfl := hkey key rfl
      have hbefore : Function.update e.standing p none q = some record := hstanding
      by_cases hsame : q = p
      · rw [hsame, Function.update_self] at hbefore
        cases hbefore
      · rw [Function.update_of_ne hsame] at hbefore
        have hget := howned q record hq hbefore
        refine (Table.erase_get_of_ne ?_).trans hget
        intro heq
        rcases hfits _ record rfl (heq ▸ hget) with hmine | hended
        · exact hsame ((hfiled.signed q record hbefore).symm.trans hmine)
        · rw [hfiled.signed q record hbefore, hq] at hended
          cases hended

/-- A write that meets what another process has filed takes it away. -/
theorem Filed.taken (hfiled : Filed cfg e) (h : Change p e (some key) e') (hget : e.records.get key = some record)
    (hother : record.writer ≠ p) : e'.standing record.writer = some record ∧ e'.records.get key ≠ some record := by
  have hstanding := (hfiled.placed key record hget).1
  cases h with
  | put key put hwriter hput =>
      obtain ⟨hrecords, hupdate⟩ := put_eq hput
      subst hwriter
      rw [hrecords, hupdate, Function.update_of_ne hother, Table.set_get_self]
      refine ⟨hstanding, ?_⟩
      rintro ⟨⟩
      exact hother rfl
  | deleted key =>
      refine ⟨(Function.update_of_ne hother _ _).trans hstanding, ?_⟩
      show (e.records.erase key).get key ≠ some record
      rw [Table.erase_get_self]
      simp

end Change

/-! ### Histories -/

variable [DecidableEq A] {c c' : DiscoveryFleet P A}

/-- What holds along the moves: the records are filed, what runs has what it filed, and every process writes to
its own key. -/
structure Slots (cfg : DiscoveryConfig P) (c : DiscoveryFleet P A) : Prop where
  filed : Filed cfg c.shared.1
  owned : Owned cfg c
  about : ∀ p, ∀ t, ∀ k ∈ (c.of p).tasks t, k.about (cfg.process p)

section Move

variable {m : Move (P × DiscoveryThread A) DiscoveryOp DiscoveryInput}

omit [DecidableEq P] [DecidableEq A] in
theorem Slots.created : Slots cfg (createdFleet P A) := by
  constructor
  · constructor
    · intro key record hget
      cases hget
    · intro p record hstanding
      cases hstanding
  · intro p record _ hstanding
    cases hstanding
  · intro p t k hk
    cases hk

theorem about_move {c c' : DiscoveryCrew P A} {move : Move (DiscoveryThread A) DiscoveryOp DiscoveryInput}
    (h : ∀ t, ∀ k ∈ c.tasks t, k.about (cfg.process p)) (hmove : c.move (discoveryWork A cfg p) move = some c') :
    ∀ t, ∀ k ∈ c'.tasks t, k.about (cfg.process p) := by
  cases move with
  | start t o =>
      obtain ⟨-, ks, hbegin, rfl⟩ := Crew.move_start hmove
      obtain ⟨k, rfl, hcases⟩ := begin_cases hbegin
      intro u k' hk'
      rcases Crew.mem_begun hk' with ⟨-, hnew⟩ | ⟨-, hold⟩
      · rw [List.mem_singleton.mp hnew]
        rcases hcases with ⟨-, hbegins⟩ | ⟨-, hbefalls⟩
        · exact begins_about hbegins
        · exact befalls_about hbefalls
      · exact h u k' hold
  | act t i =>
      obtain ⟨k, rest, r, ht, hexec, rfl⟩ := Crew.move_act hmove
      intro u k' hk'
      rcases Crew.mem_after hk' with ⟨rfl, hnew | hrest⟩ | ⟨-, hold⟩ | ⟨first, hfirst, hin⟩
      · exact perform_about (perform_of_exec hexec) (h u k (by rw [ht]; exact List.mem_cons_self)) hnew
      · exact h u k' (by rw [ht]; exact List.mem_cons_of_mem _ hrest)
      · exact h u k' hold
      · rcases started_cases (perform_of_exec hexec) hfirst with ⟨-, -, rfl⟩ | ⟨-, -, rfl⟩ <;>
          rw [List.mem_singleton.mp hin] <;> trivial

theorem Slots.after_about (h : Slots cfg c) (hmove : c.move (fleetWork A cfg) m = some c') (p : P) :
    ∀ t, ∀ k ∈ (c'.of p).tasks t, k.about (cfg.process p) := by
  by_cases hp : p = m.process
  · subst hp
    exact about_move (h.about _) (Crew.move_of hmove)
  · rw [Crew.move_of_ne hmove hp]
    exact h.about p

/-- What a step of a process does to what all have. -/
theorem act_shared (hmove : c.move (fleetWork A cfg) (.act (p, t) i) = some c') :
    ∃ k rest r, c.tasks (p, t) = k :: rest ∧
      k.perform cfg p (c.of p).free t i c.shared.1 (c.shared.2 p) = some r ∧
      ((c.shared.2 p).live || k.befalls) = true ∧
      c'.shared = (r.shared.1, Function.update c.shared.2 p r.shared.2) := by
  obtain ⟨k, rest, r, ht, hexec, rfl⟩ := Crew.move_many hmove
  refine ⟨k, rest, r, ht, perform_of_exec hexec, ?_, rfl⟩
  simp only [discoveryWork] at hexec
  split at hexec
  · rename_i hlive
    exact hlive
  · cases hexec

omit [DecidableEq A] in
/-- A process that has ended writes to no key. -/
theorem writes_live (h : k.writes cfg p i e d = some key) (hlive : (d.live || k.befalls) = true) : d.live = true := by
  cases k with
  | put descriptor retry => exact (Bool.or_false _).symm.trans hlive
  | delete id => exact (Bool.or_false _).symm.trans hlive
  | _ => cases h

omit [DecidableEq A] in
/-- A request does not wait. -/
theorem perform_of_writes (free : DiscoveryThread A → Bool) (t : DiscoveryThread A)
    (h : k.writes cfg p i e d = some key) : ∃ r, k.perform cfg p free t i e d = some r := by
  cases k with
  | put descriptor retry =>
      simp only [DiscoveryTask.perform]
      (repeat' split) <;> exact ⟨_, rfl⟩
  | delete id => exact ⟨_, rfl⟩
  | _ => cases h

theorem move_of_perform {c : DiscoveryFleet P A} (ht : c.tasks (p, t) = k :: rest)
    (hlive : (c.shared.2 p).live = true)
    (hp : k.perform cfg p (c.of p).free t i c.shared.1 (c.shared.2 p) = some r) :
    c.move (fleetWork A cfg) (.act (p, t) i) = some (c.after (p, t) rest (c.lifted p r)) := by
  have hexec : (discoveryWork A cfg p).exec (c.of p).free t k i (c.of p).shared = some r := by
    show (if (c.shared.2 p).live || k.befalls then _ else _) = _
    rw [hlive]
    exact hp
  have hmany : (fleetWork A cfg).exec c.free (p, t) k i c.shared = some (c.lifted p r) :=
    Option.map_eq_some_iff.mpr ⟨r, hexec, rfl⟩
  simp only [Crew.move, ht, hmany, Option.map_some]

theorem Slots.keep (h : Slots cfg c) (hfits : Uncontested cfg c m) : Slots cfg (c.step (fleetWork A cfg) m) := by
  cases hmove : c.move (fleetWork A cfg) m with
  | none =>
      rw [Crew.step, hmove]
      exact h
  | some c' =>
      rw [Crew.step, hmove]
      show Slots cfg c'
      have habout := h.after_about hmove
      cases m with
      | start t o =>
          obtain ⟨-, ks, -, rfl⟩ := Crew.move_start hmove
          exact ⟨h.filed, h.owned, habout⟩
      | act t i =>
          obtain ⟨p, t⟩ := t
          obtain ⟨k, rest, r, ht, hp, hlive, hshared⟩ := act_shared hmove
          have hchange := perform_change hp
          -- a process writes its own key only
          have hkey : ∀ key, k.writes cfg p i c.shared.1 (c.shared.2 p) = some key → key = cfg.key p := by
            intro key hwrites
            exact writes_key hwrites (h.about p t k (by
              show k ∈ c.tasks (p, t)
              rw [ht]
              exact List.mem_cons_self))
          refine ⟨?_, ?_, habout⟩
          · rw [hshared]
            exact h.filed.change hchange hkey
          · intro q record hq hstanding
            rw [hshared] at hq hstanding ⊢
            -- who runs now did so before
            have hbefore : (c.shared.2 q).live = true := by
              by_cases hqp : q = p
              · subst hqp
                apply perform_live hp
                simpa using hq
              · simpa [hqp] using hq
            refine h.filed.owned (fun q => (c.shared.2 q).live) hchange hkey h.owned ?_ hbefore hstanding
            intro key record hwrites hget
            exact hfits k rest key record ht (writes_live hwrites hlive) hwrites hget

/-- A write that meets the record of another process that runs takes what that process owns. -/
theorem Slots.lose (h : Slots cfg c) (hfits : ¬Uncontested cfg c m) : ¬Owned cfg (c.step (fleetWork A cfg) m) := by
  cases m with
  | start t o => exact absurd trivial hfits
  | act t i =>
      obtain ⟨p, t⟩ := t
      simp only [Uncontested, not_forall, not_or] at hfits
      obtain ⟨k, rest, key, record, ht, hlive, hwrites, hget, hother, hruns⟩ := hfits
      obtain ⟨r, hp⟩ := perform_of_writes (c.of p).free t hwrites
      rw [Crew.step, move_of_perform ht hlive hp]
      intro howned
      have hchange := perform_change hp
      rw [hwrites] at hchange
      obtain ⟨hstanding, hgone⟩ := h.filed.taken hchange hget hother
      have hlasts : (Function.update c.shared.2 p r.shared.2 record.writer).live = true := by
        rw [Function.update_of_ne hother]
        exact Bool.not_eq_false _ ▸ hruns
      rw [(h.filed.placed key record hget).2] at hgone
      exact hgone (howned record.writer record hlasts hstanding)

end Move

/-- **What a process has put under its key stands** until it deletes it or the lease expires, at all times of a
history, exactly if no put or delete of the history meets the record of another process that runs. -/
theorem records_owned (cfg : DiscoveryConfig P) (moves : List (Move (P × DiscoveryThread A) DiscoveryOp DiscoveryInput)) :
    Always (Crew.step (fleetWork A cfg)) (Owned cfg) (createdFleet P A) moves ↔
      Admitted (Crew.step (fleetWork A cfg)) (Uncontested cfg) (createdFleet P A) moves := by
  apply always_iff_admitted (I := Slots cfg)
  · exact Slots.created
  · exact fun c h => h.owned
  · exact fun c m h hfits => h.keep hfits
  · exact fun c m h hfits => h.lose hfits

/-! ### Two games with one id -/

/-- A game, and the same one again before the first has ended. -/
def gameTwice : DiscoveryConfig Bool where
  options _ := {}
  process again := ⟨⟨10, 1⟩, if again then 2 else 1⟩
  serializeDescriptor process := if process.process.incarnationId = 1 then "first" else "second"
  deserializeDescriptor _ := none

/-- A game registers under a lease. -/
def registering (again : Bool) : List (Move (Bool × DiscoveryThread Unit) DiscoveryOp DiscoveryInput) :=
  .start (again, .caller ()) (.registerSelf ⟨gameTwice.process again, []⟩) ::
    List.replicate 5 (.act (again, .caller ()) { lease := if again then 8 else 7 })

/-- The second game takes the slot of the first one, which still runs. -/
theorem slot_taken : ¬∀ (cfg : DiscoveryConfig Bool)
    (moves : List (Move (Bool × DiscoveryThread Unit) DiscoveryOp DiscoveryInput)),
    Always (Crew.step (fleetWork Unit cfg)) (Owned cfg) (createdFleet Bool Unit) moves := by
  intro h
  have howned := h gameTwice (registering false ++ registering true) _ List.prefix_rfl false
    ⟨"first", 7, false⟩ rfl rfl
  have hget : ((after (Crew.step (fleetWork Unit gameTwice)) (createdFleet Bool Unit)
      (registering false ++ registering true)).shared.1.records.get (gameTwice.key false)) =
      some ⟨"second", 8, true⟩ := rfl
  rw [hget] at howned
  exact absurd howned (by decide)

end EtcdDiscovery

end SomeServer
