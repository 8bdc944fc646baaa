/-
# SomeServer.Ipc.Blocking — the mutex of the node, and what its holder waits for

The holder of the mutex must not take it again, and must not join a reader that waits for it. Sections are
brackets in the tasks of a thread: `bracketed` says that none is opened inside another. What is joined comes
first among the tasks of a thread, and `calm` tasks are those that lead to no section, so that a reader with
only calm tasks comes to its end without the mutex.
-/
import SomeServer.Ipc.Connections

namespace SomeServer

open Lib

/-! ## Sections -/

/-- What a task does about the mutex; `outside` is for tasks that lead to a section. -/
inductive MutexEffect where
  | takes
  | gives
  | outside
  | neutral
deriving DecidableEq

namespace NodeTask

def effect : NodeTask → MutexEffect
  | lock => .takes
  | unlock | checkFrame _ | takeMembers | takeEvents => .gives
  | readerLoop _ | read _ | handleFrame _ | recover => .outside
  | _ => .neutral

/-- The reader that the task waits for. -/
def joins : NodeTask → Option ConnectionId
  | joinReader connectionId => some connectionId
  | finishDisconnect connectionId true => some connectionId
  | _ => none

/-- Nothing that the task leads to takes the mutex, unless a data frame is read. -/
def calm : NodeTask → Bool
  | storeReader _ | notify _ | flushLinkFrames | send _ | handleDisconnect _ | finishDisconnect .. | joinAccept
  | joinReader _ | readerLoop _ | read _ => true
  | handleFrame frame => frame.header.kind ≠ .data
  | _ => false

end NodeTask

/-- No section inside another, from a point where the mutex is held or not. -/
def bracketed : Bool → List NodeTask → Bool
  | held, [] => !held
  | held, k :: ks =>
      match k.effect with
      | .takes => !held && bracketed true ks
      | .gives => held && bracketed false ks
      | .outside => !held && bracketed held ks
      | .neutral => bracketed held ks

/-- Only what is joined comes before what is joined. -/
def joinsFirst : List NodeTask → Prop
  | [] => True
  | .joinAccept :: ks => joinsFirst ks
  | .joinReader _ :: ks => joinsFirst ks
  | _ :: ks => ∀ k ∈ ks, k.joins = none

def NodeOp.takesMutex (o : NodeOp) : Bool := o.tasks.any fun k => k.effect = .takes

variable {A : Type} [DecidableEq A]

namespace IpcNode

/-- No holder of the mutex is about to take it, or to join a reader that is about to take it. -/
def NotBlocked (c : NodeCrew A) : Prop :=
  ∀ t k rest, c.shared.mutex = some t → c.tasks t = k :: rest →
    k ≠ .lock ∧ ∀ id, k.joins = some id → ∀ rest', c.tasks (.reader id) ≠ .lock :: rest'

/-- The holder of the mutex waits, now or after what it waits for now, for the reader of the connection. -/
def Awaits (c : NodeCrew A) (id : ConnectionId) : Prop :=
  ∃ t k, c.shared.mutex = some t ∧ k ∈ c.tasks t ∧ k.joins = some id

/-- The reader of the connection comes to its end without the mutex, unless it gets a data frame. -/
def Calm (c : NodeCrew A) (id : ConnectionId) : Prop := ∀ k ∈ c.tasks (.reader id), k.calm = true

/-- When a step endangers nobody: handlers that run under the mutex do not take it, its holder takes the
handles of calm readers only, and a reader that it waits for gets no data frame any more. -/
structure Careful (c : NodeCrew A) (t : NodeThread A) (i : NodeInput) (k : NodeTask) : Prop where
  handlers : ∀ target envelope, k = .dispatch target envelope → c.shared.mutex = some t →
    ∀ o ∈ i.calls, o.takesMutex = false
  disconnect : ∀ id connection, k = .handleDisconnect id → c.shared.mutex = some t →
    c.shared.connections.get id = some connection → connection.readerStored = true → t ≠ .reader id → Calm c id
  shutdown : ∀ id connection, k = .shutdown → c.shared.mutex = some t →
    c.shared.connections.get id = some connection → connection.readerStored = true → Calm c id
  data : ∀ id frame, k = .read id → i.frame = some frame → frame.header.kind = .data → ¬Awaits c id

/-- Every step is a careful one. -/
def Carefully (c : NodeCrew A) : Move (NodeThread A) NodeOp NodeInput → Prop
  | .start _ _ => True
  | .act t i => ∀ k rest, c.tasks t = k :: rest → Careful c t i k

end IpcNode

/-! ### Lists of tasks -/

section Lists

variable {held : Bool} {ks ks' : List NodeTask} {k : NodeTask}

theorem bracketed_append (h : bracketed held ks = true) (h' : bracketed false ks' = true) :
    bracketed held (ks ++ ks') = true := by
  induction ks generalizing held with
  | nil =>
      simp only [bracketed, Bool.not_eq_true'] at h
      subst h
      exact h'
  | cons k ks ih =>
      simp only [List.cons_append, bracketed] at h ⊢
      cases hk : k.effect with
      | takes =>
          simp only [hk, Bool.and_eq_true] at h ⊢
          exact ⟨h.1, ih h.2⟩
      | gives =>
          simp only [hk, Bool.and_eq_true] at h ⊢
          exact ⟨h.1, ih h.2⟩
      | outside =>
          simp only [hk, Bool.and_eq_true] at h ⊢
          exact ⟨h.1, ih h.2⟩
      | neutral =>
          simp only [hk] at h ⊢
          exact ih h

theorem bracketed_append_neutral (h : ∀ k ∈ ks, k.effect = .neutral) (h' : bracketed held ks' = true) :
    bracketed held (ks ++ ks') = true := by
  induction ks with
  | nil => exact h'
  | cons k ks ih =>
      simp only [List.cons_append, bracketed, h k List.mem_cons_self]
      exact ih fun k' hk' => h k' (List.mem_cons_of_mem _ hk')

theorem bracketed_flatMap {α : Type} {f : α → List NodeTask} (h : ∀ x, bracketed false (f x) = true) (xs : List α) :
    bracketed false (xs.flatMap f) = true := by
  induction xs with
  | nil => rfl
  | cons x xs ih => exact bracketed_append (h x) ih

theorem joinsFirst_of_none (h : ∀ k ∈ ks, k.joins = none) : joinsFirst ks := by
  induction ks with
  | nil => trivial
  | cons k ks ih =>
      have htail : ∀ k' ∈ ks, k'.joins = none := fun k' hk' => h k' (List.mem_cons_of_mem _ hk')
      unfold joinsFirst
      split
      · trivial
      · rename_i heq
        cases heq
        exact ih htail
      · rename_i heq
        cases heq
        exact ih htail
      · rename_i heq
        cases heq
        exact htail

/-- Behind a task that does more than wait for a thread, nothing waits for a reader. -/
theorem joinsFirst_tail (h : joinsFirst (k :: ks)) (haccept : k ≠ .joinAccept)
    (hreader : ∀ id, k ≠ .joinReader id) : ∀ k' ∈ ks, k'.joins = none := by
  unfold joinsFirst at h
  split at h
  · rename_i heq
    cases heq
  · rename_i heq
    cases heq
    exact absurd rfl haccept
  · rename_i id _ heq
    cases heq
    exact absurd rfl (hreader id)
  · rename_i heq
    cases heq
    exact h

theorem joinsFirst_readers {ids : List ConnectionId} (h : ∀ k ∈ ks, k.joins = none) :
    joinsFirst (ids.map .joinReader ++ ks) := by
  induction ids with
  | nil => exact joinsFirst_of_none h
  | cons id ids ih => exact ih

theorem NodeOp.tasks_bracketed (o : NodeOp) : bracketed false o.tasks = true := by
  cases o <;> rfl

theorem MembershipEvent.tasks_bracketed (event : MembershipEvent) : bracketed false event.tasks = true := by
  obtain ⟨type, process⟩ := event
  cases type <;> rfl

theorem NodeTask.joins_of_inner (h : k.inner = false) : k.joins = none := by
  cases k <;> first | rfl | cases h

/-- A call that does not take the mutex has nothing to do with it. -/
theorem NodeOp.tasks_neutral {o : NodeOp} (h : o.takesMutex = false) (hk : k ∈ o.tasks) : k.effect = .neutral := by
  cases o with
  | watchRefresh =>
      obtain rfl := List.mem_singleton.mp hk
      rfl
  | transportSend frame =>
      obtain rfl := List.mem_singleton.mp hk
      rfl
  | transportClose id =>
      obtain rfl := List.mem_singleton.mp hk
      rfl
  | _ => exact absurd h (by simp [NodeOp.takesMutex, NodeOp.tasks, NodeTask.effect])

end Lists

/-! ### What a task does about the mutex -/

namespace IpcNode

variable {cfg : NodeConfig} {free : NodeThread A → Bool} {t u : NodeThread A} {i : NodeInput} {s : IpcNode A}
  {k k' : NodeTask} {rest : List NodeTask} {p : Performed (NodeThread A) NodeTask (IpcNode A)} {id : ConnectionId}
  {guard : NodeCrew A → Move (NodeThread A) NodeOp NodeInput → Prop} {c c₀ : NodeCrew A}

/-- Only sections begin and end with the mutex. -/
theorem perform_mutex (h : k.perform cfg free t i s = some p) (htakes : k.effect ≠ .takes)
    (hgives : k.effect ≠ .gives) : p.shared.mutex = s.mutex := by
  cases k <;> first
    | exact absurd rfl htakes
    | exact absurd rfl hgives
    | (simp only [NodeTask.perform] at h
       (repeat' split at h) <;> first
         | (obtain rfl := Option.some.inj h; rfl)
         | contradiction)

theorem perform_takes (h : k.perform cfg free t i s = some p) (htakes : k.effect = .takes) :
    s.mutex = none ∧ p.shared.mutex = some t ∧ p.tasks = [] ∧ k = .lock := by
  cases k with
  | lock =>
      simp only [NodeTask.perform] at h
      split at h
      · rename_i hmutex
        obtain rfl := Option.some.inj h
        exact ⟨hmutex, rfl, rfl, rfl⟩
      · cases h
  | _ => cases htakes

theorem perform_gives (h : k.perform cfg free t i s = some p) (hgives : k.effect = .gives) :
    p.shared.mutex = none ∧ bracketed false p.tasks = true := by
  cases k with
  | unlock =>
      obtain rfl := Option.some.inj h
      exact ⟨rfl, rfl⟩
  | checkFrame frame =>
      obtain rfl := Option.some.inj h
      refine ⟨rfl, ?_⟩
      show bracketed false (if _ then _ else _) = true
      split
      · split <;> rfl
      · rfl
  | takeMembers =>
      obtain rfl := Option.some.inj h
      exact ⟨rfl, bracketed_flatMap (fun _ => rfl) _⟩
  | takeEvents =>
      obtain rfl := Option.some.inj h
      exact ⟨rfl, bracketed_flatMap MembershipEvent.tasks_bracketed _⟩
  | _ => cases hgives

theorem perform_outside (h : k.perform cfg free t i s = some p) (houtside : k.effect = .outside) :
    bracketed false p.tasks = true := by
  cases k with
  | readerLoop d | read d | handleFrame frame | recover =>
      simp only [NodeTask.perform] at h
      (repeat' split at h) <;> (obtain rfl := Option.some.inj h; rfl)
  | _ => cases houtside

/-- Handlers apart, what has nothing to do with the mutex leads to what has nothing to do with it. -/
theorem perform_neutral (h : k.perform cfg free t i s = some p) (hneutral : k.effect = .neutral)
    (hdispatch : ∀ target envelope, k ≠ .dispatch target envelope) (hk : k' ∈ p.tasks) : k'.effect = .neutral := by
  cases k with
  | dispatch target envelope => exact absurd rfl (hdispatch target envelope)
  | lock | unlock | checkFrame _ | takeMembers | takeEvents | readerLoop _ | read _ | handleFrame _ | recover =>
      cases hneutral
  | _ =>
      simp only [NodeTask.perform] at h
      (repeat' split at h) <;> first
        | (obtain rfl := Option.some.inj h; grind [NodeTask.effect])
        | contradiction

/-- Sections stay apart. -/
theorem perform_bracketed (h : k.perform cfg free t i s = some p)
    (hb : bracketed (decide (s.mutex = some t)) (k :: rest) = true)
    (hcalls : ∀ target envelope, k = .dispatch target envelope → s.mutex = some t →
      ∀ o ∈ i.calls, o.takesMutex = false) :
    bracketed (decide (p.shared.mutex = some t)) (p.tasks ++ rest) = true := by
  cases heffect : k.effect with
  | takes =>
      obtain ⟨-, hmutex, htasks, -⟩ := perform_takes h heffect
      simp only [bracketed, heffect, Bool.and_eq_true] at hb
      simpa [hmutex, htasks] using hb.2
  | gives =>
      obtain ⟨hmutex, htasks⟩ := perform_gives h heffect
      simp only [bracketed, heffect, Bool.and_eq_true] at hb
      simpa [hmutex] using bracketed_append htasks hb.2
  | outside =>
      have hmutex := perform_mutex h (by simp [heffect]) (by simp [heffect])
      simp only [bracketed, heffect, Bool.and_eq_true, Bool.not_eq_true'] at hb
      rw [hmutex, hb.1]
      rw [hb.1] at hb
      exact bracketed_append (perform_outside h heffect) hb.2
  | neutral =>
      have hmutex := perform_mutex h (by simp [heffect]) (by simp [heffect])
      simp only [bracketed, heffect] at hb
      rw [hmutex]
      -- only a dispatch brings calls of others, which take the mutex themselves
      by_cases hdispatch : ∃ target envelope, k = .dispatch target envelope
      · obtain ⟨target, envelope, rfl⟩ := hdispatch
        obtain rfl := Option.some.inj h
        by_cases hheld : s.mutex = some t
        · apply bracketed_append_neutral _ hb
          intro k' hk'
          obtain ⟨o, ho, hk'⟩ := List.mem_flatMap.mp hk'
          exact NodeOp.tasks_neutral (hcalls target envelope rfl hheld o ho) hk'
        · have hfalse : decide (s.mutex = some t) = false := decide_eq_false hheld
          rw [hfalse] at hb ⊢
          exact bracketed_append (bracketed_flatMap NodeOp.tasks_bracketed _) hb
      · apply bracketed_append_neutral _ hb
        intro k' hk'
        exact perform_neutral h heffect (fun target envelope heq => hdispatch ⟨target, envelope, heq⟩) hk'

/-! ### What is joined -/

/-- A reader is joined by who has taken its handle. -/
theorem perform_joins (h : k.perform cfg free t i s = some p) (hk : k' ∈ p.tasks) (hjoins : k'.joins = some id) :
    ∃ connection, s.connections.get id = some connection ∧ connection.readerStored = true ∧
      ((k = .handleDisconnect id ∧ t ≠ .reader id) ∨ k = .shutdown) := by
  cases k with
  -- the handle of a reader is taken by these two alone
  | handleDisconnect d =>
      simp only [NodeTask.perform] at h
      split at h
      · obtain rfl := Option.some.inj h
        cases hk
      · rename_i connection hd
        obtain rfl := Option.some.inj h
        obtain rfl := List.mem_singleton.mp hk
        cases htaken : connection.readerStored && decide (t ≠ .reader d) with
        | false =>
            rw [htaken] at hjoins
            cases hjoins
        | true =>
            rw [htaken] at hjoins
            cases hjoins
            simp only [Bool.and_eq_true, decide_eq_true_eq] at htaken
            exact ⟨connection, hd, htaken.1, .inl ⟨rfl, htaken.2⟩⟩
  | shutdown =>
      simp only [NodeTask.perform] at h
      split at h
      · cases h
      · obtain rfl := Option.some.inj h
        rcases List.mem_cons.mp hk with rfl | hk
        · cases hjoins
        · obtain ⟨d, hd, rfl⟩ := List.mem_map.mp hk
          cases hjoins
          obtain ⟨connection, hget, hstored⟩ := (Option.any_eq_true _ _).mp (List.mem_filter.mp hd).2
          exact ⟨connection, hget, hstored, .inr rfl⟩
  | dispatch target envelope =>
      obtain rfl := Option.some.inj h
      rw [NodeTask.joins_of_inner (NodeOp.flatMap_tasks_inner hk)] at hjoins
      cases hjoins
  | takeEvents =>
      obtain rfl := Option.some.inj h
      rw [NodeTask.joins_of_inner (MembershipEvent.flatMap_tasks_inner hk)] at hjoins
      cases hjoins
  | _ =>
      simp only [NodeTask.perform] at h
      (repeat' split at h) <;> first
        | (obtain rfl := Option.some.inj h; grind [NodeTask.joins])
        | contradiction

/-- What is joined comes first. -/
theorem perform_joinsFirst (h : k.perform cfg free t i s = some p) (hrest : joinsFirst (k :: rest)) :
    joinsFirst (p.tasks ++ rest) := by
  -- a wait is over when it is done, and otherwise nothing behind it is one
  by_cases hwaits : k = .joinAccept ∨ ∃ d, k = .joinReader d
  · rcases hwaits with rfl | ⟨d, rfl⟩
    · simp only [NodeTask.perform] at h
      split at h
      · obtain rfl := Option.some.inj h
        exact hrest
      · cases h
    · simp only [NodeTask.perform] at h
      split at h
      · obtain rfl := Option.some.inj h
        exact hrest
      · cases h
  · have hnone := joinsFirst_tail hrest (fun heq => hwaits (.inl heq)) fun d heq => hwaits (.inr ⟨d, heq⟩)
    cases k with
    | handleDisconnect d =>
        simp only [NodeTask.perform] at h
        split at h
        · obtain rfl := Option.some.inj h
          exact joinsFirst_of_none hnone
        · obtain rfl := Option.some.inj h
          exact hnone
    | shutdown =>
        simp only [NodeTask.perform] at h
        split at h
        · cases h
        · obtain rfl := Option.some.inj h
          exact joinsFirst_readers hnone
    | _ =>
        apply joinsFirst_of_none
        intro k' hk'
        rcases List.mem_append.mp hk' with hnew | hold
        · by_contra hjoins
          obtain ⟨d, hd⟩ := Option.ne_none_iff_exists'.mp hjoins
          obtain ⟨-, -, -, ⟨heq, -⟩ | heq⟩ := perform_joins h hnew hd
          · cases heq
          · cases heq
        · exact hnone k' hold

/-- Calm tasks lead to calm tasks, unless a data frame is read. -/
theorem perform_calm (h : k.perform cfg free t i s = some p) (hcalm : k.calm = true)
    (hdata : ∀ d frame, k = .read d → i.frame = some frame → frame.header.kind ≠ .data) (hk : k' ∈ p.tasks) :
    k'.calm = true := by
  cases k with
  | read d =>
      simp only [NodeTask.perform] at h
      split at h
      · obtain rfl := Option.some.inj h
        obtain rfl := List.mem_singleton.mp hk
        rfl
      · rename_i frame hframe
        obtain rfl := Option.some.inj h
        rcases List.mem_cons.mp hk with rfl | hk
        · have hkind : (frame.on d).header.kind ≠ .data := hdata d frame rfl hframe
          simpa [NodeTask.calm] using hkind
        · obtain rfl := List.mem_singleton.mp hk
          rfl
  | handleFrame frame =>
      have hkind : frame.header.kind ≠ .data := by simpa [NodeTask.calm] using hcalm
      simp only [NodeTask.perform] at h
      (repeat' split at h) <;> (obtain rfl := Option.some.inj h; grind [NodeTask.calm])
  | storeReader _ | notify _ | flushLinkFrames | send _ | handleDisconnect _ | finishDisconnect _ _ | joinAccept
  | joinReader _ | readerLoop _ =>
      simp only [NodeTask.perform] at h
      (repeat' split at h) <;> first
        | (obtain rfl := Option.some.inj h; grind [NodeTask.calm])
        | contradiction
  | _ => cases hcalm

/-! ### The invariant -/

structure Unblocked (c : NodeCrew A) : Prop where
  sections : ∀ t, bracketed (decide (c.shared.mutex = some t)) (c.tasks t) = true
  joins : ∀ t, joinsFirst (c.tasks t)
  calm : ∀ id, Awaits c id → Calm c id

theorem Unblocked.notBlocked (h : Unblocked c) : NotBlocked c := by
  intro t k rest hmutex ht
  constructor
  · rintro rfl
    have hb := h.sections t
    rw [ht, hmutex] at hb
    simp [bracketed, NodeTask.effect] at hb
  · intro id hjoins rest' hreader
    have hcalm := h.calm id ⟨t, k, hmutex, by rw [ht]; exact List.mem_cons_self, hjoins⟩ .lock
      (by rw [hreader]; exact List.mem_cons_self)
    cases hcalm

theorem Unblocked.start {a : A} {o : NodeOp} (h : Unblocked c) (hidle : c.tasks (.caller a) = []) :
    Unblocked (c.begun (.caller a) o.tasks) where
  sections := by
    intro t
    by_cases ht : t = .caller a
    · subst ht
      have hb := h.sections (.caller a)
      rw [hidle] at hb
      simp only [bracketed, Bool.not_eq_true'] at hb
      rw [Crew.begun_shared, Crew.begun_tasks_self, hb]
      exact NodeOp.tasks_bracketed o
    · rw [Crew.begun_shared, Crew.begun_tasks_of_ne ht]
      exact h.sections t
  joins := by
    intro t
    by_cases ht : t = .caller a
    · subst ht
      rw [Crew.begun_tasks_self]
      exact joinsFirst_of_none fun k hk => NodeTask.joins_of_inner (NodeOp.tasks_inner hk)
    · rw [Crew.begun_tasks_of_ne ht]
      exact h.joins t
  calm := by
    rintro id ⟨t, k, hmutex, hk, hjoins⟩ k' hk'
    rw [Crew.begun_tasks_of_ne (by simp)] at hk'
    rcases Crew.mem_begun hk with ⟨-, hnew⟩ | ⟨-, hold⟩
    · rw [NodeTask.joins_of_inner (NodeOp.tasks_inner hnew)] at hjoins
      cases hjoins
    · exact h.calm id ⟨t, k, hmutex, hold, hjoins⟩ k' hk'

/-- What the tasks of a thread are after a step: its own, or those of a thread that it was not. -/
theorem tasks_after (hapart : ReadersApart c) (ht : c.tasks t = k :: rest)
    (hp : k.perform cfg c.free t i c.shared = some p) (u : NodeThread A) :
    (u = t ∧ (c.after t rest p).tasks u = p.tasks ++ rest) ∨
      (u ≠ t ∧ (c.after t rest p).tasks u = c.tasks u) ∨
      (c.tasks u = [] ∧ ∃ d, (c.after t rest p).tasks u = [.readerLoop d]) := by
  have hfresh := hapart.fresh_of hp
  by_cases hu : u = t
  · subst hu
    exact .inl ⟨rfl, hfresh.tasks_self ht⟩
  · by_cases hstart : ∃ first, p.started = some (u, first)
    · obtain ⟨first, hfirst⟩ := hstart
      obtain ⟨-, rfl⟩ := started_reads hp hfirst
      exact .inr (.inr ⟨hfresh u _ hfirst, c.shared.newId, Crew.after_tasks_started hfirst⟩)
    · exact .inr (.inl ⟨hu, Crew.after_tasks_of_ne hu fun first hfirst => hstart ⟨first, hfirst⟩⟩)

/-- Who holds the mutex after a step and did not take it held it before. -/
theorem mutex_before (hp : k.perform cfg c.free t i c.shared = some p) (hlock : k ≠ .lock)
    (hmutex : p.shared.mutex = some u) : c.shared.mutex = some u := by
  cases heffect : k.effect with
  | takes => exact absurd (perform_takes hp heffect).2.2.2 hlock
  | gives =>
      rw [(perform_gives hp heffect).1] at hmutex
      cases hmutex
  | outside => rwa [perform_mutex hp (by simp [heffect]) (by simp [heffect])] at hmutex
  | neutral => rwa [perform_mutex hp (by simp [heffect]) (by simp [heffect])] at hmutex

/-- A thread that does not step holds the mutex after the step if it did before. -/
theorem mutex_of_other (h : Unblocked c) (ht : c.tasks t = k :: rest)
    (hp : k.perform cfg c.free t i c.shared = some p) (hu : u ≠ t) :
    decide (p.shared.mutex = some u) = decide (c.shared.mutex = some u) := by
  have hb := h.sections t
  rw [ht] at hb
  cases heffect : k.effect with
  | takes =>
      obtain ⟨hnone, hsome, -⟩ := perform_takes hp heffect
      simp [hnone, hsome, Ne.symm hu]
  | gives =>
      simp only [bracketed, heffect, Bool.and_eq_true, decide_eq_true_eq] at hb
      simp [(perform_gives hp heffect).1, hb.1, Ne.symm hu]
  | outside => rw [perform_mutex hp (by simp [heffect]) (by simp [heffect])]
  | neutral => rw [perform_mutex hp (by simp [heffect]) (by simp [heffect])]

/-- A calm reader stays calm as long as it is waited for. -/
theorem Calm.after (hapart : ReadersApart c) (hcareful : Careful c t i k) (ht : c.tasks t = k :: rest)
    (hp : k.perform cfg c.free t i c.shared = some p) (hcalm : Calm c id) (hawaits : Awaits c id) :
    Calm (c.after t rest p) id := by
  intro k' hk'
  rcases tasks_after hapart ht hp (.reader id) with ⟨rfl, hsame⟩ | ⟨-, hsame⟩ | ⟨-, d, hnew⟩
  · rw [hsame] at hk'
    rcases List.mem_append.mp hk' with hnew | hold
    · apply perform_calm hp (hcalm k (by rw [ht]; exact List.mem_cons_self)) _ hnew
      rintro d frame rfl hframe hkind
      have hd : NodeThread.reader (A := A) id = .reader d :=
        hapart.own _ (.read d) d (by rw [ht]; exact List.mem_cons_self) rfl
      cases hd
      exact hcareful.data id frame rfl hframe hkind hawaits
    · exact hcalm k' (by rw [ht]; exact List.mem_cons_of_mem _ hold)
  · rw [hsame] at hk'
    exact hcalm k' hk'
  · rw [hnew] at hk'
    obtain rfl := List.mem_singleton.mp hk'
    rfl

theorem Unblocked.act (hapart : ReadersApart c) (h : Unblocked c) (hcareful : Careful c t i k)
    (ht : c.tasks t = k :: rest) (hp : k.perform cfg c.free t i c.shared = some p) :
    Unblocked (c.after t rest p) := by
  constructor
  · intro u
    rw [Crew.after_shared]
    rcases tasks_after hapart ht hp u with ⟨rfl, hsame⟩ | ⟨hu, hsame⟩ | ⟨hnil, d, hnew⟩
    · rw [hsame]
      exact perform_bracketed hp (ht ▸ h.sections u) hcareful.handlers
    · rw [hsame, mutex_of_other h ht hp hu]
      exact h.sections u
    · have hu : u ≠ t := by
        rintro rfl
        rw [hnil] at ht
        cases ht
      have hb := h.sections u
      rw [hnil] at hb
      simp only [bracketed, Bool.not_eq_true'] at hb
      rw [hnew, mutex_of_other h ht hp hu, hb]
      rfl
  · intro u
    rcases tasks_after hapart ht hp u with ⟨rfl, hsame⟩ | ⟨-, hsame⟩ | ⟨-, d, hnew⟩
    · rw [hsame]
      exact perform_joinsFirst hp (ht ▸ h.joins u)
    · rw [hsame]
      exact h.joins u
    · rw [hnew]
      exact joinsFirst_of_none (by simp [NodeTask.joins])
  · rintro id ⟨u, k', hmutex, hk', hjoins⟩
    rw [Crew.after_shared] at hmutex
    -- who takes the mutex has nothing to join behind
    have hbehind : k = .lock → ∀ k'' ∈ rest, k''.joins = none := by
      rintro rfl
      exact joinsFirst_tail (ht ▸ h.joins t) (by simp) (by simp)
    rcases Crew.mem_after hk' with ⟨rfl, hnew | hold⟩ | ⟨hu, hold⟩ | ⟨first, hfirst, hin⟩
    · -- The step itself takes the handle of the reader.
      obtain ⟨connection, hget, hstored, ⟨rfl, htu⟩ | rfl⟩ := perform_joins hp hnew hjoins
      · have hbefore := mutex_before hp (by simp) hmutex
        have hcalm := hcareful.disconnect id connection rfl hbefore hget hstored htu
        intro k'' hk''
        rcases tasks_after hapart ht hp (.reader id) with ⟨heq, -⟩ | ⟨-, hsame⟩ | ⟨-, d, hsame⟩
        · exact absurd heq.symm htu
        · exact hcalm k'' (hsame ▸ hk'')
        · rw [hsame] at hk''
          obtain rfl := List.mem_singleton.mp hk''
          rfl
      · have hbefore := mutex_before hp (by simp) hmutex
        have hcalm := hcareful.shutdown id connection rfl hbefore hget hstored
        intro k'' hk''
        rcases tasks_after hapart ht hp (.reader id) with ⟨rfl, -⟩ | ⟨-, hsame⟩ | ⟨-, d, hsame⟩
        · cases hcalm .shutdown (by rw [ht]; exact List.mem_cons_self)
        · exact hcalm k'' (hsame ▸ hk'')
        · rw [hsame] at hk''
          obtain rfl := List.mem_singleton.mp hk''
          rfl
    -- a join that was before the thread already
    · have hlock : k ≠ .lock := by
        intro hlock
        rw [hbehind hlock k' hold] at hjoins
        cases hjoins
      have hawaits : Awaits c id :=
        ⟨u, k', mutex_before hp hlock hmutex, by rw [ht]; exact List.mem_cons_of_mem _ hold, hjoins⟩
      exact (h.calm id hawaits).after hapart hcareful ht hp hawaits
    -- a join of another thread, which has the mutex
    · have hlock : k ≠ .lock := by
        rintro rfl
        obtain ⟨-, hsome, -⟩ := perform_takes hp rfl
        rw [hsome] at hmutex
        exact hu (Option.some.inj hmutex).symm
      have hawaits : Awaits c id := ⟨u, k', mutex_before hp hlock hmutex, hold, hjoins⟩
      exact (h.calm id hawaits).after hapart hcareful ht hp hawaits
    · obtain ⟨-, rfl⟩ := started_reads hp hfirst
      obtain rfl := List.mem_singleton.mp hin
      cases hjoins

theorem Unblocked.initial (h : Started c) : Unblocked c := by
  constructor
  · intro u
    rw [h.mutex]
    rcases h.tasks_cases u with hu | hu
    · rw [hu]
      rfl
    · rw [hu]
      rfl
  · intro u
    apply joinsFirst_of_none
    intro k hk
    obtain rfl := h.mem hk
    rfl
  · rintro id ⟨u, k, hmutex, -⟩
    rw [h.mutex] at hmutex
    cases hmutex

/-- If every step is careful, no holder of the mutex is about to take it again, or to join a reader that is about
to take it. -/
theorem not_blocked (cfg : NodeConfig) (c₀ c : NodeCrew A) (h₀ : Started c₀)
    (h : Crew.Run (nodeWork A cfg) Carefully c₀ c) : NotBlocked c := by
  have hboth : ReadersApart c ∧ Unblocked c := by
    refine node_invariant (I := fun c => ReadersApart c ∧ Unblocked c)
      ⟨ReadersApart.initial h₀, Unblocked.initial h₀⟩ ?_ ?_ h
    · intro c a o hc hidle
      exact ⟨hc.1.start, hc.2.start hidle⟩
    · intro c t k rest i p hc hcareful ht _ hp
      exact ⟨hc.1.act ht hp, hc.2.act hc.1 (hcareful k rest ht) ht hp⟩
  exact hboth.2.notBlocked

/-! ### A runtime that is unloaded while a frame comes in -/

def calling : Move (NodeThread Unit) NodeOp NodeInput := .act (.caller ()) { order := [1] }

/-- The reader gets a data frame. -/
def readingData : Move (NodeThread Unit) NodeOp NodeInput := .act (.reader 1) { frame := some (dataFrame 1 []) }

/-- A connection is there, and has brought a data frame. -/
def dataArrived : List (Move (NodeThread Unit) NodeOp NodeInput) :=
  [accepting, accepting, accepting, accepting, accepting, accepting] ++ [reading, readingData, reading]

def unloading : List (Move (NodeThread Unit) NodeOp NodeInput) :=
  [.start (.caller ()) .unloadIpcRuntime] ++
    [calling, calling, calling, calling, calling, calling, calling] ++ [accepting, calling]

/-- `Carefully`, as far as it shows without a look at the readers. -/
def careful? (c : NodeCrew Unit) : Move (NodeThread Unit) NodeOp NodeInput → Bool
  | .start _ _ => true
  | .act t i =>
      match c.tasks t with
      | .dispatch _ _ :: _ => false
      | .handleDisconnect _ :: _ => c.shared.mutex.isNone
      | .shutdown :: _ => false
      | .read _ :: _ => c.shared.mutex.isNone || i.frame.isNone
      | _ => true

theorem carefully_of {c : NodeCrew Unit} {m : Move (NodeThread Unit) NodeOp NodeInput} (h : careful? c m = true) :
    Carefully c m := by
  cases m with
  | start t o => trivial
  | act t i =>
      intro k rest ht
      simp only [careful?, ht] at h
      constructor
      · rintro target envelope rfl
        cases h
      · rintro id connection rfl hmutex
        simp [hmutex] at h
      · rintro id connection rfl
        cases h
      · rintro id frame rfl hframe _ ⟨u, k', hmutex, -⟩
        simp [hmutex, hframe] at h

theorem not_blocked_receiving : ∃ c : NodeCrew Unit, Crew.Run (nodeWork Unit gameConfig) Carefully gameAlone c ∧
    (c.tasks (.reader 1)).head?.map NodeTask.effect = some .takes ∧ NotBlocked c := by
  have hplay : (gameAlone.play (nodeWork Unit gameConfig) careful? dataArrived).map
      (fun c => (c.tasks (.reader 1)).head?.map NodeTask.effect) = some (some .takes) := rfl
  obtain ⟨c, hc, hhead⟩ := Option.map_eq_some_iff.mp hplay
  have hrun := Crew.Run.play (fun _ _ => carefully_of) Crew.Run.refl hc
  exact ⟨c, hrun, hhead, not_blocked gameConfig gameAlone c (loaded_started _ _) hrun⟩

/-- The holder of the mutex waits for a reader that waits for the mutex. -/
theorem unload_blocks : ¬∀ (cfg : NodeConfig) (c₀ c : NodeCrew Unit), Started c₀ →
    Crew.Run (nodeWork Unit cfg) (fun _ _ => True) c₀ c → NotBlocked c := by
  intro h
  have hplay : (gameAlone.play (nodeWork Unit gameConfig) (fun _ _ => true) (dataArrived ++ unloading)).map
      (fun c => (c.shared.mutex, c.tasks (.caller ()), c.tasks (.reader 1))) =
      some (some (.caller ()), [.joinReader 1, .unlock], [.lock, .checkFrame (dataFrame 1 []), .readerLoop 1]) := rfl
  obtain ⟨c, hc, hfacts⟩ := Option.map_eq_some_iff.mp hplay
  simp only [Prod.mk.injEq] at hfacts
  obtain ⟨hmutex, hcaller, hreader⟩ := hfacts
  have hrun : Crew.Run (nodeWork Unit gameConfig) (fun _ _ => True) gameAlone c :=
    Crew.Run.play (fun _ _ _ => trivial) Crew.Run.refl hc
  exact (h gameConfig gameAlone c (loaded_started _ _) hrun _ _ _ hmutex hcaller).2 1 rfl _ hreader

end IpcNode

end SomeServer
