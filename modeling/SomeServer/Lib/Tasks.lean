/-
# SomeServer.Lib.Tasks — threads that have tasks before them

A thread has a list of tasks, the next one first: what is left of the calls it is in. Performing a task
changes what the threads share, puts the tasks that it leads to in its place, and may start a thread. So
calls nest as deep as they like, and a loop is a task that leads to itself. A task that has to wait, for a
mutex or for the end of another thread, is not performed yet.

`Crew.Run` collects the moves that a guard admits, as `Run` does for pools; `Crew.Run.invariant` is the
induction over them.
-/
import SomeServer.Lib.Pool

namespace SomeServer.Lib

variable {T O K ι σ : Type}

/-- What performing a task comes to: the shared state, the tasks in its place, and a thread that it starts. -/
structure Performed (T K σ : Type) where
  shared : σ
  tasks : List K := []
  started : Option (T × List K) := none

/-- What operations and tasks mean. A thread may not be one that starts the operation; `exec` is told which
threads have nothing left to do, and is `none` when the task has to wait. -/
structure TaskSystem (T O K ι σ : Type) where
  begin : T → O → Option (List K)
  exec : (T → Bool) → T → K → ι → σ → Option (Performed T K σ)

/-- One shared state, and the tasks of each thread. -/
structure Crew (T K σ : Type) where
  shared : σ
  tasks : T → List K

namespace Crew

/-- A thread with nothing left to do. -/
def free (c : Crew T K σ) (t : T) : Bool := (c.tasks t).isEmpty

theorem free_iff {c : Crew T K σ} {t : T} : c.free t = true ↔ c.tasks t = [] := List.isEmpty_iff

/-- Some thread has a task of this kind before it. -/
def Pending (c : Crew T K σ) (P : K → Prop) : Prop := ∃ t, ∃ k ∈ c.tasks t, P k

variable [DecidableEq T]

/-- The crew after a thread has begun a call. -/
def begun (c : Crew T K σ) (t : T) (ks : List K) : Crew T K σ := ⟨c.shared, Function.update c.tasks t ks⟩

/-- The crew after the first task of a thread, with these tasks behind it. -/
def after (c : Crew T K σ) (t : T) (rest : List K) (p : Performed T K σ) : Crew T K σ where
  shared := p.shared
  tasks :=
    let tasks := Function.update c.tasks t (p.tasks ++ rest)
    match p.started with
    | none => tasks
    | some (u, first) => Function.update tasks u first

/-- One move, `none` when it is not possible. -/
def move (W : TaskSystem T O K ι σ) (c : Crew T K σ) : Move T O ι → Option (Crew T K σ)
  | .start t o =>
      if c.free t then (W.begin t o).map (c.begun t) else none
  | .act t i =>
      match c.tasks t with
      | [] => none
      | k :: rest => (W.exec c.free t k i c.shared).map (c.after t rest)

/-- One move, if it is possible. -/
def step (W : TaskSystem T O K ι σ) (c : Crew T K σ) (m : Move T O ι) : Crew T K σ := (c.move W m).getD c

/-- A list of moves, each checked against a computable guard. -/
def play (W : TaskSystem T O K ι σ) (guard : Crew T K σ → Move T O ι → Bool) :
    List (Move T O ι) → Crew T K σ → Option (Crew T K σ)
  | [], c => some c
  | m :: ms, c => if guard c m then (c.move W m).bind (play W guard ms) else none

variable {W : TaskSystem T O K ι σ} {guard guard' : Crew T K σ → Move T O ι → Prop} {c c' c₀ : Crew T K σ} {t u : T}
  {k : K} {rest : List K} {p : Performed T K σ}

theorem move_start {o : O} (h : c.move W (.start t o) = some c') :
    c.tasks t = [] ∧ ∃ ks, W.begin t o = some ks ∧ c' = c.begun t ks := by
  simp only [move] at h
  split at h
  · rename_i hfree
    obtain ⟨ks, hks, rfl⟩ := Option.map_eq_some_iff.mp h
    exact ⟨free_iff.mp hfree, ks, hks, rfl⟩
  · cases h

/-- Everything a step of one thread can do: its first task was performed. -/
theorem move_act {i : ι} (h : c.move W (.act t i) = some c') :
    ∃ k rest p, c.tasks t = k :: rest ∧ W.exec c.free t k i c.shared = some p ∧ c' = c.after t rest p := by
  simp only [move] at h
  split at h
  · cases h
  · rename_i k rest ht
    obtain ⟨p, hp, rfl⟩ := Option.map_eq_some_iff.mp h
    exact ⟨k, rest, p, ht, hp, rfl⟩

/-- The crews reachable by moves that the guard admits. -/
inductive Run (W : TaskSystem T O K ι σ) (guard : Crew T K σ → Move T O ι → Prop) (c₀ : Crew T K σ) :
    Crew T K σ → Prop where
  | refl : Run W guard c₀ c₀
  | tail {c c' : Crew T K σ} {m : Move T O ι} :
      Run W guard c₀ c → guard c m → c.move W m = some c' → Run W guard c₀ c'

/-- A run under a stronger guard is a run under a weaker one. -/
theorem Run.mono (h : Run W guard c₀ c) (hg : ∀ d m, guard d m → guard' d m) : Run W guard' c₀ c := by
  induction h with
  | refl => exact .refl
  | tail _ hm hs ih => exact .tail ih (hg _ _ hm) hs

/-- A played list of moves extends a run. -/
theorem Run.play {g : Crew T K σ → Move T O ι → Bool} (hg : ∀ d m, g d m = true → guard d m)
    {ms : List (Move T O ι)} (h : Run W guard c₀ c) (hp : c.play W g ms = some c') : Run W guard c₀ c' := by
  induction ms generalizing c with
  | nil =>
      simp only [Crew.play, Option.some.injEq] at hp
      exact hp ▸ h
  | cons m ms ih =>
      simp only [Crew.play] at hp
      split at hp
      · rename_i hgm
        obtain ⟨d, hd, hplay⟩ := Option.bind_eq_some_iff.mp hp
        exact ih (h.tail (hg _ _ hgm) hd) hplay
      · cases hp

/-- What the moves keep holds in every reachable crew. -/
theorem Run.invariant {I : Crew T K σ → Prop} (h₀ : I c₀)
    (hstart : ∀ c t o ks, I c → guard c (.start t o) → c.tasks t = [] → W.begin t o = some ks →
      I (c.begun t ks))
    (hact : ∀ c t k rest i p, I c → guard c (.act t i) → c.tasks t = k :: rest →
      W.exec c.free t k i c.shared = some p → I (c.after t rest p))
    (h : Run W guard c₀ c) : I c := by
  induction h with
  | refl => exact h₀
  | @tail d d' m _ hg hm ih =>
      cases m with
      | start t o =>
          obtain ⟨hfree, ks, hks, rfl⟩ := move_start hm
          exact hstart d t o ks ih hg hfree hks
      | act t i =>
          obtain ⟨k, rest, p, ht, hp, rfl⟩ := move_act hm
          exact hact d t k rest i p ih hg ht hp

/-! ### The tasks after a start -/

section Begun

variable {ks : List K} {k' : K} {P : K → Prop}

@[simp] theorem begun_shared : (c.begun t ks).shared = c.shared := rfl

@[simp] theorem begun_tasks_self : (c.begun t ks).tasks t = ks := Function.update_self ..

theorem begun_tasks_of_ne (hu : u ≠ t) : (c.begun t ks).tasks u = c.tasks u := Function.update_of_ne hu ..

theorem mem_begun (h : k' ∈ (c.begun t ks).tasks u) : (u = t ∧ k' ∈ ks) ∨ (u ≠ t ∧ k' ∈ c.tasks u) := by
  by_cases hu : u = t
  · subst hu
    rw [begun_tasks_self] at h
    exact .inl ⟨rfl, h⟩
  · rw [begun_tasks_of_ne hu] at h
    exact .inr ⟨hu, h⟩

/-- What was to be done still is. -/
theorem Pending.begun (h : c.Pending P) (ht : c.tasks t = []) : (c.begun t ks).Pending P := by
  obtain ⟨u, k', hmem, hP⟩ := h
  have hu : u ≠ t := by
    rintro rfl
    rw [ht] at hmem
    cases hmem
  exact ⟨u, k', by rw [begun_tasks_of_ne hu]; exact hmem, hP⟩

theorem pending_of_begun (h : (c.begun t ks).Pending P) : c.Pending P ∨ ∃ k' ∈ ks, P k' := by
  obtain ⟨u, k', hmem, hP⟩ := h
  rcases mem_begun hmem with ⟨rfl, hnew⟩ | ⟨-, hold⟩
  · exact .inr ⟨k', hnew, hP⟩
  · exact .inl ⟨u, k', hold, hP⟩

end Begun

/-! ### The tasks after a step -/

/-- What is started is a thread with nothing before it. -/
def Fresh (c : Crew T K σ) (p : Performed T K σ) : Prop := ∀ u first, p.started = some (u, first) → c.tasks u = []

variable {k' : K} {P Q : K → Prop}

@[simp] theorem after_shared : (c.after t rest p).shared = p.shared := rfl

theorem after_tasks_of_ne (hu : u ≠ t) (hstart : ∀ first, p.started ≠ some (u, first)) :
    (c.after t rest p).tasks u = c.tasks u := by
  unfold after
  split
  · exact Function.update_of_ne hu _ _
  · rename_i v first hv
    have huv : u ≠ v := by
      rintro rfl
      exact hstart first hv
    show Function.update (Function.update c.tasks t (p.tasks ++ rest)) v first u = _
    rw [Function.update_of_ne huv, Function.update_of_ne hu]

theorem after_tasks_self (hstart : ∀ first, p.started ≠ some (t, first)) :
    (c.after t rest p).tasks t = p.tasks ++ rest := by
  unfold after
  split
  · exact Function.update_self ..
  · rename_i v first hv
    have htv : t ≠ v := by
      rintro rfl
      exact hstart first hv
    show Function.update (Function.update c.tasks t (p.tasks ++ rest)) v first t = _
    rw [Function.update_of_ne htv, Function.update_self]

theorem after_tasks_started {first : List K} (h : p.started = some (u, first)) :
    (c.after t rest p).tasks u = first := by
  simp [after, h]

/-- Where a task of a thread comes from: the step, what was behind it, or a start. -/
theorem mem_after (h : k' ∈ (c.after t rest p).tasks u) :
    (u = t ∧ (k' ∈ p.tasks ∨ k' ∈ rest)) ∨ (u ≠ t ∧ k' ∈ c.tasks u) ∨
      ∃ first, p.started = some (u, first) ∧ k' ∈ first := by
  by_cases hstart : ∃ first, p.started = some (u, first)
  · obtain ⟨first, hfirst⟩ := hstart
    rw [after_tasks_started hfirst] at h
    exact .inr (.inr ⟨first, hfirst, h⟩)
  · have hnone : ∀ first, p.started ≠ some (u, first) := fun first hfirst => hstart ⟨first, hfirst⟩
    by_cases hu : u = t
    · subst hu
      rw [after_tasks_self hnone] at h
      exact .inl ⟨rfl, List.mem_append.mp h⟩
    · rw [after_tasks_of_ne hu hnone] at h
      exact .inr (.inl ⟨hu, h⟩)

/-- A thread that had nothing to do, and has now, is started by the step. -/
theorem started_of_idle (ht : c.tasks t = k :: rest) (hidle : c.tasks u = [])
    (hbusy : (c.after t rest p).tasks u ≠ []) : ∃ first, p.started = some (u, first) := by
  obtain ⟨k', hk'⟩ := List.exists_mem_of_ne_nil _ hbusy
  rcases mem_after hk' with ⟨rfl, -⟩ | ⟨-, hold⟩ | ⟨first, hfirst, -⟩
  · rw [ht] at hidle
    cases hidle
  · rw [hidle] at hold
    cases hold
  · exact ⟨first, hfirst⟩

section Fresh

variable (hfresh : c.Fresh p) (ht : c.tasks t = k :: rest)

include hfresh ht

/-- The thread that steps is not one that it starts. -/
theorem Fresh.tasks_self : (c.after t rest p).tasks t = p.tasks ++ rest := by
  apply after_tasks_self
  intro first hfirst
  have hnil := hfresh t first hfirst
  rw [ht] at hnil
  cases hnil

omit ht in
theorem Fresh.tasks_of_ne (hu : u ≠ t) (hsome : c.tasks u ≠ []) : (c.after t rest p).tasks u = c.tasks u :=
  after_tasks_of_ne hu fun first hfirst => hsome (hfresh u first hfirst)

/-- What is not performed stays to be done. -/
theorem Pending.after (h : c.Pending P) (hk : ¬P k) : (c.after t rest p).Pending P := by
  obtain ⟨u, k', hmem, hP⟩ := h
  by_cases hu : u = t
  · subst hu
    refine ⟨u, k', ?_, hP⟩
    rw [hfresh.tasks_self ht]
    rw [ht] at hmem
    rcases List.mem_cons.mp hmem with rfl | hmem
    · exact absurd hP hk
    · exact List.mem_append_right _ hmem
  · refine ⟨u, k', ?_, hP⟩
    rw [hfresh.tasks_of_ne hu (List.ne_nil_of_mem hmem)]
    exact hmem

/-- What the step leads to is to be done. -/
theorem Fresh.pending (hmem : k' ∈ p.tasks) (hP : P k') : (c.after t rest p).Pending P :=
  ⟨t, k', by rw [hfresh.tasks_self ht]; exact List.mem_append_left _ hmem, hP⟩

end Fresh

omit [DecidableEq T] in
theorem Pending.mono (h : c.Pending P) (hPQ : ∀ k, P k → Q k) : c.Pending Q := by
  obtain ⟨t, k, hmem, hP⟩ := h
  exact ⟨t, k, hmem, hPQ k hP⟩

/-- What is to be done after a step was to be done before, or comes from it. -/
theorem pending_of_after (ht : c.tasks t = k :: rest) (h : (c.after t rest p).Pending P) :
    c.Pending P ∨ (∃ k' ∈ p.tasks, P k') ∨ ∃ u first, p.started = some (u, first) ∧ ∃ k' ∈ first, P k' := by
  obtain ⟨u, k', hmem, hP⟩ := h
  rcases mem_after hmem with ⟨rfl, hp | hrest⟩ | ⟨-, hold⟩ | ⟨first, hfirst, hin⟩
  · exact .inr (.inl ⟨k', hp, hP⟩)
  · exact .inl ⟨u, k', by rw [ht]; exact List.mem_cons_of_mem _ hrest, hP⟩
  · exact .inl ⟨u, k', hold, hP⟩
  · exact .inr (.inr ⟨u, first, hfirst, k', hin, hP⟩)

end Crew

end SomeServer.Lib
