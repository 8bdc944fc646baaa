/-
# SomeServer.Lib.Pool — interleaved calls, and rely/guarantee outlines for them

A `Machine` says what each atomic action does to the shared state, given an input `ι` for what the
environment decides at that moment (a clock reading, a reply, a fault). A `Pool` is a shared state
with one current call per thread; a move either starts a call on an idle thread or performs the
pending action of one thread. `Run` collects the moves a `guard` admits, so what is said of "every run
in which ..." is a statement about `Run` with that guard, and a sequential system is a pool with one
thread.

`Outline` is the proof method. A call is verified alone: at every action it may assume the
invariant, what the guard says about that action, and that the other threads have changed the shared
state only as `rely` allows while this very action was pending; it must keep the invariant and show
the action's `event`. `Outline.sound` puts the calls together: if every step of one thread is a step
the others rely on, every reachable pool is good.
-/
import SomeServer.Lib.Prog
import Mathlib.Logic.Function.Basic

namespace SomeServer.Lib

/-- The meaning of the actions: `none` when the action has to wait (a lock is taken). -/
structure Machine (T E : Type) (R : E → Type) (ι σ : Type) where
  exec : T → (e : E) → ι → σ → Option (σ × R e)

/-- A machine with a history: `record` says what is written down about each executed action, and the
actions themselves neither see nor depend on it. -/
def Machine.withHistory {T E : Type} {R : E → Type} {ι σ γ : Type} (M : Machine T E R ι σ)
    (record : T → (e : E) → ι → σ → σ → R e → γ → γ) : Machine T E R ι (σ × γ) where
  exec t e i s :=
    (M.exec t e i s.1).map fun x => ((x.1, record t e i s.1 x.1 x.2 s.2), x.2)

/-- An action of a machine with a history is one of the machine, written down. -/
theorem Machine.withHistory_exec {T E : Type} {R : E → Type} {ι σ γ : Type} {M : Machine T E R ι σ}
    {record : T → (e : E) → ι → σ → σ → R e → γ → γ} {t : T} {e : E} {i : ι} {s s' : σ × γ} {r : R e}
    (h : (M.withHistory record).exec t e i s = some (s', r)) :
    M.exec t e i s.1 = some (s'.1, r) ∧ s'.2 = record t e i s.1 s'.1 r s.2 := by
  obtain ⟨⟨s₁, r'⟩, hexec, heq⟩ := Option.map_eq_some_iff.mp h
  cases heq
  exact ⟨hexec, rfl⟩

theorem Machine.withHistory_of_exec {T E : Type} {R : E → Type} {ι σ γ : Type} {M : Machine T E R ι σ}
    {record : T → (e : E) → ι → σ → σ → R e → γ → γ} {t : T} {e : E} {i : ι} {s s' : σ} {r : R e}
    (h : M.exec t e i s = some (s', r)) (g : γ) :
    (M.withHistory record).exec t e i (s, g) = some ((s', record t e i s s' r g), r) := by
  simp only [Machine.withHistory, h, Option.map_some]

/-- One shared state and, for each thread, the operation it runs and what is left of it. -/
structure Pool (T O E : Type) (R : E → Type) (α σ : Type) where
  shared : σ
  threads : T → Option (O × Prog E R α)

/-- A thread starts an operation, or performs its pending action under an input. -/
inductive Move (T O ι : Type) where
  | start (t : T) (o : O)
  | act (t : T) (i : ι)

variable {T O E : Type} {R : E → Type} {α ι σ : Type}

/-- The thread that a move is of. -/
def Move.thread : Move T O ι → T
  | .start t _ => t
  | .act t _ => t

namespace Pool

/-- The pool in which no thread has done anything yet. -/
def initial (s : σ) : Pool T O E R α σ := ⟨s, fun _ => none⟩

/-- The action a thread is waiting to perform. -/
def pending (c : Pool T O E R α σ) (t : T) : Option E :=
  (c.threads t).bind fun x => x.2.pending

theorem pending_eq_some {c : Pool T O E R α σ} {t : T} {e : E} :
    c.pending t = some e ↔ ∃ o k, c.threads t = some (o, .act e k) := by
  unfold pending
  constructor
  · intro h
    obtain ⟨⟨o, p⟩, ht, hp⟩ := Option.bind_eq_some_iff.mp h
    cases p with
    | ret a => cases hp
    | act e' k =>
        cases hp
        exact ⟨o, k, ht⟩
  · rintro ⟨o, k, ht⟩
    rw [ht]
    rfl

/-- A thread may start an operation when it has never run one or its last one has returned. -/
def idle (c : Pool T O E R α σ) (t : T) : Bool :=
  match c.threads t with
  | none => true
  | some (_, p) => p.result?.isSome

/-- The last operation of a thread together with its result, once it has returned. -/
def returned (c : Pool T O E R α σ) (t : T) : Option (O × α) :=
  (c.threads t).bind fun x => x.2.result?.map fun a => (x.1, a)

theorem returned_eq_some {c : Pool T O E R α σ} {t : T} {o : O} {a : α} :
    c.returned t = some (o, a) ↔ c.threads t = some (o, .ret a) := by
  unfold returned
  constructor
  · intro h
    obtain ⟨⟨o', p⟩, ht, hp⟩ := Option.bind_eq_some_iff.mp h
    cases p with
    | ret b =>
        cases hp
        exact ht
    | act e k => cases hp
  · intro h
    rw [h]
    rfl

variable [DecidableEq T]

/-- One move of the pool, `none` when it is not possible. -/
def move (M : Machine T E R ι σ) (code : T → O → Prog E R α) (c : Pool T O E R α σ) :
    Move T O ι → Option (Pool T O E R α σ)
  | .start t o =>
      if c.idle t then some { c with threads := Function.update c.threads t (some (o, code t o)) }
      else none
  | .act t i =>
      match c.threads t with
      | some (o, .act e k) =>
          (M.exec t e i c.shared).map fun x =>
            ⟨x.1, Function.update c.threads t (some (o, k x.2))⟩
      | _ => none

/-- A list of moves, each checked against a computable guard. -/
def play (M : Machine T E R ι σ) (code : T → O → Prog E R α)
    (guard : Pool T O E R α σ → Move T O ι → Bool) :
    List (Move T O ι) → Pool T O E R α σ → Option (Pool T O E R α σ)
  | [], c => some c
  | m :: ms, c => if guard c m then (c.move M code m).bind (play M code guard ms) else none

theorem move_start {M : Machine T E R ι σ} {code : T → O → Prog E R α} {c c' : Pool T O E R α σ}
    {t : T} {o : O} (h : c.move M code (.start t o) = some c') :
    c.idle t = true ∧ c' = { c with threads := Function.update c.threads t (some (o, code t o)) } := by
  simp only [move] at h
  split at h
  · exact ⟨‹_›, (Option.some.inj h).symm⟩
  · cases h

/-- Everything a step of one thread can do: its pending action was executed, and the thread goes on
with the reply. -/
theorem move_act {M : Machine T E R ι σ} {code : T → O → Prog E R α} {c c' : Pool T O E R α σ}
    {t : T} {i : ι} (h : c.move M code (.act t i) = some c') :
    ∃ o e k s r, c.threads t = some (o, .act e k) ∧ M.exec t e i c.shared = some (s, r) ∧
      c' = ⟨s, Function.update c.threads t (some (o, k r))⟩ := by
  simp only [move] at h
  split at h
  · rename_i o e k ht
    cases hx : M.exec t e i c.shared with
    | none => simp [hx] at h
    | some x =>
      obtain ⟨s, r⟩ := x
      rw [hx] at h
      exact ⟨o, e, k, s, r, ht, hx, (Option.some.inj h).symm⟩
  · cases h

/-- A thread that has no part in a list of moves is left as it was. -/
theorem play_other {M : Machine T E R ι σ} {code : T → O → Prog E R α}
    {guard : Pool T O E R α σ → Move T O ι → Bool} {ms : List (Move T O ι)} {t : T}
    {c c' : Pool T O E R α σ} (ht : ∀ m ∈ ms, m.thread ≠ t) (h : c.play M code guard ms = some c') :
    c'.threads t = c.threads t := by
  induction ms generalizing c with
  | nil =>
      simp only [play, Option.some.injEq] at h
      rw [h]
  | cons m ms ih =>
      simp only [play] at h
      split at h
      · obtain ⟨d, hd, hplay⟩ := Option.bind_eq_some_iff.mp h
        rw [ih (fun m' hm' => ht m' (List.mem_cons_of_mem m hm')) hplay]
        have hm : m.thread ≠ t := ht m List.mem_cons_self
        cases m with
        | start u o =>
            obtain ⟨-, rfl⟩ := move_start hd
            exact Function.update_of_ne hm.symm ..
        | act u i =>
            obtain ⟨o, e, k, s, r, -, -, rfl⟩ := move_act hd
            exact Function.update_of_ne hm.symm ..
      · cases h

end Pool

section Run

variable [DecidableEq T]

/-- The pools reachable by moves that the guard admits. -/
inductive Run (M : Machine T E R ι σ) (code : T → O → Prog E R α)
    (guard : Pool T O E R α σ → Move T O ι → Prop) (c₀ : Pool T O E R α σ) :
    Pool T O E R α σ → Prop where
  | refl : Run M code guard c₀ c₀
  | tail {c c' : Pool T O E R α σ} {m : Move T O ι} :
      Run M code guard c₀ c → guard c m → c.move M code m = some c' → Run M code guard c₀ c'

variable {M : Machine T E R ι σ} {code : T → O → Prog E R α}
  {guard guard' : Pool T O E R α σ → Move T O ι → Prop} {c₀ c c' : Pool T O E R α σ}

/-- A run under a stronger guard is a run under a weaker one. -/
theorem Run.mono (h : Run M code guard c₀ c) (hg : ∀ d m, guard d m → guard' d m) :
    Run M code guard' c₀ c := by
  induction h with
  | refl => exact .refl
  | tail _ hm hs ih => exact .tail ih (hg _ _ hm) hs

theorem Run.trans (h : Run M code guard c₀ c) (h' : Run M code guard c c') : Run M code guard c₀ c' := by
  induction h' with
  | refl => exact h
  | tail _ hg hm ih => exact ih.tail hg hm

/-- A played list of moves extends a run. -/
theorem Run.play {g : Pool T O E R α σ → Move T O ι → Bool} (hg : ∀ d m, g d m = true → guard d m)
    {ms : List (Move T O ι)} (h : Run M code guard c₀ c) (hp : c.play M code g ms = some c') :
    Run M code guard c₀ c' := by
  induction ms generalizing c with
  | nil =>
      simp only [Pool.play, Option.some.injEq] at hp
      exact hp ▸ h
  | cons m ms ih =>
      simp only [Pool.play] at hp
      split at hp
      · rename_i hgm
        cases hm : c.move M code m with
        | none => simp [hm] at hp
        | some d =>
          rw [hm, Option.bind_some] at hp
          exact ih (h.tail (hg _ _ hgm) hm) hp
      · cases hp

/-- A list of moves that can be played ends in a reachable pool. -/
theorem Run.exists_of_play {g : Pool T O E R α σ → Move T O ι → Bool}
    (hg : ∀ d m, g d m = true → guard d m) {ms : List (Move T O ι)}
    (hp : (c₀.play M code g ms).isSome = true) :
    ∃ c, c₀.play M code g ms = some c ∧ Run M code guard c₀ c := by
  obtain ⟨c, hc⟩ := Option.isSome_iff_exists.mp hp
  exact ⟨c, hc, Run.refl.play hg hc⟩

/-- A property of the shared state that every action keeps holds in every reachable pool. -/
theorem Run.shared_invariant {I : σ → Prop}
    (hstep : ∀ t e i s s' r, I s → M.exec t e i s = some (s', r) → I s')
    (h : Run M code guard c₀ c) (h₀ : I c₀.shared) : I c.shared := by
  induction h with
  | refl => exact h₀
  | @tail d d' m _ _ hs ih =>
    cases m with
    | start t o =>
        obtain ⟨-, rfl⟩ := Pool.move_start hs
        exact ih
    | act t i =>
        obtain ⟨o, e, k, s, r, -, hx, rfl⟩ := Pool.move_act hs
        exact hstep t e i _ _ r ih hx

end Run

/-! ## Rely/guarantee outlines -/

/-- What the proof of a pool is made of. `start` and `ok` are what the guard of the run says about
starting an operation and about performing an action; `event` is what each performed action is shown
to satisfy; `rely t (some e)` is what the other threads may do while `t` waits to perform `e`, and
`rely t none` while `t` runs nothing; `rest t` holds whenever `t` runs nothing. -/
structure Outline (T O E ι σ : Type) where
  inv : σ → Prop
  rest : T → σ → Prop
  start : T → O → σ → Prop
  ok : T → O → E → ι → σ → Prop
  event : T → O → E → ι → σ → σ → Prop
  rely : T → Option E → σ → σ → Prop
  rely_refl : ∀ t e s, rely t e s s
  rely_trans : ∀ t e s₁ s₂ s₃, rely t e s₁ s₂ → rely t e s₂ s₃ → rely t e s₁ s₃
  rest_rely : ∀ t s s', rely t none s s' → rest t s → rest t s'

namespace Outline

/-- The remaining program `p` of thread `t` is safe from state `s`, and returns only in states where
`Q` holds. -/
def Safe (L : Outline T O E ι σ) (M : Machine T E R ι σ) (t : T) (o : O) (Q : α → σ → Prop) :
    Prog E R α → σ → Prop
  | .ret a, s => Q a s
  | .act e k, s => ∀ s₁, L.rely t (some e) s s₁ → L.inv s₁ → ∀ i s₂ r, L.ok t o e i s₁ →
      M.exec t e i s₁ = some (s₂, r) →
        L.event t o e i s₁ s₂ ∧ L.inv s₂ ∧ L.Safe M t o Q (k r) s₂

variable {L : Outline T O E ι σ} {M : Machine T E R ι σ} {t : T} {o : O} {β : Type}
  {Q : α → σ → Prop}

@[simp] theorem safe_ret {a : α} {s : σ} :
    L.Safe M t o Q (.ret a : Prog E R α) s ↔ Q a s := Iff.rfl

theorem safe_act {e : E} {k : R e → Prog E R α} {s : σ} :
    L.Safe M t o Q (.act e k) s ↔ ∀ s₁, L.rely t (some e) s s₁ → L.inv s₁ → ∀ i s₂ r,
      L.ok t o e i s₁ → M.exec t e i s₁ = some (s₂, r) →
        L.event t o e i s₁ s₂ ∧ L.inv s₂ ∧ L.Safe M t o Q (k r) s₂ := Iff.rfl

/-- Weakening of the postcondition. -/
theorem Safe.mono {Q' : α → σ → Prop} (hQ : ∀ a s, Q a s → Q' a s) {p : Prog E R α} :
    ∀ {s : σ}, L.Safe M t o Q p s → L.Safe M t o Q' p s := by
  induction p with
  | ret a => intro s h; exact hQ a s h
  | act e k ih =>
      intro s h s₁ hr hi i s₂ r hok hx
      obtain ⟨hev, hi₂, hk⟩ := h s₁ hr hi i s₂ r hok hx
      exact ⟨hev, hi₂, ih r hk⟩

/-- Sequential composition: the second program is safe from every state the first returns in. -/
theorem Safe.bind {p : Prog E R β} {f : β → Prog E R α} :
    ∀ {s : σ}, L.Safe M t o (fun b s' => L.Safe M t o Q (f b) s') p s →
      L.Safe M t o Q (p >>= f) s := by
  induction p with
  | ret b => intro s h; exact h
  | act e k ih =>
      intro s h s₁ hr hi i s₂ r hok hx
      obtain ⟨hev, hi₂, hk⟩ := h s₁ hr hi i s₂ r hok hx
      exact ⟨hev, hi₂, ih r hk⟩

/-- A program whose actions all keep the invariant and a fact `K` about the state is safe. -/
theorem safe_of_all {P : E → Prop} {K : σ → Prop}
    (hrely : ∀ e s s', P e → L.rely t (some e) s s' → K s → K s')
    (hstep : ∀ e i s s' r, P e → L.inv s → K s → L.ok t o e i s → M.exec t e i s = some (s', r) →
      L.event t o e i s s' ∧ L.inv s' ∧ K s')
    (hQ : ∀ a s, K s → Q a s) {p : Prog E R α} (hp : p.All P) :
    ∀ {s : σ}, K s → L.Safe M t o Q p s := by
  induction p with
  | ret a => intro s hs; exact hQ a s hs
  | act e k ih =>
      intro s hs s₁ hr hi i s₂ r hok hx
      obtain ⟨hev, hi₂, hk₂⟩ := hstep e i s₁ s₂ r hp.1 hi (hrely e s s₁ hp.1 hr hs) hok hx
      exact ⟨hev, hi₂, ih r (hp.2 r) hk₂⟩

/-- Keeping a fact `K` about the state is a property that composition keeps. -/
theorem compositional_safe {K : σ → Prop} :
    Prog.Compositional fun (β : Type) (p : Prog E R β) =>
      ∀ s, K s → L.Safe M t o (fun _ s' => K s') p s where
  pure _ _ hs := hs
  bind hp hf s hs := Safe.bind (Safe.mono (fun b s' hs' => hf b s' hs') (hp s hs))

/-- What other threads may do while the thread waits does not make its program unsafe. -/
theorem Safe.stable {e : E} {k : R e → Prog E R α} {s s' : σ}
    (h : L.Safe M t o Q (.act e k) s) (hr : L.rely t (some e) s s') :
    L.Safe M t o Q (.act e k) s' :=
  fun s₁ hr₁ => h s₁ (L.rely_trans t _ _ _ _ hr hr₁)

/-- Every thread of the pool is at rest or runs a safe program, and the invariant holds. -/
def Good (L : Outline T O E ι σ) (M : Machine T E R ι σ) (Q : T → O → α → σ → Prop)
    (c : Pool T O E R α σ) : Prop :=
  L.inv c.shared ∧ ∀ t, match c.threads t with
    | none => L.rest t c.shared
    | some (_, .ret _) => L.rest t c.shared
    | some (o, .act e k) => L.Safe M t o (fun a s => Q t o a s ∧ L.rest t s) (.act e k) c.shared

theorem Good.rest_of_idle {Q : T → O → α → σ → Prop} {c : Pool T O E R α σ}
    (h : L.Good M Q c) (hi : c.idle t = true) : L.rest t c.shared := by
  have ht := h.2 t
  simp only [Pool.idle] at hi
  split at ht
  · exact ht
  · exact ht
  · rename_i hx
    simp [hx] at hi

/-- The postcondition of a thread's program holds in the very state in which it returns. -/
def Returns (Q : T → O → α → σ → Prop) (c : Pool T O E R α σ) (t : T) : Prop :=
  ∀ o a, c.threads t = some (o, .ret a) → Q t o a c.shared

section Sound

variable [DecidableEq T] {code : T → O → Prog E R α} {guard : Pool T O E R α σ → Move T O ι → Prop}
  {Q : T → O → α → σ → Prop}

/-- The obligations that turn outlines of single calls into a statement about the pool. -/
structure Proved (L : Outline T O E ι σ) (M : Machine T E R ι σ) (code : T → O → Prog E R α)
    (guard : Pool T O E R α σ → Move T O ι → Prop) (Q : T → O → α → σ → Prop) : Prop where
  start : ∀ c t o, guard c (.start t o) → L.Good M Q c → L.start t o c.shared
  ok : ∀ c t o e k i, guard c (.act t i) → L.Good M Q c → c.threads t = some (o, .act e k) →
    L.ok t o e i c.shared
  safe : ∀ t o s, L.inv s → L.rest t s → L.start t o s →
    L.Safe M t o (fun a s' => Q t o a s' ∧ L.rest t s') (code t o) s
  compatible : ∀ c t o e k i s r, guard c (.act t i) → L.Good M Q c →
    c.threads t = some (o, .act e k) → M.exec t e i c.shared = some (s, r) →
    L.event t o e i c.shared s → ∀ u, u ≠ t → L.rely u (c.pending u) c.shared s

/-- One admitted move keeps a pool good; if it lets its thread return, the postcondition holds at
that moment; if it performs an action, the action's event holds. -/
theorem Proved.move (P : L.Proved M code guard Q) {c c' : Pool T O E R α σ} {m : Move T O ι}
    (hc : L.Good M Q c) (hg : guard c m) (hm : c.move M code m = some c') :
    L.Good M Q c' ∧ match m with
      | .start t _ => Returns Q c' t
      | .act t i => Returns Q c' t ∧ ∀ o e k, c.threads t = some (o, .act e k) →
          L.event t o e i c.shared c'.shared := by
  cases m with
  | start t o =>
      obtain ⟨hidle, rfl⟩ := Pool.move_start hm
      have hs := P.safe t o c.shared hc.1 (hc.rest_of_idle hidle) (P.start c t o hg hc)
      refine ⟨⟨hc.1, fun u => ?_⟩, ?_⟩
      · by_cases hu : u = t
        · subst hu
          simp only [Function.update_self]
          -- a program that is done at once lets its thread rest
          cases hcode : code u o with
          | ret a => rw [hcode] at hs; exact hs.2
          | act e k => rw [hcode] at hs; exact hs
        · simpa only [Function.update_of_ne hu] using hc.2 u
      · intro o' a ha
        simp only [Function.update_self, Option.some.injEq, Prod.mk.injEq] at ha
        obtain ⟨rfl, ha⟩ := ha
        rw [ha] at hs
        exact hs.1
  | act t i =>
      obtain ⟨o, e, k, s, r, ht, hx, rfl⟩ := Pool.move_act hm
      have hsafe := hc.2 t
      rw [ht] at hsafe
      obtain ⟨hev, hi, hk⟩ :=
        hsafe c.shared (L.rely_refl t _ _) hc.1 i s r (P.ok c t o e k i hg hc ht) hx
      have hrel := P.compatible c t o e k i s r hg hc ht hx hev
      refine ⟨⟨hi, fun u => ?_⟩, ?_, ?_⟩
      · by_cases hu : u = t
        · subst hu
          simp only [Function.update_self]
          cases hkr : k r with
          | ret a => rw [hkr] at hk; exact hk.2
          | act e' k' => rw [hkr] at hk; exact hk
        -- the other threads rely on what the event says
        · have hgu := hc.2 u
          have hru := hrel u hu
          simp only [Function.update_of_ne hu]
          cases hcu : c.threads u with
          | none =>
              simp only [hcu] at hgu
              simp only [Pool.pending, hcu, Option.bind_none] at hru
              exact L.rest_rely u _ _ hru hgu
          | some x =>
              obtain ⟨o', p⟩ := x
              cases p with
              | ret a =>
                  simp only [hcu] at hgu
                  simp only [Pool.pending, hcu, Option.bind_some, Prog.pending_ret] at hru
                  exact L.rest_rely u _ _ hru hgu
              | act e' k' =>
                  simp only [hcu] at hgu
                  simp only [Pool.pending, hcu, Option.bind_some, Prog.pending_act] at hru
                  exact Safe.stable hgu hru
      · intro o' a ha
        simp only [Function.update_self, Option.some.injEq, Prod.mk.injEq] at ha
        obtain ⟨rfl, ha⟩ := ha
        rw [ha] at hk
        exact hk.1
      · intro o' e' k' ht'
        rw [ht] at ht'
        cases ht'
        exact hev

/-- **Soundness.** Every pool reachable from a good one is good. -/
theorem Proved.sound (P : L.Proved M code guard Q) {c₀ c : Pool T O E R α σ}
    (h₀ : L.Good M Q c₀) (h : Run M code guard c₀ c) : L.Good M Q c := by
  induction h with
  | refl => exact h₀
  | tail _ hg hm ih => exact (P.move ih hg hm).1

end Sound

theorem good_initial {Q : T → O → α → σ → Prop} {s : σ} (hi : L.inv s) (hr : ∀ t, L.rest t s) :
    L.Good M Q (Pool.initial s : Pool T O E R α σ) :=
  ⟨hi, fun t => hr t⟩

end Outline

end SomeServer.Lib
