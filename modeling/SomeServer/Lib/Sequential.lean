/-
# SomeServer.Lib.Sequential — total correctness of calls that run alone

`Ends` is the total-correctness predicate for a program that no other thread interrupts: whatever
inputs `ok` admits, no action has to wait, the program returns, and it returns only in states where
the postcondition holds. It is computed along the program tree, so it needs no bound on the number of
steps.

`Run.sequential` puts single calls together: in a pool with one thread, in which every operation ends
in the invariant when it starts in it, the invariant holds whenever the thread is idle, and a call that
is under way still ends.
-/
import SomeServer.Lib.Pool

namespace SomeServer.Lib

variable {T O E : Type} {R : E → Type} {α β ι σ : Type}

namespace Prog

/-- Under every input that `ok` admits, the program returns, and `Q` holds then. -/
def Ends (M : Machine T E R ι σ) (t : T) (ok : E → ι → σ → Prop) (Q : α → σ → Prop) :
    Prog E R α → σ → Prop
  | .ret a, s => Q a s
  | .act e k, s => ∀ i, ok e i s → ∃ s' r, M.exec t e i s = some (s', r) ∧ (k r).Ends M t ok Q s'

variable {M : Machine T E R ι σ} {t : T} {ok ok' : E → ι → σ → Prop} {Q Q' : α → σ → Prop}

@[simp] theorem ends_ret {a : α} {s : σ} : (Prog.ret a : Prog E R α).Ends M t ok Q s ↔ Q a s :=
  Iff.rfl

/-- The rule of one action. -/
theorem Ends.seq {e : E} {k : R e → Prog E R α} {s : σ}
    (hrun : ∀ i, ok e i s → ∃ s' r, M.exec t e i s = some (s', r))
    (hk : ∀ i s' r, ok e i s → M.exec t e i s = some (s', r) → (k r).Ends M t ok Q s') :
    (Prog.call e >>= k).Ends M t ok Q s := by
  intro i hi
  obtain ⟨s', r, hx⟩ := hrun i hi
  exact ⟨s', r, hx, hk i s' r hi hx⟩

theorem Ends.mono (hQ : ∀ a s, Q a s → Q' a s) {p : Prog E R α} :
    ∀ {s : σ}, p.Ends M t ok Q s → p.Ends M t ok Q' s := by
  induction p with
  | ret a => intro s h; exact hQ a s h
  | act e k ih =>
      intro s h i hi
      obtain ⟨s', r, hx, hk⟩ := h i hi
      exact ⟨s', r, hx, ih r hk⟩

/-- Sequential composition. -/
theorem Ends.bind {Q : β → σ → Prop} {p : Prog E R α} {f : α → Prog E R β} :
    ∀ {s : σ}, p.Ends M t ok (fun a s' => (f a).Ends M t ok Q s') s →
      (p >>= f).Ends M t ok Q s := by
  induction p with
  | ret a => intro s h; exact h
  | act e k ih =>
      intro s h i hi
      obtain ⟨s', r, hx, hk⟩ := h i hi
      exact ⟨s', r, hx, ih r hk⟩

/-- A property that all actions of a program keep still holds when the program returns. -/
theorem Ends.keep {P : E → Prop} {K : σ → Prop}
    (hkeep : ∀ e i s s' r, P e → K s → M.exec t e i s = some (s', r) → K s')
    {p : Prog E R α} (hp : p.All P) :
    ∀ {s : σ}, K s → p.Ends M t ok Q s → p.Ends M t ok (fun a s' => Q a s' ∧ K s') s := by
  induction p with
  | ret a => intro s hs h; exact ⟨h, hs⟩
  | act e k ih =>
      intro s hs h i hi
      obtain ⟨s', r, hx, hk⟩ := h i hi
      exact ⟨s', r, hx, ih r (hp.2 r) (hkeep e i s s' r hp.1 hs hx) hk⟩

/-- A program whose actions never wait and all keep `K` ends in `K`. -/
theorem ends_of_all {P : E → Prop} {K : σ → Prop}
    (hrun : ∀ e i s, P e → K s → ok e i s → ∃ s' r, M.exec t e i s = some (s', r))
    (hkeep : ∀ e i s s' r, P e → K s → ok e i s → M.exec t e i s = some (s', r) → K s')
    {p : Prog E R α} (hp : p.All P) :
    ∀ {s : σ}, K s → p.Ends M t ok (fun _ s' => K s') s := by
  induction p with
  | ret a => intro s hs; exact hs
  | act e k ih =>
      intro s hs i hi
      obtain ⟨s', r, hx⟩ := hrun e i s hp.1 hs hi
      exact ⟨s', r, hx, ih r (hp.2 r) (hkeep e i s s' r hp.1 hs hi hx)⟩

end Prog

/-- A thread is at rest in `K`, or its call ends in `K`. -/
def Pool.EndsIn (c : Pool T O E R α σ) (M : Machine T E R ι σ) (ok : T → O → E → ι → σ → Prop)
    (K : σ → Prop) (t : T) : Prop :=
  match c.threads t with
  | none => K c.shared
  | some (o, p) => p.Ends M t (ok t o) (fun _ s => K s) c.shared

theorem Pool.EndsIn.of_idle {c : Pool T O E R α σ} {M : Machine T E R ι σ}
    {ok : T → O → E → ι → σ → Prop} {K : σ → Prop} {t : T} (h : c.EndsIn M ok K t)
    (hidle : c.idle t = true) : K c.shared := by
  unfold EndsIn at h
  unfold idle at hidle
  split at hidle
  · rename_i hnone
    rwa [hnone] at h
  · rename_i o p hsome
    rw [hsome] at h
    cases p with
    | ret a => exact h
    | act e k => cases hidle

section Sequential

variable [DecidableEq T] [Subsingleton T] {M : Machine T E R ι σ} {code : T → O → Prog E R α}
  {guard : Pool T O E R α σ → Move T O ι → Prop} {K : σ → Prop} {start : O → Prop}
  {ok : T → O → E → ι → σ → Prop} {s₀ : σ} {c : Pool T O E R α σ}

/-- **One thread.** If every operation ends in `K` when it starts in `K`, then in every reachable pool
an idle thread finds `K`, and a call under way ends in `K`. -/
theorem Run.sequential
    (hcode : ∀ t o s, start o → K s → (code t o).Ends M t (ok t o) (fun _ s' => K s') s)
    (hstart : ∀ c t o, guard c (.start t o) → start o)
    (hok : ∀ c t o e k i, guard c (.act t i) → c.threads t = some (o, .act e k) →
      ok t o e i c.shared)
    (h₀ : K s₀) (h : Run M code guard (Pool.initial s₀) c) (t : T) : c.EndsIn M ok K t := by
  induction h with
  | refl => exact h₀
  | @tail d d' m _ hg hm ih =>
    cases m with
    | start u o =>
        obtain ⟨hidle, rfl⟩ := Pool.move_start hm
        obtain rfl : u = t := Subsingleton.elim u t
        have hends := hcode u o _ (hstart d u o hg) (ih.of_idle hidle)
        simpa only [Pool.EndsIn, Function.update_self] using hends
    | act u i =>
        obtain ⟨o, e, k, s, r, ht, hx, rfl⟩ := Pool.move_act hm
        obtain rfl : u = t := Subsingleton.elim u t
        unfold Pool.EndsIn at ih
        rw [ht] at ih
        -- the input of this step is one of those under which the call ends
        obtain ⟨s', r', hx', hk⟩ := ih i (hok d u o e k i hg ht)
        rw [hx, Option.some.injEq, Prod.mk.injEq] at hx'
        obtain ⟨rfl, rfl⟩ := hx'
        simpa only [Pool.EndsIn, Function.update_self] using hk

end Sequential

end SomeServer.Lib
