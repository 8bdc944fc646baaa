/-
# SomeServer.Lib.Loops — programs under a stream of inputs, and the loops that are left under it

`Fed` is the total-correctness predicate for a program under one infinite behaviour of its environment: the
`n`-th action of the thread gets the `n`-th input of a stream, no action has to wait, and the program returns
with the postcondition.

A `while (true)` loop is a body that either produces the result or asks for another turn; `loop` gives it fuel.
A loop is left when every turn that asks for another one decreases a measure in a well-founded order
(`Fed.leaves`), and is never left when an invariant makes every turn ask for another one (`Fed.spins`). What a loop
is left with does not depend on the fuel (`Fed.more`).
-/
import SomeServer.Lib.Pool
import Mathlib.Order.WellFounded

namespace SomeServer.Lib

variable {T E : Type} {R : E → Type} {α β ι σ : Type}

namespace Prog

/-- Under the inputs of the stream from the `n`-th on, the program returns, and `Q` holds then of its result, of
the number of inputs used up, and of the state. -/
def Fed (M : Machine T E R ι σ) (t : T) (inputs : Nat → ι) (Q : α → Nat → σ → Prop) :
    Prog E R α → Nat → σ → Prop
  | .ret a, n, s => Q a n s
  | .act e k, n, s => ∃ s' r, M.exec t e (inputs n) s = some (s', r) ∧ (k r).Fed M t inputs Q (n + 1) s'

variable {M : Machine T E R ι σ} {t : T} {inputs : Nat → ι} {Q Q' : α → Nat → σ → Prop} {n : Nat} {s : σ}

@[simp] theorem fed_ret {a : α} : (Prog.ret a : Prog E R α).Fed M t inputs Q n s ↔ Q a n s := Iff.rfl

/-- The rule of one action. -/
theorem Fed.seq {e : E} {k : R e → Prog E R α} {s' : σ} {r : R e}
    (hexec : M.exec t e (inputs n) s = some (s', r)) (h : (k r).Fed M t inputs Q (n + 1) s') :
    (Prog.call e >>= k).Fed M t inputs Q n s :=
  ⟨s', r, hexec, h⟩

theorem Fed.mono (hQ : ∀ a n s, Q a n s → Q' a n s) {p : Prog E R α} (h : p.Fed M t inputs Q n s) :
    p.Fed M t inputs Q' n s := by
  induction p generalizing n s with
  | ret a => exact hQ a n s h
  | act e k ih =>
      obtain ⟨s', r, hexec, hrest⟩ := h
      exact ⟨s', r, hexec, ih r hrest⟩

/-- Sequential composition. -/
theorem fed_bind {Q : β → Nat → σ → Prop} {p : Prog E R α} {f : α → Prog E R β} :
    (p >>= f).Fed M t inputs Q n s ↔ p.Fed M t inputs (fun a n' s' => (f a).Fed M t inputs Q n' s') n s := by
  induction p generalizing n s with
  | ret a => exact Iff.rfl
  | act e k ih =>
      constructor
      · rintro ⟨s', r, hexec, hrest⟩
        exact ⟨s', r, hexec, (ih r).1 hrest⟩
      · rintro ⟨s', r, hexec, hrest⟩
        exact ⟨s', r, hexec, (ih r).2 hrest⟩

theorem Fed.bind {Q : β → Nat → σ → Prop} {p : Prog E R α} {f : α → Prog E R β}
    (h : p.Fed M t inputs (fun a n' s' => (f a).Fed M t inputs Q n' s') n s) :
    (p >>= f).Fed M t inputs Q n s :=
  fed_bind.2 h

/-- Actions that never wait and keep an invariant. -/
theorem Fed.of_all {P : E → Prop} {I : σ → Prop} {p : Prog E R α} (hp : p.All P)
    (hP : ∀ e, P e → ∀ i s, I s → ∃ s' r, M.exec t e i s = some (s', r) ∧ I s') (h : I s) :
    p.Fed M t inputs (fun _ _ s' => I s') n s := by
  induction p generalizing n s with
  | ret a => exact h
  | act e k ih =>
      obtain ⟨s', r, hexec, hs'⟩ := hP e hp.1 (inputs n) s h
      exact ⟨s', r, hexec, ih r (hp.2 r) hs'⟩

/-- A program returns the same when what it does is written down. -/
theorem Fed.withHistory {γ : Type} {record : T → (e : E) → ι → σ → σ → R e → γ → γ} {p : Prog E R α}
    (h : p.Fed M t inputs Q n s) (g : γ) :
    p.Fed (M.withHistory record) t inputs (fun a n' s' => Q a n' s'.1) n (s, g) := by
  induction p generalizing n s g with
  | ret a => exact h
  | act e k ih =>
      obtain ⟨s', r, hexec, hrest⟩ := h
      exact ⟨_, r, Machine.withHistory_of_exec hexec g, ih r hrest _⟩

/-- One stream gives one result, and the postconditions are the properties of it. -/
theorem Fed.result {p : Prog E R α} (h : p.Fed M t inputs Q n s) :
    ∃ a n' s', ∀ P : α → Nat → σ → Prop, p.Fed M t inputs P n s ↔ P a n' s' := by
  induction p generalizing n s with
  | ret a => exact ⟨a, n, s, fun _ => Iff.rfl⟩
  | act e k ih =>
      obtain ⟨s₁, r, hexec, hrest⟩ := h
      obtain ⟨a, n', s', hall⟩ := ih r hrest
      refine ⟨a, n', s', fun P => ?_⟩
      rw [← hall P]
      constructor
      · rintro ⟨s₂, r', hexec', hrest'⟩
        rw [hexec] at hexec'
        cases hexec'
        exact hrest'
      · intro hrest'
        exact ⟨s₁, r, hexec, hrest'⟩

theorem Fed.unique {p : Prog E R α} (h : p.Fed M t inputs Q n s) (h' : p.Fed M t inputs Q' n s) :
    ∃ a n' s', Q a n' s' ∧ Q' a n' s' := by
  obtain ⟨a, n', s', hall⟩ := h.result
  exact ⟨a, n', s', (hall Q).1 h, (hall Q').1 h'⟩

/-! ## Loops -/

/-- `while (true)` with fuel: the body returns the result, or `none` for another turn. -/
def loop (body : Prog E R (Option α)) (out : α) : (fuel : Nat) → Prog E R α
  | 0 => .ret out
  | fuel + 1 => body >>= fun
      | some a => .ret a
      | none => loop body out fuel

variable {body : Prog E R (Option α)} {out : α} {I : Nat → σ → Prop}

/-- A loop whose turns decrease a measure is left. -/
theorem Fed.leaves {W : Type} [LT W] [WellFoundedLT W] {f : Nat → σ → W}
    (hbody : ∀ n s, I n s → body.Fed M t inputs (fun o n' s' =>
      (∀ a, o = some a → Q a n' s') ∧ (o = none → I n' s' ∧ f n' s' < f n s)) n s)
    (h : I n s) : ∃ fuel, (loop body out fuel).Fed M t inputs Q n s := by
  induction hw : f n s using WellFoundedLT.induction generalizing n s with
  | ind w ih =>
      obtain ⟨o, n', s', hall⟩ := (hbody n s h).result
      obtain ⟨hsome, hnone⟩ := (hall _).1 (hbody n s h)
      cases o with
      | some a => exact ⟨1, Fed.bind ((hall _).2 (hsome a rfl))⟩
      | none =>
          obtain ⟨hnext, hless⟩ := hnone rfl
          obtain ⟨fuel, hrest⟩ := ih _ (hw ▸ hless) hnext rfl
          exact ⟨fuel + 1, Fed.bind ((hall _).2 hrest)⟩

/-- A loop that is left with some fuel is left in the same way with more. -/
theorem Fed.more {fuel more : Nat} (h : (loop body out fuel).Fed M t inputs (fun a n' s' => a ≠ out ∧ Q a n' s') n s)
    (hle : fuel ≤ more) : (loop body out more).Fed M t inputs Q n s := by
  induction fuel generalizing more n s with
  | zero => exact absurd rfl h.1
  | succ fuel ih =>
      obtain ⟨more, rfl⟩ := Nat.exists_eq_add_of_le' (Nat.le_trans (Nat.le_add_left 1 fuel) hle)
      refine Fed.bind ((fed_bind.1 h).mono fun o n' s' hrest => ?_)
      cases o with
      | some a => exact hrest.2
      | none => exact ih hrest (Nat.le_of_succ_le_succ hle)

/-- A loop in which every turn asks for another one uses up whatever fuel it has. -/
theorem Fed.spins (hbody : ∀ n s, I n s → body.Fed M t inputs (fun o n' s' => o = none ∧ I n' s') n s)
    (h : I n s) (fuel : Nat) : (loop body out fuel).Fed M t inputs (fun a _ _ => a = out) n s := by
  induction fuel generalizing n s with
  | zero => rfl
  | succ fuel ih =>
      refine Fed.bind ((hbody n s h).mono ?_)
      rintro o n' s' ⟨rfl, hnext⟩
      exact ih hnext

end Prog

end SomeServer.Lib
