/-
# SomeServer.Lib.Protocol — programs that go through phases

A call of a service is at some point of its work between any two actions: it has taken something out of a
table and not yet put it into the next. A `Protocol` names these points, says which actions a thread may
perform at a point, and where it is after the reply. `Follows` says of a program that it keeps to the
protocol; as points are private to a thread, this is shown of one program at a time. When the machine
writes the points down, `run_followed` says of every run that each thread is where its program is, and
`run_invariant` that an invariant of the shared state holds which every fitting action keeps.
-/
import SomeServer.Lib.Lift

namespace SomeServer.Lib

/-- The points `P` of the threads: what fits at a point, where an action leads, and where a thread may be
that runs nothing. -/
structure Protocol (T O E : Type) (R : E → Type) (P : Type) where
  fits : T → O → P → E → Prop
  next : T → P → (e : E) → R e → P
  rest : T → P → Prop

variable {T O E E' : Type} {R : E → Type} {R' : E' → Type} {P α β ι σ : Type}

namespace Protocol

/-- From point `x` on, the program performs fitting actions only, and returns at a point with `Q`. -/
def Follows (L : Protocol T O E R P) (t : T) (o : O) (Q : α → P → Prop) : Prog E R α → P → Prop
  | .ret a, x => Q a x
  | .act e k, x => L.fits t o x e ∧ ∀ r, L.Follows t o Q (k r) (L.next t x e r)

variable {L : Protocol T O E R P} {t : T} {o : O} {Q Q' : α → P → Prop} {p : Prog E R α} {x : P}

theorem follows_ret {a : α} (h : Q a x) : L.Follows t o Q (.ret a) x := h

/-- The rule of one action. -/
theorem follows_seq {e : E} {k : R e → Prog E R α} (hfits : L.fits t o x e)
    (hk : ∀ r, L.Follows t o Q (k r) (L.next t x e r)) : L.Follows t o Q (Prog.call e >>= k) x :=
  ⟨hfits, hk⟩

theorem Follows.mono (h : L.Follows t o Q p x) (hQ : ∀ a y, Q a y → Q' a y) :
    L.Follows t o Q' p x := by
  induction p generalizing x with
  | ret a => exact hQ a x h
  | act e k ih => exact ⟨h.1, fun r => ih r (h.2 r)⟩

theorem Follows.bind {p : Prog E R β} {f : β → Prog E R α} :
    ∀ {x : P}, L.Follows t o (fun b y => L.Follows t o Q (f b) y) p x →
      L.Follows t o Q (p >>= f) x := by
  induction p with
  | ret b => exact fun h => h
  | act e k ih => exact fun h => ⟨h.1, fun r => ih r (h.2 r)⟩

/-- A program whose actions all fit at a point, and do not lead away from it. -/
theorem follows_of_all (hp : p.All fun e => L.fits t o x e ∧ ∀ r, L.next t x e r = x) :
    L.Follows t o (fun _ y => y = x) p x := by
  induction p with
  | ret a => rfl
  | act e k ih =>
      refine ⟨hp.1.1, fun r => ?_⟩
      rw [hp.1.2 r]
      exact ih r (hp.2 r)

/-- A program of a component keeps to the system's protocol when it keeps to the component's. -/
theorem Follows.lift {L' : Protocol T O E' R' P} {f : Translation R R'}
    (hfits : ∀ x e, L.fits t o x e → L'.fits t o x (f.action e))
    (hnext : ∀ x e r, L'.next t x (f.action e) r = L.next t x e (f.reply e r))
    (h : L.Follows t o Q p x) : L'.Follows t o Q (p.lift f) x := by
  induction p generalizing x with
  | ret a => exact h
  | act e k ih =>
      refine ⟨hfits x e h.1, fun r => ?_⟩
      rw [hnext]
      exact ih (f.reply e r) (h.2 _)

/-- A program with refined actions keeps to a protocol of the finer actions when each action does that fits. -/
theorem Follows.refine {P' : Type} {L' : Protocol T O E' R' P'} {f : (e : E) → Prog E' R' (R e)} {g : P → P'}
    (hf : ∀ x e, L.fits t o x e → L'.Follows t o (fun r y => y = g (L.next t x e r)) (f e) (g x))
    (h : L.Follows t o Q p x) : L'.Follows t o (fun a y => ∃ x', y = g x' ∧ Q a x') (p.refine f) (g x) := by
  induction p generalizing x with
  | ret a => exact ⟨x, rfl, h⟩
  | act e k ih =>
      refine Follows.bind ((hf x e h.1).mono fun r y hy => ?_)
      subst hy
      exact ih r (h.2 r)

section Run

variable [DecidableEq T] {M : Machine T E R ι σ} {code : T → O → Prog E R α}
  {guard : Pool T O E R α σ → Move T O ι → Prop} {s₀ : σ} {c : Pool T O E R α σ}
  {point : σ → T → P}

/-- Every thread is where its program is. -/
def Followed (L : Protocol T O E R P) (point : σ → T → P) (c : Pool T O E R α σ) : Prop :=
  ∀ t, match c.threads t with
    | none => L.rest t (point c.shared t)
    | some (o, p) => L.Follows t o (fun _ y => L.rest t y) p (point c.shared t)

omit [DecidableEq T] in
theorem Followed.rest (h : L.Followed point c) (hidle : c.idle t = true) :
    L.rest t (point c.shared t) := by
  have ht := h t
  simp only [Pool.idle] at hidle
  split at ht
  · exact ht
  · rename_i o p hc
    rw [hc] at hidle
    cases p with
    | ret a => exact ht
    | act e k => cases hidle

/-- In every run, each thread is where its program is. -/
theorem run_followed
    (hcode : ∀ c t o, guard c (.start t o) → L.rest t (point c.shared t) →
      L.Follows t o (fun _ y => L.rest t y) (code t o) (point c.shared t))
    (hpoint : ∀ t e i s s' r, M.exec t e i s = some (s', r) →
      point s' = Function.update (point s) t (L.next t (point s t) e r))
    (h₀ : ∀ t, L.rest t (point s₀ t)) (hrun : Run M code guard (Pool.initial s₀) c) :
    L.Followed point c := by
  induction hrun with
  | refl => exact h₀
  | @tail c c' m _ hg hm ih =>
      cases m with
      | start t o =>
          obtain ⟨hidle, rfl⟩ := Pool.move_start hm
          intro u
          by_cases hu : u = t
          · subst hu
            simp only [Function.update_self]
            exact hcode c u o hg (ih.rest hidle)
          · simp only [Function.update_of_ne hu]
            exact ih u
      | act t i =>
          obtain ⟨o, e, k, s, r, ht, hx, rfl⟩ := Pool.move_act hm
          intro u
          rw [hpoint t e i c.shared s r hx]
          have hprog := ih t
          rw [ht] at hprog
          by_cases hu : u = t
          · subst hu
            simp only [Function.update_self]
            exact hprog.2 r
          · simp only [Function.update_of_ne hu]
            exact ih u

/-- An invariant of the shared state that every action keeps which fits where its thread is. -/
theorem run_invariant {I : σ → Prop}
    (hcode : ∀ c t o, guard c (.start t o) → L.rest t (point c.shared t) →
      L.Follows t o (fun _ y => L.rest t y) (code t o) (point c.shared t))
    (hpoint : ∀ t e i s s' r, M.exec t e i s = some (s', r) →
      point s' = Function.update (point s) t (L.next t (point s t) e r))
    (h₀ : ∀ t, L.rest t (point s₀ t)) (hI : I s₀)
    (hstep : ∀ c t o e k i s r, guard c (.act t i) → c.threads t = some (o, .act e k) →
      L.fits t o (point c.shared t) e → I c.shared → M.exec t e i c.shared = some (s, r) → I s)
    (hrun : Run M code guard (Pool.initial s₀) c) : I c.shared := by
  induction hrun with
  | refl => exact hI
  | @tail c c' m hrun hg hm ih =>
      cases m with
      | start t o =>
          obtain ⟨-, rfl⟩ := Pool.move_start hm
          exact ih
      | act t i =>
          obtain ⟨o, e, k, s, r, ht, hx, rfl⟩ := Pool.move_act hm
          have hprog := run_followed hcode hpoint h₀ hrun t
          rw [ht] at hprog
          exact hstep c t o e k i s r hg ht hprog.1 ih hx

end Run

end Protocol

end SomeServer.Lib
