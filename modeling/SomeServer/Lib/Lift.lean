/-
# SomeServer.Lib.Lift — programs of one signature inside a larger one

A system is put together from components, each with actions of its own. A `Translation` says which action
of the system an action of a component is, and how the system's reply is read back; `Prog.lift` turns a
program of the component into one of the system. To verify a lifted program against an outline of the
system, it is enough to verify the program itself against the outline and the machine seen from the
component (`Safe.lift`).

Where a closer look takes an action apart, each action is a program of finer ones: `Prog.refine` puts that program in
its place.
-/
import SomeServer.Lib.Pool

namespace SomeServer.Lib

variable {T O E E' : Type} {R : E → Type} {R' : E' → Type} {α β ι σ : Type}

/-- Actions of a component as actions of a system, with the replies read back. -/
structure Translation (R : E → Type) (R' : E' → Type) where
  action : E → E'
  reply : ∀ e, R' (action e) → R e

/-- A program of the component as a program of the system. -/
def Prog.lift (f : Translation R R') : Prog E R α → Prog E' R' α
  | .ret a => .ret a
  | .act e k => .act (f.action e) fun r => (k (f.reply e r)).lift f

/-- What all actions of the component satisfy, all actions of its programs do. -/
theorem Prog.All.lift {f : Translation R R'} {P : E' → Prop} (h : ∀ e, P (f.action e))
    (p : Prog E R α) : (p.lift f).All P := by
  induction p with
  | ret a => trivial
  | act e k ih => exact ⟨h e, fun r => ih (f.reply e r)⟩

/-- A program with each of its actions replaced by a program of finer actions. -/
def Prog.refine (f : (e : E) → Prog E' R' (R e)) : Prog E R α → Prog E' R' α
  | .ret a => .ret a
  | .act e k => f e >>= fun r => (k r).refine f

theorem Prog.refine_call (f : (e : E) → Prog E' R' (R e)) (e : E) :
    (Prog.call e : Prog E R (R e)).refine f = f e := Prog.bind_ret (f e)

/-- The parts of a composition are refined one by one. -/
theorem Prog.refine_bind (f : (e : E) → Prog E' R' (R e)) (p : Prog E R α) (g : α → Prog E R β) :
    (p >>= g).refine f = p.refine f >>= fun a => (g a).refine f := by
  induction p with
  | ret a => rfl
  | act e k ih =>
      show (f e >>= fun r => (k r >>= g).refine f) = (f e >>= fun r => (k r).refine f) >>= _
      rw [Prog.bind_bind]
      exact bind_congr ih

/-- A property that composition keeps has its refined form kept as well. -/
theorem Prog.Compositional.refine {S : (α : Type) → Prog E' R' α → Prop} (hS : Prog.Compositional S)
    (f : (e : E) → Prog E' R' (R e)) :
    Prog.Compositional fun (α : Type) (p : Prog E R α) => S α (p.refine f) where
  pure a := hS.pure a
  bind {_ _ p g} hp hg := by
    rw [Prog.refine_bind]
    exact hS.bind hp hg

/-- What the finer programs of all its actions have, a refined program has. -/
theorem Prog.All.refine {S : (α : Type) → Prog E' R' α → Prop} (hS : Prog.Compositional S) {P : E → Prop}
    {f : (e : E) → Prog E' R' (R e)} (hf : ∀ e, P e → S (R e) (f e)) {p : Prog E R α} (hp : p.All P) :
    S α (p.refine f) := by
  induction p with
  | ret a => exact hS.pure a
  | act e k ih => exact hS.bind (hf e hp.1) fun r => ih r (hp.2 r)

/-- The system as the component sees it. -/
def Machine.comap (M : Machine T E' R' ι σ) (f : Translation R R') : Machine T E R ι σ where
  exec t e i s := (M.exec t (f.action e) i s).map fun x => (x.1, f.reply e x.2)

namespace Outline

/-- An outline of the system as the component sees it. -/
def comap (L : Outline T O E' ι σ) (f : Translation R R') : Outline T O E ι σ where
  inv := L.inv
  rest := L.rest
  start := L.start
  ok t o e := L.ok t o (f.action e)
  event t o e := L.event t o (f.action e)
  rely t e := L.rely t (e.map f.action)
  rely_refl t _ := L.rely_refl t _
  rely_trans t _ := L.rely_trans t _
  rest_rely := L.rest_rely

variable {L : Outline T O E' ι σ} {M : Machine T E' R' ι σ} {f : Translation R R'} {t : T} {o : O}
  {Q : α → σ → Prop}

/-- A program that is safe as a program of the component is safe in the system. -/
theorem Safe.lift {p : Prog E R α} :
    ∀ {s : σ}, (L.comap f).Safe (M.comap f) t o Q p s → L.Safe M t o Q (p.lift f) s := by
  induction p with
  | ret a => intro s h; exact h
  | act e k ih =>
      intro s h s₁ hrely hI i s₂ r hok hx
      have hcomap : (M.comap f).exec t e i s₁ = some (s₂, f.reply e r) := by
        show (M.exec t (f.action e) i s₁).map _ = _
        rw [hx]
        rfl
      obtain ⟨hevent, hI₂, hk⟩ := h s₁ hrely hI i s₂ (f.reply e r) hok hcomap
      exact ⟨hevent, hI₂, ih (f.reply e r) hk⟩

end Outline

end SomeServer.Lib
