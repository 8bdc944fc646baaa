/-
# SomeServer.Lib.Prog — programs over a signature of atomic actions

A call of a multi-threaded service is not one step: it runs one critical section, or one command of
a server, after another, and other threads may run in between. `Prog E R α` is such a call: a finite
tree whose nodes are the atomic actions `e : E` and whose branches are the replies `R e` the action
can get. What an action does is not part of the tree, it is given later by a `Machine`, so the same
program is read sequentially or interleaved with others.
-/
namespace SomeServer.Lib

/-- A program that performs actions from `E`, each answered by a reply in `R e`, and returns `α`. -/
inductive Prog (E : Type) (R : E → Type) (α : Type) : Type where
  | ret (a : α) : Prog E R α
  | act (e : E) (k : R e → Prog E R α) : Prog E R α

namespace Prog

variable {E : Type} {R : E → Type} {α β : Type}

/-- The program that performs one action and returns its reply. -/
def call (e : E) : Prog E R (R e) := .act e .ret

/-- Sequential composition. -/
def bind : Prog E R α → (α → Prog E R β) → Prog E R β
  | .ret a, f => f a
  | .act e k, f => .act e fun r => (k r).bind f

instance : Monad (Prog E R) where
  pure := .ret
  bind := bind

@[simp] theorem pure_eq (a : α) : (pure a : Prog E R α) = .ret a := rfl

@[simp] theorem ret_bind (a : α) (f : α → Prog E R β) : (Prog.ret a >>= f) = f a := rfl

@[simp] theorem act_bind (e : E) (k : R e → Prog E R α) (f : α → Prog E R β) :
    (Prog.act e k >>= f) = .act e fun r => k r >>= f := rfl

@[simp] theorem call_bind (e : E) (f : R e → Prog E R β) :
    ((call e : Prog E R (R e)) >>= f) = .act e f := rfl

theorem bind_ret (p : Prog E R α) : p >>= Prog.ret = p := by
  induction p with
  | ret a => rfl
  | act e k ih =>
      show Prog.act e (fun r => k r >>= Prog.ret) = Prog.act e k
      exact congrArg (Prog.act e) (funext ih)

theorem bind_bind {γ : Type} (p : Prog E R α) (f : α → Prog E R β) (g : β → Prog E R γ) :
    (p >>= f) >>= g = p >>= fun a => f a >>= g := by
  induction p with
  | ret a => rfl
  | act e k ih =>
      show Prog.act e (fun r => (k r >>= f) >>= g) = Prog.act e fun r => k r >>= fun a => f a >>= g
      exact congrArg (Prog.act e) (funext ih)

/-- The action a program is waiting to perform, `none` once it has returned. -/
def pending : Prog E R α → Option E
  | .ret _ => none
  | .act e _ => some e

@[simp] theorem pending_ret (a : α) : (Prog.ret a : Prog E R α).pending = none := rfl

@[simp] theorem pending_act (e : E) (k : R e → Prog E R α) : (Prog.act e k).pending = some e := rfl

/-- What the program has returned, `none` while it is still running. -/
def result? : Prog E R α → Option α
  | .ret a => some a
  | .act _ _ => none

/-- Every action that the program can come to, whatever the replies are, satisfies `P`. -/
def All (P : E → Prop) : Prog E R α → Prop
  | .ret _ => True
  | .act e k => P e ∧ ∀ r, (k r).All P

@[simp] theorem all_ret {P : E → Prop} {a : α} : (Prog.ret a : Prog E R α).All P := trivial

@[simp] theorem all_act {P : E → Prop} {e : E} {k : R e → Prog E R α} :
    (Prog.act e k).All P ↔ P e ∧ ∀ r, (k r).All P := Iff.rfl

theorem All.bind {P : E → Prop} {p : Prog E R α} {f : α → Prog E R β} (hp : p.All P)
    (hf : ∀ a, (f a).All P) : (p >>= f).All P := by
  induction p with
  | ret a => exact hf a
  | act e k ih => exact ⟨hp.1, fun r => ih r (hp.2 r)⟩

theorem All.mono {P P' : E → Prop} {p : Prog E R α} (h : p.All P) (hP : ∀ e, P e → P' e) :
    p.All P' := by
  induction p with
  | ret a => trivial
  | act e k ih => exact ⟨hP e h.1, fun r => ih r (h.2 r)⟩

/-- What every action satisfies, all actions of a program satisfy. -/
theorem All.of_forall {P : E → Prop} (h : ∀ e, P e) (p : Prog E R α) : p.All P := by
  induction p with
  | ret a => trivial
  | act e k ih => exact ⟨h e, ih⟩

/-- A property of programs that a composition has as soon as its parts have it. -/
structure Compositional (S : (α : Type) → Prog E R α → Prop) : Prop where
  pure : ∀ {α : Type} (a : α), S α (.ret a)
  bind : ∀ {α β : Type} {p : Prog E R α} {f : α → Prog E R β}, S α p → (∀ a, S β (f a)) → S β (p >>= f)

theorem compositional_all {P : E → Prop} :
    Compositional fun (α : Type) (p : Prog E R α) => p.All P where
  pure _ := trivial
  bind hp hf := hp.bind hf

@[simp] theorem result?_ret (a : α) : (Prog.ret a : Prog E R α).result? = some a := rfl

@[simp] theorem result?_act (e : E) (k : R e → Prog E R α) : (Prog.act e k).result? = none := rfl

/-- With some replies, the program comes to perform this action. -/
def Does (e : E) : Prog E R α → Prop
  | .ret _ => False
  | .act e' k => e' = e ∨ ∃ r, (k r).Does e

@[simp] theorem not_does_ret {e : E} {a : α} : ¬ (Prog.ret a : Prog E R α).Does e := id

@[simp] theorem does_call {e e' : E} : (call e' : Prog E R (R e')).Does e ↔ e' = e :=
  ⟨fun h => h.elim id fun ⟨_, h⟩ => h.elim, .inl⟩

theorem All.of_does {P : E → Prop} {e : E} {p : Prog E R α} (hp : p.All P) (h : p.Does e) : P e := by
  induction p with
  | ret a => exact h.elim
  | act e' k ih =>
      rcases h with rfl | ⟨r, h⟩
      · exact hp.1
      · exact ih r (hp.2 r) h

/-- The actions of a program, in their order, and its result, when these are the replies. -/
def trace (reply : (e : E) → R e) : Prog E R α → List E × α
  | .ret a => ([], a)
  | .act e k => (e :: ((k (reply e)).trace reply).1, ((k (reply e)).trace reply).2)

end Prog

end SomeServer.Lib
