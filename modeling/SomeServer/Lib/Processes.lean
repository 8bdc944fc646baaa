/-
# SomeServer.Lib.Processes — processes that share a world

Each process has threads with tasks before them and a state of its own, and all of them act on one world.
`TaskSystem.many` is the system of all processes, whose threads are known by their process; `Crew.of` is what
one process has of it. A move of one process is a move of what it has, and leaves all others with what they
have, but for the world (`move_of`, `move_of_ne`). `Run.forall_processes` is the induction over runs for what
each process keeps, whatever the others make of the world.
-/
import SomeServer.Lib.Tasks

namespace SomeServer.Lib

variable {P T O K ι ω τ : Type}

namespace Move

/-- The process that moves, and its move. -/
def process : Move (P × T) O ι → P
  | .start t _ => t.1
  | .act t _ => t.1

def inside : Move (P × T) O ι → Move T O ι
  | .start t o => .start t.2 o
  | .act t i => .act t.2 i

end Move

variable [DecidableEq P] [DecidableEq T]

/-- All processes as one system. -/
def TaskSystem.many (W : P → TaskSystem T O K ι (ω × τ)) : TaskSystem (P × T) O K ι (ω × (P → τ)) where
  begin t o := (W t.1).begin t.2 o
  exec free t k i s :=
    ((W t.1).exec (fun u => free (t.1, u)) t.2 k i (s.1, s.2 t.1)).map fun p =>
      { shared := (p.shared.1, Function.update s.2 t.1 p.shared.2)
        tasks := p.tasks
        started := p.started.map fun u => ((t.1, u.1), u.2) }

namespace Crew

/-- What one process has. -/
def of (c : Crew (P × T) K (ω × (P → τ))) (p : P) : Crew T K (ω × τ) :=
  ⟨(c.shared.1, c.shared.2 p), fun t => c.tasks (p, t)⟩

/-- The same in another world. -/
def within (c : Crew T K (ω × τ)) (w : ω) : Crew T K (ω × τ) := ⟨(w, c.shared.2), c.tasks⟩

variable {W : P → TaskSystem T O K ι (ω × τ)} {c c' c₀ : Crew (P × T) K (ω × (P → τ))} {m : Move (P × T) O ι}
  {guard : Crew (P × T) K (ω × (P → τ)) → Move (P × T) O ι → Prop} {p q : P} {t : T} {rest ks : List K}

theorem begun_of : (c.begun (p, t) ks).of p = (c.of p).begun t ks := by
  have htasks : ∀ u, (c.begun (p, t) ks).tasks (p, u) = Function.update (c.of p).tasks t ks u := by
    intro u
    by_cases hu : u = t
    · rw [hu, begun_tasks_self, Function.update_self]
    · rw [Function.update_of_ne hu]
      exact begun_tasks_of_ne fun heq => hu (Prod.mk.inj heq).2
  exact congrArg (Crew.mk _) (funext htasks)

theorem begun_of_ne (h : q ≠ p) : (c.begun (p, t) ks).of q = c.of q := by
  have htasks : ∀ u, (c.begun (p, t) ks).tasks (q, u) = c.tasks (q, u) := fun u =>
    begun_tasks_of_ne fun heq => h (Prod.mk.inj heq).1
  exact congrArg (Crew.mk _) (funext htasks)

section After

variable {r : Performed T K (ω × τ)}

/-- What the system is told of a step that one process made. -/
def lifted (c : Crew (P × T) K (ω × (P → τ))) (p : P) (r : Performed T K (ω × τ)) :
    Performed (P × T) K (ω × (P → τ)) where
  shared := (r.shared.1, Function.update c.shared.2 p r.shared.2)
  tasks := r.tasks
  started := r.started.map fun u => ((p, u.1), u.2)

theorem after_of : (c.after (p, t) rest (c.lifted p r)).of p = (c.of p).after t rest r := by
  have hshared : ((c.lifted p r).shared.1, (c.lifted p r).shared.2 p) = r.shared :=
    Prod.ext rfl (Function.update_self ..)
  have htasks : ∀ u, (c.after (p, t) rest (c.lifted p r)).tasks (p, u) = ((c.of p).after t rest r).tasks u := by
    intro u
    have hupdate : Function.update c.tasks (p, t) (r.tasks ++ rest) (p, u) =
        Function.update (fun v => c.tasks (p, v)) t (r.tasks ++ rest) u := by
      by_cases hu : u = t
      · rw [hu, Function.update_self, Function.update_self]
      · rw [Function.update_of_ne hu, Function.update_of_ne fun heq => hu (Prod.mk.inj heq).2]
    cases hstarted : r.started with
    | none => simpa [after, lifted, of, hstarted] using hupdate
    | some v =>
        obtain ⟨v, first⟩ := v
        by_cases hv : u = v
        · subst hv
          simp [after, lifted, hstarted]
        · simpa [after, lifted, of, hstarted, hv] using hupdate
  show Crew.mk _ _ = Crew.mk _ _
  rw [funext htasks]
  exact congrArg (Crew.mk · _) hshared

theorem after_of_ne (h : q ≠ p) :
    (c.after (p, t) rest (c.lifted p r)).of q = (c.of q).within r.shared.1 := by
  have hshared : (c.lifted p r).shared.2 q = c.shared.2 q := Function.update_of_ne h ..
  have htasks : ∀ u, (c.after (p, t) rest (c.lifted p r)).tasks (q, u) = c.tasks (q, u) := by
    intro u
    apply after_tasks_of_ne fun heq => h (Prod.mk.inj heq).1
    intro first hfirst
    obtain ⟨v, -, heq⟩ := Option.map_eq_some_iff.mp hfirst
    exact h (congrArg (fun x => x.1.1) heq).symm
  show Crew.mk _ _ = Crew.mk _ _
  rw [funext htasks]
  exact congrArg (fun s => Crew.mk (r.shared.1, s) _) hshared

end After

/-- Everything a step of one process can do. -/
theorem move_many {i : ι} (h : c.move (.many W) (.act (p, t) i) = some c') :
    ∃ k rest r, (c.of p).tasks t = k :: rest ∧ (W p).exec (c.of p).free t k i (c.of p).shared = some r ∧
      c' = c.after (p, t) rest (c.lifted p r) := by
  obtain ⟨k, rest, r, ht, hr, rfl⟩ := move_act h
  obtain ⟨r', hr', rfl⟩ := Option.map_eq_some_iff.mp hr
  exact ⟨k, rest, r', ht, hr', rfl⟩

/-- A move is a move of what its process has. -/
theorem move_of (h : c.move (.many W) m = some c') :
    (c.of m.process).move (W m.process) m.inside = some (c'.of m.process) := by
  cases m with
  | start t o =>
      obtain ⟨hfree, ks, hks, rfl⟩ := move_start h
      have hempty : (c.of t.1).free t.2 = true := free_iff.mpr hfree
      show (if (c.of t.1).free t.2 then ((W t.1).begin t.2 o).map ((c.of t.1).begun t.2) else none) = _
      rw [if_pos hempty, show (W t.1).begin t.2 o = some ks from hks]
      exact congrArg some begun_of.symm
  | act t i =>
      obtain ⟨k, rest, r, ht, hr, rfl⟩ := move_many h
      simp only [move, Move.process, Move.inside, ht, hr, Option.map_some]
      exact congrArg some after_of.symm

/-- The other processes have what they had, but for the world. -/
theorem move_of_ne (h : c.move (.many W) m = some c') (hq : q ≠ m.process) :
    c'.of q = (c.of q).within c'.shared.1 := by
  cases m with
  | start t o =>
      obtain ⟨-, ks, -, rfl⟩ := move_start h
      exact begun_of_ne hq
  | act t i =>
      obtain ⟨k, rest, r, -, -, rfl⟩ := move_many h
      exact after_of_ne hq

/-- What each process keeps by its own moves, and whatever the others make of the world. -/
theorem Run.forall_processes {I : P → Crew T K (ω × τ) → Prop} {R : ω → ω → Prop}
    (h₀ : ∀ p, I p (c₀.of p))
    (hworld : ∀ p c w, I p c → R c.shared.1 w → I p (c.within w))
    (hmove : ∀ p (c c' : Crew T K (ω × τ)) m, c.move (W p) m = some c' → R c.shared.1 c'.shared.1)
    (hstep : ∀ c m c', guard c m → I m.process (c.of m.process) →
      (c.of m.process).move (W m.process) m.inside = some c' → I m.process c')
    (h : Run (.many W) guard c₀ c) : ∀ p, I p (c.of p) := by
  induction h with
  | refl => exact h₀
  | @tail d d' m _ hg hm ih =>
      intro p
      have hown := move_of hm
      by_cases hp : p = m.process
      · subst hp
        exact hstep d m _ hg (ih _) hown
      · rw [move_of_ne hm hp]
        exact hworld p _ _ (ih p) (hmove _ _ _ _ hown)

end Crew

end SomeServer.Lib
