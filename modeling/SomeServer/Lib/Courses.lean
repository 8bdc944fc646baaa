/-
# SomeServer.Lib.Courses — what a call has performed

A call performs one action after the other, each with an input and in a state that other threads may have left.
`Prog.Course` is the list of the actions that lead from a program to what is left of it; the course of a
composition falls into the courses of its parts (`course_bind`). `Prog.Solo` is a course in which nothing happens
between the actions, from a state to a state. `Pool.Calls` is one call in the middle of a run: whatever the other
threads do in between, what the call has performed is a course of its program (`Pool.Calls.course`).
-/
import SomeServer.Lib.Pool

namespace SomeServer.Lib

variable {T O E : Type} {R : E → Type} {α β ι σ : Type}

/-- An action that was performed: its input, the state that it was performed in, and its reply. -/
structure Did (E : Type) (R : E → Type) (ι σ : Type) where
  act : E
  input : ι
  before : σ
  reply : R act

namespace Prog

/-- These actions lead from one program to another. -/
inductive Course (M : Machine T E R ι σ) (t : T) : Prog E R α → List (Did E R ι σ) → Prog E R α → Prop
  | refl (p : Prog E R α) : Course M t p [] p
  | act {e : E} {k : R e → Prog E R α} {i : ι} {s s' : σ} {r : R e} {l : List (Did E R ι σ)} {q : Prog E R α} :
      M.exec t e i s = some (s', r) → Course M t (k r) l q → Course M t (.act e k) (⟨e, i, s, r⟩ :: l) q

variable {M : Machine T E R ι σ} {t : T} {p q : Prog E R α} {l l' : List (Did E R ι σ)}

theorem Course.trans (h : Course M t p l q) {q' : Prog E R α} (h' : Course M t q l' q') :
    Course M t p (l ++ l') q' := by
  induction h with
  | refl => exact h'
  | act hexec _ ih => exact .act hexec (ih h')

/-- A program that has returned performs nothing. -/
theorem course_ret {a : α} : Course M t (.ret a) l q ↔ l = [] ∧ q = .ret a := by
  constructor
  · intro h
    cases h
    exact ⟨rfl, rfl⟩
  · rintro ⟨rfl, rfl⟩
    exact .refl _

/-- A program that returns performs its first action. -/
theorem course_act {e : E} {k : R e → Prog E R α} {a : α} : Course M t (.act e k) l (.ret a) ↔
    ∃ i s s' r l', l = ⟨e, i, s, r⟩ :: l' ∧ M.exec t e i s = some (s', r) ∧ Course M t (k r) l' (.ret a) := by
  constructor
  · intro h
    cases h with
    | act hexec hrest => exact ⟨_, _, _, _, _, rfl, hexec, hrest⟩
  · rintro ⟨i, s, s', r, l', rfl, hexec, hrest⟩
    exact .act hexec hrest

theorem course_call {e : E} {r : R e} : Course M t (call e) l (.ret r) ↔
    ∃ i s s', l = [⟨e, i, s, r⟩] ∧ M.exec t e i s = some (s', r) := by
  rw [call, course_act]
  constructor
  · rintro ⟨i, s, s', r', l', rfl, hexec, hrest⟩
    obtain ⟨rfl, hr⟩ := course_ret.1 hrest
    cases hr
    exact ⟨i, s, s', rfl, hexec⟩
  · rintro ⟨i, s, s', rfl, hexec⟩
    exact ⟨i, s, s', r, [], rfl, hexec, .refl _⟩

/-- The course of a composition is one of the first program and then one of the second. -/
theorem course_bind {p : Prog E R β} {f : β → Prog E R α} {a : α} : Course M t (p >>= f) l (.ret a) ↔
    ∃ l₁ b l₂, l = l₁ ++ l₂ ∧ Course M t p l₁ (.ret b) ∧ Course M t (f b) l₂ (.ret a) := by
  induction p generalizing l with
  | ret b =>
      constructor
      · intro h
        exact ⟨[], b, l, rfl, .refl _, h⟩
      · rintro ⟨l₁, b', l₂, rfl, hfirst, hrest⟩
        obtain ⟨rfl, hb⟩ := course_ret.1 hfirst
        cases hb
        exact hrest
  | act e k ih =>
      rw [act_bind, course_act]
      constructor
      · rintro ⟨i, s, s', r, l', rfl, hexec, hrest⟩
        obtain ⟨l₁, b, l₂, rfl, hfirst, hsecond⟩ := (ih r).1 hrest
        exact ⟨⟨e, i, s, r⟩ :: l₁, b, l₂, rfl, .act hexec hfirst, hsecond⟩
      · rintro ⟨l₁, b, l₂, rfl, hfirst, hsecond⟩
        obtain ⟨i, s, s', r, l', rfl, hexec, hrest⟩ := course_act.1 hfirst
        exact ⟨i, s, s', r, l' ++ l₂, rfl, hexec, (ih r).2 ⟨l', b, l₂, rfl, hrest, hsecond⟩⟩

/-- What every action of a program satisfies is true of those that were performed. -/
theorem Course.all {P : E → Prop} (h : Course M t p l q) (hp : p.All P) : ∀ d ∈ l, P d.act := by
  induction h with
  | refl => exact fun _ hd => absurd hd List.not_mem_nil
  | act _ _ ih =>
      intro d hd
      rcases List.mem_cons.1 hd with rfl | hd
      · exact hp.1
      · exact ih (hp.2 _) d hd

/-! ## Nothing else running -/

/-- A program runs from one state to another and nothing happens in between: what it performs, and what it
returns. -/
inductive Solo (M : Machine T E R ι σ) (t : T) : Prog E R α → σ → List (Did E R ι σ) → α → σ → Prop
  | ret (a : α) (s : σ) : Solo M t (.ret a) s [] a s
  | act {e : E} {k : R e → Prog E R α} {i : ι} {s s' s'' : σ} {r : R e} {l : List (Did E R ι σ)} {a : α} :
      M.exec t e i s = some (s', r) → Solo M t (k r) s' l a s'' → Solo M t (.act e k) s (⟨e, i, s, r⟩ :: l) a s''

section

variable {a : α} {s s' s'' : σ}

theorem Solo.course (h : Solo M t p s l a s') : Course M t p l (.ret a) := by
  induction h with
  | ret a s => exact .refl _
  | act hexec _ ih => exact .act hexec ih

theorem solo_ret {b : α} : Solo M t (.ret b) s l a s' ↔ l = [] ∧ a = b ∧ s' = s := by
  constructor
  · intro h
    cases h
    exact ⟨rfl, rfl, rfl⟩
  · rintro ⟨rfl, rfl, rfl⟩
    exact .ret _ _

theorem solo_act {e : E} {k : R e → Prog E R α} : Solo M t (.act e k) s l a s' ↔
    ∃ i s₁ r l', l = ⟨e, i, s, r⟩ :: l' ∧ M.exec t e i s = some (s₁, r) ∧ Solo M t (k r) s₁ l' a s' := by
  constructor
  · intro h
    cases h with
    | act hexec hrest => exact ⟨_, _, _, _, rfl, hexec, hrest⟩
  · rintro ⟨i, s₁, r, l', rfl, hexec, hrest⟩
    exact .act hexec hrest

theorem solo_call {e : E} {r : R e} : Solo M t (call e) s l r s' ↔
    ∃ i, l = [⟨e, i, s, r⟩] ∧ M.exec t e i s = some (s', r) := by
  rw [call, solo_act]
  constructor
  · rintro ⟨i, s₁, r', l', rfl, hexec, hrest⟩
    obtain ⟨rfl, rfl, rfl⟩ := solo_ret.1 hrest
    exact ⟨i, rfl, hexec⟩
  · rintro ⟨i, rfl, hexec⟩
    exact ⟨i, s', r, [], rfl, hexec, .ret _ _⟩

theorem solo_bind {p : Prog E R β} {f : β → Prog E R α} : Solo M t (p >>= f) s l a s' ↔
    ∃ l₁ b s₁ l₂, l = l₁ ++ l₂ ∧ Solo M t p s l₁ b s₁ ∧ Solo M t (f b) s₁ l₂ a s' := by
  induction p generalizing l s with
  | ret b =>
      constructor
      · intro h
        exact ⟨[], b, s, l, rfl, .ret _ _, h⟩
      · rintro ⟨l₁, b', s₁, l₂, rfl, hfirst, hrest⟩
        obtain ⟨rfl, rfl, rfl⟩ := solo_ret.1 hfirst
        exact hrest
  | act e k ih =>
      rw [act_bind, solo_act]
      constructor
      · rintro ⟨i, s₁, r, l', rfl, hexec, hrest⟩
        obtain ⟨l₁, b, s₂, l₂, rfl, hfirst, hsecond⟩ := (ih r).1 hrest
        exact ⟨⟨e, i, s, r⟩ :: l₁, b, s₂, l₂, rfl, .act hexec hfirst, hsecond⟩
      · rintro ⟨l₁, b, s₂, l₂, rfl, hfirst, hsecond⟩
        obtain ⟨i, s₁, r, l', rfl, hexec, hrest⟩ := solo_act.1 hfirst
        exact ⟨i, s₁, r, l' ++ l₂, rfl, hexec, (ih r).2 ⟨l', b, s₂, l₂, rfl, hrest, hsecond⟩⟩

/-- What every action of a program keeps, the program keeps. -/
theorem Solo.keep {P : E → Prop} {K : σ → Prop}
    (hkeep : ∀ e i s s' r, P e → M.exec t e i s = some (s', r) → K s → K s')
    (hp : p.All P) (h : Solo M t p s l a s') (hs : K s) : K s' := by
  induction h with
  | ret a s => exact hs
  | act hexec _ ih => exact ih (hp.2 _) (hkeep _ _ _ _ _ hp.1 hexec hs)

/-- The program under these inputs, if they are enough. -/
def soloRun (M : Machine T E R ι σ) (t : T) :
    List ι → Prog E R α → σ → Option (List (Did E R ι σ) × α × σ)
  | _, .ret a, s => some ([], a, s)
  | [], .act _ _, _ => none
  | i :: is, .act e k, s => (M.exec t e i s).bind fun x =>
      (soloRun M t is (k x.2) x.1).map fun y => (⟨e, i, s, x.2⟩ :: y.1, y.2)

theorem Solo.of_soloRun {is : List ι} (h : soloRun M t is p s = some (l, a, s')) : Solo M t p s l a s' := by
  induction is generalizing p s l with
  | nil =>
      cases p with
      | ret b =>
          cases h
          exact .ret _ _
      | act e k => cases h
  | cons i is ih =>
      cases p with
      | ret b =>
          cases h
          exact .ret _ _
      | act e k =>
          obtain ⟨x, hexec, hrest⟩ := Option.bind_eq_some_iff.1 h
          obtain ⟨⟨l', a', s''⟩, hy, heq⟩ := Option.map_eq_some_iff.1 hrest
          cases heq
          exact .act hexec (ih hy)

end

end Prog

namespace Pool

variable [DecidableEq T]

/-- The call of an operation that a thread has started in a run, with what it has performed since. -/
inductive Calls (M : Machine T E R ι σ) (code : T → O → Prog E R α)
    (guard : Pool T O E R α σ → Move T O ι → Prop) (c₀ : Pool T O E R α σ) (t : T) (o : O) :
    List (Did E R ι σ) → Pool T O E R α σ → Prop
  | start {c c' : Pool T O E R α σ} : Run M code guard c₀ c → guard c (.start t o) →
      c.move M code (.start t o) = some c' → Calls M code guard c₀ t o [] c'
  | own {c : Pool T O E R α σ} {l : List (Did E R ι σ)} {o' : O} {e : E} {k : R e → Prog E R α} {i : ι} {s : σ}
      {r : R e} : Calls M code guard c₀ t o l c → guard c (.act t i) → c.threads t = some (o', .act e k) →
      M.exec t e i c.shared = some (s, r) →
        Calls M code guard c₀ t o (l ++ [⟨e, i, c.shared, r⟩])
          ⟨s, Function.update c.threads t (some (o', k r))⟩
  | other {c c' : Pool T O E R α σ} {l : List (Did E R ι σ)} {m : Move T O ι} :
      Calls M code guard c₀ t o l c → m.thread ≠ t → guard c m → c.move M code m = some c' →
        Calls M code guard c₀ t o l c'

variable {M : Machine T E R ι σ} {code : T → O → Prog E R α} {guard : Pool T O E R α σ → Move T O ι → Prop}
  {c₀ c : Pool T O E R α σ} {t : T} {o : O} {l : List (Did E R ι σ)}

/-- Another thread's move leaves a call where it is. -/
theorem threads_of_move_ne {c' : Pool T O E R α σ} {m : Move T O ι} (h : c.move M code m = some c')
    (hne : m.thread ≠ t) : c'.threads t = c.threads t := by
  cases m with
  | start u o' =>
      obtain ⟨-, rfl⟩ := move_start h
      exact Function.update_of_ne (Ne.symm hne) ..
  | act u i =>
      obtain ⟨o', e, k, s, r, -, -, rfl⟩ := move_act h
      exact Function.update_of_ne (Ne.symm hne) ..

/-- What a call has performed is a course of its program. -/
theorem Calls.course (h : Calls M code guard c₀ t o l c) :
    ∃ p, c.threads t = some (o, p) ∧ Prog.Course M t (code t o) l p := by
  induction h with
  | start _ _ hmove =>
      obtain ⟨-, rfl⟩ := move_start hmove
      exact ⟨_, Function.update_self .., .refl _⟩
  | own _ _ ht hexec ih =>
      obtain ⟨p, hp, hcourse⟩ := ih
      rw [ht] at hp
      cases hp
      exact ⟨_, Function.update_self .., hcourse.trans (.act hexec (.refl _))⟩
  | other _ hne _ hmove ih =>
      obtain ⟨p, hp, hcourse⟩ := ih
      exact ⟨p, (threads_of_move_ne hmove hne).trans hp, hcourse⟩

/-- A call that has returned has come to the end of its course. -/
theorem Calls.returned_course (h : Calls M code guard c₀ t o l c) {o' : O} {a : α}
    (hreturned : c.threads t = some (o', .ret a)) : Prog.Course M t (code t o) l (.ret a) := by
  obtain ⟨p, hp, hcourse⟩ := h.course
  rw [hreturned] at hp
  cases hp
  exact hcourse

/-- Moves after the start of a call, with what its thread performs. -/
def playOn (M : Machine T E R ι σ) (code : T → O → Prog E R α) (t : T) :
    List (Move T O ι) → List (Did E R ι σ) → Pool T O E R α σ → Option (List (Did E R ι σ) × Pool T O E R α σ)
  | [], l, c => some (l, c)
  | m :: ms, l, c =>
      if m.thread ≠ t then (c.move M code m).bind (playOn M code t ms l)
      else match m, c.threads t with
        | .act _ i, some (o, .act e k) => (M.exec t e i c.shared).bind fun x =>
            playOn M code t ms (l ++ [⟨e, i, c.shared, x.2⟩]) ⟨x.1, Function.update c.threads t (some (o, k x.2))⟩
        | _, _ => none

theorem Calls.playOn (hguard : ∀ d m, guard d m) {ms : List (Move T O ι)} (h : Calls M code guard c₀ t o l c)
    {l' : List (Did E R ι σ)} {c' : Pool T O E R α σ} (hplay : Pool.playOn M code t ms l c = some (l', c')) :
    Calls M code guard c₀ t o l' c' := by
  induction ms generalizing l c with
  | nil =>
      cases hplay
      exact h
  | cons m ms ih =>
      simp only [Pool.playOn] at hplay
      split at hplay
      · rename_i hne
        obtain ⟨d, hmove, hrest⟩ := Option.bind_eq_some_iff.1 hplay
        exact ih (h.other hne (hguard c m) hmove) hrest
      · rename_i hsame
        split at hplay
        · rename_i u i o' e k ht
          obtain rfl : u = t := not_not.1 hsame
          obtain ⟨x, hexec, hrest⟩ := Option.bind_eq_some_iff.1 hplay
          exact ih (h.own (hguard c _) ht hexec) hrest
        · cases hplay

/-- A run that is played, a call that is started, and moves after it. -/
theorem Calls.exists_of_play (hguard : ∀ d m, guard d m) {ms ms' : List (Move T O ι)} {δ : Type}
    {f : List (Did E R ι σ) × Pool T O E R α σ → δ} {y : δ}
    (h : ((c₀.play M code (fun _ _ => true) ms).bind fun c => (c.move M code (.start t o)).bind fun d =>
      Pool.playOn M code t ms' [] d).map f = some y) :
    ∃ l c, Calls M code guard c₀ t o l c ∧ f (l, c) = y := by
  obtain ⟨⟨l, c⟩, hplayed, hy⟩ := Option.map_eq_some_iff.1 h
  obtain ⟨d, hrun, hstarted⟩ := Option.bind_eq_some_iff.1 hplayed
  obtain ⟨d', hstart, hrest⟩ := Option.bind_eq_some_iff.1 hstarted
  have hreach : Run M code guard c₀ d := Run.play (fun d m _ => hguard d m) .refl hrun
  exact ⟨l, c, (Calls.start hreach (hguard d _) hstart).playOn hguard hrest, hy⟩

end Pool

end SomeServer.Lib
