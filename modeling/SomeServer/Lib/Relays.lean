/-
# SomeServer.Lib.Relays — items that are handed on, and the order in which they arrive

An item starts at a node, or comes to one over a link; the node keeps it or puts it on a link, and goes by the flow of
the item only. What comes over a link is handled in its order. When it is handled, and what comes first of different
links, is open, and an item may be dropped wherever it is. So the items of a flow all go one way, and if that way has an
end, no two parts of it lead into the same link. The node at the end then keeps some of the items, in the order in which
they have started: all of them, when none was dropped and the links of the way are empty.
-/
import Mathlib.Data.List.Basic
import Mathlib.Logic.Function.Basic
import Mathlib.Logic.Relation

namespace SomeServer.Lib

/-- What a node does with an item. -/
inductive Hop (L : Type) where
  | keep
  | pass (l : L)
  | drop

/-- How the items of a flow are handed on. An item that starts is at `none`, one that has come over a link at the link;
`node` is who has it there. -/
structure Relays (N L E F : Type) where
  flow : E → F
  node : F → Option L → N
  hop : F → Option L → Hop L

namespace Relays

/-- All that has started, all that each link has got and how much of it has been handled, and where the rest is. -/
structure State (N L E : Type) where
  started : List E := []
  carried : L → List E := fun _ => []
  handled : L → Nat := fun _ => 0
  kept : N → List E := fun _ => []
  dropped : List E := []

variable {N L E F : Type}

namespace State

/-- What has come to a place. -/
def arrived (s : State N L E) : Option L → List E
  | none => s.started
  | some l => (s.carried l).take (s.handled l)

/-- The item may come to the place next. -/
def Next (s : State N L E) (e : E) : Option L → Prop
  | none => True
  | some l => (s.carried l)[s.handled l]? = some e

/-- What has left a node in this way. -/
def out (s : State N L E) (n : N) : Hop L → List E
  | .keep => s.kept n
  | .pass l => s.carried l
  | .drop => s.dropped

variable [DecidableEq L]

def arrive (s : State N L E) (e : E) : Option L → State N L E
  | none => { s with started := s.started ++ [e] }
  | some l => { s with handled := Function.update s.handled l (s.handled l + 1) }

variable {s : State N L E} {e : E} {x y : Option L} {n n' : N} {hop hop' : Hop L} {l : L}

@[simp] theorem out_arrive : (s.arrive e x).out n hop = s.out n hop := by
  cases x <;> cases hop <;> rfl

@[simp] theorem carried_arrive : (s.arrive e x).carried l = s.carried l := by
  cases x <;> rfl

theorem arrived_arrive_self (h : s.Next e x) : (s.arrive e x).arrived x = s.arrived x ++ [e] := by
  cases x with
  | none => rfl
  | some l =>
      have hnext : (s.carried l)[s.handled l]? = some e := h
      simp [arrive, arrived, List.take_add_one, hnext]

theorem arrived_arrive_of_ne (h : y ≠ x) : (s.arrive e x).arrived y = s.arrived y := by
  cases x with
  | none =>
      cases y with
      | none => exact absurd rfl h
      | some l => rfl
  | some l =>
      cases y with
      | none => rfl
      | some l' =>
          have hne : l' ≠ l := fun heq => h (congrArg some heq)
          simp [arrive, arrived, Function.update_of_ne hne]

variable [DecidableEq N]

def put (s : State N L E) (n : N) (e : E) : Hop L → State N L E
  | .keep => { s with kept := Function.update s.kept n (s.kept n ++ [e]) }
  | .pass l => { s with carried := Function.update s.carried l (s.carried l ++ [e]) }
  | .drop => { s with dropped := s.dropped ++ [e] }

theorem out_put_self : (s.put n e hop).out n hop = s.out n hop ++ [e] := by
  cases hop <;> simp [put, out]

theorem out_put_of_ne (n' : N) (h : hop' ≠ hop) : (s.put n e hop).out n' hop' = s.out n' hop' := by
  cases hop with
  | keep => cases hop' <;> first | exact absurd rfl h | rfl
  | drop => cases hop' <;> first | exact absurd rfl h | rfl
  | pass l =>
      cases hop' with
      | keep => rfl
      | drop => rfl
      | pass l' =>
          have hne : l' ≠ l := fun heq => h (congrArg Hop.pass heq)
          simp [put, out, Function.update_of_ne hne]

/-- Whatever is put, it is put behind what is there. -/
theorem out_put_eq_or (n' : N) (hop' : Hop L) : (s.put n e hop).out n' hop' = s.out n' hop' ∨
    (s.put n e hop).out n' hop' = s.out n' hop' ++ [e] := by
  cases hop with
  | drop =>
      cases hop' with
      | drop => exact .inr rfl
      | keep => exact .inl rfl
      | pass l => exact .inl rfl
  | pass l =>
      cases hop' with
      | drop => exact .inl rfl
      | keep => exact .inl rfl
      | pass l' =>
          by_cases hl : l' = l
          · subst hl
            exact .inr (by simp [put, out])
          · exact .inl (by simp [put, out, Function.update_of_ne hl])
  | keep =>
      cases hop' with
      | drop => exact .inl rfl
      | pass l => exact .inl rfl
      | keep =>
          by_cases hn : n' = n
          · subst hn
            exact .inr (by simp [put, out])
          · exact .inl (by simp [put, out, Function.update_of_ne hn])

theorem arrived_put (h : ∀ l, s.handled l ≤ (s.carried l).length) :
    (s.put n e hop).arrived x = s.arrived x := by
  cases x with
  | none => cases hop <;> rfl
  | some l =>
      have hhandled : (s.put n e hop).handled = s.handled := by cases hop <;> rfl
      have hcarried : (s.put n e hop).carried l = s.carried l ∨ (s.put n e hop).carried l = s.carried l ++ [e] :=
        out_put_eq_or n (.pass l)
      unfold arrived
      dsimp only
      rw [hhandled]
      rcases hcarried with heq | heq
      · rw [heq]
      · rw [heq, List.take_append_of_le_length (h l)]

end State

/-! ## The way of a flow -/

section Way

variable {R : Relays N L E F} {f : F} {x y z : Option L} {l : L}

/-- The places that the items of a flow come to. -/
inductive Comes (R : Relays N L E F) (f : F) : Option L → Prop
  | start : Comes R f none
  | pass {x : Option L} {l : L} : Comes R f x → R.hop f x = .pass l → Comes R f (some l)

/-- The end of the way. -/
def Ends (R : Relays N L E F) (f : F) (x : Option L) : Prop := R.Comes f x ∧ R.hop f x = .keep

/-- One place leads to the other. -/
def Onward (R : Relays N L E F) (f : F) (x y : Option L) : Prop := ∃ l, R.hop f x = .pass l ∧ y = some l

theorem onward_unique : Relator.RightUnique (R.Onward f) := by
  rintro x y z ⟨l, hy, rfl⟩ ⟨l', hz, rfl⟩
  rw [hy] at hz
  cases hz
  rfl

theorem Comes.reached (h : R.Comes f x) : Relation.ReflTransGen (R.Onward f) none x := by
  induction h with
  | start => exact .refl
  | pass _ hpass ih => exact ih.tail ⟨_, hpass, rfl⟩

/-- From the end no place is reached. -/
theorem Ends.eq_of_reached (hz : R.Ends f z) (h : Relation.ReflTransGen (R.Onward f) z x) : z = x := by
  rcases Relation.ReflTransGen.cases_head h with heq | ⟨y, ⟨l, hpass, -⟩, -⟩
  · exact heq
  · rw [hz.2] at hpass
    cases hpass

/-- The end is reached from every place of the way. -/
theorem Ends.reached (hz : R.Ends f z) (hx : R.Comes f x) : Relation.ReflTransGen (R.Onward f) x z := by
  rcases Relation.ReflTransGen.total_of_right_unique onward_unique hx.reached hz.1.reached with h | h
  · exact h
  · rw [hz.eq_of_reached h]

theorem Ends.unique (hx : R.Ends f x) (hy : R.Ends f y) : x = y := hx.eq_of_reached (hy.reached hx.1)

/-- What comes back to one place comes back to all that follow. -/
theorem transGen_of_reached (hx : Relation.TransGen (R.Onward f) x x)
    (h : Relation.ReflTransGen (R.Onward f) x y) : Relation.TransGen (R.Onward f) y y := by
  induction h with
  | refl => exact hx
  | tail _ hstep ih =>
      obtain ⟨w, hfirst, hback⟩ := Relation.TransGen.head'_iff.mp ih
      rw [onward_unique hstep hfirst]
      exact Relation.TransGen.tail' (onward_unique hstep hfirst ▸ hback) hfirst

/-- A way with an end does not come back. -/
theorem Ends.not_transGen (hz : R.Ends f z) (hx : R.Comes f x) : ¬ Relation.TransGen (R.Onward f) x x := by
  intro hback
  obtain ⟨y, ⟨l, hpass, -⟩, -⟩ := Relation.TransGen.head'_iff.mp (transGen_of_reached hback (hz.reached hx))
  rw [hz.2] at hpass
  cases hpass

/-- On a way with an end no two places lead into one link. -/
theorem Ends.before_unique (hz : R.Ends f z) (hx : R.Comes f x) (hy : R.Comes f y)
    (hpx : R.hop f x = .pass l) (hpy : R.hop f y = .pass l) : x = y := by
  have hafter : ∀ {a b : Option L}, R.Comes f a → R.hop f a = .pass l → R.hop f b = .pass l →
      Relation.ReflTransGen (R.Onward f) a b → a = b := by
    intro a b ha hpa hpb hreach
    rcases Relation.ReflTransGen.cases_head hreach with heq | ⟨c, hstep, hrest⟩
    · exact heq
    · have hc : c = some l := onward_unique hstep ⟨l, hpa, rfl⟩
      subst hc
      exact absurd (Relation.TransGen.tail' hrest ⟨l, hpb, rfl⟩) (hz.not_transGen (.pass ha hpa))
  rcases Relation.ReflTransGen.total_of_right_unique onward_unique hx.reached hy.reached with h | h
  · exact hafter hx hpx hpy h
  · exact (hafter hy hpy hpx h).symm

/-- On a way with an end two places that are not left in the same way are two. -/
theorem Ends.hop_ne (hz : R.Ends f z) (hx : R.Comes f x) (hy : R.Comes f y) (hne : x ≠ y)
    (hkept : R.hop f y ≠ .drop) : R.hop f x ≠ R.hop f y := by
  intro heq
  cases hhop : R.hop f y with
  | drop => exact hkept hhop
  | keep => exact hne (Ends.unique ⟨hx, heq.trans hhop⟩ ⟨hy, hhop⟩)
  | pass l => exact hne (hz.before_unique hx hy (heq.trans hhop) hhop)

end Way

/-! ## Runs -/

section Runs

/-- The items are on the way of their flow, or at its end. -/
structure OnWay (R : Relays N L E F) (s : State N L E) : Prop where
  handled : ∀ l, s.handled l ≤ (s.carried l).length
  carried : ∀ l, ∀ e ∈ s.carried l, R.Comes (R.flow e) (some l)
  kept : ∀ n, ∀ e ∈ s.kept n, ∃ x, R.Ends (R.flow e) x ∧ R.node (R.flow e) x = n

variable {R : Relays N L E F} {s s' : State N L E} {e : E} {x : Option L} {hop : Hop L} {f : F}

theorem OnWay.comes (hs : R.OnWay s) (hnext : s.Next e x) : R.Comes (R.flow e) x := by
  cases x with
  | none => exact .start
  | some l => exact hs.carried l e (List.mem_of_getElem? hnext)

theorem OnWay.initial : R.OnWay {} where
  handled _ := Nat.le_refl 0
  carried _ _ he := absurd he List.not_mem_nil
  kept _ _ he := absurd he List.not_mem_nil

variable [DecidableEq L]

theorem OnWay.arrive (hs : R.OnWay s) (hnext : s.Next e x) : R.OnWay (s.arrive e x) := by
  constructor
  · intro l
    rw [State.carried_arrive]
    cases x with
    | none => exact hs.handled l
    | some l' =>
        by_cases hl : l = l'
        · subst hl
          have hlt := (List.getElem?_eq_some_iff.mp hnext).1
          simpa [State.arrive] using Nat.succ_le_of_lt hlt
        · simpa [State.arrive, Function.update_of_ne hl] using hs.handled l
  · intro l
    rw [State.carried_arrive]
    exact hs.carried l
  · intro n
    have hkept : (s.arrive e x).kept n = s.kept n := by cases x <;> rfl
    rw [hkept]
    exact hs.kept n

variable [DecidableEq N]

/-- An item comes to a place next, and is handed on, or dropped. -/
inductive Step (R : Relays N L E F) : State N L E → State N L E → Prop
  | take {s : State N L E} {e : E} {x : Option L} {hop : Hop L} (hnext : s.Next e x)
      (hhop : hop = R.hop (R.flow e) x ∨ hop = .drop) :
      Step R s ((s.arrive e x).put (R.node (R.flow e) x) e hop)

abbrev Reaches (R : Relays N L E F) : State N L E → Prop := Relation.ReflTransGen R.Step {}

theorem OnWay.put (hs : R.OnWay s) (hx : R.Comes (R.flow e) x) (hhop : hop = R.hop (R.flow e) x ∨ hop = .drop) :
    R.OnWay (s.put (R.node (R.flow e) x) e hop) := by
  cases hop with
  | drop => exact ⟨hs.handled, hs.carried, hs.kept⟩
  | keep =>
      have hkeep : R.hop (R.flow e) x = .keep := (hhop.resolve_right (by simp)).symm
      refine ⟨hs.handled, hs.carried, fun n e' he' => ?_⟩
      by_cases hn : n = R.node (R.flow e) x
      · subst hn
        have hmem : e' ∈ s.kept (R.node (R.flow e) x) ∨ e' = e := by simpa [State.put] using he'
        rcases hmem with hold | rfl
        · exact hs.kept _ e' hold
        · exact ⟨x, ⟨hx, hkeep⟩, rfl⟩
      · exact hs.kept n e' (by simpa [State.put, Function.update_of_ne hn] using he')
  | pass l =>
      have hpass : R.hop (R.flow e) x = .pass l := (hhop.resolve_right (by simp)).symm
      refine ⟨fun l' => ?_, fun l' e' he' => ?_, hs.kept⟩
      · by_cases hl : l' = l
        · subst hl
          simpa [State.put] using Nat.le_succ_of_le (hs.handled l')
        · simpa [State.put, Function.update_of_ne hl] using hs.handled l'
      · by_cases hl : l' = l
        · subst hl
          have hmem : e' ∈ s.carried l' ∨ e' = e := by simpa [State.put] using he'
          rcases hmem with hold | rfl
          · exact hs.carried _ e' hold
          · exact hx.pass hpass
        · exact hs.carried l' e' (by simpa [State.put, Function.update_of_ne hl] using he')

theorem OnWay.step (hs : R.OnWay s) (h : R.Step s s') : R.OnWay s' := by
  cases h with
  | take hnext hhop => exact (hs.arrive hnext).put (hs.comes hnext) hhop

/-- In every run the items are on the way of their flow, or at its end. -/
theorem onWay_of_reaches (h : R.Reaches s) : R.OnWay s := by
  induction h with
  | refl => exact .initial
  | tail _ hstep ih => exact ih.step hstep

end Runs

/-! ## The order -/

section Order

variable {R : Relays N L E F} {s s' : State N L E} {e : E} {x : Option L} {hop : Hop L} {f : F} [DecidableEq F]

/-- The items of a flow. -/
def of (R : Relays N L E F) (f : F) (es : List E) : List E := es.filter fun e => R.flow e = f

/-- A part of the items has come on, in their order: all of them if none was dropped. -/
structure Follows (R : Relays N L E F) (f : F) (dropped part whole : List E) : Prop where
  sublist : (R.of f part).Sublist (R.of f whole)
  eq : R.of f dropped = [] → R.of f part = R.of f whole

/-- At every place of the way what has left follows what has come. -/
def InOrder (R : Relays N L E F) (f : F) (s : State N L E) : Prop :=
  ∀ x, R.Comes f x → R.hop f x ≠ .drop →
    R.Follows f s.dropped (s.out (R.node f x) (R.hop f x)) (s.arrived x)

theorem of_append {es : List E} (h : R.flow e = f) : R.of f (es ++ [e]) = R.of f es ++ [e] := by
  simp [of, h]

theorem of_append_other {es : List E} (h : R.flow e ≠ f) : R.of f (es ++ [e]) = R.of f es := by
  simp [of, h]

theorem InOrder.initial : R.InOrder f {} := by
  intro x _ _
  have harrived : ({} : State N L E).arrived x = [] := by cases x <;> rfl
  have hout : ({} : State N L E).out (R.node f x) (R.hop f x) = [] := by
    cases R.hop f x <;> rfl
  rw [harrived, hout]
  exact ⟨.refl _, fun _ => rfl⟩

theorem of_arrived_sublist {es : List E} {k : Nat} : (R.of f (es.take k)).Sublist (R.of f es) :=
  (List.take_sublist k es).filter _

/-- What has come to a place of the way are items that have started, in their order. -/
theorem InOrder.arrived_sublist (h : R.InOrder f s) {x : Option L} (hx : R.Comes f x) :
    (R.of f (s.arrived x)).Sublist (R.of f s.started) := by
  induction hx with
  | start => exact .refl _
  | @pass x l hx hpass ih =>
      have hout := (h x hx (by simp [hpass])).sublist
      rw [hpass] at hout
      exact (of_arrived_sublist.trans hout).trans ih

/-- And all of these, if none was dropped and the links of the way are empty. -/
theorem InOrder.arrived_eq (h : R.InOrder f s) (hnone : R.of f s.dropped = [])
    (hempty : ∀ l, R.Comes f (some l) → s.handled l = (s.carried l).length) {x : Option L} (hx : R.Comes f x) :
    R.of f (s.arrived x) = R.of f s.started := by
  induction hx with
  | start => rfl
  | @pass x l hx hpass ih =>
      have hout := (h x hx (by simp [hpass])).eq hnone
      rw [hpass] at hout
      have htaken : s.arrived (some l) = s.carried l := by
        show (s.carried l).take (s.handled l) = s.carried l
        rw [hempty l (hx.pass hpass), List.take_length]
      rw [htaken]
      exact hout.trans ih

variable [DecidableEq L]

theorem of_arrived_other {y : Option L} (h : R.flow e ≠ f) (hnext : s.Next e x) :
    R.of f ((s.arrive e x).arrived y) = R.of f (s.arrived y) := by
  by_cases hy : y = x
  · subst hy
    rw [State.arrived_arrive_self hnext, of_append_other h]
  · rw [State.arrived_arrive_of_ne hy]

variable [DecidableEq N]

theorem of_out_put_other {n : N} (n' : N) (hop' : Hop L) (h : R.flow e ≠ f) :
    R.of f ((s.put n e hop).out n' hop') = R.of f (s.out n' hop') := by
  rcases State.out_put_eq_or (s := s) (n := n) (e := e) n' hop' with heq | heq
  · rw [heq]
  · rw [heq, of_append_other h]

/-- An item of another flow changes nothing for this one. -/
theorem InOrder.other (hs : R.OnWay s) (h : R.InOrder f s) (hnext : s.Next e x) (he : R.flow e ≠ f) {n : N} :
    R.InOrder f ((s.arrive e x).put n e hop) := by
  intro y hy hkept
  obtain ⟨hsub, heq⟩ := h y hy hkept
  have hdropped : R.of f ((s.arrive e x).put n e hop).dropped = R.of f s.dropped :=
    (of_out_put_other n .drop he).trans (congrArg _ State.out_arrive)
  have harrived : R.of f (((s.arrive e x).put n e hop).arrived y) = R.of f (s.arrived y) := by
    rw [State.arrived_put (hs.arrive hnext).handled]
    exact of_arrived_other he hnext
  have hout : R.of f (((s.arrive e x).put n e hop).out (R.node f y) (R.hop f y)) =
      R.of f (s.out (R.node f y) (R.hop f y)) :=
    (of_out_put_other _ _ he).trans (congrArg _ State.out_arrive)
  exact ⟨by rwa [hout, harrived], by rwa [hdropped, hout, harrived]⟩

/-- An item of the flow leaves the place that it has come to, and no other; or it is dropped there. -/
theorem InOrder.same {z : Option L} (hz : R.Ends f z) (hs : R.OnWay s) (h : R.InOrder f s) (hnext : s.Next e x)
    (he : R.flow e = f) (hhop : hop = R.hop f x ∨ hop = .drop) :
    R.InOrder f ((s.arrive e x).put (R.node f x) e hop) := by
  have hx : R.Comes f x := he ▸ hs.comes hnext
  intro y hy hkept
  obtain ⟨hsub, heq⟩ := h y hy hkept
  rw [State.arrived_put (hs.arrive hnext).handled]
  by_cases hdrop : hop = .drop
  · subst hdrop
    have hout : ((s.arrive e x).put (R.node f x) e .drop).out (R.node f y) (R.hop f y) =
        s.out (R.node f y) (R.hop f y) := (State.out_put_of_ne _ hkept).trans State.out_arrive
    have hlost : R.of f ((s.arrive e x).put (R.node f x) e .drop).dropped ≠ [] := by
      show R.of f ((s.arrive e x).dropped ++ [e]) ≠ []
      rw [of_append he]
      exact List.append_ne_nil_of_right_ne_nil _ (List.cons_ne_nil e [])
    refine ⟨?_, fun hnone => absurd hnone hlost⟩
    rw [hout]
    by_cases hyx : y = x
    · subst hyx
      rw [State.arrived_arrive_self hnext, of_append he]
      exact hsub.trans (List.sublist_append_left _ _)
    · rwa [State.arrived_arrive_of_ne hyx]
  · have hthis : hop = R.hop f x := hhop.resolve_right hdrop
    subst hthis
    have hdropped : ((s.arrive e x).put (R.node f x) e (R.hop f x)).dropped = s.dropped :=
      (State.out_put_of_ne (R.node f x) (Ne.symm hdrop)).trans State.out_arrive
    rw [hdropped]
    by_cases hyx : y = x
    · subst hyx
      rw [State.out_put_self, State.out_arrive, State.arrived_arrive_self hnext]
      refine ⟨?_, fun hnone => ?_⟩
      · rw [of_append he, of_append he]
        exact hsub.append_right [e]
      · rw [of_append he, of_append he, heq hnone]
    · have hne : R.hop f y ≠ R.hop f x := hz.hop_ne hy hx hyx hdrop
      rw [State.out_put_of_ne _ hne, State.out_arrive, State.arrived_arrive_of_ne hyx]
      exact ⟨hsub, heq⟩

theorem InOrder.step {z : Option L} (hz : R.Ends f z) (hs : R.OnWay s) (h : R.InOrder f s) (hstep : R.Step s s') :
    R.InOrder f s' := by
  cases hstep with
  | @take e x hop hnext hhop =>
      by_cases he : R.flow e = f
      · subst he
        exact h.same hz hs hnext rfl hhop
      · exact h.other hs hnext he

/-- In every run the items of a flow that has an end are in order all the way. -/
theorem inOrder_of_reaches {z : Option L} (hz : R.Ends f z) (h : R.Reaches s) : R.InOrder f s := by
  induction h with
  | refl => exact .initial
  | tail hrun hstep ih => exact ih.step hz (onWay_of_reaches hrun) hstep

/-- What a node keeps of a flow has started, and is kept in that order. -/
theorem kept_sublist (h : R.Reaches s) (n : N) : (R.of f (s.kept n)).Sublist (R.of f s.started) := by
  by_cases hend : ∃ x, R.Ends f x ∧ R.node f x = n
  · obtain ⟨x, hx, rfl⟩ := hend
    have horder := inOrder_of_reaches hx h
    have hout := (horder x hx.1 (by simp [hx.2])).sublist
    rw [hx.2] at hout
    exact hout.trans (horder.arrived_sublist hx.1)
  · have hnone : R.of f (s.kept n) = [] := by
      refine List.filter_eq_nil_iff.mpr fun e he hflow => ?_
      obtain ⟨x, hx, hnode⟩ := (onWay_of_reaches h).kept n e he
      rw [of_decide_eq_true hflow] at hx hnode
      exact hend ⟨x, hx, hnode⟩
    rw [hnone]
    exact List.nil_sublist _

/-- A flow is kept by one node at most. -/
theorem keeper_unique (h : R.Reaches s) (h' : R.Reaches s') {n n' : N} (hn : R.of f (s.kept n) ≠ [])
    (hn' : R.of f (s'.kept n') ≠ []) : n = n' := by
  have hend : ∀ {s : State N L E} {n : N}, R.Reaches s → R.of f (s.kept n) ≠ [] →
      ∃ x, R.Ends f x ∧ R.node f x = n := by
    intro s n h hn
    obtain ⟨e, he⟩ := List.exists_mem_of_ne_nil _ hn
    obtain ⟨hmem, hflow⟩ := List.mem_filter.mp he
    have hkept := (onWay_of_reaches h).kept n e hmem
    rwa [of_decide_eq_true hflow] at hkept
  obtain ⟨x, hx, rfl⟩ := hend h hn
  obtain ⟨y, hy, rfl⟩ := hend h' hn'
  rw [hx.unique hy]

/-- All that has started is kept at the end of the way, if none was dropped and the links of the way are empty. -/
theorem kept_eq (h : R.Reaches s) {z : Option L} (hz : R.Ends f z) (hnone : R.of f s.dropped = [])
    (hempty : ∀ l, R.Comes f (some l) → s.handled l = (s.carried l).length) :
    R.of f (s.kept (R.node f z)) = R.of f s.started := by
  have horder := inOrder_of_reaches hz h
  have hout := (horder z hz.1 (by simp [hz.2])).eq hnone
  rw [hz.2] at hout
  exact hout.trans (horder.arrived_eq hnone hempty hz.1)

/-- An item of a flow that has started is dropped, or kept, or not yet handled. -/
def Somewhere (R : Relays N L E F) (f : F) (s : State N L E) : Prop :=
  R.of f s.dropped ≠ [] ∨ (∃ n, R.of f (s.kept n) ≠ []) ∨ ∃ l, R.of f ((s.carried l).drop (s.handled l)) ≠ []

omit [DecidableEq N] [DecidableEq L] in
theorem of_append_ne_nil {es : List E} (h : R.of f es ≠ [] ∨ R.flow e = f) : R.of f (es ++ [e]) ≠ [] := by
  by_cases he : R.flow e = f
  · rw [of_append he]
    exact List.append_ne_nil_of_right_ne_nil _ (List.cons_ne_nil e [])
  · rw [of_append_other he]
    exact h.resolve_right he

omit [DecidableEq N] in
/-- What is handled next is all that is handled. -/
theorem Somewhere.arrive (h : R.Somewhere f s) (hnext : s.Next e x) (he : R.flow e ≠ f) :
    R.Somewhere f (s.arrive e x) := by
  cases x with
  | none => exact h
  | some l =>
      refine h.imp id (Or.imp id fun hleft => ?_)
      obtain ⟨l', hl'⟩ := hleft
      refine ⟨l', ?_⟩
      by_cases hl : l' = l
      · subst hl
        obtain ⟨hlt, hget⟩ := List.getElem?_eq_some_iff.mp (show (s.carried l')[s.handled l']? = some e from hnext)
        rw [List.drop_eq_getElem_cons hlt, hget] at hl'
        simpa [State.arrive, of, he] using hl'
      · simpa [State.arrive, Function.update_of_ne hl] using hl'

theorem Somewhere.put (hs : ∀ l, s.handled l ≤ (s.carried l).length) (h : R.Somewhere f s ∨ R.flow e = f) {n : N} :
    R.Somewhere f (s.put n e hop) := by
  have hgrows : ∀ n' hop', R.of f (s.out n' hop') ≠ [] → R.of f ((s.put n e hop).out n' hop') ≠ [] := by
    intro n' hop' hne
    rcases State.out_put_eq_or (s := s) (n := n) (e := e) n' hop' with heq | heq
    · rwa [heq]
    · rw [heq]
      exact of_append_ne_nil (.inl hne)
  rcases h with hold | hnew
  · rcases hold with hdropped | ⟨n', hkept⟩ | ⟨l, hleft⟩
    · exact .inl (hgrows n .drop hdropped)
    · exact .inr (.inl ⟨n', hgrows n' .keep hkept⟩)
    · refine .inr (.inr ⟨l, ?_⟩)
      have hhandled : (s.put n e hop).handled = s.handled := by cases hop <;> rfl
      have hcarried : (s.put n e hop).carried l = s.carried l ∨ (s.put n e hop).carried l = s.carried l ++ [e] :=
        State.out_put_eq_or n (.pass l)
      rw [hhandled]
      rcases hcarried with heq | heq
      · rwa [heq]
      · rw [heq, List.drop_append_of_le_length (hs l)]
        exact of_append_ne_nil (.inl hleft)
  · have hout : R.of f ((s.put n e hop).out n hop) ≠ [] := by
      rw [State.out_put_self]
      exact of_append_ne_nil (.inr hnew)
    cases hop with
    | drop => exact .inl hout
    | keep => exact .inr (.inl ⟨n, hout⟩)
    | pass l =>
        refine .inr (.inr ⟨l, ?_⟩)
        have hcarried : (s.put n e (.pass l)).carried l = s.carried l ++ [e] := Function.update_self ..
        rw [hcarried]
        show R.of f ((s.carried l ++ [e]).drop (s.handled l)) ≠ []
        rw [List.drop_append_of_le_length (hs l)]
        exact of_append_ne_nil (.inr hnew)

theorem somewhere_of_reaches (h : R.Reaches s) (hstarted : R.of f s.started ≠ []) : R.Somewhere f s := by
  induction h with
  | refl => exact absurd rfl hstarted
  | @tail s s' hrun hstep ih =>
      cases hstep with
      | @take e x hop hnext hhop =>
          have hs := onWay_of_reaches hrun
          refine .put (hs.arrive hnext).handled ?_
          by_cases he : R.flow e = f
          · exact .inr he
          · refine .inl ((ih ?_).arrive hnext he)
            have hsame : ((s.arrive e x).put (R.node (R.flow e) x) e hop).started = (s.arrive e x).started := by
              cases hop <;> rfl
            rw [hsame] at hstarted
            have hother := of_arrived_other (y := none) he hnext
            exact fun hnil => hstarted (hother.trans hnil)

/-- When nothing of a flow was dropped and no link has any item left, one node has kept all that has started. -/
theorem exists_kept_eq (h : R.Reaches s) (hnone : R.of f s.dropped = [])
    (hempty : ∀ l, s.handled l = (s.carried l).length) : ∃ n, R.of f (s.kept n) = R.of f s.started := by
  by_cases hstarted : R.of f s.started = []
  · refine ⟨R.node f none, ?_⟩
    rw [hstarted]
    exact List.sublist_nil.mp (hstarted ▸ kept_sublist h (R.node f none))
  · rcases somewhere_of_reaches h hstarted with hdropped | ⟨n, hkept⟩ | ⟨l, hleft⟩
    · exact absurd hnone hdropped
    · obtain ⟨e, he⟩ := List.exists_mem_of_ne_nil _ hkept
      obtain ⟨hmem, hflow⟩ := List.mem_filter.mp he
      obtain ⟨x, hx, rfl⟩ := (onWay_of_reaches h).kept n e hmem
      rw [of_decide_eq_true hflow] at hx
      exact ⟨_, kept_eq h hx hnone fun l _ => hempty l⟩
    · rw [hempty l, List.drop_length] at hleft
      exact absurd rfl hleft

end Order

end Relays

end SomeServer.Lib
