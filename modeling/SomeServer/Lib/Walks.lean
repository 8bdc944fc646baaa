/-
# SomeServer.Lib.Walks — walks along a relation, and what makes them come back

A walk goes from one point to the next as a relation allows. When every walk from a point is to be free of
repetitions it is the circles that can be reached from the point that matter, and no walk is then longer
than the number of points there are.
-/
import Mathlib.Data.List.Chain
import Mathlib.Data.List.Nodup

namespace SomeServer.Lib

variable {A : Type} {R : A → A → Prop} {a b : A}

/-- A walk from the point leads to one that it can come back to. -/
def Circles (R : A → A → Prop) (a : A) : Prop :=
  ∃ b, Relation.ReflTransGen R a b ∧ Relation.TransGen R b b

theorem Circles.of_step (h : R a b) (hb : Circles R b) : Circles R a := by
  obtain ⟨c, hreach, hback⟩ := hb
  exact ⟨c, .head h hreach, hback⟩

/-- Where a walk has been, and where it goes from there. -/
theorem transGen_of_isChain {l : List A} (h : List.IsChain R (a :: l)) (hb : b ∈ l) :
    Relation.TransGen R a b := by
  have hchain : List.IsChain (Relation.TransGen R) (a :: l) := h.imp fun _ _ => .single
  exact (List.pairwise_cons.mp (List.isChain_iff_pairwise.mp hchain)).1 b hb

theorem nodup_of_isChain {l : List A} (h : List.IsChain R (a :: l)) (ha : ¬ Circles R a) :
    (a :: l).Nodup := by
  induction l generalizing a with
  | nil => exact List.nodup_singleton a
  | cons b l ih =>
      obtain ⟨hstep, hrest⟩ := List.isChain_cons_cons.mp h
      refine List.nodup_cons.mpr ⟨?_, ih hrest fun hb => ha (hb.of_step hstep)⟩
      intro hmem
      exact ha ⟨a, .refl, transGen_of_isChain h hmem⟩

/-- A walk to a point that can be come back to repeats it. -/
theorem exists_isChain_not_nodup (ha : Circles R a) : ∃ l, List.IsChain R (a :: l) ∧ ¬ (a :: l).Nodup := by
  obtain ⟨b, hreach, hback⟩ := ha
  obtain ⟨c, hstep, hreturn⟩ := Relation.TransGen.head'_iff.mp hback
  obtain ⟨l, hl, hlast⟩ := List.exists_isChain_cons_of_relationReflTransGen hreach
  obtain ⟨l', hl', hlast'⟩ := List.exists_isChain_cons_of_relationReflTransGen hreturn
  have hl'b : b ∈ c :: l' := by
    rw [← hlast']
    exact List.getLast_mem _
  have hlb : b ∈ a :: l := by
    rw [← hlast]
    exact List.getLast_mem _
  refine ⟨l ++ c :: l', ?_, ?_⟩
  · rw [← List.cons_append]
    refine List.IsChain.append hl hl' ?_
    intro x hx y hy
    rw [List.getLast?_eq_some_getLast (List.cons_ne_nil a l), hlast] at hx
    cases hx
    cases hy
    exact hstep
  · rw [← List.cons_append]
    intro hnodup
    exact (List.nodup_append.mp hnodup).2.2 b hlb b hl'b rfl

/-- **The walks from a point are free of repetitions** exactly if none of them leads into a circle. -/
theorem walks_nodup_iff :
    (∀ l, List.IsChain R (a :: l) → (a :: l).Nodup) ↔ ¬ Circles R a := by
  constructor
  · intro h hcircles
    obtain ⟨l, hl, hrepeat⟩ := exists_isChain_not_nodup hcircles
    exact hrepeat (h l hl)
  · intro h l hl
    exact nodup_of_isChain hl h

/-- A walk without repetitions among finitely many points is no longer than these are many. -/
theorem length_le_of_isChain {points l : List A} (hpoints : ∀ a b, R a b → b ∈ points) (ha : a ∈ points)
    (h : List.IsChain R (a :: l)) (hnodup : (a :: l).Nodup) : (a :: l).length ≤ points.length := by
  refine List.Nodup.length_le_of_subset hnodup ?_
  intro b hb
  rcases List.mem_cons.mp hb with rfl | hb
  · exact ha
  · obtain ⟨c, -, hstep⟩ := Relation.TransGen.tail'_iff.mp (transGen_of_isChain h hb)
    exact hpoints c b hstep

end SomeServer.Lib
