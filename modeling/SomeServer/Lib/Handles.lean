/-
# SomeServer.Lib.Handles — handles that are given out and given back

A library gives out handles by number and takes each back once. `Holds` says that the handles that are open are
those that somebody holds; the operations are stated for what one holds together with whatever the others hold, so
that a program that goes through several holders is done with one holder at a time (`Holds.walk`).
-/
import Mathlib.Data.List.Perm.Basic
import Mathlib.Data.List.Nodup

namespace SomeServer.Lib

/-- The next number, the open handles, and what has been given back, with whether it was open. -/
structure Handles where
  next : Nat := 0
  live : List Nat := []
  returned : List (Nat × Bool) := []

namespace Handles

/-- A new handle is given out. -/
def give (w : Handles) : Handles := { w with next := w.next + 1, live := w.next :: w.live }

/-- A handle is given back. -/
def giveBack (w : Handles) (n : Nat) : Handles :=
  { w with live := w.live.erase n, returned := (n, decide (n ∈ w.live)) :: w.returned }

/-- A handle is given back, if there is one. -/
def giveBack? (w : Handles) : Option Nat → Handles
  | none => w
  | some n => w.giveBack n

/-- The open handles are those that are held, each by one, and nothing was given back that was not open. -/
structure Holds (w : Handles) (held : List Nat) : Prop where
  live : w.live.Perm held
  nodup : w.live.Nodup
  below : ∀ n ∈ w.live, n < w.next
  returned : ∀ r ∈ w.returned, r.2 = true

namespace Holds

variable {w : Handles} {held held' : List Nat} {n : Nat}

theorem start : Holds {} [] := ⟨.refl _, List.nodup_nil, by simp, by simp⟩

theorem perm (h : Holds w held) (hheld : held.Perm held') : Holds w held' :=
  ⟨h.live.trans hheld, h.nodup, h.below, h.returned⟩

theorem give (h : Holds w held) : Holds w.give (w.next :: held) where
  live := h.live.cons _
  nodup := List.nodup_cons.mpr ⟨fun hmem => Nat.lt_irrefl _ (h.below _ hmem), h.nodup⟩
  below n hn := by
    rcases List.mem_cons.mp hn with rfl | hold
    · exact Nat.lt_succ_self _
    · exact Nat.lt_succ_of_lt (h.below n hold)
  returned := h.returned

theorem giveBack (h : Holds w (n :: held)) : Holds (w.giveBack n) held where
  live := by
    have herase := h.live.erase n
    rw [List.erase_cons_head] at herase
    exact herase
  nodup := h.nodup.erase n
  below m hm := h.below m (List.mem_of_mem_erase hm)
  returned r hr := by
    rcases List.mem_cons.mp hr with rfl | hold
    · exact decide_eq_true (h.live.mem_iff.mpr List.mem_cons_self)
    · exact h.returned r hold

theorem giveBack? {handle : Option Nat} (h : Holds w (handle.toList ++ held)) : Holds (w.giveBack? handle) held := by
  cases handle with
  | none => exact h
  | some n => exact h.giveBack

/-- What is held is open. -/
theorem mem (h : Holds w held) (hn : n ∈ held) : n ∈ w.live := h.live.mem_iff.mpr hn

end Holds

/-! ## One holder after the other -/

variable {S : Type}

/-- Something is done with each of some holders. -/
def walk (f : S → Handles → Handles × S) : List S → Handles → Handles × List S
  | [], w => (w, [])
  | s :: ss, w =>
      let x := f s w
      let y := walk f ss x.1
      (y.1, x.2 :: y.2)

variable {f : S → Handles → Handles × S} {handle : S → Option Nat}

/-- What all of them hold. -/
def heldBy (handle : S → Option Nat) (ss : List S) : List Nat := ss.flatMap fun s => (handle s).toList

@[simp] theorem heldBy_nil : heldBy handle [] = [] := rfl

@[simp] theorem heldBy_cons {s : S} {ss : List S} : heldBy handle (s :: ss) = (handle s).toList ++ heldBy handle ss := rfl

/-- When each step is right about one holder, whatever the others hold, the whole walk is. -/
theorem Holds.walk (hf : ∀ s w others, Holds w ((handle s).toList ++ others) →
      Holds (f s w).1 ((handle (f s w).2).toList ++ others)) (ss : List S) {w : Handles} {others : List Nat}
    (h : Holds w (heldBy handle ss ++ others)) :
    Holds (Handles.walk f ss w).1 (heldBy handle (Handles.walk f ss w).2 ++ others) := by
  induction ss generalizing w others with
  | nil => exact h
  | cons s ss ih =>
      rw [heldBy_cons, List.append_assoc] at h
      have hstep := hf s w _ h
      -- the rest goes on while the first is one of the others
      have hrest : Holds (f s w).1 (heldBy handle ss ++ ((handle (f s w).2).toList ++ others)) := by
        refine hstep.perm ?_
        rw [← List.append_assoc, ← List.append_assoc]
        exact List.perm_append_comm.append_right others
      refine (ih hrest).perm ?_
      show (heldBy handle _ ++ ((handle _).toList ++ others)).Perm (((handle _).toList ++ heldBy handle _) ++ others)
      rw [← List.append_assoc]
      exact List.perm_append_comm.append_right others

/-- Every holder is one that a step has left. -/
theorem mem_walk {ss : List S} {w : Handles} {s' : S} (h : s' ∈ (walk f ss w).2) : ∃ s ∈ ss, ∃ w', s' = (f s w').2 := by
  induction ss generalizing w with
  | nil => cases h
  | cons s ss ih =>
      rcases List.mem_cons.mp h with rfl | hrest
      · exact ⟨s, List.mem_cons_self, w, rfl⟩
      · obtain ⟨s', hs', w', heq⟩ := ih hrest
        exact ⟨s', List.mem_cons_of_mem _ hs', w', heq⟩

/-- What a step leaves as it is of a holder stays as it is in all of them. -/
theorem map_walk {β : Type} {g : S → β} (hf : ∀ s w, g (f s w).2 = g s) (ss : List S) (w : Handles) :
    (walk f ss w).2.map g = ss.map g := by
  induction ss generalizing w with
  | nil => rfl
  | cons s ss ih => exact congr_arg₂ List.cons (hf s w) (ih _)

end Handles

end SomeServer.Lib
