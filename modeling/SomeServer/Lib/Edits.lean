/-
# SomeServer.Lib.Edits — maps that are edited key by key

An edit gives a key a value or takes its value away. `replay` makes edits one after the other; what a key has
afterwards depends on what it had before and on the edits of this key. If every key is edited at most once,
the order does not matter.
-/
import Mathlib.Logic.Function.Basic
import Mathlib.Data.List.Nodup

namespace SomeServer.Lib

variable {K V : Type} [DecidableEq K] {f g : K → Option V} {edits : List (K × Option V)} {k : K}
  {v : Option V}

/-- The map after some edits. -/
def replay (edits : List (K × Option V)) (f : K → Option V) : K → Option V :=
  edits.foldl (fun f edit => Function.update f edit.1 edit.2) f

@[simp] theorem replay_nil : replay [] f = f := rfl

theorem replay_cons {edit : K × Option V} :
    replay (edit :: edits) f = replay edits (Function.update f edit.1 edit.2) := rfl

theorem replay_append {later : List (K × Option V)} :
    replay (edits ++ later) f = replay later (replay edits f) :=
  List.foldl_append

/-- What a key has afterwards depends on what it had before. -/
theorem replay_congr (h : f k = g k) : replay edits f k = replay edits g k := by
  induction edits generalizing f g with
  | nil => exact h
  | cons edit edits ih =>
      rw [replay_cons, replay_cons]
      apply ih
      by_cases hk : k = edit.1
      · rw [hk, Function.update_self, Function.update_self]
      · rw [Function.update_of_ne hk, Function.update_of_ne hk, h]

theorem replay_of_notMem (h : k ∉ edits.map Prod.fst) : replay edits f k = f k := by
  induction edits generalizing f with
  | nil => rfl
  | cons edit edits ih =>
      rw [List.map_cons, List.mem_cons, not_or] at h
      rw [replay_cons, ih h.2, Function.update_of_ne h.1]

theorem replay_of_mem (hnodup : (edits.map Prod.fst).Nodup) (h : (k, v) ∈ edits) : replay edits f k = v := by
  induction edits generalizing f with
  | nil => cases h
  | cons edit edits ih =>
      rw [List.map_cons, List.nodup_cons] at hnodup
      rw [replay_cons]
      rcases List.mem_cons.1 h with rfl | h
      · rw [replay_of_notMem hnodup.1, Function.update_self]
      · exact ih hnodup.2 h

end SomeServer.Lib
