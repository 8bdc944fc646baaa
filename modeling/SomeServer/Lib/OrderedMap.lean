/-
# SomeServer.Lib.OrderedMap — `std::map` as a list of entries

A map that is walked in the order of its keys is the list of its entries, with increasing keys. The operations
are those on the list (`lookup`, `assign`), so that a data type may nest such lists in itself; `OrderedMap` is
the list together with its order.
-/
import Mathlib.Data.List.Basic
import Mathlib.Order.Lattice

namespace SomeServer.Lib

namespace Ordered

variable {K V : Type} [LinearOrder K]

/-- The value of a key. -/
def lookup (k : K) : List (K × V) → Option V
  | [] => none
  | (k', v) :: l => if k' = k then some v else lookup k l

/-- `map[k] = v`: the value of the key is replaced, or the entry put in its place. -/
def assign (k : K) (v : V) : List (K × V) → List (K × V)
  | [] => [(k, v)]
  | (k', v') :: l =>
      if k < k' then (k, v) :: (k', v') :: l
      else if k' = k then (k, v) :: l
      else (k', v') :: assign k v l

/-- The keys increase. -/
def Increasing (l : List (K × V)) : Prop := (l.map Prod.fst).Pairwise (· < ·)

variable {k k' : K} {v v' : V} {l : List (K × V)}

@[simp] theorem lookup_nil : lookup k ([] : List (K × V)) = none := rfl

theorem lookup_cons : lookup k ((k', v) :: l) = if k' = k then some v else lookup k l := rfl

theorem increasing_nil : Increasing ([] : List (K × V)) := List.Pairwise.nil

theorem increasing_cons : Increasing ((k, v) :: l) ↔ (∀ e ∈ l, k < e.1) ∧ Increasing l := by
  unfold Increasing
  simp only [List.map_cons, List.pairwise_cons, List.forall_mem_map]

-- The equations are made here, once for the lemmas below.
attribute [local simp] assign in
@[simp] theorem lookup_assign_self : lookup k (assign k v l) = some v := by
  induction l with
  | nil => exact if_pos rfl
  | cons e l ih =>
      unfold assign
      split
      · exact if_pos rfl
      · split
        · exact if_pos rfl
        · next hne => exact (if_neg hne).trans ih

theorem lookup_assign_of_ne (h : k' ≠ k) : lookup k' (assign k v l) = lookup k' l := by
  induction l with
  | nil => exact if_neg h.symm
  | cons e l ih =>
      unfold assign
      split
      · exact if_neg h.symm
      · split
        · next heq =>
          rw [lookup_cons, if_neg h.symm]
          obtain rfl := heq
          exact (if_neg h.symm).symm
        · rw [lookup_cons, lookup_cons, ih]

theorem mem_of_lookup (h : lookup k l = some v) : (k, v) ∈ l := by
  induction l with
  | nil => cases h
  | cons e l ih =>
      rw [lookup_cons] at h
      split at h
      · next heq =>
        obtain rfl := Option.some.inj h
        obtain rfl := heq
        exact List.mem_cons_self
      · exact List.mem_cons_of_mem _ (ih h)

theorem lookup_eq_none (h : ∀ e ∈ l, e.1 ≠ k) : lookup k l = none := by
  induction l with
  | nil => rfl
  | cons e l ih =>
      rw [lookup_cons, if_neg (h e List.mem_cons_self)]
      exact ih fun e' he' => h e' (List.mem_cons_of_mem _ he')

/-- No key comes twice, so each entry is found. -/
theorem lookup_of_mem (hl : Increasing l) (h : (k, v) ∈ l) : lookup k l = some v := by
  induction l with
  | nil => cases h
  | cons e l ih =>
      obtain ⟨hfirst, hrest⟩ := increasing_cons.1 hl
      rcases List.mem_cons.1 h with rfl | h
      · exact if_pos rfl
      · rw [lookup_cons, if_neg (hfirst _ h).ne]
        exact ih hrest h

theorem mem_assign {e : K × V} (h : e ∈ assign k v l) : e = (k, v) ∨ e ∈ l := by
  induction l with
  | nil => exact .inl (List.mem_singleton.1 h)
  | cons e' l ih =>
      unfold assign at h
      split at h
      · rcases List.mem_cons.1 h with h | h
        · exact .inl h
        · exact .inr h
      · split at h
        · rcases List.mem_cons.1 h with h | h
          · exact .inl h
          · exact .inr (List.mem_cons_of_mem _ h)
        · rcases List.mem_cons.1 h with h | h
          · exact .inr (h ▸ List.mem_cons_self)
          · exact (ih h).imp_right (List.mem_cons_of_mem _)

theorem Increasing.assign (hl : Increasing l) : Increasing (assign k v l) := by
  induction l with
  | nil => exact List.pairwise_singleton ..
  | cons e l ih =>
      obtain ⟨hfirst, hrest⟩ := increasing_cons.1 hl
      unfold Ordered.assign
      split
      · next hlt =>
        refine increasing_cons.2 ⟨fun e' he' => ?_, hl⟩
        rcases List.mem_cons.1 he' with rfl | he'
        · exact hlt
        · exact hlt.trans (hfirst e' he')
      · next hle =>
        split
        · next heq =>
          obtain rfl := heq
          exact increasing_cons.2 ⟨hfirst, hrest⟩
        · next hne =>
          refine increasing_cons.2 ⟨fun e' he' => ?_, ih hrest⟩
          rcases mem_assign he' with rfl | he'
          · exact lt_of_le_of_ne (not_lt.1 hle) hne
          · exact hfirst e' he'

/-- Assigning what is there changes nothing. -/
theorem assign_eq_self (hl : Increasing l) (h : lookup k l = some v) : assign k v l = l := by
  induction l with
  | nil => cases h
  | cons e l ih =>
      obtain ⟨hfirst, hrest⟩ := increasing_cons.1 hl
      obtain ⟨k', v'⟩ := e
      unfold assign
      rw [lookup_cons] at h
      split at h
      · next heq =>
        obtain rfl := heq
        obtain rfl := Option.some.inj h
        rw [if_neg (lt_irrefl _), if_pos rfl]
      · next hne =>
        have hlater := hfirst _ (mem_of_lookup h)
        rw [if_neg hlater.not_gt, if_neg hne, ih hrest h]

/-- `map.erase(k)`. -/
def erase (k : K) (l : List (K × V)) : List (K × V) := l.filter fun e => e.1 ≠ k

theorem lookup_erase_self : lookup k (erase k l) = none := by
  apply lookup_eq_none
  intro e he
  simpa using (List.mem_filter.mp he).2

theorem lookup_erase_of_ne (h : k' ≠ k) : lookup k' (erase k l) = lookup k' l := by
  induction l with
  | nil => rfl
  | cons e l ih =>
      by_cases he : e.1 = k
      · rw [show erase k (e :: l) = erase k l from List.filter_cons_of_neg (by simpa using he), ih]
        exact (if_neg fun heq => h (heq.symm.trans he)).symm
      · rw [show erase k (e :: l) = e :: erase k l from List.filter_cons_of_pos (by simpa using he), lookup_cons, ih,
          lookup_cons]

theorem Increasing.erase (hl : Increasing l) : Increasing (erase k l) := hl.sublist (List.filter_sublist.map _)

end Ordered

/-- A map that is walked in the order of its keys. -/
structure OrderedMap (K V : Type) [LinearOrder K] where
  entries : List (K × V) := []
  increasing : Ordered.Increasing entries := by exact Ordered.increasing_nil

namespace OrderedMap

variable {K V : Type} [LinearOrder K]

def find? (m : OrderedMap K V) (k : K) : Option V := Ordered.lookup k m.entries

/-- `map.emplace(k, v)`: an entry that is there remains. -/
def emplace (m : OrderedMap K V) (k : K) (v : V) : OrderedMap K V :=
  if (m.find? k).isSome then m else ⟨Ordered.assign k v m.entries, m.increasing.assign⟩

variable {m : OrderedMap K V} {k k' : K} {v : V}

/-- An entry is one that was there, or the new one. -/
theorem find?_emplace {w : V} (h : (m.emplace k v).find? k' = some w) :
    m.find? k' = some w ∨ (k' = k ∧ w = v) := by
  unfold emplace at h
  split at h
  · exact .inl h
  · by_cases hk : k' = k
    · subst hk
      exact .inr ⟨rfl, (Option.some.inj (Ordered.lookup_assign_self.symm.trans h)).symm⟩
    · exact .inl ((Ordered.lookup_assign_of_ne hk).symm.trans h)

theorem isSome_find?_emplace :
    ((m.emplace k v).find? k').isSome = ((m.find? k').isSome || decide (k' = k)) := by
  unfold emplace
  by_cases hk : k' = k
  · subst hk
    split
    · next h => rw [h, Bool.true_or]
    · rw [decide_eq_true rfl, Bool.or_true]
      exact congrArg Option.isSome Ordered.lookup_assign_self
  · rw [decide_eq_false hk, Bool.or_false]
    split
    · rfl
    · exact congrArg Option.isSome (Ordered.lookup_assign_of_ne hk)

theorem find?_eq_some : m.find? k = some v ↔ (k, v) ∈ m.entries :=
  ⟨Ordered.mem_of_lookup, Ordered.lookup_of_mem m.increasing⟩

end OrderedMap

end SomeServer.Lib
