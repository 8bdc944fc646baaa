/-
# SomeServer.Lib.Table — finite tables that are walked in no particular order

A `Table` is a finite map that knows its keys. A hash table is walked in an order that nothing specifies,
so a walk is given the order: any list that has all the keys in it (`walks`). `find?` is the first value
of a walk that satisfies a predicate, and it misses none.
-/
import Mathlib.Logic.Function.Basic

namespace SomeServer.Lib

/-- A finite map, with a list that has all its keys. -/
structure Table (K V : Type) where
  get : K → Option V
  keys : List K
  complete : ∀ k, (get k).isSome = true → k ∈ keys

namespace Table

variable {K V : Type}

def empty : Table K V := ⟨fun _ => none, [], fun _ h => by cases h⟩

@[simp] theorem empty_get (k : K) : (empty : Table K V).get k = none := rfl

variable [DecidableEq K]

/-- `table[key] = value`. -/
def set (t : Table K V) (k : K) (v : V) : Table K V where
  get := Function.update t.get k (some v)
  keys := k :: t.keys
  complete k' h := by
    by_cases hk : k' = k
    · exact hk ▸ List.mem_cons_self
    · rw [Function.update_of_ne hk] at h
      exact List.mem_cons_of_mem _ (t.complete k' h)

/-- `table.erase(key)`. -/
def erase (t : Table K V) (k : K) : Table K V where
  get := Function.update t.get k none
  keys := t.keys
  complete k' h := by
    by_cases hk : k' = k
    · rw [hk, Function.update_self] at h
      cases h
    · rw [Function.update_of_ne hk] at h
      exact t.complete k' h

/-- The entries whose value satisfies a predicate. -/
def filter (t : Table K V) (p : V → Bool) : Table K V where
  get k := (t.get k).filter p
  keys := t.keys
  complete k h := by
    obtain ⟨v, hv⟩ := Option.isSome_iff_exists.mp h
    apply t.complete k
    rw [(Option.filter_eq_some_iff.mp hv).1]
    rfl

variable {t : Table K V} {k k' : K} {v : V} {p : V → Bool} {order : List K}

@[simp] theorem set_get_self : (t.set k v).get k = some v := Function.update_self ..

theorem set_get_of_ne (h : k' ≠ k) : (t.set k v).get k' = t.get k' := Function.update_of_ne h ..

@[simp] theorem erase_get_self : (t.erase k).get k = none := Function.update_self ..

theorem erase_get_of_ne (h : k' ≠ k) : (t.erase k).get k' = t.get k' := Function.update_of_ne h ..

/-- Whether a walk in this order comes to every entry. -/
def walks (t : Table K V) (order : List K) : Bool := t.keys.all fun k => decide (k ∈ order)

/-- The first entry of a walk that satisfies a predicate. -/
def find? (t : Table K V) (order : List K) (p : V → Bool) : Option (K × V) :=
  order.findSome? fun k => ((t.get k).filter p).map fun v => (k, v)

omit [DecidableEq K] in
theorem find?_eq_some (h : t.find? order p = some (k, v)) : t.get k = some v ∧ p v = true := by
  obtain ⟨k', -, hk⟩ := List.exists_of_findSome?_eq_some h
  obtain ⟨v', hv, heq⟩ := Option.map_eq_some_iff.mp hk
  cases heq
  exact Option.filter_eq_some_iff.mp hv

/-- A walk that finds nothing has seen everything. -/
theorem find?_eq_none (hw : t.walks order = true) (h : t.find? order p = none)
    (hk : t.get k = some v) : p v = false := by
  have hmem : k ∈ order := by
    have hkey : k ∈ t.keys := t.complete k (by rw [hk]; rfl)
    simpa using List.all_eq_true.mp hw k hkey
  have hskip := List.findSome?_eq_none_iff.mp h k hmem
  rw [hk] at hskip
  simpa using hskip

end Table

end SomeServer.Lib
