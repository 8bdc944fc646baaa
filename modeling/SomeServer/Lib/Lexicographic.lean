/-
# SomeServer.Lib.Lexicographic — the lists with a given prefix are an interval

In the lexicographic order the lists that begin with `p` stand next to each other: they are those from `p` on,
up to the list in which the last element that is not the greatest has been replaced by the next one. If there
is no such element, there is no end.
-/
import Mathlib.Data.List.Lex
import Mathlib.Order.Cover

namespace SomeServer.Lib

variable {α : Type} [LinearOrder α] {p q tops k : List α} {c d : α}

/-- A list of greatest elements is a prefix of everything that is not below it. -/
theorem prefix_iff_of_isTop (htop : ∀ a ∈ p, IsTop a) : p <+: k ↔ ¬k < p := by
  induction p generalizing k with
  | nil => simp
  | cons a p ih =>
      have ha : IsTop a := htop a (List.mem_cons_self ..)
      have hrest : ∀ k, p <+: k ↔ ¬k < p := fun k => ih fun b hb => htop b (List.mem_cons_of_mem _ hb)
      match k with
      | [] => simp
      | b :: k =>
          rw [List.cons_prefix_cons, List.cons_lt_cons_iff, hrest, not_or, not_and]
          constructor
          · rintro ⟨rfl, h⟩
            exact ⟨lt_irrefl _, fun _ => h⟩
          · rintro ⟨hnot, h⟩
            have hab : b = a := le_antisymm (ha b) (not_lt.mp hnot)
            exact ⟨hab.symm, h hab⟩

/-- The lists that begin with `c`, followed by greatest elements. -/
theorem cons_prefix_iff (hcd : c ⋖ d) (htop : ∀ a ∈ tops, IsTop a) :
    c :: tops <+: k ↔ ¬k < c :: tops ∧ k < [d] := by
  match k with
  | [] => simp
  | b :: k =>
      rw [List.cons_prefix_cons, prefix_iff_of_isTop htop, List.cons_lt_cons_iff, List.cons_lt_cons_iff, not_or,
        not_and]
      constructor
      · rintro ⟨rfl, h⟩
        exact ⟨⟨lt_irrefl _, fun _ => h⟩, .inl hcd.lt⟩
      · rintro ⟨⟨hfrom, h⟩, hto⟩
        have hlt : b < d := hto.resolve_right fun h => List.not_lt_nil _ h.2
        -- nothing lies between `c` and `d`
        have hcb : b = c := (not_lt.mp hfrom).lt_or_eq.elim (fun hgt => absurd hlt (hcd.2 hgt)) Eq.symm
        exact ⟨hcb.symm, h hcb⟩

/-- The lists with a prefix whose last element that is not the greatest is `c`: they end where `c` is
replaced by the element that comes next. -/
theorem prefix_iff_of_covBy (hcd : c ⋖ d) (htop : ∀ a ∈ tops, IsTop a) :
    q ++ c :: tops <+: k ↔ ¬k < q ++ c :: tops ∧ k < q ++ [d] := by
  induction q generalizing k with
  | nil => exact cons_prefix_iff hcd htop
  | cons a q ih =>
      match k with
      | [] => simp
      | b :: k =>
          rw [List.cons_append, List.cons_append, List.cons_prefix_cons, List.cons_lt_cons_iff,
            List.cons_lt_cons_iff, ih, not_or, not_and]
          constructor
          · rintro ⟨rfl, hfrom, hto⟩
            exact ⟨⟨lt_irrefl _, fun _ => hfrom⟩, .inr ⟨rfl, hto⟩⟩
          · rintro ⟨⟨hnot, hfrom⟩, hto⟩
            -- the first elements are the same, since neither bound allows a step in its direction
            have hab : b = a := hto.elim (fun hlt => absurd hlt hnot) And.left
            exact ⟨hab.symm, hfrom hab, (hto.resolve_left hnot).2⟩

end SomeServer.Lib
