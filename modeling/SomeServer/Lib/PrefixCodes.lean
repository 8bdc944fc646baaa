/-
# SomeServer.Lib.PrefixCodes — values that can be read off the front of a text

A code writes each value as some symbols, and no text begins with the words of two values. So a text that is
written value by value is read value by value, however much of it has come: what has been read is what was
written first (`prefix_iff_of_text`), and once less than a word is left it is all of it (`text_unique`).
-/
import Mathlib.Data.List.Infix
import Mathlib.Data.List.Basic

namespace SomeServer.Lib

variable {α β : Type}

/-- Words for values: none is empty, and a text begins with the word of one value at most. -/
structure PrefixCode (α β : Type) where
  word : α → List β
  word_ne_nil : ∀ a, word a ≠ []
  unique : ∀ a b text, word a <+: text → word b <+: text → a = b

namespace PrefixCode

variable (code : PrefixCode α β)

/-- The words of some values, one after the other. -/
def text (values : List α) : List β := values.flatMap code.word

/-- This is less than a word, or the beginning of none. -/
def Incomplete (rest : List β) : Prop := ∀ a, ¬ code.word a <+: rest

variable {code} {a : α} {values written : List α} {rest : List β}

@[simp] theorem text_nil : code.text [] = [] := rfl

@[simp] theorem text_cons : code.text (a :: values) = code.word a ++ code.text values := rfl

@[simp] theorem text_append : code.text (values ++ written) = code.text values ++ code.text written :=
  List.flatMap_append

theorem text_singleton : code.text [a] = code.word a := List.append_nil _

theorem word_prefix_text : code.word a <+: code.text (a :: values) := List.prefix_append _ _

theorem incomplete_nil : code.Incomplete [] := fun a h => code.word_ne_nil a (List.prefix_nil.mp h)

/-- A text, and less than a word behind it, begins with the text of the values that are written first, and with no
other text. -/
theorem prefix_iff_of_text (hrest : code.Incomplete rest) :
    code.text values <+: code.text written ++ rest ↔ values <+: written := by
  constructor
  · intro h
    -- both begin with the word of the same value
    induction values generalizing written with
    | nil => exact List.nil_prefix
    | cons a values ih =>
        cases written with
        | nil => exact absurd (word_prefix_text.trans h) (hrest a)
        | cons b written =>
            have hb : code.word b <+: code.text (b :: written) ++ rest :=
              word_prefix_text.trans (List.prefix_append _ _)
            have hab : a = b := code.unique a b _ (word_prefix_text.trans h) hb
            subst hab
            rw [text_cons, text_cons, List.append_assoc, List.prefix_append_right_inj] at h
            exact List.cons_prefix_cons.mpr ⟨rfl, ih h⟩
  · rintro ⟨later, rfl⟩
    rw [text_append, List.append_assoc]
    exact List.prefix_append _ _

/-- A text is read in one way, down to less than a word. -/
theorem text_unique {rest' : List β} (h : code.text values ++ rest = code.text written ++ rest')
    (hrest : code.Incomplete rest) (hrest' : code.Incomplete rest') : values = written ∧ rest = rest' := by
  have hsame : values = written := by
    have hleft : values <+: written := (prefix_iff_of_text hrest').mp (h ▸ List.prefix_append _ _)
    have hright : written <+: values := (prefix_iff_of_text hrest).mp (h.symm ▸ List.prefix_append _ _)
    exact hleft.eq_of_length (Nat.le_antisymm hleft.length_le hright.length_le)
  subst hsame
  exact ⟨rfl, List.append_cancel_left h⟩

/-- What has come of a text is read as a part of what is written in it. -/
theorem prefix_of_received {received rest' : List β} (h : code.text values ++ rest = received)
    (hreceived : received <+: code.text written ++ rest') (hrest' : code.Incomplete rest') : values <+: written := by
  apply (prefix_iff_of_text hrest').mp
  rw [← h] at hreceived
  exact (List.prefix_append _ _).trans hreceived

end PrefixCode

end SomeServer.Lib
