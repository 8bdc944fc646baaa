/-
# SomeServer.Lib.Scanner — texts read symbol by symbol

A scanner takes one symbol at a time, and at each may give some tokens or refuse the text. What it makes of a text
that is put together from pieces is found piece by piece (`run_append`, `Reads.append`), and so is what a machine
makes of the tokens.
-/
import Mathlib.Data.List.Basic

namespace SomeServer.Lib

variable {σ ι τ α β : Type}

/-- States, with the tokens that a symbol gives and those that the end of the text does. -/
structure Scanner (σ ι τ : Type) where
  step : σ → ι → Option (List τ × σ)
  finish : σ → Option (List τ)

namespace Scanner

def run (m : Scanner σ ι τ) : σ → List ι → Option (List τ × σ)
  | s, [] => some ([], s)
  | s, i :: is => (m.step s i).bind fun r => (m.run r.2 is).map fun r' => (r.1 ++ r'.1, r'.2)

/-- The tokens of a text. -/
def tokens (m : Scanner σ ι τ) (start : σ) (text : List ι) : Option (List τ) :=
  (m.run start text).bind fun r => (m.finish r.2).map fun last => r.1 ++ last

variable {m : Scanner σ ι τ} {s s' s'' : σ} {text is js : List ι} {ts ts' last : List τ}

@[simp] theorem run_nil : m.run s [] = some ([], s) := rfl

theorem run_cons {i : ι} :
    m.run s (i :: is) = (m.step s i).bind fun r => (m.run r.2 is).map fun r' => (r.1 ++ r'.1, r'.2) := rfl

theorem run_singleton {i : ι} (h : m.step s i = some (ts, s')) : m.run s [i] = some (ts, s') := by
  rw [run_cons, h, Option.bind_some, run_nil, Option.map_some, List.append_nil]

/-- A text that is put together is read piece by piece. -/
theorem run_append :
    m.run s (is ++ js) = (m.run s is).bind fun r => (m.run r.2 js).map fun r' => (r.1 ++ r'.1, r'.2) := by
  induction is generalizing s with
  | nil => simp
  | cons i is ih =>
      rw [List.cons_append, run_cons, run_cons]
      cases hstep : m.step s i with
      | none => rfl
      | some r =>
          simp only [Option.bind_some, ih]
          cases hrun : m.run r.2 is with
          | none => rfl
          | some r' =>
              simp only [Option.bind_some, Option.map_some, Option.map_map]
              congr 1
              funext r''
              simp

/-- A piece that is read, and the rest behind it. -/
theorem run_append_eq (h : m.run s is = some (ts, s')) (h' : m.run s' js = some (ts', s'')) :
    m.run s (is ++ js) = some (ts ++ ts', s'') := by
  rw [run_append, h, Option.bind_some, h', Option.map_some]

/-- Pieces that only add to what a state holds, one value each. -/
theorem run_pieces {state : List α → σ} {pieces : List (List ι)} {values : List α}
    (h : List.Forall₂ (fun a piece => ∀ held, m.run (state held) piece = some ([], state (held ++ [a]))) values pieces)
    (held : List α) : m.run (state held) pieces.flatten = some ([], state (held ++ values)) := by
  induction h generalizing held with
  | nil => simp
  | cons hpiece _ ih =>
      rw [List.flatten_cons, run_append_eq (hpiece held) (ih (held ++ _))]
      simp

theorem tokens_eq (h : m.run s text = some (ts, s')) (hlast : m.finish s' = some last) :
    m.tokens s text = some (ts ++ last) := by
  rw [tokens, h, Option.bind_some, hlast, Option.map_some]

/-- A text whose tokens are read as this. -/
theorem bind_tokens_eq {read : List τ → Option α} {a : α} (h : m.run s text = some (ts, s'))
    (hlast : m.finish s' = some last) (hread : read (ts ++ last) = some a) : (m.tokens s text).bind read = some a := by
  rw [tokens_eq h hlast, Option.bind_some, hread]

/-! ## A machine behind the scanner -/

/-- The text takes the scanner from one state to another, and its tokens the machine behind it. -/
def Reads (m : Scanner σ ι τ) (next : β → τ → Option β) (x : σ × β) (text : List ι) (y : σ × β) : Prop :=
  ∃ ts, m.run x.1 text = some (ts, y.1) ∧ ts.foldlM next x.2 = some y.2

variable {next : β → τ → Option β} {x y z : σ × β}

theorem Reads.append (h : m.Reads next x is y) (h' : m.Reads next y js z) : m.Reads next x (is ++ js) z := by
  obtain ⟨ts, hrun, hnext⟩ := h
  obtain ⟨ts', hrun', hnext'⟩ := h'
  refine ⟨ts ++ ts', run_append_eq hrun hrun', ?_⟩
  rw [List.foldlM_append, hnext]
  exact hnext'

theorem Reads.of_run {b : β} (h : m.run s text = some ([], s')) : m.Reads next (s, b) text (s', b) := ⟨[], h, rfl⟩

end Scanner

end SomeServer.Lib
