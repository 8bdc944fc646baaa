/-
# SomeServer.Lib.Histories — components that are driven by inputs

A component takes one input after the other, and every input leads from one state to one state. `after` is
where a list of inputs leads; `Always` says that a property holds after every first part of the list, and
`Admitted` that every input comes in a state that admits it. When the states from which a property survives
an input are known exactly, so are the lists of inputs along which it holds (`always_iff_admitted`).
-/
import Mathlib.Data.List.Infix

namespace SomeServer.Lib

variable {ι σ : Type} {step : σ → ι → σ} {P I : σ → Prop} {C R : σ → ι → Prop} {s : σ}
  {inputs past : List ι} {i : ι}

/-- The state after some inputs. -/
def after (step : σ → ι → σ) (s : σ) (inputs : List ι) : σ := inputs.foldl step s

theorem after_concat : after step s (past ++ [i]) = step (after step s past) i := by
  simp [after]

/-- A property of the state at all times. -/
def Always (step : σ → ι → σ) (P : σ → Prop) (s : σ) (inputs : List ι) : Prop :=
  ∀ past, past <+: inputs → P (after step s past)

/-- Every input is admitted where it comes. -/
def Admitted (step : σ → ι → σ) (C : σ → ι → Prop) (s : σ) (inputs : List ι) : Prop :=
  ∀ past i, past ++ [i] <+: inputs → C (after step s past) i

/-- What admitted inputs keep holds after them. -/
theorem Admitted.invariant (h : Admitted step C s inputs) (h₀ : I s) (hstep : ∀ s i, I s → C s i → I (step s i)) :
    I (after step s inputs) := by
  induction inputs using List.reverseRecOn with
  | nil => exact h₀
  | append_singleton past i ih =>
      rw [after_concat]
      apply hstep
      · exact ih fun past' i' hbefore => h past' i' (hbefore.trans (List.prefix_append _ _))
      · exact h past i List.prefix_rfl

theorem Admitted.take (h : Admitted step C s inputs) (hpast : past <+: inputs) : Admitted step C s past :=
  fun past' i hbefore => h past' i (hbefore.trans hpast)

/-- Inputs that come where they are admitted keep a property at all times, and if every other input
violates it, then no others do. -/
theorem always_iff_admitted (h₀ : I s) (hP : ∀ s, I s → P s) (hkeep : ∀ s i, I s → C s i → I (step s i))
    (hbreak : ∀ s i, I s → ¬ C s i → ¬ P (step s i)) : Always step P s inputs ↔ Admitted step C s inputs := by
  constructor
  · intro h
    -- along the inputs, as long as they were admitted the invariant holds, and so the next one is
    have hall : ∀ past, past <+: inputs → I (after step s past) := by
      intro past
      induction past using List.reverseRecOn with
      | nil => exact fun _ => h₀
      | append_singleton past i ih =>
          intro hpast
          have hI := ih ((List.prefix_append _ _).trans hpast)
          rw [after_concat]
          apply hkeep _ _ hI
          by_contra hC
          have hPi := h _ hpast
          rw [after_concat] at hPi
          exact hbreak _ _ hI hC hPi
    intro past i hpast
    by_contra hC
    have hPi := h _ hpast
    rw [after_concat] at hPi
    exact hbreak _ _ (hall past ((List.prefix_append _ _).trans hpast)) hC hPi
  · intro h past hpast
    exact hP _ ((h.take hpast).invariant h₀ hkeep)

/-- A property holds at all times when it holds at first and every input leads to where it holds. -/
theorem always_iff_steps : Always step P s inputs ↔ P s ∧ Admitted step (fun s i => P (step s i)) s inputs := by
  constructor
  · intro h
    refine ⟨h [] List.nil_prefix, fun past i hpast => ?_⟩
    have hnext := h _ hpast
    rwa [after_concat] at hnext
  · rintro ⟨h₀, hsteps⟩ past hpast
    induction past using List.reverseRecOn with
    | nil => exact h₀
    | append_singleton past i _ =>
        rw [after_concat]
        exact hsteps past i hpast

/-- Two conditions on the inputs of a history come to the same when they do so wherever the inputs that
meet one of them lead. -/
theorem admitted_iff_admitted (h₀ : I s) (hiff : ∀ s i, I s → (R s i ↔ C s i))
    (hkeep : ∀ s i, I s → C s i → I (step s i)) : Admitted step R s inputs ↔ Admitted step C s inputs := by
  constructor
  · intro h
    have hall : ∀ past, past <+: inputs → I (after step s past) := by
      intro past
      induction past using List.reverseRecOn with
      | nil => exact fun _ => h₀
      | append_singleton past i ih =>
          intro hpast
          have hI := ih ((List.prefix_append _ _).trans hpast)
          rw [after_concat]
          exact hkeep _ _ hI ((hiff _ _ hI).mp (h past i hpast))
    intro past i hpast
    exact (hiff _ _ (hall past ((List.prefix_append _ _).trans hpast))).mp (h past i hpast)
  · intro h past i hpast
    have hI : I (after step s past) :=
      (h.take ((List.prefix_append _ _).trans hpast)).invariant h₀ hkeep
    exact (hiff _ _ hI).mpr (h past i hpast)

end SomeServer.Lib
