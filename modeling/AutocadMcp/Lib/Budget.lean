import AutocadMcp.Lib.Machine

/-!
# Steps that are paid for

A kind of step that costs what another kind earns happens at most as often as that one pays for it,
whatever else a run does in between. The budget is a number read off the state.
-/

namespace AutocadMcp

section

universe u v

variable {σ : Type u} {ι : Type v} {step : σ → ι → σ} (P Q : σ → ι → Prop)
  [∀ s e, Decidable (P s e)] [∀ s e, Decidable (Q s e)]

/-- If every step spends one unit when it is a `P` and earns at most `rate` when it is a `Q`, then
the `P` steps of a run are paid for by the start and by the `Q` steps. -/
theorem countAlong_le_of_budget (Inv : σ → Prop) (budget : σ → Nat) (rate : Nat)
    (hinv : ∀ s e, Inv s → Inv (step s e))
    (hstep : ∀ s e, Inv s → budget (step s e) + (if P s e then 1 else 0) ≤
      budget s + (if Q s e then rate else 0))
    {s : σ} (hs : Inv s) (es : List ι) :
    countAlong step P s es + budget (runFrom step s es) ≤
      budget s + rate * countAlong step Q s es := by
  induction es generalizing s with
  | nil =>
      show 0 + budget s ≤ budget s + rate * 0
      omega
  | cons e es ih =>
      have hrest := ih (hinv s e hs)
      have hfirst := hstep s e hs
      show (if P s e then 1 else 0) + countAlong step P (step s e) es +
          budget (runFrom step (step s e) es) ≤
        budget s + rate * ((if Q s e then 1 else 0) + countAlong step Q (step s e) es)
      rw [Nat.mul_add]
      have hpaid : rate * (if Q s e then 1 else 0) = if Q s e then rate else 0 := by
        split
        · exact Nat.mul_one rate
        · exact Nat.mul_zero rate
      omega

/-- Steps of two kinds together. -/
theorem countAlong_or_le (step : σ → ι → σ) (s : σ) (es : List ι) :
    countAlong step (fun s e => P s e ∨ Q s e) s es ≤
      countAlong step P s es + countAlong step Q s es := by
  induction es generalizing s with
  | nil => exact Nat.zero_le 0
  | cons e es ih =>
      have hrest := ih (step s e)
      have hfirst : (if P s e ∨ Q s e then 1 else 0) ≤
          (if P s e then 1 else 0) + (if Q s e then 1 else 0) := by
        by_cases hP : P s e <;> by_cases hQ : Q s e <;> simp [hP, hQ]
      show (if P s e ∨ Q s e then 1 else 0) +
          countAlong step (fun s e => P s e ∨ Q s e) (step s e) es ≤
        ((if P s e then 1 else 0) + countAlong step P (step s e) es) +
          ((if Q s e then 1 else 0) + countAlong step Q (step s e) es)
      omega

end

end AutocadMcp
