import AutocadMcp.Lib.Machine

/-!
# What a run puts out

The outputs of a run in their order, and the rule for an invariant between the outputs so far and
the state: the whole log of a run is at hand for what the state only keeps a part of.
-/

namespace AutocadMcp

section

universe u v w

variable {σ : Type u} {ι : Type v} {ω : Type w} (step : σ → ι → σ) (out : σ → ι → List ω)

/-- The outputs of a run. -/
def outputs : σ → List ι → List ω
  | _, [] => []
  | s, e :: es => out s e ++ outputs (step s e) es

variable {step out}

/-- What every step preserves that meets the condition, with its outputs at the end of the log,
holds of the log and the end of a run whose steps all meet it. -/
theorem outputs_invariant {P : σ → ι → Prop} (Inv : List ω → σ → Prop)
    (hstep : ∀ log s e, Inv log s → P s e → Inv (log ++ out s e) (step s e)) {log : List ω} {s : σ}
    (hs : Inv log s) {es : List ι} (h : Along step P s es) :
    Inv (log ++ outputs step out s es) (runFrom step s es) := by
  induction es generalizing log s with
  | nil => rwa [outputs, List.append_nil]
  | cons e es ih =>
      rw [outputs, ← List.append_assoc]
      exact ih (hstep log s e hs h.1) h.2

end

end AutocadMcp
