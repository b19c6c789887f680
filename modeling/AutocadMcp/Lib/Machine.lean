/-!
# Runs of a deterministic machine

A machine is a step function that consumes one event; the events carry every
choice of the environment. The rules carry an invariant from one step to a whole
run, and from runs whose steps meet a condition to what holds at each step.
-/

namespace AutocadMcp

section

universe u v

variable {σ : Type u} {ι : Type v} (step : σ → ι → σ)

/-- The state after a list of events. -/
def runFrom (s : σ) (events : List ι) : σ :=
  events.foldl step s

@[simp] theorem runFrom_nil (s : σ) : runFrom step s [] = s := rfl

@[simp] theorem runFrom_cons (s : σ) (e : ι) (es : List ι) :
    runFrom step s (e :: es) = runFrom step (step s e) es := rfl

theorem runFrom_append (s : σ) (es fs : List ι) :
    runFrom step s (es ++ fs) = runFrom step (runFrom step s es) fs :=
  List.foldl_append

/-- Every step of the run satisfies `P`. -/
def Along (P : σ → ι → Prop) : σ → List ι → Prop
  | _, [] => True
  | s, e :: es => P s e ∧ Along P (step s e) es

instance Along.decide {P : σ → ι → Prop} [∀ s e, Decidable (P s e)] :
    (s : σ) → (es : List ι) → Decidable (Along step P s es)
  | _, [] => .isTrue trivial
  | s, e :: es =>
      match (inferInstance : Decidable (P s e)), Along.decide (step s e) es with
      | .isTrue h, .isTrue h' => .isTrue ⟨h, h'⟩
      | .isFalse h, _ => .isFalse fun hboth => h hboth.1
      | _, .isFalse h => .isFalse fun hboth => h hboth.2

variable {step}

/-- What every step preserves, every run preserves. -/
theorem runFrom_invariant (Inv : σ → Prop) (hstep : ∀ s e, Inv s → Inv (step s e))
    {s : σ} (hs : Inv s) (es : List ι) : Inv (runFrom step s es) := by
  induction es generalizing s with
  | nil => exact hs
  | cons e es ih => exact ih (hstep s e hs)

/-- A relation that every step of a run with an invariant is in, and that composes, relates the
ends of the run. -/
theorem runFrom_relates_of_invariant (Inv : σ → Prop) (R : σ → σ → Prop)
    (hinv : ∀ s e, Inv s → Inv (step s e)) (hrefl : ∀ s, R s s)
    (htrans : ∀ s t u, R s t → R t u → R s u) (hstep : ∀ s e, Inv s → R s (step s e))
    {s : σ} (hs : Inv s) (es : List ι) : R s (runFrom step s es) := by
  induction es generalizing s with
  | nil => exact hrefl s
  | cons e es ih => exact htrans _ _ _ (hstep s e hs) (ih (hinv s e hs))

/-- A relation that every step is in and that composes relates the ends of every run. -/
theorem runFrom_relates (R : σ → σ → Prop) (hrefl : ∀ s, R s s)
    (htrans : ∀ s t u, R s t → R t u → R s u) (hstep : ∀ s e, R s (step s e))
    (s : σ) (es : List ι) : R s (runFrom step s es) :=
  runFrom_relates_of_invariant (fun _ => True) R (fun _ _ h => h) hrefl htrans
    (fun s e _ => hstep s e) trivial es

theorem along_append {P : σ → ι → Prop} {s : σ} {es fs : List ι} :
    Along step P s (es ++ fs) ↔ Along step P s es ∧ Along step P (runFrom step s es) fs := by
  induction es generalizing s with
  | nil => simp [Along]
  | cons e es ih => simp [Along, ih, and_assoc]

/-- An invariant that only holds across steps meeting `P` holds at the end of a run all of
whose steps meet it. -/
theorem Along.invariant {P : σ → ι → Prop} (Inv : σ → Prop)
    (hstep : ∀ s e, Inv s → P s e → Inv (step s e)) {s : σ} {es : List ι} (hs : Inv s)
    (h : Along step P s es) : Inv (runFrom step s es) := by
  induction es generalizing s with
  | nil => exact hs
  | cons e es ih => exact ih (hstep s e hs h.1) h.2

/-- What the invariant and the condition give at one step holds at every step of the run. -/
theorem Along.each {P Q : σ → ι → Prop} (Inv : σ → Prop)
    (hstep : ∀ s e, Inv s → P s e → Inv (step s e)) (heach : ∀ s e, Inv s → P s e → Q s e)
    {s : σ} {es : List ι} (hs : Inv s) (h : Along step P s es) : Along step Q s es := by
  induction es generalizing s with
  | nil => exact trivial
  | cons e es ih => exact ⟨heach s e hs h.1, ih (hstep s e hs h.1) h.2⟩

/-- The states a run passes through, read off a split of its events. -/
theorem along_iff {P : σ → ι → Prop} {s : σ} {es : List ι} :
    Along step P s es ↔ ∀ pre e post, es = pre ++ e :: post → P (runFrom step s pre) e := by
  constructor
  · rintro h pre e post rfl
    exact (along_append.mp h).2.1
  · intro h
    induction es generalizing s with
    | nil => exact trivial
    | cons e es ih =>
        refine ⟨h [] e es rfl, ih ?_⟩
        rintro pre f post rfl
        exact h (e :: pre) f post rfl

/-- The number of steps of a run that satisfy `P`. -/
def countAlong (step : σ → ι → σ) (P : σ → ι → Prop) [∀ s e, Decidable (P s e)] :
    σ → List ι → Nat
  | _, [] => 0
  | s, e :: es => (if P s e then 1 else 0) + countAlong step P (step s e) es

/-- A kind of step that leads to where it does not occur, and from where no step leads back, occurs
once at most in a run that keeps the invariant. -/
theorem countAlong_le_one_of_invariant {P : σ → ι → Prop} [∀ s e, Decidable (P s e)]
    (Inv Done : σ → Prop) (hinv : ∀ s e, Inv s → Inv (step s e))
    (hdone : ∀ s e, Inv s → P s e → Done (step s e))
    (hkeep : ∀ s e, Inv s → Done s → Done (step s e)) (hstop : ∀ s e, Inv s → Done s → ¬ P s e)
    {s : σ} (hs : Inv s) (es : List ι) : countAlong step P s es ≤ 1 := by
  have hzero : ∀ (es : List ι) (s : σ), Inv s → Done s → countAlong step P s es = 0 := by
    intro es
    induction es with
    | nil => exact fun _ _ _ => rfl
    | cons e es ih =>
        intro s hs hend
        rw [countAlong, if_neg (hstop s e hs hend), ih _ (hinv s e hs) (hkeep s e hs hend)]
  induction es generalizing s with
  | nil => exact Nat.zero_le 1
  | cons e es ih =>
      by_cases h : P s e
      · have hrest := hzero es _ (hinv s e hs) (hdone s e hs h)
        rw [countAlong, if_pos h]
        omega
      · rw [countAlong, if_neg h, Nat.zero_add]
        exact ih (hinv s e hs)

theorem countAlong_le_one {P : σ → ι → Prop} [∀ s e, Decidable (P s e)] (Done : σ → Prop)
    (hdone : ∀ s e, P s e → Done (step s e)) (hkeep : ∀ s e, Done s → Done (step s e))
    (hstop : ∀ s e, Done s → ¬ P s e) (s : σ) (es : List ι) : countAlong step P s es ≤ 1 :=
  countAlong_le_one_of_invariant (fun _ => True) Done (fun _ _ h => h) (fun s e _ => hdone s e)
    (fun s e _ => hkeep s e) (fun s e _ => hstop s e) trivial es

theorem countAlong_append {P : σ → ι → Prop} [∀ s e, Decidable (P s e)] (s : σ) (es fs : List ι) :
    countAlong step P s (es ++ fs) =
      countAlong step P s es + countAlong step P (runFrom step s es) fs := by
  induction es generalizing s with
  | nil => rw [List.nil_append, countAlong, Nat.zero_add, runFrom_nil]
  | cons e es ih => rw [List.cons_append, countAlong, ih, countAlong, runFrom_cons, Nat.add_assoc]

end

end AutocadMcp
