import AutocadMcp.Lib.Effect
import Mathlib.Data.List.Basic

/-!
# Scripts of labelled updates

The steps of a script are updates of a state, each under a label; a step whose label fails raises
before it has done anything. So a run of a script is the updates before the first label that
fails, and a property that no update takes away holds after a run of a part of it.
-/

namespace AutocadMcp

namespace Eff

variable {ε σ α : Type}

/-- A value that is computed or raised without an effect. -/
def orRaise (x : Except ε α) : Eff ε σ α := ExceptT.mk fun s => (x, s)

theorem exec_orRaise (x : Except ε α) (s : σ) : exec (orRaise x) s = (x, s) := rfl

theorem forEach_append (xs ys : List α) (body : α → Eff ε σ Unit) (s : σ) :
    exec (forEach (xs ++ ys) body) s = exec (forEach xs body >>= fun _ => forEach ys body) s := by
  induction xs generalizing s with
  | nil =>
      rw [exec_bind]
      rfl
  | cons x xs ih =>
      rw [exec_bind, List.cons_append]
      change exec (body x >>= fun _ => forEach (xs ++ ys) body) s = _
      have hcons : exec (forEach (x :: xs) body) s = exec (body x >>= fun _ => forEach xs body) s :=
        rfl
      rw [hcons, exec_bind, exec_bind]
      rcases exec (body x) s with ⟨⟨e⟩ | ⟨u⟩, t⟩
      · rfl
      · change exec (forEach (xs ++ ys) body) t = _
        rw [ih t, exec_bind]

end Eff

namespace Script

open Eff

variable {ε σ κ : Type}

/-- An update and its label. -/
abbrev Update (κ σ : Type) := κ × (σ → σ)

def applyAll (updates : List (Update κ σ)) (s : σ) : σ :=
  updates.foldl (fun s u => u.2 s) s

@[simp] theorem applyAll_nil (s : σ) : applyAll ([] : List (Update κ σ)) s = s := rfl

@[simp] theorem applyAll_cons (u : Update κ σ) (updates : List (Update κ σ)) (s : σ) :
    applyAll (u :: updates) s = applyAll updates (u.2 s) := rfl

theorem applyAll_append (us vs : List (Update κ σ)) (s : σ) :
    applyAll (us ++ vs) s = applyAll vs (applyAll us s) :=
  List.foldl_append

/-- What every update keeps, a script keeps. -/
theorem applyAll_keeps {P : σ → Prop} {updates : List (Update κ σ)}
    (hkeep : ∀ u ∈ updates, ∀ s, P s → P (u.2 s)) {s : σ} (hs : P s) :
    P (applyAll updates s) := by
  induction updates generalizing s with
  | nil => exact hs
  | cons u updates ih =>
      rw [applyAll_cons]
      exact ih (fun v hv => hkeep v (List.mem_cons_of_mem u hv)) (hkeep u List.mem_cons_self s hs)

section

variable (fails : κ → Bool) (raised : κ → ε)

/-- One step. -/
def perform (label : κ) (f : σ → σ) : Eff ε σ Unit :=
  ExceptT.mk fun s => if fails label then (.error (raised label), s) else (.ok (), f s)

def runUpdates (updates : List (Update κ σ)) : Eff ε σ Unit :=
  forEach updates fun u => perform fails raised u.1 u.2

variable {fails raised}

theorem exec_perform (label : κ) (f : σ → σ) (s : σ) :
    exec (perform fails raised label f) s =
      if fails label then (.error (raised label), s) else (.ok (), f s) := rfl

theorem perform_eq_runUpdates (label : κ) (f : σ → σ) (s : σ) :
    exec (perform fails raised label f) s = exec (runUpdates fails raised [(label, f)]) s := by
  have hone : exec (runUpdates fails raised [(label, f)]) s =
      exec (perform fails raised label f >>= fun _ => pure ()) s := rfl
  rw [hone, exec_bind]
  rcases exec (perform fails raised label f) s with ⟨⟨e⟩ | ⟨u⟩, t⟩ <;> rfl

theorem exec_runUpdates_append (us vs : List (Update κ σ)) (s : σ) :
    exec (runUpdates fails raised (us ++ vs)) s =
      exec (runUpdates fails raised us >>= fun _ => runUpdates fails raised vs) s :=
  forEach_append us vs _ s

/-- Without a label that fails, all updates are made. -/
theorem exec_runUpdates_ok {updates : List (Update κ σ)} (h : ∀ u ∈ updates, fails u.1 = false)
    (s : σ) : exec (runUpdates fails raised updates) s = (.ok (), applyAll updates s) := by
  induction updates generalizing s with
  | nil => rfl
  | cons u updates ih =>
      change exec (perform fails raised u.1 u.2 >>= fun _ => runUpdates fails raised updates) s = _
      have hu := h u List.mem_cons_self
      simp only [exec_bind, exec_perform, hu, Bool.false_eq_true, if_false]
      exact ih (fun v hv => h v (List.mem_cons_of_mem u hv)) (u.2 s)

/-- The first label that fails ends the run. -/
theorem exec_runUpdates_raised {before later : List (Update κ σ)} {u : Update κ σ}
    (hbefore : ∀ v ∈ before, fails v.1 = false) (hu : fails u.1 = true) (s : σ) :
    exec (runUpdates fails raised (before ++ u :: later)) s =
      (.error (raised u.1), applyAll before s) := by
  rw [exec_runUpdates_append, exec_bind, exec_runUpdates_ok hbefore]
  change exec (perform fails raised u.1 u.2 >>= fun _ => runUpdates fails raised later) _ = _
  simp only [exec_bind, exec_perform, hu, if_true]

/-- A script has no label that fails, or a first one. -/
theorem all_or_first (fails : κ → Bool) (updates : List (Update κ σ)) :
    (∀ u ∈ updates, fails u.1 = false) ∨ ∃ before u later, updates = before ++ u :: later ∧
      (∀ v ∈ before, fails v.1 = false) ∧ fails u.1 = true := by
  induction updates with
  | nil => exact Or.inl fun u hu => (List.not_mem_nil hu).elim
  | cons u updates ih =>
      rcases hu : fails u.1
      · rcases ih with h | ⟨before, v, later, rfl, hbefore, hv⟩
        · left
          intro v hv
          rcases List.mem_cons.mp hv with rfl | hv
          · exact hu
          · exact h v hv
        · right
          refine ⟨u :: before, v, later, rfl, ?_, hv⟩
          intro w hw
          rcases List.mem_cons.mp hw with rfl | hw
          · exact hu
          · exact hbefore w hw
      · exact Or.inr ⟨[], u, updates, rfl, fun v hv => (List.not_mem_nil hv).elim, hu⟩

/-! ## Programs that play a script -/

variable {α β : Type}

variable (fails) in
/-- From `s` the program makes the updates up to the first label that fails, and after all of them it
returns the result, or raises where there is none. -/
structure Plays (m : Eff ε σ α) (s : σ) (updates : List (Update κ σ)) (result : Option α) : Prop where
  raised : ∀ before u later, updates = before ++ u :: later →
    (∀ v ∈ before, fails v.1 = false) → fails u.1 = true →
    ∃ e, exec m s = (.error e, applyAll before s)
  returned : (∀ u ∈ updates, fails u.1 = false) → ∀ a, result = some a →
    exec m s = (.ok a, applyAll updates s)
  stopped : (∀ u ∈ updates, fails u.1 = false) → result = none →
    ∃ e, exec m s = (.error e, applyAll updates s)

theorem plays_pure (a : α) (s : σ) :
    Plays fails (pure a : Eff ε σ α) s ([] : List (Update κ σ)) (some a) := by
  refine ⟨?_, ?_, ?_⟩
  · intro before u later h
    cases before <;> cases h
  · rintro - _ ⟨⟩
    rfl
  · rintro - ⟨⟩

theorem plays_throw (e : ε) (s : σ) :
    Plays fails (throw e : Eff ε σ α) s ([] : List (Update κ σ)) none := by
  refine ⟨?_, ?_, ?_⟩
  · intro before u later h
    cases before <;> cases h
  · rintro - _ ⟨⟩
  · exact fun _ _ => ⟨e, rfl⟩

theorem plays_orRaise_ok {x : Except ε α} {a : α} (h : x = .ok a) (s : σ) :
    Plays fails (orRaise x) s ([] : List (Update κ σ)) (some a) := by
  subst h
  exact plays_pure a s

theorem plays_orRaise_error {x : Except ε α} {e : ε} (h : x = .error e) (s : σ) :
    Plays fails (orRaise x) s ([] : List (Update κ σ)) none := by
  subst h
  exact plays_throw e s

theorem plays_perform (label : κ) (f : σ → σ) (s : σ) :
    Plays fails (perform fails raised label f) s [(label, f)] (some ()) := by
  refine ⟨?_, ?_, ?_⟩
  · intro before u later h _ hu
    cases before with
    | nil =>
        cases h
        exact ⟨raised label, by rw [exec_perform, if_pos hu]; rfl⟩
    | cons v before =>
        have hlength := congrArg List.length h
        simp at hlength
  · rintro h _ ⟨⟩
    have hlabel := h (label, f) List.mem_cons_self
    rw [exec_perform, if_neg (by rw [hlabel]; exact Bool.false_ne_true)]
    rfl
  · rintro - ⟨⟩

/-- What raises ends the rest. -/
theorem Plays.bind_none {m : Eff ε σ α} {f : α → Eff ε σ β} {s : σ} {us : List (Update κ σ)}
    (h : Plays fails m s us none) : Plays fails (m >>= f) s us none := by
  refine ⟨?_, ?_, ?_⟩
  · intro before u later hsplit hbefore hu
    obtain ⟨e, he⟩ := h.raised before u later hsplit hbefore hu
    exact ⟨e, by rw [exec_bind, he]⟩
  · rintro - _ ⟨⟩
  · intro hall _
    obtain ⟨e, he⟩ := h.stopped hall rfl
    exact ⟨e, by rw [exec_bind, he]⟩

theorem Plays.bind {m : Eff ε σ α} {f : α → Eff ε σ β} {s : σ} {us vs : List (Update κ σ)} {a : α}
    {r : Option β} (h : Plays fails m s us (some a)) (hf : Plays fails (f a) (applyAll us s) vs r) :
    Plays fails (m >>= f) s (us ++ vs) r := by
  refine ⟨?_, ?_, ?_⟩
  · intro before u later hsplit hbefore hu
    rcases List.append_eq_append_iff.mp hsplit with ⟨mid, rfl, hvs⟩ | ⟨mid, hus, hrest⟩
    · -- the label lies in the second part
      have hfirst := h.returned (fun v hv => hbefore v (List.mem_append_left mid hv)) a rfl
      obtain ⟨e, he⟩ := hf.raised mid u later hvs
        (fun v hv => hbefore v (List.mem_append_right us hv)) hu
      exact ⟨e, by rw [exec_bind, hfirst, applyAll_append]; exact he⟩
    · rcases mid with _ | ⟨v, mid⟩
      · rw [List.append_nil] at hus
        rw [List.nil_append] at hrest
        subst hus
        have hfirst := h.returned hbefore a rfl
        obtain ⟨e, he⟩ := hf.raised [] u later hrest.symm (fun v hv => (List.not_mem_nil hv).elim) hu
        exact ⟨e, by rw [exec_bind, hfirst]; exact he⟩
      · rw [List.cons_append, List.cons.injEq] at hrest
        obtain ⟨rfl, -⟩ := hrest
        obtain ⟨e, he⟩ := h.raised before u mid hus hbefore hu
        exact ⟨e, by rw [exec_bind, he]⟩
  · intro hall b hb
    have hfirst := h.returned (fun v hv => hall v (List.mem_append_left vs hv)) a rfl
    have hnext := hf.returned (fun v hv => hall v (List.mem_append_right us hv)) b hb
    rw [exec_bind, hfirst, applyAll_append]
    exact hnext
  · intro hall hr
    have hfirst := h.returned (fun v hv => hall v (List.mem_append_left vs hv)) a rfl
    obtain ⟨e, he⟩ := hf.stopped (fun v hv => hall v (List.mem_append_right us hv)) hr
    exact ⟨e, by rw [exec_bind, hfirst, applyAll_append]; exact he⟩

theorem Plays.get_bind {f : σ → Eff ε σ β} {s : σ} {us : List (Update κ σ)} {r : Option β}
    (h : Plays fails (f s) s us r) : Plays fails (get >>= f) s us r := by
  have hexec : exec (get >>= f) s = exec (f s) s := by
    rw [exec_bind]
    rfl
  refine ⟨?_, ?_, ?_⟩
  · intro before u later hsplit hbefore hu
    rw [hexec]
    exact h.raised before u later hsplit hbefore hu
  · rw [hexec]
    exact h.returned
  · rw [hexec]
    exact h.stopped

/-- A handler that raises something else changes no update. -/
theorem Plays.rethrow {m : Eff ε σ α} {s : σ} {us : List (Update κ σ)} {r : Option α}
    (h : Plays fails m s us r) (g : ε → ε) :
    Plays fails (tryCatch m fun e => throw (g e)) s us r := by
  refine ⟨?_, ?_, ?_⟩
  · intro before u later hsplit hbefore hu
    obtain ⟨e, he⟩ := h.raised before u later hsplit hbefore hu
    exact ⟨g e, by rw [exec_tryCatch, he]; rfl⟩
  · intro hall a ha
    rw [exec_tryCatch, h.returned hall a ha]
  · intro hall hr
    obtain ⟨e, he⟩ := h.stopped hall hr
    exact ⟨g e, by rw [exec_tryCatch, he]; rfl⟩

/-- A loop plays the scripts of its turns, where these do not depend on the state. -/
theorem plays_forEach {xs : List β} {body : β → Eff ε σ Unit} {script : β → List (Update κ σ)}
    (hbody : ∀ x ∈ xs, ∀ s, Plays fails (body x) s (script x) (some ())) (s : σ) :
    Plays fails (forEach xs body) s (xs.flatMap script) (some ()) := by
  induction xs generalizing s with
  | nil => exact plays_pure () s
  | cons x xs ih =>
      rw [List.flatMap_cons]
      exact (hbody x List.mem_cons_self s).bind
        (ih (fun y hy => hbody y (List.mem_cons_of_mem x hy)) _)

end

end Script

end AutocadMcp
