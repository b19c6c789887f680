import Mathlib.Logic.Relation

/-!
# Programs that fail and keep their effects

A program reads and writes a state and may raise an exception; what it wrote
before it raised stays written, as in code that commits each of its writes by
itself. The writes go through named actions, and `Traced` says which actions a
run issued, in which states, and what holds when it returns or raises.
-/

namespace AutocadMcp

abbrev Eff (ε σ : Type) := ExceptT ε (StateM σ)

namespace Eff

variable {ε σ κ α β : Type}

/-- What a run returns or raises, and the state it leaves. -/
def exec (m : Eff ε σ α) (s : σ) : Except ε α × σ :=
  StateT.run (ExceptT.run m) s

/-- A transaction: its effect is taken back when it raises. -/
def attempt (op : σ → Except ε (α × σ)) : Eff ε σ α :=
  ExceptT.mk fun s =>
    match op s with
    | .ok (a, s') => (.ok a, s')
    | .error e => (.error e, s)

/-- `for x in xs: body(x)` -/
def forEach : List α → (α → Eff ε σ Unit) → Eff ε σ Unit
  | [], _ => pure ()
  | x :: xs, body => do
      body x
      forEach xs body

/-! ## Runs as chains of actions -/

section

variable (act : σ → κ → σ)

/-- The later state is reached by actions that `P` allows in the states they are issued in. -/
def Reach (P : σ → κ → Prop) : σ → σ → Prop :=
  Relation.ReflTransGen fun s t => ∃ k, P s k ∧ t = act s k

/-- The run from `s` is a chain of allowed actions, and ends as the postconditions say. -/
structure Traced (P : σ → κ → Prop) (m : Eff ε σ α) (s : σ) (onOk : α → σ → Prop)
    (onError : ε → σ → Prop) : Prop where
  reach : Reach act P s (exec m s).2
  ok : ∀ a, (exec m s).1 = .ok a → onOk a (exec m s).2
  error : ∀ e, (exec m s).1 = .error e → onError e (exec m s).2

variable {act} {P P' : σ → κ → Prop} {s t : σ} {onOk : α → σ → Prop} {onError : ε → σ → Prop}

theorem Reach.refl : Reach act P s s := Relation.ReflTransGen.refl

theorem Reach.single {k : κ} (h : P s k) : Reach act P s (act s k) :=
  Relation.ReflTransGen.single ⟨k, h, rfl⟩

theorem Reach.trans {u : σ} (h : Reach act P s t) (h' : Reach act P t u) : Reach act P s u :=
  Relation.ReflTransGen.trans h h'

theorem Reach.mono (h : Reach act P s t) (hP : ∀ s k, P s k → P' s k) : Reach act P' s t :=
  h.lift id fun s _ ⟨k, hk, ht⟩ => ⟨k, hP s k hk, ht⟩

/-- What every allowed action preserves holds after any chain of them. -/
theorem Reach.invariant (Inv : σ → Prop) (h : Reach act P s t)
    (hact : ∀ s k, Inv s → P s k → Inv (act s k)) (hs : Inv s) : Inv t := by
  induction h with
  | refl => exact hs
  | tail _ hlast ih =>
      obtain ⟨k, hk, rfl⟩ := hlast
      exact hact _ k ih hk

/-- A preorder that every allowed action stays in relates the ends of a chain. -/
theorem Reach.relates (R : σ → σ → Prop) (h : Reach act P s t) (hrefl : ∀ s, R s s)
    (htrans : ∀ s t u, R s t → R t u → R s u) (hact : ∀ s k, P s k → R s (act s k)) :
    R s t := by
  induction h with
  | refl => exact hrefl s
  | tail _ hlast ih =>
      obtain ⟨k, hk, rfl⟩ := hlast
      exact htrans _ _ _ ih (hact _ k hk)

/-- Where a property appears along a chain, one action made it true. -/
theorem Reach.first (Q : σ → Prop) (h : Reach act P s t) (hs : ¬ Q s) (ht : Q t) :
    ∃ u k, Reach act P s u ∧ P u k ∧ ¬ Q u ∧ Q (act u k) := by
  induction h with
  | refl => exact absurd ht hs
  | @tail u _ hchain hlast ih =>
      obtain ⟨k, hk, rfl⟩ := hlast
      by_cases hu : Q u
      · exact ih hu
      · exact ⟨u, k, hchain, hk, hu, ht⟩

/-! ## Rules -/

theorem Traced.mono {onOk' : α → σ → Prop} {onError' : ε → σ → Prop} {m : Eff ε σ α}
    (h : Traced act P m s onOk onError) (hok : ∀ a t, onOk a t → onOk' a t)
    (herror : ∀ e t, onError e t → onError' e t) : Traced act P m s onOk' onError' :=
  ⟨h.reach, fun a ha => hok a _ (h.ok a ha), fun e he => herror e _ (h.error e he)⟩

theorem Traced.allow {m : Eff ε σ α} (h : Traced act P m s onOk onError)
    (hP : ∀ s k, P s k → P' s k) : Traced act P' m s onOk onError :=
  ⟨h.reach.mono hP, h.ok, h.error⟩

theorem traced_pure {a : α} (h : onOk a s) : Traced act P (pure a) s onOk onError := by
  refine ⟨Reach.refl, ?_, ?_⟩
  · rintro _ ⟨⟩
    exact h
  · rintro _ ⟨⟩

theorem traced_throw {e : ε} (h : onError e s) :
    Traced act P (throw e : Eff ε σ α) s onOk onError := by
  refine ⟨Reach.refl, ?_, ?_⟩
  · rintro _ ⟨⟩
  · rintro _ ⟨⟩
    exact h

theorem traced_get {onOk : σ → σ → Prop} {onError : ε → σ → Prop} (h : onOk s s) :
    Traced act P (get : Eff ε σ σ) s onOk onError := by
  refine ⟨Reach.refl, ?_, ?_⟩
  · rintro _ ⟨⟩
    exact h
  · rintro _ ⟨⟩

theorem exec_bind (m : Eff ε σ α) (f : α → Eff ε σ β) (s : σ) :
    exec (m >>= f) s =
      match exec m s with
      | (.ok a, t) => exec (f a) t
      | (.error e, t) => (.error e, t) := by
  show StateT.run (ExceptT.run (m >>= f)) s = _
  rw [ExceptT.run_bind, StateT.run_bind]
  unfold exec
  rcases StateT.run (ExceptT.run m) s with ⟨⟨e⟩ | ⟨a⟩, t⟩ <;> rfl

theorem traced_bind {m : Eff ε σ α} {f : α → Eff ε σ β} {onOk : β → σ → Prop}
    (h : Traced act P m s (fun a t => Traced act P (f a) t onOk onError) onError) :
    Traced act P (m >>= f) s onOk onError := by
  have hexec := exec_bind m f s
  rcases hm : exec m s with ⟨⟨e⟩ | ⟨a⟩, t⟩
  · rw [hm] at hexec
    have herror := h.error e (by rw [hm])
    have hreach := h.reach
    rw [hm] at herror hreach
    refine ⟨?_, ?_, ?_⟩
    · rw [hexec]
      exact hreach
    · intro b hb
      rw [hexec] at hb
      cases hb
    · intro e' he'
      rw [hexec] at he' ⊢
      cases he'
      exact herror
  · rw [hm] at hexec
    have hnext := h.ok a (by rw [hm])
    have hreach := h.reach
    rw [hm] at hnext hreach
    refine ⟨?_, ?_, ?_⟩
    · rw [hexec]
      exact hreach.trans hnext.reach
    · rw [hexec]
      exact hnext.ok
    · rw [hexec]
      exact hnext.error

theorem exec_tryCatch (m : Eff ε σ α) (handle : ε → Eff ε σ α) (s : σ) :
    exec (tryCatch m handle) s =
      match exec m s with
      | (.ok a, t) => (.ok a, t)
      | (.error e, t) => exec (handle e) t := by
  show StateT.run (ExceptT.run (tryCatch m handle)) s = _
  unfold exec
  rcases hm : StateT.run (ExceptT.run m) s with ⟨⟨e⟩ | ⟨a⟩, t⟩
  all_goals
    simp only [tryCatch, tryCatchThe, MonadExceptOf.tryCatch, ExceptT.tryCatch, ExceptT.run,
      ExceptT.mk, StateT.run, bind, StateT.bind] at hm ⊢
    rw [hm]
  rfl

theorem traced_tryCatch {m : Eff ε σ α} {handle : ε → Eff ε σ α}
    (h : Traced act P m s onOk fun e t => Traced act P (handle e) t onOk onError) :
    Traced act P (tryCatch m handle) s onOk onError := by
  have hexec := exec_tryCatch m handle s
  rcases hm : exec m s with ⟨⟨e⟩ | ⟨a⟩, t⟩
  · rw [hm] at hexec
    have hnext := h.error e (by rw [hm])
    have hreach := h.reach
    rw [hm] at hnext hreach
    refine ⟨?_, ?_, ?_⟩
    · rw [hexec]
      exact hreach.trans hnext.reach
    · rw [hexec]
      exact hnext.ok
    · rw [hexec]
      exact hnext.error
  · rw [hm] at hexec
    have hok := h.ok a (by rw [hm])
    have hreach := h.reach
    rw [hm] at hok hreach
    refine ⟨?_, ?_, ?_⟩
    · rw [hexec]
      exact hreach
    · intro b hb
      rw [hexec] at hb ⊢
      cases hb
      exact hok
    · intro e he
      rw [hexec] at he
      cases he

/-- A handler that needs nothing to be known where the body raised. -/
theorem traced_tryCatch_any {m : Eff ε σ α} {handle : ε → Eff ε σ α}
    (h : Traced act P m s onOk fun _ _ => True)
    (hhandle : ∀ e t, Traced act P (handle e) t onOk onError) :
    Traced act P (tryCatch m handle) s onOk onError :=
  traced_tryCatch (h.mono (fun _ _ ha => ha) fun e t _ => hhandle e t)

/-- A transaction is no action when it raises. -/
theorem traced_attempt {op : σ → Except ε (α × σ)}
    (hok : ∀ a t, op s = .ok (a, t) → (∃ k, P s k ∧ t = act s k) ∧ onOk a t)
    (herror : ∀ e, op s = .error e → onError e s) :
    Traced act P (attempt op) s onOk onError := by
  have hexec : exec (attempt op) s =
      match op s with
      | .ok (a, t) => (.ok a, t)
      | .error e => (.error e, s) := rfl
  rcases hop : op s with e | ⟨a, t⟩
  · rw [hop] at hexec
    refine ⟨?_, ?_, ?_⟩
    · rw [hexec]
      exact Reach.refl
    · intro b hb
      rw [hexec] at hb
      cases hb
    · intro e' he'
      rw [hexec] at he' ⊢
      cases he'
      exact herror e hop
  · rw [hop] at hexec
    obtain ⟨⟨k, hk, rfl⟩, hpost⟩ := hok a t hop
    refine ⟨?_, ?_, ?_⟩
    · rw [hexec]
      exact Reach.single hk
    · intro b hb
      rw [hexec] at hb ⊢
      cases hb
      exact hpost
    · intro e he
      rw [hexec] at he
      cases he

/-- The rule of a loop: the invariant speaks of the elements that are still to come. -/
theorem traced_forEach {xs : List β} {body : β → Eff ε σ Unit} (Inv : List β → σ → Prop)
    (hstart : Inv xs s)
    (hbody : ∀ x rest t, Inv (x :: rest) t →
      Traced act P (body x) t (fun _ u => Inv rest u) onError) :
    Traced act P (forEach xs body) s (fun _ t => Inv [] t) onError := by
  induction xs generalizing s with
  | nil => exact traced_pure hstart
  | cons x rest ih =>
      apply traced_bind
      apply (hbody x rest s hstart).mono
      · intro _ t ht
        exact ih ht
      · intro e t ht
        exact ht

end

end Eff

end AutocadMcp
