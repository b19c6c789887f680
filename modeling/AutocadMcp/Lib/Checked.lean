/-!
# Checked computations

A computation in `Except` is a chain of checks and steps that stops at the
first failure. The lemmas say what a chain that reached its end went through,
so that a proof takes one apart without unfolding `bind`.
-/

namespace AutocadMcp

/-- Passes when `p` holds and raises `e` otherwise. -/
def check {ε : Type} (p : Prop) [Decidable p] (e : ε) : Except ε Unit :=
  if p then .ok () else .error e

section

variable {ε α β : Type}

@[simp] theorem check_eq_ok {p : Prop} [Decidable p] {e : ε} {u : Unit} :
    check p e = .ok u ↔ p := by
  unfold check
  by_cases h : p <;> simp [h]

@[simp] theorem check_true {p : Prop} [Decidable p] {e : ε} (h : p) : check p e = .ok () := by
  simp [check, h]

theorem check_false {p : Prop} [Decidable p] {e : ε} (h : ¬ p) : check p e = .error e := by
  simp [check, h]

/-- A chain reaches its end exactly when its first part does and the rest follows from there. -/
theorem bind_eq_ok {first : Except ε α} {next : α → Except ε β} {out : β} :
    first >>= next = .ok out ↔ ∃ mid, first = .ok mid ∧ next mid = .ok out := by
  rcases first with failure | mid <;> simp [bind, Except.bind]

/-- A passed check goes on to the rest. -/
theorem pass {first : Except ε Unit} {next : Unit → Except ε β} {out : β} (h : first = .ok ())
    (hnext : next () = .ok out) : first >>= next = .ok out :=
  bind_eq_ok.mpr ⟨(), h, hnext⟩

/-- What the start gives and every passed iteration extends holds of the whole list once the
loop has ended. -/
theorem foldlM_eq_ok_rec {σ : Type} (Inv : List α → σ → Prop) {body : σ → α → Except ε σ}
    {s s' : σ} {xs : List α} (h : xs.foldlM body s = .ok s') (hstart : Inv [] s)
    (hbody : ∀ seen x t t', Inv seen t → body t x = .ok t' → Inv (seen ++ [x]) t') :
    Inv xs s' := by
  suffices hfrom : ∀ seen t, Inv seen t → xs.foldlM body t = .ok s' → Inv (seen ++ xs) s' from
    hfrom [] s hstart h
  clear h hstart
  induction xs with
  | nil =>
      intro seen t hseen hdone
      cases hdone
      simpa using hseen
  | cons x xs ih =>
      intro seen t hseen hrun
      rw [List.foldlM_cons, bind_eq_ok] at hrun
      obtain ⟨t', hx, hrest⟩ := hrun
      have hext := ih (seen ++ [x]) t' (hbody seen x t t' hseen hx) hrest
      simpa using hext

/-- What a loop over a list gives, seen through `g`, is read off its input when each iteration's
result is. -/
theorem mapM_eq_ok_map {γ : Type} {f : α → Except ε β} {g : β → γ} {k : α → γ} {xs : List α}
    {ys : List β} (h : xs.mapM f = .ok ys) (hf : ∀ x ∈ xs, ∀ y, f x = .ok y → g y = k x) :
    ys.map g = xs.map k := by
  induction xs generalizing ys with
  | nil =>
      cases h
      rfl
  | cons x xs ih =>
      rw [List.mapM_cons, bind_eq_ok] at h
      obtain ⟨y, hy, h⟩ := h
      obtain ⟨rest, hrest, h⟩ := bind_eq_ok.mp h
      cases h
      rw [List.map_cons, List.map_cons, hf x List.mem_cons_self y hy,
        ih hrest fun x hx => hf x (List.mem_cons_of_mem _ hx)]

/-- The results of a loop that ended are those of its iterations. -/
theorem mem_of_mapM_ok {f : α → Except ε β} {xs : List α} {ys : List β} (h : xs.mapM f = .ok ys)
    (y : β) : y ∈ ys ↔ ∃ x ∈ xs, f x = .ok y := by
  induction xs generalizing ys with
  | nil =>
      cases h
      simp
  | cons x xs ih =>
      rw [List.mapM_cons, bind_eq_ok] at h
      obtain ⟨first, hfirst, h⟩ := h
      obtain ⟨rest, hrest, h⟩ := bind_eq_ok.mp h
      cases h
      rw [List.mem_cons, ih hrest]
      constructor
      · rintro (rfl | ⟨x', hx', hy⟩)
        · exact ⟨x, List.mem_cons_self, hfirst⟩
        · exact ⟨x', List.mem_cons_of_mem _ hx', hy⟩
      · rintro ⟨x', hx', hy⟩
        rcases List.mem_cons.mp hx' with rfl | hx'
        · rw [hfirst, Except.ok.injEq] at hy
          exact Or.inl hy.symm
        · exact Or.inr ⟨x', hx', hy⟩

/-- Every iteration of a loop that ended succeeded. -/
theorem ok_of_mapM_ok {f : α → Except ε β} {xs : List α} {ys : List β} (h : xs.mapM f = .ok ys)
    {x : α} (hx : x ∈ xs) : ∃ y ∈ ys, f x = .ok y := by
  induction xs generalizing ys with
  | nil => cases hx
  | cons first xs ih =>
      rw [List.mapM_cons, bind_eq_ok] at h
      obtain ⟨y, hy, h⟩ := h
      obtain ⟨rest, hrest, h⟩ := bind_eq_ok.mp h
      cases h
      rcases List.mem_cons.mp hx with rfl | hx
      · exact ⟨y, List.mem_cons_self, hy⟩
      · obtain ⟨y', hy', hok⟩ := ih hrest hx
        exact ⟨y', List.mem_cons_of_mem _ hy', hok⟩

/-- A loop whose iterations all succeed gives their results. -/
theorem mapM_ok_of_forall {f : α → Except ε β} {xs : List α} (h : ∀ x ∈ xs, ∃ y, f x = .ok y) :
    ∃ ys, xs.mapM f = .ok ys ∧ ∀ y, y ∈ ys ↔ ∃ x ∈ xs, f x = .ok y := by
  have hrun : ∃ ys, xs.mapM f = .ok ys := by
    induction xs with
    | nil => exact ⟨[], rfl⟩
    | cons x xs ih =>
        obtain ⟨y, hy⟩ := h x List.mem_cons_self
        obtain ⟨ys, hys⟩ := ih fun x hx => h x (List.mem_cons_of_mem _ hx)
        refine ⟨y :: ys, ?_⟩
        rw [List.mapM_cons, hy, hys]
        rfl
  obtain ⟨ys, hys⟩ := hrun
  exact ⟨ys, hys, mem_of_mapM_ok hys⟩

/-- The state after a transaction: the new one, or the old one when it was rolled back. -/
def committed {σ : Type} (s : σ) : Except ε (α × σ) → σ
  | .ok (_, s') => s'
  | .error _ => s

@[simp] theorem committed_ok {σ : Type} (s : σ) (a : α) (s' : σ) :
    committed s (.ok (a, s') : Except ε (α × σ)) = s' := rfl

@[simp] theorem committed_error {σ : Type} (s : σ) (e : ε) :
    committed s (.error e : Except ε (α × σ)) = s := rfl

/-- What every committed result satisfies holds after the transaction, if it held before. -/
theorem committed_rec {σ : Type} {P : σ → Prop} {s : σ} {r : Except ε (α × σ)} (hs : P s)
    (hr : ∀ a s', r = .ok (a, s') → P s') : P (committed s r) := by
  cases r with
  | error e => exact hs
  | ok p => exact hr p.1 p.2 rfl

end

end AutocadMcp
