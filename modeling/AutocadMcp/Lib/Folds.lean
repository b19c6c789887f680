import Mathlib.Data.List.Perm.Basic
import Mathlib.Data.List.Sort

/-!
# Folds and sorting

A fold of a commutative operation over a list that is not empty starts at its first value,
and does not depend on which value that is. Sorting by a key that tells the values apart
does not depend on the order of the list either.
-/

namespace AutocadMcp

variable {α : Type}

/-- An operation that chooses one of its arguments keeps what all values satisfy. -/
theorem foldl_choose {P : α → Prop} {choose : α → α → α}
    (hchoose : ∀ x y, choose x y = x ∨ choose x y = y) (values : List α) (v : α) (hv : P v)
    (hvalues : ∀ w ∈ values, P w) : P (values.foldl choose v) := by
  induction values generalizing v with
  | nil => exact hv
  | cons w values ih =>
      refine ih (choose v w) ?_ fun x hx => hvalues x (List.mem_cons_of_mem w hx)
      rcases hchoose v w with h | h
      · rw [h]
        exact hv
      · rw [h]
        exact hvalues w List.mem_cons_self

/-- A fold that keeps the best value so far ends with a value of the list. -/
theorem mem_of_foldl_some {choose : Option α → α → Option α}
    (hchoose : ∀ best x, choose best x = some x ∨ choose best x = best) {values : List α} {v : α}
    (h : values.foldl choose none = some v) : v ∈ values := by
  have hmem : ∀ (xs : List α) (best : Option α), (∀ w ∈ best, w ∈ values) →
      (∀ x ∈ xs, x ∈ values) → ∀ w ∈ xs.foldl choose best, w ∈ values := by
    intro xs
    induction xs with
    | nil => exact fun best hbest _ => hbest
    | cons x xs ih =>
        intro best hbest hxs
        refine ih (choose best x) ?_ fun y hy => hxs y (List.mem_cons_of_mem x hy)
        rcases hchoose best x with hx | hx
        · rw [hx]
          intro w hw
          rw [← Option.some_inj.mp hw]
          exact hxs x List.mem_cons_self
        · rw [hx]
          exact hbest
  exact hmem values none nofun (fun _ hx => hx) v h

/-- The values of a list may be folded in any order. -/
theorem foldl_perm {combine : α → α → α} (hcomm : ∀ x y, combine x y = combine y x)
    (hassoc : ∀ x y z, combine (combine x y) z = combine x (combine y z)) {xs ys : List α}
    (h : xs.Perm ys) : ∀ v vs w ws, xs = v :: vs → ys = w :: ws →
      vs.foldl combine v = ws.foldl combine w := by
  have hright : RightCommutative combine := ⟨fun x y z => by rw [hassoc, hcomm y z, ← hassoc]⟩
  induction h with
  | nil => rintro v vs w ws ⟨⟩
  | cons x hperm ih =>
      rintro v vs w ws ⟨⟩ ⟨⟩
      exact hperm.foldl_eq _
  | swap x y l =>
      rintro v vs w ws ⟨⟩ ⟨⟩
      rw [List.foldl_cons, List.foldl_cons, hcomm]
  | @trans _ middle _ hfirst hsecond ih ih' =>
      rintro v vs w ws rfl rfl
      cases middle with
      | nil => exact absurd hfirst.length_eq (by simp)
      | cons u us => exact (ih v vs u us rfl rfl).trans (ih' u us w ws rfl rfl)

/-! ## Sorting by a key -/

section

variable {β : Type} [LinearOrder β] {key : α → β} {le : α → α → Prop} [DecidableRel le]

theorem pairwise_insertionSort_key (hle : ∀ x y, le x y ↔ key x ≤ key y) (xs : List α) :
    (xs.insertionSort le).Pairwise le := by
  have htotal : Std.Total le := ⟨fun x y => by
    rw [hle, hle]
    exact le_total _ _⟩
  have htrans : IsTrans α le := ⟨fun x y z => by
    rw [hle, hle, hle]
    exact le_trans⟩
  exact List.pairwise_insertionSort le xs

/-- Where no two values share a key, sorting forgets the order of the list. -/
theorem insertionSort_key_congr (hle : ∀ x y, le x y ↔ key x ≤ key y) {xs ys : List α}
    (h : xs.Perm ys) (hkey : ∀ x ∈ xs, ∀ y ∈ xs, key x = key y → x = y) :
    xs.insertionSort le = ys.insertionSort le := by
  have hperm := (List.perm_insertionSort le xs).trans (h.trans (List.perm_insertionSort le ys).symm)
  refine hperm.eq_of_pairwise ?_ (pairwise_insertionSort_key hle xs)
    (pairwise_insertionSort_key hle ys)
  intro x y hx hy hxy hyx
  rw [List.mem_insertionSort] at hx hy
  exact hkey x hx y (h.mem_iff.mpr hy) (le_antisymm ((hle x y).mp hxy) ((hle y x).mp hyx))

end

end AutocadMcp
