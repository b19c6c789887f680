import Mathlib.Data.List.Basic
import Mathlib.Data.Int.Order.Basic
import Mathlib.Order.Basic

/-!
# Ranges that follow one another

A list of ranges of numbers, each starting where the one before it ends.
-/

namespace AutocadMcp

variable {β : Type} {first last : β → ℤ} {items : List β} {item other : β} {next stop n : ℤ}

variable (first last) in
/-- The ranges cover the numbers from `next` up to `stop`, without it, in their order. -/
def Tiles (stop : ℤ) : ℤ → List β → Prop
  | next, [] => next = stop
  | next, item :: rest => first item = next ∧ first item ≤ last item ∧
      Tiles stop (last item + 1) rest

namespace Tiles

theorem le (h : Tiles first last stop next items) : next ≤ stop := by
  induction items generalizing next with
  | nil => exact h.le
  | cons item rest ih =>
      obtain ⟨hfirst, hle, hrest⟩ := h
      have := ih hrest
      omega

theorem bounds (h : Tiles first last stop next items) (hitem : item ∈ items) :
    next ≤ first item ∧ first item ≤ last item ∧ last item < stop := by
  induction items generalizing next with
  | nil => cases hitem
  | cons head rest ih =>
      obtain ⟨hfirst, hle, hrest⟩ := h
      rcases List.mem_cons.mp hitem with rfl | hmem
      · have hstop := hrest.le
        omega
      · have hbounds := ih hrest hmem
        omega

/-- Every number is in one of the ranges. -/
theorem covers (h : Tiles first last stop next items) (hlow : next ≤ n) (hhigh : n < stop) :
    ∃ item ∈ items, first item ≤ n ∧ n ≤ last item := by
  induction items generalizing next with
  | nil =>
      have hstop : next = stop := h
      omega
  | cons head rest ih =>
      obtain ⟨hfirst, hle, hrest⟩ := h
      rcases lt_or_ge (last head) n with hlt | hge
      · obtain ⟨item, hitem, hcovers⟩ := ih hrest (by omega)
        exact ⟨item, List.mem_cons_of_mem head hitem, hcovers⟩
      · exact ⟨head, List.mem_cons_self, by omega, hge⟩

theorem pairwise (h : Tiles first last stop next items) :
    items.Pairwise fun a b => last a < first b := by
  induction items generalizing next with
  | nil => exact List.Pairwise.nil
  | cons head rest ih =>
      refine List.pairwise_cons.mpr ⟨fun b hb => ?_, ih h.2.2⟩
      have hbounds := h.2.2.bounds hb
      omega

/-- Two of the ranges are the same or apart. -/
theorem same_or_apart (h : Tiles first last stop next items) (hitem : item ∈ items)
    (hother : other ∈ items) :
    first item = first other ∨ last item < first other ∨ last other < first item := by
  induction items generalizing next with
  | nil => cases hitem
  | cons head rest ih =>
      obtain ⟨-, -, hrest⟩ := h
      rcases List.mem_cons.mp hitem with rfl | hin
      · rcases List.mem_cons.mp hother with rfl | hin
        · exact Or.inl rfl
        · have hbounds := hrest.bounds hin
          omega
      · rcases List.mem_cons.mp hother with rfl | hin'
        · have hbounds := hrest.bounds hin
          omega
        · exact ih hrest hin hin'

theorem append_singleton (h : Tiles first last stop next items) (hfirst : first item = stop)
    (hle : first item ≤ last item) : Tiles first last (last item + 1) next (items ++ [item]) := by
  induction items generalizing next with
  | nil =>
      have hstop : next = stop := h
      exact ⟨by omega, hle, rfl⟩
  | cons head rest ih => exact ⟨h.1, h.2.1, ih h.2.2⟩

theorem of_append_singleton (h : Tiles first last stop next (items ++ [item])) :
    Tiles first last (first item) next items ∧ first item ≤ last item ∧ last item + 1 = stop := by
  induction items generalizing next with
  | nil =>
      obtain ⟨hfirst, hle, hstop⟩ := h
      exact ⟨hfirst.symm, hle, hstop⟩
  | cons head rest ih =>
      obtain ⟨hfirst, hle, hrest⟩ := h
      obtain ⟨htiles, hitem⟩ := ih hrest
      exact ⟨⟨hfirst, hle, htiles⟩, hitem⟩

theorem of_append {front rest : List β} (h : Tiles first last stop next (front ++ rest)) :
    ∃ start, next ≤ start ∧ Tiles first last stop start rest := by
  induction front generalizing next with
  | nil => exact ⟨next, le_rfl, h⟩
  | cons head front ih =>
      obtain ⟨hfirst, hle, hrest⟩ := h
      obtain ⟨start, hstart, htiles⟩ := ih hrest
      exact ⟨start, by omega, htiles⟩

/-- The ranges that end after a number start with the one that has the next number, or with the
first one of all. -/
theorem filter_last (h : Tiles first last stop next items) (cursor : ℤ) :
    ∃ start, Tiles first last stop start (items.filter fun item => cursor < last item) ∧
      next ≤ start ∧ start ≤ max next (cursor + 1) := by
  induction items generalizing next with
  | nil =>
      have hstop : next = stop := h
      exact ⟨next, h, le_rfl, le_max_left _ _⟩
  | cons head rest ih =>
      obtain ⟨hfirst, hle, hrest⟩ := h
      by_cases hlast : cursor < last head
      · have hall : rest.filter (fun item => cursor < last item) = rest := by
          refine List.filter_eq_self.mpr fun item hitem => decide_eq_true ?_
          have hbounds := hrest.bounds hitem
          omega
        refine ⟨next, ?_, le_rfl, le_max_left _ _⟩
        rw [List.filter_cons_of_pos (by simpa using hlast), hall]
        exact ⟨hfirst, hle, hrest⟩
      · obtain ⟨start, htiles, hlow, hhigh⟩ := ih hrest
        refine ⟨start, ?_, by omega, ?_⟩
        · rw [List.filter_cons_of_neg (by simpa using hlast)]
          exact htiles
        · have hmax : max (last head + 1) (cursor + 1) = cursor + 1 := max_eq_right (by omega)
          rw [hmax] at hhigh
          exact hhigh.trans (le_max_right _ _)

theorem take (h : Tiles first last stop next items) (k : ℕ) :
    ∃ stop', Tiles first last stop' next (items.take k) ∧ stop' ≤ stop := by
  induction items generalizing next k with
  | nil =>
      rw [List.take_nil]
      exact ⟨stop, h, le_rfl⟩
  | cons head rest ih =>
      cases k with
      | zero => exact ⟨next, rfl, h.le⟩
      | succ k =>
          obtain ⟨stop', htiles, hle⟩ := ih h.2.2 k
          exact ⟨stop', ⟨h.1, h.2.1, htiles⟩, hle⟩

theorem map {α : Type} {f : α → β} {xs : List α}
    (h : Tiles (first ∘ f) (last ∘ f) stop next xs) : Tiles first last stop next (xs.map f) := by
  induction xs generalizing next with
  | nil => exact h
  | cons x xs ih => exact ⟨h.1, h.2.1, ih h.2.2⟩

/-- The last range ends where all end. -/
theorem getLast? (h : Tiles first last stop next items) (hitem : items.getLast? = some item) :
    last item + 1 = stop := by
  obtain ⟨front, rfl⟩ := List.getLast?_eq_some_iff.mp hitem
  exact h.of_append_singleton.2.2

end Tiles

end AutocadMcp
