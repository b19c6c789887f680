import Mathlib.Algebra.Order.Floor.Ring
import Mathlib.Data.Int.Range
import Mathlib.Tactic.Linarith

/-!
# Uniform grids on an ordered field

An interval occupies the cells between the floors of its scaled ends. Two
intervals that overlap occupy a common cell, whatever the cell size and the
origin are.
-/

namespace AutocadMcp.Grid

variable {K : Type} [Field K] [LinearOrder K] [IsStrictOrderedRing K] [FloorRing K]

/-- The index of the cell that holds a coordinate. -/
def cellOf (origin size x : K) : ℤ :=
  ⌊(x - origin) / size⌋

/-- The indices of the cells that meet an interval, in increasing order. -/
def cellsOf (origin size lo hi : K) : List ℤ :=
  Int.range (cellOf origin size lo) (cellOf origin size hi + 1)

theorem cellOf_mono {origin size x y : K} (hsize : 0 < size) (h : x ≤ y) :
    cellOf origin size x ≤ cellOf origin size y := by
  apply Int.floor_mono
  have hshift : x - origin ≤ y - origin := sub_le_sub_right h origin
  exact div_le_div_of_nonneg_right hshift hsize.le

omit [IsStrictOrderedRing K] in
theorem mem_cellsOf {origin size lo hi : K} {k : ℤ} :
    k ∈ cellsOf origin size lo hi ↔
      cellOf origin size lo ≤ k ∧ k ≤ cellOf origin size hi := by
  rw [cellsOf, Int.mem_range_iff, Int.lt_add_one_iff]

theorem cellOf_mem_cellsOf {origin size lo hi x : K} (hsize : 0 < size) (hlo : lo ≤ x)
    (hhi : x ≤ hi) : cellOf origin size x ∈ cellsOf origin size lo hi :=
  mem_cellsOf.mpr ⟨cellOf_mono hsize hlo, cellOf_mono hsize hhi⟩

/-- Overlapping intervals occupy a common cell: the one of the larger lower end. -/
theorem exists_common_cell {origin size lo₁ hi₁ lo₂ hi₂ : K} (hsize : 0 < size)
    (h₁ : lo₁ ≤ hi₁) (h₂ : lo₂ ≤ hi₂) (h₁₂ : lo₁ ≤ hi₂) (h₂₁ : lo₂ ≤ hi₁) :
    ∃ k, k ∈ cellsOf origin size lo₁ hi₁ ∧ k ∈ cellsOf origin size lo₂ hi₂ := by
  refine ⟨cellOf origin size (max lo₁ lo₂), ?_, ?_⟩
  · exact cellOf_mem_cellsOf hsize (le_max_left _ _) (max_le h₁ h₂₁)
  · exact cellOf_mem_cellsOf hsize (le_max_right _ _) (max_le h₁₂ h₂)

/-- Intervals that come within `gap` of each other overlap once each end has moved out by
at least half of it. -/
theorem exists_common_cell_of_gap {origin size lo₁ hi₁ lo₂ hi₂ gap grow : K} (hsize : 0 < size)
    (hgrow : 0 ≤ grow) (hgap : gap ≤ 2 * grow) (h₁ : lo₁ ≤ hi₁) (h₂ : lo₂ ≤ hi₂)
    (h₁₂ : lo₁ - gap ≤ hi₂) (h₂₁ : lo₂ - gap ≤ hi₁) :
    ∃ k, k ∈ cellsOf origin size (lo₁ - grow) (hi₁ + grow) ∧
      k ∈ cellsOf origin size (lo₂ - grow) (hi₂ + grow) := by
  apply exists_common_cell hsize
  · linarith
  · linarith
  · linarith
  · linarith

end AutocadMcp.Grid
