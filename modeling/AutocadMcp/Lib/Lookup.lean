import Mathlib.Data.List.Nodup
import Mathlib.Data.Set.Finite.Lemmas

/-!
# Lookup by keys

In a list of pairs whose keys are distinct, the value under a key is that of its pair. In a list
of rows one of them has the greatest key.
-/

namespace AutocadMcp

variable {κ υ : Type} [DecidableEq κ] {entries : List (κ × υ)}

theorem lookup_eq_some_iff_mem (h : (entries.map Prod.fst).Nodup) {key : κ} {value : υ} :
    entries.lookup key = some value ↔ (key, value) ∈ entries := by
  induction entries with
  | nil => simp
  | cons entry rest ih =>
      obtain ⟨k, v⟩ := entry
      rw [List.map_cons, List.nodup_cons] at h
      obtain ⟨hk, hrest⟩ := h
      rw [List.lookup_cons, List.mem_cons, Prod.mk.injEq]
      by_cases hkey : key = k
      · subst hkey
        have hother : (key, value) ∉ rest := fun hmem => hk (List.mem_map.mpr ⟨_, hmem, rfl⟩)
        simp [hother, eq_comm]
      · simp [beq_false_of_ne hkey, hkey, ih hrest]

theorem lookup_eq_none_iff_notMem {key : κ} :
    entries.lookup key = none ↔ key ∉ entries.map Prod.fst := by
  induction entries with
  | nil => simp
  | cons entry rest ih =>
      rw [List.lookup_cons, List.map_cons, List.mem_cons, not_or, ← ih]
      by_cases hkey : key = entry.1
      · simp [hkey]
      · simp [beq_false_of_ne hkey, hkey]

/-! ## The first of a list in an order -/

section

variable {α κ : Type} [LinearOrder κ] {key : α → κ} {rows : List α}

/-- The row may come first in the order of descending keys. -/
def IsLast (key : α → κ) (rows : List α) (row : α) : Prop :=
  row ∈ rows ∧ ∀ other ∈ rows, key other ≤ key row

theorem exists_isLast (h : rows ≠ []) : ∃ row, IsLast key rows row := by
  obtain ⟨row, hrow, hle⟩ := Set.exists_max_image _ key (List.finite_toSet rows)
    (List.exists_mem_of_ne_nil rows h)
  exact ⟨row, hrow, hle⟩

end

end AutocadMcp
