import Mathlib.Data.List.Nodup

/-!
# Recency

The distinct elements of a list in the order in which they come first in it: for a history with
its last event in front, those of the last events.
-/

namespace AutocadMcp

variable {α : Type} [DecidableEq α] {l : List α} {a x : α} {n : ℕ}

def recency : List α → List α
  | [] => []
  | a :: older => a :: (recency older).filter fun x => x ≠ a

@[simp] theorem mem_recency : x ∈ recency l ↔ x ∈ l := by
  induction l with
  | nil => rfl
  | cons a older ih =>
      rw [recency, List.mem_cons, List.mem_cons, List.mem_filter, ih, decide_eq_true_eq]
      tauto

theorem recency_nodup (l : List α) : (recency l).Nodup := by
  induction l with
  | nil => exact List.nodup_nil
  | cons a older ih =>
      refine List.nodup_cons.mpr ⟨fun h => ?_, ih.filter _⟩
      exact of_decide_eq_true (List.mem_filter.mp h).2 rfl

theorem filter_ne_of_notMem (h : a ∉ l) : (l.filter fun x => x ≠ a) = l :=
  List.filter_eq_self.mpr fun _ hx => decide_eq_true fun heq => h (heq ▸ hx)

theorem length_recency_cons_of_mem (h : a ∈ l) :
    (recency (a :: l)).length = (recency l).length := by
  have herase : ((recency l).filter fun x => x ≠ a) = (recency l).erase a := by
    rw [(recency_nodup l).erase_eq_filter a]
    exact List.filter_congr fun x _ => by by_cases hx : x = a <;> simp [hx]
  have hmem : a ∈ recency l := mem_recency.mpr h
  rw [recency, List.length_cons, herase, List.length_erase_of_mem hmem]
  exact Nat.sub_add_cancel (List.length_pos_of_mem hmem)

theorem recency_cons_of_notMem (h : a ∉ l) : recency (a :: l) = a :: recency l := by
  rw [recency, filter_ne_of_notMem fun hmem => h (mem_recency.mp hmem)]

/-- An element that is among the last ones stays so with one more of them. -/
theorem mem_take_succ_of_mem_take_filter (h : l.Nodup)
    (hx : x ∈ (l.filter fun y => y ≠ a).take n) : x ∈ l.take (n + 1) := by
  induction l generalizing n with
  | nil => simp at hx
  | cons b rest ih =>
      obtain ⟨hb, hrest⟩ := List.nodup_cons.mp h
      by_cases hab : b = a
      · subst hab
        rw [List.filter_cons_of_neg (by simp), filter_ne_of_notMem hb] at hx
        exact List.mem_cons_of_mem b hx
      · rw [List.filter_cons_of_pos (by simpa using hab)] at hx
        cases n with
        | zero => simp at hx
        | succ n =>
            rw [List.take_succ_cons, List.mem_cons] at hx ⊢
            exact hx.imp_right (ih hrest)

end AutocadMcp
