import Mathlib.Data.List.Rotate
import Mathlib.Data.ZMod.Basic
import Mathlib.Tactic.Ring

/-!
# Lists read around a circle

The entries of a nonempty list by an index modulo its length. A rotation shifts the index
and a reversal mirrors it, so that equations between rotated and reversed lists become
equations between indices.
-/

namespace AutocadMcp

section

variable {α β : Type} {n : ℕ} [NeZero n]

/-- The entry at an index modulo the length. -/
def around (xs : List α) (h : xs.length = n) (i : ZMod n) : α :=
  xs.get ⟨i.val, by rw [h]; exact i.val_lt⟩

variable {xs : List α} {ys : List β}

theorem around_natCast (h : xs.length = n) {k : ℕ} (hk : k < xs.length) :
    around xs h (k : ZMod n) = xs[k] := by
  have hval : ((k : ZMod n)).val = k := ZMod.val_natCast_of_lt (h ▸ hk)
  simp only [around, List.get_eq_getElem, hval]

theorem around_rotate (h : xs.length = n) (k : ℕ) (i : ZMod n) :
    around (xs.rotate k) (by rw [List.length_rotate, h]) i = around xs h (i + k) := by
  simp only [around, List.get_eq_getElem, List.getElem_rotate]
  congr 1
  rw [ZMod.val_add, ZMod.val_natCast, h, Nat.add_mod_mod]

theorem natCast_mirror (i : ZMod n) : ((n - 1 - i.val : ℕ) : ZMod n) = -1 - i := by
  have hle : i.val ≤ n - 1 := Nat.le_sub_one_of_lt i.val_lt
  rw [Nat.cast_sub hle, Nat.cast_sub (Nat.one_le_iff_ne_zero.mpr (NeZero.ne n)),
    ZMod.natCast_self, ZMod.natCast_zmod_val, Nat.cast_one, zero_sub]

theorem neg_one_eq_natCast : (-1 : ZMod n) = ((n - 1 : ℕ) : ZMod n) := by
  have hmirror := natCast_mirror (0 : ZMod n)
  rw [ZMod.val_zero, Nat.sub_zero, sub_zero] at hmirror
  exact hmirror.symm

/-- The last entry is the one before the first. -/
theorem around_neg_one (h : xs.length = n) (hne : xs ≠ []) :
    around xs h (-1) = xs.getLast hne := by
  have hlt : n - 1 < xs.length := by
    have := NeZero.ne n
    omega
  rw [neg_one_eq_natCast, around_natCast h hlt, List.getLast_eq_getElem]
  simp only [h]

theorem val_lt_of_ne_neg_one {i : ZMod n} (hi : i ≠ -1) : i.val < n - 1 := by
  have hlt := i.val_lt
  have hne : i.val ≠ n - 1 := by
    intro hval
    rw [neg_one_eq_natCast, ← hval, ZMod.natCast_zmod_val] at hi
    exact hi rfl
  omega

/-- A list with its last entry replaced. -/
theorem around_replaceLast (h : xs.length = n) (x : α)
    (h' : (xs.dropLast ++ [x]).length = n) (i : ZMod n) :
    around (xs.dropLast ++ [x]) h' i = if i = -1 then x else around xs h i := by
  by_cases hi : i = -1
  · subst hi
    rw [if_pos rfl, around_neg_one h' (by simp), List.getLast_append_singleton]
  · have hlt : i.val < xs.dropLast.length := by
      rw [List.length_dropLast, h]
      exact val_lt_of_ne_neg_one hi
    rw [if_neg hi]
    simp only [around, List.get_eq_getElem, List.getElem_append_left hlt, List.getElem_dropLast]

theorem around_reverse (h : xs.length = n) (i : ZMod n) :
    around xs.reverse (by rw [List.length_reverse, h]) i = around xs h (-1 - i) := by
  have hlt : n - 1 - i.val < xs.length := by
    have := NeZero.ne n
    omega
  rw [← natCast_mirror, around_natCast h hlt]
  simp only [around, List.get_eq_getElem, List.getElem_reverse, h]

theorem around_map (h : xs.length = n) (f : α → β) (i : ZMod n) :
    around (xs.map f) (by rw [List.length_map, h]) i = f (around xs h i) := by
  simp [around]

/-- What holds of the entries side by side holds at every index. -/
theorem forall_zip_iff (h : xs.length = n) (h' : ys.length = n) {p : α × β → Prop} :
    (∀ pair ∈ xs.zip ys, p pair) ↔ ∀ i, p (around xs h i, around ys h' i) := by
  constructor
  · intro hall i
    refine hall _ (List.mem_iff_getElem.mpr ⟨i.val, ?_, ?_⟩)
    · rw [List.length_zip, h, h', min_self]
      exact i.val_lt
    · simp [around]
  · intro hall pair hpair
    obtain ⟨k, hk, rfl⟩ := List.mem_iff_getElem.mp hpair
    rw [List.length_zip, lt_min_iff] at hk
    have hat := hall k
    rw [around_natCast h hk.1, around_natCast h' hk.2] at hat
    rwa [List.getElem_zip]

theorem around_congr {xs ys : List α} (heq : xs = ys) (h : xs.length = n) (i : ZMod n) :
    around xs h i = around ys (heq ▸ h) i := by
  subst heq
  rfl

/-- Lists with the same entries at every index are the same. -/
theorem eq_of_around {xs ys : List α} (h : xs.length = n) (h' : ys.length = n)
    (hall : ∀ i, around xs h i = around ys h' i) : xs = ys := by
  refine List.ext_getElem (h.trans h'.symm) fun k hk hk' => ?_
  rw [← around_natCast h hk, ← around_natCast h' hk']
  exact hall k

/-- The entries before the last one, mirrored. -/
theorem around_mirror {f : β → α} (h : xs.length = n) (h' : ys.length = n)
    (heq : xs.dropLast = ys.dropLast.reverse.map f) {i : ZMod n} (hi : i ≠ -1) :
    around xs h i = f (around ys h' (-2 - i)) := by
  have hlt := val_lt_of_ne_neg_one hi
  have hindex : (-2 - i : ZMod n) = ((n - 2 - i.val : ℕ) : ZMod n) := by
    have hmirror := natCast_mirror i
    have hsucc : n - 1 - i.val = (n - 2 - i.val) + 1 := by omega
    rw [hsucc, Nat.cast_succ] at hmirror
    rw [eq_sub_of_add_eq hmirror]
    ring
  have hleft : i.val < xs.dropLast.length := by
    rw [List.length_dropLast]
    omega
  have hright : n - 2 - i.val < ys.length := by omega
  rw [hindex, around_natCast h' hright]
  calc around xs h i = xs.dropLast[i.val] := by
        rw [List.getElem_dropLast]
        rfl
    _ = f ys[n - 2 - i.val] := by
        simp only [heq, List.getElem_map, List.getElem_reverse, List.getElem_dropLast,
          List.length_dropLast, h', Nat.sub_sub]

/-- Every index is that of a rotation. -/
theorem exists_range_iff {p : ZMod n → Prop} : (∃ k ∈ List.range n, p k) ↔ ∃ k, p k := by
  constructor
  · rintro ⟨k, -, hk⟩
    exact ⟨k, hk⟩
  · rintro ⟨k, hk⟩
    exact ⟨k.val, List.mem_range.mpr k.val_lt, by rwa [ZMod.natCast_zmod_val]⟩

/-- Side by side with a list that has one more entry in front, which is read one place on. -/
theorem around_zip_cons (h : xs.length = n) (h' : ys.length = n) (y : β) (i : ZMod n) :
    around (xs.zip (y :: ys)) (by rw [List.length_zip, List.length_cons, h, h']; omega) i =
      (around xs h i, if i = 0 then y else around ys h' (i - 1)) := by
  have hlt : i.val < (y :: ys).length := by
    rw [List.length_cons, h']
    exact i.val_lt.trans (Nat.lt_succ_self n)
  have hsplit : around (xs.zip (y :: ys)) (by rw [List.length_zip, List.length_cons, h, h']; omega)
      i = (around xs h i, (y :: ys).get ⟨i.val, hlt⟩) := by
    simp only [around, List.get_eq_getElem, List.getElem_zip]
  rw [hsplit]
  congr 1
  by_cases hi : i = 0
  · subst hi
    rw [if_pos rfl]
    simp [ZMod.val_zero]
  · rw [if_neg hi]
    obtain ⟨m, hm⟩ := Nat.exists_eq_succ_of_ne_zero fun hval => hi ((ZMod.val_eq_zero i).mp hval)
    have hm' : m < ys.length := by
      have := i.val_lt
      omega
    have hprevious : i - 1 = (m : ZMod n) := by
      rw [← ZMod.natCast_zmod_val i, hm, Nat.cast_succ, add_sub_cancel_right]
    rw [hprevious, around_natCast h' hm']
    simp only [hm, Nat.succ_eq_add_one, List.get_eq_getElem, List.getElem_cons_succ]

end

end AutocadMcp
