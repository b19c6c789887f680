import AutocadMcp.Lib.Table

/-!
# Counting the rows of a table

How many rows have a property, after each of the operations of a table.
-/

namespace AutocadMcp.Table

variable {κ α : Type} {key : α → κ}

/-- `SELECT COUNT(*) FROM t WHERE p`. -/
def tally (t : Table key) (p : α → Bool) : Nat := t.rows.countP p

@[simp] theorem tally_empty (p : α → Bool) : (empty : Table key).tally p = 0 := rfl

theorem tally_deleteWhere_le (t : Table key) (sweep p : α → Bool) :
    (t.deleteWhere sweep).tally p ≤ t.tally p :=
  List.Sublist.countP_le List.filter_sublist

theorem countP_map_le {p : α → Bool} {f : α → α} (hf : ∀ x, p (f x) = true → p x = true)
    (rows : List α) : (rows.map f).countP p ≤ rows.countP p := by
  rw [List.countP_map]
  exact List.countP_mono_left fun x _ hx => hf x hx

theorem tally_mapRows_le (t : Table key) {p : α → Bool} {f : α → α}
    (hkey : ∀ x, key (f x) = key x) (hf : ∀ x, p (f x) = true → p x = true) :
    (t.mapRows f hkey).tally p ≤ t.tally p :=
  countP_map_le hf t.rows

variable [DecidableEq κ]

theorem tally_insert {t t' : Table key} {x : α} (h : t.insert x = some t') (p : α → Bool) :
    t'.tally p = t.tally p + if p x then 1 else 0 := by
  unfold tally
  rw [(insert_some h).1, List.countP_append, List.countP_singleton]

theorem tally_modify_le (t : Table key) (k : κ) {p : α → Bool} {f : α → α}
    (hkey : ∀ x, key (f x) = key x) (hf : ∀ x, p (f x) = true → p x = true) :
    (t.modify k f hkey).tally p ≤ t.tally p := by
  apply countP_map_le
  intro x hx
  split at hx
  · exact hf x hx
  · exact hx

/-- A row that loses the property is one row less. -/
theorem tally_modify_lt {t : Table key} {k : κ} {x : α} {p : α → Bool} {f : α → α}
    (hkey : ∀ x, key (f x) = key x) (hx : t.get? k = some x) (hp : p x = true)
    (hf : ∀ x, p (f x) = false) : (t.modify k f hkey).tally p + 1 ≤ t.tally p := by
  obtain ⟨hmem, hk⟩ := get?_some hx
  obtain ⟨before, after, hrows⟩ := List.append_of_mem hmem
  have hle : ∀ rows : List α, (rows.map fun y => if key y = k then f y else y).countP p ≤
      rows.countP p := by
    intro rows
    apply countP_map_le
    intro y hy
    split at hy
    · rw [hf] at hy
      cases hy
    · exact hy
  have hfirst := hle before
  have hlast := hle after
  unfold tally
  show (t.rows.map fun y => if key y = k then f y else y).countP p + 1 ≤ t.rows.countP p
  rw [hrows, List.map_append, List.map_cons, List.countP_append, List.countP_append,
    List.countP_cons, List.countP_cons, if_pos hk, hf, hp]
  simp only [Bool.false_eq_true, if_false, if_true]
  omega

end AutocadMcp.Table
