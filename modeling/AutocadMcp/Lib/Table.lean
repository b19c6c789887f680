import Mathlib.Data.List.Nodup

/-!
# Tables with a primary key

A SQL table as the rows in insertion order together with the proof that no two
rows share a key, so a state with a violated primary key cannot be built.
`insert` fails where the database raises an integrity error; `modify` is an
`UPDATE … WHERE key = k` and `deleteWhere` a `DELETE … WHERE`.
-/

namespace AutocadMcp

/-- Rows in insertion order, no two with the same primary key. -/
structure Table {κ α : Type} (key : α → κ) where
  rows : List α
  unique : (rows.map key).Nodup

namespace Table

variable {κ α : Type} {key : α → κ}

def empty : Table key := ⟨[], List.nodup_nil⟩

@[simp] theorem rows_empty : (empty : Table key).rows = [] := rfl

/-- `DELETE FROM t WHERE p`. -/
def deleteWhere (t : Table key) (p : α → Bool) : Table key :=
  ⟨t.rows.filter (fun x => !p x), t.unique.sublist (List.filter_sublist.map key)⟩

theorem mem_deleteWhere {t : Table key} {p : α → Bool} {x : α} :
    x ∈ (t.deleteWhere p).rows ↔ x ∈ t.rows ∧ p x = false := by
  simp [deleteWhere, List.mem_filter]

/-- `UPDATE t SET …` on every row, for an update that leaves the key alone. -/
def mapRows (t : Table key) (f : α → α) (hf : ∀ x, key (f x) = key x) : Table key :=
  ⟨t.rows.map f, by
    have hkeys : (t.rows.map f).map key = t.rows.map key := by
      rw [List.map_map]
      exact List.map_congr_left fun x _ => hf x
    rw [hkeys]
    exact t.unique⟩

/-- Two rows with one key are one row. -/
theorem eq_of_key {t : Table key} {x y : α} (hx : x ∈ t.rows) (hy : y ∈ t.rows)
    (h : key x = key y) : x = y :=
  List.inj_on_of_nodup_map t.unique hx hy h

variable [DecidableEq κ]

/-- `SELECT * FROM t WHERE key = k`. -/
def get? (t : Table key) (k : κ) : Option α :=
  t.rows.find? (fun x => decide (key x = k))

/-- `INSERT INTO t`; `none` is the integrity error of a taken key. -/
def insert (t : Table key) (x : α) : Option (Table key) :=
  if h : key x ∈ t.rows.map key then none
  else some ⟨t.rows ++ [x], by
    rw [List.map_append, List.map_singleton]
    exact List.nodup_append.mpr ⟨t.unique, List.nodup_singleton _, by
      intro a ha b hb hab
      rw [List.mem_singleton] at hb
      exact h (hb ▸ hab ▸ ha)⟩⟩

/-- A row whose key no other row has, at the end. -/
def append (t : Table key) (x : α) (hx : ∀ y ∈ t.rows, key y ≠ key x) : Table key :=
  ⟨t.rows ++ [x], by
    rw [List.map_append, List.map_singleton]
    exact List.nodup_append.mpr ⟨t.unique, List.nodup_singleton _, by
      intro a ha b hb hab
      rw [List.mem_singleton] at hb
      obtain ⟨y, hy, hya⟩ := List.mem_map.mp ha
      exact hx y hy (hya.trans (hab.trans hb))⟩⟩

/-- `UPDATE t SET … WHERE key = k`, for an update that leaves the key alone. -/
def modify (t : Table key) (k : κ) (f : α → α) (hf : ∀ x, key (f x) = key x) : Table key :=
  ⟨t.rows.map (fun x => if key x = k then f x else x), by
    have hkeys : (t.rows.map (fun x => if key x = k then f x else x)).map key = t.rows.map key := by
      rw [List.map_map]
      refine List.map_congr_left fun x _ => ?_
      by_cases h : key x = k <;> simp [h, hf]
    rw [hkeys]
    exact t.unique⟩

/-- The row in place of the one that has its key, if any. -/
def put (t : Table key) (x : α) : Table key :=
  match t.insert x with
  | some t => t
  | none => t.modify (key x) (fun y => if key y = key x then x else y) fun y => by
      split
      · next h => exact h.symm
      · rfl

/-! ## Lookups -/

theorem get?_some {t : Table key} {k : κ} {x : α} (h : t.get? k = some x) :
    x ∈ t.rows ∧ key x = k :=
  ⟨List.mem_of_find?_eq_some h, by simpa using List.find?_some h⟩

theorem get?_none {t : Table key} {k : κ} (h : t.get? k = none) {x : α} (hx : x ∈ t.rows) :
    key x ≠ k := by
  simpa using List.find?_eq_none.mp h x hx

/-- A row is found under its own key. -/
theorem get?_of_mem {t : Table key} {x : α} (hx : x ∈ t.rows) : t.get? (key x) = some x := by
  cases h : t.get? (key x) with
  | none => exact absurd rfl (get?_none h hx)
  | some y => rw [eq_of_key (get?_some h).1 hx (get?_some h).2]

theorem get?_eq_some_iff {t : Table key} {k : κ} {x : α} :
    t.get? k = some x ↔ x ∈ t.rows ∧ key x = k :=
  ⟨get?_some, fun ⟨hx, hk⟩ => hk ▸ get?_of_mem hx⟩

@[simp] theorem get?_empty (k : κ) : (empty : Table key).get? k = none := rfl

theorem insert_some {t t' : Table key} {x : α} (h : t.insert x = some t') :
    t'.rows = t.rows ++ [x] ∧ t.get? (key x) = none := by
  unfold insert at h
  split at h
  · cases h
  · rename_i hk
    cases h
    refine ⟨rfl, List.find?_eq_none.mpr fun y hy => ?_⟩
    simp only [decide_eq_true_eq]
    exact fun hxy => hk (List.mem_map.mpr ⟨y, hy, hxy⟩)

/-- What an inserted table answers: the new row under its key, the old rows elsewhere. -/
theorem get?_insert {t t' : Table key} {x : α} (h : t.insert x = some t') (k : κ) :
    t'.get? k = if key x = k then some x else t.get? k := by
  obtain ⟨hrows, hnone⟩ := insert_some h
  unfold get? at hnone ⊢
  rw [hrows, List.find?_append]
  by_cases hk : key x = k
  · subst hk
    simp [hnone]
  · simp [hk]

theorem get?_insert_self {t t' : Table key} {x : α} (h : t.insert x = some t') :
    t'.get? (key x) = some x := by
  rw [get?_insert h, if_pos rfl]

/-- An insertion leaves every row that was there. -/
theorem get?_insert_of_some {t t' : Table key} {x y : α} (h : t.insert x = some t') {k : κ}
    (hy : t.get? k = some y) : t'.get? k = some y := by
  have hne : key x ≠ k := by
    rintro rfl
    rw [(insert_some h).2] at hy
    cases hy
  rw [get?_insert h, if_neg hne, hy]

theorem mem_insert {t t' : Table key} {x y : α} (h : t.insert x = some t') :
    y ∈ t'.rows ↔ y ∈ t.rows ∨ y = x := by
  rw [(insert_some h).1, List.mem_append, List.mem_singleton]

@[simp] theorem get?_modify {t : Table key} {k k' : κ} {f : α → α}
    {hf : ∀ x, key (f x) = key x} :
    (t.modify k f hf).get? k' = if k' = k then (t.get? k').map f else t.get? k' := by
  unfold get? modify
  simp only [List.find?_map, Function.comp_def]
  have hpred : (fun x => decide (key (if key x = k then f x else x) = k')) =
      fun x => decide (key x = k') := by
    funext x
    by_cases h : key x = k <;> simp [h, hf]
  rw [hpred]
  cases hx : t.rows.find? (fun x => decide (key x = k')) with
  | none => simp
  | some x =>
      have hkey : key x = k' := by simpa using List.find?_some hx
      by_cases h : k' = k
      · simp [h, hkey]
      · simp [h, hkey]

/-- An update of a row without a property leaves the rows that have it. -/
theorem get?_modify_keeps {t : Table key} {k k' : κ} {x y : α} (P : α → Prop)
    (hx : t.get? k = some x) (hnot : ¬ P x) (f : α → α) (hf : ∀ x, key (f x) = key x)
    (hy : t.get? k' = some y) (hP : P y) : (t.modify k f hf).get? k' = some y := by
  have hne : k' ≠ k := by
    rintro rfl
    rw [hx] at hy
    cases hy
    exact hnot hP
  rw [get?_modify, if_neg hne, hy]

/-- Only the inserted row can bring a property. -/
theorem any_get?_insert {t t' : Table key} {x : α} (h : t.insert x = some t') {P : α → Bool}
    (hx : P x = false) {k : κ} (hk : (t'.get? k).any P = true) : (t.get? k).any P = true := by
  rw [get?_insert h] at hk
  by_cases hkey : key x = k
  · simp [hkey, hx] at hk
  · rwa [if_neg hkey] at hk

/-- Only the updated row can bring a property. -/
theorem any_get?_modify {t : Table key} {k : κ} {f : α → α} (hf : ∀ x, key (f x) = key x)
    {P : α → Bool} (hP : ∀ x, P (f x) = false) {k' : κ}
    (hk : ((t.modify k f hf).get? k').any P = true) : (t.get? k').any P = true := by
  rw [get?_modify] at hk
  by_cases hkey : k' = k
  · rw [if_pos hkey] at hk
    cases hrow : t.get? k' with
    | none => simp [hrow] at hk
    | some x => simp [hrow, hP] at hk
  · rwa [if_neg hkey] at hk

@[simp] theorem get?_mapRows {t : Table key} {f : α → α} {hf : ∀ x, key (f x) = key x} {k : κ} :
    (t.mapRows f hf).get? k = (t.get? k).map f := by
  unfold get? mapRows
  rw [List.find?_map]
  simp only [Function.comp_def, hf]

theorem mem_modify {t : Table key} {k : κ} {f : α → α} {hf : ∀ x, key (f x) = key x} {y : α} :
    y ∈ (t.modify k f hf).rows ↔ ∃ x ∈ t.rows, y = if key x = k then f x else x := by
  simp [modify, List.mem_map, eq_comm]

/-- A stored row answers under its key, and the other rows answer as before. -/
theorem get?_put {t : Table key} {x : α} (k : κ) :
    (t.put x).get? k = if key x = k then some x else t.get? k := by
  unfold put
  split
  · rename_i t' hinsert
    exact get?_insert hinsert k
  · rename_i hnone
    rw [get?_modify]
    by_cases hk : k = key x
    · subst hk
      have hmem : key x ∈ t.rows.map key := by
        by_contra hnot
        rw [insert, dif_neg hnot] at hnone
        cases hnone
      obtain ⟨y, hy, hkey⟩ := List.mem_map.mp hmem
      have hget := get?_of_mem hy
      rw [hkey] at hget
      simp [hget, hkey]
    · rw [if_neg hk, if_neg fun h => hk h.symm]

/-- A row with a new key goes to the end. -/
theorem rows_put_of_none {t : Table key} {x : α} (h : t.get? (key x) = none) :
    (t.put x).rows = t.rows ++ [x] := by
  unfold put
  split
  · rename_i t' hinsert
    exact (insert_some hinsert).1
  · rename_i hnone
    rw [insert] at hnone
    split at hnone
    · rename_i hmem
      obtain ⟨y, hy, hkey⟩ := List.mem_map.mp hmem
      exact absurd hkey (get?_none h hy)
    · cases hnone

/-- A deletion by key. -/
theorem get?_deleteWhere_key {t : Table key} (k k' : κ) :
    (t.deleteWhere fun x => key x = k).get? k' = if k' = k then none else t.get? k' := by
  unfold get? deleteWhere
  rw [List.find?_filter]
  by_cases hk : k' = k
  · subst hk
    rw [if_pos rfl, List.find?_eq_none]
    intro x _
    by_cases hx : key x = k' <;> simp [hx]
  · rw [if_neg hk]
    congr 1
    funext x
    by_cases hx : key x = k'
    · simp [hx, hk]
    · simp [hx]

/-- A row that is left was there, and was not meant. -/
theorem get?_deleteWhere_some {t : Table key} {p : α → Bool} {k : κ} {x : α}
    (h : (t.deleteWhere p).get? k = some x) : t.get? k = some x ∧ p x = false := by
  obtain ⟨hmem, hkey⟩ := get?_some h
  obtain ⟨hrow, hkept⟩ := mem_deleteWhere.mp hmem
  rw [← hkey]
  exact ⟨get?_of_mem hrow, hkept⟩

/-- A row after an update is the updated one, or as it was. -/
theorem get?_modify_some {t : Table key} {k k' : κ} {f : α → α} {x old : α}
    (hf : ∀ x, key (f x) = key x) (hold : t.get? k = some old)
    (h : (t.modify k f hf).get? k' = some x) : x = f old ∨ t.get? k' = some x := by
  rw [get?_modify] at h
  split at h
  · next hk =>
      rw [hk, hold] at h
      exact Or.inl (Option.some.inj h).symm
  · exact Or.inr h

theorem mem_put {t : Table key} {x y : α} (h : y ∈ (t.put x).rows) : y = x ∨ y ∈ t.rows := by
  unfold put at h
  split at h
  · rename_i t' hinsert
    exact ((mem_insert hinsert).mp h).symm
  · obtain ⟨z, hz, rfl⟩ := mem_modify.mp h
    by_cases hkey : key z = key x
    · simp [hkey]
    · simp [hkey, hz]

end Table

end AutocadMcp
