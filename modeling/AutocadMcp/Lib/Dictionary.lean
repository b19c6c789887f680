import Mathlib.Data.Finmap
import AutocadMcp.Lib.Checked

/-!
# Checked bulk updates of a dictionary

A dictionary with text keys as a finite map. Each loop checks an entry and writes
it, and stops at the first entry that fails: entries that must be new, entries that
must hold an old value and get a new one, entries that must hold a value and are
removed. With distinct keys a loop succeeds exactly where each check holds of the
dictionary that it started from.
-/

namespace AutocadMcp

abbrev Dictionary (α : Type) := Finmap fun _ : String => α

namespace Dictionary

variable {ε ι α : Type} {e : ε} {key : ι → String} {value old new : ι → α}
  {d d' : Dictionary α} {xs : List ι}

/-- Sets each entry, the later over the earlier. -/
def setAll (key : ι → String) (value : ι → α) (d : Dictionary α) (xs : List ι) : Dictionary α :=
  xs.foldl (fun d x => d.insert (key x) (value x)) d

/-- Removes each key. -/
def removeAll (key : ι → String) (d : Dictionary α) (xs : List ι) : Dictionary α :=
  xs.foldl (fun d x => d.erase (key x)) d

@[simp] theorem setAll_cons (x : ι) :
    setAll key value d (x :: xs) = setAll key value (d.insert (key x) (value x)) xs := rfl

@[simp] theorem removeAll_cons (x : ι) :
    removeAll key d (x :: xs) = removeAll key (d.erase (key x)) xs := rfl

theorem lookup_setAll_of_notMem {k : String} (h : k ∉ xs.map key) :
    (setAll key value d xs).lookup k = d.lookup k := by
  induction xs generalizing d with
  | nil => rfl
  | cons x xs ih =>
      rw [List.map_cons, List.mem_cons, not_or] at h
      rw [setAll_cons, ih h.2, Finmap.lookup_insert_of_ne _ h.1]

theorem lookup_setAll_of_mem (hkeys : (xs.map key).Nodup) {x : ι} (hx : x ∈ xs) :
    (setAll key value d xs).lookup (key x) = some (value x) := by
  induction xs generalizing d with
  | nil => cases hx
  | cons y xs ih =>
      rw [List.map_cons, List.nodup_cons] at hkeys
      rcases List.mem_cons.mp hx with rfl | hx
      · rw [setAll_cons, lookup_setAll_of_notMem hkeys.1, Finmap.lookup_insert]
      · exact ih hkeys.2 hx

theorem lookup_removeAll_of_notMem {k : String} (h : k ∉ xs.map key) :
    (removeAll key d xs).lookup k = d.lookup k := by
  induction xs generalizing d with
  | nil => rfl
  | cons x xs ih =>
      rw [List.map_cons, List.mem_cons, not_or] at h
      rw [removeAll_cons, ih h.2, Finmap.lookup_erase_ne h.1]

theorem lookup_removeAll_of_mem {k : String} (h : k ∈ xs.map key) :
    (removeAll key d xs).lookup k = none := by
  induction xs generalizing d with
  | nil => cases h
  | cons x xs ih =>
      by_cases hlater : k ∈ xs.map key
      · exact ih hlater
      · rcases List.mem_cons.mp h with rfl | h
        · rw [removeAll_cons, lookup_removeAll_of_notMem hlater, Finmap.lookup_erase]
        · exact absurd h hlater

/-! ## The checked loops -/

/-- `TryAdd` for each entry. -/
def addEach (e : ε) (key : ι → String) (value : ι → α) (d : Dictionary α) (xs : List ι) :
    Except ε (Dictionary α) :=
  xs.foldlM (fun d x => do
    check (d.lookup (key x) = none) e
    return d.insert (key x) (value x)) d

theorem addEach_cons {x : ι} : addEach e key value d (x :: xs) = .ok d' ↔
    d.lookup (key x) = none ∧ addEach e key value (d.insert (key x) (value x)) xs = .ok d' := by
  rw [addEach, List.foldlM_cons, bind_eq_ok]
  simp only [bind_eq_ok, check_eq_ok, pure, Except.pure, Except.ok.injEq]
  constructor
  · rintro ⟨_, ⟨_, hnew, rfl⟩, hrest⟩
    exact ⟨hnew, hrest⟩
  · rintro ⟨hnew, hrest⟩
    exact ⟨_, ⟨⟨⟩, hnew, rfl⟩, hrest⟩

/-- New entries have distinct keys that the dictionary does not hold. -/
theorem addEach_eq_ok : addEach e key value d xs = .ok d' ↔
    (xs.map key).Nodup ∧ (∀ x ∈ xs, d.lookup (key x) = none) ∧ d' = setAll key value d xs := by
  induction xs generalizing d with
  | nil => simp [addEach, setAll, pure, Except.pure, eq_comm]
  | cons x xs ih =>
      rw [addEach_cons, ih, List.map_cons, List.nodup_cons, setAll_cons]
      constructor
      · rintro ⟨hx, hkeys, hnew, rfl⟩
        have hfresh : key x ∉ xs.map key := by
          intro hmem
          obtain ⟨y, hy, hkey⟩ := List.mem_map.mp hmem
          have hnone := hnew y hy
          rw [hkey, Finmap.lookup_insert] at hnone
          cases hnone
        refine ⟨⟨hfresh, hkeys⟩, ?_, rfl⟩
        intro y hy
        rcases List.mem_cons.mp hy with rfl | hy
        · exact hx
        · have hne : key y ≠ key x := fun h => hfresh (h ▸ List.mem_map_of_mem hy)
          rw [← hnew y hy, Finmap.lookup_insert_of_ne _ hne]
      · rintro ⟨⟨hfresh, hkeys⟩, hnew, rfl⟩
        refine ⟨hnew x List.mem_cons_self, hkeys, ?_, rfl⟩
        intro y hy
        have hne : key y ≠ key x := fun h => hfresh (h ▸ List.mem_map_of_mem hy)
        rw [Finmap.lookup_insert_of_ne _ hne]
        exact hnew y (List.mem_cons_of_mem _ hy)

section

variable [DecidableEq α]

/-- Each entry from its old value to its new one. -/
def changeEach (e : ε) (key : ι → String) (old new : ι → α) (d : Dictionary α) (xs : List ι) :
    Except ε (Dictionary α) :=
  xs.foldlM (fun d x => do
    check (d.lookup (key x) = some (old x)) e
    return d.insert (key x) (new x)) d

/-- Removes each entry, which has to hold its value. -/
def removeEach (e : ε) (key : ι → String) (value : ι → α) (d : Dictionary α) (xs : List ι) :
    Except ε (Dictionary α) :=
  xs.foldlM (fun d x => do
    check (d.lookup (key x) = some (value x)) e
    return d.erase (key x)) d

theorem changeEach_cons {x : ι} : changeEach e key old new d (x :: xs) = .ok d' ↔
    d.lookup (key x) = some (old x) ∧
      changeEach e key old new (d.insert (key x) (new x)) xs = .ok d' := by
  rw [changeEach, List.foldlM_cons, bind_eq_ok]
  simp only [bind_eq_ok, check_eq_ok, pure, Except.pure, Except.ok.injEq]
  constructor
  · rintro ⟨_, ⟨_, hold, rfl⟩, hrest⟩
    exact ⟨hold, hrest⟩
  · rintro ⟨hold, hrest⟩
    exact ⟨_, ⟨⟨⟩, hold, rfl⟩, hrest⟩

theorem removeEach_cons {x : ι} : removeEach e key value d (x :: xs) = .ok d' ↔
    d.lookup (key x) = some (value x) ∧
      removeEach e key value (d.erase (key x)) xs = .ok d' := by
  rw [removeEach, List.foldlM_cons, bind_eq_ok]
  simp only [bind_eq_ok, check_eq_ok, pure, Except.pure, Except.ok.injEq]
  constructor
  · rintro ⟨_, ⟨_, hold, rfl⟩, hrest⟩
    exact ⟨hold, hrest⟩
  · rintro ⟨hold, hrest⟩
    exact ⟨_, ⟨⟨⟩, hold, rfl⟩, hrest⟩

/-- Changes of distinct keys are checked against the dictionary they start from. -/
theorem changeEach_eq_ok (hkeys : (xs.map key).Nodup) : changeEach e key old new d xs = .ok d' ↔
    (∀ x ∈ xs, d.lookup (key x) = some (old x)) ∧ d' = setAll key new d xs := by
  induction xs generalizing d with
  | nil => simp [changeEach, setAll, pure, Except.pure, eq_comm]
  | cons x xs ih =>
      rw [List.map_cons, List.nodup_cons] at hkeys
      have hsame : ∀ y ∈ xs,
          (d.insert (key x) (new x)).lookup (key y) = d.lookup (key y) := by
        intro y hy
        have hne : key y ≠ key x := fun h => hkeys.1 (h ▸ List.mem_map_of_mem hy)
        exact Finmap.lookup_insert_of_ne _ hne
      rw [changeEach_cons, ih hkeys.2, setAll_cons, List.forall_mem_cons]
      constructor
      · rintro ⟨hx, hold, rfl⟩
        exact ⟨⟨hx, fun y hy => hsame y hy ▸ hold y hy⟩, rfl⟩
      · rintro ⟨⟨hx, hold⟩, rfl⟩
        exact ⟨hx, fun y hy => (hsame y hy).trans (hold y hy), rfl⟩

/-- So are removals. -/
theorem removeEach_eq_ok (hkeys : (xs.map key).Nodup) : removeEach e key value d xs = .ok d' ↔
    (∀ x ∈ xs, d.lookup (key x) = some (value x)) ∧ d' = removeAll key d xs := by
  induction xs generalizing d with
  | nil => simp [removeEach, removeAll, pure, Except.pure, eq_comm]
  | cons x xs ih =>
      rw [List.map_cons, List.nodup_cons] at hkeys
      have hsame : ∀ y ∈ xs, (d.erase (key x)).lookup (key y) = d.lookup (key y) := by
        intro y hy
        have hne : key y ≠ key x := fun h => hkeys.1 (h ▸ List.mem_map_of_mem hy)
        exact Finmap.lookup_erase_ne hne
      rw [removeEach_cons, ih hkeys.2, removeAll_cons, List.forall_mem_cons]
      constructor
      · rintro ⟨hx, hold, rfl⟩
        exact ⟨⟨hx, fun y hy => hsame y hy ▸ hold y hy⟩, rfl⟩
      · rintro ⟨⟨hx, hold⟩, rfl⟩
        exact ⟨hx, fun y hy => (hsame y hy).trans (hold y hy), rfl⟩

end

/-! ## Growth -/

/-- Every entry is still there. -/
def Grows (d d' : Dictionary α) : Prop := ∀ k v, d.lookup k = some v → d'.lookup k = some v

theorem Grows.refl (d : Dictionary α) : Grows d d := fun _ _ h => h

theorem Grows.trans {d'' : Dictionary α} (h : Grows d d') (h' : Grows d' d'') : Grows d d'' :=
  fun k v hk => h' k v (h k v hk)

theorem grows_insert {k : String} {v : α} (h : d.lookup k = none) : Grows d (d.insert k v) := by
  intro k' v' hk'
  have hne : k' ≠ k := by
    rintro rfl
    rw [h] at hk'
    cases hk'
  rw [Finmap.lookup_insert_of_ne _ hne]
  exact hk'

theorem grows_addEach (h : addEach e key value d xs = .ok d') : Grows d d' := by
  induction xs generalizing d with
  | nil =>
      cases h
      exact Grows.refl _
  | cons x xs ih =>
      obtain ⟨hnew, hrest⟩ := addEach_cons.mp h
      exact (grows_insert hnew).trans (ih hrest)

/-! ## Taking updates back -/

theorem setAll_perm {ys : List ι} (hkeys : (xs.map key).Nodup) (h : xs.Perm ys) :
    setAll key value d xs = setAll key value d ys := by
  have hkeys' : (ys.map key).Nodup := (h.map key).nodup_iff.mp hkeys
  refine Finmap.ext_lookup fun k => ?_
  by_cases hk : k ∈ xs.map key
  · obtain ⟨x, hx, rfl⟩ := List.mem_map.mp hk
    rw [lookup_setAll_of_mem hkeys hx, lookup_setAll_of_mem hkeys' (h.mem_iff.mp hx)]
  · have hk' : k ∉ ys.map key := fun hmem => hk ((h.map key).mem_iff.mpr hmem)
    rw [lookup_setAll_of_notMem hk, lookup_setAll_of_notMem hk']

theorem removeAll_perm {ys : List ι} (h : xs.Perm ys) : removeAll key d xs = removeAll key d ys := by
  refine Finmap.ext_lookup fun k => ?_
  have hmem := (h.map key).mem_iff (a := k)
  by_cases hk : k ∈ xs.map key
  · rw [lookup_removeAll_of_mem hk, lookup_removeAll_of_mem (hmem.mp hk)]
  · rw [lookup_removeAll_of_notMem hk, lookup_removeAll_of_notMem fun hk' => hk (hmem.mpr hk')]

/-- Setting the old values over the new ones gives the dictionary before the change. -/
theorem setAll_back (hkeys : (xs.map key).Nodup)
    (hold : ∀ x ∈ xs, d.lookup (key x) = some (old x)) :
    setAll key old (setAll key new d xs) xs = d := by
  refine Finmap.ext_lookup fun k => ?_
  by_cases hk : k ∈ xs.map key
  · obtain ⟨x, hx, rfl⟩ := List.mem_map.mp hk
    rw [lookup_setAll_of_mem hkeys hx, hold x hx]
  · rw [lookup_setAll_of_notMem hk, lookup_setAll_of_notMem hk]

/-- Removing new entries gives the dictionary before they were added. -/
theorem removeAll_back (hnew : ∀ x ∈ xs, d.lookup (key x) = none) :
    removeAll key (setAll key value d xs) xs = d := by
  refine Finmap.ext_lookup fun k => ?_
  by_cases hk : k ∈ xs.map key
  · obtain ⟨x, hx, rfl⟩ := List.mem_map.mp hk
    rw [lookup_removeAll_of_mem hk, hnew x hx]
  · rw [lookup_removeAll_of_notMem hk, lookup_setAll_of_notMem hk]

/-- Removals and changes of other keys commute. -/
theorem removeAll_setAll {κ : Type} {other : κ → String} {ys : List κ}
    (h : ∀ k ∈ ys.map other, k ∉ xs.map key) (hkeys : (xs.map key).Nodup) :
    removeAll other (setAll key value d xs) ys = setAll key value (removeAll other d ys) xs := by
  refine Finmap.ext_lookup fun k => ?_
  by_cases hk : k ∈ ys.map other
  · rw [lookup_removeAll_of_mem hk, lookup_setAll_of_notMem (h k hk), lookup_removeAll_of_mem hk]
  · rw [lookup_removeAll_of_notMem hk]
    by_cases hx : k ∈ xs.map key
    · obtain ⟨x, hmem, rfl⟩ := List.mem_map.mp hx
      rw [lookup_setAll_of_mem hkeys hmem, lookup_setAll_of_mem hkeys hmem]
    · rw [lookup_setAll_of_notMem hx, lookup_setAll_of_notMem hx, lookup_removeAll_of_notMem hk]

end Dictionary

end AutocadMcp
