import Mathlib.Data.List.Sort
import Mathlib.Data.Finset.Basic
import Mathlib.Data.List.Perm.Lattice

/-!
# Grouping by a key

A dictionary of collections, filled one value after another: each value is added to the
collection under its key, which is empty at first. At the end the collection under a key
holds the values with that key, in the order they came. A plain dictionary keeps the last
value of each key.
-/

namespace AutocadMcp

section

variable {κ α γ : Type} [DecidableEq κ] {empty : γ} {put : γ → α → γ}

/-- Adds a value to the collection under a key. -/
def addTo (empty : γ) (put : γ → α → γ) (groups : List (κ × γ)) (k : κ) (x : α) : List (κ × γ) :=
  match groups with
  | [] => [(k, put empty x)]
  | group :: rest =>
      if group.1 = k then (k, put group.2 x) :: rest else group :: addTo empty put rest k x

def groupBy (empty : γ) (put : γ → α → γ) (key : α → κ) (xs : List α) : List (κ × γ) :=
  xs.foldl (fun groups x => addTo empty put groups (key x) x) []

/-- The collection under a key, empty where there is none. -/
def groupAt (empty : γ) (groups : List (κ × γ)) (k : κ) : γ :=
  match groups with
  | [] => empty
  | group :: rest => if group.1 = k then group.2 else groupAt empty rest k

variable {groups : List (κ × γ)} {k : κ} {x : α} {key : α → κ}

theorem groupAt_addTo (k' : κ) : groupAt empty (addTo empty put groups k x) k' =
    if k = k' then put (groupAt empty groups k') x else groupAt empty groups k' := by
  induction groups with
  | nil =>
      by_cases h : k = k' <;> simp [addTo, groupAt, h]
  | cons group rest ih =>
      by_cases hk : group.1 = k
      · by_cases h : k = k'
        · simp [addTo, groupAt, hk, h]
        · simp [addTo, groupAt, hk, h]
      · by_cases h : group.1 = k'
        · have hne : k ≠ k' := fun hk' => hk (h.trans hk'.symm)
          simp only [addTo, groupAt, if_neg hk, if_pos h, if_neg hne]
        · simp only [addTo, groupAt, if_neg hk, if_neg h, ih]

theorem mem_keys_addTo {k' : κ} : k' ∈ (addTo empty put groups k x).map Prod.fst ↔
    k' ∈ groups.map Prod.fst ∨ k' = k := by
  induction groups with
  | nil => simp [addTo]
  | cons group rest ih =>
      by_cases hk : group.1 = k
      · rw [addTo, if_pos hk, List.map_cons, List.map_cons, hk, or_iff_left_of_imp]
        rintro rfl
        exact List.mem_cons_self
      · rw [addTo, if_neg hk, List.map_cons, List.map_cons, List.mem_cons, List.mem_cons, ih,
          or_assoc]

theorem nodup_keys_addTo (h : (groups.map Prod.fst).Nodup) :
    ((addTo empty put groups k x).map Prod.fst).Nodup := by
  induction groups with
  | nil => simp [addTo]
  | cons group rest ih =>
      rw [List.map_cons, List.nodup_cons] at h
      by_cases hk : group.1 = k
      · rw [addTo, if_pos hk, List.map_cons, List.nodup_cons, ← hk]
        exact h
      · rw [addTo, if_neg hk, List.map_cons, List.nodup_cons, mem_keys_addTo, not_or]
        exact ⟨⟨h.1, hk⟩, ih h.2⟩

theorem groupBy_append (xs ys : List α) : groupBy empty put key (xs ++ ys) =
    ys.foldl (fun groups x => addTo empty put groups (key x) x) (groupBy empty put key xs) :=
  List.foldl_append ..

/-- The collection under a key holds the values with that key. -/
theorem groupAt_groupBy (xs : List α) (k : κ) :
    groupAt empty (groupBy empty put key xs) k = (xs.filter (key · = k)).foldl put empty := by
  induction xs using List.reverseRecOn with
  | nil => rfl
  | append_singleton xs x ih =>
      rw [groupBy_append, List.foldl_cons, List.foldl_nil, groupAt_addTo, ih, List.filter_append]
      by_cases h : key x = k <;> simp [h]

theorem mem_keys_groupBy (xs : List α) (k : κ) :
    k ∈ (groupBy empty put key xs).map Prod.fst ↔ ∃ x ∈ xs, key x = k := by
  induction xs using List.reverseRecOn with
  | nil => simp [groupBy]
  | append_singleton xs x ih =>
      rw [groupBy_append, List.foldl_cons, List.foldl_nil, mem_keys_addTo, ih]
      constructor
      · rintro (⟨y, hy, hkey⟩ | rfl)
        · exact ⟨y, List.mem_append_left _ hy, hkey⟩
        · exact ⟨x, by simp, rfl⟩
      · rintro ⟨y, hy, hkey⟩
        rw [List.mem_append, List.mem_singleton] at hy
        rcases hy with hy | rfl
        · exact Or.inl ⟨y, hy, hkey⟩
        · exact Or.inr hkey.symm

theorem nodup_keys_groupBy (xs : List α) : ((groupBy empty put key xs).map Prod.fst).Nodup := by
  induction xs using List.reverseRecOn with
  | nil => exact List.nodup_nil
  | append_singleton xs x ih =>
      rw [groupBy_append, List.foldl_cons, List.foldl_nil]
      exact nodup_keys_addTo ih

theorem mem_iff_groupAt (h : (groups.map Prod.fst).Nodup) {k : κ} {c : γ} :
    (k, c) ∈ groups ↔ k ∈ groups.map Prod.fst ∧ groupAt empty groups k = c := by
  induction groups with
  | nil => simp
  | cons group rest ih =>
      rw [List.map_cons, List.nodup_cons] at h
      by_cases hk : group.1 = k
      · subst hk
        have hrest : ∀ c, (group.1, c) ∉ rest := fun c hc => h.1 (List.mem_map.mpr ⟨_, hc, rfl⟩)
        simp only [groupAt, if_true, List.mem_cons, List.map_cons, true_or, true_and, hrest,
          or_false]
        constructor
        · intro heq
          rw [← heq]
        · rintro rfl
          rfl
      · have hne : (k, c) ≠ group := fun h => hk (h ▸ rfl)
        simp only [groupAt, if_neg hk, List.mem_cons, hne, false_or, List.map_cons, ih h.2,
          Ne.symm hk]

/-- The groups are the nonempty collections of the values with one key. -/
theorem mem_groupBy {xs : List α} {k : κ} {c : γ} : (k, c) ∈ groupBy empty put key xs ↔
    (∃ x ∈ xs, key x = k) ∧ (xs.filter (key · = k)).foldl put empty = c := by
  rw [mem_iff_groupAt (nodup_keys_groupBy xs), mem_keys_groupBy, groupAt_groupBy]

end

/-! ## Buckets -/

theorem foldl_snoc {α : Type} (acc xs : List α) :
    xs.foldl (fun seen x => seen ++ [x]) acc = acc ++ xs := by
  induction xs generalizing acc with
  | nil => simp
  | cons x xs ih => simp [ih]

/-- A loop over the contents of every bucket is one over all of them. -/
theorem foldlM_flatMap {α β σ ε : Type} (f : σ → β → Except ε σ) (g : α → List β) (xs : List α)
    (state : σ) : xs.foldlM (fun state x => (g x).foldlM f state) state =
      (xs.flatMap g).foldlM f state := by
  induction xs generalizing state with
  | nil => rfl
  | cons x xs ih =>
      rw [List.foldlM_cons, List.flatMap_cons, List.foldlM_append]
      exact bind_congr ih

/-- The contents of the buckets of distinct cells are the records in those cells. -/
theorem flatMap_buckets_perm {α κ : Type} [DecidableEq κ] {key : α → κ} {cells : List κ}
    (hcells : cells.Nodup) (xs : List α) :
    (cells.flatMap fun cell => xs.filter (key · = cell)).Perm (xs.filter (key · ∈ cells)) := by
  induction cells with
  | nil => simp
  | cons cell cells ih =>
      rw [List.nodup_cons] at hcells
      rw [List.flatMap_cons]
      refine ((ih hcells.2).append_left _).trans ?_
      have hsplit := List.filter_append_perm (fun x => decide (key x = cell))
        (xs.filter (key · ∈ cell :: cells))
      rw [List.filter_filter, List.filter_filter] at hsplit
      refine List.Perm.trans (List.Perm.of_eq ?_) hsplit
      congr 1
      · refine List.filter_congr fun x _ => ?_
        by_cases hx : key x = cell <;> simp [hx]
      · refine List.filter_congr fun x _ => ?_
        by_cases hx : key x = cell
        · simp [hx, hcells.1]
        · simp [hx]

/-- The members of the groups that are picked are the values whose own group is. -/
theorem flatMap_groups_perm {α κ : Type} [DecidableEq κ] {key : α → κ} (xs : List α)
    (pick : List α → Bool) :
    (((groupBy [] (fun group x => group ++ [x]) key xs).filter fun group => pick group.2).flatMap
        Prod.snd).Perm (xs.filter fun x => pick (xs.filter (key · = key x))) := by
  have hmem : ∀ k c, (k, c) ∈ groupBy [] (fun group x => group ++ [x]) key xs ↔
      (∃ x ∈ xs, key x = k) ∧ xs.filter (key · = k) = c := fun k c => by
    rw [mem_groupBy, foldl_snoc, List.nil_append]
  have hmembers : ((groupBy [] (fun group x => group ++ [x]) key xs).filter fun group =>
      pick group.2).flatMap Prod.snd =
        (((groupBy [] (fun group x => group ++ [x]) key xs).filter fun group =>
          pick group.2).map Prod.fst).flatMap fun k => xs.filter (key · = k) := by
    rw [List.flatMap_map]
    refine List.flatMap_congr fun group hgroup => ?_
    exact ((hmem group.1 group.2).mp (List.mem_filter.mp hgroup).1).2.symm
  have hcells : (((groupBy [] (fun group x => group ++ [x]) key xs).filter fun group =>
      pick group.2).map Prod.fst).Nodup :=
    (List.filter_sublist.map Prod.fst).nodup (nodup_keys_groupBy xs)
  rw [hmembers]
  refine (flatMap_buckets_perm hcells xs).trans (List.Perm.of_eq (List.filter_congr fun x hx => ?_))
  rw [Bool.eq_iff_iff, decide_eq_true_eq, List.mem_map]
  constructor
  · rintro ⟨⟨k, c⟩, hgroup, rfl⟩
    obtain ⟨hgroup, hpick⟩ := List.mem_filter.mp hgroup
    rwa [((hmem _ c).mp hgroup).2]
  · intro hpick
    exact ⟨(key x, xs.filter (key · = key x)),
      List.mem_filter.mpr ⟨(hmem _ _).mpr ⟨⟨x, hx, rfl⟩, rfl⟩, hpick⟩, rfl⟩

/-! ## Dictionaries -/

section

variable {κ α : Type} [DecidableEq κ]

def setItem (d : List (κ × α)) (k : κ) (x : α) : List (κ × α) :=
  match d with
  | [] => [(k, x)]
  | entry :: rest => if entry.1 = k then (k, x) :: rest else entry :: setItem rest k x

/-- The dictionary of a comprehension: a key keeps its first place and its last value. -/
def dictOf (entries : List (κ × α)) : List (κ × α) :=
  entries.foldl (fun d entry => setItem d entry.1 entry.2) []

def getItem (d : List (κ × α)) (k : κ) : Option α :=
  match d with
  | [] => none
  | entry :: rest => if entry.1 = k then some entry.2 else getItem rest k

variable {d : List (κ × α)} {k : κ} {x : α}

theorem setItem_of_notMem (h : k ∉ d.map Prod.fst) : setItem d k x = d ++ [(k, x)] := by
  induction d with
  | nil => rfl
  | cons entry rest ih =>
      rw [List.map_cons, List.mem_cons, not_or] at h
      rw [setItem, if_neg (Ne.symm h.1), ih h.2, List.cons_append]

theorem getItem_setItem (k' : κ) :
    getItem (setItem d k x) k' = if k = k' then some x else getItem d k' := by
  induction d with
  | nil => rfl
  | cons entry rest ih =>
      rw [setItem]
      by_cases hk : entry.1 = k
      · rw [if_pos hk, getItem, getItem, hk]
        by_cases hk' : k = k'
        · rw [if_pos hk', if_pos hk']
        · rw [if_neg hk', if_neg hk', if_neg hk']
      · rw [if_neg hk, getItem, getItem, ih]
        by_cases hk' : k = k'
        · rw [if_neg fun h => hk (h.trans hk'.symm), if_pos hk', if_pos hk']
        · rw [if_neg hk', if_neg hk']

theorem mem_setItem {entry : κ × α} (h : entry ∈ setItem d k x) : entry = (k, x) ∨ entry ∈ d := by
  induction d with
  | nil => exact Or.inl (List.mem_singleton.mp h)
  | cons first rest ih =>
      rw [setItem] at h
      by_cases hk : first.1 = k
      · rw [if_pos hk] at h
        rcases List.mem_cons.mp h with h | h
        · exact Or.inl h
        · exact Or.inr (List.mem_cons_of_mem _ h)
      · rw [if_neg hk] at h
        rcases List.mem_cons.mp h with rfl | h
        · exact Or.inr List.mem_cons_self
        · exact (ih h).imp_right (List.mem_cons_of_mem _)

theorem mem_keys_setItem {k' : κ} :
    k' ∈ (setItem d k x).map Prod.fst ↔ k' ∈ d.map Prod.fst ∨ k' = k := by
  induction d with
  | nil => simp [setItem]
  | cons first rest ih =>
      rw [setItem]
      by_cases hk : first.1 = k
      · subst hk
        rw [if_pos rfl, List.map_cons, List.map_cons, List.mem_cons]
        tauto
      · rw [if_neg hk, List.map_cons, List.map_cons, List.mem_cons, List.mem_cons, ih, or_assoc]

/-- A dictionary holds entries that it was made from. -/
theorem mem_of_mem_dictOf {entries : List (κ × α)} {entry : κ × α} (h : entry ∈ dictOf entries) :
    entry ∈ entries := by
  induction entries using List.reverseRecOn with
  | nil => exact h
  | append_singleton entries last ih =>
      rw [dictOf, List.foldl_append, List.foldl_cons, List.foldl_nil] at h
      rcases mem_setItem h with rfl | h
      · exact List.mem_append_right _ (List.mem_singleton_self _)
      · exact List.mem_append_left _ (ih h)

/-- And one for each of their keys. -/
theorem mem_keys_dictOf {entries : List (κ × α)} :
    k ∈ (dictOf entries).map Prod.fst ↔ k ∈ entries.map Prod.fst := by
  induction entries using List.reverseRecOn with
  | nil => rfl
  | append_singleton entries last ih =>
      rw [dictOf, List.foldl_append, List.foldl_cons, List.foldl_nil, mem_keys_setItem]
      change k ∈ (dictOf entries).map Prod.fst ∨ k = last.1 ↔ _
      rw [ih, List.map_append, List.mem_append, List.map_singleton, List.mem_singleton]

/-- Entries with distinct keys are their own dictionary. -/
theorem dictOf_of_nodup {entries : List (κ × α)} (h : (entries.map Prod.fst).Nodup) :
    dictOf entries = entries := by
  induction entries using List.reverseRecOn with
  | nil => rfl
  | append_singleton entries entry ih =>
      rw [List.map_append, List.map_singleton, List.nodup_append] at h
      have hnew : entry.1 ∉ entries.map Prod.fst := fun hmem =>
        h.2.2 _ hmem _ (List.mem_singleton_self _) rfl
      have hold : entries.foldl (fun d entry => setItem d entry.1 entry.2) [] = entries := ih h.1
      rw [dictOf, List.foldl_append, hold, List.foldl_cons, List.foldl_nil,
        setItem_of_notMem hnew]

theorem getItem_eq_some (h : (d.map Prod.fst).Nodup) : getItem d k = some x ↔ (k, x) ∈ d := by
  induction d with
  | nil => simp [getItem]
  | cons entry rest ih =>
      rw [List.map_cons, List.nodup_cons] at h
      by_cases hk : entry.1 = k
      · subst hk
        have hrest : (entry.1, x) ∉ rest := fun hx => h.1 (List.mem_map.mpr ⟨_, hx, rfl⟩)
        rw [getItem, if_pos rfl, List.mem_cons, or_iff_left hrest, Option.some_inj, Prod.ext_iff]
        simp [eq_comm]
      · have hne : (k, x) ≠ entry := fun h => hk (h ▸ rfl)
        rw [getItem, if_neg hk, List.mem_cons, or_iff_right hne, ih h.2]

end

end AutocadMcp
