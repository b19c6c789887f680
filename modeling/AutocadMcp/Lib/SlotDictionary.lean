import AutocadMcp.Lib.Lookup
import Mathlib.Data.List.Perm.Basic

/-!
# A dictionary with slots

A hash table that keeps its entries in an array: a new entry takes the slot that was freed last,
or a new one behind all others, and the entries are enumerated in the order of their slots. As
long as nothing has been removed this is the order in which the keys were added.
-/

namespace AutocadMcp

/-- The slots with the stack of those that have been freed. -/
structure SlotDictionary (κ υ : Type) where
  slots : List (Option (κ × υ))
  freed : List ℕ
  keys_nodup : ((slots.filterMap id).map Prod.fst).Nodup
  freed_nodup : freed.Nodup
  freed_empty : ∀ i ∈ freed, slots[i]? = some none

namespace SlotDictionary

variable {κ υ : Type}

def empty : SlotDictionary κ υ where
  slots := []
  freed := []
  keys_nodup := List.nodup_nil
  freed_nodup := List.nodup_nil
  freed_empty := fun _ h => absurd h List.not_mem_nil

/-- The entries in the order of enumeration. -/
def entries (d : SlotDictionary κ υ) : List (κ × υ) := d.slots.filterMap id

def keys (d : SlotDictionary κ υ) : List κ := d.entries.map Prod.fst

def count (d : SlotDictionary κ υ) : ℕ := d.entries.length

section

variable [DecidableEq κ]

def lookup (d : SlotDictionary κ υ) (key : κ) : Option υ := d.entries.lookup key

/-- Whether a slot has the key. -/
def hasKey (key : κ) (slot : Option (κ × υ)) : Bool := slot.any fun entry => entry.1 = key

theorem hasKey_eq_true {key : κ} {slot : Option (κ × υ)} :
    hasKey key slot = true ↔ ∃ value, slot = some (key, value) := by
  cases slot with
  | none => simp [hasKey]
  | some entry =>
      obtain ⟨k, v⟩ := entry
      simp [hasKey, eq_comm]

theorem entries_clear (key : κ) (slots : List (Option (κ × υ))) :
    (slots.map fun slot => if hasKey key slot then none else slot).filterMap id =
      (slots.filterMap id).filter fun entry => entry.1 ≠ key := by
  induction slots with
  | nil => rfl
  | cons slot rest ih =>
      cases slot with
      | none => simpa [hasKey] using ih
      | some entry =>
          by_cases hentry : entry.1 = key
          · simpa [hasKey, hentry] using ih
          · simpa [hasKey, hentry] using ih

theorem entries_overwrite (key : κ) (value : υ) (slots : List (Option (κ × υ))) :
    (slots.map fun slot => if hasKey key slot then some (key, value) else slot).filterMap id =
      (slots.filterMap id).map fun entry => if entry.1 = key then (key, value) else entry := by
  induction slots with
  | nil => rfl
  | cons slot rest ih =>
      cases slot with
      | none => simpa [hasKey] using ih
      | some entry =>
          by_cases hentry : entry.1 = key
          · simpa [hasKey, hentry] using ih
          · simpa [hasKey, hentry] using ih

theorem map_overwrite_keys (key : κ) (value : υ) (entries : List (κ × υ)) :
    (entries.map fun entry => if entry.1 = key then (key, value) else entry).map Prod.fst =
      entries.map Prod.fst := by
  rw [List.map_map]
  refine List.map_congr_left fun entry _ => ?_
  by_cases hentry : entry.1 = key
  · simp [hentry]
  · simp [hentry]

omit [DecidableEq κ] in
theorem entries_fill {slots : List (Option (κ × υ))} {i : ℕ} (h : slots[i]? = some none)
    (entry : κ × υ) : ((slots.set i (some entry)).filterMap id).Perm
      (entry :: slots.filterMap id) := by
  induction slots generalizing i with
  | nil => simp at h
  | cons slot rest ih =>
      cases i with
      | zero =>
          obtain rfl : slot = none := by simpa using h
          exact List.Perm.refl _
      | succ i =>
          have hrest := ih (by simpa using h)
          cases slot with
          | none => simpa using hrest
          | some other =>
              rw [List.set_cons_succ]
              exact (hrest.cons other).trans (List.Perm.swap entry other _)

/-! ## Operations -/

/-- The slot of a key becomes free. -/
def remove (d : SlotDictionary κ υ) (key : κ) : SlotDictionary κ υ :=
  if h : d.slots.findIdx (hasKey key) < d.slots.length then
    { slots := d.slots.map fun slot => if hasKey key slot then none else slot
      freed := d.slots.findIdx (hasKey key) :: d.freed
      keys_nodup := by
        rw [entries_clear]
        exact d.keys_nodup.sublist (List.filter_sublist.map Prod.fst)
      freed_nodup := by
        refine List.nodup_cons.mpr ⟨fun hmem => ?_, d.freed_nodup⟩
        have hfound := List.findIdx_getElem (w := h)
        have hempty := d.freed_empty _ hmem
        rw [List.getElem?_eq_getElem h, Option.some.injEq] at hempty
        rw [hempty] at hfound
        cases hfound
      freed_empty := by
        refine List.forall_mem_cons.mpr ⟨?_, fun i hi => ?_⟩
        · have hfound := List.findIdx_getElem (w := h)
          rw [List.getElem?_map, List.getElem?_eq_getElem h, Option.map_some, if_pos hfound]
        · rw [List.getElem?_map, d.freed_empty i hi]
          rfl }
  else d

/-- Adds the entry, or overwrites the value of its key. -/
def insert (d : SlotDictionary κ υ) (key : κ) (value : υ) : SlotDictionary κ υ :=
  if h : key ∈ d.keys then
    { slots := d.slots.map fun slot => if hasKey key slot then some (key, value) else slot
      freed := d.freed
      keys_nodup := by
        rw [entries_overwrite, map_overwrite_keys]
        exact d.keys_nodup
      freed_nodup := d.freed_nodup
      freed_empty := fun i hi => by
        rw [List.getElem?_map, d.freed_empty i hi]
        rfl }
  else
    match hfreed : d.freed with
    | [] =>
        { slots := d.slots ++ [some (key, value)]
          freed := []
          keys_nodup := by
            rw [List.filterMap_append, List.map_append, List.nodup_append]
            refine ⟨d.keys_nodup, List.nodup_singleton _, fun k hk k' hk' heq => h ?_⟩
            have hkey : k' = key := List.mem_singleton.mp hk'
            rw [← hkey, ← heq]
            exact hk
          freed_nodup := List.nodup_nil
          freed_empty := fun _ hi => absurd hi List.not_mem_nil }
    | i :: rest =>
        { slots := d.slots.set i (some (key, value))
          freed := rest
          keys_nodup := by
            have hempty := d.freed_empty i (hfreed ▸ List.mem_cons_self)
            rw [((entries_fill hempty (key, value)).map Prod.fst).nodup_iff]
            exact List.nodup_cons.mpr ⟨h, d.keys_nodup⟩
          freed_nodup := (List.nodup_cons.mp (hfreed ▸ d.freed_nodup)).2
          freed_empty := fun j hj => by
            have hne : i ≠ j := fun heq =>
              (List.nodup_cons.mp (hfreed ▸ d.freed_nodup)).1 (heq ▸ hj)
            rw [List.getElem?_set_ne hne]
            exact d.freed_empty j (hfreed ▸ List.mem_cons_of_mem i hj) }

variable {d : SlotDictionary κ υ} {key key' : κ} {value : υ}

theorem entries_remove (d : SlotDictionary κ υ) (key : κ) :
    (d.remove key).entries = d.entries.filter fun entry => entry.1 ≠ key := by
  unfold remove
  split
  · exact entries_clear key d.slots
  · rename_i h
    refine (List.filter_eq_self.mpr fun entry hentry => ?_).symm
    rw [decide_eq_true_eq]
    intro hkey
    obtain ⟨slot, hslot, hsome⟩ := List.mem_filterMap.mp hentry
    rw [id] at hsome
    refine h (List.findIdx_lt_length_of_exists ⟨slot, hslot, ?_⟩)
    rw [hsome]
    exact decide_eq_true hkey

theorem entries_insert_of_mem (h : key ∈ d.keys) (value : υ) : (d.insert key value).entries =
    d.entries.map fun entry => if entry.1 = key then (key, value) else entry := by
  unfold insert
  rw [dif_pos h]
  exact entries_overwrite key value d.slots

theorem entries_insert_of_notMem (h : key ∉ d.keys) (value : υ) :
    ((d.insert key value).entries).Perm ((key, value) :: d.entries) := by
  unfold insert
  rw [dif_neg h]
  split
  · rename_i hfreed
    rw [entries, List.filterMap_append]
    exact List.perm_append_comm
  · rename_i i rest hfreed
    exact entries_fill (d.freed_empty i (hfreed ▸ List.mem_cons_self)) (key, value)

/-! ## Keys -/

omit [DecidableEq κ] in
theorem nodup_keys (d : SlotDictionary κ υ) : d.keys.Nodup := d.keys_nodup

theorem keys_remove (d : SlotDictionary κ υ) (key : κ) :
    (d.remove key).keys = d.keys.filter fun k => k ≠ key := by
  rw [keys, entries_remove, keys, List.filter_map]
  rfl

theorem keys_insert_of_mem (h : key ∈ d.keys) (value : υ) : (d.insert key value).keys = d.keys := by
  rw [keys, entries_insert_of_mem h, map_overwrite_keys]
  rfl

/-- Without a freed slot a new key comes last. -/
theorem keys_insert_of_freed_nil (hfreed : d.freed = []) (h : key ∉ d.keys) (value : υ) :
    (d.insert key value).keys = d.keys ++ [key] := by
  unfold insert
  rw [dif_neg h]
  split
  · rw [keys, entries, List.filterMap_append, List.map_append]
    rfl
  · rename_i i rest hcons
    rw [hfreed] at hcons
    cases hcons

theorem freed_insert (hfreed : d.freed = []) (key : κ) (value : υ) :
    (d.insert key value).freed = [] := by
  unfold insert
  split
  · exact hfreed
  · split
    · rfl
    · rename_i i rest hcons
      rw [hfreed] at hcons
      cases hcons

/-- Another key in the first slot that is taken. -/
theorem keys_refill {slots : List (Option (κ × υ))} {first : κ} {rest : List κ}
    (hslots : (slots.filterMap id).map Prod.fst = first :: rest) (hfirst : first ∉ rest)
    (entry : κ × υ) :
    (((slots.map fun slot => if hasKey first slot then none else slot).set
      (slots.findIdx (hasKey first)) (some entry)).filterMap id).map Prod.fst =
      entry.1 :: rest := by
  induction slots with
  | nil => simp at hslots
  | cons slot others ih =>
      cases slot with
      | none => simpa [List.findIdx_cons, hasKey] using ih (by simpa using hslots)
      | some old =>
          obtain ⟨rfl, hothers⟩ : old.1 = first ∧ (others.filterMap id).map Prod.fst = rest := by
            simpa using hslots
          have hhas : hasKey old.1 (some old) = true := decide_eq_true rfl
          -- the slot is the first one, and no other slot has its key
          have hrest : ((others.filterMap id).filter fun other => other.1 ≠ old.1) =
              others.filterMap id := by
            refine List.filter_eq_self.mpr fun other hother => decide_eq_true fun heq => hfirst ?_
            rw [← hothers, ← heq]
            exact List.mem_map_of_mem hother
          rw [List.findIdx_cons, hhas, List.map_cons, if_pos hhas]
          show (entry :: (others.map _).filterMap id).map Prod.fst = entry.1 :: rest
          rw [entries_clear, hrest, List.map_cons, hothers]

/-- A key that is added after the first one has been removed comes first. -/
theorem keys_remove_insert {first : κ} {rest : List κ} (hkeys : d.keys = first :: rest)
    (h : key ∉ rest) (value : υ) :
    ((d.remove first).insert key value).keys = key :: rest ∧
      ((d.remove first).insert key value).freed = d.freed := by
  have hfirst : first ∉ rest := (List.nodup_cons.mp (hkeys ▸ d.keys_nodup)).1
  have hnot : key ∉ (d.remove first).keys := by
    rw [keys_remove, hkeys, List.mem_filter, decide_eq_true_eq]
    rintro ⟨hmem, hne⟩
    exact (List.mem_cons.mp hmem).elim hne h
  have hfound : d.slots.findIdx (hasKey first) < d.slots.length := by
    have hmem : first ∈ d.keys := hkeys ▸ List.mem_cons_self
    obtain ⟨entry, hentry, rfl⟩ := List.mem_map.mp hmem
    obtain ⟨slot, hslot, hsome⟩ := List.mem_filterMap.mp hentry
    rw [id] at hsome
    refine List.findIdx_lt_length_of_exists ⟨slot, hslot, ?_⟩
    rw [hsome]
    exact decide_eq_true rfl
  have hslots : (d.remove first).slots =
      d.slots.map fun slot => if hasKey first slot then none else slot := by
    rw [remove, dif_pos hfound]
  have hfreed : (d.remove first).freed = d.slots.findIdx (hasKey first) :: d.freed := by
    rw [remove, dif_pos hfound]
  unfold insert
  rw [dif_neg hnot]
  split
  · rename_i hnil
    rw [hfreed] at hnil
    cases hnil
  · rename_i i others hcons
    rw [hfreed, List.cons.injEq] at hcons
    obtain ⟨rfl, rfl⟩ := hcons
    refine ⟨?_, rfl⟩
    show (((d.remove first).slots.set _ _).filterMap id).map Prod.fst = key :: rest
    rw [hslots]
    exact keys_refill hkeys hfirst (key, value)

theorem mem_keys_remove : key' ∈ (d.remove key).keys ↔ key' ∈ d.keys ∧ key' ≠ key := by
  rw [keys_remove, List.mem_filter, decide_eq_true_eq]

theorem mem_keys_insert : key' ∈ (d.insert key value).keys ↔ key' = key ∨ key' ∈ d.keys := by
  by_cases h : key ∈ d.keys
  · rw [keys, entries_insert_of_mem h, map_overwrite_keys]
    exact ⟨Or.inr, fun hor => hor.elim (fun heq => heq ▸ h) id⟩
  · rw [keys, ((entries_insert_of_notMem h value).map Prod.fst).mem_iff, List.map_cons,
      List.mem_cons]
    rfl

omit [DecidableEq κ] in
theorem count_eq_length_keys (d : SlotDictionary κ υ) : d.count = d.keys.length :=
  (List.length_map _).symm

theorem count_remove (h : key ∈ d.keys) : (d.remove key).count + 1 = d.count := by
  have hpos := List.length_pos_of_mem h
  have herase : (d.keys.filter fun k => k ≠ key) = d.keys.erase key := by
    refine ((List.Nodup.erase_eq_filter d.keys_nodup key).trans ?_).symm
    exact List.filter_congr fun k _ => by by_cases hk : k = key <;> simp [hk]
  rw [count_eq_length_keys, count_eq_length_keys, keys_remove, herase, List.length_erase_of_mem h]
  exact Nat.sub_add_cancel hpos

theorem count_insert (d : SlotDictionary κ υ) (key : κ) (value : υ) :
    (d.insert key value).count = if key ∈ d.keys then d.count else d.count + 1 := by
  split
  · rename_i h
    rw [count, entries_insert_of_mem h, List.length_map, count]
  · rename_i h
    exact (entries_insert_of_notMem h value).length_eq

/-! ## Lookup -/

theorem lookup_eq_some : d.lookup key = some value ↔ (key, value) ∈ d.entries :=
  lookup_eq_some_iff_mem d.keys_nodup

theorem lookup_eq_none : d.lookup key = none ↔ key ∉ d.keys := lookup_eq_none_iff_notMem

theorem lookup_remove (h : key' ≠ key) : (d.remove key).lookup key' = d.lookup key' := by
  refine Option.ext fun value => ?_
  rw [lookup_eq_some, lookup_eq_some, entries_remove, List.mem_filter]
  simp [h]

theorem lookup_insert_self : (d.insert key value).lookup key = some value := by
  rw [lookup_eq_some]
  by_cases h : key ∈ d.keys
  · rw [entries_insert_of_mem h]
    obtain ⟨entry, hentry, hkey⟩ := List.mem_map.mp h
    exact List.mem_map.mpr ⟨entry, hentry, if_pos hkey⟩
  · exact (entries_insert_of_notMem h value).mem_iff.mpr List.mem_cons_self

theorem lookup_insert_of_ne (h : key' ≠ key) : (d.insert key value).lookup key' = d.lookup key' := by
  refine Option.ext fun other => ?_
  rw [lookup_eq_some, lookup_eq_some]
  by_cases hkey : key ∈ d.keys
  · rw [entries_insert_of_mem hkey, List.mem_map]
    constructor
    · rintro ⟨entry, hentry, heq⟩
      split at heq
      · cases heq
        exact absurd rfl h
      · rwa [← heq]
    · intro hmem
      exact ⟨(key', other), hmem, if_neg h⟩
  · rw [(entries_insert_of_notMem hkey value).mem_iff, List.mem_cons]
    simp [h]

end

end SlotDictionary

end AutocadMcp
