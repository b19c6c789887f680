import AutocadMcp.Lib.JsonText
import Mathlib.Data.List.Sort

/-!
# The order of members

`sortKeys` puts the members of every object in the order of their keys. A document in
one order is left alone by another exactly when the two orders agree on the keys of
each object.
-/

namespace AutocadMcp.JsonText

section

variable (le : List Char → List Char → Bool)

def sortByKey (ms : List (List Char × Doc)) : List (List Char × Doc) :=
  ms.insertionSort fun a b => le a.1 b.1 = true

mutual

def sortKeys : Doc → Doc
  | .array xs => .array (sortItems xs)
  | .object ms => .object (sortByKey le (sortMembers ms))
  | d => d

def sortItems : List Doc → List Doc
  | [] => []
  | x :: xs => sortKeys x :: sortItems xs

def sortMembers : List (List Char × Doc) → List (List Char × Doc)
  | [] => []
  | (key, d) :: ms => (key, sortKeys d) :: sortMembers ms

end

/-- A total order on keys. -/
structure KeyOrder : Prop where
  total : ∀ a b, (le a b || le b a) = true
  trans : ∀ a b c, le a b = true → le b c = true → le a c = true
  antisymm : ∀ a b, le a b = true → le b a = true → a = b

end

section

variable {le le' : List Char → List Char → Bool}

theorem sortMembers_eq_map (ms : List (List Char × Doc)) :
    sortMembers le ms = ms.map fun m => (m.1, sortKeys le m.2) := by
  induction ms with
  | nil => rfl
  | cons m ms ih =>
      obtain ⟨key, d⟩ := m
      rw [sortMembers, ih, List.map_cons]

theorem sortItems_eq_map (xs : List Doc) : sortItems le xs = xs.map (sortKeys le) := by
  induction xs with
  | nil => rfl
  | cons x xs ih => rw [sortItems, ih, List.map_cons]

theorem sortByKey_perm (ms : List (List Char × Doc)) : (sortByKey le ms).Perm ms :=
  List.perm_insertionSort _ ms

theorem sortByKey_sorted (hle : KeyOrder le) (ms : List (List Char × Doc)) :
    (sortByKey le ms).Pairwise fun a b => le a.1 b.1 = true := by
  have htotal : Std.Total fun a b : List Char × Doc => le a.1 b.1 = true :=
    ⟨fun a b => by simpa using hle.total a.1 b.1⟩
  have htrans : IsTrans (List Char × Doc) fun a b => le a.1 b.1 = true :=
    ⟨fun a b c => hle.trans a.1 b.1 c.1⟩
  exact List.pairwise_insertionSort _ ms

theorem sortByKey_of_sorted {ms : List (List Char × Doc)}
    (h : ms.Pairwise fun a b => le a.1 b.1 = true) : sortByKey le ms = ms :=
  List.Pairwise.insertionSort_eq h

/-- The orders are the same on the keys of one object. -/
def SameOrder (le le' : List Char → List Char → Bool) (ms : List (List Char × Doc)) : Prop :=
  ∀ a ∈ ms, ∀ b ∈ ms, le a.1 b.1 = le' a.1 b.1

instance (ms : List (List Char × Doc)) : Decidable (SameOrder le le' ms) :=
  inferInstanceAs (Decidable (∀ a ∈ ms, ∀ b ∈ ms, le a.1 b.1 = le' a.1 b.1))

/-- Sorted members stay where they are exactly when the orders agree on them. -/
theorem sortByKey_fixed_iff (hle : KeyOrder le) (hle' : KeyOrder le')
    {ms : List (List Char × Doc)} (hsorted : ms.Pairwise fun a b => le a.1 b.1 = true) :
    (sortByKey le' ms = ms) ↔ SameOrder le le' ms := by
  constructor
  · intro hfixed
    have hsorted' := sortByKey_sorted hle' ms
    rw [hfixed] at hsorted'
    have hboth := hsorted.and hsorted'
    intro a ha b hb
    -- of two members, the first is the smaller one in both orders
    have hpair : (le a.1 b.1 = true ∧ le' a.1 b.1 = true) ∨
        (le b.1 a.1 = true ∧ le' b.1 a.1 = true) := by
      by_cases hab : a = b
      · subst hab
        have hself : ∀ {o : List Char → List Char → Bool}, KeyOrder o → o a.1 a.1 = true :=
          fun ho => by simpa using ho.total a.1 a.1
        exact Or.inl ⟨hself hle, hself hle'⟩
      · have hsymm : Std.Symm fun a b : List Char × Doc =>
            (le a.1 b.1 = true ∧ le' a.1 b.1 = true) ∨ (le b.1 a.1 = true ∧ le' b.1 a.1 = true) :=
          ⟨fun _ _ h => h.symm⟩
        have hpairs : ms.Pairwise fun a b : List Char × Doc =>
            (le a.1 b.1 = true ∧ le' a.1 b.1 = true) ∨ (le b.1 a.1 = true ∧ le' b.1 a.1 = true) :=
          hboth.imp Or.inl
        exact hpairs.forall ha hb hab
    rcases hpair with ⟨h, h'⟩ | ⟨h, h'⟩
    · rw [h, h']
    · cases hleft : le a.1 b.1 <;> cases hright : le' a.1 b.1
      · rfl
      · have heq := hle'.antisymm _ _ hright h'
        rw [heq] at hleft h
        exact absurd h (by rw [hleft]; decide)
      · have heq := hle.antisymm _ _ hleft h
        rw [heq] at hright h'
        exact absurd h' (by rw [hright]; decide)
      · rfl
  · intro hsame
    refine sortByKey_of_sorted (hsorted.imp_of_mem fun {a b} ha hb h => ?_)
    rw [← hsame a ha b hb]
    exact h

mutual

/-- The orders are the same on the keys of every object. -/
def Doc.ordersAgree (le le' : List Char → List Char → Bool) : Doc → Prop
  | .array xs => itemsAgree le le' xs
  | .object ms => SameOrder le le' ms ∧ membersAgree le le' ms
  | _ => True

def itemsAgree (le le' : List Char → List Char → Bool) : List Doc → Prop
  | [] => True
  | x :: xs => x.ordersAgree le le' ∧ itemsAgree le le' xs

def membersAgree (le le' : List Char → List Char → Bool) : List (List Char × Doc) → Prop
  | [] => True
  | (_, d) :: ms => d.ordersAgree le le' ∧ membersAgree le le' ms

end

theorem itemsAgree_iff {xs : List Doc} :
    itemsAgree le le' xs ↔ ∀ x ∈ xs, x.ordersAgree le le' := by
  induction xs with
  | nil => simp [itemsAgree]
  | cons x xs ih => simp [itemsAgree, ih]

theorem membersAgree_iff {ms : List (List Char × Doc)} :
    membersAgree le le' ms ↔ ∀ m ∈ ms, m.2.ordersAgree le le' := by
  induction ms with
  | nil => simp [membersAgree]
  | cons m ms ih =>
      obtain ⟨key, d⟩ := m
      simp [membersAgree, ih]

theorem sameOrder_of_keys {ms ms' : List (List Char × Doc)}
    (h : ∀ k, k ∈ ms.map Prod.fst ↔ k ∈ ms'.map Prod.fst) :
    SameOrder le le' ms ↔ SameOrder le le' ms' := by
  have hkeys : ∀ ms : List (List Char × Doc), SameOrder le le' ms ↔
      ∀ k ∈ ms.map Prod.fst, ∀ l ∈ ms.map Prod.fst, le k l = le' k l := by
    intro ms
    simp only [SameOrder, List.forall_mem_map]
  rw [hkeys, hkeys]
  constructor <;> intro hsame k hk l hl
  · exact hsame k ((h k).mpr hk) l ((h l).mpr hl)
  · exact hsame k ((h k).mp hk) l ((h l).mp hl)

theorem mem_sorted_keys {ms : List (List Char × Doc)} {key : List Char} :
    key ∈ (sortByKey le (sortMembers le ms)).map Prod.fst ↔ key ∈ ms.map Prod.fst := by
  rw [((sortByKey_perm _).map Prod.fst).mem_iff, sortMembers_eq_map, List.map_map]
  rfl

/-- Sorting the values of the members leaves their order as it is. -/
theorem sortMembers_sorted {ms : List (List Char × Doc)}
    (h : ms.Pairwise fun a b => le' a.1 b.1 = true) :
    (sortMembers le' ms).Pairwise fun a b => le' a.1 b.1 = true := by
  rw [sortMembers_eq_map, List.pairwise_map]
  exact h

theorem sortMembers_fixed_iff {ms : List (List Char × Doc)} :
    sortMembers le' ms = ms ↔ ∀ m ∈ ms, sortKeys le' m.2 = m.2 := by
  have hid : sortMembers le' ms = ms ↔
      ms.map (fun m => (m.1, sortKeys le' m.2)) = ms.map id := by
    rw [List.map_id, sortMembers_eq_map]
  rw [hid, List.map_inj_left]
  constructor
  · intro h m hm
    exact congrArg Prod.snd (h m hm)
  · intro h m hm
    exact Prod.ext rfl (h m hm)

/-- The members of one object, once their values are sorted in the first order. -/
theorem object_fixed_iff (hle : KeyOrder le) (hle' : KeyOrder le')
    (ms : List (List Char × Doc)) :
    sortKeys le' (sortKeys le (.object ms)) = sortKeys le (.object ms) ↔
      SameOrder le le' ms ∧ ∀ m ∈ ms, sortKeys le' (sortKeys le m.2) = sortKeys le m.2 := by
  have hsorted := sortByKey_sorted hle (sortMembers le ms)
  have hmem : ∀ m, m ∈ sortByKey le (sortMembers le ms) ↔ m ∈ sortMembers le ms := fun m =>
    (sortByKey_perm _).mem_iff
  have hvalues : (∀ m ∈ sortByKey le (sortMembers le ms), sortKeys le' m.2 = m.2) ↔
      ∀ m ∈ ms, sortKeys le' (sortKeys le m.2) = sortKeys le m.2 := by
    simp only [hmem]
    rw [sortMembers_eq_map, List.forall_mem_map]
  have hkeys : SameOrder le le' (sortByKey le (sortMembers le ms)) ↔ SameOrder le le' ms :=
    sameOrder_of_keys fun _ => mem_sorted_keys
  rw [sortKeys, sortKeys, Doc.object.injEq, ← hvalues, ← hkeys, ← sortMembers_fixed_iff,
    ← sortByKey_fixed_iff hle hle' hsorted]
  constructor
  · intro h
    -- what the second order has sorted is sorted before its values are
    have hsorted' := sortByKey_sorted hle' (sortMembers le' (sortByKey le (sortMembers le ms)))
    rw [h] at hsorted'
    refine ⟨sortByKey_of_sorted hsorted', ?_⟩
    rwa [sortByKey_of_sorted (sortMembers_sorted hsorted')] at h
  · rintro ⟨horder, hfixed⟩
    rw [hfixed, horder]

mutual

/-- A document in the first order is left alone by the second exactly when they agree on it. -/
theorem sortKeys_fixed_iff (hle : KeyOrder le) (hle' : KeyOrder le') : ∀ d : Doc,
    sortKeys le' (sortKeys le d) = sortKeys le d ↔ d.ordersAgree le le'
  | .null | .bool _ | .number _ | .string _ => by simp [sortKeys, Doc.ordersAgree]
  | .array xs => by
      rw [sortKeys, sortKeys, Doc.array.injEq, Doc.ordersAgree]
      exact sortItems_fixed_iff hle hle' xs
  | .object ms => by
      rw [object_fixed_iff hle hle', Doc.ordersAgree]
      exact and_congr_right fun _ => values_fixed_iff hle hle' ms

theorem sortItems_fixed_iff (hle : KeyOrder le) (hle' : KeyOrder le') : ∀ xs : List Doc,
    sortItems le' (sortItems le xs) = sortItems le xs ↔ itemsAgree le le' xs
  | [] => by simp [sortItems, itemsAgree]
  | x :: xs => by
      rw [sortItems, sortItems, List.cons.injEq, itemsAgree]
      exact and_congr (sortKeys_fixed_iff hle hle' x) (sortItems_fixed_iff hle hle' xs)

theorem values_fixed_iff (hle : KeyOrder le) (hle' : KeyOrder le') :
    ∀ ms : List (List Char × Doc),
    (∀ m ∈ ms, sortKeys le' (sortKeys le m.2) = sortKeys le m.2) ↔ membersAgree le le' ms
  | [] => by simp [membersAgree]
  | (key, d) :: ms => by
      rw [List.forall_mem_cons, membersAgree]
      exact and_congr (sortKeys_fixed_iff hle hle' d) (values_fixed_iff hle hle' ms)

end

section

variable {α : Type} {strings numbers : List Char → List α}

theorem mem_collectMembers {ms : List (List Char × Doc)} {a : α} :
    a ∈ collectMembers strings numbers ms ↔
      ∃ m ∈ ms, a ∈ strings m.1 ∨ a ∈ m.2.collect strings numbers := by
  induction ms with
  | nil => simp [collectMembers]
  | cons m ms ih =>
      obtain ⟨key, d⟩ := m
      simp [collectMembers, ih, or_assoc]

mutual

/-- Sorting keeps what a document is made of. -/
theorem mem_collect_sortKeys : ∀ (d : Doc) (a : α),
    a ∈ (sortKeys le d).collect strings numbers ↔ a ∈ d.collect strings numbers
  | .null, _ | .bool _, _ | .number _, _ | .string _, _ => Iff.rfl
  | .array xs, a => mem_collect_sortItems xs a
  | .object ms, a => by
      have hperm : a ∈ collectMembers strings numbers (sortByKey le (sortMembers le ms)) ↔
          a ∈ collectMembers strings numbers (sortMembers le ms) := by
        simp only [mem_collectMembers, (sortByKey_perm _).mem_iff]
      rw [sortKeys, Doc.collect, Doc.collect, hperm]
      exact mem_collect_sortMembers ms a

theorem mem_collect_sortItems : ∀ (xs : List Doc) (a : α),
    a ∈ collectItems strings numbers (sortItems le xs) ↔ a ∈ collectItems strings numbers xs
  | [], _ => Iff.rfl
  | x :: xs, a => by
      rw [sortItems, collectItems, collectItems, List.mem_append, List.mem_append,
        mem_collect_sortKeys x a, mem_collect_sortItems xs a]

theorem mem_collect_sortMembers : ∀ (ms : List (List Char × Doc)) (a : α),
    a ∈ collectMembers strings numbers (sortMembers le ms) ↔
      a ∈ collectMembers strings numbers ms
  | [], _ => Iff.rfl
  | (key, d) :: ms, a => by
      rw [sortMembers, collectMembers, collectMembers, List.mem_append, List.mem_append,
        List.mem_append, List.mem_append, mem_collect_sortKeys d a, mem_collect_sortMembers ms a]

end

end

theorem mem_sortKeys_chars {d : Doc} {c : Char} : c ∈ (sortKeys le d).chars ↔ c ∈ d.chars :=
  mem_collect_sortKeys d c

theorem mem_sortKeys_numbers {d : Doc} {raw : List Char} :
    raw ∈ (sortKeys le d).numbers ↔ raw ∈ d.numbers :=
  mem_collect_sortKeys d raw

theorem sortKeys_valid {d : Doc} (h : d.valid = true) : (sortKeys le d).valid = true := by
  rw [Doc.valid_iff] at h ⊢
  intro raw hraw
  exact h raw (mem_sortKeys_numbers.mp hraw)

end

end AutocadMcp.JsonText
