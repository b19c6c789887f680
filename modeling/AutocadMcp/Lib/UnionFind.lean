import Mathlib.Data.List.Sort
import Mathlib.Logic.Relation
import Mathlib.Order.MinMax

/-!
# Union-find with least roots

A forest keeps for each key a parent that is not above it, so every chain of parents
ends. Linking the greater of two roots below the lesser keeps it so, and the root of a
class is its least member whatever the order of the links. The two searches compress
the paths they walk, one by halving and one on its way back from the root, and hand out
a forest with the same roots.
-/

namespace AutocadMcp

/-- Parents over finitely many keys, none of them above its child. -/
structure Forest (ι : Type) [LinearOrder ι] where
  keys : List ι
  nodup : keys.Nodup
  parent : ι → ι
  parent_le : ∀ v, parent v ≤ v
  parent_mem : ∀ v ∈ keys, parent v ∈ keys
  parent_outside : ∀ v ∉ keys, parent v = v

namespace Forest

variable {ι : Type} [LinearOrder ι] {F G : Forest ι} {u v w : ι}

scoped instance lawfulBEq : LawfulBEq ι := inferInstance

/-! ## Roots -/

/-- The number of keys below a value. -/
def below (F : Forest ι) (v : ι) : ℕ := (F.keys.filter (· < v)).length

theorem below_lt (hkeys : G.keys = F.keys) (hw : w ∈ F.keys) (hlt : w < v) :
    G.below w < F.below v := by
  have hless : (F.keys.filter (· < v)).filter (· < w) = F.keys.filter (· < w) := by
    rw [List.filter_filter]
    refine List.filter_congr fun x _ => ?_
    by_cases hx : x < w
    · simp [hx, hx.trans hlt]
    · simp [hx]
  unfold below
  rw [hkeys, ← hless, List.length_filter_lt_length_iff_exists]
  exact ⟨w, by simp [hw, hlt], by simp⟩

theorem mem_of_parent_ne (h : F.parent v ≠ v) : v ∈ F.keys := by
  by_contra hout
  exact h (F.parent_outside v hout)

theorem parent_lt (h : F.parent v ≠ v) : F.parent v < v := lt_of_le_of_ne (F.parent_le v) h

theorem parent_mem_of_ne (h : F.parent v ≠ v) : F.parent v ∈ F.keys :=
  F.parent_mem v (mem_of_parent_ne h)

/-- The end of the chain of parents. -/
def root (F : Forest ι) (v : ι) : ι := if F.parent v = v then v else F.root (F.parent v)
termination_by F.below v
decreasing_by exact below_lt rfl (parent_mem_of_ne ‹_›) (parent_lt ‹_›)

theorem root_of_fixed (h : F.parent v = v) : F.root v = v := by
  rw [root, if_pos h]

@[simp] theorem root_parent (F : Forest ι) (v : ι) : F.root (F.parent v) = F.root v := by
  by_cases h : F.parent v = v
  · rw [h]
  · rw [root.eq_def F v, if_neg h]

@[simp] theorem parent_root (F : Forest ι) (v : ι) : F.parent (F.root v) = F.root v := by
  induction v using root.induct F with
  | case1 v h => rw [root_of_fixed h, h]
  | case2 v h ih => rwa [root_parent] at ih

@[simp] theorem root_root (F : Forest ι) (v : ι) : F.root (F.root v) = F.root v :=
  root_of_fixed (F.parent_root v)

theorem root_le (F : Forest ι) (v : ι) : F.root v ≤ v := by
  induction v using root.induct F with
  | case1 v h => rw [root_of_fixed h]
  | case2 v h ih =>
      rw [root_parent] at ih
      exact ih.trans (F.parent_le v)

theorem root_mem (h : v ∈ F.keys) : F.root v ∈ F.keys := by
  induction v using root.induct F with
  | case1 v hfixed => rwa [root_of_fixed hfixed]
  | case2 v hfixed ih =>
      rw [root_parent] at ih
      exact ih (F.parent_mem v h)

/-- Roots depend on the parents alone. -/
theorem root_congr (h : G.parent = F.parent) (v : ι) : G.root v = F.root v := by
  induction v using root.induct F with
  | case1 v hfixed => rw [root_of_fixed hfixed, root_of_fixed (by rw [h, hfixed])]
  | case2 v hfixed ih => rw [← root_parent, h, ih, root_parent]

/-! ## One parent changes -/

/-- `parent[v] = w` -/
def set (F : Forest ι) (v w : ι) (hle : w ≤ v) (hv : v ∈ F.keys) (hw : w ∈ F.keys) :
    Forest ι where
  keys := F.keys
  nodup := F.nodup
  parent := Function.update F.parent v w
  parent_le u := by
    by_cases hu : u = v
    · subst hu
      rwa [Function.update_self]
    · rw [Function.update_of_ne hu]
      exact F.parent_le u
  parent_mem u hmem := by
    by_cases hu : u = v
    · subst hu
      rwa [Function.update_self]
    · rw [Function.update_of_ne hu]
      exact F.parent_mem u hmem
  parent_outside u hout := by
    have hu : u ≠ v := fun h => hout (h ▸ hv)
    rw [Function.update_of_ne hu]
    exact F.parent_outside u hout

@[simp] theorem keys_set {hle : w ≤ v} {hv : v ∈ F.keys} {hw : w ∈ F.keys} :
    (F.set v w hle hv hw).keys = F.keys := rfl

@[simp] theorem parent_set_self {hle : w ≤ v} {hv : v ∈ F.keys} {hw : w ∈ F.keys} :
    (F.set v w hle hv hw).parent v = w := Function.update_self ..

theorem parent_set_of_ne {hle : w ≤ v} {hv : v ∈ F.keys} {hw : w ∈ F.keys} (hu : u ≠ v) :
    (F.set v w hle hv hw).parent u = F.parent u := Function.update_of_ne hu ..

/-- A parent with the same root changes no root, unless the key becomes a root by it. -/
theorem root_set {hle : w ≤ v} {hv : v ∈ F.keys} {hw : w ∈ F.keys} (hroot : F.root w = F.root v)
    (hself : w = v → F.parent v = v) (u : ι) : (F.set v w hle hv hw).root u = F.root u := by
  induction u using root.induct (F.set v w hle hv hw) with
  | case1 u hfixed =>
      rw [root_of_fixed hfixed]
      by_cases hu : u = v
      · subst hu
        rw [parent_set_self] at hfixed
        rw [root_of_fixed (hself hfixed)]
      · rw [parent_set_of_ne hu] at hfixed
        rw [root_of_fixed hfixed]
  | case2 u hfixed ih =>
      rw [← root_parent, ih]
      by_cases hu : u = v
      · subst hu
        rw [parent_set_self, hroot]
      · rw [parent_set_of_ne hu, root_parent]

/-- One root below another takes its class along. -/
theorem root_set_root {a b : ι} {hle : a ≤ b} {hb : b ∈ F.keys} {ha : a ∈ F.keys}
    (hroot : F.parent a = a) (hroot' : F.parent b = b) (u : ι) :
    (F.set b a hle hb ha).root u = if F.root u = b then a else F.root u := by
  have hlow : (F.set b a hle hb ha).parent a = a := by
    by_cases h : a = b
    · subst h
      exact parent_set_self
    · rw [parent_set_of_ne h, hroot]
  induction u using root.induct F with
  | case1 u hfixed =>
      rw [root_of_fixed hfixed]
      by_cases hu : u = b
      · subst hu
        rw [if_pos rfl, ← root_parent, parent_set_self, root_of_fixed hlow]
      · rw [if_neg hu, root_of_fixed ((parent_set_of_ne hu).trans hfixed)]
  | case2 u hfixed ih =>
      have hu : u ≠ b := fun h => hfixed (h ▸ hroot')
      rw [← root_parent, parent_set_of_ne hu, ih, root_parent]

/-! ## Searches -/

/-- What a search hands out: the root, and a forest in which nothing has another root. -/
structure Found (F : Forest ι) (v : ι) where
  forest : Forest ι
  root : ι
  root_eq : root = F.root v
  keys_eq : forest.keys = F.keys
  same : ∀ u, forest.root u = F.root u

theorem Found.root_mem (found : Found F v) (h : v ∈ F.keys) : found.root ∈ F.keys :=
  found.root_eq ▸ Forest.root_mem h

/-- Points a key at the parent of its parent. -/
def halve (F : Forest ι) (v : ι) (h : F.parent v ≠ v) : Forest ι :=
  F.set v (F.parent (F.parent v)) ((F.parent_le _).trans (F.parent_le v)) (mem_of_parent_ne h)
    (F.parent_mem _ (parent_mem_of_ne h))

theorem root_halve (h : F.parent v ≠ v) (u : ι) : (F.halve v h).root u = F.root u := by
  refine root_set ?_ (fun hself => ?_) u
  · rw [root_parent, root_parent]
  · have hle := F.parent_le (F.parent v)
    rw [hself] at hle
    exact le_antisymm (F.parent_le v) hle

/-- The search by path halving. -/
def find (F : Forest ι) (v : ι) : Found F v :=
  if h : F.parent v = v then ⟨F, v, (root_of_fixed h).symm, rfl, fun _ => rfl⟩
  else
    have hroot := root_halve h
    let found := (F.halve v h).find ((F.halve v h).parent v)
    ⟨found.forest, found.root, by rw [found.root_eq, root_parent, hroot], found.keys_eq,
      fun u => by rw [found.same, hroot]⟩
termination_by F.below v
decreasing_by
  unfold halve
  rw [parent_set_self]
  exact below_lt rfl (F.parent_mem _ (parent_mem_of_ne h))
    ((F.parent_le _).trans_lt (parent_lt h))

/-- Makes a value a key, its own parent, if it is none yet. -/
def touch (F : Forest ι) (v : ι) : Forest ι :=
  if h : v ∈ F.keys then F
  else
    { keys := F.keys ++ [v]
      nodup := by
        rw [List.nodup_append]
        exact ⟨F.nodup, List.nodup_singleton v, by simpa using fun a ha (hav : a = v) => h (hav ▸ ha)⟩
      parent := F.parent
      parent_le := F.parent_le
      parent_mem := by
        intro u hu
        rw [List.mem_append, List.mem_singleton] at hu ⊢
        rcases hu with hu | rfl
        · exact Or.inl (F.parent_mem u hu)
        · exact Or.inr (F.parent_outside u h)
      parent_outside := by
        intro u hu
        rw [List.mem_append, not_or] at hu
        exact F.parent_outside u hu.1 }

theorem touch_of_mem (h : v ∈ F.keys) : F.touch v = F := dif_pos h

@[simp] theorem parent_touch : (F.touch v).parent = F.parent := by
  unfold touch
  split <;> rfl

@[simp] theorem root_touch (u : ι) : (F.touch v).root u = F.root u := root_congr parent_touch u

theorem mem_touch : u ∈ (F.touch v).keys ↔ u ∈ F.keys ∨ u = v := by
  by_cases h : v ∈ F.keys
  · rw [touch_of_mem h, or_iff_left_of_imp]
    rintro rfl
    exact h
  · rw [touch, dif_neg h, List.mem_append, List.mem_singleton]

theorem mem_touch_self (F : Forest ι) (v : ι) : v ∈ (F.touch v).keys := mem_touch.mpr (Or.inr rfl)

/-- The recursive search, which adds the value if it is new and points every key on its path at
the root. -/
def findFull (F : Forest ι) (v : ι) : Found (F.touch v) v :=
  if h : (F.touch v).parent v = v then ⟨F.touch v, v, (root_of_fixed h).symm, rfl, fun _ => rfl⟩
  else
    have hmem : v ∈ (F.touch v).keys := F.mem_touch_self v
    have htouch : (F.touch v).touch ((F.touch v).parent v) = F.touch v :=
      touch_of_mem ((F.touch v).parent_mem v hmem)
    let found := (F.touch v).findFull ((F.touch v).parent v)
    have hroot : found.root = (F.touch v).root v := by rw [found.root_eq, htouch, root_parent]
    have hkeys : found.forest.keys = (F.touch v).keys := by rw [found.keys_eq, htouch]
    have hsame : ∀ u, found.forest.root u = (F.touch v).root u := fun u => by
      rw [found.same, htouch]
    ⟨found.forest.set v found.root (hroot ▸ (F.touch v).root_le v) (hkeys ▸ hmem)
        (hroot ▸ hkeys ▸ root_mem hmem),
      found.root, hroot, hkeys, fun u => by
        rw [root_set, hsame]
        · rw [hsame, hsame, hroot, root_root]
        · intro hself
          have hfixed := found.forest.parent_root v
          rwa [hsame, ← hroot, hself] at hfixed⟩
termination_by F.below v
decreasing_by
  rw [parent_touch] at h ⊢
  rw [touch_of_mem (mem_of_parent_ne h)]
  exact below_lt rfl (parent_mem_of_ne h) (parent_lt h)

/-! ## Links -/

/-- `if first != second: parent[max(first, second)] = min(first, second)` -/
def link (F : Forest ι) (first second : ι) (hfirst : first ∈ F.keys) (hsecond : second ∈ F.keys) :
    Forest ι :=
  if first = second then F
  else
    F.set (max first second) (min first second) min_le_max
      (by rcases max_choice first second with h | h <;> rwa [h])
      (by rcases min_choice first second with h | h <;> rwa [h])

@[simp] theorem keys_link {first second : ι} {hfirst : first ∈ F.keys} {hsecond : second ∈ F.keys} :
    (F.link first second hfirst hsecond).keys = F.keys := by
  unfold link
  split <;> rfl

theorem root_link {first second : ι} {hfirst : first ∈ F.keys} {hsecond : second ∈ F.keys}
    (hroot : F.parent first = first) (hroot' : F.parent second = second) (u : ι) :
    (F.link first second hfirst hsecond).root u =
      if F.root u = max first second then min first second else F.root u := by
  unfold link
  by_cases heq : first = second
  · subst heq
    rw [if_pos rfl, max_self, min_self]
    by_cases hu : F.root u = first
    · rw [if_pos hu, hu]
    · rw [if_neg hu]
  · rw [if_neg heq, root_set_root]
    · rcases min_choice first second with h | h <;> rwa [h]
    · rcases max_choice first second with h | h <;> rwa [h]

/-- The classes of a forest are those of the equivalence that a relation generates. -/
def Joins (F : Forest ι) (r : ι → ι → Prop) : Prop :=
  ∀ u v, F.root u = F.root v ↔ Relation.EqvGen r u v

theorem Joins.congr {r r' : ι → ι → Prop} (h : F.Joins r) (hiff : ∀ u v, r u v ↔ r' u v) :
    F.Joins r' := by
  have heq : r = r' := funext fun u => funext fun v => propext (hiff u v)
  exact heq ▸ h

theorem Joins.of_same {r : ι → ι → Prop} (h : F.Joins r) (hsame : ∀ u, G.root u = F.root u) :
    G.Joins r := fun u v => by rw [hsame, hsame, h]

/-- A link of two roots joins their classes and no others. -/
theorem Joins.link {r : ι → ι → Prop} (h : F.Joins r) {x y first second : ι}
    {hx : first ∈ F.keys} {hy : second ∈ F.keys} (hfirst : first = F.root x)
    (hsecond : second = F.root y) :
    (F.link first second hx hy).Joins fun u v => r u v ∨ u = x ∧ v = y := by
  subst hfirst hsecond
  have hiff : ∀ u v, (F.link (F.root x) (F.root y) hx hy).root u =
      (F.link (F.root x) (F.root y) hx hy).root v ↔ F.root u = F.root v ∨
        (F.root u = F.root x ∧ F.root v = F.root y) ∨
          (F.root u = F.root y ∧ F.root v = F.root x) := by
    intro u v
    rw [root_link (F.parent_root x) (F.parent_root y), root_link (F.parent_root x) (F.parent_root y)]
    rcases le_total (F.root x) (F.root y) with hle | hle
    · rw [max_eq_right hle, min_eq_left hle]
      grind
    · rw [max_eq_left hle, min_eq_right hle]
      grind
  intro u v
  rw [hiff]
  constructor
  · have hold : ∀ {a b}, F.root a = F.root b →
        Relation.EqvGen (fun u v => r u v ∨ u = x ∧ v = y) a b := fun hab =>
      ((h _ _).mp hab).mono fun _ _ => Or.inl
    have hnew : Relation.EqvGen (fun u v => r u v ∨ u = x ∧ v = y) x y :=
      .rel _ _ (Or.inr ⟨rfl, rfl⟩)
    rintro (heq | ⟨hu, hv⟩ | ⟨hu, hv⟩)
    · exact hold heq
    · exact ((hold hu).trans _ _ _ hnew).trans _ _ _ (hold hv.symm)
    · exact ((hold hu).trans _ _ _ (hnew.symm _ _)).trans _ _ _ (hold hv.symm)
  · intro heqv
    rw [← hiff]
    induction heqv with
    | rel u v huv =>
        rw [hiff]
        rcases huv with huv | ⟨rfl, rfl⟩
        · exact Or.inl ((h u v).mpr (.rel _ _ huv))
        · exact Or.inr (Or.inl ⟨rfl, rfl⟩)
    | refl u => rfl
    | symm u v _ ih => exact ih.symm
    | trans u v w _ _ ih ih' => exact ih.trans ih'

/-- The root of a class is its least member, so forests with the same classes have the same
roots. -/
theorem Joins.root_eq {r : ι → ι → Prop} (h : F.Joins r) (h' : G.Joins r) (v : ι) :
    F.root v = G.root v := by
  have hle : ∀ {F G : Forest ι}, F.Joins r → G.Joins r → F.root v ≤ G.root v := by
    intro F G h h'
    have hclass : F.root v = F.root (G.root v) :=
      (h _ _).mpr ((h' _ _).mp (G.root_root v).symm)
    exact hclass ▸ F.root_le (G.root v)
  exact le_antisymm (hle h h') (hle h' h)

end Forest

end AutocadMcp
