import Mathlib.Data.Finset.Sort
import Mathlib.Logic.Relation

/-!
# Depth-first search with a stack

The search pops a vertex, passes over one that it has seen, and pushes the unseen
successors of one that it has not. What it has seen at the end is what can be reached.
Searches from the least vertex left over, one after another, split a symmetric graph
into the classes of its reachability.
-/

namespace AutocadMcp

/-- Finitely many vertices, each with successors among them. -/
structure Successors (ι : Type) where
  vertices : Finset ι
  next : ι → Finset ι
  next_subset : ∀ v ∈ vertices, next v ⊆ vertices

namespace Successors

variable {ι : Type} [LinearOrder ι] {G : Successors ι}

/-- The order in which successors are pushed. -/
instance pushed_isTrans : IsTrans ι fun x y => x ≤ y := ⟨fun _ _ _ => le_trans⟩

instance pushed_antisymm : Std.Antisymm fun x y : ι => x ≤ y := ⟨fun _ _ => le_antisymm⟩

def Reaches (G : Successors ι) : ι → ι → Prop := Relation.ReflTransGen fun u v => v ∈ G.next u

/-- The stack has its top at the head. -/
def search (G : Successors ι) (stack : List ι) (hstack : ∀ v ∈ stack, v ∈ G.vertices)
    (members : Finset ι) : Finset ι :=
  match stack with
  | [] => members
  | current :: rest =>
      if current ∈ members then
        G.search rest (fun v hv => hstack v (List.mem_cons_of_mem _ hv)) members
      else
        G.search ((G.next current \ insert current members).sort (· ≤ ·) ++ rest)
          (by
            intro v hv
            rw [List.mem_append, Finset.mem_sort, Finset.mem_sdiff] at hv
            rcases hv with hv | hv
            · exact G.next_subset _ (hstack _ List.mem_cons_self) hv.1
            · exact hstack v (List.mem_cons_of_mem _ hv))
          (insert current members)
termination_by ((G.vertices \ members).card, stack.length)
decreasing_by
  · exact Prod.Lex.right _ (by simp)
  · refine Prod.Lex.left _ _ (Finset.card_lt_card ?_)
    rw [Finset.ssubset_iff_of_subset
      (Finset.sdiff_subset_sdiff subset_rfl (Finset.subset_insert _ _))]
    exact ⟨current, by simp [hstack current, *], by simp⟩

theorem subset_search {stack : List ι} {hstack : ∀ v ∈ stack, v ∈ G.vertices}
    {members : Finset ι} : members ⊆ G.search stack hstack members ∧
      ∀ v ∈ stack, v ∈ G.search stack hstack members := by
  induction stack, hstack, members using search.induct G with
  | case1 members hstack => simp [search]
  | case2 members current rest hstack hseen _ ih =>
      rw [search, if_pos hseen]
      refine ⟨ih.1, fun v hv => ?_⟩
      rcases List.mem_cons.mp hv with rfl | hv
      · exact ih.1 hseen
      · exact ih.2 v hv
  | case3 members current rest hstack hnew _ ih =>
      rw [search, if_neg hnew]
      refine ⟨(Finset.subset_insert _ _).trans ih.1, fun v hv => ?_⟩
      rcases List.mem_cons.mp hv with rfl | hv
      · exact ih.1 (Finset.mem_insert_self _ _)
      · exact ih.2 v (List.mem_append_right _ hv)

/-- What the search finds is reached from the stack. -/
theorem search_sound {stack : List ι} {hstack : ∀ v ∈ stack, v ∈ G.vertices}
    {members : Finset ι} {v : ι} (h : v ∈ G.search stack hstack members) :
    v ∈ members ∨ ∃ u ∈ stack, G.Reaches u v := by
  induction stack, hstack, members using search.induct G with
  | case1 members hstack =>
      rw [search] at h
      exact Or.inl h
  | case2 members current rest hstack hseen _ ih =>
      rw [search, if_pos hseen] at h
      rcases ih h with hold | ⟨u, hu, hreach⟩
      · exact Or.inl hold
      · exact Or.inr ⟨u, List.mem_cons_of_mem _ hu, hreach⟩
  | case3 members current rest hstack hnew _ ih =>
      rw [search, if_neg hnew] at h
      rcases ih h with hold | ⟨u, hu, hreach⟩
      · rcases Finset.mem_insert.mp hold with rfl | hold
        · exact Or.inr ⟨_, List.mem_cons_self, .refl⟩
        · exact Or.inl hold
      · rw [List.mem_append, Finset.mem_sort, Finset.mem_sdiff] at hu
        rcases hu with ⟨hnext, -⟩ | hu
        · exact Or.inr ⟨current, List.mem_cons_self, .head hnext hreach⟩
        · exact Or.inr ⟨u, List.mem_cons_of_mem _ hu, hreach⟩

/-- The successors of what has been seen are seen or on the stack, so at the end nothing leads
out. -/
theorem search_closed {stack : List ι} {hstack : ∀ v ∈ stack, v ∈ G.vertices}
    {members : Finset ι} (h : ∀ u ∈ members, ∀ v ∈ G.next u, v ∈ members ∨ v ∈ stack) :
    ∀ u ∈ G.search stack hstack members, ∀ v ∈ G.next u, v ∈ G.search stack hstack members := by
  induction stack, hstack, members using search.induct G with
  | case1 members hstack =>
      rw [search]
      simpa using h
  | case2 members current rest hstack hseen _ ih =>
      rw [search, if_pos hseen]
      refine ih fun u hu v hv => ?_
      rcases h u hu v hv with hmem | hmem
      · exact Or.inl hmem
      · rcases List.mem_cons.mp hmem with rfl | hrest
        · exact Or.inl hseen
        · exact Or.inr hrest
  | case3 members current rest hstack hnew _ ih =>
      rw [search, if_neg hnew]
      refine ih fun u hu v hv => ?_
      by_cases hmem : v ∈ insert current members
      · exact Or.inl hmem
      · refine Or.inr (List.mem_append.mpr ?_)
        rw [Finset.mem_sort, Finset.mem_sdiff]
        rcases Finset.mem_insert.mp hu with rfl | hu
        · exact Or.inl ⟨hv, hmem⟩
        · rw [Finset.mem_insert, not_or] at hmem
          rcases h u hu v hv with hold | hold
          · exact absurd hold hmem.2
          · exact Or.inr ((List.mem_cons.mp hold).resolve_left hmem.1)

/-- The search from one vertex finds what it reaches. -/
theorem mem_search {u : ι} {hstack : ∀ v ∈ [u], v ∈ G.vertices} {v : ι} :
    v ∈ G.search [u] hstack ∅ ↔ G.Reaches u v := by
  constructor
  · intro h
    rcases search_sound h with hold | ⟨w, hw, hreach⟩
    · exact absurd hold (Finset.notMem_empty v)
    · rwa [List.mem_singleton.mp hw] at hreach
  · intro h
    induction h with
    | refl => exact subset_search.2 u (List.mem_singleton_self u)
    | tail _ hstep ih => exact search_closed (by simp) _ ih _ hstep

/-! ## Components -/

/-- Searches from the least unseen vertex until none is left. -/
def components (G : Successors ι) (unseen : Finset ι) (h : unseen ⊆ G.vertices) :
    List (Finset ι) :=
  if hne : unseen.Nonempty then
    let members := G.search [unseen.min' hne]
      (fun _ hv => List.mem_singleton.mp hv ▸ h (unseen.min'_mem hne)) ∅
    members :: G.components (unseen \ members) (Finset.sdiff_subset.trans h)
  else []
termination_by unseen.card
decreasing_by
  refine Finset.card_lt_card ?_
  rw [Finset.ssubset_iff_of_subset Finset.sdiff_subset]
  refine ⟨unseen.min' hne, unseen.min'_mem hne, ?_⟩
  rw [Finset.mem_sdiff, not_and_not_right]
  exact fun _ => mem_search.mpr .refl

omit [LinearOrder ι] in
theorem reaches_symm (hsymm : ∀ u v, v ∈ G.next u → u ∈ G.next v) {u v : ι}
    (h : G.Reaches u v) : G.Reaches v u := by
  induction h with
  | refl => exact .refl
  | tail _ hstep ih => exact .head (hsymm _ _ hstep) ih

/-- The components are the classes of the unseen vertices. -/
theorem mem_components (hsymm : ∀ u v, v ∈ G.next u → u ∈ G.next v) {unseen : Finset ι}
    {h : unseen ⊆ G.vertices} (hclosed : ∀ u ∈ unseen, ∀ v, G.Reaches u v → v ∈ unseen)
    {c : Finset ι} : c ∈ G.components unseen h ↔ ∃ u ∈ unseen, ∀ v, v ∈ c ↔ G.Reaches u v := by
  induction unseen, h using components.induct G with
  | case1 unseen h hne members ih =>
      have hleast := unseen.min'_mem hne
      have hmembers : ∀ v, v ∈ members ↔ G.Reaches (unseen.min' hne) v := fun v => mem_search
      -- the rest is closed too, for what it reaches among the members reaches it
      have hrest : ∀ u ∈ unseen \ members, ∀ v, G.Reaches u v → v ∈ unseen \ members := by
        intro u hu v hreach
        rw [Finset.mem_sdiff] at hu ⊢
        refine ⟨hclosed u hu.1 v hreach, fun hv => hu.2 ?_⟩
        rw [hmembers] at hv ⊢
        exact hv.trans (reaches_symm hsymm hreach)
      rw [components, dif_pos hne, List.mem_cons, ih hrest]
      constructor
      · rintro (rfl | ⟨u, hu, hc⟩)
        · exact ⟨_, hleast, hmembers⟩
        · exact ⟨u, (Finset.mem_sdiff.mp hu).1, hc⟩
      · rintro ⟨u, hu, hc⟩
        by_cases hmem : u ∈ members
        · refine Or.inl (Finset.ext fun v => ?_)
          rw [hc, mem_search]
          rw [hmembers] at hmem
          exact ⟨fun hv => hmem.trans hv, fun hv => (reaches_symm hsymm hmem).trans hv⟩
        · exact Or.inr ⟨u, Finset.mem_sdiff.mpr ⟨hu, hmem⟩, hc⟩
  | case2 unseen h hempty =>
      rw [components, dif_neg hempty]
      rw [Finset.not_nonempty_iff_eq_empty] at hempty
      simp [hempty]

end Successors

end AutocadMcp
