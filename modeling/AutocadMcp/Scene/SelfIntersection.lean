import AutocadMcp.Lib.PlaneCrossing
import AutocadMcp.Scene.Issues

/-!
# Outlines that cross themselves are reported

Two edges cross when the ends of each are on two sides of the other. The detector asks for more:
the two cross products on each edge, the doubled areas of two triangles, have to multiply to more
than the square of a length. Areas shrink faster than lengths, so the crossing edges of a small
outline can be far from each other's ends and still be missed.
-/

namespace AutocadMcp.Scene

open Plane

section

variable {K : Type}

/-! ## The outline -/

/-- The edges of a closed polyline. -/
def PolylineGeometry.outline (g : PolylineGeometry K) : List (Segment K) :=
  polygonEdges (g.vertices.map (·.xy))

/-- Edges of an outline with `count` edges that share a corner. -/
def Adjacent (count i j : ℕ) : Prop := j = (i + 1) % count ∨ i = (j + 1) % count

/-- Two edges of the outline without a common corner. -/
def NonAdjacent (g : PolylineGeometry K) (e e' : Segment K) : Prop :=
  ∃ i j, i ≠ j ∧ g.outline[i]? = some e ∧ g.outline[j]? = some e' ∧
    ¬ Adjacent g.outline.length i j

theorem NonAdjacent.symm {g : PolylineGeometry K} {e e' : Segment K} (h : NonAdjacent g e e') :
    NonAdjacent g e' e := by
  obtain ⟨i, j, hne, hi, hj, hadjacent⟩ := h
  exact ⟨j, i, hne.symm, hj, hi, fun h => hadjacent h.symm⟩

theorem adjacent_iff {count i j : ℕ} (hlt : i < j) (hj : j < count) :
    Adjacent count i j ↔ j = i + 1 ∨ (i = 0 ∧ j = count - 1) := by
  have hi : (i + 1) % count = i + 1 := Nat.mod_eq_of_lt (by omega)
  rw [Adjacent, hi]
  by_cases hlast : j + 1 = count
  · rw [hlast, Nat.mod_self]
    omega
  · rw [Nat.mod_eq_of_lt (by omega)]
    omega

theorem mem_comparedWith {count i j : ℕ} (hi : i < count) :
    j ∈ comparedWith count i ↔ i < j ∧ j < count ∧ ¬ Adjacent count i j := by
  unfold comparedWith
  rw [List.mem_filter, List.mem_range'_1, decide_eq_true_eq]
  constructor
  · rintro ⟨⟨hlow, hhigh⟩, hskip⟩
    have hlt : i < j := hlow
    have hj : j < count := by omega
    exact ⟨hlt, hj, fun h => hskip ((adjacent_iff hlt hj).mp h)⟩
  · rintro ⟨hlt, hj, hadjacent⟩
    exact ⟨⟨hlt, by omega⟩, fun h => hadjacent ((adjacent_iff hlt hj).mpr h)⟩

/-- The loops come to each pair of edges without a common corner, once in one order. -/
theorem mem_comparedPairs {g : PolylineGeometry K} {e e' : Segment K} :
    NonAdjacent g e e' ↔
      (e, e') ∈ comparedPairs g.outline ∨ (e', e) ∈ comparedPairs g.outline := by
  have hordered : ∀ a b : Segment K, (a, b) ∈ comparedPairs g.outline ↔
      ∃ i j, i < j ∧ g.outline[i]? = some a ∧ g.outline[j]? = some b ∧
        ¬ Adjacent g.outline.length i j := by
    intro a b
    unfold comparedPairs
    simp only [List.mem_flatMap, List.mem_range, List.mem_filterMap, Option.bind_eq_some_iff,
      Option.map_eq_some_iff, Prod.mk.injEq]
    constructor
    · rintro ⟨i, hi, j, hj, first, hfirst, second, hsecond, rfl, rfl⟩
      obtain ⟨hlt, -, hadjacent⟩ := (mem_comparedWith hi).mp hj
      exact ⟨i, j, hlt, hfirst, hsecond, hadjacent⟩
    · rintro ⟨i, j, hlt, hfirst, hsecond, hadjacent⟩
      have hi : i < g.outline.length := (List.getElem?_eq_some_iff.mp hfirst).1
      have hj : j < g.outline.length := (List.getElem?_eq_some_iff.mp hsecond).1
      exact ⟨i, hi, j, (mem_comparedWith hi).mpr ⟨hlt, hj, hadjacent⟩, a, hfirst, b, hsecond,
        rfl, rfl⟩
  rw [hordered, hordered]
  constructor
  · rintro ⟨i, j, hne, hi, hj, hadjacent⟩
    rcases Nat.lt_or_gt_of_ne hne with hlt | hlt
    · exact Or.inl ⟨i, j, hlt, hi, hj, hadjacent⟩
    · exact Or.inr ⟨j, i, hlt, hj, hi, fun h => hadjacent h.symm⟩
  · rintro (⟨i, j, hlt, hi, hj, hadjacent⟩ | ⟨i, j, hlt, hi, hj, hadjacent⟩)
    · exact ⟨i, j, hlt.ne, hi, hj, hadjacent⟩
    · exact ⟨j, i, hlt.ne', hj, hi, fun h => hadjacent h.symm⟩

end

/-! ## Crossing edges -/

section

variable {K : Type} [Field K] [LinearOrder K]

/-- The edges cross in their interiors, and each end is farther than `t` from the line through
the other edge. -/
structure CrossesClearly (t : K) (e e' : Segment K) : Prop where
  inside : MeetInside e e'
  first_start : FarFrom t e' e.1
  first_stop : FarFrom t e' e.2
  second_start : FarFrom t e e'.1
  second_stop : FarFrom t e e'.2

/-- Twice the area of the triangle of a segment and a point. -/
def doubledArea (e : Segment K) (p : Point K) : K := |cross e.1 e.2 p|

/-- The edges cross in their interiors, and on each edge the doubled areas of the triangles with
the ends of the other multiply to more than the square of `t`. -/
structure CrossesWidely (t : K) (e e' : Segment K) : Prop where
  inside : MeetInside e e'
  first : t ^ 2 < doubledArea e e'.1 * doubledArea e e'.2
  second : t ^ 2 < doubledArea e' e.1 * doubledArea e' e.2

variable {t : K} {e e' : Segment K}

theorem CrossesWidely.symm (h : CrossesWidely t e e') : CrossesWidely t e' e :=
  ⟨h.inside.symm, h.second, h.first⟩

variable [IsStrictOrderedRing K]

theorem lt_area_mul_iff {p q : Point K} (h : cross e.1 e.2 p * cross e.1 e.2 q < 0) :
    t ^ 2 < doubledArea e p * doubledArea e q ↔
      cross e.1 e.2 p * cross e.1 e.2 q < -(t * t) := by
  rw [doubledArea, doubledArea, ← abs_mul, abs_of_neg h, lt_neg, sq]

theorem area_ne_zero {p q : Point K} (h : t ^ 2 < doubledArea e p * doubledArea e q) :
    cross e.1 e.2 p ≠ 0 := by
  intro hzero
  rw [doubledArea, hzero, abs_zero, zero_mul] at h
  exact absurd h (not_lt.mpr (sq_nonneg t))

/-- What `_proper_intersection` tests. -/
theorem properIntersection_iff : properIntersection e e' t ↔ CrossesWidely t e e' := by
  have hsq : -(t * t) ≤ 0 := neg_nonpos.mpr (mul_self_nonneg t)
  constructor
  · rintro ⟨hfirst, hsecond⟩
    have hcrosses : Crosses e e' := ⟨hfirst.trans_le hsq, hsecond.trans_le hsq⟩
    exact ⟨meetInside_of_crosses hcrosses, (lt_area_mul_iff hcrosses.1).mpr hfirst,
      (lt_area_mul_iff hcrosses.2).mpr hsecond⟩
  · intro h
    have hcrosses := crosses_of_meetInside h.inside (area_ne_zero h.first) (area_ne_zero h.second)
    exact ⟨(lt_area_mul_iff hcrosses.1).mp h.first, (lt_area_mul_iff hcrosses.2).mp h.second⟩

/-- A clear crossing of edges that are at least one long is wide. -/
theorem CrossesClearly.widely (h : CrossesClearly t e e') (ht : 0 ≤ t) (hfirst : 1 ≤ lengthSq e)
    (hsecond : 1 ≤ lengthSq e') : CrossesWidely t e e' := by
  have hfar : ∀ {s : Segment K} {p q : Point K}, 1 ≤ lengthSq s → FarFrom t s p → FarFrom t s q →
      t ^ 2 < doubledArea s p * doubledArea s q := by
    intro s p q hs hp hq
    have hne : lengthSq s ≠ 0 := (zero_lt_one.trans_le hs).ne'
    have harea : ∀ {p}, FarFrom t s p → t < doubledArea s p := by
      intro p hp
      have hlt : t ^ 2 < cross s.1 s.2 p ^ 2 :=
        (le_mul_of_one_le_right (sq_nonneg t) hs).trans_lt (hp.lt_cross_sq hne)
      have habs := sq_lt_sq.mp hlt
      rwa [abs_of_nonneg ht] at habs
    rw [sq]
    exact mul_lt_mul'' (harea hp) (harea hq) ht ht
  exact ⟨h.inside, hfar hfirst h.second_start h.second_stop,
    hfar hsecond h.first_start h.first_stop⟩

/-! ## The search -/

omit [IsStrictOrderedRing K] in
theorem comparePairs_ok {budget checked : ℕ} {pairs : List (Segment K × Segment K)} {found : Bool}
    (h : comparePairs t budget checked pairs = .ok found) :
    found = true ↔ ∃ pair ∈ pairs, properIntersection pair.1 pair.2 t := by
  induction pairs generalizing checked with
  | nil =>
      cases h
      simp
  | cons pair rest ih =>
      rw [comparePairs] at h
      by_cases hbudget : budget < checked + 1
      · rw [if_pos hbudget] at h
        cases h
      · rw [if_neg hbudget] at h
        by_cases hpair : properIntersection pair.1 pair.2 t
        · rw [if_pos hpair] at h
          cases h
          exact ⟨fun _ => ⟨pair, List.mem_cons_self, hpair⟩, fun _ => rfl⟩
        · rw [if_neg hpair] at h
          rw [ih h]
          constructor
          · rintro ⟨other, hother, hproper⟩
            exact ⟨other, List.mem_cons_of_mem _ hother, hproper⟩
          · rintro ⟨other, hother, hproper⟩
            rcases List.mem_cons.mp hother with rfl | hother
            · exact absurd hproper hpair
            · exact ⟨other, hother, hproper⟩

omit [IsStrictOrderedRing K] in
/-- Within the budget the search ends. -/
theorem comparePairs_returns {budget checked : ℕ} {pairs : List (Segment K × Segment K)}
    (h : checked + pairs.length ≤ budget) :
    ∃ found, comparePairs t budget checked pairs = .ok found := by
  induction pairs generalizing checked with
  | nil => exact ⟨false, rfl⟩
  | cons pair rest ih =>
      rw [List.length_cons] at h
      rw [comparePairs, if_neg (by omega)]
      by_cases hpair : properIntersection pair.1 pair.2 t
      · exact ⟨true, if_pos hpair⟩
      · rw [if_neg hpair]
        exact ih (by omega)

/-- The corners of the polyline are joined by straight edges. -/
def PolylineGeometry.Straight (g : PolylineGeometry K) : Prop := ∀ v ∈ g.vertices, v.bulge = 0

omit [IsStrictOrderedRing K] in
theorem selfIntersects_eq {g : PolylineGeometry K} (hg : g.Straight) (budget : ℕ) :
    selfIntersects g t budget = comparePairs t budget 0 (comparedPairs g.outline) := by
  rw [selfIntersects, if_neg]
  · rfl
  · rintro ⟨v, hv, hbulge⟩
    exact hbulge (hg v hv)

theorem selfIntersects_ok {g : PolylineGeometry K} (hg : g.Straight) {budget : ℕ} {found : Bool}
    (h : selfIntersects g t budget = .ok found) :
    found = true ↔ ∃ e e', NonAdjacent g e e' ∧ CrossesWidely t e e' := by
  rw [selfIntersects_eq hg] at h
  rw [comparePairs_ok h]
  constructor
  · rintro ⟨⟨e, e'⟩, hpair, hproper⟩
    exact ⟨e, e', mem_comparedPairs.mpr (Or.inl hpair), properIntersection_iff.mp hproper⟩
  · rintro ⟨e, e', hedges, hwide⟩
    rcases mem_comparedPairs.mp hedges with hpair | hpair
    · exact ⟨_, hpair, properIntersection_iff.mpr hwide⟩
    · exact ⟨_, hpair, properIntersection_iff.mpr hwide.symm⟩

/-! ## What is reported -/

variable {ι ρ δ γ : Type} [LinearOrder ι] [LinearOrder ρ] [LinearOrder γ]

omit [Field K] [LinearOrder γ] [IsStrictOrderedRing K] in
theorem issue_code {H : IssueHashes δ γ} {byId : List (ι × SourceNode ι K)}
    {draft : IssueDraft ι ρ} {x : SceneIssue ι ρ γ} (h : issue H byId draft = .ok x) :
    x.code = draft.code := by
  obtain ⟨sources, -, h⟩ := bind_eq_ok.mp h
  cases h
  rfl

omit [Field K] [IsStrictOrderedRing K] [LinearOrder ι] in
theorem sourceOf_sourcesById [DecidableEq ι] {nodes : List (SourceNode ι K)}
    (hids : (nodes.map fun n => n.nodeId).Nodup) {node : SourceNode ι K} (hnode : node ∈ nodes) :
    getItem (dictOf (nodes.map fun node => (node.nodeId, node))) node.nodeId = some node := by
  have hkeys : ((nodes.map fun node => (node.nodeId, node)).map Prod.fst).Nodup := by
    rwa [List.map_map]
  rw [dictOf_of_nodup hkeys, getItem_eq_some hkeys]
  exact List.mem_map_of_mem hnode

omit [Field K] [LinearOrder γ] [IsStrictOrderedRing K] in
/-- The issue of one node carries that node and its source. -/
theorem issue_of_node {H : IssueHashes δ γ} {nodes : List (SourceNode ι K)}
    (hids : (nodes.map fun n => n.nodeId).Nodup) {node : SourceNode ι K} (hnode : node ∈ nodes)
    {draft : IssueDraft ι ρ} (hdraft : draft.nodeIds = [node.nodeId]) :
    ∃ x : SceneIssue ι ρ γ, issue H (sourcesById nodes) draft = .ok x ∧
      x.sourceNodeIds = [node.nodeId] ∧
      x.issueId = H.issueId draft.code [H.evidenceId draft.evidence [node.sourceEntityId]] := by
  have hsorted : (draft.nodeIds.toFinset.sort (· ≤ ·)) = [node.nodeId] := by
    rw [hdraft]
    simp
  have hget : sourceOf (sourcesById nodes) node.nodeId = .ok node := by
    rw [sourceOf, sourcesById, sourceOf_sourcesById hids hnode]
  have hsources : (draft.nodeIds.toFinset.sort (· ≤ ·)).mapM
      (fun nodeId => (sourceOf (sourcesById nodes) nodeId).map SourceNode.sourceEntityId) =
      .ok [node.sourceEntityId] := by
    rw [hsorted, List.mapM_cons, hget]
    rfl
  exact ⟨_, bind_eq_ok.mpr ⟨_, hsources, rfl⟩, hsorted, rfl⟩

variable [FloorRing K] [Hypot K] [Angles K] {γ' γ'' : Type} {H : IssueHashes δ γ}
  {nodes : List (SourceNode ι K)} {relations : List (SceneRelation ι ρ)}
  {contours : List (SceneContour ι γ' K)} {components : List (SceneComponent ι γ'')}
  {tolerance : ToleranceProfile K} {budgets : SceneBudgets} {maxIssues : ℕ}

omit [IsStrictOrderedRing K] [LinearOrder ι] [LinearOrder ρ] in
theorem geometryDrafts_code {node : SourceNode ι K} {draft : IssueDraft ι ρ}
    (h : draft ∈ geometryDrafts tolerance node) : draft.code ≠ .selfIntersection := by
  unfold geometryDrafts at h
  by_cases hexact : node.geometryStatus ≠ .exact
  · rw [if_pos hexact, List.mem_singleton] at h
    subst h
    unfold statusDraft nodeDraft
    cases node.geometryStatus <;> simp
  · rw [if_neg hexact] at h
    rcases hevidence : degenerateEvidence tolerance node.geometry with _ | evidence
    · rw [hevidence] at h
      cases h
    · rw [hevidence] at h
      rw [List.mem_singleton.mp h]
      simp [nodeDraft]

omit [LinearOrder ι] [LinearOrder ρ] in
theorem duplicateDrafts_code {draft : IssueDraft ι ρ} (h : draft ∈ duplicateDrafts relations) :
    draft.code ≠ .selfIntersection := by
  obtain ⟨r, -, rfl⟩ := List.mem_map.mp h
  simp

omit [Field K] [IsStrictOrderedRing K] [LinearOrder ρ] [FloorRing K] [Hypot K] [Angles K] in
theorem openDrafts_code {byId : List (ι × SourceNode ι K)} {contourNodes topology : List ι}
    {component : SceneComponent ι γ''} {drafts : List (IssueDraft ι ρ)}
    (h : openDrafts byId contourNodes topology component = .ok drafts) {draft : IssueDraft ι ρ}
    (hdraft : draft ∈ drafts) : draft.code ≠ .selfIntersection := by
  obtain ⟨members, -, h⟩ := bind_eq_ok.mp h
  dsimp only at h
  split at h
  · cases h
    rw [List.mem_singleton.mp hdraft]
    simp
  · cases h
    cases hdraft

omit [IsStrictOrderedRing K] [LinearOrder ρ] [Angles K] in
theorem rowDrafts_code {byId : List (ι × SourceNode ι K)} {contour : SceneContour ι γ' K}
    {drafts : List (IssueDraft ι ρ)} (h : rowDrafts nodes byId tolerance contour = .ok drafts)
    {draft : IssueDraft ι ρ} (hdraft : draft ∈ drafts) : draft.code ≠ .selfIntersection := by
  obtain ⟨polygon, -, h⟩ := bind_eq_ok.mp h
  rcases polygon with _ | polygon
  · cases h
    cases hdraft
  · dsimp only at h
    split at h
    · cases h
      cases hdraft
    · cases h
      rw [List.mem_singleton.mp hdraft]
      simp

omit [LinearOrder γ] [IsStrictOrderedRing K] in
/-- The self-intersections among all issues are those of the nodes whose search found one. -/
theorem crossing_mem_foundIssues {issues : List (SceneIssue ι ρ γ)}
    (h : foundIssues H nodes relations contours components tolerance budgets = .ok issues)
    {x : SceneIssue ι ρ γ} (hcode : x.code = .selfIntersection) :
    x ∈ issues ↔ ∃ node ∈ nodes, ∃ drafts, crossingDrafts tolerance budgets node = .ok drafts ∧
      ∃ draft ∈ drafts, issue H (sourcesById nodes) draft = .ok x := by
  obtain ⟨ofNodes, hnodes, h⟩ := bind_eq_ok.mp h
  obtain ⟨duplicates, hduplicates, h⟩ := bind_eq_ok.mp h
  obtain ⟨opened, hopened, h⟩ := bind_eq_ok.mp h
  obtain ⟨ofComponents, hcomponents, h⟩ := bind_eq_ok.mp h
  obtain ⟨rows, hrows, h⟩ := bind_eq_ok.mp h
  obtain ⟨ofContours, hcontours, h⟩ := bind_eq_ok.mp h
  cases h
  have hother : ∀ drafts : List (IssueDraft ι ρ), ∀ found,
      drafts.mapM (issue H (sourcesById nodes)) = .ok found →
      (∀ draft ∈ drafts, draft.code ≠ .selfIntersection) → x ∉ found := by
    intro drafts found hfound hdrafts hx
    obtain ⟨draft, hdraft, hissue⟩ := (mem_of_mapM_ok hfound x).mp hx
    exact hdrafts draft hdraft ((issue_code hissue).symm.trans hcode)
  have hduplicate := hother _ _ hduplicates fun draft => duplicateDrafts_code
  have hopen := hother _ _ hcomponents (by
    intro draft hdraft
    obtain ⟨drafts, hdrafts, hmem⟩ := List.mem_flatten.mp hdraft
    obtain ⟨component, -, hrun⟩ := (mem_of_mapM_ok hopened drafts).mp hdrafts
    exact openDrafts_code hrun hmem)
  have hrow := hother _ _ hcontours (by
    intro draft hdraft
    obtain ⟨drafts, hdrafts, hmem⟩ := List.mem_flatten.mp hdraft
    obtain ⟨contour, -, hrun⟩ := (mem_of_mapM_ok hrows drafts).mp hdrafts
    exact rowDrafts_code hrun hmem)
  rw [List.mem_append, List.mem_append, List.mem_append, or_iff_left hrow, or_iff_left hopen,
    or_iff_left hduplicate, List.mem_flatten]
  constructor
  · rintro ⟨found, hfound, hx⟩
    obtain ⟨node, hnode, hrun⟩ := (mem_of_mapM_ok hnodes found).mp hfound
    obtain ⟨drawn, hdrawn, hrun⟩ := bind_eq_ok.mp hrun
    obtain ⟨drafts, hdrafts, hrun⟩ := bind_eq_ok.mp hrun
    obtain ⟨crossed, hcrossed, hrun⟩ := bind_eq_ok.mp hrun
    cases hrun
    rcases List.mem_append.mp hx with hx | hx
    · exact absurd hx (hother _ _ hdrawn fun draft => geometryDrafts_code)
    · exact ⟨node, hnode, drafts, hdrafts, (mem_of_mapM_ok hcrossed x).mp hx⟩
  · rintro ⟨node, hnode, drafts, hdrafts, hx⟩
    obtain ⟨found, hfound, hrun⟩ := ok_of_mapM_ok hnodes hnode
    obtain ⟨drawn, -, hrun⟩ := bind_eq_ok.mp hrun
    obtain ⟨drafts', hdrafts', hrun⟩ := bind_eq_ok.mp hrun
    obtain ⟨crossed, hcrossed, hrun⟩ := bind_eq_ok.mp hrun
    cases hrun
    rw [hdrafts, Except.ok.injEq] at hdrafts'
    subst hdrafts'
    exact ⟨_, hfound, List.mem_append_right _ ((mem_of_mapM_ok hcrossed x).mpr hx)⟩

omit [IsStrictOrderedRing K] [LinearOrder γ] in
/-- Every issue has an id made from its code. -/
theorem issueId_of_mem_foundIssues {issues : List (SceneIssue ι ρ γ)}
    (h : foundIssues H nodes relations contours components tolerance budgets = .ok issues)
    {x : SceneIssue ι ρ γ} (hx : x ∈ issues) : ∃ ids, x.issueId = H.issueId x.code ids := by
  obtain ⟨ofNodes, hnodes, h⟩ := bind_eq_ok.mp h
  obtain ⟨duplicates, hduplicates, h⟩ := bind_eq_ok.mp h
  obtain ⟨opened, _, h⟩ := bind_eq_ok.mp h
  obtain ⟨ofComponents, hcomponents, h⟩ := bind_eq_ok.mp h
  obtain ⟨rows, _, h⟩ := bind_eq_ok.mp h
  obtain ⟨ofContours, hcontours, h⟩ := bind_eq_ok.mp h
  cases h
  have hissued : ∀ drafts : List (IssueDraft ι ρ), ∀ found,
      drafts.mapM (issue H (sourcesById nodes)) = .ok found → x ∈ found →
      ∃ ids, x.issueId = H.issueId x.code ids := by
    intro drafts found hfound hx
    obtain ⟨draft, -, hissue⟩ := (mem_of_mapM_ok hfound x).mp hx
    obtain ⟨sources, -, hissue⟩ := bind_eq_ok.mp hissue
    cases hissue
    exact ⟨_, rfl⟩
  rw [List.mem_append, List.mem_append, List.mem_append, List.mem_flatten] at hx
  rcases hx with ((⟨found, hfound, hx⟩ | hx) | hx) | hx
  · obtain ⟨node, -, hrun⟩ := (mem_of_mapM_ok hnodes found).mp hfound
    obtain ⟨drawn, hdrawn, hrun⟩ := bind_eq_ok.mp hrun
    obtain ⟨drafts, -, hrun⟩ := bind_eq_ok.mp hrun
    obtain ⟨crossed, hcrossed, hrun⟩ := bind_eq_ok.mp hrun
    cases hrun
    rcases List.mem_append.mp hx with hx | hx
    · exact hissued _ _ hdrawn hx
    · exact hissued _ _ hcrossed hx
  · exact hissued _ _ hduplicates hx
  · exact hissued _ _ hcomponents hx
  · exact hissued _ _ hcontours hx

omit [IsStrictOrderedRing K] in
/-- The issues with one id are reported once. -/
theorem mem_detectIssues {issues : List (SceneIssue ι ρ γ)}
    (h : detectIssues H nodes relations contours components tolerance budgets maxIssues =
      .ok issues) :
    ∃ found, foundIssues H nodes relations contours components tolerance budgets = .ok found ∧
      (∀ x ∈ issues, x ∈ found) ∧ ∀ x ∈ found, ∃ y ∈ issues, y.issueId = x.issueId := by
  obtain ⟨found, hfound, h⟩ := bind_eq_ok.mp h
  refine ⟨found, hfound, ?_⟩
  dsimp only at h
  by_cases hbudget : maxIssues < (dictOf (found.map fun item => (item.issueId, item))).length
  · rw [if_pos hbudget] at h
    cases h
  · rw [if_neg hbudget] at h
    cases h
    have hmem : ∀ x, x ∈ ((dictOf (found.map fun item => (item.issueId, item))).map
        Prod.snd).insertionSort (fun a b => a.issueId ≤ b.issueId) ↔
          ∃ entry ∈ dictOf (found.map fun item => (item.issueId, item)), entry.2 = x := by
      intro x
      rw [List.mem_insertionSort, List.mem_map]
    have hentry : ∀ entry ∈ dictOf (found.map fun item => (item.issueId, item)),
        entry.2 ∈ found ∧ entry.1 = entry.2.issueId := by
      intro entry hentry
      obtain ⟨item, hitem, rfl⟩ := List.mem_map.mp (mem_of_mem_dictOf hentry)
      exact ⟨hitem, rfl⟩
    constructor
    · intro x hx
      obtain ⟨entry, hin, rfl⟩ := (hmem x).mp hx
      exact (hentry entry hin).1
    · intro x hx
      have hkey :
          x.issueId ∈ (dictOf (found.map fun item => (item.issueId, item))).map Prod.fst := by
        rw [mem_keys_dictOf, List.map_map]
        exact List.mem_map_of_mem hx
      obtain ⟨entry, hin, hid⟩ := List.mem_map.mp hkey
      exact ⟨entry.2, (hmem _).mpr ⟨entry, hin, rfl⟩, (hentry entry hin).2.symm.trans hid⟩

/-- The polyline of the node is reported to cross itself. -/
def ReportedCrossing (issues : List (SceneIssue ι ρ γ)) (node : SourceNode ι K) : Prop :=
  ∃ x ∈ issues, x.code = .selfIntersection ∧ x.sourceNodeIds = [node.nodeId]

/-- A closed straight polyline is reported exactly when two of its edges cross widely. -/
theorem reportedCrossing_iff (hids : (nodes.map fun n => n.nodeId).Nodup)
    (hsources : (nodes.map SourceNode.sourceEntityId).Nodup) {issues : List (SceneIssue ι ρ γ)}
    (h : detectIssues H nodes relations contours components tolerance budgets maxIssues =
      .ok issues)
    {node : SourceNode ι K} (hnode : node ∈ nodes) {g : PolylineGeometry K}
    (hgeometry : node.geometry = some (.polyline g)) (hclosed : g.closed = true)
    (hstraight : g.Straight) :
    ReportedCrossing issues node ↔
      ∃ e e', NonAdjacent g e e' ∧ CrossesWidely tolerance.endpoint e e' := by
  obtain ⟨found, hfound, hsub, hkept⟩ := mem_detectIssues h
  obtain ⟨ofNodes, hnodes, -⟩ := bind_eq_ok.mp hfound
  obtain ⟨own, -, hown⟩ := ok_of_mapM_ok hnodes hnode
  obtain ⟨drawn, -, hown⟩ := bind_eq_ok.mp hown
  obtain ⟨drafts, hdrafts, hown⟩ := bind_eq_ok.mp hown
  obtain ⟨crossed, hcrossed, -⟩ := bind_eq_ok.mp hown
  have hsearch := hdrafts
  rw [crossingDrafts, hgeometry] at hsearch
  dsimp only at hsearch
  rw [if_pos hclosed] at hsearch
  obtain ⟨crosses, hcrosses, hsearch⟩ := bind_eq_ok.mp hsearch
  rw [← selfIntersects_ok hstraight hcrosses]
  -- what any self-intersection issue says of its node
  have hshape : ∀ n ∈ nodes, ∀ drafts, crossingDrafts (ρ := ρ) tolerance budgets n = .ok drafts →
      ∀ draft ∈ drafts, draft = nodeDraft n .selfIntersection .error
        "non_adjacent_segments_intersect" "review_contour" := by
    intro n _ drafts hrun draft hdraft
    unfold crossingDrafts at hrun
    split at hrun
    · split at hrun
      · obtain ⟨b, -, hrun⟩ := bind_eq_ok.mp hrun
        cases hrun
        cases b
        · cases hdraft
        · exact List.mem_singleton.mp hdraft
      · cases hrun
        cases hdraft
    · cases hrun
      cases hdraft
  constructor
  · rintro ⟨x, hx, hcode, hid⟩
    obtain ⟨n, hn, drafts', hdrafts', draft, hdraft, hissue⟩ :=
      (crossing_mem_foundIssues hfound hcode).mp (hsub x hx)
    have hdraftEq := hshape n hn drafts' hdrafts' draft hdraft
    obtain ⟨x', hissue', hsame, -⟩ := issue_of_node (H := H) hids hn
      (show draft.nodeIds = [n.nodeId] by rw [hdraftEq]; rfl)
    rw [hissue, Except.ok.injEq] at hissue'
    subst hissue'
    rw [hid, List.cons.injEq] at hsame
    have hnEq : node = n := List.inj_on_of_nodup_map hids hnode hn hsame.1
    subst hnEq
    rw [hdrafts, Except.ok.injEq] at hdrafts'
    subst hdrafts'
    cases crosses
    · cases hsearch
      cases hdraft
    · rfl
  · rintro rfl
    cases hsearch
    have hissued : ∃ x : SceneIssue ι ρ γ, issue H (sourcesById nodes)
        (nodeDraft node .selfIntersection .error "non_adjacent_segments_intersect"
          "review_contour") = .ok x ∧ x.sourceNodeIds = [node.nodeId] ∧
        x.issueId = H.issueId .selfIntersection
          [H.evidenceId "non_adjacent_segments_intersect" [node.sourceEntityId]] :=
      issue_of_node hids hnode rfl
    obtain ⟨x, hissue, -, hxid⟩ := hissued
    have hcode := issue_code hissue
    have hxfound : x ∈ found := (crossing_mem_foundIssues hfound hcode).mpr
      ⟨node, hnode, _, hdrafts, _, List.mem_singleton_self _, hissue⟩
    obtain ⟨y, hy, hyid⟩ := hkept x hxfound
    have hyfound := hsub y hy
    -- the id tells the code and the source, and with them the node
    obtain ⟨ids, hyids⟩ := issueId_of_mem_foundIssues hfound hyfound
    have hycode : y.code = .selfIntersection :=
      (H.issueId_injective (hyids.symm.trans (hyid.trans hxid))).1
    obtain ⟨n, hn, drafts', hdrafts', draft, hdraft, hyissue⟩ :=
      (crossing_mem_foundIssues hfound hycode).mp hyfound
    have hdraftEq := hshape n hn drafts' hdrafts' draft hdraft
    obtain ⟨y', hyissue', hynodes, hyshape⟩ := issue_of_node (H := H) hids hn
      (show draft.nodeIds = [n.nodeId] by rw [hdraftEq]; rfl)
    rw [hyissue, Except.ok.injEq] at hyissue'
    subst hyissue'
    have hevidence := (H.issueId_injective (hyshape.symm.trans (hyid.trans hxid))).2
    rw [List.cons.injEq] at hevidence
    have hsource := (H.evidenceId_injective hevidence.1).2
    rw [List.cons.injEq] at hsource
    have hnEq : n = node := List.inj_on_of_nodup_map hsources hn hnode hsource.1
    subst hnEq
    exact ⟨y, hy, hycode, hynodes⟩

/-- Two edges without a common corner cross clearly. -/
def PolylineGeometry.CrossesItself (g : PolylineGeometry K) (t : K) : Prop :=
  ∃ e e', NonAdjacent g e e' ∧ CrossesClearly t e e'

/-- No two edges without a common corner have a point in common. -/
def PolylineGeometry.EdgesApart (g : PolylineGeometry K) : Prop :=
  ∀ e e', NonAdjacent g e e' → ¬ Meet e e'

/-- Two edges without a common corner cross with large triangles on each of them. -/
def PolylineGeometry.CrossesItselfWidely (g : PolylineGeometry K) (t : K) : Prop :=
  ∃ e e', NonAdjacent g e e' ∧ CrossesWidely t e e'

/-- Within the budget the search of a polyline ends, and what is reported is right for exactly
the outlines that cross themselves widely or not clearly. -/
theorem crossing_reported_iff (hids : (nodes.map fun n => n.nodeId).Nodup)
    (hsources : (nodes.map SourceNode.sourceEntityId).Nodup) {node : SourceNode ι K}
    (hnode : node ∈ nodes) {g : PolylineGeometry K}
    (hgeometry : node.geometry = some (.polyline g)) (hclosed : g.closed = true)
    (hstraight : g.Straight) :
    ((comparedPairs g.outline).length ≤ budgets.maxRelationCandidates →
      ∃ found, selfIntersects g tolerance.endpoint budgets.maxRelationCandidates = .ok found) ∧
    ∀ issues, detectIssues H nodes relations contours components tolerance budgets maxIssues =
        .ok issues →
      ((g.CrossesItself tolerance.endpoint → ReportedCrossing issues node) ∧
          (g.EdgesApart → ¬ ReportedCrossing issues node) ↔
        (g.CrossesItself tolerance.endpoint → g.CrossesItselfWidely tolerance.endpoint)) := by
  constructor
  · intro hbudget
    rw [selfIntersects_eq hstraight]
    exact comparePairs_returns (by omega)
  · intro issues h
    have hreported := reportedCrossing_iff hids hsources h hnode hgeometry hclosed hstraight
    constructor
    · rintro ⟨hcrosses, -⟩ hclear
      exact hreported.mp (hcrosses hclear)
    · intro hwide
      refine ⟨fun hclear => hreported.mpr (hwide hclear), ?_⟩
      intro hapart hfound
      obtain ⟨e, e', hedges, hcross⟩ := hreported.mp hfound
      refine hapart e e' hedges (meet_of_crosses ?_)
      exact crosses_of_meetInside hcross.inside (area_ne_zero hcross.first)
        (area_ne_zero hcross.second)

end

/-! ## A bow tie -/

def bowtieCorners (a : ℝ) : List (PolylineVertex ℝ) := [⟨0, 0, 0⟩, ⟨a, a, 0⟩, ⟨a, 0, 0⟩, ⟨0, a, 0⟩]

theorem two_le_bowtieCorners (a : ℝ) : 2 ≤ (bowtieCorners a).length := by
  simp [bowtieCorners]

/-- The outline of a square with its two diagonals as edges. -/
def bowtie (a : ℝ) : PolylineGeometry ℝ where
  vertices := bowtieCorners a
  closed := true
  two_le := two_le_bowtieCorners a

theorem bowtie_straight (a : ℝ) : (bowtie a).Straight := by
  intro v hv
  simp only [bowtie, bowtieCorners, List.mem_cons, List.not_mem_nil, or_false] at hv
  rcases hv with rfl | rfl | rfl | rfl <;> rfl

theorem bowtie_crosses {a t : ℝ} (h : 2 * t ^ 2 < a ^ 2) : (bowtie a).CrossesItself t := by
  have hfar : ∀ r : ℝ, t ^ 2 < a ^ 2 * ((1 - r) ^ 2 + r ^ 2) := by
    intro r
    have hhalf : 1 / 2 ≤ (1 - r) ^ 2 + r ^ 2 := by nlinarith [sq_nonneg (2 * r - 1)]
    have hscaled : a ^ 2 * (1 / 2) ≤ a ^ 2 * ((1 - r) ^ 2 + r ^ 2) :=
      mul_le_mul_of_nonneg_left hhalf (sq_nonneg a)
    linarith
  refine ⟨((0, 0), (a, a)), ((a, 0), (0, a)), ⟨0, 2, by decide, rfl, rfl, ?_⟩, ?_⟩
  · change ¬ Adjacent 4 0 2
    unfold Adjacent
    decide
  · refine ⟨⟨1 / 2, 1 / 2, by norm_num, by norm_num, ?_⟩, ?_, ?_, ?_, ?_⟩
    · refine Prod.ext ?_ ?_
      · simp only [pointAt]
        ring
      · simp only [pointAt]
    all_goals
      intro r
      refine (hfar r).trans_eq ?_
      simp only [distSq, pointAt]
      ring

/-- The search finds the crossing where the side is large against the tolerance. -/
theorem selfIntersects_bowtie {a t : ℝ} {budget : ℕ} (hbudget : 2 ≤ budget) :
    selfIntersects (bowtie a) t budget = .ok (decide (t ^ 2 < a ^ 4)) := by
  have hpairs : comparedPairs (bowtie a).outline =
      [(((0, 0), (a, a)), ((a, 0), (0, a))), (((a, a), (a, 0)), ((0, a), (0, 0)))] := rfl
  have hdiagonals : properIntersection ((0, 0), (a, a)) ((a, 0), (0, a)) t ↔ t ^ 2 < a ^ 4 := by
    unfold properIntersection cross
    constructor
    · rintro ⟨h, -⟩
      linarith
    · intro h
      constructor
      · linarith
      · linarith
  have hsides : ¬ properIntersection ((a, a), (a, 0)) ((0, a), (0, 0)) t := by
    rintro ⟨h, -⟩
    simp only [cross] at h
    nlinarith [sq_nonneg t, sq_nonneg (a * a)]
  have hfirst : ¬ budget < 0 + 1 := by omega
  have hsecond : ¬ budget < 0 + 1 + 1 := by omega
  rw [selfIntersects_eq (bowtie_straight a), hpairs, comparePairs, if_neg hfirst]
  by_cases h : t ^ 2 < a ^ 4
  · rw [if_pos (hdiagonals.mpr h), decide_eq_true h]
  · rw [if_neg (mt hdiagonals.mp h), comparePairs, if_neg hsecond, if_neg hsides, comparePairs,
      decide_eq_false h]

noncomputable def bowtieNode (a : ℝ) (ha : 0 ≤ a) : SourceNode ℕ ℝ where
  nodeId := 1
  bounds := some ⟨0, 0, a, a, ha, ha⟩
  geometry := some (.polyline (bowtie a))
  sourceEntityId := "1A"
  geometryStatus := .exact
  geometryReason := none

def codesOf (text : String) : List ℕ := text.toList.map Char.toNat

theorem codesOf_injective : Function.Injective codesOf := fun _ _ h =>
  String.toList_injective (List.map_injective_iff.mpr (fun _ _ => Char.toNat_inj.mp) h)

theorem countEvidence_injective {text text' : String} {sources sources' : List String}
    (h : Encodable.encode (codesOf text, sources.map codesOf) =
      Encodable.encode (codesOf text', sources'.map codesOf)) :
    text = text' ∧ sources = sources' := by
  have hpair := Encodable.encode_injective h
  rw [Prod.mk.injEq] at hpair
  exact ⟨codesOf_injective hpair.1, List.map_injective_iff.mpr codesOf_injective hpair.2⟩

theorem countIssue_injective {code code' : SceneIssueCode} {ids ids' : List ℕ}
    (h : Encodable.encode (codesOf code.text, ids) = Encodable.encode (codesOf code'.text, ids')) :
    code = code' ∧ ids = ids' := by
  have hpair := Encodable.encode_injective h
  rw [Prod.mk.injEq] at hpair
  refine ⟨?_, hpair.2⟩
  have htext := codesOf_injective hpair.1
  cases code <;> cases code' <;> first | rfl | exact absurd htext (by decide)

/-- Hashes that number their inputs. -/
def countingHashes : IssueHashes ℕ ℕ where
  evidenceId text sources := Encodable.encode (codesOf text, sources.map codesOf)
  issueId code ids := Encodable.encode (codesOf code.text, ids)
  evidenceId_injective := countEvidence_injective
  issueId_injective := countIssue_injective

/-- The tolerance of a drawing that is one unit wide at most. -/
theorem endpoint_of_small {b : Bounds ℝ} (h : b.extent = 1) :
    (mechanicalTolerance (some b) "unitless").endpoint = 1 / 10 ^ 6 := by
  simp only [mechanicalTolerance, h]
  norm_num

theorem thousandth_nonneg : (0 : ℝ) ≤ 1 / 1000 := by norm_num

/-- A scene of one closed polyline. -/
noncomputable def outlineIssues (node : SourceNode ℕ ℝ) (tolerance : ToleranceProfile ℝ) :
    Except ContourFailure (List (SceneIssue ℕ ℕ ℕ)) :=
  detectIssues countingHashes [node] [] ([] : List (SceneContour ℕ ℕ ℝ))
    ([] : List (SceneComponent ℕ ℕ)) tolerance SceneBudgets.default 25000

theorem nodup_ids (node : SourceNode ℕ ℝ) : ([node].map fun n => n.nodeId).Nodup :=
  List.nodup_singleton _

theorem nodup_sources (node : SourceNode ℕ ℝ) : ([node].map SourceNode.sourceEntityId).Nodup :=
  List.nodup_singleton _

/-- The issues of a bow tie alone are what the search of its outline gives. -/
theorem outlineIssues_bowtie {a t : ℝ} (ha : 0 ≤ a) {tolerance : ToleranceProfile ℝ}
    (ht : tolerance.endpoint = t) : ∃ x : SceneIssue ℕ ℕ ℕ,
      outlineIssues (bowtieNode a ha) tolerance = .ok (if t ^ 2 < a ^ 4 then [x] else []) := by
  have hsearch : selfIntersects (bowtie a) tolerance.endpoint
      SceneBudgets.default.maxRelationCandidates = .ok (decide (t ^ 2 < a ^ 4)) := by
    rw [ht]
    exact selfIntersects_bowtie (by decide)
  have hissued : ∃ x : SceneIssue ℕ ℕ ℕ, issue countingHashes (sourcesById [bowtieNode a ha])
      (nodeDraft (bowtieNode a ha) .selfIntersection .error "non_adjacent_segments_intersect"
        "review_contour") = .ok x ∧ _ :=
    issue_of_node (nodup_ids _) (List.mem_singleton_self _) rfl
  obtain ⟨x, hissue, -⟩ := hissued
  have hnode : nodeIssues countingHashes (sourcesById [bowtieNode a ha]) tolerance
      SceneBudgets.default (bowtieNode a ha) = .ok (if t ^ 2 < a ^ 4 then [x] else []) := by
    have hdrafts : crossingDrafts (ρ := ℕ) tolerance SceneBudgets.default (bowtieNode a ha) =
        .ok (if t ^ 2 < a ^ 4 then [nodeDraft (bowtieNode a ha) .selfIntersection .error
          "non_adjacent_segments_intersect" "review_contour"] else []) := by
      change (selfIntersects (bowtie a) tolerance.endpoint
        SceneBudgets.default.maxRelationCandidates >>= _) = _
      rw [hsearch]
      by_cases h : t ^ 2 < a ^ 4
      · rw [decide_eq_true h, if_pos h]
        rfl
      · rw [decide_eq_false h, if_neg h]
        rfl
    rw [nodeIssues, hdrafts]
    by_cases h : t ^ 2 < a ^ 4
    · rw [if_pos h, if_pos h]
      change ((do
        let crossed ← List.mapM (issue countingHashes (sourcesById [bowtieNode a ha])) _
        return [] ++ crossed) : Except _ _) = _
      rw [List.mapM_cons, hissue]
      rfl
    · rw [if_neg h, if_neg h]
      rfl
  refine ⟨x, ?_⟩
  rw [outlineIssues, detectIssues, foundIssues, List.mapM_cons, hnode]
  by_cases h : t ^ 2 < a ^ 4
  · rw [if_pos h]
    rfl
  · rw [if_neg h]
    rfl

/-- A bow tie of a thousandth of a unit, at the tolerance that the engine chooses for it. -/
theorem thousandth_missed :
    let node := bowtieNode (1 / 1000) thousandth_nonneg
    let tolerance := mechanicalTolerance node.bounds "unitless"
    (bowtie (1 / 1000)).CrossesItself tolerance.endpoint ∧
      ∃ issues, outlineIssues node tolerance = .ok issues ∧ ¬ ReportedCrossing issues node := by
  intro node tolerance
  have htolerance : tolerance.endpoint = 1 / 10 ^ 6 := endpoint_of_small (by
    simp only [Bounds.extent]
    norm_num)
  constructor
  · rw [htolerance]
    exact bowtie_crosses (by norm_num)
  · obtain ⟨x, hissues⟩ := outlineIssues_bowtie thousandth_nonneg htolerance
    refine ⟨_, hissues, ?_⟩
    rw [if_neg (by norm_num)]
    rintro ⟨x, hx, -⟩
    cases hx

/-- A bow tie of one unit is reported. -/
theorem unit_reported :
    let node := bowtieNode 1 zero_le_one
    let tolerance := mechanicalTolerance node.bounds "unitless"
    ∃ issues, outlineIssues node tolerance = .ok issues ∧ ReportedCrossing issues node := by
  intro node tolerance
  have htolerance : tolerance.endpoint = 1 / 10 ^ 6 := endpoint_of_small (by
    simp only [Bounds.extent]
    norm_num)
  obtain ⟨x, hissues⟩ := outlineIssues_bowtie zero_le_one htolerance
  have hright : ∀ issues, outlineIssues node tolerance = .ok issues →
      (((bowtie 1).CrossesItself tolerance.endpoint → ReportedCrossing issues node) ∧
          ((bowtie 1).EdgesApart → ¬ ReportedCrossing issues node) ↔
        ((bowtie 1).CrossesItself tolerance.endpoint →
          (bowtie 1).CrossesItselfWidely tolerance.endpoint)) :=
    And.right (crossing_reported_iff (nodup_ids node) (nodup_sources node)
      (List.mem_singleton_self node) rfl rfl (bowtie_straight 1))
  have hwide : (bowtie 1).CrossesItselfWidely tolerance.endpoint := by
    have hsearch : selfIntersects (bowtie 1) tolerance.endpoint 2 = .ok true := by
      rw [selfIntersects_bowtie le_rfl, htolerance, decide_eq_true (by norm_num)]
    exact (selfIntersects_ok (bowtie_straight 1) hsearch).mp rfl
  have hclear : (bowtie 1).CrossesItself tolerance.endpoint := by
    rw [htolerance]
    exact bowtie_crosses (by norm_num)
  exact ⟨_, hissues, ((hright _ hissues).mpr fun _ => hwide).1 hclear⟩

end AutocadMcp.Scene
