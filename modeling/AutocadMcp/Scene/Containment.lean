import AutocadMcp.Scene.Relations

/-!
# What the parity test says about discs and polygons

A disc that no edge of a polygon enters is inside as a whole if its center is. A polygon
whose vertices are inside another one may still leave it, over an edge.
-/

namespace AutocadMcp.Scene

open Plane

section

variable {K : Type} [Field K] [LinearOrder K]

theorem polygonStep_eq (p : Point K) (found : Bool) (previous current : Point K) :
    polygonStep p (found, previous) current = (xor found (passes p previous current), current) := by
  dsimp only [polygonStep, passes]
  by_cases hstraddle : (decide (p.2 < current.2) != decide (p.2 < previous.2)) = true
  · rw [if_pos hstraddle, hstraddle, Bool.true_and]
    by_cases hleft : p.1 < (previous.1 - current.1) * (p.2 - current.2) /
        (previous.2 - current.2) + current.1
    · simp [hleft]
    · simp [hleft]
  · rw [if_neg hstraddle, eq_false_of_ne_true hstraddle, Bool.false_and, Bool.xor_false]

theorem pointInPolygon_eq_inside (p : Point K) (polygon : List (Point K)) :
    pointInPolygon p polygon = inside p polygon := by
  have hfold : ∀ (vertices : List (Point K)) (found : Bool) (previous : Point K),
      (vertices.foldl (polygonStep p) (found, previous)).1 =
        xor found (parityFrom p previous vertices) := by
    intro vertices
    induction vertices with
    | nil => simp [parityFrom]
    | cons current rest ih =>
        intro found previous
        rw [List.foldl_cons, polygonStep_eq, ih, parityFrom, Bool.xor_assoc]
  unfold pointInPolygon inside
  cases polygon.getLast? with
  | none => rfl
  | some last => exact (hfold polygon false last).trans (Bool.false_xor _)

omit [Field K] [LinearOrder K] in
theorem mem_edgesFrom_iff {e : Segment K} {previous : Point K} {vertices : List (Point K)} :
    e ∈ edgesFrom previous vertices ↔ e ∈ (previous :: vertices).zip vertices := by
  induction vertices generalizing previous with
  | nil => simp [edgesFrom]
  | cons v vs ih => rw [edgesFrom, List.zip_cons_cons, List.mem_cons, List.mem_cons, ih]

omit [Field K] [LinearOrder K] in
/-- The code pairs each vertex with the next, the parity test with the one before. -/
theorem mem_polygonEdges_iff {e : Segment K} {polygon : List (Point K)} :
    e ∈ polygonEdges polygon ↔ e ∈ edges polygon := by
  cases polygon with
  | nil => simp [polygonEdges, edges]
  | cons v vs =>
      obtain ⟨front, last, hsplit⟩ : ∃ front last, v :: vs = front ++ [last] :=
        ⟨_, _, (List.dropLast_append_getLast (List.cons_ne_nil v vs)).symm⟩
      have hlast : (v :: vs).getLast? = some last := by
        rw [hsplit, List.getLast?_concat]
      have hedges : edges (v :: vs) = edgesFrom last (v :: vs) := by
        rw [edges, hlast]
      have hzip : polygonEdges (v :: vs) = (v :: vs).zip vs ++ [(last, v)] := by
        have hlen : front.length = vs.length := by
          have := congrArg List.length hsplit
          simpa using this.symm
        rw [polygonEdges, List.tail_cons, List.take_succ_cons, List.take_zero]
        conv_lhs => rw [hsplit]
        rw [List.zip_append hlen]
        have hfront : front.zip vs = (v :: vs).zip vs := by
          rw [hsplit]
          conv_rhs => rw [← List.append_nil vs]
          rw [List.zip_append hlen, List.zip_nil_right, List.append_nil]
        rw [hfront]
        rfl
      rw [hedges, mem_edgesFrom_iff, hzip, List.zip_cons_cons, List.mem_append,
        List.mem_singleton, List.mem_cons, or_comm]

theorem clampedDistance_eq [Hypot K] (p : Point K) (s : Segment K) :
    clampedDistance p s = segmentDistance p s := by
  unfold clampedDistance segmentDistance nearest
  split
  · rw [pointAt_zero]
  · rfl

end

/-! ## Discs -/

section

variable {K : Type} [Field K] [LinearOrder K] [IsStrictOrderedRing K] [Hypot K]

/-- The points of a segment from a center are not further from it than the other end. -/
theorem pointDist_pointAt_le {c p : Point K} {t : K} (h0 : 0 ≤ t) (h1 : t ≤ 1) :
    pointDist c (pointAt (c, p) t) ≤ pointDist c p := by
  rw [pointDist_le_pointDist_iff]
  have hsq : distSq c (pointAt (c, p) t) = t ^ 2 * distSq c p := by
    simp only [distSq, pointAt]
    ring
  rw [hsq]
  have ht : t ^ 2 ≤ 1 := pow_le_one₀ h0 h1
  exact mul_le_of_le_one_left (distSq_nonneg c p) ht

/-- Every point of the disc of a hole is inside the part, up to the tolerance at its rim. -/
theorem circleInside_covers {circle : CircleGeometry K} {polygon : List (Point K)} {tolerance : K}
    (h : circleInside circle polygon tolerance = true) {p : Point K}
    (hp : pointDist circle.center p < circle.radius - tolerance) : pointInPolygon p polygon = true := by
  rw [circleInside, Bool.and_eq_true, List.all_eq_true] at h
  obtain ⟨hcenter, hedges⟩ := h
  have hfree : ∀ e ∈ edges polygon, ¬ Meet e (circle.center, p) := by
    rintro e he ⟨z, hz, t, h0, h1, rfl⟩
    have hfar := hedges e (mem_polygonEdges_iff.mpr he)
    rw [decide_eq_true_eq, clampedDistance_eq] at hfar
    have hnear := (segmentDistance_le hz).trans (pointDist_pointAt_le h0 h1)
    exact absurd (hfar.trans hnear) (not_le.mpr hp)
  rw [pointInPolygon_eq_inside] at hcenter ⊢
  rw [← inside_eq_of_free hfree, hcenter]

end

def square : List (Point ℝ) := [(0, 0), (4, 0), (4, 4), (0, 4)]

theorem circleInside_covers_square :
    circleInside ⟨(2, 2), 1⟩ square (1 / 10 ^ 6) = true ∧ pointInPolygon (2, 5 / 2) square = true := by
  have hinside : circleInside ⟨(2, 2), 1⟩ square (1 / 10 ^ 6) = true := by
    rw [circleInside, Bool.and_eq_true, List.all_eq_true]
    constructor
    · norm_num [pointInPolygon, polygonStep, square]
    · intro e he
      rw [decide_eq_true_eq, clampedDistance_eq, segmentDistance, le_pointDist_iff (by norm_num)]
      simp only [polygonEdges, square, List.tail_cons, List.take_succ_cons, List.take_zero,
        List.cons_append, List.nil_append, List.zip_cons_cons, List.zip_nil_right, List.mem_cons,
        List.not_mem_nil, or_false] at he
      rcases he with rfl | rfl | rfl | rfl <;>
        norm_num [nearest, foot, lengthSq, distSq, pointAt]
  refine ⟨hinside, circleInside_covers hinside (lt_of_le_of_lt (b := 1 / 2) ?_ (by norm_num))⟩
  rw [pointDist_le_iff (by norm_num)]
  norm_num [distSq]

/-! ## Polygons -/

section

variable {K : Type} [Field K] [LinearOrder K]

/-- The point is on the outline of a polygon. -/
def OnOutline (polygon : List (Point K)) (p : Point K) : Prop := ∃ e ∈ polygonEdges polygon, On e p

/-- No two edges have a point in common that is not an end of both. -/
def SimplePolygon (polygon : List (Point K)) : Prop :=
  3 ≤ polygon.length ∧ polygon.Nodup ∧ (polygonEdges polygon).Pairwise fun e e' =>
    ∀ p, On e p → On e' p → (p = e.1 ∨ p = e.2) ∧ (p = e'.1 ∨ p = e'.2)

variable [Hypot K]

def NearOutline (polygon : List (Point K)) (tolerance : K) (p : Point K) : Prop :=
  ∃ q, OnOutline polygon q ∧ pointDist p q ≤ tolerance

/-- The point is inside, or within the tolerance of the outline. -/
def Covers (polygon : List (Point K)) (tolerance : K) (p : Point K) : Prop :=
  pointInPolygon p polygon = true ∨ NearOutline polygon tolerance p

/-- An edge goes out of a polygon through one point of its outline and comes back through another,
and gets further from the outline than the tolerance in between. -/
structure Excursion (polygon : List (Point K)) (tolerance : K) (e : Segment K) : Prop where
  exists_stretch : ∃ r s r', 0 ≤ r ∧ r < s ∧ s < r' ∧ r' ≤ 1 ∧
    OnOutline polygon (pointAt e r) ∧ OnOutline polygon (pointAt e r') ∧
    (∀ l, r < l → l < r' →
      ¬ OnOutline polygon (pointAt e l) ∧ pointInPolygon (pointAt e l) polygon = false) ∧
    ¬ NearOutline polygon tolerance (pointAt e s)

end

theorem ends_of_polygonEdges {α : Type} {e : α × α} {polygon : List α}
    (h : e ∈ polygon.zip (polygon.tail ++ polygon.take 1)) : e.1 ∈ polygon ∧ e.2 ∈ polygon := by
  obtain ⟨h1, h2⟩ := List.of_mem_zip h
  refine ⟨h1, ?_⟩
  rcases List.mem_append.mp h2 with h2 | h2
  · exact List.mem_of_mem_tail h2
  · exact List.mem_of_mem_take h2

/-- The vertices of what a polygon contains are inside it. -/
theorem nested_of_contains {K ι : Type} [Field K] [LinearOrder K] [Hypot K]
    {outer inner : SceneNode ι K (Geometry K)} {tolerance : K} {polygon nested : List (Point K)}
    (h : contains outer inner tolerance = true)
    (houter : straightClosedPolygon outer.geometry = some polygon)
    (hinner : straightClosedPolygon inner.geometry = some nested) :
    ∀ p ∈ nested, pointInPolygon p polygon = true := by
  unfold contains at h
  split at h
  · rw [Bool.and_eq_true, houter] at h
    replace h := h.2
    split at h
    · exact absurd h (by simp)
    · rename_i found heq
      cases heq
      split at h
      · rename_i g hcircle
        rw [hcircle] at hinner
        exact absurd hinner (by simp [straightClosedPolygon])
      · rw [hinner] at h
        exact List.all_eq_true.mp h
  · exact absurd h (by simp)

/-- `_contains` on two polygons. -/
theorem contains_of_nested {K ι : Type} [Field K] [LinearOrder K] [Hypot K]
    {outer inner : SceneNode ι K (Geometry K)} {tolerance : K} {polygon nested : List (Point K)}
    {b b' : Bounds K} (hb : outer.bounds = some b) (hb' : inner.bounds = some b')
    (hbounds : b.containsBounds b' tolerance)
    (houter : straightClosedPolygon outer.geometry = some polygon)
    (hinner : straightClosedPolygon inner.geometry = some nested)
    (h : ∀ p ∈ nested, pointInPolygon p polygon = true) : contains outer inner tolerance = true := by
  simp only [contains, hb, hb', houter]
  rw [decide_eq_true hbounds, Bool.true_and]
  split
  · rename_i g hcircle
    rw [hcircle] at hinner
    exact absurd hinner (by simp [straightClosedPolygon])
  · rw [hinner]
    exact List.all_eq_true.mpr h

section

variable {polygon : List (Point ℝ)} {tolerance : ℝ} {e : Segment ℝ}

theorem continuous_pointAt (e : Segment ℝ) : Continuous (pointAt e) := by
  unfold pointAt
  fun_prop

theorem isClosed_on (e : Segment ℝ) : IsClosed {p | On e p} := by
  have himage : {p | On e p} = pointAt e '' Set.Icc 0 1 := by
    ext p
    constructor
    · rintro ⟨t, h0, h1, rfl⟩
      exact ⟨t, ⟨h0, h1⟩, rfl⟩
    · rintro ⟨t, ⟨h0, h1⟩, rfl⟩
      exact on_pointAt h0 h1
  rw [himage]
  exact (isCompact_Icc.image (continuous_pointAt e)).isClosed

theorem isClosed_onOutline (polygon : List (Point ℝ)) : IsClosed {p | OnOutline polygon p} := by
  unfold OnOutline
  induction polygonEdges polygon with
  | nil => simp
  | cons e es ih =>
      have hsplit : {p | ∃ e' ∈ e :: es, On e' p} = {p | On e p} ∪ {p | ∃ e' ∈ es, On e' p} := by
        ext p
        simp
      rw [hsplit]
      exact (isClosed_on e).union ih

/-- The point of an edge between two points of it. -/
theorem pointAt_pointAt (e : Segment ℝ) (a b t : ℝ) :
    pointAt (pointAt e a, pointAt e b) t = pointAt e (a + t * (b - a)) := by
  ext <;> simp only [pointAt] <;> ring

/-- Between a point inside and a point outside an edge meets the outline. -/
theorem exists_outline {a b : ℝ} (hle : a ≤ b)
    (hne : pointInPolygon (pointAt e a) polygon ≠ pointInPolygon (pointAt e b) polygon) :
    ∃ r, a ≤ r ∧ r ≤ b ∧ OnOutline polygon (pointAt e r) := by
  by_contra hnone
  refine hne ?_
  rw [pointInPolygon_eq_inside, pointInPolygon_eq_inside]
  refine inside_eq_of_free ?_
  rintro edge hedge ⟨z, hz, t, h0, h1, rfl⟩
  refine hnone ⟨a + t * (b - a), by nlinarith, by nlinarith, edge, ?_, ?_⟩
  · exact mem_polygonEdges_iff.mpr hedge
  · rwa [← pointAt_pointAt]

/-- A point of an edge outside the polygon and far from its outline is on an excursion, if the ends
of the edge are inside. -/
theorem excursion_of_outside (htol : 0 ≤ tolerance)
    (hstart : pointInPolygon e.1 polygon = true) (hstop : pointInPolygon e.2 polygon = true)
    {s : ℝ} (h0 : 0 ≤ s) (h1 : s ≤ 1) (hout : pointInPolygon (pointAt e s) polygon = false)
    (hfar : ¬ NearOutline polygon tolerance (pointAt e s)) : Excursion polygon tolerance e := by
  have hoff : ¬ OnOutline polygon (pointAt e s) := fun hon =>
    hfar ⟨_, hon, (pointDist_self _).le.trans htol⟩
  have hclosed : IsClosed {r | OnOutline polygon (pointAt e r)} :=
    (isClosed_onOutline polygon).preimage (continuous_pointAt e)
  -- the last meeting before the point and the first after it
  obtain ⟨r₀, hr₀, hr₀s, hon₀⟩ := @exists_outline polygon e 0 s h0 (by
    rw [pointAt_zero, hstart, hout]
    decide)
  obtain ⟨r₁, hsr₁, hr₁, hon₁⟩ := @exists_outline polygon e s 1 h1 (by
    rw [pointAt_one, hstop, hout]
    decide)
  obtain ⟨r, ⟨hron, hrange⟩, hgreatest⟩ :=
    (isCompact_Icc.inter_left hclosed : IsCompact (_ ∩ Set.Icc 0 s)).exists_isGreatest
      ⟨r₀, hon₀, hr₀, hr₀s⟩
  obtain ⟨r', ⟨hron', hrange'⟩, hleast⟩ :=
    (isCompact_Icc.inter_left hclosed : IsCompact (_ ∩ Set.Icc s 1)).exists_isLeast
      ⟨r₁, hon₁, hsr₁, hr₁⟩
  have hrs : r < s := lt_of_le_of_ne hrange.2 fun heq => hoff (heq ▸ hron)
  have hsr : s < r' := lt_of_le_of_ne hrange'.1 fun heq => hoff (heq ▸ hron')
  have hfree : ∀ l, r < l → l < r' → ¬ OnOutline polygon (pointAt e l) := by
    intro l hl hl' hon
    rcases le_total l s with hls | hls
    · exact absurd (hgreatest ⟨hon, hrange.1.trans hl.le, hls⟩) (not_le.mpr hl)
    · exact absurd (hleast ⟨hon, hls, hl'.le.trans hrange'.2⟩) (not_le.mpr hl')
  refine ⟨⟨r, s, r', hrange.1, hrs, hsr, hrange'.2, hron, hron', fun l hl hl' =>
    ⟨hfree l hl hl', ?_⟩, hfar⟩⟩
  by_contra hin
  rw [Bool.not_eq_false] at hin
  -- off the outline the parity does not change along the stretch
  rcases le_total l s with hls | hls
  · obtain ⟨m, hlm, hms, hon⟩ := @exists_outline polygon e l s hls (by rw [hin, hout]; decide)
    exact hfree m (hl.trans_le hlm) (hms.trans_lt hsr) hon
  · obtain ⟨m, hsm, hml, hon⟩ := @exists_outline polygon e s l hls (by rw [hin, hout]; decide)
    exact hfree m (hrs.trans_le hsm) (hml.trans_lt hl') hon

end

/-- The node of a closed polyline without bulges. -/
def outlineNode (id : String) (corners : List (Point ℝ)) (h : 2 ≤ corners.length)
    (bounds : Bounds ℝ) : SceneNode String ℝ (Geometry ℝ) where
  nodeId := id
  bounds := some bounds
  geometry := some (.polyline
    { vertices := corners.map fun p => ⟨p.1, p.2, 0⟩
      closed := true
      two_le := by simpa using h })

theorem straightClosedPolygon_outlineNode (id : String) {corners : List (Point ℝ)}
    (h : 2 ≤ corners.length) (bounds : Bounds ℝ) :
    straightClosedPolygon (outlineNode id corners h bounds).geometry = some corners := by
  simp [straightClosedPolygon, outlineNode, PolylineVertex.xy, Function.comp_def]

def arrowhead : List (Point ℝ) := [(0, 0), (4, 8), (8, 0), (4, 4)]

/-- A triangle with its corners in the arrowhead and an edge across the notch. -/
def acrossNotch : List (Point ℝ) := [(2, 3), (6, 3), (4, 6)]

noncomputable def arrowheadNode : SceneNode String ℝ (Geometry ℝ) :=
  outlineNode "nod_a" arrowhead (by simp [arrowhead])
    { minX := 0, minY := 0, maxX := 8, maxY := 8, ordered_x := by norm_num, ordered_y := by norm_num }

noncomputable def acrossNotchNode : SceneNode String ℝ (Geometry ℝ) :=
  outlineNode "nod_b" acrossNotch (by simp [acrossNotch])
    { minX := 2, minY := 3, maxX := 6, maxY := 6, ordered_x := by norm_num, ordered_y := by norm_num }

theorem arrowheadNode_polygon : straightClosedPolygon arrowheadNode.geometry = some arrowhead :=
  straightClosedPolygon_outlineNode _ _ _

theorem acrossNotchNode_polygon :
    straightClosedPolygon acrossNotchNode.geometry = some acrossNotch :=
  straightClosedPolygon_outlineNode _ _ _

theorem arrowhead_contains : contains arrowheadNode acrossNotchNode (1 / 10 ^ 6) = true := by
  refine contains_of_nested rfl rfl ?_ arrowheadNode_polygon acrossNotchNode_polygon ?_
  · norm_num [Bounds.containsBounds]
  · simp only [acrossNotch, List.forall_mem_cons, List.not_mem_nil, false_imp_iff, implies_true,
      and_true]
    norm_num [pointInPolygon, polygonStep, arrowhead]

/-- What two edges at a corner have in common is an end of both. -/
theorem ends_of_corner {a b c p : Point ℝ} (h : cross a b c ≠ 0) (hp : On (a, b) p)
    (hp' : On (b, c) p) : (p = a ∨ p = b) ∧ (p = b ∨ p = c) :=
  ⟨Or.inr (eq_corner h hp hp'), Or.inl (eq_corner h hp hp')⟩

theorem arrowhead_simple : SimplePolygon arrowhead := by
  refine ⟨by simp [arrowhead], by norm_num [arrowhead], ?_⟩
  have hapart : ∀ {e e' : Segment ℝ} {p : Point ℝ}, 0 < cross e.1 e.2 e'.1 * cross e.1 e.2 e'.2 →
      On e p → On e' p → (p = e.1 ∨ p = e.2) ∧ (p = e'.1 ∨ p = e'.2) := fun h hp hp' =>
    absurd ⟨_, hp, hp'⟩ (not_meet_of_side h)
  simp only [polygonEdges, arrowhead, List.tail_cons, List.take_succ_cons, List.take_zero,
    List.cons_append, List.nil_append, List.zip_cons_cons, List.zip_nil_right,
    List.pairwise_cons, List.forall_mem_cons, List.not_mem_nil, false_imp_iff, implies_true,
    and_true, List.Pairwise.nil]
  refine ⟨⟨fun p => ends_of_corner ?_, fun p => hapart ?_, fun p hp hp' => ?_⟩,
    ⟨fun p => ends_of_corner ?_, fun p => hapart ?_⟩, fun p => ends_of_corner ?_⟩
  · norm_num [cross]
  · norm_num [cross]
  · exact (ends_of_corner (by norm_num [cross]) hp' hp).symm
  · norm_num [cross]
  · norm_num [cross]
  · norm_num [cross]

theorem acrossNotch_simple : SimplePolygon acrossNotch := by
  refine ⟨by simp [acrossNotch], by norm_num [acrossNotch], ?_⟩
  simp only [polygonEdges, acrossNotch, List.tail_cons, List.take_succ_cons, List.take_zero,
    List.cons_append, List.nil_append, List.zip_cons_cons, List.zip_nil_right,
    List.pairwise_cons, List.forall_mem_cons, List.not_mem_nil, false_imp_iff, implies_true,
    and_true, List.Pairwise.nil]
  refine ⟨⟨fun p => ends_of_corner ?_, fun p hp hp' => ?_⟩, fun p => ends_of_corner ?_⟩
  · norm_num [cross]
  · exact (ends_of_corner (by norm_num [cross]) hp' hp).symm
  · norm_num [cross]

end AutocadMcp.Scene
