import AutocadMcp.Dimension.Audit
import AutocadMcp.Lib.PlaneDistance
import Mathlib.Analysis.SpecialFunctions.Trigonometric.Basic

/-!
# Detached references

`_point_on_segment` takes a segment as short as the tolerance for its start, and lets the
projection on a longer one run over its ends by the tolerance divided by the length. A point
beside an end is on the segment for it or not as the segment is long or short, and an arc is
the circle it lies on.
-/

namespace AutocadMcp.Dimension

open Plane

/-! ## Points and segments -/

section

variable {K : Type} [Field K] [LinearOrder K]

/-- How far a point is along a segment, in the segment's length. -/
def along (p : Point K) (s : Segment K) : K :=
  (p.1 - s.1.1) * (s.2.1 - s.1.1) + (p.2 - s.1.2) * (s.2.2 - s.1.2)

variable [Hypot K]

def segmentLength (s : Segment K) : K := pointDist s.1 s.2

/-- A short segment whose start is further off, or a longer one beyond the end of which the
point is by more than is allowed for. -/
def Overlooked (t : K) (p : Point K) (s : Segment K) : Prop :=
  segmentLength s ≤ t ∧ t < pointDist p s.1 ∨
    t < segmentLength s ∧ (along p s < -t ∨ segmentLength s * segmentLength s + t < along p s)

/-- The point is too far off, but its line is near and it is beyond an end by what is allowed. -/
def FarAccepted (t : K) (p : Point K) (s : Segment K) : Prop :=
  t < segmentDistance p s ∧ t < segmentLength s ∧ |cross s.1 s.2 p| ≤ t * segmentLength s ∧
    (-t ≤ along p s ∧ along p s < 0 ∨
      segmentLength s * segmentLength s < along p s ∧ along p s ≤ segmentLength s * segmentLength s + t)

variable [IsStrictOrderedRing K] {p : Point K} {s : Segment K} {t : K}

theorem segmentLength_sq (s : Segment K) : segmentLength s * segmentLength s = lengthSq s := by
  rw [segmentLength, pointDist_comm, ← sq, pointDist_sq, lengthSq]

omit [LinearOrder K] [Hypot K] [IsStrictOrderedRing K] in
theorem foot_mul_lengthSq (hs : lengthSq s ≠ 0) : foot p s * lengthSq s = along p s :=
  div_mul_cancel₀ _ hs

omit [Hypot K] in
/-- The squared distance from the line, times the squared length. -/
theorem distSq_foot (hs : lengthSq s ≠ 0) :
    distSq p (pointAt s (foot p s)) * lengthSq s = cross s.1 s.2 p ^ 2 := by
  have hfoot := foot_mul_lengthSq (p := p) hs
  have hstart := distSq_pointAt p hs 0
  rw [pointAt_zero] at hstart
  have hline : distSq p (pointAt s (foot p s)) * lengthSq s =
      distSq p s.1 * lengthSq s - (foot p s * lengthSq s) ^ 2 := by
    rw [hstart]
    ring
  rw [hline, hfoot]
  simp only [distSq, lengthSq, along, cross]
  ring

/-- A point whose foot is on the segment is as far from it as from its line. -/
theorem segmentDistance_le_of_on (ht : 0 < t) (hlong : t < segmentLength s) (h0 : 0 ≤ along p s)
    (h1 : along p s ≤ segmentLength s * segmentLength s) :
    segmentDistance p s ≤ t ↔ |cross s.1 s.2 p| ≤ t * segmentLength s := by
  have hlength : 0 < segmentLength s := ht.trans hlong
  have hpos : 0 < lengthSq s := segmentLength_sq s ▸ mul_pos hlength hlength
  rw [segmentLength_sq] at h1
  have hfoot := foot_mul_lengthSq (p := p) hpos.ne'
  have hon : nearest p s = foot p s := by
    refine nearest_of_foot_on hpos.ne' ?_ ?_
    · exact nonneg_of_mul_nonneg_left (hfoot ▸ h0) hpos
    · exact le_of_mul_le_mul_right (by rw [hfoot, one_mul]; exact h1) hpos
  have hreach : 0 ≤ t * segmentLength s := (mul_pos ht hlength).le
  rw [segmentDistance, hon, pointDist_le_iff ht.le, ← abs_of_nonneg hreach, ← sq_le_sq, mul_pow,
    sq (segmentLength s), segmentLength_sq, ← distSq_foot hpos.ne']
  exact (mul_le_mul_iff_left₀ hpos).symm

/-- A point near the segment is near its line. -/
theorem cross_le_of_near (ht : 0 < t) (hlong : t < segmentLength s)
    (h : segmentDistance p s ≤ t) : |cross s.1 s.2 p| ≤ t * segmentLength s := by
  have hlength : 0 < segmentLength s := ht.trans hlong
  have hpos : 0 < lengthSq s := segmentLength_sq s ▸ mul_pos hlength hlength
  have hreach : 0 ≤ t * segmentLength s := (mul_pos ht hlength).le
  rw [segmentDistance, pointDist_le_iff ht.le, distSq_pointAt p hpos.ne'] at h
  rw [← abs_of_nonneg hreach, ← sq_le_sq, mul_pow, sq (segmentLength s), segmentLength_sq,
    ← distSq_foot hpos.ne']
  refine mul_le_mul_of_nonneg_right ?_ hpos.le
  have := mul_nonneg hpos.le (sq_nonneg (nearest p s - foot p s))
  linarith

/-- What the code's test of a point against a segment comes to. -/
theorem pointOnSegment_iff {M : MathRuntime K} (hM : M.hypot = Hypot.hypot) (ht : 0 < t) :
    pointOnSegment M p s t = true ↔
      segmentDistance p s ≤ t ∧ ¬ Overlooked t p s ∨ FarAccepted t p s := by
  have hdist : ∀ q r : Point K, dist M q r = pointDist q r := fun q r => by
    rw [dist, hM, pointDist]
  unfold pointOnSegment
  dsimp only
  rw [hdist, ← segmentLength]
  split_ifs with hshort
  · rw [close, hdist, decide_eq_true_eq]
    constructor
    · intro hstart
      refine Or.inl ⟨(segmentDistance_le (on_start s)).trans hstart, ?_⟩
      rintro (⟨-, hfar⟩ | ⟨hlong, -⟩)
      · exact absurd hstart (not_le.mpr hfar)
      · exact absurd hshort (not_le.mpr hlong)
    · rintro (⟨-, hseen⟩ | ⟨-, hlong, -⟩)
      · by_contra hfar
        exact hseen (Or.inl ⟨hshort, not_le.mp hfar⟩)
      · exact absurd hshort (not_le.mpr hlong)
  · have hlong := not_le.mp hshort
    have hlength : 0 < segmentLength s := ht.trans hlong
    rw [Bool.and_eq_true, Bool.and_eq_true, decide_eq_true_eq, decide_eq_true_eq,
      decide_eq_true_eq, div_le_iff₀ hlength, ← along]
    constructor
    · rintro ⟨hcross, hlow, hhigh⟩
      have hseen : ¬ Overlooked t p s := by
        rintro (⟨hshort', -⟩ | ⟨-, hout | hout⟩)
        · exact hshort hshort'
        · exact absurd hlow (not_le.mpr hout)
        · exact absurd hhigh (not_le.mpr hout)
      by_cases hnear : segmentDistance p s ≤ t
      · exact Or.inl ⟨hnear, hseen⟩
      · refine Or.inr ⟨not_le.mp hnear, hlong, hcross, ?_⟩
        -- beside the segment itself its line would be too far off
        by_contra hon
        rw [not_or, not_and, not_and, not_lt] at hon
        by_cases hback : segmentLength s * segmentLength s < along p s
        · exact hon.2 hback hhigh
        · exact hnear ((segmentDistance_le_of_on ht hlong (hon.1 hlow) (not_lt.mp hback)).mpr hcross)
    · rintro (⟨hnear, hseen⟩ | ⟨-, -, hcross, hbeside⟩)
      · refine ⟨cross_le_of_near ht hlong hnear, ?_, ?_⟩
        · by_contra hout
          exact hseen (Or.inr ⟨hlong, Or.inl (not_le.mp hout)⟩)
        · by_contra hout
          exact hseen (Or.inr ⟨hlong, Or.inr (not_le.mp hout)⟩)
      · refine ⟨hcross, ?_⟩
        have hsq : 0 ≤ segmentLength s * segmentLength s := (mul_pos hlength hlength).le
        rcases hbeside with ⟨hlow, hhigh⟩ | ⟨hlow, hhigh⟩
        · exact ⟨hlow, by linarith⟩
        · exact ⟨by linarith, hhigh⟩

end

/-! ## Drawings -/

/-- Exact arithmetic on the reals, however numbers and strings are written and read. -/
noncomputable def realRuntime (general : ℝ → String) (float : String → Option ℝ)
    (repr : String → String) : MathRuntime ℝ where
  hypot := Hypot.hypot
  direction angle := (Real.cos (angle * (Real.pi / 180)), Real.sin (angle * (Real.pi / 180)))
  general := general
  float := float
  repr := repr

/-- `_arc_sweep`: the angle from the start to the end, up to 360 degrees. -/
noncomputable def arcSweep (startAngle endAngle : ℝ) : ℝ :=
  (endAngle - startAngle) - 360 * ⌊(endAngle - startAngle) / 360⌋

/-- The circle of a shape with its center, or the arc with its center. -/
def Shape.Round : Shape ℝ → Point ℝ → Prop
  | .circle center radius, q => pointDist q center = radius ∨ q = center
  | .arc center radius startAngle endAngle, q =>
      (0 ≤ radius ∧ ∃ angle, startAngle ≤ angle ∧ angle ≤ startAngle + arcSweep startAngle endAngle ∧
        q = (center.1 + radius * Real.cos (angle * (Real.pi / 180)),
          center.2 + radius * Real.sin (angle * (Real.pi / 180)))) ∨ q = center
  | _, _ => False

/-- The points that a reference may be attached to: the curve, and the center of a circle or an
arc. -/
def Shape.Marks (shape : Shape ℝ) (q : Point ℝ) : Prop :=
  shape.Round q ∨ ∃ s ∈ shape.lineSegments, On s q

/-- Everything drawn is further off. -/
def Far (t : ℝ) (geometry : List (GeometryEntity ℝ)) (p : Point ℝ) : Prop :=
  ∀ g ∈ geometry, ∀ q, g.shape.Marks q → t < pointDist p q

/-- Something is near and not overlooked. -/
def Seen (t : ℝ) (geometry : List (GeometryEntity ℝ)) (p : Point ℝ) : Prop :=
  ∃ g ∈ geometry, (∃ q, g.shape.Round q ∧ pointDist p q ≤ t) ∨
    ∃ s ∈ g.shape.lineSegments, segmentDistance p s ≤ t ∧ ¬ Overlooked t p s

/-- The circle of an arc is near, but neither the arc nor its center. -/
def OffArc (t : ℝ) (p : Point ℝ) : Shape ℝ → Prop
  | .arc center radius startAngle endAngle => |pointDist p center - radius| ≤ t ∧
      ∀ q, Shape.Round (.arc center radius startAngle endAngle) q → t < pointDist p q
  | _ => False

/-- Something that is too far off is taken to be near. -/
def Mistaken (t : ℝ) (geometry : List (GeometryEntity ℝ)) (p : Point ℝ) : Prop :=
  ∃ g ∈ geometry, (∃ s ∈ g.shape.lineSegments, FarAccepted t p s) ∨ OffArc t p g.shape

section

variable {general : ℝ → String} {float : String → Option ℝ} {repr : String → String}
  {geometry : List (GeometryEntity ℝ)} {t : ℝ} {p : Point ℝ}

theorem round_arc_near {center : Point ℝ} {radius startAngle endAngle : ℝ} {q : Point ℝ}
    (hq : Shape.Round (.arc center radius startAngle endAngle) q) (hnear : pointDist p q ≤ t) :
    pointDist p center ≤ t ∨ |pointDist p center - radius| ≤ t := by
  refine near_circle_iff.mpr ⟨q, ?_, hnear⟩
  rcases hq with ⟨hradius, angle, -, -, rfl⟩ | rfl
  · refine Or.inl (pointDist_eq_of_sq hradius ?_)
    have hone := Real.cos_sq_add_sin_sq (angle * (Real.pi / 180))
    simp only [distSq]
    linear_combination radius ^ 2 * hone
  · exact Or.inr rfl

/-- What the code's test of a point against a drawing comes to. -/
theorem pointOnGeometry_iff (ht : 0 < t) :
    pointOnGeometry (realRuntime general float repr) p geometry t = true ↔
      Seen t geometry p ∨ Mistaken t geometry p := by
  have hsegments : ∀ shape : Shape ℝ,
      (shape.lineSegments.any fun s => pointOnSegment (realRuntime general float repr) p s t) = true ↔
        (∃ s ∈ shape.lineSegments, segmentDistance p s ≤ t ∧ ¬ Overlooked t p s) ∨
          ∃ s ∈ shape.lineSegments, FarAccepted t p s := fun shape => by
    rw [List.any_eq_true, ← exists_or]
    refine exists_congr fun s => ?_
    rw [pointOnSegment_iff rfl ht, ← and_or_left]
  have hshape : ∀ shape : Shape ℝ, pointOnShape (realRuntime general float repr) p shape t = true ↔
      ((∃ q, shape.Round q ∧ pointDist p q ≤ t) ∨
        ∃ s ∈ shape.lineSegments, segmentDistance p s ≤ t ∧ ¬ Overlooked t p s) ∨
      ((∃ s ∈ shape.lineSegments, FarAccepted t p s) ∨ OffArc t p shape) := fun shape => by
    cases shape with
    | line start stop =>
        unfold pointOnShape
        rw [Bool.or_eq_true, hsegments]
        simp [Shape.Round, OffArc]
    | polyline points closed =>
        unfold pointOnShape
        rw [Bool.or_eq_true, hsegments]
        simp [Shape.Round, OffArc]
    | circle center radius =>
        unfold pointOnShape
        rw [Bool.or_eq_true, hsegments, Bool.or_eq_true, decide_eq_true_eq, decide_eq_true_eq]
        show _ ∨ (pointDist p center ≤ t ∨ |pointDist p center - radius| ≤ t) ↔ _
        rw [near_circle_iff]
        simp [Shape.Round, OffArc, Shape.lineSegments]
    | arc center radius startAngle endAngle =>
        unfold pointOnShape
        rw [Bool.or_eq_true, hsegments, Bool.or_eq_true, decide_eq_true_eq, decide_eq_true_eq]
        show _ ∨ (pointDist p center ≤ t ∨ |pointDist p center - radius| ≤ t) ↔ _
        simp only [Shape.lineSegments, List.not_mem_nil, false_and, exists_false, or_false,
          false_or]
        constructor
        · rintro (hcenter | hcircle)
          · exact Or.inl ⟨center, Or.inr rfl, hcenter⟩
          · by_cases hnear : ∃ q, Shape.Round (.arc center radius startAngle endAngle) q ∧
                pointDist p q ≤ t
            · exact Or.inl hnear
            · exact Or.inr ⟨hcircle, fun q hq => not_le.mp fun h => hnear ⟨q, hq, h⟩⟩
        · rintro (⟨q, hq, hnear⟩ | ⟨hcircle, -⟩)
          · exact round_arc_near hq hnear
          · exact Or.inr hcircle
  rw [pointOnGeometry, List.any_eq_true, Seen, Mistaken, ← exists_or]
  refine exists_congr fun g => ?_
  rw [hshape, and_or_left]

end

/-! ## The finding -/

def references {K : Type} (d : DimensionEntity K) : List (Point K) :=
  [d.defpoint2, d.defpoint3].filterMap id

/-- The audit reports a dimension as detached exactly when one of its reference points is further
than five tolerances from everything drawn. -/
def DetachedExact (M : MathRuntime ℝ) (geometry : List (GeometryEntity ℝ)) (tol : ℝ)
    (d : DimensionEntity ℝ) : Prop :=
  detachedReference M geometry tol d ≠ none ↔ ∃ p ∈ references d, Far (tol * 5) geometry p

theorem detachedReference_ne_none {M : MathRuntime ℝ} {geometry : List (GeometryEntity ℝ)}
    {tol : ℝ} {d : DimensionEntity ℝ} (hspan : dimensionInterval d tol ≠ none) :
    detachedReference M geometry tol d ≠ none ↔
      ∃ p ∈ references d, ¬ pointOnGeometry M p geometry (tol * 5) = true := by
  obtain ⟨interval, hinterval⟩ := Option.ne_none_iff_exists'.mp hspan
  unfold detachedReference
  rw [hinterval]
  dsimp only
  split_ifs with hpoints
  · simp only [ne_eq, reduceCtorEq, not_false_eq_true, true_iff]
    obtain ⟨p, hp⟩ := List.exists_mem_of_ne_nil _ hpoints
    obtain ⟨href, hoff⟩ := List.mem_filter.mp hp
    exact ⟨p, href, by simpa using hoff⟩
  · simp only [ne_eq, not_true_eq_false, false_iff, not_exists, not_and, not_not]
    intro p href
    have hnone := List.filter_eq_nil_iff.mp (not_not.mp hpoints) p href
    simpa using hnone

/-- Both references are seen, or taken to be, where both are near; and one of them is neither
where one is far. -/
theorem detachedExact_iff (general : ℝ → String) (float : String → Option ℝ)
    (repr : String → String) (geometry : List (GeometryEntity ℝ)) {tol : ℝ} (htol : 0 < tol)
    (d : DimensionEntity ℝ) (hspan : dimensionInterval d tol ≠ none) :
    DetachedExact (realRuntime general float repr) geometry tol d ↔
      ((∀ p ∈ references d, ¬ Far (tol * 5) geometry p) →
        ∀ p ∈ references d, Seen (tol * 5) geometry p ∨ Mistaken (tol * 5) geometry p) ∧
      ((∃ p ∈ references d, Far (tol * 5) geometry p) →
        ∃ p ∈ references d, ¬ Seen (tol * 5) geometry p ∧ ¬ Mistaken (tol * 5) geometry p) := by
  have ht : 0 < tol * 5 := by positivity
  rw [DetachedExact, detachedReference_ne_none hspan]
  simp only [pointOnGeometry_iff ht]
  constructor
  · intro h
    refine ⟨fun hnear p hp => ?_, fun hfar => ?_⟩
    · by_contra hoff
      obtain ⟨q, hq, hfar⟩ := h.mp ⟨p, hp, hoff⟩
      exact hnear q hq hfar
    · obtain ⟨p, hp, hoff⟩ := h.mpr hfar
      exact ⟨p, hp, not_or.mp hoff⟩
  · rintro ⟨hnear, hfar⟩
    constructor
    · rintro ⟨p, hp, hoff⟩
      by_contra hnone
      exact hoff (hnear (fun q hq hq' => hnone ⟨q, hq, hq'⟩) p hp)
    · intro h
      obtain ⟨p, hp, hseen, hmistaken⟩ := hfar h
      exact ⟨p, hp, not_or.mpr ⟨hseen, hmistaken⟩⟩

/-! ### A reference just past the end of a long line -/

def wire : List (GeometryEntity ℝ) := [⟨"1C", "0", .line (0, 0) (100, 0)⟩]

/-- A horizontal dimension that ends where the wire ends. -/
def wireDimension (left : ℝ) : DimensionEntity ℝ where
  handle := "2A"
  layer := "MCP-DIM"
  dimstyle := "Standard"
  dimtype := 0
  defpoint := some (left, -10)
  defpoint2 := some (left, 0)
  defpoint3 := some (100, 0)
  defpoint4 := none
  defpoint5 := none
  angle := 0
  text := "<>"
  textMidpoint := none
  measurement := some (100 - left)

theorem wireDimension_interval (left : ℝ) :
    dimensionInterval (wireDimension left) (1 / 5) ≠ none := by
  have hlevel : orientation (wireDimension left) (1 / 5) = some .horizontal := by
    show (if |(0 : ℝ) - 0| ≤ 1 / 5 then some Orientation.horizontal else _) = _
    exact if_pos (by norm_num)
  unfold dimensionInterval
  rw [hlevel]
  exact Option.some_ne_none _

theorem wire_long : (1 : ℝ) < segmentLength ((0, 0), (100, 0)) := by
  refine lt_of_not_ge fun h => ?_
  rw [segmentLength, pointDist_le_iff zero_le_one] at h
  norm_num [distSq] at h

theorem wire_along (x : ℝ) : along (x, 0) ((0, 0), (100, 0)) = x * 100 := by
  simp [along]

theorem reference_past_end : ¬ ∀ (general : ℝ → String) (float : String → Option ℝ)
    (repr : String → String),
    DetachedExact (realRuntime general float repr) wire (1 / 5) (wireDimension (-1 / 2)) := by
  intro h
  have hseen : ¬ pointOnGeometry (realRuntime (fun _ => "") (fun _ => none) id) (-1 / 2, 0) wire
      (1 / 5 * 5) = true := by
    rw [pointOnGeometry_iff (by norm_num)]
    rintro (⟨g, hg, hmark⟩ | ⟨g, hg, hmark⟩) <;> cases List.mem_singleton.mp hg
    · rcases hmark with ⟨q, hq, -⟩ | ⟨s, hs, -, hover⟩
      · exact hq
      · cases List.mem_singleton.mp hs
        refine hover (Or.inr ⟨by norm_num [wire_long], Or.inl ?_⟩)
        rw [wire_along]
        norm_num
    · rcases hmark with ⟨s, hs, -, -, -, hbeside⟩ | harc
      · cases List.mem_singleton.mp hs
        rw [wire_along] at hbeside
        have hpos : 0 ≤ segmentLength ((0, 0), ((100 : ℝ), (0 : ℝ))) := pointDist_nonneg _ _
        rcases hbeside with ⟨hlow, -⟩ | ⟨hlow, -⟩
        · norm_num at hlow
        · nlinarith
      · exact harc
  have hreported := (detachedReference_ne_none (wireDimension_interval (-1 / 2))).mpr
    ⟨(-1 / 2, 0), List.mem_cons_self, hseen⟩
  obtain ⟨p, hp, hfar⟩ := (h (fun _ => "") (fun _ => none) id).mp hreported
  rcases List.mem_pair.mp hp with rfl | rfl
  · have hstart := hfar _ List.mem_cons_self (0, 0)
      (Or.inr ⟨_, List.mem_singleton_self _, on_start _⟩)
    refine absurd hstart (not_lt.mpr ((pointDist_le_iff (by norm_num)).mpr ?_))
    norm_num [distSq]
  · have hstop := hfar _ List.mem_cons_self (100, 0)
      (Or.inr ⟨_, List.mem_singleton_self _, on_stop _⟩)
    rw [pointDist_self] at hstop
    norm_num at hstop

theorem wire_references_exact : DetachedExact (realRuntime (fun _ => "") (fun _ => none) id) wire
    (1 / 5) (wireDimension 0) := by
  have hon : ∀ p ∈ references (wireDimension 0), Seen (1 / 5 * 5) wire p := by
    intro p hp
    have hends : p = (0, 0) ∨ p = (100, 0) := List.mem_pair.mp hp
    have hsegment : On ((0, 0), (100, 0)) p := by
      rcases hends with rfl | rfl
      · exact on_start _
      · exact on_stop _
    refine ⟨_, List.mem_cons_self, Or.inr ⟨_, List.mem_singleton_self _, ?_, ?_⟩⟩
    · exact segmentDistance_le_iff.mpr ⟨p, hsegment, by rw [pointDist_self]; norm_num⟩
    · have hsq : segmentLength ((0, 0), ((100 : ℝ), (0 : ℝ))) *
          segmentLength ((0, 0), ((100 : ℝ), (0 : ℝ))) = 10000 := by
        rw [segmentLength_sq]
        norm_num [lengthSq, distSq]
      rintro (⟨hshort, -⟩ | ⟨-, hout⟩)
      · exact absurd hshort (not_le.mpr (by norm_num [wire_long]))
      · rw [hsq] at hout
        rcases hends with rfl | rfl <;> rw [wire_along] at hout <;> norm_num at hout
  refine (detachedExact_iff _ _ _ _ (by norm_num) _ (wireDimension_interval 0)).mpr
    ⟨fun _ p hp => Or.inl (hon p hp), ?_⟩
  rintro ⟨p, hp, hfar⟩
  obtain ⟨g, hg, ⟨q, hq, hnear⟩ | ⟨s, hs, hnear, -⟩⟩ := hon p hp
  · exact absurd hnear (not_le.mpr (hfar g hg q (Or.inl hq)))
  · obtain ⟨q, hq, hnear⟩ := segmentDistance_le_iff.mp hnear
    exact absurd hnear (not_le.mpr (hfar g hg q (Or.inr ⟨s, hs, hq⟩)))

end AutocadMcp.Dimension
