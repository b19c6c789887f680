import AutocadMcp.Scene.Relations

/-!
# What the tests of segments and circles find

The relation of two segments is sound where the two loose tests, the one for collinear
segments and the one for an end on a segment, accept no segments that are apart. The
relation of a segment and a circle is exact as far as the ends of the segment agree with
the foot of the perpendicular.
-/

namespace AutocadMcp.Scene

open Plane

/-! ## Two segments -/

section

variable {K : Type} [Field K] [LinearOrder K] [Hypot K]

/-- The tests that accept a contact without a crossing: the projections of segments that pass as
collinear overlap, up to the tolerance, or an end passes as a point of the other segment. -/
def acceptsContact (first second : Segment K) (tolerance : K) : Prop :=
  if collinear first second tolerance then -tolerance ≤ axisOverlap first second
  else pointOnSegment second.1 first tolerance ∨ pointOnSegment second.2 first tolerance ∨
    pointOnSegment first.1 second tolerance ∨ pointOnSegment first.2 second tolerance

variable {first second : Segment K} {tolerance : K}

/-- Each branch of `_segment_relation` finds a contact or a crossing. -/
theorem segmentRelation_ne_none_iff [IsStrictOrderedRing K] (htol : 0 < tolerance) :
    segmentRelation first second tolerance ≠ none ↔
      acceptsContact first second tolerance ∨
        ¬ collinear first second tolerance ∧ Crosses first second := by
  unfold segmentRelation acceptsContact Crosses
  by_cases hcollinear : collinear first second tolerance
  · rw [if_pos hcollinear, if_pos hcollinear]
    by_cases hoverlap : tolerance < axisOverlap first second
    · have htouch : -tolerance ≤ axisOverlap first second := by linarith
      simp [hoverlap, htouch]
    · by_cases htouch : -tolerance ≤ axisOverlap first second <;>
        simp [hoverlap, htouch, hcollinear]
  · rw [if_neg hcollinear, if_neg hcollinear, and_iff_right hcollinear]
    split
    · simp [*]
    · rename_i hcross
      split
      · simp [*]
      · rename_i hend
        simp [hcross, hend]

end

/-- A short segment above the middle of a long one. -/
noncomputable def shortSegment : Segment ℝ := ((5, 1), (5 + 1 / 10 ^ 7, 1))

def longSegment : Segment ℝ := ((0, 0), (10, 0))

/-- The cross products of the short segment are small whatever the distance. -/
theorem segmentRelation_short_long :
    segmentRelation shortSegment longSegment (1 / 10 ^ 6) = some .touch := by
  have hscale : 1 ≤ scaleOf shortSegment longSegment := le_max_right _ _
  have hcollinear : collinear shortSegment longSegment (1 / 10 ^ 6) := by
    unfold collinear
    generalize scaleOf shortSegment longSegment = scale at hscale ⊢
    norm_num [cross, shortSegment, longSegment, abs_le]
    linarith
  rw [segmentRelation, if_pos hcollinear]
  norm_num [axisOverlap, axisOf, shortSegment, longSegment]

section

variable {line : Segment ℝ} {circle : Point ℝ × ℝ} {tolerance : ℝ}

/-- The point is within the tolerance of the curve. -/
def OnCurve (circle : Point ℝ × ℝ) (tolerance : ℝ) (p : Point ℝ) : Prop :=
  |pointDist circle.1 p - circle.2| ≤ tolerance

/-- The distance from the center takes every value between two that it takes on a segment. -/
theorem exists_on_pointDist {c p q : Point ℝ} {d : ℝ} (hp : On line p) (hq : On line q)
    (hlow : pointDist c p ≤ d) (hhigh : d ≤ pointDist c q) : ∃ z, On line z ∧ pointDist c z = d := by
  obtain ⟨t, ht0, ht1, rfl⟩ := hp
  obtain ⟨u, hu0, hu1, rfl⟩ := hq
  have hcontinuous : Continuous fun r => pointDist c (pointAt line r) := by
    show Continuous fun r => √((c.1 - (pointAt line r).1) ^ 2 + (c.2 - (pointAt line r).2) ^ 2)
    unfold pointAt
    fun_prop
  obtain ⟨r, hr, hd⟩ := isPreconnected_Icc.intermediate_value ⟨ht0, ht1⟩ ⟨hu0, hu1⟩
    hcontinuous.continuousOn ⟨hlow, hhigh⟩
  exact ⟨_, on_pointAt hr.1 hr.2, hd⟩

/-- A segment comes to the curve where it has a point that is not too far out and a point that is
not too far in. -/
theorem exists_onCurve_iff (htol : 0 ≤ tolerance) : (∃ p, On line p ∧ OnCurve circle tolerance p) ↔
    (∃ p, On line p ∧ pointDist circle.1 p ≤ circle.2 + tolerance) ∧
      ∃ q, On line q ∧ circle.2 - tolerance ≤ pointDist circle.1 q := by
  constructor
  · rintro ⟨p, hp, hcurve⟩
    rw [OnCurve, abs_le] at hcurve
    exact ⟨⟨p, hp, by linarith⟩, p, hp, by linarith⟩
  · rintro ⟨⟨p, hp, hfar⟩, q, hq, hnear⟩
    by_cases hp' : circle.2 - tolerance ≤ pointDist circle.1 p
    · exact ⟨p, hp, abs_le.mpr ⟨by linarith, by linarith⟩⟩
    · by_cases hq' : pointDist circle.1 q ≤ circle.2 + tolerance
      · exact ⟨q, hq, abs_le.mpr ⟨by linarith, by linarith⟩⟩
      · -- one point is too far in and the other too far out
        obtain ⟨z, hz, hd⟩ := exists_on_pointDist hp hq (d := circle.2) (by linarith) (by linarith)
        refine ⟨z, hz, ?_⟩
        rw [OnCurve, hd, sub_self, abs_zero]
        exact htol

theorem lineCircleRelation_ne_none_iff (hline : lengthSq line ≠ 0) (htol : 0 ≤ tolerance) :
    lineCircleRelation line circle tolerance ≠ none ↔
      (0 ≤ foot circle.1 line ∧ foot circle.1 line ≤ 1) ∧
        pointDist circle.1 (pointAt line (foot circle.1 line)) ≤ circle.2 + tolerance := by
  unfold lineCircleRelation pointSegmentDistance
  rw [if_neg hline]
  generalize pointDist circle.1 (pointAt line (foot circle.1 line)) = d
  generalize foot circle.1 line = parameter
  dsimp only
  split
  · rename_i hoff
    have : ¬ (0 ≤ parameter ∧ parameter ≤ 1) := by
      rintro ⟨h0, h1⟩
      rcases hoff with h | h <;> linarith
    simp [this]
  · rename_i hon
    rw [not_or, not_lt, not_lt] at hon
    rw [and_iff_right hon]
    split
    · rename_i htouch
      rw [abs_le] at htouch
      exact iff_of_true (by simp) (by linarith)
    · rename_i htouch
      rw [abs_le, not_and_or, not_le, not_le] at htouch
      split
      · exact iff_of_true (by simp) (by linarith)
      · refine iff_of_false (by simp) ?_
        rcases htouch with h | h <;> linarith

end

/-- A diameter that ends well inside its circle. -/
def innerSegment : Segment ℝ := ((-1, 0), (1, 0))

end AutocadMcp.Scene
