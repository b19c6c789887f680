import AutocadMcp.Lib.PlaneDistance

/-!
# Segments that cross in their interiors

Two segments with an inner point in common, neither of which ends on the line of the other,
have their ends on two sides of each other's lines. The cross product of a point is the length
of the segment times the distance of the point from its line.
-/

namespace AutocadMcp.Plane

variable {K : Type} [Field K] [LinearOrder K]

/-- The segments have an inner point in common. -/
def MeetInside (s s' : Segment K) : Prop :=
  ∃ r r' : K, (0 < r ∧ r < 1) ∧ (0 < r' ∧ r' < 1) ∧ pointAt s r = pointAt s' r'

/-- The point is farther than `t` from every point of the line of the segment. -/
def FarFrom (t : K) (s : Segment K) (p : Point K) : Prop :=
  ∀ r : K, t ^ 2 < distSq p (pointAt s r)

variable {s s' : Segment K} {t : K} {p : Point K}

theorem MeetInside.symm (h : MeetInside s s') : MeetInside s' s := by
  obtain ⟨r, r', hr, hr', hpoint⟩ := h
  exact ⟨r', r, hr', hr, hpoint.symm⟩

omit [LinearOrder K] in
theorem cross_pointAt_self (s : Segment K) (r : K) : cross s.1 s.2 (pointAt s r) = 0 := by
  simp only [cross, pointAt]
  ring

omit [LinearOrder K] in
/-- The ends of one segment balance where it meets the line of the other. -/
theorem cross_balance {r r' : K} (h : pointAt s r = pointAt s' r') :
    (1 - r') * cross s.1 s.2 s'.1 + r' * cross s.1 s.2 s'.2 = 0 := by
  rw [← cross_pointAt, ← h, cross_pointAt_self]

variable [IsStrictOrderedRing K]

theorem cross_sq (p : Point K) (hs : lengthSq s ≠ 0) :
    cross s.1 s.2 p ^ 2 = lengthSq s * distSq p (pointAt s (foot p s)) := by
  have hfoot : foot p s * lengthSq s =
      (p.1 - s.1.1) * (s.2.1 - s.1.1) + (p.2 - s.1.2) * (s.2.2 - s.1.2) :=
    div_mul_cancel₀ _ hs
  generalize foot p s = f at hfoot ⊢
  simp only [distSq, pointAt, lengthSq, cross] at hfoot ⊢
  linear_combination (-(f * ((s.2.1 - s.1.1) ^ 2 + (s.2.2 - s.1.2) ^ 2)) +
    ((p.1 - s.1.1) * (s.2.1 - s.1.1) + (p.2 - s.1.2) * (s.2.2 - s.1.2))) * hfoot

theorem lengthSq_nonneg (s : Segment K) : 0 ≤ lengthSq s := distSq_nonneg _ _

/-- A point far from the line has a large cross product, in proportion to the segment. -/
theorem FarFrom.lt_cross_sq (h : FarFrom t s p) (hs : lengthSq s ≠ 0) :
    t ^ 2 * lengthSq s < cross s.1 s.2 p ^ 2 := by
  rw [cross_sq p hs, mul_comm]
  have hpos : 0 < lengthSq s := lt_of_le_of_ne (lengthSq_nonneg s) hs.symm
  exact mul_lt_mul_of_pos_left (h _) hpos

theorem FarFrom.cross_ne_zero (h : FarFrom t s p) (hs : lengthSq s ≠ 0) :
    cross s.1 s.2 p ≠ 0 := by
  intro hzero
  have hlt := h.lt_cross_sq hs
  rw [hzero] at hlt
  have hnonneg : 0 ≤ t ^ 2 * lengthSq s := mul_nonneg (sq_nonneg t) (lengthSq_nonneg s)
  exact absurd hlt (by simpa using hnonneg)

theorem mul_neg_of_balance {a b r : K} (hr : 0 < r ∧ r < 1) (ha : a ≠ 0)
    (h : (1 - r) * a + r * b = 0) : a * b < 0 := by
  have hscaled : r * (a * b) = -((1 - r) * a ^ 2) := by linear_combination a * h
  have hneg : r * (a * b) < 0 := by
    rw [hscaled, neg_lt_zero]
    exact mul_pos (sub_pos.mpr hr.2) (by positivity)
  exact neg_of_mul_neg_right hneg hr.1.le

theorem crosses_of_meetInside (h : MeetInside s s') (hfirst : cross s.1 s.2 s'.1 ≠ 0)
    (hsecond : cross s'.1 s'.2 s.1 ≠ 0) : Crosses s s' := by
  obtain ⟨r, r', hr, hr', hmeet⟩ := h
  exact ⟨mul_neg_of_balance hr' hfirst (cross_balance hmeet),
    mul_neg_of_balance hr hsecond (cross_balance hmeet.symm)⟩

theorem meetInside_of_crosses (h : Crosses s s') : MeetInside s s' := by
  have hslant := slant_ne_zero_of_crosses h
  obtain ⟨hf, hs⟩ := (crosses_iff hslant).mp h
  exact ⟨_, _, hf, hs, pointAt_meet hslant⟩

/-- A segment with an end off a line that it meets inside has a length. -/
theorem lengthSq_ne_zero_of_far (hmeet : MeetInside s s') (hfar : FarFrom t s' s.1) :
    lengthSq s ≠ 0 := by
  intro hzero
  obtain ⟨r, r', -, -, hpoint⟩ := hmeet
  have hlt := hfar r'
  rw [← hpoint, pointAt_of_lengthSq_eq_zero hzero] at hlt
  have hself : distSq s.1 s.1 = 0 := by
    simp only [distSq]
    ring
  rw [hself] at hlt
  exact absurd hlt (not_lt.mpr (sq_nonneg t))

end AutocadMcp.Plane
